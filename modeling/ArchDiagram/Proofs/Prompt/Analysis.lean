import ArchDiagram.Proofs.Prompt.Collection
import ArchDiagram.Proofs.Prompt.Mention
import ArchDiagram.Prompt.Analysis

namespace ArchDiagram.Prompt

variable {α : Type} [Scalar α]

section Relationships

variable {lower : List Char} {entities : List Entity} {one other : Mention} {r : Relationship α}

theorem mem_ids_of_idOf? {name id : String} (h : idOf? entities name = some id) :
    id ∈ entities.map (·.id) := by
  obtain ⟨e, he, rfl⟩ := Option.map_eq_some_iff.mp h
  exact List.mem_map_of_mem (List.mem_of_find?_eq_some he)

theorem mem_of_relationBetween? {between : List Char} {term : String × RelationKind}
    (h : relationBetween? between = some term) : term ∈ relationTerms := by
  rw [relationBetween?] at h
  split_ifs at h
  exact List.mem_of_find?_eq_some h

/-- A relationship joins two components and has a phrase of the table. -/
structure Relationship.Sound (entities : List Entity) (r : Relationship α) : Prop where
  source : r.source ∈ entities.map (·.id)
  target : r.target ∈ entities.map (·.id)
  apart : r.source ≠ r.target
  label : r.label ∈ relationTerms.map (·.1)

/-- What is read between two mentions makes a relationship when both have components, and not the
same one. -/
theorem relate?_eq_some_iff : relate? lower entities one other = some r ↔
    relationBetween? (Text.slice lower one.stop other.start) = some (r.label, r.kind) ∧
      idOf? entities one.name = some r.source ∧ idOf? entities other.name = some r.target ∧
      r.source ≠ r.target ∧ r.strength = r.kind.strength := by
  simp only [relate?, Option.bind_eq_bind, Option.bind_eq_some_iff]
  constructor
  · rintro ⟨⟨label, kind⟩, hterm, source, hsource, target, htarget, hr⟩
    split_ifs at hr with hne
    obtain rfl := Option.some.inj hr
    exact ⟨hterm, hsource, htarget, hne, rfl⟩
  · rintro ⟨hterm, hsource, htarget, hne, hstrength⟩
    refine ⟨(r.label, r.kind), hterm, r.source, hsource, r.target, htarget, ?_⟩
    rw [if_neg hne, ← hstrength]

theorem sound_relate? (h : relate? lower entities one other = some r) : r.Sound entities := by
  obtain ⟨hterm, hsource, htarget, hne, -⟩ := relate?_eq_some_iff.mp h
  exact ⟨mem_ids_of_idOf? hsource, mem_ids_of_idOf? htarget, hne,
    List.mem_map_of_mem (mem_of_relationBetween? hterm)⟩

theorem sound_relationships {mentions : List Mention}
    (h : r ∈ relationships lower mentions entities) :
    r.Sound entities := by
  obtain ⟨pair, -, hr⟩ := List.mem_filterMap.mp ((settled_sublist Relationship.sameAs _).subset h)
  exact sound_relate? hr

end Relationships

/-- What a description may be read as: names are plain and not longer than a limit. -/
structure Analysis.Sound (limit : Nat) (a : Analysis α) : Prop where
  collected : Collected a.entities
  names : ∀ e ∈ a.entities, PlainName limit e.name
  related : ∀ r ∈ a.relationships, r.Sound a.entities

/-- The longest name that a description of a length can give to a component. -/
def nameLimit (length : Nat) : Nat := 8 * length + 40

theorem sound_analyze (prompt : String) :
    (analyze prompt : Analysis α).Sound (nameLimit prompt.toList.length) := by
  refine ⟨collected_entities _, fun e he => ?_, fun r hr => sound_relationships hr⟩
  obtain ⟨m, hm, hname⟩ := List.mem_map.mp (mem_names_entities he)
  obtain ⟨hchars, hshort⟩ := plainName_mention hm
  rw [← hname]
  have hlower := Text.length_lowerAfter [] prompt.toList
  refine ⟨hchars, Nat.le_trans hshort ?_⟩
  change 4 * ((Text.lowerAfter [] prompt.toList).length + 10) ≤ 8 * prompt.toList.length + 40
  omega

end ArchDiagram.Prompt
