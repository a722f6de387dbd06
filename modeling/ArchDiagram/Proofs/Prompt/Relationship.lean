import Mathlib.Data.List.Nodup
import ArchDiagram.Proofs.Prompt.Analysis
import ArchDiagram.Proofs.Prompt.LongestMatch

namespace ArchDiagram.Prompt

open Text (Cut OccursAt IsRigid)

variable {α : Type}

/-- The first phrase of the table that occurs word-bounded in a text, and its kind. -/
def IsFirstTerm (between : List Char) (label : String) (kind : RelationKind) : Prop :=
  ∃ before after, relationTerms = before ++ (label, kind) :: after ∧
    (∃ place, OccursAt between label.toList place) ∧
    ∀ term ∈ before, ¬∃ place, OccursAt between term.1.toList place

/-- A component that is kept has this name and this id. -/
def IsKept (lower : List Char) (name id : String) : Prop :=
  ∃ e ∈ entities (mentions lower), e.name = name ∧ e.id = id

/-- What the text between two mentions says of their components: no thought ends there, and the
label is the first phrase that occurs. -/
structure Joins [Scalar α] (lower : List Char) (one other : Mention) (r : Relationship α) :
    Prop where
  between : ∃ before inside after, Cut lower one.stop other.start before inside after ∧
    (∀ c ∈ inside, c ∉ ['.', ';', '!', '?', '\n']) ∧ IsFirstTerm inside r.label r.kind
  source : IsKept lower one.name r.source
  target : IsKept lower other.name r.target
  apart : r.source ≠ r.target
  strength : r.strength = r.kind.strength

/-- The mention at a place of the list and the one after it give a relationship. -/
def Gives [Scalar α] (lower : List Char) (i : Nat) (r : Relationship α) : Prop :=
  ∃ one other, (mentions lower)[i]? = some one ∧ (mentions lower)[i + 1]? = some other ∧
  Joins lower one other r

/-- What no two relationships share. -/
def Relationship.key (r : Relationship α) : String × String × RelationKind :=
  (r.source, r.target, r.kind)

section Lookup

/-- No phrase of the table is empty, and none overlaps itself behind a space. -/
theorem rigid_relationTerms :
    ∀ term ∈ relationTerms, IsRigid term.1.toList ∧ term.1.toList ≠ [] := by
  decide +kernel

theorem any_isStop_iff {between : List Char} :
    between.any isStop = false ↔ ∀ c ∈ between, c ∉ ['.', ';', '!', '?', '\n'] := by
  simp only [List.any_eq_false, isStop, List.contains_iff_mem]

theorem relationBetween?_eq_some_iff {between : List Char} {label : String} {kind : RelationKind} :
    relationBetween? between = some (label, kind) ↔
      (∀ c ∈ between, c ∉ ['.', ';', '!', '?', '\n']) ∧ IsFirstTerm between label kind := by
  have hoccurs : ∀ term ∈ relationTerms, Text.hasPhrase between term.1.toList = true ↔
      ∃ place, OccursAt between term.1.toList place := by
    intro term hterm
    exact Text.hasPhrase_iff (rigid_relationTerms term hterm).1 (rigid_relationTerms term hterm).2
  rw [relationBetween?, ← any_isStop_iff]
  cases hstop : between.any isStop with
  | true => simp
  | false =>
    rw [if_neg Bool.false_ne_true, List.find?_eq_some_iff_append, IsFirstTerm]
    simp only [Bool.not_eq_true', ← Bool.not_eq_true, true_and]
    constructor
    · rintro ⟨hlabel, before, after, htable, hearlier⟩
      refine ⟨before, after, htable, (hoccurs (label, kind) (by simp [htable])).mp hlabel,
        fun term hterm => ?_⟩
      rw [← hoccurs term (by simp [htable, hterm])]
      exact hearlier term hterm
    · rintro ⟨before, after, htable, hlabel, hearlier⟩
      refine ⟨(hoccurs (label, kind) (by simp [htable])).mpr hlabel, before, after, htable,
        fun term hterm => ?_⟩
      rw [hoccurs term (by simp [htable, hterm])]
      exact hearlier term hterm

theorem idOf?_eq_some_iff {found : List Entity} (h : (found.map (·.name)).Nodup)
    {name id : String} :
    idOf? found name = some id ↔ ∃ e ∈ found, e.name = name ∧ e.id = id := by
  rw [idOf?, Option.map_eq_some_iff]
  constructor
  · rintro ⟨e, he, rfl⟩
    exact ⟨e, List.mem_of_find?_eq_some he, by simpa using List.find?_some he, rfl⟩
  · rintro ⟨e, he, rfl, rfl⟩
    obtain ⟨first, hfirst⟩ : ∃ first, found.find? (·.name == e.name) = some first :=
      Option.isSome_iff_exists.mp (List.find?_isSome.mpr ⟨e, he, beq_self_eq_true _⟩)
    have hname : first.name = e.name := by simpa using List.find?_some hfirst
    obtain rfl := List.inj_on_of_nodup_map h (List.mem_of_find?_eq_some hfirst) he hname
    exact ⟨first, hfirst, rfl⟩

end Lookup

section Pairs

variable [Scalar α] {lower : List Char} {one other : Mention} {r : Relationship α}

/-- The text between two mentions that follow each other is looked at, and nothing else. -/
theorem relate?_eq_some_iff_joins (h : (one, other) ∈ (mentions lower).zip (mentions lower).tail) :
    relate? lower (entities (mentions lower)) one other = some r ↔ Joins lower one other r := by
  have hid {name id : String} : idOf? (entities (mentions lower)) name = some id ↔
      IsKept lower name id :=
    idOf?_eq_some_iff (nodup_names _)
  obtain ⟨before, inside, after, hcut⟩ := (stretch_between_mentions h).exists_cut
  rw [relate?_eq_some_iff, hcut.slice_eq, relationBetween?_eq_some_iff, hid, hid]
  constructor
  · rintro ⟨hterm, hsource, htarget, hne, hstrength⟩
    exact ⟨⟨before, inside, after, hcut, hterm⟩, hsource, htarget, hne, hstrength⟩
  · rintro ⟨⟨before', inside', after', hcut', hterm⟩, hsource, htarget, hne, hstrength⟩
    have hinside : inside' = inside := hcut'.slice_eq.symm.trans hcut.slice_eq
    exact ⟨hinside ▸ hterm, hsource, htarget, hne, hstrength⟩

/-- The relationships that pairs give, each with the place of its pair. -/
def given (α : Type) [Scalar α] (lower : List Char) : List (Nat × Relationship α) :=
  ((mentions lower).zip (mentions lower).tail).zipIdx.filterMap fun pair =>
    (relate? lower (entities (mentions lower)) pair.1.1 pair.1.2).map (pair.2, ·)

theorem mem_given_iff {i : Nat} : (i, r) ∈ given α lower ↔ Gives lower i r := by
  have hpair {one other : Mention} :
      ((one, other), i) ∈ ((mentions lower).zip (mentions lower).tail).zipIdx ↔
      (mentions lower)[i]? = some one ∧ (mentions lower)[i + 1]? = some other := by
    rw [List.mk_mem_zipIdx_iff_getElem?, List.getElem?_zip_eq_some, List.getElem?_tail]
  have hneighbors {one other : Mention}
    (h : ((one, other), i) ∈ ((mentions lower).zip (mentions lower).tail).zipIdx) :
      (one, other) ∈ (mentions lower).zip (mentions lower).tail :=
    List.mem_of_getElem? (List.mk_mem_zipIdx_iff_getElem?.mp h)
  rw [given, List.mem_filterMap]
  constructor
  · rintro ⟨⟨⟨one, other⟩, k⟩, hk, hr⟩
    obtain ⟨r', hr', heq⟩ := Option.map_eq_some_iff.mp hr
    obtain ⟨rfl, rfl⟩ := Prod.mk.inj heq
    exact ⟨one, other, (hpair.mp hk).1, (hpair.mp hk).2,
      (relate?_eq_some_iff_joins (hneighbors hk)).mp hr'⟩
  · rintro ⟨one, other, hone, hother, hjoins⟩
    have hk := hpair.mpr ⟨hone, hother⟩
    exact ⟨((one, other), i),
      hk, by rw [(relate?_eq_some_iff_joins (hneighbors hk)).mpr hjoins, Option.map_some]⟩

/-- Pairs are read in the order of the text. -/
theorem pairwise_given (lower : List Char) : (given α lower).Pairwise fun a b => a.1 < b.1 := by
  have hplaces : (((mentions lower).zip (mentions lower).tail).zipIdx).Pairwise
      fun a b => a.2 < b.2 := by
    rw [← List.pairwise_map (f := Prod.snd), List.zipIdx_map_snd]
    exact List.pairwise_lt_range'
  rw [given, List.pairwise_filterMap]
  refine hplaces.imp fun {a b} hlt x hx y hy => ?_
  obtain ⟨-, -, rfl⟩ := Option.map_eq_some_iff.mp hx
  obtain ⟨-, -, rfl⟩ := Option.map_eq_some_iff.mp hy
  exact hlt

omit [Scalar α] in
theorem sameAs_iff {a b : Relationship α} : a.sameAs b = true ↔ a.key = b.key := by
  simp only [Relationship.sameAs, Relationship.key, Bool.and_eq_true, beq_iff_eq, Prod.mk.injEq,
    and_assoc]

/-- The relationships that are kept, each with the place of its pair. -/
def firstGiven (α : Type) [Scalar α] (lower : List Char) : List (Nat × Relationship α) :=
  settled (fun a b => a.2.sameAs b.2) (given α lower)

theorem map_firstGiven (lower : List Char) :
    (firstGiven α lower).map Prod.snd =
      relationships lower (mentions lower) (entities (mentions lower)) := by
  have hpairs : (given α lower).map Prod.snd =
      ((mentions lower).zip (mentions lower).tail).filterMap fun pair =>
      relate? lower (entities (mentions lower)) pair.1 pair.2 := by
    rw [given, List.map_filterMap]
    simp only [Option.map_map, Function.comp_def, Option.map_id']
    conv_rhs => rw [← List.zipIdx_map_fst 0 ((mentions lower).zip (mentions lower).tail),
      List.filterMap_map]
    rfl
  rw [firstGiven, map_settled Relationship.sameAs Prod.snd, hpairs]
  rfl

/-- No two relationships that are kept share their key. -/
theorem nodup_keys (lower : List Char) : ((firstGiven α lower).map fun a => a.2.key).Nodup :=
  List.pairwise_map.mpr
    ((settled_apart _ _).imp fun {a b} h heq => by simp [sameAs_iff.mpr heq.symm] at h)

/-- Of the pairs that join the same components in the same way an early one is kept. -/
theorem exists_firstGiven {i : Nat} (h : Gives lower i r) :
    ∃ a ∈ firstGiven α lower, a.1 ≤ i ∧ a.2.key = r.key := by
  obtain ⟨front, back, hsplit⟩ := List.append_of_mem (mem_given_iff.mpr h)
  rw [firstGiven, hsplit]
  rcases mem_settled_or_clash _ front back (i, r) with hin | ⟨a, ha, hsame⟩
  · exact ⟨(i, r), hin, Nat.le_refl i, rfl⟩
  · have hbefore := pairwise_given (α := α) lower
    rw [hsplit, List.pairwise_append] at hbefore
    have hlt := hbefore.2.2 a ((settled_sublist _ front).subset ha) (i, r) List.mem_cons_self
    exact ⟨a, (settled_grows _ front _).subset ha, Nat.le_of_lt hlt, (sameAs_iff.mp hsame).symm⟩

/-- What is kept is the first of its key. -/
theorem key_ne_of_lt {a : Nat × Relationship α} (ha : a ∈ firstGiven α lower) {j : Nat}
    (hj : j < a.1) (h : Gives lower j r) : r.key ≠ a.2.key := by
  intro heq
  obtain ⟨b, hb, hle, hkey⟩ := exists_firstGiven h
  have hsame : b = a := List.inj_on_of_nodup_map (nodup_keys lower) hb ha (hkey.trans heq)
  rw [hsame] at hle
  omega

end Pairs

/-- The relationships of a text come from pairs of mentions that follow each other. They stand in
the order of the first pair that gives them, with the label and the strength of that pair, and every
pair that gives one is there under its key. No key comes twice, and a relationship joins two
components that are kept. -/
theorem relationships_of_neighbors [Scalar α] (lower : List Char) :
    let found : List (Relationship α) :=
      relationships lower (mentions lower) (entities (mentions lower))
    (∃ placed : List (Nat × Relationship α), placed.map Prod.snd = found ∧
      (placed.Pairwise fun a b => a.1 < b.1) ∧
      ∀ a ∈ placed, Gives lower a.1 a.2 ∧
        ∀ j, j < a.1 → ∀ r : Relationship α, Gives lower j r → r.key ≠ a.2.key) ∧
    (∀ (i : Nat) (r : Relationship α), Gives lower i r → r.key ∈ found.map Relationship.key) ∧
    (found.map Relationship.key).Nodup ∧
    ∀ r ∈ found, r.source ∈ (entities (mentions lower)).map (·.id) ∧
      r.target ∈ (entities (mentions lower)).map (·.id) := by
  intro found
  have hfound : (firstGiven α lower).map Prod.snd = found := map_firstGiven lower
  have hgives : ∀ a ∈ firstGiven α lower, Gives lower a.1 a.2 := fun a ha =>
    mem_given_iff.mp ((settled_sublist _ _).subset ha)
  refine ⟨⟨firstGiven α lower, hfound,
    (pairwise_given lower).sublist (settled_sublist _ _), fun a ha => ?_⟩,
    fun i r h => ?_, ?_, fun r hr => ?_⟩
  · exact ⟨hgives a ha, fun j hj r => key_ne_of_lt ha hj⟩
  · obtain ⟨a, ha, -, hkey⟩ := exists_firstGiven h
    rw [← hfound, List.map_map]
    exact List.mem_map.mpr ⟨a, ha, hkey⟩
  · rw [← hfound, List.map_map]
    exact nodup_keys lower
  · rw [← hfound] at hr
    obtain ⟨a, ha, rfl⟩ := List.mem_map.mp hr
    obtain ⟨one, other, -, -, hjoins⟩ := hgives a ha
    obtain ⟨source, hsource, -, hid⟩ := hjoins.source
    obtain ⟨target, htarget, -, hid'⟩ := hjoins.target
    exact ⟨hid ▸ List.mem_map_of_mem hsource, hid' ▸ List.mem_map_of_mem htarget⟩

end ArchDiagram.Prompt
