import Mathlib
import ArchDiagram.Json.Basic

namespace ArchDiagram.Json

variable {α β γ : Type}

section Lookup

variable {fields given : List (String × β)} {name : String} {value : β}

/-- A name that occurs once is looked up exactly where it occurs. -/
theorem lookup_eq_some_iff_mem (h : (fields.map (·.1)).Nodup) :
    fields.lookup name = some value ↔ (name, value) ∈ fields := by
  induction fields with
  | nil => simp
  | cons field rest ih =>
    obtain ⟨key, first⟩ := field
    obtain ⟨hfresh, hrest⟩ := List.nodup_cons.mp h
    rw [List.lookup_cons]
    by_cases hname : name = key
    · subst hname
      have habsent : (name, value) ∉ rest := fun hm => hfresh (List.mem_map.mpr ⟨_, hm, rfl⟩)
      simp [habsent, eq_comm]
    · have hne : (name == key) = false := beq_eq_false_iff_ne.mpr hname
      simp [hne, hname, ih hrest]

theorem lookup_perm (hp : given.Perm fields) (h : (fields.map (·.1)).Nodup) (name : String) :
    given.lookup name = fields.lookup name := by
  have hgiven : (given.map (·.1)).Nodup := (hp.map (·.1)).nodup_iff.mpr h
  ext value
  rw [lookup_eq_some_iff_mem hgiven, lookup_eq_some_iff_mem h, hp.mem_iff]

theorem lookup_eq_none_of_notMem (h : name ∉ fields.map (·.1)) : fields.lookup name = none := by
  rw [List.lookup_eq_none_iff]
  intro field hm
  have hne : field.1 ≠ name := fun he => h (he ▸ List.mem_map_of_mem hm)
  simpa using hne.symm

end Lookup

section Present

variable {template : List (String × Option (Json α))} {names : List String}

def present (template : List (String × Option (Json α))) : List (String × Json α) :=
  template.filterMap fun field => field.2.map (field.1, ·)

theorem keys_present_sublist (template : List (String × Option (Json α))) :
    ((present template).map (·.1)).Sublist (template.map (·.1)) := by
  induction template with
  | nil => exact .slnil
  | cons field rest ih =>
    obtain ⟨name, _ | value⟩ := field
    · exact ih.cons name
    · exact ih.cons_cons name

/-- The fields of a record are found again, those without a value left out. -/
theorem record_present (hnames : template.map (·.1) = names) (h : names.Nodup) :
    (obj (present template)).record names = some (present template) := by
  have hsub := keys_present_sublist template
  rw [hnames] at hsub
  have hknown : (present template).filter (fun field => names.contains field.1) =
      present template := by
    rw [List.filter_eq_self]
    intro field hm
    exact List.elem_eq_true_of_mem (hsub.subset (List.mem_map_of_mem hm))
  rw [record, hknown, if_pos (hsub.nodup h)]

theorem lookup_present (h : (template.map (·.1)).Nodup) (name : String) :
    (present template).lookup name = (template.lookup name).join := by
  induction template with
  | nil => rfl
  | cons field rest ih =>
    obtain ⟨key, content⟩ := field
    obtain ⟨hfresh, hrest⟩ := List.nodup_cons.mp h
    have habsent : (present rest).lookup key = none :=
      lookup_eq_none_of_notMem fun hm => hfresh ((keys_present_sublist rest).subset hm)
    rw [List.lookup_cons]
    cases content with
    | none =>
      change (present rest).lookup name = _
      by_cases hname : name = key
      · subst hname
        simp [habsent]
      · simp [beq_eq_false_iff_ne.mpr hname, ih hrest]
    | some value =>
      change ((key, value) :: present rest).lookup name = _
      rw [List.lookup_cons]
      by_cases hname : name = key
      · simp [hname]
      · simp [beq_eq_false_iff_ne.mpr hname, ih hrest]

/-- A record is read with all of its fields. -/
theorem record_template (template : List (String × Option (Json α))) (names : List String)
    (hnames : template.map (·.1) = names) (h : names.Nodup) :
    ∃ fields, (obj (present template)).record names = some fields ∧
      ∀ name, fields.lookup name = (template.lookup name).join :=
  ⟨present template, record_present hnames h, lookup_present (hnames ▸ h)⟩

end Present

section Restated

variable {names : List String} {nested : List (String × (Json α → Json α → Prop))} {v w : Json α}

/-- How a field may be restated: as the nested record that it is, or not at all. -/
def agreement (nested : List (String × (Json α → Json α → Prop))) (name : String) :
    Json α → Json α → Prop :=
  (nested.lookup name).getD (· = ·)

/-- Two fields have one name, and the value of the second one restates that of the first. -/
def Agrees (nested : List (String × (Json α → Json α → Prop))) (f g : String × Json α) : Prop :=
  f.1 = g.1 ∧ agreement nested f.1 f.2 g.2

/-- An object gives the fields of another one in any order, and beside them any fields that the
record does not know. -/
inductive Restated (names : List String) (nested : List (String × (Json α → Json α → Prop))) :
    Json α → Json α → Prop
  | intro {fields kept added given : List (String × Json α)}
      (same : List.Forall₂ (Agrees nested) fields kept)
      (unknown : ∀ field ∈ added, field.1 ∉ names)
      (order : given.Perm (kept ++ added)) : Restated names nested (.obj fields) (.obj given)

/-- A list gives the values of another one, each of them restated. -/
inductive Each (item : Json α → Json α → Prop) : Json α → Json α → Prop
  | intro {before after : List (Json α)} (same : List.Forall₂ item before after) :
      Each item (.arr before) (.arr after)

variable {fields kept : List (String × Json α)}

theorem keys_of_agrees (h : List.Forall₂ (Agrees nested) fields kept) :
    fields.map (·.1) = kept.map (·.1) := by
  induction h with
  | nil => rfl
  | cons hfirst _ ih => rw [List.map_cons, List.map_cons, hfirst.1, ih]

theorem lookup_of_agrees (h : List.Forall₂ (Agrees nested) fields kept) (name : String) :
    Option.Rel (agreement nested name) (fields.lookup name) (kept.lookup name) := by
  induction h with
  | nil => exact .none
  | @cons f g _ _ hfirst _ ih =>
    obtain ⟨key, value⟩ := f
    obtain ⟨key', value'⟩ := g
    obtain ⟨rfl, hvalue⟩ := hfirst
    rw [List.lookup_cons, List.lookup_cons]
    by_cases hname : name = key
    · subst hname
      simpa using Option.Rel.some hvalue
    · simpa [beq_eq_false_iff_ne.mpr hname] using ih

/-- A restated object is read if the object is, and each field is the same or restated. -/
theorem Restated.record (h : Restated names nested v w) :
    Option.Rel
      (fun known known' => ∀ name,
        Option.Rel (agreement nested name) (known.lookup name) (known'.lookup name))
      (v.record names) (w.record names) := by
  obtain @⟨fields, kept, added, given, same, unknown, order⟩ := h
  let isKnown : String × Json α → Bool := fun field => names.contains field.1
  have hknown : List.Forall₂ (Agrees nested) (fields.filter isKnown) (kept.filter isKnown) := by
    refine List.rel_filter (fun f g hfg => ?_) same
    simp only [isKnown, hfg.1]
  have hadded : added.filter isKnown = [] := by
    rw [List.filter_eq_nil_iff]
    intro field hm
    simpa [isKnown] using unknown field hm
  have hgiven : (given.filter isKnown).Perm (kept.filter isKnown) := by
    have hfilter := order.filter isKnown
    rwa [List.filter_append, hadded, List.append_nil] at hfilter
  have hkeys : ((given.filter isKnown).map (·.1)).Nodup ↔
      ((fields.filter isKnown).map (·.1)).Nodup := by
    rw [keys_of_agrees hknown]
    exact (hgiven.map (·.1)).nodup_iff
  change Option.Rel _
    (if ((fields.filter isKnown).map (·.1)).Nodup then some (fields.filter isKnown) else none)
    (if ((given.filter isKnown).map (·.1)).Nodup then some (given.filter isKnown) else none)
  by_cases hn : ((fields.filter isKnown).map (·.1)).Nodup
  · rw [if_pos hn, if_pos (hkeys.mpr hn)]
    refine .some fun name => ?_
    rw [lookup_perm hgiven (keys_of_agrees hknown ▸ hn)]
    exact lookup_of_agrees hknown name
  · rw [if_neg hn, if_neg fun hn' => hn (hkeys.mp hn')]
    exact .none

end Restated

section Reading

variable {nested : List (String × (Json α → Json α → Prop))}
  {fields given : List (String × Json α)} {name : String}

theorem bind_of_rel {r : β → β → Prop} {a b : Option β} {read : β → Option γ} (h : Option.Rel r a b)
    (hread : ∀ x y, r x y → read y = read x) : b.bind read = a.bind read := by
  cases h with
  | none => rfl
  | some hxy => exact hread _ _ hxy

theorem required_of_rel {r : Json α → Json α → Prop} {read : Json α → Option β}
    (h : Option.Rel r (fields.lookup name) (given.lookup name))
    (hread : ∀ v w, r v w → read w = read v) :
    required given name read = required fields name read := bind_of_rel h hread

theorem optional_of_rel {r : Json α → Json α → Prop} {read : Json α → Option β} (absent : β)
    (h : Option.Rel r (fields.lookup name) (given.lookup name))
    (hread : ∀ v w, r v w → read w = read v) :
    Json.optional given name absent read = Json.optional fields name absent read := by
  rw [Json.optional, Json.optional]
  generalize fields.lookup name = a at h
  generalize given.lookup name = b at h
  cases h with
  | none => rfl
  | some hvw => exact hread _ _ hvw

/-- A field that is no record is the same in both objects. -/
theorem lookup_of_agreement
    (h : ∀ name, Option.Rel (agreement nested name) (fields.lookup name) (given.lookup name))
    (name : String) (hplain : nested.lookup name = none) :
    given.lookup name = fields.lookup name := by
  have hname := h name
  rw [agreement, hplain, Option.getD_none] at hname
  generalize fields.lookup name = a at hname
  generalize given.lookup name = b at hname
  cases hname with
  | none => rfl
  | some hvw => rw [hvw]

theorem toList?_of_each {item : Json α → Json α → Prop} {read : Json α → Option β}
    (hread : ∀ v w, item v w → read w = read v) {v w : Json α} (h : Each item v w) :
    toList? read w = toList? read v := by
  cases h with
  | intro same =>
    rw [toList?, toList?]
    induction same with
    | nil => rfl
    | cons hfirst _ ih => rw [List.mapM_cons, List.mapM_cons, hread _ _ hfirst, ih]

/-- A list that may be null. -/
theorem nullable_of_each {item : Json α → Json α → Prop} {read : Json α → Option β}
    (hread : ∀ v w, item v w → read w = read v) {v w : Json α} (h : Each item v w) :
    nullable (toList? read) w = nullable (toList? read) v := by
  have hlist := toList?_of_each hread h
  cases h with
  | intro same => exact congrArg (Option.map some) hlist

end Reading

end ArchDiagram.Json
