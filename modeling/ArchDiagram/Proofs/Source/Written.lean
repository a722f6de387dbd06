import ArchDiagram.Proofs.Decimal.Digits
import ArchDiagram.Proofs.Source.Grammar
import ArchDiagram.Proofs.Source.Lines
import ArchDiagram.Source.Writer

namespace ArchDiagram.Source

open ArchDiagram.Source.Language

/-- A text that can be an id. -/
def IsId (id : String) : Prop := id.toList ≠ [] ∧ ∀ c ∈ id.toList, isIdChar c = true

instance (id : String) : Decidable (IsId id) :=
  decidable_of_iff (id.toList ≠ [] ∧ id.toList.all isIdChar = true)
    (and_congr_right' List.all_eq_true)

/-- A label after it was written. -/
def cleaned (label : String) : String := String.ofList (cleanLabel label)

section Forms

variable {β γ : Type} {range : Int → Prop}

theorem bind_append {L : Language β} {M : β → Language γ} {v w : List Char} {x : β} {y : γ}
    (h : L range v x) (hM : M x range w y) : (L >>= M) range (v ++ w) y :=
  ⟨v, w, x, rfl, h, hM⟩

theorem bind_pure (f : β → γ) {L : Language β} {u : List Char} {x : β} (h : L range u x) :
    (L >>= fun a => pure (f a)) range u (f x) :=
  ⟨u, [], x, (List.append_nil u).symm, h, rfl, rfl⟩

theorem exactly_self {word : List Char} : exactly word range word () := rfl

theorem many_self {p : Char → Bool} {u : List Char} (h : ∀ c ∈ u, p c = true) : many p range u u :=
  ⟨h, rfl⟩

theorem gap_nil : Language.gap range [] () :=
  bind_pure (fun _ => ()) (many_self fun _ hc => absurd hc List.not_mem_nil)

theorem gap_blank : Language.gap range [' '] () :=
  bind_pure (fun _ => ()) (many_self (u := [' ']) (List.all_eq_true.mp (by decide)))

theorem someGap_blank : Language.someGap range [' '] () :=
  bind_pure (fun _ => ()) (x := [' ']) ⟨many_self (List.all_eq_true.mp (by decide)), by simp⟩

theorem word_self {p : Char → Bool} {s : String} (hne : s.toList ≠ [])
    (h : ∀ c ∈ s.toList, p c = true) :
    Language.word p range s.toList s := by
  have hw : Language.word p range s.toList (String.ofList s.toList) :=
    bind_pure String.ofList ⟨many_self h, hne⟩
  rwa [String.ofList_toList] at hw

theorem integer_intText {n : Int} (h : range n) : Language.integer range (Decimal.intText n) n := by
  have hnumeral : numeral range (Decimal.digitsOf n.natAbs) (Decimal.digitsOf n.natAbs) := by
    refine ⟨⟨many_self fun c => Decimal.isDigit_of_mem_digitsOf, Decimal.digitsOf_ne_nil _⟩, ?_⟩
    intro hz
    rw [Decimal.head?_digitsOf hz]
    rfl
  by_cases hn : n < 0
  · refine ⟨(true, Decimal.digitsOf n.natAbs), ?_, ?_, h⟩
    · rw [Decimal.intText, if_pos hn]
      exact bind_append (Or.inr ⟨(), exactly_self, rfl⟩)
        (bind_pure (fun chars => (true, chars)) hnumeral)
    · simp only [Scan.signedValue, Decimal.ofDigits_digitsOf, if_true]
      omega
  · refine ⟨(false, Decimal.digitsOf n.natAbs), ?_, ?_, h⟩
    · rw [Decimal.intText, if_neg hn]
      exact bind_append (Or.inl ⟨rfl, rfl⟩) (bind_pure (fun chars => (false, chars)) hnumeral)
    · simp only [Scan.signedValue, Decimal.ofDigits_digitsOf, Bool.false_eq_true, if_false]
      omega

theorem mem_cleanLabel {label : String} {c : Char} (h : c ∈ cleanLabel label)
    (hn : '\n' ∉ label.toList) :
    isLabelChar c = true := by
  obtain ⟨d, hd, rfl⟩ := List.mem_map.mp h
  split_ifs with hq
  · decide
  · have hb : d ≠ '\n' := fun hb => hn (hb ▸ hd)
    simp [isLabelChar, hq, hb]

theorem quoted_quotedLabel {label : String} (h : '\n' ∉ label.toList) :
    quoted range (quotedLabel label) (cleaned label) := by
  rw [quotedLabel, List.append_assoc]
  exact bind_append exactly_self (bind_append (many_self fun c hc => mem_cleanLabel hc h)
    (bind_pure (fun _ => cleaned label) exactly_self))

theorem idAndLabel_append {id label : String} (hid : IsId id) (hl : '\n' ∉ label.toList) :
    Language.idAndLabel range (id.toList ++ ([':'] ++ ([' '] ++ quotedLabel label)))
      (id, cleaned label) :=
  bind_append (word_self hid.1 hid.2) (bind_append (v := []) gap_nil (bind_append exactly_self
    (bind_append gap_blank (bind_pure (fun text => (id, text)) (quoted_quotedLabel hl)))))

theorem keyed_append {L : Language β} {key value : List Char} {x : β} (h : L range value x) :
    keyed key L range (key ++ (['='] ++ value)) x :=
  bind_append exactly_self (bind_append exactly_self h)

/-- A value after a blank and its key. -/
theorem field_append {L : Language β} {M : β → Language γ} {key value w : List Char} {x : β} {y : γ}
    (h : L range value x) (hM : M x range w y) :
    (do Language.someGap; let a ← keyed key L; M a : Language γ) range
      (field key value ++ w) y := by
  have hf : field key value ++ w = [' '] ++ ((key ++ (['='] ++ value)) ++ w) := by simp [field]
  rw [hf]
  exact bind_append someGap_blank (bind_append (keyed_append h) hM)

theorem perhaps_field {L : Language β} {key value : List Char} {x : β} (h : L range value x) :
    perhaps (do Language.someGap; keyed key L) range (field key value) (some x) := by
  have hf : field key value = [' '] ++ (key ++ (['='] ++ value)) := by simp [field]
  rw [hf]
  exact Or.inr ⟨x, bind_append someGap_blank (keyed_append h), rfl⟩

theorem perhaps_nil {L : Language β} : perhaps L range [] none := Or.inl ⟨rfl, rfl⟩

theorem perhaps_label {label : String} (h : '\n' ∉ label.toList) :
    perhaps (do Language.gap; exactly [':']; Language.gap; quoted) range
      ([':'] ++ ([' '] ++ quotedLabel label)) (some (cleaned label)) := by
  refine Or.inr ⟨cleaned label, ?_, rfl⟩
  exact bind_append (v := []) gap_nil
    (bind_append exactly_self (bind_append gap_blank (quoted_quotedLabel h)))

theorem lines_self {form : Language Statement} {u : List Char} {s : Statement}
    (h : form range u s) :
    lines form range u s := by
  rw [← List.append_nil u]
  exact bind_append h (bind_pure (fun _ => s) gap_nil)

end Forms

section Statements

variable {α : Type} [Scalar α]

def nodeDecl (node : Node α) : NodeDecl :=
  { id := node.id
    label := cleaned node.label
    icon := node.icon.name
    x := Scalar.nearest node.x
    y := Scalar.nearest node.y
    width := some (Scalar.nearest node.width)
    height := some (Scalar.nearest node.height) }

def containerDecl (container : Container α) : ContainerDecl :=
  { id := container.id
    label := cleaned container.label
    kind := container.kind.name
    x := Scalar.nearest container.x
    y := Scalar.nearest container.y
    width := Scalar.nearest container.width
    height := Scalar.nearest container.height
    closed := false }

def linkDecl (link : Link) : LinkDecl :=
  { source := link.source
    target := link.target
    label := link.label.map cleaned
    bidirectional := link.bidirectional }

theorem icon_name_word (icon : Icon) :
    icon.name.toList ≠ [] ∧ ∀ c ∈ icon.name.toList, isValueChar c = true := by
  rw [← List.all_eq_true]
  cases icon <;> decide

theorem kind_name_word (kind : ContainerKind) :
    kind.name.toList ≠ [] ∧ ∀ c ∈ kind.name.toList, isValueChar c = true := by
  rw [← List.all_eq_true]
  cases kind <;> decide

theorem icon_ofName? (icon : Icon) : Icon.ofName? icon.name = some icon := by
  cases icon <;> decide +kernel

theorem kind_ofName? (kind : ContainerKind) : ContainerKind.ofName? kind.name = some kind := by
  cases kind <;> decide +kernel

variable (hrange : ∀ x : α, Scan.inRange (Scalar.nearest x) = true)
include hrange

theorem readStatement_nodeLine {node : Node α} (hid : IsId node.id)
    (hl : '\n' ∉ node.label.toList) :
    readStatement (nodeLine [] node) = .ok (.node (nodeDecl node)) := by
  have hu : nodeLine [] node = nodeWord ++ ([' '] ++
      ((node.id.toList ++ ([':'] ++ ([' '] ++ quotedLabel node.label))) ++
      (field iconWord node.icon.name.toList ++ (field xWord (rounded node.x) ++
        (field yWord (rounded node.y) ++ (field widthWord (rounded node.width) ++
          field heightWord (rounded node.height))))))) := by
    simp [nodeLine, boxFields]
  have hicon := icon_name_word node.icon
  rw [hu]
  refine readStatement_of_language (h := .node) (lines_self ?_)
  refine bind_append exactly_self
    (bind_append someGap_blank (bind_append (idAndLabel_append hid hl) ?_))
  refine field_append (word_self hicon.1 hicon.2) (field_append (integer_intText (hrange _))
    (field_append (integer_intText (hrange _))
      (bind_append (perhaps_field (integer_intText (hrange _))) ?_)))
  exact bind_pure (fun height => Statement.node { nodeDecl node with height })
    (perhaps_field (integer_intText (hrange _)))

theorem readStatement_containerLine {container : Container α} (hid : IsId container.id)
    (hl : '\n' ∉ container.label.toList) :
    readStatement (containerLine container) = .ok (.container (containerDecl container)) := by
  have hu : containerLine container = containerWord ++ ([' '] ++
      ((container.id.toList ++ ([':'] ++ ([' '] ++ quotedLabel container.label))) ++
      (field typeWord container.kind.name.toList ++ (field xWord (rounded container.x) ++
        (field yWord (rounded container.y) ++ (field widthWord (rounded container.width) ++
          (field heightWord (rounded container.height) ++
            ([' '] ++ ([openBrace] ++ []))))))))) := by
    simp [containerLine, boxFields]
  have hkind := kind_name_word container.kind
  rw [hu]
  refine readStatement_of_language (h := .container) (lines_self ?_)
  refine bind_append exactly_self
    (bind_append someGap_blank (bind_append (idAndLabel_append hid hl) ?_))
  refine field_append (word_self hkind.1 hkind.2) (field_append (integer_intText (hrange _))
    (field_append (integer_intText (hrange _)) (field_append (integer_intText (hrange _))
      (field_append (integer_intText (hrange _))
        (bind_append gap_blank (bind_append exactly_self ?_))))))
  exact bind_pure (fun closing : Option Unit =>
    Statement.container { containerDecl container with closed := closing.isSome }) perhaps_nil

omit hrange [Scalar α]

theorem readStatement_closeBrace : readStatement [closeBrace] = .ok .close :=
  readStatement_of_language (h := .close)
    (lines_self (bind_pure (fun _ => Statement.close) exactly_self))

def labelText (label : Option String) : List Char :=
  label.elim [] fun label => [':'] ++ ([' '] ++ quotedLabel label)

theorem linkLine_eq (link : Link) :
    linkLine link = link.source.toList ++
      ([' '] ++ ((if link.bidirectional then doubleArrow else arrow) ++
      ([' '] ++ (link.target.toList ++ labelText link.label)))) := by
  rw [linkLine]
  cases link.label <;> simp [labelText]

theorem arrowLink_append {link : Link} (hs : IsId link.source) (ht : IsId link.target)
    (hl : ∀ label ∈ link.label, '\n' ∉ label.toList) (mark : List Char) (range : Int → Prop) :
    arrowLink mark link.bidirectional range
      (link.source.toList ++
        ([' '] ++ (mark ++ ([' '] ++ (link.target.toList ++ labelText link.label)))))
      (.link (linkDecl link)) := by
  have hlabel : perhaps (do Language.gap; exactly [':']; Language.gap; quoted) range
      (labelText link.label) (link.label.map cleaned) := by
    cases hlabel : link.label with
    | none => exact perhaps_nil
    | some label => exact perhaps_label (hl label hlabel)
  exact bind_append (word_self hs.1 hs.2) (bind_append gap_blank (bind_append exactly_self
    (bind_append gap_blank (bind_append (word_self ht.1 ht.2)
      (bind_pure (fun label => Statement.link { linkDecl link with label }) hlabel)))))

theorem readStatement_linkLine {link : Link} (hs : IsId link.source) (ht : IsId link.target)
    (hl : ∀ label ∈ link.label, '\n' ∉ label.toList) :
    readStatement (linkLine link) = .ok (.link (linkDecl link)) := by
  refine readStatement_of_language (h := .link) (lines_self ?_)
  have hu (mark : List Char) := arrowLink_append hs ht hl mark (Scan.inRange · = true)
  rw [linkLine_eq]
  cases hb : link.bidirectional with
  | true =>
    rw [hb] at hu
    exact Or.inl (hu doubleArrow)
  | false =>
    rw [hb] at hu
    exact Or.inr (hu arrow)

end Statements

/-- A line that is kept as it is when its source is cut into lines. -/
structure IsLine (u : List Char) : Prop where
  whole : '\n' ∉ u
  trimmed : Text.trim u = u
  holds : holdsStatement u = true

section Shapes

variable {u v : List Char} {c : Char}

theorem isLine_cons (hwhole : '\n' ∉ c :: u) (hc : Text.isBlank c = false) (hslash : c ≠ '/')
    (hlast : ∀ e ∈ (c :: u).getLast?, Text.isBlank e = false) : IsLine (c :: u) := by
  refine ⟨hwhole, Text.trim_of_ends (by simpa using hc) hlast, ?_⟩
  simp [holdsStatement, commentMark, List.isPrefixOf, hslash.symm]

theorem last_mark (hc : Text.isBlank c = false) :
    ∀ e ∈ (u ++ [c]).getLast?, Text.isBlank e = false := by
  simpa using hc

theorem not_mem_of_kind {p : Char → Bool} (h : ∀ c ∈ u, p c = true) (hp : p '\n' = false) :
    '\n' ∉ u := by
  intro hm
  rw [h _ hm] at hp
  contradiction

theorem IsId.whole {id : String} (h : IsId id) : '\n' ∉ id.toList := not_mem_of_kind h.2 (by decide)

theorem quotedLabel_whole {label : String} (h : '\n' ∉ label.toList) :
    '\n' ∉ quotedLabel label := by
  have hclean : '\n' ∉ cleanLabel label :=
    not_mem_of_kind (fun c hc => mem_cleanLabel hc h) (by decide)
  simpa [quotedLabel, quoteMark] using hclean

theorem intText_whole (n : Int) : '\n' ∉ Decimal.intText n := by
  have hdigits : '\n' ∉ Decimal.digitsOf n.natAbs :=
    not_mem_of_kind (fun c => Decimal.isDigit_of_mem_digitsOf) (by decide)
  by_cases hn : n < 0 <;> simpa [Decimal.intText, hn] using hdigits

/-- The last character of a written number is a digit. -/
theorem intText_last (n : Int) :
    ∀ c ∈ (u ++ Decimal.intText n).getLast?, Text.isBlank c = false := by
  intro c hc
  rw [Decimal.intText, ← List.append_assoc,
    List.getLast?_append_of_ne_nil _ (Decimal.digitsOf_ne_nil _)] at hc
  have hdigit := Decimal.isDigit_of_mem_digitsOf (List.mem_of_getLast? hc)
  exact blank_of_idChar (by simp [isIdChar, Char.isAlphanum, hdigit])

theorem name_whole {name : String} (h : ∀ c ∈ name.toList, isValueChar c = true) :
    '\n' ∉ name.toList :=
  not_mem_of_kind h (by decide)

theorem isLine_closeBrace : IsLine [closeBrace] :=
  isLine_cons (by decide) (by decide) (by decide) (last_mark (u := []) (by decide))

variable {α : Type} [Scalar α]

theorem boxFields_whole (x y width height : α) : '\n' ∉ boxFields x y width height := by
  have hx := intText_whole (Scalar.nearest x)
  have hy := intText_whole (Scalar.nearest y)
  have hw := intText_whole (Scalar.nearest width)
  have hh := intText_whole (Scalar.nearest height)
  simp [boxFields, field, rounded, xWord, yWord, widthWord, heightWord, hx, hy, hw, hh]

theorem isLine_nodeLine {node : Node α} (hid : IsId node.id) (hl : '\n' ∉ node.label.toList) :
    IsLine (nodeLine [] node) := by
  refine isLine_cons ?_ (by decide) (by decide) ?_
  · have hicon := name_whole (icon_name_word node.icon).2
    have hbox := boxFields_whole node.x node.y node.width node.height
    change '\n' ∉ nodeLine [] node
    simp [nodeLine, field, nodeWord, iconWord, hid.whole, quotedLabel_whole hl, hicon, hbox]
  · change ∀ e ∈ (nodeLine [] node).getLast?, _
    obtain ⟨u, hu⟩ : ∃ u, nodeLine [] node = u ++ Decimal.intText (Scalar.nearest node.height) := by
      simp only [nodeLine, boxFields, field, rounded, ← List.append_assoc]
      exact ⟨_, rfl⟩
    rw [hu]
    exact intText_last _

theorem isLine_containerLine {container : Container α} (hid : IsId container.id)
    (hl : '\n' ∉ container.label.toList) : IsLine (containerLine container) := by
  refine isLine_cons ?_ (by decide) (by decide) ?_
  · have hkind := name_whole (kind_name_word container.kind).2
    have hbox := boxFields_whole container.x container.y container.width container.height
    change '\n' ∉ containerLine container
    simp [containerLine, field, containerWord, typeWord, openBrace, hid.whole, quotedLabel_whole hl,
      hkind, hbox]
  · change ∀ e ∈ (containerLine container).getLast?, _
    rw [containerLine, List.getLast?_append_of_ne_nil _ (by simp)]
    exact last_mark (u := [' ']) (by decide)

omit [Scalar α] in
theorem isLine_linkLine {link : Link} (hs : IsId link.source) (ht : IsId link.target)
    (hl : ∀ label ∈ link.label, '\n' ∉ label.toList) : IsLine (linkLine link) := by
  have hwhole : '\n' ∉ linkLine link := by
    have hlabel : '\n' ∉ labelText link.label := by
      cases hlabel : link.label with
      | none => simp [labelText]
      | some label => simp [labelText, quotedLabel_whole (hl label hlabel)]
    cases hb : link.bidirectional <;>
      simp [linkLine_eq, hb, arrow, doubleArrow, hs.whole, ht.whole, hlabel]
  have hlast : ∀ e ∈ (linkLine link).getLast?, Text.isBlank e = false := by
    simp only [linkLine_eq, ← List.append_assoc]
    cases hlabel : link.label with
    | none =>
      rw [labelText, Option.elim_none, List.append_nil, List.getLast?_append_of_ne_nil _ ht.1]
      intro e he
      exact blank_of_idChar (ht.2 e (List.mem_of_getLast? he))
    | some label =>
      simp only [labelText, Option.elim_some, quotedLabel, ← List.append_assoc]
      exact last_mark (by decide)
  obtain ⟨c, u, hu⟩ := List.exists_cons_of_ne_nil hs.1
  have hc : isIdChar c = true := hs.2 c (by simp [hu])
  have hslash : c ≠ '/' := by
    intro h
    obtain rfl := h
    contradiction
  rw [linkLine_eq, hu] at hwhole hlast ⊢
  exact isLine_cons hwhole (blank_of_idChar hc) hslash hlast

end Shapes

/-- Raw lines and the texts of the statements on them. -/
structure Gives (raws us : List (List Char)) : Prop where
  whole : ∀ u ∈ raws, '\n' ∉ u
  kept : (raws.map Text.trim).filter holdsStatement = us

namespace Gives

variable {raws us raws' us' : List (List Char)}

theorem nil : Gives [] [] := ⟨by simp, rfl⟩

theorem append (h : Gives raws us) (h' : Gives raws' us') : Gives (raws ++ raws') (us ++ us') := by
  refine ⟨fun u hu => (List.mem_append.mp hu).elim (h.whole u) (h'.whole u), ?_⟩
  rw [List.map_append, List.filter_append, h.kept, h'.kept]

theorem flatMap {β : Type} {items : List β} {f g : β → List (List Char)}
    (h : ∀ item ∈ items, Gives (f item) (g item)) : Gives (items.flatMap f) (items.flatMap g) := by
  induction items with
  | nil => exact nil
  | cons item items ih =>
    rw [List.flatMap_cons, List.flatMap_cons]
    exact (h item (by simp)).append (ih fun other ho => h other (by simp [ho]))

/-- Written lines may have blanks in front of them. -/
theorem of_isLine {u m : List Char} (hu : IsLine u) (hm : ∀ c ∈ m, c = ' ') :
    Gives [m ++ u] [u] := by
  have hblank : ∀ c ∈ m, Text.isBlank c = true := by
    intro c hc
    rw [hm c hc]
    decide
  constructor
  · intro v hv
    obtain rfl : v = m ++ u := by simpa using hv
    rw [List.mem_append, not_or]
    exact ⟨fun hc => absurd (hm _ hc) (by decide), hu.whole⟩
  · rw [List.map_singleton, Text.trim_blank_append hblank, hu.trimmed, List.filter_singleton,
      hu.holds]
    rfl

theorem map {β : Type} {items : List β} {f g : β → List Char}
    (h : ∀ item ∈ items, Gives [f item] [g item]) :
    Gives (items.map f) (items.map g) := by
  rw [List.map_eq_flatMap, List.map_eq_flatMap]
  exact flatMap h

/-- A comment has no statement. -/
theorem comment {u : List Char} (h : '\n' ∉ u) : Gives [commentMark ++ [' '] ++ u] [] := by
  have hprefix : commentMark <+: Text.trim (commentMark ++ [' '] ++ u) := by
    apply Text.prefix_trim
    · rw [List.append_assoc]
      exact List.prefix_append _ _
    · rw [commentMark, List.forall_mem_cons, List.forall_mem_singleton]
      decide
  constructor
  · intro v hv
    obtain rfl : v = commentMark ++ [' '] ++ u := by simpa using hv
    simpa [commentMark] using h
  · have hcomment : holdsStatement (Text.trim (commentMark ++ [' '] ++ u)) = false := by
      rw [holdsStatement, List.isPrefixOf_iff_prefix.mpr hprefix, Bool.not_true, Bool.and_false]
    rw [List.map_singleton, List.filter_singleton, hcomment]
    rfl

end Gives

end ArchDiagram.Source
