import ArchDiagram.Proofs.Source.Reading

namespace ArchDiagram.Source

open ArchDiagram.Source.Language Scan.Exact

theorem idChar_of_gap {c : Char} (h : isGap c = true) : isIdChar c = false := by
  simp only [isGap, Bool.or_eq_true, decide_eq_true_eq] at h
  rcases h with rfl | rfl <;> decide

theorem valueChar_of_gap {c : Char} (h : isGap c = true) : isValueChar c = false := by
  simp only [isGap, Bool.or_eq_true, decide_eq_true_eq] at h
  rcases h with rfl | rfl <;> decide

theorem digit_of_gap {c : Char} (h : isGap c = true) : c.isDigit = false := by
  simp only [isGap, Bool.or_eq_true, decide_eq_true_eq] at h
  rcases h with rfl | rfl <;> decide

theorem gap_of_idChar {c : Char} (h : isIdChar c = true) : isGap c = false := by
  by_contra hc
  rw [idChar_of_gap (by simpa using hc)] at h
  contradiction

theorem exact_idAndLabel {stop : List Char → Prop} :
    Source.idAndLabel.Exact Language.idAndLabel stop := by
  refine (Scan.Exact.word isIdChar).bind (fun id => ?_) (fun id => ?_)
  · refine mark (by decide) (gap.bind (fun _ => label.followed fun _ => pure) (fun _ => ?_))
    exact Before.first (Before.first (Before.exactly (by decide)))
  · exact (Before.gap fun _ => idChar_of_gap).bind fun _ =>
      Before.first (Before.exactly (by decide))

/-- What ends a list of sizes: neither more digits nor a field with the given first letter. -/
def SizesEnd (c : Char) (rest : List Char) : Prop := Stops Char.isDigit rest ∧ Lacks c rest

theorem Gaps.sizesEnd {rest : List Char} (h : Gaps rest) (c : Char) : SizesEnd c rest :=
  ⟨h.stops fun _ => digit_of_gap, h.lacks c⟩

/-- A size has its first letter behind a gap, so that it ends sizes with another letter. -/
theorem size_lacks {c d : Char} {key : List Char} (hc : isGap c = false) {range : Int → Prop}
    {u rest : List Char} {n : Int}
    (hu :
      (do Language.someGap; Language.keyed (c :: key) Language.integer : Language Int) range u n) :
    Lacks d (u ++ rest) ↔ c ≠ d := by
  obtain ⟨v, _, _, rfl, ⟨g, _, _, rfl, ⟨⟨hg, -⟩, -⟩, rfl, -⟩, _, w, _, rfl, rfl, -⟩ := hu
  simp only [List.append_assoc, List.cons_append, List.nil_append]
  rw [lacks_run hg, lacks_cons hc]

theorem exact_size {c : Char} {key : List Char} (hc : isGap c = false) :
    (Scan.optional do Scan.someGap; Scan.keyed (c :: key) Scan.integer).Exact
      (perhaps do Language.someGap; Language.keyed (c :: key) Language.integer) (SizesEnd c) := by
  refine optional (someGap.bind (fun _ => Scan.Exact.integer.keyed) (fun _ => ?_))
    (fun _ hr => hr.1) ?_
  · exact Before.first (Before.exactly hc)
  · intro range u x rest hu _ hr
    exact (size_lacks hc hu).mp hr.2 rfl

theorem before_size {c d : Char} {key : List Char} (hc : isGap c = false) (hd : c ≠ d) :
    (perhaps do Language.someGap; Language.keyed (c :: key) Language.integer).Before
      (SizesEnd d) Gaps := by
  refine Before.perhaps ?_ (fun rest hr => hr.sizesEnd d)
  intro range u n rest hu hr
  exact ⟨Before.first (Before.someGap fun _ => digit_of_gap) range u n rest hu hr,
    (size_lacks hc hu).mpr hd⟩

theorem before_field {β γ : Type} {p : Char → Bool} {key : List Char} {value : Language β}
    {M : β → Language γ} {behind : List Char → Prop} (hp : ∀ c, isGap c = true → p c = false) :
    (do Language.someGap; let x ← Language.keyed key value; M x).Before (Stops p) behind :=
  Before.first (Before.someGap hp)

theorem before_idAndLabel {γ : Type} {M : String × String → Language γ}
    {behind : List Char → Prop} :
    (do let x ← Language.idAndLabel; M x).Before (Stops isGap) behind :=
  Before.first (Before.first (Before.word fun _ => gap_of_idChar))

theorem exact_node : nodeForm.Exact Language.node Gaps := by
  refine (literal nodeWord).followed fun _ => ?_
  refine someGap.bind (fun _ => ?_) (fun _ => before_idAndLabel)
  refine exact_idAndLabel.followed fun idAndLabel => ?_
  refine (Scan.Exact.word isValueChar).field (by decide) (fun icon => ?_)
    (fun _ => before_field fun _ => valueChar_of_gap)
  refine Scan.Exact.integer.field (by decide) (fun x => ?_)
    (fun _ => before_field fun _ => digit_of_gap)
  refine Scan.Exact.integer.field (by decide) (fun y => ?_) (fun _ => ?_)
  · refine (exact_size (by decide)).bind (fun width => ?_)
      (fun _ => (before_size (by decide) (by decide)).bind fun _ => Before.pure)
    exact ((exact_size (by decide)).weaken fun _ hr => hr.sizesEnd _).bind (fun _ => pure)
      (fun _ => Before.pure)
  · have hwidth : (perhaps do Language.someGap; Language.keyed widthWord Language.integer).Before
        (Stops Char.isDigit) (SizesEnd 'w') :=
      Before.perhaps (Before.first (Before.someGap fun _ => digit_of_gap)) (fun _ hr => hr.1)
    exact hwidth.bind fun _ => (before_size (by decide) (by decide)).bind fun _ => Before.pure

theorem exact_container : containerForm.Exact Language.container Gaps := by
  refine (literal containerWord).followed fun _ => ?_
  refine someGap.bind (fun _ => ?_) (fun _ => before_idAndLabel)
  refine exact_idAndLabel.followed fun idAndLabel => ?_
  refine (Scan.Exact.word isValueChar).field (by decide) (fun kind => ?_)
    (fun _ => before_field fun _ => valueChar_of_gap)
  refine Scan.Exact.integer.field (by decide) (fun x => ?_)
    (fun _ => before_field fun _ => digit_of_gap)
  refine Scan.Exact.integer.field (by decide) (fun y => ?_)
    (fun _ => before_field fun _ => digit_of_gap)
  refine Scan.Exact.integer.field (by decide) (fun width => ?_)
    (fun _ => before_field fun _ => digit_of_gap)
  refine Scan.Exact.integer.field (by decide) (fun height => ?_) (fun _ =>
    (Before.gap fun _ => digit_of_gap).bind fun _ => Before.first (Before.exactly (by decide)))
  have hbrace : (do Scan.gap; Scan.char closeBrace).Exact
      (do Language.gap; exactly [closeBrace]) fun _ => True :=
    gap.bind (fun _ => char closeBrace) (fun _ => Before.exactly (by decide))
  have hclosing := hbrace.optional (fun _ (_ : Gaps _) => True.intro)
    (Before.gap_mark.bind fun _ => Before.mark (by decide))
  exact mark (by decide) (hclosing.bind (fun _ => pure) (fun _ => Before.pure))

theorem exact_arrowLink {c : Char} {arrow : List Char} (hid : isIdChar c = false)
    (hgap : isGap c = false) (bidirectional : Bool) :
    (arrowForm (c :: arrow) bidirectional).Exact (arrowLink (c :: arrow) bidirectional) Gaps := by
  refine (Scan.Exact.word isIdChar).bind (fun source => ?_)
    (fun _ => (Before.gap fun _ => idChar_of_gap).bind fun _ => Before.first (Before.exactly hid))
  refine gap.bind (fun _ => (literal (c :: arrow)).followed fun _ => ?_)
    (fun _ => Before.first (Before.exactly hgap))
  refine gap.bind (fun _ => ?_) (fun _ => Before.first (Before.word fun _ => gap_of_idChar))
  have hquoted : (do Scan.gap; Scan.char ':'; Scan.gap; Scan.label).Exact
      (do Language.gap; exactly [':']; Language.gap; quoted) fun _ => True :=
    mark (by decide)
      (gap.bind (fun _ => label) (fun _ => Before.first (Before.exactly (by decide))))
  have hlabel := hquoted.optional (fun _ (_ : Gaps _) => True.intro)
    (Before.gap_mark.bind fun _ => Before.bind (Before.mark (by decide)) fun _ => Before.trivial)
  refine (Scan.Exact.word isIdChar).bind (fun target => ?_) (fun _ => ?_)
  · exact hlabel.bind (fun _ => pure) (fun _ => Before.pure)
  · refine Before.bind (Before.perhaps ?_ fun rest hr => ?_) (fun _ => Before.pure)
    · exact (Before.gap fun _ => idChar_of_gap).bind fun _ =>
        Before.first (Before.exactly (by decide))
    · exact Gaps.stops hr fun _ => idChar_of_gap

/-- The two arrows differ in their first character, which ends the identifier and the gap before. -/
theorem arrowLink_apart {range range' : Int → Prop} {u v rest rest' : List Char} {s t : Statement}
    (hu : arrowLink doubleArrow true range u s) (hv : arrowLink arrow false range' v t) :
    u ++ rest ≠ v ++ rest' := by
  obtain ⟨i, _, _, rfl, hi, g, _, _, rfl, hg, _, a, _, rfl, rfl, -⟩ := hu
  obtain ⟨j, _, _, rfl, hj, k, _, _, rfl, hk, _, b, _, rfl, rfl, -⟩ := hv
  simp only [List.append_assoc, doubleArrow, arrow, List.cons_append]
  intro h
  have hid := Before.gap fun _ => idChar_of_gap
  have hij := (Scan.Exact.word isIdChar).unique hi hj
    (hid _ g _ _ hg (stops_cons.mpr (by decide))) (hid _ k _ _ hk (stops_cons.mpr (by decide))) h
  rw [hij.1] at h
  have hgk := gap.unique hg hk (stops_cons.mpr (by decide)) (stops_cons.mpr (by decide))
    (List.append_cancel_left h)
  rw [hgk.1] at h
  simp at h

theorem exact_link : linkForm.Exact Language.link Gaps :=
  (exact_arrowLink (by decide) (by decide) true).orElse
    (exact_arrowLink (by decide) (by decide) false)
    arrowLink_apart

theorem exact_close : closeForm.Exact Language.close Gaps :=
  (char closeBrace).followed fun _ => pure

theorem exact_lines {heading : Heading} {form : Scan Statement} (h : heading.form = some form) :
    (Source.wholeLine form).Exact heading.language (· = []) := by
  cases heading with
  | node => exact Option.some.inj h ▸ exact_node.wholeLine
  | link => exact Option.some.inj h ▸ exact_link.wholeLine
  | container => exact Option.some.inj h ▸ exact_container.wholeLine
  | close => exact Option.some.inj h ▸ exact_close.wholeLine
  | unknown => contradiction

section Headings

variable {range : Int → Prop} {line : List Char} {s : Statement}

theorem blank_of_gap {c : Char} (h : isGap c = true) : Text.isBlank c = true := by
  simp only [isGap, Bool.or_eq_true, decide_eq_true_eq] at h
  rcases h with rfl | rfl <;> decide

/-- Identifiers have ASCII letters, digits and underscores only. -/
theorem blank_of_idChar {c : Char} (h : isIdChar c = true) : Text.isBlank c = false := by
  have hn : (48 ≤ c.toNat ∧ c.toNat ≤ 57) ∨ (65 ≤ c.toNat ∧ c.toNat ≤ 90) ∨ c.toNat = 95 ∨
      (97 ≤ c.toNat ∧ c.toNat ≤ 122) := by
    change (((decide (65 ≤ c.val ∧ c.val ≤ 90)) || (decide (97 ≤ c.val) && decide (c.val ≤ 122))) ||
      (decide (48 ≤ c.val) && decide (c.val ≤ 57)) || decide (c = '_')) = true at h
    simp only [Bool.or_eq_true, Bool.and_eq_true, decide_eq_true_eq, UInt32.le_iff_toNat_le] at h
    rcases h with ((h | h) | h) | rfl
    · exact Or.inr (Or.inl h)
    · exact Or.inr (Or.inr (Or.inr h))
    · exact Or.inl h
    · exact Or.inr (Or.inr (Or.inl rfl))
  simp only [Text.isBlank, Text.inRanges, Text.blankRanges, List.any_cons, List.any_nil,
    Bool.or_false, Bool.or_eq_false_iff, Bool.and_eq_false_iff, decide_eq_false_iff_not]
  omega

theorem trimLeft_gap {g rest : List Char} (hg : ∀ c ∈ g, isGap c = true)
    (hr : Stops Text.isBlank rest) :
    Text.trimLeft (g ++ rest) = rest :=
  dropWhile_run (fun c hc => blank_of_gap (hg c hc)) hr

/-- A keyword and a gap make a declaration unless an arrow comes next. -/
theorem startsWith_gap {word g rest : List Char} (hg : ∀ c ∈ g, isGap c = true) (hne : g ≠ [])
    (hr : Stops Text.isBlank rest) :
    startsWith word (word ++ (g ++ rest)) =
      (!arrow.isPrefixOf rest && !doubleArrow.isPrefixOf rest) := by
  have hp : word.isPrefixOf (word ++ (g ++ rest)) = true := List.isPrefixOf_iff_prefix.mpr ⟨_, rfl⟩
  simp only [startsWith, hp, List.drop_left, trimLeft_gap hg hr]
  obtain ⟨b, g, rfl⟩ := List.exists_cons_of_ne_nil hne
  simp [hg b (by simp)]

theorem startsWith_keyword {word : List Char} {M : String × String → Language Statement}
    (h : (do exactly word; Language.someGap; let x ← Language.idAndLabel; M x : Language Statement)
      range line s)
    (behind : List Char) : startsWith word (line ++ behind) = true := by
  obtain ⟨_, _, _, rfl, rfl, _, _, _, rfl, hgap, _, _, _, rfl, hid, -⟩ := h
  obtain ⟨g, _, _, rfl, ⟨⟨hg, -⟩, hne⟩, rfl, -⟩ := hgap
  obtain ⟨_, _, _, rfl, ⟨i, _, _, rfl, ⟨⟨hi, -⟩, hne'⟩, rfl, -⟩, -⟩ := hid
  obtain ⟨c, i, rfl⟩ := List.exists_cons_of_ne_nil hne'
  have hc : isIdChar c = true := hi c (by simp)
  have hdash : c ≠ '-' := by
    intro he
    rw [he] at hc
    contradiction
  have hless : c ≠ '<' := by
    intro he
    rw [he] at hc
    contradiction
  simp only [List.append_nil, List.append_assoc, List.cons_append]
  rw [startsWith_gap hg hne (stops_cons.mpr (blank_of_idChar hc))]
  simp [arrow, doubleArrow, List.isPrefixOf, hdash.symm, hless.symm]

/-- An identifier in front of an arrow is no keyword, whatever it spells. -/
theorem startsWith_id {word i g rest : List Char} (hw : ∀ c ∈ word, isIdChar c = true)
    (hi : ∀ c ∈ i, isIdChar c = true) (hg : ∀ c ∈ g, isGap c = true) (hid : Stops isIdChar rest)
    (hgap : Stops isGap rest) (hr : Stops Text.isBlank rest)
    (ha : (arrow.isPrefixOf rest || doubleArrow.isPrefixOf rest) = true) :
    startsWith word (i ++ (g ++ rest)) = false := by
  by_contra h
  rw [Bool.not_eq_false] at h
  have hp : word <+: i ++ (g ++ rest) := by
    rw [startsWith, Bool.and_eq_true] at h
    exact List.isPrefixOf_iff_prefix.mp h.1
  obtain ⟨t, ht⟩ := hp
  have hhead : t.head?.any isGap = true := by
    rw [startsWith, ← ht, List.drop_left] at h
    simp only [Bool.and_eq_true] at h
    exact h.2.1.1
  have hstop : Stops isIdChar t := by
    intro c hc
    rw [Option.mem_def.mp hc] at hhead
    exact idChar_of_gap hhead
  obtain rfl : word = i := run_unique hw hi hstop (stops_gap hg (fun _ => idChar_of_gap) hid) ht
  have hne : g ≠ [] := by
    intro he
    obtain rfl := he
    obtain rfl : t = rest := List.append_cancel_left ht
    cases t with
    | nil => simp at hhead
    | cons c t => simp [stops_cons.mp hgap] at hhead
  rw [startsWith_gap hg hne hr] at h
  simp only [Bool.and_eq_true, Bool.not_eq_true'] at h
  rw [h.1, h.2] at ha
  contradiction

theorem hasArrow_append {u v : List Char} (h : hasArrow v = true) : hasArrow (u ++ v) = true := by
  induction u with
  | nil => exact h
  | cons c u ih => rw [List.cons_append, hasArrow, ih, Bool.or_true]

theorem ofLine_arrowLink {a : List Char} {bidirectional : Bool} (ha : a = arrow ∨ a = doubleArrow)
    (h : arrowLink a bidirectional range line s) (behind : List Char) :
    Heading.ofLine (line ++ behind) = .link := by
  obtain ⟨_, _, _, rfl, ⟨i, _, _, rfl, ⟨⟨hi, -⟩, hne⟩, rfl, -⟩, _, _, _, rfl,
    ⟨g, _, _, rfl, ⟨hg, -⟩, rfl, -⟩, mark, r, _, rfl, rfl, -⟩ := h
  simp only [List.append_nil, List.append_assoc]
  generalize r ++ behind = r
  have hid : Stops isIdChar (mark ++ r) := by
    rcases ha with rfl | rfl <;> exact stops_cons.mpr (by decide)
  have hgap : Stops isGap (mark ++ r) := by
    rcases ha with rfl | rfl <;> exact stops_cons.mpr (by decide)
  have hblank : Stops Text.isBlank (mark ++ r) := by
    rcases ha with rfl | rfl <;> exact stops_cons.mpr (by decide)
  have harrow : (arrow.isPrefixOf (mark ++ r) || doubleArrow.isPrefixOf (mark ++ r)) = true := by
    rcases ha with rfl | rfl <;> simp [arrow, doubleArrow, List.isPrefixOf]
  have hhas : hasArrow (mark ++ r) = true := by
    rcases ha with rfl | rfl <;> simp [hasArrow, arrow, doubleArrow, List.isPrefixOf]
  have hword (word : List Char) (hw : ∀ c ∈ word, isIdChar c = true) :
      startsWith word (i ++ (g ++ (mark ++ r))) = false :=
    startsWith_id hw hi hg hid hgap hblank harrow
  have hbrace : (i ++ (g ++ (mark ++ r))).head? ≠ some closeBrace := by
    obtain ⟨b, i, rfl⟩ := List.exists_cons_of_ne_nil hne
    intro hb
    have he : b = closeBrace := by simpa using hb
    exact absurd (hi b (by simp)) (by rw [he]; decide)
  rw [Heading.ofLine, hword nodeWord (List.all_eq_true.mp (by decide)),
    hword containerWord (List.all_eq_true.mp (by decide)), if_neg hbrace,
    hasArrow_append (hasArrow_append hhas)]
  rfl

/-- The heading of a line in one of the languages is the one of the language. -/
theorem ofLine_of_language {heading : Heading} (h : heading.language range line s) :
    Heading.ofLine line = heading := by
  cases heading with
  | node =>
    obtain ⟨u, g, t, rfl, hu, -⟩ := h
    rw [Heading.ofLine, if_pos (startsWith_keyword hu g)]
  | link =>
    obtain ⟨u, g, t, rfl, hu | hu, -⟩ := h
    · exact ofLine_arrowLink (Or.inr rfl) hu g
    · exact ofLine_arrowLink (Or.inl rfl) hu g
  | container =>
    obtain ⟨u, g, t, rfl, hu, -⟩ := h
    have hc := startsWith_keyword hu g
    have hn : startsWith nodeWord (u ++ g) = false := by
      obtain ⟨_, w, _, rfl, rfl, -⟩ := hu
      rfl
    rw [Heading.ofLine, hn, hc]
    rfl
  | close =>
    obtain ⟨u, g, t, rfl, ⟨_, _, _, rfl, rfl, rfl, -⟩, -⟩ := h
    rfl
  | unknown => contradiction

end Headings

/-- The integers that a statement gives. -/
def Statement.integers : Statement → List Int
  | .node decl => [decl.x, decl.y] ++ decl.width.toList ++ decl.height.toList
  | .container decl => [decl.x, decl.y, decl.width, decl.height]
  | .link _ => []
  | .close => []

/-- With integers of the range, all readings in the language have the property. -/
def Language.Yields {β : Type} (L : Language β) (range : Int → Prop) (good : β → Prop) : Prop :=
  ∀ u x, L range u x → good x

namespace Language.Yields

variable {β γ : Type} {range : Int → Prop} {middle : β → Prop} {good : γ → Prop} {L : Language β}

theorem bind {M : β → Language γ} (h : L.Yields range middle)
    (hM : ∀ x, middle x → (M x).Yields range good) : (L >>= M).Yields range good := by
  intro u y hm
  obtain ⟨v, w, x, -, hv, hw⟩ := hm
  exact hM x (h v x hv) w y hw

/-- What the first part reads as does not matter. -/
theorem skip {M : β → Language γ} (hM : ∀ x, (M x).Yields range good) :
    (L >>= M).Yields range good := by
  have hany : L.Yields range fun _ => True := fun _ _ _ => True.intro
  exact hany.bind fun x _ => hM x

theorem pure {value : γ} (h : good value) : (pure value : Language γ).Yields range good := by
  intro u x hm
  obtain ⟨-, rfl⟩ := hm
  exact h

theorem keyed {key : List Char} : (Language.keyed key Language.integer).Yields range range := by
  refine skip fun _ => skip fun _ => ?_
  intro u n h
  obtain ⟨_, -, -, hn⟩ := h
  exact hn

theorem field {key : List Char} {M : Int → Language γ}
    (hM : ∀ n, range n → (M n).Yields range good) :
    (do Language.someGap; let n ← Language.keyed key Language.integer; M n).Yields range good :=
  skip fun _ => keyed.bind hM

theorem size {key : List Char} :
    (perhaps do Language.someGap; Language.keyed key Language.integer).Yields range fun size =>
      ∀ n ∈ size.toList, range n := by
  intro u size h
  rcases h with ⟨-, rfl⟩ | ⟨n, hn, rfl⟩
  · simp
  · have hrange : range n := skip (fun _ => keyed) u n hn
    simpa using hrange

theorem node : Language.node.Yields range fun s => ∀ n ∈ s.integers, range n := by
  refine skip fun _ => skip fun _ => skip fun idAndLabel => skip fun _ => skip fun icon => ?_
  refine field fun x hx => field fun y hy => ?_
  refine size.bind fun width hwidth => size.bind fun height hheight => pure ?_
  simp only [Statement.integers, List.forall_mem_append, List.forall_mem_cons]
  exact ⟨⟨⟨hx, hy, by simp⟩, hwidth⟩, hheight⟩

theorem container : Language.container.Yields range fun s => ∀ n ∈ s.integers, range n := by
  refine skip fun _ => skip fun _ => skip fun idAndLabel => skip fun _ => skip fun kind => ?_
  refine field fun x hx => field fun y hy => field fun width hwidth =>
    field fun height hheight => ?_
  refine skip fun _ => skip fun _ => skip fun closing => pure ?_
  simp only [Statement.integers, List.forall_mem_cons]
  exact ⟨hx, hy, hwidth, hheight, by simp⟩

theorem arrowLink {arrow : List Char} {bidirectional : Bool} :
    (Language.arrowLink arrow bidirectional).Yields range fun s => ∀ n ∈ s.integers, range n := by
  refine skip fun _ => skip fun _ => skip fun _ => skip fun _ => skip fun _ => skip fun _ => pure ?_
  simp [Statement.integers]

theorem lines {form : Language Statement} {good : Statement → Prop} (h : form.Yields range good) :
    (Language.lines form).Yields range good :=
  h.bind fun _ hs => skip fun _ => pure hs

end Language.Yields

/-- The integers of a line lie in the range of its language. -/
theorem integers_range (heading : Heading) (range : Int → Prop) :
    heading.language.Yields range fun s => ∀ n ∈ s.integers, range n := by
  cases heading with
  | node => exact Yields.node.lines
  | link =>
    refine Yields.lines fun u s h => ?_
    rcases h with h | h
    · exact Yields.arrowLink u s h
    · exact Yields.arrowLink u s h
  | container => exact Yields.container.lines
  | close =>
    refine Yields.lines (Yields.skip fun _ => Yields.pure ?_)
    simp [Statement.integers]
  | unknown =>
    intro u s h
    contradiction

/-- A line has one heading and one reading, however large its integers are. -/
theorem language_unique {h k : Heading} {range range' : Int → Prop} {line : List Char}
    {s t : Statement} (hs : h.language range line s) (ht : k.language range' line t) :
    h = k ∧ s = t := by
  obtain rfl : h = k := (ofLine_of_language hs).symm.trans (ofLine_of_language ht)
  cases hf : h.form with
  | none =>
    cases h with
    | unknown => contradiction
    | _ => simp [Heading.form] at hf
  | some form => exact ⟨rfl, ((exact_lines hf).unique hs ht rfl rfl rfl).2⟩

theorem readStatement_of_language {h : Heading} {line : List Char} {s : Statement}
    (hs : h.language (Scan.inRange · = true) line s) : readStatement line = .ok s := by
  cases hf : h.form with
  | none =>
    cases h with
    | unknown => contradiction
    | _ => simp [Heading.form] at hf
  | some form =>
    have hr := (exact_lines hf).complete hs rfl
    rw [List.append_nil] at hr
    simp only [readStatement, ofLine_of_language hs, hf, Scan.run, hr]

theorem language_of_readStatement {line : List Char} {s : Statement}
    (h : readStatement line = .ok s) :
    (Heading.ofLine line).language (Scan.inRange · = true) line s := by
  cases hf : (Heading.ofLine line).form with
  | none => simp [readStatement, hf] at h
  | some form =>
    cases hr : (Source.wholeLine form).read line with
    | none => simp [readStatement, hf, Scan.run, hr] at h
    | some r =>
      obtain ⟨t, rest⟩ := r
      obtain ⟨u, hu, hs⟩ := (exact_lines hf).sound hr
      obtain rfl : t = s := by simpa [readStatement, hf, Scan.run, hr] using h
      obtain rfl : rest = [] := wholeLine_read hr
      rw [List.append_nil] at hu
      subst hu
      exact hs

/-- The heading of an error is the one of the line. -/
theorem readStatement_error {line : List Char} {e : StatementError}
    (h : readStatement line = .error e) :
    e.heading = Heading.ofLine line := by
  simp only [readStatement] at h
  split at h
  · exact (congrArg StatementError.heading (Except.error.inj h)).symm
  · split at h
    · contradiction
    · exact (congrArg StatementError.heading (Except.error.inj h)).symm

/-- A line is read as a statement exactly if one of the four languages has it. No line is in two of
them or says two things in one, even with integers of any size, and the heading is always right. A
line that would be a statement if an integer were not out of range is refused. -/
theorem readStatement_eq_ok_iff_language (line : List Char) :
    (∀ s, readStatement line = .ok s ↔
      ∃ heading : Heading, heading.language (Scan.inRange · = true) line s) ∧
    (∀ (h k : Heading) (range range' : Int → Prop) (s t : Statement),
      h.language range line s → k.language range' line t → h = k ∧ s = t) ∧
    (∀ (h : Heading) (range : Int → Prop) (s : Statement),
      h.language range line s → Heading.ofLine line = h) ∧
    (∀ (h : Heading) (s : Statement), h.language (fun _ => True) line s →
      (∃ n ∈ s.integers, Scan.inRange n = false) →
      ∃ reason, readStatement line = .error ⟨h, reason⟩) := by
  refine ⟨?_, fun h k range range' s t => language_unique, fun h range s => ofLine_of_language, ?_⟩
  · intro s
    constructor
    · exact fun hs => ⟨_, language_of_readStatement hs⟩
    · intro hs
      obtain ⟨_, hs⟩ := hs
      exact readStatement_of_language hs
  intro h s hs hm
  obtain ⟨n, hn, hout⟩ := hm
  cases hr : readStatement line with
  | ok t =>
    have ht := language_of_readStatement hr
    obtain ⟨-, rfl⟩ := language_unique hs ht
    rw [integers_range _ _ line s ht n hn] at hout
    contradiction
  | error e =>
    have he := readStatement_error hr
    rw [ofLine_of_language hs] at he
    exact ⟨e.reason, by rw [← he]⟩

end ArchDiagram.Source
