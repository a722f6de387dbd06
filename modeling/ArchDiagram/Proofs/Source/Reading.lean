import ArchDiagram.Proofs.Source.Language

namespace ArchDiagram.Source

/-- The text does not begin with a character of the kind. -/
def Stops (p : Char → Bool) (rest : List Char) : Prop := ∀ c ∈ rest.head?, p c = false

/-- Only blanks and tabs are left. -/
def Gaps (rest : List Char) : Prop := ∀ c ∈ rest, isGap c = true

/-- The first character after blanks and tabs is not the given one. -/
def Lacks (c : Char) (rest : List Char) : Prop := (rest.dropWhile isGap).head? ≠ some c

section Runs

variable {p : Char → Bool} {u v rest rest' : List Char}

theorem stops_nil : Stops p [] := by simp [Stops]

theorem stops_cons {c : Char} : Stops p (c :: rest) ↔ p c = false := by simp [Stops]

theorem takeWhile_run (hu : ∀ c ∈ u, p c = true) (hr : Stops p rest) :
    (u ++ rest).takeWhile p = u := by
  rw [List.takeWhile_append_of_pos hu]
  cases rest with
  | nil => simp
  | cons c rest => simp [stops_cons.mp hr]

theorem dropWhile_run (hu : ∀ c ∈ u, p c = true) (hr : Stops p rest) :
    (u ++ rest).dropWhile p = rest := by
  rw [List.dropWhile_append_of_pos hu]
  cases rest with
  | nil => simp
  | cons c rest => simp [stops_cons.mp hr]

/-- A run of characters of a kind ends at one place only. -/
theorem run_unique (hu : ∀ c ∈ u, p c = true) (hv : ∀ c ∈ v, p c = true) (hr : Stops p rest)
    (hr' : Stops p rest') (h : u ++ rest = v ++ rest') : u = v := by
  rw [← takeWhile_run hu hr, h, takeWhile_run hv hr']

theorem lacks_run {c : Char} (hu : ∀ d ∈ u, isGap d = true) :
    Lacks c (u ++ rest) ↔ Lacks c rest := by
  rw [Lacks, List.dropWhile_append_of_pos hu, Lacks]

theorem lacks_cons {c d : Char} (hd : isGap d = false) : Lacks c (d :: rest) ↔ d ≠ c := by
  simp [Lacks, hd]

theorem stops_gap (hu : Gaps u) (hp : ∀ c, isGap c = true → p c = false) (hr : Stops p rest) :
    Stops p (u ++ rest) := by
  cases u with
  | nil => exact hr
  | cons c u => exact stops_cons.mpr (hp c (hu c (by simp)))

theorem Gaps.stops (h : Gaps rest) (hp : ∀ c, isGap c = true → p c = false) : Stops p rest := by
  intro c hc
  exact hp c (h c (List.mem_of_head? hc))

theorem Gaps.lacks (h : Gaps rest) (c : Char) : Lacks c rest := by
  rw [← List.append_nil rest, lacks_run h]
  simp [Lacks]

end Runs

namespace Language

variable {β γ : Type}

/-- Before a text with the second property, every text of the language has the first one. -/
def Before (L : Language β) (stop behind : List Char → Prop) : Prop :=
  ∀ range u x rest, L range u x → behind rest → stop (u ++ rest)

theorem Before.bind {L : Language β} {M : β → Language γ} {stop middle behind : List Char → Prop}
    (h : L.Before stop middle) (hM : ∀ x, (M x).Before middle behind) :
    (L >>= M).Before stop behind := by
  intro range u y rest hm hr
  obtain ⟨v, w, x, rfl, hv, hw⟩ := hm
  rw [List.append_assoc]
  exact h range v x _ hv (hM x range w y rest hw hr)

/-- The first part alone decides what a text begins with. -/
theorem Before.first {L : Language β} {M : β → Language γ} {stop behind : List Char → Prop}
    (h : L.Before stop fun _ => True) : (L >>= M).Before stop behind :=
  h.bind fun _ _ _ _ _ _ _ => True.intro

theorem Before.trivial {L : Language β} {behind : List Char → Prop} :
    L.Before (fun _ => True) behind := fun _ _ _ _ _ _ => True.intro

theorem exactly_cons (c : Char) (word : List Char) :
    exactly (c :: word) = (exactly [c] >>= fun _ => exactly word) := by
  funext range u x
  apply propext
  constructor
  · intro he
    obtain rfl := he
    exact ⟨[c], word, (), rfl, rfl, rfl⟩
  · intro h
    obtain ⟨v, w, y, rfl, rfl, rfl⟩ := h
    rfl

theorem bind_nothing (L : Language Unit) : (L >>= fun _ => pure ()) = L := by
  funext range u x
  apply propext
  constructor
  · intro hm
    obtain ⟨v, w, y, rfl, hv, rfl, -⟩ := hm
    rwa [List.append_nil]
  · intro h
    exact ⟨u, [], x, (List.append_nil u).symm, h, rfl, rfl⟩

theorem Before.pure {value : β} {stop : List Char → Prop} :
    (pure value : Language β).Before stop stop := by
  intro range u x rest h hr
  obtain ⟨rfl, -⟩ := h
  exact hr

theorem Before.exactly {c : Char} {word : List Char} {p : Char → Bool} {behind : List Char → Prop}
    (hc : p c = false) : (exactly (c :: word)).Before (Stops p) behind := by
  intro range u x rest he _
  obtain rfl := he
  exact stops_cons.mpr hc

theorem Before.mark {c : Char} {word : List Char} {behind : List Char → Prop}
    (hc : isGap c = false) :
    (Language.exactly (c :: word)).Before (fun s => ¬Gaps s) behind := by
  intro range u x rest he _ h
  obtain rfl := he
  rw [h c (by simp)] at hc
  contradiction

theorem Before.gap {p : Char → Bool} (hp : ∀ c, isGap c = true → p c = false) :
    gap.Before (Stops p) (Stops p) := by
  intro range u _ rest h hr
  obtain ⟨v, w, x, rfl, ⟨hv, -⟩, rfl, -⟩ := h
  rw [List.append_nil]
  exact stops_gap hv hp hr

theorem Before.gap_mark : Language.gap.Before (fun s => ¬Gaps s) (fun s => ¬Gaps s) := by
  intro range u _ rest hm hr h
  obtain ⟨v, w, x, rfl, -, rfl, -⟩ := hm
  exact hr fun c hc => h c (by simp [hc])

theorem Before.someGap {p : Char → Bool} {behind : List Char → Prop}
    (hp : ∀ c, isGap c = true → p c = false) : someGap.Before (Stops p) behind := by
  intro range u _ rest h _
  obtain ⟨v, w, x, rfl, ⟨⟨hv, -⟩, hne⟩, rfl, -⟩ := h
  obtain ⟨c, v, rfl⟩ := List.exists_cons_of_ne_nil hne
  exact stops_cons.mpr (hp c (hv c (by simp)))

theorem Before.manyOne {p q : Char → Bool} {behind : List Char → Prop}
    (h : ∀ c, q c = true → p c = false) : (manyOne q).Before (Stops p) behind := by
  intro range u _ rest hm _
  obtain ⟨⟨hu, -⟩, hne⟩ := hm
  obtain ⟨c, u, rfl⟩ := List.exists_cons_of_ne_nil hne
  exact stops_cons.mpr (h c (hu c (by simp)))

theorem Before.word {p q : Char → Bool} {behind : List Char → Prop}
    (h : ∀ c, q c = true → p c = false) : (word q).Before (Stops p) behind :=
  Before.first (Before.manyOne h)

theorem Before.perhaps {L : Language β} {stop behind : List Char → Prop}
    (h : L.Before stop behind) (hs : ∀ rest, behind rest → stop rest) :
    (perhaps L).Before stop behind := by
  intro range u _ rest hm hr
  rcases hm with ⟨rfl, -⟩ | ⟨x, hx, -⟩
  · exact hs rest hr
  · exact h range u x rest hx hr

end Language

/-- The reader takes exactly the texts of the language where the text behind stops them: what it
takes is one of them, such a text is taken whole, and no two of them begin the same text. -/
structure Scan.Exact {β : Type} (scan : Scan β) (L : Language β) (stop : List Char → Prop) :
    Prop where
  sound : ∀ {s x rest}, scan.read s = some (x, rest) →
    ∃ u, s = u ++ rest ∧ L (Scan.inRange · = true) u x
  complete : ∀ {u x rest}, L (Scan.inRange · = true) u x → stop rest →
    scan.read (u ++ rest) = some (x, rest)
  unique : ∀ {range range' u v x y rest rest'}, L range u x → L range' v y → stop rest →
    stop rest' → u ++ rest = v ++ rest' → u = v ∧ x = y

namespace Scan.Exact

open ArchDiagram.Source.Language

variable {β γ : Type} {scan : Scan β} {L : Language β} {stop : List Char → Prop}

theorem weaken {stop' : List Char → Prop} (h : scan.Exact L stop) (hs : ∀ s, stop' s → stop s) :
    scan.Exact L stop' where
  sound := h.sound
  complete hu hr := h.complete hu (hs _ hr)
  unique hu hv hr hr' := h.unique hu hv (hs _ hr) (hs _ hr')

theorem pure {value : β} : (pure value : Scan β).Exact (pure value) stop where
  sound := by
    intro s x rest h
    obtain ⟨rfl, rfl⟩ := Prod.mk.inj (Option.some.inj h)
    exact ⟨[], rfl, rfl, rfl⟩
  complete := by
    intro u x rest hm _
    obtain ⟨rfl, rfl⟩ := hm
    rfl
  unique := by
    intro range range' u v x y rest rest' hm hl _ _ _
    obtain ⟨rfl, rfl⟩ := hm
    obtain ⟨rfl, rfl⟩ := hl
    exact ⟨rfl, rfl⟩

/-- A part after another one: what may follow the first has to stop it. -/
theorem bind {next : β → Scan γ} {M : β → Language γ} {stop' : List Char → Prop}
    (h : scan.Exact L stop) (hn : ∀ x, (next x).Exact (M x) stop')
    (hb : ∀ x, (M x).Before stop stop') : (scan >>= next).Exact (L >>= M) stop' where
  sound := by
    intro s y rest hr
    change (scan.read s).bind (fun r => (next r.1).read r.2) = some (y, rest) at hr
    obtain ⟨⟨x, middle⟩, hx, hy⟩ := Option.bind_eq_some_iff.mp hr
    obtain ⟨v, rfl, hv⟩ := h.sound hx
    obtain ⟨w, rfl, hw⟩ := (hn x).sound hy
    exact ⟨v ++ w, by simp, v, w, x, rfl, hv, hw⟩
  complete := by
    intro u y rest hm hr
    obtain ⟨v, w, x, rfl, hv, hw⟩ := hm
    change (scan.read _).bind (fun r => (next r.1).read r.2) = _
    rw [List.append_assoc, h.complete hv (hb x _ w y rest hw hr)]
    exact (hn x).complete hw hr
  unique := by
    intro range range' _ _ y y' rest rest' hm hl hr hr' he
    obtain ⟨v, w, x, rfl, hv, hw⟩ := hm
    obtain ⟨v', w', x', rfl, hv', hw'⟩ := hl
    rw [List.append_assoc, List.append_assoc] at he
    obtain ⟨rfl, rfl⟩ := h.unique hv hv' (hb x _ w y _ hw hr) (hb x' _ w' y' _ hw' hr') he
    obtain ⟨rfl, rfl⟩ := (hn x).unique hw hw' hr hr' (List.append_cancel_left he)
    exact ⟨rfl, rfl⟩

/-- Nothing behind can change what the first part takes. -/
theorem followed {next : β → Scan γ} {M : β → Language γ} (h : scan.Exact L fun _ => True)
    (hn : ∀ x, (next x).Exact (M x) stop) : (scan >>= next).Exact (L >>= M) stop :=
  h.bind hn fun _ => Before.trivial

theorem char (c : Char) : (Scan.char c).Exact (exactly [c]) stop where
  sound := by
    intro s x rest h
    match s, h with
    | d :: s, h =>
      by_cases hd : d = c
      · subst hd
        simp only [Scan.char, if_true, Option.some.injEq, Prod.mk.injEq] at h
        exact ⟨[d], by simp [h.2], rfl⟩
      · simp [Scan.char, hd] at h
  complete := by
    intro u x rest he _
    obtain rfl := he
    simp [Scan.char]
  unique := by
    intro range range' u v x y rest rest' he hm _ _ _
    obtain rfl := he
    obtain rfl := hm
    exact ⟨rfl, rfl⟩

theorem literal (word : List Char) : (Scan.literal word).Exact (exactly word) stop := by
  induction word with
  | nil =>
    refine ⟨?_, ?_, ?_⟩
    · intro s x rest h
      obtain ⟨-, rfl⟩ := Prod.mk.inj (Option.some.inj h)
      exact ⟨[], rfl, rfl⟩
    · intro u x rest he _
      obtain rfl := he
      rfl
    · intro range range' u v x y rest rest' he hm _ _ _
      obtain rfl := he
      obtain rfl := hm
      exact ⟨rfl, rfl⟩
  | cons c word ih =>
    rw [exactly_cons]
    exact (char c).followed fun _ => ih

/-- A run has to be followed by something that could not go on with it. -/
theorem span (p : Char → Bool) (expected : List Char → List Expected) :
    (Scan.span p expected).Exact (many p) (Stops p) where
  sound := by
    intro s x rest h
    obtain ⟨rfl, rfl⟩ := Prod.mk.inj (Option.some.inj h)
    exact ⟨_, List.takeWhile_append_dropWhile.symm, fun c hc => List.mem_takeWhile_imp hc, rfl⟩
  complete := by
    intro u x rest hm hr
    obtain ⟨hu, rfl⟩ := hm
    simp only [Scan.span, takeWhile_run hu hr, dropWhile_run hu hr]
  unique := by
    intro range range' u v x y rest rest' hm hl hr hr' h
    obtain ⟨hu, rfl⟩ := hm
    obtain ⟨hv, rfl⟩ := hl
    exact ⟨run_unique hu hv hr hr' h, run_unique hu hv hr hr' h⟩

theorem nonempty (p : Char → Bool) (expected : List Char → List Expected) :
    (Scan.nonempty (Scan.span p expected)).Exact (manyOne p) (Stops p) where
  sound := by
    intro s x rest h
    change ((Scan.span p expected).read s).filter (fun r => !r.1.isEmpty) = _ at h
    obtain ⟨hr, hx⟩ := Option.filter_eq_some_iff.mp h
    obtain ⟨u, rfl, hu, rfl⟩ := (span p expected).sound hr
    exact ⟨x, rfl, ⟨hu, rfl⟩, by simpa using hx⟩
  complete := by
    intro u x rest hm hr
    obtain ⟨hu, hne⟩ := hm
    change ((Scan.span p expected).read _).filter (fun r => !r.1.isEmpty) = _
    refine Option.filter_eq_some_iff.mpr ⟨(span p expected).complete hu hr, ?_⟩
    obtain ⟨-, rfl⟩ := hu
    simpa using hne
  unique := by
    intro range range' u v x y rest rest' hm hl hr hr' h
    obtain ⟨hu, -⟩ := hm
    obtain ⟨hv, -⟩ := hl
    exact (span p expected).unique hu hv hr hr' h

theorem gap : Scan.gap.Exact Language.gap (Stops isGap) :=
  (span isGap _).bind (fun _ => pure) (fun _ => Before.pure)

theorem someGap : Scan.someGap.Exact Language.someGap (Stops isGap) :=
  (nonempty isGap _).bind (fun _ => pure) (fun _ => Before.pure)

theorem word (p : Char → Bool) : (Scan.word p).Exact (Language.word p) (Stops p) :=
  (nonempty p _).bind (fun _ => pure) (fun _ => Before.pure)

theorem label : Scan.label.Exact quoted stop :=
  (char quoteMark).followed fun _ => (span isLabelChar _).bind
    (fun _ => (char quoteMark).followed fun _ => pure)
    (fun _ => Before.first (Before.exactly (by decide)))

/-- A part that may be missing: where it is missing, the text behind must not begin with it. -/
theorem optional {behind : List Char → Prop} (h : scan.Exact L stop)
    (hs : ∀ rest, behind rest → stop rest)
    (hb : L.Before (fun s => ¬behind s) fun _ => True) :
    scan.optional.Exact (perhaps L) behind where
  sound := by
    intro s x rest hr
    cases hp : scan.read s with
    | none =>
      simp only [Scan.optional, hp, Option.some.injEq, Prod.mk.injEq] at hr
      exact ⟨[], by simp [hr.2], Or.inl ⟨rfl, hr.1.symm⟩⟩
    | some r =>
      simp only [Scan.optional, hp, Option.some.injEq, Prod.mk.injEq] at hr
      obtain ⟨u, rfl, hu⟩ := h.sound hp
      exact ⟨u, by rw [hr.2], Or.inr ⟨r.1, hu, hr.1.symm⟩⟩
  complete := by
    intro u _ rest hm hr
    rcases hm with ⟨rfl, rfl⟩ | ⟨x, hx, rfl⟩
    · cases hp : scan.read rest with
      | none => simp [Scan.optional, hp]
      | some r =>
        obtain ⟨x, rest'⟩ := r
        obtain ⟨u, he, hu⟩ := h.sound hp
        exact absurd (he ▸ hr) (hb _ u x rest' hu True.intro)
    · simp [Scan.optional, h.complete hx (hs rest hr)]
  unique := by
    intro range range' u v _ _ rest rest' hm hl hr hr' he
    rcases hm with ⟨rfl, rfl⟩ | ⟨x, hx, rfl⟩ <;> rcases hl with ⟨rfl, rfl⟩ | ⟨y, hy, rfl⟩
    · exact ⟨rfl, rfl⟩
    · exact absurd (he ▸ hr : behind (v ++ rest')) (hb _ v y rest' hy True.intro)
    · exact absurd (he ▸ hr' : behind (u ++ rest)) (hb _ u x rest hx True.intro)
    · obtain ⟨rfl, rfl⟩ := h.unique hx hy (hs rest hr) (hs rest' hr') he
      exact ⟨rfl, rfl⟩

/-- Either of two forms, of which no text can begin with both. -/
theorem orElse {other : Scan β} {M : Language β} (h : scan.Exact L stop) (ho : other.Exact M stop)
    (apart : ∀ {range range' u v x y rest rest'}, L range u x → M range' v y →
      u ++ rest ≠ v ++ rest') : (scan.orElse other).Exact (either L M) stop where
  sound := by
    intro s x rest hr
    cases hp : scan.read s with
    | none =>
      simp only [Scan.orElse, hp, Option.none_or] at hr
      obtain ⟨u, rfl, hu⟩ := ho.sound hr
      exact ⟨u, rfl, Or.inr hu⟩
    | some r =>
      simp only [Scan.orElse, hp, Option.some_or, Option.some.injEq] at hr
      obtain ⟨u, rfl, hu⟩ := h.sound (hr ▸ hp)
      exact ⟨u, rfl, Or.inl hu⟩
  complete := by
    intro u x rest hm hr
    rcases hm with hu | hu
    · simp [Scan.orElse, h.complete hu hr]
    · cases hp : scan.read (u ++ rest) with
      | none => simp [Scan.orElse, hp, ho.complete hu hr]
      | some r =>
        obtain ⟨y, rest'⟩ := r
        obtain ⟨v, he, hv⟩ := h.sound hp
        exact absurd he.symm (apart hv hu)
  unique := by
    intro range range' u v x y rest rest' hm hl hr hr' he
    rcases hm with hu | hu <;> rcases hl with hv | hv
    · exact h.unique hu hv hr hr' he
    · exact absurd he (apart hu hv)
    · exact absurd he.symm (apart hv hu)
    · exact ho.unique hu hv hr hr' he

/-- A zero ends the numeral, other digits go on to the last one. -/
theorem digits : Scan.digits.Exact numeral (Stops Char.isDigit) where
  sound := by
    intro s x rest h
    match s, h with
    | c :: s, h =>
      by_cases hz : c = '0'
      · subst hz
        simp only [Scan.digits, if_true, Option.some.injEq, Prod.mk.injEq] at h
        obtain ⟨rfl, rfl⟩ := h
        exact ⟨['0'], rfl, ⟨⟨by simp, rfl⟩, by simp⟩, by simp⟩
      · by_cases hd : c.isDigit
        · simp only [Scan.digits, hz, hd, if_false, if_true] at h
          obtain ⟨u, he, hu, rfl⟩ := (span Char.isDigit fun _ => []).sound h
          obtain ⟨rfl, -⟩ := Prod.mk.inj (Option.some.inj h)
          refine ⟨_, he, ⟨⟨hu, rfl⟩, ?_⟩, ?_⟩ <;> simp [hd, hz]
        · simp [Scan.digits, hz, hd] at h
  complete := by
    intro u x rest hm hr
    obtain ⟨⟨hu, hne⟩, hz⟩ := hm
    obtain ⟨c, v, rfl⟩ := List.exists_cons_of_ne_nil hne
    have hrun := (span Char.isDigit fun _ => []).complete hu hr
    obtain ⟨hd, rfl⟩ := hu
    by_cases hc : c = '0'
    · subst hc
      obtain rfl : v = [] := by simpa using hz rfl
      rfl
    · have hdigit : c.isDigit = true := hd c (by simp)
      rw [← hrun]
      simp only [Scan.digits, Scan.span, List.cons_append, if_neg hc, if_pos hdigit]
  unique := by
    intro range range' u v x y rest rest' hm hl hr hr' h
    obtain ⟨⟨hu, -⟩, -⟩ := hm
    obtain ⟨⟨hv, -⟩, -⟩ := hl
    exact (span Char.isDigit fun _ => []).unique hu hv hr hr' h

theorem signedDigits : Scan.signedDigits.Exact signed (Stops Char.isDigit) := by
  have hsign : (Scan.char '-').optional.Exact (perhaps (exactly ['-'])) (Stops (· = '-')) := by
    have hchar : (Scan.char '-').Exact (exactly ['-']) fun _ => True := char '-'
    refine hchar.optional (fun _ _ => True.intro) ?_
    intro range u x rest he _ h
    obtain rfl := he
    simp [Stops] at h
  have hdigits : (manyOne Char.isDigit).Before (Stops (· = '-')) fun _ => True := by
    refine Before.manyOne fun c hc => ?_
    simp only [decide_eq_false_iff_not]
    intro he
    obtain rfl := he
    exact absurd hc (by decide)
  refine hsign.bind (fun sign => ?_) (fun sign => Before.first ?_)
  · exact digits.bind (fun chars => pure) (fun _ => Before.pure)
  · intro range u x rest hm _
    obtain ⟨hu, -⟩ := hm
    exact hdigits range u x rest hu True.intro

/-- An integer that is out of range is not read at all. -/
theorem integer : Scan.integer.Exact Language.integer (Stops Char.isDigit) where
  sound := by
    intro s n rest h
    obtain ⟨⟨text, rest⟩, hr, hn⟩ := Option.bind_eq_some_iff.mp h
    obtain ⟨u, rfl, hu⟩ := signedDigits.sound hr
    by_cases hi : Scan.inRange (Scan.signedValue text) = true
    · simp only [hi, if_true, Option.some.injEq, Prod.mk.injEq] at hn
      obtain ⟨rfl, rfl⟩ := hn
      exact ⟨u, rfl, text, hu, rfl, hi⟩
    · simp [hi] at hn
  complete := by
    intro u n rest hm hr
    obtain ⟨text, hu, rfl, hi⟩ := hm
    change (Scan.signedDigits.read (u ++ rest)).bind _ = _
    rw [signedDigits.complete hu hr]
    simp [hi]
  unique := by
    intro range range' u v m n rest rest' hm hl hr hr' h
    obtain ⟨text, hu, rfl, -⟩ := hm
    obtain ⟨text', hv, rfl, -⟩ := hl
    obtain ⟨rfl, rfl⟩ := signedDigits.unique hu hv hr hr' h
    exact ⟨rfl, rfl⟩

theorem keyed {key : List Char} (h : scan.Exact L stop) :
    (Scan.keyed key scan).Exact (Language.keyed key L) stop :=
  (literal key).followed fun _ => (char '=').followed fun _ => h

/-- A gap and a mark, in front of more. -/
theorem mark {c : Char} {next : Scan γ} {M : Language γ} (hc : isGap c = false)
    (hn : next.Exact M stop) :
    (do Scan.gap; Scan.char c; next).Exact (do Language.gap; exactly [c]; M) stop :=
  gap.bind (fun _ => (char c).followed fun _ => hn) (fun _ => Before.first (Before.exactly hc))

/-- A gap and a value with its key, in front of more. -/
theorem field {c : Char} {key : List Char} {next : β → Scan γ} {M : β → Language γ}
    {stop' : List Char → Prop} (h : scan.Exact L stop) (hc : isGap c = false)
    (hn : ∀ x, (next x).Exact (M x) stop') (hb : ∀ x, (M x).Before stop stop') :
    (do Scan.someGap; let x ← Scan.keyed (c :: key) scan; next x : Scan γ).Exact
      (do Language.someGap; let x ← Language.keyed (c :: key) L; M x) stop' :=
  someGap.bind (fun _ => h.keyed.bind hn hb)
    (fun _ => Before.first (Before.first (Before.exactly hc)))

/-- Blanks and tabs up to the end of the text. -/
theorem lineEnd : Scan.lineEnd.Exact Language.gap (· = []) := by
  rw [← bind_nothing Language.gap]
  refine gap.bind (fun _ => ⟨?_, ?_, ?_⟩) (fun _ => ?_)
  · intro s x rest h
    simp only [Option.ite_none_right_eq_some, Option.some.injEq, Prod.mk.injEq] at h
    exact ⟨[], h.2.2, rfl, rfl⟩
  · intro u x rest hm he
    obtain ⟨rfl, -⟩ := hm
    obtain rfl := he
    rfl
  · intro range range' u v x y rest rest' hm hl _ _ _
    obtain ⟨rfl, -⟩ := hm
    obtain ⟨rfl, -⟩ := hl
    exact ⟨rfl, rfl⟩
  · intro range u x rest hm he
    obtain ⟨rfl, -⟩ := hm
    obtain rfl := he
    exact stops_nil

/-- A whole line: the form stops where only blanks and tabs are left. -/
theorem wholeLine {form : Scan Statement} {F : Language Statement}
    (h : form.Exact F Gaps) :
    (Source.wholeLine form).Exact (lines F) (· = []) := by
  refine h.bind (fun _ => lineEnd.bind (fun _ => pure) (fun _ => Before.pure)) (fun _ => ?_)
  intro range u x rest hm he
  obtain ⟨_, _, _, rfl, ⟨v, _, _, rfl, ⟨hv, -⟩, rfl, -⟩, rfl, -⟩ := hm
  obtain rfl := he
  simpa [Gaps] using hv

theorem wholeLine_read {form : Scan Statement} {s : List Char} {r : Statement × List Char}
    (h : (Source.wholeLine form).read s = some r) : r.2 = [] := by
  change (form.read s).bind (fun a => (Scan.gap.read a.2).bind (fun b =>
    (if b.2.isEmpty then some ((), b.2) else none).bind (fun c => some (a.1, c.2)))) = some r at h
  obtain ⟨a, -, h⟩ := Option.bind_eq_some_iff.mp h
  obtain ⟨b, -, h⟩ := Option.bind_eq_some_iff.mp h
  obtain ⟨c, hc, h⟩ := Option.bind_eq_some_iff.mp h
  obtain ⟨he, hc⟩ := Option.ite_none_right_eq_some.mp hc
  rw [← Option.some.inj h, ← Option.some.inj hc]
  exact List.isEmpty_iff.mp he

end Scan.Exact

end ArchDiagram.Source
