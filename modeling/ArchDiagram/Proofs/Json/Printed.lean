import Mathlib
import ArchDiagram.Json.Reader
import ArchDiagram.Proofs.Json.Token

namespace ArchDiagram.Json

variable {s rest : List Char}

section Run

/-- Reads a text from a state on. -/
def run (s : List Char) (r : Reading) : Option Reading :=
  (tokens s).bind fun ts => ts.foldlM Reading.step r

theorem run_nil (r : Reading) : run [] r = some r := by
  rw [run, tokens]
  rfl

theorem run_blank {c : Char} (h : isJsonBlank c = true) (rest : List Char) (r : Reading) :
    run (c :: rest) r = run rest r := by
  rw [run, tokens, if_pos h]
  rfl

theorem run_token {c : Char} {token : Token} (hc : isJsonBlank c = false)
    (h : readToken (c :: s) = some (token, rest)) (r : Reading) :
    run (c :: s) r = (r.step token).bind (run rest) := by
  have htokens : tokens (c :: s) = (tokens rest).map (token :: ·) := by
    rw [tokens, if_neg (by simp [hc])]
    split
    · next hnone =>
      rw [h] at hnone
      cases hnone
    · next hsome =>
      rw [h] at hsome
      cases hsome
      rfl
  rw [run, htokens]
  cases htail : tokens rest with
  | none => cases hstep : r.step token <;> simp [run, htail]
  | some ts => cases hstep : r.step token <;> simp [run, htail, hstep]

theorem run_newline (rest : List Char) (r : Reading) : run ('\n' :: rest) r = run rest r :=
  run_blank rfl rest r

theorem run_space (rest : List Char) (r : Reading) : run (' ' :: rest) r = run rest r :=
  run_blank rfl rest r

theorem run_indent (depth : Nat) (rest : List Char) (r : Reading) :
    run (indent depth ++ rest) r = run rest r := by
  have hblanks (n : Nat) : run (List.replicate n ' ' ++ rest) r = run rest r := by
    induction n with
    | zero => rfl
    | succ n ih => rw [List.replicate_succ, List.cons_append, run_space, ih]
  exact hblanks (2 * depth)

theorem run_comma (rest : List Char) (r : Reading) :
    run (',' :: rest) r = (r.step .comma).bind (run rest) :=
  run_token rfl rfl r

theorem run_colon (rest : List Char) (r : Reading) :
    run (':' :: rest) r = (r.step .colon).bind (run rest) :=
  run_token rfl rfl r

theorem run_openList (rest : List Char) (r : Reading) :
    run (Char.ofNat 0x5B :: rest) r = (r.step .openList).bind (run rest) := run_token rfl rfl r

theorem run_closeList (rest : List Char) (r : Reading) :
    run (Char.ofNat 0x5D :: rest) r = (r.step .closeList).bind (run rest) := run_token rfl rfl r

theorem run_openObject (rest : List Char) (r : Reading) :
    run (Char.ofNat 0x7B :: rest) r = (r.step .openObject).bind (run rest) := run_token rfl rfl r

theorem run_closeObject (rest : List Char) (r : Reading) :
    run (Char.ofNat 0x7D :: rest) r = (r.step .closeObject).bind (run rest) := run_token rfl rfl r

theorem run_quoted (name : String) (rest : List Char) (r : Reading) :
    run (quoted name ++ rest) r = (r.step (.text (some name))).bind (run rest) := by
  have htoken := readToken_quoted name rest
  exact run_token rfl htoken r

end Run

section Members

variable {β : Type} {text : β → List Char} {next full : List β → Reading} {first last r : Reading}

/-- Reads the members of a list or an object. Between two of them the state depends on those that
were read, the last one first. -/
theorem run_members (hcomma : ∀ done, (full done).step .comma = some (next done)) (depth : Nat)
    {b : β} {items done : List β}
    (hfirst : ∀ rest, EndsNumeral rest → run (text b ++ rest) first = run rest (full (b :: done)))
    (hnext : ∀ b' ∈ items, ∀ done rest, EndsNumeral rest →
      run (text b' ++ rest) (next done) = run rest (full (b' :: done)))
    (hrest : EndsNumeral rest) :
    run (List.intercalate [',', '\n']
      (((b :: items).map text).map (indent depth ++ ·)) ++ rest) first =
      run rest (full ((b :: items).reverse ++ done)) := by
  induction items generalizing b done first with
  | nil =>
    simp only [List.map_cons, List.map_nil, List.intercalate_singleton, List.append_assoc,
      run_indent]
    exact hfirst rest hrest
  | cons b' items ih =>
    have hsep : ∀ tail, EndsNumeral (',' :: tail) := by
      rintro tail c ⟨⟩
      decide
    have hmember :=
      ih (hnext b' List.mem_cons_self (b :: done)) fun c hc => hnext c (List.mem_cons_of_mem b' hc)
    rw [List.map_cons, List.map_cons, List.intercalate_cons_of_ne_nil (by simp)]
    simp only [List.append_assoc, run_indent, List.cons_append, List.nil_append]
    rw [hfirst _ (hsep _), run_comma, hcomma, Option.bind_some, run_newline, hmember]
    simp

theorem run_block (next full : List β → Reading) {opening closing : Nat} (depth : Nat)
    {items : List β} (hopening : ∀ s, run (Char.ofNat opening :: s) r = run s first)
    (hclosing : ∀ s, run (Char.ofNat closing :: s) (full items.reverse) = run s last)
    (hempty : items = [] → ∀ s, run (Char.ofNat closing :: s) first = run s last)
    (hcomma : ∀ done, (full done).step .comma = some (next done))
    (hfirst : ∀ b ∈ items, ∀ rest, EndsNumeral rest →
      run (text b ++ rest) first = run rest (full [b]))
    (hnext : ∀ b ∈ items, ∀ done rest, EndsNumeral rest →
      run (text b ++ rest) (next done) = run rest (full (b :: done)))
    (rest : List Char) :
    run (block depth opening closing (items.map text) ++ rest) r = run rest last := by
  cases items with
  | nil =>
    change run (Char.ofNat opening :: Char.ofNat closing :: rest) r = _
    rw [hopening, hempty rfl]
  | cons b items =>
    have hline : ∀ tail, EndsNumeral ('\n' :: tail) := by
      rintro tail c ⟨⟩
      decide
    have hmembers := run_members hcomma (depth + 1) (hfirst b List.mem_cons_self)
      (fun c hc => hnext c (List.mem_cons_of_mem b hc))
        (hline (indent depth ++ Char.ofNat closing :: rest))
    rw [block, if_neg (by simp)]
    simp only [List.append_assoc, List.cons_append, List.nil_append]
    rw [hopening, run_newline, hmembers, run_newline, run_indent, List.append_nil, hclosing]

end Members

section Values

/-- The text of a number is a numeral for just this number. -/
def ReadsBack (x : Float) : Prop :=
  ∃ n, readNumeral (Decimal.shortest x) = some (n, []) ∧ n.value = .num x

/-- A value whose text names it: integers have 64 bits, other numbers are finite and read back. -/
inductive Printable : Json Float → Prop
  | null : Printable .null
  | bool (b : Bool) : Printable (.bool b)
  | int {n : Int} (hlow : -9223372036854775808 ≤ n) (hhigh : n < 18446744073709551616) :
      Printable (.int n)
  | num {x : Float} (hfinite : x.isFinite = true) (hback : ReadsBack x) : Printable (.num x)
  | str (text : String) : Printable (.str text)
  | arr {items : List (Json Float)} (h : ∀ item ∈ items, Printable item) : Printable (.arr items)
  | obj {fields : List (String × Json Float)} (h : ∀ field ∈ fields, Printable field.2) :
      Printable (.obj fields)

def Begins (await : Await) : Prop := await = .value ∨ await = .firstItem

/-- The text of a value is read as the value, at any depth and whatever it stands in. -/
def Reads (v : Json Float) : Prop :=
  ∀ (depth : Nat) (rest : List Char) (frames : List Frame) (await : Await),
    EndsNumeral rest → Begins await →
    run (print depth v ++ rest) ⟨frames, await⟩ = run rest (.put frames v)

variable {v : Json Float} {frames : List Frame} {await : Await}

theorem step_begins (h : Begins await) (frames : List Frame) (token : Token)
    (htoken : token ≠ .closeList) :
    Reading.step ⟨frames, await⟩ token = Reading.begin frames token := by
  rcases h with rfl | rfl
  · cases token <;> rfl
  · cases token <;> first | rfl | contradiction

theorem printItems_eq (depth : Nat) (items : List (Json Float)) :
    printItems depth items = items.map (print depth) := by
  induction items with
  | nil => rfl
  | cons item rest ih => rw [printItems, ih, List.map_cons]

theorem printFields_eq (depth : Nat) (fields : List (String × Json Float)) :
    printFields depth fields = fields.map fun field =>
      quoted field.1 ++ [':', ' '] ++ print depth field.2 := by
  induction fields with
  | nil => rfl
  | cons field rest ih => rw [printFields, ih, List.map_cons]

theorem run_numeral {s : List Char} {n : Numeral} (hs : readNumeral s = some (n, []))
    (hawait : Begins await) (hrest : EndsNumeral rest) :
    run (s ++ rest) ⟨frames, await⟩ = run rest (.put frames n.value) := by
  have htoken := readToken_numeral hrest hs
  obtain ⟨c, more, rfl, hc⟩ := head?_of_readNumeral hs
  have hblank : isJsonBlank c = false := by
    have hne {m : Char} (hm : ¬(m = '-' ∨ m.isDigit = true)) : c ≠ m := fun he => hm (he ▸ hc)
    have hspace : c ≠ ' ' := hne (by decide)
    have htab : c ≠ '\t' := hne (by decide)
    have hline : c ≠ '\n' := hne (by decide)
    have hreturn : c ≠ '\r' := hne (by decide)
    simp [isJsonBlank, hspace, htab, hline, hreturn]
  have hstep := step_begins hawait frames (.value n.value) (by simp)
  rw [List.cons_append] at htoken ⊢
  rw [run_token hblank htoken, hstep]
  rfl

theorem reads_null : Reads .null := by
  intro depth rest frames await _ hawait
  have hstep := step_begins hawait frames (.value .null) (by simp)
  change run ('n' :: 'u' :: 'l' :: 'l' :: rest) _ = _
  rw [run_token rfl rfl, hstep]
  rfl

theorem reads_bool (b : Bool) : Reads (.bool b) := by
  intro depth rest frames await _ hawait
  have hstep := step_begins hawait frames (.value (.bool b)) (by simp)
  cases b with
  | true =>
    change run ('t' :: 'r' :: 'u' :: 'e' :: rest) _ = _
    rw [run_token rfl rfl, hstep]
    rfl
  | false =>
    change run ('f' :: 'a' :: 'l' :: 's' :: 'e' :: rest) _ = _
    rw [run_token rfl rfl, hstep]
    rfl

theorem reads_str (text : String) : Reads (.str text) := by
  intro depth rest frames await _ hawait
  have hstep := step_begins hawait frames (.text (some text)) (by simp)
  rw [print, run_quoted, hstep]
  rfl

theorem reads_arr {items : List (Json Float)} (h : ∀ item ∈ items, Reads item) :
    Reads (.arr items) := by
  intro depth rest frames await hrest hawait
  let next (done : List (Json Float)) : Reading := ⟨.list done :: frames, .value⟩
  let full (done : List (Json Float)) : Reading := ⟨.list done :: frames, .separator⟩
  let first : Reading := ⟨.list [] :: frames, .firstItem⟩
  have hopening (s : List Char) : run (Char.ofNat 0x5B :: s) ⟨frames, await⟩ = run s first := by
    rw [run_openList, step_begins hawait frames .openList (by simp)]
    rfl
  have hclosing (s : List Char) :
      run (Char.ofNat 0x5D :: s) (full items.reverse) = run s (.put frames (.arr items)) := by
    have hstep : (full items.reverse).step .closeList =
        some (.put frames (.arr items.reverse.reverse)) := rfl
    rw [run_closeList, hstep, List.reverse_reverse]
    rfl
  have hempty (hnil : items = []) (s : List Char) :
      run (Char.ofNat 0x5D :: s) first = run s (.put frames (.arr items)) := by
    rw [hnil, run_closeList]
    rfl
  rw [print, printItems_eq]
  exact run_block next full depth hopening hclosing hempty (fun _ => rfl)
    (fun item hm rest hrest => h item hm (depth + 1) rest _ _ hrest (.inr rfl))
    (fun item hm done rest hrest => h item hm (depth + 1) rest _ _ hrest (.inl rfl)) rest

/-- The key of the last field that was read stays in the frame until the next key comes. -/
theorem reads_obj {fields : List (String × Json Float)} (h : ∀ field ∈ fields, Reads field.2) :
    Reads (.obj fields) := by
  intro depth rest frames await hrest hawait
  let key (done : List (String × Json Float)) : String := (done.head?.map (·.1)).getD ""
  let next (done : List (String × Json Float)) : Reading :=
    ⟨.object done (key done) true :: frames, .key⟩
  let full (done : List (String × Json Float)) : Reading :=
    ⟨.object done (key done) true :: frames, .separator⟩
  let first : Reading := ⟨.object [] "" true :: frames, .firstKey⟩
  have hopening (s : List Char) : run (Char.ofNat 0x7B :: s) ⟨frames, await⟩ = run s first := by
    rw [run_openObject, step_begins hawait frames .openObject (by simp)]
    rfl
  have hclosing (s : List Char) :
      run (Char.ofNat 0x7D :: s) (full fields.reverse) = run s (.put frames (.obj fields)) := by
    have hstep : (full fields.reverse).step .closeObject =
        some (.put frames (.obj fields.reverse.reverse)) := rfl
    rw [run_closeObject, hstep, List.reverse_reverse]
    rfl
  have hempty (hnil : fields = []) (s : List Char) :
      run (Char.ofNat 0x7D :: s) first = run s (.put frames (.obj fields)) := by
    rw [hnil, run_closeObject]
    rfl
  have hfield (field : String × Json Float) (hm : field ∈ fields)
    (done : List (String × Json Float))
      (rest : List Char) (hrest : EndsNumeral rest) {before : Reading}
      (hkey : before.step (.text (some field.1)) =
        some ⟨.object done field.1 true :: frames, .colon⟩) :
      run (quoted field.1 ++ [':', ' '] ++ print (depth + 1) field.2 ++ rest) before =
        run rest (full (field :: done)) := by
    have hcolon : Reading.step ⟨.object done field.1 true :: frames, .colon⟩ .colon =
        some ⟨.object done field.1 true :: frames, .value⟩ := rfl
    simp only [List.append_assoc, List.cons_append, List.nil_append]
    rw [run_quoted, hkey, Option.bind_some, run_colon, hcolon, Option.bind_some, run_space]
    exact h field hm (depth + 1) rest _ _ hrest (.inl rfl)
  rw [print, printFields_eq]
  exact run_block next full depth hopening hclosing hempty (fun _ => rfl)
    (fun field hm rest hrest => hfield field hm [] rest hrest rfl)
    (fun field hm done rest hrest => hfield field hm done rest hrest rfl) rest

theorem Printable.reads (h : Printable v) : Reads v := by
  induction h with
  | null => exact reads_null
  | bool b => exact reads_bool b
  | @int n hlow hhigh =>
    intro depth rest frames await hrest hawait
    rw [print, run_numeral (readNumeral_intText n) hawait hrest, value_intNumeral hlow hhigh]
  | num hfinite hback =>
    intro depth rest frames await hrest hawait
    obtain ⟨n, hs, hvalue⟩ := hback
    rw [print, numberText, if_pos hfinite, run_numeral hs hawait hrest, hvalue]
  | str text => exact reads_str text
  | arr _ ih => exact reads_arr ih
  | obj _ ih => exact reads_obj ih

/-- A printable value is read back from its text. -/
theorem Printable.parse_pretty (h : Printable v) : parse (pretty v) = some v := by
  have hrun := h.reads 0 [] [] .value endsNumeral_nil (.inl rfl)
  rw [List.append_nil, run_nil] at hrun
  obtain ⟨ts, htokens, hfold⟩ := Option.bind_eq_some_iff.mp hrun
  have htext : (pretty v).toList = print 0 v := String.toList_ofList
  rw [parse, htext, htokens]
  simp only [Option.bind_eq_bind, Option.bind_some, hfold]
  rfl

end Values

end ArchDiagram.Json
