import ArchDiagram.Json.Numeral

namespace ArchDiagram.Json

/-- A token. Text that holds half of a surrogate pair is none. -/
inductive Token
  | openList
  | closeList
  | openObject
  | closeObject
  | comma
  | colon
  | text (value : Option String)
  | value (value : Json Float)

def digit? (c : Char) : Option Nat := if c.isDigit then some (c.toNat - 0x30) else none

def hexDigit? (c : Char) : Option Nat :=
  if c.isDigit then some (c.toNat - 0x30)
  else if 'a' ≤ c && c ≤ 'f' then some (c.toNat - 0x57)
  else if 'A' ≤ c && c ≤ 'F' then some (c.toNat - 0x37)
  else none

/-- The character that a backslash and the given character stand for. -/
def escaped? (c : Char) : Option Nat :=
  ([(0x22, 0x22), (0x5C, 0x5C), (0x2F, 0x2F), (0x62, 0x08), (0x66, 0x0C), (0x6E, 0x0A),
    (0x72, 0x0D), (0x74, 0x09)] : List (Nat × Nat)).lookup c.toNat

/-- Reads text up to its closing quote: the code points, where an escape may give half of a
surrogate pair, and what follows the quote. -/
def readText : List Char → Option (List Nat × List Char)
  | [] => none
  | c :: rest =>
    if c.toNat = 0x22 then some ([], rest)
    else if c.toNat < 0x20 then none
    else if c.toNat ≠ 0x5C then (readText rest).map fun r => (c.toNat :: r.1, r.2)
    else match rest with
      | 'u' :: a :: b :: c :: d :: rest =>
        match hexDigit? a, hexDigit? b, hexDigit? c, hexDigit? d with
        | some a, some b, some c, some d =>
          (readText rest).map fun r => ((((a * 16 + b) * 16 + c) * 16 + d) :: r.1, r.2)
        | _, _, _, _ => none
      | e :: rest =>
        match escaped? e with
        | some n => (readText rest).map fun r => (n :: r.1, r.2)
        | none => none
      | [] => none

/-- Joins the halves of surrogate pairs; a half without its partner makes the text unreadable. -/
def joinSurrogates : List Nat → Option (List Char)
  | [] => some []
  | n :: rest =>
    if n < 0xD800 || 0xDFFF < n then (joinSurrogates rest).map (Char.ofNat n :: ·)
    else match rest with
      | low :: rest =>
        if n < 0xDC00 && 0xDC00 ≤ low && low ≤ 0xDFFF then
          (joinSurrogates rest).map
            (Char.ofNat (0x10000 + (n - 0xD800) * 0x400 + (low - 0xDC00)) :: ·)
        else none
      | [] => none

theorem length_readText {s after : List Char} {points : List Nat}
    (h : readText s = some (points, after)) : after.length < s.length := by
  fun_induction readText s generalizing points after with
  | case1 => simp at h
  | case2 => simp_all
  | case3 => simp at h
  | case4 _ _ _ _ _ ih =>
    obtain ⟨r, hr, he⟩ := Option.map_eq_some_iff.1 h
    have := ih hr
    simp_all
    omega
  | case5 _ _ _ _ _ _ _ _ _ _ _ _ _ _ _ _ _ ih =>
    obtain ⟨r, hr, he⟩ := Option.map_eq_some_iff.1 h
    have := ih hr
    simp_all
    omega
  | case6 => simp at h
  | case7 _ _ _ _ _ _ _ _ _ ih =>
    obtain ⟨r, hr, he⟩ := Option.map_eq_some_iff.1 h
    have := ih hr
    simp_all
    omega
  | case8 => simp at h
  | case9 => simp at h

/-- The leading digits, and what follows them. -/
def readDigits (s : List Char) : List Nat × List Char :=
  ((s.takeWhile Char.isDigit).filterMap digit?, s.dropWhile Char.isDigit)

theorem length_readDigits (s : List Char) : (readDigits s).2.length ≤ s.length :=
  (List.dropWhile_sublist Char.isDigit).length_le

/-- The digits before the point: a zero alone, or digits that begin with no zero. -/
def readWhole : List Char → Option (List Nat × List Char)
  | [] => none
  | c :: rest =>
    if c = '0' then (if (rest.head?.any Char.isDigit) then none else some ([0], rest))
    else if c.isDigit then
      let more := readDigits rest
      some ((digit? c).toList ++ more.1, more.2)
    else none

theorem length_readWhole {s after : List Char} {digits : List Nat}
    (h : readWhole s = some (digits, after)) : after.length < s.length := by
  cases s with
  | nil => simp [readWhole] at h
  | cons c rest =>
    have := length_readDigits rest
    simp only [readWhole] at h
    split at h
    · split at h <;> simp_all
    · split at h
      · simp only [Option.some.injEq, Prod.mk.injEq] at h
        simp only [← h.2, List.length_cons]
        omega
      · simp at h

/-- The digits after a point, at least one; none of them when no point follows. -/
def readFraction : List Char → Option (List Nat × List Char)
  | '.' :: rest =>
    let digits := readDigits rest
    if digits.1.isEmpty then none else some digits
  | s => some ([], s)

theorem length_readFraction {s after : List Char} {digits : List Nat}
    (h : readFraction s = some (digits, after)) : after.length ≤ s.length := by
  unfold readFraction at h
  split at h
  · next rest =>
    have := length_readDigits rest
    simp only [Option.ite_none_left_eq_some, Option.some.injEq] at h
    simp only [h.2, List.length_cons] at *
    omega
  · simp_all

/-- A minus sign, and what follows it. -/
def readMinus : List Char → Bool × List Char
  | '-' :: rest => (true, rest)
  | s => (false, s)

theorem length_readMinus (s : List Char) : (readMinus s).2.length ≤ s.length := by
  unfold readMinus
  split <;> simp

/-- The sign of an exponent, and what follows it. -/
def readSign : List Char → Bool × List Char
  | '+' :: rest => (false, rest)
  | s => readMinus s

theorem length_readSign (s : List Char) : (readSign s).2.length ≤ s.length := by
  unfold readSign
  split
  · simp
  · exact length_readMinus _

/-- An exponent with its sign, when one follows. -/
def readExponent (s : List Char) : Option (Option Int × List Char) :=
  match s with
  | e :: rest =>
    if e = 'e' || e = 'E' then
      let sign := readSign rest
      let digits := readDigits sign.2
      if digits.1.isEmpty then none
      else
        let n : Nat := digits.1.foldl (fun n d => n * 10 + d) 0
        some (some (if sign.1 then -(n : Int) else n), digits.2)
    else some (none, s)
  | [] => some (none, s)

theorem length_readExponent {s after : List Char} {exponent : Option Int}
    (h : readExponent s = some (exponent, after)) : after.length ≤ s.length := by
  unfold readExponent at h
  split at h
  · next e rest =>
    have := length_readSign rest
    have := length_readDigits (readSign rest).2
    split at h
    · simp only [Option.ite_none_left_eq_some, Option.some.injEq, Prod.mk.injEq] at h
      simp only [← h.2.2, List.length_cons]
      omega
    · simp_all
  · simp_all

def readNumeral (s : List Char) : Option (Numeral × List Char) :=
  let sign := readMinus s
  (readWhole sign.2).bind fun whole =>
    (readFraction whole.2).bind fun fraction =>
      (readExponent fraction.2).map fun exponent =>
        (⟨sign.1, whole.1, fraction.1, exponent.1⟩, exponent.2)

theorem length_readNumeral {s after : List Char} {n : Numeral}
    (h : readNumeral s = some (n, after)) : after.length < s.length := by
  simp only [readNumeral, Option.bind_eq_some_iff, Option.map_eq_some_iff, Prod.mk.injEq] at h
  obtain ⟨whole, hw, fraction, hf, exponent, he, _, rfl⟩ := h
  have := length_readMinus s
  have := length_readWhole hw
  have := length_readFraction hf
  have := length_readExponent he
  omega

def readToken (s : List Char) : Option (Token × List Char) :=
  match s with
  | '[' :: rest => some (.openList, rest)
  | ']' :: rest => some (.closeList, rest)
  | ',' :: rest => some (.comma, rest)
  | ':' :: rest => some (.colon, rest)
  | 'n' :: 'u' :: 'l' :: 'l' :: rest => some (.value .null, rest)
  | 't' :: 'r' :: 'u' :: 'e' :: rest => some (.value (.bool true), rest)
  | 'f' :: 'a' :: 'l' :: 's' :: 'e' :: rest => some (.value (.bool false), rest)
  | c :: rest =>
    if c.toNat = 0x7B then some (.openObject, rest)
    else if c.toNat = 0x7D then some (.closeObject, rest)
    else if c.toNat = 0x22 then
      (readText rest).map fun r => (.text ((joinSurrogates r.1).map String.ofList), r.2)
    else (readNumeral (c :: rest)).map fun r => (.value r.1.value, r.2)
  | [] => none

theorem length_readToken {s after : List Char} {token : Token}
    (h : readToken s = some (token, after)) : after.length < s.length := by
  unfold readToken at h
  split at h
  case h_8 c rest _ _ _ _ _ _ _ =>
    split at h
    · simp_all
    · split at h
      · simp_all
      · split at h
        · obtain ⟨r, hr, he⟩ := Option.map_eq_some_iff.1 h
          have := length_readText hr
          simp_all
          omega
        · obtain ⟨r, hr, he⟩ := Option.map_eq_some_iff.1 h
          have := length_readNumeral hr
          simp_all
  all_goals simp_all <;> omega

def isJsonBlank (c : Char) : Bool := c = ' ' || c = '\t' || c = '\n' || c = '\r'

/-- The tokens of a text, or none when it has a part that is no token. -/
def tokens (s : List Char) : Option (List Token) :=
  match s with
  | [] => some []
  | c :: rest =>
    if isJsonBlank c then tokens rest
    else
      match h : readToken (c :: rest) with
      | none => none
      | some (token, after) =>
        have : after.length < (c :: rest).length := length_readToken h
        (tokens after).map (token :: ·)
termination_by s.length
decreasing_by all_goals (simp only [List.length_cons] at *; omega)

end ArchDiagram.Json
