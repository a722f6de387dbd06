import ArchDiagram.Source.Reason
import ArchDiagram.Source.Word

namespace ArchDiagram.Source

/-- A reader: what it takes from the front of a text, and the failures that it leaves behind, also
where reading goes on. The two are kept apart, so that a trace can never change what is read. -/
structure Scan (β : Type) where
  read : List Char → Option (β × List Char)
  trace : Trace → List Char → Trace

namespace Scan

variable {β γ : Type}

def done (value : β) : Scan β := ⟨fun s => some (value, s), fun t _ => t⟩

def andThen (first : Scan β) (next : β → Scan γ) : Scan γ where
  read s := (first.read s).bind fun r => (next r.1).read r.2
  trace t s :=
    match first.read s with
    | some r => (next r.1).trace (first.trace t s) r.2
    | none => first.trace t s

instance : Monad Scan where
  pure := done
  bind := andThen

def optional (part : Scan β) : Scan (Option β) where
  read s :=
    match part.read s with
    | some r => some (some r.1, r.2)
    | none => some (none, s)
  trace := part.trace

/-- Tries a second form when the first one fails. -/
def orElse (first second : Scan β) : Scan β where
  read s := (first.read s).or (second.read s)
  trace t s :=
    if (first.read s).isSome then first.trace t s else second.trace (first.trace t s) s

def char (c : Char) : Scan Unit where
  read
    | d :: rest => if d = c then some ((), rest) else none
    | [] => none
  trace t s := if s.head? = some c then t else t.fail s [.char c]

/-- The given characters, one by one. -/
def literal : List Char → Scan Unit
  | [] => done ()
  | c :: rest => (char c).andThen fun _ => literal rest

/-- All characters of a kind from the front on. What could have gone on is traced. -/
def span (p : Char → Bool) (expected : List Char → List Expected) : Scan (List Char) where
  read s := some (s.takeWhile p, s.dropWhile p)
  trace t s := t.fail (s.dropWhile p) (expected (s.dropWhile p))

/-- Fails where the reader takes nothing. -/
def nonempty (part : Scan (List Char)) : Scan (List Char) where
  read s := (part.read s).filter fun r => !r.1.isEmpty
  trace := part.trace

/-- Blanks and tabs, if any. -/
def gap : Scan Unit := (span isGap fun _ => [.char ' ', .char '\t']).andThen fun _ => done ()

/-- At least one blank or tab. -/
def someGap : Scan Unit :=
  (nonempty (span isGap fun _ => [.char ' ', .char '\t'])).andThen fun _ => done ()

def word (p : Char → Bool) : Scan String :=
  (nonempty (span p fun rest => if rest.isEmpty then [.any] else [.other])).andThen fun chars =>
    done (String.ofList chars)

def identifier : Scan String := word isIdChar

def bareValue : Scan String := word isValueChar

/-- A label between two quotes, without escapes. -/
def label : Scan String := do
  char quoteMark
  let chars ← span isLabelChar fun _ => [.other]
  char quoteMark
  return String.ofList chars

def inRange (n : Int) : Bool := -9223372036854775808 ≤ n && n < 9223372036854775808

/-- The digits of a number: a zero alone, or all digits from one that is not zero. -/
def digits : Scan (List Char) where
  read s :=
    match s with
    | c :: rest =>
      if c = '0' then some (['0'], rest)
      else if c.isDigit then some (s.takeWhile Char.isDigit, s.dropWhile Char.isDigit)
      else none
    | [] => none
  trace t s :=
    if s.head?.any fun c => c.isDigit && c ≠ '0' then t.fail (s.dropWhile Char.isDigit) [.digit]
    else (char '0').trace (t.fail s [.nonZeroDigit]) s

/-- The text of an integer: a minus sign, if any, and digits. -/
def signedDigits : Scan (Bool × List Char) := do
  let sign ← optional (char '-')
  let chars ← digits
  return (sign.isSome, chars)

/-- The integer that a sign and digits write. -/
def signedValue (text : Bool × List Char) : Int :=
  if text.1 then -(Decimal.ofDigits text.2 : Int) else Decimal.ofDigits text.2

/-- An integer in range. Its failures are gathered apart and then merged; an integer out of range
leaves one at its beginning only. -/
def integer : Scan Int where
  read s := (signedDigits.read s).bind fun r =>
    if inRange (signedValue r.1) then some (signedValue r.1, r.2) else none
  trace t s :=
    match signedDigits.read s with
    | some (text, _) =>
      if inRange (signedValue text) then t.merge (signedDigits.trace none s)
      else t.failInteger s ((if text.1 then ['-'] else []) ++ text.2)
    | none => t.merge (signedDigits.trace none s)

/-- A value after its key and an equals sign. -/
def keyed (key : List Char) (value : Scan β) : Scan β := do
  literal key
  char '='
  value

/-- The end of the line, after blanks and tabs. -/
def lineEnd : Scan Unit := do
  gap
  ⟨fun s => if s.isEmpty then some ((), s) else none,
    fun t s => if s.isEmpty then t else t.fail s [.lineEnd]⟩

/-- The value of a whole text, or the reason of its farthest failure. -/
def run (scan : Scan β) (s : List Char) : Except (Option Reason) β :=
  match scan.read s with
  | some r => .ok r.1
  | none => .error ((scan.trace none s).map (·.reason))

end Scan

end ArchDiagram.Source
