import ArchDiagram.Json.Basic

namespace ArchDiagram.Json

/-- A numeral: its digits before and after the point, and its exponent. -/
structure Numeral where
  negative : Bool
  whole : List Nat
  fraction : List Nat
  exponent : Option Int

/-- Digits gathered into a significand of 64 bits. -/
structure Significand where
  value : Nat
  /-- Power of ten by which the value is to be multiplied. -/
  power : Int

/-- True when one more digit keeps the significand below `2 ^ 64`. -/
def fits (value digit : Nat) : Bool := value * 10 + digit < 18446744073709551616

/-- Digits before the point. The first one that does not fit and all after it only count. -/
def wholePart (value : Nat) : List Nat → Significand
  | [] => ⟨value, 0⟩
  | d :: rest =>
    if fits value d then wholePart (value * 10 + d) rest else ⟨value, (d :: rest).length⟩

/-- Digits after the point. The first one that does not fit and all after it are dropped. -/
def fractionPart (s : Significand) : List Nat → Significand
  | [] => s
  | d :: rest => if fits s.value d then fractionPart ⟨s.value * 10 + d, s.power - 1⟩ rest else s

def powerOfTen (n : Nat) : Float := Float.ofScientific 1 false n

/-- Division by a power of ten, in steps of `10 ^ 308` until the rest is below that. -/
def divideByTens (x : Float) (n : Nat) : Float :=
  if n ≤ 308 then x / powerOfTen n
  else if x == 0 then x
  else divideByTens (x / powerOfTen 308) (n - 308)
termination_by n

/-- The significand times its power of ten, rounded twice: once to a floating point number and once
more by the multiplication or division. A result beyond the range is none. -/
def Significand.toFloat? (s : Significand) : Option Float :=
  let x := Float.ofNat s.value
  if s.power < 0 then some (divideByTens x (-s.power).toNat)
  else if 308 < s.power then (if s.value = 0 then some x else none)
  else
    let y := x * powerOfTen s.power.toNat
    if y.isInf then none else some y

/-- The value of a numeral. It is an integer when it has neither point nor exponent and fits 64
bits, signed if it is negative; a negative zero is no integer. -/
def Numeral.value (n : Numeral) : Json Float :=
  let whole := wholePart 0 n.whole
  if n.fraction.isEmpty && n.exponent.isNone && whole.power = 0 &&
      (!n.negative || (0 < whole.value && whole.value ≤ 9223372036854775808)) then
    .int (if n.negative then -whole.value else whole.value)
  else
    let s := fractionPart whole n.fraction
    match Significand.toFloat? ⟨s.value, s.power + n.exponent.getD 0⟩ with
    | some x => .num (if n.negative then -x else x)
    | none => .unreadable

end ArchDiagram.Json
