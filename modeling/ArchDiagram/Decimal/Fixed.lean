import ArchDiagram.Decimal.Basic

namespace ArchDiagram.Decimal

/-- The integer nearest to `num / den`; halfway cases go to the even one. -/
def roundHalfEven (num den : Nat) : Nat :=
  let q := num / den
  let r := num % den
  if 2 * r < den then q
  else if den < 2 * r then q + 1
  else if q % 2 = 0 then q else q + 1

/-- The value in units of `10 ^ -places`, rounded to an integer. -/
def Binary.units (b : Binary) (places : Nat) : Nat :=
  roundHalfEven (b.significand * tenTo places * twoTo b.exponent.toNat) (twoTo (-b.exponent).toNat)

/-- The digits of `units` with a point before the last `places` of them. -/
def placed (units places : Nat) : List Char :=
  if places = 0 then digitsOf units
  else
    let fraction := digitsOf (units % tenTo places)
    digitsOf (units / tenTo places) ++ ['.'] ++
      List.replicate (places - fraction.length) '0' ++ fraction

/-- The number with `places` decimal places, rounded half to even on its exact value. The sign of a
negative number stays when its digits round to zero. -/
def fixed (places : Nat) (x : Float) : List Char :=
  if x.isNaN then ['N', 'a', 'N']
  else
    let b := Binary.ofFloat x
    let sign := if b.negative then ['-'] else []
    if x.isInf then sign ++ ['i', 'n', 'f'] else sign ++ placed (b.units places) places

end ArchDiagram.Decimal
