import ArchDiagram.Decimal.Fixed

namespace ArchDiagram.Layout

/-- The integer part of a square root. -/
def floorSqrt (n : Nat) : Nat :=
  if n = 0 then 0
  else
    let root := 2 * floorSqrt (n / 4)
    if (root + 1) * (root + 1) ≤ n then root + 1 else root
termination_by n
decreasing_by omega

theorem floorSqrt_bounds (n : Nat) :
    floorSqrt n * floorSqrt n ≤ n ∧ n < (floorSqrt n + 1) * (floorSqrt n + 1) := by
  fun_induction floorSqrt n with
  | case1 => decide
  | case2 n _ root _ ih => grind
  | case3 n _ root _ ih => grind

/-- A square root rounded up. It gives the columns of a grid that is about as wide as it is high. -/
def ceilSqrt (n : Nat) : Nat :=
  let root := floorSqrt n
  if root * root = n then root else root + 1

theorem le_ceilSqrt_mul_self (n : Nat) : n ≤ ceilSqrt n * ceilSqrt n := by
  have h := floorSqrt_bounds n
  grind [ceilSqrt]

/-- Binary digits that a measured count and its root keep. -/
def precision : Nat := 53

/-- The nearest number with no more binary digits than the precision, the even one of two. -/
def nearestBinary (n : Nat) : Nat :=
  let unit := Decimal.twoTo (n.log2 + 1 - precision)
  Decimal.roundHalfEven n unit * unit

/-- A square root taken at the precision and then rounded up. The number and the root are each
rounded to the nearest; no root lies halfway. -/
def ceilBinarySqrt (n : Nat) : Nat :=
  let n := nearestBinary n
  let unit := Decimal.twoTo (precision - 1 - (floorSqrt n).log2)
  let scaled := n * (unit * unit)
  let root := floorSqrt scaled
  let nearest := if root * root + root < scaled then root + 1 else root
  (nearest + unit - 1) / unit

end ArchDiagram.Layout
