import ArchDiagram.Decimal.Basic

namespace ArchDiagram.Decimal

/-- The number `digits * 10 ^ exponent`. -/
structure Scientific where
  digits : Nat
  exponent : Int
deriving DecidableEq, Repr

/-- A positive value between the two ends of the interval of reals that round to it. All three are
fractions over one denominator; the ends belong to the interval when `closed` is true. -/
structure Rounding where
  low : Nat
  value : Nat
  high : Nat
  den : Nat
  closed : Bool

/-- The rounding interval of a positive number, in units of `10 ^ grid`. -/
def Binary.rounding (b : Binary) (grid : Int) : Rounding :=
  let q := b.exponent - 2
  let up := twoTo q.toNat * tenTo (-grid).toNat
  let m := b.significand
  let narrow := m = twoTo 52 && b.exponent ≠ -1074
  { low := (4 * m - if narrow then 1 else 2) * up
    value := 4 * m * up
    high := (4 * m + 2) * up
    den := twoTo (-q).toNat * tenTo grid.toNat
    closed := m % 2 = 0 }

def Rounding.holds (r : Rounding) (d : Nat) : Bool :=
  if r.closed then r.low ≤ d * r.den && d * r.den ≤ r.high
  else r.low < d * r.den && d * r.den < r.high

/-- The integer of the interval that is nearest to the value; of two equally near the even one. -/
def Rounding.nearest? (r : Rounding) : Option Nat :=
  let d := r.value / r.den
  let below := r.value - d * r.den
  let above := (d + 1) * r.den - r.value
  match r.holds d, r.holds (d + 1) with
  | true, true =>
    if below < above || (below = above && d % 2 = 0) then some d else some (d + 1)
  | true, false => some d
  | false, true => some (d + 1)
  | false, false => none

/-- Tries grids from `10 ^ grid` downwards, at most `tries` of them. -/
def Binary.searchGrid (b : Binary) (grid : Int) : Nat → Scientific
  | 0 => ⟨(b.rounding grid).value / (b.rounding grid).den, grid⟩
  | tries + 1 =>
    match (b.rounding grid).nearest? with
    | some d => ⟨d, grid⟩
    | none => b.searchGrid (grid - 1) tries

/-- The digits of a positive number on the coarsest decimal grid that has a point which reads back
as this number. The search begins above the number and needs at most twenty grids. -/
def Binary.shortest (b : Binary) : Scientific :=
  let size : Int := b.significand.log2 + b.exponent + 1
  b.searchGrid (size * 30103 / 100000 + 1) 20

/-- The text of a number: positional from `0.00001` up to sixteen digits before the point, with at
least one place after it; else one digit before the point and an exponent. -/
def shortest (x : Float) : List Char :=
  let b := Binary.ofFloat x
  let sign := if b.negative then ['-'] else []
  if b.significand = 0 then sign ++ ['0', '.', '0']
  else
    let s := b.shortest
    let digits := digitsOf s.digits
    let point : Int := digits.length + s.exponent
    sign ++
      if 0 ≤ s.exponent && point ≤ 16 then
        digits ++ List.replicate s.exponent.toNat '0' ++ ['.', '0']
      else if 0 < point && point ≤ 16 then
        digits.take point.toNat ++ ['.'] ++ digits.drop point.toNat
      else if -5 < point && point ≤ 0 then
        ['0', '.'] ++ List.replicate (-point).toNat '0' ++ digits
      else
        let power := point - 1
        digits.take 1 ++ (if digits.length = 1 then [] else ['.'] ++ digits.drop 1) ++ ['e'] ++
          (if power < 0 then ['-'] else []) ++ digitsOf power.natAbs

end ArchDiagram.Decimal
