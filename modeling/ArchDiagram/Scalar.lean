import ArchDiagram.Decimal.Basic

namespace ArchDiagram

/-- Arithmetic, order and the few functions that a layout needs. Order is decidable; a type may hold
values that are not comparable with themselves. Layouts are written once for every such type: they
run on floating point numbers and are reasoned about on exact ones. -/
class Scalar (α : Type) extends
    Add α, Sub α, Mul α, Div α, Neg α, LE α, LT α, NatCast α, IntCast α, OfScientific α where
  decLe : DecidableRel (LE.le : α → α → Prop)
  decLt : DecidableRel (LT.lt : α → α → Prop)
  /-- Length of the vector with these two components. -/
  hypot : α → α → α
  sin : α → α
  cos : α → α
  /-- The nearest integer in the signed 64-bit range, a half going away from zero. -/
  nearest : α → Int

namespace Scalar

variable {α : Type} [Scalar α]

instance : DecidableRel (LE.le : α → α → Prop) := decLe

instance : DecidableRel (LT.lt : α → α → Prop) := decLt

/-- The smaller number; a value that is not comparable with itself is passed over. -/
def min (a b : α) : α := if a ≤ b then a else if b ≤ b then b else a

/-- The larger number; a value that is not comparable with itself is passed over. -/
def max (a b : α) : α := if b ≤ a then a else if b ≤ b then b else a

def clampUnit (a : α) : α := if a < 0.0 then 0.0 else if (1.0 : α) < a then 1.0 else a

end Scalar

/-- Components above this have squares that are too large. -/
def longComponent : Float := 1e150

/-- Components below this have squares that are too small. -/
def shortComponent : Float := 1e-150

/-- Ratio of two components below which the short one only nudges the length. -/
def negligibleRatio : Float := 5.551115123125783e-17

/-- Length of a vector with two components of which the first is the longer, and whose squares
neither overflow nor vanish. The correction after the root makes up for the rounding before it. -/
def correctedLength (a b : Float) : Float :=
  if b ≤ a * negligibleRatio then a + b
  else
    let h := (a * a + b * b).sqrt
    let excess :=
      if h ≤ 2.0 * b then
        let d := h - b
        a * (2.0 * d - a) + (d - 2.0 * (a - b)) * d
      else
        let d := h - a
        2.0 * d * (a - 2.0 * b) + ((4.0 * d - b) * b + d * d)
    h - excess / (2.0 * h)

/-- Length of a vector. Long and short vectors are scaled by a power of two first, so that the
squares neither overflow nor vanish. -/
def floatHypot (x y : Float) : Float :=
  let a := x.abs
  let b := y.abs
  let most := if a < b then b else a
  let least := if a < b then a else b
  let scaled (shift : Int) : Float :=
    (correctedLength (most.scaleB shift) (least.scaleB shift)).scaleB (-shift)
  if a.isInf || b.isInf then 1.0 / 0.0
  else if longComponent < most then scaled (-600)
  else if most < shortComponent then scaled 600
  else correctedLength most least

/-- The nearest integer, moved into the signed 64-bit range; infinite values end up at its ends. A
value that is no number counts as zero. -/
def floatNearest (x : Float) : Int :=
  if x.isNaN then 0
  else Max.max (-9223372036854775808)
    (Min.min (Decimal.Binary.ofFloat x).nearest 9223372036854775807)

instance : Scalar Float where
  natCast := Float.ofNat
  intCast := Float.ofInt
  decLe := fun a b => inferInstanceAs (Decidable (a ≤ b))
  decLt := fun a b => inferInstanceAs (Decidable (a < b))
  hypot := floatHypot
  sin := Float.sin
  cos := Float.cos
  nearest := floatNearest

end ArchDiagram
