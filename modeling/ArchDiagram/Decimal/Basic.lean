namespace ArchDiagram.Decimal

def twoTo (n : Nat) : Nat := Nat.pow 2 n

def tenTo (n : Nat) : Nat := Nat.pow 10 n

/-- The decimal digits of a number, most significant first. -/
def digitsOf (n : Nat) : List Char := Nat.toDigits 10 n

/-- An integer with a minus sign when it is negative. -/
def intText (n : Int) : List Char := (if n < 0 then ['-'] else []) ++ digitsOf n.natAbs

/-- The number that a list of decimal digits writes. -/
def ofDigits (digits : List Char) : Nat :=
  digits.foldl (fun n c => n * 10 + (c.toNat - 0x30)) 0

/-- The number `significand * 2 ^ exponent`, with its sign apart. -/
structure Binary where
  negative : Bool
  significand : Nat
  exponent : Int
deriving DecidableEq, Repr

/-- The exact value of a finite number in the binary format of 64 bits. -/
def Binary.ofFloat (x : Float) : Binary :=
  let bits : Nat := x.toBits.toNat
  let fraction : Nat := bits % twoTo 52
  let field : Nat := bits / twoTo 52 % twoTo 11
  if field = 0 then ⟨twoTo 63 ≤ bits, fraction, -1074⟩
  else ⟨twoTo 63 ≤ bits, twoTo 52 + fraction, Int.ofNat field - 1075⟩

/-- The nearest integer, a half going away from zero. -/
def Binary.nearest (b : Binary) : Int :=
  let size : Nat :=
    if 0 ≤ b.exponent then b.significand * twoTo b.exponent.toNat
    else
      let parts : Nat := twoTo (-b.exponent).toNat
      (2 * b.significand + parts) / (2 * parts)
  if b.negative then -(size : Int) else size

end ArchDiagram.Decimal
