import ArchDiagram.Text.WidthClass

namespace ArchDiagram.Text

/-- The part that has been read of a group of letters drawn in fewer columns than it has letters. A
group is read from its end, with the joiners and the ignored marks inside it. -/
inductive LigatureEnd
  | alef
  | lamed
  | joinedLamed
  | coengLetter
  | bugineseYa
  | joinedBugineseYa
  | bugineseVowelYa
  | tifinagh
  | joinedTifinagh
  | pairedTifinagh
  | lisuTone
  | orkhonI
  | joinedOrkhonI
deriving DecidableEq, Repr

/-- Arabic letters of the joining group alef. -/
def alefRanges : List (Nat × Nat) :=
  [(0x622, 0x623), (0x625, 0x625), (0x627, 0x627), (0x671, 0x673), (0x675, 0x675),
   (0x773, 0x774), (0x870, 0x882)]

/-- Arabic letters of the joining group lam. -/
def lamRanges : List (Nat × Nat) :=
  [(0x644, 0x644), (0x6B5, 0x6B8), (0x76A, 0x76A), (0x8A6, 0x8A6), (0x8C7, 0x8C7)]

/-- Khmer letters that take the form below the line after a coeng sign. -/
def coengRanges : List (Nat × Nat) :=
  [(0x1780, 0x1782), (0x1784, 0x1787), (0x1789, 0x178C), (0x178E, 0x1793), (0x1795, 0x1798),
   (0x179B, 0x179D), (0x17A0, 0x17A0), (0x17A2, 0x17A2), (0x17A7, 0x17A7), (0x17AB, 0x17AC),
   (0x17AF, 0x17AF)]

def isTifinagh (c : Char) : Bool :=
  (0x2D31 ≤ c.toNat && c.toNat ≤ 0x2D65) || c.toNat == 0x2D6F

namespace LigatureEnd

/-- The group that a character may end. -/
def ofChar? (c : Char) : Option LigatureEnd :=
  let n := c.toNat
  if n = 0x5DC then some lamed
  else if inRanges alefRanges c then some alef
  else if inRanges coengRanges c then some coengLetter
  else if n = 0x1A10 then some bugineseYa
  else if isTifinagh c then some tifinagh
  else if n = 0xA4FC || n = 0xA4FD then some lisuTone
  else if n = 0x10C03 then some orkhonI
  else none

/-- The same group with a joiner before it. -/
def joined : LigatureEnd → LigatureEnd
  | lamed => joinedLamed
  | bugineseYa => joinedBugineseYa
  | tifinagh => joinedTifinagh
  | orkhonI => joinedOrkhonI
  | e => e

/-- The columns that a character adds to the group behind it, and what is then read of the group,
which is none where the character starts it. A negative number takes back a column that was given
before. No answer means that the character is not of the group. -/
def extend? (c : Char) : LigatureEnd → Option (Int × Option LigatureEnd)
  | alef =>
    if inRanges lamRanges c then some (0, none)
    else if isTransparent c then some (0, some alef)
    else none
  | e =>
    let n := c.toNat
    if n = 0x200D then some (0, some e.joined)
    else if isIgnoredMark c then some (0, some e)
    else match e with
      | joinedLamed => if n = 0x5D0 then some (0, none) else none
      | coengLetter => if n = 0x17D2 then some (-1, none) else none
      | joinedBugineseYa => if n = 0x1A17 then some (0, some bugineseVowelYa) else none
      | bugineseVowelYa => if n = 0x1A15 then some (0, none) else none
      | tifinagh => if n = 0x2D7F then some (1, some pairedTifinagh) else none
      | joinedTifinagh =>
        if n = 0x2D7F then some (1, some pairedTifinagh)
        else if isTifinagh c then some (0, none)
        else none
      | pairedTifinagh => if isTifinagh c then some (-1, none) else none
      | lisuTone => if 0xA4F8 ≤ n && n ≤ 0xA4FB then some (0, none) else none
      | joinedOrkhonI => if n = 0x10C32 then some (0, none) else none
      | _ => none

end LigatureEnd

end ArchDiagram.Text
