import ArchDiagram.Text.Ligature

namespace ArchDiagram.Text

/-- What stands right after the character that is being measured. -/
inductive Follower
  | other
  | lineFeed
  | skinTone
  | flagLetter
  | flag
  | emoji
  | joinedEmoji
  | joinedKeycap
  | joinedFlagLetter
  | joinedEvenFlags
  | joinedOddFlags
  | tagEnd
  | tagLetters (count : Nat)
  | tagDigits (count : Nat)
  | ligature (part : LigatureEnd)
deriving DecidableEq, Repr

/-- The style that a selector asks of the character before it. -/
inductive GlyphStyle
  | unstyled
  | text
  | pictograph
deriving DecidableEq, Repr

/-- All that decides the columns of the next character. -/
structure WidthContext where
  follower : Follower
  style : GlyphStyle
deriving DecidableEq, Repr

def WidthContext.plain (follower : Follower) : WidthContext := ⟨follower, .unstyled⟩

/-- The width of a character on its own, and what it is to the character before it. -/
def loneWidth (c : Char) : Int × Follower :=
  let n := c.toNat
  if isFlagLetter c then (1, .flagLetter)
  else if isSkinTone c then (2, .skinTone)
  else if isZeroWidth c then (0, .other)
  else if isEmoji c then (2, .emoji)
  else if n = 0x17D8 then (3, .other)
  else if n = 0x17A4 || isWide c then (2, .other)
  else match LigatureEnd.ofChar? c with
    | some part => (1, .ligature part)
    | none => (1, .other)

/-- The columns that a character adds before a given follower. A negative number takes back a
column that the follower was given. -/
def joinedWidth (c : Char) (follower : Follower) : Int × Follower :=
  let n := c.toNat
  match follower with
  | .ligature part =>
    match part.extend? c with
    | some (columns, rest) => (columns, rest.elim .other .ligature)
    | none => loneWidth c
  | .skinTone =>
    if isModifierBase c then (0, .emoji)
    else if n = 0x200D then (0, .joinedEmoji)
    else loneWidth c
  | .flagLetter => if isFlagLetter c then (1, .flag) else loneWidth c
  | .flag =>
    if isFlagLetter c then (1, .flag)
    else if n = 0x200D then (0, .joinedEmoji)
    else loneWidth c
  | .emoji => if n = 0x200D then (0, .joinedEmoji) else loneWidth c
  | .joinedEmoji =>
    if n = 0x20E3 then (0, .joinedKeycap)
    else if n = 0xE007F then (0, .tagEnd)
    else if isFlagLetter c then (1, .joinedFlagLetter)
    else if isSkinTone c then (0, .skinTone)
    else if isEmoji c then (0, .emoji)
    else loneWidth c
  | .joinedFlagLetter => if isFlagLetter c then (-1, .joinedEvenFlags) else loneWidth c
  | .joinedEvenFlags =>
    if isFlagLetter c then (3, .joinedOddFlags)
    else if n = 0x200D then (0, .joinedEmoji)
    else loneWidth c
  | .joinedOddFlags =>
    if isFlagLetter c then (-1, .joinedEvenFlags)
    else if n = 0x200D then (0, .joinedEmoji)
    else loneWidth c
  | .tagEnd =>
    if isTagLetter c then (0, .tagLetters 1)
    else if isTagDigit c then (0, .tagDigits 1)
    else loneWidth c
  | .tagLetters count =>
    if isTagLetter c && count < 6 then (0, .tagLetters (count + 1))
    else if isTagDigit c && count < 5 then (0, .tagDigits 1)
    else if n = 0x1F3F4 && 3 ≤ count then (0, .emoji)
    else loneWidth c
  | .tagDigits count =>
    if isTagDigit c && count < 3 then (0, .tagDigits (count + 1))
    else if n = 0x1F3F4 && count = 3 then (0, .emoji)
    else loneWidth c
  | _ => loneWidth c

/-- What is left of a follower behind a selector of a style. Only groups of letters outlast the text
selector, and only they and joined emoji the pictograph selector. -/
def Follower.styled (style : GlyphStyle) : Follower → WidthContext
  | .ligature part => ⟨.ligature part, style⟩
  | .joinedEmoji => ⟨if style = .pictograph then .joinedEmoji else .other, style⟩
  | .joinedKeycap => ⟨if style = .pictograph then .joinedKeycap else .other, style⟩
  | _ => ⟨.other, style⟩

/-- The follower of a character that no pictograph selector concerns. -/
def Follower.unselected : Follower → Follower
  | .ligature part => .ligature part
  | _ => .other

/-- The columns that a character without a pictograph style adds. A line feed takes none, with or
without a carriage return, and the other controls take one. -/
def plainStep (c : Char) (context : WidthContext) : Int × WidthContext :=
  let n := c.toNat
  if n = 0x0A then (0, .plain .lineFeed)
  else if n = 0x0D && context.follower = .lineFeed then (0, .plain .other)
  else if n ≤ 0xA0 then (1, .plain .other)
  else if n = 0xFE0F then (0, context.follower.styled .pictograph)
  else if n = 0xFE0E then (0, context.follower.styled .text)
  else if context.style = .text && takesTextStyle c then (1, .plain .other)
  else
    let step := joinedWidth c context.follower
    (step.1, .plain step.2)

/-- The columns that a character adds before a given context, and the context it is to the one
before it. -/
def columnStep (c : Char) (context : WidthContext) : Int × WidthContext :=
  if context.style = .pictograph then
    if takesPictographStyle c then
      let joined := context.follower = .joinedEmoji || context.follower = .joinedKeycap
      (if joined then 0 else 2, .plain .emoji)
    else plainStep c (.plain context.follower.unselected)
  else plainStep c context

/-- Columns of a text: the sum over its characters, each measured before its context. A text is
measured from its end, because a character may lose its column to the ones that follow it. -/
def width (s : List Char) : Nat :=
  (s.foldr (fun c (acc : Int × WidthContext) =>
    let step := columnStep c acc.2
    (acc.1 + step.1, step.2)) (0, .plain .other)).1.toNat

end ArchDiagram.Text
