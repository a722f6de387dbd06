import ArchDiagram.Text.Alphanumeric
import ArchDiagram.Text.Blank

namespace ArchDiagram.Text

/-- The maximal runs of characters that satisfy `p`, in order. -/
def runs (p : Char → Bool) : List Char → List (List Char)
  | [] => []
  | c :: rest =>
    if p c then
      match rest, runs p rest with
      | d :: _, run :: later => if p d then (c :: run) :: later else [c] :: run :: later
      | _, later => [c] :: later
    else runs p rest

/-- Length of a text in bytes of UTF-8. -/
def byteLength : List Char → Nat
  | [] => 0
  | c :: rest => c.utf8Size + byteLength rest

theorem byteLength_append (s t : List Char) :
    byteLength (s ++ t) = byteLength s + byteLength t := by
  induction s with
  | nil => simp [byteLength]
  | cons c rest ih => simp [byteLength, ih, Nat.add_assoc]

/-- The text from byte `n` on. -/
def dropBytes (n : Nat) : List Char → List Char
  | [] => []
  | c :: rest => if n = 0 then c :: rest else dropBytes (n - c.utf8Size) rest

/-- The text up to byte `n`. -/
def takeBytes (n : Nat) : List Char → List Char
  | [] => []
  | c :: rest => if n = 0 then [] else c :: takeBytes (n - c.utf8Size) rest

/-- The text between two byte places. -/
def slice (s : List Char) (start stop : Nat) : List Char :=
  takeBytes (stop - start) (dropBytes start s)

/-- A stretch of text from byte `start` up to byte `stop`. -/
structure Span where
  start : Nat
  stop : Nat
deriving DecidableEq, Repr

/-- The maximal runs of word characters in a text that begins at byte `offset`. -/
def wordsFrom (offset : Nat) : List Char → List Span
  | [] => []
  | c :: rest =>
    let next := offset + c.utf8Size
    if isAlphanumeric c then
      match rest, wordsFrom next rest with
      | d :: _, word :: later =>
        if isAlphanumeric d then ⟨offset, word.stop⟩ :: later else ⟨offset, next⟩ :: word :: later
      | _, later => ⟨offset, next⟩ :: later
    else wordsFrom next rest

def words (s : List Char) : List Span := wordsFrom 0 s

/-- The lines of a text. A line ends at a line feed, together with one carriage return right before
it; what follows the last line feed is a line unless it is empty. -/
def lines : List Char → List (List Char)
  | [] => []
  | '\n' :: rest => [] :: lines rest
  | '\r' :: '\n' :: rest => [] :: lines rest
  | c :: rest =>
    match lines rest with
    | [] => [[c]]
    | line :: later => (c :: line) :: later

/-- The elements paired with 1, 2, … -/
def numbered {β : Type} (items : List β) : List (Nat × β) :=
  (items.zipIdx 1).map fun item => (item.2, item.1)

end ArchDiagram.Text
