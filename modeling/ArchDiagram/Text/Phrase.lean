import ArchDiagram.Text.Runs

namespace ArchDiagram.Text

/-- Occurrences of `phrase` in the rest of a text that begins at byte `offset` behind the character
`before`. The next `skip` characters belong to an occurrence that was found already. -/
def matchesFrom (phrase : List Char) (before : Option Char) (offset skip : Nat) :
    List Char → List Nat
  | [] => []
  | c :: rest =>
    let onward (skip : Nat) := matchesFrom phrase (some c) (offset + c.utf8Size) skip rest
    if skip ≠ 0 then onward (skip - 1)
    else if phrase.isPrefixOf (c :: rest) then
      let after := ((c :: rest).drop phrase.length).head?
      if before.any isAlphanumeric || after.any isAlphanumeric then onward (phrase.length - 1)
      else offset :: onward (phrase.length - 1)
    else onward 0

/-- Byte places at which the phrase stands with no word character next to it. Occurrences are cut
out from left to right without overlap before their neighbours are looked at. -/
def phraseMatches (text phrase : List Char) : List Nat :=
  if phrase.isEmpty then [] else matchesFrom phrase none 0 0 text

def phraseCount (text phrase : List Char) : Nat := (phraseMatches text phrase).length

def hasPhrase (text phrase : List Char) : Bool := !(phraseMatches text phrase).isEmpty

end ArchDiagram.Text
