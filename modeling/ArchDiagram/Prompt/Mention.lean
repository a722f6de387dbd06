import ArchDiagram.Prompt.Vocabulary
import ArchDiagram.Text.Naming
import ArchDiagram.Text.Phrase

namespace ArchDiagram.Prompt

/-- A stretch of the description in lower case that names a component. -/
structure Mention where
  start : Nat
  stop : Nat
  name : String
  icon : Icon
deriving DecidableEq, Repr

namespace Mention

/-- Length in bytes. -/
def size (m : Mention) : Nat := m.stop - m.start

def overlaps (a b : Mention) : Bool := a.start < b.stop && b.start < a.stop

end Mention

/-- Every place that holds a phrase of the vocabulary. -/
def termMentions (lower : List Char) : List Mention :=
  terms.flatMap fun term =>
    let phrase := term.phrase.toList
    (Text.phraseMatches lower phrase).map fun start =>
      ⟨start, start + Text.byteLength phrase, term.name, term.icon⟩

/-- The icon of a component that is named by a system noun. -/
def nounIcon (noun : String) : Icon :=
  if noun == "server" then .server else if noun == "store" then .storage else .service

/-- A word and a system noun with white space between them. The word must say something: at least
two bytes, not digits alone, no stopword, system noun or phrase of the vocabulary. -/
def nounMention? (lower : List Char) (first second : Text.Span) : Option Mention :=
  let wordText := Text.slice lower first.start first.stop
  let word := String.ofList wordText
  let noun := String.ofList (Text.slice lower second.start second.stop)
  let between := Text.slice lower first.stop second.start
  if systemNouns.contains noun && (Text.trim between).isEmpty && 2 ≤ Text.byteLength wordText &&
      !stopwords.contains word && !systemNouns.contains word && !isTerm word &&
      !wordText.all Char.isDigit then
    let name := Text.titleCase (wordText ++ [' '] ++ noun.toList)
    some ⟨first.start, second.stop, String.ofList name, nounIcon noun⟩
  else none

def nounMentions (lower : List Char) : List Mention :=
  let words := Text.words lower
  (words.zip words.tail).filterMap fun pair => nounMention? lower pair.1 pair.2

/-- Longer mentions come first, and of equally long ones the earlier. -/
def Mention.before (a b : Mention) : Bool :=
  b.size < a.size || (a.size == b.size && a.start ≤ b.start)

/-- Keeps a mention unless it overlaps one that is kept already. -/
def Mention.settle (kept : List Mention) (m : Mention) : List Mention :=
  if kept.any m.overlaps then kept else kept ++ [m]

/-- The mentions of a description in lower case, by place. Where candidates overlap the longest is
taken; of equally long ones the earlier, and a phrase of the vocabulary before a noun. -/
def mentions (lower : List Char) : List Mention :=
  let candidates := (termMentions lower ++ nounMentions lower).mergeSort Mention.before
  (candidates.foldl Mention.settle []).mergeSort fun a b => a.start ≤ b.start

end ArchDiagram.Prompt
