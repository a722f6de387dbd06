import ArchDiagram.Text.Runs
import ArchDiagram.Text.Case

namespace ArchDiagram.Text

/-- What is written of an identifier after one more character of the name, last character first. An
ASCII letter or digit is written in lower case. Anything else becomes an underscore, but none comes
first and no two are in a row. -/
def writeSlug (written : List Char) (c : Char) : List Char :=
  if c.isAlphanum then c.toLower :: written
  else if !written.isEmpty && written.head? ≠ some '_' then '_' :: written
  else written

/-- The identifier of a name: what is written for its characters, without an underscore at the end,
or `node` when nothing is left. -/
def slug (name : List Char) : List Char :=
  match (name.foldl writeSlug []).dropWhile (· = '_') with
  | [] => ['n', 'o', 'd', 'e']
  | written => written.reverse

def capitalize : List Char → List Char
  | [] => []
  | c :: rest => upperChar c ++ rest

/-- The words between white space, each capitalized, with one space between them. -/
def titleCase (s : List Char) : List Char :=
  List.intercalate [' '] ((runs (!isBlank ·) s).map capitalize)

end ArchDiagram.Text
