import ArchDiagram.Text.Case

namespace ArchDiagram

inductive LogFormat
  | compact
  | pretty
  | json
deriving DecidableEq, Repr

namespace LogFormat

def all : List LogFormat := [.compact, .pretty, .json]

def name : LogFormat → String
  | .compact => "compact"
  | .pretty => "pretty"
  | .json => "json"

/-- The format with this name in any mixture of cases. -/
def ofName? (text : String) : Option LogFormat :=
  let key := String.ofList (Text.lowerCase text.toList)
  all.find? (·.name == key)

/-- The text for a name that no format has. -/
def unknownMessage (text : String) : String := "Unknown log format: " ++ text

end LogFormat

structure LogSettings where
  level : String
  format : LogFormat
deriving DecidableEq, Repr

namespace LogSettings

/-- The variable that names the level, and the general one that is asked after it. -/
def levelVariable : String := "DRAFTSMAN_LOG_LEVEL"

def generalVariable : String := "RUST_LOG"

def formatVariable : String := "DRAFTSMAN_LOG_FORMAT"

def defaultLevel : String := "info"

/-- Settings from what is given, else from the environment, else the defaults. An unknown format is
an error, with its name. -/
def resolve (level? format? : Option String) (lookup : String → Option String) :
    Except String LogSettings :=
  let level := ((level?.or (lookup levelVariable)).or (lookup generalVariable)).getD
    defaultLevel
  match format?.or (lookup formatVariable) with
  | none => .ok ⟨level, .compact⟩
  | some name =>
    match LogFormat.ofName? name with
    | some format => .ok ⟨level, format⟩
    | none => .error name

/-- The text of an unknown format in the settings. -/
def invalidMessage (name : String) : String :=
  "Invalid log format: " ++ LogFormat.unknownMessage name

end LogSettings

end ArchDiagram
