import ArchDiagram.Command.Arguments

namespace ArchDiagram.Command

/-- The name of the program and its version. -/
def programName : String := "draftsman"

def version : String := "0.1.0"

def blanks (count : Nat) : String := String.ofList (List.replicate count ' ')

def padded (width : Nat) (text : String) : String := text ++ blanks (width - text.length)

/-- Lines of words that go on from a line. A word that does not fit starts a line. -/
def wrapWords (width : Nat) (line : String) : List String → List String
  | [] => [line]
  | word :: rest =>
    if width < line.length + 1 + word.length then line :: wrapWords width word rest
    else wrapWords width (line ++ " " ++ word) rest

/-- The text in lines of a width, as far as its words allow. -/
def wrapped (width : Nat) (text : String) : List String :=
  match text.splitOn " " with
  | [] => []
  | word :: rest => wrapWords width word rest

def pageWidth : Nat := 100

def Verb.about : Verb → String
  | .analyze => "Analyze a free-text architecture description"
  | .generate => "Generate a positioned diagram from a description"
  | .compile => "Compile declarative diagram source"
  | .validate => "Validate declarative diagram source"
  | .patterns => "Show recognized architecture patterns"

/-- The purpose of the request for help among the verbs. -/
def helpAbout : String := "Print this message or the help of the given subcommand(s)"

namespace Topic

def about : Topic → String
  | .program => "Turn architecture descriptions and diagram-as-code into positioned diagrams"
  | .verb v => v.about
  | .help => helpAbout

def usage : Topic → String
  | .program => programName ++ " [OPTIONS] <COMMAND>"
  | .verb v => programName ++ " " ++ v.name ++ " [OPTIONS]"
  | .help => programName ++ " help [COMMAND]..."

/-- The options of a page. The general ones stand among those of a verb. -/
def keys : Topic → List Key
  | .program => [.verbose, .logLevel, .logFormat, .color, .help, .version]
  | .verb .analyze => [.input, .verbose, .logLevel, .output, .json, .logFormat, .color, .help]
  | .verb .generate =>
    [.input, .verbose, .logLevel, .output, .algorithm, .logFormat, .color, .format,
      .colorize, .help]
  | .verb .compile =>
    [.input, .verbose, .logLevel, .output, .format, .logFormat, .color, .colorize, .title, .help]
  | .verb .validate => [.input, .verbose, .logLevel, .logFormat, .color, .help]
  | .verb .patterns => [.json, .verbose, .logLevel, .logFormat, .color, .help]
  | .help => []

end Topic

namespace Key

/-- What an option is for on the page of a topic. -/
def about (topic : Topic) (full : Bool) : Key → String
  | .help => if full then "Print help (see a summary with '-h')"
    else "Print help (see more with '--help')"
  | .version => "Print version"
  | .verbose => "Enable verbose output"
  | .logLevel => "Set log level (trace|debug|info|warn|error)"
  | .logFormat => "Set log format (compact|pretty|json)"
  | .color => "When to use colors in diagnostics"
  | .input =>
    match topic with
    | .verb .compile => "Input file containing diagram source (use - for stdin)"
    | .verb .validate => "Input file to validate (use - for stdin)"
    | _ => "Input file containing the description (use - for stdin)"
  | .output => "Output file (use - for stdout)"
  | .json => if topic = .verb .patterns then "Show in JSON format" else "Emit the analysis as JSON"
  | .algorithm => "Force a layout algorithm instead of the selected one"
  | .format => "Output format"
  | .colorize => "Assign distinguishable link colors"
  | .title => "Title of the compiled diagram"

def default? : Key → Option String
  | .logLevel => some "warn"
  | .logFormat => some LogFormat.compact.name
  | .color => some ColorChoice.auto.name
  | .format => some OutputFormat.json.name
  | _ => none

def choices (key : Key) : List String :=
  match key.values with
  | .oneOf names => names
  | _ => []

/-- What the choices of an option mean, where their names do not tell. -/
def meanings : Key → List (String × String)
  | .color =>
    [(ColorChoice.auto.name, "Use colors if stderr is a terminal and NO_COLOR is not set"),
      (ColorChoice.always.name, "Always use colors"), (ColorChoice.never.name, "Never use colors")]
  | .format =>
    [(OutputFormat.json.name, "Serialized diagram"),
      (OutputFormat.source.name, "Declarative diagram source")]
  | _ => []

/-- The name of the value of an option: its own in capitals, joined by underscores. -/
def valueName (key : Key) : String :=
  String.ofList (key.long.toList.map fun c => if c = '-' then '_' else c.toUpper)

def form (key : Key) : String :=
  "--" ++ key.long ++
    match key.values with
    | .flag => ""
    | _ => " <" ++ key.valueName ++ ">"

/-- Both forms of an option. -/
def heading (key : Key) : String :=
  "  " ++ (key.short?.elim "    " fun c => String.ofList ['-', c, ',', ' ']) ++ key.form

/-- Notes on the default and the choices of an option, without the choices that are told apart. -/
def notes (full : Bool) (key : Key) : List String :=
  (key.default?.toList.map fun value => "[default: " ++ value ++ "]") ++
    (if key.choices.isEmpty || (full && !key.meanings.isEmpty) then []
     else ["[possible values: " ++ String.intercalate ", " key.choices ++ "]"])

/-- The line of an option, which may go on below its text. -/
def line (topic : Topic) (longest : Nat) (key : Key) : String :=
  let column := longest + 8
  let text := String.intercalate " " (key.about topic false :: key.notes false)
  padded column key.heading ++
    String.intercalate ("\n" ++ blanks column) (wrapped (pageWidth - column) text)

def margin : String := blanks 10

def paragraph (topic : Topic) (key : Key) : String :=
  let body := match key.notes true with
    | [] => [key.about topic true]
    | notes => key.about topic true :: "" :: notes
  let width := (key.meanings.map (·.1.length)).foldl max 0
  let meaning (m : String × String) : String :=
    "\n" ++ margin ++ "- " ++ padded (width + 2) (m.1 ++ ":") ++ m.2
  String.intercalate ("\n" ++ margin) (key.heading :: body) ++
    if key.meanings.isEmpty then ""
    else "\n\n" ++ margin ++ "Possible values:" ++ String.join (key.meanings.map meaning)

end Key

namespace Topic

def verbList : String :=
  let entries := Verb.all.map (fun verb => (verb.name, verb.about)) ++ [("help", helpAbout)]
  let longest := (entries.map (·.1.length)).foldl max 0
  String.join (entries.map fun e => "  " ++ padded (longest + 2) e.1 ++ e.2 ++ "\n")

def optionList (topic : Topic) (full : Bool) : String :=
  let longest := (topic.keys.map (·.form.length)).foldl max 0
  if full then String.intercalate "\n\n" (topic.keys.map (Key.paragraph topic)) ++ "\n"
  else String.join (topic.keys.map fun key => key.line topic longest ++ "\n")

/-- The page on a topic. A short page has a line for each option; a full page gives each option a
paragraph and says what its choices mean. -/
def page (topic : Topic) (full : Bool) : String :=
  topic.about ++ "\n\nUsage: " ++ topic.usage ++ "\n\n" ++
    match topic with
    | .program => "Commands:\n" ++ verbList ++ "\nOptions:\n" ++ topic.optionList full
    | .verb _ => "Options:\n" ++ topic.optionList full
    | .help => "Arguments:\n  [COMMAND]...  Print help for the subcommand(s)\n"

end Topic

end ArchDiagram.Command
