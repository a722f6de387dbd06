import ArchDiagram.Layout.Plan
import ArchDiagram.LogSettings

namespace ArchDiagram.Command

inductive ColorChoice
  | auto
  | always
  | never
deriving DecidableEq, Repr

namespace ColorChoice

def all : List ColorChoice := [.auto, .always, .never]

def name : ColorChoice → String
  | .auto => "auto"
  | .always => "always"
  | .never => "never"

end ColorChoice

inductive OutputFormat
  | json
  | source
deriving DecidableEq, Repr

namespace OutputFormat

def all : List OutputFormat := [.json, .source]

def name : OutputFormat → String
  | .json => "json"
  | .source => "dsl"

end OutputFormat

def algorithmChoices : List Layout.Algorithm :=
  [.hierarchical, .organic, .radial, .cluster, .flow, .grid, .hybrid]

def logLevels : List String := ["trace", "debug", "info", "warn", "error"]

inductive Key
  | help
  | version
  | verbose
  | logLevel
  | logFormat
  | color
  | input
  | output
  | json
  | algorithm
  | format
  | colorize
  | title
deriving DecidableEq, Repr

/-- The value that an option takes, if it takes one. -/
inductive Values
  | flag
  | text
  | path
  | oneOf (names : List String)

/-- Paths are not empty, and choices are spelled exactly. -/
def Values.accepts (values : Values) (value : String) : Bool :=
  match values with
  | .flag => false
  | .text => true
  | .path => !value.isEmpty
  | .oneOf names => names.contains value

namespace Key

def long : Key → String
  | .help => "help"
  | .version => "version"
  | .verbose => "verbose"
  | .logLevel => "log-level"
  | .logFormat => "log-format"
  | .color => "color"
  | .input => "input"
  | .output => "output"
  | .json => "json"
  | .algorithm => "algorithm"
  | .format => "format"
  | .colorize => "colorize"
  | .title => "title"

def short? : Key → Option Char
  | .help => some 'h'
  | .version => some 'V'
  | .verbose => some 'v'
  | .input => some 'i'
  | .output => some 'o'
  | .algorithm => some 'a'
  | .format => some 'f'
  | _ => none

def values : Key → Values
  | .help | .version | .verbose | .json | .colorize => .flag
  | .logLevel => .oneOf logLevels
  | .logFormat => .oneOf (LogFormat.all.map LogFormat.name)
  | .color => .oneOf (ColorChoice.all.map ColorChoice.name)
  | .input | .output => .path
  | .algorithm => .oneOf (algorithmChoices.map Layout.Algorithm.name)
  | .format => .oneOf (OutputFormat.all.map OutputFormat.name)
  | .title => .text

end Key

inductive Verb
  | analyze
  | generate
  | compile
  | validate
  | patterns
deriving DecidableEq, Repr

/-- Options that stand before or after the verb. -/
def generalKeys : List Key := [.verbose, .logLevel, .logFormat, .color, .help]

namespace Verb

def all : List Verb := [.analyze, .generate, .compile, .validate, .patterns]

def name : Verb → String
  | .analyze => "analyze"
  | .generate => "generate"
  | .compile => "compile"
  | .validate => "validate"
  | .patterns => "patterns"

def ofName? (text : String) : Option Verb := all.find? (·.name == text)

def keys : Verb → List Key
  | .analyze => [.input, .output, .json]
  | .generate => [.input, .output, .algorithm, .format, .colorize]
  | .compile => [.input, .output, .format, .colorize, .title]
  | .validate => [.input]
  | .patterns => [.json]

end Verb

inductive Topic
  | program
  | verb (verb : Verb)
  | help
deriving DecidableEq, Repr

/-- The topic that words ask for. There is at most one. -/
def Topic.ofWords? : List String → Option Topic
  | [] => some .program
  | [word] => if word = "help" then some .help else (Verb.ofName? word).map .verb
  | _ => none

/-- Why nothing is done: the arguments are wrong, or a text about the program is asked for. -/
inductive Stop
  | usage
  | help (topic : Topic) (full : Bool)
  | version
deriving DecidableEq, Repr

/-- Behind a verb, help is about the verb. -/
def Stop.behind (verb : Verb) : Stop → Stop
  | .help _ full => .help (.verb verb) full
  | stop => stop

abbrev Given := List (Key × String)

/-- Notes an option. It may be given once and must have a value that it accepts. -/
def Given.put (given : Given) (key : Key) (value : String) : Except Stop Given :=
  if (given.lookup key).isSome || !key.values.accepts value then .error .usage
  else .ok (given ++ [(key, value)])

/-- Notes an option that takes no value. Help and version take effect at once; the long form of the
option gives the full page. -/
def Given.raise (given : Given) (key : Key) (long : Bool) : Except Stop Given :=
  if key = .help then .error (.help .program long)
  else if key = .version then .error .version
  else if (given.lookup key).isSome then .error .usage
  else .ok (given ++ [(key, "")])

/-- Options read so far, and the one that waits for its value in the next word. -/
structure Reading where
  given : Given := []
  waiting : Option Key := none

/-- Reads a long option, without its dashes. The value may follow an equals sign. -/
def Given.readLong (given : Given) (keys : List Key) (body : List Char) : Except Stop Reading :=
  let name := String.ofList (body.takeWhile (· ≠ '='))
  match keys.find? (·.long == name) with
  | none => .error .usage
  | some key =>
    match key.values, body.dropWhile (· ≠ '=') with
    | .flag, [] => (given.raise key true).map fun given => ⟨given, none⟩
    | .flag, _ :: _ => .error .usage
    | _, [] => .ok ⟨given, some key⟩
    | _, _ :: value => (given.put key (String.ofList value)).map fun given => ⟨given, none⟩

/-- Reads short options that stand together. The first that takes a value takes the rest of the
word, behind an equals sign if there is one. -/
def Given.readShort (given : Given) (keys : List Key) : List Char → Except Stop Reading
  | [] => .ok ⟨given, none⟩
  | c :: rest =>
    match keys.find? (·.short? == some c) with
    | none => .error .usage
    | some key =>
      match key.values, rest with
      | .flag, _ => (given.raise key false).bind fun given => given.readShort keys rest
      | _, [] => .ok ⟨given, some key⟩
      | _, '=' :: value => (given.put key (String.ofList value)).map fun given => ⟨given, none⟩
      | _, value => (given.put key (String.ofList value)).map fun given => ⟨given, none⟩

/-- A word that cannot be the value of an option that waits for it. -/
def isDashed (word : String) : Bool := word.startsWith "-" && word != "-"

/-- Reads options up to the first word that is none. Two dashes may end the words, but nothing may
follow them. -/
def Reading.run (keys : List Key) (reading : Reading) :
    List String → Except Stop (Given × List String)
  | [] => if reading.waiting.isNone then .ok (reading.given, []) else .error .usage
  | word :: rest =>
    match reading.waiting with
    | some key =>
      if isDashed word then .error .usage
      else (reading.given.put key word).bind fun given => Reading.run keys ⟨given, none⟩ rest
    | none =>
      if word = "--" then if rest.isEmpty then .ok (reading.given, []) else .error .usage
      else
        match word.toList with
        | '-' :: '-' :: body =>
          (reading.given.readLong keys body).bind fun reading => reading.run keys rest
        | '-' :: c :: more =>
          (reading.given.readShort keys (c :: more)).bind fun reading => reading.run keys rest
        | _ => .ok (reading.given, word :: rest)

structure Request where
  verb : Verb
  /-- The options of the verb stand before the general ones, so that they come first. -/
  given : Given

namespace Request

def ofArgs (args : List String) : Except Stop Request := do
  let (general, rest) ← Reading.run (generalKeys ++ [.version]) {} args
  match rest with
  | [] => throw .usage
  | name :: rest =>
    match Verb.ofName? name with
    | some verb =>
      let (own, rest) ← (Reading.run (verb.keys ++ generalKeys) {} rest).mapError (·.behind verb)
      if rest.isEmpty then return ⟨verb, own ++ general⟩ else throw .usage
    | none =>
      match Topic.ofWords? rest with
      | some topic => throw (if name = "help" then .help topic true else .usage)
      | none => throw .usage

/-- True when an option without a value is given. -/
def has (request : Request) (key : Key) : Bool := (request.given.lookup key).isSome

def value? (request : Request) (key : Key) : Option String := request.given.lookup key

/-- The file of an option; a single dash stands for the standard stream. -/
def file? (request : Request) (key : Key) : Option String :=
  (request.value? key).filter (· ≠ "-")

def color (request : Request) : ColorChoice :=
  ((request.value? .color).bind fun text => ColorChoice.all.find? (·.name == text)).getD .auto

def format (request : Request) : OutputFormat :=
  ((request.value? .format).bind fun text => OutputFormat.all.find? (·.name == text)).getD .json

def algorithm? (request : Request) : Option Layout.Algorithm :=
  (request.value? .algorithm).bind Layout.Algorithm.ofName?

end Request

end ArchDiagram.Command
