import ArchDiagram.Command.Help
import ArchDiagram.Command.Host
import ArchDiagram.Generate
import ArchDiagram.Json.Printer
import ArchDiagram.Report
import ArchDiagram.Source.Writer

namespace ArchDiagram.Command

open Report (Ink)

/-- How colors reach the terminal. A variable that forbids colors stops automatic ones, and leaves
of forced ones sequences without a color unless it is empty. -/
def inkFor (choice : ColorChoice) (noColor : Option String) (isTerminal : Bool) : Ink :=
  match choice with
  | .never => .off
  | .auto => if noColor.isNone && isTerminal then .on else .off
  | .always => if noColor.any (!·.isEmpty) then .blank else .on

/-- A text for the standard output: it ends with a line feed unless it is empty. -/
def closed (text : String) : String :=
  if text.isEmpty || text.endsWith "\n" then text else text ++ "\n"

def patternLine (p : Pattern) : String :=
  "  " ++ padded 16 p.name ++ " " ++ padded 14 p.title ++ " layout=" ++
    (Layout.baseAlgorithm p).name

def patternList : String :=
  "Recognized architecture patterns:\n" ++
    String.join (Pattern.all.map fun p => patternLine p ++ "\n") ++
    "\nTotal: " ++ toString Pattern.all.length ++ " patterns\n"

def patternData : Json Float :=
  let item (p : Pattern) : Json Float :=
    .obj [("flow", .str p.naturalFlow.code), ("layout", .str (Layout.baseAlgorithm p).name),
      ("name", .str p.name), ("title", .str p.title)]
  .obj [("patterns", .arr (Pattern.all.map item)), ("total", .int Pattern.all.length)]

def Request.palette? (request : Request) : Option Palette :=
  if request.has .colorize then some .standard else none

variable {m : Type → Type} [Monad m]

namespace Host

/-- The text to work on, from a file or the standard input. -/
def source (host : Host m) (request : Request) : ExceptT String m String := do
  match request.file? .input with
  | none =>
    match ← host.readInput with
    | .ok text => return text
    | .error error => throw error.message
  | some path =>
    match ← host.readFile path with
    | .ok text => return text
    | .error error => throw ("Failed to read input file '" ++ path ++ "': " ++ error.message)

/-- Hands out a result: to a file as it is, or to the standard output. -/
def deliver (host : Host m) (request : Request) (text : String) : ExceptT String m Unit := do
  match request.file? .output with
  | none => host.print (closed text)
  | some path =>
    match ← host.writeFile path text with
    | .ok _ => return
    | .error error => throw ("Failed to write output file '" ++ path ++ "': " ++ error.message)

def remark (host : Host m) (request : Request) (text : String) : ExceptT String m Unit :=
  if request.has .verbose then host.report text else pure ()

def remarkSize (host : Host m) (request : Request) (text : String) : ExceptT String m Unit :=
  host.remark request ("Read " ++ toString text.utf8ByteSize ++ " bytes of input")

/-- Reports what a description says. Colors go to the standard output only. -/
def analyze (host : Host m) (request : Request) (ink : Ink) : ExceptT String m Unit := do
  let text ← host.source request
  host.remarkSize request text
  let analysis : Prompt.Analysis Float := Prompt.analyze text
  let ink := if (request.file? .output).isNone then ink else .off
  host.deliver request
    (if request.has .json then Json.pretty analysis.encode else Report.summary ink analysis)

/-- Draws a described system. -/
def generate (host : Host m) (request : Request) : ExceptT String m Unit := do
  let text ← host.source request
  let generated : Generated Float :=
    ArchDiagram.generate text request.algorithm? request.palette?
  host.remark request
    ("Detected " ++ generated.analysis.pattern.name ++ " pattern, laid out with " ++
      generated.plan.algorithm.name)
  host.deliver request <|
    match request.format with
    | .json => Json.pretty generated.encode
    | .source => Source.toSource generated.diagram

/-- Compiles source, or reports all that is wrong with it. -/
def compile (host : Host m) (request : Request) (ink : Ink) : ExceptT String m Unit := do
  let text ← host.source request
  let title := (request.value? .title).getD Source.defaultTitle
  match (ArchDiagram.compile title text request.palette? : Except _ (Diagram Float)) with
  | .ok d =>
    host.remark request
      ("Compiled " ++ toString d.nodes.length ++ " nodes and " ++ toString d.links.length ++
        " links")
    host.deliver request <|
      match request.format with
      | .json => Json.pretty d.encode
      | .source => Source.toSource d
  | .error failure =>
    host.report (Report.failure ink failure)
    throw ("Compilation failed with " ++ toString failure.errors.length ++ " error(s)")

/-- Says whether source compiles. What compiles has no violations. -/
def validate (host : Host m) (request : Request) (ink : Ink) : ExceptT String m Unit := do
  let text ← host.source request
  host.remarkSize request text
  match (Source.compile Source.defaultTitle text : Except _ (Diagram Float)) with
  | .ok d =>
    let counts := toString d.nodes.length ++ " nodes, " ++ toString d.links.length ++
      " links, " ++ toString d.containerList.length ++ " containers"
    host.print (Report.success ink ("Valid diagram (" ++ counts ++ ")") ++ "\n")
  | .error failure =>
    host.print (Report.trouble ink "Invalid diagram" ++ "\n")
    host.report (Report.failure ink failure)
    throw (toString failure.errors.length ++ " error(s) found")

def patterns (host : Host m) (request : Request) : ExceptT String m Unit :=
  host.print (if request.has .json then Json.pretty patternData ++ "\n" else patternList)

def perform (host : Host m) (request : Request) (ink : Ink) : ExceptT String m Unit :=
  match request.verb with
  | .analyze => host.analyze request ink
  | .generate => host.generate request
  | .compile => host.compile request ink
  | .validate => host.validate request ink
  | .patterns => host.patterns request

/-- Looks at the settings of the log, where the environment comes before the options. The commands
themselves log nothing, so that only a wrong setting shows. -/
def checkLog (host : Host m) (request : Request) : m Unit := do
  let level ← host.lookup LogSettings.levelVariable
  let general ← host.lookup LogSettings.generalVariable
  let format ← host.lookup LogSettings.formatVariable
  let level := (level.or general).getD ((request.value? .logLevel).getD "warn")
  let format := format.getD ((request.value? .logFormat).getD LogFormat.compact.name)
  match LogSettings.resolve (some level) (some format) (fun _ => none) with
  | .ok _ => return
  | .error name =>
    host.report ("Warning: Failed to initialize logging: " ++ LogSettings.invalidMessage name)

/-- Carries out a request and gives the exit code. -/
def carryOut (host : Host m) (request : Request) : m UInt32 := do
  host.checkLog request
  let ink := inkFor request.color (← host.lookup "NO_COLOR") (← host.isTerminal)
  if request.has .verbose then host.report ("Draftsman v" ++ version)
  match ← (host.perform request ink).run with
  | .ok _ => return 0
  | .error message =>
    host.report ("Error: " ++ message)
    return 1

/-- Runs the program on its arguments and gives the exit code. A command that fails ends with one
line on the error stream and exit code 1. -/
def run (host : Host m) (args : List String) : m UInt32 := do
  match Request.ofArgs args with
  | .ok request => host.carryOut request
  | .error .version =>
    host.print (programName ++ " " ++ version ++ "\n")
    return 0
  | .error (.help topic full) =>
    host.print (topic.page full)
    return 0
  | .error .usage =>
    host.report ("Usage: " ++ Topic.program.usage)
    return 2

end Host

end ArchDiagram.Command
