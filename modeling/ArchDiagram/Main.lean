import ArchDiagram.Command.Run

namespace ArchDiagram.Command

/-- The number of a system error. Some calls give it with a minus sign. -/
def errorNumber (code : UInt32) : UInt32 := if code < 0x80000000 then code else 0 - code

def fileError (error : IO.Error) : FileError :=
  match error with
  | .noFileOrDirectory .. => .notFound
  | .permissionDenied .. => .denied
  | .inappropriateType _ code _ =>
    if errorNumber code = 20 then .notDirectory else .isDirectory
  | .invalidArgument _ code _ =>
    if errorNumber code = 36 then .nameTooLong else .other (toString error)
  | _ => .other (toString error)

/-- The text that bytes encode. -/
def textOf (bytes : ByteArray) : Except FileError String :=
  match String.fromUTF8? bytes with
  | some text => .ok text
  | none => .error .notText

/-- Files, streams and environment of the process. -/
def systemHost : Host IO where
  readFile path := do
    match ← (IO.FS.readBinFile path).toBaseIO with
    | .ok bytes => return textOf bytes
    | .error error => return .error (fileError error)
  readInput := do
    match ← ((← IO.getStdin).readBinToEnd).toBaseIO with
    | .ok bytes => return textOf bytes
    | .error error => return .error (fileError error)
  writeFile path text := do
    match ← (IO.FS.writeFile path text).toBaseIO with
    | .ok _ => return .ok ()
    | .error error => return .error (fileError error)
  print text := do
    let stdout ← IO.getStdout
    stdout.putStr text
    stdout.flush
  report text := IO.eprintln text
  lookup := fun name => IO.getEnv name
  isTerminal := do (← IO.getStderr).isTty

end ArchDiagram.Command

def main (args : List String) : IO UInt32 := ArchDiagram.Command.systemHost.run args
