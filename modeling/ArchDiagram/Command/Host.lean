namespace ArchDiagram.Command

/-- Why a file or a stream cannot be used. -/
inductive FileError
  | notFound
  | denied
  | notDirectory
  | isDirectory
  | nameTooLong
  | notText
  | other (text : String)
deriving DecidableEq, Repr

def FileError.message : FileError → String
  | .notFound => "No such file or directory (os error 2)"
  | .denied => "Permission denied (os error 13)"
  | .notDirectory => "Not a directory (os error 20)"
  | .isDirectory => "Is a directory (os error 21)"
  | .nameTooLong => "File name too long (os error 36)"
  | .notText => "stream did not contain valid UTF-8"
  | .other text => text

/-- Files, streams and environment. -/
structure Host (m : Type → Type) where
  readFile : String → m (Except FileError String)
  /-- All of the standard input. -/
  readInput : m (Except FileError String)
  writeFile : String → String → m (Except FileError Unit)
  /-- Writes to the standard output. -/
  print : String → m Unit
  /-- Writes a line to the standard error stream. -/
  report : String → m Unit
  /-- The value of an environment variable. -/
  lookup : String → m (Option String)
  /-- True when the standard error stream is a terminal. -/
  isTerminal : m Bool

end ArchDiagram.Command
