import ArchDiagram.Command.Run

namespace ArchDiagram.Command

/-- Files by the parts of their paths. A path that leads to a file is a directory. Places outside
the folder begin with two dots or, at the root of all files, with a slash. -/
abbrev Folder := List (List String × String)

namespace Folder

/-- The most bytes that the name of a file may have. -/
def longestName : Nat := 255

/-- The most bytes that a path may have. -/
def longestPath : Nat := 4095

def parts (path : String) : List String := path.splitOn "/"

def root : List String := ["/"]

/-- Every directory above the folder exists. -/
def isAbove (place : List String) : Bool := place.all (· == "..")

def isFile (folder : Folder) (place : List String) : Bool := (folder.lookup place).isSome

def isDirectory (folder : Folder) (place : List String) : Bool :=
  place = root || isAbove place ||
    folder.any fun file => place.isPrefixOf file.1 && place != file.1

/-- The directory that a place is in. The root is in itself. -/
def parent (place : List String) : List String :=
  if place = root then root
  else if isAbove place then ".." :: place
  else place.dropLast

/-- Follows one part of a path. It must start at a directory, even if it stays there. -/
def enter (folder : Folder) (here : List String) (name : String) :
    Except FileError (List String) :=
  if folder.isFile here then .error .notDirectory
  else if !folder.isDirectory here then .error .notFound
  else if name = "" || name = "." then .ok here
  else if name = ".." then .ok (parent here)
  else if longestName < name.utf8ByteSize then .error .nameTooLong
  else .ok (here ++ [name])

/-- The place that the parts of a path lead to. -/
def follow (folder : Folder) (path : String) (parts : List String) :
    Except FileError (List String) :=
  if longestPath < path.utf8ByteSize then .error .nameTooLong
  else parts.foldlM folder.enter (if path.startsWith "/" then root else [])

def read (folder : Folder) (path : String) : Except FileError String :=
  (folder.follow path (parts path)).bind fun place =>
    match folder.lookup place with
    | some text => .ok text
    | none => if folder.isDirectory place then .error .isDirectory else .error .notFound

/-- True for a name of its own, unlike the dots and the parts without a name. -/
def isProper (name : String) : Bool := name != "" && name != "." && name != ".."

/-- The parts of a path that are looked up before a file is written. A slash behind the last name
asks for a directory, so that the name itself is not looked up. -/
def partsToWrite (path : String) : List String :=
  match (parts path).reverse with
  | "" :: before =>
    match before.dropWhile (· = "") with
    | name :: front => if isProper name then ("" :: front).reverse else parts path
    | [] => parts path
  | _ => parts path

def write (folder : Folder) (path text : String) : Except FileError Folder :=
  (folder.follow path (partsToWrite path)).bind fun place =>
    if folder.isDirectory place then .error .isDirectory
    else .ok (folder.filter (·.1 != place) ++ [(place, text)])

def inside (folder : Folder) : Folder :=
  folder.filter fun file => !(["/", ".."].contains (file.1.headD ""))

end Folder

/-- A machine with a folder, an input and an environment, and what was written to its streams. -/
structure Machine where
  folder : Folder := []
  input : Except FileError String := .ok ""
  environment : List (String × String) := []
  printed : String := ""
  reported : String := ""

/-- Commands on a machine in memory, which has no terminal. -/
def Machine.host : Host (StateM Machine) where
  readFile path := fun machine => (machine.folder.read path, machine)
  readInput := fun machine => (machine.input, machine)
  writeFile path text := fun machine =>
    match machine.folder.write path text with
    | .ok folder => (.ok (), { machine with folder })
    | .error error => (.error error, machine)
  print text := fun machine => ((), { machine with printed := machine.printed ++ text })
  report text := fun machine =>
    ((), { machine with reported := machine.reported ++ text ++ "\n" })
  lookup name := fun machine => (machine.environment.lookup name, machine)
  isTerminal := fun machine => (false, machine)

def Machine.run (machine : Machine) (args : List String) : UInt32 × Machine :=
  (Machine.host.run args).run machine

end ArchDiagram.Command
