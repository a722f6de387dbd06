namespace ArchDiagram

/-- A JSON value. Integers are kept apart from other numbers. A value is `unreadable` when its text
is well formed but names nothing: a number beyond the range, or text with half of a surrogate
pair. -/
inductive Json (α : Type)
  | null
  | bool (value : Bool)
  | int (value : Int)
  | num (value : α)
  | str (value : String)
  | arr (items : List (Json α))
  | obj (fields : List (String × Json α))
  | unreadable

namespace Json

variable {α : Type}

/-- The known fields of a record. An object may have further fields and may not give a known one
twice; a list gives the fields by position and may leave the last ones out. -/
def record (names : List String) : Json α → Option (List (String × Json α))
  | .obj fields =>
    let known := fields.filter fun field => names.contains field.1
    if (known.map (·.1)).Nodup then some known else none
  | .arr items => if items.length ≤ names.length then some (names.zip items) else none
  | _ => none

def required {β : Type} (fields : List (String × Json α)) (name : String)
    (read : Json α → Option β) : Option β :=
  (fields.lookup name).bind read

/-- A field with a value for when it is absent. -/
def optional {β : Type} (fields : List (String × Json α)) (name : String) (absent : β)
    (read : Json α → Option β) : Option β :=
  match fields.lookup name with
  | some value => read value
  | none => some absent

def nullable {β : Type} (read : Json α → Option β) : Json α → Option (Option β)
  | .null => some none
  | value => (read value).map some

def toStr? : Json α → Option String
  | .str value => some value
  | _ => none

def toBool? : Json α → Option Bool
  | .bool value => some value
  | _ => none

/-- A number of either kind. -/
def toNum? [IntCast α] : Json α → Option α
  | .int value => some value
  | .num value => some value
  | _ => none

/-- A natural number that fits into the given count of bits. -/
def toNat? (bits : Nat) : Json α → Option Nat
  | .int value => if 0 ≤ value ∧ value < Nat.pow 2 bits then some value.toNat else none
  | _ => none

def toList? {β : Type} (read : Json α → Option β) : Json α → Option (List β)
  | .arr items => items.mapM read
  | _ => none

/-- The name of a choice without data: its text, or an object with this one key and null. -/
def tag? : Json α → Option String
  | .str name => some name
  | .obj [(name, .null)] => some name
  | _ => none

def choice? {β : Type} (options : List β) (name : β → String) (value : Json α) : Option β :=
  value.tag?.bind fun tag => options.find? (name · == tag)

/-- An object from fields some of which are left out. -/
def ofFields (fields : List (Option (String × Json α))) : Json α := .obj (fields.filterMap id)

end Json

end ArchDiagram
