import ArchDiagram.Json.Token

namespace ArchDiagram.Json

/-- A list or object that is still open, its members so far with the last one first. An object with
an unreadable key is read to its end and then unreadable. Frames stand on a stack, so nesting has no
limit. -/
inductive Frame
  | list (done : List (Json Float))
  | object (done : List (String × Json Float)) (key : String) (readable : Bool)

/-- What may come next. -/
inductive Await
  | value
  | firstItem
  | separator
  | firstKey
  | key
  | colon
  | ended (result : Json Float)

structure Reading where
  frames : List Frame
  await : Await

/-- Puts a finished value where it belongs. -/
def Reading.put (frames : List Frame) (value : Json Float) : Reading :=
  match frames with
  | [] => ⟨[], .ended value⟩
  | .list done :: rest => ⟨.list (value :: done) :: rest, .separator⟩
  | .object done key readable :: rest =>
    ⟨.object ((key, value) :: done) key readable :: rest, .separator⟩

def Reading.closeList : List Frame → Option Reading
  | .list done :: rest => some (put rest (.arr done.reverse))
  | _ => none

def Reading.closeObject : List Frame → Option Reading
  | .object done _ readable :: rest =>
    some (put rest (if readable then .obj done.reverse else .unreadable))
  | _ => none

/-- Takes a token where a value may begin. -/
def Reading.begin (frames : List Frame) : Token → Option Reading
  | .openList => some ⟨.list [] :: frames, .firstItem⟩
  | .openObject => some ⟨.object [] "" true :: frames, .firstKey⟩
  | .text (some value) => some (put frames (.str value))
  | .text none => some (put frames .unreadable)
  | .value value => some (put frames value)
  | _ => none

def Reading.takeKey (frames : List Frame) : Token → Option Reading
  | .text name =>
    match frames with
    | .object done _ readable :: rest =>
      some ⟨.object done (name.getD "") (readable && name.isSome) :: rest, .colon⟩
    | _ => none
  | _ => none

def Reading.step (r : Reading) (token : Token) : Option Reading :=
  match r.await, token with
  | .firstItem, .closeList => closeList r.frames
  | .firstKey, .closeObject => closeObject r.frames
  | .value, token | .firstItem, token => begin r.frames token
  | .key, token | .firstKey, token => takeKey r.frames token
  | .colon, .colon => some ⟨r.frames, .value⟩
  | .separator, .comma =>
    match r.frames with
    | .object .. :: _ => some ⟨r.frames, .key⟩
    | _ => some ⟨r.frames, .value⟩
  | .separator, .closeList => closeList r.frames
  | .separator, .closeObject => closeObject r.frames
  | _, _ => none

/-- The one value that a text holds, with nothing but blanks around it. -/
def parse (text : String) : Option (Json Float) := do
  let tokens ← tokens text.toList
  let reading ← tokens.foldlM Reading.step ⟨[], .value⟩
  match reading.await with
  | .ended value => some value
  | _ => none

end ArchDiagram.Json
