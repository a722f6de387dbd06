import ArchDiagram.Diagram.Basic
import ArchDiagram.Json.Basic

namespace ArchDiagram

open Json

variable {α : Type}

/-- A text field that is left out when it is not set. -/
def textField (name : String) (value : Option String) : Option (String × Json α) :=
  value.map fun text => (name, .str text)

namespace NodeStyle

def fieldNames : List String := ["shape", "fill", "stroke"]

def encode (style : NodeStyle) : Json α :=
  ofFields [textField "shape" style.shape, textField "fill" style.fill,
    textField "stroke" style.stroke]

def decode (value : Json α) : Option NodeStyle := do
  let fields ← value.record fieldNames
  return {
    shape := ← optional fields "shape" none (nullable toStr?)
    fill := ← optional fields "fill" none (nullable toStr?)
    stroke := ← optional fields "stroke" none (nullable toStr?) }

end NodeStyle

namespace Node

def fieldNames : List String :=
  ["id", "label", "type", "x", "y", "width", "height", "style", "container_id"]

def encode (node : Node α) : Json α :=
  ofFields [
    some ("id", .str node.id),
    some ("label", .str node.label),
    some ("type", .str node.icon.name),
    some ("x", .num node.x),
    some ("y", .num node.y),
    some ("width", .num node.width),
    some ("height", .num node.height),
    if node.style.isPlain then none else some ("style", node.style.encode),
    textField "container_id" node.owner]

def decode [IntCast α] (value : Json α) : Option (Node α) := do
  let fields ← value.record fieldNames
  return {
    id := ← required fields "id" toStr?
    label := ← required fields "label" toStr?
    icon := ← required fields "type" (choice? Icon.all Icon.name)
    x := ← required fields "x" toNum?
    y := ← required fields "y" toNum?
    width := ← required fields "width" toNum?
    height := ← required fields "height" toNum?
    style := ← optional fields "style" {} NodeStyle.decode
    owner := ← optional fields "container_id" none (nullable toStr?) }

end Node

namespace Container

def fieldNames : List String := ["id", "label", "type", "x", "y", "width", "height", "children"]

def encode (container : Container α) : Json α :=
  .obj [
    ("id", .str container.id),
    ("label", .str container.label),
    ("type", .str container.kind.name),
    ("x", .num container.x),
    ("y", .num container.y),
    ("width", .num container.width),
    ("height", .num container.height),
    ("children", .arr (container.children.map .str))]

def decode [IntCast α] (value : Json α) : Option (Container α) := do
  let fields ← value.record fieldNames
  return {
    id := ← required fields "id" toStr?
    label := ← required fields "label" toStr?
    kind := ← required fields "type" (choice? ContainerKind.all ContainerKind.name)
    x := ← required fields "x" toNum?
    y := ← required fields "y" toNum?
    width := ← required fields "width" toNum?
    height := ← required fields "height" toNum?
    children := ← optional fields "children" [] (toList? toStr?) }

end Container

namespace LinkStyle

def fieldNames : List String := ["line", "thickness", "color"]

def encode (style : LinkStyle) : Json α :=
  ofFields [
    some ("line", .str style.line.name),
    some ("thickness", .int style.thickness.toNat),
    textField "color" style.color]

def decode (value : Json α) : Option LinkStyle := do
  let fields ← value.record fieldNames
  return {
    line := ← required fields "line" (choice? LineStyle.all LineStyle.name)
    thickness := UInt32.ofNat (← required fields "thickness" (toNat? 32))
    color := ← optional fields "color" none (nullable toStr?) }

end LinkStyle

namespace Link

def fieldNames : List String := ["id", "source", "target", "label", "bidirectional", "style"]

def encode (link : Link) : Json α :=
  ofFields [
    some ("id", .str link.id),
    some ("source", .str link.source),
    some ("target", .str link.target),
    textField "label" link.label,
    some ("bidirectional", .bool link.bidirectional),
    some ("style", link.style.encode)]

def decode (value : Json α) : Option Link := do
  let fields ← value.record fieldNames
  return {
    id := ← required fields "id" toStr?
    source := ← required fields "source" toStr?
    target := ← required fields "target" toStr?
    label := ← optional fields "label" none (nullable toStr?)
    bidirectional := ← optional fields "bidirectional" false toBool?
    style := ← optional fields "style" {} LinkStyle.decode }

end Link

namespace Diagram

def fieldNames : List String := ["title", "nodes", "links", "containers"]

def encode (d : Diagram α) : Json α :=
  ofFields [
    some ("title", .str d.title),
    some ("nodes", .arr (d.nodes.map Node.encode)),
    some ("links", .arr (d.links.map Link.encode)),
    d.containers.map fun containers => ("containers", .arr (containers.map Container.encode))]

def decode [IntCast α] (value : Json α) : Option (Diagram α) := do
  let fields ← value.record fieldNames
  return {
    title := ← required fields "title" toStr?
    nodes := ← required fields "nodes" (toList? Node.decode)
    links := ← required fields "links" (toList? Link.decode)
    containers := ← optional fields "containers" none (nullable (toList? Container.decode)) }

end Diagram

end ArchDiagram
