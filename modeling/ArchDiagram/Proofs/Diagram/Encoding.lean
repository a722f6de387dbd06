import Mathlib
import ArchDiagram.Diagram.Encoding
import ArchDiagram.Proofs.Json.Record

namespace ArchDiagram

open Json

variable {α β : Type}

section Values

variable {fields : List (String × Json α)} {name : String} {options : List β} {spell : β → String}

theorem required_eq {read : Json α → Option β} {value : Json α} {x : β}
    (h : fields.lookup name = some value) (hread : read value = some x) :
    required fields name read = some x := by
  rw [required, h]
  exact hread

theorem optional_eq {read : Json α → Option β} {absent x : β} {value : Json α}
    (h : fields.lookup name = some value) (hread : read value = some x) :
    Json.optional fields name absent read = some x := by
  rw [Json.optional, h]
  exact hread

theorem required_text {text : String} (h : fields.lookup name = some (.str text)) :
    required fields name toStr? = some text := required_eq h rfl

theorem required_number [IntCast α] {x : α} (h : fields.lookup name = some (.num x)) :
    required fields name toNum? = some x := required_eq h rfl

theorem textField_eq (name : String) (value : Option String) :
    (textField name value : Option (String × Json α)) = (value.map Json.str).map (name, ·) := by
  cases value <;> rfl

/-- A text that is left out is read as not set. -/
theorem optional_text {value : Option String} (h : fields.lookup name = value.map Json.str) :
    Json.optional fields name none (nullable toStr?) = some value := by
  rw [Json.optional, h]
  cases value <;> rfl

theorem toList?_map {read : Json α → Option β} {write : β → Json α}
    (h : ∀ x, read (write x) = some x) (l : List β) :
    toList? read (.arr (l.map write)) = some l := by
  rw [toList?]
  induction l with
  | nil => rfl
  | cons x rest ih =>
    rw [List.map_cons, List.mapM_cons, h, ih]
    rfl

/-- A choice is found again by its name if no other one has the name. -/
theorem choice?_name (hspell : (options.map spell).Nodup) {x : β} (hx : x ∈ options) :
    choice? options spell (.str (spell x) : Json α) = some x := by
  have hfound : ∃ y, options.find? (fun y => spell y == spell x) = some y := by
    rw [← Option.isSome_iff_exists, List.find?_isSome]
    exact ⟨x, hx, beq_self_eq_true _⟩
  obtain ⟨y, hy⟩ := hfound
  have hname : spell y = spell x := by simpa using List.find?_some hy
  have hsame := List.inj_on_of_nodup_map hspell (List.mem_of_find?_eq_some hy) hx hname
  exact hsame ▸ hy

theorem choice?_icon (icon : Icon) :
    choice? Icon.all Icon.name (.str icon.name : Json α) = some icon :=
  choice?_name (by decide) (Icon.mem_all icon)

theorem choice?_kind (kind : ContainerKind) :
    choice? ContainerKind.all ContainerKind.name (.str kind.name : Json α) = some kind :=
  choice?_name (by decide) (by cases kind <;> decide)

theorem choice?_line (line : LineStyle) :
    choice? LineStyle.all LineStyle.name (.str line.name : Json α) = some line :=
  choice?_name (by decide) (by cases line <;> decide)

end Values

namespace NodeStyle

/-- The fields of a style, those without a value included. -/
def template (style : NodeStyle) : List (String × Option (Json α)) :=
  [("shape", style.shape.map .str), ("fill", style.fill.map .str),
   ("stroke", style.stroke.map .str)]

theorem encode_eq (style : NodeStyle) :
    (style.encode : Json α) = .obj (present style.template) := by
  rw [encode, textField_eq, textField_eq, textField_eq]
  rfl

theorem decode_encode (style : NodeStyle) : decode (style.encode : Json α) = some style := by
  obtain ⟨fields, hrecord, hlookup⟩ :=
    record_template (α := α) style.template fieldNames rfl (by decide)
  have hshape := optional_text (hlookup "shape")
  have hfill := optional_text (hlookup "fill")
  have hstroke := optional_text (hlookup "stroke")
  rw [encode_eq, decode, hrecord]
  simp only [Option.bind_eq_bind, Option.bind_some, hshape, hfill, hstroke]
  rfl

theorem eq_of_isPlain (style : NodeStyle) (h : style.isPlain = true) : style = {} := by
  obtain ⟨_ | _, _ | _, _ | _⟩ := style <;> first | rfl | cases h

end NodeStyle

namespace Node

def template (node : Node α) : List (String × Option (Json α)) :=
  [("id", some (.str node.id)), ("label", some (.str node.label)),
   ("type", some (.str node.icon.name)), ("x", some (.num node.x)), ("y", some (.num node.y)),
   ("width", some (.num node.width)), ("height", some (.num node.height)),
   ("style", if node.style.isPlain then none else some node.style.encode),
   ("container_id", node.owner.map .str)]

theorem encode_eq (node : Node α) : node.encode = .obj (present node.template) := by
  rw [encode, textField_eq, template]
  split <;> rfl

variable [IntCast α]

theorem decode_encode (node : Node α) : decode node.encode = some node := by
  obtain ⟨fields, hrecord, hlookup⟩ := record_template node.template fieldNames rfl (by decide)
  have hstyle : Json.optional fields "style" {} NodeStyle.decode = some node.style := by
    have hfound : fields.lookup "style" =
        if node.style.isPlain then none else some node.style.encode :=
      hlookup "style"
    by_cases hplain : node.style.isPlain = true
    · rw [Json.optional, hfound, if_pos hplain, node.style.eq_of_isPlain hplain]
    · rw [if_neg hplain] at hfound
      exact optional_eq hfound node.style.decode_encode
  rw [encode_eq, decode, hrecord]
  simp only [Option.bind_eq_bind, Option.bind_some, required_text (hlookup "id"),
    required_text (hlookup "label"), required_eq (hlookup "type") (choice?_icon node.icon),
    required_number (hlookup "x"), required_number (hlookup "y"), required_number (hlookup "width"),
    required_number (hlookup "height"), hstyle, optional_text (hlookup "container_id")]
  rfl

end Node

namespace Container

def template (container : Container α) : List (String × Option (Json α)) :=
  [("id", some (.str container.id)), ("label", some (.str container.label)),
   ("type", some (.str container.kind.name)), ("x", some (.num container.x)),
   ("y", some (.num container.y)), ("width", some (.num container.width)),
   ("height", some (.num container.height)),
   ("children", some (.arr (container.children.map .str)))]

theorem encode_eq (container : Container α) :
    container.encode = .obj (present container.template) := rfl

variable [IntCast α]

theorem decode_encode (container : Container α) : decode container.encode = some container := by
  obtain ⟨fields, hrecord, hlookup⟩ := record_template container.template fieldNames rfl (by decide)
  have hlist : toList? toStr? (.arr (container.children.map .str) : Json α) =
      some container.children := by
    apply toList?_map
    exact fun _ => rfl
  have hchildren : Json.optional fields "children" [] (toList? toStr?) = some container.children :=
    optional_eq (hlookup "children") hlist
  rw [encode_eq, decode, hrecord]
  simp only [Option.bind_eq_bind, Option.bind_some, required_text (hlookup "id"),
    required_text (hlookup "label"), required_eq (hlookup "type") (choice?_kind container.kind),
    required_number (hlookup "x"), required_number (hlookup "y"), required_number (hlookup "width"),
    required_number (hlookup "height"), hchildren]
  rfl

end Container

namespace LinkStyle

def template (style : LinkStyle) : List (String × Option (Json α)) :=
  [("line", some (.str style.line.name)), ("thickness", some (.int style.thickness.toNat)),
   ("color", style.color.map .str)]

theorem encode_eq (style : LinkStyle) :
    (style.encode : Json α) = .obj (present style.template) := by
  rw [encode, textField_eq]
  rfl

theorem toNat?_uint32 (n : UInt32) : toNat? 32 (.int n.toNat : Json α) = some n.toNat := by
  have hsmall : (n.toNat : Int) < Nat.pow 2 32 := by exact_mod_cast n.toNat_lt
  rw [toNat?, if_pos ⟨Int.natCast_nonneg _, hsmall⟩, Int.toNat_natCast]

theorem decode_encode (style : LinkStyle) : decode (style.encode : Json α) = some style := by
  obtain ⟨fields, hrecord, hlookup⟩ :=
    record_template (α := α) style.template fieldNames rfl (by decide)
  rw [encode_eq, decode, hrecord]
  simp only [Option.bind_eq_bind, Option.bind_some,
    required_eq (hlookup "line") (choice?_line style.line),
    required_eq (hlookup "thickness") (toNat?_uint32 style.thickness),
    optional_text (hlookup "color"), UInt32.ofNat_toNat]
  rfl

end LinkStyle

namespace Link

def template (link : Link) : List (String × Option (Json α)) :=
  [("id", some (.str link.id)), ("source", some (.str link.source)),
   ("target", some (.str link.target)), ("label", link.label.map .str),
   ("bidirectional", some (.bool link.bidirectional)), ("style", some link.style.encode)]

theorem encode_eq (link : Link) : (link.encode : Json α) = .obj (present link.template) := by
  rw [encode, textField_eq]
  rfl

theorem decode_encode (link : Link) : decode (link.encode : Json α) = some link := by
  obtain ⟨fields, hrecord, hlookup⟩ :=
    record_template (α := α) link.template fieldNames rfl (by decide)
  have hboth : Json.optional fields "bidirectional" false toBool? = some link.bidirectional :=
    optional_eq (hlookup "bidirectional") rfl
  rw [encode_eq, decode, hrecord]
  simp only [Option.bind_eq_bind, Option.bind_some, required_text (hlookup "id"),
    required_text (hlookup "source"), required_text (hlookup "target"),
    optional_text (hlookup "label"), hboth, optional_eq (hlookup "style") link.style.decode_encode]
  rfl

end Link

namespace Diagram

def template (d : Diagram α) : List (String × Option (Json α)) :=
  [("title", some (.str d.title)), ("nodes", some (.arr (d.nodes.map Node.encode))),
   ("links", some (.arr (d.links.map Link.encode))),
   ("containers", d.containers.map fun containers => .arr (containers.map Container.encode))]

theorem encode_eq (d : Diagram α) : d.encode = .obj (present d.template) := by
  rw [encode, template]
  cases d.containers <;> rfl

variable [IntCast α]

theorem decode_encode (d : Diagram α) : decode d.encode = some d := by
  obtain ⟨fields, hrecord, hlookup⟩ := record_template d.template fieldNames rfl (by decide)
  have hcontainers :
      Json.optional fields "containers" none (nullable (toList? Container.decode)) =
        some d.containers := by
    have hfound : fields.lookup "containers" =
        d.containers.map fun containers => .arr (containers.map Container.encode) :=
          hlookup "containers"
    rw [Json.optional, hfound]
    cases d.containers with
    | none => rfl
    | some containers =>
      exact congrArg (Option.map some) (toList?_map Container.decode_encode containers)
  rw [encode_eq, decode, hrecord]
  simp only [Option.bind_eq_bind, Option.bind_some, required_text (hlookup "title"), hcontainers,
    required_eq (hlookup "nodes") (toList?_map Node.decode_encode d.nodes),
    required_eq (hlookup "links") (toList?_map Link.decode_encode d.links)]
  rfl

end Diagram

section Restated

def NodeStyle.Restated : Json α → Json α → Prop := Json.Restated NodeStyle.fieldNames []

def Node.Restated : Json α → Json α → Prop :=
  Json.Restated Node.fieldNames [("style", NodeStyle.Restated)]

def Container.Restated : Json α → Json α → Prop := Json.Restated Container.fieldNames []

def LinkStyle.Restated : Json α → Json α → Prop := Json.Restated LinkStyle.fieldNames []

def Link.Restated : Json α → Json α → Prop :=
  Json.Restated Link.fieldNames [("style", LinkStyle.Restated)]

/-- A diagram in the same JSON but for the order of the keys of any object, and for keys that the
record at this place does not know. -/
def Diagram.Restated : Json α → Json α → Prop :=
  Json.Restated Diagram.fieldNames
    [("nodes", Each Node.Restated), ("links", Each Link.Restated),
      ("containers", Each Container.Restated)]

theorem NodeStyle.decode_restated (v w : Json α) (h : NodeStyle.Restated v w) :
    NodeStyle.decode w = NodeStyle.decode v := by
  refine bind_of_rel h.record fun fields given hfields => ?_
  have hsame := lookup_of_agreement hfields
  simp only [Json.optional, hsame "shape" rfl, hsame "fill" rfl, hsame "stroke" rfl]

theorem LinkStyle.decode_restated (v w : Json α) (h : LinkStyle.Restated v w) :
    LinkStyle.decode w = LinkStyle.decode v := by
  refine bind_of_rel h.record fun fields given hfields => ?_
  have hsame := lookup_of_agreement hfields
  simp only [required, Json.optional, hsame "line" rfl, hsame "thickness" rfl, hsame "color" rfl]

theorem Link.decode_restated (v w : Json α) (h : Link.Restated v w) :
    Link.decode w = Link.decode v := by
  refine bind_of_rel h.record fun fields given hfields => ?_
  have hsame := lookup_of_agreement hfields
  have hstyle := optional_of_rel {} (hfields "style") LinkStyle.decode_restated
  simp only [hstyle]
  simp only [required, Json.optional, hsame "id" rfl, hsame "source" rfl, hsame "target" rfl,
    hsame "label" rfl, hsame "bidirectional" rfl]

variable [IntCast α]

theorem Node.decode_restated (v w : Json α) (h : Node.Restated v w) :
    Node.decode w = Node.decode v := by
  refine bind_of_rel h.record fun fields given hfields => ?_
  have hsame := lookup_of_agreement hfields
  have hstyle := optional_of_rel {} (hfields "style") NodeStyle.decode_restated
  simp only [hstyle]
  simp only [required, Json.optional, hsame "id" rfl, hsame "label" rfl, hsame "type" rfl,
    hsame "x" rfl, hsame "y" rfl, hsame "width" rfl, hsame "height" rfl, hsame "container_id" rfl]

theorem Container.decode_restated (v w : Json α) (h : Container.Restated v w) :
    Container.decode w = Container.decode v := by
  refine bind_of_rel h.record fun fields given hfields => ?_
  have hsame := lookup_of_agreement hfields
  simp only [required, Json.optional, hsame "id" rfl, hsame "label" rfl, hsame "type" rfl,
    hsame "x" rfl, hsame "y" rfl, hsame "width" rfl, hsame "height" rfl, hsame "children" rfl]

theorem Diagram.decode_restated (v w : Json α) (h : Diagram.Restated v w) :
    Diagram.decode w = Diagram.decode v := by
  refine bind_of_rel h.record fun fields given hfields => ?_
  have hsame := lookup_of_agreement hfields
  have hnode (v w : Json α) : Each Node.Restated v w →
      toList? Node.decode w = toList? Node.decode v :=
    toList?_of_each Node.decode_restated
  have hlink (v w : Json α) : Each Link.Restated v w →
      toList? Link.decode w = toList? Link.decode v :=
    toList?_of_each Link.decode_restated
  have hcontainer (v w : Json α) : Each Container.Restated v w →
      nullable (toList? Container.decode) w = nullable (toList? Container.decode) v :=
    nullable_of_each Container.decode_restated
  have hnodes := required_of_rel (hfields "nodes") hnode
  have hlinks := required_of_rel (hfields "links") hlink
  have hcontainers := optional_of_rel none (hfields "containers") hcontainer
  have htitle : required given "title" toStr? = required fields "title" toStr? := by
    rw [required, required, hsame "title" rfl]
  simp only [htitle, hnodes, hlinks, hcontainers]

end Restated

end ArchDiagram
