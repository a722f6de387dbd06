import Mathlib
import ArchDiagram.Proofs.Diagram.Encoding
import ArchDiagram.Proofs.Json.Printed

namespace ArchDiagram

open Json

section Printable

variable {template : List (String × Option (Json Float))}

theorem printable_present (h : ∀ field ∈ template, ∀ v ∈ field.2, Printable v) :
    Printable (.obj (present template)) := by
  refine .obj fun field hm => ?_
  obtain ⟨entry, hentry, hfield⟩ := List.mem_filterMap.mp hm
  obtain ⟨v, hv, rfl⟩ := Option.map_eq_some_iff.mp hfield
  exact h entry hentry v hv

theorem printable_value {v : Json Float} (h : Printable v) : ∀ w ∈ some v, Printable w := by
  rintro w ⟨⟩
  exact h

theorem printable_text (text : Option String) : ∀ v ∈ text.map Json.str, Printable v := by
  intro v hv
  obtain ⟨s, -, rfl⟩ := Option.map_eq_some_iff.mp hv
  exact .str s

theorem printable_map {β : Type} {encode : β → Json Float} {l : List β}
    (h : ∀ x ∈ l, Printable (encode x)) :
    Printable (.arr (l.map encode)) := by
  refine .arr fun item hm => ?_
  obtain ⟨x, hx, rfl⟩ := List.mem_map.mp hm
  exact h x hx

theorem NodeStyle.printable_encode (style : NodeStyle) : Printable style.encode := by
  rw [encode_eq]
  apply printable_present
  simp only [template, List.forall_mem_cons]
  exact ⟨printable_text _, printable_text _, printable_text _, List.forall_mem_nil _⟩

theorem Node.printable_encode {node : Node Float} (hx : Printable (.num node.x))
    (hy : Printable (.num node.y)) (hwidth : Printable (.num node.width))
    (hheight : Printable (.num node.height)) : Printable node.encode := by
  have hstyle :
      ∀ v ∈ (if node.style.isPlain then none else some node.style.encode : Option (Json Float)),
        Printable v := by
    split
    · simp
    · exact printable_value node.style.printable_encode
  rw [encode_eq]
  apply printable_present
  simp only [template, List.forall_mem_cons]
  exact ⟨printable_value (.str _), printable_value (.str _), printable_value (.str _),
    printable_value hx,
    printable_value hy, printable_value hwidth, printable_value hheight, hstyle, printable_text _,
    List.forall_mem_nil _⟩

theorem Container.printable_encode {c : Container Float} (hx : Printable (.num c.x))
    (hy : Printable (.num c.y)) (hwidth : Printable (.num c.width))
    (hheight : Printable (.num c.height)) : Printable c.encode := by
  have hchildren : Printable (.arr (c.children.map .str)) := printable_map fun child _ => .str child
  rw [encode_eq]
  apply printable_present
  simp only [template, List.forall_mem_cons]
  exact ⟨printable_value (.str _), printable_value (.str _), printable_value (.str _),
    printable_value hx,
    printable_value hy, printable_value hwidth, printable_value hheight, printable_value hchildren,
    List.forall_mem_nil _⟩

theorem LinkStyle.printable_encode (style : LinkStyle) : Printable style.encode := by
  have hthickness : Printable (.int style.thickness.toNat) := by
    have hsmall := style.thickness.toNat_lt
    exact .int (by omega) (by omega)
  rw [encode_eq]
  apply printable_present
  simp only [template, List.forall_mem_cons]
  exact ⟨printable_value (.str _), printable_value hthickness, printable_text _,
    List.forall_mem_nil _⟩

theorem Link.printable_encode (link : Link) : Printable link.encode := by
  rw [encode_eq]
  apply printable_present
  simp only [template, List.forall_mem_cons]
  exact ⟨printable_value (.str _), printable_value (.str _), printable_value (.str _),
    printable_text _,
    printable_value (.bool _), printable_value link.style.printable_encode, List.forall_mem_nil _⟩

end Printable

namespace Diagram

variable {d : Diagram Float}

/-- All places and sizes of a diagram. -/
def numbers (d : Diagram Float) : List Float :=
  d.nodes.flatMap (fun node => [node.x, node.y, node.width, node.height]) ++
    d.containerList.flatMap fun c => [c.x, c.y, c.width, c.height]

theorem printable_encode (h : ∀ x ∈ d.numbers, Printable (.num x)) : Printable d.encode := by
  obtain ⟨hnodes, hcontainers⟩ := List.forall_mem_append.mp h
  rw [List.forall_mem_flatMap] at hnodes hcontainers
  have hnode : ∀ node ∈ d.nodes, Printable node.encode := by
    intro node hm
    have hnumbers := hnodes node hm
    simp only [List.forall_mem_cons] at hnumbers
    exact node.printable_encode hnumbers.1 hnumbers.2.1 hnumbers.2.2.1 hnumbers.2.2.2.1
  have hcontainer : ∀ c ∈ d.containerList, Printable c.encode := by
    intro c hm
    have hnumbers := hcontainers c hm
    simp only [List.forall_mem_cons] at hnumbers
    exact c.printable_encode hnumbers.1 hnumbers.2.1 hnumbers.2.2.1 hnumbers.2.2.2.1
  have hlist :
      ∀ v ∈ d.containers.map (fun containers => Json.arr (containers.map Container.encode)),
        Printable v := by
    intro v hv
    obtain ⟨containers, hc, rfl⟩ := Option.map_eq_some_iff.mp hv
    refine printable_map fun c hm => hcontainer c ?_
    rwa [containerList, hc]
  rw [encode_eq]
  apply printable_present
  simp only [template, List.forall_mem_cons]
  exact ⟨printable_value (.str _), printable_value (printable_map hnode),
    printable_value (printable_map fun link _ => link.printable_encode), hlist,
    List.forall_mem_nil _⟩

/-- A diagram with finite numbers is read back from its JSON text, if the text of each number is.
Any other text of it will do in which keys stand in another order or unknown keys are added. -/
theorem decode_parse_pretty (d : Diagram Float) (hfinite : ∀ x ∈ d.numbers, x.isFinite = true)
    (hback : ∀ x ∈ d.numbers, x.isFinite = true → ReadsBack x) :
    (Json.parse (Json.pretty d.encode)).bind decode = some d ∧
      ∀ text v, Json.parse text = some v → Restated d.encode v →
      (Json.parse text).bind decode = some d := by
  have hprintable : Printable d.encode :=
    printable_encode fun x hm => .num (hfinite x hm) (hback x hm (hfinite x hm))
  constructor
  · rw [hprintable.parse_pretty, Option.bind_some, decode_encode]
  · intro text v hparse hrestated
    rw [hparse, Option.bind_some, decode_restated _ _ hrestated, decode_encode]

/-- A node with one attribute set, and an empty list of containers. -/
def depot : Diagram Float :=
  { title := "Depot \"7\""
    nodes :=
      [{ id := "gate", label := "Gate\n1", icon := .loadBalancer
         x := 0.5, y := 0.5, width := 0.5, height := 0.5, style := { fill := some "#fff" },
           owner := some "yard" }]
    links :=
      [{ id := "loop", source := "gate", target := "gate", style := { color := some "red" } }]
    containers := some [] }

def depotGate : Json Float :=
  .obj [
    ("note", .null), ("container_id", .str "yard"),
    ("style", .obj [("width", .int (-1)), ("fill", .str "#fff")]),
    ("height", .num 0.5), ("width", .num 0.5), ("y", .num 0.5), ("x", .num 0.5),
    ("type", .str "load-balancer"),
    ("label", .str "Gate\n1"), ("id", .str "gate")]

def depotLoop : Json Float :=
  .obj [
    ("style", .obj [("color", .str "red"), ("thickness", .int 2), ("line", .str "solid")]),
    ("bidirectional", .bool false), ("target", .str "gate"), ("source", .str "gate"),
    ("id", .str "loop")]

/-- The depot with keys in reverse order, and with keys that no record knows. -/
def depotReversed : Json Float :=
  .obj [
    ("version", .int 2), ("containers", .arr []), ("links", .arr [depotLoop]),
    ("nodes", .arr [depotGate]),
    ("title", .str "Depot \"7\"")]

theorem restated_reverse {names : List String}
    {nested : List (String × (Json Float → Json Float → Prop))}
    {fields : List (String × Json Float)} (kept added : List (String × Json Float))
    (same : List.Forall₂ (Agrees nested) fields kept) (unknown : ∀ field ∈ added, field.1 ∉ names) :
    Json.Restated names nested (.obj fields) (.obj (kept ++ added).reverse) :=
  .intro same unknown (List.reverse_perm _)

theorem restated_depotReversed : Restated depot.encode depotReversed := by
  have hstyle : NodeStyle.Restated (NodeStyle.encode { fill := some "#fff" } : Json Float)
      (.obj [("width", .int (-1)), ("fill", .str "#fff")]) := by
    refine restated_reverse [("fill", .str "#fff")] [("width", .int (-1))] ?_ (by decide)
    exact .cons ⟨rfl, rfl⟩ .nil
  have hgate : Node.Restated
      (Node.encode
        { id := "gate", label := "Gate\n1", icon := .loadBalancer
          x := 0.5, y := 0.5, width := 0.5, height := 0.5, style := { fill := some "#fff" },
            owner := some "yard" })
      depotGate := by
    refine restated_reverse
      [("id", .str "gate"), ("label", .str "Gate\n1"),
        ("type", .str "load-balancer"), ("x", .num 0.5),
       ("y", .num 0.5), ("width", .num 0.5), ("height", .num 0.5),
       ("style", .obj [("width", .int (-1)), ("fill", .str "#fff")]), ("container_id", .str "yard")]
      [("note", .null)] ?_ (by decide)
    exact .cons ⟨rfl, rfl⟩ (.cons ⟨rfl, rfl⟩ (.cons ⟨rfl, rfl⟩ (.cons ⟨rfl, rfl⟩ (.cons ⟨rfl, rfl⟩
      (.cons ⟨rfl, rfl⟩ (.cons ⟨rfl, rfl⟩ (.cons ⟨rfl, hstyle⟩ (.cons ⟨rfl, rfl⟩ .nil))))))))
  have hlinkStyle : LinkStyle.Restated (LinkStyle.encode { color := some "red" } : Json Float)
      (.obj [("color", .str "red"), ("thickness", .int 2), ("line", .str "solid")]) := by
    refine restated_reverse [("line", .str "solid"), ("thickness", .int 2),
      ("color", .str "red")] [] ?_ (by simp)
    exact .cons ⟨rfl, rfl⟩ (.cons ⟨rfl, rfl⟩ (.cons ⟨rfl, rfl⟩ .nil))
  have hloop : Link.Restated
      (Link.encode
        { id := "loop", source := "gate", target := "gate", style := { color := some "red" } })
      depotLoop := by
    refine restated_reverse
      [("id", .str "loop"), ("source", .str "gate"), ("target", .str "gate"),
        ("bidirectional", .bool false),
       ("style", .obj [("color", .str "red"), ("thickness", .int 2), ("line", .str "solid")])] [] ?_
         (by simp)
    exact .cons ⟨rfl, rfl⟩
      (.cons ⟨rfl, rfl⟩ (.cons ⟨rfl, rfl⟩ (.cons ⟨rfl, rfl⟩ (.cons ⟨rfl, hlinkStyle⟩ .nil))))
  refine restated_reverse
    [("title", .str "Depot \"7\""), ("nodes", .arr [depotGate]), ("links", .arr [depotLoop]),
     ("containers", .arr [])]
    [("version", .int 2)] ?_ (by decide)
  exact .cons ⟨rfl, rfl⟩
    (.cons ⟨rfl, .intro (.cons hgate .nil)⟩ (.cons ⟨rfl, .intro (.cons hloop .nil)⟩
    (.cons ⟨rfl, .intro .nil⟩ .nil)))

theorem readsBack_half : ReadsBack 0.5 := by
  have htext : Decimal.shortest 0.5 = ['0', '.', '5'] := by decide +kernel
  have hvalue : divideByTens (Float.ofNat 5) 1 = 0.5 := by
    rw [divideByTens]
    decide +kernel
  refine ⟨⟨false, [0], [5], none⟩, by rw [htext]; rfl, ?_⟩
  simp [Numeral.value, wholePart, fits, fractionPart, Significand.toFloat?, hvalue]

theorem printable_depotReversed : Printable depotReversed := by
  have hhalf : Printable (.num 0.5) := .num (by decide +kernel) readsBack_half
  have hfill : ∀ field ∈ [("width", Json.int (-1)), ("fill", .str "#fff")], Printable field.2 := by
    simp only [List.forall_mem_cons]
    exact ⟨.int (by decide) (by decide), .str _, List.forall_mem_nil _⟩
  have hgate : Printable depotGate := by
    refine .obj ?_
    simp only [List.forall_mem_cons]
    exact ⟨.null, .str _, .obj hfill, hhalf, hhalf, hhalf, hhalf, .str _, .str _, .str _,
      List.forall_mem_nil _⟩
  have hline : ∀ field ∈ [("color", Json.str "red"), ("thickness", .int 2), ("line", .str "solid")],
      Printable field.2 := by
    simp only [List.forall_mem_cons]
    exact ⟨.str _, .int (by decide) (by decide), .str _, List.forall_mem_nil _⟩
  have hloop : Printable depotLoop := by
    refine .obj ?_
    simp only [List.forall_mem_cons]
    exact ⟨.obj hline, .bool _, .str _, .str _, .str _, List.forall_mem_nil _⟩
  refine .obj ?_
  simp only [List.forall_mem_cons]
  exact ⟨.int (by decide) (by decide), .arr (by simp), .arr (by simpa using hloop),
    .arr (by simpa using hgate), .str _, List.forall_mem_nil _⟩

theorem decode_parse_pretty_depot :
    (∀ x ∈ depot.numbers, x.isFinite = true) ∧
    (∀ x ∈ depot.numbers, x.isFinite = true → ReadsBack x) ∧
      Json.parse (Json.pretty depotReversed) = some depotReversed ∧
      Restated depot.encode depotReversed ∧
      (Json.parse (Json.pretty depot.encode)).bind decode = some depot ∧
      (Json.parse (Json.pretty depotReversed)).bind decode = some depot := by
  have hfinite : ∀ x ∈ depot.numbers, x.isFinite = true := by decide +kernel
  have hback : ∀ x ∈ depot.numbers, x.isFinite = true → ReadsBack x := by
    intro x hm _
    obtain rfl : x = 0.5 := by simpa [depot, numbers, containerList] using hm
    exact readsBack_half
  have hparse := printable_depotReversed.parse_pretty
  obtain ⟨hread, hrestated⟩ := decode_parse_pretty depot hfinite hback
  exact ⟨hfinite, hback, hparse, restated_depotReversed, hread,
    hrestated _ depotReversed hparse restated_depotReversed⟩

end Diagram

end ArchDiagram
