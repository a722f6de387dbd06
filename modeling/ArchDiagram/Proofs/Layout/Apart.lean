import Mathlib
import ArchDiagram.Proofs.Layout.Cells
import ArchDiagram.Proofs.Layout.Framed
import ArchDiagram.Proofs.Layout.Fresh

namespace ArchDiagram.Layout

/-- No gap between nodes, levels and containers is negative. -/
structure Spaced (plan : Plan ℝ) : Prop where
  nodes : 0 ≤ plan.nodeSpacing
  levels : 0 ≤ plan.levelSpacing
  containers : 0 ≤ plan.containerSpacing

section Shelves

variable {plan : Plan ℝ} {containers : List (Container ℝ)} {c : Container ℝ}

theorem mem_putAll {shelves : Shelves ℝ} {start : ℕ} (h : c ∈ shelves.putAll start containers) :
    ∃ index before, start ≤ index ∧ index < start + containers.length ∧ before ∈ containers ∧
      c = shelves.put index before := by
  induction containers generalizing start with
  | nil => simp [Shelves.putAll] at h
  | cons first rest ih =>
    rw [Shelves.putAll, List.mem_cons] at h
    rcases h with rfl | h
    · exact ⟨start, first, le_rfl, by simp, by simp, rfl⟩
    · obtain ⟨index, before, hlow, hhigh, hb, rfl⟩ := ih h
      exact ⟨index, before, by omega, by rw [List.length_cons]; omega, by simp [hb], rfl⟩

/-- The cells of the containers, with the gaps on their right and below them. -/
noncomputable def shelfCells (h : Spaced plan) (containers : List (Container ℝ)) : Cells where
  originX := (Shelves.ofContainers plan containers).margin
  originY := (Shelves.ofContainers plan containers).margin
  pitchX := (Shelves.ofContainers plan containers).pitchX
  pitchY := (Shelves.ofContainers plan containers).pitchY
  pitchX_nonneg := add_nonneg (largest_nonneg _) h.containers
  pitchY_nonneg := by
    have hgap : (0 : ℝ) ≤ rowGap := by norm_num [rowGap]
    exact add_nonneg (add_nonneg (largest_nonneg _) h.containers) hgap

/-- Every container has room in a cell. -/
theorem room_ofContainers (h : Spaced plan) (hc : c ∈ containers) :
    (containerWidth c.children.length : ℝ) ≤ (Shelves.ofContainers plan containers).pitchX ∧
      (containerHeight c.children.length : ℝ) + 40 ≤
        (Shelves.ofContainers plan containers).pitchY := by
  have hcount : c.children.length ∈ containers.map (·.children.length) := List.mem_map_of_mem hc
  have hwidth : (containerWidth c.children.length : ℝ) ≤ _ :=
    le_largest (List.mem_map_of_mem hcount)
  have hheight : (containerHeight c.children.length : ℝ) ≤ _ :=
    le_largest (List.mem_map_of_mem hcount)
  have hrow : (rowGap : ℝ) = 40 := by norm_num [rowGap]
  have hgap := h.containers
  rw [Shelves.ofContainers]
  constructor <;> dsimp only <;> linarith

theorem holds_put (h : Spaced plan) (hc : c ∈ containers) (index : ℕ) :
    let shelves := Shelves.ofContainers plan containers
    (shelfCells h containers).Holds (index % shelves.columns) (index / shelves.columns)
      (Box.ofContainer (shelves.put index c)) := by
  obtain ⟨hwidth, hheight⟩ := room_ofContainers h hc
  constructor <;> simp only [shelfCells, Box.ofContainer, Shelves.put] <;> linarith

theorem pairwise_putAll (h : Spaced plan) {placed : List (Container ℝ)} (hsub : placed ⊆ containers)
    (start : ℕ) :
    ((Shelves.ofContainers plan containers).putAll start placed).Pairwise
      fun c c' => (Box.ofContainer c).Apart (Box.ofContainer c') := by
  induction placed generalizing start with
  | nil => exact List.Pairwise.nil
  | cons c rest ih =>
    rw [Shelves.putAll, List.pairwise_cons]
    refine ⟨fun other ho => ?_, ih (fun c hc => hsub (by simp [hc])) (start + 1)⟩
    obtain ⟨index, before, hlow, -, hb, rfl⟩ := mem_putAll ho
    have hfirst := holds_put h (hsub List.mem_cons_self) start
    have hlater := holds_put h (hsub (List.mem_cons_of_mem c hb)) index
    exact hfirst.apart hlater (mod_ne_or_div_ne (by omega) _)

/-- The containers end above the line where the other nodes begin. -/
theorem above_bottom (h : Spaced plan) {scene : Scene ℝ} (hc : c ∈ scene.shelved plan) :
    c.y + c.height <
      (Shelves.ofContainers plan scene.containers).bottom (scene.shelved plan).length := by
  obtain ⟨index, before, -, hhigh, hb, rfl⟩ := mem_putAll hc
  rw [Nat.zero_add] at hhigh
  have hcolumns : 0 < (Shelves.ofContainers plan scene.containers).columns :=
    containerColumns_pos plan.compact (Nat.zero_lt_of_lt hhigh)
  have hrow :=
    Cells.end_le_start (shelfCells h scene.containers).pitchY_nonneg (lt_rowsFor hcolumns hhigh)
  have hroom := (room_ofContainers h hb).2
  rw [Scene.shelved, length_putAll, Shelves.bottom]
  simp only [Shelves.put, shelfCells] at hrow ⊢
  linarith

end Shelves

section Seats

variable {claim : Claim ℝ} {slot : ℕ} {node : Node ℝ}

/-- A container of the grid with ids out of its list. -/
structure Roomy (claim : Claim ℝ) : Prop where
  width : claim.container.width = containerWidth claim.container.children.length
  height : claim.container.height = containerHeight claim.container.children.length
  ids : claim.ids.length ≤ claim.container.children.length

/-- A node that a container has room for. -/
structure Seatable (node : Node ℝ) : Prop where
  width : node.width ≤ 170
  height : node.height ≤ 120

theorem roomy_claimed {plan : Plan ℝ} {scene : Scene ℝ} (h : claim ∈ scene.claimed plan) :
    Roomy claim := by
  obtain ⟨hc, -⟩ := claimed_subset h
  obtain ⟨index, before, -, -, -, he⟩ := mem_putAll hc
  refine ⟨?_, ?_, length_ids_le h⟩
  · rw [he]
    rfl
  · rw [he]
    rfl

noncomputable def Claim.cells (claim : Claim ℝ) : Cells where
  originX := claim.container.x + 40
  originY := claim.container.y + 40
  pitchX := max (claim.container.width - 80) 0 / (ceilSqrt claim.ids.length : ℝ)
  pitchY :=
    max (claim.container.height - 80) 0 / (rowsFor claim.ids.length (ceilSqrt claim.ids.length) : ℝ)
  pitchX_nonneg := div_nonneg (le_max_right _ _) (Nat.cast_nonneg _)
  pitchY_nonneg := div_nonneg (le_max_right _ _) (Nat.cast_nonneg _)

/-- A node is in the middle of its cell. -/
theorem seat_eq (claim : Claim ℝ) (slot : ℕ) (node : Node ℝ) :
    claim.seat slot node =
      { node with
        x := claim.cells.originX + (slot % ceilSqrt claim.ids.length : ℕ) * claim.cells.pitchX +
          (claim.cells.pitchX - node.width) / 2
        y := claim.cells.originY + (slot / ceilSqrt claim.ids.length : ℕ) * claim.cells.pitchY +
          (claim.cells.pitchY - node.height) / 2
        owner := some claim.container.id } := by
  have hpadding : (padding : ℝ) = 40 := by norm_num [padding]
  have hboth : (2 : ℝ) * 40 = 80 := by norm_num
  have hzero : (0.0 : ℝ) = 0 := by norm_num
  have htwo : (2.0 : ℝ) = 2 := by norm_num
  simp only [Claim.seat, Claim.cells, Scalar.max_eq, hpadding, hzero, htwo, hboth]

/-- The cells fill the container up to the padding, and they are large enough for the nodes. -/
theorem cells_span (hr : Roomy claim) (hslot : slot < claim.ids.length) :
    ((ceilSqrt claim.ids.length : ℝ) * claim.cells.pitchX = claim.container.width - 80 ∧
      (rowsFor claim.ids.length (ceilSqrt claim.ids.length) : ℝ) * claim.cells.pitchY =
        claim.container.height - 80) ∧
    170 ≤ claim.cells.pitchX ∧ 120 ≤ claim.cells.pitchY := by
  have hcount : 0 < claim.ids.length := Nat.zero_lt_of_lt hslot
  have hcolumns : 0 < ceilSqrt claim.ids.length := ceilSqrt_pos hcount
  have hrows : 0 < rowsFor claim.ids.length (ceilSqrt claim.ids.length) :=
    Nat.zero_lt_of_lt (lt_rowsFor hcolumns hslot)
  have hwide : (170 : ℝ) * ceilSqrt claim.ids.length ≤ claim.container.width - 80 := by
    have hfit : (170 : ℝ) * ceilSqrt claim.ids.length ≤ 220 + 60 * claim.ids.length := by
      exact_mod_cast columns_fit hcount
    have hids : (claim.ids.length : ℝ) ≤ claim.container.children.length := by exact_mod_cast hr.ids
    rw [hr.width, containerWidth]
    linarith
  have hhigh : (120 : ℝ) * rowsFor claim.ids.length (ceilSqrt claim.ids.length) ≤
      claim.container.height - 80 := by
    have hfit : (120 : ℝ) * rowsFor claim.ids.length (ceilSqrt claim.ids.length) ≤
        120 + 40 * claim.ids.length := by exact_mod_cast rows_fit claim.ids.length
    have hids : (claim.ids.length : ℝ) ≤ claim.container.children.length := by exact_mod_cast hr.ids
    rw [hr.height, containerHeight]
    linarith
  have hcolumns' : (0 : ℝ) < ceilSqrt claim.ids.length := by exact_mod_cast hcolumns
  have hrows' : (0 : ℝ) < rowsFor claim.ids.length (ceilSqrt claim.ids.length) := by
    exact_mod_cast hrows
  have hwidth : max (claim.container.width - 80) 0 = claim.container.width - 80 :=
    max_eq_left (by linarith)
  have hheight : max (claim.container.height - 80) 0 = claim.container.height - 80 :=
    max_eq_left (by linarith)
  simp only [Claim.cells, hwidth, hheight]
  exact ⟨⟨mul_div_cancel₀ _ hcolumns'.ne', mul_div_cancel₀ _ hrows'.ne'⟩,
    (le_div_iff₀ hcolumns').mpr hwide, (le_div_iff₀ hrows').mpr hhigh⟩

theorem holds_seat (hr : Roomy claim) (hslot : slot < claim.ids.length) (hn : Seatable node) :
    claim.cells.Holds (slot % ceilSqrt claim.ids.length) (slot / ceilSqrt claim.ids.length)
      (Box.ofNode (claim.seat slot node)) := by
  obtain ⟨-, hwide, hhigh⟩ := cells_span hr hslot
  have hwidth := hn.width
  have hheight := hn.height
  rw [seat_eq]
  constructor <;> simp only [Box.ofNode, Node.right, Node.bottom] <;> linarith

theorem enclosed_seat (hr : Roomy claim) (hslot : slot < claim.ids.length) (hn : Seatable node) :
    Enclosed 40 claim.container (claim.seat slot node) := by
  obtain ⟨⟨hwidth, hheight⟩, -⟩ := cells_span hr hslot
  obtain ⟨hleft, htop, hright, hbottom⟩ := holds_seat hr hslot hn
  have hcolumns : 0 < ceilSqrt claim.ids.length := ceilSqrt_pos (Nat.zero_lt_of_lt hslot)
  have hx := Cells.end_le_start claim.cells.pitchX_nonneg (Nat.mod_lt slot hcolumns)
  have hy := Cells.end_le_start claim.cells.pitchY_nonneg (lt_rowsFor hcolumns hslot)
  have hx' : 0 ≤ ((slot % ceilSqrt claim.ids.length : ℕ) : ℝ) * claim.cells.pitchX :=
    mul_nonneg (Nat.cast_nonneg _) claim.cells.pitchX_nonneg
  have hy' : 0 ≤ ((slot / ceilSqrt claim.ids.length : ℕ) : ℝ) * claim.cells.pitchY :=
    mul_nonneg (Nat.cast_nonneg _) claim.cells.pitchY_nonneg
  have horigin : claim.cells.originX = claim.container.x + 40 := rfl
  have horigin' : claim.cells.originY = claim.container.y + 40 := rfl
  simp only [Box.ofNode, Node.right, Node.bottom] at hleft htop hright hbottom
  constructor <;> linarith

end Seats

section Levels

variable {plan : Plan ℝ} {levels : Levels ℝ} {slot other : ℕ} {node : Node ℝ}

/-- The level of a slot, from the left or from the top. -/
def Levels.level (levels : Levels ℝ) (plan : Plan ℝ) (slot : ℕ) : ℕ :=
  if plan.flow.isReversed then levels.count - 1 - slot / levels.columns else slot / levels.columns

/-- The column and the row of a slot. -/
def Levels.cellOf (levels : Levels ℝ) (plan : Plan ℝ) (slot : ℕ) : ℕ × ℕ :=
  if plan.flow.isHorizontal then (levels.level plan slot, slot % levels.columns)
  else (slot % levels.columns, levels.level plan slot)

/-- The cells of the grid of nodes, with the gaps on their right and below them. -/
noncomputable def levelCells (h : Spaced plan) (hw : 0 ≤ levels.width) (hh : 0 ≤ levels.height) :
    Cells where
  originX := levels.originX
  originY := levels.originY
  pitchX := levels.width + if plan.flow.isHorizontal then plan.levelSpacing else plan.nodeSpacing
  pitchY := levels.height + if plan.flow.isHorizontal then plan.nodeSpacing else plan.levelSpacing
  pitchX_nonneg := by
    split_ifs
    · exact add_nonneg hw h.levels
    · exact add_nonneg hw h.nodes
  pitchY_nonneg := by
    split_ifs
    · exact add_nonneg hh h.nodes
    · exact add_nonneg hh h.levels

theorem holds_level (h : Spaced plan) (hw : 0 ≤ levels.width) (hh : 0 ≤ levels.height)
    (hn : node.width ≤ levels.width ∧ node.height ≤ levels.height) (slot : ℕ) :
    (levelCells h hw hh).Holds (levels.cellOf plan slot).1 (levels.cellOf plan slot).2
      (Box.ofNode (levels.put plan slot node)) := by
  obtain ⟨hwidth, hheight⟩ := hn
  obtain ⟨hnodes, hlevels, -⟩ := h
  rw [Levels.put, Levels.cellOf]
  by_cases hflow : plan.flow.isHorizontal = true
  · simp only [if_pos hflow]
    constructor <;>
      simp only [levelCells, if_pos hflow, Levels.level, Box.ofNode, Node.right, Node.bottom] <;>
      linarith
  · simp only [if_neg hflow]
    constructor <;>
      simp only [levelCells, if_neg hflow, Levels.level, Box.ofNode, Node.right, Node.bottom] <;>
      linarith

/-- Different slots have different cells, whether the levels are counted from the near or from the
far end. -/
theorem cellOf_ne (hne : slot ≠ other) (hs : slot / levels.columns < levels.count)
    (ho : other / levels.columns < levels.count) :
    (levels.cellOf plan slot).1 ≠ (levels.cellOf plan other).1 ∨
      (levels.cellOf plan slot).2 ≠ (levels.cellOf plan other).2 := by
  have hlevel (h : slot / levels.columns ≠ other / levels.columns) :
      levels.level plan slot ≠ levels.level plan other := by
    rw [Levels.level, Levels.level]
    split_ifs
    · omega
    · exact h
  have hcell := (mod_ne_or_div_ne hne levels.columns).imp_right hlevel
  rw [Levels.cellOf, Levels.cellOf]
  split_ifs
  · exact hcell.symm
  · exact hcell

end Levels

section Places

variable {claimed : List (Claim ℝ)} {put : ℕ → Node ℝ → Node ℝ} {drawn : Node ℝ}
  {nodes : List (Node ℝ)}
  {slot i : ℕ}

/-- A node is put into a slot of the grid, or a container seats it. -/
theorem getElem?_placeNodes (h : (placeNodes claimed put slot nodes)[i]? = some drawn) :
    ∃ node, nodes[i]? = some node ∧
      ((isFree claimed node (nodes.drop (i + 1)) = true ∧ node ∈ freeNodes claimed nodes ∧
          ∃ k, slot ≤ k ∧ k < slot + (freeNodes claimed nodes).length ∧ drawn = put k node) ∨
        (isFree claimed node (nodes.drop (i + 1)) = false ∧ seat? claimed node = some drawn)) := by
  induction nodes generalizing slot i with
  | nil => simp [placeNodes] at h
  | cons first later ih =>
    rw [placeNodes] at h
    rw [freeNodes]
    by_cases hfree : isFree claimed first later = true
    · rw [if_pos hfree] at h ⊢
      cases i with
      | zero =>
        obtain rfl := Option.some.inj h
        exact ⟨first, rfl, Or.inl ⟨hfree, by simp, slot, le_rfl, by simp, rfl⟩⟩
      | succ i =>
        obtain ⟨node, hn, hcase⟩ := ih h
        refine ⟨node, hn, hcase.imp_left fun hgrid => ?_⟩
        obtain ⟨hf, hm, k, hlow, hhigh, he⟩ := hgrid
        exact ⟨hf, by simp [hm], k, by omega, by rw [List.length_cons]; omega, he⟩
    · rw [if_neg hfree] at h ⊢
      cases i with
      | zero =>
        obtain ⟨seated, hs⟩ := exists_seat? hfree
        rw [hs] at h
        obtain rfl := Option.some.inj h
        exact ⟨first, rfl, Or.inr ⟨by simpa using hfree, hs⟩⟩
      | succ i => exact ih h

/-- Nodes are related two by two if those in different slots are, those with different ids that are
seated, and each of the ones with each of the others. -/
theorem pairwise_placeNodes {R : Node ℝ → Node ℝ → Prop} {free all : List (Node ℝ)} {total : ℕ}
    (hgrid : ∀ n ∈ free, ∀ n' ∈ free, ∀ k < total, ∀ k' < total, k ≠ k' → R (put k n) (put k' n'))
    (hmixed : ∀ n ∈ free, ∀ k < total, ∀ m ∈ all, ∀ x, seat? claimed m = some x →
      R (put k n) x ∧ R x (put k n))
    (hseats : ∀ m ∈ all, ∀ m' ∈ all, m.id ≠ m'.id → ∀ x x', seat? claimed m = some x →
      seat? claimed m' = some x' → R x x')
    (hfree : freeNodes claimed nodes ⊆ free) (hall : nodes ⊆ all)
    (htotal : slot + (freeNodes claimed nodes).length ≤ total) :
    (placeNodes claimed put slot nodes).Pairwise R := by
  induction nodes generalizing slot with
  | nil => exact List.Pairwise.nil
  | cons first later ih =>
    rw [freeNodes] at hfree htotal
    have hlater : later ⊆ all := fun n hn => hall (List.mem_cons_of_mem first hn)
    have hfirst : first ∈ all := hall List.mem_cons_self
    rw [placeNodes]
    by_cases hf : isFree claimed first later = true
    · rw [if_pos hf] at hfree htotal
      rw [List.length_cons] at htotal
      have hrest : freeNodes claimed later ⊆ free :=
        fun n hn => hfree (List.mem_cons_of_mem first hn)
      rw [if_pos hf, List.pairwise_cons]
      refine ⟨fun x hx => ?_, ih hrest hlater (by omega)⟩
      obtain ⟨i, hi⟩ := List.mem_iff_getElem?.mp hx
      obtain ⟨node, hn, ⟨-, hm, k, hlow, hhigh, rfl⟩ | ⟨-, hs⟩⟩ := getElem?_placeNodes hi
      · exact hgrid first (hfree List.mem_cons_self) node (hrest hm) slot (by omega) k
          (by omega) (by omega)
      · exact (hmixed first (hfree List.mem_cons_self) slot (by omega) node
          (hlater (List.mem_of_getElem? hn)) x hs).1
    · rw [if_neg hf] at hfree htotal
      obtain ⟨seated, hseated⟩ := exists_seat? hf
      rw [if_neg hf, hseated, Option.getD_some, List.pairwise_cons]
      refine ⟨fun x hx => ?_, ih hfree hlater htotal⟩
      obtain ⟨i, hi⟩ := List.mem_iff_getElem?.mp hx
      obtain ⟨node, hn, ⟨-, hm, k, -, hhigh, rfl⟩ | ⟨-, hs⟩⟩ := getElem?_placeNodes hi
      · exact (hmixed node (hfree hm) k (by omega) first hfirst seated hseated).2
      · -- A node with the id of a later one is not seated.
        have hne : first.id ≠ node.id := by
          intro he
          apply hf
          rw [isFree, Bool.or_eq_true, List.any_eq_true]
          exact Or.inl ⟨node, List.mem_of_getElem? hn, by simp [he]⟩
        exact hseats first hfirst node (hlater (List.mem_of_getElem? hn)) hne seated x hseated hs

end Places

section Owners

/-- The container that owns a node, each by its index: the first one that lists the id of the node,
unless a later node has the same id. -/
def Scene.ownerAt? {α : Type} (scene : Scene α) (i : ℕ) : Option ℕ :=
  scene.nodes[i]?.bind fun node =>
    if (scene.nodes.drop (i + 1)).any (·.id == node.id) then none
    else scene.containers.findIdx? (·.children.contains node.id)

/-- The first container that lists an id has claimed it. -/
theorem findIdx?_claims {ids taken : List String} {containers : List (Container ℝ)} {id : String}
    (hid : id ∈ ids) (ht : id ∉ taken) :
    (List.zipWith Claim.mk containers (claims ids taken containers)).findIdx? (·.ids.contains id) =
      containers.findIdx? (·.children.contains id) := by
  induction containers generalizing taken with
  | nil => rfl
  | cons c rest ih =>
    rw [claims, List.zipWith_cons_cons, List.findIdx?_cons, List.findIdx?_cons]
    by_cases hc : id ∈ c.children
    · simp [hid, ht, hc]
    · rw [ih]
      · simp [hc]
      · simp [ht, hc]

/-- The first container that has claimed a node seats it. -/
theorem exists_claim {claimed : List (Claim ℝ)} {node seated : Node ℝ}
    (h : seat? claimed node = some seated) :
    ∃ k claim slot, claimed.findIdx? (·.ids.contains node.id) = some k ∧ claimed[k]? = some claim ∧
      claim.ids.idxOf? node.id = some slot ∧ seated = claim.seat slot node := by
  induction claimed with
  | nil => simp [seat?] at h
  | cons first rest ih =>
    rw [seat?, List.findSome?_cons] at h
    rw [List.findIdx?_cons]
    cases hslot : first.ids.idxOf? node.id with
    | none =>
      rw [hslot] at h
      obtain ⟨k, claim, slot, hk, hclaim, hs, rfl⟩ := ih h
      have hnot : first.ids.contains node.id = false := by
        simpa using List.idxOf?_eq_none_iff.mp hslot
      refine ⟨k + 1, claim, slot, ?_, hclaim, hs, rfl⟩
      rw [hnot, hk]
      rfl
    | some slot =>
      rw [hslot] at h
      obtain rfl := Option.some.inj h
      have hm : node.id ∈ first.ids := by
        by_contra hnone
        rw [List.idxOf?_eq_none_iff.mpr hnone] at hslot
        contradiction
      exact ⟨0, first, slot, by simp [hm], rfl, hslot, rfl⟩

theorem seat?_eq_none_iff {claimed : List (Claim ℝ)} {node : Node ℝ} :
    seat? claimed node = none ↔ claimed.findIdx? (·.ids.contains node.id) = none := by
  simp [seat?, List.findSome?_eq_none_iff, List.findIdx?_eq_none_iff, List.idxOf?_eq_none_iff]

variable {plan : Plan ℝ} {scene : Scene ℝ}

theorem findIdx?_claimed {node : Node ℝ} (hn : node ∈ scene.nodes) :
    (scene.claimed plan).findIdx? (·.ids.contains node.id) =
      scene.containers.findIdx? (·.children.contains node.id) := by
  have hboxless : Boxless fun c : Container ℝ => c.children := fun _ _ _ _ _ => rfl
  have hchildren : (scene.shelved plan).map (·.children) = scene.containers.map (·.children) :=
    map_view_putAll hboxless _ 0 _
  have hfind (containers : List (Container ℝ)) :
      containers.findIdx? (·.children.contains node.id) =
        (containers.map (·.children)).findIdx? (·.contains node.id) := by
    rw [List.findIdx?_map]
    rfl
  rw [Scene.claimed, findIdx?_claims (List.mem_map_of_mem hn) List.not_mem_nil, hfind, hchildren,
    ← hfind]

def Scene.free {α : Type} [Scalar α] (plan : Plan α) (scene : Scene α) : List (Node α) :=
  freeNodes (scene.claimed plan) scene.nodes

/-- A node of the drawing has its seat in the container that owns it, and a slot of the grid if
there is none. -/
theorem placed_cases {i : ℕ} {drawn : Node ℝ} (h : (scene.arrange plan).nodes[i]? = some drawn) :
    (scene.ownerAt? i = none ∧ ∃ node ∈ scene.free plan, ∃ k,
      drawn = (scene.levels plan).put plan k node) ∨
    ∃ k claim, scene.ownerAt? i = some k ∧ (scene.claimed plan)[k]? = some claim ∧
      ∃ node ∈ scene.nodes, ∃ slot < claim.ids.length, drawn = claim.seat slot node := by
  rw [arrange_eq] at h
  obtain ⟨node, hn, hcase⟩ := getElem?_placeNodes h
  have howner : scene.ownerAt? i =
      if (scene.nodes.drop (i + 1)).any (·.id == node.id) then none
      else (scene.claimed plan).findIdx? (·.ids.contains node.id) := by
    rw [Scene.ownerAt?, hn, Option.bind_some, findIdx?_claimed (List.mem_of_getElem? hn)]
  rcases hcase with ⟨hfree, hm, k, -, -, rfl⟩ | ⟨hfree, hs⟩
  · refine Or.inl ⟨?_, node, hm, k, rfl⟩
    rw [isFree, Bool.or_eq_true, Option.isNone_iff_eq_none, seat?_eq_none_iff] at hfree
    rw [howner]
    split_ifs with hlater
    · rfl
    · exact hfree.resolve_left hlater
  · obtain ⟨k, claim, slot, hk, hclaim, hslot, rfl⟩ := exists_claim hs
    obtain ⟨hlt, -⟩ := List.idxOf?_eq_some_iff.mp hslot
    rw [isFree, Bool.or_eq_false_iff] at hfree
    refine Or.inr ⟨k, claim, ?_, hclaim, node, List.mem_of_getElem? hn, slot, hlt, rfl⟩
    rw [howner, hfree.1, if_neg Bool.false_ne_true, hk]

end Owners

section Drawings

variable {plan : Plan ℝ} {scene : Scene ℝ} {node : Node ℝ}

/-- Nodes may only be seated if there is a container. -/
def Scene.Seatable (scene : Scene ℝ) : Prop :=
  scene.containers ≠ [] → ∀ node ∈ scene.nodes, Layout.Seatable node

theorem containers_ne_nil {claim : Claim ℝ} (h : claim ∈ scene.claimed plan) :
    scene.containers ≠ [] := by
  obtain ⟨hc, -⟩ := claimed_subset h
  obtain ⟨index, before, -, -, hb, -⟩ := mem_putAll hc
  exact List.ne_nil_of_mem hb

/-- The seat of a node is in the box of its container. -/
theorem enclosed_of_seat? (hfit : scene.Seatable) (hn : node ∈ scene.nodes) {seated : Node ℝ}
    (h : seat? (scene.claimed plan) node = some seated) :
    ∃ claim slot, claim ∈ scene.claimed plan ∧ claim.ids.idxOf? node.id = some slot ∧
      slot < claim.ids.length ∧ seated = claim.seat slot node ∧
      Enclosed 40 claim.container seated := by
  obtain ⟨k, claim, slot, -, hclaim, hslot, rfl⟩ := exists_claim h
  have hm : claim ∈ scene.claimed plan := List.mem_of_getElem? hclaim
  obtain ⟨hlt, -⟩ := List.idxOf?_eq_some_iff.mp hslot
  exact ⟨claim, slot, hm, hslot, hlt, rfl,
    enclosed_seat (roomy_claimed hm) hlt (hfit (containers_ne_nil hm) node hn)⟩

/-- The cells of the nodes that go to the grid. -/
noncomputable def freeCells (h : Spaced plan) (scene : Scene ℝ) : Cells :=
  have hwidth : 0 ≤ (scene.levels plan).width := largest_nonneg _
  have hheight : 0 ≤ (scene.levels plan).height := largest_nonneg _
  levelCells h hwidth hheight

theorem holds_free (h : Spaced plan) (hn : node ∈ scene.free plan) (k : ℕ) :
    (freeCells h scene).Holds ((scene.levels plan).cellOf plan k).1
      ((scene.levels plan).cellOf plan k).2
      (Box.ofNode ((scene.levels plan).put plan k node)) := by
  refine holds_level h (largest_nonneg _) (largest_nonneg _) ⟨?_, ?_⟩ k
  · exact le_largest (List.mem_map_of_mem hn)
  · exact le_largest (List.mem_map_of_mem hn)

/-- Every slot of the grid is on one of its levels. -/
theorem level_lt {k : ℕ} (hk : k < (scene.free plan).length) :
    k / (scene.levels plan).columns < (scene.levels plan).count := by
  have hcolumns : 0 < (scene.levels plan).columns :=
    tightened_pos plan.compact (ceilSqrt_pos (Nat.zero_lt_of_lt hk))
  exact lt_rowsFor hcolumns hk

theorem free_below (h : Spaced plan) (hn : node ∈ scene.free plan) (k : ℕ) {c : Container ℝ}
    (hc : c ∈ scene.shelved plan) : c.y + c.height < ((scene.levels plan).put plan k node).y := by
  have hbottom := above_bottom h hc
  have htop := (holds_free h hn k).top
  have hne : (scene.shelved plan).isEmpty = false :=
    List.isEmpty_eq_false_iff.mpr (List.ne_nil_of_mem hc)
  have horigin : (freeCells h scene).originY =
      (Shelves.ofContainers plan scene.containers).bottom (scene.shelved plan).length := by
    change (if (scene.shelved plan).isEmpty then gridMargin else _) = _
    rw [hne]
    rfl
  have hsteps : 0 ≤ (((scene.levels plan).cellOf plan k).2 : ℝ) * (freeCells h scene).pitchY :=
    mul_nonneg (Nat.cast_nonneg _) (freeCells h scene).pitchY_nonneg
  rw [horigin] at htop
  exact hbottom.trans_le ((le_add_of_nonneg_right hsteps).trans htop)

theorem apart_free_seat (h : Spaced plan) (hfit : scene.Seatable) (hn : node ∈ scene.free plan)
    (k : ℕ) {other seated : Node ℝ} (ho : other ∈ scene.nodes)
    (hs : seat? (scene.claimed plan) other = some seated) :
    (Box.ofNode seated).Apart (Box.ofNode ((scene.levels plan).put plan k node)) := by
  obtain ⟨claim, slot, hm, -, -, -, hin⟩ := enclosed_of_seat? hfit ho hs
  have hbelow := free_below h hn k (claimed_subset hm).1
  have hbottom := hin.bottom
  refine Or.inr (Or.inr (Or.inl ?_))
  simp only [Box.ofNode, Node.bottom]
  linarith

theorem map_container_claims (ids taken : List String) (containers : List (Container ℝ)) :
    (List.zipWith Claim.mk containers (claims ids taken containers)).map (·.container) =
      containers := by
  induction containers generalizing taken with
  | nil => rfl
  | cons c rest ih => rw [claims, List.zipWith_cons_cons, List.map_cons, ih]

theorem pairwise_claimed (h : Spaced plan) (scene : Scene ℝ) :
    (scene.claimed plan).Pairwise fun claim claim' =>
      (Box.ofContainer claim.container).Apart (Box.ofContainer claim'.container) := by
  have hshelved := pairwise_putAll h (List.Subset.refl scene.containers) 0
  rw [← Scene.shelved, ← map_container_claims (scene.nodes.map (·.id)) [] (scene.shelved plan),
    List.pairwise_map] at hshelved
  exact hshelved

/-- Nodes in boxes that are apart are apart. -/
theorem apart_of_enclosed {c c' : Container ℝ} {n n' : Node ℝ} (hn : Enclosed 40 c n)
    (hn' : Enclosed 40 c' n') (h : (Box.ofContainer c).Apart (Box.ofContainer c')) :
    (Box.ofNode n).Apart (Box.ofNode n') := by
  obtain ⟨hleft, htop, hright, hbottom⟩ := hn
  obtain ⟨hleft', htop', hright', hbottom'⟩ := hn'
  simp only [Box.Apart, Box.ofContainer, Box.ofNode, Node.right, Node.bottom] at h ⊢
  rcases h with h | h | h | h
  · exact Or.inl (by linarith)
  · exact Or.inr (Or.inl (by linarith))
  · exact Or.inr (Or.inr (Or.inl (by linarith)))
  · exact Or.inr (Or.inr (Or.inr (by linarith)))

/-- Seats are apart as their containers are, or as the cells of one container. -/
theorem apart_seats (h : Spaced plan) (hfit : scene.Seatable) {first second one two : Node ℝ}
    (hfirst : first ∈ scene.nodes) (hsecond : second ∈ scene.nodes) (hne : first.id ≠ second.id)
    (hone : seat? (scene.claimed plan) first = some one)
    (htwo : seat? (scene.claimed plan) second = some two) :
    (Box.ofNode one).Apart (Box.ofNode two) := by
  obtain ⟨claim, slot, hm, hslot, hlt, rfl, hin⟩ := enclosed_of_seat? hfit hfirst hone
  obtain ⟨claim', slot', hm', hslot', hlt', rfl, hin'⟩ := enclosed_of_seat? hfit hsecond htwo
  by_cases hclaim : claim = claim'
  · subst hclaim
    have hslots : slot ≠ slot' := by
      intro he
      subst he
      obtain ⟨_, hid, -⟩ := List.idxOf?_eq_some_iff.mp hslot
      obtain ⟨_, hid', -⟩ := List.idxOf?_eq_some_iff.mp hslot'
      exact hne (by simpa using hid.symm.trans hid')
    have hseatable := hfit (containers_ne_nil hm)
    have hcell := holds_seat (roomy_claimed hm) hlt (hseatable first hfirst)
    have hcell' := holds_seat (roomy_claimed hm) hlt' (hseatable second hsecond)
    exact hcell.apart hcell' (mod_ne_or_div_ne hslots _)
  · have hsymm : Std.Symm fun claim claim' : Claim ℝ =>
        (Box.ofContainer claim.container).Apart (Box.ofContainer claim'.container) :=
          ⟨fun _ _ ha => ha.symm⟩
    exact apart_of_enclosed hin hin' ((pairwise_claimed h scene).forall hm hm' hclaim)

/-- A drawing of the nodes and containers of a scene in which no two nodes and no two containers
overlap. A node that a container owns lies in it with the padding on each side, and all others lie
below the containers. -/
structure Scene.Tidy (scene drawn : Scene ℝ) : Prop where
  nodes : drawn.nodes.Pairwise fun n n' => (Box.ofNode n).Apart (Box.ofNode n')
  containers : drawn.containers.Pairwise fun c c' => (Box.ofContainer c).Apart (Box.ofContainer c')
  footprints : drawn.nodes.map footprint = scene.nodes.map footprint
  lists : drawn.containers.map (fun c => (c.id, c.children)) =
    scene.containers.map fun c => (c.id, c.children)
  owned : ∀ (i k : ℕ) (node : Node ℝ), drawn.nodes[i]? = some node → scene.ownerAt? i = some k →
    ∃ c, drawn.containers[k]? = some c ∧ Enclosed 40 c node ∧ node.owner = some c.id
  others : ∀ (i : ℕ) (node : Node ℝ), drawn.nodes[i]? = some node → scene.ownerAt? i = none →
    ∀ c ∈ drawn.containers, c.y + c.height < node.y

/-- Rows and columns are tidy, for every direction and for as many columns as there are. -/
theorem arrange_tidy (h : Spaced plan) (hfit : scene.Seatable) :
    scene.Tidy (scene.arrange plan) := by
  constructor
  · rw [arrange_eq]
    refine pairwise_placeNodes ?_ ?_ ?_ (List.Subset.refl (scene.free plan))
      (List.Subset.refl scene.nodes)
      (Nat.zero_add _).le
    · intro n hn n' hn' k hk k' hk' hne
      exact (holds_free h hn k).apart (holds_free h hn' k')
        (cellOf_ne hne (level_lt hk) (level_lt hk'))
    · intro n hn k _ other ho seated hs
      have hapart := apart_free_seat h hfit hn k ho hs
      exact ⟨hapart.symm, hapart⟩
    · intro first hfirst second hsecond hne one two hone htwo
      exact apart_seats h hfit hfirst hsecond hne hone htwo
  · exact pairwise_putAll h (List.Subset.refl scene.containers) 0
  · exact map_view_arrange (fun _ _ _ => rfl) (fun _ _ _ _ _ _ _ => rfl) plan
  · exact map_view_putAll (fun _ _ _ _ _ => rfl) _ 0 _
  · intro i k drawn hi hk
    rcases placed_cases hi with ⟨hnone, -⟩ | ⟨k', claim, hk', hclaim, node, hn, slot, hlt, rfl⟩
    · rw [hnone] at hk
      contradiction
    · rw [hk'] at hk
      obtain rfl := Option.some.inj hk
      have hm : claim ∈ scene.claimed plan := List.mem_of_getElem? hclaim
      refine ⟨claim.container, ?_,
        enclosed_seat (roomy_claimed hm) hlt (hfit (containers_ne_nil hm) node hn), rfl⟩
      have hcontainers : (scene.claimed plan).map (·.container) = scene.shelved plan :=
        map_container_claims _ _ _
      rw [arrange_eq, ← hcontainers, List.getElem?_map, hclaim]
      rfl
  · intro i drawn hi hnone c hc
    rcases placed_cases hi with ⟨-, node, hn, k, rfl⟩ | ⟨k, claim, hk, -⟩
    · exact free_below h hn k hc
    · rw [hnone] at hk
      contradiction

/-- Two containers that both list a node, one of them twice, and one lists an id that no node
has. -/
noncomputable def gallery : Scene ℝ :=
  { nodes := [.fresh "vase" "Vase" .storage, .fresh "bust" "Bust" .server,
    .fresh "ticket" "Ticket" .user]
    containers := [
      { Container.fresh "east" "East" .group with children := ["bust", "bust", "vase"] },
      { Container.fresh "west" "West" .group with children := ["vase", "ghost"] }] }

theorem arrange_tidy_gallery :
    let plan : Plan ℝ := { Plan.standard with flow := .bottomUp, compact := true }
    (Spaced plan ∧ gallery.Seatable) ∧
      (List.range 3).map gallery.ownerAt? = [some 0, some 0, none] ∧
      gallery.Tidy (gallery.arrange plan) := by
  intro plan
  have hspaced : Spaced plan := by
    constructor <;> norm_num [plan, Plan.standard, Plan.baseNodeSpacing, Plan.baseLevelSpacing,
      Plan.baseContainerSpacing]
  have hseatable : gallery.Seatable := by
    intro _ node hn
    simp only [gallery, List.mem_cons, List.not_mem_nil, or_false] at hn
    rcases hn with rfl | rfl | rfl <;> constructor <;>
      norm_num [Node.fresh, Node.defaultWidth, Node.defaultHeight]
  have howners : (List.range 3).map gallery.ownerAt? = [some 0, some 0, none] := by
    rfl
  exact ⟨⟨hspaced, hseatable⟩, howners, arrange_tidy hspaced hseatable⟩

end Drawings

end ArchDiagram.Layout
