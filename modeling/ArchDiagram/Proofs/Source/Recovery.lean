import ArchDiagram.Proofs.Source.Faults
import ArchDiagram.Proofs.Source.Grammar

namespace ArchDiagram.Source

/-- The texts of the language begin with a character, which is no slash. -/
def Language.Marked {β : Type} (L : Language β) : Prop :=
  ∀ range u x, L range u x → ∃ c rest, u = c :: rest ∧ c ≠ '/'

namespace Language.Marked

variable {β γ : Type}

theorem exactly {c : Char} {word : List Char} (h : c ≠ '/') :
    (Language.exactly (c :: word)).Marked :=
  fun _ _ _ hu => ⟨c, word, hu, h⟩

theorem bind {L : Language β} {M : β → Language γ} (h : L.Marked) : (L >>= M).Marked := by
  intro range u y hu
  obtain ⟨v, w, x, rfl, hv, -⟩ := hu
  obtain ⟨c, rest, rfl, hc⟩ := h range v x hv
  exact ⟨c, rest ++ w, rfl, hc⟩

theorem identifier : (Language.word isIdChar).Marked := by
  intro range u id hu
  obtain ⟨chars, _, _, rfl, ⟨⟨hchars, -⟩, hne⟩, rfl, -⟩ := hu
  obtain ⟨c, rest, rfl⟩ := List.exists_cons_of_ne_nil hne
  refine ⟨c, rest, by simp, ?_⟩
  intro hslash
  have hid : isIdChar c = true := hchars c (by simp)
  rw [hslash] at hid
  exact absurd hid (by decide)

theorem heading (heading : Heading) : heading.language.Marked := by
  cases heading with
  | node => exact bind (bind (exactly (by decide)))
  | link =>
    refine bind fun range u s hu => ?_
    rcases hu with hu | hu
    · exact bind identifier range u s hu
    · exact bind identifier range u s hu
  | container => exact bind (bind (exactly (by decide)))
  | close => exact bind (bind (exactly (by decide)))
  | unknown => exact fun _ _ _ hu => hu.elim

end Language.Marked

/-- A statement is neither blank nor a comment. -/
theorem holdsStatement_of_readStatement {u : List Char} {s : Statement}
    (h : readStatement u = .ok s) :
    holdsStatement u = true := by
  obtain ⟨c, rest, rfl, hc⟩ := Language.Marked.heading _ _ _ _ (language_of_readStatement h)
  simp [holdsStatement, commentMark, List.isPrefixOf, hc.symm]

/-- The first line does for blocks, nodes and links what the second one does, and declares no
container that the second one does not declare. -/
structure SourceLine.StandsFor (b a : SourceLine) : Prop where
  opens : b.opens = a.opens
  closes : b.closes = a.closes
  nodes : ∀ id, b.DeclaresNode id ↔ a.DeclaresNode id
  containers : ∀ id, b.DeclaresContainer id → a.DeclaresContainer id
  link : b.link? = a.link?

theorem SourceLine.StandsFor.refl (line : SourceLine) : line.StandsFor line :=
  ⟨rfl, rfl, fun _ => Iff.rfl, fun _ h => h, rfl⟩

namespace Progress

variable {α : Type}

/-- The first progress has as many open blocks as the second one, the same nodes and links, and no
further container. -/
structure Follows (q p : Progress α) : Prop where
  blocks : q.blockLines.length = p.blockLines.length
  nodes : ∀ id, id ∈ q.nodeIds ↔ id ∈ p.nodeIds
  containers : ∀ id, id ∈ q.containerIds → id ∈ p.containerIds
  links : q.links.map (·.decl) = p.links.map (·.decl)

theorem Follows.refl (p : Progress α) : p.Follows p := ⟨rfl, fun _ => Iff.rfl, fun _ h => h, rfl⟩

variable {p q : Progress α} {line : SourceLine}

/-- A line is no fault where fewer containers are declared. -/
theorem Follows.ownFault?_eq_none (h : q.Follows p) (hp : p.ownFault? line = none) :
    q.ownFault? line = none := by
  have hblocks : q.blocks = [] ↔ p.blocks = [] := by
    have hlength := h.blocks
    simp only [blockLines, List.length_map] at hlength
    rw [← List.length_eq_zero_iff, ← List.length_eq_zero_iff, hlength]
  cases hr : readStatement line.text with
  | error e => simp [ownFault?, hr] at hp
  | ok statement =>
    cases statement with
    | node decl =>
      simp only [ownFault?, hr, h.nodes] at hp ⊢
      exact hp
    | link decl => simp [ownFault?, hr]
    | container decl =>
      simp only [ownFault?, hr] at hp ⊢
      split_ifs at hp with hk hd
      have hnew : decl.id ∉ q.containerIds := fun hm => hd (h.containers decl.id hm)
      rw [if_neg hk, if_neg hnew]
    | close =>
      simp only [ownFault?, hr, hblocks] at hp ⊢
      exact hp

variable [Scalar α]

theorem Follows.step (h : q.Follows p) {b a : SourceLine} (hl : b.StandsFor a) :
    (q.step b).Follows (p.step a) := by
  constructor
  · rw [step_blockLines, step_blockLines, length_pushBlock, length_pushBlock, hl.opens, hl.closes,
      h.blocks]
  · intro id
    rw [mem_nodeIds_step, mem_nodeIds_step, h.nodes, hl.nodes]
  · intro id hm
    rw [mem_containerIds_step] at hm ⊢
    exact hm.imp (h.containers id) (hl.containers id)
  · rw [step_links, step_links, List.map_append, List.map_append, h.links, hl.link]
    cases a.link? <;> rfl

/-- Lines without a fault have none where fewer containers are declared. -/
theorem Follows.run (h : q.Follows p) {lines : List SourceLine} (hp : p.noted lines = []) :
    q.noted lines = [] ∧ (lines.foldl Progress.step q).Follows (lines.foldl Progress.step p) := by
  induction lines generalizing p q with
  | nil => exact ⟨rfl, h⟩
  | cons line lines ih =>
    rw [noted, List.append_eq_nil_iff] at hp
    have hfirst : p.ownFault? line = none := by
      cases hf : p.ownFault? line with
      | none => rfl
      | some fault => simp [hf] at hp
    obtain ⟨hrest, hfollows⟩ := ih (h.step (.refl line)) hp.2
    refine ⟨?_, hfollows⟩
    rw [noted, h.ownFault?_eq_none hfirst, hrest]
    rfl

theorem noted_append (p : Progress α) (before after : List SourceLine) :
    p.noted (before ++ after) = p.noted before ++ (before.foldl Progress.step p).noted after := by
  induction before generalizing p with
  | nil => rfl
  | cons line before ih =>
    rw [List.cons_append, noted, noted, ih, List.append_assoc]
    rfl

/-- Where a line of a compilation without errors is replaced by one that stands for it and is wrong
in itself, that fault is the only one. -/
theorem finish_replaced {before after : List SourceLine} {a b : SourceLine} {fault : Fault}
    {title : String} {d : Diagram α}
    (h : ((before ++ a :: after).foldl Progress.step ({} : Progress α)).finish title = .ok d)
    (hl : b.StandsFor a) (hf : ∀ p : Progress α, p.ownFault? b = some fault) :
    ((before ++ b :: after).foldl Progress.step ({} : Progress α)).finish title =
      .error ⟨[b.error fault]⟩ := by
  obtain ⟨⟨herrors, hblocks, hends⟩, -⟩ := finish_eq_ok h
  rw [run_errors, List.nil_append, List.map_eq_nil_iff, noted_append, noted, List.append_eq_nil_iff,
    List.append_eq_nil_iff] at herrors
  obtain ⟨hbefore, -, hafter⟩ := herrors
  -- Both runs are the same up to the line, and the replaced one follows from there on.
  obtain ⟨hnoted, hfollows⟩ :=
    ((Follows.refl (before.foldl Progress.step ({} : Progress α))).step hl).run hafter
  rw [List.foldl_append, List.foldl_cons] at hblocks hends
  rw [List.foldl_append, List.foldl_cons]
  generalize hq :
    after.foldl Progress.step ((before.foldl Progress.step ({} : Progress α)).step b) =
    q at hfollows ⊢
  have hown : q.errors = [b.error fault] := by
    rw [← hq, run_errors, hnoted, step_errors, run_errors, hbefore, hf]
    rfl
  have hclosed : q.blockErrors = [] := by
    have hlength := hfollows.blocks
    simp only [blockLines, hblocks, List.length_map, List.length_nil,
      List.length_eq_zero_iff] at hlength
    rw [blockErrors, hlength]
    rfl
  have hresolved : q.linkErrors = [] := by
    rw [linkErrors_eq_nil_iff]
    intro link hm
    have hdecl : link.decl ∈ q.links.map (·.decl) := List.mem_map_of_mem hm
    rw [hfollows.links] at hdecl
    obtain ⟨other, ho, he⟩ := List.mem_map.mp hdecl
    have hknown := hends other ho
    rw [he, unknownEnd?_eq_none_iff] at hknown
    rw [unknownEnd?_eq_none_iff, hfollows.nodes, hfollows.nodes]
    exact hknown
  rw [finish, hown, hclosed, hresolved]
  simp [Failure.ofErrors]

end Progress

/-- A line that is wrong in itself and still opens a block, with its fault: one that cannot be read
and ends with an opening brace, or a header of an unknown kind. -/
inductive BrokenHeader (u : List Char) : Fault → Prop
  | unreadable {error : StatementError} :
      readStatement u = .error error → ¬commentMark <+: u → u.getLast? = some openBrace →
      u.head? ≠ some closeBrace → BrokenHeader u (.statement error)
  | unknownKind {decl : ContainerDecl} :
      readStatement u = .ok (.container decl) → decl.closed = false →
      ContainerKind.ofName? decl.kind = none →
      BrokenHeader u (.unknownKind decl.kind)

/-- A line that cannot be read and still begins with a closing brace, with its fault. -/
inductive BrokenClose (u : List Char) : Fault → Prop
  | unreadable {error : StatementError} :
      readStatement u = .error error → u.head? = some closeBrace → BrokenClose u (.statement error)

section Lines

variable {u v : List Char} {fault : Fault} {n : Nat}

theorem BrokenHeader.holds (h : BrokenHeader u fault) : holdsStatement u = true := by
  cases h with
  | unreadable _ hc hlast _ =>
    have hne : u ≠ [] := List.ne_nil_of_mem (List.mem_of_getLast? hlast)
    have hmark : commentMark.isPrefixOf u = false := by
      rw [← Bool.not_eq_true, List.isPrefixOf_iff_prefix]
      exact hc
    simp [holdsStatement, hne, hmark]
  | unknownKind hr _ _ => exact holdsStatement_of_readStatement hr

theorem BrokenClose.holds (h : BrokenClose u fault) : holdsStatement u = true := by
  cases h with
  | unreadable _ hhead =>
    obtain ⟨rest, rfl⟩ := List.head?_eq_some_iff.mp hhead
    rfl

theorem BrokenHeader.ownFault? {α : Type} (h : BrokenHeader u fault) (p : Progress α) :
    p.ownFault? ⟨n, u⟩ = some fault := by
  cases h with
  | unreadable hr _ _ _ => simp [Progress.ownFault?, hr]
  | unknownKind hr _ hk => simp [Progress.ownFault?, hr, hk]

theorem BrokenClose.ownFault? {α : Type} (h : BrokenClose u fault) (p : Progress α) :
    p.ownFault? ⟨n, u⟩ = some fault := by
  cases h with
  | unreadable hr _ => simp [Progress.ownFault?, hr]

theorem BrokenHeader.standsFor (h : BrokenHeader u fault) (hv : IsHeader v) :
    (SourceLine.mk n u).StandsFor ⟨n, v⟩ := by
  obtain ⟨decl, hr, hclosed⟩ := hv
  cases h with
  | unreadable hu _ hlast hhead =>
    constructor <;> simp [SourceLine.opens, SourceLine.closes, SourceLine.DeclaresNode,
      SourceLine.DeclaresContainer, SourceLine.link?, hu, hr, hclosed, hlast, hhead]
  | unknownKind hu hopen hk =>
    constructor <;> simp [SourceLine.opens, SourceLine.closes, SourceLine.DeclaresNode,
      SourceLine.DeclaresContainer, SourceLine.link?, hu, hr, hclosed, hopen, hk]

theorem BrokenClose.standsFor (h : BrokenClose u fault) (hv : readStatement v = .ok .close) :
    (SourceLine.mk n u).StandsFor ⟨n, v⟩ := by
  cases h with
  | unreadable hu hhead =>
    constructor <;> simp [SourceLine.opens, SourceLine.closes, SourceLine.DeclaresNode,
      SourceLine.DeclaresContainer, SourceLine.link?, hu, hv, hhead]

end Lines

/-- A source that compiles, one line of which is replaced: a header by a broken header, or a closing
line by a broken closing line. It fails with one error, on that line. -/
theorem compile_broken_line {α : Type} [Scalar α] {title source broken : String} {d : Diagram α}
    (h : compile title source = .ok d) {before after : List (List Char)} {raw other : List Char}
    {fault : Fault} (hsource : Text.lines source.toList = before ++ raw :: after)
    (hbroken : Text.lines broken.toList = before ++ other :: after)
    (hline : (IsHeader (Text.trim raw) ∧ BrokenHeader (Text.trim other) fault) ∨
      (readStatement (Text.trim raw) = .ok .close ∧ BrokenClose (Text.trim other) fault)) :
    (compile title broken : Except Failure (Diagram α)) =
      .error ⟨[⟨before.length + 1, fault, String.ofList (Text.trim other)⟩]⟩ := by
  obtain ⟨hraw, hother⟩ : holdsStatement (Text.trim raw) = true ∧
      holdsStatement (Text.trim other) = true := by
    rcases hline with ⟨⟨decl, hr, -⟩, hb⟩ | ⟨hr, hb⟩
    · exact ⟨holdsStatement_of_readStatement hr, hb.holds⟩
    · exact ⟨holdsStatement_of_readStatement hr, hb.holds⟩
  rw [compile, sourceLines_split hsource hraw] at h
  rw [compile, sourceLines_split hbroken hother]
  rcases hline with ⟨hr, hb⟩ | ⟨hr, hb⟩
  · exact Progress.finish_replaced h (hb.standsFor hr) fun p => hb.ownFault? p
  · exact Progress.finish_replaced h (hb.standsFor hr) fun p => hb.ownFault? p

/-- A block in a block, the inner header on a line of its own. -/
def innerSource (header : String) : String :=
  "container a: \"\" type=vpc x=0 y=0 width=9 height=9 \x7b\n" ++ header ++
    "\nnode n: \"\" icon=server x=1 y=1\n\x7d\n\x7d"

def innerHeader : String := "container b: \"\" type=group x=0 y=0 width=9 height=9 \x7b"

theorem compile_broken_line_nested :
    ∃ (d : Diagram Float) (before after : List (List Char)) (fault : Fault),
    compile "Shop" (innerSource innerHeader) = .ok d ∧
    Text.lines (innerSource innerHeader).toList = before ++ innerHeader.toList :: after ∧
    Text.lines (innerSource "container b \x7b").toList =
      before ++ "container b \x7b".toList :: after ∧
    (IsHeader (Text.trim innerHeader.toList) ∧
      BrokenHeader (Text.trim "container b \x7b".toList) fault) ∧
    (compile "Shop" (innerSource "container b \x7b") : Except Failure (Diagram Float)) =
      .error
        ⟨[⟨before.length + 1, fault, String.ofList (Text.trim "container b \x7b".toList)⟩]⟩ := by
  have hok :
      (compile "Shop" (innerSource innerHeader) : Except Failure (Diagram Float)).isOk = true := by
    decide +kernel
  have hread : (readStatement (Text.trim "container b \x7b".toList)).isOk = false := by
    decide +kernel
  have hlines : Text.lines (innerSource innerHeader).toList =
      (Text.lines (innerSource innerHeader).toList).take 1 ++
        innerHeader.toList :: (Text.lines (innerSource innerHeader).toList).drop 2 := by
          decide +kernel
  have hbroken : Text.lines (innerSource "container b \x7b").toList =
      (Text.lines (innerSource innerHeader).toList).take 1 ++
        "container b \x7b".toList :: (Text.lines (innerSource innerHeader).toList).drop 2 := by
          decide +kernel
  have hheader : IsHeader (Text.trim innerHeader.toList) := ⟨_, by rfl, rfl⟩
  cases hc : (compile "Shop" (innerSource innerHeader) : Except Failure (Diagram Float)) with
  | error e =>
    rw [hc] at hok
    exact absurd hok Bool.false_ne_true
  | ok d =>
    cases hr : readStatement (Text.trim "container b \x7b".toList) with
    | ok s =>
      rw [hr] at hread
      exact absurd hread.symm Bool.false_ne_true
    | error e =>
      have hb : BrokenHeader (Text.trim "container b \x7b".toList) (.statement e) :=
        .unreadable hr (by decide +kernel) (by decide +kernel) (by decide +kernel)
      exact ⟨d, _, _, _, rfl, hlines, hbroken, ⟨hheader, hb⟩,
        compile_broken_line hc hlines hbroken (.inl ⟨hheader, hb⟩)⟩

end ArchDiagram.Source
