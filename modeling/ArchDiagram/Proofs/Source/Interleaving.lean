import ArchDiagram.Proofs.Source.Renumbering

namespace ArchDiagram.Source

variable {α : Type}

namespace Progress

/-- The progress without the links that wait. -/
def linkless (p : Progress α) : Progress α := { p with links := [] }

theorem eq_of_linkless {p q : Progress α} (h : p.linkless = q.linkless) (hl : p.links = q.links) :
    p = q := by
  have hp : p = { p.linkless with links := p.links } := rfl
  rw [hp, h, hl]
  rfl

section Step

variable (p : Progress α) (line : SourceLine)

theorem linkless_close : (p.close line).linkless = p.linkless.close line := by
  have hblocks : p.linkless.blocks = p.blocks := rfl
  simp only [close, hblocks]
  cases p.blocks <;> rfl

theorem linkless_matchBraces : (p.matchBraces line).linkless = p.linkless.matchBraces line := by
  simp only [matchBraces]
  split_ifs <;> rfl

variable [Scalar α]

theorem linkless_addNode (decl : NodeDecl) :
    (p.addNode line decl).linkless = p.linkless.addNode line decl := by
  have hnodes : p.linkless.nodes = p.nodes := rfl
  simp only [addNode, hnodes]
  cases Icon.ofName? decl.icon with
  | none => rfl
  | some icon =>
    dsimp only
    split_ifs <;> rfl

theorem linkless_addContainer (decl : ContainerDecl) :
    (p.addContainer line decl).linkless = p.linkless.addContainer line decl := by
  have hcontainers : p.linkless.containers = p.containers := rfl
  simp only [addContainer, hcontainers]
  cases ContainerKind.ofName? decl.kind with
  | none =>
    dsimp only
    split_ifs <;> rfl
  | some kind =>
    dsimp only
    split_ifs <;> rfl

/-- The line of a link changes nothing but the links, and all other lines do not see them. -/
theorem linkless_step :
    (p.step line).linkless = if line.link?.isSome then p.linkless else p.linkless.step line := by
  cases hr : readStatement line.text with
  | error e =>
    simp only [step, SourceLine.link?, hr, linkless_matchBraces]
    rfl
  | ok statement =>
    cases statement with
    | node decl => simp [step, SourceLine.link?, hr, linkless_addNode]
    | link decl =>
      simp only [step, SourceLine.link?, hr]
      rfl
    | container decl => simp [step, SourceLine.link?, hr, linkless_addContainer]
    | close => simp [step, SourceLine.link?, hr, linkless_close]

theorem linkless_run (lines : List SourceLine) :
    (lines.foldl step p).linkless =
      (lines.filter fun line => !line.link?.isSome).foldl step p.linkless := by
  induction lines generalizing p with
  | nil => rfl
  | cons line lines ih =>
    rw [List.foldl_cons, ih, linkless_step, List.filter_cons]
    by_cases hl : line.link?.isSome = true
    · simp only [hl, if_true, Bool.not_true, Bool.false_eq_true, if_false]
    · simp only [hl, Bool.false_eq_true, if_false, Bool.not_false, if_true, List.foldl_cons]

end Step

/-- A run depends on the two sequences of lines, not on how they are mixed. -/
theorem run_eq_of_filter [Scalar α] (p : Progress α) {lines others : List SourceLine}
    (hlinks : others.filter (·.link?.isSome) = lines.filter (·.link?.isSome))
    (hrest : (others.filter fun line => !line.link?.isSome) =
      lines.filter fun line => !line.link?.isSome) :
    others.foldl step p = lines.foldl step p := by
  have hpending (lines : List SourceLine) :
      (lines.filterMap fun line => line.link?.map fun decl => (⟨decl, line⟩ : PendingLink)) =
        (lines.filter (·.link?.isSome)).filterMap fun line => line.link?.map fun decl =>
          ⟨decl, line⟩ := by
    rw [List.filterMap_filter]
    congr 1
    funext line
    cases line.link? <;> rfl
  apply eq_of_linkless
  · rw [linkless_run, linkless_run, hrest]
  · rw [run_links, run_links, hpending, hpending lines, hlinks]

end Progress

/-- What an error says and of which text. -/
def LineError.said (e : LineError) : String × String := (e.fault.message, e.text)

/-- Compilations that differ in line numbers only end alike. -/
theorem Progress.finish_alike {p q : Progress α} {f : Nat → Nat} (h : q.renumber f = p.renumber f)
    (title : String) :
    (∃ d, p.finish title = .ok d ∧ q.finish title = .ok d) ∨
      ∃ e e', p.finish title = .error e ∧ q.finish title = .error e' ∧
        (e'.errors.map (·.said)).Perm (e.errors.map (·.said)) := by
  have hdiagram : q.diagram title = p.diagram title := by
    rw [← diagram_renumber f q, h, diagram_renumber]
  have herrors : q.allErrors.map (·.renumber f) = p.allErrors.map (·.renumber f) := by
    rw [← allErrors_renumber, h, allErrors_renumber]
  have hsaid : q.allErrors.map (·.said) = p.allErrors.map (·.said) := by
    have hkept : LineError.said ∘ LineError.renumber f = LineError.said := rfl
    rw [← hkept, ← List.map_map, ← List.map_map, herrors]
  rw [finish_eq, finish_eq, hdiagram]
  by_cases hp : p.allErrors = []
  · have hq : q.allErrors = [] := by simpa [hp] using hsaid
    exact .inl ⟨p.diagram title, by simp [hp], by simp [hq]⟩
  · have hq : q.allErrors ≠ [] := by
      intro hq
      exact hp (by simpa [hq] using hsaid.symm)
    refine .inr ⟨.ofErrors p.allErrors, .ofErrors q.allErrors, by simp [hp], by simp [hq], ?_⟩
    have hsorted (errors : List LineError) :
        ((Failure.ofErrors errors).errors.map (·.said)).Perm (errors.map (·.said)) :=
      (List.mergeSort_perm errors _).map _
    exact ((hsorted _).trans (.of_eq hsaid)).trans (hsorted _).symm

/-- A line of the text that declares a link. -/
def isLinkLine (raw : List Char) : Bool :=
  match readStatement (Text.trim raw) with
  | .ok (.link _) => true
  | _ => false

theorem isSome_link? (number : Nat) (raw : List Char) :
    (SourceLine.mk number (Text.trim raw)).link?.isSome = isLinkLine raw := by
  simp only [SourceLine.link?, isLinkLine]
  cases readStatement (Text.trim raw) with
  | error e => rfl
  | ok statement => cases statement <;> rfl

/-- The statements of a source under one number. -/
theorem map_renumber_sourceLines (source : List Char) (n : Nat) :
    (sourceLines source).map (·.renumber fun _ => n) =
      (((Text.lines source).map Text.trim).filter holdsStatement).map (SourceLine.mk n) := by
  have htexts := congrArg (List.map (SourceLine.mk n)) (map_text_sourceLines source)
  rw [List.map_map] at htexts
  exact htexts

/-- Two sources that fall into the same lines of links and the same other lines, each in their
order, compile to the same diagram, or fail with the same messages about the same texts. -/
theorem compile_interleaved [Scalar α] {title source other : String}
    (h : (Text.lines other.toList).partition isLinkLine =
      (Text.lines source.toList).partition isLinkLine) :
    (∃ d : Diagram α, compile title source = .ok d ∧ compile title other = .ok d) ∨
      ∃ e e', (compile title source : Except Failure (Diagram α)) = .error e ∧
        (compile title other : Except Failure (Diagram α)) = .error e' ∧
        (e'.errors.map fun error => (error.fault.message, error.text)).Perm
          (e.errors.map fun error => (error.fault.message, error.text)) := by
  rw [List.partition_eq_filter_filter, List.partition_eq_filter_filter] at h
  obtain ⟨hlinks, hrest⟩ := Prod.mk.inj h
  -- Which lines are left out and which declare a link can be seen on the raw lines.
  have hfilter (source : List Char) (p : Bool → Bool) :
      ((sourceLines source).map (·.renumber fun _ => 0)).filter (fun line => p line.link?.isSome) =
        (((Text.lines source).filter fun raw => p (isLinkLine raw)).map Text.trim |>.filter
          holdsStatement).map (SourceLine.mk 0) := by
    rw [map_renumber_sourceLines, List.filter_map, List.filter_map, List.filter_map,
      List.filter_filter]
    simp only [List.filter_map, Function.comp_def, isSome_link?, List.filter_filter, Bool.and_comm]
  have hrun :
      ((sourceLines other.toList).foldl Progress.step ({} : Progress α)).renumber (fun _ => 0) =
      ((sourceLines source.toList).foldl Progress.step ({} : Progress α)).renumber fun _ => 0 := by
    rw [Progress.renumber_run, Progress.renumber_run]
    apply Progress.run_eq_of_filter
    · refine (hfilter other.toList id).trans (.trans ?_ (hfilter source.toList id).symm)
      exact congrArg
        (fun raws => ((raws.map Text.trim).filter holdsStatement).map (SourceLine.mk 0)) hlinks
    · refine (hfilter other.toList not).trans (.trans ?_ (hfilter source.toList not).symm)
      exact congrArg
        (fun raws => ((raws.map Text.trim).filter holdsStatement).map (SourceLine.mk 0)) hrest
  exact Progress.finish_alike hrun title

/-- Links before their nodes and inside of a block, one of them to a node that does not exist. -/
def scatteredLinks : String :=
  "w -> d\n// shop\ncontainer c: \"\" type=vpc x=0 y=0 width=9 height=9 \x7b\n  d <-> ghost\n" ++
  "node w: \"\" icon=server x=1 y=1\n\x7d\nnode d: \"\" icon=cache x=5 y=5"

/-- The same links behind everything else. -/
def gatheredLinks : String :=
  "// shop\ncontainer c: \"\" type=vpc x=0 y=0 width=9 height=9 \x7b\n" ++
  "node w: \"\" icon=server x=1 y=1\n\x7d\nnode d: \"\" icon=cache x=5 y=5\nw -> d\n  d <-> ghost"

theorem compile_interleaved_scattered :
    (Text.lines gatheredLinks.toList).partition isLinkLine =
      (Text.lines scatteredLinks.toList).partition isLinkLine ∧
    ((∃ d : Diagram Float, compile "Shop" scatteredLinks = .ok d ∧
      compile "Shop" gatheredLinks = .ok d) ∨
      ∃ e e', (compile "Shop" scatteredLinks : Except Failure (Diagram Float)) = .error e ∧
        (compile "Shop" gatheredLinks : Except Failure (Diagram Float)) = .error e' ∧
        (e'.errors.map fun error => (error.fault.message, error.text)).Perm
          (e.errors.map fun error => (error.fault.message, error.text))) := by
  have hparts : (Text.lines gatheredLinks.toList).partition isLinkLine =
      (Text.lines scatteredLinks.toList).partition isLinkLine := by decide +kernel
  exact ⟨hparts, compile_interleaved hparts⟩

end ArchDiagram.Source
