import ArchDiagram.Proofs.Source.Quotes
import ArchDiagram.Proofs.Source.RoundTrip
import ArchDiagram.Proofs.Source.Steps

namespace ArchDiagram.Source

section Trim

variable {u : List Char} {c : Char}

theorem count_trimLeft (hc : Text.isBlank c = false) (u : List Char) :
    (Text.trimLeft u).count c = u.count c := by
  have hblank : c ∉ u.takeWhile Text.isBlank := by
    intro hm
    rw [List.mem_takeWhile_imp hm] at hc
    contradiction
  have hsplit :=
    congrArg (List.count c) (List.takeWhile_append_dropWhile (p := Text.isBlank) (l := u))
  rw [List.count_append, List.count_eq_zero_of_not_mem hblank, Nat.zero_add] at hsplit
  exact hsplit

/-- Trimming keeps the characters that are not white space. -/
theorem count_trim (hc : Text.isBlank c = false) (u : List Char) :
    (Text.trim u).count c = u.count c := by
  rw [Text.trim, Text.trimRight, List.count_reverse, count_trimLeft hc, List.count_reverse,
    count_trimLeft hc]

end Trim

section Cut

variable {m f back : List Char} {c : Char} {label : String}

theorem quoteMark_not_mem_cleanLabel (label : String) : quoteMark ∉ cleanLabel label := by
  intro h
  obtain ⟨c, -, hc⟩ := List.mem_map.mp h
  split_ifs at hc with hq
  · exact absurd hc (by decide)
  · exact hq hc

/-- A line that a label cuts has a statement text with a single quote mark, which no statement
has. -/
theorem exists_unreadable (hm : ∀ b ∈ m, b = ' ') (hc : Text.isBlank c = false) (hslash : c ≠ '/')
    (hline : '\n' ∉ c :: f) (hquote : quoteMark ∉ c :: f) (hcut : '\n' ∈ label.toList) :
    ∃ u ∈ texts (m ++ (c :: f) ++ quotedLabel label ++ back), ∀ s, readStatement u ≠ .ok s := by
  have hclean : '\n' ∈ cleanLabel label := List.mem_map.mpr ⟨'\n', hcut, by decide⟩
  obtain ⟨inside, rest, hlabel, hinside⟩ := List.eq_append_cons_of_mem hclean
  have hnone : quoteMark ∉ inside := by
    intro hq
    exact quoteMark_not_mem_cleanLabel label (by simp [hlabel, hq])
  have hblank : ∀ b ∈ m, Text.isBlank b = true := by
    intro b hb
    rw [hm b hb]
    decide
  have hmargin : '\n' ∉ m := fun hb => absurd (hm _ hb) (by decide)
  let front := c :: f ++ quoteMark :: inside
  have hfront : '\n' ∉ m ++ front := by
    simp only [front, List.mem_append, List.mem_cons, not_or] at hline ⊢
    exact ⟨hmargin, ⟨⟨hline.1, hline.2⟩, by decide, hinside⟩⟩
  have hsplit : m ++ (c :: f) ++ quotedLabel label ++ back =
      (m ++ front) ++ '\n' :: (rest ++ [quoteMark] ++ back) := by
    simp [quotedLabel, hlabel, front]
  -- The first piece keeps its one quote mark when it is trimmed.
  have hone : (Text.trim (m ++ front)).count quoteMark = 1 := by
    have hmq : quoteMark ∉ m := fun hb => absurd (hm _ hb) (by decide)
    rw [count_trim (by decide)]
    simp only [front, List.count_append, List.count_cons_self]
    rw [List.count_eq_zero_of_not_mem hmq, List.count_eq_zero_of_not_mem hquote,
      List.count_eq_zero_of_not_mem hnone]
  have hhead : [c] <+: Text.trim (m ++ front) := by
    rw [Text.trim_blank_append hblank]
    exact Text.prefix_trim ⟨_, rfl⟩ (by simpa using hc)
  have hholds : holdsStatement (Text.trim (m ++ front)) = true := by
    obtain ⟨v, hv⟩ := hhead
    rw [← hv]
    simp [holdsStatement, commentMark, List.isPrefixOf, hslash.symm]
  refine ⟨Text.trim (m ++ front), ?_, ?_⟩
  · rw [hsplit, texts_append hfront, List.filter_singleton, hholds]
    simp
  · intro s hs
    have heven := count_quoteMark_of_readStatement hs
    rw [hone] at heven
    contradiction

end Cut

variable {α : Type}

section Unreadable

variable [Scalar α] {entry : Entry α}

/-- An entry whose label goes over its line is not read back. -/
theorem Entry.exists_unreadable (h : entry.Named) (hw : ¬entry.Whole) :
    ∃ u ∈ texts entry.line, ∀ s, readStatement u ≠ .ok s := by
  have hid {id : String} (hi : IsId id) : '\n' ∉ id.toList ∧ quoteMark ∉ id.toList :=
    ⟨hi.whole, fun hq => absurd (hi.2 _ hq) (by decide)⟩
  simp only [Entry.Whole, not_forall, not_not] at hw
  obtain ⟨label, hl, hcut⟩ := hw
  cases entry with
  | node m node =>
    obtain ⟨hm, hi⟩ := h
    obtain rfl := Option.some.inj hl
    have hline :
        nodeLine m node = m ++ ('n' :: (['o', 'd', 'e', ' '] ++ node.id.toList ++ [':', ' '])) ++
        quotedLabel node.label ++ (field iconWord node.icon.name.toList ++
          boxFields node.x node.y node.width node.height) := by
      simp [nodeLine, nodeWord]
    rw [Entry.line, hline]
    obtain ⟨hwhole, hquote⟩ := hid hi
    exact exists_unreadable hm (by decide) (by decide) (by simpa using hwhole)
      (by simpa [quoteMark] using hquote) hcut
  | opening container =>
    obtain rfl := Option.some.inj hl
    have hline : containerLine container =
        [] ++ ('c' :: (['o', 'n', 't', 'a', 'i', 'n', 'e', 'r', ' '] ++
        container.id.toList ++ [':', ' '])) ++ quotedLabel container.label ++
          (field typeWord container.kind.name.toList ++
            boxFields container.x container.y container.width container.height ++
              [' ', openBrace]) := by
      simp [containerLine, containerWord]
    rw [Entry.line, hline]
    obtain ⟨hwhole, hquote⟩ := hid h
    exact exists_unreadable (by simp) (by decide) (by decide) (by simpa using hwhole)
      (by simpa [quoteMark] using hquote) hcut
  | closing => contradiction
  | link link =>
    obtain ⟨hs, ht⟩ := h
    obtain ⟨c, rest, hsource⟩ := List.exists_cons_of_ne_nil hs.1
    have hc : isIdChar c = true := hs.2 c (by simp [hsource])
    have hslash : c ≠ '/' := by
      intro he
      obtain rfl := he
      contradiction
    let front := rest ++ [' '] ++ (if link.bidirectional then doubleArrow else arrow) ++ [' '] ++
      link.target.toList ++ [':', ' ']
    have hline : linkLine link = [] ++ (c :: front) ++ quotedLabel label ++ [] := by
      have hlabel : link.label = some label := hl
      simp [linkLine, hlabel, hsource, front]
    have hfront : c :: front = link.source.toList ++ [' '] ++
        (if link.bidirectional then doubleArrow else arrow) ++ [' '] ++
          link.target.toList ++ [':', ' '] := by
      simp [front, hsource]
    rw [Entry.line, hline]
    obtain ⟨hwhole, hquote⟩ := hid hs
    obtain ⟨hwhole', hquote'⟩ := hid ht
    refine exists_unreadable (by simp) (blank_of_idChar hc) hslash ?_ ?_ hcut
    · rw [hfront]
      cases link.bidirectional <;> simp [hwhole, hwhole', arrow, doubleArrow]
    · rw [quoteMark] at hquote hquote'
      rw [hfront]
      cases link.bidirectional <;> simp [hquote, hquote', arrow, doubleArrow, quoteMark]

end Unreadable

/-- Ids are fit for source and told apart, and every reference is to a node. Texts are arbitrary. -/
structure WellNamed (d : Diagram α) : Prop where
  valid : d.violations = []
  fitIds : FitIds d
  containerIds : (d.containerList.map (·.id)).Nodup
  once : ∀ container ∈ d.containerList, container.children.Nodup

namespace WellNamed

variable {d : Diagram α} (h : WellNamed d)
include h

theorem writable (hl : OneLineLabels d) (ht : '\n' ∉ d.title.toList) : Writable d := by
  obtain ⟨hids, hends, hchildren⟩ := d.violations_eq_nil_iff.mp h.valid
  refine ⟨hids, h.containerIds, ?_, ?_, hends, hl.links, hchildren, h.once, ht⟩
  · exact fun node hm => ⟨h.fitIds.nodes node hm, hl.nodes node hm⟩
  · exact fun container hm => ⟨h.fitIds.containers container hm, hl.containers container hm⟩

/-- Every node, container and link has its line, so every label is on one. -/
theorem oneLineLabels (hwhole : ∀ entry ∈ entries d, entry.Whole) : OneLineLabels d := by
  have hn := (d.violations_eq_nil_iff.mp h.valid).1
  constructor
  · intro node hm
    have hwritten := (written_perm hn h.once).mem_iff.mpr hm
    rcases List.mem_append.mp hwritten with hout | hin
    · refine hwhole (.node [] node) ?_ _ rfl
      exact List.mem_append_left _ (List.mem_append_left _ (List.mem_map_of_mem hout))
    · obtain ⟨item, hitem, hin⟩ := List.mem_flatMap.mp hin
      refine hwhole (.node margin node) ?_ _ rfl
      refine List.mem_append_left _ (List.mem_append_right _ (List.mem_flatMap.mpr ?_))
      exact ⟨_, List.mem_map_of_mem hitem, by simp [hin]⟩
  · intro container hm
    rw [← map_fst_filled] at hm
    obtain ⟨item, hitem, rfl⟩ := List.mem_map.mp hm
    refine hwhole (.opening item.1) ?_ _ rfl
    refine List.mem_append_left _ (List.mem_append_right _ (List.mem_flatMap.mpr ⟨item, hitem, ?_⟩))
    simp
  · intro link hm
    exact hwhole (.link link) (List.mem_append_right _ (List.mem_map_of_mem hm))

end WellNamed

/-- The ids and the ends of links are the same. Containers and links are in the same order. -/
structure SameStructure (d d' : Diagram α) : Prop where
  nodeIds : d'.nodeIds.Perm d.nodeIds
  containerIds : d'.containerList.map (·.id) = d.containerList.map (·.id)
  ends : d'.links.map (fun link => (link.source, link.target)) =
    d.links.map fun link => (link.source, link.target)

theorem SameStructure.length_eq {d d' : Diagram α} (h : SameStructure d d') :
    d'.nodes.length + d'.containerList.length + d'.links.length =
      d.nodes.length + d.containerList.length + d.links.length := by
  have hnodes := h.nodeIds.length_eq
  have hcontainers := congrArg List.length h.containerIds
  have hlinks := congrArg List.length h.ends
  simp only [Diagram.nodeIds, List.length_map] at hnodes hcontainers hlinks
  omega

section Compile

variable [Scalar α] {d d' : Diagram α} {title source : String}

theorem count_declared (h : compile title source = .ok d) :
    (declared d source).count = d.nodes.length + d.containerList.length + d.links.length := by
  rw [Stage.count, links_of_compile h]
  simp [declared, Text.numbered]

theorem Writable.sameStructure (h : Writable d)
    (hrange : ∀ x : α, Scan.inRange (Scalar.nearest x) = true)
    (ht : texts source.toList = texts (toSource d).toList) (title : String) :
    ∃ d', compile title source = .ok d' ∧ SameStructure d d' := by
  refine ⟨_, h.compile_of_texts hrange ht title, h.legible.perm_ids, ?_, ?_⟩
  · have hids : (rereadContainers d).map (·.id) = d.containerList.map (·.id) := by
      rw [← map_fst_filled d, rereadContainers, List.map_map, List.map_map]
      rfl
    rw [← hids, Diagram.containerList]
    cases rereadContainers d <;> rfl
  · rw [Text.numbered_map, List.map_map, List.map_map]
    have hends : ((Text.numbered d.links).map (·.2)).map (fun link => (link.source, link.target)) =
        d.links.map fun link => (link.source, link.target) := by rw [Text.map_snd_numbered]
    rw [← hends, List.map_map]
    rfl

def untitled (d : Diagram α) : Diagram α := { d with title := "" }

omit [Scalar α] in
theorem WellNamed.writable_untitled (h : WellNamed d) (hl : OneLineLabels d) :
    Writable (untitled d) := by
  have hnamed : WellNamed (untitled d) :=
    ⟨h.valid, ⟨h.fitIds.nodes, h.fitIds.containers⟩, h.containerIds, h.once⟩
  exact hnamed.writable ⟨hl.nodes, hl.containers, hl.links⟩ List.not_mem_nil

/-- The statements are those in the title and those of the diagram without it. -/
theorem texts_titled (h : WellNamed d) (hl : OneLineLabels d) :
    texts (toSource d).toList = texts (titleRest d.title) ++
      texts (toSource (untitled d)).toList := by
  have hw := h.writable_untitled hl
  rw [texts_toSource h.valid h.fitIds hl,
    texts_toSource hw.violations_eq_nil hw.fitIds hw.oneLineLabels]
  rfl

/-- Statements in a title would declare something, or close a block that is not open. -/
theorem texts_titleRest_eq_nil (h : WellNamed d) (hl : OneLineLabels d)
    (hrange : ∀ x : α, Scan.inRange (Scalar.nearest x) = true)
    (hc : compile title (toSource d) = .ok d') (hs : SameStructure d d') :
    texts (titleRest d.title) = [] := by
  obtain ⟨plain, hplain, hsplain⟩ := (h.writable_untitled hl).sameStructure hrange rfl title
  have hsteps := steps_of_compile hc
  rw [texts_titled h hl] at hsteps
  obtain ⟨s, htitle, hrest⟩ := hsteps.of_append
  -- Both compilations declare as much as the diagram has, so the title declares nothing.
  have hwhole : (declared d' (toSource d)).count =
      (declared plain (toSource (untitled d))).count := by
    rw [count_declared hc, count_declared hplain, hs.length_eq, hsplain.length_eq]
    rfl
  have hown := (steps_of_compile hplain).count
  have htail := hrest.count
  have hfront := htitle.count
  exact htitle.eq_nil rfl (by omega)

end Compile

/-- The source of a diagram compiles to one of the same structure exactly if no label has a line
feed and the title has no statement behind its first one. -/
theorem sameStructure_toSource_iff {d : Diagram Float} (h : WellNamed d) (title : String) :
    (∃ d', compile title (toSource d) = .ok d' ∧ SameStructure d d') ↔
      OneLineLabels d ∧ texts (titleRest d.title) = [] := by
  constructor
  · intro hl
    obtain ⟨d', hc, hs⟩ := hl
    have hlabels : OneLineLabels d := by
      refine h.oneLineLabels fun entry hm => ?_
      by_contra hw
      obtain ⟨u, hu, hunread⟩ := Entry.exists_unreadable (h.fitIds.named h.valid hm) hw
      have htext : u ∈ texts (toSource d).toList := by
        rw [texts_toSource_eq]
        exact List.mem_append_right _ (List.mem_flatMap.mpr ⟨entry, hm, hu⟩)
      obtain ⟨s, hread⟩ := (steps_of_compile hc).readable htext
      exact hunread s hread
    exact ⟨hlabels, texts_titleRest_eq_nil h hlabels floatNearest_inRange hc hs⟩
  · intro hl
    obtain ⟨hlabels, htitle⟩ := hl
    have ht : texts (toSource d).toList = texts (toSource (untitled d)).toList := by
      rw [texts_titled h hlabels, htitle, List.nil_append]
    obtain ⟨d', hc, hs⟩ := (h.writable_untitled hlabels).sameStructure floatNearest_inRange ht title
    exact ⟨d', hc, hs.nodeIds, hs.containerIds, hs.ends⟩

/-- One node in a container with a link to itself, with one text for all labels. -/
def lettered (title label : String) : Diagram Float :=
  { title
    nodes := [{ id := "a", label, icon := .server, x := 0, y := 0, width := 1, height := 1 }]
    links := [{ id := "l", source := "a", target := "a", label := some label }]
    containers := some
      [{ id := "c", label, kind := .vpc, x := 0, y := 0, width := 1, height := 1,
         children := ["a"] }] }

theorem wellNamed_lettered (title label : String) : WellNamed (lettered title label) := by
  refine ⟨rfl, ⟨?_, ?_⟩, ?_, ?_⟩ <;> simp [lettered, Diagram.containerList] <;> decide

theorem sameStructure_toSource_lettered : WellNamed (lettered "Shop\r\n// \x7d" "\" \x7d\r -> //") ∧
    ((∃ d', compile "Again" (toSource (lettered "Shop\r\n// \x7d" "\" \x7d\r -> //")) = .ok d' ∧
      SameStructure (lettered "Shop\r\n// \x7d" "\" \x7d\r -> //") d') ↔
      OneLineLabels (lettered "Shop\r\n// \x7d" "\" \x7d\r -> //") ∧
        texts (titleRest "Shop\r\n// \x7d") = []) :=
  ⟨wellNamed_lettered _ _, sameStructure_toSource_iff (wellNamed_lettered _ _) "Again"⟩

/-- A title whose second line declares a node. -/
def ghostTitle : String := "Shop\nnode ghost: \"\" icon=server x=0 y=0"

/-- A line of a title becomes a node, and a line feed in a label makes the source unreadable. -/
theorem text_becomes_structure :
    (WellNamed (lettered ghostTitle "") ∧ (lettered ghostTitle "").nodeIds = ["a"] ∧
      ∃ d' : Diagram Float, compile "Shop" (toSource (lettered ghostTitle "")) = .ok d' ∧
        d'.nodeIds = ["ghost", "a"]) ∧
    (WellNamed (lettered "Shop" "a\nb") ∧
      (compile "Shop" (toSource (lettered "Shop" "a\nb")) : Except Failure (Diagram Float)).isOk =
        false) := by
  refine ⟨⟨wellNamed_lettered _ _, rfl, ?_⟩, wellNamed_lettered _ _, by decide +kernel⟩
  have hghost :
      (match (compile "Shop" (toSource (lettered ghostTitle "")) :
          Except Failure (Diagram Float)) with
      | .ok d' => decide (d'.nodeIds = ["ghost", "a"])
      | .error _ => false) = true := by decide +kernel
  cases hc :
    (compile "Shop" (toSource (lettered ghostTitle "")) : Except Failure (Diagram Float)) with
  | ok d' =>
    rw [hc] at hghost
    exact ⟨d', rfl, of_decide_eq_true hghost⟩
  | error failure =>
    rw [hc] at hghost
    contradiction

end ArchDiagram.Source
