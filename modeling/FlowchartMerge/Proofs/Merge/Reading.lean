import FlowchartMerge.Proofs.Comparison.Changes

/-!
# Reading a merged diagram back

What the text of a merged diagram says, section by section. The header and the texts
of the nodes come first, with whatever the colours may say between them; then each
edge line draws its own edge; the lines after that say nothing about header, nodes
or edges. Nothing that stands before the edge lines can therefore hide an edge.
-/

set_option autoImplicit false

namespace FlowchartMerge

open Line

namespace Line

theorem parts_of_other? {x : Line} {l : Text} (h : x.other? = some l) :
    x.header? = none ∧ x.mentions = [] ∧ x.edge? = none := by
  cases x <;> cases h <;> exact ⟨rfl, rfl, rfl⟩

theorem parts_of_edge? {x : Line} {e : Edge} (h : x.edge? = some e) :
    x.header? = none ∧ x.other? = none := by
  cases x <;> cases h
  exact ⟨rfl, rfl⟩

theorem mention_of_edge? {x : Line} {e : Edge} (h : x.edge? = some e) {n : Node}
    (hn : n ∈ x.mentions) : n.id = e.source ∨ n.id = e.target := by
  cases x <;> cases h
  rcases List.mem_cons.1 hn with rfl | hn
  · exact Or.inl rfl
  · exact Or.inr (congrArg Node.id (List.mem_singleton.1 hn))

section

variable {ls : List Text}

theorem filterMap_header?_of_other (h : ∀ l ∈ ls, IsOther l) :
    (ls.map classify).filterMap header? = [] := by
  rw [List.filterMap_map, List.filterMap_eq_nil_iff]
  exact fun l hl => (parts_of_other? (h l hl).2).1

theorem flatMap_mentions_of_other (h : ∀ l ∈ ls, IsOther l) :
    (ls.map classify).flatMap mentions = [] := by
  rw [List.flatMap_map, List.flatMap_eq_nil_iff]
  exact fun l hl => (parts_of_other? (h l hl).2).2.1

theorem filterMap_edge?_of_other (h : ∀ l ∈ ls, IsOther l) :
    (ls.map classify).filterMap edge? = [] := by
  rw [List.filterMap_map, List.filterMap_eq_nil_iff]
  exact fun l hl => (parts_of_other? (h l hl).2).2.2

theorem filterMap_other?_of_other (h : ∀ l ∈ ls, IsOther l) :
    (ls.map classify).filterMap other? = ls := by
  rw [List.filterMap_map]
  exact (List.filterMap_congr fun l hl => (h l hl).2).trans List.filterMap_some

end

theorem classify_of_isHeader {l : Text} (h : isHeader l = true) : classify l = .header l :=
  (Reads.header h).classify_eq

/-- The headers among some lines are those that pass the test for one. -/
theorem filterMap_header? (ls : List Text) :
    (ls.map classify).filterMap header? = ls.filter isHeader := by
  induction ls with
  | nil => rfl
  | cons l ls ih =>
    rw [List.map_cons, List.filterMap_cons, List.filter_cons, ih]
    by_cases hl : isHeader l = true
    · rw [classify_of_isHeader hl, if_pos hl]
      rfl
    · rw [if_neg hl]
      cases hh : (classify l).header? with
      | none => rfl
      | some h => exact absurd (eq_of_header? hh).2 hl

end Line

namespace Comparison

variable {c : Comparison}

def front (c : Comparison) (s : Settings) : List Line :=
  classify c.header :: (s.palette.styleLines.flatMap statements ++
    c.nodes.flatMap fun n => statements n.text)

theorem classLines_eq (c : Comparison) : c.classLines =
    [Status.added, .removed, .unchanged].flatMap fun s =>
      (c.nodes.filter fun n => n.status == s).map fun n => classLine n.id s := by
  unfold classLines nodeIds
  simp only [List.map_map]
  rfl

def tail (c : Comparison) (s : Settings) : List Text := c.keptLines s++c.classLines

theorem isOther_of_mem_tail (h : c.Sound) (s : Settings) : ∀ l ∈ c.tail s, IsOther l := by
  intro l hl
  rcases List.mem_append.1 hl with hl | hl
  · unfold keptLines at hl
    split at hl
    · exact h.other l hl
    · exact absurd hl List.not_mem_nil
  · obtain ⟨st, -, hm⟩ := List.mem_flatMap.1 hl
    obtain ⟨id, hid, rfl⟩ := List.mem_map.1 hm
    obtain ⟨n, hn, rfl⟩ := List.mem_map.1 hid
    have hw : IsWord n.id := isWord_of_mention? (h.mention n (List.mem_filter.1 hn).1).1
    exact isOther_classLine hw st

theorem statements_render (h : c.Sound) (s : Settings) :
    statements (c.render s) =
      c.front s ++ (c.edges.map fun e => classify e.line) ++ (c.tail s).map classify := by
  have hhead := statements_of_isLine h.header.1
  have hedges := flatMap_statements (c.edges.map EdgeChange.line) (by
    intro l hl
    obtain ⟨e, he, rfl⟩ := List.mem_map.1 hl
    exact (h.drawn e he).1)
  have htail := flatMap_statements (c.tail s) fun l hl => (isOther_of_mem_tail h s l hl).1
  rw [render, statements_joinLines, lines]
  rw [List.append_assoc _ (c.keptLines s), ← tail]
  simp only [List.cons_append, List.flatMap_cons, List.flatMap_append, hhead, hedges, htail]
  simp [front, List.flatMap_map, Function.comp_def]

def nodeLines (c : Comparison) : List Text := c.nodes.map fun n => bare n.text

theorem front_eq (h : c.Sound) {s : Settings} (hp : s.palette.IsPlain) :
    c.front s = .header c.header :: (s.palette.styleLines++c.nodeLines).map classify := by
  have hstyles := flatMap_statements s.palette.styleLines fun l hl => (hp.isOther l hl).1
  have hnodes : (c.nodes.flatMap fun n => statements n.text) = c.nodeLines.map classify := by
    unfold nodeLines
    rw [List.map_map, List.map_eq_flatMap]
    refine List.flatMap_congr fun n hn => ?_
    obtain ⟨hm, hlf⟩ := h.mention n hn
    rw [statements, significant_of_mention? hm hlf]
    rfl
  rw [front, classify_of_isHeader h.header.2, hstyles, hnodes, List.map_append]

theorem edgeLines_header? (h : c.Sound) :
    (c.edges.map fun e => classify e.line).filterMap header? = [] := by
  rw [List.filterMap_map, List.filterMap_eq_nil_iff]
  intro e he
  obtain ⟨f, hf, -⟩ := (h.drawn e he).2
  exact (parts_of_edge? hf).1

theorem edgeLines_other? (h : c.Sound) :
    (c.edges.map fun e => classify e.line).filterMap other? = [] := by
  rw [List.filterMap_map, List.filterMap_eq_nil_iff]
  intro e he
  obtain ⟨f, hf, -⟩ := (h.drawn e he).2
  exact (parts_of_edge? hf).2

theorem mem_ids_of_mem_edgeLines (h : c.Sound) {n : Node}
    (hn : n ∈ (c.edges.map fun e => classify e.line).flatMap mentions) :
    n.id ∈ c.nodes.map NodeChange.id := by
  obtain ⟨x, hx, hnx⟩ := List.mem_flatMap.1 hn
  obtain ⟨e, he, rfl⟩ := List.mem_map.1 hx
  obtain ⟨f, hf, -, hs, ht⟩ := (h.drawn e he).2
  rcases mention_of_edge? hf hnx with hid | hid
  · rw [hid, hs]
    exact (h.ends e he).1
  · rw [hid, ht]
    exact (h.ends e he).2

theorem ids_drawn (h : c.Sound) :
    (c.edges.filterMap EdgeChange.drawn?).map Edge.id = c.edges.map EdgeChange.id := by
  have hid : ∀ e ∈ c.edges, e.drawn?.map Edge.id = some e.id := by
    intro e he
    obtain ⟨f, hf, hid, -⟩ := (h.drawn e he).2
    rw [hf, Option.map_some, hid]
  rw [List.map_filterMap, List.filterMap_congr hid, List.filterMap_eq_map']

/-- Only the lines before the edge lines can declare a header. -/
theorem header_read_render (h : c.Sound) (s : Settings) :
    (Diagram.read (c.render s)).header = ((c.front s).filterMap header?).getLast? := by
  rw [Diagram.read_eq, Diagram.header_ofLines, statements_render h, List.filterMap_append,
    List.filterMap_append, edgeLines_header? h, filterMap_header?_of_other (isOther_of_mem_tail h s),
    List.append_nil, List.append_nil]

theorem nodes_read_render (h : c.Sound) (s : Settings) :
    (Diagram.read (c.render s)).nodes = Table.ofFirst Node.id
      ((c.front s).flatMap mentions++(c.edges.map fun e => classify e.line).flatMap mentions) := by
  rw [Diagram.read_eq, Diagram.nodes_ofLines, statements_render h, List.flatMap_append,
    List.flatMap_append, flatMap_mentions_of_other (isOther_of_mem_tail h s), List.append_nil]

/-- The edges listed are written last, each by its own line. -/
theorem edges_read_render (h : c.Sound) (s : Settings) :
    (Diagram.read (c.render s)).edges = Table.ofLast Edge.id
      ((c.front s).filterMap edge?++c.edges.filterMap EdgeChange.drawn?) := by
  rw [Diagram.read_eq, Diagram.edges_ofLines, statements_render h, List.filterMap_append,
    List.filterMap_append, filterMap_edge?_of_other (isOther_of_mem_tail h s), List.append_nil,
    List.filterMap_map]
  rfl

theorem other_read_render (h : c.Sound) (s : Settings) :
    (Diagram.read (c.render s)).other = (c.front s).filterMap other?++c.tail s := by
  rw [Diagram.read_eq, Diagram.other_ofLines, statements_render h, List.filterMap_append,
    List.filterMap_append, edgeLines_other? h, filterMap_other?_of_other (isOther_of_mem_tail h s),
    List.append_nil]

end Comparison

end FlowchartMerge
