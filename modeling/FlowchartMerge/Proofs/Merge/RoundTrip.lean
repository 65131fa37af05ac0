import FlowchartMerge.Proofs.Merge.Header

/-!
# Diagrams whose nodes stand alone

When the text of each node declares that node and nothing else, a merged diagram
reads back as exactly what was written: the header, the nodes and the edges of the
comparison in its order, and every line that only gives a style.
-/

set_option autoImplicit false

namespace FlowchartMerge

open Line

def Node.Standalone (n : Node) : Prop :=
  (Diagram.read n.text).header = none ∧ (Diagram.read n.text).nodes.entries = [(n.id, n)] ∧
    (Diagram.read n.text).edges.entries = [] ∧ (Diagram.read n.text).other = []

instance (n : Node) : Decidable n.Standalone :=
  inferInstanceAs (Decidable (_ ∧ _ ∧ _ ∧ _))

def Diagram.Standalone (d : Diagram) : Prop := ∀ n ∈ d.nodes.values, n.Standalone

instance (d : Diagram) : Decidable d.Standalone :=
  inferInstanceAs (Decidable (∀ n ∈ d.nodes.values, n.Standalone))

def Node.Declared (n : Node) : Prop := IsLine n.text ∧ classify n.text = .node n

theorem Node.Standalone.declared {n : Node} (hm : mention? n.text = some n)
    (hlf : '\n' ∉ n.text) (h : n.Standalone) : n.Declared := by
  have hsig := significant_of_mention? hm hlf
  have hline : IsLine (bare n.text) := by
    refine isLine_of_mem_significant (t := n.text) ?_
    rw [hsig]
    exact List.mem_singleton_self _
  obtain ⟨hh, hn, he, ho⟩ := h
  have hread : Diagram.read n.text = Diagram.empty.add (classify (bare n.text)) := by
    rw [Diagram.read_eq, statements, hsig]
    rfl
  rw [hread] at hh hn he ho
  cases hc : classify (bare n.text) with
  | header l =>
    rw [hc] at hh
    cases hh
  | edge s t k l =>
    rw [hc] at he
    cases he
  | dangling l =>
    rw [hc] at ho
    cases ho
  | passthrough l =>
    rw [hc] at ho
    cases ho
  | node m =>
    rw [hc] at hn
    have hmn : m = n := by
      change [(m.id, m)] = [(n.id, n)] at hn
      exact (Prod.mk.inj (List.singleton_injective hn)).2
    subst hmn
    have ht := text_of_classify_eq_node hc
    rw [← ht] at hline hc
    exact ⟨hline, hc⟩

theorem Node.Declared.standalone {n : Node} (h : n.Declared) : n.Standalone := by
  rw [Node.Standalone, Diagram.read_of_isLine h.1, h.2]
  exact ⟨rfl, rfl, rfl, rfl⟩

/-- A diagram stands alone when each of its nodes is declared by its own text. -/
theorem Diagram.standalone_iff {d : Diagram} (hd : d.Sound) :
    d.Standalone ↔ ∀ n ∈ d.nodes.values, n.Declared := by
  constructor
  · intro h n hn
    exact (h n hn).declared (hd.mention n hn).1 (hd.mention n hn).2
  · intro h n hn
    exact (h n hn).standalone

namespace Comparison

variable {c : Comparison} {old new : Diagram}

def Declared (c : Comparison) : Prop := ∀ n ∈ c.nodes, n.node.Declared

theorem declared_ofDiagrams (ho : old.Sound) (hn : new.Sound) (hos : old.Standalone)
    (hns : new.Standalone) : (ofDiagrams old new).Declared := by
  intro n h
  rcases mem_nodes_cases h with h | h
  · exact (Diagram.standalone_iff hn).1 hns _ h
  · exact (Diagram.standalone_iff ho).1 hos _ h

theorem Declared.nodeLines_eq (h : c.Declared) :
    c.nodeLines.map classify = c.nodes.map fun n => .node n.node := by
  unfold nodeLines
  rw [List.map_map]
  refine List.map_congr_left fun n hn => ?_
  obtain ⟨hl, hc⟩ := h n hn
  change classify (bare n.node.text) = .node n.node
  rw [((isLine_iff _).1 hl).2.1, hc]

theorem Declared.strayHeaders_eq (h : c.Declared) : c.strayHeaders = [] := by
  rw [strayHeaders, ← filterMap_header?, h.nodeLines_eq, List.filterMap_map,
    List.filterMap_eq_nil_iff]
  exact fun _ _ => rfl

section

variable {s : Settings}

theorem header_read_render_of_declared (hc : c.Sound) (hd : c.Declared) (hp : s.palette.IsPlain) :
    (Diagram.read (c.render s)).header = some c.header := by
  rw [header_read_render_of_isPlain hc hp, hd.strayHeaders_eq]
  rfl

theorem nodes_read_render_of_declared (hc : c.Sound) (hd : c.Declared)
    (hp : s.palette.IsPlain) :
    (Diagram.read (c.render s)).nodes.entries = c.nodes.map fun n => (n.id, n.node) := by
  have hfront : (c.front s).flatMap mentions = c.nodes.map NodeChange.node := by
    rw [front_eq hc hp, List.flatMap_cons, List.map_append, List.flatMap_append,
      flatMap_mentions_of_other hp.isOther, hd.nodeLines_eq, List.flatMap_map, List.map_eq_flatMap]
    rfl
  have hids : (c.nodes.map NodeChange.node).map Node.id = c.nodes.map NodeChange.id := by
    rw [List.map_map]
    rfl
  have hknown : ∀ n ∈ (c.edges.map fun e => classify e.line).flatMap mentions,
      n.id ∈ (c.nodes.map NodeChange.node).map Node.id := by
    intro n hn
    rw [hids]
    exact mem_ids_of_mem_edgeLines hc hn
  have hnd : ((c.nodes.map NodeChange.node).map Node.id).Nodup := hids ▸ hc.nodes_nodup
  rw [nodes_read_render hc, hfront, Table.ofFirst_append_of_known _ _ _ hknown,
    Table.entries_ofFirst _ _ hnd, List.map_map]
  rfl

theorem edges_read_render_of_declared (hc : c.Sound) (hd : c.Declared)
    (hp : s.palette.IsPlain) :
    (Diagram.read (c.render s)).edges.entries =
      (c.edges.filterMap EdgeChange.drawn?).map fun f => (f.id, f) := by
  have hfront : (c.front s).filterMap edge? = [] := by
    rw [front_eq hc hp, List.filterMap_cons, List.map_append, List.filterMap_append,
      filterMap_edge?_of_other hp.isOther, hd.nodeLines_eq, List.filterMap_map]
    exact List.filterMap_eq_nil_iff.2 fun _ _ => rfl
  have hnd : ((c.edges.filterMap EdgeChange.drawn?).map Edge.id).Nodup := by
    rw [ids_drawn hc]
    exact hc.edges_nodup
  rw [edges_read_render hc, hfront, List.nil_append, Table.entries_ofLast _ _ hnd]

theorem other_read_render_of_declared (hc : c.Sound) (hd : c.Declared)
    (hp : s.palette.IsPlain) :
    (Diagram.read (c.render s)).other = s.palette.styleLines++c.tail s := by
  have hnodes : (c.nodes.map fun n => Line.node n.node).filterMap other? = [] := by
    rw [List.filterMap_map]
    exact List.filterMap_eq_nil_iff.2 fun _ _ => rfl
  rw [other_read_render hc, front_eq hc hp, List.filterMap_cons, List.map_append,
    List.filterMap_append, filterMap_other?_of_other hp.isOther, hd.nodeLines_eq, hnodes,
    List.append_nil]
  rfl

end

end Comparison

structure EdgeChange.ReadsAs (e : EdgeChange) (p : Text × Edge) : Prop where
  key : p.1 = e.id
  id : p.2.id = e.id
  source : p.2.source = e.source
  target : p.2.target = e.target
  text : p.2.text = if e.status = .removed then e.source ++ " -.-> " ++ e.target else e.text
  connector : Connector.find? p.2.text = some p.2.connector

/-- A diagram that is what a comparison wrote, element by element and in its order. -/
structure Comparison.ReadsAs (c : Comparison) (s : Settings) (d : Diagram) : Prop where
  header : d.header = some c.header
  nodes : d.nodes.entries = c.nodes.map fun n => (n.id, ⟨n.id, n.text⟩)
  edges : List.Forall₂ EdgeChange.ReadsAs c.edges d.edges.entries
  other : d.other =
    ["classDef added fill:" ++ s.palette.addedFill ++ ",stroke:" ++ s.palette.addedStroke ++
       ",stroke-width:2px;",
     "classDef removed fill:" ++ s.palette.removedFill ++ ",stroke:" ++ s.palette.removedStroke ++
       ",stroke-width:2px,stroke-dasharray: 5 5;",
     "classDef unchanged fill:#f6f8fa,stroke:#d0d7de,stroke-width:1px;"] ++
    (if s.keepDirectives then c.other else []) ++
    [Status.added, .removed, .unchanged].flatMap fun st =>
      (c.nodes.filter fun n => n.status == st).map fun n => "class " ++ n.id ++ " " ++ st.name

theorem EdgeChange.forall₂_readsAs (es : List EdgeChange)
    (h : ∀ e ∈ es, ∃ f, e.drawn? = some f ∧ f.id = e.id ∧ f.source = e.source ∧
      f.target = e.target) :
    List.Forall₂ ReadsAs es ((es.filterMap drawn?).map fun f => (f.id, f)) := by
  induction es with
  | nil => exact .nil
  | cons e es ih =>
    obtain ⟨f, hf, hid, hs, ht⟩ := h e List.mem_cons_self
    obtain ⟨he, hk, -⟩ := eq_of_edge? hf
    have htext : f.text = e.line := congrArg Edge.text he
    rw [List.filterMap_cons, hf]
    refine .cons ⟨hid, hid, hs, ht, htext.trans e.line_eq, ?_⟩
      (ih fun x hx => h x (List.mem_cons_of_mem _ hx))
    rw [htext]
    exact hk

theorem Comparison.readsAs_render {c : Comparison} {s : Settings} (hc : c.Sound)
    (hd : c.Declared) (hp : s.palette.IsPlain) : c.ReadsAs s (.read (c.render s)) where
  header := header_read_render_of_declared hc hd hp
  nodes := nodes_read_render_of_declared hc hd hp
  edges := by
    rw [edges_read_render_of_declared hc hd hp]
    exact EdgeChange.forall₂_readsAs c.edges fun e he => (hc.drawn e he).2
  other := by
    rw [other_read_render_of_declared hc hd hp, tail, ← List.append_assoc,
      classLines_eq]
    rfl

/-- Reading undoes rendering when every node of both texts stands alone. -/
theorem readsAs_of_standalone (s : Settings) (old new : Text) (hp : s.palette.IsPlain)
    (ho : (Diagram.read old).Standalone) (hn : (Diagram.read new).Standalone) :
    let c := Comparison.ofDiagrams (.read old) (.read new)
    c.ReadsAs s (.read (c.render s)) := by
  have hos := Diagram.sound_read old
  have hns := Diagram.sound_read new
  exact Comparison.readsAs_render (Comparison.sound_ofDiagrams hos hns)
    (Comparison.declared_ofDiagrams hos hns ho hn) hp

/-- A removed edge, an edge with another line, and a style that is kept. -/
theorem readsAs_of_standalone_removed :
    let old : Text := "A[Start]\nB\nC\nA --> B\nB --> C"
    let new : Text := "flowchart LR\nB(Round)\nC\nB ==> C\nstyle C fill:#fff"
    let s : Settings := { keepDirectives := true }
    let c := Comparison.ofDiagrams (.read old) (.read new)
    s.palette.IsPlain ∧ (Diagram.read old).Standalone ∧ (Diagram.read new).Standalone ∧
      c.ReadsAs s (.read (c.render s)) :=
  ⟨Palette.isPlain_default, by decide +kernel, by decide +kernel,
    readsAs_of_standalone _ _ _ Palette.isPlain_default (by decide +kernel) (by decide +kernel)⟩

end FlowchartMerge
