import FlowchartMerge.Proofs.Diagram.Reading

/-!
# What holds of every diagram that was read

Elements stand under their identities, every edge is the one that its own text
draws, both of its ends are nodes, and a node that no line declares by itself is an
end of an edge that is still there: an edge that takes the place of another has the
same ends, because its identity tells them.
-/

set_option autoImplicit false

namespace FlowchartMerge

open Line

def Edge.ends (e : Edge) : Text × Text := (e.source, e.target)

structure Diagram.Sound (d : Diagram) : Prop where
  header : ∀ h ∈ d.header, IsLine h ∧ isHeader h = true
  nodes_keyed : d.nodes.Keyed Node.id
  edges_keyed : d.edges.Keyed Edge.id
  mention : ∀ n ∈ d.nodes.values, mention? n.text = some n ∧ '\n' ∉ n.text
  origin : ∀ n ∈ d.nodes.values, IsLine n.text ∧ classify n.text = .node n ∨
    ∃ e ∈ d.edges.values, n.id = e.source ∨ n.id = e.target
  drawn : ∀ e ∈ d.edges.values, IsLine e.text ∧ (classify e.text).edge? = some e
  ends : ∀ e ∈ d.edges.values, e.source ∈ d.nodes.keys ∧ e.target ∈ d.nodes.keys
  other : ∀ l ∈ d.other, IsOther l

namespace Line

theorem isLine_of_mem_statements {t : Text} {x : Line} (hx : x ∈ statements t) :
    ∃ l, IsLine l ∧ classify l = x := by
  obtain ⟨l, hl, rfl⟩ := List.mem_map.1 hx
  exact ⟨l, isLine_of_mem_significant hl, rfl⟩

theorem mentions_of_edge? {x : Line} {e : Edge} (h : x.edge? = some e) :
    ∃ s ∈ x.mentions, ∃ t ∈ x.mentions, s.id = e.source ∧ t.id = e.target := by
  cases x <;> cases h
  rename_i s t c l
  exact ⟨s, by simp [mentions], t, by simp [mentions], rfl, rfl⟩

theorem text_of_classify_eq_node {l : Text} {n : Node} (h : classify l = .node n) : n.text = l := by
  have hr := reads_classify l
  rw [h] at hr
  cases hr with
  | node _ _ hm _ => exact ((mention?_eq_some_iff l n).1 hm).1

theorem eq_key_of_edge? {l : Text} {e : Edge} (h : (classify l).edge? = some e) :
    e.id = Edge.key e.source e.target :=
  congrArg Edge.id (eq_of_edge? h).1

/-- Edges of one identity have the same ends. -/
theorem ends_of_id {l m : Text} {e f : Edge} (he : (classify l).edge? = some e)
    (hf : (classify m).edge? = some f) (h : e.id = f.id) :
    e.source = f.source ∧ e.target = f.target := by
  obtain ⟨-, -, hes, -⟩ := eq_of_edge? he
  obtain ⟨-, -, hfs, -⟩ := eq_of_edge? hf
  rw [eq_key_of_edge? he, eq_key_of_edge? hf] at h
  exact Edge.key_injective hes hfs h

end Line

namespace Diagram

theorem mem_mentions_of_mem_nodes {t : Text} {n : Node} (hn : n ∈ (read t).nodes.values) :
    ∃ x ∈ statements t, n ∈ x.mentions := by
  rw [read_eq, nodes_ofLines, Table.mem_values_iff] at hn
  obtain ⟨k, hk⟩ := hn
  exact List.mem_flatMap.1 (Table.mem_of_get?_ofFirst Node.id hk).1

theorem edge?_of_mem_edges {t : Text} {e : Edge} (he : e ∈ (read t).edges.values) :
    ∃ x ∈ statements t, x.edge? = some e := by
  rw [read_eq, edges_ofLines, Table.mem_values_iff] at he
  obtain ⟨k, hk⟩ := he
  exact List.mem_filterMap.1 (Table.mem_of_get?_ofLast Edge.id hk).1

theorem mem_keys_of_mem_mentions {t : Text} {x : Line} (hx : x ∈ statements t) {n : Node}
    (hn : n ∈ x.mentions) : n.id ∈ (read t).nodes.keys := by
  rw [read_eq, nodes_ofLines, Table.mem_keys_ofFirst]
  exact List.mem_map.2 ⟨n, List.mem_flatMap.2 ⟨x, hx, hn⟩, rfl⟩

/-- An edge once drawn is never lost, though its text may change. -/
theorem exists_edge_of_edge? {t : Text} {x : Line} (hx : x ∈ statements t) {e : Edge}
    (he : x.edge? = some e) : ∃ f ∈ (read t).edges.values, f.id = e.id := by
  have hk : e.id ∈ (read t).edges.keys := by
    rw [read_eq, edges_ofLines, Table.mem_keys_ofLast]
    exact List.mem_map.2 ⟨e, List.mem_filterMap.2 ⟨x, hx, he⟩, rfl⟩
  obtain ⟨f, hf⟩ := (Table.mem_keys_iff _ _).1 hk
  refine ⟨f, (Table.mem_values_iff _ _).2 ⟨_, hf⟩, ?_⟩
  rw [read_eq, edges_ofLines] at hf
  exact (Table.mem_of_get?_ofLast Edge.id hf).2

theorem drawn_of_mem_edges {t : Text} {e : Edge} (he : e ∈ (read t).edges.values) :
    IsLine e.text ∧ (classify e.text).edge? = some e := by
  obtain ⟨x, hx, hxe⟩ := edge?_of_mem_edges he
  obtain ⟨l, hl, rfl⟩ := isLine_of_mem_statements hx
  have ht : e.text = l := congrArg Edge.text (eq_of_edge? hxe).1
  rw [ht]
  exact ⟨hl, hxe⟩

theorem origin_of_mem_nodes {t : Text} {n : Node} (hn : n ∈ (read t).nodes.values) :
    IsLine n.text ∧ classify n.text = .node n ∨
      ∃ e ∈ (read t).edges.values, n.id = e.source ∨ n.id = e.target := by
  obtain ⟨x, hx, hxn⟩ := mem_mentions_of_mem_nodes hn
  obtain ⟨l, hl, rfl⟩ := isLine_of_mem_statements hx
  rcases mention_cases hxn with hnode | ⟨e, he, hend⟩
  · rw [text_of_classify_eq_node hnode]
    exact Or.inl ⟨hl, hnode⟩
  · obtain ⟨f, hf, hfe⟩ := exists_edge_of_edge? hx he
    obtain ⟨hs, ht⟩ := ends_of_id (drawn_of_mem_edges hf).2 he hfe
    exact Or.inr ⟨f, hf, by rwa [hs, ht]⟩

theorem sound_read (t : Text) : (read t).Sound where
  header := by
    intro h hh
    rw [read_eq, header_ofLines] at hh
    obtain ⟨x, hx, hxh⟩ := List.mem_filterMap.1 (List.mem_of_getLast? hh)
    obtain ⟨l, hl, rfl⟩ := isLine_of_mem_statements hx
    obtain ⟨rfl, hhead⟩ := eq_of_header? hxh
    exact ⟨hl, hhead⟩
  nodes_keyed := by
    rw [read_eq, nodes_ofLines]
    exact Table.keyed_ofFirst Node.id _
  edges_keyed := by
    rw [read_eq, edges_ofLines]
    exact Table.keyed_ofLast Edge.id _
  mention := by
    intro n hn
    obtain ⟨x, hx, hxn⟩ := mem_mentions_of_mem_nodes hn
    obtain ⟨l, hl, rfl⟩ := isLine_of_mem_statements hx
    obtain ⟨hm, hi⟩ := mention?_of_mem_mentions hxn
    exact ⟨hm, fun hlf => ((isLine_iff l).1 hl).1 (hi.subset hlf)⟩
  origin := fun _ => origin_of_mem_nodes
  drawn := fun _ => drawn_of_mem_edges
  ends := by
    intro e he
    obtain ⟨x, hx, hxe⟩ := edge?_of_mem_edges he
    obtain ⟨s, hs, t, ht, hse, hte⟩ := mentions_of_edge? hxe
    rw [← hse, ← hte]
    exact ⟨mem_keys_of_mem_mentions hx hs, mem_keys_of_mem_mentions hx ht⟩
  other := by
    intro l hl
    rw [read_eq, other_ofLines] at hl
    obtain ⟨x, hx, hxl⟩ := List.mem_filterMap.1 hl
    obtain ⟨m, hm, rfl⟩ := isLine_of_mem_statements hx
    obtain rfl := eq_of_other? hxl
    exact ⟨hm, hxl⟩

theorem Sound.map_id_edges {d : Diagram} (hd : d.Sound) :
    d.edges.values.map Edge.id = (d.edges.values.map Edge.ends).map fun p => Edge.key p.1 p.2 := by
  rw [List.map_map]
  exact List.map_congr_left fun e he => eq_key_of_edge? (hd.drawn e he).2

/-- Edges under one key have the same ends, whatever texts they were read from. -/
theorem ends_of_get? {t u k : Text} {e f : Edge} (he : (read t).edges.get? k = some e)
    (hf : (read u).edges.get? k = some f) : e.source = f.source ∧ e.target = f.target := by
  have ht := sound_read t
  have hu := sound_read u
  have hem := (Table.mem_values_iff _ _).2 ⟨k, he⟩
  have hfm := (Table.mem_values_iff _ _).2 ⟨k, hf⟩
  have hid : e.id = f.id := (ht.edges_keyed k e he).trans (hu.edges_keyed k f hf).symm
  exact ends_of_id (ht.drawn e hem).2 (hu.drawn f hfm).2 hid

end Diagram

end FlowchartMerge
