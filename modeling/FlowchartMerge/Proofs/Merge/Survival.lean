import FlowchartMerge.Proofs.Merge.Reading

/-!
# Nothing is lost in a merged diagram

Whatever the two texts, the colours and the settings are: a merged diagram that is
read back holds every node of both texts and every edge that the comparison lists,
with the line that was written for it.
-/

set_option autoImplicit false

namespace FlowchartMerge

open Line

namespace Comparison

variable {c : Comparison}

/-- A node survives by its own line or as an end of an edge line. -/
theorem mem_keys_read_render (h : c.Sound) (s : Settings) {k : Text}
    (hk : k ∈ c.nodes.map NodeChange.id) : k ∈ (Diagram.read (c.render s)).nodes.keys := by
  rw [nodes_read_render h, Table.mem_keys_ofFirst, List.map_append, List.mem_append]
  obtain ⟨n, hn, rfl⟩ := List.mem_map.1 hk
  rcases h.origin n hn with ⟨hl, hc⟩ | ⟨e, he, hne⟩
  · left
    have hx : classify n.text ∈ statements n.text := by
      rw [statements_of_isLine hl]
      exact List.mem_singleton_self _
    have hf : classify n.text ∈ c.front s :=
      List.mem_cons_of_mem _ (List.mem_append_right _ (List.mem_flatMap.2 ⟨n, hn, hx⟩))
    rw [hc] at hf
    exact List.mem_map.2 ⟨n.node, List.mem_flatMap.2 ⟨_, hf, List.mem_singleton_self _⟩, rfl⟩
  · right
    obtain ⟨f, hf, -, hfs, hft⟩ := (h.drawn e he).2
    obtain ⟨a, ha, b, hb, has, hbt⟩ := mentions_of_edge? hf
    have hx : classify e.line ∈ c.edges.map fun e => classify e.line := List.mem_map.2 ⟨e, he, rfl⟩
    rcases hne with hne | hne
    · exact List.mem_map.2 ⟨a, List.mem_flatMap.2 ⟨_, hx, ha⟩, by rw [has, hfs, hne]⟩
    · exact List.mem_map.2 ⟨b, List.mem_flatMap.2 ⟨_, hx, hb⟩, by rw [hbt, hft, hne]⟩

theorem get?_edges_read_render (h : c.Sound) (s : Settings) {e : EdgeChange} (he : e ∈ c.edges) :
    (Diagram.read (c.render s)).edges.get? e.id = e.drawn? := by
  obtain ⟨f, hf, hid, -⟩ := (h.drawn e he).2
  have hnd : ((c.edges.filterMap EdgeChange.drawn?).map Edge.id).Nodup := by
    rw [ids_drawn h]
    exact h.edges_nodup
  have hm : (f.id, f) ∈ (Table.ofLast Edge.id (c.edges.filterMap EdgeChange.drawn?)).entries := by
    rw [Table.entries_ofLast Edge.id _ hnd]
    exact List.mem_map.2 ⟨f, List.mem_filterMap.2 ⟨e, he, hf⟩, rfl⟩
  rw [edges_read_render h, Table.get?_ofLast_append, hf, ← hid,
    (Table.get?_eq_some_iff _ _ _).2 hm, Option.some_or]

theorem mem_edge_keys_read_render (h : c.Sound) (s : Settings) {k : Text}
    (hk : k ∈ c.edges.map EdgeChange.id) : k ∈ (Diagram.read (c.render s)).edges.keys := by
  obtain ⟨e, he, rfl⟩ := List.mem_map.1 hk
  obtain ⟨f, hf, -⟩ := (h.drawn e he).2
  exact (Table.mem_keys_iff _ _).2 ⟨f, (get?_edges_read_render h s he).trans hf⟩

end Comparison

section

variable {old new : Diagram}

theorem removed_eq_zero (ho : old.Sound) (hn : new.Sound)
    (hnodes : ∀ k ∈ old.nodes.keys, k ∈ new.nodes.keys)
    (hedges : ∀ k ∈ old.edges.keys, k ∈ new.edges.keys) :
    (Comparison.ofDiagrams old new).summary.nodes.removed = 0 ∧
      (Comparison.ofDiagrams old new).summary.edges.removed = 0 := by
  constructor
  · exact Comparison.count_nodes_eq_zero ho hn .removed fun k h => h.2 (hnodes k h.1)
  · exact Comparison.count_edges_eq_zero ho hn .removed fun k h => h.2 (hedges k h.1)

theorem added_eq_zero (ho : old.Sound) (hn : new.Sound)
    (hnodes : ∀ k ∈ new.nodes.keys, k ∈ old.nodes.keys)
    (hedges : ∀ k ∈ new.edges.keys, k ∈ old.edges.keys) :
    (Comparison.ofDiagrams old new).summary.nodes.added = 0 ∧
      (Comparison.ofDiagrams old new).summary.edges.added = 0 := by
  constructor
  · exact Comparison.count_nodes_eq_zero ho hn .added fun k h => h.2 (hnodes k h.1)
  · exact Comparison.count_edges_eq_zero ho hn .added fun k h => h.2 (hedges k h.1)

end

/-- A merged diagram holds every node of both texts and every listed edge: with the new text's
line, or dotted between its ends if only the old text has it. Against the merged diagram nothing
of the old text is removed, and nothing of the new text is added. -/
theorem merge_keeps_everything (s : Settings) (old new : Text) :
    let c := Comparison.ofDiagrams (.read old) (.read new)
    let d := Diagram.read (merge s old new)
    (∀ k, k ∈ (Diagram.read old).nodes.keys ∨ k ∈ (Diagram.read new).nodes.keys →
      k ∈ d.nodes.keys) ∧
    (∀ e ∈ c.edges, ∃ f, d.edges.get? e.id = some f ∧ f.id = e.id ∧ f.source = e.source ∧
      f.target = e.target ∧ f.text = e.line ∧
      match (Diagram.read new).edges.get? e.id with
      | some drawn => e.status ≠ .removed ∧ f.text = drawn.text
      | none => e.status = .removed ∧ f.text = e.source ++ " -.-> " ++ e.target) ∧
    ((Comparison.ofDiagrams (.read old) d).summary.nodes.removed = 0 ∧
      (Comparison.ofDiagrams (.read old) d).summary.edges.removed = 0) ∧
    (Comparison.ofDiagrams d (.read new)).summary.nodes.added = 0 ∧
      (Comparison.ofDiagrams d (.read new)).summary.edges.added = 0 := by
  intro c d
  have ho := Diagram.sound_read old
  have hn := Diagram.sound_read new
  have hd : d.Sound := Diagram.sound_read _
  have hc : c.Sound := Comparison.sound_ofDiagrams ho hn
  have hnodes : ∀ k, k ∈ (Diagram.read old).nodes.keys ∨ k ∈ (Diagram.read new).nodes.keys →
      k ∈ d.nodes.keys := fun k hk =>
    Comparison.mem_keys_read_render hc s ((Comparison.mem_nodes_ids ho hn k).2 hk.symm)
  have hedges : ∀ k, k ∈ (Diagram.read old).edges.keys ∨ k ∈ (Diagram.read new).edges.keys →
      k ∈ d.edges.keys := fun k hk =>
    Comparison.mem_edge_keys_read_render hc s ((Comparison.mem_edges_ids ho hn k).2 hk.symm)
  refine ⟨hnodes, fun e he => ?_, ?_, ?_⟩
  · obtain ⟨f, hf, hid, hfs, hft⟩ := (hc.drawn e he).2
    have htext : f.text = e.line := congrArg Edge.text (eq_of_edge? hf).1
    refine ⟨f, (Comparison.get?_edges_read_render hc s he).trans hf, hid, hfs, hft, htext, ?_⟩
    rw [htext]
    exact Comparison.line_of_mem_edges hn he
  · exact removed_eq_zero ho hd (fun k hk => hnodes k (Or.inl hk)) fun k hk => hedges k (Or.inl hk)
  · exact added_eq_zero hd hn (fun k hk => hnodes k (Or.inr hk)) fun k hk => hedges k (Or.inr hk)

end FlowchartMerge
