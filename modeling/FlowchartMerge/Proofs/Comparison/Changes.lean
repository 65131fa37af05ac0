import FlowchartMerge.Comparison.Summary
import FlowchartMerge.Proofs.Comparison.Written
import FlowchartMerge.Proofs.Diagram.Sound

/-!
# What a comparison lists

A comparison lists every element of both diagrams once, under its identity, with the
text of the new diagram where that has the element. What held of the two diagrams
holds of their comparison: each edge has a line that draws it, both of its ends are
listed, and a node that no line declares is an end of an edge that is listed.
-/

set_option autoImplicit false

namespace FlowchartMerge

open Line

def Status.Tells : Status → Prop → Prop → Prop
  | .added, inNew, inOld => inNew ∧ ¬inOld
  | .removed, inNew, inOld => inOld ∧ ¬inNew
  | .unchanged, inNew, inOld => inNew ∧ inOld

section

variable {α β : Type} {id : α → Text} {change : α → Status → β} {key : β → Text}

theorem mem_changes (old new : Table α) (c : β) :
    c ∈ changes id change old new ↔
      (∃ a ∈ new.values, c = change a (if old.contains (id a) then .unchanged else .added)) ∨
        ∃ a ∈ old.values, id a ∉ new.keys ∧ c = change a .removed := by
  simp only [changes, List.mem_append, List.mem_map, List.mem_filter, Bool.not_eq_true',
    Table.contains_eq_false_iff, and_assoc]
  constructor
  · rintro (⟨a, ha, rfl⟩ | ⟨a, ha, hk, rfl⟩)
    · exact Or.inl ⟨a, ha, rfl⟩
    · exact Or.inr ⟨a, ha, hk, rfl⟩
  · rintro (⟨a, ha, rfl⟩ | ⟨a, ha, hk, rfl⟩)
    · exact Or.inl ⟨a, ha, rfl⟩
    · exact Or.inr ⟨a, ha, hk, rfl⟩

theorem map_changes (hkey : ∀ a s, key (change a s) = id a) {old new : Table α}
    (ho : old.Keyed id) (hn : new.Keyed id) :
    (changes id change old new).map key =
      new.keys++old.keys.filter fun k => !new.contains k := by
  rw [ho.keys_eq, hn.keys_eq, changes, List.map_append, List.map_map, List.map_map, List.filter_map]
  congr 1
  · exact List.map_congr_left fun a _ => hkey a _
  · exact List.map_congr_left fun a _ => hkey a _

theorem nodup_changes (hkey : ∀ a s, key (change a s) = id a) {old new : Table α}
    (ho : old.Keyed id) (hn : new.Keyed id) : ((changes id change old new).map key).Nodup := by
  rw [map_changes hkey ho hn]
  exact Table.nodup_keys_append new old

theorem mem_map_changes (hkey : ∀ a s, key (change a s) = id a) {old new : Table α}
    (ho : old.Keyed id) (hn : new.Keyed id) (k : Text) :
    k ∈ (changes id change old new).map key ↔ k ∈ new.keys ∨ k ∈ old.keys := by
  rw [map_changes hkey ho hn, List.mem_append, List.mem_filter]
  by_cases hk : k ∈ new.keys
  · simp [hk]
  · simp [hk, (new.contains_eq_false_iff k).2 hk]

/-- A comparison lists an element once for its status, which tells who has it. -/
theorem exists_changes_iff (hkey : ∀ a s, key (change a s) = id a) {status : β → Status}
    (hs : ∀ a s, status (change a s) = s) {old new : Table α} (ho : old.Keyed id)
    (hn : new.Keyed id) (k : Text) (s : Status) :
    (∃ c ∈ changes id change old new, key c = k ∧ status c = s) ↔
      s.Tells (k ∈ new.keys) (k ∈ old.keys) := by
  simp only [mem_changes]
  constructor
  · rintro ⟨c, ⟨a, ha, rfl⟩ | ⟨a, ha, hk, rfl⟩, rfl, rfl⟩
    · rw [hkey, hs]
      have hnew : id a ∈ new.keys := hn.keys_eq ▸ List.mem_map_of_mem ha
      split
      · rename_i hold
        exact ⟨hnew, (old.contains_iff _).1 hold⟩
      · rename_i hold
        exact ⟨hnew, fun hm => hold ((old.contains_iff _).2 hm)⟩
    · rw [hkey, hs]
      exact ⟨ho.keys_eq ▸ List.mem_map_of_mem ha, hk⟩
  · intro h
    have hnew : k ∈ new.keys → ∃ a ∈ new.values, id a = k := fun hk =>
      List.mem_map.1 (hn.keys_eq ▸ hk)
    have hold : k ∈ old.keys → ∃ a ∈ old.values, id a = k := fun hk =>
      List.mem_map.1 (ho.keys_eq ▸ hk)
    cases s with
    | added =>
      obtain ⟨a, ha, rfl⟩ := hnew h.1
      refine ⟨_, Or.inl ⟨a, ha, rfl⟩, hkey _ _, ?_⟩
      rw [hs, (old.contains_eq_false_iff _).2 h.2]
      rfl
    | removed =>
      obtain ⟨a, ha, rfl⟩ := hold h.1
      exact ⟨_, Or.inr ⟨a, ha, h.2, rfl⟩, hkey _ _, hs _ _⟩
    | unchanged =>
      obtain ⟨a, ha, rfl⟩ := hnew h.1
      refine ⟨_, Or.inl ⟨a, ha, rfl⟩, hkey _ _, ?_⟩
      rw [hs, (old.contains_iff _).2 h.2]
      rfl

theorem count_changes_eq_zero (hkey : ∀ a s, key (change a s) = id a) {status : β → Status}
    (hs : ∀ a s, status (change a s) = s) {old new : Table α} (ho : old.Keyed id)
    (hn : new.Keyed id) (s : Status) (h : ∀ k, ¬s.Tells (k ∈ new.keys) (k ∈ old.keys)) :
    ((changes id change old new).map status).count s = 0 := by
  refine List.count_eq_zero.2 fun hm => ?_
  obtain ⟨c, hc, rfl⟩ := List.mem_map.1 hm
  exact h (key c) ((exists_changes_iff hkey hs ho hn _ _).1 ⟨c, hc, rfl, rfl⟩)

end

theorem Node.id_change (n : Node) (s : Status) : (n.change s).id = n.id := rfl

theorem Edge.id_change (e : Edge) (s : Status) : (e.change s).id = e.id := rfl

theorem Node.status_change (n : Node) (s : Status) : (n.change s).status = s := rfl

theorem Edge.status_change (e : Edge) (s : Status) : (e.change s).status = s := rfl

def NodeChange.node (n : NodeChange) : Node := ⟨n.id, n.text⟩

def EdgeChange.drawn? (e : EdgeChange) : Option Edge := (classify e.line).edge?

namespace Comparison

structure Sound (c : Comparison) : Prop where
  header : IsLine c.header ∧ isHeader c.header = true
  nodes_nodup : (c.nodes.map NodeChange.id).Nodup
  edges_nodup : (c.edges.map EdgeChange.id).Nodup
  mention : ∀ n ∈ c.nodes, mention? n.text = some n.node ∧ '\n' ∉ n.text
  origin : ∀ n ∈ c.nodes, IsLine n.text ∧ classify n.text = .node n.node ∨
    ∃ e ∈ c.edges, n.id = e.source ∨ n.id = e.target
  drawn : ∀ e ∈ c.edges, IsLine e.line ∧ ∃ f, e.drawn? = some f ∧
    f.id = e.id ∧ f.source = e.source ∧ f.target = e.target
  ends : ∀ e ∈ c.edges, e.source ∈ c.nodes.map NodeChange.id ∧ e.target ∈ c.nodes.map NodeChange.id
  other : ∀ l ∈ c.other, IsOther l

section

variable {old new : Diagram}

theorem isLine_defaultHeader : IsLine Diagram.defaultHeader := by
  refine isLine_of_head (c := 'g') (by decide) (by decide) (by decide) ?_
  rintro x ⟨⟩
  decide

theorem header_chooseHeader (ho : old.Sound) (hn : new.Sound) :
    IsLine (chooseHeader old new) ∧ isHeader (chooseHeader old new) = true := by
  unfold chooseHeader
  cases hnh : new.header with
  | some h => exact hn.header h hnh
  | none =>
    cases hoh : old.header with
    | some h => exact ho.header h hoh
    | none => exact ⟨isLine_defaultHeader, by decide⟩

theorem exists_nodes_iff (ho : old.Sound) (hn : new.Sound) (k : Text) (s : Status) :
    (∃ n ∈ (ofDiagrams old new).nodes, n.id = k ∧ n.status = s) ↔
      s.Tells (k ∈ new.nodes.keys) (k ∈ old.nodes.keys) :=
  exists_changes_iff Node.id_change Node.status_change ho.nodes_keyed hn.nodes_keyed k s

theorem exists_edges_iff (ho : old.Sound) (hn : new.Sound) (k : Text) (s : Status) :
    (∃ e ∈ (ofDiagrams old new).edges, e.id = k ∧ e.status = s) ↔
      s.Tells (k ∈ new.edges.keys) (k ∈ old.edges.keys) :=
  exists_changes_iff Edge.id_change Edge.status_change ho.edges_keyed hn.edges_keyed k s

theorem count_nodes_eq_zero (ho : old.Sound) (hn : new.Sound) (s : Status)
    (h : ∀ k, ¬s.Tells (k ∈ new.nodes.keys) (k ∈ old.nodes.keys)) :
    ((ofDiagrams old new).nodes.map NodeChange.status).count s = 0 :=
  count_changes_eq_zero Node.id_change Node.status_change ho.nodes_keyed hn.nodes_keyed s h

theorem count_edges_eq_zero (ho : old.Sound) (hn : new.Sound) (s : Status)
    (h : ∀ k, ¬s.Tells (k ∈ new.edges.keys) (k ∈ old.edges.keys)) :
    ((ofDiagrams old new).edges.map EdgeChange.status).count s = 0 :=
  count_changes_eq_zero Edge.id_change Edge.status_change ho.edges_keyed hn.edges_keyed s h

theorem mem_nodes_ids (ho : old.Sound) (hn : new.Sound) (k : Text) :
    k ∈ (ofDiagrams old new).nodes.map NodeChange.id ↔ k ∈ new.nodes.keys ∨ k ∈ old.nodes.keys :=
  mem_map_changes Node.id_change ho.nodes_keyed hn.nodes_keyed k

theorem mem_edges_ids (ho : old.Sound) (hn : new.Sound) (k : Text) :
    k ∈ (ofDiagrams old new).edges.map EdgeChange.id ↔ k ∈ new.edges.keys ∨ k ∈ old.edges.keys :=
  mem_map_changes Edge.id_change ho.edges_keyed hn.edges_keyed k

/-- A listed node is a node of the new diagram, or of the old one. -/
theorem mem_nodes_cases {n : NodeChange} (h : n ∈ (ofDiagrams old new).nodes) :
    n.node ∈ new.nodes.values ∨ n.node ∈ old.nodes.values := by
  rcases (mem_changes _ _ _).1 h with ⟨a, ha, rfl⟩ | ⟨a, ha, -, rfl⟩
  · exact Or.inl ha
  · exact Or.inr ha

theorem mem_edges_cases {e : EdgeChange} (h : e ∈ (ofDiagrams old new).edges) :
    (∃ f ∈ new.edges.values, e.id = f.id ∧ e.source = f.source ∧ e.target = f.target ∧
        e.line = f.text) ∨
      ∃ f ∈ old.edges.values, f.id ∉ new.edges.keys ∧ e.id = f.id ∧ e.source = f.source ∧
        e.target = f.target ∧ e.line = dottedLine f.source f.target := by
  rcases (mem_changes _ _ _).1 h with ⟨f, hf, rfl⟩ | ⟨f, hf, hk, rfl⟩
  · refine Or.inl ⟨f, hf, rfl, rfl, rfl, ?_⟩
    cases hc : old.edges.contains f.id <;> rfl
  · exact Or.inr ⟨f, hf, hk, rfl, rfl, rfl, rfl⟩

/-- A listed edge has the new diagram's line, or is removed and dotted where that has none. -/
theorem line_of_mem_edges (hn : new.Sound) {e : EdgeChange} (h : e ∈ (ofDiagrams old new).edges) :
    match new.edges.get? e.id with
    | some f => e.status ≠ .removed ∧ e.line = f.text
    | none => e.status = .removed ∧ e.line = e.source ++ " -.-> " ++ e.target := by
  rcases (mem_changes _ _ _).1 h with ⟨f, hf, rfl⟩ | ⟨f, -, hk, rfl⟩
  · rw [Edge.id_change, (hn.edges_keyed.get?_id f).2 hf]
    cases hc : old.edges.contains f.id
    · exact ⟨Status.noConfusion, rfl⟩
    · exact ⟨Status.noConfusion, rfl⟩
  · rw [Edge.id_change, (Table.get?_eq_none_iff _ _).2 hk]
    exact ⟨rfl, EdgeChange.line_eq _⟩

/-- Every edge of either diagram is listed with its ends. -/
theorem exists_mem_edges (ho : old.Sound) (hn : new.Sound) {f : Edge}
    (hf : f ∈ new.edges.values ∨ f ∈ old.edges.values) :
    ∃ e ∈ (ofDiagrams old new).edges, e.id = f.id ∧ e.source = f.source ∧ e.target = f.target := by
  have hnew : ∀ g ∈ new.edges.values, ∃ e ∈ (ofDiagrams old new).edges,
      e.id = g.id ∧ e.source = g.source ∧ e.target = g.target := by
    intro g hg
    exact ⟨_, (mem_changes _ _ _).2 (Or.inl ⟨g, hg, rfl⟩), rfl, rfl, rfl⟩
  rcases hf with hf | hf
  · exact hnew f hf
  · by_cases hk : f.id ∈ new.edges.keys
    · obtain ⟨g, hg⟩ := (Table.mem_keys_iff _ _).1 hk
      have hgm : g ∈ new.edges.values := (Table.mem_values_iff _ _).2 ⟨_, hg⟩
      have hgf : g.id = f.id := hn.edges_keyed _ _ hg
      obtain ⟨hs, ht⟩ := ends_of_id (hn.drawn g hgm).2 (ho.drawn f hf).2 hgf
      rw [← hgf, ← hs, ← ht]
      exact hnew g hgm
    · exact ⟨_, (mem_changes _ _ _).2 (Or.inr ⟨f, hf, hk, rfl⟩), rfl, rfl, rfl⟩

theorem drawn_of_mem (ho : old.Sound) (hn : new.Sound) {e : EdgeChange}
    (he : e ∈ (ofDiagrams old new).edges) : IsLine e.line ∧ ∃ f, e.drawn? = some f ∧
      f.id = e.id ∧ f.source = e.source ∧ f.target = e.target := by
  unfold EdgeChange.drawn?
  rcases mem_edges_cases he with ⟨f, hf, hid, hs, ht, hl⟩ | ⟨f, hf, -, hid, hs, ht, hl⟩
  · obtain ⟨hline, hdraw⟩ := hn.drawn f hf
    rw [hl]
    exact ⟨hline, f, hdraw, hid.symm, hs.symm, ht.symm⟩
  · obtain ⟨-, hdraw⟩ := ho.drawn f hf
    obtain ⟨-, -, hsw, htw⟩ := eq_of_edge? hdraw
    rw [hl, classify_dottedLine hsw htw]
    refine ⟨isLine_dottedLine hsw htw, _, rfl, ?_, hs.symm, ht.symm⟩
    exact (hid.trans (eq_key_of_edge? hdraw)).symm

theorem sound_ofDiagrams (ho : old.Sound) (hn : new.Sound) : (ofDiagrams old new).Sound where
  header := header_chooseHeader ho hn
  nodes_nodup := nodup_changes Node.id_change ho.nodes_keyed hn.nodes_keyed
  edges_nodup := nodup_changes Edge.id_change ho.edges_keyed hn.edges_keyed
  mention := by
    intro n h
    rcases mem_nodes_cases h with h | h
    · exact hn.mention _ h
    · exact ho.mention _ h
  origin := by
    intro n h
    have hends : ∀ f : Edge, f ∈ new.edges.values ∨ f ∈ old.edges.values →
        n.id = f.source ∨ n.id = f.target →
        ∃ e ∈ (ofDiagrams old new).edges, n.id = e.source ∨ n.id = e.target := by
      intro f hf hnf
      obtain ⟨e, he, -, hs, ht⟩ := exists_mem_edges ho hn hf
      exact ⟨e, he, by rwa [hs, ht]⟩
    rcases mem_nodes_cases h with h | h
    · rcases hn.origin _ h with hd | ⟨f, hf, hnf⟩
      · exact Or.inl hd
      · exact Or.inr (hends f (Or.inl hf) hnf)
    · rcases ho.origin _ h with hd | ⟨f, hf, hnf⟩
      · exact Or.inl hd
      · exact Or.inr (hends f (Or.inr hf) hnf)
  drawn := fun _ => drawn_of_mem ho hn
  ends := by
    intro e he
    rw [mem_nodes_ids ho hn, mem_nodes_ids ho hn]
    rcases mem_edges_cases he with ⟨f, hf, -, hs, ht, -⟩ | ⟨f, hf, -, -, hs, ht, -⟩
    · rw [hs, ht]
      exact ⟨Or.inl (hn.ends f hf).1, Or.inl (hn.ends f hf).2⟩
    · rw [hs, ht]
      exact ⟨Or.inr (ho.ends f hf).1, Or.inr (ho.ends f hf).2⟩
  other := hn.other

end

end Comparison

end FlowchartMerge
