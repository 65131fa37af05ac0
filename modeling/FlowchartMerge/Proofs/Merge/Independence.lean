import FlowchartMerge.Comparison.Merge
import FlowchartMerge.Proofs.Comparison.Changes

/-!
# What a merged diagram takes from the old version

Of the old diagram a comparison needs the names of the nodes and edges, in their order,
and the texts of the nodes that are removed. What was kept is shown as the new diagram has
it, and a removed edge is drawn anew from its two ends. So neither a label nor a connector
of the old version can show, nor any of its other lines.
-/

set_option autoImplicit false

namespace FlowchartMerge

def EdgeChange.masked (e : EdgeChange) : EdgeChange :=
  match e.status with
  | .removed => { e with text := [] }
  | .added => e
  | .unchanged => e

def Comparison.masked (c : Comparison) : Comparison :=
  { c with edges := c.edges.map EdgeChange.masked }

theorem EdgeChange.line_masked (e : EdgeChange) : e.masked.line = e.line := by
  obtain ⟨id, source, target, status, text⟩ := e
  cases status <;> rfl

theorem Comparison.render_masked (c : Comparison) (s : Settings) :
    c.masked.render s = c.render s := by
  have hlines : (c.edges.map EdgeChange.masked).map EdgeChange.line =
      c.edges.map EdgeChange.line := by
    rw [List.map_map]
    exact List.map_congr_left fun e _ => e.line_masked
  unfold render lines masked
  rw [hlines]
  rfl

structure Diagram.Keyed (d : Diagram) : Prop where
  nodes : d.nodes.Keyed Node.id
  edges : d.edges.Keyed Edge.id

structure Diagram.AlikeBefore (new old old' : Diagram) : Prop where
  header : new.header = none → old.header = old'.header
  nodes : old.nodes.values.map Node.id = old'.nodes.values.map Node.id
  gone : ∀ n ∈ old.nodes.values, ∀ n' ∈ old'.nodes.values, n.id = n'.id →
    n.id ∉ new.nodes.keys → n.text = n'.text
  edges : old.edges.values.map (fun e => (e.id, e.source, e.target)) =
    old'.edges.values.map fun e => (e.id, e.source, e.target)

section

variable {α β γ ι : Type} {id : α → Text} {old old' new : Table α}

theorem map_changes_comp (f : β → γ) (change : α → Status → β) :
    (changes id change old new).map f = changes id (fun a s => f (change a s)) old new := by
  simp [changes, Function.comp_def]

/-- The old elements count by what tells their identities, and by themselves if they are gone. -/
theorem changes_congr_old {change : α → Status → β} (g : α → ι) (key : ι → Text)
    (hid : ∀ a, id a = key (g a)) (ho : old.Keyed id) (ho' : old'.Keyed id)
    (hmap : old.values.map g = old'.values.map g)
    (hgone : ∀ a ∈ old.values, ∀ b ∈ old'.values, g a = g b → id a ∉ new.keys →
      change a .removed = change b .removed) :
    changes id change old new = changes id change old' new := by
  obtain rfl : id = fun a => key (g a) := funext hid
  have hkeys : old.keys = old'.keys := by
    have h := congrArg (List.map key) hmap
    rw [List.map_map, List.map_map] at h
    rw [ho.keys_eq, ho'.keys_eq]
    exact h
  have hcontains : ∀ k, old.contains k = old'.contains k := by
    intro k
    simp only [Table.contains, hkeys]
  have hmissing : (old.values.filter fun a => !new.contains (key (g a))).map g =
      (old'.values.filter fun a => !new.contains (key (g a))).map g := by
    have h := congrArg (List.filter fun i => !new.contains (key i)) hmap
    rw [List.filter_map, List.filter_map] at h
    exact h
  have hremoved : ((old.values.filter fun a => !new.contains (key (g a))).map
      fun a => change a .removed) =
      (old'.values.filter fun a => !new.contains (key (g a))).map fun a => change a .removed := by
    apply Table.map_eq_of_map_eq hmissing
    intro a ha b hb hab
    obtain ⟨ha, hk⟩ := List.mem_filter.1 ha
    obtain ⟨hb, -⟩ := List.mem_filter.1 hb
    rw [Bool.not_eq_true', Table.contains_eq_false_iff] at hk
    exact hgone a ha b hb hab hk
  unfold changes
  rw [hremoved]
  simp only [hcontains]

end

namespace Comparison

variable {old old' new : Diagram}

theorem chooseHeader_congr (h : new.header = none → old.header = old'.header) :
    chooseHeader old new = chooseHeader old' new := by
  unfold chooseHeader
  cases hnew : new.header with
  | none => rw [h hnew]
  | some l => rfl

theorem nodes_congr_old (ho : old.Keyed) (ho' : old'.Keyed) (h : new.AlikeBefore old old') :
    (ofDiagrams old new).nodes = (ofDiagrams old' new).nodes := by
  apply changes_congr_old Node.id (fun k => k) (fun _ => rfl) ho.nodes ho'.nodes h.nodes
  intro n hn n' hn' hid hk
  rw [Node.change, Node.change, hid, h.gone n hn n' hn' hid hk]

/-- A removed edge is known by its identity and its ends once its text is left out. -/
theorem masked_edges_congr_old (ho : old.Keyed) (ho' : old'.Keyed)
    (h : new.AlikeBefore old old') :
    (ofDiagrams old new).edges.map EdgeChange.masked =
      (ofDiagrams old' new).edges.map EdgeChange.masked := by
  unfold ofDiagrams
  rw [map_changes_comp, map_changes_comp]
  apply changes_congr_old _ Prod.fst (fun _ => rfl) ho.edges ho'.edges h.edges
  intro e _ e' _ hnames _
  obtain ⟨hid, hends⟩ := Prod.mk.inj hnames
  obtain ⟨hsource, htarget⟩ := Prod.mk.inj hends
  simp only [Edge.change, EdgeChange.masked, hid, hsource, htarget]

theorem masked_congr_old (ho : old.Keyed) (ho' : old'.Keyed) (h : new.AlikeBefore old old') :
    (ofDiagrams old new).masked = (ofDiagrams old' new).masked := by
  have hheader : (ofDiagrams old new).header = (ofDiagrams old' new).header :=
    chooseHeader_congr h.header
  unfold masked
  rw [hheader, nodes_congr_old ho ho' h, masked_edges_congr_old ho ho' h]
  rfl

end Comparison

/-- Old diagrams that differ only in their other lines, in connectors and texts of edges, in
texts of nodes that are kept, and in a header that the new one replaces, compare alike except
for the texts of removed edges, and merge to the same text. -/
theorem merged_text_independent_of_old {old old' new : Diagram} (ho : old.Keyed) (ho' : old'.Keyed)
    (h : new.AlikeBefore old old') :
    (Comparison.ofDiagrams old new).masked = (Comparison.ofDiagrams old' new).masked ∧
      ∀ s, (Comparison.ofDiagrams old new).render s =
        (Comparison.ofDiagrams old' new).render s := by
  have hmasked := Comparison.masked_congr_old ho ho' h
  refine ⟨hmasked, ?_⟩
  intro s
  rw [← Comparison.render_masked, hmasked, Comparison.render_masked]

/-- Another header, another shape, another connector and no style, under a new header. -/
theorem merged_text_independent_of_old_restyled :
    let old := Diagram.read "graph TD\nA[One]\nB\nA -- x --> B\nstyle A fill:#f00"
    let old' := Diagram.read "flowchart TB\nA((Uno))\nB\nA ==> B"
    let new := Diagram.read "flowchart LR\nA(1) --> C"
    old.Keyed ∧ old'.Keyed ∧ new.AlikeBefore old old' ∧
      (Comparison.ofDiagrams old new).edges ≠ (Comparison.ofDiagrams old' new).edges ∧
      (Comparison.ofDiagrams old new).render {} = (Comparison.ofDiagrams old' new).render {} := by
  intro old old' new
  have ho : old.Keyed := ⟨(Diagram.sound_read _).nodes_keyed, (Diagram.sound_read _).edges_keyed⟩
  have ho' : old'.Keyed := ⟨(Diagram.sound_read _).nodes_keyed, (Diagram.sound_read _).edges_keyed⟩
  have h : new.AlikeBefore old old' := by
    constructor
    · intro hnone
      have hsome : new.header = some "flowchart LR" := by decide +kernel
      rw [hsome] at hnone
      cases hnone
    · decide +kernel
    · decide +kernel
    · decide +kernel
  exact ⟨ho, ho', h, by decide +kernel, (merged_text_independent_of_old ho ho' h).2 {}⟩

end FlowchartMerge
