import FlowchartMerge.Comparison.Sequence
import FlowchartMerge.Proofs.Merge.RoundTrip

/-!
# What a run gathers

When the baseline of each step is the merged diagram of the step before, that diagram
stands for all the versions seen so far: it has every node with its latest text, every
edge, and the latest header. One step keeps this, whatever vanishes or comes back, so
a whole run does.
-/

set_option autoImplicit false

namespace FlowchartMerge

open Line

section

variable {β : Type}

def latest? (f : Diagram → Option β) (ds : List Diagram) : Option β := ds.reverse.findSome? f

theorem latest?_concat (f : Diagram → Option β) (ds : List Diagram) (d : Diagram) :
    latest? f (ds++[d]) = (f d).or (latest? f ds) := by
  unfold latest?
  rw [List.reverse_concat, List.findSome?_cons]
  cases f d <;> rfl

theorem exists_latest?_iff (f : Diagram → Option β) (ds : List Diagram) :
    (∃ b, latest? f ds = some b) ↔ ∃ d ∈ ds, ∃ b, f d = some b := by
  simp only [← Option.isSome_iff_exists, latest?, List.findSome?_isSome_iff, List.mem_reverse]

end

structure Diagram.Gathers (d : Diagram) (seen : List Diagram) : Prop where
  header : d.headerLine = (latest? Diagram.header seen).getD defaultHeader
  nodes : ∀ k, d.nodes.get? k = latest? (fun g => g.nodes.get? k) seen
  edges : ∀ k, k ∈ d.edges.keys ↔ ∃ g ∈ seen, k ∈ g.edges.keys

theorem Diagram.gathers_nil : (Diagram.read []).Gathers [] where
  header := rfl
  nodes _ := rfl
  edges k := by
    constructor
    · intro h
      exact absurd h List.not_mem_nil
    · rintro ⟨g, hg, -⟩
      exact absurd hg List.not_mem_nil

theorem Diagram.Gathers.mem_nodes_iff {d : Diagram} {seen : List Diagram} (h : d.Gathers seen)
    (k : Text) : k ∈ d.nodes.keys ↔ ∃ g ∈ seen, k ∈ g.nodes.keys := by
  simp only [Table.mem_keys_iff, h.nodes, exists_latest?_iff]

namespace Comparison

section

variable {c : Comparison} {s : Settings}

theorem keys_edges_read_render (hc : c.Sound) (hd : c.Declared) (hp : s.palette.IsPlain) :
    (Diagram.read (c.render s)).edges.keys = c.edges.map EdgeChange.id := by
  rw [← ids_drawn hc, Table.keys, edges_read_render_of_declared hc hd hp, List.map_map]
  rfl

theorem standalone_read_render (hc : c.Sound) (hd : c.Declared) (hp : s.palette.IsPlain) :
    (Diagram.read (c.render s)).Standalone := by
  intro n hn
  rw [Table.values, nodes_read_render_of_declared hc hd hp, List.map_map] at hn
  obtain ⟨m, hm, rfl⟩ := List.mem_map.1 hn
  exact (hd m hm).standalone

theorem drawn?_of_get?_read_render (hc : c.Sound) (hd : c.Declared) (hp : s.palette.IsPlain)
    {k : Text} {f : Edge} (hf : (Diagram.read (c.render s)).edges.get? k = some f) :
    ∃ e ∈ c.edges, e.id = k ∧ e.drawn? = some f := by
  rw [Table.get?_eq_some_iff, edges_read_render_of_declared hc hd hp] at hf
  obtain ⟨g, hg, hgf⟩ := List.mem_map.1 hf
  obtain ⟨rfl, rfl⟩ := Prod.mk.inj hgf
  obtain ⟨e, he, heg⟩ := List.mem_filterMap.1 hg
  obtain ⟨g', hg', hid, -⟩ := (hc.drawn e he).2
  obtain rfl : g' = g := Option.some.inj (hg'.symm.trans heg)
  exact ⟨e, he, hid.symm, heg⟩

end

section

variable {old new : Diagram} {s : Settings}

/-- A comparison lists the node that the new diagram has under a name, else the old one's. -/
theorem exists_nodes_get?_iff (ho : old.Sound) (hn : new.Sound) (k : Text) (m : Node) :
    (∃ n ∈ (ofDiagrams old new).nodes, n.id = k ∧ n.node = m) ↔
      (new.nodes.get? k).or (old.nodes.get? k) = some m := by
  constructor
  · rintro ⟨n, hm, rfl, rfl⟩
    rcases (mem_changes _ _ _).1 hm with ⟨a, ha, rfl⟩ | ⟨a, ha, hk, rfl⟩
    · change (new.nodes.get? a.id).or _ = some a
      rw [(hn.nodes_keyed.get?_id a).2 ha, Option.some_or]
    · change (new.nodes.get? a.id).or (old.nodes.get? a.id) = some a
      rw [(Table.get?_eq_none_iff _ _).2 hk, Option.none_or, (ho.nodes_keyed.get?_id a).2 ha]
  · intro h
    cases hk : new.nodes.get? k with
    | some a =>
      rw [hk, Option.some_or] at h
      obtain rfl := Option.some.inj h
      have ha : a ∈ new.nodes.values := (Table.mem_values_iff _ _).2 ⟨k, hk⟩
      exact ⟨_, (mem_changes _ _ _).2 (Or.inl ⟨a, ha, rfl⟩), hn.nodes_keyed k a hk, rfl⟩
    | none =>
      rw [hk, Option.none_or] at h
      have hm : m ∈ old.nodes.values := (Table.mem_values_iff _ _).2 ⟨k, h⟩
      have hid : m.id = k := ho.nodes_keyed k m h
      have hnew : m.id ∉ new.nodes.keys := hid ▸ (Table.get?_eq_none_iff _ _).1 hk
      exact ⟨_, (mem_changes _ _ _).2 (Or.inr ⟨m, hm, hnew, rfl⟩), hid, rfl⟩

theorem get?_nodes_read_render (ho : old.Sound) (hn : new.Sound) (hd : (ofDiagrams old new).Declared)
    (hp : s.palette.IsPlain) (k : Text) :
    (Diagram.read ((ofDiagrams old new).render s)).nodes.get? k =
      (new.nodes.get? k).or (old.nodes.get? k) := by
  refine Option.ext fun m => ?_
  rw [← exists_nodes_get?_iff ho hn, Table.get?_eq_some_iff,
    nodes_read_render_of_declared (sound_ofDiagrams ho hn) hd hp, List.mem_map]
  simp only [Prod.mk.injEq]

/-- An edge that is read back has the new diagram's line, or is dotted where that has none. -/
theorem text_of_get?_read_render (ho : old.Sound) (hn : new.Sound)
    (hd : (ofDiagrams old new).Declared) (hp : s.palette.IsPlain) {k : Text} {e : Edge}
    (he : (Diagram.read ((ofDiagrams old new).render s)).edges.get? k = some e) :
    e.text = ((new.edges.get? k).map Edge.text).getD (e.source ++ " -.-> " ++ e.target) := by
  have hc := sound_ofDiagrams ho hn
  obtain ⟨x, hx, rfl, hxe⟩ := drawn?_of_get?_read_render hc hd hp he
  have ht : e.text = x.line := congrArg Edge.text (eq_of_edge? hxe).1
  obtain ⟨f, hf, -, hs, hr⟩ := (hc.drawn x hx).2
  obtain rfl : f = e := Option.some.inj (hf.symm.trans hxe)
  have hl := line_of_mem_edges hn hx
  rw [ht]
  cases hg : new.edges.get? x.id with
  | some g =>
    rw [hg] at hl
    exact hl.2
  | none =>
    rw [hg] at hl
    rw [hl.2, hs, hr]
    rfl

end

end Comparison

/-- What a step shows after some versions: its merged diagram has everything that these or
the new version have, and its statuses tell which of the two sides has an element. -/
structure Step.Accumulates (step : Step) (earlier : List Diagram) (new : Diagram) : Prop where
  header : (Diagram.read step.merged).header =
    some ((latest? Diagram.header (earlier++[new])).getD "graph TD")
  nodes : ∀ k, (Diagram.read step.merged).nodes.get? k =
    latest? (fun g => g.nodes.get? k) (earlier++[new])
  edges : ∀ k, k ∈ (Diagram.read step.merged).edges.keys ↔
    ∃ g ∈ earlier++[new], k ∈ g.edges.keys
  ends : ∀ k e, (Diagram.read step.merged).edges.get? k = some e → ∀ g ∈ earlier++[new],
    ∀ f, g.edges.get? k = some f → e.source = f.source ∧ e.target = f.target
  lines : ∀ k e, (Diagram.read step.merged).edges.get? k = some e →
    e.text = ((new.edges.get? k).map Edge.text).getD (e.source ++ " -.-> " ++ e.target)
  nodeStatus : ∀ k st, (∃ n ∈ step.comparison.nodes, n.id = k ∧ n.status = st) ↔
    st.Tells (k ∈ new.nodes.keys) (∃ g ∈ earlier, k ∈ g.nodes.keys)
  edgeStatus : ∀ k st, (∃ e ∈ step.comparison.edges, e.id = k ∧ e.status = st) ↔
    st.Tells (k ∈ new.edges.keys) (∃ g ∈ earlier, k ∈ g.edges.keys)

namespace Step

theorem Accumulates.gathers {step : Step} {earlier : List Diagram} {new : Diagram}
    (h : step.Accumulates earlier new) : (Diagram.read step.merged).Gathers (earlier++[new]) where
  header := by
    rw [Diagram.headerLine, h.header]
    rfl
  nodes := h.nodes
  edges := h.edges

section

variable {s : Settings} {text version : Text} {earlier : List Text}

/-- A step from a text that gathers the versions before. -/
theorem accumulates_of (hp : s.palette.IsPlain)
    (ht : (Diagram.read text).Gathers (earlier.map Diagram.read))
    (hts : (Diagram.read text).Standalone) (hv : (Diagram.read version).Standalone) :
    (of s text version).Accumulates (earlier.map Diagram.read) (.read version) := by
  have ho := Diagram.sound_read text
  have hn := Diagram.sound_read version
  have hc := Comparison.sound_ofDiagrams ho hn
  have hd := Comparison.declared_ofDiagrams ho hn hts hv
  have hheader : Comparison.chooseHeader (.read text) (.read version) = (latest? Diagram.header
      (earlier.map Diagram.read++[Diagram.read version])).getD "graph TD" := by
    rw [Comparison.chooseHeader, latest?_concat]
    cases (Diagram.read version).header with
    | some h => rfl
    | none => exact ht.header
  have hkeys : ∀ k, k ∈ (Diagram.read (of s text version).merged).edges.keys ↔
      k ∈ (Diagram.read version).edges.keys ∨ k ∈ (Diagram.read text).edges.keys := by
    intro k
    rw [← Comparison.mem_edges_ids ho hn, ← Comparison.keys_edges_read_render hc hd hp]
    rfl
  exact {
    header := (Comparison.header_read_render_of_declared hc hd hp).trans (congrArg some hheader)
    nodes := by
      intro k
      rw [latest?_concat, ← ht.nodes]
      exact Comparison.get?_nodes_read_render ho hn hd hp k
    edges := by
      intro k
      rw [hkeys, ht.edges]
      simp only [List.mem_append, List.mem_singleton, or_and_right, exists_or, exists_eq_left]
      exact or_comm
    ends := by
      intro k e he g hg f hf
      rw [← List.map_singleton, ← List.map_append] at hg
      obtain ⟨v, -, rfl⟩ := List.mem_map.1 hg
      exact Diagram.ends_of_get? he hf
    lines := fun _ _ => Comparison.text_of_get?_read_render ho hn hd hp
    nodeStatus := by
      intro k st
      rw [← ht.mem_nodes_iff]
      exact Comparison.exists_nodes_iff ho hn k st
    edgeStatus := by
      intro k st
      rw [← ht.edges]
      exact Comparison.exists_edges_iff ho hn k st }

theorem standalone_of (hp : s.palette.IsPlain) (hts : (Diagram.read text).Standalone)
    (hv : (Diagram.read version).Standalone) :
    (Diagram.read (of s text version).merged).Standalone := by
  have ho := Diagram.sound_read text
  have hn := Diagram.sound_read version
  exact Comparison.standalone_read_render (Comparison.sound_ofDiagrams ho hn)
    (Comparison.declared_ofDiagrams ho hn hts hv) hp

end

theorem run_accumulates {s : Settings} (hp : s.palette.IsPlain) (vs : List Text)
    (hv : ∀ v ∈ vs, (Diagram.read v).Standalone) (text : Text) (earlier : List Text)
    (ht : (Diagram.read text).Gathers (earlier.map Diagram.read))
    (hts : (Diagram.read text).Standalone) (i : Nat) (hi : i < vs.length) :
    ∃ step, (run s .merged text vs)[i]? = some step ∧
      step.Accumulates ((earlier ++ vs.take i).map Diagram.read) (.read vs[i]) := by
  induction vs generalizing text earlier i with
  | nil => exact absurd hi (Nat.not_lt_zero i)
  | cons v vs ih =>
    have hvs := hv v List.mem_cons_self
    have hstep := accumulates_of hp ht hts hvs
    cases i with
    | zero =>
      refine ⟨_, rfl, ?_⟩
      rw [List.take_zero, List.append_nil]
      exact hstep
    | succ i =>
      have hgathers := hstep.gathers
      rw [← List.map_singleton, ← List.map_append] at hgathers
      obtain ⟨step, hrun, hacc⟩ := ih (fun w hw => hv w (List.mem_cons_of_mem v hw))
        (of s text v).merged (earlier++[v]) hgathers (standalone_of hp hts hvs) i
        (Nat.lt_of_succ_lt_succ hi)
      rw [List.append_assoc] at hacc
      exact ⟨step, hrun, hacc⟩

end Step

/-- Versions whose nodes stand alone, each merged into what was merged before: every step
accumulates all the versions up to its own. -/
theorem run_merged_accumulates (s : Settings) (vs : List Text) (hp : s.palette.IsPlain)
    (hv : ∀ v ∈ vs, (Diagram.read v).Standalone) (i : Nat) (hi : i < vs.length) :
    ∃ step, (Step.run s .merged [] vs)[i]? = some step ∧
      step.Accumulates ((vs.take i).map Diagram.read) (.read vs[i]) := by
  have hempty : (Diagram.read []).Standalone := fun _ hn => absurd hn List.not_mem_nil
  exact Step.run_accumulates hp vs hv [] [] Diagram.gathers_nil hempty i hi

/-- A node that vanishes for one version and comes back with another text. -/
theorem run_merged_accumulates_return :
    let vs : List Text := ["A\nB\nA --> B", "flowchart LR\nB[Round]", "A[Back]\nC\nA ==> C"]
    (∀ v ∈ vs, (Diagram.read v).Standalone) ∧
      ∃ step, (Step.run {} .merged [] vs)[2]? = some step ∧
        step.Accumulates ((vs.take 2).map Diagram.read) (.read vs[2]) :=
  ⟨by decide +kernel,
    run_merged_accumulates {} _ Palette.isPlain_default (by decide +kernel) 2 (by decide)⟩

end FlowchartMerge
