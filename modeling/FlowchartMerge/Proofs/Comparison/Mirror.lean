import FlowchartMerge.Proofs.Comparison.Classification

/-!
# Comparing the other way round

What a comparison adds, the comparison of the same two versions in the other direction
removes, and what is unchanged in one of them is unchanged in the other, each time in the
order and with the texts of the version that is new there. All of this holds of any two
lists of changes that classify the same elements in opposite directions.
-/

set_option autoImplicit false

namespace FlowchartMerge

def Tally.swap (t : Tally) : Tally := ⟨t.removed, t.added, t.unchanged⟩

def Summary.swap (s : Summary) : Summary := ⟨s.nodes.swap, s.edges.swap⟩

theorem Tally.hasChanges_swap (t : Tally) : t.swap.hasChanges = t.hasChanges :=
  Bool.or_comm _ _

theorem Summary.hasChanges_swap (s : Summary) : s.swap.hasChanges = s.hasChanges := by
  rw [hasChanges, hasChanges, swap, Tally.hasChanges_swap, Tally.hasChanges_swap]

instance (s : Status) (p q : Prop) [Decidable p] [Decidable q] : Decidable (s.Tells p q) :=
  match s with
  | .added => inferInstanceAs (Decidable (p ∧ ¬q))
  | .removed => inferInstanceAs (Decidable (q ∧ ¬p))
  | .unchanged => inferInstanceAs (Decidable (p ∧ q))

section

variable {β δ ι : Type} [DecidableEq ι] {who : δ → ι} {shown : β → δ} {status : β → Status}
  {old new : List δ} {cs ds : List β}

def withStatus (shown : β → δ) (status : β → Status) (s : Status) (cs : List β) : List δ :=
  (cs.filter fun c => status c == s).map shown

structure Mirrors (who : δ → ι) (shown : β → δ) (status : β → Status) (old new : List δ)
    (cs ds : List β) : Prop where
  gained : withStatus shown status .added cs = withStatus shown status .removed ds
  lost : withStatus shown status .removed cs = withStatus shown status .added ds
  kept : withStatus shown status .unchanged cs = new.filter fun d => who d ∈ old.map who
  kept_back : withStatus shown status .unchanged ds = old.filter fun d => who d ∈ new.map who
  same_kept : ((withStatus shown status .unchanged cs).map who).Perm
    ((withStatus shown status .unchanged ds).map who)

theorem mem_map_filter (xs ys : List δ) (k : ι) :
    k ∈ (xs.filter fun d => who d ∈ ys.map who).map who ↔ k ∈ xs.map who ∧ k ∈ ys.map who := by
  have hfilter : (xs.filter fun d => who d ∈ ys.map who).map who =
      (xs.map who).filter fun i => i ∈ ys.map who := by
    rw [List.filter_map]
    rfl
  rw [hfilter, List.mem_filter, decide_eq_true_iff]

omit [DecidableEq ι] in
theorem nodup_map_filter {xs : List δ} (h : (xs.map who).Nodup) (p : δ → Bool) :
    ((xs.filter p).map who).Nodup :=
  h.sublist (List.filter_sublist.map who)

omit [DecidableEq ι] in
theorem count_eq_length_withStatus (shown : β → δ) (s : Status) :
    (cs.map status).count s = (withStatus shown status s cs).length := by
  rw [withStatus, List.length_map, List.count, List.countP_map, List.countP_eq_length_filter]
  rfl

namespace Classifies

theorem withStatus_eq (h : Classifies who shown status old new cs) (s : Status) :
    withStatus shown status s cs = (new++old.filter fun d => who d ∉ new.map who).filter
      fun d => s.Tells (who d ∈ new.map who) (who d ∈ old.map who) := by
  rw [withStatus, ← h.listed, List.filter_map]
  apply congrArg (List.map shown)
  apply List.filter_congr
  intro c hc
  rw [Function.comp_apply, Bool.eq_iff_iff, beq_iff_eq, decide_eq_true_iff]
  exact h.status_iff c hc s

/-- The old elements that are listed after the new ones are removed, and these are all. -/
theorem withStatus_removed (h : Classifies who shown status old new cs) :
    withStatus shown status .removed cs = old.filter fun d => who d ∉ new.map who := by
  rw [h.withStatus_eq, List.filter_append]
  have hnew : new.filter (fun d => Status.removed.Tells (who d ∈ new.map who)
      (who d ∈ old.map who)) = [] := by
    apply List.filter_eq_nil_iff.2
    intro d hd ht
    exact (decide_eq_true_iff.1 ht).2 (List.mem_map_of_mem hd)
  have hold : (old.filter fun d => who d ∉ new.map who).filter (fun d =>
      Status.removed.Tells (who d ∈ new.map who) (who d ∈ old.map who)) =
      old.filter fun d => who d ∉ new.map who := by
    apply List.filter_eq_self.2
    intro d hd
    obtain ⟨hd, hk⟩ := List.mem_filter.1 hd
    exact decide_eq_true ⟨List.mem_map_of_mem hd, decide_eq_true_iff.1 hk⟩
  rw [hnew, hold, List.nil_append]

/-- What is listed of the new elements tells by the old ones whether it was there before. -/
theorem withStatus_of_new (h : Classifies who shown status old new cs) {s : Status} {p : δ → Bool}
    (hp : ∀ d ∈ new, s.Tells (who d ∈ new.map who) (who d ∈ old.map who) ↔ p d = true)
    (hs : ∀ inOld, ¬s.Tells False inOld) : withStatus shown status s cs = new.filter p := by
  rw [h.withStatus_eq, List.filter_append]
  have hnew : new.filter (fun d => s.Tells (who d ∈ new.map who) (who d ∈ old.map who)) =
      new.filter p := by
    apply List.filter_congr
    intro d hd
    rw [Bool.eq_iff_iff, decide_eq_true_iff]
    exact hp d hd
  have hold : (old.filter fun d => who d ∉ new.map who).filter (fun d =>
      s.Tells (who d ∈ new.map who) (who d ∈ old.map who)) = [] := by
    apply List.filter_eq_nil_iff.2
    intro d hd ht
    have hk := decide_eq_true_iff.1 (List.mem_filter.1 hd).2
    have htells := decide_eq_true_iff.1 ht
    rw [eq_false hk] at htells
    exact hs _ htells
  rw [hnew, hold, List.append_nil]

theorem withStatus_added (h : Classifies who shown status old new cs) :
    withStatus shown status .added cs = new.filter fun d => who d ∉ old.map who := by
  apply h.withStatus_of_new
  · intro d hd
    rw [decide_eq_true_iff]
    exact and_iff_right (List.mem_map_of_mem hd)
  · intro inOld ht
    exact ht.1

theorem withStatus_unchanged (h : Classifies who shown status old new cs) :
    withStatus shown status .unchanged cs = new.filter fun d => who d ∈ old.map who := by
  apply h.withStatus_of_new
  · intro d hd
    rw [decide_eq_true_iff]
    exact and_iff_right (List.mem_map_of_mem hd)
  · intro inOld ht
    exact ht.1

theorem mirrors (h : Classifies who shown status old new cs)
    (hback : Classifies who shown status new old ds) (ho : (old.map who).Nodup)
    (hn : (new.map who).Nodup) : Mirrors who shown status old new cs ds where
  gained := by rw [h.withStatus_added, hback.withStatus_removed]
  lost := by rw [h.withStatus_removed, hback.withStatus_added]
  kept := h.withStatus_unchanged
  kept_back := hback.withStatus_unchanged
  same_kept := by
    rw [h.withStatus_unchanged, hback.withStatus_unchanged]
    apply (List.perm_ext_iff_of_nodup (nodup_map_filter hn _) (nodup_map_filter ho _)).2
    intro k
    rw [mem_map_filter, mem_map_filter]
    exact and_comm

end Classifies

theorem Mirrors.tally_eq (h : Mirrors who shown status old new cs ds) :
    Tally.ofStatuses (cs.map status) = (Tally.ofStatuses (ds.map status)).swap := by
  have hunchanged := h.same_kept.length_eq
  rw [List.length_map, List.length_map] at hunchanged
  simp only [Tally.ofStatuses, Tally.swap, count_eq_length_withStatus shown, h.gained, h.lost,
    hunchanged]

end

namespace Comparison

variable {old new : Diagram}

theorem mirrors_nodes (ho : old.Sound) (hn : new.Sound) :
    Mirrors Node.id NodeChange.node NodeChange.status old.nodes.values new.nodes.values
      (ofDiagrams old new).nodes (ofDiagrams new old).nodes :=
  (classifies_nodes ho hn).mirrors (classifies_nodes hn ho) ho.nodup_ids hn.nodup_ids

/-- Edges are matched by their identities alone, whatever these say about the ends. -/
theorem classifies_edge_ids (ho : old.Sound) (hn : new.Sound) :
    Classifies Prod.fst EdgeChange.shown EdgeChange.status (old.edges.values.map Edge.shown)
      (new.edges.values.map Edge.shown) (ofDiagrams old new).edges :=
  Classifies.of_changes Edge.shown Prod.fst (fun k => k) Edge.id_change Edge.shown_change
    Edge.status_change ho.edges_keyed hn.edges_keyed (fun _ _ => rfl) (fun _ _ => rfl)
    fun _ _ _ _ he => he

theorem mirrors_edges (ho : old.Sound) (hn : new.Sound) :
    Mirrors Prod.fst EdgeChange.shown EdgeChange.status (old.edges.values.map Edge.shown)
      (new.edges.values.map Edge.shown) (ofDiagrams old new).edges (ofDiagrams new old).edges := by
  have hnodup : ∀ {d : Diagram}, d.Sound →
      ((d.edges.values.map Edge.shown).map Prod.fst).Nodup := by
    intro d hd
    rw [List.map_map]
    exact hd.edges_keyed.keys_eq ▸ d.edges.nodup
  exact (classifies_edge_ids ho hn).mirrors (classifies_edge_ids hn ho) (hnodup ho) (hnodup hn)

end Comparison

/-- The comparisons of two texts in both directions mirror each other, nodes and edges alike.
So their summaries are the same with added and removed exchanged. -/
theorem comparisons_mirror (a b : Text) :
    let old := Diagram.read a
    let new := Diagram.read b
    let forth := Comparison.ofDiagrams old new
    let back := Comparison.ofDiagrams new old
    Mirrors Node.id NodeChange.node NodeChange.status old.nodes.values new.nodes.values
      forth.nodes back.nodes ∧
    Mirrors Prod.fst EdgeChange.shown EdgeChange.status (old.edges.values.map Edge.shown)
      (new.edges.values.map Edge.shown) forth.edges back.edges ∧
    forth.summary = back.summary.swap ∧ forth.summary.hasChanges = back.summary.hasChanges := by
  intro old new forth back
  have ho : old.Sound := Diagram.sound_read a
  have hn : new.Sound := Diagram.sound_read b
  have hnodes := Comparison.mirrors_nodes ho hn
  have hedges := Comparison.mirrors_edges ho hn
  have hsummary : forth.summary = back.summary.swap := by
    rw [Comparison.summary, hnodes.tally_eq, hedges.tally_eq]
    rfl
  refine ⟨hnodes, hedges, hsummary, ?_⟩
  rw [hsummary, Summary.hasChanges_swap]

end FlowchartMerge
