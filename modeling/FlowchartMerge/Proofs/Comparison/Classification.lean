import Mathlib.Data.List.Nodup
import FlowchartMerge.Proofs.Comparison.Changes

/-!
# Comparisons classify

A comparison of two lists of elements lists the new ones and then the old ones that
the new list does not have, each once, with the status that tells who has it. Nodes
are known by their names and edges by their two ends. How many elements there are of
each status, and whether anything changed at all, follows from this law alone.
-/

set_option autoImplicit false

namespace FlowchartMerge

open Line

/-- The entries of a comparison, as elements that an identity tells apart, list the new
elements and the old ones that are not new, with their statuses. -/
structure Classifies {β δ ι : Type} [DecidableEq ι] (who : δ → ι) (shown : β → δ)
    (status : β → Status) (old new : List δ) (cs : List β) : Prop where
  listed : cs.map shown = new++old.filter fun d => who d ∉ new.map who
  once : (cs.map fun c => who (shown c)).Nodup
  status_iff : ∀ c ∈ cs, ∀ s : Status,
    status c = s ↔ s.Tells (who (shown c) ∈ new.map who) (who (shown c) ∈ old.map who)

/-- Of two versions' having an element only one status tells. -/
theorem Status.Tells.eq_iff {s : Status} {inNew inOld : Prop} (h : s.Tells inNew inOld) (t : Status) :
    s = t ↔ t.Tells inNew inOld := by
  constructor
  · rintro rfl
    exact h
  · intro ht
    cases s <;> cases t <;> simp_all [Status.Tells]

theorem Tally.hasChanges_eq_false_iff (t : Tally) :
    t.hasChanges = false ↔ t.added = 0 ∧ t.removed = 0 := by
  simp [hasChanges]

namespace Classifies

section

variable {β δ ι : Type} [DecidableEq ι] {who : δ → ι} {shown : β → δ} {status : β → Status}
  {old new : List δ} {cs : List β}

theorem mem_iff (h : Classifies who shown status old new cs) (k : ι) :
    (∃ c ∈ cs, who (shown c) = k) ↔ k ∈ new.map who ∨ k ∈ old.map who := by
  have hids : (∃ c ∈ cs, who (shown c) = k) ↔ k ∈ (cs.map shown).map who := by
    rw [List.map_map, List.mem_map]
    rfl
  rw [hids, h.listed, List.map_append, List.mem_append]
  by_cases hk : k ∈ new.map who
  · simp only [hk, true_or]
  · refine or_congr_right ⟨fun hm => ?_, fun hm => ?_⟩
    · exact (List.filter_sublist.map who).subset hm
    · obtain ⟨d, hd, rfl⟩ := List.mem_map.1 hm
      exact List.mem_map_of_mem (List.mem_filter.2 ⟨hd, decide_eq_true hk⟩)

/-- As many entries are of a version as the version has elements. -/
theorem countP_mem (h : Classifies who shown status old new cs) {ds : List δ}
    (hd : (ds.map who).Nodup) (hmem : ∀ k ∈ ds.map who, k ∈ new.map who ∨ k ∈ old.map who) :
    cs.countP (fun c => decide (who (shown c) ∈ ds.map who)) = ds.length := by
  let ids := cs.map fun c => who (shown c)
  have hperm : (ids.filter fun k => decide (k ∈ ds.map who)).Perm (ds.map who) := by
    refine (List.perm_ext_iff_of_nodup (h.once.filter _) hd).2 fun k => ?_
    rw [List.mem_filter, decide_eq_true_iff]
    refine ⟨And.right, fun hk => ⟨?_, hk⟩⟩
    obtain ⟨c, hc, rfl⟩ := (h.mem_iff k).2 (hmem k hk)
    exact List.mem_map_of_mem hc
  have hlen := hperm.length_eq
  rw [← List.countP_eq_length_filter, List.length_map] at hlen
  rw [← hlen, List.countP_map]
  rfl

end

/-- The entries of one of two statuses are those that a test finds. -/
theorem count_add_count {β : Type} {status : β → Status} {cs : List β} {p : β → Bool} {s t : Status}
    (hst : s ≠ t) (h : ∀ c ∈ cs, p c = true ↔ status c = s ∨ status c = t) :
    (cs.map status).count s+(cs.map status).count t = cs.countP p := by
  induction cs with
  | nil => rfl
  | cons c cs ih =>
    have hc := h c List.mem_cons_self
    rw [List.map_cons, List.count_cons, List.count_cons, List.countP_cons,
      ← ih fun x hx => h x (List.mem_cons_of_mem c hx)]
    by_cases hs : status c = s
    · have ht : ¬status c = t := fun e => hst (hs.symm.trans e)
      simp only [hs, hc.2 (Or.inl hs), beq_self_eq_true, if_true, beq_iff_eq, hst, if_false]
      omega
    · by_cases ht : status c = t
      · simp only [ht, hc.2 (Or.inr ht), beq_self_eq_true, if_true, beq_iff_eq, hst.symm, if_false]
        omega
      · have hp : p c = false := Bool.eq_false_iff.2 fun hp => (hc.1 hp).elim hs ht
        simp only [hs, ht, hp, beq_iff_eq, Bool.false_eq_true, if_false]
        omega

section

variable {β δ ι : Type} [DecidableEq ι] {who : δ → ι} {shown : β → δ} {status : β → Status}
  {old new : List δ} {cs : List β}

theorem count_new (h : Classifies who shown status old new cs) (hn : (new.map who).Nodup) :
    (cs.map status).count .added+(cs.map status).count .unchanged = new.length := by
  rw [← h.countP_mem hn fun k hk => Or.inl hk]
  refine count_add_count (by decide) fun c hc => ?_
  rw [decide_eq_true_iff, h.status_iff c hc, h.status_iff c hc]
  by_cases hold : who (shown c) ∈ old.map who <;> simp [Status.Tells, hold]

theorem count_old (h : Classifies who shown status old new cs) (ho : (old.map who).Nodup) :
    (cs.map status).count .removed+(cs.map status).count .unchanged = old.length := by
  rw [← h.countP_mem ho fun k hk => Or.inr hk]
  refine count_add_count (by decide) fun c hc => ?_
  rw [decide_eq_true_iff, h.status_iff c hc, h.status_iff c hc]
  by_cases hnew : who (shown c) ∈ new.map who <;> simp [Status.Tells, hnew]

theorem count_eq_zero_iff (h : Classifies who shown status old new cs) (s : Status) :
    (cs.map status).count s = 0 ↔ ∀ k, k ∈ new.map who ∨ k ∈ old.map who →
      ¬s.Tells (k ∈ new.map who) (k ∈ old.map who) := by
  rw [List.count_eq_zero, List.mem_map, not_exists]
  constructor
  · intro hno k hk ht
    obtain ⟨c, hc, rfl⟩ := (h.mem_iff k).2 hk
    exact hno c ⟨hc, (h.status_iff c hc s).2 ht⟩
  · rintro hno c ⟨hc, hs⟩
    exact hno _ ((h.mem_iff _).1 ⟨c, hc, rfl⟩) ((h.status_iff c hc s).1 hs)

/-- Nothing changed exactly if both versions have the same elements. -/
theorem hasChanges_eq_false_iff (h : Classifies who shown status old new cs) :
    (Tally.ofStatuses (cs.map status)).hasChanges = false ↔
      ∀ k, k ∈ old.map who ↔ k ∈ new.map who := by
  rw [Tally.hasChanges_eq_false_iff, Tally.ofStatuses, h.count_eq_zero_iff, h.count_eq_zero_iff]
  constructor
  · rintro ⟨hadded, hremoved⟩ k
    constructor
    · intro hk
      by_contra hnew
      exact hremoved k (Or.inr hk) ⟨hk, hnew⟩
    · intro hk
      by_contra hold
      exact hadded k (Or.inl hk) ⟨hk, hold⟩
  · intro hsame
    exact ⟨fun k _ ht => ht.2 ((hsame k).2 ht.1), fun k _ ht => ht.2 ((hsame k).1 ht.1)⟩

end

section

variable {α β δ ι : Type} {id : α → Text} {element : α → δ} {who : δ → ι} {key : ι → Text}

/-- An element is in a table if its key is, where keys tell the identities. -/
theorem mem_keys_iff {m : Table α} (hm : m.Keyed id)
    (hkey : ∀ b ∈ m.values, id b = key (who (element b))) {a : α}
    (ha : id a = key (who (element a)))
    (hinj : ∀ b ∈ m.values, id a = id b → who (element a) = who (element b)) :
    who (element a) ∈ (m.values.map element).map who ↔ id a ∈ m.keys := by
  rw [hm.keys_eq, List.map_map, List.mem_map, List.mem_map]
  constructor
  · rintro ⟨b, hb, he⟩
    refine ⟨b, hb, ?_⟩
    rw [hkey b hb, ha]
    exact congrArg key he
  · rintro ⟨b, hb, he⟩
    exact ⟨b, hb, (hinj b hb he.symm).symm⟩

variable [DecidableEq ι] {change : α → Status → β} {shown : β → δ} {status : β → Status}
  {name : β → Text} {old new : Table α}

variable (element who key)

/-- Tables are compared by their keys, so a comparison classifies what the keys tell. -/
theorem of_changes (hname : ∀ a s, name (change a s) = id a)
    (hshown : ∀ a s, shown (change a s) = element a) (hstatus : ∀ a s, status (change a s) = s)
    (ho : old.Keyed id) (hn : new.Keyed id)
    (hold : ∀ a ∈ old.values, id a = key (who (element a)))
    (hnew : ∀ b ∈ new.values, id b = key (who (element b)))
    (hinj : ∀ a ∈ old.values, ∀ b ∈ new.values, id a = id b → who (element a) = who (element b)) :
    Classifies who shown status (old.values.map element) (new.values.map element)
      (changes id change old new) := by
  have hmemNew : ∀ a ∈ old.values,
      (who (element a) ∈ (new.values.map element).map who ↔ id a ∈ new.keys) := fun a ha =>
    mem_keys_iff hn hnew (hold a ha) (hinj a ha)
  have hmemOld : ∀ b ∈ new.values,
      (who (element b) ∈ (old.values.map element).map who ↔ id b ∈ old.keys) := fun b hb =>
    mem_keys_iff ho hold (hnew b hb) fun a ha he => (hinj a ha b hb he.symm).symm
  refine ⟨?_, ?_, ?_⟩
  · rw [changes, List.map_append, List.map_map, List.map_map, List.filter_map]
    congr 1
    · exact List.map_congr_left fun b _ => hshown b _
    · refine (List.map_congr_left fun a _ => hshown a _).trans (congrArg (List.map element) ?_)
      refine List.filter_congr fun a ha => ?_
      rw [Function.comp_apply, decide_not, decide_eq_decide.2 (hmemNew a ha)]
      rfl
  -- names are not repeated, and two elements of one identity would have one name
  · have hnames : (changes id change old new).map name =
        ((changes id change old new).map fun c => who (shown c)).map key := by
      rw [List.map_map]
      refine List.map_congr_left fun c hc => ?_
      rcases (mem_changes old new c).1 hc with ⟨b, hb, rfl⟩ | ⟨a, ha, -, rfl⟩
      · rw [hname, Function.comp_apply, hshown, hnew b hb]
      · rw [hname, Function.comp_apply, hshown, hold a ha]
    exact List.Nodup.of_map key (hnames ▸ nodup_changes hname ho hn)
  · intro c hc s
    rcases (mem_changes old new c).1 hc with ⟨b, hb, rfl⟩ | ⟨a, ha, hk, rfl⟩
    · rw [hstatus, hshown]
      have hin : who (element b) ∈ (new.values.map element).map who :=
        List.mem_map_of_mem (List.mem_map_of_mem hb)
      refine Status.Tells.eq_iff ?_ s
      split
      · rename_i hc
        exact ⟨hin, (hmemOld b hb).2 ((old.contains_iff _).1 hc)⟩
      · rename_i hc
        exact ⟨hin, fun hm => hc ((old.contains_iff _).2 ((hmemOld b hb).1 hm))⟩
    · rw [hstatus, hshown]
      refine Status.Tells.eq_iff ?_ s
      exact ⟨List.mem_map_of_mem (List.mem_map_of_mem ha), fun hm => hk ((hmemNew a ha).1 hm)⟩

end

end Classifies

def Edge.shown (e : Edge) : Text × (Text × Text) × Text := (e.id, e.ends, e.text)

def EdgeChange.shown (e : EdgeChange) : Text × (Text × Text) × Text :=
  (e.id, (e.source, e.target), e.text)

theorem Node.node_change (n : Node) (s : Status) : (n.change s).node = n := rfl

theorem Edge.shown_change (e : Edge) (s : Status) : (e.change s).shown = e.shown := rfl

namespace Comparison

variable {old new : Diagram}

theorem classifies_nodes (ho : old.Sound) (hn : new.Sound) :
    Classifies Node.id NodeChange.node NodeChange.status old.nodes.values new.nodes.values
      (ofDiagrams old new).nodes := by
  have h := Classifies.of_changes (fun n : Node => n) Node.id (fun k => k) Node.id_change
    Node.node_change Node.status_change ho.nodes_keyed hn.nodes_keyed
    (fun _ _ => rfl) (fun _ _ => rfl) fun _ _ _ _ he => he
  rwa [List.map_id', List.map_id'] at h

theorem classifies_edges (ho : old.Sound) (hn : new.Sound) :
    Classifies (fun e => e.2.1) EdgeChange.shown EdgeChange.status
      (old.edges.values.map Edge.shown) (new.edges.values.map Edge.shown)
      (ofDiagrams old new).edges := by
  refine Classifies.of_changes Edge.shown _ (fun p => Edge.key p.1 p.2) Edge.id_change
    Edge.shown_change Edge.status_change ho.edges_keyed hn.edges_keyed ?_ ?_ ?_
  · exact fun a ha => eq_key_of_edge? (ho.drawn a ha).2
  · exact fun b hb => eq_key_of_edge? (hn.drawn b hb).2
  · intro a ha b hb he
    obtain ⟨hs, ht⟩ := ends_of_id (ho.drawn a ha).2 (hn.drawn b hb).2 he
    exact Prod.ext hs ht

end Comparison

namespace Diagram

variable {d : Diagram}

theorem Sound.nodup_ids (hd : d.Sound) : (d.nodes.values.map Node.id).Nodup :=
  hd.nodes_keyed.keys_eq ▸ d.nodes.nodup

theorem Sound.nodup_ends (hd : d.Sound) : (d.edges.values.map Edge.ends).Nodup := by
  refine List.Nodup.of_map (fun p => Edge.key p.1 p.2) ?_
  rw [← hd.map_id_edges, ← hd.edges_keyed.keys_eq]
  exact d.edges.nodup

end Diagram

/-- The comparison of two texts lists the new nodes and the removed ones, each once and
with the status that tells which texts have it, and the edges likewise by their two
ends; both ends of every listed edge are listed. -/
theorem classifies_read (old new : Text) :
    let o := Diagram.read old
    let n := Diagram.read new
    let c := Comparison.ofDiagrams o n
    Classifies Node.id NodeChange.node NodeChange.status o.nodes.values n.nodes.values c.nodes ∧
    Classifies (fun e => e.2.1) EdgeChange.shown EdgeChange.status (o.edges.values.map Edge.shown)
      (n.edges.values.map Edge.shown) c.edges ∧
    (∀ e ∈ c.edges, e.source ∈ c.nodes.map NodeChange.id ∧ e.target ∈ c.nodes.map NodeChange.id) ∧
    (c.summary.nodes.added+c.summary.nodes.unchanged = n.nodes.size ∧
      c.summary.nodes.removed+c.summary.nodes.unchanged = o.nodes.size) ∧
    (c.summary.edges.added+c.summary.edges.unchanged = n.edges.size ∧
      c.summary.edges.removed+c.summary.edges.unchanged = o.edges.size) ∧
    (c.summary.hasChanges = false ↔ (∀ k, k ∈ o.nodes.keys ↔ k ∈ n.nodes.keys) ∧
      ∀ p, p ∈ o.edges.values.map Edge.ends ↔ p ∈ n.edges.values.map Edge.ends) := by
  intro o n c
  have ho : o.Sound := Diagram.sound_read old
  have hn : n.Sound := Diagram.sound_read new
  have hnodes := Comparison.classifies_nodes ho hn
  have hedges := Comparison.classifies_edges ho hn
  have hends : ∀ d : Diagram, (d.edges.values.map Edge.shown).map (fun e => e.2.1) =
      d.edges.values.map Edge.ends := fun d => List.map_map
  refine ⟨hnodes, hedges, (Comparison.sound_ofDiagrams ho hn).ends, ⟨?_, ?_⟩, ⟨?_, ?_⟩, ?_⟩
  · rw [Table.size, ← List.length_map Prod.snd]
    exact hnodes.count_new hn.nodup_ids
  · rw [Table.size, ← List.length_map Prod.snd]
    exact hnodes.count_old ho.nodup_ids
  · have hcount := hedges.count_new (hends n ▸ hn.nodup_ends)
    rwa [List.length_map, Table.values, List.length_map] at hcount
  · have hcount := hedges.count_old (hends o ▸ ho.nodup_ends)
    rwa [List.length_map, Table.values, List.length_map] at hcount
  · have hsummary : c.summary.hasChanges = false ↔
        c.summary.nodes.hasChanges = false ∧ c.summary.edges.hasChanges = false := by
      rw [Summary.hasChanges, Bool.or_eq_false_iff]
    rw [hsummary, ho.nodes_keyed.keys_eq, hn.nodes_keyed.keys_eq, ← hends o, ← hends n]
    exact and_congr hnodes.hasChanges_eq_false_iff hedges.hasChanges_eq_false_iff

end FlowchartMerge
