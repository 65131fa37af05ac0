import FlowchartMerge.Proofs.Diagram.Contribution

/-!
# Texts one after the other

A text that is put after another one is read as if its diagram were written over the
other's: the later header counts, the earlier nodes stay, the later edges take the place
of the earlier ones, and everything else is added at the end. The diagrams of the two
texts are all that is needed for it.
-/

set_option autoImplicit false

namespace FlowchartMerge

namespace Table

variable {α : Type}

theorem map_fst_new (m m' : Table α) :
    (m'.entries.filter fun e => !m.contains e.1).map Prod.fst =
      m'.keys.filter fun k => !m.contains k := by
  rw [keys, List.filter_map]
  rfl

def extend (m m' : Table α) : Table α where
  entries := m.entries++m'.entries.filter fun e => !m.contains e.1
  nodup := by
    rw [List.map_append, map_fst_new]
    exact nodup_keys_append m m'

def update (m m' : Table α) : Table α where
  entries := m.entries.map (fun e => (e.1, (m'.get? e.1).getD e.2)) ++
    m'.entries.filter fun e => !m.contains e.1
  nodup := by
    rw [List.map_append, List.map_map, map_fst_new]
    exact nodup_keys_append m m'

/-- A table is known by the order of its keys and by its look-ups. -/
theorem eq_of_get? {m m' : Table α} (hkeys : m.keys = m'.keys)
    (hget : ∀ k, m.get? k = m'.get? k) : m = m' := by
  apply eq_of_entries
  apply eq_of_map_eq hkeys
  intro a ha b hb hab
  have hv : m'.get? b.1 = some a.2 := by
    rw [← hget, ← hab]
    exact (get?_eq_some_iff m a.1 a.2).2 ha
  have hw : m'.get? b.1 = some b.2 := (get?_eq_some_iff m' b.1 b.2).2 hb
  exact Prod.ext hab (Option.some.inj (hv.symm.trans hw))

section

variable (m m' : Table α)

theorem keys_extend : (m.extend m').keys = m.keys++m'.keys.filter fun k => !m.contains k := by
  rw [keys, extend, List.map_append, map_fst_new]
  rfl

theorem keys_update : (m.update m').keys = m.keys++m'.keys.filter fun k => !m.contains k := by
  rw [keys, update, List.map_append, List.map_map, map_fst_new]
  rfl

theorem mem_entries_new (k : Text) (v : α) :
    (k, v) ∈ m'.entries.filter (fun e => !m.contains e.1) ↔
      m.get? k = none ∧ m'.get? k = some v := by
  rw [List.mem_filter, get?_eq_some_iff, get?_eq_none_iff, Bool.not_eq_true',
    contains_eq_false_iff]
  exact and_comm

theorem get?_extend (k : Text) : (m.extend m').get? k = (m.get? k).or (m'.get? k) := by
  ext v
  rw [get?_eq_some_iff, extend, List.mem_append, mem_entries_new, ← get?_eq_some_iff,
    Option.or_eq_some_iff]

theorem mem_entries_over (k : Text) (v : α) :
    (k, v) ∈ m.entries.map (fun e => (e.1, (m'.get? e.1).getD e.2)) ↔
      ∃ w, m.get? k = some w ∧ (m'.get? k).getD w = v := by
  simp only [List.mem_map, Prod.mk.injEq, get?_eq_some_iff]
  constructor
  · rintro ⟨⟨k', w⟩, he, rfl, hv⟩
    exact ⟨w, he, hv⟩
  · rintro ⟨w, he, hv⟩
    exact ⟨(k, w), he, rfl, hv⟩

theorem get?_update (k : Text) : (m.update m').get? k = (m'.get? k).or (m.get? k) := by
  ext v
  rw [get?_eq_some_iff, update, List.mem_append, mem_entries_new, mem_entries_over,
    Option.or_eq_some_iff]
  cases m.get? k <;> cases m'.get? k <;> simp

end

section

variable (id : α → Text) (xs ys : List α)

theorem filter_contains {m : Table α} {ks : List Text} (h : ∀ k, k ∈ m.keys ↔ k ∈ ks)
    (l : List Text) : l.filter (fun k => !m.contains k) = l.filter fun k => !ks.contains k := by
  apply List.filter_congr
  intro k _
  rw [Table.contains, List.contains_eq_mem, decide_eq_decide.2 (h k)]

/-- What is written first stays, whatever is written after it. -/
theorem ofFirst_append : ofFirst id (xs++ys) = (ofFirst id xs).extend (ofFirst id ys) := by
  apply eq_of_get?
  · rw [keys_extend, filter_contains (mem_keys_ofFirst id xs), keys_ofFirst, keys_ofFirst,
      keys_ofFirst, List.map_append, eraseDups_append_filter]
  · intro k
    rw [get?_extend, get?_ofFirst, get?_ofFirst, get?_ofFirst, List.find?_append]

/-- What is written last counts, in the place where its identity was first written. -/
theorem ofLast_append : ofLast id (xs++ys) = (ofLast id xs).update (ofLast id ys) := by
  apply eq_of_get?
  · rw [keys_update, filter_contains (mem_keys_ofLast id xs), keys_ofLast, keys_ofLast,
      keys_ofLast, List.map_append, eraseDups_append_filter]
  · intro k
    rw [get?_update, get?_ofLast_append]

end

end Table

namespace Diagram

open Line

def followedBy (d d' : Diagram) : Diagram where
  header := d'.header.or d.header
  nodes := d.nodes.extend d'.nodes
  edges := d.edges.update d'.edges
  other := d.other++d'.other

theorem ofLines_append (xs ys : List Line) :
    ofLines (xs++ys) = (ofLines xs).followedBy (ofLines ys) := by
  apply eq_of_parts
  · rw [header_ofLines, List.filterMap_append, List.getLast?_append, ← header_ofLines,
      ← header_ofLines]
    rfl
  · rw [nodes_ofLines, List.flatMap_append, Table.ofFirst_append, ← nodes_ofLines,
      ← nodes_ofLines]
    rfl
  · rw [edges_ofLines, List.filterMap_append, Table.ofLast_append, ← edges_ofLines,
      ← edges_ofLines]
    rfl
  · rw [other_ofLines, List.filterMap_append, ← other_ofLines, ← other_ofLines]
    rfl

/-- Reading two texts with a line feed between them writes the second diagram after the first,
whatever the first text ends with. -/
theorem read_append (a b : Text) : read (a ++ "\n" ++ b) = (read a).followedBy (read b) := by
  have hbreak : a ++ "\n" ++ b = a ++ '\n' :: b := by simp
  rw [hbreak, read_eq, statements, significant_append, List.map_append, ofLines_append]
  rfl

end Diagram

end FlowchartMerge
