import FlowchartMerge.Text.Basic

/-!
# Tables that keep their order

A table maps texts to values and lists its entries in the order in which their
keys were first written. No key occurs twice, whatever is written.
-/

set_option autoImplicit false

namespace FlowchartMerge

structure Table (α : Type) where
  entries : List (Text × α)
  nodup : (entries.map Prod.fst).Nodup

namespace Table

variable {α : Type}

def empty : Table α := ⟨[], by simp⟩

instance : Inhabited (Table α) := ⟨empty⟩

def keys (m : Table α) : List Text := m.entries.map Prod.fst

def values (m : Table α) : List α := m.entries.map Prod.snd

def size (m : Table α) : Nat := m.entries.length

def isEmpty (m : Table α) : Bool := m.entries.isEmpty

def contains (m : Table α) (k : Text) : Bool := decide (k ∈ m.keys)

def get? (m : Table α) (k : Text) : Option α :=
  (m.entries.find? fun e => e.1 == k).map Prod.snd

theorem contains_iff (m : Table α) (k : Text) : m.contains k = true ↔ k ∈ m.keys := by
  simp [contains]

theorem get?_eq_some_iff (m : Table α) (k : Text) (v : α) :
    m.get? k = some v ↔ (k, v) ∈ m.entries := by
  have h := m.nodup
  unfold get?
  generalize m.entries = es at h
  induction es with
  | nil => simp
  | cons e es ih =>
    obtain ⟨k', v'⟩ := e
    simp only [List.map_cons, List.nodup_cons] at h
    by_cases hk : k' = k
    · subst hk
      have hn : (k', v) ∉ es := fun hm => h.1 (List.mem_map.2 ⟨_, hm, rfl⟩)
      simp [hn, eq_comm]
    · have hk' : k ≠ k' := fun e => hk e.symm
      simpa [hk, hk'] using ih h.2

def write (k : Text) (v : α) : List (Text × α) → List (Text × α)
  | [] => [(k, v)]
  | e::es => if e.1 = k then (k, v)::es else e::write k v es

theorem map_fst_write (k : Text) (v : α) (es : List (Text × α)) :
    (write k v es).map Prod.fst =
      if k ∈ es.map Prod.fst then es.map Prod.fst else es.map Prod.fst++[k] := by
  induction es with
  | nil => simp [write]
  | cons e es ih =>
    by_cases he : e.1 = k
    · simp [write, he]
    · have hk : k ≠ e.1 := fun h => he h.symm
      simp only [write, he, if_false, List.map_cons, ih, List.mem_cons, hk, false_or]
      split <;> simp

theorem nodup_append_new {l : List Text} (h : l.Nodup) {k : Text} (hk : k ∉ l) :
    (l++[k]).Nodup := by
  refine List.nodup_append.2 ⟨h, by simp, ?_⟩
  intro a ha b hb hab
  rw [List.mem_singleton.1 hb] at hab
  exact hk (hab ▸ ha)

def insert (m : Table α) (k : Text) (v : α) : Table α where
  entries := write k v m.entries
  nodup := by
    rw [map_fst_write]
    split
    · exact m.nodup
    · exact nodup_append_new m.nodup ‹_›

def insertNew (m : Table α) (k : Text) (v : α) : Table α :=
  if h : k ∈ m.keys then m else
    ⟨m.entries++[(k, v)], by
      rw [List.map_append]
      exact nodup_append_new m.nodup h⟩

theorem keys_insertNew (m : Table α) (k : Text) (v : α) :
    (m.insertNew k v).keys = if k ∈ m.keys then m.keys else m.keys++[k] := by
  unfold insertNew
  split <;> simp [keys]

end Table

end FlowchartMerge
