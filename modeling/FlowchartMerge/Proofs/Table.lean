import Mathlib.Data.List.Induction
import FlowchartMerge.Table

/-!
# Tables written one value at a time

A table that keeps what was written first and a table that keeps what was written
last are both determined by the list of values written: a look-up finds the first or
the last value of that identity. Writing values one after the other makes a table in
which every value stands under its own identity.
-/

set_option autoImplicit false

namespace FlowchartMerge.Table

variable {α : Type}

theorem get?_write (k k' : Text) (v : α) (es : List (Text × α)) :
    ((write k v es).find? fun e => e.1 == k').map Prod.snd =
      if k = k' then some v else (es.find? fun e => e.1 == k').map Prod.snd := by
  induction es with
  | nil => by_cases hk : k = k' <;> simp [write, hk]
  | cons e es ih =>
    by_cases he : e.1 = k
    · by_cases hk : k = k' <;> simp [write, he, hk]
    · rw [write, if_neg he, List.find?_cons, List.find?_cons]
      by_cases hek : e.1 = k'
      · have hk : ¬k = k' := fun h => he (hek.trans h.symm)
        simp [hek, hk]
      · rw [beq_eq_false_iff_ne.2 hek]
        exact ih

theorem get?_insert (m : Table α) (k k' : Text) (v : α) :
    (m.insert k v).get? k' = if k = k' then some v else m.get? k' :=
  get?_write k k' v m.entries

theorem mem_keys_iff (m : Table α) (k : Text) : k ∈ m.keys ↔ ∃ v, m.get? k = some v := by
  simp only [get?_eq_some_iff, keys, List.mem_map]
  constructor
  · rintro ⟨e, he, rfl⟩
    exact ⟨e.2, he⟩
  · rintro ⟨v, hv⟩
    exact ⟨(k, v), hv, rfl⟩

theorem get?_eq_none_iff (m : Table α) (k : Text) : m.get? k = none ↔ k ∉ m.keys := by
  rw [mem_keys_iff]
  cases m.get? k <;> simp

theorem contains_eq_false_iff (m : Table α) (k : Text) : m.contains k = false ↔ k ∉ m.keys := by
  rw [← Bool.not_eq_true, contains_iff]

theorem get?_insertNew (m : Table α) (k k' : Text) (v : α) :
    (m.insertNew k v).get? k' = (m.get? k').or (if k = k' then some v else none) := by
  unfold insertNew
  split
  · rename_i hk
    by_cases hkk : k = k'
    · subst hkk
      obtain ⟨w, hw⟩ := (mem_keys_iff m k).1 hk
      simp [hw]
    · simp [hkk]
  · unfold get?
    rw [List.find?_append, Option.map_or]
    by_cases hkk : k = k' <;> simp [hkk]

theorem entries_insertNew (m : Table α) (k : Text) (v : α) (h : k ∉ m.keys) :
    (m.insertNew k v).entries = m.entries++[(k, v)] := by
  rw [insertNew, dif_neg h]

theorem write_of_not_mem (k : Text) (v : α) (es : List (Text × α)) (h : k ∉ es.map Prod.fst) :
    write k v es = es++[(k, v)] := by
  induction es with
  | nil => rfl
  | cons e es ih =>
    rw [List.map_cons, List.mem_cons, not_or] at h
    have he : ¬e.1 = k := fun hek => h.1 hek.symm
    rw [write, if_neg he, ih h.2, List.cons_append]

theorem entries_insert (m : Table α) (k : Text) (v : α) (h : k ∉ m.keys) :
    (m.insert k v).entries = m.entries++[(k, v)] :=
  write_of_not_mem k v m.entries h

/-- The keys of a table, and after them those that only another table has. -/
theorem nodup_keys_append (m m' : Table α) :
    (m.keys++m'.keys.filter fun k => !m.contains k).Nodup := by
  apply List.nodup_append.2
  refine ⟨m.nodup, m'.nodup.filter _, ?_⟩
  rintro k hk l hl rfl
  have hc := (List.mem_filter.1 hl).2
  rw [(m.contains_iff k).2 hk] at hc
  exact Bool.noConfusion hc

theorem eq_of_entries {m m' : Table α} (h : m.entries = m'.entries) : m = m' := by
  cases m
  cases m'
  cases h
  rfl

theorem mem_values_iff (m : Table α) (v : α) : v ∈ m.values ↔ ∃ k, m.get? k = some v := by
  simp only [get?_eq_some_iff, values, List.mem_map]
  constructor
  · rintro ⟨e, he, rfl⟩
    exact ⟨e.1, he⟩
  · rintro ⟨k, hk⟩
    exact ⟨(k, v), hk, rfl⟩

def Keyed (id : α → Text) (m : Table α) : Prop := ∀ k v, m.get? k = some v → id v = k

section

variable {id : α → Text} {m : Table α}

theorem Keyed.of_mem_entries (h : m.Keyed id) {p : Text × α} (hp : p ∈ m.entries) :
    p.1 = id p.2 ∧ p.2 ∈ m.values :=
  ⟨(h p.1 p.2 ((get?_eq_some_iff m p.1 p.2).2 hp)).symm, List.mem_map_of_mem hp⟩

theorem Keyed.entries_eq (h : m.Keyed id) : m.entries = m.values.map fun v => (id v, v) := by
  unfold values
  rw [List.map_map]
  refine (List.map_id m.entries).symm.trans (List.map_congr_left fun e he => ?_)
  simp [← (h.of_mem_entries he).1]

theorem Keyed.keys_eq (h : m.Keyed id) : m.keys = m.values.map id := by
  rw [keys, h.entries_eq, List.map_map]
  rfl

theorem Keyed.ext {m' : Table α} (h : m.Keyed id) (h' : m'.Keyed id)
    (hv : m.values = m'.values) : m = m' := by
  apply eq_of_entries
  rw [h.entries_eq, h'.entries_eq, hv]

theorem Keyed.get?_id (h : m.Keyed id) (v : α) : m.get? (id v) = some v ↔ v ∈ m.values := by
  rw [mem_values_iff]
  constructor
  · intro hv
    exact ⟨id v, hv⟩
  · rintro ⟨k, hk⟩
    rw [h k v hk]
    exact hk

end

def ofFirst (id : α → Text) (xs : List α) : Table α :=
  xs.foldl (fun m a => m.insertNew (id a) a) empty

def ofLast (id : α → Text) (xs : List α) : Table α :=
  xs.foldl (fun m a => m.insert (id a) a) empty

section

variable {ι : Type} {g : α → ι} {xs : List α} {a b : α}

def FirstWith (g : α → ι) (xs : List α) (a : α) : Prop :=
  ∃ before after : List α, xs = before++a::after ∧ ∀ b ∈ before, g b ≠ g a

def LastWith (g : α → ι) (xs : List α) (a : α) : Prop :=
  ∃ before after : List α, xs = before++a::after ∧ ∀ b ∈ after, g b ≠ g a

theorem firstWith_iff [BEq ι] [LawfulBEq ι] :
    FirstWith g xs a ↔ (xs.find? fun x => g x == g a) = some a := by
  simp [FirstWith, List.find?_eq_some_iff_append]

theorem lastWith_iff : LastWith g xs a ↔ FirstWith g xs.reverse a := by
  constructor
  · rintro ⟨before, after, rfl, h⟩
    exact ⟨after.reverse, before.reverse, by simp, fun b hb => h b (List.mem_reverse.1 hb)⟩
  · rintro ⟨before, after, hxs, h⟩
    refine ⟨after.reverse, before.reverse, ?_, fun b hb => h b (List.mem_reverse.1 hb)⟩
    rw [← List.reverse_reverse xs, hxs]
    simp

theorem FirstWith.unique [DecidableEq ι] (ha : FirstWith g xs a) (hb : FirstWith g xs b)
    (h : g a = g b) : a = b := by
  rw [firstWith_iff] at ha hb
  rw [h, hb] at ha
  exact (Option.some.inj ha).symm

theorem LastWith.unique [DecidableEq ι] (ha : LastWith g xs a) (hb : LastWith g xs b)
    (h : g a = g b) : a = b :=
  (lastWith_iff.1 ha).unique (lastWith_iff.1 hb) h

theorem LastWith.mem (h : LastWith g xs a) : a ∈ xs := by
  obtain ⟨before, after, rfl, -⟩ := h
  exact List.mem_append_right before List.mem_cons_self

theorem LastWith.imp {κ : Type} {f : α → κ} (h : LastWith g xs a)
    (hfg : ∀ b ∈ xs, f b = f a → g b = g a) : LastWith f xs a := by
  obtain ⟨before, after, rfl, hafter⟩ := h
  refine ⟨before, after, rfl, fun b hb hf => hafter b hb (hfg b ?_ hf)⟩
  exact List.mem_append_right before (List.mem_cons_of_mem a hb)

/-- What can be told from `g` is the same in lists with the same `g`. -/
theorem map_eq_of_map_eq {κ : Type} {f : α → κ} {as bs : List α} (hmap : as.map g = bs.map g)
    (h : ∀ a ∈ as, ∀ b ∈ bs, g a = g b → f a = f b) : as.map f = bs.map f := by
  induction as generalizing bs with
  | nil => rw [List.map_eq_nil_iff.1 hmap.symm]
  | cons a as ih =>
    obtain ⟨b, bs, rfl, hab, hrest⟩ := List.map_eq_cons_iff.1 hmap.symm
    rw [List.map_cons, List.map_cons, h a List.mem_cons_self b List.mem_cons_self hab.symm]
    apply congrArg
    apply ih hrest.symm
    intro x hx y hy
    exact h x (List.mem_cons_of_mem a hx) y (List.mem_cons_of_mem b hy)

theorem eq_of_map_eq {as bs : List α} (hmap : as.map g = bs.map g)
    (h : ∀ a ∈ as, ∀ b ∈ bs, g a = g b → a = b) : as = bs := by
  have hself : as.map (fun a => a) = bs.map fun a => a := map_eq_of_map_eq hmap h
  rwa [List.map_id', List.map_id'] at hself

end

variable (id : α → Text)

theorem ofFirst_concat (xs : List α) (a : α) :
    ofFirst id (xs++[a]) = (ofFirst id xs).insertNew (id a) a := by
  simp [ofFirst]

theorem ofLast_concat (xs : List α) (a : α) :
    ofLast id (xs++[a]) = (ofLast id xs).insert (id a) a := by
  simp [ofLast]

theorem get?_ofFirst (xs : List α) (k : Text) :
    (ofFirst id xs).get? k = xs.find? fun a => id a == k := by
  induction xs using List.reverseRecOn with
  | nil => rfl
  | append_singleton xs a ih =>
    rw [ofFirst_concat, get?_insertNew, ih, List.find?_append]
    by_cases hk : id a = k <;> simp [hk]

theorem get?_ofLast (xs : List α) (k : Text) :
    (ofLast id xs).get? k = xs.reverse.find? fun a => id a == k := by
  induction xs using List.reverseRecOn with
  | nil => rfl
  | append_singleton xs a ih =>
    rw [ofLast_concat, get?_insert, ih, List.reverse_concat, List.find?_cons]
    split
    · rename_i hk
      simp [hk]
    · rename_i hk
      rw [beq_eq_false_iff_ne.2 hk]

theorem get?_ofLast_append (xs ys : List α) (k : Text) :
    (ofLast id (xs++ys)).get? k = ((ofLast id ys).get? k).or ((ofLast id xs).get? k) := by
  simp only [get?_ofLast, List.reverse_append, List.find?_append]

theorem mem_of_get?_ofFirst {xs : List α} {k : Text} {a : α}
    (h : (ofFirst id xs).get? k = some a) : a ∈ xs ∧ id a = k := by
  rw [get?_ofFirst] at h
  have hk := List.find?_some h
  exact ⟨List.mem_of_find?_eq_some h, by simpa using hk⟩

theorem mem_of_get?_ofLast {xs : List α} {k : Text} {a : α}
    (h : (ofLast id xs).get? k = some a) : a ∈ xs ∧ id a = k := by
  rw [get?_ofLast] at h
  have hk := List.find?_some h
  exact ⟨List.mem_reverse.1 (List.mem_of_find?_eq_some h), by simpa using hk⟩

theorem keyed_ofFirst (xs : List α) : (ofFirst id xs).Keyed id :=
  fun _ _ h => (mem_of_get?_ofFirst id h).2

theorem keyed_ofLast (xs : List α) : (ofLast id xs).Keyed id :=
  fun _ _ h => (mem_of_get?_ofLast id h).2

theorem firstWith_ofFirst {xs : List α} {a : α} (h : a ∈ (ofFirst id xs).values) :
    FirstWith id xs a := by
  obtain ⟨k, hk⟩ := (mem_values_iff _ a).1 h
  obtain ⟨-, rfl⟩ := mem_of_get?_ofFirst id hk
  rwa [get?_ofFirst, ← firstWith_iff] at hk

theorem lastWith_ofLast {xs : List α} {a : α} (h : a ∈ (ofLast id xs).values) :
    LastWith id xs a := by
  obtain ⟨k, hk⟩ := (mem_values_iff _ a).1 h
  obtain ⟨-, rfl⟩ := mem_of_get?_ofLast id hk
  rwa [get?_ofLast, ← firstWith_iff, ← lastWith_iff] at hk

theorem mem_keys_ofFirst (xs : List α) (k : Text) : k ∈ (ofFirst id xs).keys ↔ k ∈ xs.map id := by
  rw [mem_keys_iff, ← Option.isSome_iff_exists, get?_ofFirst, List.find?_isSome, List.mem_map]
  simp only [beq_iff_eq]

theorem mem_keys_ofLast (xs : List α) (k : Text) : k ∈ (ofLast id xs).keys ↔ k ∈ xs.map id := by
  rw [mem_keys_iff, ← Option.isSome_iff_exists, get?_ofLast, List.find?_isSome, List.mem_map]
  simp only [beq_iff_eq, List.mem_reverse]

/-- A new element comes last in the order of first occurrences, a known one changes nothing. -/
theorem eraseDups_concat {ι : Type} [BEq ι] [LawfulBEq ι] (l : List ι) (k : ι) :
    (l++[k]).eraseDups = if k ∈ l then l.eraseDups else l.eraseDups++[k] := by
  rw [List.eraseDups_append, List.cons_removeAll]
  by_cases hk : k ∈ l <;> simp [hk, List.removeAll, List.eraseDups_cons]

/-- Of a second list, what the first one has already does not come first. -/
theorem eraseDups_append_filter {ι : Type} [BEq ι] [LawfulBEq ι] (l l' : List ι) :
    (l++l').eraseDups = l.eraseDups++l'.eraseDups.filter fun k => !l.contains k := by
  induction l' using List.reverseRecOn with
  | nil => simp
  | append_singleton l' k ih =>
    rw [← List.append_assoc, eraseDups_concat, eraseDups_concat, ih]
    by_cases hk : k ∈ l <;> by_cases hk' : k ∈ l' <;> simp [hk, hk']

/-- The keys stand in the order in which their identities were first written. -/
theorem keys_ofFirst (xs : List α) : (ofFirst id xs).keys = (xs.map id).eraseDups := by
  induction xs using List.reverseRecOn with
  | nil => rfl
  | append_singleton xs a ih =>
    rw [ofFirst_concat, keys_insertNew, List.map_append, List.map_singleton, eraseDups_concat, ih]
    simp only [List.mem_eraseDups]

theorem map_write {β : Type} (f : Text × α → β) (k : Text) (v : α) (es : List (Text × α))
    (h : ∀ e ∈ es, e.1 = k → f e = f (k, v)) :
    (write k v es).map f =
      if k ∈ es.map Prod.fst then es.map f else es.map f++[f (k, v)] := by
  induction es with
  | nil => simp [write]
  | cons e es ih =>
    by_cases he : e.1 = k
    · simp [write, he, h e List.mem_cons_self he]
    · have hk : k ≠ e.1 := fun hke => he hke.symm
      simp only [write, he, if_false, List.map_cons,
        ih fun x hx => h x (List.mem_cons_of_mem e hx), List.mem_cons, hk, false_or]
      split <;> simp

/-- Whatever tells the same identities stands in the order in which it was first written. -/
theorem map_values_ofLast {ι : Type} [BEq ι] [LawfulBEq ι] (g : α → ι)
    (xs : List α) (h : ∀ a ∈ xs, ∀ b ∈ xs, id a = id b ↔ g a = g b) :
    (ofLast id xs).values.map g = (xs.map g).eraseDups := by
  induction xs using List.reverseRecOn with
  | nil => rfl
  | append_singleton xs a ih =>
    have ha : a ∈ xs++[a] := List.mem_append_right xs (List.mem_singleton_self a)
    have hxs : ∀ b ∈ xs, b ∈ xs++[a] := fun b hb => List.mem_append_left [a] hb
    -- a value in the place of another shows nothing new there
    have hentry : ∀ e ∈ (ofLast id xs).entries, e.1 = id a → g e.2 = g a := by
      intro e he hk
      obtain ⟨hm, hid⟩ := mem_of_get?_ofLast id ((get?_eq_some_iff _ e.1 e.2).2 he)
      exact (h e.2 (hxs e.2 hm) a ha).1 (hid.trans hk)
    have hknown : id a ∈ (ofLast id xs).keys ↔ g a ∈ xs.map g := by
      rw [mem_keys_ofLast, List.mem_map, List.mem_map]
      constructor
      · rintro ⟨b, hb, he⟩
        exact ⟨b, hb, (h b (hxs b hb) a ha).1 he⟩
      · rintro ⟨b, hb, he⟩
        exact ⟨b, hb, (h b (hxs b hb) a ha).2 he⟩
    have hwrite := map_write (fun e => g e.2) (id a) a _ hentry
    rw [ofLast_concat, List.map_append, List.map_singleton, eraseDups_concat,
      ← ih fun b hb c hc => h b (hxs b hb) c (hxs c hc), ← if_congr hknown rfl rfl]
    simp only [values, List.map_map]
    exact hwrite

theorem keys_ofLast (xs : List α) : (ofLast id xs).keys = (xs.map id).eraseDups := by
  rw [(keyed_ofLast id xs).keys_eq]
  exact map_values_ofLast id id xs fun _ _ _ _ => Iff.rfl

/-- Values of known identities change nothing when the first of an identity stays. -/
theorem ofFirst_append_of_known (xs ys : List α) (h : ∀ a ∈ ys, id a ∈ xs.map id) :
    ofFirst id (xs++ys) = ofFirst id xs := by
  induction ys using List.reverseRecOn with
  | nil => rw [List.append_nil]
  | append_singleton ys a ih =>
    have hys : ∀ b ∈ ys, id b ∈ xs.map id := fun b hb => h b (List.mem_append_left _ hb)
    have ha : id a ∈ (ofFirst id xs).keys :=
      (mem_keys_ofFirst id xs (id a)).2 (h a (List.mem_append_right _ (List.mem_singleton_self a)))
    rw [← List.append_assoc, ofFirst_concat, ih hys, insertNew, dif_pos ha]

/-- Writing values of different identities lists them in their order, as long as a new key
is written at the end. -/
theorem entries_foldl {put : Table α → Text → α → Table α}
    (hw : ∀ m k v, k ∉ m.keys → (put m k v).entries = m.entries++[(k, v)]) (xs : List α)
    (h : (xs.map id).Nodup) :
    (xs.foldl (fun m a => put m (id a) a) empty).entries = xs.map fun a => (id a, a) := by
  induction xs using List.reverseRecOn with
  | nil => rfl
  | append_singleton xs a ih =>
    rw [List.map_append, List.nodup_append] at h
    have hxs := ih h.1
    have ha : id a ∉ (xs.foldl (fun m a => put m (id a) a) empty).keys := by
      rw [keys, hxs, List.map_map]
      intro hm
      exact h.2.2 _ hm _ (List.mem_singleton_self _) rfl
    rw [List.foldl_append, List.foldl_cons, List.foldl_nil, hw _ _ _ ha, hxs, List.map_append,
      List.map_singleton]

theorem entries_ofFirst (xs : List α) (h : (xs.map id).Nodup) :
    (ofFirst id xs).entries = xs.map fun a => (id a, a) :=
  entries_foldl id entries_insertNew xs h

theorem entries_ofLast (xs : List α) (h : (xs.map id).Nodup) :
    (ofLast id xs).entries = xs.map fun a => (id a, a) :=
  entries_foldl id entries_insert xs h

end FlowchartMerge.Table
