import Mathlib.Data.List.Nodup
import FlowchartMerge.Toml.Document

/-!
# Names of entries

No table of a document names an entry twice, at whatever depth it stands: each change that
a line makes keeps the names of every table apart, and so does each value that is read. A
look-up in a table that was read thus finds the only entry of a name.
-/

set_option autoImplicit false

namespace FlowchartMerge.Toml

inductive Value.Distinct : Value → Prop
  | string (text : Text) : Distinct (.string text)
  | integer (number : Int) : Distinct (.integer number)
  | float (number : Binary64) : Distinct (.float number)
  | boolean (value : Bool) : Distinct (.boolean value)
  | moment : Distinct .moment
  | array {vs : List Value} (h : ∀ v ∈ vs, v.Distinct) : Distinct (.array vs)
  | inline {es : Entries} (hn : (es.map Prod.fst).Nodup) (h : ∀ e ∈ es, e.2.Distinct) :
      Distinct (.inline es)
  | table {o : Origin} {es : Entries} (hn : (es.map Prod.fst).Nodup)
      (h : ∀ e ∈ es, e.2.Distinct) : Distinct (.table o es)
  | tables {ts : List Entries} (hn : ∀ es ∈ ts, (es.map Prod.fst).Nodup)
      (h : ∀ es ∈ ts, ∀ e ∈ es, e.2.Distinct) : Distinct (.tables ts)

namespace Entries

structure Distinct (es : Entries) : Prop where
  names : (es.map Prod.fst).Nodup
  values : ∀ e ∈ es, e.2.Distinct

variable {es es' : Entries} {k : Text} {v : Value}

theorem get?_eq_none_iff : get? es k = none ↔ k ∉ es.map Prod.fst := by
  rw [get?, Option.map_eq_none_iff, List.find?_eq_none, List.mem_map]
  constructor
  · rintro h ⟨e, he, rfl⟩
    exact h e he (beq_self_eq_true e.1)
  · intro h e he hk
    exact h ⟨e, he, beq_iff_eq.1 hk⟩

theorem mem_of_get?_eq_some (h : get? es k = some v) : (k, v) ∈ es := by
  obtain ⟨e, he, rfl⟩ := Option.map_eq_some_iff.1 h
  have hk : e.1 = k := by simpa using List.find?_some he
  rw [← hk]
  exact List.mem_of_find?_eq_some he

theorem get?_of_mem (hn : (es.map Prod.fst).Nodup) (h : (k, v) ∈ es) : get? es k = some v := by
  cases hg : get? es k with
  | none => exact absurd (List.mem_map_of_mem h) (get?_eq_none_iff.1 hg)
  | some w =>
    have heq := List.inj_on_of_nodup_map hn (mem_of_get?_eq_some hg) h rfl
    rw [(Prod.mk.inj heq).2]

theorem map_fst_replace (es : Entries) (k : Text) (v : Value) :
    (es.replace k v).map Prod.fst = es.map Prod.fst := by
  rw [replace, List.map_map]
  apply List.map_congr_left
  intro e _
  by_cases he : e.1 = k <;> simp [he]

namespace Distinct

theorem nil : Distinct [] := ⟨List.nodup_nil, by simp⟩

theorem table (h : es.Distinct) (o : Origin) : (Value.table o es).Distinct :=
  .table h.names h.values

theorem inline (h : es.Distinct) : (Value.inline es).Distinct := .inline h.names h.values

theorem tables {ts : List Entries} (h : ∀ es ∈ ts, es.Distinct) : (Value.tables ts).Distinct :=
  .tables (fun es hes => (h es hes).names) fun es hes => (h es hes).values

theorem of_get? (h : es.Distinct) (hv : get? es k = some v) : v.Distinct :=
  h.values _ (mem_of_get?_eq_some hv)

theorem concat (h : es.Distinct) (hk : get? es k = none) (hv : v.Distinct) :
    Distinct (es++[(k, v)]) := by
  constructor
  · rw [List.map_append, List.map_singleton, List.nodup_append_comm]
    exact List.nodup_cons.2 ⟨get?_eq_none_iff.1 hk, h.names⟩
  · rw [List.forall_mem_append, List.forall_mem_singleton]
    exact ⟨h.values, hv⟩

theorem replace (h : es.Distinct) (k : Text) (hv : v.Distinct) : (es.replace k v).Distinct := by
  constructor
  · rw [map_fst_replace]
    exact h.names
  · intro e he
    obtain ⟨d, hd, rfl⟩ := List.mem_map.1 he
    by_cases hk : d.1 = k
    · rw [if_pos hk]
      exact hv
    · rw [if_neg hk]
      exact h.values d hd

theorem erase (h : es.Distinct) (k : Text) : (es.erase k).Distinct := by
  constructor
  · exact (List.filter_sublist.map Prod.fst).nodup h.names
  · intro e he
    exact h.values e (List.mem_filter.1 he).1

end Distinct

theorem get?_erase (es : Entries) (k : Text) : get? (es.erase k) k = none := by
  rw [get?_eq_none_iff, List.mem_map]
  rintro ⟨e, he, rfl⟩
  simpa using (List.mem_filter.1 he).2

def Keeps (change : Change) : Prop :=
  ∀ (o : Origin) (es es' : Entries), es.Distinct → change o es = some es' → es'.Distinct

theorem keeps_within {change : Change} (hc : Keeps change) (made : Origin) (path : List Text) :
    Keeps (within made change path) := by
  induction path with
  | nil => exact hc
  | cons k ks ih =>
    intro o es es' hes h
    rw [within] at h
    cases hk : get? es k with
    | none =>
      rw [hk] at h
      obtain ⟨t, ht, rfl⟩ := Option.map_eq_some_iff.1 h
      exact hes.concat hk ((ih made [] t .nil ht).table made)
    | some v =>
      have hv := hes.of_get? hk
      rw [hk] at h
      cases hv with
      | @table o' t hn hd =>
        simp only at h
        split at h
        · cases h
        · obtain ⟨t', ht, rfl⟩ := Option.map_eq_some_iff.1 h
          exact hes.replace k ((ih o' t t' ⟨hn, hd⟩ ht).table o')
      | @tables ts hn hd =>
        obtain ⟨t, hlast, h⟩ := Option.bind_eq_some_iff.1 h
        obtain ⟨t', ht, rfl⟩ := Option.map_eq_some_iff.1 h
        have hts : ∀ u ∈ ts, Distinct u := fun u hu => ⟨hn u hu, hd u hu⟩
        have ht' := ih .header t t' (hts t (List.mem_of_getLast? hlast)) ht
        apply hes.replace k
        apply Distinct.tables
        rw [List.forall_mem_append, List.forall_mem_singleton]
        exact ⟨fun u hu => hts u (List.dropLast_subset ts hu), ht'⟩
      | _ => cases h

theorem keeps_openTable (k : Text) : Keeps (openTable k) := by
  intro o es es' hes h
  rw [openTable] at h
  split at h
  · cases h
    exact hes.concat ‹_› (Distinct.nil.table .header)
  · rename_i t hk
    cases h
    cases hes.of_get? hk with
    | table hn hd => exact (hes.erase k).concat (get?_erase es k) (.table hn hd)
  · cases h

theorem keeps_openElement (k : Text) : Keeps (openElement k) := by
  intro o es es' hes h
  rw [openElement] at h
  split at h
  · cases h
    refine hes.concat ‹_› (Distinct.tables ?_)
    rw [List.forall_mem_singleton]
    exact .nil
  · rename_i ts hk
    cases h
    cases hes.of_get? hk with
    | tables hn hd =>
      apply hes.replace k
      apply Distinct.tables
      rw [List.forall_mem_append, List.forall_mem_singleton]
      exact ⟨fun u hu => ⟨hn u hu, hd u hu⟩, .nil⟩
  · cases h

theorem keeps_assign (hv : v.Distinct) (path : List Text) : Keeps (assign path v) := by
  intro o es es' hes h
  rw [assign] at h
  split at h
  · refine keeps_within ?_ .dotted _ o es es' hes h
    intro o es es' hes h
    rw [insertNew] at h
    split at h
    · rename_i hnew
      cases h
      have hk := (Bool.and_eq_true_iff.1 hnew).2
      exact hes.concat (Option.isNone_iff_eq_none.1 hk) hv
    · cases h
  · cases h

end Entries

def Yields (value : Reader Value) : Prop :=
  ∀ (t : Text) (p : Value × Text), value t = some p → p.1.Distinct

section

variable {v : Value}

theorem distinct_of_integerOf? {negative : Bool} {base : Nat} {ds : List Nat}
    (h : integerOf? negative base ds = some v) : v.Distinct := by
  simp only [integerOf?, Option.ite_none_right_eq_some, Option.some_inj] at h
  obtain ⟨-, rfl⟩ := h
  exact .integer _

theorem distinct_of_floatOf? {negative : Bool} {ds : List Nat} {ex : Int}
    (h : floatOf? negative ds ex = some v) : v.Distinct := by
  simp only [floatOf?, Option.ite_none_left_eq_some, Option.some_inj] at h
  obtain ⟨-, rfl⟩ := h
  exact .float _

end

theorem yields_based (base : Nat) : Yields (integer?.based base) := by
  intro t p h
  obtain ⟨q, -, h⟩ := Option.bind_eq_some_iff.1 h
  obtain ⟨v, hv, rfl⟩ := Option.map_eq_some_iff.1 h
  exact distinct_of_integerOf? hv

theorem yields_integer? : Yields integer? := by
  intro t p h
  rw [integer?.eq_def] at h
  split at h
  · exact yields_based 16 _ p h
  · exact yields_based 8 _ p h
  · exact yields_based 2 _ p h
  · obtain ⟨q, -, h⟩ := Option.bind_eq_some_iff.1 h
    obtain ⟨v, hv, rfl⟩ := Option.map_eq_some_iff.1 h
    exact distinct_of_integerOf? hv

theorem yields_decimalFloat? : Yields decimalFloat? := by
  intro t p h
  obtain ⟨whole, -, h⟩ := Option.bind_eq_some_iff.1 h
  split at h
  · obtain ⟨v, hv, rfl⟩ := Option.map_eq_some_iff.1 h
    exact distinct_of_floatOf? hv
  · obtain ⟨ex, -, h⟩ := Option.bind_eq_some_iff.1 h
    obtain ⟨v, hv, rfl⟩ := Option.map_eq_some_iff.1 h
    exact distinct_of_floatOf? hv

theorem yields_specialFloat? : Yields specialFloat? := by
  intro t p h
  rw [specialFloat?] at h
  split at h
  · cases h
    exact .float _
  · cases h
    exact .float _
  · cases h

theorem yields_moment? : Yields moment? := by
  intro t p h
  obtain ⟨r, -, rfl⟩ := Option.map_eq_some_iff.1 h
  exact .moment

theorem yields_number? : Yields number? := by
  intro t p h
  simp only [number?, Option.or_eq_some_iff] at h
  rcases h with h | ⟨-, h | ⟨-, h | ⟨-, h⟩⟩⟩
  · exact yields_moment? t p h
  · exact yields_decimalFloat? t p h
  · exact yields_specialFloat? t p h
  · exact yields_integer? t p h

theorem yields_word? (w : Text) {v : Value} (hv : v.Distinct) : Yields (word? w v) := by
  intro t p h
  obtain ⟨r, -, rfl⟩ := Option.map_eq_some_iff.1 h
  exact hv

theorem yields_scalar? : Yields scalar? := by
  intro t p h
  cases t with
  | nil => cases h
  | cons c t =>
    rw [scalar?] at h
    split at h
    · obtain ⟨q, -, rfl⟩ := Option.map_eq_some_iff.1 h
      exact .string _
    split at h
    · exact yields_word? _ (.boolean true) _ p h
    split at h
    · exact yields_word? _ (.boolean false) _ p h
    split at h
    · exact yields_specialFloat? _ p h
    split at h
    · exact yields_number? _ p h
    · cases h

section

variable {value : Reader Value}

theorem distinct_of_elements? (hv : Yields value) (n : Nat) (t : Text)
    (p : List Value × Text) (h : elements? value n t = some p) : ∀ v ∈ p.1, v.Distinct := by
  induction n generalizing t p with
  | zero => cases h
  | succ n ih =>
    rw [elements?] at h
    split at h
    · cases h
      simp
    · obtain ⟨q, hq, h⟩ := Option.bind_eq_some_iff.1 h
      split at h
      · cases h
        rw [List.forall_mem_singleton]
        exact hv _ q hq
      · obtain ⟨r, hr, rfl⟩ := Option.map_eq_some_iff.1 h
        rw [List.forall_mem_cons]
        exact ⟨hv _ q hq, ih _ r hr⟩
      · cases h

theorem distinct_of_pair? (hv : Yields value) {t : Text} {p : (List Text × Value) × Text}
    (h : pair? value t = some p) : p.1.2.Distinct := by
  obtain ⟨k, -, h⟩ := Option.bind_eq_some_iff.1 h
  split at h
  · obtain ⟨q, hq, rfl⟩ := Option.map_eq_some_iff.1 h
    exact hv _ q hq
  · cases h

theorem distinct_of_pairs? (hv : Yields value) (n : Nat) {es : Entries} (hes : es.Distinct)
    (t : Text) (p : Entries × Text) (h : pairs? value n es t = some p) : p.1.Distinct := by
  induction n generalizing es t p with
  | zero => cases h
  | succ n ih =>
    rw [pairs?] at h
    obtain ⟨q, hq, h⟩ := Option.bind_eq_some_iff.1 h
    obtain ⟨es', hes', h⟩ := Option.bind_eq_some_iff.1 h
    have hd := Entries.keeps_assign (distinct_of_pair? hv hq) _ .header es es' hes hes'
    split at h
    · cases h
      exact hd
    · exact ih hd _ p h
    · cases h

theorem distinct_of_inline? (hv : Yields value) {t : Text} {p : Entries × Text}
    (h : inline? value t = some p) : p.1.Distinct := by
  rw [inline?] at h
  split at h
  · cases h
    exact .nil
  · exact distinct_of_pairs? hv _ .nil _ p h

end

theorem yields_value? (n : Nat) : Yields (value? n) := by
  induction n with
  | zero => exact yields_scalar?
  | succ n ih =>
    intro t p h
    rw [value?.eq_def] at h
    simp only at h
    split at h
    · obtain ⟨q, hq, rfl⟩ := Option.map_eq_some_iff.1 h
      exact .array (distinct_of_elements? ih _ _ q hq)
    · obtain ⟨q, hq, rfl⟩ := Option.map_eq_some_iff.1 h
      exact (distinct_of_inline? ih hq).inline
    · exact yields_scalar? _ p h

namespace Progress

variable {s s' : Progress}

theorem distinct_of_header {change : Text → Entries.Change} (hc : ∀ k, Entries.Keeps (change k))
    {path : List Text} (hs : s.root.Distinct) (h : s.header change path = some s') :
    s'.root.Distinct := by
  obtain ⟨k, -, h⟩ := Option.bind_eq_some_iff.1 h
  obtain ⟨root, hroot, rfl⟩ := Option.map_eq_some_iff.1 h
  exact Entries.keeps_within (hc k) .passed _ .header _ root hs hroot

theorem distinct_of_assign {key : List Text} {v : Value} (hv : v.Distinct)
    (hs : s.root.Distinct) (h : s.assign key v = some s') : s'.root.Distinct := by
  obtain ⟨root, hroot, rfl⟩ := Option.map_eq_some_iff.1 h
  exact Entries.keeps_within (Entries.keeps_assign hv key) .passed _ .header _ root hs hroot

theorem distinct_of_readHeader {change : Text → Entries.Change}
    (hc : ∀ k, Entries.Keeps (change k)) {closing t : Text} {p : Progress × Text}
    (hs : s.root.Distinct) (h : s.readHeader change closing t = some p) : p.1.root.Distinct := by
  simp only [readHeader, bind, Option.bind_eq_some_iff, pure, Option.some_inj] at h
  obtain ⟨k, -, u, -, r, -, s', hs', rfl⟩ := h
  exact distinct_of_header hc hs hs'

theorem distinct_of_readPair {t : Text} {p : Progress × Text} (hs : s.root.Distinct)
    (h : s.readPair t = some p) : p.1.root.Distinct := by
  simp only [readPair, bind, Option.bind_eq_some_iff, pure, Option.some_inj] at h
  obtain ⟨q, hq, r, -, s', hs', rfl⟩ := h
  exact distinct_of_assign (distinct_of_pair? (yields_value? maxDepth) hq) hs hs'

theorem distinct_of_readLine {t : Text} {p : Progress × Text} (hs : s.root.Distinct)
    (h : s.readLine t = some p) : p.1.root.Distinct := by
  rw [readLine.eq_def] at h
  split at h
  · exact distinct_of_readHeader Entries.keeps_openElement hs h
  · exact distinct_of_readHeader Entries.keeps_openTable hs h
  · obtain ⟨r, -, rfl⟩ := Option.map_eq_some_iff.1 h
    exact hs
  · obtain ⟨r, -, rfl⟩ := Option.map_eq_some_iff.1 h
    exact hs
  · obtain ⟨r, -, rfl⟩ := Option.map_eq_some_iff.1 h
    exact hs
  · exact distinct_of_readPair hs h

theorem distinct_of_readLines (n : Nat) (hs : s.root.Distinct) {t : Text}
    (h : readLines n s t = some s') : s'.root.Distinct := by
  induction n generalizing s t with
  | zero => cases h
  | succ n ih =>
    rw [readLines] at h
    split at h
    · cases h
      exact hs
    · obtain ⟨p, hp, h⟩ := Option.bind_eq_some_iff.1 h
      exact ih (distinct_of_readLine hs hp) h

end Progress

/-- No table of a document names an entry twice. -/
theorem distinct_of_document? {t : Text} {es : Entries} (h : document? t = some es) :
    es.Distinct := by
  obtain ⟨s, hs, rfl⟩ := Option.map_eq_some_iff.1 h
  exact Progress.distinct_of_readLines _ .nil hs

end FlowchartMerge.Toml
