import FlowchartMerge.Document.Selection
import FlowchartMerge.Proofs.Document.Extraction

/-!
# Which block a selector means

The blocks of a document are numbered by their places and their lines follow each
other, so that two blocks share at most the line on which one ends and the next
starts. A selector that is resolved in a document means one of its blocks, and the
same number is taken in the other document.
-/

set_option autoImplicit false

namespace FlowchartMerge

namespace Block

theorem containsLine_iff (b : Block) (n : Nat) :
    b.containsLine n = true ↔ b.startLine ≤ n ∧ n ≤ b.endLine := by
  simp [containsLine]

def around (bs : List Block) (n : Nat) : List Block := bs.filter fun b => b.containsLine n

theorem mem_around {bs : List Block} {b : Block} {n : Nat} :
    b ∈ around bs n ↔ b ∈ bs ∧ b.containsLine n = true := List.mem_filter

structure Listed (bs : List Block) : Prop where
  index : bs.map Block.index = List.range bs.length
  lines : ∀ b ∈ bs, b.startLine < b.endLine
  ordered : bs.Pairwise fun a b => a.endLine ≤ b.startLine

theorem listed_ofDocument (document : Text) : Listed (ofDocument document) := by
  have hcuts := Fence.cuts_ofDocument document
  have hshows := shows_ofFences hcuts [] 0
  constructor
  · rw [List.range_eq_range']
    exact map_index_ofFences 0 1 _
  · intro b hb
    exact (lines_of_shows hshows (hcuts.segments []) b hb).2
  · exact pairwise_of_shows hshows (Segment.pairwise_ofFences 0 _)

namespace Listed

variable {bs : List Block} {a b : Block} {n : Nat}

theorem index_getElem (h : Listed bs) (i : Nat) (hi : i < bs.length) : bs[i].index = i := by
  have hmap : (bs.map Block.index)[i]? = some i := by
    rw [h.index, List.getElem?_range hi]
  simpa [hi] using hmap

theorem getElem?_index (h : Listed bs) (hb : b ∈ bs) : bs[b.index]? = some b := by
  obtain ⟨i, hi, rfl⟩ := List.mem_iff_getElem.1 hb
  rw [h.index_getElem i hi]
  exact List.getElem?_eq_getElem hi

theorem mem_index_iff (h : Listed bs) (i : Nat) : (∃ b ∈ bs, b.index = i) ↔ i < bs.length := by
  rw [← List.mem_range, ← h.index, List.mem_map]

theorem endLine_le (h : Listed bs) (ha : a ∈ bs) (hb : b ∈ bs) (hab : a.index < b.index) :
    a.endLine ≤ b.startLine := by
  obtain ⟨i, hi, rfl⟩ := List.mem_iff_getElem.1 ha
  obtain ⟨j, hj, rfl⟩ := List.mem_iff_getElem.1 hb
  rw [h.index_getElem i hi, h.index_getElem j hj] at hab
  exact List.pairwise_iff_getElem.1 h.ordered i j hi hj hab

/-- Two blocks with a common line are neighbours, and it is the line between them. -/
theorem shared (h : Listed bs) (ha : a ∈ bs) (hb : b ∈ bs) (hab : a.index < b.index)
    (hna : a.containsLine n = true) (hnb : b.containsLine n = true) :
    b.index = a.index+1 ∧ a.endLine = n ∧ b.startLine = n := by
  rw [containsLine_iff] at hna hnb
  have hle := h.endLine_le ha hb hab
  have hnext : b.index = a.index+1 := by
    by_contra hne
    have hlen : b.index < bs.length := (h.mem_index_iff _).1 ⟨b, hb, rfl⟩
    obtain ⟨c, hc, hci⟩ := (h.mem_index_iff (a.index+1)).2 (by omega)
    have hac := h.endLine_le ha hc (by omega)
    have hcb := h.endLine_le hc hb (by omega)
    have hcc := h.lines c hc
    omega
  exact ⟨hnext, by omega, by omega⟩

/-- The blocks around a line are neighbours on both sides of it. -/
theorem pairwise_around (h : Listed bs) (n : Nat) : (around bs n).Pairwise fun a b =>
    b.index = a.index+1 ∧ a.endLine = n ∧ b.startLine = n := by
  have hindex : bs.Pairwise fun a b => a.index < b.index := by
    rw [← List.pairwise_map (f := Block.index) (R := fun i j => i < j), h.index]
    exact List.pairwise_lt_range
  apply (hindex.filter _).imp_of_mem
  intro a b ha hb hab
  obtain ⟨ha, hna⟩ := mem_around.1 ha
  obtain ⟨hb, hnb⟩ := mem_around.1 hb
  exact h.shared ha hb hab hna hnb

theorem findIdx?_eq (h : Listed bs) (p : Block → Bool) :
    bs.findIdx? p = (bs.find? p).map Block.index := by
  cases hf : bs.find? p with
  | none =>
    rw [List.find?_eq_none] at hf
    rw [Option.map_none, List.findIdx?_eq_none_iff]
    intro b hb
    exact Bool.eq_false_iff.2 (hf b hb)
  | some b =>
    obtain ⟨hp, i, hi, rfl, hbefore⟩ := List.find?_eq_some_iff_getElem.1 hf
    rw [Option.map_some, h.index_getElem i hi, List.findIdx?_eq_some_iff_getElem]
    exact ⟨hi, hp, fun j hj => by simpa using hbefore j hj⟩

end Listed

end Block

namespace Selector

structure Means (sel : Selector) (old new : Text) (b : Block) : Prop where
  listed : b ∈ Block.ofDocument new
  resolved : sel.resolve (Block.ofDocument new) = .ok b.index
  chosen : sel.choose old new =
    .ok ⟨((Block.ofDocument old)[b.index]?.map Block.source).getD [], b.source⟩

section

variable {old new : Text} {sel : Selector}

/-- A new document with a block decides about the number, whatever the old one is. -/
theorem choose_eq (hne : Block.ofDocument new ≠ []) (old : Text) (sel : Selector) :
    sel.choose old new = (sel.resolve (Block.ofDocument new)).map fun i =>
      ⟨sourceAt (Block.ofDocument old) i, sourceAt (Block.ofDocument new) i⟩ := by
  have hnew : (Block.ofDocument new).isEmpty = false := List.isEmpty_eq_false_iff.2 hne
  simp [choose, chooseBlocks, reference, hnew]

theorem means_of_resolve (old : Text) {b : Block} (hb : b ∈ Block.ofDocument new)
    (hr : sel.resolve (Block.ofDocument new) = .ok b.index) : sel.Means old new b := by
  have hget := (Block.listed_ofDocument new).getElem?_index hb
  have hsource : sourceAt (Block.ofDocument new) b.index = b.source := by
    rw [sourceAt, hget]
    rfl
  refine ⟨hb, hr, ?_⟩
  rw [choose_eq (List.ne_nil_of_mem hb), hr, ← hsource]
  rfl

end

theorem resolve_lt {bs : List Block} (hne : bs ≠ []) {sel : Selector} {i : Nat}
    (hr : sel.resolve bs = .ok i) : i < bs.length := by
  cases sel with
  | first =>
    cases hr
    exact List.length_pos_of_ne_nil hne
  | index j =>
    by_cases hj : j < bs.length
    · rw [resolve, if_pos hj] at hr
      cases hr
      exact hj
    · rw [resolve, if_neg hj] at hr
      cases hr
  | line n =>
    rw [resolve] at hr
    cases hf : bs.findIdx? fun b => b.containsLine n with
    | none =>
      rw [hf] at hr
      cases hr
    | some j =>
      rw [hf] at hr
      cases hr
      exact (List.findIdx?_eq_some_iff_getElem.1 hf).1

/-- A selector that is resolved means a block. -/
theorem exists_means {old new : Text} (hne : Block.ofDocument new ≠ []) {sel : Selector}
    {v : Versions} (h : sel.choose old new = .ok v) : ∃ b, sel.Means old new b := by
  cases hr : sel.resolve (Block.ofDocument new) with
  | error e =>
    rw [choose_eq hne, hr] at h
    cases h
  | ok i =>
    have hlt := resolve_lt hne hr
    obtain ⟨b, hb, rfl⟩ := ((Block.listed_ofDocument new).mem_index_iff i).2 hlt
    exact ⟨b, means_of_resolve old hb hr⟩

theorem means_index (old : Text) {new : Text} {b : Block} (hb : b ∈ Block.ofDocument new) :
    (Selector.index b.index).Means old new b := by
  have hlt := ((Block.listed_ofDocument new).mem_index_iff b.index).1 ⟨b, hb, rfl⟩
  exact means_of_resolve old hb (if_pos hlt)

theorem choose_index_iff {old new : Text} (hne : Block.ofDocument new ≠ []) (n : Nat) :
    (∃ v, (Selector.index n).choose old new = .ok v) ↔ ∃ b ∈ Block.ofDocument new, b.index = n := by
  constructor
  · rintro ⟨v, hv⟩
    obtain ⟨b, hb⟩ := exists_means hne hv
    have hr := hb.resolved
    rw [resolve] at hr
    split at hr <;> cases hr
    exact ⟨b, hb.listed, rfl⟩
  · rintro ⟨b, hb, rfl⟩
    exact ⟨_, (means_index old hb).chosen⟩

/-- The selector of a line means the first block around it. -/
theorem resolve_line {bs : List Block} (h : Block.Listed bs) (n : Nat) :
    (Selector.line n).resolve bs = match Block.around bs n with
      | [] => .error (.noBlockAtLine n)
      | b::_ => .ok b.index := by
  rw [resolve, h.findIdx?_eq, ← List.head?_filter, Block.around]
  cases bs.filter fun b => b.containsLine n <;> rfl

section

variable {old new : Text} {n : Nat}

theorem means_line (old : Text) {b : Block} {rest : List Block}
    (h : Block.around (Block.ofDocument new) n = b::rest) : (Selector.line n).Means old new b := by
  have hb : b ∈ Block.around (Block.ofDocument new) n := by simp [h]
  apply means_of_resolve old (Block.mem_around.1 hb).1
  rw [resolve_line (Block.listed_ofDocument new), h]

theorem choose_line_eq_error (hne : Block.ofDocument new ≠ [])
    (h : Block.around (Block.ofDocument new) n = []) :
    (Selector.line n).choose old new = .error (.noBlockAtLine n) := by
  rw [choose_eq hne, resolve_line (Block.listed_ofDocument new), h]
  rfl

theorem choose_line_iff (hne : Block.ofDocument new ≠ []) :
    (∃ v, (Selector.line n).choose old new = .ok v) ↔
      ∃ b ∈ Block.ofDocument new, b.startLine ≤ n ∧ n ≤ b.endLine := by
  simp only [← Block.containsLine_iff, ← Block.mem_around]
  cases h : Block.around (Block.ofDocument new) n with
  | nil => simp [choose_line_eq_error hne h]
  | cons b rest => exact iff_of_true ⟨_, (means_line old h).chosen⟩ ⟨b, List.mem_cons_self⟩

/-- Of the two blocks that a line may belong to, its selector means the first. -/
theorem means_line_of_not_shared (old : Text) {b : Block} (hb : b ∈ Block.ofDocument new)
    (hn : b.containsLine n = true)
    (hfirst : ∀ a ∈ Block.ofDocument new, a.index+1 = b.index → a.endLine = n → b.startLine ≠ n) :
    (Selector.line n).Means old new b := by
  have hpair := (Block.listed_ofDocument new).pairwise_around n
  have hmem := Block.mem_around.2 ⟨hb, hn⟩
  cases h : Block.around (Block.ofDocument new) n with
  | nil => simp [h] at hmem
  | cons a rest =>
    rw [h] at hmem hpair
    rcases List.mem_cons.1 hmem with rfl | hrest
    · exact means_line old h
    · obtain ⟨hindex, hend, hstart⟩ := (List.pairwise_cons.1 hpair).1 b hrest
      have ha : a ∈ Block.around (Block.ofDocument new) n := by simp [h]
      exact absurd hstart (hfirst a (Block.mem_around.1 ha).1 hindex.symm hend)

end

end Selector

end FlowchartMerge
