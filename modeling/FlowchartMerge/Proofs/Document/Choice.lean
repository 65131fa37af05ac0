import FlowchartMerge.Proofs.Document.Selection
import FlowchartMerge.Proofs.Fallible

/-!
# What a selector chooses

A selector is resolved in one list of blocks, those of the new document or, if it has
none, those of the old one. It picks a place in that list or is refused for a reason that
names the list's own length or the line, and the other document has no say in it: it
contributes whatever block it has at the same place.
-/

set_option autoImplicit false

namespace FlowchartMerge

theorem Block.startLine_pos {document : Text} {b : Block} (hb : b ∈ ofDocument document) :
    0 < b.startLine := by
  have hcuts := Fence.cuts_ofDocument document
  exact (lines_of_shows (shows_ofFences hcuts [] 0) (hcuts.segments []) b hb).1

namespace Selector

/-- The place of the block that a selector picks among some blocks. -/
inductive Picks (bs : List Block) : Selector → Nat → Prop
  | first (hne : bs ≠ []) : Picks bs .first 0
  | index {i : Nat} (hi : i < bs.length) : Picks bs (.index i) i
  | line {n i : Nat} (hi : i < bs.length) (hn : bs[i].startLine ≤ n ∧ n ≤ bs[i].endLine)
      (hfirst : ∀ j (hj : j < i), ¬(bs[j].startLine ≤ n ∧ n ≤ bs[j].endLine)) :
      Picks bs (.line n) i

inductive Refused (bs : List Block) : Selector → SelectionError → Prop
  | noBlock {sel : Selector} (h : bs = []) : Refused bs sel .noBlock
  | index {i : Nat} (hne : bs ≠ []) (hi : bs.length ≤ i) :
      Refused bs (.index i) (.indexOutOfRange i bs.length)
  | line {n : Nat} (hne : bs ≠ []) (hn : ∀ b ∈ bs, ¬(b.startLine ≤ n ∧ n ≤ b.endLine)) :
      Refused bs (.line n) (.noBlockAtLine n)

section

variable {bs : List Block} {sel : Selector} {i : Nat} {e : SelectionError}

theorem Picks.lt (h : Picks bs sel i) : i < bs.length := by
  cases h with
  | first hne => exact List.length_pos_of_ne_nil hne
  | index hi => exact hi
  | line hi hn hfirst => exact hi

theorem findIdx?_containsLine_eq_some_iff {n : Nat} :
    (bs.findIdx? fun b => b.containsLine n) = some i ↔ Picks bs (.line n) i := by
  simp only [List.findIdx?_eq_some_iff_getElem, Block.containsLine_iff]
  constructor
  · rintro ⟨hi, hn, hfirst⟩
    exact .line hi hn hfirst
  · intro h
    cases h with
    | line hi hn hfirst => exact ⟨hi, hn, hfirst⟩

theorem findIdx?_containsLine_eq_none_iff {n : Nat} :
    (bs.findIdx? fun b => b.containsLine n) = none ↔
      ∀ b ∈ bs, ¬(b.startLine ≤ n ∧ n ≤ b.endLine) := by
  simp only [List.findIdx?_eq_none_iff, ← Bool.not_eq_true, Block.containsLine_iff]

theorem resolve_eq_ok_iff (hne : bs ≠ []) : sel.resolve bs = .ok i ↔ Picks bs sel i := by
  constructor
  · intro h
    cases sel with
    | first =>
      cases h
      exact .first hne
    | index j =>
      rw [resolve] at h
      split at h <;> cases h
      exact .index ‹_›
    | line n =>
      rw [resolve] at h
      split at h <;> cases h
      exact findIdx?_containsLine_eq_some_iff.1 ‹_›
  · intro h
    cases h with
    | first hne => rfl
    | index hi => exact if_pos hi
    | line hi hn hfirst => rw [resolve, findIdx?_containsLine_eq_some_iff.2 (.line hi hn hfirst)]

theorem resolve_eq_error_iff (hne : bs ≠ []) : sel.resolve bs = .error e ↔ Refused bs sel e := by
  constructor
  · intro h
    cases sel with
    | first => cases h
    | index j =>
      rw [resolve] at h
      split at h <;> cases h
      exact .index hne (Nat.le_of_not_lt ‹_›)
    | line n =>
      rw [resolve] at h
      split at h <;> cases h
      exact .line hne (findIdx?_containsLine_eq_none_iff.1 ‹_›)
  · intro h
    cases h with
    | noBlock h => exact absurd h hne
    | index _ hi => exact if_neg (Nat.not_lt.2 hi)
    | line _ hn => rw [resolve, findIdx?_containsLine_eq_none_iff.2 hn]

end

def pairAt (old new : Text) (i : Nat) : Versions where
  old := ((Block.ofDocument old)[i]?.map Block.source).getD []
  new := ((Block.ofDocument new)[i]?.map Block.source).getD []

def consulted (old new : Text) : List Block :=
  if Block.ofDocument new = [] then Block.ofDocument old else Block.ofDocument new

section

variable {old new : Text} {sel : Selector}

theorem consulted_eq_nil_iff :
    consulted old new = [] ↔ Block.ofDocument old = [] ∧ Block.ofDocument new = [] := by
  unfold consulted
  by_cases hn : Block.ofDocument new = []
  · simp [hn]
  · simp [hn]

theorem consulted_of_ne_nil (hn : Block.ofDocument new ≠ []) (old : Text) :
    consulted old new = Block.ofDocument new := if_neg hn

theorem choose_of_consulted_eq_nil (h : consulted old new = []) :
    sel.choose old new = .error .noBlock := by
  obtain ⟨ho, hn⟩ := consulted_eq_nil_iff.1 h
  simp [choose, chooseBlocks, ho, hn]

theorem choose_of_consulted_ne_nil (h : consulted old new ≠ []) :
    sel.choose old new = (sel.resolve (consulted old new)).map (pairAt old new) := by
  by_cases hn : Block.ofDocument new = []
  · have href : reference (Block.ofDocument old) (Block.ofDocument new) = consulted old new := by
      rw [reference, consulted, hn]
      rfl
    have ho : (Block.ofDocument old).isEmpty = false := by
      rw [List.isEmpty_eq_false_iff]
      exact fun ho => h (consulted_eq_nil_iff.2 ⟨ho, hn⟩)
    rw [choose, chooseBlocks, href, ho]
    rfl
  · rw [consulted_of_ne_nil hn]
    exact choose_eq hn old sel

theorem choose_eq_ok_iff {v : Versions} :
    sel.choose old new = .ok v ↔ ∃ i, Picks (consulted old new) sel i ∧ v = pairAt old new i := by
  by_cases h : consulted old new = []
  · rw [choose_of_consulted_eq_nil h]
    constructor
    · intro hv
      cases hv
    · rintro ⟨i, hi, -⟩
      have hlt := hi.lt
      rw [h] at hlt
      exact absurd hlt (Nat.not_lt_zero i)
  · rw [choose_of_consulted_ne_nil h, map_eq_ok_iff]
    simp only [resolve_eq_ok_iff h, eq_comm]

theorem choose_eq_error_iff {e : SelectionError} :
    sel.choose old new = .error e ↔ Refused (consulted old new) sel e := by
  by_cases h : consulted old new = []
  · rw [choose_of_consulted_eq_nil h]
    constructor
    · intro he
      cases he
      exact .noBlock h
    · intro he
      cases he with
      | noBlock _ => rfl
      | index hne _ => exact absurd h hne
      | line hne _ => exact absurd h hne
  · rw [choose_of_consulted_ne_nil h, map_eq_error_iff]
    exact resolve_eq_error_iff h

theorem exists_block_at {document : Text} {i : Nat} (h : i < (Block.ofDocument document).length) :
    ∃ b ∈ Block.ofDocument document, b.index = i ∧
      sourceAt (Block.ofDocument document) i = b.source := by
  obtain ⟨b, hb, rfl⟩ := ((Block.listed_ofDocument document).mem_index_iff i).2 h
  refine ⟨b, hb, rfl, ?_⟩
  rw [sourceAt, (Block.listed_ofDocument document).getElem?_index hb]
  rfl

theorem exists_block_of_picks {i : Nat} (h : Picks (consulted old new) sel i) :
    ∃ b ∈ consulted old new, b.index = i ∧
      (if Block.ofDocument new = [] then (pairAt old new i).old else (pairAt old new i).new) =
        b.source := by
  by_cases hn : Block.ofDocument new = []
  · have hc : consulted old new = Block.ofDocument old := if_pos hn
    rw [if_pos hn, hc]
    exact exists_block_at (hc ▸ h.lt)
  · rw [if_neg hn, consulted_of_ne_nil hn]
    exact exists_block_at (consulted_of_ne_nil hn old ▸ h.lt)

theorem startLine_pos_of_mem_consulted {b : Block} (hb : b ∈ consulted old new) :
    0 < b.startLine := by
  unfold consulted at hb
  split at hb
  · exact Block.startLine_pos hb
  · exact Block.startLine_pos hb

end

/-- What a selector chooses is determined by the blocks that are consulted: it is the pair of
sources at the place that it picks there, one of which is that block's, or the reason why it
is refused there. Line zero is always refused. Once the new document has a block, the place
or the reason is the same whatever the old document is. -/
theorem choice_determined (old new : Text) (sel : Selector) :
    let oldBlocks := Block.ofDocument old
    let newBlocks := Block.ofDocument new
    let bs := if newBlocks = [] then oldBlocks else newBlocks
    (sel.choose old new = .error .noBlock ↔ oldBlocks = [] ∧ newBlocks = []) ∧
    (∀ v, sel.choose old new = .ok v ↔ ∃ i, Picks bs sel i ∧ v = pairAt old new i) ∧
    (∀ e, sel.choose old new = .error e ↔ Refused bs sel e) ∧
    (∀ i, Picks bs sel i → ∃ b ∈ bs, b.index = i ∧
      (if newBlocks = [] then (pairAt old new i).old else (pairAt old new i).new) = b.source) ∧
    (bs ≠ [] → (Selector.line 0).choose old new = .error (.noBlockAtLine 0)) ∧
    (newBlocks ≠ [] → ∃ place : Except SelectionError Nat,
      ∀ old', sel.choose old' new = place.map (pairAt old' new)) := by
  intro oldBlocks newBlocks bs
  refine ⟨?_, fun v => choose_eq_ok_iff, fun e => choose_eq_error_iff,
    fun i => exists_block_of_picks, ?_, ?_⟩
  · constructor
    · intro h
      cases choose_eq_error_iff.1 h with
      | noBlock h => exact consulted_eq_nil_iff.1 h
    · intro h
      exact choose_of_consulted_eq_nil (consulted_eq_nil_iff.2 h)
  · intro hne
    apply choose_eq_error_iff.2
    refine .line hne fun b hb hn => ?_
    exact Nat.not_le.2 (startLine_pos_of_mem_consulted hb) hn.1
  · intro hn
    refine ⟨sel.resolve newBlocks, fun old' => ?_⟩
    exact choose_eq hn old' sel

example : (Selector.index 1).choose "```mermaid\nA\n```\n```mermaid\nB\n```" "```mermaid\nC\n```" =
    .error (.indexOutOfRange 1 1) := by decide +kernel

end Selector

end FlowchartMerge
