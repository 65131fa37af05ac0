import FlowchartMerge.Proofs.Command.Output
import FlowchartMerge.Proofs.Document.Selection
import FlowchartMerge.Proofs.Number.Numeral

/-!
# The listing of blocks and the selectors

A listing has one row for each block of a document, with its number and its lines. A
flag that is given the number of a row, or a number in the row's span, selects the
block of the row, but for the line on which two blocks meet: it is the first one's.
-/

set_option autoImplicit false

namespace FlowchartMerge

namespace Arguments

variable {a : Arguments} {n : Nat}

theorem selector?_block (h : a.value? .block = some (Numeral.write n)) (hl : a.value? .line = none)
    (hn : n < Numeral.limit) : a.selector? = some (.index n) := by
  simp [selector?, h, hl, Numeral.read?_write hn]

theorem selector?_line (h : a.value? .line = some (Numeral.write n)) (hb : a.value? .block = none)
    (hn : n < Numeral.limit) : a.selector? = some (.line n) := by
  simp [selector?, h, hb, Numeral.read?_write hn]

end Arguments

/-- A listing has a row for each block: its number, its first and last line, and the first line
of its source. Numbers and lines select exactly the blocks that are listed with them, whatever
the old document is, and they are read as they are written. At most two blocks share a line, as
neighbours, and the first is chosen. -/
theorem selectors_of_listing (old new : Text) (hne : Block.ofDocument new ≠ []) :
    let bs := Block.ofDocument new
    let row (b : Block) : Text := Numeral.write b.index ++ "\tlines " ++
      Numeral.write b.startLine ++ "-" ++ Numeral.write b.endLine ++ "\t" ++
        Text.trim (b.source.takeWhile fun c => c != '\n') ++ "\n"
    (∀ n, (∃ v, (Selector.index n).choose old new = .ok v) ↔ ∃ b ∈ bs, b.index = n) ∧
    (∀ b ∈ bs, (Selector.index b.index).Means old new b) ∧
    (∀ n, (∃ v, (Selector.line n).choose old new = .ok v) ↔
      ∃ b ∈ bs, b.startLine ≤ n ∧ n ≤ b.endLine) ∧
    (∀ n, match Block.around bs n with
      | [] => (Selector.line n).choose old new = .error (.noBlockAtLine n)
      | [b] => (Selector.line n).Means old new b
      | [a, b] => b.index = a.index+1 ∧ a.endLine = n ∧ b.startLine = n ∧
          (Selector.line n).Means old new a
      | _ => False) ∧
    (∀ (sel : Selector) (v : Versions), sel.choose old new = .ok v → ∃ b, sel.Means old new b) ∧
    (∀ (w : World) (v : Verbosity) (file : Text), w.input file = .ok new →
      (Command.blocksPlan w v file).result? = some (none, bs.flatMap row)) ∧
    (∀ b ∈ bs, ∀ n, b.startLine ≤ n → n ≤ b.endLine →
      (¬∃ a ∈ bs, a.index+1 = b.index ∧ a.endLine = n ∧ b.startLine = n) →
      (Selector.line n).Means old new b) ∧
    ∀ (a : Arguments) (n : Nat), n < Numeral.limit →
      (a.value? .block = some (Numeral.write n) → a.value? .line = none →
        a.selector? = some (.index n)) ∧
      (a.value? .line = some (Numeral.write n) → a.value? .block = none →
        a.selector? = some (.line n)) := by
  intro bs row
  have hlisting : ∀ (w : World) (v : Verbosity) (file : Text), w.input file = .ok new →
      (Command.blocksPlan w v file).result? = some (none, bs.flatMap row) := by
    intro w v file h
    rw [Command.result?_blocksPlan h, List.flatMap_congr fun b _ => Command.blockRow_eq b]
  have hlines : ∀ n, match Block.around bs n with
      | [] => (Selector.line n).choose old new = .error (.noBlockAtLine n)
      | [b] => (Selector.line n).Means old new b
      | [a, b] => b.index = a.index+1 ∧ a.endLine = n ∧ b.startLine = n ∧
          (Selector.line n).Means old new a
      | _ => False := by
    intro n
    have hpair := (Block.listed_ofDocument new).pairwise_around n
    match h : Block.around bs n with
    | [] => exact Selector.choose_line_eq_error hne h
    | [b] => exact Selector.means_line old h
    | [a, b] =>
      rw [h] at hpair
      simp only [List.pairwise_cons, List.mem_singleton, forall_eq] at hpair
      exact ⟨hpair.1.1, hpair.1.2.1, hpair.1.2.2, Selector.means_line old h⟩
    | a::b::c::rest =>
      -- a third block would be a neighbour of both others
      rw [h] at hpair
      simp only [List.pairwise_cons, List.mem_cons, forall_eq_or_imp] at hpair
      omega
  have hspan : ∀ b ∈ bs, ∀ n, b.startLine ≤ n → n ≤ b.endLine →
      (¬∃ a ∈ bs, a.index+1 = b.index ∧ a.endLine = n ∧ b.startLine = n) →
      (Selector.line n).Means old new b := by
    intro b hb n hs he hshared
    apply Selector.means_line_of_not_shared old hb ((Block.containsLine_iff b n).2 ⟨hs, he⟩)
    exact fun a ha hab hend hstart => hshared ⟨a, ha, hab, hend, hstart⟩
  exact ⟨Selector.choose_index_iff hne, fun b hb => Selector.means_index old hb,
    fun n => Selector.choose_line_iff hne, hlines, fun sel v => Selector.exists_means hne,
    hlisting, hspan,
    fun a n hn => ⟨fun hb hl => Arguments.selector?_block hb hl hn,
      fun hl hb => Arguments.selector?_line hl hb hn⟩⟩

/-- Two blocks that meet on a line, the second of which is missing in the old document. -/
theorem selectors_of_listing_meet :
    let old : Text := "```mermaid\nC --> D\n```"
    let new : Text := "```mermaid\nA\n``` ```mermaid\nB  \r\nC\n```"
    let a : Block := ⟨0, 1, 3, "A"⟩
    let b : Block := ⟨1, 3, 6, "B  \r\nC"⟩
    let listing : Text := "0\tlines 1-3\tA\n1\tlines 3-6\tB\n"
    Block.ofDocument new ≠ [] ∧ Block.around (Block.ofDocument new) 3 = [a, b] ∧
      (Selector.line 3).Means old new a ∧ (Selector.index 1).Means old new b ∧
      (Selector.line 5).Means old new b ∧
      ∀ (w : World) (v : Verbosity) (file : Text), w.input file = .ok new →
        (Command.blocksPlan w v file).result? = some (none, listing) := by
  intro old new a b listing
  have hne : Block.ofDocument new ≠ [] := by decide +kernel
  have haround : Block.around (Block.ofDocument new) 3 = [a, b] := by decide +kernel
  have hb : b ∈ Block.ofDocument new := by decide +kernel
  obtain ⟨-, hindex, -, hlines, -, hlisting, hspan, -⟩ := selectors_of_listing old new hne
  have hline := hlines 3
  rw [haround] at hline
  have hinside : (Selector.line 5).Means old new b := by
    refine hspan b hb 5 (by decide) (by decide) ?_
    rintro ⟨_, -, -, -, hstart⟩
    cases hstart
  refine ⟨hne, haround, hline.2.2.2, hindex b hb, hinside, fun w v file h => ?_⟩
  rw [hlisting w v file h]
  decide +kernel

end FlowchartMerge
