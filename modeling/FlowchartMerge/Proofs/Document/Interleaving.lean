import FlowchartMerge.Proofs.Document.Embedding

/-!
# Diagrams and prose by turns

A document that is put together from prose and fenced diagram texts, by turns, is cut
into these texts again. Each search stops at the closing fence of its own text, and
what it leaves starts with the line feed after that fence, so the prose that follows is
searched like the prose before.
-/

set_option autoImplicit false

namespace FlowchartMerge

def interleave (before : Text) (parts : List (Text × Text)) : Text :=
  before++parts.flatMap fun p => embed "" p.1 p.2

theorem interleave_cons (before source after : Text) (parts : List (Text × Text)) :
    interleave before ((source, after)::parts) = embed before source (interleave after parts) := by
  simp [interleave, embed]

/-- The line feed after a closing fence goes to the prose that follows. -/
theorem break_interleave (before : Text) (parts : List (Text × Text)) :
    '\n' :: interleave before parts = interleave ('\n'::before) parts := rfl

theorem count_interleave_cons (before : Text) (p : Text × Text) (ps : List (Text × Text)) :
    (interleave before (p::ps)).count '\n' =
      before.count '\n'+3+p.1.count '\n'+(interleave ('\n'::p.2) ps).count '\n' := by
  simp [interleave, embed]
  omega

theorem interleave_take_prefix (before : Text) (parts : List (Text × Text)) {i : Nat}
    (hi : i < parts.length) :
    (interleave before (parts.take i) ++ "\n" : Text) <+: interleave before parts := by
  rw [interleave, interleave, List.append_assoc, List.prefix_append_right_inj]
  nth_rewrite 2 [← List.take_append_drop i parts]
  rw [List.flatMap_append, List.prefix_append_right_inj, List.drop_eq_getElem_cons hi,
    List.flatMap_cons]
  exact ⟨_, rfl⟩

namespace Fence

theorem NoOpening.cons {c : Char} (hc : c ≠ '`') {t : Text} (h : NoOpening t) :
    NoOpening (c::t) := by
  intro o ho hin
  rcases List.infix_cons_iff.1 hin with hpre | hin
  · obtain ⟨pad, eol, rfl, -⟩ := ho
    have hhead : '`' = c := (List.cons_prefix_cons.1 hpre).1
    exact hc hhead.symm
  · exact h o ho hin

theorem NoOpening.of_concat {t : Text} {c : Char} (h : NoOpening (t++[c])) : NoOpening t := by
  intro o ho hin
  exact h o ho (hin.trans (List.prefix_append t [c]).isInfix)

theorem NoOpening.next?_eq_none {t : Text} (h : NoOpening t) : next? t = none := by
  cases hn : next? t with
  | none => rfl
  | some p =>
    have hfound := found_of_next? hn
    have hin : p.1.opening <:+: t := by
      rw [hfound.eq]
      exact ⟨p.1.lead, p.1.body++closing++p.2, by simp only [List.append_assoc]⟩
    exact absurd hin (h _ hfound.opening)

def interleaved (before : Text) : List (Text × Text) → List Fence
  | [] => []
  | p::ps => ⟨before++['\n'], word++['\n'], p.1++['\n']⟩ :: interleaved ('\n'::p.2) ps

theorem ofDocument_interleave (before : Text) (parts : List (Text × Text))
    (hb : NoOpening (before++['\n']))
    (hp : ∀ p ∈ parts, ¬closing <:+: p.1 ∧ NoOpening (p.2++['\n'])) :
    ofDocument (interleave before parts) = interleaved before parts := by
  induction parts generalizing before with
  | nil =>
    apply ofDocument_eq_nil
    apply NoOpening.next?_eq_none
    simpa [interleave] using hb.of_concat
  | cons p ps ih =>
    obtain ⟨hsource, hafter⟩ := hp p List.mem_cons_self
    have hnext := next?_embed hb hsource (interleave p.2 ps)
    rw [← interleave_cons, break_interleave] at hnext
    have hlead : NoOpening (('\n'::p.2)++['\n']) := hafter.cons (by decide)
    rw [ofDocument_of_next? hnext, interleaved]
    rw [ih _ hlead fun q hq => hp q (List.mem_cons_of_mem p hq)]

end Fence

namespace Block

/-- The line feeds before an opening fence are those of the texts before it. -/
theorem ofFences_interleaved (index line : Nat) (before : Text) (parts : List (Text × Text)) :
    ofFences index line (Fence.interleaved before parts) = parts.mapIdx fun i p =>
      fenced (index+i) (line+(interleave before (parts.take i) ++ "\n").count '\n') p.1 := by
  induction parts generalizing index line before with
  | nil => rfl
  | cons p ps ih =>
    rw [Fence.interleaved, ofFences_fenced, ih, List.mapIdx_cons]
    congr 1
    · simp [interleave]
    · apply List.mapIdx_eq_mapIdx_iff.2
      intro i _
      have hopens := count_interleave_cons before p (ps.take i)
      rw [List.take_succ_cons]
      congr 1
      · omega
      · simp only [List.count_append, List.count_singleton_self, hopens]
        omega

end Block

/-- Diagram texts without a closing fence, between prose without an opening fence, are the
blocks of their document, in their order and on the lines from fence to fence. -/
theorem blocks_interleave (before : Text) (parts : List (Text × Text))
    (hb : Fence.NoOpening (before ++ "\n"))
    (hp : ∀ p ∈ parts, ¬Fence.closing <:+: p.1 ∧ Fence.NoOpening (p.2 ++ "\n")) :
    let document := interleave before parts
    let startLine (i : Nat) := lineAt document (interleave before (parts.take i) ++ "\n").length
    Block.ofDocument document = parts.mapIdx fun i p =>
      ⟨i, startLine i, startLine i+2+p.1.count '\n', Text.trim p.1⟩ := by
  intro document startLine
  have hstart : ∀ i < parts.length,
      1+(interleave before (parts.take i) ++ "\n").count '\n' = startLine i := by
    intro i hi
    obtain ⟨rest, hrest⟩ := interleave_take_prefix before parts hi
    have hline : startLine i = lineAt document _ := rfl
    rw [hline, show document = _ from hrest.symm, lineAt_append]
  rw [Block.ofDocument, Fence.ofDocument_interleave before parts hb hp, Block.ofFences_interleaved]
  apply List.mapIdx_eq_mapIdx_iff.2
  intro i hi
  rw [hstart i hi, Nat.zero_add]
  rfl

/-- Another fence and a line that only starts like an opening one in the prose, a stray
backtick, an empty text, and a fence that nothing closes at the end. -/
theorem blocks_interleave_three :
    let before : Text := "# T\n```rust\nlet a;\n```\n```mermaid x"
    let parts : List (Text × Text) :=
      [("graph LR\n  A --> B\n", "`"), ("", "``` \n\ntext"), ("``\nC", "```\nlast")]
    Fence.NoOpening (before ++ "\n") ∧
      (∀ p ∈ parts, ¬Fence.closing <:+: p.1 ∧ Fence.NoOpening (p.2 ++ "\n")) ∧
      Block.ofDocument (interleave before parts) =
        [⟨0, 6, 10, "graph LR\n  A --> B"⟩, ⟨1, 12, 14, ""⟩, ⟨2, 18, 21, "``\nC"⟩] := by
  intro before parts
  have hb : Fence.NoOpening (before ++ "\n") := by decide +kernel
  have hp : ∀ p ∈ parts, ¬Fence.closing <:+: p.1 ∧ Fence.NoOpening (p.2 ++ "\n") := by
    decide +kernel
  exact ⟨hb, hp, (blocks_interleave before parts hb hp).trans (by decide +kernel)⟩

end FlowchartMerge
