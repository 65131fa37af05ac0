import Mathlib.Data.List.Infix
import FlowchartMerge.Proofs.Command.Output
import FlowchartMerge.Proofs.Document.Returns
import FlowchartMerge.Proofs.Document.Selection

/-!
# A diagram between prose

A diagram text that is put between two fences, after prose without an opening fence,
is the first block of the document, whatever other fences the prose holds and whatever
follows. So comparing two such documents is comparing the two texts.
-/

set_option autoImplicit false

namespace FlowchartMerge

namespace Fence

def NoOpening (t : Text) : Prop := ∀ o : Text, IsOpening o → ¬o <:+: t

theorem noOpening_iff (t : Text) : NoOpening t ↔ ∀ u ∈ t.tails, opening? u = none := by
  constructor
  · intro h u hu
    cases ho : opening? u with
    | none => rfl
    | some p =>
      obtain ⟨heq, hopen⟩ := (opening?_eq_some_iff u p).1 ho
      have hpre : p.1 <+: u := ⟨p.2, heq.symm⟩
      exact absurd (hpre.isInfix.trans ((List.mem_tails u t).1 hu).isInfix) (h p.1 hopen)
  · intro h o ho hin
    obtain ⟨u, ⟨rest, hrest⟩, hsuffix⟩ := List.infix_iff_prefix_suffix.1 hin
    have hsome := (opening?_eq_some_iff u (o, rest)).2 ⟨hrest.symm, ho⟩
    rw [h u ((List.mem_tails u t).2 hsuffix)] at hsome
    cases hsome

instance (t : Text) : Decidable (NoOpening t) := decidable_of_iff _ (noOpening_iff t).symm

/-- An opening fence is one line. -/
theorem IsOpening.line {o : Text} (h : IsOpening o) : ∃ l : Text, o = l++['\n'] ∧ '\n' ∉ l := by
  obtain ⟨pad, eol, rfl, hpad, heol⟩ := h
  have hword : '\n' ∉ word++pad := by
    intro hm
    rcases List.mem_append.1 hm with hm | hm
    · exact absurd hm (by decide)
    · exact absurd (hpad _ hm) (by decide)
  rcases heol with rfl | rfl
  · exact ⟨word++pad, rfl, hword⟩
  · refine ⟨word++pad++['\r'], by simp, ?_⟩
    simpa using hword

/-- An opening fence that starts in a line of the prose would end in it. -/
theorem NoOpening.not_prefix {a rest o : Text} (h : NoOpening (a++['\n'])) (ho : IsOpening o) :
    ¬o <+: a ++ '\n' :: rest := by
  intro hpre
  obtain ⟨l, rfl, hl⟩ := ho.line
  have ha : a++['\n'] <+: a ++ '\n' :: rest := ⟨rest, by simp⟩
  rcases List.prefix_or_prefix_of_prefix hpre ha with hp | hp
  · exact h _ ho hp.isInfix
  · rcases List.prefix_concat_iff.1 hp with heq | hp
    · exact h _ ho (heq ▸ List.infix_rfl)
    · exact hl (hp.subset (by simp))

theorem NoOpening.drop {t : Text} (h : NoOpening t) (k : Nat) : NoOpening (t.drop k) :=
  fun o ho hin => h o ho (hin.trans (List.drop_suffix k t).isInfix)

theorem cutAt_closing {source rest : Text} (h : ¬closing <:+: source) :
    Text.CutAt closing (source++['\n']++closing++rest) (source++['\n']) rest where
  eq := rfl
  first := by
    intro a b heq
    by_contra hlt
    have hle : a.length ≤ source.length := by simp at hlt; omega
    have hdrop := congrArg (List.drop a.length) heq
    simp only [List.append_assoc, List.drop_left, List.drop_append_of_le_length hle] at hdrop
    have hpre : closing <+: source.drop a.length ++ '\n' :: (closing++rest) := ⟨b, hdrop.symm⟩
    have hin := (Text.prefix_append_cons (by decide) hpre).isInfix
    exact h (hin.trans (List.drop_suffix _ _).isInfix)

/-- A text between fences is found after prose without an opening fence. -/
theorem found_fenced {before source rest : Text} (hb : NoOpening (before++['\n']))
    (hs : ¬closing <:+: source) :
    Found (before ++ '\n' :: (word ++ '\n' :: (source++['\n']++closing++rest)))
      ⟨before++['\n'], word++['\n'], source++['\n']⟩ rest where
  eq := by simp
  opening := ⟨[], ['\n'], by simp, by simp, Or.inl rfl⟩
  first := cutAt_closing hs
  lead := by
    intro k hk o r ho heq
    have hle : k ≤ before.length := by simp at hk; omega
    rw [List.drop_append_of_le_length hle] at heq
    have hno : NoOpening (before.drop k++['\n']) := by
      rw [← List.drop_append_of_le_length hle]
      exact hb.drop k
    exact absurd ⟨r, heq.symm⟩ (hno.not_prefix ho)

end Fence

namespace Block

def fenced (index startLine : Nat) (source : Text) : Block :=
  ⟨index, startLine, startLine+2+source.count '\n', Text.trim source⟩

theorem ofFences_fenced (index line : Nat) (lead source : Text) (fs : List Fence) :
    ofFences index line (⟨lead, Fence.word++['\n'], source++['\n']⟩::fs) =
      fenced index (line+lead.count '\n') source ::
        ofFences (index+1) (line+lead.count '\n'+2+source.count '\n') fs := by
  have htrim : Text.trim (source++['\n']) = Text.trim source := Text.strip_append _ _ _ (by decide)
  have hopening : (Fence.word++['\n']).count '\n' = 1 := by decide
  have hbody : (source++['\n']).count '\n' = source.count '\n'+1 := by simp
  have hend : line+lead.count '\n'+1+(source.count '\n'+1) =
      line+lead.count '\n'+2+source.count '\n' := by omega
  rw [ofFences, hopening, hbody, htrim, hend, fenced]

end Block

def embed (before source after : Text) : Text :=
  before ++ "\n```mermaid\n" ++ source ++ "\n```\n" ++ after

section

variable {before source : Text}

theorem embed_eq (before source after : Text) : embed before source after =
    before ++ '\n' :: (Fence.word ++ '\n' :: (source++['\n']++Fence.closing ++ '\n' :: after)) := by
  have hopen : ("\n```mermaid\n" : Text) = '\n' :: (Fence.word++['\n']) := by decide
  have hclose : ("\n```\n" : Text) = '\n' :: (Fence.closing++['\n']) := by decide
  rw [embed, hopen, hclose]
  simp

theorem lineAt_opening (before source after : Text) :
    lineAt (embed before source after) (before ++ "\n").length = 2+before.count '\n' := by
  have h : embed before source after =
      (before ++ "\n") ++ ("```mermaid\n" ++ source ++ "\n```\n" ++ after) := by
    simp [embed]
  rw [h, lineAt_append]
  simp
  omega

theorem lineAt_closing (before source after : Text) :
    lineAt (embed before source after) (before ++ "\n```mermaid\n" ++ source ++ "\n").length =
      4+before.count '\n'+source.count '\n' := by
  have h : embed before source after =
      (before ++ "\n```mermaid\n" ++ source ++ "\n") ++ ("```\n" ++ after) := by
    simp [embed]
  rw [h, lineAt_append]
  simp
  omega

/-- The fenced text is found first, and the line feed after it is where the search goes on. -/
theorem next?_embed (hb : Fence.NoOpening (before++['\n'])) (hs : ¬Fence.closing <:+: source)
    (after : Text) : Fence.next? (embed before source after) =
      some (⟨before++['\n'], Fence.word++['\n'], source++['\n']⟩, '\n'::after) := by
  rw [embed_eq]
  exact Fence.next?_of_found (Fence.found_fenced hb hs)

/-- The fenced text is the document's first block, on the lines from fence to fence. -/
theorem ofDocument_embed (hb : Fence.NoOpening (before++['\n'])) (hs : ¬Fence.closing <:+: source)
    (after : Text) : ∃ rest, Block.ofDocument (embed before source after) =
      ⟨0, lineAt (embed before source after) (before ++ "\n").length,
        lineAt (embed before source after) (before ++ "\n```mermaid\n" ++ source ++ "\n").length,
        Text.trim source⟩ :: rest := by
  have hnext := next?_embed hb hs after
  rw [lineAt_opening, lineAt_closing, Block.ofDocument, Fence.ofDocument_of_next? hnext,
    Block.ofFences_fenced]
  refine ⟨_, congrArg (· :: _) ?_⟩
  simp [Block.fenced]
  omega

end

def Selector.Reaches (firstLine lastLine : Nat) : Selector → Prop
  | .first => True
  | .index i => i = 0
  | .line n => firstLine ≤ n ∧ n ≤ lastLine

theorem Selector.resolve_of_reaches {b : Block} {bs : List Block} {sel : Selector}
    (h : sel.Reaches b.startLine b.endLine) : sel.resolve (b::bs) = .ok 0 := by
  cases sel with
  | first => rfl
  | index i =>
    cases h
    rfl
  | line n =>
    have hline := (Block.containsLine_iff b n).2 h
    simp [resolve, List.findIdx?_cons, hline]

/-- Two diagram texts between fences are compared as they are compared by themselves, for
every selector that leads to the fenced text of the new document. The command line puts
the same out for the documents as for the bare texts. -/
theorem mergeDocuments_embed (s : Settings) (sel : Selector) (old new p₁ p₂ q₁ q₂ : Text)
    (ho : ¬Fence.closing <:+: old) (hn : ¬Fence.closing <:+: new)
    (hp₁ : Fence.NoOpening (p₁ ++ "\n")) (hp₂ : Fence.NoOpening (p₂ ++ "\n"))
    (hsel : sel.Reaches (lineAt (embed p₂ new q₂) (p₂ ++ "\n").length)
      (lineAt (embed p₂ new q₂) (p₂ ++ "\n```mermaid\n" ++ new ++ "\n").length)) :
    mergeDocuments s sel (embed p₁ old q₁) (embed p₂ new q₂) = .ok (merge s old new) ∧
    ∀ (bare fenced : World) (v v' : Verbosity) (a b a' b' : Text) (o : OutputOptions)
        (sel' : Selector),
      Command.diffInputs bare a b o = .ok ⟨s, old, new⟩ →
      Command.diffInputs fenced a' b' o = .ok ⟨s, embed p₁ old q₁, embed p₂ new q₂⟩ →
      (Command.diffPlan bare v a b true sel' o).result? =
        some (o.output, o.written (merge s old new)) ∧
      (Command.diffPlan fenced v' a' b' false sel o).result? =
        some (o.output, o.written (merge s old new)) := by
  obtain ⟨olds, hold⟩ := ofDocument_embed hp₁ ho q₁
  obtain ⟨news, hnew⟩ := ofDocument_embed hp₂ hn q₂
  have hchosen : sel.choose (embed p₁ old q₁) (embed p₂ new q₂) =
      .ok ⟨Text.trim old, Text.trim new⟩ := by
    have hlisted : _ ∈ Block.ofDocument (embed p₂ new q₂) := hnew ▸ List.mem_cons_self
    have hmeans := Selector.means_of_resolve (embed p₁ old q₁) hlisted
      (hnew ▸ Selector.resolve_of_reaches hsel)
    rw [hmeans.chosen, hold]
    rfl
  have hmerge : mergeDocuments s sel (embed p₁ old q₁) (embed p₂ new q₂) =
      .ok (merge s old new) := by
    rw [mergeDocuments, hchosen]
    exact congrArg Except.ok (merge_congr s (Diagram.read_trim old) (Diagram.read_trim new))
  refine ⟨hmerge, fun bare fenced v v' a b a' b' o sel' hbare hfenced => ⟨?_, ?_⟩⟩
  · exact Command.result?_diffPlan_raw hbare sel'
  · exact Command.result?_diffPlan hfenced hmerge

/-- Prose with another fence and a line that only starts like an opening fence, a text with
empty lines around it, and the line of the closing fence. -/
theorem mergeDocuments_embed_prose :
    let old : Text := "A --> B"
    let new : Text := "\n  graph LR \nA[x] --> C\n\n"
    let prose : Text := "# T\n```rust\nlet a;\n```\n```mermaid x"
    ¬Fence.closing <:+: old ∧ ¬Fence.closing <:+: new ∧ Fence.NoOpening ("" ++ "\n") ∧
      Fence.NoOpening (prose ++ "\n") ∧ mergeDocuments {} (.line 12) (embed "" old "")
        (embed prose new "```mermaid\nB\n```") = .ok (merge {} old new) := by
  intro old new prose
  have ho : ¬Fence.closing <:+: old := by decide
  have hn : ¬Fence.closing <:+: new := by decide
  have hempty : Fence.NoOpening ("" ++ "\n") := by decide
  have hprose : Fence.NoOpening (prose ++ "\n") := by decide +kernel
  refine ⟨ho, hn, hempty, hprose, (mergeDocuments_embed {} (.line 12) old new "" prose ""
    "```mermaid\nB\n```" ho hn hempty hprose ?_).1⟩
  rw [lineAt_opening, lineAt_closing]
  exact ⟨by decide, by decide⟩

end FlowchartMerge
