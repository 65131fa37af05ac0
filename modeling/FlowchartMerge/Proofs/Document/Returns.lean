import FlowchartMerge.Document.Merge
import FlowchartMerge.Proofs.Diagram.Blanks
import FlowchartMerge.Proofs.Document.Fence

/-!
# Documents with carriage returns

A document that gets a carriage return before every line feed has the same fences,
with returns in them, and so the same blocks on the same lines. Their sources describe
the same diagrams, and a comparison of documents sees no more of a block than the lines
that it takes up and the diagram that its source describes.
-/

set_option autoImplicit false

namespace FlowchartMerge

open Text

namespace Fence

def withReturns (f : Fence) : Fence :=
  ⟨Text.withReturns f.lead, Text.withReturns f.opening, Text.withReturns f.body⟩

theorem takeWhile_withReturns (t : Text) :
    (Text.withReturns t).takeWhile isPadding = t.takeWhile isPadding := by
  induction t with
  | nil => rfl
  | cons c t ih =>
    by_cases hc : c = '\n'
    · subst hc
      rfl
    · rw [withReturns_cons hc, List.takeWhile_cons, List.takeWhile_cons, ih]

theorem dropWhile_withReturns (t : Text) :
    (Text.withReturns t).dropWhile isPadding = Text.withReturns (t.dropWhile isPadding) := by
  induction t with
  | nil => rfl
  | cons c t ih =>
    by_cases hc : c = '\n'
    · subst hc
      rfl
    · rw [withReturns_cons hc, List.dropWhile_cons, List.dropWhile_cons, ih]
      split
      · rfl
      · rw [withReturns_cons hc]

/-- A line's end gets its return, where it has none yet. -/
theorem lineEnd?_withReturns {t : Text} (h : '\r' ∉ t) :
    lineEnd? (Text.withReturns t) =
      (lineEnd? t).map fun p => (Text.withReturns p.1, Text.withReturns p.2) := by
  cases t with
  | nil => rfl
  | cons c t =>
    by_cases hc : c = '\n'
    · subst hc
      rfl
    · have hr : c ≠ '\r' := by
        intro he
        exact h (by simp [he])
      rw [withReturns_cons hc]
      simp [lineEnd?, hc, hr]

theorem opening?_withReturns {t : Text} (h : '\r' ∉ t) :
    opening? (Text.withReturns t) =
      (opening? t).map fun p => (Text.withReturns p.1, Text.withReturns p.2) := by
  have hbreak : '\n' ∉ word := by decide
  have hreturn : '\r' ∉ word := by decide
  have hword := after?_withReturns hbreak hreturn t
  rw [opening?, opening?, hword]
  cases ha : after? word t with
  | none => rfl
  | some u =>
    have hu : '\r' ∉ u.dropWhile isPadding := by
      intro hm
      rw [after?_eq_some_iff.1 ha] at h
      exact h (List.mem_append_right word ((List.dropWhile_suffix _).subset hm))
    have hstart : '\n' ∉ word++u.takeWhile isPadding := by
      intro hm
      rcases List.mem_append.1 hm with hm | hm
      · exact hbreak hm
      · exact absurd (List.mem_takeWhile_imp hm) (by decide)
    have hopen : ∀ eol, Text.withReturns (word++u.takeWhile isPadding++eol) =
        word++u.takeWhile isPadding++Text.withReturns eol := by
      intro eol
      rw [withReturns_append, withReturns_of_not_mem hstart]
    simp only [Option.map_some, Option.bind_some, dropWhile_withReturns, takeWhile_withReturns,
      lineEnd?_withReturns hu]
    cases lineEnd? (u.dropWhile isPadding) with
    | none => rfl
    | some p => simp only [Option.map_some, hopen]

theorem here?_withReturns {t : Text} (h : '\r' ∉ t) :
    here? (Text.withReturns t) =
      (here? t).map fun p => (p.1.withReturns, Text.withReturns p.2) := by
  rw [here?, here?, opening?_withReturns h]
  cases opening? t with
  | none => rfl
  | some p =>
    have hbreak : '\n' ∉ closing := by decide
    have hreturn : '\r' ∉ closing := by decide
    have hcut := cut?_withReturns hbreak hreturn (by decide) p.2
    simp only [Option.map_some, Option.bind_some, hcut, Option.map_map]
    rfl

theorem here?_eq_none {c : Char} (hc : c ≠ '`') (t : Text) : here? (c::t) = none := by
  have hword : after? word (c::t) = none :=
    after?_eq_none (by rintro x ⟨⟩; exact hc.symm) (by decide)
  rw [here?, opening?, hword]
  rfl

theorem next?_withReturns {t : Text} (h : '\r' ∉ t) :
    next? (Text.withReturns t) =
      (next? t).map fun p => (p.1.withReturns, Text.withReturns p.2) := by
  induction t with
  | nil => rfl
  | cons c t ih =>
    have ht : '\r' ∉ t := fun hm => h (List.mem_cons_of_mem c hm)
    by_cases hc : c = '\n'
    · subst hc
      rw [withReturns_break, next?, here?_eq_none (by decide), next?, here?_eq_none (by decide),
        next?, here?_eq_none (by decide), ih ht]
      cases next? t <;> rfl
    · have hhere := here?_withReturns h
      rw [withReturns_cons hc] at hhere ⊢
      rw [next?, next?, hhere]
      cases here? (c::t) with
      | some p => rfl
      | none =>
        simp only [Option.map_none, ih ht]
        cases next? t with
        | none => rfl
        | some p => simp [withReturns, withReturns_cons hc]

theorem ofDocument_withReturns {t : Text} (h : '\r' ∉ t) :
    ofDocument (Text.withReturns t) = (ofDocument t).map withReturns := by
  induction t using ofDocument.induct with
  | case1 t p hp ih =>
    have hnext := next?_withReturns h
    rw [hp] at hnext
    have hrest : '\r' ∉ p.2 := by
      intro hm
      rw [eq_of_next? hp] at h
      exact h (List.mem_append_right _ hm)
    rw [ofDocument_of_next? hnext, ofDocument_of_next? hp, List.map_cons, ih hrest]
  | case2 t hp =>
    have hnext := next?_withReturns h
    rw [hp] at hnext
    rw [ofDocument_eq_nil hnext, ofDocument_eq_nil hp]
    rfl

end Fence

namespace Block

def withReturns (b : Block) : Block := { b with source := Text.withReturns b.source }

theorem ofFences_withReturns (index line : Nat) (fs : List Fence) :
    ofFences index line (fs.map Fence.withReturns) = (ofFences index line fs).map withReturns := by
  induction fs generalizing index line with
  | nil => rfl
  | cons f fs ih =>
    simp [ofFences, Fence.withReturns, withReturns, count_withReturns, trim_withReturns, ih]

theorem ofDocument_withReturns {document : Text} (h : '\r' ∉ document) :
    ofDocument (Text.withReturns document) = (ofDocument document).map withReturns := by
  rw [ofDocument, Fence.ofDocument_withReturns h, ofFences_withReturns, ofDocument]

def outline (b : Block) : (Nat × Nat) × Diagram := ((b.startLine, b.endLine), .read b.source)

theorem map_outline_withReturns {document : Text} (h : '\r' ∉ document) :
    (ofDocument (Text.withReturns document)).map outline = (ofDocument document).map outline := by
  rw [ofDocument_withReturns h, List.map_map]
  apply List.map_congr_left
  intro b _
  simp [outline, withReturns, Diagram.read_withReturns]

end Block

namespace Selector

variable {bs bs' : List Block}

theorem resolve_congr (h : bs.map Block.outline = bs'.map Block.outline) (sel : Selector) :
    sel.resolve bs = sel.resolve bs' := by
  have hlen : bs.length = bs'.length := by simpa using congrArg List.length h
  have hlines : ∀ n, (bs.findIdx? fun b => b.containsLine n) =
      bs'.findIdx? fun b => b.containsLine n := by
    intro n
    have hmap := congrArg (List.findIdx? fun o => decide (o.1.1 ≤ n) && decide (n ≤ o.1.2)) h
    rw [List.findIdx?_map, List.findIdx?_map] at hmap
    exact hmap
  cases sel with
  | first => rfl
  | index i => simp only [resolve, hlen]
  | line n => simp only [resolve, hlines]

theorem read_sourceAt_congr (h : bs.map Block.outline = bs'.map Block.outline) (i : Nat) :
    Diagram.read (sourceAt bs i) = Diagram.read (sourceAt bs' i) := by
  have hread : ∀ cs : List Block, Diagram.read (sourceAt cs i) =
      (((cs.map Block.outline)[i]?).map Prod.snd).getD (.read []) := by
    intro cs
    rw [sourceAt, List.getElem?_map]
    cases cs[i]? <;> rfl
  rw [hread, hread, h]

theorem isEmpty_congr (h : bs.map Block.outline = bs'.map Block.outline) :
    bs.isEmpty = bs'.isEmpty := by
  rw [← List.isEmpty_map (f := Block.outline), h, List.isEmpty_map]

end Selector

theorem merge_congr (s : Settings) {old old' new new' : Text}
    (ho : Diagram.read old = .read old') (hn : Diagram.read new = .read new') :
    merge s old new = merge s old' new' := by
  rw [merge, ho, hn, merge]

/-- Documents are compared by the lines of their blocks and by what their sources describe. -/
theorem mergeDocuments_congr (s : Settings) (sel : Selector) {old old' new new' : Text}
    (ho : (Block.ofDocument old).map Block.outline = (Block.ofDocument old').map Block.outline)
    (hn : (Block.ofDocument new).map Block.outline = (Block.ofDocument new').map Block.outline) :
    mergeDocuments s sel old new = mergeDocuments s sel old' new' := by
  have hempty := Selector.isEmpty_congr hn
  have href : (Selector.reference (Block.ofDocument old) (Block.ofDocument new)).map Block.outline =
      (Selector.reference (Block.ofDocument old') (Block.ofDocument new')).map Block.outline := by
    rw [Selector.reference, Selector.reference, hempty]
    split
    · exact ho
    · exact hn
  simp only [mergeDocuments, Selector.choose, Selector.chooseBlocks, hempty,
    Selector.isEmpty_congr ho, Selector.resolve_congr href]
  split
  · rfl
  · cases sel.resolve (Selector.reference (Block.ofDocument old') (Block.ofDocument new')) with
    | error e => rfl
    | ok i =>
      exact congrArg Except.ok (merge_congr s (Selector.read_sourceAt_congr ho i)
        (Selector.read_sourceAt_congr hn i))

/-- Carriage returns before the line feeds of a document change its blocks only in the
same way, and a comparison of documents, or the error it ends with, not at all. -/
theorem mergeDocuments_withReturns (s : Settings) (sel : Selector) (old new : Text)
    (ho : '\r' ∉ old) (hn : '\r' ∉ new) :
    (∀ d ∈ [old, new], Block.ofDocument (withReturns d) =
      (Block.ofDocument d).map fun b => { b with source := withReturns b.source }) ∧
    mergeDocuments s sel (withReturns old) new = mergeDocuments s sel old new ∧
    mergeDocuments s sel old (withReturns new) = mergeDocuments s sel old new ∧
    mergeDocuments s sel (withReturns old) (withReturns new) = mergeDocuments s sel old new := by
  have hold := Block.map_outline_withReturns ho
  have hnew := Block.map_outline_withReturns hn
  refine ⟨?_, mergeDocuments_congr s sel hold rfl, mergeDocuments_congr s sel rfl hnew,
    mergeDocuments_congr s sel hold hnew⟩
  intro d hd
  simp only [List.mem_cons, List.not_mem_nil, or_false] at hd
  rcases hd with rfl | rfl
  · exact Block.ofDocument_withReturns ho
  · exact Block.ofDocument_withReturns hn

/-- Two blocks, the first of which starts and ends with empty lines. -/
theorem mergeDocuments_withReturns_second :
    let old : Text := "```mermaid\n\nA --> B\n\n```\n```mermaid \nC\n```"
    let new : Text := "# T\n```mermaid\nA\n```\n```mermaid\nC --> D\n```\n"
    '\r' ∉ old ∧ '\r' ∉ new ∧ mergeDocuments {} (.line 6) (withReturns old) (withReturns new) =
      mergeDocuments {} (.line 6) old new := by
  intro old new
  have ho : '\r' ∉ old := by decide
  have hn : '\r' ∉ new := by decide
  exact ⟨ho, hn, (mergeDocuments_withReturns {} (.line 6) old new ho hn).2.2.2⟩

end FlowchartMerge
