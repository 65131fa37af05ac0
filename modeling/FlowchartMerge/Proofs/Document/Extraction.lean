import Mathlib.Data.List.Forall2
import FlowchartMerge.Document.Block
import FlowchartMerge.Proofs.Document.Fence
import FlowchartMerge.Proofs.Text.Strip

/-!
# Where the blocks of a document stand

Each block of a document shows a segment of it: an opening, a body that ends at the
first closing, and this closing. The segments follow each other without overlap, and
an opening outside all of them is never closed. The lines of a block are counted up
to the two ends of its segment.
-/

set_option autoImplicit false

namespace FlowchartMerge

structure Segment where
  start : Nat
  opening : Text
  body : Text

def lineAt (document : Text) (place : Nat) : Nat := 1+(document.take place).count '\n'

theorem lineAt_mono (document : Text) {a b : Nat} (h : a ≤ b) :
    lineAt document a ≤ lineAt document b :=
  Nat.add_le_add_left ((List.take_prefix_take_left h).sublist.count_le '\n') 1

theorem lineAt_append (a b : Text) : lineAt (a++b) a.length = 1+a.count '\n' := by
  rw [lineAt, List.take_left]

namespace Segment

def text (s : Segment) : Text := s.opening++s.body++Fence.closing

def stop (s : Segment) : Nat := s.start+s.text.length

/-- The segment stands in the document, and its closing fence is the first one possible. -/
structure In (s : Segment) (document : Text) : Prop where
  place : s.text <+: document.drop s.start
  opening : Fence.IsOpening s.opening
  shortest : ¬Fence.closing <:+: s.body++['`', '`']

def ofFence (place : Nat) (f : Fence) : Segment := ⟨place+f.lead.length, f.opening, f.body⟩

def ofFences (place : Nat) : List Fence → List Segment
  | [] => []
  | f::fs => ofFence place f :: ofFences (ofFence place f).stop fs

theorem stop_ofFence (pre : Text) (f : Fence) :
    (ofFence pre.length f).stop = (pre++f.text).length := by
  simp [ofFence, stop, text, Fence.text]
  omega

theorem start_le_stop (s : Segment) : s.start ≤ s.stop := Nat.le_add_right _ _

theorem le_start_of_mem (place : Nat) (fs : List Fence) :
    ∀ s ∈ ofFences place fs, place ≤ s.start := by
  induction fs generalizing place with
  | nil => simp [ofFences]
  | cons f fs ih =>
    intro s hs
    have hf : place ≤ (ofFence place f).start := Nat.le_add_right _ _
    rcases List.mem_cons.1 hs with rfl | hs
    · exact hf
    · exact (hf.trans (start_le_stop _)).trans (ih _ s hs)

theorem pairwise_ofFences (place : Nat) (fs : List Fence) :
    (ofFences place fs).Pairwise fun a b => a.stop ≤ b.start := by
  induction fs generalizing place with
  | nil => exact .nil
  | cons f fs ih => exact .cons (le_start_of_mem _ fs) (ih _)

theorem In.lineAt_lt {s : Segment} {document : Text} (h : s.In document) :
    lineAt document s.start < lineAt document s.stop := by
  obtain ⟨rest, hrest⟩ := h.place
  have htake : document.take s.stop = document.take s.start++s.text := by
    rw [stop, List.take_add, ← hrest, List.take_left]
  have hbreak : '\n' ∈ s.opening := by
    obtain ⟨pad, eol, ho, -, heol⟩ := h.opening
    rw [ho]
    rcases heol with rfl | rfl <;> simp
  have hcount := List.count_pos_iff.2 hbreak
  simp only [lineAt, htake, text, List.count_append]
  omega

end Segment

namespace Fence

variable {t rest : Text} {f : Fence} {fs : List Fence}

theorem Found.append_eq (h : Found t f rest) (pre : Text) : pre++t = pre++f.text++rest := by
  rw [h.eq, text]
  simp only [List.append_assoc]

theorem Found.segment (h : Found t f rest) (pre : Text) :
    (Segment.ofFence pre.length f).In (pre++t) where
  place := by
    have hdoc : pre++t = (pre++f.lead)++((Segment.ofFence pre.length f).text++rest) := by
      rw [h.append_eq]
      simp [text, Segment.text, Segment.ofFence]
    have hstart : (Segment.ofFence pre.length f).start = (pre++f.lead).length :=
      List.length_append.symm
    rw [hdoc, hstart, List.drop_left]
    exact List.prefix_append _ _
  opening := h.opening
  shortest := h.first.not_infix (by decide)

theorem drop_append_of_le {pre t : Text} {k : Nat} (hk : pre.length ≤ k) :
    (pre++t).drop k = t.drop (k-pre.length) := by
  rw [List.drop_append, List.drop_eq_nil_of_le hk, List.nil_append]

theorem Cuts.segments (h : Cuts t fs) (pre : Text) :
    ∀ s ∈ Segment.ofFences pre.length fs, s.In (pre++t) := by
  induction h generalizing pre with
  | done => simp [Segment.ofFences]
  | fence hf hr ih =>
    rename_i f fs
    intro s hs
    rcases List.mem_cons.1 hs with rfl | hs
    · exact hf.segment pre
    · rw [Segment.stop_ofFence] at hs
      rw [hf.append_eq]
      exact ih _ s hs

/-- No fence starts at a place outside the segments. -/
theorem Cuts.unclosed (h : Cuts t fs) (pre : Text) (k : Nat) (hk : pre.length ≤ k)
    (hout : ∀ s ∈ Segment.ofFences pre.length fs, k < s.start ∨ s.stop ≤ k) :
    Unclosed ((pre++t).drop k) := by
  induction h generalizing pre with
  | done hd =>
    rw [drop_append_of_le hk]
    exact hd _
  | fence hf hr ih =>
    rename_i t rest f fs
    -- a place before the fence is in its lead, one after it belongs to the rest
    rcases hout _ List.mem_cons_self with hlt | hge
    · rw [drop_append_of_le hk]
      refine hf.lead _ ?_
      change k < pre.length+f.lead.length at hlt
      omega
    · rw [Segment.stop_ofFence] at hge
      rw [hf.append_eq]
      refine ih _ hge fun s hs => hout s (List.mem_cons_of_mem _ ?_)
      rwa [Segment.stop_ofFence]

end Fence

namespace Block

structure Shows (document : Text) (b : Block) (s : Segment) : Prop where
  startLine : b.startLine = lineAt document s.start
  endLine : b.endLine = lineAt document s.stop
  source : Text.Stripped isBlank s.body b.source

theorem shows_ofFences {t : Text} {fs : List Fence} (h : Fence.Cuts t fs) (pre : Text)
    (index : Nat) : List.Forall₂ (Shows (pre++t)) (ofFences index (1+pre.count '\n') fs)
      (Segment.ofFences pre.length fs) := by
  induction h generalizing pre index with
  | done => exact .nil
  | fence hf hr ih =>
    rename_i t rest f fs
    have hlead : pre++t = (pre++f.lead)++(f.opening++f.body++Fence.closing++rest) := by
      rw [hf.eq]
      simp
    have hstart : lineAt (pre++t) (pre.length+f.lead.length) =
        1+pre.count '\n'+f.lead.count '\n' := by
      rw [hlead, ← List.length_append, lineAt_append, List.count_append, Nat.add_assoc]
    have hclosing : Fence.closing.count '\n' = 0 := by decide
    have hstop : 1+pre.count '\n'+f.lead.count '\n'+f.opening.count '\n'+f.body.count '\n' =
        1+(pre++f.text).count '\n' := by
      simp only [Fence.text, List.count_append, hclosing]
      omega
    rw [ofFences, Segment.ofFences, hstop]
    refine .cons ⟨hstart.symm, ?_, Text.stripped_strip _ _⟩ ?_
    · rw [Segment.stop_ofFence, hf.append_eq, lineAt_append]
    · rw [Segment.stop_ofFence, hf.append_eq]
      exact ih _ _

theorem map_index_ofFences (index line : Nat) (fs : List Fence) :
    (ofFences index line fs).map Block.index = List.range' index (ofFences index line fs).length := by
  induction fs generalizing index line with
  | nil => rfl
  | cons f fs ih =>
    rw [ofFences, List.map_cons, ih, List.length_cons, List.range'_succ]

section

variable {document : Text} {bs : List Block} {segs : List Segment}

theorem exists_segment (hs : List.Forall₂ (Shows document) bs segs) :
    ∀ b ∈ bs, ∃ s ∈ segs, b.Shows document s := by
  induction hs with
  | nil => simp
  | cons hb hs ih =>
    rename_i b s bs segs
    intro c hc
    rcases List.mem_cons.1 hc with rfl | hc
    · exact ⟨s, List.mem_cons_self, hb⟩
    · obtain ⟨r, hr, hcr⟩ := ih c hc
      exact ⟨r, List.mem_cons_of_mem s hr, hcr⟩

theorem lines_of_shows (hs : List.Forall₂ (Shows document) bs segs)
    (hin : ∀ s ∈ segs, s.In document) : ∀ b ∈ bs, 1 ≤ b.startLine ∧ b.startLine < b.endLine := by
  intro b hb
  obtain ⟨s, hs, hbs⟩ := exists_segment hs b hb
  rw [hbs.startLine, hbs.endLine]
  exact ⟨Nat.le_add_right _ _, (hin s hs).lineAt_lt⟩

theorem pairwise_of_shows (hs : List.Forall₂ (Shows document) bs segs)
    (hp : segs.Pairwise fun a b => a.stop ≤ b.start) :
    bs.Pairwise fun a b => a.endLine ≤ b.startLine := by
  induction hs with
  | nil => exact .nil
  | cons hb hs ih =>
    obtain ⟨hle, hp⟩ := List.pairwise_cons.1 hp
    refine .cons (fun c hc => ?_) (ih hp)
    obtain ⟨s, hs, hcs⟩ := exists_segment hs c hc
    rw [hb.endLine, hcs.startLine]
    exact lineAt_mono document (hle s hs)

end

end Block

/-- The blocks of a document show disjoint fenced segments of it in their order, and an
opening fence that starts outside these segments has no closing fence after it. -/
theorem blocks_ofDocument (document : Text) : ∃ segs : List Segment,
    (∀ s ∈ segs, s.In document) ∧
    (segs.Pairwise fun a b => a.stop ≤ b.start) ∧
    List.Forall₂ (Block.Shows document) (Block.ofDocument document) segs ∧
    (Block.ofDocument document).map Block.index =
      List.range (Block.ofDocument document).length ∧
    (∀ b ∈ Block.ofDocument document, 1 ≤ b.startLine ∧ b.startLine < b.endLine) ∧
    ((Block.ofDocument document).Pairwise fun a b => a.endLine ≤ b.startLine) ∧
    ∀ (k : Nat) (o : Text), Fence.IsOpening o → o <+: document.drop k →
      (∀ s ∈ segs, k < s.start ∨ s.stop ≤ k) →
      ¬Fence.closing <:+: document.drop (k+o.length) := by
  have hcuts := Fence.cuts_ofDocument document
  have hin := hcuts.segments []
  have hpair := Segment.pairwise_ofFences 0 (Fence.ofDocument document)
  have hshows := Block.shows_ofFences hcuts [] 0
  refine ⟨_, hin, hpair, hshows, ?_, Block.lines_of_shows hshows hin,
    Block.pairwise_of_shows hshows hpair, ?_⟩
  · rw [List.range_eq_range']
    exact Block.map_index_ofFences 0 1 _
  · intro k o ho hpre hout
    obtain ⟨rest, hrest⟩ := hpre
    have hopen := hcuts.unclosed [] k (Nat.zero_le k) hout o rest ho hrest.symm
    rw [← List.drop_drop, ← hrest, List.drop_left]
    exact hopen

end FlowchartMerge
