import FlowchartMerge.Proofs.Diagram.Blanks
import FlowchartMerge.Proofs.Diagram.Specification

/-!
# Layout

How a text is laid out makes no difference to its diagram: neither the blanks around
its lines, nor lines that are empty or hold a comment, nor the ends of its lines. What
counts are the significant lines, and a text of these alone is a tidy form that stays
what it is.
-/

set_option autoImplicit false

namespace FlowchartMerge

namespace Line

def tidy (t : Text) : Text := Text.joinLines (significant t)

theorem significant_tidy (t : Text) : significant (tidy t) = significant t := by
  rw [tidy, significant_joinLines]
  exact flatMap_significant _ fun l hl => isLine_of_mem_significant hl

def Repadded (l m : Text) : Prop :=
  ∃ a b a' b' s : Text, l = a++s++b ∧ m = a'++s++b' ∧ ∀ c ∈ a++b++a'++b', isSurround c = true

def IsSilent (l : Text) : Prop :=
  '\n' ∉ l ∧ ∃ pad rest : Text, l = pad++rest ∧ (∀ c ∈ pad, isSurround c = true) ∧
    (rest = [] ∨ ("%%" : Text) <+: rest)

/-- The same lines in another layout. -/
inductive Relaid : List Text → List Text → Prop
  | nil : Relaid [] []
  | repad {l m : Text} {ls ms : List Text} (h : Repadded l m) (hr : Relaid ls ms) :
      Relaid (l::ls) (m::ms)
  | insert {l : Text} {ls ms : List Text} (h : IsSilent l) (hr : Relaid ls ms) :
      Relaid ls (l::ms)
  | delete {l : Text} {ls ms : List Text} (h : IsSilent l) (hr : Relaid ls ms) :
      Relaid (l::ls) ms

theorem Repadded.significant_eq {l m : Text} (h : Repadded l m) :
    significant l = significant m := by
  obtain ⟨a, b, a', b', s, rfl, rfl, hpad⟩ := h
  simp only [List.mem_append, or_imp, forall_and] at hpad
  obtain ⟨⟨⟨ha, hb⟩, ha'⟩, hb'⟩ := hpad
  rw [significant_append_surround ha hb, significant_append_surround ha' hb']

theorem isSignificant_comment {l : Text} (h : ("%%" : Text) <+: l) :
    isSignificant (bare l) = false := by
  obtain ⟨x, rfl⟩ := h
  have hstart : ("%%" : Text) <+: bare ("%%" ++ x) := Text.prefix_strip (by decide) (by decide) x
  have hcomment : isComment (bare ("%%" ++ x)) = true := List.isPrefixOf_iff_prefix.2 hstart
  rw [isSignificant, hcomment, Bool.not_true, Bool.and_false]

theorem IsSilent.significant_eq {l : Text} (h : IsSilent l) : significant l = [] := by
  obtain ⟨hlf, pad, rest, rfl, hpad, hrest⟩ := h
  have hbare : bare (pad++rest) = bare rest := by
    have hstrip := Text.strip_append_of_all isSurround pad rest [] hpad (by simp)
    rw [List.append_nil] at hstrip
    exact hstrip
  have hnot : isSignificant (bare rest) = false := by
    rcases hrest with rfl | hrest
    · rfl
    · exact isSignificant_comment hrest
  rw [significant_of_not_mem _ hlf, hbare, List.filter_singleton, hnot]
  rfl

theorem Relaid.significant_eq {ls ms : List Text} (h : Relaid ls ms) :
    ls.flatMap significant = ms.flatMap significant := by
  induction h with
  | nil => rfl
  | repad h hr ih => rw [List.flatMap_cons, List.flatMap_cons, h.significant_eq, ih]
  | insert h hr ih => rw [List.flatMap_cons, h.significant_eq, List.nil_append, ih]
  | delete h hr ih => rw [List.flatMap_cons, h.significant_eq, List.nil_append, ih]

end Line

namespace Diagram

open Line

theorem read_congr {t u : Text} (h : significant u = significant t) : read u = read t := by
  rw [read, h, read]

theorem read_joinLines_of_relaid {t : Text} {ms : List Text} (h : Relaid (t.splitOn '\n') ms) :
    read (Text.joinLines ms) = read t := by
  have ht : Text.joinLines (t.splitOn '\n') = t := List.intercalate_splitOn '\n'
  apply read_congr
  rw [significant_joinLines, ← h.significant_eq, ← significant_joinLines, ht]

/-- A text can be laid out in any way: as a tidy text of the lines that count, with other blanks
around its lines, with empty lines and comments in other places, with a byte order mark before it,
and with carriage returns before its line feeds. Texts in which the same lines count are read
alike. -/
theorem read_layout (t : Text) :
    (∃ ls, Counted t ls ∧ tidy t = Text.joinLines ls) ∧
    read (tidy t) = read t ∧ tidy (tidy t) = tidy t ∧
    (∀ u ls, Counted t ls → Counted u ls → read u = read t) ∧
    (∀ ms, Relaid (t.splitOn '\n') ms → read (Text.joinLines ms) = read t) ∧
    read ('\uFEFF'::t) = read t ∧ read (Text.withReturns t) = read t := by
  have hcounted : Counted t (significant t) := (counted_iff t _).2 rfl
  have hidem : tidy (tidy t) = tidy t := by rw [tidy, significant_tidy, tidy]
  refine ⟨⟨_, hcounted, rfl⟩, read_congr (significant_tidy t), hidem, fun u ls ht hu => ?_,
    fun ms hms => read_joinLines_of_relaid hms, ?_, read_withReturns t⟩
  · apply read_congr
    rw [(counted_iff u ls).1 hu, (counted_iff t ls).1 ht]
  · exact read_congr (significant_cons_surround (by decide) t)

theorem read_layout_comment :
    let t : Text := "graph TD\nA --> B"
    let u : Text := "%% note\n\u00A0graph TD \n\nA --> B"
    let ms : List Text := ["\t graph TD", "%% note", "\uFEFF A --> B\r", ""]
    Counted t ["graph TD", "A --> B"] ∧ Counted u ["graph TD", "A --> B"] ∧ read u = read t ∧
      Relaid (t.splitOn '\n') ms ∧ read (Text.joinLines ms) = read t := by
  intro t u ms
  have ht : Counted t ["graph TD", "A --> B"] := (counted_iff t _).2 (by decide)
  have hu : Counted u ["graph TD", "A --> B"] := (counted_iff u _).2 (by decide)
  have hlines : t.splitOn '\n' = ["graph TD", "A --> B"] := by decide
  have hms : Relaid (t.splitOn '\n') ms := by
    rw [hlines]
    have hgraph : Repadded "graph TD" "\t graph TD" :=
      ⟨[], [], "\t ", [], "graph TD", rfl, rfl, List.all_eq_true.1 (by decide)⟩
    have hedge : Repadded "A --> B" "\uFEFF A --> B\r" :=
      ⟨[], [], "\uFEFF ", "\r", "A --> B", rfl, rfl, List.all_eq_true.1 (by decide)⟩
    have hnote : IsSilent "%% note" := ⟨by decide, [], "%% note", rfl, by simp, Or.inr (by decide)⟩
    have hempty : IsSilent [] := ⟨by decide, [], [], rfl, by simp, Or.inl rfl⟩
    exact .repad hgraph (.insert hnote (.repad hedge (.insert hempty .nil)))
  obtain ⟨-, -, -, hsame, hrelaid, -⟩ := read_layout t
  exact ⟨ht, hu, hsame u _ ht hu, hms, hrelaid ms hms⟩

end Diagram

end FlowchartMerge
