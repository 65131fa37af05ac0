import FlowchartMerge.Text.Basic

/-!
# Fenced diagrams in a document

An opening fence is the word that opens a diagram, some spaces and tabs, and the end
of the line. Its block reaches to the first closing fence after it. A document is cut
into its fences from left to right, each with the text that leads up to it; what
follows the last fence holds no opening fence with a closing fence after it.
-/

set_option autoImplicit false

namespace FlowchartMerge

structure Fence where
  lead : Text
  opening : Text
  body : Text
  deriving DecidableEq, Repr, Inhabited

namespace Fence

def closing : Text := "```"

def word : Text := "```mermaid"

def opening? (t : Text) : Option (Text × Text) :=
  (Text.after? word t).bind fun u =>
    (Text.lineEnd? (u.dropWhile Text.isPadding)).map fun p =>
      (word++u.takeWhile Text.isPadding++p.1, p.2)

def here? (t : Text) : Option (Fence × Text) :=
  (opening? t).bind fun p =>
    (Text.cut? closing p.2).map fun q => (⟨[], p.1, q.1⟩, q.2)

def next? : Text → Option (Fence × Text)
  | [] => none
  | c::t =>
    match here? (c::t) with
    | some p => some p
    | none => (next? t).map fun p => ({ p.1 with lead := c::p.1.lead }, p.2)

def text (f : Fence) : Text := f.lead++f.opening++f.body++closing

theorem eq_of_opening? {t : Text} {p : Text × Text} (h : opening? t = some p) :
    t = p.1++p.2 := by
  obtain ⟨u, hu, hp⟩ := Option.bind_eq_some_iff.1 h
  obtain ⟨q, hq, rfl⟩ := Option.map_eq_some_iff.1 hp
  rw [Text.after?_eq_some_iff.1 hu]
  have he := Text.eq_of_lineEnd? hq
  simp only [List.append_assoc]
  rw [← he, List.takeWhile_append_dropWhile]

theorem eq_of_here? {t : Text} {p : Fence × Text} (h : here? t = some p) :
    t = p.1.text++p.2 := by
  obtain ⟨o, ho, hp⟩ := Option.bind_eq_some_iff.1 h
  obtain ⟨q, hq, rfl⟩ := Option.map_eq_some_iff.1 hp
  rw [eq_of_opening? ho, Text.eq_of_cut?_eq_some hq]
  simp [text]

theorem eq_of_next? {t : Text} {p : Fence × Text} (h : next? t = some p) :
    t = p.1.text++p.2 := by
  induction t generalizing p with
  | nil => simp [next?] at h
  | cons c t ih =>
    rw [next?] at h
    split at h
    · cases h
      exact eq_of_here? ‹_›
    · obtain ⟨q, hq, rfl⟩ := Option.map_eq_some_iff.1 h
      rw [ih hq]
      simp [text]

theorem length_of_next? {t : Text} {p : Fence × Text} (h : next? t = some p) :
    p.2.length < t.length := by
  have ht := congrArg List.length (eq_of_next? h)
  simp [text, closing] at ht
  omega

def ofDocument (t : Text) : List Fence :=
  match _h : next? t with
  | some p => p.1 :: ofDocument p.2
  | none => []
termination_by t.length
decreasing_by exact length_of_next? ‹_›

end Fence

end FlowchartMerge
