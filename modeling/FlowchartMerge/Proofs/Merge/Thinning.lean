import FlowchartMerge.Comparison.Merge
import FlowchartMerge.Proofs.Diagram.Contribution

/-!
# Lines that draw nothing

A line that is skipped, or that is kept among the other lines, leaves header, nodes and
edges as they are, whatever comes before and after it. So a text with some of these lines
left out draws the same diagram. A merge takes nothing but the drawing from the old text,
and nothing else from the new one unless its other lines are kept.
-/

set_option autoImplicit false

namespace FlowchartMerge

open Line

namespace Line

def isIdle (l : Text) : Bool := (statements l).all fun x => x.other?.isSome

def drawing (t : Text) : Text := Text.joinLines ((t.splitOn '\n').filter fun l => !isIdle l)

/-- Lines of which some idle ones are left out. -/
inductive Thinned : List Text → List Text → Prop
  | nil : Thinned [] []
  | drop {l : Text} {ls ms : List Text} (h : isIdle l = true) (hr : Thinned ls ms) :
      Thinned (l::ls) ms
  | keep {l : Text} {ls ms : List Text} (hr : Thinned ls ms) : Thinned (l::ls) (l::ms)

theorem thinned_filter (ls : List Text) : Thinned ls (ls.filter fun l => !isIdle l) := by
  induction ls with
  | nil => exact .nil
  | cons l ls ih =>
    by_cases hl : isIdle l = true
    · rw [List.filter_cons_of_neg (by simp [hl])]
      exact .drop hl ih
    · rw [List.filter_cons_of_pos (by simp [hl])]
      exact .keep ih

/-- A line by itself says one thing at most, so a line that is not idle passes nothing through. -/
theorem filterMap_other?_of_not_isIdle {l : Text} (hlf : '\n' ∉ l) (h : isIdle l = false) :
    (statements l).filterMap other? = [] := by
  unfold isIdle at h
  rw [statements, significant_of_not_mem l hlf, List.filter_singleton] at h ⊢
  cases hs : isSignificant (bare l) with
  | false => rfl
  | true => simpa [hs] using h

end Line

namespace Diagram

structure DrawnAlike (d d' : Diagram) : Prop where
  header : d.header = d'.header
  nodes : d.nodes = d'.nodes
  edges : d.edges = d'.edges

namespace DrawnAlike

variable {d d' : Diagram}

theorem add (h : DrawnAlike d d') (x : Line) : DrawnAlike (d.add x) (d'.add x) := by
  constructor
  · rw [header_add, header_add, h.header]
  · rw [nodes_add, nodes_add, h.nodes]
  · rw [edges_add, edges_add, h.edges]

theorem add_idle (h : DrawnAlike d d') {x : Line} (hx : x.other?.isSome = true) :
    DrawnAlike (d.add x) d' := by
  cases x with
  | dangling l => exact ⟨h.header, h.nodes, h.edges⟩
  | passthrough l => exact ⟨h.header, h.nodes, h.edges⟩
  | header l => cases hx
  | edge s t c l => cases hx
  | node n => cases hx

theorem foldl_add (h : DrawnAlike d d') (xs : List Line) :
    DrawnAlike (xs.foldl Diagram.add d) (xs.foldl Diagram.add d') := by
  induction xs generalizing d d' with
  | nil => exact h
  | cons x xs ih => exact ih (h.add x)

theorem foldl_add_idle (h : DrawnAlike d d') {xs : List Line}
    (hx : ∀ x ∈ xs, x.other?.isSome = true) : DrawnAlike (xs.foldl Diagram.add d) d' := by
  induction xs generalizing d with
  | nil => exact h
  | cons x xs ih =>
    apply ih (h.add_idle (hx x List.mem_cons_self))
    intro y hy
    exact hx y (List.mem_cons_of_mem x hy)

/-- Two readers that have drawn the same go on to do so when one is spared some idle lines. -/
theorem foldl_add_thinned {ls ms : List Text} (ht : Thinned ls ms) (h : DrawnAlike d d') :
    DrawnAlike ((ls.flatMap statements).foldl Diagram.add d)
      ((ms.flatMap statements).foldl Diagram.add d') := by
  induction ht generalizing d d' with
  | nil => exact h
  | drop hl hr ih =>
    rw [List.flatMap_cons, List.foldl_append]
    exact ih (h.foldl_add_idle (List.all_eq_true.1 hl))
  | keep hr ih =>
    rw [List.flatMap_cons, List.flatMap_cons, List.foldl_append, List.foldl_append]
    exact ih (h.foldl_add _)

end DrawnAlike

theorem read_joinLines (ls : List Text) :
    read (Text.joinLines ls) = ofLines (ls.flatMap statements) := by
  rw [read_eq, statements_joinLines]

theorem drawnAlike_of_thinned {t : Text} {ms : List Text} (h : Thinned (t.splitOn '\n') ms) :
    DrawnAlike (read t) (read (Text.joinLines ms)) := by
  have ht : Text.joinLines (t.splitOn '\n') = t := List.intercalate_splitOn '\n'
  have hread : read t = ofLines ((t.splitOn '\n').flatMap statements) := by
    rw [← read_joinLines, ht]
  rw [hread, read_joinLines]
  exact DrawnAlike.foldl_add_thinned h ⟨rfl, rfl, rfl⟩

theorem other_read_drawing (t : Text) : (read (drawing t)).other = [] := by
  rw [drawing, read_joinLines, other_ofLines, List.filterMap_flatMap, List.flatMap_eq_nil_iff]
  intro l hl
  obtain ⟨hl, hidle⟩ := List.mem_filter.1 hl
  have hlf : '\n' ∉ l := Text.not_mem_of_mem_splitOn hl
  exact filterMap_other?_of_not_isIdle hlf (by simpa using hidle)

theorem read_drawing (t : Text) : read (drawing t) = { read t with other := [] } := by
  have h := drawnAlike_of_thinned (thinned_filter (t.splitOn '\n'))
  exact eq_of_parts h.header.symm h.nodes.symm h.edges.symm (other_read_drawing t)

end Diagram

namespace Comparison

variable {old old' new new' : Diagram}

theorem ofDiagrams_congr_old (h : old.DrawnAlike old') :
    ofDiagrams old new = ofDiagrams old' new := by
  unfold ofDiagrams chooseHeader
  rw [h.header, h.nodes, h.edges]

theorem ofDiagrams_congr_new (h : new.DrawnAlike new') :
    ofDiagrams old new = { ofDiagrams old new' with other := new.other } := by
  unfold ofDiagrams chooseHeader
  rw [h.header, h.nodes, h.edges]

theorem render_without_other (c : Comparison) (ls : List Text) (p : Palette) :
    ({ c with other := ls } : Comparison).render { palette := p } = c.render { palette := p } := rfl

end Comparison

structure MergedAlike (t t' : Text) : Prop where
  old : ∀ (s : Settings) (u : Text), merge s t u = merge s t' u
  new : ∀ (p : Palette) (u : Text), merge { palette := p } u t = merge { palette := p } u t'

theorem mergedAlike_of_drawnAlike {t t' : Text} (h : (Diagram.read t).DrawnAlike (.read t')) :
    MergedAlike t t' := by
  constructor
  · intro s u
    rw [merge, Comparison.ofDiagrams_congr_old h, merge]
  · intro p u
    rw [merge, Comparison.ofDiagrams_congr_new h, Comparison.render_without_other, merge]

/-- Lines that draw nothing never show. A text without all of them is read as the same drawing
and no other lines, and it is merged alike when all or some of them are left out. -/
theorem idle_lines_never_show (t : Text) :
    Diagram.read (drawing t) = { Diagram.read t with other := [] } ∧ MergedAlike t (drawing t) ∧
      ∀ ms, Thinned (t.splitOn '\n') ms → MergedAlike t (Text.joinLines ms) := by
  have hthin : ∀ ms, Thinned (t.splitOn '\n') ms → MergedAlike t (Text.joinLines ms) := by
    intro ms h
    exact mergedAlike_of_drawnAlike (Diagram.drawnAlike_of_thinned h)
  refine ⟨Diagram.read_drawing t, ?_, hthin⟩
  exact hthin _ (thinned_filter (t.splitOn '\n'))

/-- A comment, an edge without a target and an empty line are left out, and a style is not. -/
theorem idle_lines_never_show_style :
    let t : Text := "graph TD\n%% note\nA --> B\nstyle A fill:#f00\nB --> \n"
    let ms : List Text := ["graph TD", "A --> B", "style A fill:#f00"]
    let s : Settings := { keepDirectives := true }
    drawing t = "graph TD\nA --> B" ∧ Thinned (t.splitOn '\n') ms ∧
      (Diagram.read (Text.joinLines ms)).other = ["style A fill:#f00"] ∧
      merge s t "A --> C" = merge s (Text.joinLines ms) "A --> C" := by
  intro t ms s
  have hlines : t.splitOn '\n' =
      ["graph TD", "%% note", "A --> B", "style A fill:#f00", "B --> ", ""] := by decide
  have hms : Thinned (t.splitOn '\n') ms := by
    rw [hlines]
    exact .keep (.drop (by decide +kernel) (.keep (.keep (.drop (by decide +kernel)
      (.drop (by decide) .nil)))))
  have h := (idle_lines_never_show t).2.2 ms hms
  exact ⟨by decide +kernel, hms, by decide +kernel, h.old s "A --> C"⟩

end FlowchartMerge
