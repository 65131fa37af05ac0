import FlowchartMerge.Proofs.Merge.Style
import FlowchartMerge.Proofs.Settings.Validation

/-!
# The sections of a merged diagram

With usable colours a merged diagram has the lines that were written and no others: the
header, three styles, a line for each node and each edge, the lines that are kept, and a
class line for each node. No colour can move the end of a line or of a style, so the
colours can be read back from the style lines.
-/

set_option autoImplicit false

namespace FlowchartMerge

namespace Line

def style? (l : Text) : Option (Text × Text × Text) :=
  (Text.after? "classDef " l).bind fun t =>
    (Text.cut? " fill:" t).bind fun name =>
      (Text.cut? "," name.2).bind fun fill =>
        (Text.after? "stroke:" fill.2).bind fun t =>
          (Text.cut? "," t).bind fun stroke =>
            (Text.after? "stroke-width:" stroke.2).map fun _ => (name.1, fill.1, stroke.1)

/-- A text up to the first place of a character is cut there. -/
theorem cut?_append_cons {x : Char} {pat a : Text} (b : Text) (ha : x ∉ a) :
    Text.cut? (x::pat) (a++x::pat++b) = some (a, b) := by
  apply Text.cut?_append (List.cons_ne_nil x pat)
  rintro y ⟨⟩
  exact ha

/-- A name without blanks and colours without commas are read as they were written. -/
theorem style?_styleLine (name drawn : Text) {fill stroke : Text} (hname : ' ' ∉ name)
    (hfill : ',' ∉ fill) (hstroke : ',' ∉ stroke) :
    style? (styleLine (name ++ " fill") fill stroke ("stroke-width:" ++ drawn)) =
      some (name, fill, stroke) := by
  let width : Text := "stroke-width:" ++ drawn
  let afterFill : Text := "stroke:" ++ (stroke ++ "," ++ width)
  let afterName : Text := fill ++ "," ++ afterFill
  have hline : styleLine (name ++ " fill") fill stroke width =
      "classDef " ++ (name ++ " fill:" ++ afterName) := by
    unfold styleLine
    simp [afterName, afterFill]
  have hcutName : Text.cut? " fill:" (name ++ " fill:" ++ afterName) = some (name, afterName) :=
    cut?_append_cons afterName hname
  have hcutFill : Text.cut? "," afterName = some (fill, afterFill) :=
    cut?_append_cons afterFill hfill
  have hcutStroke : Text.cut? "," (stroke ++ "," ++ width) = some (stroke, width) :=
    cut?_append_cons width hstroke
  rw [style?, hline, Text.after?_eq_some_iff.2 rfl, Option.bind_some, hcutName, Option.bind_some,
    hcutFill, Option.bind_some, Text.after?_eq_some_iff.2 rfl, Option.bind_some, hcutStroke,
    Option.bind_some, Text.after?_eq_some_iff.2 rfl]
  rfl

theorem lf_not_mem_styleLine {what fill stroke drawn : Text} (hwhat : '\n' ∉ what)
    (hfill : '\n' ∉ fill) (hstroke : '\n' ∉ stroke) (hdrawn : '\n' ∉ drawn) :
    '\n' ∉ styleLine what fill stroke drawn := by
  unfold styleLine
  simp [hwhat, hfill, hstroke, hdrawn]

end Line

open Line

namespace Palette

variable {p q : Palette}

theorem Usable.style?_added (hp : p.Usable) :
    style? (styleLine "added fill" p.addedFill p.addedStroke "stroke-width:2px;") =
      some (("added" : Text), p.addedFill, p.addedStroke) :=
  style?_styleLine "added" "2px;" (by decide) (hp.not_mem (by decide) .addedFill)
    (hp.not_mem (by decide) .addedStroke)

theorem Usable.style?_removed (hp : p.Usable) :
    style? (styleLine "removed fill" p.removedFill p.removedStroke
      "stroke-width:2px,stroke-dasharray: 5 5;") =
        some (("removed" : Text), p.removedFill, p.removedStroke) :=
  style?_styleLine "removed" "2px,stroke-dasharray: 5 5;" (by decide)
    (hp.not_mem (by decide) .removedFill) (hp.not_mem (by decide) .removedStroke)

/-- Usable palettes that declare the same styles are the same. -/
theorem Usable.eq_of_styleLines (hp : p.Usable) (hq : q.Usable)
    (h : p.styleLines = q.styleLines) : p = q := by
  rw [styleLines_eq, styleLines_eq] at h
  obtain ⟨hadded, hrest⟩ := List.cons.inj h
  obtain ⟨hremoved, -⟩ := List.cons.inj hrest
  have haddedRead := congrArg style? hadded
  rw [hp.style?_added, hq.style?_added] at haddedRead
  have hremovedRead := congrArg style? hremoved
  rw [hp.style?_removed, hq.style?_removed] at hremovedRead
  cases p
  cases q
  simp_all

theorem Usable.lf_not_mem (hp : p.Usable) : ∀ l ∈ p.styleLines, '\n' ∉ l := by
  have hlf : ∀ f, '\n' ∉ p.get f := hp.not_mem (by decide)
  have hadded : '\n' ∉ styleLine "added fill" p.addedFill p.addedStroke "stroke-width:2px;" :=
    lf_not_mem_styleLine (by decide) (hlf .addedFill) (hlf .addedStroke) (by decide)
  have hremoved : '\n' ∉ styleLine "removed fill" p.removedFill p.removedStroke
      "stroke-width:2px,stroke-dasharray: 5 5;" :=
    lf_not_mem_styleLine (by decide) (hlf .removedFill) (hlf .removedStroke) (by decide)
  have hunchanged : '\n' ∉ styleLine "unchanged fill" "#f6f8fa" "#d0d7de" "stroke-width:1px;" :=
    lf_not_mem_styleLine (by decide) (by decide) (by decide) (by decide)
  rw [styleLines_eq]
  simp only [List.forall_mem_cons, List.not_mem_nil, false_implies, implies_true, and_true]
  exact ⟨hadded, hremoved, hunchanged⟩

end Palette

namespace Comparison

def grouped (c : Comparison) : List NodeChange :=
  Status.all.flatMap fun s => c.nodes.filter fun n => n.status == s

theorem grouped_perm (c : Comparison) : c.grouped.Perm c.nodes := by
  unfold grouped Status.all
  simp only [List.flatMap_cons, List.flatMap_nil, List.append_nil]
  induction c.nodes with
  | nil => exact List.Perm.refl _
  | cons n ns ih =>
    cases hn : n.status with
    | added =>
      simp only [List.filter_cons, hn, beq_iff_eq, reduceCtorEq, if_true, if_false]
      exact ih.cons n
    | removed =>
      simp only [List.filter_cons, hn, beq_iff_eq, reduceCtorEq, if_true, if_false]
      exact List.perm_middle.trans (ih.cons n)
    | unchanged =>
      simp only [List.filter_cons, hn, beq_iff_eq, reduceCtorEq, if_true, if_false]
      rw [← List.append_assoc] at ih ⊢
      exact List.perm_middle.trans (ih.cons n)

theorem classLines_eq_map (c : Comparison) :
    c.classLines = c.grouped.map fun n => classLine n.id n.status := by
  rw [classLines_eq, grouped, List.map_flatMap]
  apply List.flatMap_congr
  intro s _
  apply List.map_congr_left
  intro n hn
  have hs : n.status = s := by simpa using (List.mem_filter.1 hn).2
  rw [hs]

theorem length_lines (c : Comparison) (s : Settings) : (c.lines s).length =
    4 + c.nodes.length + c.edges.length + (c.keptLines s).length + c.nodes.length := by
  have hclass : c.classLines.length = c.nodes.length := by
    rw [classLines_eq_map, List.length_map, c.grouped_perm.length_eq]
  have hstyles : s.palette.styleLines.length = 3 := rfl
  simp only [lines, List.cons_append, List.length_cons, List.length_append, List.length_map,
    hclass, hstyles]
  omega

end Comparison

/-- The lines of a merged diagram with usable colours. -/
theorem splitOn_merge {s : Settings} (hs : s.validate = .ok s) (old new : Text) :
    (merge s old new).splitOn '\n' =
      (Comparison.ofDiagrams (.read old) (.read new)).lines s :=
  Comparison.splitOn_render
    (Comparison.sound_ofDiagrams (Diagram.sound_read old) (Diagram.sound_read new))
    (s.validate_eq_ok_iff.1 hs).lf_not_mem

/-- The styles stand right after the header. -/
theorem styleLines_of_merge {s : Settings} (hs : s.validate = .ok s) (old new : Text) :
    (((merge s old new).splitOn '\n').drop 1).take 3 = s.palette.styleLines := by
  rw [splitOn_merge hs]
  rfl

/-- A merged diagram with usable colours has a line for each thing that is written, and names
each node once in a class. Its colours can be read back, so no other usable palette merges any
two diagrams to the same text. -/
theorem merge_sections {s : Settings} (hs : s.validate = .ok s) (old new : Text) :
    let c := Comparison.ofDiagrams (.read old) (.read new)
    let ls := (merge s old new).splitOn '\n'
    let kept := if s.keepDirectives then (Diagram.read new).other else []
    let grouped := [Status.added, .removed, .unchanged].flatMap fun status =>
      c.nodes.filter fun n => n.status == status
    let assigned : List Text := grouped.map fun n => "class " ++ n.id ++ " " ++ n.status.name
    let styles : List Text :=
      ["classDef added fill:" ++ s.palette.addedFill ++ ",stroke:" ++ s.palette.addedStroke ++
         ",stroke-width:2px;",
       "classDef removed fill:" ++ s.palette.removedFill ++ ",stroke:" ++ s.palette.removedStroke ++
         ",stroke-width:2px,stroke-dasharray: 5 5;",
       "classDef unchanged fill:#f6f8fa,stroke:#d0d7de,stroke-width:1px;"]
    let drawn : List Text := c.edges.map fun e =>
      if e.status = .removed then e.source ++ " -.-> " ++ e.target else e.text
    let added : Text := "added"
    let removed : Text := "removed"
    ls.length = 4 + c.nodes.length + c.edges.length + kept.length + c.nodes.length ∧
      ls = c.header :: styles ++ c.nodes.map NodeChange.text ++ drawn ++ kept ++ assigned ∧
      grouped.Perm c.nodes ∧ (grouped.map NodeChange.id).Nodup ∧
      ls[1]?.bind style? = some (added, s.palette.addedFill, s.palette.addedStroke) ∧
      ls[2]?.bind style? = some (removed, s.palette.removedFill, s.palette.removedStroke) ∧
      ∀ (s' : Settings) (old' new' : Text), s'.validate = .ok s' →
        merge s' old' new' = merge s old new → s'.palette = s.palette := by
  intro c ls kept grouped assigned styles drawn added removed
  have hc : c.Sound := Comparison.sound_ofDiagrams (Diagram.sound_read old) (Diagram.sound_read new)
  have hp : s.palette.Usable := s.validate_eq_ok_iff.1 hs
  have hls : ls = c.lines s := splitOn_merge hs old new
  have hperm : grouped.Perm c.nodes := c.grouped_perm
  have hlength : ls.length = 4 + c.nodes.length + c.edges.length + kept.length + c.nodes.length :=
    hls ▸ c.length_lines s
  have hdrawn : c.edges.map EdgeChange.line = drawn := List.map_congr_left fun e _ => e.line_eq
  have hsections : ls =
      c.header :: styles ++ c.nodes.map NodeChange.text ++ drawn ++ kept ++ assigned := by
    rw [hls, Comparison.lines, Comparison.classLines_eq_map, hdrawn]
    rfl
  have hids : (grouped.map NodeChange.id).Nodup :=
    (hperm.map NodeChange.id).nodup_iff.2 hc.nodes_nodup
  have hadded : ls[1]?.bind style? = some (added, s.palette.addedFill, s.palette.addedStroke) := by
    rw [hls, Comparison.lines, Palette.styleLines_eq]
    exact hp.style?_added
  have hremoved : ls[2]?.bind style? =
      some (removed, s.palette.removedFill, s.palette.removedStroke) := by
    rw [hls, Comparison.lines, Palette.styleLines_eq]
    exact hp.style?_removed
  refine ⟨hlength, hsections, hperm, hids, hadded, hremoved, ?_⟩
  intro s' old' new' hs' hmerge
  have hstyles : s'.palette.styleLines = s.palette.styleLines := by
    rw [← styleLines_of_merge hs' old' new', hmerge, styleLines_of_merge hs]
  exact (s'.validate_eq_ok_iff.1 hs').eq_of_styleLines hp hstyles

/-- Colours that hold connectors, colons and blanks leave every line and every style alone. -/
theorem merge_sections_connectors :
    let s : Settings := ⟨⟨"red --> x", "rgb(1 2 3)", "A:::b", " stroke:red"⟩, true⟩
    let short : Settings := { s with keepDirectives := false }
    let ls := (merge s "A --> B\nC" "A[One] --> D\nstyle A fill:#f00\nE -->").splitOn '\n'
    let added : Text := "added"
    let removed : Text := "removed"
    s.validate = .ok s ∧ short.validate = .ok short ∧ ls.length = 16 ∧
      ls[1]?.bind style? = some (added, s.palette.addedFill, s.palette.addedStroke) ∧
      ls[2]?.bind style? = some (removed, s.palette.removedFill, s.palette.removedStroke) ∧
      merge short "A -- yes --> B" "A" = merge s "A ==> B" "A" ∧ short.palette = s.palette := by
  intro s short ls added removed
  have hs : s.validate = .ok s := by decide +kernel
  have hshort : short.validate = .ok short := by decide +kernel
  have hmerge : merge short "A -- yes --> B" "A" = merge s "A ==> B" "A" := by decide +kernel
  obtain ⟨hlength, -, -, -, hadded, hremoved, -⟩ :=
    merge_sections hs "A --> B\nC" "A[One] --> D\nstyle A fill:#f00\nE -->"
  obtain ⟨-, -, -, -, -, -, hunique⟩ := merge_sections hs "A ==> B" "A"
  have hcount : ls.length = 16 := hlength.trans (by decide +kernel)
  exact ⟨hs, hshort, hcount, hadded, hremoved, hmerge, hunique short _ _ hshort hmerge⟩

end FlowchartMerge
