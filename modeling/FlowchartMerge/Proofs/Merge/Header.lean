import FlowchartMerge.Proofs.Merge.Reading

/-!
# The header of a merged diagram

The header that was chosen stands first, and the last header of a text counts. So
the chosen header holds exactly as long as no text of a node reads as a header of
its own. A text cut out of an edge line can: it was never tested for one.
-/

set_option autoImplicit false

namespace FlowchartMerge

open Line

namespace Comparison

def strayHeaders (c : Comparison) : List Text := c.nodeLines.filter isHeader

theorem header_read_render_of_isPlain {c : Comparison} (h : c.Sound) {s : Settings}
    (hp : s.palette.IsPlain) :
    (Diagram.read (c.render s)).header = some (c.strayHeaders.getLast?.getD c.header) := by
  have hstyles := filterMap_header?_of_other hp.isOther
  rw [header_read_render h, front_eq h hp, List.filterMap_cons, List.map_append,
    List.filterMap_append, hstyles, filterMap_header?, List.nil_append]
  change (c.header::c.strayHeaders).getLast? = _
  rw [List.getLast?_cons]

end Comparison

/-- The merged diagram of two texts keeps the chosen header exactly if the last text of a
node that reads as a header, if there is one, is that header. -/
theorem header_read_merge_iff (old new : Text) :
    let chosen := ((Diagram.read new).header.or (Diagram.read old).header).getD "graph TD"
    let stray := (Comparison.ofDiagrams (.read old) (.read new)).strayHeaders.getLast?
    (Diagram.read (merge {} old new)).header = some (stray.getD chosen) ∧
      ((Diagram.read (merge {} old new)).header = some chosen ↔ ∀ h ∈ stray, h = chosen) := by
  intro chosen stray
  have hc := Comparison.sound_ofDiagrams (Diagram.sound_read old) (Diagram.sound_read new)
  have hh : (Diagram.read (merge {} old new)).header = some (stray.getD chosen) :=
    Comparison.header_read_render_of_isPlain hc Palette.isPlain_default
  refine ⟨hh, ?_⟩
  rw [hh]
  cases stray with
  | none => simp
  | some h => simp

/-- A target that reads as a header takes the place of the header that was chosen. -/
theorem header_read_merge_target :
    (Diagram.read "flowchart LR\nA --> graph TD").header = some "flowchart LR" ∧
      (Diagram.read (merge {} "" "flowchart LR\nA --> graph TD")).header = some "graph TD" := by
  decide +kernel

end FlowchartMerge
