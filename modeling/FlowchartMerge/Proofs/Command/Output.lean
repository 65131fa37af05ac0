import FlowchartMerge.Command.Run
import FlowchartMerge.Proofs.Text.Lines

/-!
# What a command puts out

A plan that does not fail has one result, which goes to a file or to the standard
output. The result of a comparison depends only on what was read and on the two texts
that are compared, and the messages about the work have no part in it.
-/

set_option autoImplicit false

namespace FlowchartMerge

namespace Plan

def result? : Plan → Option (Option Text × Text)
  | .finish r => if r.exit = 0 then some (none, r.stdout) else none
  | .save path content _ _ => some (some path, content)

theorem result?_deliver (v : Verbosity) (stderr : Text) (output : Option Text) (content : Text) :
    (deliver v stderr output content).result? = some (output, content) := by
  cases output <;> rfl

end Plan

namespace Command

variable {w : World} {v : Verbosity} {o : OutputOptions}

theorem result?_emit (s : Settings) (log : List LogEntry) (versions : Versions) :
    (emit v o s log versions).result? = some (o.output, o.written (versions.merge s)) :=
  Plan.result?_deliver _ _ _ _

/-- Texts that are read as diagrams are compared as they are. -/
theorem result?_diffPlan_raw {old new : Text} {i : Inputs} (h : diffInputs w old new o = .ok i)
    (sel : Selector) : (diffPlan w v old new true sel o).result? =
      some (o.output, o.written (merge i.settings i.old i.new)) := by
  rw [diffPlan, h]
  exact result?_emit i.settings _ ⟨i.old, i.new⟩

/-- Texts that are read as documents put out what the documents' comparison is. -/
theorem result?_diffPlan {old new : Text} {i : Inputs} (h : diffInputs w old new o = .ok i)
    {sel : Selector} {merged : Text} (hm : mergeDocuments i.settings sel i.old i.new = .ok merged) :
    (diffPlan w v old new false sel o).result? = some (o.output, o.written merged) := by
  rw [mergeDocuments] at hm
  cases hc : sel.choose i.old i.new with
  | error e =>
    rw [hc] at hm
    cases hm
  | ok versions =>
    have hv : diffVersions false sel i = .ok versions := by
      change (sel.choose i.old i.new).mapError CommandError.selection = _
      rw [hc]
      rfl
    rw [hc] at hm
    cases hm
    rw [diffPlan, h]
    simp only [hv]
    exact result?_emit i.settings _ versions

/-- A file is compared with the content that git has for it at a revision. -/
theorem result?_headPlan {file revision old new : Text} {s : Settings} {sel : Selector}
    {versions : Versions} (hs : o.settings w = .ok s) (hnew : w.text file = .ok new)
    (hold : w.git.previous revision file = .ok old) (hc : sel.choose old new = .ok versions) :
    (headPlan w v file revision sel o).result? =
      some (o.output, o.written (merge s versions.old versions.new)) := by
  have hv : Versions.ofHistory file (.ok new) (.ok old) sel = .ok versions := by
    change (sel.choose old new).mapError RevisionError.selection = _
    rw [hc]
    rfl
  rw [headPlan, hs]
  simp only [hnew, hold, hv]
  exact result?_emit s _ versions

theorem blockRow_eq (b : Block) : blockRow b = Numeral.write b.index ++ "\tlines " ++
    Numeral.write b.startLine ++ "-" ++ Numeral.write b.endLine ++ "\t" ++
      Text.trim (b.source.takeWhile fun c => c != '\n') ++ "\n" := by
  rw [blockRow, Text.trim_head_lines]

theorem result?_blocksPlan {file document : Text} (h : w.input file = .ok document) :
    (blocksPlan w v file).result? =
      some (none, (Block.ofDocument document).flatMap blockRow) := by
  rw [blocksPlan, h]
  rfl

end Command

end FlowchartMerge
