import FlowchartMerge.Comparison.Merge
import FlowchartMerge.Comparison.Summary

/-!
# Comparing one version after another

A run starts from the empty text and compares each version with a baseline. The
baseline is the version before, or the merged diagram of the step before: in the
second case the merged diagrams gather everything that any version had.
-/

set_option autoImplicit false

namespace FlowchartMerge

inductive Baseline where
  | version
  | merged
  deriving DecidableEq, Repr, Inhabited

structure Step where
  comparison : Comparison
  merged : Text
  deriving DecidableEq, Repr, Inhabited

namespace Step

def of (s : Settings) (old new : Text) : Step :=
  let c := Comparison.ofDiagrams (.read old) (.read new)
  ⟨c, c.render s⟩

def run (s : Settings) (b : Baseline) : Text → List Text → List Step
  | _, [] => []
  | old, version::versions =>
    let step := of s old version
    step :: run s b (match b with | .version => version | .merged => step.merged) versions

end Step

end FlowchartMerge
