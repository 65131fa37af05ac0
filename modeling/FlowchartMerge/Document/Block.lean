import FlowchartMerge.Document.Fence

/-!
# Diagram blocks

The blocks of a document, numbered from zero, with the lines of their fences, counted
from one, and their trimmed source. A block has both of its fences.
-/

set_option autoImplicit false

namespace FlowchartMerge

structure Block where
  index : Nat
  startLine : Nat
  endLine : Nat
  source : Text
  deriving DecidableEq, Repr, Inhabited

namespace Block

def containsLine (b : Block) (line : Nat) : Bool :=
  decide (b.startLine ≤ line) && decide (line ≤ b.endLine)

def ofFences (index line : Nat) : List Fence → List Block
  | [] => []
  | f::fs =>
    let startLine := line+f.lead.count '\n'
    let endLine := startLine+f.opening.count '\n'+f.body.count '\n'
    ⟨index, startLine, endLine, Text.trim f.body⟩ :: ofFences (index+1) endLine fs

def ofDocument (document : Text) : List Block := ofFences 0 1 (Fence.ofDocument document)

end Block

end FlowchartMerge
