import FlowchartMerge.Comparison.Basic
import FlowchartMerge.Settings.Basic

/-!
# The merged diagram

A comparison is written as one diagram: the header, the styles of the three statuses,
every node, every edge, the passthrough lines if they are kept, and a line for each
node that gives it the style of its status.
-/

set_option autoImplicit false

namespace FlowchartMerge

namespace Palette

def styleLines (p : Palette) : List Text :=
  ["classDef added fill:" ++ p.addedFill ++ ",stroke:" ++ p.addedStroke ++ ",stroke-width:2px;",
   "classDef removed fill:" ++ p.removedFill ++ ",stroke:" ++ p.removedStroke ++
     ",stroke-width:2px,stroke-dasharray: 5 5;",
   "classDef unchanged fill:#f6f8fa,stroke:#d0d7de,stroke-width:1px;"]

end Palette

namespace Comparison

def classLine (id : Text) (s : Status) : Text := "class " ++ id ++ " " ++ s.name

def classLines (c : Comparison) : List Text :=
  Status.all.flatMap fun s => (c.nodeIds s).map fun id => classLine id s

def keptLines (c : Comparison) (s : Settings) : List Text :=
  if s.keepDirectives then c.other else []

def lines (c : Comparison) (s : Settings) : List Text :=
  c.header :: s.palette.styleLines ++ c.nodes.map NodeChange.text ++
    c.edges.map EdgeChange.line ++ c.keptLines s ++ c.classLines

def render (c : Comparison) (s : Settings) : Text := Text.joinLines (c.lines s)

end Comparison

def merge (s : Settings) (old new : Text) : Text :=
  (Comparison.ofDiagrams (.read old) (.read new)).render s

end FlowchartMerge
