import FlowchartMerge.Comparison.Basic
import FlowchartMerge.Number.Numeral

/-!
# Counting changes

How many nodes and edges there are of each status, and the one line that says so.
-/

set_option autoImplicit false

namespace FlowchartMerge

structure Tally where
  added : Nat
  removed : Nat
  unchanged : Nat
  deriving DecidableEq, Repr, Inhabited

namespace Tally

def ofStatuses (ss : List Status) : Tally :=
  ⟨ss.count .added, ss.count .removed, ss.count .unchanged⟩

def hasChanges (t : Tally) : Bool := decide (0 < t.added) || decide (0 < t.removed)

def text (t : Tally) : Text :=
  "+" ++ Numeral.write t.added ++ " -" ++ Numeral.write t.removed ++ " =" ++ Numeral.write t.unchanged

end Tally

structure Summary where
  nodes : Tally
  edges : Tally
  deriving DecidableEq, Repr, Inhabited

namespace Summary

def hasChanges (s : Summary) : Bool := s.nodes.hasChanges || s.edges.hasChanges

def text (s : Summary) : Text := "nodes: " ++ s.nodes.text ++ ", edges: " ++ s.edges.text

end Summary

def Comparison.summary (c : Comparison) : Summary :=
  ⟨.ofStatuses (c.nodes.map NodeChange.status), .ofStatuses (c.edges.map EdgeChange.status)⟩

end FlowchartMerge
