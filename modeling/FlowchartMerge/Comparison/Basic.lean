import FlowchartMerge.Diagram.Line

/-!
# Comparing two diagrams

Nodes are matched by their keys and edges by theirs. The comparison lists what the
new diagram has, in its order, and then what only the old one has, in its order, so
nothing of either is lost and nothing is listed twice.
-/

set_option autoImplicit false

namespace FlowchartMerge

inductive Status where
  | added
  | removed
  | unchanged
  deriving DecidableEq, Repr, Inhabited

namespace Status

def all : List Status := [.added, .removed, .unchanged]

def name : Status → Text
  | .added => "added"
  | .removed => "removed"
  | .unchanged => "unchanged"

end Status

structure NodeChange where
  id : Text
  status : Status
  text : Text
  deriving DecidableEq, Repr, Inhabited

structure EdgeChange where
  id : Text
  source : Text
  target : Text
  status : Status
  text : Text
  deriving DecidableEq, Repr, Inhabited

namespace EdgeChange

def line (e : EdgeChange) : Text :=
  match e.status with
  | .removed => e.source ++ " " ++ Connector.dotted.token ++ " " ++ e.target
  | .added => e.text
  | .unchanged => e.text

end EdgeChange

def Node.change (n : Node) (s : Status) : NodeChange := ⟨n.id, s, n.text⟩

def Edge.change (e : Edge) (s : Status) : EdgeChange := ⟨e.id, e.source, e.target, s, e.text⟩

def changes {α β : Type} (id : α → Text) (change : α → Status → β) (old new : Table α) :
    List β :=
  new.values.map (fun a => change a (if old.contains (id a) then .unchanged else .added)) ++
    (old.values.filter fun a => !new.contains (id a)).map fun a => change a .removed

structure Comparison where
  header : Text
  nodes : List NodeChange
  edges : List EdgeChange
  other : List Text
  deriving DecidableEq, Repr, Inhabited

namespace Comparison

def chooseHeader (old new : Diagram) : Text :=
  (new.header.or old.header).getD Diagram.defaultHeader

def ofDiagrams (old new : Diagram) : Comparison where
  header := chooseHeader old new
  nodes := changes Node.id Node.change old.nodes new.nodes
  edges := changes Edge.id Edge.change old.edges new.edges
  other := new.other

def nodeIds (c : Comparison) (s : Status) : List Text :=
  (c.nodes.filter fun n => n.status == s).map NodeChange.id

end Comparison

end FlowchartMerge
