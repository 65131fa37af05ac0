import FlowchartMerge.Table
import FlowchartMerge.Diagram.Connector

/-!
# Flowchart diagrams

A diagram holds a header, nodes and edges in the order in which they were first
named, and the lines that are neither. An edge is known by its two ends: a second
edge between them takes the place of the first.
-/

set_option autoImplicit false

namespace FlowchartMerge

structure Node where
  id : Text
  text : Text
  deriving DecidableEq, Repr, Inhabited

structure Edge where
  id : Text
  source : Text
  target : Text
  connector : Connector
  text : Text
  deriving DecidableEq, Repr, Inhabited

def Edge.key (source target : Text) : Text := source ++ "->" ++ target

def Edge.between (source target : Text) (c : Connector) (line : Text) : Edge :=
  ⟨Edge.key source target, source, target, c, line⟩

structure Diagram where
  header : Option Text
  nodes : Table Node
  edges : Table Edge
  other : List Text
  deriving Inhabited

namespace Diagram

def empty : Diagram := ⟨none, .empty, .empty, []⟩

def defaultHeader : Text := "graph TD"

def headerLine (d : Diagram) : Text := d.header.getD defaultHeader

def isEmpty (d : Diagram) : Bool := d.nodes.isEmpty && d.edges.isEmpty

def addNode (d : Diagram) (n : Node) : Diagram :=
  { d with nodes := d.nodes.insertNew n.id n }

def addEdge (d : Diagram) (e : Edge) : Diagram :=
  { d with edges := d.edges.insert e.id e }

def addOther (d : Diagram) (l : Text) : Diagram := { d with other := d.other++[l] }

end Diagram

end FlowchartMerge
