import FlowchartMerge.Diagram.Basic

/-!
# The lines of a diagram

Each significant line is read by itself, in this order: a header, a line with a
connector, a line that names a node. What fits none of these is passed through.
-/

set_option autoImplicit false

namespace FlowchartMerge

inductive Line where
  | header (text : Text)
  | edge (source target : Node) (connector : Connector) (text : Text)
  | node (node : Node)
  | dangling (text : Text)
  | passthrough (text : Text)
  deriving DecidableEq, Repr, Inhabited

namespace Line

def isWordChar (c : Char) : Bool := c.isAlphanum || c == '_'

def word? (t : Text) : Option Text :=
  let w := t.takeWhile isWordChar
  if w.isEmpty then none else some w

def mention? (t : Text) : Option Node := (word? t).map fun w => ⟨w, t⟩

def isDirection (t : Text) : Bool :=
  match t.span isBlank with
  | (_::_, c::_) => c.isUpper
  | _ => false

def headerKeywords : List Text := ["graph", "flowchart"]

def isHeader (l : Text) : Bool :=
  headerKeywords.any fun k => ((Text.after? k l).map isDirection).getD false

def directives : List Text := ["classDef", "class ", "style "]

def isDirective (l : Text) : Bool := directives.any fun d => Text.startsWith l d

def ofCut (l : Text) (c : Connector) (left right : Text) : Line :=
  match mention? (Text.trim left), mention? (Text.trim right) with
  | some source, some target => .edge source target c l
  | _, _ => .dangling l

def ofPlain (l : Text) : Line :=
  match mention? l with
  | some n => if isDirective l then .passthrough l else .node n
  | none => .passthrough l

def classify (l : Text) : Line :=
  if isHeader l then .header l else
    match Connector.cut? l with
    | some (c, left, right) => ofCut l c left right
    | none => ofPlain l

def isSurround (c : Char) : Bool := isBlank c || c == '\uFEFF'

def bare (l : Text) : Text := Text.strip isSurround l

def isComment (l : Text) : Bool := Text.startsWith l "%%"

def isSignificant (l : Text) : Bool := !l.isEmpty && !isComment l

def significant (t : Text) : List Text := ((Text.lines t).map bare).filter isSignificant

end Line

namespace Diagram

def add (d : Diagram) : Line → Diagram
  | .header l => { d with header := some l }
  | .edge s t c l => ((d.addNode s).addNode t).addEdge (.between s.id t.id c l)
  | .node n => d.addNode n
  | .dangling l => d.addOther l
  | .passthrough l => d.addOther l

def ofLines (ls : List Line) : Diagram := ls.foldl add empty

def read (t : Text) : Diagram := ofLines ((Line.significant t).map Line.classify)

end Diagram

end FlowchartMerge
