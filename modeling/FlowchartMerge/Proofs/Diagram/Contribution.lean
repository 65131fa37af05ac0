import FlowchartMerge.Proofs.Table
import FlowchartMerge.Proofs.Text.Lines

/-!
# What each line contributes

A line adds to at most two of the four parts of a diagram, and the parts do not see
each other: the header is the last one declared, the nodes keep their first mention,
the edges keep their last line, and the other lines are kept in order. Reading a
text is therefore four independent passes over its significant lines.
-/

set_option autoImplicit false

namespace FlowchartMerge

namespace Line

def header? : Line → Option Text
  | .header l => some l
  | _ => none

def mentions : Line → List Node
  | .edge s t _ _ => [s, t]
  | .node n => [n]
  | _ => []

def edge? : Line → Option Edge
  | .edge s t c l => some (.between s.id t.id c l)
  | _ => none

def other? : Line → Option Text
  | .dangling l => some l
  | .passthrough l => some l
  | _ => none

def statements (t : Text) : List Line := (significant t).map classify

theorem statements_joinLines (ls : List Text) :
    statements (Text.joinLines ls) = ls.flatMap statements := by
  unfold statements
  rw [significant_joinLines, List.map_flatMap]

theorem statements_of_isLine {l : Text} (h : IsLine l) : statements l = [classify l] := by
  rw [statements, h, List.map_singleton]

theorem flatMap_statements (ls : List Text) (h : ∀ l ∈ ls, IsLine l) :
    ls.flatMap statements = ls.map classify := by
  unfold statements
  rw [← List.map_flatMap, flatMap_significant ls h]

end Line

namespace Diagram

open Line

/-- A diagram is known by its four parts. -/
theorem eq_of_parts {d d' : Diagram} (hheader : d.header = d'.header)
    (hnodes : d.nodes = d'.nodes) (hedges : d.edges = d'.edges) (hother : d.other = d'.other) :
    d = d' := by
  cases d
  cases d'
  simp only [Diagram.mk.injEq]
  exact ⟨hheader, hnodes, hedges, hother⟩

theorem header_add (d : Diagram) (l : Line) : (d.add l).header = l.header?.or d.header := by
  cases l <;> rfl

theorem nodes_add (d : Diagram) (l : Line) :
    (d.add l).nodes = l.mentions.foldl (fun m n => m.insertNew n.id n) d.nodes := by
  cases l <;> rfl

theorem edges_add (d : Diagram) (l : Line) :
    (d.add l).edges = l.edge?.toList.foldl (fun m e => m.insert e.id e) d.edges := by
  cases l <;> rfl

theorem other_add (d : Diagram) (l : Line) : (d.add l).other = d.other++l.other?.toList := by
  cases l <;> simp [add, addNode, addEdge, addOther, other?]

theorem ofLines_concat (ls : List Line) (l : Line) : ofLines (ls++[l]) = (ofLines ls).add l := by
  simp [ofLines]

theorem header_ofLines (ls : List Line) :
    (ofLines ls).header = (ls.filterMap header?).getLast? := by
  induction ls using List.reverseRecOn with
  | nil => rfl
  | append_singleton ls l ih =>
    rw [ofLines_concat, header_add, ih, List.filterMap_append, List.getLast?_append]
    cases l <;> rfl

theorem nodes_ofLines (ls : List Line) :
    (ofLines ls).nodes = Table.ofFirst Node.id (ls.flatMap mentions) := by
  induction ls using List.reverseRecOn with
  | nil => rfl
  | append_singleton ls l ih =>
    rw [ofLines_concat, nodes_add, ih, List.flatMap_append, List.flatMap_singleton]
    simp only [Table.ofFirst, List.foldl_append]

theorem edges_ofLines (ls : List Line) :
    (ofLines ls).edges = Table.ofLast Edge.id (ls.filterMap edge?) := by
  induction ls using List.reverseRecOn with
  | nil => rfl
  | append_singleton ls l ih =>
    rw [ofLines_concat, edges_add, ih, List.filterMap_append]
    simp only [Table.ofLast, List.foldl_append]
    cases l <;> rfl

theorem other_ofLines (ls : List Line) : (ofLines ls).other = ls.filterMap other? := by
  induction ls using List.reverseRecOn with
  | nil => rfl
  | append_singleton ls l ih =>
    rw [ofLines_concat, other_add, ih, List.filterMap_append]
    cases l <;> rfl

theorem read_eq (t : Text) : read t = ofLines (statements t) := rfl

/-- A text that reads as one line describes what that line says. -/
theorem read_of_isLine {l : Text} (h : IsLine l) : read l = empty.add (classify l) := by
  rw [read_eq, statements_of_isLine h]
  rfl

end Diagram

end FlowchartMerge
