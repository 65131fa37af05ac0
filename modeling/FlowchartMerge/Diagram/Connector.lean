import FlowchartMerge.Text.Basic

/-!
# Connectors

The four tokens that join two nodes. A line may hold several of them; the first in
the order of `Connector.all` that occurs anywhere in the line is the line's
connector, and the line is cut at its first occurrence.
-/

set_option autoImplicit false

namespace FlowchartMerge

inductive Connector where
  | arrow
  | line
  | dotted
  | thick
  deriving DecidableEq, Repr, Inhabited

namespace Connector

def all : List Connector := [.arrow, .line, .dotted, .thick]

def token : Connector → Text
  | .arrow => "-->"
  | .line => "---"
  | .dotted => "-.->"
  | .thick => "==>"

def find? (l : Text) : Option Connector := all.find? fun c => Text.contains l c.token

def cut? (l : Text) : Option (Connector × Text × Text) :=
  (find? l).bind fun c => (Text.cut? c.token l).map fun p => (c, p)

theorem mem_all (c : Connector) : c ∈ all := by cases c <;> decide

theorem contains_of_find? {l : Text} {c : Connector} (h : find? l = some c) :
    Text.contains l c.token = true := by
  have hc := List.find?_some h
  exact hc

theorem cut?_eq_none_iff (l : Text) : cut? l = none ↔ find? l = none := by
  unfold cut?
  cases h : find? l with
  | none => simp
  | some c =>
    have hc := contains_of_find? h
    simp only [Text.contains, Option.isSome_iff_exists] at hc
    obtain ⟨p, hp⟩ := hc
    simp [hp]

end Connector

end FlowchartMerge
