import FlowchartMerge.Document.Block
import FlowchartMerge.Number.Numeral

/-!
# Choosing a block in two versions of a document

A selector is resolved in the new version, or in the old one when the new one has no
block. The same index is then taken in both versions; a version that has no block
there contributes the empty diagram.
-/

set_option autoImplicit false

namespace FlowchartMerge

inductive Selector where
  | first
  | index (index : Nat)
  | line (line : Nat)
  deriving DecidableEq, Repr, Inhabited

inductive SelectionError where
  | noBlock
  | noBlockAtLine (line : Nat)
  | indexOutOfRange (index count : Nat)
  deriving DecidableEq, Repr, Inhabited

namespace SelectionError

def message : SelectionError → Text
  | .noBlock => "no mermaid block found in either version"
  | .noBlockAtLine line => "no mermaid block encloses line " ++ Numeral.write line
  | .indexOutOfRange index count =>
    "mermaid block index " ++ Numeral.write index ++ " out of range (" ++
      Numeral.write count ++ " blocks)"

end SelectionError

structure Versions where
  old : Text
  new : Text
  deriving DecidableEq, Repr, Inhabited

namespace Selector

def resolve (bs : List Block) : Selector → Except SelectionError Nat
  | .first => .ok 0
  | .index i => if i < bs.length then .ok i else .error (.indexOutOfRange i bs.length)
  | .line n =>
    match bs.findIdx? fun b => b.containsLine n with
    | some i => .ok i
    | none => .error (.noBlockAtLine n)

def sourceAt (bs : List Block) (i : Nat) : Text := (bs[i]?.map Block.source).getD []

def reference (old new : List Block) : List Block := if new.isEmpty then old else new

def chooseBlocks (old new : List Block) (s : Selector) : Except SelectionError Versions :=
  if old.isEmpty && new.isEmpty then .error .noBlock else
    (s.resolve (reference old new)).map fun i => ⟨sourceAt old i, sourceAt new i⟩

def choose (old new : Text) (s : Selector) : Except SelectionError Versions :=
  chooseBlocks (Block.ofDocument old) (Block.ofDocument new) s

end Selector

end FlowchartMerge
