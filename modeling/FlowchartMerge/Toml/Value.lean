import FlowchartMerge.Number.Binary64

/-!
# Values of a settings document

Tables keep their entries in order. How a table came about decides what may still be
added to it: a table that a header only passes through may get a header of its own
later, one that a dotted key made may be extended by dotted keys, and a table written
in line is complete. A path enters a list of tables at its last element.
-/

set_option autoImplicit false

namespace FlowchartMerge.Toml

inductive Origin where
  | passed
  | dotted
  | header
  deriving DecidableEq, Repr, Inhabited

inductive Value where
  | string (text : Text)
  | integer (number : Int)
  | float (number : Binary64)
  | boolean (value : Bool)
  | moment
  | array (elements : List Value)
  | inline (entries : List (Text × Value))
  | table (origin : Origin) (entries : List (Text × Value))
  | tables (elements : List (List (Text × Value)))
  deriving Repr, Inhabited

abbrev Entries := List (Text × Value)

namespace Entries

def get? (es : Entries) (k : Text) : Option Value :=
  (es.find? fun e => e.1 == k).map Prod.snd

def replace (es : Entries) (k : Text) (v : Value) : Entries :=
  es.map fun e => if e.1 = k then (k, v) else e

def erase (es : Entries) (k : Text) : Entries := es.filter fun e => e.1 != k

abbrev Change := Origin → Entries → Option Entries

def within (made : Origin) (change : Change) : List Text → Change
  | [], o, es => change o es
  | k::ks, _, es =>
    match get? es k with
    | none => (within made change ks made []).map fun t => es ++ [(k, .table made t)]
    | some (.table o t) =>
      if made = .dotted ∧ o = .header then none
      else (within made change ks o t).map fun t => es.replace k (.table o t)
    | some (.tables ts) =>
      ts.getLast?.bind fun t =>
        (within made change ks .header t).map fun t =>
          es.replace k (.tables (ts.dropLast ++ [t]))
    | some _ => none

def openTable (k : Text) : Change := fun _ es =>
  match get? es k with
  | none => some (es ++ [(k, .table .header [])])
  | some (.table .passed t) => some (es.erase k ++ [(k, .table .header t)])
  | some _ => none

def openElement (k : Text) : Change := fun _ es =>
  match get? es k with
  | none => some (es ++ [(k, .tables [[]])])
  | some (.tables ts) => some (es.replace k (.tables (ts ++ [[]])))
  | some _ => none

def insertNew (viaDots : Bool) (k : Text) (v : Value) : Change := fun o es =>
  if (o == .dotted) == viaDots && (get? es k).isNone then some (es ++ [(k, v)]) else none

def assign (path : List Text) (v : Value) : Change := fun o es =>
  match path.getLast? with
  | some k => within .dotted (insertNew (decide (1 < path.length)) k v) path.dropLast o es
  | none => none

end Entries

end FlowchartMerge.Toml
