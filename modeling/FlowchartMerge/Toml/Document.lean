import FlowchartMerge.Toml.Scalar

/-!
# Settings documents

A document is read line by line. A header names the table that the lines after it fill;
a line with a key and a value adds one entry to it. A document with anything else in
it, or with an entry that may not be added, has no content. Readers that repeat
themselves are given a number of steps, for which the length of the text suffices.
-/

set_option autoImplicit false

namespace FlowchartMerge.Toml

def elements? (element : Reader Value) : Nat → Reader (List Value)
  | 0, _ => none
  | n+1, t =>
    match skipLines false t with
    | ']' :: r => some ([], r)
    | u =>
      (element u).bind fun p =>
        match skipLines false p.2 with
        | ']' :: r => some ([p.1], r)
        | ',' :: r => (elements? element n r).map fun q => (p.1::q.1, q.2)
        | _ => none

def pair? (value : Reader Value) : Reader (List Text × Value) := fun t =>
  (key? t).bind fun k =>
    match k.2 with
    | '=' :: r => (value (skipPadding r)).map fun p => ((k.1, p.1), p.2)
    | _ => none

def pairs? (value : Reader Value) : Nat → Entries → Reader Entries
  | 0, _, _ => none
  | n+1, es, t =>
    (pair? value t).bind fun p =>
      (Entries.assign p.1.1 p.1.2 .header es).bind fun es =>
        match skipPadding p.2 with
        | '}' :: r => some (es, r)
        | ',' :: r => pairs? value n es r
        | _ => none

def inline? (value : Reader Value) (t : Text) : Option (Entries × Text) :=
  match skipPadding t with
  | '}' :: r => some ([], r)
  | u => pairs? value u.length [] u

def value? : Nat → Reader Value
  | 0, t => scalar? t
  | n+1, t =>
    match t with
    | '[' :: r => (elements? (value? n) t.length r).map fun p => (.array p.1, p.2)
    | '{' :: r => (inline? (value? n) r).map fun p => (.inline p.1, p.2)
    | _ => scalar? t

structure Progress where
  root : Entries
  path : List Text
  deriving Inhabited

namespace Progress

def start : Progress := ⟨[], []⟩

def header (s : Progress) (change : Text → Entries.Change) (path : List Text) :
    Option Progress :=
  path.getLast?.bind fun k =>
    (Entries.within .passed (change k) path.dropLast .header s.root).map fun root =>
      ⟨root, path⟩

def assign (s : Progress) (key : List Text) (v : Value) : Option Progress :=
  (Entries.within .passed (Entries.assign key v) s.path .header s.root).map fun root =>
    { s with root := root }

def readHeader (s : Progress) (change : Text → Entries.Change) (closing : Text) (t : Text) :
    Option (Progress × Text) := do
  let (path, t) ← key? t
  let t ← lineRest? (← Text.after? closing t)
  return (← s.header change path, t)

def readPair (s : Progress) (t : Text) : Option (Progress × Text) := do
  let ((key, v), t) ← pair? (value? maxDepth) t
  let t ← lineRest? t
  return (← s.assign key v, t)

def readLine (s : Progress) (t : Text) : Option (Progress × Text) :=
  match t with
  | '[' :: '[' :: r => s.readHeader Entries.openElement "]]" r
  | '[' :: r => s.readHeader Entries.openTable "]" r
  | '#' :: _ => (lineRest? t).map fun r => (s, r)
  | '\n' :: _ => (lineRest? t).map fun r => (s, r)
  | '\r' :: _ => (lineRest? t).map fun r => (s, r)
  | _ => s.readPair t

def readLines : Nat → Progress → Text → Option Progress
  | 0, _, _ => none
  | n+1, s, t =>
    match skipPadding t with
    | [] => some s
    | u => (s.readLine u).bind fun p => readLines n p.1 p.2

end Progress

def document? (t : Text) : Option Entries :=
  let t := (Text.after? ['\uFEFF'] t).getD t
  (Progress.readLines (t.length + 1) .start t).map Progress.root

end FlowchartMerge.Toml
