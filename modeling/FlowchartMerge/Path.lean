import FlowchartMerge.Text.Basic

/-!
# Paths

A path is a sequence of components: the root, names, and dots. Slashes that repeat
and dots that stand for the directory itself add nothing, except a dot at the start
of a path; two dots are kept as they are. The directory of a path is what its pieces
before the last component say; the root has none.
-/

set_option autoImplicit false

namespace FlowchartMerge

inductive Component where
  | root
  | here
  | up
  | name (name : Text)
  deriving DecidableEq, Repr, Inhabited

namespace Component

def text : Component → Text
  | .root => ['/']
  | .here => ['.']
  | .up => ['.', '.']
  | .name n => n

def ofPiece? (p : Text) : Option Component :=
  if p = [] ∨ p = ['.'] then none
  else if p = ['.', '.'] then some .up
  else some (.name p)

end Component

namespace Path

def ofPieces : List Text → List Component
  | [] => []
  | p::ps =>
    (if p = ['.'] then some .here else Component.ofPiece? p).toList ++
      ps.filterMap Component.ofPiece?

def components (path : Text) : List Component :=
  match path with
  | '/' :: rest => .root :: (rest.splitOn '/').filterMap Component.ofPiece?
  | _ => ofPieces (path.splitOn '/')

def below? : List Component → List Component → Option (List Component)
  | [], path => some path
  | _::_, [] => none
  | d::dir, c::path => if d = c then below? dir path else none

def relative? (dir path : Text) : Option Text :=
  (below? (components dir) (components path)).bind fun cs =>
    if cs.isEmpty then none else some (['/'].intercalate (cs.map Component.text))

def isAbsolute (path : Text) : Bool := Text.startsWith path ['/']

def join (dir path : Text) : Text :=
  if isAbsolute path || dir.isEmpty then path
  else if dir.getLast? = some '/' then dir++path
  else dir ++ '/' :: path

def shorten (ps : List Text) : List Text :=
  (ps.reverse.dropWhile fun p => (Component.ofPiece? p).isNone).reverse

def parent? (path : Text) : Option Text :=
  match path.splitOn '/' with
  | [] => none
  | first::more =>
    match shorten more with
    | [] => if first = [] then none else some []
    | p::ps =>
      match shorten (p::ps).dropLast with
      | [] => some (if first = [] then ['/'] else first)
      | above => some (['/'].intercalate (first::above))

end Path

end FlowchartMerge
