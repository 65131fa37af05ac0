import FlowchartMerge.Storage.System

/-!
# Files in memory

A folder is a list of files, each under the names of the directories that lead to it from
the root and its own, with a working directory. A path is followed name by name, from the
root if it starts with a slash, else from the working directory. There are no links, no
permissions and no repositories.
-/

set_option autoImplicit false

namespace FlowchartMerge

structure Folder where
  home : List Text
  files : List (List Text × ByteArray)
  deriving Inhabited

inductive Place where
  | directory (names : List Text)
  | file (names : List Text) (content : ByteArray)
  | free (names : List Text)
  deriving Inhabited

namespace Folder

def namesOf (path : Text) : List Text := (path.splitOn '/').filter fun p => p ≠ [] ∧ p ≠ ['.']

def usualHome : List Text := ["home"]

def ofFiles (files : List (Text × ByteArray)) : Folder :=
  ⟨usualHome, files.map fun e => (usualHome ++ namesOf e.1, e.2)⟩

def maxNameBytes : Nat := 255

def maxPathBytes : Nat := 4095

def get? (f : Folder) (names : List Text) : Option ByteArray :=
  (f.files.find? fun e => e.1 == names).map Prod.snd

def hasDirectory (f : Folder) (names : List Text) : Bool :=
  names.isPrefixOf f.home || f.files.any fun e => names.isPrefixOf e.1 && e.1 != names

def locate (f : Folder) (names : List Text) : Place :=
  match f.get? names with
  | some content => .file names content
  | none => if f.hasDirectory names then .directory names else .free names

def step (f : Folder) (place : Place) (piece : Text) : Except FileError Place :=
  match place with
  | .file _ _ => .error .notDirectory
  | .free _ => .error .notFound
  | .directory names =>
    if piece = [] ∨ piece = ['.'] then .ok (.directory names)
    -- the root is above itself
    else if piece = ['.', '.'] then .ok (.directory names.dropLast)
    else if maxNameBytes < (bytesOfText piece).size then .error .nameTooLong
    else .ok (f.locate (names++[piece]))

def faultOf (path : Text) : Option FileError :=
  if path.any (fun c => c == '\x00') then some .nulInPath
  else if path.isEmpty then some .notFound
  else if maxPathBytes < (bytesOfText path).size then some .nameTooLong
  else none

def start (f : Folder) (path : Text) : Place :=
  .directory (if Path.isAbsolute path then [] else f.home)

def walk (f : Folder) (path : Text) (pieces : List Text) : Except FileError Place :=
  match faultOf path with
  | some e => .error e
  | none => pieces.foldlM f.step (f.start path)

def follow (f : Folder) (path : Text) : Except FileError Place := f.walk path (path.splitOn '/')

def read (f : Folder) (path : Text) : Except FileError ByteArray :=
  (f.follow path).bind fun
    | .file _ content => .ok content
    | .directory _ => .error .isDirectory
    | .free _ => .error .notFound

def withoutSlashes (path : Text) : Text := Text.stripEnd (fun c => c == '/') path

def piecesAbove (path : Text) : List Text :=
  -- the empty piece asks that the last place be a directory
  ((withoutSlashes path).splitOn '/').dropLast++[[]]

def target (f : Folder) (path : Text) : Except FileError (List Text) :=
  -- a path that ends in a slash names a directory, even where none is: its last name is
  -- never looked up
  if path.getLast? = some '/' then
    (f.walk path (piecesAbove path)).bind fun _ => .error .isDirectory
  else
    (f.follow path).bind fun
      | .file names _ => .ok names
      | .free names => .ok names
      | .directory _ => .error .isDirectory

def put (names : List Text) (content : ByteArray) :
    List (List Text × ByteArray) → List (List Text × ByteArray)
  | [] => [(names, content)]
  | e::es => if e.1 = names then (names, content)::es else e::put names content es

def withFile (f : Folder) (names : List Text) (content : ByteArray) : Folder :=
  { f with files := put names content f.files }

def write (f : Folder) (path : Text) (content : ByteArray) : Except FileError Folder :=
  (f.target path).map fun names => f.withFile names content

def canonical (f : Folder) (path : Text) : Except FileError Text :=
  (f.follow path).bind fun
    | .file names _ => .ok ('/' :: ['/'].intercalate names)
    | .directory names => .ok ('/' :: ['/'].intercalate names)
    | .free _ => .error .notFound

def noRepository : Ended := ⟨false, .empty, bytesOfText "fatal: not a git repository\n"⟩

def system : System Folder where
  read := read
  write := write
  git f := ⟨f.canonical, fun _ => .ok noRepository⟩

def changesSince (f before : Folder) : List (Text × ByteArray) :=
  (f.files.filter fun e => f.home.isPrefixOf e.1 &&
    (before.get? e.1).map ByteArray.toList != some e.2.toList).map
      fun e => (['/'].intercalate (e.1.drop f.home.length), e.2)

end Folder

end FlowchartMerge
