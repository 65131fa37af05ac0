import FlowchartMerge.Document.Merge
import FlowchartMerge.Path
import FlowchartMerge.Storage.FileError
import FlowchartMerge.Text.Lossy

/-!
# Comparing a file with an earlier revision

The current content of a file is read first, then its earlier content is asked for,
then the block is chosen. The first of these that fails decides the error.

Earlier contents are kept by git. It is asked twice: for the root of the repository that a
file is in, and for the content that a revision has under the file's path below this root.
-/

set_option autoImplicit false

namespace FlowchartMerge

inductive HistoryError where
  | lookupFailed (message : Text)
  | notInRepository (path : Text)
  | noRevision (path revision message : Text)
  | notAddressable (path : Text)
  deriving DecidableEq, Repr, Inhabited

namespace HistoryError

def message : HistoryError → Text
  | .lookupFailed m => "git lookup failed: " ++ m
  | .notInRepository path => path ++ " is not inside a git repository"
  | .noRevision path revision m => "no " ++ revision ++ " revision of " ++ path ++ ": " ++ m
  | .notAddressable path => "cannot address " ++ path ++ " within its repository"

end HistoryError

def defaultRevision : Text := "HEAD"

structure Ended where
  success : Bool
  stdout : ByteArray
  stderr : ByteArray
  deriving Inhabited

structure Git where
  canonical : (path : Text) → Except FileError Text
  run : (args : List Text) → Except FileError Ended

structure Address where
  path : Text
  root : Text
  relative : Text
  deriving DecidableEq, Repr, Inhabited

namespace Git

def runIn (g : Git) (dir : Text) (args : List Text) : Except HistoryError Ended :=
  (g.run ("-C" :: dir :: args)).mapError fun e => .lookupFailed e.message

def rootOf (g : Git) (path : Text) : Except HistoryError Text := do
  let ended ← g.runIn ((Path.parent? path).getD ".") ["rev-parse", "--show-toplevel"]
  if ended.success then return Text.trim (lossyText ended.stdout)
  else throw (.notInRepository path)

def address (g : Git) (path : Text) : Except HistoryError Address := do
  let path ← (g.canonical path).mapError fun e => HistoryError.lookupFailed e.message
  let root ← g.rootOf path
  -- a root that has no other name goes by the one that git gives
  let root := (g.canonical root).toOption.getD root
  match Path.relative? root path with
  | some relative => return ⟨path, root, relative⟩
  | none => throw (.notAddressable path)

def contentAt (g : Git) (revision : Text) (a : Address) : Except HistoryError Text := do
  let ended ← g.runIn a.root ["show", revision ++ ":" ++ a.relative]
  if ended.success then return lossyText ended.stdout
  else throw (.noRevision a.path revision (Text.trim (lossyText ended.stderr)))

def previous (g : Git) (revision path : Text) : Except HistoryError Text :=
  g.address path >>= g.contentAt revision

end Git

inductive RevisionError where
  | unreadable (path : Text) (cause : FileError)
  | history (cause : HistoryError)
  | selection (cause : SelectionError)
  deriving DecidableEq, Repr, Inhabited

namespace RevisionError

def message : RevisionError → Text
  | .unreadable path cause => "failed to read " ++ path ++ ": " ++ cause.message
  | .history cause => cause.message
  | .selection cause => cause.message

end RevisionError

def Versions.ofHistory (path : Text) (current : Except FileError Text)
    (previous : Except HistoryError Text) (sel : Selector) : Except RevisionError Versions := do
  let new ← current.mapError (RevisionError.unreadable path)
  let old ← previous.mapError RevisionError.history
  (sel.choose old new).mapError RevisionError.selection

end FlowchartMerge
