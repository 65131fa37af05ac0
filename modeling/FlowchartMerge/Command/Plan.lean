import FlowchartMerge.Command.Log
import FlowchartMerge.Command.World

/-!
# What a command writes

A command writes one result, to a file if one is named, else to the standard output.
Everything is computed before anything is written, so what remains to be done is a
plan: a report, or a file to save with the reports of both ways in which that may end.
-/

set_option autoImplicit false

namespace FlowchartMerge

structure Report where
  exit : Nat
  stdout : Text
  stderr : Text
  deriving DecidableEq, Repr, Inhabited

inductive Plan where
  | finish (report : Report)
  | save (path content : Text) (saved : Report) (refused : FileError → Report)

namespace Plan

def perform {σ : Type} (S : System σ) (s : σ) : Plan → Report × σ
  | .finish r => (r, s)
  | .save path content saved refused =>
    match S.write s path (bytesOfText content) with
    | .ok after => (saved, after)
    | .error e => (refused e, s)

end Plan

def errorLines (v : Verbosity) (log : List LogEntry) : Text :=
  (log.filter (LogEntry.isShown v)).flatMap LogEntry.row

def failure (stderr : Text) (e : CommandError) : Report := ⟨1, [], stderr ++ e.report⟩

def deliver (v : Verbosity) (stderr : Text) (output : Option Text) (content : Text) : Plan :=
  match output with
  | none => .finish ⟨0, content, stderr⟩
  | some path => .save path content ⟨0, [], stderr ++ errorLines v [LogEntry.saved path]⟩
      fun e => failure stderr (.output path e)

end FlowchartMerge
