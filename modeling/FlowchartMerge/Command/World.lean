import FlowchartMerge.Command.Basic
import FlowchartMerge.Page
import FlowchartMerge.Settings.Document
import FlowchartMerge.Storage.System

/-!
# What a command reads

The files, the standard input and the earlier revisions that a command may read, the
errors by which it fails, and the settings that it works with. Flags override what the
settings file says, and the colours are checked in the file and once more at the end.
-/

set_option autoImplicit false

namespace FlowchartMerge

structure World where
  read : Text → Except FileError ByteArray
  stdin : ByteArray
  git : Git

inductive CommandError where
  | stdinTwice
  | settings (cause : SettingsError)
  | input (path : Text) (cause : FileError)
  | stdin (cause : FileError)
  | selection (cause : SelectionError)
  | revision (cause : RevisionError)
  | output (path : Text) (cause : FileError)
  deriving DecidableEq, Repr, Inhabited

namespace CommandError

def message : CommandError → Text
  | .stdinTwice => "only one of OLD and NEW can be read from stdin"
  | .settings cause => cause.message
  | .input path _ => "Failed to read file: " ++ path
  | .stdin _ => "Failed to read from stdin"
  | .selection cause => cause.message
  | .revision cause => cause.message
  | .output path _ => "Failed to write to: " ++ path

def cause? : CommandError → Option Text
  | .settings (.unreadable _ cause) => some cause.message
  | .input _ cause => some cause.message
  | .stdin cause => some cause.message
  | .revision (.unreadable _ cause) => some cause.message
  | .revision (.history (.lookupFailed m)) => some m
  | .output _ cause => some cause.message
  | _ => none

def report (e : CommandError) : Text :=
  "Error: " ++ e.message ++ "\n" ++
    match e.cause? with
    | some cause => "\nCaused by:\n    " ++ cause ++ "\n"
    | none => []

end CommandError

namespace World

def ofSystem {σ : Type} (S : System σ) (s : σ) (stdin : ByteArray) : World :=
  ⟨S.read s, stdin, S.git s⟩

def text (w : World) (path : Text) : Except FileError Text := (w.read path).bind textOfBytes

def input (w : World) (name : Text) : Except CommandError Text :=
  if name = stdinName then (textOfBytes w.stdin).mapError .stdin
  else (w.text name).mapError (.input name)

end World

namespace OutputOptions

def apply (o : OutputOptions) (s : Settings) : Settings where
  palette := s.palette.override o.color
  keepDirectives := s.keepDirectives || o.keepDirectives

def fileSettings (o : OutputOptions) (w : World) : Except SettingsError Settings :=
  match o.config with
  | some path => Settings.ofFile path (w.text path)
  | none => .ok {}

def settings (o : OutputOptions) (w : World) : Except SettingsError Settings := do
  (o.apply (← o.fileSettings w)).validate.mapError SettingsError.badColor

def written (o : OutputOptions) (merged : Text) : Text :=
  match o.format with
  | .diagram => merged ++ "\n"
  | .page => Page.render merged

end OutputOptions

end FlowchartMerge
