import FlowchartMerge.Command.Plan
import FlowchartMerge.Storage.Folder

/-!
# Carrying out a command

The plan of each command, from what can be read. A command that fails writes no
result; its plan is a report of the first error that it meets.
-/

set_option autoImplicit false

namespace FlowchartMerge

namespace Command

structure Inputs where
  settings : Settings
  old : Text
  new : Text
  deriving DecidableEq, Repr

def diffInputs (w : World) (old new : Text) (o : OutputOptions) : Except CommandError Inputs := do
  if old = stdinName ∧ new = stdinName then throw .stdinTwice
  let s ← (o.settings w).mapError .settings
  let oldText ← w.input old
  let newText ← w.input new
  return ⟨s, oldText, newText⟩

def diffVersions (raw : Bool) (sel : Selector) (i : Inputs) : Except CommandError Versions :=
  if raw then .ok ⟨i.old, i.new⟩ else (sel.choose i.old i.new).mapError .selection

def emit (v : Verbosity) (o : OutputOptions) (s : Settings) (log : List LogEntry)
    (versions : Versions) : Plan :=
  let c := Comparison.ofDiagrams (.read versions.old) (.read versions.new)
  let stat := if o.stat then c.summary.text ++ "\n" else []
  deliver v (errorLines v (log ++ LogEntry.comparing versions) ++ stat) o.output
    (o.written (c.render s))

def diffPlan (w : World) (v : Verbosity) (old new : Text) (raw : Bool) (sel : Selector)
    (o : OutputOptions) : Plan :=
  match diffInputs w old new o with
  | .error e => .finish (failure [] e)
  | .ok i =>
    let log := if raw then [] else LogEntry.choosing i.old i.new
    match diffVersions raw sel i with
    | .error e => .finish (failure (errorLines v log) e)
    | .ok versions => emit v o i.settings log versions

def headLog (revision : Text) (current : Except FileError Text)
    (address : Except HistoryError Address) (previous : Except HistoryError Text) :
    List LogEntry :=
  match current, address with
  | .ok new, .ok a => LogEntry.readingCommitted revision a ::
    match previous with
    | .ok old => LogEntry.choosing old new
    | .error _ => []
  | _, _ => []

def headPlan (w : World) (v : Verbosity) (file revision : Text) (sel : Selector)
    (o : OutputOptions) : Plan :=
  match o.settings w with
  | .error e => .finish (failure [] (.settings e))
  | .ok s =>
    let current := w.text file
    let previous := w.git.previous revision file
    let log := headLog revision current (w.git.address file) previous
    match Versions.ofHistory file current previous sel with
    | .error e => .finish (failure (errorLines v log) (.revision e))
    | .ok versions => emit v o s (log ++ [LogEntry.revisionLoaded file revision]) versions

def blockRow (b : Block) : Text :=
  Numeral.write b.index ++ "\tlines " ++ Numeral.write b.startLine ++ "-" ++
    Numeral.write b.endLine ++ "\t" ++ Text.trim ((Text.lines b.source).head?.getD []) ++ "\n"

def blocksPlan (w : World) (v : Verbosity) (file : Text) : Plan :=
  match w.input file with
  | .error e => .finish (failure [] e)
  | .ok document =>
    deliver v (errorLines v [LogEntry.blocksFound document]) none
      ((Block.ofDocument document).flatMap blockRow)

def plan (w : World) (v : Verbosity) : Command → Plan
  | .diff old new raw sel o => diffPlan w v old new raw sel o
  | .head file revision sel o => headPlan w v file revision sel o
  | .blocks file => blocksPlan w v file

def files : Command → List Text
  | .diff old new _ _ o => o.config.toList ++ [old, new].filter fun n => n ≠ stdinName
  | .head file _ _ o => o.config.toList ++ [file]
  | .blocks file => [file].filter fun n => n ≠ stdinName

def readsStdin : Command → Bool
  | .diff old new _ _ _ => (old == stdinName) != (new == stdinName)
  | .head _ _ _ _ => false
  | .blocks file => file == stdinName

end Command

def versionText : Text := "mmdiff 0.1.0\n"

def usageText : Text := Text.joinLines
  ["Merge two versions of a Mermaid flowchart into one diagram highlighting what changed",
   [],
   "Usage: mmdiff [-v]... [-q] COMMAND",
   [],
   "Commands:",
   "  diff OLD NEW  Diff two files (or \"-\" for stdin)",
   "  head FILE     Diff a file against a committed git revision",
   "  blocks [FILE] List the mermaid blocks of a document",
   []]

namespace Stop

def report : Stop → Report
  | .help => ⟨0, usageText, []⟩
  | .version => ⟨0, versionText, []⟩
  | .misuse => ⟨2, [], usageText⟩

end Stop

namespace Invocation

def plan (w : World) (i : Invocation) : Plan := i.command.plan w i.verbosity

end Invocation

def System.run {σ : Type} (S : System σ) (s : σ) (stdin : ByteArray) (args : List Text) :
    Report × σ :=
  match Invocation.ofArguments args with
  | .error stop => (stop.report, s)
  | .ok i => (i.plan (.ofSystem S s stdin)).perform S s

def Folder.run (f : Folder) (stdin : ByteArray) (args : List Text) : Report × Folder :=
  Folder.system.run f stdin args

end FlowchartMerge
