import FlowchartMerge.Command.Arguments
import FlowchartMerge.Document.Selection
import FlowchartMerge.Storage.History

/-!
# Commands

What a command line asks for: to compare two files, to compare a file with an earlier
revision of it, or to list the blocks of a file. How much is reported may be said before
and after the name of the command; what is said before holds unless it is said again.
-/

set_option autoImplicit false

namespace FlowchartMerge

structure OutputOptions where
  format : Format
  output : Option Text
  config : Option Text
  color : ColorField → Option Text
  keepDirectives : Bool
  stat : Bool

inductive Command where
  | diff (old new : Text) (raw : Bool) (selector : Selector) (options : OutputOptions)
  | head (file revision : Text) (selector : Selector) (options : OutputOptions)
  | blocks (file : Text)

structure Verbosity where
  level : Nat
  quiet : Bool
  deriving DecidableEq, Repr, Inhabited

structure Invocation where
  verbosity : Verbosity
  command : Command

namespace Arguments

def selector? (a : Arguments) : Option Selector :=
  match a.value? .block, a.value? .line with
  | some _, some _ => none
  | some i, none => (Numeral.read? i).map .index
  | none, some n => (Numeral.read? n).map .line
  | none, none => some .first

def outputOptions (a : Arguments) : OutputOptions where
  format := ((a.value? .format).bind Format.ofName?).getD .diagram
  output := a.value? .output
  config := a.value? .config
  color f := a.value? (.color f)
  keepDirectives := a.has .keepDirectives
  stat := a.has .stat

def verbosity (a : Arguments) : Verbosity := ⟨a.count .verbose, a.has .quiet⟩

end Arguments

def stdinName : Text := "-"

namespace Command

def diffUsage : Usage := ⟨Flag.diff, 2, true⟩

def headUsage : Usage := ⟨Flag.head, 1, false⟩

def blocksUsage : Usage := ⟨Flag.blocks, 1, true⟩

def diffOf (a : Arguments) : Except Stop Command :=
  match a.operands, a.selector? with
  | [old, new], some sel => .ok (.diff old new (a.has .raw) sel a.outputOptions)
  | _, _ => .error .misuse

def headOf (a : Arguments) : Except Stop Command :=
  match a.operands, a.selector? with
  | [file], some sel =>
    .ok (.head file ((a.value? .rev).getD defaultRevision) sel a.outputOptions)
  | _, _ => .error .misuse

def blocksOf (a : Arguments) : Except Stop Command :=
  .ok (.blocks (a.operands.head?.getD stdinName))

def ofName? (name : Text) : Option (Usage × (Arguments → Except Stop Command)) :=
  if name = "diff".toList then some (diffUsage, diffOf)
  else if name = "head".toList then some (headUsage, headOf)
  else if name = "blocks".toList then some (blocksUsage, blocksOf)
  else none

def helpOf (names : List Text) : Stop :=
  match names with
  | [] => .help
  | [name] => if name = "help".toList ∨ (ofName? name).isSome then .help else .misuse
  | _ => .misuse

end Command

namespace Verbosity

def combine (program command : Verbosity) : Verbosity where
  level := if command.level = 0 then program.level else command.level
  quiet := program.quiet || command.quiet

end Verbosity

namespace Invocation

def programUsage : Usage := ⟨Flag.program, 0, false⟩

def ofArguments (args : List Text) : Except Stop Invocation := do
  let (program, name, rest) ← programUsage.takeToOperand .empty args
  if name = "help".toList then throw (Command.helpOf rest)
  match Command.ofName? name with
  | none => throw .misuse
  | some (usage, build) =>
    let own ← usage.take .empty none rest
    return ⟨program.verbosity.combine own.verbosity, ← build own⟩

end Invocation

end FlowchartMerge
