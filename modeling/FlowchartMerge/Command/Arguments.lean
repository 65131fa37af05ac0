import FlowchartMerge.Command.Flag

/-!
# Arguments

The arguments of a command are taken from left to right. An argument after two dashes
names a flag, an argument after one dash is a row of letters, and every other argument
is an operand, as is everything after two dashes that stand alone. A value follows its
flag directly, after an equals sign, or in the next argument. Only the flag for more
messages may be repeated. The first argument that is wrong, or that asks for help, decides.
-/

set_option autoImplicit false

namespace FlowchartMerge

inductive Stop where
  | help
  | version
  | misuse
  deriving DecidableEq, Repr, Inhabited

structure Arguments where
  switches : List Flag
  values : List (Flag × Text)
  operands : List Text
  deriving DecidableEq, Repr, Inhabited

namespace Arguments

def empty : Arguments := ⟨[], [], []⟩

def has (a : Arguments) (f : Flag) : Bool := a.switches.contains f

def count (a : Arguments) (f : Flag) : Nat := a.switches.count f

def value? (a : Arguments) (f : Flag) : Option Text :=
  (a.values.find? fun e => e.1 == f).map Prod.snd

def addSwitch (a : Arguments) (f : Flag) : Except Stop Arguments :=
  match f with
  | .help => .error .help
  | .version => .error .version
  | .verbose => .ok { a with switches := a.switches ++ [f] }
  | f =>
    if a.has f then .error .misuse else .ok { a with switches := a.switches ++ [f] }

def addValue (a : Arguments) (f : Flag) (value : Text) : Except Stop Arguments :=
  if (a.value? f).isSome || !f.accepts value then .error .misuse
  else .ok { a with values := a.values ++ [(f, value)] }

end Arguments

structure Usage where
  flags : List Flag
  maxOperands : Nat
  emptyOperands : Bool
  deriving DecidableEq, Repr, Inhabited

namespace Usage

def addOperand (u : Usage) (a : Arguments) (operand : Text) : Except Stop Arguments :=
  if a.operands.length < u.maxOperands ∧ (u.emptyOperands = true ∨ operand ≠ []) then
    .ok { a with operands := a.operands ++ [operand] }
  else .error .misuse

def ofLong? (u : Usage) (name : Text) : Option Flag := u.flags.find? fun f => f.long == name

def ofShort? (u : Usage) (c : Char) : Option Flag := u.flags.find? fun f => f.short? == some c

abbrev Pending := Arguments × Option Flag

def addLong (u : Usage) (a : Arguments) (body : Text) : Except Stop Pending :=
  let name := body.takeWhile fun c => c != '='
  match u.ofLong? name, body.dropWhile fun c => c != '=' with
  | some f, _::value =>
    if f.takesValue then (a.addValue f value).map fun a => (a, .none) else .error .misuse
  | some f, [] =>
    if f.takesValue then .ok (a, some f) else (a.addSwitch f).map fun a => (a, .none)
  | none, _ => .error .misuse

def addShort (u : Usage) : Arguments → Text → Except Stop Pending
  | a, [] => .ok (a, .none)
  | a, c::cs =>
    match u.ofShort? c with
    | none => .error .misuse
    | some f =>
      if f.takesValue then
        -- no more letters: the rest is the value
        match cs with
        | [] => .ok (a, some f)
        | '=' :: value => (a.addValue f value).map fun a => (a, .none)
        | value => (a.addValue f value).map fun a => (a, .none)
      else (a.addSwitch f).bind fun a => addShort u a cs

def isFlag : Text → Bool
  | '-' :: _ :: _ => true
  | _ => false

def addFlag (u : Usage) (a : Arguments) : Text → Except Stop Pending
  | '-' :: '-' :: body => u.addLong a body
  | '-' :: body => u.addShort a body
  | _ => .error .misuse

def separator : Text := "--"

def take (u : Usage) : Arguments → Option Flag → List Text → Except Stop Arguments
  | a, none, [] => .ok a
  | _, some _, [] => .error .misuse
  | a, some f, arg::args =>
    if isFlag arg then .error .misuse
    else (a.addValue f arg).bind fun a => u.take a none args
  | a, none, arg::args =>
    if arg = separator then args.foldlM u.addOperand a
    else if isFlag arg then (u.addFlag a arg).bind fun p => u.take p.1 p.2 args
    else (u.addOperand a arg).bind fun a => u.take a none args

def takeToOperand (u : Usage) : Arguments → List Text → Except Stop (Arguments × Text × List Text)
  | _, [] => .error .misuse
  | a, arg::args =>
    if arg = separator then .error .misuse
    else if isFlag arg then (u.addFlag a arg).bind fun p => u.takeToOperand p.1 args
    else .ok (a, arg, args)

end Usage

end FlowchartMerge
