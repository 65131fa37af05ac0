import FlowchartMerge.Settings.Basic
import FlowchartMerge.Number.Numeral

/-!
# Flags

The flags of the command line, with their long and short spellings, and the values
that those accept which take one.
-/

set_option autoImplicit false

namespace FlowchartMerge

inductive Flag where
  | verbose
  | quiet
  | help
  | version
  | raw
  | block
  | line
  | rev
  | format
  | output
  | config
  | color (field : ColorField)
  | keepDirectives
  | stat
  deriving DecidableEq, Repr, Inhabited

inductive Format where
  | diagram
  | page
  deriving DecidableEq, Repr, Inhabited

namespace Format

def ofName? (t : Text) : Option Format :=
  if t = "mermaid".toList then some .diagram
  else if t = "html".toList then some .page
  else none

end Format

namespace Flag

def long : Flag → Text
  | .verbose => "verbose"
  | .quiet => "quiet"
  | .help => "help"
  | .version => "version"
  | .raw => "raw"
  | .block => "block"
  | .line => "line"
  | .rev => "rev"
  | .format => "format"
  | .output => "output"
  | .config => "config"
  | .color .addedFill => "added-fill"
  | .color .addedStroke => "added-stroke"
  | .color .removedFill => "removed-fill"
  | .color .removedStroke => "removed-stroke"
  | .keepDirectives => "keep-directives"
  | .stat => "stat"

def short? : Flag → Option Char
  | .verbose => some 'v'
  | .quiet => some 'q'
  | .help => some 'h'
  | .version => some 'V'
  | .format => some 'f'
  | .output => some 'o'
  | _ => none

def takesValue : Flag → Bool
  | .block => true
  | .line => true
  | .rev => true
  | .format => true
  | .output => true
  | .config => true
  | .color _ => true
  | _ => false

def accepts (f : Flag) (value : Text) : Bool :=
  match f with
  | .block => (Numeral.read? value).isSome
  | .line => (Numeral.read? value).isSome
  | .format => (Format.ofName? value).isSome
  | .output => !value.isEmpty
  | .config => !value.isEmpty
  | _ => true

def everywhere : List Flag := [.verbose, .quiet, .help]

def program : List Flag := .version :: everywhere

def ofOutput : List Flag :=
  [.format, .output, .config] ++ ColorField.all.map .color ++ [.keepDirectives, .stat]

def diff : List Flag := [.raw, .block, .line] ++ ofOutput ++ everywhere

def head : List Flag := [.rev, .block, .line] ++ ofOutput ++ everywhere

def blocks : List Flag := everywhere

end Flag

end FlowchartMerge
