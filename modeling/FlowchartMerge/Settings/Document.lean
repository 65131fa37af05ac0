import FlowchartMerge.Settings.Basic
import FlowchartMerge.Storage.FileError
import FlowchartMerge.Text.Quoted
import FlowchartMerge.Toml.Document

/-!
# Settings from a document

A settings document may set each colour, in a table, and whether passthrough lines are
kept; what it does not set has its default. An array gives the colours in the order of
their fields, and those at its end may be missing. The entries are taken in order, and
the first that is unknown or has a value of the wrong kind is reported. Colours are
checked last.
-/

set_option autoImplicit false

namespace FlowchartMerge

inductive MisfitError where
  | unknownField (field : Text) (expected : List Text)
  | wrongKind (found : Text) (expected : Text)
  deriving DecidableEq, Repr, Inhabited

namespace MisfitError

def ticked (t : Text) : Text := '`' :: t ++ ['`']

def choices : List Text → Text
  | [a] => ticked a
  | [a, b] => ticked a ++ " or " ++ ticked b
  | names => "one of " ++ (", " : Text).intercalate (names.map ticked)

def message : MisfitError → Text
  | .unknownField field expected =>
    "unknown field " ++ ticked field ++ ", expected " ++ choices expected
  | .wrongKind found expected => "invalid type: " ++ found ++ ", expected " ++ expected

end MisfitError

inductive SettingsError where
  | unreadable (path : Text) (cause : FileError)
  | malformed
  | misfit (cause : MisfitError)
  | badColor (cause : BadColor)
  deriving DecidableEq, Repr, Inhabited

namespace SettingsError

def message : SettingsError → Text
  | .unreadable path cause => "failed to read config " ++ path ++ ": " ++ cause.message
  | .malformed => "invalid config: TOML parse error"
  | .misfit cause => "invalid config: TOML parse error: " ++ cause.message
  | .badColor cause => cause.message

end SettingsError

namespace Settings

open Toml (Value)

def kindOf : Value → Text
  | .string t => "string " ++ Text.quoted t
  | .integer n => "integer `" ++ Numeral.writeInt n ++ ['`']
  | .float x => "floating point `" ++ x.text ++ ['`']
  | .boolean b => "boolean `" ++ (if b then "true" else "false") ++ ['`']
  | .moment => "map"
  | .array _ => "sequence"
  | .inline _ => "map"
  | .table _ _ => "map"
  | .tables _ => "sequence"

def wrongKind {α : Type} (v : Value) (expected : Text) : Except MisfitError α :=
  .error (.wrongKind (kindOf v) expected)

def stringOf : Value → Except MisfitError Text
  | .string t => .ok t
  | v => wrongKind v "a string"

def booleanOf : Value → Except MisfitError Bool
  | .boolean b => .ok b
  | v => wrongKind v "a boolean"

def colorNames : List Text := ColorField.all.map ColorField.name

def setColor (p : Palette) (e : Text × Value) : Except MisfitError Palette :=
  match ColorField.ofName? e.1 with
  | some f => (stringOf e.2).map (p.set f)
  | none => .error (.unknownField e.1 colorNames)

def setColors (p : Palette) : List ColorField → List Value → Except MisfitError Palette
  | f::fs, v::vs => (stringOf v).bind fun color => setColors (p.set f color) fs vs
  | _, _ => .ok p

-- a date or time is taken for a table with this one field
def momentField : Text := "$__toml_private_datetime"

def paletteOf : Value → Except MisfitError Palette
  | .table _ es => es.foldlM setColor {}
  | .inline es => es.foldlM setColor {}
  | .array vs => setColors {} ColorField.all vs
  | .tables ts => setColors {} ColorField.all (ts.map (Value.table .header))
  | .moment => .error (.unknownField momentField colorNames)
  | v => wrongKind v "struct DiffColors"

def colorsField : Text := "colors"

def keepField : Text := "keep_directives"

def setEntry (s : Settings) (e : Text × Value) : Except MisfitError Settings :=
  if e.1 = colorsField then (paletteOf e.2).map fun p => { s with palette := p }
  else if e.1 = keepField then (booleanOf e.2).map fun b => { s with keepDirectives := b }
  else .error (.unknownField e.1 [colorsField, keepField])

def ofEntries (es : Toml.Entries) : Except MisfitError Settings := es.foldlM setEntry {}

def ofDocument (t : Text) : Except SettingsError Settings :=
  match Toml.document? t with
  | none => .error .malformed
  | some es => do
    let s ← (ofEntries es).mapError SettingsError.misfit
    s.validate.mapError SettingsError.badColor

def ofFile (path : Text) (content : Except FileError Text) : Except SettingsError Settings := do
  ofDocument (← content.mapError (SettingsError.unreadable path))

end Settings

end FlowchartMerge
