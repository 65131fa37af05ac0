import FlowchartMerge.Text.Basic

/-!
# Settings

The four colours of the merged diagram and the choice whether the new diagram's
passthrough lines are kept. A colour is written into a style declaration as it is, so
a colour that is blank, or that holds a character which ends a style or a line, is
refused.
-/

set_option autoImplicit false

namespace FlowchartMerge

structure Palette where
  addedFill : Text := "#e6ffed"
  addedStroke : Text := "#2ea043"
  removedFill : Text := "#ffebe9"
  removedStroke : Text := "#cf222e"
  deriving DecidableEq, Repr

inductive ColorField where
  | addedFill
  | addedStroke
  | removedFill
  | removedStroke
  deriving DecidableEq, Repr, Inhabited

namespace ColorField

def all : List ColorField := [.addedFill, .addedStroke, .removedFill, .removedStroke]

def name : ColorField → Text
  | .addedFill => "added_fill"
  | .addedStroke => "added_stroke"
  | .removedFill => "removed_fill"
  | .removedStroke => "removed_stroke"

def ofName? (t : Text) : Option ColorField := all.find? fun f => f.name == t

end ColorField

namespace Palette

def get (p : Palette) : ColorField → Text
  | .addedFill => p.addedFill
  | .addedStroke => p.addedStroke
  | .removedFill => p.removedFill
  | .removedStroke => p.removedStroke

def set (p : Palette) (f : ColorField) (color : Text) : Palette :=
  match f with
  | .addedFill => { p with addedFill := color }
  | .addedStroke => { p with addedStroke := color }
  | .removedFill => { p with removedFill := color }
  | .removedStroke => { p with removedStroke := color }

def ofFields (color : ColorField → Text) : Palette :=
  ⟨color .addedFill, color .addedStroke, color .removedFill, color .removedStroke⟩

def override (p : Palette) (color : ColorField → Option Text) : Palette :=
  ofFields fun f => (color f).getD (p.get f)

theorem get_ofFields (color : ColorField → Text) (f : ColorField) :
    (ofFields color).get f = color f := by
  cases f <;> rfl

theorem get_set (p : Palette) (f g : ColorField) (color : Text) :
    (p.set f color).get g = if g = f then color else p.get g := by
  cases f <;> cases g <;> rfl

end Palette

def colorBreaks : List Char := [',', ';', '\n', '\r']

def isColor (t : Text) : Bool := !(Text.trim t).isEmpty && !t.any fun c => colorBreaks.contains c

structure Settings where
  palette : Palette := {}
  keepDirectives : Bool := false
  deriving DecidableEq, Repr

structure BadColor where
  field : ColorField
  value : Text
  deriving DecidableEq, Repr, Inhabited

namespace BadColor

def message (b : BadColor) : Text :=
  "invalid color for " ++ b.field.name ++ ": `" ++ b.value ++ "`"

end BadColor

namespace Palette

def firstBad? (p : Palette) : Option BadColor :=
  (ColorField.all.find? fun f => !isColor (p.get f)).map fun f => ⟨f, p.get f⟩

end Palette

namespace Settings

def validate (s : Settings) : Except BadColor Settings :=
  match s.palette.firstBad? with
  | some b => .error b
  | none => .ok s

end Settings

end FlowchartMerge
