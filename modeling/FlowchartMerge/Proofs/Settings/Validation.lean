import FlowchartMerge.Settings.Basic

/-!
# Settings that are accepted

Settings are accepted exactly if all four of their colours are usable, and a usable colour
holds none of the characters that would end a style or a line.
-/

set_option autoImplicit false

namespace FlowchartMerge

theorem ColorField.mem_all (f : ColorField) : f ∈ all := by cases f <;> decide

theorem not_mem_of_isColor {t : Text} (h : isColor t = true) {c : Char} (hc : c ∈ colorBreaks) :
    c ∉ t := by
  intro hm
  unfold isColor at h
  rw [Bool.and_eq_true, Bool.not_eq_true', Bool.not_eq_true'] at h
  have hnone := List.any_eq_false.1 h.2 c hm
  rw [List.contains_iff_mem] at hnone
  exact hnone hc

namespace Palette

def Usable (p : Palette) : Prop := ∀ f : ColorField, isColor (p.get f) = true

theorem firstBad?_eq_none_iff (p : Palette) : p.firstBad? = none ↔ p.Usable := by
  rw [firstBad?, Option.map_eq_none_iff, List.find?_eq_none]
  constructor
  · intro h f
    simpa using h f f.mem_all
  · intro h f _
    simp [h f]

theorem Usable.not_mem {p : Palette} (h : p.Usable) {c : Char} (hc : c ∈ colorBreaks)
    (f : ColorField) : c ∉ p.get f :=
  not_mem_of_isColor (h f) hc

end Palette

theorem Settings.validate_eq_ok_iff_usable {s s' : Settings} :
    s.validate = .ok s' ↔ s.palette.Usable ∧ s' = s := by
  rw [← Palette.firstBad?_eq_none_iff, validate]
  cases s.palette.firstBad? with
  | none => simp [eq_comm]
  | some b => simp

theorem Settings.validate_eq_ok_iff (s : Settings) : s.validate = .ok s ↔ s.palette.Usable := by
  rw [validate_eq_ok_iff_usable]
  exact and_iff_left rfl

end FlowchartMerge
