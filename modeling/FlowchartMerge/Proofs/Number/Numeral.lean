import Mathlib.Data.List.Basic
import FlowchartMerge.Number.Numeral

/-!
# Numbers that are written and read

The digits that are written for a number denote it, and no sign stands before them.
So a number below the limit is read back from what is written for it.
-/

set_option autoImplicit false

namespace FlowchartMerge.Numeral

theorem write_of_lt {n : Nat} (h : n < 10) : write n = [Nat.digitChar n] :=
  Nat.toDigits_of_lt_base h

theorem write_of_le {n : Nat} (h : 10 ≤ n) : write n = write (n / 10)++[Nat.digitChar (n % 10)] := by
  have hpos : 0 < n / 10 := Nat.div_pos h (by decide)
  have hlt : n % 10 < 10 := Nat.mod_lt n (by decide)
  have happend := Nat.toDigits_append_toDigits (by decide : 1 < 10) hpos hlt
  rw [Nat.toDigits_of_lt_base hlt, Nat.div_add_mod] at happend
  exact happend.symm

theorem write_ne_nil (n : Nat) : write n ≠ [] := by
  by_cases h : n < 10
  · simp [write_of_lt h]
  · simp [write_of_le (Nat.le_of_not_lt h)]

theorem digit?_digitChar {d : Nat} (h : d < 10) : digit? 10 (Nat.digitChar d) = some d := by
  have hall : ∀ d < 10, digit? 10 (Nat.digitChar d) = some d := by decide
  exact hall d h

theorem value_concat (base : Nat) (ds : List Nat) (d : Nat) :
    value base (ds++[d]) = value base ds * base + d := by
  simp [value]

theorem mapM_write (n : Nat) : ∃ ds, (write n).mapM (digit? 10) = some ds ∧ value 10 ds = n := by
  induction n using Nat.strongRecOn with
  | ind n ih =>
    by_cases h : n < 10
    · refine ⟨[n], ?_, by simp [value]⟩
      simp [write_of_lt h, digit?_digitChar h]
    · obtain ⟨ds, hds, hvalue⟩ := ih (n / 10) (by omega)
      have hlt : n % 10 < 10 := Nat.mod_lt n (by decide)
      refine ⟨ds++[n % 10], ?_, ?_⟩
      · simp [write_of_le (Nat.le_of_not_lt h), List.mapM_append, hds, digit?_digitChar hlt]
      · rw [value_concat, hvalue]
        omega

theorem read?_write {n : Nat} (h : n < limit) : read? (write n) = some n := by
  obtain ⟨ds, hds, hvalue⟩ := mapM_write n
  have hsign : Text.after? ['+'] (write n) = none := by
    cases ha : Text.after? ['+'] (write n) with
    | none => rfl
    | some rest =>
      rw [Text.after?_eq_some_iff.1 ha] at hds
      cases hds
  simp [read?, digits?, hsign, hds, hvalue, h, write_ne_nil n]

end FlowchartMerge.Numeral
