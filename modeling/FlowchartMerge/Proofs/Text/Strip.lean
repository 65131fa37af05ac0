import Mathlib.Data.List.DropRight
import FlowchartMerge.Text.Basic

/-!
# Stripped texts

Stripping takes away a class of characters at both ends and stops at the first
character outside the class. What is left is the only piece of the text with nothing
but such characters around it and none of them at its own ends.
-/

set_option autoImplicit false

namespace FlowchartMerge.Text

section

variable {p : Char → Bool} {w rest : Text}

theorem takeWhile_append_of_stop (hw : ∀ c ∈ w, p c = true) (hr : ∀ c ∈ rest.head?, p c = false) :
    (w++rest).takeWhile p = w := by
  rw [List.takeWhile_append_of_pos hw]
  cases rest with
  | nil => simp
  | cons c rest => simp [hr c rfl]

theorem dropWhile_append_of_stop (hw : ∀ c ∈ w, p c = true) (hr : ∀ c ∈ rest.head?, p c = false) :
    (w++rest).dropWhile p = rest := by
  rw [List.dropWhile_append_of_pos hw]
  cases rest with
  | nil => simp
  | cons c rest => simp [hr c rfl]

end

theorem stripEnd_append (p : Char → Bool) (t : Text) (c : Char) (hc : p c = true) :
    stripEnd p (t++[c]) = stripEnd p t := by
  simp [stripEnd, hc]

theorem strip_append (p : Char → Bool) (t : Text) (c : Char) (hc : p c = true) :
    strip p (t++[c]) = strip p t := by
  unfold strip
  rw [List.dropWhile_append]
  split
  · rename_i h
    rw [List.isEmpty_iff.1 h]
    simp [hc, stripEnd]
  · exact stripEnd_append p _ c hc

theorem strip_cons (p : Char → Bool) (t : Text) (c : Char) (hc : p c = true) :
    strip p (c::t) = strip p t := by
  rw [strip, List.dropWhile_cons_of_pos hc, strip]

theorem head_strip (p : Char → Bool) (t : Text) : ∀ c ∈ (strip p t).head?, p c = false := by
  intro c hc
  have hpre : strip p t <+: t.dropWhile p := List.rdropWhile_prefix p (t.dropWhile p)
  obtain ⟨rest, hrest⟩ := hpre
  have hh : (t.dropWhile p).head? = some c := by
    rw [← hrest, List.head?_append, hc]
    rfl
  have hnot := List.head?_dropWhile_not p t
  rw [hh] at hnot
  simpa using hnot

theorem last_strip (p : Char → Bool) (t : Text) : ∀ c ∈ (strip p t).getLast?, p c = false := by
  intro c hc
  have hne : strip p t ≠ [] := by
    intro h
    simp [h] at hc
  have hl := List.rdropWhile_last_not p (t.dropWhile p) hne
  rw [Option.mem_def, List.getLast?_eq_some_getLast hne] at hc
  cases hc
  exact Bool.eq_false_iff.2 hl

/-- A text is bare exactly when neither of its ends can be stripped. -/
theorem strip_eq_self_iff (p : Char → Bool) (t : Text) :
    strip p t = t ↔ (∀ c ∈ t.head?, p c = false) ∧ ∀ c ∈ t.getLast?, p c = false := by
  constructor
  · intro h
    have hh := head_strip p t
    have hl := last_strip p t
    rw [h] at hh hl
    exact ⟨hh, hl⟩
  · rintro ⟨hh, hl⟩
    have hd : t.dropWhile p = t := by
      cases t with
      | nil => rfl
      | cons c t => simp [hh c rfl]
    have hr : t.rdropWhile p = t := by
      rw [List.rdropWhile_eq_self_iff]
      intro hne
      simp [hl _ (List.getLast?_eq_some_getLast hne)]
    unfold strip
    rw [hd]
    exact hr

theorem strip_strip (p : Char → Bool) (t : Text) : strip p (strip p t) = strip p t :=
  (strip_eq_self_iff p _).2 ⟨head_strip p t, last_strip p t⟩

/-- A start that is bare by itself is not stripped away, whatever follows it. -/
theorem prefix_strip {p : Char → Bool} {s : Text} (hne : s ≠ []) (hs : strip p s = s) (x : Text) :
    s <+: strip p (s++x) := by
  induction x using List.reverseRecOn with
  | nil =>
    have hself : strip p (s++[]) = s := by rw [List.append_nil, hs]
    exact ⟨[], by rw [hself, List.append_nil]⟩
  | append_singleton x c ih =>
    rw [← List.append_assoc]
    by_cases hc : p c = true
    · rw [strip_append p _ c hc]
      exact ih
    · have hself : strip p (s++x++[c]) = s++x++[c] := by
        apply (strip_eq_self_iff p _).2
        constructor
        · intro d hd
          rw [List.append_assoc, List.head?_append_of_ne_nil _ hne] at hd
          exact ((strip_eq_self_iff p s).1 hs).1 d hd
        · intro d hd
          rw [List.getLast?_concat] at hd
          cases hd
          exact Bool.eq_false_iff.2 hc
      rw [hself, List.append_assoc]
      exact List.prefix_append _ _

theorem strip_isInfix (p : Char → Bool) (t : Text) : strip p t <:+: t :=
  (List.rdropWhile_prefix p _).isInfix.trans (List.dropWhile_suffix p).isInfix

structure Stripped (p : Char → Bool) (t s : Text) : Prop where
  around : ∃ a b : Text, t = a++s++b ∧ (∀ c ∈ a, p c = true) ∧ ∀ c ∈ b, p c = true
  head : ∀ c ∈ s.head?, p c = false
  last : ∀ c ∈ s.getLast?, p c = false

theorem stripped_strip (p : Char → Bool) (t : Text) : Stripped p t (strip p t) where
  around := by
    refine ⟨t.takeWhile p, (t.dropWhile p).rtakeWhile p, ?_, fun c => ?_, fun c => ?_⟩
    · have hr : strip p t++(t.dropWhile p).rtakeWhile p = t.dropWhile p :=
        List.rdropWhile_append_rtakeWhile
      rw [List.append_assoc, hr, List.takeWhile_append_dropWhile]
    · exact List.mem_takeWhile_imp
    · exact List.mem_rtakeWhile_imp
  head := head_strip p t
  last := last_strip p t

theorem strip_append_of_all (p : Char → Bool) (a s b : Text) (ha : ∀ c ∈ a, p c = true)
    (hb : ∀ c ∈ b, p c = true) : strip p (a++s++b) = strip p s := by
  have hleft : strip p (a++s) = strip p s := by
    rw [strip, List.dropWhile_append_of_pos ha, strip]
  rw [← hleft]
  induction b using List.reverseRecOn with
  | nil => rw [List.append_nil]
  | append_singleton b c ih =>
    rw [← List.append_assoc, strip_append p _ c (hb c (by simp))]
    exact ih fun x hx => hb x (List.mem_append_left _ hx)

theorem stripped_iff (p : Char → Bool) (t s : Text) : Stripped p t s ↔ strip p t = s := by
  constructor
  · rintro ⟨⟨a, b, rfl, ha, hb⟩, hh, hl⟩
    rw [strip_append_of_all p a s b ha hb]
    exact (strip_eq_self_iff p s).2 ⟨hh, hl⟩
  · rintro rfl
    exact stripped_strip p t

end FlowchartMerge.Text
