import FlowchartMerge.Proofs.Diagram.Contribution
import FlowchartMerge.Proofs.Text.Returns

/-!
# Blanks that a diagram does not see

Every line is stripped before it is read, and an empty line says nothing. So a text
describes the same diagram with blanks or byte order marks around it, and with a
carriage return before every line feed.
-/

set_option autoImplicit false

namespace FlowchartMerge

namespace Line

theorem isSurround_of_isBlank {c : Char} (hc : isBlank c = true) : isSurround c = true := by
  simp [isSurround, hc]

theorem significant_break (t : Text) : significant ('\n'::t) = significant t :=
  significant_append [] t

theorem significant_cons_surround {c : Char} (hc : isSurround c = true) (t : Text) :
    significant (c::t) = significant t := by
  by_cases hb : c = '\n'
  · subst hb
    exact significant_break t
  · obtain ⟨p, ps, hp⟩ := List.exists_cons_of_ne_nil (List.splitOn_ne_nil '\n' t)
    have hbare : bare (c::p) = bare p := Text.strip_cons isSurround p c hc
    rw [significant_eq, significant_eq, List.splitOn_cons_eq_if_modifyHead, hp]
    simp [hb, hbare]

/-- A blank at the end belongs to the last line, the start of which may be known already. -/
theorem significant_concat_surround {c : Char} (hc : isSurround c = true) (t : Text) :
    significant (t++[c]) = significant t := by
  suffices h : ∀ a : Text, '\n' ∉ a → significant (a++(t++[c])) = significant (a++t) from
    h [] List.not_mem_nil
  induction t with
  | nil =>
    intro a ha
    by_cases hb : c = '\n'
    · subst hb
      simp [significant_append, show significant [] = [] from rfl]
    · have hac : '\n' ∉ a++[c] := by simp [ha, Ne.symm hb]
      have hbare : bare (a++[c]) = bare a := Text.strip_append isSurround a c hc
      simp [significant_of_not_mem _ hac, significant_of_not_mem _ ha, hbare]
  | cons x t ih =>
    intro a ha
    by_cases hx : x = '\n'
    · subst hx
      rw [List.cons_append, significant_append, significant_append]
      exact congrArg (significant a ++ ·) (ih [] List.not_mem_nil)
    · have hax : '\n' ∉ a++[x] := by simp [ha, Ne.symm hx]
      simpa using ih (a++[x]) hax

theorem significant_append_surround {a t b : Text} (ha : ∀ c ∈ a, isSurround c = true)
    (hb : ∀ c ∈ b, isSurround c = true) : significant (a++t++b) = significant t := by
  induction a with
  | nil =>
    induction b using List.reverseRecOn with
    | nil => simp
    | append_singleton b c ih =>
      rw [← List.append_assoc, significant_concat_surround (hb c (by simp))]
      exact ih (fun x hx => hb x (by simp [hx]))
  | cons c a ih =>
    rw [List.cons_append, List.cons_append, significant_cons_surround (ha c (by simp))]
    exact ih (fun x hx => ha x (by simp [hx]))

theorem significant_trim (t : Text) : significant (Text.trim t) = significant t := by
  obtain ⟨a, b, ht, ha, hb⟩ := (Text.stripped_strip isBlank t).around
  have hsurround : ∀ u : Text, (∀ c ∈ u, isBlank c = true) → ∀ c ∈ u, isSurround c = true :=
    fun u hu c hc => isSurround_of_isBlank (hu c hc)
  calc significant (Text.trim t) = significant (a++Text.trim t++b) :=
        (significant_append_surround (hsurround a ha) (hsurround b hb)).symm
    _ = significant t := congrArg significant ht.symm

/-- The return before a line feed is a blank at the end of the line. -/
theorem significant_append_withReturns (a t : Text) :
    significant (a++Text.withReturns t) = significant (a++t) := by
  induction t generalizing a with
  | nil => rfl
  | cons c t ih =>
    by_cases hc : c = '\n'
    · subst hc
      calc significant (a++Text.withReturns ('\n'::t))
          = significant ((a++['\r']) ++ '\n' :: Text.withReturns t) := by
            simp [Text.withReturns_break]
        _ = significant a++significant ([]++Text.withReturns t) := by
            rw [significant_append, significant_concat_surround (by decide), List.nil_append]
        _ = significant (a ++ '\n' :: t) := by
            rw [ih [], significant_append, List.nil_append]
    · simpa [Text.withReturns_cons hc] using ih (a++[c])

end Line

namespace Diagram

open Line

theorem read_trim (t : Text) : read (Text.trim t) = read t := by
  rw [read, significant_trim, read]

theorem read_withReturns (t : Text) : read (Text.withReturns t) = read t := by
  have h := significant_append_withReturns [] t
  rw [List.nil_append, List.nil_append] at h
  rw [read, h, read]

end Diagram

end FlowchartMerge
