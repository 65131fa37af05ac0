import FlowchartMerge.Proofs.Text.Pattern
import FlowchartMerge.Proofs.Text.Strip

/-!
# Carriage returns before line feeds

A text can be written with a carriage return before every line feed. The pieces
between the line feeds stay what they are, so a pattern without a line's end stands
where it stood, and stripping blanks takes the returns away with the line feeds.
-/

set_option autoImplicit false

namespace FlowchartMerge.Text

def withReturns : Text → Text
  | [] => []
  | c::t => if c = '\n' then '\r' :: '\n' :: withReturns t else c :: withReturns t

theorem withReturns_break (t : Text) : withReturns ('\n'::t) = '\r' :: '\n' :: withReturns t := rfl

theorem withReturns_cons {c : Char} (hc : c ≠ '\n') (t : Text) :
    withReturns (c::t) = c :: withReturns t := if_neg hc

theorem withReturns_append (a b : Text) : withReturns (a++b) = withReturns a++withReturns b := by
  induction a with
  | nil => rfl
  | cons c a ih =>
    by_cases hc : c = '\n'
    · subst hc
      simp [withReturns_break, ih]
    · simp [withReturns_cons hc, ih]

theorem withReturns_of_not_mem {t : Text} (h : '\n' ∉ t) : withReturns t = t := by
  induction t with
  | nil => rfl
  | cons c t ih =>
    have hc : c ≠ '\n' := by
      intro he
      exact h (by simp [he])
    rw [withReturns_cons hc, ih (fun hm => h (List.mem_cons_of_mem c hm))]

theorem count_withReturns (t : Text) : (withReturns t).count '\n' = t.count '\n' := by
  induction t with
  | nil => rfl
  | cons c t ih =>
    by_cases hc : c = '\n'
    · subst hc
      simp [withReturns_break, ih]
    · simp [withReturns_cons hc, hc, ih]

theorem after?_cons_cons (x : Char) (pat : Text) (c : Char) (t : Text) :
    after? (x::pat) (c::t) = if x = c then after? pat t else none := by
  by_cases hx : x = c <;> simp [after?, hx]

section

variable {pat : Text} (hn : '\n' ∉ pat) (hr : '\r' ∉ pat)

include hn hr

theorem after?_withReturns (t : Text) :
    after? pat (withReturns t) = (after? pat t).map withReturns := by
  induction pat generalizing t with
  | nil => simp [after?]
  | cons x pat ih =>
    simp only [List.mem_cons, not_or] at hn hr
    cases t with
    | nil => rfl
    | cons c t =>
      by_cases hc : c = '\n'
      · subst hc
        rw [withReturns_break, after?_cons_cons, after?_cons_cons, if_neg (Ne.symm hr.1),
          if_neg (Ne.symm hn.1)]
        rfl
      · rw [withReturns_cons hc, after?_cons_cons, after?_cons_cons, ih hn.2 hr.2]
        split <;> rfl

/-- A pattern without a line's end is found where it was. -/
theorem cut?_withReturns (hne : pat ≠ []) (t : Text) :
    cut? pat (withReturns t) =
      (cut? pat t).map fun p => (withReturns p.1, withReturns p.2) := by
  have hhead : ∀ c, c ∉ pat → ∀ x ∈ pat.head?, x ≠ c := by
    intro c hc x hx he
    exact hc (he ▸ List.mem_of_head? hx)
  induction t with
  | nil =>
    have h : after? pat [] = none := by simp [after?, hne]
    simp [withReturns, cut?, h]
  | cons c t ih =>
    by_cases hc : c = '\n'
    · subst hc
      have hfeed : ∀ u, after? pat ('\n'::u) = none := fun u => after?_eq_none (hhead _ hn) hne
      have hreturn : ∀ u, after? pat ('\r'::u) = none := fun u => after?_eq_none (hhead _ hr) hne
      rw [withReturns_break, cut?, hreturn, cut?, hfeed, cut?, hfeed, ih]
      cases cut? pat t <;> rfl
    · have ha := after?_withReturns hn hr (c::t)
      rw [withReturns_cons hc] at ha ⊢
      rw [cut?, cut?, ha]
      cases after? pat (c::t) with
      | some rest => rfl
      | none =>
        simp only [Option.map_none, ih]
        cases cut? pat t with
        | none => rfl
        | some p => simp [withReturns_cons hc]

end

theorem mem_withReturns {t : Text} {x : Char} (hx : x ∈ withReturns t) : x ∈ t ∨ x = '\r' := by
  induction t with
  | nil => exact Or.inl hx
  | cons c t ih =>
    by_cases hc : c = '\n'
    · subst hc
      simp only [withReturns_break, List.mem_cons] at hx ⊢
      tauto
    · simp only [withReturns_cons hc, List.mem_cons] at hx ⊢
      tauto

theorem head?_withReturns {t : Text} (h : ∀ c ∈ t.head?, c ≠ '\n') :
    (withReturns t).head? = t.head? := by
  cases t with
  | nil => rfl
  | cons c t => rw [withReturns_cons (h c rfl)]; rfl

theorem getLast?_withReturns (t : Text) : (withReturns t).getLast? = t.getLast? := by
  induction t using List.reverseRecOn with
  | nil => rfl
  | append_singleton t c _ =>
    by_cases hc : c = '\n'
    · subst hc
      simp [withReturns_append, withReturns]
    · simp [withReturns_append, withReturns, hc]

/-- A carriage return is as blank as the line feed that it stands before. -/
theorem trim_withReturns (t : Text) : trim (withReturns t) = withReturns (trim t) := by
  obtain ⟨⟨a, b, ht, ha, hb⟩, hhead, hlast⟩ := stripped_strip isBlank t
  have hblank : ∀ u : Text, (∀ c ∈ u, isBlank c = true) → ∀ c ∈ withReturns u, isBlank c = true := by
    intro u hu c hc
    rcases mem_withReturns hc with hm | hm
    · exact hu c hm
    · subst hm
      decide
  have hfirst : (withReturns (trim t)).head? = (trim t).head? := by
    apply head?_withReturns
    intro c hc he
    subst he
    exact absurd (hhead _ hc) (by decide)
  apply (stripped_iff isBlank _ _).1
  constructor
  · refine ⟨withReturns a, withReturns b, ?_, hblank a ha, hblank b hb⟩
    rw [← withReturns_append, ← withReturns_append]
    exact congrArg withReturns ht
  · rw [hfirst]
    exact hhead
  · rw [getLast?_withReturns]
    exact hlast

end FlowchartMerge.Text
