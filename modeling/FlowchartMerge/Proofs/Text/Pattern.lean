import Mathlib.Data.List.Basic
import FlowchartMerge.Text.Basic

/-!
# Where a pattern occurs

A pattern never reaches across a character that it does not hold, so its occurrences
in a text put together from pieces are its occurrences in the pieces. A text is cut
at the first place where the pattern stands.
-/

set_option autoImplicit false

namespace FlowchartMerge.Text

theorem prefix_append_cons {pat a b : Text} {c : Char} (hc : c ∉ pat)
    (h : pat <+: a ++ c :: b) : pat <+: a := by
  rcases Nat.lt_or_ge a.length pat.length with hl | hl
  · have hac : a++[c] <+: pat := by
      refine List.prefix_of_prefix_length_le ⟨b, ?_⟩ h ?_
      · rw [List.append_assoc, List.singleton_append]
      · rw [List.length_append, List.length_singleton]
        exact hl
    exact absurd (hac.subset (List.mem_append_right _ (List.mem_singleton_self c))) hc
  · exact List.prefix_of_prefix_length_le h (List.prefix_append _ _) hl

/-- A pattern does not reach across a character that it does not hold. -/
theorem infix_append_cons {pat a b : Text} {c : Char} (hc : c ∉ pat) (h : pat <:+: a ++ c :: b) :
    pat <:+: a ∨ pat <:+: b := by
  induction a with
  | nil =>
    rcases List.infix_cons_iff.1 h with hp | hi
    · exact Or.inl (prefix_append_cons (a := []) hc hp).isInfix
    · exact Or.inr hi
  | cons x a ih =>
    rcases List.infix_cons_iff.1 h with hp | hi
    · exact Or.inl (prefix_append_cons (a := x::a) hc hp).isInfix
    · rcases ih hi with ha | hb
      · exact Or.inl (ha.trans (List.suffix_cons x a).isInfix)
      · exact Or.inr hb

theorem after?_eq_none {pat t : Text} {c : Char} (hp : ∀ x ∈ pat.head?, x ≠ c) (hne : pat ≠ []) :
    after? pat (c::t) = none := by
  cases pat with
  | nil => exact absurd rfl hne
  | cons x pat =>
    have hx : (x == c) = false := beq_eq_false_iff_ne.2 (hp x rfl)
    simp [after?, List.isPrefixOf, hx]

/-- A text is cut where the pattern's first character stands first, if the pattern is there. -/
theorem cut?_append {pat a b : Text} (hne : pat ≠ []) (ha : ∀ x ∈ pat.head?, x ∉ a) :
    cut? pat (a++pat++b) = some (a, b) := by
  induction a with
  | nil =>
    cases pat with
    | nil => exact absurd rfl hne
    | cons x pat =>
      have h : after? (x::pat) (x::pat++b) = some b := after?_eq_some_iff.2 rfl
      rw [List.nil_append, List.cons_append, cut?]
      rw [List.cons_append] at h
      rw [h]
  | cons c a ih =>
    have hc : ∀ x ∈ pat.head?, x ≠ c := by
      rintro x hx rfl
      exact ha x hx List.mem_cons_self
    have ha' : ∀ x ∈ pat.head?, x ∉ a := fun x hx hm => ha x hx (List.mem_cons_of_mem c hm)
    rw [List.cons_append, List.cons_append, cut?, after?_eq_none hc hne]
    rw [ih ha']
    rfl

structure CutAt (pat t a b : Text) : Prop where
  eq : t = a++pat++b
  first : ∀ a' b' : Text, t = a'++pat++b' → a.length ≤ a'.length

theorem CutAt.of_cut? {pat t : Text} {p : Text × Text} (h : cut? pat t = some p) :
    CutAt pat t p.1 p.2 := by
  refine ⟨eq_of_cut?_eq_some h, ?_⟩
  induction t generalizing p with
  | nil =>
    obtain ⟨rest, -, rfl⟩ := Option.map_eq_some_iff.1 h
    exact fun _ _ _ => Nat.zero_le _
  | cons c t ih =>
    rw [cut?] at h
    split at h
    · cases h
      exact fun _ _ _ => Nat.zero_le _
    · rename_i hno
      obtain ⟨q, hq, rfl⟩ := Option.map_eq_some_iff.1 h
      intro a' b' ht
      cases a' with
      | nil =>
        rw [List.nil_append] at ht
        rw [after?_eq_some_iff.2 ht] at hno
        cases hno
      | cons x a' =>
        have htail : t = a'++pat++b' := (List.cons.inj ht).2
        exact Nat.succ_le_succ (ih hq a' b' htail)

theorem cut?_eq_none_iff {pat t : Text} : cut? pat t = none ↔ ¬pat <:+: t := by
  rw [← contains_iff_infix, contains, Option.isSome_iff_ne_none, not_not]

theorem cut?_eq_some_iff {pat t a b : Text} : cut? pat t = some (a, b) ↔ CutAt pat t a b := by
  constructor
  · exact CutAt.of_cut?
  · intro h
    cases hc : cut? pat t with
    | none => exact absurd ⟨a, b, h.eq.symm⟩ (cut?_eq_none_iff.1 hc)
    | some p =>
      have hp := CutAt.of_cut? hc
      have hlen : p.1.length = a.length :=
        Nat.le_antisymm (hp.first a b h.eq) (h.first p.1 p.2 hp.eq)
      have heq := hp.eq.symm.trans h.eq
      rw [List.append_assoc, List.append_assoc] at heq
      obtain ⟨ha, hb⟩ := List.append_inj heq hlen
      rw [← ha, ← List.append_cancel_left hb]

/-- A text that goes on is cut at the same place. -/
theorem CutAt.append {pat t a b : Text} (h : CutAt pat t a b) (u : Text) :
    CutAt pat (t++u) a (b++u) := by
  constructor
  · rw [h.eq, List.append_assoc]
  · intro a' b' ht
    by_contra hlt
    have hle : (a'++pat).length ≤ t.length := by
      have hlen := congrArg List.length h.eq
      simp only [List.length_append] at hlen ⊢
      omega
    obtain ⟨b'', hb⟩ : a'++pat <+: t :=
      List.prefix_of_prefix_length_le ⟨b', ht.symm⟩ (List.prefix_append t u) hle
    exact hlt (h.first a' b'' hb.symm)

/-- A pattern does not end before the place where it stands first is passed. -/
theorem CutAt.not_infix {pat t a b : Text} (h : CutAt pat t a b) (hne : pat ≠ []) :
    ¬pat <:+: a++pat.dropLast := by
  rintro ⟨x, y, hxy⟩
  have ht : t = x++pat++(y++pat.getLast hne::b) := by
    calc t = a++(pat.dropLast++[pat.getLast hne])++b := by rw [List.dropLast_append_getLast hne, h.eq]
      _ = (a++pat.dropLast)++pat.getLast hne::b := by simp
      _ = x++pat++(y++pat.getLast hne::b) := by rw [← hxy, List.append_assoc]
  have hfirst := h.first _ _ ht
  have hlen := congrArg List.length hxy
  have hpos := List.length_pos_of_ne_nil hne
  simp only [List.length_append, List.length_dropLast] at hlen
  omega

theorem CutAt.not_infix_left {pat t a b : Text} (h : CutAt pat t a b) (hne : pat ≠ []) :
    ¬pat <:+: a :=
  fun ha => h.not_infix hne (ha.trans (List.prefix_append a _).isInfix)

/-- Up to the end of its first place, a pattern stands at the end only. -/
theorem CutAt.eq_nil_of_append {pat t a b x y : Text} (h : CutAt pat t a b)
    (hxy : a++pat = x++pat++y) : y = [] := by
  have ht : t = x++pat++(y++b) := by rw [h.eq, hxy, List.append_assoc]
  have hfirst := h.first _ _ ht
  have hlen := congrArg List.length hxy
  simp only [List.length_append] at hlen
  exact List.eq_nil_of_length_eq_zero (by omega)

end FlowchartMerge.Text
