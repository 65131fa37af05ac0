import Mathlib.Data.List.TakeWhile
import FlowchartMerge.Document.Fence
import FlowchartMerge.Proofs.Text.Pattern

/-!
# Where a fence is found

A fence is found where an opening stands that has a closing after it, and it reaches
to the first closing. The places that are passed over on the way to it, and all
places if there is no fence at all, have no opening with a closing after it.
-/

set_option autoImplicit false

namespace FlowchartMerge.Fence

def IsOpening (o : Text) : Prop :=
  ∃ pad eol : Text, o = word++pad++eol ∧ (∀ c ∈ pad, c = ' ' ∨ c = '\t') ∧
    (eol = ['\n'] ∨ eol = ['\r', '\n'])

theorem isPadding_iff (c : Char) : Text.isPadding c = true ↔ c = ' ' ∨ c = '\t' := by
  simp [Text.isPadding]

theorem lineEnd?_eq_some_iff (t : Text) (p : Text × Text) :
    Text.lineEnd? t = some p ↔ t = p.1++p.2 ∧ (p.1 = ['\n'] ∨ p.1 = ['\r', '\n']) := by
  constructor
  · intro h
    refine ⟨Text.eq_of_lineEnd? h, ?_⟩
    unfold Text.lineEnd? at h
    split at h
    · cases h
      exact Or.inl rfl
    · cases h
      exact Or.inr rfl
    · cases h
  · obtain ⟨e, r⟩ := p
    rintro ⟨rfl, rfl | rfl⟩ <;> rfl

theorem opening?_eq_some_iff (t : Text) (p : Text × Text) :
    opening? t = some p ↔ t = p.1++p.2 ∧ IsOpening p.1 := by
  constructor
  · intro h
    refine ⟨eq_of_opening? h, ?_⟩
    obtain ⟨u, -, hp⟩ := Option.bind_eq_some_iff.1 h
    obtain ⟨q, hq, rfl⟩ := Option.map_eq_some_iff.1 hp
    refine ⟨u.takeWhile Text.isPadding, q.1, rfl, fun c hc => ?_, ((lineEnd?_eq_some_iff _ _).1 hq).2⟩
    exact (isPadding_iff c).1 (List.mem_takeWhile_imp hc)
  · obtain ⟨o, r⟩ := p
    rintro ⟨rfl, pad, eol, rfl, hpad, heol⟩
    have hpad' : ∀ c ∈ pad, Text.isPadding c = true := fun c hc => (isPadding_iff c).2 (hpad c hc)
    have hword : Text.after? word (word++pad++eol++r) = some (pad++(eol++r)) :=
      Text.after?_eq_some_iff.2 (by simp only [List.append_assoc])
    have htake : (pad++(eol++r)).takeWhile Text.isPadding = pad := by
      rw [List.takeWhile_append_of_pos hpad']
      rcases heol with rfl | rfl <;> simp [Text.isPadding]
    have hdrop : (pad++(eol++r)).dropWhile Text.isPadding = eol++r := by
      rw [List.dropWhile_append_of_pos hpad']
      rcases heol with rfl | rfl <;> simp [Text.isPadding]
    have hend : Text.lineEnd? (eol++r) = some (eol, r) :=
      (lineEnd?_eq_some_iff _ (eol, r)).2 ⟨rfl, heol⟩
    rw [opening?, hword, Option.bind_some, hdrop, hend, htake]
    rfl

def Unclosed (t : Text) : Prop := ∀ o rest : Text, IsOpening o → t = o++rest → ¬closing <:+: rest

theorem here?_eq_none_iff (t : Text) : here? t = none ↔ Unclosed t := by
  unfold here? Unclosed
  rw [Option.bind_eq_none_iff]
  constructor
  · intro h o rest ho ht
    have hc := h (o, rest) ((opening?_eq_some_iff t (o, rest)).2 ⟨ht, ho⟩)
    exact Text.cut?_eq_none_iff.1 (Option.map_eq_none_iff.1 hc)
  · rintro h ⟨o, rest⟩ hp
    obtain ⟨ht, ho⟩ := (opening?_eq_some_iff t (o, rest)).1 hp
    exact Option.map_eq_none_iff.2 (Text.cut?_eq_none_iff.2 (h o rest ho ht))

structure Found (t : Text) (f : Fence) (rest : Text) : Prop where
  eq : t = f.lead++f.opening++f.body++closing++rest
  opening : IsOpening f.opening
  first : Text.CutAt closing (f.body++closing++rest) f.body rest
  lead : ∀ k < f.lead.length, Unclosed (t.drop k)

theorem found_of_here? {t : Text} {p : Fence × Text} (h : here? t = some p) : Found t p.1 p.2 := by
  obtain ⟨o, ho, hp⟩ := Option.bind_eq_some_iff.1 h
  obtain ⟨q, hq, rfl⟩ := Option.map_eq_some_iff.1 hp
  obtain ⟨ht, hopen⟩ := (opening?_eq_some_iff t o).1 ho
  have hcut := Text.CutAt.of_cut? hq
  refine ⟨?_, hopen, ?_, fun k hk => absurd hk (Nat.not_lt_zero k)⟩
  · rw [ht, hcut.eq]
    simp
  · rw [hcut.eq] at hcut
    exact hcut

theorem found_of_next? {t : Text} {p : Fence × Text} (h : next? t = some p) : Found t p.1 p.2 := by
  induction t generalizing p with
  | nil => cases h
  | cons c t ih =>
    rw [next?] at h
    split at h
    · rename_i hh
      cases h
      exact found_of_here? hh
    · rename_i hh
      obtain ⟨q, hq, rfl⟩ := Option.map_eq_some_iff.1 h
      obtain ⟨heq, hopen, hfirst, hlead⟩ := ih hq
      refine ⟨congrArg (List.cons c) heq, hopen, hfirst, fun k hk => ?_⟩
      cases k with
      | zero => exact (here?_eq_none_iff _).1 hh
      | succ k => exact hlead k (Nat.lt_of_succ_lt_succ hk)

theorem unclosed_nil : Unclosed [] := by
  rintro o rest ⟨pad, eol, rfl, -⟩ h
  have hword : word ≠ [] := by decide
  exact absurd h.symm (by simp [hword])

theorem unclosed_of_next? {t : Text} (h : next? t = none) (k : Nat) : Unclosed (t.drop k) := by
  induction t generalizing k with
  | nil =>
    rw [List.drop_nil]
    exact unclosed_nil
  | cons c t ih =>
    rw [next?] at h
    split at h
    · cases h
    · rename_i hh
      cases k with
      | zero => exact (here?_eq_none_iff _).1 hh
      | succ k => exact ih (Option.map_eq_none_iff.1 h) k

inductive Cuts : Text → List Fence → Prop
  | done {t : Text} (h : ∀ k, Unclosed (t.drop k)) : Cuts t []
  | fence {t rest : Text} {f : Fence} {fs : List Fence} (h : Found t f rest)
      (hr : Cuts rest fs) : Cuts t (f::fs)

theorem ofDocument_of_next? {t : Text} {p : Fence × Text} (h : next? t = some p) :
    ofDocument t = p.1 :: ofDocument p.2 := by
  rw [ofDocument]
  split
  · rename_i q hq
    rw [h] at hq
    cases hq
    rfl
  · rename_i hq
    rw [h] at hq
    cases hq

theorem ofDocument_eq_nil {t : Text} (h : next? t = none) : ofDocument t = [] := by
  rw [ofDocument]
  split
  · rename_i q hq
    rw [h] at hq
    cases hq
  · rfl

theorem cuts_ofDocument (t : Text) : Cuts t (ofDocument t) := by
  induction t using ofDocument.induct with
  | case1 t p h ih =>
    rw [ofDocument_of_next? h]
    exact .fence (found_of_next? h) ih
  | case2 t h =>
    rw [ofDocument_eq_nil h]
    exact .done (unclosed_of_next? h)

theorem here?_of_found {t rest : Text} {f : Fence} (h : Found t f rest) (hl : f.lead = []) :
    here? t = some (f, rest) := by
  obtain ⟨lead, opening, body⟩ := f
  subst hl
  have ht : t = opening++(body++closing++rest) := by simpa using h.eq
  have ho : opening? t = some (opening, body++closing++rest) :=
    (opening?_eq_some_iff t (_, _)).2 ⟨ht, h.opening⟩
  have hc : Text.cut? closing (body++closing++rest) = some (body, rest) :=
    Text.cut?_eq_some_iff.2 h.first
  rw [here?, ho, Option.bind_some, hc]
  rfl

/-- What is found is what the search finds. -/
theorem next?_of_found {t rest : Text} {f : Fence} (h : Found t f rest) :
    next? t = some (f, rest) := by
  obtain ⟨lead, opening, body⟩ := f
  induction lead generalizing t with
  | nil =>
    have hh := here?_of_found h rfl
    cases t with
    | nil => cases hh
    | cons c t => rw [next?, hh]
  | cons c lead ih =>
    obtain ⟨rfl, hopen, hfirst, hlead⟩ := h
    have hno := (here?_eq_none_iff _).2 (hlead 0 (Nat.succ_pos lead.length))
    have hnext := ih ⟨rfl, hopen, hfirst, fun k hk => hlead (k+1) (Nat.succ_lt_succ hk)⟩
    simp only [List.cons_append, List.drop_zero] at hno hnext ⊢
    rw [next?, hno, hnext]
    rfl

end FlowchartMerge.Fence
