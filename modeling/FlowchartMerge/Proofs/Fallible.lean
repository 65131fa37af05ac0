/-!
# Computations that may fail

A chain of computations yields a value if each of its links does, and fails with the error of
the first link that does not.
-/

set_option autoImplicit false

namespace FlowchartMerge

variable {α β ε δ : Type} {x : Except ε α}

theorem ok_bind (a : α) (f : α → Except ε β) : Except.ok a >>= f = f a := rfl

theorem error_bind (e : ε) (f : α → Except ε β) : Except.error e >>= f = .error e := rfl

theorem bind_eq_ok_iff {f : α → Except ε β} {b : β} :
    x >>= f = .ok b ↔ ∃ a, x = .ok a ∧ f a = .ok b := by
  cases x with
  | error e => simp [error_bind]
  | ok a => simp [ok_bind]

theorem bind_eq_error_iff {f : α → Except ε β} {e : ε} :
    x >>= f = .error e ↔ x = .error e ∨ ∃ a, x = .ok a ∧ f a = .error e := by
  cases x with
  | error d => simp [error_bind]
  | ok a => simp [ok_bind]

theorem map_eq_ok_iff {f : α → β} {b : β} : x.map f = .ok b ↔ ∃ a, x = .ok a ∧ f a = b := by
  cases x with
  | error e => simp [Except.map]
  | ok a => simp [Except.map]

theorem map_eq_error_iff {f : α → β} {e : ε} : x.map f = .error e ↔ x = .error e := by
  cases x with
  | error d => simp [Except.map]
  | ok a => simp [Except.map]

theorem mapError_error (f : ε → δ) (e : ε) :
    (Except.error e : Except ε α).mapError f = .error (f e) := rfl

theorem mapError_ok (f : ε → δ) (a : α) : (Except.ok a : Except ε α).mapError f = .ok a := rfl

theorem mapError_eq_ok_iff {f : ε → δ} {a : α} : x.mapError f = .ok a ↔ x = .ok a := by
  cases x with
  | error e => simp [mapError_error]
  | ok a => simp [mapError_ok]

theorem mapError_eq_error_iff {f : ε → δ} {d : δ} :
    x.mapError f = .error d ↔ ∃ e, x = .error e ∧ f e = d := by
  cases x with
  | error e => simp [mapError_error]
  | ok a => simp [mapError_ok]

theorem ite_throw_eq_ok_iff {p : Prop} [Decidable p] {a b : α} {e : ε} :
    (if p then pure a else throw e : Except ε α) = .ok b ↔ p ∧ a = b := by
  by_cases hp : p <;> simp [hp, pure, Except.pure, throw, throwThe, MonadExceptOf.throw]

theorem ite_throw_eq_error_iff {p : Prop} [Decidable p] {a : α} {e d : ε} :
    (if p then pure a else throw e : Except ε α) = .error d ↔ ¬p ∧ e = d := by
  by_cases hp : p <;> simp [hp, pure, Except.pure, throw, throwThe, MonadExceptOf.throw]

/-- Steps that succeed may stand before one that always fails, which decides. -/
theorem foldlM_refused {step : β → α → Except ε β} {before rest after : List α} {a : α}
    {b b' : β} {e : ε} (h : (before++rest).foldlM step b = .ok b')
    (ha : ∀ b, step b a = .error e) : (before ++ a :: after).foldlM step b = .error e := by
  rw [List.foldlM_append] at h
  obtain ⟨c, hc, -⟩ := bind_eq_ok_iff.1 h
  rw [List.foldlM_append, hc, ok_bind, List.foldlM_cons, ha]
  rfl

end FlowchartMerge
