import FlowchartMerge.Proofs.Fallible
import FlowchartMerge.Proofs.Settings.Validation
import FlowchartMerge.Proofs.Toml.Distinct
import FlowchartMerge.Settings.Document

/-!
# What a document sets

A document sets some of the colours and perhaps whether lines are kept. Its entries have
different names, so each setting that is read comes from the one entry that names it, or is
the default if there is none, whatever the other entries are.
-/

set_option autoImplicit false

namespace FlowchartMerge

/-- Entries with different names are taken one after the other, and only the one with a
certain name has a say in what is viewed. -/
theorem view_of_foldlM {σ τ ε : Type} {step : σ → Text × Toml.Value → Except ε σ} {k : Text}
    (view : σ → τ) (Says : Toml.Value → τ → Prop)
    (hsame : ∀ s v s', step s (k, v) = .ok s' → Says v (view s'))
    (hother : ∀ s e s', e.1 ≠ k → step s e = .ok s' → view s' = view s)
    {es : Toml.Entries} (hn : (es.map Prod.fst).Nodup) {s s' : σ}
    (h : es.foldlM step s = .ok s') :
    match Toml.Entries.get? es k with
    | some v => Says v (view s')
    | none => view s' = view s := by
  induction es generalizing s with
  | nil =>
    cases h
    rfl
  | cons e es ih =>
    rw [List.map_cons, List.nodup_cons] at hn
    rw [List.foldlM_cons] at h
    obtain ⟨s₁, hstep, h⟩ := bind_eq_ok_iff.1 h
    have hrest := ih hn.2 h
    by_cases hk : e.1 = k
    · obtain ⟨k, v⟩ := e
      subst hk
      rw [Toml.Entries.get?_eq_none_iff.2 hn.1] at hrest
      have hget : Toml.Entries.get? ((k, v)::es) k = some v := by simp [Toml.Entries.get?]
      rw [hget, hrest]
      exact hsame s v s₁ hstep
    · have hget : Toml.Entries.get? (e::es) k = Toml.Entries.get? es k := by
        rw [Toml.Entries.get?, List.find?_cons_of_neg (by simpa using hk)]
        rfl
      rw [hget, ← hother s e s₁ hk hstep]
      exact hrest

namespace ColorField

theorem ofName?_name (f : ColorField) : ofName? f.name = some f := by cases f <;> decide

theorem name_of_ofName? {t : Text} {f : ColorField} (h : ofName? t = some f) : f.name = t := by
  simpa using List.find?_some h

theorem nodup_all : all.Nodup := by decide

end ColorField

namespace Settings

open Toml (Value Entries)

def text? : Value → Option Text
  | .string t => some t
  | _ => none

def boolean? : Value → Option Bool
  | .boolean b => some b
  | _ => none

def colorIn? (v : Value) (f : ColorField) : Option Text :=
  match v with
  | .table _ es => (Entries.get? es f.name).bind text?
  | .inline es => (Entries.get? es f.name).bind text?
  | .array vs => vs[ColorField.all.idxOf f]?.bind text?
  | _ => none

def color? (es : Entries) (f : ColorField) : Option Text :=
  (Entries.get? es colorsField).bind fun v => colorIn? v f

def keep? (es : Entries) : Option Bool := (Entries.get? es keepField).bind boolean?

theorem stringOf_eq_ok_iff {v : Value} {t : Text} : stringOf v = .ok t ↔ v = .string t := by
  cases v <;> simp [stringOf, wrongKind]

theorem booleanOf_eq_ok_iff {v : Value} {b : Bool} : booleanOf v = .ok b ↔ v = .boolean b := by
  cases v <;> simp [booleanOf, wrongKind]

theorem setColor_same {p q : Palette} {f : ColorField} {v : Value}
    (h : setColor p (f.name, v) = .ok q) : v = .string (q.get f) := by
  rw [setColor, ColorField.ofName?_name] at h
  obtain ⟨t, ht, rfl⟩ := map_eq_ok_iff.1 h
  rw [Palette.get_set, if_pos rfl]
  exact stringOf_eq_ok_iff.1 ht

theorem setColor_other {p q : Palette} {f : ColorField} {e : Text × Value} (hf : e.1 ≠ f.name)
    (h : setColor p e = .ok q) : q.get f = p.get f := by
  rw [setColor] at h
  split at h
  · rename_i g hg
    obtain ⟨t, -, rfl⟩ := map_eq_ok_iff.1 h
    rw [Palette.get_set, if_neg]
    rintro rfl
    exact hf (ColorField.name_of_ofName? hg).symm
  · cases h

theorem get_of_foldlM_setColor {es : Entries} (hes : (es.map Prod.fst).Nodup) {p q : Palette}
    (h : es.foldlM setColor p = .ok q) (f : ColorField) :
    q.get f = ((Entries.get? es f.name).bind text?).getD (p.get f) := by
  have hview := view_of_foldlM (fun p => p.get f) (fun v c => v = .string c)
    (fun _ _ _ => setColor_same) (fun _ _ _ => setColor_other) hes h
  cases hget : Entries.get? es f.name with
  | none =>
    rw [hget] at hview
    exact hview
  | some v =>
    rw [hget] at hview
    simp only at hview
    rw [hview]
    rfl

theorem get_of_setColors {fs : List ColorField} (hfs : fs.Nodup) {vs : List Value} {p q : Palette}
    (h : setColors p fs vs = .ok q) (f : ColorField) :
    q.get f = if f ∈ fs then (vs[fs.idxOf f]?.bind text?).getD (p.get f) else p.get f := by
  induction fs generalizing p vs with
  | nil =>
    cases h
    rfl
  | cons g fs ih =>
    cases vs with
    | nil =>
      cases h
      simp
    | cons v vs =>
      obtain ⟨c, hc, h⟩ := bind_eq_ok_iff.1 h
      cases stringOf_eq_ok_iff.1 hc
      obtain ⟨hg, hfs⟩ := List.nodup_cons.1 hfs
      rw [ih hfs h, Palette.get_set]
      by_cases hfg : f = g
      · subst hfg
        simp [hg, text?]
      · simp [hfg, List.idxOf_cons_ne _ (Ne.symm hfg)]

theorem get_of_paletteOf {v : Value} (hv : v.Distinct) {p : Palette} (h : paletteOf v = .ok p)
    (f : ColorField) : p.get f = (colorIn? v f).getD (({} : Palette).get f) := by
  cases hv with
  | table hn _ => exact get_of_foldlM_setColor hn h f
  | inline hn _ => exact get_of_foldlM_setColor hn h f
  | array _ =>
    rw [get_of_setColors ColorField.nodup_all h f, if_pos f.mem_all]
    rfl
  | @tables ts _ _ =>
    -- a table is no colour, so there is none
    cases ts with
    | nil =>
      cases h
      rfl
    | cons t ts => cases h
  | _ => cases h

theorem setEntry_colors {s s' : Settings} {v : Value} (h : setEntry s (colorsField, v) = .ok s') :
    paletteOf v = .ok s'.palette := by
  rw [setEntry, if_pos rfl] at h
  obtain ⟨p, hp, rfl⟩ := map_eq_ok_iff.1 h
  exact hp

theorem setEntry_keep {s s' : Settings} {v : Value} (h : setEntry s (keepField, v) = .ok s') :
    v = .boolean s'.keepDirectives := by
  have hne : keepField ≠ colorsField := by decide
  rw [setEntry, if_neg hne, if_pos rfl] at h
  obtain ⟨b, hb, rfl⟩ := map_eq_ok_iff.1 h
  exact booleanOf_eq_ok_iff.1 hb

/-- An entry that is accepted leaves alone what it does not name. -/
theorem setEntry_other {s s' : Settings} {e : Text × Value} (h : setEntry s e = .ok s') :
    (e.1 ≠ colorsField → s'.palette = s.palette) ∧
      (e.1 ≠ keepField → s'.keepDirectives = s.keepDirectives) := by
  rw [setEntry] at h
  split at h
  · obtain ⟨p, -, rfl⟩ := map_eq_ok_iff.1 h
    exact ⟨fun hne => absurd ‹_› hne, fun _ => rfl⟩
  split at h
  · obtain ⟨b, -, rfl⟩ := map_eq_ok_iff.1 h
    exact ⟨fun _ => rfl, fun hne => absurd ‹_› hne⟩
  · cases h

theorem get_of_ofEntries {es : Entries} (hes : es.Distinct) {s : Settings}
    (h : ofEntries es = .ok s) (f : ColorField) :
    s.palette.get f = (color? es f).getD (({} : Palette).get f) := by
  have hview := view_of_foldlM Settings.palette (fun v p => paletteOf v = .ok p)
    (fun _ _ _ => setEntry_colors) (fun _ _ _ hne h => (setEntry_other h).1 hne) hes.names h
  rw [color?]
  cases hget : Entries.get? es colorsField with
  | none =>
    rw [hget] at hview
    simp only at hview
    rw [hview]
    rfl
  | some v =>
    rw [hget] at hview
    exact get_of_paletteOf (hes.of_get? hget) hview f

theorem keepDirectives_of_ofEntries {es : Entries} (hes : es.Distinct) {s : Settings}
    (h : ofEntries es = .ok s) : s.keepDirectives = (keep? es).getD false := by
  have hview := view_of_foldlM Settings.keepDirectives (fun v b => v = .boolean b)
    (fun _ _ _ => setEntry_keep) (fun _ _ _ hne h => (setEntry_other h).2 hne) hes.names h
  rw [keep?]
  cases hget : Entries.get? es keepField with
  | none =>
    rw [hget] at hview
    exact hview
  | some v =>
    rw [hget] at hview
    simp only at hview
    rw [hview]
    rfl

end Settings

end FlowchartMerge
