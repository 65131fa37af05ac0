import FlowchartMerge.Proofs.Command.Input
import FlowchartMerge.Proofs.Settings.Decoding
import FlowchartMerge.Proofs.Text.Strip

/-!
# Layers of settings

The settings of a command are the defaults, then what a document sets, then what the flags
say, one setting at a time. The colours are checked twice, once as the document leaves them
and once as they are in the end, so a flag hides no bad colour of the document. Each check
stops at the first bad colour in the order of the fields.
-/

set_option autoImplicit false

namespace FlowchartMerge

theorem Text.strip_eq_nil_iff (p : Char → Bool) (t : Text) :
    strip p t = [] ↔ ∀ c ∈ t, p c = true := by
  constructor
  · intro h
    obtain ⟨a, b, ht, ha, hb⟩ := (stripped_strip p t).around
    rw [h, List.append_nil] at ht
    rw [ht, List.forall_mem_append]
    exact ⟨ha, hb⟩
  · intro h
    have hstrip := strip_append_of_all p t [] [] h (by simp)
    simpa [strip, stripEnd] using hstrip

theorem isColor_iff (c : Text) : isColor c = true ↔
    (∃ x ∈ c, isBlank x = false) ∧ ',' ∉ c ∧ ';' ∉ c ∧ '\n' ∉ c ∧ '\r' ∉ c := by
  have hblank : (Text.trim c).isEmpty = false ↔ ∃ x ∈ c, isBlank x = false := by
    rw [List.isEmpty_eq_false_iff, Text.trim, ne_eq, Text.strip_eq_nil_iff]
    simp
  have hbreaks : (c.any fun x => colorBreaks.contains x) = false ↔ ∀ x ∈ colorBreaks, x ∉ c := by
    rw [List.any_eq_false]
    constructor
    · intro h x hx hc
      exact h x hc (List.contains_iff_mem.2 hx)
    · intro h x hc hx
      exact h x (List.contains_iff_mem.1 hx) hc
  rw [isColor, Bool.and_eq_true, Bool.not_eq_true', Bool.not_eq_true', hblank, hbreaks]
  simp [colorBreaks]

namespace Palette

structure FirstBad (p : Palette) (f : ColorField) : Prop where
  bad : isColor (p.get f) = false
  before : ∃ earlier later : List ColorField,
    [.addedFill, .addedStroke, .removedFill, .removedStroke] = earlier ++ f :: later ∧
      ∀ g ∈ earlier, isColor (p.get g) = true

theorem firstBad?_eq_some_iff {p : Palette} {b : BadColor} :
    p.firstBad? = some b ↔ ∃ f, p.FirstBad f ∧ b = ⟨f, p.get f⟩ := by
  rw [firstBad?, Option.map_eq_some_iff]
  constructor
  · rintro ⟨f, hf, rfl⟩
    obtain ⟨hbad, earlier, later, hall, hearlier⟩ := List.find?_eq_some_iff_append.1 hf
    refine ⟨f, ⟨by simpa using hbad, earlier, later, hall, ?_⟩, rfl⟩
    simpa using hearlier
  · rintro ⟨f, ⟨hbad, earlier, later, hall, hearlier⟩, rfl⟩
    refine ⟨f, List.find?_eq_some_iff_append.2 ⟨?_, earlier, later, hall, ?_⟩, rfl⟩
    · simpa using hbad
    · simpa using hearlier

theorem get_override (p : Palette) (color : ColorField → Option Text) (f : ColorField) :
    (p.override color).get f = (color f).getD (p.get f) := get_ofFields _ f

theorem usable_default : Usable {} := by
  rw [← firstBad?_eq_none_iff]
  decide

end Palette

namespace Settings

theorem validate_eq_error_iff {s : Settings} {b : BadColor} :
    s.validate = .error b ↔ ∃ f, s.palette.FirstBad f ∧ b = ⟨f, s.palette.get f⟩ := by
  rw [← Palette.firstBad?_eq_some_iff, validate]
  cases s.palette.firstBad? <;> simp

def checked (es : Toml.Entries) : Except SettingsError Settings := do
  let s ← (ofEntries es).mapError SettingsError.misfit
  s.validate.mapError SettingsError.badColor

variable {es : Toml.Entries}

theorem checked_eq_ok_iff {s : Settings} :
    checked es = .ok s ↔ ofEntries es = .ok s ∧ s.palette.Usable := by
  simp only [checked, bind_eq_ok_iff, mapError_eq_ok_iff, validate_eq_ok_iff_usable]
  constructor
  · rintro ⟨s', hs', hu, rfl⟩
    exact ⟨hs', hu⟩
  · rintro ⟨hs, hu⟩
    exact ⟨s, hs, hu, rfl⟩

theorem checked_eq_error_iff {e : SettingsError} : checked es = .error e ↔
    (∃ cause, ofEntries es = .error cause ∧ .misfit cause = e) ∨
      ∃ s f, ofEntries es = .ok s ∧ s.palette.FirstBad f ∧ .badColor ⟨f, s.palette.get f⟩ = e := by
  simp only [checked, bind_eq_error_iff, mapError_eq_ok_iff, mapError_eq_error_iff,
    validate_eq_error_iff]
  constructor
  · rintro (hm | ⟨s, hs, b, ⟨f, hf, rfl⟩, rfl⟩)
    · exact Or.inl hm
    · exact Or.inr ⟨s, f, hs, hf, rfl⟩
  · rintro (hm | ⟨s, f, hs, hf, rfl⟩)
    · exact Or.inl hm
    · exact Or.inr ⟨s, hs, _, ⟨f, hf, rfl⟩, rfl⟩

end Settings

namespace OutputOptions

variable {o : OutputOptions} {w : World}

inductive Document (o : OutputOptions) (w : World) : Toml.Entries → Prop
  | none (hc : o.config = none) : Document o w []
  | file {path t : Text} {es : Toml.Entries} (hc : o.config = some path)
      (ht : w.text path = .ok t) (hes : Toml.document? t = some es) : Document o w es

/-- Why there are no settings: what fails first of the document, of its colours and of the
colours after the flags. -/
inductive Refused (o : OutputOptions) (w : World) : SettingsError → Prop
  | unreadable {path : Text} {cause : FileError} (hc : o.config = some path)
      (ht : w.text path = .error cause) : Refused o w (.unreadable path cause)
  | malformed {path t : Text} (hc : o.config = some path) (ht : w.text path = .ok t)
      (hes : Toml.document? t = none) : Refused o w .malformed
  | misfit {es : Toml.Entries} {cause : MisfitError} (hes : o.Document w es)
      (hb : Settings.ofEntries es = .error cause) : Refused o w (.misfit cause)
  | inDocument {es : Toml.Entries} {base : Settings} {f : ColorField} (hes : o.Document w es)
      (hb : Settings.ofEntries es = .ok base) (hf : base.palette.FirstBad f) :
      Refused o w (.badColor ⟨f, base.palette.get f⟩)
  | inFlags {es : Toml.Entries} {base : Settings} {f : ColorField} (hes : o.Document w es)
      (hb : Settings.ofEntries es = .ok base) (hu : base.palette.Usable)
      (hf : (o.apply base).palette.FirstBad f) :
      Refused o w (.badColor ⟨f, (o.apply base).palette.get f⟩)

theorem Document.distinct {es : Toml.Entries} (h : o.Document w es) : es.Distinct := by
  cases h with
  | none _ => exact .nil
  | file _ _ hes => exact Toml.distinct_of_document? hes

def entries (o : OutputOptions) (w : World) : Except SettingsError Toml.Entries :=
  match o.config with
  | none => .ok []
  | some path => do
    let t ← (w.text path).mapError (SettingsError.unreadable path)
    match Toml.document? t with
    | none => .error .malformed
    | some es => .ok es

theorem entries_eq_ok_iff {es : Toml.Entries} : o.entries w = .ok es ↔ o.Document w es := by
  rw [entries]
  constructor
  · intro h
    split at h
    · cases h
      exact .none ‹_›
    · obtain ⟨t, ht, h⟩ := bind_eq_ok_iff.1 h
      split at h <;> cases h
      exact .file ‹_› (mapError_eq_ok_iff.1 ht) ‹_›
  · intro h
    cases h with
    | none hc => rw [hc]
    | file hc ht hes =>
      rw [hc]
      exact bind_eq_ok_iff.2 ⟨_, mapError_eq_ok_iff.2 ht, by rw [hes]⟩

theorem entries_eq_error_iff {e : SettingsError} : o.entries w = .error e ↔
    ∃ path, o.config = some path ∧ ((∃ cause, w.text path = .error cause ∧
        .unreadable path cause = e) ∨
      ∃ t, w.text path = .ok t ∧ Toml.document? t = none ∧ .malformed = e) := by
  rw [entries]
  cases o.config with
  | none => simp
  | some path =>
    simp only [bind_eq_error_iff, mapError_eq_ok_iff, mapError_eq_error_iff]
    constructor
    · rintro (hr | ⟨t, ht, h⟩)
      · exact ⟨path, rfl, Or.inl hr⟩
      · split at h <;> cases h
        exact ⟨path, rfl, Or.inr ⟨t, ht, ‹_›, rfl⟩⟩
    · rintro ⟨_, ⟨⟩, hr | ⟨t, ht, hes, rfl⟩⟩
      · exact Or.inl hr
      · exact Or.inr ⟨t, ht, by rw [hes]⟩

/-- Without a document the settings are those of no entries. -/
theorem fileSettings_eq (o : OutputOptions) (w : World) :
    o.fileSettings w = o.entries w >>= Settings.checked := by
  rw [fileSettings, entries]
  cases o.config with
  | none =>
    have hnone : Settings.checked [] = .ok {} :=
      Settings.checked_eq_ok_iff.2 ⟨rfl, Palette.usable_default⟩
    exact hnone.symm
  | some path =>
    cases ht : w.text path with
    | error cause =>
      simp only [ht]
      rfl
    | ok t =>
      simp only [ht, Settings.ofFile]
      change Settings.ofDocument t = _
      rw [Settings.ofDocument]
      cases hes : Toml.document? t with
      | none => simp only [hes, mapError_ok, ok_bind, error_bind]
      | some es =>
        simp only [hes, mapError_ok, ok_bind]
        rfl

theorem settings_eq (o : OutputOptions) (w : World) : o.settings w = (do
    let base ← Settings.checked (← o.entries w)
    (o.apply base).validate.mapError SettingsError.badColor) := by
  rw [settings, fileSettings_eq]
  cases o.entries w <;> rfl

theorem settings_eq_ok_iff {s : Settings} : o.settings w = .ok s ↔
    ∃ es base, o.Document w es ∧ Settings.ofEntries es = .ok base ∧ base.palette.Usable ∧
      (o.apply base).palette.Usable ∧ s = o.apply base := by
  simp only [settings_eq, bind_eq_ok_iff, entries_eq_ok_iff, Settings.checked_eq_ok_iff,
    mapError_eq_ok_iff, Settings.validate_eq_ok_iff_usable]
  constructor
  · rintro ⟨es, hes, base, ⟨hb, hu⟩, ho, hs⟩
    exact ⟨es, base, hes, hb, hu, ho, hs⟩
  · rintro ⟨es, base, hes, hb, hu, ho, hs⟩
    exact ⟨es, hes, base, ⟨hb, hu⟩, ho, hs⟩

theorem settings_eq_error_iff {e : SettingsError} : o.settings w = .error e ↔ o.Refused w e := by
  simp only [settings_eq, bind_eq_error_iff, entries_eq_ok_iff, entries_eq_error_iff,
    Settings.checked_eq_ok_iff, Settings.checked_eq_error_iff, mapError_eq_error_iff,
    Settings.validate_eq_error_iff]
  constructor
  · rintro (⟨path, hc, ⟨cause, ht, rfl⟩ | ⟨t, ht, hes, rfl⟩⟩ |
      ⟨es, hes, (⟨cause, hb, rfl⟩ | ⟨base, f, hb, hf, rfl⟩) |
        ⟨base, ⟨hb, hu⟩, _, ⟨f, hf, rfl⟩, rfl⟩⟩)
    · exact .unreadable hc ht
    · exact .malformed hc ht hes
    · exact .misfit hes hb
    · exact .inDocument hes hb hf
    · exact .inFlags hes hb hu hf
  · intro h
    cases h with
    | unreadable hc ht => exact Or.inl ⟨_, hc, Or.inl ⟨_, ht, rfl⟩⟩
    | malformed hc ht hes => exact Or.inl ⟨_, hc, Or.inr ⟨_, ht, hes, rfl⟩⟩
    | misfit hes hb => exact Or.inr ⟨_, hes, Or.inl (Or.inl ⟨_, hb, rfl⟩)⟩
    | inDocument hes hb hf => exact Or.inr ⟨_, hes, Or.inl (Or.inr ⟨_, _, hb, hf, rfl⟩)⟩
    | inFlags hes hb hu hf => exact Or.inr ⟨_, hes, Or.inr ⟨_, ⟨hb, hu⟩, _, ⟨_, hf, rfl⟩, rfl⟩⟩

end OutputOptions

/-- A command has settings exactly if its document can be read, is understood and has usable
colours, and the colours are still usable after the flags. Each setting is then the flag's, or
else the document's, or else the default, whatever the others are. Otherwise the first step
that fails decides, and of bad colours the first, with its value, in the document before the
flags. -/
theorem settings_layered (o : OutputOptions) (w : World) :
    (∀ s, o.settings w = .ok s ↔ ∃ es base, o.Document w es ∧ Settings.ofEntries es = .ok base ∧
      (∀ f, isColor (base.palette.get f) = true) ∧
      (∀ f, isColor ((o.color f).getD (base.palette.get f)) = true) ∧ s = o.apply base) ∧
    (∀ es base, o.Document w es → Settings.ofEntries es = .ok base →
      (∀ f, base.palette.get f = (Settings.color? es f).getD (({} : Palette).get f) ∧
        (o.apply base).palette.get f =
          ((o.color f).or (Settings.color? es f)).getD (({} : Palette).get f)) ∧
      (o.apply base).keepDirectives = (o.keepDirectives || (Settings.keep? es).getD false)) ∧
    (∀ e, o.settings w = .error e ↔ o.Refused w e) ∧
    ∀ c, isColor c = true ↔
      (∃ x ∈ c, isBlank x = false) ∧ ',' ∉ c ∧ ';' ∉ c ∧ '\n' ∉ c ∧ '\r' ∉ c := by
  refine ⟨fun s => ?_, fun es base hes hb => ⟨fun f => ?_, ?_⟩,
    fun e => OutputOptions.settings_eq_error_iff, isColor_iff⟩
  · simp only [OutputOptions.settings_eq_ok_iff, Palette.Usable, OutputOptions.apply,
      Palette.get_override]
  · have hget := Settings.get_of_ofEntries hes.distinct hb f
    refine ⟨hget, ?_⟩
    rw [OutputOptions.apply, Palette.get_override, hget]
    cases o.color f <;> rfl
  · rw [OutputOptions.apply, Settings.keepDirectives_of_ofEntries hes.distinct hb, Bool.or_comm]

/-- A document with two colours, one of which a flag overrides, and one with a bad colour that a
flag would override. -/
theorem settings_layered_flags :
    let good : Text := "keep_directives = true\n[colors]\nadded_fill = \"pink\"\nadded_stroke = \"x\""
    let bad : Text := "[colors]\nremoved_fill = \"a;b\""
    let o : OutputOptions := Arguments.outputOptions
      ⟨[], [(.config, "c"), (.color .addedFill, "lime"), (.color .removedFill, "red")], []⟩
    let git : Git := ⟨fun _ => .error .notFound, fun _ => .error .notFound⟩
    let w (t : Text) : World := ⟨fun _ => .ok (bytesOfText t), .empty, git⟩
    (∃ s, o.settings (w good) = .ok s ∧ s.keepDirectives = true ∧
      ColorField.all.map s.palette.get = ["lime", "x", "red", "#cf222e"]) ∧
      o.settings (w bad) = .error (.badColor ⟨.removedFill, "a;b"⟩) := by
  intro good bad o git w
  have hconfig : o.config = some ("c" : Text) := by rfl
  have htext : ∀ t, (w t).text "c" = .ok t := fun t => World.text_eq_ok_iff.2 rfl
  constructor
  · let base : Settings := ⟨{ addedFill := "pink", addedStroke := "x" }, true⟩
    have hgood : (Toml.document? good).any fun es => decide (Settings.ofEntries es = .ok base ∧
        Settings.keep? es = some true ∧ Settings.color? es .addedFill = some ("pink" : Text) ∧
        Settings.color? es .addedStroke = some ("x" : Text) ∧
        Settings.color? es .removedFill = none ∧ Settings.color? es .removedStroke = none) := by
      decide +kernel
    obtain ⟨es, hes, h⟩ := (Option.any_eq_true _ _).1 hgood
    obtain ⟨hbase, hkeep, hadded, haddedStroke, hremoved, hremovedStroke⟩ := of_decide_eq_true h
    have hdocument : o.Document (w good) es := .file hconfig (htext good) hes
    obtain ⟨hok, hvalues, -⟩ := settings_layered o (w good)
    obtain ⟨hget, hkept⟩ := hvalues es base hdocument hbase
    refine ⟨o.apply base, (hok _).2 ⟨es, base, hdocument, hbase, ?_, ?_, rfl⟩, ?_, ?_⟩
    · intro f
      cases f <;> decide
    · intro f
      cases f <;> decide
    · rw [hkept, hkeep]
      rfl
    · simp only [ColorField.all, List.map_cons, List.map_nil, hget, hadded, haddedStroke, hremoved,
        hremovedStroke]
      rfl
  · have hbad : (Toml.document? bad).any fun es => decide (Settings.ofEntries es =
        .ok ⟨{ removedFill := "a;b" }, false⟩) := by decide +kernel
    obtain ⟨es, hes, h⟩ := (Option.any_eq_true _ _).1 hbad
    obtain ⟨-, -, herror, -⟩ := settings_layered o (w bad)
    exact (herror _).2 (.inDocument (.file hconfig (htext bad) hes) (of_decide_eq_true h)
      ⟨by decide, [.addedFill, .addedStroke], [.removedStroke], rfl, by decide⟩)

end FlowchartMerge
