import FlowchartMerge.Proofs.Settings.Layers
import FlowchartMerge.Proofs.Toml.Writing

/-!
# Settings that are written down

A draft is a document for the settings: perhaps a line whether lines are kept, then the table of
colours with a line for some of the fields, in any order. It is read as what was written. One
more key that no field has makes it unreadable, wherever it stands and whatever the colours are.
-/

set_option autoImplicit false

namespace FlowchartMerge

open Toml (Assignment IsBareKey sheet)

structure WrittenColor where
  field : ColorField
  color : Text
  spelling : Text
  spells : Toml.Spells spelling color

structure Draft where
  keep : Option Bool
  colors : List WrittenColor
  nodup : (colors.map WrittenColor.field).Nodup

theorem ColorField.isBareKey_name (f : ColorField) : IsBareKey f.name := by cases f <;> decide

theorem ColorField.name_injective : Function.Injective ColorField.name := by
  intro f g h
  have hf := ofName?_name f
  rw [h, ofName?_name] at hf
  exact (Option.some_inj.1 hf).symm

theorem ColorField.ofName?_of_not_mem {t : Text} (h : t ∉ Settings.colorNames) :
    ofName? t = none := by
  refine List.find?_eq_none.2 fun f hf hname => h ?_
  rw [← beq_iff_eq.1 hname]
  exact List.mem_map_of_mem hf

def WrittenColor.assignment (c : WrittenColor) : Assignment where
  key := c.field.name
  value := .string c.color
  written := '"' :: c.spelling ++ ['"']
  bare := c.field.isBareKey_name
  writes := .string c.spells

def Toml.Assignment.switch (k : Text) (hk : IsBareKey k) (b : Bool) : Assignment where
  key := k
  value := .boolean b
  written := if b then "true" else "false"
  bare := hk
  writes := .boolean b

namespace Draft

variable (d : Draft)

def above : List Assignment :=
  d.keep.toList.map fun b => .switch Settings.keepField (by decide) b

def inside : List Assignment := d.colors.map WrittenColor.assignment

def document : Text := sheet d.above Settings.colorsField d.inside

structure Gives (d : Draft) (s : Settings) : Prop where
  written : ∀ c ∈ d.colors, s.palette.get c.field = c.color
  unwritten : ∀ f, f ∉ d.colors.map WrittenColor.field → s.palette.get f = ({} : Palette).get f
  keep : s.keepDirectives = d.keep.getD false

theorem map_key_inside : d.inside.map Assignment.key =
    (d.colors.map WrittenColor.field).map ColorField.name := by
  rw [inside, List.map_map, List.map_map]
  rfl

theorem nodup_inside : (d.inside.map Assignment.key).Nodup := by
  rw [map_key_inside]
  exact d.nodup.map ColorField.name_injective

theorem nodup_above : (d.above.map Assignment.key).Nodup := by
  rw [above]
  cases d.keep with
  | none => exact List.nodup_nil
  | some b => exact List.nodup_singleton _

theorem key_of_mem_above {a : Assignment} (ha : a ∈ d.above) : a.key = Settings.keepField := by
  obtain ⟨b, -, rfl⟩ := List.mem_map.1 ha
  rfl

end Draft

namespace Settings

open Toml (Value Entries)

theorem setColor_assignment (p : Palette) (c : WrittenColor) :
    setColor p c.assignment.entry = .ok (p.set c.field c.color) := by
  simp only [setColor, Assignment.entry, WrittenColor.assignment, ColorField.ofName?_name]
  rfl

theorem exists_foldlM_setColor (cs : List WrittenColor) (p : Palette) :
    ∃ q, ((cs.map WrittenColor.assignment).map Assignment.entry).foldlM setColor p = .ok q := by
  induction cs generalizing p with
  | nil => exact ⟨p, rfl⟩
  | cons c cs ih =>
    obtain ⟨q, hq⟩ := ih (p.set c.field c.color)
    refine ⟨q, ?_⟩
    rw [List.map_cons, List.map_cons, List.foldlM_cons, setColor_assignment, ok_bind, hq]

/-- The palette that is read from the lines of a draft holds the colours that they give. -/
theorem get_of_foldlM_inside {d : Draft} {q : Palette}
    (h : (d.inside.map Assignment.entry).foldlM setColor {} = .ok q) :
    (∀ c ∈ d.colors, q.get c.field = c.color) ∧
      ∀ f, f ∉ d.colors.map WrittenColor.field → q.get f = ({} : Palette).get f := by
  have hkeys : (d.inside.map Assignment.entry).map Prod.fst = d.inside.map Assignment.key :=
    List.map_map
  have hn : ((d.inside.map Assignment.entry).map Prod.fst).Nodup := hkeys.symm ▸ d.nodup_inside
  refine ⟨fun c hc => ?_, fun f hf => ?_⟩
  · have hmem : (c.field.name, Value.string c.color) ∈ d.inside.map Assignment.entry :=
      List.mem_map.2 ⟨_, List.mem_map_of_mem hc, rfl⟩
    rw [get_of_foldlM_setColor hn h, Toml.Entries.get?_of_mem hn hmem]
    rfl
  · have hnot : f.name ∉ (d.inside.map Assignment.entry).map Prod.fst := by
      rw [hkeys, d.map_key_inside, List.mem_map_of_injective ColorField.name_injective]
      exact hf
    rw [get_of_foldlM_setColor hn h, Toml.Entries.get?_eq_none_iff.2 hnot]
    rfl

theorem foldlM_above (d : Draft) : (d.above.map Assignment.entry).foldlM setEntry {} =
    .ok { keepDirectives := d.keep.getD false } := by
  rw [Draft.above]
  cases d.keep with
  | none => rfl
  | some b => rfl

theorem setColor_unknown {k : Text} (h : k ∉ colorNames) (v : Value) (p : Palette) :
    setColor p (k, v) = .error (.unknownField k colorNames) := by
  rw [setColor, ColorField.ofName?_of_not_mem h]

theorem setEntry_unknown {k : Text} (h : k ∉ [colorsField, keepField]) (v : Value)
    (s : Settings) : setEntry s (k, v) = .error (.unknownField k [colorsField, keepField]) := by
  rw [List.mem_pair, not_or] at h
  rw [setEntry, if_neg h.1, if_neg h.2]

theorem ofDocument_eq_checked {t : Text} {es : Entries} (h : Toml.document? t = some es) :
    ofDocument t = checked es := by
  rw [ofDocument, h]
  rfl

theorem ofEntries_draft {d : Draft} {q : Palette}
    (hq : (d.inside.map Assignment.entry).foldlM setColor {} = .ok q) :
    ofEntries (d.above.map Assignment.entry ++
      [(colorsField, .table .header (d.inside.map Assignment.entry))]) =
        .ok ⟨q, d.keep.getD false⟩ := by
  rw [ofEntries, List.foldlM_append, foldlM_above, ok_bind, List.foldlM_cons, setEntry, if_pos rfl,
    paletteOf, hq]
  rfl

end Settings

namespace Draft

open Settings (colorsField keepField)

variable (d : Draft)

theorem document?_document : Toml.document? d.document = some (d.above.map Assignment.entry ++
    [(colorsField, .table .header (d.inside.map Assignment.entry))]) := by
  refine Toml.document?_sheet (by decide) d.nodup_above ?_ d.nodup_inside
  intro h
  obtain ⟨a, ha, hk⟩ := List.mem_map.1 h
  rw [d.key_of_mem_above ha] at hk
  exact absurd hk (by decide)

/-- A draft is read as what was written, or its first bad colour is refused. -/
theorem ofDocument_document : ∃ s, d.Gives s ∧
    (s.palette.Usable ∧ Settings.ofDocument d.document = .ok s ∨
      ∃ f, s.palette.FirstBad f ∧
        Settings.ofDocument d.document = .error (.badColor ⟨f, s.palette.get f⟩)) := by
  obtain ⟨q, hq⟩ := Settings.exists_foldlM_setColor d.colors {}
  obtain ⟨hwritten, hunwritten⟩ := Settings.get_of_foldlM_inside hq
  have hentries := Settings.ofEntries_draft hq
  rw [Settings.ofDocument_eq_checked d.document?_document]
  refine ⟨⟨q, d.keep.getD false⟩, ⟨hwritten, hunwritten, rfl⟩, ?_⟩
  cases hbad : q.firstBad? with
  | none =>
    have hu := (Palette.firstBad?_eq_none_iff q).1 hbad
    exact Or.inl ⟨hu, Settings.checked_eq_ok_iff.2 ⟨hentries, hu⟩⟩
  | some b =>
    obtain ⟨f, hf, -⟩ := Palette.firstBad?_eq_some_iff.1 hbad
    exact Or.inr ⟨f, hf, Settings.checked_eq_error_iff.2 (Or.inr ⟨_, f, hentries, hf, rfl⟩)⟩

theorem not_mem_keys_above {k : Text} (h : k ≠ keepField) : k ∉ d.above.map Assignment.key := by
  intro hm
  obtain ⟨a, ha, rfl⟩ := List.mem_map.1 hm
  exact h (d.key_of_mem_above ha)

theorem ofDocument_refused {t : Text} {es : Toml.Entries} {cause : MisfitError}
    (ht : Toml.document? t = some es) (hes : Settings.ofEntries es = .error cause) :
    Settings.ofDocument t = .error (.misfit cause) := by
  rw [Settings.ofDocument_eq_checked ht]
  exact Settings.checked_eq_error_iff.2 (Or.inl ⟨cause, hes, rfl⟩)

section

variable {k : Text} {before after : List Assignment}

/-- Before the table of colours, one more key that no setting has is refused. -/
theorem ofDocument_unknown_above (hk : IsBareKey k) (hnew : k ∉ [colorsField, keepField])
    (h : d.above = before++after) :
    Settings.ofDocument (sheet (before ++ .switch k hk true :: after) colorsField d.inside) =
      .error (.misfit (.unknownField k [colorsField, keepField])) := by
  have hnk : k ≠ colorsField ∧ k ≠ keepField := by simpa [not_or] using hnew
  have hkeys := d.not_mem_keys_above hnk.2
  have hcolors := d.not_mem_keys_above (k := colorsField) (by decide)
  have hn := d.nodup_above
  have hfold := Settings.foldlM_above d
  rw [h] at hkeys hcolors hn hfold
  rw [List.map_append] at hfold
  refine ofDocument_refused (Toml.document?_sheet (by decide)
    (Toml.nodup_keys_insert hn hkeys) ?_ d.nodup_inside) ?_
  · simpa [Assignment.switch, hnk.1.symm] using hcolors
  · rw [List.map_append, List.map_cons, List.append_assoc]
    exact foldlM_refused hfold (Settings.setEntry_unknown hnew _)

/-- In the table of colours, one more key that no colour has is refused. -/
theorem ofDocument_unknown_inside (hk : IsBareKey k) (hnew : k ∉ Settings.colorNames)
    (h : d.inside = before++after) :
    Settings.ofDocument (sheet d.above colorsField (before ++ .switch k hk true :: after)) =
      .error (.misfit (.unknownField k Settings.colorNames)) := by
  have hkeys : k ∉ d.inside.map Assignment.key := by
    rw [map_key_inside]
    intro hm
    obtain ⟨f, -, rfl⟩ := List.mem_map.1 hm
    exact hnew (List.mem_map_of_mem f.mem_all)
  have hn := d.nodup_inside
  obtain ⟨q, hq⟩ := Settings.exists_foldlM_setColor d.colors {}
  change (d.inside.map _).foldlM _ _ = _ at hq
  rw [h] at hkeys hn hq
  rw [List.map_append] at hq
  have hrefused : Settings.paletteOf
      (.table .header ((before ++ .switch k hk true :: after).map Assignment.entry)) =
        .error (.unknownField k Settings.colorNames) := by
    rw [List.map_append, List.map_cons]
    exact foldlM_refused hq (Settings.setColor_unknown hnew _)
  refine ofDocument_refused (Toml.document?_sheet (by decide) d.nodup_above
    (d.not_mem_keys_above (by decide)) (Toml.nodup_keys_insert hn hkeys)) ?_
  rw [Settings.ofEntries, List.foldlM_append, Settings.foldlM_above, ok_bind, List.foldlM_cons,
    Settings.setEntry, if_pos rfl, hrefused]
  rfl

end

end Draft

/-- A draft is read as exactly what was written, with defaults for the rest, or its first bad
colour is refused with its value. Every text can be written for a colour. One more line with a
key that is not a setting's, before the table of colours or in it, is refused as unknown. -/
theorem draft_read_back (d : Draft) :
    (∃ s, d.Gives s ∧ (s.palette.Usable ∧ Settings.ofDocument d.document = .ok s ∨
      ∃ f, s.palette.FirstBad f ∧
        Settings.ofDocument d.document = .error (.badColor ⟨f, s.palette.get f⟩))) ∧
    (∀ t : Text, ∃ u, Toml.Spells u t) ∧
    ∀ (k : Text) (hk : IsBareKey k) (before after : List Assignment),
      let fields : List Text := ["colors", "keep_directives"]
      let names : List Text := ["added_fill", "added_stroke", "removed_fill", "removed_stroke"]
      let extra : Assignment := .switch k hk true
      (k ∉ fields → d.above = before++after →
        Settings.ofDocument (sheet (before ++ extra :: after) "colors" d.inside) =
          .error (.misfit (.unknownField k fields))) ∧
      (k ∉ names → d.inside = before++after →
        Settings.ofDocument (sheet d.above "colors" (before ++ extra :: after)) =
          .error (.misfit (.unknownField k names))) := by
  refine ⟨d.ofDocument_document, fun t => ⟨_, Toml.spells_spell t⟩, ?_⟩
  intro k hk before after fields names extra
  exact ⟨d.ofDocument_unknown_above hk, d.ofDocument_unknown_inside hk⟩

/-- Colours out of order, one of them with a quote and a line feed, and a key that is no colour's. -/
theorem draft_read_back_quoted :
    let names : List Text := ["added_fill", "added_stroke", "removed_fill", "removed_stroke"]
    let k : Text := "added-fill"
    ∃ d : Draft, ∃ hk : IsBareKey k,
      d.document = "keep_directives = true\n[colors]\nremoved_fill = \"a\\\"\\u000a\"\n" ++
        "added_fill = \"\\\\é\"\n" ∧
      Settings.ofDocument d.document = .error (.badColor ⟨.removedFill, ['a', '"', '\n']⟩) ∧
      k ∉ names ∧ Settings.ofDocument (sheet d.above "colors" (.switch k hk true :: d.inside)) =
        .error (.misfit (.unknownField k names)) := by
  intro names k
  let d : Draft :=
    { keep := some true
      colors := [⟨.removedFill, ['a', '"', '\n'], _, Toml.spells_spell _⟩,
        ⟨.addedFill, ['\\', 'é'], _, Toml.spells_spell _⟩]
      nodup := by decide }
  have hk : IsBareKey k := by decide
  have hnew : k ∉ names := by decide
  obtain ⟨⟨s, hs, hread⟩, -, hextra⟩ := draft_read_back d
  have hremoved := hs.written _ List.mem_cons_self
  have hadded := hs.written _ (List.mem_cons_of_mem _ List.mem_cons_self)
  have hbad : isColor (s.palette.get .removedFill) = false := by
    rw [hremoved]
    decide
  have honly : ∀ f, s.palette.FirstBad f → f = .removedFill := by
    intro f hf
    have hf := hf.bad
    cases f with
    | addedFill =>
      rw [hadded] at hf
      exact absurd hf (by decide)
    | removedFill => rfl
    | _ =>
      rw [hs.unwritten _ (by decide)] at hf
      exact absurd hf (by decide)
  refine ⟨d, hk, by decide +kernel, ?_, hnew, (hextra k hk [] d.inside).2 hnew rfl⟩
  rcases hread with ⟨hu, -⟩ | ⟨f, hf, herror⟩
  · rw [hu .removedFill] at hbad
    cases hbad
  · rw [herror, honly f hf, hremoved]

end FlowchartMerge
