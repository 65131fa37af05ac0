import FlowchartMerge.Toml.Lexeme

/-!
# How texts are spelled between double quotes

A text may be spelled in many ways: a character that is neither quote, backslash nor control
character can stand for itself, some characters have an escape of their own, and each has its
number in hexadecimal digits. Every text has a spelling, and from each of its spellings the
text is read back up to the closing quote.
-/

set_option autoImplicit false

namespace FlowchartMerge.Toml

def standsForItself (c : Char) : Bool :=
  c != '"' && c != '\\' && (c == '\t' || 32 ≤ c.toNat && c.toNat != 127)

def letterEscapes : List (Char × Char) :=
  [('b', '\x08'), ('t', '\t'), ('n', '\n'), ('f', '\x0c'), ('r', '\r'), ('"', '"'), ('\\', '\\')]

/-- What may be written between double quotes for a text. -/
inductive Spells : Text → Text → Prop
  | nil : Spells [] []
  | itself {c : Char} {u t : Text} (hc : standsForItself c = true) (h : Spells u t) :
      Spells (c::u) (c::t)
  | letter {x c : Char} {u t : Text} (hx : (x, c) ∈ letterEscapes) (h : Spells u t) :
      Spells ('\\'::x::u) (c::t)
  | number {x c : Char} {digits u t : Text} {ds : List Nat}
      (hx : (x, digits.length) ∈ [('u', 4), ('U', 8)])
      (hds : Numeral.digits? 16 digits = some ds) (hc : Numeral.value 16 ds = c.toNat)
      (h : Spells u t) : Spells ('\\' :: x :: digits ++ u) (c::t)

def spellChar (c : Char) : Text :=
  if standsForItself c then [c]
  else if c = '"' ∨ c = '\\' then ['\\', c]
  else ['\\', 'u', '0', '0', Nat.digitChar (c.toNat / 16), Nat.digitChar (c.toNat % 16)]

def spell (t : Text) : Text := t.flatMap spellChar

theorem digits?_control {n : Nat} (h : n < 128) :
    Numeral.digits? 16 ['0', '0', Nat.digitChar (n / 16), Nat.digitChar (n % 16)] =
      some [0, 0, n / 16, n % 16] := by
  have hall : ∀ n < 128, Numeral.digits? 16
      ['0', '0', Nat.digitChar (n / 16), Nat.digitChar (n % 16)] =
        some [0, 0, n / 16, n % 16] := by decide +kernel
  exact hall n h

theorem Spells.char_append (c : Char) {u t : Text} (h : Spells u t) :
    Spells (spellChar c ++ u) (c::t) := by
  unfold spellChar
  split
  · exact .itself ‹_› h
  rename_i hc
  split
  · rename_i hq
    rcases hq with rfl | rfl
    · exact .letter (by decide) h
    · exact .letter (by decide) h
  · rename_i hq
    have hlt : c.toNat < 128 := by
      simp only [standsForItself, Bool.and_eq_true, Bool.or_eq_true, bne_iff_ne, beq_iff_eq,
        decide_eq_true_eq] at hc
      rw [not_or] at hq
      simp only [hq.1, hq.2, ne_eq, not_false_eq_true, true_and, not_or] at hc
      omega
    have hvalue : Numeral.value 16 [0, 0, c.toNat / 16, c.toNat % 16] = c.toNat := by
      simp only [Numeral.value, List.foldl_cons, List.foldl_nil]
      omega
    exact .number (x := 'u') (by simp) (digits?_control hlt) hvalue h

/-- Every text can be written between double quotes. -/
theorem spells_spell (t : Text) : Spells (spell t) t := by
  induction t with
  | nil => exact .nil
  | cons c t ih => exact ih.char_append c

theorem isTextChar_of_standsForItself {c : Char} (h : standsForItself c = true) :
    c ≠ '"' ∧ c ≠ '\\' ∧ isTextChar c = true := by
  simp only [standsForItself, Bool.and_eq_true, Bool.or_eq_true, bne_iff_ne, beq_iff_eq,
    decide_eq_true_eq] at h
  refine ⟨h.1.1, h.1.2, ?_⟩
  simp only [isTextChar, Bool.and_eq_true, Bool.or_eq_true, beq_iff_eq, decide_eq_true_eq]
  rcases h.2 with ht | ⟨hl, hd⟩
  · exact Or.inl (Or.inl ht)
  · omega

theorem escape?_of_mem {x c : Char} (h : (x, c) ∈ letterEscapes) : escape? x = some c := by
  have hall : ∀ p ∈ letterEscapes, escape? p.1 = some p.2 := by decide
  exact hall _ h

theorem codePoint?_of_value {digits : Text} {ds : List Nat} {c : Char}
    (hds : Numeral.digits? 16 digits = some ds) (hc : Numeral.value 16 ds = c.toNat) :
    codePoint? digits = some c := by
  have hvalid : c.toNat.isValidChar := c.valid
  rw [codePoint?, hds, Option.bind_some, hc]
  simp [hvalid]

section

variable {c : Char} {t : Text}

theorem basicRest_quote (t : Text) : basicRest ('"'::t) = some ([], t) := by
  rw [basicRest.eq_def]
  rfl

theorem basicRest_itself (h : standsForItself c = true) :
    basicRest (c::t) = push c (basicRest t) := by
  obtain ⟨hq, hb, ht⟩ := isTextChar_of_standsForItself h
  rw [basicRest.eq_def]
  simp only [hq, hb, ht, if_true, if_false]

theorem basicRest_letter {x : Char} (h : escape? x = some c) :
    basicRest ('\\'::x::t) = push c (basicRest t) := by
  have hu : x ≠ 'u' := by
    rintro rfl
    cases h
  have hU : x ≠ 'U' := by
    rintro rfl
    cases h
  rw [basicRest.eq_def]
  simp [h, hu, hU]

theorem basicRest_number {x : Char} {digits : Text}
    (hx : (x, digits.length) ∈ [('u', 4), ('U', 8)]) (h : codePoint? digits = some c) :
    basicRest ('\\' :: x :: digits ++ t) = push c (basicRest t) := by
  simp only [List.mem_cons, List.not_mem_nil, or_false, Prod.mk.injEq] at hx
  rcases hx with ⟨rfl, hlen⟩ | ⟨rfl, hlen⟩
  · match digits, hlen with
    | [_, _, _, _], _ =>
      rw [basicRest.eq_def]
      simp [h]
  · match digits, hlen with
    | [_, _, _, _, _, _, _, _], _ =>
      rw [basicRest.eq_def]
      simp [h]

end

/-- A text is read back from each of its spellings, up to the closing quote. -/
theorem Spells.basicRest_append {u t : Text} (h : Spells u t) (rest : Text) :
    basicRest (u ++ '"' :: rest) = some (t, rest) := by
  induction h with
  | nil => exact basicRest_quote rest
  | itself hc _ ih =>
    rw [List.cons_append, basicRest_itself hc, ih]
    rfl
  | letter hx _ ih =>
    rw [List.cons_append, List.cons_append, basicRest_letter (escape?_of_mem hx), ih]
    rfl
  | number hx hds hc _ ih =>
    rw [List.append_assoc, basicRest_number hx (codePoint?_of_value hds hc), ih]
    rfl

theorem Spells.head_ne_quote {u t : Text} (h : Spells u t) : ∀ c ∈ u.head?, c ≠ '"' := by
  rintro c hc
  cases h with
  | nil => cases hc
  | itself hx _ =>
    cases hc
    exact (isTextChar_of_standsForItself hx).1
  | letter _ _ =>
    cases hc
    decide
  | number _ _ _ _ =>
    cases hc
    decide

/-- A spelling between quotes is a string, unless one more quote follows. -/
theorem Spells.string?_append {u t : Text} (h : Spells u t) (rest : Text)
    (hr : ∀ c ∈ rest.head?, c ≠ '"') : string? ('"' :: u ++ '"' :: rest) = some (t, rest) := by
  -- three quotes would be the start of a long string
  have hno : ∀ w, u ++ '"' :: rest = '"' :: '"' :: w → False := by
    intro w hw
    cases u with
    | nil =>
      cases hw
      exact hr '"' rfl rfl
    | cons x u => exact h.head_ne_quote x rfl (List.cons.inj hw).1
  change string? ('"' :: (u ++ '"' :: rest)) = _
  rw [string?]
  · exact h.basicRest_append rest
  · exact hno

end FlowchartMerge.Toml
