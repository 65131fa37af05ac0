import FlowchartMerge.Comparison.Merge
import FlowchartMerge.Proofs.Diagram.Reading

/-!
# The lines that a comparison writes of its own

Besides the texts that it quotes, a merged diagram holds dotted lines for removed
edges, a style declaration for each status and a class line for each node. Each of
them reads back as what it was written for: a dotted line as an edge between its two
words, the others as lines that are passed through, as long as no colour ends a line
or holds a connector.
-/

set_option autoImplicit false

namespace FlowchartMerge

namespace Line

def IsPlain (t : Text) : Prop := '\n' ∉ t ∧ ∀ c : Connector, ¬c.token <:+: t

instance (t : Text) : Decidable (IsPlain t) :=
  decidable_of_iff ('\n' ∉ t ∧ Connector.find? t = none) (by
    rw [IsPlain, Connector.find?_eq_none_iff])

theorem IsPlain.find? {t : Text} (h : IsPlain t) : Connector.find? t = none :=
  (Connector.find?_eq_none_iff t).2 h.2

theorem IsWord.isPlain {w : Text} (hw : IsWord w) : IsPlain w := by
  refine ⟨hw.not_mem (by decide), fun c hc => ?_⟩
  have hm : '-' ∈ c.token ∨ '=' ∈ c.token := by
    cases c <;> decide
  rcases hm with hm | hm
  · exact hw.not_mem (by decide) (hc.subset hm)
  · exact hw.not_mem (by decide) (hc.subset hm)

theorem IsPlain.append_cons {a b : Text} {x : Char} (ha : IsPlain a) (hb : IsPlain b)
    (hx : x ≠ '\n') (hc : ∀ c : Connector, x ∉ c.token) : IsPlain (a ++ x :: b) := by
  constructor
  · simp [ha.1, hb.1, hx.symm]
  · intro c h
    rcases Text.infix_append_cons (hc c) h with h | h
    · exact ha.2 c h
    · exact hb.2 c h

theorem isHeader_append_word {w rest : Text} {c : Char} (hw : IsWord w)
    (hc : isWordChar c = false) :
    isHeader (w ++ c :: rest) = true ↔ w ∈ headerKeywords ∧ isDirection (c::rest) = true := by
  have hr : ∀ x ∈ (c::rest).head?, isWordChar x = false := by
    intro x hx
    cases hx
    exact hc
  rw [isHeader_iff, Text.takeWhile_append_of_stop hw.all hr, Text.dropWhile_append_of_stop hw.all hr]

/-- A directive without a connector is kept as it is. -/
theorem isOther_directive {w rest : Text} (hw : IsWord w) (hk : w ∉ headerKeywords)
    (hp : IsPlain (w ++ ' ' :: rest)) (hd : isDirective (w ++ ' ' :: rest) = true)
    (hl : ∀ x ∈ (w ++ ' ' :: rest).getLast?, isSurround x = false) :
    IsOther (w ++ ' ' :: rest) := by
  obtain ⟨c, hc, hcw⟩ := hw.exists_head (' '::rest)
  have hh : isHeader (w ++ ' ' :: rest) = false := by
    apply Bool.eq_false_iff.2
    intro h
    exact hk ((isHeader_append_word hw (by decide)).1 h).1
  have hcut := (Connector.cut?_eq_none_iff _).2 hp.find?
  refine ⟨isLine_of_head hc hcw hp.1 hl, ?_⟩
  rw [(Reads.passthrough hh hcut (Or.inr hd)).classify_eq]
  rfl

theorem isDirective_append {d : Text} (hd : d ∈ directives) (rest : Text) :
    isDirective (d++rest) = true := by
  rw [isDirective, List.any_eq_true]
  exact ⟨d, hd, List.isPrefixOf_iff_prefix.2 (List.prefix_append d rest)⟩

end Line

open Line

def dottedLine (source target : Text) : Text :=
  source ++ " " ++ Connector.dotted.token ++ " " ++ target

section

variable {source target : Text}

theorem dottedLine_eq : dottedLine source target =
    source ++ ' ' :: '-' :: '.' :: '-' :: '>' :: ' ' :: target := by
  simp [dottedLine, Connector.token]

theorem EdgeChange.line_eq (e : EdgeChange) : e.line =
    if e.status = .removed then e.source ++ " -.-> " ++ e.target else e.text := by
  cases h : e.status <;> simp [EdgeChange.line, h, Connector.token]

theorem isLine_dottedLine (hs : IsWord source) (ht : IsWord target) :
    IsLine (dottedLine source target) := by
  have hlast : ∀ x ∈ (dottedLine source target).getLast?, isSurround x = false := ht.last _
  rw [dottedLine_eq] at hlast ⊢
  obtain ⟨c, hc, hw⟩ := hs.exists_head (' ' :: '-' :: '.' :: '-' :: '>' :: ' ' :: target)
  refine isLine_of_head hc hw ?_ hlast
  have hsn : '\n' ∉ source := hs.not_mem (by decide)
  have htn : '\n' ∉ target := ht.not_mem (by decide)
  simp [hsn, htn]

/-- Between two words a dotted connector makes no other one. -/
theorem token_infix_dottedLine (hs : IsWord source) (ht : IsWord target) (c : Connector)
    (h : c.token <:+: dottedLine source target) : c = .dotted := by
  have hc : ' ' ∉ c.token := by cases c <;> decide
  rw [dottedLine_eq] at h
  rcases Text.infix_append_cons hc h with h | h
  · exact absurd h (hs.isPlain.2 c)
  · change c.token <:+: ['-', '.', '-', '>'] ++ ' ' :: target at h
    rcases Text.infix_append_cons hc h with h | h
    · revert h
      cases c <;> decide
    · exact absurd h (ht.isPlain.2 c)

theorem find?_dottedLine (hs : IsWord source) (ht : IsWord target) :
    Connector.find? (dottedLine source target) = some .dotted := by
  cases hf : Connector.find? (dottedLine source target) with
  | none =>
    have hd : Connector.dotted.token <:+: dottedLine source target :=
      ⟨source ++ " ", " " ++ target, by simp [dottedLine]⟩
    exact absurd hd ((Connector.find?_eq_none_iff _).1 hf .dotted)
  | some c =>
    have hc := Text.contains_iff_infix.1 (Connector.contains_of_find? hf)
    rw [token_infix_dottedLine hs ht c hc]

theorem isHeader_dottedLine (hs : IsWord source) : isHeader (dottedLine source target) = false := by
  apply Bool.eq_false_iff.2
  rw [dottedLine_eq, Ne, isHeader_append_word hs (by decide)]
  rintro ⟨-, hd⟩
  simp [isDirection, List.span_eq_takeWhile_dropWhile, show isBlank ' ' = true by decide,
    show isBlank '-' = false by decide] at hd

theorem cut?_dottedLine (hs : IsWord source) (ht : IsWord target) :
    Connector.cut? (dottedLine source target) = some (.dotted, source++[' '], ' '::target) := by
  have hne : Connector.dotted.token ≠ [] := by decide
  have htoken : Connector.dotted.token = ['-', '.', '-', '>'] := rfl
  have hfirst : ∀ x ∈ Connector.dotted.token.head?, x ∉ source++[' '] := by
    intro x hx
    rw [htoken] at hx
    cases hx
    have hd : '-' ∉ source := hs.not_mem (by decide)
    simp [hd]
  have hcut := Text.cut?_append (b := ' '::target) hne hfirst
  have hl : dottedLine source target = source++[' ']++Connector.dotted.token ++ ' ' :: target := by
    simp [dottedLine]
  rw [Connector.cut?, find?_dottedLine hs ht, Option.bind_some, hl, hcut]
  rfl

/-- A dotted line draws an edge between its two words. -/
theorem classify_dottedLine (hs : IsWord source) (ht : IsWord target) :
    classify (dottedLine source target) =
      .edge ⟨source, source⟩ ⟨target, target⟩ .dotted (dottedLine source target) := by
  have hleft : mention? (Text.trim (source++[' '])) = some ⟨source, source⟩ := by
    rw [Text.trim, Text.strip_append _ _ _ (by decide)]
    change mention? (Text.trim source) = _
    rw [hs.trim, hs.mention?]
  have hright : mention? (Text.trim (' '::target)) = some ⟨target, target⟩ := by
    rw [Text.trim, Text.strip_cons _ _ _ (by decide)]
    change mention? (Text.trim target) = _
    rw [ht.trim, ht.mention?]
  exact (Reads.edge (isHeader_dottedLine hs) (cut?_dottedLine hs ht) hleft hright).classify_eq

end

theorem not_mem_token {c : Char} (hc : c ∈ [' ', ':', ',']) (k : Connector) : c ∉ k.token := by
  simp only [List.mem_cons, List.not_mem_nil, or_false] at hc
  rcases hc with rfl | rfl | rfl <;> cases k <;> decide

theorem isWord_statusName (s : Status) : IsWord s.name := by
  cases s <;> decide +kernel

theorem isOther_classLine {id : Text} (hid : IsWord id) (s : Status) :
    IsOther (Comparison.classLine id s) := by
  have hclass : IsWord ['c', 'l', 'a', 's', 's'] := by decide
  have hl : Comparison.classLine id s =
      ['c', 'l', 'a', 's', 's'] ++ ' ' :: (id ++ ' ' :: s.name) := by
    unfold Comparison.classLine
    simp
  have hlast : ∀ x ∈ (Comparison.classLine id s).getLast?, isSurround x = false :=
    (isWord_statusName s).last _
  have hd : isDirective (Comparison.classLine id s) = true := by
    have h : isDirective ("class " ++ (id ++ ' ' :: s.name)) = true :=
      isDirective_append (by decide) _
    rw [hl]
    simpa using h
  have hsp := not_mem_token (c := ' ') (by decide)
  rw [hl] at hlast hd
  rw [hl]
  have hp : IsPlain (['c', 'l', 'a', 's', 's'] ++ ' ' :: (id ++ ' ' :: s.name)) :=
    hclass.isPlain.append_cons
      (hid.isPlain.append_cons (isWord_statusName s).isPlain (by decide) hsp) (by decide) hsp
  exact isOther_directive hclass (by decide) hp hd hlast

def styleLine (what fill stroke drawn : Text) : Text :=
  "classDef " ++ what ++ ":" ++ fill ++ ",stroke:" ++ stroke ++ "," ++ drawn

theorem isOther_styleLine {what fill stroke drawn : Text} (hw : IsPlain what)
    (hf : IsPlain fill) (hs : IsPlain stroke) (hd : IsPlain drawn)
    (hlast : ∀ x ∈ drawn.getLast?, isSurround x = false) (hne : drawn ≠ []) :
    IsOther (styleLine what fill stroke drawn) := by
  have hdef : IsWord ['c', 'l', 'a', 's', 's', 'D', 'e', 'f'] := by decide
  have hstroke : IsWord ['s', 't', 'r', 'o', 'k', 'e'] := by decide
  have hl : styleLine what fill stroke drawn =
      ['c', 'l', 'a', 's', 's', 'D', 'e', 'f'] ++ ' ' :: (what ++ ':' :: (fill ++ ',' ::
        (['s', 't', 'r', 'o', 'k', 'e'] ++ ':' :: (stroke ++ ',' :: drawn)))) := by
    unfold styleLine
    simp
  have hlast' : ∀ x ∈ (styleLine what fill stroke drawn).getLast?, isSurround x = false := by
    unfold styleLine
    rw [List.getLast?_append_of_ne_nil _ hne]
    exact hlast
  have hdir : isDirective (styleLine what fill stroke drawn) = true := by
    have h : isDirective ("classDef" ++ ' ' :: (what ++ ':' :: (fill ++ ',' ::
        (['s', 't', 'r', 'o', 'k', 'e'] ++ ':' :: (stroke ++ ',' :: drawn))))) = true :=
      isDirective_append (by decide) _
    rw [hl]
    simpa using h
  have hsp := not_mem_token (c := ' ') (by decide)
  have hcolon := not_mem_token (c := ':') (by decide)
  have hcomma := not_mem_token (c := ',') (by decide)
  rw [hl] at hlast' hdir
  rw [hl]
  have hp : IsPlain (['c', 'l', 'a', 's', 's', 'D', 'e', 'f'] ++ ' ' :: (what ++ ':' :: (fill ++
      ',' :: (['s', 't', 'r', 'o', 'k', 'e'] ++ ':' :: (stroke ++ ',' :: drawn))))) := by
    refine hdef.isPlain.append_cons ?_ (by decide) hsp
    refine hw.append_cons ?_ (by decide) hcolon
    refine hf.append_cons ?_ (by decide) hcomma
    exact hstroke.isPlain.append_cons (hs.append_cons hd (by decide) hcomma) (by decide) hcolon
  exact isOther_directive hdef (by decide) hp hdir hlast'

def Palette.IsPlain (p : Palette) : Prop := ∀ f : ColorField, Line.IsPlain (p.get f)

theorem Palette.isPlain_default : ({} : Palette).IsPlain := by
  intro f
  cases f <;> decide +kernel

theorem Palette.styleLines_eq (p : Palette) : p.styleLines =
    [styleLine "added fill" p.addedFill p.addedStroke "stroke-width:2px;",
     styleLine "removed fill" p.removedFill p.removedStroke
       "stroke-width:2px,stroke-dasharray: 5 5;",
     styleLine "unchanged fill" "#f6f8fa" "#d0d7de" "stroke-width:1px;"] := by
  unfold styleLines styleLine
  simp

theorem Palette.IsPlain.isOther {p : Palette} (hp : p.IsPlain) :
    ∀ l ∈ p.styleLines, IsOther l := by
  rw [styleLines_eq]
  simp only [List.forall_mem_cons, List.not_mem_nil, false_implies, implies_true, and_true]
  refine ⟨?_, ?_, ?_⟩
  · exact isOther_styleLine (by decide +kernel) (hp .addedFill) (hp .addedStroke)
      (by decide +kernel) (by simp [isSurround, isBlank]) (by decide)
  · exact isOther_styleLine (by decide +kernel) (hp .removedFill) (hp .removedStroke)
      (by decide +kernel) (by simp [isSurround, isBlank]) (by decide)
  · exact isOther_styleLine (by decide +kernel) (by decide +kernel) (by decide +kernel)
      (by decide +kernel) (by simp [isSurround, isBlank]) (by decide)

end FlowchartMerge
