import Mathlib.Data.List.TakeDrop
import FlowchartMerge.Proofs.Diagram.Contribution
import FlowchartMerge.Proofs.Diagram.Word
import FlowchartMerge.Proofs.Text.Pattern

/-!
# How a line reads

The rules by which one line is read, as a relation that the reader decides, and what
follows from them for any line at all: what a line says quotes the line itself, and
every node that it mentions is either declared by the whole line or an end of the
edge that the line draws.
-/

set_option autoImplicit false

namespace FlowchartMerge

theorem Connector.find?_eq_none_iff (l : Text) :
    find? l = none ↔ ∀ c : Connector, ¬c.token <:+: l := by
  rw [find?, List.find?_eq_none]
  constructor
  · intro h c hc
    exact h c (mem_all c) (Text.contains_iff_infix.2 hc)
  · intro h c _ hc
    exact h c (Text.contains_iff_infix.1 hc)

namespace Line

theorem isDirection_head {t : Text} (h : isDirection t = true) :
    ∃ c ∈ t.head?, isBlank c = true := by
  unfold isDirection at h
  cases t with
  | nil => exact absurd h (by decide)
  | cons c t =>
    refine ⟨c, rfl, ?_⟩
    by_contra hc
    rw [List.span_eq_takeWhile_dropWhile, List.takeWhile_cons_of_neg hc] at h
    exact absurd h (by simp)

theorem isWordChar_of_mem_headerKeywords {k : Text} (hk : k ∈ headerKeywords) :
    ∀ c ∈ k, isWordChar c = true := by
  have h : (headerKeywords.all fun k => k.all isWordChar) = true := by decide
  exact List.all_eq_true.1 (List.all_eq_true.1 h k hk)

/-- A header is a keyword as a whole word with a direction after it. -/
theorem isHeader_iff (l : Text) :
    isHeader l = true ↔
      l.takeWhile isWordChar ∈ headerKeywords ∧ isDirection (l.dropWhile isWordChar) = true := by
  unfold isHeader
  rw [List.any_eq_true]
  constructor
  · rintro ⟨k, hk, hd⟩
    cases hr : Text.after? k l with
    | none =>
      rw [hr] at hd
      exact absurd hd (by decide)
    | some rest =>
      rw [hr] at hd
      change isDirection rest = true at hd
      obtain ⟨b, hb, hbb⟩ := isDirection_head hd
      have hw := isWordChar_of_mem_headerKeywords hk
      have hrest : ∀ c ∈ rest.head?, isWordChar c = false := by
        intro c hc
        have hcb : c = b := Option.mem_unique hc hb
        subst hcb
        apply Bool.eq_false_iff.2
        intro hword
        rw [isBlank_of_isWordChar hword] at hbb
        exact Bool.noConfusion hbb
      rw [Text.after?_eq_some_iff.1 hr, Text.takeWhile_append_of_stop hw hrest,
        Text.dropWhile_append_of_stop hw hrest]
      exact ⟨hk, hd⟩
  · rintro ⟨hk, hd⟩
    refine ⟨_, hk, ?_⟩
    have hl : l = l.takeWhile isWordChar++l.dropWhile isWordChar :=
      List.takeWhile_append_dropWhile.symm
    rw [Text.after?_eq_some_iff.2 hl]
    exact hd

inductive Reads (l : Text) : Line → Prop
  | header (h : isHeader l = true) : Reads l (.header l)
  | edge {s t : Node} {c : Connector} {left right : Text} (h : isHeader l = false)
      (hc : Connector.cut? l = some (c, left, right)) (hs : mention? (Text.trim left) = some s)
      (ht : mention? (Text.trim right) = some t) : Reads l (.edge s t c l)
  | dangling {c : Connector} {left right : Text} (h : isHeader l = false)
      (hc : Connector.cut? l = some (c, left, right))
      (hm : mention? (Text.trim left) = none ∨ mention? (Text.trim right) = none) :
      Reads l (.dangling l)
  | node {n : Node} (h : isHeader l = false) (hc : Connector.cut? l = none)
      (hm : mention? l = some n) (hd : isDirective l = false) : Reads l (.node n)
  | passthrough (h : isHeader l = false) (hc : Connector.cut? l = none)
      (hm : mention? l = none ∨ isDirective l = true) : Reads l (.passthrough l)

theorem reads_classify (l : Text) : Reads l (classify l) := by
  unfold classify
  split
  · exact .header ‹_›
  · rename_i h
    have hh := Bool.eq_false_iff.2 h
    split
    · rename_i c left right hc
      unfold ofCut
      split
      · exact .edge hh hc ‹_› ‹_›
      · rename_i hm
        refine .dangling hh hc ?_
        cases hs : mention? (Text.trim left) with
        | none => exact Or.inl rfl
        | some s =>
          cases ht : mention? (Text.trim right) with
          | none => exact Or.inr rfl
          | some t => exact absurd ht (hm s t hs)
    · rename_i hc
      unfold ofPlain
      split
      · rename_i n hm
        by_cases hd : isDirective l = true
        · rw [if_pos hd]
          exact .passthrough hh hc (Or.inr hd)
        · rw [if_neg hd]
          exact .node hh hc hm (Bool.eq_false_iff.2 hd)
      · exact .passthrough hh hc (Or.inl ‹_›)

/-- The rules leave one reading. -/
theorem Reads.classify_eq {l : Text} {x : Line} (h : Reads l x) : classify l = x := by
  unfold classify
  cases h with
  | header h => rw [if_pos h]
  | edge h hc hs ht => simp [h, hc, ofCut, hs, ht]
  | dangling h hc hm =>
    rcases hm with hm | hm
    · simp [h, hc, ofCut, hm]
    · simp [h, hc, ofCut, hm]
  | node h hc hm hd => simp [h, hc, ofPlain, hm, hd]
  | passthrough h hc hm =>
    rw [if_neg (Bool.eq_false_iff.1 h), hc]
    change ofPlain l = _
    unfold ofPlain
    rcases hm with hm | hm
    · rw [hm]
    · split
      · rw [if_pos hm]
      · rfl

def IsOther (l : Text) : Prop := IsLine l ∧ (classify l).other? = some l

theorem trim_isInfix (t : Text) : Text.trim t <:+: t := Text.strip_isInfix isBlank t

theorem infix_of_cut? {l left right : Text} {c : Connector}
    (h : Connector.cut? l = some (c, left, right)) : left <:+: l ∧ right <:+: l := by
  obtain ⟨k, -, hk⟩ := Option.bind_eq_some_iff.1 h
  obtain ⟨p, hp, he⟩ := Option.map_eq_some_iff.1 hk
  cases he
  have hl := Text.eq_of_cut?_eq_some hp
  constructor
  · exact ⟨[], c.token++right, by rw [hl]; simp⟩
  · exact ⟨left++c.token, [], by rw [hl]; simp⟩

theorem eq_of_header? {l h : Text} (hh : (classify l).header? = some h) :
    h = l ∧ isHeader l = true := by
  have hr := reads_classify l
  generalize classify l = x at hh hr
  cases hr <;> cases hh
  exact ⟨rfl, ‹_›⟩

theorem eq_of_other? {l m : Text} (hm : (classify l).other? = some m) : m = l := by
  have hr := reads_classify l
  generalize classify l = x at hm hr
  cases hr <;> cases hm <;> rfl

/-- The edge that a line draws carries the line, and words as its ends. -/
theorem eq_of_edge? {l : Text} {e : Edge} (he : (classify l).edge? = some e) :
    e = .between e.source e.target e.connector l ∧ Connector.find? l = some e.connector ∧
      IsWord e.source ∧ IsWord e.target := by
  have hr := reads_classify l
  generalize classify l = x at he hr
  cases hr <;> cases he
  rename_i s t c left right h hc hs ht
  refine ⟨rfl, ?_, isWord_of_mention? hs, isWord_of_mention? ht⟩
  obtain ⟨k, hk, hp⟩ := Option.bind_eq_some_iff.1 hc
  obtain ⟨p, -, he⟩ := Option.map_eq_some_iff.1 hp
  cases he
  exact hk

/-- A node that a line mentions is declared by the whole line or is an end of its edge. -/
theorem mention_cases {l : Text} {n : Node} (hn : n ∈ (classify l).mentions) :
    classify l = .node n ∨
      ∃ e, (classify l).edge? = some e ∧ (n.id = e.source ∨ n.id = e.target) := by
  cases hl : classify l with
  | edge s t c m =>
    rw [hl] at hn
    refine Or.inr ⟨_, rfl, ?_⟩
    rcases List.mem_cons.1 hn with rfl | hn
    · exact Or.inl rfl
    · exact Or.inr (congrArg Node.id (List.mem_singleton.1 hn))
  | node m =>
    rw [hl] at hn
    exact Or.inl (congrArg Line.node (List.mem_singleton.1 hn).symm)
  | header m => simp [hl, mentions] at hn
  | dangling m => simp [hl, mentions] at hn
  | passthrough m => simp [hl, mentions] at hn

/-- The text of a node starts with the node's name, and is the line or a trimmed piece of it. -/
theorem quote_of_mem_mentions {l : Text} {n : Node} (hn : n ∈ (classify l).mentions) :
    mention? n.text = some n ∧ (n.text = l ∨ ∃ piece, piece <:+: l ∧ n.text = Text.trim piece) := by
  have hr := reads_classify l
  generalize classify l = x at hn hr
  have htext : ∀ {t : Text} {m : Node}, mention? t = some m →
      mention? m.text = some m ∧ m.text = t := by
    intro t m hm
    have ht := ((mention?_eq_some_iff t m).1 hm).1
    rw [ht]
    exact ⟨hm, rfl⟩
  cases hr with
  | edge h hc hs ht =>
    obtain ⟨hl, hr⟩ := infix_of_cut? hc
    rcases List.mem_cons.1 hn with rfl | hn
    · exact ⟨(htext hs).1, Or.inr ⟨_, hl, (htext hs).2⟩⟩
    · rw [List.mem_singleton.1 hn]
      exact ⟨(htext ht).1, Or.inr ⟨_, hr, (htext ht).2⟩⟩
  | node h hc hm hd =>
    rw [List.mem_singleton.1 hn]
    exact ⟨(htext hm).1, Or.inl (htext hm).2⟩
  | header h => exact absurd hn List.not_mem_nil
  | dangling h hc hm => exact absurd hn List.not_mem_nil
  | passthrough h hc hm => exact absurd hn List.not_mem_nil

theorem mention?_of_mem_mentions {l : Text} {n : Node} (hn : n ∈ (classify l).mentions) :
    mention? n.text = some n ∧ n.text <:+: l := by
  obtain ⟨hm, hl | ⟨piece, hpiece, htrim⟩⟩ := quote_of_mem_mentions hn
  · exact ⟨hm, hl ▸ List.infix_rfl⟩
  · exact ⟨hm, htrim ▸ (trim_isInfix piece).trans hpiece⟩

end Line

end FlowchartMerge
