import Mathlib.Data.List.TakeWhile
import FlowchartMerge.Proofs.Text.Lines

/-!
# Words

Nodes are named by words. A word holds neither blanks nor the characters of a
connector, so it ends where a text stops being one, and the identity of an edge tells
both of its ends. A text that starts with a word is never empty or a comment, and
stripping it leaves its start alone.
-/

set_option autoImplicit false

namespace FlowchartMerge.Line

structure IsWord (w : Text) : Prop where
  ne_nil : w ≠ []
  all : ∀ c ∈ w, isWordChar c = true

instance (w : Text) : Decidable (IsWord w) :=
  decidable_of_iff (w ≠ [] ∧ w.all isWordChar = true)
    ⟨fun h => ⟨h.1, List.all_eq_true.1 h.2⟩, fun h => ⟨h.ne_nil, List.all_eq_true.2 h.all⟩⟩

theorem toNat_of_isWordChar {c : Char} (h : isWordChar c = true) :
    65 ≤ c.toNat ∧ c.toNat ≤ 122 ∨ 48 ≤ c.toNat ∧ c.toNat ≤ 57 := by
  change (((decide ('A'.val ≤ c.val ∧ c.val ≤ 'Z'.val) || ('a'.val ≤ c.val && c.val ≤ 'z'.val)) ||
    ('0'.val ≤ c.val && c.val ≤ '9'.val)) || c == '_') = true at h
  simp only [Bool.or_eq_true, Bool.and_eq_true, decide_eq_true_eq, beq_iff_eq,
    UInt32.le_iff_toNat_le] at h
  change (((65 ≤ c.toNat ∧ c.toNat ≤ 90) ∨ (97 ≤ c.toNat ∧ c.toNat ≤ 122)) ∨
    (48 ≤ c.toNat ∧ c.toNat ≤ 57)) ∨ c = '_' at h
  rcases h with ((h | h) | h) | h
  · omega
  · omega
  · omega
  · subst h
    decide

theorem isBlank_of_isWordChar {c : Char} (h : isWordChar c = true) : isBlank c = false := by
  have hc := toNat_of_isWordChar h
  apply Bool.eq_false_iff.2
  intro hb
  simp only [isBlank, Bool.or_eq_true, Bool.and_eq_true, decide_eq_true_eq, beq_iff_eq] at hb
  omega

theorem isSurround_of_isWordChar {c : Char} (h : isWordChar c = true) : isSurround c = false := by
  have hm : c ≠ '\uFEFF' := by
    rintro rfl
    exact absurd h (by decide)
  rw [isSurround, isBlank_of_isWordChar h, Bool.false_or]
  exact beq_eq_false_iff_ne.2 hm

theorem takeWhile_append_of_head {a b : Text} (hb : ∀ c ∈ b.head?, isWordChar c = false) :
    (a++b).takeWhile isWordChar = a.takeWhile isWordChar := by
  induction a with
  | nil =>
    cases b with
    | nil => rfl
    | cons c b => simp [hb c rfl]
  | cons x a ih => rw [List.cons_append, List.takeWhile_cons, List.takeWhile_cons, ih]

theorem word?_eq_some_iff (t w : Text) :
    word? t = some w ↔ w ≠ [] ∧ t.takeWhile isWordChar = w := by
  unfold word?
  by_cases h : t.takeWhile isWordChar = []
  · simp only [h, List.isEmpty_nil, if_true, reduceCtorEq, false_iff, not_and]
    intro hw he
    exact hw he.symm
  · simp only [List.isEmpty_iff, h, if_false, Option.some.injEq]
    constructor
    · rintro rfl
      exact ⟨h, rfl⟩
    · exact And.right

theorem isWord_of_word? {t w : Text} (h : word? t = some w) : IsWord w := by
  obtain ⟨hne, rfl⟩ := (word?_eq_some_iff t w).1 h
  refine ⟨hne, fun c hc => ?_⟩
  exact List.mem_takeWhile_imp hc

theorem IsWord.word?_append {w rest : Text} (hw : IsWord w)
    (hr : ∀ c ∈ rest.head?, isWordChar c = false) : word? (w++rest) = some w :=
  (word?_eq_some_iff _ _).2 ⟨hw.ne_nil, Text.takeWhile_append_of_stop hw.all hr⟩

theorem IsWord.mention? {w : Text} (hw : IsWord w) : mention? w = some ⟨w, w⟩ := by
  have h : word? (w++[]) = some w := hw.word?_append (by simp)
  rw [List.append_nil] at h
  rw [Line.mention?, h]
  rfl

theorem mention?_eq_some_iff (t : Text) (n : Node) :
    mention? t = some n ↔ n.text = t ∧ word? t = some n.id := by
  obtain ⟨id, text⟩ := n
  simp only [Line.mention?, Option.map_eq_some_iff, Node.mk.injEq]
  constructor
  · rintro ⟨w, hw, rfl, rfl⟩
    exact ⟨rfl, hw⟩
  · rintro ⟨rfl, hw⟩
    exact ⟨id, hw, rfl, rfl⟩

theorem isWord_of_mention? {t : Text} {n : Node} (h : mention? t = some n) : IsWord n.id :=
  isWord_of_word? ((mention?_eq_some_iff t n).1 h).2

/-- A text that mentions a node starts with a word character. -/
theorem head_of_mention? {t : Text} {n : Node} (h : mention? t = some n) :
    ∃ c ∈ t.head?, isWordChar c = true := by
  obtain ⟨-, hw⟩ := (mention?_eq_some_iff t n).1 h
  obtain ⟨hne, hid⟩ := (word?_eq_some_iff t n.id).1 hw
  cases t with
  | nil => exact absurd hid.symm hne
  | cons c t =>
    refine ⟨c, rfl, ?_⟩
    by_contra hc
    rw [List.takeWhile_cons_of_neg hc] at hid
    exact hne hid.symm

theorem IsWord.not_mem {w : Text} (hw : IsWord w) {c : Char} (hc : isWordChar c = false) :
    c ∉ w := by
  intro hm
  rw [hw.all c hm] at hc
  exact Bool.noConfusion hc

theorem isSignificant_of_head {l : Text} {c : Char} (hc : c ∈ l.head?)
    (hw : isWordChar c = true) : isSignificant l = true := by
  cases l with
  | nil => cases hc
  | cons x l =>
    cases hc
    have hx : ('%' == c) = false := by
      apply beq_eq_false_iff_ne.2
      rintro rfl
      exact absurd hw (by decide)
    simp [isSignificant, isComment, Text.startsWith, List.isPrefixOf, hx]

theorem isLine_of_head {l : Text} {c : Char} (hc : c ∈ l.head?) (hw : isWordChar c = true)
    (hlf : '\n' ∉ l) (hl : ∀ x ∈ l.getLast?, isSurround x = false) : IsLine l := by
  refine (isLine_iff l).2 ⟨hlf, (Text.strip_eq_self_iff _ _).2 ⟨?_, hl⟩, isSignificant_of_head hc hw⟩
  intro x hx
  rw [Option.mem_unique hx hc]
  exact isSurround_of_isWordChar hw

theorem IsWord.exists_head {w : Text} (hw : IsWord w) (rest : Text) :
    ∃ c ∈ (w++rest).head?, isWordChar c = true := by
  cases w with
  | nil => exact absurd rfl hw.ne_nil
  | cons c w => exact ⟨c, rfl, hw.all c List.mem_cons_self⟩

theorem IsWord.last {w : Text} (hw : IsWord w) (a : Text) :
    ∀ x ∈ (a++w).getLast?, isSurround x = false := by
  intro x hx
  rw [List.getLast?_append_of_ne_nil _ hw.ne_nil] at hx
  exact isSurround_of_isWordChar (hw.all x (List.mem_of_getLast? hx))

theorem IsWord.trim {w : Text} (hw : IsWord w) : Text.trim w = w := by
  refine (Text.strip_eq_self_iff _ _).2 ⟨fun c hc => ?_, fun c hc => ?_⟩
  · exact isBlank_of_isWordChar (hw.all c (List.mem_of_head? hc))
  · exact isBlank_of_isWordChar (hw.all c (List.mem_of_getLast? hc))

theorem head_bare {t : Text} {c : Char} (hc : c ∈ t.head?) (hs : isSurround c = false) :
    c ∈ (bare t).head? := by
  cases t with
  | nil => cases hc
  | cons x t =>
    cases hc
    have hb : bare (c::t) = (c::t).rdropWhile isSurround := by
      rw [bare, Text.strip, List.dropWhile_cons_of_neg (by simp [hs])]
      rfl
    have hne : bare (c::t) ≠ [] := by
      rw [hb, Ne, List.rdropWhile_eq_nil_iff]
      intro h
      rw [h c List.mem_cons_self] at hs
      exact Bool.noConfusion hs
    have hp : bare (c::t) <+: c::t := hb ▸ List.rdropWhile_prefix isSurround (c::t)
    obtain ⟨y, ys, hy⟩ := List.exists_cons_of_ne_nil hne
    rw [hy] at hp ⊢
    rw [(List.cons_prefix_cons.1 hp).1]
    rfl

/-- A text that mentions a node first reads as one line. -/
theorem significant_of_mention? {t : Text} {n : Node} (hm : mention? t = some n) (hlf : '\n' ∉ t) :
    significant t = [bare t] := by
  obtain ⟨c, hc, hw⟩ := head_of_mention? hm
  have hs := isSignificant_of_head (head_bare hc (isSurround_of_isWordChar hw)) hw
  rw [significant_of_not_mem t hlf, List.filter_singleton, hs]
  rfl

end Line

open Line

theorem Edge.key_eq (source target : Text) : key source target = source ++ '-' :: '>' :: target := by
  simp [key]

/-- The identity of an edge between words tells both of its ends. -/
theorem Edge.key_injective {a b c d : Text} (ha : IsWord a) (hc : IsWord c)
    (h : Edge.key a b = Edge.key c d) : a = c ∧ b = d := by
  rw [key_eq, key_eq] at h
  have hdash : ∀ t : Text, ∀ x ∈ ('-' :: '>' :: t).head?, isWordChar x = false := by
    intro t x hx
    cases hx
    decide
  have hac := congrArg (List.takeWhile isWordChar) h
  rw [Text.takeWhile_append_of_stop ha.all (hdash b), Text.takeWhile_append_of_stop hc.all (hdash d)] at hac
  subst hac
  exact ⟨rfl, by simpa using List.append_cancel_left h⟩

end FlowchartMerge
