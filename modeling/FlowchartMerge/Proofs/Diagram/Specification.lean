import Mathlib.Data.List.Forall2
import FlowchartMerge.Proofs.Diagram.Sound

/-!
# What a text describes

The rules by which a text describes a diagram, stated without the reader: which lines
count, what one line means, and what many lines say together. The last header counts,
a node keeps the text of its first mention, an edge its last line, and both stand
where they came first. A text describes exactly the diagram that is read.
-/

set_option autoImplicit false

namespace FlowchartMerge

namespace Line

def Counted (t : Text) (ls : List Text) : Prop :=
  ∃ whole stripped : List Text, Text.BreaksInto t whole ∧
    List.Forall₂ (Text.Stripped isSurround) whole stripped ∧
    ls = stripped.filter fun l => decide (l ≠ [] ∧ ¬("%%" : Text) <+: l)

def StartsAsHeader (l : Text) : Prop :=
  ∃ k ∈ (["graph", "flowchart"] : List Text), ∃ (gap : Text) (c : Char) (rest : Text),
    l = k++gap++c::rest ∧ gap ≠ [] ∧ (∀ x ∈ gap, isBlank x = true) ∧ c.isUpper = true

def StartsWithWord (t w : Text) : Prop :=
  IsWord w ∧ ∃ rest, t = w++rest ∧ ∀ c ∈ rest.head?, isWordChar c = false

def JoinedBy (l : Text) (c : Connector) (left right : Text) : Prop :=
  (∃ stronger weaker, [.arrow, .line, .dotted, .thick] = stronger++c::weaker ∧
    ∀ k ∈ stronger, ¬Connector.token k <:+: l) ∧ Text.CutAt c.token l left right

def StartsAsDirective (l : Text) : Prop :=
  ∃ d ∈ (["classDef", "class ", "style "] : List Text), d <+: l

inductive Means (l : Text) : Line → Prop
  | header (h : StartsAsHeader l) : Means l (.header l)
  | edge {c : Connector} {left right a b source target : Text} (h : ¬StartsAsHeader l)
      (hc : JoinedBy l c left right) (ha : Text.Stripped isBlank left a)
      (hb : Text.Stripped isBlank right b) (hs : StartsWithWord a source)
      (ht : StartsWithWord b target) : Means l (.edge ⟨source, a⟩ ⟨target, b⟩ c l)
  | dangling {c : Connector} {left right a b : Text} (h : ¬StartsAsHeader l)
      (hc : JoinedBy l c left right) (ha : Text.Stripped isBlank left a)
      (hb : Text.Stripped isBlank right b)
      (hm : (∀ w, ¬StartsWithWord a w) ∨ ∀ w, ¬StartsWithWord b w) : Means l (.dangling l)
  | node {w : Text} (h : ¬StartsAsHeader l) (hc : ∀ c : Connector, ¬c.token <:+: l)
      (hw : StartsWithWord l w) (hd : ¬StartsAsDirective l) : Means l (.node ⟨w, l⟩)
  | passthrough (h : ¬StartsAsHeader l) (hc : ∀ c : Connector, ¬c.token <:+: l)
      (hm : (∀ w, ¬StartsWithWord l w) ∨ StartsAsDirective l) : Means l (.passthrough l)

theorem isSignificant_eq (l : Text) :
    isSignificant l = decide (l ≠ [] ∧ ¬("%%" : Text) <+: l) := by
  rw [isSignificant, isComment, Text.startsWith, Bool.eq_iff_iff, decide_eq_true_iff,
    Bool.and_eq_true, Bool.not_eq_true', Bool.not_eq_true', List.isEmpty_eq_false_iff,
    ← Bool.not_eq_true, List.isPrefixOf_iff_prefix]

theorem counted_iff (t : Text) (ls : List Text) : Counted t ls ↔ significant t = ls := by
  have hstripped : ∀ ps qs : List Text,
      List.Forall₂ (Text.Stripped isSurround) ps qs ↔ ps.map bare = qs := by
    intro ps qs
    rw [← List.forall₂_eq_eq_eq, List.forall₂_map_left_iff]
    exact ⟨fun h => h.imp fun p q => (Text.stripped_iff _ p q).1,
      fun h => h.imp fun p q => (Text.stripped_iff _ p q).2⟩
  unfold Counted significant
  constructor
  · rintro ⟨ps, qs, hps, hqs, rfl⟩
    rw [(Text.breaksInto_iff t ps).1 hps, (hstripped _ _).1 hqs]
    exact List.filter_congr fun l _ => isSignificant_eq l
  · rintro rfl
    exact ⟨_, _, (Text.breaksInto_iff t _).2 rfl, (hstripped _ _).2 rfl,
      List.filter_congr fun l _ => isSignificant_eq l⟩

theorem isBlank_of_isUpper {c : Char} (h : c.isUpper = true) : isBlank c = false := by
  apply isBlank_of_isWordChar
  change (((c.isUpper || c.isLower) || c.isDigit) || c == '_') = true
  rw [h, Bool.true_or, Bool.true_or, Bool.true_or]

theorem isDirection_iff (t : Text) : isDirection t = true ↔
    ∃ (gap : Text) (c : Char) (rest : Text), t = gap++c::rest ∧ gap ≠ [] ∧
      (∀ x ∈ gap, isBlank x = true) ∧ c.isUpper = true := by
  unfold isDirection
  rw [List.span_eq_takeWhile_dropWhile]
  constructor
  · intro h
    split at h
    · rename_i b gap c rest hspan
      obtain ⟨hgap, hrest⟩ := Prod.mk.inj hspan
      refine ⟨b::gap, c, rest, ?_, List.cons_ne_nil b gap, ?_, h⟩
      · rw [← hgap, ← hrest, List.takeWhile_append_dropWhile]
      · rw [← hgap]
        exact fun x hx => List.mem_takeWhile_imp hx
    · exact absurd h (by decide)
  · rintro ⟨gap, c, rest, rfl, hne, hgap, hc⟩
    have hstop : ¬isBlank c = true := Bool.eq_false_iff.1 (isBlank_of_isUpper hc)
    obtain ⟨b, bs, rfl⟩ := List.exists_cons_of_ne_nil hne
    rw [List.takeWhile_append_of_pos hgap, List.dropWhile_append_of_pos hgap,
      List.takeWhile_cons_of_neg hstop, List.dropWhile_cons_of_neg hstop, List.append_nil]
    exact hc

theorem startsAsHeader_iff (l : Text) : StartsAsHeader l ↔ isHeader l = true := by
  unfold isHeader
  rw [List.any_eq_true]
  refine exists_congr fun k => and_congr_right fun _ => ?_
  constructor
  · rintro ⟨gap, c, rest, hl, hgap⟩
    rw [List.append_assoc] at hl
    rw [Text.after?_eq_some_iff.2 hl]
    exact (isDirection_iff _).2 ⟨gap, c, rest, rfl, hgap⟩
  · intro h
    cases hr : Text.after? k l with
    | none =>
      rw [hr] at h
      exact absurd h (by decide)
    | some tail =>
      rw [hr] at h
      obtain ⟨gap, c, rest, rfl, hgap⟩ := (isDirection_iff tail).1 h
      refine ⟨gap, c, rest, ?_, hgap⟩
      rw [List.append_assoc]
      exact Text.after?_eq_some_iff.1 hr

theorem startsWithWord_iff (t w : Text) : StartsWithWord t w ↔ word? t = some w := by
  constructor
  · rintro ⟨hw, rest, rfl, hrest⟩
    exact hw.word?_append hrest
  · intro h
    obtain ⟨-, htake⟩ := (word?_eq_some_iff t w).1 h
    refine ⟨isWord_of_word? h, t.dropWhile isWordChar, ?_, fun c hc => ?_⟩
    · rw [← htake, List.takeWhile_append_dropWhile]
    · have hnot := List.head?_dropWhile_not isWordChar t
      rw [Option.mem_def.1 hc] at hnot
      simpa using hnot

theorem startsWithWord_mention (t w : Text) :
    StartsWithWord t w ↔ mention? t = some ⟨w, t⟩ := by
  rw [startsWithWord_iff, mention?_eq_some_iff]
  exact ⟨fun h => ⟨rfl, h⟩, And.right⟩

theorem not_startsWithWord_iff (t : Text) :
    (∀ w, ¬StartsWithWord t w) ↔ mention? t = none := by
  simp only [startsWithWord_iff, Line.mention?, Option.map_eq_none_iff]
  exact Option.eq_none_iff_forall_ne_some.symm

theorem joinedBy_iff (l : Text) (c : Connector) (left right : Text) :
    JoinedBy l c left right ↔ Connector.cut? l = some (c, left, right) := by
  have hfind : Connector.find? l = some c ↔ Text.contains l c.token = true ∧
      ∃ stronger weaker, [.arrow, .line, .dotted, .thick] = stronger++c::weaker ∧
        ∀ k ∈ stronger, ¬Connector.token k <:+: l := by
    rw [Connector.find?, List.find?_eq_some_iff_append]
    simp only [Bool.not_eq_true', ← Bool.not_eq_true, Text.contains_iff_infix]
    rfl
  unfold JoinedBy
  constructor
  · rintro ⟨hstrong, hcut⟩
    have hc : Text.contains l c.token = true := Text.contains_iff_infix.2 ⟨left, right, hcut.eq.symm⟩
    rw [Connector.cut?, hfind.2 ⟨hc, hstrong⟩, Option.bind_some, Text.cut?_eq_some_iff.2 hcut]
    rfl
  · intro h
    obtain ⟨k, hk, hp⟩ := Option.bind_eq_some_iff.1 h
    obtain ⟨p, hcut, he⟩ := Option.map_eq_some_iff.1 hp
    cases he
    exact ⟨(hfind.1 hk).2, Text.cut?_eq_some_iff.1 hcut⟩

theorem startsAsDirective_iff (l : Text) : StartsAsDirective l ↔ isDirective l = true := by
  rw [isDirective, List.any_eq_true]
  simp only [Text.startsWith, List.isPrefixOf_iff_prefix]
  rfl

/-- The rules for a line leave the reading that the reader finds. -/
theorem means_iff (l : Text) (x : Line) : Means l x ↔ classify l = x := by
  have hhead : ¬StartsAsHeader l ↔ isHeader l = false := by
    rw [startsAsHeader_iff, Bool.not_eq_true]
  have hplain : (∀ c : Connector, ¬c.token <:+: l) ↔ Connector.cut? l = none := by
    rw [Connector.cut?_eq_none_iff, Connector.find?_eq_none_iff]
  constructor
  · intro h
    apply Reads.classify_eq
    cases h with
    | header h => exact .header ((startsAsHeader_iff l).1 h)
    | edge h hc ha hb hs ht =>
      -- the rule says what the stripped parts are, the reader strips the parts itself
      rw [← (Text.stripped_iff _ _ _).1 ha] at hs ⊢
      rw [← (Text.stripped_iff _ _ _).1 hb] at ht ⊢
      exact .edge (hhead.1 h) ((joinedBy_iff _ _ _ _).1 hc) ((startsWithWord_mention _ _).1 hs)
        ((startsWithWord_mention _ _).1 ht)
    | dangling h hc ha hb hm =>
      rw [← (Text.stripped_iff _ _ _).1 ha, ← (Text.stripped_iff _ _ _).1 hb] at hm
      exact .dangling (hhead.1 h) ((joinedBy_iff _ _ _ _).1 hc)
        (hm.imp (not_startsWithWord_iff _).1 (not_startsWithWord_iff _).1)
    | node h hc hw hd =>
      rw [startsAsDirective_iff, Bool.not_eq_true] at hd
      exact .node (hhead.1 h) (hplain.1 hc) ((startsWithWord_mention _ _).1 hw) hd
    | passthrough h hc hm =>
      rw [not_startsWithWord_iff, startsAsDirective_iff] at hm
      exact .passthrough (hhead.1 h) (hplain.1 hc) hm
  · intro hx
    have hr : Reads l x := hx ▸ reads_classify l
    cases hr with
    | header h => exact .header ((startsAsHeader_iff l).2 h)
    | @edge s t c left right h hc hs ht =>
      obtain ⟨source, a⟩ := s
      obtain ⟨target, b⟩ := t
      obtain ⟨rfl, hsw⟩ := (mention?_eq_some_iff _ _).1 hs
      obtain ⟨rfl, htw⟩ := (mention?_eq_some_iff _ _).1 ht
      exact .edge (hhead.2 h) ((joinedBy_iff _ _ _ _).2 hc) (Text.stripped_strip _ _)
        (Text.stripped_strip _ _) ((startsWithWord_iff _ _).2 hsw) ((startsWithWord_iff _ _).2 htw)
    | dangling h hc hm =>
      exact .dangling (hhead.2 h) ((joinedBy_iff _ _ _ _).2 hc) (Text.stripped_strip _ _)
        (Text.stripped_strip _ _) (hm.imp (not_startsWithWord_iff _).2 (not_startsWithWord_iff _).2)
    | @node n h hc hm hd =>
      obtain ⟨w, m⟩ := n
      obtain ⟨rfl, hw⟩ := (mention?_eq_some_iff _ _).1 hm
      rw [← Bool.not_eq_true, ← startsAsDirective_iff] at hd
      exact .node (hhead.2 h) (hplain.2 hc) ((startsWithWord_iff _ _).2 hw) hd
    | passthrough h hc hm =>
      rw [← not_startsWithWord_iff, ← startsAsDirective_iff] at hm
      exact .passthrough (hhead.2 h) (hplain.2 hc) hm

end Line

namespace Diagram

open Line

structure Collects (xs : List Line) (d : Diagram) : Prop where
  header : d.header = (xs.filterMap header?).getLast?
  node_keys : d.nodes.Keyed Node.id
  node_order : d.nodes.values.map Node.id = ((xs.flatMap mentions).map Node.id).eraseDups
  node_first : ∀ n ∈ d.nodes.values, Table.FirstWith Node.id (xs.flatMap mentions) n
  edge_keys : d.edges.Keyed Edge.id
  edge_order : d.edges.values.map Edge.ends = ((xs.filterMap edge?).map Edge.ends).eraseDups
  edge_last : ∀ e ∈ d.edges.values, Table.LastWith Edge.ends (xs.filterMap edge?) e
  other : d.other = xs.filterMap other?

/-- Lines of known meanings leave one diagram. -/
theorem Collects.unique {xs : List Line} {d d' : Diagram} (h : d.Collects xs)
    (h' : d'.Collects xs) : d = d' := by
  have hnodes : d.nodes = d'.nodes := by
    refine h.node_keys.ext h'.node_keys ?_
    refine Table.eq_of_map_eq (h.node_order.trans h'.node_order.symm) fun n hn m hm => ?_
    exact (h.node_first n hn).unique (h'.node_first m hm)
  have hedges : d.edges = d'.edges := by
    refine h.edge_keys.ext h'.edge_keys ?_
    refine Table.eq_of_map_eq (h.edge_order.trans h'.edge_order.symm) fun e he f hf => ?_
    exact (h.edge_last e he).unique (h'.edge_last f hf)
  have hheader := h.header.trans h'.header.symm
  have hother := h.other.trans h'.other.symm
  exact eq_of_parts hheader hnodes hedges hother

theorem id_eq_iff_ends {t : Text} {e f : Edge} (he : e ∈ (statements t).filterMap edge?)
    (hf : f ∈ (statements t).filterMap edge?) : e.id = f.id ↔ e.ends = f.ends := by
  obtain ⟨x, hx, hxe⟩ := List.mem_filterMap.1 he
  obtain ⟨y, hy, hyf⟩ := List.mem_filterMap.1 hf
  obtain ⟨l, -, rfl⟩ := isLine_of_mem_statements hx
  obtain ⟨m, -, rfl⟩ := isLine_of_mem_statements hy
  rw [Edge.ends, Edge.ends, Prod.mk.injEq]
  constructor
  · exact ends_of_id hxe hyf
  · rintro ⟨hs, ht⟩
    rw [eq_key_of_edge? hxe, eq_key_of_edge? hyf, hs, ht]

theorem collects_read (t : Text) : (read t).Collects (statements t) where
  header := by rw [read_eq, header_ofLines]
  node_keys := (sound_read t).nodes_keyed
  node_order := by
    rw [← (sound_read t).nodes_keyed.keys_eq, read_eq, nodes_ofLines, Table.keys_ofFirst]
  node_first := by
    rw [read_eq, nodes_ofLines]
    exact fun n hn => Table.firstWith_ofFirst Node.id hn
  edge_keys := (sound_read t).edges_keyed
  edge_order := by
    rw [read_eq, edges_ofLines]
    exact Table.map_values_ofLast Edge.id Edge.ends _ fun e he f hf => id_eq_iff_ends he hf
  edge_last := by
    rw [read_eq, edges_ofLines]
    intro e he
    -- the table goes by keys, which are the same for lines with the same two ends
    have hlast := Table.lastWith_ofLast Edge.id he
    exact hlast.imp fun f hf => (id_eq_iff_ends hf hlast.mem).2
  other := by rw [read_eq, other_ofLines]

/-- A text describes a diagram when its lines that count have meanings which the diagram holds. -/
def Describes (t : Text) (d : Diagram) : Prop :=
  ∃ (ls : List Text) (xs : List Line), Counted t ls ∧ List.Forall₂ Means ls xs ∧ d.Collects xs

theorem forall₂_means_iff (ls : List Text) (xs : List Line) :
    List.Forall₂ Means ls xs ↔ ls.map classify = xs := by
  rw [← List.forall₂_eq_eq_eq, List.forall₂_map_left_iff]
  exact ⟨fun h => h.imp fun l x => (means_iff l x).1, fun h => h.imp fun l x => (means_iff l x).2⟩

/-- The diagram that is read is the one that the text describes. -/
theorem read_eq_iff_describes (t : Text) (d : Diagram) : read t = d ↔ Describes t d := by
  constructor
  · rintro rfl
    exact ⟨significant t, statements t, (counted_iff t _).2 rfl, (forall₂_means_iff _ _).2 rfl,
      collects_read t⟩
  · rintro ⟨ls, xs, hls, hxs, hd⟩
    rw [← (forall₂_means_iff ls xs).1 hxs, ← (counted_iff t ls).1 hls] at hd
    exact (collects_read t).unique hd

/-- Lines with returns, a comment, a node and an edge that are told twice, a style, and a line
whose connector joins nothing. -/
theorem read_eq_iff_describes_returns :
    let t : Text := "\uFEFFflowchart LR\r\n%% A\r\n A[One] --> B \r\r\nA[Two]\nstyle A fill:red\n" ++
      "A ==> B\n--> C\ngraph TD"
    let a : Text := "A"
    let b : Text := "B"
    let key : Text := "A->B"
    ∃ d : Diagram, Describes t d ∧ d.header = some ("graph TD" : Text) ∧
      d.nodes.entries = [(a, ⟨a, "A[One]"⟩), (b, ⟨b, b⟩)] ∧
      d.edges.entries = [(key, ⟨key, a, b, .thick, "A ==> B"⟩)] ∧
      d.other = ["style A fill:red", "--> C"] := by
  intro t a b key
  refine ⟨read t, (read_eq_iff_describes t (read t)).1 rfl, ?_, ?_, ?_, ?_⟩
  · decide +kernel
  · decide +kernel
  · decide +kernel
  · decide +kernel

end Diagram

end FlowchartMerge
