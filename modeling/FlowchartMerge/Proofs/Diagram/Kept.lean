import FlowchartMerge.Proofs.Diagram.Specification

/-!
# What a diagram keeps

Every text that a diagram keeps is one line with no blanks at its ends, and it says by
itself what it says in the diagram: a header alone is read as that header, the line of
an edge as that edge, and any other line as itself. This is so for whatever text the
diagram was read from.
-/

set_option autoImplicit false

namespace FlowchartMerge

structure Text.Trimmed (t : Text) : Prop where
  one_line : '\n' ∉ t
  head : ∀ c ∈ t.head?, isBlank c = false
  last : ∀ c ∈ t.getLast?, isBlank c = false

theorem Text.trimmed_trim {t : Text} (h : '\n' ∉ t) : (trim t).Trimmed where
  one_line hlf := h ((strip_isInfix isBlank t).subset hlf)
  head := head_strip isBlank t
  last := last_strip isBlank t

def Node.texts (n : Node) : List Text := [n.id, n.text]

def Edge.texts (e : Edge) : List Text := [e.id, e.source, e.target, e.text]

def Diagram.texts (d : Diagram) : List Text :=
  d.header.toList++(d.nodes.keys++d.nodes.values.flatMap Node.texts)++
    (d.edges.keys++d.edges.values.flatMap Edge.texts)++d.other

structure Diagram.WellFormed (d : Diagram) : Prop where
  nodes : ∀ p ∈ d.nodes.entries, p.1 = p.2.id ∧ Line.StartsWithWord p.2.text p.2.id
  edges : ∀ p ∈ d.edges.entries, p.1 = p.2.id ∧ p.2.id = p.2.source ++ "->" ++ p.2.target ∧
    p.2.source ∈ d.nodes.keys ∧ p.2.target ∈ d.nodes.keys ∧
    Connector.find? p.2.text = some p.2.connector
  texts : ∀ t ∈ d.texts, t.Trimmed
  header_alone : ∀ h ∈ d.header, read h = { empty with header := some h }
  edge_alone : ∀ e ∈ d.edges.values, (read e.text).header = none ∧
    (read e.text).edges.entries = [(e.id, e)] ∧ (read e.text).other = []
  other_alone : ∀ l ∈ d.other, read l = { empty with other := [l] }

namespace Line

theorem isBlank_of_isSurround_eq_false {c : Char} (h : isSurround c = false) : isBlank c = false :=
  (Bool.or_eq_false_iff.1 h).1

theorem IsLine.trimmed {l : Text} (h : IsLine l) : l.Trimmed := by
  obtain ⟨hlf, hbare, -⟩ := (isLine_iff l).1 h
  obtain ⟨hhead, hlast⟩ := (Text.strip_eq_self_iff isSurround l).1 hbare
  constructor
  · exact hlf
  · exact fun c hc => isBlank_of_isSurround_eq_false (hhead c hc)
  · exact fun c hc => isBlank_of_isSurround_eq_false (hlast c hc)

/-- A text between two words is trimmed when its middle holds no line feed. -/
theorem trimmed_between {a b mid : Text} (ha : IsWord a) (hb : IsWord b) (hmid : '\n' ∉ mid) :
    (a++mid++b).Trimmed where
  one_line hlf := by
    rw [List.mem_append, List.mem_append] at hlf
    rcases hlf with (hlf | hlf) | hlf
    · exact ha.not_mem (by decide) hlf
    · exact hmid hlf
    · exact hb.not_mem (by decide) hlf
  head := by
    rw [List.append_assoc]
    intro c hc
    obtain ⟨x, hx, hword⟩ := ha.exists_head (mid++b)
    rw [Option.mem_unique hc hx]
    exact isBlank_of_isWordChar hword
  last c hc := isBlank_of_isSurround_eq_false (hb.last (a++mid) c hc)

theorem IsWord.trimmed {w : Text} (hw : IsWord w) : w.Trimmed := by
  have h := Text.trimmed_trim (hw.not_mem (c := '\n') (by decide))
  rwa [hw.trim] at h

/-- The text of a node is trimmed, whether it is the whole line or one end of an edge. -/
theorem trimmed_of_mem_mentions {l : Text} {n : Node} (hl : IsLine l)
    (hn : n ∈ (classify l).mentions) : n.text.Trimmed := by
  obtain ⟨-, hline | ⟨piece, hpiece, htrim⟩⟩ := quote_of_mem_mentions hn
  · rw [hline]
    exact hl.trimmed
  · rw [htrim]
    exact Text.trimmed_trim fun hlf => hl.trimmed.one_line (hpiece.subset hlf)

end Line

open Line

theorem Node.trimmed_texts {n : Node} (hm : mention? n.text = some n) (ht : n.text.Trimmed) :
    ∀ t ∈ n.texts, t.Trimmed := by
  intro t h
  rcases List.mem_cons.1 h with rfl | h
  · exact (isWord_of_mention? hm).trimmed
  · rw [List.mem_singleton.1 h]
    exact ht

theorem Edge.trimmed_texts {e : Edge} (hl : IsLine e.text)
    (he : (classify e.text).edge? = some e) : ∀ t ∈ e.texts, t.Trimmed := by
  obtain ⟨-, -, hs, ht⟩ := eq_of_edge? he
  have hid : e.id.Trimmed := by
    rw [eq_key_of_edge? he, Edge.key]
    exact trimmed_between hs ht (by decide)
  unfold Edge.texts
  simp only [List.forall_mem_cons]
  exact ⟨hid, hs.trimmed, ht.trimmed, hl.trimmed, fun t h => absurd h List.not_mem_nil⟩

namespace Diagram

theorem trimmed_of_mem_nodes {t : Text} {n : Node} (hn : n ∈ (read t).nodes.values) :
    n.text.Trimmed := by
  obtain ⟨x, hx, hxn⟩ := mem_mentions_of_mem_nodes hn
  obtain ⟨l, hl, rfl⟩ := isLine_of_mem_statements hx
  exact trimmed_of_mem_mentions hl hxn

theorem trimmed_texts_read (t : Text) : ∀ u ∈ (read t).texts, u.Trimmed := by
  have hd := sound_read t
  have hnodes : ∀ n ∈ (read t).nodes.values, ∀ u ∈ n.texts, u.Trimmed := fun n hn =>
    Node.trimmed_texts (hd.mention n hn).1 (trimmed_of_mem_nodes hn)
  have hedges : ∀ e ∈ (read t).edges.values, ∀ u ∈ e.texts, u.Trimmed := fun e he =>
    Edge.trimmed_texts (hd.drawn e he).1 (hd.drawn e he).2
  have hother : ∀ l ∈ (read t).other, l.Trimmed := fun l hl => (hd.other l hl).1.trimmed
  have hheader : ∀ h ∈ (read t).header, h.Trimmed := fun h hh => (hd.header h hh).1.trimmed
  unfold texts
  simp only [List.forall_mem_append, List.forall_mem_flatMap, Option.mem_toList]
  refine ⟨⟨⟨hheader, ?_, hnodes⟩, ?_, hedges⟩, hother⟩
  · rw [hd.nodes_keyed.keys_eq, List.forall_mem_map]
    exact fun n hn => hnodes n hn n.id List.mem_cons_self
  · rw [hd.edges_keyed.keys_eq, List.forall_mem_map]
    exact fun e he => hedges e he e.id List.mem_cons_self

theorem read_of_header {l : Text} (hl : IsLine l) (h : isHeader l = true) :
    read l = { empty with header := some l } := by
  rw [read_of_isLine hl, (Reads.header h).classify_eq]
  rfl

theorem read_of_other {l : Text} (h : IsOther l) : read l = { empty with other := [l] } := by
  obtain ⟨hl, hother⟩ := h
  rw [read_of_isLine hl]
  generalize classify l = x at hother ⊢
  cases x <;> cases hother
  · rfl
  · rfl

/-- The line of an edge draws this edge and says nothing else but its ends. -/
theorem read_of_edge {l : Text} {e : Edge} (hl : IsLine l) (he : (classify l).edge? = some e) :
    (read l).header = none ∧ (read l).edges.entries = [(e.id, e)] ∧ (read l).other = [] := by
  rw [read_of_isLine hl]
  generalize classify l = x at he ⊢
  cases x <;> cases he
  exact ⟨rfl, rfl, rfl⟩

/-- A diagram that was read is well-formed, whatever the text. -/
theorem wellFormed_read (t : Text) : (read t).WellFormed := by
  have hd := sound_read t
  constructor
  case nodes =>
    intro p hp
    obtain ⟨hkey, hmem⟩ := hd.nodes_keyed.of_mem_entries hp
    exact ⟨hkey, (startsWithWord_mention _ _).2 (hd.mention p.2 hmem).1⟩
  case edges =>
    intro p hp
    obtain ⟨hkey, hmem⟩ := hd.edges_keyed.of_mem_entries hp
    obtain ⟨-, hedge⟩ := hd.drawn p.2 hmem
    obtain ⟨hsource, htarget⟩ := hd.ends p.2 hmem
    exact ⟨hkey, eq_key_of_edge? hedge, hsource, htarget, (eq_of_edge? hedge).2.1⟩
  case texts => exact trimmed_texts_read t
  case header_alone =>
    intro h hh
    obtain ⟨hl, hheader⟩ := hd.header h hh
    exact read_of_header hl hheader
  case edge_alone =>
    intro e he
    obtain ⟨hl, hedge⟩ := hd.drawn e he
    exact read_of_edge hl hedge
  case other_alone => exact fun l hl => read_of_other (hd.other l hl)

end Diagram

end FlowchartMerge
