import FlowchartMerge.Page
import FlowchartMerge.Proofs.Text.Pattern

/-!
# The diagram on its page

A page has the same markup whatever diagram it carries: an escaped diagram has no angle
brackets, so it can neither close its element nor open another. A reader that takes the
text of the element and replaces its entities from left to right has the diagram again,
also when the diagram holds entities, parts of entities or markup itself.
-/

set_option autoImplicit false

namespace FlowchartMerge.Page

def entities : List Text := ["&amp;", "&lt;", "&gt;"]

def unescape : Text → Text
  | '&' :: 'a' :: 'm' :: 'p' :: ';' :: t => '&' :: unescape t
  | '&' :: 'l' :: 't' :: ';' :: t => '<' :: unescape t
  | '&' :: 'g' :: 't' :: ';' :: t => '>' :: unescape t
  | c::t => c :: unescape t
  | [] => []

def opening : Text := "<pre class=\"mermaid\">"

def closing : Text := "</pre>"

def margin : Text := "\n    "

def element? (page : Text) : Option Text :=
  (Text.cut? opening page).bind fun p =>
    (Text.after? "\n" p.2).bind fun t =>
      (Text.cut? closing t).bind fun q =>
        (Text.after? margin.reverse q.1.reverse).map List.reverse

def isAngle (c : Char) : Bool := c == '<' || c == '>'

theorem escape_cons (c : Char) (d : Text) : escape (c::d) = escapeChar c++escape d :=
  List.flatMap_cons

theorem unescape_cons {c : Char} (hc : c ≠ '&') (t : Text) : unescape (c::t) = c :: unescape t := by
  rw [unescape] <;> simp [hc]

theorem unescape_escapeChar (c : Char) (t : Text) :
    unescape (escapeChar c++t) = c :: unescape t := by
  unfold escapeChar
  split
  · rfl
  · rfl
  · rfl
  · rename_i hamp _ _
    exact unescape_cons hamp t

/-- Escaping is undone, whatever entities the text held before. -/
theorem unescape_escape (d : Text) : unescape (escape d) = d := by
  induction d with
  | nil => rfl
  | cons c d ih => rw [escape_cons, unescape_escapeChar, ih]

example : escape "&lt;" = "&amp;lt;" ∧ unescape "&amp;lt;" = "&lt;" := by decide

/-- A character is written as an entity, or as itself when it means nothing to a page. -/
theorem escapeChar_cases (c : Char) :
    escapeChar c ∈ entities ∨ escapeChar c = [c] ∧ c ≠ '&' ∧ isAngle c = false := by
  unfold escapeChar
  split
  · exact Or.inl (by decide)
  · exact Or.inl (by decide)
  · exact Or.inl (by decide)
  · rename_i hamp hlt hgt
    have hangle : isAngle c = false := by
      rw [isAngle, Bool.or_eq_false_iff]
      exact ⟨beq_false_of_ne hlt, beq_false_of_ne hgt⟩
    exact Or.inr ⟨rfl, hamp, hangle⟩

theorem not_isAngle_of_mem_entities : ∀ e ∈ entities, ∀ x ∈ e, isAngle x = false := by
  simp [entities, isAngle]

theorem not_isAngle_of_mem_escape {d : Text} {x : Char} (h : x ∈ escape d) : isAngle x = false := by
  obtain ⟨c, -, hx⟩ := List.mem_flatMap.1 h
  rcases escapeChar_cases c with he | ⟨hc, -, hangle⟩
  · exact not_isAngle_of_mem_entities _ he x hx
  · rw [hc, List.mem_singleton] at hx
    rw [hx]
    exact hangle

/-- An entity has its only ampersand in front. -/
theorem eq_of_suffix_entity {e s : Text} (he : e ∈ entities) (hs : '&' :: s <:+ e) : '&' :: s = e := by
  have htail : ∀ e ∈ entities, '&' ∉ e.tail := by decide
  cases e with
  | nil => exact absurd (List.suffix_nil.1 hs) (List.cons_ne_nil _ _)
  | cons x e =>
    rcases List.suffix_cons_iff.1 hs with hall | hrest
    · exact hall
    · exact absurd (hrest.subset List.mem_cons_self) (htail _ he)

/-- An ampersand of an escaped text starts one of the entities. -/
theorem entity_of_escape_eq {d a b : Text} (h : escape d = a ++ '&' :: b) :
    ∃ e ∈ entities, e <+: '&' :: b := by
  induction d generalizing a with
  | nil => simp [escape] at h
  | cons c d ih =>
    rw [escape_cons] at h
    rcases List.append_eq_append_iff.1 h with ⟨a', -, hd⟩ | ⟨s, hc, hb⟩
    · exact ih hd
    · cases s with
      | nil => exact ih (a := []) hb.symm
      | cons x s =>
        obtain ⟨rfl, -⟩ := List.cons.inj hb
        -- the ampersand stands in what is written for the first character
        have hs : '&' :: s <:+ escapeChar c := ⟨a, hc.symm⟩
        rcases escapeChar_cases c with he | ⟨hplain, hamp, -⟩
        · rw [← eq_of_suffix_entity he hs] at he
          exact ⟨'&' :: s, he, escape d, hb.symm⟩
        · rw [hplain] at hs
          exact absurd (List.mem_singleton.1 (hs.subset List.mem_cons_self)).symm hamp

theorem cut?_opening (t : Text) : ∃ a, Text.cut? opening (head++t) = some (a, "\n" ++ t) := by
  have hhead : (Text.cut? opening head).map Prod.snd = some ("\n" : Text) := by decide +kernel
  obtain ⟨⟨a, rest⟩, hcut, hrest⟩ := Option.map_eq_some_iff.1 hhead
  refine ⟨a, Text.cut?_eq_some_iff.2 ?_⟩
  rw [← hrest]
  exact (Text.cut?_eq_some_iff.1 hcut).append t

/-- The first diagram element of a page holds the escaped diagram. -/
theorem element?_render (d : Text) : element? (render d) = some (escape d) := by
  obtain ⟨a, hopening⟩ := cut?_opening (escape d++foot)
  have hfoot : margin++closing <+: foot := by decide +kernel
  obtain ⟨rest, hrest⟩ := hfoot
  have hclosing : Text.cut? closing (escape d++foot) = some (escape d++margin, rest) := by
    rw [← hrest, ← List.append_assoc, ← List.append_assoc]
    apply Text.cut?_append (by decide)
    rintro x ⟨⟩ hx
    rcases List.mem_append.1 hx with hx | hx
    · exact absurd (not_isAngle_of_mem_escape hx) (by decide)
    · exact absurd hx (by decide)
  rw [element?, render, List.append_assoc, hopening, Option.bind_some,
    Text.after?_eq_some_iff.2 rfl, Option.bind_some, hclosing, Option.bind_some,
    List.reverse_append, Text.after?_eq_some_iff.2 rfl, Option.map_some, List.reverse_reverse]

theorem filter_isAngle_render (d : Text) :
    (render d).filter isAngle = head.filter isAngle++foot.filter isAngle := by
  have hd : (escape d).filter isAngle = [] := by
    rw [List.filter_eq_nil_iff]
    intro x hx
    simp [not_isAngle_of_mem_escape hx]
  rw [render, List.filter_append, List.filter_append, hd, List.append_nil]

/-- A page carries its diagram so that it can be read back, and the diagram has no part in the
page's markup: all pages have the same angle brackets, and two pages are only the same when
their diagrams are. -/
theorem page_shows_diagram (d : Text) :
    element? (render d) = some (escape d) ∧ unescape (escape d) = d ∧
    '<' ∉ escape d ∧ '>' ∉ escape d ∧
    (∀ a b : Text, escape d = a ++ '&' :: b → ∃ e ∈ entities, e <+: '&' :: b) ∧
    ∀ d' : Text, (render d').filter isAngle = (render d).filter isAngle ∧
      (render d' = render d → d' = d) := by
  have hlt : '<' ∉ escape d := fun h => absurd (not_isAngle_of_mem_escape h) (by decide)
  have hgt : '>' ∉ escape d := fun h => absurd (not_isAngle_of_mem_escape h) (by decide)
  refine ⟨element?_render d, unescape_escape d, hlt, hgt, fun a b => entity_of_escape_eq, ?_⟩
  intro d'
  constructor
  · rw [filter_isAngle_render, filter_isAngle_render]
  · intro hpages
    have helements := congrArg element? hpages
    rw [element?_render, element?_render, Option.some_inj] at helements
    calc d' = unescape (escape d') := (unescape_escape d').symm
      _ = unescape (escape d) := by rw [helements]
      _ = d := unescape_escape d

end FlowchartMerge.Page
