import FlowchartMerge.Proofs.Comparison.Written
import FlowchartMerge.Proofs.Diagram.Specification

/-!
# Where a line is cut

The tokens of connectors share their characters, so one line may hold several of them, one
across another. The choice of a connector and the cut of the line still agree: a line that
has a connector is always cut, no part of it holds a stronger connector, and the left part
does not even hold its own. The line of a removed edge is cut where it was put together.
-/

set_option autoImplicit false

namespace FlowchartMerge

open Line

namespace Connector

theorem token_ne_nil (c : Connector) : c.token ≠ [] := by cases c <;> decide

/-- A line with a connector is cut, and at the first place of the connector's token. -/
theorem exists_cut {l : Text} {c : Connector} (h : find? l = some c) :
    ∃ left right, Text.cut? c.token l = some (left, right) ∧ JoinedBy l c left right := by
  obtain ⟨p, hp⟩ := Option.isSome_iff_exists.1 (contains_of_find? h)
  refine ⟨p.1, p.2, hp, (joinedBy_iff _ _ _ _).2 ?_⟩
  rw [cut?, h, Option.bind_some, hp]
  rfl

end Connector

section

variable {source target : Text}

theorem isComment_dottedLine (hs : IsWord source) :
    isComment (dottedLine source target) = false := by
  rw [dottedLine_eq]
  obtain ⟨c, hc, hw⟩ := hs.exists_head (' ' :: '-' :: '.' :: '-' :: '>' :: ' ' :: target)
  have hsig := isSignificant_of_head hc hw
  rw [isSignificant, Bool.and_eq_true, Bool.not_eq_true', Bool.not_eq_true'] at hsig
  exact hsig.2

/-- Whatever has been read, a dotted line leaves the edge between its two words. -/
theorem get?_edges_add_dottedLine (d : Diagram) (hs : IsWord source) (ht : IsWord target) :
    (d.add (classify (dottedLine source target))).edges.get? (Edge.key source target) =
      some (.between source target .dotted (dottedLine source target)) := by
  rw [classify_dottedLine hs ht, Diagram.edges_add]
  change (d.edges.insert (Edge.key source target) _).get? _ = _
  rw [Table.get?_insert, if_pos rfl]

end

/-- A line has no connector exactly if it holds none of the four tokens. Otherwise it is cut
around its connector: stronger tokens occur nowhere in it, and up to the end of the cut the
connector's own token stands at the end only. The line of a removed edge is neither header nor
comment, and wherever it is read it draws this edge. -/
theorem cut_agrees_with_choice (l : Text) :
    Connector.all.map Connector.token = ["-->", "---", "-.->", "==>"] ∧
    (Connector.find? l = none ↔ ∀ c : Connector, ¬c.token <:+: l) ∧
    (∀ c, Connector.find? l = some c → ∃ stronger weaker left right,
      Connector.all = stronger++c::weaker ∧
      Text.cut? c.token l = some (left, right) ∧ l = left++c.token++right ∧
      (∀ k ∈ stronger, ¬k.token <:+: l ∧ ¬k.token <:+: left ∧ ¬k.token <:+: right) ∧
      ¬c.token <:+: left ∧
      ∀ before after, left++c.token = before++c.token++after → after = []) ∧
    ∀ source target, IsWord source → IsWord target →
      let drawn : Text := source ++ " -.-> " ++ target
      let key : Text := source ++ "->" ++ target
      isHeader drawn = false ∧ isComment drawn = false ∧
      Connector.find? drawn = some .dotted ∧
      (∀ id text, EdgeChange.line ⟨id, source, target, .removed, text⟩ = drawn) ∧
      ∀ d : Diagram, (d.add (classify drawn)).edges.get? key =
        some ⟨key, source, target, .dotted, drawn⟩ := by
  refine ⟨rfl, Connector.find?_eq_none_iff l, ?_, ?_⟩
  · intro c h
    obtain ⟨left, right, hcut, ⟨stronger, weaker, hall, hstrong⟩, hat⟩ := Connector.exists_cut h
    have hleft : left <:+: l := ⟨[], c.token++right, by rw [hat.eq]; simp⟩
    have hright : right <:+: l := ⟨left++c.token, [], by rw [hat.eq]; simp⟩
    refine ⟨stronger, weaker, left, right, hall, hcut, hat.eq, ?_,
      hat.not_infix_left c.token_ne_nil, fun _ _ => hat.eq_nil_of_append⟩
    intro k hk
    exact ⟨hstrong k hk, fun h => hstrong k hk (h.trans hleft),
      fun h => hstrong k hk (h.trans hright)⟩
  · intro source target hs ht drawn key
    have hdrawn : drawn = dottedLine source target := by simp [drawn, dottedLine, Connector.token]
    refine ⟨?_, ?_, ?_, fun id text => hdrawn.symm, fun d => ?_⟩
    · rw [hdrawn]
      exact isHeader_dottedLine hs
    · rw [hdrawn]
      exact isComment_dottedLine hs
    · rw [hdrawn]
      exact find?_dottedLine hs ht
    · rw [hdrawn]
      exact get?_edges_add_dottedLine d hs ht

/-- Tokens across one another, and a removed edge from a node that is named as headers are. -/
theorem cut_agrees_with_choice_overlapping :
    let l : Text := "A -.-->-- B"
    let source : Text := "graph"
    let target : Text := "LR"
    Connector.find? l = some .arrow ∧ IsWord source ∧ IsWord target ∧
      (∃ left right, Text.cut? Connector.arrow.token l = some (left, right) ∧
        ¬Connector.arrow.token <:+: left) ∧
      isHeader "graph -.-> LR" = false ∧
      Connector.find? "graph -.-> LR" = some .dotted := by
  intro l source target
  have hl : Connector.find? l = some .arrow := by decide
  have hs : IsWord source := by decide
  have ht : IsWord target := by decide
  obtain ⟨-, -, hcut, hdrawn⟩ := cut_agrees_with_choice l
  obtain ⟨-, -, left, right, -, h, -, -, hleft, -⟩ := hcut .arrow hl
  obtain ⟨hheader, -, hfind, -⟩ := hdrawn source target hs ht
  exact ⟨hl, hs, ht, ⟨left, right, h, hleft⟩, hheader, hfind⟩

end FlowchartMerge
