import FlowchartMerge.Proofs.Merge.Gathering
import FlowchartMerge.Proofs.Merge.Style

/-!
# Merging the same version again

A merged diagram has everything that the new version has, so merging that version into
it adds nothing. What the version lacks is still missing and is written as before. The
second comparison therefore differs from the first one only in what was added, and in
removed edges, which have become their dotted lines. Both are settled after one step.
-/

set_option autoImplicit false

namespace FlowchartMerge

def Status.settle : Status → Status
  | .added => .unchanged
  | .removed => .removed
  | .unchanged => .unchanged

theorem Status.settle_settle (st : Status) : st.settle.settle = st.settle := by
  cases st <;> rfl

theorem Status.settle_ne_added (st : Status) : st.settle ≠ .added := by
  cases st <;> decide

theorem Status.settle_eq_removed_iff (st : Status) : st.settle = .removed ↔ st = .removed := by
  cases st <;> decide

def NodeChange.settle (n : NodeChange) : NodeChange := { n with status := n.status.settle }

def EdgeChange.settle (e : EdgeChange) : EdgeChange :=
  { e with status := e.status.settle, text := e.line }

theorem EdgeChange.line_settle (e : EdgeChange) : e.settle.line = e.line := by
  obtain ⟨id, source, target, status, text⟩ := e
  cases status <;> rfl

namespace Comparison

def settled (c : Comparison) : Comparison :=
  { c with nodes := c.nodes.map NodeChange.settle, edges := c.edges.map EdgeChange.settle }

section

variable {c : Comparison}

theorem settled_settled : c.settled.settled = c.settled := by
  have hnode : ∀ n : NodeChange, n.settle.settle = n.settle := by
    intro n
    simp [NodeChange.settle, Status.settle_settle]
  have hedge : ∀ e : EdgeChange, e.settle.settle = e.settle := by
    intro e
    change EdgeChange.mk e.id e.source e.target e.status.settle.settle e.settle.line = _
    rw [Status.settle_settle, EdgeChange.line_settle]
    rfl
  simp [settled, Function.comp_def, hnode, hedge]

theorem nodeIds_settled_added : c.settled.nodeIds .added = [] := by
  rw [nodeIds, List.map_eq_nil_iff, List.filter_eq_nil_iff]
  intro n hn
  obtain ⟨m, -, rfl⟩ := List.mem_map.1 hn
  rw [beq_iff_eq]
  exact m.status.settle_ne_added

theorem nodeIds_settled_removed : c.settled.nodeIds .removed = c.nodeIds .removed := by
  have hstatus : ∀ n : NodeChange, (n.settle.status == .removed) = (n.status == .removed) := by
    intro n
    rw [Bool.eq_iff_iff, beq_iff_eq, beq_iff_eq]
    exact n.status.settle_eq_removed_iff
  unfold nodeIds settled
  rw [List.filter_map, List.map_map]
  congr 1
  exact List.filter_congr fun n _ => hstatus n

def above (c : Comparison) (s : Settings) : List Text :=
  c.header :: s.palette.styleLines ++ c.nodes.map NodeChange.text ++ c.edges.map EdgeChange.line ++
    c.keptLines s

theorem splitOn_render_above (h : c.Sound) {s : Settings} (hp : s.palette.IsPlain) :
    (c.render s).splitOn '\n' = c.above s ++
      ((c.nodeIds .added).map fun id => classLine id .added) ++
      ((c.nodeIds .removed).map fun id => classLine id .removed) ++
      (c.nodeIds .unchanged).map fun id => classLine id .unchanged := by
  have hstyles : ∀ l ∈ s.palette.styleLines, '\n' ∉ l := fun l hl =>
    ((Line.isLine_iff l).1 (hp.isOther l hl).1).1
  rw [splitOn_render h hstyles]
  simp [lines, above, classLines, Status.all]

theorem above_settled (s : Settings) : c.settled.above s = c.above s := by
  have hlines : (c.edges.map EdgeChange.settle).map EdgeChange.line =
      c.edges.map EdgeChange.line := by
    rw [List.map_map]
    exact List.map_congr_left fun e _ => e.line_settle
  unfold above settled
  rw [hlines, List.map_map]
  rfl

end

end Comparison

section

variable {α β : Type} {id : α → Text} {change : α → Status → β} {rewrite : α → α}
  {old new merged : Table α}

def Table.missing (id : α → Text) (old new : Table α) : List α :=
  old.values.filter fun a => !new.contains (id a)

/-- The entries of a comparison once settled: the new ones are all unchanged, and the removed
ones show what was rewritten. -/
theorem map_settle_changes {settle : β → β}
    (hstay : ∀ a st, st ≠ .removed → settle (change a st) = change a .unchanged)
    (hgone : ∀ a, settle (change a .removed) = change (rewrite a) .removed) :
    (changes id change old new).map settle = new.values.map (fun a => change a .unchanged) ++
      (old.missing id new).map fun a => change (rewrite a) .removed := by
  have hnew : ∀ a ∈ new.values, settle (change a (if old.contains (id a) then .unchanged
      else .added)) = change a .unchanged := by
    intro a _
    refine hstay a _ ?_
    split <;> decide
  rw [changes, List.map_append, List.map_map, List.map_map]
  exact congrArg₂ _ (List.map_congr_left hnew) (List.map_congr_left fun a _ => hgone a)

/-- Comparing again with a table that has everything of the new one and, after it and
rewritten, what only the old one has. -/
theorem changes_again (hn : new.Keyed id) (hm : merged.Keyed id)
    (hvalues : merged.values = new.values ++ (old.missing id new).map rewrite)
    (hid : ∀ a, id (rewrite a) = id a) :
    changes id change merged new = new.values.map (fun a => change a .unchanged) ++
      (old.missing id new).map fun a => change (rewrite a) .removed := by
  have hkept : ∀ a ∈ new.values, change a (if merged.contains (id a) then .unchanged else .added) =
      change a .unchanged := by
    intro a ha
    -- whatever the new table has was merged, so it is there already
    have hk : id a ∈ merged.keys := by
      rw [hm.keys_eq, hvalues, List.map_append]
      exact List.mem_append_left _ (List.mem_map_of_mem ha)
    rw [if_pos ((merged.contains_iff _).2 hk)]
  have hnone : new.values.filter (fun a => !new.contains (id a)) = [] := by
    rw [List.filter_eq_nil_iff]
    intro a ha
    have hk : id a ∈ new.keys := hn.keys_eq ▸ List.mem_map_of_mem ha
    rw [(new.contains_iff _).2 hk]
    decide
  have hall : ((old.missing id new).map rewrite).filter (fun a => !new.contains (id a)) =
      (old.missing id new).map rewrite := by
    rw [List.filter_eq_self]
    intro b hb
    obtain ⟨a, ha, rfl⟩ := List.mem_map.1 hb
    rw [hid]
    exact (List.mem_filter.1 ha).2
  rw [changes, List.map_congr_left hkept, hvalues, List.filter_append, hnone, List.nil_append, hall,
    List.map_map]
  rfl

end

theorem Node.settle_change {st : Status} (h : st ≠ .removed) (n : Node) :
    (n.change st).settle = n.change .unchanged := by
  cases st with
  | removed => exact absurd rfl h
  | added => rfl
  | unchanged => rfl

theorem Edge.settle_change {st : Status} (h : st ≠ .removed) (e : Edge) :
    (e.change st).settle = e.change .unchanged := by
  cases st with
  | removed => exact absurd rfl h
  | added => rfl
  | unchanged => rfl

def Edge.dotted (e : Edge) : Edge :=
  { e with connector := .dotted, text := dottedLine e.source e.target }

section

variable {e : Edge}

theorem Edge.drawn?_change (h : (Line.classify e.text).edge? = some e) {st : Status}
    (hst : st ≠ .removed) : (e.change st).drawn? = some e := by
  rw [← h]
  cases st with
  | removed => exact absurd rfl hst
  | added => rfl
  | unchanged => rfl

theorem Edge.drawn?_change_removed (h : (Line.classify e.text).edge? = some e) :
    (e.change .removed).drawn? = some e.dotted := by
  obtain ⟨-, -, hs, ht⟩ := Line.eq_of_edge? h
  change (Line.classify (dottedLine e.source e.target)).edge? = _
  rw [classify_dottedLine hs ht, dotted, Line.eq_key_of_edge? h]
  rfl

end

namespace Comparison

section

variable {old new merged : Diagram} {s : Settings}

theorem map_node_ofDiagrams : (ofDiagrams old new).nodes.map NodeChange.node =
    new.nodes.values++old.nodes.missing Node.id new.nodes := by
  have hnode : ∀ (n : Node) (st : Status), (n.change st).node = n := fun _ _ => rfl
  simp [ofDiagrams, changes, Table.missing, Function.comp_def, hnode]

theorem filterMap_drawn?_ofDiagrams (ho : old.Sound) (hn : new.Sound) :
    (ofDiagrams old new).edges.filterMap EdgeChange.drawn? =
      new.edges.values ++ (old.edges.missing Edge.id new.edges).map Edge.dotted := by
  have hkept : ∀ e ∈ new.edges.values, (e.change (if old.edges.contains e.id then .unchanged
      else .added)).drawn? = some e := by
    intro e he
    refine Edge.drawn?_change (hn.drawn e he).2 ?_
    split <;> decide
  have hgone : ∀ e ∈ old.edges.missing Edge.id new.edges,
      (e.change .removed).drawn? = some e.dotted := by
    intro e he
    exact Edge.drawn?_change_removed (ho.drawn e (List.mem_filter.1 he).1).2
  have hnew := List.filterMap_congr hkept
  have hold := List.filterMap_congr hgone
  rw [List.filterMap_some] at hnew
  rw [List.filterMap_eq_map'] at hold
  change (changes Edge.id Edge.change old.edges new.edges).filterMap EdgeChange.drawn? = _
  rw [changes, List.filterMap_append, List.filterMap_map, List.filterMap_map]
  exact congrArg₂ _ hnew hold

theorem nodes_settled : (ofDiagrams old new).settled.nodes =
    new.nodes.values.map (fun n => n.change .unchanged) ++
      (old.nodes.missing Node.id new.nodes).map fun n => n.change .removed :=
  map_settle_changes (fun n _ h => Node.settle_change h n) fun _ => rfl

theorem edges_settled : (ofDiagrams old new).settled.edges =
    new.edges.values.map (fun e => e.change .unchanged) ++
      (old.edges.missing Edge.id new.edges).map fun e => e.dotted.change .removed :=
  map_settle_changes (fun e _ h => Edge.settle_change h e) fun _ => rfl

/-- Comparing again with a diagram that has all that was written. -/
theorem ofDiagrams_again (hn : new.Sound) (hm : merged.Sound)
    (hheader : merged.header = some (chooseHeader old new))
    (hnodes : merged.nodes.values = (ofDiagrams old new).nodes.map NodeChange.node)
    (hedges : merged.edges.values =
      new.edges.values ++ (old.edges.missing Edge.id new.edges).map Edge.dotted) :
    ofDiagrams merged new = (ofDiagrams old new).settled := by
  have hh : chooseHeader merged new = chooseHeader old new := by
    rw [chooseHeader, hheader]
    cases hnew : new.header with
    | some h =>
      rw [chooseHeader, hnew]
      rfl
    | none => rfl
  rw [map_node_ofDiagrams, ← List.map_id (old.nodes.missing _ _)] at hnodes
  have hns : changes Node.id Node.change merged.nodes new.nodes = _ :=
    changes_again hn.nodes_keyed hm.nodes_keyed hnodes fun _ => rfl
  have hes : changes Edge.id Edge.change merged.edges new.edges = _ :=
    changes_again hn.edges_keyed hm.edges_keyed hedges fun _ => rfl
  rw [ofDiagrams, hh, hns, hes, ← edges_settled]
  exact congrArg (fun ns => Comparison.mk _ ns _ _) nodes_settled.symm

/-- Against the merged diagram the new version compares as before, only settled. -/
theorem ofDiagrams_read_render (ho : old.Sound) (hn : new.Sound)
    (hd : (ofDiagrams old new).Declared) (hp : s.palette.IsPlain) :
    ofDiagrams (.read ((ofDiagrams old new).render s)) new = (ofDiagrams old new).settled := by
  have hc := sound_ofDiagrams ho hn
  refine ofDiagrams_again hn (Diagram.sound_read _) (header_read_render_of_declared hc hd hp) ?_ ?_
  · rw [Table.values, nodes_read_render_of_declared hc hd hp, List.map_map]
    rfl
  · rw [Table.values, edges_read_render_of_declared hc hd hp, List.map_map,
      ← filterMap_drawn?_ofDiagrams ho hn]
    exact List.map_id _

/-- Once settled, the nodes of the new version are the unchanged ones. -/
theorem nodeIds_settled_unchanged :
    (ofDiagrams old new).settled.nodeIds .unchanged = new.nodes.values.map Node.id := by
  rw [nodeIds, nodes_settled]
  simp [List.filter_map, Function.comp_def, Node.status_change, Node.id_change]

end

end Comparison

section

variable {s : Settings} {old new : Text}

theorem ofDiagrams_read_merge (hp : s.palette.IsPlain) (ho : (Diagram.read old).Standalone)
    (hn : (Diagram.read new).Standalone) :
    Comparison.ofDiagrams (.read (merge s old new)) (.read new) =
      (Comparison.ofDiagrams (.read old) (.read new)).settled := by
  have hos := Diagram.sound_read old
  have hns := Diagram.sound_read new
  exact Comparison.ofDiagrams_read_render hos hns
    (Comparison.declared_ofDiagrams hos hns ho hn) hp

theorem merge_again (hp : s.palette.IsPlain) (ho : (Diagram.read old).Standalone)
    (hn : (Diagram.read new).Standalone) :
    merge s (merge s old new) new =
      (Comparison.ofDiagrams (.read old) (.read new)).settled.render s :=
  congrArg (fun c => c.render s) (ofDiagrams_read_merge hp ho hn)

/-- Nothing is left to settle the second time. -/
theorem merge_again_again (hp : s.palette.IsPlain) (ho : (Diagram.read old).Standalone)
    (hn : (Diagram.read new).Standalone) :
    merge s (merge s (merge s old new) new) new = merge s (merge s old new) new := by
  have hm : (Diagram.read (merge s old new)).Standalone := Step.standalone_of hp ho hn
  rw [merge_again hp hm hn, ofDiagrams_read_merge hp ho hn, Comparison.settled_settled,
    merge_again hp ho hn]

end

/-- Merging a version again only moves its own nodes to the unchanged ones, below all that
is drawn; after that, nothing changes any more. -/
theorem merge_settles (s : Settings) (old new : Text) (hp : s.palette.IsPlain)
    (ho : (Diagram.read old).Standalone) (hn : (Diagram.read new).Standalone) :
    let c := Comparison.ofDiagrams (.read old) (.read new)
    let first := merge s old new
    let second := merge s first new
    let third := merge s second new
    let above := c.header :: s.palette.styleLines ++ c.nodes.map NodeChange.text ++
      c.edges.map EdgeChange.line ++ (if s.keepDirectives then (Diagram.read new).other else [])
    let classes (st : Status) : List Text :=
      (c.nodes.filter fun n => n.status == st).map fun n => "class " ++ n.id ++ " " ++ st.name
    let unchanged : List Text :=
      (Diagram.read new).nodes.values.map fun n => "class " ++ n.id ++ " unchanged"
    third = second ∧
      first.splitOn '\n' = above ++ classes .added ++ classes .removed ++ classes .unchanged ∧
      second.splitOn '\n' = above ++ classes .removed ++ unchanged := by
  intro c first second third above classes unchanged
  have hos := Diagram.sound_read old
  have hns := Diagram.sound_read new
  have hc : c.Sound := Comparison.sound_ofDiagrams hos hns
  have hsettled : Comparison.ofDiagrams (.read first) (.read new) = c.settled :=
    ofDiagrams_read_merge hp ho hn
  have hcs : c.settled.Sound := hsettled ▸ Comparison.sound_ofDiagrams (Diagram.sound_read _) hns
  have hclasses : ∀ st, (c.nodeIds st).map (fun id => Comparison.classLine id st) = classes st :=
    fun _ => List.map_map
  have hfirst := Comparison.splitOn_render_above hc hp
  have hsecond := Comparison.splitOn_render_above hcs hp
  rw [hclasses, hclasses, hclasses] at hfirst
  rw [Comparison.above_settled, Comparison.nodeIds_settled_added,
    Comparison.nodeIds_settled_removed, Comparison.nodeIds_settled_unchanged, hclasses,
    List.map_nil, List.append_nil, List.map_map, ← merge_again hp ho hn] at hsecond
  have hunchanged : (Diagram.read new).nodes.values.map
      ((fun id => Comparison.classLine id .unchanged) ∘ Node.id) = unchanged := by
    refine List.map_congr_left fun n _ => ?_
    change "class " ++ n.id ++ " " ++ "unchanged" = "class " ++ n.id ++ " unchanged"
    rw [List.append_assoc]
    rfl
  rw [hunchanged] at hsecond
  exact ⟨merge_again_again hp ho hn, hfirst, hsecond⟩

/-- A header that only the old version has, a node and two edges that are removed, and a
style that is kept. -/
theorem merge_settles_removed :
    let old : Text := "flowchart LR\nA[Start]\nB\nC\nA --> B\nB ==> C"
    let new : Text := "B(Round)\nC\nD\nC --> D\nB --- D\nstyle C fill:#fff"
    let s : Settings := { keepDirectives := true }
    let second := merge s (merge s old new) new
    let header : Text := "flowchart LR"
    let drawn : List Text :=
      ["B(Round)", "C", "D", "A[Start]", "C --> D", "B --- D", "A -.-> B", "B -.-> C",
       "style C fill:#fff", "class A removed", "class B unchanged", "class C unchanged",
       "class D unchanged"]
    s.palette.IsPlain ∧ (Diagram.read old).Standalone ∧ (Diagram.read new).Standalone ∧
      merge s second new = second ∧
      second.splitOn '\n' = header :: s.palette.styleLines ++ drawn := by
  intro old new s second header drawn
  have ho : (Diagram.read old).Standalone := by decide +kernel
  have hn : (Diagram.read new).Standalone := by decide +kernel
  have h := merge_settles s old new Palette.isPlain_default ho hn
  have hlines : second.splitOn '\n' = header :: s.palette.styleLines ++ drawn := by
    rw [h.2.2]
    decide +kernel
  exact ⟨Palette.isPlain_default, ho, hn, h.1, hlines⟩

end FlowchartMerge
