import FlowchartMerge.Proofs.Merge.Reading

/-!
# The style lines of a merged diagram

The lines of a merged diagram that declare or give a style are the differ's own and
whatever line quoted from the texts starts in the same way. A line that is a whole
declaration is never quoted, but an edge line and the pieces around its connector are
not tested for one. So a quoted line can only start as a style line does where an edge
has an end of that name.
-/

set_option autoImplicit false

namespace FlowchartMerge

open Line

namespace Line

def opensWith (w l : Text) : Bool := Text.startsWith l (w++[' '])

section

variable {w l : Text}

theorem opensWith_iff : opensWith w l = true ↔ ∃ rest, l = w ++ ' ' :: rest := by
  rw [opensWith, Text.startsWith, List.isPrefixOf_iff_prefix]
  constructor
  · rintro ⟨rest, rfl⟩
    exact ⟨rest, List.append_assoc w [' '] rest⟩
  · rintro ⟨rest, rfl⟩
    exact ⟨rest, List.append_assoc w [' '] rest⟩

theorem takeWhile_of_opensWith (hw : IsWord w) (h : opensWith w l = true) :
    l.takeWhile isWordChar = w := by
  obtain ⟨rest, rfl⟩ := opensWith_iff.1 h
  refine Text.takeWhile_append_of_stop hw.all ?_
  rintro c ⟨⟩
  decide

theorem not_opensWith_of_isHeader (hw : IsWord w) (hk : w ∉ headerKeywords)
    (h : isHeader l = true) : opensWith w l = false := by
  apply Bool.eq_false_iff.2
  intro ho
  have hword := ((isHeader_iff l).1 h).1
  rw [takeWhile_of_opensWith hw ho] at hword
  exact hk hword

theorem isDirective_of_opensWith (hd : ∃ d ∈ directives, d <+: w++[' '])
    (h : opensWith w l = true) : isDirective l = true := by
  obtain ⟨d, hd, hpre⟩ := hd
  rw [isDirective, List.any_eq_true]
  exact ⟨d, hd, List.isPrefixOf_iff_prefix.2 (hpre.trans (List.isPrefixOf_iff_prefix.1 h))⟩

theorem takeWhile_stripEnd (t : Text) :
    (Text.stripEnd isBlank t).takeWhile isWordChar = t.takeWhile isWordChar := by
  have ht : Text.stripEnd isBlank t++t.rtakeWhile isBlank = t := List.rdropWhile_append_rtakeWhile
  have hblank : ∀ c ∈ (t.rtakeWhile isBlank).head?, isWordChar c = false := by
    intro c hc
    have hb : isBlank c = true := List.mem_rtakeWhile_imp (List.mem_of_head? hc)
    apply Bool.eq_false_iff.2
    intro hword
    rw [isBlank_of_isWordChar hword] at hb
    exact Bool.noConfusion hb
  rw [← takeWhile_append_of_head hblank, ht]

theorem head_token (k : Connector) : ∃ x rest, k.token = x::rest ∧ isWordChar x = false := by
  cases k <;> exact ⟨_, _, rfl, by decide⟩

/-- An edge line starts with the name of its source. -/
theorem source_eq_takeWhile {e : Edge} (hl : IsLine l) (he : (classify l).edge? = some e) :
    e.source = l.takeWhile isWordChar := by
  have hr := reads_classify l
  generalize classify l = x at he hr
  cases hr <;> cases he
  rename_i s t k left right h hc hs ht
  obtain ⟨c, hc, hp⟩ := Option.bind_eq_some_iff.1 hc
  obtain ⟨p, hp, hpe⟩ := Option.map_eq_some_iff.1 hp
  cases hpe
  have hcut := Text.eq_of_cut?_eq_some hp
  obtain ⟨x, rest, hx, hxw⟩ := head_token k
  have htoken : ∀ y ∈ (k.token++right).head?, isWordChar y = false := by
    rw [hx]
    rintro y ⟨⟩
    exact hxw
  -- a bare line has no blank at its start, so trimming the left part leaves its first word
  have hleft : left.dropWhile isBlank = left := by
    cases left with
    | nil => rfl
    | cons y left =>
      have hy : isSurround y = false := by
        refine ((Text.strip_eq_self_iff _ l).1 ((isLine_iff l).1 hl).2.1).1 y ?_
        rw [hcut]
        rfl
      rw [List.dropWhile_cons_of_neg (by simp [(Bool.or_eq_false_iff.1 hy).1])]
  have hword := ((mention?_eq_some_iff _ _).1 hs).2
  have hsource := ((word?_eq_some_iff _ _).1 hword).2
  rw [Text.trim, Text.strip, hleft, takeWhile_stripEnd] at hsource
  rw [hcut, List.append_assoc, takeWhile_append_of_head htoken, hsource]
  rfl

end

end Line

namespace Comparison

variable {c : Comparison}

theorem not_mem_of_mem_lines (h : c.Sound) {s : Settings}
    (hp : ∀ l ∈ s.palette.styleLines, '\n' ∉ l) : ∀ l ∈ c.lines s, '\n' ∉ l := by
  intro l hl
  have hline : ∀ {m : Text}, IsLine m → '\n' ∉ m := fun hm => ((isLine_iff _).1 hm).1
  rw [lines, List.append_assoc _ (c.keptLines s), ← tail] at hl
  simp only [List.cons_append, List.mem_cons, List.mem_append, List.mem_map] at hl
  rcases hl with rfl | ((hl | ⟨n, hn, rfl⟩) | ⟨e, he, rfl⟩) | hl
  · exact hline h.header.1
  · exact hp l hl
  · exact (h.mention n hn).2
  · exact hline (h.drawn e he).1
  · exact hline (isOther_of_mem_tail h s l hl).1

/-- The lines that were written are the lines of the text. -/
theorem splitOn_render (h : c.Sound) {s : Settings}
    (hp : ∀ l ∈ s.palette.styleLines, '\n' ∉ l) : (c.render s).splitOn '\n' = c.lines s :=
  List.splitOn_intercalate '\n' (not_mem_of_mem_lines h hp) (List.cons_ne_nil _ _)

def quoted (c : Comparison) : List Text := c.nodes.map NodeChange.text++c.edges.map EdgeChange.line

def strays (c : Comparison) (w : Text) : List Text := c.quoted.filter (opensWith w)

theorem filter_opensWith_lines (h : c.Sound) {w : Text} (hw : IsWord w) (hk : w ∉ headerKeywords) :
    (c.lines {}).filter (opensWith w) =
      ({} : Palette).styleLines.filter (opensWith w)++c.strays w++
        c.classLines.filter (opensWith w) := by
  have hhead := not_opensWith_of_isHeader hw hk h.header.2
  have hlines : c.lines {} = c.header :: (({} : Palette).styleLines++c.quoted++c.classLines) := by
    simp [lines, keptLines, quoted]
  rw [hlines, List.filter_cons_of_neg (by simp [hhead]), List.filter_append, List.filter_append]
  rfl

theorem ends_of_mem_strays (h : c.Sound) {w : Text} (hw : IsWord w)
    (hd : ∃ d ∈ directives, d <+: w++[' ']) {l : Text} (hl : l ∈ c.strays w) :
    ∃ e ∈ c.edges, e.source = w ∨ e.target = w := by
  obtain ⟨hq, ho⟩ := List.mem_filter.1 hl
  rcases List.mem_append.1 hq with hq | hq
  · obtain ⟨n, hn, rfl⟩ := List.mem_map.1 hq
    have hword := ((mention?_eq_some_iff _ _).1 (h.mention n hn).1).2
    have hid : n.id = w :=
      ((word?_eq_some_iff _ _).1 hword).2.symm.trans (takeWhile_of_opensWith hw ho)
    rcases h.origin n hn with ⟨-, hc⟩ | ⟨e, he, hend⟩
    · have hr := reads_classify n.text
      rw [hc] at hr
      cases hr with
      | node _ _ _ hnot =>
        rw [isDirective_of_opensWith hd ho] at hnot
        exact Bool.noConfusion hnot
    · rw [hid] at hend
      exact ⟨e, he, hend.imp Eq.symm Eq.symm⟩
  · obtain ⟨e, he, rfl⟩ := List.mem_map.1 hq
    obtain ⟨hline, f, hf, -, hs, -⟩ := h.drawn e he
    refine ⟨e, he, Or.inl ?_⟩
    rw [← hs, source_eq_takeWhile hline hf, takeWhile_of_opensWith hw ho]

theorem strays_eq_nil (h : c.Sound) {w : Text} (hw : IsWord w)
    (hd : ∃ d ∈ directives, d <+: w++[' ']) (hends : ∀ e ∈ c.edges, e.source ≠ w ∧ e.target ≠ w) :
    c.strays w = [] := by
  refine List.eq_nil_iff_forall_not_mem.2 fun l hl => ?_
  obtain ⟨e, he, hend⟩ := ends_of_mem_strays h hw hd hl
  exact hend.elim (hends e he).1 (hends e he).2

theorem opensWith_classLine (id : Text) (s : Status) : opensWith "class" (classLine id s) = true := by
  refine opensWith_iff.2 ⟨id ++ ' ' :: s.name, ?_⟩
  unfold classLine
  simp

theorem filter_class_classLines (c : Comparison) :
    c.classLines.filter (opensWith "class") = c.classLines := by
  refine List.filter_eq_self.2 fun l hl => ?_
  obtain ⟨s, -, hl⟩ := List.mem_flatMap.1 hl
  obtain ⟨id, -, rfl⟩ := List.mem_map.1 hl
  exact opensWith_classLine id s

theorem filter_classDef_classLines (c : Comparison) :
    c.classLines.filter (opensWith "classDef") = [] := by
  refine List.filter_eq_nil_iff.2 fun l hl ho => ?_
  obtain ⟨s, -, hl⟩ := List.mem_flatMap.1 hl
  obtain ⟨id, -, rfl⟩ := List.mem_map.1 hl
  have hclass := takeWhile_of_opensWith (by decide) (opensWith_classLine id s)
  rw [takeWhile_of_opensWith (by decide) ho] at hclass
  exact absurd hclass (by decide)

end Comparison

/-- The style lines of a merged diagram are its own and the lines quoted from the texts
that start like one. There is none of these where no edge ends in a node of such a name. -/
theorem style_lines_merge (old new : Text) :
    let c := Comparison.ofDiagrams (.read old) (.read new)
    let ls := (merge {} old new).splitOn '\n'
    let declared := ls.filter fun l => Text.startsWith l "classDef "
    let assigned := ls.filter fun l => Text.startsWith l "class "
    let declarations : List Text :=
      ["classDef added fill:#e6ffed,stroke:#2ea043,stroke-width:2px;",
       "classDef removed fill:#ffebe9,stroke:#cf222e,stroke-width:2px,stroke-dasharray: 5 5;",
       "classDef unchanged fill:#f6f8fa,stroke:#d0d7de,stroke-width:1px;"]
    let assignments : List Text := [Status.added, .removed, .unchanged].flatMap fun s =>
      (c.nodes.filter fun n => n.status == s).map fun n => "class " ++ n.id ++ " " ++ s.name
    declared = declarations++c.strays "classDef" ∧ assigned = c.strays "class"++assignments ∧
    (declared = declarations ∧ assigned = assignments ↔
      c.strays "classDef" = [] ∧ c.strays "class" = []) ∧
    ((∀ e ∈ c.edges, ∀ w ∈ (["classDef", "class"] : List Text), e.source ≠ w ∧ e.target ≠ w) →
      declared = declarations ∧ assigned = assignments) := by
  intro c ls declared assigned declarations assignments
  have hc : c.Sound := Comparison.sound_ofDiagrams (Diagram.sound_read old) (Diagram.sound_read new)
  have hls : ls = c.lines {} := Comparison.splitOn_render hc fun l hl =>
    ((isLine_iff l).1 (Palette.isPlain_default.isOther l hl).1).1
  have hclassDef : IsWord "classDef" := by decide
  have hclass : IsWord "class" := by decide
  have hdeclared : declared = declarations++c.strays "classDef" := by
    have h := Comparison.filter_opensWith_lines hc hclassDef (by decide)
    have hstyles : ({} : Palette).styleLines.filter (opensWith "classDef") = declarations := by
      decide +kernel
    rw [Comparison.filter_classDef_classLines, List.append_nil, hstyles] at h
    change ls.filter (opensWith "classDef") = _
    rw [hls, h]
  have hassigned : assigned = c.strays "class"++assignments := by
    have h := Comparison.filter_opensWith_lines hc hclass (by decide)
    have hstyles : ({} : Palette).styleLines.filter (opensWith "class") = [] := by decide +kernel
    rw [hstyles, Comparison.filter_class_classLines, Comparison.classLines_eq, List.nil_append] at h
    change ls.filter (opensWith "class") = _
    rw [hls, h]
    rfl
  have hiff : declared = declarations ∧ assigned = assignments ↔
      c.strays "classDef" = [] ∧ c.strays "class" = [] := by
    rw [hdeclared, hassigned, List.append_right_eq_self, List.append_left_eq_self]
  refine ⟨hdeclared, hassigned, hiff, fun hends => hiff.2 ⟨?_, ?_⟩⟩
  · exact Comparison.strays_eq_nil hc hclassDef (by decide) fun e he => hends e he _ (by decide)
  · exact Comparison.strays_eq_nil hc hclass (by decide) fun e he => hends e he _ (by decide)

/-- A style with a connector in its comment is quoted twice among the declarations. -/
theorem style_lines_merge_comment :
    let new : Text := "A\nclassDef hot fill:#f00 %% A --> B"
    ((merge {} "" new).splitOn '\n').filter (fun l => Text.startsWith l "classDef ") =
      ["classDef added fill:#e6ffed,stroke:#2ea043,stroke-width:2px;",
       "classDef removed fill:#ffebe9,stroke:#cf222e,stroke-width:2px,stroke-dasharray: 5 5;",
       "classDef unchanged fill:#f6f8fa,stroke:#d0d7de,stroke-width:1px;",
       "classDef hot fill:#f00 %% A", "classDef hot fill:#f00 %% A --> B"] := by
  decide +kernel

end FlowchartMerge
