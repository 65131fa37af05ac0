import FlowchartMerge.Diagram.Line
import FlowchartMerge.Proofs.Text.Strip

/-!
# Significant lines

What a text says depends only on its significant lines, and these are found piece by
piece between the line feeds: the carriage returns and the missing last line of a
text make no difference once every line is stripped. So the significant lines of
joined texts are those of the texts one after the other, and a text that is itself
in bare form has one significant line, itself.
-/

set_option autoImplicit false

namespace FlowchartMerge

namespace Text

theorem not_mem_of_mem_splitOn {t p : Text} {c : Char} (h : p ∈ t.splitOn c) : c ∉ p := by
  induction t generalizing p with
  | nil =>
    rw [List.splitOn_nil, List.mem_singleton] at h
    simp [h]
  | cons x t ih =>
    rw [List.splitOn_cons_eq_if_modifyHead] at h
    obtain ⟨q, qs, hq⟩ := List.exists_cons_of_ne_nil (List.splitOn_ne_nil c t)
    rw [hq] at h ih
    split at h
    · rcases List.mem_cons.1 h with rfl | h
      · simp
      · exact ih h
    · rename_i hx
      rcases List.mem_cons.1 h with rfl | h
      · have hqc : c ∉ q := ih (List.mem_cons_self)
        have hxc : c ≠ x := fun e => hx (by simp [e])
        simp [hxc, hqc]
      · exact ih (List.mem_cons_of_mem _ h)

theorem joinLines_cons_cons (l m : Text) (ls : List Text) :
    joinLines (l::m::ls) = l ++ '\n' :: joinLines (m::ls) := by
  simp [joinLines, List.intercalate_cons_cons]

theorem strip_dropReturn {p : Char → Bool} (hp : p '\r' = true) (t : Text) :
    strip p (dropReturn t) = strip p t := by
  unfold dropReturn
  split
  · rename_i h
    have ht : t.dropLast++['\r'] = t := List.dropLast_append_getLast? _ h
    have hr := strip_append p t.dropLast '\r' hp
    rw [ht] at hr
    exact hr.symm
  · rfl

theorem lines_append {l : Text} (hl : '\n' ∉ l) (t : Text) :
    lines (l ++ '\n' :: t) = dropReturn l :: lines t := by
  obtain ⟨p, ps, hp⟩ := List.exists_cons_of_ne_nil (List.splitOn_ne_nil '\n' t)
  rw [lines, List.splitOn_append_cons_self, List.splitOn_eq_singleton hl, lines, hp]
  rfl

inductive BreaksInto : Text → List Text → Prop
  | nil : BreaksInto [] []
  | last {l : Text} (hne : l ≠ []) (hl : '\n' ∉ l) : BreaksInto l [l]
  | feed {l t : Text} {ls : List Text} (hl : '\n' ∉ l) (hr : l.getLast? ≠ some '\r')
      (h : BreaksInto t ls) : BreaksInto (l ++ '\n' :: t) (l::ls)
  | returnFeed {l t : Text} {ls : List Text} (hl : '\n' ∉ l) (h : BreaksInto t ls) :
      BreaksInto (l ++ '\r' :: '\n' :: t) (l::ls)

theorem breaksInto_joinLines {ps : List Text} (h : ∀ p ∈ ps, '\n' ∉ p) :
    BreaksInto (joinLines ps) (linesOfPieces ps) := by
  induction ps with
  | nil => exact .nil
  | cons p ps ih =>
    rw [List.forall_mem_cons] at h
    cases ps with
    | nil =>
      cases p with
      | nil => exact .nil
      | cons c p =>
        rw [joinLines, List.intercalate_singleton]
        exact .last (List.cons_ne_nil c p) h.1
    | cons q qs =>
      rw [joinLines_cons_cons, linesOfPieces, dropReturn]
      by_cases hr : p.getLast? = some '\r'
      · have hp : p.dropLast++['\r'] = p := List.dropLast_append_getLast? _ hr
        have hl : '\n' ∉ p.dropLast := fun hm => h.1 (List.dropLast_subset p hm)
        rw [if_pos hr]
        conv => lhs; rw [← hp, List.append_assoc]
        exact .returnFeed hl (ih h.2)
      · rw [if_neg hr]
        exact .feed h.1 hr (ih h.2)

theorem breaksInto_iff (t : Text) (ls : List Text) : BreaksInto t ls ↔ lines t = ls := by
  constructor
  · intro h
    induction h with
    | nil => rfl
    | @last l hne hl =>
      rw [lines, List.splitOn_eq_singleton hl, linesOfPieces, if_neg (by simpa using hne)]
    | feed hl hr _ ih => rw [lines_append hl, ih, dropReturn, if_neg hr]
    | @returnFeed l t ls hl _ ih =>
      have hlr : '\n' ∉ l++['\r'] := by simp [hl]
      have hlines := lines_append hlr t
      rw [List.append_assoc, ih, dropReturn, if_pos (by simp), List.dropLast_concat] at hlines
      exact hlines
  · rintro rfl
    have h := breaksInto_joinLines fun p (hp : p ∈ t.splitOn '\n') => not_mem_of_mem_splitOn hp
    rwa [joinLines, List.intercalate_splitOn] at h

/-- Without the blanks around it, the first line goes up to the first line feed. -/
theorem trim_head_lines (t : Text) :
    trim ((lines t).head?.getD []) = trim (t.takeWhile fun c => c != '\n') := by
  have hl : '\n' ∉ t.takeWhile fun c => c != '\n' := by
    intro h
    simpa using List.mem_takeWhile_imp h
  have hstop := List.head?_dropWhile_not (fun c => c != '\n') t
  conv_lhs => rw [← List.takeWhile_append_dropWhile (p := fun c => c != '\n') (l := t)]
  generalize t.takeWhile (fun c => c != '\n') = first at hl ⊢
  cases hrest : t.dropWhile fun c => c != '\n' with
  | nil =>
    rw [List.append_nil, lines, List.splitOn_eq_singleton hl, linesOfPieces]
    cases first <;> rfl
  | cons c rest =>
    rw [hrest] at hstop
    obtain rfl : c = '\n' := by simpa using hstop
    rw [lines_append hl]
    exact strip_dropReturn (by decide) first

end Text

namespace Line

theorem bare_dropReturn (t : Text) : bare (Text.dropReturn t) = bare t :=
  Text.strip_dropReturn (by decide) t

theorem significant_pieces (ps : List Text) :
    ((Text.linesOfPieces ps).map bare).filter isSignificant =
      (ps.map bare).filter isSignificant := by
  induction ps with
  | nil => rfl
  | cons p ps ih =>
    cases ps with
    | nil =>
      by_cases hp : p = []
      · subst hp
        rfl
      · simp [Text.linesOfPieces, hp]
    | cons q ps =>
      rw [Text.linesOfPieces, List.map_cons, bare_dropReturn, List.filter_cons, ih, ← List.filter_cons]
      rfl

theorem significant_eq (t : Text) :
    significant t = ((t.splitOn '\n').map bare).filter isSignificant :=
  significant_pieces _

theorem significant_append (a b : Text) :
    significant (a ++ '\n' :: b) = significant a++significant b := by
  simp only [significant_eq, List.splitOn_append_cons_self, List.map_append, List.filter_append]

theorem significant_joinLines (ls : List Text) :
    significant (Text.joinLines ls) = ls.flatMap significant := by
  induction ls with
  | nil => rfl
  | cons l ls ih =>
    cases ls with
    | nil => simp [Text.joinLines]
    | cons m ls => rw [Text.joinLines_cons_cons, significant_append, ih, ← List.flatMap_cons]

theorem significant_of_not_mem (t : Text) (ht : '\n' ∉ t) :
    significant t = [bare t].filter isSignificant := by
  rw [significant_eq, List.splitOn_eq_singleton ht, List.map_singleton]

def IsLine (l : Text) : Prop := significant l = [l]

theorem bare_of_mem_significant {t l : Text} (h : l ∈ significant t) :
    '\n' ∉ l ∧ bare l = l ∧ isSignificant l = true := by
  rw [significant_eq, List.mem_filter, List.mem_map] at h
  obtain ⟨⟨p, hp, rfl⟩, hs⟩ := h
  refine ⟨?_, Text.strip_strip _ _, hs⟩
  intro hlf
  exact Text.not_mem_of_mem_splitOn hp ((Text.strip_isInfix isSurround p).subset hlf)

theorem isLine_iff (l : Text) :
    IsLine l ↔ '\n' ∉ l ∧ bare l = l ∧ isSignificant l = true := by
  constructor
  · intro h
    have hm : l ∈ significant l := by
      rw [h]
      exact List.mem_singleton_self l
    exact bare_of_mem_significant hm
  · rintro ⟨hlf, hb, hs⟩
    rw [IsLine, significant_of_not_mem l hlf, hb, List.filter_singleton, hs]
    rfl

theorem isLine_of_mem_significant {t l : Text} (h : l ∈ significant t) : IsLine l :=
  (isLine_iff l).2 (bare_of_mem_significant h)

theorem flatMap_significant (ls : List Text) (h : ∀ l ∈ ls, IsLine l) :
    ls.flatMap significant = ls := by
  induction ls with
  | nil => rfl
  | cons l ls ih =>
    have hl : significant l = [l] := h l List.mem_cons_self
    rw [List.flatMap_cons, hl, ih fun m hm => h m (List.mem_cons_of_mem _ hm)]
    rfl

end Line

end FlowchartMerge
