import FlowchartMerge.Path
import FlowchartMerge.Proofs.Text.Lines

/-!
# Paths below a directory

Only the first piece of a path can stand for the root or for the directory itself; behind it
are names and double dots, each of which is read back from its own text. So the components
below a directory can be joined by slashes and taken from inside the directory again. The
directory of a path has all of its components but the last.
-/

set_option autoImplicit false

namespace FlowchartMerge

namespace Component

structure Inner (c : Component) : Prop where
  reads : ofPiece? c.text = some c
  slash : '/' ∉ c.text

theorem text_of_ofPiece? {p : Text} {c : Component} (h : ofPiece? p = some c) : c.text = p := by
  unfold ofPiece? at h
  split at h
  · cases h
  split at h
  · cases h
    exact (‹p = _›).symm
  · cases h
    rfl

theorem inner_of_ofPiece? {p : Text} {c : Component} (hp : '/' ∉ p) (h : ofPiece? p = some c) :
    c.Inner := by
  have ht := text_of_ofPiece? h
  exact ⟨ht.symm ▸ h, ht.symm ▸ hp⟩

theorem exists_ofPiece? {p : Text} (hne : p ≠ []) (hdot : p ≠ ['.']) :
    ∃ c, ofPiece? p = some c ∧ c.text = p := by
  have hsome : ∃ c, ofPiece? p = some c := by
    unfold ofPiece?
    rw [if_neg (by simp [hne, hdot])]
    split
    · exact ⟨_, rfl⟩
    · exact ⟨_, rfl⟩
  obtain ⟨c, hc⟩ := hsome
  exact ⟨c, hc, text_of_ofPiece? hc⟩

theorem Inner.text_ne_nil {c : Component} (h : c.Inner) : c.text ≠ [] := by
  intro ht
  have hr := h.reads
  rw [ht] at hr
  cases hr

end Component

namespace Path

open Component

def inside (t : Text) : List Component := (t.splitOn '/').filterMap ofPiece?

theorem inside_nil : inside [] = [] := rfl

theorem inside_append_slash (a b : Text) : inside (a ++ '/' :: b) = inside a ++ inside b := by
  rw [inside, List.splitOn_append_cons_self, List.filterMap_append]
  rfl

theorem inner_of_mem_inside {t : Text} {c : Component} (h : c ∈ inside t) : c.Inner := by
  obtain ⟨p, hp, hc⟩ := List.mem_filterMap.1 h
  exact inner_of_ofPiece? (Text.not_mem_of_mem_splitOn hp) hc

theorem inside_text {cs : List Component} (h : ∀ c ∈ cs, c.Inner) :
    inside (['/'].intercalate (cs.map text)) = cs := by
  cases cs with
  | nil => rfl
  | cons c cs =>
    have hslash : ∀ p ∈ (c::cs).map text, '/' ∉ p := by
      rw [List.forall_mem_map]
      exact fun d hd => (h d hd).slash
    have hreads : ∀ d ∈ c::cs, (ofPiece? ∘ text) d = some d := fun d hd => (h d hd).reads
    rw [inside, List.splitOn_intercalate '/' hslash (by simp), List.filterMap_map,
      List.filterMap_congr hreads, List.filterMap_some]

theorem components_slash (t : Text) : components ('/'::t) = .root :: inside t := rfl

theorem components_of_head {t : Text} (h : t.head? ≠ some '/') :
    components t = ofPieces (t.splitOn '/') := by
  unfold components
  split
  · exact absurd rfl h
  · rfl

theorem ofPieces_append {ps : List Text} (h : ps ≠ []) (qs : List Text) :
    ofPieces (ps++qs) = ofPieces ps ++ qs.filterMap ofPiece? := by
  obtain ⟨p, ps, rfl⟩ := List.exists_cons_of_ne_nil h
  simp [ofPieces]

/-- What stands behind a slash that does not start a path only adds to it. -/
theorem components_append_slash {a : Text} (ha : a ≠ []) (b : Text) :
    components (a ++ '/' :: b) = components a ++ inside b := by
  obtain ⟨c, a, rfl⟩ := List.exists_cons_of_ne_nil ha
  by_cases hc : c = '/'
  · subst hc
    rw [List.cons_append, components_slash, components_slash, inside_append_slash,
      List.cons_append]
  · have hhead : ∀ t : Text, (c::t).head? ≠ some '/' := by simp [hc]
    rw [components_of_head (hhead a), List.cons_append, components_of_head (hhead _),
      ← List.cons_append, List.splitOn_append_cons_self, ofPieces_append (List.splitOn_ne_nil _ _)]
    rfl

/-- A piece alone is one component, whose text it is. -/
theorem components_piece {p : Text} (hne : p ≠ []) (hp : '/' ∉ p) :
    ∃ c, components p = [c] ∧ c.text = p := by
  have hhead : p.head? ≠ some '/' := fun h => hp (List.mem_of_head? h)
  rw [components_of_head hhead, List.splitOn_eq_singleton hp, ofPieces]
  by_cases hdot : p = ['.']
  · subst hdot
    exact ⟨.here, rfl, rfl⟩
  · obtain ⟨c, hc, ht⟩ := exists_ofPiece? hne hdot
    exact ⟨c, by simp [hdot, hc], ht⟩

/-- A path up to its first slash, and the rest from this slash on. -/
theorem exists_piece (path : Text) :
    ∃ p rest, path = p++rest ∧ '/' ∉ p ∧ (rest = [] ∨ ∃ t, rest = '/'::t) := by
  refine ⟨path.takeWhile (· != '/'), path.dropWhile (· != '/'),
    List.takeWhile_append_dropWhile.symm, ?_, ?_⟩
  · intro h
    simpa using List.mem_takeWhile_imp h
  · have hnot := List.head?_dropWhile_not (· != '/') path
    cases hr : path.dropWhile (· != '/') with
    | nil => exact Or.inl rfl
    | cons x t =>
      rw [hr] at hnot
      exact Or.inr ⟨t, by simpa using hnot⟩

inductive Formed : List Component → Prop
  | nil : Formed []
  | cons {c : Component} {cs : List Component} (hc : components c.text = [c])
      (hcs : ∀ d ∈ cs, d.Inner) : Formed (c::cs)

theorem formed_components (path : Text) : Formed (components path) := by
  obtain ⟨p, rest, rfl, hp, hr⟩ := exists_piece path
  by_cases hne : p = []
  · subst hne
    rcases hr with rfl | ⟨t, rfl⟩
    · exact .nil
    · exact .cons rfl fun _ => inner_of_mem_inside
  · obtain ⟨c, hc, rfl⟩ := components_piece hne hp
    rcases hr with rfl | ⟨t, rfl⟩
    · rw [List.append_nil, hc]
      exact .cons hc (by simp)
    · rw [components_append_slash hne, hc]
      exact .cons hc fun _ => inner_of_mem_inside

theorem components_text {cs : List Component} (h : Formed cs) :
    components (['/'].intercalate (cs.map text)) = cs := by
  cases h with
  | nil => rfl
  | @cons c cs hc hcs =>
    have hne : c.text ≠ [] := by
      intro ht
      rw [ht] at hc
      cases hc
    cases cs with
    | nil => simpa using hc
    | cons d cs =>
      have hjoin : ['/'].intercalate ((c::d::cs).map text) =
          c.text ++ '/' :: ['/'].intercalate ((d::cs).map text) := by
        simp [List.intercalate_cons_cons]
      rw [hjoin, components_append_slash hne, hc, inside_text hcs]
      rfl

theorem components_eq_nil_iff {path : Text} : components path = [] ↔ path = [] := by
  constructor
  · intro h
    obtain ⟨p, rest, rfl, hp, hr⟩ := exists_piece path
    by_cases hne : p = []
    · subst hne
      rcases hr with rfl | ⟨t, rfl⟩
      · rfl
      · cases h
    · obtain ⟨c, hc, -⟩ := components_piece hne hp
      rcases hr with rfl | ⟨t, rfl⟩
      · simp [hc] at h
      · simp [components_append_slash hne, hc] at h
  · rintro rfl
    rfl

theorem below?_eq_some_iff {dir path cs : List Component} :
    below? dir path = some cs ↔ path = dir++cs := by
  induction dir generalizing path with
  | nil => simp [below?]
  | cons d dir ih =>
    cases path with
    | nil => simp [below?]
    | cons c path =>
      by_cases hc : d = c
      · subst hc
        simp [below?, ih]
      · simp [below?, hc, Ne.symm hc]

theorem relative?_eq_some_iff {dir path s : Text} : relative? dir path = some s ↔
    ∃ below, below ≠ [] ∧ components path = components dir++below ∧
      s = ['/'].intercalate (below.map text) := by
  rw [relative?, Option.bind_eq_some_iff]
  simp only [below?_eq_some_iff, Option.ite_none_left_eq_some, List.isEmpty_iff, Option.some_inj]
  constructor
  · rintro ⟨below, hpath, hne, rfl⟩
    exact ⟨below, hne, hpath, rfl⟩
  · rintro ⟨below, hne, hpath, rfl⟩
    exact ⟨below, hpath, hne, rfl⟩

theorem components_append_of_slash {dir : Text} (h : dir.getLast? = some '/') (s : Text) :
    components (dir++s) = components dir++inside s := by
  obtain ⟨front, rfl⟩ : ∃ front, dir = front++['/'] :=
    ⟨dir.dropLast, (List.dropLast_append_getLast? _ h).symm⟩
  rw [List.append_assoc, List.singleton_append]
  by_cases hfront : front = []
  · subst hfront
    rfl
  · rw [components_append_slash hfront, components_append_slash hfront, inside_nil,
      List.append_nil]

theorem join_nil (s : Text) : join [] s = s := by simp [join]

theorem components_join {dir s : Text} (hd : dir ≠ []) (hs : isAbsolute s = false) :
    components (join dir s) = components dir++inside s := by
  have hempty : dir.isEmpty = false := by simpa using hd
  rw [join, hs, hempty, Bool.or_false, if_neg Bool.false_ne_true]
  split
  · exact components_append_of_slash ‹_› s
  · exact components_append_slash hd s

theorem isAbsolute_text {cs : List Component} (h : ∀ c ∈ cs, c.Inner) :
    isAbsolute (['/'].intercalate (cs.map text)) = false := by
  cases cs with
  | nil => rfl
  | cons c cs =>
    have hc := h c List.mem_cons_self
    obtain ⟨x, w, hx⟩ := List.exists_cons_of_ne_nil hc.text_ne_nil
    have hslash : '/' ≠ x := by
      rintro rfl
      exact hc.slash (hx ▸ List.mem_cons_self)
    cases cs <;>
      simp [isAbsolute, Text.startsWith, List.isPrefixOf, List.intercalate_cons_cons, hx, hslash]

/-- What a path is relative to a directory leads from the directory to the path. -/
theorem components_join_of_relative? {dir path s : Text} (h : relative? dir path = some s) :
    components (join dir s) = components path := by
  obtain ⟨below, -, hpath, rfl⟩ := relative?_eq_some_iff.1 h
  have hformed := formed_components path
  rw [hpath] at hformed ⊢
  by_cases hd : dir = []
  · subst hd
    rw [join_nil]
    exact components_text hformed
  · have hinner : ∀ c ∈ below, c.Inner := by
      obtain ⟨d, ds, hds⟩ := List.exists_cons_of_ne_nil (mt components_eq_nil_iff.1 hd)
      rw [hds] at hformed
      cases hformed with
      | cons _ hcs => exact fun c hc => hcs c (List.mem_append_right ds hc)
    rw [components_join hd (isAbsolute_text hinner), inside_text hinner]

theorem inside_piece {p : Text} (hne : p ≠ []) (hdot : p ≠ ['.']) (hp : '/' ∉ p) :
    ∃ c, inside p = [c] ∧ c.text = p := by
  obtain ⟨c, hc, ht⟩ := exists_ofPiece? hne hdot
  exact ⟨c, by simp [inside, List.splitOn_eq_singleton hp, hc], ht⟩

/-- The components of a path that goes on with a piece after a slash, or starts with it. -/
theorem components_append_piece {front p : Text} (rest : Text)
    (hfront : front = [] ∨ front.getLast? = some '/') (hne : p ≠ []) (hdot : p ≠ ['.'])
    (hp : '/' ∉ p) (hr : rest = [] ∨ ∃ t, rest = '/'::t) :
    ∃ c cs, components (front++p++rest) = components front++c::cs ∧ c.text = p ∧
      (rest = [] → cs = []) := by
  have hpiece : ∃ c, components (front++p) = components front++[c] ∧ c.text = p := by
    rcases hfront with rfl | hlast
    · exact components_piece hne hp
    · obtain ⟨c, hc, ht⟩ := inside_piece hne hdot hp
      exact ⟨c, by rw [components_append_of_slash hlast, hc], ht⟩
  obtain ⟨c, hc, ht⟩ := hpiece
  rcases hr with rfl | ⟨t, rfl⟩
  · exact ⟨c, [], by rw [List.append_nil, hc], ht, fun _ => rfl⟩
  · have hne' : front++p ≠ [] := by simp [hne]
    refine ⟨c, inside t, ?_, ht, by simp⟩
    rw [components_append_slash hne', hc, List.append_assoc, List.singleton_append]

theorem relative?_eq_none_iff {dir path : Text} : relative? dir path = none ↔
    ∀ below, components path = components dir++below → below = [] := by
  rw [Option.eq_none_iff_forall_ne_some]
  constructor
  · intro h below hpath
    by_contra hne
    exact h _ (relative?_eq_some_iff.2 ⟨below, hne, hpath, rfl⟩)
  · intro h s hs
    obtain ⟨below, hne, hpath, -⟩ := relative?_eq_some_iff.1 hs
    exact hne (h below hpath)

/-- A path is not below a directory whose last name only starts a name of the path. -/
theorem relative?_eq_none_of_longer_name {front p more : Text} {x : Char}
    (hfront : front = [] ∨ front.getLast? = some '/') (hne : p ≠ []) (hdot : p ≠ ['.'])
    (hp : '/' ∉ p) (hx : x ≠ '/') : relative? (front++p) (front++p++x::more) = none := by
  obtain ⟨m, rest, hmore, hm, hr⟩ := exists_piece (x::more)
  have hmne : m ≠ [] := by
    rintro rfl
    rcases hr with rfl | ⟨t, rfl⟩
    · cases hmore
    · exact hx (List.cons.inj hmore).1
  obtain ⟨c, cs, hc, hct, hcs⟩ :=
    components_append_piece [] hfront hne hdot hp (Or.inl rfl)
  obtain ⟨d, ds, hd, hdt, -⟩ := components_append_piece (p := p++m) rest hfront
    (by simp [hne]) (by simp [List.append_eq_singleton_iff, hne, hmne]) (by simp [hp, hm]) hr
  rw [hcs rfl, List.append_nil] at hc
  rw [relative?_eq_none_iff, hmore, ← List.append_assoc, List.append_assoc front p m, hd, hc]
  intro below h
  -- the two names would be one component, but the longer one is another text
  rw [List.append_assoc, List.append_right_inj, List.singleton_append, List.cons.injEq] at h
  have ht : p++m = p := by rw [← hdt, h.1, hct]
  exact absurd (List.append_right_eq_self.1 ht) hmne

theorem components_respelled (a b : Text) :
    components (a ++ '/' :: '/' :: b) = components (a ++ '/' :: b) ∧
      components (a ++ '/' :: '.' :: '/' :: b) = components (a ++ '/' :: b) := by
  have hslash : inside ('/'::b) = inside b := inside_append_slash [] b
  have hdot : inside ('.' :: '/' :: b) = inside b := inside_append_slash ['.'] b
  by_cases ha : a = []
  · subst ha
    simp only [List.nil_append, components_slash, hslash, hdot, and_self]
  · simp only [components_append_slash ha, hslash, hdot, and_self]

theorem shorten_append (ps : List Text) :
    ∃ void, ps = shorten ps ++ void ∧ ∀ p ∈ void, ofPiece? p = none := by
  let isVoid (p : Text) : Bool := (ofPiece? p).isNone
  refine ⟨(ps.reverse.takeWhile isVoid).reverse, ?_, fun p hp => ?_⟩
  · rw [shorten, ← List.reverse_append, List.takeWhile_append_dropWhile, List.reverse_reverse]
  · simpa [isVoid] using List.mem_takeWhile_imp (List.mem_reverse.1 hp)

theorem filterMap_shorten (ps : List Text) :
    (shorten ps).filterMap ofPiece? = ps.filterMap ofPiece? := by
  obtain ⟨void, hps, hvoid⟩ := shorten_append ps
  conv_rhs => rw [hps, List.filterMap_append, List.filterMap_eq_nil_iff.2 hvoid, List.append_nil]

theorem mem_of_mem_shorten {ps : List Text} {p : Text} (h : p ∈ shorten ps) : p ∈ ps := by
  obtain ⟨void, hps, -⟩ := shorten_append ps
  rw [hps]
  exact List.mem_append_left void h

/-- The last of the pieces that are left stands for a component. -/
theorem filterMap_dropLast_shorten {ps : List Text} (h : shorten ps ≠ []) :
    ∃ c, ps.filterMap ofPiece? = (shorten ps).dropLast.filterMap ofPiece? ++ [c] := by
  have hlast : ¬(ofPiece? ((shorten ps).getLast h)).isNone = true :=
    List.rdropWhile_last_not (fun p => (ofPiece? p).isNone) ps h
  obtain ⟨c, hc⟩ : ∃ c, ofPiece? ((shorten ps).getLast h) = some c := by
    simpa [Option.eq_none_iff_forall_ne_some] using hlast
  refine ⟨c, ?_⟩
  rw [← filterMap_shorten]
  conv_lhs => rw [← List.dropLast_append_getLast h, List.filterMap_append]
  rw [List.filterMap_cons_some hc, List.filterMap_nil]

/-- The components of a path by its pieces, of which an empty one at the start is the root. -/
theorem components_intercalate {first : Text} {more : List Text}
    (h : ∀ q ∈ first::more, '/' ∉ q) (hne : first ≠ [] ∨ more ≠ []) :
    components (['/'].intercalate (first::more)) =
      (if first = [] then [.root] else components first) ++ more.filterMap ofPiece? := by
  cases more with
  | nil =>
    have hfirst : first ≠ [] := by simpa using hne
    rw [if_neg hfirst]
    simp
  | cons p ps =>
    have hinside : inside (['/'].intercalate (p::ps)) = (p::ps).filterMap ofPiece? := by
      rw [inside, List.splitOn_intercalate '/' (List.forall_mem_cons.1 h).2 (List.cons_ne_nil p ps)]
    rw [List.intercalate_cons_cons, List.append_assoc, List.singleton_append]
    by_cases hfirst : first = []
    · rw [if_pos hfirst, hfirst, List.nil_append, components_slash, hinside]
      rfl
    · rw [if_neg hfirst, components_append_slash hfirst, hinside]

/-- The directory of a path has all of the path's components but the last. -/
theorem components_parent? {path above : Text} (h : parent? path = some above) :
    ∃ c, components path = components above++[c] := by
  have hslash : ∀ q ∈ path.splitOn '/', '/' ∉ q := fun q => Text.not_mem_of_mem_splitOn
  have hpath : path = ['/'].intercalate (path.splitOn '/') := (List.intercalate_splitOn '/').symm
  unfold parent? at h
  cases hpieces : path.splitOn '/' with
  | nil => exact absurd hpieces (List.splitOn_ne_nil '/' path)
  | cons first more =>
    rw [hpieces] at h hslash hpath
    rw [List.forall_mem_cons] at hslash
    simp only at h
    split at h
    · rename_i hvoid
      by_cases hfirst : first = []
      · rw [if_pos hfirst] at h
        cases h
      · rw [if_neg hfirst] at h
        obtain rfl := Option.some.inj h
        obtain ⟨c, hc, -⟩ := components_piece hfirst hslash.1
        refine ⟨c, ?_⟩
        rw [hpath, components_intercalate (List.forall_mem_cons.2 hslash) (Or.inl hfirst),
          if_neg hfirst, hc, ← filterMap_shorten, hvoid]
        rfl
    · rename_i p ps hnamed
      have hmore : more ≠ [] := by
        rintro rfl
        cases hnamed
      have hkept : shorten more ≠ [] := by simp [hnamed]
      obtain ⟨c, hc⟩ := filterMap_dropLast_shorten hkept
      refine ⟨c, ?_⟩
      rw [hpath, components_intercalate (List.forall_mem_cons.2 hslash) (Or.inr hmore), hc,
        hnamed, ← List.append_assoc, List.append_left_inj, ← filterMap_shorten]
      split at h
      · rename_i habove
        obtain rfl := Option.some.inj h
        rw [habove]
        split <;> simp [components_slash, inside_nil]
      · rename_i habove
        obtain rfl := Option.some.inj h
        refine (components_intercalate (List.forall_mem_cons.2 ⟨hslash.1, ?_⟩) (Or.inr habove)).symm
        intro q hq
        have hq := List.dropLast_subset _ (mem_of_mem_shorten hq)
        exact hslash.2 q (mem_of_mem_shorten (hnamed ▸ hq))

/-- A path has a text relative to a directory exactly if it has components below it, which are
then joined by slashes, and this text leads from the directory to the path again. Only the
components of the two matter, which repeated slashes and single dots behind a slash leave as
they are. A directory that only starts the text of the path has no path below it, and so has
one whose last name goes on in the path. -/
theorem relative_inverts_join (dir path : Text) :
    (∀ s, relative? dir path = some s ↔ ∃ below, below ≠ [] ∧
      components path = components dir++below ∧
      s = ['/'].intercalate (below.map Component.text)) ∧
    (∀ s, relative? dir path = some s → components (join dir s) = components path) ∧
    (∀ dir' path', components dir' = components dir → components path' = components path →
      relative? dir' path' = relative? dir path) ∧
    (∀ a b : Text, components (a ++ "//" ++ b) = components (a ++ "/" ++ b) ∧
      components (a ++ "/./" ++ b) = components (a ++ "/" ++ b) ∧
      (a ≠ [] → components (a ++ "/") = components a)) ∧
    (dir <+: path → ¬components dir <+: components path → relative? dir path = none) ∧
    ∀ front name more : Text, ∀ x : Char, (front = [] ∨ front.getLast? = some '/') →
      name ≠ [] → name ≠ ['.'] → '/' ∉ name → x ≠ '/' →
      relative? (front++name) (front++name++x::more) = none := by
  refine ⟨fun s => relative?_eq_some_iff, fun s => components_join_of_relative?, ?_, ?_, ?_, ?_⟩
  · intro dir' path' hdir hpath
    rw [relative?, relative?, hdir, hpath]
  · intro a b
    have h := components_respelled a b
    refine ⟨by simpa using h.1, by simpa using h.2, fun ha => ?_⟩
    exact (components_append_slash ha []).trans (List.append_nil _)
  · intro _ h
    refine relative?_eq_none_iff.2 fun below hpath => ?_
    exact absurd ⟨below, hpath.symm⟩ h
  · intro front name more x hfront hne hdot hp hx
    exact relative?_eq_none_of_longer_name hfront hne hdot hp hx

/-- A directory under two spellings, and others whose names are longer. -/
theorem relative_inverts_join_repository :
    let dir : Text := "/repo/."
    let path : Text := "//repo/docs/./../flow.md"
    let s : Text := "docs/../flow.md"
    relative? dir path = some s ∧ components (join dir s) = components path ∧
      components "/repo" = components dir ∧ relative? "/repo" path = some s ∧
      ¬components "/repo" <+: components "/repository/a" ∧
      relative? "/repo" "/repository/a" = none ∧ relative? "repo" "repository/a" = none := by
  intro dir path s
  obtain ⟨hsome, hjoin, hrespelled, -⟩ := relative_inverts_join dir path
  have hs : relative? dir path = some s := by
    rw [hsome]
    exact ⟨[.name "docs", .up, .name "flow.md"], by decide, by decide, by decide⟩
  have hdir : components "/repo" = components dir := by decide
  have htext : ("/repo" : Text) <+: "/repository/a" := by decide
  have hnot : ¬components "/repo" <+: components "/repository/a" := by decide
  obtain ⟨-, -, -, -, hnone, hlonger⟩ := relative_inverts_join "/repo" "/repository/a"
  exact ⟨hs, hjoin s hs, hdir, (hrespelled "/repo" path hdir rfl).trans hs, hnot, hnone htext hnot,
    hlonger [] "repo" "itory/a" 's' (Or.inl rfl) (by decide) (by decide) (by decide)
      (by decide)⟩

end Path

end FlowchartMerge
