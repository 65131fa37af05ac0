import FlowchartMerge.Proofs.Text.Pattern
import FlowchartMerge.Proofs.Text.Strip
import FlowchartMerge.Proofs.Toml.Distinct
import FlowchartMerge.Proofs.Toml.Spelling

/-!
# Documents with one table

Lines that give a value to a key, then the header of a table, then such lines again. Each
line adds its entry to the table that is being filled, so a document of this form whose keys
are all different holds exactly the entries that are written in it, in their order.
-/

set_option autoImplicit false

namespace FlowchartMerge.Toml

structure IsBareKey (k : Text) : Prop where
  ne_nil : k ≠ []
  all : ∀ c ∈ k, isBareChar c = true

instance (k : Text) : Decidable (IsBareKey k) :=
  decidable_of_iff (k ≠ [] ∧ k.all isBareChar = true)
    ⟨fun h => ⟨h.1, List.all_eq_true.1 h.2⟩, fun h => ⟨h.ne_nil, List.all_eq_true.2 h.all⟩⟩

inductive Writes : Text → Value → Prop
  | string {u t : Text} (h : Spells u t) : Writes ('"' :: u ++ ['"']) (.string t)
  | boolean (b : Bool) : Writes (if b then "true" else "false") (.boolean b)

structure Assignment where
  key : Text
  value : Value
  written : Text
  bare : IsBareKey key
  writes : Writes written value

namespace Assignment

def entry (a : Assignment) : Text × Value := (a.key, a.value)

def line (a : Assignment) : Text := a.key ++ " = " ++ a.written ++ "\n"

end Assignment

def sheet (above : List Assignment) (name : Text) (inside : List Assignment) : Text :=
  above.flatMap Assignment.line ++ ("[" ++ name ++ "]\n" ++ inside.flatMap Assignment.line)

section

variable {k rest : Text}

theorem skipPadding_of_head (h : ∀ c ∈ rest.head?, Text.isPadding c = false) :
    skipPadding rest = rest := by
  cases rest with
  | nil => rfl
  | cons c rest => rw [skipPadding, List.dropWhile_cons_of_neg (by simp [h c rfl])]

theorem ne_of_isBareChar {c d : Char} (hc : isBareChar c = true) (hd : isBareChar d = false) :
    c ≠ d := by
  rintro rfl
  rw [hc] at hd
  cases hd

theorem isPadding_of_isBareChar {c : Char} (hc : isBareChar c = true) :
    Text.isPadding c = false := by
  simp [Text.isPadding, ne_of_isBareChar hc (d := ' ') (by decide),
    ne_of_isBareChar hc (d := '\t') (by decide)]

theorem IsBareKey.exists_cons (hk : IsBareKey k) : ∃ c w, k = c::w ∧ isBareChar c = true := by
  obtain ⟨c, w, rfl⟩ := List.exists_cons_of_ne_nil hk.ne_nil
  exact ⟨c, w, rfl, hk.all c List.mem_cons_self⟩

theorem keyPart?_bare (hk : IsBareKey k) (hr : ∀ c ∈ rest.head?, isBareChar c = false) :
    keyPart? (k++rest) = some (k, rest) := by
  have htake := Text.takeWhile_append_of_stop hk.all hr
  have hdrop := Text.dropWhile_append_of_stop hk.all hr
  obtain ⟨c, w, rfl, hc⟩ := hk.exists_cons
  unfold keyPart?
  split
  · rename_i h
    cases (List.cons.inj h).1
    exact absurd hc (by decide)
  · rename_i h
    cases (List.cons.inj h).1
    exact absurd hc (by decide)
  · rw [htake, hdrop]
    rfl

theorem skipPadding_bare (hk : IsBareKey k) (rest : Text) : skipPadding (k++rest) = k++rest := by
  obtain ⟨c, w, rfl, hc⟩ := hk.exists_cons
  apply skipPadding_of_head
  rintro _ ⟨⟩
  exact isPadding_of_isBareChar hc

/-- A bare key is read up to what cannot be part of it. -/
theorem key?_bare (hk : IsBareKey k) (hr : ∀ c ∈ rest.head?, isBareChar c = false)
    (hdot : ∀ c ∈ (skipPadding rest).head?, c ≠ '.') :
    key? (k++rest) = some ([k], skipPadding rest) := by
  change keyParts? (78 + 1) (k++rest) = _
  rw [keyParts?, skipPadding_bare hk, keyPart?_bare hk hr, Option.bind_some]
  split
  · rename_i h
    rw [h] at hdot
    exact absurd rfl (hdot '.' rfl)
  · rfl

end

section

variable {u : Text} {v : Value}

theorem Writes.skipPadding_append (h : Writes u v) (rest : Text) :
    skipPadding (u++rest) = u++rest := by
  apply skipPadding_of_head
  cases h with
  | string _ =>
    rintro _ ⟨⟩
    decide
  | boolean b =>
    cases b <;> rintro _ ⟨⟩ <;> decide

theorem Writes.value?_append (h : Writes u v) (rest : Text) :
    value? maxDepth (u ++ '\n' :: rest) = some (v, '\n'::rest) := by
  cases h with
  | @string u t h =>
    have hstring := h.string?_append ('\n'::rest) (by simp)
    have hu : '"' :: u ++ ['"'] ++ '\n' :: rest = '"' :: u ++ '"' :: '\n' :: rest := by simp
    rw [hu]
    change (string? ('"' :: u ++ '"' :: '\n' :: rest)).map _ = _
    rw [hstring]
    rfl
  | boolean b =>
    cases b
    · rfl
    · rfl

end

theorem lineRest?_break (rest : Text) : lineRest? ('\n'::rest) = some rest := rfl

/-- A line that starts with a bare key is no header, comment or empty line. -/
theorem Progress.readLine_bare (s : Progress) {c : Char} (hc : isBareChar c = true) (t : Text) :
    s.readLine (c::t) = s.readPair (c::t) := by
  rw [readLine.eq_def]
  split
  case h_6 => rfl
  all_goals
    rename_i h
    cases (List.cons.inj h).1
    exact absurd hc (by decide)

theorem Progress.readLines_succ (s : Progress) (n : Nat) {t : Text} (hne : t ≠ [])
    (ht : skipPadding t = t) :
    readLines (n + 1) s t = (s.readLine t).bind fun p => readLines n p.1 p.2 := by
  rw [readLines, ht]
  split
  · exact absurd rfl hne
  · rfl

namespace Assignment

theorem line_append (a : Assignment) (rest : Text) :
    a.line++rest = a.key ++ ' ' :: '=' :: ' ' :: (a.written ++ '\n' :: rest) := by
  simp [line]

theorem pair?_line (a : Assignment) (rest : Text) :
    pair? (value? maxDepth) (a.line++rest) = some (([a.key], a.value), '\n'::rest) := by
  have hkey : key? (a.line++rest) =
      some ([a.key], '=' :: ' ' :: (a.written ++ '\n' :: rest)) := by
    rw [line_append]
    exact key?_bare a.bare (by simp [isBareChar]) (by simp [skipPadding, Text.isPadding])
  have hskip : skipPadding (' ' :: (a.written ++ '\n' :: rest)) = a.written ++ '\n' :: rest :=
    a.writes.skipPadding_append _
  rw [pair?, hkey, Option.bind_some]
  simp only
  rw [hskip, a.writes.value?_append]
  rfl

/-- A line assigns its value to its key, and nothing of it is left. -/
theorem readLine_line (a : Assignment) (s : Progress) (rest : Text) :
    s.readLine (a.line++rest) = (s.assign [a.key] a.value).map fun s => (s, rest) := by
  have hpair : s.readPair (a.line++rest) = (s.assign [a.key] a.value).map fun s => (s, rest) := by
    rw [Progress.readPair, pair?_line]
    simp only [bind, Option.bind_some, lineRest?_break]
    rw [Option.map_eq_bind]
    rfl
  obtain ⟨c, w, hkey, hc⟩ := a.bare.exists_cons
  rw [← hpair, line_append, hkey, List.cons_append]
  exact s.readLine_bare hc _

theorem readLines_line (a : Assignment) (s : Progress) (n : Nat) (rest : Text) :
    Progress.readLines (n + 1) s (a.line++rest) =
      (s.assign [a.key] a.value).bind fun s => Progress.readLines n s rest := by
  have hskip : skipPadding (a.line++rest) = a.line++rest := by
    rw [line_append]
    exact skipPadding_bare a.bare _
  rw [s.readLines_succ n (by simp [line_append]) hskip, readLine_line, Option.bind_map]
  rfl

end Assignment

def Fills (state : Entries → Progress) : Prop :=
  ∀ (es : Entries) (k : Text) (v : Value), Entries.get? es k = none →
    (state es).assign [k] v = some (state (es++[(k, v)]))

/-- Lines with new keys add their entries to the table that is being filled. -/
theorem Fills.readLines_append {state : Entries → Progress} (hs : Fills state) (es : Entries)
    (as : List Assignment)
    (hn : (es.map Prod.fst ++ as.map Assignment.key).Nodup) (n : Nat) (rest : Text) :
    Progress.readLines (n + as.length) (state es) (as.flatMap Assignment.line ++ rest) =
      Progress.readLines n (state (es++as.map Assignment.entry)) rest := by
  induction as generalizing es with
  | nil => simp
  | cons a as ih =>
    have hnew : Entries.get? es a.key = none := by
      rw [Entries.get?_eq_none_iff]
      intro hm
      exact List.disjoint_of_nodup_append hn hm List.mem_cons_self
    have hn' : ((es++[a.entry]).map Prod.fst ++ as.map Assignment.key).Nodup := by
      simpa [Assignment.entry] using hn
    rw [List.flatMap_cons, List.append_assoc, List.length_cons, ← Nat.add_assoc,
      a.readLines_line, hs es a.key a.value hnew, Option.bind_some]
    refine (ih _ hn').trans ?_
    rw [List.map_cons, List.append_assoc, List.singleton_append]

theorem fills_root : Fills fun es => ⟨es, []⟩ := by
  intro es k v hk
  simp [Progress.assign, Entries.assign, Entries.within, Entries.insertNew, hk]

namespace Entries

variable {above : Entries} {name : Text} {v : Value}

theorem get?_append_new (h : name ∉ above.map Prod.fst) :
    get? (above++[(name, v)]) name = some v := by
  have hnone := get?_eq_none_iff.2 h
  rw [get?, Option.map_eq_none_iff] at hnone
  simp [get?, List.find?_append, hnone]

theorem replace_append_new (h : name ∉ above.map Prod.fst) (w : Value) :
    replace (above++[(name, v)]) name w = above++[(name, w)] := by
  have hsame : above.map (fun e => if e.1 = name then (name, w) else e) = above := by
    refine (List.map_congr_left fun e he => if_neg ?_).trans (List.map_id above)
    rintro rfl
    exact h (List.mem_map_of_mem he)
  simp [replace, hsame]

end Entries

/-- A table that a header has opened is filled where it stands, behind the root's entries. -/
theorem fills_table {above : Entries} {name : Text} (h : name ∉ above.map Prod.fst) :
    Fills fun es => ⟨above++[(name, .table .header es)], [name]⟩ := by
  intro es k v hk
  simp [Progress.assign, Entries.assign, Entries.within, Entries.insertNew, hk,
    Entries.get?_append_new h, Entries.replace_append_new h]

/-- A header with a new name opens a table that has no entries so far. -/
theorem readLines_header {above : Entries} {name : Text} (hname : IsBareKey name)
    (h : name ∉ above.map Prod.fst) (n : Nat) (rest : Text) :
    Progress.readLines (n + 1) ⟨above, []⟩ ("[" ++ name ++ "]\n" ++ rest) =
      Progress.readLines n ⟨above++[(name, .table .header [])], [name]⟩ rest := by
  have ht : "[" ++ name ++ "]\n" ++ rest = '[' :: (name ++ ']' :: '\n' :: rest) := by simp
  have hkey : key? (name ++ ']' :: '\n' :: rest) = some ([name], ']' :: '\n' :: rest) :=
    key?_bare hname (by simp [isBareChar]) (by simp [skipPadding, Text.isPadding])
  have hclosing : Text.after? "]" (']' :: '\n' :: rest) = some ('\n'::rest) :=
    Text.after?_eq_some_iff.2 rfl
  have hopen : (⟨above, []⟩ : Progress).header Entries.openTable [name] =
      some ⟨above++[(name, .table .header [])], [name]⟩ := by
    simp [Progress.header, Entries.within, Entries.openTable, Entries.get?_eq_none_iff.2 h]
  have hline : (⟨above, []⟩ : Progress).readLine ('[' :: (name ++ ']' :: '\n' :: rest)) =
      some (⟨above++[(name, .table .header [])], [name]⟩, rest) := by
    have hone : ∀ r, name ++ ']' :: '\n' :: rest = '[' :: r → False := by
      obtain ⟨c, w, rfl, hc⟩ := hname.exists_cons
      intro r hr
      cases (List.cons.inj hr).1
      exact absurd hc (by decide)
    rw [Progress.readLine]
    · simp only [Progress.readHeader, bind, hkey, hclosing, hopen, lineRest?_break,
        Option.bind_some]
      rfl
    · exact hone
  rw [ht, Progress.readLines_succ _ _ (List.cons_ne_nil _ _) rfl, hline]
  rfl

theorem length_le_length_lines (as : List Assignment) :
    as.length ≤ (as.flatMap Assignment.line).length := by
  induction as with
  | nil => exact Nat.le_refl 0
  | cons a as ih =>
    have hline : 0 < a.line.length := List.length_pos_of_ne_nil (by simp [Assignment.line])
    rw [List.flatMap_cons, List.length_cons, List.length_append]
    omega

section

variable (above : List Assignment) (name : Text) (inside : List Assignment)

theorem after?_mark_sheet : Text.after? ['\uFEFF'] (sheet above name inside) = none := by
  obtain ⟨c, t, ht, hc⟩ : ∃ c t, sheet above name inside = c::t ∧ '\uFEFF' ≠ c := by
    cases above with
    | nil => exact ⟨'[', name ++ "]\n" ++ inside.flatMap Assignment.line, by simp [sheet], by decide⟩
    | cons a as =>
      obtain ⟨c, w, hkey, hc⟩ := a.bare.exists_cons
      refine ⟨c, w ++ " = " ++ a.written ++ "\n" ++ as.flatMap Assignment.line ++ "[" ++ name ++
        "]\n" ++ inside.flatMap Assignment.line, ?_, (ne_of_isBareChar hc (by decide)).symm⟩
      simp [sheet, Assignment.line, hkey]
  rw [ht]
  exact Text.after?_eq_none (by simpa using hc) (List.cons_ne_nil _ _)

/-- Every line has characters, so the steps for a document suffice for its lines and its end. -/
theorem lines_lt_length_sheet :
    above.length + inside.length + 1 < (sheet above name inside).length := by
  have ha := length_le_length_lines above
  have hi := length_le_length_lines inside
  have hlen : (sheet above name inside).length = (above.flatMap Assignment.line).length +
      name.length + 3 + (inside.flatMap Assignment.line).length := by
    simp [sheet]
    omega
  omega

end

/-- A document of this form holds the entries that are written in it. -/
theorem document?_sheet {above inside : List Assignment} {name : Text} (hname : IsBareKey name)
    (habove : (above.map Assignment.key).Nodup) (h : name ∉ above.map Assignment.key)
    (hinside : (inside.map Assignment.key).Nodup) :
    document? (sheet above name inside) =
      some (above.map Assignment.entry ++
        [(name, .table .header (inside.map Assignment.entry))]) := by
  have hkeys : (above.map Assignment.entry).map Prod.fst = above.map Assignment.key :=
    List.map_map
  have hfills := fills_table (hkeys.symm ▸ h)
  obtain ⟨n, hn⟩ : ∃ n, (sheet above name inside).length + 1 =
      n + 1 + inside.length + 1 + above.length := by
    have hlt := lines_lt_length_sheet above name inside
    exact ⟨(sheet above name inside).length - inside.length - 1 - above.length, by omega⟩
  have hread : Progress.readLines (n + 1 + inside.length + 1 + above.length) .start
      (sheet above name inside) =
        some ⟨above.map Assignment.entry ++
          [(name, .table .header (inside.map Assignment.entry))], [name]⟩ := by
    calc
      _ = Progress.readLines (n + 1 + inside.length + 1) ⟨above.map Assignment.entry, []⟩
          ("[" ++ name ++ "]\n" ++ inside.flatMap Assignment.line) :=
        fills_root.readLines_append [] above habove _ _
      _ = Progress.readLines (n + 1 + inside.length)
          ⟨above.map Assignment.entry ++ [(name, .table .header [])], [name]⟩
          (inside.flatMap Assignment.line ++ []) := by
        rw [readLines_header hname (hkeys.symm ▸ h), List.append_nil]
      _ = _ := hfills.readLines_append [] inside hinside (n + 1) []
  rw [document?, after?_mark_sheet, Option.getD_none, hn, hread]
  rfl

theorem nodup_keys_insert {before after : List Assignment} {a : Assignment}
    (hn : ((before++after).map Assignment.key).Nodup)
    (ha : a.key ∉ (before++after).map Assignment.key) :
    ((before ++ a :: after).map Assignment.key).Nodup := by
  rw [List.map_append, List.map_cons, List.nodup_middle, ← List.map_append]
  exact List.nodup_cons.2 ⟨ha, hn⟩

end FlowchartMerge.Toml
