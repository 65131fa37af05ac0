import FlowchartMerge.Text.Blank

/-!
# Texts and their lines

A text is a list of characters, so that everything said about it is said about
lists. A line ends at a line feed, one carriage return before the line feed
belongs to the line's end, and an empty rest after the last line feed is no line.
-/

set_option autoImplicit false

namespace FlowchartMerge

abbrev Text := List Char

instance : Coe String Text := ⟨String.toList⟩

namespace Text

def after? (start t : Text) : Option Text :=
  if start.isPrefixOf t then some (t.drop start.length) else none

theorem after?_eq_some_iff {start t rest : Text} :
    after? start t = some rest ↔ t = start++rest := by
  unfold after?
  split
  · rename_i h
    obtain ⟨r, rfl⟩ := List.isPrefixOf_iff_prefix.1 h
    simp [eq_comm]
  · rename_i h
    refine ⟨by simp, fun ht => absurd ?_ h⟩
    exact List.isPrefixOf_iff_prefix.2 ⟨rest, ht.symm⟩

theorem after?_isSome_iff {start t : Text} : (after? start t).isSome = true ↔ start <+: t := by
  rw [Option.isSome_iff_exists]
  constructor
  · rintro ⟨rest, h⟩
    exact ⟨rest, (after?_eq_some_iff.1 h).symm⟩
  · rintro ⟨rest, h⟩
    exact ⟨rest, after?_eq_some_iff.2 h.symm⟩

def cut? (pat : Text) : Text → Option (Text × Text)
  | [] => (after? pat []).map fun rest => ([], rest)
  | c::t =>
    match after? pat (c::t) with
    | some rest => some ([], rest)
    | none => (cut? pat t).map fun p => (c::p.1, p.2)

theorem eq_of_cut?_eq_some {pat t : Text} {p : Text × Text} (h : cut? pat t = some p) :
    t = p.1++pat++p.2 := by
  induction t generalizing p with
  | nil =>
    obtain ⟨rest, hr, rfl⟩ := Option.map_eq_some_iff.1 h
    simpa using after?_eq_some_iff.1 hr
  | cons c t ih =>
    rw [cut?] at h
    split at h
    · rename_i rest hr
      cases h
      simpa using after?_eq_some_iff.1 hr
    · obtain ⟨q, hq, rfl⟩ := Option.map_eq_some_iff.1 h
      simpa using ih hq

def startsWith (t start : Text) : Bool := start.isPrefixOf t

def contains (t pat : Text) : Bool := (cut? pat t).isSome

theorem contains_iff_infix {t pat : Text} : contains t pat = true ↔ pat <:+: t := by
  unfold contains
  induction t with
  | nil => rw [cut?, Option.isSome_map, after?_isSome_iff, List.prefix_nil, List.infix_nil]
  | cons c t ih =>
    rw [cut?, List.infix_cons_iff, ← after?_isSome_iff, ← ih]
    split <;> rename_i h <;> simp [h]

def stripEnd (p : Char → Bool) (t : Text) : Text := (t.reverse.dropWhile p).reverse

def strip (p : Char → Bool) (t : Text) : Text := stripEnd p (t.dropWhile p)

def trim (t : Text) : Text := strip isBlank t

def joinLines (ls : List Text) : Text := ['\n'].intercalate ls

def dropReturn (t : Text) : Text :=
  if t.getLast? = some '\r' then t.dropLast else t

def linesOfPieces : List Text → List Text
  | [] => []
  | [p] => if p.isEmpty then [] else [p]
  | p::q::ps => dropReturn p :: linesOfPieces (q::ps)

def lines (t : Text) : List Text := linesOfPieces (t.splitOn '\n')

def isPadding (c : Char) : Bool := c == ' ' || c == '\t'

def lineEnd? : Text → Option (Text × Text)
  | '\n' :: t => some (['\n'], t)
  | '\r' :: '\n' :: t => some (['\r', '\n'], t)
  | _ => none

theorem eq_of_lineEnd? {t : Text} {p : Text × Text} (h : lineEnd? t = some p) :
    t = p.1++p.2 := by
  unfold lineEnd? at h
  split at h <;> simp_all <;> subst h <;> rfl

end Text

end FlowchartMerge
