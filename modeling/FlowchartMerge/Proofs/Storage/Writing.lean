import FlowchartMerge.Proofs.Fallible
import FlowchartMerge.Storage.Folder

/-!
# What writing a file changes

A file that is written under a path is read back under this path, and every other file is
as it was. A path leads the same way before and after, since writing makes no directory of
a file and no file of a directory that the path leads through.
-/

set_option autoImplicit false

namespace FlowchartMerge

namespace Folder

variable {f : Folder} {names : List Text} {content : ByteArray}

theorem get?_withFile (f : Folder) (names : List Text) (content : ByteArray) (n : List Text) :
    (f.withFile names content).get? n = if n = names then some content else f.get? n := by
  unfold withFile get?
  induction f.files with
  | nil =>
    by_cases hn : n = names
    · simp [put, hn]
    · simp [put, hn, Ne.symm hn]
  | cons e es ih =>
    rw [put]
    by_cases he : e.1 = names
    · rw [if_pos he, List.find?_cons, List.find?_cons]
      by_cases hn : n = names
      · simp [hn]
      · simp [hn, he, beq_false_of_ne (Ne.symm hn)]
    · rw [if_neg he, List.find?_cons, List.find?_cons]
      by_cases hen : e.1 = n
      · subst hen
        simp [he]
      · rw [beq_false_of_ne hen]
        exact ih

theorem mem_put (names : List Text) (content : ByteArray) {e : List Text × ByteArray}
    {es : List (List Text × ByteArray)} (h : e ∈ es) : ∃ e' ∈ put names content es, e'.1 = e.1 := by
  induction es with
  | nil => cases h
  | cons d es ih =>
    rw [put]
    by_cases hd : d.1 = names
    · rw [if_pos hd]
      rcases List.mem_cons.1 h with rfl | h
      · exact ⟨_, List.mem_cons_self, hd.symm⟩
      · exact ⟨e, List.mem_cons_of_mem _ h, rfl⟩
    · rw [if_neg hd]
      rcases List.mem_cons.1 h with rfl | h
      · exact ⟨e, List.mem_cons_self, rfl⟩
      · obtain ⟨e', he', hn⟩ := ih h
        exact ⟨e', List.mem_cons_of_mem _ he', hn⟩

theorem hasDirectory_withFile {n : List Text} (h : f.hasDirectory n = true) :
    (f.withFile names content).hasDirectory n = true := by
  rw [hasDirectory, Bool.or_eq_true, List.any_eq_true] at h ⊢
  refine h.imp_right fun ⟨e, he, hbelow⟩ => ?_
  obtain ⟨e', he', hn⟩ := mem_put names content he
  exact ⟨e', he', hn ▸ hbelow⟩

inductive Holds (names : List Text) : Place → Prop
  | file (content : ByteArray) : Holds names (.file names content)
  | free : Holds names (.free names)

theorem Holds.unique {place : Place} {m n : List Text} (hm : Holds m place) (hn : Holds n place) :
    m = n := by
  cases hm <;> cases hn <;> rfl

theorem locate_cases (f : Folder) (n : List Text) :
    (f.locate n = .directory n ∧ f.get? n = none ∧ f.hasDirectory n = true) ∨
      Holds n (f.locate n) := by
  rw [locate]
  cases f.get? n with
  | some c => exact Or.inr (.file c)
  | none =>
    cases f.hasDirectory n with
    | true => exact Or.inl ⟨rfl, rfl, rfl⟩
    | false => exact Or.inr .free

theorem locate_withFile_self (f : Folder) (names : List Text) (content : ByteArray) :
    (f.withFile names content).locate names = .file names content := by
  rw [locate, get?_withFile, if_pos rfl]

/-- A directory that is not the written file is still one. -/
theorem locate_withFile_directory {n : List Text} (hne : n ≠ names) (hnone : f.get? n = none)
    (hdir : f.hasDirectory n = true) : (f.withFile names content).locate n = .directory n := by
  rw [locate, get?_withFile, if_neg hne, hnone, hasDirectory_withFile hdir]
  rfl

/-- A step along a path stays where the folder has no part in it, or looks some names up. -/
theorem step_cases {place place' : Place} {piece : Text} (h : f.step place piece = .ok place') :
    (∃ n, place' = f.locate n ∧ ∀ g : Folder, g.step place piece = .ok (g.locate n)) ∨
      (∃ n, place' = .directory n) ∧ ∀ g : Folder, g.step place piece = .ok place' := by
  cases place with
  | file n c => cases h
  | free n => cases h
  | directory ns =>
    simp only [step] at h ⊢
    by_cases hsame : piece = [] ∨ piece = ['.']
    · rw [if_pos hsame] at h
      cases h
      exact Or.inr ⟨⟨ns, rfl⟩, fun g => if_pos hsame⟩
    by_cases hup : piece = ['.', '.']
    · rw [if_neg hsame, if_pos hup] at h
      cases h
      exact Or.inr ⟨⟨_, rfl⟩, fun g => by rw [if_neg hsame, if_pos hup]⟩
    by_cases hlong : maxNameBytes < (bytesOfText piece).size
    · rw [if_neg hsame, if_neg hup, if_pos hlong] at h
      cases h
    · rw [if_neg hsame, if_neg hup, if_neg hlong] at h
      cases h
      exact Or.inl ⟨ns++[piece], rfl, fun g => by rw [if_neg hsame, if_neg hup, if_neg hlong]⟩

theorem not_step_of_holds {place place' : Place} {n : List Text} {piece : Text}
    (hp : Holds n place) : f.step place piece ≠ .ok place' := by
  cases hp <;> rintro ⟨⟩

/-- Pieces that lead to where a file may be written lead to the file when it is written. -/
theorem foldlM_step_withFile (content : ByteArray) {pieces : List Text} {place place' : Place}
    (hp : ∀ n, ¬Holds n place) (hp' : Holds names place')
    (h : pieces.foldlM f.step place = .ok place') :
    Holds names (f.locate names) ∧
      pieces.foldlM (f.withFile names content).step place = .ok (.file names content) := by
  induction pieces generalizing place with
  | nil =>
    cases h
    exact absurd hp' (hp names)
  | cons piece pieces ih =>
    rw [List.foldlM_cons] at h ⊢
    obtain ⟨place₁, hstep, h⟩ := bind_eq_ok_iff.1 h
    rcases step_cases hstep with ⟨n, rfl, hall⟩ | ⟨hp₁, hall⟩
    · rcases locate_cases f n with ⟨hn, hnone, hdir⟩ | hn
      · rw [hn] at h
        obtain ⟨hnames, hrest⟩ := ih (by rintro m ⟨⟩) h
        have hne : n ≠ names := by
          rintro rfl
          rw [hn] at hnames
          cases hnames
        refine ⟨hnames, bind_eq_ok_iff.2 ⟨_, hall _, ?_⟩⟩
        rw [locate_withFile_directory hne hnone hdir]
        exact hrest
      · -- nothing can follow a file or a free name
        cases pieces with
        | nil =>
          cases h
          obtain rfl := hp'.unique hn
          refine ⟨hn, bind_eq_ok_iff.2 ⟨_, hall _, ?_⟩⟩
          rw [locate_withFile_self]
          rfl
        | cons piece' pieces =>
          rw [List.foldlM_cons] at h
          obtain ⟨place₂, hstep', -⟩ := bind_eq_ok_iff.1 h
          exact absurd hstep' (not_step_of_holds hn)
    · obtain ⟨n, rfl⟩ := hp₁
      obtain ⟨hnames, hrest⟩ := ih (by rintro m ⟨⟩) h
      exact ⟨hnames, bind_eq_ok_iff.2 ⟨_, hall _, hrest⟩⟩

theorem follow_withFile (content : ByteArray) {path : Text} {place : Place}
    (hp : Holds names place) (h : f.follow path = .ok place) :
    (f.withFile names content).follow path = .ok (.file names content) := by
  rw [follow, walk] at h ⊢
  split at h
  · cases h
  · refine (foldlM_step_withFile content ?_ hp h).2
    rintro n ⟨⟩

theorem holds_of_target {path : Text} (h : f.target path = .ok names) :
    ∃ place, f.follow path = .ok place ∧ Holds names place := by
  rw [target] at h
  split at h
  · obtain ⟨place, -, h⟩ := bind_eq_ok_iff.1 h
    cases h
  · obtain ⟨place, hplace, h⟩ := bind_eq_ok_iff.1 h
    refine ⟨place, hplace, ?_⟩
    split at h <;> cases h
    · exact .file _
    · exact .free

/-- What has been saved is read under its path, and every other file is as it was. -/
structure Saved (f : Folder) (path : Text) (content : ByteArray) (g : Folder) : Prop where
  read : g.read path = .ok content
  home : g.home = f.home
  others : ∃ names, f.target path = .ok names ∧ ∀ n, n ≠ names → g.get? n = f.get? n

/-- A write that succeeds has saved its content, wherever its path leads. -/
theorem saved_of_write {path : Text} {g : Folder} (h : f.write path content = .ok g) :
    f.Saved path content g := by
  obtain ⟨names, ht, rfl⟩ := map_eq_ok_iff.1 h
  obtain ⟨place, hplace, hp⟩ := holds_of_target ht
  refine ⟨?_, rfl, names, ht, fun n hn => ?_⟩
  · rw [read, follow_withFile content hp hplace]
    rfl
  · rw [get?_withFile, if_neg hn]

end Folder

end FlowchartMerge
