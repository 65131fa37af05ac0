import FlowchartMerge.Proofs.Fallible
import FlowchartMerge.Proofs.Path
import FlowchartMerge.Proofs.Text.Encoding
import FlowchartMerge.Storage.History

/-!
# Looking up an earlier revision

The earlier content of a file is what git shows for a revision and the path that leads from
the root of the file's repository to the file. Where there is none, the first of the
questions that is not answered decides the error.
-/

set_option autoImplicit false

namespace FlowchartMerge

namespace Git

variable {g : Git} {revision path t : Text} {a : Address}

def rootQuestion (path : Text) : List Text :=
  ["-C", (Path.parent? path).getD ".", "rev-parse", "--show-toplevel"]

def contentQuestion (revision : Text) (a : Address) : List Text :=
  ["-C", a.root, "show", revision ++ ":" ++ a.relative]

inductive Names (g : Git) (printed : Text) : Text → Prop
  | canonical {root : Text} (h : g.canonical printed = .ok root) : Names g printed root
  | printed {e : FileError} (h : g.canonical printed = .error e) : Names g printed printed

structure Finds (g : Git) (path : Text) (a : Address) : Prop where
  path : g.canonical path = .ok a.path
  root : ∃ ended, g.run (rootQuestion a.path) = .ok ended ∧ ended.success = true ∧
    g.Names (Text.trim (lossyText ended.stdout)) a.root
  relative : Path.relative? a.root a.path = some a.relative

inductive Lost (g : Git) (revision path : Text) : HistoryError → Prop
  | path {e : FileError} (h : g.canonical path = .error e) : Lost g revision path
      (.lookupFailed e.message)
  | rootNotAsked {file : Text} {e : FileError} (hfile : g.canonical path = .ok file)
      (h : g.run (rootQuestion file) = .error e) : Lost g revision path (.lookupFailed e.message)
  | noRoot {file : Text} {ended : Ended} (hfile : g.canonical path = .ok file)
      (h : g.run (rootQuestion file) = .ok ended) (hfails : ended.success = false) :
      Lost g revision path (.notInRepository file)
  | outside {file root : Text} {ended : Ended} (hfile : g.canonical path = .ok file)
      (h : g.run (rootQuestion file) = .ok ended) (hends : ended.success = true)
      (hroot : g.Names (Text.trim (lossyText ended.stdout)) root)
      (hrelative : Path.relative? root file = none) : Lost g revision path (.notAddressable file)
  | contentNotAsked {a : Address} {e : FileError} (ha : g.Finds path a)
      (h : g.run (contentQuestion revision a) = .error e) :
      Lost g revision path (.lookupFailed e.message)
  | noContent {a : Address} {ended : Ended} (ha : g.Finds path a)
      (h : g.run (contentQuestion revision a) = .ok ended) (hfails : ended.success = false) :
      Lost g revision path
        (.noRevision a.path revision (Text.trim (lossyText ended.stderr)))

theorem names_iff {printed root : Text} :
    g.Names printed root ↔ (g.canonical printed).toOption.getD printed = root := by
  constructor
  · rintro (h | h) <;> rw [h] <;> rfl
  · rintro rfl
    cases h : g.canonical printed with
    | ok root => exact .canonical h
    | error e => exact .printed h

theorem runIn_eq_ok_iff {dir : Text} {args : List Text} {ended : Ended} :
    g.runIn dir args = .ok ended ↔ g.run ("-C"::dir::args) = .ok ended :=
  mapError_eq_ok_iff

theorem runIn_eq_error_iff {dir : Text} {args : List Text} {e : HistoryError} :
    g.runIn dir args = .error e ↔
      ∃ cause, g.run ("-C"::dir::args) = .error cause ∧ .lookupFailed cause.message = e :=
  mapError_eq_error_iff

theorem rootOf_eq_ok_iff {printed : Text} : g.rootOf path = .ok printed ↔
    ∃ ended, g.run (rootQuestion path) = .ok ended ∧ ended.success = true ∧
      Text.trim (lossyText ended.stdout) = printed := by
  simp only [rootOf, bind_eq_ok_iff, runIn_eq_ok_iff, ite_throw_eq_ok_iff]
  rfl

theorem rootOf_eq_error_iff {e : HistoryError} : g.rootOf path = .error e ↔
    (∃ cause, g.run (rootQuestion path) = .error cause ∧ .lookupFailed cause.message = e) ∨
      ∃ ended, g.run (rootQuestion path) = .ok ended ∧ ended.success = false ∧
        .notInRepository path = e := by
  simp only [rootOf, bind_eq_error_iff, runIn_eq_ok_iff, runIn_eq_error_iff,
    ite_throw_eq_error_iff, Bool.not_eq_true]
  rfl

theorem address_eq_ok_iff : g.address path = .ok a ↔ g.Finds path a := by
  simp only [address, bind_eq_ok_iff, mapError_eq_ok_iff, rootOf_eq_ok_iff]
  constructor
  · rintro ⟨file, hfile, printed, ⟨ended, hrun, hends, rfl⟩, h⟩
    split at h
    · rename_i relative hrelative
      cases h
      exact ⟨hfile, ⟨ended, hrun, hends, names_iff.2 rfl⟩, hrelative⟩
    · cases h
  · intro h
    obtain ⟨ended, hrun, hends, hroot⟩ := h.root
    refine ⟨a.path, h.path, _, ⟨ended, hrun, hends, rfl⟩, ?_⟩
    rw [names_iff.1 hroot, h.relative]
    rfl

theorem address_eq_error_iff {e : HistoryError} : g.address path = .error e ↔
    (∃ cause, g.canonical path = .error cause ∧ .lookupFailed cause.message = e) ∨
      ∃ file, g.canonical path = .ok file ∧ (g.rootOf file = .error e ∨
        ∃ ended root, g.run (rootQuestion file) = .ok ended ∧ ended.success = true ∧
          g.Names (Text.trim (lossyText ended.stdout)) root ∧
          Path.relative? root file = none ∧ .notAddressable file = e) := by
  simp only [address, bind_eq_error_iff, mapError_eq_ok_iff, mapError_eq_error_iff]
  refine or_congr_right (exists_congr fun file => and_congr_right fun _ => or_congr_right ?_)
  simp only [rootOf_eq_ok_iff, names_iff]
  constructor
  · rintro ⟨printed, ⟨ended, hrun, hends, rfl⟩, h⟩
    split at h
    · cases h
    · rename_i hrelative
      cases h
      exact ⟨ended, _, hrun, hends, rfl, hrelative, rfl⟩
  · rintro ⟨ended, root, hrun, hends, rfl, hrelative, rfl⟩
    refine ⟨_, ⟨ended, hrun, hends, rfl⟩, ?_⟩
    rw [hrelative]
    rfl

theorem contentAt_eq_ok_iff : g.contentAt revision a = .ok t ↔
    ∃ ended, g.run (contentQuestion revision a) = .ok ended ∧ ended.success = true ∧
      lossyText ended.stdout = t := by
  simp only [contentAt, bind_eq_ok_iff, runIn_eq_ok_iff, ite_throw_eq_ok_iff]
  rfl

theorem contentAt_eq_error_iff {e : HistoryError} : g.contentAt revision a = .error e ↔
    (∃ cause, g.run (contentQuestion revision a) = .error cause ∧
        .lookupFailed cause.message = e) ∨
      ∃ ended, g.run (contentQuestion revision a) = .ok ended ∧ ended.success = false ∧
        .noRevision a.path revision (Text.trim (lossyText ended.stderr)) = e := by
  simp only [contentAt, bind_eq_error_iff, runIn_eq_ok_iff, runIn_eq_error_iff,
    ite_throw_eq_error_iff, Bool.not_eq_true]
  rfl

/-- The earlier content is what git shows for the file in its repository. -/
theorem previous_eq_ok_iff : g.previous revision path = .ok t ↔
    ∃ a ended, g.Finds path a ∧ g.run (contentQuestion revision a) = .ok ended ∧
      ended.success = true ∧ lossyText ended.stdout = t := by
  simp only [previous, bind_eq_ok_iff, address_eq_ok_iff, contentAt_eq_ok_iff, exists_and_left]

theorem previous_eq_error_iff {e : HistoryError} :
    g.previous revision path = .error e ↔ g.Lost revision path e := by
  simp only [previous, bind_eq_error_iff, address_eq_ok_iff, address_eq_error_iff,
    rootOf_eq_error_iff, contentAt_eq_error_iff]
  constructor
  · rintro ((⟨cause, h, rfl⟩ | ⟨file, hfile, (⟨cause, h, rfl⟩ | ⟨ended, h, hfails, rfl⟩) |
      ⟨ended, root, h, hends, hroot, hrelative, rfl⟩⟩) |
      ⟨a, ha, ⟨cause, h, rfl⟩ | ⟨ended, h, hfails, rfl⟩⟩)
    · exact .path h
    · exact .rootNotAsked hfile h
    · exact .noRoot hfile h hfails
    · exact .outside hfile h hends hroot hrelative
    · exact .contentNotAsked ha h
    · exact .noContent ha h hfails
  · intro h
    cases h with
    | path h => exact Or.inl (Or.inl ⟨_, h, rfl⟩)
    | rootNotAsked hfile h => exact Or.inl (Or.inr ⟨_, hfile, Or.inl (Or.inl ⟨_, h, rfl⟩)⟩)
    | noRoot hfile h hfails =>
      exact Or.inl (Or.inr ⟨_, hfile, Or.inl (Or.inr ⟨_, h, hfails, rfl⟩)⟩)
    | outside hfile h hends hroot hrelative =>
      exact Or.inl (Or.inr ⟨_, hfile, Or.inr ⟨_, _, h, hends, hroot, hrelative, rfl⟩⟩)
    | contentNotAsked ha h => exact Or.inr ⟨_, ha, Or.inl ⟨_, h, rfl⟩⟩
    | noContent ha h hfails => exact Or.inr ⟨_, ha, Or.inr ⟨_, h, hfails, rfl⟩⟩

/-- The path that git is asked for leads from the root of the repository to the file, and a text
that it shows is the earlier content. -/
theorem previous_of_shown {ended : Ended} (ha : g.Finds path a)
    (h : g.run (contentQuestion revision a) = .ok ended) (hends : ended.success = true)
    (ht : ended.stdout = bytesOfText t) :
    Path.components (Path.join a.root a.relative) = Path.components a.path ∧
      g.previous revision path = .ok t := by
  refine ⟨Path.components_join_of_relative? ha.relative, ?_⟩
  exact previous_eq_ok_iff.2 ⟨a, ended, ha, h, hends, by rw [ht, lossyText_bytesOfText]⟩

end Git

end FlowchartMerge
