import FlowchartMerge.Proofs.Command.Input
import FlowchartMerge.Proofs.Command.Output
import FlowchartMerge.Proofs.Document.Choice
import FlowchartMerge.Proofs.Storage.Writing

/-!
# How a comparison ends

A comparison of two files goes through its stages in order: the two names are told apart,
the settings are made, both texts are read, the diagrams are chosen, and the result is
written. The first stage that fails ends it with an error, and nothing has been written by
then. If all stages pass, the result has gone to one place, and it was made from what the
system gave to read before. All this holds in every system, whatever its paths and files are.
-/

set_option autoImplicit false

namespace FlowchartMerge

namespace Command

variable {σ : Type}

structure Reads (w : World) (old new : Text) (o : OutputOptions) (i : Inputs) : Prop where
  apart : ¬(old = "-".toList ∧ new = "-".toList)
  settings : o.settings w = .ok i.settings
  old : w.Supplies old i.old
  new : w.Supplies new i.new

def Chooses (raw : Bool) (sel : Selector) (i : Inputs) (versions : Versions) : Prop :=
  if raw = true then versions = ⟨i.old, i.new⟩ else sel.choose i.old i.new = .ok versions

def notes (v : Verbosity) (raw : Bool) (o : OutputOptions) (i : Inputs) (versions : Versions) :
    Text :=
  errorLines v ((if raw then [] else LogEntry.choosing i.old i.new) ++
      LogEntry.comparing versions) ++
    if o.stat then
      (Comparison.ofDiagrams (.read versions.old) (.read versions.new)).summary.text ++ "\n"
    else []

structure Passes (S : System σ) (s : σ) (w : World) (old new : Text) (raw : Bool) (sel : Selector)
    (o : OutputOptions) (i : Inputs) (versions : Versions) : Prop where
  reads : Reads w old new o i
  chooses : Chooses raw sel i versions
  writes : ∀ path, o.output = some path → ∃ after,
    S.write s path (bytesOfText (o.written (merge i.settings versions.old versions.new))) = .ok after

section

variable {S : System σ} {s : σ} {w : World} {v : Verbosity} {old new : Text} {raw : Bool}
  {sel : Selector} {o : OutputOptions} {i : Inputs} {versions : Versions}

theorem diffInputs_of_apart (hone : ¬(old = "-".toList ∧ new = "-".toList)) :
    diffInputs w old new o = (do
      let s ← (o.settings w).mapError CommandError.settings
      let oldText ← w.input old
      let newText ← w.input new
      .ok ⟨s, oldText, newText⟩) := by
  rw [diffInputs, stdinName, if_neg hone]
  rfl

theorem diffInputs_of_same (ho : old = "-".toList) (hn : new = "-".toList) :
    diffInputs w old new o = .error .stdinTwice := by
  rw [diffInputs, stdinName, if_pos ⟨ho, hn⟩]
  rfl

theorem diffInputs_eq_ok_iff : diffInputs w old new o = .ok i ↔ Reads w old new o i := by
  by_cases hone : old = "-".toList ∧ new = "-".toList
  · rw [diffInputs_of_same hone.1 hone.2]
    constructor
    · rintro ⟨⟩
    · intro h
      exact absurd hone h.apart
  · simp only [diffInputs_of_apart hone, bind_eq_ok_iff, mapError_eq_ok_iff,
      World.input_eq_ok_iff]
    constructor
    · rintro ⟨s, hs, t, ht, u, hu, ⟨⟩⟩
      exact ⟨hone, hs, ht, hu⟩
    · intro h
      exact ⟨_, h.settings, _, h.old, _, h.new, rfl⟩

theorem diffVersions_eq_ok_iff :
    diffVersions raw sel i = .ok versions ↔ Chooses raw sel i versions := by
  cases raw with
  | true => simp [diffVersions, Chooses, eq_comm]
  | false => simp [diffVersions, Chooses, mapError_eq_ok_iff]

/-- Once the diagrams are chosen, what remains is to deliver the result. -/
theorem diffPlan_of_chooses (hi : Reads w old new o i) (hv : Chooses raw sel i versions) :
    diffPlan w v old new raw sel o = deliver v (notes v raw o i versions) o.output
      (o.written (merge i.settings versions.old versions.new)) := by
  rw [diffPlan, diffInputs_eq_ok_iff.2 hi]
  simp only [diffVersions_eq_ok_iff.2 hv]
  rfl

/-- A comparison that passes all stages puts its result into one place. -/
theorem perform_of_passes (h : Passes S s w old new raw sel o i versions) :
    ∃ stderr, match o.output with
      | none => (diffPlan w v old new raw sel o).perform S s =
          (⟨0, o.written (merge i.settings versions.old versions.new), stderr⟩, s)
      | some path => ∃ after, (diffPlan w v old new raw sel o).perform S s =
          (⟨0, [], stderr⟩, after) ∧ S.write s path (bytesOfText
            (o.written (merge i.settings versions.old versions.new))) = .ok after := by
  rw [diffPlan_of_chooses h.reads h.chooses]
  cases ho : o.output with
  | none => exact ⟨_, rfl⟩
  | some path =>
    obtain ⟨after, hafter⟩ := h.writes path ho
    simp only [deliver, Plan.perform, hafter]
    exact ⟨_, after, rfl, rfl⟩

end

end Command

theorem System.run_of_ofArguments {σ : Type} {S : System σ} {s : σ} {stdin : ByteArray}
    {args : List Text} {v : Verbosity} {c : Command}
    (h : Invocation.ofArguments args = .ok ⟨v, c⟩) :
    S.run s stdin args = (c.plan (.ofSystem S s stdin) v).perform S s := by
  rw [System.run, h]
  rfl

open Command in
/-- In a folder the path of the result then reads the result, and no other file has changed. -/
theorem Folder.saved_of_passes (f : Folder) (stdin : ByteArray) {args : List Text} {v : Verbosity}
    {old new path : Text} {raw : Bool} {sel : Selector} {o : OutputOptions} {i : Inputs}
    {versions : Versions} (h : Invocation.ofArguments args = .ok ⟨v, .diff old new raw sel o⟩)
    (hp : Passes system f (.ofSystem system f stdin) old new raw sel o i versions)
    (ho : o.output = some path) : ∃ stderr g, f.run stdin args = (⟨0, [], stderr⟩, g) ∧
      f.Saved path (bytesOfText (o.written (merge i.settings versions.old versions.new))) g := by
  obtain ⟨stderr, hr⟩ := perform_of_passes (v := v) hp
  rw [ho] at hr
  obtain ⟨g, hr, hg⟩ := hr
  exact ⟨stderr, g, (System.run_of_ofArguments h).trans hr, saved_of_write hg⟩

end FlowchartMerge
