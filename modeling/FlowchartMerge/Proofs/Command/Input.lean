import FlowchartMerge.Command.World
import FlowchartMerge.Proofs.Fallible
import FlowchartMerge.Proofs.Text.Encoding

/-!
# What a command can read

A name stands for a text if the bytes behind it encode one: those of the standard input for
a dash that stands alone, else those of a file.
-/

set_option autoImplicit false

namespace FlowchartMerge

namespace World

inductive Supplies (w : World) (name t : Text) : Prop
  | stdin (hname : name = "-".toList) (hbytes : w.stdin = bytesOfText t)
  | file (hname : name ≠ "-".toList) (hbytes : w.read name = .ok (bytesOfText t))

variable {w : World} {path name t : Text}

theorem text_eq_ok_iff : w.text path = .ok t ↔ w.read path = .ok (bytesOfText t) := by
  rw [text]
  constructor
  · intro h
    obtain ⟨b, hb, ht⟩ := bind_eq_ok_iff.1 h
    rw [hb, textOfBytes_eq_ok_iff.1 ht]
  · intro h
    exact bind_eq_ok_iff.2 ⟨_, h, textOfBytes_eq_ok_iff.2 rfl⟩

theorem input_eq_ok_iff : w.input name = .ok t ↔ w.Supplies name t := by
  unfold input stdinName
  constructor
  · intro h
    split at h
    · exact .stdin ‹_› (textOfBytes_eq_ok_iff.1 (mapError_eq_ok_iff.1 h))
    · exact .file ‹_› (text_eq_ok_iff.1 (mapError_eq_ok_iff.1 h))
  · intro h
    cases h with
    | stdin hname hbytes =>
      rw [if_pos hname]
      exact mapError_eq_ok_iff.2 (textOfBytes_eq_ok_iff.2 hbytes)
    | file hname hbytes =>
      rw [if_neg hname]
      exact mapError_eq_ok_iff.2 (text_eq_ok_iff.2 hbytes)

end World

end FlowchartMerge
