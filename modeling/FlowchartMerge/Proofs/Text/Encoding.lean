import FlowchartMerge.Storage.FileError
import FlowchartMerge.Text.Lossy

/-!
# Texts as bytes

A text is read from the bytes that encode it and from no others, and where bytes encode a
text, nothing is lost when they are read as any bytes are.
-/

set_option autoImplicit false

namespace FlowchartMerge

theorem fromUTF8?_eq_some_iff {b : ByteArray} {s : String} :
    String.fromUTF8? b = some s ↔ b = s.toUTF8 := by
  unfold String.fromUTF8?
  constructor
  · intro h
    split at h
    · obtain rfl := Option.some.inj h
      rfl
    · cases h
  · rintro rfl
    exact dif_pos s.isValidUTF8

theorem textOfBytes_eq_ok_iff {b : ByteArray} {t : Text} :
    textOfBytes b = .ok t ↔ b = bytesOfText t := by
  unfold textOfBytes bytesOfText
  rw [← fromUTF8?_eq_some_iff]
  cases String.fromUTF8? b with
  | none => simp
  | some s => simp [← String.toList_inj]

namespace Utf8

/-- Behind a text in some bytes, the text that the other bytes encode is read. -/
theorem readFrom_append (done t : Text) :
    readFrom (done.utf8Encode ++ t.utf8Encode) done.utf8Encode.size = t := by
  induction t generalizing done with
  | nil =>
    rw [readFrom]
    simp
  | cons c t ih =>
    have hread : (done.utf8Encode ++ (c::t).utf8Encode).utf8DecodeChar? done.utf8Encode.size =
        some c := by
      rw [ByteArray.utf8DecodeChar?_eq_utf8DecodeChar?_extract, ByteArray.extract_append_eq_right rfl]
      · exact List.utf8DecodeChar?_utf8Encode_cons
      · exact ByteArray.size_append
    have hlt : done.utf8Encode.size < (done.utf8Encode ++ (c::t).utf8Encode).size :=
      ByteArray.lt_size_of_isSome_utf8DecodeChar? (by rw [hread]; rfl)
    have hdone := ih (done++[c])
    rw [List.utf8Encode_append, ByteArray.append_assoc, ← List.utf8Encode_cons,
      ByteArray.size_append, List.utf8Encode_singleton, List.size_toByteArray,
      String.length_utf8EncodeChar] at hdone
    rw [readFrom, dif_pos hlt]
    simp only [hread, hdone]

end Utf8

theorem lossyText_bytesOfText (t : Text) : lossyText (bytesOfText t) = t := by
  have h := Utf8.readFrom_append [] t
  rw [List.utf8Encode_nil, ByteArray.empty_append] at h
  exact h

end FlowchartMerge
