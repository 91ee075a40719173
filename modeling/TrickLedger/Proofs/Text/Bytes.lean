import TrickLedger.Text.Span

/-!
# Bytes of spans

A span that covers a part of a text has the bytes of that part.
-/

namespace TrickLedger.Text

theorem byteLength_toList (text : String) : byteLength text.toList = text.utf8ByteSize := by
  have size : (String.ofList text.toList).utf8ByteSize = byteLength text.toList := by
    rw [String.utf8ByteSize, String.toByteArray_ofList, List.utf8Encode, List.size_toByteArray,
      byteLength]
  rw [← size, String.ofList_toList]

namespace Span

variable {before marked after : String} {length : Nat}

theorem bytes_of_take
    (covers : (before ++ marked ++ after).toList.take (before.length + max length 1) =
      (before ++ marked).toList) :
    (ofLength before.length length).bytes (before ++ marked ++ after).toList =
      (before.utf8ByteSize, marked.utf8ByteSize) := by
  have start : (before ++ marked ++ after).toList.take before.length = before.toList := by
    simp [← String.length_toList]
  have stop : max (before.length + length) (before.length + 1) = before.length + max length 1 := by
    omega
  have size : (before ++ marked).utf8ByteSize - before.utf8ByteSize = marked.utf8ByteSize := by
    rw [String.utf8ByteSize_append, Nat.add_sub_cancel_left]
  simp only [bytes, ofLength, start, stop, covers, byteLength_toList, size]

/-- A span that is empty covers one character. -/
theorem bytes_ofLength (covers : marked.length = max length 1) :
    (ofLength before.length length).bytes (before ++ marked ++ after).toList =
      (before.utf8ByteSize, marked.utf8ByteSize) := by
  apply bytes_of_take
  have whole : before.length + max length 1 = (before ++ marked).toList.length := by
    rw [String.length_toList, String.length_append, covers]
  rw [whole, String.toList_append (s := before ++ marked), List.take_left]

theorem bytes_ofLength_end (text : String) (length : Nat) :
    (ofLength text.length length).bytes text.toList = (text.utf8ByteSize, 0) := by
  have covers : (text ++ "" ++ "").toList.take (text.length + max length 1) =
      (text ++ "").toList := by
    rw [String.append_empty, String.append_empty, List.take_of_length_le]
    rw [String.length_toList]
    omega
  have ends := bytes_of_take covers
  rwa [String.append_empty, String.append_empty, String.utf8ByteSize_empty] at ends

end Span

end TrickLedger.Text
