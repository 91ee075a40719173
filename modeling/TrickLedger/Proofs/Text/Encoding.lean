import TrickLedger.Proofs.Text.Bytes

/-!
# Spans of encoded texts

The bytes of a span, whatever its ends are, are those that encode the characters that it
covers.  Texts are cut before the first covered character and behind the last one, and the
encoding of a text is that of its parts in sequence.
-/

namespace TrickLedger.Text

section Encoding

variable {letters before marked after : List Char}

theorem size_utf8Encode (letters : List Char) : letters.utf8Encode.size = byteLength letters := by
  rw [List.utf8Encode, List.size_toByteArray, byteLength]

theorem byteLength_append (before after : List Char) :
    byteLength (before ++ after) = byteLength before + byteLength after := by
  rw [byteLength, List.flatMap_append, List.length_append]
  rfl

/-- The bytes of a part of a text are found behind those of the part before it. -/
theorem extract_utf8Encode (whole : letters = before ++ marked ++ after) :
    letters.utf8Encode.extract (byteLength before) (byteLength before + byteLength marked) =
      marked.utf8Encode := by
  rw [whole, List.append_assoc, List.utf8Encode_append, List.utf8Encode_append,
    ← size_utf8Encode before, ← size_utf8Encode marked]
  calc (before.utf8Encode ++ (marked.utf8Encode ++ after.utf8Encode)).extract
        (before.utf8Encode.size + 0) (before.utf8Encode.size + marked.utf8Encode.size)
      = (marked.utf8Encode ++ after.utf8Encode).extract 0 marked.utf8Encode.size :=
        ByteArray.extract_append_size_add
    _ = marked.utf8Encode := ByteArray.extract_append_eq_left rfl

/-- A number of whole characters of a text ends on a boundary. -/
theorem isValid_byteLength_take (text : String) (count : Nat) :
    (⟨byteLength (text.toList.take count)⟩ : String.Pos.Raw).IsValid text := by
  rw [String.Pos.Raw.isValid_iff_exists_take_toList]
  refine ⟨count, ?_⟩
  rw [← byteLength_toList, String.toList_ofList]

/-- Of letters counted from `first` on, those with an index between two bounds are a part of
the text. -/
theorem map_filter_zipIdx (letters : List Char) (start stop first : Nat) :
    ((letters.zipIdx first).filter fun (_, index) => start ≤ index ∧ index < stop).map Prod.fst =
      (letters.take (stop - first)).drop (start - first) := by
  induction letters generalizing first with
  | nil => simp
  | cons letter letters ih =>
      rw [List.zipIdx_cons, List.filter_cons]
      -- The first letter comes before the bounds, lies between them or comes behind them.
      by_cases inside : first < stop
      · have stopNext : stop - first = stop - (first + 1) + 1 := by omega
        by_cases ahead : first < start
        · have startNext : start - first = start - (first + 1) + 1 := by omega
          rw [if_neg (by simpa using fun reached => absurd reached (by omega)), ih, startNext,
            stopNext, List.take_succ_cons, List.drop_succ_cons]
        · have startNext : start - first = 0 ∧ start - (first + 1) = 0 := by omega
          rw [if_pos (by simpa using ⟨by omega, inside⟩), List.map_cons, ih, startNext.1,
            startNext.2, stopNext, List.take_succ_cons, List.drop_zero, List.drop_zero]
      · have stopNext : stop - first = 0 ∧ stop - (first + 1) = 0 := by omega
        rw [if_neg (by simp [inside]), ih, stopNext.1, stopNext.2, List.take_zero, List.take_zero,
          List.drop_nil, List.drop_nil]

end Encoding

namespace Span

/-- The span covers the character with the given index.  An empty span covers one character. -/
def Covers (span : Span) (index : Nat) : Prop :=
  span.start ≤ index ∧ index < max span.stop (span.start + 1)

instance (span : Span) : DecidablePred span.Covers := fun index =>
  inferInstanceAs (Decidable (span.start ≤ index ∧ index < max span.stop (span.start + 1)))

/-- The characters that the span covers. -/
def covered (span : Span) (letters : List Char) : List Char :=
  (letters.zipIdx.filter fun (_, index) => span.Covers index).map Prod.fst

variable {span : Span} {letters : List Char}

/-- The characters before the first one that the span covers. -/
def lead (span : Span) (letters : List Char) : List Char :=
  letters.take span.start

/-- The characters up to the last one that the span covers. -/
def reach (span : Span) (letters : List Char) : List Char :=
  letters.take (max span.stop (span.start + 1))

theorem lead_append_covered (span : Span) (letters : List Char) :
    span.lead letters ++ span.covered letters = span.reach letters := by
  have shorter : min span.start (max span.stop (span.start + 1)) = span.start := by omega
  have lead : span.lead letters = (span.reach letters).take span.start := by
    rw [lead, reach, List.take_take, shorter]
  have covered : span.covered letters = (span.reach letters).drop span.start :=
    map_filter_zipIdx letters _ _ 0
  rw [lead, covered, List.take_append_drop]

theorem bytes_eq (span : Span) (letters : List Char) :
    span.bytes letters = (byteLength (span.lead letters), byteLength (span.covered letters)) := by
  have size : byteLength (span.reach letters) =
      byteLength (span.lead letters) + byteLength (span.covered letters) := by
    rw [← lead_append_covered, byteLength_append]
  rw [bytes, ← reach, ← lead, size, Nat.add_sub_cancel_left]

/-- The bytes of a span lie within the text and between its characters, and they encode the
characters that the span covers. -/
theorem bytes_eq_encoding (text : String) (span : Span) :
    ∃ offset length, span.bytes text.toList = (offset, length) ∧
      (⟨offset⟩ : String.Pos.Raw).IsValid text ∧
      (⟨offset + length⟩ : String.Pos.Raw).IsValid text ∧
      offset + length ≤ text.utf8ByteSize ∧
      text.toByteArray.extract offset (offset + length) =
        (span.covered text.toList).utf8Encode := by
  have stop : byteLength (span.lead text.toList) + byteLength (span.covered text.toList) =
      byteLength (span.reach text.toList) := by
    rw [← byteLength_append, lead_append_covered]
  have whole : text.toList = span.lead text.toList ++ span.covered text.toList ++
      text.toList.drop (max span.stop (span.start + 1)) := by
    rw [lead_append_covered, reach, List.take_append_drop]
  have startValid := isValid_byteLength_take text span.start
  have stopValid := isValid_byteLength_take text (max span.stop (span.start + 1))
  refine ⟨_, _, bytes_eq span text.toList, startValid, ?_, ?_, ?_⟩
  · rw [stop]
    exact stopValid
  · rw [stop]
    exact stopValid.le_utf8ByteSize
  · rw [← String.utf8Encode_toList]
    exact extract_utf8Encode whole

/-- Letters with a háček or an accent take two bytes. -/
example : (⟨4, 7⟩ : Span).bytes "ř í +c*".toList = (6, 3) ∧
    (⟨2, 1⟩ : Span).bytes "ř í +c*".toList = (3, 2) := by
  decide

end Span

end TrickLedger.Text
