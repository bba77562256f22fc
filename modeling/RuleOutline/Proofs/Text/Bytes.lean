import RuleOutline.Text.Extent

/-! The bytes of a text. The library measures texts by their characters; here is what these
measures say of the UTF-8 bytes of a string. -/
namespace RuleOutline.Text

/-- The bytes of a string in UTF-8. -/
def bytes (s : String) : List UInt8 :=
  s.toUTF8.data.toList

@[simp] theorem bytes_ofList (cs : List Char) :
    bytes (.ofList cs) = cs.flatMap String.utf8EncodeChar := by
  simp [bytes, List.utf8Encode]

theorem bytes_eq_flatMap (s : String) : bytes s = s.toList.flatMap String.utf8EncodeChar := by
  rw [← bytes_ofList, String.ofList_toList]

/-- The byte length of characters is the number of their bytes. -/
theorem length_flatMap_encode (cs : List Char) :
    (cs.flatMap String.utf8EncodeChar).length = byteLength cs := by
  induction cs with
  | nil => rfl
  | cons c cs ih => simp [List.flatMap_cons, ih]

@[simp] theorem length_bytes (s : String) : (bytes s).length = byteLength s.toList := by
  rw [bytes_eq_flatMap, length_flatMap_encode]

theorem utf8ByteSize_eq (s : String) : s.utf8ByteSize = byteLength s.toList := by
  rw [← length_bytes, ← String.size_toByteArray]
  rfl

theorem byteLength_pos {cs : List Char} (h : cs ≠ []) : 0 < byteLength cs := by
  cases cs with
  | nil => exact absurd rfl h
  | cons c cs =>
      have hSize := c.utf8Size_pos
      simp only [byteLength_cons]
      omega

theorem lineFeeds_eq_count (cs : List Char) : lineFeeds cs = cs.count '\n' := by
  induction cs with
  | nil => rfl
  | cons c cs ih =>
      rw [lineFeeds_cons, List.count_cons, ih, Nat.add_comm]
      simp

theorem lineFeeds_eq_zero_iff {cs : List Char} : lineFeeds cs = 0 ↔ '\n' ∉ cs := by
  rw [lineFeeds_eq_count, List.count_eq_zero]

/-- A part of a text is found by its bytes. -/
theorem extract_bytes {s : String} {before text after : List Char}
    (h : s.toList = before ++ text ++ after) :
    (bytes s).extract (byteLength before) (byteLength before + byteLength text) =
      bytes (.ofList text) := by
  simp only [bytes_eq_flatMap, h, List.flatMap_append, List.extract_eq_take_drop,
    ← length_flatMap_encode, Nat.add_sub_cancel_left, String.toList_ofList]
  rw [List.append_assoc, List.drop_left, List.take_left]

/-- The end of a beginning of a text is a boundary between its characters. -/
theorem isValid_byteLength {s : String} {before after : List Char}
    (h : s.toList = before ++ after) : (⟨byteLength before⟩ : String.Pos.Raw).IsValid s := by
  rw [String.Pos.Raw.isValid_iff_exists_append]
  refine ⟨.ofList before, .ofList after, ?_, ?_⟩
  · rw [← String.ofList_append, ← h, String.ofList_toList]
  · rw [String.Pos.Raw.ext_iff, String.byteIdx_rawEndPos, utf8ByteSize_eq, String.toList_ofList]

end RuleOutline.Text
