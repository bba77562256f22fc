import RuleOutline.Proofs.Text.Bytes

/-! Boundaries between the characters of a text. Offsets count bytes, and a text can be cut only
where a character begins or where the text ends. A byte of an ASCII character is never part of
another character, so what such bytes say can be told without decoding the text. -/
namespace RuleOutline.Text

/-- A character of the text begins at the offset, or the text ends there. -/
def IsBoundary (source : String) (offset : Nat) : Prop :=
  (⟨offset⟩ : String.Pos.Raw).IsValid source

instance (source : String) : DecidablePred (IsBoundary source) :=
  fun offset => inferInstanceAs (Decidable ((⟨offset⟩ : String.Pos.Raw).IsValid source))

theorem isBoundary_iff {source : String} {offset : Nat} :
    IsBoundary source offset ↔
      ∃ before after, source.toList = before ++ after ∧ offset = byteLength before := by
  constructor
  · intro h
    obtain ⟨before, after, hSource, hOffset⟩ := String.Pos.Raw.isValid_iff_exists_append.mp h
    refine ⟨before.toList, after.toList, ?_, ?_⟩
    · rw [hSource, String.toList_append]
    · rw [← utf8ByteSize_eq]
      exact congrArg String.Pos.Raw.byteIdx hOffset
  · rintro ⟨before, after, hSource, rfl⟩
    exact isValid_byteLength hSource

theorem IsBoundary.le {source : String} {offset : Nat} (h : IsBoundary source offset) :
    offset ≤ source.utf8ByteSize :=
  h.le_utf8ByteSize

section Slice

theorem splitBytes_byteLength (before after : List Char) :
    splitBytes (byteLength before) (before ++ after) = (before, after) := by
  induction before with
  | nil =>
      cases after with
      | nil => rfl
      | cons c after =>
          have hSize := c.utf8Size_pos
          simp [splitBytes]
          omega
  | cons c before ih => simp [splitBytes, ih]

/-- The characters from one offset up to another, if both are boundaries and in this order. -/
def slice? (source : String) (start stop : Nat) : Option (List Char) :=
  if IsBoundary source start ∧ IsBoundary source stop ∧ start ≤ stop then
    some (splitBytes (stop - start) (splitBytes start source.toList).2).1
  else none

theorem slice?_append {source : String} {before part after : List Char}
    (h : source.toList = before ++ (part ++ after)) :
    slice? source (byteLength before) (byteLength before + byteLength part) = some part := by
  have hStart : IsBoundary source (byteLength before) := isBoundary_iff.mpr ⟨_, _, h, rfl⟩
  have hStop : IsBoundary source (byteLength before + byteLength part) := by
    rw [← List.append_assoc] at h
    exact isBoundary_iff.mpr ⟨_, _, h, (byteLength_append before part).symm⟩
  rw [slice?, if_pos ⟨hStart, hStop, Nat.le_add_right _ _⟩, h, splitBytes_byteLength,
    Nat.add_sub_cancel_left, splitBytes_byteLength]

/-- What is left of a text from a boundary on. -/
theorem slice?_rest {source : String} {before rest : List Char}
    (h : source.toList = before ++ rest) :
    slice? source (byteLength before) source.utf8ByteSize = some rest := by
  have hWhole : source.toList = before ++ (rest ++ []) := by rw [h, List.append_nil]
  rw [utf8ByteSize_eq, h, byteLength_append]
  exact slice?_append hWhole

end Slice

section Find

/-- The number of bytes before the first place where the pattern begins. -/
def find? (pattern : List Char) : List Char → Option Nat
  | [] => if pattern.isEmpty then some 0 else none
  | c :: cs =>
    if pattern.isPrefixOf (c :: cs) then some 0 else (find? pattern cs).map (c.utf8Size + ·)

variable {pattern : List Char}

theorem find?_append {body after : List Char} (hPattern : pattern ≠ [])
    (hBody : ∀ before rest, body = before ++ rest → rest ≠ [] →
      ¬pattern <+: rest ++ (pattern ++ after)) :
    find? pattern (body ++ (pattern ++ after)) = some (byteLength body) := by
  induction body with
  | nil =>
      obtain ⟨c, cs, rfl⟩ := List.exists_cons_of_ne_nil hPattern
      simp [find?]
  | cons c body ih =>
      have hHere : pattern.isPrefixOf (c :: (body ++ (pattern ++ after))) = false := by
        have hNone := hBody [] (c :: body) rfl (List.cons_ne_nil c body)
        rw [← List.isPrefixOf_iff_prefix] at hNone
        exact Bool.eq_false_iff.mpr hNone
      have hTail := ih fun before rest hRest => hBody (c :: before) rest (by rw [hRest]; rfl)
      simp [find?, hHere, hTail]

theorem find?_eq_none {cs : List Char} (h : ¬pattern <:+: cs) : find? pattern cs = none := by
  induction cs with
  | nil =>
      have hPattern : pattern ≠ [] := by
        rintro rfl
        exact h List.infix_rfl
      simp [find?, hPattern]
  | cons c cs ih =>
      rw [List.infix_cons_iff, not_or, ← List.isPrefixOf_iff_prefix] at h
      simp [find?, h.1, ih h.2]

end Find

section Byte

/-- The byte at the index is the given ASCII character. -/
def HasByte (source : String) (index : Nat) (c : Char) : Prop :=
  (bytes source)[index]? = some c.toUInt8

instance (source : String) (index : Nat) : DecidablePred (HasByte source index) :=
  fun c => inferInstanceAs (Decidable ((bytes source)[index]? = some c.toUInt8))

/-- A byte below 128 is a character by itself. -/
theorem toNat_of_mem_encode {c : Char} {byte : UInt8} (hMem : byte ∈ String.utf8EncodeChar c)
    (hByte : byte.toNat < 128) : c.toNat = byte.toNat := by
  have hValue : c.val.toNat = c.toNat := rfl
  have hBytes : ∀ n : Nat, (UInt8.ofNat n).toNat = n % 256 := fun n => rfl
  unfold String.utf8EncodeChar at hMem
  dsimp only at hMem
  repeat' split at hMem
  all_goals simp only [List.mem_cons, List.not_mem_nil, or_false] at hMem
  · rw [hMem, hBytes]
    omega
  · rcases hMem with rfl | rfl <;> rw [hBytes] at hByte <;> omega
  · rcases hMem with rfl | rfl | rfl <;> rw [hBytes] at hByte <;> omega
  · rcases hMem with rfl | rfl | rfl | rfl <;> rw [hBytes] at hByte <;> omega

theorem toNat_toUInt8 {c : Char} (h : c.toNat < 128) : c.toUInt8.toNat = c.toNat := by
  have hValue : c.toUInt8.toNat = c.toNat % 256 := rfl
  omega

theorem utf8Size_eq_one {c : Char} (h : c.toNat < 128) : c.utf8Size = 1 := by
  rw [Char.utf8Size_eq_one_iff, UInt32.le_iff_toNat_le]
  exact Nat.le_of_lt_succ h

/-- Among the bytes of a character, that of an ASCII character is this character only. -/
theorem hasByte_iff {source : String} {before after : List Char} {c d : Char} {k : Nat}
    (h : source.toList = before ++ c :: after) (hIndex : k < c.utf8Size) (hAscii : d.toNat < 128) :
    HasByte source (byteLength before + k) d ↔ c = d := by
  have hByte : (bytes source)[byteLength before + k]? = (String.utf8EncodeChar c)[k]? := by
    rw [bytes_eq_flatMap, h, List.flatMap_append, List.flatMap_cons, ← length_flatMap_encode,
      List.getElem?_append_right (Nat.le_add_right _ _), Nat.add_sub_cancel_left,
      List.getElem?_append_left (by rwa [String.length_utf8EncodeChar])]
  rw [HasByte, hByte]
  constructor
  · intro hHere
    have hSame := toNat_of_mem_encode (List.mem_of_getElem? hHere) (by rwa [toNat_toUInt8 hAscii])
    rw [toNat_toUInt8 hAscii] at hSame
    exact Char.toNat_inj.mp hSame
  · rintro rfl
    have hSize := utf8Size_eq_one hAscii
    obtain rfl : k = 0 := by omega
    rw [String.utf8EncodeChar_eq_singleton hSize]
    rfl

/-- A byte is that of one ASCII character only. -/
theorem HasByte.unique {source : String} {index : Nat} {c d : Char} (h : HasByte source index c)
    (h' : HasByte source index d) (hc : c.toNat < 128) (hd : d.toNat < 128) : c = d := by
  have hSame : c.toUInt8 = d.toUInt8 := Option.some.inj (h.symm.trans h')
  rw [← Char.toNat_inj, ← toNat_toUInt8 hc, ← toNat_toUInt8 hd, hSame]

/-- Every byte of a text belongs to one of its characters. -/
theorem exists_character {cs : List Char} {index : Nat} (h : index < byteLength cs) :
    ∃ before c after k, cs = before ++ c :: after ∧ k < c.utf8Size ∧
      index = byteLength before + k := by
  induction cs generalizing index with
  | nil => exact absurd h (Nat.not_lt_zero _)
  | cons c cs ih =>
      rw [byteLength_cons] at h
      by_cases hHere : index < c.utf8Size
      · exact ⟨[], c, cs, index, rfl, hHere, (Nat.zero_add index).symm⟩
      · have hTail : index - c.utf8Size < byteLength cs := by omega
        obtain ⟨before, d, after, k, rfl, hIndex, hOffset⟩ := ih hTail
        refine ⟨c :: before, d, after, k, rfl, hIndex, ?_⟩
        rw [byteLength_cons]
        omega

/-- A part of a text that has the byte of an ASCII character has this character. -/
theorem HasByte.mem {source : String} {before part after : List Char} {index : Nat} {d : Char}
    (h : HasByte source index d) (hAscii : d.toNat < 128)
    (hSource : source.toList = before ++ (part ++ after)) (hStart : byteLength before ≤ index)
    (hStop : index < byteLength before + byteLength part) : d ∈ part := by
  have hInside : index - byteLength before < byteLength part := by omega
  obtain ⟨front, c, back, k, rfl, hIndex, hOffset⟩ := exists_character hInside
  have hSplit : source.toList = (before ++ front) ++ c :: (back ++ after) := by simp [hSource]
  have hByte := hasByte_iff hSplit hIndex hAscii
  rw [byteLength_append, Nat.add_assoc, ← hOffset, Nat.add_sub_cancel' hStart] at hByte
  obtain rfl := hByte.mp h
  simp

theorem not_hasByte_of_le {source : String} {index : Nat} (h : source.utf8ByteSize ≤ index)
    (c : Char) : ¬HasByte source index c := by
  have hLength : (bytes source).length ≤ index := by rwa [length_bytes, ← utf8ByteSize_eq]
  rw [HasByte, List.getElem?_eq_none hLength]
  exact (Option.some_ne_none _).symm

theorem hasByte_iff_head? {source : String} {before rest : List Char} {d : Char}
    (h : source.toList = before ++ rest) (hAscii : d.toNat < 128) :
    HasByte source (byteLength before) d ↔ rest.head? = some d := by
  cases rest with
  | nil =>
      have hEnd : source.utf8ByteSize ≤ byteLength before :=
        Nat.le_of_eq (by rw [utf8ByteSize_eq, h, List.append_nil])
      simp [not_hasByte_of_le hEnd]
  | cons c rest =>
      have hByte := hasByte_iff h c.utf8Size_pos hAscii
      rw [Nat.add_zero] at hByte
      rw [hByte, List.head?_cons, Option.some.injEq]

end Byte

end RuleOutline.Text
