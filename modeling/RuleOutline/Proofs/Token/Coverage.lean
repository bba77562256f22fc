import RuleOutline.Document
import RuleOutline.Proofs.Lines
import RuleOutline.Proofs.Token.Layout

/-! Tokens cover their text. Every byte of a source is part of exactly one token or of a character
between tokens, and a token says truly where it stands. -/
namespace RuleOutline

open Text

/-- The bytes of the characters between tokens: space, tab, carriage return, line feed and form
feed, which are of one byte each. -/
def skippedBytes : List UInt8 :=
  [0x20, 0x09, 0x0D, 0x0A, 0x0C]

/-- The bytes of a source from an offset on, put together from the gaps between tokens and the
texts that these tokens carry. -/
def reassembled (source : List UInt8) (offset : Nat) : List Token → List UInt8
  | [] => source.drop offset
  | token :: tokens =>
      source.extract offset token.start ++ bytes token.text ++ reassembled source token.stop tokens

/-- The tokens of a document cover its source. Offsets are those of bytes. -/
structure Covered (document : Document) : Prop where
  nonempty : ∀ token ∈ document.tokens, token.start < token.stop
  boundary : ∀ token ∈ document.tokens,
    (⟨token.start⟩ : String.Pos.Raw).IsValid document.source ∧
      (⟨token.stop⟩ : String.Pos.Raw).IsValid document.source
  ordered : document.tokens.Pairwise (fun first second => first.stop ≤ second.start)
  text : ∀ token ∈ document.tokens,
    bytes token.text = (bytes document.source).extract token.start token.stop
  gap : ∀ i b, (bytes document.source)[i]? = some b →
    (∀ token ∈ document.tokens, ¬(token.start ≤ i ∧ i < token.stop)) → b ∈ skippedBytes
  whole : reassembled (bytes document.source) 0 document.tokens = bytes document.source
  line : ∀ token ∈ document.tokens, ∃ before after : String,
    document.source = before ++ token.text ++ after ∧ before.utf8ByteSize = token.start ∧
      token.line = 1 + before.toList.count '\n'
  position : ∀ i token, document.tokens[i]? = some token →
    (document.positionOfToken? i).map (·.line) = some token.line

theorem encode_of_isSkipped {c : Char} (h : isSkipped c = true) :
    ∃ b ∈ skippedBytes, String.utf8EncodeChar c = [b] := by
  simp only [isSkipped, Bool.or_eq_true, beq_iff_eq] at h
  rcases h with (((rfl | rfl) | rfl) | rfl) | rfl
  · exact ⟨0x20, by decide, rfl⟩
  · exact ⟨0x09, by decide, rfl⟩
  · exact ⟨0x0A, by decide, rfl⟩
  · exact ⟨0x0D, by decide, rfl⟩
  · exact ⟨0x0C, by decide, rfl⟩

/-- A byte outside all tokens is one of a skipped character. -/
theorem Tokenized.mem_skippedBytes {offset line : Nat} {cs : List Char} {tokens : List Token}
    (h : Tokenized offset line cs tokens) {i : Nat} {b : UInt8}
    (hByte : (cs.flatMap String.utf8EncodeChar)[i]? = some b)
    (hOutside : ∀ token ∈ tokens, ¬(token.start ≤ offset + i ∧ offset + i < token.stop)) :
    b ∈ skippedBytes := by
  induction h generalizing i with
  | nil => simp at hByte
  | @skip offset line c cs tokens hSkip tail ih =>
      obtain ⟨d, hMem, hEncode⟩ := encode_of_isSkipped hSkip
      have hSize := utf8Size_of_isSkipped hSkip
      rw [List.flatMap_cons, hEncode] at hByte
      cases i with
      | zero =>
          obtain rfl : d = b := by simpa using hByte
          exact hMem
      | succ i =>
          refine ih (i := i) (by simpa using hByte) ?_
          intro token hToken
          have hFar := hOutside token hToken
          omega
  | @token offset line kind text after tokens hLexeme tail ih =>
      have hFirst := hOutside _ (List.mem_cons_self ..)
      have hPast : byteLength text ≤ i := by
        simp only at hFirst
        omega
      refine ih (i := i - byteLength text) ?_ ?_
      · rw [List.flatMap_append, List.getElem?_append_right, length_flatMap_encode] at hByte
        · exact hByte
        · rwa [length_flatMap_encode]
      · intro token hToken
        have hFar := hOutside token (List.mem_cons_of_mem _ hToken)
        omega

theorem extract_append_drop {bytes : List UInt8} {first second : Nat} (h : first ≤ second) :
    bytes.extract first second ++ bytes.drop second = bytes.drop first := by
  rw [List.extract_eq_take_drop]
  have hDrop : bytes.drop second = (bytes.drop first).drop (second - first) := by
    rw [List.drop_drop, Nat.add_sub_cancel' h]
  rw [hDrop, List.take_append_drop]

/-- Gaps and token texts give the source back from any place in the gap before the first token. -/
theorem Tokenized.reassembled_eq {source : List UInt8} {offset line : Nat} {cs : List Char}
    {tokens : List Token} (h : Tokenized offset line cs tokens)
    (hSource : source.drop offset = cs.flatMap String.utf8EncodeChar)
    {start : Nat} (hStart : start ≤ offset) :
    reassembled source start tokens = source.drop start := by
  induction h generalizing start with
  | nil => rfl
  | @skip offset line c cs tokens hSkip tail ih =>
      refine ih ?_ (by omega)
      rw [← List.drop_drop, hSource, List.flatMap_cons, ← String.length_utf8EncodeChar,
        List.drop_left]
  | @token offset line kind text after tokens hLexeme tail ih =>
      have hRest : source.drop (offset + byteLength text) =
          after.flatMap String.utf8EncodeChar := by
        rw [← List.drop_drop, hSource, List.flatMap_append, ← length_flatMap_encode,
          List.drop_left]
      have hHere : bytes (.ofList text) ++ source.drop (offset + byteLength text) =
          source.drop offset := by
        rw [hRest, hSource, bytes_ofList, List.flatMap_append]
      rw [reassembled, ih hRest (Nat.le_refl _), List.append_assoc, hHere,
        extract_append_drop hStart]

/-- A token starts and stops on boundaries of characters. -/
theorem isValid_of_mem_tokenize {source : String} {token : Token}
    (hMem : token ∈ tokenize source) :
    (⟨token.start⟩ : String.Pos.Raw).IsValid source ∧
      (⟨token.stop⟩ : String.Pos.Raw).IsValid source := by
  obtain ⟨before, after, hSource, hStart, hStop, -, -⟩ := exists_split_of_mem_tokenize hMem
  rw [hStop, hStart, ← byteLength_append]
  constructor
  · rw [List.append_assoc] at hSource
    exact isValid_byteLength hSource
  · exact isValid_byteLength hSource

/-- The line of a token is the one that the line table has for its start. -/
theorem lineOf_start_of_mem_tokenize {source : String} {token : Token}
    (hMem : token ∈ tokenize source) : lineOf (linesOf source) token.start = token.line := by
  obtain ⟨before, after, hSource, hStart, -, hLine, -⟩ := exists_split_of_mem_tokenize hMem
  rw [List.append_assoc] at hSource
  rw [hStart, lineOf_linesOf hSource, hLine]

/-- The tokens of any document cover its source: they are nonempty, in order and on boundaries of
characters, carry the bytes of their spans, and leave out none but skipped characters. -/
theorem document_covered (markers : Markers) (source : String) :
    Covered (.read markers source) where
  nonempty token hMem := by
    obtain ⟨before, after, -, hStart, hStop, -, hLexeme⟩ := exists_split_of_mem_tokenize hMem
    have hPos := byteLength_pos hLexeme.ne_nil
    omega
  boundary token hMem := isValid_of_mem_tokenize hMem
  ordered := (tokenized_tokenize source).pairwise
  text token hMem := by
    obtain ⟨before, after, hSource, hStart, hStop, -, -⟩ := exists_split_of_mem_tokenize hMem
    have hExtract := extract_bytes hSource
    rw [String.ofList_toList, ← hStop, ← hStart] at hExtract
    exact hExtract.symm
  gap i b hByte hOutside := by
    have hByte : (bytes source)[i]? = some b := hByte
    rw [bytes_eq_flatMap] at hByte
    refine (tokenized_tokenize source).mem_skippedBytes hByte ?_
    rw [Nat.zero_add]
    exact hOutside
  whole := (tokenized_tokenize source).reassembled_eq (bytes_eq_flatMap source) (Nat.le_refl 0)
  line token hMem := by
    obtain ⟨before, after, hSource, hStart, -, hLine, -⟩ := exists_split_of_mem_tokenize hMem
    refine ⟨.ofList before, .ofList after, ?_, ?_, ?_⟩
    · have hText : source = .ofList before ++ token.text ++ .ofList after := by
        rw [← String.toList_inj, hSource]
        simp
      exact hText
    · rw [utf8ByteSize_eq, String.toList_ofList, hStart]
    · rw [String.toList_ofList, hLine, lineFeeds_eq_count]
  position i token hToken := by
    have hToken : (tokenize source)[i]? = some token := hToken
    have hLine := lineOf_start_of_mem_tokenize (List.mem_of_getElem? hToken)
    simp [Document.positionOfToken?, Document.read, hToken, hLine]

end RuleOutline
