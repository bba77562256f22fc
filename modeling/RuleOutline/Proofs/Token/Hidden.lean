import RuleOutline.Proofs.Token.Scan

/-! Braces hidden in action code and in grammar text. A literal and a block comment end at the same
place in both. A line comment ends before the first line end in grammar text, but in action code
before the first line feed: a carriage return ends the one and not the other. -/
namespace RuleOutline

open Text

/-- The kind of the token that an opener begins in grammar text. -/
def Opener.kind : Opener → Kind
  | .literal _ => .literal
  | .lineComment => .lineComment
  | .blockComment => .blockComment

/-- What an opener hides in action code, in two parts: the token that it begins in grammar text, and
more. There is more only behind a line comment that a carriage return ends. A line comment of
action code ends before a line feed, or with the text. -/
structure Opener.Splits (opener : Opener) (shown more rest : List Char) : Prop where
  lexeme : Lexeme opener.kind shown (more ++ rest)
  head : more ≠ [] → opener = .lineComment ∧ more.head? = some '\r'
  line : opener = .lineComment → '\n' ∉ shown ++ more ∧ ∀ c ∈ rest.head?, c = '\n'

/-- A line comment up to a line feed is one up to a line end, and more from a carriage return on. -/
theorem splits_lineComment {text rest : List Char} (h : IsLineComment (· == '\n') text rest) :
    ∃ shown more, text = shown ++ more ∧ Opener.lineComment.Splits shown more rest := by
  cases h with
  | @intro body _ hBody hRest =>
      obtain ⟨shown, more, rfl, hShown, hMore⟩ := exists_class (fun c => !isBreak c) body
      have hFeed : ∀ c ∈ rest.head?, c = '\n' := fun c hc => by simpa using hRest c hc
      have hNoFeed : '\n' ∉ shown ++ more := fun hMem => absurd (hBody _ hMem) (by decide)
      have hBreak : ∀ c ∈ (more ++ rest).head?, isBreak c = true := by
        cases more with
        | nil =>
            intro c hc
            rw [hFeed c hc]
            rfl
        | cons c more => simpa using hMore
      refine ⟨'/' :: '/' :: shown, more, rfl, .lineComment (.intro (by simpa using hShown) hBreak),
        ?_, fun _ => ⟨by simpa using hNoFeed, hFeed⟩⟩
      intro hSome
      obtain ⟨c, more, rfl⟩ := List.exists_cons_of_ne_nil hSome
      have hReturn : c = '\r' := by
        have hHere := hBreak c rfl
        simp only [isBreak, Bool.or_eq_true, beq_iff_eq] at hHere
        refine hHere.resolve_left ?_
        rintro rfl
        exact hNoFeed (by simp)
      rw [hReturn]
      exact ⟨rfl, rfl⟩

/-- In grammar text a token begins with every opener, and it takes in no more than is hidden. -/
theorem Opener.Hides.splits {opener : Opener} {text rest : List Char}
    (h : opener.Hides text rest) :
    ∃ shown more, text = shown ++ more ∧ opener.Splits shown more rest := by
  cases h with
  | literal h =>
      exact ⟨_, [], (List.append_nil _).symm, .literal h, fun hSome => absurd rfl hSome,
        fun hLine => by cases hLine⟩
  | blockComment h =>
      exact ⟨_, [], (List.append_nil _).symm, .blockComment h, fun hSome => absurd rfl hSome,
        fun hLine => by cases hLine⟩
  | lineComment h => exact splits_lineComment h

/-- Between the two places there is a carriage return, but no line feed. -/
def OnlyReturns (code : String) (start stop : Nat) : Prop :=
  (∃ k, start < k ∧ k < stop ∧ HasByte code k '\r') ∧
    ∀ k, start < k → k < stop → ¬HasByte code k '\n'

/-- No brace is a line end. -/
theorem not_hasByte_of_brace {code : String} {j : Nat} {brace c : Char}
    (hBrace : brace = '\x7b' ∨ brace = '\x7d') (hByte : HasByte code j brace)
    (hBreak : isBreak c = true) : ¬HasByte code j c := by
  intro hOther
  simp only [isBreak, Bool.or_eq_true, beq_iff_eq] at hBreak
  rcases hBrace with rfl | rfl <;> rcases hBreak with rfl | rfl <;>
    exact absurd (hByte.unique hOther (by decide) (by decide)) (by decide)

namespace Opener.Splits

variable {code : String} {before shown more rest : List Char} {opener : Opener} {brace : Char}
  {j : Nat}

/-- A brace that is hidden, but not in the token, is behind a carriage return. -/
theorem onlyReturns (hSplits : opener.Splits shown more rest)
    (h : code.toList = before ++ ((shown ++ more) ++ rest))
    (hBrace : brace = '\x7b' ∨ brace = '\x7d') (hByte : HasByte code j brace)
    (hStart : byteLength before + byteLength shown ≤ j)
    (hStop : j < byteLength before + byteLength (shown ++ more)) :
    opener = .lineComment ∧ OnlyReturns code (byteLength before) j := by
  have hSome : more ≠ [] := by
    rintro rfl
    rw [List.append_nil] at hStop
    omega
  obtain ⟨hLine, hHead⟩ := hSplits.head hSome
  have hShown := byteLength_pos hSplits.lexeme.ne_nil
  have hReturn : HasByte code (byteLength before + byteLength shown) '\r' := by
    have hSplit : code.toList = (before ++ shown) ++ (more ++ rest) := by simp [h]
    rw [← byteLength_append, hasByte_iff_head? hSplit (by decide), List.head?_append, hHead]
    rfl
  have hPast : byteLength before + byteLength shown ≠ j := by
    rintro rfl
    exact not_hasByte_of_brace hBrace hByte rfl hReturn
  refine ⟨hLine, ⟨_, by omega, by omega, hReturn⟩, ?_⟩
  intro k hFrom hTo hFeed
  exact (hSplits.line hLine).1 (hFeed.mem (by decide) h (by omega) (by omega))

/-- A brace behind a carriage return is hidden if no line feed is between. -/
theorem lt_of_onlyReturns (hSplits : opener.Splits shown more rest)
    (h : code.toList = before ++ ((shown ++ more) ++ rest))
    (hBrace : brace = '\x7b' ∨ brace = '\x7d') (hByte : HasByte code j brace)
    (hLine : opener = .lineComment) (hReturns : OnlyReturns code (byteLength before) j) :
    j < byteLength before + byteLength (shown ++ more) := by
  have hSplit : code.toList = (before ++ (shown ++ more)) ++ rest := by simp [h]
  have hText : 0 < byteLength (shown ++ more) := by
    have hShown := byteLength_pos hSplits.lexeme.ne_nil
    rw [byteLength_append]
    omega
  refine Nat.lt_of_not_le fun hPast => ?_
  cases rest with
  | nil =>
      refine not_hasByte_of_le ?_ brace hByte
      rwa [utf8ByteSize_eq, hSplit, List.append_nil, byteLength_append]
  | cons c rest =>
      obtain rfl : c = '\n' := (hSplits.line hLine).2 c rfl
      have hFeed : HasByte code (byteLength before + byteLength (shown ++ more)) '\n' := by
        rw [← byteLength_append, hasByte_iff_head? hSplit (by decide)]
        rfl
      rcases Nat.eq_or_lt_of_le hPast with rfl | hPast
      · exact not_hasByte_of_brace hBrace hByte rfl hFeed
      · exact hReturns.2 _ (by omega) hPast hFeed

end Opener.Splits

/-- What a scan passes over at an opener, told by the token that begins there in grammar text: the
braces of the token, and those behind it that only carriage returns keep from a line comment. -/
structure HidesToken (code : String) (scan : Scan) (opener : Opener) (token : Token)
    (next : Scan) : Prop where
  begins : ∃ cs tokens, slice? code scan.index code.utf8ByteSize = some cs ∧
    tokenize (.ofList cs) = token :: tokens
  kind : token.kind = opener.kind
  start : token.start = 0
  step : scan.step? code = some (.moved next)
  depth : next.depth = scan.depth
  brace : ∀ j brace, scan.index < j → (brace = '\x7b' ∨ brace = '\x7d') → HasByte code j brace →
    (j < next.index ↔ j < scan.index + token.stop ∨
      opener = .lineComment ∧ OnlyReturns code scan.index j)

/-- Action code hides the braces that grammar text hides, and in a line comment those behind a
carriage return besides. -/
theorem hidesToken_of_reaches {code : String} {scan : Scan} {opener : Opener}
    (hReaches : Scan.Reaches code scan) (hOpener : scan.opener? code = some opener) :
    ∃ token next, HidesToken code scan opener token next := by
  obtain ⟨before, text, rest, depth, rfl, h, hHides⟩ : ∃ before text rest depth,
      scan = ⟨byteLength before, depth⟩ ∧ code.toList = before ++ (text ++ rest) ∧
        opener.Hides text rest := hReaches.stands.exists_hides hOpener
  obtain ⟨shown, more, rfl, hSplits⟩ := hHides.splits
  have hTokens := tokensFrom_lexeme 0 1 hSplits.lexeme
  rw [← List.append_assoc, ← String.toList_ofList (l := shown ++ more ++ rest)] at hTokens
  refine ⟨_, _, ⟨_, _, slice?_rest h, hTokens⟩, rfl, rfl, Scan.step?_hides hHides h depth,
    rfl, ?_⟩
  intro j brace hFrom hBrace hByte
  show j < byteLength (before ++ (shown ++ more)) ↔
    j < byteLength before + (0 + byteLength shown) ∨ _
  rw [Nat.zero_add, byteLength_append before]
  constructor
  · intro hStop
    rcases Nat.lt_or_ge j (byteLength before + byteLength shown) with hToken | hStart
    · exact .inl hToken
    · exact .inr (hSplits.onlyReturns h hBrace hByte hStart hStop)
  · rintro (hToken | ⟨hLine, hReturns⟩)
    · rw [byteLength_append]
      omega
    · exact hSplits.lt_of_onlyReturns h hBrace hByte hLine hReturns

theorem hidesToken_of_reaches_carriageReturn :
    (Scan.Reaches "/*\x7d*/\x7b//\r\x7d\n\x7d" ⟨6, 2⟩ ∧
      Scan.opener? "/*\x7d*/\x7b//\r\x7d\n\x7d" ⟨6, 2⟩ = some .lineComment) ∧
        ∃ token next, HidesToken "/*\x7d*/\x7b//\r\x7d\n\x7d" ⟨6, 2⟩ .lineComment token next := by
  have hComment : Scan.Reaches "/*\x7d*/\x7b//\r\x7d\n\x7d" ⟨5, 1⟩ :=
    .step .start (by decide +kernel)
  have hReaches : Scan.Reaches "/*\x7d*/\x7b//\r\x7d\n\x7d" ⟨6, 2⟩ :=
    .step hComment (by decide +kernel)
  have hOpener : Scan.opener? "/*\x7d*/\x7b//\r\x7d\n\x7d" ⟨6, 2⟩ = some .lineComment := by
    decide +kernel
  exact ⟨⟨hReaches, hOpener⟩, hidesToken_of_reaches hReaches hOpener⟩

/-- A brace behind an opener is passed over just if it is in the token that begins there. -/
def HidesTokenOnly (code : String) : Prop :=
  ∀ scan opener token next, Scan.Reaches code scan → scan.opener? code = some opener →
    (∃ cs tokens, slice? code scan.index code.utf8ByteSize = some cs ∧
      tokenize (.ofList cs) = token :: tokens) →
    scan.step? code = some (.moved next) →
    ∀ j brace, scan.index < j → (brace = '\x7b' ∨ brace = '\x7d') → HasByte code j brace →
      (j < next.index ↔ scan.index + token.start ≤ j ∧ j < scan.index + token.stop)

/-- A brace behind a carriage return is passed over though the comment has ended before it. -/
theorem not_hidesTokenOnly_carriageReturn : ¬HidesTokenOnly "//\r\x7d ;" := by
  intro h
  have hTokens : ∃ cs tokens,
      slice? "//\r\x7d ;" 0 (String.utf8ByteSize "//\r\x7d ;") = some cs ∧
        tokenize (.ofList cs) = ⟨.lineComment, "//", 0, 2, 1⟩ :: tokens :=
    ⟨"//\r\x7d ;".toList, (tokenize "//\r\x7d ;").tail, by decide +kernel, by decide +kernel⟩
  have hBrace := h .start .lineComment _ ⟨6, 1⟩ .start (by decide +kernel) hTokens
    (by decide +kernel) 3 '\x7d' (by decide) (.inr rfl) (by decide +kernel)
  exact absurd (hBrace.mp (by decide)).2 (by decide)

end RuleOutline
