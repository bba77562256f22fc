import RuleOutline.Command
import RuleOutline.Proofs.Text.Quoted
import RuleOutline.Proofs.Token.Layout
import RuleOutline.Proofs.Tree.Drawing

/-! The listing of tokens. Each token has a line of its own, whatever its text has in it, and is read
back from there. With their places the tokens tell their source, up to which characters the white
space between them is made of. -/
namespace RuleOutline

open Text

section Display

theorem toList_display (token : Token) :
    token.display.toList =
      Nat.toDigits 10 token.line ++ ' ' :: (token.kind.name.toList ++ ' ' ::
        (Nat.toDigits 10 token.start ++ '.' :: '.' :: (Nat.toDigits 10 token.stop ++ ' ' ::
          (quoted token.text).toList))) := by
  simp [Token.display, toString, Nat.toList_repr]

example : (⟨.block, "\x7b\n\u0301\"\x7d", 3, 9, 7⟩ : Token).display =
    "7 Block 3..9 \"\x7b\\n\\u\x7b301\x7d\\\"\x7d\"" := by
  decide +kernel

theorem toNat_of_mem_name {kind : Kind} {c : Char} (h : c ∈ kind.name.toList) :
    0x20 < c.toNat ∧ c.toNat ≤ 0x7E := by
  revert c
  cases kind <;> simp [Kind.name]

theorem toNat_of_mem_toDigits {n : Nat} {c : Char} (h : c ∈ Nat.toDigits 10 n) :
    0x30 ≤ c.toNat ∧ c.toNat ≤ 0x39 :=
  Char.isDigit_iff_toNat.mp (Nat.isDigit_of_mem_toDigits (by decide) (by decide) h)

/-- A token is listed in characters that are shown as themselves. -/
theorem isVisible_of_mem_display {token : Token} {c : Char} (h : c ∈ token.display.toList) :
    Unicode.isVisible c = true := by
  have hDigits : ∀ n, ∀ d ∈ Nat.toDigits 10 n, Unicode.isVisible d = true := by
    intro n d hd
    have hRange := toNat_of_mem_toDigits hd
    exact isVisible_of_toNat (by omega) (by omega)
  have hName : ∀ d ∈ token.kind.name.toList, Unicode.isVisible d = true := by
    intro d hd
    have hRange := toNat_of_mem_name hd
    exact isVisible_of_toNat (by omega) hRange.2
  have hText : ∀ d ∈ (quoted token.text).toList, Unicode.isVisible d = true := fun _ =>
    isVisible_of_mem_quoted
  have hAll : ∀ d ∈ token.display.toList, Unicode.isVisible d = true := by
    simp only [toList_display, List.forall_mem_append, List.forall_mem_cons]
    exact ⟨hDigits _, rfl, hName, rfl, hDigits _, rfl, rfl, hDigits _, rfl, hText⟩
  exact hAll c h

theorem break_not_mem_display (token : Token) :
    '\r' ∉ token.display.toList ∧ '\n' ∉ token.display.toList := by
  constructor
  · intro hReturn
    cases isVisible_of_mem_display hReturn
  · intro hFeed
    cases isVisible_of_mem_display hFeed

end Display

section Read

/-- All kinds of tokens. -/
def Kind.all : List Kind :=
  [.identifier, .colon, .semicolon, .pipe, .openParen, .closeParen, .block, .lineComment,
    .blockComment, .literal, .number, .operator, .unknown]

/-- Reads the name of a kind, up to the space behind it. -/
def readKind? (cs : List Char) : Option (Kind × List Char) :=
  (Kind.all.find? fun kind => kind.name == .ofList (cs.takeWhile (· != ' '))).map
    (·, cs.dropWhile (· != ' '))

/-- Reads a number, up to the first character that is no digit. -/
def readCount (cs : List Char) : Nat × List Char :=
  (Nat.ofDigitChars 10 (cs.takeWhile Char.isDigit) 0, cs.dropWhile Char.isDigit)

/-- Reads the line of a token. -/
def readToken? (display : List Char) : Option Token := do
  let (line, ' ' :: cs) := readCount display | none
  let (kind, ' ' :: cs) ← readKind? cs | none
  let (start, '.' :: '.' :: cs) := readCount cs | none
  let (stop, ' ' :: cs) := readCount cs | none
  let (text, []) ← readQuoted? cs | none
  some ⟨kind, text, start, stop, line⟩

/-- Reads the lines of a listing. -/
def readListing? (listing : String) : Option (List Token) :=
  ((splitLines listing.toList).dropLast.map List.dropLast).mapM readToken?

theorem readKind?_name (kind : Kind) (cs : List Char) :
    readKind? (kind.name.toList ++ ' ' :: cs) = some (kind, ' ' :: cs) := by
  have hSpace : ∀ c ∈ kind.name.toList, (c != ' ') = true := by
    intro c hc
    rw [bne_iff_ne]
    rintro rfl
    exact absurd (toNat_of_mem_name hc).1 (by decide)
  have hKind : (Kind.all.find? fun other => other.name == kind.name) = some kind := by
    cases kind <;> rfl
  simp [readKind?, List.takeWhile_append_of_pos hSpace, List.dropWhile_append_of_pos hSpace, hKind]

theorem readCount_toDigits (n : Nat) {c : Char} (h : c.isDigit = false) (cs : List Char) :
    readCount (Nat.toDigits 10 n ++ c :: cs) = (n, c :: cs) := by
  have hDigits : ∀ d ∈ Nat.toDigits 10 n, d.isDigit = true := fun d hd =>
    Nat.isDigit_of_mem_toDigits (by decide) (by decide) hd
  simp [readCount, List.takeWhile_append_of_pos hDigits, List.dropWhile_append_of_pos hDigits, h,
    Nat.ofDigitChars_ten_toDigits]

/-- A token is read back from its line. -/
theorem readToken?_display (token : Token) : readToken? token.display.toList = some token := by
  have hText := readQuoted?_quoted token.text []
  rw [List.append_nil] at hText
  rw [toList_display, readToken?, readCount_toDigits token.line (by decide)]
  simp [readKind?_name, readCount_toDigits, hText]

theorem display_injective : Function.Injective Token.display := by
  intro token other hDisplay
  have hRead := readToken?_display token
  rw [hDisplay, readToken?_display other] at hRead
  exact (Option.some.inj hRead).symm

variable (tokens : List Token)

theorem inLines_tokenListing :
    InLines (tokens.map (·.display.toList)) (tokenListing tokens) := by
  refine ⟨List.forall_mem_map.mpr fun token _ => (break_not_mem_display token).2, ?_⟩
  rw [tokenListing, List.flatMap_map]
  induction tokens with
  | nil => rfl
  | cons token tokens ih => simp [ih]

theorem readListing?_tokenListing : readListing? (tokenListing tokens) = some tokens := by
  rw [readListing?, (inLines_tokenListing tokens).lines_eq]
  induction tokens with
  | nil => rfl
  | cons token tokens ih => simp [readToken?_display, ih]

theorem tokenListing_injective : Function.Injective tokenListing := by
  intro tokens other hListing
  have hRead := readListing?_tokenListing tokens
  rw [hListing, readListing?_tokenListing other] at hRead
  exact (Option.some.inj hRead).symm

end Read

section Gaps

/-- Two texts that consist of these tokens, and of gaps before, between and behind them. A gap in
front of a token is as long in the one as in the other, and has as many lines. -/
inductive SameButGaps : List Token → List Char → List Char → Prop where
  | done {gap other : List Char} (hGap : IsGap gap) (hOther : IsGap other) :
      SameButGaps [] gap other
  | token {token : Token} {tokens : List Token} {gap other rest more : List Char}
      (hGap : IsGap gap) (hOther : IsGap other) (hLength : gap.length = other.length)
      (hLines : lineFeeds gap = lineFeeds other) (tail : SameButGaps tokens rest more) :
      SameButGaps (token :: tokens) (gap ++ (token.text.toList ++ rest))
        (other ++ (token.text.toList ++ more))

/-- Where the same tokens are laid out, the texts are the same but for the gaps. -/
theorem Tokenized.sameButGaps {offset line : Nat} {cs other : List Char} {tokens : List Token}
    (h : Tokenized offset line cs tokens) (hOther : Tokenized offset line other tokens) :
    SameButGaps tokens cs other := by
  induction tokens generalizing offset line cs other with
  | nil => exact .done h.isGap hOther.isGap
  | cons token tokens ih =>
      obtain ⟨gap, rest, rfl, hGap, hStart, hLine, -, hRest⟩ := h.exists_gap
      obtain ⟨gap', more, rfl, hGap', hStart', hLine', -, hMore⟩ := hOther.exists_gap
      rw [hGap.byteLength_eq] at hStart
      rw [hGap'.byteLength_eq] at hStart'
      have hLength : gap.length = gap'.length := by omega
      have hLines : lineFeeds gap = lineFeeds gap' := by omega
      exact .token hGap hGap' hLength hLines (ih hRest hMore)

end Gaps

/-- The listing of the tokens of a source: what prints it, the lines it has, and what can be told from
it, which is the tokens and all of the source but its gaps. -/
structure IsListed (source : String) : Prop where
  printed : ∀ (files : Files) (arguments : List String) (path : String),
    Request.read arguments = .ok (.tokens path) → files.readText path = .ok source →
      run files arguments = ⟨0, tokenListing (tokenize source), ""⟩
  inLines : InLines ((tokenize source).map (·.display.toList)) (tokenListing (tokenize source))
  read : readListing? (tokenListing (tokenize source)) = some (tokenize source)
  alike : ∀ other, tokenListing (tokenize other) = tokenListing (tokenize source) →
    tokenize other = tokenize source ∧ SameButGaps (tokenize source) source.toList other.toList

section Source

variable {source other : String}

theorem run_tokens {files : Files} {arguments : List String} {path : String}
    (hRequest : Request.read arguments = .ok (.tokens path))
    (hRead : files.readText path = .ok source) :
    run files arguments = ⟨0, tokenListing (tokenize source), ""⟩ := by
  rw [run, hRequest]
  simp only [Request.answer, readDocument, hRead]
  rfl

theorem sameButGaps_of_tokenize_eq (h : tokenize other = tokenize source) :
    SameButGaps (tokenize source) source.toList other.toList := by
  have hOther := tokenized_tokenize other
  rw [h] at hOther
  exact (tokenized_tokenize source).sameButGaps hOther

theorem isListed (source : String) : IsListed source where
  printed _ _ _ := run_tokens
  inLines := inLines_tokenListing (tokenize source)
  read := readListing?_tokenListing (tokenize source)
  alike other hListing := by
    have hTokens := tokenListing_injective hListing
    exact ⟨hTokens, sameButGaps_of_tokenize_eq hTokens⟩

end Source

/-- Every token is listed on one line, no two tokens are listed alike, and every source is listed in
such lines, from which its tokens and, but for gaps, the source can be told. -/
theorem listing_lossless :
    (∀ token : Token, '\r' ∉ token.display.toList ∧ '\n' ∉ token.display.toList) ∧
      Function.Injective Token.display ∧ ∀ source, IsListed source :=
  ⟨break_not_mem_display, display_injective, isListed⟩

end RuleOutline
