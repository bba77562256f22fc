import Mathlib.Data.String.Basic
import RuleOutline.Proofs.Text.Bytes
import RuleOutline.Proofs.Token.Shift

/-! Parts of a text that begin and end with a token. Nothing before a token bears on it, and of
what comes after it the reader sees one character at most, which only ends it. So a part has the
same tokens by itself as it has in the whole text. -/
namespace RuleOutline

open Text

section Between

/-- The text between two offsets. -/
def between (source : String) (start stop : Nat) : String :=
  String.Pos.Raw.extract source ⟨start⟩ ⟨stop⟩

theorem utf8Len_eq_byteLength (cs : List Char) : String.utf8Len cs = byteLength cs := by
  induction cs with
  | nil => rfl
  | cons c cs ih => rw [String.utf8Len_cons, ih, byteLength_cons, Nat.add_comm]

theorem between_eq {source : String} {before part after : List Char}
    (h : source.toList = before ++ part ++ after) :
    between source (byteLength before) (byteLength before + byteLength part) = .ofList part := by
  have hPart := String.extract_of_valid before part after
  rwa [← h, String.ofList_toList, utf8Len_eq_byteLength, utf8Len_eq_byteLength] at hPart

end Between

section Cut

/-- A reader takes nothing just when the next character, if there is one, stands outside. -/
theorem Reading.run_eq_stop_iff {reading : Reading} {kind : Kind} {cs : List Char} :
    reading.run cs = ⟨kind, [], cs⟩ ↔
      reading.kind = kind ∧ ∀ c ∈ cs.head?, reading.step c = .stop := by
  cases cs with
  | nil => simp
  | cons c cs =>
      cases hStep : reading.step c with
      | more next => simp [run, hStep]
      | last => simp [run, hStep]
      | stop => simp [run, hStep]

theorem Cut.prepend_eq_cons_iff {cut : Cut} {kind : Kind} {c : Char} {taken rest : List Char} :
    cut.prepend [c] = ⟨kind, c :: taken, rest⟩ ↔ cut = ⟨kind, taken, rest⟩ := by
  cases cut
  simp [prepend]

/-- A token stays what it is when the text is cut off anywhere behind it. -/
theorem Reading.run_cut {reading : Reading} {kind : Kind} {taken rest more : List Char}
    (h : reading.run (taken ++ (rest ++ more)) = ⟨kind, taken, rest ++ more⟩) :
    reading.run (taken ++ rest) = ⟨kind, taken, rest⟩ := by
  induction taken generalizing reading with
  | nil =>
      rw [List.nil_append, run_eq_stop_iff] at h ⊢
      refine ⟨h.1, ?_⟩
      intro c hc
      apply h.2
      rw [List.head?_append, Option.mem_def.mp hc]
      rfl
  | cons c taken ih =>
      rw [List.cons_append] at h ⊢
      cases hStep : reading.step c with
      | more next =>
          rw [run_cons_more next _ hStep, Cut.prepend_eq_cons_iff] at h ⊢
          exact ih h
      | last =>
          rw [run_cons_last _ hStep] at h ⊢
          simp_all
      | stop =>
          rw [run_cons_stop _ hStep] at h
          simp at h

/-- Cutting a text off behind a lexeme leaves the lexeme. -/
theorem Lexeme.cut {kind : Kind} {text rest more : List Char}
    (h : Lexeme kind text (rest ++ more)) : Lexeme kind text rest := by
  obtain ⟨c, tail, reading, rfl, hStart, hRun⟩ := h.reads
  have hLexeme := lexeme_run hStart (tail ++ rest)
  rwa [Reading.run_cut hRun] at hLexeme

variable {offset line : Nat} {cs : List Char} {earlier later : List Token}

/-- A text can be cut in front of any of its tokens. -/
theorem Tokenized.exists_start {first : Token}
    (h : Tokenized offset line cs (earlier ++ first :: later)) :
    ∃ before after, cs = before ++ after ∧ first.start = offset + byteLength before ∧
      first.line = line + lineFeeds before ∧
      Tokenized first.start first.line after (first :: later) := by
  generalize hTokens : earlier ++ first :: later = tokens at h
  induction h generalizing earlier with
  | nil => simp at hTokens
  | @skip offset line c cs tokens hSkip tail ih =>
      obtain ⟨before, after, rfl, hStart, hLine, hAfter⟩ := ih hTokens
      refine ⟨c :: before, after, rfl, ?_, ?_, hAfter⟩
      · rw [hStart, byteLength_cons, Nat.add_assoc]
      · rw [hLine, lineFeeds_cons, Nat.add_assoc]
  | @token offset line kind text rest tokens hLexeme tail ih =>
      cases earlier with
      | nil =>
          obtain ⟨rfl, rfl⟩ := List.cons.inj hTokens
          exact ⟨[], text ++ rest, rfl, rfl, rfl, .token hLexeme tail⟩
      | cons token earlier =>
          obtain ⟨before, after, rfl, hStart, hLine, hAfter⟩ := ih (List.cons.inj hTokens).2
          refine ⟨text ++ before, after, by simp, ?_, ?_, hAfter⟩
          · rw [hStart, byteLength_append, Nat.add_assoc]
          · rw [hLine, lineFeeds_append, Nat.add_assoc]

/-- A text can be cut behind any of its tokens. -/
theorem Tokenized.exists_stop {last : Token}
    (h : Tokenized offset line cs (earlier ++ last :: later)) :
    ∃ part after, cs = part ++ after ∧ last.stop = offset + byteLength part ∧
      Tokenized offset line part (earlier ++ [last]) := by
  generalize hTokens : earlier ++ last :: later = tokens at h
  induction h generalizing earlier with
  | nil => simp at hTokens
  | @skip offset line c cs tokens hSkip tail ih =>
      obtain ⟨part, after, rfl, hStop, hPart⟩ := ih hTokens
      refine ⟨c :: part, after, rfl, ?_, .skip hSkip hPart⟩
      rw [hStop, byteLength_cons, Nat.add_assoc]
  | @token offset line kind text rest tokens hLexeme tail ih =>
      cases earlier with
      | nil =>
          -- Here the text ends with its last token, and nothing is left to tell the token's end.
          obtain ⟨rfl, rfl⟩ := List.cons.inj hTokens
          have hAlone : Lexeme kind text [] := hLexeme.cut
          have hNone := Tokenized.nil (offset + byteLength text) (line + lineFeeds text)
          have hPart := Tokenized.token hAlone hNone
          rw [List.append_nil] at hPart
          exact ⟨text, rest, rfl, rfl, hPart⟩
      | cons token earlier =>
          obtain ⟨rfl, hLater⟩ := List.cons.inj hTokens
          obtain ⟨part, after, rfl, hStop, hPart⟩ := ih hLater
          refine ⟨text ++ part, after, by simp, ?_, .token hLexeme.cut hPart⟩
          rw [hStop, byteLength_append, Nat.add_assoc]

/-- Tokens in a row are those of the text from the start of the first to the end of the last. -/
theorem Tokenized.exists_part {tokens : List Token} {first last : Token}
    (h : Tokenized offset line cs (earlier ++ (tokens ++ later)))
    (hFirst : first ∈ tokens.head?) (hLast : last ∈ tokens.getLast?) :
    ∃ before part after, cs = before ++ part ++ after ∧
      first.start = offset + byteLength before ∧ first.line = line + lineFeeds before ∧
      last.stop = offset + byteLength before + byteLength part ∧
      Tokenized (offset + byteLength before) (line + lineFeeds before) part tokens := by
  obtain ⟨rest, rfl⟩ := List.head?_eq_some_iff.mp hFirst
  rw [List.cons_append] at h
  obtain ⟨before, text, rfl, hStart, hLine, hText⟩ := h.exists_start
  rw [hStart, hLine] at hText
  obtain ⟨front, hTokens⟩ := List.getLast?_eq_some_iff.mp hLast
  rw [← List.cons_append, hTokens, List.append_assoc] at hText
  obtain ⟨part, after, rfl, hStop, hPart⟩ := hText.exists_stop
  rw [← hTokens] at hPart
  exact ⟨before, part, after, by simp, hStart, hLine, hStop, hPart⟩

end Cut

section Part

/-- The token as it is placed in a text that begins with the given one. -/
def Token.relativeTo (token first : Token) : Token :=
  { token with
    start := token.start - first.start
    stop := token.stop - first.start
    line := token.line - first.line + 1 }

theorem one_le_line_of_mem_tokenize {source : String} {token : Token}
    (hMem : token ∈ tokenize source) : 1 ≤ token.line := by
  obtain ⟨before, after, -, -, -, hLine, -⟩ := exists_split_of_mem_tokenize hMem
  omega

theorem Token.relativeTo_shift {token first : Token} {size feeds : Nat}
    (hStart : first.start = size) (hLine : first.line = 1 + feeds) (hToken : 1 ≤ token.line) :
    (token.shift size feeds).relativeTo first = token := by
  have hPlace : token.line + feeds - (1 + feeds) + 1 = token.line := by omega
  simp [Token.shift, relativeTo, hStart, hLine, hPlace]

/-- Tokens in a row are the tokens of the text from the first of them to the last. -/
theorem tokenize_between {source : String} {earlier tokens later : List Token} {first last : Token}
    (hTokens : tokenize source = earlier ++ (tokens ++ later)) (hFirst : first ∈ tokens.head?)
    (hLast : last ∈ tokens.getLast?) :
    tokenize (between source first.start last.stop) = tokens.map (·.relativeTo first) := by
  have hSource := tokenized_tokenize source
  rw [hTokens] at hSource
  obtain ⟨before, part, after, hSplit, hStart, hLine, hStop, hPart⟩ :=
    hSource.exists_part hFirst hLast
  rw [Nat.zero_add] at hStart hStop
  have hText : between source first.start last.stop = .ofList part := by
    rw [hStart, hStop, between_eq hSplit]
  have hAlone := (tokenized_tokenize (.ofList part)).shift (byteLength before) (lineFeeds before)
  rw [String.toList_ofList] at hAlone
  have hSame := hPart.eq_tokensFrom.trans hAlone.eq_tokensFrom.symm
  have hBack : ((tokenize (.ofList part)).map
      (·.shift (byteLength before) (lineFeeds before))).map (·.relativeTo first) =
        tokenize (.ofList part) := by
    rw [List.map_map]
    apply (List.map_congr_left _).trans (List.map_id _)
    intro token hToken
    exact Token.relativeTo_shift hStart hLine (one_le_line_of_mem_tokenize hToken)
  rw [hText, hSame, hBack]

/-- A token is the only token of its own text. -/
theorem tokenize_text {source : String} {token : Token} (hMem : token ∈ tokenize source) :
    tokenize token.text = [⟨token.kind, token.text, 0, token.text.utf8ByteSize, 1⟩] := by
  obtain ⟨before, after, -, -, -, -, hLexeme⟩ := exists_split_of_mem_tokenize hMem
  have hAlone : Lexeme token.kind token.text.toList [] := hLexeme.cut
  have hTokens := tokensFrom_lexeme 0 1 hAlone
  rwa [List.append_nil, tokensFrom_nil, String.ofList_toList, Nat.zero_add, ← utf8ByteSize_eq]
    at hTokens

theorem eq_append_extract {α : Type} {xs : List α} {i j : Nat} (h : i ≤ j) :
    xs = xs.take i ++ (xs.extract i (j + 1) ++ xs.drop (j + 1)) := by
  obtain ⟨count, hCount⟩ : ∃ count, j + 1 = i + count :=
    Nat.exists_eq_add_of_le (h.trans (Nat.le_succ j))
  rw [List.extract_eq_take_drop, hCount, Nat.add_sub_cancel_left, ← List.drop_drop,
    List.take_append_drop, List.take_append_drop]

theorem mem_head?_extract {α : Type} {xs : List α} {i j : Nat} {x : α} (hOrder : i ≤ j)
    (hFirst : xs[i]? = some x) : x ∈ (xs.extract i (j + 1)).head? := by
  rw [List.extract_eq_take_drop, List.head?_take, if_neg (by omega), List.head?_drop]
  exact hFirst

theorem mem_getLast?_extract {α : Type} {xs : List α} {i j : Nat} {x : α} (hOrder : i ≤ j)
    (hLast : xs[j]? = some x) : x ∈ (xs.extract i (j + 1)).getLast? := by
  have hPlace : i + (j + 1 - i - 1) = j := by omega
  rw [List.extract_eq_take_drop, List.getLast?_take, if_neg (by omega), List.getElem?_drop, hPlace,
    hLast]
  rfl

/-- A source can be taken apart at its tokens. What stands from one token to another has these
tokens by itself, with their places counted from the first of them, and the text of a token tells
its kind, whatever source it is from. -/
structure Separable (source : String) : Prop where
  part : ∀ i j first last, i ≤ j → (tokenize source)[i]? = some first →
    (tokenize source)[j]? = some last →
      tokenize (between source first.start last.stop) =
        ((tokenize source).extract i (j + 1)).map (·.relativeTo first)
  alone : ∀ token ∈ tokenize source,
    tokenize token.text = [⟨token.kind, token.text, 0, token.text.utf8ByteSize, 1⟩]
  kind : ∀ token ∈ tokenize source, ∀ other, ∀ same ∈ tokenize other,
    same.text = token.text → same.kind = token.kind

theorem tokenize_separable (source : String) : Separable source where
  part i j first last hOrder hFirst hLast := by
    exact tokenize_between (eq_append_extract hOrder) (mem_head?_extract hOrder hFirst)
      (mem_getLast?_extract hOrder hLast)
  alone token hMem := tokenize_text hMem
  kind token hMem other same hSame hText := by
    have hAlone := tokenize_text hSame
    rw [hText, tokenize_text hMem] at hAlone
    simpa using hAlone.symm

end Part

end RuleOutline
