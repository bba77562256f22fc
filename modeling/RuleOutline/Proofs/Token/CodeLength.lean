import RuleOutline.Proofs.Text.Bytes
import RuleOutline.Proofs.Token.Grammar

/-! How long action code is, counted character by character. Literals and comments hide the braces
in them, and the brace that closes the last open one is the end. The code that the lexical grammar
prescribes is exactly as long. -/
namespace RuleOutline

open Text

section Length

/-- The bytes of a literal behind its quote, with the quote that closes it. A backslash escapes the
next character. A literal that is not closed goes up to the line end or the end of the text. -/
def quotedLength (quote : Char) : List Char → Nat
  | [] => 0
  | c :: cs =>
    if c = '\\' then
      match cs with
      | [] => c.utf8Size
      | d :: cs => c.utf8Size + (d.utf8Size + quotedLength quote cs)
    else if isBreak c then 0
    else if c = quote then c.utf8Size
    else c.utf8Size + quotedLength quote cs

/-- The bytes through the first star and slash, or all there are if there is none. -/
def closedLength : List Char → Nat
  | [] => 0
  | c :: cs => if c = '*' ∧ cs.head? = some '/' then 2 else c.utf8Size + closedLength cs

/-- How many bytes a text hides at its beginning: a literal, a line comment up to the line feed, or
a block comment. -/
def hiddenLength : List Char → Nat
  | '\'' :: cs => 1 + quotedLength '\'' cs
  | '"' :: cs => 1 + quotedLength '"' cs
  | '/' :: '/' :: cs => 2 + byteLength (cs.takeWhile (· ≠ '\n'))
  | '/' :: '*' :: cs => 2 + closedLength cs
  | _ => 0

/-- The bytes of action code with so many braces open, when so many bytes are hidden at first. The
code ends with the brace that closes the last one, or with the text. -/
def codeLength (depth hidden : Nat) : List Char → Nat
  | [] => 0
  | c :: cs =>
    let hidden := if hidden = 0 then hiddenLength (c :: cs) else hidden
    if 0 < hidden then c.utf8Size + codeLength depth (hidden - c.utf8Size) cs
    else if c = '\x7b' then c.utf8Size + codeLength (depth + 1) 0 cs
    else if c = '\x7d' then
      if depth = 1 then c.utf8Size else c.utf8Size + codeLength (depth - 1) 0 cs
    else c.utf8Size + codeLength depth 0 cs

theorem quotedLength_cons {quote c : Char} (hEscape : c ≠ '\\') (cs : List Char) :
    quotedLength quote (c :: cs) =
      if isBreak c then 0
      else if c = quote then c.utf8Size
      else c.utf8Size + quotedLength quote cs := by
  rw [quotedLength.eq_def]
  exact if_neg hEscape

theorem quotedLength_escape (quote d : Char) (cs : List Char) :
    quotedLength quote ('\\' :: d :: cs) =
      '\\'.utf8Size + (d.utf8Size + quotedLength quote cs) := by
  rw [quotedLength.eq_def]
  exact if_pos rfl

theorem quotedLength_body {quote : Char} {body : List Char} (hBody : QuotedBody quote body)
    (rest : List Char) :
    quotedLength quote (body ++ rest) = byteLength body + quotedLength quote rest := by
  induction hBody with
  | nil => simp
  | plain hQuote hEscape hBreak tail ih =>
      simp [quotedLength_cons hEscape, hQuote, hBreak, ih, Nat.add_assoc]
  | escaped tail ih => simp [quotedLength_escape, ih, Nat.add_assoc]

theorem quotedLength_end {quote : Char} (hQuote : quote = '\'' ∨ quote = '"')
    {ending after : List Char} (hEnd : QuotedEnd quote ending after) :
    quotedLength quote (ending ++ after) = byteLength ending := by
  cases hEnd with
  | quote =>
      rcases hQuote with rfl | rfl
      · exact quotedLength_cons (by decide) after
      · exact quotedLength_cons (by decide) after
  | @lineEnd c after hBreak =>
      have hEscape : c ≠ '\\' := by
        rintro rfl
        cases hBreak
      rw [List.nil_append, quotedLength_cons hEscape, if_pos hBreak, byteLength_nil]
  | textEnd => rfl
  | cutEscape => rfl

theorem closedLength_closed {body after : List Char} (hFirst : ¬HasClose (body ++ ['*'])) :
    closedLength (body ++ '*' :: '/' :: after) = byteLength (body ++ ['*', '/']) := by
  induction body with
  | nil => rfl
  | cons c body ih =>
      rw [List.cons_append, hasClose_cons, not_or] at hFirst
      have hHead : (body ++ '*' :: '/' :: after).head? = (body ++ ['*']).head? := by
        cases body <;> rfl
      rw [List.cons_append, closedLength, hHead, if_neg hFirst.1, ih hFirst.2]
      rfl

theorem closedLength_unclosed {body : List Char} (hNone : ¬HasClose body) :
    closedLength body = byteLength body := by
  induction body with
  | nil => rfl
  | cons c body ih =>
      rw [hasClose_cons, not_or] at hNone
      rw [closedLength, if_neg hNone.1, ih hNone.2]
      rfl

end Length

section Opener

/-- What begins to hide braces in action code. -/
inductive Opener where
  | literal (quote : Char)
  | lineComment
  | blockComment
  deriving DecidableEq

namespace Opener

/-- What opens at the beginning of a text. -/
def of? : List Char → Option Opener
  | '\'' :: _ => some (.literal '\'')
  | '"' :: _ => some (.literal '"')
  | '/' :: '/' :: _ => some .lineComment
  | '/' :: '*' :: _ => some .blockComment
  | _ => none

/-- The text that is hidden in front of a rest. -/
inductive Hides : Opener → List Char → List Char → Prop where
  | literal {quote : Char} {tail rest : List Char} (h : IsLiteral (quote :: tail) rest) :
      Hides (.literal quote) (quote :: tail) rest
  | lineComment {text rest : List Char} (h : IsLineComment (· == '\n') text rest) :
      Hides .lineComment text rest
  | blockComment {text rest : List Char} (h : IsBlockComment text rest) :
      Hides .blockComment text rest

variable {opener : Opener} {text rest : List Char}

theorem exists_hides {cs : List Char} (h : of? cs = some opener) :
    ∃ text rest, cs = text ++ rest ∧ opener.Hides text rest := by
  unfold of? at h
  split at h
  next cs =>
    obtain rfl := Option.some.inj h
    obtain ⟨tail, rest, rfl, hLiteral⟩ := exists_literal (.inl rfl) cs
    exact ⟨'\'' :: tail, rest, rfl, .literal hLiteral⟩
  next cs =>
    obtain rfl := Option.some.inj h
    obtain ⟨tail, rest, rfl, hLiteral⟩ := exists_literal (.inr rfl) cs
    exact ⟨'"' :: tail, rest, rfl, .literal hLiteral⟩
  next cs =>
    obtain rfl := Option.some.inj h
    obtain ⟨body, rest, rfl, hBody, hRest⟩ := exists_class (fun c => !(c == '\n')) cs
    refine ⟨'/' :: '/' :: body, rest, rfl, .lineComment (.intro ?_ ?_)⟩
    · simpa using hBody
    · simpa using hRest
  next cs =>
    obtain rfl := Option.some.inj h
    obtain ⟨tail, rest, rfl, hComment⟩ := exists_blockComment cs
    exact ⟨'/' :: '*' :: tail, rest, rfl, .blockComment hComment⟩
  next => cases h

theorem Hides.ne_nil (h : opener.Hides text rest) : text ≠ [] := by
  cases h with
  | literal => exact List.cons_ne_nil _ _
  | lineComment h => cases h; exact List.cons_ne_nil _ _
  | blockComment h => cases h <;> exact List.cons_ne_nil _ _

theorem Hides.of?_eq (h : opener.Hides text rest) : of? (text ++ rest) = some opener := by
  cases h with
  | literal h =>
      cases h with
      | intro hQuote => rcases hQuote with rfl | rfl <;> rfl
  | lineComment h => cases h; rfl
  | blockComment h => cases h <;> rfl

theorem quotedLength_literal {quote : Char} {tail rest : List Char}
    (h : IsLiteral (quote :: tail) rest) :
    quotedLength quote (tail ++ rest) = byteLength tail := by
  cases h with
  | intro hQuote hBody hEnd =>
      rw [List.append_assoc, quotedLength_body hBody, quotedLength_end hQuote hEnd,
        byteLength_append]

theorem takeWhile_body {body rest : List Char} (hBody : ∀ c ∈ body, (c == '\n') = false)
    (hRest : ∀ c ∈ rest.head?, (c == '\n') = true) :
    (body ++ rest).takeWhile (· ≠ '\n') = body := by
  have hAll : ∀ c ∈ body, decide (c ≠ '\n') = true := by simpa using hBody
  rw [List.takeWhile_append_of_pos hAll]
  cases rest with
  | nil => simp
  | cons c rest => simp_all

theorem closedLength_comment {inside rest : List Char}
    (h : IsBlockComment ('/' :: '*' :: inside) rest) :
    closedLength (inside ++ rest) = byteLength inside := by
  cases h with
  | closed after hFirst =>
      rw [← closedLength_closed hFirst, List.append_assoc]
      rfl
  | unclosed hNone => rw [List.append_nil, closedLength_unclosed hNone]

theorem Hides.hiddenLength_eq (h : opener.Hides text rest) :
    hiddenLength (text ++ rest) = byteLength text := by
  cases h with
  | @literal quote tail rest h =>
      have hLength := congrArg (1 + ·) (quotedLength_literal h)
      cases h with
      | intro hQuote => rcases hQuote with rfl | rfl <;> exact hLength
  | lineComment h =>
      cases h with
      | @intro body rest hBody hRest =>
          show 2 + byteLength ((body ++ rest).takeWhile (· ≠ '\n')) = 1 + (1 + byteLength body)
          rw [takeWhile_body hBody hRest]
          omega
  | blockComment h =>
      obtain ⟨inside, rfl⟩ : ∃ inside, text = '/' :: '*' :: inside := by
        cases h <;> exact ⟨_, rfl⟩
      show 2 + closedLength (inside ++ rest) = 1 + (1 + byteLength inside)
      rw [closedLength_comment h]
      omega

theorem of?_eq_ite (cs : List Char) :
    of? cs =
      if cs.head? = some '\'' then some (.literal '\'')
      else if cs.head? = some '"' then some (.literal '"')
      else if cs.head? = some '/' then
        if cs.tail.head? = some '/' then some .lineComment
        else if cs.tail.head? = some '*' then some .blockComment
        else none
      else none := by
  rcases cs with _ | ⟨c, _ | ⟨d, cs⟩⟩
  · rfl
  · unfold of?
    split <;> simp_all
  · unfold of?
    split <;> simp_all

theorem hiddenLength_eq_zero {cs : List Char} (h : of? cs = none) : hiddenLength cs = 0 := by
  unfold hiddenLength
  split <;> simp_all [of?]

/-- A part of action code is hidden as a whole, or it is a character that counts for itself. -/
theorem exists_hides_or_plain (h : Piece text rest) :
    (∃ opener : Opener, opener.Hides text rest) ∨
      ∃ c, text = [c] ∧ of? (c :: rest) = none ∧ c ≠ '\x7b' ∧ c ≠ '\x7d' := by
  cases h with
  | literal h =>
      cases h with
      | intro hQuote hBody hEnd => exact .inl ⟨_, .literal (.intro hQuote hBody hEnd)⟩
  | lineComment h => exact .inl ⟨_, .lineComment h⟩
  | blockComment h => exact .inl ⟨_, .blockComment h⟩
  | @other c _ hPlain hSlash =>
      simp only [List.mem_cons, List.not_mem_nil, or_false, not_or] at hPlain
      obtain ⟨hOpen, hShut, hSingle, hDouble⟩ := hPlain
      refine .inr ⟨c, rfl, ?_, hOpen, hShut⟩
      unfold of?
      split <;> simp_all

end Opener

end Opener

section CodeLength

variable {depth : Nat} {text rest : List Char}

theorem codeLength_skip {hidden : Nat} (h : hidden ≠ 0) (c : Char) (cs : List Char) :
    codeLength depth hidden (c :: cs) =
      c.utf8Size + codeLength depth (hidden - c.utf8Size) cs := by
  simp only [codeLength, if_neg h, if_pos (Nat.pos_of_ne_zero h)]

theorem codeLength_hidden (depth : Nat) (text rest : List Char) :
    codeLength depth (byteLength text) (text ++ rest) =
      byteLength text + codeLength depth 0 rest := by
  induction text with
  | nil => simp
  | cons c text ih =>
      have hSome : byteLength (c :: text) ≠ 0 :=
        Nat.ne_of_gt (byteLength_pos (List.cons_ne_nil c text))
      rw [List.cons_append, codeLength_skip hSome, byteLength_cons, Nat.add_sub_cancel_left, ih,
        Nat.add_assoc]

theorem codeLength_hides {opener : Opener} (h : opener.Hides text rest) :
    codeLength depth 0 (text ++ rest) = byteLength text + codeLength depth 0 rest := by
  obtain ⟨c, tail, rfl⟩ := List.exists_cons_of_ne_nil h.ne_nil
  have hSome : byteLength (c :: tail) ≠ 0 := Nat.ne_of_gt (byteLength_pos h.ne_nil)
  have hHidden := h.hiddenLength_eq
  rw [← codeLength_hidden, List.cons_append, codeLength_skip hSome]
  rw [List.cons_append] at hHidden
  simp only [codeLength, if_true, hHidden, if_pos (Nat.pos_of_ne_zero hSome)]

theorem codeLength_plain {c : Char} (h : Opener.of? (c :: rest) = none) (hOpen : c ≠ '\x7b')
    (hShut : c ≠ '\x7d') :
    codeLength depth 0 (c :: rest) = c.utf8Size + codeLength depth 0 rest := by
  simp [codeLength, Opener.hiddenLength_eq_zero h, hOpen, hShut]

/-- Action code is as long as its braces say. -/
theorem codeLength_code (h : Code depth text rest) (hOpen : depth ≠ 0) :
    codeLength depth 0 (text ++ rest) = byteLength text := by
  induction h with
  | closed => exact absurd rfl hOpen
  | textEnd => rfl
  | @opening depth text after tail ih =>
      have hTail := ih (by omega)
      show '\x7b'.utf8Size + codeLength (depth + 1 + 1) 0 (text ++ after) = _
      rw [hTail, byteLength_cons]
  | @closing depth text after tail ih =>
      cases depth with
      | zero =>
          cases tail
          rfl
      | succ depth =>
          have hTail := ih (by omega)
          show '\x7d'.utf8Size + codeLength (depth + 1) 0 (text ++ after) = _
          rw [hTail, byteLength_cons]
  | @piece depth text rest after hPiece tail ih =>
      have hTail := ih hOpen
      rw [List.append_assoc, byteLength_append]
      rcases Opener.exists_hides_or_plain hPiece with ⟨opener, hHides⟩ | ⟨c, rfl, hNone, hPlain⟩
      · rw [codeLength_hides hHides, hTail]
      · rw [List.singleton_append, codeLength_plain hNone hPlain.1 hPlain.2, hTail]
        rfl

/-- Literals and comments hide braces, and what looks like a literal in a comment hides none. -/
example : codeLength 1 0 "é//\x7d'\n'\\'\x7d'/*\x7d*/\x7d;".toList = 18 := by decide +kernel

end CodeLength

end RuleOutline
