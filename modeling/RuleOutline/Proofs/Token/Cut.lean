import RuleOutline.Proofs.Token.Lexeme

/-! The reader cuts lexemes off a text. Each shape of the lexical grammar is followed through the
states of the reader, from the parts that leave a state as it was to whole lexemes. -/
namespace RuleOutline

/-- A cut with more text in front of what it takes. -/
def Cut.prepend (text : List Char) (cut : Cut) : Cut :=
  ⟨cut.kind, text ++ cut.taken, cut.rest⟩

@[simp] theorem Cut.prepend_nil (cut : Cut) : cut.prepend [] = cut := rfl

theorem Cut.prepend_prepend (first second : List Char) (cut : Cut) :
    (cut.prepend second).prepend first = cut.prepend (first ++ second) := by
  simp [prepend]

namespace Reading

@[simp] theorem run_nil (reading : Reading) : reading.run [] = ⟨reading.kind, [], []⟩ := rfl

theorem run_cons_more {reading : Reading} {c : Char} (next : Reading) (cs : List Char)
    (hStep : reading.step c = .more next) :
    reading.run (c :: cs) = (next.run cs).prepend [c] := by
  simp [run, hStep, Cut.prepend]

theorem run_cons_last {reading : Reading} {c : Char} (cs : List Char)
    (hStep : reading.step c = .last) : reading.run (c :: cs) = ⟨reading.kind, [c], cs⟩ := by
  simp [run, hStep]

theorem run_cons_stop {reading : Reading} {c : Char} (cs : List Char)
    (hStep : reading.step c = .stop) : reading.run (c :: cs) = ⟨reading.kind, [], c :: cs⟩ := by
  simp [run, hStep]

/-- Two states that do the same with the next character cut off the same. -/
theorem run_congr {first second : Reading} {cs : List Char} (hKind : first.kind = second.kind)
    (hStep : ∀ c ∈ cs.head?, first.step c = second.step c) : first.run cs = second.run cs := by
  cases cs with
  | nil => simp [hKind]
  | cons c cs => simp [run, hStep c (by simp), hKind]

/-- Characters that leave the state as it is are taken in one go. -/
theorem run_through (reading : Reading) {body : List Char}
    (hStep : ∀ c ∈ body, reading.step c = .more reading) (rest : List Char) :
    reading.run (body ++ rest) = (reading.run rest).prepend body := by
  induction body with
  | nil => simp
  | cons c body ih =>
      rw [List.cons_append, run_cons_more _ _ (hStep c (by simp)),
        ih (fun d hd => hStep d (by simp [hd])), Cut.prepend_prepend]
      rfl

/-- A token that goes on just as long as the characters are of one class. -/
theorem run_class {reading : Reading} (p : Char → Bool)
    (hStep : ∀ c, reading.step c = if p c then .more reading else .stop)
    {body after : List Char} (hBody : ∀ c ∈ body, p c = true)
    (hAfter : ∀ c ∈ after.head?, p c = false) :
    reading.run (body ++ after) = ⟨reading.kind, body, after⟩ := by
  have hRest : reading.run after = ⟨reading.kind, [], after⟩ := by
    cases after with
    | nil => rfl
    | cons c after => exact run_cons_stop after (by simp [hStep, hAfter c (by simp)])
  rw [run_through reading (fun c hc => by simp [hStep, hBody c hc]), hRest]
  simp [Cut.prepend]

section Quoted

variable {quote : Char} (state : Bool → Reading)

/-- The inside of a literal leads from an unescaped place to one. The states may be those of a
literal or of a literal within a block. -/
theorem run_quotedBody
    (hPlain : ∀ c, c ≠ quote → c ≠ '\\' → isBreak c = false →
      (state false).step c = .more (state false))
    (hEscape : (state false).step '\\' = .more (state true))
    (hEscaped : ∀ c, (state true).step c = .more (state false))
    {body : List Char} (hBody : QuotedBody quote body) (rest : List Char) :
    (state false).run (body ++ rest) = ((state false).run rest).prepend body := by
  induction hBody with
  | nil => simp
  | plain hQuote hBackslash hBreak tail ih =>
      rw [List.cons_append, run_cons_more _ _ (hPlain _ hQuote hBackslash hBreak), ih,
        Cut.prepend_prepend]
      rfl
  | escaped tail ih =>
      rw [List.cons_append, List.cons_append, run_cons_more _ _ hEscape,
        run_cons_more _ _ (hEscaped _), ih, Cut.prepend_prepend, Cut.prepend_prepend]
      rfl

end Quoted

section Star

/-- What a state of a block comment remembers of the text before it. -/
def seen (star : Bool) : List Char :=
  if star then ['*'] else []

theorem not_hasClose_step {star : Bool} {c : Char} {cs : List Char}
    (h : ¬HasClose (seen star ++ c :: cs)) :
    ¬(star = true ∧ c = '/') ∧ ¬HasClose (seen (c == '*') ++ cs) := by
  have hTail : ¬HasClose (c :: cs) := by
    cases star with
    | false => exact h
    | true => exact fun hClose => h (hasClose_cons.mpr (Or.inr hClose))
  constructor
  · rintro ⟨rfl, rfl⟩
    exact h (hasClose_cons.mpr (Or.inl ⟨rfl, rfl⟩))
  · by_cases hc : c = '*'
    · simpa [seen, hc] using hTail
    · simpa [seen, hc] using fun hClose => hTail (hasClose_cons.mpr (Or.inr hClose))

variable (state : Bool → Reading)

/-- A block comment goes on to its first star and slash. The states may be those of a comment or
of one within a block. -/
theorem run_commentBody
    (hStep : ∀ star c, ¬(star = true ∧ c = '/') → (state star).step c = .more (state (c == '*')))
    (star : Bool) {body : List Char} (hBody : ¬HasClose (seen star ++ (body ++ ['*'])))
    (rest : List Char) :
    (state star).run (body ++ '*' :: rest) =
      ((state true).run rest).prepend (body ++ ['*']) := by
  induction body generalizing star with
  | nil =>
      have hStar := hStep star '*' (by simp)
      rw [List.nil_append, run_cons_more _ _ hStar]
      rfl
  | cons c body ih =>
      obtain ⟨hOpen, hTail⟩ := not_hasClose_step hBody
      rw [List.cons_append, run_cons_more _ _ (hStep star c hOpen), ih _ hTail, Cut.prepend_prepend]
      rfl

/-- A block comment without star and slash takes all there is. -/
theorem run_commentBody_unclosed
    (hStep : ∀ star c, ¬(star = true ∧ c = '/') → (state star).step c = .more (state (c == '*')))
    (hKind : ∀ star, (state star).kind = (state false).kind)
    (star : Bool) {body : List Char} (hBody : ¬HasClose (seen star ++ body)) :
    (state star).run body = ⟨(state false).kind, body, []⟩ := by
  induction body generalizing star with
  | nil => simp [hKind]
  | cons c body ih =>
      obtain ⟨hOpen, hTail⟩ := not_hasClose_step hBody
      rw [run_cons_more _ _ (hStep star c hOpen), ih _ hTail]
      rfl

end Star

/-- A literal is cut off at its quote, before a line end, or at the end of the text. -/
theorem run_literal {quote : Char} (hQuote : quote = '\'' ∨ quote = '"')
    {body ending after : List Char} (hBody : QuotedBody quote body)
    (hEnd : QuotedEnd quote ending after) :
    (quoted quote false).run (body ++ ending ++ after) = ⟨.literal, body ++ ending, after⟩ := by
  have hInside := run_quotedBody (quoted quote)
    (fun c hc hEscape hBreak => by simp [step, hc, hEscape, hBreak])
    (by simp [step]) (by simp [step]) hBody (ending ++ after)
  have hLast : (quoted quote false).run (ending ++ after) = ⟨.literal, ending, after⟩ := by
    cases hEnd with
    | quote after =>
        refine run_cons_last after ?_
        rcases hQuote with rfl | rfl <;> simp [step, isBreak]
    | @lineEnd c after hBreak =>
        refine run_cons_stop after ?_
        have hEscape : c ≠ '\\' := by
          rintro rfl
          simp [isBreak] at hBreak
        simp [step, hEscape, hBreak]
    | textEnd => rfl
    | cutEscape => rfl
  rw [List.append_assoc, hInside, hLast]
  simp [Cut.prepend]

/-- A block comment is cut off after its first star and slash. -/
theorem run_blockComment {text after : List Char} (h : IsBlockComment text after) :
    slash.run (text.tail ++ after) = ⟨.blockComment, text.tail, after⟩ := by
  have hStep : ∀ star c, ¬(star = true ∧ c = '/') →
      (blockComment star).step c = .more (blockComment (c == '*')) := by
    intro star c hOpen
    cases star <;> simp_all [step]
  cases h with
  | @closed body after hFirst =>
      have hBody := run_commentBody blockComment hStep false hFirst ('/' :: after)
      have hClose : (blockComment true).run ('/' :: after) = ⟨.blockComment, ['/'], after⟩ := rfl
      have hCut : (blockComment false).run (body ++ '*' :: '/' :: after) =
          ⟨.blockComment, body ++ ['*', '/'], after⟩ := by
        rw [hBody, hClose]
        simp [Cut.prepend]
      rw [List.tail_cons, List.cons_append, run_cons_more (blockComment false) _ rfl,
        List.append_assoc]
      simp [hCut, Cut.prepend]
  | @unclosed body hNone =>
      have hBody := run_commentBody_unclosed blockComment hStep (fun _ => rfl) false hNone
      rw [List.tail_cons, List.append_nil, run_cons_more (blockComment false) _ rfl, hBody]
      rfl

section Block

variable {depth : Nat}

/-- A literal of action code is passed over. Before a line end and at the end of the text the
reader is as if the literal had been closed. -/
theorem run_piece_literal {text rest : List Char} (h : IsLiteral text rest) :
    (block depth .code).run (text ++ rest) = ((block depth .code).run rest).prepend text := by
  cases h with
  | @intro quote body ending rest hQuote hBody hEnd =>
      have hOpen : (block depth .code).step quote = .more (block depth (.quoted quote false)) := by
        rcases hQuote with rfl | rfl <;> rfl
      have hInside := run_quotedBody (fun escaped => block depth (.quoted quote escaped))
        (fun c hc hEscape hBreak => by simp [step, inBlock, hc, hEscape, hBreak])
        (by simp [step, inBlock]) (by simp [step, inBlock]) hBody (ending ++ rest)
      have hLast : (block depth (.quoted quote false)).run (ending ++ rest) =
          ((block depth .code).run rest).prepend ending := by
        cases hEnd with
        | quote =>
            refine run_cons_more _ rest ?_
            rcases hQuote with rfl | rfl <;> simp [step, inBlock, isBreak]
        | @lineEnd c after hBreak =>
            refine run_congr rfl ?_
            simp only [isBreak, Bool.or_eq_true, beq_iff_eq] at hBreak
            rcases hBreak with rfl | rfl <;> simp [step, inBlock, inCode, isBreak]
        | textEnd => rfl
        | cutEscape => rfl
      rw [List.cons_append, run_cons_more _ _ hOpen, List.append_assoc, hInside, hLast,
        Cut.prepend_prepend, Cut.prepend_prepend]
      rfl

/-- In action code two slashes begin a line comment, which takes in all but a line feed. -/
theorem run_slashes {body : List Char} (hBody : ∀ c ∈ body, (c == '\n') = false)
    (rest : List Char) :
    (block depth .code).run ('/' :: '/' :: body ++ rest) =
      ((block depth .lineComment).run rest).prepend ('/' :: '/' :: body) := by
  have hThrough : (block depth .lineComment).run (body ++ rest) = _ :=
    run_through _ (fun c hc => by simp_all [step, inBlock]) rest
  rw [List.cons_append, List.cons_append, run_cons_more (block depth .slash) _ rfl,
    run_cons_more (block depth .lineComment) _ rfl, hThrough, Cut.prepend_prepend,
    Cut.prepend_prepend]
  rfl

/-- A line comment of action code is passed over up to its line feed. -/
theorem run_piece_lineComment {text rest : List Char} (h : IsLineComment (· == '\n') text rest) :
    (block depth .code).run (text ++ rest) = ((block depth .code).run rest).prepend text := by
  cases h with
  | @intro body rest hBody hAfter =>
      have hEnd : (block depth .lineComment).run rest = (block depth .code).run rest := by
        refine run_congr rfl ?_
        intro c hc
        have hFeed : c = '\n' := by simpa using hAfter c hc
        simp [hFeed, step, inBlock, inCode]
      rw [run_slashes hBody, hEnd]

/-- A block comment of action code is passed over. -/
theorem run_piece_blockComment {text rest : List Char} (h : IsBlockComment text rest) :
    (block depth .code).run (text ++ rest) = ((block depth .code).run rest).prepend text := by
  let state (star : Bool) : Reading := block depth (.blockComment star)
  have hStep : ∀ star c, ¬(star = true ∧ c = '/') →
      (state star).step c = .more (state (c == '*')) := by
    intro star c hOpen
    cases star <;> simp_all [state, step, inBlock]
  cases h with
  | @closed body _ hFirst =>
      have hBody := run_commentBody state hStep false hFirst ('/' :: rest)
      have hClose : (state true).run ('/' :: rest) =
          ((block depth .code).run rest).prepend ['/'] := run_cons_more _ rest rfl
      rw [List.cons_append, List.cons_append, run_cons_more (block depth .slash) _ rfl,
        run_cons_more (state false) _ rfl, List.append_assoc]
      simp only [List.cons_append, List.nil_append, hBody, hClose, Cut.prepend_prepend,
        List.append_assoc]
  | @unclosed body hNone =>
      have hBody := run_commentBody_unclosed state hStep (fun _ => rfl) false hNone
      rw [List.append_nil, run_cons_more (block depth .slash) _ rfl,
        run_cons_more (state false) _ rfl, hBody]
      simp [Cut.prepend, state, kind]

/-- A part of action code whose braces do not count leaves the depth as it was. -/
theorem run_piece {text rest : List Char} (h : Piece text rest) :
    (block depth .code).run (text ++ rest) = ((block depth .code).run rest).prepend text := by
  cases h with
  | literal h => exact run_piece_literal h
  | lineComment h => exact run_piece_lineComment h
  | blockComment h => exact run_piece_blockComment h
  | @other c rest hPlain hSlash =>
      by_cases hc : c = '/'
      · subst hc
        obtain ⟨hLine, hBlock⟩ := hSlash rfl
        have hAfter : (block depth .slash).run rest = (block depth .code).run rest := by
          refine run_congr rfl ?_
          intro d hd
          have hd' : rest.head? = some d := hd
          have hLine : d ≠ '/' := fun h => hLine (h ▸ hd')
          have hBlock : d ≠ '*' := fun h => hBlock (h ▸ hd')
          simp [step, inBlock, hLine, hBlock]
        rw [List.cons_append, List.nil_append, run_cons_more (block depth .slash) _ rfl,
          hAfter]
      · refine run_cons_more _ rest ?_
        simp only [List.mem_cons, List.not_mem_nil, or_false, not_or] at hPlain
        simp [step, inBlock, inCode, hPlain]

end Block

/-- A block is cut off after the brace that closes it. -/
theorem run_code (depth : Nat) {text after : List Char} (h : Code (depth + 1) text after) :
    (block depth .code).run (text ++ after) = ⟨.block, text, after⟩ := by
  generalize hOpen : depth + 1 = opened at h
  induction h generalizing depth with
  | closed after => omega
  | textEnd depth => rfl
  | @opening opened text after tail ih =>
      rw [List.cons_append, run_cons_more (block (depth + 1) .code) _ rfl,
        ih (depth + 1) (by omega)]
      rfl
  | @closing opened text after tail ih =>
      cases depth with
      | zero =>
          obtain rfl : opened = 0 := by omega
          cases tail
          exact run_cons_last after rfl
      | succ depth =>
          rw [List.cons_append, run_cons_more (block depth .code) _ rfl,
            ih depth (by omega)]
          rfl
  | @piece opened text rest after hPiece tail ih =>
      rw [List.append_assoc, run_piece hPiece, ih depth hOpen]
      rfl

theorem start?_mark {c : Char} {kind : Kind} (h : (c, kind) ∈ marks) :
    start? c = some (.lone kind) := by
  have hAll : ∀ mark ∈ marks, start? mark.1 = some (.lone mark.2) := by decide
  exact hAll (c, kind) h

/-- An operator of one character is read as such unless a longer token can begin with it. -/
theorem start?_operator {c : Char} (h : c ∈ operatorChars) :
    start? c = some (.lone .operator) ∨ (c = '/' ∧ start? c = some .slash) ∨
      ∃ pair ∈ operatorPairs, pair.1 = c ∧ start? c = some (.pair pair.2) := by
  -- As a list of tests: a statement about all characters would be tried on each of them.
  have hAll : (operatorChars.all fun c => decide (start? c = some (.lone .operator) ∨
      (c = '/' ∧ start? c = some .slash) ∨
        ∃ pair ∈ operatorPairs, pair.1 = c ∧ start? c = some (.pair pair.2))) = true := by decide
  exact of_decide_eq_true (List.all_eq_true.mp hAll c h)

theorem start?_pair {c d : Char} (h : (c, d) ∈ operatorPairs) : start? c = some (.pair d) := by
  have hAll : ∀ pair ∈ operatorPairs, start? pair.1 = some (.pair pair.2) := by decide
  exact hAll (c, d) h

/-- A class without white space begins no gap between tokens. -/
theorem isSkipped_eq_false {p : Char → Bool} {c : Char} (h : p c = true)
    (hSpaces : [' ', '\t', '\n', '\r', '\x0c'].all (fun d => !p d) = true) :
    isSkipped c = false := by
  cases hc : isSkipped c with
  | false => rfl
  | true =>
      have hMem : c ∈ [' ', '\t', '\n', '\r', '\x0c'] := by
        simpa [isSkipped, or_assoc] using hc
      have hClass := List.all_eq_true.mp hSpaces c hMem
      rw [h] at hClass
      cases hClass

theorem start?_word {c : Char} (h : beginsWord c = true) : start? c = some .word := by
  have hSkip : isSkipped c = false := isSkipped_eq_false h (by decide)
  simp [start?, hSkip, h]

theorem start?_digits {c : Char} (h : c.isDigit = true) : start? c = some .digits := by
  have hSkip : isSkipped c = false := isSkipped_eq_false (p := Char.isDigit) h (by decide)
  have hWord : beginsWord c = false := by
    have hRange : 48 ≤ c.toNat ∧ c.toNat ≤ 57 := Char.isDigit_iff_toNat.mp h
    have hUnder : c ≠ '_' := by
      rintro rfl
      revert h
      decide
    have hAlpha : c.isAlpha = false := by
      change (decide ('A'.val ≤ c.val ∧ c.val ≤ 'Z'.val) ||
        (decide ('a'.val ≤ c.val) && decide (c.val ≤ 'z'.val))) = false
      simp [UInt32.le_iff_toNat_le]
      omega
    simp [beginsWord, Unicode.isLetter, hUnder, hAlpha]
    omega
  simp [start?, hSkip, hWord, h]

theorem start?_unknown {c : Char} (hSkip : isSkipped c = false) (hWord : beginsWord c = false)
    (hDigit : c.isDigit = false) (hMark : ∀ kind, (c, kind) ∉ marks)
    (hOperator : c ∉ operatorChars) (hOpening : c ∉ ['\x7b', '\'', '"']) :
    start? c = some (.lone .unknown) := by
  have hPunctuation : ofPunctuation c = .lone .unknown := by
    simp only [marks, operatorChars, List.mem_cons, Prod.mk.injEq, List.not_mem_nil, or_false,
      not_or] at hMark hOperator hOpening
    unfold ofPunctuation
    split <;> simp_all
  simp [start?, hSkip, hWord, hDigit, hPunctuation]

end Reading

/-- Every lexeme is what the reader cuts off in front of the same rest. -/
theorem Lexeme.reads {kind : Kind} {text after : List Char} (h : Lexeme kind text after) :
    ∃ c tail reading, text = c :: tail ∧ Reading.start? c = some reading ∧
      reading.run (tail ++ after) = ⟨kind, tail, after⟩ := by
  cases h with
  | @identifier c tail after hHead hTail hAfter =>
      exact ⟨c, tail, .word, rfl, Reading.start?_word hHead,
        Reading.run_class _ (fun _ => rfl) hTail hAfter⟩
  | @number c tail after hDigits hAfter =>
      exact ⟨c, tail, .digits, rfl, Reading.start?_digits (hDigits c (by simp)),
        Reading.run_class _ (fun _ => rfl) (fun d hd => hDigits d (by simp [hd])) hAfter⟩
  | @mark c kind after hMark =>
      refine ⟨c, [], .lone kind, rfl, Reading.start?_mark hMark, ?_⟩
      cases after <;> rfl
  | @lineComment text after h =>
      cases h with
      | @intro body after hBody hAfter =>
          refine ⟨'/', '/' :: body, .slash, rfl, by decide, ?_⟩
          rw [List.cons_append, Reading.run_cons_more .lineComment _ rfl,
            Reading.run_class (fun c => !isBreak c)
              (fun c => by cases hc : isBreak c <;> simp [Reading.step, hc])
              (fun c hc => by simp [hBody c hc]) (fun c hc => by simp [hAfter c hc])]
          rfl
  | @blockComment text after h =>
      have hCut := Reading.run_blockComment h
      cases h <;> exact ⟨'/', _, .slash, rfl, by decide, hCut⟩
  | @literal text after h =>
      cases h with
      | @intro quote body ending after hQuote hBody hEnd =>
          refine ⟨quote, body ++ ending, .quoted quote false, rfl, ?_,
            Reading.run_literal hQuote hBody hEnd⟩
          rcases hQuote with rfl | rfl <;> decide
  | @block text after h => exact ⟨'\x7b', text, .block 0 .code, rfl, by decide, Reading.run_code 0 h⟩
  | @pair c d after hPair =>
      refine ⟨c, [d], .pair d, rfl, Reading.start?_pair hPair, ?_⟩
      exact Reading.run_cons_last after (by simp [Reading.step])
  | @operator c after hChar hPair hSlash =>
      rcases Reading.start?_operator hChar with hStart | ⟨hc, hStart⟩ | ⟨pair, hMem, rfl, hStart⟩
      · refine ⟨c, [], .lone .operator, rfl, hStart, ?_⟩
        cases after <;> rfl
      · refine ⟨c, [], .slash, rfl, hStart, ?_⟩
        obtain ⟨hLine, hBlock⟩ := hSlash hc
        cases after with
        | nil => rfl
        | cons d after =>
            refine Reading.run_cons_stop after ?_
            simp only [List.head?_cons, ne_eq, Option.some.injEq] at hLine hBlock
            simp [Reading.step, hLine, hBlock]
      · refine ⟨pair.1, [], .pair pair.2, rfl, hStart, ?_⟩
        cases after with
        | nil => rfl
        | cons d after =>
            refine Reading.run_cons_stop after ?_
            have hOther : d ≠ pair.2 := by
              rintro rfl
              exact hPair pair.2 (by simp) hMem
            simp [Reading.step, hOther]
  | @unknown c after hSkip hWord hDigit hMark hOperator hOpening =>
      refine ⟨c, [], .lone .unknown, rfl,
        Reading.start?_unknown hSkip hWord hDigit hMark hOperator hOpening, ?_⟩
      cases after <;> rfl

end RuleOutline
