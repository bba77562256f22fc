import RuleOutline.Proofs.Outline.Pieces
import RuleOutline.Proofs.Outline.Span

/-! Alternatives put together again. With its bars back between them the pieces of a body are the
body as it was, and the alternatives are the pieces, without an empty last one. -/
namespace RuleOutline

section Bars

variable {body : List Token} {start stop : Nat} {pieces : List (List Token)}

instance (body : List Token) : DecidablePred (IsBar body) :=
  fun i => inferInstanceAs (Decidable (kindAt? body i = some .pipe ∧
    depthOf ((body.take i).map (·.kind)) = 0))

/-- The bars of a body from an index on. -/
def barsFrom (body : List Token) (start : Nat) : List Token :=
  (List.range' start (body.length - start)).filterMap fun i =>
    if IsBar body i then body[i]? else none

/-- Pieces with bars between them. -/
def joinPieces : List (List Token) → List Token → List Token
  | piece :: pieces, bar :: bars => piece ++ bar :: joinPieces pieces bars
  | pieces, _ => pieces.flatten

theorem joinPieces_nil (pieces : List (List Token)) : joinPieces pieces [] = pieces.flatten := by
  cases pieces <;> rfl

theorem barsFrom_eq_nil (hNone : ∀ i, start ≤ i → ¬IsBar body i) : barsFrom body start = [] := by
  refine List.filterMap_eq_nil_iff.mpr fun i hMem => if_neg (hNone i ?_)
  exact (List.mem_range'_1.mp hMem).1

/-- The first bar, and the bars behind it. -/
theorem barsFrom_eq_cons {bar : Token} (hOrder : start ≤ stop) (hToken : body[stop]? = some bar)
    (hBar : IsBar body stop) (hFirst : ∀ i, start ≤ i → i < stop → ¬IsBar body i) :
    barsFrom body start = bar :: barsFrom body (stop + 1) := by
  have hStop : stop < body.length := (List.getElem?_eq_some_iff.mp hToken).1
  have hRange : List.range' start (body.length - start) =
      List.range' start (stop - start) ++
        stop :: List.range' (stop + 1) (body.length - (stop + 1)) := by
    have hLength : body.length - start = (stop - start) + (body.length - (stop + 1) + 1) := by omega
    rw [hLength, ← List.range'_append_1, Nat.add_sub_cancel' hOrder, List.range'_succ]
  have hBefore : (List.range' start (stop - start)).filterMap
      (fun i => if IsBar body i then body[i]? else none) = [] := by
    refine List.filterMap_eq_nil_iff.mpr fun i hMem => if_neg ?_
    obtain ⟨hLower, hUpper⟩ := List.mem_range'_1.mp hMem
    exact hFirst i hLower (by omega)
  rw [barsFrom, hRange, List.filterMap_append, hBefore, List.nil_append, List.filterMap_cons,
    if_pos hBar, hToken]
  rfl

theorem IsBar.exists_token {i : Nat} (h : IsBar body i) :
    ∃ bar, body[i]? = some bar ∧ bar.kind = .pipe :=
  Option.map_eq_some_iff.mp h.1

/-- Bars put back between the pieces restore the body. -/
theorem Pieces.joined (h : Pieces body start pieces) :
    joinPieces pieces (barsFrom body start) = body.drop start := by
  induction h with
  | @last start hNone => rw [barsFrom_eq_nil hNone, joinPieces_nil, List.flatten_singleton]
  | @cut start stop pieces hOrder hBar hFirst tail ih =>
      obtain ⟨bar, hToken, -⟩ := hBar.exists_token
      have hRest : body.drop stop = bar :: body.drop (stop + 1) := by
        obtain ⟨hStop, rfl⟩ := List.getElem?_eq_some_iff.mp hToken
        exact List.drop_eq_getElem_cons hStop
      rw [barsFrom_eq_cons hOrder hToken hBar hFirst, joinPieces, ih, ← hRest,
        List.extract_eq_take_drop]
      have hWhole := List.take_append_drop (stop - start) (body.drop start)
      rwa [List.drop_drop, Nat.add_sub_cancel' hOrder] at hWhole

/-- There is one piece more than there are bars. -/
theorem Pieces.length_eq (h : Pieces body start pieces) :
    pieces.length = (barsFrom body start).length + 1 := by
  induction h with
  | last hNone => rw [barsFrom_eq_nil hNone]; rfl
  | cut hOrder hBar hFirst tail ih =>
      obtain ⟨bar, hToken, -⟩ := hBar.exists_token
      rw [barsFrom_eq_cons hOrder hToken hBar hFirst, List.length_cons, List.length_cons, ih]

theorem IsBar.of_take {n i : Nat} (h : IsBar (body.take n) i) : i < n ∧ IsBar body i := by
  obtain ⟨bar, hToken, hKind⟩ := h.exists_token
  have hDepth := h.2
  rw [List.getElem?_take] at hToken
  split at hToken
  next hLess =>
    rw [List.take_take, Nat.min_eq_left (Nat.le_of_lt hLess)] at hDepth
    refine ⟨hLess, ?_, hDepth⟩
    rw [kindAt?, hToken, Option.map_some, hKind]
  next => cases hToken

/-- A bar of a rest is one of the body, if the rest begins outside of all parentheses. -/
theorem IsBar.of_drop {i : Nat} (hStart : depthOf ((body.take start).map (·.kind)) = 0)
    (h : IsBar (body.drop start) i) : IsBar body (start + i) := by
  obtain ⟨hKind, hDepth⟩ := h
  rw [kindAt?, List.getElem?_drop] at hKind
  refine ⟨hKind, ?_⟩
  rw [List.take_add, List.map_append, depthOf_append, hStart, hDepth, Int.add_zero]

/-- Behind a bar, as before it, one is outside of all parentheses. -/
theorem IsBar.depthOf_succ {i : Nat} (h : IsBar body i) :
    depthOf ((body.take (i + 1)).map (·.kind)) = 0 := by
  obtain ⟨bar, hToken, hKind⟩ := h.exists_token
  have hBar : depthOf [bar.kind] = 0 := by
    rw [hKind]
    rfl
  rw [List.take_add_one, hToken, List.map_append, depthOf_append, h.2]
  exact (Int.zero_add _).trans hBar

/-- No piece has a bar in it. -/
theorem Pieces.not_isBar (h : Pieces body start pieces)
    (hStart : depthOf ((body.take start).map (·.kind)) = 0) :
    ∀ piece ∈ pieces, ∀ i, ¬IsBar piece i := by
  induction h with
  | last hNone =>
      refine List.forall_mem_singleton.mpr fun i hBar => ?_
      exact hNone _ (Nat.le_add_right _ _) (hBar.of_drop hStart)
  | cut hOrder hStop hFirst tail ih =>
      refine List.forall_mem_cons.mpr ⟨fun i hBar => ?_, ih hStop.depthOf_succ⟩
      rw [List.extract_eq_take_drop] at hBar
      obtain ⟨hLess, hBar⟩ := hBar.of_take
      exact hFirst _ (Nat.le_add_right _ _) (by omega) (hBar.of_drop hStart)

end Bars

section Division

/-- The tokens between the first colon of a rule and its semicolon, without blocks and comments. -/
def shapeIn (tokens : List Token) (rule : Rule) : List Token :=
  (((tokens.extract rule.index rule.stopIndex).dropWhile (·.kind != .colon)).tail).filter
    (!·.kind.isOpaque)

/-- A body is divided into alternatives at its bars, and nothing is lost or added: the pieces with
the bars between them are the body, none of them has a bar in it, and all of them count but an
empty last one. -/
structure Divides (body : List Token) (pieces alternatives : List (List Token)) : Prop where
  division : Pieces body 0 pieces
  joined : joinPieces pieces (barsFrom body 0) = body
  length : pieces.length = (barsFrom body 0).length + 1
  kept : alternatives = if pieces.getLast? = some [] then pieces.dropLast else pieces
  apart : ∀ alternative ∈ alternatives, ∀ i, ¬IsBar alternative i
  count : alternatives.length =
    (barsFrom body 0).length + if pieces.getLast? = some [] then 0 else 1

theorem divides_splitPipes (body : List Token) :
    Divides body (Rule.splitPipes 0 body) (Rule.dropEmptyLast (Rule.splitPipes 0 body)) := by
  have hPieces := pieces_splitPipes body
  generalize Rule.splitPipes 0 body = pieces at hPieces
  have hKept : Rule.dropEmptyLast pieces =
      if pieces.getLast? = some [] then pieces.dropLast else pieces := by
    by_cases hLast : pieces.getLast? = some []
    · rw [Rule.dropEmptyLast, hLast, if_pos rfl]
    · rw [Rule.dropEmptyLast_eq_self hLast, if_neg hLast]
  refine ⟨hPieces, hPieces.joined, hPieces.length_eq, hKept, ?_, ?_⟩
  · intro alternative hMem
    exact hPieces.not_isBar rfl alternative (Rule.dropEmptyLast_subset pieces hMem)
  · rw [hKept]
    split
    · rw [List.length_dropLast, hPieces.length_eq, Nat.add_sub_cancel, Nat.add_zero]
    · exact hPieces.length_eq

variable {markers : Markers} {tokens : List Token} {rule : Rule}

theorem shape_eq_shapeIn (hRule : rule ∈ (outlineOf markers tokens).rules) :
    rule.shape = shapeIn tokens rule := by
  have hWalk := walk_outlineOf markers tokens
  obtain ⟨before, after, hTokens, hIndex, -⟩ := hWalk.exists_split rule hRule
  rw [Nat.zero_add] at hIndex
  rw [shapeIn, Rule.extract_eq hTokens hIndex, ← hWalk.body_eq rule hRule, Rule.shape]

/-- Every rule of every list of tokens is divided so. -/
theorem rule_divided (hRule : rule ∈ (outlineOf markers tokens).rules) :
    ∃ pieces, Divides (shapeIn tokens rule) pieces rule.alternatives := by
  refine ⟨Rule.splitPipes 0 rule.shape, ?_⟩
  rw [← shape_eq_shapeIn hRule, Rule.alternatives]
  exact divides_splitPipes rule.shape

theorem rule_divided_unbalanced :
    ∃ rule ∈ (outlineOf .standard (tokenize "r : | a ) | ( b | c ( \x7b|\x7d | ) | // |\n;")).rules,
      rule.alternativeTexts = [[], ["a", ")", "|", "(", "b"], ["c", "(", "|", ")"]] ∧
        ∃ pieces, Divides
          (shapeIn (tokenize "r : | a ) | ( b | c ( \x7b|\x7d | ) | // |\n;") rule) pieces
          rule.alternatives := by
  have hTexts : (outlineOf .standard
      (tokenize "r : | a ) | ( b | c ( \x7b|\x7d | ) | // |\n;")).rules.map (·.alternativeTexts) =
        [[[], ["a", ")", "|", "(", "b"], ["c", "(", "|", ")"]]] := by
    decide +kernel
  obtain ⟨rule, rest, hRules, hAlternatives, -⟩ := List.map_eq_cons_iff.mp hTexts
  have hRule : rule ∈ (outlineOf .standard
      (tokenize "r : | a ) | ( b | c ( \x7b|\x7d | ) | // |\n;")).rules := by
    rw [hRules]
    exact List.mem_cons_self ..
  exact ⟨rule, hRule, hAlternatives, rule_divided hRule⟩

end Division

end RuleOutline
