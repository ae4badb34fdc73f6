import Mathlib.Data.List.Forall2
import Reckon.Proofs.LineBreaks
import Reckon.Proofs.Lines

/-!
Contract: a line is read from its own tokens only.

Two cursors have the same view (`Cursor.SameView`) when they stand at the same
position of the same view on the same line and their streams hold the same
tokens before the end of that view. A dispatch is view-local
(`Dispatch.ViewLocal`) when at two such cursors each entry point fails with the
same error, declines on both, or reads the same match, whose next position
again has the same view. Every parser, given a view-local dispatch for what it
nests, is view-local in that sense, so the dispatch at every nesting level is
(`Dispatch.withLevels_viewLocal`), and a line is read alike wherever its tokens
stand (`readLine_sameView`).

The crux is that navigation never widens a view: `until` only cuts it shorter
and `resume` keeps the outer one, so every token a parser looks at lies before
the end of the view it was given.

Together with the scanner's locality (`Reckon.Proofs.LineBreaks`), the outcome
of each line depends only on the lines above it and on itself
(`first_line_outcomes_depend_only_on_first_lines`).

Owns: `Cursor.SameView`, `ExceptRel`, the `SameView` relations of matches,
`Dispatch.ViewLocal` and the facts above.
Does not own: the scanner (`Reckon.Proofs.LineBreaks`), reading a document
line by line (`Reckon.Proofs.Lines`).
-/

/-! ### Related options -/

theorem Option.Rel.filter {α β : Type} {R : α → β → Prop} {o : Option α} {o' : Option β}
    (rel : Option.Rel R o o') {p : α → Bool} {p' : β → Bool} (agree : ∀ a a', R a a' → p' a' = p a) :
    Option.Rel R (o.filter p) (o'.filter p') := by
  cases rel with
  | none => exact .none
  | @some a a' related =>
    rw [Option.filter_some, Option.filter_some, agree a a' related]
    split
    · exact .some related
    · exact .none

theorem Option.Rel.bind {α β γ δ : Type} {R : α → β → Prop} {S : γ → δ → Prop} {o : Option α}
    {o' : Option β} (rel : Option.Rel R o o') {f : α → Option γ} {g : β → Option δ}
    (agree : ∀ a a', R a a' → Option.Rel S (f a) (g a')) : Option.Rel S (o.bind f) (o'.bind g) := by
  cases rel with
  | none => exact .none
  | @some a a' related => exact agree a a' related

theorem Option.Rel.map_eq {α β γ : Type} {R : α → β → Prop} {o : Option α} {o' : Option β}
    (rel : Option.Rel R o o') {f : α → γ} {g : β → γ} (agree : ∀ a a', R a a' → g a' = f a) :
    o'.map g = o.map f := by
  cases rel with
  | none => rfl
  | @some a a' related => rw [Option.map_some, Option.map_some, agree a a' related]

theorem Option.Rel.bind_eq {α β γ : Type} {R : α → β → Prop} {o : Option α} {o' : Option β}
    (rel : Option.Rel R o o') {f : α → Option γ} {g : β → Option γ}
    (agree : ∀ a a', R a a' → g a' = f a) : o'.bind g = o.bind f := by
  cases rel with
  | none => rfl
  | @some a a' related => rw [Option.bind_some, Option.bind_some, agree a a' related]

namespace Reckon

/-! ### Related outcomes -/

/-- Two computations that fail with the same error or succeed with related results. -/
inductive ExceptRel {ε α β : Type} (R : α → β → Prop) : Except ε α → Except ε β → Prop
  | error (e : ε) : ExceptRel R (.error e) (.error e)
  | ok {a : α} {b : β} : R a b → ExceptRel R (.ok a) (.ok b)

namespace ExceptRel

variable {ε α β : Type} {R : α → β → Prop}

theorem eq_error {x : Except ε α} {y : Except ε β} (rel : ExceptRel R x y) {e : ε}
    (failed : x = .error e) : y = .error e := by
  subst failed
  cases rel
  rfl

theorem exists_ok {x : Except ε α} {y : Except ε β} (rel : ExceptRel R x y) {a : α}
    (succeeded : x = .ok a) : ∃ b, y = .ok b ∧ R a b := by
  subst succeeded
  cases rel with
  | ok related => exact ⟨_, rfl, related⟩

theorem eq_declined {x : Except ε (Option α)} {y : Except ε (Option β)}
    (rel : ExceptRel (Option.Rel R) x y) (declined : x = .ok none) : y = .ok none := by
  obtain ⟨_, rfl, related⟩ := rel.exists_ok declined
  cases related
  rfl

theorem exists_found {x : Except ε (Option α)} {y : Except ε (Option β)}
    (rel : ExceptRel (Option.Rel R) x y) {a : α} (found : x = .ok (some a)) :
    ∃ b, y = .ok (some b) ∧ R a b := by
  obtain ⟨_, rfl, related⟩ := rel.exists_ok found
  cases related with
  | some related => exact ⟨_, rfl, related⟩

end ExceptRel

/-! ### Cursors with the same view -/

/-- A token found by `seek?` lies inside the view searched. -/
theorem Cursor.seek?_inside {kind : TokenKind} : ∀ {c found : Cursor}, c.seek? kind = some found →
    found.index < c.stop := by
  intro c
  induction c using Cursor.seek?.induct kind with
  | case1 c inside onKind =>
    intro found sought
    rw [Cursor.seek?.eq_1 c, dif_pos inside, if_pos onKind] at sought
    cases sought
    exact inside
  | case2 c inside notKind inductionHypothesis =>
    intro found sought
    rw [Cursor.seek?.eq_1 c, dif_pos inside, if_neg notKind] at sought
    exact Cursor.advance_stop c ▸ inductionHypothesis sought
  | case3 c outside =>
    intro found sought
    rw [Cursor.seek?.eq_1 c, dif_neg outside] at sought
    cases sought

/-- `c'` is `c` read in another stream that holds the same tokens before the end of
the view: the same position, view and line. -/
structure Cursor.SameView (c c' : Cursor) : Prop where
  index : c'.index = c.index
  start : c'.start = c.start
  stop : c'.stop = c.stop
  line : c'.line = c.line
  tokens : ∀ i < c.stop, c'.stream.tokens[i]? = c.stream.tokens[i]?

namespace Cursor.SameView

variable {c c' : Cursor}

theorem inside_iff (same : c.SameView c') : c'.index < c'.stop ↔ c.index < c.stop := by
  rw [same.index, same.stop]

theorem token? (same : c.SameView c') : c'.token? = c.token? := by
  unfold Cursor.token?
  rw [same.index, same.stop]
  split
  · exact same.tokens _ ‹_›
  · rfl

theorem kind? (same : c.SameView c') : c'.kind? = c.kind? := by
  rw [Cursor.kind?, Cursor.kind?, same.token?]

theorem isAt (same : c.SameView c') (kind : TokenKind) : c'.isAt kind = c.isAt kind := by
  rw [Cursor.isAt, Cursor.isAt, same.kind?]

theorem text (same : c.SameView c') : c'.text = c.text := by
  rw [Cursor.text, Cursor.text, same.token?]

theorem atEnd (same : c.SameView c') : c'.atEnd = c.atEnd := by
  rw [Cursor.atEnd, Cursor.atEnd, same.index, same.stop]

theorem hasLeadingWhitespace (same : c.SameView c') :
    c'.hasLeadingWhitespace = c.hasLeadingWhitespace := by
  rw [Cursor.hasLeadingWhitespace, Cursor.hasLeadingWhitespace, same.index, same.start,
    same.token?]

theorem advance (same : c.SameView c') : c.advance.SameView c'.advance := by
  unfold Cursor.advance
  rw [same.index, same.stop]
  split
  · exact ⟨rfl, same.start, rfl, same.line, same.tokens⟩
  · exact same

theorem endOfView (same : c.SameView c') : c.endOfView.SameView c'.endOfView :=
  ⟨same.stop, same.start, same.stop, same.line, same.tokens⟩

theorem next? (same : c.SameView c') : Option.Rel Cursor.SameView c.next? c'.next? := by
  unfold Cursor.next?
  dsimp only
  rw [same.advance.atEnd]
  split
  · exact .none
  · exact .some same.advance

theorem seek? (kind : TokenKind) : ∀ {c c' : Cursor}, c.SameView c' →
    Option.Rel Cursor.SameView (c.seek? kind) (c'.seek? kind) := by
  -- both searches step through the same view and look at the same tokens
  intro c
  induction c using Cursor.seek?.induct kind with
  | case1 c inside onKind =>
    intro c' same
    rw [Cursor.seek?.eq_1 c, Cursor.seek?.eq_1 c', dif_pos inside, if_pos onKind,
      dif_pos (same.inside_iff.mpr inside), if_pos (by rw [same.isAt]; exact onKind)]
    exact .some same
  | case2 c inside notKind inductionHypothesis =>
    intro c' same
    rw [Cursor.seek?.eq_1 c, Cursor.seek?.eq_1 c', dif_pos inside, if_neg notKind,
      dif_pos (same.inside_iff.mpr inside), if_neg (by rw [same.isAt]; exact notKind)]
    exact inductionHypothesis same.advance
  | case3 c outside =>
    intro c' same
    rw [Cursor.seek?.eq_1 c, Cursor.seek?.eq_1 c', dif_neg outside,
      dif_neg (mt same.inside_iff.mp outside)]
    exact .none

theorem skipWords : ∀ {c c' : Cursor}, c.SameView c' → c.skipWords.SameView c'.skipWords := by
  intro c
  induction c using Cursor.skipWords.induct with
  | case1 c inside onWord inductionHypothesis =>
    intro c' same
    rw [Cursor.skipWords.eq_1 c, Cursor.skipWords.eq_1 c', dif_pos inside, if_pos onWord,
      dif_pos (same.inside_iff.mpr inside), if_pos (by rw [same.isAt]; exact onWord)]
    exact inductionHypothesis same.advance
  | case2 c inside notWord =>
    intro c' same
    rw [Cursor.skipWords.eq_1 c, Cursor.skipWords.eq_1 c', dif_pos inside, if_neg notWord,
      dif_pos (same.inside_iff.mpr inside), if_neg (by rw [same.isAt]; exact notWord)]
    exact same
  | case3 c outside =>
    intro c' same
    rw [Cursor.skipWords.eq_1 c, Cursor.skipWords.eq_1 c', dif_neg outside,
      dif_neg (mt same.inside_iff.mp outside)]
    exact same

theorem skip? (same : c.SameView c') (expected : TokenKind) (overWords : Bool) :
    Option.Rel Cursor.SameView (c.skip? expected overWords) (c'.skip? expected overWords) := by
  have here : (if overWords && expected != .word then c.skipWords else c).SameView
      (if overWords && expected != .word then c'.skipWords else c') := by
    split
    · exact same.skipWords
    · exact same
  unfold Cursor.skip?
  dsimp only
  generalize (if overWords && expected != .word then c.skipWords else c) = start at here ⊢
  generalize (if overWords && expected != .word then c'.skipWords else c') = start' at here ⊢
  rw [here.isAt]
  split
  · exact .some here.advance
  · exact .none

theorem «until» (same : c.SameView c') (kind : TokenKind) :
    (c.until kind).SameView (c'.until kind) := by
  unfold Cursor.until
  have sought := same.seek? kind
  generalize found? : c.seek? kind = sought? at sought ⊢
  generalize c'.seek? kind = sought'? at sought ⊢
  rcases sought with ⟨foundSame⟩ | _
  · -- the cut view ends at the token found, before the end of the view searched
    rename_i found found'
    exact ⟨same.index, same.start, foundSame.index, same.line,
      fun i below => same.tokens i (Nat.lt_trans below (Cursor.seek?_inside found?))⟩
  · exact same

theorem resume (same : c.SameView c') {other other' : Cursor} (index : other'.index = other.index) :
    (c.resume other).SameView (c'.resume other') := by
  unfold Cursor.resume
  exact ⟨by simp only [index, same.start, same.stop], same.start, same.stop, same.line, same.tokens⟩

theorem spanTo (same : c.SameView c') {next next' : Cursor} (sameNext : next.SameView next') :
    c'.spanTo next' = c.spanTo next := by
  rw [Cursor.spanTo, Cursor.spanTo, same.index, sameNext.index]

theorem sameSpot (same : c.SameView c') {other other' : Cursor} (sameOther : other.SameView other') :
    c'.sameSpot other' = c.sameSpot other := by
  rw [Cursor.sameSpot, Cursor.sameSpot, same.index, same.start, same.stop, sameOther.index,
    sameOther.start, sameOther.stop]

theorem take_tokens (same : c.SameView c') :
    c'.stream.tokens.toList.take c.stop = c.stream.tokens.toList.take c.stop := by
  apply List.ext_getElem?
  intro i
  rw [List.getElem?_take, List.getElem?_take]
  split
  · rw [Array.getElem?_toList, Array.getElem?_toList, same.tokens i ‹_›]
  · rfl

theorem textToEnd (same : c.SameView c') : c'.textToEnd = c.textToEnd := by
  have window : (c'.stream.tokens.extract c.index c.stop).toList =
      (c.stream.tokens.extract c.index c.stop).toList := by
    rw [Array.toList_extract, Array.toList_extract, List.extract_eq_take_drop,
      List.extract_eq_take_drop, ← List.drop_take, ← List.drop_take, same.take_tokens]
  unfold Cursor.textToEnd
  rw [same.index, same.stop, window]

end Cursor.SameView

/-! ### Matches and view-local dispatch -/

/-- The same expression match read in another stream: the same tree, value and
parser, and the position after it in the same view. -/
structure ExprMatch.SameView (m m' : ExprMatch) : Prop where
  node : m'.node = m.node
  value : m'.value = m.value
  parser : m'.parser = m.parser
  next : m.next.SameView m'.next

/-- The same statement match read in another stream. -/
structure StmtMatch.SameView (m m' : StmtMatch) : Prop where
  node : m'.node = m.node
  value : m'.value = m.value
  parser : m'.parser = m.parser
  declares : m'.declares = m.declares
  next : m.next.SameView m'.next

/-- A dispatch reads only the view it is given: at two cursors with the same view,
each entry point fails with the same error, declines on both or reads the same match. -/
structure Dispatch.ViewLocal (d : Dispatch) : Prop where
  expression : ∀ {c c' : Cursor}, c.SameView c' →
    ExceptRel (Option.Rel ExprMatch.SameView) (d.expression c) (d.expression c')
  operand : ∀ (after : String) {c c' : Cursor}, c.SameView c' →
    ExceptRel (Option.Rel ExprMatch.SameView) (d.operand after c) (d.operand after c')
  statement : ∀ {c c' : Cursor}, c.SameView c' →
    ExceptRel (Option.Rel StmtMatch.SameView) (d.statement c) (d.statement c')

namespace Dispatch.ViewLocal

variable {d : Dispatch} {c c' : Cursor}

theorem expressionUntil (reads : d.ViewLocal) (same : c.SameView c') (stop : TokenKind) :
    ExceptRel (Option.Rel ExprMatch.SameView) (d.expressionUntil c stop)
      (d.expressionUntil c' stop) := by
  unfold Dispatch.expressionUntil
  have parsed := reads.expression (same.until stop)
  generalize d.expression (c.until stop) = found? at parsed ⊢
  generalize d.expression (c'.until stop) = found'? at parsed ⊢
  rcases parsed with e | ⟨@⟨found, found', foundSame⟩ | _⟩
  · exact .error e
  · exact .ok (.some ⟨foundSame.node, foundSame.value, foundSame.parser,
      same.resume foundSame.next.index⟩)
  · exact .ok .none

theorem statementUntil (reads : d.ViewLocal) (same : c.SameView c') (stop : TokenKind) :
    ExceptRel (Option.Rel StmtMatch.SameView) (d.statementUntil c stop)
      (d.statementUntil c' stop) := by
  unfold Dispatch.statementUntil
  have parsed := reads.statement (same.until stop)
  generalize d.statement (c.until stop) = found? at parsed ⊢
  generalize d.statement (c'.until stop) = found'? at parsed ⊢
  rcases parsed with e | ⟨@⟨found, found', foundSame⟩ | _⟩
  · exact .error e
  · exact .ok (.some ⟨foundSame.node, foundSame.value, foundSame.parser, foundSame.declares,
      same.resume foundSame.next.index⟩)
  · exact .ok .none

end Dispatch.ViewLocal

/-! ### Each parser reads only its view -/

namespace Parse

variable {sub : Dispatch} {bindings : Bindings} {c c' : Cursor}

theorem reference_sameView (bindings : Bindings) (same : c.SameView c') :
    ExceptRel (Option.Rel ExprMatch.SameView) (reference bindings c) (reference bindings c') := by
  unfold reference
  rw [same.isAt, same.text]
  split
  · split
    · exact .ok (.some ⟨by rw [same.spanTo same.advance], rfl, rfl, same.advance⟩)
    · exact .ok .none
  · exact .ok .none

theorem comment_sameView (same : c.SameView c') :
    ExceptRel (Option.Rel StmtMatch.SameView) (comment c) (comment c') := by
  unfold comment
  rw [same.isAt]
  split
  · exact .ok (.some ⟨by rw [same.spanTo same.advance], rfl, rfl, rfl, same.advance⟩)
  · exact .ok .none

theorem header_sameView (same : c.SameView c') :
    ExceptRel (Option.Rel StmtMatch.SameView) (header c) (header c') := by
  unfold header
  have opened := same.skip? .hash false
  generalize c.skip? .hash false = titleStart? at opened ⊢
  generalize c'.skip? .hash false = titleStart'? at opened ⊢
  cases opened with
  | some titleSame =>
    exact .ok (.some ⟨by rw [titleSame.textToEnd, same.spanTo same.endOfView], rfl, rfl, rfl,
      same.endOfView⟩)
  | none => exact .ok .none

theorem declaration_sameView (reads : sub.ViewLocal) (same : c.SameView c') :
    ExceptRel (Option.Rel StmtMatch.SameView) (declaration sub c) (declaration sub c') := by
  unfold declaration
  rw [same.isAt]
  split
  · exact .ok .none
  · have opened := same.advance.skip? .equals false
    generalize c.advance.skip? .equals false = valueStart? at opened ⊢
    generalize c'.advance.skip? .equals false = valueStart'? at opened ⊢
    cases opened with
    | none => exact .ok .none
    | @some valueStart valueStart' valueSame =>
      dsimp only
      have parsed := reads.expression valueSame
      generalize sub.expression valueStart = value? at parsed ⊢
      generalize sub.expression valueStart' = value'? at parsed ⊢
      rcases parsed with e | ⟨⟨foundSame⟩ | _⟩
      · exact .error e
      · exact .ok (.some ⟨by rw [same.text, foundSame.node, same.spanTo foundSame.next],
          by rw [foundSame.value], rfl, by rw [same.text, foundSame.value], foundSame.next⟩)
      · exact .ok .none

theorem numericalExpression_sameView (reads : sub.ViewLocal) (same : c.SameView c') :
    ExceptRel (Option.Rel StmtMatch.SameView) (numericalExpression sub c)
      (numericalExpression sub c') := by
  unfold numericalExpression
  have parsed := reads.expression same
  generalize sub.expression c = found? at parsed ⊢
  generalize sub.expression c' = found'? at parsed ⊢
  rcases parsed with e | ⟨⟨foundSame⟩ | _⟩
  · exact .error e
  · exact .ok (.some ⟨by rw [foundSame.node, same.spanTo foundSame.next], by rw [foundSame.value],
      rfl, rfl, foundSame.next⟩)
  · exact .ok .none

theorem conditionalExpression_sameView (reads : sub.ViewLocal) (same : c.SameView c') :
    ExceptRel (Option.Rel StmtMatch.SameView) (conditionalExpression sub c)
      (conditionalExpression sub c') := by
  unfold conditionalExpression
  have parsed := reads.expression same
  generalize sub.expression c = found? at parsed ⊢
  generalize sub.expression c' = found'? at parsed ⊢
  rcases parsed with e | ⟨⟨foundSame⟩ | _⟩
  · exact .error e
  · dsimp only
    rw [foundSame.node, same.spanTo foundSame.next]
    split
    · exact .ok .none
    · exact .ok (.some ⟨rfl, by rw [foundSame.value], rfl, rfl, foundSame.next⟩)
  · exact .ok .none

theorem group_sameView (reads : sub.ViewLocal) (same : c.SameView c') :
    ExceptRel (Option.Rel ExprMatch.SameView) (group sub c) (group sub c') := by
  unfold group
  rw [same.line]
  have opened := same.skip? .lParen false
  generalize c.skip? .lParen false = innerStart? at opened ⊢
  generalize c'.skip? .lParen false = innerStart'? at opened ⊢
  cases opened with
  | none => exact .ok .none
  | @some innerStart innerStart' innerStartSame =>
    dsimp only
    have parsed := reads.expression innerStartSame
    generalize sub.expression innerStart = inner? at parsed ⊢
    generalize sub.expression innerStart' = inner'? at parsed ⊢
    rcases parsed with e | ⟨@⟨inner, inner', innerSame⟩ | _⟩
    · exact .error e
    · simp only [bind, Except.bind]
      have closed := innerSame.next.skip? .rParen false
      generalize inner.next.skip? .rParen false = next? at closed ⊢
      generalize inner'.next.skip? .rParen false = next'? at closed ⊢
      cases closed with
      | none => exact .error _
      | @some next next' nextSame =>
        exact .ok (.some ⟨by rw [innerSame.node, same.spanTo nextSame], innerSame.value, rfl,
          nextSame⟩)
    · exact .error _

theorem atDigitRun_sameView (same : c.SameView c') : atDigitRun c' = atDigitRun c := by
  rw [atDigitRun, atDigitRun, same.isAt, same.text]

theorem decimalComma_sameView (same : c.SameView c') :
    ExceptRel (Option.Rel ExprMatch.SameView) (decimalComma c) (decimalComma c') := by
  unfold decimalComma
  rw [atDigitRun_sameView same, same.text]
  split
  · exact .ok .none
  · dsimp only
    generalize fractionEq : (c.next?.filter _ |>.bind Cursor.next? |>.filter _) = fraction?
    generalize fractionEq' : (c'.next?.filter _ |>.bind Cursor.next? |>.filter _) = fraction'?
    have fraction : Option.Rel Cursor.SameView fraction? fraction'? := by
      rw [← fractionEq, ← fractionEq']
      refine (same.next?.filter fun _ _ commaSame => ?_).bind (fun _ _ commaSame => commaSame.next?)
        |>.filter fun _ _ fractionSame => ?_
      · rw [commaSame.isAt, commaSame.hasLeadingWhitespace]
      · rw [atDigitRun_sameView fractionSame, fractionSame.hasLeadingWhitespace]
    cases fraction with
    | none => exact .ok .none
    | @some fraction fraction' fractionSame =>
      dsimp only
      rw [fractionSame.text]
      split
      · exact .ok .none
      · exact .ok (.some ⟨by rw [same.spanTo fractionSame.advance], rfl, rfl,
          fractionSame.advance⟩)

theorem data_sameView (same : c.SameView c') :
    ExceptRel (Option.Rel ExprMatch.SameView) (data c) (data c') := by
  unfold data
  rw [same.kind?, same.text, same.line]
  split
  case h_1 | h_2 | h_3 =>
    exact .ok (.some ⟨by rw [same.spanTo same.advance], rfl, rfl, same.advance⟩)
  case h_4 =>
    split
    · exact .ok (.some ⟨by rw [same.spanTo same.advance], rfl, rfl, same.advance⟩)
    · exact .error _
  case h_5 =>
    have following := same.next?
    generalize c.next? = number? at following ⊢
    generalize c'.next? = number'? at following ⊢
    cases following with
    | @some number number' numberSame =>
      dsimp only
      rw [numberSame.isAt, numberSame.hasLeadingWhitespace, numberSame.text]
      split
      · split
        · exact .ok (.some ⟨by rw [same.spanTo numberSame.advance], rfl, rfl, numberSame.advance⟩)
        · exact .error _
      · exact .ok .none
    | none => exact .ok .none
  case h_6 => exact .ok .none

/-- The same argument list, and the position after it, read in another stream. -/
structure ArgumentsSameView (result result' : List ExprMatch × Cursor) : Prop where
  items : List.Forall₂ ExprMatch.SameView result.1 result'.1
  next : result.2.SameView result'.2

theorem argumentItems_sameView (reads : sub.ViewLocal) {listStart listStart' : Cursor}
    (line : listStart'.line = listStart.line) (bound : Nat) (current : Cursor) (read : List ExprMatch) :
    ∀ {current' read'}, current.SameView current' → List.Forall₂ ExprMatch.SameView read read' →
      ExceptRel ArgumentsSameView (argumentItems sub listStart bound current read)
        (argumentItems sub listStart' bound current' read') := by
  -- one case per branch of the reader; the other stream reads the same item and takes the same branch
  induction current, read using argumentItems.induct sub listStart bound with
  | case1 current read e parsed =>
    intro current' read' same _
    rw [argumentItems.eq_1 sub listStart, argumentItems.eq_1 sub listStart', parsed,
      (reads.expression same).eq_error parsed]
    exact .error e
  | case2 current read parsed =>
    intro current' read' same _
    rw [argumentItems.eq_1 sub listStart, argumentItems.eq_1 sub listStart', parsed,
      (reads.expression same).eq_declined parsed, line]
    exact .error _
  | case3 current read item parsed separator moved inductionHypothesis
  | case5 current read item parsed separator moved inductionHypothesis =>
    intro current' read' same sameRead
    obtain ⟨item', parsed', itemSame⟩ := (reads.expression same).exists_found parsed
    rw [argumentItems.eq_1 sub listStart, argumentItems.eq_1 sub listStart', parsed, parsed']
    simp only [itemSame.next.kind?, itemSame.next.advance.index, same.index, separator, dif_pos moved]
    exact inductionHypothesis itemSame.next.advance (List.rel_append sameRead (.cons itemSame .nil))
  | case4 current read item parsed separator stuck
  | case6 current read item parsed separator stuck =>
    intro current' read' same _
    obtain ⟨item', parsed', itemSame⟩ := (reads.expression same).exists_found parsed
    rw [argumentItems.eq_1 sub listStart, argumentItems.eq_1 sub listStart', parsed, parsed']
    simp only [itemSame.next.kind?, itemSame.next.advance.index, same.index, separator, dif_neg stuck,
      line]
    exact .error _
  | case7 current read item parsed closing =>
    intro current' read' same sameRead
    obtain ⟨item', parsed', itemSame⟩ := (reads.expression same).exists_found parsed
    rw [argumentItems.eq_1 sub listStart, argumentItems.eq_1 sub listStart', parsed, parsed']
    simp only [itemSame.next.kind?, closing]
    exact .ok ⟨List.rel_append sameRead (.cons itemSame .nil), itemSame.next.advance⟩
  | case8 current read item parsed notComma notSemicolon notClosing =>
    intro current' read' same _
    obtain ⟨item', parsed', itemSame⟩ := (reads.expression same).exists_found parsed
    rw [argumentItems.eq_1 sub listStart, argumentItems.eq_1 sub listStart', parsed, parsed']
    simp only [itemSame.next.kind?, line]
    exact .error _

theorem ExprMatch.SameView.map_eq {items items' : List ExprMatch}
    (sameItems : List.Forall₂ ExprMatch.SameView items items') {γ : Type} {f : ExprMatch → γ}
    (agree : ∀ m m', m.SameView m' → f m' = f m) : items'.map f = items.map f := by
  induction sameItems with
  | nil => rfl
  | cons head _ inductionHypothesis =>
    rw [List.map_cons, List.map_cons, agree _ _ head, inductionHypothesis]

theorem arguments_sameView (reads : sub.ViewLocal) {listStart listStart' : Cursor}
    (same : listStart.SameView listStart') :
    ExceptRel ArgumentsSameView (arguments sub listStart) (arguments sub listStart') := by
  unfold arguments
  have closed := same.skip? .rParen false
  generalize listStart.skip? .rParen false = after? at closed ⊢
  generalize listStart'.skip? .rParen false = after'? at closed ⊢
  cases closed with
  | some afterSame => exact .ok ⟨.nil, afterSame⟩
  | none =>
    rw [same.stop]
    exact argumentItems_sameView reads same.line _ _ _ same .nil

theorem call_sameView (reads : sub.ViewLocal) (same : c.SameView c') :
    ExceptRel (Option.Rel ExprMatch.SameView) (call sub c) (call sub c') := by
  unfold call
  rw [same.isAt, same.text, same.line]
  split
  · exact .ok .none
  · have opened := same.advance.skip? .lParen false
    generalize c.advance.skip? .lParen false = listStart? at opened ⊢
    generalize c'.advance.skip? .lParen false = listStart'? at opened ⊢
    cases opened with
    | none => exact .ok .none
    | @some listStart listStart' listSame =>
      dsimp only
      have listed := arguments_sameView reads listSame
      generalize arguments sub listStart = items? at listed ⊢
      generalize arguments sub listStart' = items'? at listed ⊢
      rcases listed with e | @⟨⟨items, next⟩, ⟨items', next'⟩, ⟨itemsSame, nextSame⟩⟩
      · exact .error e
      · dsimp only at itemsSame nextSame
        simp only [bind, Except.bind]
        rw [ExprMatch.SameView.map_eq itemsSame fun _ _ same => same.value,
          ExprMatch.SameView.map_eq itemsSame fun _ _ same => same.node]
        split
        · exact .ok (.some ⟨by rw [same.spanTo nextSame], rfl, rfl, nextSame⟩)
        · exact .error _

theorem operatorAt?_sameView (same : c.SameView c') : operatorAt? c' = operatorAt? c := by
  rw [operatorAt?, operatorAt?, same.kind?]

theorem combine_sameView {left left' right right' : ExprMatch} (leftSame : left.SameView left')
    (rightSame : right.SameView right') (op : BinaryOperator) (line : Nat) :
    ExceptRel ExprMatch.SameView (combine left op right line) (combine left' op right' line) := by
  unfold combine
  rw [leftSame.value, rightSame.value]
  split
  · exact .error _
  · exact .ok ⟨by rw [leftSame.node, rightSame.node], rfl, rfl, rightSame.next⟩

section Climbing

variable {operand : Cursor → Attempt ExprMatch} {bound : Nat}

/-- `climb` at level `p` from `left` gives the same outcome from the same match
read in another stream. -/
abbrev ClimbSameView (operand : Cursor → Attempt ExprMatch) (bound p : Nat) (left : ExprMatch) :
    Prop :=
  ∀ {left'}, left.SameView left' →
    ExceptRel ExprMatch.SameView (climb operand bound p left) (climb operand bound p left')

/-- `tighten` after `op` from `right` gives the same outcome from the same match
read in another stream. -/
abbrev TightenSameView (operand : Cursor → Attempt ExprMatch) (bound : Nat) (op : BinaryOperator)
    (right : ExprMatch) : Prop :=
  ∀ {right'}, right.SameView right' →
    ExceptRel ExprMatch.SameView (tighten operand bound op right) (tighten operand bound op right')

/-- Two runs of `climb` and `tighten` from related matches end related, for any relation `M`
on matches under which related matches meet the same operator, the operands read after an
operator are related, related matches move forward alike within their bounds, and combining
related matches gives related matches. -/
theorem climb_tighten_related {M : ExprMatch → ExprMatch → Prop} {bound' : Nat}
    (operatorAt : ∀ {m m'}, M m m' → operatorAt? m'.next = operatorAt? m.next)
    (operandAfter : ∀ {m m' op}, M m m' → operatorAt? m.next = some op →
      ExceptRel (Option.Rel M) (operand m.next.advance) (operand m'.next.advance))
    (progress : ∀ {l l' r r'}, M l l' → M r r' →
      (l'.next.index < r'.next.index ∧ r'.next.index ≤ bound' ↔
        l.next.index < r.next.index ∧ r.next.index ≤ bound))
    (combines : ∀ {l l' r r'} (op : BinaryOperator), M l l' → M r r' →
      ExceptRel M (combine l op r l.next.line) (combine l' op r' l'.next.line)) :
    (∀ p left {left'}, M left left' →
        ExceptRel M (climb operand bound p left) (climb operand bound' p left')) ∧
      (∀ op right {right'}, M right right' →
        ExceptRel M (tighten operand bound op right) (tighten operand bound' op right')) := by
  -- the induction follows the recursion of the two functions on the first side; in each
  -- branch the second side meets the same operator, reads a related operand and takes the
  -- same branch, since every guard compares positions that move alike
  apply climb.mutual_induct operand bound
  · -- climb: no operator follows
    intro p left absent left' related
    rw [climb.eq_1 _ _ _ left, climb.eq_1 _ _ _ left']
    simp only [operatorAt related, absent]
    exact .ok related
  · -- climb: the operand after the operator fails
    intro p left op onOperator binds e failed left' related
    rw [climb.eq_1 _ _ _ left, climb.eq_1 _ _ _ left']
    simp only [operatorAt related, onOperator, binds, failed, if_true,
      (operandAfter related onOperator).eq_error failed]
    exact .error e
  · -- climb: no operand after the operator
    intro p left op onOperator binds declined left' related
    rw [climb.eq_1 _ _ _ left, climb.eq_1 _ _ _ left']
    simp only [operatorAt related, onOperator, binds, declined, if_true,
      (operandAfter related onOperator).eq_declined declined]
    exact .ok related
  · -- climb: tightening the right operand fails
    intro p left op onOperator binds right read moved e failed tightenRelated left' related
    obtain ⟨right', read', rightRelated⟩ := (operandAfter related onOperator).exists_found read
    rw [climb.eq_1 _ _ _ left, climb.eq_1 _ _ _ left']
    simp only [operatorAt related, onOperator, binds, read, read', if_true, dif_pos moved,
      dif_pos ((progress related rightRelated).mpr moved), failed,
      (tightenRelated rightRelated).eq_error failed]
    exact .error e
  · -- climb: the operator fails on its two sides
    intro p left op onOperator binds right read moved tightened tightenedOk e failed
      tightenRelated left' related
    obtain ⟨right', read', rightRelated⟩ := (operandAfter related onOperator).exists_found read
    obtain ⟨tightened', tightenedOk', tightenedRelated⟩ :=
      (tightenRelated rightRelated).exists_ok tightenedOk
    rw [climb.eq_1 _ _ _ left, climb.eq_1 _ _ _ left']
    simp only [operatorAt related, onOperator, binds, read, read', if_true, dif_pos moved,
      dif_pos ((progress related rightRelated).mpr moved), tightenedOk, tightenedOk', failed,
      (combines op related tightenedRelated).eq_error failed]
    exact .error e
  · -- climb: the operator is applied and climbing goes on from the joined operand
    intro p left op onOperator binds right read moved tightened tightenedOk joined joinedOk
      movedOn tightenRelated climbRelated left' related
    obtain ⟨right', read', rightRelated⟩ := (operandAfter related onOperator).exists_found read
    obtain ⟨tightened', tightenedOk', tightenedRelated⟩ :=
      (tightenRelated rightRelated).exists_ok tightenedOk
    obtain ⟨joined', joinedOk', joinedRelated⟩ :=
      (combines op related tightenedRelated).exists_ok joinedOk
    rw [climb.eq_1 _ _ _ left, climb.eq_1 _ _ _ left']
    simp only [operatorAt related, onOperator, binds, read, read', if_true, dif_pos moved,
      dif_pos ((progress related rightRelated).mpr moved), tightenedOk, tightenedOk', joinedOk,
      joinedOk', dif_pos movedOn, dif_pos ((progress related joinedRelated).mpr movedOn)]
    exact climbRelated joinedRelated
  · -- climb: the joined operand does not move
    intro p left op onOperator binds right read moved tightened tightenedOk joined joinedOk
      stuck tightenRelated left' related
    obtain ⟨right', read', rightRelated⟩ := (operandAfter related onOperator).exists_found read
    obtain ⟨tightened', tightenedOk', tightenedRelated⟩ :=
      (tightenRelated rightRelated).exists_ok tightenedOk
    obtain ⟨joined', joinedOk', joinedRelated⟩ :=
      (combines op related tightenedRelated).exists_ok joinedOk
    rw [climb.eq_1 _ _ _ left, climb.eq_1 _ _ _ left']
    simp only [operatorAt related, onOperator, binds, read, read', if_true, dif_pos moved,
      dif_pos ((progress related rightRelated).mpr moved), tightenedOk, tightenedOk', joinedOk,
      joinedOk', dif_neg stuck, dif_neg (mt (progress related joinedRelated).mp stuck)]
    exact .ok joinedRelated
  · -- climb: the operand read does not move
    intro p left op onOperator binds right read noProgress left' related
    obtain ⟨right', read', rightRelated⟩ := (operandAfter related onOperator).exists_found read
    rw [climb.eq_1 _ _ _ left, climb.eq_1 _ _ _ left']
    simp only [operatorAt related, onOperator, binds, read, read', if_true, dif_neg noProgress,
      dif_neg (mt (progress related rightRelated).mp noProgress)]
    exact .ok related
  · -- climb: the operator binds more loosely than the level
    intro p left op onOperator loose left' related
    rw [climb.eq_1 _ _ _ left, climb.eq_1 _ _ _ left']
    simp only [operatorAt related, onOperator, loose, if_false]
    exact .ok related
  · -- tighten: no operator follows
    intro op right absent right' related
    rw [tighten.eq_1 _ _ _ right, tighten.eq_1 _ _ _ right']
    simp only [operatorAt related, absent]
    exact .ok related
  · -- tighten: climbing one level up fails
    intro op right following onOperator tighter e failed climbRelated right' related
    rw [tighten.eq_1 _ _ _ right, tighten.eq_1 _ _ _ right']
    simp only [operatorAt related, onOperator, tighter, if_true, failed,
      (climbRelated related).eq_error failed]
    exact .error e
  · -- tighten: climbing one level up moves, and tightening goes on from there
    intro op right following onOperator tighter extended extendedOk moved climbRelated
      tightenRelated right' related
    obtain ⟨extended', extendedOk', extendedRelated⟩ := (climbRelated related).exists_ok extendedOk
    rw [tighten.eq_1 _ _ _ right, tighten.eq_1 _ _ _ right']
    simp only [operatorAt related, onOperator, tighter, if_true, extendedOk, extendedOk',
      dif_pos moved, dif_pos ((progress related extendedRelated).mpr moved)]
    exact tightenRelated extendedRelated
  · -- tighten: climbing one level up does not move
    intro op right following onOperator tighter extended extendedOk stuck climbRelated right'
      related
    obtain ⟨extended', extendedOk', extendedRelated⟩ := (climbRelated related).exists_ok extendedOk
    rw [tighten.eq_1 _ _ _ right, tighten.eq_1 _ _ _ right']
    simp only [operatorAt related, onOperator, tighter, if_true, extendedOk, extendedOk',
      dif_neg stuck, dif_neg (mt (progress related extendedRelated).mp stuck)]
    exact .ok related
  · -- tighten: the next operator does not bind more tightly
    intro op right following onOperator notTighter right' related
    rw [tighten.eq_1 _ _ _ right, tighten.eq_1 _ _ _ right']
    simp only [operatorAt related, onOperator, notTighter, if_false]
    exact .ok related

theorem climb_tighten_sameView
    (operandReads : ∀ {p p'}, p.SameView p' →
      ExceptRel (Option.Rel ExprMatch.SameView) (operand p) (operand p')) :
    (∀ p left, ClimbSameView operand bound p left) ∧
      (∀ op right, TightenSameView operand bound op right) :=
  climb_tighten_related (fun same => operatorAt?_sameView same.next)
    (fun same _ => operandReads same.next.advance)
    (fun leftSame rightSame => by rw [leftSame.next.index, rightSame.next.index])
    (fun op leftSame rightSame => by
      rw [leftSame.next.line]
      exact combine_sameView leftSame rightSame op _)

theorem binaryOperation_sameView
    (operandReads : ∀ {p p'}, p.SameView p' →
      ExceptRel (Option.Rel ExprMatch.SameView) (operand p) (operand p'))
    (same : c.SameView c') :
    ExceptRel (Option.Rel ExprMatch.SameView) (binaryOperation operand c)
      (binaryOperation operand c') := by
  unfold binaryOperation
  have parsed := operandReads same
  generalize operand c = first? at parsed ⊢
  generalize operand c' = first'? at parsed ⊢
  rcases parsed with e | ⟨@⟨first, first', firstSame⟩ | _⟩
  · exact .error e
  · dsimp only
    have climbs : ClimbSameView operand c.stop 1 first := (climb_tighten_sameView operandReads).1 1 first
    have climbed := climbs firstSame
    rw [same.stop]
    generalize climb operand c.stop 1 first = result at climbed ⊢
    generalize climb operand c.stop 1 first' = result' at climbed ⊢
    cases climbed with
    | error e => exact .error e
    | ok resultSame => exact .ok (.some resultSame)
  · exact .ok .none

end Climbing

/-- The same branch of a condition, and the position after the condition, read in
another stream. -/
structure BranchSameView (result result' : Option StmtMatch × Cursor) : Prop where
  branch : Option.Rel StmtMatch.SameView result.1 result'.1
  next : result.2.SameView result'.2

theorem selectedBranch_sameView (reads : sub.ViewLocal) (same : c.SameView c')
    {branchStart branchStart' : Cursor} (branchSame : branchStart.SameView branchStart')
    (taken : Bool) :
    ExceptRel BranchSameView (selectedBranch sub c branchStart taken)
      (selectedBranch sub c' branchStart' taken) := by
  unfold selectedBranch
  rw [same.line]
  cases taken with
  | true =>
    simp only [if_true]
    have parsed := reads.statementUntil branchSame .elseKw
    generalize sub.statementUntil branchStart .elseKw = branch? at parsed ⊢
    generalize sub.statementUntil branchStart' .elseKw = branch'? at parsed ⊢
    rcases parsed with e | ⟨@⟨branch, branch', sameBranch⟩ | _⟩
    · exact .error e
    · dsimp only
      rw [sameBranch.next.isAt]
      split
      · exact .ok ⟨.some sameBranch, sameBranch.next.endOfView⟩
      · exact .ok ⟨.some sameBranch, sameBranch.next⟩
    · exact .error _
  | false =>
    simp only [Bool.false_eq_true, if_false]
    have sought := branchSame.seek? .elseKw
    generalize branchStart.seek? .elseKw = elseToken? at sought ⊢
    generalize branchStart'.seek? .elseKw = elseToken'? at sought ⊢
    cases sought with
    | @some elseToken elseToken' elseSame =>
      dsimp only
      have parsed := reads.statement elseSame.advance
      generalize sub.statement elseToken.advance = branch? at parsed ⊢
      generalize sub.statement elseToken'.advance = branch'? at parsed ⊢
      rcases parsed with e | ⟨@⟨branch, branch', sameBranch⟩ | _⟩
      · exact .error e
      · exact .ok ⟨.some sameBranch, sameBranch.next⟩
      · exact .error _
    | none => exact .ok ⟨.none, same.endOfView⟩

theorem condition_sameView (reads : sub.ViewLocal) (same : c.SameView c') :
    ExceptRel (Option.Rel StmtMatch.SameView) (condition sub c) (condition sub c') := by
  unfold condition
  have opened := same.skip? .ifKw true
  generalize c.skip? .ifKw true = conditionStart? at opened ⊢
  generalize c'.skip? .ifKw true = conditionStart'? at opened ⊢
  cases opened with
  | none => exact .ok .none
  | @some conditionStart conditionStart' startSame =>
    dsimp only
    have sought := startSame.seek? .thenKw
    generalize conditionStart.seek? .thenKw = thenToken? at sought ⊢
    generalize conditionStart'.seek? .thenKw = thenToken'? at sought ⊢
    cases sought with
    | none => exact .ok .none
    | @some thenToken thenToken' thenSame =>
      dsimp only
      have tested := reads.expressionUntil startSame .thenKw
      generalize sub.expressionUntil conditionStart .thenKw = test? at tested ⊢
      generalize sub.expressionUntil conditionStart' .thenKw = test'? at tested ⊢
      rcases tested with e | ⟨@⟨test, test', testSame⟩ | _⟩
      · exact .error e
      · dsimp only
        rw [testSame.next.sameSpot thenSame, testSame.value]
        split
        · exact .ok .none
        · split
          · exact .ok .none
          · rename_i taken _
            have selected := selectedBranch_sameView reads same thenSame.advance taken
            generalize selectedBranch sub c thenToken.advance taken = chosen at selected ⊢
            generalize selectedBranch sub c' thenToken'.advance taken = chosen' at selected ⊢
            rcases selected with e | @⟨⟨branch, next⟩, ⟨branch', next'⟩, ⟨branchSame, nextSame⟩⟩
            · exact .error e
            · dsimp only at branchSame nextSame ⊢
              refine .ok (.some ⟨?_, ?_, rfl, ?_, nextSame⟩)
              · rw [testSame.node, same.spanTo nextSame,
                  branchSame.map_eq fun _ _ sameStatement => sameStatement.node]
              · exact branchSame.bind_eq fun _ _ sameStatement => sameStatement.value
              · exact branchSame.bind_eq fun _ _ sameStatement => sameStatement.declares
      · exact .ok .none

end Parse

/-! ### Every nesting level, and a line -/

open Parse in
theorem ExprRule.run_sameView (rule : ExprRule) (bindings : Bindings) {sub : Dispatch}
    (reads : sub.ViewLocal) {c c' : Cursor} (same : c.SameView c') :
    ExceptRel (Option.Rel ExprMatch.SameView) (rule.run bindings sub c) (rule.run bindings sub c') := by
  cases rule with
  | binaryOperation => exact binaryOperation_sameView (reads.operand _) same
  | group => exact group_sameView reads same
  | function => exact call_sameView reads same
  | decimalComma => exact decimalComma_sameView same
  | data => exact data_sameView same
  | variableReference => exact reference_sameView bindings same

open Parse in
theorem StmtRule.run_sameView (rule : StmtRule) {sub : Dispatch} (reads : sub.ViewLocal)
    {c c' : Cursor} (same : c.SameView c') :
    ExceptRel (Option.Rel StmtMatch.SameView) (rule.run sub c) (rule.run sub c') := by
  cases rule with
  | comment => exact comment_sameView same
  | header => exact header_sameView same
  | condition => exact condition_sameView reads same
  | declaration => exact declaration_sameView reads same
  | conditionalExpression => exact conditionalExpression_sameView reads same
  | numericalExpression => exact numericalExpression_sameView reads same

/-- Trying a rule on two related inputs and then, where it declines on both, the rules after
it: the first matches are related when the rule's outcomes are, and the later rules' where it
declines. -/
theorem firstMatch_cons_related {ρ α β : Type} {R : α → β → Prop} {run : ρ → Attempt α}
    {run' : ρ → Attempt β} {label : α → String → α} {label' : β → String → β} {name : String}
    {rule : ρ} {rest : List (String × ρ)} (first : ExceptRel (Option.Rel R) (run rule) (run' rule))
    (labels : ∀ a a', R a a' → R (label a name) (label' a' name))
    (later : ExceptRel (Option.Rel R) (firstMatch run label rest) (firstMatch run' label' rest)) :
    ExceptRel (Option.Rel R) (firstMatch run label ((name, rule) :: rest))
      (firstMatch run' label' ((name, rule) :: rest)) := by
  rw [firstMatch, firstMatch]
  generalize run rule = attempt at first ⊢
  generalize run' rule = attempt' at first ⊢
  rcases first with e | ⟨⟨related⟩ | _⟩
  · exact .error e
  · exact .ok (.some (labels _ _ related))
  · exact later

/-- Trying the same rules on two related inputs: the first match of each is at the same
rule, and labelling keeps them related. -/
theorem firstMatch_sameView {ρ α β : Type} {R : α → β → Prop} {run : ρ → Attempt α}
    {run' : ρ → Attempt β} {label : α → String → α} {label' : β → String → β}
    (runs : ∀ rule, ExceptRel (Option.Rel R) (run rule) (run' rule))
    (labels : ∀ a a' name, R a a' → R (label a name) (label' a' name)) :
    ∀ rules, ExceptRel (Option.Rel R) (firstMatch run label rules) (firstMatch run' label' rules)
  | [] => .ok .none
  | (name, rule) :: rest =>
    firstMatch_cons_related (runs rule) (labels · · name) (firstMatch_sameView runs labels rest)

namespace Dispatch

theorem exhausted_viewLocal : exhausted.ViewLocal where
  expression same := by
    simp only [exhausted, same.line]
    exact .error _
  operand _ _ _ same := by
    simp only [exhausted, same.line]
    exact .error _
  statement same := by
    simp only [exhausted, same.line]
    exact .error _

theorem step_viewLocal {order : Order} {bindings : Bindings} {sub : Dispatch}
    (reads : sub.ViewLocal) : (step order bindings sub).ViewLocal where
  expression same := firstMatch_sameView (fun rule => rule.run_sameView bindings reads same)
    (fun _ _ _ related => ⟨related.node, related.value, rfl, related.next⟩) _
  operand _ _ _ same := firstMatch_sameView (fun rule => rule.run_sameView bindings reads same)
    (fun _ _ _ related => ⟨related.node, related.value, rfl, related.next⟩) _
  statement same := firstMatch_sameView (fun rule => rule.run_sameView reads same)
    (fun _ _ _ related => ⟨related.node, related.value, rfl, related.declares, related.next⟩) _

/-- At every nesting level, dispatch reads only the view it is given. -/
theorem withLevels_viewLocal (order : Order) (bindings : Bindings) (levels : Nat) :
    (withLevels order bindings levels).ViewLocal :=
  withLevels_invariant order bindings ViewLocal exhausted_viewLocal
    (fun _ reads => step_viewLocal reads) levels

end Dispatch

/-- A line is read alike from two cursors with the same view: its outcome, its
parser and what it declares depend only on the tokens of the line. -/
theorem readLine_sameView (order : Order) (bindings : Bindings) {c c' : Cursor}
    (same : c.SameView c') : readLine order bindings c' = readLine order bindings c := by
  have reads : (order.dispatch bindings).ViewLocal :=
    Dispatch.withLevels_viewLocal order bindings maxNestingDepth
  rw [readLine, readLine, same.atEnd, same.line]
  generalize order.dispatch bindings = d at reads ⊢
  split
  · rfl
  · have parsed := reads.statement same
    generalize d.statement c = found? at parsed ⊢
    generalize d.statement c' = found'? at parsed ⊢
    rcases parsed with e | ⟨@⟨found, found', foundSame⟩ | _⟩
    · rfl
    · dsimp only
      rw [foundSame.next.atEnd, foundSame.next.isAt, foundSame.next.text, foundSame.declares,
        foundSame.value, foundSame.parser]
    · rfl

/-! ### Documents that share their first lines -/

namespace TokenStream.SameLinesBelow

variable {S S' : TokenStream} {count : Nat}

theorem line? (agree : S.SameLinesBelow S' count) {index : Nat} (below : index < count) :
    Option.Rel Cursor.SameView (S.line? index) (S'.line? index) := by
  unfold TokenStream.line?
  rw [agree.lines index below]
  cases ranged : S.lines[index]? with
  | none => exact .none
  | some range => exact .some ⟨rfl, rfl, rfl, rfl, agree.tokens index below range ranged⟩

theorem visibleBindings (order : Order) (agree : S.SameLinesBelow S' count) :
    ∀ index ≤ count, visibleBindings order S' index = visibleBindings order S index
  | 0, _ => rfl
  | index + 1, below => by
    have earlier := visibleBindings order agree index (by omega)
    rw [Reckon.visibleBindings.eq_2, Reckon.visibleBindings.eq_2]
    have atLine := agree.line? (show index < count by omega)
    generalize S.line? index = c? at atLine ⊢
    generalize S'.line? index = c'? at atLine ⊢
    cases atLine with
    | none => exact earlier
    | some same =>
      dsimp only
      rw [earlier, readLine_sameView order _ same]

theorem lineOutcome (order : Order) (agree : S.SameLinesBelow S' count) {index : Nat}
    (below : index < count) : lineOutcome order S' index = lineOutcome order S index := by
  unfold Reckon.lineOutcome
  rw [agree.visibleBindings order index (Nat.le_of_lt below)]
  have atLine := agree.line? below
  generalize S.line? index = c? at atLine ⊢
  generalize S'.line? index = c'? at atLine ⊢
  cases atLine with
  | none => rfl
  | some same => simp only [Option.map_some, readLine_sameView order _ same]

end TokenStream.SameLinesBelow

/-- The first `k` outcomes of a document are those of its first `min k lineCount` lines. -/
theorem take_lineOutcomes (order : Order) (stream : TokenStream) (k : Nat) :
    ((List.range stream.lineCount).filterMap (lineOutcome order stream)).take k =
      (List.range (min k stream.lineCount)).filterMap (lineOutcome order stream) := by
  by_cases within : k ≤ stream.lineCount
  · -- every line below the line count has an outcome, so the first `k` are those of lines `0..k`
    have everyLine : ((List.range k).filterMap (lineOutcome order stream)).length = k := by
      rw [List.filterMap_length_eq_length.mpr, List.length_range]
      intro index member
      rw [lineOutcome, Option.isSome_map]
      exact TokenStream.line?_isSome (Nat.lt_of_lt_of_le (List.mem_range.mp member) within)
    rw [Nat.min_eq_left within, show stream.lineCount = k + (stream.lineCount - k) by omega,
      List.range_add, List.filterMap_append, List.take_left' everyLine]
  · rw [Nat.min_eq_right (by omega), List.take_of_length_le]
    exact Nat.le_trans (List.length_filterMap_le _ _) (by rw [List.length_range]; omega)

/-- Each line's outcome depends only on the lines above it and on itself: two
documents whose first `k` lines are the same text have the same first `k`
outcomes, with the same results, messages, line numbers and parsers. Editing or
appending lines below line `k` therefore never changes the outcomes of lines `1..k`. -/
theorem first_line_outcomes_depend_only_on_first_lines (r : Registry) (culture : String)
    (cancelled : Bool) (k : Nat) (text text' : String)
    (sameLines : (text.toList.splitOn '\n').take k = (text'.toList.splitOn '\n').take k) :
    (r.interpret text culture cancelled).map (·.lines.take k) =
      (r.interpret text' culture cancelled).map (·.lines.take k) := by
  cases cancelled with
  | true => simp only [Registry.interpret, if_true]
  | false =>
    rw [interpret_eq, interpret_eq]
    simp only [Except.map, Except.ok.injEq]
    rw [take_lineOutcomes, take_lineOutcomes, TokenStream.lineCount_ofSource,
      TokenStream.lineCount_ofSource]
    have counted := congrArg List.length sameLines
    rw [List.length_take, List.length_take] at counted
    by_cases short : (text.toList.splitOn '\n').length < k
    · -- the first document has fewer than `k` lines, so both are the same text
      rw [List.take_of_length_le (by omega), List.take_of_length_le (by omega)] at sameLines
      have sameChars : text.toList = text'.toList :=
        calc text.toList = ['\n'].intercalate (text.toList.splitOn '\n') :=
              (List.intercalate_splitOn _).symm
          _ = ['\n'].intercalate (text'.toList.splitOn '\n') := by rw [sameLines]
          _ = text'.toList := List.intercalate_splitOn _
      rw [String.toList_inj.mp sameChars]
    · rcases Nat.eq_zero_or_pos k with rfl | positive
      · simp only [Nat.zero_min, List.range_zero, List.filterMap_nil]
      -- both documents have at least `k` lines, and their first `k` lines are one shared text
      obtain ⟨shared, after, after', split, split', ends, ends', sharedCount⟩ :=
        TokenStream.exists_shared_lines k text.toList text'.toList positive (by omega) (by omega)
          sameLines
      have ofShared : ∀ {source : String} {after : List Char}, source.toList = shared ++ after →
          TokenStream.ofSource source = TokenStream.ofSource (String.ofList (shared ++ after)) := by
        intro source after whole
        rw [← whole, String.ofList_toList]
      have agree := (TokenStream.ofSource_sameLinesBelow shared after ends).symm.trans
        (TokenStream.ofSource_sameLinesBelow shared after' ends')
      rw [sharedCount, ← ofShared split, ← ofShared split'] at agree
      rw [Nat.min_eq_left (by omega), Nat.min_eq_left (by omega)]
      exact (List.filterMap_congr fun index member =>
        agree.lineOutcome (r.order culture) (List.mem_range.mp member)).symm

/-- In the built-in registry, replacing the second line of a document leaves the outcome of
its first line, a declaration, as it was. -/
theorem first_outcome_kept_when_second_line_replaced :
    ∃ r, RegistryBuilder.builtin.build = .ok r ∧
      ("x = 1\ny = 2".toList.splitOn '\n').take 1 = ("x = 1\nz".toList.splitOn '\n').take 1 ∧
      (r.interpret "x = 1\ny = 2" "en" false).map (·.lines.take 1) =
        (r.interpret "x = 1\nz" "en" false).map (·.lines.take 1) := by
  have builds : (RegistryBuilder.builtin.build).toOption.isSome = true := by decide +kernel
  obtain ⟨r, built⟩ : ∃ r, RegistryBuilder.builtin.build = .ok r := by
    cases h : RegistryBuilder.builtin.build with
    | error e =>
      rw [h] at builds
      cases builds
    | ok r => exact ⟨r, rfl⟩
  exact ⟨r, built, by decide,
    first_line_outcomes_depend_only_on_first_lines r "en" false 1 _ _ (by decide)⟩

end Reckon
