import Reckon.Proofs.Views
import Reckon.Proofs.CursorViews

/-!
Contract: a view is read alike wherever it starts.

Two cursors are restarted copies (`Cursor.Restarted S s s'`) when they stand at the same
position of the same stream, end their views at the same place and lie on the same
line, and differ only in where their views start: at `s` and at `s'`, both at or
before the position. A dispatch is start-free (`Dispatch.StartFree`) when at two such
cursors each entry point fails with the same error, declines on both, or reads the
same match, whose next positions are again restarted copies. Every parser is
start-free given a start-free dispatch for what it nests, so the dispatch at every
nesting level is (`Dispatch.withLevels_startFree`).

The start of a view is read in three places only, and none of them tells the two
starts apart:
- blanks count as present before the first token of a view, but parsers ask about
  blanks only after a minus sign and around a decimal comma, past the cursor they were
  given and so past both starts (`Cursor.RestartedPast`);
- `resume` clamps a position found in a narrowed view at the start of the wider one,
  and such a position never lies before the narrowed cursor;
- `sameSpot` compares starts, and the condition parser compares two cursors of one
  view, which start alike.

This is what lets the branch of a condition be read as a line of its own
(`Reckon.Proofs.Conditions`).

Owns: `Cursor.Restarted`, `Cursor.RestartedPast`, the `Restarted` relations of
matches, `Dispatch.StartFree` and the facts above.
Does not own: `ExceptRel` and the facts on related options, first matches and
precedence climbing that hold for any relation (`Reckon.Proofs.Views`).
-/

set_option autoImplicit false

namespace Reckon

/-- `c'` is `c` with its view starting at `s'` where that of `c` starts at `s`: the same
position, end and line of the stream `S`, with both starts at or before the position,
and the position inside the view. -/
structure Cursor.Restarted (S : TokenStream) (s s' : Nat) (c c' : Cursor) : Prop where
  eq : c' = { c with start := s' }
  stream : c.stream = S
  start : c.start = s
  le_index : s ≤ c.index
  le_index' : s' ≤ c.index
  index_le : c.index ≤ c.stop

/-- Restarted copies strictly past both starts, where no start shows in the blanks
counted before the token. -/
structure Cursor.RestartedPast (S : TokenStream) (s s' : Nat) (c c' : Cursor) : Prop where
  restarted : c.Restarted S s s' c'
  lt_index : s < c.index
  lt_index' : s' < c.index

namespace Cursor.Restarted

variable {S : TokenStream} {s s' : Nat} {c c' : Cursor}

theorem index (r : c.Restarted S s s' c') : c'.index = c.index := by rw [r.eq]
theorem stop (r : c.Restarted S s s' c') : c'.stop = c.stop := by rw [r.eq]
theorem line (r : c.Restarted S s s' c') : c'.line = c.line := by rw [r.eq]
theorem start' (r : c.Restarted S s s' c') : c'.start = s' := by rw [r.eq]

theorem token? (r : c.Restarted S s s' c') : c'.token? = c.token? := by rw [r.eq]; rfl
theorem kind? (r : c.Restarted S s s' c') : c'.kind? = c.kind? := by rw [r.eq]; rfl
theorem isAt (r : c.Restarted S s s' c') (kind : TokenKind) : c'.isAt kind = c.isAt kind := by
  rw [r.eq]; rfl
theorem text (r : c.Restarted S s s' c') : c'.text = c.text := by rw [r.eq]; rfl
theorem atEnd (r : c.Restarted S s s' c') : c'.atEnd = c.atEnd := by rw [r.eq]; rfl
theorem textToEnd (r : c.Restarted S s s' c') : c'.textToEnd = c.textToEnd := by rw [r.eq]; rfl

theorem spanTo (r : c.Restarted S s s' c') {next next' : Cursor}
    (rn : next.Restarted S s s' next') : c'.spanTo next' = c.spanTo next := by
  rw [r.eq, rn.eq]; rfl

/-- Two cursors of one view are at the same spot in the restarted view exactly when
they are in the original one. -/
theorem sameSpot (r : c.Restarted S s s' c') {other other' : Cursor}
    (ro : other.Restarted S s s' other') : c'.sameSpot other' = c.sameSpot other := by
  rw [r.eq, ro.eq]
  simp only [Cursor.sameSpot, r.start, ro.start, beq_self_eq_true]

/-- Another position of the view, at or after both starts. -/
theorem withIndex (r : c.Restarted S s s' c') {j : Nat} (lo : s ≤ j) (lo' : s' ≤ j)
    (hi : j ≤ c.stop) :
    ({ c with index := j } : Cursor).Restarted S s s' { c' with index := j } :=
  ⟨by rw [r.eq], r.stream, r.start, lo, lo', hi⟩

theorem advance (r : c.Restarted S s s' c') : c.advance.Restarted S s s' c'.advance := by
  by_cases inside : c.index < c.stop
  · rw [Cursor.advance_of_lt inside, Cursor.advance_of_lt (by rw [r.index, r.stop]; exact inside), r.index]
    exact r.withIndex (by have := r.le_index; omega) (by have := r.le_index'; omega) inside
  · rw [Cursor.advance_of_not_lt inside, Cursor.advance_of_not_lt (by rw [r.index, r.stop]; exact inside)]
    exact r

theorem endOfView (r : c.Restarted S s s' c') : c.endOfView.Restarted S s s' c'.endOfView := by
  have := r.index_le
  refine ⟨by rw [r.eq]; rfl, r.stream, r.start, ?_, ?_, Nat.le_refl _⟩
  · show s ≤ c.stop
    have := r.le_index
    omega
  · show s' ≤ c.stop
    have := r.le_index'
    omega

/-- A step forward that finds a token leaves both starts behind. -/
theorem next? (r : c.Restarted S s s' c') :
    Option.Rel (Cursor.RestartedPast S s s') c.next? c'.next? := by
  unfold Cursor.next?
  dsimp only
  rw [r.advance.atEnd]
  split
  · exact .none
  · rename_i notAtEnd
    have inside : c.index < c.stop := by
      by_contra outside
      rw [Cursor.advance_of_not_lt outside] at notAtEnd
      simp [Cursor.atEnd] at notAtEnd
      omega
    have moved := advance_index_of_lt inside
    exact .some ⟨r.advance, by have := r.le_index; omega, by have := r.le_index'; omega⟩

theorem seek? (kind : TokenKind) : ∀ {c c' : Cursor}, c.Restarted S s s' c' →
    Option.Rel (Cursor.Restarted S s s') (c.seek? kind) (c'.seek? kind) := by
  -- both searches step through the same tokens of the same view
  intro c
  induction c using Cursor.seek?.induct kind with
  | case1 c inside onKind =>
    intro c' r
    rw [Cursor.seek?.eq_1 c, Cursor.seek?.eq_1 c', dif_pos inside, if_pos onKind,
      dif_pos (by rw [r.index, r.stop]; exact inside), if_pos (by rw [r.isAt]; exact onKind)]
    exact .some r
  | case2 c inside notKind inductionHypothesis =>
    intro c' r
    rw [Cursor.seek?.eq_1 c, Cursor.seek?.eq_1 c', dif_pos inside, if_neg notKind,
      dif_pos (by rw [r.index, r.stop]; exact inside), if_neg (by rw [r.isAt]; exact notKind)]
    exact inductionHypothesis r.advance
  | case3 c outside =>
    intro c' r
    rw [Cursor.seek?.eq_1 c, Cursor.seek?.eq_1 c', dif_neg outside,
      dif_neg (by rw [r.index, r.stop]; exact outside)]
    exact .none

theorem skipWords : ∀ {c c' : Cursor}, c.Restarted S s s' c' →
    c.skipWords.Restarted S s s' c'.skipWords := by
  intro c
  induction c using Cursor.skipWords.induct with
  | case1 c inside onWord inductionHypothesis =>
    intro c' r
    rw [Cursor.skipWords.eq_1 c, Cursor.skipWords.eq_1 c', dif_pos inside, if_pos onWord,
      dif_pos (by rw [r.index, r.stop]; exact inside), if_pos (by rw [r.isAt]; exact onWord)]
    exact inductionHypothesis r.advance
  | case2 c inside notWord =>
    intro c' r
    rw [Cursor.skipWords.eq_1 c, Cursor.skipWords.eq_1 c', dif_pos inside, if_neg notWord,
      dif_pos (by rw [r.index, r.stop]; exact inside), if_neg (by rw [r.isAt]; exact notWord)]
    exact r
  | case3 c outside =>
    intro c' r
    rw [Cursor.skipWords.eq_1 c, Cursor.skipWords.eq_1 c', dif_neg outside,
      dif_neg (by rw [r.index, r.stop]; exact outside)]
    exact r

theorem skip? (r : c.Restarted S s s' c') (expected : TokenKind) (overWords : Bool) :
    Option.Rel (Cursor.Restarted S s s') (c.skip? expected overWords)
      (c'.skip? expected overWords) := by
  have here : (if overWords && expected != .word then c.skipWords else c).Restarted S s s'
      (if overWords && expected != .word then c'.skipWords else c') := by
    split
    · exact r.skipWords
    · exact r
  unfold Cursor.skip?
  dsimp only
  generalize (if overWords && expected != .word then c.skipWords else c) = start at here ⊢
  generalize (if overWords && expected != .word then c'.skipWords else c') = start' at here ⊢
  rw [here.isAt]
  split
  · exact .some here.advance
  · exact .none

theorem «until» (r : c.Restarted S s s' c') (kind : TokenKind) :
    (c.until kind).Restarted S s s' (c'.until kind) := by
  unfold Cursor.until
  have sought := r.seek? kind
  generalize found? : c.seek? kind = sought? at sought ⊢
  generalize c'.seek? kind = sought'? at sought ⊢
  rcases sought with ⟨foundRestarted⟩ | _
  · -- the cut view ends at the token found, at or after the cursor
    rename_i found found'
    obtain ⟨-, lo, -⟩ := Cursor.seek?_eq_some found?
    dsimp only
    exact ⟨by rw [r.eq, foundRestarted.index], r.stream, r.start, r.le_index, r.le_index', lo⟩
  · exact r

/-- A position found at or after both starts is carried back alike into the restarted
views. -/
theorem resume (r : c.Restarted S s s' c') {other other' : Cursor}
    (ro : other.Restarted S s s' other') : (c.resume other).Restarted S s s' (c'.resume other') := by
  unfold Cursor.resume
  have := ro.le_index
  have := ro.le_index'
  have clamped : min (max other'.index c'.start) c'.stop = min (max other.index c.start) c.stop := by
    rw [ro.index, r.start', r.stop, r.start]
    omega
  rw [clamped]
  have := r.le_index
  have := r.le_index'
  have := r.index_le
  exact r.withIndex (by rw [r.start]; omega) (by rw [r.start]; omega) (by omega)

end Cursor.Restarted

namespace Cursor.RestartedPast

variable {S : TokenStream} {s s' : Nat} {c c' : Cursor}

theorem hasLeadingWhitespace (p : c.RestartedPast S s s' c') :
    c'.hasLeadingWhitespace = c.hasLeadingWhitespace := by
  have r := p.restarted
  unfold Cursor.hasLeadingWhitespace
  rw [r.token?, r.index, r.start', r.start, beq_eq_false_iff_ne.mpr (by have := p.lt_index'; omega),
    beq_eq_false_iff_ne.mpr (by have := p.lt_index; omega)]

theorem next? (p : c.RestartedPast S s s' c') :
    Option.Rel (Cursor.RestartedPast S s s') c.next? c'.next? :=
  p.restarted.next?

end Cursor.RestartedPast

/-! ### Matches and start-free dispatch -/

/-- The same expression match read in a restarted view: the same tree, value and
parser, and restarted positions after it. -/
structure ExprMatch.Restarted (S : TokenStream) (s s' : Nat) (m m' : ExprMatch) : Prop where
  node : m'.node = m.node
  value : m'.value = m.value
  parser : m'.parser = m.parser
  next : m.next.Restarted S s s' m'.next

/-- The same statement match read in a restarted view. -/
structure StmtMatch.Restarted (S : TokenStream) (s s' : Nat) (m m' : StmtMatch) : Prop where
  node : m'.node = m.node
  value : m'.value = m.value
  parser : m'.parser = m.parser
  declares : m'.declares = m.declares
  next : m.next.Restarted S s s' m'.next

/-- A dispatch reads a view alike wherever the view starts: at restarted copies each
entry point fails with the same error, declines on both or reads the same match. -/
structure Dispatch.StartFree (d : Dispatch) : Prop where
  expression : ∀ {S : TokenStream} {s s' : Nat} {c c' : Cursor}, c.Restarted S s s' c' →
    ExceptRel (Option.Rel (ExprMatch.Restarted S s s')) (d.expression c) (d.expression c')
  operand : ∀ (after : String) {S : TokenStream} {s s' : Nat} {c c' : Cursor},
    c.Restarted S s s' c' →
    ExceptRel (Option.Rel (ExprMatch.Restarted S s s')) (d.operand after c) (d.operand after c')
  statement : ∀ {S : TokenStream} {s s' : Nat} {c c' : Cursor}, c.Restarted S s s' c' →
    ExceptRel (Option.Rel (StmtMatch.Restarted S s s')) (d.statement c) (d.statement c')

namespace Dispatch.StartFree

variable {d : Dispatch} {S : TokenStream} {s s' : Nat} {c c' : Cursor}

theorem expressionUntil (reads : d.StartFree) (r : c.Restarted S s s' c') (stop : TokenKind) :
    ExceptRel (Option.Rel (ExprMatch.Restarted S s s')) (d.expressionUntil c stop)
      (d.expressionUntil c' stop) := by
  unfold Dispatch.expressionUntil
  have parsed := reads.expression (r.until stop)
  generalize d.expression (c.until stop) = found? at parsed ⊢
  generalize d.expression (c'.until stop) = found'? at parsed ⊢
  rcases parsed with e | ⟨@⟨found, found', foundRestarted⟩ | _⟩
  · exact .error e
  · exact .ok (.some ⟨foundRestarted.node, foundRestarted.value, foundRestarted.parser,
      r.resume foundRestarted.next⟩)
  · exact .ok .none

theorem statementUntil (reads : d.StartFree) (r : c.Restarted S s s' c') (stop : TokenKind) :
    ExceptRel (Option.Rel (StmtMatch.Restarted S s s')) (d.statementUntil c stop)
      (d.statementUntil c' stop) := by
  unfold Dispatch.statementUntil
  have parsed := reads.statement (r.until stop)
  generalize d.statement (c.until stop) = found? at parsed ⊢
  generalize d.statement (c'.until stop) = found'? at parsed ⊢
  rcases parsed with e | ⟨@⟨found, found', foundRestarted⟩ | _⟩
  · exact .error e
  · exact .ok (.some ⟨foundRestarted.node, foundRestarted.value, foundRestarted.parser,
      foundRestarted.declares, r.resume foundRestarted.next⟩)
  · exact .ok .none

end Dispatch.StartFree

/-! ### Each parser reads a view alike wherever it starts -/

namespace Parse

variable {sub : Dispatch} {S : TokenStream} {s s' : Nat} {c c' : Cursor}

theorem reference_restarted (bindings : Bindings) (r : c.Restarted S s s' c') :
    ExceptRel (Option.Rel (ExprMatch.Restarted S s s')) (reference bindings c)
      (reference bindings c') := by
  unfold reference
  rw [r.isAt, r.text]
  split
  · split
    · exact .ok (.some ⟨by rw [r.spanTo r.advance], rfl, rfl, r.advance⟩)
    · exact .ok .none
  · exact .ok .none

theorem comment_restarted (r : c.Restarted S s s' c') :
    ExceptRel (Option.Rel (StmtMatch.Restarted S s s')) (comment c) (comment c') := by
  unfold comment
  rw [r.isAt]
  split
  · exact .ok (.some ⟨by rw [r.spanTo r.advance], rfl, rfl, rfl, r.advance⟩)
  · exact .ok .none

theorem header_restarted (r : c.Restarted S s s' c') :
    ExceptRel (Option.Rel (StmtMatch.Restarted S s s')) (header c) (header c') := by
  unfold header
  have opened := r.skip? .hash false
  generalize c.skip? .hash false = titleStart? at opened ⊢
  generalize c'.skip? .hash false = titleStart'? at opened ⊢
  cases opened with
  | some titleRestarted =>
    exact .ok (.some ⟨by rw [titleRestarted.textToEnd, r.spanTo r.endOfView], rfl, rfl, rfl,
      r.endOfView⟩)
  | none => exact .ok .none

theorem declaration_restarted (reads : sub.StartFree) (r : c.Restarted S s s' c') :
    ExceptRel (Option.Rel (StmtMatch.Restarted S s s')) (declaration sub c)
      (declaration sub c') := by
  unfold declaration
  rw [r.isAt]
  split
  · exact .ok .none
  · have opened := r.advance.skip? .equals false
    generalize c.advance.skip? .equals false = valueStart? at opened ⊢
    generalize c'.advance.skip? .equals false = valueStart'? at opened ⊢
    cases opened with
    | none => exact .ok .none
    | @some valueStart valueStart' valueRestarted =>
      dsimp only
      have parsed := reads.expression valueRestarted
      generalize sub.expression valueStart = value? at parsed ⊢
      generalize sub.expression valueStart' = value'? at parsed ⊢
      rcases parsed with e | ⟨⟨foundRestarted⟩ | _⟩
      · exact .error e
      · exact .ok (.some ⟨by rw [r.text, foundRestarted.node, r.spanTo foundRestarted.next],
          by rw [foundRestarted.value], rfl, by rw [r.text, foundRestarted.value],
          foundRestarted.next⟩)
      · exact .ok .none

theorem numericalExpression_restarted (reads : sub.StartFree) (r : c.Restarted S s s' c') :
    ExceptRel (Option.Rel (StmtMatch.Restarted S s s')) (numericalExpression sub c)
      (numericalExpression sub c') := by
  unfold numericalExpression
  have parsed := reads.expression r
  generalize sub.expression c = found? at parsed ⊢
  generalize sub.expression c' = found'? at parsed ⊢
  rcases parsed with e | ⟨⟨foundRestarted⟩ | _⟩
  · exact .error e
  · exact .ok (.some ⟨by rw [foundRestarted.node, r.spanTo foundRestarted.next],
      by rw [foundRestarted.value], rfl, rfl, foundRestarted.next⟩)
  · exact .ok .none

theorem conditionalExpression_restarted (reads : sub.StartFree) (r : c.Restarted S s s' c') :
    ExceptRel (Option.Rel (StmtMatch.Restarted S s s')) (conditionalExpression sub c)
      (conditionalExpression sub c') := by
  unfold conditionalExpression
  have parsed := reads.expression r
  generalize sub.expression c = found? at parsed ⊢
  generalize sub.expression c' = found'? at parsed ⊢
  rcases parsed with e | ⟨⟨foundRestarted⟩ | _⟩
  · exact .error e
  · dsimp only
    rw [foundRestarted.node, r.spanTo foundRestarted.next]
    split
    · exact .ok .none
    · exact .ok (.some ⟨rfl, by rw [foundRestarted.value], rfl, rfl, foundRestarted.next⟩)
  · exact .ok .none

theorem group_restarted (reads : sub.StartFree) (r : c.Restarted S s s' c') :
    ExceptRel (Option.Rel (ExprMatch.Restarted S s s')) (group sub c) (group sub c') := by
  unfold group
  rw [r.line]
  have opened := r.skip? .lParen false
  generalize c.skip? .lParen false = innerStart? at opened ⊢
  generalize c'.skip? .lParen false = innerStart'? at opened ⊢
  cases opened with
  | none => exact .ok .none
  | @some innerStart innerStart' innerStartRestarted =>
    dsimp only
    have parsed := reads.expression innerStartRestarted
    generalize sub.expression innerStart = inner? at parsed ⊢
    generalize sub.expression innerStart' = inner'? at parsed ⊢
    rcases parsed with e | ⟨@⟨inner, inner', innerRestarted⟩ | _⟩
    · exact .error e
    · simp only [bind, Except.bind]
      have closed := innerRestarted.next.skip? .rParen false
      generalize inner.next.skip? .rParen false = next? at closed ⊢
      generalize inner'.next.skip? .rParen false = next'? at closed ⊢
      cases closed with
      | none => exact .error _
      | @some next next' nextRestarted =>
        exact .ok (.some ⟨by rw [innerRestarted.node, r.spanTo nextRestarted],
          innerRestarted.value, rfl, nextRestarted⟩)
    · exact .error _

theorem atDigitRun_restarted (r : c.Restarted S s s' c') : atDigitRun c' = atDigitRun c := by
  rw [atDigitRun, atDigitRun, r.isAt, r.text]

theorem decimalComma_restarted (r : c.Restarted S s s' c') :
    ExceptRel (Option.Rel (ExprMatch.Restarted S s s')) (decimalComma c) (decimalComma c') := by
  unfold decimalComma
  rw [atDigitRun_restarted r, r.text]
  split
  · exact .ok .none
  · dsimp only
    generalize fractionEq : (c.next?.filter _ |>.bind Cursor.next? |>.filter _) = fraction?
    generalize fractionEq' : (c'.next?.filter _ |>.bind Cursor.next? |>.filter _) = fraction'?
    -- the comma and the fraction lie past the cursor, so past both starts, where the
    -- blanks before them count alike
    have fraction : Option.Rel (Cursor.RestartedPast S s s') fraction? fraction'? := by
      rw [← fractionEq, ← fractionEq']
      refine (r.next?.filter fun _ _ commaPast => ?_).bind (fun _ _ commaPast => commaPast.next?)
        |>.filter fun _ _ fractionPast => ?_
      · rw [commaPast.restarted.isAt, commaPast.hasLeadingWhitespace]
      · rw [atDigitRun_restarted fractionPast.restarted, fractionPast.hasLeadingWhitespace]
    cases fraction with
    | none => exact .ok .none
    | @some fraction fraction' fractionPast =>
      dsimp only
      rw [fractionPast.restarted.text]
      split
      · exact .ok .none
      · exact .ok (.some ⟨by rw [r.spanTo fractionPast.restarted.advance], rfl, rfl,
          fractionPast.restarted.advance⟩)

theorem data_restarted (r : c.Restarted S s s' c') :
    ExceptRel (Option.Rel (ExprMatch.Restarted S s s')) (data c) (data c') := by
  unfold data
  rw [r.kind?, r.text, r.line]
  split
  case h_1 | h_2 | h_3 =>
    exact .ok (.some ⟨by rw [r.spanTo r.advance], rfl, rfl, r.advance⟩)
  case h_4 =>
    split
    · exact .ok (.some ⟨by rw [r.spanTo r.advance], rfl, rfl, r.advance⟩)
    · exact .error _
  case h_5 =>
    -- the number after a minus sign lies past both starts
    have following := r.next?
    generalize c.next? = number? at following ⊢
    generalize c'.next? = number'? at following ⊢
    cases following with
    | @some number number' numberPast =>
      dsimp only
      rw [numberPast.restarted.isAt, numberPast.hasLeadingWhitespace, numberPast.restarted.text]
      split
      · split
        · exact .ok (.some ⟨by rw [r.spanTo numberPast.restarted.advance], rfl, rfl,
            numberPast.restarted.advance⟩)
        · exact .error _
      · exact .ok .none
    | none => exact .ok .none
  case h_6 => exact .ok .none

/-- The same argument list, and the position after it, read in a restarted view. -/
structure ArgumentsRestarted (S : TokenStream) (s s' : Nat) (result result' : List ExprMatch × Cursor) : Prop where
  items : List.Forall₂ (ExprMatch.Restarted S s s') result.1 result'.1
  next : result.2.Restarted S s s' result'.2

theorem argumentItems_restarted (reads : sub.StartFree) {listStart listStart' : Cursor}
    (line : listStart'.line = listStart.line) (bound : Nat) (current : Cursor)
    (read : List ExprMatch) :
    ∀ {current' read'}, current.Restarted S s s' current' →
      List.Forall₂ (ExprMatch.Restarted S s s') read read' →
      ExceptRel (ArgumentsRestarted S s s') (argumentItems sub listStart bound current read)
        (argumentItems sub listStart' bound current' read') := by
  -- one case per branch of the reader; the restarted view reads the same item and takes
  -- the same branch
  induction current, read using argumentItems.induct sub listStart bound with
  | case1 current read e parsed =>
    intro current' read' r _
    rw [argumentItems.eq_1 sub listStart, argumentItems.eq_1 sub listStart', parsed,
      (reads.expression r).eq_error parsed]
    exact .error e
  | case2 current read parsed =>
    intro current' read' r _
    rw [argumentItems.eq_1 sub listStart, argumentItems.eq_1 sub listStart', parsed,
      (reads.expression r).eq_declined parsed, line]
    exact .error _
  | case3 current read item parsed separator moved inductionHypothesis
  | case5 current read item parsed separator moved inductionHypothesis =>
    intro current' read' r relatedRead
    obtain ⟨item', parsed', itemRestarted⟩ := (reads.expression r).exists_found parsed
    rw [argumentItems.eq_1 sub listStart, argumentItems.eq_1 sub listStart', parsed, parsed']
    simp only [itemRestarted.next.kind?, itemRestarted.next.advance.index, r.index, separator,
      dif_pos moved]
    exact inductionHypothesis itemRestarted.next.advance
      (List.rel_append relatedRead (.cons itemRestarted .nil))
  | case4 current read item parsed separator stuck
  | case6 current read item parsed separator stuck =>
    intro current' read' r _
    obtain ⟨item', parsed', itemRestarted⟩ := (reads.expression r).exists_found parsed
    rw [argumentItems.eq_1 sub listStart, argumentItems.eq_1 sub listStart', parsed, parsed']
    simp only [itemRestarted.next.kind?, itemRestarted.next.advance.index, r.index, separator,
      dif_neg stuck, line]
    exact .error _
  | case7 current read item parsed closing =>
    intro current' read' r relatedRead
    obtain ⟨item', parsed', itemRestarted⟩ := (reads.expression r).exists_found parsed
    rw [argumentItems.eq_1 sub listStart, argumentItems.eq_1 sub listStart', parsed, parsed']
    simp only [itemRestarted.next.kind?, closing]
    exact .ok ⟨List.rel_append relatedRead (.cons itemRestarted .nil), itemRestarted.next.advance⟩
  | case8 current read item parsed notComma notSemicolon notClosing =>
    intro current' read' r _
    obtain ⟨item', parsed', itemRestarted⟩ := (reads.expression r).exists_found parsed
    rw [argumentItems.eq_1 sub listStart, argumentItems.eq_1 sub listStart', parsed, parsed']
    simp only [itemRestarted.next.kind?, line]
    exact .error _

theorem ExprMatch.Restarted.map_eq {items items' : List ExprMatch}
    (related : List.Forall₂ (ExprMatch.Restarted S s s') items items') {γ : Type}
    {f : ExprMatch → γ} (agree : ∀ m m', m.Restarted S s s' m' → f m' = f m) :
    items'.map f = items.map f := by
  induction related with
  | nil => rfl
  | cons head _ inductionHypothesis =>
    rw [List.map_cons, List.map_cons, agree _ _ head, inductionHypothesis]

theorem arguments_restarted (reads : sub.StartFree) {listStart listStart' : Cursor}
    (r : listStart.Restarted S s s' listStart') :
    ExceptRel (ArgumentsRestarted S s s') (arguments sub listStart) (arguments sub listStart') := by
  unfold arguments
  have closed := r.skip? .rParen false
  generalize listStart.skip? .rParen false = after? at closed ⊢
  generalize listStart'.skip? .rParen false = after'? at closed ⊢
  cases closed with
  | some afterRestarted => exact .ok ⟨.nil, afterRestarted⟩
  | none =>
    rw [r.stop]
    exact argumentItems_restarted reads r.line _ _ _ r .nil

theorem call_restarted (reads : sub.StartFree) (r : c.Restarted S s s' c') :
    ExceptRel (Option.Rel (ExprMatch.Restarted S s s')) (call sub c) (call sub c') := by
  unfold call
  rw [r.isAt, r.text, r.line]
  split
  · exact .ok .none
  · have opened := r.advance.skip? .lParen false
    generalize c.advance.skip? .lParen false = listStart? at opened ⊢
    generalize c'.advance.skip? .lParen false = listStart'? at opened ⊢
    cases opened with
    | none => exact .ok .none
    | @some listStart listStart' listRestarted =>
      dsimp only
      have listed := arguments_restarted reads listRestarted
      generalize arguments sub listStart = items? at listed ⊢
      generalize arguments sub listStart' = items'? at listed ⊢
      rcases listed with e | @⟨⟨items, next⟩, ⟨items', next'⟩, ⟨itemsRestarted, nextRestarted⟩⟩
      · exact .error e
      · dsimp only at itemsRestarted nextRestarted
        simp only [bind, Except.bind]
        rw [ExprMatch.Restarted.map_eq itemsRestarted fun _ _ related => related.value,
          ExprMatch.Restarted.map_eq itemsRestarted fun _ _ related => related.node]
        split
        · exact .ok (.some ⟨by rw [r.spanTo nextRestarted], rfl, rfl, nextRestarted⟩)
        · exact .error _

theorem combine_restarted {left left' right right' : ExprMatch}
    (leftRestarted : left.Restarted S s s' left') (rightRestarted : right.Restarted S s s' right')
    (op : BinaryOperator) (line : Nat) :
    ExceptRel (ExprMatch.Restarted S s s') (combine left op right line)
      (combine left' op right' line) := by
  unfold combine
  rw [leftRestarted.value, rightRestarted.value]
  split
  · exact .error _
  · exact .ok ⟨by rw [leftRestarted.node, rightRestarted.node], rfl, rfl, rightRestarted.next⟩

theorem binaryOperation_restarted {operand : Cursor → Attempt ExprMatch}
    (operandReads : ∀ {p p'}, p.Restarted S s s' p' →
      ExceptRel (Option.Rel (ExprMatch.Restarted S s s')) (operand p) (operand p'))
    (r : c.Restarted S s s' c') :
    ExceptRel (Option.Rel (ExprMatch.Restarted S s s')) (binaryOperation operand c)
      (binaryOperation operand c') := by
  unfold binaryOperation
  have parsed := operandReads r
  generalize operand c = first? at parsed ⊢
  generalize operand c' = first'? at parsed ⊢
  rcases parsed with e | ⟨@⟨first, first', firstRestarted⟩ | _⟩
  · exact .error e
  · dsimp only
    -- the climb compares positions and reads operators, which a restart leaves alone
    have climbs : ∀ (p : Nat) (left : ExprMatch) {left' : ExprMatch},
        left.Restarted S s s' left' → ExceptRel (ExprMatch.Restarted S s s')
          (climb operand c.stop p left) (climb operand c.stop p left') :=
      (climb_tighten_related (fun related => by rw [operatorAt?, operatorAt?, related.next.kind?])
        (fun related _ => operandReads related.next.advance)
        (fun leftRestarted rightRestarted => by
          rw [leftRestarted.next.index, rightRestarted.next.index])
        (fun op leftRestarted rightRestarted => by
          rw [leftRestarted.next.line]
          exact combine_restarted leftRestarted rightRestarted op _)).1
    have climbed := climbs 1 first firstRestarted
    rw [r.stop]
    generalize climb operand c.stop 1 first = result at climbed ⊢
    generalize climb operand c.stop 1 first' = result' at climbed ⊢
    cases climbed with
    | error e => exact .error e
    | ok resultRestarted => exact .ok (.some resultRestarted)
  · exact .ok .none

/-- The same branch of a condition, and the position after the condition, read in a
restarted view. -/
structure BranchRestarted (S : TokenStream) (s s' : Nat) (result result' : Option StmtMatch × Cursor) : Prop where
  branch : Option.Rel (StmtMatch.Restarted S s s') result.1 result'.1
  next : result.2.Restarted S s s' result'.2

theorem selectedBranch_restarted (reads : sub.StartFree) (r : c.Restarted S s s' c')
    {branchStart branchStart' : Cursor} (branchRestarted : branchStart.Restarted S s s' branchStart')
    (taken : Bool) :
    ExceptRel (BranchRestarted S s s') (selectedBranch sub c branchStart taken)
      (selectedBranch sub c' branchStart' taken) := by
  unfold selectedBranch
  rw [r.line]
  cases taken with
  | true =>
    simp only [if_true]
    have parsed := reads.statementUntil branchRestarted .elseKw
    generalize sub.statementUntil branchStart .elseKw = branch? at parsed ⊢
    generalize sub.statementUntil branchStart' .elseKw = branch'? at parsed ⊢
    rcases parsed with e | ⟨@⟨branch, branch', relatedBranch⟩ | _⟩
    · exact .error e
    · dsimp only
      rw [relatedBranch.next.isAt]
      split
      · exact .ok ⟨.some relatedBranch, relatedBranch.next.endOfView⟩
      · exact .ok ⟨.some relatedBranch, relatedBranch.next⟩
    · exact .error _
  | false =>
    simp only [Bool.false_eq_true, if_false]
    have sought := branchRestarted.seek? .elseKw
    generalize branchStart.seek? .elseKw = elseToken? at sought ⊢
    generalize branchStart'.seek? .elseKw = elseToken'? at sought ⊢
    cases sought with
    | @some elseToken elseToken' elseRestarted =>
      dsimp only
      have parsed := reads.statement elseRestarted.advance
      generalize sub.statement elseToken.advance = branch? at parsed ⊢
      generalize sub.statement elseToken'.advance = branch'? at parsed ⊢
      rcases parsed with e | ⟨@⟨branch, branch', relatedBranch⟩ | _⟩
      · exact .error e
      · exact .ok ⟨.some relatedBranch, relatedBranch.next⟩
      · exact .error _
    | none => exact .ok ⟨.none, r.endOfView⟩

theorem condition_restarted (reads : sub.StartFree) (r : c.Restarted S s s' c') :
    ExceptRel (Option.Rel (StmtMatch.Restarted S s s')) (condition sub c) (condition sub c') := by
  unfold condition
  have opened := r.skip? .ifKw true
  generalize c.skip? .ifKw true = conditionStart? at opened ⊢
  generalize c'.skip? .ifKw true = conditionStart'? at opened ⊢
  cases opened with
  | none => exact .ok .none
  | @some conditionStart conditionStart' startRestarted =>
    dsimp only
    have sought := startRestarted.seek? .thenKw
    generalize conditionStart.seek? .thenKw = thenToken? at sought ⊢
    generalize conditionStart'.seek? .thenKw = thenToken'? at sought ⊢
    cases sought with
    | none => exact .ok .none
    | @some thenToken thenToken' thenRestarted =>
      dsimp only
      have tested := reads.expressionUntil startRestarted .thenKw
      generalize sub.expressionUntil conditionStart .thenKw = test? at tested ⊢
      generalize sub.expressionUntil conditionStart' .thenKw = test'? at tested ⊢
      rcases tested with e | ⟨@⟨test, test', testRestarted⟩ | _⟩
      · exact .error e
      · dsimp only
        -- the end of the test and the `then` token lie in one view, which starts alike
        rw [testRestarted.next.sameSpot thenRestarted, testRestarted.value]
        split
        · exact .ok .none
        · split
          · exact .ok .none
          · rename_i taken _
            have selected := selectedBranch_restarted reads r thenRestarted.advance taken
            generalize selectedBranch sub c thenToken.advance taken = chosen at selected ⊢
            generalize selectedBranch sub c' thenToken'.advance taken = chosen' at selected ⊢
            rcases selected with e | @⟨⟨branch, next⟩, ⟨branch', next'⟩,
              ⟨relatedBranch, nextRestarted⟩⟩
            · exact .error e
            · dsimp only at relatedBranch nextRestarted ⊢
              refine .ok (.some ⟨?_, ?_, rfl, ?_, nextRestarted⟩)
              · rw [testRestarted.node, r.spanTo nextRestarted,
                  relatedBranch.map_eq fun _ _ related => related.node]
              · exact relatedBranch.bind_eq fun _ _ related => related.value
              · exact relatedBranch.bind_eq fun _ _ related => related.declares
      · exact .ok .none

end Parse

/-! ### Every nesting level -/

open Parse in
theorem ExprRule.run_restarted (rule : ExprRule) (bindings : Bindings) {sub : Dispatch}
    (reads : sub.StartFree) {S : TokenStream} {s s' : Nat} {c c' : Cursor} (r : c.Restarted S s s' c') :
    ExceptRel (Option.Rel (ExprMatch.Restarted S s s')) (rule.run bindings sub c)
      (rule.run bindings sub c') := by
  cases rule with
  | binaryOperation => exact binaryOperation_restarted (reads.operand _) r
  | group => exact group_restarted reads r
  | function => exact call_restarted reads r
  | decimalComma => exact decimalComma_restarted r
  | data => exact data_restarted r
  | variableReference => exact reference_restarted bindings r

open Parse in
theorem StmtRule.run_restarted (rule : StmtRule) {sub : Dispatch} (reads : sub.StartFree)
    {S : TokenStream} {s s' : Nat} {c c' : Cursor} (r : c.Restarted S s s' c') :
    ExceptRel (Option.Rel (StmtMatch.Restarted S s s')) (rule.run sub c) (rule.run sub c') := by
  cases rule with
  | comment => exact comment_restarted r
  | header => exact header_restarted r
  | condition => exact condition_restarted reads r
  | declaration => exact declaration_restarted reads r
  | conditionalExpression => exact conditionalExpression_restarted reads r
  | numericalExpression => exact numericalExpression_restarted reads r

namespace Dispatch

theorem exhausted_startFree : exhausted.StartFree where
  expression r := by
    simp only [exhausted, r.line]
    exact .error _
  operand _ _ _ _ _ _ r := by
    simp only [exhausted, r.line]
    exact .error _
  statement r := by
    simp only [exhausted, r.line]
    exact .error _

theorem step_startFree {order : Order} {bindings : Bindings} {sub : Dispatch}
    (reads : sub.StartFree) : (step order bindings sub).StartFree where
  expression r := firstMatch_sameView (fun rule => rule.run_restarted bindings reads r)
    (fun _ _ _ related => ⟨related.node, related.value, rfl, related.next⟩) _
  operand _ _ _ _ _ _ r := firstMatch_sameView (fun rule => rule.run_restarted bindings reads r)
    (fun _ _ _ related => ⟨related.node, related.value, rfl, related.next⟩) _
  statement r := firstMatch_sameView (fun rule => rule.run_restarted reads r)
    (fun _ _ _ related => ⟨related.node, related.value, rfl, related.declares, related.next⟩) _

/-- At every nesting level, dispatch reads a view alike wherever the view starts. -/
theorem withLevels_startFree (order : Order) (bindings : Bindings) (levels : Nat) :
    (withLevels order bindings levels).StartFree :=
  withLevels_invariant order bindings StartFree exhausted_startFree
    (fun _ reads => step_startFree reads) levels

end Dispatch

end Reckon
