import Mathlib.Data.List.TakeWhile
import Reckon.Proofs.Dispatch
import Reckon.Proofs.JoinedTokens

/-!
Contract: in a culture that reads decimal commas, a comma-joined pair of digit runs reads as
the number written with a point.

Every parser, given dispatch one level deeper that reads the two token lists alike, reads
them alike (`Dispatch.ReadsJoined`): at places that stand alike it fails with the same
error, declines on both, or reads matches with the same value, the same operator at the
root and places after them that again stand alike. Away from the joined number each parser
does so on its own, since it looks only at the same tokens; on the joined number the
operands are read as a whole: the decimal-comma reading takes the pair, the literal reading
takes the joined number, and both read the same double (`operands_onJoined`). The guards of
`CommaPair` are what this needs: a pair whose first number were the fraction of another
pair, or that had right against it a minus sign where a dispatch may start, would be read
differently. Every parser starts its nested dispatches right after a token an operand may
follow, so these too start where `CommaPair.MayStartAt` allows.

In a culture whose expression parsers are every rule in the order `ExprRule.all` lists them,
one nesting level therefore reads alike when the level below it does
(`Dispatch.step_readsJoined`), and by induction on the levels so does every level
(`Dispatch.withLevels_readsJoined`).

Owns: `ExprMatch.Joined`, `StmtMatch.Joined`, `Dispatch.ReadsJoined` and the facts above.
Does not own: how the pair is scanned (`Reckon.Proofs.CommaScan`), navigation
(`Reckon.Proofs.JoinedTokens`).
-/

namespace Reckon

/-! ### Reading a number with a point -/

namespace Decimal

theorem takeWhile_digits {W : List Char} (digits : ∀ d ∈ W, d.isDigit = true) (rest : List Char)
    {x : Char} (stop : x.isDigit = false) : (W ++ x :: rest).takeWhile Char.isDigit = W := by
  rw [List.takeWhile_append, if_pos (by rw [List.takeWhile_eq_self_iff.mpr digits]),
    List.takeWhile_cons_of_neg (by simp [stop]), List.append_nil]

theorem readScaled?_point {W F : List Char} (wholeDigits : ∀ d ∈ W, d.isDigit = true)
    (fractionDigits : ∀ d ∈ F, d.isDigit = true) (nonEmpty : W ≠ []) :
    (readScaled? (W ++ '.' :: F)).isSome := by
  have whole := takeWhile_digits wholeDigits F (x := '.') rfl
  have fraction : F.takeWhile Char.isDigit = F := List.takeWhile_eq_self_iff.mpr fractionDigits
  have someDigits : W.length ≠ 0 := fun empty => nonEmpty (List.length_eq_zero_iff.mp empty)
  unfold readScaled?
  simp only [whole, List.drop_left', fraction, List.drop_length]
  rw [if_neg (by omega)]
  rfl

/-- Two digit runs with a point between read as a double. -/
theorem readFloat?_digits_point {whole fraction : String}
    (wholeDigits : Parse.isDigitRun whole = true) (fractionDigits : Parse.isDigitRun fraction = true) :
    (readFloat? (whole ++ "." ++ fraction)).isSome := by
  obtain ⟨c, ds, wholeChars, cDigit, dsDigits⟩ := Token.isDigitRun_toList wholeDigits
  obtain ⟨f, fs, fractionChars, fDigit, fsDigits⟩ := Token.isDigitRun_toList fractionDigits
  have unsigned : splitSign (c :: (ds ++ '.' :: f :: fs)) = (false, c :: (ds ++ '.' :: f :: fs)) := by
    unfold splitSign
    split
    · simp_all
    · simp_all
    · rfl
  have point : ".".toList = ['.'] := rfl
  unfold readFloat?
  simp only [String.toList_append, wholeChars, fractionChars, point, List.cons_append,
    List.append_assoc, List.nil_append, unsigned]
  -- the names of the infinities and of NaN read as doubles too; digits read by their value
  split
  · rfl
  · split
    · rfl
    · rw [Option.isSome_map, ← List.cons_append]
      exact readScaled?_point (W := c :: ds) (F := f :: fs) (by simp_all) (by simp_all)
        (List.cons_ne_nil c ds)

end Decimal

/-- The joined number is no digit run: it has a point. -/
theorem Parse.isDigitRun_joinPoint (first second : Token) :
    Parse.isDigitRun (first.joinPoint second).text = false := by
  have point : ".".toList = ['.'] := rfl
  simp [Parse.isDigitRun, Token.joinPoint, point]

/-! ### Cursors on tokens -/

namespace Cursor

variable {c : Cursor}

theorem text_of_token? {token : Token} (found : c.token? = some token) : c.text = token.text := by
  rw [text, found]

theorem leadingWhitespace_of_tight {token : Token} (found : c.token? = some token)
    (tight : c.hasLeadingWhitespace = false) : token.leadingWhitespace = 0 := by
  unfold hasLeadingWhitespace at tight
  rw [found] at tight
  simp only [Bool.or_eq_false_iff, decide_eq_false_iff_not, Nat.not_lt] at tight
  omega

theorem exists_token?_of_atDigitRun (digits : Parse.atDigitRun c = true) :
    ∃ token, c.token? = some token ∧ token.kind = .number ∧ Parse.isDigitRun token.text = true := by
  simp only [Parse.atDigitRun, Bool.and_eq_true] at digits
  obtain ⟨token, found, number⟩ := exists_token?_of_isAt digits.1
  exact ⟨token, found, number, text_of_token? found ▸ digits.2⟩

end Cursor

/-! ### Matches read alike -/

section Relations

variable (pair : CommaPair)

/-- Expressions read at places that stand alike: the same value and operator at the root,
and places after them that again stand alike. -/
structure ExprMatch.Joined (m m' : ExprMatch) : Prop where
  value : m'.value = m.value
  rootOperator : m'.node.rootOperator? = m.node.rootOperator?
  next : m.next.Joined pair m'.next

/-- Statements read at places that stand alike: the same value, parser and declaration, and
places after them that again stand alike. -/
structure StmtMatch.Joined (m m' : StmtMatch) : Prop where
  value : m'.value = m.value
  parser : m'.parser = m.parser
  declares : m'.declares = m.declares
  next : m.next.Joined pair m'.next

/-- A dispatch reads the tokens of a text and the same tokens with a pair joined alike: at
places that stand alike, where a dispatch may start, each entry point fails with the same
error, declines on both, or reads matches that are read alike. -/
structure Dispatch.ReadsJoined (d : Dispatch) : Prop where
  expression : ∀ {c c' : Cursor}, c.Joined pair c' → pair.MayStartAt c.index →
    ExceptRel (Option.Rel (ExprMatch.Joined pair)) (d.expression c) (d.expression c')
  operand : ∀ {c c' : Cursor}, c.Joined pair c' → pair.MayStartAt c.index →
    ExceptRel (Option.Rel (ExprMatch.Joined pair))
      (d.operand ExprRule.binaryOperation.name c) (d.operand ExprRule.binaryOperation.name c')
  statement : ∀ {c c' : Cursor}, c.Joined pair c' → pair.MayStartAt c.index →
    ExceptRel (Option.Rel (StmtMatch.Joined pair)) (d.statement c) (d.statement c')

end Relations

theorem ExprMatch.Joined.map_value {pair : CommaPair} {items items' : List ExprMatch}
    (joined : List.Forall₂ (ExprMatch.Joined pair) items items') :
    items'.map ExprMatch.value = items.map ExprMatch.value := by
  induction joined with
  | nil => rfl
  | cons head _ inductionHypothesis =>
    rw [List.map_cons, List.map_cons, head.value, inductionHypothesis]

namespace Dispatch.ReadsJoined

variable {pair : CommaPair} {d : Dispatch} {c c' : Cursor}

theorem until_index (c : Cursor) (stop : TokenKind) : (c.until stop).index = c.index := by
  unfold Cursor.until
  split <;> rfl

theorem expressionUntil (reads : d.ReadsJoined pair) (joined : c.Joined pair c')
    (start : pair.MayStartAt c.index) (stop : TokenKind) (notNumber : stop ≠ .number)
    (notComma : stop ≠ .comma) :
    ExceptRel (Option.Rel (ExprMatch.Joined pair)) (d.expressionUntil c stop)
      (d.expressionUntil c' stop) := by
  unfold Dispatch.expressionUntil
  have parsed := reads.expression (joined.until stop notNumber notComma)
    (by rw [until_index]; exact start)
  generalize d.expression (c.until stop) = found? at parsed ⊢
  generalize d.expression (c'.until stop) = found'? at parsed ⊢
  rcases parsed with e | ⟨@⟨found, found', foundJoined⟩ | _⟩
  · exact .error e
  · exact .ok (.some ⟨foundJoined.value, foundJoined.rootOperator,
      joined.resume foundJoined.next.index⟩)
  · exact .ok .none

theorem statementUntil (reads : d.ReadsJoined pair) (joined : c.Joined pair c')
    (start : pair.MayStartAt c.index) (stop : TokenKind) (notNumber : stop ≠ .number)
    (notComma : stop ≠ .comma) :
    ExceptRel (Option.Rel (StmtMatch.Joined pair)) (d.statementUntil c stop)
      (d.statementUntil c' stop) := by
  unfold Dispatch.statementUntil
  have parsed := reads.statement (joined.until stop notNumber notComma)
    (by rw [until_index]; exact start)
  generalize d.statement (c.until stop) = found? at parsed ⊢
  generalize d.statement (c'.until stop) = found'? at parsed ⊢
  rcases parsed with e | ⟨@⟨found, found', foundJoined⟩ | _⟩
  · exact .error e
  · exact .ok (.some ⟨foundJoined.value, foundJoined.parser, foundJoined.declares,
      joined.resume foundJoined.next.index⟩)
  · exact .ok .none

end Dispatch.ReadsJoined

/-! ### Each parser reads alike -/

namespace Parse

variable {pair : CommaPair} {sub : Dispatch} {c c' : Cursor}

theorem reference_joined (bindings : Bindings) (joined : c.Joined pair c') :
    ExceptRel (Option.Rel (ExprMatch.Joined pair)) (reference bindings c) (reference bindings c') := by
  unfold reference
  rw [joined.isAt]
  split
  · rename_i onWord
    have away := joined.away_of_isAt (by decide) onWord
    rw [joined.text_of_away away]
    split
    · exact .ok (.some ⟨rfl, rfl, joined.advance_of_away away⟩)
    · exact .ok .none
  · exact .ok .none

theorem comment_joined (joined : c.Joined pair c') :
    ExceptRel (Option.Rel (StmtMatch.Joined pair)) (comment c) (comment c') := by
  unfold comment
  rw [joined.isAt]
  split
  · rename_i onComment
    exact .ok (.some ⟨rfl, rfl, rfl, joined.advance_of_away (joined.away_of_isAt (by decide) onComment)⟩)
  · exact .ok .none

theorem header_joined (joined : c.Joined pair c') :
    ExceptRel (Option.Rel (StmtMatch.Joined pair)) (header c) (header c') := by
  unfold header
  have opened := joined.skip? .hash false (by decide)
  generalize c.skip? .hash false = titleStart? at opened ⊢
  generalize c'.skip? .hash false = titleStart'? at opened ⊢
  cases opened with
  | some _ => exact .ok (.some ⟨rfl, rfl, rfl, joined.endOfView⟩)
  | none => exact .ok .none

theorem declaration_joined (reads : sub.ReadsJoined pair) (joined : c.Joined pair c') :
    ExceptRel (Option.Rel (StmtMatch.Joined pair)) (declaration sub c) (declaration sub c') := by
  unfold declaration
  rw [joined.isAt]
  split
  · exact .ok .none
  · rename_i onWord
    have away := joined.away_of_isAt (by decide) (by simpa using onWord : c'.isAt .word = true)
    have opened := (joined.advance_of_away away).skip? .equals false (by decide)
    generalize valueEq : c.advance.skip? .equals false = valueStart? at opened ⊢
    generalize c'.advance.skip? .equals false = valueStart'? at opened ⊢
    cases opened with
    | none => exact .ok .none
    | @some valueStart valueStart' valueJoined =>
      dsimp only
      have parsed := reads.expression valueJoined
        ((joined.advance_of_away away).mayStartAt_skip? valueEq rfl)
      generalize sub.expression valueStart = value? at parsed ⊢
      generalize sub.expression valueStart' = value'? at parsed ⊢
      rcases parsed with e | ⟨⟨foundJoined⟩ | _⟩
      · exact .error e
      · exact .ok (.some ⟨by rw [foundJoined.value], rfl,
          by rw [joined.text_of_away away, foundJoined.value], foundJoined.next⟩)
      · exact .ok .none

theorem numericalExpression_joined (reads : sub.ReadsJoined pair) (joined : c.Joined pair c')
    (start : pair.MayStartAt c.index) :
    ExceptRel (Option.Rel (StmtMatch.Joined pair)) (numericalExpression sub c)
      (numericalExpression sub c') := by
  unfold numericalExpression
  have parsed := reads.expression joined start
  generalize sub.expression c = found? at parsed ⊢
  generalize sub.expression c' = found'? at parsed ⊢
  rcases parsed with e | ⟨⟨foundJoined⟩ | _⟩
  · exact .error e
  · exact .ok (.some ⟨by rw [foundJoined.value], rfl, rfl, foundJoined.next⟩)
  · exact .ok .none

theorem conditionalExpression_joined (reads : sub.ReadsJoined pair) (joined : c.Joined pair c')
    (start : pair.MayStartAt c.index) :
    ExceptRel (Option.Rel (StmtMatch.Joined pair)) (conditionalExpression sub c)
      (conditionalExpression sub c') := by
  unfold conditionalExpression
  have parsed := reads.expression joined start
  generalize sub.expression c = found? at parsed ⊢
  generalize sub.expression c' = found'? at parsed ⊢
  rcases parsed with e | ⟨@⟨found, found', foundJoined⟩ | _⟩
  · exact .error e
  · -- both read an expression with the same operator at its root
    dsimp only
    rw [foundJoined.rootOperator]
    cases found.node.rootOperator? with
    | none => exact .ok .none
    | some op => exact .ok (.some ⟨by rw [foundJoined.value], rfl, rfl, foundJoined.next⟩)
  · exact .ok .none

theorem group_joined (reads : sub.ReadsJoined pair) (joined : c.Joined pair c') :
    ExceptRel (Option.Rel (ExprMatch.Joined pair)) (group sub c) (group sub c') := by
  unfold group
  rw [joined.line]
  have opened := joined.skip? .lParen false (by decide)
  generalize innerEq : c.skip? .lParen false = innerStart? at opened ⊢
  generalize c'.skip? .lParen false = innerStart'? at opened ⊢
  cases opened with
  | none => exact .ok .none
  | @some innerStart innerStart' innerStartJoined =>
    dsimp only
    have parsed := reads.expression innerStartJoined (joined.mayStartAt_skip? innerEq rfl)
    generalize sub.expression innerStart = inner? at parsed ⊢
    generalize sub.expression innerStart' = inner'? at parsed ⊢
    rcases parsed with e | ⟨@⟨inner, inner', innerJoined⟩ | _⟩
    · exact .error e
    · simp only [bind, Except.bind]
      have closed := innerJoined.next.skip? .rParen false (by decide)
      generalize inner.next.skip? .rParen false = next? at closed ⊢
      generalize inner'.next.skip? .rParen false = next'? at closed ⊢
      cases closed with
      | none => exact .error _
      | @some next next' nextJoined => exact .ok (.some ⟨innerJoined.value, rfl, nextJoined⟩)
    · exact .error _

theorem atDigitRun_joined (joined : c.Joined pair c') (away : ¬c'.OnJoined pair) :
    atDigitRun c = atDigitRun c' := by
  rw [atDigitRun, atDigitRun, joined.isAt, joined.text_of_away away]

/-- Where the fraction after a digit run and a tight comma would be the joined number, the
pair's first number is no fraction there: otherwise it would be the second number of
another pair. -/
theorem fraction_not_first (joined : c.Joined pair c') (atComma : c.advance.Joined pair c'.advance)
    (atFraction : c.advance.advance.Joined pair c'.advance.advance) (digits : atDigitRun c = true)
    (onComma : c.advance.isAt .comma = true) (commaTight : c.advance.hasLeadingWhitespace = false)
    (onPair : c'.advance.advance.OnJoined pair) :
    (atDigitRun c.advance.advance && !c.advance.advance.hasLeadingWhitespace) = false := by
  cases fraction : (atDigitRun c.advance.advance && !c.advance.advance.hasLeadingWhitespace)
  · rfl
  · exfalso
    have firstTight : c.advance.advance.hasLeadingWhitespace = false := by simp_all
    obtain ⟨previous, atPrevious, number, previousDigits⟩ := Cursor.exists_token?_of_atDigitRun digits
    obtain ⟨separator, atSeparator, comma⟩ := Cursor.exists_token?_of_isAt onComma
    -- the three cursors stand on consecutive tokens, the last on the pair's first number
    have onNumber : c.isAt .number = true := by
      simp only [atDigitRun, Bool.and_eq_true] at digits
      exact digits.1
    have inside := Cursor.index_lt_stop_of_isAt onNumber
    have commaInside := Cursor.index_lt_stop_of_isAt onComma
    have toComma := Cursor.advance_index_of_lt inside
    have toFraction := Cursor.advance_index_of_lt commaInside
    have atFirst : c.advance.advance.index = pair.position := by
      rw [atFraction.index, onPair.1, liftIndex_of_le (Nat.le_refl _)]
    refine pair.leadingWhitespace_of_fraction ?_ ?_ (by omega) number previousDigits comma
      (Cursor.leadingWhitespace_of_tight atSeparator commaTight)
      (Cursor.leadingWhitespace_of_tight (atFraction.token?_of_onJoined onPair).1 firstTight)
    · rw [show pair.position - 2 = c.index by omega]
      exact joined.getElem?_of_token? atPrevious
    · rw [show pair.position - 1 = c.advance.index by omega]
      exact atComma.getElem?_of_token? atSeparator

/-- The comma and fraction that the decimal-comma reading looks for after a digit run away
from the joined number stand alike, and the fraction is not the joined number. -/
theorem fraction_joined (joined : c.Joined pair c') (away : ¬c'.OnJoined pair)
    (digits : atDigitRun c = true) :
    Option.Rel (fun fraction fraction' => fraction.Joined pair fraction' ∧ ¬fraction'.OnJoined pair)
      ((c.next?.filter fun comma => comma.isAt .comma && !comma.hasLeadingWhitespace).bind
          Cursor.next? |>.filter fun fraction => atDigitRun fraction && !fraction.hasLeadingWhitespace)
      ((c'.next?.filter fun comma => comma.isAt .comma && !comma.hasLeadingWhitespace).bind
          Cursor.next? |>.filter fun fraction => atDigitRun fraction && !fraction.hasLeadingWhitespace) := by
  have atComma := joined.advance_of_away away
  unfold Cursor.next?
  dsimp only
  rw [atComma.atEnd]
  cases commaEnd : c'.advance.atEnd
  · simp only [Bool.false_eq_true, if_false, Option.filter_some, atComma.isAt,
      atComma.hasLeadingWhitespace]
    cases commaTight : (c'.advance.isAt .comma && !c'.advance.hasLeadingWhitespace)
    · simp only [Bool.false_eq_true, if_false, Option.bind_none, Option.filter_none]
      exact .none
    · obtain ⟨onComma, tight⟩ : c'.advance.isAt .comma = true ∧
          c'.advance.hasLeadingWhitespace = false := by simpa using commaTight
      have atFraction := atComma.advance_of_away (atComma.away_of_isAt (by decide) onComma)
      simp only [if_true, Option.bind_some, atFraction.atEnd]
      cases fractionEnd : c'.advance.advance.atEnd
      · simp only [Bool.false_eq_true, if_false, Option.filter_some]
        by_cases onPair : c'.advance.advance.OnJoined pair
        · -- the joined number has a point, and the pair's first number is no fraction here
          have notJoined : (atDigitRun c'.advance.advance &&
              !c'.advance.advance.hasLeadingWhitespace) = false := by
            simp only [atDigitRun, Cursor.text, (atFraction.token?_of_onJoined onPair).2,
              isDigitRun_joinPoint, Bool.and_false, Bool.false_and]
          rw [notJoined, fraction_not_first joined atComma atFraction digits
            (by rw [atComma.isAt]; exact onComma) (by rw [atComma.hasLeadingWhitespace]; exact tight)
            onPair]
          exact .none
        · rw [atDigitRun_joined atFraction onPair, atFraction.hasLeadingWhitespace]
          split
          · exact .some ⟨atFraction, onPair⟩
          · exact .none
      · simp only [if_true, Option.filter_none]
        exact .none
  · simp only [if_true, Option.filter_none, Option.bind_none]
    exact .none

theorem decimalComma_joined (joined : c.Joined pair c') (away : ¬c'.OnJoined pair) :
    ExceptRel (Option.Rel (ExprMatch.Joined pair)) (decimalComma c) (decimalComma c') := by
  unfold decimalComma
  rw [atDigitRun_joined joined away, joined.text_of_away away]
  split
  · exact .ok .none
  · rename_i digits
    dsimp only
    generalize fractionEq : (c.next?.filter _ |>.bind Cursor.next? |>.filter _) = fraction?
    generalize fractionEq' : (c'.next?.filter _ |>.bind Cursor.next? |>.filter _) = fraction'?
    have fraction : Option.Rel (fun f f' => f.Joined pair f' ∧ ¬f'.OnJoined pair) fraction?
        fraction'? := by
      rw [← fractionEq, ← fractionEq']
      exact fraction_joined joined away (by rw [atDigitRun_joined joined away]; simpa using digits)
    cases fraction with
    | none => exact .ok .none
    | @some f f' related =>
      obtain ⟨fractionJoined, fractionAway⟩ := related
      dsimp only
      rw [fractionJoined.text_of_away fractionAway]
      split
      · exact .ok .none
      · exact .ok (.some ⟨rfl, rfl, fractionJoined.advance_of_away fractionAway⟩)

/-- Right after a minus sign where a dispatch may start, the pair's first number has blanks
before it: a pair has no such minus sign against it. -/
theorem leadingWhitespace_after_minus (joined : c.Joined pair c') (start : pair.MayStartAt c.index)
    (onMinus : c.kind? = some .minus) {number number' : Cursor} (following : c.next? = some number)
    (numberJoined : number.Joined pair number') (on : number'.OnJoined pair) :
    number.hasLeadingWhitespace = true := by
  have onMinusToken : c.isAt .minus = true := by rw [Cursor.isAt, onMinus]; rfl
  obtain ⟨previous, atPrevious, minus⟩ := Cursor.exists_token?_of_isAt onMinusToken
  obtain ⟨rfl, -⟩ := Cursor.next?_eq_some following
  have toNumber := Cursor.advance_index_of_lt (Cursor.index_lt_stop_of_kind onMinus)
  have atFirst := (numberJoined.onJoined_spots on).1
  have blank : pair.first.leadingWhitespace ≠ 0 := by
    have atMinus : pair.position - 1 = c.index := by omega
    refine pair.leadingWhitespace_of_minus ?_ (by omega) minus (by rw [atMinus]; exact start)
    rw [atMinus]
    exact joined.getElem?_of_token? atPrevious
  rw [Cursor.hasLeadingWhitespace, (numberJoined.token?_of_onJoined on).1]
  simp [Nat.pos_of_ne_zero blank]

/-- Literals read alike away from the joined number, where a dispatch may start. A minus sign
reads a negative literal only with no blank before the number, which the pair's first number
has after a minus sign where a dispatch may start. -/
theorem data_joined (joined : c.Joined pair c') (away : ¬c'.OnJoined pair)
    (start : pair.MayStartAt c.index) :
    ExceptRel (Option.Rel (ExprMatch.Joined pair)) (data c) (data c') := by
  unfold data
  rw [← joined.kind?, joined.text_of_away away, joined.line]
  split
  case h_1 | h_2 | h_3 => exact .ok (.some ⟨rfl, rfl, joined.advance_of_away away⟩)
  case h_4 =>
    split
    · exact .ok (.some ⟨rfl, rfl, joined.advance_of_away away⟩)
    · exact .error _
  case h_5 onMinus =>
    have following := joined.next?_of_away away
    generalize numberEq : c.next? = number? at following ⊢
    generalize c'.next? = number'? at following ⊢
    cases following with
    | none => exact .ok .none
    | @some number number' numberJoined =>
      dsimp only
      rw [numberJoined.isAt, numberJoined.hasLeadingWhitespace]
      by_cases on : number'.OnJoined pair
      · -- the pair's first number right after the minus sign: no negative literal on either side
        have blank := leadingWhitespace_after_minus joined start onMinus numberEq numberJoined on
        rw [numberJoined.hasLeadingWhitespace] at blank
        simp only [blank, Bool.not_true, Bool.and_false, Bool.false_eq_true, if_false]
        exact .ok .none
      · rw [numberJoined.text_of_away on]
        split
        · split
          · exact .ok (.some ⟨rfl, rfl, numberJoined.advance_of_away on⟩)
          · exact .error _
        · exact .ok .none
  case h_6 => exact .ok .none

/-- The same argument list, and places after it that stand alike. -/
structure ArgumentsJoined (pair : CommaPair) (result result' : List ExprMatch × Cursor) : Prop where
  items : List.Forall₂ (ExprMatch.Joined pair) result.1 result'.1
  next : result.2.Joined pair result'.2

theorem argumentItems_joined (reads : sub.ReadsJoined pair) {listStart listStart' : Cursor}
    (line : listStart'.line = listStart.line) {bound bound' : Nat}
    (bounds : bound = liftIndex pair.position bound') (current : Cursor) (read : List ExprMatch) :
    ∀ {current' read'}, current.Joined pair current' → pair.MayStartAt current.index →
      List.Forall₂ (ExprMatch.Joined pair) read read' →
        ExceptRel (ArgumentsJoined pair) (argumentItems sub listStart bound current read)
          (argumentItems sub listStart' bound' current' read') := by
  -- one case per branch of the reader; the other side reads a related item and takes the same
  -- branch, since separators and parentheses are never the joined number
  induction current, read using argumentItems.induct sub listStart bound with
  | case1 current read e parsed =>
    intro current' read' joined start _
    rw [argumentItems.eq_1 sub listStart, argumentItems.eq_1 sub listStart', parsed,
      (reads.expression joined start).eq_error parsed]
    exact .error e
  | case2 current read parsed =>
    intro current' read' joined start _
    rw [argumentItems.eq_1 sub listStart, argumentItems.eq_1 sub listStart', parsed,
      (reads.expression joined start).eq_declined parsed, line]
    exact .error _
  | case3 current read item parsed separator moved inductionHypothesis
  | case5 current read item parsed separator moved inductionHypothesis =>
    intro current' read' joined start joinedRead
    obtain ⟨item', parsed', itemJoined⟩ := (reads.expression joined start).exists_found parsed
    have afterSeparator := itemJoined.next.advance_of_away
      (itemJoined.next.away_of_kind? (by decide) separator)
    rw [argumentItems.eq_1 sub listStart, argumentItems.eq_1 sub listStart', parsed, parsed']
    simp only [← itemJoined.next.kind?, separator, dif_pos moved,
      dif_pos ((joined.forward_iff afterSeparator bounds).mpr moved)]
    exact inductionHypothesis afterSeparator
      (itemJoined.next.mayStartAt_advance separator rfl)
      (List.rel_append joinedRead (.cons itemJoined .nil))
  | case4 current read item parsed separator stuck
  | case6 current read item parsed separator stuck =>
    intro current' read' joined start _
    obtain ⟨item', parsed', itemJoined⟩ := (reads.expression joined start).exists_found parsed
    have afterSeparator := itemJoined.next.advance_of_away
      (itemJoined.next.away_of_kind? (by decide) separator)
    rw [argumentItems.eq_1 sub listStart, argumentItems.eq_1 sub listStart', parsed, parsed']
    simp only [← itemJoined.next.kind?, separator, dif_neg stuck,
      dif_neg (mt (joined.forward_iff afterSeparator bounds).mp stuck), line]
    exact .error _
  | case7 current read item parsed closing =>
    intro current' read' joined start joinedRead
    obtain ⟨item', parsed', itemJoined⟩ := (reads.expression joined start).exists_found parsed
    rw [argumentItems.eq_1 sub listStart, argumentItems.eq_1 sub listStart', parsed, parsed']
    simp only [← itemJoined.next.kind?, closing]
    exact .ok ⟨List.rel_append joinedRead (.cons itemJoined .nil),
      itemJoined.next.advance_of_away (itemJoined.next.away_of_kind? (by decide) closing)⟩
  | case8 current read item parsed notComma notSemicolon notClosing =>
    intro current' read' joined start _
    obtain ⟨item', parsed', itemJoined⟩ := (reads.expression joined start).exists_found parsed
    rw [argumentItems.eq_1 sub listStart, argumentItems.eq_1 sub listStart', parsed, parsed']
    simp only [← itemJoined.next.kind?, line]
    exact .error _

theorem arguments_joined (reads : sub.ReadsJoined pair) {listStart listStart' : Cursor}
    (joined : listStart.Joined pair listStart') (start : pair.MayStartAt listStart.index) :
    ExceptRel (ArgumentsJoined pair) (arguments sub listStart) (arguments sub listStart') := by
  unfold arguments
  have closed := joined.skip? .rParen false (by decide)
  generalize listStart.skip? .rParen false = after? at closed ⊢
  generalize listStart'.skip? .rParen false = after'? at closed ⊢
  cases closed with
  | some afterJoined => exact .ok ⟨.nil, afterJoined⟩
  | none => exact argumentItems_joined reads joined.line joined.stop _ _ joined start .nil

theorem call_joined (reads : sub.ReadsJoined pair) (joined : c.Joined pair c') :
    ExceptRel (Option.Rel (ExprMatch.Joined pair)) (call sub c) (call sub c') := by
  unfold call
  rw [joined.isAt]
  cases onWord : c'.isAt .word
  · simp only [Bool.false_and, Bool.not_false, if_true]
    exact .ok .none
  · have away := joined.away_of_isAt (by decide) onWord
    rw [joined.text_of_away away, joined.line]
    split
    · exact .ok .none
    · have opened := (joined.advance_of_away away).skip? .lParen false (by decide)
      generalize listEq : c.advance.skip? .lParen false = listStart? at opened ⊢
      generalize c'.advance.skip? .lParen false = listStart'? at opened ⊢
      cases opened with
      | none => exact .ok .none
      | @some listStart listStart' listJoined =>
        dsimp only
        have listed := arguments_joined reads listJoined
          ((joined.advance_of_away away).mayStartAt_skip? listEq rfl)
        generalize arguments sub listStart = items? at listed ⊢
        generalize arguments sub listStart' = items'? at listed ⊢
        rcases listed with e | @⟨⟨items, next⟩, ⟨items', next'⟩, ⟨itemsJoined, nextJoined⟩⟩
        · exact .error e
        · dsimp only at itemsJoined nextJoined
          simp only [bind, Except.bind]
          rw [ExprMatch.Joined.map_value itemsJoined]
          split
          · exact .ok (.some ⟨rfl, rfl, nextJoined⟩)
          · exact .error _

theorem combine_joined {left left' right right' : ExprMatch} (leftJoined : left.Joined pair left')
    (rightJoined : right.Joined pair right') (op : BinaryOperator) (line : Nat) :
    ExceptRel (ExprMatch.Joined pair) (combine left op right line) (combine left' op right' line) := by
  unfold combine
  rw [leftJoined.value, rightJoined.value]
  split
  · exact .error _
  · exact .ok ⟨rfl, rfl, rightJoined.next⟩

/-- An operator is never the joined number, so the cursor after it stands alike too. -/
theorem operatorAt?_joined (joined : c.Joined pair c') {op : BinaryOperator}
    (onOperator : operatorAt? c = some op) : c.advance.Joined pair c'.advance := by
  obtain ⟨kind, onKind, isOperator⟩ := Option.bind_eq_some_iff.mp onOperator
  have notNumber : kind ≠ .number := by
    rintro rfl
    cases isOperator
  exact joined.advance_of_away (joined.away_of_kind? notNumber onKind)

theorem binaryOperation_joined {operand : Cursor → Attempt ExprMatch}
    (operandReads : ∀ {p p'}, p.Joined pair p' → pair.MayStartAt p.index →
      ExceptRel (Option.Rel (ExprMatch.Joined pair)) (operand p) (operand p'))
    (joined : c.Joined pair c') (start : pair.MayStartAt c.index) :
    ExceptRel (Option.Rel (ExprMatch.Joined pair)) (binaryOperation operand c)
      (binaryOperation operand c') := by
  have climbs : ∀ p left {left'}, ExprMatch.Joined pair left left' →
      ExceptRel (ExprMatch.Joined pair) (climb operand c.stop p left) (climb operand c'.stop p left') :=
    (climb_tighten_related (fun related => by rw [operatorAt?, operatorAt?, related.next.kind?])
    (fun related onOperator => operandReads (operatorAt?_joined related.next onOperator)
      (related.next.mayStartAt_operator onOperator))
    (fun leftJoined rightJoined => leftJoined.next.forward_iff rightJoined.next joined.stop)
    (fun op leftJoined rightJoined => by
      rw [leftJoined.next.line]
      exact combine_joined leftJoined rightJoined op _)).1
  unfold binaryOperation
  have parsed := operandReads joined start
  generalize operand c = first? at parsed ⊢
  generalize operand c' = first'? at parsed ⊢
  rcases parsed with e | ⟨@⟨first, first', firstJoined⟩ | _⟩
  · exact .error e
  · dsimp only
    have climbed := climbs 1 first firstJoined
    generalize climb operand c.stop 1 first = result at climbed ⊢
    generalize climb operand c'.stop 1 first' = result' at climbed ⊢
    cases climbed with
    | error e => exact .error e
    | ok resultJoined => exact .ok (.some resultJoined)
  · exact .ok .none

/-- The same branch of a condition, and places after the condition that stand alike. -/
structure BranchJoined (pair : CommaPair) (result result' : Option StmtMatch × Cursor) : Prop where
  branch : Option.Rel (StmtMatch.Joined pair) result.1 result'.1
  next : result.2.Joined pair result'.2

theorem selectedBranch_joined (reads : sub.ReadsJoined pair) (joined : c.Joined pair c')
    {branchStart branchStart' : Cursor} (branchJoined : branchStart.Joined pair branchStart')
    (branchStartOk : pair.MayStartAt branchStart.index) (taken : Bool) :
    ExceptRel (BranchJoined pair) (selectedBranch sub c branchStart taken)
      (selectedBranch sub c' branchStart' taken) := by
  unfold selectedBranch
  rw [joined.line]
  cases taken with
  | true =>
    simp only [if_true]
    have parsed := reads.statementUntil branchJoined branchStartOk .elseKw (by decide) (by decide)
    generalize sub.statementUntil branchStart .elseKw = branch? at parsed ⊢
    generalize sub.statementUntil branchStart' .elseKw = branch'? at parsed ⊢
    rcases parsed with e | ⟨@⟨branch, branch', branchRead⟩ | _⟩
    · exact .error e
    · dsimp only
      rw [branchRead.next.isAt]
      split
      · exact .ok ⟨.some branchRead, branchRead.next.endOfView⟩
      · exact .ok ⟨.some branchRead, branchRead.next⟩
    · exact .error _
  | false =>
    simp only [Bool.false_eq_true, if_false]
    have sought := branchJoined.seek? .elseKw (by decide) (by decide)
    generalize elseEq : branchStart.seek? .elseKw = elseToken? at sought ⊢
    generalize branchStart'.seek? .elseKw = elseToken'? at sought ⊢
    cases sought with
    | @some elseToken elseToken' elseJoined =>
      dsimp only
      have parsed := reads.statement (elseJoined.1.advance_of_away elseJoined.2)
        (elseJoined.1.mayStartAt_advance (Cursor.kind?_of_isAt (Cursor.isAt_of_seek? elseEq)) rfl)
      generalize sub.statement elseToken.advance = branch? at parsed ⊢
      generalize sub.statement elseToken'.advance = branch'? at parsed ⊢
      rcases parsed with e | ⟨@⟨branch, branch', branchRead⟩ | _⟩
      · exact .error e
      · exact .ok ⟨.some branchRead, branchRead.next⟩
      · exact .error _
    | none => exact .ok ⟨.none, joined.endOfView⟩

theorem condition_joined (reads : sub.ReadsJoined pair) (joined : c.Joined pair c') :
    ExceptRel (Option.Rel (StmtMatch.Joined pair)) (condition sub c) (condition sub c') := by
  unfold condition
  have opened := joined.skip? .ifKw true (by decide)
  generalize startEq : c.skip? .ifKw true = conditionStart? at opened ⊢
  generalize c'.skip? .ifKw true = conditionStart'? at opened ⊢
  cases opened with
  | none => exact .ok .none
  | @some conditionStart conditionStart' startJoined =>
    dsimp only
    have start := joined.mayStartAt_skip? startEq rfl
    have sought := startJoined.seek? .thenKw (by decide) (by decide)
    generalize thenEq : conditionStart.seek? .thenKw = thenToken? at sought ⊢
    generalize conditionStart'.seek? .thenKw = thenToken'? at sought ⊢
    cases sought with
    | none => exact .ok .none
    | @some thenToken thenToken' thenJoined =>
      dsimp only
      have tested := reads.expressionUntil startJoined start .thenKw (by decide) (by decide)
      generalize sub.expressionUntil conditionStart .thenKw = test? at tested ⊢
      generalize sub.expressionUntil conditionStart' .thenKw = test'? at tested ⊢
      rcases tested with e | ⟨@⟨test, test', testJoined⟩ | _⟩
      · exact .error e
      · dsimp only
        rw [← testJoined.next.sameSpot thenJoined.1, testJoined.value]
        split
        · exact .ok .none
        · split
          · exact .ok .none
          · rename_i taken _
            have selected := selectedBranch_joined reads joined
              (thenJoined.1.advance_of_away thenJoined.2)
              (thenJoined.1.mayStartAt_advance (Cursor.kind?_of_isAt (Cursor.isAt_of_seek? thenEq))
                rfl) taken
            generalize selectedBranch sub c thenToken.advance taken = chosen at selected ⊢
            generalize selectedBranch sub c' thenToken'.advance taken = chosen' at selected ⊢
            rcases selected with e | @⟨⟨branch, next⟩, ⟨branch', next'⟩, ⟨branchRead, nextJoined⟩⟩
            · exact .error e
            · dsimp only at branchRead nextJoined ⊢
              exact .ok (.some ⟨branchRead.bind_eq fun _ _ read => read.value, rfl,
                branchRead.bind_eq fun _ _ read => read.declares, nextJoined⟩)
      · exact .ok .none

end Parse

/-! ### Every rule reads alike -/

open Parse in
/-- Every expression rule reads alike away from the joined number. -/
theorem ExprRule.run_joined (rule : ExprRule) (bindings : Bindings) {pair : CommaPair}
    {sub : Dispatch} (reads : sub.ReadsJoined pair) {c c' : Cursor} (joined : c.Joined pair c')
    (away : ¬c'.OnJoined pair) (start : pair.MayStartAt c.index) :
    ExceptRel (Option.Rel (ExprMatch.Joined pair)) (rule.run bindings sub c)
      (rule.run bindings sub c') := by
  cases rule with
  | binaryOperation => exact binaryOperation_joined reads.operand joined start
  | group => exact group_joined reads joined
  | function => exact call_joined reads joined
  | decimalComma => exact decimalComma_joined joined away
  | data => exact data_joined joined away start
  | variableReference => exact reference_joined bindings joined

open Parse in
theorem StmtRule.run_joined (rule : StmtRule) {pair : CommaPair} {sub : Dispatch}
    (reads : sub.ReadsJoined pair) {c c' : Cursor} (joined : c.Joined pair c')
    (start : pair.MayStartAt c.index) :
    ExceptRel (Option.Rel (StmtMatch.Joined pair)) (rule.run sub c) (rule.run sub c') := by
  cases rule with
  | comment => exact comment_joined joined
  | header => exact header_joined joined
  | condition => exact condition_joined reads joined
  | declaration => exact declaration_joined reads joined
  | conditionalExpression => exact conditionalExpression_joined reads joined start
  | numericalExpression => exact numericalExpression_joined reads joined start

/-! ### On the joined number

There the two sides read by different rules: the decimal-comma reading takes the pair's three
tokens, and, the joined number being no digit run, only the literal reading takes it. Both read
the double that the digits with a point stand for. -/

theorem liftIndex_ne_after (k j : Nat) : liftIndex k j ≠ k + 1 ∧ liftIndex k j ≠ k + 2 := by
  unfold liftIndex
  split <;> omega

namespace Cursor.Joined

variable {pair : CommaPair} {c c' : Cursor}

/-- The comma and the second number of the pair, as the cursor over the text steps onto them:
no view starts there, so both are read without blanks before them. -/
theorem pair_after_first (joined : c.Joined pair c') (on : c'.OnJoined pair) :
    c.advance.token? = some pair.comma ∧ c.advance.hasLeadingWhitespace = false ∧
      c.advance.advance.token? = some pair.second ∧
        c.advance.advance.hasLeadingWhitespace = false := by
  obtain ⟨toComma, toSecond, -⟩ := joined.advance_advance_onJoined on
  obtain ⟨-, secondInside⟩ := joined.onJoined_spots on
  have noStart := liftIndex_ne_after pair.position c'.start
  have commaToken : c.advance.token? = some pair.comma := by
    rw [toComma, Cursor.token?, if_pos (show pair.position + 1 < c.stop by omega),
      ← Array.getElem?_toList, joined.tokens]
    exact pair.tokens_getElem?_comma
  have secondToken : c.advance.advance.token? = some pair.second := by
    rw [toSecond, Cursor.token?, if_pos (show pair.position + 2 < c.stop by omega),
      ← Array.getElem?_toList, joined.tokens]
    exact pair.tokens_getElem?_second
  refine ⟨commaToken, ?_, secondToken, ?_⟩
  · rw [Cursor.hasLeadingWhitespace, commaToken, toComma]
    simp [joined.start, Ne.symm noStart.1, pair.joined.commaTight]
  · rw [Cursor.hasLeadingWhitespace, secondToken, toSecond]
    simp [joined.start, Ne.symm noStart.2, pair.joined.secondTight]

end Cursor.Joined

namespace Parse

variable {pair : CommaPair} {c c' : Cursor}

/-- The digits of the pair with a point read as a double. -/
theorem exists_readFloat?_joinPoint (pair : CommaPair) :
    ∃ x, Decimal.readFloat? (pair.first.text ++ "." ++ pair.second.text) = some x :=
  Option.isSome_iff_exists.mp
    (Decimal.readFloat?_digits_point pair.joined.firstDigits pair.joined.secondDigits)

/-- On the pair's first number, the decimal-comma reading takes the whole pair. -/
theorem decimalComma_onJoined (joined : c.Joined pair c') (on : c'.OnJoined pair) {x : Float}
    (read : Decimal.readFloat? (pair.first.text ++ "." ++ pair.second.text) = some x) :
    decimalComma c = .ok (some
      { node := .literal (.real x) (c.spanTo c.advance.advance.advance), value := .real x,
        next := c.advance.advance.advance, parser := "" }) := by
  have onFirst := (joined.token?_of_onJoined on).1
  obtain ⟨commaToken, commaTight, secondToken, secondTight⟩ := joined.pair_after_first on
  obtain ⟨-, secondInside⟩ := joined.onJoined_spots on
  obtain ⟨toComma, toSecond, -⟩ := joined.advance_advance_onJoined on
  have digits : atDigitRun c = true := by
    simp [atDigitRun, Cursor.isAt, Cursor.kind?, Cursor.text, onFirst, pair.joined.firstNumber,
      pair.joined.firstDigits]
  have commaNext : c.next? = some c.advance := by
    unfold Cursor.next?
    rw [if_neg (by simp only [Cursor.atEnd, toComma, decide_eq_true_eq]; omega)]
  have secondNext : c.advance.next? = some c.advance.advance := by
    unfold Cursor.next?
    rw [if_neg (by simp only [Cursor.atEnd, toSecond, decide_eq_true_eq]; omega)]
  have commaOk : (c.advance.isAt .comma && !c.advance.hasLeadingWhitespace) = true := by
    simp [Cursor.isAt, Cursor.kind?, commaToken, commaTight, pair.joined.isComma]
  have secondOk : (atDigitRun c.advance.advance && !c.advance.advance.hasLeadingWhitespace) = true := by
    simp [atDigitRun, Cursor.isAt, Cursor.kind?, Cursor.text, secondToken, secondTight,
      pair.joined.secondNumber, pair.joined.secondDigits]
  have fraction : ((c.next?.filter fun comma => comma.isAt .comma && !comma.hasLeadingWhitespace).bind
      Cursor.next? |>.filter fun fraction => atDigitRun fraction && !fraction.hasLeadingWhitespace) =
      some c.advance.advance := by
    rw [commaNext, Option.filter_some, if_pos commaOk, Option.bind_some, secondNext,
      Option.filter_some, if_pos secondOk]
  rw [decimalComma, if_neg (by simp [digits])]
  dsimp only
  rw [fraction]
  dsimp only
  rw [Cursor.text_of_token? onFirst, Cursor.text_of_token? secondToken, read]

/-- On the joined number, the literal reading takes it as the double its digits stand for. -/
theorem data_onJoined (joined : c.Joined pair c') (on : c'.OnJoined pair) {x : Float}
    (read : Decimal.readFloat? (pair.first.text ++ "." ++ pair.second.text) = some x) :
    data c' = .ok (some
      { node := .literal (.real x) (c'.spanTo c'.advance), value := .real x, next := c'.advance,
        parser := "" }) := by
  have onNumber := (joined.token?_of_onJoined on).2
  have number : c'.kind? = some .number := by
    rw [Cursor.kind?, onNumber]
    simp [Token.joinPoint, pair.joined.firstNumber]
  have literal : readNumber c'.text false c'.line = .ok (.real x) := by
    rw [Cursor.text_of_token? onNumber, readNumber, if_pos (by simp [Token.joinPoint])]
    simp [Token.joinPoint, read]
  simp only [data, number, literal]
  rfl

/-- The joined number has a point, so the decimal-comma reading leaves it. -/
theorem decimalComma_declines_onJoined (joined : c.Joined pair c') (on : c'.OnJoined pair) :
    decimalComma c' = .ok none := by
  have notDigits : atDigitRun c' = false := by
    simp [atDigitRun, Cursor.text, (joined.token?_of_onJoined on).2, isDigitRun_joinPoint]
  simp [decimalComma, notDigits]

/-- Groups, calls and references never start at a number. -/
theorem run_declines_on_number {rule : ExprRule} {bindings : Bindings} {sub : Dispatch} {c : Cursor}
    (operandOnly : rule ∈ [.group, .function, .variableReference]) (onNumber : c.kind? = some .number) :
    rule.run bindings sub c = .ok none := by
  have notParen : c.isAt .lParen = false := by simp [Cursor.isAt, onNumber]
  have notWord : c.isAt .word = false := by simp [Cursor.isAt, onNumber]
  simp only [List.mem_cons, List.not_mem_nil, or_false] at operandOnly
  rcases operandOnly with rfl | rfl | rfl
  · simp [ExprRule.run, group, Cursor.skip?, notParen, pure, Except.pure]
  · simp [ExprRule.run, call, notWord, pure, Except.pure]
  · simp [ExprRule.run, reference, notWord]

/-- On the joined number, the operand parsers of a culture that reads decimal commas read alike:
the decimal-comma reading takes the pair where the literal reading takes the joined number. -/
theorem operands_onJoined {bindings : Bindings} {sub : Dispatch} (joined : c.Joined pair c')
    (on : c'.OnJoined pair) :
    ExceptRel (Option.Rel (ExprMatch.Joined pair))
      (firstMatch (fun rule => rule.run bindings sub c) (fun found name => { found with parser := name })
        ((ExprRule.all.map fun rule => (rule.name, rule)).drop 1))
      (firstMatch (fun rule => rule.run bindings sub c') (fun found name => { found with parser := name })
        ((ExprRule.all.map fun rule => (rule.name, rule)).drop 1)) := by
  obtain ⟨x, read⟩ := exists_readFloat?_joinPoint pair
  have onNumber : c.kind? = some .number := by
    rw [Cursor.kind?, (joined.token?_of_onJoined on).1, Option.map_some, pair.joined.firstNumber]
  have onNumber' : c'.kind? = some .number := by rw [← joined.kind?, onNumber]
  -- groups and calls decline on both sides; then each side reads the number by its own rule
  rw [show (ExprRule.all.map fun rule => (rule.name, rule)).drop 1 =
      [("Group", .group), ("Function", .function), ("DecimalComma", .decimalComma), ("Data", .data),
        ("VariableReference", .variableReference)] from rfl]
  rw [firstMatch_cons_declined (fun rule : ExprRule => rule.run bindings sub c) ExprRule.group
      (run_declines_on_number (by simp) onNumber),
    firstMatch_cons_declined (fun rule : ExprRule => rule.run bindings sub c) ExprRule.function
      (run_declines_on_number (by simp) onNumber),
    firstMatch_cons_found (fun rule : ExprRule => rule.run bindings sub c) ExprRule.decimalComma
      (decimalComma_onJoined joined on read),
    firstMatch_cons_declined (fun rule : ExprRule => rule.run bindings sub c') ExprRule.group
      (run_declines_on_number (by simp) onNumber'),
    firstMatch_cons_declined (fun rule : ExprRule => rule.run bindings sub c') ExprRule.function
      (run_declines_on_number (by simp) onNumber'),
    firstMatch_cons_declined (fun rule : ExprRule => rule.run bindings sub c') ExprRule.decimalComma
      (decimalComma_declines_onJoined joined on),
    firstMatch_cons_found (fun rule : ExprRule => rule.run bindings sub c') ExprRule.data
      (data_onJoined joined on read)]
  exact .ok (.some ⟨rfl, rfl, joined.advance_onJoined on⟩)

end Parse

/-! ### Every nesting level -/

namespace Dispatch

variable {pair : CommaPair} {order : Order} {sub : Dispatch}

theorem expressionsAfter_binaryOperation
    (commaOrder : order.expressions = ExprRule.all.map fun rule => (rule.name, rule)) :
    order.expressionsAfter ExprRule.binaryOperation.name =
      (ExprRule.all.map fun rule => (rule.name, rule)).drop 1 := by
  rw [Order.expressionsAfter, commaOrder]
  rfl

theorem exhausted_readsJoined : exhausted.ReadsJoined pair where
  expression joined _ := by
    simp only [exhausted, joined.line]
    exact .error _
  operand joined _ := by
    simp only [exhausted, joined.line]
    exact .error _
  statement joined _ := by
    simp only [exhausted, joined.line]
    exact .error _

/-- A nesting level of a culture that reads decimal commas reads alike when the level below it
does. Away from the joined number every rule reads alike; on it, the binary parser reads its
first operand one level down, and the operand parsers after it read the number as a whole. -/
theorem step_readsJoined
    (commaOrder : order.expressions = ExprRule.all.map fun rule => (rule.name, rule))
    (bindings : Bindings) (reads : sub.ReadsJoined pair) : (step order bindings sub).ReadsJoined pair where
  expression {c c'} joined start := by
    show ExceptRel _ (firstMatch _ _ order.expressions) (firstMatch _ _ order.expressions)
    by_cases on : c'.OnJoined pair
    · rw [commaOrder]
      exact firstMatch_cons_related (Parse.binaryOperation_joined reads.operand joined start)
        (fun _ _ related => ⟨related.value, related.rootOperator, related.next⟩)
        (Parse.operands_onJoined joined on)
    · exact firstMatch_sameView (fun rule => rule.run_joined bindings reads joined on start)
        (fun _ _ _ related => ⟨related.value, related.rootOperator, related.next⟩) _
  operand {c c'} joined start := by
    show ExceptRel _ (firstMatch _ _ (order.expressionsAfter _)) (firstMatch _ _ (order.expressionsAfter _))
    by_cases on : c'.OnJoined pair
    · rw [expressionsAfter_binaryOperation commaOrder]
      exact Parse.operands_onJoined joined on
    · exact firstMatch_sameView (fun rule => rule.run_joined bindings reads joined on start)
        (fun _ _ _ related => ⟨related.value, related.rootOperator, related.next⟩) _
  statement joined start := firstMatch_sameView (fun rule => rule.run_joined reads joined start)
    (fun _ _ _ related => ⟨related.value, rfl, related.declares, related.next⟩) _

/-- At every nesting level, a culture that reads decimal commas reads the tokens with a
comma-joined pair and the same tokens with the pair joined alike. -/
theorem withLevels_readsJoined
    (commaOrder : order.expressions = ExprRule.all.map fun rule => (rule.name, rule))
    (bindings : Bindings) (levels : Nat) : (withLevels order bindings levels).ReadsJoined pair :=
  withLevels_invariant order bindings (·.ReadsJoined pair) exhausted_readsJoined
    (fun _ reads => step_readsJoined commaOrder bindings reads) levels

end Dispatch

end Reckon
