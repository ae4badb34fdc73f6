import Reckon.Proofs.CommaScan
import Reckon.Proofs.Views

/-!
Contract: a cursor reads alike in the tokens of a text and in the same tokens with a
comma-joined pair read as one number, except on the pair itself.

A `CommaPair` is a comma-joined pair in a list of tokens, with the tokens around it; its
first number ends no other pair and has no minus sign right against it where an operand may
start, that is where the minus sign is the first token or follows a token an operand may
follow (`TokenKind.leadsOperand`). A dispatch never starts on a minus sign right before the pair
that follows any other token (`CommaPair.MayStartAt`): each starts at the beginning of a line
or after such a token. A cursor over the
tokens and a cursor over the joined tokens stand at the same place (`Cursor.Joined`) when
the index and view of the first are those of the second lifted past the pair (`liftIndex`).
The two then see the same kind of token, the same blanks and the same end of view; they see
the same text and step to places that stand alike, unless the second is on the joined
number (`Cursor.OnJoined`), where the first is on the pair's first number and needs three
steps for the second's one. Searching for a keyword and narrowing a view to it keep the two
alike, since the pair holds no keyword.

Owns: `CommaPair`, `Cursor.Joined`, `Cursor.OnJoined` and what navigation does with them.
Does not own: what the parsers read (`Reckon.Proofs.DecimalComma`).
-/

namespace Reckon

/-- Kinds of token an operand may follow: a line break, an opening parenthesis, an argument
separator, the `=` of a declaration, the keywords of a condition and the binary operators. -/
def TokenKind.leadsOperand : TokenKind → Bool
  | .newLine | .lParen | .comma | .semicolon | .equals | .ifKw | .thenKw | .elseKw => true
  | kind => (BinaryOperator.ofKind? kind).isSome

/-- A comma-joined pair in the tokens of a text, with the tokens before and after it. Its
first number is not the second number of another pair, and a minus sign right before it that
may start an operand, being the first token or following a token an operand may follow, has a
blank between them. -/
structure CommaPair where
  before : List Token
  first : Token
  comma : Token
  second : Token
  after : List Token
  joined : CommaJoined first comma second
  notFraction : ∀ earlier previous separator, before = earlier ++ [previous, separator] →
    ¬CommaJoined previous separator first
  notNegative : ∀ earlier previous, before = earlier ++ [previous] → previous.kind = .minus →
    (∀ front leading, earlier = front ++ [leading] → leading.kind.leadsOperand = true) →
    first.leadingWhitespace ≠ 0

theorem liftIndex_succ {k j : Nat} (away : j ≠ k) : liftIndex k (j + 1) = liftIndex k j + 1 := by
  unfold liftIndex
  split <;> split <;> omega

theorem liftIndex_beq {k i j : Nat} : (liftIndex k i == liftIndex k j) = (i == j) := by
  rw [Bool.eq_iff_iff, beq_iff_eq, beq_iff_eq, liftIndex_inj]

theorem liftIndex_min_max {k a s t : Nat} :
    liftIndex k (min (max a s) t) = min (max (liftIndex k a) (liftIndex k s)) (liftIndex k t) := by
  unfold liftIndex
  split <;> split <;> split <;> split <;> omega

namespace CommaPair

variable (pair : CommaPair)

/-- The tokens of the text. -/
def tokens : List Token :=
  pair.before ++ pair.first :: pair.comma :: pair.second :: pair.after

/-- The tokens with the pair read as one number. -/
def joinedTokens : List Token :=
  pair.before ++ pair.first.joinPoint pair.second :: pair.after

/-- The index of the pair's first number, and of the joined number. -/
def position : Nat :=
  pair.before.length

/-- A dispatch may start at index `i`: anywhere but right before the pair, and there only
as the first token or after a token an operand may follow. -/
def MayStartAt (i : Nat) : Prop :=
  i + 1 = pair.position → ∀ leading, 0 < i → pair.tokens[i - 1]? = some leading →
    leading.kind.leadsOperand = true

theorem tokens_getElem?_lift {j : Nat} (away : j ≠ pair.position) :
    pair.tokens[liftIndex pair.position j]? = pair.joinedTokens[j]? := by
  unfold tokens joinedTokens position at *
  rcases Nat.lt_or_gt_of_ne away with earlier | later
  · rw [liftIndex_of_le (Nat.le_of_lt earlier), List.getElem?_append_left earlier,
      List.getElem?_append_left earlier]
  · obtain ⟨d, rfl⟩ : ∃ d, j = pair.before.length + (d + 1) := ⟨j - pair.before.length - 1, by omega⟩
    rw [liftIndex_of_lt later, List.getElem?_append_right (by omega),
      List.getElem?_append_right (by omega)]
    simp only [show pair.before.length + (d + 1) + 2 - pair.before.length = d + 3 by omega,
      Nat.add_sub_cancel_left, List.getElem?_cons_succ]

theorem tokens_getElem?_first : pair.tokens[pair.position]? = some pair.first := by
  simp [tokens, position]

theorem tokens_getElem?_comma : pair.tokens[pair.position + 1]? = some pair.comma := by
  simp [tokens, position]

theorem tokens_getElem?_second : pair.tokens[pair.position + 2]? = some pair.second := by
  simp [tokens, position]

theorem joinedTokens_getElem?_position :
    pair.joinedTokens[pair.position]? = some (pair.first.joinPoint pair.second) := by
  simp [joinedTokens, position]

theorem before_getElem? {i : Nat} (below : i < pair.position) :
    pair.before[i]? = pair.tokens[i]? := by
  rw [tokens, List.getElem?_append_left below]

/-- A minus sign right before the pair, where a dispatch may start, has a blank between. -/
theorem leadingWhitespace_of_minus {previous : Token}
    (atPrevious : pair.tokens[pair.position - 1]? = some previous) (positive : 0 < pair.position)
    (minus : previous.kind = .minus) (start : pair.MayStartAt (pair.position - 1)) :
    pair.first.leadingWhitespace ≠ 0 := by
  have last : pair.before.getLast? = some previous := by
    rw [List.getLast?_eq_getElem?, ← atPrevious]
    exact pair.before_getElem? (by unfold position at positive ⊢; omega)
  obtain ⟨earlier, split⟩ := List.getLast?_eq_some_iff.mp last
  refine pair.notNegative earlier previous split minus fun front leading earlierSplit => ?_
  -- the token before the minus sign is the last one of `earlier`
  have length : pair.position = front.length + 2 := by
    simp [position, split, earlierSplit]
  refine start (by omega) leading (by omega) ?_
  rw [show pair.position - 1 - 1 = front.length by omega, ← pair.before_getElem? (by omega),
    split, earlierSplit, List.append_assoc, List.getElem?_append_right (Nat.le_refl _),
    Nat.sub_self]
  rfl

/-- A digit run and a tight comma right before the pair leave a blank before it: otherwise
its first number would be the second number of another pair. -/
theorem leadingWhitespace_of_fraction {previous separator : Token}
    (atPrevious : pair.tokens[pair.position - 2]? = some previous)
    (atSeparator : pair.tokens[pair.position - 1]? = some separator) (two : 2 ≤ pair.position)
    (number : previous.kind = .number) (digits : Parse.isDigitRun previous.text = true)
    (comma : separator.kind = .comma) (tight : separator.leadingWhitespace = 0) :
    pair.first.leadingWhitespace ≠ 0 := by
  intro firstTight
  have last : pair.before.getLast? = some separator := by
    rw [List.getLast?_eq_getElem?, ← atSeparator]
    exact pair.before_getElem? (by unfold position at two ⊢; omega)
  obtain ⟨rest, split⟩ := List.getLast?_eq_some_iff.mp last
  have restLength : rest.length = pair.position - 1 := by
    simp only [position, split, List.length_append, List.length_singleton, Nat.add_sub_cancel]
  have restLast : rest.getLast? = some previous := by
    rw [List.getLast?_eq_getElem?, restLength, show pair.position - 1 - 1 = pair.position - 2 by omega,
      ← atPrevious, ← pair.before_getElem? (by omega),
      split, List.getElem?_append_left (by omega)]
  obtain ⟨earlier, restSplit⟩ := List.getLast?_eq_some_iff.mp restLast
  refine pair.notFraction earlier previous separator ?_
    ⟨number, digits, comma, tight, pair.joined.firstNumber, pair.joined.firstDigits, firstTight⟩
  rw [split, restSplit, List.append_assoc, List.singleton_append]

end CommaPair

namespace Cursor

variable {c : Cursor} {kind : TokenKind}

theorem exists_token?_of_isAt (onKind : c.isAt kind = true) :
    ∃ token, c.token? = some token ∧ token.kind = kind := by
  unfold isAt kind? at onKind
  cases found : c.token? with
  | none =>
    rw [found] at onKind
    cases onKind
  | some token =>
    rw [found] at onKind
    exact ⟨token, rfl, by simpa using onKind⟩

theorem kind?_of_isAt (onKind : c.isAt kind = true) : c.kind? = some kind := by
  simpa [isAt] using onKind

theorem isAt_of_seek? : ∀ {c found : Cursor}, c.seek? kind = some found → found.isAt kind = true := by
  intro c
  induction c using Cursor.seek?.induct kind with
  | case1 c inside onKind =>
    intro found sought
    rw [Cursor.seek?.eq_1 c, dif_pos inside, if_pos onKind] at sought
    cases sought
    exact onKind
  | case2 c inside notKind inductionHypothesis =>
    intro found sought
    rw [Cursor.seek?.eq_1 c, dif_pos inside, if_neg notKind] at sought
    exact inductionHypothesis sought
  | case3 c outside =>
    intro found sought
    rw [Cursor.seek?.eq_1 c, dif_neg outside] at sought
    cases sought

theorem seek?_of_not_isAt (inside : c.index < c.stop) (notKind : c.isAt kind = false) :
    c.seek? kind = c.advance.seek? kind := by
  rw [Cursor.seek?.eq_1 c, dif_pos inside, if_neg (by rw [notKind]; exact Bool.false_ne_true)]

end Cursor

/-- `c` reads the tokens of a text with a comma-joined pair where `c'` reads the same tokens
with the pair joined, at the same place: the index and view of `c` are those of `c'` lifted
past the pair. -/
structure Cursor.Joined (pair : CommaPair) (c c' : Cursor) : Prop where
  tokens : c.stream.tokens.toList = pair.tokens
  joinedTokens : c'.stream.tokens.toList = pair.joinedTokens
  index : c.index = liftIndex pair.position c'.index
  start : c.start = liftIndex pair.position c'.start
  stop : c.stop = liftIndex pair.position c'.stop
  line : c'.line = c.line

/-- The cursor is on the joined number. -/
def Cursor.OnJoined (pair : CommaPair) (c' : Cursor) : Prop :=
  c'.index = pair.position ∧ c'.index < c'.stop

namespace Cursor.Joined

variable {pair : CommaPair} {c c' : Cursor}

theorem inside_iff (joined : c.Joined pair c') : c.index < c.stop ↔ c'.index < c'.stop := by
  rw [joined.index, joined.stop, liftIndex_lt_iff]

theorem token?_of_away (joined : c.Joined pair c') (away : ¬c'.OnJoined pair) :
    c.token? = c'.token? := by
  unfold Cursor.token?
  simp only [joined.index, joined.stop, liftIndex_lt_iff]
  split
  · rename_i inside
    rw [← Array.getElem?_toList, ← Array.getElem?_toList, joined.tokens, joined.joinedTokens]
    exact pair.tokens_getElem?_lift fun onPair => away ⟨onPair, inside⟩
  · rfl

theorem token?_of_onJoined (joined : c.Joined pair c') (on : c'.OnJoined pair) :
    c.token? = some pair.first ∧ c'.token? = some (pair.first.joinPoint pair.second) := by
  obtain ⟨atPair, inside⟩ := on
  unfold Cursor.token?
  rw [if_pos (joined.inside_iff.mpr inside), if_pos inside, joined.index, atPair,
    liftIndex_of_le (Nat.le_refl _), ← Array.getElem?_toList, ← Array.getElem?_toList,
    joined.tokens, joined.joinedTokens]
  exact ⟨pair.tokens_getElem?_first, pair.joinedTokens_getElem?_position⟩

theorem kind? (joined : c.Joined pair c') : c.kind? = c'.kind? := by
  by_cases on : c'.OnJoined pair
  · rw [Cursor.kind?, Cursor.kind?, (joined.token?_of_onJoined on).1,
      (joined.token?_of_onJoined on).2]
    rfl
  · rw [Cursor.kind?, Cursor.kind?, joined.token?_of_away on]

theorem isAt (joined : c.Joined pair c') (kind : TokenKind) : c.isAt kind = c'.isAt kind := by
  rw [Cursor.isAt, Cursor.isAt, joined.kind?]

theorem text_of_away (joined : c.Joined pair c') (away : ¬c'.OnJoined pair) : c.text = c'.text := by
  rw [Cursor.text, Cursor.text, joined.token?_of_away away]

theorem atEnd (joined : c.Joined pair c') : c.atEnd = c'.atEnd := by
  simp only [Cursor.atEnd, joined.index, joined.stop, liftIndex_le_iff]

theorem hasLeadingWhitespace (joined : c.Joined pair c') :
    c.hasLeadingWhitespace = c'.hasLeadingWhitespace := by
  -- the joined number keeps the blanks before the pair's first number
  by_cases on : c'.OnJoined pair
  · rw [Cursor.hasLeadingWhitespace, Cursor.hasLeadingWhitespace, joined.index, joined.start,
      liftIndex_beq, (joined.token?_of_onJoined on).1, (joined.token?_of_onJoined on).2]
    rfl
  · rw [Cursor.hasLeadingWhitespace, Cursor.hasLeadingWhitespace, joined.token?_of_away on,
      joined.index, joined.start, liftIndex_beq]

/-- Only a number can be the joined number. -/
theorem away_of_isAt (joined : c.Joined pair c') {kind : TokenKind} (notNumber : kind ≠ .number)
    (onKind : c'.isAt kind = true) : ¬c'.OnJoined pair := by
  intro on
  rw [Cursor.isAt, Cursor.kind?, (joined.token?_of_onJoined on).2] at onKind
  simp only [Token.joinPoint, Option.map_some, beq_iff_eq, Option.some.injEq] at onKind
  exact notNumber (onKind ▸ pair.joined.firstNumber)

theorem away_of_kind? (joined : c.Joined pair c') {kind : TokenKind} (notNumber : kind ≠ .number)
    (onKind : c.kind? = some kind) : ¬c'.OnJoined pair :=
  joined.away_of_isAt notNumber (by rw [Cursor.isAt, ← joined.kind?, onKind, beq_self_eq_true])

/-- Two places move forward alike: the comparisons of their indices with each other and with
the ends of their views agree. -/
theorem forward_iff (joined : c.Joined pair c') {d d' : Cursor} (later : d.Joined pair d')
    {bound bound' : Nat} (bounds : bound = liftIndex pair.position bound') :
    (c'.index < d'.index ∧ d'.index ≤ bound' ↔ c.index < d.index ∧ d.index ≤ bound) := by
  rw [joined.index, later.index, bounds, liftIndex_lt_iff, liftIndex_le_iff]

/-- The token under a cursor over the text is the token at its index. -/
theorem getElem?_of_token? (joined : c.Joined pair c') {token : Token}
    (found : c.token? = some token) : pair.tokens[c.index]? = some token := by
  unfold Cursor.token? at found
  split at found
  · rw [← joined.tokens, Array.getElem?_toList]
    exact found
  · cases found

theorem advance_of_away (joined : c.Joined pair c') (away : ¬c'.OnJoined pair) :
    c.advance.Joined pair c'.advance := by
  unfold Cursor.advance
  by_cases inside : c'.index < c'.stop
  · rw [if_pos (joined.inside_iff.mpr inside), if_pos inside]
    have notPair : c'.index ≠ pair.position := fun onPair => away ⟨onPair, inside⟩
    exact ⟨joined.tokens, joined.joinedTokens, by rw [joined.index, liftIndex_succ notPair],
      joined.start, joined.stop, joined.line⟩
  · rw [if_neg (mt joined.inside_iff.mp inside), if_neg inside]
    exact joined

/-- On the pair, the cursor over the text stands on its first number, and its comma and
second number are inside the view. -/
theorem onJoined_spots (joined : c.Joined pair c') (on : c'.OnJoined pair) :
    c.index = pair.position ∧ pair.position + 2 < c.stop := by
  obtain ⟨atPair, inside⟩ := on
  rw [joined.index, joined.stop, atPair, liftIndex_of_le (Nat.le_refl _),
    liftIndex_of_lt (atPair ▸ inside)]
  exact ⟨rfl, by omega⟩

theorem advance_advance_onJoined (joined : c.Joined pair c') (on : c'.OnJoined pair) :
    c.advance = { c with index := pair.position + 1 } ∧
      c.advance.advance = { c with index := pair.position + 2 } ∧
        c.advance.advance.advance = { c with index := pair.position + 3 } := by
  obtain ⟨atFirst, commaInside⟩ := joined.onJoined_spots on
  have first : c.advance = { c with index := pair.position + 1 } := by
    rw [Cursor.advance, if_pos (by omega), atFirst]
  have second : c.advance.advance = { c with index := pair.position + 2 } := by
    rw [first, Cursor.advance, if_pos (show pair.position + 1 < c.stop by omega)]
  refine ⟨first, second, ?_⟩
  rw [second, Cursor.advance, if_pos (show pair.position + 2 < c.stop by omega)]

/-- One step over the joined number is three steps over the pair. -/
theorem advance_onJoined (joined : c.Joined pair c') (on : c'.OnJoined pair) :
    c.advance.advance.advance.Joined pair c'.advance := by
  obtain ⟨atPair, inside⟩ := on
  rw [(joined.advance_advance_onJoined ⟨atPair, inside⟩).2.2, Cursor.advance, if_pos inside]
  refine ⟨joined.tokens, joined.joinedTokens, ?_, joined.start, joined.stop, joined.line⟩
  show pair.position + 3 = liftIndex pair.position (c'.index + 1)
  rw [atPair, liftIndex_of_lt (by omega)]

theorem endOfView (joined : c.Joined pair c') : c.endOfView.Joined pair c'.endOfView :=
  ⟨joined.tokens, joined.joinedTokens, joined.stop, joined.start, joined.stop, joined.line⟩

theorem next?_of_away (joined : c.Joined pair c') (away : ¬c'.OnJoined pair) :
    Option.Rel (Cursor.Joined pair) c.next? c'.next? := by
  have moved := joined.advance_of_away away
  unfold Cursor.next?
  dsimp only
  rw [moved.atEnd]
  split
  · exact .none
  · exact .some moved

/-- A search for a kind other than the pair's passes over the pair's three tokens. -/
theorem seek?_onJoined (joined : c.Joined pair c') (on : c'.OnJoined pair) {kind : TokenKind}
    (notNumber : kind ≠ .number) (notComma : kind ≠ .comma) :
    c.seek? kind = c.advance.advance.advance.seek? kind := by
  obtain ⟨atFirst, secondInside⟩ := joined.onJoined_spots on
  obtain ⟨toComma, toSecond, -⟩ := joined.advance_advance_onJoined on
  have passes : ∀ {i : Nat} {token : Token}, i ≤ 2 → pair.tokens[pair.position + i]? = some token →
      token.kind ≠ kind → ({ c with index := pair.position + i } : Cursor).isAt kind = false := by
    intro i token within found other
    simp only [Cursor.isAt, Cursor.kind?, Cursor.token?, if_pos (show pair.position + i < c.stop by omega),
      ← Array.getElem?_toList, joined.tokens, found]
    simpa using other
  have onFirst : c.isAt kind = false := by
    rw [Cursor.isAt, Cursor.kind?, (joined.token?_of_onJoined on).1]
    simpa [pair.joined.firstNumber] using Ne.symm notNumber
  have onComma : c.advance.isAt kind = false := by
    rw [toComma]
    exact passes (by omega) pair.tokens_getElem?_comma (pair.joined.isComma ▸ Ne.symm notComma)
  have onSecond : c.advance.advance.isAt kind = false := by
    rw [toSecond]
    exact passes (by omega) pair.tokens_getElem?_second
      (pair.joined.secondNumber ▸ Ne.symm notNumber)
  rw [Cursor.seek?_of_not_isAt (by omega) onFirst,
    Cursor.seek?_of_not_isAt (by rw [toComma]; show pair.position + 1 < c.stop; omega) onComma,
    Cursor.seek?_of_not_isAt (by rw [toSecond]; show pair.position + 2 < c.stop; omega) onSecond]

/-- A search for a kind other than the pair's finds places that stand alike, and never the
joined number. -/
theorem seek? (kind : TokenKind) (notNumber : kind ≠ .number) (notComma : kind ≠ .comma) :
    ∀ {c c' : Cursor}, c.Joined pair c' →
      Option.Rel (fun found found' => found.Joined pair found' ∧ ¬found'.OnJoined pair)
        (c.seek? kind) (c'.seek? kind) := by
  -- the induction follows the search over the joined tokens; over the pair the other search
  -- takes three steps for its one
  intro c c' joined
  induction c' using Cursor.seek?.induct kind generalizing c with
  | case1 c' inside onKind =>
    rw [Cursor.seek?.eq_1 c, Cursor.seek?.eq_1 c', dif_pos (joined.inside_iff.mpr inside),
      if_pos (by rw [joined.isAt]; exact onKind), dif_pos inside, if_pos onKind]
    exact .some ⟨joined, joined.away_of_isAt notNumber onKind⟩
  | case2 c' inside notKind inductionHypothesis =>
    rw [Cursor.seek?.eq_1 c', dif_pos inside, if_neg notKind]
    by_cases on : c'.OnJoined pair
    · rw [joined.seek?_onJoined on notNumber notComma]
      exact inductionHypothesis (joined.advance_onJoined on)
    · rw [Cursor.seek?.eq_1 c, dif_pos (joined.inside_iff.mpr inside),
        if_neg (by rw [joined.isAt]; exact notKind)]
      exact inductionHypothesis (joined.advance_of_away on)
  | case3 c' outside =>
    rw [Cursor.seek?.eq_1 c, Cursor.seek?.eq_1 c', dif_neg (mt joined.inside_iff.mp outside),
      dif_neg outside]
    exact .none

theorem skipWords : ∀ {c c' : Cursor}, c.Joined pair c' → c.skipWords.Joined pair c'.skipWords := by
  intro c c' joined
  induction c' using Cursor.skipWords.induct generalizing c with
  | case1 c' inside onWord inductionHypothesis =>
    rw [Cursor.skipWords.eq_1 c, Cursor.skipWords.eq_1 c', dif_pos (joined.inside_iff.mpr inside),
      if_pos (by rw [joined.isAt]; exact onWord), dif_pos inside, if_pos onWord]
    exact inductionHypothesis (joined.advance_of_away (joined.away_of_isAt (by decide) onWord))
  | case2 c' inside notWord =>
    rw [Cursor.skipWords.eq_1 c, Cursor.skipWords.eq_1 c', dif_pos (joined.inside_iff.mpr inside),
      if_neg (by rw [joined.isAt]; exact notWord), dif_pos inside, if_neg notWord]
    exact joined
  | case3 c' outside =>
    rw [Cursor.skipWords.eq_1 c, Cursor.skipWords.eq_1 c', dif_neg (mt joined.inside_iff.mp outside),
      dif_neg outside]
    exact joined

theorem skip? (joined : c.Joined pair c') (expected : TokenKind) (overWords : Bool)
    (notNumber : expected ≠ .number) :
    Option.Rel (Cursor.Joined pair) (c.skip? expected overWords) (c'.skip? expected overWords) := by
  have here : (if overWords && expected != .word then c.skipWords else c).Joined pair
      (if overWords && expected != .word then c'.skipWords else c') := by
    split
    · exact joined.skipWords
    · exact joined
  unfold Cursor.skip?
  dsimp only
  generalize (if overWords && expected != .word then c.skipWords else c) = start at here ⊢
  generalize (if overWords && expected != .word then c'.skipWords else c') = start' at here ⊢
  rw [here.isAt]
  split
  · rename_i onExpected
    exact .some (here.advance_of_away (here.away_of_isAt notNumber onExpected))
  · exact .none

theorem «until» (joined : c.Joined pair c') (kind : TokenKind) (notNumber : kind ≠ .number)
    (notComma : kind ≠ .comma) : (c.until kind).Joined pair (c'.until kind) := by
  unfold Cursor.until
  have sought := joined.seek? kind notNumber notComma
  generalize c.seek? kind = found? at sought ⊢
  generalize c'.seek? kind = found'? at sought ⊢
  cases sought with
  | some foundRelated =>
    exact ⟨joined.tokens, joined.joinedTokens, joined.index, joined.start, foundRelated.1.index,
      joined.line⟩
  | none => exact joined

theorem resume (joined : c.Joined pair c') {other other' : Cursor}
    (index : other.index = liftIndex pair.position other'.index) :
    (c.resume other).Joined pair (c'.resume other') := by
  refine ⟨joined.tokens, joined.joinedTokens, ?_, joined.start, joined.stop, joined.line⟩
  show min (max other.index c.start) c.stop =
    liftIndex pair.position (min (max other'.index c'.start) c'.stop)
  rw [index, joined.start, joined.stop, liftIndex_min_max]

theorem sameSpot (joined : c.Joined pair c') {other other' : Cursor}
    (otherJoined : other.Joined pair other') : c.sameSpot other = c'.sameSpot other' := by
  rw [Cursor.sameSpot, Cursor.sameSpot, joined.index, joined.start, joined.stop,
    otherJoined.index, otherJoined.start, otherJoined.stop, liftIndex_beq, liftIndex_beq,
    liftIndex_beq]

/-- Right after a token an operand may follow, a dispatch may start. -/
theorem mayStartAt_advance (joined : c.Joined pair c') {kind : TokenKind}
    (onKind : c.kind? = some kind) (leads : kind.leadsOperand = true) :
    pair.MayStartAt c.advance.index := by
  obtain ⟨token, found, rfl⟩ := Option.map_eq_some_iff.mp onKind
  have inside : c.index < c.stop := by
    unfold Cursor.token? at found
    split at found
    · assumption
    · cases found
  rw [Cursor.advance_index_of_lt inside]
  intro _ leading _ atLeading
  rw [Nat.add_sub_cancel, joined.getElem?_of_token? found, Option.some.injEq] at atLeading
  rw [← atLeading]
  exact leads

/-- A dispatch may start after a token an operand may follow that the cursor skipped to. -/
theorem mayStartAt_skip? (joined : c.Joined pair c') {kind : TokenKind} {overWords : Bool}
    {after : Cursor} (skipped : c.skip? kind overWords = some after)
    (leads : kind.leadsOperand = true) : pair.MayStartAt after.index := by
  have here : (if overWords && kind != .word then c.skipWords else c).Joined pair
      (if overWords && kind != .word then c'.skipWords else c') := by
    split
    · exact joined.skipWords
    · exact joined
  unfold Cursor.skip? at skipped
  generalize (if overWords && kind != .word then c.skipWords else c) = start at here skipped
  dsimp only at skipped
  split at skipped
  · rename_i onKind
    cases skipped
    exact here.mayStartAt_advance (Cursor.kind?_of_isAt onKind) leads
  · cases skipped

/-- A dispatch may start after a binary operator. -/
theorem mayStartAt_operator (joined : c.Joined pair c') {op : BinaryOperator}
    (onOperator : Parse.operatorAt? c = some op) : pair.MayStartAt c.advance.index := by
  obtain ⟨kind, onKind, isOperator⟩ := Option.bind_eq_some_iff.mp onOperator
  refine joined.mayStartAt_advance onKind ?_
  unfold TokenKind.leadsOperand
  split
  all_goals first | rfl | simp [isOperator]

end Cursor.Joined

end Reckon
