import Reckon.Proofs.Precedence
import Reckon.Proofs.FastPath
import Reckon.Proofs.CursorViews

/-!
Contract: how many nesting levels a line of nested groups takes.

One copy of `n` nested groups around the number one, `(`ⁿ `1` `)`ⁿ, read as an operand with
`levels` levels of dispatch left, reads the integer one when `2 * n + 1 ≤ levels` and fails
with the nesting error on its line otherwise (`Dispatch.operand_nested`): each group costs two
levels, one for the expression inside it and one for that expression's first operand, and the
number one costs the level of the operand dispatch that reads it. Copies joined by plus signs
are added up by `climb` at the level of the first one (`Dispatch.climb_plusCopies`). A line of
them, read as a statement with 128 levels, leaves 126 for the first operand, so it reads as
the number of copies exactly when `n ≤ 62` (`readLine_copies`).

What a cursor sees is stated by `Cursor.Reads`: the kinds and texts of the tokens from it to
the end of its view. The orders this holds for are those whose expression parsers start with
the binary parser, followed by operand parsers only (`Order.OperandsAfterBinary`).

Owns: `Cursor.Reads`, the tokens of nested groups and of copies joined by plus signs,
`Order.OperandsAfterBinary` and the facts above.
Does not own: how the line is scanned, where it stands in a document, or that every order of
the built-in registry has this shape (`Reckon.Proofs.NestingLimit`).
-/

namespace Reckon

/-! ### What a cursor reads -/

/-- A token's kind with its text. -/
def Token.spelling (token : Token) : TokenKind × String :=
  (token.kind, token.text)

namespace Cursor

variable {c : Cursor} {kind : TokenKind} {text : String} {front rest : List (TokenKind × String)}

/-- From the cursor to the end of its view, the tokens are spelled `spellings`. -/
structure Reads (c : Cursor) (spellings : List (TokenKind × String)) : Prop where
  ends : c.index + spellings.length = c.stop
  spelled : ∀ j < spellings.length, (c.stream.tokens[c.index + j]?).map Token.spelling = spellings[j]?

theorem Reads.token?_cons (reads : c.Reads ((kind, text) :: rest)) :
    c.token?.map Token.spelling = some (kind, text) := by
  have inside : c.index < c.stop := by have := reads.ends; simp at this; omega
  have first := reads.spelled 0 (by simp)
  simp only [Nat.add_zero, List.getElem?_cons_zero] at first
  simp only [token?, inside, if_true, first]

theorem Reads.kind?_cons (reads : c.Reads ((kind, text) :: rest)) : c.kind? = some kind := by
  have spelled := reads.token?_cons
  unfold kind?
  cases found : c.token? with
  | none => rw [found] at spelled; cases spelled
  | some token =>
    rw [found] at spelled
    simp only [Option.map_some, Option.some.injEq, Token.spelling, Prod.mk.injEq] at spelled
    simp [spelled.1]

theorem Reads.text_cons (reads : c.Reads ((kind, text) :: rest)) : c.text = text := by
  have spelled := reads.token?_cons
  unfold Cursor.text
  cases found : c.token? with
  | none => rw [found] at spelled; cases spelled
  | some token =>
    rw [found] at spelled
    simp only [Option.map_some, Option.some.injEq, Token.spelling, Prod.mk.injEq] at spelled
    exact spelled.2

theorem Reads.isAt_cons (reads : c.Reads ((kind, text) :: rest)) (other : TokenKind) :
    c.isAt other = (kind == other) := by
  simp only [isAt, reads.kind?_cons]
  cases kind <;> cases other <;> rfl

/-- Reading past the first tokens of a view leaves the view of the rest. -/
theorem Reads.drop (reads : c.Reads (front ++ rest)) :
    ({ c with index := c.index + front.length } : Cursor).Reads rest where
  ends := by have := reads.ends; simp at this; dsimp only; omega
  spelled j below := by
    have spelled := reads.spelled (front.length + j) (by simp; omega)
    rw [List.getElem?_append_right (by omega), Nat.add_sub_cancel_left, ← Nat.add_assoc] at spelled
    exact spelled

theorem Reads.advance_cons {s : TokenKind × String} (reads : c.Reads (s :: rest)) :
    c.advance = { c with index := c.index + 1 } :=
  advance_of_lt (by have := reads.ends; simp at this; omega)

theorem Reads.advance (reads : c.Reads ((kind, text) :: rest)) : c.advance.Reads rest := by
  rw [reads.advance_cons]
  exact (show c.Reads ([(kind, text)] ++ rest) from reads).drop

theorem Reads.kind?_nil (reads : c.Reads []) : c.kind? = none := by
  have atStop : ¬c.index < c.stop := by have := reads.ends; simp at this; omega
  simp [kind?, token?, atStop]

theorem Reads.atEnd_nil (reads : c.Reads []) : c.atEnd = true := by
  have := reads.ends
  simp only [List.length_nil, Nat.add_zero] at this
  simp [atEnd, this]

/-- Past all the tokens it reads, a cursor is at the end of its view. -/
theorem Reads.atEnd_drop (reads : c.Reads rest) :
    ({ c with index := c.index + rest.length } : Cursor).atEnd = true := by
  simp [atEnd, reads.ends]

end Cursor

/-! ### Nested groups -/

/-- How an opening parenthesis, a closing one, the number one and a plus sign are spelled. -/
def openParen : TokenKind × String := (.lParen, "(")
def closeParen : TokenKind × String := (.rParen, ")")
def numberOne : TokenKind × String := (.number, "1")
def plusSign : TokenKind × String := (.plus, "+")

/-- The tokens of one copy: `n` opening parentheses, the number one and `n` closing ones. -/
def nestedSpelling (n : Nat) : List (TokenKind × String) :=
  List.replicate n openParen ++ numberOne :: List.replicate n closeParen

theorem nestedSpelling_succ (n : Nat) :
    nestedSpelling (n + 1) = openParen :: (nestedSpelling n ++ [closeParen]) := by
  rw [nestedSpelling, nestedSpelling, List.replicate_succ, List.replicate_succ']
  simp

@[simp] theorem length_nestedSpelling (n : Nat) : (nestedSpelling n).length = 2 * n + 1 := by
  simp [nestedSpelling]
  omega

/-! ### First matches -/

section FirstMatch

variable {ρ α : Type} {run : ρ → Attempt α} {label : α → String → α}

/-- A rule that does not decline ends the search at once. -/
theorem firstMatch_cons_of_ne (name : String) {rule : ρ} (rest : List (String × ρ))
    (decides : run rule ≠ .ok none) :
    firstMatch run label ((name, rule) :: rest) = (run rule).map (Option.map (label · name)) := by
  rcases ran : run rule with e | _ | m
  · exact firstMatch_cons_error run rule ran
  · exact absurd ran decides
  · exact firstMatch_cons_found run rule ran

/-- When every other rule declines, the search ends with the one rule that does not. -/
theorem firstMatch_sole {rules : List (String × ρ)} {the : ρ} (present : the ∈ rules.map Prod.snd)
    (othersDecline : ∀ entry ∈ rules, entry.2 ≠ the → run entry.2 = .ok none)
    (decides : run the ≠ .ok none) :
    ∃ name, firstMatch run label rules = (run the).map (Option.map (label · name)) := by
  induction rules with
  | nil => cases present
  | cons entry rest inductionHypothesis =>
    obtain ⟨name, rule⟩ := entry
    by_cases same : rule = the
    · subst same
      exact ⟨name, firstMatch_cons_of_ne name rest decides⟩
    · rw [firstMatch_cons_declined run rule (othersDecline _ List.mem_cons_self same)]
      refine inductionHypothesis ?_ fun entry member => othersDecline entry (List.mem_cons_of_mem _ member)
      simp only [List.map_cons, List.mem_cons] at present
      exact present.resolve_left (Ne.symm same)

/-- Rules that decline before the others leave the search to the others. -/
theorem firstMatch_append_of_declined {early : List (String × ρ)} (rest : List (String × ρ))
    (declined : ∀ entry ∈ early, run entry.2 = .ok none) :
    firstMatch run label (early ++ rest) = firstMatch run label rest := by
  induction early with
  | nil => rfl
  | cons entry early inductionHypothesis =>
    rw [List.cons_append, firstMatch_cons_declined run entry.2 (declined entry List.mem_cons_self)]
    exact inductionHypothesis fun other member => declined other (List.mem_cons_of_mem _ member)

end FirstMatch

/-! ### The orders that read nested groups -/

/-- An order whose expression parsers start with the binary parser, followed, after it, by
operand parsers only, among them the group and the literal parsers. Every order of the
built-in registry is one. -/
structure Order.OperandsAfterBinary (order : Order) : Prop where
  binaryFirst : order.expressions.head?.map Prod.snd = some .binaryOperation
  noChain : .binaryOperation ∉ (order.expressionsAfter ExprRule.binaryOperation.name).map Prod.snd
  group : .group ∈ (order.expressionsAfter ExprRule.binaryOperation.name).map Prod.snd
  data : .data ∈ (order.expressionsAfter ExprRule.binaryOperation.name).map Prod.snd

instance (order : Order) : Decidable order.OperandsAfterBinary :=
  decidable_of_iff (order.expressions.head?.map Prod.snd = some .binaryOperation ∧
      .binaryOperation ∉ (order.expressionsAfter ExprRule.binaryOperation.name).map Prod.snd ∧
      .group ∈ (order.expressionsAfter ExprRule.binaryOperation.name).map Prod.snd ∧
      .data ∈ (order.expressionsAfter ExprRule.binaryOperation.name).map Prod.snd)
    ⟨fun ⟨first, noChain, group, data⟩ => ⟨first, noChain, group, data⟩,
      fun shape => ⟨shape.binaryFirst, shape.noChain, shape.group, shape.data⟩⟩

/-! ### Operands at a parenthesis and at the number one -/

namespace Parse

variable {c : Cursor} {rest : List (TokenKind × String)} {sub : Dispatch}

theorem next?_filter_not_comma (p : Cursor → Bool) {s : TokenKind × String}
    (reads : c.Reads (s :: rest)) (noComma : rest.head?.map Prod.fst ≠ some .comma) :
    (c.next?.filter fun comma => comma.isAt .comma && p comma) = none := by
  simp only [Cursor.next?]
  split
  · rfl
  · rename_i notEnd
    match rest, reads.advance with
    | [], after => exact absurd after.atEnd_nil notEnd
    | (kind, text) :: tail, after =>
      have notComma : kind ≠ .comma := fun same => noComma (by rw [same]; rfl)
      simp [Option.filter, after.isAt_cons, notComma]

/-- The literal parser reads the number one as the integer one. -/
theorem data_at_one (reads : c.Reads (numberOne :: rest)) :
    data c = .ok (some
      { node := .literal (.integer 1) (c.spanTo c.advance), value := .integer 1, next := c.advance,
        parser := "" }) := by
  simp only [data, reads.kind?_cons, reads.text_cons]
  rfl

end Parse

section Operands

variable {c : Cursor} {rest : List (TokenKind × String)} (bindings : Bindings) (sub : Dispatch)

/-- At an opening parenthesis every operand parser but the group parser declines. -/
theorem ExprRule.run_at_openParen {rule : ExprRule} (notGroup : rule ≠ .group)
    (notBinary : rule ≠ .binaryOperation) (reads : c.Reads (openParen :: rest)) :
    rule.run bindings sub c = .ok none := by
  cases rule with
  | binaryOperation => exact absurd rfl notBinary
  | group => exact absurd rfl notGroup
  | function => simp [ExprRule.run, Parse.call, reads.isAt_cons, pure, Except.pure]
  | decimalComma => simp [ExprRule.run, Parse.decimalComma, Parse.atDigitRun, reads.isAt_cons]
  | data =>
    simp only [ExprRule.run, Parse.data, reads.kind?_cons]
    rfl
  | variableReference => simp [ExprRule.run, Parse.reference, reads.isAt_cons]

/-- At the number one, not followed by a comma, every operand parser but the literal
parser declines. -/
theorem ExprRule.run_at_numberOne {rule : ExprRule} (notData : rule ≠ .data)
    (notBinary : rule ≠ .binaryOperation) (reads : c.Reads (numberOne :: rest))
    (noComma : rest.head?.map Prod.fst ≠ some .comma) :
    rule.run bindings sub c = .ok none := by
  cases rule with
  | binaryOperation => exact absurd rfl notBinary
  | data => exact absurd rfl notData
  | group => simp [ExprRule.run, Parse.group, Cursor.skip?, reads.isAt_cons, pure, Except.pure]
  | function => simp [ExprRule.run, Parse.call, reads.isAt_cons, pure, Except.pure]
  | decimalComma =>
    simp [ExprRule.run, Parse.decimalComma, Parse.next?_filter_not_comma _ reads noComma]
  | variableReference => simp [ExprRule.run, Parse.reference, reads.isAt_cons]

end Operands

namespace Parse

variable {c : Cursor} {rest : List (TokenKind × String)} {sub : Dispatch}

theorem skip?_of_reads {kind : TokenKind} {text : String} (reads : c.Reads ((kind, text) :: rest)) :
    c.skip? kind false = some c.advance := by
  simp [Cursor.skip?, reads.isAt_cons]

/-- A group fails where the expression after its parenthesis fails. -/
theorem group_of_inner_error (reads : c.Reads (openParen :: rest)) {e : InterpretError}
    (failed : sub.expression c.advance = .error e) : group sub c = .error e := by
  simp only [group, skip?_of_reads reads, failed]
  rfl

/-- A group reads the expression after its parenthesis and the closing one after that. -/
theorem group_of_inner (reads : c.Reads (openParen :: rest)) {inner : ExprMatch}
    {after : List (TokenKind × String)} (found : sub.expression c.advance = .ok (some inner))
    (closed : inner.next.Reads (closeParen :: after)) :
    group sub c = .ok (some
      { node := .group inner.node (c.spanTo inner.next.advance), value := inner.value,
        next := inner.next.advance, parser := "" }) := by
  simp only [group, skip?_of_reads reads, found, bind, Except.bind, skip?_of_reads closed]
  rfl

/-- A chain with no operator after its first operand is that operand. -/
theorem binaryOperation_of_last {operand : Cursor → Attempt ExprMatch} {first : ExprMatch}
    (read : operand c = .ok (some first)) (last : operatorAt? first.next = none) :
    binaryOperation operand c = .ok (some first) := by
  rw [binaryOperation, read]
  simp only
  rw [climb]
  simp only [last]

end Parse

theorem Order.OperandsAfterBinary.expressions_eq {order : Order} (shape : order.OperandsAfterBinary) :
    ∃ name rest, order.expressions = (name, .binaryOperation) :: rest := by
  have first := shape.binaryFirst
  match expressions : order.expressions, first with
  | (name, rule) :: rest, first =>
    simp only [List.head?_cons, Option.map_some, Option.some.injEq] at first
    exact ⟨name, rest, by rw [← first]⟩

namespace Dispatch

variable {order : Order} {bindings : Bindings} {levels : Nat} {c : Cursor}

theorem withLevels_succ_operand (after : String) :
    (withLevels order bindings (levels + 1)).operand after c =
      firstMatch (fun rule => rule.run bindings (withLevels order bindings levels) c)
        (fun found name => { found with parser := name }) (order.expressionsAfter after) :=
  rfl

theorem withLevels_succ_expression :
    (withLevels order bindings (levels + 1)).expression c =
      firstMatch (fun rule => rule.run bindings (withLevels order bindings levels) c)
        (fun found name => { found with parser := name }) order.expressions :=
  rfl

/-- Where every operand parser but `rule` declines and `rule` does not, the operand dispatch
one level up reads what `rule` reads. -/
theorem operand_of_sole (shape : order.OperandsAfterBinary) {rule : ExprRule}
    (present : rule ∈ (order.expressionsAfter ExprRule.binaryOperation.name).map Prod.snd)
    (othersDecline : ∀ other, other ≠ rule → other ≠ .binaryOperation →
      other.run bindings (withLevels order bindings levels) c = .ok none)
    (decides : rule.run bindings (withLevels order bindings levels) c ≠ .ok none) :
    ∃ name, (withLevels order bindings (levels + 1)).operand ExprRule.binaryOperation.name c =
      (rule.run bindings (withLevels order bindings levels) c).map
        (Option.map fun m => { m with parser := name }) := by
  rw [withLevels_succ_operand]
  exact firstMatch_sole present (fun entry member notRule => othersDecline entry.2 notRule
    fun isBinary => shape.noChain (List.mem_map.mpr ⟨entry, member, isBinary⟩)) decides

/-- An expression fails where its first operand fails. -/
theorem expression_of_operand_error (shape : order.OperandsAfterBinary) {e : InterpretError}
    (failed : (withLevels order bindings levels).operand ExprRule.binaryOperation.name c = .error e) :
    (withLevels order bindings (levels + 1)).expression c = .error e := by
  obtain ⟨name, rest, expressions⟩ := shape.expressions_eq
  rw [withLevels_succ_expression, expressions]
  exact firstMatch_cons_error _ _ (Parse.binaryOperation_of_error failed)

/-- An expression whose first operand has no operator after it is that operand. -/
theorem expression_of_operand_last (shape : order.OperandsAfterBinary) {m : ExprMatch}
    (read : (withLevels order bindings levels).operand ExprRule.binaryOperation.name c = .ok (some m))
    (last : Parse.operatorAt? m.next = none) :
    ∃ name, (withLevels order bindings (levels + 1)).expression c = .ok (some { m with parser := name }) := by
  obtain ⟨name, rest, expressions⟩ := shape.expressions_eq
  refine ⟨name, ?_⟩
  rw [withLevels_succ_expression, expressions]
  exact firstMatch_cons_found _ _ (Parse.binaryOperation_of_last read last)

/-- Reading one copy of `(`ⁿ `1` `)`ⁿ as an operand takes `2 * n + 1` nesting levels: with
that many it reads the integer one and ends after the copy; with fewer it fails with the nesting
error on the cursor's line. The induction is on `n` and the levels together: a group at one
level reads its inside with one level fewer for the expression and one more fewer for its first
operand. -/
theorem operand_nested (shape : order.OperandsAfterBinary) (bindings : Bindings) :
    ∀ (n levels : Nat) (c : Cursor) (rest : List (TokenKind × String)),
      c.Reads (nestedSpelling n ++ rest) → rest.head?.map Prod.fst ≠ some .comma →
      if 2 * n + 1 ≤ levels then
        ∃ m, (withLevels order bindings levels).operand ExprRule.binaryOperation.name c =
            .ok (some m) ∧ m.value = .integer 1 ∧ m.next = { c with index := c.index + (2 * n + 1) }
      else
        (withLevels order bindings levels).operand ExprRule.binaryOperation.name c =
          .error (.parse (.nestingTooDeep c.line))
  | _, 0, c, _, _, _ => by
    rw [if_neg (by omega)]
    rfl
  | 0, levels + 1, c, rest, reads, noComma => by
    rw [if_pos (by omega)]
    have atOne : c.Reads (numberOne :: rest) := reads
    -- only the literal parser reads the number
    obtain ⟨name, read⟩ := operand_of_sole shape shape.data
      (fun other notData notBinary => ExprRule.run_at_numberOne bindings _ notData notBinary atOne
        noComma)
      (by simp [ExprRule.run, Parse.data_at_one atOne])
    rw [read]
    simp only [ExprRule.run, Parse.data_at_one atOne]
    exact ⟨_, rfl, rfl, atOne.advance_cons⟩
  | n + 1, levels + 1, c, rest, reads, noComma => by
    rw [nestedSpelling_succ, List.cons_append, List.append_assoc, List.singleton_append] at reads
    have inner : c.advance.Reads (nestedSpelling n ++ closeParen :: rest) := reads.advance
    have sameLine : c.advance.line = c.line := by rw [reads.advance_cons]
    -- only the group parser reads the parenthesis
    have groupOnly := fun (decides : Parse.group (withLevels order bindings levels) c ≠ .ok none) =>
      operand_of_sole shape shape.group (fun other notGroup notBinary =>
        ExprRule.run_at_openParen bindings _ notGroup notBinary reads) decides
    cases levels with
    | zero =>
      -- no level is left for the expression inside the group
      have failed : Parse.group (withLevels order bindings 0) c =
          .error (.parse (.nestingTooDeep c.line)) :=
        Parse.group_of_inner_error reads (by rw [← sameLine]; rfl)
      obtain ⟨name, read⟩ := groupOnly (by rw [failed]; simp)
      rw [if_neg (by omega), read]
      simp only [ExprRule.run, failed]
      rfl
    | succ levels =>
      have below := operand_nested shape bindings n levels c.advance (closeParen :: rest) inner
        (by simp [closeParen])
      by_cases enough : 2 * n + 1 ≤ levels
      · rw [if_pos enough] at below
        obtain ⟨m, read, value, next⟩ := below
        have closed : m.next.Reads (closeParen :: rest) := by
          rw [next, ← length_nestedSpelling]
          exact inner.drop
        obtain ⟨name, expression⟩ := expression_of_operand_last shape read
          (by simp [Parse.operatorAt?, closed.kind?_cons, BinaryOperator.ofKind?])
        have grouped := Parse.group_of_inner reads expression closed
        obtain ⟨name', found⟩ := groupOnly (by rw [grouped]; simp)
        rw [if_pos (by omega), found]
        simp only [ExprRule.run, grouped]
        refine ⟨_, rfl, value, ?_⟩
        rw [closed.advance_cons, next, reads.advance_cons]
        simp only
        congr 1
        omega
      · rw [if_neg enough] at below
        have failed := Parse.group_of_inner_error reads (expression_of_operand_error shape below)
        obtain ⟨name, read⟩ := groupOnly (by rw [failed]; simp)
        rw [if_neg (by omega), read]
        simp only [ExprRule.run, failed, sameLine]
        rfl

end Dispatch

/-! ### Copies joined by plus signs -/

/-- The tokens of `j` more copies, each after a plus sign. -/
def plusCopies (n : Nat) : Nat → List (TokenKind × String)
  | 0 => []
  | j + 1 => plusSign :: (nestedSpelling n ++ plusCopies n j)

theorem plusCopies_no_comma (n j : Nat) : (plusCopies n j).head?.map Prod.fst ≠ some .comma := by
  cases j <;> simp [plusCopies, plusSign]

/-- Adding one to a 64-bit integer below the top of the range. -/
theorem apply_add_one {a : Nat} (fits : (a : Int) + 1 ≤ Decimal.int64Max) (line : Nat) :
    BinaryOperator.add.apply (.integer (Int64.ofNat a)) (.integer 1) line =
      .ok (.integer (Int64.ofNat (a + 1))) := by
  have top : Decimal.int64Max = 9223372036854775807 := rfl
  have bottom : Decimal.int64Min = -9223372036854775808 := rfl
  have exact : (Int64.ofNat a).toInt = a :=
    Int64.toInt_ofNat_of_lt (show a < 9223372036854775808 by omega)
  have inRange : Decimal.int64Min ≤ (a : Int) + 1 ∧ (a : Int) + 1 ≤ Decimal.int64Max :=
    ⟨by omega, fits⟩
  have one : (1 : Int64).toInt = 1 := rfl
  have notRelational : BinaryOperator.add.isRelational = false := rfl
  simp only [BinaryOperator.apply, notRelational, Bool.false_eq_true, if_false,
    BinaryOperator.computeValues, BinaryOperator.integerArithmetic, checkedInteger, exact, one]
  rw [if_pos inRange, ← Int64.ofInt_eq_ofNat, Int.natCast_add, Int.natCast_one]

namespace Parse

variable {operand : Cursor → Attempt ExprMatch} {bound : Nat}

/-- `tighten` keeps its operand when no operator binding more tightly follows it. -/
theorem tighten_of_not_tighter {op : BinaryOperator} {right : ExprMatch}
    (looser : ∀ following, operatorAt? right.next = some following →
      following.precedence ≤ op.precedence) :
    tighten operand bound op right = .ok right := by
  rw [tighten]
  split
  · rfl
  · rename_i following onOperator
    rw [if_neg (by have := looser following onOperator; omega)]

end Parse

namespace Dispatch

variable {order : Order} {bindings : Bindings} {levels : Nat}

/-- With enough levels for one copy, `climb` reads `j` more copies after plus signs, adding
one for each, and ends at the end of the view. The induction is on `j`, with the match read
so far generalised. -/
theorem climb_plusCopies (shape : order.OperandsAfterBinary) (bindings : Bindings) {n : Nat}
    (enough : 2 * n + 1 ≤ levels) (bound : Nat) :
    ∀ (j : Nat) (left : ExprMatch) (a : Nat), left.next.Reads (plusCopies n j) →
      left.next.stop = bound → left.value = .integer (Int64.ofNat a) →
      (a : Int) + j ≤ Decimal.int64Max →
      ∃ r, Parse.climb ((withLevels order bindings levels).operand ExprRule.binaryOperation.name)
          bound 1 left = .ok r ∧ r.value = .integer (Int64.ofNat (a + j)) ∧
        r.next = { left.next with index := left.next.index + (plusCopies n j).length } := by
  intro j
  induction j with
  | zero =>
    intro left a reads _ value _
    refine ⟨left, ?_, value, by simp [plusCopies]⟩
    rw [Parse.climb]
    simp [Parse.operatorAt?, reads.kind?_nil]
  | succ j inductionHypothesis =>
    intro left a reads stop value fits
    have onPlus : Parse.operatorAt? left.next = some .add := by
      simp [Parse.operatorAt?, reads.kind?_cons, BinaryOperator.ofKind?]
    have copy : left.next.advance.Reads (nestedSpelling n ++ plusCopies n j) := reads.advance
    have read := operand_nested shape bindings n levels left.next.advance (plusCopies n j) copy
      (plusCopies_no_comma n j)
    rw [if_pos enough] at read
    obtain ⟨right, read, rightValue, rightNext⟩ := read
    have afterRight : right.next.Reads (plusCopies n j) := by
      rw [rightNext, ← length_nestedSpelling]
      exact copy.drop
    have progress : left.next.index < right.next.index ∧ right.next.index ≤ bound := by
      have := afterRight.ends
      rw [rightNext, reads.advance_cons] at this ⊢
      dsimp only at this ⊢
      omega
    have tightened : Parse.tighten ((withLevels order bindings levels).operand
        ExprRule.binaryOperation.name) bound .add right = .ok right := by
      apply Parse.tighten_of_not_tighter
      intro following onOperator
      cases j with
      | zero => simp [Parse.operatorAt?, afterRight.kind?_nil] at onOperator
      | succ j =>
        simp [Parse.operatorAt?, afterRight.kind?_cons, BinaryOperator.ofKind?] at onOperator
        rw [← onOperator]
    have added := apply_add_one (a := a) (by omega) left.next.line
    rw [← value, ← rightValue] at added
    obtain ⟨joined, combined⟩ : ∃ joined, Parse.combine left .add right left.next.line = .ok joined := by
      simp only [Parse.combine, added]
      exact ⟨_, rfl⟩
    obtain ⟨joinedValue, joinedNext, -⟩ := Parse.combine_eq_ok combined
    rw [added, Except.ok.injEq] at joinedValue
    have moved : left.next.index < joined.next.index ∧ joined.next.index ≤ bound := by
      rw [joinedNext]
      exact progress
    obtain ⟨r, climbed, rValue, rNext⟩ := inductionHypothesis joined (a + 1)
      (by rw [joinedNext]; exact afterRight) (by rw [← stop, joinedNext, rightNext, reads.advance_cons])
      joinedValue.symm (by omega)
    refine ⟨r, ?_, by rw [rValue, show a + 1 + j = a + (j + 1) by omega], ?_⟩
    · rw [Parse.climb]
      simp only [onPlus, read, tightened, combined, progress, moved, if_true, and_self, dite_true,
        show 1 ≤ BinaryOperator.add.precedence from by decide]
      exact climbed
    · rw [rNext, joinedNext, rightNext, reads.advance_cons]
      simp only [plusCopies, List.length_cons, List.length_append, length_nestedSpelling]
      congr 1
      omega

/-- With `levels + 1` levels, a line of copies joined by plus signs reads as the number of
copies when one copy fits in `levels` levels, and otherwise fails with the nesting error. -/
theorem expression_copies (shape : order.OperandsAfterBinary) (bindings : Bindings) (levels : Nat)
    {n j : Nat} {c : Cursor}
    (reads : c.Reads (nestedSpelling n ++ plusCopies n j))
    (fits : 1 + (j : Int) ≤ Decimal.int64Max) :
    if 2 * n + 1 ≤ levels then
      ∃ m, (withLevels order bindings (levels + 1)).expression c = .ok (some m) ∧
        m.value = .integer (Int64.ofNat (1 + j)) ∧ m.next.atEnd = true
    else
      (withLevels order bindings (levels + 1)).expression c = .error (.parse (.nestingTooDeep c.line)) := by
  have first := operand_nested shape bindings n levels c (plusCopies n j) reads (plusCopies_no_comma n j)
  split
  · rename_i enough
    rw [if_pos enough] at first
    obtain ⟨first, read, value, next⟩ := first
    have rest : first.next.Reads (plusCopies n j) := by
      rw [next, ← length_nestedSpelling]
      exact reads.drop
    obtain ⟨r, climbed, rValue, rNext⟩ := climb_plusCopies shape bindings enough c.stop j first 1 rest
      (by rw [next]) value (by omega)
    obtain ⟨name, tail, expressions⟩ := shape.expressions_eq
    refine ⟨{ r with parser := name }, ?_, rValue, ?_⟩
    · rw [withLevels_succ_expression, expressions]
      apply firstMatch_cons_found
      show Parse.binaryOperation _ c = _
      rw [Parse.binaryOperation, read]
      simp only
      rw [climbed]
    · rw [rNext]
      exact rest.atEnd_drop
  · rename_i short
    rw [if_neg short] at first
    exact expression_of_operand_error shape first

end Dispatch

/-! ### The line as a statement -/

namespace Parse

variable {sub : Dispatch} {c : Cursor}

/-- A line that starts with neither a comment, a `#`, a word nor `if` is no comment, header,
condition or declaration. -/
theorem run_declines_of_operand_start {rule : StmtRule}
    (early : rule ∈ [.comment, .header, .condition, .declaration])
    (noComment : c.isAt .comment = false) (noHash : c.isAt .hash = false)
    (noWord : c.isAt .word = false) (noIf : c.isAt .ifKw = false) :
    rule.run sub c = .ok none := by
  have skipped : c.skipWords = c := Cursor.skipWords_of_not_isAt noWord
  simp only [List.mem_cons, List.not_mem_nil, or_false] at early
  rcases early with rfl | rfl | rfl | rfl
  · simp [StmtRule.run, comment, noComment]
  · simp [StmtRule.run, header, Cursor.skip?, noHash]
  · simp [StmtRule.run, condition, Cursor.skip?, skipped, noIf]
  · simp [StmtRule.run, declaration, noWord]

/-- The two calculation parsers, tried in turn, read what the expression dispatch reads, as a
statement with its value and end. -/
theorem calculations_of_expression {m : ExprMatch} (found : sub.expression c = .ok (some m)) :
    ∃ s, firstMatch (fun (rule : StmtRule) => rule.run sub c) (fun found name => { found with parser := name })
        [("ConditionalExpression", .conditionalExpression),
          ("NumericalExpression", .numericalExpression)] = .ok (some s) ∧
      s.value = some m.value ∧ s.next = m.next := by
  have numerical : numericalExpression sub c = .ok (some
      { node := .calculation m.node (c.spanTo m.next), value := some m.value, next := m.next,
        parser := "", declares := none }) := by
    rw [numericalExpression, found]
  rcases fast : conditionalExpression sub c with e | _ | s
  · have := (conditionalExpression_agrees sub c).2 e fast
    rw [numerical] at this
    cases this
  · rw [firstMatch_cons_declined _ StmtRule.conditionalExpression fast]
    exact ⟨_, firstMatch_cons_found _ StmtRule.numericalExpression numerical, rfl, rfl⟩
  · obtain ⟨m', read, sameValue, sameNext, -⟩ := (conditionalExpression_agrees sub c).1 s fast
    rw [numerical] at read
    cases read
    exact ⟨_, firstMatch_cons_found _ StmtRule.conditionalExpression fast, sameValue.symm,
      sameNext.symm⟩

theorem calculations_of_expression_error {e : InterpretError} (failed : sub.expression c = .error e) :
    firstMatch (fun (rule : StmtRule) => rule.run sub c) (fun found name => { found with parser := name })
        [("ConditionalExpression", .conditionalExpression),
          ("NumericalExpression", .numericalExpression)] = .error e := by
  apply firstMatch_cons_error
  show conditionalExpression sub c = .error e
  rw [conditionalExpression, failed]

end Parse

/-- The statement parsers of the built-in registry, in the order every culture tries them. -/
def builtinStatements : List (String × StmtRule) :=
  [("Comment", .comment), ("Header", .header), ("ConditionStatement", .condition),
    ("VariableDeclaration", .declaration), ("ConditionalExpression", .conditionalExpression),
    ("NumericalExpression", .numericalExpression)]

theorem nestedSpelling_head (n : Nat) :
    ∃ s rest, nestedSpelling n = s :: rest ∧ (s = openParen ∨ s = numberOne) := by
  cases n with
  | zero => exact ⟨numberOne, _, rfl, .inr rfl⟩
  | succ n => exact ⟨openParen, _, nestedSpelling_succ n, .inl rfl⟩

/-- In the built-in statement order, a line that starts with neither a comment, a `#`, a word
nor `if` is read by the two calculation parsers alone. -/
theorem Order.dispatch_statement_of_operand_start {order : Order}
    (statements : order.statements = builtinStatements) (bindings : Bindings) {c : Cursor}
    (startsOperand : ∀ kind ∈ [TokenKind.comment, .hash, .word, .ifKw], c.isAt kind = false) :
    (order.dispatch bindings).statement c =
      firstMatch (fun (rule : StmtRule) => rule.run (Dispatch.withLevels order bindings 127) c)
        (fun found name => { found with parser := name })
        [("ConditionalExpression", .conditionalExpression),
          ("NumericalExpression", .numericalExpression)] := by
  show firstMatch _ _ order.statements = _
  -- the four parsers before the two calculation parsers decline
  rw [statements, show builtinStatements = [("Comment", .comment), ("Header", .header),
      ("ConditionStatement", .condition), ("VariableDeclaration", .declaration)] ++
      [("ConditionalExpression", .conditionalExpression),
        ("NumericalExpression", .numericalExpression)] from rfl,
    firstMatch_append_of_declined]
  intro entry member
  simp only [List.mem_cons, List.not_mem_nil, or_false] at member
  exact Parse.run_declines_of_operand_start (by rcases member with rfl | rfl | rfl | rfl <;> simp)
    (startsOperand _ (by simp)) (startsOperand _ (by simp)) (startsOperand _ (by simp))
    (startsOperand _ (by simp))

/-- Such a line whose expression reads `m` has `m`'s value where `m` ends the line or a comment
follows it, and fails on the token after `m` otherwise. -/
theorem readLine_of_expression {order : Order}
    (statements : order.statements = builtinStatements) (bindings : Bindings) {c : Cursor}
    (notEnd : c.atEnd = false)
    (startsOperand : ∀ kind ∈ [TokenKind.comment, .hash, .word, .ifKw], c.isAt kind = false)
    {m : ExprMatch} (read : (Dispatch.withLevels order bindings 127).expression c = .ok (some m)) :
    (readLine order bindings c).1.1 =
      if !m.next.atEnd && !m.next.isAt .comment then
        .failed (.parse (.unexpectedTrailingTokens m.next.text c.line))
      else .value m.value := by
  obtain ⟨s, calculated, value, next⟩ := Parse.calculations_of_expression read
  rw [readLine, if_neg (by simp [notEnd]),
    Order.dispatch_statement_of_operand_start statements bindings startsOperand, calculated]
  simp only [next, value]
  split <;> rfl

/-- A line of `1 + j` copies of `n` nested groups joined by plus signs reads as the integer
`1 + j` when `n` is at most 62, and fails with the nesting error on its line otherwise. A
line's statement is read with 128 levels, its expression with 127 and its first operand with
126, and one copy of `n` groups takes `2 * n + 1` of them. -/
theorem readLine_copies {order : Order} (shape : order.OperandsAfterBinary)
    (statements : order.statements = builtinStatements) (bindings : Bindings) {n j : Nat}
    {c : Cursor} (reads : c.Reads (nestedSpelling n ++ plusCopies n j))
    (fits : 1 + (j : Int) ≤ Decimal.int64Max) :
    (readLine order bindings c).1.1 =
      if n ≤ 62 then .value (.integer (Int64.ofNat (1 + j)))
      else .failed (.parse (.nestingTooDeep c.line)) := by
  obtain ⟨s, tail, spelled, operandStart⟩ := nestedSpelling_head n
  have first : c.Reads (s :: (tail ++ plusCopies n j)) := by
    rw [← List.cons_append, ← spelled]
    exact reads
  have notEnd : c.atEnd = false := by
    have := first.ends
    simp only [List.length_cons] at this
    simp [Cursor.atEnd]
    omega
  have startsOperand : ∀ kind ∈ [TokenKind.comment, .hash, .word, .ifKw], c.isAt kind = false := by
    intro kind member
    obtain ⟨kind', text⟩ := s
    rw [first.isAt_cons]
    simp only [List.mem_cons, List.not_mem_nil, or_false] at member
    rcases operandStart with same | same <;> cases same <;>
      rcases member with rfl | rfl | rfl | rfl <;> rfl
  have line := Dispatch.expression_copies shape bindings 126 reads fits
  by_cases small : n ≤ 62
  · rw [if_pos (by omega)] at line
    obtain ⟨m, read, value, atEnd⟩ := line
    rw [if_pos small, readLine_of_expression statements bindings notEnd startsOperand read,
      if_neg (by simp [atEnd]), value]
  · rw [if_neg (by omega)] at line
    rw [if_neg small, readLine, if_neg (by simp [notEnd]),
      Order.dispatch_statement_of_operand_start statements bindings startsOperand,
      Parse.calculations_of_expression_error line]

end Reckon
