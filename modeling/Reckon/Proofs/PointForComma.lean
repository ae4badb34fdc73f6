import Mathlib.Data.List.Forall2
import Reckon.Proofs.DecimalComma
import Reckon.Proofs.NestingLimit
import Reckon.Proofs.Conditions
import Reckon.Proofs.IntegerLiterals

/-!
Contract: in a culture that reads decimal commas, a document reads the same with a point for
the comma of a comma-joined pair, except where the pair is the first extra token after a
statement.

At every nesting level the parsers read the tokens of the text and the tokens with the pair
joined alike (`Dispatch.withLevels_readsJoined`). A line then has the same parser and
declaration in both texts, and the same outcome but in one place, where the two texts show the
line different tokens: a statement that ends right before the pair fails on the extra tokens
after it, and each text names the token it met there, the pair's first number or the number
with the point (`LineResult.ReadsAsPoint`). The two streams cut the same lines
(`TokenStream.ofSource_point_for_comma`), so each line is read under the same variables, and
the document ends with the same variables.

Of the cultures of the built-in registry, those whose expression parsers include the
decimal-comma reading try every expression rule in the order `ExprRule.all` lists them
(`builtin_decimalComma_order`), which is the order the step lemma asks for.

The pair must not stand right after a minus sign where an operand starts. A line that starts
with a minus sign right against a number reads the negative literal before any parser looks for
a comma after the number (`readLine_at_attached_minus`), so in French `-12,5` fails on its comma
where `-12.5` reads as a real. After a token no operand follows, such as a number, a minus sign
is the binary operator and no dispatch starts on it, so `3-12,5` reads as `3-12.5` does.

Owns: `LineResult.ReadsAsPoint`, `TokenStream.Joined` and the facts above.
Does not own: what each parser reads (`Reckon.Proofs.DecimalComma`), the scan
(`Reckon.Proofs.CommaScan`).
-/

namespace Reckon

/-! ### Outcomes read alike -/

/-- Two outcomes of one line, read in a text with a comma-joined pair and in the same text with
a point for its comma: the same outcome, or the failure on the extra tokens after a statement
that ends right before the pair, naming the pair's first number in the one text and the number
with the point in the other. -/
inductive LineResult.ReadsAsPoint (pair : CommaPair) : LineResult → LineResult → Prop
  | same (result : LineResult) : ReadsAsPoint pair result result
  | extraPair (line : Nat) :
    ReadsAsPoint pair (.failed (.parse (.unexpectedTrailingTokens pair.first.text line)))
      (.failed (.parse (.unexpectedTrailingTokens (pair.first.text ++ "." ++ pair.second.text) line)))

/-- A line read in the two texts: outcomes read alike, and the same parser and declaration. -/
structure LineReadsAsPoint (pair : CommaPair)
    (read read' : (LineResult × Option String) × Option (String × Value)) : Prop where
  result : LineResult.ReadsAsPoint pair read.1.1 read'.1.1
  parser : read'.1.2 = read.1.2
  declares : read'.2 = read.2

/-- One line of the two documents: the same number and parser, and outcomes read alike. -/
structure LineOutcome.ReadsAsPoint (pair : CommaPair) (outcome outcome' : LineOutcome) : Prop where
  line : outcome'.line = outcome.line
  parser : outcome'.parser = outcome.parser
  result : LineResult.ReadsAsPoint pair outcome.result outcome'.result

/-- The two documents: their lines read alike one by one, and the same final variables. -/
structure DocumentResult.ReadsAsPoint (pair : CommaPair) (d d' : DocumentResult) : Prop where
  lines : List.Forall₂ (LineOutcome.ReadsAsPoint pair) d.lines d'.lines
  bindings : d'.bindings = d.bindings

/-! ### A line -/

section Lines

variable {pair : CommaPair} {order : Order}

/-- A line read from places that stand alike has the same parser and declaration, and the same
outcome unless its statement ends right before the pair. -/
theorem readLine_readsAsPoint
    (commaOrder : order.expressions = ExprRule.all.map fun rule => (rule.name, rule))
    (bindings : Bindings) {c c' : Cursor} (joined : c.Joined pair c')
    (start : pair.MayStartAt c.index) :
    LineReadsAsPoint pair (readLine order bindings c) (readLine order bindings c') := by
  have reads : (order.dispatch bindings).ReadsJoined pair :=
    Dispatch.withLevels_readsJoined commaOrder bindings maxNestingDepth
  rw [readLine, readLine, joined.atEnd, joined.line]
  generalize order.dispatch bindings = d at reads ⊢
  split
  · exact ⟨.same _, rfl, rfl⟩
  · have parsed := reads.statement joined start
    generalize d.statement c = found? at parsed ⊢
    generalize d.statement c' = found'? at parsed ⊢
    rcases parsed with e | ⟨@⟨found, found', foundJoined⟩ | _⟩
    · exact ⟨.same _, rfl, rfl⟩
    · dsimp only
      rw [← foundJoined.next.atEnd, ← foundJoined.next.isAt, foundJoined.declares,
        foundJoined.value, foundJoined.parser]
      by_cases on : found'.next.OnJoined pair
      · -- the statement ends right before the pair, which is no comment and not the end
        have onFirst := (foundJoined.next.token?_of_onJoined on).1
        have inside := foundJoined.next.inside_iff.mpr on.2
        have extra : (!found.next.atEnd && !found.next.isAt .comment) = true := by
          simp [Cursor.atEnd, Cursor.isAt, Cursor.kind?, onFirst, pair.joined.firstNumber, inside]
        rw [if_pos extra, if_pos extra, Cursor.text_of_token? onFirst,
          Cursor.text_of_token? (foundJoined.next.token?_of_onJoined on).2]
        exact ⟨.extraPair _, rfl, rfl⟩
      · rw [foundJoined.next.text_of_away on]
        exact ⟨.same _, rfl, rfl⟩
    · exact ⟨.same _, rfl, rfl⟩

end Lines

/-! ### Documents -/

/-- Streams of a text with a comma-joined pair and of the text with a point for its comma: the
pair's tokens and the joined tokens, and the same lines, each range lifted past the pair and
starting where a dispatch may start. -/
structure TokenStream.Joined (pair : CommaPair) (S S' : TokenStream) : Prop where
  tokens : S.tokens.toList = pair.tokens
  joinedTokens : S'.tokens.toList = pair.joinedTokens
  lines : S.lines.toList = S'.lines.toList.map fun range =>
    (liftIndex pair.position range.1, liftIndex pair.position range.2)
  starts : ∀ range ∈ S.lines.toList, pair.MayStartAt range.1

/-- A line of a text starts where a dispatch may start, at the first token or after a line
break. -/
theorem CommaPair.mayStartAt_lineStart (pair : CommaPair) {text : String}
    (scanned : Token.scan text = pair.tokens) :
    ∀ range ∈ (TokenStream.ofSource text).lines.toList, pair.MayStartAt range.1 := by
  intro range member _ leading positive atLeading
  have afterBreak := TokenStream.lineRanges_start_after_break (Token.scan text) _ 0 0 rfl
    (fun _ none => absurd none (Nat.lt_irrefl 0)) range
    (by simpa [TokenStream.ofSource] using member) leading positive (by rw [scanned]; exact atLeading)
  rw [afterBreak]
  rfl

namespace TokenStream.Joined

variable {pair : CommaPair} {order : Order} {S S' : TokenStream}

theorem lineCount (streams : S.Joined pair S') : S.lineCount = S'.lineCount := by
  rw [TokenStream.lineCount, TokenStream.lineCount, ← Array.length_toList, ← Array.length_toList,
    streams.lines, List.length_map]

/-- Each line starts at places that stand alike, where a dispatch may start. -/
theorem line? (streams : S.Joined pair S') (index : Nat) :
    Option.Rel (fun c c' => c.Joined pair c' ∧ pair.MayStartAt c.index) (S.line? index)
      (S'.line? index) := by
  unfold TokenStream.line?
  have starts := streams.starts
  rw [← Array.getElem?_toList, ← Array.getElem?_toList]
  rw [streams.lines] at starts ⊢
  rw [List.getElem?_map]
  cases found : S'.lines.toList[index]? with
  | none => exact .none
  | some range =>
    refine .some ⟨⟨streams.tokens, streams.joinedTokens, rfl, rfl, rfl, rfl⟩, ?_⟩
    exact starts _ (List.mem_map_of_mem (List.mem_of_getElem? found))

/-- Every line is read under the same variables, since the lines above it declare the same. -/
theorem visibleBindings
    (commaOrder : order.expressions = ExprRule.all.map fun rule => (rule.name, rule))
    (streams : S.Joined pair S') : ∀ index,
      Reckon.visibleBindings order S' index = Reckon.visibleBindings order S index
  | 0 => rfl
  | index + 1 => by
    rw [Reckon.visibleBindings.eq_2, Reckon.visibleBindings.eq_2]
    have earlier := visibleBindings commaOrder streams index
    have atLine := streams.line? index
    generalize S.line? index = c? at atLine ⊢
    generalize S'.line? index = c'? at atLine ⊢
    cases atLine with
    | none => exact earlier
    | some lineStart =>
      dsimp only
      rw [earlier, (readLine_readsAsPoint commaOrder _ lineStart.1 lineStart.2).declares]

theorem lineOutcome
    (commaOrder : order.expressions = ExprRule.all.map fun rule => (rule.name, rule))
    (streams : S.Joined pair S') (index : Nat) :
    Option.Rel (LineOutcome.ReadsAsPoint pair) (Reckon.lineOutcome order S index)
      (Reckon.lineOutcome order S' index) := by
  unfold Reckon.lineOutcome
  rw [streams.visibleBindings commaOrder index]
  have atLine := streams.line? index
  generalize S.line? index = c? at atLine ⊢
  generalize S'.line? index = c'? at atLine ⊢
  cases atLine with
  | none => exact .none
  | @some c c' lineStart =>
    have read := readLine_readsAsPoint commaOrder (Reckon.visibleBindings order S index)
      lineStart.1 lineStart.2
    rw [Option.map_some, Option.map_some]
    generalize readLine order (Reckon.visibleBindings order S index) c = lineRead at read ⊢
    generalize readLine order (Reckon.visibleBindings order S index) c' = lineRead' at read ⊢
    obtain ⟨⟨result, parser⟩, declares⟩ := lineRead
    obtain ⟨⟨result', parser'⟩, declares'⟩ := lineRead'
    exact .some ⟨rfl, read.parser, read.result⟩

end TokenStream.Joined

/-- The cultures of the built-in registry whose expression parsers include the decimal-comma
reading try every expression rule, in the order `ExprRule.all` lists them. -/
theorem builtin_decimalComma_order {r : Registry} (built : RegistryBuilder.builtin.build = .ok r)
    {culture : String}
    (commaCulture : ("DecimalComma", ExprRule.decimalComma) ∈ (r.order culture).expressions) :
    (r.order culture).expressions = ExprRule.all.map fun rule => (rule.name, rule) := by
  have shapes : (RegistryBuilder.builtin.build).toOption.map (fun r =>
      (r.expressions.fallback :: r.expressions.partitions.map Prod.snd).all fun order =>
        decide (("DecimalComma", ExprRule.decimalComma) ∈ order.filterMap (fun index =>
            r.expressions.parsers[index]?.map fun d => (d.name, d.rule)) →
          order.filterMap (fun index => r.expressions.parsers[index]?.map fun d => (d.name, d.rule)) =
            ExprRule.all.map fun rule => (rule.name, rule))) = some true := by
    -- lower-casing the culture tags is the one step the kernel does not evaluate
    simp only [RegistryBuilder.build, ParserSet.build, cultureTags, toLower_eq_ofList]
    decide +kernel
  have builtSome : (RegistryBuilder.builtin.build).toOption = some r := by rw [built]; rfl
  rw [builtSome, Option.map_some, Option.some.injEq, List.all_eq_true] at shapes
  exact of_decide_eq_true (shapes _ (r.expressions.resolve_mem culture)) commaCulture


/-- French is one of the cultures of the built-in registry that read decimal commas. -/
theorem builtin_french_decimalComma {r : Registry} (built : RegistryBuilder.builtin.build = .ok r) :
    ("DecimalComma", ExprRule.decimalComma) ∈ (r.order "fr").expressions := by
  have french : (RegistryBuilder.builtin.build).toOption.map (fun r =>
      decide (("DecimalComma", ExprRule.decimalComma) ∈ (r.order "fr").expressions)) = some true := by
    simp only [RegistryBuilder.build, ParserSet.build, cultureTags, Registry.order,
      ParserSet.ordered, ParserSet.resolve, toLower_eq_ofList]
    decide +kernel
  rw [built] at french
  exact of_decide_eq_true (Option.some.inj french)

/-- **A decimal comma reads as a point.** In a culture of the built-in registry that reads
decimal commas, take a text with two digit runs joined by a comma with no blanks around it,
the first run not the fraction of another such pair and with no minus sign right against it
where an operand starts, as the first token or after a token an operand may follow.
Written with a point for that comma, the text reads line by line with the same parsers and the
same outcomes, and ends with the same variables. The one difference is a statement that ends
right before the pair: its line fails on the extra tokens, naming the pair's first digit run in
the one text and the number with the point in the other. -/
theorem decimal_comma_reads_as_point {r : Registry} (built : RegistryBuilder.builtin.build = .ok r)
    {culture : String}
    (commaCulture : ("DecimalComma", ExprRule.decimalComma) ∈ (r.order culture).expressions)
    (pair : CommaPair) (pre post : String)
    (scanned : Token.scan (pre ++ pair.first.text ++ "," ++ pair.second.text ++ post) = pair.tokens)
    (located : pair.first.offset = pre.utf8ByteSize) (cancelled : Bool) :
    ExceptRel (DocumentResult.ReadsAsPoint pair)
      (r.interpret (pre ++ pair.first.text ++ "," ++ pair.second.text ++ post) culture cancelled)
      (r.interpret (pre ++ pair.first.text ++ "." ++ pair.second.text ++ post) culture cancelled) := by
  cases cancelled with
  | true =>
    simp only [Registry.interpret, if_true]
    exact .error _
  | false =>
    have commaOrder := builtin_decimalComma_order built commaCulture
    obtain ⟨tokens, joinedTokens, lines⟩ :=
      TokenStream.ofSource_point_for_comma pair.joined scanned located
    have streams : (TokenStream.ofSource (pre ++ pair.first.text ++ "," ++ pair.second.text ++ post)).Joined
        pair (TokenStream.ofSource (pre ++ pair.first.text ++ "." ++ pair.second.text ++ post)) :=
      ⟨tokens, joinedTokens, lines, pair.mayStartAt_lineStart scanned⟩
    rw [interpret_eq, interpret_eq, streams.lineCount]
    refine .ok ⟨?_, streams.visibleBindings commaOrder _⟩
    -- the two documents number the same lines, and each is read alike
    exact List.rel_filterMap (fun index _ same => by subst same; exact streams.lineOutcome commaOrder index)
      (List.forall₂_same.mpr fun _ _ => rfl)

/-- The pair of the text `12,5`. -/
def twelveCommaFive : CommaPair where
  before := []
  first := ⟨.number, 0, 2, 0, 1, "12", ""⟩
  comma := ⟨.comma, 2, 1, 0, 1, ",", ""⟩
  second := ⟨.number, 3, 1, 0, 1, "5", ""⟩
  after := []
  joined := ⟨rfl, by decide, rfl, rfl, rfl, by decide, rfl⟩
  notFraction _ _ _ split := by simp at split
  notNegative _ _ split := by simp at split

/-- In French, `12,5` reads as `12.5` does. -/
theorem twelve_comma_five_reads_as_twelve_point_five :
    ∃ r, RegistryBuilder.builtin.build = .ok r ∧
      ("DecimalComma", ExprRule.decimalComma) ∈ (r.order "fr").expressions ∧
      Token.scan ("" ++ twelveCommaFive.first.text ++ "," ++ twelveCommaFive.second.text ++ "") =
        twelveCommaFive.tokens ∧
      twelveCommaFive.first.offset = "".utf8ByteSize ∧
      ExceptRel (DocumentResult.ReadsAsPoint twelveCommaFive)
        (r.interpret ("" ++ twelveCommaFive.first.text ++ "," ++ twelveCommaFive.second.text ++ "")
          "fr" false)
        (r.interpret ("" ++ twelveCommaFive.first.text ++ "." ++ twelveCommaFive.second.text ++ "")
          "fr" false) := by
  obtain ⟨r, built, -⟩ := builtin_orders
  have chars : ("" ++ twelveCommaFive.first.text ++ "," ++ twelveCommaFive.second.text ++ "").toList =
      '1' :: (['2'] ++ ',' :: ['5']) := by decide
  have scanned : Token.scan ("" ++ twelveCommaFive.first.text ++ "," ++ twelveCommaFive.second.text ++ "") =
      twelveCommaFive.tokens := by
    rw [Token.scan, chars, Token.scanFrom_digits_comma (show '1'.isDigit = true from rfl)
      (List.forall_mem_singleton.mpr (show '2'.isDigit = true from rfl)),
      Token.scanFrom_comma, Token.scanFrom_cons_token _ _ _ (Token.front_of_digit (c := '5') rfl []),
      List.drop_nil, Token.scanFrom.eq_1]
    decide
  exact ⟨r, built, builtin_french_decimalComma built, scanned, rfl,
    decimal_comma_reads_as_point built (builtin_french_decimalComma built) twelveCommaFive "" ""
      scanned rfl false⟩

/-! ### A minus sign against the pair -/

/-- In the built-in statement order, a line that starts with a minus sign right against a
number reads the negative literal as its first operand, and no parser looks past the number
for a decimal comma: where no operator follows the number, the line fails on the token after
it, unless that token ends the line or is a comment, and has the literal's value otherwise. -/
theorem readLine_at_attached_minus {order : Order}
    (statements : order.statements = builtinStatements) (operands : order.OperandsAfterBinary)
    (bindings : Bindings) {c number : Cursor} (onMinus : c.kind? = some .minus)
    (following : c.next? = some number)
    (attached : (number.isAt .number && !number.hasLeadingWhitespace) = true) {v : Value}
    (read : Parse.readNumber number.text true c.line = .ok v)
    (last : Parse.operatorAt? number.advance = none) :
    (readLine order bindings c).1.1 =
      if !number.advance.atEnd && !number.advance.isAt .comment then
        .failed (.parse (.unexpectedTrailingTokens number.advance.text c.line))
      else .value v := by
  have found : Parse.data c = .ok (some
      { node := .literal v (c.spanTo number.advance), value := v, next := number.advance,
        parser := "" }) := by
    rw [Parse.data_at_attached_minus onMinus following attached, read]
    rfl
  have isAt := Cursor.isAt_eq_of_kind? onMinus
  have startsOperand : ∀ kind ∈ [TokenKind.comment, .hash, .word, .ifKw], c.isAt kind = false := by
    intro kind member
    simp only [List.mem_cons, List.not_mem_nil, or_false] at member
    rw [isAt]
    rcases member with rfl | rfl | rfl | rfl <;> rfl
  obtain ⟨_, expression⟩ := Dispatch.expression_of_data operands bindings 125
    (by rw [isAt]; rfl) (by rw [isAt]; rfl) (by rw [isAt]; rfl) found last
  exact readLine_of_expression statements bindings (Cursor.atEnd_eq_false_of_kind? onMinus)
    startsOperand expression

/-- The line `-12,5`: a minus sign right against `12`, then a comma and `5`. -/
def minusTwelveCommaFive : Cursor :=
  { stream :=
      { tokens := #[⟨.minus, 0, 1, 0, 1, "-", ""⟩, ⟨.number, 1, 2, 0, 1, "12", ""⟩,
          ⟨.comma, 3, 1, 0, 1, ",", ""⟩, ⟨.number, 4, 1, 0, 1, "5", ""⟩]
        lines := #[(0, 4)] }
    index := 0, start := 0, stop := 4, line := 1 }

/-- The line `-12.5`: a minus sign right against `12.5`. -/
def minusTwelvePointFive : Cursor :=
  { stream :=
      { tokens := #[⟨.minus, 0, 1, 0, 1, "-", ""⟩, ⟨.number, 1, 4, 0, 1, "12.5", ""⟩]
        lines := #[(0, 2)] }
    index := 0, start := 0, stop := 2, line := 1 }

/-- In French, `-12,5` fails on its comma, where `-12.5` reads as a real: the minus sign takes
`12` as a negative integer and leaves the comma and `5` over. -/
theorem minus_twelve_comma_five_fails_at_the_comma :
    ∃ r, RegistryBuilder.builtin.build = .ok r ∧
      ("DecimalComma", ExprRule.decimalComma) ∈ (r.order "fr").expressions ∧ ∃ d d',
      r.interpret "-12,5" "fr" false = .ok d ∧
      (d.lines[0]?).map LineOutcome.result =
        some (.failed (.parse (.unexpectedTrailingTokens "," 1))) ∧
      r.interpret "-12.5" "fr" false = .ok d' ∧
      ∃ x, (d'.lines[0]?).map LineOutcome.result = some (.value (.real x)) := by
  obtain ⟨r, built, orders⟩ := builtin_orders
  obtain ⟨statements, operands⟩ := orders "fr"
  have commaLine : (TokenStream.ofSource "-12,5").line? 0 = some minusTwelveCommaFive := by
    have chars : "-12,5".toList = '-' :: '1' :: (['2'] ++ ',' :: ['5']) := by decide
    rw [TokenStream.ofSource, Token.scan, chars, Token.scanFrom_minus,
      Token.scanFrom_digits_comma (show '1'.isDigit = true from rfl)
        (List.forall_mem_singleton.mpr (show '2'.isDigit = true from rfl)),
      Token.scanFrom_comma, Token.scanFrom_cons_token _ _ _ (Token.front_of_digit (c := '5') rfl []),
      List.drop_nil, Token.scanFrom.eq_1]
    rfl
  have pointLine : (TokenStream.ofSource "-12.5").line? 0 = some minusTwelvePointFive := by
    have chars : "-12.5".toList = '-' :: '1' :: (['2'] ++ '.' :: '5' :: ([] ++ [])) := by decide
    rw [TokenStream.ofSource, Token.scan, chars, Token.scanFrom_minus,
      Token.scanFrom_digits_point (show '1'.isDigit = true from rfl)
        (List.forall_mem_singleton.mpr (show '2'.isDigit = true from rfl))
        (show '5'.isDigit = true from rfl) (List.forall_mem_nil _) rfl, Token.scanFrom.eq_1]
    rfl
  obtain ⟨d, interpreted, outcome⟩ := interpret_first_line r "fr" "-12,5" commaLine
  obtain ⟨d', interpreted', outcome'⟩ := interpret_first_line r "fr" "-12.5" pointLine
  obtain ⟨x, readX⟩ := Option.isSome_iff_exists.mp
    (show (Decimal.readFloat? "12.5").isSome = true by decide)
  refine ⟨r, built, builtin_french_decimalComma built, d, d', interpreted, ?_, interpreted', -x, ?_⟩
  · -- the literal `-12` ends at the comma
    rw [outcome, readLine_at_attached_minus statements operands .empty
      (show minusTwelveCommaFive.kind? = some .minus by decide) rfl (by decide)
      (show Parse.readNumber "12" true 1 = .ok (.integer (-12)) from rfl) (by decide)]
    rfl
  · -- the literal `-12.5` ends the line
    rw [outcome', readLine_at_attached_minus statements operands .empty
      (show minusTwelvePointFive.kind? = some .minus by decide) rfl (by decide)
      (show Parse.readNumber "12.5" true 1 = .ok (.real (-x)) by
        rw [Parse.readNumber, if_pos (by decide), readX]
        rfl)
      (by decide)]
    rfl

end Reckon
