import Reckon.Proofs.NestedGroups
import Reckon.Proofs.LineBreaks
import Reckon.Proofs.Lines

/-!
Contract: the nesting limit depends only on how deeply a line nests.

For the built-in registry, in every culture, a line of `k` copies of `(`ⁿ `1` `)`ⁿ joined by
` + ` reads as the integer `k` when `n ≤ 62` and fails with the nesting error on its own line
when `n ≥ 63`, wherever the line stands in a document and whatever `k` is
(`nesting_limit_depends_only_on_depth`). Nothing carries nesting over from one line to the
next or from one copy to the next: each line is read with a fresh dispatch of 128 levels, and
the copies are read one after the other at the same level.

Three facts meet here. The line scans to the tokens of its copies and plus signs, from any
offset and after any blanks (`Token.spells_nestedSum`). A line that follows nothing or a line
feed, and is followed by nothing or a line feed, is the document's line numbered by the line
feeds before it, and its cursor reads exactly those tokens (`TokenStream.line?_around_line`).
Every culture's order of the built-in registry tries the statement parsers in one order and
starts its expression parsers with the binary parser, followed by operand parsers only
(`builtin_orders`). The count of levels itself is `readLine_copies`.

Owns: the texts of the line, `Token.Spells` and the facts above.
Does not own: how the line's tokens are read (`Reckon.Proofs.NestedGroups`).
-/

namespace Reckon

/-! ### Scanning the line -/

/-- One copy of `n` nested groups around the number one: `(`ⁿ `1` `)`ⁿ. -/
def nestedText (n : Nat) : String :=
  String.ofList (List.replicate n '(' ++ '1' :: List.replicate n ')')

/-- `k` copies of `n` nested groups, joined by ` + `. -/
def nestedSum (n k : Nat) : String :=
  " + ".intercalate (List.replicate k (nestedText n))

namespace Token

/-- The characters of `j` more copies, each after ` + `. -/
def plusChars (n : Nat) : Nat → List Char
  | 0 => []
  | j + 1 => ' ' :: '+' :: ' ' :: ((nestedText n).toList ++ plusChars n j)

theorem toList_nestedSum (n j : Nat) :
    (nestedSum n (j + 1)).toList = (nestedText n).toList ++ plusChars n j := by
  induction j with
  | zero => simp [nestedSum, plusChars]
  | succ j inductionHypothesis =>
    rw [nestedSum, List.replicate_succ, String.intercalate_cons_of_ne_nil (by simp),
      String.toList_append, String.toList_append, ← nestedSum, inductionHypothesis]
    simp [plusChars]

theorem lineFeed_not_mem_plusChars (n : Nat) : ∀ j, '\n' ∉ plusChars n j
  | 0 => List.not_mem_nil
  | j + 1 => by
    simp only [plusChars, List.mem_cons, List.mem_append, not_or]
    exact ⟨by decide, by decide, by decide, by simp [nestedText], lineFeed_not_mem_plusChars n j⟩

/-- `cs` scans to tokens spelled `spellings`, whatever the offset, line and blanks before it. -/
def Spells (cs : List Char) (spellings : List (TokenKind × String)) : Prop :=
  ∀ offset line gap, (scanFrom cs offset line gap).map Token.spelling = spellings

variable {cs : List Char} {spellings : List (TokenKind × String)}

theorem spells_nil : Spells [] [] := fun _ _ _ => by
  rw [scanFrom.eq_1]
  rfl

/-- A character that is a token of its own. -/
theorem Spells.token {c : Char} {kind : TokenKind} (found : ∀ rest, front c rest = (some kind, 0))
    (rest : Spells cs spellings) : Spells (c :: cs) ((kind, String.ofList [c]) :: spellings) :=
  fun offset line gap => by
    rw [scanFrom_cons_token offset line gap (found cs), List.map_cons, List.drop_zero, rest]
    rfl

/-- A blank before a character that is no blank. -/
theorem Spells.blank (noBlank : cs.takeWhile isBlank = []) (rest : Spells cs spellings) :
    Spells (' ' :: cs) spellings := fun offset line gap => by
  rw [scanFrom_cons_skip offset line gap (show front ' ' cs = (none, 0) by
    simp only [front, noBlank]; rfl), List.drop_zero, rest]

theorem Spells.openParens (m : Nat) (rest : Spells cs spellings) :
    Spells (List.replicate m '(' ++ cs) (List.replicate m openParen ++ spellings) := by
  induction m with
  | zero => exact rest
  | succ m inductionHypothesis =>
    rw [List.replicate_succ, List.replicate_succ, List.cons_append, List.cons_append]
    exact inductionHypothesis.token fun _ => rfl

theorem Spells.closeParens (m : Nat) (rest : Spells cs spellings) :
    Spells (List.replicate m ')' ++ cs) (List.replicate m closeParen ++ spellings) := by
  induction m with
  | zero => exact rest
  | succ m inductionHypothesis =>
    rw [List.replicate_succ, List.replicate_succ, List.cons_append, List.cons_append]
    exact inductionHypothesis.token fun _ => rfl

/-- A copy followed by nothing or by a blank scans to its tokens. -/
theorem Spells.nested (n : Nat) (rest : Spells cs spellings)
    (after : cs = [] ∨ ∃ more, cs = ' ' :: more) :
    Spells ((nestedText n).toList ++ cs) (nestedSpelling n ++ spellings) := by
  have ends : numberTail (List.replicate n ')' ++ cs) = 0 := by
    cases n with
    | succ n => rfl
    | zero => rcases after with rfl | ⟨more, rfl⟩ <;> rfl
  have closed := rest.closeParens n
  have one : Spells ('1' :: (List.replicate n ')' ++ cs)) (numberOne :: (List.replicate n closeParen ++ spellings)) :=
    fun offset line gap => by
      rw [scanFrom_cons_token offset line gap (show front '1' _ = (some .number, 0) by
        rw [show front '1' _ = (some .number, numberTail _) from rfl, ends]), List.map_cons,
        List.drop_zero, closed]
      rfl
  have opened := one.openParens n
  simp only [nestedText, nestedSpelling, String.toList_ofList, List.append_assoc, List.cons_append]
  exact opened

theorem spells_plusChars (n : Nat) : ∀ j, Spells (plusChars n j) (plusCopies n j)
  | 0 => spells_nil
  | j + 1 => by
    have copy := (spells_plusChars n j).nested n (by cases j <;> simp [plusChars])
    have spaced := copy.blank (by cases n <;> simp [nestedText, List.replicate_succ, isBlank])
    show Spells (' ' :: '+' :: _) (plusSign :: _)
    exact (Spells.token (c := '+') (fun _ => rfl) spaced).blank rfl

/-- The line of `k` copies scans to the tokens of its copies and plus signs. -/
theorem spells_nestedSum (n j : Nat) :
    Spells (nestedSum n (j + 1)).toList (nestedSpelling n ++ plusCopies n j) := by
  rw [toList_nestedSum]
  exact (spells_plusChars n j).nested n (by cases j <;> simp [plusChars])

end Token

/-! ### The line inside a document -/

namespace TokenStream

open Token

theorem lineRanges_of_no_lineBreak : ∀ (tokens : List Token) (start index : Nat),
    (∀ token ∈ tokens, token.kind ≠ .newLine) →
      lineRanges tokens start index = [(start, index + tokens.length)]
  | [], start, index, _ => rfl
  | token :: tokens, start, index, noBreak => by
    have notBreak : (token.kind == .newLine) = false := by
      simpa using noBreak token List.mem_cons_self
    rw [lineRanges, if_neg (by simp [notBreak]), lineRanges_of_no_lineBreak tokens start (index + 1)
      fun other member => noBreak other (List.mem_cons_of_mem _ member)]
    simp only [List.length_cons]
    rw [Nat.add_assoc, Nat.add_comm 1]

/-- A line without line breaks, followed by nothing or by a line break, is the first line
of what follows its start. -/
theorem lineRanges_line_first {line after : List Token} (start : Nat)
    (noBreak : ∀ token ∈ line, token.kind ≠ .newLine)
    (ends : after = [] ∨ ∃ lineBreak rest, after = lineBreak :: rest ∧ lineBreak.kind = .newLine) :
    ∃ more, lineRanges (line ++ after) start start = (start, start + line.length) :: more := by
  rcases ends with rfl | ⟨lineBreak, rest, rfl, isBreak⟩
  · exact ⟨[], by rw [List.append_nil, lineRanges_of_no_lineBreak line start start noBreak]⟩
  · refine ⟨lineRanges rest (start + line.length + 1) (start + line.length + 1), ?_⟩
    rw [lineRanges_append_lineBreak isBreak rest line start start,
      lineRanges_of_no_lineBreak line start start noBreak, List.singleton_append]

/-- Scanning a text around a line: the tokens before it, those of the line scanned alone from
where the scanner reaches it, and nothing or a line break and more after it. -/
theorem scan_around_line {pre post : List Char} (line : List Char)
    (before : pre = [] ∨ ∃ above, pre = above ++ ['\n'])
    (after : post = [] ∨ ∃ below, post = '\n' :: below) :
    ∃ front offset lineNumber back,
      scanFrom (pre ++ line ++ post) 0 1 [] = front ++ scanFrom line offset lineNumber [] ++ back ∧
      (front = [] ∧ pre = [] ∨ ∃ tokens lineBreak, front = tokens ++ [lineBreak] ∧
        lineBreak.kind = .newLine ∧ (lineRanges tokens 0 0).length = pre.count '\n') ∧
      (back = [] ∨ ∃ lineBreak rest, back = lineBreak :: rest ∧ lineBreak.kind = .newLine) := by
  -- what follows the line: nothing, or a line break and the tokens after it
  have tail : ∀ offset lineNumber, ∃ back, scanFrom (line ++ post) offset lineNumber [] =
      scanFrom line offset lineNumber [] ++ back ∧
      (back = [] ∨ ∃ lineBreak rest, back = lineBreak :: rest ∧ lineBreak.kind = .newLine) := by
    intro offset lineNumber
    rcases after with rfl | ⟨below, rfl⟩
    · exact ⟨[], by rw [List.append_nil, List.append_nil], .inl rfl⟩
    · obtain ⟨lineBreak, next, nextLine, isBreak, split⟩ :=
        scanFrom_append_lineFeed line offset lineNumber []
      exact ⟨_, split below, .inr ⟨lineBreak, _, rfl, isBreak⟩⟩
  rcases before with rfl | ⟨above, rfl⟩
  · obtain ⟨back, split, ends⟩ := tail 0 1
    exact ⟨[], 0, 1, back, by rw [List.nil_append, List.nil_append, split], .inl ⟨rfl, rfl⟩, ends⟩
  · obtain ⟨lineBreak, next, nextLine, isBreak, split⟩ := scanFrom_append_lineFeed above 0 1 []
    obtain ⟨back, lineSplit, ends⟩ := tail next nextLine
    refine ⟨scanFrom above 0 1 [] ++ [lineBreak], next, nextLine, back, ?_,
      .inr ⟨_, lineBreak, rfl, isBreak, ?_⟩, ends⟩
    · rw [List.append_assoc, List.append_assoc, List.singleton_append, split, lineSplit]
      simp
    · rw [lineRanges_length, countP_scanFrom_lineBreak, List.count_append]
      simp

/-- A line of a document that follows nothing or a line feed, and is followed by nothing or a
line feed, is the document's line numbered by the line feeds before it; its cursor reads the
tokens the line scans to on its own. -/
theorem line?_around_line {pre line post : List Char}
    (before : pre = [] ∨ ∃ above, pre = above ++ ['\n'])
    (after : post = [] ∨ ∃ below, post = '\n' :: below) (noFeed : '\n' ∉ line) :
    ∃ c, (ofSource (String.ofList (pre ++ line ++ post))).line? (pre.count '\n') = some c ∧
      ∀ spellings, Spells line spellings → c.Reads spellings := by
  obtain ⟨front, offset, lineNumber, back, scanned, frontShape, ends⟩ :=
    scan_around_line line before after
  have noBreak := scanFrom_no_lineBreak line offset lineNumber [] noFeed
  obtain ⟨more, first⟩ := lineRanges_line_first front.length noBreak ends
  -- the line's range is the one after the ranges of the lines before it
  have ranges : (lineRanges (scanFrom (pre ++ line ++ post) 0 1 []) 0 0)[pre.count '\n']? =
      some (front.length, front.length + (scanFrom line offset lineNumber []).length) := by
    rw [scanned, List.append_assoc]
    rcases frontShape with ⟨rfl, rfl⟩ | ⟨tokens, lineBreak, rfl, isBreak, counted⟩
    · simp only [List.nil_append, List.length_nil] at first ⊢
      rw [first]
      rfl
    · rw [List.append_assoc, List.singleton_append, lineRanges_append_lineBreak isBreak,
        Nat.zero_add, ← counted]
      simp only [List.length_append, List.length_singleton] at first
      rw [first, List.getElem?_append_right (Nat.le_refl _), Nat.sub_self]
      simp
  refine ⟨
    { stream := ofSource (String.ofList (pre ++ line ++ post)), index := front.length,
      start := front.length, stop := front.length + (scanFrom line offset lineNumber []).length,
      line := pre.count '\n' + 1 }, ?_, fun spellings spells => ?_⟩
  · simp only [line?, ofSource, scan, String.toList_ofList, List.getElem?_toArray, ranges]
    rfl
  have spelled := spells offset lineNumber []
  constructor
  · show front.length + spellings.length = front.length + _
    rw [← spelled, List.length_map]
  · intro j below
    rw [← spelled, List.length_map] at below
    simp only [ofSource, scan, String.toList_ofList, scanned, List.getElem?_toArray]
    rw [← spelled, List.getElem?_map, List.append_assoc, List.getElem?_append_right (by omega),
      Nat.add_sub_cancel_left, List.getElem?_append_left below]

end TokenStream

/-! ### The built-in registry -/

/-- Lower-casing a text, character by character. -/
theorem toLower_eq_ofList (s : String) : s.toLower = String.ofList (s.toList.map Char.toLower) :=
  String.map_eq_internal

/-- Every culture resolves to the order for every culture or to one of the partitions. -/
theorem ParserSet.resolve_mem {ρ : Type} (set : ParserSet ρ) (culture : String) :
    set.resolve culture ∈ set.fallback :: set.partitions.map Prod.snd := by
  have partition : ∀ tag order, set.partitions.lookup tag = some order →
      order ∈ set.fallback :: set.partitions.map Prod.snd := by
    intro tag order found
    obtain ⟨first, rest, split, -⟩ := List.lookup_eq_some_iff.mp found
    rw [split]
    simp
  simp only [ParserSet.resolve]
  split
  · rename_i order found
    exact partition _ order found
  · split
    · cases language : set.partitions.lookup (String.ofList _) with
      | none => exact List.mem_cons_self
      | some order => exact partition _ order language
    · exact List.mem_cons_self

/-- In every culture, the built-in registry tries its statement parsers in the same order, and
its expression parsers start with the binary parser, followed by operand parsers only. -/
theorem builtin_orders :
    ∃ r, RegistryBuilder.builtin.build = .ok r ∧ ∀ culture,
      (r.order culture).statements = builtinStatements ∧ (r.order culture).OperandsAfterBinary := by
  obtain ⟨r, built, orders⟩ := Option.map_eq_some_iff.mp builtin_statement_orders
  simp only [Prod.mk.injEq] at orders
  obtain ⟨noPartitions, statements, -⟩ := orders
  have shapes : (RegistryBuilder.builtin.build).toOption.map (fun r =>
      (r.expressions.fallback :: r.expressions.partitions.map Prod.snd).all fun order =>
        decide (Order.mk [] (order.filterMap fun index =>
          r.expressions.parsers[index]?.map fun d => (d.name, d.rule))).OperandsAfterBinary) =
      some true := by
    -- lower-casing the culture tags is the one step the kernel does not evaluate
    simp only [RegistryBuilder.build, ParserSet.build, cultureTags, toLower_eq_ofList]
    decide +kernel
  rw [built, Option.map_some, Option.some.injEq, List.all_eq_true] at shapes
  refine ⟨r, Except.toOption_eq_some.mp built, fun culture => ⟨?_, ?_⟩⟩
  · show r.statements.ordered culture = _
    rw [ParserSet.ordered_of_partitions_nil noPartitions culture, statements]
    rfl
  · -- the shape speaks of the expression parsers only
    obtain ⟨binaryFirst, noChain, group, data⟩ :=
      of_decide_eq_true (shapes _ (r.expressions.resolve_mem culture))
    exact ⟨binaryFirst, noChain, group, data⟩

/-! ### The nesting limit -/

/-- **The nesting limit depends only on the nesting depth.** For the built-in registry, in
every culture, a line made of `k ≥ 1` copies of `(`ⁿ `1` `)`ⁿ joined by ` + `, wherever it
stands in a document and whatever the lines above it hold, reads as the integer `k` when
`n ≤ 62` and fails with the nesting error on its own line when `n ≥ 63`, whatever `k`. The
count `k` is at most the largest 64-bit integer, as it must be for the integer `k` to exist. -/
theorem nesting_limit_depends_only_on_depth (culture pre post : String) (n k : Nat)
    (before : pre = "" ∨ ∃ above, pre = above ++ "\n")
    (after : post = "" ∨ ∃ below, post = "\n" ++ below) (copies : 0 < k)
    (fits : (k : Int) ≤ Decimal.int64Max) :
    ∃ r d, RegistryBuilder.builtin.build = .ok r ∧
      r.interpret (pre ++ nestedSum n k ++ post) culture false = .ok d ∧
      (d.lines[pre.toList.count '\n']?).map (fun outcome => (outcome.line, outcome.result)) =
        some (pre.toList.count '\n' + 1,
          if n ≤ 62 then .value (.integer (Int64.ofNat k))
          else .failed (.parse (.nestingTooDeep (pre.toList.count '\n' + 1)))) := by
  obtain ⟨j, rfl⟩ : ∃ j, k = j + 1 := ⟨k - 1, by omega⟩
  obtain ⟨r, built, orders⟩ := builtin_orders
  obtain ⟨statements, shape⟩ := orders culture
  have text : pre ++ nestedSum n (j + 1) ++ post =
      String.ofList (pre.toList ++ (nestedSum n (j + 1)).toList ++ post.toList) := by
    simp [String.append_assoc]
  have before' : pre.toList = [] ∨ ∃ above, pre.toList = above ++ ['\n'] := by
    rcases before with rfl | ⟨above, rfl⟩
    · exact .inl rfl
    · exact .inr ⟨above.toList, by simp⟩
  have after' : post.toList = [] ∨ ∃ below, post.toList = '\n' :: below := by
    rcases after with rfl | ⟨below, rfl⟩
    · exact .inl rfl
    · exact .inr ⟨below.toList, by simp⟩
  have noFeed : '\n' ∉ (nestedSum n (j + 1)).toList := by
    rw [Token.toList_nestedSum, List.mem_append, not_or]
    exact ⟨by simp [nestedText], Token.lineFeed_not_mem_plusChars n j⟩
  obtain ⟨c, atLine, reads⟩ := TokenStream.line?_around_line before' after' noFeed
  rw [← text] at atLine
  have inside : pre.toList.count '\n' < (TokenStream.ofSource (pre ++ nestedSum n (j + 1) ++ post)).lineCount := by
    have := atLine
    simp only [TokenStream.line?, Option.map_eq_some_iff, Array.getElem?_eq_some_iff] at this
    obtain ⟨_, ⟨inside, -⟩, -⟩ := this
    exact inside
  have read := readLine_copies shape statements
    (visibleBindings (r.order culture) (TokenStream.ofSource (pre ++ nestedSum n (j + 1) ++ post))
      (pre.toList.count '\n')) (reads _ (Token.spells_nestedSum n j)) (by omega)
  refine ⟨r, _, built, interpret_eq r _ culture, ?_⟩
  rw [List.range_eq_range', lineOutcomes_getElem? _ _ _ 0 _ (by omega) inside, Nat.zero_add,
    lineOutcome, atLine]
  simp only [Option.map_some, read, TokenStream.line_of_line? atLine, Nat.add_comm 1 j]

/-- Sixty-two nested groups are as deep as a line reads, also below a line that declares a
variable and in a culture with decimal commas. -/
theorem sixty_two_nested_groups_read_below_a_declaration :
    ∃ r d, RegistryBuilder.builtin.build = .ok r ∧
      r.interpret ("x = 1\n" ++ nestedSum 62 2 ++ "") "fr" false = .ok d ∧
      (d.lines[("x = 1\n").toList.count '\n']?).map (fun outcome => (outcome.line, outcome.result)) =
        some (("x = 1\n").toList.count '\n' + 1,
          if 62 ≤ 62 then .value (.integer (Int64.ofNat 2))
          else .failed (.parse (.nestingTooDeep (("x = 1\n").toList.count '\n' + 1)))) :=
  nesting_limit_depends_only_on_depth "fr" "x = 1\n" "" 62 2 (.inr ⟨"x = 1", by decide⟩) (.inl rfl)
    (by decide) (by decide)

end Reckon
