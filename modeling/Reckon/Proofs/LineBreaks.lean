import Reckon.Token.Stream

/-!
Contract: nothing that follows a line break reaches back into the lines before it.

The scanner reads a text followed by a line feed as the tokens of the text alone,
one line break token, and then the tokens of what follows, scanned from the start
of a new line (`Token.scanFrom_append_lineFeed`). This rests on one property of the
token patterns: the longest match at a position never looks past the first line
feed after it (`Token.front_append_lineFeed`), with one exception, a carriage
return right before the line feed, which joins it into one line break. A text
without a line feed holds no line break token (`Token.scanFrom_no_lineBreak`), so a
scanned text has exactly one line break token per line feed and one line per
segment between line feeds (`TokenStream.lineCount_ofSource`).

For the token stream: a text followed by nothing or by a line feed and more has
the lines of the text alone as its first lines, with the same tokens up to the end
of each (`TokenStream.ofSource_sameLinesBelow`). Two texts whose first `count`
segments agree are one shared text of `count` segments followed by such an ending
(`TokenStream.exists_shared_lines`).

Does not own: what a parser reads of a line (`Reckon.Proofs.Views`).
-/

namespace Reckon.Token

/-! ### Where a match can end -/

theorem takeWhile_append_lineFeed {p : Char → Bool} (stops : p '\n' = false) (rest r : List Char) :
    (rest ++ '\n' :: r).takeWhile p = rest.takeWhile p := by
  rw [List.takeWhile_append]
  split
  · rename_i whole
    rw [List.takeWhile_cons_of_neg (by simp [stops]), List.append_nil]
    exact ((List.takeWhile_prefix p).eq_of_length whole).symm
  · rfl

theorem append_lineFeed_eq_cons {l r tail : List Char} {c : Char} (notFeed : c ≠ '\n')
    (appended : l ++ '\n' :: r = c :: tail) : ∃ rest, l = c :: rest ∧ tail = rest ++ '\n' :: r := by
  cases l with
  | nil => cases appended; exact absurd rfl notFeed
  | cons x xs =>
    simp only [List.cons_append, List.cons.injEq] at appended
    exact ⟨xs, by rw [appended.1], appended.2.symm⟩

theorem numberTail_le (rest : List Char) : numberTail rest ≤ rest.length := by
  unfold numberTail
  dsimp only
  have wholeLe := (List.takeWhile_prefix Char.isDigit (l := rest)).length_le
  split
  · rename_i d more afterWhole
    have size := congrArg List.length afterWhole
    have moreLe := (List.takeWhile_prefix Char.isDigit (l := more)).length_le
    simp only [List.length_drop, List.length_cons] at size
    split <;> omega
  · exact wholeLe

theorem numberTail_append_lineFeed (rest r : List Char) :
    numberTail (rest ++ '\n' :: r) = numberTail rest := by
  unfold numberTail
  simp only [takeWhile_append_lineFeed (p := Char.isDigit) (by decide),
    List.drop_append_of_le_length (List.takeWhile_prefix _).length_le]
  generalize rest.drop (rest.takeWhile Char.isDigit).length = afterWhole
  -- a point ends the number unless a digit follows it, and a line feed is no digit
  rcases afterWhole with _ | ⟨x, _ | ⟨d, more⟩⟩
  · rfl
  · by_cases point : x = '.'
    · subst point; rfl
    · simp [point]
  · by_cases point : x = '.'
    · subst point
      simp only [List.cons_append, takeWhile_append_lineFeed (p := Char.isDigit) (by decide)]
    · simp [point]

/-- A match takes the character it starts at and at most the rest. -/
theorem front_extra_le (c : Char) (rest : List Char) : (front c rest).2 ≤ rest.length := by
  unfold front
  split
  · exact numberTail_le rest
  split
  · exact (List.takeWhile_prefix _).length_le
  split
  case h_1 =>
    dsimp only
    split
    · rename_i closed
      have size := congrArg List.length closed
      simp only [List.length_drop, List.length_cons] at size
      omega
    · exact (List.takeWhile_prefix _).length_le
  case h_2 =>
    rename_i more _ _
    have := (List.takeWhile_prefix (fun d => !isLineBreakChar d) (l := more)).length_le
    simp only [List.length_cons]
    omega
  case h_22 =>
    split
    · exact (List.takeWhile_prefix _).length_le
    · exact Nat.zero_le _
  all_goals simp

/-- A line break is a line feed, or a carriage return right before one. -/
theorem front_newLine {c : Char} {rest : List Char} {extra : Nat}
    (found : front c rest = (some .newLine, extra)) :
    c = '\n' ∨ c = '\r' ∧ rest.head? = some '\n' := by
  unfold front at found
  split at found
  · cases found
  split at found
  · simp only [Prod.mk.injEq, Option.some.injEq] at found
    revert found
    unfold keyword?
    split <;> simp
  split at found
  case h_1 =>
    dsimp only at found
    split at found <;> cases found
  case h_22 => split at found <;> cases found
  all_goals simp_all

/-- The longest match at a character never looks past the first line feed after
it, except that a carriage return right before the line feed joins it. -/
theorem front_append_lineFeed (c : Char) (rest r : List Char) (carriage : c = '\r' → rest ≠ []) :
    front c (rest ++ '\n' :: r) = front c rest := by
  unfold front
  split
  · rw [numberTail_append_lineFeed]
  split
  · rw [takeWhile_append_lineFeed (by decide)]
  split
  case h_1 =>
    -- a text literal: its body stops at the line feed, and the closing quote is looked for before it
    have bodyTake := takeWhile_append_lineFeed (p := fun d => !(d == '"' || isLineBreakChar d))
      (by decide) rest r
    simp only [bodyTake, List.drop_append_of_le_length (List.takeWhile_prefix _).length_le]
    split
    · rename_i closed
      obtain ⟨_, closedEarly, -⟩ := append_lineFeed_eq_cons (by decide) closed
      split
      · rfl
      · rename_i unclosed
        exact absurd closedEarly (unclosed _)
    · rename_i unclosed
      split
      · rename_i closed
        exact absurd (by rw [closed]; rfl) (unclosed _)
      · rfl
  case h_2 =>
    rename_i more appended _ _
    -- a comment runs to the line break
    obtain ⟨rest', rfl, rfl⟩ := append_lineFeed_eq_cons (by decide) appended
    simp only [takeWhile_append_lineFeed (p := fun d => !isLineBreakChar d) (by decide)]
  case h_22 =>
    -- any other character: a run of blanks stops at the line feed
    rw [takeWhile_append_lineFeed (p := isBlank) (by decide)]
    rcases rest with _ | ⟨y, ys⟩ <;> simp_all
  -- the remaining arms look at the character after `c` at most, which a line feed never changes
  all_goals rcases rest with _ | ⟨y, ys⟩ <;> simp_all

/-! ### Scanning past a line feed -/

theorem scanFrom_cons_skip {c : Char} {rest : List Char} {extra : Nat} (offset line : Nat)
    (gap : List Char) (found : front c rest = (none, extra)) :
    scanFrom (c :: rest) offset line gap =
      scanFrom (rest.drop extra) (offset + byteSize (c :: rest.take extra)) line
        (gap ++ c :: rest.take extra) := by
  rw [scanFrom.eq_2, found]

theorem scanFrom_cons_token {c : Char} {rest : List Char} {kind : TokenKind} {extra : Nat}
    (offset line : Nat) (gap : List Char) (found : front c rest = (some kind, extra)) :
    scanFrom (c :: rest) offset line gap =
      { kind, offset, length := byteSize (c :: rest.take extra), leadingWhitespace := byteSize gap,
        line, text := String.ofList (c :: rest.take extra), gap := String.ofList gap } ::
        scanFrom (rest.drop extra) (offset + byteSize (c :: rest.take extra))
          (if kind == .newLine then line + 1 else line) [] := by
  rw [scanFrom.eq_2, found]

/-- Scanning a text followed by a line feed: the tokens of the text alone, one
line break, and the tokens of what follows from the start of the next line. The
line break and where the next line starts depend only on the text before it. -/
theorem scanFrom_append_lineFeed (text : List Char) (offset line : Nat) (gap : List Char) :
    ∃ lineBreak next nextLine, lineBreak.kind = .newLine ∧ ∀ rest,
      scanFrom (text ++ '\n' :: rest) offset line gap =
        scanFrom text offset line gap ++ lineBreak :: scanFrom rest next nextLine [] := by
  match text with
  | [] =>
    refine ⟨⟨.newLine, offset, byteSize ['\n'], byteSize gap, line, String.ofList ['\n'],
      String.ofList gap⟩, offset + byteSize ['\n'], line + 1, rfl, fun rest => ?_⟩
    rw [List.nil_append,
      scanFrom_cons_token offset line gap (show front '\n' rest = (some .newLine, 0) from rfl),
      scanFrom.eq_1]
    rfl
  | c :: tail =>
    by_cases carriage : c = '\r' ∧ tail = []
    · -- a carriage return right before the line feed joins it
      obtain ⟨rfl, rfl⟩ := carriage
      refine ⟨⟨.newLine, offset, byteSize ['\r', '\n'], byteSize gap, line,
        String.ofList ['\r', '\n'], String.ofList gap⟩, offset + byteSize ['\r', '\n'], line + 1, rfl,
        fun rest => ?_⟩
      rw [List.singleton_append,
        scanFrom_cons_token offset line gap (show front '\r' ('\n' :: rest) = (some .newLine, 1) from rfl),
        scanFrom_cons_skip offset line gap (show front '\r' [] = (none, 0) from rfl)]
      simp [scanFrom.eq_1]
    · have sameFront := fun rest =>
        front_append_lineFeed c tail rest fun isCarriage empty => carriage ⟨isCarriage, empty⟩
      have extraLe := front_extra_le c tail
      rcases found : front c tail with ⟨_ | kind, extra⟩
      · obtain ⟨lineBreak, next, nextLine, isBreak, after⟩ := scanFrom_append_lineFeed (tail.drop extra)
          (offset + byteSize (c :: tail.take extra)) line (gap ++ c :: tail.take extra)
        refine ⟨lineBreak, next, nextLine, isBreak, fun rest => ?_⟩
        rw [found] at extraLe
        rw [List.cons_append, scanFrom_cons_skip offset line gap ((sameFront rest).trans found),
          scanFrom_cons_skip offset line gap found, List.take_append_of_le_length extraLe,
          List.drop_append_of_le_length extraLe, after]
      · obtain ⟨lineBreak, next, nextLine, isBreak, after⟩ := scanFrom_append_lineFeed (tail.drop extra)
          (offset + byteSize (c :: tail.take extra)) (if kind == .newLine then line + 1 else line) []
        refine ⟨lineBreak, next, nextLine, isBreak, fun rest => ?_⟩
        rw [found] at extraLe
        rw [List.cons_append, scanFrom_cons_token offset line gap ((sameFront rest).trans found),
          scanFrom_cons_token offset line gap found, List.take_append_of_le_length extraLe,
          List.drop_append_of_le_length extraLe, after, List.cons_append]
termination_by text.length
decreasing_by all_goals (simp only [List.length_drop, List.length_cons]; omega)

/-- Scanning never makes a line break out of a text without a line feed. -/
theorem scanFrom_no_lineBreak (text : List Char) (offset line : Nat) (gap : List Char)
    (noFeed : '\n' ∉ text) : ∀ token ∈ scanFrom text offset line gap, token.kind ≠ .newLine := by
  match text with
  | [] => simp [scanFrom.eq_1]
  | c :: rest =>
    have restNoFeed : '\n' ∉ rest.drop (front c rest).2 :=
      fun inDrop => noFeed (List.mem_cons_of_mem c (List.mem_of_mem_drop inDrop))
    rcases found : front c rest with ⟨_ | kind, extra⟩
    · rw [scanFrom_cons_skip offset line gap found]
      rw [found] at restNoFeed
      exact scanFrom_no_lineBreak _ _ _ _ restNoFeed
    · rw [scanFrom_cons_token offset line gap found]
      rw [found] at restNoFeed
      intro token member
      rcases List.mem_cons.mp member with rfl | later
      · intro isBreak
        rcases front_newLine ((show kind = TokenKind.newLine from isBreak) ▸ found) with
          feed | ⟨-, headFeed⟩
        · exact noFeed (feed ▸ List.mem_cons_self)
        · exact noFeed (List.mem_cons_of_mem c (List.mem_of_mem_head? headFeed))
      · exact scanFrom_no_lineBreak _ _ _ _ restNoFeed token later
termination_by text.length
decreasing_by all_goals (simp only [List.length_drop, List.length_cons]; omega)

theorem exists_first_lineFeed {text : List Char} (has : '\n' ∈ text) :
    ∃ line rest, text = line ++ '\n' :: rest ∧ '\n' ∉ line := by
  induction text with
  | nil => cases has
  | cons c tail inductionHypothesis =>
    by_cases feed : c = '\n'
    · exact ⟨[], tail, by rw [feed]; rfl, List.not_mem_nil⟩
    · obtain ⟨line, rest, split, noFeed⟩ :=
        inductionHypothesis ((List.mem_cons.mp has).resolve_left (Ne.symm feed))
      exact ⟨c :: line, rest, by rw [split]; rfl,
        fun member => (List.mem_cons.mp member).elim (fun same => feed same.symm) noFeed⟩

/-- A scanned text has one line break token for every line feed. -/
theorem countP_scanFrom_lineBreak (text : List Char) (offset line : Nat) (gap : List Char) :
    (scanFrom text offset line gap).countP (·.kind == .newLine) = text.count '\n' := by
  by_cases has : '\n' ∈ text
  · obtain ⟨first, rest, splitText, noFeed⟩ := exists_first_lineFeed has
    have shorter : rest.length < text.length := by
      rw [splitText, List.length_append, List.length_cons]
      omega
    obtain ⟨lineBreak, next, nextLine, isBreak, split⟩ := scanFrom_append_lineFeed first offset line gap
    have firstCount : (scanFrom first offset line gap).countP (·.kind == .newLine) = 0 :=
      List.countP_eq_zero.mpr fun token member => by
        simpa using scanFrom_no_lineBreak first offset line gap noFeed token member
    have restCount := countP_scanFrom_lineBreak rest next nextLine []
    rw [splitText, split rest, List.countP_append, List.countP_cons, firstCount, restCount,
      List.count_append, List.count_cons, List.count_eq_zero.mpr noFeed]
    simp [isBreak]
  · rw [List.count_eq_zero.mpr has]
    exact List.countP_eq_zero.mpr fun token member => by
      simpa using scanFrom_no_lineBreak text offset line gap has token member
termination_by text.length

end Reckon.Token

namespace Reckon.TokenStream

open Reckon.Token

/-! ### Lines of a token stream -/

theorem lineRanges_append_lineBreak {lineBreak : Token} (isBreak : lineBreak.kind = .newLine)
    (rest : List Token) : ∀ (tokens : List Token) (start index : Nat),
      lineRanges (tokens ++ lineBreak :: rest) start index =
        lineRanges tokens start index ++
          lineRanges rest (index + tokens.length + 1) (index + tokens.length + 1)
  | [], start, index => by simp [lineRanges, isBreak]
  | token :: tokens, start, index => by
    have shifted : index + 1 + tokens.length + 1 = index + (tokens.length + 1) + 1 := by omega
    simp only [List.cons_append, lineRanges, List.length_cons]
    split
    · rw [lineRanges_append_lineBreak isBreak rest tokens, shifted, List.cons_append]
    · rw [lineRanges_append_lineBreak isBreak rest tokens, shifted]

/-- One line more than line breaks. -/
theorem lineRanges_length : ∀ (tokens : List Token) (start index : Nat),
    (lineRanges tokens start index).length = tokens.countP (·.kind == .newLine) + 1
  | [], _, _ => rfl
  | token :: tokens, start, index => by
    simp only [lineRanges, List.countP_cons]
    split <;> simp_all [lineRanges_length tokens]

/-- Every line ends at or before the end of the tokens. -/
theorem lineRanges_stop_le : ∀ (tokens : List Token) (start index : Nat),
    ∀ range ∈ lineRanges tokens start index, range.2 ≤ index + tokens.length
  | [], start, index => by simp [lineRanges]
  | token :: tokens, start, index => by
    intro range member
    simp only [lineRanges] at member
    have later := lineRanges_stop_le tokens
    simp only [List.length_cons]
    split at member
    · rcases List.mem_cons.mp member with rfl | rest
      · simp
      · have := later _ _ range rest
        omega
    · have := later _ _ range member
      omega

/-- Every line starts at the first token or right after a line break. -/
theorem lineRanges_start_after_break (all : List Token) : ∀ (tokens : List Token) (start index : Nat),
    all.drop index = tokens →
    (∀ t, 0 < start → all[start - 1]? = some t → t.kind = .newLine) →
    ∀ range ∈ lineRanges tokens start index,
      ∀ t, 0 < range.1 → all[range.1 - 1]? = some t → t.kind = .newLine
  | [], start, index, _, startAfterBreak => by
    intro range member
    rw [lineRanges, List.mem_singleton] at member
    subst member
    exact startAfterBreak
  | token :: tokens, start, index, suffix, startAfterBreak => by
    intro range member
    have atIndex : all[index]? = some token := by
      rw [← Nat.add_zero index, ← List.getElem?_drop, suffix]
      rfl
    have rest : all.drop (index + 1) = tokens := by
      rw [← List.drop_drop, suffix]
      rfl
    simp only [lineRanges] at member
    split at member
    · -- a line break ends this line, and the next one starts right after it
      rename_i isBreak
      rcases List.mem_cons.mp member with rfl | later
      · exact startAfterBreak
      · refine lineRanges_start_after_break all tokens (index + 1) (index + 1) rest ?_ range later
        intro t _ atBreak
        rw [Nat.add_sub_cancel, atIndex, Option.some.injEq] at atBreak
        subst atBreak
        simpa using isBreak
    · exact lineRanges_start_after_break all tokens start (index + 1) rest startAfterBreak range member

/-! ### Texts that share their first lines -/

/-- `S'` holds the first `count` lines of `S`: the same token ranges, and the same
tokens before the end of each. -/
structure SameLinesBelow (S S' : TokenStream) (count : Nat) : Prop where
  lines : ∀ i < count, S'.lines[i]? = S.lines[i]?
  tokens : ∀ i < count, ∀ range ∈ S.lines[i]?, ∀ j < range.2, S'.tokens[j]? = S.tokens[j]?

namespace SameLinesBelow

variable {S S' S'' : TokenStream} {count : Nat}

theorem refl (S : TokenStream) (count : Nat) : S.SameLinesBelow S count :=
  ⟨fun _ _ => rfl, fun _ _ _ _ _ _ => rfl⟩

theorem symm (same : S.SameLinesBelow S' count) : S'.SameLinesBelow S count where
  lines i below := (same.lines i below).symm
  tokens i below range member j before :=
    (same.tokens i below range (same.lines i below ▸ member) j before).symm

theorem trans (first : S.SameLinesBelow S' count) (second : S'.SameLinesBelow S'' count) :
    S.SameLinesBelow S'' count where
  lines i below := (second.lines i below).trans (first.lines i below)
  tokens i below range member j before :=
    (second.tokens i below range ((first.lines i below).symm ▸ member) j before).trans
      (first.tokens i below range member j before)

end SameLinesBelow

theorem length_splitOn_lineFeed :
    ∀ text : List Char, (text.splitOn '\n').length = text.count '\n' + 1
  | [] => rfl
  | c :: rest => by
    rw [List.splitOn_cons_eq_if_modifyHead, List.count_cons]
    split <;> simp_all [length_splitOn_lineFeed rest]

/-- A text has one line for each of its segments between line feeds. -/
theorem lineCount_ofSource (source : String) :
    (ofSource source).lineCount = (source.toList.splitOn '\n').length := by
  simp only [lineCount, ofSource, List.size_toArray, lineRanges_length, scan,
    countP_scanFrom_lineBreak, length_splitOn_lineFeed]

/-- The lines of a text are the first lines of that text followed by a line
feed and more: nothing that follows a line break reaches back into the lines
before it. -/
theorem ofSource_sameLinesBelow (text after : List Char)
    (ends : after = [] ∨ ∃ rest, after = '\n' :: rest) :
    (ofSource (String.ofList text)).SameLinesBelow (ofSource (String.ofList (text ++ after)))
      (text.splitOn '\n').length := by
  rcases ends with rfl | ⟨rest, rfl⟩
  · rw [List.append_nil]
    exact SameLinesBelow.refl _ _
  · obtain ⟨lineBreak, next, nextLine, isBreak, split⟩ := scanFrom_append_lineFeed text 0 1 []
    have counted : (lineRanges (scanFrom text 0 1 []) 0 0).length = (text.splitOn '\n').length := by
      rw [lineRanges_length, countP_scanFrom_lineBreak, length_splitOn_lineFeed]
    constructor
    · intro i below
      simp only [ofSource, scan, String.toList_ofList, split rest,
        lineRanges_append_lineBreak isBreak, List.getElem?_toArray]
      exact List.getElem?_append_left (by omega)
    · intro i below range member j before
      simp only [ofSource, scan, String.toList_ofList, List.getElem?_toArray] at member ⊢
      have ends := lineRanges_stop_le _ 0 0 range (List.mem_of_getElem? member)
      rw [split rest]
      exact List.getElem?_append_left (by omega)

/-- A text is its first segment, alone or followed by a line feed and the rest. -/
theorem splitOn_first (text : List Char) :
    ∃ first, '\n' ∉ first ∧
      (text = first ∧ text.splitOn '\n' = [first] ∨
        ∃ rest, text = first ++ '\n' :: rest ∧ text.splitOn '\n' = first :: rest.splitOn '\n') := by
  by_cases has : '\n' ∈ text
  · obtain ⟨first, rest, rfl, noFeed⟩ := exists_first_lineFeed has
    exact ⟨first, noFeed, .inr ⟨rest, rfl, List.splitOn_append_cons_self_of_not_mem noFeed rest⟩⟩
  · exact ⟨text, has, .inl ⟨rfl, List.splitOn_eq_singleton has⟩⟩

/-- Two texts whose first `count` segments agree are one shared text of `count`
segments, each followed by nothing or by a line feed and more. -/
theorem exists_shared_lines : ∀ (count : Nat) (text text' : List Char), 0 < count →
    count ≤ (text.splitOn '\n').length → count ≤ (text'.splitOn '\n').length →
    (text.splitOn '\n').take count = (text'.splitOn '\n').take count →
    ∃ shared after after', text = shared ++ after ∧ text' = shared ++ after' ∧
      (after = [] ∨ ∃ rest, after = '\n' :: rest) ∧ (after' = [] ∨ ∃ rest, after' = '\n' :: rest) ∧
      (shared.splitOn '\n').length = count
  | 0, _, _, positive, _, _, _ => absurd positive (Nat.lt_irrefl 0)
  | count + 1, text, text', _, long, long', same => by
    obtain ⟨first, noFeed, ⟨rfl, alone⟩ | ⟨rest, rfl, split⟩⟩ := splitOn_first text <;>
    obtain ⟨first', noFeed', ⟨rfl, alone'⟩ | ⟨rest', rfl, split'⟩⟩ := splitOn_first text'
    · -- both texts are one segment
      rw [alone, alone'] at same
      simp only [List.take_succ_cons, List.cons.injEq] at same
      rw [alone, List.length_singleton] at long
      exact ⟨text, [], [], by rw [List.append_nil], by rw [same.1, List.append_nil], .inl rfl, .inl rfl,
        by rw [List.splitOn_eq_singleton noFeed]; simp; omega⟩
    · rw [alone, split'] at same
      simp only [List.take_succ_cons, List.cons.injEq] at same
      rw [alone, List.length_singleton] at long
      exact ⟨text, [], '\n' :: rest', by rw [List.append_nil], by rw [same.1], .inl rfl, .inr ⟨rest', rfl⟩,
        by rw [List.splitOn_eq_singleton noFeed]; simp; omega⟩
    · rw [split, alone'] at same
      simp only [List.take_succ_cons, List.cons.injEq] at same
      rw [alone', List.length_singleton] at long'
      exact ⟨first, '\n' :: rest, [], rfl, by rw [same.1, List.append_nil], .inr ⟨rest, rfl⟩, .inl rfl,
        by rw [List.splitOn_eq_singleton noFeed]; simp; omega⟩
    · rw [split, split'] at same
      simp only [List.take_succ_cons, List.cons.injEq] at same
      obtain ⟨rfl, sameRest⟩ := same
      rcases Nat.eq_zero_or_pos count with rfl | positive
      · exact ⟨first, '\n' :: rest, '\n' :: rest', rfl, rfl, .inr ⟨rest, rfl⟩, .inr ⟨rest', rfl⟩,
          by rw [List.splitOn_eq_singleton noFeed]; rfl⟩
      · -- the remaining segments agree in one fewer place
        rw [split, List.length_cons] at long
        rw [split', List.length_cons] at long'
        obtain ⟨shared, after, after', restShared, restShared', ends, ends', counted⟩ :=
          exists_shared_lines count rest rest' positive (by omega) (by omega) sameRest
        refine ⟨first ++ '\n' :: shared, after, after', ?_, ?_, ends, ends', ?_⟩
        · rw [restShared, List.append_assoc, List.cons_append]
        · rw [restShared', List.append_assoc, List.cons_append]
        · rw [List.splitOn_append_cons_self_of_not_mem noFeed, List.length_cons, counted]

end Reckon.TokenStream
