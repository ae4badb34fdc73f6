import Reckon.Proofs.CommaScan

/-!
Contract: the tokens of a text tile it, and both ways of numbering lines agree.

Scanning reads each token right after the blanks in front of it and moves on
from its end (`Token.ReadFrom`): a token starts where the one before it ended
plus its own blanks, it is never empty, its text has as many bytes as its
length, and it lies on the line after the line breaks before it
(`Token.scanFrom_readFrom`). What the scanner skips are blanks, so the text is
the blanks and texts of its tokens, in order, followed by blanks
(`Token.scanFrom_tiles`).

The stream cuts the tokens into lines at line breaks: one line more than line
breaks, the line ranges together list every other token once and in order
(`TokenStream.lineRanges_flatMap`), and every token of range `j` lies on
line `j + 1` of the scanner (`TokenStream.lineRanges_line`).

Owns: `Token.ReadAt`, `Token.ReadFrom`, `Token.layout` and the facts above.
Does not own: what a cursor sees of a line (`Reckon.Proofs.CursorViews`).
-/

namespace Reckon

namespace Token

/-! ### One token -/

/-- Only blanks are skipped: a match without a token is a run of blanks. -/
theorem front_none {c : Char} {rest : List Char} {extra : Nat} (found : front c rest = (none, extra)) :
    isBlank c = true ∧ ∀ d ∈ rest.take extra, isBlank d = true := by
  unfold front at found
  split at found
  · cases found
  split at found
  · cases found
  split at found
  case h_1 =>
    dsimp only at found
    split at found <;> cases found
  case h_22 =>
    split at found
    · rename_i blank
      cases found
      rw [← List.prefix_iff_eq_take.mp (List.takeWhile_prefix isBlank)]
      exact ⟨blank, List.all_eq_true.mp List.all_takeWhile⟩
    · cases found
  all_goals cases found

theorem byteSize_pos (c : Char) (cs : List Char) : 0 < byteSize (c :: cs) := by
  rw [byteSize_cons]
  have := Char.utf8Size_pos c
  omega

/-- What the scanner guarantees of a token read after byte `start` on line
`line`: it begins after its blanks, which are all it skipped, and it is not
empty; its text has `length` bytes. -/
structure ReadAt (token : Token) (start line : Nat) : Prop where
  offset_eq : token.offset = start + token.leadingWhitespace
  line_eq : token.line = line
  length_pos : 0 < token.length
  text_size : byteSize token.text.toList = token.length
  gap_size : byteSize token.gap.toList = token.leadingWhitespace
  gap_blank : ∀ c ∈ token.gap.toList, isBlank c = true

/-- Tokens read one after the other from byte `start` on line `line`: each is
read where the one before it ended, and a line break starts the next line. -/
def ReadFrom : Nat → Nat → List Token → Prop
  | _, _, [] => True
  | start, line, token :: rest =>
    token.ReadAt start line ∧ ReadFrom token.stop (if token.kind == .newLine then line + 1 else line) rest

/-- The text the tokens were read from, less the blanks after the last one:
every token's blanks and then its text. -/
def layout (tokens : List Token) : List Char :=
  tokens.flatMap fun token => token.gap.toList ++ token.text.toList

@[simp] theorem layout_nil : layout [] = [] :=
  rfl

@[simp] theorem layout_cons (token : Token) (rest : List Token) :
    layout (token :: rest) = token.gap.toList ++ token.text.toList ++ layout rest :=
  List.flatMap_cons

@[simp] theorem layout_append (first second : List Token) :
    layout (first ++ second) = layout first ++ layout second :=
  List.flatMap_append

/-! ### The scanner -/

/-- Scanning reads every token after its blanks, from where the last one ended;
`start` is where the blanks `gap` that were skipped already began. -/
theorem scanFrom_readFrom (input : List Char) (start offset line : Nat) (gap : List Char)
    (blanks : ∀ c ∈ gap, isBlank c = true) (skipped : offset = start + byteSize gap) :
    ReadFrom start line (scanFrom input offset line gap) := by
  match input with
  | [] => rw [scanFrom.eq_1]; trivial
  | c :: rest =>
    rcases found : front c rest with ⟨_ | kind, extra⟩
    · -- a run of blanks joins the gap
      rw [scanFrom_cons_skip offset line gap found]
      obtain ⟨blank, takenBlank⟩ := front_none found
      refine scanFrom_readFrom _ start _ line _ (fun d member => ?_) ?_
      · rcases List.mem_append.mp member with inGap | inTaken
        · exact blanks d inGap
        · rcases List.mem_cons.mp inTaken with rfl | later
          · exact blank
          · exact takenBlank d later
      · rw [byteSize_append, skipped, Nat.add_assoc]
    · -- a token, read after the gap
      rw [scanFrom_cons_token offset line gap found]
      refine ⟨⟨skipped, rfl, byteSize_pos c _, by rw [String.toList_ofList], by rw [String.toList_ofList],
        by rw [String.toList_ofList]; exact blanks⟩, ?_⟩
      exact scanFrom_readFrom _ _ _ _ [] (fun _ member => by cases member) rfl
termination_by input.length
decreasing_by all_goals (simp only [List.length_drop, List.length_cons]; omega)

/-- The text scanned is the layout of its tokens followed by blanks; the blanks
`gap` skipped already come first. -/
theorem scanFrom_tiles (input : List Char) (offset line : Nat) (gap : List Char)
    (blanks : ∀ c ∈ gap, isBlank c = true) :
    ∃ trailing, (∀ c ∈ trailing, isBlank c = true) ∧
      gap ++ input = layout (scanFrom input offset line gap) ++ trailing := by
  match input with
  | [] => exact ⟨gap, blanks, by simp [scanFrom.eq_1, layout]⟩
  | c :: rest =>
    rcases found : front c rest with ⟨_ | kind, extra⟩
    · have whole : c :: rest = (c :: rest.take extra) ++ rest.drop extra := by
        rw [List.cons_append, List.take_append_drop]
      rw [scanFrom_cons_skip offset line gap found]
      obtain ⟨blank, takenBlank⟩ := front_none found
      obtain ⟨trailing, trailingBlank, tiled⟩ := scanFrom_tiles (rest.drop extra)
        (offset + byteSize (c :: rest.take extra)) line (gap ++ c :: rest.take extra)
        (fun d member => by
          rcases List.mem_append.mp member with inGap | inTaken
          · exact blanks d inGap
          · rcases List.mem_cons.mp inTaken with rfl | later
            · exact blank
            · exact takenBlank d later)
      refine ⟨trailing, trailingBlank, ?_⟩
      rw [whole, ← List.append_assoc, tiled]
    · have whole : c :: rest = (c :: rest.take extra) ++ rest.drop extra := by
        rw [List.cons_append, List.take_append_drop]
      rw [scanFrom_cons_token offset line gap found]
      obtain ⟨trailing, trailingBlank, tiled⟩ := scanFrom_tiles (rest.drop extra)
        (offset + byteSize (c :: rest.take extra)) (if kind == .newLine then line + 1 else line) []
        (fun _ member => by cases member)
      refine ⟨trailing, trailingBlank, ?_⟩
      rw [List.nil_append] at tiled
      -- the text is the gap, the token's text and the rest, which tiles by itself
      conv => lhs; rw [whole, tiled]
      simp only [layout_cons, String.toList_ofList, List.append_assoc]
termination_by input.length
decreasing_by all_goals (simp only [List.length_drop, List.length_cons]; omega)

/-! ### Tokens read one after the other -/

namespace ReadFrom

theorem cons {start line : Nat} {token : Token} {rest : List Token}
    (read : ReadFrom start line (token :: rest)) :
    token.ReadAt start line ∧
      ReadFrom token.stop (if token.kind == .newLine then line + 1 else line) rest :=
  read

/-- Every token of a read is read somewhere. -/
theorem readAt_of_mem : ∀ {tokens : List Token} {start line : Nat}, ReadFrom start line tokens →
    ∀ token ∈ tokens, ∃ start' line', token.ReadAt start' line'
  | [], _, _, _ => fun _ member => by cases member
  | first :: rest, start, line, read => fun token member => by
    rcases List.mem_cons.mp member with rfl | later
    · exact ⟨start, line, read.cons.1⟩
    · exact readAt_of_mem read.cons.2 token later

/-- Every token of a read starts at or after where the read started. -/
theorem start_le : ∀ {tokens : List Token} {start line : Nat}, ReadFrom start line tokens →
    ∀ token ∈ tokens, start ≤ token.offset
  | [], _, _, _ => fun _ member => by cases member
  | first :: rest, start, line, read => fun token member => by
    have firstOffset := read.cons.1.offset_eq
    rcases List.mem_cons.mp member with rfl | later
    · omega
    · have afterFirst := start_le read.cons.2 token later
      have firstStop : first.stop = first.offset + first.length := rfl
      omega

theorem pairwise_offset : ∀ {tokens : List Token} {start line : Nat}, ReadFrom start line tokens →
    tokens.Pairwise (fun a b => a.offset < b.offset)
  | [], _, _, _ => List.Pairwise.nil
  | first :: rest, start, line, read => by
    refine List.Pairwise.cons (fun token member => ?_) (pairwise_offset read.cons.2)
    have afterFirst := start_le read.cons.2 token member
    have nonEmpty := read.cons.1.length_pos
    have firstStop : first.stop = first.offset + first.length := rfl
    omega

/-- A token starts where the one before it ended, after its blanks. -/
theorem offset_succ : ∀ {tokens : List Token} {start line : Nat}, ReadFrom start line tokens →
    ∀ i (next : i + 1 < tokens.length),
      tokens[i + 1].offset = tokens[i].stop + tokens[i + 1].leadingWhitespace
  | [], _, _, _ => fun _ next => by simp at next
  | first :: rest, start, line, read => fun i next => by
    cases i with
    | zero =>
      cases rest with
      | nil => simp at next
      | cons second more => exact read.cons.2.cons.1.offset_eq
    | succ i =>
      simp only [List.getElem_cons_succ]
      exact offset_succ read.cons.2 i (by simpa using next)

/-- A token lies on the line after the line breaks before it. -/
theorem line_getElem : ∀ {tokens : List Token} {start line : Nat}, ReadFrom start line tokens →
    ∀ i (inside : i < tokens.length),
      tokens[i].line = line + (tokens.take i).countP (·.kind == .newLine)
  | [], _, _, _ => fun _ inside => by simp at inside
  | first :: rest, start, line, read => fun i inside => by
    cases i with
    | zero => simpa using read.cons.1.line_eq
    | succ i =>
      rw [List.getElem_cons_succ, line_getElem read.cons.2 i (by simpa using inside),
        List.take_succ_cons, List.countP_cons]
      -- a line break before the token moves it one line down
      split
      · simp_all
        omega
      · simp_all

/-- A token starts after the layout of the tokens before it and its own blanks. -/
theorem offset_eq_layout : ∀ {tokens : List Token} {start line : Nat}, ReadFrom start line tokens →
    ∀ i (inside : i < tokens.length),
      tokens[i].offset = start + byteSize (layout (tokens.take i) ++ tokens[i].gap.toList)
  | [], _, _, _ => fun _ inside => by simp at inside
  | first :: rest, start, line, read => fun i inside => by
    have firstRead := read.cons.1
    cases i with
    | zero =>
      simp only [List.take_zero, layout_nil, List.nil_append, List.getElem_cons_zero]
      rw [firstRead.offset_eq, firstRead.gap_size]
    | succ i =>
      have firstStop : first.stop = first.offset + first.length := rfl
      rw [List.getElem_cons_succ, offset_eq_layout read.cons.2 i (by simpa using inside),
        List.take_succ_cons, layout_cons]
      simp only [byteSize_append] at firstStop ⊢
      rw [firstRead.offset_eq, ← firstRead.gap_size, ← firstRead.text_size] at firstStop
      omega

/-- A token ends where the layout of the tokens up to it ends. -/
theorem stop_eq_layout {tokens : List Token} {start line : Nat} (read : ReadFrom start line tokens)
    (i : Nat) (inside : i < tokens.length) :
    tokens[i].stop = start + byteSize (layout (tokens.take (i + 1))) := by
  obtain ⟨_, _, tokenRead⟩ := read.readAt_of_mem tokens[i] (List.getElem_mem inside)
  have tokenStop : tokens[i].stop = tokens[i].offset + tokens[i].length := rfl
  rw [tokenStop, read.offset_eq_layout i inside, List.take_add_one, List.getElem?_eq_getElem inside,
    Option.toList_some, layout_append, layout_cons, layout_nil, ← tokenRead.text_size]
  simp only [byteSize_append, List.append_nil]
  omega

end ReadFrom

/-- The tokens of a text are read from its first byte on its first line. -/
theorem scan_readFrom (source : String) : ReadFrom 0 1 (scan source) :=
  scanFrom_readFrom source.toList 0 0 1 [] (fun _ member => by cases member) rfl

end Token

namespace TokenStream

open Token

/-! ### Lines -/

/-- No line starts before the line being collected. -/
theorem lineRanges_start_le : ∀ (tokens : List Token) (start index : Nat), start ≤ index →
    ∀ range ∈ lineRanges tokens start index, start ≤ range.1 ∧ range.1 ≤ range.2
  | [], start, index, ordered => by simpa [lineRanges] using ordered
  | token :: tokens, start, index, ordered => by
    intro range member
    simp only [lineRanges] at member
    split at member
    · rcases List.mem_cons.mp member with rfl | later
      · exact ⟨Nat.le_refl _, ordered⟩
      · have := lineRanges_start_le tokens (index + 1) (index + 1) (Nat.le_refl _) range later
        omega
    · exact lineRanges_start_le tokens start (index + 1) (by omega) range member

/-- Every line after the first starts after the first token looked at. -/
theorem lineRanges_later_start : ∀ (tokens : List Token) (start index j : Nat) (range : Nat × Nat),
    (lineRanges tokens start index)[j + 1]? = some range → index + 1 ≤ range.1
  | [], start, index, j, range => by simp [lineRanges]
  | token :: tokens, start, index, j, range => by
    intro found
    simp only [lineRanges] at found
    split at found
    · rw [List.getElem?_cons_succ] at found
      exact (lineRanges_start_le tokens (index + 1) (index + 1) (Nat.le_refl _) range
        (List.mem_of_getElem? found)).1
    · have := lineRanges_later_start tokens start (index + 1) j range found
      omega

/-- The line ranges list the positions collected so far and then every token
that is not a line break, each once and in order. -/
theorem lineRanges_flatMap : ∀ (tokens : List Token) (start index : Nat), start ≤ index →
    (lineRanges tokens start index).flatMap (fun range => List.range' range.1 (range.2 - range.1)) =
      List.range' start (index - start) ++
        (tokens.zipIdx index).filterMap
          (fun entry => if entry.1.kind == .newLine then none else some entry.2)
  | [], start, index, _ => by simp [lineRanges]
  | token :: tokens, start, index, ordered => by
    by_cases isBreak : (token.kind == .newLine) = true
    · -- the line ends here and the next one starts after the line break
      simp only [lineRanges, isBreak, if_true, List.flatMap_cons, List.zipIdx_cons,
        List.filterMap_cons]
      rw [lineRanges_flatMap tokens (index + 1) (index + 1) (Nat.le_refl _)]
      simp
    · -- the token joins the line being collected
      simp only [lineRanges, isBreak, if_false, List.zipIdx_cons, List.filterMap_cons,
        Bool.false_eq_true]
      rw [lineRanges_flatMap tokens start (index + 1) (by omega),
        show index + 1 - start = index - start + 1 by omega, List.range'_concat]
      simp [show start + (index - start) = index by omega]

/-- Every token in range `j` of the lines is no line break and lies on line
`j + 1` of the read, counted from `line`. -/
theorem lineRanges_line : ∀ (tokens : List Token) (start index readStart line : Nat),
    ReadFrom readStart line tokens → ∀ j range, (lineRanges tokens start index)[j]? = some range →
      ∀ k, range.1 ≤ k → k < range.2 → index ≤ k →
        ∃ token, tokens[k - index]? = some token ∧ token.kind ≠ .newLine ∧ token.line = line + j
  | [], start, index, _, _, _ => by
    intro j range found k first last after
    cases j with
    | zero =>
      simp only [lineRanges, List.getElem?_cons_zero, Option.some.injEq] at found
      subst found
      omega
    | succ j => simp [lineRanges] at found
  | token :: tokens, start, index, readStart, line, read => by
    intro j range found k first last after
    obtain ⟨tokenRead, restRead⟩ := read.cons
    simp only [lineRanges] at found
    split at found
    · rename_i isBreak
      cases j with
      | zero =>
        -- the line that ends at this line break holds no position from here on
        simp only [List.getElem?_cons_zero, Option.some.injEq] at found
        subst found
        omega
      | succ j =>
        rw [List.getElem?_cons_succ] at found
        have later := (lineRanges_start_le tokens (index + 1) (index + 1) (Nat.le_refl _) range
          (List.mem_of_getElem? found)).1
        rw [if_pos isBreak] at restRead
        obtain ⟨found', lookup, notBreak, onLine⟩ :=
          lineRanges_line tokens _ _ _ _ restRead j range found k first last (by omega)
        refine ⟨found', ?_, notBreak, by rw [onLine]; omega⟩
        rw [show k - index = k - (index + 1) + 1 by omega, List.getElem?_cons_succ]
        exact lookup
    · rename_i notBreak
      rw [if_neg notBreak] at restRead
      by_cases here : k = index
      · -- the token here belongs to the line being collected, the first range
        subst k
        cases j with
        | zero =>
          refine ⟨token, by simp, by simpa using notBreak, by rw [tokenRead.line_eq]; rfl⟩
        | succ j =>
          have := lineRanges_later_start tokens start (index + 1) j range found
          omega
      · obtain ⟨found', lookup, notBreak', onLine⟩ :=
          lineRanges_line tokens _ _ _ _ restRead j range found k first last (by omega)
        refine ⟨found', ?_, notBreak', onLine⟩
        rw [show k - index = k - (index + 1) + 1 by omega, List.getElem?_cons_succ]
        exact lookup

theorem ofSource_lines_toList (source : String) :
    (ofSource source).lines.toList = lineRanges (scan source) 0 0 :=
  List.toList_toArray

theorem ofSource_tokens_toList (source : String) : (ofSource source).tokens.toList = scan source :=
  List.toList_toArray

/-- A line of a scanned text is a range of its tokens. -/
theorem ofSource_range_le (source : String) {j : Nat} {range : Nat × Nat}
    (found : (ofSource source).lines[j]? = some range) :
    range.1 ≤ range.2 ∧ range.2 ≤ (ofSource source).tokens.size := by
  rw [← Array.getElem?_toList, ofSource_lines_toList] at found
  have member := List.mem_of_getElem? found
  have within := lineRanges_stop_le (scan source) 0 0 range member
  rw [← Array.length_toList, ofSource_tokens_toList]
  exact ⟨(lineRanges_start_le (scan source) 0 0 (Nat.le_refl 0) range member).2, by omega⟩

/-- Every token in line `j` of a scanned text is no line break and lies on line
`j + 1`. -/
theorem ofSource_token_of_range (source : String) {j : Nat} {range : Nat × Nat}
    (found : (ofSource source).lines[j]? = some range) {k : Nat} (first : range.1 ≤ k)
    (last : k < range.2) :
    ∃ token, (ofSource source).tokens[k]? = some token ∧ token.kind ≠ .newLine ∧
      token.line = j + 1 := by
  rw [← Array.getElem?_toList, ofSource_lines_toList] at found
  obtain ⟨token, lookup, notBreak, onLine⟩ := lineRanges_line (scan source) 0 0 0 1
    (scan_readFrom source) j range found k first last (Nat.zero_le k)
  refine ⟨token, ?_, notBreak, by rw [onLine, Nat.add_comm]⟩
  rw [← Array.getElem?_toList, ofSource_tokens_toList]
  simpa using lookup

end TokenStream

/-- The tokens of a text tile it, and the lines of its stream are the lines the
scanner numbers. Every token is non-empty, its text has `length` bytes, and
its blanks, `leadingWhitespace` bytes of them, are spaces, tabs, form feeds and
carriage returns. The first token starts after its blanks and each next one
where the one before it ended plus its blanks, so offsets increase. The text is
the blanks and text of each token in order, then blanks. A token lies on line
one plus the line breaks before it. The stream has one line more than line
breaks, its ranges list every token that is no line break once and in order,
and every token of range `j` lies on line `j + 1`. -/
theorem scan_tiles_source_and_numbers_lines (source : String) :
    let tokens := Token.scan source
    let stream := TokenStream.ofSource source
    (∀ token ∈ tokens, 0 < token.length ∧ token.text.utf8ByteSize = token.length ∧
        token.leadingWhitespace = token.gap.utf8ByteSize ∧
        ∀ c ∈ token.gap.toList, Token.isBlank c = true) ∧
      (∀ first ∈ tokens.head?, first.offset = first.leadingWhitespace) ∧
      (∀ i (next : i + 1 < tokens.length),
        tokens[i + 1].offset = tokens[i].stop + tokens[i + 1].leadingWhitespace) ∧
      tokens.Pairwise (fun a b => a.offset < b.offset) ∧
      (∃ trailing, (∀ c ∈ trailing, Token.isBlank c = true) ∧
        source.toList = Token.layout tokens ++ trailing) ∧
      (∀ i (inside : i < tokens.length),
        tokens[i].line = 1 + (tokens.take i).countP (·.kind == .newLine)) ∧
      stream.lineCount = 1 + tokens.countP (·.kind == .newLine) ∧
      stream.lines.toList.flatMap (fun range => List.range' range.1 (range.2 - range.1)) =
        tokens.zipIdx.filterMap (fun entry => if entry.1.kind == .newLine then none else some entry.2) ∧
      ∀ j range, stream.lines[j]? = some range → ∀ k, range.1 ≤ k → k < range.2 →
        ∃ token, stream.tokens[k]? = some token ∧ token.kind ≠ .newLine ∧ token.line = j + 1 := by
  intro tokens stream
  have read : Token.ReadFrom 0 1 tokens := Token.scan_readFrom source
  have lines : stream.lines.toList = TokenStream.lineRanges tokens 0 0 :=
    TokenStream.ofSource_lines_toList source
  refine ⟨fun token member => ?_, fun first isFirst => ?_, read.offset_succ, read.pairwise_offset,
    ?_, fun i inside => ?_, ?_, ?_, fun j range found k first last => ?_⟩
  · obtain ⟨_, _, tokenRead⟩ := read.readAt_of_mem token member
    refine ⟨tokenRead.length_pos, ?_, ?_, tokenRead.gap_blank⟩
    · rw [← Token.byteSize_toList, tokenRead.text_size]
    · rw [← Token.byteSize_toList, tokenRead.gap_size]
  · -- the first token is read at the start of the text
    cases listed : tokens with
    | nil => rw [listed] at isFirst; cases isFirst
    | cons head rest =>
      rw [listed] at isFirst read
      simp only [List.head?_cons, Option.mem_def, Option.some.injEq] at isFirst
      subst isFirst
      simpa using read.cons.1.offset_eq
  · obtain ⟨trailing, blank, tiled⟩ :=
      Token.scanFrom_tiles source.toList 0 1 [] (fun _ member => by cases member)
    rw [List.nil_append] at tiled
    exact ⟨trailing, blank, tiled⟩
  · rw [read.line_getElem i inside, Nat.add_comm]
  · rw [TokenStream.lineCount, Array.size_eq_length_toList, lines, TokenStream.lineRanges_length,
      Nat.add_comm]
  · rw [lines, TokenStream.lineRanges_flatMap tokens 0 0 (Nat.le_refl 0)]
    rfl
  · exact TokenStream.ofSource_token_of_range source found first last

end Reckon
