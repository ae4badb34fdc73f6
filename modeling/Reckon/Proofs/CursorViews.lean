import Reckon.Token.Navigation
import Reckon.Proofs.Tiling

/-!
Contract: a cursor never leaves its line, however it is navigated.

A cursor is `Cursor.InLine` when its view starts at the first token of its line
and ends at most one past the line's last token, with its index in the view.
Every navigation step moves the cursor to another index of its view, cuts the
view shorter, or starts afresh at the start of a line, so every step keeps this
for the cursor and for the saved slot (`Navigator.Valid.step`), and so does
every run of steps from the start of a line (`Navigator.Valid.run`).

Hence the token under a navigated cursor is no line break and lies on the
cursor's line (`Cursor.InLine.token?`), and the text from the cursor to the end
of its view is the slice of the source between the first token's offset and the
last token's end (`Cursor.InLine.textToEnd_slice`), by the tiling of
`Reckon.Proofs.Tiling`. Cutting a view ends it at the first token of the kind
at or after the cursor (`Cursor.until_spec`).

Owns: `Cursor.InLine`, `Navigator.Valid` and the facts above.
Does not own: how tokens and lines are made (`Reckon.Proofs.Tiling`).
-/

namespace Reckon

namespace Cursor

variable {c found : Cursor} {kind : TokenKind}

/-! ### One cursor -/

theorem advance_of_lt (inside : c.index < c.stop) : c.advance = { c with index := c.index + 1 } := by
  simp [advance, inside]

theorem advance_of_not_lt (outside : ¬c.index < c.stop) : c.advance = c := by
  simp [advance, outside]

/-- Inside the view, a cursor is on the token at its index. -/
theorem isAt_iff (inside : c.index < c.stop) :
    c.isAt kind = true ↔ c.stream.tokens[c.index]?.map Token.kind = some kind := by
  simp [isAt, kind?, token?, inside]

/-- A search finds the first token of the kind at or after the cursor in its view. -/
theorem seek?_eq_some (sought : c.seek? kind = some found) :
    found = { c with index := found.index } ∧ c.index ≤ found.index ∧ found.index < c.stop ∧
      c.stream.tokens[found.index]?.map Token.kind = some kind ∧
      ∀ j, c.index ≤ j → j < found.index → c.stream.tokens[j]?.map Token.kind ≠ some kind := by
  induction c using Cursor.seek?.induct kind with
  | case1 c inside onKind =>
    rw [Cursor.seek?.eq_1 c, dif_pos inside, if_pos onKind] at sought
    cases sought
    exact ⟨rfl, Nat.le_refl _, inside, (isAt_iff inside).mp onKind, fun j lo hi => by omega⟩
  | case2 c inside notKind inductionHypothesis =>
    rw [Cursor.seek?.eq_1 c, dif_pos inside, if_neg notKind] at sought
    obtain ⟨shape, lo, hi, onKind, before⟩ := inductionHypothesis sought
    rw [advance_of_lt inside] at shape lo hi onKind before
    refine ⟨shape, by dsimp only at lo; omega, hi, onKind, fun j lo' hi' => ?_⟩
    -- the token at the cursor is not of the kind, and the search went on after it
    by_cases here : j = c.index
    · subst here
      exact fun onKind' => notKind ((isAt_iff inside).mpr onKind')
    · exact before j (by dsimp only; omega) hi'
  | case3 c outside =>
    rw [Cursor.seek?.eq_1 c, dif_neg outside] at sought
    cases sought

/-- A search that finds nothing met no token of the kind. -/
theorem seek?_eq_none (sought : c.seek? kind = none) :
    ∀ j, c.index ≤ j → j < c.stop → c.stream.tokens[j]?.map Token.kind ≠ some kind := by
  induction c using Cursor.seek?.induct kind with
  | case1 c inside onKind =>
    rw [Cursor.seek?.eq_1 c, dif_pos inside, if_pos onKind] at sought
    cases sought
  | case2 c inside notKind inductionHypothesis =>
    rw [Cursor.seek?.eq_1 c, dif_pos inside, if_neg notKind] at sought
    have after := inductionHypothesis sought
    rw [advance_of_lt inside] at after
    intro j lo hi
    by_cases here : j = c.index
    · subst here
      exact fun onKind' => notKind ((isAt_iff inside).mpr onKind')
    · exact after j (by dsimp only; omega) hi
  | case3 c outside =>
    intro j lo hi
    omega

/-- Cutting a view before a kind keeps the cursor and the start of its view, and
ends the view at the first token of the kind at or after the cursor, if there
is one in the view. -/
theorem until_spec (c : Cursor) (kind : TokenKind) :
    (c.until kind).index = c.index ∧ (c.until kind).start = c.start ∧
      (c.until kind).line = c.line ∧ (c.until kind).stream = c.stream ∧
      ((∃ j, c.index ≤ j ∧ j < c.stop ∧ c.stream.tokens[j]?.map Token.kind = some kind ∧
          (∀ i, c.index ≤ i → i < j → c.stream.tokens[i]?.map Token.kind ≠ some kind) ∧
          (c.until kind).stop = j) ∨
        ((∀ i, c.index ≤ i → i < c.stop → c.stream.tokens[i]?.map Token.kind ≠ some kind) ∧
          (c.until kind).stop = c.stop)) := by
  unfold Cursor.until
  cases sought : c.seek? kind with
  | none => exact ⟨rfl, rfl, rfl, rfl, .inr ⟨seek?_eq_none sought, rfl⟩⟩
  | some found =>
    obtain ⟨-, lo, hi, onKind, before⟩ := seek?_eq_some sought
    exact ⟨rfl, rfl, rfl, rfl, .inl ⟨found.index, lo, hi, onKind, before, rfl⟩⟩

/-- Skipping words moves the cursor forward inside its view. -/
theorem skipWords_eq (bounded : c.index ≤ c.stop) :
    ∃ j, c.skipWords = { c with index := j } ∧ c.index ≤ j ∧ j ≤ c.stop := by
  induction c using Cursor.skipWords.induct with
  | case1 c inside onWord inductionHypothesis =>
    have moved := advance_of_lt inside
    obtain ⟨j, skipped, lo, hi⟩ := inductionHypothesis (by rw [moved]; dsimp only; omega)
    rw [Cursor.skipWords.eq_1 c, dif_pos inside, if_pos onWord, skipped]
    rw [moved] at lo hi ⊢
    exact ⟨j, rfl, by dsimp only at lo; omega, hi⟩
  | case2 c inside notWord =>
    rw [Cursor.skipWords.eq_1 c, dif_pos inside, if_neg notWord]
    exact ⟨c.index, rfl, Nat.le_refl _, bounded⟩
  | case3 c outside =>
    rw [Cursor.skipWords.eq_1 c, dif_neg outside]
    exact ⟨c.index, rfl, Nat.le_refl _, bounded⟩

/-- Joining the tokens after a first text, each with its blanks, lays them out
after it. -/
theorem foldl_layout (tokens : List Token) (text : String) :
    (tokens.foldl (fun acc token => acc ++ token.gap ++ token.text) text).toList =
      text.toList ++ Token.layout tokens := by
  induction tokens generalizing text with
  | nil => simp
  | cons token rest inductionHypothesis =>
    rw [List.foldl_cons, inductionHypothesis, Token.layout_cons]
    simp only [String.toList_append, List.append_assoc]

/-- The text from a cursor inside its view is the text of its token, then each
later token of the view after the blanks before it. -/
theorem textToEnd_toList (inside : c.index < c.stop) {first : Token} {rest : List Token}
    (viewed : (c.stream.tokens.toList.drop c.index).take (c.stop - c.index) = first :: rest) :
    c.textToEnd.toList = first.text.toList ++ Token.layout rest := by
  unfold Cursor.textToEnd
  rw [if_pos inside, Array.toList_extract, List.extract_eq_take_drop, viewed]
  exact foldl_layout rest first.text

/-! ### Views inside a line -/

/-- `c` is a cursor of `stream` whose view lies in its line: the view starts at
the first token of line `c.line` (counted from one) and ends at most one past
the line's last token, and the index lies in the view. -/
structure InLine (stream : TokenStream) (c : Cursor) : Prop where
  stream_eq : c.stream = stream
  in_range : ∃ range, stream.lines[c.line - 1]? = some range ∧ 0 < c.line ∧ c.start = range.1 ∧
    c.stop ≤ range.2
  start_le : c.start ≤ c.index
  index_le : c.index ≤ c.stop

namespace InLine

variable {stream : TokenStream}

/-- Another index in the view. -/
theorem withIndex (inLine : c.InLine stream) {j : Nat} (lo : c.start ≤ j) (hi : j ≤ c.stop) :
    ({ c with index := j } : Cursor).InLine stream :=
  ⟨inLine.stream_eq, inLine.in_range, lo, hi⟩

/-- A view cut shorter, not before the index. -/
theorem withStop (inLine : c.InLine stream) {j : Nat} (lo : c.index ≤ j) (hi : j ≤ c.stop) :
    ({ c with stop := j } : Cursor).InLine stream := by
  obtain ⟨range, found, positive, startEq, stopLe⟩ := inLine.in_range
  exact ⟨inLine.stream_eq, ⟨range, found, positive, startEq, by dsimp only; omega⟩,
    inLine.start_le, lo⟩

theorem advance (inLine : c.InLine stream) : c.advance.InLine stream := by
  by_cases inside : c.index < c.stop
  · rw [advance_of_lt inside]
    exact inLine.withIndex (by have := inLine.start_le; omega) inside
  · rw [advance_of_not_lt inside]
    exact inLine

theorem next? (inLine : c.InLine stream) (moved : c.next? = some found) : found.InLine stream := by
  unfold Cursor.next? at moved
  dsimp only at moved
  split at moved
  · cases moved
  · cases moved
    exact inLine.advance

theorem previous? (inLine : c.InLine stream) (moved : c.previous? = some found) :
    found.InLine stream := by
  unfold Cursor.previous? at moved
  split at moved
  · cases moved
    exact inLine.withIndex (by omega) (by have := inLine.index_le; omega)
  · cases moved

theorem skip? (inLine : c.InLine stream) {overWords : Bool} (moved : c.skip? kind overWords = some found) :
    found.InLine stream := by
  unfold Cursor.skip? at moved
  have here : (if overWords && kind != .word then c.skipWords else c).InLine stream := by
    split
    · obtain ⟨j, skipped, lo, hi⟩ := skipWords_eq inLine.index_le
      rw [skipped]
      exact inLine.withIndex (by have := inLine.start_le; omega) hi
    · exact inLine
  dsimp only at moved
  generalize (if overWords && kind != .word then c.skipWords else c) = start at here moved
  by_cases onKind : start.isAt kind = true
  · rw [if_pos onKind] at moved
    cases moved
    exact here.advance
  · rw [if_neg onKind] at moved
    cases moved

theorem seek? (inLine : c.InLine stream) (moved : c.seek? kind = some found) : found.InLine stream := by
  obtain ⟨shape, lo, hi, -⟩ := seek?_eq_some moved
  rw [shape]
  exact inLine.withIndex (by have := inLine.start_le; omega) (Nat.le_of_lt hi)

theorem last? (inLine : c.InLine stream) (moved : c.last? = some found) : found.InLine stream := by
  unfold Cursor.last? at moved
  split at moved
  · cases moved
    exact inLine.withIndex (by omega) (by omega)
  · cases moved

theorem endOfView (inLine : c.InLine stream) : c.endOfView.InLine stream :=
  inLine.withIndex (by have := inLine.start_le; have := inLine.index_le; omega) (Nat.le_refl _)

theorem «until» (inLine : c.InLine stream) : (c.until kind).InLine stream := by
  unfold Cursor.until
  cases sought : c.seek? kind with
  | none => exact inLine
  | some found =>
    obtain ⟨-, lo, hi, -⟩ := seek?_eq_some sought
    exact inLine.withStop lo (Nat.le_of_lt hi)

/-- Resuming clamps any position into the view, which is never empty of
positions: its start is at most its end. -/
theorem resume (inLine : c.InLine stream) (other : Cursor) : (c.resume other).InLine stream := by
  have := inLine.start_le
  have := inLine.index_le
  exact inLine.withIndex (by omega) (by omega)

/-! ### Views of a scanned text -/

section Scanned

variable {source : String}

/-- The token under a cursor in its line is no line break and lies on the
cursor's line. -/
theorem token? (inLine : c.InLine (TokenStream.ofSource source)) :
    c.token? = none ∨
      ∃ token, c.token? = some token ∧ token.kind ≠ .newLine ∧ token.line = c.line := by
  by_cases inside : c.index < c.stop
  · obtain ⟨range, found, positive, startEq, stopLe⟩ := inLine.in_range
    obtain ⟨token, lookup, notBreak, onLine⟩ := TokenStream.ofSource_token_of_range source found
      (k := c.index) (by have := inLine.start_le; omega) (by omega)
    refine .inr ⟨token, ?_, notBreak, by omega⟩
    simp [Cursor.token?, inside, inLine.stream_eq, lookup]
  · exact .inl (by simp [Cursor.token?, inside])

/-- The text from a cursor to the end of its view is the source between the
offset of the token under the cursor and the end of the last token of the
view. -/
theorem textToEnd_slice (inLine : c.InLine (TokenStream.ofSource source))
    (inside : c.index < c.stop) :
    ∃ before after first last, source = before ++ c.textToEnd ++ after ∧
      (TokenStream.ofSource source).tokens[c.index]? = some first ∧
      (TokenStream.ofSource source).tokens[c.stop - 1]? = some last ∧
      before.utf8ByteSize = first.offset ∧ (before ++ c.textToEnd).utf8ByteSize = last.stop := by
  obtain ⟨range, found, -, -, stopLe⟩ := inLine.in_range
  have within := (TokenStream.ofSource_range_le source found).2
  have tokensList := TokenStream.ofSource_tokens_toList source
  rw [← Array.length_toList, tokensList] at within
  have read := Token.scan_readFrom source
  obtain ⟨trailing, -, tiled⟩ := Token.scanFrom_tiles source.toList 0 1 []
    (fun _ member => by cases member)
  rw [List.nil_append] at tiled
  -- the tokens of the view, from the one under the cursor to the last one
  obtain ⟨first, rest, viewed⟩ : ∃ first rest,
      ((Token.scan source).drop c.index).take (c.stop - c.index) = first :: rest := by
    cases listed : ((Token.scan source).drop c.index).take (c.stop - c.index) with
    | nil => simp at listed; omega
    | cons first rest => exact ⟨first, rest, rfl⟩
  have firstAt : (Token.scan source)[c.index]? = some first := by
    have := congrArg (·[0]?) viewed
    simpa [List.getElem?_take, show 0 < c.stop - c.index by omega] using this
  have upTo : (Token.scan source).take c.stop =
      (Token.scan source).take c.index ++ first :: rest := by
    rw [← viewed, ← List.take_add, Nat.add_sub_cancel' (by have := inLine.start_le; omega)]
  have text := textToEnd_toList inside (by rw [inLine.stream_eq, tokensList, viewed])
  have firstInside : c.index < (Token.scan source).length := by omega
  have firstOffset := read.offset_eq_layout c.index firstInside
  have lastStop := read.stop_eq_layout (c.stop - 1) (by omega)
  rw [List.getElem?_eq_getElem firstInside, Option.some.injEq] at firstAt
  rw [firstAt] at firstOffset
  refine ⟨String.ofList (Token.layout ((Token.scan source).take c.index) ++ first.gap.toList),
    String.ofList (Token.layout ((Token.scan source).drop c.stop) ++ trailing), first,
    (Token.scan source)[c.stop - 1], ?_,
    by rw [← Array.getElem?_toList, tokensList, List.getElem?_eq_getElem firstInside, firstAt],
    by rw [← Array.getElem?_toList, tokensList, List.getElem?_eq_getElem (by omega)], ?_, ?_⟩
  · -- the source is the layout of the tokens before, in and after the view
    have whole : Token.layout (Token.scan source) =
        Token.layout ((Token.scan source).take c.index) ++ first.gap.toList ++
          first.text.toList ++ Token.layout rest ++
            Token.layout ((Token.scan source).drop c.stop) := by
      calc Token.layout (Token.scan source)
          = Token.layout ((Token.scan source).take c.stop ++ (Token.scan source).drop c.stop) := by
            rw [List.take_append_drop]
        _ = _ := by simp only [upTo, Token.layout_append, Token.layout_cons, List.append_assoc]
    apply String.ext
    rw [String.toList_append, String.toList_append, String.toList_ofList, String.toList_ofList,
      text, tiled]
    change Token.layout (Token.scan source) ++ trailing = _
    simp only [whole, List.append_assoc]
  · rw [← Token.byteSize_toList, String.toList_ofList, firstOffset, Nat.zero_add]
  · rw [← Token.byteSize_toList, String.toList_append, String.toList_ofList, text, lastStop,
      Nat.sub_add_cancel (by omega), upTo]
    simp only [Token.layout_append, Token.layout_cons, Token.byteSize_append, Nat.zero_add]
    omega

end Scanned

end InLine

end Cursor

namespace TokenStream

/-- The start of a line views the whole line. -/
theorem line?_inLine {stream : TokenStream}
    (ordered : ∀ (j : Nat) (range : Nat × Nat), stream.lines[j]? = some range → range.1 ≤ range.2)
    {index : Nat} {c : Cursor} (found : stream.line? index = some c) : c.InLine stream := by
  unfold line? at found
  cases listed : stream.lines[index]? with
  | none => rw [listed] at found; cases found
  | some range =>
    rw [listed] at found
    cases found
    exact ⟨rfl, ⟨range, by simpa using listed, Nat.succ_pos _, rfl, Nat.le_refl _⟩, Nat.le_refl _,
      ordered index range listed⟩

end TokenStream

/-! ### Navigation -/

namespace Navigator

/-- A navigator over a stream whose lines are ranges, with its cursor and its
saved slot both inside their lines. -/
structure Valid (n : Navigator) : Prop where
  lines_ordered : ∀ (j : Nat) (range : Nat × Nat), n.stream.lines[j]? = some range → range.1 ≤ range.2
  cursor_inLine : n.cursor.InLine n.stream
  saved_inLine : n.saved.InLine n.stream

variable {n : Navigator}

/-- Every position a step finds lies in its line. -/
theorem Valid.move (valid : n.Valid) {c : Cursor} :
    ∀ navigation, n.move navigation = some c → c.InLine n.stream
  | .next, moved => valid.cursor_inLine.next? moved
  | .previous, moved => valid.cursor_inLine.previous? moved
  | .advance, moved => by cases moved; exact valid.cursor_inLine.advance
  | .skip _ _, moved => valid.cursor_inLine.skip? moved
  | .seek _, moved => valid.cursor_inLine.seek? moved
  | .last, moved => valid.cursor_inLine.last? moved
  | .endOfView, moved => by cases moved; exact valid.cursor_inLine.endOfView
  | .cutBefore _, moved => by cases moved; exact valid.cursor_inLine.until
  | .resume, moved => by cases moved; exact valid.cursor_inLine.resume n.saved
  | .line _, moved => TokenStream.line?_inLine valid.lines_ordered moved
  | .save, moved => by cases moved; exact valid.cursor_inLine
  | .restore, moved => by cases moved; exact valid.saved_inLine

/-- The step lemma: every step keeps the cursor and the slot inside their lines. -/
theorem Valid.step (valid : n.Valid) (navigation : Navigation) : (n.step navigation).Valid where
  lines_ordered := valid.lines_ordered
  cursor_inLine := by
    show ((n.move navigation).getD n.cursor).InLine n.stream
    cases moved : n.move navigation with
    | none => exact valid.cursor_inLine
    | some c => exact valid.move navigation moved
  saved_inLine := by
    show (n.savedAfter navigation).InLine n.stream
    cases navigation
    case save => exact valid.cursor_inLine
    all_goals exact valid.saved_inLine

/-- The run lemma: every run of steps keeps the cursor and the slot inside their lines. -/
theorem Valid.run (valid : n.Valid) (navigations : List Navigation) : (n.run navigations).Valid := by
  induction navigations generalizing n with
  | nil => exact valid
  | cons navigation rest inductionHypothesis => exact inductionHypothesis (valid.step navigation)

@[simp] theorem step_stream (navigation : Navigation) : (n.step navigation).stream = n.stream :=
  rfl

@[simp] theorem run_stream (navigations : List Navigation) : (n.run navigations).stream = n.stream := by
  induction navigations generalizing n with
  | nil => rfl
  | cons navigation rest inductionHypothesis => exact inductionHypothesis

/-- A step that finds nothing leaves the cursor where it was. -/
theorem step_cursor_of_move_eq_none {navigation : Navigation} (nothing : n.move navigation = none) :
    (n.step navigation).cursor = n.cursor := by
  show (n.move navigation).getD n.cursor = n.cursor
  rw [nothing, Option.getD_none]

theorem start?_stream {stream : TokenStream} {index : Nat} (started : start? stream index = some n) :
    n.stream = stream := by
  unfold start? at started
  obtain ⟨c, -, rfl⟩ := Option.map_eq_some_iff.mp started
  rfl

theorem start?_valid {stream : TokenStream}
    (ordered : ∀ (j : Nat) (range : Nat × Nat), stream.lines[j]? = some range → range.1 ≤ range.2)
    {index : Nat} (started : start? stream index = some n) : n.Valid := by
  unfold start? at started
  cases found : stream.line? index with
  | none => rw [found] at started; cases started
  | some c =>
    rw [found] at started
    cases started
    have inLine := TokenStream.line?_inLine ordered found
    exact ⟨ordered, inLine, inLine⟩

end Navigator

/-! ### Navigating a scanned text -/

theorem TokenStream.ofSource_lines_ordered (source : String) :
    ∀ (j : Nat) (range : Nat × Nat), (ofSource source).lines[j]? = some range → range.1 ≤ range.2 :=
  fun _ _ found => (ofSource_range_le source found).1

/-- Every line of a scanned text can be navigated from its start, and every run
of steps from there keeps the cursor and the saved slot inside their lines: a
step that finds nothing leaves the cursor in place, the cursor's view never
ends before it starts, the token under either is no line break and lies on
its line, the text from either to the end of its view is the slice of the
source between the first and the last token of the view, and cutting either's
view ends it at the first token of the kind ahead. -/
theorem navigation_keeps_cursors_in_their_line (source : String) :
    (∀ i, i < (TokenStream.ofSource source).lineCount →
      ∃ n, Navigator.start? (TokenStream.ofSource source) i = some n) ∧
    ∀ i (n : Navigator) navigations, Navigator.start? (TokenStream.ofSource source) i = some n →
      let now := n.run navigations
      (∀ navigation, now.move navigation = none → (now.step navigation).cursor = now.cursor) ∧
      now.cursor.start ≤ now.cursor.stop ∧
      ∀ c ∈ [now.cursor, now.saved], c.InLine (TokenStream.ofSource source) ∧
        (c.token? = none ∨
          ∃ token, c.token? = some token ∧ token.kind ≠ .newLine ∧ token.line = c.line) ∧
        (c.index < c.stop → ∃ before after first last, source = before ++ c.textToEnd ++ after ∧
          c.stream.tokens[c.index]? = some first ∧ c.stream.tokens[c.stop - 1]? = some last ∧
          before.utf8ByteSize = first.offset ∧ (before ++ c.textToEnd).utf8ByteSize = last.stop) ∧
        ∀ kind, (c.until kind).index = c.index ∧ (c.until kind).start = c.start ∧
          ((∃ j, c.index ≤ j ∧ j < c.stop ∧ c.stream.tokens[j]?.map Token.kind = some kind ∧
              (∀ k, c.index ≤ k → k < j → c.stream.tokens[k]?.map Token.kind ≠ some kind) ∧
              (c.until kind).stop = j) ∨
            ((∀ k, c.index ≤ k → k < c.stop → c.stream.tokens[k]?.map Token.kind ≠ some kind) ∧
              (c.until kind).stop = c.stop)) := by
  have ordered := TokenStream.ofSource_lines_ordered source
  refine ⟨fun i inside => ?_, fun i n navigations started => ?_⟩
  · simp [Navigator.start?, TokenStream.line?, Array.getElem?_eq_getElem inside]
  · intro now
    have valid := (Navigator.start?_valid ordered started).run navigations
    have sameStream : now.stream = TokenStream.ofSource source := by
      rw [Navigator.run_stream, Navigator.start?_stream started]
    have cursorIn : now.cursor.InLine (TokenStream.ofSource source) :=
      sameStream ▸ valid.cursor_inLine
    refine ⟨fun _ nothing => Navigator.step_cursor_of_move_eq_none nothing,
      Nat.le_trans cursorIn.start_le cursorIn.index_le, fun c member => ?_⟩
    have inLine : c.InLine (TokenStream.ofSource source) := by
      simp only [List.mem_cons, List.not_mem_nil, or_false] at member
      rcases member with rfl | rfl
      · exact cursorIn
      · exact sameStream ▸ valid.saved_inLine
    refine ⟨inLine, inLine.token?, ?_, fun kind => ?_⟩
    · rw [inLine.stream_eq]
      exact inLine.textToEnd_slice
    · obtain ⟨index, start, -, -, cut⟩ := Cursor.until_spec c kind
      exact ⟨index, start, cut⟩

end Reckon
