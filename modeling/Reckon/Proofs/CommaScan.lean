import Reckon.Proofs.LineBreaks
import Reckon.Parse.Operand

/-!
Contract: writing a point for the comma of a comma-joined pair of digit runs
changes the scan at that pair only.

A comma-joined pair (`CommaJoined`) is a number token of digits, a comma and a
number token of digits, with no blank before the comma or the second number.
Written with a point for the comma, the same text scans to the same tokens with
the three tokens of the pair replaced by one number token (`Token.joinPoint`):
every token before and after it keeps its text, offset, line and blanks
(`Token.scan_point_for_comma`). The lines of the stream are the same lines, each
range read through `liftIndex`, which maps a position of the joined stream to
the same token in the other (`TokenStream.ofSource_point_for_comma`).

The crux is that the longest match at a position never looks two characters
past its end unless the first of them is a point (`Token.front_append_digit`):
the scanner reaches the first digit of the pair the same way in both texts.

Owns: `CommaJoined`, `Token.joinPoint`, `liftIndex` and the facts above.
Does not own: how the parsers read the joined token (`Reckon.Proofs.DecimalComma`).
-/

namespace Reckon

/-- Two digit runs joined by a comma with no blank on either side. -/
structure CommaJoined (first comma second : Token) : Prop where
  firstNumber : first.kind = .number
  firstDigits : Parse.isDigitRun first.text = true
  isComma : comma.kind = .comma
  commaTight : comma.leadingWhitespace = 0
  secondNumber : second.kind = .number
  secondDigits : Parse.isDigitRun second.text = true
  secondTight : second.leadingWhitespace = 0

/-- The number token that a comma-joined pair becomes with a point for its comma. -/
def Token.joinPoint (first second : Token) : Token :=
  { first with length := first.length + 1 + second.length,
               text := first.text ++ "." ++ second.text }

/-- Where token `j` of a stream whose tokens `k` to `k + 2` were joined into one
stands in the stream before the join. -/
def liftIndex (k j : Nat) : Nat :=
  if j ≤ k then j else j + 2

theorem liftIndex_of_le {k j : Nat} (before : j ≤ k) : liftIndex k j = j := by
  rw [liftIndex, if_pos before]

theorem liftIndex_of_lt {k j : Nat} (after : k < j) : liftIndex k j = j + 2 := by
  rw [liftIndex, if_neg (Nat.not_le_of_lt after)]

theorem liftIndex_lt_iff {k i j : Nat} : liftIndex k i < liftIndex k j ↔ i < j := by
  unfold liftIndex
  split <;> split <;> omega

theorem liftIndex_le_iff {k i j : Nat} : liftIndex k i ≤ liftIndex k j ↔ i ≤ j := by
  unfold liftIndex
  split <;> split <;> omega

theorem liftIndex_inj {k i j : Nat} : liftIndex k i = liftIndex k j ↔ i = j := by
  unfold liftIndex
  split <;> split <;> omega

namespace Token

/-! ### How far a match looks -/

theorem byteSize_cons (c : Char) (cs : List Char) : byteSize (c :: cs) = c.utf8Size + byteSize cs :=
  rfl

theorem byteSize_append (cs ds : List Char) : byteSize (cs ++ ds) = byteSize cs + byteSize ds := by
  induction cs with
  | nil => simp [byteSize]
  | cons c cs inductionHypothesis =>
    rw [List.cons_append, byteSize_cons, byteSize_cons, inductionHypothesis, Nat.add_assoc]

theorem length_le_byteSize (cs : List Char) : cs.length ≤ byteSize cs := by
  induction cs with
  | nil => exact Nat.le_refl 0
  | cons c cs inductionHypothesis =>
    rw [byteSize_cons, List.length_cons]
    have := Char.utf8Size_pos c
    omega

theorem byteSize_toList (s : String) : byteSize s.toList = s.utf8ByteSize := by
  rw [← String.ofList_toList (s := s), String.toList_ofList]
  induction s.toList with
  | nil => rfl
  | cons c cs inductionHypothesis =>
    rw [byteSize_cons, inductionHypothesis, String.ofList_cons, String.utf8ByteSize_append,
      String.utf8ByteSize_singleton]

/-- A run that stops inside `R` stops there whatever follows the character after `R`. -/
theorem takeWhile_append_cons {p : Char → Bool} {R Z : List Char} {x : Char} (Z' : List Char)
    (short : ((R ++ x :: Z).takeWhile p).length ≤ R.length) :
    (R ++ x :: Z').takeWhile p = (R ++ x :: Z).takeWhile p := by
  rw [List.takeWhile_append] at short ⊢
  rw [List.takeWhile_append]
  split
  · rename_i whole
    rw [if_pos whole] at short
    -- the run took all of `R`, so it stopped at `x`
    cases stops : p x with
    | true =>
      rw [List.takeWhile_cons_of_pos stops] at short
      simp only [List.length_append, List.length_cons] at short
      omega
    | false =>
      rw [List.takeWhile_cons_of_neg (by simp [stops]), List.takeWhile_cons_of_neg (by simp [stops])]
  · rfl

theorem length_takeWhile_le_numberTail (rest : List Char) :
    (rest.takeWhile Char.isDigit).length ≤ numberTail rest := by
  unfold numberTail
  dsimp only
  split
  · split <;> omega
  · exact Nat.le_refl _

/-- The digits of a number that ends inside `R` stop inside `R`, before the digit after it. -/
theorem takeWhile_digits_lt {R Z : List Char} {x : Char} (digit : x.isDigit = true)
    (short : ((R ++ x :: Z).takeWhile Char.isDigit).length ≤ R.length) :
    ((R ++ x :: Z).takeWhile Char.isDigit).length < R.length ∧
      (R ++ x :: Z).takeWhile Char.isDigit = R.takeWhile Char.isDigit := by
  rw [List.takeWhile_append] at short ⊢
  split
  · rename_i whole
    rw [if_pos whole, List.takeWhile_cons_of_pos digit] at short
    simp only [List.length_append, List.length_cons] at short
    omega
  · rename_i stopped
    exact ⟨Nat.lt_of_le_of_ne (List.takeWhile_prefix _).length_le stopped, rfl⟩

/-- A number that ends inside `R` ends there whatever follows the digit after `R`. -/
theorem numberTail_append_digit {R Z : List Char} {x : Char} (digit : x.isDigit = true)
    (Z' : List Char) (short : numberTail (R ++ x :: Z) ≤ R.length) :
    numberTail (R ++ x :: Z') = numberTail (R ++ x :: Z) := by
  have wholeShort := Nat.le_trans (length_takeWhile_le_numberTail _) short
  obtain ⟨inside, whole⟩ := takeWhile_digits_lt digit wholeShort
  obtain ⟨-, whole'⟩ := takeWhile_digits_lt (Z := Z') digit
    (by rw [takeWhile_append_cons Z' wholeShort]; exact wholeShort)
  rw [whole] at inside
  unfold numberTail at short ⊢
  dsimp only at short ⊢
  rw [whole, List.drop_append_of_le_length (Nat.le_of_lt inside)] at short ⊢
  rw [whole', List.drop_append_of_le_length (Nat.le_of_lt inside)]
  -- what follows the digits starts inside `R`
  have dropped := List.length_drop (l := R) (i := (R.takeWhile Char.isDigit).length)
  generalize R.drop (R.takeWhile Char.isDigit).length = afterWhole at short dropped ⊢
  rcases afterWhole with _ | ⟨y, _ | ⟨d, more⟩⟩
  · simp at dropped; omega
  · by_cases point : y = '.'
    · -- a point right before `x`: the digit `x` would make the number reach past `R`
      subst point
      simp only [List.cons_append, List.nil_append, List.length_cons, List.length_nil, digit,
        if_true] at short dropped
      omega
    · simp [point]
  · by_cases point : y = '.'
    · subst point
      simp only [List.cons_append] at short ⊢
      split
      · rename_i fraction
        rw [if_pos fraction] at short
        simp only [List.length_cons] at dropped
        rw [takeWhile_append_cons (Z := Z) Z' (by omega)]
      · rfl
    · simp [point]

theorem append_cons_eq_cons {R Z : List Char} {x c : Char} {tail : List Char} (different : x ≠ c)
    (appended : R ++ x :: Z = c :: tail) : ∃ R', R = c :: R' ∧ tail = R' ++ x :: Z := by
  cases R with
  | nil => cases appended; exact absurd rfl different
  | cons y ys =>
    simp only [List.cons_append, List.cons.injEq] at appended
    exact ⟨ys, by rw [appended.1], appended.2.symm⟩

theorem front_of_digit {c : Char} (number : c.isDigit = true) (rest : List Char) :
    front c rest = (some .number, numberTail rest) := by
  unfold front
  rw [if_pos number]

theorem front_of_identifier {c : Char} (number : ¬c.isDigit = true)
    (word : (Text.isIdentifierStart c || c == '_') = true) (rest : List Char) :
    front c rest = (some ((keyword? (String.ofList (c :: rest.takeWhile Text.isIdentifierPart))).getD
      .word), (rest.takeWhile Text.isIdentifierPart).length) := by
  unfold front
  rw [if_neg number, if_pos word]

theorem front_quote (rest : List Char) :
    front '"' rest =
      let body := rest.takeWhile fun d => !(d == '"' || isLineBreakChar d)
      match rest.drop body.length with
      | '"' :: _ => (some .text, body.length + 1)
      | _ => (some .unknown, body.length) := by
  rw [front]
  rfl

theorem front_comment (more : List Char) :
    front '/' ('/' :: more) = (some .comment, 1 + (more.takeWhile fun d => !isLineBreakChar d).length) := by
  rw [front]
  rfl

theorem front_lineBreak (rest : List Char) : front '\r' ('\n' :: rest) = (some .newLine, 1) := by
  unfold front
  rfl

theorem front_blank {c : Char} (blank : isBlank c = true) {rest : List Char}
    (notBreak : c = '\r' → rest.head? ≠ some '\n') :
    front c rest = (none, (rest.takeWhile isBlank).length) := by
  have : c = ' ' ∨ c = '\t' ∨ c = '\x0c' ∨ c = '\r' := by
    simpa [isBlank, or_assoc] using blank
  rcases this with rfl | rfl | rfl | rfl
  · unfold front; rfl
  · unfold front; rfl
  · unfold front; rfl
  · -- a carriage return is a blank unless a line feed follows it
    have notStart : Text.isIdentifierStart '\r' = false := by decide
    cases rest with
    | nil => unfold front; rfl
    | cons y ys =>
      have notFeed : y ≠ '\n' := fun feed => notBreak rfl (by rw [feed]; rfl)
      unfold front
      split
      all_goals simp_all [isBlank]

/-- The longest match at `c` that ends inside `R` is the same whatever follows the digit
after `R`: a match looks at most one character past its end, or two after a point. -/
theorem front_append_digit (c : Char) {R Z : List Char} {x : Char} (digit : x.isDigit = true)
    (Z' : List Char) (short : (front c (R ++ x :: Z)).2 ≤ R.length) :
    front c (R ++ x :: Z') = front c (R ++ x :: Z) := by
  have notQuote : x ≠ '"' := by rintro rfl; simp at digit
  by_cases number : c.isDigit = true
  · rw [front_of_digit number] at short ⊢
    rw [front_of_digit number, numberTail_append_digit digit Z' short]
  by_cases word : (Text.isIdentifierStart c || c == '_') = true
  · rw [front_of_identifier number word] at short ⊢
    rw [front_of_identifier number word, takeWhile_append_cons Z' short]
  by_cases blank : isBlank c = true
  · -- blanks, or a carriage return and a line feed: the character after `c` is the same
    have sameHead : (R ++ x :: Z').head? = (R ++ x :: Z).head? := by
      rw [List.head?_append, List.head?_append]
      rfl
    by_cases lineBreak : c = '\r' ∧ (R ++ x :: Z).head? = some '\n'
    · obtain ⟨rfl, headFeed⟩ := lineBreak
      rcases R with _ | ⟨r, R⟩
      · cases headFeed
        simp at digit
      · cases headFeed
        rw [List.cons_append, List.cons_append, front_lineBreak, front_lineBreak]
    · have notBreak : c = '\r' → (R ++ x :: Z).head? ≠ some '\n' :=
        fun carriage headFeed => lineBreak ⟨carriage, headFeed⟩
      rw [front_blank blank notBreak] at short ⊢
      rw [front_blank blank (sameHead ▸ notBreak), takeWhile_append_cons Z' short]
  unfold front
  rw [if_neg number, if_neg word, if_neg number, if_neg word]
  split
  case h_1 =>
    -- a text literal: its body ends inside `R`, and so does the search for its closing quote
    rw [front_quote] at short
    dsimp only at short ⊢
    have bodyShort : ((R ++ x :: Z).takeWhile fun d => !(d == '"' || isLineBreakChar d)).length ≤
        R.length := by
      split at short <;> (simp only at short; omega)
    rw [takeWhile_append_cons Z' bodyShort, List.drop_append_of_le_length bodyShort,
      List.drop_append_of_le_length bodyShort]
    generalize R.drop _ = afterBody
    rcases afterBody with _ | ⟨y, ys⟩
    · simp [notQuote]
    · by_cases quote : y = '"' <;> simp [quote]
  case h_2 =>
    -- a comment: it starts inside `R` and runs to a line break inside `R`
    rename_i more appended
    obtain ⟨R', rfl, rfl⟩ := append_cons_eq_cons (by rintro rfl; simp at digit) appended
    rw [List.cons_append, front_comment] at short
    simp only [List.cons_append, List.length_cons] at short ⊢
    rw [takeWhile_append_cons (Z := Z) Z' (by omega)]
  all_goals (rcases R with _ | ⟨r, R⟩ <;> simp_all)

/-! ### Scanning up to the pair -/

/-- Every token of a scan lies at or after the offset it starts from. -/
theorem offset_le_of_mem_scanFrom (input : List Char) (offset line : Nat) (gap : List Char) :
    ∀ token ∈ scanFrom input offset line gap, offset ≤ token.offset := by
  match input with
  | [] => simp [scanFrom.eq_1]
  | c :: rest =>
    rcases found : front c rest with ⟨_ | kind, extra⟩
    · rw [scanFrom_cons_skip offset line gap found]
      intro token member
      have := offset_le_of_mem_scanFrom (rest.drop extra) _ line _ token member
      omega
    · rw [scanFrom_cons_token offset line gap found]
      intro token member
      rcases List.mem_cons.mp member with rfl | later
      · exact Nat.le_refl _
      · have := offset_le_of_mem_scanFrom (rest.drop extra) _ _ _ token later
        omega
termination_by input.length
decreasing_by all_goals (simp only [List.length_drop, List.length_cons]; omega)

/-- A run of digits is a first digit and more digits. -/
theorem isDigitRun_toList {text : String} (run : Parse.isDigitRun text = true) :
    ∃ c ds, text.toList = c :: ds ∧ c.isDigit = true ∧ ∀ d ∈ ds, d.isDigit = true := by
  simp only [Parse.isDigitRun, Bool.and_eq_true, Bool.not_eq_true', List.all_eq_true] at run
  obtain ⟨nonEmpty, digits⟩ := run
  cases chars : text.toList with
  | nil =>
    have empty : text = "" := String.toList_inj.mp (by rw [chars]; rfl)
    subst empty
    cases nonEmpty
  | cons c ds =>
    exact ⟨c, ds, rfl, digits c (by simp [chars]), fun d member => digits d (by simp [chars, member])⟩

theorem numberTail_digits_comma {ds : List Char} (digits : ∀ d ∈ ds, d.isDigit = true)
    (rest : List Char) : numberTail (ds ++ ',' :: rest) = ds.length := by
  have whole : (ds ++ ',' :: rest).takeWhile Char.isDigit = ds := by
    rw [List.takeWhile_append_of_pos digits, List.takeWhile_cons_of_neg (by decide), List.append_nil]
  unfold numberTail
  simp only [whole, List.drop_left]
  split
  · rename_i point
    simp at point
  · rfl

theorem numberTail_digits_point {ds : List Char} (digits : ∀ d ∈ ds, d.isDigit = true) {e : Char}
    (digit : e.isDigit = true) (rest : List Char) :
    numberTail (ds ++ '.' :: e :: rest) = ds.length + 2 + (rest.takeWhile Char.isDigit).length := by
  have whole : (ds ++ '.' :: e :: rest).takeWhile Char.isDigit = ds := by
    rw [List.takeWhile_append_of_pos digits, List.takeWhile_cons_of_neg (by decide), List.append_nil]
  unfold numberTail
  simp only [whole, List.drop_left, digit, if_true]

/-- A number token of the digits `e :: es` read at the front of `e :: es ++ post` ends before
`post`, and no digit starts `post`. -/
theorem numberTail_of_taken {es post : List Char} (digits : ∀ d ∈ es, d.isDigit = true)
    (taken : (es ++ post).take (numberTail (es ++ post)) = es) :
    numberTail (es ++ post) = es.length ∧ post.takeWhile Char.isDigit = [] := by
  have fits := numberTail_le (es ++ post)
  have counted := congrArg List.length taken
  rw [List.length_take, Nat.min_eq_left fits] at counted
  refine ⟨counted, ?_⟩
  have runLe := length_takeWhile_le_numberTail (es ++ post)
  rw [List.takeWhile_append_of_pos digits, List.length_append, counted] at runLe
  exact List.eq_nil_of_length_eq_zero (by omega)

theorem front_comma (rest : List Char) : front ',' rest = (some .comma, 0) := by
  unfold front
  rfl

/-! ### Scanning the pair -/

section Pair

variable {c : Char} {ds : List Char} (cDigit : c.isDigit = true) (digits : ∀ d ∈ ds, d.isDigit = true)
include cDigit digits

/-- With a comma, the first digit run is a number token by itself. -/
theorem scanFrom_digits_comma (rest : List Char) (offset line : Nat) (gap : List Char) :
    scanFrom (c :: (ds ++ ',' :: rest)) offset line gap =
      { kind := .number, offset, length := byteSize (c :: ds), leadingWhitespace := byteSize gap,
        line, text := String.ofList (c :: ds), gap := String.ofList gap } ::
        scanFrom (',' :: rest) (offset + byteSize (c :: ds)) line [] := by
  rw [scanFrom_cons_token offset line gap (front_of_digit cDigit _),
    numberTail_digits_comma digits, List.take_left, List.drop_left]
  rfl

/-- With a point, the two digit runs are one number token. -/
theorem scanFrom_digits_point {e : Char} {es post : List Char} (eDigit : e.isDigit = true)
    (esDigits : ∀ d ∈ es, d.isDigit = true) (stops : post.takeWhile Char.isDigit = [])
    (offset line : Nat) (gap : List Char) :
    scanFrom (c :: (ds ++ '.' :: e :: (es ++ post))) offset line gap =
      { kind := .number, offset, length := byteSize (c :: (ds ++ '.' :: e :: es)),
        leadingWhitespace := byteSize gap, line, text := String.ofList (c :: (ds ++ '.' :: e :: es)),
        gap := String.ofList gap } ::
        scanFrom post (offset + byteSize (c :: (ds ++ '.' :: e :: es))) line [] := by
  have number : (ds ++ '.' :: e :: es).length = numberTail (ds ++ '.' :: e :: (es ++ post)) := by
    rw [numberTail_digits_point digits eDigit, List.takeWhile_append_of_pos esDigits, stops]
    simp only [List.length_append, List.length_cons, List.append_nil]
    omega
  have grouped : ds ++ '.' :: e :: (es ++ post) = (ds ++ '.' :: e :: es) ++ post := by simp
  rw [scanFrom_cons_token offset line gap (front_of_digit cDigit _), ← number, grouped,
    List.take_left, List.drop_left]
  rfl

end Pair

/-- A comma is a token by itself. -/
theorem scanFrom_comma (rest : List Char) (offset line : Nat) :
    scanFrom (',' :: rest) offset line [] =
      { kind := .comma, offset, length := 1, leadingWhitespace := 0, line, text := ",",
        gap := "" } :: scanFrom rest (offset + 1) line [] := by
  rw [scanFrom_cons_token offset line [] (front_comma rest)]
  rfl

/-- A minus sign is a token by itself. -/
theorem scanFrom_minus (rest : List Char) (offset line : Nat) :
    scanFrom ('-' :: rest) offset line [] =
      { kind := .minus, offset, length := 1, leadingWhitespace := 0, line, text := "-",
        gap := "" } :: scanFrom rest (offset + 1) line [] := by
  rw [scanFrom_cons_token offset line [] (show front '-' rest = (some .minus, 0) by unfold front; rfl)]
  rfl

/-- A token of a scan is its first one, or lies past what the first match took. -/
theorem offset_of_mem_scanFrom_cons {token : Token} {c : Char} {rest : List Char} {offset line : Nat}
    {gap : List Char} (member : token ∈ scanFrom (c :: rest) offset line gap) :
    token.offset = offset ∨ offset + byteSize (c :: rest.take (front c rest).2) ≤ token.offset := by
  rcases found : front c rest with ⟨_ | kind, extra⟩
  · rw [scanFrom_cons_skip offset line gap found] at member
    exact .inr (offset_le_of_mem_scanFrom _ _ _ _ token member)
  · rw [scanFrom_cons_token offset line gap found] at member
    rcases List.mem_cons.mp member with rfl | later
    · exact .inl rfl
    · exact .inr (offset_le_of_mem_scanFrom _ _ _ _ token later)

/-- Taking past the end of `pre` takes at least one more character, and one more byte. -/
theorem byteSize_lt_take {pre Z : List Char} {x : Char} {extra : Nat} (past : pre.length < extra) :
    byteSize pre < byteSize ((pre ++ x :: Z).take extra) := by
  obtain ⟨more, rfl⟩ : ∃ more, extra = pre.length + (more + 1) := ⟨extra - pre.length - 1, by omega⟩
  rw [List.take_append, List.take_of_length_le (by omega), Nat.add_sub_cancel_left,
    List.take_succ_cons, byteSize_append, byteSize_cons]
  have := Char.utf8Size_pos x
  omega

theorem byteSize_point (c : Char) (ds es : List Char) :
    byteSize (c :: (ds ++ '.' :: es)) = byteSize (c :: ds) + 1 + byteSize es := by
  rw [← List.cons_append, byteSize_append, byteSize_cons '.', show Char.utf8Size '.' = 1 from rfl,
    Nat.add_assoc]

theorem ofList_point (c : Char) (ds es : List Char) :
    String.ofList (c :: (ds ++ '.' :: es)) = String.ofList (c :: ds) ++ "." ++ String.ofList es := by
  rw [← List.cons_append, String.ofList_append, String.ofList_cons (c := '.'), String.append_assoc]
  rfl

/-- Scanning a text whose comma-joined pair starts right after `pre`: with a point for the
comma, the tokens before and after the pair are the same, and the pair is one number token. -/
theorem scanFrom_point_for_comma {first comma second : Token} (joined : CommaJoined first comma second)
    (post : List Char) {after : List Token} (pre : List Char) (offset line : Nat) (gap : List Char)
    (before : List Token)
    (scanned : scanFrom (pre ++ (first.text.toList ++ ',' :: (second.text.toList ++ post))) offset
      line gap = before ++ first :: comma :: second :: after)
    (located : first.offset = offset + byteSize pre) :
    scanFrom (pre ++ (first.text.toList ++ '.' :: (second.text.toList ++ post))) offset line gap =
      before ++ first.joinPoint second :: after := by
  obtain ⟨c, ds, firstChars, cDigit, dsDigits⟩ := isDigitRun_toList joined.firstDigits
  match pre with
  | [] =>
    obtain ⟨e, es, secondChars, eDigit, esDigits⟩ := isDigitRun_toList joined.secondDigits
    rw [List.nil_append, firstChars, secondChars] at scanned ⊢
    simp only [List.cons_append] at scanned ⊢
    rw [scanFrom_digits_comma cDigit dsDigits] at scanned
    cases before with
    | cons token before =>
      -- nothing comes before the pair: every token after the first number lies beyond it
      rw [List.cons_append] at scanned
      have later := offset_le_of_mem_scanFrom _ _ _ _ first
        (by rw [(List.cons.inj scanned).2]; exact List.mem_append_right _ List.mem_cons_self)
      have := length_le_byteSize (c :: ds)
      rw [located, show byteSize ([] : List Char) = 0 from rfl] at later
      simp only [List.length_cons] at this
      omega
    | nil =>
      rw [List.nil_append] at scanned ⊢
      obtain ⟨rfl, afterFirst⟩ := List.cons.inj scanned
      rw [scanFrom_comma, scanFrom_cons_token _ _ _ (front_of_digit eDigit _)] at afterFirst
      obtain ⟨rfl, afterComma⟩ := List.cons.inj afterFirst
      obtain ⟨rfl, rfl⟩ := List.cons.inj afterComma
      -- the second number stops where the text after the pair starts
      have taken : (es ++ post).take (numberTail (es ++ post)) = es := by
        simpa using secondChars
      obtain ⟨counted, stops⟩ := numberTail_of_taken esDigits taken
      rw [scanFrom_digits_point cDigit dsDigits eDigit esDigits stops, counted, List.drop_left,
        List.take_left, byteSize_point, ofList_point, ← Nat.add_assoc, ← Nat.add_assoc]
      rfl
  | p :: pre =>
    rw [firstChars] at scanned ⊢
    simp only [List.cons_append] at scanned ⊢
    -- the match at `p` ends inside `pre`, where the pair has not started yet
    have inside : (front p (pre ++ c :: (ds ++ ',' :: (second.text.toList ++ post)))).2 ≤
        pre.length := by
      have member : first ∈ scanFrom (p :: (pre ++ c :: (ds ++ ',' :: (second.text.toList ++ post))))
          offset line gap := by
        rw [scanned]; simp
      have := length_le_byteSize (p :: pre)
      rcases offset_of_mem_scanFrom_cons member with atStart | beyond
      · simp only [List.length_cons] at this
        omega
      · refine Nat.le_of_not_lt fun past => ?_
        have := byteSize_lt_take (Z := ds ++ ',' :: (second.text.toList ++ post)) (x := c) past
        rw [byteSize_cons, located, byteSize_cons] at beyond
        omega
    have sameFront := front_append_digit p cDigit (ds ++ '.' :: (second.text.toList ++ post)) inside
    -- both texts take the same step at `p`, and the pair still starts where the rest begins
    have locatedRest : ∀ extra, first.offset =
        offset + byteSize (p :: pre.take extra) + byteSize (pre.drop extra) := by
      intro extra
      rw [located, byteSize_cons, byteSize_cons, ← List.take_append_drop extra pre, byteSize_append,
        List.take_append_drop]
      omega
    rcases found : front p (pre ++ c :: (ds ++ ',' :: (second.text.toList ++ post))) with
      ⟨_ | kind, extra⟩
    all_goals rw [found] at inside sameFront
    · rw [scanFrom_cons_skip offset line gap found, List.take_append_of_le_length inside,
        List.drop_append_of_le_length inside] at scanned
      rw [scanFrom_cons_skip offset line gap sameFront, List.take_append_of_le_length inside,
        List.drop_append_of_le_length inside]
      have restScanned := scanFrom_point_for_comma joined post (pre.drop extra) _ line _ before
        (by rw [firstChars]; simpa using scanned) (locatedRest extra)
      simpa [firstChars] using restScanned
    · rw [scanFrom_cons_token offset line gap found, List.take_append_of_le_length inside,
        List.drop_append_of_le_length inside] at scanned
      rw [scanFrom_cons_token offset line gap sameFront, List.take_append_of_le_length inside,
        List.drop_append_of_le_length inside]
      -- the token at `p` comes before the pair
      cases before with
      | nil =>
        obtain ⟨rfl, -⟩ := List.cons.inj scanned
        dsimp only at located
        have := Char.utf8Size_pos p
        rw [byteSize_cons] at located
        omega
      | cons token before =>
        obtain ⟨rfl, scanned⟩ := List.cons.inj scanned
        rw [List.cons_append]
        congr 1
        have restScanned := scanFrom_point_for_comma joined post (pre.drop extra) _ _ [] before
          (by rw [firstChars]; simpa using scanned) (locatedRest extra)
        simpa [firstChars] using restScanned
termination_by pre.length
decreasing_by all_goals (simp only [List.length_drop, List.length_cons]; omega)

/-- **A point for a comma changes the scan at the pair only.** A text whose comma-joined pair
starts at the byte where `pre` ends scans, with a point for the comma, to the same tokens with
the pair read as one number token. -/
theorem scan_point_for_comma {pre post : String} {before after : List Token}
    {first comma second : Token} (joined : CommaJoined first comma second)
    (scanned : scan (pre ++ first.text ++ "," ++ second.text ++ post) =
      before ++ first :: comma :: second :: after)
    (located : first.offset = pre.utf8ByteSize) :
    scan (pre ++ first.text ++ "." ++ second.text ++ post) = before ++ first.joinPoint second :: after := by
  unfold scan at scanned ⊢
  simp only [String.toList_append, List.append_assoc] at scanned ⊢
  exact scanFrom_point_for_comma joined post.toList pre.toList 0 1 [] before scanned
    (by rw [byteSize_toList, Nat.zero_add, located])

end Token

/-! ### Lines -/

theorem lineRanges_lift (k : Nat) : ∀ (tokens : List Token) (start index : Nat), k < index →
    TokenStream.lineRanges tokens (liftIndex k start) (index + 2) =
      (TokenStream.lineRanges tokens start index).map fun range =>
        (liftIndex k range.1, liftIndex k range.2)
  | [], start, index, after => by
    simp only [TokenStream.lineRanges, List.map_cons, List.map_nil, liftIndex_of_lt after]
  | token :: tokens, start, index, after => by
    have later := lineRanges_lift k tokens
    simp only [TokenStream.lineRanges]
    split
    · rw [List.map_cons, ← later (index + 1) (index + 1) (by omega),
        liftIndex_of_lt (show k < index + 1 by omega), liftIndex_of_lt after]
    · exact later start (index + 1) (by omega)

/-- The lines of a stream whose comma-joined pair is read as one token are the lines of the
stream with the pair, each range lifted past the pair. -/
theorem lineRanges_point_for_comma {first comma second : Token} (joined : CommaJoined first comma second)
    (after : List Token) : ∀ (before : List Token) (start index : Nat), start ≤ index →
      TokenStream.lineRanges (before ++ first :: comma :: second :: after) start index =
        (TokenStream.lineRanges (before ++ first.joinPoint second :: after) start index).map
          fun range => (liftIndex (index + before.length) range.1,
            liftIndex (index + before.length) range.2)
  | [], start, index, started => by
    have pairKinds : first.kind ≠ .newLine ∧ comma.kind ≠ .newLine ∧ second.kind ≠ .newLine := by
      rw [joined.firstNumber, joined.isComma, joined.secondNumber]
      decide
    simp only [List.nil_append, TokenStream.lineRanges, Token.joinPoint, beq_iff_eq,
      pairKinds.1, pairKinds.2.1, pairKinds.2.2, if_false, List.length_nil, Nat.add_zero]
    rw [← lineRanges_lift index after start (index + 1) (by omega), liftIndex_of_le started]
  | token :: before, start, index, started => by
    have later := lineRanges_point_for_comma joined after before
    simp only [List.cons_append, TokenStream.lineRanges, List.length_cons]
    split
    · -- a line break before the pair ends a line that the join leaves where it was
      rw [List.map_cons, later (index + 1) (index + 1) (Nat.le_refl _)]
      dsimp only
      rw [liftIndex_of_le (by omega), liftIndex_of_le (by omega), Nat.add_right_comm, Nat.add_assoc]
    · rw [later start (index + 1) (by omega), Nat.add_right_comm, Nat.add_assoc]

/-- **The stream of a text with a point for a comma.** Its tokens are those of the text with
the comma, the pair read as one number token, and its lines are the same lines: each range of
the text with the comma is the range with the point, lifted past the pair. -/
theorem TokenStream.ofSource_point_for_comma {pre post : String} {before after : List Token}
    {first comma second : Token} (joined : CommaJoined first comma second)
    (scanned : Token.scan (pre ++ first.text ++ "," ++ second.text ++ post) =
      before ++ first :: comma :: second :: after)
    (located : first.offset = pre.utf8ByteSize) :
    (TokenStream.ofSource (pre ++ first.text ++ "," ++ second.text ++ post)).tokens.toList =
        before ++ first :: comma :: second :: after ∧
      (TokenStream.ofSource (pre ++ first.text ++ "." ++ second.text ++ post)).tokens.toList =
        before ++ first.joinPoint second :: after ∧
      (TokenStream.ofSource (pre ++ first.text ++ "," ++ second.text ++ post)).lines.toList =
        (TokenStream.ofSource (pre ++ first.text ++ "." ++ second.text ++ post)).lines.toList.map
          fun range => (liftIndex before.length range.1, liftIndex before.length range.2) := by
  simp only [TokenStream.ofSource, List.toList_toArray, scanned,
    Token.scan_point_for_comma joined scanned located, true_and]
  rw [lineRanges_point_for_comma joined after before 0 0 (Nat.le_refl 0), Nat.zero_add]

end Reckon
