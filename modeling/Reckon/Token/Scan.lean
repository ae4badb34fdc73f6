import Reckon.Text.Identifier
import Reckon.Token

/-!
The scanner: source text to tokens by longest match.

At each position the scanner takes the longest prefix that one of the token
patterns matches; a keyword beats a word of the same length. Runs of blanks
(space, tab, form feed, carriage return) are skipped and recorded as the next
token's `gap`. A line break is `\n` or `\r\n`. Where no pattern matches, the
scanner emits an `unknown` token over the prefix it had read when the match
died: an unclosed text literal up to the line break or the end, a `!` that is
not followed by `=`, and otherwise exactly one character.

Main definition: `scan`. Every step consumes at least one character, so the
scanner is total by well-founded recursion on the remaining input.
-/

namespace Reckon.Token

open Reckon.Text

/-- The blanks that separate tokens. A line feed is not one of them. -/
def isBlank (c : Char) : Bool :=
  c == ' ' || c == '\t' || c == '\x0c' || c == '\r'

/-- Characters that a text literal or a comment cannot contain. -/
def isLineBreakChar (c : Char) : Bool :=
  c == '\n' || c == '\r'

/-- Number of characters after a leading digit that still belong to the number:
further digits, then a point with at least one digit after it. -/
def numberTail (rest : List Char) : Nat :=
  let whole := rest.takeWhile Char.isDigit
  match rest.drop whole.length with
  | '.' :: d :: more =>
    if d.isDigit then whole.length + 2 + (more.takeWhile Char.isDigit).length else whole.length
  | _ => whole.length

/-- The keyword spelled by a word, if it is one. -/
def keyword? : String → Option TokenKind
  | "if" => some .ifKw
  | "then" => some .thenKw
  | "else" => some .elseKw
  | "true" => some .trueKw
  | "false" => some .falseKw
  | _ => none

/-- What the scanner finds at the front of the input: the token kind, or `none`
for a run of blanks, and how many characters after the first one it takes. -/
def front (c : Char) (rest : List Char) : Option TokenKind × Nat :=
  if c.isDigit then (some .number, numberTail rest)
  else if isIdentifierStart c || c == '_' then
    let tail := rest.takeWhile isIdentifierPart
    (some ((keyword? (String.ofList (c :: tail))).getD .word), tail.length)
  else
    match c, rest with
    | '"', _ =>
      let body := rest.takeWhile fun d => !(d == '"' || isLineBreakChar d)
      match rest.drop body.length with
      | '"' :: _ => (some .text, body.length + 1)
      | _ => (some .unknown, body.length)
    | '/', '/' :: more => (some .comment, 1 + (more.takeWhile fun d => !isLineBreakChar d).length)
    | '/', _ => (some .slash, 0)
    | '\n', _ => (some .newLine, 0)
    | '\r', '\n' :: _ => (some .newLine, 1)
    | '+', _ => (some .plus, 0)
    | '-', _ => (some .minus, 0)
    | '*', _ => (some .star, 0)
    | '=', '=' :: _ => (some .equalEqual, 1)
    | '=', _ => (some .equals, 0)
    | '!', '=' :: _ => (some .bangEqual, 1)
    | '<', '=' :: _ => (some .lessEqual, 1)
    | '<', _ => (some .less, 0)
    | '>', '=' :: _ => (some .greaterEqual, 1)
    | '>', _ => (some .greater, 0)
    | '(', _ => (some .lParen, 0)
    | ')', _ => (some .rParen, 0)
    | ',', _ => (some .comma, 0)
    | ';', _ => (some .semicolon, 0)
    | ':', _ => (some .colon, 0)
    | '#', _ => (some .hash, 0)
    | _, _ => if isBlank c then (none, (rest.takeWhile isBlank).length) else (some .unknown, 0)

/-- The UTF-8 size of a run of characters. -/
def byteSize (cs : List Char) : Nat :=
  cs.foldr (fun c size => c.utf8Size + size) 0

/-- Scan `input`, which starts at byte `offset` on line `line`, with the blanks
`gap` already skipped in front of it. -/
def scanFrom (input : List Char) (offset line : Nat) (gap : List Char) : List Token :=
  match input with
  | [] => []
  | c :: rest =>
    let (kind?, extra) := front c rest
    let taken := c :: rest.take extra
    let size := byteSize taken
    match kind? with
    | none => scanFrom (rest.drop extra) (offset + size) line (gap ++ taken)
    | some kind =>
      let token : Token :=
        { kind, offset, length := size, leadingWhitespace := byteSize gap, line,
          text := String.ofList taken, gap := String.ofList gap }
      token :: scanFrom (rest.drop extra) (offset + size)
        (if kind == .newLine then line + 1 else line) []
termination_by input.length
decreasing_by all_goals (simp only [List.length_drop, List.length_cons]; omega)

/-- The tokens of a source text, in order. -/
def scan (source : String) : List Token :=
  scanFrom source.toList 0 1 []

end Reckon.Token
