/-!
Tokens of the calculator language: their kinds, the coarse category of each
kind, and the token record that the scanner produces.

A token keeps its own text and the blanks that the scanner skipped in front of
it, so that the source between two tokens can be rebuilt from tokens alone.
The scanner itself is `Reckon.Token.Scan`; navigation over a scanned line is
`Reckon.Token.Cursor`.
-/

namespace Reckon

/-- What a token is. Keywords, operators and punctuation each have a kind of
their own; anything the scanner rejects is `unknown`. -/
inductive TokenKind where
  | number
  | ifKw
  | thenKw
  | elseKw
  | trueKw
  | falseKw
  | word
  | text
  | comment
  | plus
  | minus
  | star
  | slash
  | equals
  | equalEqual
  | bangEqual
  | less
  | lessEqual
  | greater
  | greaterEqual
  | lParen
  | rParen
  | comma
  | semicolon
  | colon
  | hash
  | newLine
  | unknown
deriving DecidableEq, Repr, Inhabited

/-- The coarse class of a token kind. -/
inductive TokenCategory where
  | word
  | number
  | keyword
  | text
  | operator
  | punctuation
  | comment
  | endOfLine
  | unknown
deriving DecidableEq, Repr, Inhabited

namespace TokenKind

/-- Every token kind, in declaration order. -/
def all : List TokenKind :=
  [number, ifKw, thenKw, elseKw, trueKw, falseKw, word, text, comment, plus, minus, star, slash,
    equals, equalEqual, bangEqual, less, lessEqual, greater, greaterEqual, lParen, rParen, comma,
    semicolon, colon, hash, newLine, unknown]

/-- The public name of a kind. -/
def name : TokenKind → String
  | number => "Number"
  | ifKw => "If"
  | thenKw => "Then"
  | elseKw => "Else"
  | trueKw => "True"
  | falseKw => "False"
  | word => "Word"
  | text => "Text"
  | comment => "Comment"
  | plus => "Plus"
  | minus => "Minus"
  | star => "Star"
  | slash => "Slash"
  | equals => "Equals"
  | equalEqual => "EqualEqual"
  | bangEqual => "BangEqual"
  | less => "Less"
  | lessEqual => "LessEqual"
  | greater => "Greater"
  | greaterEqual => "GreaterEqual"
  | lParen => "LParen"
  | rParen => "RParen"
  | comma => "Comma"
  | semicolon => "Semicolon"
  | colon => "Colon"
  | hash => "Hash"
  | newLine => "NewLine"
  | unknown => "Unknown"

/-- The kind with the given public name, if there is one. -/
def ofName? (name : String) : Option TokenKind :=
  all.find? fun kind => kind.name == name

/-- The category of a kind: keywords, operators and punctuation are grouped,
a line break is the end of a line, every other kind is its own category. -/
def category : TokenKind → TokenCategory
  | word => .word
  | number => .number
  | ifKw | thenKw | elseKw | trueKw | falseKw => .keyword
  | text => .text
  | plus | minus | star | slash | equals | equalEqual | bangEqual
  | less | lessEqual | greater | greaterEqual => .operator
  | lParen | rParen | comma | semicolon | colon | hash => .punctuation
  | comment => .comment
  | newLine => .endOfLine
  | unknown => .unknown

end TokenKind

/-- The public name of a category. -/
def TokenCategory.name : TokenCategory → String
  | .word => "Word"
  | .number => "Number"
  | .keyword => "Keyword"
  | .text => "Text"
  | .operator => "Operator"
  | .punctuation => "Punctuation"
  | .comment => "Comment"
  | .endOfLine => "EndOfLine"
  | .unknown => "Unknown"

/-- One scanned token. Offsets and lengths count UTF-8 bytes; `gap` is the run
of skipped blanks directly in front of the token, so `leadingWhitespace` is its
byte size. Lines are numbered from one. -/
structure Token where
  kind : TokenKind
  offset : Nat
  length : Nat
  leadingWhitespace : Nat
  line : Nat
  text : String
  gap : String
deriving DecidableEq, Repr, Inhabited

/-- The byte offset just past the token. -/
def Token.stop (token : Token) : Nat :=
  token.offset + token.length

end Reckon
