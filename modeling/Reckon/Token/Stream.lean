import Reckon.Token.Scan

/-!
A scanned document: its tokens in one array and the token ranges of its lines.

Lines are cut at line-break tokens, which belong to no line. A final range is
always added after the last break, so a document with `k` line breaks has
`k + 1` lines, and the empty document has one empty line.
-/

namespace Reckon

/-- The tokens of a document and, for each line, the half-open range of token
indices it covers. -/
structure TokenStream where
  tokens : Array Token
  lines : Array (Nat × Nat)
deriving Inhabited

namespace TokenStream

/-- Line ranges of a token list: each line ends before a line break, and the
next one starts after it. `start` is the index where the current line began. -/
def lineRanges : List Token → Nat → Nat → List (Nat × Nat)
  | [], start, index => [(start, index)]
  | token :: rest, start, index =>
    if token.kind == .newLine then (start, index) :: lineRanges rest (index + 1) (index + 1)
    else lineRanges rest start (index + 1)

/-- Scan a source text and cut it into lines. -/
def ofSource (source : String) : TokenStream :=
  let tokens := Token.scan source
  { tokens := tokens.toArray, lines := (lineRanges tokens 0 0).toArray }

/-- The number of lines. -/
def lineCount (stream : TokenStream) : Nat :=
  stream.lines.size

end TokenStream

end Reckon
