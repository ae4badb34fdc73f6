import Reckon.Token.Stream

/-!
Cursors: a position in a view of one line's tokens.

A cursor points at token `index` of its stream and may look only at the tokens
in `[start, stop)`, its view. Every navigation step keeps
`start ≤ index ≤ stop` and never widens the view; the position `stop` is the end
sentinel, where there is no token. Narrowing (`until`) moves `stop` back to the
first token of a kind, and `resume` carries a position found in a narrowed view
back into a wider one.

Two cursors are at the same spot when index and view agree (`sameSpot`). A
`Span` names the first and last token index that a parsed node covers.
-/

namespace Reckon

/-- The first and last token index covered by a parsed node. -/
structure Span where
  first : Nat
  last : Nat
deriving DecidableEq, Repr, Inhabited

/-- A position inside a view of a token stream. -/
structure Cursor where
  stream : TokenStream
  index : Nat
  start : Nat
  stop : Nat
  line : Nat
deriving Inhabited

namespace TokenStream

/-- The cursor at the start of line `index` (counted from zero), viewing the
whole line. -/
def line? (stream : TokenStream) (index : Nat) : Option Cursor :=
  stream.lines[index]?.map fun range =>
    { stream, index := range.1, start := range.1, stop := range.2, line := index + 1 }

end TokenStream

namespace Cursor

/-- The token under the cursor, if it is inside the view. -/
def token? (c : Cursor) : Option Token :=
  if c.index < c.stop then c.stream.tokens[c.index]? else none

/-- The kind of the token under the cursor. -/
def kind? (c : Cursor) : Option TokenKind :=
  c.token?.map Token.kind

/-- Whether the cursor is on a token of kind `kind`. -/
def isAt (c : Cursor) (kind : TokenKind) : Bool :=
  c.kind? == some kind

/-- The text of the token under the cursor, or the empty text at the end. -/
def text (c : Cursor) : String :=
  match c.token? with
  | some token => token.text
  | none => ""

/-- Whether the cursor has reached the end of its view. -/
def atEnd (c : Cursor) : Bool :=
  c.stop ≤ c.index

/-- Whether blanks stand before the token under the cursor. The start of the
view and the end sentinel count as preceded by blanks. -/
def hasLeadingWhitespace (c : Cursor) : Bool :=
  c.index == c.start ||
    match c.token? with
    | some token => token.leadingWhitespace > 0
    | none => true

/-- One token forward, staying at the end sentinel once there. -/
def advance (c : Cursor) : Cursor :=
  if c.index < c.stop then { c with index := c.index + 1 } else c

@[simp] theorem advance_stop (c : Cursor) : c.advance.stop = c.stop := by
  unfold advance; split <;> rfl

theorem advance_index_of_lt {c : Cursor} (inside : c.index < c.stop) :
    c.advance.index = c.index + 1 := by
  simp [advance, inside]

/-- One token forward, if a token is there. -/
def next? (c : Cursor) : Option Cursor :=
  let moved := c.advance
  if moved.atEnd then none else some moved

/-- One token back, if the view has one. -/
def previous? (c : Cursor) : Option Cursor :=
  if c.start < c.index then some { c with index := c.index - 1 } else none

/-- The first position at or after `c` whose token has kind `kind`. -/
def seek? (c : Cursor) (kind : TokenKind) : Option Cursor :=
  if _inside : c.index < c.stop then
    if c.isAt kind then some c else seek? c.advance kind
  else none
termination_by c.stop - c.index
decreasing_by rw [advance_stop, advance_index_of_lt (by assumption)]; omega

/-- Move past a run of word tokens. -/
def skipWords (c : Cursor) : Cursor :=
  if _inside : c.index < c.stop then
    if c.isAt .word then skipWords c.advance else c
  else c
termination_by c.stop - c.index
decreasing_by rw [advance_stop, advance_index_of_lt (by assumption)]; omega

/-- Step over a token of kind `expected`, first passing any words when
`overWords` is set and words are not what is expected. -/
def skip? (c : Cursor) (expected : TokenKind) (overWords : Bool) : Option Cursor :=
  let here := if overWords && expected != .word then c.skipWords else c
  if here.isAt expected then some here.advance else none

/-- The last token of the view, if the view is not empty. -/
def last? (c : Cursor) : Option Cursor :=
  if c.start < c.stop then some { c with index := c.stop - 1 } else none

/-- The end sentinel of the view. -/
def endOfView (c : Cursor) : Cursor :=
  { c with index := c.stop }

/-- The view cut short before the first token of kind `kind` at or after the
cursor; the view is unchanged when there is none. -/
def «until» (c : Cursor) (kind : TokenKind) : Cursor :=
  match c.seek? kind with
  | some found => { c with stop := found.index }
  | none => c

/-- The position of `other`, kept inside this cursor's view. -/
def resume (c other : Cursor) : Cursor :=
  { c with index := min (max other.index c.start) c.stop }

/-- The tokens from the cursor up to, not including, `next`; never shorter than
one token. -/
def spanTo (c next : Cursor) : Span :=
  { first := c.index, last := max (next.index - 1) c.index }

/-- Same index and same view. -/
def sameSpot (c other : Cursor) : Bool :=
  c.index == other.index && c.start == other.start && c.stop == other.stop

/-- The source text from the token under the cursor through the last token of
the view, blanks between tokens included; empty at the end. -/
def textToEnd (c : Cursor) : String :=
  if c.index < c.stop then
    let tokens := (c.stream.tokens.extract c.index c.stop).toList
    match tokens with
    | [] => ""
    | first :: rest => rest.foldl (fun acc token => acc ++ token.gap ++ token.text) first.text
  else ""

end Cursor

end Reckon
