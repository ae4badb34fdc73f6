import Reckon.Token.Cursor

/-!
Navigating a line: a cursor moved step by step, with one slot to save it in.

A navigator starts at the first token of a line, with the slot holding that
same cursor. Each step asks the cursor for a new position: the next or
previous token, one token forward, past an expected token, the next token of a
kind, the last token, the end of the view, the view cut before a kind, the
saved position carried into the view, or the start of another line; `save`
stores the cursor in the slot and `restore` takes it back. A step that finds
nothing leaves the navigator as it was.
-/

namespace Reckon

/-- One step of navigation. -/
inductive Navigation where
  | next
  | previous
  | advance
  | skip (kind : TokenKind) (overWords : Bool)
  | seek (kind : TokenKind)
  | last
  | endOfView
  | cutBefore (kind : TokenKind)
  | resume
  | line (index : Nat)
  | save
  | restore
deriving DecidableEq, Repr

/-- A cursor being moved over a stream, and the slot it can be saved to. -/
structure Navigator where
  stream : TokenStream
  cursor : Cursor
  saved : Cursor

namespace Navigator

/-- A navigator at the start of line `index`, if the stream has that line. -/
def start? (stream : TokenStream) (index : Nat) : Option Navigator :=
  (stream.line? index).map fun c => { stream, cursor := c, saved := c }

/-- Where a step takes the cursor, or `none` when it finds nothing. -/
def move (n : Navigator) : Navigation → Option Cursor
  | .next => n.cursor.next?
  | .previous => n.cursor.previous?
  | .advance => some n.cursor.advance
  | .skip kind overWords => n.cursor.skip? kind overWords
  | .seek kind => n.cursor.seek? kind
  | .last => n.cursor.last?
  | .endOfView => some n.cursor.endOfView
  | .cutBefore kind => some (n.cursor.until kind)
  | .resume => some (n.cursor.resume n.saved)
  | .line index => n.stream.line? index
  | .save => some n.cursor
  | .restore => some n.saved

/-- The slot after a step: `save` stores the cursor, every other step keeps it. -/
def savedAfter (n : Navigator) : Navigation → Cursor
  | .save => n.cursor
  | _ => n.saved

/-- One step: the slot as the step leaves it, and the cursor where the step
takes it, or where it was when the step finds nothing. -/
def step (n : Navigator) (navigation : Navigation) : Navigator :=
  { n with cursor := (n.move navigation).getD n.cursor, saved := n.savedAfter navigation }

/-- Steps one after the other. -/
def run (n : Navigator) (navigations : List Navigation) : Navigator :=
  navigations.foldl step n

end Navigator

end Reckon
