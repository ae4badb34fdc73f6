import Reckon.Value

/-!
Variable bindings: names bound to values, last write wins.

The bindings are a list of entries kept in strictly increasing order of name,
so each name occurs at most once and listing them is already sorted. Names are
compared by code point, which is also the byte order of their UTF-8 texts.
-/

namespace Reckon

/-- Names bound to values, in strictly increasing order of name. -/
structure Bindings where
  entries : List (String × Value)
deriving Inhabited

namespace Bindings

/-- No bindings. -/
def empty : Bindings :=
  ⟨[]⟩

/-- Insert a binding into a sorted list, replacing the value of an equal name. -/
def insertSorted (name : String) (value : Value) : List (String × Value) → List (String × Value)
  | [] => [(name, value)]
  | (key, old) :: rest =>
    if name < key then (name, value) :: (key, old) :: rest
    else if name = key then (name, value) :: rest
    else (key, old) :: insertSorted name value rest

/-- Bind `name` to `value`, replacing an earlier binding of the name. -/
def declare (b : Bindings) (name : String) (value : Value) : Bindings :=
  ⟨insertSorted name value b.entries⟩

/-- The value bound to `name`, if any. -/
def get? (b : Bindings) (name : String) : Option Value :=
  (b.entries.find? fun entry => entry.1 == name).map Prod.snd

/-- The number of bound names. -/
def size (b : Bindings) : Nat :=
  b.entries.length

/-- Whether nothing is bound. -/
def isEmpty (b : Bindings) : Bool :=
  b.entries.isEmpty

/-- The bindings in increasing order of name. -/
def toList (b : Bindings) : List (String × Value) :=
  b.entries

/-- Remove every binding, as when interpretation restarts. -/
def clear (_ : Bindings) : Bindings :=
  empty

/-- Apply a declaration, if there is one. -/
def apply (b : Bindings) : Option (String × Value) → Bindings
  | some (name, value) => b.declare name value
  | none => b

end Bindings

end Reckon
