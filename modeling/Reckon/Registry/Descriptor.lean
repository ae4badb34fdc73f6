/-!
Parser descriptors: a parse function registered under a name, for some
cultures, with constraints on its place in the order.

A descriptor with no culture tags, or with the tag `any` in any letter case,
applies to every culture. Otherwise it applies to the cultures whose tag equals
one of its own, ignoring ASCII letter case.
-/

namespace Reckon

/-- The culture tag that applies everywhere. -/
def anyCulture : String := "any"

/-- A parse function `rule` registered as `name`, for `cultures`, to be tried
before the parsers named in `before` and after those named in `after`. -/
structure Descriptor (ρ : Type) where
  name : String
  rule : ρ
  cultures : List String := [anyCulture]
  before : List String := []
  after : List String := []
deriving Inhabited

/-- Equality of tags ignoring ASCII letter case. -/
def sameTag (a b : String) : Bool :=
  a.toLower == b.toLower

namespace Descriptor

variable {ρ : Type}

/-- Whether a descriptor applies to every culture. -/
def isAnyCulture (d : Descriptor ρ) : Bool :=
  d.cultures.isEmpty || d.cultures.any (sameTag · anyCulture)

/-- Whether a descriptor applies to a culture. -/
def appliesTo (d : Descriptor ρ) (culture : String) : Bool :=
  d.isAnyCulture || d.cultures.any (sameTag · culture)

end Descriptor

end Reckon
