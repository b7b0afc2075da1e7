namespace TypeCatalog.Text

/-!
# Orders on texts and numbers

Texts are compared character by character, by code point.
-/

/-- Whether a text comes before another or equals it. -/
def atMost (first second : String) : Bool :=
  decide (first ≤ second)

/-- A key made of a number and two texts that break ties. -/
structure RankKey where
  rank : Int
  first : String
  second : String
deriving Repr, DecidableEq

/-- Whether a key comes before another or equals it: by number, then by the texts. -/
def RankKey.atMost (one other : RankKey) : Bool :=
  if one.rank < other.rank then true
  else if other.rank < one.rank then false
  else if one.first < other.first then true
  else if other.first < one.first then false
  else Text.atMost one.second other.second

end TypeCatalog.Text
