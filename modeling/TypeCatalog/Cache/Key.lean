import TypeCatalog.Digest.Sha256
import TypeCatalog.Limits
import TypeCatalog.Text.Split
import TypeCatalog.Value.Display

namespace TypeCatalog.CacheKey

/-!
# Cache keys

A key is made of the kind of a query, the version of the contract and everything that the answer
depends on.  The readable start of a key is cut off, but the digest behind it covers the whole
text.
-/

/-- Escapes the characters that separate parts. -/
def escapeCharacter (c : Char) : List Char :=
  if c = '%' then ['%', '2', '5']
  else if c = '|' then ['%', '7', 'C']
  else if c = ',' then ['%', '2', 'C']
  else [c]

/-- Escapes a text, so that lists of different parts never join to one text. -/
def escape (content : String) : String :=
  String.ofList (content.toList.flatMap escapeCharacter)

mutual

/-- The text of one part of a key. -/
def partText : Value → String
  | .null => ""
  | .bool truth => if truth then "true" else "false"
  | .list items => ",".intercalate (partTexts items)
  | value => escape value.display

/-- The texts of several parts. -/
def partTexts : List Value → List String
  | [] => []
  | part :: rest => partText part :: partTexts rest

end

/-- The whole text of a key. -/
def fullText
    (kind version : String)
    (parts : List Value) : String :=
  "|".intercalate (kind :: version :: partTexts parts)

/-- A key: the start of its whole text and the digest of all of it. -/
def build
    (kind version : String)
    (parts : List Value) : String :=
  let whole := fullText kind version parts
  Text.take Limits.readableKeyLength whole ++ ":" ++ Digest.sha256Text whole

end TypeCatalog.CacheKey
