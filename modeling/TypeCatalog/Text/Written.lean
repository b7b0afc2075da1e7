import TypeCatalog.Text.CharacterClass
import TypeCatalog.Text.Utf8

namespace TypeCatalog.Text

/-!
# Writing texts down

Texts between quotes, and texts with characters that only an escape can show.
-/

/-!
## Quoted text

A text shown inside a message or a list stands in single quotes, or in double quotes when it
holds a single but no double quote.  Backslashes, the chosen quote and characters that are not
printable are escaped.
-/

/-- The escaped form of a character that is not printable. -/
def escapeUnprintable (c : Char) : String :=
  if c = '\t' then "\\t"
  else if c = '\n' then "\\n"
  else if c = '\r' then "\\r"
  else if c.toNat < 0x100 then "\\x" ++ hexadecimal 2 c.toNat
  else if c.toNat < 0x10000 then "\\u" ++ hexadecimal 4 c.toNat
  else "\\U" ++ hexadecimal 8 c.toNat

/-- One character of a quoted text. -/
def quoteCharacter
    (mark c : Char) : String :=
  if c = mark || c = '\\' then
    String.ofList ['\\', c]
  else if isPrintable c then
    String.singleton c
  else
    escapeUnprintable c

/-- The quote that surrounds a text. -/
def quoteMark (text : String) : Char :=
  if text.toList.contains '\'' && !text.toList.contains '"' then '"' else '\''

/-- A text in quotes. -/
def quoted (text : String) : String :=
  let mark := quoteMark text
  String.singleton mark ++ String.join (text.toList.map (quoteCharacter mark)) ++
    String.singleton mark

/-!
## Texts written with escapes

An escape can write half of a surrogate pair.  A half without its partner is no character, so a text
that holds one is kept as the numbers of its code points.
-/

/-- Whether a number is a half of a surrogate pair. -/
def isHalf (point : Nat) : Bool :=
  0xD800 ≤ point && point ≤ 0xDFFF

/-- Why code points have no bytes in UTF-8: the first stretch of halves among them. -/
def utf8Fault? (points : List Nat) : Option CodingFault :=
  (points.findIdx? isHalf).map fun first =>
    let stretch := (points.drop first).takeWhile isHalf
    .unencodable "utf-8" (stretch.headD 0) first (first + stretch.length - 1)
      "surrogates not allowed"

/-- A text that was written with escapes: characters alone, or code points among which are halves
without a partner. -/
inductive Written where
  | whole (content : String)
  | unpaired (points : List Nat)
deriving Repr, DecidableEq

/-- The character with a number; a half becomes the replacement character. -/
def characterOf (point : Nat) : Char :=
  if isHalf point then '\uFFFD' else Char.ofNat point

/-- The characters of code points. -/
def ofPoints (points : List Nat) : String :=
  String.ofList (points.map characterOf)

namespace Written

/-- The text with the given code points. -/
def ofPoints (points : List Nat) : Written :=
  if points.any isHalf then .unpaired points else .whole (Text.ofPoints points)

/-- The text with replacement characters for halves. -/
def shown : Written → String
  | .whole content => content
  | .unpaired points => Text.ofPoints points

end Written

/-- One code point of a quoted text. -/
def quotePoint
    (mark : Char)
    (point : Nat) : String :=
  if isHalf point then "\\u" ++ hexadecimal 4 point else quoteCharacter mark (Char.ofNat point)

/-- Code points in quotes. -/
def quotedPoints (points : List Nat) : String :=
  let mark := quoteMark (ofPoints points)
  String.singleton mark ++ String.join (points.map (quotePoint mark)) ++ String.singleton mark

/-- One byte of a quoted sequence of bytes. -/
def quoteByte
    (mark : Char)
    (byte : Nat) : String :=
  let c := Char.ofNat byte
  if c = mark || c = '\\' then String.ofList ['\\', c]
  else if c = '\t' then "\\t"
  else if c = '\n' then "\\n"
  else if c = '\r' then "\\r"
  else if 0x20 ≤ byte && byte < 0x7F then String.singleton c
  else "\\x" ++ hexadecimal 2 byte

/-- Bytes in quotes, after the letter `b`. -/
def quotedBytes (bytes : List Nat) : String :=
  let mark := quoteMark (String.ofList (bytes.map Char.ofNat))
  "b" ++ String.singleton mark ++ String.join (bytes.map (quoteByte mark)) ++
    String.singleton mark

end TypeCatalog.Text
