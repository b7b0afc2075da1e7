import TypeCatalog.Crash
import TypeCatalog.Value.Display

namespace TypeCatalog.Json

/-!
# Writing JSON

Values as JSON texts, what becomes of them when they are written and read back, and which of them
cannot be written.
-/

/-!
## Writing values as JSON

Answers are written without blanks between their parts, on one line with blanks after commas and
colons, or indented for people.  Only quotes,
backslashes and control characters are escaped, so the length of a written text is the number of
characters a reader sees.
-/

/-- One character of a string. -/
def escape (c : Char) : List Char :=
  if c = '"' then ['\\', '"']
  else if c = '\\' then ['\\', '\\']
  else if c = '\n' then ['\\', 'n']
  else if c = '\r' then ['\\', 'r']
  else if c = '\t' then ['\\', 't']
  else if c = '\x08' then ['\\', 'b']
  else if c = '\x0c' then ['\\', 'f']
  else if c.toNat < 0x20 then '\\' :: 'u' :: (Text.hexadecimal 4 c.toNat).toList
  else [c]

/-- A string in quotes. -/
def stringCharacters (content : String) : List Char :=
  '"' :: (content.toList.flatMap escape ++ ['"'])

/-- A string in quotes. -/
def stringText (content : String) : String :=
  String.ofList (stringCharacters content)

/-- A number, or one of the three words for what is not finite. -/
def floatText : Binary64 → String
  | .nan => "NaN"
  | .infinite negative => if negative then "-Infinity" else "Infinity"
  | number => number.text

/-- The name that an entry gets. -/
def keyName : Key → String
  | .null => "null"
  | .bool truth => if truth then "true" else "false"
  | .int number => Text.signedDecimal number
  | .float number => floatText number
  | .text content => content
  | .unpaired points => Text.ofPoints points
  | .bytes octets => Text.quotedBytes octets
  | .timestamp time => time.text

/-- What stands between parts: nothing, one blank, or a line break and so many blanks for each
depth. -/
inductive Layout where
  | compact
  | spaced
  | indented (width : Nat)
deriving Repr, DecidableEq

namespace Layout

/-- What stands inside a bracket, next to it, at a depth. -/
def lineBreak
    (layout : Layout)
    (depth : Nat) : List Char :=
  match layout with
  | .compact | .spaced => []
  | .indented width => '\n' :: List.replicate (width * depth) ' '

/-- What stands between a comma and the next part at a depth. -/
def afterComma
    (layout : Layout)
    (depth : Nat) : List Char :=
  match layout with
  | .spaced => [' ']
  | layout => layout.lineBreak depth

/-- What stands between a name and its value. -/
def afterName : Layout → List Char
  | .compact => [':']
  | .spaced | .indented _ => [':', ' ']

end Layout

mutual

/-- The characters of a value at a depth. -/
def characters
    (layout : Layout)
    (depth : Nat) : Value → List Char
  | .null => "null".toList
  | .bool truth => (if truth then "true" else "false").toList
  | .int number => (Text.signedDecimal number).toList
  | .float number => (floatText number).toList
  | .text content => stringCharacters content
  | .unpaired points => stringCharacters (Text.ofPoints points)
  | .bytes octets => stringCharacters (Text.quotedBytes octets)
  | .timestamp time => stringCharacters time.text
  | .set members => stringCharacters (Value.set members).display
  | .again _ => stringCharacters "..."
  | .pair first second =>
    '[' :: (layout.lineBreak (depth + 1) ++ characters layout (depth + 1) first ++
      ',' :: (layout.afterComma (depth + 1) ++ characters layout (depth + 1) second) ++
      layout.lineBreak depth ++ [']'])
  | .list [] => ['[', ']']
  | .list (first :: rest) =>
    '[' :: (layout.lineBreak (depth + 1) ++ characters layout (depth + 1) first ++
      itemCharacters layout (depth + 1) rest ++ layout.lineBreak depth ++ [']'])
  | .map [] => ['\x7b', '\x7d']
  | .map ((key, value) :: rest) =>
    '\x7b' :: (layout.lineBreak (depth + 1) ++ stringCharacters (keyName key) ++
      layout.afterName ++ characters layout (depth + 1) value ++
      entryCharacters layout (depth + 1) rest ++ layout.lineBreak depth ++ ['\x7d'])

/-- The items after the first, each after a comma. -/
def itemCharacters
    (layout : Layout)
    (depth : Nat) : List Value → List Char
  | [] => []
  | item :: rest =>
    ',' :: (layout.afterComma depth ++ characters layout depth item ++
      itemCharacters layout depth rest)

/-- The entries after the first, each after a comma. -/
def entryCharacters
    (layout : Layout)
    (depth : Nat) : List (Key × Value) → List Char
  | [] => []
  | (key, value) :: rest =>
    ',' :: (layout.afterComma depth ++ stringCharacters (keyName key) ++ layout.afterName ++
      characters layout depth value ++ entryCharacters layout depth rest)

end

/-- The compact text of a value. -/
def compact (value : Value) : String :=
  String.ofList (characters .compact 0 value)

/-- The text of a value on one line, with blanks after commas and colons. -/
def spaced (value : Value) : String :=
  String.ofList (characters .spaced 0 value)

/-- The text of a value indented by two blanks. -/
def indented (value : Value) : String :=
  String.ofList (characters (.indented 2) 0 value)

/-- The number of characters of the compact text. -/
def measure (value : Value) : Nat :=
  (characters .compact 0 value).length

/-!
## Code points

A text may hold halves of surrogate pairs.  They stand in the text of a value as they are, which is
then more than characters can show.
-/

/-- One code point of a string. -/
def escapePoint (point : Nat) : List Nat :=
  if Text.isHalf point then [point] else (escape (Char.ofNat point)).map Char.toNat

/-- A string of code points in quotes. -/
def stringPoints (content : List Nat) : List Nat :=
  '"'.toNat :: (content.flatMap escapePoint ++ ['"'.toNat])

/-- The code points of the name that an entry gets. -/
def namePoints : Key → List Nat
  | .unpaired points => points
  | key => (keyName key).toList.map Char.toNat

mutual

/-- The code points of the text of a value at a depth. -/
def points
    (layout : Layout)
    (depth : Nat) : Value → List Nat
  | .unpaired content => stringPoints content
  | .pair first second =>
    '['.toNat :: ((layout.lineBreak (depth + 1)).map Char.toNat ++
      points layout (depth + 1) first ++
      ','.toNat :: ((layout.afterComma (depth + 1)).map Char.toNat ++
        points layout (depth + 1) second) ++
      (layout.lineBreak depth).map Char.toNat ++ [']'.toNat])
  | .list (first :: rest) =>
    '['.toNat :: ((layout.lineBreak (depth + 1)).map Char.toNat ++
      points layout (depth + 1) first ++ itemPoints layout (depth + 1) rest ++
      (layout.lineBreak depth).map Char.toNat ++ [']'.toNat])
  | .map ((key, value) :: rest) =>
    '\x7b'.toNat :: ((layout.lineBreak (depth + 1)).map Char.toNat ++
      stringPoints (namePoints key) ++ layout.afterName.map Char.toNat ++
      points layout (depth + 1) value ++ entryPoints layout (depth + 1) rest ++
      (layout.lineBreak depth).map Char.toNat ++ ['\x7d'.toNat])
  | value => (characters layout depth value).map Char.toNat

/-- The code points of the items after the first. -/
def itemPoints
    (layout : Layout)
    (depth : Nat) : List Value → List Nat
  | [] => []
  | item :: rest =>
    ','.toNat :: ((layout.afterComma depth).map Char.toNat ++ points layout depth item ++
      itemPoints layout depth rest)

/-- The code points of the entries after the first. -/
def entryPoints
    (layout : Layout)
    (depth : Nat) : List (Key × Value) → List Nat
  | [] => []
  | (key, value) :: rest =>
    ','.toNat :: ((layout.afterComma depth).map Char.toNat ++ stringPoints (namePoints key) ++
      layout.afterName.map Char.toNat ++ points layout depth value ++
      entryPoints layout depth rest)

end

/-!
## Settled values

Writing a value and reading its text back gives a value with texts for keys and for dates.  This is
the form in which answers are handed out and kept.
-/

/-- The key that an entry has in the text. -/
def settledKey : Key → Key
  | .unpaired points => .unpaired points
  | key => .text (keyName key)

mutual

/-- What reading the text of a value gives back. -/
def settled : Value → Value
  | .bytes octets => .text (Text.quotedBytes octets)
  | .timestamp time => .text time.text
  | .pair first second => .list [settled first, settled second]
  | .set members => .text (Value.set members).display
  | .list items => .list (settledItems items)
  | .map entries => .map (Value.collect (settledEntries entries))
  | value => value

/-- What reading the texts of items gives back. -/
def settledItems : List Value → List Value
  | [] => []
  | item :: rest => settled item :: settledItems rest

/-- What reading the texts of entries gives back. -/
def settledEntries : List (Key × Value) → List (Key × Value)
  | [] => []
  | (key, value) :: rest => (settledKey key, settled value) :: settledEntries rest

end

mutual

/-- A value with nothing in the place of numbers that are not finite. -/
def finiteOnly : Value → Value
  | .float number => if number.isFinite then .float number else .null
  | .pair first second => .pair (finiteOnly first) (finiteOnly second)
  | .list items => .list (finiteItems items)
  | .map entries => .map (finiteEntries entries)
  | value => value

/-- Items with nothing in the place of numbers that are not finite. -/
def finiteItems : List Value → List Value
  | [] => []
  | item :: rest => finiteOnly item :: finiteItems rest

/-- Entries with nothing in the place of numbers that are not finite. -/
def finiteEntries : List (Key × Value) → List (Key × Value)
  | [] => []
  | (key, value) :: rest => (key, finiteOnly value) :: finiteEntries rest

end

/-!
## Values that cannot be written

Not every value has a JSON text: a container that stands inside itself never ends, a whole number
may have too many digits, and dates and bytes cannot be the names of entries.  What stands first in
the text decides which of several faults is found.
-/

/-- The crash for a whole number with too many digits. -/
def tooLongCrash : Crash :=
  ⟨.invalidValue, Text.tooLongToWriteMessage⟩

/-- The crash for a container that stands inside itself. -/
def circularCrash : Crash :=
  ⟨.invalidValue, "Circular reference detected"⟩

/-- The crash for a key that cannot be the name of an entry. -/
def badNameCrash (key : Key) : Crash :=
  ⟨.wrongType, "keys must be str, int, float, bool or None, not " ++ key.toValue.formWord⟩

/-- Why a key cannot be the name of an entry. -/
def unwritableName? : Key → Option Crash
  | .timestamp time => some (badNameCrash (.timestamp time))
  | .bytes octets => some (badNameCrash (.bytes octets))
  | key => if key.hasLongNumber then some tooLongCrash else none

mutual

/-- Why a value cannot be written as JSON. -/
def unwritable? : Value → Option Crash
  | .int number => if Text.isTooLong number then some tooLongCrash else none
  | .pair first second => (unwritable? first).or (unwritable? second)
  | .list items => unwritableWithin? items
  | .set members => if members.any Key.hasLongNumber then some tooLongCrash else none
  | .map entries => unwritableAmong? entries
  | .again _ => some circularCrash
  | _ => none

/-- Why one of some items cannot be written. -/
def unwritableWithin? : List Value → Option Crash
  | [] => none
  | item :: rest => (unwritable? item).or (unwritableWithin? rest)

/-- Why one of some entries cannot be written. -/
def unwritableAmong? : List (Key × Value) → Option Crash
  | [] => none
  | (key, value) :: rest =>
    ((unwritableName? key).or (unwritable? value)).or (unwritableAmong? rest)

end

/-- The number of characters of the compact text, if the value can be written. -/
def measured (value : Value) : Except Crash Nat :=
  match unwritable? value with
  | some crash => .error crash
  | none => .ok (measure value)

end TypeCatalog.Json
