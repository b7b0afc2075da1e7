import TypeCatalog.Json.Printer

namespace TypeCatalog.Json

/-!
# JSON in ASCII

The compact text of a value in which every character outside ASCII is escaped by its UTF-16 units.
Unlike the text that is shown to people it keeps halves of surrogate pairs.
-/

/-- One unit of UTF-16, escaped. -/
def escapedUnit (unit : Nat) : String :=
  "\\u" ++ Text.hexadecimal 4 unit

/-- One code point of a string. -/
def asciiPoint (point : Nat) : String :=
  let c := Char.ofNat point
  if c = '"' then "\\\""
  else if c = '\\' then "\\\\"
  else if 0x20 ≤ point && point < 0x7F then String.singleton c
  else if point < 0x10000 then escapedUnit point
  else
    escapedUnit (0xD800 + (point - 0x10000) / 1024) ++
      escapedUnit (0xDC00 + (point - 0x10000) % 1024)

/-- Adds a string in quotes. -/
def addPoints
    (out : String)
    (points : List Nat) : String :=
  (points.foldl (fun out point => out ++ asciiPoint point) (out.push '"')).push '"'

/-- Adds a string in quotes. -/
def addString (out content : String) : String :=
  addPoints out (content.toList.map Char.toNat)

/-- Adds the name of an entry. -/
def addName
    (out : String) : Key → String
  | .unpaired points => (addPoints out points).push ':'
  | key => (addString out (keyName key)).push ':'

mutual

/-- Adds a value. -/
def addAscii
    (out : String) : Value → String
  | .null => out ++ "null"
  | .bool truth => out ++ (if truth then "true" else "false")
  | .int number => out ++ Text.signedDecimal number
  | .float number => out ++ floatText number
  | .text content => addString out content
  | .unpaired points => addPoints out points
  | .bytes octets => addString out (Text.quotedBytes octets)
  | .timestamp time => addString out time.text
  | .set members => addString out (Value.set members).display
  | .again _ => addString out "..."
  | .pair first second => (addAscii ((addAscii (out.push '[') first).push ',') second).push ']'
  | .list items => (addAsciiItems (out.push '[') true items).push ']'
  | .map entries => (addAsciiEntries (out.push '\x7b') true entries).push '\x7d'

/-- Adds items, each but the first after a comma. -/
def addAsciiItems
    (out : String)
    (isFirst : Bool) : List Value → String
  | [] => out
  | item :: rest =>
    addAsciiItems (addAscii (if isFirst then out else out.push ',') item) false rest

/-- Adds entries, each but the first after a comma. -/
def addAsciiEntries
    (out : String)
    (isFirst : Bool) : List (Key × Value) → String
  | [] => out
  | (key, value) :: rest =>
    addAsciiEntries (addAscii (addName (if isFirst then out else out.push ',') key) value) false
      rest

end

/-- The compact text of a value in ASCII. -/
def ascii (value : Value) : String :=
  addAscii "" value

end TypeCatalog.Json
