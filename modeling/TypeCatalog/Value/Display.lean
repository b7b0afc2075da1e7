import TypeCatalog.Number.Shortest
import TypeCatalog.Text.Written
import TypeCatalog.Value.Basic

namespace TypeCatalog

/-!
# Values as text

A value is displayed in messages, in keys and in signatures.  A text is displayed as it is when
it stands alone, and quoted inside a list or a mapping.
-/

/-- The words for nothing and for the truth values. -/
def wordForNull : String := "None"

/-- The word for a truth value. -/
def wordForTruth (truth : Bool) : String :=
  if truth then "True" else "False"

namespace Key

/-- A key inside a mapping. -/
def inspect : Key → String
  | .null => wordForNull
  | .bool truth => wordForTruth truth
  | .int number => Text.signedDecimal number
  | .float number => number.text
  | .text content => Text.quoted content
  | .unpaired points => Text.quotedPoints points
  | .bytes octets => Text.quotedBytes octets
  | .timestamp time => time.inspect

/-- A key alone. -/
def display : Key → String
  | .text content => content
  | .unpaired points => Text.ofPoints points
  | .timestamp time => time.text
  | key => key.inspect

end Key

namespace Value

mutual

/-- A value inside a list or a mapping. -/
def inspect : Value → String
  | .null => wordForNull
  | .bool truth => wordForTruth truth
  | .int number => Text.signedDecimal number
  | .float number => number.text
  | .text content => Text.quoted content
  | .unpaired points => Text.quotedPoints points
  | .bytes octets => Text.quotedBytes octets
  | .timestamp time => time.inspect
  | .pair first second => "(" ++ inspect first ++ ", " ++ inspect second ++ ")"
  | .list items => "[" ++ ", ".intercalate (inspectItems items) ++ "]"
  | .set [] => "set()"
  | .set members => "\x7b" ++ ", ".intercalate (members.map Key.inspect) ++ "\x7d"
  | .map entries => "\x7b" ++ ", ".intercalate (inspectEntries entries) ++ "\x7d"
  | .again (.map _) => "\x7b...\x7d"
  | .again _ => "[...]"

/-- The items of a list. -/
def inspectItems : List Value → List String
  | [] => []
  | item :: rest => inspect item :: inspectItems rest

/-- The entries of a mapping. -/
def inspectEntries : List (Key × Value) → List String
  | [] => []
  | (key, value) :: rest => (key.inspect ++ ": " ++ inspect value) :: inspectEntries rest

end

/-- A value alone. -/
def display : Value → String
  | .text content => content
  | .unpaired points => Text.ofPoints points
  | .timestamp time => time.text
  | .again container => container.inspect
  | value => value.inspect

/-- The word for the form of a value. -/
def formWord : Value → String
  | .null => "NoneType"
  | .bool _ => "bool"
  | .int _ => "int"
  | .float _ => "float"
  | .text _ | .unpaired _ => "str"
  | .bytes _ => "bytes"
  | .timestamp (.date ..) => "datetime.date"
  | .timestamp (.moment ..) => "datetime.datetime"
  | .pair .. => "tuple"
  | .list _ | .again (.list _) => "list"
  | .set _ => "set"
  | .map _ | .again _ => "dict"

end Value

end TypeCatalog
