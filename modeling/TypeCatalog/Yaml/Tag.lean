import TypeCatalog.Text.Split
import TypeCatalog.Value.Timestamp

namespace TypeCatalog.Yaml

/-!
# Dates and tags

Which plain scalars are dates, and the tags that scalars get.
-/

/-!
## Dates and moments in documents

A date is written `2024-01-31`.  A moment adds the time of day after `T` or blanks, a fraction of a
second and a zone, which is `Z` or an offset.
-/

/-- A time of day as it is written. -/
structure TimeText where
  hour : Nat
  minute : Nat
  second : Nat
  microsecond : Nat
  offset? : Option Int
deriving Repr, DecidableEq

/-- A date or a moment as it is written. -/
structure TimestampText where
  year : Nat
  month : Nat
  day : Nat
  isShort : Bool
  time? : Option TimeText
deriving Repr, DecidableEq

namespace TimestampText

/-- Reads a number of so many digits. -/
def number?
    (width : Nat)
    (characters : List Char) : Option (Nat × List Char) :=
  let digits := characters.take width
  if digits.length = width && digits.all Text.isDecimalDigit then
    some (Text.numberOfDigits digits, characters.drop width)
  else
    none

/-- Reads a number of two digits or of one. -/
def shortNumber? (characters : List Char) : Option (Nat × List Char) :=
  number? 2 characters <|> number? 1 characters

/-- Reads one given character. -/
def mark?
    (expected : Char) : List Char → Option (List Char)
  | [] => none
  | c :: rest => if c = expected then some rest else none

/-- Whether a character is a space or a tab. -/
def isGap (c : Char) : Bool :=
  c = ' ' || c = '\t'

/-- Reads what stands between a date and a time of day. -/
def between? : List Char → Option (List Char)
  | [] => none
  | c :: rest =>
    if c = 'T' || c = 't' then some rest
    else if isGap c then some (rest.dropWhile isGap)
    else none

/-- The microseconds that digits after a point write; further digits are dropped. -/
def microseconds (digits : List Char) : Nat :=
  Text.numberOfDigits (digits.take 6 ++ List.replicate (6 - digits.length) '0')

/-- Reads a fraction of a second, if there is one. -/
def fraction : List Char → Nat × List Char
  | '.' :: rest =>
    (microseconds (rest.takeWhile Text.isDecimalDigit), rest.dropWhile Text.isDecimalDigit)
  | rest => (0, rest)

/-- Reads an offset after its sign, in seconds. -/
def offset? (characters : List Char) : Option Nat := do
  let (hour, afterHour) ← shortNumber? characters
  match afterHour with
  | [] => return hour * 3600
  | _ => do
    let (minute, afterMinute) ← number? 2 (← mark? ':' afterHour)
    if afterMinute.isEmpty then return hour * 3600 + minute * 60 else none

/-- Reads a zone up to the end of the text. -/
def zone? (characters : List Char) : Option (Option Int) :=
  match characters.dropWhile isGap with
  | [] => if characters.isEmpty then some none else none
  | ['Z'] => some (some 0)
  | '+' :: rest => (offset? rest).map fun size => some (size : Int)
  | '-' :: rest => (offset? rest).map fun size => some (-(size : Int))
  | _ => none

/-- Reads a time of day up to the end of the text. -/
def readTime? (characters : List Char) : Option TimeText := do
  let (hour, afterHour) ← shortNumber? characters
  let (minute, afterMinute) ← number? 2 (← mark? ':' afterHour)
  let (second, afterSecond) ← number? 2 (← mark? ':' afterMinute)
  let (microsecond, afterFraction) := fraction afterSecond
  return ⟨hour, minute, second, microsecond, ← zone? afterFraction⟩

/-- Reads a date or a moment. -/
def read? (characters : List Char) : Option TimestampText := do
  let (year, afterYear) ← number? 4 characters
  let beforeMonth ← mark? '-' afterYear
  let (month, afterMonth) ← shortNumber? beforeMonth
  let beforeDay ← mark? '-' afterMonth
  let (day, afterDay) ← shortNumber? beforeDay
  let isShort := (number? 2 beforeMonth).isNone || (number? 2 beforeDay).isNone
  match afterDay with
  | [] => return ⟨year, month, day, isShort, none⟩
  | _ => return ⟨year, month, day, isShort, some (← readTime? (← between? afterDay))⟩

/-- Whether a plain text reads as a date or a moment: a date alone must have all its digits. -/
def isImplicit (characters : List Char) : Bool :=
  match read? characters with
  | some written => written.time?.isSome || !written.isShort
  | none => false

/-- What is wrong with a written moment, if anything: its zone, its date or its time of day. -/
def fault? (written : TimestampText) : Option String :=
  ((written.time?.bind TimeText.offset?).bind Timestamp.offsetFault?)
    <|> Timestamp.dateFault? written.year written.month written.day
    <|> (written.time?.bind fun time => Timestamp.timeFault? time.hour time.minute time.second)

/-- The date or the moment that is written. -/
def toTimestamp (written : TimestampText) : Timestamp :=
  match written.time? with
  | none => .date written.year written.month written.day
  | some time =>
    .moment written.year written.month written.day time.hour time.minute time.second
      time.microsecond time.offset?

end TimestampText

/-!
## Tags

A tag says what a node stands for.  A plain scalar without a tag gets one from the way it is
written: `yes` is a truth value, `0x1F` a whole number, `1:30` a whole number in base sixty.
-/

/-- What a node stands for. -/
inductive Tag where
  | text
  | whole
  | float
  | truth
  | null
  | timestamp
  | binary
  | merge
  | default
  | sequence
  | orderedMap
  | pairs
  | mapping
  | set
  | other
deriving Repr, DecidableEq

namespace Tag

/-- The space of the standard tags. -/
def standardSpace : String := "tag:yaml.org,2002:"

/-- The standard tags by their names. -/
def standard : List (String × Tag) :=
  [("str", .text), ("int", .whole), ("float", .float), ("bool", .truth), ("null", .null),
    ("timestamp", .timestamp), ("binary", .binary), ("merge", .merge), ("value", .default),
    ("seq", .sequence), ("omap", .orderedMap), ("pairs", .pairs), ("map", .mapping),
    ("set", .set)]

/-- The tag with a full name. -/
def ofName (name : String) : Tag :=
  ((standard.find? fun entry => standardSpace ++ entry.1 == name).map Prod.snd).getD .other

/-! ### Plain scalars -/

/-- Words for true. -/
def wordsForTrue : List String :=
  ["yes", "Yes", "YES", "true", "True", "TRUE", "on", "On", "ON"]

/-- Words for false. -/
def wordsForFalse : List String :=
  ["no", "No", "NO", "false", "False", "FALSE", "off", "Off", "OFF"]

/-- Words for nothing. -/
def wordsForNull : List String :=
  ["~", "null", "Null", "NULL", ""]

/-- Whether a character is a decimal digit or an underscore. -/
def isFigure (c : Char) : Bool :=
  Text.isDecimalDigit c || c = '_'

/-- A text without a sign at its front. -/
def dropSign : List Char → List Char
  | '+' :: rest => rest
  | '-' :: rest => rest
  | characters => characters

/-- Whether a text is a digit and then digits and underscores. -/
def startsWithDigit : List Char → Bool
  | [] => false
  | c :: rest => Text.isDecimalDigit c && rest.all isFigure

/-- Whether a text is a digit other than zero and then digits and underscores. -/
def startsWithCount (characters : List Char) : Bool :=
  startsWithDigit characters && characters.head? != some '0'

/-- Whether a text is a number below sixty. -/
def isSixtieth : List Char → Bool
  | [c] => Text.isDecimalDigit c
  | [tens, ones] => '0' ≤ tens && tens ≤ '5' && Text.isDecimalDigit ones
  | _ => false

/-- Whether a text is a number in base sixty, with a check for its first place. -/
def isSexagesimal
    (first : List Char → Bool)
    (characters : List Char) : Bool :=
  match Text.pieces ':' characters with
  | head :: place :: places => first head && (place :: places).all isSixtieth
  | _ => false

/-- Whether a text is an exponent with its sign, or nothing. -/
def isExponent : List Char → Bool
  | [] => true
  | mark :: sign :: digits =>
    (mark = 'e' || mark = 'E') && (sign = '+' || sign = '-') && !digits.isEmpty &&
      digits.all Text.isDecimalDigit
  | _ => false

/-- Whether a plain text reads as a whole number. -/
def isWhole (characters : List Char) : Bool :=
  let unsigned := dropSign characters
  unsigned = ['0'] || startsWithCount unsigned || isSexagesimal startsWithCount unsigned ||
    (match unsigned with
    | '0' :: mark :: digits =>
      (mark = 'b' && !digits.isEmpty && digits.all fun c => c = '0' || c = '1' || c = '_') ||
      (mark = 'x' && !digits.isEmpty &&
        digits.all fun c => (Text.hexadecimalDigit? c).isSome || c = '_') ||
      (mark :: digits).all fun c => ('0' ≤ c && c ≤ '7') || c = '_'
    | _ => false)

/-- Whether a plain text reads as a number with a fraction. -/
def isFloat (characters : List Char) : Bool :=
  let unsigned := dropSign characters
  let whole := unsigned.takeWhile (· != '.')
  match unsigned.dropWhile (· != '.') with
  | [] => false
  | _ :: fraction =>
    let afterFraction := fraction.dropWhile isFigure
    (startsWithDigit whole && isExponent afterFraction) ||
      (characters.head? = some '.' && startsWithDigit (fraction.takeWhile isFigure) &&
        isExponent afterFraction) ||
      (isSexagesimal startsWithDigit whole && afterFraction.isEmpty) ||
      (whole.isEmpty && ["inf", "Inf", "INF"].contains (String.ofList fraction)) ||
      (characters.head? = some '.' && ["nan", "NaN", "NAN"].contains (String.ofList fraction))

/-- A text without a line feed at its end, unless it is nothing else. -/
def dropLineFeed (characters : List Char) : List Char :=
  if characters.length > 1 && characters.getLast? = some '\n' then characters.dropLast
  else characters

/-- The tag of a scalar whose tag is found out from its text.  A line feed at the end, which only
scalars in quotes and blocks can have, does not count. -/
def ofPlain (written : String) : Tag :=
  let characters := dropLineFeed written.toList
  let content := String.ofList characters
  if wordsForTrue.contains content || wordsForFalse.contains content then .truth
  else if isFloat characters then .float
  else if isWhole characters then .whole
  else if content == "<<" then .merge
  else if wordsForNull.contains content then .null
  else if TimestampText.isImplicit characters then .timestamp
  else if content == "=" then .default
  else .text

end Tag

end TypeCatalog.Yaml
