import TypeCatalog.Encoding.Base64
import TypeCatalog.Number.FromText
import TypeCatalog.Text.LetterCase
import TypeCatalog.Text.Split
import TypeCatalog.Value.Display
import TypeCatalog.Yaml.Tag
import TypeCatalog.Yaml.Token

namespace TypeCatalog.Yaml.ScalarValue

/-!
# Values of scalars

The value that the text of a scalar stands for under its tag.  A scalar whose tag was found out from
its text always has a value, unless a date does not exist or a number has too many digits; one with
a tag of its own may have a text that does not fit.
-/

/-- A text without underscores. -/
def dropUnderscores (characters : List Char) : List Char :=
  characters.filter (· != '_')

/-- A text without its sign, and whether the sign was a minus.  An empty text has no first
character to look at. -/
def signed (characters : List Char) : Except Crash (Bool × List Char) :=
  match characters with
  | [] => .error ⟨.missingPosition, "string index out of range"⟩
  | c :: _ => .ok (c = '-', Tag.dropSign characters)

/-- The whole number that a text writes in a base; a message names at most two hundred characters of
the text. -/
def wholeInBase
    (base : Nat)
    (characters : List Char) : Except Crash Int :=
  match Number.wholeInBase base characters with
  | .ok number => .ok number
  | .error (.tooManyDigits digits) => .error ⟨.invalidValue, Text.tooManyDigitsMessage digits⟩
  | .error .malformed =>
    .error
      ⟨.invalidValue,
        "invalid literal for int() with base " ++ Text.decimal base ++ ": " ++
          Text.take 200 (Text.quoted (String.ofList characters))⟩

/-- The number that places in base sixty write. -/
def sexagesimal (places : List Int) : Int :=
  places.foldl (fun number place => number * 60 + place) 0

/-- A whole number without its first sign: in base two, sixteen or eight after a zero, in base sixty
with colons, else in base ten. -/
def unsignedWhole (characters : List Char) : Except Crash Int :=
  match characters with
  | ['0'] => .ok 0
  | '0' :: 'b' :: digits => wholeInBase 2 digits
  | '0' :: 'x' :: digits => wholeInBase 16 digits
  | '0' :: _ => wholeInBase 8 characters
  | [] => .error ⟨.missingPosition, "string index out of range"⟩
  | _ =>
    if characters.contains ':' then
      ((Text.pieces ':' characters).mapM (wholeInBase 10)).map sexagesimal
    else
      wholeInBase 10 characters

/-- A whole number. -/
def whole (content : String) : Except Crash Int := do
  let (negative, unsigned) ← signed (dropUnderscores content.toList)
  let size ← unsignedWhole unsigned
  return if negative then -size else size

/-- A number with a fraction. -/
def decimal (characters : List Char) : Except Crash Binary64 :=
  match Number.decimal? characters with
  | some number => .ok number
  | none =>
    .error ⟨.invalidValue, "could not convert string to float: " ++
      Text.quoted (String.ofList characters)⟩

/-- The sum of places in base sixty, the last one first, from a weight on.  A weight that is no
double cannot be used. -/
def sexagesimalSum
    (sum : Binary64)
    (weight : Nat) : List Binary64 → Except Crash Binary64
  | [] => .ok sum
  | place :: rest =>
    if (Binary64.ofInt weight).isFinite then
      sexagesimalSum (sum.add (place.mul (.ofInt weight))) (weight * 60) rest
    else
      .error ⟨.overflow, "int too large to convert to float"⟩

/-- A number with a fraction or one of the words for infinity and the undefined number. -/
def float (content : String) : Except Crash Binary64 := do
  let lowered := Text.lowerCharacters (dropUnderscores content.toList)
  let (negative, unsigned) ← signed lowered
  if unsigned = ".nan".toList then
    return .nan
  else
    let size ←
      if unsigned = ".inf".toList then
        pure (.infinite false)
      else if unsigned.contains ':' then do
        let places ← (Text.pieces ':' unsigned).mapM decimal
        sexagesimalSum (Binary64.zero false) 1 places.reverse
      else
        decimal unsigned
    return if negative then size.neg else size

/-- A truth value. -/
def truth (content : String) : Except Crash Bool :=
  let word := Text.lowerCase content
  if ["yes", "true", "on"].contains word then .ok true
  else if ["no", "false", "off"].contains word then .ok false
  else .error ⟨.missingKey, Text.quoted word⟩

/-- A date or a moment; a line feed may follow it. -/
def timestamp (content : String) : Except Crash Timestamp :=
  match TimestampText.read? (Tag.dropLineFeed content.toList) with
  | none => .error (.lacking "NoneType" "groupdict")
  | some written =>
    match written.fault? with
    | some reason => .error ⟨.invalidValue, reason⟩
    | none => .ok written.toTimestamp

/-- A crash as a fault of the document. -/
def toFault
    {α : Type} : Except Crash α → Except Fault α
  | .ok result => .ok result
  | .error crash => .error (.crashed crash)

/-- Bytes that are written in Base64. -/
def binary (content : String) : Except Fault (List Nat) :=
  if content.toList.all (·.toNat < 0x80) then
    match Base64.decodeLoose content.toList with
    | some octets => .ok octets
    | none => .error .malformed
  else
    .error .malformed

/-- The value of a scalar under a tag. -/
def ofScalar
    (tag : Tag)
    (written : Text.Written) : Except Fault Value :=
  match tag with
  | .text => .ok (.ofWritten written)
  | .null => .ok .null
  | .whole => toFault ((whole written.shown).map .int)
  | .float => toFault ((float written.shown).map .float)
  | .truth => toFault ((truth written.shown).map .bool)
  | .timestamp => toFault ((timestamp written.shown).map .timestamp)
  | .binary => (binary written.shown).map .bytes
  | _ => .error .malformed

end TypeCatalog.Yaml.ScalarValue
