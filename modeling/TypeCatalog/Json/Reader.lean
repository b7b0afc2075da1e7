import TypeCatalog.Crash
import TypeCatalog.Limits
import TypeCatalog.Text.Split
import TypeCatalog.Value.Basic

namespace TypeCatalog.Json

/-!
# Reading JSON

The reader takes standard JSON and the words `NaN`, `Infinity` and `-Infinity`.  A fault names
what was expected and the line, the column and the offset at which it was missed.
-/

/-- What is wrong with a JSON text. -/
inductive Fault where
  | byteOrderMark
  | expectingValue
  | expectingName
  | expectingColon
  | expectingComma
  | extraData
  | unterminatedString
  | controlCharacter
  | badEscape
  | badUnicodeEscape
deriving Repr, DecidableEq

/-- The wording of a fault. -/
def Fault.message : Fault → String
  | .byteOrderMark => "Unexpected UTF-8 BOM (decode using utf-8-sig)"
  | .expectingValue => "Expecting value"
  | .expectingName => "Expecting property name enclosed in double quotes"
  | .expectingColon => "Expecting ':' delimiter"
  | .expectingComma => "Expecting ',' delimiter"
  | .extraData => "Extra data"
  | .unterminatedString => "Unterminated string starting at"
  | .controlCharacter => "Invalid control character at"
  | .badEscape => "Invalid \\escape"
  | .badUnicodeEscape => "Invalid \\uXXXX escape"

/-- Why reading stopped: a fault with the number of characters that were left there, a whole number
with more digits than are converted, or a list or a mapping that stands inside too many others. -/
inductive Failure where
  | fault (kind : Fault) (remaining : Nat)
  | tooManyDigits (digits : Nat)
  | tooDeep (isList : Bool)
deriving Repr, DecidableEq

/-- The crash for a failure that is no fault of the text at one place. -/
def Failure.crash? : Failure → Option Crash
  | .fault .. => none
  | .tooManyDigits digits => some ⟨.invalidValue, Text.tooManyDigitsMessage digits⟩
  | .tooDeep isList =>
    some
      (.tooDeep
        (" while decoding a JSON " ++ (if isList then "array" else "object") ++
          " from a unicode string"))

/-- A fault at the place where so many characters are left. -/
def failAt
    (fault : Fault)
    (rest : List Char)
    {α : Type} : Except Failure α :=
  .error (.fault fault rest.length)

/-- The blanks of JSON. -/
def isBlank (c : Char) : Bool :=
  c = ' ' || c = '\t' || c = '\n' || c = '\r'

/-- Skips blanks. -/
def skipBlanks (rest : List Char) : List Char :=
  rest.dropWhile isBlank

/-- The character that a one-letter escape stands for. -/
def simpleEscape? (c : Char) : Option Char :=
  if c = '"' then some '"'
  else if c = '\\' then some '\\'
  else if c = '/' then some '/'
  else if c = 'b' then some '\x08'
  else if c = 'f' then some '\x0c'
  else if c = 'n' then some '\n'
  else if c = 'r' then some '\r'
  else if c = 't' then some '\t'
  else none

/-- The number written by four hexadecimal digits. -/
def fourDigits? (a b c d : Char) : Option Nat := do
  let first ← Text.hexadecimalDigit? a
  let second ← Text.hexadecimalDigit? b
  let third ← Text.hexadecimalDigit? c
  let fourth ← Text.hexadecimalDigit? d
  return ((first * 16 + second) * 16 + third) * 16 + fourth

/-- Whether a number is the first half of a pair that writes one character. -/
def isHighHalf (unit : Nat) : Bool :=
  0xD800 ≤ unit && unit ≤ 0xDBFF

/-- Whether a number is the second half of such a pair. -/
def isLowHalf (unit : Nat) : Bool :=
  0xDC00 ≤ unit && unit ≤ 0xDFFF

/-- Reads the rest of a string that starts at a place; the code points read are kept in reverse. -/
def readString
    (start : List Char)
    (done : List Nat) : List Char → Except Failure (Text.Written × List Char)
  | [] => failAt .unterminatedString start
  | '"' :: rest => .ok (.ofPoints done.reverse, rest)
  | ['\\'] => failAt .unterminatedString start
  | '\\' :: 'u' :: a :: b :: c :: d :: '\\' :: 'u' :: e :: f :: g :: h :: rest =>
    match fourDigits? a b c d with
    | none =>
      failAt .badUnicodeEscape ('u' :: a :: b :: c :: d :: '\\' :: 'u' :: e :: f :: g :: h :: rest)
    | some unit =>
      if isHighHalf unit && !rest.isEmpty then
        match fourDigits? e f g h with
        | none => failAt .badUnicodeEscape ('u' :: e :: f :: g :: h :: rest)
        | some low =>
          if isLowHalf low then
            readString start
              ((0x10000 + (unit - 0xD800) * 1024 + (low - 0xDC00)) :: done) rest
          else
            readString start (unit :: done) ('\\' :: 'u' :: e :: f :: g :: h :: rest)
      else
        readString start (unit :: done) ('\\' :: 'u' :: e :: f :: g :: h :: rest)
  | '\\' :: 'u' :: a :: b :: c :: d :: next :: rest =>
    match fourDigits? a b c d with
    | none => failAt .badUnicodeEscape ('u' :: a :: b :: c :: d :: next :: rest)
    | some unit => readString start (unit :: done) (next :: rest)
  | '\\' :: 'u' :: rest => failAt .badUnicodeEscape ('u' :: rest)
  | '\\' :: c :: rest =>
    match simpleEscape? c with
    | some character => readString start (character.toNat :: done) rest
    | none => failAt .badEscape ('\\' :: c :: rest)
  | c :: rest =>
    if c.toNat < 0x20 then
      failAt .controlCharacter (c :: rest)
    else
      readString start (c.toNat :: done) rest
termination_by rest => rest.length

/-- The digits at the front, and what follows them. -/
def spanDigits (rest : List Char) : List Char × List Char :=
  (rest.takeWhile Text.isDecimalDigit, rest.dropWhile Text.isDecimalDigit)

/-- The fraction at the front: its digits and what follows, if there is one. -/
def readFraction : List Char → Option (List Char × List Char)
  | '.' :: rest =>
    match (spanDigits rest).1 with
    | [] => none
    | digits => some (digits, (spanDigits rest).2)
  | _ => none

/-- The exponent at the front: its value and what follows, if there is one. -/
def readExponent : List Char → Option (Int × List Char)
  | mark :: rest =>
    if mark = 'e' || mark = 'E' then
      let negative := rest.head? = some '-'
      let unsigned := if negative || rest.head? = some '+' then rest.drop 1 else rest
      match (spanDigits unsigned).1 with
      | [] => none
      | digits =>
        let size : Int := Text.numberOfDigits digits
        some (if negative then -size else size, (spanDigits unsigned).2)
    else
      none
  | [] => none

/-- The digits before the point: a zero alone, or digits that do not start with zero. -/
def wholeDigits (rest : List Char) : List Char × List Char :=
  match rest with
  | '0' :: rest => (['0'], rest)
  | rest => spanDigits rest

/-- Reads a number; the faulty place is where it starts. -/
def readNumber (start : List Char) : Except Failure (Value × List Char) :=
  let negative := start.head? = some '-'
  let unsigned := if negative then start.drop 1 else start
  let (whole, afterWhole) := wholeDigits unsigned
  if whole.isEmpty then
    failAt .expectingValue start
  else
    let fraction := readFraction afterWhole
    let afterFraction := (fraction.map Prod.snd).getD afterWhole
    let exponent := readExponent afterFraction
    match fraction, exponent with
    | none, none =>
      if whole.length > Text.digitLimit then
        .error (.tooManyDigits whole.length)
      else
        let size : Int := Text.numberOfDigits whole
        .ok (.int (if negative then -size else size), afterWhole)
    | _, _ =>
      let fractionDigits := (fraction.map Prod.fst).getD []
      let power := (exponent.map Prod.fst).getD 0
      .ok
        (.float
          (Binary64.ofDecimal negative (Text.numberOfDigits (whole ++ fractionDigits))
            (power - fractionDigits.length)),
          (exponent.map Prod.snd).getD afterFraction)

/-- What stands at the front of a value. -/
def readWord? (rest : List Char) : Option (Value × List Char) :=
  let words : List (String × Value) :=
    [("null", .null), ("true", .bool true), ("false", .bool false), ("NaN", .float .nan),
      ("Infinity", .float (.infinite false)), ("-Infinity", .float (.infinite true))]
  words.findSome? fun word =>
    if word.1.toList.isPrefixOf rest then some (word.2, rest.drop word.1.length) else none

mutual

/-- Reads one value, where there is room for so many lists and mappings inside one another. -/
def readValue
    (fuel room : Nat)
    (rest : List Char) : Except Failure (Value × List Char) :=
  match fuel with
  | 0 => failAt .expectingValue rest
  | fuel + 1 =>
    match rest with
    | '"' :: inside =>
      (readString rest [] inside).map fun found =>
        (.ofWritten found.1, found.2)
    | '[' :: inside =>
      if room = 0 then
        .error (.tooDeep true)
      else
        match skipBlanks inside with
        | ']' :: after => .ok (.list [], after)
        | first => readItems fuel (room - 1) [] first
    | '\x7b' :: inside =>
      if room = 0 then
        .error (.tooDeep false)
      else
        match skipBlanks inside with
        | '\x7d' :: after => .ok (.map [], after)
        | first => readEntries fuel (room - 1) [] first
    | _ =>
      match readWord? rest with
      | some found => .ok found
      | none => readNumber rest

/-- Reads the items of a list up to its end; items read are kept in reverse. -/
def readItems
    (fuel room : Nat)
    (done : List Value)
    (rest : List Char) : Except Failure (Value × List Char) :=
  match fuel with
  | 0 => failAt .expectingValue rest
  | fuel + 1 =>
    match readValue fuel room rest with
    | .error failure => .error failure
    | .ok (item, after) =>
      match skipBlanks after with
      | ']' :: end_ => .ok (.list (item :: done).reverse, end_)
      | ',' :: next => readItems fuel room (item :: done) (skipBlanks next)
      | other => failAt .expectingComma other

/-- Reads the entries of a mapping up to its end; entries read are kept in reverse. -/
def readEntries
    (fuel room : Nat)
    (done : List (Key × Value))
    (rest : List Char) : Except Failure (Value × List Char) :=
  match fuel with
  | 0 => failAt .expectingName rest
  | fuel + 1 =>
    match rest with
    | '"' :: inside =>
      match readString rest [] inside with
      | .error failure => .error failure
      | .ok (name, afterName) =>
        match skipBlanks afterName with
        | ':' :: beforeValue =>
          match readValue fuel room (skipBlanks beforeValue) with
          | .error failure => .error failure
          | .ok (value, after) =>
            match skipBlanks after with
            | '\x7d' :: end_ =>
              .ok (.map (Value.collect ((.ofWritten name, value) :: done).reverse), end_)
            | ',' :: next =>
              readEntries fuel room ((.ofWritten name, value) :: done) (skipBlanks next)
            | other => failAt .expectingComma other
        | other => failAt .expectingColon other
    | other => failAt .expectingName other

end

/-- Reads a whole text as one value. -/
def read (text : List Char) : Except Failure Value :=
  match text with
  | '\uFEFF' :: _ => failAt .byteOrderMark text
  | _ =>
    match readValue (2 * text.length + 2) Limits.jsonDepth (skipBlanks text) with
    | .error failure => .error failure
    | .ok (value, after) =>
      match skipBlanks after with
      | [] => .ok value
      | other => failAt .extraData other

/-- The wording of a failure to read a text. -/
def Failure.message
    (text : List Char) : Failure → String
  | .tooManyDigits digits => Text.tooManyDigitsMessage digits
  | .tooDeep _ => "nested too deep"
  | .fault kind remaining =>
    let offset := text.length - remaining
    let before := text.take offset
    let line := before.count '\n' + 1
    let column := (before.reverse.takeWhile (· != '\n')).length + 1
    kind.message ++ ": line " ++ Text.decimal line ++ " column " ++ Text.decimal column ++
      " (char " ++ Text.decimal offset ++ ")"

end TypeCatalog.Json
