import TypeCatalog.Number.Binary64
import TypeCatalog.Text.CharacterClass

namespace TypeCatalog.Number

/-!
# Numbers from text

A number may have white space around it, a sign, digits of any script and single underscores between
digits.  A whole number may also name its base in front of its digits.
-/

/-- Why a text is no whole number. -/
inductive WholeFault where
  | malformed
  | tooManyDigits (digits : Nat)
deriving Repr, DecidableEq

/-- Digits of a class without the single underscores between them. -/
def joined
    (isDigit : Char → Bool) : List Char → Option (List Char)
  | [] => none
  | [c] => if isDigit c then some [c] else none
  | c :: '_' :: rest => if isDigit c then (joined isDigit rest).map (c :: ·) else none
  | c :: rest => if isDigit c then (joined isDigit rest).map (c :: ·) else none

/-- A text without its sign, and whether the sign was a minus. -/
def splitSign : List Char → Bool × List Char
  | '-' :: rest => (true, rest)
  | '+' :: rest => (false, rest)
  | rest => (false, rest)

/-- The letter after a zero that names a base. -/
def baseMark? (base : Nat) : Option Char :=
  if base = 2 then some 'b'
  else if base = 8 then some 'o'
  else if base = 16 then some 'x'
  else none

/-- Digits without the name of their base and the underscore that may follow it. -/
def dropBaseName
    (base : Nat) : List Char → List Char
  | '0' :: mark :: rest =>
    if baseMark? base = some mark.toLower then
      match rest with
      | '_' :: digits => digits
      | digits => digits
    else
      '0' :: mark :: rest
  | characters => characters

/-- The whole number that a text writes in a base up to sixteen. -/
def wholeInBase
    (base : Nat)
    (characters : List Char) : Except WholeFault Int :=
  let trimmed := Text.trimBy Text.isPlainSpace (Text.plainNumeral characters)
  let (negative, unsigned) := splitSign trimmed
  let isDigit (c : Char) : Bool := (Text.hexadecimalDigit? c).any (· < base)
  match joined isDigit (dropBaseName base unsigned) with
  | none => .error .malformed
  | some digits =>
    if base = 10 && digits.length > Text.digitLimit then
      .error (.tooManyDigits digits.length)
    else
      let size : Int := Text.numberInBase base digits
      .ok (if negative then -size else size)

/-- The value of an exponent, which nothing may follow; no exponent counts as zero. -/
def exponent? : List Char → Option Int
  | [] => some 0
  | mark :: rest =>
    if mark = 'e' || mark = 'E' then
      let (negative, unsigned) := splitSign rest
      (joined Text.isDecimalDigit unsigned).map fun digits =>
        let size : Int := Text.numberOfDigits digits
        if negative then -size else size
    else
      none

/-- Digits that may be missing. -/
def joinedOrNone (characters : List Char) : Option (List Char) :=
  if characters.isEmpty then some [] else joined Text.isDecimalDigit characters

/-- Whether a character is a decimal digit or an underscore. -/
def isFigure (c : Char) : Bool :=
  Text.isDecimalDigit c || c = '_'

/-- A decimal number without a sign: digits before and after a point, at least one of them, and an
exponent. -/
def unsignedDecimal? (characters : List Char) : Option Binary64 := do
  let afterWhole := characters.dropWhile isFigure
  let hasPoint := afterWhole.head? = some '.'
  let afterPoint := if hasPoint then afterWhole.tail else afterWhole
  let whole ← joinedOrNone (characters.takeWhile isFigure)
  let fraction ← joinedOrNone (if hasPoint then afterPoint.takeWhile isFigure else [])
  let exponent ← exponent? (if hasPoint then afterPoint.dropWhile isFigure else afterPoint)
  if whole.isEmpty && fraction.isEmpty then
    none
  else
    return Binary64.ofDecimal false (Text.numberOfDigits (whole ++ fraction))
      (exponent - fraction.length)

/-- The double that a text writes; infinity and the undefined number are written as words. -/
def decimal? (characters : List Char) : Option Binary64 :=
  let trimmed := Text.trimBy Text.isPlainSpace (Text.plainNumeral characters)
  let (negative, unsigned) := splitSign trimmed
  let word := String.ofList (unsigned.map Char.toLower)
  let size? :=
    if word == "inf" || word == "infinity" then some (.infinite false)
    else if word == "nan" then some .nan
    else unsignedDecimal? unsigned
  size?.map fun size => if negative then size.neg else size

end TypeCatalog.Number
