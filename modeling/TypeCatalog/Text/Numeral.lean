namespace TypeCatalog.Text

/-!
# Numerals

Whole numbers in decimal and hexadecimal digits.
-/

/-- Decimal digits of a natural number. -/
def decimal (number : Nat) : String :=
  String.ofList (Nat.toDigits 10 number)

/-- Decimal digits of an integer, with a minus sign below zero. -/
def signedDecimal : Int → String
  | .ofNat number => decimal number
  | .negSucc number => "-" ++ decimal (number + 1)

/-- Puts a comma after every third digit, counted from the end. -/
def groupThousands (digits : List Char) : List Char :=
  match digits with
  | a :: b :: c :: d :: rest =>
    if (rest.length + 1) % 3 == 0 then
      a :: b :: c :: ',' :: groupThousands (d :: rest)
    else if (rest.length + 1) % 3 == 1 then
      a :: ',' :: groupThousands (b :: c :: d :: rest)
    else
      a :: b :: ',' :: groupThousands (c :: d :: rest)
  | short => short
termination_by digits.length

/-- Decimal digits in groups of three, as in `100,000`. -/
def grouped : Int → String
  | .ofNat number => String.ofList (groupThousands (Nat.toDigits 10 number))
  | .negSucc number => "-" ++ String.ofList (groupThousands (Nat.toDigits 10 (number + 1)))

/-- Pads a numeral with zeros on the left. -/
def padLeft
    (width : Nat)
    (digits : String) : String :=
  String.ofList (List.replicate (width - digits.length) '0' ++ digits.toList)

/-- Hexadecimal digits in lower case, padded to a width. -/
def hexadecimal
    (width number : Nat) : String :=
  padLeft width (String.ofList (Nat.toDigits 16 number))

/-- A decimal digit, zero to nine. -/
def isDecimalDigit (c : Char) : Bool :=
  '0' ≤ c && c ≤ '9'

/-- The value of a hexadecimal digit, of either case. -/
def hexadecimalDigit? (c : Char) : Option Nat :=
  if '0' ≤ c && c ≤ '9' then some (c.toNat - 48)
  else if 'a' ≤ c && c ≤ 'f' then some (c.toNat - 87)
  else if 'A' ≤ c && c ≤ 'F' then some (c.toNat - 55)
  else none

/-- The number that a list of decimal digits writes. -/
def numberOfDigits (digits : List Char) : Nat :=
  digits.foldl (fun number c => number * 10 + (c.toNat - 48)) 0

/-- The number that a list of digits writes in a base up to sixteen; other characters count zero. -/
def numberInBase
    (base : Nat)
    (digits : List Char) : Nat :=
  digits.foldl (fun number c => number * base + (hexadecimalDigit? c).getD 0) 0

/-- The greatest number of digits of a whole number written as text. -/
def digitLimit : Nat := 4300

/-- The wording for a whole number with too many digits. -/
def tooManyDigitsMessage (digits : Nat) : String :=
  "Exceeds the limit (" ++ decimal digitLimit ++
    " digits) for integer string conversion: value has " ++ decimal digits ++
    " digits; use sys.set_int_max_str_digits() to increase the limit"

/-- Whether a whole number has too many digits to be written as text. -/
def isTooLong (number : Int) : Bool :=
  number.natAbs.log2 ≥ 3 * digitLimit && number.natAbs ≥ Nat.pow 10 digitLimit

/-- The wording for a whole number that has too many digits to be written. -/
def tooLongToWriteMessage : String :=
  "Exceeds the limit (" ++ decimal digitLimit ++
    " digits) for integer string conversion; use sys.set_int_max_str_digits() to increase the limit"

end TypeCatalog.Text
