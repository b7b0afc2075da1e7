namespace TypeCatalog

/-!
# Double precision numbers

Numbers of 53 significant bits, as their exact parts.  Every operation computes the exact
rational result and rounds it once, to the nearest representable number and to an even
significand when two are equally near.
-/

/-- A finite number is `significand · 2 ^ exponent`, negated when the sign says so.  Rounding
keeps the significand below `2 ^ 53` and at least `2 ^ 52` unless the exponent is `-1074`. -/
inductive Binary64 where
  | nan
  | infinite (negative : Bool)
  | finite (negative : Bool) (significand : Nat) (exponent : Int)
deriving Repr, DecidableEq

namespace Binary64

/-- The least exponent of a finite number. -/
def leastExponent : Int := -1074

/-- The greatest exponent of a finite number. -/
def greatestExponent : Int := 971

/-- Zero with a sign. -/
def zero (negative : Bool) : Binary64 :=
  .finite negative 0 leastExponent

/-- A quotient rounded to the nearest whole number, ties to the even one. -/
def divideToEven (numerator denominator : Nat) : Nat :=
  let quotient := numerator / denominator
  let remainder := numerator % denominator
  if 2 * remainder < denominator then quotient
  else if 2 * remainder > denominator then quotient + 1
  else if quotient % 2 = 0 then quotient
  else quotient + 1

/-- `numerator / denominator / 2 ^ exponent` rounded to a whole number. -/
def scaledQuotient
    (numerator denominator : Nat)
    (exponent : Int) : Nat :=
  if exponent ≥ 0 then
    divideToEven numerator (denominator * Nat.pow 2 exponent.toNat)
  else
    divideToEven (numerator * Nat.pow 2 (-exponent).toNat) denominator

/-- Whether `2 ^ power ≤ numerator / denominator`. -/
def reachesPower
    (numerator denominator : Nat)
    (power : Int) : Bool :=
  if power ≥ 0 then
    denominator * Nat.pow 2 power.toNat ≤ numerator
  else
    denominator ≤ numerator * Nat.pow 2 (-power).toNat

/-- The double nearest to a quotient of natural numbers. -/
def ofRatio
    (negative : Bool)
    (numerator denominator : Nat) : Binary64 :=
  if numerator = 0 || denominator = 0 then
    zero negative
  else
    let estimate : Int := (Nat.log2 numerator : Int) - Nat.log2 denominator
    let leading := if reachesPower numerator denominator estimate then estimate else estimate - 1
    let exponent := max (leading - 52) leastExponent
    let significand := scaledQuotient numerator denominator exponent
    if significand = Nat.pow 2 53 then
      if exponent + 1 > greatestExponent then .infinite negative
      else .finite negative (Nat.pow 2 52) (exponent + 1)
    else if exponent > greatestExponent then
      .infinite negative
    else
      .finite negative significand exponent

/-- The double nearest to `digits · 10 ^ exponent`. -/
def ofDecimal
    (negative : Bool)
    (digits : Nat)
    (exponent : Int) : Binary64 :=
  if digits = 0 then
    zero negative
  else
    let width : Int := (Nat.toDigits 10 digits).length
    if exponent + width > 400 then
      .infinite negative
    else if exponent + width < -400 then
      zero negative
    else if exponent ≥ 0 then
      ofRatio negative (digits * Nat.pow 10 exponent.toNat) 1
    else
      ofRatio negative digits (Nat.pow 10 (-exponent).toNat)

/-- The double nearest to an integer, infinite when the integer is too large. -/
def ofInt (number : Int) : Binary64 :=
  ofRatio (number < 0) number.natAbs 1

/-- Whether a number is neither infinite nor undefined. -/
def isFinite : Binary64 → Bool
  | .finite .. => true
  | _ => false

/-- A finite number as a quotient of an integer and a positive natural number. -/
def ratio
    (negative : Bool)
    (significand : Nat)
    (exponent : Int) : Int × Nat :=
  let sign : Int := if negative then -1 else 1
  if exponent ≥ 0 then
    (sign * (significand * Nat.pow 2 exponent.toNat : Nat), 1)
  else
    (sign * significand, Nat.pow 2 (-exponent).toNat)

/-- The double nearest to a quotient of an integer and a natural number; an exact zero is
positive. -/
def ofSignedRatio
    (numerator : Int)
    (denominator : Nat) : Binary64 :=
  ofRatio (numerator < 0) numerator.natAbs denominator

/-- The sum, rounded. -/
def add : Binary64 → Binary64 → Binary64
  | .nan, _ | _, .nan => .nan
  | .infinite first, .infinite second => if first = second then .infinite first else .nan
  | .infinite first, .finite .. => .infinite first
  | .finite .., .infinite second => .infinite second
  | .finite firstSign first firstExponent, .finite secondSign second secondExponent =>
    if first = 0 && second = 0 then
      zero (firstSign && secondSign)
    else
      let one := ratio firstSign first firstExponent
      let other := ratio secondSign second secondExponent
      ofSignedRatio (one.1 * other.2 + other.1 * one.2) (one.2 * other.2)

/-- The product, rounded. -/
def mul : Binary64 → Binary64 → Binary64
  | .nan, _ | _, .nan => .nan
  | .infinite first, .infinite second => .infinite (first != second)
  | .infinite first, .finite second significand _ =>
    if significand = 0 then .nan else .infinite (first != second)
  | .finite first significand _, .infinite second =>
    if significand = 0 then .nan else .infinite (first != second)
  | .finite firstSign first firstExponent, .finite secondSign second secondExponent =>
    let one := ratio firstSign first firstExponent
    let other := ratio secondSign second secondExponent
    ofRatio (firstSign != secondSign) (one.1 * other.1).natAbs (one.2 * other.2)

/-- The number with the other sign. -/
def neg : Binary64 → Binary64
  | .nan => .nan
  | .infinite negative => .infinite (!negative)
  | .finite negative significand exponent => .finite (!negative) significand exponent

/-- Whether one number is below another; nothing is below or above the undefined number. -/
def less : Binary64 → Binary64 → Bool
  | .nan, _ | _, .nan => false
  | .infinite first, .infinite second => first && !second
  | .infinite first, .finite .. => first
  | .finite .., .infinite second => !second
  | .finite firstSign first firstExponent, .finite secondSign second secondExponent =>
    let one := ratio firstSign first firstExponent
    let other := ratio secondSign second secondExponent
    one.1 * other.2 < other.1 * one.2

/-- Whether two numbers are equal as numbers: both zeros are equal, the undefined number is not
equal to itself. -/
def equal : Binary64 → Binary64 → Bool
  | .nan, _ | _, .nan => false
  | first, second => !less first second && !less second first

/-- Whether one number is below another or equal to it. -/
def atMost (first second : Binary64) : Bool :=
  first.less second || first.equal second

/-- The integer that a number is, if it is one. -/
def toInt? : Binary64 → Option Int
  | .nan | .infinite _ => none
  | .finite negative significand exponent =>
    let exact := ratio negative significand exponent
    if exact.1 % exact.2 = 0 then some (exact.1 / exact.2) else none

end Binary64

end TypeCatalog
