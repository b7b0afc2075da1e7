import TypeCatalog.Crash
import TypeCatalog.Number.Shortest
import TypeCatalog.Value.Basic

namespace TypeCatalog

/-!
# Quantities

A quantity is a whole number or a double.  Quantities are compared exactly.  Arithmetic of two whole
numbers is exact, too; beside a double a whole number becomes a double first.
-/

/-- A quantity. -/
inductive Quantity where
  | whole (number : Int)
  | double (number : Binary64)
deriving Repr, DecidableEq

namespace Quantity

/-- The crash for a whole number that is too large to become a double. -/
def overflowCrash : Crash :=
  ⟨.overflow, "int too large to convert to float"⟩

/-- The quantity as a double. -/
def toDouble : Quantity → Except Crash Binary64
  | .double number => .ok number
  | .whole number =>
    if (Binary64.ofInt number).isFinite then .ok (.ofInt number) else .error overflowCrash

/-- A finite quantity as a quotient. -/
def ratio? : Quantity → Option (Int × Nat)
  | .whole number => some (number, 1)
  | .double (.finite negative significand exponent) =>
    some (Binary64.ratio negative significand exponent)
  | .double _ => none

/-- A double that lies to infinite and undefined numbers as the quantity does. -/
def placeholder : Quantity → Binary64
  | .whole _ => .zero false
  | .double number => number

/-- Whether one quantity is below another. -/
def below (first second : Quantity) : Bool :=
  match first.ratio?, second.ratio? with
  | some one, some other => one.1 * other.2 < other.1 * one.2
  | _, _ => first.placeholder.less second.placeholder

/-- The whole number meant by a quotient that was rounded: the one not above it, unless it is more
than one half above that.  A zero has the sign of what was divided. -/
def wholeOfQuotient
    (negative : Bool) : Binary64 → Binary64
  | .finite sign significand exponent =>
    if significand = 0 then
      .zero negative
    else
      let exact := Binary64.ratio sign significand exponent
      let floor := exact.1.fdiv exact.2
      .ofInt (if 2 * (exact.1 - floor * exact.2) > exact.2 then floor + 1 else floor)
  | quotient => quotient

/-- The quotient of a double by a positive number, rounded. -/
def quotientBy
    (divisor : Int × Nat) : Binary64 → Binary64
  | .finite sign significand exponent =>
    let exact := Binary64.ratio sign significand exponent
    .ofSignedRatio (exact.1 * divisor.2) (exact.2 * divisor.1.natAbs)
  | number => number

/-- The greatest whole number not above a quotient, as a double; the divisor is positive.  What
remains is taken off before the division, and each step is rounded. -/
def floorOfDoubles
    (number : Binary64) : Binary64 → Binary64
  | .finite _ divisor divisorExponent =>
    match number with
    | .finite negative significand exponent =>
      let one := Binary64.ratio negative significand exponent
      let other := Binary64.ratio false divisor divisorExponent
      let rest := (one.1 * other.2).tmod (other.1 * one.2)
      let whole := number.add (Binary64.ofSignedRatio rest (one.2 * other.2)).neg
      let quotient := quotientBy other whole
      wholeOfQuotient negative (if rest < 0 then quotient.add (.ofInt (-1)) else quotient)
    | _ => .nan
  | .infinite _ =>
    match number with
    | .finite negative significand _ =>
      if negative && significand != 0 then .ofInt (-1) else .zero negative
    | _ => .nan
  | .nan => .nan

/-- The greatest whole number not above a quotient; the divisor is positive. -/
def floorDivide : Quantity → Quantity → Except Crash Quantity
  | .whole number, .whole divisor => .ok (.whole (number.fdiv divisor))
  | number, divisor => do
    return .double (floorOfDoubles (← number.toDouble) (← divisor.toDouble))

/-- The product. -/
def times : Quantity → Quantity → Except Crash Quantity
  | .whole first, .whole second => .ok (.whole (first * second))
  | first, second => do
    return .double ((← first.toDouble).mul (← second.toDouble))

/-- Digits before the decimal point in groups of three, as in `1,234.5`; a number with an exponent
has just one. -/
def grouped : Quantity → String
  | .whole number => Text.grouped number
  | .double number =>
    let characters := number.text.toList
    let sign := characters.takeWhile (· == '-')
    let unsigned := characters.dropWhile (· == '-')
    String.ofList
      (sign ++ Text.groupThousands (unsigned.takeWhile Text.isDecimalDigit) ++
        unsigned.dropWhile Text.isDecimalDigit)

/-- The quantity as a value. -/
def toValue : Quantity → Value
  | .whole number => .int number
  | .double number => .float number

/-- The quantity that a value is; a truth value counts as one or zero. -/
def ofValue? : Value → Option Quantity
  | .int number => some (.whole number)
  | .bool truth => some (.whole (if truth then 1 else 0))
  | .float number => some (.double number)
  | _ => none

/-- The quantity that a value must be. -/
def ofValue (value : Value) : Except Crash Quantity :=
  match ofValue? value with
  | some quantity => .ok quantity
  | none => .error ⟨.wrongType, "a number is required"⟩

end Quantity

end TypeCatalog
