import TypeCatalog.Number.Binary64
import TypeCatalog.Text.Numeral

namespace TypeCatalog.Binary64

/-!
# Shortest decimal text

A double is written with the fewest decimal digits that read back as the same double, and with
the digits nearest to it among those.  Numbers from `0.0001` up to, but not including, `10 ^ 16`
are written positionally, others with an exponent of at least two digits.
-/

/-- The numbers that round to one double, as three numerators over a common denominator: the lower
end, the double itself and the upper end, and whether the ends belong to it. -/
structure RoundingInterval where
  lower : Nat
  centre : Nat
  upper : Nat
  denominator : Nat
  closed : Bool
deriving Repr

/-- The rounding interval of a positive double. -/
def roundingInterval
    (significand : Nat)
    (exponent : Int) : RoundingInterval :=
  let below := if significand = Nat.pow 2 52 && exponent > leastExponent then 1 else 2
  let scale := if exponent ≥ 2 then Nat.pow 2 (exponent - 2).toNat else 1
  let denominator := if exponent ≥ 2 then 1 else Nat.pow 2 (2 - exponent).toNat
  ⟨(4 * significand - below) * scale,
    4 * significand * scale,
    (4 * significand + 2) * scale,
    denominator,
    significand % 2 = 0⟩

/-- Whether `10 ^ power ≤ numerator / denominator`. -/
def reachesDecimalPower
    (numerator denominator : Nat)
    (power : Int) : Bool :=
  if power ≥ 0 then
    denominator * Nat.pow 10 power.toNat ≤ numerator
  else
    denominator ≤ numerator * Nat.pow 10 (-power).toNat

/-- The number of digits before the decimal point of a positive quotient; not positive for
quotients below one tenth. -/
def decimalWidth
    (numerator denominator : Nat) : Int :=
  let estimate : Int :=
    ((Nat.log2 numerator : Int) - Nat.log2 denominator - 1) * 30103 / 100000
  let candidates := [estimate + 3, estimate + 2, estimate + 1, estimate, estimate - 1]
  match candidates.find? (reachesDecimalPower numerator denominator) with
  | some power => power + 1
  | none => estimate

/-- A number `digits · 10 ^ exponent`. -/
structure DecimalDigits where
  digits : Nat
  exponent : Int
deriving Repr, DecidableEq

/-- The point of the decimal grid `10 ^ exponent` that lies in an interval, if one of the two
neighbours of its centre does; the nearer one if both do. -/
def RoundingInterval.gridPoint?
    (interval : RoundingInterval)
    (exponent : Int) : Option DecimalDigits :=
  let raise := if exponent < 0 then Nat.pow 10 (-exponent).toNat else 1
  let denominator := interval.denominator * (if exponent ≥ 0 then Nat.pow 10 exponent.toNat else 1)
  let floor := interval.centre * raise / denominator
  let remainder := interval.centre * raise % denominator
  let floorFits :=
    if interval.closed then interval.lower * raise ≤ floor * denominator
    else interval.lower * raise < floor * denominator
  let ceilingFits :=
    if interval.closed then (floor + 1) * denominator ≤ interval.upper * raise
    else (floor + 1) * denominator < interval.upper * raise
  if floor > 0 && (floorFits || remainder = 0) then
    if ceilingFits && (2 * remainder > denominator ||
        (2 * remainder = denominator && floor % 2 = 1)) then
      some ⟨floor + 1, exponent⟩
    else
      some ⟨floor, exponent⟩
  else if ceilingFits then
    some ⟨floor + 1, exponent⟩
  else
    none

/-- The fewest digits of a positive double: tries one digit, two digits and so on. -/
def shortestDigits
    (significand : Nat)
    (exponent : Int) : DecimalDigits :=
  let interval := roundingInterval significand exponent
  let width := decimalWidth interval.centre interval.denominator
  let counts := List.range 18
  match counts.findSome? fun (count : Nat) => interval.gridPoint? (width - 1 - (count : Int)) with
  | some point => point
  | none => ⟨significand, exponent⟩

/-- Digits without the zeros at their end, and how many zeros there were. -/
def stripZeros (digits : List Char) : List Char × Nat :=
  let kept := (digits.reverse.dropWhile (· == '0')).reverse
  (kept, digits.length - kept.length)

/-- An exponent with its sign and at least two digits. -/
def exponentText (exponent : Int) : String :=
  (if exponent < 0 then "-" else "+") ++ Text.padLeft 2 (Text.decimal exponent.natAbs)

/-- The text of a number whose digits stand at `point` places before the decimal point. -/
def layout
    (digits : List Char)
    (point : Int) : String :=
  if -4 < point && point ≤ 16 then
    if point ≤ 0 then
      "0." ++ String.ofList (List.replicate (-point).toNat '0' ++ digits)
    else if digits.length ≤ point.toNat then
      String.ofList (digits ++ List.replicate (point.toNat - digits.length) '0') ++ ".0"
    else
      String.ofList (digits.take point.toNat) ++ "." ++ String.ofList (digits.drop point.toNat)
  else
    match digits with
    | [] => "0.0"
    | [digit] => String.singleton digit ++ "e" ++ exponentText (point - 1)
    | digit :: others =>
      String.singleton digit ++ "." ++ String.ofList others ++ "e" ++ exponentText (point - 1)

/-- The shortest text of a positive double. -/
def positiveText
    (significand : Nat)
    (exponent : Int) : String :=
  let shortest := shortestDigits significand exponent
  let stripped := stripZeros (Nat.toDigits 10 shortest.digits)
  layout stripped.1 (shortest.exponent + stripped.2 + stripped.1.length)

/-- The shortest text of a double. -/
def text : Binary64 → String
  | .nan => "nan"
  | .infinite negative => if negative then "-inf" else "inf"
  | .finite negative significand exponent =>
    (if negative then "-" else "") ++
      (if significand = 0 then "0.0" else positiveText significand exponent)

end TypeCatalog.Binary64
