import TypeCatalog.Json.Printer
import TypeCatalog.Proofs.Json.Grammar
import TypeCatalog.Proofs.Number.ShortestDigits
import TypeCatalog.Proofs.Text.Numeral

namespace TypeCatalog

/-!
# Numbers that are written

Integers and finite doubles are written as numbers of the grammar, and these numbers stand for them.
-/

/-! ## Digits -/

namespace Text

theorem numberOfDigits_append (first second : List Char) :
    numberOfDigits (first ++ second) =
      numberOfDigits first * 10 ^ second.length + numberOfDigits second := by
  have shifted : ∀ (digits : List Char) (start : Nat),
      digits.foldl (fun number c => number * 10 + (c.toNat - 48)) start =
        start * 10 ^ digits.length + numberOfDigits digits := by
    intro digits
    induction digits with
    | nil =>
        intro start
        simp [numberOfDigits]
    | cons c rest inductionHypothesis =>
        intro start
        rw [numberOfDigits, List.foldl_cons, List.foldl_cons, inductionHypothesis,
          inductionHypothesis (0 * 10 + _), List.length_cons]
        ring
  rw [numberOfDigits, List.foldl_append, shifted]
  rfl

theorem numberOfDigits_replicate_zero (count : Nat) :
    numberOfDigits (List.replicate count '0') = 0 := by
  induction count with
  | zero => rfl
  | succ count inductionHypothesis =>
      rw [List.replicate_succ']
      rw [numberOfDigits_append, inductionHypothesis]
      rfl

/-- A positive number does not start with a zero. -/
theorem head?_toDigits_ne_zero
    {number : Nat}
    (positive : 0 < number) :
    (Nat.toDigits 10 number).head? ≠ some '0' := by
  induction number using Nat.strongRecOn with
  | ind number inductionHypothesis =>
      rw [Nat.toDigits_eq_if (by decide)]
      split
      · next isDigit =>
          have : ∀ digit < 10, 0 < digit → [Nat.digitChar digit].head? ≠ some '0' := by decide
          exact this number isDigit positive
      · next isLarge =>
          rw [List.head?_append_of_ne_nil _ Nat.toDigits_ne_nil]
          exact inductionHypothesis (number / 10) (by omega) (by omega)

theorem isWholePart_toDigits (number : Nat) : Json.IsWholePart (Nat.toDigits 10 number) := by
  refine ⟨⟨Nat.toDigits_ne_nil, fun c => isDecimalDigit_of_mem_toDigits⟩, fun isZero => ?_⟩
  rcases Nat.eq_zero_or_pos number with rfl | positive
  · rfl
  · exact absurd isZero (head?_toDigits_ne_zero positive)

end Text

namespace Json

open Text

/-- Integers are written as numbers. -/
theorem isNumber_signedDecimal (number : Int) :
    IsNumber (signedDecimal number).toList (.int number) := by
  cases number with
  | ofNat size =>
      have written := IsNumber.whole false (isWholePart_toDigits size)
      rw [numberOfDigits_toDigits] at written
      simpa [minus, withSign, signedDecimal, decimal] using written
  | negSucc size =>
      have written := IsNumber.whole true (isWholePart_toDigits (size + 1))
      rw [numberOfDigits_toDigits] at written
      simpa [minus, withSign, signedDecimal, decimal, Int.negSucc_eq] using written

/-! ## Texts of doubles -/

theorem IsDigits.append
    {first second : List Char}
    (areDigits : IsDigits first)
    (others : ∀ c ∈ second, isDecimalDigit c = true) :
    IsDigits (first ++ second) :=
  ⟨List.append_ne_nil_of_left_ne_nil areDigits.1 second, fun c member =>
    (List.mem_append.mp member).elim (areDigits.2 c) (others c)⟩

private theorem isDecimalDigit_of_mem_zeros
    {count : Nat}
    {c : Char}
    (member : c ∈ List.replicate count '0') :
    isDecimalDigit c = true := by
  rw [List.eq_of_mem_replicate member]
  rfl

private theorem numberOfDigits_zeros_append
    (count : Nat)
    (digits : List Char) :
    numberOfDigits (List.replicate count '0' ++ digits) = numberOfDigits digits := by
  rw [numberOfDigits_append, numberOfDigits_replicate_zero, Nat.zero_mul, Nat.zero_add]

theorem isExponent_exponentText (exponent : Int) :
    IsExponent ('e' :: (Binary64.exponentText exponent).toList) exponent := by
  have areDigits : IsDigits (padLeft 2 (decimal exponent.natAbs)).toList := by
    have numeral : ∀ c ∈ Nat.toDigits 10 exponent.natAbs, isDecimalDigit c = true :=
      fun c => isDecimalDigit_of_mem_toDigits
    refine ⟨by simp [padLeft, decimal, Nat.toDigits_ne_nil], fun c member => ?_⟩
    simp only [padLeft, decimal, String.toList_ofList, List.mem_append] at member
    exact member.elim isDecimalDigit_of_mem_zeros (numeral c)
  have isSize : numberOfDigits (padLeft 2 (decimal exponent.natAbs)).toList = exponent.natAbs := by
    rw [padLeft, decimal, String.toList_ofList, String.toList_ofList, numberOfDigits_zeros_append,
      numberOfDigits_toDigits]
  unfold Binary64.exponentText
  split
  · next isNegative =>
      have written := IsExponent.some (.inl rfl) .minus areDigits
      rw [isSize, withSign, if_pos rfl, Int.natCast_natAbs, abs_of_neg isNegative,
        neg_neg] at written
      simpa using written
  · next isPositive =>
      have written := IsExponent.some (.inl rfl) .plus areDigits
      rw [isSize, withSign, if_neg Bool.false_ne_true, Int.natCast_natAbs,
        abs_of_nonneg (Int.not_lt.mp isPositive)] at written
      simpa using written

/-- A number with a fraction or an exponent but no sign, and what it says exactly. -/
inductive IsDecimal : List Char → ℚ → Prop
  | intro {whole fraction digits exponent : List Char} {power : Int} {value : ℚ}
      (isWhole : IsWholePart whole) (isFraction : IsFraction fraction digits)
      (isExponent : IsExponent exponent power) (notWhole : fraction ++ exponent ≠ [])
      (isValue : (numberOfDigits (whole ++ digits) : ℚ) * 10 ^ (power - digits.length) = value) :
      IsDecimal (whole ++ (fraction ++ exponent)) value

/-- What digits say when their point is set. -/
def pointValue
    (digits : List Char)
    (point : Int) : ℚ :=
  numberOfDigits digits * 10 ^ (point - digits.length)

section Layout

variable {digits : List Char} {point : Int}

/-- Digits behind a point and zeros. -/
private theorem isDecimal_of_small
    (areDigits : IsDigits digits)
    (isSmall : point ≤ 0) :
    IsDecimal ("0." ++ String.ofList (List.replicate (-point).toNat '0' ++ digits)).toList
      (pointValue digits point) := by
  have isWhole : IsWholePart ['0'] := isWholePart_toDigits 0
  have fractionDigits : IsDigits (List.replicate (-point).toNat '0' ++ digits) :=
    ⟨List.append_ne_nil_of_right_ne_nil _ areDigits.1, fun c member =>
      (List.mem_append.mp member).elim isDecimalDigit_of_mem_zeros (areDigits.2 c)⟩
  have written := IsDecimal.intro isWhole (.some fractionDigits) .none
    (List.append_ne_nil_of_left_ne_nil (List.cons_ne_nil _ _) _) rfl
  have isValue : (numberOfDigits (['0'] ++ (List.replicate (-point).toNat '0' ++ digits)) : ℚ) *
      10 ^ (0 - ((List.replicate (-point).toNat '0' ++ digits).length : Int)) =
        pointValue digits point := by
    have isZeros : ['0'] ++ (List.replicate (-point).toNat '0' ++ digits) =
        List.replicate ((-point).toNat + 1) '0' ++ digits := rfl
    rw [isZeros, numberOfDigits_zeros_append, pointValue, List.length_append,
      List.length_replicate]
    congr 2
    omega
  rw [isValue] at written
  simpa using written

/-- Digits that do not start with zero may stand in front of a point. -/
private theorem isWholePart_append
    (areDigits : IsDigits digits)
    (noLeadingZero : digits.head? ≠ some '0')
    {others : List Char}
    (otherDigits : ∀ c ∈ others, isDecimalDigit c = true) :
    IsWholePart (digits ++ others) := by
  refine ⟨areDigits.append otherDigits, fun isZero => absurd isZero ?_⟩
  rwa [List.head?_append_of_ne_nil _ areDigits.1]

/-- Digits with zeros behind them and a point at the end. -/
private theorem isDecimal_of_long
    (areDigits : IsDigits digits)
    (noLeadingZero : digits.head? ≠ some '0')
    (isLong : (digits.length : Int) ≤ point) :
    IsDecimal (String.ofList (digits ++ List.replicate (point.toNat - digits.length) '0') ++
      ".0").toList (pointValue digits point) := by
  have isWhole : IsWholePart (digits ++ List.replicate (point.toNat - digits.length) '0') :=
    isWholePart_append areDigits noLeadingZero fun c => isDecimalDigit_of_mem_zeros
  have written := IsDecimal.intro isWhole (.some (isWholePart_toDigits 0).areDigits) .none
    (List.append_ne_nil_of_left_ne_nil (List.cons_ne_nil _ _) _) rfl
  have isValue :
      (numberOfDigits (digits ++ List.replicate (point.toNat - digits.length) '0' ++
          Nat.toDigits 10 0) : ℚ) * 10 ^ (0 - ((Nat.toDigits 10 0).length : Int)) =
        pointValue digits point := by
    have isPower : point - digits.length = ((point.toNat - digits.length : Nat) : Int) := by
      omega
    have isZero : numberOfDigits (Nat.toDigits 10 0) = 0 := rfl
    have isOne : (Nat.toDigits 10 0).length = 1 := rfl
    rw [numberOfDigits_append, numberOfDigits_append, numberOfDigits_replicate_zero, isZero, isOne,
      List.length_replicate, pointValue, isPower, zpow_natCast]
    push_cast
    norm_num
    ring
  rw [isValue] at written
  simpa using written

/-- Digits with a point among them. -/
private theorem isDecimal_of_inside
    (areDigits : IsDigits digits)
    (noLeadingZero : digits.head? ≠ some '0')
    (isPositive : 0 < point)
    (isInside : point < digits.length) :
    IsDecimal (String.ofList (digits.take point.toNat) ++ "." ++
      String.ofList (digits.drop point.toNat)).toList (pointValue digits point) := by
  have taken : IsDigits (digits.take point.toNat) := by
    refine ⟨fun isNil => ?_, fun c member => areDigits.2 c (List.mem_of_mem_take member)⟩
    have := congrArg List.length isNil
    rw [List.length_take, List.length_nil] at this
    omega
  have dropped : IsDigits (digits.drop point.toNat) := by
    refine ⟨fun isNil => ?_, fun c member => areDigits.2 c (List.mem_of_mem_drop member)⟩
    have := congrArg List.length isNil
    rw [List.length_drop, List.length_nil] at this
    omega
  have isWhole : IsWholePart (digits.take point.toNat) := by
    refine ⟨taken, fun isZero => absurd isZero ?_⟩
    rwa [List.head?_take, if_neg (by omega)]
  have written := IsDecimal.intro isWhole (.some dropped) .none
    (List.append_ne_nil_of_left_ne_nil (List.cons_ne_nil _ _) _) rfl
  rw [List.take_append_drop, List.length_drop] at written
  have isPower : 0 - ((digits.length - point.toNat : Nat) : Int) = point - digits.length := by
    omega
  rw [isPower] at written
  simpa [pointValue] using written

/-- One digit with the others behind a point, and an exponent. -/
private theorem isDecimal_of_exponent
    {digit : Char}
    {others : List Char}
    (areDigits : IsDigits (digit :: others))
    (noLeadingZero : (digit :: others).head? ≠ some '0')
    {fraction : List Char}
    (isFraction : IsFraction fraction others) :
    IsDecimal ([digit] ++ (fraction ++ ('e' :: (Binary64.exponentText (point - 1)).toList)))
      (pointValue (digit :: others) point) := by
  have isWhole : IsWholePart [digit] := by
    refine ⟨⟨List.cons_ne_nil _ _, fun c member => ?_⟩, fun isZero => absurd isZero noLeadingZero⟩
    rw [List.mem_singleton.mp member]
    exact areDigits.2 digit List.mem_cons_self
  refine .intro isWhole isFraction (isExponent_exponentText (point - 1))
    (List.append_ne_nil_of_right_ne_nil _ (List.cons_ne_nil _ _)) ?_
  rw [pointValue, List.singleton_append, List.length_cons]
  congr 2
  push_cast
  ring

/-- Digits are laid out as a decimal number. -/
theorem isDecimal_layout
    (areDigits : IsDigits digits)
    (noLeadingZero : digits.head? ≠ some '0')
    (point : Int) :
    IsDecimal (Binary64.layout digits point).toList (pointValue digits point) := by
  unfold Binary64.layout
  split
  · split
    · next isSmall =>
        exact isDecimal_of_small areDigits isSmall
    · next isPositive =>
        split
        · next isLong =>
            exact isDecimal_of_long areDigits noLeadingZero (by omega)
        · next isInside =>
            exact isDecimal_of_inside areDigits noLeadingZero (by omega) (by omega)
  · split
    · exact absurd rfl areDigits.1
    · have written := @isDecimal_of_exponent point _ _ areDigits noLeadingZero _ .none
      simpa using written
    · next others notSingle =>
        have someOthers : others ≠ [] := fun isNil => notSingle isNil
        have otherDigits : IsDigits others :=
          ⟨someOthers, fun c member => areDigits.2 c (List.mem_cons_of_mem _ member)⟩
        have written :=
          @isDecimal_of_exponent point _ _ areDigits noLeadingZero _ (.some otherDigits)
        simpa using written

end Layout

/-- Digits without the zeros at their end, and those zeros. -/
theorem append_stripZeros (digits : List Char) :
    (Binary64.stripZeros digits).1 ++ List.replicate (Binary64.stripZeros digits).2 '0' =
      digits := by
  unfold Binary64.stripZeros
  have parts := List.takeWhile_append_dropWhile (p := (· == '0')) (l := digits.reverse)
  generalize isKept : digits.reverse.dropWhile (· == '0') = kept at parts ⊢
  generalize isZeros : digits.reverse.takeWhile (· == '0') = zeros at parts
  have areZeros : zeros = List.replicate zeros.length '0' := by
    refine List.eq_replicate_iff.mpr ⟨rfl, fun c member => ?_⟩
    rw [← isZeros] at member
    simpa using List.mem_takeWhile_imp member
  have isReverse : digits = kept.reverse ++ zeros.reverse := by
    rw [← List.reverse_append, parts, List.reverse_reverse]
  have isCount : digits.length - kept.reverse.length = zeros.length := by
    rw [isReverse]
    simp
  dsimp only
  rw [isCount, ← List.reverse_replicate, ← areZeros, ← isReverse]

/-- The digits of a positive number without the zeros at their end. -/
private theorem stripZeros_toDigits
    {number : Nat}
    (number_pos : 0 < number) :
    IsDigits (Binary64.stripZeros (Nat.toDigits 10 number)).1 ∧
      (Binary64.stripZeros (Nat.toDigits 10 number)).1.head? ≠ some '0' ∧
      numberOfDigits (Binary64.stripZeros (Nat.toDigits 10 number)).1 *
        10 ^ (Binary64.stripZeros (Nat.toDigits 10 number)).2 = number := by
  have parts := append_stripZeros (Nat.toDigits 10 number)
  have noLeadingZero := head?_toDigits_ne_zero number_pos
  have areDigits : ∀ c ∈ Nat.toDigits 10 number, isDecimalDigit c = true :=
    fun c => isDecimalDigit_of_mem_toDigits
  have isValue := numberOfDigits_toDigits number
  generalize Binary64.stripZeros (Nat.toDigits 10 number) = stripped at parts ⊢
  rw [← parts, numberOfDigits_append, numberOfDigits_replicate_zero, List.length_replicate,
    Nat.add_zero] at isValue
  have someDigits : stripped.1 ≠ [] := by
    intro isNil
    rw [isNil, numberOfDigits, List.foldl_nil, Nat.zero_mul] at isValue
    exact number_pos.ne isValue
  rw [← parts] at areDigits noLeadingZero
  rw [List.head?_append_of_ne_nil _ someDigits] at noLeadingZero
  exact ⟨⟨someDigits, fun c member => areDigits c (List.mem_append_left _ member)⟩,
    noLeadingZero, isValue⟩

/-- The text of a positive double says a number between its ends. -/
private theorem isDecimal_positiveText
    {negative : Bool}
    {significand : Nat}
    {exponent : Int}
    (isDouble : (Binary64.finite negative significand exponent).IsDouble)
    (significand_pos : 0 < significand) :
    ∃ value, Binary64.RoundsTo significand exponent value ∧
      IsDecimal (Binary64.positiveText significand exponent).toList value := by
  obtain ⟨digits_pos, rounds⟩ := Binary64.shortestDigits_roundsTo isDouble significand_pos
  unfold Binary64.positiveText
  generalize Binary64.shortestDigits significand exponent = shortest at digits_pos rounds ⊢
  obtain ⟨areDigits, noLeadingZero, isNumber⟩ := stripZeros_toDigits digits_pos
  refine ⟨_, rounds, ?_⟩
  dsimp only
  generalize Binary64.stripZeros (Nat.toDigits 10 shortest.digits) = stripped at *
  have isValue : pointValue stripped.1 (shortest.exponent + stripped.2 + stripped.1.length) =
      shortest.value := by
    rw [pointValue, Binary64.DecimalDigits.value, ← isNumber, add_sub_cancel_right,
      zpow_add₀ (by norm_num), zpow_natCast]
    push_cast
    ring
  rw [← isValue]
  exact isDecimal_layout areDigits noLeadingZero _

/-- Finite doubles are written as numbers, which are rounded to them. -/
theorem isNumber_text
    {negative : Bool}
    {significand : Nat}
    {exponent : Int}
    (isDouble : (Binary64.finite negative significand exponent).IsDouble) :
    IsNumber (Binary64.text (.finite negative significand exponent)).toList
      (.float (.finite negative significand exponent)) := by
  have isMinus : (if negative then "-" else "").toList = minus negative := by
    cases negative <;> rfl
  rw [Binary64.text, String.toList_append, isMinus]
  split
  · next isZero =>
      subst isZero
      obtain ⟨-, -, -, isLarge | rfl⟩ := isDouble
      · exact absurd isLarge (by decide)
      · have isZero : IsDigits ['0'] := (isWholePart_toDigits 0).areDigits
        exact IsNumber.decimal negative (isWholePart_toDigits 0) (.some isZero) .none
          (List.cons_ne_nil _ _)
  · next notZero =>
      obtain ⟨value, rounds, isDecimal⟩ :=
        isDecimal_positiveText isDouble (Nat.pos_of_ne_zero notZero)
      generalize (Binary64.positiveText significand exponent).toList = text at isDecimal ⊢
      obtain ⟨isWhole, isFraction, isExponent, notWhole, rfl⟩ := isDecimal
      have isRounded :=
        Binary64.ofDecimal_of_roundsTo isDouble (Nat.pos_of_ne_zero notZero) rounds
      rw [← isRounded]
      exact .decimal negative isWhole isFraction isExponent notWhole

end Json

end TypeCatalog
