import Mathlib.Algebra.Order.Field.Power
import Mathlib.Algebra.Order.Field.Rat
import Mathlib.Tactic.FieldSimp
import Mathlib.Tactic.Linarith
import Mathlib.Tactic.NormNum
import Mathlib.Tactic.Positivity
import Mathlib.Tactic.Ring
import TypeCatalog.Number.Binary64

namespace TypeCatalog.Binary64

/-!
# The exact values of doubles

A finite double is a rational number, and finite doubles are compared as these numbers are.  A sum
of doubles is rounded; where it needs no rounding it is the sum of the numbers.  Every rational
number between the ends of the rounding interval of a double is rounded to that double.
-/

/-! ## Exact values -/

/-- The rational number that a finite double is; the others stand for none and are given zero. -/
def value : Binary64 → ℚ
  | .nan | .infinite _ => 0
  | .finite negative significand exponent =>
    (ratio negative significand exponent).1 / (ratio negative significand exponent).2

/-- Two doubles whose sum is finite and not rounded. -/
structure AddsExactly (first second : Binary64) : Prop where
  finite : (first.add second).isFinite = true
  value_add : (first.add second).value = first.value + second.value

private theorem ratio_denominator_pos
    (negative : Bool)
    (significand : Nat)
    (exponent : Int) :
    (0 : ℚ) < (ratio negative significand exponent).2 := by
  by_cases isWhole : exponent ≥ 0
  · simp [ratio, if_pos isWhole]
  · simp [ratio, if_neg isWhole]

/-- Finite doubles are compared as the numbers that they are. -/
theorem less_iff
    {first second : Binary64}
    (firstFinite : first.isFinite = true)
    (secondFinite : second.isFinite = true) :
    first.less second = true ↔ first.value < second.value := by
  cases first with
  | nan | infinite =>
      cases firstFinite
  | finite firstSign firstPart firstExponent =>
      cases second with
      | nan | infinite =>
          cases secondFinite
      | finite secondSign secondPart secondExponent =>
          have firstPositive := ratio_denominator_pos firstSign firstPart firstExponent
          have secondPositive := ratio_denominator_pos secondSign secondPart secondExponent
          rw [value, value, div_lt_div_iff₀ firstPositive secondPositive, less,
            decide_eq_true_iff]
          exact_mod_cast Iff.rfl

/-- A finite double is at most another exactly if the number that it is is. -/
theorem atMost_iff
    {first second : Binary64}
    (firstFinite : first.isFinite = true)
    (secondFinite : second.isFinite = true) :
    first.atMost second = true ↔ first.value ≤ second.value := by
  have below := less_iff firstFinite secondFinite
  have above := less_iff secondFinite firstFinite
  have equalWhenNeither :
      first.equal second = (!first.less second && !second.less first) := by
    cases first with
    | nan | infinite =>
        cases firstFinite
    | finite =>
        cases second with
        | nan | infinite =>
            cases secondFinite
        | finite =>
            rfl
  rw [atMost, equalWhenNeither, Bool.or_eq_true, Bool.and_eq_true, Bool.not_eq_true',
    Bool.not_eq_true', ← Bool.not_eq_true, ← Bool.not_eq_true, below, above, not_lt, not_lt]
  constructor
  · rintro (isLess | ⟨_, notAbove⟩)
    · exact isLess.le
    · exact notAbove
  · intro notAbove
    rcases notAbove.lt_or_eq with isLess | isSame
    · exact .inl isLess
    · exact .inr ⟨isSame.ge, isSame.le⟩

/-! ## Rounding to whole numbers -/

/-- A quotient that is nearest to a whole number is rounded to it; of two that are equally near it
is rounded to the even one. -/
theorem divideToEven_eq
    {numerator denominator whole : Nat}
    (denominator_pos : 0 < denominator)
    (lower : (2 * whole - 1 : ℚ) ≤ 2 * (numerator / denominator))
    (upper : 2 * (numerator / denominator : ℚ) ≤ 2 * whole + 1)
    (tie : 2 * (numerator / denominator : ℚ) = 2 * whole - 1 ∨
      2 * (numerator / denominator : ℚ) = 2 * whole + 1 → whole % 2 = 0) :
    divideToEven numerator denominator = whole := by
  have denominator_cast : (0 : ℚ) < denominator := by exact_mod_cast denominator_pos
  have lowerNat : 2 * (whole * denominator) ≤ 2 * numerator + denominator := by
    rw [mul_div_assoc', le_div_iff₀ denominator_cast] at lower
    have : (2 * (whole * denominator) : ℚ) ≤ 2 * numerator + denominator := by linarith
    exact_mod_cast this
  have upperNat : 2 * numerator ≤ 2 * (whole * denominator) + denominator := by
    rw [mul_div_assoc', div_le_iff₀ denominator_cast] at upper
    have : (2 * numerator : ℚ) ≤ 2 * (whole * denominator) + denominator := by linarith
    exact_mod_cast this
  have tieNat : 2 * (whole * denominator) = 2 * numerator + denominator ∨
      2 * numerator = 2 * (whole * denominator) + denominator → whole % 2 = 0 := by
    rintro (below | above)
    · refine tie (.inl ?_)
      have : (2 * (whole * denominator) : ℚ) = 2 * numerator + denominator := by exact_mod_cast below
      rw [mul_div_assoc', div_eq_iff denominator_cast.ne']
      linarith
    · refine tie (.inr ?_)
      have : (2 * numerator : ℚ) = 2 * (whole * denominator) + denominator := by exact_mod_cast above
      rw [mul_div_assoc', div_eq_iff denominator_cast.ne']
      linarith
  have division := Nat.div_add_mod numerator denominator
  have remainder_lt := Nat.mod_lt numerator denominator_pos
  rw [Nat.mul_comm] at division
  have notBelow : numerator / denominator ≤ whole := by
    by_contra below
    have := Nat.mul_le_mul_right denominator (Nat.lt_of_not_le below)
    rw [Nat.succ_mul] at this
    omega
  have notAbove : whole ≤ numerator / denominator + 1 := by
    by_contra above
    have := Nat.mul_le_mul_right denominator (Nat.lt_of_not_le above)
    rw [Nat.succ_mul, Nat.succ_mul] at this
    omega
  have isQuotientOrNext : whole = numerator / denominator ∨ whole = numerator / denominator + 1 := by
    omega
  simp only [divideToEven]
  rcases isQuotientOrNext with isQuotient | isNext
  · rw [isQuotient] at lowerNat upperNat tieNat ⊢
    split
    · rfl
    · split
      · omega
      · split <;> omega
  · rw [isNext, Nat.add_mul, Nat.one_mul] at lowerNat upperNat tieNat
    rw [isNext]
    split
    · omega
    · split
      · rfl
      · split <;> omega

/-- Taking a power of two out of a quotient leaves a quotient that is rounded. -/
theorem exists_scaled
    {numerator denominator : Nat}
    (denominator_pos : 0 < denominator)
    (exponent : Int) :
    ∃ scaledNumerator scaledDenominator : Nat, 0 < scaledDenominator ∧
      (scaledNumerator / scaledDenominator : ℚ) * 2 ^ exponent = numerator / denominator ∧
        scaledQuotient numerator denominator exponent =
          divideToEven scaledNumerator scaledDenominator := by
  have denominator_cast : (0 : ℚ) < denominator := by exact_mod_cast denominator_pos
  simp only [scaledQuotient, Nat.pow_eq]
  split
  · next isWhole =>
      obtain ⟨power, rfl⟩ := Int.eq_ofNat_of_zero_le isWhole
      refine ⟨numerator, denominator * 2 ^ power, by positivity, ?_, rfl⟩
      rw [zpow_natCast]
      push_cast
      field_simp
  · next isFraction =>
      obtain ⟨power, isPower⟩ := Int.eq_ofNat_of_zero_le (Int.le_of_lt (Int.neg_pos_of_neg
        (Int.not_le.mp isFraction)))
      refine ⟨numerator * 2 ^ power, denominator, denominator_pos, ?_, by rw [isPower]; rfl⟩
      rw [← neg_neg exponent, isPower, zpow_neg, zpow_natCast]
      push_cast
      field_simp

/-- A quotient of which a power of two is taken out is rounded to the nearest whole number. -/
theorem scaledQuotient_eq
    {numerator denominator whole : Nat}
    {exponent : Int}
    (denominator_pos : 0 < denominator)
    (lower : (2 * whole - 1 : ℚ) * 2 ^ exponent ≤ 2 * (numerator / denominator))
    (upper : 2 * (numerator / denominator : ℚ) ≤ (2 * whole + 1) * 2 ^ exponent)
    (tie : 2 * (numerator / denominator : ℚ) = (2 * whole - 1) * 2 ^ exponent ∨
      2 * (numerator / denominator : ℚ) = (2 * whole + 1) * 2 ^ exponent → whole % 2 = 0) :
    scaledQuotient numerator denominator exponent = whole := by
  have power_pos : (0 : ℚ) < 2 ^ exponent := by positivity
  obtain ⟨scaledNumerator, scaledDenominator, scaled_pos, isScaled, rounds⟩ :=
    @exists_scaled numerator _ denominator_pos exponent
  rw [rounds]
  rw [← isScaled, ← mul_assoc] at lower upper tie
  refine divideToEven_eq scaled_pos (le_of_mul_le_mul_right lower power_pos)
    (le_of_mul_le_mul_right upper power_pos) ?_
  simpa only [mul_left_inj' power_pos.ne'] using tie

/-! ## The leading power of two -/

/-- Comparing a quotient with a power of a base, in whole numbers. -/
theorem reaches_iff
    {base numerator denominator : Nat}
    (base_pos : 0 < base)
    (denominator_pos : 0 < denominator)
    (power : Int) :
    (if power ≥ 0 then denominator * base ^ power.toNat ≤ numerator
      else denominator ≤ numerator * base ^ (-power).toNat) ↔
      (base : ℚ) ^ power ≤ numerator / denominator := by
  have base_cast : (0 : ℚ) < base := by exact_mod_cast base_pos
  have denominator_cast : (0 : ℚ) < denominator := by exact_mod_cast denominator_pos
  rw [le_div_iff₀ denominator_cast]
  split
  · next isWhole =>
      obtain ⟨natural, rfl⟩ := Int.eq_ofNat_of_zero_le isWhole
      rw [zpow_natCast, Int.toNat_natCast, Nat.mul_comm]
      exact_mod_cast Iff.rfl
  · next isFraction =>
      obtain ⟨natural, isNatural⟩ := Int.eq_ofNat_of_zero_le (Int.le_of_lt (Int.neg_pos_of_neg
        (Int.not_le.mp isFraction)))
      have power_pos : (0 : ℚ) < base ^ natural := by positivity
      rw [isNatural, Int.toNat_natCast, ← neg_neg power, isNatural, zpow_neg, zpow_natCast,
        inv_mul_le_iff₀ power_pos, mul_comm]
      exact_mod_cast Iff.rfl

theorem reachesPower_iff
    {numerator denominator : Nat}
    (denominator_pos : 0 < denominator)
    (power : Int) :
    reachesPower numerator denominator power = true ↔
      (2 : ℚ) ^ power ≤ numerator / denominator := by
  rw [← Nat.cast_ofNat, ← reaches_iff two_pos denominator_pos, reachesPower]
  split <;> exact decide_eq_true_iff

/-- The power of two that is reached by a quotient while the next one is not. -/
structure LeadsWith
    (quotient : ℚ)
    (power : Int) : Prop where
  reached : 2 ^ power ≤ quotient
  below : quotient < 2 ^ (power + 1)

theorem LeadsWith.unique
    {quotient : ℚ}
    {power other : Int}
    (leads : LeadsWith quotient power)
    (otherLeads : LeadsWith quotient other) :
    power = other := by
  have first := (zpow_lt_zpow_iff_right₀ (by norm_num)).mp
    (leads.reached.trans_lt otherLeads.below)
  have second := (zpow_lt_zpow_iff_right₀ (by norm_num)).mp
    (otherLeads.reached.trans_lt leads.below)
  omega

section Logarithm

variable {numerator denominator : Nat}

theorem zpow_log2_le
    (numerator_pos : 0 < numerator)
    (denominator_pos : 0 < denominator) :
    (2 : ℚ) ^ ((Nat.log2 numerator : Int) - Nat.log2 denominator - 1) ≤
      numerator / denominator := by
  have denominator_cast : (0 : ℚ) < denominator := by exact_mod_cast denominator_pos
  have le_numerator : (2 : ℚ) ^ Nat.log2 numerator ≤ numerator := by
    exact_mod_cast Nat.log2_self_le numerator_pos.ne'
  have denominator_lt : (denominator : ℚ) < 2 ^ (Nat.log2 denominator + 1) := by
    exact_mod_cast Nat.lt_log2_self
  rw [le_div_iff₀ denominator_cast]
  calc (2 : ℚ) ^ ((Nat.log2 numerator : Int) - Nat.log2 denominator - 1) * denominator
      ≤ 2 ^ ((Nat.log2 numerator : Int) - Nat.log2 denominator - 1) *
          2 ^ (Nat.log2 denominator + 1) := by
        gcongr
    _ = 2 ^ Nat.log2 numerator := by
        rw [← zpow_natCast, ← zpow_natCast, ← zpow_add₀ two_ne_zero]
        congr 1
        push_cast
        ring
    _ ≤ numerator := le_numerator

theorem lt_zpow_log2
    (denominator_pos : 0 < denominator) :
    (numerator / denominator : ℚ) <
      2 ^ ((Nat.log2 numerator : Int) - Nat.log2 denominator + 1) := by
  have denominator_cast : (0 : ℚ) < denominator := by exact_mod_cast denominator_pos
  have numerator_lt : (numerator : ℚ) < 2 ^ (Nat.log2 numerator + 1) := by
    exact_mod_cast Nat.lt_log2_self
  have le_denominator : (2 : ℚ) ^ Nat.log2 denominator ≤ denominator := by
    exact_mod_cast Nat.log2_self_le denominator_pos.ne'
  rw [div_lt_iff₀ denominator_cast]
  calc (numerator : ℚ)
      < 2 ^ (Nat.log2 numerator + 1) := numerator_lt
    _ = 2 ^ ((Nat.log2 numerator : Int) - Nat.log2 denominator + 1) *
          2 ^ Nat.log2 denominator := by
        rw [← zpow_natCast, ← zpow_natCast, ← zpow_add₀ two_ne_zero]
        congr 1
        push_cast
        ring
    _ ≤ 2 ^ ((Nat.log2 numerator : Int) - Nat.log2 denominator + 1) * denominator := by
        gcongr

theorem leadsWith_log2
    (numerator_pos : 0 < numerator)
    (denominator_pos : 0 < denominator)
    {estimate : Int}
    (isEstimate : estimate = (Nat.log2 numerator : Int) - Nat.log2 denominator) :
    LeadsWith (numerator / denominator)
      (if reachesPower numerator denominator estimate then estimate else estimate - 1) := by
  subst isEstimate
  split
  · next reaches =>
      exact ⟨(reachesPower_iff denominator_pos _).mp reaches, lt_zpow_log2 denominator_pos⟩
  · next misses =>
      refine ⟨zpow_log2_le numerator_pos denominator_pos, ?_⟩
      rw [sub_add_cancel]
      exact lt_of_not_ge fun reaches =>
        misses ((reachesPower_iff denominator_pos _).mpr reaches)

end Logarithm

/-- What a quotient with a leading power of two is rounded to. -/
theorem ofRatio_of_leadsWith
    {numerator denominator : Nat}
    {power : Int}
    (negative : Bool)
    (numerator_pos : 0 < numerator)
    (denominator_pos : 0 < denominator)
    (leads : LeadsWith (numerator / denominator) power) :
    ofRatio negative numerator denominator =
      let exponent := max (power - 52) leastExponent
      let significand := scaledQuotient numerator denominator exponent
      if significand = 2 ^ 53 then
        if exponent + 1 > greatestExponent then .infinite negative
        else .finite negative (2 ^ 52) (exponent + 1)
      else if exponent > greatestExponent then
        .infinite negative
      else
        .finite negative significand exponent := by
  have isPower := leads.unique (leadsWith_log2 numerator_pos denominator_pos rfl)
  have notZero : (numerator = 0 || denominator = 0) = false := by
    simp [numerator_pos.ne', denominator_pos.ne']
  rw [isPower, ofRatio, notZero]
  rfl

/-! ## The interval of a double -/

/-- Whether a number is a double: its significand has 53 bits, or fewer at the least exponent. -/
def IsDouble : Binary64 → Prop
  | .finite _ significand exponent =>
    significand < 2 ^ 53 ∧ leastExponent ≤ exponent ∧ exponent ≤ greatestExponent ∧
      (2 ^ 52 ≤ significand ∨ exponent = leastExponent)
  | _ => True

instance : DecidablePred IsDouble
  | .finite .. => inferInstanceAs (Decidable (_ ∧ _))
  | .nan | .infinite _ => .isTrue trivial

/-- Below a double: half the way to the one before, which is nearer below a power of two. -/
def lowerEnd
    (significand : Nat)
    (exponent : Int) : ℚ :=
  if significand = 2 ^ 52 ∧ leastExponent < exponent then (significand - 1 / 4) * 2 ^ exponent
  else (significand - 1 / 2) * 2 ^ exponent

/-- Above a double: half the way to the next one. -/
def upperEnd
    (significand : Nat)
    (exponent : Int) : ℚ :=
  (significand + 1 / 2) * 2 ^ exponent

/-- Whether a number lies between the ends of a double, which belong to it if it is even. -/
structure RoundsTo
    (significand : Nat)
    (exponent : Int)
    (quotient : ℚ) : Prop where
  lower : lowerEnd significand exponent ≤ quotient
  upper : quotient ≤ upperEnd significand exponent
  tie : quotient = lowerEnd significand exponent ∨ quotient = upperEnd significand exponent →
    significand % 2 = 0

section Interval

variable {numerator denominator significand : Nat} {exponent : Int}

private theorem lower_of_lowerEnd
    {quotient : ℚ}
    (lower : lowerEnd significand exponent ≤ quotient) :
    (significand - 1 / 2) * 2 ^ exponent ≤ quotient := by
  have power_pos : (0 : ℚ) < 2 ^ exponent := by positivity
  refine le_trans ?_ lower
  unfold lowerEnd
  split
  · gcongr
    norm_num
  · exact le_refl _

/-- Below a power of two the doubles are closer, and rounding goes up to it. -/
private theorem ofRatio_below_power
    (negative : Bool)
    (numerator_pos : 0 < numerator)
    (denominator_pos : 0 < denominator)
    (bounds : leastExponent < exponent ∧ exponent ≤ greatestExponent)
    (lower : ((2 ^ 52 : ℚ) - 1 / 4) * 2 ^ exponent ≤ numerator / denominator)
    (upper : (numerator / denominator : ℚ) < 2 ^ 52 * 2 ^ exponent) :
    ofRatio negative numerator denominator = .finite negative (2 ^ 52) exponent := by
  have power_pos : (0 : ℚ) < 2 ^ exponent := by positivity
  have halved : (2 : ℚ) ^ (exponent - 1) = 2 ^ exponent / 2 := by
    rw [zpow_sub_one₀ two_ne_zero]
    ring
  have leads : LeadsWith (numerator / denominator) (exponent + 51) := by
    constructor
    · rw [zpow_add₀ two_ne_zero]
      norm_num
      nlinarith
    · rw [add_assoc, zpow_add₀ two_ne_zero, mul_comm]
      exact_mod_cast upper
  have isExponent : max (exponent + 51 - 52) leastExponent = exponent - 1 := by
    omega
  have isSignificand : scaledQuotient numerator denominator (exponent - 1) = 2 ^ 53 := by
    refine scaledQuotient_eq denominator_pos ?_ ?_ fun _ => rfl
    · rw [halved]
      push_cast
      linarith
    · rw [halved]
      push_cast
      linarith
  rw [ofRatio_of_leadsWith negative numerator_pos denominator_pos leads]
  simp only [isExponent, isSignificand, if_true, Int.sub_add_cancel]
  rw [if_neg (Int.not_lt.mpr bounds.2)]

private theorem even_of_tie
    {quotient : ℚ}
    (rounds : RoundsTo significand exponent quotient)
    (tie : 2 * quotient = (2 * significand - 1) * 2 ^ exponent ∨
      2 * quotient = (2 * significand + 1) * 2 ^ exponent) :
    significand % 2 = 0 := by
  have power_pos : (0 : ℚ) < 2 ^ exponent := by positivity
  rcases tie with below | above
  · refine rounds.tie (.inl ?_)
    have lower := rounds.lower
    unfold lowerEnd at lower ⊢
    split
    · next isPower =>
        rw [if_pos isPower] at lower
        linarith
    · linarith
  · refine rounds.tie (.inr ?_)
    unfold upperEnd
    linarith

/-- What is rounded to a double, and is not just below a power of two, leads with a power from which
the exponent of the double is found. -/
private theorem exponent_eq_of_roundsTo
    {quotient : ℚ}
    {power : Int}
    (significand_lt : significand < 2 ^ 53)
    (least : leastExponent ≤ exponent)
    (fills : 2 ^ 52 ≤ significand ∨ exponent = leastExponent)
    (rounds : RoundsTo significand exponent quotient)
    (notClose :
      ¬ (significand = 2 ^ 52 ∧ leastExponent < exponent ∧ quotient < 2 ^ 52 * 2 ^ exponent))
    (leads : LeadsWith quotient power) :
    max (power - 52) leastExponent = exponent := by
  have power_pos : (0 : ℚ) < 2 ^ exponent := by positivity
  have lower := lower_of_lowerEnd rounds.lower
  have upper : quotient ≤ (significand + 1 / 2) * 2 ^ exponent := rounds.upper
  have le_last : (significand : ℚ) ≤ 2 ^ 53 - 1 := by
    have : (significand : ℚ) + 1 ≤ 2 ^ 53 := by exact_mod_cast significand_lt
    linarith
  by_cases isFull : (2 : ℚ) ^ 52 * 2 ^ exponent ≤ quotient
  · have leadsHere : LeadsWith quotient (exponent + 52) := by
      constructor
      · rw [zpow_add₀ two_ne_zero, mul_comm]
        exact_mod_cast isFull
      · rw [add_assoc, zpow_add₀ two_ne_zero, mul_comm]
        norm_num
        nlinarith
    cases leads.unique leadsHere
    omega
  · -- Only the doubles with the least exponent are not full.
    have atLeast : exponent = leastExponent := by
      rcases fills with isLarge | isLeast
      · by_contra notLeast
        refine notClose ⟨?_, by omega, lt_of_not_ge isFull⟩
        by_contra notPower
        have : (2 : ℚ) ^ 52 + 1 ≤ significand := by
          exact_mod_cast Nat.lt_of_le_of_ne isLarge (Ne.symm notPower)
        nlinarith
      · exact isLeast
    have notReached : power < exponent + 52 := by
      refine (zpow_lt_zpow_iff_right₀ (one_lt_two (α := ℚ))).mp ?_
      refine leads.reached.trans_lt ((lt_of_not_ge isFull).trans_eq ?_)
      rw [zpow_add₀ two_ne_zero, mul_comm]
      norm_num
    omega

/-- What lies between the ends of a positive double is rounded to it. -/
theorem ofRatio_of_roundsTo
    (negative : Bool)
    (isDouble : (finite negative significand exponent).IsDouble)
    (significand_pos : 0 < significand)
    (denominator_pos : 0 < denominator)
    (rounds : RoundsTo significand exponent (numerator / denominator)) :
    ofRatio negative numerator denominator = .finite negative significand exponent := by
  obtain ⟨significand_lt, least, greatest, fills⟩ := isDouble
  have power_pos : (0 : ℚ) < 2 ^ exponent := by positivity
  have lower := lower_of_lowerEnd rounds.lower
  have upper : (numerator / denominator : ℚ) ≤ (significand + 1 / 2) * 2 ^ exponent := rounds.upper
  have one_le : (1 : ℚ) ≤ significand := by exact_mod_cast significand_pos
  have numerator_pos : 0 < numerator := by
    refine Nat.pos_of_ne_zero fun isZero => ?_
    rw [isZero, Nat.cast_zero, zero_div] at lower
    nlinarith
  by_cases isClose : significand = 2 ^ 52 ∧ leastExponent < exponent ∧
      (numerator / denominator : ℚ) < 2 ^ 52 * 2 ^ exponent
  · obtain ⟨rfl, aboveLeast, below⟩ := isClose
    refine ofRatio_below_power negative numerator_pos denominator_pos ⟨aboveLeast, greatest⟩ ?_ below
    have ends := rounds.lower
    rw [lowerEnd, if_pos ⟨rfl, aboveLeast⟩] at ends
    exact_mod_cast ends
  · have leads := leadsWith_log2 numerator_pos denominator_pos rfl
    have isExponent := exponent_eq_of_roundsTo significand_lt least fills rounds isClose leads
    have isSignificand : scaledQuotient numerator denominator exponent = significand := by
      refine scaledQuotient_eq denominator_pos ?_ ?_ fun tie => even_of_tie rounds tie
      · linarith
      · linarith
    rw [ofRatio_of_leadsWith negative numerator_pos denominator_pos leads]
    simp only [isExponent, isSignificand]
    rw [if_neg significand_lt.ne, if_neg (Int.not_lt.mpr greatest)]

end Interval

/-! ## Decimals -/

/-- A positive number has its width of decimal digits. -/
private theorem bounds_of_width
    {digits : Nat}
    (digits_pos : 0 < digits) :
    10 ^ ((Nat.toDigits 10 digits).length - 1) ≤ digits ∧
      digits < 10 ^ (Nat.toDigits 10 digits).length := by
  have length_pos : 0 < (Nat.toDigits 10 digits).length := Nat.length_toDigits_pos
  refine ⟨?_, (Nat.length_toDigits_le_iff (by decide) length_pos).mp le_rfl⟩
  rcases Nat.eq_zero_or_pos ((Nat.toDigits 10 digits).length - 1) with isZero | isPositive
  · rw [isZero]
    exact digits_pos
  · refine Nat.le_of_not_lt fun below => ?_
    have := (Nat.length_toDigits_le_iff (by decide) isPositive).mpr below
    omega

section Decimal

variable {significand : Nat} {exponent : Int} {negative : Bool} {quotient : ℚ}

private theorem two_pow_lt_ten_pow : 2 ^ 1075 < 10 ^ 400 := by
  decide +kernel

/-- What is rounded to a positive double is not near zero. -/
theorem lt_of_roundsTo
    (isDouble : (finite negative significand exponent).IsDouble)
    (significand_pos : 0 < significand)
    (rounds : RoundsTo significand exponent quotient) :
    (10 : ℚ) ^ (-400 : Int) < quotient := by
  have one_le : (1 : ℚ) ≤ significand := by exact_mod_cast significand_pos
  calc (10 : ℚ) ^ (-400 : Int)
      = (10 ^ 400)⁻¹ := by rw [zpow_neg, ← zpow_natCast]; rfl
    _ < (2 ^ 1075)⁻¹ := inv_strictAnti₀ (by positivity) (by exact_mod_cast two_pow_lt_ten_pow)
    _ = 1 / 2 * 2 ^ (-1074 : Int) := by
        rw [show (2 : ℚ) ^ 1075 = 2 * 2 ^ 1074 from pow_succ' 2 1074, mul_inv, one_div, zpow_neg]
        rfl
    _ ≤ (significand - 1 / 2) * 2 ^ exponent := by
        have least : (2 : ℚ) ^ (-1074 : Int) ≤ 2 ^ exponent :=
          zpow_le_zpow_right₀ (by norm_num) isDouble.2.1
        exact mul_le_mul (by linarith) least (by positivity) (by linarith)
    _ ≤ quotient := lower_of_lowerEnd rounds.lower

/-- What is rounded to a double is not beyond all doubles. -/
theorem roundsTo_lt
    (isDouble : (finite negative significand exponent).IsDouble)
    (rounds : RoundsTo significand exponent quotient) :
    quotient < (10 : ℚ) ^ (400 : Int) := by
  have lt_limit : (significand : ℚ) < 2 ^ 53 := by exact_mod_cast isDouble.1
  calc quotient
      ≤ (significand + 1 / 2) * 2 ^ exponent := rounds.upper
    _ ≤ 2 ^ 54 * 2 ^ (971 : Int) := by
        have greatest : (2 : ℚ) ^ exponent ≤ 2 ^ (971 : Int) :=
          zpow_le_zpow_right₀ (by norm_num) isDouble.2.2.1
        gcongr
        linarith
    _ = 2 ^ 1025 := by
        rw [← zpow_natCast, ← zpow_natCast, ← zpow_add₀ two_ne_zero]
        rfl
    _ < 2 ^ 1075 := pow_lt_pow_right₀ (by norm_num) (by norm_num)
    _ < 10 ^ 400 := by exact_mod_cast two_pow_lt_ten_pow
    _ = 10 ^ (400 : Int) := by rw [← zpow_natCast]; rfl

/-- A decimal between the ends of a positive double is rounded to it. -/
theorem ofDecimal_of_roundsTo
    {digits : Nat}
    {power : Int}
    (isDouble : (finite negative significand exponent).IsDouble)
    (significand_pos : 0 < significand)
    (rounds : RoundsTo significand exponent (digits * 10 ^ power)) :
    ofDecimal negative digits power = .finite negative significand exponent := by
  have above := lt_of_roundsTo isDouble significand_pos rounds
  have below := roundsTo_lt isDouble rounds
  have ten_pos : (0 : ℚ) < 10 ^ power := by positivity
  have digits_pos : 0 < digits := by
    refine Nat.pos_of_ne_zero fun isZero => ?_
    rw [isZero, Nat.cast_zero, zero_mul] at above
    exact absurd above (not_lt_of_ge (by positivity))
  obtain ⟨fills, fits⟩ := bounds_of_width digits_pos
  have length_pos : 0 < (Nat.toDigits 10 digits).length := Nat.length_toDigits_pos
  generalize isWidth : (Nat.toDigits 10 digits).length = width at fills fits length_pos
  have notAbove : ¬ power + (width : Int) > 400 := by
    intro isAbove
    refine absurd below (not_lt_of_ge ?_)
    calc (10 : ℚ) ^ (400 : Int)
        ≤ 10 ^ ((width - 1 : Nat) + power) := zpow_le_zpow_right₀ (by norm_num) (by omega)
      _ = 10 ^ (width - 1) * 10 ^ power := by
          rw [zpow_add₀ (by norm_num), zpow_natCast]
      _ ≤ digits * 10 ^ power := by
          gcongr
          exact_mod_cast fills
  have notBelow : ¬ power + (width : Int) < -400 := by
    intro isBelow
    refine absurd above (not_lt_of_ge ?_)
    calc (digits * 10 ^ power : ℚ)
        ≤ 10 ^ width * 10 ^ power := by
          gcongr
          exact_mod_cast fits.le
      _ = 10 ^ ((width : Int) + power) := by
          rw [zpow_add₀ (by norm_num), zpow_natCast]
      _ ≤ 10 ^ (-400 : Int) := zpow_le_zpow_right₀ (by norm_num) (by omega)
  simp only [ofDecimal, isWidth, Nat.pow_eq]
  rw [if_neg digits_pos.ne', if_neg notAbove, if_neg notBelow]
  split
  · next isWhole =>
      obtain ⟨natural, rfl⟩ := Int.eq_ofNat_of_zero_le isWhole
      refine ofRatio_of_roundsTo negative isDouble significand_pos one_pos ?_
      rw [zpow_natCast] at rounds
      rw [Int.toNat_natCast, Nat.cast_one, div_one]
      exact_mod_cast rounds
  · next isFraction =>
      obtain ⟨natural, isNatural⟩ := Int.eq_ofNat_of_zero_le (Int.le_of_lt (Int.neg_pos_of_neg
        (Int.not_le.mp isFraction)))
      rw [isNatural, Int.toNat_natCast]
      refine ofRatio_of_roundsTo negative isDouble significand_pos (by positivity) ?_
      rw [← neg_neg power, isNatural, zpow_neg, zpow_natCast, ← div_eq_mul_inv] at rounds
      exact_mod_cast rounds

end Decimal

end TypeCatalog.Binary64
