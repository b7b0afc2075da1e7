import TypeCatalog.Number.Shortest
import TypeCatalog.Proofs.Number.Rounding

namespace TypeCatalog.Binary64

/-!
# The shortest digits of a double

The digits that a double is written with lie between its ends, so they are rounded to the double
again.
-/

/-- The number that digits with an exponent stand for. -/
def DecimalDigits.value (decimal : DecimalDigits) : ℚ :=
  decimal.digits * 10 ^ decimal.exponent

/-! ## Points of a decimal grid -/

/-- The factor by which numerators are raised on the grid of an exponent. -/
def gridRaise (exponent : Int) : Nat :=
  if exponent < 0 then 10 ^ (-exponent).toNat else 1

/-- The factor by which denominators are raised on the grid of an exponent. -/
def gridLowering (exponent : Int) : Nat :=
  if exponent ≥ 0 then 10 ^ exponent.toNat else 1

theorem gridRaise_pos (exponent : Int) : 0 < gridRaise exponent := by
  unfold gridRaise
  split <;> positivity

theorem gridLowering_eq (exponent : Int) :
    (gridLowering exponent : ℚ) = gridRaise exponent * 10 ^ exponent := by
  unfold gridLowering gridRaise
  by_cases isWhole : exponent ≥ 0
  · obtain ⟨natural, rfl⟩ := Int.eq_ofNat_of_zero_le isWhole
    rw [if_pos isWhole, if_neg (Int.not_lt.mpr isWhole)]
    push_cast
    simp
  · obtain ⟨natural, isNatural⟩ := Int.eq_ofNat_of_zero_le (Int.le_of_lt (Int.neg_pos_of_neg
      (Int.not_le.mp isWhole)))
    rw [if_neg isWhole, if_pos (Int.not_le.mp isWhole), isNatural, Int.toNat_natCast,
      ← neg_neg exponent, isNatural, zpow_neg, zpow_natCast]
    push_cast
    field_simp

namespace RoundingInterval

variable {interval : RoundingInterval} {exponent : Int}

/-- Whether a number lies between the ends of an interval, which may belong to it. -/
structure Holds
    (interval : RoundingInterval)
    (quotient : ℚ) : Prop where
  lower : (interval.lower / interval.denominator : ℚ) ≤ quotient
  upper : quotient ≤ interval.upper / interval.denominator
  tie : quotient = interval.lower / interval.denominator ∨
    quotient = interval.upper / interval.denominator → interval.closed = true

/-- An interval around its centre. -/
structure IsCentred (interval : RoundingInterval) : Prop where
  denominator_pos : 0 < interval.denominator
  lower_lt : interval.lower < interval.centre
  lt_upper : interval.centre < interval.upper

section Grid

variable (isCentred : interval.IsCentred)

include isCentred

private theorem div_le_grid_iff (numerator count : Nat) :
    (numerator / interval.denominator : ℚ) ≤ count * 10 ^ exponent ↔
      numerator * gridRaise exponent ≤ count * (interval.denominator * gridLowering exponent) := by
  have denominator_cast : (0 : ℚ) < interval.denominator := by
    exact_mod_cast isCentred.denominator_pos
  have raise_cast : (0 : ℚ) < gridRaise exponent := by exact_mod_cast gridRaise_pos exponent
  rw [div_le_iff₀ denominator_cast, ← mul_le_mul_iff_left₀ raise_cast, ← Nat.cast_le (α := ℚ)]
  push_cast
  rw [gridLowering_eq]
  ring_nf

private theorem grid_le_div_iff (numerator count : Nat) :
    count * 10 ^ exponent ≤ (numerator / interval.denominator : ℚ) ↔
      count * (interval.denominator * gridLowering exponent) ≤ numerator * gridRaise exponent := by
  have denominator_cast : (0 : ℚ) < interval.denominator := by
    exact_mod_cast isCentred.denominator_pos
  have raise_cast : (0 : ℚ) < gridRaise exponent := by exact_mod_cast gridRaise_pos exponent
  rw [le_div_iff₀ denominator_cast, ← mul_le_mul_iff_left₀ raise_cast, ← Nat.cast_le (α := ℚ)]
  push_cast
  rw [gridLowering_eq]
  ring_nf

/-- The point of the grid just below the centre. -/
private theorem floor_le_centre :
    ((interval.centre * gridRaise exponent / (interval.denominator * gridLowering exponent) : Nat) :
        ℚ) * 10 ^ exponent ≤ interval.centre / interval.denominator :=
  (grid_le_div_iff isCentred _ _).mpr (Nat.div_mul_le_self _ _)

/-- The point of the grid just above the centre. -/
private theorem centre_lt_next :
    (interval.centre / interval.denominator : ℚ) <
      ((interval.centre * gridRaise exponent / (interval.denominator * gridLowering exponent) + 1 :
        Nat) : ℚ) * 10 ^ exponent := by
  refine lt_of_not_ge fun reaches => ?_
  have lowering_pos : 0 < gridLowering exponent := by
    unfold gridLowering
    split <;> positivity
  have grid_pos := Nat.mul_pos isCentred.denominator_pos lowering_pos
  have := (grid_le_div_iff isCentred _ _).mp reaches
  exact absurd ((Nat.le_div_iff_mul_le grid_pos).mpr this) (Nat.not_succ_le_self _)

private theorem lower_lt_centre :
    (interval.lower / interval.denominator : ℚ) < interval.centre / interval.denominator := by
  have denominator_cast : (0 : ℚ) < interval.denominator := by
    exact_mod_cast isCentred.denominator_pos
  exact div_lt_div_of_pos_right (by exact_mod_cast isCentred.lower_lt) denominator_cast

private theorem centre_lt_upper :
    (interval.centre / interval.denominator : ℚ) < interval.upper / interval.denominator := by
  have denominator_cast : (0 : ℚ) < interval.denominator := by
    exact_mod_cast isCentred.denominator_pos
  exact div_lt_div_of_pos_right (by exact_mod_cast isCentred.lt_upper) denominator_cast

end Grid

/-- Whether a point of the grid is not below the lower end, or above it if the ends do not belong to
the interval. -/
abbrev LowerFits
    (interval : RoundingInterval)
    (exponent : Int)
    (count : Nat) : Prop :=
  if interval.closed then
    interval.lower * gridRaise exponent ≤ count * (interval.denominator * gridLowering exponent)
  else
    interval.lower * gridRaise exponent < count * (interval.denominator * gridLowering exponent)

/-- Whether a point of the grid is not above the upper end, or below it if the ends do not belong to
the interval. -/
abbrev UpperFits
    (interval : RoundingInterval)
    (exponent : Int)
    (count : Nat) : Prop :=
  if interval.closed then
    count * (interval.denominator * gridLowering exponent) ≤ interval.upper * gridRaise exponent
  else
    count * (interval.denominator * gridLowering exponent) < interval.upper * gridRaise exponent

theorem lowerFits_iff
    (isCentred : interval.IsCentred)
    (count : Nat) :
    interval.LowerFits exponent count ↔
      (interval.lower / interval.denominator : ℚ) ≤ count * 10 ^ exponent ∧
        ((interval.lower / interval.denominator : ℚ) = count * 10 ^ exponent →
          interval.closed = true) := by
  unfold LowerFits
  split
  · next closed =>
      rw [div_le_grid_iff isCentred]
      simp [closed]
  · next isOpen =>
      rw [← Nat.not_le, ← grid_le_div_iff isCentred, not_le, lt_iff_le_and_ne]
      simp [isOpen]

theorem upperFits_iff
    (isCentred : interval.IsCentred)
    (count : Nat) :
    interval.UpperFits exponent count ↔
      count * 10 ^ exponent ≤ (interval.upper / interval.denominator : ℚ) ∧
        (count * 10 ^ exponent = (interval.upper / interval.denominator : ℚ) →
          interval.closed = true) := by
  unfold UpperFits
  split
  · next closed =>
      rw [grid_le_div_iff isCentred]
      simp [closed]
  · next isOpen =>
      rw [← Nat.not_le, ← div_le_grid_iff isCentred, not_le, lt_iff_le_and_ne]
      simp [isOpen]

theorem gridPoint?_eq
    (interval : RoundingInterval)
    (exponent : Int) :
    interval.gridPoint? exponent =
      let grid := interval.denominator * gridLowering exponent
      let floor := interval.centre * gridRaise exponent / grid
      let remainder := interval.centre * gridRaise exponent % grid
      if floor > 0 && (interval.LowerFits exponent floor || remainder = 0) then
        if interval.UpperFits exponent (floor + 1) && (2 * remainder > grid ||
            (2 * remainder = grid && floor % 2 = 1)) then
          some ⟨floor + 1, exponent⟩
        else
          some ⟨floor, exponent⟩
      else if interval.UpperFits exponent (floor + 1) then
        some ⟨floor + 1, exponent⟩
      else
        none :=
  rfl

/-- A point of the grid that is found lies between the ends. -/
theorem holds_of_gridPoint?
    {point : DecimalDigits}
    (isCentred : interval.IsCentred)
    (isPoint : interval.gridPoint? exponent = some point) :
    0 < point.digits ∧ interval.Holds point.value := by
  have floorBelow := @floor_le_centre _ exponent isCentred
  have nextAbove := @centre_lt_next _ exponent isCentred
  have lower_lt := lower_lt_centre isCentred
  have lt_upper := centre_lt_upper isCentred
  rw [gridPoint?_eq] at isPoint
  dsimp only at isPoint
  have isCentre :
      interval.centre * gridRaise exponent % (interval.denominator * gridLowering exponent) = 0 →
        (interval.centre / interval.denominator : ℚ) ≤
          ((interval.centre * gridRaise exponent /
            (interval.denominator * gridLowering exponent) : Nat) : ℚ) * 10 ^ exponent := by
    intro noRemainder
    rw [div_le_grid_iff isCentred, Nat.div_mul_cancel (Nat.dvd_of_mod_eq_zero noRemainder)]
  generalize interval.centre * gridRaise exponent /
    (interval.denominator * gridLowering exponent) = floor at isPoint floorBelow nextAbove isCentre
  have holdsNext : interval.UpperFits exponent (floor + 1) →
      interval.Holds (DecimalDigits.value ⟨floor + 1, exponent⟩) := by
    intro fits
    obtain ⟨upper, tie⟩ := (upperFits_iff isCentred _).mp fits
    refine ⟨(lower_lt.trans nextAbove).le, upper, ?_⟩
    rintro (isLower | isUpper)
    · exact absurd isLower (lower_lt.trans nextAbove).ne'
    · exact tie isUpper
  split at isPoint
  · next floorFits =>
      simp only [gt_iff_lt, Bool.and_eq_true, decide_eq_true_eq, Bool.or_eq_true] at floorFits
      obtain ⟨floor_pos, fits⟩ := floorFits
      split at isPoint
      · next nextFits =>
          simp only [Bool.and_eq_true, decide_eq_true_eq] at nextFits
          cases isPoint
          exact ⟨Nat.succ_pos floor, holdsNext nextFits.1⟩
      · cases isPoint
        refine ⟨floor_pos, ?_, (floorBelow.trans_lt lt_upper).le, ?_⟩
        · rcases fits with fits | noRemainder
          · exact ((lowerFits_iff isCentred _).mp fits).1
          · exact lower_lt.le.trans (isCentre noRemainder)
        · rintro (isLower | isUpper)
          · rcases fits with fits | noRemainder
            · exact ((lowerFits_iff isCentred _).mp fits).2 isLower.symm
            · exact absurd isLower (lower_lt.trans_le (isCentre noRemainder)).ne'
          · exact absurd isUpper (floorBelow.trans_lt lt_upper).ne
  · split at isPoint
    · next nextFits =>
        cases isPoint
        exact ⟨Nat.succ_pos floor, holdsNext nextFits⟩
    · cases isPoint

/-- A grid that is finer than the interval is wide and not coarser than its centre has a point in
the interval. -/
theorem exists_gridPoint?
    (isCentred : interval.IsCentred)
    (belowCentre : (10 : ℚ) ^ exponent ≤ interval.centre / interval.denominator)
    (isFine : (10 : ℚ) ^ exponent <
      interval.upper / interval.denominator - interval.lower / interval.denominator) :
    ∃ point, interval.gridPoint? exponent = some point := by
  have floorBelow := @floor_le_centre _ exponent isCentred
  have nextAbove := @centre_lt_next _ exponent isCentred
  have grid_pos : (0 : ℚ) < 10 ^ exponent := by positivity
  rw [gridPoint?_eq]
  dsimp only
  generalize interval.centre * gridRaise exponent /
    (interval.denominator * gridLowering exponent) = floor at floorBelow nextAbove
  have floor_pos : 0 < floor := by
    refine Nat.pos_of_ne_zero fun isZero => ?_
    rw [isZero, Nat.zero_add, Nat.cast_one, one_mul] at nextAbove
    exact absurd belowCentre nextAbove.not_ge
  split
  · split <;> exact ⟨_, rfl⟩
  · next floorMisses =>
      have misses : ¬ interval.LowerFits exponent floor := by
        intro fits
        refine floorMisses ?_
        simp only [gt_iff_lt, Bool.and_eq_true, decide_eq_true_eq, Bool.or_eq_true]
        exact ⟨floor_pos, .inl fits⟩
      have notAbove : (floor : ℚ) * 10 ^ exponent ≤ interval.lower / interval.denominator := by
        refine le_of_not_gt fun above => misses ?_
        exact (lowerFits_iff isCentred _).mpr ⟨above.le, fun isLower => absurd isLower above.ne⟩
      have nextBelow : ((floor + 1 : Nat) : ℚ) * 10 ^ exponent <
          interval.upper / interval.denominator := by
        push_cast
        linarith
      have fits : interval.UpperFits exponent (floor + 1) :=
        (upperFits_iff isCentred _).mpr ⟨nextBelow.le, fun isUpper => absurd isUpper nextBelow.ne⟩
      rw [if_pos fits]
      exact ⟨_, rfl⟩

end RoundingInterval

/-! ## The interval of a double -/

section Interval

variable {significand : Nat} {exponent : Int}

/-- The numerators of an interval are so many quarters of the last place. -/
private theorem quarters_div_denominator
    (quarters significand : Nat)
    (exponent : Int) :
    ((quarters * (if exponent ≥ 2 then Nat.pow 2 (exponent - 2).toNat else 1) : Nat) /
        (roundingInterval significand exponent).denominator : ℚ) =
      quarters / 4 * 2 ^ exponent := by
  have quarter : (2 : ℚ) ^ (exponent - 2) = 2 ^ exponent / 4 := by
    rw [zpow_sub₀ two_ne_zero]
    norm_num
  have scaled : (quarters / 4 * 2 ^ exponent : ℚ) = quarters * 2 ^ (exponent - 2) := by
    rw [quarter]
    ring
  rw [scaled]
  simp only [roundingInterval, Nat.pow_eq]
  split
  · next isLarge =>
      obtain ⟨natural, isNatural⟩ := Int.eq_ofNat_of_zero_le (Int.sub_nonneg_of_le isLarge)
      rw [isNatural]
      simp
  · next isSmall =>
      obtain ⟨natural, isNatural⟩ : ∃ natural : Nat, 2 - exponent = natural :=
        Int.eq_ofNat_of_zero_le (by omega)
      have isNegative : exponent - 2 = -(natural : Int) := by omega
      rw [isNatural, isNegative]
      simp [div_eq_mul_inv]

theorem centre_roundingInterval :
    ((roundingInterval significand exponent).centre /
        (roundingInterval significand exponent).denominator : ℚ) =
      significand * 2 ^ exponent := by
  have quarters := quarters_div_denominator (4 * significand) significand exponent
  refine quarters.trans ?_
  push_cast
  ring

theorem upper_roundingInterval :
    ((roundingInterval significand exponent).upper /
        (roundingInterval significand exponent).denominator : ℚ) =
      upperEnd significand exponent := by
  have quarters := quarters_div_denominator (4 * significand + 2) significand exponent
  refine quarters.trans ?_
  unfold upperEnd
  push_cast
  ring

theorem lower_roundingInterval (significand_pos : 0 < significand) :
    ((roundingInterval significand exponent).lower /
        (roundingInterval significand exponent).denominator : ℚ) =
      lowerEnd significand exponent := by
  have quarters := quarters_div_denominator
    (4 * significand -
      (if significand = Nat.pow 2 52 && exponent > leastExponent then 1 else 2))
    significand exponent
  refine quarters.trans ?_
  unfold lowerEnd
  by_cases isPower : significand = 2 ^ 52 ∧ leastExponent < exponent
  · rw [if_pos isPower, if_pos (by simpa using isPower), Nat.cast_sub (by omega)]
    push_cast
    ring
  · rw [if_neg isPower, if_neg (by simpa using isPower), Nat.cast_sub (by omega)]
    push_cast
    ring

theorem isCentred_roundingInterval (significand_pos : 0 < significand) :
    (roundingInterval significand exponent).IsCentred := by
  have scale_pos : 0 < if exponent ≥ 2 then Nat.pow 2 (exponent - 2).toNat else 1 := by
    split
    · exact Nat.pow_pos two_pos
    · exact one_pos
  refine ⟨?_, Nat.mul_lt_mul_of_pos_right ?_ scale_pos, Nat.mul_lt_mul_of_pos_right ?_ scale_pos⟩
  · simp only [roundingInterval]
    split
    · exact one_pos
    · exact Nat.pow_pos two_pos
  · split <;> omega
  · omega

/-- What the interval of a double holds is rounded to it. -/
theorem roundsTo_of_holds
    {quotient : ℚ}
    (significand_pos : 0 < significand)
    (holds : (roundingInterval significand exponent).Holds quotient) :
    RoundsTo significand exponent quotient := by
  obtain ⟨lower, upper, tie⟩ := holds
  rw [lower_roundingInterval significand_pos] at lower tie
  rw [upper_roundingInterval] at upper tie
  exact ⟨lower, upper, fun isEnd => by simpa [roundingInterval] using tie isEnd⟩

end Interval

/-! ## The number of digits before the point -/

theorem reachesDecimalPower_iff
    {numerator denominator : Nat}
    (denominator_pos : 0 < denominator)
    (power : Int) :
    reachesDecimalPower numerator denominator power = true ↔
      (10 : ℚ) ^ power ≤ numerator / denominator := by
  rw [← Nat.cast_ofNat, ← reaches_iff (by decide : 0 < 10) denominator_pos, reachesDecimalPower]
  split <;> exact decide_eq_true_iff

private theorem ten_pow_le_of_lt : ∀ natural < 1200,
    10 ^ (natural * 30103 / 100000) ≤ 10 * 2 ^ natural := by
  decide +kernel

private theorem two_pow_le_of_lt : ∀ natural < 1200,
    2 ^ natural ≤ 10 ^ ((natural * 30103 + 99999) / 100000 + 1) := by
  decide +kernel

/-- The estimate for a decimal power is at most one too high for the powers of two that doubles
have. -/
private theorem ten_zpow_estimate_le
    {power : Int}
    (lower : -1200 < power)
    (upper : power < 1200) :
    (10 : ℚ) ^ (power * 30103 / 100000 - 1) ≤ 2 ^ power := by
  rcases Int.le_total 0 power with isWhole | isFraction
  · obtain ⟨natural, rfl⟩ := Int.eq_ofNat_of_zero_le isWhole
    have table : (10 : ℚ) ^ (natural * 30103 / 100000) ≤ 10 * 2 ^ natural := by
      exact_mod_cast ten_pow_le_of_lt natural (by omega)
    have isEstimate : (natural : Int) * 30103 / 100000 = (natural * 30103 / 100000 : Nat) := by
      omega
    rw [isEstimate, zpow_sub_one₀ (by norm_num), zpow_natCast, zpow_natCast,
      ← div_eq_mul_inv, div_le_iff₀ (by norm_num), mul_comm (2 ^ natural)]
    exact table
  · obtain ⟨natural, isNatural⟩ := Int.eq_ofNat_of_zero_le (Int.neg_nonneg_of_nonpos isFraction)
    have table : (2 : ℚ) ^ natural ≤ 10 ^ ((natural * 30103 + 99999) / 100000 + 1) := by
      exact_mod_cast two_pow_le_of_lt natural (by omega)
    have isEstimate : power * 30103 / 100000 - 1 =
        -((natural * 30103 + 99999) / 100000 + 1 : Nat) := by
      omega
    have isPower : power = -(natural : Int) := by
      omega
    rw [isEstimate, isPower, zpow_neg, zpow_neg, zpow_natCast, zpow_natCast]
    exact inv_anti₀ (by positivity) table

/-- A quotient has at least as many digits before the point as it is said to have. -/
theorem ten_zpow_decimalWidth_le
    {numerator denominator : Nat}
    (numerator_pos : 0 < numerator)
    (denominator_pos : 0 < denominator)
    (lower : (2 : ℚ) ^ (-1100 : Int) ≤ numerator / denominator)
    (upper : (numerator / denominator : ℚ) < 2 ^ (1100 : Int)) :
    (10 : ℚ) ^ (decimalWidth numerator denominator - 1) ≤ numerator / denominator := by
  have log2_le := zpow_log2_le numerator_pos denominator_pos
  have lt_log2 := @lt_zpow_log2 numerator _ denominator_pos
  have bounds := (zpow_lt_zpow_iff_right₀ (by norm_num : (1 : ℚ) < 2)).mp (log2_le.trans_lt upper)
  have otherBounds := (zpow_lt_zpow_iff_right₀ (by norm_num : (1 : ℚ) < 2)).mp (lower.trans_lt lt_log2)
  have estimated := (ten_zpow_estimate_le (by omega) (by omega)).trans log2_le
  unfold decimalWidth
  dsimp only
  split
  · next power found =>
      rw [add_sub_cancel_right]
      exact (reachesDecimalPower_iff denominator_pos power).mp (List.find?_some found)
  · next noneFound =>
      rw [List.find?_eq_none] at noneFound
      exact absurd ((reachesDecimalPower_iff denominator_pos _).mpr estimated)
        (noneFound _ (by simp))

/-! ## The shortest digits -/

section Shortest

variable {significand : Nat} {exponent : Int}

/-- A positive double lies between powers of two. -/
private theorem bounds_of_isDouble
    {negative : Bool}
    (isDouble : (finite negative significand exponent).IsDouble)
    (significand_pos : 0 < significand) :
    (2 : ℚ) ^ (-1074 : Int) ≤ significand * 2 ^ exponent ∧
      (significand * 2 ^ exponent : ℚ) < 2 ^ (1024 : Int) := by
  obtain ⟨significand_lt, least, greatest, -⟩ := isDouble
  have power_pos : (0 : ℚ) < 2 ^ exponent := by positivity
  have one_le : (1 : ℚ) ≤ significand := by exact_mod_cast significand_pos
  have lt_limit : (significand : ℚ) < 2 ^ 53 := by exact_mod_cast significand_lt
  constructor
  · calc (2 : ℚ) ^ (-1074 : Int)
        ≤ 2 ^ exponent := zpow_le_zpow_right₀ (by norm_num) least
      _ ≤ significand * 2 ^ exponent := le_mul_of_one_le_left power_pos.le one_le
  · calc (significand * 2 ^ exponent : ℚ)
        < 2 ^ 53 * 2 ^ exponent := by gcongr
      _ ≤ 2 ^ 53 * 2 ^ (971 : Int) := by
          have : (2 : ℚ) ^ exponent ≤ 2 ^ (971 : Int) :=
            zpow_le_zpow_right₀ (by norm_num) greatest
          gcongr
      _ = 2 ^ (1024 : Int) := by
          rw [← zpow_natCast, ← zpow_add₀ two_ne_zero]
          rfl

/-- The interval of a double is at least three quarters of its last place wide. -/
private theorem width_of_interval
    (significand : Nat)
    (exponent : Int) :
    (3 / 4 * 2 ^ exponent : ℚ) ≤ upperEnd significand exponent - lowerEnd significand exponent := by
  have power_pos : (0 : ℚ) < 2 ^ exponent := by positivity
  unfold upperEnd lowerEnd
  split <;> linarith

/-- The digits that a positive double is written with are positive and rounded to it. -/
theorem shortestDigits_roundsTo
    {negative : Bool}
    (isDouble : (finite negative significand exponent).IsDouble)
    (significand_pos : 0 < significand) :
    0 < (shortestDigits significand exponent).digits ∧
      RoundsTo significand exponent (shortestDigits significand exponent).value := by
  have isCentred := @isCentred_roundingInterval _ exponent significand_pos
  have isCentre := @centre_roundingInterval significand exponent
  obtain ⟨lower, upper⟩ := bounds_of_isDouble isDouble significand_pos
  have power_pos : (0 : ℚ) < 2 ^ exponent := by positivity
  have lt_limit : (significand : ℚ) < 2 ^ 53 := by exact_mod_cast isDouble.1
  have centre_pos : 0 < (roundingInterval significand exponent).centre :=
    Nat.zero_lt_of_lt isCentred.lower_lt
  have width_le := ten_zpow_decimalWidth_le centre_pos isCentred.denominator_pos
    (by
      rw [isCentre]
      exact le_trans (zpow_le_zpow_right₀ (by norm_num) (by norm_num)) lower)
    (by
      rw [isCentre]
      exact lt_of_lt_of_le upper (zpow_le_zpow_right₀ (by norm_num) (by norm_num)))
  unfold shortestDigits
  dsimp only
  split
  · next point found =>
      obtain ⟨count, _, isPoint⟩ := List.exists_of_findSome?_eq_some found
      obtain ⟨digits_pos, holds⟩ := RoundingInterval.holds_of_gridPoint? isCentred isPoint
      exact ⟨digits_pos, roundsTo_of_holds significand_pos holds⟩
  · next noneFound =>
      have finest : (10 : ℚ) ^ (decimalWidth (roundingInterval significand exponent).centre
          (roundingInterval significand exponent).denominator - 1 - (17 : Nat)) * 10 ^ 17 ≤
            significand * 2 ^ exponent := by
        rw [← isCentre, zpow_sub₀ (by norm_num), zpow_natCast, div_mul_cancel₀ _ (by norm_num)]
        exact width_le
      obtain ⟨point, isPoint⟩ := RoundingInterval.exists_gridPoint? isCentred
        (by
          rw [isCentre]
          refine le_trans (le_mul_of_one_le_right (by positivity) (by norm_num)) finest)
        (by
          rw [upper_roundingInterval, lower_roundingInterval significand_pos]
          refine lt_of_lt_of_le ?_ (width_of_interval significand exponent)
          have below : (significand * 2 ^ exponent : ℚ) < 2 ^ 53 * 2 ^ exponent := by gcongr
          have grid_lt := finest.trans_lt below
          generalize (10 : ℚ) ^ (_ - 1 - ((17 : Nat) : Int)) = grid at grid_lt ⊢
          linarith)
      rw [List.findSome?_eq_none_iff] at noneFound
      rw [noneFound 17 (by simp)] at isPoint
      cases isPoint

end Shortest

end TypeCatalog.Binary64
