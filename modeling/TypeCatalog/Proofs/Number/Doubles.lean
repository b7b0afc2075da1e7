import TypeCatalog.Number.FromText
import TypeCatalog.Proofs.Number.Rounding

namespace TypeCatalog

/-!
# Operations give doubles

Every number that is rounded, and so every number that a text writes and every sum and product, is a
double.
-/

namespace Binary64

/-! ## Rounding -/

private theorem divideToEven_eq_or (numerator denominator : Nat) :
    divideToEven numerator denominator = numerator / denominator ∨
      divideToEven numerator denominator = numerator / denominator + 1 := by
  simp only [divideToEven]
  split
  · exact .inl rfl
  · split
    · exact .inr rfl
    · split
      · exact .inl rfl
      · exact .inr rfl

section Scaled

variable
  {numerator denominator whole : Nat}
  {exponent : Int}
  (denominator_pos : 0 < denominator)

include denominator_pos

private theorem le_scaledQuotient
    (reached : (whole : ℚ) * 2 ^ exponent ≤ numerator / denominator) :
    whole ≤ scaledQuotient numerator denominator exponent := by
  obtain ⟨scaledNumerator, scaledDenominator, scaled_pos, isScaled, rounds⟩ :=
    @exists_scaled numerator _ denominator_pos exponent
  have power_pos : (0 : ℚ) < 2 ^ exponent := by positivity
  have scaled_cast : (0 : ℚ) < scaledDenominator := by exact_mod_cast scaled_pos
  rw [← isScaled] at reached
  have inQuotient := le_of_mul_le_mul_right reached power_pos
  rw [le_div_iff₀ scaled_cast] at inQuotient
  have wholeParts : whole ≤ scaledNumerator / scaledDenominator :=
    (Nat.le_div_iff_mul_le scaled_pos).mpr (by exact_mod_cast inQuotient)
  rw [rounds]
  rcases divideToEven_eq_or scaledNumerator scaledDenominator with isQuotient | isNext <;> omega

private theorem scaledQuotient_le
    (below : (numerator / denominator : ℚ) < whole * 2 ^ exponent) :
    scaledQuotient numerator denominator exponent ≤ whole := by
  obtain ⟨scaledNumerator, scaledDenominator, scaled_pos, isScaled, rounds⟩ :=
    @exists_scaled numerator _ denominator_pos exponent
  have power_pos : (0 : ℚ) < 2 ^ exponent := by positivity
  have scaled_cast : (0 : ℚ) < scaledDenominator := by exact_mod_cast scaled_pos
  rw [← isScaled] at below
  have inQuotient := lt_of_mul_lt_mul_right below power_pos.le
  rw [div_lt_iff₀ scaled_cast] at inQuotient
  have wholeParts : scaledNumerator / scaledDenominator < whole :=
    (Nat.div_lt_iff_lt_mul scaled_pos).mpr (by exact_mod_cast inQuotient)
  rw [rounds]
  rcases divideToEven_eq_or scaledNumerator scaledDenominator with isQuotient | isNext <;> omega

end Scaled

theorem isDouble_zero (negative : Bool) : (zero negative).IsDouble := by
  cases negative <;> decide

/-- The number nearest to a quotient is a double. -/
theorem isDouble_ofRatio
    (negative : Bool)
    (numerator denominator : Nat) :
    (ofRatio negative numerator denominator).IsDouble := by
  by_cases isZero : numerator = 0 ∨ denominator = 0
  · have : (numerator = 0 || denominator = 0) = true := by simpa using isZero
    rw [ofRatio, if_pos this]
    exact isDouble_zero negative
  · obtain ⟨numerator_ne, denominator_ne⟩ := not_or.mp isZero
    have numerator_pos := Nat.pos_of_ne_zero numerator_ne
    have denominator_pos := Nat.pos_of_ne_zero denominator_ne
    obtain ⟨power, leads⟩ : ∃ power, LeadsWith (numerator / denominator) power :=
      ⟨_, leadsWith_log2 numerator_pos denominator_pos rfl⟩
    rw [ofRatio_of_leadsWith negative numerator_pos denominator_pos leads]
    dsimp only
    have atMost : scaledQuotient numerator denominator (max (power - 52) leastExponent) ≤ 2 ^ 53 := by
      refine scaledQuotient_le denominator_pos (leads.below.trans_le ?_)
      rw [Nat.cast_pow, Nat.cast_ofNat, ← zpow_natCast, ← zpow_add₀ two_ne_zero]
      exact zpow_le_zpow_right₀ one_le_two (by push_cast; omega)
    have atLeast : power - 52 ≤ leastExponent ∨
        2 ^ 52 ≤ scaledQuotient numerator denominator (max (power - 52) leastExponent) := by
      refine (le_or_gt (power - 52) leastExponent).imp_right fun isAbove => ?_
      refine le_scaledQuotient denominator_pos (le_trans ?_ leads.reached)
      rw [Nat.cast_pow, Nat.cast_ofNat, ← zpow_natCast, ← zpow_add₀ two_ne_zero]
      exact zpow_le_zpow_right₀ one_le_two (by push_cast; omega)
    generalize scaledQuotient numerator denominator _ = significand at atMost atLeast ⊢
    generalize isExponent : max (power - 52) leastExponent = exponent
    have notBelow : leastExponent ≤ exponent := isExponent ▸ le_max_right _ _
    split
    · split
      · trivial
      · exact ⟨by norm_num, by omega, by omega, .inl le_rfl⟩
    · split
      · trivial
      · exact ⟨by omega, notBelow, by omega, by omega⟩

/-- The number nearest to a decimal number is a double. -/
theorem isDouble_ofDecimal
    (negative : Bool)
    (digits : Nat)
    (exponent : Int) :
    (ofDecimal negative digits exponent).IsDouble := by
  simp only [ofDecimal]
  split
  · exact isDouble_zero negative
  · split
    · trivial
    · split
      · exact isDouble_zero negative
      · split <;> exact isDouble_ofRatio ..

/-! ## Operations -/

theorem IsDouble.neg
    {number : Binary64}
    (isDouble : number.IsDouble) :
    number.neg.IsDouble := by
  cases number <;> exact isDouble

theorem isDouble_add (first second : Binary64) : (first.add second).IsDouble := by
  unfold add
  split
  · trivial
  · trivial
  · split <;> trivial
  · trivial
  · trivial
  · split
    · exact isDouble_zero _
    · exact isDouble_ofRatio ..

theorem isDouble_mul (first second : Binary64) : (first.mul second).IsDouble := by
  unfold mul
  split
  · trivial
  · trivial
  · trivial
  · split <;> trivial
  · split <;> trivial
  · exact isDouble_ofRatio ..

end Binary64

namespace Number

/-! ## Texts -/

private theorem isDouble_of_unsignedDecimal?
    {characters : List Char}
    {number : Binary64}
    (found : unsignedDecimal? characters = some number) :
    number.IsDouble := by
  simp only [unsignedDecimal?, bind, Option.bind_eq_some_iff] at found
  obtain ⟨_, _, _, _, _, _, found⟩ := found
  split at found
  · cases found
  · cases found
    exact Binary64.isDouble_ofDecimal ..

/-- The number that a text writes is a double. -/
theorem isDouble_of_decimal?
    {characters : List Char}
    {number : Binary64}
    (found : decimal? characters = some number) :
    number.IsDouble := by
  simp only [decimal?, Option.map_eq_some_iff] at found
  generalize splitSign (Text.trimBy Text.isPlainSpace (Text.plainNumeral characters)) = signed
    at found
  obtain ⟨size, isSize, rfl⟩ := found
  have sizeIsDouble : size.IsDouble := by
    split at isSize
    · cases isSize
      trivial
    · split at isSize
      · cases isSize
        trivial
      · exact isDouble_of_unsignedDecimal? isSize
  split
  · exact sizeIsDouble.neg
  · exact sizeIsDouble

end Number

end TypeCatalog
