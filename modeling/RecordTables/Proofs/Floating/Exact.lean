import RecordTables.Floating.Basic

/-!
Numbers that a format holds exactly. A word is a significand and a shift, the nearest word to its exact
number is the word itself, and so rounding does nothing to a number that the format holds. A format with
no fewer digits and no smaller range therefore takes up every number of another one and gives it back.
-/

namespace RecordTables

namespace FloatFormat

variable {format : FloatFormat}

/--
A significand and a shift as a word spells them: the significand has one bit more than the fraction, and
less only where nothing is shifted.
-/
structure Spells (format : FloatFormat) (significand shift : Nat) : Prop where
  narrow : significand < 2 ^ (format.fractionBits + 1)
  normal : shift = 0 ∨ 2 ^ format.fractionBits ≤ significand

/-- The word of a significand and a shift. -/
def word (format : FloatFormat) (significand shift : Nat) : Nat :=
  significand + shift * 2 ^ format.fractionBits

/-- Every word spells a significand and a shift. -/
theorem exists_spells (format : FloatFormat) (magnitude : Nat) :
    ∃ significand shift, format.Spells significand shift ∧
      magnitude = format.word significand shift := by
  have positive := Nat.two_pow_pos format.fractionBits
  have next : 2 ^ (format.fractionBits + 1) = 2 * 2 ^ format.fractionBits := Nat.pow_succ'
  by_cases small : magnitude < 2 ^ format.fractionBits
  · -- Without an exponent the word is the significand.
    refine ⟨magnitude, 0, ⟨by omega, .inl rfl⟩, ?_⟩
    rw [word, Nat.zero_mul, Nat.add_zero]
  · -- The first step of the exponent sets the leading bit, the others shift.
    have exponent : 1 ≤ magnitude / 2 ^ format.fractionBits :=
      (Nat.one_le_div_iff positive).mpr (Nat.le_of_not_lt small)
    have fraction := Nat.mod_lt magnitude positive
    refine ⟨2 ^ format.fractionBits + magnitude % 2 ^ format.fractionBits,
      magnitude / 2 ^ format.fractionBits - 1, ⟨by omega, .inr (by omega)⟩, ?_⟩
    have whole := Nat.div_add_mod magnitude (2 ^ format.fractionBits)
    have split := Nat.sub_mul (magnitude / 2 ^ format.fractionBits) 1 (2 ^ format.fractionBits)
    have within := Nat.mul_le_mul_right (2 ^ format.fractionBits) exponent
    rw [Nat.mul_comm] at whole
    rw [word]
    omega

/-- The exact number of a word is the significand times the shifted unit. -/
theorem units_word {significand shift : Nat} (spells : format.Spells significand shift) :
    format.units (format.word significand shift) = significand * 2 ^ shift := by
  have positive := Nat.two_pow_pos format.fractionBits
  have narrow := spells.narrow
  rw [Nat.pow_succ'] at narrow
  unfold units word
  dsimp only
  -- The exponent of the word is the shift, or one more if the significand has its leading bit.
  rw [Nat.add_mul_div_right _ _ positive, Nat.add_mul_mod_self_right]
  by_cases small : significand < 2 ^ format.fractionBits
  · -- A significand without its leading bit is not shifted.
    have unshifted := spells.normal.resolve_right (Nat.not_le_of_lt small)
    rw [unshifted, Nat.div_eq_of_lt small, Nat.mod_eq_of_lt small, if_pos rfl, Nat.pow_zero, Nat.mul_one]
  · -- The leading bit counts in the exponent, and is put back as the bit above the fraction.
    have leading : significand / 2 ^ format.fractionBits = 1 :=
      Nat.div_eq_of_lt_le (by omega) (by omega)
    have rest : significand % 2 ^ format.fractionBits = significand - 2 ^ format.fractionBits := by
      rw [Nat.mod_eq_sub_div_mul, leading, Nat.one_mul]
    rw [leading, rest, if_neg (by omega), Nat.add_sub_cancel_left (n := 1),
      Nat.add_sub_of_le (Nat.le_of_not_lt small)]

/-- The spacing around the exact number of a word is its shift. -/
theorem spacing_word {significand shift : Nat} (spells : format.Spells significand shift) :
    (significand * 2 ^ shift).log2 - format.fractionBits = shift := by
  have positive := Nat.two_pow_pos shift
  rcases Nat.eq_zero_or_pos significand with rfl | given
  · -- Zero has no leading bit, so it is not shifted.
    have unshifted := spells.normal.resolve_right (Nat.not_le_of_lt (Nat.two_pow_pos _))
    rw [unshifted, Nat.zero_mul, Nat.log2_zero, Nat.zero_sub]
  · have nonzero : significand * 2 ^ shift ≠ 0 := Nat.ne_of_gt (Nat.mul_pos given positive)
    have upper : (significand * 2 ^ shift).log2 < format.fractionBits + 1 + shift := by
      rw [Nat.log2_lt nonzero, Nat.pow_add]
      exact Nat.mul_lt_mul_of_pos_right spells.narrow positive
    rcases spells.normal with rfl | leading
    · -- Unshifted, there is no bit above the leading one.
      omega
    · -- Otherwise the leading bit stands right above the fraction, before it is shifted.
      have lower : format.fractionBits + shift ≤ (significand * 2 ^ shift).log2 := by
        rw [Nat.le_log2 nonzero, Nat.pow_add]
        exact Nat.mul_le_mul_right _ leading
      omega

/-- A multiple is divided without rounding. -/
theorem divideToEven_mul {denominator : Nat} (positive : 0 < denominator) (quotient : Nat) :
    divideToEven (quotient * denominator) denominator = quotient := by
  unfold divideToEven
  dsimp only
  -- Nothing is left over, so it is less than half.
  rw [Nat.mul_mod_left, Nat.mul_div_left _ positive, Nat.mul_zero, if_pos positive]

/-- The nearest word to the exact number of a word is the word, or infinity beyond it. -/
theorem nearest_word {significand shift : Nat} (spells : format.Spells significand shift) :
    format.nearest (significand * 2 ^ shift) 1 = min (format.word significand shift) format.infinity := by
  unfold nearest
  dsimp only
  -- The spacing is the one that the number was spelled with, so the division is exact.
  rw [Nat.div_one, spacing_word spells, Nat.one_mul, divideToEven_mul (Nat.two_pow_pos shift), word]

/-- The nearest word to the exact number of a word is the word. -/
theorem nearest_units {magnitude : Nat} (bounded : magnitude ≤ format.infinity) :
    format.nearest (format.units magnitude) 1 = magnitude := by
  obtain ⟨significand, shift, spells, rfl⟩ := exists_spells format magnitude
  rw [units_word spells, nearest_word spells, Nat.min_eq_left bounded]

/-- A common factor of numerator and denominator does not matter for a rounded division. -/
theorem divideToEven_scale {factor : Nat} (positive : 0 < factor) (numerator denominator : Nat) :
    divideToEven (numerator * factor) (denominator * factor) = divideToEven numerator denominator := by
  have scaled : 2 * (numerator % denominator * factor) = 2 * (numerator % denominator) * factor :=
    (Nat.mul_assoc ..).symm
  unfold divideToEven
  dsimp only
  -- The quotient stays, and the rest grows by the factor, as half of the denominator does.
  simp only [Nat.mul_div_mul_right _ _ positive, Nat.mul_mod_mul_right, scaled,
    Nat.mul_lt_mul_right positive]

/-- A quotient that is a whole number is rounded like that number. -/
theorem nearest_mul {factor : Nat} (positive : 0 < factor) (number : Nat) :
    format.nearest (number * factor) factor = format.nearest number 1 := by
  -- Numerator and denominator have the factor in common, which rounding does not see.
  unfold nearest
  dsimp only
  rw [Nat.mul_div_left _ positive, Nat.div_one, Nat.mul_comm factor, divideToEven_scale positive,
    Nat.one_mul]

/-- A number whose digits all fit into a significand is spelled by one. -/
theorem exists_spells_of_dvd {number : Nat} (fits : 2 ^ (number.log2 - format.fractionBits) ∣ number) :
    ∃ significand, format.Spells significand (number.log2 - format.fractionBits) ∧
      number = significand * 2 ^ (number.log2 - format.fractionBits) := by
  have positive := Nat.two_pow_pos (number.log2 - format.fractionBits)
  refine ⟨number / 2 ^ (number.log2 - format.fractionBits), ⟨?_, ?_⟩, (Nat.div_mul_cancel fits).symm⟩
  · -- No digit is above the leading one.
    refine Nat.div_lt_of_lt_mul (Nat.lt_of_lt_of_le Nat.lt_log2_self ?_)
    rw [← Nat.pow_add]
    exact Nat.pow_le_pow_right (by decide) (by omega)
  · rcases Nat.eq_zero_or_pos (number.log2 - format.fractionBits) with unshifted | shifted
    · exact .inl unshifted
    · -- A shift is there for the leading digit, which comes to stand above the fraction.
      have given : number ≠ 0 := by
        rintro rfl
        rw [Nat.log2_zero, Nat.zero_sub] at shifted
        exact Nat.lt_irrefl 0 shifted
      refine .inr ((Nat.le_div_iff_mul_le positive).mpr ?_)
      rw [← Nat.pow_add, Nat.add_sub_of_le (by omega)]
      exact Nat.log2_self_le given

/-- With two bits for the exponent there are at least four exponents. -/
theorem four_le_exponents (wide : 2 ≤ format.exponentBits) : 4 ≤ 2 ^ format.exponentBits :=
  Nat.le_trans (by decide : 4 ≤ 2 ^ 2) (Nat.pow_le_pow_right (by decide) wide)

/-- A number whose digits fit into a significand, and which is in range, is held exactly. -/
theorem units_nearest {number : Nat} (wide : 2 ≤ format.exponentBits)
    (fits : 2 ^ (number.log2 - format.fractionBits) ∣ number)
    (inRange : number.log2 + 2 < format.fractionBits + 2 ^ format.exponentBits) :
    format.units (format.nearest number 1) = number ∧ format.nearest number 1 < format.infinity := by
  obtain ⟨significand, spells, whole⟩ := exists_spells_of_dvd fits
  generalize shifted : number.log2 - format.fractionBits = shift at spells whole
  have exponents := four_le_exponents wide
  -- The shift leaves room for the leading bit and for one step to infinity.
  have below : format.word significand shift < format.infinity := by
    have narrow := spells.narrow
    rw [Nat.pow_succ'] at narrow
    have room : (shift + 2) * 2 ^ format.fractionBits ≤ format.infinity :=
      Nat.mul_le_mul_right _ (by omega)
    rw [Nat.add_mul] at room
    rw [word]
    omega
  rw [whole, nearest_word spells, Nat.min_eq_left (Nat.le_of_lt below)]
  exact ⟨units_word spells, below⟩

/--
A format that takes up the numbers of another one: it has no fewer digits, no coarser unit, and no
smaller range.
-/
structure Widens (source target : FloatFormat) : Prop where
  sourceExponent : 2 ≤ source.exponentBits
  targetExponent : 2 ≤ target.exponentBits
  digits : source.fractionBits ≤ target.fractionBits
  unit : source.unitPower ≤ target.unitPower
  range : source.fractionBits + 2 ^ source.exponentBits + (target.unitPower - source.unitPower) ≤
    target.fractionBits + 2 ^ target.exponentBits

/-- The 64-bit format takes up the numbers of the 32-bit format. -/
theorem single_widens_double : Widens single double where
  sourceExponent := by decide
  targetExponent := by decide
  digits := by decide
  unit := by decide
  range := by decide

/-- A word short of infinity leaves room for two steps above its shift. -/
theorem shift_of_finite {significand shift : Nat} (wide : 2 ≤ format.exponentBits)
    (spells : format.Spells significand shift)
    (finite : format.word significand shift < format.infinity) :
    shift + 2 < 2 ^ format.exponentBits := by
  have exponents := four_le_exponents wide
  rcases spells.normal with rfl | leading
  · omega
  · -- With its leading bit the word is one step above the shift.
    have steps : (shift + 1) * 2 ^ format.fractionBits <
        (2 ^ format.exponentBits - 1) * 2 ^ format.fractionBits := by
      refine Nat.lt_of_le_of_lt ?_ finite
      rw [Nat.add_mul, word]
      omega
    have fewer := Nat.lt_of_mul_lt_mul_right steps
    omega

/-- A finite number of a format is held exactly by a format that takes it up. -/
theorem Widens.units_nearest {source target : FloatFormat} (widens : Widens source target)
    {magnitude : Nat} (finite : magnitude < source.infinity) :
    let number := source.units magnitude * 2 ^ (target.unitPower - source.unitPower)
    target.units (target.nearest number 1) = number ∧ target.nearest number 1 < target.infinity := by
  intro number
  obtain ⟨significand, shift, spells, rfl⟩ := source.exists_spells magnitude
  have room := shift_of_finite widens.sourceExponent spells finite
  have whole : number =
      significand * 2 ^ (shift + (target.unitPower - source.unitPower)) := by
    rw [Nat.pow_add, ← Nat.mul_assoc, ← units_word spells]
  have digits := widens.digits
  have range := widens.range
  -- The number has no more digits than the significand, above what it is shifted by.
  have log : number.log2 ≤
      source.fractionBits + (shift + (target.unitPower - source.unitPower)) := by
    rcases Nat.eq_zero_or_pos number with zero | given
    · rw [zero, Nat.log2_zero]
      exact Nat.zero_le _
    · have upper : number <
          2 ^ (source.fractionBits + 1 + (shift + (target.unitPower - source.unitPower))) := by
        rw [whole, Nat.pow_add 2 (source.fractionBits + 1)]
        exact Nat.mul_lt_mul_of_pos_right spells.narrow (Nat.two_pow_pos _)
      have fewer := (Nat.log2_lt (Nat.ne_of_gt given)).mpr upper
      omega
  refine FloatFormat.units_nearest widens.targetExponent ?_ (by omega)
  -- It is a multiple of what it is shifted by, and the spacing is no coarser than that.
  rw [whole] at log ⊢
  exact Nat.dvd_trans (Nat.pow_dvd_pow 2 (by omega)) (Nat.dvd_mul_left _ _)

end FloatFormat

namespace Floating

variable {format target : FloatFormat}

/-- Numbers with one sign and one word are the same. -/
theorem number_congr {negative : Bool} {magnitude other : Nat} (same : magnitude = other)
    (bounded : magnitude ≤ format.infinity) (bounded' : other ≤ format.infinity) :
    number negative magnitude bounded = (number negative other bounded' : Floating format) := by
  subst same
  rfl

/-- A finite number is converted by rounding its exact number. -/
theorem convert_finite {negative : Bool} {magnitude : Nat} {bounded : magnitude ≤ format.infinity}
    (finite : magnitude < format.infinity) :
    (number negative magnitude bounded : Floating format).convert target =
      ofUnits target negative (format.units magnitude * 2 ^ target.unitPower)
        (2 ^ format.unitPower) :=
  if_neg (Nat.ne_of_lt finite)

/--
A number is given back by a format that takes it up: zeros keep their signs, infinities stay infinite,
and every other number is held exactly, so that it is the nearest one to itself on the way back.
-/
theorem convert_convert (widens : FloatFormat.Widens format target) (value : Floating format) :
    (value.convert target).convert format = value := by
  cases value with
  | nan => rfl
  | number negative magnitude bounded =>
    -- The sign is kept on both ways, and only the word has to be followed.
    rcases Nat.eq_or_lt_of_le bounded with rfl | finite
    · -- Infinity becomes infinity, both ways.
      simp only [convert, if_true]
    · have scale : 2 ^ target.unitPower =
          2 ^ (target.unitPower - format.unitPower) * 2 ^ format.unitPower := by
        rw [← Nat.pow_add, Nat.sub_add_cancel widens.unit]
      obtain ⟨held, finite'⟩ := widens.units_nearest finite
      rw [convert_finite finite, ofUnits]
      refine (convert_finite ?_).trans (number_congr ?_ _ _)
      · rw [scale, ← Nat.mul_assoc, FloatFormat.nearest_mul (Nat.two_pow_pos _)]
        exact finite'
      · -- On the way back the units of the other format cancel.
        rw [scale, ← Nat.mul_assoc, FloatFormat.nearest_mul (Nat.two_pow_pos _), held, Nat.mul_assoc,
          FloatFormat.nearest_mul (Nat.mul_pos (Nat.two_pow_pos _) (Nat.two_pow_pos _)),
          FloatFormat.nearest_units bounded]

end Floating

/-- A 32-bit number is the nearest 32-bit number to the 64-bit number that equals it. -/
theorem Double.toSingle_ofSingle (value : Single) : toSingle (ofSingle value) = value :=
  Floating.convert_convert FloatFormat.single_widens_double value

end RecordTables
