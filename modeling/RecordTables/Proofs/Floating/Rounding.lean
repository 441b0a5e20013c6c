import Mathlib.Algebra.Order.Field.Rat
import Mathlib.Algebra.Order.Ring.Cast
import Mathlib.Algebra.Order.Ring.Int
import Mathlib.Order.Compare
import Mathlib.Order.WithBot
import RecordTables.Proofs.Floating.Exact
import RecordTables.Proofs.Floating.Nearest

/-!
Rounding keeps order. A greater number never rounds to a lesser word, and so words are in the order of the
numbers that they stand for. Floating point numbers have the order of their exact numbers, and a whole
number that is rounded does not change sides with any of them.
-/

namespace RecordTables

namespace FloatFormat

variable {format : FloatFormat}

/-- Rounding to a whole number never goes below the quotient. -/
theorem le_divideToEven (numerator denominator : Nat) :
    numerator / denominator ≤ divideToEven numerator denominator := by
  -- The quotient is kept or one is added, so it is never less.
  unfold divideToEven
  dsimp only
  split
  · exact Nat.le_refl _
  · split
    · exact Nat.le_succ _
    · exact Nat.le_add_right _ _

/-- A greater numerator is not rounded to a lesser whole number. -/
theorem divideToEven_mono {smaller larger : Nat} (ordered : smaller ≤ larger) (denominator : Nat) :
    divideToEven smaller denominator ≤ divideToEven larger denominator := by
  rcases Nat.eq_or_lt_of_le (Nat.div_le_div_right (c := denominator) ordered) with same | apart
  · -- With one quotient the greater number leaves the greater rest.
    have rests : smaller % denominator ≤ larger % denominator := by
      have first := Nat.div_add_mod smaller denominator
      have second := Nat.div_add_mod larger denominator
      rw [same] at first
      omega
    unfold divideToEven
    dsimp only
    rw [same]
    split_ifs <;> omega
  · -- With a greater quotient there is room for rounding up.
    exact Nat.le_trans (divideToEven_le smaller denominator)
      (Nat.le_trans apart (le_divideToEven larger denominator))

/-- The logarithm of a greater number is not less. -/
theorem log2_mono {smaller larger : Nat} (ordered : smaller ≤ larger) : smaller.log2 ≤ larger.log2 := by
  -- Zero has the logarithm zero by convention, not by what a logarithm is, and is apart for that.
  rcases Nat.eq_zero_or_pos smaller with rfl | positive
  · rw [Nat.log2_zero]
    exact Nat.zero_le _
  · have given : larger ≠ 0 := Nat.ne_of_gt (Nat.lt_of_lt_of_le positive ordered)
    exact (Nat.le_log2 given).mpr
      (Nat.le_trans (Nat.log2_self_le (Nat.ne_of_gt positive)) ordered)

/-- A quotient below a power of two is rounded to at most the power that is left of it by the spacing. -/
theorem divideToEven_le_power {numerator denominator bits spacing : Nat} (positive : 0 < denominator)
    (below : numerator / denominator < 2 ^ (bits + spacing)) :
    divideToEven numerator (denominator * 2 ^ spacing) ≤ 2 ^ bits := by
  have spaced : 0 < denominator * 2 ^ spacing := Nat.mul_pos positive (Nat.two_pow_pos spacing)
  have fits : numerator ≤ 2 ^ bits * (denominator * 2 ^ spacing) := by
    have product := (Nat.div_lt_iff_lt_mul positive).mp below
    rw [Nat.pow_add, Nat.mul_assoc, Nat.mul_comm (2 ^ spacing)] at product
    exact Nat.le_of_lt product
  -- The greatest number in question is divided without rounding, and no lesser one is rounded above it.
  calc divideToEven numerator (denominator * 2 ^ spacing)
      ≤ divideToEven (2 ^ bits * (denominator * 2 ^ spacing)) (denominator * 2 ^ spacing) :=
        divideToEven_mono fits _
    _ = 2 ^ bits := divideToEven_mul spaced _

/-- A quotient from a power of two on is rounded to at least the power that is left of it by the spacing. -/
theorem power_le_divideToEven {numerator denominator bits spacing : Nat} (positive : 0 < denominator)
    (above : 2 ^ (bits + spacing) ≤ numerator / denominator) :
    2 ^ bits ≤ divideToEven numerator (denominator * 2 ^ spacing) := by
  -- The power times the divisor is divided without a remainder, and rounding is monotone.
  have spaced : 0 < denominator * 2 ^ spacing := Nat.mul_pos positive (Nat.two_pow_pos spacing)
  have holds : 2 ^ bits * (denominator * 2 ^ spacing) ≤ numerator := by
    have product := (Nat.le_div_iff_mul_le positive).mp above
    rwa [Nat.pow_add, Nat.mul_assoc, Nat.mul_comm (2 ^ spacing)] at product
  calc 2 ^ bits
      = divideToEven (2 ^ bits * (denominator * 2 ^ spacing)) (denominator * 2 ^ spacing) :=
        (divideToEven_mul spaced _).symm
    _ ≤ divideToEven numerator (denominator * 2 ^ spacing) := divideToEven_mono holds _

/-- A greater number has no lesser nearest word. -/
theorem nearest_mono {smaller larger denominator : Nat} (positive : 0 < denominator)
    (ordered : smaller ≤ larger) :
    format.nearest smaller denominator ≤ format.nearest larger denominator := by
  have logs := log2_mono (Nat.div_le_div_right (c := denominator) ordered)
  unfold nearest
  dsimp only
  refine Nat.le_min.mpr ⟨Nat.le_trans (Nat.min_le_left _ _) ?_, Nat.min_le_right _ _⟩
  rcases Nat.eq_or_lt_of_le (Nat.sub_le_sub_right logs format.fractionBits) with same | apart
  · -- With one spacing the words are rounded on one grid.
    rw [same]
    exact Nat.add_le_add_right (divideToEven_mono ordered _) _
  · -- With a wider spacing the greater number is in a higher binade, and rounding does not leave a binade.
    generalize spaced : (smaller / denominator).log2 - format.fractionBits = spacing at apart ⊢
    generalize spaced' : (larger / denominator).log2 - format.fractionBits = spacing' at apart ⊢
    have below : smaller / denominator < 2 ^ (format.fractionBits + 1 + spacing) :=
      Nat.lt_of_lt_of_le Nat.lt_log2_self (Nat.pow_le_pow_right (by decide) (by omega))
    have above : 2 ^ (format.fractionBits + spacing') ≤ larger / denominator := by
      have given : larger / denominator ≠ 0 := by
        intro zero
        rw [zero, Nat.log2_zero, Nat.zero_sub] at spaced'
        omega
      exact Nat.le_trans (Nat.pow_le_pow_right (by decide) (by omega)) (Nat.log2_self_le given)
    have top := divideToEven_le_power positive below
    have bottom := power_le_divideToEven positive above
    have steps : (spacing + 1) * 2 ^ format.fractionBits ≤ spacing' * 2 ^ format.fractionBits :=
      Nat.mul_le_mul_right _ apart
    rw [Nat.pow_succ'] at top
    rw [Nat.add_mul, Nat.one_mul] at steps
    omega

/-- The word zero stands for zero. -/
theorem units_zero (format : FloatFormat) : format.units 0 = 0 := by
  -- Zero is the place of the exponent zero and of the fraction zero.
  unfold units
  dsimp only
  rw [Nat.zero_div, Nat.zero_mod, if_pos rfl]

/-- The nearest word to zero is zero. -/
theorem nearest_zero (format : FloatFormat) : format.nearest 0 1 = 0 := by
  have word := format.nearest_units (Nat.zero_le _)
  rwa [units_zero] at word

end FloatFormat

namespace Floating

variable {format : FloatFormat}

/-- Below zero a number stands as far from it as its magnitude says. -/
theorem rank_true (magnitude : Nat) : rank true magnitude = -(magnitude : Int) := rfl

/-- Above zero a number stands as far from it as its magnitude says. -/
theorem rank_false (magnitude : Nat) : rank false magnitude = (magnitude : Int) := rfl

/-- A function of magnitudes taken to both sides of zero. -/
def signed (change : Nat → Nat) (number : Int) : Int :=
  rank (decide (number < 0)) (change number.natAbs)

/-- A function that keeps the order of magnitudes keeps that of numbers on both sides of zero. -/
theorem signed_mono {change : Nat → Nat}
    (mono : ∀ smaller larger, smaller ≤ larger → change smaller ≤ change larger) {low high : Int}
    (ordered : low ≤ high) : signed change low ≤ signed change high := by
  unfold signed
  by_cases negative : high < 0
  · -- Below zero the lower number has the greater magnitude.
    have magnitudes := mono high.natAbs low.natAbs (by omega)
    rw [decide_eq_true (by omega : low < 0), decide_eq_true negative, rank_true, rank_true]
    omega
  · rw [decide_eq_false negative, rank_false]
    by_cases negative' : low < 0
    · -- Zero is between the two.
      rw [decide_eq_true negative', rank_true]
      omega
    · have magnitudes := mono low.natAbs high.natAbs (by omega)
      rw [decide_eq_false negative', rank_false]
      omega

/-- A function that keeps zero changes the magnitude of a number and leaves its sign. -/
theorem signed_rank {change : Nat → Nat} (zero : change 0 = 0) (negative : Bool) (magnitude : Nat) :
    signed change (rank negative magnitude) = rank negative (change magnitude) := by
  unfold signed
  cases negative with
  | false =>
    have above : ¬ (magnitude : Int) < 0 := by omega
    rw [rank_false, decide_eq_false above, Int.natAbs_natCast]
  | true =>
    rcases Nat.eq_zero_or_pos magnitude with rfl | positive
    · -- Zero has lost its sign, but there is none at the place of zero.
      simp [rank_true, rank_false, zero]
    · have below : -(magnitude : Int) < 0 := by omega
      rw [rank_true, decide_eq_true below, Int.natAbs_neg, Int.natAbs_natCast]

/-- Where the number nearest to a whole number of smallest positive numbers stands among the others. -/
def placeOf (format : FloatFormat) (units : Int) : Int := signed (format.nearest · 1) units

/-- A greater number of smallest positive numbers has no lower place. -/
theorem placeOf_mono {low high : Int} (ordered : low ≤ high) :
    placeOf format low ≤ placeOf format high :=
  signed_mono (fun _ _ ordered => FloatFormat.nearest_mono Nat.one_pos ordered) ordered

/-- The exact number of a word has the place of the word. -/
theorem placeOf_rank (negative : Bool) {magnitude : Nat} (bounded : magnitude ≤ format.infinity) :
    placeOf format (rank negative (format.units magnitude)) = rank negative magnitude := by
  rw [placeOf, signed_rank format.nearest_zero, FloatFormat.nearest_units bounded]

/-- The nearest number to a whole number has the place of the whole number. -/
theorem rank_ofInt (format : FloatFormat) (value : Int) :
    rank (decide (value < 0)) (format.nearest (value.natAbs * 2 ^ format.unitPower) 1) =
      placeOf format (value * (2 ^ format.unitPower : Nat)) := by
  have positive : (0 : Int) < (2 ^ format.unitPower : Nat) :=
    Int.natCast_pos.mpr (Nat.two_pow_pos _)
  -- Counting in smaller numbers does not change the sign.
  have sign : (value * (2 ^ format.unitPower : Nat) < 0) = (value < 0) :=
    propext ⟨fun product => Left.neg_of_mul_neg_left product (Int.le_of_lt positive),
      fun negative => Int.mul_neg_of_neg_of_pos negative positive⟩
  simp only [placeOf, signed, sign, Int.natAbs_mul, Int.natAbs_natCast]

/-- Numbers are in the order of their places. -/
theorem rank_units_le_iff {negative negative' : Bool} {magnitude magnitude' : Nat}
    (bounded : magnitude ≤ format.infinity) (bounded' : magnitude' ≤ format.infinity) :
    rank negative (format.units magnitude) ≤ rank negative' (format.units magnitude') ↔
      rank negative magnitude ≤ rank negative' magnitude' := by
  have placed := placeOf_rank negative bounded
  have placed' := placeOf_rank negative' bounded'
  constructor
  · intro ordered
    rw [← placed, ← placed']
    exact placeOf_mono ordered
  · intro ordered
    rcases Int.le_total (rank negative (format.units magnitude))
      (rank negative' (format.units magnitude')) with fine | wrong
    · exact fine
    · -- The places are then the same, and a place has one number.
      have back : placeOf format _ ≤ placeOf format _ := placeOf_mono wrong
      rw [placed, placed'] at back
      have same := Int.le_antisymm ordered back
      rw [← signed_rank format.units_zero, same, signed_rank format.units_zero]

/-- The rational numbers with an infinity at each end. -/
abbrev Extended := WithBot (WithTop ℚ)

/-- A rational number among the extended ones. -/
abbrev Extended.finite (number : ℚ) : Extended := ((number : WithTop ℚ) : WithBot (WithTop ℚ))

/-- A number of smallest positive numbers of a format. -/
def unitsOf (format : FloatFormat) (units : Int) : ℚ := units / (2 ^ format.unitPower : Nat)

/-- More smallest positive numbers are more. -/
theorem unitsOf_le_iff (format : FloatFormat) {low high : Int} :
    unitsOf format low ≤ unitsOf format high ↔ low ≤ high := by
  have positive : (0 : ℚ) < (2 ^ format.unitPower : Nat) := Nat.cast_pos.mpr (Nat.two_pow_pos _)
  rw [unitsOf, unitsOf, div_le_div_iff_of_pos_right positive, Int.cast_le]

/-- A whole number is so many smallest positive numbers. -/
theorem unitsOf_mul (format : FloatFormat) (value : Int) :
    unitsOf format (value * (2 ^ format.unitPower : Nat)) = value := by
  -- The power that is divided by is the one that was multiplied with.
  have nonzero : ((2 ^ format.unitPower : Nat) : ℚ) ≠ 0 :=
    Nat.cast_ne_zero.mpr (Nat.ne_of_gt (Nat.two_pow_pos _))
  rw [unitsOf, Int.cast_mul, Int.cast_natCast, mul_div_cancel_right₀ _ nonzero]

/-- The exact number of a word with a sign; the greatest word stands for infinity. -/
def exactly (format : FloatFormat) (negative : Bool) (magnitude : Nat) : Extended :=
  if magnitude < format.infinity then
    .finite (unitsOf format (rank negative (format.units magnitude)))
  else if negative then ⊥ else ⊤

/-- The exact number, which a not-a-number has none of. -/
def exactNumber? : Floating format → Option Extended
  | .nan => none
  | .number negative magnitude _ => some (exactly format negative magnitude)

/-- Every number but a not-a-number has an exact number. -/
theorem exists_exactNumber? {number : Floating format} (given : number ≠ .nan) :
    ∃ exact, number.exactNumber? = some exact := by
  cases number with
  | nan => exact absurd rfl given
  | number negative magnitude bounded => exact ⟨_, rfl⟩

/-- A finite word stands for so many smallest positive numbers. -/
theorem exactly_finite (negative : Bool) {magnitude : Nat} (finite : magnitude < format.infinity) :
    exactly format negative magnitude =
      .finite (unitsOf format (rank negative (format.units magnitude))) :=
  if_pos finite

/-- One half is the fraction without a bit set, with an exponent one less than the one of one. -/
example : (number false 4602678819172646912 (by decide) : Double).exactNumber? =
    some (.finite (1 / 2)) := by
  decide +kernel

/-- The greatest word stands for infinity on its side. -/
theorem exactly_infinity (format : FloatFormat) (negative : Bool) :
    exactly format negative format.infinity = if negative then ⊥ else ⊤ :=
  if_neg (Nat.lt_irrefl _)

/-- Finite numbers among the extended ones have their order. -/
theorem Extended.finite_le_finite {low high : ℚ} :
    Extended.finite low ≤ Extended.finite high ↔ low ≤ high :=
  WithBot.coe_le_coe.trans WithTop.coe_le_coe

/-- A finite number is below infinity. -/
theorem Extended.finite_lt_top (number : ℚ) : Extended.finite number < ⊤ :=
  WithBot.coe_lt_coe.mpr (WithTop.coe_lt_top number)

/-- A finite number is above minus infinity. -/
theorem Extended.bot_lt_finite (number : ℚ) : ⊥ < Extended.finite number :=
  WithBot.bot_lt_coe _

/-- No place is further from zero than its magnitude. -/
theorem rank_within (negative : Bool) (magnitude : Nat) :
    -(magnitude : Int) ≤ rank negative magnitude ∧ rank negative magnitude ≤ magnitude := by
  -- The sign only decides which of the two bounds is met.
  cases negative with
  | false => exact ⟨by rw [rank_false]; omega, Int.le_refl _⟩
  | true => exact ⟨Int.le_refl _, by rw [rank_true]; omega⟩

/-- Nothing but infinity is as great as infinity, and no other place is as high. -/
theorem top_le_exactly_iff (positive : 0 < format.infinity) (negative : Bool) {magnitude : Nat}
    (bounded : magnitude ≤ format.infinity) :
    ⊤ ≤ exactly format negative magnitude ↔ (format.infinity : Int) ≤ rank negative magnitude := by
  -- Infinity has the two signs to tell apart, and every other place has a finite number.
  have within := rank_within negative magnitude
  rcases Nat.eq_or_lt_of_le bounded with rfl | finite
  · rw [exactly_infinity]
    cases negative with
    | true =>
      refine iff_of_false (by simp) ?_
      rw [rank_true]
      omega
    | false => exact iff_of_true le_rfl (Int.le_refl _)
  · rw [exactly_finite _ finite]
    exact iff_of_false (not_le.mpr (Extended.finite_lt_top _)) (by omega)

/-- Nothing but minus infinity is as little as minus infinity, and no other place is as low. -/
theorem exactly_le_bot_iff (positive : 0 < format.infinity) (negative : Bool) {magnitude : Nat}
    (bounded : magnitude ≤ format.infinity) :
    exactly format negative magnitude ≤ ⊥ ↔ rank negative magnitude ≤ -(format.infinity : Int) := by
  -- As for infinity above, with the signs the other way.
  have within := rank_within negative magnitude
  rcases Nat.eq_or_lt_of_le bounded with rfl | finite
  · rw [exactly_infinity]
    cases negative with
    | true => exact iff_of_true le_rfl (Int.le_refl _)
    | false =>
      refine iff_of_false (by simp) ?_
      rw [rank_false]
      omega
  · rw [exactly_finite _ finite]
    exact iff_of_false (not_le.mpr (Extended.bot_lt_finite _)) (by omega)

/-- Exact numbers are in the order of their places. -/
theorem exactly_le_iff (positive : 0 < format.infinity) {negative negative' : Bool}
    {magnitude magnitude' : Nat} (bounded : magnitude ≤ format.infinity)
    (bounded' : magnitude' ≤ format.infinity) :
    exactly format negative magnitude ≤ exactly format negative' magnitude' ↔
      rank negative magnitude ≤ rank negative' magnitude' := by
  have within := rank_within negative magnitude
  have within' := rank_within negative' magnitude'
  rcases Nat.eq_or_lt_of_le bounded with rfl | finite
  · rw [exactly_infinity]
    cases negative with
    | true =>
      -- Minus infinity and its place are below everything.
      exact iff_of_true bot_le (by rw [rank_true]; omega)
    | false => exact top_le_exactly_iff positive negative' bounded'
  · rcases Nat.eq_or_lt_of_le bounded' with rfl | finite'
    · rw [exactly_infinity]
      cases negative' with
      | true => exact exactly_le_bot_iff positive negative bounded
      | false =>
        -- Infinity and its place are above everything.
        exact iff_of_true le_top (by rw [rank_false]; omega)
    · -- Between the infinities the words count smallest positive numbers.
      rw [exactly_finite _ finite, exactly_finite _ finite', Extended.finite_le_finite, unitsOf_le_iff,
        rank_units_le_iff bounded bounded']

/-- Numbers are ordered as their exact numbers are. -/
theorem compare?_eq_some (positive : 0 < format.infinity) {left right : Floating format}
    {first second : Extended} (leftExact : left.exactNumber? = some first)
    (rightExact : right.exactNumber? = some second) {ordering : Ordering} :
    left.compare? right = some ordering ↔ ordering.Compares first second := by
  cases left with
  | nan => cases leftExact
  | number negative magnitude bounded =>
    cases right with
    | nan => cases rightExact
    | number negative' magnitude' bounded' =>
      obtain rfl := Option.some.inj leftExact
      obtain rfl := Option.some.inj rightExact
      -- Each of the three results says which of the two places is not greater than the other.
      have upward := @exactly_le_iff format positive negative negative' _ _ bounded bounded'
      have downward := @exactly_le_iff format positive negative' negative _ _ bounded' bounded
      rw [compare?, Option.some.injEq]
      cases ordering with
      | lt => rw [compare_lt_iff_lt, Ordering.compares_lt, ← not_le, ← not_le, downward]
      | eq => rw [compare_eq_iff_eq, Ordering.compares_eq, le_antisymm_iff, le_antisymm_iff, upward, downward]
      | gt => rw [compare_gt_iff_gt, Ordering.compares_gt, gt_iff_lt, ← not_le, ← not_le, upward]

/-- A whole number times a natural one stands on the side of the whole number. -/
theorem rank_natAbs_mul (value : Int) (factor : Nat) :
    rank (decide (value < 0)) (value.natAbs * factor) = value * factor := by
  -- The sign is taken off the magnitude and put back by the rank.
  by_cases negative : value < 0
  · rw [decide_eq_true negative, rank_true, Int.natCast_mul,
      Int.ofNat_natAbs_of_nonpos (Int.le_of_lt negative), Int.neg_mul, Int.neg_neg]
  · rw [decide_eq_false negative, rank_false, Int.natCast_mul,
      Int.natAbs_of_nonneg (Int.not_lt.mp negative)]

/-- A whole number with no more digits than a significand is a number of the format. -/
theorem exactNumber?_ofInt (wide : 2 ≤ format.exponentBits)
    (room : format.unitPower + 3 < 2 ^ format.exponentBits) {value : Int}
    (short : value.natAbs ≤ 2 ^ (format.fractionBits + 1)) :
    (ofInt format value).exactNumber? = some (.finite value) := by
  let number := value.natAbs * 2 ^ format.unitPower
  have below : number ≤ 2 ^ (format.fractionBits + 1 + format.unitPower) := by
    rw [Nat.pow_add]
    exact Nat.mul_le_mul_right _ short
  have log : number.log2 ≤ format.fractionBits + 1 + format.unitPower :=
    Nat.le_trans (FloatFormat.log2_mono below) (Nat.le_of_eq Nat.log2_two_pow)
  have fits : 2 ^ (number.log2 - format.fractionBits) ∣ number := by
    rcases Nat.eq_or_lt_of_le short with power | shorter
    · -- A power of two is a multiple of every lesser one.
      have whole : number = 2 ^ (format.fractionBits + 1 + format.unitPower) := by
        rw [Nat.pow_add, ← power]
      rw [whole, Nat.log2_two_pow]
      exact Nat.pow_dvd_pow 2 (Nat.sub_le _ _)
    · -- With fewer digits the spacing is no wider than the unit of the whole numbers.
      refine Nat.dvd_trans (Nat.pow_dvd_pow 2 ?_) (Nat.dvd_mul_left _ _)
      rcases Nat.eq_zero_or_pos number with zero | given
      · rw [zero, Nat.log2_zero, Nat.zero_sub]
        exact Nat.zero_le _
      · have strict : number < 2 ^ (format.fractionBits + 1 + format.unitPower) := by
          rw [Nat.pow_add]
          exact Nat.mul_lt_mul_of_pos_right shorter (Nat.two_pow_pos _)
        have digits := (Nat.log2_lt (Nat.ne_of_gt given)).mpr strict
        omega
  obtain ⟨held, finite⟩ := FloatFormat.units_nearest wide fits (by omega)
  refine congrArg some ((exactly_finite _ finite).trans ?_)
  rw [held, rank_natAbs_mul, unitsOf_mul]

/-- A whole number is compared by the place that it is rounded to. -/
theorem compare?_ofInt (value : Int) (negative : Bool) {magnitude : Nat}
    (bounded : magnitude ≤ format.infinity) :
    (ofInt format value).compare? (.number negative magnitude bounded) =
      some (compare (placeOf format (value * (2 ^ format.unitPower : Nat))) (rank negative magnitude)) := by
  simp only [ofInt, ofUnits, compare?, rank_ofInt]

/-- No place is beyond an infinity. -/
theorem placeOf_within (format : FloatFormat) (units : Int) :
    -(format.infinity : Int) ≤ placeOf format units ∧ placeOf format units ≤ format.infinity := by
  -- Rounding stops at infinity, on either side of zero.
  have bounded : format.nearest units.natAbs 1 ≤ format.infinity := Nat.min_le_right _ _
  have within := rank_within (decide (units < 0)) (format.nearest units.natAbs 1)
  rw [placeOf, signed]
  omega

/-- A whole number that is not less than a number is not rounded to a lower place. -/
theorem le_placeOf {value : Int} {negative : Bool} {magnitude : Nat}
    (bounded : magnitude ≤ format.infinity)
    (below : exactly format negative magnitude ≤ .finite value) :
    rank negative magnitude ≤ placeOf format (value * (2 ^ format.unitPower : Nat)) := by
  rcases Nat.eq_or_lt_of_le bounded with rfl | finite
  · -- Of the infinities only the lower one is not greater than a whole number.
    cases negative with
    | true => exact (placeOf_within format _).1
    | false =>
      rw [exactly_infinity] at below
      exact absurd below (not_le.mpr (Extended.finite_lt_top _))
  · -- Counted in smallest positive numbers the two are rounded in their order, and the number not at all.
    rw [exactly_finite _ finite, Extended.finite_le_finite, ← unitsOf_mul format, unitsOf_le_iff] at below
    exact placeOf_rank negative bounded ▸ placeOf_mono below

/-- A whole number that is not greater than a number is not rounded to a higher place. -/
theorem placeOf_le {value : Int} {negative : Bool} {magnitude : Nat}
    (bounded : magnitude ≤ format.infinity)
    (above : .finite value ≤ exactly format negative magnitude) :
    placeOf format (value * (2 ^ format.unitPower : Nat)) ≤ rank negative magnitude := by
  -- Nothing is above infinity, and below it the number is one of the format, which
  -- rounding leaves where it is.
  rcases Nat.eq_or_lt_of_le bounded with rfl | finite
  · cases negative with
    | true =>
      rw [exactly_infinity] at above
      exact absurd above (not_le.mpr (Extended.bot_lt_finite _))
    | false => exact (placeOf_within format _).2
  · rw [exactly_finite _ finite, Extended.finite_le_finite, ← unitsOf_mul format, unitsOf_le_iff] at above
    exact placeOf_rank negative bounded ▸ placeOf_mono above

/-- Rounding finds a whole number less than a number only if it is less, and greater only if it is greater. -/
theorem sides_of_compare? (value : Int) {other : Floating format} {exact : Extended}
    (given : other.exactNumber? = some exact) :
    ((ofInt format value).compare? other = some .lt → .finite value < exact) ∧
      ((ofInt format value).compare? other = some .gt → exact < .finite value) := by
  -- A whole number that is not on the side in question would be rounded to the other one, or
  -- to the number itself.
  cases other with
  | nan => cases given
  | number negative magnitude bounded =>
    obtain rfl := Option.some.inj given
    rw [compare?_ofInt, Option.some.injEq, Option.some.injEq, compare_lt_iff_lt, compare_gt_iff_gt]
    exact ⟨fun less => not_le.mp fun below => not_le.mpr less (le_placeOf bounded below),
      fun greater => not_le.mp fun above => not_le.mpr greater (placeOf_le bounded above)⟩

/-- What a whole number is less than, lower ones are less than; what one is greater than, higher ones are. -/
theorem compare?_ofInt_mono {low high : Int} (ordered : low ≤ high) (other : Floating format) :
    ((ofInt format high).compare? other = some .lt → (ofInt format low).compare? other = some .lt) ∧
      ((ofInt format low).compare? other = some .gt → (ofInt format high).compare? other = some .gt) := by
  -- Whole numbers are compared by their places, and the places are in the order of the numbers.
  cases other with
  | nan => exact ⟨id, id⟩
  | number negative magnitude bounded =>
    have places : placeOf format (low * (2 ^ format.unitPower : Nat)) ≤
        placeOf format (high * (2 ^ format.unitPower : Nat)) :=
      placeOf_mono (Int.mul_le_mul_of_nonneg_right ordered (Int.natCast_nonneg _))
    simp only [compare?_ofInt, Option.some.injEq, compare_lt_iff_lt, compare_gt_iff_gt]
    exact ⟨fun less => lt_of_le_of_lt places less, fun greater => lt_of_lt_of_le greater places⟩

end Floating

end RecordTables
