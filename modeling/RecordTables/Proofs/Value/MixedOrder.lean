import RecordTables.Proofs.Floating.Rounding
import RecordTables.Value.Basic

/-!
The order of whole numbers and reals. A whole number meets a real as the nearest real. Up to two to the
power of 53 that is the whole number itself, and beyond it may be another one, but never one on the other
side of a real.
-/

namespace RecordTables

namespace Value

variable {whole : Signed 64} {real : Double}

/-- A whole number of no more digits than a significand is ordered against a real as the numbers are. -/
theorem compare?_short {exact : Floating.Extended} (given : real.exactNumber? = some exact)
    (short : whole.value.natAbs ≤ 2 ^ 53) {ordering : Ordering}
    (ordered : (Value.integer whole).compare? (.real real) = some ordering) :
    ordering.Compares (.finite whole.value) exact := by
  -- A short number is its own nearest float, and floats are compared by what they are.
  have held : (Floating.ofInt .double whole.value).exactNumber? = some (.finite whole.value) :=
    Floating.exactNumber?_ofInt (by decide) (by decide) short
  exact (Floating.compare?_eq_some (by decide) held given).mp ordered

/-- A whole number has an order with every real but a not-a-number. -/
theorem exists_compare? (whole : Signed 64) (given : real ≠ .nan) :
    ∃ ordering, (Value.integer whole).compare? (.real real) = some ordering := by
  -- Only a not-a-number has no place in the order.
  cases real with
  | nan => exact absurd rfl given
  | number negative magnitude bounded => exact ⟨_, rfl⟩

/--
A whole number and a real are compared in the order of their numbers, the infinities at the ends: exactly
for whole numbers up to two to the power of 53 on either side of zero, and beyond at least so that nothing
is found less or greater which is not. So the order is never inverted: what a whole number is found less
than, every lower one is found less than, and what it is found greater than, every higher one is. A
not-a-number has no order with a whole number, on either side.
-/
theorem mixed_order :
    (∀ (whole : Signed 64) (real : Double), real ≠ .nan →
      ∃ exact ordering, real.exactNumber? = some exact ∧
        (Value.integer whole).compare? (.real real) = some ordering ∧
        (whole.value.natAbs ≤ 2 ^ 53 → ordering.Compares (.finite whole.value) exact) ∧
        (ordering = .lt → .finite whole.value < exact) ∧
        (ordering = .gt → exact < .finite whole.value)) ∧
    (∀ (low high : Signed 64) (real : Double), low.value ≤ high.value →
      ((Value.integer high).compare? (.real real) = some .lt →
        (Value.integer low).compare? (.real real) = some .lt) ∧
      ((Value.integer low).compare? (.real real) = some .gt →
        (Value.integer high).compare? (.real real) = some .gt)) ∧
    ∀ whole : Signed 64,
      (Value.integer whole).compare? (.real .nan) = none ∧
      (Value.real .nan).compare? (.integer whole) = none := by
  refine ⟨?_, ?_, ?_⟩
  · intro whole real given
    -- Rounding keeps a whole number on its side of the real, or moves it onto the real.
    obtain ⟨exact, found⟩ := Floating.exists_exactNumber? given
    obtain ⟨ordering, ordered⟩ := exists_compare? whole given
    obtain ⟨less, greater⟩ := Floating.sides_of_compare? whole.value found
    refine ⟨exact, ordering, found, ordered, fun short => compare?_short found short ordered, ?_, ?_⟩
    · rintro rfl
      exact less ordered
    · rintro rfl
      exact greater ordered
  · intro low high real ordered
    -- The lower whole number is not rounded to a greater real than the higher one.
    exact Floating.compare?_ofInt_mono ordered real
  · intro whole
    exact ⟨rfl, rfl⟩

/-- The last whole number up to which every one is a float, two to the power of 53. -/
def lastExact : Signed 64 := ⟨9007199254740992, by decide, by decide⟩

/-- The next whole number, which is halfway between two floats. -/
def firstHalfway : Signed 64 := ⟨lastExact.value + 1, by decide, by decide⟩

/-- The least whole number of 64 bits. -/
def leastWhole : Signed 64 := ⟨-9223372036854775808, by decide, by decide⟩

/-- The float after two to the power of 53, which is two more. -/
def nextFloat : Double := .number false 4845873199050653697 (by decide)

/-- Minus infinity. -/
def minusInfinity : Double := .number true FloatFormat.double.infinity (Nat.le_refl _)

/--
The halfway number is found less than the next float, and so is the number below it, which is less by two.
The least whole number is found greater than minus infinity, and so is every other one.
-/
theorem mixed_order_limits :
    nextFloat.exactNumber? = some (.finite 9007199254740994) ∧
    Floating.Extended.finite lastExact.value < .finite 9007199254740994 ∧
    (Value.integer firstHalfway).compare? (.real nextFloat) = some .lt ∧
    (Value.integer lastExact).compare? (.real nextFloat) = some .lt ∧
    minusInfinity.exactNumber? = some ⊥ ∧ ⊥ < Floating.Extended.finite leastWhole.value ∧
    (Value.integer leastWhole).compare? (.real minusInfinity) = some .gt ∧
    (Value.integer firstHalfway).compare? (.real minusInfinity) = some .gt ∧
    (Value.integer firstHalfway).compare? (.real .nan) = none := by
  obtain ⟨sided, kept, absent⟩ := mixed_order
  have next : nextFloat.exactNumber? = some (.finite 9007199254740994) := by decide +kernel
  have bottom : minusInfinity.exactNumber? = some ⊥ := by decide +kernel
  have less : (Value.integer firstHalfway).compare? (.real nextFloat) = some .lt := by decide +kernel
  have greater : (Value.integer leastWhole).compare? (.real minusInfinity) = some .gt := by
    decide +kernel
  have less' := (kept lastExact firstHalfway nextFloat (by decide)).1 less
  have greater' := (kept leastWhole firstHalfway minusInfinity (by decide)).2 greater
  refine ⟨next, ?_, less, less', bottom, ?_, greater, greater', (absent firstHalfway).1⟩
  · -- Up to here the order is exact, and so it says how the numbers are ordered.
    obtain ⟨exact, ordering, found, ordered, exactly, _, _⟩ := sided lastExact nextFloat nofun
    obtain rfl := Option.some.inj (found.symm.trans next)
    obtain rfl := Option.some.inj (ordered.symm.trans less')
    exact exactly (by decide)
  · -- Beyond, what is found greater is greater.
    obtain ⟨exact, ordering, found, ordered, _, _, above⟩ := sided leastWhole minusInfinity nofun
    obtain rfl := Option.some.inj (found.symm.trans bottom)
    exact above (Option.some.inj (ordered.symm.trans greater))

end Value

end RecordTables
