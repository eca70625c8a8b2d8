import RecordGraph.Double.Rounding

/-!
# The doubles of large whole numbers

Between the 63rd and the 64th power of two the doubles are the multiples of 2048. A whole
number there becomes the nearest of them, so its double is finite, and two whole numbers with
one double are at most 2048 apart.
-/

namespace RecordGraph

/-- The outcome of rounding is one of the two neighbours. -/
theorem roundHalfEven_between (numerator denominator : Nat) :
    numerator / denominator ≤ roundHalfEven numerator denominator ∧
      roundHalfEven numerator denominator ≤ numerator / denominator + 1 := by
  unfold roundHalfEven
  dsimp only
  split
  · omega
  · split
    · omega
    · omega

/-- Rounding goes no further than half a unit. -/
theorem roundHalfEven_near (numerator : Nat) {denominator : Nat} (positive : 0 < denominator) :
    2 * (denominator * roundHalfEven numerator denominator) ≤ 2 * numerator + denominator ∧
      2 * numerator ≤ 2 * (denominator * roundHalfEven numerator denominator) + denominator := by
  have split := Nat.div_add_mod numerator denominator
  have rest := Nat.mod_lt numerator positive
  unfold roundHalfEven
  dsimp only
  generalize numerator / denominator = floor at *
  generalize numerator % denominator = rest at *
  have next : denominator * (floor + 1) = denominator * floor + denominator := Nat.mul_succ _ _
  split
  · omega
  · split
    · rw [next]
      omega
    · -- At a tie either neighbour is half a unit away.
      rcases Nat.mod_two_eq_zero_or_one floor with even | odd
      · rw [even, Nat.add_zero]
        omega
      · rw [odd, next]
        omega

/-- Numbers that round to one multiple are no further apart than its unit. -/
theorem apart_of_roundHalfEven {m n : Nat}
    (same : roundHalfEven m 2048 = roundHalfEven n 2048) :
    m ≤ n + 2048 := by
  have positive : 0 < 2048 := by decide
  have left := roundHalfEven_near m positive
  have right := roundHalfEven_near n positive
  omega

namespace Double

theorem toNat_bits_withSign {unsigned : Nat} (fits : unsigned < 0x10000000000000000) :
    (withSign false unsigned).bits.toNat = unsigned :=
  UInt64.toNat_ofNat_of_lt' fits

theorem isFinite_withSign {unsigned : Nat} (fits : unsigned < 2047 * exponentUnit) :
    (withSign false unsigned).isFinite = true := by
  have word : unsigned < 0x10000000000000000 := Nat.lt_trans fits (by decide)
  have small : unsigned / exponentUnit < 2047 :=
    Nat.div_lt_of_lt_mul (Nat.mul_comm _ _ ▸ fits)
  have field : (withSign false unsigned).exponentField = unsigned / exponentUnit := by
    rw [exponentField, toNat_bits_withSign word]
    exact Nat.mod_eq_of_lt (by omega)
  rw [isFinite, field, bne_iff_ne]
  omega

variable {m n : Nat}

/-- Above the 63rd power of two the last bit of a significand stands for 2048. -/
theorem lastBit_of_large (lower : 0x8000000000000000 ≤ n) (upper : n < 0x10000000000000000) :
    BinaryFormat.double.lastBit n 1 = 11 := by
  have size : n.log2 = 63 := (Nat.log2_eq_iff (by omega)).mpr ⟨lower, upper⟩
  have enough : ¬ n / 2048 < Nat.pow 2 (53 - 1) := by
    change ¬ n / 2048 < 4503599627370496
    omega
  unfold BinaryFormat.lastBit
  rw [size]
  change (if (-1074 : Int) < 11 ∧ n / 2048 < Nat.pow 2 (53 - 1) then (11 : Int) - 1 else 11) = 11
  rw [if_neg fun small => enough small.2]

/-- A significand that reaches the exponent's unit leaves its leading bit to the exponent. -/
theorem ofMagnitude_of_le {significand : Nat} (normal : exponentUnit ≤ significand)
    (negative : Bool) (exponent : Int) :
    ofMagnitude negative (some ⟨significand, exponent⟩) =
      withSign negative
        ((exponent + 1075).toNat * exponentUnit + (significand - exponentUnit)) :=
  if_neg (Nat.not_lt.mpr normal)

theorem nearest_of_large (lower : 0x8000000000000000 ≤ n) (upper : n < 0x10000000000000000) :
    BinaryFormat.double.nearest n 1 =
      some (if roundHalfEven n 2048 < 0x20000000000000 then ⟨roundHalfEven n 2048, 11⟩
        else ⟨roundHalfEven n 2048 / 2, 12⟩) := by
  have inRange : (if roundHalfEven n 2048 < 0x20000000000000
      then (⟨roundHalfEven n 2048, 11⟩ : Magnitude)
      else ⟨roundHalfEven n 2048 / 2, 12⟩).exponent ≤ 971 := by
    split
    · exact (by decide : (11 : Int) ≤ 971)
    · exact (by decide : (12 : Int) ≤ 971)
  unfold BinaryFormat.nearest
  rw [if_neg (by omega), lastBit_of_large lower upper]
  exact if_pos inRange

/-- The double of a large whole number. The carry of rounding up to the 64th power of two goes
to the exponent field as well. -/
theorem ofNat_of_large (lower : 0x8000000000000000 ≤ n) (upper : n < 0x10000000000000000) :
    ofNat false n = withSign false (1085 * exponentUnit + roundHalfEven n 2048) := by
  have between := roundHalfEven_between n 2048
  have unit : exponentUnit = 0x10000000000000 := rfl
  rw [ofNat, nearest_of_large lower upper]
  split
  · refine (ofMagnitude_of_le (by omega) _ _).trans (congrArg (withSign false) ?_)
    change 1086 * exponentUnit + (roundHalfEven n 2048 - exponentUnit) = _
    omega
  · refine (ofMagnitude_of_le (by omega) _ _).trans (congrArg (withSign false) ?_)
    change 1087 * exponentUnit + (roundHalfEven n 2048 / 2 - exponentUnit) = _
    omega

theorem large_fits (upper : n < 0x10000000000000000) :
    1085 * exponentUnit + roundHalfEven n 2048 < 2047 * exponentUnit := by
  have between := roundHalfEven_between n 2048
  unfold exponentUnit
  omega

theorem isFinite_ofNat (lower : 0x8000000000000000 ≤ n) (upper : n < 0x10000000000000000) :
    (ofNat false n).isFinite = true := by
  rw [ofNat_of_large lower upper]
  exact isFinite_withSign (large_fits upper)

/-- Large whole numbers have one double if they round to one multiple of 2048. -/
theorem ofNat_eq_ofNat_iff (lowerLeft : 0x8000000000000000 ≤ m)
    (upperLeft : m < 0x10000000000000000) (lowerRight : 0x8000000000000000 ≤ n)
    (upperRight : n < 0x10000000000000000) :
    ofNat false m = ofNat false n ↔ roundHalfEven m 2048 = roundHalfEven n 2048 := by
  rw [ofNat_of_large lowerLeft upperLeft, ofNat_of_large lowerRight upperRight]
  constructor
  · intro same
    have left := toNat_bits_withSign (Nat.lt_trans (large_fits upperLeft) (by decide))
    have right := toNat_bits_withSign (Nat.lt_trans (large_fits upperRight) (by decide))
    exact Nat.add_left_cancel (left.symm.trans (same ▸ right))
  · intro same
    rw [same]

end Double

end RecordGraph
