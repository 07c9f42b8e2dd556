import DocGraph.Number.Binary64
import Mathlib

/-!
# The whole part of a quotient in double precision

A quotient of whole numbers that is held in double precision has the right whole part as long as the
numbers have no more than 53 binary digits. It cannot fall below its whole part, which is a multiple of
the last place. And it cannot reach the next whole number: it is away from that by one part of the
divisor at least, and half a last place is less.
-/

set_option autoImplicit false

namespace DocGraph.Number

/-! ## Powers of two -/

/-- The power that is meant. -/
theorem twoPow_eq (e : Int) : twoPow e = (2 : ℚ) ^ e := by
  unfold twoPow
  obtain ⟨n, rfl | rfl⟩ := e.eq_nat_or_neg
  · simp
  · cases n with
    | zero => simp
    | succ n =>
      rw [if_neg (by omega), Int.natAbs_neg, Int.natAbs_natCast, zpow_neg, zpow_natCast, one_div]
      simp

/-- The exponent is not too large: the power is not above the number. -/
theorem twoPow_binaryExponent_le {x : ℚ} (positive : 0 < x) :
    (2 : ℚ) ^ binaryExponent x ≤ x := by
  unfold binaryExponent
  dsimp only
  split
  next fits => rwa [twoPow_eq] at fits
  next =>
    have above : x.num.natAbs ≠ 0 := Int.natAbs_ne_zero.mpr (Rat.num_pos.mpr positive).ne'
    have top : (2 : ℚ) ^ x.num.natAbs.log2 ≤ x.num.natAbs := by
      exact_mod_cast Nat.log2_self_le above
    have bottom : (x.den : ℚ) ≤ 2 ^ (x.den.log2 + 1) := by
      exact_mod_cast (Nat.lt_log2_self (n := x.den)).le
    have whole : (x.num.natAbs : ℚ) = x * x.den := by
      rw [Rat.mul_den_eq_num, Nat.cast_natAbs, abs_of_pos (Rat.num_pos.mpr positive)]
    have split_ : (2 : ℚ) ^ ((x.num.natAbs.log2 : Int) - x.den.log2 - 1) * 2 ^ (x.den.log2 + 1) =
        2 ^ x.num.natAbs.log2 := by
      rw [← zpow_natCast, ← zpow_natCast, ← zpow_add₀ two_ne_zero]
      congr 1
      push_cast
      ring
    have room : (0 : ℚ) < 2 ^ (x.den.log2 + 1) := by positivity
    refine le_of_mul_le_mul_right ?_ room
    calc (2 : ℚ) ^ ((x.num.natAbs.log2 : Int) - x.den.log2 - 1) * 2 ^ (x.den.log2 + 1)
        = 2 ^ x.num.natAbs.log2 := split_
      _ ≤ x * x.den := top.trans_eq whole
      _ ≤ x * 2 ^ (x.den.log2 + 1) := mul_le_mul_of_nonneg_left bottom positive.le

/-! ## Rounding -/

/-- A whole number that is not above a number is not above what it is rounded to. -/
theorem le_roundEven {n : Int} {y : ℚ} (h : (n : ℚ) ≤ y) : n ≤ roundEven y := by
  have below : n ≤ y.floor := Rat.le_floor_iff.mpr h
  unfold roundEven
  dsimp only
  split_ifs <;> omega

/-- Rounding adds no more than one half. -/
theorem roundEven_le (y : ℚ) : (roundEven y : ℚ) ≤ y + 1 / 2 := by
  have below : (y.floor : ℚ) ≤ y := Rat.floor_le y
  unfold roundEven
  dsimp only
  split_ifs <;> push_cast <;> linarith

variable {a b : Nat}

/-- The last place of a quotient of not too many digits: it is no whole number greater than one, and
half of it is less than one part of the divisor. -/
theorem exists_lastPlace (some_ : 0 < a) (positive : 0 < b) (small : a < 2 ^ 53) (few : b ≤ 2 ^ 53) :
    ∃ places : Nat, lastPlace ((a : ℚ) / b) = -places ∧ b < 2 ^ (places + 1) := by
  have above : (0 : ℚ) < (a : ℚ) / b := by positivity
  have fits := twoPow_binaryExponent_le above
  have exact_ : (a : ℚ) / b * b = a := div_mul_cancel₀ _ (by positivity)
  have short : binaryExponent ((a : ℚ) / b) < 53 := by
    have under : (a : ℚ) / b < 2 ^ (53 : Int) := by
      have one : (1 : ℚ) ≤ b := by exact_mod_cast positive
      have digits : (a : ℚ) < 2 ^ (53 : Int) := by exact_mod_cast small
      exact (div_le_self (by positivity) one).trans_lt digits
    exact (zpow_lt_zpow_iff_right₀ one_lt_two).mp (fits.trans_lt under)
  unfold lastPlace
  generalize binaryExponent ((a : ℚ) / b) = e at fits short
  by_cases clamped : e - 52 ≤ -1074
  · have enough : ∀ places : Nat, 52 < places → b < 2 ^ (places + 1) := fun places more =>
      few.trans_lt (Nat.pow_lt_pow_right one_lt_two (by omega))
    exact ⟨1074, by omega, enough 1074 (by omega)⟩
  · refine ⟨(52 - e).toNat, by omega, ?_⟩
    have places : ((52 - e).toNat + 1 : Nat) + e = (53 : Int) := by omega
    have scaled : (2 : ℚ) ^ ((52 - e).toNat + 1) * 2 ^ e = 2 ^ (53 : Int) := by
      rw [← zpow_natCast, ← zpow_add₀ two_ne_zero, places]
    have power : (0 : ℚ) < 2 ^ e := by positivity
    have below : (b : ℚ) < 2 ^ ((52 - e).toNat + 1) := by
      refine lt_of_mul_lt_mul_right ?_ power.le
      calc (b : ℚ) * 2 ^ e ≤ b * ((a : ℚ) / b) := mul_le_mul_of_nonneg_left fits (by positivity)
        _ = a := by rw [mul_comm, exact_]
        _ < 2 ^ (53 : Int) := by exact_mod_cast small
        _ = 2 ^ ((52 - e).toNat + 1) * 2 ^ e := scaled.symm
    exact_mod_cast below

/-- A quotient in double precision has the whole part that it should have, unless its numbers have too
many digits. -/
theorem floor_nearest_div (positive : 0 < b) (small : a < 2 ^ 53) (few : b ≤ 2 ^ 53) :
    (nearest ((a : ℚ) / b)).floor = (a / b : Nat) := by
  rcases Nat.eq_zero_or_pos a with rfl | some_
  · have zero : nearest ((0 : Nat) / (b : ℚ)) = (0 : Int) := by simp [nearest]
    rw [zero, Rat.floor_intCast, Nat.zero_div]
    rfl
  have above : (0 : ℚ) < (a : ℚ) / b := by positivity
  obtain ⟨places, last, half⟩ := exists_lastPlace some_ positive small few
  have unit : twoPow (lastPlace ((a : ℚ) / b)) = (2 ^ places)⁻¹ := by
    rw [last, twoPow_eq, zpow_neg, zpow_natCast]
  have rounded : nearest ((a : ℚ) / b) = roundEven ((a : ℚ) / b * 2 ^ places) / 2 ^ places := by
    unfold nearest
    rw [if_neg above.ne', if_neg above.le.not_gt]
    dsimp only
    rw [unit, div_inv_eq_mul, ← div_eq_mul_inv]
  have power : (0 : ℚ) < 2 ^ places := by positivity
  have divisor : (0 : ℚ) < b := by exact_mod_cast positive
  change ⌊nearest ((a : ℚ) / b)⌋ = _
  rw [rounded, Int.floor_eq_iff, le_div_iff₀ power, div_lt_iff₀ power]
  constructor
  -- The whole part is a multiple of the last place.
  · have whole : ((a / b : Nat) : ℚ) * 2 ^ places ≤ (a : ℚ) / b * 2 ^ places :=
      mul_le_mul_of_nonneg_right Nat.cast_div_le power.le
    have kept := @le_roundEven ((a / b : Nat) * 2 ^ places) _ (by push_cast; exact whole)
    exact_mod_cast kept
  -- One part of the divisor is missing to the next whole number.
  · have short : a + 1 ≤ (a / b + 1) * b := by
      have rest := Nat.lt_mul_div_succ a positive
      rw [mul_comm]
      omega
    have gap : (a : ℚ) / b + 1 / b ≤ ((a / b : Nat) : ℚ) + 1 := by
      rw [← add_div, div_le_iff₀ divisor]
      exact_mod_cast short
    have more : (1 : ℚ) / 2 < 1 / b * 2 ^ places := by
      have halves : (b : ℚ) < 2 ^ places * 2 := by exact_mod_cast pow_succ 2 places ▸ half
      rw [div_mul_eq_mul_div, one_mul, div_lt_div_iff₀ two_pos divisor]
      linarith
    have grown := roundEven_le ((a : ℚ) / b * 2 ^ places)
    have scaled := mul_le_mul_of_nonneg_right gap power.le
    rw [add_mul] at scaled
    rw [Int.cast_natCast]
    linarith

end DocGraph.Number
