import Mathlib.Analysis.Complex.ExponentialBounds
import Mathlib.Analysis.SpecialFunctions.Log.Base
import PowerLimits.Proofs.Binary64.Logarithm

/-! The logarithm is correctly rounded, as far as it is shown: its sign is that of the real logarithm, and
its whole part that of any magnitude to which no other one is nearer. Just below a whole number this depends
on how many significands are missing, and the natural logarithm of two tells how many are few enough. -/
namespace PowerLimits.Binary64

noncomputable def Magnitude.toReal (size : Magnitude) : ℝ := size.count / one

/-- No other magnitude is nearer to the number. -/
def Nearest (value : ℝ) (size : Magnitude) : Prop :=
  ∀ other : Magnitude, |size.toReal - value| ≤ |other.toReal - value|

theorem exists_nearest (value : ℝ) : ∃ size, Nearest value size := by
  have finite : Finite Magnitude := by
    refine Finite.of_injective (β := Fin overflow) (fun size => ⟨size.count, size.representable.1⟩) ?_
    rintro ⟨m, _⟩ ⟨n, _⟩ same
    cases congrArg Fin.val same
    rfl
  have inhabited : Nonempty Magnitude := ⟨⟨0, representable_zero⟩⟩
  exact Finite.exists_min fun size : Magnitude => |size.toReal - value|

variable {part places : Nat} {size rounded : Magnitude}

theorem one_pos_real : (0 : ℝ) < one := Nat.cast_pos.2 one_pos

theorem one_real : (one : ℝ) = 2 ^ scale := by
  rw [one_eq, Nat.one_shiftLeft, Nat.cast_pow, Nat.cast_ofNat]

theorem exists_toReal (significand shift : Nat) (small : significand < 0x20000000000000)
    (fits : shift ≤ scale + 971) :
    ∃ size : Magnitude, size.toReal = significand * (2 ^ shift / 2 ^ scale) := by
  refine ⟨⟨_, representable_shiftLeft small fits⟩, ?_⟩
  unfold Magnitude.toReal
  dsimp only
  rw [one_real, Nat.shiftLeft_eq, mul_div_assoc', Nat.cast_mul, Nat.cast_pow, Nat.cast_ofNat]

/-! Magnitudes at a whole number and just below one of so many binary places. -/

theorem exists_places (part : Nat) : ∃ places, part < 2 ^ places ∧ 2 ^ places ≤ 2 * part + 1 := by
  by_cases zero : part = 0
  · exact ⟨0, by omega, by omega⟩
  · have low := Nat.log2_self_le zero
    exact ⟨part.log2 + 1, Nat.lt_log2_self, by rw [Nat.pow_succ]; omega⟩

theorem exists_whole (whole : Nat) (small : whole < 0x20000000000000) :
    ∃ size : Magnitude, size.toReal = whole := by
  obtain ⟨size, exact⟩ := exists_toReal whole scale small (by omega)
  rw [div_self (by positivity), mul_one] at exact
  exact ⟨size, exact⟩

theorem grid_eq (few : places ≤ 52) :
    (2 : ℝ) ^ (places + scale - 53) / 2 ^ scale = 2 ^ places / 2 ^ 53 := by
  have deep := scale_eq
  have shift : places + scale - 53 + 53 = places + scale := by omega
  rw [div_eq_div_iff (by positivity) (by positivity), ← pow_add, ← pow_add, shift]

/-- A whole number in steps of the grid below it. -/
theorem whole_eq (few : places ≤ 52) (whole : Nat) :
    (whole : ℝ) = (whole * 2 ^ (53 - places) : ℕ) * (2 ^ places / 2 ^ 53) := by
  have room : (2 : ℝ) ^ (53 - places) * 2 ^ places = 2 ^ 53 := by
    rw [← pow_add, Nat.sub_add_cancel (by omega)]
  rw [Nat.cast_mul, Nat.cast_pow, Nat.cast_ofNat, mul_assoc, mul_div_assoc', room,
    div_self (by positivity), mul_one]

theorem exists_below (above : part < 2 ^ places) (few : places ≤ 52) :
    ∃ size : Magnitude, size.toReal = part + 1 - 2 ^ places / 2 ^ 53 := by
  have fits : (part + 1) * 2 ^ (53 - places) ≤ 2 ^ 53 := by
    calc
      (part + 1) * 2 ^ (53 - places) ≤ 2 ^ places * 2 ^ (53 - places) := Nat.mul_le_mul_right _ above
      _ = 2 ^ 53 := by rw [← Nat.pow_add, Nat.add_sub_cancel' (by omega)]
  have positive : 1 ≤ (part + 1) * 2 ^ (53 - places) := Nat.mul_pos part.succ_pos (Nat.two_pow_pos _)
  obtain ⟨size, exact⟩ := exists_toReal ((part + 1) * 2 ^ (53 - places) - 1) (places + scale - 53)
    (by omega) (by omega)
  refine ⟨size, ?_⟩
  have whole := whole_eq few (part + 1)
  rw [exact, grid_eq few, Nat.cast_sub positive, sub_mul, ← whole]
  push_cast
  ring

/-- From half of the next power of two on, magnitudes are on the grid. -/
theorem exists_steps (few : places ≤ 52) (large : 2 ^ (places + scale - 1) ≤ size.count) :
    ∃ steps : Nat, size.toReal = steps * (2 ^ places / 2 ^ 53) := by
  have deep := scale_eq
  have positive : size.count ≠ 0 := Nat.ne_of_gt (Nat.lt_of_lt_of_le (Nat.two_pow_pos _) large)
  have order := (Nat.le_log2 positive).2 large
  have fine : places + scale - 53 ≤ spare size.count := by
    unfold spare
    omega
  obtain ⟨steps, exact⟩ : 2 ^ (places + scale - 53) ∣ size.count := by
    rw [← size.representable.2, Nat.shiftLeft_eq]
    exact Nat.dvd_trans (Nat.pow_dvd_pow 2 fine) (Nat.dvd_mul_left _ _)
  refine ⟨steps, ?_⟩
  rw [Magnitude.toReal, one_real, exact, ← grid_eq few, mul_div_assoc', mul_comm (steps : ℝ)]
  push_cast
  rfl

theorem toReal_lt_of_count_lt (small : size.count < 2 ^ (places + scale - 1)) :
    2 * size.toReal < 2 ^ places := by
  have deep := scale_eq
  have half : 2 * 2 ^ (places + scale - 1) = 2 ^ places * 2 ^ scale := by
    rw [← Nat.pow_add, Nat.mul_comm, ← Nat.pow_succ]
    congr 1
    omega
  have short : 2 * size.count < 2 ^ places * 2 ^ scale := by omega
  rw [Magnitude.toReal, one_real, mul_div_assoc', div_lt_iff₀ (by positivity)]
  exact_mod_cast short

theorem le_below (below : 2 ^ places ≤ 2 * part + 1) (few : places ≤ 52)
    (less : size.toReal < part + 1) : size.toReal ≤ part + 1 - 2 ^ places / 2 ^ 53 := by
  have grid : (0 : ℝ) < 2 ^ places / 2 ^ 53 := by positivity
  by_cases large : 2 ^ (places + scale - 1) ≤ size.count
  · obtain ⟨steps, exact⟩ := exists_steps few large
    have whole := whole_eq few (part + 1)
    rw [Nat.cast_add, Nat.cast_one] at whole
    rw [exact, whole] at less ⊢
    have next := Nat.cast_lt.1 (lt_of_mul_lt_mul_right less grid.le)
    have next : (steps : ℝ) + 1 ≤ ((part + 1) * 2 ^ (53 - places) : ℕ) := by exact_mod_cast next
    have step := mul_le_mul_of_nonneg_right next grid.le
    linarith
  · have short := toReal_lt_of_count_lt (Nat.lt_of_not_le large)
    have below : (2 : ℝ) ^ places ≤ 2 * part + 1 := by exact_mod_cast below
    have fine : (2 : ℝ) ^ places / 2 ^ 53 ≤ 1 / 2 := by
      rw [div_le_div_iff₀ (by positivity) (by positivity), one_mul, ← pow_succ]
      exact pow_le_pow_right₀ (by norm_num) (by omega)
    linarith

/-! How many missing significands are few. -/

theorem roundingUp_eq (above : part < 2 ^ places) (below : 2 ^ places ≤ 2 * part + 1) :
    roundingUp part = (693147180559945 <<< places) / 2000000000000000 := by
  cases places with
  | zero =>
    have zero : part = 0 := by omega
    rw [zero]
    rfl
  | succ n =>
    rw [Nat.pow_succ] at above below
    have positive : part ≠ 0 := by
      have := Nat.two_pow_pos n
      omega
    have exponent : part.log2 = n := by
      rw [Nat.log2_eq_iff positive, Nat.pow_succ]
      omega
    rw [roundingUp, if_neg positive, exponent, Nat.shiftLeft_succ]
    exact (Nat.mul_div_mul_left _ 1000000000000000 (by decide)).symm

theorem places_table : ∀ places < 11,
    let most := (693147180559945 <<< places) / 2000000000000000
    2 * most * 1000000 + 1000 ≤ 2 ^ places * 693147 ∧
      2 ^ places * 693148 < 2 * (most + 1) * 1000000 := by
  decide

/-- Twice as many as are few fit in the logarithm of two, scaled to the places, and leave room for the terms
of second order. -/
theorem roundingUp_bounds_real (above : part < 2 ^ places) (below : 2 ^ places ≤ 2 * part + 1)
    (narrow : places < 11) :
    2 * (roundingUp part : ℝ) + 1 / 1000 < 2 ^ places * Real.log 2 ∧
      2 ^ places * Real.log 2 < 2 * ((roundingUp part : ℝ) + 1) := by
  obtain ⟨fits, beyond⟩ := places_table places narrow
  rw [← roundingUp_eq above below] at fits beyond
  have fits : 2 * (roundingUp part : ℝ) * 1000000 + 1000 ≤ 2 ^ places * 693147 := by exact_mod_cast fits
  have beyond : 2 ^ places * 693148 < 2 * ((roundingUp part : ℝ) + 1) * 1000000 := by
    exact_mod_cast beyond
  have low : (2 : ℝ) ^ places * 0.693147 < 2 ^ places * Real.log 2 :=
    mul_lt_mul_of_pos_left (by linarith [Real.log_two_gt_d9]) (by positivity)
  have high : (2 : ℝ) ^ places * Real.log 2 < 2 ^ places * 0.693148 :=
    mul_lt_mul_of_pos_left (by linarith [Real.log_two_lt_d9]) (by positivity)
  constructor <;> linarith

section Bounds

variable {lacking : Nat} (above : part < 2 ^ places) (below : 2 ^ places ≤ 2 * part + 1)
  (narrow : places < 11)

include above below narrow

theorem lt_logb_of_le (near : lacking ≤ roundingUp part) :
    -(2 ^ places / 2 ^ 54) < Real.logb 2 (1 - lacking / 2 ^ 53) := by
  have natural : 0 < Real.log 2 := Real.log_pos one_lt_two
  have near : (lacking : ℝ) ≤ roundingUp part := Nat.cast_le.2 near
  have few := (roundingUp_bounds_real above below narrow).1
  have most : (2 : ℝ) ^ places * Real.log 2 ≤ 2 ^ 10 * 1 :=
    mul_le_mul (pow_le_pow_right₀ (by norm_num) (by omega)) (by linarith [Real.log_two_lt_d9])
      natural.le (by positivity)
  have second : (2 ^ places * Real.log 2) * (lacking / 2 ^ 53) ≤ 2 ^ 10 * 1 * (2 ^ 10 / 2 ^ 53) :=
    mul_le_mul most (div_le_div_of_nonneg_right (by linarith) (by positivity)) (by positivity)
      (by positivity)
  have positive : (0 : ℝ) < 1 - lacking / 2 ^ 53 := by
    rw [sub_pos, div_lt_one (by positivity)]
    linarith
  rw [Real.logb, lt_div_iff₀ natural]
  refine lt_of_lt_of_le ?_ (Real.one_sub_inv_le_log_of_pos positive)
  rw [lt_sub_comm, inv_lt_iff_one_lt_mul₀ positive]
  linarith

theorem logb_lt_of_lt (far : roundingUp part < lacking) (fewer : lacking < 2 ^ 53) :
    Real.logb 2 (1 - lacking / 2 ^ 53) < -(2 ^ places / 2 ^ 54) := by
  have far : (roundingUp part : ℝ) + 1 ≤ lacking := by exact_mod_cast far
  have many := (roundingUp_bounds_real above below narrow).2
  have positive : (0 : ℝ) < 1 - lacking / 2 ^ 53 := by
    rw [sub_pos, div_lt_one (by positivity)]
    exact_mod_cast fewer
  rw [Real.logb, div_lt_iff₀ (Real.log_pos one_lt_two)]
  refine lt_of_le_of_lt (Real.log_le_sub_one_of_pos positive) ?_
  linarith

end Bounds

theorem logb_toReal (low : one <<< part ≤ size.count) (high : size.count < one <<< (part + 1)) :
    Real.logb 2 size.toReal = part + 1 + Real.logb 2 (1 - missing size.count / 2 ^ 53) := by
  have deep := scale_eq
  have grid : spare size.count = part + scale - 52 := by
    rw [spare, log2_of_binade low high]
  have top : 0x10000000000000 ≤ size.count >>> spare size.count := le_shiftRight_spare (by omega)
  have short := shiftRight_spare_lt size.count
  have whole := size.representable.2
  rw [missing]
  generalize size.count >>> spare size.count = significand at top short whole ⊢
  have rest : 1 - ((0x20000000000000 - significand : ℕ) : ℝ) / 2 ^ 53 = significand / 2 ^ 53 := by
    rw [Nat.cast_sub short.le, sub_div]
    norm_num
  have exact : size.toReal = 2 ^ (part + 1) * (significand / 2 ^ 53) := by
    have shift : part + scale - 52 + 53 = part + 1 + scale := by omega
    rw [Magnitude.toReal, one_real, ← whole, grid, Nat.shiftLeft_eq, mul_div_assoc',
      div_eq_div_iff (by positivity) (by positivity)]
    push_cast
    rw [mul_assoc, ← pow_add, shift, pow_add]
    ring
  have positive : (0 : ℝ) < significand / 2 ^ 53 :=
    div_pos (Nat.cast_pos.2 (by omega)) (by positivity)
  rw [exact, rest, Real.logb_mul (by positivity) positive.ne', Real.logb_pow,
    Real.logb_self_eq_one (by norm_num), mul_one]
  push_cast
  rfl

theorem toReal_bounds (low : one <<< part ≤ size.count) (high : size.count < one <<< (part + 1)) :
    2 ^ part ≤ size.toReal ∧ size.toReal < 2 ^ (part + 1) := by
  rw [Nat.shiftLeft_eq, Nat.mul_comm] at low high
  rw [Magnitude.toReal, le_div_iff₀ one_pos_real, div_lt_iff₀ one_pos_real]
  exact ⟨by exact_mod_cast low, by exact_mod_cast high⟩

theorem logb_bounds (low : one <<< part ≤ size.count) (high : size.count < one <<< (part + 1)) :
    part ≤ Real.logb 2 size.toReal ∧ Real.logb 2 size.toReal < part + 1 := by
  obtain ⟨least, most⟩ := toReal_bounds low high
  have positive : 0 < size.toReal := lt_of_lt_of_le (by positivity) least
  rw [Real.le_logb_iff_rpow_le one_lt_two positive, Real.logb_lt_iff_lt_rpow one_lt_two positive]
  exact ⟨by exact_mod_cast least, by exact_mod_cast most⟩

/-! What is nearest to a number. -/

theorem count_div_one {whole : Nat} (low : whole ≤ rounded.toReal) (high : rounded.toReal < whole + 1) :
    rounded.count / one = whole := by
  rw [Magnitude.toReal, le_div_iff₀ one_pos_real] at low
  rw [Magnitude.toReal, div_lt_iff₀ one_pos_real] at high
  apply Nat.div_eq_of_lt_le
  · exact_mod_cast low
  · exact_mod_cast high

namespace Nearest

variable {value : ℝ} (nearest : Nearest value rounded)

include nearest

theorem le_toReal {other : Magnitude} (reached : other.toReal ≤ value) :
    other.toReal ≤ rounded.toReal := by
  have closer := (neg_le_abs _).trans (nearest other)
  rw [abs_of_nonpos (by linarith)] at closer
  linarith

theorem toReal_le {other : Magnitude} (reached : value ≤ other.toReal) :
    rounded.toReal ≤ other.toReal := by
  have closer := (le_abs_self _).trans (nearest other)
  rw [abs_of_nonneg (by linarith)] at closer
  linarith

theorem count_above (below : 2 ^ places ≤ 2 * part + 1) (few : places ≤ 52) (small : part < 1024)
    (near : part + 1 - 2 ^ places / 2 ^ 54 < value) (less : value < part + 1) :
    rounded.count / one = part + 1 := by
  obtain ⟨next, exact⟩ := exists_whole (part + 1) (by omega)
  push_cast at exact
  have most := nearest.toReal_le (exact ▸ less.le)
  apply count_div_one
  · push_cast
    by_contra beneath
    have far := le_below below few (lt_of_not_ge beneath)
    have closer := (neg_le_abs _).trans (nearest next)
    rw [exact, abs_of_nonneg (by linarith)] at closer
    linarith
  · push_cast
    linarith

theorem count_below (above : part < 2 ^ places) (few : places ≤ 52) (small : part < 1024)
    (least : part ≤ value) (far : value < part + 1 - 2 ^ places / 2 ^ 54) :
    rounded.count / one = part := by
  obtain ⟨same, exact⟩ := exists_whole part (by omega)
  obtain ⟨under, just⟩ := exists_below above few
  apply count_div_one
  · exact exact ▸ nearest.le_toReal (exact ▸ least)
  · have step : (0 : ℝ) < 2 ^ places / 2 ^ 54 := by positivity
    -- What is just below the whole number is nearer than that itself.
    have closer := (le_abs_self _).trans (nearest under)
    have short : |under.toReal - value| < part + 1 - value := by
      rw [just, abs_lt]
      constructor <;> linarith
    linarith

end Nearest

theorem log2_of_nearest (large : one ≤ size.count)
    (nearest : Nearest (Real.logb 2 size.toReal) rounded) :
    (finite false size).log2 = .whole (rounded.count / one) := by
  obtain ⟨part, low, high⟩ := exists_binade large
  obtain ⟨places, above, below⟩ := exists_places part
  have small : part < 1024 := by
    have fits := size.representable.1
    rw [overflow_eq] at fits
    exact one_shiftLeft_lt_iff.1 (Nat.lt_of_le_of_lt low fits)
  have narrow : places < 11 := by
    rw [← Nat.pow_lt_pow_iff_right (by decide : 1 < 2)]
    omega
  have log := logb_toReal low high
  obtain ⟨least, most⟩ := logb_bounds low high
  rw [log2_of_one_le large, wholeLog_of_binade low high]
  refine congrArg Log2.whole (Eq.symm ?_)
  by_cases near : missing size.count ≤ roundingUp part
  · have up := lt_logb_of_le above below narrow near
    rw [if_pos near]
    exact nearest.count_above below (by omega) small (by linarith) most
  · have down := logb_lt_of_lt above below narrow (Nat.lt_of_not_le near)
      (Nat.lt_of_le_of_lt (missing_le large) (by decide))
    rw [if_neg near]
    exact nearest.count_below above (by omega) small least (by linarith)

/-- The logarithm of a positive magnitude is correctly rounded: it is negative where the real logarithm is,
and else its whole part is that of any magnitude nearest to the real logarithm. -/
theorem log2_eq_of_nearest (size : Magnitude) (positive : 0 < size.count) (rounded : Magnitude)
    (nearest : Nearest (Real.logb 2 size.toReal) rounded) :
    (finite false size).log2 =
      if Real.logb 2 size.toReal < 0 then .negative else .whole (rounded.count / one) := by
  have sign : Real.logb 2 size.toReal < 0 ↔ size.count < one := by
    have above : 0 < size.toReal := div_pos (Nat.cast_pos.2 positive) one_pos_real
    rw [Real.logb_neg_iff one_lt_two above, Magnitude.toReal, div_lt_one one_pos_real, Nat.cast_lt]
  by_cases small : size.count < one
  · rw [if_pos (sign.2 small), log2_finite, if_pos small]
  · rw [if_neg (mt sign.1 small)]
    exact log2_of_nearest (Nat.le_of_not_lt small) nearest

end PowerLimits.Binary64
