import Mathlib.Algebra.Order.Floor.Semifield
import Mathlib.Data.ENat.Lattice
import Mathlib.Data.Rat.Floor
import Mathlib.Tactic.FieldSimp
import PowerLimits.Proofs.Binary64.Rounding

/-! The rational number that a finite value stands for. Comparison is comparison of these numbers, and a
quotient by a power of one half is truncated to its exact whole part. -/
namespace PowerLimits.Binary64

def toRat? : Binary64 → Option ℚ
  | .finite negative size => some ((signedCount negative size : ℚ) / one)
  | _ => none

variable {x y : Binary64} {value other : ℚ}

theorem one_cast_pos : (0 : ℚ) < one := Nat.cast_pos.2 one_pos

theorem one_cast : (one : ℚ) = 2 ^ scale := by
  rw [one_eq, Nat.one_shiftLeft, Nat.cast_pow, Nat.cast_ofNat]

theorem toRat?_finite (size : Magnitude) :
    (finite false size).toRat? = some ((size.count : ℚ) / one) := by
  simp only [toRat?, signedCount, Bool.false_eq_true, if_false, Int.cast_natCast]

theorem lt_iff_of_toRat? (left : x.toRat? = some value) (right : y.toRat? = some other) :
    x.lt y ↔ value < other := by
  cases x with
  | finite a m =>
    cases y with
    | finite b n =>
      cases Option.some.inj left
      cases Option.some.inj right
      rw [div_lt_div_iff_of_pos_right one_cast_pos, Int.cast_lt]
      exact decide_eq_true_iff
    | _ => contradiction
  | _ => contradiction

theorem le_iff_of_toRat? (left : x.toRat? = some value) (right : y.toRat? = some other) :
    x.le y ↔ value ≤ other := by
  have order := lt_iff_of_toRat? right left
  cases x with
  | finite a m =>
    cases y with
    | finite b n =>
      change (!(finite b n).lt (finite a m)) = true ↔ _
      rw [Bool.not_eq_true', ← not_lt, ← order, Bool.not_eq_true]
    | _ => contradiction
  | _ => contradiction

/-- A value greater than zero is a positive magnitude or infinite. -/
theorem isPositive_cases (positive : x.isPositive) :
    (∃ size : Magnitude, 0 < size.count ∧ x = finite false size) ∨ x = infinite false := by
  cases x with
  | nan => contradiction
  | infinite negative =>
    cases negative with
    | false => exact .inr rfl
    | true => contradiction
  | finite negative size =>
    have positive := of_decide_eq_true positive
    cases negative with
    | false =>
      simp only [signedCount, Bool.false_eq_true, if_false] at positive
      exact .inl ⟨size, by omega, rfl⟩
    | true =>
      simp only [signedCount, Bool.false_eq_true, if_false, if_true] at positive
      omega

theorem isPositive_finite {size : Magnitude} (positive : 0 < size.count) :
    (finite false size).isPositive := by
  apply decide_eq_true
  simp only [signedCount, Bool.false_eq_true, if_false]
  omega

theorem nonneg_of_isPositive (positive : x.isPositive) (number : x.toRat? = some value) :
    0 ≤ value := by
  obtain ⟨size, _, rfl⟩ | rfl := isPositive_cases positive
  · cases Option.some.inj ((toRat?_finite size).symm.trans number)
    exact div_nonneg (Nat.cast_nonneg _) one_cast_pos.le
  · contradiction

theorem eq_finite_of_toRat? (number : x.toRat? = some value) (positive : 0 < value) :
    ∃ size : Magnitude, x = finite false size ∧ value = size.count / one := by
  cases x with
  | finite negative size =>
    cases negative with
    | false => exact ⟨size, rfl, Option.some.inj (number.symm.trans (toRat?_finite size))⟩
    | true =>
      cases Option.some.inj number
      have negated : (signedCount true size : ℚ) ≤ 0 := by
        simp [signedCount]
      exact absurd (div_nonpos_of_nonpos_of_nonneg negated one_cast_pos.le) (not_le.2 positive)
  | _ => contradiction

theorem le_cases (positive : x.isPositive) (order : x.le y) :
    y = infinite false ∨
      ∃ m n : Magnitude, x = finite false m ∧ y = finite false n ∧ m.count ≤ n.count := by
  obtain ⟨m, _, rfl⟩ | rfl := isPositive_cases positive
  · cases y with
    | nan => contradiction
    | infinite negative =>
      cases negative with
      | false => exact .inl rfl
      | true => contradiction
    | finite negative n =>
      have counts : signedCount false m ≤ signedCount negative n := by
        have values := (le_iff_of_toRat? rfl rfl).1 order
        rwa [div_le_div_iff_of_pos_right one_cast_pos, Int.cast_le] at values
      cases negative with
      | false =>
        simp only [signedCount, Bool.false_eq_true, if_false] at counts
        exact .inr ⟨m, n, rfl, rfl, by omega⟩
      | true =>
        simp only [signedCount, Bool.false_eq_true, if_false, if_true] at counts
        omega
  · cases y with
    | infinite negative =>
      cases negative with
      | false => exact .inl rfl
      | true => contradiction
    | _ => contradiction

theorem eq_of_toRat? (left : x.toRat? = some value) (right : y.toRat? = some value)
    (positive : 0 < value) : x = y := by
  obtain ⟨m, rfl, number⟩ := eq_finite_of_toRat? left positive
  obtain ⟨n, rfl, same⟩ := eq_finite_of_toRat? right positive
  have counts : m.count = n.count := by
    rw [number, div_left_inj' one_cast_pos.ne', Nat.cast_inj] at same
    exact same
  obtain ⟨m, _⟩ := m
  obtain ⟨n, _⟩ := n
  cases counts
  rfl

theorem Dyadic.toRat?_eq {significand shift : Nat} (exact : Dyadic x significand shift) :
    x.toRat? = some ((significand : ℚ) * 2 ^ shift / 2 ^ scale) := by
  obtain ⟨_, rfl⟩ := exact
  rw [toRat?_finite, one_cast]
  dsimp only
  rw [Nat.shiftLeft_eq, Nat.cast_mul, Nat.cast_pow, Nat.cast_ofNat]

theorem toRat?_halfPow {halvings : Nat} (few : halvings ≤ scale) :
    (halfPow halvings).toRat? = some (1 / 2 ^ halvings : ℚ) := by
  rw [(dyadic_halfPow few).toRat?_eq, Nat.cast_one, one_mul]
  congr 1
  rw [div_eq_div_iff (by positivity) (by positivity), one_mul, ← pow_add, Nat.sub_add_cancel few]

theorem toRat?_ofNat {n : Nat} (small : n < 0x20000000000000) : (ofNat n).toRat? = some (n : ℚ) := by
  rw [(dyadic_ofNat small).toRat?_eq, mul_div_assoc, div_self (by positivity), mul_one]

/-! Quotients by a power of one half. -/

theorem whole_shiftLeft {count : Nat} (whole : (count >>> spare count) <<< spare count = count)
    (shift : Nat) : ((count <<< shift) >>> spare (count <<< shift)) <<< spare (count <<< shift) =
      count <<< shift := by
  have moved : count <<< shift = (count >>> spare count) <<< (spare count + shift) := by
    rw [Nat.shiftLeft_add, whole]
  rw [moved]
  exact spare_bits_zero _ (Nat.le_of_lt (shiftRight_spare_lt count))

theorem nearestCount_halfPow (size : Magnitude) {halvings : Nat} (few : halvings ≤ scale) :
    nearestCount (size.count * one) (1 <<< (scale - halvings)) = size.count <<< halvings := by
  have positive : 0 < 1 <<< (scale - halvings) := Nat.shiftLeft_pos_iff.2 Nat.one_pos
  have exact : size.count * one = size.count <<< halvings * 1 <<< (scale - halvings) := by
    rw [shiftLeft_mul_shiftLeft, Nat.add_sub_cancel' few, one_eq, Nat.shiftLeft_eq, Nat.shiftLeft_eq,
      Nat.mul_one, Nat.one_mul]
  rw [exact, nearestCount_mul (whole_shiftLeft size.representable.2 halvings) positive]

theorem truncate_ofCounts (num den : Nat) :
    (ofCounts false num den).truncate = min (nearestCount num den / one) largestWord := by
  unfold ofCounts
  by_cases fits : nearestCount num den < overflow
  · rw [dif_pos fits]
    rfl
  · have beyond : largestWord * one ≤ nearestCount num den := by
      calc
        largestWord * one ≤ one <<< 64 := by
          rw [Nat.shiftLeft_eq, Nat.mul_comm]
          exact Nat.mul_le_mul_left one (by decide)
        _ ≤ one <<< 1024 := Nat.le_of_lt (one_shiftLeft_lt_iff.2 (by decide))
        _ = overflow := overflow_eq.symm
        _ ≤ nearestCount num den := Nat.le_of_not_lt fits
    rw [dif_neg fits, Nat.min_eq_right ((Nat.le_div_iff_mul_le one_pos).2 beyond)]
    rfl

/-- The exact whole part of a quotient by a power of one half, as far as a word holds it. -/
theorem truncate_div_halfPow (size : Magnitude) {halvings : Nat} (few : halvings ≤ scale) :
    (finite false size / halfPow halvings).truncate =
      min (size.count <<< halvings / one) largestWord := by
  obtain ⟨representable, unit⟩ := dyadic_halfPow few
  rw [unit, div_finite size (Nat.shiftLeft_pos_iff.2 Nat.one_pos), truncate_ofCounts,
    nearestCount_halfPow size few]

/-- The whole units in a quantity, more than any number if it is infinite. -/
def wholeUnits (unit : ℚ) (x : Binary64) : ℕ∞ := x.toRat?.elim ⊤ fun value => (⌊value / unit⌋₊ : ℕ)

theorem wholeUnits_of_toRat? (unit : ℚ) (number : x.toRat? = some value) :
    x.wholeUnits unit = (⌊value / unit⌋₊ : ℕ) := by
  rw [wholeUnits, number, Option.elim_some]

theorem natCast_min (m n : ℕ) : ((min m n : ℕ) : ℕ∞) = min (m : ℕ∞) n := Nat.mono_cast.map_min

end PowerLimits.Binary64
