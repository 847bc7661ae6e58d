import PowerLimits.Binary64.Arith

/-! Where rounding does nothing. A product or a quotient whose significand fits in 53 bits is exact. -/
namespace PowerLimits.Binary64

theorem scale_eq : scale = 1074 := by
  unfold scale
  rfl

theorem one_eq : one = 1 <<< scale := by
  unfold one
  rfl

theorem one_pos : 0 < one := by
  rw [one_eq]
  exact Nat.shiftLeft_pos_iff.2 Nat.one_pos

theorem shiftLeft_mul_shiftLeft (m n i j : Nat) : m <<< i * n <<< j = (m * n) <<< (i + j) := by
  simp only [Nat.shiftLeft_eq, Nat.pow_add]
  exact Nat.mul_mul_mul_comm m (2 ^ i) n (2 ^ j)

theorem representable_shiftLeft {significand shift : Nat} (small : significand < 0x20000000000000)
    (fits : shift ≤ scale + 971) : Representable (significand <<< shift) := by
  refine ⟨?_, spare_bits_zero shift (Nat.le_of_lt small)⟩
  unfold overflow
  rw [Nat.one_shiftLeft, Nat.shiftLeft_eq]
  calc
    significand * 2 ^ shift < 2 ^ 53 * 2 ^ shift :=
      Nat.mul_lt_mul_of_pos_right small (Nat.two_pow_pos shift)
    _ = 2 ^ (53 + shift) := (Nat.pow_add 2 53 shift).symm
    _ ≤ 2 ^ (scale + 1024) := Nat.pow_le_pow_right (by decide) (by omega)

theorem halfEven_mul (quotient : Nat) {den : Nat} (positive : 0 < den) :
    halfEven (quotient * den) den = quotient := by
  unfold halfEven
  rw [Nat.mul_div_cancel quotient positive, Nat.mul_mod_left]
  apply if_neg
  omega

theorem nearestCount_mul {count den : Nat}
    (whole : (count >>> spare count) <<< spare count = count) (positive : 0 < den) :
    nearestCount (count * den) den = count := by
  have product : count * den = (count >>> spare count) * (den <<< spare count) := by
    calc
      count * den = (count >>> spare count) <<< spare count * den := by rw [whole]
      _ = (count >>> spare count) * (den <<< spare count) := by
        rw [Nat.shiftLeft_eq, Nat.shiftLeft_eq, Nat.mul_assoc, Nat.mul_comm den]
  have grid : 0 < den <<< spare count := Nat.shiftLeft_pos_iff.2 positive
  unfold nearestCount
  rw [Nat.mul_div_cancel count positive]
  dsimp only
  rw [product, halfEven_mul _ grid]
  exact whole

theorem div_finite (size : Magnitude) {den : Magnitude} (positive : 0 < den.count) :
    .finite false size / .finite false den = ofCounts false (size.count * one) den.count :=
  if_neg (Nat.ne_of_gt positive)

/-- A nonnegative number with these significant bits, shifted up from the least positive number. -/
def Dyadic (x : Binary64) (significand shift : Nat) : Prop :=
  ∃ representable, x = .finite false ⟨significand <<< shift, representable⟩

theorem dyadic_ofCounts {significand shift num den : Nat} (small : significand < 0x20000000000000)
    (fits : shift ≤ scale + 971) (positive : 0 < den) (exact : num = significand <<< shift * den) :
    Dyadic (ofCounts false num den) significand shift := by
  have representable := representable_shiftLeft small fits
  have nearest : nearestCount num den = significand <<< shift := by
    rw [exact, nearestCount_mul representable.2 positive]
  refine ⟨representable, ?_⟩
  unfold ofCounts
  simp only [nearest]
  exact dif_pos representable.1

theorem dyadic_ofNat {n : Nat} (small : n < 0x20000000000000) : Dyadic (ofNat n) n scale := by
  apply dyadic_ofCounts small (by omega) Nat.one_pos
  rw [one_eq, Nat.one_shiftLeft, Nat.shiftLeft_eq, Nat.mul_one]

theorem dyadic_twoPow {n : Nat} (small : n ≤ 971) : Dyadic (ofNat (1 <<< n)) 1 (n + scale) := by
  apply dyadic_ofCounts (by decide) (by omega) Nat.one_pos
  rw [one_eq, shiftLeft_mul_shiftLeft, Nat.mul_one, Nat.mul_one]

theorem dyadic_halfPow {n : Nat} (small : n ≤ scale) : Dyadic (halfPow n) 1 (scale - n) := by
  apply dyadic_ofCounts (by decide) (by omega) (Nat.shiftLeft_pos_iff.2 Nat.one_pos)
  rw [shiftLeft_mul_shiftLeft, Nat.sub_add_cancel small, one_eq, Nat.one_mul, Nat.one_mul]

namespace Dyadic

variable {x y : Binary64} {l m n i j k : Nat}

theorem mul (left : Dyadic x m i) (right : Dyadic y n j) (product : m * n = l)
    (place : i + j = k + scale) (small : l < 0x20000000000000) (fits : k ≤ scale + 971) :
    Dyadic (x * y) l k := by
  obtain ⟨_, rfl⟩ := left
  obtain ⟨_, rfl⟩ := right
  apply dyadic_ofCounts small fits one_pos
  calc
    m <<< i * n <<< j = (m * n) <<< (i + j) := shiftLeft_mul_shiftLeft m n i j
    _ = (l * 1) <<< (k + scale) := by rw [product, place, Nat.mul_one]
    _ = l <<< k * one := by rw [one_eq, shiftLeft_mul_shiftLeft]

theorem div (left : Dyadic x m i) (right : Dyadic y n j) (quotient : m = l * n)
    (place : i + scale = k + j) (positive : 0 < n) (small : l < 0x20000000000000)
    (fits : k ≤ scale + 971) : Dyadic (x / y) l k := by
  obtain ⟨_, rfl⟩ := left
  obtain ⟨_, rfl⟩ := right
  have divisor : 0 < n <<< j := Nat.shiftLeft_pos_iff.2 positive
  have exact : m <<< i * one = l <<< k * n <<< j := by
    rw [one_eq, shiftLeft_mul_shiftLeft, shiftLeft_mul_shiftLeft, quotient, place, Nat.mul_one]
  rw [div_finite _ divisor]
  exact dyadic_ofCounts small fits divisor exact

theorem truncate (value : Dyadic x m scale) (word : m ≤ largestWord) : x.truncate = m := by
  obtain ⟨_, rfl⟩ := value
  simp only [Binary64.truncate, Bool.false_eq_true, if_false]
  have whole : m <<< scale = m * one := by
    rw [one_eq, Nat.one_shiftLeft, Nat.shiftLeft_eq]
  rw [whole, Nat.mul_div_cancel m one_pos]
  exact Nat.min_eq_left word

end Dyadic

theorem dyadic_of_bounds {size : Magnitude} (low : one ≤ size.count) (high : size.count < 2 * one) :
    ∃ significand, 0 < significand ∧ significand < 0x20000000000000 ∧
      Dyadic (.finite false size) significand (scale - 52) := by
  obtain ⟨count, representable⟩ := size
  dsimp only at low high
  have room : scale + 1 = scale - 52 + 53 := by
    have := scale_eq
    omega
  have positive : 0 < count := Nat.lt_of_lt_of_le one_pos low
  have log : count.log2 = scale := by
    rw [one_eq, Nat.one_shiftLeft] at low high
    rw [Nat.log2_eq_iff (Nat.ne_of_gt positive), Nat.pow_succ, Nat.mul_comm]
    exact ⟨low, high⟩
  have whole : (count >>> (scale - 52)) <<< (scale - 52) = count := by
    have bits := representable.2
    rw [spare, log] at bits
    exact bits
  refine ⟨count >>> (scale - 52), ?_, ?_, whole.symm ▸ representable, ?_⟩
  · apply Nat.pos_of_ne_zero
    intro nothing
    rw [nothing, Nat.zero_shiftLeft] at whole
    omega
  · rw [Nat.shiftRight_eq_div_pow]
    apply Nat.div_lt_of_lt_mul
    calc
      count < 2 * one := high
      _ = 2 ^ (scale - 52) * 2 ^ 53 := by
        rw [← Nat.pow_add, ← room, one_eq, Nat.one_shiftLeft, Nat.pow_succ, Nat.mul_comm]
  · congr
    exact whole.symm

end PowerLimits.Binary64
