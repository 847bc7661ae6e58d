import PowerLimits.Proofs.Binary64.Exact

/-! Rounding keeps the order of ratios, and a rounded quotient reaches a power of two only where the
exact one does: two numbers with 53 significant bits differ by too much for it to be rounded up to one. -/
namespace PowerLimits.Binary64

theorem shiftLeft_le_shiftLeft_left {m n : Nat} (order : m ≤ n) (shift : Nat) :
    m <<< shift ≤ n <<< shift := by
  rw [Nat.shiftLeft_eq, Nat.shiftLeft_eq]
  exact Nat.mul_le_mul_right _ order

theorem shiftLeft_le_shiftLeft_right (count : Nat) {i j : Nat} (order : i ≤ j) :
    count <<< i ≤ count <<< j := by
  rw [Nat.shiftLeft_eq, Nat.shiftLeft_eq]
  exact Nat.mul_le_mul_left count (Nat.pow_le_pow_right (by decide) order)

theorem log2_le_log2 {m n : Nat} (order : m ≤ n) : m.log2 ≤ n.log2 := by
  by_cases zero : m = 0
  · rw [zero, Nat.log2_zero]
    exact Nat.zero_le _
  · have positive : n ≠ 0 := by omega
    exact (Nat.le_log2 positive).2 (Nat.le_trans (Nat.log2_self_le zero) order)

theorem spare_le_spare {m n : Nat} (order : m ≤ n) : spare m ≤ spare n :=
  Nat.sub_le_sub_right (log2_le_log2 order) 52

theorem shiftRight_spare_lt (count : Nat) : count >>> spare count < 0x20000000000000 := by
  rw [Nat.shiftRight_eq_div_pow, Nat.div_lt_iff_lt_mul (Nat.two_pow_pos _)]
  change count < 2 ^ 53 * 2 ^ spare count
  rw [← Nat.pow_add]
  refine Nat.lt_of_lt_of_le Nat.lt_log2_self (Nat.pow_le_pow_right (by decide) ?_)
  unfold spare
  omega

theorem le_shiftRight_spare {count : Nat} (large : 0 < spare count) :
    0x10000000000000 ≤ count >>> spare count := by
  have positive : count ≠ 0 := by
    rintro rfl
    contradiction
  have exponent : 52 + spare count = count.log2 := by
    unfold spare at large ⊢
    omega
  rw [Nat.shiftRight_eq_div_pow, Nat.le_div_iff_mul_le (Nat.two_pow_pos _)]
  change 2 ^ 52 * 2 ^ spare count ≤ count
  rw [← Nat.pow_add, exponent]
  exact Nat.log2_self_le positive

theorem one_shiftLeft (shift : Nat) : one <<< shift = 1 <<< (shift + scale) := by
  rw [one_eq, Nat.add_comm, Nat.shiftLeft_add]

theorem one_shiftLeft_lt_iff {i j : Nat} : one <<< i < one <<< j ↔ i < j := by
  rw [Nat.shiftLeft_eq, Nat.shiftLeft_eq, Nat.mul_lt_mul_left one_pos]
  exact Nat.pow_lt_pow_iff_right (by decide)

theorem representable_one_shiftLeft {shift : Nat} (fits : shift ≤ 971) :
    Representable (one <<< shift) := by
  rw [one_shiftLeft]
  exact representable_shiftLeft (by decide) (by omega)

theorem overflow_eq : overflow = one <<< 1024 := by
  unfold overflow
  rw [one_shiftLeft, Nat.add_comm]

/-! The order of ratios. -/

theorem div_le_halfEven (num den : Nat) : num / den ≤ halfEven num den := by
  unfold halfEven
  dsimp only
  split <;> omega

theorem halfEven_le_halfEven {num more : Nat} (den : Nat) (order : num ≤ more) :
    halfEven num den ≤ halfEven more den := by
  obtain less | same := Nat.lt_or_eq_of_le (Nat.div_le_div_right order : num / den ≤ more / den)
  · calc
      halfEven num den ≤ num / den + 1 := halfEven_le num den
      _ ≤ more / den := less
      _ ≤ halfEven more den := div_le_halfEven more den
  · have rest : num % den ≤ more % den := by
      have first := Nat.div_add_mod num den
      have second := Nat.div_add_mod more den
      rw [same] at first
      omega
    unfold halfEven
    dsimp only
    rw [same]
    split <;> split <;> omega

theorem nearestCount_le_nearestCount {num more : Nat} (den : Nat) (order : num ≤ more) :
    nearestCount num den ≤ nearestCount more den := by
  have quotients : num / den ≤ more / den := Nat.div_le_div_right order
  obtain less | same := Nat.lt_or_eq_of_le (spare_le_spare quotients)
  · -- The smaller one stays at or below the power of two at which the coarser grid begins.
    have grid : 53 + spare (num / den) ≤ 52 + spare (more / den) := by omega
    have normal : 0 < spare (more / den) := by omega
    have top : 0x10000000000000 ≤ halfEven more (den <<< spare (more / den)) := by
      refine Nat.le_trans (le_shiftRight_spare normal) ?_
      rw [Nat.shiftRight_eq_div_pow, Nat.div_div_eq_div_mul, ← Nat.shiftLeft_eq]
      exact div_le_halfEven _ _
    calc
      nearestCount num den ≤ 0x20000000000000 <<< spare (num / den) :=
        shiftLeft_le_shiftLeft_left (halfEven_spare_le num den) _
      _ = 2 ^ (53 + spare (num / den)) := by rw [Nat.shiftLeft_eq, Nat.pow_add]
      _ ≤ 2 ^ (52 + spare (more / den)) := Nat.pow_le_pow_right (by decide) grid
      _ = 0x10000000000000 <<< spare (more / den) := by rw [Nat.shiftLeft_eq, Nat.pow_add]
      _ ≤ nearestCount more den := shiftLeft_le_shiftLeft_left top _
  · unfold nearestCount
    dsimp only
    rw [same]
    exact shiftLeft_le_shiftLeft_left (halfEven_le_halfEven _ order) _

theorem nearestCount_le {count num den : Nat} (representable : Representable count)
    (positive : 0 < den) (order : num ≤ count * den) : nearestCount num den ≤ count :=
  Nat.le_trans (nearestCount_le_nearestCount den order)
    (Nat.le_of_eq (nearestCount_mul representable.2 positive))

theorem le_nearestCount {count num den : Nat} (representable : Representable count)
    (positive : 0 < den) (order : count * den ≤ num) : count ≤ nearestCount num den :=
  Nat.le_trans (Nat.le_of_eq (nearestCount_mul representable.2 positive).symm)
    (nearestCount_le_nearestCount den order)

/-! Powers of two among quotients. -/

/-- Of two different magnitudes the smaller is less by one significand in 53 bits at least. -/
theorem mul_le_mul_of_lt (size other : Magnitude) (less : size.count < other.count) :
    size.count * 0x20000000000000 ≤ other.count * 0x1FFFFFFFFFFFFF := by
  obtain ⟨m, _, whole⟩ := size
  obtain ⟨n, _, wholeOther⟩ := other
  dsimp only at less ⊢
  have small := shiftRight_spare_lt m
  rw [Nat.shiftLeft_eq] at whole wholeOther
  -- Significands are compared on one grid, or the larger number is of a coarser one and has all 53 bits.
  obtain coarser | same := Nat.lt_or_eq_of_le (spare_le_spare (Nat.le_of_lt less))
  · have top := le_shiftRight_spare (Nat.lt_of_le_of_lt (Nat.zero_le _) coarser)
    have grid : 2 ^ spare m * 2 ≤ 2 ^ spare n := by
      rw [← Nat.pow_succ]
      exact Nat.pow_le_pow_right (by decide) coarser
    calc
      m * 0x20000000000000 = (m >>> spare m) * 2 ^ spare m * 0x20000000000000 := by rw [whole]
      _ ≤ 0x1FFFFFFFFFFFFF * 2 ^ spare m * 0x20000000000000 :=
        Nat.mul_le_mul_right _ (Nat.mul_le_mul_right _ (by omega))
      _ = 0x10000000000000 * (2 ^ spare m * 2) * 0x1FFFFFFFFFFFFF := by omega
      _ ≤ (n >>> spare n) * 2 ^ spare n * 0x1FFFFFFFFFFFFF :=
        Nat.mul_le_mul_right _ (Nat.mul_le_mul top grid)
      _ = n * 0x1FFFFFFFFFFFFF := by rw [wholeOther]
  · have smallOther := shiftRight_spare_lt n
    rw [same] at whole small
    have next : m >>> spare n < n >>> spare n := by
      apply Nat.lt_of_mul_lt_mul_right (a := 2 ^ spare n)
      rw [whole, wholeOther]
      exact less
    calc
      m * 0x20000000000000 = (m >>> spare n) * 0x20000000000000 * 2 ^ spare n := by
        rw [Nat.mul_right_comm, whole]
      _ ≤ (n >>> spare n) * 0x1FFFFFFFFFFFFF * 2 ^ spare n :=
        Nat.mul_le_mul_right _ (by omega)
      _ = n * 0x1FFFFFFFFFFFFF := by rw [Nat.mul_right_comm, wholeOther]

/-- A quotient that falls short of a power of two by some significands is rounded to one that does. -/
theorem nearestCount_le_of_short {size den : Nat} {significand shift : Nat}
    (small : significand < 0x20000000000000) (fits : shift ≤ 1024) (positive : 0 < den)
    (short : size * 0x20000000000000 ≤ den <<< shift * significand) :
    nearestCount (size * one) den ≤ significand <<< (shift + scale - 53) := by
  have room : shift + scale - 53 + 53 = shift + scale := by
    have := scale_eq
    omega
  apply nearestCount_le (representable_shiftLeft small (by omega)) positive
  refine Nat.le_of_mul_le_mul_right (c := 2 ^ 53) ?_ (Nat.two_pow_pos 53)
  calc
    size * one * 2 ^ 53 = size * 0x20000000000000 * one := Nat.mul_right_comm size one (2 ^ 53)
    _ ≤ den <<< shift * significand * one := Nat.mul_le_mul_right one short
    _ = significand * 2 ^ (shift + scale) * den := by
      rw [one_eq, Nat.one_shiftLeft, Nat.shiftLeft_eq, Nat.pow_add]
      ac_rfl
    _ = significand <<< (shift + scale - 53) * den * 2 ^ 53 := by
      rw [Nat.shiftLeft_eq, ← room, Nat.add_sub_cancel, Nat.pow_add]
      ac_rfl

theorem one_shiftLeft_le_nearestCount_iff {size den : Magnitude} {shift : Nat}
    (positive : 0 < den.count) (reach : Representable (den.count <<< shift)) (fits : shift ≤ 971) :
    one <<< shift ≤ nearestCount (size.count * one) den.count ↔
      den.count <<< shift ≤ size.count := by
  constructor
  · intro reached
    apply Classical.byContradiction
    intro short
    have short := mul_le_mul_of_lt size ⟨_, reach⟩ (Nat.lt_of_not_le short)
    have below := nearestCount_le_of_short (by decide) (by omega) positive short
    have less : 0x1FFFFFFFFFFFFF <<< (shift + scale - 53) < one <<< shift := by
      have room : shift + scale = 53 + (shift + scale - 53) := by
        have := scale_eq
        omega
      rw [one_shiftLeft, Nat.one_shiftLeft, room, Nat.pow_add, Nat.add_sub_cancel_left,
        Nat.shiftLeft_eq]
      exact Nat.mul_lt_mul_of_pos_right (by decide) (Nat.two_pow_pos _)
    exact Nat.not_lt.2 (Nat.le_trans reached below) less
  · intro reached
    apply le_nearestCount (representable_one_shiftLeft fits) positive
    calc
      one <<< shift * den.count = den.count <<< shift * one := by
        rw [Nat.shiftLeft_eq, Nat.shiftLeft_eq]
        ac_rfl
      _ ≤ size.count * one := Nat.mul_le_mul_right one reached

end PowerLimits.Binary64
