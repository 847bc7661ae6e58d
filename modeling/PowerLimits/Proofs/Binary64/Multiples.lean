import PowerLimits.Proofs.Binary64.Rounding

/-! Counts of a unit. Ratios that are two steps of the grid apart are rounded to different numbers, and the
whole multiples of a unit are further apart than that while the multiplier is small beside the significand.
So no two counts come to the same number, whatever the unit was rounded to. -/
namespace PowerLimits.Binary64

theorem nearestCount_lt_nearestCount {num more den : Nat} (positive : 0 < den)
    (apart : num + 2 * (den <<< spare (more / den)) ≤ more) :
    nearestCount num den < nearestCount more den := by
  have fits := halfEven_spare_le more den
  have above : (more / (den <<< spare (more / den))) <<< spare (more / den) ≤
      nearestCount more den := shiftLeft_le_shiftLeft_left (div_le_halfEven _ _) _
  have floor := div_le_halfEven more (den <<< spare (more / den))
  generalize spare (more / den) = shift at apart fits above floor
  have grid : 0 < den <<< shift := Nat.shiftLeft_pos_iff.2 positive
  -- The grid point below the larger ratio and the one before it separate the two.
  obtain ⟨point, last⟩ : ∃ point, more / (den <<< shift) = point + 1 := by
    refine Nat.exists_eq_add_one.2 (Nat.div_pos ?_ grid)
    omega
  rw [last] at above floor
  have whole := @spare_bits_zero point shift (by omega)
  have order : num ≤ point <<< shift * den := by
    have next := Nat.lt_mul_div_succ more grid
    rw [last, Nat.mul_succ, Nat.mul_succ] at next
    have product : point <<< shift * den = den <<< shift * point := by
      rw [Nat.shiftLeft_eq, Nat.shiftLeft_eq]
      ac_rfl
    omega
  calc
    nearestCount num den ≤ nearestCount (point <<< shift * den) den :=
      nearestCount_le_nearestCount den order
    _ = point <<< shift := nearestCount_mul whole positive
    _ < (point + 1) <<< shift := by
      rw [Nat.shiftLeft_eq, Nat.shiftLeft_eq]
      exact Nat.mul_lt_mul_of_pos_right (Nat.lt_succ_self point) (Nat.two_pow_pos shift)
    _ ≤ nearestCount more den := above

/-- Two steps of the grid at a small multiple of a unit are no more than the unit. -/
theorem two_steps_le {unit n : Nat} (wide : 2 ≤ unit) (few : n ≤ 0x8000000000000) :
    2 * (1 <<< spare (n * unit)) ≤ unit := by
  obtain fine | coarse := Nat.eq_zero_or_pos (spare (n * unit))
  · rw [fine]
    exact wide
  · have top := le_shiftRight_spare coarse
    rw [Nat.shiftRight_eq_div_pow, Nat.le_div_iff_mul_le (Nat.two_pow_pos _)] at top
    have bound : n * unit ≤ 0x8000000000000 * unit := Nat.mul_le_mul_right unit few
    rw [Nat.one_shiftLeft]
    omega

theorem nearestCount_multiple_lt {unit m n : Nat} (wide : 2 ≤ unit) (less : m < n)
    (few : n ≤ 0x8000000000000) :
    nearestCount (m * unit * one) one < nearestCount (n * unit * one) one := by
  apply nearestCount_lt_nearestCount one_pos
  rw [Nat.mul_div_cancel _ one_pos]
  have steps := two_steps_le wide few
  have next : m * unit + unit ≤ n * unit := by
    rw [← Nat.succ_mul]
    exact Nat.mul_le_mul_right unit less
  calc
    m * unit * one + 2 * one <<< spare (n * unit) =
        (m * unit + 2 * 1 <<< spare (n * unit)) * one := by
      rw [Nat.shiftLeft_eq, Nat.one_shiftLeft, Nat.add_mul]
      ac_rfl
    _ ≤ n * unit * one := Nat.mul_le_mul_right one (by omega)

/-- A unit of at most one, and more than the least positive number. -/
structure IsCountUnit (size : Magnitude) : Prop where
  wide : 2 ≤ size.count
  most : size.count ≤ one

/-- A ratio of at most one is a unit if it is not too small. -/
theorem exists_unit_ofRatio {num den shift : Nat} (few : shift < scale) (positive : 0 < den)
    (most : num ≤ den) (least : den ≤ num <<< shift) :
    ∃ size, IsCountUnit size ∧ ofRatio num den = finite false size := by
  have above : nearestCount (num * one) den ≤ one := by
    refine nearestCount_le (representable_one_shiftLeft (Nat.zero_le 971)) positive ?_
    rw [Nat.mul_comm]
    exact Nat.mul_le_mul_left one most
  have below : 1 <<< (scale - shift) ≤ nearestCount (num * one) den := by
    refine le_nearestCount (representable_shiftLeft (by decide) (by omega)) positive ?_
    calc
      1 <<< (scale - shift) * den ≤ 1 <<< (scale - shift) * num <<< shift :=
        Nat.mul_le_mul_left _ least
      _ = num * one := by
        rw [shiftLeft_mul_shiftLeft, Nat.sub_add_cancel (Nat.le_of_lt few), one_eq, Nat.one_mul,
          Nat.one_shiftLeft, Nat.shiftLeft_eq]
  have wide : 2 ≤ 1 <<< (scale - shift) := shiftLeft_le_shiftLeft_right 1 (by omega : 1 ≤ _)
  have finite : nearestCount (num * one) den < overflow := by
    rw [overflow_eq]
    exact Nat.lt_of_le_of_lt above (one_shiftLeft_lt_iff (i := 0).2 (by decide))
  exact ⟨⟨_, nearestCount_representable finite⟩, ⟨Nat.le_trans wide below, above⟩, dif_pos finite⟩

theorem exists_unit_halfPow {n : Nat} (few : n < scale) :
    ∃ size, IsCountUnit size ∧ halfPow n = finite false size := by
  have positive : 0 < 1 <<< n := Nat.shiftLeft_pos_iff.2 Nat.one_pos
  exact exists_unit_ofRatio few positive positive (Nat.le_refl _)

namespace IsCountUnit

variable {unit : Magnitude} (isUnit : IsCountUnit unit) {m n : Nat}

include isUnit

/-- Counts of 32 bits and the one after them stay finite. -/
theorem exists_mul (few : n ≤ 0x100000000) : ∃ product : Magnitude,
    ofNat n * finite false unit = finite false product ∧
      product.count = nearestCount (n * unit.count * one) one := by
  obtain ⟨_, whole⟩ := dyadic_ofNat (n := n) (by omega)
  have exact : n <<< scale * unit.count = n * unit.count * one := by
    rw [one_eq, Nat.shiftLeft_eq, Nat.one_shiftLeft]
    ac_rfl
  have bound : nearestCount (n * unit.count * one) one ≤ one <<< 32 := by
    refine nearestCount_le (representable_one_shiftLeft (by decide)) one_pos ?_
    rw [Nat.shiftLeft_eq, Nat.mul_comm one]
    exact Nat.mul_le_mul_right one (Nat.mul_le_mul few isUnit.most)
  have finite : nearestCount (n * unit.count * one) one < overflow := by
    rw [overflow_eq]
    exact Nat.lt_of_le_of_lt bound (one_shiftLeft_lt_iff.2 (by decide))
  refine ⟨⟨_, nearestCount_representable finite⟩, ?_, rfl⟩
  rw [whole]
  change ofCounts false (n <<< scale * unit.count) one = _
  rw [exact]
  exact dif_pos finite

theorem mul_lt_mul_iff (few : m ≤ 0x100000000) (fewer : n ≤ 0x100000000) :
    (ofNat m * finite false unit).lt (ofNat n * finite false unit) ↔ m < n := by
  obtain ⟨first, firstEq, firstCount⟩ := isUnit.exists_mul few
  obtain ⟨second, secondEq, secondCount⟩ := isUnit.exists_mul fewer
  rw [firstEq, secondEq]
  change decide ((first.count : Int) < second.count) = true ↔ m < n
  rw [decide_eq_true_iff, Int.ofNat_lt, firstCount, secondCount]
  refine ⟨fun order => ?_, fun less => nearestCount_multiple_lt isUnit.wide less (by omega)⟩
  apply Nat.lt_of_not_le
  intro reverse
  exact Nat.not_le.2 order (nearestCount_le_nearestCount one
    (Nat.mul_le_mul_right one (Nat.mul_le_mul_right unit.count reverse)))

theorem mul_eq_mul_iff (few : m ≤ 0x100000000) (fewer : n ≤ 0x100000000) :
    ofNat m * finite false unit = ofNat n * finite false unit ↔ m = n := by
  have self : ¬ (ofNat n * finite false unit).lt (ofNat n * finite false unit) := by
    rw [isUnit.mul_lt_mul_iff fewer fewer]
    exact Nat.lt_irrefl n
  refine ⟨fun same => ?_, fun same => same ▸ rfl⟩
  obtain less | equal | more := Nat.lt_trichotomy m n
  · have order := (isUnit.mul_lt_mul_iff few fewer).2 less
    rw [same] at order
    contradiction
  · exact equal
  · have order := (isUnit.mul_lt_mul_iff fewer few).2 more
    rw [same] at order
    contradiction

theorem zero_le_mul (few : n ≤ 0x100000000) : zero.le (ofNat n * finite false unit) := by
  obtain ⟨product, equal, _⟩ := isUnit.exists_mul few
  rw [equal]
  have counts : ¬ signedCount false product < signedCount false ⟨0, representable_zero⟩ :=
    Int.not_lt.2 (Int.natCast_nonneg product.count)
  exact congrArg not (decide_eq_false counts)

end IsCountUnit

end PowerLimits.Binary64
