import PowerLimits.Binary64.Basic

/-!
Rounding a nonnegative ratio to the nearest binary64 value, ties to the even significand. The ratio
is first taken as a count of the least positive number; the spare bits of its whole part say how
coarse the grid is there, and one rounding on that grid gives a count that is representable unless
it is too large.
-/
namespace PowerLimits.Binary64

/-- The whole number nearest to `num / den`, the even one of two. -/
def halfEven (num den : Nat) : Nat :=
  let quotient := num / den
  let rest := num % den
  if den < 2 * rest ∨ (2 * rest = den ∧ quotient % 2 = 1) then quotient + 1 else quotient

theorem halfEven_le (num den : Nat) : halfEven num den ≤ num / den + 1 := by
  simp only [halfEven]; split <;> omega

/-- The count nearest to `num / den` among those with 53 significant bits. -/
def nearestCount (num den : Nat) : Nat :=
  let shift := spare (num / den)
  halfEven num (den <<< shift) <<< shift

theorem halfEven_spare_le (num den : Nat) :
    halfEven num (den <<< spare (num / den)) ≤ 0x20000000000000 := by
  refine Nat.le_trans (halfEven_le _ _) ?_
  rw [Nat.shiftLeft_eq, ← Nat.div_div_eq_div_mul]
  suffices num / den / 2 ^ spare (num / den) < 2 ^ 53 from this
  rw [Nat.div_lt_iff_lt_mul (Nat.two_pow_pos _), ← Nat.pow_add]
  refine Nat.lt_of_lt_of_le Nat.lt_log2_self (Nat.pow_le_pow_right (by decide) ?_)
  simp only [spare]; omega

theorem nearestCount_representable {num den : Nat} (fits : nearestCount num den < overflow) :
    Representable (nearestCount num den) :=
  ⟨fits, spare_bits_zero _ (halfEven_spare_le num den)⟩

/-- `num / den` counts of the least positive number, rounded and given a sign. -/
def ofCounts (negative : Bool) (num den : Nat) : Binary64 :=
  if fits : nearestCount num den < overflow then
    .finite negative ⟨nearestCount num den, nearestCount_representable fits⟩
  else .infinite negative

def ofRatio (num den : Nat) : Binary64 := ofCounts false (num * one) den

def ofNat (n : Nat) : Binary64 := ofRatio n 1

def halfPow (n : Nat) : Binary64 := ofRatio 1 (1 <<< n)

end PowerLimits.Binary64
