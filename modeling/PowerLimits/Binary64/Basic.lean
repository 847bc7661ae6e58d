/-!
Binary floating point numbers of 64 bits. The magnitude of a finite number is a count of the least
positive one, so arithmetic is arithmetic of natural numbers rounded once. The bit pattern of a
nonnegative number is its count, with the trailing zeros that a larger exponent implies left out.
-/
namespace PowerLimits

namespace Binary64

/-- The least positive number is one half to this power. -/
@[irreducible] def scale : Nat := 1074

/-- The count that stands for one. -/
@[irreducible] def one : Nat := 1 <<< scale

/-- Counts from here on are too large for a finite number, which is less than two to the 1024. -/
@[irreducible] def overflow : Nat := 1 <<< (scale + 1024)

/-- How many low bits of a count of this size are zero, so that 53 are left. -/
def spare (count : Nat) : Nat := count.log2 - 52

/-- The count has 53 significant bits at most, and a finite exponent. -/
def Representable (count : Nat) : Prop :=
  count < overflow ∧ (count >>> spare count) <<< spare count = count

instance (count : Nat) : Decidable (Representable count) :=
  inferInstanceAs (Decidable (_ ∧ _))

structure Magnitude where
  count : Nat
  representable : Representable count
deriving DecidableEq

theorem overflow_pos : 0 < overflow := by
  unfold overflow
  rw [Nat.one_shiftLeft]
  exact Nat.two_pow_pos (scale + 1024)

theorem shiftRight_shiftLeft_of_le {n low high : Nat} (order : low ≤ high) :
    ((n <<< high) >>> low) <<< low = n <<< high := by
  simp only [Nat.shiftLeft_eq, Nat.shiftRight_eq_div_pow]
  exact Nat.div_mul_cancel (Nat.dvd_trans (Nat.pow_dvd_pow 2 order) (Nat.dvd_mul_left _ _))

theorem spare_shiftLeft_le {significand : Nat} (shift : Nat)
    (small : significand < 0x20000000000000) : spare (significand <<< shift) ≤ shift := by
  unfold spare
  by_cases zero : significand = 0
  · simp [zero]
  · have below : significand <<< shift < 2 ^ (53 + shift) := by
      rw [Nat.shiftLeft_eq, Nat.pow_add]
      exact Nat.mul_lt_mul_of_pos_right small (Nat.two_pow_pos shift)
    have positive : significand <<< shift ≠ 0 := by
      rw [Nat.shiftLeft_eq]
      exact Nat.mul_ne_zero zero (Nat.ne_of_gt (Nat.two_pow_pos shift))
    have := (Nat.log2_lt positive).2 below
    omega

/-- A significand of up to 53 bits, or the power of two after them, shifted left has zeros enough. -/
theorem spare_bits_zero {significand : Nat} (shift : Nat)
    (small : significand ≤ 0x20000000000000) :
    ((significand <<< shift) >>> spare (significand <<< shift)) <<< spare (significand <<< shift) =
      significand <<< shift := by
  by_cases carry : significand = 0x20000000000000
  · have power : significand <<< shift = 1 <<< (53 + shift) := by
      rw [carry, Nat.shiftLeft_eq, Nat.one_shiftLeft, Nat.pow_add]
    rw [power]
    refine shiftRight_shiftLeft_of_le ?_
    simp only [spare, Nat.one_shiftLeft, Nat.log2_two_pow]
    omega
  · exact shiftRight_shiftLeft_of_le (spare_shiftLeft_le shift (by omega))

theorem representable_zero : Representable 0 := ⟨overflow_pos, by simp⟩

end Binary64

/-- A binary64 value. All that is not a number is one value. -/
inductive Binary64 where
  | nan
  | infinite (negative : Bool)
  | finite (negative : Bool) (size : Binary64.Magnitude)
deriving DecidableEq

namespace Binary64

theorem representable_ofFields {exponent fraction : Nat} (finite : exponent < 2047)
    (fits : fraction < 0x10000000000000) :
    Representable ((if exponent = 0 then fraction else 0x10000000000000 + fraction) <<<
      (exponent - 1)) := by
  generalize equal : (if exponent = 0 then fraction else 0x10000000000000 + fraction) = significand
  have small : significand < 0x20000000000000 := by
    rw [← equal]; split <;> omega
  refine ⟨?_, spare_bits_zero _ (Nat.le_of_lt small)⟩
  unfold overflow
  rw [Nat.one_shiftLeft, Nat.shiftLeft_eq]
  have bound : significand * 2 ^ (exponent - 1) < 2 ^ (53 + (exponent - 1)) := by
    rw [Nat.pow_add]
    exact Nat.mul_lt_mul_of_pos_right small (Nat.two_pow_pos _)
  exact Nat.lt_of_lt_of_le bound
    (Nat.pow_le_pow_right (by decide) (by unfold scale; omega))

def ofBits (bits : BitVec 64) : Binary64 :=
  let exponent := (bits.extractLsb' 52 11).toNat
  let fraction := (bits.extractLsb' 0 52).toNat
  if finite : exponent < 2047 then
    .finite bits.msb ⟨_, representable_ofFields finite (BitVec.isLt (bits.extractLsb' 0 52))⟩
  else if fraction = 0 then .infinite bits.msb
  else .nan

/-- The bits below the sign: the exponent field grows with the zeros left out. -/
def Magnitude.bits (size : Magnitude) : Nat :=
  (spare size.count <<< 52) + (size.count >>> spare size.count)

/-- The bit pattern of a value; that of the value that is no number is the quiet one. -/
def toBits : Binary64 → BitVec 64
  | .nan => 0x7FF8000000000000
  | .infinite negative => signed negative (2047 <<< 52)
  | .finite negative size => signed negative size.bits
where
  signed (negative : Bool) (bits : Nat) : BitVec 64 :=
    (BitVec.ofBool negative).append (BitVec.ofNat 63 bits)

def zero : Binary64 := .finite false ⟨0, representable_zero⟩

instance : Inhabited Binary64 := ⟨zero⟩

protected def neg : Binary64 → Binary64
  | .nan => .nan
  | .infinite negative => .infinite !negative
  | .finite negative size => .finite (!negative) size

instance : Neg Binary64 := ⟨Binary64.neg⟩

def signedCount (negative : Bool) (size : Magnitude) : Int :=
  if negative then -(size.count : Int) else size.count

/-- Strictly less; no comparison with `nan` holds, and the two zeros are equal. -/
def lt : Binary64 → Binary64 → Bool
  | .nan, _ | _, .nan => false
  | .infinite a, .infinite b => a && !b
  | .infinite a, .finite .. => a
  | .finite .., .infinite b => !b
  | .finite a m, .finite b n => signedCount a m < signedCount b n

def le : Binary64 → Binary64 → Bool
  | .nan, _ | _, .nan => false
  | x, y => !lt y x

/-- Strictly greater than zero, so neither a zero nor `nan`. -/
def isPositive (x : Binary64) : Bool := lt zero x

end Binary64

end PowerLimits
