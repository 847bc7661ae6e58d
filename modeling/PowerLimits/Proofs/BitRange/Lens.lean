import PowerLimits.BitRange

/-! Bit ranges as independent parts of a word. A range reads back the low bits of what was put into
it, and two ranges without a common bit neither see nor disturb each other. -/
namespace PowerLimits.BitRange

def Apart (range other : BitRange) : Prop := range.hi < other.lo ∨ other.hi < range.lo

instance (range other : BitRange) : Decidable (range.Apart other) :=
  inferInstanceAs (Decidable (_ ∨ _))

variable {range other : BitRange}

theorem toNat_largest (range : BitRange) : range.largest.toNat = (1 <<< range.width) - 1 := by
  have narrow := range.width_le
  have split : 2 ^ 64 = 2 ^ (64 - range.width) * 2 ^ range.width := by
    rw [← Nat.pow_add]
    congr 1
    omega
  have positive := Nat.two_pow_pos (64 - range.width)
  simp only [largest, BitVec.toNat_ushiftRight, BitVec.toNat_allOnes, Nat.shiftRight_eq_div_pow]
  rw [split, Nat.mul_sub_div 0 _ _ (Nat.mul_pos positive (Nat.two_pow_pos _)), Nat.zero_div,
    Nat.one_shiftLeft]

theorem toNat_get_le (range : BitRange) (word : Word) :
    (range.get word).toNat ≤ range.largest.toNat := by
  rw [get, BitVec.toNat_and]
  exact Nat.and_le_right

theorem get_replace (range : BitRange) (word value : Word) :
    range.get (range.replace word value) = value &&& range.largest := by
  have ordered := range.ordered
  apply BitVec.eq_of_getLsbD_eq
  intro i _
  rw [getLsbD_get, getLsbD_replace, BitVec.getLsbD_and, getLsbD_largest]
  by_cases inside : i < range.width
  · have placed : range.lo ≤ range.lo + i ∧ range.lo + i ≤ range.hi := by
      simp only [width] at inside
      omega
    rw [if_pos placed, Nat.add_sub_cancel_left]
  · simp only [inside, decide_false, Bool.and_false]

theorem toNat_get_replace (word value : Word) :
    (range.get (range.replace word value)).toNat = value.toNat % (1 <<< range.width) := by
  rw [get_replace, BitVec.toNat_and, toNat_largest, Nat.one_shiftLeft, Nat.and_two_pow_sub_one_eq_mod]

theorem toNat_get_replace_mod (word : Word) (n : Nat) :
    (range.get (range.replace word (BitVec.ofNat 64 n))).toNat = n % (1 <<< range.width) := by
  rw [toNat_get_replace, Nat.one_shiftLeft, BitVec.toNat_ofNat,
    Nat.mod_mod_of_dvd n (Nat.pow_dvd_pow 2 range.width_le)]

theorem toNat_get_replace_ofNat (word : Word) {n : Nat} (fits : n ≤ range.largest.toNat) :
    (range.get (range.replace word (BitVec.ofNat 64 n))).toNat = n := by
  have positive : 0 < 1 <<< range.width := Nat.shiftLeft_pos_iff.2 Nat.one_pos
  rw [toNat_largest] at fits
  rw [toNat_get_replace_mod, Nat.mod_eq_of_lt]
  omega

theorem get_replace_apart (apart : range.Apart other) (word value : Word) :
    other.get (range.replace word value) = other.get word := by
  have ordered := other.ordered
  apply BitVec.eq_of_getLsbD_eq
  intro i _
  rw [getLsbD_get, getLsbD_get, getLsbD_replace]
  by_cases inside : i < other.width
  · have outside : ¬ (range.lo ≤ other.lo + i ∧ other.lo + i ≤ range.hi) := by
      simp only [width] at inside
      simp only [Apart] at apart
      omega
    rw [if_neg outside]
  · simp only [inside, decide_false, Bool.and_false]

theorem replace_comm (apart : range.Apart other) (word value next : Word) :
    range.replace (other.replace word next) value = other.replace (range.replace word value) next := by
  apply BitVec.eq_of_getLsbD_eq
  intro i _
  simp only [getLsbD_replace]
  by_cases inside : range.lo ≤ i ∧ i ≤ range.hi
  · have outside : ¬ (other.lo ≤ i ∧ i ≤ other.hi) := by
      simp only [Apart] at apart
      omega
    rw [if_pos inside, if_neg outside, if_pos inside]
  · simp only [inside, if_false]

/-- A field that is copied has the bits of the word it comes from. -/
theorem getLsbD_replace_get (range : BitRange) (word source : Word) (i : Nat) :
    (range.replace word (range.get source)).getLsbD i =
      if range.lo ≤ i ∧ i ≤ range.hi then source.getLsbD i else word.getLsbD i := by
  rw [getLsbD_replace, getLsbD_get]
  by_cases inside : range.lo ≤ i ∧ i ≤ range.hi
  · have narrow : i - range.lo < range.width := by
      simp only [width]
      omega
    rw [if_pos inside, if_pos inside, Nat.add_sub_cancel' inside.1]
    simp only [narrow, decide_true, Bool.and_true]
  · rw [if_neg inside, if_neg inside]

theorem replace_get (range : BitRange) (word : Word) :
    range.replace word (range.get word) = word := by
  apply BitVec.eq_of_getLsbD_eq
  intro i _
  rw [getLsbD_replace_get, ite_self]

/-- Fields are equal where every bit of them is. -/
theorem get_eq_get_iff {word next : Word} : range.get word = range.get next ↔
    ∀ i, range.lo ≤ i → i ≤ range.hi → word.getLsbD i = next.getLsbD i := by
  constructor
  · intro same i low high
    have bit := congrArg (·.getLsbD (i - range.lo)) same
    have inside : i - range.lo < range.width := by
      simp only [width]
      omega
    simpa only [getLsbD_get, Nat.add_sub_cancel' low, inside, decide_true, Bool.and_true] using bit
  · intro same
    apply BitVec.eq_of_getLsbD_eq
    intro i _
    rw [getLsbD_get, getLsbD_get]
    by_cases inside : i < range.width
    · simp only [width] at inside
      have ordered := range.ordered
      rw [same (range.lo + i) (Nat.le_add_right _ _) (by omega)]
    · simp only [inside, decide_false, Bool.and_false]

theorem isSet_setFlag (range : BitRange) (word : Word) (flag : Bool) :
    range.isSet (range.setFlag word flag) = flag := by
  rw [isSet, setFlag, get_replace]
  cases flag with
  | false =>
    have nothing : (0 : Word) &&& range.largest = 0 := BitVec.zero_and
    simp only [Bool.false_eq_true, if_false, nothing, bne_self_eq_false]
  | true =>
    have lowest : range.largest.getLsbD 0 = true := by
      rw [getLsbD_largest]
      exact decide_eq_true (Nat.succ_pos _)
    have nonzero : range.largest ≠ 0 := by
      intro zero
      rw [zero] at lowest
      contradiction
    simp only [if_true, BitVec.and_self, bne_iff_ne, ne_eq, nonzero, not_false_iff]

/-- The words agree on every bit that is not in the area. -/
def AgreeOutside (area : Nat → Prop) (word other : Word) : Prop :=
  ∀ i, ¬ area i → other.getLsbD i = word.getLsbD i

theorem AgreeOutside.refl (area : Nat → Prop) (word : Word) : AgreeOutside area word word :=
  fun _ _ => rfl

theorem AgreeOutside.trans {area : Nat → Prop} {first second third : Word}
    (before : AgreeOutside area first second) (after : AgreeOutside area second third) :
    AgreeOutside area first third :=
  fun i outside => (after i outside).trans (before i outside)

theorem AgreeOutside.weaken {area wider : Nat → Prop} {word other : Word}
    (within : ∀ i, area i → wider i) (agree : AgreeOutside area word other) :
    AgreeOutside wider word other :=
  fun i outside => agree i (fun inside => outside (within i inside))

theorem agreeOutside_replace {area : Nat → Prop}
    (within : ∀ i, range.lo ≤ i → i ≤ range.hi → area i) (word value : Word) :
    AgreeOutside area word (range.replace word value) := by
  intro i outside
  rw [getLsbD_replace, if_neg]
  intro inside
  exact outside (within i inside.1 inside.2)

end PowerLimits.BitRange
