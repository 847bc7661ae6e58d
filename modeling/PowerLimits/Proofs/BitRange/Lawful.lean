import Mathlib.Algebra.Group.Nat.Defs
import PowerLimits.Proofs.BitRange.Lens

/-! Ranges as lenses. What is put into a range is read back as far as it fits, putting back what was read
changes nothing, the last of two puts wins, and ranges without a common bit are independent of each other.
The arithmetic of a range is also given in steps that have no result where a machine word has none: a
shift by as many places as a word has bits, a difference below zero. No range meets with such a step. -/
namespace PowerLimits.BitRange

theorem exists_ofEnds_iff {lo hi : Nat} : (∃ range, ofEnds lo hi = .ok range) ↔ lo ≤ hi ∧ hi < 64 := by
  unfold ofEnds
  by_cases ordered : lo ≤ hi
  · by_cases fits : hi < 64 <;> simp [ordered, fits]
  · simp [ordered]

theorem ends_of_ofEnds {lo hi : Nat} {range : BitRange} (made : ofEnds lo hi = .ok range) :
    range.lo = lo ∧ range.hi = hi := by
  unfold ofEnds at made
  split at made
  · split at made
    · cases Except.ok.inj made
      exact ⟨rfl, rfl⟩
    · contradiction
  · contradiction

theorem replace_replace (range : BitRange) (word value next : Word) :
    range.replace (range.replace word value) next = range.replace word next := by
  apply BitVec.eq_of_getLsbD_eq
  intro i _
  simp only [getLsbD_replace]
  by_cases inside : range.lo ≤ i ∧ i ≤ range.hi
  · rw [if_pos inside, if_pos inside]
  · rw [if_neg inside, if_neg inside, if_neg inside]

namespace Guarded

def difference? (larger smaller : Nat) : Option Nat :=
  if smaller ≤ larger then some (larger - smaller) else none

def shiftLeft? (word : Word) (places : Nat) : Option Word :=
  if places < 64 then some (word <<< places) else none

def shiftRight? (word : Word) (places : Nat) : Option Word :=
  if places < 64 then some (word >>> places) else none

variable (lo hi : Nat)

def width? : Option Nat := do
  return (← difference? hi lo) + 1

/-- The one width that a power of two in a word cannot show is a case of its own. -/
def largest? : Option Word := do
  let width ← width? lo hi
  if width = 64 then return BitVec.allOnes 64
  else
    let power ← shiftLeft? 1 width
    return BitVec.ofNat 64 (← difference? power.toNat 1)

def mask? : Option Word := do
  shiftLeft? (← largest? lo hi) lo

def get? (word : Word) : Option Word := do
  return (← shiftRight? word lo) &&& (← largest? lo hi)

def replace? (word value : Word) : Option Word := do
  let kept := word &&& ~~~(← mask? lo hi)
  return kept ||| ((← shiftLeft? value lo) &&& (← mask? lo hi))

def setFlag? (word : Word) (flag : Bool) : Option Word := do
  replace? lo hi word (← if flag then largest? lo hi else some 0)

variable (range : BitRange)

theorem width?_eq : width? range.lo range.hi = some range.width := by
  simp [width?, difference?, range.ordered, width]

theorem largest?_eq : largest? range.lo range.hi = some range.largest := by
  rw [largest?, width?_eq]
  by_cases whole : range.width = 64
  · have everything : range.largest = BitVec.allOnes 64 := by
      rw [largest, whole]
      exact BitVec.ushiftRight_zero _
    simp [whole, everything]
  · have inside : range.width < 64 := Nat.lt_of_le_of_ne range.width_le whole
    have positive : 1 ≤ 2 ^ range.width := Nat.two_pow_pos range.width
    have power : ((1 : Word) <<< range.width).toNat = 2 ^ range.width := by
      rw [BitVec.toNat_shiftLeft]
      change 1 <<< range.width % 2 ^ 64 = 2 ^ range.width
      rw [Nat.one_shiftLeft]
      exact Nat.mod_eq_of_lt (Nat.pow_lt_pow_right (by decide) inside)
    have value : BitVec.ofNat 64 (2 ^ range.width - 1) = range.largest := by
      rw [← Nat.one_shiftLeft, ← toNat_largest, BitVec.ofNat_toNat, BitVec.setWidth_eq]
    simp only [Option.bind_eq_bind, Option.bind_some, Option.pure_def, if_neg whole, shiftLeft?,
      if_pos inside, difference?, power, if_pos positive, value]

theorem lo_lt : range.lo < 64 := Nat.lt_of_le_of_lt range.ordered range.fits

theorem mask?_eq : mask? range.lo range.hi = some range.mask := by
  simp [mask?, largest?_eq, shiftLeft?, lo_lt, mask]

theorem get?_eq (word : Word) : get? range.lo range.hi word = some (range.get word) := by
  simp [get?, largest?_eq, shiftRight?, lo_lt, get]

theorem replace?_eq (word value : Word) :
    replace? range.lo range.hi word value = some (range.replace word value) := by
  simp [replace?, mask?_eq, shiftLeft?, lo_lt, replace]

theorem setFlag?_eq (word : Word) (flag : Bool) :
    setFlag? range.lo range.hi word flag = some (range.setFlag word flag) := by
  cases flag <;> simp [setFlag?, largest?_eq, replace?_eq, setFlag]

end Guarded

/-- A lens on the bits from `lo` up to `hi`. -/
structure Lawful (range : BitRange) (lo hi : Nat) : Prop where
  reads_back : ∀ word value,
    (range.get (range.replace word value)).toNat = value.toNat % 2 ^ (hi - lo + 1)
  puts_back : ∀ word, range.replace word (range.get word) = word
  last_wins : ∀ word value next,
    range.replace (range.replace word value) next = range.replace word next
  keeps_outside : ∀ word value i, ¬ (lo ≤ i ∧ i ≤ hi) →
    (range.replace word value).getLsbD i = word.getLsbD i
  keeps_apart : ∀ other, range.Apart other → ∀ word value,
    other.get (range.replace word value) = other.get word
  commutes : ∀ other, range.Apart other → ∀ word value next,
    other.replace (range.replace word value) next = range.replace (other.replace word next) value

theorem lawful (range : BitRange) : range.Lawful range.lo range.hi where
  reads_back word value := by
    rw [toNat_get_replace, Nat.one_shiftLeft, width]
  puts_back := range.replace_get
  last_wins := range.replace_replace
  keeps_outside word value i outside := by
    rw [getLsbD_replace, if_neg outside]
  keeps_apart _ apart := get_replace_apart apart
  commutes _ apart word value next := (replace_comm apart word value next).symm

/-- The ends that make a range are those in order and inside the word. Every range is a lens on the bits
between its ends, and what it computes it computes without a step that has no result. -/
theorem lawful_lens (lo hi : Nat) :
    ((∃ range, ofEnds lo hi = .ok range) ↔ lo ≤ hi ∧ hi < 64) ∧
    ∀ range, ofEnds lo hi = .ok range → range.Lawful lo hi ∧
      Guarded.width? lo hi = some range.width ∧
      Guarded.largest? lo hi = some range.largest ∧
      Guarded.mask? lo hi = some range.mask ∧
      ∀ word value flag,
        Guarded.get? lo hi word = some (range.get word) ∧
        Guarded.replace? lo hi word value = some (range.replace word value) ∧
        Guarded.setFlag? lo hi word flag = some (range.setFlag word flag) := by
  refine ⟨exists_ofEnds_iff, fun range made => ?_⟩
  obtain ⟨rfl, rfl⟩ := ends_of_ofEnds made
  exact ⟨range.lawful, Guarded.width?_eq range, Guarded.largest?_eq range, Guarded.mask?_eq range,
    fun word value flag => ⟨Guarded.get?_eq range word, Guarded.replace?_eq range word value,
      Guarded.setFlag?_eq range word flag⟩⟩

/-- The whole word, and a range at its upper end that is given a value too large for it. -/
theorem lawful_lens_upper :
    (∃ whole, ofEnds 0 63 = .ok whole ∧ Guarded.largest? 0 63 = some whole.largest) ∧
    ∃ range other, ofEnds 49 63 = .ok range ∧ range.Apart other ∧
      range.replace 0x0001FFFFFFFFFFFF 0x12345 = 0x468BFFFFFFFFFFFF ∧
      (range.get (range.replace 0x0001FFFFFFFFFFFF 0x12345)).toNat = 0x12345 % 2 ^ 15 ∧
      (range.replace 0x0001FFFFFFFFFFFF 0x12345).getLsbD 48 = true ∧
      other.get (range.replace 0x0001FFFFFFFFFFFF 0x12345) = other.get 0x0001FFFFFFFFFFFF := by
  obtain ⟨_, whole⟩ := lawful_lens 0 63
  obtain ⟨_, upper⟩ := lawful_lens 49 63
  obtain ⟨_, _, largest, _⟩ := whole ⟨0, 63, by decide, by decide⟩ rfl
  obtain ⟨lawful, _⟩ := upper ⟨49, 63, by decide, by decide⟩ rfl
  have apart : (⟨49, 63, by decide, by decide⟩ : BitRange).Apart { lo := 48, hi := 48 } := by decide
  exact ⟨⟨_, rfl, largest⟩, _, _, rfl, apart, by decide, lawful.reads_back _ _,
    lawful.keeps_outside _ _ 48 (by decide), lawful.keeps_apart _ apart _ _⟩

/-- Ends that make no range do meet with such a step. -/
example : Guarded.width? 10 5 = none ∧ Guarded.largest? 0 64 = none ∧
    Guarded.get? 64 127 0 = none := by decide

end PowerLimits.BitRange
