/-!
Inclusive bit ranges of a 64-bit register word. A range reads its field, replaces it and leaves
every bit outside alone; the type admits no range that is empty or leaves the word.
-/
namespace PowerLimits

/-- The contents, and also the address, of one register. -/
abbrev Word := BitVec 64

/-- The bits from `lo` up to `hi`, both included. -/
structure BitRange where
  lo : Nat
  hi : Nat
  ordered : lo ≤ hi := by decide
  fits : hi < 64 := by decide
deriving DecidableEq

namespace BitRange

inductive Malformed where
  | inverted
  | tooWide
deriving DecidableEq

def Malformed.message : Malformed → String
  | .inverted => "bit range must satisfy lo <= hi"
  | .tooWide => "bit range must fit in a 64-bit word"

/-- The range from `lo` to `hi`; the order of the ends is checked first. -/
def ofEnds (lo hi : Nat) : Except Malformed BitRange :=
  if ordered : lo ≤ hi then
    if fits : hi < 64 then .ok ⟨lo, hi, ordered, fits⟩ else .error .tooWide
  else .error .inverted

def width (range : BitRange) : Nat := range.hi - range.lo + 1

def largest (range : BitRange) : Word := BitVec.allOnes 64 >>> (64 - range.width)

/-- The field's bits, all set, at their place in the word. -/
def mask (range : BitRange) : Word := range.largest <<< range.lo

def get (range : BitRange) (word : Word) : Word := (word >>> range.lo) &&& range.largest

/-- Any bit of the field is set. -/
def isSet (range : BitRange) (word : Word) : Bool := range.get word != 0

/-- The word with its field set to the low bits of `value`. -/
def replace (range : BitRange) (word value : Word) : Word :=
  (word &&& ~~~range.mask) ||| ((value <<< range.lo) &&& range.mask)

/-- The word with every bit of the field set to `flag`. -/
def setFlag (range : BitRange) (word : Word) (flag : Bool) : Word :=
  range.replace word (if flag then range.largest else 0)

theorem width_le (range : BitRange) : range.width ≤ 64 := by
  have := range.fits
  simp only [width]; omega

theorem getLsbD_largest (range : BitRange) (i : Nat) :
    range.largest.getLsbD i = decide (i < range.width) := by
  have := range.width_le
  simp only [largest, BitVec.getLsbD_ushiftRight, BitVec.getLsbD_allOnes]
  congr 1
  simp only [width] at *
  exact propext ⟨fun h => by omega, fun h => by omega⟩

theorem getLsbD_mask (range : BitRange) (i : Nat) :
    range.mask.getLsbD i = decide (range.lo ≤ i ∧ i ≤ range.hi) := by
  have := range.ordered
  have := range.fits
  rw [Bool.eq_iff_iff]
  simp only [mask, BitVec.getLsbD_shiftLeft, getLsbD_largest, Bool.and_eq_true,
    Bool.not_eq_true', decide_eq_true_eq, decide_eq_false_iff_not]
  simp only [width]
  omega

theorem getLsbD_get (range : BitRange) (word : Word) (i : Nat) :
    (range.get word).getLsbD i = (word.getLsbD (range.lo + i) && decide (i < range.width)) := by
  simp only [get, BitVec.getLsbD_and, BitVec.getLsbD_ushiftRight, getLsbD_largest]

/-- Inside the range the value shows, outside it the old word. -/
theorem getLsbD_replace (range : BitRange) (word value : Word) (i : Nat) :
    (range.replace word value).getLsbD i =
      if range.lo ≤ i ∧ i ≤ range.hi then value.getLsbD (i - range.lo) else word.getLsbD i := by
  have := range.fits
  simp only [replace, BitVec.getLsbD_or, BitVec.getLsbD_and, BitVec.getLsbD_not,
    BitVec.getLsbD_shiftLeft, getLsbD_mask]
  by_cases inside : range.lo ≤ i ∧ i ≤ range.hi
  · have : i < 64 := by omega
    have : ¬ i < range.lo := by omega
    simp [*]
  · by_cases i < 64
    · simp [*]
    · simp [*, BitVec.getLsbD_of_ge _ _ (by omega : 64 ≤ i)]

end BitRange

end PowerLimits
