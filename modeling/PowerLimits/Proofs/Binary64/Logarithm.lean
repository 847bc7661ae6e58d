import PowerLimits.Binary64.Log2
import PowerLimits.Proofs.Binary64.Rounding

/-! The whole part of a rounded logarithm, as a function of the count. It never decreases, and it is the
exact whole part or, of a count that few significands keep from the next power of two, one more. So the
logarithm is one of those that never decrease and are exact at powers of two. -/
namespace PowerLimits.Binary64

/-- How many significands a count is below the next power of two. -/
def missing (count : Nat) : Nat := 0x20000000000000 - count >>> spare count

/-- The whole part that the logarithm of a count shows, or zero where that is negative. -/
def wholeLog (count : Nat) : Nat :=
  if count < one then 0
  else
    let part := count.log2 - one.log2
    if missing count ≤ roundingUp part then part + 1 else part

variable {count more part : Nat}

theorem log2_of_binade (low : one <<< part ≤ count) (high : count < one <<< (part + 1)) :
    count.log2 = part + scale := by
  rw [one_shiftLeft, Nat.one_shiftLeft] at low high
  have positive := Nat.lt_of_lt_of_le (Nat.two_pow_pos (part + scale)) low
  rw [Nat.log2_eq_iff (Nat.ne_of_gt positive)]
  rw [Nat.add_right_comm] at high
  exact ⟨low, high⟩

theorem scale_le_log2 (large : one ≤ count) : scale ≤ count.log2 := by
  rw [Nat.le_log2 (Nat.ne_of_gt (Nat.lt_of_lt_of_le one_pos large)), ← Nat.one_shiftLeft, ← one_eq]
  exact large

theorem exists_binade (large : one ≤ count) :
    ∃ part, one <<< part ≤ count ∧ count < one <<< (part + 1) := by
  have positive : count ≠ 0 := Nat.ne_of_gt (Nat.lt_of_lt_of_le one_pos large)
  have above := scale_le_log2 large
  refine ⟨count.log2 - scale, ?_, ?_⟩
  · rw [one_shiftLeft, Nat.sub_add_cancel above, Nat.one_shiftLeft]
    exact Nat.log2_self_le positive
  · rw [one_shiftLeft, Nat.add_right_comm, Nat.sub_add_cancel above, Nat.one_shiftLeft]
    exact Nat.lt_log2_self

theorem one_le_of_shiftLeft_le (low : one <<< part ≤ count) : one ≤ count :=
  Nat.le_trans Nat.le_shiftLeft low

theorem wholeLog_eq_zero (small : count < one) : wholeLog count = 0 := if_pos small

theorem wholeLog_of_binade (low : one <<< part ≤ count) (high : count < one <<< (part + 1)) :
    wholeLog count = if missing count ≤ roundingUp part then part + 1 else part := by
  have zero : one.log2 = scale := by rw [one_eq, Nat.one_shiftLeft, Nat.log2_two_pow]
  have place : count.log2 - one.log2 = part := by
    rw [log2_of_binade low high, zero, Nat.add_sub_cancel]
  unfold wholeLog
  rw [if_neg (Nat.not_lt.2 (one_le_of_shiftLeft_le low)), place]

theorem le_wholeLog (low : one <<< part ≤ count) : part ≤ wholeLog count := by
  obtain ⟨exact, least, most⟩ := exists_binade (one_le_of_shiftLeft_le low)
  have below := one_shiftLeft_lt_iff.1 (Nat.lt_of_le_of_lt low most)
  rw [wholeLog_of_binade least most]
  split <;> omega

theorem missing_le_missing (order : count ≤ more) (same : count.log2 = more.log2) :
    missing more ≤ missing count := by
  apply Nat.sub_le_sub_left
  rw [spare, spare, same, Nat.shiftRight_eq_div_pow, Nat.shiftRight_eq_div_pow]
  exact Nat.div_le_div_right order

theorem wholeLog_le_wholeLog (order : count ≤ more) : wholeLog count ≤ wholeLog more := by
  by_cases small : count < one
  · rw [wholeLog_eq_zero small]
    exact Nat.zero_le _
  · obtain ⟨part, low, high⟩ := exists_binade (Nat.le_of_not_lt small)
    rw [wholeLog_of_binade low high]
    -- More is past the power of two that rounding up reaches, or it lacks no more significands of it.
    by_cases beyond : one <<< (part + 1) ≤ more
    · have reached := le_wholeLog beyond
      split <;> omega
    · have least := Nat.le_trans low order
      have most := Nat.lt_of_not_le beyond
      have fewer := missing_le_missing order
        ((log2_of_binade low high).trans (log2_of_binade least most).symm)
      rw [wholeLog_of_binade least most]
      split <;> split <;> omega

/-- Fewer than twelve significands are missing where a logarithm below 32 is rounded up to a whole number,
and to one or two none is rounded up. -/
theorem roundingUp_bounds (small : part < 32) :
    roundingUp part < 12 ∧ (part < 2 → roundingUp part = 0) := by
  revert part
  decide

theorem missing_pos (count : Nat) : 0 < missing count :=
  Nat.sub_pos_of_lt (shiftRight_spare_lt count)

theorem missing_le (large : one ≤ count) : missing count ≤ 0x10000000000000 := by
  have above := scale_le_log2 large
  have deep := scale_eq
  have top : 0x10000000000000 ≤ count >>> spare count := by
    apply le_shiftRight_spare
    unfold spare
    omega
  exact Nat.sub_le_sub_left top 0x20000000000000

theorem log2_finite (size : Magnitude) :
    (finite false size).log2 = if size.count < one then .negative else .whole (wholeLog size.count) := by
  have nothing : size.count = 0 → size.count < one := fun zero => zero ▸ one_pos
  unfold log2 wholeLog missing
  by_cases small : size.count < one
  · simp only [small, if_true, Bool.false_eq_true, if_false, ite_self]
  · simp only [small, mt nothing small, Bool.false_eq_true, if_false]

theorem log2_of_one_le {size : Magnitude} (large : one ≤ size.count) :
    (finite false size).log2 = .whole (wholeLog size.count) := by
  rw [log2_finite, if_neg (Nat.not_lt.2 large)]

theorem missing_one_shiftLeft (part : Nat) : missing (one <<< part) = 0x10000000000000 := by
  have order : part + scale - 52 ≤ part + scale := Nat.sub_le _ _
  have rest : part + scale - (part + scale - 52) = 52 := by
    have := scale_eq
    omega
  have top : (one <<< part) >>> spare (one <<< part) = 0x10000000000000 := by
    rw [one_shiftLeft, Nat.one_shiftLeft, spare, Nat.log2_two_pow, Nat.shiftRight_eq_div_pow,
      Nat.pow_div order (by decide), rest]
  rw [missing, top]

/-- Rounding up takes few significands, whatever the exponent of a finite number. -/
theorem roundingUp_lt (small : part < 1024) : roundingUp part < 0x10000000000000 := by
  unfold roundingUp
  split
  · decide
  next positive =>
    have exponent : part.log2 ≤ 9 := Nat.le_of_lt_succ ((Nat.log2_lt positive).2 small)
    have most := shiftLeft_le_shiftLeft_right 693147180559945 exponent
    omega

/-- The logarithm of a power of two: half of the significands are missing above it, which is far from
rounding up. -/
theorem Dyadic.log2_eq {x : Binary64} (value : Dyadic x 1 (part + scale)) : x.log2 = .whole part := by
  obtain ⟨representable, rfl⟩ := value
  have power : one <<< part = 1 <<< (part + scale) := one_shiftLeft part
  have small : part < 1024 := by
    rw [← one_shiftLeft_lt_iff, power, ← overflow_eq]
    exact representable.1
  have few := roundingUp_lt small
  have whole := wholeLog_of_binade (Nat.le_refl _) (one_shiftLeft_lt_iff.2 (Nat.lt_succ_self part))
  rw [missing_one_shiftLeft, if_neg (by omega), power] at whole
  have large : one ≤ one <<< part := Nat.le_shiftLeft
  rw [power] at large
  exact (log2_of_one_le large).trans (congrArg Log2.whole whole)

/-! Any logarithm that never decreases and is exact at powers of two. -/

namespace Log2

/-- The order of what logarithms show of themselves. -/
def le : Log2 → Log2 → Prop
  | .undefined, _ | _, .undefined => False
  | .negative, _ | _, .unbounded => True
  | .whole part, .whole next => part ≤ next
  | _, .negative | .unbounded, _ => False

theorem le_unbounded {log : Log2} (defined : log.le log) : log.le .unbounded := by
  cases log with
  | undefined => contradiction
  | _ => trivial

end Log2

structure IsLogarithm (log : Binary64 → Log2) : Prop where
  power : ∀ {x part}, Dyadic x 1 (part + scale) → log x = .whole part
  mono : ∀ {m n : Magnitude}, m.count ≤ n.count → (log (finite false m)).le (log (finite false n))
  unbounded : log (infinite false) = .unbounded

theorem isLogarithm_log2 : IsLogarithm log2 where
  power := Dyadic.log2_eq
  mono := by
    intro m n order
    have logs := wholeLog_le_wholeLog order
    rw [log2_finite, log2_finite]
    split <;> split
    · trivial
    · trivial
    · omega
    · exact logs
  unbounded := rfl

namespace IsLogarithm

variable {log : Binary64 → Log2} (isLogarithm : IsLogarithm log) {num den : Nat}

include isLogarithm

theorem one_shiftLeft_eq {shift : Nat} (fits : shift ≤ 971) :
    log (finite false ⟨one <<< shift, representable_one_shiftLeft fits⟩) = .whole shift := by
  apply isLogarithm.power
  refine ⟨one_shiftLeft shift ▸ representable_one_shiftLeft fits, ?_⟩
  simp only [one_shiftLeft]

theorem ofCounts_mono (order : num ≤ more) (den : Nat) :
    (log (ofCounts false num den)).le (log (ofCounts false more den)) := by
  have counts := nearestCount_le_nearestCount den order
  unfold ofCounts
  by_cases large : nearestCount more den < overflow
  · rw [dif_pos large, dif_pos (Nat.lt_of_le_of_lt counts large)]
    exact isLogarithm.mono counts
  · rw [dif_neg large]
    split
    next =>
      rw [isLogarithm.unbounded]
      exact Log2.le_unbounded (isLogarithm.mono (Nat.le_refl _))
    next =>
      rw [isLogarithm.unbounded]
      trivial

theorem ofCounts_le {shift : Nat} (fits : shift ≤ 971) (below : nearestCount num den ≤ one <<< shift) :
    (log (ofCounts false num den)).le (.whole shift) := by
  have finite : nearestCount num den < overflow := by
    rw [overflow_eq]
    exact Nat.lt_of_le_of_lt below (one_shiftLeft_lt_iff.2 (by omega))
  rw [ofCounts, dif_pos finite, ← isLogarithm.one_shiftLeft_eq fits]
  exact isLogarithm.mono below

theorem le_ofCounts {shift : Nat} (fits : shift ≤ 971) (above : one <<< shift ≤ nearestCount num den) :
    (Log2.whole shift).le (log (ofCounts false num den)) := by
  unfold ofCounts
  split
  next =>
    rw [← isLogarithm.one_shiftLeft_eq fits]
    exact isLogarithm.mono above
  next =>
    rw [isLogarithm.unbounded]
    trivial

end IsLogarithm

end PowerLimits.Binary64
