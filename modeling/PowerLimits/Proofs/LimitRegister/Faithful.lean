import Mathlib.Data.List.TFAE
import Mathlib.Tactic.TFAE
import PowerLimits.Proofs.LimitRegister.Power
import PowerLimits.Proofs.LimitRegister.Window

/-! Limits as a view of a word. They show the counts, the exponents and the fractions of the constraints
that a zone has, and tell any two of them apart: a power is its count times the unit, and a time window is
the multiplier of its fraction, which lies between one and two, times a power of two. -/
namespace PowerLimits

namespace Binary64

/-- The same number. To `nan` none is the same, and the two zeros are the same as each other. -/
def Same (x y : Binary64) : Prop := x.le y ∧ y.le x

theorem same_iff_of_toRat? {x y : Binary64} {value other : ℚ} (left : x.toRat? = some value)
    (right : y.toRat? = some other) : x.Same y ↔ value = other := by
  rw [Same, le_iff_of_toRat? left right, le_iff_of_toRat? right left, le_antisymm_iff]

end Binary64

def Limit.Same (limit other : Limit) : Prop :=
  limit.watts.Same other.watts ∧ limit.seconds.Same other.seconds

/-- The same numbers for the same constraints. -/
def ZoneLimits.Same (limits others : ZoneLimits) : Prop :=
  limits.longTerm.Same others.longTerm ∧ Option.Rel Limit.Same limits.shortTerm others.shortTerm

/-- The words agree on the power and on the time window of a constraint. -/
structure Constraint.Agree (fields : Constraint) (word other : Word) : Prop where
  power : fields.power.get word = fields.power.get other
  exponent : fields.exponent.get word = fields.exponent.get other
  fraction : fields.fraction.get word = fields.fraction.get other

/-- The bits that hold the power and the time window of a constraint. -/
def Term.decoded : Term → Nat → Prop
  | .long, i => i ≤ 14 ∨ 17 ≤ i ∧ i ≤ 23
  | .short, i => 32 ≤ i ∧ i ≤ 46 ∨ 49 ≤ i ∧ i ≤ 55

variable {word other : Word}

theorem Term.agree_iff_bits (term : Term) :
    term.fields.Agree word other ↔ ∀ i, term.decoded i → word.getLsbD i = other.getLsbD i := by
  have split : ∀ i, term.decoded i ↔
      (term.fields.power.lo ≤ i ∧ i ≤ term.fields.power.hi) ∨
        (term.fields.exponent.lo ≤ i ∧ i ≤ term.fields.exponent.hi) ∨
          (term.fields.fraction.lo ≤ i ∧ i ≤ term.fields.fraction.hi) := by
    intro i
    cases term <;>
      simp only [decoded, fields, Constraint.longTerm, Constraint.shortTerm] <;> omega
  simp only [split]
  constructor
  · rintro ⟨power, exponent, fraction⟩ i (⟨low, high⟩ | ⟨low, high⟩ | ⟨low, high⟩)
    · exact BitRange.get_eq_get_iff.1 power i low high
    · exact BitRange.get_eq_get_iff.1 exponent i low high
    · exact BitRange.get_eq_get_iff.1 fraction i low high
  · intro same
    constructor <;> refine BitRange.get_eq_get_iff.2 fun i low high => same i ?_
    · exact .inl ⟨low, high⟩
    · exact .inr (.inl ⟨low, high⟩)
    · exact .inr (.inr ⟨low, high⟩)

namespace DomainClass
open Binary64

theorem multiplier_injective (family : DomainClass) :
    ∀ fraction < 4, ∀ next < 4, family.multiplier fraction = family.multiplier next →
      fraction = next := by
  cases family <;> decide +kernel

/-- From one on and below two. -/
theorem multiplier_bounds (family : DomainClass) {fraction : Nat} (small : fraction < 4) {factor : ℚ}
    (number : (family.multiplier fraction).toRat? = some factor) : 1 ≤ factor ∧ factor < 2 := by
  have bounds := isMultiplier_multiplier family fraction small
  generalize family.multiplier fraction = value at bounds number
  cases value with
  | finite negative size =>
    cases negative with
    | false =>
      obtain ⟨low, high⟩ := of_decide_eq_true bounds
      cases Option.some.inj ((toRat?_finite size).symm.trans number)
      rw [le_div_iff₀ one_cast_pos, div_lt_iff₀ one_cast_pos, one_mul]
      exact_mod_cast And.intro low high
    | true => contradiction
  | _ => contradiction

end DomainClass

/-- A number between one and two keeps the power of two it is scaled by apart. -/
theorem scaled_unique {factor next : ℚ} (factors : 1 ≤ factor ∧ factor < 2) (nexts : 1 ≤ next ∧ next < 2)
    {exponent place : Nat} (same : 2 ^ exponent * factor = 2 ^ place * next) :
    exponent = place ∧ factor = next := by
  have upper {a b : ℚ} {i j : Nat} (low : 1 ≤ a) (high : b < 2) (scaled : 2 ^ i * a = 2 ^ j * b) :
      i ≤ j := by
    have power : (2 : ℚ) ^ i < 2 ^ (j + 1) := by
      calc
        (2 : ℚ) ^ i ≤ 2 ^ i * a := le_mul_of_one_le_right (by positivity) low
        _ = 2 ^ j * b := scaled
        _ < 2 ^ (j + 1) := by
          rw [pow_succ]
          exact mul_lt_mul_of_pos_left high (by positivity)
    exact Nat.le_of_lt_succ ((pow_lt_pow_iff_right₀ one_lt_two).1 power)
  have equal : exponent = place :=
    Nat.le_antisymm (upper factors.1 nexts.2 same) (upper nexts.1 factors.2 same.symm)
  subst equal
  exact ⟨rfl, mul_left_cancel₀ (by positivity) same⟩

namespace LimitRegister
open Binary64

variable {zone : Zone} {units : UnitScale} {fraction : Nat} {unit multiplier : ℚ} {least : Magnitude}

theorem Windows.toRat?_seconds (windows : Windows zone units fraction unit multiplier least)
    {exponent : Nat} (short : exponent < 32) :
    (.ofNat (1 <<< exponent) * zone.domainClass.multiplier fraction * units.time : Binary64).toRat? =
      some (2 ^ exponent * (multiplier * unit)) := by
  obtain ⟨_, seconds⟩ := windows.seconds exponent short
  rw [seconds, toRat?_finite, windows.value, ← mul_div_assoc, mul_comm]
  dsimp only
  rw [Nat.shiftLeft_eq, Nat.cast_mul, Nat.cast_pow, Nat.cast_ofNat]

theorem watts_same_iff (halved : units.IsHalved) (zone : Zone) (term : Term) :
    (decodeConstraint zone units term.fields word).watts.Same
        (decodeConstraint zone units term.fields other).watts ↔
      term.fields.power.get word = term.fields.power.get other := by
  obtain ⟨halvings, few, unit⟩ := halved.power
  rw [same_iff_of_toRat? (toRat?_watts few unit zone term word) (toRat?_watts few unit zone term other)]
  rw [mul_right_inj' (by positivity), Nat.cast_inj, setting, setting, ← BitVec.toNat_inj]
  rfl

theorem seconds_same_iff (halved : units.IsHalved) (zone : Zone) (term : Term) :
    (decodeConstraint zone units term.fields word).seconds.Same
        (decodeConstraint zone units term.fields other).seconds ↔
      term.fields.exponent.get word = term.fields.exponent.get other ∧
        term.fields.fraction.get word = term.fields.fraction.get other := by
  have small := fraction_lt term word
  have next := fraction_lt term other
  obtain ⟨unit, factor, least, windows⟩ := exists_windows zone halved small
  obtain ⟨again, nextFactor, nextLeast, nextWindows⟩ := exists_windows zone halved next
  cases Option.some.inj (windows.time.symm.trans nextWindows.time)
  have positive : 0 < factor * unit := by
    rw [windows.value]
    exact div_pos (Nat.cast_pos.2 windows.positive) one_cast_pos
  have factors := zone.domainClass.multiplier_bounds small windows.factor
  have nextFactors := zone.domainClass.multiplier_bounds next nextWindows.factor
  have scaled : 0 < unit := pos_of_mul_pos_right positive (by linarith)
  have same := same_iff_of_toRat? (windows.toRat?_seconds (exponent_lt term word))
    (nextWindows.toRat?_seconds (exponent_lt term other))
  refine same.trans ?_
  rw [← BitVec.toNat_inj, ← BitVec.toNat_inj, ← mul_assoc, ← mul_assoc, mul_left_inj' scaled.ne']
  constructor
  · intro equal
    obtain ⟨exponents, rfl⟩ := scaled_unique factors nextFactors equal
    refine ⟨exponents, zone.domainClass.multiplier_injective _ small _ next ?_⟩
    exact eq_of_toRat? windows.factor nextWindows.factor (by linarith)
  · rintro ⟨exponents, fractions⟩
    have factor := windows.factor
    rw [fractions] at factor
    rw [exponents, Option.some.inj (factor.symm.trans nextWindows.factor)]

theorem decodeConstraint_same_iff (halved : units.IsHalved) (zone : Zone) (term : Term) :
    (decodeConstraint zone units term.fields word).Same (decodeConstraint zone units term.fields other) ↔
      term.fields.Agree word other := by
  rw [Limit.Same, watts_same_iff halved, seconds_same_iff halved]
  constructor
  · rintro ⟨power, exponent, fraction⟩
    exact ⟨power, exponent, fraction⟩
  · rintro ⟨power, exponent, fraction⟩
    exact ⟨power, exponent, fraction⟩

theorem decodeLimits_same_iff (halved : units.IsHalved) (zone : Zone) :
    (decodeLimits zone units word).Same (decodeLimits zone units other) ↔
      ∀ term ∈ zone.domainClass.terms, term.fields.Agree word other := by
  have same (term : Term) :
      (decodeConstraint zone units term.fields word).Same (decodeConstraint zone units term.fields other) ↔
        term.fields.Agree word other := decodeConstraint_same_iff halved zone term
  unfold ZoneLimits.Same decodeLimits
  cases zone.domainClass with
  | packagePlatform =>
    rw [DomainClass.terms, List.forall_mem_cons, List.forall_mem_singleton]
    exact and_congr (same .long) (Option.rel_some_some.trans (same .short))
  | powerPlane =>
    rw [DomainClass.terms, List.forall_mem_singleton]
    exact (and_iff_left .none).trans (same .long)

theorem decodeConstraint_congr {fields : Constraint} (agree : fields.Agree word other) (zone : Zone)
    (units : UnitScale) :
    decodeConstraint zone units fields word = decodeConstraint zone units fields other := by
  simp only [decodeConstraint, agree.power, agree.exponent, agree.fraction]

theorem decodeLimits_congr (agree : ∀ term ∈ zone.domainClass.terms, term.fields.Agree word other)
    (units : UnitScale) : decodeLimits zone units word = decodeLimits zone units other := by
  have long := decodeConstraint_congr (agree .long zone.domainClass.long_mem) zone units
  unfold decodeLimits
  congr 1
  split
  next has =>
    exact congrArg some (decodeConstraint_congr (agree .short (DomainClass.short_mem has)) zone units)
  next => rfl

/-- What a zone's limits show of two words is the same, be it in its bits or as numbers, where the words
agree on the power, the exponent and the fraction of every constraint that the zone has, which is on
these bits. -/
theorem decodeLimits_tfae (zone : Zone) (unitWord : Word) (signature : Signature) (word other : Word) :
    let units := UnitScale.ofWord unitWord signature
    List.TFAE [
      decodeLimits zone units word = decodeLimits zone units other,
      (decodeLimits zone units word).Same (decodeLimits zone units other),
      ∀ fields ∈ zone.domainClass.constraints, fields.Agree word other,
      ∀ term ∈ zone.domainClass.terms, ∀ i, term.decoded i → word.getLsbD i = other.getLsbD i] := by
  intro units
  have halved : units.IsHalved := UnitScale.isHalved_ofWord unitWord signature
  rw [DomainClass.constraints_eq, List.forall_mem_map]
  simp only [← Term.agree_iff_bits]
  tfae_have 1 → 2 := by
    intro same
    rw [← same]
    exact (decodeLimits_same_iff halved zone).2 fun term _ => ⟨rfl, rfl, rfl⟩
  tfae_have 2 → 3 := (decodeLimits_same_iff halved zone).1
  tfae_have 3 ↔ 4 := Iff.rfl
  tfae_have 3 → 1 := fun agree => decodeLimits_congr agree units
  tfae_finish

end LimitRegister

end PowerLimits
