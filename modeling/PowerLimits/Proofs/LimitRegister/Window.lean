import Mathlib.Tactic.LinearCombination
import PowerLimits.Proofs.Binary64.Logarithm
import PowerLimits.Proofs.Binary64.Value
import PowerLimits.Proofs.LimitRegister.RoundTrip

/-! What exponent a time window is given: the whole part of the logarithm of a quotient that rounding takes
across no power of two. A longer window never gets a smaller exponent, whatever the logarithm is between
powers of two. -/
namespace PowerLimits

namespace LimitRegister
open Binary64

variable {zone : Zone} {units : UnitScale} {fraction : Nat} {unit multiplier : ℚ} {least size : Magnitude}

theorem largest_exponent (term : Term) : term.fields.exponent.largest.toNat = 31 := by
  cases term <;> decide

/-- The time windows of a fraction, which are the least one scaled by powers of two. -/
structure Windows (zone : Zone) (units : UnitScale) (fraction : Nat) (unit multiplier : ℚ)
    (least : Magnitude) : Prop where
  time : units.time.toRat? = some unit
  factor : (zone.domainClass.multiplier fraction).toRat? = some multiplier
  positive : 0 < least.count
  value : multiplier * unit = least.count / one
  divisor : units.time * zone.domainClass.multiplier fraction = finite false least
  reach : ∀ shift ≤ 32, Representable (least.count <<< shift)
  seconds : ∀ exponent < 32, ∃ representable,
    .ofNat (1 <<< exponent) * zone.domainClass.multiplier fraction * units.time =
      finite false ⟨least.count <<< exponent, representable⟩

theorem exists_windows (zone : Zone) (halved : units.IsHalved) (small : fraction < 4) :
    ∃ unit multiplier least, Windows zone units fraction unit multiplier least := by
  have deep := scale_eq
  obtain ⟨halvings, few, time⟩ := dyadic_time halved
  obtain ⟨significand, positive, fits, multiplier⟩ := zone.domainClass.dyadic_multiplier small
  obtain ⟨representable, divisor⟩ := dyadic_least few time fits multiplier
  refine ⟨_, _, ⟨_, representable⟩, time.toRat?_eq, multiplier.toRat?_eq, ?_, ?_, divisor, ?_, ?_⟩
  · dsimp only
    exact Nat.shiftLeft_pos_iff.2 positive
  · dsimp only
    have powers : (2 : ℚ) ^ (Binary64.scale - 52) * 2 ^ (Binary64.scale - halvings) =
        2 ^ (Binary64.scale - 52 - halvings) * 2 ^ Binary64.scale := by
      rw [← pow_add, ← pow_add]
      congr 1
      omega
    rw [one_cast, Nat.shiftLeft_eq, div_mul_div_comm, div_eq_div_iff (by positivity) (by positivity)]
    push_cast
    linear_combination (significand : ℚ) * 2 ^ Binary64.scale * powers
  · intro shift narrow
    rw [← Nat.shiftLeft_add]
    exact representable_shiftLeft fits (by omega)
  · intro exponent short
    obtain ⟨representable, seconds⟩ := dyadic_seconds few time fits multiplier short
    dsimp only
    simp only [← Nat.shiftLeft_add]
    exact ⟨representable, seconds⟩

/-- The count of a rounded quotient. -/
def quotientCount (size least : Magnitude) : Nat := nearestCount (size.count * one) least.count

theorem windowExponent_ofCounts (term : Term) (num den : Nat) :
    windowExponent term.fields (ofCounts false num den).log2 = min (wholeLog (nearestCount num den)) 31 := by
  unfold ofCounts
  by_cases fits : nearestCount num den < overflow
  · rw [dif_pos fits, log2_finite]
    dsimp only
    split
    next small =>
      rw [wholeLog_eq_zero small]
      rfl
    next => rw [windowExponent, largest_exponent]
  · have beyond : one <<< 1024 ≤ nearestCount num den := by
      rw [← overflow_eq]
      exact Nat.le_of_not_lt fits
    have full : 31 ≤ wholeLog (nearestCount num den) := Nat.le_trans (by decide) (le_wholeLog beyond)
    rw [dif_neg fits, Nat.min_eq_right full]
    exact largest_exponent term

theorem windowExponent_le_windowExponent (term : Term) {shown next : Log2} (order : shown.le next) :
    windowExponent term.fields shown ≤ windowExponent term.fields next := by
  cases shown with
  | undefined => contradiction
  | negative => exact Nat.zero_le _
  | whole part =>
    cases next with
    | whole more =>
      have parts : part ≤ more := order
      simp only [windowExponent]
      omega
    | unbounded => exact windowExponent_le _ _
    | _ => contradiction
  | unbounded =>
    cases next with
    | unbounded => exact Nat.le_refl _
    | _ => contradiction

namespace Windows

variable (windows : Windows zone units fraction unit multiplier least)

include windows

theorem quotient_finite (size : Magnitude) :
    windowQuotient zone units fraction (finite false size) =
      ofCounts false (size.count * one) least.count := by
  rw [windowQuotient, windows.divisor, div_finite size windows.positive]

theorem quotient_infinite : windowQuotient zone units fraction (infinite false) = infinite false := by
  rw [windowQuotient, windows.divisor]
  rfl

theorem windowExponent_finite (term : Term) (size : Magnitude) :
    windowExponent term.fields (windowLog zone units fraction (finite false size)) =
      min (wholeLog (quotientCount size least)) 31 := by
  rw [windowLog, windows.quotient_finite, windowExponent_ofCounts, quotientCount]

theorem le_iff (shift : Nat) (size : Magnitude) :
    2 ^ shift * (multiplier * unit) ≤ (size.count : ℚ) / one ↔
      least.count <<< shift ≤ size.count := by
  rw [windows.value, ← mul_div_assoc, div_le_div_iff_of_pos_right one_cast_pos, Nat.shiftLeft_eq,
    mul_comm]
  exact_mod_cast Iff.rfl

/-- The rounded quotient reaches a power of two where the exact one does. -/
theorem reaches_iff {shift : Nat} (narrow : shift ≤ 32) (size : Magnitude) :
    one <<< shift ≤ quotientCount size least ↔
      2 ^ shift * (multiplier * unit) ≤ (size.count : ℚ) / one := by
  rw [windows.le_iff, quotientCount, one_shiftLeft_le_nearestCount_iff windows.positive
    (windows.reach shift narrow) (by omega)]

section Logarithm

variable {log : Binary64 → Log2} (isLogarithm : IsLogarithm log) (term : Term) {seconds longer : Binary64}

include isLogarithm

theorem exponent_infinite :
    windowExponent term.fields (log (windowQuotient zone units fraction (infinite false))) = 31 := by
  rw [windows.quotient_infinite, isLogarithm.unbounded]
  exact largest_exponent term

theorem exponent_mono (positive : seconds.isPositive) (order : seconds.le longer) :
    windowExponent term.fields (log (windowQuotient zone units fraction seconds)) ≤
      windowExponent term.fields (log (windowQuotient zone units fraction longer)) := by
  obtain rfl | ⟨m, n, rfl, rfl, counts⟩ := le_cases positive order
  · rw [windows.exponent_infinite isLogarithm, ← largest_exponent term]
    exact windowExponent_le _ _
  · rw [windows.quotient_finite, windows.quotient_finite]
    apply windowExponent_le_windowExponent
    exact isLogarithm.ofCounts_mono (Nat.mul_le_mul_right one counts) _

theorem exponent_eq_zero {value : ℚ} (positive : seconds.isPositive)
    (number : seconds.toRat? = some value) (short : value < multiplier * unit) :
    windowExponent term.fields (log (windowQuotient zone units fraction seconds)) = 0 := by
  obtain ⟨size, _, rfl⟩ | rfl := isPositive_cases positive
  · cases Option.some.inj ((toRat?_finite size).symm.trans number)
    have below : quotientCount size least ≤ one <<< 0 := by
      have reaches := windows.reaches_iff (Nat.zero_le 32) size
      rw [pow_zero, one_mul] at reaches
      exact Nat.le_of_lt (Nat.lt_of_not_le (mt reaches.1 (not_le.2 short)))
    have order := isLogarithm.ofCounts_le (Nat.zero_le _) below
    rw [windows.quotient_finite]
    exact Nat.le_zero.1 (windowExponent_le_windowExponent term order)
  · contradiction

theorem exponent_eq_largest (positive : seconds.isPositive)
    (long : ∀ value, seconds.toRat? = some value → 2 ^ 31 * (multiplier * unit) ≤ value) :
    windowExponent term.fields (log (windowQuotient zone units fraction seconds)) = 31 := by
  obtain ⟨size, _, rfl⟩ | rfl := isPositive_cases positive
  · have reached := (windows.reaches_iff (by decide) size).2 (long _ (toRat?_finite size))
    have order := isLogarithm.le_ofCounts (by decide) reached
    rw [windows.quotient_finite, ← largest_exponent term]
    refine Nat.le_antisymm (windowExponent_le _ _) ?_
    have full := windowExponent_le_windowExponent term order
    rwa [windowExponent, largest_exponent, Nat.min_self, ← largest_exponent term] at full
  · exact windows.exponent_infinite isLogarithm term

end Logarithm

end Windows

/-- Whatever base two logarithm a platform has, if it never decreases and is exact at powers of two, then a
longer window has no smaller exponent, the exponents end at zero and at 31, and that of a window that was
decoded is the one it was decoded from. -/
theorem exponents_of_logarithm {log : Binary64 → Log2} (isLogarithm : IsLogarithm log) (zone : Zone)
    (unitWord : Word) (signature : Signature) (term : Term) {fraction : Nat} (small : fraction < 4) :
    let units := UnitScale.ofWord unitWord signature
    let exponent (seconds : Binary64) : Nat :=
      windowExponent term.fields (log (windowQuotient zone units fraction seconds))
    ∃ unit multiplier : ℚ, units.time.toRat? = some unit ∧
      (zone.domainClass.multiplier fraction).toRat? = some multiplier ∧
      (∀ seconds longer, seconds.isPositive → seconds.le longer → exponent seconds ≤ exponent longer) ∧
      (∀ seconds value, seconds.isPositive → seconds.toRat? = some value → value < multiplier * unit →
        exponent seconds = 0) ∧
      (∀ seconds, seconds.isPositive →
        (∀ value, seconds.toRat? = some value → 2 ^ 31 * (multiplier * unit) ≤ value) →
        exponent seconds = 31) ∧
      ∀ held < 32,
        exponent (.ofNat (1 <<< held) * zone.domainClass.multiplier fraction * units.time) = held := by
  intro units exponent
  have halved := UnitScale.isHalved_ofWord unitWord signature
  obtain ⟨unit, multiplier, least, windows⟩ := exists_windows zone halved small
  refine ⟨unit, multiplier, windows.time, windows.factor, ?_, ?_, ?_, ?_⟩
  · intro seconds longer positive order
    exact windows.exponent_mono isLogarithm term positive order
  · intro seconds value positive number short
    exact windows.exponent_eq_zero isLogarithm term positive number short
  · intro seconds positive long
    exact windows.exponent_eq_largest isLogarithm term positive long
  · intro held short
    have whole := isLogarithm.power (dyadic_windowQuotient zone halved short small)
    have fits : held ≤ term.fields.exponent.largest.toNat := by
      rw [largest_exponent]
      omega
    exact (congrArg (windowExponent term.fields) whole).trans (Nat.min_eq_left fits)

/-- The exponents of time windows: what is stored is the whole part of the logarithm, fitted to its field
and so cut by no mask; it never decreases with the window, and it ends at zero and at 31. -/
theorem window_exponent_monotone (zone : Zone) (unitWord : Word) (signature : Signature) (word : Word)
    (term : Term) :
    let units := UnitScale.ofWord unitWord signature
    let fraction := fractionOf term.fields word
    let exponent (seconds : Binary64) : Nat :=
      windowExponent term.fields (windowLog zone units fraction seconds)
    ∃ unit multiplier : ℚ, units.time.toRat? = some unit ∧
      (zone.domainClass.multiplier fraction).toRat? = some multiplier ∧
      (∀ longTerm shortTerm limit, (shortTerm.isSome → zone.domainClass.hasShortTerm) →
        term.pick longTerm shortTerm = some limit → limit.seconds.isPositive →
        ∃ after, encode zone units word longTerm shortTerm = .ok after ∧
          (term.fields.exponent.get after).toNat = exponent limit.seconds) ∧
      (∀ seconds, exponent seconds ≤ 31) ∧
      (∀ seconds longer, seconds.isPositive → seconds.le longer → exponent seconds ≤ exponent longer) ∧
      (∀ seconds value, seconds.isPositive → seconds.toRat? = some value → value < multiplier * unit →
        exponent seconds = 0) ∧
      ∀ seconds, seconds.isPositive →
        (∀ value, seconds.toRat? = some value → 2 ^ 31 * (multiplier * unit) ≤ value) →
        exponent seconds = 31 := by
  intro units fraction exponent
  obtain ⟨unit, multiplier, time, factor, mono, low, high, _⟩ :=
    exponents_of_logarithm isLogarithm_log2 zone unitWord signature term (fraction_lt term word)
  refine ⟨unit, multiplier, time, factor, ?_, ?_, mono, low, high⟩
  · intro longTerm shortTerm limit allowed given positive
    obtain ⟨after, encoded⟩ := exists_encode allowed
    have held := setting_encode encoded term
    rw [given, Option.elim_some, limited] at held
    exact ⟨after, encoded, (congrArg Setting.exponent held).trans (if_pos positive)⟩
  · intro seconds
    exact Nat.le_trans (windowExponent_le _ _) (Nat.le_of_eq (largest_exponent term))

theorem window_exponent_monotone_pair :
    let units := UnitScale.ofWord 0xA0E03 ⟨"GenuineIntel", 6, 158, 10⟩
    let exponent (seconds : Binary64) : Nat := windowExponent Term.short.fields
      (windowLog .package units (fractionOf Term.short.fields 0x8042821000DD8190) seconds)
    (∃ after, encode .package units 0x8042821000DD8190 none (some ⟨.nan, .ofNat 5⟩) = .ok after ∧
        (Term.short.fields.exponent.get after).toNat = exponent (.ofNat 5)) ∧
      exponent (.ofNat 5) ≤ exponent (.infinite false) ∧ exponent (.infinite false) = 31 := by
  intro units exponent
  obtain ⟨_, _, _, _, stored, _, order, _, largest⟩ := window_exponent_monotone .package 0xA0E03
    ⟨"GenuineIntel", 6, 158, 10⟩ 0x8042821000DD8190 .short
  have five : (Binary64.ofNat 5).isPositive := by decide +kernel
  exact ⟨stored none _ _ (fun _ => rfl) rfl five, order _ _ five (by decide +kernel),
    largest _ rfl nofun⟩

end LimitRegister

end PowerLimits
