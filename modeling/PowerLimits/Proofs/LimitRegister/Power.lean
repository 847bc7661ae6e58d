import PowerLimits.Proofs.Binary64.Value
import PowerLimits.Proofs.LimitRegister.RoundTrip

/-! What a power reads back as once it is set: its whole units, of which a field holds 32767 at most. What
is beyond that, up to an infinite power, takes the most the field holds and never wraps. -/
namespace PowerLimits

/-- What is noted of a power that its field cannot hold. -/
def Event.isPowerTooLarge : Event → Bool
  | .powerTooLarge .. => true
  | _ => false

/-- A power reads back as its whole units: less than a unit below, or the most that a field holds. -/
structure PowerReadBack (unit : ℚ) (requested got : Binary64) : Prop where
  counted : ∃ count : ℕ, (count : ℕ∞) = min (requested.wholeUnits unit) 32767 ∧
    got.toRat? = some (unit * count)
  below : ∀ watts, requested.toRat? = some watts → watts < 32768 * unit →
    ∃ held, got.toRat? = some held ∧ 0 ≤ watts - held ∧ watts - held < unit
  saturated : (∀ watts, requested.toRat? = some watts → 32768 * unit ≤ watts) →
    got.toRat? = some (32767 * unit)

theorem PowerReadBack.of_count {unit : ℚ} {requested got : Binary64} {count : ℕ} (scaled : 0 < unit)
    (positive : requested.isPositive)
    (counts : (count : ℕ∞) = min (requested.wholeUnits unit) 32767)
    (exact : got.toRat? = some (unit * count)) : PowerReadBack unit requested got where
  counted := ⟨count, counts, exact⟩
  below := by
    intro watts number small
    have fits : ⌊watts / unit⌋₊ < 32768 := by
      rw [Nat.floor_lt' (by decide), div_lt_iff₀ scaled]
      exact small
    have held : count = ⌊watts / unit⌋₊ := by
      have counts : ((count : ℕ) : ℕ∞) = (min ⌊watts / unit⌋₊ 32767 : ℕ) := by
        rw [counts, Binary64.wholeUnits_of_toRat? unit number, Binary64.natCast_min]
        rfl
      have counts := Nat.cast_injective counts
      omega
    have nonnegative : 0 ≤ watts / unit :=
      div_nonneg (Binary64.nonneg_of_isPositive positive number) scaled.le
    have low : unit * count ≤ watts := by
      rw [mul_comm, ← le_div_iff₀ scaled, held]
      exact Nat.floor_le nonnegative
    have high : watts < unit * (count + 1) := by
      rw [mul_comm, ← div_lt_iff₀ scaled, held]
      exact Nat.lt_floor_add_one _
    exact ⟨_, exact, by linarith, by linarith⟩
  saturated := by
    intro large
    have most : (32767 : ℕ∞) ≤ requested.wholeUnits unit := by
      cases number : requested.toRat? with
      | none =>
        rw [Binary64.wholeUnits, number]
        exact le_top
      | some watts =>
        have reached : 32767 ≤ ⌊watts / unit⌋₊ := by
          apply Nat.le_floor
          rw [le_div_iff₀ scaled]
          have := large watts number
          push_cast
          linarith
        rw [Binary64.wholeUnits_of_toRat? unit number]
        exact_mod_cast reached
    have full : count = 32767 := by
      rw [min_eq_right most] at counts
      exact_mod_cast counts
    rw [exact, full, mul_comm]
    rfl

namespace LimitRegister
open Binary64

variable {zone : Zone} {units : UnitScale} {word after : Word} {halvings : Nat} {watts : Binary64}
  {longTerm shortTerm : Option Limit} {term : Term} {limit : Limit}

theorem largest_power (term : Term) : term.fields.power.largest.toNat = 32767 := by
  cases term <;> decide

/-- The whole units of a power are counted exactly, as far as a word holds them. -/
theorem wholePower_eq (few : halvings < 16) (unit : units.power = .halfPow halvings)
    (positive : watts.isPositive) :
    (wholePower units watts : ℕ∞) = min (watts.wholeUnits (1 / 2 ^ halvings)) largestWord := by
  have deep := scale_eq
  unfold wholePower
  rw [unit]
  obtain ⟨size, _, rfl⟩ | rfl := isPositive_cases positive
  · have whole : (finite false size).wholeUnits (1 / 2 ^ halvings) =
        (size.count <<< halvings / one : ℕ) := by
      rw [wholeUnits_of_toRat? _ (toRat?_finite size), ← Nat.floor_div_eq_div (K := ℚ), Nat.shiftLeft_eq]
      congr 2
      push_cast
      field_simp
    rw [truncate_div_halfPow size (by omega), whole, natCast_min]
  · obtain ⟨_, finite⟩ := dyadic_halfPow (n := halvings) (by omega)
    rw [finite]
    rfl

theorem powerCount_eq (few : halvings < 16) (unit : units.power = .halfPow halvings)
    (positive : watts.isPositive) (term : Term) :
    (powerCount units term.fields watts : ℕ∞) = min (watts.wholeUnits (1 / 2 ^ halvings)) 32767 := by
  have wide : ((32767 : ℕ) : ℕ∞) ≤ (largestWord : ℕ) := by
    rw [Nat.cast_le]
    decide
  rw [powerCount, largest_power, natCast_min, wholePower_eq few unit positive, min_assoc,
    min_eq_right wide]
  rfl

theorem lt_wholePower_iff (few : halvings < 16) (unit : units.power = .halfPow halvings)
    (positive : watts.isPositive) :
    32767 < wholePower units watts ↔ 32767 < watts.wholeUnits (1 / 2 ^ halvings) := by
  have wide : ((32767 : ℕ) : ℕ∞) < (largestWord : ℕ) := by
    rw [Nat.cast_lt]
    decide
  rw [← Nat.cast_lt (α := ℕ∞), wholePower_eq few unit positive, lt_min_iff]
  exact ⟨And.left, fun beyond => ⟨beyond, wide⟩⟩

theorem toRat?_watts (few : halvings < 16) (unit : units.power = .halfPow halvings) (zone : Zone)
    (term : Term) (word : Word) :
    (decodeConstraint zone units term.fields word).watts.toRat? =
      some (1 / 2 ^ halvings * (setting term.fields word).power : ℚ) := by
  have deep := scale_eq
  have exact := dyadic_watts unit few (power_lt term word)
  refine exact.toRat?_eq.trans (congrArg some ?_)
  rw [div_eq_iff (by positivity), ← Nat.sub_add_cancel (by omega : halvings ≤ Binary64.scale)]
  rw [Nat.add_sub_cancel, pow_add]
  field_simp
  rfl

/-! What is noted meanwhile. -/

theorem filter_powerEvents (zone : Zone) (units : UnitScale) (term : Term) (watts : Binary64) :
    (powerEvents zone units term.fields watts).filter Event.isPowerTooLarge =
      if 32767 < wholePower units watts then [.powerTooLarge zone watts (.ofNat 32767 * units.power)]
      else [] := by
  unfold powerEvents
  dsimp only
  rw [largest_power, List.filter_append]
  split <;> rfl

theorem filter_windowEvents (zone : Zone) (units : UnitScale) (fields : Constraint) (fraction : Nat)
    (seconds : Binary64) :
    (windowEvents zone units fields fraction seconds).filter Event.isPowerTooLarge = [] := by
  unfold windowEvents
  dsimp only
  cases windowLog zone units fraction seconds with
  | undefined | negative | unbounded => rfl
  | whole part =>
    dsimp only
    split <;> rfl

/-- The note that a limit has a power too large, if it has. -/
def tooLarge (zone : Zone) (units : UnitScale) (unit : ℚ) (limit : Limit) : List Event :=
  if limit.watts.isPositive ∧ 32767 < limit.watts.wholeUnits unit then
    [.powerTooLarge zone limit.watts (.ofNat 32767 * units.power)]
  else []

theorem filter_constraintEvents (few : halvings < 16) (unit : units.power = .halfPow halvings)
    (zone : Zone) (term : Term) (word : Word) (limit : Limit) :
    (constraintEvents zone units term.fields word limit).filter Event.isPowerTooLarge =
      tooLarge zone units (1 / 2 ^ halvings) limit := by
  have window : (if limit.seconds.isPositive then windowEvents zone units term.fields
      (fractionOf term.fields word) limit.seconds else []).filter Event.isPowerTooLarge = [] := by
    split
    · exact filter_windowEvents ..
    · rfl
  rw [constraintEvents, List.filter_append, window, List.append_nil, tooLarge]
  by_cases positive : limit.watts.isPositive
  · rw [if_pos positive, filter_powerEvents]
    simp only [lt_wholePower_iff few unit positive, positive, true_and]
  · rw [if_neg positive, if_neg (fun both => positive both.1)]
    rfl

theorem filter_encodeEvents (few : halvings < 16) (unit : units.power = .halfPow halvings)
    (allowed : shortTerm.isSome → zone.domainClass.hasShortTerm) (word : Word) :
    (encodeEvents zone units word longTerm shortTerm).filter Event.isPowerTooLarge =
      (longTerm.toList ++ shortTerm.toList).flatMap (tooLarge zone units (1 / 2 ^ halvings)) := by
  have events := filter_constraintEvents few unit zone
  rw [encodeEvents, not_refused allowed, if_neg Bool.false_ne_true, List.filter_append, List.flatMap_append]
  congr 1
  · cases longTerm with
    | none => rfl
    | some limit =>
      rw [Option.toList_some, List.flatMap_singleton]
      exact events .long word limit
  · cases shortTerm with
    | none => rfl
    | some limit =>
      rw [Option.toList_some, List.flatMap_singleton, Option.elim_some, List.filter_append]
      refine Eq.trans ?_ (events .short word limit)
      split <;> rfl

/-- Limits that are set read back with the whole units of each positive power, cut down to what the field
holds, and what is cut down, and nothing else, is noted as too large. -/
theorem power_reads_back (zone : Zone) (units : UnitScale) (halvings : Nat) (few : halvings ≤ 15)
    (scaled : units.power.toRat? = some (1 / 2 ^ halvings : ℚ)) (word : Word)
    (longTerm shortTerm : Option Limit)
    (allowed : shortTerm.isSome → zone.domainClass.hasShortTerm) :
    ∃ after, encode zone units word longTerm shortTerm = .ok after ∧
      (∀ term limit, term.pick longTerm shortTerm = some limit → limit.watts.isPositive →
        ∃ got, (decodeLimits zone units after).limit? term = some got ∧
          PowerReadBack (1 / 2 ^ halvings) limit.watts got.watts) ∧
      (encodeEvents zone units word longTerm shortTerm).filter Event.isPowerTooLarge =
        (longTerm.toList ++ shortTerm.toList).flatMap (tooLarge zone units (1 / 2 ^ halvings)) := by
  have deep := scale_eq
  have few : halvings < 16 := by omega
  have unit : units.power = .halfPow halvings :=
    eq_of_toRat? scaled (toRat?_halfPow (by omega)) (by positivity)
  obtain ⟨after, encoded⟩ := exists_encode allowed
  refine ⟨after, encoded, ?_, filter_encodeEvents few unit allowed word⟩
  intro term limit given positive
  have held : (setting term.fields after).power = powerCount units term.fields limit.watts := by
    rw [setting_encode encoded, given, Option.elim_some, limited]
    exact if_pos positive
  refine ⟨_, limit?_decodeLimits allowed given after, ?_⟩
  apply PowerReadBack.of_count (by positivity) positive (powerCount_eq few unit positive term)
  rw [toRat?_watts few unit, held]

theorem power_reads_back_pair :
    let units := UnitScale.ofWord 0xA0E03 ⟨"GenuineIntel", 6, 158, 10⟩
    units.power.toRat? = some (1 / 2 ^ 3 : ℚ) ∧
      ∃ after, encode .package units 0x8042821000DD8190 (some ⟨.infinite false, .zero⟩)
          (some ⟨.ofNat 95, .nan⟩) = .ok after ∧
        ∃ long short, (decodeLimits .package units after).limit? .long = some long ∧
          long.watts.toRat? = some (32767 * (1 / 2 ^ 3)) ∧
          (decodeLimits .package units after).limit? .short = some short ∧
          PowerReadBack (1 / 2 ^ 3) (.ofNat 95) short.watts := by
  have deep := scale_eq
  have scaled : (UnitScale.ofWord 0xA0E03 ⟨"GenuineIntel", 6, 158, 10⟩).power.toRat? =
      some (1 / 2 ^ 3 : ℚ) := toRat?_halfPow (by omega : 3 ≤ Binary64.scale)
  obtain ⟨after, encoded, reads, _⟩ := power_reads_back .package _ 3 (by decide) scaled
    0x8042821000DD8190 (some ⟨.infinite false, .zero⟩) (some ⟨.ofNat 95, .nan⟩) (fun _ => rfl)
  obtain ⟨long, hasLong, back⟩ := reads .long _ rfl rfl
  obtain ⟨short, hasShort, kept⟩ := reads .short _ rfl (by decide +kernel)
  exact ⟨scaled, after, encoded, long, short, hasLong, back.saturated nofun, hasShort, kept⟩

end LimitRegister

end PowerLimits
