import PowerLimits.Proofs.LimitRegister.Window

/-! What a time window reads back as once it is set. The window that is held is the longest one that is
not above the one asked for, unless the logarithm is rounded up to a whole number: then it is the next one,
which is above. -/
namespace PowerLimits

/-- The base two logarithm of a number that is below a power of two is rounded up to the exponent. -/
def Binary64.RoundsUp (x : Binary64) : Prop :=
  ∃ part value, x.log2 = .whole part ∧ x.toRat? = some value ∧ value < 2 ^ part

namespace LimitRegister
open Binary64

variable {zone : Zone} {units : UnitScale} {fraction : Nat} {unit multiplier : ℚ} {least size : Magnitude}

theorem shiftLeft_le_iff {count reached part : Nat} (below : count <<< part ≤ reached)
    (above : reached < count <<< (part + 1)) (shift : Nat) :
    count <<< shift ≤ reached ↔ shift ≤ part := by
  constructor
  · intro held
    apply Nat.le_of_not_lt
    intro larger
    exact Nat.not_lt.2 (Nat.le_trans (shiftLeft_le_shiftLeft_right count larger) held) above
  · intro smaller
    exact Nat.le_trans (shiftLeft_le_shiftLeft_right count smaller) below

theorem roundsUp_finite (large : one ≤ size.count) :
    (finite false size).RoundsUp ↔ size.count < one <<< wholeLog size.count := by
  have log := log2_of_one_le large
  have short (part : Nat) : (size.count : ℚ) / one < 2 ^ part ↔ size.count < one <<< part := by
    rw [div_lt_iff₀ one_cast_pos, Nat.shiftLeft_eq, mul_comm]
    exact_mod_cast Iff.rfl
  constructor
  · rintro ⟨part, value, whole, number, below⟩
    cases log.symm.trans whole
    cases Option.some.inj ((toRat?_finite size).symm.trans number)
    exact (short _).1 below
  · intro below
    exact ⟨_, _, log, toRat?_finite size, (short _).2 below⟩

namespace Windows

variable (windows : Windows zone units fraction unit multiplier least)

include windows

/-- The window asked for lies between two that can be held, and its exponent is that of the lower one unless
the logarithm of the quotient is rounded up. -/
theorem exponent_cases {size : Magnitude} (low : multiplier * unit ≤ (size.count : ℚ) / one)
    (high : (size.count : ℚ) / one < 2 ^ 32 * (multiplier * unit)) :
    ∃ part ≤ 31, least.count <<< part ≤ size.count ∧ size.count < least.count <<< (part + 1) ∧
      one <<< part ≤ quotientCount size least ∧ quotientCount size least < one <<< (part + 1) := by
  have reached : one ≤ quotientCount size least := by
    have reaches := windows.reaches_iff (Nat.zero_le 32) size
    rw [Nat.shiftLeft_zero, pow_zero, one_mul] at reaches
    exact reaches.2 low
  obtain ⟨part, least', most⟩ := exists_binade reached
  have beyond := mt (windows.reaches_iff (Nat.le_refl 32) size).1 (not_le.2 high)
  have narrow := one_shiftLeft_lt_iff.1 (Nat.lt_of_le_of_lt least' (Nat.lt_of_not_le beyond))
  refine ⟨part, by omega, ?_, ?_, least', most⟩
  · rw [← windows.le_iff, ← windows.reaches_iff (by omega)]
    exact least'
  · rw [← Nat.not_le, ← windows.le_iff, ← windows.reaches_iff (by omega), Nat.not_le]
    exact most

theorem roundsUp_iff {size : Magnitude} {part : Nat} (narrow : part ≤ 31)
    (low : one <<< part ≤ quotientCount size least)
    (high : quotientCount size least < one <<< (part + 1)) :
    (finite false size / finite false least).RoundsUp ↔ part < wholeLog (quotientCount size least) := by
  have fits : nearestCount (size.count * one) least.count < overflow := by
    rw [overflow_eq]
    exact Nat.lt_trans high (one_shiftLeft_lt_iff.2 (by omega))
  rw [div_finite size windows.positive, ofCounts, dif_pos fits, roundsUp_finite (one_le_of_shiftLeft_le low)]
  change quotientCount size least < one <<< wholeLog (quotientCount size least) ↔ _
  constructor
  · intro below
    exact one_shiftLeft_lt_iff.1 (Nat.lt_of_le_of_lt low below)
  · intro above
    exact Nat.lt_of_lt_of_le high (shiftLeft_le_shiftLeft_right one above)

/-- A logarithm is only rounded up to three or more, less than twelve significands below. -/
theorem close_of_lt_wholeLog {size : Magnitude} {part : Nat} (narrow : part ≤ 31)
    (low : one <<< part ≤ quotientCount size least)
    (high : quotientCount size least < one <<< (part + 1))
    (up : part < wholeLog (quotientCount size least)) :
    2 ≤ part ∧ wholeLog (quotientCount size least) = part + 1 ∧
      least.count <<< (part + 1) * 0x1FFFFFFFFFFFF4 < size.count * 0x20000000000000 := by
  obtain ⟨few, nothing⟩ := roundingUp_bounds (by omega : part < 32)
  have positive := missing_pos (quotientCount size least)
  have log := wholeLog_of_binade low high
  have near : missing (quotientCount size least) ≤ roundingUp part := by
    apply Classical.byContradiction
    intro far
    rw [log, if_neg far] at up
    omega
  rw [if_pos near] at log
  refine ⟨by omega, log, ?_⟩
  apply Classical.byContradiction
  intro short
  -- At twelve significands or more the quotient would have been rounded to no more than that.
  have below : quotientCount size least ≤ 0x1FFFFFFFFFFFF4 <<< (part + 1 + scale - 53) :=
    nearestCount_le_of_short (by decide) (by omega) windows.positive (Nat.le_of_not_lt short)
  have grid : spare (quotientCount size least) = part + 1 + scale - 53 := by
    rw [spare, log2_of_binade low high]
    omega
  have top : quotientCount size least >>> spare (quotientCount size least) ≤ 0x1FFFFFFFFFFFF4 := by
    rw [grid, Nat.shiftRight_eq_div_pow]
    rw [Nat.shiftLeft_eq] at below
    exact Nat.div_le_of_le_mul (Nat.mul_comm _ _ ▸ below)
  rw [missing] at near
  omega

theorem held_cases {size : Magnitude} (low : multiplier * unit ≤ (size.count : ℚ) / one)
    (high : (size.count : ℚ) / one < 2 ^ 32 * (multiplier * unit)) :
    let exponent := min (wholeLog (quotientCount size least)) 31
    size.count < 2 * least.count <<< exponent ∧
      (least.count <<< exponent ≤ size.count ↔
        ((finite false size / finite false least).RoundsUp →
          2 ^ 31 * (multiplier * unit) ≤ (size.count : ℚ) / one)) ∧
      (size.count < least.count <<< exponent → 3 ≤ exponent ∧
        least.count <<< exponent * 0x1FFFFFFFFFFFF4 < size.count * 0x20000000000000) := by
  intro exponent
  obtain ⟨part, narrow, below, above, reached, short⟩ := windows.exponent_cases low high
  have log := le_wholeLog reached
  have fitted : exponent = min (wholeLog (quotientCount size least)) 31 := rfl
  have order := shiftLeft_le_iff below above
  refine ⟨?_, ?_, ?_⟩
  · have doubled : 2 * least.count <<< exponent = least.count <<< (exponent + 1) := by
      rw [Nat.shiftLeft_succ]
    rw [doubled]
    exact Nat.lt_of_lt_of_le above (shiftLeft_le_shiftLeft_right least.count (by omega))
  · rw [order, windows.roundsUp_iff narrow reached short, windows.le_iff, order, fitted]
    have := windows.close_of_lt_wholeLog narrow reached short
    omega
  · intro beyond
    have larger : part < exponent := Nat.lt_of_not_le (mt (order _).2 (Nat.not_le.2 beyond))
    obtain ⟨least', same, close⟩ := windows.close_of_lt_wholeLog narrow reached short (by omega)
    have next : exponent = part + 1 := by omega
    rw [next]
    exact ⟨by omega, close⟩

theorem seconds_encode {word after : Word} {term : Term} {longTerm shortTerm : Option Limit} {limit : Limit}
    (fraction_eq : fraction = fractionOf term.fields word)
    (encoded : encode zone units word longTerm shortTerm = .ok after)
    (given : term.pick longTerm shortTerm = some limit) (asked : limit.seconds = finite false size)
    (positive : 0 < size.count) :
    (decodeConstraint zone units term.fields after).seconds.toRat? =
      some ((least.count <<< min (wholeLog (quotientCount size least)) 31 : ℕ) / one : ℚ) := by
  have settled := setting_encode encoded term
  rw [given, Option.elim_some, limited, asked, if_pos (isPositive_finite positive)] at settled
  have exponent : (term.fields.exponent.get after).toNat =
      windowExponent term.fields (windowLog zone units (fractionOf term.fields word) (finite false size)) :=
    congrArg Setting.exponent settled
  have kept : (term.fields.fraction.get after).toNat = fractionOf term.fields word :=
    congrArg Setting.fraction settled
  rw [← fraction_eq] at exponent kept
  rw [windows.windowExponent_finite] at exponent
  obtain ⟨_, seconds⟩ := windows.seconds (min (wholeLog (quotientCount size least)) 31) (by omega)
  unfold decodeConstraint
  dsimp only
  rw [exponent, kept, seconds, toRat?_finite]

end Windows

/-- The time window that is read back is more than half of the one that was set. It is not above that one
but where the logarithm is rounded up, and there it is above by less than twelve significands. -/
theorem seconds_read_back (zone : Zone) (unitWord : Word) (signature : Signature) (word : Word)
    (term : Term) :
    let units := UnitScale.ofWord unitWord signature
    let multiplier := zone.domainClass.multiplier (fractionOf term.fields word)
    ∃ unit factor : ℚ, units.time.toRat? = some unit ∧ multiplier.toRat? = some factor ∧
      ∀ longTerm shortTerm limit seconds, (shortTerm.isSome → zone.domainClass.hasShortTerm) →
        term.pick longTerm shortTerm = some limit → limit.seconds.toRat? = some seconds →
        factor * unit ≤ seconds → seconds < 2 ^ 32 * (factor * unit) →
        ∃ after got held, encode zone units word longTerm shortTerm = .ok after ∧
          (decodeLimits zone units after).limit? term = some got ∧
          got.seconds.toRat? = some held ∧ seconds < 2 * held ∧
          (held ≤ seconds ↔ ((limit.seconds / (units.time * multiplier)).RoundsUp →
            2 ^ 31 * (factor * unit) ≤ seconds)) ∧
          (seconds < held → 8 * (factor * unit) ≤ held ∧ held * (1 - 12 / 2 ^ 53) < seconds) := by
  intro units multiplier
  have halved := UnitScale.isHalved_ofWord unitWord signature
  obtain ⟨unit, factor, least, windows⟩ := exists_windows zone halved (fraction_lt term word)
  refine ⟨unit, factor, windows.time, windows.factor, ?_⟩
  intro longTerm shortTerm limit seconds allowed given number low high
  have shortest : 0 < (least.count : ℚ) / one :=
    div_pos (Nat.cast_pos.2 windows.positive) one_cast_pos
  have lasting : 0 < seconds := lt_of_lt_of_le (windows.value ▸ shortest) low
  obtain ⟨size, asked, rfl⟩ := eq_finite_of_toRat? number lasting
  have positive : 0 < size.count := Nat.cast_pos.1 ((div_pos_iff_of_pos_right one_cast_pos).1 lasting)
  obtain ⟨after, encoded⟩ : ∃ after, encode zone units word longTerm shortTerm = .ok after :=
    exists_encode allowed
  obtain ⟨half, exact, close⟩ := windows.held_cases low high
  refine ⟨after, _, _, encoded, limit?_decodeLimits allowed given after,
    windows.seconds_encode rfl encoded given asked positive, ?_, ?_, ?_⟩
  · rw [← mul_div_assoc, div_lt_div_iff_of_pos_right one_cast_pos]
    exact_mod_cast half
  · have divisor : units.time * multiplier = finite false least := windows.divisor
    rw [div_le_div_iff_of_pos_right one_cast_pos, Nat.cast_le, exact, asked, divisor]
  · intro above
    rw [div_lt_div_iff_of_pos_right one_cast_pos, Nat.cast_lt] at above
    obtain ⟨large, near⟩ := close above
    constructor
    · have eight := shiftLeft_le_shiftLeft_right least.count large
      rw [Nat.shiftLeft_eq least.count 3, Nat.mul_comm] at eight
      rw [windows.value, ← mul_div_assoc, div_le_div_iff_of_pos_right one_cast_pos]
      exact_mod_cast eight
    · rw [div_mul_eq_mul_div, div_lt_div_iff_of_pos_right one_cast_pos]
      have near := (Nat.cast_lt (α := ℚ)).2 near
      push_cast at near
      linarith

theorem seconds_read_back_five :
    let units := UnitScale.ofWord 0xA0E03 ⟨"GenuineIntel", 6, 158, 10⟩
    ∃ after got held, encode .package units 0x1D8190 (some ⟨.zero, .ofNat 5⟩) none = .ok after ∧
      (decodeLimits .package units after).limit? .long = some got ∧
      got.seconds.toRat? = some held ∧ 5 < 2 * held := by
  have deep := scale_eq
  obtain ⟨unit, factor, time, multiplier, reads⟩ := seconds_read_back .package 0xA0E03
    ⟨"GenuineIntel", 6, 158, 10⟩ 0x1D8190 .long
  have second : unit = 1 / 2 ^ 10 :=
    Option.some.inj (time.symm.trans (toRat?_halfPow (by omega : 10 ≤ Binary64.scale)))
  have whole : DomainClass.packagePlatform.multiplier (fractionOf Term.long.fields 0x1D8190) =
      .halfPow 0 := by decide +kernel
  have one : factor = 1 / 2 ^ 0 := by
    refine Option.some.inj (multiplier.symm.trans ?_)
    exact (congrArg toRat? whole).trans (toRat?_halfPow (by omega : 0 ≤ Binary64.scale))
  have five := toRat?_ofNat (by decide : 5 < 0x20000000000000)
  obtain ⟨after, got, held, encoded, decoded, number, half, _⟩ := reads (some ⟨.zero, .ofNat 5⟩) none
    _ _ nofun rfl five (by rw [second, one]; norm_num) (by rw [second, one]; norm_num)
  exact ⟨after, got, held, encoded, decoded, number, half⟩

/-- The last window below eight units: the logarithm is rounded up to three, and eight units are held. -/
theorem seconds_read_back_above :
    let units := UnitScale.ofWord 0xA0E03 ⟨"GenuineIntel", 6, 158, 10⟩
    let seconds := ofBits 0x3F7FFFFFFFFFFFFF
    let least := units.time * DomainClass.packagePlatform.multiplier 0
    least.le seconds ∧ seconds.lt (.ofNat 8 * least) ∧
      encode .package units 0 (some ⟨.zero, seconds⟩) none = .ok 0x60000 ∧
      (decodeLimits .package units 0x60000).longTerm.seconds = .ofNat 8 * least := by
  decide +kernel

end LimitRegister

end PowerLimits
