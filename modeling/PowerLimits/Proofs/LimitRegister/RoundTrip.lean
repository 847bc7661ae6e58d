import PowerLimits.Proofs.Binary64.Logarithm
import PowerLimits.Proofs.LimitRegister.Settings

/-! Limits that were read can be set again without a change. The units are powers of one half, so
power is decoded and counted again exactly; and a time window is the multiplier of its fraction,
scaled by powers of two, so the quotient of the two is a power of two and its logarithm the exponent. -/
namespace PowerLimits

/-- What is noted of a quantity that did not fit its field. -/
def Event.IsSaturation : Event → Prop
  | .powerTooLarge .. | .windowTooSmall .. | .windowTooLarge .. => True
  | _ => False

theorem BitRange.toNat_get_lt {range : BitRange} (word : Word) {bound : Nat}
    (fits : range.largest.toNat < bound) : (range.get word).toNat < bound :=
  Nat.lt_of_le_of_lt (toNat_get_le range word) fits

namespace DomainClass
open Binary64

/-- From one on and below two. -/
def isMultiplier : Binary64 → Bool
  | .finite false size => one ≤ size.count ∧ size.count < 2 * one
  | _ => false

theorem isMultiplier_multiplier (family : DomainClass) :
    ∀ fraction < 4, isMultiplier (family.multiplier fraction) := by
  cases family <;> decide +kernel

theorem dyadic_multiplier (family : DomainClass) {fraction : Nat} (small : fraction < 4) :
    ∃ significand, 0 < significand ∧ significand < 0x20000000000000 ∧
      Dyadic (family.multiplier fraction) significand (Binary64.scale - 52) := by
  have bounds := isMultiplier_multiplier family fraction small
  generalize family.multiplier fraction = value at bounds
  cases value with
  | finite negative size =>
    cases negative with
    | false =>
      obtain ⟨low, high⟩ := of_decide_eq_true bounds
      exact dyadic_of_bounds low high
    | true => contradiction
  | _ => contradiction

end DomainClass

/-- Units as a unit register gives them. -/
structure UnitScale.IsHalved (units : UnitScale) : Prop where
  power : ∃ halvings < 16, units.power = .halfPow halvings
  time : ∃ halvings < 16, units.time = .halfPow halvings

theorem UnitScale.isHalved_ofWord (word : Word) (signature : Signature) :
    (UnitScale.ofWord word signature).IsHalved where
  power := ⟨_, BitRange.toNat_get_lt word (by decide), rfl⟩
  time := ⟨_, BitRange.toNat_get_lt word (by decide), rfl⟩

namespace LimitRegister
open BitRange Binary64

variable {zone : Zone} {units : UnitScale} {term : Term} {word : Word}

theorem dyadic_watts {halvings count : Nat} (unit : units.power = .halfPow halvings)
    (few : halvings < 16) (small : count < 0x8000) :
    Dyadic (units.power * .ofNat count) count (Binary64.scale - halvings) := by
  have deep := scale_eq
  have power : Dyadic units.power 1 (Binary64.scale - halvings) := unit ▸ dyadic_halfPow (by omega)
  exact power.mul (dyadic_ofNat (by omega)) (Nat.one_mul count) (by omega) (by omega) (by omega)

theorem wholePower_decoded (halved : units.IsHalved) {count : Nat} (small : count < 0x8000) :
    wholePower units (units.power * .ofNat count) = count := by
  have deep := scale_eq
  obtain ⟨halvings, few, unit⟩ := halved.power
  have power : Dyadic units.power 1 (Binary64.scale - halvings) := unit ▸ dyadic_halfPow (by omega)
  have counted : Dyadic (units.power * .ofNat count / units.power) count Binary64.scale :=
    (dyadic_watts unit few small).div power (Nat.mul_one count).symm (by omega) Nat.one_pos
      (by omega) (by omega)
  apply counted.truncate
  unfold largestWord
  omega

theorem dyadic_time (halved : units.IsHalved) :
    ∃ halvings < 16, Dyadic units.time 1 (Binary64.scale - halvings) := by
  have deep := scale_eq
  obtain ⟨halvings, few, unit⟩ := halved.time
  exact ⟨halvings, few, unit ▸ dyadic_halfPow (by omega)⟩

section Windows

variable {halvings fraction significand : Nat} (few : halvings < 16)
  (time : Dyadic units.time 1 (Binary64.scale - halvings)) (fits : significand < 0x20000000000000)
  (multiplier : Dyadic (zone.domainClass.multiplier fraction) significand (Binary64.scale - 52))

include few time fits multiplier

/-- The shortest time window of a fraction. -/
theorem dyadic_least : Dyadic (units.time * zone.domainClass.multiplier fraction) significand
    (Binary64.scale - 52 - halvings) := by
  have deep := scale_eq
  exact time.mul multiplier (Nat.one_mul significand) (by omega) fits (by omega)

/-- Every other window is the shortest one, shifted by the exponent. -/
theorem dyadic_seconds {exponent : Nat} (short : exponent < 32) :
    Dyadic (.ofNat (1 <<< exponent) * zone.domainClass.multiplier fraction * units.time) significand
      (Binary64.scale - 52 - halvings + exponent) := by
  have deep := scale_eq
  have power : Dyadic (.ofNat (1 <<< exponent)) 1 (exponent + Binary64.scale) :=
    dyadic_twoPow (by omega)
  have counts : Dyadic (.ofNat (1 <<< exponent) * zone.domainClass.multiplier fraction) significand
      (exponent + Binary64.scale - 52) :=
    power.mul multiplier (Nat.one_mul significand) (by omega) fits (by omega)
  exact counts.mul time (Nat.mul_one significand) (by omega) fits (by omega)

end Windows

/-- The quotient is the power of two, whatever the multiplier was rounded to. -/
theorem dyadic_windowQuotient (zone : Zone) (halved : units.IsHalved) {exponent fraction : Nat}
    (short : exponent < 32) (small : fraction < 4) :
    Dyadic (windowQuotient zone units fraction
      (.ofNat (1 <<< exponent) * zone.domainClass.multiplier fraction * units.time)) 1
        (exponent + Binary64.scale) := by
  have deep := scale_eq
  obtain ⟨halvings, few, time⟩ := dyadic_time halved
  obtain ⟨significand, positive, fits, multiplier⟩ := zone.domainClass.dyadic_multiplier small
  have least := dyadic_least few time fits multiplier
  have seconds := dyadic_seconds few time fits multiplier short
  exact seconds.div least (Nat.one_mul significand).symm (by omega) positive (by decide) (by omega)

theorem windowLog_decoded (zone : Zone) (halved : units.IsHalved) {exponent fraction : Nat}
    (short : exponent < 32) (small : fraction < 4) :
    windowLog zone units fraction
      (.ofNat (1 <<< exponent) * zone.domainClass.multiplier fraction * units.time) =
        .whole exponent :=
  (dyadic_windowQuotient zone halved short small).log2_eq

theorem power_lt (term : Term) (word : Word) : (term.fields.power.get word).toNat < 0x8000 := by
  apply toNat_get_lt
  cases term <;> decide

theorem exponent_lt (term : Term) (word : Word) : (term.fields.exponent.get word).toNat < 32 := by
  apply toNat_get_lt
  cases term <;> decide

theorem fraction_lt (term : Term) (word : Word) : (term.fields.fraction.get word).toNat < 4 := by
  apply toNat_get_lt
  cases term <;> decide

theorem wholePower_decodeConstraint (halved : units.IsHalved) (zone : Zone) (term : Term)
    (word : Word) :
    wholePower units (decodeConstraint zone units term.fields word).watts =
      (term.fields.power.get word).toNat :=
  wholePower_decoded halved (power_lt term word)

theorem windowLog_decodeConstraint (halved : units.IsHalved) (zone : Zone) (term : Term)
    (word : Word) :
    windowLog zone units (fractionOf term.fields word)
        (decodeConstraint zone units term.fields word).seconds =
      .whole (term.fields.exponent.get word).toNat :=
  windowLog_decoded zone halved (exponent_lt term word) (fraction_lt term word)

theorem replace_ofNat_get (range : BitRange) (word : Word) :
    range.replace word (BitVec.ofNat 64 (range.get word).toNat) = word := by
  rw [BitVec.ofNat_toNat, BitVec.setWidth_eq, replace_get]

theorem encodePower_decodeConstraint (halved : units.IsHalved) (zone : Zone) (term : Term)
    (word : Word) :
    encodePower units term.fields word (decodeConstraint zone units term.fields word).watts =
      word := by
  rw [encodePower, powerCount, wholePower_decodeConstraint halved,
    Nat.min_eq_left (toNat_get_le term.fields.power word), replace_ofNat_get]

theorem encodeWindow_decodeConstraint (halved : units.IsHalved) (zone : Zone) (term : Term)
    (word : Word) :
    encodeWindow zone units term.fields word (decodeConstraint zone units term.fields word).seconds =
      word := by
  rw [encodeWindow, windowLog_decodeConstraint halved, windowExponent,
    Nat.min_eq_left (toNat_get_le term.fields.exponent word), replace_ofNat_get]

theorem encodeConstraint_decodeConstraint (halved : units.IsHalved) (zone : Zone) (term : Term)
    (word : Word) :
    encodeConstraint zone units term.fields word (decodeConstraint zone units term.fields word) =
      word := by
  simp only [encodeConstraint, encodePower_decodeConstraint halved,
    encodeWindow_decodeConstraint halved, ite_self]

theorem powerEvents_of_fits {fields : Constraint} {watts : Binary64}
    (fits : wholePower units watts ≤ fields.power.largest.toNat) :
    powerEvents zone units fields watts =
      [.powerEncoded zone watts (powerCount units fields watts)] := by
  rw [powerEvents, if_neg (Nat.not_lt.2 fits), List.nil_append]

theorem windowEvents_of_fits {fields : Constraint} {fraction part : Nat} {seconds : Binary64}
    (log : windowLog zone units fraction seconds = .whole part)
    (fits : part ≤ fields.exponent.largest.toNat) :
    windowEvents zone units fields fraction seconds =
      [.windowEncoded zone seconds (windowExponent fields (.whole part)) fraction] := by
  simp only [windowEvents, log]
  rw [if_neg (Nat.not_lt.2 fits), List.nil_append]

theorem not_saturation_of_mem_ite {condition : Prop} [Decidable condition] {note event : Event}
    (quiet : ¬ note.IsSaturation) (member : event ∈ if condition then [note] else []) :
    ¬ event.IsSaturation := by
  split at member
  next =>
    cases List.mem_singleton.1 member
    exact quiet
  next => contradiction

theorem not_saturation_of_mem_constraintEvents (halved : units.IsHalved) (term : Term)
    {event : Event} (member : event ∈ constraintEvents zone units term.fields word
      (decodeConstraint zone units term.fields word)) : ¬ event.IsSaturation := by
  have power := toNat_get_le term.fields.power word
  rw [← wholePower_decodeConstraint halved zone] at power
  have log := windowLog_decodeConstraint halved zone term word
  rw [constraintEvents, powerEvents_of_fits power,
    windowEvents_of_fits log (toNat_get_le term.fields.exponent word)] at member
  obtain member | member := List.mem_append.1 member
  · exact not_saturation_of_mem_ite id member
  · exact not_saturation_of_mem_ite id member

theorem encode_self {longTerm : Limit} {shortTerm : Option Limit}
    (allowed : shortTerm.isSome → zone.domainClass.hasShortTerm)
    (long : encodeConstraint zone units .longTerm word longTerm = word)
    (short : ∀ limit, shortTerm = some limit →
      encodeConstraint zone units .shortTerm word limit = word) :
    encode zone units word (some longTerm) shortTerm = .ok word := by
  rw [encode, not_refused allowed, Option.elim_some, long]
  cases shortTerm with
  | none => rfl
  | some limit =>
    refine congrArg Except.ok ?_
    rw [Option.elim_some]
    exact short limit rfl

theorem shortTerm_decodeLimits {limit : Limit}
    (present : (decodeLimits zone units word).shortTerm = some limit) :
    zone.domainClass.hasShortTerm ∧ limit = decodeConstraint zone units Term.short.fields word := by
  unfold decodeLimits at present
  cases has : zone.domainClass.hasShortTerm with
  | false =>
    rw [has] at present
    contradiction
  | true =>
    rw [has] at present
    exact ⟨rfl, (Option.some.inj present).symm⟩

theorem encode_decoded (halved : units.IsHalved) (zone : Zone) (word : Word) :
    encode zone units word (some (decodeLimits zone units word).longTerm)
      (decodeLimits zone units word).shortTerm = .ok word := by
  apply encode_self
  · intro given
    obtain ⟨limit, present⟩ := Option.isSome_iff_exists.1 given
    exact (shortTerm_decodeLimits present).1
  · exact encodeConstraint_decodeConstraint halved zone .long word
  · intro limit present
    rw [(shortTerm_decodeLimits present).2]
    exact encodeConstraint_decodeConstraint halved zone .short word

theorem not_saturation_of_mem_encodeEvents (halved : units.IsHalved) {event : Event}
    (member : event ∈ encodeEvents zone units word (some (decodeLimits zone units word).longTerm)
      (decodeLimits zone units word).shortTerm) : ¬ event.IsSaturation := by
  unfold encodeEvents at member
  split at member
  next => contradiction
  next =>
    obtain member | member := List.mem_append.1 member
    · exact not_saturation_of_mem_constraintEvents halved .long member
    · cases present : (decodeLimits zone units word).shortTerm with
      | none =>
        rw [present] at member
        contradiction
      | some limit =>
        rw [present, (shortTerm_decodeLimits present).2] at member
        obtain member | member := List.mem_append.1 member
        · exact not_saturation_of_mem_ite id member
        · exact not_saturation_of_mem_constraintEvents halved .short member

/-- Setting the limits that were read, with the units of any unit register, changes no bit of the
word: each quantity is given the count or the exponent it was read from, and nothing is noted to
have been out of range. -/
theorem encode_decodeLimits (zone : Zone) (unitWord : Word) (signature : Signature) (word : Word) :
    let units := UnitScale.ofWord unitWord signature
    let limits := decodeLimits zone units word
    encode zone units word (some limits.longTerm) limits.shortTerm = .ok word ∧
      (∀ event ∈ encodeEvents zone units word (some limits.longTerm) limits.shortTerm,
        ¬ event.IsSaturation) ∧
      ∀ term : Term,
        wholePower units (decodeConstraint zone units term.fields word).watts =
            (term.fields.power.get word).toNat ∧
          windowLog zone units (fractionOf term.fields word)
            (decodeConstraint zone units term.fields word).seconds =
              .whole (term.fields.exponent.get word).toNat := by
  have halved := UnitScale.isHalved_ofWord unitWord signature
  refine ⟨encode_decoded halved zone word, fun _ => not_saturation_of_mem_encodeEvents halved, ?_⟩
  intro term
  exact ⟨wholePower_decodeConstraint halved zone term word,
    windowLog_decodeConstraint halved zone term word⟩

end LimitRegister

end PowerLimits
