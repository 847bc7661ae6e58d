import PowerLimits.Binary64.Arith
import PowerLimits.Event
import PowerLimits.LimitRegister.Flags

/-!
The limits that a limit register holds. Power is a count of the power unit; a time window is
`2 ^ Y · F(Z)` counts of the time unit, where the fraction multiplier `F` depends on the class.
-/
namespace PowerLimits

/-- The multiplier `F(Z)`: quarters for the package and platform, tenths for the planes. -/
def DomainClass.multiplier : DomainClass → Nat → Binary64
  | .packagePlatform, fraction => .ofNat 1 + .ofNat fraction / .ofNat 4
  | .powerPlane, fraction => .ofNat 1 + .ofRatio 1 10 * .ofNat fraction

namespace LimitRegister

def decodeConstraint (zone : Zone) (scale : UnitScale) (fields : Constraint) (word : Word) :
    Limit :=
  let exponent := (fields.exponent.get word).toNat
  let fraction := (fields.fraction.get word).toNat
  { watts := scale.power * .ofNat (fields.power.get word).toNat
    seconds := .ofNat (1 <<< exponent) * zone.domainClass.multiplier fraction * scale.time }

def decodeLimits (zone : Zone) (scale : UnitScale) (word : Word) : ZoneLimits where
  longTerm := decodeConstraint zone scale .longTerm word
  shortTerm :=
    if zone.domainClass.hasShortTerm then some (decodeConstraint zone scale .shortTerm word)
    else none

def decode (zone : Zone) (scale : UnitScale) (word : Word) : LimitState where
  enabled := isEnabled zone word
  clamped := isClamped zone word
  locked := isLocked zone word
  limits := decodeLimits zone scale word

def decodeEvents (zone : Zone) (limits : ZoneLimits) : List Event :=
  .limitDecoded zone .long limits.longTerm ::
    (limits.shortTerm.map (.limitDecoded zone .short)).toList

end LimitRegister

end PowerLimits
