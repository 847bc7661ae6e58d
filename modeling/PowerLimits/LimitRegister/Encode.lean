import PowerLimits.Binary64.Log2
import PowerLimits.LimitRegister.Decode

/-!
New limits for a limit register. Power is cut down to whole counts; of a time window only the
exponent is chosen, as the whole part of the logarithm that solves the decoding equation for the
fraction that the register already holds. What does not fit its field takes the nearest value that
does. A quantity that is not strictly positive leaves its field as it is.
-/
namespace PowerLimits.LimitRegister

/-- The count of a power before it is fitted to its field. -/
def wholePower (scale : UnitScale) (watts : Binary64) : Nat := (watts / scale.power).truncate

def powerCount (scale : UnitScale) (fields : Constraint) (watts : Binary64) : Nat :=
  min (wholePower scale watts) fields.power.largest.toNat

/-- A time window in counts of the shortest one with this fraction. -/
def windowQuotient (zone : Zone) (scale : UnitScale) (fraction : Nat) (seconds : Binary64) :
    Binary64 :=
  seconds / (scale.time * zone.domainClass.multiplier fraction)

def windowLog (zone : Zone) (scale : UnitScale) (fraction : Nat) (seconds : Binary64) :
    Binary64.Log2 :=
  (windowQuotient zone scale fraction seconds).log2

def windowExponent (fields : Constraint) : Binary64.Log2 → Nat
  | .undefined | .negative => 0
  | .whole part => min part fields.exponent.largest.toNat
  | .unbounded => fields.exponent.largest.toNat

def fractionOf (fields : Constraint) (word : Word) : Nat := (fields.fraction.get word).toNat

def encodePower (scale : UnitScale) (fields : Constraint) (word : Word) (watts : Binary64) : Word :=
  fields.power.replace word (BitVec.ofNat 64 (powerCount scale fields watts))

def encodeWindow (zone : Zone) (scale : UnitScale) (fields : Constraint) (word : Word)
    (seconds : Binary64) : Word :=
  let log := windowLog zone scale (fractionOf fields word) seconds
  fields.exponent.replace word (BitVec.ofNat 64 (windowExponent fields log))

/-- The word with the strictly positive parts of a limit in one constraint. -/
def encodeConstraint (zone : Zone) (scale : UnitScale) (fields : Constraint) (word : Word)
    (limit : Limit) : Word :=
  let word := if limit.watts.isPositive then encodePower scale fields word limit.watts else word
  if limit.seconds.isPositive then encodeWindow zone scale fields word limit.seconds else word

/-- The word with new limits in the constraints for which one is given. A short term limit for a zone
that has none is refused. -/
def encode (zone : Zone) (scale : UnitScale) (word : Word) (longTerm shortTerm : Option Limit) :
    Except ArgumentFault Word :=
  if shortTerm.isSome && !zone.domainClass.hasShortTerm then .error (.noShortTerm zone)
  else
    let word := longTerm.elim word (encodeConstraint zone scale .longTerm word)
    .ok (shortTerm.elim word (encodeConstraint zone scale .shortTerm word))

def powerEvents (zone : Zone) (scale : UnitScale) (fields : Constraint) (watts : Binary64) :
    List Event :=
  let most := fields.power.largest.toNat
  (if most < wholePower scale watts then
    [.powerTooLarge zone watts (.ofNat most * scale.power)] else []) ++
    [.powerEncoded zone watts (powerCount scale fields watts)]

def windowEvents (zone : Zone) (scale : UnitScale) (fields : Constraint) (fraction : Nat)
    (seconds : Binary64) : List Event :=
  let log := windowLog zone scale fraction seconds
  let most := fields.exponent.largest.toNat
  let tooLarge : Event := .windowTooLarge zone seconds most
  (match log with
    | .undefined => []
    | .negative =>
      [.windowTooSmall zone seconds (zone.domainClass.multiplier fraction * scale.time)]
    | .whole part => if most < part then [tooLarge] else []
    | .unbounded => [tooLarge]) ++
    [.windowEncoded zone seconds (windowExponent fields log) fraction]

def constraintEvents (zone : Zone) (scale : UnitScale) (fields : Constraint) (word : Word)
    (limit : Limit) : List Event :=
  (if limit.watts.isPositive then powerEvents zone scale fields limit.watts else []) ++
    (if limit.seconds.isPositive then
      windowEvents zone scale fields (fractionOf fields word) limit.seconds else [])

/-- What is noted while limits are encoded. Nothing is noted of a request that is refused, and neither
constraint's fraction is changed by the other, so both are read from the word as it was. -/
def encodeEvents (zone : Zone) (scale : UnitScale) (word : Word)
    (longTerm shortTerm : Option Limit) : List Event :=
  if shortTerm.isSome && !zone.domainClass.hasShortTerm then []
  else
    longTerm.elim [] (constraintEvents zone scale .longTerm word) ++
      shortTerm.elim [] fun limit =>
        (if zone = .psys ∧ limit.seconds.isPositive then [.windowChosenByProcessor] else []) ++
          constraintEvents zone scale .shortTerm word limit

end PowerLimits.LimitRegister
