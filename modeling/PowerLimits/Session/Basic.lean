import PowerLimits.EnergyStatus
import PowerLimits.LimitRegister.Encode
import PowerLimits.Store.Register

/-!
A session holds a handle for each socket and the units of their registers. Every operation on a zone
checks the socket first, then the zone, and only then touches a register; a limit register is only
ever changed by reading it, computing the new word and writing that.
-/
namespace PowerLimits

structure Session (Handle : Type) where
  handles : List Handle
  scale : UnitScale
  features : Features

namespace Session

variable {σ Handle : Type} [RegisterStore σ Handle]

open RegisterStore

def numSockets (session : Session Handle) : Nat := session.handles.length

def handle (session : Session Handle) (socket : Nat) : Except Error Handle :=
  match session.handles[socket]? with
  | some handle => .ok handle
  | none => .error (.invalidArgument (.socketOutOfRange socket session.numSockets))

/-- The handle for an operation on a zone that the platform has. -/
def zoneHandle (session : Session Handle) (socket : Nat) (zone : Zone) : Except Error Handle := do
  let handle ← session.handle socket
  if zone.isSupported session.features then return handle
  else .error (.unsupported (.missingZone zone))

def readLimit (session : Session Handle) (socket : Nat) (zone : Zone) : Action σ Error Word := do
  readRegister (← Action.ofExcept (session.zoneHandle socket zone)) zone.limitRegister

/-- Exchange a zone's limit word for one computed from it. -/
def modifyLimit (session : Session Handle) (socket : Nat) (zone : Zone)
    (update : Word → Except ArgumentFault Word) (events : Word → List Event) :
    Action σ Error Unit := do
  let handle ← Action.ofExcept (session.zoneHandle socket zone)
  let old ← readRegister handle zone.limitRegister
  Action.note (events old)
  let new ← Action.ofExcept ((update old).mapError .invalidArgument)
  Action.note [.limitChanged socket zone old new]
  writeRegister handle zone.limitRegister new

/-- Whether the platform has the zone; no register is touched. -/
def zoneSupported (session : Session Handle) (socket : Nat) (zone : Zone) : Except Error Bool := do
  let _ ← session.handle socket
  return zone.isSupported session.features

def isEnabled (session : Session Handle) (socket : Nat) (zone : Zone) : Action σ Error Bool :=
  return LimitRegister.isEnabled zone (← session.readLimit socket zone)

/-- Enable or disable a zone's limits, and clamping with them. -/
def setEnabled (session : Session Handle) (socket : Nat) (zone : Zone) (enabled : Bool) :
    Action σ Error Unit :=
  session.modifyLimit socket zone
    (fun word => .ok (LimitRegister.setEnabled zone word enabled)) fun _ => []

def isClamped (session : Session Handle) (socket : Nat) (zone : Zone) : Action σ Error Bool :=
  return LimitRegister.isClamped zone (← session.readLimit socket zone)

def setClamped (session : Session Handle) (socket : Nat) (zone : Zone) (clamped : Bool) :
    Action σ Error Unit :=
  session.modifyLimit socket zone
    (fun word => .ok (LimitRegister.setClamped zone word clamped)) fun _ => []

def isLocked (session : Session Handle) (socket : Nat) (zone : Zone) : Action σ Error Bool :=
  return LimitRegister.isLocked zone (← session.readLimit socket zone)

def getLimits (session : Session Handle) (socket : Nat) (zone : Zone) :
    Action σ Error ZoneLimits := do
  let limits := LimitRegister.decodeLimits zone session.scale (← session.readLimit socket zone)
  Action.note (LimitRegister.decodeEvents zone limits)
  return limits

def limitState (session : Session Handle) (socket : Nat) (zone : Zone) :
    Action σ Error LimitState := do
  let state := LimitRegister.decode zone session.scale (← session.readLimit socket zone)
  Action.note (LimitRegister.decodeEvents zone state.limits)
  return state

/-- Set new limits; a constraint for which none is given stays as it is. -/
def setLimits (session : Session Handle) (socket : Nat) (zone : Zone)
    (longTerm shortTerm : Option Limit) : Action σ Error Unit :=
  session.modifyLimit socket zone
    (fun word => LimitRegister.encode zone session.scale word longTerm shortTerm)
    (fun word => LimitRegister.encodeEvents zone session.scale word longTerm shortTerm)

def energyCounter (session : Session Handle) (socket : Nat) (zone : Zone) :
    Action σ Error Binary64 := do
  let handle ← Action.ofExcept (session.zoneHandle socket zone)
  let status := EnergyStatus.ofWord (← readRegister handle zone.energyRegister)
  return .ofNat status.counter.toNat * session.scale.energyFor zone

/-- The joules at which the energy count is zero again. -/
def energyCounterMax (session : Session Handle) (socket : Nat) (zone : Zone) :
    Except Error Binary64 := do
  let _ ← session.zoneHandle socket zone
  return .ofNat EnergyStatus.wrap * session.scale.energyFor zone

def powerUnits (session : Session Handle) (socket : Nat) (zone : Zone) : Except Error Binary64 := do
  let _ ← session.zoneHandle socket zone
  return session.scale.power

def timeUnits (session : Session Handle) (socket : Nat) (zone : Zone) : Except Error Binary64 := do
  let _ ← session.zoneHandle socket zone
  return session.scale.time

def energyUnits (session : Session Handle) (socket : Nat) (zone : Zone) :
    Except Error Binary64 := do
  let _ ← session.zoneHandle socket zone
  return session.scale.energyFor zone

end Session

end PowerLimits
