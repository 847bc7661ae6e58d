import PowerLimits.Layout

/-!
The flags of a limit register. A zone counts as enabled or clamped only when every constraint that
it has is; setting a flag sets it for all of them.
-/
namespace PowerLimits.LimitRegister

def isEnabled (zone : Zone) (word : Word) : Bool :=
  zone.domainClass.constraints.all (·.enable.isSet word)

/-- Enabling also clamps, and disabling takes the clamp away. -/
def setEnabled (zone : Zone) (word : Word) (enabled : Bool) : Word :=
  zone.domainClass.constraints.foldl
    (fun word fields => fields.clamp.setFlag (fields.enable.setFlag word enabled) enabled) word

def isClamped (zone : Zone) (word : Word) : Bool :=
  zone.domainClass.constraints.all (·.clamp.isSet word)

def setClamped (zone : Zone) (word : Word) (clamped : Bool) : Word :=
  zone.domainClass.constraints.foldl (fun word fields => fields.clamp.setFlag word clamped) word

/-- A locked register keeps its contents until the processor is reset. -/
def isLocked (zone : Zone) (word : Word) : Bool := zone.domainClass.lockBit.isSet word

end PowerLimits.LimitRegister
