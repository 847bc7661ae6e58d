import PowerLimits.Signature
import PowerLimits.UnitRegister

/-!
The physical size of one count, shared by every socket and zone of a session.
-/
namespace PowerLimits

structure UnitScale where
  /-- Watts for each count of power. -/
  power : Binary64
  /-- Seconds for each count of time. -/
  time : Binary64
  /-- Joules for each count of energy. -/
  energy : Binary64
  /-- Joules for each count of DRAM energy. -/
  dramEnergy : Binary64
deriving DecidableEq

namespace UnitScale

/-- DRAM energy is counted like all energy unless it has a unit of its own. -/
def ofRegister (units : UnitRegister) (dramEnergy : Option Binary64) : UnitScale where
  power := units.watts
  time := units.seconds
  energy := units.joules
  dramEnergy := dramEnergy.getD units.joules

def ofWord (word : Word) (signature : Signature) : UnitScale :=
  ofRegister (.ofWord word) signature.dramEnergy?

def energyFor (scale : UnitScale) : Zone → Binary64
  | .dram => scale.dramEnergy
  | _ => scale.energy

end UnitScale

end PowerLimits
