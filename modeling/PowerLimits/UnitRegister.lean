import PowerLimits.Binary64.Round
import PowerLimits.Layout

/-!
The unit register: three exponents, each of which makes a unit by halving one that often.
-/
namespace PowerLimits

/-- The exponents of the units in which the other registers count. -/
structure UnitRegister where
  power : Nat
  energy : Nat
  time : Nat
deriving DecidableEq

namespace UnitRegister

def ofWord (word : Word) : UnitRegister where
  power := (powerField.get word).toNat
  energy := (energyField.get word).toNat
  time := (timeField.get word).toNat

/-- The word with these exponents, cut to their fields, and nothing else. -/
def toWord (units : UnitRegister) : Word :=
  let word := powerField.replace 0 (BitVec.ofNat 64 units.power)
  let word := energyField.replace word (BitVec.ofNat 64 units.energy)
  timeField.replace word (BitVec.ofNat 64 units.time)

inductive Overflow where
  | power
  | energy
  | time
deriving DecidableEq

def Overflow.message : Overflow → String
  | .power => "Power units must be <= 15 (4 bits)"
  | .energy => "Energy units must be <= 31 (5 bits)"
  | .time => "Time units must be <= 15 (4 bits)"

/-- The first exponent that does not fit its field, if there is one. -/
def validate (units : UnitRegister) : Except Overflow Unit :=
  if powerField.largest.toNat < units.power then .error .power
  else if energyField.largest.toNat < units.energy then .error .energy
  else if timeField.largest.toNat < units.time then .error .time
  else .ok ()

def watts (units : UnitRegister) : Binary64 := .halfPow units.power

def joules (units : UnitRegister) : Binary64 := .halfPow units.energy

def seconds (units : UnitRegister) : Binary64 := .halfPow units.time

end UnitRegister

end PowerLimits
