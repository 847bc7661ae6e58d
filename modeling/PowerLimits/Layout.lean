import PowerLimits.Zone

/-!
Where the registers keep their fields. A limit register holds one or two constraints, each a power
ceiling over a time window of `2 ^ Y · F(Z)` units with an enable bit and a clamp bit.
-/
namespace PowerLimits

structure Constraint where
  power : BitRange
  enable : BitRange
  clamp : BitRange
  /-- The exponent `Y` of the time window. -/
  exponent : BitRange
  /-- The fraction `Z` of the time window. -/
  fraction : BitRange
deriving DecidableEq

namespace Constraint

def longTerm : Constraint where
  power := { lo := 0, hi := 14 }
  enable := { lo := 15, hi := 15 }
  clamp := { lo := 16, hi := 16 }
  exponent := { lo := 17, hi := 21 }
  fraction := { lo := 22, hi := 23 }

/-- Only the package and the platform have one. -/
def shortTerm : Constraint where
  power := { lo := 32, hi := 46 }
  enable := { lo := 47, hi := 47 }
  clamp := { lo := 48, hi := 48 }
  exponent := { lo := 49, hi := 53 }
  fraction := { lo := 54, hi := 55 }

end Constraint

namespace DomainClass

def constraints : DomainClass → List Constraint
  | .packagePlatform => [.longTerm, .shortTerm]
  | .powerPlane => [.longTerm]

/-- Once set, the bit keeps the limit register as it is until the processor is reset. -/
def lockBit : DomainClass → BitRange
  | .packagePlatform => { lo := 63, hi := 63 }
  | .powerPlane => { lo := 31, hi := 31 }

end DomainClass

namespace UnitRegister

def powerField : BitRange := { lo := 0, hi := 3 }

def energyField : BitRange := { lo := 8, hi := 12 }

def timeField : BitRange := { lo := 16, hi := 19 }

end UnitRegister

def EnergyStatus.counterField : BitRange := { lo := 0, hi := 31 }

end PowerLimits
