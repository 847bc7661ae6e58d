import PowerLimits.Binary64.Basic

/-!
Power limits in physical units, and all that a limit register says about its zone.
-/
namespace PowerLimits

/-- A power ceiling averaged over a time window. -/
structure Limit where
  watts : Binary64
  seconds : Binary64
deriving DecidableEq

structure ZoneLimits where
  longTerm : Limit
  /-- Only zones of the package and platform class have one. -/
  shortTerm : Option Limit
deriving DecidableEq

structure LimitState where
  enabled : Bool
  clamped : Bool
  locked : Bool
  limits : ZoneLimits
deriving DecidableEq

end PowerLimits
