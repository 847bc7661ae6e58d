import PowerLimits.Session.Basic

/-!
The operations on a zone of a session as data, and their answers, so that a course of a session is a
list.
-/
namespace PowerLimits

inductive Operation where
  | zoneSupported
  | isEnabled
  | isClamped
  | isLocked
  | getLimits
  | limitState
  | setEnabled (enabled : Bool)
  | setClamped (clamped : Bool)
  | setLimits (longTerm shortTerm : Option Limit)
  | energyCounter
  | energyCounterMax
  | powerUnits
  | timeUnits
  | energyUnits
deriving DecidableEq

inductive Answer where
  | done
  | flag (flag : Bool)
  | limits (limits : ZoneLimits)
  | state (state : LimitState)
  | quantity (value : Binary64)
deriving DecidableEq

structure Request where
  socket : Nat
  zone : Zone
  operation : Operation
deriving DecidableEq

namespace Session

variable {σ Handle : Type} [RegisterStore σ Handle]

def perform (session : Session Handle) (request : Request) : Action σ Error Answer :=
  let ⟨socket, zone, operation⟩ := request
  match operation with
  | .zoneSupported => return .flag (← Action.ofExcept (session.zoneSupported socket zone))
  | .isEnabled => return .flag (← session.isEnabled socket zone)
  | .isClamped => return .flag (← session.isClamped socket zone)
  | .isLocked => return .flag (← session.isLocked socket zone)
  | .getLimits => return .limits (← session.getLimits socket zone)
  | .limitState => return .state (← session.limitState socket zone)
  | .setEnabled enabled => do
    session.setEnabled socket zone enabled
    return .done
  | .setClamped clamped => do
    session.setClamped socket zone clamped
    return .done
  | .setLimits longTerm shortTerm => do
    session.setLimits socket zone longTerm shortTerm
    return .done
  | .energyCounter => return .quantity (← session.energyCounter socket zone)
  | .energyCounterMax => return .quantity (← Action.ofExcept (session.energyCounterMax socket zone))
  | .powerUnits => return .quantity (← Action.ofExcept (session.powerUnits socket zone))
  | .timeUnits => return .quantity (← Action.ofExcept (session.timeUnits socket zone))
  | .energyUnits => return .quantity (← Action.ofExcept (session.energyUnits socket zone))

/-- A course of a session: the store after it, and the answer to each request. A request that fails
does not end the course. -/
def performAll (session : Session Handle) (store : σ) :
    List Request → σ × List (Except Error Answer)
  | [] => (store, [])
  | request :: rest =>
    let outcome := (session.perform request).run store
    let (last, results) := performAll session outcome.store rest
    (last, outcome.result :: results)

end Session

end PowerLimits
