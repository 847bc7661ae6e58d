import PowerLimits.CommandLine.Options
import PowerLimits.CommandLine.Report
import PowerLimits.Session.Basic

/-!
Carrying out a request on an open session: a report, or new settings. A zone that is to be disabled is
disabled before its limits are set, and any other is enabled after that.
-/
namespace PowerLimits

inductive Step where
  | countSockets
  | openSession
  | getLimits
  | disableZone
  | setLimits
  | enableZone
deriving DecidableEq

def Step.message : Step → String
  | .countSockets => "Failed to get number of sockets"
  | .openSession => "Failed to initialize"
  | .getLimits => "Failed to get limits"
  | .disableZone => "Failed to disable zone"
  | .setLimits => "Failed to set limits"
  | .enableZone => "Failed to enable zone"

inductive Failure where
  | zoneNotSupported (zone : Zone)
  | during (step : Step) (error : Error)
deriving DecidableEq

/-- The failure and those behind it, the nearest first. -/
def Failure.chain : Failure → List String
  | .zoneNotSupported zone => [s!"Zone {zone.name} not supported"]
  | .during step error => step.message :: error.chain

namespace Session

variable {σ Handle α : Type} [RegisterStore σ Handle]

/-- The flag that an action finds; if it fails that is noted. -/
def flagOr (action : Action σ Error Bool) (event : Error → Event) :
    Action σ Failure (Option Bool) := do
  match ← action.attempt with
  | .ok flag => return some flag
  | .error error =>
    Action.note [event error]
    return none

def report (session : Session Handle) (socket : Nat) (zone : Zone) : Action σ Failure Report := do
  let enabled ← flagOr (session.isEnabled socket zone) .enabledUnknown
  let locked ← flagOr (session.isLocked socket zone) .lockedUnknown
  let limits ← (session.getLimits socket zone).mapError (.during .getLimits)
  let joules ← (session.energyCounter socket zone).attempt
  let joulesMax := session.energyCounterMax socket zone
  return ⟨enabled, limits, joules.toOption, joulesMax.toOption, locked⟩

def configure (session : Session Handle) (options : Options) : Action σ Failure Unit := do
  let setEnabled (step : Step) (enabled : Bool) : Action σ Failure Unit :=
    (session.setEnabled options.socket options.zone enabled).mapError (.during step)
  if options.disables then setEnabled .disableZone false
  if options.longTerm.isSome || options.shortTerm.isSome then
    (session.setLimits options.socket options.zone options.longTerm options.shortTerm).mapError
      (.during .setLimits)
  if !options.disables then setEnabled .enableZone true

def run (session : Session Handle) (options : Options) : Action σ Failure (List String) := do
  match session.zoneSupported options.socket options.zone with
  | .ok false => Action.fail (.zoneNotSupported options.zone)
  | .ok true => pure ()
  | .error error => Action.note [.supportUnknown error]
  if options.isReadOnly then
    return (← session.report options.socket options.zone).lines
  else
    session.configure options
    return []

end Session

/-- What a user is told when no register device can be opened. -/
def permissionHint (deviceRoot : String) : String :=
  s!"\nCannot open an MSR device under {deviceRoot}.\n" ++
    "The msr (or msr_safe) kernel module may not be loaded: sudo modprobe msr\n" ++
    "Writing power limits usually requires root.\n"

end PowerLimits
