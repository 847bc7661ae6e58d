import PowerLimits.Session.Basic
import PowerLimits.Topology.Sockets

/-!
How sessions begin and end. A session owns its handles: if it cannot be made, every handle that was
open for it is given up, and its end gives up every handle whatever fails.
-/
namespace PowerLimits.Session

variable {σ Handle α : Type} [RegisterStore σ Handle]

open RegisterStore

/-- Give up the handles of a session that could not be made; what kept it from being made is the
failure. -/
def abandon (handles : List Handle) (error : Error) : Action σ Error α := do
  match ← (closeAll handles).attempt with
  | .ok () => Action.fail error
  | .error closeError =>
    Action.note [.cleanupFailed closeError]
    Action.fail error

/-- A session over open handles, whose units are read through the first one. -/
def ofHandles (features : Features) (signature : Signature) (handles : List Handle) :
    Action σ Error (Session Handle) := do
  match handles with
  | [] => Action.fail (.discovery .noSockets)
  | first :: _ =>
    match ← (readRegister first unitRegister).attempt with
    | .ok word =>
      let scale := UnitScale.ofWord word signature
      Action.note [.unitsDecoded scale]
      return ⟨handles, scale, features⟩
    | .error error => abandon handles error

/-- The handles that are open already and one for each further socket. -/
def openEach (openSocket : Nat → Nat → Action σ Error Handle) (opened : List Handle) :
    List (Nat × Nat) → Action σ Error (List Handle)
  | [] => return opened
  | (socket, cpu) :: rest => do
    match ← (openSocket socket cpu).attempt with
    | .ok handle => openEach openSocket (opened ++ [handle]) rest
    | .error error => abandon opened error

/-- A session over the sockets of a topology, each opened with its processor. -/
def openWith (features : Features) (topology : Topology) (signature : Signature)
    (openSocket : Nat → Nat → Action σ Error Handle) : Action σ Error (Session Handle) := do
  ofHandles features signature (← openEach openSocket [] topology.sockets)

/-- Give up every handle; the first failure is that of the whole. -/
def destroy (session : Session Handle) : Action σ Error Unit := do
  closeAll session.handles
  Action.note [.sessionClosed session.numSockets]

end PowerLimits.Session
