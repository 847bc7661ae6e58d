import PowerLimits.Store.Action

/-!
Stores of registers that are reached through handles. A failed write leaves the store as it was.
-/
namespace PowerLimits

class RegisterStore (σ : Type) (Handle : outParam Type) where
  cpu : σ → Handle → Nat
  read : σ → Handle → Word → Except AccessError Word
  write : σ → Handle → Word → Word → Except AccessError σ
  /-- Give a handle up; the store changes even when that fails. -/
  close : σ → Handle → σ × Option OsError
  readEvents : Handle → Word → Word → List Event := fun _ _ _ => []
  writeEvents : Handle → Word → Word → List Event := fun _ _ _ => []
  closeEvents : Handle → List Event := fun _ => []

namespace RegisterStore

variable {σ ε Handle : Type} [RegisterStore σ Handle]

def readRegister (handle : Handle) (register : Word) : Action σ Error Word := do
  let value ← (Action.ofExcept (read (← Action.look) handle register)).mapError .access
  Action.note (readEvents σ handle register value)
  return value

def writeRegister (handle : Handle) (register value : Word) : Action σ Error Unit := do
  Action.note (writeEvents σ handle register value)
  Action.put (← (Action.ofExcept (write (← Action.look) handle register value)).mapError .access)

def closeHandle (handle : Handle) : Action σ Error Unit := do
  let store ← Action.look
  let (after, failure) := close store handle
  Action.put after
  match failure with
  | some source => Action.fail (.close (cpu store handle) source)
  | none => Action.note (closeEvents σ handle)

/-- Give every handle up, in order, whatever fails; the failures are returned. -/
def closeEach : List Handle → Action σ ε (List Error)
  | [] => return []
  | handle :: rest => do
    let cpu := cpu (← Action.look) handle
    match ← (closeHandle handle).attempt with
    | .ok () => closeEach rest
    | .error error =>
      Action.note [.closeFailed cpu error]
      return error :: (← closeEach rest)

/-- Give every handle up; the first failure is that of the whole. -/
def closeAll (handles : List Handle) : Action σ Error Unit := do
  match ← closeEach handles with
  | [] => return ()
  | error :: _ => Action.fail error

end RegisterStore

end PowerLimits
