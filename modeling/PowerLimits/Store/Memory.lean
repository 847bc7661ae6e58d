import PowerLimits.Store.Register
import PowerLimits.Store.RegisterMap

/-!
Register files in memory. Each has registers of its own, refuses writes to some of them, may fail to
close, and counts how often it was closed.
-/
namespace PowerLimits

structure RegisterFile where
  cpu : Nat
  registers : RegisterMap
  /-- The addresses to which a write fails. -/
  readOnly : List Word
  /-- How closing fails, if it does. -/
  closeFailure : Option OsError
  closes : Nat
deriving DecidableEq

instance : Inhabited RegisterFile := ⟨⟨0, .empty, [], none, 0⟩⟩

namespace RegisterFile

/-- A register that is not there reads as nothing. -/
def read (file : RegisterFile) (register : Word) : Except AccessError Word :=
  match file.registers.get? register with
  | some value => .ok value
  | none => .error (.shortRead file.cpu register 0)

/-- A write that fails is a short one that stores nothing. -/
def write (file : RegisterFile) (register value : Word) : Except AccessError RegisterFile :=
  if register ∈ file.readOnly then .error (.shortWrite file.cpu register 4)
  else .ok { file with registers := file.registers.set register value }

def close (file : RegisterFile) : RegisterFile × Option OsError :=
  ({ file with closes := file.closes + 1 }, file.closeFailure)

end RegisterFile

/-- Register files, and for which socket and processor one was asked for. A handle is the place of a
file. -/
structure Memory where
  files : List RegisterFile
  opened : List (Nat × Nat)
deriving DecidableEq

namespace Memory

def file (memory : Memory) (handle : Nat) : RegisterFile := memory.files.getD handle default

def setFile (memory : Memory) (handle : Nat) (file : RegisterFile) : Memory :=
  { memory with files := memory.files.set handle file }

instance : RegisterStore Memory Nat where
  cpu memory handle := (memory.file handle).cpu
  read memory handle register := (memory.file handle).read register
  write memory handle register value :=
    ((memory.file handle).write register value).map (memory.setFile handle)
  close memory handle :=
    let (file, failure) := (memory.file handle).close
    (memory.setFile handle file, failure)

def openFile (socket cpu : Nat) : Action Memory Error Nat := do
  let memory ← Action.look
  Action.put { memory with opened := memory.opened ++ [(socket, cpu)] }
  match memory.files.findIdx? (·.cpu = cpu) with
  | some handle => return handle
  | none => Action.fail (.resourceUnavailable socket cpu (.invalidOffset 0))

/-- A register changed from outside: given a word, or taken away. -/
def poke (memory : Memory) (handle : Nat) (register : Word) (value : Option Word) : Memory :=
  let file := memory.file handle
  let registers :=
    match value with
    | some value => file.registers.set register value
    | none => file.registers.erase register
  memory.setFile handle { file with registers }

end Memory

end PowerLimits
