import PowerLimits.Device.Host
import PowerLimits.Event

/-!
The register devices of a processor, and access to a register at its offset in one.
-/
namespace PowerLimits

/-- The two interfaces to the registers of a processor. -/
inductive DeviceKind where
  /-- Lets only listed registers be touched. -/
  | restricted
  | standard
deriving DecidableEq

namespace DeviceKind

def preference : List DeviceKind := [.restricted, .standard]

def fileName : DeviceKind → String
  | .restricted => "msr_safe"
  | .standard => "msr"

def path (kind : DeviceKind) (root : String) (cpu : Nat) : String :=
  Path.join (Path.join root (toString cpu)) kind.fileName

end DeviceKind

structure Device where
  cpu : Nat
  kind : DeviceKind
  path : String
  names : List String
  readOnly : Bool
deriving DecidableEq

namespace Device

/-- Opening a directory succeeds for reading alone. -/
def openKind (tree : FileTree) (root : String) (cpu : Nat) (readOnly : Bool) (kind : DeviceKind) :
    Except FileError Device :=
  let path := kind.path root cpu
  match tree.locate path with
  | .error error => .error error
  | .ok (names, .file _) => .ok ⟨cpu, kind, path, names, readOnly⟩
  | .ok (names, .directory) =>
    if readOnly then .ok ⟨cpu, kind, path, names, readOnly⟩ else .error (.system .isDirectory)

/-- The restricted device of a processor, or else the standard one. -/
def openFor (tree : FileTree) (root : String) (cpu : Nat) (readOnly : Bool) :
    Except AccessError Device :=
  match openKind tree root cpu readOnly .restricted with
  | .ok device => .ok device
  | .error restricted =>
    match openKind tree root cpu readOnly .standard with
    | .ok device => .ok device
    | .error standard => .error (.noDevice cpu restricted standard)

/-- Offsets from here on are negative to the operating system, and are not passed on to it. -/
def offsetLimit : Nat := 0x8000000000000000

def readOn (host : Host) (tree : FileTree) (device : Device) (register : Word) :
    Except AccessError Word :=
  if offsetLimit ≤ register.toNat then .error (.invalidOffset register)
  else
    match host.read tree device.names register.toNat with
    | .error source => .error (.readFailed device.cpu register source)
    | .ok window =>
      if window.length = Bytes.registerSize then .ok window.toWord
      else .error (.shortRead device.cpu register window.length)

def writeOn (host : Host) (tree : FileTree) (device : Device) (register value : Word) :
    Except AccessError FileTree :=
  if offsetLimit ≤ register.toNat then .error (.invalidOffset register)
  else
    (host.write tree device.names device.readOnly register.toNat value).mapError
      (.writeFailed device.cpu register)

def read (tree : FileTree) (device : Device) (register : Word) : Except AccessError Word :=
  device.readOn .signed tree register

def write (tree : FileTree) (device : Device) (register value : Word) :
    Except AccessError FileTree :=
  device.writeOn .signed tree register value

def size (tree : FileTree) (device : Device) : Nat :=
  match tree.node? device.names with
  | some (.file bytes) => bytes.length
  | _ => 0

def openEvents (device : Device) : List Event :=
  (if device.kind = .standard then [.standardDevice device.cpu] else []) ++
    [.deviceOpened device.path device.cpu]

end Device

end PowerLimits
