import PowerLimits.Device.FileTree

/-!
Positioned access to the files of a tree. To a host, regular files are growable arrays of bytes. It may
have a limit which accesses have to end before; what it refuses, it refuses without a change.
-/
namespace PowerLimits

structure Host where
  limit? : Option Nat

namespace Host

def plain : Host := ⟨none⟩

/-- Offsets are signed numbers of 64 bits, and so is the end of an access. -/
def signed : Host := ⟨some 0x8000000000000000⟩

/-- The access to a register at this offset ends before the limit. -/
def takes (host : Host) (offset : Nat) : Bool :=
  host.limit?.all (offset + Bytes.registerSize < ·)

/-- The bytes that are there at an offset, as many as a register has if the file is long enough. -/
def read (host : Host) (tree : FileTree) (names : List String) (offset : Nat) :
    Except OsError Bytes :=
  if !host.takes offset then .error .invalidArgument
  else
    match tree.node? names with
    | some (.file bytes) => .ok (bytes.window offset)
    | _ => .error .isDirectory

def write (host : Host) (tree : FileTree) (names : List String) (readOnly : Bool) (offset : Nat)
    (value : Word) : Except OsError FileTree :=
  if readOnly then .error .badDescriptor
  else if !host.takes offset then .error .invalidArgument
  else
    match tree.node? names with
    | some (.file bytes) => .ok (tree.setFile names (bytes.overwrite offset (.ofWord value)))
    | _ => .error .isDirectory

end Host

end PowerLimits
