import PowerLimits.Device.FileTree
import PowerLimits.Topology.Sockets

/-!
Topology texts read from a tree of files.
-/
namespace PowerLimits.Topology

def readText (tree : FileTree) (path : String) : Except ReadFault String :=
  match tree.find path with
  | .error error => .error (.file error)
  | .ok .directory => .error (.file (.system .isDirectory))
  | .ok (.file bytes) => ((String.fromUTF8? ⟨bytes.toArray⟩).elim (.error .notUnicode) .ok)

def sourceText (tree : FileTree) (path : String) : Except DiscoveryFault String :=
  (readText tree path).mapError (.unreadable path)

/-- The number of sockets that the file at `path` tells of, without access to a register. -/
def numSockets (tree : FileTree) (path : String) : Except DiscoveryFault Nat := do
  countSockets (← sourceText tree path)

def discover (tree : FileTree) (path : String) : Except DiscoveryFault Topology := do
  ofText (← sourceText tree path)

end PowerLimits.Topology
