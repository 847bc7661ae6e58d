import PowerLimits.Event
import PowerLimits.Text.Blank

/-!
Where a session looks for its sources, and whether it asks for read access alone.
-/
namespace PowerLimits

structure Configuration where
  /-- The file with the processor records. -/
  topologyPath : String
  /-- The directory that has a directory of register devices for each processor. -/
  deviceRoot : String
  readOnly : Bool
deriving DecidableEq

namespace Configuration

/-- The environment variable that asks for read access alone. -/
def readOnlyVariable : String := "RAPLCAP_READ_ONLY"

def standard : Configuration := ⟨"/proc/cpuinfo", "/dev/cpu", false⟩

/-- Any integer but zero that fits 64 bits asks for read access alone. -/
def asksReadOnly (value : String) : Bool :=
  match Text.readInt Text.signedLimit (Text.trim value.toList) with
  | .ok n => n ≠ 0
  | .error _ => false

def ofVariable (value : Option String) : Configuration :=
  { standard with readOnly := value.any asksReadOnly }

def textOf? (value : ByteArray) : Option String := String.fromUTF8? value

def events (configuration : Configuration) : List Event :=
  if configuration.readOnly then [.readOnlyRequested readOnlyVariable] else []

end Configuration

end PowerLimits
