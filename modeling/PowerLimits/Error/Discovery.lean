import PowerLimits.Error.File
import PowerLimits.Text.Integer

/-!
Failures to find out which sockets a system has.
-/
namespace PowerLimits

/-- The fields of a processor record, in their order. -/
inductive RecordField where
  | processor
  | physicalId
  | coreId
deriving DecidableEq

def RecordField.name : RecordField → String
  | .processor => "processor"
  | .physicalId => "physical id"
  | .coreId => "core id"

inductive ReadFault where
  | file (source : FileError)
  | notUnicode
deriving DecidableEq

def ReadFault.message : ReadFault → String
  | .file source => source.message
  | .notUnicode => "stream did not contain valid UTF-8"

inductive DiscoveryFault where
  | unreadable (path : String) (fault : ReadFault)
  | unexpectedField (line : Nat) (expected found : RecordField)
  | invalidValue (line : Nat) (field : RecordField) (value : String) (fault : Text.IntegerFault)
  | truncatedRecord (processor : Nat)
  | noPhysicalIds
  | idOutOfRange (id processors : Nat)
  | tooFewProcessors (sockets processors : Nat)
  | tooManySockets (found expected : Nat)
  | socketWithoutProcessor (socket : Nat)
  | noSockets
  /-- Told by what opens the registers of a socket, in words of its own. -/
  | described (text : String)
deriving DecidableEq

def DiscoveryFault.message : DiscoveryFault → String
  | .unreadable path fault => s!"cannot read {path}: {fault.message}"
  | .unexpectedField line expected found =>
    s!"line {line}: expected '{expected.name}', found '{found.name}'"
  | .invalidValue line field value fault =>
    s!"line {line}: cannot parse {field.name} value '{value}': {fault.message}"
  | .truncatedRecord processor =>
    s!"record for processor {processor} has fewer fields than expected"
  | .noPhysicalIds => "no 'physical id' entries found"
  | .idOutOfRange id processors =>
    s!"physical id {id} is out of range for {processors} logical CPU(s)"
  | .tooFewProcessors sockets processors =>
    s!"{sockets} sockets expected but only {processors} logical CPU(s) found"
  | .tooManySockets found expected =>
    s!"found more sockets than expected: {found} instead of {expected}"
  | .socketWithoutProcessor socket => s!"failed to find a CPU for socket {socket}"
  | .noSockets => "no sockets to manage"
  | .described text => text

end PowerLimits
