import PowerLimits.Error.Access
import PowerLimits.Error.Discovery
import PowerLimits.Zone

/-!
Failures of a session as causes. Every type of cause has one function that words it.
-/
namespace PowerLimits

inductive ArgumentFault where
  | unknownZone (name : String)
  | socketOutOfRange (socket sockets : Nat)
  | noShortTerm (zone : Zone)
  /-- Told by what opens the registers of a socket, in words of its own. -/
  | described (text : String)
deriving DecidableEq

def ArgumentFault.message : ArgumentFault → String
  | .unknownZone name => s!"Unknown RAPL zone: {name}"
  | .socketOutOfRange socket sockets =>
    s!"socket {socket} out of range, {sockets} socket(s) present"
  | .noShortTerm zone => s!"{zone.name} has no short-term power limit"
  | .described text => text

inductive SupportFault where
  | missingZone (zone : Zone)
  /-- Told by what opens the registers of a socket, in words of its own. -/
  | described (text : String)
deriving DecidableEq

def SupportFault.message : SupportFault → String
  | .missingZone zone => s!"zone {zone.name} is not available on this platform"
  | .described text => text

inductive Error where
  | invalidArgument (fault : ArgumentFault)
  | unsupported (fault : SupportFault)
  | discovery (fault : DiscoveryFault)
  | resourceUnavailable (socket cpu : Nat) (source : AccessError)
  | access (source : AccessError)
  | close (cpu : Nat) (source : OsError)
deriving DecidableEq

/-- The kind of a failure, the same whatever its words are. -/
inductive ErrorKind where
  | invalidArgument
  | unsupported
  | discovery
  | resourceUnavailable
  | io
deriving DecidableEq

namespace Error

def kind : Error → ErrorKind
  | .invalidArgument _ => .invalidArgument
  | .unsupported _ => .unsupported
  | .discovery _ => .discovery
  | .resourceUnavailable .. => .resourceUnavailable
  | .access _ | .close .. => .io

def message : Error → String
  | .invalidArgument fault => s!"Invalid argument: {fault.message}"
  | .unsupported fault => s!"Unsupported: {fault.message}"
  | .discovery fault => s!"Topology discovery failed: {fault.message}"
  | .resourceUnavailable socket cpu source =>
    s!"No register access for socket {socket} (CPU {cpu}): {source.message}"
  | .access source => s!"MSR operation failed: {source.message}"
  | .close cpu source => s!"Failed to close MSR handle for CPU {cpu}: {source.closeMessage}"

/-- The failure and those behind it, the nearest first. -/
def chain (error : Error) : List String :=
  error.message ::
    match error with
    | .resourceUnavailable _ _ source | .access source =>
      source.message :: (source.source?.map FileError.message).toList
    | .close _ source => [source.closeMessage]
    | .invalidArgument _ | .unsupported _ | .discovery _ => []

end Error

end PowerLimits
