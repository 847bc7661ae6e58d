import PowerLimits.Event
import PowerLimits.Topology.Record

/-!
The sockets of a system. Their ids have to be the numbers from zero on without a gap, and each socket
is addressed through the smallest logical processor on it.
-/
namespace PowerLimits.Topology

/-- The number of sockets that the ids call for. Every socket has a processor, so an id that is not
below the number of processors shows a gap. -/
def countSocketsOf (entries : List Entry) : Except DiscoveryFault Nat := do
  let ids ← (entries.filter (·.field = .physicalId)).mapM Entry.number
  let processors := entries.countP (·.field = .processor)
  match ids.max? with
  | none => .error .noPhysicalIds
  | some id =>
    if id + 1 < Text.naturalLimit ∧ id < processors then .ok (id + 1)
    else .error (.idOutOfRange id processors)

def countSockets (text : String) : Except DiscoveryFault Nat := countSocketsOf (entries text)

def cpuOf? (records : List CpuRecord) (socket : Nat) : Option Nat :=
  ((records.filter (·.physicalId = socket)).map (·.processor)).min?

/-- The processor through which each of a number of sockets is addressed. -/
def mapSockets (records : List CpuRecord) (sockets : Nat) : Except DiscoveryFault (List Nat) :=
  if records.length < sockets then .error (.tooFewProcessors sockets records.length)
  else
    match records.find? fun record => sockets ≤ record.physicalId with
    | some record => .error (.tooManySockets (record.physicalId + 1) sockets)
    | none =>
      (List.range sockets).mapM fun socket =>
        match cpuOf? records socket with
        | some cpu => .ok cpu
        | none => .error (.socketWithoutProcessor socket)

end Topology

/-- The logical processor that addresses each socket, in the order of the sockets. -/
structure Topology where
  cpus : List Nat
deriving DecidableEq

namespace Topology

def ofText (text : String) : Except DiscoveryFault Topology := do
  let sockets ← countSockets text
  return ⟨← mapSockets (← records text) sockets⟩

def sockets (topology : Topology) : List (Nat × Nat) :=
  topology.cpus.zipIdx.map fun (cpu, socket) => (socket, cpu)

def events (topology : Topology) : List Event :=
  topology.sockets.map fun (socket, cpu) => .socketAddressed socket cpu

end PowerLimits.Topology
