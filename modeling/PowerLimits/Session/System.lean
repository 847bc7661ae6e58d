import PowerLimits.Configuration
import PowerLimits.Session.Lifetime
import PowerLimits.Store.Devices
import PowerLimits.Topology.Source

/-!
Sessions on the register devices of a system.
-/
namespace PowerLimits

def Topology.noted {σ : Type} (found : Except DiscoveryFault Topology) : Action σ Error Topology := do
  let topology ← Action.ofExcept (found.mapError .discovery)
  Action.note topology.events
  return topology

namespace Session

def openSystem (features : Features) (configuration : Configuration) (signature : Signature) :
    Action FileTree Error (Session Device) := do
  if !signature.isIntel then Action.note [.foreignVendor signature.vendor]
  let topology ← Topology.noted (Topology.discover (← Action.look) configuration.topologyPath)
  Action.note [.socketsDiscovered topology.cpus.length]
  openWith features topology signature
    (Device.openSocket configuration.deviceRoot configuration.readOnly)

end Session

end PowerLimits
