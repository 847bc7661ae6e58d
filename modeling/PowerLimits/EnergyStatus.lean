import PowerLimits.Layout

/-!
The energy status register: its low half counts energy and wraps.
-/
namespace PowerLimits

structure EnergyStatus where
  counter : BitVec 32
deriving DecidableEq

namespace EnergyStatus

/-- How many values the counter takes before it is zero again. -/
def wrap : Nat := 0x100000000

def ofWord (word : Word) : EnergyStatus := ⟨(counterField.get word).setWidth 32⟩

def toWord (status : EnergyStatus) : Word := status.counter.setWidth 64

end EnergyStatus

end PowerLimits
