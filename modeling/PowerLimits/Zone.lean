import PowerLimits.BitRange

/-!
The power domains of a socket: their names, the registers that hold their limit and their energy
count, and the two register families they fall into.
-/
namespace PowerLimits

/-- A domain whose power is limited on its own. -/
inductive Zone where
  | package
  | core
  | uncore
  | dram
  | psys
deriving DecidableEq

/-- The two layouts of a limit register. -/
inductive DomainClass where
  /-- Long and short term constraints, locked by bit 63. -/
  | packagePlatform
  /-- A long term constraint alone, locked by bit 31. -/
  | powerPlane
deriving DecidableEq

/-- The optional domains that this platform is taken to have. -/
structure Features where
  uncore : Bool
  dram : Bool
  psys : Bool
deriving DecidableEq

namespace Features

def all : Features := ⟨true, true, true⟩

def none : Features := ⟨false, false, false⟩

end Features

def DomainClass.hasShortTerm : DomainClass → Bool
  | .packagePlatform => true
  | .powerPlane => false

/-- The register that holds the units of all the others. -/
def unitRegister : Word := 0x606

namespace Zone

def all : List Zone := [.package, .core, .uncore, .dram, .psys]

def name : Zone → String
  | .package => "PACKAGE"
  | .core => "CORE"
  | .uncore => "UNCORE"
  | .dram => "DRAM"
  | .psys => "PSYS"

def domainClass : Zone → DomainClass
  | .package | .psys => .packagePlatform
  | .core | .uncore | .dram => .powerPlane

def limitRegister : Zone → Word
  | .package => 0x610
  | .core => 0x638
  | .uncore => 0x640
  | .dram => 0x618
  | .psys => 0x65C

def energyRegister : Zone → Word
  | .package => 0x611
  | .core => 0x639
  | .uncore => 0x641
  | .dram => 0x619
  | .psys => 0x64D

/-- A static property of the platform: no register is asked. -/
def isSupported (features : Features) : Zone → Bool
  | .package | .core => true
  | .uncore => features.uncore
  | .dram => features.dram
  | .psys => features.psys

/-- The zone of that name, in either case of the ASCII letters. -/
def ofName? (name : String) : Option Zone :=
  all.find? fun zone => zone.name.toList == name.toList.map Char.toUpper

def ofIndex? (index : Nat) : Option Zone := all[index]?

theorem ofName?_name (zone : Zone) : ofName? zone.name = some zone := by
  cases zone <;> decide

theorem limitRegister_injective {a b : Zone} (same : a.limitRegister = b.limitRegister) :
    a = b := by
  revert same; cases a <;> cases b <;> decide

end Zone

end PowerLimits
