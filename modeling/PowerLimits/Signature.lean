import PowerLimits.BitRange
import PowerLimits.Binary64.Round
import PowerLimits.Text.Field
import PowerLimits.Text.Integer
import PowerLimits.Text.Lines

/-!
The signature of a processor: who made it, and its family, model and stepping as they are shown. It
decides whether the DRAM energy counter has a unit of its own.
-/
namespace PowerLimits

structure Signature where
  vendor : String
  family : Nat
  model : Nat
  stepping : Nat
deriving DecidableEq

namespace Signature

def intel : String := "GenuineIntel"

/-- The signature in the first register of the processor's identification. The extended family
counts only for family 15, the extended model only for families 6 and 15. -/
def ofLeaf (vendor : String) (leaf : Word) : Signature :=
  let field (start width : Nat) : Nat := (leaf.extractLsb' start width).toNat
  let family := field 8 4
  let model := field 4 4
  { vendor
    family := if family = 15 then family + field 20 8 else family
    model := if family = 6 ∨ family = 15 then 16 * field 16 4 + model else model
    stepping := field 0 4 }

/-- The signature that a text of processor records tells of first. -/
def ofText (text : String) : Signature :=
  let fields := (Text.lines text.toList).filterMap Text.splitField?
  let value (key : String) : List Char := (fields.lookup key.toList).getD []
  let number (key : String) : Nat := (Text.readNat Text.naturalLimit (value key)).toOption.getD 0
  { vendor := String.ofList (value "vendor_id")
    family := number "cpu family"
    model := number "model"
    stepping := number "stepping" }

def isIntel (signature : Signature) : Bool := signature.vendor == intel

/-- 15.3 microjoules. -/
def fixedDramEnergy : Binary64 := .ofRatio 153 10000000

/-- The models of family 6 that count DRAM energy in a fixed unit. -/
def fixedDramModels : List Nat := [0x3F, 0x4F, 0x56, 0x55, 0x57, 0x85]

/-- The unit of the DRAM energy counter, where it is not the one in the unit register. -/
def dramEnergy? (signature : Signature) : Option Binary64 :=
  if signature.isIntel ∧ signature.family = 6 ∧ signature.model ∈ fixedDramModels then
    some fixedDramEnergy
  else none

end Signature

end PowerLimits
