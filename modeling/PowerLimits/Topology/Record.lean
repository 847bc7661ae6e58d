import PowerLimits.Error.Discovery
import PowerLimits.Text.Field
import PowerLimits.Text.Lines

/-!
The processor records of a topology text. Only lines with a colon whose trimmed key names a record
field count; the others number the lines and mean nothing else. Three such lines, in the order of the
fields, make a record.
-/
namespace PowerLimits

structure CpuRecord where
  processor : Nat
  physicalId : Nat
  coreId : Nat
deriving DecidableEq

def RecordField.ofName? (name : List Char) : Option RecordField :=
  [RecordField.processor, .physicalId, .coreId].find? fun field => field.name.toList = name

namespace Topology

structure Entry where
  /-- The number of the line, from one. -/
  line : Nat
  field : RecordField
  value : List Char
deriving DecidableEq

def Entry.ofLine? (line : Nat) (text : List Char) : Option Entry := do
  let (key, value) ← Text.splitField? text
  return ⟨line, ← RecordField.ofName? key, value⟩

def entries (text : String) : List Entry :=
  ((Text.lines text.toList).zipIdx 1).filterMap fun (line, number) => Entry.ofLine? number line

def Entry.number (entry : Entry) : Except DiscoveryFault Nat :=
  match Text.readNat Text.naturalLimit entry.value with
  | .ok n => .ok n
  | .error fault =>
    .error (.invalidValue entry.line entry.field (String.ofList entry.value) fault)

/-- The number in an entry that has to be for this field. -/
def Entry.numberFor (field : RecordField) (entry : Entry) : Except DiscoveryFault Nat :=
  if entry.field = field then entry.number
  else .error (.unexpectedField entry.line field entry.field)

/-- Entries taken three by three. The first that is out of order or has no number is the fault; only
when there is none is it that the entries end within a record. -/
def recordsOf : List Entry → Except DiscoveryFault (List CpuRecord)
  | [] => .ok []
  | first :: rest => do
    let processor ← first.numberFor .processor
    match rest with
    | [] => .error (.truncatedRecord processor)
    | second :: rest =>
      let physicalId ← second.numberFor .physicalId
      match rest with
      | [] => .error (.truncatedRecord processor)
      | third :: rest =>
        let coreId ← third.numberFor .coreId
        return ⟨processor, physicalId, coreId⟩ :: (← recordsOf rest)

def records (text : String) : Except DiscoveryFault (List CpuRecord) := recordsOf (entries text)

end Topology

end PowerLimits
