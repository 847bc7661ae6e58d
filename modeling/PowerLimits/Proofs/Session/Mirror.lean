import Mathlib.Data.List.Pairwise
import PowerLimits.Proofs.Device.Registers
import PowerLimits.Proofs.Session.Registers

/-! Register files in memory as mirrors of device files. A mirror has a word at each register that its
device file is long enough for, and a write to a register that both have keeps every mirror one: the
windows of the registers that a session sets or takes its units from do not overlap. -/
namespace PowerLimits

/-- The unit register and the limit registers. -/
def controlRegisters : List Word := unitRegister :: Zone.all.map Zone.limitRegister

theorem Zone.limitRegister_mem (zone : Zone) : zone.limitRegister ∈ controlRegisters := by
  cases zone <;> decide

/-- The windows of the registers do not overlap. -/
def ApartInFile (register other : Word) : Prop :=
  register.toNat + Bytes.registerSize ≤ other.toNat ∨
    other.toNat + Bytes.registerSize ≤ register.toNat

instance (register other : Word) : Decidable (ApartInFile register other) :=
  inferInstanceAs (Decidable (_ ∨ _))

instance : Std.Symm ApartInFile := ⟨fun _ _ => Or.symm⟩

section
variable {register other : Word}

theorem takes_of_mem (member : register ∈ controlRegisters) : Host.signed.takes register.toNat := by
  have all : controlRegisters.all fun register => Host.signed.takes register.toNat := by decide
  exact List.all_eq_true.1 all register member

theorem controlRegisters_apart (member : register ∈ controlRegisters) (too : other ∈ controlRegisters)
    (different : register ≠ other) : ApartInFile register other := by
  have all : controlRegisters.Pairwise ApartInFile := by decide
  exact all.forall member too different

end

/-- The register file has, at each control register, the word that the device file has there. -/
structure Mirrored (tree : FileTree) (memory : Memory) (device : Device) (place : Nat) : Prop where
  registers : ∃ bytes, tree.node? device.names = some (.file bytes) ∧
    ∀ register ∈ controlRegisters, memory.word? place register = bytes.word? register.toNat
  cpu : (memory.file place).cpu = device.cpu
  writable : ∀ zone : Zone, zone.limitRegister ∉ (memory.file place).readOnly

structure Mirrors (devices : List Device) (places : List Nat) (tree : FileTree) (memory : Memory) :
    Prop where
  length : devices.length = places.length
  mirrored : ∀ (socket : Nat) (device : Device) (place : Nat), devices[socket]? = some device →
    places[socket]? = some place → Mirrored tree memory device place

namespace Mirrored
open RegisterStore

variable {tree : FileTree} {memory : Memory} {device : Device} {place : Nat} {register : Word}

/-- A read finds the same word in both, or in neither. -/
theorem read_cases (mirrored : Mirrored tree memory device place) (opened : device.readOnly = false)
    (member : register ∈ controlRegisters) :
    (∃ word, read tree device register = .ok word ∧ read memory place register = .ok word) ∨
      ∃ length, read tree device register = .error (.shortRead device.cpu register length) ∧
        read memory place register = .error (.shortRead device.cpu register 0) := by
  obtain ⟨bytes, there, same⟩ := mirrored.registers
  have holds : Device.Holds tree device bytes := ⟨opened, there⟩
  rw [holds.read_eq (takes_of_mem member), Memory.read_eq, same register member, mirrored.cpu]
  cases bytes.word? register.toNat with
  | some word => exact .inl ⟨word, rfl, rfl⟩
  | none => exact .inr ⟨_, rfl, rfl⟩

theorem exists_write (mirrored : Mirrored tree memory device place) (opened : device.readOnly = false)
    (zone : Zone) (value : Word) :
    ∃ after written, write tree device zone.limitRegister value = .ok after ∧
      write memory place zone.limitRegister value = .ok written := by
  obtain ⟨bytes, there, _⟩ := mirrored.registers
  have holds : Device.Holds tree device bytes := ⟨opened, there⟩
  have there := holds.write_eq (takes_of_mem zone.limitRegister_mem) value
  exact ⟨_, _, there, (Memory.write_eq ..).trans (if_neg (mirrored.writable zone))⟩

end Mirrored

section
variable {tree after : FileTree} {memory written : Memory} {device other : Device} {place last : Nat}
  {register old new : Word}

theorem Mirrored.write (mirrored : Mirrored tree memory device place)
    (member : register ∈ controlRegisters) (present : memory.word? place register = some old)
    (there : RegisterStore.write tree device register new = .ok after)
    (here : RegisterStore.write memory place register new = .ok written) :
    Mirrored after written device place := by
  obtain ⟨bytes, found, same⟩ := mirrored.registers
  obtain ⟨again, too, rfl⟩ := Device.exists_of_write_ok there
  cases Option.some.inj (too.symm.trans found)
  obtain ⟨cpu, readOnly⟩ := Memory.file_write present here place
  have fits := Bytes.fits_of_word? ((same register member).symm.trans present)
  refine ⟨⟨_, (FileTree.node?_setFile found _ _).trans (if_pos rfl), ?_⟩, cpu.trans mirrored.cpu, ?_⟩
  · intro address control
    rw [Memory.word?_write present here]
    by_cases target : address = register
    · rw [if_pos ⟨rfl, target⟩, target, Bytes.word?_overwrite fits]
    · rw [if_neg (fun both => target both.2), same address control,
        Bytes.word?_overwrite_apart fits (controlRegisters_apart member control (Ne.symm target))]
  · intro zone
    rw [readOnly]
    exact mirrored.writable zone

theorem Mirrored.write_elsewhere (mirrored : Mirrored tree memory other last)
    (names : other.names ≠ device.names) (apart : last ≠ place)
    (present : memory.word? place register = some old)
    (there : RegisterStore.write tree device register new = .ok after)
    (here : RegisterStore.write memory place register new = .ok written) :
    Mirrored after written other last := by
  obtain ⟨bytes, found, same⟩ := mirrored.registers
  obtain ⟨again, too, rfl⟩ := Device.exists_of_write_ok there
  obtain ⟨cpu, readOnly⟩ := Memory.file_write present here last
  refine ⟨⟨bytes, ?_, ?_⟩, cpu.trans mirrored.cpu, ?_⟩
  · rw [FileTree.node?_setFile too, if_neg names, found]
  · intro address control
    rw [Memory.word?_write present here, if_neg (fun both => apart both.1), same address control]
  · intro zone
    rw [readOnly]
    exact mirrored.writable zone

theorem Mirrors.write {devices : List Device} {places : List Nat}
    (mirrors : Mirrors devices places tree memory) (distinct : (devices.map Device.names).Nodup)
    (apart : places.Nodup) {socket : Nat} (first : devices[socket]? = some device)
    (second : places[socket]? = some place) (member : register ∈ controlRegisters)
    (present : memory.word? place register = some old)
    (there : RegisterStore.write tree device register new = .ok after)
    (here : RegisterStore.write memory place register new = .ok written) :
    Mirrors devices places after written := by
  refine ⟨mirrors.length, fun index other last found too => ?_⟩
  have mirrored := mirrors.mirrored index other last found too
  by_cases same : index = socket
  · subst same
    cases Option.some.inj (found.symm.trans first)
    cases Option.some.inj (too.symm.trans second)
    exact mirrored.write member present there here
  · have names : (devices.map Device.names)[index]? = some other.names := by
      rw [List.getElem?_map, found, Option.map_some]
    have own : (devices.map Device.names)[socket]? = some device.names := by
      rw [List.getElem?_map, first, Option.map_some]
    refine mirrored.write_elsewhere (fun equal => same ?_) (fun equal => same ?_) present there here
    · exact index_eq distinct names (equal ▸ own)
    · exact index_eq apart too (equal ▸ second)

end

end PowerLimits
