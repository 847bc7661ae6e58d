import PowerLimits.Proofs.LimitRegister.Settings
import PowerLimits.Proofs.Sequence
import PowerLimits.Proofs.Session.Step
import PowerLimits.Store.Memory

/-! Requests over register files in memory, seen through the word at each address of each file. A
request changes at most the limit word of its zone, in the file of its socket. -/
namespace PowerLimits.Memory

def word? (memory : Memory) (handle : Nat) (address : Word) : Option Word :=
  (memory.file handle).registers.get? address

variable {memory after : Memory} {handle : Nat} {register old new : Word}

theorem file_setFile (there : handle < memory.files.length) (file : RegisterFile) (other : Nat) :
    (memory.setFile handle file).file other = if other = handle then file else memory.file other := by
  simp only [Memory.file, setFile, List.getD_eq_getElem?_getD]
  by_cases same : other = handle
  · subst same
    rw [List.getElem?_set_self there, if_pos rfl, Option.getD_some]
  · rw [List.getElem?_set_ne (Ne.symm same), if_neg same]

theorem read_eq (memory : Memory) (handle : Nat) (register : Word) :
    RegisterStore.read memory handle register =
      match memory.word? handle register with
      | some value => .ok value
      | none => .error (.shortRead (memory.file handle).cpu register 0) := rfl

theorem write_eq (memory : Memory) (handle : Nat) (register value : Word) :
    RegisterStore.write memory handle register value =
      if register ∈ (memory.file handle).readOnly then
        .error (.shortWrite (memory.file handle).cpu register 4)
      else
        .ok (memory.setFile handle { memory.file handle with
          registers := (memory.file handle).registers.set register value }) := by
  change ((memory.file handle).write register value).map _ = _
  unfold RegisterFile.write
  split <;> rfl

theorem read_eq_ok_iff :
    RegisterStore.read memory handle register = .ok old ↔ memory.word? handle register = some old := by
  change (memory.file handle).read register = .ok old ↔ _
  unfold RegisterFile.read word?
  cases (memory.file handle).registers.get? register with
  | none => simp
  | some value => simp

theorem lt_length_of_word? (present : memory.word? handle register = some old) :
    handle < memory.files.length := by
  apply Classical.byContradiction
  intro beyond
  have absent : memory.file handle = default := by
    rw [Memory.file, List.getD_eq_getElem?_getD, List.getElem?_eq_none (Nat.le_of_not_lt beyond)]
    rfl
  rw [word?, absent] at present
  contradiction

theorem word?_write (present : memory.word? handle register = some old)
    (written : RegisterStore.write memory handle register new = .ok after) (other : Nat)
    (address : Word) :
    after.word? other address =
      if other = handle ∧ address = register then some new else memory.word? other address := by
  have there := lt_length_of_word? present
  change ((memory.file handle).write register new).map (memory.setFile handle) = .ok after at written
  unfold RegisterFile.write at written
  split at written
  next refused => contradiction
  next =>
    cases Except.ok.inj written
    unfold word?
    rw [file_setFile there]
    by_cases same : other = handle
    · rw [if_pos same, RegisterMap.get?_set, same]
      simp only [true_and]
    · rw [if_neg same, if_neg (fun both => same both.1)]

/-- A write changes nothing of a file but its registers. -/
theorem file_write (present : memory.word? handle register = some old)
    (written : RegisterStore.write memory handle register new = .ok after) (other : Nat) :
    (after.file other).cpu = (memory.file other).cpu ∧
      (after.file other).readOnly = (memory.file other).readOnly := by
  rw [write_eq] at written
  split at written
  next => contradiction
  next =>
    cases Except.ok.inj written
    rw [file_setFile (lt_length_of_word? present)]
    by_cases same : other = handle
    · rw [if_pos same, same]
      exact ⟨rfl, rfl⟩
    · rw [if_neg same]
      exact ⟨rfl, rfl⟩

/-- What may happen to register files between two requests. -/
inductive Change where
  /-- A register is given a word, or taken away. -/
  | poke (handle : Nat) (register : Word) (value : Option Word)
  /-- From then on, these are the registers to which a write fails. -/
  | refuse (handle : Nat) (registers : List Word)

namespace Change

def apply (memory : Memory) : Change → Memory
  | .poke handle register value => memory.poke handle register value
  | .refuse handle registers =>
    memory.setFile handle { memory.file handle with readOnly := registers }

/-- The change is not one of this register's word. -/
def Spares (handle : Nat) (register : Word) : Change → Prop
  | .poke other address _ => ¬ (other = handle ∧ address = register)
  | .refuse .. => True

end Change

theorem word?_setFile {other : Nat} {file : RegisterFile}
    (same : handle = other → file.registers.get? register = memory.word? handle register) :
    (memory.setFile other file).word? handle register = memory.word? handle register := by
  by_cases there : other < memory.files.length
  · rw [word?, file_setFile there]
    split
    next equal => exact same equal
    next => rfl
  · rw [setFile, List.set_eq_of_length_le (Nat.not_lt.1 there)]

theorem word?_apply {change : Change} (spared : change.Spares handle register) (memory : Memory) :
    (change.apply memory).word? handle register = memory.word? handle register := by
  cases change with
  | poke other address value =>
    refine word?_setFile fun same => ?_
    subst same
    have elsewhere : register ≠ address := fun equal => spared ⟨rfl, equal.symm⟩
    cases value with
    | none => exact (RegisterMap.get?_erase ..).trans (if_neg elsewhere)
    | some value => exact (RegisterMap.get?_set ..).trans (if_neg elsewhere)
  | refuse other registers =>
    refine word?_setFile fun same => ?_
    subst same
    rfl

theorem word?_changes {changes : List Change}
    (spared : ∀ change ∈ changes, change.Spares handle register) (memory : Memory) :
    (changes.foldl Change.apply memory).word? handle register = memory.word? handle register := by
  induction changes generalizing memory with
  | nil => rfl
  | cons change rest ih =>
    rw [List.foldl_cons, ih fun later member => spared later (List.mem_cons_of_mem _ member),
      word?_apply (spared change List.mem_cons_self)]

end PowerLimits.Memory

namespace PowerLimits.LimitRegister
open BitRange

variable {zone : Zone} {scale : UnitScale} {operation : Operation} {word after : Word}
  {update : Word → Except ArgumentFault Word}

theorem agreeOutside_update (sets : operation.update? zone scale = some update)
    (computed : update word = .ok after) : AgreeOutside zone.domainClass.settable word after := by
  cases operation with
  | setEnabled enabled =>
    cases Option.some.inj sets
    cases Except.ok.inj computed
    exact agreeOutside_setEnabled zone word enabled
  | setClamped clamped =>
    cases Option.some.inj sets
    cases Except.ok.inj computed
    exact agreeOutside_setClamped zone word clamped
  | setLimits longTerm shortTerm =>
    cases Option.some.inj sets
    exact agreeOutside_encode computed
  | _ => contradiction

end PowerLimits.LimitRegister

namespace PowerLimits.Session
open RegisterStore LimitRegister BitRange

variable {session : Session Nat} {request : Request} {memory : Memory} {handle : Nat}
  {old new : Word} {outcome : Outcome Memory Error Answer}

namespace Exchanged

variable (exchanged : session.Exchanged request memory handle old new outcome)

include exchanged

theorem present : memory.word? handle request.zone.limitRegister = some old :=
  Memory.read_eq_ok_iff.1 exchanged.found

theorem word? (other : Nat) (address : Word) :
    outcome.store.word? other address =
      if other = handle ∧ address = request.zone.limitRegister then some new
      else memory.word? other address :=
  Memory.word?_write exchanged.present exchanged.written other address

/-- The limit word of another zone, or of the file of another socket. -/
theorem word?_elsewhere (distinct : session.handles.Nodup) {socket other : Nat} {zone : Zone}
    (there : session.handles[socket]? = some other)
    (elsewhere : ¬ (request.socket = socket ∧ request.zone = zone)) :
    outcome.store.word? other zone.limitRegister = memory.word? other zone.limitRegister := by
  rw [exchanged.word?, if_neg]
  rintro ⟨rfl, register⟩
  have addressed := (zoneHandle_ok exchanged.addressed).1
  exact elsewhere ⟨index_eq distinct addressed there, (Zone.limitRegister_injective register).symm⟩

theorem agreeOutside : AgreeOutside request.zone.domainClass.settable old new := by
  obtain ⟨update, sets, computed⟩ := exchanged.computed
  exact agreeOutside_update sets computed

end Exchanged

/-- Two sockets. The file of the first refuses to have its core limit changed, and neither has all
registers. -/
def pairFiles : Memory where
  files := [⟨0, RegisterMap.empty.set 0x606 0xA0E03, [], none, 0⟩,
    ⟨4, (RegisterMap.empty.set 0x610 0x8042821000DD8190).set 0x638 0xDD8190, [0x638], none, 0⟩]
  opened := []

def pair : Session Nat := ⟨[1, 0], UnitScale.ofWord 0xA0E03 ⟨"GenuineIntel", 6, 158, 10⟩, .none⟩

def pairCourse : List Request :=
  [⟨0, .package, .setLimits (some ⟨.ofNat 95, .ofNat 8⟩) (some ⟨.nan, .ofNat 1⟩)⟩,
    ⟨0, .core, .setEnabled false⟩, ⟨1, .package, .setEnabled true⟩, ⟨0, .psys, .setEnabled false⟩,
    ⟨0, .package, .setEnabled true⟩,
    ⟨0, .package, .setLimits (some ⟨.infinite false, -.ofNat 8⟩) none⟩,
    ⟨0, .package, .setClamped false⟩, ⟨0, .package, .getLimits⟩]

end PowerLimits.Session
