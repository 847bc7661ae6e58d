import Mathlib.Order.Bounds.Basic
import PowerLimits.Proofs.Topology.Dense
import PowerLimits.Proofs.Topology.Grammar

/-! The count of sockets as a pass over the lines of a topology text, beside the scan for records. After any
line that the scan accepts, the tally has seen the processors and ids of the records so far and of the
record that is not complete. So a text that passes both leaves the mapping of sockets to processors one
way to fail. -/
namespace PowerLimits.Topology

structure Tally where
  /-- The greatest id so far. -/
  greatest : Option Nat
  processors : Nat

namespace Tally

/-- Entries count for their fields alone, in whatever order they are. -/
def step (tally : Tally) (entry : Entry) : Except DiscoveryFault Tally :=
  match entry.field with
  | .processor => .ok { tally with processors := tally.processors + 1 }
  | .physicalId => do
    let id ← entry.number
    return { tally with greatest := some (tally.greatest.elim id (max · id)) }
  | .coreId => .ok tally

def line (tally : Tally) (line : List Char × Nat) : Except DiscoveryFault Tally :=
  match Entry.ofLine? line.2 line.1 with
  | some entry => tally.step entry
  | none => .ok tally

/-- The number of sockets that the greatest id calls for. -/
def sockets (tally : Tally) : Except DiscoveryFault Nat :=
  match tally.greatest with
  | none => .error .noPhysicalIds
  | some id =>
    if id + 1 < Text.naturalLimit ∧ id < tally.processors then .ok (id + 1)
    else .error (.idOutOfRange id tally.processors)

end Tally

def tallied (text : String) : Except DiscoveryFault Tally :=
  ((Text.lines text.toList).zipIdx 1).foldlM Tally.line ⟨none, 0⟩

/-- The invariant of a tally: its greatest id is that of the ids seen. -/
theorem foldlM_tally (entries : List Entry) (seen : List Nat) (processors : Nat) :
    entries.foldlM Tally.step ⟨seen.max?, processors⟩ =
      (entries.filter (·.field = .physicalId)).mapM Entry.number >>= fun ids =>
        .ok ⟨(seen ++ ids).max?, processors + entries.countP (·.field = .processor)⟩ := by
  induction entries generalizing seen processors with
  | nil => simp [pure, Except.pure, bind, Except.bind]
  | cons entry rest ih =>
    rw [List.foldlM_cons]
    cases field : entry.field with
    | processor =>
      simp only [Tally.step, field]
      refine (ih seen (processors + 1)).trans ?_
      simp [field, Nat.add_assoc, Nat.add_comm 1]
    | physicalId =>
      simp only [Tally.step, field, bind_assoc, pure_bind, ← max?_append_singleton]
      simp [field, ih]
    | coreId =>
      simp only [Tally.step, field]
      refine (ih seen processors).trans ?_
      simp [field]

theorem countSockets_eq_tallied (text : String) :
    countSockets text = tallied text >>= Tally.sockets := by
  have lines : tallied text = (entries text).foldlM Tally.step ⟨([] : List Nat).max?, 0⟩ :=
    foldlM_lines text _ (fun tally line entry found => by simp only [Tally.line, found])
      fun tally line found => by simp only [Tally.line, found]
  rw [lines, foldlM_tally, countSockets, countSocketsOf]
  simp only [bind_assoc, List.nil_append, Nat.zero_add]
  rfl

/-! The two passes side by side. -/

/-- The tally has seen the entries of the records that are complete and of the one that is not. -/
structure Keeping (scan : Scan) (tally : Tally) : Prop where
  short : scan.pending.length < 3
  processors : tally.processors = scan.records.length + min scan.pending.length 1
  greatest : tally.greatest = (scan.records.map (·.physicalId) ++ scan.pending.drop 1).max?

variable {scan after : Scan} {tally : Tally} {text : String} {records : List CpuRecord}

theorem Keeping.step {entry : Entry} (keeping : Keeping scan tally)
    (scanned : scan.step entry = .ok after) :
    ∃ next, tally.step entry = .ok next ∧ Keeping after next := by
  obtain ⟨short, processors, greatest⟩ := keeping
  obtain ⟨number, fits, scanned⟩ := bind_eq_ok_iff.1 scanned
  obtain ⟨field, read⟩ := Entry.numberFor_eq_ok_iff.1 fits
  unfold Tally.step
  match scan, short with
  | ⟨complete, []⟩, _ =>
    cases Except.ok.inj scanned
    rw [field]
    exact ⟨_, rfl, by simp, congrArg (· + 1) processors, greatest⟩
  | ⟨complete, [processor]⟩, _ =>
    cases Except.ok.inj scanned
    rw [field, read]
    refine ⟨_, rfl, by simp, processors, ?_⟩
    rw [greatest]
    simp [max?_append_singleton]
  | ⟨complete, [processor, physicalId]⟩, _ =>
    cases Except.ok.inj scanned
    rw [field]
    refine ⟨_, rfl, by simp, ?_, ?_⟩
    · rw [processors]
      simp
    · rw [greatest]
      simp

theorem Keeping.line {line : List Char × Nat} (keeping : Keeping scan tally)
    (scanned : scan.line line = .ok after) :
    ∃ next, tally.line line = .ok next ∧ Keeping after next := by
  unfold Scan.line at scanned
  unfold Tally.line
  cases entry : Entry.ofLine? line.2 line.1 with
  | none =>
    rw [entry] at scanned
    cases Except.ok.inj scanned
    exact ⟨tally, rfl, keeping⟩
  | some entry =>
    simp only [entry] at scanned
    exact keeping.step scanned

theorem Keeping.lines {lines : List (List Char × Nat)} (keeping : Keeping scan tally)
    (scanned : lines.foldlM Scan.line scan = .ok after) :
    ∃ last, lines.foldlM Tally.line tally = .ok last ∧ Keeping after last := by
  induction lines generalizing scan tally with
  | nil =>
    cases Except.ok.inj scanned
    exact ⟨tally, rfl, keeping⟩
  | cons line rest ih =>
    rw [List.foldlM_cons] at scanned ⊢
    obtain ⟨middle, first, scanned⟩ := bind_eq_ok_iff.1 scanned
    obtain ⟨next, counted, keeping⟩ := keeping.line first
    rw [counted]
    exact ih keeping scanned

/-- The tally of a text that spells records has as many processors as there are records. -/
theorem tallied_of_records (read : Topology.records text = .ok records) :
    ∃ tally, tallied text = .ok tally ∧ tally.processors = records.length ∧
      tally.greatest = (records.map (·.physicalId)).max? := by
  rw [records_eq_scanned] at read
  obtain ⟨last, scanned, finished⟩ := bind_eq_ok_iff.1 read
  have start : Keeping ⟨[], []⟩ ⟨none, 0⟩ := ⟨by decide, rfl, rfl⟩
  obtain ⟨tally, counted, _, processors, greatest⟩ := start.lines scanned
  obtain ⟨complete, pending⟩ := last
  cases pending with
  | nil =>
    cases Except.ok.inj finished
    rw [List.drop_nil, List.append_nil] at greatest
    exact ⟨tally, counted, processors, greatest⟩
  | cons => contradiction

/-! What is left for the mapping to fail with. -/

variable {sockets socket : Nat} {fault : DiscoveryFault}

theorem cpuOf?_eq_none_iff :
    cpuOf? records socket = none ↔ ∀ record ∈ records, record.physicalId ≠ socket := by
  simp [cpuOf?, List.filter_eq_nil_iff]

/-- The sockets are looked up in their order, and the first that is on no record is the fault. -/
theorem mapM_cpuOf? (records : List CpuRecord) (sockets : List Nat) :
    (sockets.mapM fun socket =>
      match cpuOf? records socket with
      | some cpu => Except.ok cpu
      | none => Except.error (DiscoveryFault.socketWithoutProcessor socket)) =
      match sockets.find? fun socket => (cpuOf? records socket).isNone with
      | some socket => .error (.socketWithoutProcessor socket)
      | none => .ok (sockets.filterMap (cpuOf? records)) := by
  induction sockets with
  | nil => rfl
  | cons socket rest ih =>
    rw [List.mapM_cons, ih]
    cases found : cpuOf? records socket with
    | none => simp [found, bind, Except.bind]
    | some cpu =>
      simp only [found, List.find?_cons, Option.isNone_some, List.filterMap_cons]
      cases rest.find? fun socket => (cpuOf? records socket).isNone <;> rfl

theorem mapSockets_of_below (few : sockets ≤ records.length)
    (below : ∀ record ∈ records, record.physicalId < sockets) :
    mapSockets records sockets =
      match (List.range sockets).find? fun socket => (cpuOf? records socket).isNone with
      | some socket => .error (.socketWithoutProcessor socket)
      | none => .ok ((List.range sockets).filterMap (cpuOf? records)) := by
  have within : records.find? (fun record => sockets ≤ record.physicalId) = none := by
    rw [List.find?_eq_none]
    intro record member
    simpa using below record member
  rw [mapSockets, if_neg (Nat.not_lt.2 few), within]
  exact mapM_cpuOf? records (List.range sockets)

/-- Where the sockets are few enough and all ids below them, only a gap is a fault: the least one. -/
theorem mapSockets_eq_error_iff (few : sockets ≤ records.length)
    (below : ∀ record ∈ records, record.physicalId < sockets) :
    mapSockets records sockets = .error fault ↔
      ∃ socket, IsLeast {id | id < sockets ∧ ∀ record ∈ records, record.physicalId ≠ id} socket ∧
        fault = .socketWithoutProcessor socket := by
  rw [mapSockets_of_below few below]
  constructor
  · intro failed
    split at failed
    next socket first =>
      cases Except.error.inj failed
      obtain ⟨gap, there, earlier⟩ := List.find?_range_eq_some.1 first
      refine ⟨socket, ⟨⟨List.mem_range.1 there, cpuOf?_eq_none_iff.1 (Option.isNone_iff_eq_none.1 gap)⟩,
        fun id ⟨_, absent⟩ => ?_⟩, rfl⟩
      apply Nat.le_of_not_lt
      intro less
      have covered := earlier id less
      rw [cpuOf?_eq_none_iff.2 absent] at covered
      contradiction
    next => contradiction
  · rintro ⟨socket, ⟨⟨inside, absent⟩, least⟩, rfl⟩
    have first : (List.range sockets).find? (fun socket => (cpuOf? records socket).isNone) =
        some socket := by
      refine List.find?_range_eq_some.2 ⟨Option.isNone_iff_eq_none.2 (cpuOf?_eq_none_iff.2 absent),
        List.mem_range.2 inside, fun id less => ?_⟩
      cases found : cpuOf? records id with
      | some => rfl
      | none =>
        exact absurd (least ⟨Nat.lt_trans less inside, cpuOf?_eq_none_iff.1 found⟩) (Nat.not_le.2 less)
    rw [first]

/-- The two faults of a mapping whose records and sockets do not belong to one text. -/
def Misfit (fault : DiscoveryFault) : Prop :=
  (∃ sockets processors, fault = .tooFewProcessors sockets processors) ∨
    ∃ found expected, fault = .tooManySockets found expected

theorem Entry.Faulty.not_misfit {entry : Entry} {field : RecordField}
    (faulty : entry.Faulty field fault) : ¬ Misfit fault := by
  cases faulty <;> simp [Misfit]

theorem countSockets_not_misfit (failed : countSockets text = .error fault) : ¬ Misfit fault := by
  obtain failed | ⟨ids, _, failed⟩ := bind_eq_error_iff.1 failed
  · obtain ⟨entry, _, failed⟩ := mapM_eq_error failed
    have own : entry.numberFor entry.field = entry.number := if_pos rfl
    exact (Entry.numberFor_eq_error_iff.1 (own.trans failed)).not_misfit
  · dsimp only at failed
    split at failed
    · cases Except.error.inj failed
      simp [Misfit]
    · split at failed
      · contradiction
      · cases Except.error.inj failed
        simp [Misfit]

theorem records_not_misfit (failed : Topology.records text = .error fault) : ¬ Misfit fault := by
  obtain ⟨place, there, faulty, _⟩ | incomplete := recordsOf_eq_error_iff.1 failed
  · exact faulty.not_misfit
  · obtain ⟨_, _, _, _, rfl⟩ := incomplete.names
    simp [Misfit]

theorem sockets_of_records (counted : countSockets text = .ok sockets)
    (read : Topology.records text = .ok records) :
    (records.map (·.physicalId)).max? = some (sockets - 1) ∧ 0 < sockets ∧
      sockets ≤ records.length ∧ ∀ record ∈ records, record.physicalId < sockets := by
  obtain ⟨id, most, rfl, _, few⟩ :=
    (countSocketsOf_eq_ok_iff (recordsOf_eq_ok_iff.1 read)).1 counted
  refine ⟨most, Nat.succ_pos id, few, fun record member => ?_⟩
  exact Nat.lt_succ_of_le ((List.max?_eq_some_iff.1 most).2 _ (List.mem_map_of_mem member))

/-- The count of sockets is a pass over the lines of a text. Where it and the scan for records accept the
text, they agree: as many processors are counted as there are records, and the greatest id is that of the
records. So the mapping fails with the least socket that is on no record if it fails, and no text has it
find records and sockets that do not belong together. -/
theorem passes_agree (text : String) :
    countSockets text = (tallied text >>= Tally.sockets) ∧
    (∀ sockets records, countSockets text = .ok sockets → Topology.records text = .ok records →
      (∃ tally, tallied text = .ok tally ∧ tally.processors = records.length ∧
        tally.greatest = (records.map (·.physicalId)).max?) ∧
      (records.map (·.physicalId)).max? = some (sockets - 1) ∧ 0 < sockets ∧
      sockets ≤ records.length ∧ (∀ record ∈ records, record.physicalId < sockets) ∧
      ∀ fault, mapSockets records sockets = .error fault →
        ∃ socket, IsLeast {id | id < sockets ∧ ∀ record ∈ records, record.physicalId ≠ id} socket ∧
          fault = .socketWithoutProcessor socket ∧
          fault.message = s!"failed to find a CPU for socket {socket}") ∧
    ∀ fault, ofText text = .error fault → ¬ Misfit fault := by
  refine ⟨countSockets_eq_tallied text, fun sockets records counted read => ?_, fun fault failed => ?_⟩
  · obtain ⟨most, positive, few, below⟩ := sockets_of_records counted read
    refine ⟨tallied_of_records read, most, positive, few, below, fun fault failed => ?_⟩
    obtain ⟨socket, least, rfl⟩ := (mapSockets_eq_error_iff few below).1 failed
    exact ⟨socket, least, rfl, rfl⟩
  · obtain failed | ⟨sockets, counted, failed⟩ := bind_eq_error_iff.1 failed
    · exact countSockets_not_misfit failed
    · obtain failed | ⟨records, read, failed⟩ := bind_eq_error_iff.1 failed
      · exact records_not_misfit failed
      · obtain failed | ⟨_, _, failed⟩ := bind_eq_error_iff.1 failed
        · obtain ⟨_, _, few, below⟩ := sockets_of_records counted read
          obtain ⟨socket, _, rfl⟩ := (mapSockets_eq_error_iff few below).1 failed
          simp [Misfit]
        · contradiction

/-- Two processors on a socket that is not the first. -/
def gapText : String :=
  "processor: 4\nphysical id\t: 1\nflags\t\t: fpu\ncore id: 0\n\nprocessor: 6\nphysical id: +1\r\ncore id: 1"

theorem passes_agree_gap :
    countSockets gapText = .ok 2 ∧ Topology.records gapText = .ok [⟨4, 1, 0⟩, ⟨6, 1, 1⟩] ∧
      (∃ tally, tallied gapText = .ok tally ∧ tally.processors = 2 ∧ tally.greatest = some 1) ∧
      IsLeast {id | id < 2 ∧ ∀ record ∈ [⟨4, 1, 0⟩, ⟨6, 1, 1⟩], CpuRecord.physicalId record ≠ id} 0 ∧
      ofText gapText = .error (.socketWithoutProcessor 0) ∧ ¬ Misfit (.socketWithoutProcessor 0) := by
  have counted : countSockets gapText = .ok 2 := by decide +kernel
  have read : Topology.records gapText = .ok [⟨4, 1, 0⟩, ⟨6, 1, 1⟩] := by decide +kernel
  have found : ofText gapText = .error (.socketWithoutProcessor 0) := by decide +kernel
  have failed : mapSockets [⟨4, 1, 0⟩, ⟨6, 1, 1⟩] 2 = .error (.socketWithoutProcessor 0) := by decide
  obtain ⟨_, agree, fits⟩ := passes_agree gapText
  obtain ⟨tally, _, _, _, _, gap⟩ := agree _ _ counted read
  obtain ⟨socket, least, same, _⟩ := gap _ failed
  cases same
  exact ⟨counted, read, tally, least, found, fits _ found⟩

end PowerLimits.Topology
