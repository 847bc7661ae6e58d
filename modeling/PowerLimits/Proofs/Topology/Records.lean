import PowerLimits.Proofs.Sequence
import PowerLimits.Topology.Sockets

/-! The records of a topology text as its entries taken three by three, and what the count of sockets
makes of the same entries. Where the entries make records, the count sees an id for each of them and as
many processors. -/
namespace PowerLimits.Topology

/-- The entries are those of the records, three by three. -/
inductive Recorded : List Entry → List CpuRecord → Prop where
  | done : Recorded [] []
  | next {first second third : Entry} {entries : List Entry} {record : CpuRecord}
      {records : List CpuRecord}
      (processor : first.numberFor .processor = .ok record.processor)
      (physicalId : second.numberFor .physicalId = .ok record.physicalId)
      (coreId : third.numberFor .coreId = .ok record.coreId)
      (rest : Recorded entries records) :
      Recorded (first :: second :: third :: entries) (record :: records)

variable {entries : List Entry} {records : List CpuRecord}

theorem Entry.numberFor_eq_ok_iff {entry : Entry} {field : RecordField} {n : Nat} :
    entry.numberFor field = .ok n ↔ entry.field = field ∧ entry.number = .ok n := by
  unfold numberFor
  split <;> simp [*]

theorem recorded_of_ok :
    (entries : List Entry) → {records : List CpuRecord} → recordsOf entries = .ok records →
      Recorded entries records
  | [], _, read => by
    cases Except.ok.inj read
    exact .done
  | [_], _, read => by
    obtain ⟨_, _, read⟩ := bind_eq_ok_iff.1 read
    contradiction
  | [_, _], _, read => by
    obtain ⟨_, _, read⟩ := bind_eq_ok_iff.1 read
    obtain ⟨_, _, read⟩ := bind_eq_ok_iff.1 read
    contradiction
  | _ :: _ :: _ :: rest, _, read => by
    obtain ⟨processor, first, read⟩ := bind_eq_ok_iff.1 read
    obtain ⟨physicalId, second, read⟩ := bind_eq_ok_iff.1 read
    obtain ⟨coreId, third, read⟩ := bind_eq_ok_iff.1 read
    obtain ⟨further, others, read⟩ := bind_eq_ok_iff.1 read
    cases Except.ok.inj read
    exact .next first second third (recorded_of_ok rest others)

theorem Recorded.recordsOf_eq (recorded : Recorded entries records) :
    recordsOf entries = .ok records := by
  induction recorded with
  | done => rfl
  | next processor physicalId coreId rest ih =>
    rw [recordsOf, processor]
    simp only [bind, Except.bind, physicalId, coreId, ih]
    rfl

theorem recordsOf_eq_ok_iff : recordsOf entries = .ok records ↔ Recorded entries records :=
  ⟨recorded_of_ok entries, Recorded.recordsOf_eq⟩

theorem Recorded.numbers (recorded : Recorded entries records) :
    (entries.filter (·.field = .physicalId)).mapM Entry.number = .ok (records.map (·.physicalId)) := by
  induction recorded with
  | done => rfl
  | next processor physicalId coreId rest ih =>
    obtain ⟨one, _⟩ := Entry.numberFor_eq_ok_iff.1 processor
    obtain ⟨two, number⟩ := Entry.numberFor_eq_ok_iff.1 physicalId
    obtain ⟨three, _⟩ := Entry.numberFor_eq_ok_iff.1 coreId
    simp only [List.filter_cons, one, two, three, reduceCtorEq, decide_false, decide_true,
      Bool.false_eq_true, if_false, if_true]
    rw [List.mapM_cons, number, ih]
    rfl

theorem Recorded.processors (recorded : Recorded entries records) :
    entries.countP (·.field = .processor) = records.length := by
  induction recorded with
  | done => rfl
  | next processor physicalId coreId rest ih =>
    obtain ⟨one, _⟩ := Entry.numberFor_eq_ok_iff.1 processor
    obtain ⟨two, _⟩ := Entry.numberFor_eq_ok_iff.1 physicalId
    obtain ⟨three, _⟩ := Entry.numberFor_eq_ok_iff.1 coreId
    simp [one, two, three, ih]

end PowerLimits.Topology
