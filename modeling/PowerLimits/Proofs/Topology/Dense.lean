import Mathlib.Data.List.Perm.Subperm
import PowerLimits.Proofs.Topology.Records
import PowerLimits.Session.System

/-! Topologies without gaps. A topology text gives a topology exactly where the ids of its records are
the numbers from zero on, and then each socket has the smallest processor on it. -/
namespace PowerLimits.Topology

/-- The ids of the records are the numbers below `sockets`, all of them. -/
def Dense (records : List CpuRecord) (sockets : Nat) : Prop :=
  ∀ id, id ∈ records.map (·.physicalId) ↔ id < sockets

/-- The smallest processor on a socket. -/
def LeastCpu (records : List CpuRecord) (socket cpu : Nat) : Prop :=
  (∃ record ∈ records, record.physicalId = socket ∧ record.processor = cpu) ∧
    ∀ record ∈ records, record.physicalId = socket → cpu ≤ record.processor

variable {entries : List Entry} {records : List CpuRecord} {sockets socket cpu : Nat} {cpus : List Nat}

theorem cpuOf?_eq_some_iff : cpuOf? records socket = some cpu ↔ LeastCpu records socket cpu := by
  rw [cpuOf?, List.min?_eq_some_iff]
  simp only [LeastCpu, List.mem_map, List.mem_filter, decide_eq_true_eq, and_assoc,
    forall_exists_index, and_imp]
  refine and_congr_right fun _ => ?_
  constructor
  · intro least record member on
    exact least _ record member on rfl
  · rintro least _ record member on rfl
    exact least record member on

/-- As many sockets need as many records. -/
theorem sockets_le_of_covered
    (covered : ∀ socket < sockets, ∃ record ∈ records, record.physicalId = socket) :
    sockets ≤ records.length := by
  have ids : List.range sockets ⊆ records.map (·.physicalId) := by
    intro socket below
    exact List.mem_map.2 (covered socket (List.mem_range.1 below))
  have counted := (List.nodup_range.subperm ids).length_le
  rwa [List.length_range, List.length_map] at counted

theorem Dense.sockets_le (dense : Dense records sockets) : sockets ≤ records.length :=
  sockets_le_of_covered fun socket below => List.mem_map.1 ((dense socket).2 below)

theorem Dense.max?_eq (dense : Dense records (socket + 1)) :
    (records.map (·.physicalId)).max? = some socket := by
  rw [List.max?_eq_some_iff]
  refine ⟨(dense socket).2 (Nat.lt_succ_self _), fun id member => ?_⟩
  exact Nat.le_of_lt_succ ((dense id).1 member)

theorem Dense.unique {other : Nat} (dense : Dense records sockets) (again : Dense records other) :
    sockets = other := by
  have same (id : Nat) : id < sockets ↔ id < other := (dense id).symm.trans (again id)
  have first := same sockets
  have second := same other
  omega

theorem Dense.exists_leastCpu (dense : Dense records sockets) (below : socket < sockets) :
    ∃ cpu, LeastCpu records socket cpu := by
  obtain ⟨record, member, on⟩ := List.mem_map.1 ((dense socket).2 below)
  have there : record.processor ∈
      (records.filter (·.physicalId = socket)).map (·.processor) :=
    List.mem_map_of_mem (List.mem_filter.2 ⟨member, decide_eq_true on⟩)
  obtain ⟨cpu, least⟩ := Option.isSome_iff_exists.1 (List.isSome_min?_of_mem there)
  exact ⟨cpu, cpuOf?_eq_some_iff.1 least⟩

theorem found_eq_ok_iff :
    (match cpuOf? records socket with
      | some cpu => .ok cpu
      | none => .error (DiscoveryFault.socketWithoutProcessor socket)) = Except.ok cpu ↔
    LeastCpu records socket cpu := by
  rw [← cpuOf?_eq_some_iff]
  cases cpuOf? records socket <;> simp

theorem mapSockets_eq_ok_iff :
    mapSockets records sockets = .ok cpus ↔
      Dense records sockets ∧ cpus.length = sockets ∧
        ∀ socket (there : socket < cpus.length), LeastCpu records socket cpus[socket] := by
  rw [← forall₂_range_iff]
  constructor
  · intro mapped
    unfold mapSockets at mapped
    split at mapped
    next => contradiction
    next =>
      split at mapped
      next => contradiction
      next within =>
        have least := (mapM_eq_ok_iff.1 mapped).imp fun socket cpu => found_eq_ok_iff.1
        refine ⟨fun id => ⟨?_, ?_⟩, least⟩
        · intro used
          obtain ⟨record, member, rfl⟩ := List.mem_map.1 used
          simpa using List.find?_eq_none.1 within record member
        · intro below
          obtain ⟨length, least⟩ := forall₂_range_iff.1 least
          obtain ⟨⟨record, member, on, _⟩, _⟩ := least id (length ▸ below)
          exact List.mem_map.2 ⟨record, member, on⟩
  · rintro ⟨dense, least⟩
    unfold mapSockets
    rw [if_neg (Nat.not_lt.2 dense.sockets_le)]
    have within : records.find? (fun record => sockets ≤ record.physicalId) = none := by
      rw [List.find?_eq_none]
      intro record member
      simpa using (dense _).1 (List.mem_map_of_mem member)
    rw [within]
    exact mapM_eq_ok_iff.2 (least.imp fun socket cpu => found_eq_ok_iff.2)

theorem Dense.exists_mapSockets (dense : Dense records sockets) :
    ∃ cpus, mapSockets records sockets = .ok cpus := by
  refine ⟨(List.range sockets).map fun socket => (cpuOf? records socket).getD 0,
    mapSockets_eq_ok_iff.2 ⟨dense, by simp, fun socket there => ?_⟩⟩
  obtain ⟨cpu, least⟩ := dense.exists_leastCpu (by simpa using there)
  simpa [cpuOf?_eq_some_iff.2 least] using least

theorem countSocketsOf_eq_ok_iff (recorded : Recorded entries records) :
    countSocketsOf entries = .ok sockets ↔
      ∃ id, (records.map (·.physicalId)).max? = some id ∧ sockets = id + 1 ∧
        sockets < Text.naturalLimit ∧ id < records.length := by
  unfold countSocketsOf
  rw [recorded.numbers, recorded.processors]
  simp only [bind, Except.bind]
  cases (records.map (·.physicalId)).max? with
  | none => simp
  | some id =>
    dsimp only
    split
    next fits =>
      simp only [Except.ok.injEq, Option.some.injEq, exists_eq_left']
      constructor
      · rintro rfl
        exact ⟨rfl, fits⟩
      · rintro ⟨rfl, _⟩
        rfl
    next beyond =>
      simp only [reduceCtorEq, Option.some.injEq, exists_eq_left', false_iff]
      rintro ⟨rfl, fits⟩
      exact beyond fits

variable {text : String} {topology : Topology}

theorem countSockets_of_dense (read : Topology.records text = .ok records)
    (positive : 0 < sockets) (few : sockets < Text.naturalLimit) (dense : Dense records sockets) :
    countSockets text = .ok sockets := by
  obtain ⟨last, rfl⟩ := Nat.exists_eq_add_one.2 positive
  exact (countSocketsOf_eq_ok_iff (recordsOf_eq_ok_iff.1 read)).2
    ⟨last, dense.max?_eq, rfl, few, dense.sockets_le⟩

theorem ofText_eq_ok_iff :
    ofText text = .ok topology ↔
      ∃ records, Topology.records text = .ok records ∧
        0 < topology.cpus.length ∧ topology.cpus.length < Text.naturalLimit ∧
        Dense records topology.cpus.length ∧
        ∀ socket (there : socket < topology.cpus.length),
          LeastCpu records socket topology.cpus[socket] := by
  constructor
  · intro found
    obtain ⟨sockets, counted, found⟩ := bind_eq_ok_iff.1 found
    obtain ⟨records, read, found⟩ := bind_eq_ok_iff.1 found
    obtain ⟨cpus, mapped, found⟩ := bind_eq_ok_iff.1 found
    cases Except.ok.inj found
    obtain ⟨dense, rfl, least⟩ := mapSockets_eq_ok_iff.1 mapped
    obtain ⟨last, _, size, few, _⟩ := (countSocketsOf_eq_ok_iff (recordsOf_eq_ok_iff.1 read)).1 counted
    exact ⟨records, read, size ▸ Nat.succ_pos _, few, dense, least⟩
  · rintro ⟨records, read, positive, few, dense, least⟩
    have counted := countSockets_of_dense read positive few dense
    have mapped := mapSockets_eq_ok_iff.2 ⟨dense, rfl, least⟩
    simp only [ofText, counted, read, mapped, bind, Except.bind]
    rfl

/-- The topology texts accepted are those whose records have for their ids the numbers below some
count of sockets, which then is the count found without a session, and the processor of each socket is
the smallest on it. Of any other text nothing is given but a failure of discovery. -/
theorem ofText_accepts_dense (text : String) :
    ((∃ topology, ofText text = .ok topology) ↔
      ∃ records sockets, Topology.records text = .ok records ∧ 0 < sockets ∧
        sockets < Text.naturalLimit ∧ Dense records sockets) ∧
    (∀ topology records sockets, ofText text = .ok topology →
      Topology.records text = .ok records → Dense records sockets →
        topology.cpus.length = sockets ∧
        (∀ socket (there : socket < topology.cpus.length),
          LeastCpu records socket topology.cpus[socket]) ∧
        countSockets text = .ok sockets) ∧
    ∀ (σ : Type) (store : σ), (∃ topology, ofText text = .ok topology) ∨
      ∃ fault, (noted (ofText text)).run store = ⟨[], store, .error (.discovery fault)⟩ := by
  refine ⟨⟨?_, ?_⟩, ?_, fun σ store => ?_⟩
  · rintro ⟨topology, found⟩
    obtain ⟨records, read, positive, few, dense, _⟩ := ofText_eq_ok_iff.1 found
    exact ⟨records, _, read, positive, few, dense⟩
  · rintro ⟨records, sockets, read, positive, few, dense⟩
    obtain ⟨cpus, mapped⟩ := dense.exists_mapSockets
    obtain ⟨_, rfl, least⟩ := mapSockets_eq_ok_iff.1 mapped
    exact ⟨⟨cpus⟩, ofText_eq_ok_iff.2 ⟨records, read, positive, few, dense, least⟩⟩
  · intro topology records sockets found read dense
    obtain ⟨others, again, positive, few, counted, least⟩ := ofText_eq_ok_iff.1 found
    cases Except.ok.inj (read.symm.trans again)
    cases dense.unique counted
    exact ⟨rfl, least, countSockets_of_dense read positive few dense⟩
  · cases found : ofText text with
    | ok topology => exact .inl ⟨topology, rfl⟩
    | error fault => exact .inr ⟨fault, rfl⟩

/-- Two sockets, the second of which comes first and has two processors. -/
def pairText : String :=
  "processor\t: 7\nphysical id\t: 1\ncore id\t\t: 0\n\nprocessor\t: 2\nphysical id\t: 0\n" ++
    "core id\t\t: 0\n\nprocessor\t: 3\nphysical id\t: 1\ncore id\t\t: 1\n"

def pairRecords : List CpuRecord := [⟨7, 1, 0⟩, ⟨2, 0, 0⟩, ⟨3, 1, 1⟩]

theorem ofText_accepts_dense_pair :
    ∃ topology, ofText pairText = .ok topology ∧ topology.cpus.length = 2 ∧
      (∀ socket (there : socket < topology.cpus.length),
        LeastCpu pairRecords socket topology.cpus[socket]) ∧
      countSockets pairText = .ok 2 := by
  have read : Topology.records pairText = .ok pairRecords := by decide +kernel
  have dense : Dense pairRecords 2 := by
    intro id
    simp only [pairRecords, List.map_cons, List.map_nil, List.mem_cons, List.not_mem_nil, or_false]
    omega
  obtain ⟨accepted, given, _⟩ := ofText_accepts_dense pairText
  obtain ⟨topology, found⟩ := accepted.2 ⟨_, 2, read, by decide, by decide, dense⟩
  exact ⟨topology, found, given topology _ 2 found read dense⟩

end PowerLimits.Topology
