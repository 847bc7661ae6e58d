import PowerLimits.Proofs.Topology.Dense

/-! The mapping of sockets to processors as one pass over the records, which keeps a table of the smallest
processor on each socket so far. What comes out depends on the records only as a set. -/
namespace PowerLimits.Topology

/-- The table after one more record, unless that is of a socket which the table does not have. -/
def tabulate (table : List (Option Nat)) (record : CpuRecord) :
    Except DiscoveryFault (List (Option Nat)) :=
  if record.physicalId < table.length then
    .ok (table.modify record.physicalId fun slot =>
      some (slot.elim record.processor (min record.processor)))
  else .error (.tooManySockets (record.physicalId + 1) table.length)

def filled : Option Nat × Nat → Except DiscoveryFault Nat
  | (some cpu, _) => .ok cpu
  | (none, socket) => .error (.socketWithoutProcessor socket)

/-- The mapping by a table that is empty at first and has to be full in the end. -/
def mapByTable (records : List CpuRecord) (sockets : Nat) : Except DiscoveryFault (List Nat) :=
  if records.length < sockets then .error (.tooFewProcessors sockets records.length)
  else do
    let table ← records.foldlM tabulate (List.replicate sockets none)
    table.zipIdx.mapM filled

/-- The table that these records lead to. -/
def tableOf (records : List CpuRecord) (sockets : Nat) : List (Option Nat) :=
  (List.range sockets).map (cpuOf? records)

variable {records others : List CpuRecord} {sockets : Nat}

theorem cpuOf?_append (seen : List CpuRecord) (record : CpuRecord) (socket : Nat) :
    cpuOf? (seen ++ [record]) socket =
      if record.physicalId = socket then
        some ((cpuOf? seen socket).elim record.processor (min record.processor))
      else cpuOf? seen socket := by
  by_cases on : record.physicalId = socket
  · simp [cpuOf?, on, min?_append_singleton]
  · simp [cpuOf?, on]

theorem tabulate_tableOf (seen : List CpuRecord) (sockets : Nat) (record : CpuRecord) :
    tabulate (tableOf seen sockets) record =
      if record.physicalId < sockets then .ok (tableOf (seen ++ [record]) sockets)
      else .error (.tooManySockets (record.physicalId + 1) sockets) := by
  have size : (tableOf seen sockets).length = sockets := by simp [tableOf]
  rw [tabulate, size]
  split
  next within =>
    congr 1
    apply List.ext_getElem
    · simp [tableOf]
    · intro socket left right
      simp [tableOf, List.getElem_modify, cpuOf?_append]
  next => rfl

/-- A run over the rest of the records ends early at the first that is of no socket of the table. -/
theorem foldlM_tabulate (seen rest : List CpuRecord) (sockets : Nat) :
    rest.foldlM tabulate (tableOf seen sockets) =
      match rest.find? fun record => sockets ≤ record.physicalId with
      | some record => .error (.tooManySockets (record.physicalId + 1) sockets)
      | none => .ok (tableOf (seen ++ rest) sockets) := by
  induction rest generalizing seen with
  | nil =>
    rw [List.append_nil]
    rfl
  | cons record rest ih =>
    rw [List.foldlM_cons, tabulate_tableOf, List.find?_cons]
    by_cases within : record.physicalId < sockets
    · have inside : ¬ sockets ≤ record.physicalId := Nat.not_le.2 within
      simp only [within, inside, if_true, decide_false]
      refine (ih (seen ++ [record])).trans ?_
      rw [List.append_assoc, List.singleton_append]
    · have beyond : sockets ≤ record.physicalId := Nat.le_of_not_lt within
      simp only [within, beyond, if_false, decide_true]
      rfl

theorem mapM_filled_tableOf (records : List CpuRecord) (sockets : Nat) :
    (tableOf records sockets).zipIdx.mapM filled =
      (List.range sockets).mapM fun socket =>
        match cpuOf? records socket with
        | some cpu => .ok cpu
        | none => .error (.socketWithoutProcessor socket) := by
  have indexed : (tableOf records sockets).zipIdx =
      (List.range sockets).map fun socket => (cpuOf? records socket, socket) := by
    apply List.ext_getElem <;> simp [tableOf]
  rw [indexed, List.mapM_map]
  congr 1
  funext socket
  dsimp only [Function.comp_apply]
  cases cpuOf? records socket <;> rfl

theorem mapSockets_eq_mapByTable (records : List CpuRecord) (sockets : Nat) :
    mapSockets records sockets = mapByTable records sockets := by
  have empty : List.replicate sockets none = tableOf [] sockets := by
    apply List.ext_getElem <;> simp [tableOf, cpuOf?]
  rw [mapSockets, mapByTable, empty, foldlM_tabulate, List.nil_append]
  congr 1
  cases records.find? fun record => sockets ≤ record.physicalId with
  | some record => rfl
  | none => exact (mapM_filled_tableOf records sockets).symm

theorem dense_congr (same : ∀ record, record ∈ others ↔ record ∈ records) :
    Dense others sockets ↔ Dense records sockets := by
  simp only [Dense, List.mem_map, same]

theorem leastCpu_congr (same : ∀ record, record ∈ others ↔ record ∈ records) {socket cpu : Nat} :
    LeastCpu others socket cpu ↔ LeastCpu records socket cpu := by
  simp only [LeastCpu, same]

/-- One pass with a table maps sockets to processors where the ids of the records are the numbers below
the count of sockets, and then to the smallest processor on each. That there are fewer records than
sockets shows a socket without a processor; and neither the order of the records nor how often each is
there makes a difference. -/
theorem mapSockets_least (records : List CpuRecord) (sockets : Nat) :
    mapSockets records sockets = mapByTable records sockets ∧
    ((∃ cpus, mapSockets records sockets = .ok cpus) ↔ Dense records sockets) ∧
    (Dense records 0 ↔ records = []) ∧
    (∀ cpus, mapSockets records sockets = .ok cpus → cpus.length = sockets ∧
      ∀ socket (there : socket < cpus.length), LeastCpu records socket cpus[socket]) ∧
    ((∀ socket < sockets, ∃ record ∈ records, record.physicalId = socket) →
      ¬ records.length < sockets) ∧
    ∀ others, (∀ record, record ∈ others ↔ record ∈ records) →
      (mapSockets others sockets).toOption = (mapSockets records sockets).toOption := by
  refine ⟨mapSockets_eq_mapByTable records sockets, ⟨?_, Dense.exists_mapSockets⟩, ?_, ?_, ?_, ?_⟩
  · rintro ⟨cpus, mapped⟩
    exact (mapSockets_eq_ok_iff.1 mapped).1
  · simp [Dense, List.eq_nil_iff_forall_not_mem]
  · intro cpus mapped
    exact (mapSockets_eq_ok_iff.1 mapped).2
  · intro covered
    exact Nat.not_lt.2 (sockets_le_of_covered covered)
  · intro others same
    apply toOption_eq_of_iff
    intro cpus
    simp only [mapSockets_eq_ok_iff, dense_congr same, leastCpu_congr same]

/-- The records of two sockets, and the same again in another order with one of them twice. -/
theorem mapSockets_least_pair :
    (∀ record, record ∈ [⟨3, 1, 1⟩, ⟨2, 0, 0⟩, ⟨7, 1, 0⟩, ⟨2, 0, 0⟩] ↔ record ∈ pairRecords) ∧
      (mapSockets [⟨3, 1, 1⟩, ⟨2, 0, 0⟩, ⟨7, 1, 0⟩, ⟨2, 0, 0⟩] 2).toOption =
        (mapSockets pairRecords 2).toOption ∧
      mapSockets pairRecords 2 = .ok [2, 3] ∧ LeastCpu pairRecords 1 3 := by
  have same : ∀ record, record ∈ [⟨3, 1, 1⟩, ⟨2, 0, 0⟩, ⟨7, 1, 0⟩, ⟨2, 0, 0⟩] ↔
      record ∈ pairRecords := by
    intro record
    simp only [pairRecords, List.mem_cons, List.not_mem_nil, or_false]
    tauto
  have mapped : mapSockets pairRecords 2 = .ok [2, 3] := by decide
  obtain ⟨_, _, _, least, _, unordered⟩ := mapSockets_least pairRecords 2
  exact ⟨same, unordered _ same, mapped, (least _ mapped).2 1 (by decide)⟩

end PowerLimits.Topology
