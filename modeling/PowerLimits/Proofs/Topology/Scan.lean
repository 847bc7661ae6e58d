import PowerLimits.Proofs.Topology.Records

/-! Topology texts read line by line. What is kept between two lines are the records that are complete and
the numbers of the one that is not. How many numbers these are says which field is due next; the place of
an entry among all of them says the same. -/
namespace PowerLimits.Topology

/-- The field that is due at a place among the entries. -/
def due (place : Nat) : RecordField :=
  match place % 3 with
  | 0 => .processor
  | 1 => .physicalId
  | _ => .coreId

structure Scan where
  records : List CpuRecord
  pending : List Nat

namespace Scan

/-- The third number completes a record. -/
def step (scan : Scan) (entry : Entry) : Except DiscoveryFault Scan := do
  let number ← entry.numberFor (due scan.pending.length)
  match scan.pending with
  | [processor, physicalId] => return ⟨scan.records ++ [⟨processor, physicalId, number⟩], []⟩
  | pending => return ⟨scan.records, pending ++ [number]⟩

def line (scan : Scan) (line : List Char × Nat) : Except DiscoveryFault Scan :=
  match Entry.ofLine? line.2 line.1 with
  | some entry => scan.step entry
  | none => .ok scan

def finish (scan : Scan) : Except DiscoveryFault (List CpuRecord) :=
  match scan.pending with
  | [] => .ok scan.records
  | processor :: _ => .error (.truncatedRecord processor)

end Scan

def scanned (text : String) : Except DiscoveryFault (List CpuRecord) := do
  (← ((Text.lines text.toList).zipIdx 1).foldlM Scan.line ⟨[], []⟩).finish

/-- The numbers of entries, the first of which is at this place. -/
def numbersFrom (place : Nat) : List Entry → Except DiscoveryFault (List Nat)
  | [] => .ok []
  | entry :: rest => do
    let number ← entry.numberFor (due place)
    return number :: (← numbersFrom (place + 1) rest)

/-- Numbers taken three by three. -/
def grouped : List Nat → Except DiscoveryFault (List CpuRecord)
  | [] => .ok []
  | [processor] | [processor, _] => .error (.truncatedRecord processor)
  | processor :: physicalId :: coreId :: rest => do
    return ⟨processor, physicalId, coreId⟩ :: (← grouped rest)

theorem due_add_three (place : Nat) : due (place + 3) = due place := by
  simp [due]

theorem numbersFrom_add_three (place : Nat) (entries : List Entry) :
    numbersFrom (place + 3) entries = numbersFrom place entries := by
  induction entries generalizing place with
  | nil => rfl
  | cons entry rest ih =>
    rw [numbersFrom, numbersFrom, due_add_three, Nat.add_right_comm, ih]

theorem recordsOf_eq : (entries : List Entry) → recordsOf entries = numbersFrom 0 entries >>= grouped
  | [] => rfl
  | [first] => by
    simp only [recordsOf, numbersFrom, bind_assoc, pure_bind]
    rfl
  | [first, second] => by
    simp only [recordsOf, numbersFrom, bind_assoc, pure_bind]
    rfl
  | first :: second :: third :: rest => by
    simp only [recordsOf, numbersFrom, bind_assoc, pure_bind]
    rw [numbersFrom_add_three, recordsOf_eq rest]
    simp only [bind_assoc]
    rfl

/-- The invariant of a scan: the numbers to come continue those that are pending. -/
theorem foldlM_step (entries : List Entry) (scan : Scan) (short : scan.pending.length < 3) :
    (entries.foldlM Scan.step scan >>= Scan.finish) =
      numbersFrom scan.pending.length entries >>= fun numbers =>
        (grouped (scan.pending ++ numbers)).map (scan.records ++ ·) := by
  induction entries generalizing scan with
  | nil =>
    match scan, short with
    | ⟨records, []⟩, _ => exact congrArg Except.ok (List.append_nil records).symm
    | ⟨_, [_]⟩, _ | ⟨_, [_, _]⟩, _ => rfl
  | cons entry rest ih =>
    rw [List.foldlM_cons, numbersFrom, Scan.step]
    simp only [bind_assoc, pure_bind]
    refine bind_congr fun number => ?_
    match scan, short with
    | ⟨records, []⟩, _ => exact ih ⟨records, [number]⟩ (by simp)
    | ⟨records, [processor]⟩, _ => exact ih ⟨records, [processor, number]⟩ (by simp)
    | ⟨records, [processor, physicalId]⟩, _ =>
      refine (ih ⟨records ++ [⟨processor, physicalId, number⟩], []⟩ (by simp)).trans ?_
      rw [← numbersFrom_add_three]
      refine bind_congr fun numbers => ?_
      simp only [List.cons_append, List.nil_append, grouped]
      cases grouped numbers with
      | error fault => rfl
      | ok further => exact congrArg Except.ok (List.append_assoc _ _ _)

/-- A pass over the lines in which those that are no entries change nothing is one over the entries. -/
theorem foldlM_lines {α : Type} {pass : α → List Char × Nat → Except DiscoveryFault α}
    {step : α → Entry → Except DiscoveryFault α} (text : String) (start : α)
    (onEntry : ∀ state line entry, Entry.ofLine? line.2 line.1 = some entry →
      pass state line = step state entry)
    (onOther : ∀ state line, Entry.ofLine? line.2 line.1 = none → pass state line = .ok state) :
    ((Text.lines text.toList).zipIdx 1).foldlM pass start = (entries text).foldlM step start := by
  rw [entries, List.foldlM_filterMap]
  congr 1
  funext state line
  dsimp only
  cases found : Entry.ofLine? line.2 line.1 with
  | some entry => exact onEntry state line entry found
  | none => exact onOther state line found

theorem records_eq_scanned (text : String) : records text = scanned text := by
  have lines : ((Text.lines text.toList).zipIdx 1).foldlM Scan.line ⟨[], []⟩ =
      (entries text).foldlM Scan.step ⟨[], []⟩ :=
    foldlM_lines text _ (fun scan line entry found => by simp only [Scan.line, found])
      fun scan line found => by simp only [Scan.line, found]
  rw [records, recordsOf_eq, scanned, lines]
  refine Eq.trans ?_ (foldlM_step (entries text) ⟨[], []⟩ (by decide)).symm
  refine bind_congr fun numbers => ?_
  simp only [List.nil_append]
  cases grouped numbers <;> rfl

end PowerLimits.Topology
