import PowerLimits.Proofs.Topology.Scan

/-! The grammar of topology texts. The lines that name a record field are the entries; they have to come
three by three in the order of the fields, each with a number. The first entry that does not fit its place
is the fault of a text, and only where all fit is it that the last record is incomplete. -/
namespace PowerLimits

def RecordField.place : RecordField → Nat
  | .processor => 0
  | .physicalId => 1
  | .coreId => 2

def CpuRecord.number (record : CpuRecord) : RecordField → Nat
  | .processor => record.processor
  | .physicalId => record.physicalId
  | .coreId => record.coreId

/-- The fault without the number of the line that it is on. -/
def DiscoveryFault.unnumbered : DiscoveryFault → DiscoveryFault
  | .unexpectedField _ expected found => .unexpectedField 0 expected found
  | .invalidValue _ field value fault => .invalidValue 0 field value fault
  | fault => fault

theorem Text.splitField?_eq_some_iff {line key value : List Char} :
    splitField? line = some (key, value) ↔
      ∃ before after, line = before ++ ':' :: after ∧ ':' ∉ before ∧
        trim before = key ∧ trim after = value := by
  constructor
  · intro split
    have whole : line.takeWhile (· ≠ ':') ++ line.dropWhile (· ≠ ':') = line :=
      List.takeWhile_append_dropWhile
    have clean : ':' ∉ line.takeWhile (· ≠ ':') := by
      intro member
      simpa using List.all_eq_true.1 List.all_takeWhile _ member
    unfold splitField? at split
    cases rest : line.dropWhile (· ≠ ':') with
    | nil =>
      rw [rest] at split
      contradiction
    | cons colon after =>
      have stop : colon = ':' := by
        have head := List.head_dropWhile_not (· ≠ ':') (rest ▸ List.cons_ne_nil colon after)
        simp only [rest, List.head_cons, decide_eq_false_iff_not, not_not] at head
        exact head
      rw [rest] at split whole
      obtain ⟨rfl, rfl⟩ := Prod.mk.inj (Option.some.inj split)
      exact ⟨_, after, stop ▸ whole.symm, clean, rfl, rfl⟩
  · rintro ⟨before, after, rfl, clean, rfl, rfl⟩
    have passed : ∀ c ∈ before, decide (c ≠ ':') = true := by
      intro c member
      exact decide_eq_true fun colon => clean (colon ▸ member)
    simp only [splitField?, List.dropWhile_append_of_pos passed, List.takeWhile_append_of_pos passed]
    simp

theorem RecordField.ofName?_eq_some_iff {name : List Char} {field : RecordField} :
    ofName? name = some field ↔ name = field.name.toList := by
  constructor
  · intro found
    have named := List.find?_some found
    exact (of_decide_eq_true named).symm
  · rintro rfl
    cases field <;> decide

namespace Topology

/-- The line makes the entry: its text before the first colon, without the blanks around it, names the
field, and so does the text after the colon give the value. -/
def Entry.IsOn (entry : Entry) (line : List Char) : Prop :=
  ∃ before after, line = before ++ ':' :: after ∧ ':' ∉ before ∧
    Text.trim before = entry.field.name.toList ∧ Text.trim after = entry.value

def Entry.Fits (entry : Entry) (field : RecordField) : Prop :=
  entry.field = field ∧ ∃ n, Text.readNat Text.naturalLimit entry.value = .ok n

/-- What is wrong with an entry where this field is due. -/
inductive Entry.Faulty (entry : Entry) (field : RecordField) : DiscoveryFault → Prop where
  | unexpected (other : entry.field ≠ field) :
      Faulty entry field (.unexpectedField entry.line field entry.field)
  | invalid {fault : Text.IntegerFault} (own : entry.field = field)
      (unread : Text.readNat Text.naturalLimit entry.value = .error fault) :
      Faulty entry field (.invalidValue entry.line field (String.ofList entry.value) fault)

def Entry.unnumbered (entry : Entry) : Entry := { entry with line := 0 }

/-- The entries are those of the records: three for each, with its numbers in the order of the fields. -/
structure Spelled (entries : List Entry) (records : List CpuRecord) : Prop where
  length : entries.length = 3 * records.length
  each : ∀ i (there : i < records.length) (field : RecordField),
    ∃ entry, entries[3 * i + field.place]? = some entry ∧ entry.field = field ∧
      Text.readNat Text.naturalLimit entry.value = .ok (records[i].number field)

/-- The fault is that of the first entry that does not fit its place. -/
def FirstFaulty (entries : List Entry) (fault : DiscoveryFault) : Prop :=
  ∃ place, ∃ there : place < entries.length, entries[place].Faulty (due place) fault ∧
    ∀ earlier (before : earlier < place), entries[earlier].Fits (due earlier)

/-- Every entry fits, but the last record is incomplete. -/
structure Incomplete (entries : List Entry) (fault : DiscoveryFault) : Prop where
  fit : ∀ place (there : place < entries.length), entries[place].Fits (due place)
  rest : entries.length % 3 ≠ 0
  names : ∃ entry processor, entries[3 * (entries.length / 3)]? = some entry ∧
    Text.readNat Text.naturalLimit entry.value = .ok processor ∧ fault = .truncatedRecord processor

theorem Entry.ofLine?_eq_some_iff {entry : Entry} {number : Nat} {line : List Char} :
    ofLine? number line = some entry ↔ entry.line = number ∧ entry.IsOn line := by
  obtain ⟨n, field, value⟩ := entry
  simp only [ofLine?, IsOn, bind, Option.bind_eq_some_iff, Prod.exists, Text.splitField?_eq_some_iff,
    RecordField.ofName?_eq_some_iff]
  constructor
  · rintro ⟨_, _, ⟨before, after, whole, clean, rfl, rfl⟩, _, named, made⟩
    cases Option.some.inj made
    exact ⟨rfl, before, after, whole, clean, named, rfl⟩
  · rintro ⟨rfl, before, after, whole, clean, named, rfl⟩
    exact ⟨_, _, ⟨before, after, whole, clean, rfl, rfl⟩, field, named, rfl⟩

theorem mem_entries_iff {text : String} {entry : Entry} :
    entry ∈ entries text ↔
      ∃ index line, (Text.lines text.toList)[index]? = some line ∧ entry.line = index + 1 ∧
        entry.IsOn line := by
  simp only [entries, List.mem_filterMap, Prod.exists, List.mk_mem_zipIdx_iff_le_and_getElem?_sub,
    Entry.ofLine?_eq_some_iff]
  constructor
  · rintro ⟨line, number, ⟨counted, there⟩, numbered, on⟩
    exact ⟨number - 1, line, there, by omega, on⟩
  · rintro ⟨index, line, there, numbered, on⟩
    exact ⟨line, index + 1, ⟨by omega, there⟩, numbered, on⟩

theorem entries_ascending (text : String) : (entries text).Pairwise (·.line < ·.line) := by
  have numbered : ((Text.lines text.toList).zipIdx 1).Pairwise fun earlier later =>
      earlier.2 < later.2 := by
    rw [← List.pairwise_map (f := Prod.snd) (R := (· < ·)), List.zipIdx_map_snd]
    exact List.pairwise_lt_range'
  refine numbered.filterMap _ ?_
  intro earlier later before entry made next followed
  rw [(Entry.ofLine?_eq_some_iff.1 made).1, (Entry.ofLine?_eq_some_iff.1 followed).1]
  exact before

section

variable {entries : List Entry} {records : List CpuRecord} {numbers : List Nat}
  {fault : DiscoveryFault} {place : Nat}

theorem Entry.numberFor_eq_error_iff {entry : Entry} {field : RecordField} :
    entry.numberFor field = .error fault ↔ entry.Faulty field fault := by
  unfold numberFor number
  constructor
  · intro failed
    split at failed
    next own =>
      split at failed
      next => contradiction
      next unread =>
        cases Except.error.inj failed
        subst own
        exact .invalid rfl unread
    next other =>
      cases Except.error.inj failed
      exact .unexpected other
  · rintro (other | ⟨own, unread⟩)
    · rw [if_neg other]
    · rw [if_pos own, unread, own]

theorem Entry.numberFor_eq_ok_iff_readNat {entry : Entry} {field : RecordField} {n : Nat} :
    entry.numberFor field = .ok n ↔
      entry.field = field ∧ Text.readNat Text.naturalLimit entry.value = .ok n := by
  rw [numberFor_eq_ok_iff, number]
  cases Text.readNat Text.naturalLimit entry.value <;> simp

theorem Entry.fits_iff {entry : Entry} {field : RecordField} :
    entry.Fits field ↔ ∃ n, entry.numberFor field = .ok n := by
  simp only [Fits, numberFor_eq_ok_iff_readNat, exists_and_left]

/-- A scan fails at the first entry that does not fit its place. -/
theorem numbersFrom_eq_error_iff : numbersFrom place entries = .error fault ↔
    ∃ i, ∃ there : i < entries.length, entries[i].Faulty (due (place + i)) fault ∧
      ∀ j (before : j < i), entries[j].Fits (due (place + j)) := by
  induction entries generalizing place with
  | nil => simp [numbersFrom]
  | cons entry rest ih =>
    rw [numbersFrom, bind_eq_error_iff, Entry.numberFor_eq_error_iff]
    constructor
    · rintro (faulty | ⟨number, fits, failed⟩)
      · exact ⟨0, Nat.succ_pos _, faulty, fun _ before => absurd before (Nat.not_lt_zero _)⟩
      · obtain failed | ⟨_, _, done⟩ := bind_eq_error_iff.1 failed
        · obtain ⟨i, there, faulty, earlier⟩ := ih.1 failed
          refine ⟨i + 1, Nat.succ_lt_succ there, ?_, ?_⟩
          · rw [← Nat.add_assoc, Nat.add_right_comm]
            exact faulty
          · rintro (_ | j) before
            · exact Entry.fits_iff.2 ⟨number, fits⟩
            · rw [← Nat.add_assoc, Nat.add_right_comm]
              exact earlier j (Nat.lt_of_succ_lt_succ before)
        · contradiction
    · rintro ⟨_ | i, there, faulty, earlier⟩
      · exact .inl faulty
      · obtain ⟨number, fits⟩ := Entry.fits_iff.1 (earlier 0 (Nat.succ_pos _))
        refine .inr ⟨number, fits, bind_eq_error_iff.2 (.inl (ih.2 ?_))⟩
        refine ⟨i, Nat.lt_of_succ_lt_succ there, ?_, ?_⟩
        · rw [Nat.add_right_comm, Nat.add_assoc]
          exact faulty
        · intro j before
          rw [Nat.add_right_comm, Nat.add_assoc]
          exact earlier (j + 1) (Nat.succ_lt_succ before)

theorem numbersFrom_ok (scanned : numbersFrom place entries = .ok numbers) :
    numbers.length = entries.length ∧ ∀ (i n : Nat), numbers[i]? = some n ↔
      ∃ entry, entries[i]? = some entry ∧ entry.numberFor (due (place + i)) = .ok n := by
  induction entries generalizing place numbers with
  | nil =>
    cases Except.ok.inj scanned
    simp
  | cons entry rest ih =>
    obtain ⟨number, fits, scanned⟩ := bind_eq_ok_iff.1 scanned
    obtain ⟨others, further, scanned⟩ := bind_eq_ok_iff.1 scanned
    cases Except.ok.inj scanned
    obtain ⟨length, each⟩ := ih further
    refine ⟨congrArg Nat.succ length, ?_⟩
    rintro (_ | i) n
    · simp [fits]
    · rw [← Nat.add_assoc, Nat.add_right_comm]
      exact each i n

theorem exists_numbersFrom_iff : (∃ numbers, numbersFrom place entries = .ok numbers) ↔
    ∀ i (there : i < entries.length), entries[i].Fits (due (place + i)) := by
  constructor
  · rintro ⟨numbers, scanned⟩ i there
    obtain ⟨length, each⟩ := numbersFrom_ok scanned
    obtain ⟨entry, same, fits⟩ := (each i numbers[i]).1 (List.getElem?_eq_getElem (length ▸ there))
    rw [List.getElem?_eq_getElem there] at same
    cases Option.some.inj same
    exact Entry.fits_iff.2 ⟨_, fits⟩
  · intro fit
    cases scanned : numbersFrom place entries with
    | ok numbers => exact ⟨numbers, rfl⟩
    | error fault =>
      obtain ⟨i, there, faulty, _⟩ := numbersFrom_eq_error_iff.1 scanned
      obtain ⟨number, fits⟩ := Entry.fits_iff.1 (fit i there)
      rw [Entry.numberFor_eq_error_iff.2 faulty] at fits
      contradiction

theorem grouped_eq_error_iff : (numbers : List Nat) → (grouped numbers = .error fault ↔
    numbers.length % 3 ≠ 0 ∧ ∃ processor, numbers[3 * (numbers.length / 3)]? = some processor ∧
      fault = .truncatedRecord processor)
  | [] => by simp [grouped]
  | [processor] => by simp [grouped, eq_comm]
  | [processor, _] => by simp [grouped, eq_comm]
  | processor :: physicalId :: coreId :: rest => by
    have size : (processor :: physicalId :: coreId :: rest).length = rest.length + 3 := rfl
    have last : 3 * ((rest.length + 3) / 3) = 3 * (rest.length / 3) + 1 + 1 + 1 := by omega
    rw [size, last, Nat.add_mod_right, List.getElem?_cons_succ, List.getElem?_cons_succ,
      List.getElem?_cons_succ, ← grouped_eq_error_iff rest, grouped, bind_eq_error_iff]
    simp [pure, Except.pure]

theorem recordsOf_eq_error_iff :
    recordsOf entries = .error fault ↔ FirstFaulty entries fault ∨ Incomplete entries fault := by
  have scan : (∃ numbers, numbersFrom 0 entries = .ok numbers) ↔ _ := exists_numbersFrom_iff
  rw [recordsOf_eq, bind_eq_error_iff, numbersFrom_eq_error_iff]
  simp only [Nat.zero_add] at scan ⊢
  refine or_congr Iff.rfl ⟨?_, ?_⟩
  · rintro ⟨numbers, scanned, cut⟩
    obtain ⟨length, each⟩ := numbersFrom_ok scanned
    obtain ⟨rest, processor, named, rfl⟩ := (grouped_eq_error_iff numbers).1 cut
    rw [length] at rest named
    obtain ⟨entry, there, fits⟩ := (each _ _).1 named
    obtain ⟨_, read⟩ := Entry.numberFor_eq_ok_iff_readNat.1 fits
    exact ⟨scan.1 ⟨numbers, scanned⟩, rest, entry, processor, there, read, rfl⟩
  · rintro ⟨fit, rest, entry, processor, there, read, rfl⟩
    obtain ⟨numbers, scanned⟩ := scan.2 fit
    obtain ⟨length, each⟩ := numbersFrom_ok scanned
    obtain ⟨inside, rfl⟩ := List.getElem?_eq_some_iff.1 there
    have fits := Entry.numberFor_eq_ok_iff_readNat.2 ⟨(fit _ inside).1, read⟩
    refine ⟨numbers, scanned, (grouped_eq_error_iff numbers).2 ?_⟩
    rw [length]
    refine ⟨rest, processor, (each _ _).2 ⟨_, there, ?_⟩, rfl⟩
    rw [Nat.zero_add]
    exact fits

theorem Recorded.spelled (recorded : Recorded entries records) : Spelled entries records := by
  induction recorded with
  | done => exact ⟨rfl, nofun⟩
  | next processor physicalId coreId rest ih =>
    rw [Entry.numberFor_eq_ok_iff_readNat] at processor physicalId coreId
    refine ⟨by simp [ih.length, Nat.mul_succ], ?_⟩
    rintro (_ | i) there field
    · cases field with
      | processor => exact ⟨_, rfl, processor⟩
      | physicalId => exact ⟨_, rfl, physicalId⟩
      | coreId => exact ⟨_, rfl, coreId⟩
    · obtain ⟨entry, found, spelled⟩ := ih.each i (Nat.lt_of_succ_lt_succ there) field
      refine ⟨entry, ?_, spelled⟩
      have further : 3 * (i + 1) + field.place = 3 * i + field.place + 1 + 1 + 1 := by omega
      rw [further]
      exact found

theorem recorded_of_spelled : (entries : List Entry) → {records : List CpuRecord} →
    Spelled entries records → Recorded entries records
  | _, [], spelled => by
    cases List.eq_nil_of_length_eq_zero spelled.length
    exact .done
  | first :: second :: third :: rest, record :: records, spelled => by
    have head (field : RecordField) {entry : Entry}
        (there : (first :: second :: third :: rest)[field.place]? = some entry) :
        entry.numberFor field = .ok (record.number field) := by
      obtain ⟨_, found, fits⟩ := spelled.each 0 (Nat.succ_pos _) field
      rw [Nat.mul_zero, Nat.zero_add] at found
      cases Option.some.inj (there.symm.trans found)
      exact Entry.numberFor_eq_ok_iff_readNat.2 fits
    refine .next (head .processor rfl) (head .physicalId rfl) (head .coreId rfl)
      (recorded_of_spelled rest ⟨?_, fun i there field => ?_⟩)
    · have length := spelled.length
      simp only [List.length_cons] at length
      omega
    · obtain ⟨entry, found, fits⟩ := spelled.each (i + 1) (Nat.succ_lt_succ there) field
      have further : 3 * (i + 1) + field.place = 3 * i + field.place + 1 + 1 + 1 := by omega
      rw [further] at found
      exact ⟨entry, found, fits⟩
  | [], _ :: _, spelled | [_], _ :: _, spelled | [_, _], _ :: _, spelled => by
    have length := spelled.length
    simp only [List.length_cons, List.length_nil] at length
    omega

theorem recordsOf_eq_ok_iff_spelled : recordsOf entries = .ok records ↔ Spelled entries records :=
  recordsOf_eq_ok_iff.trans ⟨Recorded.spelled, recorded_of_spelled entries⟩

/-! The numbers of the lines are in the faults only. -/

theorem mapError_numberFor (entry : Entry) (field : RecordField) :
    (entry.numberFor field).mapError DiscoveryFault.unnumbered = entry.unnumbered.numberFor field := by
  obtain ⟨line, own, value⟩ := entry
  unfold Entry.unnumbered Entry.numberFor Entry.number
  dsimp only
  split
  · cases Text.readNat Text.naturalLimit value <;> rfl
  · rfl

theorem mapError_numbersFrom (place : Nat) (entries : List Entry) :
    (numbersFrom place entries).mapError DiscoveryFault.unnumbered =
      numbersFrom place (entries.map Entry.unnumbered) := by
  induction entries generalizing place with
  | nil => rfl
  | cons entry rest ih =>
    simp only [List.map_cons, numbersFrom, mapError_bind, mapError_numberFor, ih]
    rfl

theorem mapError_grouped (numbers : List Nat) :
    (grouped numbers).mapError DiscoveryFault.unnumbered = grouped numbers := by
  cases given : grouped numbers with
  | ok records => rfl
  | error fault =>
    obtain ⟨_, processor, _, rfl⟩ := (grouped_eq_error_iff numbers).1 given
    rfl

theorem mapError_recordsOf (entries : List Entry) :
    (recordsOf entries).mapError DiscoveryFault.unnumbered =
      recordsOf (entries.map Entry.unnumbered) := by
  simp only [recordsOf_eq, mapError_bind, mapError_numbersFrom, mapError_grouped]

/-- The message of a fault names the line first. -/
theorem Entry.Faulty.message_eq {entry : Entry} {field : RecordField} (faulty : entry.Faulty field fault) :
    ∃ rest, fault.message = s!"line {entry.line}: " ++ rest := by
  cases faulty with
  | unexpected other =>
    have cut : ": expected '" = ": " ++ "expected '" := by decide
    refine ⟨"expected '" ++ (field.name ++ ("', found '" ++ (entry.field.name ++ "'"))), ?_⟩
    unfold DiscoveryFault.message
    dsimp only [toString]
    rw [cut]
    simp only [String.append_assoc]
  | @invalid unread own =>
    have cut : ": cannot parse " = ": " ++ "cannot parse " := by decide
    refine ⟨"cannot parse " ++ (field.name ++ (" value '" ++
      (String.ofList entry.value ++ ("': " ++ unread.message)))), ?_⟩
    unfold DiscoveryFault.message
    dsimp only [toString]
    rw [cut]
    simp only [String.append_assoc]

end

/-- Read line by line, a topology text gives the records that its entries spell, and it fails where there
are none: with the fault of the first entry that does not fit its place, which names the line of that
entry, or if all fit with the processor of a record that is not complete. The entries are the lines that
name a field, in their order; all other lines count for the numbers of lines alone. -/
theorem records_spelled (text : String) :
    Topology.records text = scanned text ∧
    ((entries text).Pairwise (·.line < ·.line) ∧ ∀ entry, entry ∈ entries text ↔
      ∃ index line, (Text.lines text.toList)[index]? = some line ∧ entry.line = index + 1 ∧
        entry.IsOn line) ∧
    (∀ records, Topology.records text = .ok records ↔ Spelled (entries text) records) ∧
    (∀ fault, Topology.records text = .error fault ↔
      FirstFaulty (entries text) fault ∨ Incomplete (entries text) fault) ∧
    (∀ (entry : Entry) field fault, entry.Faulty field fault →
      ∃ rest, fault.message = s!"line {entry.line}: " ++ rest) ∧
    ∀ other, (entries other).map Entry.unnumbered = (entries text).map Entry.unnumbered →
      (Topology.records other).mapError DiscoveryFault.unnumbered =
        (Topology.records text).mapError DiscoveryFault.unnumbered := by
  refine ⟨records_eq_scanned text, ⟨entries_ascending text, fun _ => mem_entries_iff⟩,
    fun _ => recordsOf_eq_ok_iff_spelled, fun _ => recordsOf_eq_error_iff,
    fun _ _ _ faulty => faulty.message_eq, ?_⟩
  intro other same
  rw [Topology.records, Topology.records, mapError_recordsOf, mapError_recordsOf, same]

/-- The third field of a record is missing, among lines of no field. -/
def strayText : String :=
  "vendor_id\t: GenuineIntel\nprocessor\t: +4\nphysical id\t: 0\r\nflags\t\t: fpu\nprocessor: 5:\n"

theorem records_spelled_stray :
    Topology.records strayText = .error (.unexpectedField 5 .coreId .processor) ∧
      (∃ rest, (DiscoveryFault.unexpectedField 5 .coreId .processor).message = s!"line {5}: " ++ rest) ∧
      (Topology.records "processor:+4\nphysical id:0\nprocessor:5:").mapError
        DiscoveryFault.unnumbered = .error (.unexpectedField 0 .coreId .processor) := by
  obtain ⟨_, _, _, fails, names, numbered⟩ := records_spelled strayText
  have found : entries strayText =
      [⟨2, .processor, ['+', '4']⟩, ⟨3, .physicalId, ['0']⟩, ⟨5, .processor, ['5', ':']⟩] := by
    decide +kernel
  have plain : (entries "processor:+4\nphysical id:0\nprocessor:5:").map Entry.unnumbered =
      (entries strayText).map Entry.unnumbered := by
    decide +kernel
  have faulty : (⟨5, .processor, ['5', ':']⟩ : Entry).Faulty .coreId
      (.unexpectedField 5 .coreId .processor) := .unexpected nofun
  have four : Text.readNat Text.naturalLimit ['+', '4'] = .ok 4 := by decide
  have zero : Text.readNat Text.naturalLimit ['0'] = .ok 0 := by decide
  have first : FirstFaulty (entries strayText) (.unexpectedField 5 .coreId .processor) := by
    rw [found]
    refine ⟨2, by decide, faulty, ?_⟩
    rintro (_ | _ | earlier) before
    · exact ⟨rfl, 4, four⟩
    · exact ⟨rfl, 0, zero⟩
    · omega
  have failed := (fails _).2 (.inl first)
  have named := names _ _ _ faulty
  refine ⟨failed, named, ?_⟩
  rw [numbered _ plain, failed]
  rfl

end Topology

end PowerLimits
