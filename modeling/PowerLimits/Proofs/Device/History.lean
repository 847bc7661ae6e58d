import PowerLimits.Proofs.Device.Frame

/-! A device file after any accesses through one device, where files are plain growable arrays of bytes.
Each byte is that of the last write over it, or else the first one, or else a zero in a gap, and the file
reaches to the end of the farthest write. A host that has a limit does the same with the accesses that end
before it. -/
namespace PowerLimits

namespace Bytes

/-- The size of a file after words are written at these offsets. -/
def sizeAfter (initial : Bytes) (writes : List (Nat × Word)) : Nat :=
  writes.foldl (fun size write => max size (write.1 + registerSize)) initial.length

/-- What the last write over a position leaves there. -/
def byteAfter (initial : Bytes) (writes : List (Nat × Word)) (i : Nat) : UInt8 :=
  match writes.reverse.find? fun write => within write.1 i with
  | some (offset, value) => byte value (i - offset)
  | none => initial[i]?.getD 0

structure History (initial : Bytes) (writes : List (Nat × Word)) (bytes : Bytes) : Prop where
  length : bytes.length = sizeAfter initial writes
  bytes : ∀ i, bytes[i]?.getD 0 = byteAfter initial writes i

structure Overwritten (offset : Nat) (value : Word) (before after : Bytes) : Prop where
  length : after.length = max before.length (offset + 8)
  inside : ∀ k < 8, after[offset + k]? = some (byte value k)
  gap : ∀ i, before.length ≤ i → i < offset → after[i]? = some 0
  outside : ∀ i < before.length, i < offset ∨ offset + 8 ≤ i → after[i]? = before[i]?

variable {initial bytes before after : Bytes} {writes : List (Nat × Word)} {offset : Nat} {value : Word}

theorem overwritten (before : Bytes) (offset : Nat) (value : Word) :
    Overwritten offset value before (before.overwrite offset (ofWord value)) := by
  have written := getElem?_overwrite_any before offset (ofWord value)
  simp only [length_ofWord, registerSize] at written
  refine ⟨?_, ?_, ?_, ?_⟩
  · rw [length_overwrite_max, length_ofWord, registerSize]
  · intro k bound
    have place : offset + k - offset = k := by omega
    rw [written, if_pos (by omega), place, getElem?_ofWord]
    exact if_pos bound
  · intro i past early
    rw [written, if_neg (by omega), if_pos ⟨past, early⟩]
  · intro i there apart
    rw [written, if_neg (by omega), if_neg (by omega)]

theorem Overwritten.getD (overwritten : Overwritten offset value before after) (i : Nat) :
    after[i]?.getD 0 = if within offset i then byte value (i - offset) else before[i]?.getD 0 := by
  have length := overwritten.length
  split
  next covered =>
    obtain ⟨low, high⟩ : offset ≤ i ∧ i < offset + 8 := covered
    have place : offset + (i - offset) = i := by omega
    have inside := overwritten.inside (i - offset) (by omega)
    rw [place] at inside
    rw [inside, Option.getD_some]
  next apart =>
    have apart : i < offset ∨ offset + 8 ≤ i := by
      simp only [within, registerSize] at apart
      omega
    by_cases there : i < before.length
    · rw [overwritten.outside i there apart]
    -- Past the old end there is the gap, and past the new end nothing.
    · rw [List.getElem?_eq_none (Nat.not_lt.1 there)]
      by_cases early : i < offset
      · rw [overwritten.gap i (Nat.not_lt.1 there) early, Option.getD_some, Option.getD_none]
      · rw [List.getElem?_eq_none (by omega)]

theorem sizeAfter_concat (initial : Bytes) (writes : List (Nat × Word)) (offset : Nat) (value : Word) :
    sizeAfter initial (writes ++ [(offset, value)]) =
      max (sizeAfter initial writes) (offset + registerSize) :=
  List.foldl_append

theorem byteAfter_concat (initial : Bytes) (writes : List (Nat × Word)) (offset : Nat) (value : Word)
    (i : Nat) :
    byteAfter initial (writes ++ [(offset, value)]) i =
      if within offset i then byte value (i - offset) else byteAfter initial writes i := by
  rw [byteAfter, List.reverse_concat, List.find?_cons]
  by_cases covers : within offset i
  · simp [covers]
  · simp [covers, byteAfter]

namespace History

theorem nil (initial : Bytes) : History initial [] initial := ⟨rfl, fun _ => rfl⟩

theorem overwrite (history : History initial writes bytes) (offset : Nat) (value : Word) :
    History initial (writes ++ [(offset, value)]) (bytes.overwrite offset (ofWord value)) where
  length := by
    rw [(overwritten bytes offset value).length, sizeAfter_concat, history.length, registerSize]
  bytes := by
    intro i
    rw [(overwritten bytes offset value).getD, byteAfter_concat, history.bytes]

theorem word?_some (history : History initial writes bytes)
    (fits : offset + 8 ≤ sizeAfter initial writes) :
    ∃ word, bytes.word? offset = some word ∧
      ∀ k < 8, byte word k = byteAfter initial writes (offset + k) := by
  have there : offset + registerSize ≤ bytes.length := by
    rw [history.length]
    exact fits
  refine ⟨_, if_pos there, ?_⟩
  intro k bound
  have inside : k < registerSize := bound
  rw [byte_toWord _ inside, getElem?_window, if_pos inside, history.bytes]

theorem word?_none (history : History initial writes bytes)
    (short : sizeAfter initial writes < offset + 8) :
    bytes.word? offset = none ∧ (bytes.window offset).length = sizeAfter initial writes - offset := by
  rw [← history.length] at short ⊢
  constructor
  · exact if_neg (Nat.not_le.2 short)
  · rw [window, List.length_take, List.length_drop, registerSize]
    omega

end History

end Bytes

inductive Access where
  | read (register : Word)
  | write (register value : Word)

namespace Access

def register : Access → Word
  | .read register | .write register _ => register

/-- The offset and the word of a write that is passed on to the host. -/
def write? : Access → Option (Nat × Word)
  | .read _ => none
  | .write register value =>
    if register.toNat < 0x8000000000000000 then some (register.toNat, value) else none

/-- The writes that are carried out: on a device that is open for reading alone there are none. -/
def writes (readOnly : Bool) (accesses : List Access) : List (Nat × Word) :=
  if readOnly then [] else accesses.filterMap write?

theorem writes_nil (readOnly : Bool) : writes readOnly [] = [] := by cases readOnly <;> rfl

theorem writes_cons (readOnly : Bool) (access : Access) (rest : List Access) :
    writes readOnly (access :: rest) = writes readOnly [access] ++ writes readOnly rest := by
  cases readOnly with
  | true => rfl
  | false => exact List.filterMap_append (l := [access])

end Access

namespace Device

/-- The tree after an access. One that fails leaves it, and so does a read. -/
def access (device : Device) (host : Host) (tree : FileTree) : Access → FileTree
  | .read _ => tree
  | .write register value => (device.writeOn host tree register value).toOption.getD tree

def accessAll (device : Device) (host : Host) (tree : FileTree) (accesses : List Access) : FileTree :=
  accesses.foldl (device.access host) tree

/-- What a device on a plain host does with the next access, after these writes to its file. -/
structure Answers (device : Device) (tree : FileTree) (initial : Bytes) (writes : List (Nat × Word)) :
    Prop where
  size : device.size tree = Bytes.sizeAfter initial writes
  outside : ∀ register : Word, 0x8000000000000000 ≤ register.toNat →
    device.readOn .plain tree register = .error (.invalidOffset register) ∧
      ∀ value, device.writeOn .plain tree register value = .error (.invalidOffset register)
  read : ∀ register : Word, register.toNat < 0x8000000000000000 →
    register.toNat + 8 ≤ device.size tree →
    ∃ word, device.readOn .plain tree register = .ok word ∧
      ∀ k < 8, Bytes.byte word k = Bytes.byteAfter initial writes (register.toNat + k)
  short : ∀ register : Word, register.toNat < 0x8000000000000000 →
    device.size tree < register.toNat + 8 →
    device.readOn .plain tree register =
      .error (.shortRead device.cpu register (device.size tree - register.toNat))
  write : device.readOnly = false → ∀ register value : Word, register.toNat < 0x8000000000000000 →
    ∃ after before new, device.writeOn .plain tree register value = .ok after ∧
      tree.node? device.names = some (.file before) ∧
      after.node? device.names = some (.file new) ∧
      Bytes.Overwritten register.toNat value before new
  readOnly : device.readOnly → ∀ register value : Word, register.toNat < 0x8000000000000000 →
    device.writeOn .plain tree register value =
      .error (.writeFailed device.cpu register .badDescriptor)

/-- What becomes of an access on a host that may have a limit: it is taken as on a plain host, or it does
not end before the limit and is refused. -/
structure Limited (device : Device) (host : Host) (tree : FileTree) : Prop where
  taken : ∀ register : Word, host.takes register.toNat →
    device.readOn host tree register = device.readOn .plain tree register ∧
      ∀ value, device.writeOn host tree register value = device.writeOn .plain tree register value
  refused : ∀ register : Word, register.toNat < 0x8000000000000000 → ¬ host.takes register.toNat →
    device.readOn host tree register =
        .error (.readFailed device.cpu register .invalidArgument) ∧
      ∀ value, device.writeOn host tree register value = .error (.writeFailed device.cpu register
        (if device.readOnly then .badDescriptor else .invalidArgument))

/-- The file of a device is what writes make of the first bytes, and no other node has changed. -/
structure Reached (device : Device) (first : FileTree) (initial : Bytes) (writes : List (Nat × Word))
    (tree : FileTree) : Prop where
  file : ∃ bytes, tree.node? device.names = some (.file bytes) ∧ Bytes.History initial writes bytes
  others : ∀ others, others ≠ device.names → tree.node? others = first.node? others

variable {device : Device} {host : Host} {first tree : FileTree} {initial bytes : Bytes}
  {writes : List (Nat × Word)} {register value : Word}

theorem access_outside (beyond : 0x8000000000000000 ≤ register.toNat) :
    device.readOn host tree register = .error (.invalidOffset register) ∧
      ∀ value, device.writeOn host tree register value = .error (.invalidOffset register) :=
  ⟨if_pos beyond, fun _ => if_pos beyond⟩

theorem writeOn_readOnly (closed : device.readOnly) (reach : register.toNat < 0x8000000000000000) :
    device.writeOn host tree register value =
      .error (.writeFailed device.cpu register .badDescriptor) := by
  have offset : ¬ offsetLimit ≤ register.toNat := Nat.not_le.2 reach
  rw [writeOn, if_neg offset, Host.write, if_pos closed]
  rfl

theorem limited (device : Device) (host : Host) (tree : FileTree) : device.Limited host tree where
  taken register taken := by
    have plain : Host.plain.takes register.toNat = true := rfl
    have reads : host.read tree device.names register.toNat =
        Host.plain.read tree device.names register.toNat := by
      rw [Host.read, Host.read, taken, plain]
    have writes (value : Word) :
        host.write tree device.names device.readOnly register.toNat value =
          Host.plain.write tree device.names device.readOnly register.toNat value := by
      rw [Host.write, Host.write, taken, plain]
    constructor
    · rw [readOn, readOn, reads]
    · intro value
      rw [writeOn, writeOn, writes]
  refused register reach late := by
    have offset : ¬ offsetLimit ≤ register.toNat := Nat.not_le.2 reach
    have late := eq_false_of_ne_true late
    constructor
    · rw [readOn, if_neg offset, Host.read, late]
      rfl
    · intro value
      rw [writeOn, if_neg offset, Host.write, late]
      cases device.readOnly <;> rfl

theorem exists_writeOn_error (host : Host) (tree : FileTree) (value : Word)
    (refused : device.readOnly ∨ 0x8000000000000000 ≤ register.toNat ∨ ¬ host.takes register.toNat) :
    ∃ error, device.writeOn host tree register value = .error error := by
  obtain reach | beyond := Nat.lt_or_ge register.toNat 0x8000000000000000
  · obtain closed | beyond | late := refused
    · exact ⟨_, writeOn_readOnly closed reach⟩
    · exact absurd reach (Nat.not_lt.2 beyond)
    · exact ⟨_, ((limited device host tree).refused register reach late).2 value⟩
  · exact ⟨_, (access_outside beyond).2 value⟩

theorem access_refused (host : Host) (tree : FileTree) (value : Word)
    (refused : device.readOnly ∨ 0x8000000000000000 ≤ register.toNat ∨ ¬ host.takes register.toNat) :
    device.access host tree (.write register value) = tree := by
  obtain ⟨error, fails⟩ := exists_writeOn_error host tree value refused
  rw [access, fails]
  rfl

theorem access_of_readOnly (closed : device.readOnly) (host : Host) (tree : FileTree)
    (access : Access) : device.access host tree access = tree := by
  cases access with
  | read => rfl
  | write => exact access_refused host tree _ (.inl closed)

theorem accessAll_of_readOnly (closed : device.readOnly) (host : Host) (tree : FileTree)
    (accesses : List Access) : device.accessAll host tree accesses = tree := by
  induction accesses with
  | nil => rfl
  | cons access rest ih =>
    rw [accessAll, List.foldl_cons, access_of_readOnly closed]
    exact ih

theorem access_eq_ite (device : Device) (host : Host) (tree : FileTree) (access : Access) :
    device.access host tree access =
      if host.takes access.register.toNat then device.access .plain tree access else tree := by
  split
  next taken =>
    cases access with
    | read => rfl
    | write register value =>
      have same := ((limited device host tree).taken register taken).2 value
      rw [Device.access, Device.access, same]
  next late =>
    cases access with
    | read => rfl
    | write => exact access_refused host tree _ (.inr (.inr late))

/-- The accesses that are refused might as well not have been tried. -/
theorem accessAll_eq_filter (device : Device) (host : Host) (tree : FileTree)
    (accesses : List Access) :
    device.accessAll host tree accesses =
      device.accessAll .plain tree (accesses.filter fun access => host.takes access.register.toNat) := by
  rw [accessAll, accessAll, List.foldl_filter]
  congr 1
  funext tree access
  exact access_eq_ite device host tree access

namespace Reached

theorem nil (file : tree.node? device.names = some (.file initial)) :
    Reached device tree initial [] tree :=
  ⟨⟨initial, file, .nil initial⟩, fun _ _ => rfl⟩

theorem write (reached : Reached device first initial writes tree) (writable : device.readOnly = false)
    (reach : register.toNat < 0x8000000000000000) (value : Word) :
    ∃ after, device.writeOn .plain tree register value = .ok after ∧
      Reached device first initial (writes ++ [(register.toNat, value)]) after ∧
      ∃ before new, tree.node? device.names = some (.file before) ∧
        after.node? device.names = some (.file new) ∧
        Bytes.Overwritten register.toNat value before new := by
  obtain ⟨bytes, file, history⟩ := reached.file
  have holds : Holds tree device bytes := ⟨writable, file⟩
  have placed := FileTree.node?_setFile file (bytes.overwrite register.toNat (.ofWord value))
  have there := (placed device.names).trans (if_pos rfl)
  refine ⟨_, holds.writeOn_eq (Nat.not_le.2 reach) rfl value, ⟨?_, ?_⟩, bytes, _, file, there, ?_⟩
  · exact ⟨_, there, history.overwrite register.toNat value⟩
  · intro others different
    rw [placed, if_neg different]
    exact reached.others others different
  · exact Bytes.overwritten bytes register.toNat value

theorem access (reached : Reached device first initial writes tree) (access : Access) :
    Reached device first initial (writes ++ Access.writes device.readOnly [access])
      (device.access .plain tree access) := by
  cases closed : device.readOnly with
  | true =>
    rw [access_of_readOnly closed, Access.writes, if_pos rfl, List.append_nil]
    exact reached
  | false =>
    cases access with
    | read =>
      exact (List.append_nil writes).symm ▸ reached
    | write register value =>
      by_cases reach : register.toNat < 0x8000000000000000
      · obtain ⟨after, written, further, _⟩ := reached.write closed reach value
        have next : device.access .plain tree (.write register value) = after := by
          rw [Device.access, written]
          rfl
        have done : Access.writes false [.write register value] = [(register.toNat, value)] := by
          simp [Access.writes, Access.write?, reach]
        rw [next, done]
        exact further
      · have beyond : 0x8000000000000000 ≤ register.toNat := Nat.not_lt.1 reach
        have nothing : Access.writes false [.write register value] = [] := by
          simp [Access.writes, Access.write?, reach]
        rw [access_refused .plain tree value (.inr (.inl beyond)), nothing, List.append_nil]
        exact reached

theorem accessAll (reached : Reached device first initial writes tree) (accesses : List Access) :
    Reached device first initial (writes ++ Access.writes device.readOnly accesses)
      (device.accessAll .plain tree accesses) := by
  induction accesses generalizing tree writes with
  | nil =>
    rw [Access.writes_nil, List.append_nil]
    exact reached
  | cons access rest ih =>
    rw [Access.writes_cons, ← List.append_assoc]
    exact ih (reached.access access)

theorem answers (reached : Reached device first initial writes tree) :
    device.Answers tree initial writes := by
  obtain ⟨bytes, file, history⟩ := reached.file
  have size : device.size tree = Bytes.sizeAfter initial writes := by
    rw [Device.size, file]
    exact history.length
  refine ⟨size, fun register => access_outside, ?_, ?_, ?_, ?_⟩
  · intro register reach fits
    rw [size] at fits
    obtain ⟨word, found, exact⟩ := history.word?_some fits
    refine ⟨word, ?_, exact⟩
    rw [readOn_eq_of_file (Nat.not_le.2 reach) rfl file, found]
  · intro register reach short
    rw [size] at short ⊢
    obtain ⟨absent, count⟩ := history.word?_none short
    rw [readOn_eq_of_file (Nat.not_le.2 reach) rfl file, absent, count]
  · intro writable register value reach
    obtain ⟨after, written, _, before, new, parts⟩ := reached.write writable reach value
    exact ⟨after, before, new, written, parts⟩
  · exact fun closed register value => writeOn_readOnly closed

end Reached

theorem readOnly_of_openFor {root : String} {cpu : Nat} {readOnly : Bool}
    (opened : openFor tree root cpu readOnly = .ok device) : device.readOnly = readOnly := by
  obtain ⟨kind, found⟩ := exists_openKind_of_openFor opened
  unfold openKind at found
  dsimp only at found
  split at found
  · contradiction
  · cases found
    rfl
  · split at found
    · cases found
      rfl
    · contradiction

/-- After any accesses through a device that was opened, where files are plain growable arrays of bytes,
its file holds what the last writes left of the first bytes, no other node has changed, and the next access
finds just these bytes. A host that has a limit does this with the accesses that end before it: at the last
eight offsets that a device lets pass, a host of signed offsets refuses every access. -/
theorem accesses_exact (tree : FileTree) (root : String) (cpu : Nat) (readOnly : Bool) (device : Device)
    (initial : Bytes) (opened : openFor tree root cpu readOnly = .ok device)
    (file : tree.node? device.names = some (.file initial)) (accesses : List Access) :
    let after := device.accessAll .plain tree accesses
    device.Reached tree initial (Access.writes readOnly accesses) after ∧
      device.Answers after initial (Access.writes readOnly accesses) ∧ (readOnly → after = tree) ∧
      ∀ host : Host,
        device.accessAll host tree accesses = device.accessAll .plain tree
          (accesses.filter fun access => host.takes access.register.toNat) ∧
        ∀ last, device.Limited host last := by
  intro after
  have same := readOnly_of_openFor opened
  have reached := (Reached.nil file).accessAll accesses
  rw [List.nil_append, same] at reached
  refine ⟨reached, reached.answers, fun closed => ?_, fun host => ⟨?_, device.limited host⟩⟩
  · exact accessAll_of_readOnly (same.trans closed) .plain tree accesses
  · exact accessAll_eq_filter device host tree accesses

/-- Two writes over each other in a file of fourteen bytes, a third that leaves a gap, and a read at an
offset that a host of signed offsets refuses. -/
theorem accesses_exact_overlapping :
    let names := ["dev", "0", "msr"]
    let tree : FileTree := ⟨[(["dev"], .directory), (["dev", "0"], .directory),
      (names, .file (List.replicate 14 0xFF))]⟩
    let device : Device := ⟨0, .standard, "dev/0/msr", names, false⟩
    let after := device.accessAll .plain tree [.write 0 0x1111111111111111,
      .write 4 0x2222222222222222, .read 8, .write 0x20 0x3333333333333333]
    openFor tree "dev" 0 false = .ok device ∧
      (∃ bytes, after.node? names = some (.file bytes) ∧
        bytes.runs = [(0, List.replicate 4 0x11 ++ List.replicate 8 0x22 ++ [0xFF, 0xFF]),
          (0x20, List.replicate 8 0x33)]) ∧
      (∃ word, device.readOn .plain after 10 = .ok word ∧
        [Bytes.byte word 1, Bytes.byte word 3, Bytes.byte word 5] = [0x22, 0xFF, 0]) ∧
      device.readOn .plain after 0x7FFFFFFFFFFFFFF8 = .error (.shortRead 0 0x7FFFFFFFFFFFFFF8 0) ∧
      device.read after 0x7FFFFFFFFFFFFFF8 =
        .error (.readFailed 0 0x7FFFFFFFFFFFFFF8 .invalidArgument) := by
  intro names tree device after
  have opened : openFor tree "dev" 0 false = .ok device := rfl
  obtain ⟨_, answers, _, limits⟩ := accesses_exact tree "dev" 0 false device _ opened rfl
    [.write 0 0x1111111111111111, .write 4 0x2222222222222222, .read 8, .write 0x20 0x3333333333333333]
  have size : device.size after = 0x28 := answers.size.trans (by decide)
  obtain ⟨word, found, bytes⟩ := answers.read 10 (by decide) (by rw [size]; decide)
  have short := answers.short 0x7FFFFFFFFFFFFFF8 (by decide) (by rw [size]; decide)
  have refused := ((limits .signed).2 after).refused 0x7FFFFFFFFFFFFFF8 (by decide) (by decide)
  refine ⟨opened, ⟨_, rfl, rfl⟩, ⟨word, found, ?_⟩, short.trans ?_, refused.1⟩
  · rw [bytes 1 (by decide), bytes 3 (by decide), bytes 5 (by decide)]
    decide
  · rw [size]
    rfl

end Device

end PowerLimits
