import PowerLimits.Proofs.Device.Frame
import PowerLimits.Proofs.Session.Lifetime
import PowerLimits.Proofs.Session.Mirror
import PowerLimits.Proofs.Session.Refusal

/-! A session over device files and one over their mirrors. Each request that reads or sets a limit has
the same answer from both and leaves mirrors of the files, so that neither tells more than the other. -/
namespace PowerLimits

/-- The failure without the count of bytes that a short read found. -/
def Error.withoutLength : Error → Error
  | .access (.shortRead cpu register _) => .access (.shortRead cpu register 0)
  | error => error

/-- Equal, but for the count of bytes that a short read found. -/
def Alike {α : Type} (result other : Except Error α) : Prop :=
  result.mapError Error.withoutLength = other.mapError Error.withoutLength

theorem Alike.map {α β : Type} {result other : Except Error α} (alike : Alike result other)
    (f : α → β) : Alike (result.map f) (other.map f) := by
  unfold Alike at *
  have moved (one : Except Error α) :
      (one.map f).mapError Error.withoutLength = (one.mapError Error.withoutLength).map f := by
    cases one <;> rfl
  rw [moved, moved, alike]

namespace Session
open RegisterStore

theorem result_abandon {σ Handle α : Type} [RegisterStore σ Handle] (handles : List Handle)
    (error : Error) (store : σ) :
    ((abandon handles error : Action σ Error α).effect store).2 = .error error := by
  rw [abandon, Action.effect_bind, Action.effect_attempt]
  generalize (closeAll handles).effect store = closed
  obtain ⟨after, result⟩ := closed
  cases result <;> rfl

/-! Device files are not changed when their devices are given up. -/

theorem closeEach_quiet (devices : List Device) :
    (closeEach devices : Action FileTree Error (List Error)).Quiet := by
  induction devices with
  | nil => exact .pure _
  | cons device rest ih =>
    refine .bind .look fun _ => .bind (fun _ => rfl) fun closed => ?_
    cases closed with
    | ok _ => exact ih
    | error _ => exact .bind (.note _) fun _ => .bind ih fun _ => .pure _

theorem abandon_quiet {α : Type} (devices : List Device) (error : Error) :
    (abandon devices error : Action FileTree Error α).Quiet := by
  have closes : (closeAll devices : Action FileTree Error Unit).Quiet := by
    refine .bind (closeEach_quiet devices) fun failures => ?_
    cases failures with
    | nil => exact .pure _
    | cons => exact fun _ => rfl
  refine .bind (fun tree => closes tree) fun closed => ?_
  cases closed with
  | ok _ => exact fun _ => rfl
  | error _ => exact .bind (.note _) fun _ _ => rfl

variable {devices : List Device} {places : List Nat} {scale : UnitScale} {features : Features}
  {tree : FileTree} {memory : Memory}

theorem zoneHandle_pair (length : devices.length = places.length) (scale : UnitScale)
    (features : Features) (socket : Nat) (zone : Zone) :
    (∃ error, zoneHandle ⟨devices, scale, features⟩ socket zone = .error error ∧
      zoneHandle ⟨places, scale, features⟩ socket zone = .error error) ∨
    ∃ device place, devices[socket]? = some device ∧ places[socket]? = some place ∧
      zoneHandle ⟨devices, scale, features⟩ socket zone = .ok device ∧
      zoneHandle ⟨places, scale, features⟩ socket zone = .ok place := by
  simp only [zoneHandle_eq, numSockets]
  by_cases bound : socket < devices.length
  · have too : socket < places.length := length ▸ bound
    rw [List.getElem?_eq_getElem bound, List.getElem?_eq_getElem too]
    by_cases supported : zone.isSupported features
    · exact .inr ⟨_, _, rfl, rfl, if_pos supported, if_pos supported⟩
    · exact .inl ⟨_, if_neg supported, if_neg supported⟩
  · have beyond := Nat.le_of_not_lt bound
    rw [List.getElem?_eq_none beyond, List.getElem?_eq_none (length ▸ beyond), length]
    exact .inl ⟨_, rfl, rfl⟩

/-- What is asked of a zone but for its energy count. -/
theorem control_of_view {operation : Operation} {zone : Zone} {register : Word} {answer : Word → Answer}
    (asks : operation ≠ .energyCounter) (views : operation.view? zone scale = some (register, answer)) :
    register ∈ controlRegisters := by
  cases operation with
  | isEnabled | isClamped | isLocked | getLimits | limitState =>
    cases Option.some.inj views
    exact zone.limitRegister_mem
  | energyCounter => contradiction
  | _ => contradiction

section
variable (scale : UnitScale) (features : Features)
  (opened : ∀ device ∈ devices, device.readOnly = false)
  (distinct : (devices.map Device.names).Nodup) (apart : places.Nodup)
  (mirrors : Mirrors devices places tree memory)

include opened mirrors

theorem alike_consult {register : Word} (member : register ∈ controlRegisters) (socket : Nat)
    (zone : Zone) (answer : Word → Answer) :
    Alike (consult ⟨devices, scale, features⟩ socket zone register answer tree)
      (consult ⟨places, scale, features⟩ socket zone register answer memory) := by
  unfold consult
  obtain ⟨error, refused, too⟩ | ⟨device, place, first, second, addressed, here⟩ :=
    zoneHandle_pair mirrors.length scale features socket zone
  · rw [refused, too]
    rfl
  · have mirrored := mirrors.mirrored socket device place first second
    have writable := opened device (List.mem_of_getElem? first)
    rw [addressed, here]
    obtain ⟨word, found, same⟩ | ⟨length, absent, same⟩ := mirrored.read_cases writable member
    · simp only [found, same]
      rfl
    · simp only [absent, same]
      rfl

include distinct apart

theorem exchange_mirrors (socket : Nat) (zone : Zone) (update : Word → Except ArgumentFault Word) :
    let there := exchange ⟨devices, scale, features⟩ socket zone update tree
    let here := exchange ⟨places, scale, features⟩ socket zone update memory
    Mirrors devices places there.1 here.1 ∧ Alike there.2 here.2 := by
  unfold exchange
  obtain ⟨error, refused, too⟩ | ⟨device, place, first, second, addressed, here⟩ :=
    zoneHandle_pair mirrors.length scale features socket zone
  · simp only [refused, too]
    exact ⟨mirrors, rfl⟩
  · have mirrored := mirrors.mirrored socket device place first second
    have writable := opened device (List.mem_of_getElem? first)
    simp only [addressed, here]
    obtain ⟨old, found, same⟩ | ⟨length, absent, same⟩ :=
      mirrored.read_cases writable zone.limitRegister_mem
    · simp only [found, same]
      cases update old with
      | error fault => exact ⟨mirrors, rfl⟩
      | ok new =>
        obtain ⟨after, written, onFile, inMemory⟩ := mirrored.exists_write writable zone new
        simp only [onFile, inMemory]
        have present := Memory.read_eq_ok_iff.1 same
        exact ⟨mirrors.write distinct apart first second zone.limitRegister_mem present onFile inMemory,
          rfl⟩
    · simp only [absent, same]
      exact ⟨mirrors, rfl⟩

theorem perform_mirrors {request : Request} (asks : request.operation ≠ .energyCounter) :
    let there := (perform ⟨devices, scale, features⟩ request).effect tree
    let here := (perform ⟨places, scale, features⟩ request).effect memory
    Mirrors devices places there.1 here.1 ∧ Alike there.2 here.2 := by
  let session : Session Device := ⟨devices, scale, features⟩
  let twin : Session Nat := ⟨places, scale, features⟩
  obtain zoneSupported | ⟨answer, knows⟩ | ⟨register, answer, views⟩ | ⟨update, sets⟩ :=
    request.operation.kinds request.zone scale
  · rw [session.effect_perform_zoneSupported zoneSupported,
      twin.effect_perform_zoneSupported zoneSupported]
    simp only [zoneSupported_eq, numSockets, session, twin, mirrors.length]
    exact ⟨mirrors, rfl⟩
  · rw [session.effect_perform_known knows, twin.effect_perform_known knows]
    refine ⟨mirrors, ?_⟩
    obtain ⟨error, refused, too⟩ | ⟨device, place, _, _, addressed, here⟩ :=
      zoneHandle_pair mirrors.length scale features request.socket request.zone
    · rw [refused, too]
      rfl
    · rw [addressed, here]
      rfl
  · rw [session.effect_perform_view views, twin.effect_perform_view views]
    have control := control_of_view asks views
    exact ⟨mirrors, alike_consult scale features opened mirrors control _ _ answer⟩
  · rw [session.effect_perform_setter sets, twin.effect_perform_setter sets]
    obtain ⟨still, alike⟩ := exchange_mirrors scale features opened distinct apart mirrors
      request.socket request.zone update
    exact ⟨still, alike.map _⟩

theorem performAll_mirrors {requests : List Request}
    (asks : ∀ request ∈ requests, request.operation ≠ .energyCounter) :
    let there := performAll ⟨devices, scale, features⟩ tree requests
    let here := performAll ⟨places, scale, features⟩ memory requests
    Mirrors devices places there.1 here.1 ∧ List.Forall₂ Alike there.2 here.2 := by
  -- The first request leaves mirrors, and the rest of the course starts with those.
  induction requests generalizing tree memory with
  | nil => exact ⟨mirrors, .nil⟩
  | cons request rest ih =>
    have first := asks request List.mem_cons_self
    obtain ⟨still, alike⟩ := perform_mirrors scale features opened distinct apart mirrors first
    obtain ⟨last, answers⟩ := ih still fun other member => asks other (List.mem_cons_of_mem _ member)
    exact ⟨last, .cons alike answers⟩

end

theorem ofHandles_mirrors (opened : ∀ device ∈ devices, device.readOnly = false)
    (mirrors : Mirrors devices places tree memory) (features : Features) (signature : Signature) :
    let there := (ofHandles features signature devices).effect tree
    let here := (ofHandles features signature places).effect memory
    there.1 = tree ∧
      ((∃ scale, there.2 = .ok ⟨devices, scale, features⟩ ∧
          here = (memory, .ok ⟨places, scale, features⟩)) ∨
        ∃ error other, there.2 = .error error ∧ here.2 = .error other ∧
          error.withoutLength = other.withoutLength) := by
  match devices, places, mirrors.length with
  | [], [], _ => exact ⟨rfl, .inr ⟨_, _, rfl, rfl, rfl⟩⟩
  | device :: others, place :: more, _ =>
    have mirrored := mirrors.mirrored 0 device place rfl rfl
    have writable := opened device List.mem_cons_self
    rw [effect_ofHandles_cons, effect_ofHandles_cons]
    obtain ⟨word, found, same⟩ | ⟨length, absent, same⟩ :=
      mirrored.read_cases writable (List.mem_cons_self (a := unitRegister))
    · rw [found, same]
      exact ⟨rfl, .inl ⟨_, rfl, rfl⟩⟩
    · rw [absent, same]
      exact ⟨abandon_quiet _ _ tree, .inr ⟨_, _, result_abandon _ _ _, result_abandon _ _ _, rfl⟩⟩

/-- A session can be had over distinct files of devices open for writing if and only if one can over
their mirrors. It then answers what is asked of any zone but its energy count as the other does, and the
files have mirrors again. Energy counts overlap limit registers, but to read them changes nothing. -/
theorem device_session_simulates
    (opened : ∀ device ∈ devices, ∃ root socket cpu,
      ((Device.openSocket root false socket cpu).run tree).result = .ok device)
    (distinct : (devices.map Device.names).Nodup) (apart : places.Nodup)
    (mirrors : Mirrors devices places tree memory) (features : Features) (signature : Signature) :
    let onFiles := (ofHandles features signature devices).run tree
    let inMemory := (ofHandles features signature places).run memory
    onFiles.store = tree ∧
      ((∃ error other, onFiles.result = .error error ∧ inMemory.result = .error other ∧
          error.withoutLength = other.withoutLength) ∨
        ∃ scale, onFiles.result = .ok ⟨devices, scale, features⟩ ∧
          inMemory.result = .ok ⟨places, scale, features⟩ ∧ inMemory.store = memory ∧
          ∀ requests,
            let there := performAll ⟨devices, scale, features⟩ tree requests
            let here := performAll ⟨places, scale, features⟩ memory requests
            tree.KeptOutside (devices.map Device.names) Zone.limitBytes there.1 ∧
              ((∀ request ∈ requests, request.operation ≠ .energyCounter) →
                Mirrors devices places there.1 here.1 ∧ List.Forall₂ Alike there.2 here.2)) := by
  have writable : ∀ device ∈ devices, device.readOnly = false := by
    intro device member
    obtain ⟨root, socket, cpu, found⟩ := opened device member
    obtain ⟨bytes, holds⟩ := Device.holds_of_openSocket found
    exact holds.writable
  obtain ⟨kept, ⟨scale, onFiles, inMemory⟩ | failed⟩ :=
    ofHandles_mirrors writable mirrors features signature
  · refine ⟨kept, .inr ⟨scale, onFiles, congrArg Prod.snd inMemory, congrArg Prod.fst inMemory, ?_⟩⟩
    intro requests
    exact ⟨performAll_keptOutside ⟨devices, scale, features⟩ tree requests,
      fun asks => performAll_mirrors scale features writable distinct apart mirrors asks⟩
  · exact ⟨kept, .inl failed⟩

/-- A device file that ends within the limit register of the core. -/
def shortFile : Bytes :=
  List.replicate 0x606 0 ++ Bytes.ofWord 0xA0E03 ++ [0, 0] ++ Bytes.ofWord 0x8042821000DD8190 ++
    List.replicate 0x22 0xFF

def pairTree : FileTree :=
  (FileTree.empty.put "/dev/cpu/4/msr_safe" (.file shortFile)).put "/dev/cpu/0/msr" (.file [])

def pairDevices : List Device :=
  [⟨4, .restricted, "/dev/cpu/4/msr_safe", ["/", "dev", "cpu", "4", "msr_safe"], false⟩,
    ⟨0, .standard, "/dev/cpu/0/msr", ["/", "dev", "cpu", "0", "msr"], false⟩]

def pairMirrors : Memory where
  files := [⟨0, .empty, [], none, 0⟩,
    ⟨4, .ofList [(0x606, 0xA0E03), (0x610, 0x8042821000DD8190), (0x618, 0xFFFFFFFFFFFFFFFF)], [], none,
      0⟩]
  opened := []

theorem mirrors_pair : Mirrors pairDevices [1, 0] pairTree pairMirrors := by
  refine ⟨rfl, fun socket device place first second => ?_⟩
  match socket with
  | 0 =>
    cases Option.some.inj first
    cases Option.some.inj second
    exact ⟨⟨shortFile, rfl, List.map_inj_left.1 (by decide +kernel)⟩, rfl, fun _ => List.not_mem_nil⟩
  | 1 =>
    cases Option.some.inj first
    cases Option.some.inj second
    exact ⟨⟨[], rfl, List.map_inj_left.1 (by decide +kernel)⟩, rfl, fun _ => List.not_mem_nil⟩
  | _ + 2 => contradiction

/-- Of the three requests one is granted, one finds two bytes of a register, and one none. -/
theorem device_session_simulates_pair :
    ∃ scale, ((ofHandles .all ⟨"GenuineIntel", 6, 158, 10⟩ pairDevices).run pairTree).result =
        .ok ⟨pairDevices, scale, .all⟩ ∧
      let requests : List Request :=
        [⟨0, .package, .setEnabled true⟩, ⟨0, .core, .getLimits⟩, ⟨1, .package, .isLocked⟩]
      let there := performAll ⟨pairDevices, scale, .all⟩ pairTree requests
      let here := performAll ⟨[1, 0], scale, .all⟩ pairMirrors requests
      Mirrors pairDevices [1, 0] there.1 here.1 ∧ List.Forall₂ Alike there.2 here.2 := by
  have opened : ∀ device ∈ pairDevices, ∃ root socket cpu,
      ((Device.openSocket root false socket cpu).run pairTree).result = .ok device := by
    intro device member
    obtain rfl | member := List.mem_cons.1 member
    · exact ⟨"/dev/cpu", 0, 4, rfl⟩
    · cases List.mem_singleton.1 member
      exact ⟨"/dev/cpu", 1, 0, rfl⟩
  let signature : Signature := ⟨"GenuineIntel", 6, 158, 10⟩
  have units : ((ofHandles .all signature [1, 0]).run pairMirrors).result.isOk := by decide +kernel
  obtain ⟨_, ⟨_, other, _, failed, _⟩ | ⟨scale, began, _, _, course⟩⟩ :=
    device_session_simulates opened (by decide) (by decide) mirrors_pair .all signature
  · rw [failed] at units
    cases units
  · exact ⟨scale, began, (course _).2 (by decide)⟩

end Session

end PowerLimits
