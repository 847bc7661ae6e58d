import PowerLimits.Proofs.Session.Registers
import PowerLimits.Proofs.Session.Response

/-! Which requests fail and how. The socket is checked before the zone, the zone before any register,
and a register is read before a limit is refused and a limit refused before anything is written. A
request that fails leaves every register file as it was. -/
namespace PowerLimits.Session
open RegisterStore

def failure? {α : Type} : Except Error α → Option ErrorKind
  | .ok _ => none
  | .error error => some error.kind

def readable (session : Session Nat) (memory : Memory) (socket : Nat) (register : Word) : Bool :=
  session.handles[socket]?.any fun handle => (memory.word? handle register).isSome

def writable (session : Session Nat) (memory : Memory) (socket : Nat) (register : Word) : Bool :=
  session.handles[socket]?.any fun handle => !(memory.file handle).readOnly.contains register

/-- The kind of failure that a request is to meet with, if any. -/
def refusal (session : Session Nat) (memory : Memory) (request : Request) : Option ErrorKind :=
  let readable (register : Word) := session.readable memory request.socket register
  let writable (register : Word) := session.writable memory request.socket register
  if session.numSockets ≤ request.socket then some .invalidArgument
  else if request.operation = .zoneSupported then none
  else if !request.zone.isSupported session.features then some .unsupported
  else
    match request.operation with
    | .zoneSupported | .energyCounterMax | .powerUnits | .timeUnits | .energyUnits => none
    | .isEnabled | .isClamped | .isLocked | .getLimits | .limitState =>
      if readable request.zone.limitRegister then none else some .io
    | .energyCounter => if readable request.zone.energyRegister then none else some .io
    | .setEnabled _ | .setClamped _ =>
      if readable request.zone.limitRegister && writable request.zone.limitRegister then none
      else some .io
    | .setLimits _ shortTerm =>
      if !readable request.zone.limitRegister then some .io
      else if shortTerm.isSome && request.zone ∈ [.core, .uncore, .dram] then some .invalidArgument
      else if !writable request.zone.limitRegister then some .io
      else none

variable {session : Session Nat} {memory : Memory} {request : Request} {handle : Nat}

theorem zoneHandle_eq {Handle : Type} (session : Session Handle) (socket : Nat) (zone : Zone) :
    session.zoneHandle socket zone =
      match session.handles[socket]? with
      | none => .error (.invalidArgument (.socketOutOfRange socket session.numSockets))
      | some handle =>
        if zone.isSupported session.features then .ok handle
        else .error (.unsupported (.missingZone zone)) := by
  unfold zoneHandle Session.handle
  cases session.handles[socket]? <;> rfl

theorem zoneSupported_eq {Handle : Type} (session : Session Handle) (socket : Nat) (zone : Zone) :
    session.zoneSupported socket zone =
      if socket < session.numSockets then .ok (zone.isSupported session.features)
      else .error (.invalidArgument (.socketOutOfRange socket session.numSockets)) := by
  unfold zoneSupported Session.handle
  by_cases bound : socket < session.numSockets
  · rw [if_pos bound, List.getElem?_eq_getElem bound]
    rfl
  · rw [if_neg bound, List.getElem?_eq_none (Nat.le_of_not_lt bound)]
    rfl

theorem zoneHandle_of_there {Handle : Type} {session : Session Handle} {socket : Nat} {zone : Zone}
    {handle : Handle} (there : session.handles[socket]? = some handle)
    (supported : zone.isSupported session.features) :
    session.zoneHandle socket zone = .ok handle := by
  rw [zoneHandle_eq, there]
  exact if_pos supported

theorem effect_perform_refused {σ Handle : Type} [RegisterStore σ Handle] {session : Session Handle}
    {error : Error} (asks : request.operation ≠ .zoneSupported)
    (refused : session.zoneHandle request.socket request.zone = .error error) (store : σ) :
    (session.perform request).effect store = (store, .error error) := by
  obtain zoneSupported | ⟨answer, knows⟩ | ⟨register, answer, views⟩ | ⟨update, sets⟩ :=
    request.operation.kinds request.zone session.scale
  · contradiction
  · rw [session.effect_perform_known knows, refused]
    rfl
  · rw [session.effect_perform_view views, consult, refused]
  · rw [session.effect_perform_setter sets, exchange, refused]
    rfl

theorem failure?_consult (addressed : session.zoneHandle request.socket request.zone = .ok handle)
    (register : Word) (answer : Word → Answer) :
    failure? (session.consult request.socket request.zone register answer memory) =
      if (memory.word? handle register).isSome then none else some .io := by
  simp only [consult, addressed, Memory.read_eq]
  cases memory.word? handle register <;> rfl

theorem failure?_exchange (addressed : session.zoneHandle request.socket request.zone = .ok handle)
    (update : Word → Except ArgumentFault Word) :
    failure? (session.exchange request.socket request.zone update memory).2 =
      (memory.word? handle request.zone.limitRegister).elim (some .io) fun old =>
        if (update old).isOk then
          if request.zone.limitRegister ∈ (memory.file handle).readOnly then some .io else none
        else some .invalidArgument := by
  simp only [exchange, addressed, Memory.read_eq, Memory.write_eq]
  cases memory.word? handle request.zone.limitRegister with
  | none => rfl
  | some old =>
    simp only [Option.elim_some]
    cases update old with
    | error fault => rfl
    | ok new =>
      by_cases refused : request.zone.limitRegister ∈ (memory.file handle).readOnly
      · simp only [refused, if_true]
        rfl
      · simp only [refused, if_false]
        rfl

theorem isOk_encode (zone : Zone) (scale : UnitScale) (word : Word)
    (longTerm shortTerm : Option Limit) :
    (LimitRegister.encode zone scale word longTerm shortTerm).isOk =
      !(shortTerm.isSome && zone ∈ [.core, .uncore, .dram]) := by
  have families : zone.domainClass.hasShortTerm = !decide (zone ∈ [.core, .uncore, .dram]) := by
    cases zone <;> decide
  unfold LimitRegister.encode
  rw [families, Bool.not_not]
  cases shortTerm.isSome && decide (zone ∈ [.core, .uncore, .dram]) <;> rfl

@[simp] theorem failure?_map {α β : Type} (f : α → β) (result : Except Error α) :
    failure? (result.map f) = failure? result := by
  cases result <;> rfl

theorem failure?_perform_addressed (there : session.handles[request.socket]? = some handle)
    (supported : request.zone.isSupported session.features)
    (asks : request.operation ≠ .zoneSupported) :
    failure? ((session.perform request).effect memory).2 = session.refusal memory request := by
  have addressed := zoneHandle_of_there there supported
  have present : ¬ session.numSockets ≤ request.socket :=
    Nat.not_le.2 (List.getElem?_eq_some_iff.1 there).1
  obtain ⟨socket, zone, operation⟩ := request
  dsimp only at there supported asks addressed present
  simp only [refusal, present, asks, supported, readable, writable, there, if_false, Bool.not_true,
    Bool.false_eq_true, Option.any_some]
  cases operation with
  | zoneSupported => contradiction
  | energyCounterMax | powerUnits | timeUnits | energyUnits =>
    rw [session.effect_perform_known rfl, addressed]
    rfl
  | isEnabled | isClamped | isLocked | getLimits | limitState | energyCounter =>
    rw [session.effect_perform_view rfl, failure?_consult addressed]
  | setEnabled | setClamped =>
    rw [session.effect_perform_setter rfl, failure?_map, failure?_exchange addressed]
    cases memory.word? handle zone.limitRegister <;> simp [Except.isOk, Except.toBool]
  | setLimits longTerm shortTerm =>
    rw [session.effect_perform_setter rfl, failure?_map, failure?_exchange addressed]
    simp only [isOk_encode]
    cases memory.word? handle zone.limitRegister with
    | none => rfl
    | some old =>
      simp only [Option.elim_some, Option.isSome_some, Bool.not_true]
      cases shortTerm.isSome && decide (zone ∈ [.core, .uncore, .dram]) <;> simp

theorem failure?_perform (session : Session Nat) (memory : Memory) (request : Request) :
    failure? ((session.perform request).effect memory).2 = session.refusal memory request := by
  have addressed := session.zoneHandle_eq request.socket request.zone
  cases there : session.handles[request.socket]? with
  | none =>
    have beyond : session.numSockets ≤ request.socket := List.getElem?_eq_none_iff.1 there
    rw [there] at addressed
    rw [refusal, if_pos beyond]
    by_cases asks : request.operation = .zoneSupported
    · rw [session.effect_perform_zoneSupported asks, failure?_map, zoneSupported_eq,
        if_neg (Nat.not_lt.2 beyond)]
      rfl
    · rw [effect_perform_refused asks addressed]
      rfl
  | some handle =>
    have bound : request.socket < session.numSockets := (List.getElem?_eq_some_iff.1 there).1
    by_cases asks : request.operation = .zoneSupported
    · rw [session.effect_perform_zoneSupported asks, failure?_map, zoneSupported_eq, if_pos bound,
        refusal, if_neg (Nat.not_le.2 bound), if_pos asks]
      rfl
    · by_cases supported : request.zone.isSupported session.features
      · exact failure?_perform_addressed there supported asks
      · rw [there] at addressed
        rw [effect_perform_refused asks (addressed.trans (if_neg supported)), refusal,
          if_neg (Nat.not_le.2 bound), if_neg asks, Bool.eq_false_iff.2 supported]
        rfl

/-- A request fails as `refusal` says and in no other way, the question whether the platform has a zone
is always answered on a socket that is there, and a failure leaves every register file. -/
theorem fails_exactly (session : Session Nat) (memory : Memory) (request : Request) :
    let outcome := (session.perform request).run memory
    failure? outcome.result = session.refusal memory request ∧
      (request.socket < session.numSockets → request.operation = .zoneSupported →
        outcome.result = .ok (.flag (request.zone.isSupported session.features))) ∧
      ∀ error, outcome.result = .error error → outcome.store = memory := by
  refine ⟨failure?_perform session memory request, fun present asks => ?_, fun error failed => ?_⟩
  · change ((session.perform request).effect memory).2 = _
    rw [session.effect_perform_zoneSupported asks, zoneSupported_eq, if_pos present]
    rfl
  · obtain ⟨kept, _⟩ | ⟨handle, old, new, exchanged⟩ := session.perform_cases request memory
    · exact kept
    · cases failed.symm.trans exchanged.answered

theorem fails_exactly_pair :
    let written := (pair.perform ⟨0, .core, .setEnabled false⟩).run pairFiles
    let limited := (pair.perform ⟨0, .core, .setLimits none (some ⟨.nan, .nan⟩)⟩).run pairFiles
    failure? written.result = some .io ∧ written.store = pairFiles ∧
      failure? limited.result = some .invalidArgument ∧
      ((pair.perform ⟨1, .dram, .zoneSupported⟩).run pairFiles).result = .ok (.flag false) := by
  obtain ⟨written, _, kept⟩ := fails_exactly pair pairFiles ⟨0, .core, .setEnabled false⟩
  obtain ⟨limited, _⟩ := fails_exactly pair pairFiles ⟨0, .core, .setLimits none (some ⟨.nan, .nan⟩)⟩
  obtain ⟨_, asked, _⟩ := fails_exactly pair pairFiles ⟨1, .dram, .zoneSupported⟩
  have refused : ((pair.perform ⟨0, .core, .setEnabled false⟩).run pairFiles).result =
    .error (.access (.shortWrite 4 0x638 4)) := rfl
  exact ⟨written.trans (by decide), kept _ refused, limited.trans (by decide), asked (by decide) rfl⟩

end PowerLimits.Session
