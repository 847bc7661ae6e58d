import PowerLimits.Proofs.Store.Effect
import PowerLimits.Session.Operation

/-! What one request does to a store of any kind. A request that reads leaves the store; a request
that sets exchanges the limit word of its zone or fails and leaves the store. -/
namespace PowerLimits

namespace Operation

/-- How an operation that sets something computes the new limit word. -/
def update? (zone : Zone) (scale : UnitScale) :
    Operation → Option (Word → Except ArgumentFault Word)
  | .setEnabled enabled => some fun word => .ok (LimitRegister.setEnabled zone word enabled)
  | .setClamped clamped => some fun word => .ok (LimitRegister.setClamped zone word clamped)
  | .setLimits longTerm shortTerm =>
    some fun word => LimitRegister.encode zone scale word longTerm shortTerm
  | _ => none

end Operation

namespace Session
open RegisterStore

variable {σ Handle : Type} [RegisterStore σ Handle]

theorem readRegister_quiet (handle : Handle) (register : Word) :
    (readRegister handle register : Action σ Error Word).Quiet :=
  .bind .look fun _ => .bind (.mapError _ (.ofExcept _)) fun _ => .bind (.note _) fun _ => .pure _

theorem readLimit_quiet (session : Session Handle) (socket : Nat) (zone : Zone) :
    (session.readLimit socket zone : Action σ Error Word).Quiet :=
  .bind (.ofExcept _) fun _ => readRegister_quiet _ _

theorem energyCounter_quiet (session : Session Handle) (socket : Nat) (zone : Zone) :
    (session.energyCounter socket zone : Action σ Error Binary64).Quiet :=
  .bind (.ofExcept _) fun _ => .bind (readRegister_quiet _ _) fun _ => .pure _

def exchange (session : Session Handle) (socket : Nat) (zone : Zone)
    (update : Word → Except ArgumentFault Word) (store : σ) : σ × Except Error Unit :=
  match session.zoneHandle socket zone with
  | .error error => (store, .error error)
  | .ok handle =>
    match read store handle zone.limitRegister with
    | .error source => (store, .error (.access source))
    | .ok old =>
      match update old with
      | .error fault => (store, .error (.invalidArgument fault))
      | .ok new =>
        match write store handle zone.limitRegister new with
        | .error source => (store, .error (.access source))
        | .ok after => (after, .ok ())

theorem effect_modifyLimit (session : Session Handle) (socket : Nat) (zone : Zone)
    (update : Word → Except ArgumentFault Word) (events : Word → List Event) (store : σ) :
    (session.modifyLimit socket zone update events).effect store =
      session.exchange socket zone update store := by
  unfold modifyLimit exchange
  simp only [readRegister, writeRegister, Action.effect_bind, Action.effect_ofExcept,
    Action.effect_look, Action.effect_mapError, Action.effect_note, Action.effect_put,
    Action.effect_pure]
  cases session.zoneHandle socket zone with
  | error error => rfl
  | ok handle =>
    dsimp only
    cases read store handle zone.limitRegister with
    | error source => rfl
    | ok old =>
      simp only [Action.mapError_ok]
      cases update old with
      | error fault => rfl
      | ok new =>
        simp only [Action.mapError_ok]
        cases write store handle zone.limitRegister new <;> rfl

theorem exchange_cases (session : Session Handle) (socket : Nat) (zone : Zone)
    (update : Word → Except ArgumentFault Word) (store : σ) :
    (∃ error, session.exchange socket zone update store = (store, .error error)) ∨
      ∃ handle old new after, session.zoneHandle socket zone = .ok handle ∧
        read store handle zone.limitRegister = .ok old ∧ update old = .ok new ∧
        write store handle zone.limitRegister new = .ok after ∧
        session.exchange socket zone update store = (after, .ok ()) := by
  unfold exchange
  cases addressed : session.zoneHandle socket zone with
  | error error => exact .inl ⟨_, rfl⟩
  | ok handle =>
    cases found : read store handle zone.limitRegister with
    | error source => exact .inl ⟨.access source, by simp only [found]⟩
    | ok old =>
      cases computed : update old with
      | error fault => exact .inl ⟨.invalidArgument fault, by simp only [found, computed]⟩
      | ok new =>
        cases written : write store handle zone.limitRegister new with
        | error source => exact .inl ⟨.access source, by simp only [found, computed, written]⟩
        | ok after =>
          exact .inr ⟨handle, old, new, after, rfl, found, computed, written,
            by simp only [found, computed, written]⟩

theorem perform_quiet (session : Session Handle) {request : Request}
    (reads : request.operation.update? request.zone session.scale = none) :
    (session.perform request : Action σ Error Answer).Quiet := by
  have limit (socket : Nat) (zone : Zone) := readLimit_quiet (σ := σ) session socket zone
  obtain ⟨socket, zone, operation⟩ := request
  cases operation with
  | setEnabled | setClamped | setLimits => contradiction
  | isEnabled | isClamped | isLocked => exact .bind (.bind (limit _ _) fun _ => .pure _) fun _ => .pure _
  | getLimits | limitState =>
    exact .bind (.bind (limit _ _) fun _ => .bind (.note _) fun _ => .pure _) fun _ => .pure _
  | energyCounter =>
    exact .bind (session.energyCounter_quiet _ _) fun _ => .pure _
  | zoneSupported | energyCounterMax | powerUnits | timeUnits | energyUnits =>
    exact .bind (.ofExcept _) fun _ => .pure _

theorem effect_perform_setter (session : Session Handle) {request : Request}
    {update : Word → Except ArgumentFault Word}
    (sets : request.operation.update? request.zone session.scale = some update) (store : σ) :
    (session.perform request).effect store =
      ((session.exchange request.socket request.zone update store).1,
        (session.exchange request.socket request.zone update store).2.map fun _ => .done) := by
  have answered (events : Word → List Event) :
      (session.modifyLimit request.socket request.zone update events >>=
          fun _ => pure Answer.done).effect store =
        ((session.exchange request.socket request.zone update store).1,
          (session.exchange request.socket request.zone update store).2.map fun _ => .done) := by
    rw [Action.effect_bind, effect_modifyLimit]
    generalize session.exchange request.socket request.zone update store = effect
    obtain ⟨after, result⟩ := effect
    cases result <;> rfl
  obtain ⟨socket, zone, operation⟩ := request
  cases operation with
  | setEnabled | setClamped | setLimits =>
    cases Option.some.inj sets
    exact answered _
  | _ => contradiction

/-- A request that set something: it found a word and left the one computed from that. -/
structure Exchanged (session : Session Handle) (request : Request) (before : σ) (handle : Handle)
    (old new : Word) (outcome : Outcome σ Error Answer) : Prop where
  addressed : session.zoneHandle request.socket request.zone = .ok handle
  found : read before handle request.zone.limitRegister = .ok old
  computed : ∃ update, request.operation.update? request.zone session.scale = some update ∧
    update old = .ok new
  written : write before handle request.zone.limitRegister new = .ok outcome.store
  answered : outcome.result = .ok .done

/-- Either nothing changed, and the request reads or failed, or it exchanged one word. -/
theorem perform_cases (session : Session Handle) (request : Request) (store : σ) :
    (((session.perform request).run store).store = store ∧
      (request.operation.update? request.zone session.scale = none ∨
        ∃ error, ((session.perform request).run store).result = .error error)) ∨
    ∃ handle old new,
      session.Exchanged request store handle old new ((session.perform request).run store) := by
  cases sets : request.operation.update? request.zone session.scale with
  | none => exact .inl ⟨perform_quiet session sets store, .inl rfl⟩
  | some update =>
    have effect := effect_perform_setter session sets store
    obtain ⟨error, failed⟩ | ⟨handle, old, new, last, addressed, found, computed, written, done⟩ :=
      session.exchange_cases request.socket request.zone update store
    · rw [failed] at effect
      exact .inl ⟨congrArg Prod.fst effect, .inr ⟨error, congrArg Prod.snd effect⟩⟩
    · rw [done] at effect
      have after : ((session.perform request).run store).store = last := congrArg Prod.fst effect
      exact .inr ⟨handle, old, new, addressed, found, ⟨update, sets, computed⟩,
        written.trans (congrArg Except.ok after.symm), congrArg Prod.snd effect⟩

theorem zoneHandle_ok {session : Session Handle} {socket : Nat} {zone : Zone} {handle : Handle}
    (addressed : session.zoneHandle socket zone = .ok handle) :
    session.handles[socket]? = some handle ∧ zone.isSupported session.features := by
  cases found : session.handles[socket]? with
  | none => simp only [zoneHandle, Session.handle, found, bind, Except.bind, reduceCtorEq] at addressed
  | some entry =>
    simp only [zoneHandle, Session.handle, found, bind, Except.bind] at addressed
    split at addressed
    next supported =>
      cases Except.ok.inj addressed
      exact ⟨rfl, supported⟩
    next missing => contradiction

theorem performAll_induct {session : Session Handle} (kept : σ → Prop)
    (step : ∀ store request, kept store → kept ((session.perform request).run store).store)
    (requests : List Request) {store : σ} (initial : kept store) :
    kept (session.performAll store requests).1 := by
  induction requests generalizing store with
  | nil => exact initial
  | cons request rest ih => exact ih (step store request initial)

end Session

end PowerLimits
