import PowerLimits.Proofs.Session.Step

/-! What every request does, in closed form. A request asks whether the platform has a zone, or for
something that the session knows, or for something that it reads in one register, or it sets something. -/
namespace PowerLimits

namespace Operation

/-- The answer that takes no register, where there is one. -/
def known? (zone : Zone) (scale : UnitScale) : Operation → Option Answer
  | .energyCounterMax => some (.quantity (.ofNat EnergyStatus.wrap * scale.energyFor zone))
  | .powerUnits => some (.quantity scale.power)
  | .timeUnits => some (.quantity scale.time)
  | .energyUnits => some (.quantity (scale.energyFor zone))
  | _ => none

/-- The register that is read for an answer, and the answer to a word in it. -/
def view? (zone : Zone) (scale : UnitScale) : Operation → Option (Word × (Word → Answer))
  | .isEnabled => some (zone.limitRegister, fun word => .flag (LimitRegister.isEnabled zone word))
  | .isClamped => some (zone.limitRegister, fun word => .flag (LimitRegister.isClamped zone word))
  | .isLocked => some (zone.limitRegister, fun word => .flag (LimitRegister.isLocked zone word))
  | .getLimits =>
    some (zone.limitRegister, fun word => .limits (LimitRegister.decodeLimits zone scale word))
  | .limitState => some (zone.limitRegister, fun word => .state (LimitRegister.decode zone scale word))
  | .energyCounter =>
    some (zone.energyRegister, fun word =>
      .quantity (.ofNat (EnergyStatus.ofWord word).counter.toNat * scale.energyFor zone))
  | _ => none

theorem kinds (zone : Zone) (scale : UnitScale) (operation : Operation) :
    operation = .zoneSupported ∨ (∃ answer, operation.known? zone scale = some answer) ∨
      (∃ register answer, operation.view? zone scale = some (register, answer)) ∨
      ∃ update, operation.update? zone scale = some update := by
  cases operation with
  | zoneSupported => exact .inl rfl
  | energyCounterMax | powerUnits | timeUnits | energyUnits => exact .inr (.inl ⟨_, rfl⟩)
  | setEnabled | setClamped | setLimits => exact .inr (.inr (.inr ⟨_, rfl⟩))
  | isEnabled | isClamped | isLocked | getLimits | limitState | energyCounter =>
    exact .inr (.inr (.inl ⟨_, _, rfl⟩))

end Operation

namespace Session
open RegisterStore

variable {σ Handle : Type} [RegisterStore σ Handle] (session : Session Handle) {request : Request}

/-- The answer to a word in a register of a zone. -/
def consult (socket : Nat) (zone : Zone) (register : Word) (answer : Word → Answer) (store : σ) :
    Except Error Answer :=
  match session.zoneHandle socket zone with
  | .error error => .error error
  | .ok handle => ((read store handle register).mapError .access).map answer

theorem effect_perform_zoneSupported (asks : request.operation = .zoneSupported) (store : σ) :
    (session.perform request).effect store =
      (store, (session.zoneSupported request.socket request.zone).map .flag) := by
  obtain ⟨socket, zone, operation⟩ := request
  cases asks
  simp only [perform, Action.effect_bind, Action.effect_ofExcept]
  cases session.zoneSupported socket zone <;> rfl

theorem effect_perform_known {answer : Answer}
    (knows : request.operation.known? request.zone session.scale = some answer) (store : σ) :
    (session.perform request).effect store =
      (store, (session.zoneHandle request.socket request.zone).map fun _ => answer) := by
  obtain ⟨socket, zone, operation⟩ := request
  cases operation with
  | energyCounterMax | powerUnits | timeUnits | energyUnits =>
    cases Option.some.inj knows
    simp only [perform, energyCounterMax, powerUnits, timeUnits, energyUnits, Action.effect_bind,
      Action.effect_ofExcept]
    cases session.zoneHandle socket zone <;> rfl
  | _ => contradiction

theorem effect_perform_view {register : Word} {answer : Word → Answer}
    (views : request.operation.view? request.zone session.scale = some (register, answer)) (store : σ) :
    (session.perform request).effect store =
      (store, session.consult request.socket request.zone register answer store) := by
  obtain ⟨socket, zone, operation⟩ := request
  cases operation with
  | isEnabled | isClamped | isLocked | getLimits | limitState | energyCounter =>
    cases Option.some.inj views
    simp only [perform, isEnabled, isClamped, isLocked, getLimits, limitState, energyCounter, readLimit,
      readRegister, consult, Action.effect_bind, Action.effect_ofExcept, Action.effect_look,
      Action.effect_mapError]
    cases session.zoneHandle socket zone with
    | error error => rfl
    | ok handle =>
      dsimp only
      cases read store handle _ <;> rfl
  | _ => contradiction

end Session

end PowerLimits
