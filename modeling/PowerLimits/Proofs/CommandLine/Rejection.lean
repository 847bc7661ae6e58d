import PowerLimits.Proofs.CommandLine.Configure

/-! What a request that is invalid leaves behind. Nothing was written before it was refused, but for one
course: a zone that is to be disabled is so before its short term limit is found to be one too many. -/
namespace PowerLimits
open RegisterStore LimitRegister

/-- The request itself is at fault, and not the access to a register. -/
def Failure.IsRejection : Failure → Prop
  | .zoneNotSupported _ => True
  | .during _ error => error.kind = .invalidArgument ∨ error.kind = .unsupported

namespace Session

variable {σ Handle : Type} [RegisterStore σ Handle]

/-- A zone was disabled, and then its short term limit was refused. -/
structure RefusedLate (session : Session Handle) (options : Options) (before after : σ)
    (failure : Failure) : Prop where
  disables : options.enabled = some 0
  shortTerm : options.shortWatts.isSome ∨ options.shortSeconds.isSome
  plane : options.zone ∈ [.core, .uncore, .dram]
  refused : failure = .during .setLimits (.invalidArgument (.noShortTerm options.zone))
  disabled : ∃ handle word, session.zoneHandle options.socket options.zone = .ok handle ∧
    read before handle options.zone.limitRegister = .ok word ∧
    write before handle options.zone.limitRegister
      (LimitRegister.setEnabled options.zone word false) = .ok after

variable {session : Session Handle} {options : Options} {store after : σ} {failure : Failure}

/-- An exchange that fails writes nothing; over a handle it is only rejected where its word is refused. -/
theorem exchange_outcome (session : Session Handle) (socket : Nat) (zone : Zone)
    (update : Word → Except ArgumentFault Word) (store : σ) :
    (∃ error, session.exchange socket zone update store = (store, .error error) ∧
      ∀ handle, session.zoneHandle socket zone = .ok handle →
        error.kind = .invalidArgument ∨ error.kind = .unsupported →
        ∃ word fault, update word = .error fault ∧ error = .invalidArgument fault) ∨
      ∃ handle word new after, session.zoneHandle socket zone = .ok handle ∧
        read store handle zone.limitRegister = .ok word ∧ update word = .ok new ∧
        write store handle zone.limitRegister new = .ok after ∧
        session.exchange socket zone update store = (after, .ok ()) := by
  obtain ⟨error, failed⟩ | done := session.exchange_cases socket zone update store
  · refine .inl ⟨error, failed, ?_⟩
    intro handle addressed rejected
    simp only [exchange, addressed] at failed
    cases found : read store handle zone.limitRegister with
    | error source =>
      simp only [found] at failed
      cases failed
      simp [Error.kind] at rejected
    | ok word =>
      cases computed : update word with
      | error fault =>
        simp only [found, computed] at failed
        cases failed
        exact ⟨word, fault, computed, rfl⟩
      | ok new =>
        simp only [found, computed] at failed
        split at failed <;> cases failed
        simp [Error.kind] at rejected
  · exact .inr done

theorem switchZone_cases (session : Session Handle) (options : Options) (step : Step) (enabled : Bool)
    (store : σ) :
    (∃ error, (session.switchZone options step enabled).effect store =
        (store, .error (.during step error)) ∧
      ∀ handle, session.zoneHandle options.socket options.zone = .ok handle →
        ¬ (Failure.during step error).IsRejection) ∨
      ∃ handle word after, session.zoneHandle options.socket options.zone = .ok handle ∧
        read store handle options.zone.limitRegister = .ok word ∧
        write store handle options.zone.limitRegister
          (LimitRegister.setEnabled options.zone word enabled) = .ok after ∧
        (session.switchZone options step enabled).effect store = (after, .ok ()) := by
  rw [switchZone, Action.effect_mapError, setEnabled, effect_modifyLimit]
  obtain ⟨error, failed, accepted⟩ | ⟨handle, word, new, after, addressed, found, computed, written, done⟩ :=
    session.exchange_outcome options.socket options.zone
      (fun word => .ok (LimitRegister.setEnabled options.zone word enabled)) store
  · rw [failed]
    refine .inl ⟨error, rfl, ?_⟩
    intro handle addressed rejected
    obtain ⟨_, _, refused, _⟩ := accepted handle addressed rejected
    contradiction
  · rw [done]
    cases computed
    exact .inr ⟨handle, word, after, addressed, found, written, rfl⟩

theorem limitZone_cases (session : Session Handle) (options : Options) (store : σ) :
    (∃ error, (session.limitZone options).effect store = (store, .error (.during .setLimits error)) ∧
      ∀ handle, session.zoneHandle options.socket options.zone = .ok handle →
        (Failure.during .setLimits error).IsRejection →
        error = .invalidArgument (.noShortTerm options.zone) ∧
          (options.shortWatts.isSome ∨ options.shortSeconds.isSome) ∧
          options.zone ∈ [.core, .uncore, .dram]) ∨
      (session.limitZone options).effect store = (store, .ok ()) ∨
      ∃ handle after, session.zoneHandle options.socket options.zone = .ok handle ∧
        (session.limitZone options).effect store = (after, .ok ()) := by
  unfold limitZone
  split
  · rw [Action.effect_mapError, setLimits, effect_modifyLimit]
    obtain ⟨error, failed, accepted⟩ | ⟨handle, word, new, after, addressed, _, _, _, done⟩ :=
      session.exchange_outcome options.socket options.zone
        (fun word => encode options.zone session.scale word options.longTerm options.shortTerm) store
    · rw [failed]
      refine .inl ⟨error, rfl, ?_⟩
      intro handle addressed rejected
      obtain ⟨word, fault, refused, rfl⟩ := accepted handle addressed rejected
      have condition := mt (options.isOk_encode_iff session.scale word).2 (by
        rw [refused]
        exact Bool.false_ne_true)
      exact ⟨congrArg _ (encode_error refused), Classical.not_not.1 condition⟩
    · rw [done]
      exact .inr (.inr ⟨handle, after, addressed, rfl⟩)
  · exact .inr (.inl rfl)

theorem configure_rejected (fails : (session.configure options).effect store = (after, .error failure))
    (rejected : failure.IsRejection) :
    after = store ∨ session.RefusedLate options store after failure := by
  rw [configure_eq] at fails
  cases disables : options.disables with
  | true =>
    rw [disables, if_pos rfl, Action.effect_bind] at fails
    obtain ⟨error, failed, _⟩ | ⟨handle, word, middle, addressed, found, written, done⟩ :=
      session.switchZone_cases options .disableZone false store
    · rw [failed] at fails
      exact .inl (congrArg Prod.fst fails).symm
    · rw [done] at fails
      -- The flag is written by now, and the limits are not yet looked at.
      obtain ⟨error, failed, refused⟩ | done | ⟨_, _, _, done⟩ := session.limitZone_cases options middle
      · cases failed.symm.trans fails
        obtain ⟨rfl, short, plane⟩ := refused handle addressed rejected
        exact .inr ⟨eq_of_beq disables, short, plane, rfl, handle, word, addressed, found, written⟩
      · cases done.symm.trans fails
      · cases done.symm.trans fails
  | false =>
    rw [disables, if_neg Bool.false_ne_true, Action.effect_bind] at fails
    obtain ⟨error, failed, _⟩ | done | ⟨handle, middle, addressed, done⟩ :=
      session.limitZone_cases options store
    · rw [failed] at fails
      exact .inl (congrArg Prod.fst fails).symm
    · rw [done] at fails
      obtain ⟨error, failed, _⟩ | ⟨_, _, _, _, _, _, done⟩ :=
        session.switchZone_cases options .enableZone true store
      · exact .inl (congrArg Prod.fst (failed.symm.trans fails)).symm
      · cases done.symm.trans fails
    · rw [done] at fails
      obtain ⟨error, failed, accepted⟩ | ⟨_, _, _, _, _, _, done⟩ :=
        session.switchZone_cases options .enableZone true middle
      · cases failed.symm.trans fails
        exact absurd rejected (accepted handle addressed)
      · cases done.symm.trans fails

/-- A run that is rejected changes no register, unless it is to disable a zone and has a short term limit
for one that has none: then the zone is disabled, and that is the one change. -/
theorem rejected_run_keeps (session : Session Handle) (options : Options) (store : σ) (failure : Failure)
    (fails : ((session.run options).run store).result = .error failure)
    (rejected : failure.IsRejection) :
    ((session.run options).run store).store = store ∨
      session.RefusedLate options store ((session.run options).run store).store failure := by
  cases asks : options.isReadOnly with
  | true => exact .inl (session.run_quiet asks store)
  | false =>
    by_cases supported : session.zoneSupported options.socket options.zone = .ok false
    · have quiet : (session.run options : Action σ Failure (List String)).Quiet := by
        unfold run
        rw [supported]
        exact fun _ => rfl
      exact .inl (quiet store)
    · obtain ⟨after, result⟩ := Prod.mk.inj (session.effect_run supported asks store)
      rw [result] at fails
      rw [after]
      cases configured : ((session.configure options).effect store).2 with
      | ok _ =>
        rw [configured] at fails
        contradiction
      | error error =>
        rw [configured] at fails
        cases fails
        exact configure_rejected (Prod.ext rfl configured) rejected

theorem rejected_run_keeps_pair :
    let options := { Options.standard with zone := .core, shortWatts := some (.ofNat 95) }
    let outcome := (pair.run options).run pairFiles
    outcome.result = .error (.during .setLimits (.invalidArgument (.noShortTerm .core))) ∧
      outcome.store = pairFiles := by
  intro options outcome
  have fails : outcome.result =
      .error (.during .setLimits (.invalidArgument (.noShortTerm .core))) := rfl
  refine ⟨fails, ?_⟩
  obtain kept | late := rejected_run_keeps pair options pairFiles _ fails (.inl rfl)
  · exact kept
  · cases late.disables

/-- A core that is to be disabled, with a short term limit besides: the run is rejected, and the enable bit
and the clamp bit are gone. -/
theorem rejected_run_disables :
    let options := { Options.standard with
      zone := .core, enabled := some 0, shortSeconds := some (.ofNat 1) }
    let files : Memory := ⟨[⟨0, RegisterMap.empty.set 0x638 0x1D8190, [], none, 0⟩], []⟩
    let session : Session Nat := ⟨[0], pair.scale, .all⟩
    let outcome := (session.run options).run files
    outcome.result = .error (.during .setLimits (.invalidArgument (.noShortTerm .core))) ∧
      files.word? 0 0x638 = some 0x1D8190 ∧ outcome.store.word? 0 0x638 = some 0x1C0190 :=
  ⟨rfl, by decide, by decide⟩

end Session

end PowerLimits
