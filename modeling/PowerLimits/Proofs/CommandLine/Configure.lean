import PowerLimits.Proofs.CommandLine.Run
import PowerLimits.Proofs.LimitRegister.Commute
import PowerLimits.Proofs.Session.Simulation

/-! What a run of the command line makes of the limit register of a zone. All that is asked for shows in
the one word that is left there, in whatever order it was written, and nothing else has changed. -/
namespace PowerLimits
open RegisterStore LimitRegister

/-- A register that can be read and written while the store is in one of these states, which go with the
word in it. -/
structure Cell {σ Handle : Type} [RegisterStore σ Handle] (handle : Handle) (register : Word)
    (state : Word → σ → Prop) : Prop where
  read : ∀ {word store}, state word store → RegisterStore.read store handle register = .ok word
  write : ∀ {word store} (new : Word), state word store →
    ∃ after, RegisterStore.write store handle register new = .ok after ∧ state new after

/-- What a request for settings comes to, from the limit word before to the one after. -/
structure Configured (options : Options) (scale : UnitScale) (before after : Word)
    (result : Except Failure (List String)) : Prop where
  accepted : result.isOk ↔ ¬ ((options.shortWatts.isSome ∨ options.shortSeconds.isSome) ∧
    options.zone ∈ [.core, .uncore, .dram])
  word : result.isOk → ∃ encoded,
    encode options.zone scale before options.longTerm options.shortTerm = .ok encoded ∧
      after = setEnabled options.zone encoded (options.enabled ≠ some 0)
  power : result.isOk → ∀ term ∈ options.zone.domainClass.terms,
    term.pick options.longWatts options.shortWatts = none →
      (setting term.fields after).power = (setting term.fields before).power
  exponent : result.isOk → ∀ term ∈ options.zone.domainClass.terms,
    term.pick options.longSeconds options.shortSeconds = none →
      (setting term.fields after).exponent = (setting term.fields before).exponent

namespace Options

theorem isOk_encode_iff (options : Options) (scale : UnitScale) (before : Word) :
    (encode options.zone scale before options.longTerm options.shortTerm).isOk ↔
      ¬ ((options.shortWatts.isSome ∨ options.shortSeconds.isSome) ∧
        options.zone ∈ [.core, .uncore, .dram]) := by
  rw [Session.isOk_encode, shortTerm, isSome_limitOf]
  simp only [Bool.not_eq_true', ← Bool.not_eq_true, Bool.and_eq_true, Bool.or_eq_true,
    decide_eq_true_eq]

theorem pick_limits (options : Options) (term : Term) :
    term.pick options.longTerm options.shortTerm =
      limitOf (term.pick options.longWatts options.shortWatts)
        (term.pick options.longSeconds options.shortSeconds) := by
  cases term <;> rfl

/-- A quantity that is not given is zero in the limit, and so its setting stays. -/
theorem limited_limitOf (zone : Zone) (scale : UnitScale) (fields : Constraint) (setting : Setting)
    (watts seconds : Option Binary64) :
    let after := (limitOf watts seconds).elim setting (limited zone scale fields · setting)
    (watts = none → after.power = setting.power) ∧
      (seconds = none → after.exponent = setting.exponent) := by
  intro after
  constructor
  · rintro rfl
    cases seconds <;> rfl
  · rintro rfl
    cases watts <;> rfl

end Options

namespace Configured

variable {options : Options} {scale : UnitScale} {before after encoded : Word}

theorem of_encode_ok
    (encodes : encode options.zone scale before options.longTerm options.shortTerm = .ok encoded) :
    Configured options scale before (setEnabled options.zone encoded (!options.disables)) (.ok []) := by
  have switched : (!options.disables) = decide (options.enabled ≠ some 0) := by
    rw [Bool.eq_iff_iff]
    simp [Options.disables]
  have settles (term : Term) (member : term ∈ options.zone.domainClass.terms) :=
    setting_setEnabled options.zone member encoded (!options.disables)
  have limits (term : Term) := setting_encode encodes term
  refine ⟨?_, fun _ => ⟨encoded, encodes, by rw [switched]⟩, ?_, ?_⟩
  · rw [← options.isOk_encode_iff scale before, encodes]
    rfl
  · intro _ term member absent
    rw [settles term member, limits, Options.pick_limits]
    exact (Options.limited_limitOf ..).1 absent
  · intro _ term member absent
    rw [settles term member, limits, Options.pick_limits]
    exact (Options.limited_limitOf ..).2 absent

theorem of_encode_error {fault : ArgumentFault} (refused :
    encode options.zone scale before options.longTerm options.shortTerm = .error fault)
    (failure : Failure) : Configured options scale before after (.error failure) := by
  refine ⟨?_, nofun, nofun, nofun⟩
  rw [← options.isOk_encode_iff scale before, refused]
  rfl

end Configured

namespace Cell

variable {σ Handle : Type} [RegisterStore σ Handle] {session : Session Handle} {options : Options}
  {handle : Handle} {state : Word → σ → Prop} {store : σ} {word new : Word}
  (cell : Cell handle options.zone.limitRegister state)
  (addressed : session.zoneHandle options.socket options.zone = .ok handle) (holds : state word store)

include cell addressed holds

theorem modifyLimit (update : Word → Except ArgumentFault Word) (computed : update word = .ok new)
    (events : Word → List Event) :
    ∃ after, (session.modifyLimit options.socket options.zone update events).effect store =
        (after, .ok ()) ∧ state new after := by
  obtain ⟨after, written, still⟩ := cell.write new holds
  refine ⟨after, ?_, still⟩
  simp only [Session.effect_modifyLimit, Session.exchange, addressed, cell.read holds, computed, written]

theorem switchZone (step : Step) (enabled : Bool) :
    ∃ after, (session.switchZone options step enabled).effect store = (after, .ok ()) ∧
      state (setEnabled options.zone word enabled) after := by
  obtain ⟨after, done, still⟩ := cell.modifyLimit addressed holds
    (fun word => .ok (setEnabled options.zone word enabled)) rfl fun _ => []
  refine ⟨after, ?_, still⟩
  rw [Session.switchZone, Action.effect_mapError, Session.setEnabled, done]
  rfl

theorem limitZone (encodes :
    encode options.zone session.scale word options.longTerm options.shortTerm = .ok new) :
    ∃ after, (session.limitZone options).effect store = (after, .ok ()) ∧ state new after := by
  unfold Session.limitZone
  by_cases given : options.longTerm.isSome || options.shortTerm.isSome
  · obtain ⟨after, done, still⟩ := cell.modifyLimit addressed holds
      (fun word => encode options.zone session.scale word options.longTerm options.shortTerm) encodes
      fun word => encodeEvents options.zone session.scale word options.longTerm options.shortTerm
    refine ⟨after, ?_, still⟩
    rw [if_pos given, Action.effect_mapError, Session.setLimits, done]
    rfl
  · have nothing : options.longTerm = none ∧ options.shortTerm = none := by simpa using given
    rw [nothing.1, nothing.2] at encodes
    cases Except.ok.inj encodes
    exact ⟨store, by rw [if_neg given, Action.effect_pure], holds⟩

theorem limitZone_refused {fault : ArgumentFault} (refused :
    encode options.zone session.scale word options.longTerm options.shortTerm = .error fault) :
    (session.limitZone options).effect store =
      (store, .error (.during .setLimits (.invalidArgument fault))) := by
  have given : options.shortTerm.isSome := by
    cases absent : options.shortTerm with
    | some _ => rfl
    | none =>
      rw [absent] at refused
      cases refused
  rw [Session.limitZone, given, Bool.or_true, if_pos rfl, Action.effect_mapError, Session.setLimits,
    Session.effect_modifyLimit]
  simp only [Session.exchange, addressed, cell.read holds, refused]
  rfl

theorem configure (encodes :
    encode options.zone session.scale word options.longTerm options.shortTerm = .ok new) :
    ∃ after, (session.configure options).effect store = (after, .ok ()) ∧
      state (setEnabled options.zone new (!options.disables)) after := by
  rw [Session.configure_eq]
  cases options.disables with
  | true =>
    obtain ⟨middle, disabled, between⟩ := cell.switchZone addressed holds .disableZone false
    have commuted := encode_setEnabled options.zone session.scale word false options.longTerm
      options.shortTerm
    rw [encodes] at commuted
    obtain ⟨after, limited, still⟩ := cell.limitZone addressed between commuted
    refine ⟨after, ?_, still⟩
    rw [if_pos rfl, Action.effect_bind, disabled]
    exact limited
  | false =>
    obtain ⟨middle, limited, between⟩ := cell.limitZone addressed holds encodes
    obtain ⟨after, enabled, still⟩ := cell.switchZone addressed between .enableZone true
    refine ⟨after, ?_, still⟩
    rw [if_neg Bool.false_ne_true, Action.effect_bind, limited]
    exact enabled

theorem configure_refused {fault : ArgumentFault} (refused :
    encode options.zone session.scale word options.longTerm options.shortTerm = .error fault) :
    ∃ after last, (session.configure options).effect store =
        (after, .error (.during .setLimits (.invalidArgument fault))) ∧ state last after := by
  rw [Session.configure_eq]
  cases options.disables with
  | true =>
    obtain ⟨middle, disabled, between⟩ := cell.switchZone addressed holds .disableZone false
    have commuted := encode_setEnabled options.zone session.scale word false options.longTerm
      options.shortTerm
    rw [refused] at commuted
    refine ⟨middle, _, ?_, between⟩
    rw [if_pos rfl, Action.effect_bind, disabled]
    exact cell.limitZone_refused addressed between commuted
  | false =>
    refine ⟨store, word, ?_, holds⟩
    rw [if_neg Bool.false_ne_true, Action.effect_bind, cell.limitZone_refused addressed holds refused]

theorem run (sets : options.Sets) :
    ∃ after, state after ((session.run options).run store).store ∧
      Configured options session.scale word after ((session.run options).run store).result := by
  obtain ⟨there, available⟩ := Session.zoneHandle_ok addressed
  have bound : options.socket < session.numSockets := (List.getElem?_eq_some_iff.1 there).1
  have supported : session.zoneSupported options.socket options.zone ≠ .ok false := by
    rw [Session.zoneSupported_eq, if_pos bound, available]
    nofun
  have effect := session.effect_run supported (Options.isReadOnly_eq_false_iff.2 sets) store
  obtain ⟨store_eq, result_eq⟩ := Prod.mk.inj effect
  rw [store_eq, result_eq]
  cases encodes : encode options.zone session.scale word options.longTerm options.shortTerm with
  | ok encoded =>
    obtain ⟨after, done, still⟩ := cell.configure addressed holds encodes
    rw [done]
    exact ⟨_, still, .of_encode_ok encodes⟩
  | error fault =>
    obtain ⟨after, last, failed, still⟩ := cell.configure_refused addressed holds encodes
    rw [failed]
    exact ⟨last, still, .of_encode_error encodes _⟩

end Cell

theorem Memory.cell {memory : Memory} {handle : Nat} {register : Word} :
    Cell handle register fun word (after : Memory) =>
      after.word? handle register = some word ∧ register ∉ (after.file handle).readOnly ∧
        ∀ other address, ¬ (other = handle ∧ address = register) →
          after.word? other address = memory.word? other address where
  read holds := Memory.read_eq_ok_iff.2 holds.1
  write := by
    intro word store new ⟨present, free, kept⟩
    have written := (store.write_eq handle register new).trans (if_neg free)
    refine ⟨_, written, ?_, ?_, fun other address elsewhere => ?_⟩
    · rw [Memory.word?_write present written, if_pos ⟨rfl, rfl⟩]
    · rw [(Memory.file_write present written handle).2]
      exact free
    · rw [Memory.word?_write present written, if_neg elsewhere, kept other address elsewhere]

theorem Device.cell {tree : FileTree} {device : Device} {register : Word}
    (taken : Host.signed.takes register.toNat) :
    Cell device register fun word after =>
      (∃ bytes, Holds after device bytes ∧ bytes.word? register.toNat = some word) ∧
        tree.KeptOutside [device.names] (Bytes.within register.toNat) after where
  read := by
    intro word store ⟨⟨bytes, holds, present⟩, _⟩
    rw [holds.read_eq taken, present]
  write := by
    intro word store new ⟨⟨bytes, holds, present⟩, kept⟩
    have fits := Bytes.fits_of_word? present
    have there := (FileTree.node?_setFile holds.file
      (bytes.overwrite register.toNat (.ofWord new)) device.names).trans (if_pos rfl)
    refine ⟨_, holds.write_eq taken new, ⟨_, ⟨holds.writable, there⟩, Bytes.word?_overwrite fits new⟩, ?_⟩
    exact kept.trans (FileTree.keptOutside_setFile holds.file (Bytes.keptOutside_overwrite fits new))

end PowerLimits
