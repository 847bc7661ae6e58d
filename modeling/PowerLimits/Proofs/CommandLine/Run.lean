import PowerLimits.CommandLine.Run
import PowerLimits.Proofs.Session.Step

/-! A run of the command line over a store of any kind. A report changes nothing, and new settings are
made in two steps, of which the flags come first when the zone is to be disabled. -/
namespace PowerLimits

namespace Options

/-- An option that sets something is given. -/
def Sets (options : Options) : Prop :=
  options.enabled.isSome ∨ options.longWatts.isSome ∨ options.longSeconds.isSome ∨
    options.shortWatts.isSome ∨ options.shortSeconds.isSome

theorem isSome_limitOf (watts seconds : Option Binary64) :
    (limitOf watts seconds).isSome = (watts.isSome || seconds.isSome) := by
  unfold limitOf
  cases watts.isSome || seconds.isSome <;> rfl

theorem isReadOnly_eq_false_iff {options : Options} : options.isReadOnly = false ↔ options.Sets := by
  unfold isReadOnly longTerm shortTerm Sets
  simp only [← Option.not_isSome, isSome_limitOf, Bool.and_eq_false_iff, Bool.not_eq_false',
    Bool.or_eq_true, or_assoc]

end Options

namespace Session
open RegisterStore

variable {σ Handle : Type} [RegisterStore σ Handle] (session : Session Handle) (options : Options)

theorem report_quiet (socket : Nat) (zone : Zone) :
    (session.report socket zone : Action σ Failure Report).Quiet := by
  have limit := readLimit_quiet (σ := σ) session socket zone
  have flag (action : Action σ Error Bool) (quiet : action.Quiet) (event : Error → Event) :
      (flagOr action event).Quiet := by
    refine .bind (.attempt quiet) fun result => ?_
    cases result with
    | ok _ => exact .pure _
    | error _ => exact .bind (.note _) fun _ => .pure _
  refine .bind (flag _ (.bind limit fun _ => .pure _) _) fun _ => ?_
  refine .bind (flag _ (.bind limit fun _ => .pure _) _) fun _ => ?_
  refine .bind (.mapError _ (.bind limit fun _ => .bind (.note _) fun _ => .pure _)) fun _ => ?_
  exact .bind (.attempt (session.energyCounter_quiet socket zone)) fun _ => .pure _

theorem run_quiet {options : Options} (asks : options.isReadOnly) :
    (session.run options : Action σ Failure (List String)).Quiet := by
  have reports := Action.Quiet.bind (session.report_quiet (σ := σ) options.socket options.zone)
    fun report => .pure report.lines
  unfold run
  simp only [asks, if_true]
  cases session.zoneSupported options.socket options.zone with
  | error error => exact .bind (.note _) fun _ => reports
  | ok supported =>
    cases supported with
    | true => exact reports
    | false => exact fun _ => rfl

theorem effect_run {options : Options}
    (supported : session.zoneSupported options.socket options.zone ≠ .ok false)
    (sets : options.isReadOnly = false) (store : σ) :
    (session.run options).effect store =
      (((session.configure options).effect store).1,
        ((session.configure options).effect store).2.map fun _ => []) := by
  unfold run
  simp only [sets, Bool.false_eq_true, if_false]
  cases answer : session.zoneSupported options.socket options.zone with
  | error error =>
    simp only [Action.effect_bind, Action.effect_note]
    generalize (session.configure options).effect store = effect
    obtain ⟨after, result⟩ := effect
    cases result <;> rfl
  | ok supports =>
    cases supports with
    | false => contradiction
    | true =>
      simp only [Action.effect_bind, Action.effect_pure]
      generalize (session.configure options).effect store = effect
      obtain ⟨after, result⟩ := effect
      cases result <;> rfl

def switchZone (step : Step) (enabled : Bool) : Action σ Failure Unit :=
  (session.setEnabled options.socket options.zone enabled).mapError (.during step)

/-- Set the limits that are given, if any are. -/
def limitZone : Action σ Failure Unit :=
  if options.longTerm.isSome || options.shortTerm.isSome then
    (session.setLimits options.socket options.zone options.longTerm options.shortTerm).mapError
      (.during .setLimits)
  else pure ()

theorem configure_eq :
    (session.configure options : Action σ Failure Unit) =
      if options.disables then
        session.switchZone options .disableZone false >>= fun _ => session.limitZone options
      else session.limitZone options >>= fun _ => session.switchZone options .enableZone true := by
  unfold configure limitZone
  cases options.disables with
  | true =>
    cases options.longTerm.isSome || options.shortTerm.isSome with
    | true => exact congrArg (_ >>= ·) (funext fun _ => bind_pure_unit)
    | false => rfl
  | false => cases options.longTerm.isSome || options.shortTerm.isSome <;> rfl

end Session

end PowerLimits
