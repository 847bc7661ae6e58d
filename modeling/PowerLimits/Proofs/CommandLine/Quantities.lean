import PowerLimits.CommandLine.Arguments
import PowerLimits.Proofs.Binary64.Numeral
import PowerLimits.Proofs.CommandLine.Configure
import PowerLimits.Proofs.Sequence

/-! What becomes of the quantities of a command line. One that is accepted is positive, and then its field
of the limit word is written anew, or it is no number at all, and then nothing is written for it. -/
namespace PowerLimits
open LimitRegister

theorem readQuantity_eq_ok_iff {text : List Char} {value : Binary64} :
    readQuantity text = .ok value ↔
      Binary64.readNumeral text = .ok value ∧ (value.isPositive ∨ value = .nan) := by
  rw [← Binary64.not_le_zero_iff, readQuantity]
  cases Binary64.readNumeral text with
  | error fault => exact iff_of_false nofun fun read => nomatch read.1
  | ok number =>
    dsimp only
    split
    next small =>
      refine iff_of_false nofun ?_
      rintro ⟨same, large⟩
      cases same
      rw [small] at large
      contradiction
    next large =>
      constructor
      · intro same
        cases same
        exact ⟨rfl, Bool.eq_false_iff.2 large⟩
      · rintro ⟨same, _⟩
        cases same
        rfl

namespace Options

def quantities (options : Options) : List (Option Binary64) :=
  [options.longSeconds, options.longWatts, options.shortSeconds, options.shortWatts]

/-- Every quantity that is given is what some text was read as. -/
def Accepted (options : Options) : Prop :=
  ∀ value, some value ∈ options.quantities → ∃ text, readQuantity text = .ok value

/-- Reading a command line keeps what holds of the standard request and is kept by each of its options. -/
structure Invariant (kept : Options → Prop) : Prop where
  standard : kept .standard
  assign : ∀ {parameter : Parameter} {text : List Char} {options next : Options},
    parameter.assign? text options = some next → kept options → kept next
  countSockets : ∀ {options : Options}, kept options → kept { options with countSockets := true }
  verbose : ∀ {options : Options}, kept options → kept { options with verbose := true }

namespace Invariant

variable {kept : Options → Prop} (invariant : Invariant kept) {reading next : Reading}
  {parameter : Parameter} {text : List Char}

include invariant

theorem of_assign (read : reading.assign parameter text = .ok next) (holds : kept reading.options) :
    kept next.options := by
  unfold Reading.assign at read
  split at read
  · contradiction
  · split at read
    next assigned =>
      cases read
      exact invariant.assign assigned holds
    · contradiction

theorem of_settle (read : reading.settle = .ok next) (holds : kept reading.options) :
    kept next.options := by
  unfold Reading.settle at read
  split at read
  · cases read
    exact holds
  · contradiction
  · exact invariant.of_assign read holds

theorem of_turnOn {option : Switch} (read : reading.turnOn option = .ok next)
    (holds : kept reading.options) : kept next.options := by
  obtain ⟨settled, earlier, read⟩ := bind_eq_ok_iff.1 read
  have holds := invariant.of_settle earlier holds
  cases option with
  | help => contradiction
  | countSockets =>
    dsimp only at read
    split at read
    · contradiction
    · cases read
      exact invariant.countSockets holds
  | verbose =>
    dsimp only at read
    split at read
    · contradiction
    · cases read
      exact invariant.verbose holds

theorem of_await (read : reading.await parameter = .ok next) (holds : kept reading.options) :
    kept next.options := by
  obtain ⟨settled, earlier, read⟩ := bind_eq_ok_iff.1 read
  have same : settled.options = next.options := by
    cases read
    rfl
  exact same ▸ invariant.of_settle earlier holds

theorem of_attach (read : reading.attach parameter text = .ok next) (holds : kept reading.options) :
    kept next.options := by
  obtain ⟨settled, earlier, read⟩ := bind_eq_ok_iff.1 read
  exact invariant.of_assign read (invariant.of_settle earlier holds)

omit invariant in
theorem of_value (read : reading.value text = .ok next) (holds : kept reading.options) :
    kept next.options := by
  unfold Reading.value at read
  split at read
  · cases read
    exact holds
  · contradiction

theorem of_long (read : reading.long text = .ok next) (holds : kept reading.options) :
    kept next.options := by
  unfold Reading.long at read
  dsimp only at read
  split at read
  · exact invariant.of_turnOn read holds
  · contradiction
  · exact invariant.of_await read holds
  · exact invariant.of_attach read holds
  · contradiction

theorem of_short (read : reading.short text = .ok next) (holds : kept reading.options) :
    kept next.options := by
  induction text generalizing reading with
  | nil =>
    cases read
    exact holds
  | cons c rest ih =>
    unfold Reading.short at read
    split at read
    · obtain ⟨turned, earlier, read⟩ := bind_eq_ok_iff.1 read
      exact ih read (invariant.of_turnOn earlier holds)
    · exact invariant.of_await read holds
    · exact invariant.of_attach read holds
    · exact invariant.of_attach read holds
    · contradiction

theorem of_arguments {arguments : List (List Char)} (read : reading.arguments arguments = .ok next)
    (holds : kept reading.options) : kept next.options := by
  induction arguments generalizing reading with
  | nil => exact invariant.of_settle read holds
  | cons argument rest ih =>
    unfold Reading.arguments at read
    -- Two hyphens alone, a name, letters, or a value that stands alone.
    split at read
    · contradiction
    next same =>
      cases same
      split at read
      · exact invariant.of_settle read holds
      · contradiction
    next same =>
      cases same
      obtain ⟨taken, earlier, read⟩ := bind_eq_ok_iff.1 read
      exact ih read (invariant.of_long earlier holds)
    next same =>
      cases same
      obtain ⟨taken, earlier, read⟩ := bind_eq_ok_iff.1 read
      exact ih read (invariant.of_short earlier holds)
    next same =>
      cases same
      obtain ⟨taken, earlier, read⟩ := bind_eq_ok_iff.1 read
      exact ih read (of_value earlier holds)

theorem of_ofArguments {arguments : List String} {options : Options}
    (read : ofArguments arguments = .ok options) : kept options := by
  obtain ⟨last, whole, read⟩ := bind_eq_ok_iff.1 read
  cases read
  exact invariant.of_arguments whole invariant.standard

end Invariant

theorem mem_quantities_of_assign? {parameter : Parameter} {text : List Char}
    {options next : Options} {value : Binary64} (assigned : parameter.assign? text options = some next)
    (member : some value ∈ next.quantities) :
    readQuantity text = .ok value ∨ some value ∈ options.quantities := by
  have quantity {x : Binary64} (read : Parameter.assign?.quantity? text = some x) :
      readQuantity text = .ok x := by
    unfold Parameter.assign?.quantity? at read
    cases accepted : readQuantity text with
    | error fault => rw [accepted] at read; contradiction
    | ok y => rw [accepted] at read; cases read; rfl
  cases parameter with
  | socket | zone | enabled =>
    obtain ⟨_, _, rfl⟩ := Option.map_eq_some_iff.1 assigned
    exact .inr member
  | longSeconds | longWatts | shortSeconds | shortWatts =>
    obtain ⟨x, read, rfl⟩ := Option.map_eq_some_iff.1 assigned
    -- The new value may well be that of another option too.
    by_cases same : value = x
    · exact .inl (same ▸ quantity read)
    · refine .inr ?_
      simp only [quantities, List.mem_cons, Option.some.injEq, same, false_or] at member ⊢
      tauto

theorem accepted_invariant : Invariant Accepted where
  standard := by
    intro value member
    simp [quantities, standard] at member
  assign := by
    intro parameter text options next assigned accepted value member
    obtain read | earlier := mem_quantities_of_assign? assigned member
    · exact ⟨text, read⟩
    · exact accepted value earlier
  countSockets := id
  verbose := id

theorem Accepted.isPositive_iff {options : Options} (accepted : options.Accepted) {value : Binary64}
    (member : some value ∈ options.quantities) : value.isPositive ↔ value ≠ .nan := by
  obtain ⟨text, read⟩ := accepted value member
  constructor
  · rintro positive rfl
    contradiction
  · exact (readQuantity_eq_ok_iff.1 read).2.resolve_right

theorem watts_mem_quantities (options : Options) (term : Term) :
    term.pick options.longWatts options.shortWatts ∈ options.quantities := by
  cases term <;> simp [quantities, Term.pick]

theorem seconds_mem_quantities (options : Options) (term : Term) :
    term.pick options.longSeconds options.shortSeconds ∈ options.quantities := by
  cases term <;> simp [quantities, Term.pick]

theorem limited_given (zone : Zone) (scale : UnitScale) (fields : Constraint) (setting : Setting)
    (watts seconds : Option Binary64) :
    let after := (limitOf watts seconds).elim setting (limited zone scale fields · setting)
    (∀ given, watts = some given → after.power =
      if given.isPositive then powerCount scale fields given else setting.power) ∧
    ∀ given, seconds = some given → after.exponent =
      if given.isPositive then windowExponent fields (windowLog zone scale setting.fraction given)
      else setting.exponent := by
  intro after
  constructor
  · rintro given rfl
    rfl
  · rintro given rfl
    cases watts <;> rfl

end Options

/-- What is given for a constraint of the zone is what its fields hold afterwards, computed anew, except
that what is no number leaves them. -/
structure TakesEffect (options : Options) (zone : Zone) (scale : UnitScale) (before after : Word) :
    Prop where
  power : ∀ term ∈ zone.domainClass.terms, ∀ watts,
    term.pick options.longWatts options.shortWatts = some watts →
      (setting term.fields after).power =
        if watts = .nan then (setting term.fields before).power
        else powerCount scale term.fields watts
  exponent : ∀ term ∈ zone.domainClass.terms, ∀ seconds,
    term.pick options.longSeconds options.shortSeconds = some seconds →
      (setting term.fields after).exponent =
        if seconds = .nan then (setting term.fields before).exponent
        else windowExponent term.fields
          (windowLog zone scale (setting term.fields before).fraction seconds)

namespace TakesEffect

variable {options : Options} {zone : Zone} {scale : UnitScale} {before after : Word}

theorem of_encode (accepted : options.Accepted)
    (encodes : encode zone scale before options.longTerm options.shortTerm = .ok after) :
    TakesEffect options zone scale before after where
  power := by
    intro term _ watts given
    have positive := accepted.isPositive_iff (given ▸ options.watts_mem_quantities term)
    rw [setting_encode encodes, Options.pick_limits, (Options.limited_given ..).1 watts given]
    simp only [positive, ite_not]
  exponent := by
    intro term _ seconds given
    have positive := accepted.isPositive_iff (given ▸ options.seconds_mem_quantities term)
    rw [setting_encode encodes, Options.pick_limits, (Options.limited_given ..).2 seconds given]
    simp only [positive, ite_not]

theorem setEnabled (effect : TakesEffect options zone scale before after) (enabled : Bool) :
    TakesEffect options zone scale before (setEnabled zone after enabled) where
  power term has watts given := by
    rw [setting_setEnabled zone has]
    exact effect.power term has watts given
  exponent term has seconds given := by
    rw [setting_setEnabled zone has]
    exact effect.exponent term has seconds given

end TakesEffect

theorem isPositive_iff_of_readQuantity {text : List Char} {value : Binary64}
    (accepted : readQuantity text = .ok value) : value.isPositive ↔ ¬ Binary64.NamesNan text := by
  obtain ⟨read, positive | rfl⟩ := readQuantity_eq_ok_iff.1 accepted
  · refine iff_of_true positive fun named => ?_
    cases Except.ok.inj (read.symm.trans (Binary64.readNumeral_eq_nan_iff.2 named))
    contradiction
  · exact iff_of_false nofun (not_not_intro (Binary64.readNumeral_eq_nan_iff.1 read))

/-- A quantity that is accepted is positive unless it is named as no number, and what is accepted takes
effect unless it is so named: it makes the field of its constraint in the encoded word, and in the word
that a run leaves. -/
theorem accepted_quantities_take_effect (text : List Char) (value : Binary64) (options : Options) :
    (readQuantity text = .ok value → (value.isPositive ↔ ¬ Binary64.NamesNan text)) ∧
    (∀ arguments, Options.ofArguments arguments = .ok options → options.Accepted) ∧
    (options.Accepted → ∀ (zone : Zone) (scale : UnitScale) (word : Word),
      (options.shortTerm.isSome → zone.domainClass.hasShortTerm) →
      ∃ after, encode zone scale word options.longTerm options.shortTerm = .ok after ∧
        TakesEffect options zone scale word after) ∧
    (options.Accepted → options.Sets → ∀ {σ Handle : Type} [RegisterStore σ Handle]
      (session : Session Handle) (handle : Handle) (state : Word → σ → Prop) (store : σ) (word : Word),
      Cell handle options.zone.limitRegister state →
      session.zoneHandle options.socket options.zone = .ok handle → state word store →
      let outcome := (session.run options).run store
      outcome.result.isOk → ∃ after, state after outcome.store ∧
        TakesEffect options options.zone session.scale word after) := by
  refine ⟨isPositive_iff_of_readQuantity, ?_, ?_, ?_⟩
  · intro arguments
    exact Options.accepted_invariant.of_ofArguments
  · intro accepted zone scale word allowed
    obtain ⟨after, encodes⟩ :
        ∃ after, encode zone scale word options.longTerm options.shortTerm = .ok after :=
      exists_encode allowed
    exact ⟨after, encodes, .of_encode accepted encodes⟩
  · intro accepted sets σ Handle _ session handle state store word cell addressed holds outcome done
    obtain ⟨after, still, configured⟩ := cell.run addressed holds sets
    obtain ⟨encoded, encodes, rfl⟩ := configured.word done
    exact ⟨_, still, (TakesEffect.of_encode accepted encodes).setEnabled _⟩

theorem accepted_quantities_take_effect_pair :
    let options := { Options.standard with
      longSeconds := some (.ofRatio 1 1000), shortWatts := some (.ofNat 120) }
    let outcome := (Session.pair.run options).run Session.pairFiles
    ¬ Binary64.NamesNan ['1', '2', '0'] ∧
      Options.ofArguments ["-W", "120", "-s", "1e-3"] = .ok options ∧ outcome.result = .ok [] ∧
      ∃ after, outcome.store.word? 1 0x610 = some after ∧
        TakesEffect options .package Session.pair.scale 0x8042821000DD8190 after := by
  intro options outcome
  have read : Options.ofArguments ["-W", "120", "-s", "1e-3"] = .ok options := by decide +kernel
  have done : outcome.result = .ok [] := rfl
  obtain ⟨positive, accepts, _, settles⟩ :=
    accepted_quantities_take_effect ['1', '2', '0'] (.ofNat 120) options
  obtain ⟨after, still, effect⟩ := settles (accepts _ read) (.inr (.inr (.inl rfl))) Session.pair 1 _
    Session.pairFiles 0x8042821000DD8190 Memory.cell (Session.zoneHandle_of_there rfl rfl)
    ⟨by decide, by decide, fun _ _ _ => rfl⟩ (done ▸ rfl)
  exact ⟨(positive (by decide +kernel)).1 (by decide +kernel), read, done, after, still.1, effect⟩

/-- What is no number passes, and then the zone is enabled with the limits that it had. -/
theorem no_number_enables :
    let options := { Options.standard with longWatts := some .nan }
    let files : Memory := ⟨[⟨0, RegisterMap.empty.set 0x610 0x42021000DD0190, [], none, 0⟩], []⟩
    let session : Session Nat := ⟨[0], Session.pair.scale, .all⟩
    let outcome := (session.run options).run files
    readQuantity ['n', 'a', 'n'] = .ok .nan ∧ ¬ Binary64.nan.isPositive ∧
      Options.ofArguments ["-w", "nan"] = .ok options ∧ outcome.result = .ok [] ∧
      outcome.store.word? 0 0x610 = some 0x43821000DD8190 := by
  refine ⟨?_, ?_, ?_, rfl, ?_⟩
  · rfl
  · nofun
  · rfl
  · decide

end PowerLimits
