import PowerLimits.Proofs.CommandLine.Configure
import PowerLimits.Proofs.Session.Course

/-! The words that a run for settings writes on its way, whichever of its accesses fail. A zone that is to
be disabled has no flag set in any of them. In any other run the flags change with the last word alone,
after the limits, so that a run that fails leaves the flags as it found them. -/
namespace PowerLimits
open RegisterStore LimitRegister

namespace LimitRegister

/-- The enable bit and the clamp bit of each constraint of the zone. -/
def flags (zone : Zone) (word : Word) : List Bool :=
  zone.domainClass.constraints.flatMap fun fields => [fields.enable.isSet word, fields.clamp.isSet word]

theorem flags_eq (zone : Zone) (word : Word) :
    flags zone word = zone.domainClass.terms.flatMap fun term =>
      [(setting term.fields word).enabled, (setting term.fields word).clamped] := by
  rw [flags, DomainClass.constraints_eq, List.flatMap_map]
  rfl

theorem flags_setEnabled (zone : Zone) (word : Word) (enabled : Bool) :
    ∀ flag ∈ flags zone (setEnabled zone word enabled), flag = enabled := by
  intro flag member
  rw [flags_eq] at member
  obtain ⟨term, has, member⟩ := List.mem_flatMap.1 member
  rw [setting_setEnabled zone has] at member
  simpa using member

theorem flags_encode {zone : Zone} {scale : UnitScale} {word after : Word}
    {longTerm shortTerm : Option Limit}
    (encodes : encode zone scale word longTerm shortTerm = .ok after) :
    flags zone after = flags zone word := by
  simp only [flags_eq, setting_encode encodes]
  congr 1
  funext term
  cases term.pick longTerm shortTerm <;> rfl

end LimitRegister

namespace Options

/-- The updates of the limit word that a run for settings makes, in their order. -/
def limitUpdates (options : Options) (scale : UnitScale) : List (Word → Except ArgumentFault Word) :=
  if options.longTerm.isSome || options.shortTerm.isSome then
    [fun word => encode options.zone scale word options.longTerm options.shortTerm]
  else []

def updates (options : Options) (scale : UnitScale) : List (Word → Except ArgumentFault Word) :=
  let switch (enabled : Bool) (word : Word) : Except ArgumentFault Word :=
    .ok (setEnabled options.zone word enabled)
  if options.disables then switch false :: options.limitUpdates scale
  else options.limitUpdates scale ++ [switch true]

variable {options : Options} {scale : UnitScale} {word : Word} {words : List Word} {done : Bool}

theorem flags_limits (course : Course (options.limitUpdates scale) word words done) :
    ∀ limited ∈ words, flags options.zone limited = flags options.zone word := by
  unfold limitUpdates at course
  split at course
  · cases course with
    | stopped => nofun
    | next computed further =>
      cases further
      intro limited member
      cases List.mem_singleton.1 member
      exact flags_encode computed
  · cases course
    nofun

theorem limits_done (course : Course (options.limitUpdates scale) word words true) :
    if options.longTerm.isSome || options.shortTerm.isSome then
      ∃ limited, encode options.zone scale word options.longTerm options.shortTerm = .ok limited ∧
        words = [limited]
    else words = [] := by
  unfold limitUpdates at course
  split at course
  next given =>
    cases course with
    | next computed further =>
      cases further
      rw [if_pos given]
      exact ⟨_, computed, rfl⟩
  next nothing =>
    cases course
    rw [if_neg nothing]

end Options

theorem Cell.keeps {σ Handle : Type} [RegisterStore σ Handle] {handle : Handle} {register : Word}
    {state : Word → σ → Prop} (cell : Cell handle register state) : Keeps handle register state where
  read holds found := Except.ok.inj (found.symm.trans (cell.read holds))
  write := by
    intro word new store after holds written
    obtain ⟨last, done, still⟩ := cell.write new holds
    cases Except.ok.inj (written.symm.trans done)
    exact still

/-- What the words of a run for settings say of the flags: none is set on the way to a disabled zone, and
otherwise the first change of one is the last word of all, and comes after the limits that are asked for. -/
structure FlagsLast (options : Options) (scale : UnitScale) (found : Word) (words : List Word)
    (accepted : Bool) : Prop where
  disabled : options.enabled = some 0 → ∀ word ∈ words, ∀ flag ∈ flags options.zone word, flag = false
  last : options.enabled ≠ some 0 → ∀ earlier word later, words = earlier ++ word :: later →
    flags options.zone word ≠ flags options.zone (earlier.getLastD found) →
      later = [] ∧
        if options.longTerm.isSome || options.shortTerm.isSome then
          ∃ limited, encode options.zone scale found options.longTerm options.shortTerm = .ok limited ∧
            earlier = [limited]
        else earlier = []
  kept : options.enabled ≠ some 0 → accepted = false →
    flags options.zone (words.getLastD found) = flags options.zone found
  settled : accepted → ∀ flag ∈ flags options.zone (words.getLastD found),
    flag = decide (options.enabled ≠ some 0)

namespace FlagsLast

variable {options : Options} {scale : UnitScale} {found : Word} {words : List Word} {accepted : Bool}

section

variable (same : ∀ word ∈ words, flags options.zone word = flags options.zone found)

include same

theorem flags_getLastD : flags options.zone (words.getLastD found) = flags options.zone found := by
  obtain equal | member := List.mem_cons.1 (List.getLastD_mem_cons (l := words) (a := found))
  · rw [equal]
  · exact same _ member

/-- While no flag is switched, no word differs in its flags from the one before it. -/
theorem unchanged {earlier later : List Word} {word : Word} (parts : words = earlier ++ word :: later) :
    flags options.zone word = flags options.zone (earlier.getLastD found) := by
  subst parts
  rw [same word (by simp), flags_getLastD fun word member => same word (by simp [member])]

theorem of_unchanged (enables : options.enabled ≠ some 0) :
    FlagsLast options scale found words false :=
  ⟨fun disabled => absurd disabled enables,
    fun _ _ _ _ parts changed => absurd (unchanged same parts) changed,
    fun _ _ => flags_getLastD same, nofun⟩

end

theorem of_disabled (disables : options.enabled = some 0)
    (course : Course (options.updates scale) found words accepted) :
    FlagsLast options scale found words accepted := by
  have clear := flags_setEnabled options.zone found false
  have switched : options.disables := beq_iff_eq.2 disables
  rw [Options.updates, if_pos switched] at course
  cases course with
  | stopped => exact ⟨fun _ => nofun, absurd disables, absurd disables, nofun⟩
  | next computed further =>
    cases Except.ok.inj computed
    have same := Options.flags_limits further
    refine ⟨fun _ word member => ?_, absurd disables, absurd disables, fun _ => ?_⟩
    · obtain rfl | member := List.mem_cons.1 member
      · exact clear
      · rw [same word member]
        exact clear
    · rw [List.getLastD_cons, flags_getLastD same, disables]
      exact clear

theorem of_enabled (enables : options.enabled ≠ some 0)
    (course : Course (options.updates scale) found words accepted) :
    FlagsLast options scale found words accepted := by
  have disables : ¬ options.disables := fun disables => enables (beq_iff_eq.1 disables)
  rw [Options.updates, if_neg disables] at course
  obtain ⟨limits, rfl⟩ | ⟨limits, rest, rfl, limited, switch⟩ := course.of_append
  · exact of_unchanged (Options.flags_limits limits) enables
  · have same := Options.flags_limits limited
    cases switch with
    | stopped =>
      rw [List.append_nil]
      exact of_unchanged same enables
    | next computed further =>
      cases further
      cases Except.ok.inj computed
      refine ⟨fun disabled => absurd disabled enables, fun _ earlier word later parts changed => ?_,
        nofun, fun _ => ?_⟩
      -- A word that is followed by another is one of those with the limits.
      · obtain rfl | ⟨before, final, rfl⟩ := List.eq_nil_or_concat later
        · obtain ⟨rfl, _⟩ := List.append_inj' parts rfl
          exact ⟨rfl, Options.limits_done limited⟩
        · rw [List.concat_eq_append, ← List.cons_append, ← List.append_assoc] at parts
          obtain ⟨rest, _⟩ := List.append_inj' parts rfl
          exact absurd (unchanged same rest) changed
      · rw [List.getLastD_concat, decide_eq_true enables]
        exact flags_setEnabled options.zone _ true

theorem of_course (course : Course (options.updates scale) found words accepted) :
    FlagsLast options scale found words accepted := by
  by_cases disables : options.enabled = some 0
  · exact of_disabled disables course
  · exact of_enabled disables course

theorem nothing (found : Word) : FlagsLast options scale found [] false :=
  ⟨fun _ => nofun, fun _ earlier _ _ parts => by simp at parts, fun _ _ => rfl, nofun⟩

end FlagsLast

namespace Session

variable {σ Handle : Type} [RegisterStore σ Handle]

section

variable {session : Session Handle} {options : Options} {state : Word → σ → Prop}
  (keeps : ∀ handle, session.handles[options.socket]? = some handle →
    Keeps handle options.zone.limitRegister state)

include keeps

theorem limitZone_follows : session.Follows options.socket options.zone state
    (session.limitZone options) (options.limitUpdates session.scale) := by
  unfold limitZone Options.limitUpdates
  split
  · exact .modifyLimit keeps _ _ _
  · exact .pure

theorem configure_follows : session.Follows options.socket options.zone state
    (session.configure options) (options.updates session.scale) := by
  have limits := limitZone_follows keeps
  rw [configure_eq, Options.updates]
  cases options.disables with
  | true => exact .bind (.modifyLimit keeps _ _ _) limits
  | false => exact .bind limits (.modifyLimit keeps _ _ _)

end

/-- Whichever accesses fail, a run for settings writes to the limit register of its zone alone. On the way
to a disabled zone no word has a flag set. Otherwise the flags change with the last word at the earliest,
when the limits have been written, and a run that fails leaves them as it found them. -/
theorem flags_change_last (session : Session Handle) (options : Options) (state : Word → σ → Prop)
    (keeps : ∀ handle, session.handles[options.socket]? = some handle →
      Keeps handle options.zone.limitRegister state)
    (trial : Trial σ Handle) (found : Word) (holds : state found trial.store) (sets : options.Sets) :
    let outcome := (session.run options).run trial
    ∃ words, session.Wrote options.socket options.zone words trial outcome.store ∧
      state (words.getLastD found) outcome.store.store ∧
      FlagsLast options session.scale found words outcome.result.isOk := by
  intro outcome
  by_cases unsupported : session.zoneSupported options.socket options.zone = .ok false
  · have failed : (session.run options).effect trial =
        (trial, .error (.zoneNotSupported options.zone)) := by
      unfold run
      rw [unsupported]
      rfl
    obtain ⟨store, result⟩ := Prod.mk.inj failed
    refine ⟨[], ?_, ?_, ?_⟩
    · rw [store]
      exact .nothing trial
    · rw [store]
      exact holds
    · rw [result]
      exact .nothing found
  · have effect := session.effect_run unsupported (Options.isReadOnly_eq_false_iff.2 sets) trial
    obtain ⟨words, after, result, configured, course, wrote, settled⟩ :=
      configure_follows keeps trial found holds
    rw [configured] at effect
    obtain ⟨store, answer⟩ := Prod.mk.inj effect
    refine ⟨words, ?_, ?_, ?_⟩
    · rw [store]
      exact wrote
    · rw [store]
      exact settled
    · have same : outcome.result.isOk = result.isOk := by
        rw [answer]
        cases result <;> rfl
      rw [same]
      exact .of_course course

/-- A short term limit is written, and then the zone cannot be enabled. -/
theorem flags_change_last_pair :
    let options := { Options.standard with shortWatts := some (.ofNat 95) }
    let faults : Faults := ⟨fun _ => none, fun n => if n = 1 then some (.shortWrite 4 0x610 4) else none⟩
    let files : Memory := ⟨[⟨4, RegisterMap.empty.set 0x610 0x8042021000DD0190, [], none, 0⟩], []⟩
    let session : Session Nat := ⟨[0], pair.scale, .none⟩
    let outcome := (session.run options).run (⟨files, faults, []⟩ : Trial Memory Nat)
    outcome.result = .error (.during .enableZone (.access (.shortWrite 4 0x610 4))) ∧
      ∃ last, outcome.store.store.word? 0 0x610 = some last ∧
        flags .package last = [false, true, false, false] := by
  intro options faults files session outcome
  have failed : outcome.result = .error (.during .enableZone (.access (.shortWrite 4 0x610 4))) := rfl
  have keeps (handle : Nat) (there : session.handles[0]? = some handle) :
      Keeps handle 0x610 fun word (after : Memory) => after.word? 0 0x610 = some word ∧
        (0x610 : Word) ∉ (after.file 0).readOnly ∧
          ∀ other address, ¬ (other = 0 ∧ address = 0x610) →
            after.word? other address = files.word? other address := by
    cases Option.some.inj there
    exact Memory.cell.keeps
  obtain ⟨words, _, settled, flags⟩ := flags_change_last session options _ keeps ⟨files, faults, []⟩
    0x8042021000DD0190 ⟨by decide, by decide, fun _ _ _ => rfl⟩ (.inr (.inr (.inr (.inl rfl))))
  refine ⟨failed, _, settled.1, (flags.kept nofun ?_).trans (by decide)⟩
  rw [failed]
  rfl

end Session

end PowerLimits
