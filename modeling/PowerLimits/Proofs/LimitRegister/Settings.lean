import PowerLimits.LimitRegister.Encode
import PowerLimits.Proofs.BitRange.Lens

/-! A limit register as a record of independent settings, one for each constraint. Every change of a
word is a change of the settings it is for, whatever the other settings are, and the time fraction
is a setting that nothing changes. -/
namespace PowerLimits

namespace Constraint

inductive Field where
  | power
  | enable
  | clamp
  | exponent
  | fraction
deriving DecidableEq

def range (fields : Constraint) : Field → BitRange
  | .power => fields.power
  | .enable => fields.enable
  | .clamp => fields.clamp
  | .exponent => fields.exponent
  | .fraction => fields.fraction

end Constraint

def Term.fields : Term → Constraint
  | .long => .longTerm
  | .short => .shortTerm

def DomainClass.terms : DomainClass → List Term
  | .packagePlatform => [.long, .short]
  | .powerPlane => [.long]

/-- What is given for this constraint, out of what is given for both. -/
def Term.pick {α : Type} : Term → α → α → α
  | .long, longTerm, _ => longTerm
  | .short, _, shortTerm => shortTerm

/-- The bits of a constraint that can be set; those of its time fraction cannot. -/
def Term.settable : Term → Nat → Prop
  | .long, i => i ≤ 21
  | .short, i => 32 ≤ i ∧ i ≤ 53

def DomainClass.settable : DomainClass → Nat → Prop
  | .packagePlatform, i => i ≤ 21 ∨ 32 ≤ i ∧ i ≤ 53
  | .powerPlane, i => i ≤ 21

theorem DomainClass.constraints_eq (family : DomainClass) :
    family.constraints = family.terms.map Term.fields := by
  cases family <;> rfl

theorem DomainClass.long_mem (family : DomainClass) : .long ∈ family.terms := by
  cases family <;> decide

theorem DomainClass.short_mem {family : DomainClass} (has : family.hasShortTerm) :
    .short ∈ family.terms := by
  cases family with
  | packagePlatform => decide
  | powerPlane => contradiction

/-- The limit of a constraint, where the zone has one. -/
def ZoneLimits.limit? (limits : ZoneLimits) (term : Term) : Option Limit :=
  term.pick (some limits.longTerm) limits.shortTerm

structure Setting where
  power : Nat
  enabled : Bool
  clamped : Bool
  exponent : Nat
  fraction : Nat
deriving DecidableEq

namespace LimitRegister
open BitRange

def setting (fields : Constraint) (word : Word) : Setting where
  power := ((fields.range .power).get word).toNat
  enabled := (fields.range .enable).isSet word
  clamped := (fields.range .clamp).isSet word
  exponent := ((fields.range .exponent).get word).toNat
  fraction := ((fields.range .fraction).get word).toNat

variable {zone : Zone} {scale : UnitScale} {target term : Term} {word : Word}

theorem ranges_apart {field place : Constraint.Field} (different : (target, field) ≠ (term, place)) :
    (target.fields.range field).Apart (term.fields.range place) := by
  revert different
  cases target <;> cases term <;> cases field <;> cases place <;> decide

theorem get_replace_other (different : target ≠ term) (field place : Constraint.Field) (word value : Word) :
    (term.fields.range place).get ((target.fields.range field).replace word value) =
      (term.fields.range place).get word := by
  apply get_replace_apart
  apply ranges_apart
  intro same
  exact different (Prod.mk.inj same).1

theorem get_replace_sibling {field place : Constraint.Field} (different : field ≠ place) (term : Term)
    (word value : Word) :
    (term.fields.range place).get ((term.fields.range field).replace word value) =
      (term.fields.range place).get word := by
  apply get_replace_apart
  apply ranges_apart
  intro same
  exact different (Prod.mk.inj same).2

theorem setting_replace_other (different : target ≠ term) (field : Constraint.Field) (word value : Word) :
    setting term.fields ((target.fields.range field).replace word value) =
      setting term.fields word := by
  simp only [setting, isSet, get_replace_other different]

theorem setting_replace_power (term : Term) (word : Word) {count : Nat}
    (fits : count ≤ (term.fields.range .power).largest.toNat) :
    setting term.fields ((term.fields.range .power).replace word (BitVec.ofNat 64 count)) =
      { setting term.fields word with power := count } := by
  simp (disch := decide) only [setting, isSet, toNat_get_replace_ofNat word fits, get_replace_sibling]

theorem setting_replace_exponent (term : Term) (word : Word) {exponent : Nat}
    (fits : exponent ≤ (term.fields.range .exponent).largest.toNat) :
    setting term.fields ((term.fields.range .exponent).replace word (BitVec.ofNat 64 exponent)) =
      { setting term.fields word with exponent } := by
  simp (disch := decide) only [setting, isSet, toNat_get_replace_ofNat word fits, get_replace_sibling]

theorem setting_setFlag_enable (term : Term) (word : Word) (flag : Bool) :
    setting term.fields ((term.fields.range .enable).setFlag word flag) =
      { setting term.fields word with enabled := flag } := by
  have own := isSet_setFlag (term.fields.range .enable) word flag
  simp only [setFlag, isSet] at own
  simp (disch := decide) only [setting, setFlag, isSet, own, get_replace_sibling]

theorem setting_setFlag_clamp (term : Term) (word : Word) (flag : Bool) :
    setting term.fields ((term.fields.range .clamp).setFlag word flag) =
      { setting term.fields word with clamped := flag } := by
  have own := isSet_setFlag (term.fields.range .clamp) word flag
  simp only [setFlag, isSet] at own
  simp (disch := decide) only [setting, setFlag, isSet, own, get_replace_sibling]

/-- A quantity of a limit that is not positive leaves its setting. -/
def limited (zone : Zone) (scale : UnitScale) (fields : Constraint) (limit : Limit)
    (setting : Setting) : Setting :=
  { setting with
    power :=
      if limit.watts.isPositive then powerCount scale fields limit.watts else setting.power
    exponent :=
      if limit.seconds.isPositive then
        windowExponent fields (windowLog zone scale setting.fraction limit.seconds)
      else setting.exponent }

theorem windowExponent_le (fields : Constraint) (log : Binary64.Log2) :
    windowExponent fields log ≤ fields.exponent.largest.toNat := by
  cases log with
  | undefined => exact Nat.zero_le _
  | negative => exact Nat.zero_le _
  | whole part => exact Nat.min_le_right _ _
  | unbounded => exact Nat.le_refl _

theorem setting_encodePower (scale : UnitScale) (term : Term) (word : Word) (watts : Binary64) :
    setting term.fields (encodePower scale term.fields word watts) =
      { setting term.fields word with power := powerCount scale term.fields watts } :=
  setting_replace_power term word (Nat.min_le_right _ _)

theorem setting_encodeWindow (zone : Zone) (scale : UnitScale) (term : Term) (word : Word)
    (seconds : Binary64) :
    setting term.fields (encodeWindow zone scale term.fields word seconds) =
      { setting term.fields word with
        exponent := windowExponent term.fields
          (windowLog zone scale (setting term.fields word).fraction seconds) } :=
  setting_replace_exponent term word (windowExponent_le _ _)

theorem setting_encodeConstraint (zone : Zone) (scale : UnitScale) (term : Term) (word : Word)
    (limit : Limit) :
    setting term.fields (encodeConstraint zone scale term.fields word limit) =
      limited zone scale term.fields limit (setting term.fields word) := by
  simp only [encodeConstraint, limited]
  split
  · split
    · rw [setting_encodeWindow, setting_encodePower]
    · rw [setting_encodeWindow]
  · split
    · rw [setting_encodePower]
    · rfl

/-- What replacing the power and the exponent keeps, encoding a limit keeps. -/
theorem encodeConstraint_induct {fields : Constraint} (kept : Word → Prop)
    (power : ∀ word watts, kept word → kept (encodePower scale fields word watts))
    (window : ∀ word seconds, kept word → kept (encodeWindow zone scale fields word seconds))
    (initial : kept word) (limit : Limit) : kept (encodeConstraint zone scale fields word limit) := by
  simp only [encodeConstraint]
  split
  · split
    · exact window _ _ (power _ _ initial)
    · exact window _ _ initial
  · split
    · exact power _ _ initial
    · exact initial

theorem setting_encodeConstraint_other (different : target ≠ term) (zone : Zone)
    (scale : UnitScale) (word : Word) (limit : Limit) :
    setting term.fields (encodeConstraint zone scale target.fields word limit) =
      setting term.fields word := by
  apply encodeConstraint_induct fun next => setting term.fields next = setting term.fields word
  · intro next watts same
    exact (setting_replace_other different .power next _).trans same
  · intro next seconds same
    exact (setting_replace_other different .exponent next _).trans same
  · rfl

theorem setting_given (zone : Zone) (scale : UnitScale) (term : Term) (word : Word)
    (given : Option Limit) :
    setting term.fields (given.elim word (encodeConstraint zone scale term.fields word)) =
      given.elim (setting term.fields word)
        (limited zone scale term.fields · (setting term.fields word)) := by
  cases given with
  | none => rfl
  | some limit => exact setting_encodeConstraint zone scale term word limit

theorem setting_given_other (different : target ≠ term) (zone : Zone) (scale : UnitScale)
    (word : Word) (given : Option Limit) :
    setting term.fields (given.elim word (encodeConstraint zone scale target.fields word)) =
      setting term.fields word := by
  cases given with
  | none => rfl
  | some limit => exact setting_encodeConstraint_other different zone scale word limit

theorem not_refused {shortTerm : Option Limit}
    (allowed : shortTerm.isSome → zone.domainClass.hasShortTerm) :
    (shortTerm.isSome && !zone.domainClass.hasShortTerm) = false := by
  cases given : shortTerm.isSome with
  | false => rfl
  | true =>
    rw [allowed given]
    rfl

theorem exists_encode {longTerm shortTerm : Option Limit}
    (allowed : shortTerm.isSome → zone.domainClass.hasShortTerm) :
    ∃ after, encode zone scale word longTerm shortTerm = .ok after := by
  rw [encode, not_refused allowed]
  exact ⟨_, rfl⟩

/-- A constraint for which a limit can be set has one that can be read. -/
theorem limit?_decodeLimits {longTerm shortTerm : Option Limit} {limit : Limit}
    (allowed : shortTerm.isSome → zone.domainClass.hasShortTerm)
    (given : term.pick longTerm shortTerm = some limit) (word : Word) :
    (decodeLimits zone scale word).limit? term =
      some (decodeConstraint zone scale term.fields word) := by
  cases term with
  | long => rfl
  | short =>
    have present : shortTerm = some limit := given
    exact if_pos (allowed (present ▸ rfl))

theorem encode_ok {longTerm shortTerm : Option Limit} {after : Word}
    (encoded : encode zone scale word longTerm shortTerm = .ok after) :
    (shortTerm.isSome → zone.domainClass.hasShortTerm) ∧
      after = shortTerm.elim (longTerm.elim word (encodeConstraint zone scale Term.long.fields word))
        (encodeConstraint zone scale Term.short.fields
          (longTerm.elim word (encodeConstraint zone scale Term.long.fields word))) := by
  unfold encode at encoded
  split at encoded
  next refused => contradiction
  next accepted =>
    cases Except.ok.inj encoded
    refine ⟨?_, rfl⟩
    intro given
    simpa [given] using accepted

theorem encode_error {longTerm shortTerm : Option Limit} {fault : ArgumentFault}
    (refused : encode zone scale word longTerm shortTerm = .error fault) :
    fault = .noShortTerm zone := by
  unfold encode at refused
  split at refused
  · exact (Except.error.inj refused).symm
  · contradiction

theorem setting_encode {longTerm shortTerm : Option Limit} {after : Word}
    (encoded : encode zone scale word longTerm shortTerm = .ok after) (term : Term) :
    setting term.fields after =
      (term.pick longTerm shortTerm).elim (setting term.fields word)
        (limited zone scale term.fields · (setting term.fields word)) := by
  obtain ⟨_, rfl⟩ := encode_ok encoded
  cases term with
  | long =>
    have different : Term.short ≠ Term.long := nofun
    rw [setting_given_other different, setting_given, Term.pick]
  | short =>
    have different : Term.long ≠ Term.short := nofun
    rw [setting_given, setting_given_other different, Term.pick]

/-- A change of every constraint that a class has, each of which leaves the other one. -/
theorem setting_foldl_constraints {change : Word → Constraint → Word} (effect : Setting → Setting)
    (own : ∀ (term : Term) (word : Word),
      setting term.fields (change word term.fields) = effect (setting term.fields word))
    (other : ∀ (target term : Term) (word : Word), target ≠ term →
      setting term.fields (change word target.fields) = setting term.fields word)
    (family : DomainClass) (member : term ∈ family.terms) (word : Word) :
    setting term.fields (family.constraints.foldl change word) =
      effect (setting term.fields word) := by
  cases family with
  | packagePlatform =>
    cases term with
    | long => exact (other .short .long _ nofun).trans (own .long word)
    | short => exact (own .short _).trans (congrArg effect (other .long .short word nofun))
  | powerPlane =>
    cases List.mem_singleton.1 member
    exact own .long word

theorem setting_setEnabled (zone : Zone) (member : term ∈ zone.domainClass.terms) (word : Word)
    (enabled : Bool) :
    setting term.fields (setEnabled zone word enabled) =
      { setting term.fields word with enabled, clamped := enabled } := by
  refine setting_foldl_constraints (fun setting => { setting with enabled, clamped := enabled })
    ?_ ?_ zone.domainClass member word
  · intro term word
    refine (setting_setFlag_clamp term _ enabled).trans ?_
    exact congrArg (fun setting : Setting => { setting with clamped := enabled })
      (setting_setFlag_enable term word enabled)
  · intro target term word different
    exact (setting_replace_other different .clamp _ _).trans
      (setting_replace_other different .enable word _)

theorem setting_setClamped (zone : Zone) (member : term ∈ zone.domainClass.terms) (word : Word)
    (clamped : Bool) :
    setting term.fields (setClamped zone word clamped) =
      { setting term.fields word with clamped } := by
  refine setting_foldl_constraints (fun setting => { setting with clamped })
    ?_ ?_ zone.domainClass member word
  · intro term word
    exact setting_setFlag_clamp term word clamped
  · intro target term word different
    exact setting_replace_other different .clamp word _

/-! The bits that a change can reach. -/

theorem settable_of_range {field : Constraint.Field} (movable : field ≠ .fraction) (term : Term)
    (i : Nat) (low : (term.fields.range field).lo ≤ i) (high : i ≤ (term.fields.range field).hi) :
    term.settable i := by
  cases field with
  | fraction => contradiction
  | power | enable | clamp | exponent =>
    cases term <;>
      simp only [Term.fields, Constraint.range, Constraint.longTerm, Constraint.shortTerm,
        Term.settable] at *
    all_goals omega

theorem settable_of_term {family : DomainClass} (member : term ∈ family.terms) (i : Nat)
    (inside : term.settable i) : family.settable i := by
  cases family with
  | packagePlatform =>
    cases term with
    | long => exact .inl inside
    | short => exact .inr inside
  | powerPlane =>
    cases List.mem_singleton.1 member
    exact inside

theorem agreeOutside_replace_range (term : Term) (field : Constraint.Field)
    (movable : field ≠ .fraction) (word value : Word) :
    AgreeOutside term.settable word ((term.fields.range field).replace word value) :=
  agreeOutside_replace (settable_of_range movable term) word value

theorem agreeOutside_given (zone : Zone) (scale : UnitScale) (term : Term) (word : Word)
    (given : Option Limit) :
    AgreeOutside term.settable word
      (given.elim word (encodeConstraint zone scale term.fields word)) := by
  cases given with
  | none => exact .refl _ _
  | some limit =>
    rw [Option.elim_some]
    apply encodeConstraint_induct (AgreeOutside term.settable word)
    · intro next watts agree
      exact agree.trans (agreeOutside_replace_range term .power nofun next _)
    · intro next seconds agree
      exact agree.trans (agreeOutside_replace_range term .exponent nofun next _)
    · exact .refl _ _

theorem agreeOutside_foldl_constraints {change : Word → Constraint → Word}
    (own : ∀ (term : Term) (word : Word),
      AgreeOutside term.settable word (change word term.fields))
    (family : DomainClass) (word : Word) :
    AgreeOutside family.settable word (family.constraints.foldl change word) := by
  cases family with
  | packagePlatform =>
    exact ((own .long word).weaken fun _ => .inl).trans ((own .short _).weaken fun _ => .inr)
  | powerPlane => exact own .long word

theorem agreeOutside_setEnabled (zone : Zone) (word : Word) (enabled : Bool) :
    AgreeOutside zone.domainClass.settable word (setEnabled zone word enabled) := by
  apply agreeOutside_foldl_constraints
  intro term word
  have enable := agreeOutside_replace_range term .enable nofun word
  have clamp := agreeOutside_replace_range term .clamp nofun
  exact (enable _).trans (clamp _ _)

theorem agreeOutside_setClamped (zone : Zone) (word : Word) (clamped : Bool) :
    AgreeOutside zone.domainClass.settable word (setClamped zone word clamped) := by
  apply agreeOutside_foldl_constraints
  intro term word
  exact agreeOutside_replace_range term .clamp nofun word _

theorem agreeOutside_encode {longTerm shortTerm : Option Limit} {after : Word}
    (encoded : encode zone scale word longTerm shortTerm = .ok after) :
    AgreeOutside zone.domainClass.settable word after := by
  obtain ⟨allowed, rfl⟩ := encode_ok encoded
  have first := agreeOutside_given zone scale .long word longTerm
  have second := agreeOutside_given zone scale .short
    (longTerm.elim word (encodeConstraint zone scale Term.long.fields word)) shortTerm
  have reached := first.weaken (settable_of_term zone.domainClass.long_mem)
  cases shortTerm with
  | none => exact reached
  | some limit =>
    exact reached.trans (second.weaken (settable_of_term (DomainClass.short_mem (allowed rfl))))

end LimitRegister

end PowerLimits
