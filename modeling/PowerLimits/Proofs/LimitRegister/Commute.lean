import PowerLimits.Proofs.LimitRegister.Settings

/-! Flags and limits are set in either order with the same word. A flag shares no bit with a power or a
time window, nor with the fraction that a time window is encoded for. -/
namespace PowerLimits

/-- The fields that are switched and not given a quantity. -/
def Constraint.Field.IsFlag (field : Constraint.Field) : Prop := field = .enable ∨ field = .clamp

namespace LimitRegister
open BitRange Constraint.Field

variable {field : Constraint.Field} {target term : Term} {zone : Zone} {scale : UnitScale}

theorem flag_apart (switches : field.IsFlag) (place : Constraint.Field) (quantity : ¬ place.IsFlag)
    (target term : Term) : (term.fields.range place).Apart (target.fields.range field) := by
  apply ranges_apart
  intro same
  exact quantity ((Prod.mk.inj same).2 ▸ switches)

theorem encodePower_replace (switches : field.IsFlag) (word value : Word) (watts : Binary64) :
    encodePower scale term.fields ((target.fields.range field).replace word value) watts =
      (target.fields.range field).replace (encodePower scale term.fields word watts) value := by
  have apart := flag_apart switches .power (by simp [IsFlag]) target term
  exact replace_comm apart ..

theorem encodeWindow_replace (switches : field.IsFlag) (word value : Word) (seconds : Binary64) :
    encodeWindow zone scale term.fields ((target.fields.range field).replace word value) seconds =
      (target.fields.range field).replace (encodeWindow zone scale term.fields word seconds) value := by
  have apart := flag_apart switches .exponent (by simp [IsFlag]) target term
  have fraction := flag_apart switches .fraction (by simp [IsFlag]) target term
  have same : fractionOf term.fields ((target.fields.range field).replace word value) =
      fractionOf term.fields word :=
    congrArg BitVec.toNat (get_replace_apart fraction.symm word value)
  simp only [encodeWindow, same]
  exact replace_comm apart ..

theorem encodeConstraint_setFlag (switches : field.IsFlag) (zone : Zone) (scale : UnitScale)
    (target term : Term) (word : Word) (flag : Bool) (limit : Limit) :
    encodeConstraint zone scale term.fields ((target.fields.range field).setFlag word flag) limit =
      (target.fields.range field).setFlag (encodeConstraint zone scale term.fields word limit) flag := by
  simp only [encodeConstraint, setFlag]
  split
  · split
    · rw [encodePower_replace switches, encodeWindow_replace switches]
    · rw [encodeWindow_replace switches]
  · split
    · rw [encodePower_replace switches]
    · rfl

/-- The word with both flags of one constraint set. -/
def enableTerm (term : Term) (word : Word) (enabled : Bool) : Word :=
  term.fields.clamp.setFlag (term.fields.enable.setFlag word enabled) enabled

theorem encodeConstraint_enableTerm (zone : Zone) (scale : UnitScale) (target term : Term) (word : Word)
    (enabled : Bool) (limit : Limit) :
    encodeConstraint zone scale term.fields (enableTerm target word enabled) limit =
      enableTerm target (encodeConstraint zone scale term.fields word limit) enabled := by
  have clamp := encodeConstraint_setFlag (.inr rfl : Constraint.Field.clamp.IsFlag) zone scale target
    term (target.fields.enable.setFlag word enabled) enabled limit
  have enable := encodeConstraint_setFlag (.inl rfl : Constraint.Field.enable.IsFlag) zone scale target
    term word enabled limit
  simp only [Constraint.range] at clamp enable
  rw [enableTerm, enableTerm, clamp, enable]

theorem encodeConstraint_setEnabled (zone : Zone) (scale : UnitScale) (term : Term) (word : Word)
    (enabled : Bool) (limit : Limit) :
    encodeConstraint zone scale term.fields (setEnabled zone word enabled) limit =
      setEnabled zone (encodeConstraint zone scale term.fields word limit) enabled := by
  have each (target : Term) (word : Word) :=
    encodeConstraint_enableTerm zone scale target term word enabled limit
  cases family : zone.domainClass with
  | packagePlatform =>
    have effect (word : Word) : setEnabled zone word enabled =
        enableTerm .short (enableTerm .long word enabled) enabled := by
      rw [setEnabled, family]
      rfl
    rw [effect, effect, each .short, each .long]
  | powerPlane =>
    have effect (word : Word) : setEnabled zone word enabled = enableTerm .long word enabled := by
      rw [setEnabled, family]
      rfl
    rw [effect, effect, each .long]

theorem encode_setEnabled (zone : Zone) (scale : UnitScale) (word : Word) (enabled : Bool)
    (longTerm shortTerm : Option Limit) :
    encode zone scale (setEnabled zone word enabled) longTerm shortTerm =
      (encode zone scale word longTerm shortTerm).map (setEnabled zone · enabled) := by
  have given (term : Term) (limit : Option Limit) (word : Word) :
      limit.elim (setEnabled zone word enabled) (encodeConstraint zone scale term.fields
          (setEnabled zone word enabled)) =
        setEnabled zone (limit.elim word (encodeConstraint zone scale term.fields word)) enabled := by
    cases limit with
    | none => rfl
    | some limit => exact encodeConstraint_setEnabled zone scale term word enabled limit
  unfold encode
  split
  · rfl
  · have long := given .long longTerm word
    have short := given .short shortTerm
    simp only [Term.fields] at long short
    dsimp only
    rw [long, short]
    rfl

end LimitRegister

end PowerLimits
