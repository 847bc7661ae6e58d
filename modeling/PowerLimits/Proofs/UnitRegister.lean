import PowerLimits.Proofs.BitRange.Lens
import PowerLimits.UnitRegister

/-! Unit registers and their words. Exponents come back from the word made of them cut to their fields, so
those that pass the check are the ones that come back whole; and a word comes back from its exponents
with every bit cleared that belongs to none of them. -/
namespace PowerLimits.UnitRegister
open BitRange

variable {units : UnitRegister}

/-- The bits that belong to an exponent. -/
def FieldBit (i : Nat) : Prop := i ≤ 3 ∨ (8 ≤ i ∧ i ≤ 12) ∨ (16 ≤ i ∧ i ≤ 19)

instance (i : Nat) : Decidable (FieldBit i) := inferInstanceAs (Decidable (_ ∨ _))

theorem validate_eq_ok_iff :
    units.validate = .ok () ↔ units.power ≤ 15 ∧ units.energy ≤ 31 ∧ units.time ≤ 15 := by
  have power : powerField.largest.toNat = 15 := rfl
  have energy : energyField.largest.toNat = 31 := rfl
  have time : timeField.largest.toNat = 15 := rfl
  unfold validate
  rw [power, energy, time]
  split
  next wide => exact iff_of_false nofun (by omega)
  next =>
    split
    next wide => exact iff_of_false nofun (by omega)
    next =>
      split
      next wide => exact iff_of_false nofun (by omega)
      next => exact iff_of_true rfl (by omega)

theorem ofWord_toWord (units : UnitRegister) :
    ofWord units.toWord = ⟨units.power % 16, units.energy % 32, units.time % 16⟩ := by
  have power : powerField.get units.toWord =
      powerField.get (powerField.replace 0 (BitVec.ofNat 64 units.power)) := by
    rw [toWord, get_replace_apart (by decide), get_replace_apart (by decide)]
  have energy (word : Word) : energyField.get
      (timeField.replace (energyField.replace word (BitVec.ofNat 64 units.energy))
        (BitVec.ofNat 64 units.time)) =
      energyField.get (energyField.replace word (BitVec.ofNat 64 units.energy)) :=
    get_replace_apart (by decide) _ _
  rw [ofWord, power, toWord, energy, toNat_get_replace_mod, toNat_get_replace_mod,
    toNat_get_replace_mod]
  rfl

theorem ofWord_toWord_eq_iff : ofWord units.toWord = units ↔ units.validate = .ok () := by
  rw [ofWord_toWord, validate_eq_ok_iff]
  obtain ⟨power, energy, time⟩ := units
  simp only [mk.injEq]
  omega

theorem getLsbD_toWord_of_not {i : Nat} (outside : ¬ FieldBit i) : units.toWord.getLsbD i = false := by
  unfold FieldBit at outside
  simp only [toWord, getLsbD_replace, powerField, energyField, timeField]
  rw [if_neg (by omega), if_neg (by omega), if_neg (by omega)]
  exact BitVec.getLsbD_zero

theorem validate_ofWord (word : Word) : (ofWord word).validate = .ok () :=
  validate_eq_ok_iff.2 ⟨toNat_get_le powerField word, toNat_get_le energyField word,
    toNat_get_le timeField word⟩

theorem getLsbD_toWord_ofWord (word : Word) (i : Nat) :
    (toWord (ofWord word)).getLsbD i = (decide (FieldBit i) && word.getLsbD i) := by
  simp only [toWord, ofWord, BitVec.ofNat_toNat, BitVec.setWidth_eq, getLsbD_replace_get, FieldBit,
    powerField, energyField, timeField]
  grind

/-- Exponents come back from their word where they pass the check, and cut to their fields in any case;
the word has no bit outside those. What comes from a word passes the check, and leads back to the bits of
that word that belong to an exponent. -/
theorem survives_iff_valid :
    (∀ units : UnitRegister,
      (ofWord units.toWord = units ↔ units.validate = .ok ()) ∧
      (∀ i, ¬ FieldBit i → units.toWord.getLsbD i = false) ∧
      ofWord units.toWord = ⟨units.power % 16, units.energy % 32, units.time % 16⟩) ∧
    ∀ word : Word, (ofWord word).validate = .ok () ∧
      ∀ i, (toWord (ofWord word)).getLsbD i = (decide (FieldBit i) && word.getLsbD i) :=
  ⟨fun units => ⟨ofWord_toWord_eq_iff, fun _ => getLsbD_toWord_of_not, ofWord_toWord units⟩,
    fun word => ⟨validate_ofWord word, getLsbD_toWord_ofWord word⟩⟩

/-- Energy and time too large for their fields, and reserved bits that do not come back. -/
theorem survives_iff_valid_oversized :
    (⟨3, 63, 255⟩ : UnitRegister).toWord = 0xF1F03 ∧
      ofWord (⟨3, 63, 255⟩ : UnitRegister).toWord = ⟨3, 31, 15⟩ ∧
      ¬ FieldBit 13 ∧ (⟨3, 63, 255⟩ : UnitRegister).toWord.getLsbD 13 = false ∧
      (toWord (ofWord 0xFFFFFFF0FFF0E0F3)).getLsbD 13 = false := by
  obtain ⟨written, read⟩ := survives_iff_valid
  obtain ⟨_, bits, cut⟩ := written ⟨3, 63, 255⟩
  obtain ⟨_, kept⟩ := read 0xFFFFFFF0FFF0E0F3
  exact ⟨by decide, cut, by decide, bits 13 (by decide), kept 13⟩

end PowerLimits.UnitRegister
