import Mathlib.Logic.Basic
import PowerLimits.Binary64.Numeral

/-! Which numerals are read as the value that is no number. Rounding never comes to it, so it has to be
named; and it alone is neither positive nor at most zero. -/
namespace PowerLimits.Binary64

/-- The letters of the name of what is no number, each in either case. -/
def SpellsNan (name : List Char) : Prop := name.map Char.toLower = ['n', 'a', 'n']

/-- The name of what is no number, after an optional sign. -/
def NamesNan (text : List Char) : Prop :=
  ∃ name, SpellsNan name ∧ text ∈ [name, '+' :: name, '-' :: name]

theorem not_le_zero_iff {x : Binary64} : x.le zero = false ↔ x.isPositive ∨ x = nan := by
  cases x with
  | nan => exact iff_of_true rfl (.inr rfl)
  | infinite negative => cases negative <;> simp [le, isPositive, lt, zero]
  | finite negative size => simp [le, isPositive, lt, zero]

theorem ofCounts_ne_nan (negative : Bool) (num den : Nat) : ofCounts negative num den ≠ nan := by
  unfold ofCounts
  split <;> nofun

theorem ofDecimal_ne_nan (digits : Nat) (exponent : Int) : ofDecimal digits exponent ≠ nan := by
  unfold ofDecimal
  split
  · nofun
  · dsimp only
    split
    · nofun
    · split
      · nofun
      · split <;> exact ofCounts_ne_nan _ _ _

theorem neg_eq_nan_iff {x : Binary64} : -x = nan ↔ x = nan := by
  cases x with
  | nan => exact iff_of_true rfl rfl
  | infinite negative => exact iff_of_false nofun nofun
  | finite negative size => exact iff_of_false nofun nofun

theorem readUnsigned_eq_nan_iff {text : List Char} : readUnsigned text = some nan ↔ SpellsNan text := by
  have named : SpellsNan text ↔
      String.ofList (text.map Char.toLower) = String.ofList ['n', 'a', 'n'] :=
    String.ofList_inj.symm
  rw [named]
  unfold readUnsigned
  split
  next other => simp [other]
  next other => simp [other]
  next same => simp [same]
  next other =>
    refine iff_of_false (fun read => ?_) other
    simp only [ite_eq_iff, Option.map_eq_some_iff] at read
    obtain ⟨_, _⟩ | ⟨_, _, _, read⟩ := read
    · contradiction
    · exact ofDecimal_ne_nan _ _ read

theorem namesNan_sign {sign : Char} {rest : List Char} (signed : sign ∈ ['+', '-']) :
    NamesNan (sign :: rest) ↔ SpellsNan rest := by
  constructor
  · rintro ⟨name, named, member⟩
    simp only [List.mem_cons, List.not_mem_nil, or_false, List.cons.injEq] at member signed
    obtain rfl | ⟨_, rfl⟩ | ⟨_, rfl⟩ := member
    -- No sign is a letter of the name.
    · obtain rfl | rfl := signed <;> exact absurd (List.cons.inj named).1 (by decide)
    · exact named
    · exact named
  · intro named
    refine ⟨rest, named, ?_⟩
    simp only [List.mem_cons, List.not_mem_nil, or_false] at signed
    obtain rfl | rfl := signed <;> simp

theorem namesNan_unsigned {text : List Char} (negative : ∀ rest, text ≠ '-' :: rest)
    (positive : ∀ rest, text ≠ '+' :: rest) : NamesNan text ↔ SpellsNan text := by
  simp only [NamesNan, List.mem_cons, List.not_mem_nil, or_false]
  constructor
  · rintro ⟨name, named, rfl | signed | signed⟩
    · exact named
    · exact absurd signed (positive name)
    · exact absurd signed (negative name)
  · exact fun named => ⟨text, named, .inl rfl⟩

theorem readNumeral_eq_nan_iff {text : List Char} : readNumeral text = .ok nan ↔ NamesNan text := by
  have accepted (value? : Option Binary64) :
      value?.elim (Except.error NumeralFault.malformed) .ok = .ok nan ↔ value? = some nan := by
    cases value? <;> simp
  unfold readNumeral
  split
  next rest =>
    simp only [reduceCtorEq, if_false, accepted, Option.map_eq_some_iff, neg_eq_nan_iff,
      exists_eq_right]
    exact readUnsigned_eq_nan_iff.trans (namesNan_sign (by decide)).symm
  next rest =>
    simp only [reduceCtorEq, if_false, accepted]
    exact readUnsigned_eq_nan_iff.trans (namesNan_sign (by decide)).symm
  next negative positive =>
    rw [namesNan_unsigned negative positive]
    by_cases empty : text = []
    · subst empty
      exact iff_of_false nofun nofun
    · rw [if_neg empty, accepted]
      exact readUnsigned_eq_nan_iff

end PowerLimits.Binary64
