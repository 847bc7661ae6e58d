import PowerLimits.Configuration
import PowerLimits.Proofs.Text.Integer

/-! What the environment variable has to hold for a session to ask for read access alone: an integer that
is not zero and fits 64 bits, with blanks around it or not. One that does not fit is as good as no integer
at all, and then devices are opened for writing as well. -/
namespace PowerLimits.Configuration

/-- The text is that of an integer but for the blanks around it. -/
def Padded (text : List Char) (n : Int) : Prop :=
  ∃ before core after, text = before ++ core ++ after ∧ (∀ c ∈ before, Text.isBlank c) ∧
    (∀ c ∈ after, Text.isBlank c) ∧ Text.Denotes core n

theorem padded_iff {text : List Char} {n : Int} : Padded text n ↔ Text.Denotes (Text.trim text) n := by
  constructor
  · rintro ⟨before, core, after, rfl, leading, trailing, denotes⟩
    rw [Text.trim_eq_of_blanks leading trailing denotes.not_blank denotes.ne_nil]
    exact denotes
  · intro denotes
    obtain ⟨before, after, whole, leading, trailing⟩ := Text.exists_trim text
    exact ⟨before, _, after, whole, leading, trailing, denotes⟩

theorem readInt_trim_eq_ok_iff {bound : Nat} (positive : 0 < bound) {text : List Char} {n : Int} :
    Text.readInt bound (Text.trim text) = .ok n ↔ Padded text n ∧ -(bound : Int) ≤ n ∧ n < bound := by
  rw [padded_iff]
  exact Text.readInt_eq_ok_iff positive

theorem asksReadOnly_iff {value : String} :
    asksReadOnly value ↔ ∃ n, Padded value.toList n ∧ n ≠ 0 ∧ -2 ^ 63 ≤ n ∧ n < 2 ^ 63 := by
  have read_iff {n : Int} : Text.readInt Text.signedLimit (Text.trim value.toList) = .ok n ↔
      Padded value.toList n ∧ -2 ^ 63 ≤ n ∧ n < 2 ^ 63 :=
    readInt_trim_eq_ok_iff (by decide)
  unfold asksReadOnly
  split
  next n read =>
    obtain ⟨padded, fits⟩ := read_iff.1 read
    rw [decide_eq_true_eq]
    constructor
    · exact fun nonzero => ⟨n, padded, nonzero, fits⟩
    · rintro ⟨m, same, nonzero, _⟩
      exact (padded_iff.1 same).unique (padded_iff.1 padded) ▸ nonzero
  next fault unread =>
    refine iff_of_false nofun ?_
    rintro ⟨m, padded, _, fits⟩
    exact nomatch unread.symm.trans (read_iff.2 ⟨padded, fits⟩)

/-- Read access alone is asked for by the integers but zero that fit 64 bits, and by nothing else, whether
it is another integer or none. -/
theorem read_only_iff (value : String) :
    ((ofVariable (some value)).readOnly ↔
      ∃ n, Padded value.toList n ∧ n ≠ 0 ∧ -2 ^ 63 ≤ n ∧ n < 2 ^ 63) ∧
    ∀ n, Padded value.toList n → n < -2 ^ 63 ∨ 2 ^ 63 ≤ n →
      ¬ (ofVariable (some value)).readOnly := by
  refine ⟨asksReadOnly_iff, ?_⟩
  intro n padded large asks
  obtain ⟨m, fits, _, low, high⟩ := asksReadOnly_iff.1 asks
  have same := (padded_iff.1 padded).unique (padded_iff.1 fits)
  omega

theorem read_only_iff_signed :
    (ofVariable (some " +007\n")).readOnly ∧
      ¬ (ofVariable (some "-0009223372036854775809")).readOnly := by
  have bound : 0 < 0x10000000000000000 := by decide
  have seven : Padded " +007\n".toList 7 := ((readInt_trim_eq_ok_iff bound).1 rfl).1
  have large : Padded "-0009223372036854775809".toList (-9223372036854775809) :=
    ((readInt_trim_eq_ok_iff bound).1 rfl).1
  exact ⟨(read_only_iff _).1.2 ⟨7, seven, by decide⟩, (read_only_iff _).2 _ large (.inl (by decide))⟩

/-- An integer that is just too large for 64 bits is taken for none. -/
theorem large_integer_writes :
    Padded "9223372036854775808".toList 9223372036854775808 ∧
      (ofVariable (some "9223372036854775808")).readOnly = false := by
  have bound : 0 < 0x10000000000000000 := by decide
  exact ⟨((readInt_trim_eq_ok_iff bound).1 rfl).1, rfl⟩

end PowerLimits.Configuration
