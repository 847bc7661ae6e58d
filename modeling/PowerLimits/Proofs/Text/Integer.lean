import Mathlib.Data.Nat.Digits.Defs
import Mathlib.Tactic.Ring
import PowerLimits.Text.Blank
import PowerLimits.Text.Integer

/-! Texts of decimal integers, of any length, and which of them are read. The value is that of the digits
without a bound; a bound only decides whether the text is read. -/
namespace PowerLimits.Text

def digit (c : Char) : Nat := c.toNat - '0'.toNat

/-- The number whose decimal digits these are, the first of them the most significant. -/
def number (digits : List Char) : Nat := Nat.ofDigits 10 (digits.map digit).reverse

/-- An optional sign, then one ASCII digit or more. -/
inductive Denotes : List Char → Int → Prop where
  | unsigned {digits : List Char} (nonempty : digits ≠ []) (each : ∀ c ∈ digits, c.isDigit) :
      Denotes digits (number digits)
  | positive {digits : List Char} (nonempty : digits ≠ []) (each : ∀ c ∈ digits, c.isDigit) :
      Denotes ('+' :: digits) (number digits)
  | negative {digits : List Char} (nonempty : digits ≠ []) (each : ∀ c ∈ digits, c.isDigit) :
      Denotes ('-' :: digits) (-number digits)

section

variable {bound value : Nat} {beyond : IntegerFault} {text digits core before after : List Char}

theorem number_cons (c : Char) (rest : List Char) :
    number (c :: rest) = digit c * 10 ^ rest.length + number rest := by
  rw [number, List.map_cons, Nat.ofDigits_reverse_cons, List.length_map, number]
  ring

theorem readDigits_eq_ok_iff {n : Nat} : readDigits bound beyond value digits = .ok n ↔
    (∀ c ∈ digits, c.isDigit) ∧ n = value * 10 ^ digits.length + number digits ∧
      (digits ≠ [] → n < bound) := by
  induction digits generalizing value with
  | nil =>
    have itself : value * 10 ^ ([] : List Char).length + number [] = value := by simp [number]
    rw [readDigits, Except.ok.injEq, itself]
    exact ⟨fun same => ⟨nofun, same.symm, absurd rfl⟩, fun read => read.2.1.symm⟩
  | cons c rest ih =>
    have whole : (10 * value + digit c) * 10 ^ rest.length + number rest =
        value * 10 ^ (c :: rest).length + number (c :: rest) := by
      rw [number_cons, List.length_cons]
      ring
    -- The value never falls, so that the last digit decides about the bound for all.
    have grows : 10 * value + digit c ≤ value * 10 ^ (c :: rest).length + number (c :: rest) := by
      rw [← whole]
      exact (Nat.le_mul_of_pos_right _ (by positivity)).trans (Nat.le_add_right _ _)
    rw [readDigits, List.forall_mem_cons]
    split
    next decimal =>
      dsimp only
      rw [← digit]
      split
      next small =>
        rw [ih, whole]
        constructor
        · rintro ⟨each, same, below⟩
          refine ⟨⟨decimal, each⟩, same, fun _ => ?_⟩
          cases rest with
          | nil =>
            rw [← whole] at same
            simpa [same, number] using small
          | cons d others => exact below nofun
        · rintro ⟨⟨_, each⟩, same, below⟩
          exact ⟨each, same, fun _ => below nofun⟩
      next large =>
        refine iff_of_false nofun ?_
        rintro ⟨_, rfl, below⟩
        exact large (grows.trans_lt (below nofun))
    next other => exact iff_of_false nofun fun read => other read.1.1

theorem readInt_unsigned (nonempty : digits ≠ []) (each : ∀ c ∈ digits, c.isDigit) :
    readInt bound digits = (readDigits bound .tooLarge 0 digits).map Int.ofNat := by
  unfold readInt
  split
  · contradiction
  · exact absurd (each '+' (by simp)) (by decide)
  · exact absurd (each '-' (by simp)) (by decide)
  · exact absurd (each '-' (by simp)) (by decide)
  · exact absurd (each '+' (by simp)) (by decide)
  · rfl

theorem readInt_positive (nonempty : digits ≠ []) :
    readInt bound ('+' :: digits) = (readDigits bound .tooLarge 0 digits).map Int.ofNat := by
  cases digits with
  | nil => contradiction
  | cons c rest => rfl

theorem readInt_negative (nonempty : digits ≠ []) : readInt bound ('-' :: digits) =
    (readDigits (bound + 1) .tooSmall 0 digits).map fun n : Nat => -(n : Int) := by
  cases digits with
  | nil => contradiction
  | cons c rest =>
    simp only [readInt]
    cases readDigits (bound + 1) .tooSmall 0 (c :: rest) <;> rfl

theorem map_readDigits_eq_ok_iff {sign : Nat → Int} {n : Int} :
    (readDigits bound beyond 0 digits).map sign = .ok n ↔
      (∀ c ∈ digits, c.isDigit) ∧ n = sign (number digits) ∧ (digits ≠ [] → number digits < bound) := by
  have read_iff {m : Nat} : readDigits bound beyond 0 digits = .ok m ↔
      (∀ c ∈ digits, c.isDigit) ∧ m = number digits ∧ (digits ≠ [] → m < bound) := by
    rw [readDigits_eq_ok_iff, Nat.zero_mul, Nat.zero_add]
  constructor
  · intro read
    cases done : readDigits bound beyond 0 digits with
    | error fault =>
      rw [done] at read
      contradiction
    | ok m =>
      obtain ⟨each, rfl, below⟩ := read_iff.1 done
      rw [done] at read
      exact ⟨each, (Except.ok.inj read).symm, below⟩
  · rintro ⟨each, rfl, below⟩
    rw [read_iff.2 ⟨each, rfl, below⟩]
    rfl

theorem readInt_eq_ok_iff (positive : 0 < bound) {n : Int} :
    readInt bound text = .ok n ↔ Denotes text n ∧ -(bound : Int) ≤ n ∧ n < bound := by
  constructor
  · intro read
    have whole := read
    unfold readInt at read
    split at read
    · contradiction
    · contradiction
    · contradiction
    next digits nonempty =>
      rw [readInt_negative nonempty] at whole
      obtain ⟨each, rfl, below⟩ := map_readDigits_eq_ok_iff.1 whole
      have below := below nonempty
      exact ⟨.negative nonempty each, by omega, by omega⟩
    next digits nonempty =>
      obtain ⟨each, rfl, below⟩ := map_readDigits_eq_ok_iff.1 read
      have below := below nonempty
      exact ⟨.positive nonempty each, by simp, by simpa using below⟩
    next nonempty _ _ _ _ =>
      obtain ⟨each, rfl, below⟩ := map_readDigits_eq_ok_iff.1 read
      have below := below nonempty
      exact ⟨.unsigned nonempty each, by simp, by simpa using below⟩
  · rintro ⟨denotes, low, high⟩
    cases denotes with
    | unsigned nonempty each =>
      rw [readInt_unsigned nonempty each, map_readDigits_eq_ok_iff]
      exact ⟨each, rfl, fun _ => by omega⟩
    | positive nonempty each =>
      rw [readInt_positive nonempty, map_readDigits_eq_ok_iff]
      exact ⟨each, rfl, fun _ => by omega⟩
    | negative nonempty each =>
      rw [readInt_negative nonempty, map_readDigits_eq_ok_iff]
      exact ⟨each, rfl, fun _ => by omega⟩

theorem Denotes.unique {n m : Int} (left : Denotes text n) (right : Denotes text m) : n = m := by
  -- With a bound that is large enough for both, the text is read as either.
  have positive : 0 < n.natAbs + m.natAbs + 1 := by omega
  have first := (readInt_eq_ok_iff positive).2 ⟨left, by omega, by omega⟩
  have second := (readInt_eq_ok_iff positive).2 ⟨right, by omega, by omega⟩
  exact Except.ok.inj (first.symm.trans second)

theorem isBlank_eq_false {c : Char} (part : c = '+' ∨ c = '-' ∨ c.isDigit) : isBlank c = false := by
  obtain rfl | rfl | decimal := part
  · decide
  · decide
  · obtain ⟨low, high⟩ : 48 ≤ c.toNat ∧ c.toNat ≤ 57 := Char.isDigit_iff_toNat.1 decimal
    simp only [isBlank, Bool.or_eq_false_iff, Bool.and_eq_false_iff, decide_eq_false_iff_not,
      beq_eq_false_iff_ne]
    omega

theorem Denotes.not_blank {n : Int} (denotes : Denotes text n) : ∀ c ∈ text, isBlank c = false := by
  intro c member
  apply isBlank_eq_false
  cases denotes with
  | unsigned _ each => exact .inr (.inr (each c member))
  | positive _ each =>
    obtain rfl | member := List.mem_cons.1 member
    · exact .inl rfl
    · exact .inr (.inr (each c member))
  | negative _ each =>
    obtain rfl | member := List.mem_cons.1 member
    · exact .inr (.inl rfl)
    · exact .inr (.inr (each c member))

theorem Denotes.ne_nil {n : Int} (denotes : Denotes text n) : text ≠ [] := by
  cases denotes with
  | unsigned nonempty _ => exact nonempty
  | positive => nofun
  | negative => nofun

theorem dropWhile_blanks (blanks : ∀ c ∈ before, isBlank c) (clean : ∀ c ∈ core, isBlank c = false)
    (nonempty : core ≠ []) : (before ++ core ++ after).dropWhile isBlank = core ++ after := by
  cases core with
  | nil => exact absurd rfl nonempty
  | cons c rest =>
    have first : ¬ isBlank c = true := Bool.eq_false_iff.1 (clean c List.mem_cons_self)
    rw [List.append_assoc, List.dropWhile_append_of_pos blanks, List.cons_append,
      List.dropWhile_cons_of_neg first]

theorem trim_eq_of_blanks (leading : ∀ c ∈ before, isBlank c) (trailing : ∀ c ∈ after, isBlank c)
    (clean : ∀ c ∈ core, isBlank c = false) (nonempty : core ≠ []) :
    trim (before ++ core ++ after) = core := by
  have back : (after.reverse ++ core.reverse ++ []).dropWhile isBlank = core.reverse ++ [] :=
    dropWhile_blanks (by simpa using trailing) (by simpa using clean) (by simpa using nonempty)
  rw [List.append_nil, List.append_nil, ← List.reverse_append] at back
  rw [trim, dropWhile_blanks leading clean nonempty, back, List.reverse_reverse]

theorem exists_trim (text : List Char) : ∃ before after, text = before ++ trim text ++ after ∧
    (∀ c ∈ before, isBlank c) ∧ ∀ c ∈ after, isBlank c := by
  let rest := text.dropWhile isBlank
  refine ⟨text.takeWhile isBlank, (rest.reverse.takeWhile isBlank).reverse, ?_, ?_, ?_⟩
  · rw [trim, List.append_assoc, ← List.reverse_append, List.takeWhile_append_dropWhile,
      List.reverse_reverse, List.takeWhile_append_dropWhile]
  · exact fun c member => List.all_eq_true.1 List.all_takeWhile c member
  · exact fun c member => List.all_eq_true.1 List.all_takeWhile c (List.mem_reverse.1 member)

end

end PowerLimits.Text
