import Mathlib.Data.List.Forall2

/-! Computations that may fail, alone and along a list, and the greatest and the least number of a list. -/
namespace PowerLimits

section
variable {α β ε : Type}

theorem bind_eq_ok_iff {first : Except ε α} {next : α → Except ε β} {value : β} :
    (first >>= next) = .ok value ↔ ∃ middle, first = .ok middle ∧ next middle = .ok value := by
  cases first <;> simp [bind, Except.bind]

theorem bind_eq_error_iff {first : Except ε α} {next : α → Except ε β} {error : ε} :
    (first >>= next) = .error error ↔
      first = .error error ∨ ∃ middle, first = .ok middle ∧ next middle = .error error := by
  cases first <;> simp [bind, Except.bind]

theorem mapError_bind {ε' : Type} (f : ε → ε') (first : Except ε α) (next : α → Except ε β) :
    (first >>= next).mapError f = first.mapError f >>= fun value => (next value).mapError f := by
  cases first <;> rfl

theorem toOption_eq_of_iff {first second : Except ε α}
    (same : ∀ value, first = .ok value ↔ second = .ok value) : first.toOption = second.toOption := by
  cases first with
  | ok value =>
    rw [(same value).1 rfl]
  | error =>
    cases second with
    | ok value => exact absurd ((same value).2 rfl) nofun
    | error => rfl

theorem mapM_eq_ok_iff {f : α → Except ε β} {items : List α} {values : List β} :
    items.mapM f = .ok values ↔ List.Forall₂ (fun item value => f item = .ok value) items values := by
  induction items generalizing values with
  | nil => simp [pure, Except.pure, eq_comm]
  | cons item rest ih =>
    rw [List.mapM_cons, List.forall₂_cons_left_iff]
    simp only [bind_eq_ok_iff, ih]
    simp [pure, Except.pure, eq_comm]

theorem mapM_eq_error {f : α → Except ε β} {items : List α} {error : ε}
    (failed : items.mapM f = .error error) : ∃ item ∈ items, f item = .error error := by
  induction items with
  | nil => contradiction
  | cons item rest ih =>
    rw [List.mapM_cons] at failed
    obtain first | ⟨value, _, failed⟩ := bind_eq_error_iff.1 failed
    · exact ⟨item, List.mem_cons_self, first⟩
    · obtain later | ⟨values, _, failed⟩ := bind_eq_error_iff.1 failed
      · obtain ⟨item, member, failed⟩ := ih later
        exact ⟨item, List.mem_cons_of_mem _ member, failed⟩
      · contradiction

end

theorem forall₂_range_iff {α : Type} {related : Nat → α → Prop} {n : Nat} {values : List α} :
    List.Forall₂ related (List.range n) values ↔
      values.length = n ∧ ∀ i (there : i < values.length), related i values[i] := by
  simp only [List.forall₂_iff_get, List.length_range, List.get_eq_getElem, List.getElem_range]
  constructor
  · rintro ⟨rfl, each⟩
    exact ⟨rfl, fun i there => each i there there⟩
  · rintro ⟨rfl, each⟩
    exact ⟨rfl, fun i _ there => each i there⟩

theorem index_eq {α : Type} {items : List α} {item : α} (distinct : items.Nodup) {i j : Nat}
    (there : items[i]? = some item) (too : items[j]? = some item) : i = j := by
  obtain ⟨bound, _⟩ := List.getElem?_eq_some_iff.1 there
  exact (List.getElem?_inj bound distinct).1 (there.trans too.symm)

theorem min?_append_singleton (numbers : List Nat) (n : Nat) :
    (numbers ++ [n]).min? = some (numbers.min?.elim n (min n)) := by
  cases numbers with
  | nil => rfl
  | cons first rest =>
    rw [List.cons_append, List.min?_cons', List.min?_cons', List.foldl_append]
    exact congrArg some (Nat.min_comm _ _)

theorem max?_append_singleton (numbers : List Nat) (n : Nat) :
    (numbers ++ [n]).max? = some (numbers.max?.elim n (max · n)) := by
  cases numbers with
  | nil => rfl
  | cons first rest =>
    rw [List.cons_append, List.max?_cons', List.max?_cons', List.foldl_append]
    rfl

end PowerLimits
