import PowerLimits.Store.Action

/-! What an action does apart from what it notes: the store it leaves and its result. -/
namespace PowerLimits.Action

variable {σ ε ε' α β : Type}

def effect (action : Action σ ε α) (store : σ) : σ × Except ε α :=
  ((action.run store).store, (action.run store).result)

@[simp] theorem effect_pure (value : α) (store : σ) :
    (pure value : Action σ ε α).effect store = (store, .ok value) := rfl

@[simp] theorem effect_note (events : List Event) (store : σ) :
    (note events : Action σ ε Unit).effect store = (store, .ok ()) := rfl

@[simp] theorem effect_look (store : σ) :
    (look : Action σ ε σ).effect store = (store, .ok store) := rfl

@[simp] theorem effect_put (next store : σ) :
    (put next : Action σ ε Unit).effect store = (next, .ok ()) := rfl

@[simp] theorem effect_ofExcept (result : Except ε α) (store : σ) :
    (ofExcept result : Action σ ε α).effect store = (store, result) := rfl

@[simp] theorem effect_attempt (action : Action σ ε α) (store : σ) :
    (action.attempt : Action σ ε' (Except ε α)).effect store =
      ((action.effect store).1, .ok (action.effect store).2) := rfl

@[simp] theorem effect_mapError (f : ε → ε') (action : Action σ ε α) (store : σ) :
    (action.mapError f).effect store =
      ((action.effect store).1, (action.effect store).2.mapError f) := rfl

theorem mapError_ok (f : ε → ε') (value : α) : (Except.ok value : Except ε α).mapError f = .ok value :=
  rfl

@[simp] theorem effect_bind (action : Action σ ε α) (next : α → Action σ ε β) (store : σ) :
    (action >>= next).effect store =
      match action.effect store with
      | (after, .error error) => (after, .error error)
      | (after, .ok value) => (next value).effect after := by
  unfold effect
  rw [run_bind]
  generalize action.run store = outcome
  obtain ⟨events, after, result⟩ := outcome
  cases result <;> rfl

/-- The action changes no store. -/
def Quiet (action : Action σ ε α) : Prop := ∀ store, (action.effect store).1 = store

namespace Quiet

theorem pure (value : α) : Quiet (pure value : Action σ ε α) := fun _ => rfl

theorem note (events : List Event) : Quiet (Action.note events : Action σ ε Unit) := fun _ => rfl

theorem look : Quiet (Action.look : Action σ ε σ) := fun _ => rfl

theorem ofExcept (result : Except ε α) : Quiet (Action.ofExcept result : Action σ ε α) :=
  fun _ => rfl

theorem attempt {action : Action σ ε α} (quiet : Quiet action) :
    Quiet (action.attempt : Action σ ε' (Except ε α)) := fun store => quiet store

theorem mapError (f : ε → ε') {action : Action σ ε α} (quiet : Quiet action) :
    Quiet (action.mapError f) := fun store => quiet store

theorem bind {action : Action σ ε α} {next : α → Action σ ε β} (first : Quiet action)
    (rest : ∀ value, Quiet (next value)) : Quiet (action >>= next) := by
  intro store
  have kept := first store
  rw [effect_bind]
  generalize action.effect store = effect at kept
  obtain ⟨after, result⟩ := effect
  cases result with
  | error error => exact kept
  | ok value => exact (rest value after).trans kept

end Quiet

end PowerLimits.Action
