import PowerLimits.Event

/-!
Computations over a store of registers. An action may note events and change the store whether or not
it succeeds, so what a failed action did is still seen.
-/
namespace PowerLimits

structure Outcome (σ ε α : Type) where
  events : List Event
  store : σ
  result : Except ε α

def Action (σ ε α : Type) : Type := σ → Outcome σ ε α

namespace Action

variable {σ ε ε' α β : Type}

def run (action : Action σ ε α) (store : σ) : Outcome σ ε α := action store

protected def pure (value : α) : Action σ ε α := fun store => ⟨[], store, .ok value⟩

/-- The second action works on the store that the first leaves, unless the first fails. -/
protected def bind (action : Action σ ε α) (next : α → Action σ ε β) : Action σ ε β :=
  fun store =>
    let first := action store
    match first.result with
    | .error error => ⟨first.events, first.store, .error error⟩
    | .ok value =>
      let second := next value first.store
      ⟨first.events ++ second.events, second.store, second.result⟩

instance : Monad (Action σ ε) where
  pure := Action.pure
  bind := Action.bind

instance : LawfulMonad (Action σ ε) :=
  LawfulMonad.mk' _
    (fun action => by
      funext store
      simp only [Functor.map, Action.bind]
      cases h : (action store).result <;> simp [Action.pure, ← h])
    (fun value next => by funext store; rfl)
    (fun action next last => by
      funext store
      simp only [bind, Action.bind]
      cases (action store).result with
      | error error => rfl
      | ok value =>
        dsimp only
        generalize next value (action store).store = second
        obtain ⟨events, after, result⟩ := second
        cases result with
        | error error => rfl
        | ok value => simp only [List.append_assoc])

def fail (error : ε) : Action σ ε α := fun store => ⟨[], store, .error error⟩

def note (events : List Event) : Action σ ε Unit := fun store => ⟨events, store, .ok ()⟩

def look : Action σ ε σ := fun store => ⟨[], store, .ok store⟩

def put (store : σ) : Action σ ε Unit := fun _ => ⟨[], store, .ok ()⟩

def ofExcept (result : Except ε α) : Action σ ε α := fun store => ⟨[], store, result⟩

/-- The result of an action, which may be a failure, as a value. -/
def attempt (action : Action σ ε α) : Action σ ε' (Except ε α) := fun store =>
  let outcome := action store
  ⟨outcome.events, outcome.store, .ok outcome.result⟩

def mapError (f : ε → ε') (action : Action σ ε α) : Action σ ε' α := fun store =>
  let outcome := action store
  ⟨outcome.events, outcome.store, outcome.result.mapError f⟩

@[simp] theorem run_pure (value : α) (store : σ) :
    (pure value : Action σ ε α).run store = ⟨[], store, .ok value⟩ := rfl

@[simp] theorem run_fail (error : ε) (store : σ) :
    (fail error : Action σ ε α).run store = ⟨[], store, .error error⟩ := rfl

@[simp] theorem run_note (events : List Event) (store : σ) :
    (note events : Action σ ε Unit).run store = ⟨events, store, .ok ()⟩ := rfl

@[simp] theorem run_look (store : σ) :
    (look : Action σ ε σ).run store = ⟨[], store, .ok store⟩ := rfl

@[simp] theorem run_put (next store : σ) :
    (put next : Action σ ε Unit).run store = ⟨[], next, .ok ()⟩ := rfl

@[simp] theorem run_ofExcept (result : Except ε α) (store : σ) :
    (ofExcept result : Action σ ε α).run store = ⟨[], store, result⟩ := rfl

@[simp] theorem run_attempt (action : Action σ ε α) (store : σ) :
    (action.attempt : Action σ ε' (Except ε α)).run store =
      ⟨(action.run store).events, (action.run store).store, .ok (action.run store).result⟩ := rfl

@[simp] theorem run_mapError (f : ε → ε') (action : Action σ ε α) (store : σ) :
    (action.mapError f).run store =
      ⟨(action.run store).events, (action.run store).store,
        (action.run store).result.mapError f⟩ := rfl

theorem run_bind (action : Action σ ε α) (next : α → Action σ ε β) (store : σ) :
    (action >>= next).run store =
      match action.run store with
      | ⟨events, after, .error error⟩ => ⟨events, after, .error error⟩
      | ⟨events, after, .ok value⟩ =>
        ⟨events ++ ((next value).run after).events, ((next value).run after).store,
          ((next value).run after).result⟩ := by
  simp only [run, bind, Action.bind]
  generalize action store = outcome
  obtain ⟨events, after, result⟩ := outcome
  cases result <;> rfl

end Action

end PowerLimits
