import PowerLimits.Store.Register

/-! A store in which any access can be made to fail, and which tells the words that were written. An access
that is not made to fail does what it does in the store below. -/
namespace PowerLimits
open RegisterStore

variable {σ Handle : Type}

/-- The word of a register, in states that go with it, is the one that is found by every read that does not
fail, and it is exchanged by the writes through this handle that do not fail, and by nothing else. -/
structure Keeps [RegisterStore σ Handle] (handle : Handle) (register : Word) (state : Word → σ → Prop) :
    Prop where
  read : ∀ {word found : Word} {store : σ}, state word store →
    RegisterStore.read store handle register = .ok found → found = word
  write : ∀ {word new : Word} {store after : σ}, state word store →
    RegisterStore.write store handle register new = .ok after → state new after

structure Written (Handle : Type) where
  handle : Handle
  register : Word
  word : Word

/-- How accesses fail, by the number of words that were written before them. -/
structure Faults where
  read : Nat → Option AccessError
  write : Nat → Option AccessError

structure Trial (σ Handle : Type) where
  store : σ
  faults : Faults
  /-- The words that were written, the oldest first. -/
  written : List (Written Handle)

namespace Trial

variable [RegisterStore σ Handle]

instance : RegisterStore (Trial σ Handle) Handle where
  cpu trial := cpu trial.store
  read trial handle register :=
    (trial.faults.read trial.written.length).elim (read trial.store handle register) .error
  write trial handle register word :=
    (trial.faults.write trial.written.length).elim
      ((write trial.store handle register word).map fun store =>
        { trial with store, written := trial.written ++ [⟨handle, register, word⟩] })
      .error
  close trial handle :=
    let (store, failure) := close trial.store handle
    ({ trial with store }, failure)
  readEvents := readEvents σ
  writeEvents := writeEvents σ
  closeEvents := closeEvents σ

variable {trial after : Trial σ Handle} {handle : Handle} {register word : Word}

theorem read_ok (found : read trial handle register = .ok word) :
    read trial.store handle register = .ok word := by
  change (trial.faults.read trial.written.length).elim _ _ = _ at found
  cases fails : trial.faults.read trial.written.length with
  | none => rwa [fails] at found
  | some source =>
    rw [fails] at found
    contradiction

theorem write_ok (written : write trial handle register word = .ok after) :
    write trial.store handle register word = .ok after.store ∧
      after.written = trial.written ++ [⟨handle, register, word⟩] := by
  change (trial.faults.write trial.written.length).elim _ _ = _ at written
  cases fails : trial.faults.write trial.written.length with
  | none =>
    rw [fails, Option.elim_none] at written
    cases stored : write trial.store handle register word with
    | error source =>
      rw [stored] at written
      contradiction
    | ok store =>
      rw [stored] at written
      cases Except.ok.inj written
      exact ⟨rfl, rfl⟩
  | some source =>
    rw [fails] at written
    contradiction

end Trial

end PowerLimits
