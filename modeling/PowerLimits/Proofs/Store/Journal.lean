import PowerLimits.Proofs.Store.Effect
import PowerLimits.Store.Register

/-! A store with a journal of the calls that give handles out and take them back, in their order and
with their outcomes. It does all else as the store in it does. -/
namespace PowerLimits

/-- A handle that was given up, and how that failed if it did. -/
structure Closing (Handle : Type) where
  handle : Handle
  cpu : Nat
  failure : Option OsError

def Closing.error? {Handle : Type} (closing : Closing Handle) : Option Error :=
  closing.failure.map (.close closing.cpu)

inductive Entry (Handle : Type) where
  | opening (socket cpu : Nat) (result : Except Error Handle)
  | closing (closing : Closing Handle)

structure Journal (σ Handle : Type) where
  store : σ
  entries : List (Entry Handle)

namespace Journal
open RegisterStore

variable {σ Handle : Type}

def closings (closings : List (Closing Handle)) : List (Entry Handle) := closings.map .closing

/-- A way to open sockets, with its calls noted in the journal. -/
def opener (openSocket : Nat → Nat → Action σ Error Handle) (socket cpu : Nat) :
    Action (Journal σ Handle) Error Handle := fun journal =>
  let outcome := (openSocket socket cpu).run journal.store
  ⟨outcome.events,
    ⟨outcome.store, journal.entries ++ [.opening socket cpu outcome.result]⟩,
    outcome.result⟩

variable [RegisterStore σ Handle]

instance : RegisterStore (Journal σ Handle) Handle where
  cpu journal := cpu journal.store
  read journal := read journal.store
  write journal handle register value :=
    (write journal.store handle register value).map fun store => { journal with store }
  close journal handle :=
    let (store, failure) := close journal.store handle
    (⟨store, journal.entries ++ [.closing ⟨handle, cpu journal.store handle, failure⟩]⟩, failure)
  readEvents := readEvents σ
  writeEvents := writeEvents σ
  closeEvents := closeEvents σ

/-- Besides keeping the journal, an action does what this one does to the store in it. -/
def Watches {ε α : Type} (watched : Action (Journal σ Handle) ε α) (plain : Action σ ε α) : Prop :=
  ∀ journal, ((watched.effect journal).1.store, (watched.effect journal).2) =
    plain.effect journal.store

namespace Watches

variable {ε ε' α β : Type} {watched : Action (Journal σ Handle) ε α} {plain : Action σ ε α}

omit [RegisterStore σ Handle]

theorem pure (value : α) : Watches (pure value : Action (Journal σ Handle) ε α) (pure value) :=
  fun _ => rfl

theorem fail (error : ε) :
    Watches (Action.fail error : Action (Journal σ Handle) ε α) (Action.fail error) := fun _ => rfl

theorem note (events : List Event) :
    Watches (Action.note events : Action (Journal σ Handle) ε Unit) (Action.note events) :=
  fun _ => rfl

theorem ofExcept (result : Except ε α) :
    Watches (Action.ofExcept result : Action (Journal σ Handle) ε α) (Action.ofExcept result) :=
  fun _ => rfl

theorem opener (openSocket : Nat → Nat → Action σ Error Handle) (socket cpu : Nat) :
    Watches (Journal.opener openSocket socket cpu) (openSocket socket cpu) := fun _ => rfl

theorem attempt (watches : Watches watched plain) :
    Watches (watched.attempt : Action (Journal σ Handle) ε' _) plain.attempt := by
  intro journal
  simp only [Action.effect_attempt, ← watches journal]

theorem mapError (f : ε → ε') (watches : Watches watched plain) :
    Watches (watched.mapError f) (plain.mapError f) := by
  intro journal
  simp only [Action.effect_mapError, ← watches journal]

theorem bind {next : α → Action (Journal σ Handle) ε β} {plainNext : α → Action σ ε β}
    (first : Watches watched plain) (rest : ∀ value, Watches (next value) (plainNext value)) :
    Watches (watched >>= next) (plain >>= plainNext) := by
  intro journal
  simp only [Action.effect_bind, ← first journal]
  generalize watched.effect journal = effect
  obtain ⟨after, result⟩ := effect
  cases result with
  | error error => rfl
  | ok value => exact rest value after

theorem look_bind {next : Journal σ Handle → Action (Journal σ Handle) ε β}
    {plainNext : σ → Action σ ε β}
    (rest : ∀ journal, Watches (next journal) (plainNext journal.store)) :
    Watches (Action.look >>= next) (Action.look >>= plainNext) := fun journal => rest journal journal

end Watches

theorem readRegister_watches (handle : Handle) (register : Word) :
    Watches (readRegister handle register : Action (Journal σ Handle) Error Word)
      (readRegister handle register) :=
  .look_bind fun _ => .bind (.mapError _ (.ofExcept _)) fun _ => .bind (.note _) fun _ => .pure _

theorem writeRegister_watches (handle : Handle) (register value : Word) :
    Watches (writeRegister handle register value : Action (Journal σ Handle) Error Unit)
      (writeRegister handle register value) := by
  refine .bind (.note _) fun _ => .look_bind fun journal => ?_
  have stored : write journal handle register value =
      (write journal.store handle register value).map fun store => { journal with store } := rfl
  rw [stored]
  cases write journal.store handle register value with
  | error source => exact fun _ => rfl
  | ok store => exact fun _ => rfl

theorem closeHandle_watches (handle : Handle) :
    Watches (closeHandle handle : Action (Journal σ Handle) Error Unit) (closeHandle handle) := by
  intro journal
  have same : (close journal handle).2 = (close journal.store handle).2 := rfl
  unfold closeHandle
  simp only [Action.effect_bind, Action.effect_look, Action.effect_put, same]
  cases (close journal.store handle).2 <;> rfl

theorem closeEach_watches {ε : Type} (handles : List Handle) :
    Watches (closeEach handles : Action (Journal σ Handle) ε _) (closeEach handles) := by
  induction handles with
  | nil => exact .pure _
  | cons handle rest ih =>
    refine .look_bind fun journal => .bind (.attempt (closeHandle_watches handle)) fun result => ?_
    cases result with
    | ok => exact ih
    | error error => exact .bind (.note _) fun _ => .bind ih fun _ => .pure _

theorem closeAll_watches (handles : List Handle) :
    Watches (closeAll handles : Action (Journal σ Handle) Error Unit) (closeAll handles) := by
  refine .bind (closeEach_watches handles) fun errors => ?_
  cases errors with
  | nil => exact .pure _
  | cons error => exact .fail _

theorem entries_write {journal after : Journal σ Handle} {handle : Handle} {register value : Word}
    (written : write journal handle register value = .ok after) :
    after.entries = journal.entries := by
  change (write journal.store handle register value).map _ = _ at written
  cases stored : write journal.store handle register value with
  | error source =>
    rw [stored] at written
    contradiction
  | ok store =>
    rw [stored] at written
    cases Except.ok.inj written
    rfl

theorem effect_closeHandle (handle : Handle) (journal : Journal σ Handle) :
    ∃ (closing : Closing Handle) (after : Journal σ Handle), closing.handle = handle ∧
      after.entries = journal.entries ++ [.closing closing] ∧
      (closeHandle handle).effect journal = (after, closing.error?.elim (.ok ()) .error) := by
  refine ⟨⟨handle, cpu journal.store handle, (close journal handle).2⟩, (close journal handle).1,
    rfl, rfl, ?_⟩
  unfold closeHandle
  simp only [Action.effect_bind, Action.effect_look, Action.effect_put]
  cases (close journal handle).2 <;> rfl

theorem effect_closeEach {ε : Type} (handles : List Handle) (journal : Journal σ Handle) :
    ∃ (closed : List (Closing Handle)) (after : Journal σ Handle),
      closed.map Closing.handle = handles ∧
      after.entries = journal.entries ++ closings closed ∧
      (closeEach handles : Action _ ε _).effect journal =
        (after, .ok (closed.filterMap Closing.error?)) := by
  induction handles generalizing journal with
  | nil => exact ⟨[], journal, rfl, (List.append_nil _).symm, rfl⟩
  | cons handle rest ih =>
    obtain ⟨closing, next, same, noted, first⟩ := effect_closeHandle handle journal
    obtain ⟨closed, after, handles, entries, further⟩ := ih next
    refine ⟨closing :: closed, after, by rw [List.map_cons, same, handles], ?_, ?_⟩
    · rw [entries, noted, List.append_assoc]
      rfl
    · rw [closeEach]
      simp only [Action.effect_bind, Action.effect_look, Action.effect_attempt, first]
      cases failed : closing.error? with
      | none => rw [List.filterMap_cons_none failed, ← further, Option.elim_none]
      | some error =>
        rw [List.filterMap_cons_some failed]
        simp only [Option.elim_some, Action.effect_bind, Action.effect_note, further, Action.effect_pure]

theorem effect_closeAll (handles : List Handle) (journal : Journal σ Handle) :
    ∃ (closed : List (Closing Handle)) (after : Journal σ Handle),
      closed.map Closing.handle = handles ∧
      after.entries = journal.entries ++ closings closed ∧
      (closeAll handles).effect journal =
        (after, (closed.findSome? Closing.error?).elim (.ok ()) .error) := by
  obtain ⟨closed, after, same, entries, effect⟩ := effect_closeEach handles journal
  refine ⟨closed, after, same, entries, ?_⟩
  rw [closeAll, Action.effect_bind, effect, ← List.head?_filterMap]
  cases closed.filterMap Closing.error? <;> rfl

/-- Besides making the calls that are told of, an action does what this one does without a journal. -/
def Tells {ε α : Type} (watched : Action (Journal σ Handle) ε α) (plain : Action σ ε α)
    (told : σ → List (Entry Handle) → Except ε α → Prop) : Prop :=
  ∀ store before, ∃ calls after result, told store calls result ∧
    plain.effect store = (after, result) ∧
    watched.effect ⟨store, before⟩ = (⟨after, before ++ calls⟩, result)

omit [RegisterStore σ Handle] in
theorem Watches.tells {ε α : Type} {watched : Action (Journal σ Handle) ε α} {plain : Action σ ε α}
    {told : σ → List (Entry Handle) → Except ε α → Prop} (watches : Watches watched plain)
    (tells : ∀ journal, ∃ calls after result, told journal.store calls result ∧
      after.entries = journal.entries ++ calls ∧ watched.effect journal = (after, result)) :
    Tells watched plain told := by
  intro store before
  obtain ⟨calls, after, result, holds, entries, effect⟩ := tells ⟨store, before⟩
  refine ⟨calls, after.store, result, holds, ?_, ?_⟩
  · rw [← watches ⟨store, before⟩, effect]
  · rw [effect, ← entries]

end Journal

end PowerLimits
