import PowerLimits.Proofs.Session.Step
import PowerLimits.Proofs.Store.Journal
import PowerLimits.Session.Lifetime

/-! What becomes of the handles of a session, as a journal of its store tells it. Whatever fails, each
handle that was obtained is given up once: when the session cannot be made, or else at its end. -/
namespace PowerLimits

theorem Topology.getElem?_sockets (topology : Topology) (socket : Nat) :
    topology.sockets[socket]? = topology.cpus[socket]?.map fun cpu => (socket, cpu) := by
  simp only [sockets, List.getElem?_map, List.getElem?_zipIdx, Option.map_map, Nat.zero_add]
  rfl

namespace Session
open RegisterStore Journal

variable {σ Handle : Type}

/-- Calls for these sockets, in order, until one fails: the calls, the handles from them, the failure
if there was one, and the store after it all. -/
inductive Opens (openSocket : Nat → Nat → Action σ Error Handle) :
    σ → List (Nat × Nat) → List (Entry Handle) → List Handle → Option Error → σ → Prop where
  | done (store : σ) : Opens openSocket store [] [] [] none store
  | next {store middle last : σ} {socket cpu : Nat} {handle : Handle} {rest : List (Nat × Nat)}
      {calls : List (Entry Handle)} {handles : List Handle} {failure : Option Error}
      (opened : (openSocket socket cpu).effect store = (middle, .ok handle))
      (further : Opens openSocket middle rest calls handles failure last) :
      Opens openSocket store ((socket, cpu) :: rest) (.opening socket cpu (.ok handle) :: calls)
        (handle :: handles) failure last
  | stop {store after : σ} {socket cpu : Nat} {error : Error} (rest : List (Nat × Nat))
      (failed : (openSocket socket cpu).effect store = (after, .error error)) :
      Opens openSocket store ((socket, cpu) :: rest) [.opening socket cpu (.error error)] []
        (some error) after

variable [RegisterStore σ Handle]

/-- What becomes of handles that are given to a session: the calls, and the result. -/
inductive Founded (features : Features) (signature : Signature) (store : σ) :
    List Handle → List (Entry Handle) → Except Error (Session Handle) → Prop where
  | empty : Founded features signature store [] [] (.error (.discovery .noSockets))
  | unread {first : Handle} {rest : List Handle} {source : AccessError}
      {closed : List (Closing Handle)}
      (failed : read store first unitRegister = .error source)
      (once : closed.map Closing.handle = first :: rest) :
      Founded features signature store (first :: rest) (closings closed) (.error (.access source))
  | founded {first : Handle} {rest : List Handle} {word : Word}
      (found : read store first unitRegister = .ok word) :
      Founded features signature store (first :: rest) []
        (.ok ⟨first :: rest, UnitScale.ofWord word signature, features⟩)

/-- What opening the sockets of a topology comes to: the calls, and the result. -/
inductive Began (features : Features) (topology : Topology) (signature : Signature)
    (openSocket : Nat → Nat → Action σ Error Handle) (store : σ) :
    List (Entry Handle) → Except Error (Session Handle) → Prop where
  | refused {calls : List (Entry Handle)} {handles : List Handle} {error : Error} {last : σ}
      {closed : List (Closing Handle)}
      (opens : Opens openSocket store topology.sockets calls handles (some error) last)
      (once : closed.map Closing.handle = handles) :
      Began features topology signature openSocket store (calls ++ closings closed) (.error error)
  | opened {calls further : List (Entry Handle)} {handles : List Handle} {last : σ}
      {result : Except Error (Session Handle)}
      (opens : Opens openSocket store topology.sockets calls handles none last)
      (founded : Founded features signature last handles further result) :
      Began features topology signature openSocket store (calls ++ further) result

theorem effect_abandon {α : Type} (handles : List Handle) (error : Error)
    (journal : Journal σ Handle) :
    ∃ (closed : List (Closing Handle)) (after : Journal σ Handle),
      closed.map Closing.handle = handles ∧
      after.entries = journal.entries ++ closings closed ∧
      (abandon handles error : Action _ _ α).effect journal = (after, .error error) := by
  obtain ⟨closed, after, once, entries, effect⟩ := effect_closeAll handles journal
  refine ⟨closed, after, once, entries, ?_⟩
  rw [abandon, Action.effect_bind, Action.effect_attempt, effect]
  cases closed.findSome? Closing.error? <;> rfl

theorem effect_ofHandles_cons (features : Features) (signature : Signature) (first : Handle)
    (rest : List Handle) (store : σ) :
    (ofHandles features signature (first :: rest)).effect store =
      match read store first unitRegister with
      | .ok word => (store, .ok ⟨first :: rest, UnitScale.ofWord word signature, features⟩)
      | .error source => (abandon (first :: rest) (.access source)).effect store := by
  simp only [ofHandles, readRegister, Action.effect_bind, Action.effect_attempt,
    Action.effect_look, Action.effect_mapError, Action.effect_ofExcept]
  cases read store first unitRegister <;> rfl

theorem effect_ofHandles (features : Features) (signature : Signature) (handles : List Handle)
    (journal : Journal σ Handle) :
    ∃ (entries : List (Entry Handle)) (after : Journal σ Handle) (result : Except Error (Session Handle)),
      Founded features signature journal.store handles entries result ∧
      after.entries = journal.entries ++ entries ∧
      (ofHandles features signature handles).effect journal = (after, result) := by
  cases handles with
  | nil => exact ⟨[], journal, _, .empty, (List.append_nil _).symm, rfl⟩
  | cons first rest =>
    have reads : read journal first unitRegister = read journal.store first unitRegister := rfl
    have tried := effect_ofHandles_cons features signature first rest journal
    rw [reads] at tried
    cases found : read journal.store first unitRegister with
    | ok word =>
      rw [found] at tried
      exact ⟨[], journal, _, .founded found, (List.append_nil _).symm, tried⟩
    | error source =>
      rw [found] at tried
      obtain ⟨closed, after, once, entries, effect⟩ :=
        effect_abandon (first :: rest) (.access source) journal
      exact ⟨closings closed, after, _, .unread found once, entries, tried.trans effect⟩

theorem effect_openEach (openSocket : Nat → Nat → Action σ Error Handle) (opened : List Handle)
    (sockets : List (Nat × Nat)) (journal : Journal σ Handle) :
    ∃ (calls : List (Entry Handle)) (handles : List Handle) (failure : Option Error) (last : σ),
      Opens openSocket journal.store sockets calls handles failure last ∧
      (openEach (opener openSocket) opened sockets).effect journal =
        match failure with
        | none => (⟨last, journal.entries ++ calls⟩, .ok (opened ++ handles))
        | some error => (abandon (opened ++ handles) error).effect ⟨last, journal.entries ++ calls⟩ := by
  induction sockets generalizing opened journal with
  | nil =>
    refine ⟨[], [], none, journal.store, .done _, ?_⟩
    simp only [List.append_nil]
    rfl
  | cons entry rest ih =>
    obtain ⟨socket, cpu⟩ := entry
    have called : (opener openSocket socket cpu).effect journal =
        (⟨((openSocket socket cpu).effect journal.store).1, journal.entries ++
          [.opening socket cpu ((openSocket socket cpu).effect journal.store).2]⟩,
          ((openSocket socket cpu).effect journal.store).2) := rfl
    simp only [openEach, Action.effect_bind, Action.effect_attempt, called]
    cases outcome : (openSocket socket cpu).effect journal.store with
    | mk store result =>
      cases result with
      | error error =>
        refine ⟨_, [], some error, store, .stop rest outcome, ?_⟩
        rw [List.append_nil]
      | ok handle =>
        obtain ⟨calls, handles, failure, last, opens, effect⟩ := ih (opened ++ [handle])
          ⟨store, journal.entries ++ [.opening socket cpu (.ok handle)]⟩
        refine ⟨_, _, failure, last, .next outcome opens, ?_⟩
        rw [List.append_assoc, List.append_assoc] at effect
        exact effect

theorem effect_openWith (features : Features) (topology : Topology) (signature : Signature)
    (openSocket : Nat → Nat → Action σ Error Handle) (journal : Journal σ Handle) :
    ∃ (entries : List (Entry Handle)) (after : Journal σ Handle) (result : Except Error (Session Handle)),
      Began features topology signature openSocket journal.store entries result ∧
      after.entries = journal.entries ++ entries ∧
      (openWith features topology signature (opener openSocket)).effect journal = (after, result) := by
  obtain ⟨calls, handles, failure, last, opens, effect⟩ :=
    effect_openEach openSocket [] topology.sockets journal
  rw [openWith, Action.effect_bind, effect, List.nil_append]
  cases failure with
  | none =>
    obtain ⟨further, after, result, founded, entries, founds⟩ := effect_ofHandles features signature
      handles (⟨last, journal.entries ++ calls⟩ : Journal σ Handle)
    refine ⟨_, after, result, .opened opens founded, ?_, founds⟩
    rw [entries, List.append_assoc]
  | some error =>
    obtain ⟨closed, after, once, entries, abandons⟩ := effect_abandon (α := List Handle) handles error
      (⟨last, journal.entries ++ calls⟩ : Journal σ Handle)
    refine ⟨_, after, _, .refused opens once, ?_, ?_⟩
    · rw [entries, List.append_assoc]
    · simp only [abandons]

theorem entries_perform (session : Session Handle) (request : Request)
    (journal : Journal σ Handle) :
    ((session.perform request).run journal).store.entries = journal.entries := by
  obtain ⟨kept, _⟩ | ⟨handle, old, new, exchanged⟩ := session.perform_cases request journal
  · rw [kept]
  · exact entries_write exchanged.written

theorem effect_destroy (session : Session Handle) (journal : Journal σ Handle) :
    ∃ (closed : List (Closing Handle)) (after : Journal σ Handle),
      closed.map Closing.handle = session.handles ∧
      after.entries = journal.entries ++ closings closed ∧
      session.destroy.effect journal =
        (after, (closed.findSome? Closing.error?).elim (.ok ()) .error) := by
  obtain ⟨closed, after, once, entries, effect⟩ := effect_closeAll session.handles journal
  refine ⟨closed, after, once, entries, ?_⟩
  rw [destroy, Action.effect_bind, effect]
  cases closed.findSome? Closing.error? <;> rfl

/-! The journal is only kept: all else goes as it does without one. -/

theorem abandon_watches {α : Type} (handles : List Handle) (error : Error) :
    Watches (abandon handles error : Action (Journal σ Handle) Error α) (abandon handles error) := by
  refine .bind (.attempt (closeAll_watches handles)) fun result => ?_
  cases result with
  | ok => exact .fail _
  | error closeError => exact .bind (.note _) fun _ => .fail _

theorem ofHandles_watches (features : Features) (signature : Signature) (handles : List Handle) :
    Watches (ofHandles features signature handles : Action (Journal σ Handle) Error _)
      (ofHandles features signature handles) := by
  cases handles with
  | nil => exact .fail _
  | cons first rest =>
    refine .bind (.attempt (readRegister_watches first unitRegister)) fun result => ?_
    cases result with
    | ok word => exact .bind (.note _) fun _ => .pure _
    | error error => exact abandon_watches _ error

theorem openEach_watches (openSocket : Nat → Nat → Action σ Error Handle) (opened : List Handle)
    (sockets : List (Nat × Nat)) :
    Watches (openEach (opener openSocket) opened sockets) (openEach openSocket opened sockets) := by
  induction sockets generalizing opened with
  | nil => exact .pure _
  | cons entry rest ih =>
    obtain ⟨socket, cpu⟩ := entry
    refine .bind (.attempt (.opener openSocket socket cpu)) fun result => ?_
    cases result with
    | ok handle => exact ih _
    | error error => exact abandon_watches opened error

theorem openWith_watches (features : Features) (topology : Topology) (signature : Signature)
    (openSocket : Nat → Nat → Action σ Error Handle) :
    Watches (openWith features topology signature (opener openSocket))
      (openWith features topology signature openSocket) :=
  .bind (openEach_watches openSocket [] topology.sockets) (ofHandles_watches features signature)

theorem destroy_watches (session : Session Handle) :
    Watches (session.destroy : Action (Journal σ Handle) Error Unit) session.destroy :=
  .bind (closeAll_watches session.handles) fun _ => .note _

theorem readLimit_watches (session : Session Handle) (socket : Nat) (zone : Zone) :
    Watches (session.readLimit socket zone : Action (Journal σ Handle) Error Word)
      (session.readLimit socket zone) :=
  .bind (.ofExcept _) fun _ => readRegister_watches _ _

theorem modifyLimit_watches (session : Session Handle) (socket : Nat) (zone : Zone)
    (update : Word → Except ArgumentFault Word) (events : Word → List Event) :
    Watches (session.modifyLimit socket zone update events : Action (Journal σ Handle) Error Unit)
      (session.modifyLimit socket zone update events) :=
  .bind (.ofExcept _) fun _ => .bind (readRegister_watches _ _) fun _ => .bind (.note _) fun _ =>
    .bind (.ofExcept _) fun _ => .bind (.note _) fun _ => writeRegister_watches _ _ _

theorem perform_watches (session : Session Handle) (request : Request) :
    Watches (session.perform request : Action (Journal σ Handle) Error Answer)
      (session.perform request) := by
  have limit (socket : Nat) (zone : Zone) := readLimit_watches (σ := σ) session socket zone
  have exchange (socket : Nat) (zone : Zone) := modifyLimit_watches (σ := σ) session socket zone
  obtain ⟨socket, zone, operation⟩ := request
  cases operation with
  | setEnabled | setClamped | setLimits => exact .bind (exchange _ _ _ _) fun _ => .pure _
  | isEnabled | isClamped | isLocked => exact .bind (.bind (limit _ _) fun _ => .pure _) fun _ => .pure _
  | getLimits | limitState =>
    exact .bind (.bind (limit _ _) fun _ => .bind (.note _) fun _ => .pure _) fun _ => .pure _
  | energyCounter =>
    exact .bind (.bind (.ofExcept _) fun _ => .bind (readRegister_watches _ _) fun _ => .pure _)
      fun _ => .pure _
  | zoneSupported | energyCounterMax | powerUnits | timeUnits | energyUnits =>
    exact .bind (.ofExcept _) fun _ => .pure _

theorem performAll_journal (session : Session Handle) (requests : List Request) (store : σ)
    (entries : List (Entry Handle)) :
    session.performAll (⟨store, entries⟩ : Journal σ Handle) requests =
      (⟨(session.performAll store requests).1, entries⟩,
        (session.performAll store requests).2) := by
  induction requests generalizing store with
  | nil => rfl
  | cons request rest ih =>
    have watches := perform_watches session request (⟨store, entries⟩ : Journal σ Handle)
    have kept := entries_perform session request (⟨store, entries⟩ : Journal σ Handle)
    have stored : ((session.perform request).run (⟨store, entries⟩ : Journal σ Handle)).store =
        ⟨((session.perform request).run store).store, entries⟩ :=
      congr (congrArg Journal.mk (congrArg Prod.fst watches)) kept
    have answered : ((session.perform request).run (⟨store, entries⟩ : Journal σ Handle)).result =
        ((session.perform request).run store).result := congrArg Prod.snd watches
    simp only [performAll, stored, answered, ih]

/-- A topology has its sockets opened in order, each with its processor, until one cannot be. A
session that cannot be made has every handle it obtained closed once, and fails as what kept it from
being made did. One that is made holds the handle of each socket, none of them closed by any course
of it; its end closes each once, and fails as the first of them that does. -/
theorem every_handle_closed_once (features : Features) (signature : Signature) :
    (∀ (topology : Topology) (socket : Nat),
      topology.sockets[socket]? = topology.cpus[socket]?.map fun cpu => (socket, cpu)) ∧
    (∀ (topology : Topology) (openSocket : Nat → Nat → Action σ Error Handle),
      Tells (openWith features topology signature (opener openSocket))
        (openWith features topology signature openSocket)
        (Began features topology signature openSocket)) ∧
    (∀ handles : List Handle,
      Tells (ofHandles features signature handles : Action (Journal σ Handle) _ _)
        (ofHandles features signature handles)
        fun store => Founded features signature store handles) ∧
    (∀ (session : Session Handle) (requests : List Request) (store : σ) (entries : List (Entry Handle)),
      session.performAll (⟨store, entries⟩ : Journal σ Handle) requests =
        (⟨(session.performAll store requests).1, entries⟩,
          (session.performAll store requests).2)) ∧
    ∀ session : Session Handle,
      Tells (session.destroy : Action (Journal σ Handle) _ _) session.destroy
        fun _ calls result => ∃ closed : List (Closing Handle), calls = closings closed ∧
          closed.map Closing.handle = session.handles ∧
          result = (closed.findSome? Closing.error?).elim (.ok ()) .error := by
  refine ⟨Topology.getElem?_sockets, ?_, ?_, performAll_journal, ?_⟩
  · intro topology openSocket
    exact (openWith_watches features topology signature openSocket).tells
      (effect_openWith features topology signature openSocket)
  · intro handles
    exact (ofHandles_watches features signature handles).tells
      (effect_ofHandles features signature handles)
  · intro session
    apply (destroy_watches session).tells
    intro journal
    obtain ⟨closed, after, once, entries, effect⟩ := effect_destroy session journal
    exact ⟨_, after, _, ⟨closed, rfl, once, rfl⟩, entries, effect⟩

end Session

end PowerLimits
