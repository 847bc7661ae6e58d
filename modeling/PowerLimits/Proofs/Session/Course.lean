import PowerLimits.Proofs.Session.Step
import PowerLimits.Proofs.Store.Trial

/-! Exchanges of one limit word after another, any of which can fail. The words that are written are those
of a course, which goes on as long as nothing fails. -/
namespace PowerLimits
open RegisterStore

/-- The words that a course of updates writes, each computed from the one before, and whether it came to its
end. It may stop before any of them. -/
inductive Course : List (Word → Except ArgumentFault Word) → Word → List Word → Bool → Prop where
  | finished (word : Word) : Course [] word [] true
  | stopped (update : Word → Except ArgumentFault Word)
      (rest : List (Word → Except ArgumentFault Word)) (word : Word) :
      Course (update :: rest) word [] false
  | next {update : Word → Except ArgumentFault Word} {rest : List (Word → Except ArgumentFault Word)}
      {word new : Word} {words : List Word} {done : Bool} (computed : update word = .ok new)
      (further : Course rest new words done) : Course (update :: rest) word (new :: words) done

namespace Course

variable {updates more : List (Word → Except ArgumentFault Word)} {word : Word} {words others : List Word}
  {done : Bool}

theorem append_stopped (course : Course updates word words false) (more) :
    Course (updates ++ more) word words false := by
  generalize fails : false = done at course
  induction course with
  | finished => contradiction
  | stopped => exact .stopped ..
  | next computed _ ih => exact .next computed (ih fails)

/-- A course of two parts ends in the first, or it goes through the first and then some way into the other. -/
theorem of_append (course : Course (updates ++ more) word words done) :
    (Course updates word words false ∧ done = false) ∨
      ∃ first rest, words = first ++ rest ∧ Course updates word first true ∧
        Course more (first.getLastD word) rest done := by
  induction updates generalizing word words with
  | nil => exact .inr ⟨[], words, rfl, .finished word, course⟩
  | cons update updates ih =>
    cases course with
    | stopped => exact .inl ⟨.stopped .., rfl⟩
    | @next _ _ _ new words _ computed further =>
      obtain ⟨stops, fails⟩ | ⟨first, rest, rfl, through, onward⟩ := ih further
      · exact .inl ⟨.next computed stops, fails⟩
      · refine .inr ⟨new :: first, rest, rfl, .next computed through, ?_⟩
        rwa [List.getLastD_cons]

theorem append (course : Course updates word words true)
    (further : Course more (words.getLastD word) others done) :
    Course (updates ++ more) word (words ++ others) done := by
  generalize ends : true = whole at course
  induction course with
  | finished => exact further
  | stopped => contradiction
  | next computed _ ih =>
    rw [List.getLastD_cons] at further
    exact .next computed (ih further ends)

end Course

namespace Session

variable {σ Handle : Type} [RegisterStore σ Handle] {session : Session Handle} {socket : Nat} {zone : Zone}
  {state : Word → σ → Prop}

/-- From one store of a trial to another, these words were written to the limit register of the zone, and
no other word to any register. -/
structure Wrote (session : Session Handle) (socket : Nat) (zone : Zone) (words : List Word)
    (before after : Trial σ Handle) : Prop where
  written : ∃ writes : List (Written Handle), after.written = before.written ++ writes ∧
    writes.map Written.word = words ∧
    ∀ write ∈ writes, session.handles[socket]? = some write.handle ∧ write.register = zone.limitRegister

namespace Wrote

variable {words others : List Word} {first second third : Trial σ Handle}

omit [RegisterStore σ Handle] in
theorem nothing (trial : Trial σ Handle) : session.Wrote socket zone [] trial trial :=
  ⟨[], (List.append_nil _).symm, rfl, nofun⟩

omit [RegisterStore σ Handle] in
theorem append (before : session.Wrote socket zone words first second)
    (after : session.Wrote socket zone others second third) :
    session.Wrote socket zone (words ++ others) first third := by
  obtain ⟨writes, written, same, places⟩ := before
  obtain ⟨further, still, rest, too⟩ := after
  refine ⟨writes ++ further, ?_, ?_, ?_⟩
  · rw [still, written, List.append_assoc]
  · rw [List.map_append, same, rest]
  · intro write member
    exact (List.mem_append.1 member).elim (places write) (too write)

end Wrote

/-- Whichever accesses fail, the action writes the words of a course of these updates, and it fails where
the course stops. -/
def Follows {ε : Type} (session : Session Handle) (socket : Nat) (zone : Zone) (state : Word → σ → Prop)
    (action : Action (Trial σ Handle) ε Unit)
    (updates : List (Word → Except ArgumentFault Word)) : Prop :=
  ∀ (trial : Trial σ Handle) (word : Word), state word trial.store →
    ∃ words after result, action.effect trial = (after, result) ∧
      Course updates word words result.isOk ∧ session.Wrote socket zone words trial after ∧
      state (words.getLastD word) after.store

namespace Follows

variable {ε : Type} {first second : Action (Trial σ Handle) ε Unit}
  {updates more : List (Word → Except ArgumentFault Word)}

omit [RegisterStore σ Handle] in
theorem pure : session.Follows socket zone state (Pure.pure () : Action (Trial σ Handle) ε Unit) [] :=
  fun trial word holds => ⟨[], trial, .ok (), rfl, .finished word, .nothing trial, holds⟩

omit [RegisterStore σ Handle] in
theorem bind (before : session.Follows socket zone state first updates)
    (after : session.Follows socket zone state second more) :
    session.Follows socket zone state (first >>= fun _ => second) (updates ++ more) := by
  intro trial word holds
  obtain ⟨words, middle, result, effect, course, wrote, between⟩ := before trial word holds
  simp only [Action.effect_bind, effect]
  cases result with
  | error error => exact ⟨words, middle, .error error, rfl, course.append_stopped more, wrote, between⟩
  | ok =>
    obtain ⟨others, last, final, further, rest, still, settled⟩ := after middle _ between
    refine ⟨words ++ others, last, final, further, course.append rest, wrote.append still, ?_⟩
    simpa using settled

theorem modifyLimit
    (keeps : ∀ handle, session.handles[socket]? = some handle → Keeps handle zone.limitRegister state)
    (update : Word → Except ArgumentFault Word) (events : Word → List Event) (f : Error → ε) :
    session.Follows socket zone state
      ((session.modifyLimit socket zone update events).mapError f) [update] := by
  intro trial word holds
  simp only [Action.effect_mapError, effect_modifyLimit]
  obtain ⟨error, failed⟩ | ⟨handle, old, new, after, addressed, found, computed, written, done⟩ :=
    session.exchange_cases socket zone update trial
  · rw [failed]
    exact ⟨[], trial, _, rfl, .stopped .., .nothing trial, holds⟩
  · have there := (zoneHandle_ok addressed).1
    have same : old = word := (keeps handle there).read holds (Trial.read_ok found)
    obtain ⟨stored, told⟩ := Trial.write_ok written
    rw [done]
    refine ⟨[new], after, _, rfl, .next (same ▸ computed) (.finished new), ?_, ?_⟩
    · refine ⟨_, told, rfl, ?_⟩
      intro write member
      cases List.mem_singleton.1 member
      exact ⟨there, rfl⟩
    · exact (keeps handle there).write holds stored

end Follows

end Session

end PowerLimits
