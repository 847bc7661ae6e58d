import PowerLimits.Proofs.LimitRegister.Settings
import PowerLimits.Proofs.Session.Registers
import PowerLimits.Session.Lifetime

/-! The last writer wins, field by field. Whatever a course of a session asks of which sockets, a
limit register ends with each of its settings as the last successful request that gave one left it,
and with all its other bits as they were. It does so too where between the requests other registers
change, come and go, and writes begin to fail or no longer do. -/
namespace PowerLimits

namespace Operation

/-- The strictly positive watts that an operation gives for a constraint. -/
def watts? (term : Term) : Operation → Option Binary64
  | .setLimits longTerm shortTerm =>
    ((term.pick longTerm shortTerm).map Limit.watts).filter Binary64.isPositive
  | _ => none

/-- The strictly positive seconds that an operation gives for a constraint. -/
def seconds? (term : Term) : Operation → Option Binary64
  | .setLimits longTerm shortTerm =>
    ((term.pick longTerm shortTerm).map Limit.seconds).filter Binary64.isPositive
  | _ => none

def enabled? : Operation → Option Bool
  | .setEnabled enabled => some enabled
  | _ => none

/-- Enabling clamps too. -/
def clamped? : Operation → Option Bool
  | .setEnabled flag | .setClamped flag => some flag
  | _ => none

def last? {α : Type} (part : Operation → Option α) (operations : List Operation) : Option α :=
  (operations.filterMap part).getLast?

theorem last?_cons {α : Type} (part : Operation → Option α) (operation : Operation)
    (rest : List Operation) : last? part (operation :: rest) = (last? part rest).or (part operation) := by
  unfold last?
  cases given : part operation with
  | none => rw [List.filterMap_cons_none given, Option.or_none]
  | some value =>
    rw [List.filterMap_cons_some given, List.getLast?_cons]
    cases (rest.filterMap part).getLast? <;> rfl

theorem getD_last?_cons {α β : Type} (part : Operation → Option α) (f : α → β) (initial : β)
    (operation : Operation) (rest : List Operation) :
    ((last? part (operation :: rest)).map f).getD initial =
      ((last? part rest).map f).getD (((part operation).map f).getD initial) := by
  rw [last?_cons]
  cases last? part rest <;> rfl

end Operation

namespace LimitRegister
open Operation BitRange

/-- What an operation makes of the settings of a constraint. -/
def settled (zone : Zone) (scale : UnitScale) (term : Term) (setting : Setting)
    (operation : Operation) : Setting where
  power := ((operation.watts? term).map (powerCount scale term.fields)).getD setting.power
  enabled := operation.enabled?.getD setting.enabled
  clamped := operation.clamped?.getD setting.clamped
  exponent :=
    ((operation.seconds? term).map fun seconds =>
      windowExponent term.fields (windowLog zone scale setting.fraction seconds)).getD setting.exponent
  fraction := setting.fraction

variable {zone : Zone} {scale : UnitScale} {operation : Operation} {word after : Word}
  {update : Word → Except ArgumentFault Word}

theorem settled_of_reads (reads : operation.update? zone scale = none) (term : Term)
    (setting : Setting) : settled zone scale term setting operation = setting := by
  cases operation with
  | setEnabled | setClamped | setLimits => contradiction
  | _ => rfl

theorem settled_setLimits (term : Term) (setting : Setting) (longTerm shortTerm : Option Limit) :
    settled zone scale term setting (.setLimits longTerm shortTerm) =
      (term.pick longTerm shortTerm).elim setting (limited zone scale term.fields · setting) := by
  simp only [settled, watts?, seconds?, enabled?, clamped?]
  cases term.pick longTerm shortTerm with
  | none => rfl
  | some limit =>
    by_cases watts : limit.watts.isPositive <;> by_cases seconds : limit.seconds.isPositive <;>
      simp [limited, watts, seconds, Option.filter]

theorem setting_update (sets : operation.update? zone scale = some update)
    (computed : update word = .ok after) {term : Term} (member : term ∈ zone.domainClass.terms) :
    setting term.fields after = settled zone scale term (setting term.fields word) operation := by
  cases operation with
  | setEnabled enabled =>
    cases Option.some.inj sets
    cases Except.ok.inj computed
    exact setting_setEnabled zone member word enabled
  | setClamped clamped =>
    cases Option.some.inj sets
    cases Except.ok.inj computed
    exact setting_setClamped zone member word clamped
  | setLimits longTerm shortTerm =>
    cases Option.some.inj sets
    rw [settled_setLimits]
    exact setting_encode computed term
  | _ => contradiction

/-- What the last of these operations to give each setting makes of a constraint. -/
def lastGiven (zone : Zone) (scale : UnitScale) (term : Term) (initial : Setting)
    (operations : List Operation) : Setting where
  power := ((last? (watts? term) operations).map (powerCount scale term.fields)).getD initial.power
  enabled := (last? enabled? operations).getD initial.enabled
  clamped := (last? clamped? operations).getD initial.clamped
  exponent :=
    ((last? (seconds? term) operations).map fun seconds =>
      windowExponent term.fields (windowLog zone scale initial.fraction seconds)).getD initial.exponent
  fraction := initial.fraction

theorem foldl_settled (zone : Zone) (scale : UnitScale) (term : Term) (initial : Setting)
    (operations : List Operation) :
    operations.foldl (settled zone scale term) initial =
      lastGiven zone scale term initial operations := by
  -- The first operation changes where the rest start, but never the fraction they start with.
  induction operations generalizing initial with
  | nil => rfl
  | cons operation rest ih =>
    have flag (part : Operation → Option Bool) (start : Bool) :
        (last? part (operation :: rest)).getD start =
          (last? part rest).getD ((part operation).getD start) := by
      simpa only [Option.map_id, id_eq] using getD_last?_cons part id start operation rest
    rw [List.foldl_cons, ih]
    simp only [lastGiven, settled, getD_last?_cons, flag]

end LimitRegister

namespace Session
open LimitRegister Operation BitRange

/-- The operations that succeeded on a zone of a socket, in their order. -/
def succeeded (socket : Nat) (zone : Zone) (requests : List Request)
    (results : List (Except Error Answer)) : List Operation :=
  (requests.zip results).filterMap fun (request, result) =>
    if request.socket = socket ∧ request.zone = zone ∧ result.isOk then some request.operation
    else none

variable {session : Session Nat} {memory : Memory} {socket handle : Nat} {zone : Zone} {word : Word}

theorem succeeded_cons (socket : Nat) (zone : Zone) (request : Request) (requests : List Request)
    (result : Except Error Answer) (results : List (Except Error Answer)) :
    succeeded socket zone (request :: requests) (result :: results) =
      (if request.socket = socket ∧ request.zone = zone ∧ result.isOk then [request.operation]
        else []) ++ succeeded socket zone requests results := by
  simp only [succeeded, List.zip_cons_cons, List.filterMap_cons]
  by_cases counts : request.socket = socket ∧ request.zone = zone ∧ result.isOk
  · simp only [counts, and_self, if_true, List.singleton_append]
  · simp only [counts, if_false, List.nil_append]

theorem Exchanged.setting_eq {request : Request} {old new : Word}
    {outcome : Outcome Memory Error Answer}
    (exchanged : session.Exchanged request memory handle old new outcome) {term : Term}
    (member : term ∈ request.zone.domainClass.terms) :
    setting term.fields new =
      settled request.zone session.scale term (setting term.fields old) request.operation := by
  obtain ⟨update, sets, computed⟩ := exchanged.computed
  exact setting_update sets computed member

theorem perform_settled (distinct : session.handles.Nodup)
    (there : session.handles[socket]? = some handle)
    (present : memory.word? handle zone.limitRegister = some word) (request : Request) :
    ∃ next,
      ((session.perform request).run memory).store.word? handle zone.limitRegister = some next ∧
      AgreeOutside zone.domainClass.settable word next ∧
      ∀ term ∈ zone.domainClass.terms,
        setting term.fields next =
          (if request.socket = socket ∧ request.zone = zone ∧
              ((session.perform request).run memory).result.isOk then
            settled zone session.scale term (setting term.fields word) request.operation
          else setting term.fields word) := by
  obtain ⟨kept, quiet⟩ | ⟨other, old, new, exchanged⟩ := session.perform_cases request memory
  · refine ⟨word, by rw [kept, present], .refl _ _, ?_⟩
    intro term _
    split
    next counts =>
      obtain ⟨rfl, rfl, fine⟩ := counts
      obtain reads | ⟨error, failed⟩ := quiet
      · rw [settled_of_reads reads]
      · rw [failed] at fine
        contradiction
    next => rfl
  · by_cases target : request.socket = socket ∧ request.zone = zone
    · obtain ⟨rfl, rfl⟩ := target
      have same : handle = other :=
        Option.some.inj (there.symm.trans (zoneHandle_ok exchanged.addressed).1)
      cases same
      cases Option.some.inj (present.symm.trans exchanged.present)
      refine ⟨new, by rw [exchanged.word?, if_pos ⟨rfl, rfl⟩], exchanged.agreeOutside, ?_⟩
      intro term member
      rw [exchanged.answered, if_pos ⟨rfl, rfl, rfl⟩]
      exact exchanged.setting_eq member
    · refine ⟨word, (exchanged.word?_elsewhere distinct there target).trans present, .refl _ _, ?_⟩
      intro term _
      rw [if_neg (fun counts => target ⟨counts.1, counts.2.1⟩)]

/-- A request, and what happens to the register files before it. -/
structure Turn where
  changes : List Memory.Change
  request : Request

def performTurns (session : Session Nat) (memory : Memory) :
    List Turn → Memory × List (Except Error Answer)
  | [] => (memory, [])
  | turn :: rest =>
    let outcome := (session.perform turn.request).run (turn.changes.foldl Memory.Change.apply memory)
    let (last, results) := performTurns session outcome.store rest
    (last, outcome.result :: results)

theorem performTurns_unchanged (session : Session Nat) (memory : Memory) (requests : List Request) :
    session.performTurns memory (requests.map (Turn.mk [])) = session.performAll memory requests := by
  induction requests generalizing memory with
  | nil => rfl
  | cons request rest ih =>
    simp only [List.map_cons, performTurns, performAll, List.foldl_nil, ih]

theorem performTurns_settled (distinct : session.handles.Nodup)
    (there : session.handles[socket]? = some handle) {turns : List Turn}
    (spared : ∀ turn ∈ turns, ∀ change ∈ turn.changes, change.Spares handle zone.limitRegister)
    (present : memory.word? handle zone.limitRegister = some word) :
    ∃ last, (session.performTurns memory turns).1.word? handle zone.limitRegister = some last ∧
      AgreeOutside zone.domainClass.settable word last ∧
      ∀ term ∈ zone.domainClass.terms,
        setting term.fields last =
          (succeeded socket zone (turns.map Turn.request)
            (session.performTurns memory turns).2).foldl
            (settled zone session.scale term) (setting term.fields word) := by
  -- The rest of the course starts with the word that the first request leaves, and with its setting.
  induction turns generalizing memory word with
  | nil => exact ⟨word, present, .refl _ _, fun _ _ => rfl⟩
  | cons turn rest ih =>
    obtain ⟨first, later⟩ := List.forall_mem_cons.1 spared
    have found := (Memory.word?_changes first memory).trans present
    obtain ⟨next, stored, agree, settles⟩ := perform_settled distinct there found turn.request
    obtain ⟨last, final, still, settle⟩ := ih later stored
    refine ⟨last, final, agree.trans still, ?_⟩
    intro term member
    rw [settle term member, settles term member, List.map_cons, performTurns, succeeded_cons,
      List.foldl_append]
    congr 1
    split <;> rfl

/-- Whatever changes other registers between the requests of a course, and to whichever registers writes
fail in the meantime, each setting ends as the last successful operation to give it left it. -/
theorem last_given_amid_changes (distinct : session.handles.Nodup)
    (there : session.handles[socket]? = some handle) {turns : List Turn}
    (spared : ∀ turn ∈ turns, ∀ change ∈ turn.changes, change.Spares handle zone.limitRegister)
    (present : memory.word? handle zone.limitRegister = some word) :
    ∃ last, (session.performTurns memory turns).1.word? handle zone.limitRegister = some last ∧
      AgreeOutside zone.domainClass.settable word last ∧
      ∀ term ∈ zone.domainClass.terms,
        setting term.fields last =
          lastGiven zone session.scale term (setting term.fields word)
            (succeeded socket zone (turns.map Turn.request) (session.performTurns memory turns).2) := by
  obtain ⟨last, final, agree, settles⟩ := performTurns_settled distinct there spared present
  refine ⟨last, final, agree, ?_⟩
  intro term member
  rw [settles term member, foldl_settled]

/-- Each setting ends as the last successful operation to give it left it, and every bit that cannot
be set ends as it was. -/
theorem last_writer_wins (distinct : session.handles.Nodup)
    (there : session.handles[socket]? = some handle)
    (present : memory.word? handle zone.limitRegister = some word) (requests : List Request) :
    ∃ last, (session.performAll memory requests).1.word? handle zone.limitRegister = some last ∧
      AgreeOutside zone.domainClass.settable word last ∧
      ∀ term ∈ zone.domainClass.terms,
        setting term.fields last =
          lastGiven zone session.scale term (setting term.fields word)
            (succeeded socket zone requests (session.performAll memory requests).2) := by
  have spared : ∀ turn ∈ requests.map (Turn.mk []), ∀ change ∈ turn.changes,
      change.Spares handle zone.limitRegister := by
    intro turn member change changed
    obtain ⟨request, _, rfl⟩ := List.mem_map.1 member
    contradiction
  have given := last_given_amid_changes distinct there spared present
  have asked : (requests.map (Turn.mk [])).map Turn.request = requests := by
    rw [List.map_map]
    exact List.map_id requests
  rwa [performTurns_unchanged, asked] at given

theorem last_writer_wins_pair :
    ∃ last, (pair.performAll pairFiles pairCourse).1.word? 1 0x610 = some last ∧
      setting .longTerm last = ⟨0x7FFF, true, false, 12, 3⟩ ∧
      setting .shortTerm last = ⟨0x210, true, false, 9, 1⟩ := by
  have distinct : pair.handles.Nodup := by decide
  have present : pairFiles.word? 1 Zone.package.limitRegister = some 0x8042821000DD8190 := by decide
  have there : pair.handles[0]? = some 1 := rfl
  obtain ⟨last, final, agree, settles⟩ := last_writer_wins distinct there present pairCourse
  have done : succeeded 0 .package pairCourse (pair.performAll pairFiles pairCourse).2 =
    [.setLimits (some ⟨.ofNat 95, .ofNat 8⟩) (some ⟨.nan, .ofNat 1⟩), .setEnabled true,
      .setLimits (some ⟨.infinite false, -.ofNat 8⟩) none, .setClamped false, .getLimits] := by
    decide +kernel
  refine ⟨last, final, (settles .long (by decide)).trans ?_, (settles .short (by decide)).trans ?_⟩
  · rw [done]
    decide +kernel
  · rw [done]
    decide +kernel

end Session

end PowerLimits
