import PowerLimits.Proofs.Session.Registers

/-! What no request reaches. Whatever a course of a session asks, each word of each file is as it was,
but for the bits that can be set in the limit words of the zones that the platform has. -/
namespace PowerLimits

/-- The bits of a constraint, its time fraction included. -/
def Term.area : Term → Nat → Prop
  | .long, i => i ≤ 23
  | .short, i => 32 ≤ i ∧ i ≤ 55

def Memory.bit? (memory : Memory) (handle : Nat) (address : Word) (i : Nat) : Option Bool :=
  (memory.word? handle address).map (·.getLsbD i)

namespace LimitRegister
open BitRange

theorem not_settable_of_area {target term : Term} (different : target ≠ term) {i : Nat}
    (inside : term.area i) : ¬ target.settable i := by
  cases term with
  | long =>
    cases target with
    | long => contradiction
    | short =>
      simp only [Term.area, Term.settable] at *
      omega
  | short =>
    cases target with
    | long =>
      simp only [Term.area, Term.settable] at *
      omega
    | short => contradiction

theorem agree_encode_absent {zone : Zone} {scale : UnitScale} {word after : Word}
    {longTerm shortTerm : Option Limit} {term : Term}
    (encoded : encode zone scale word longTerm shortTerm = .ok after)
    (absent : term.pick longTerm shortTerm = none) {i : Nat} (inside : term.area i) :
    after.getLsbD i = word.getLsbD i := by
  obtain ⟨_, rfl⟩ := encode_ok encoded
  cases term with
  | long =>
    have different : Term.short ≠ Term.long := nofun
    cases (absent : longTerm = none)
    exact agreeOutside_given zone scale .short word shortTerm i (not_settable_of_area different inside)
  | short =>
    have different : Term.long ≠ Term.short := nofun
    cases (absent : shortTerm = none)
    exact agreeOutside_given zone scale .long word longTerm i (not_settable_of_area different inside)

end LimitRegister

namespace Session
open LimitRegister BitRange

/-- What can become of the word at an address. -/
inductive Kept (features : Features) (address : Word) : Option Word → Option Word → Prop where
  | same (word : Option Word) : Kept features address word word
  | set {zone : Zone} {old new : Word} (supported : zone.isSupported features)
      (register : address = zone.limitRegister)
      (agree : AgreeOutside zone.domainClass.settable old new) :
      Kept features address (some old) (some new)

namespace Kept

variable {features : Features} {address : Word} {first second third : Option Word}

theorem trans (before : Kept features address first second)
    (after : Kept features address second third) : Kept features address first third := by
  cases before with
  | same => exact after
  | set supported register agree =>
    cases after with
    | same => exact .set supported register agree
    | set _ again still =>
      cases Zone.limitRegister_injective (register.symm.trans again)
      exact .set supported register (agree.trans still)

theorem isSome_eq (kept : Kept features address first second) : second.isSome = first.isSome := by
  cases kept <;> rfl

theorem elsewhere (kept : Kept features address first second)
    (other : ∀ zone : Zone, zone.isSupported features → address ≠ zone.limitRegister) :
    second = first := by
  cases kept with
  | same => rfl
  | set supported register agree => exact absurd register (other _ supported)

theorem bit_eq {zone : Zone} (kept : Kept features zone.limitRegister first second) {i : Nat}
    (outside : ¬ zone.domainClass.settable i) :
    second.map (·.getLsbD i) = first.map (·.getLsbD i) := by
  cases kept with
  | same => rfl
  | set supported register agree =>
    cases Zone.limitRegister_injective register
    exact congrArg some (agree i outside)

end Kept

variable {session : Session Nat} {memory : Memory}

theorem perform_elsewhere (request : Request) {handle : Nat} {address : Word}
    (other : ¬ (session.handles[request.socket]? = some handle ∧
      address = request.zone.limitRegister)) :
    ((session.perform request).run memory).store.word? handle address =
      memory.word? handle address := by
  obtain ⟨kept, _⟩ | ⟨target, old, new, exchanged⟩ := session.perform_cases request memory
  · rw [kept]
  · rw [exchanged.word?, if_neg]
    rintro ⟨rfl, register⟩
    exact other ⟨(zoneHandle_ok exchanged.addressed).1, register⟩

theorem perform_kept (session : Session Nat) (memory : Memory) (request : Request) (handle : Nat)
    (address : Word) :
    Kept session.features address (memory.word? handle address)
      (((session.perform request).run memory).store.word? handle address) := by
  obtain ⟨kept, _⟩ | ⟨target, old, new, exchanged⟩ := session.perform_cases request memory
  · rw [kept]
    exact .same _
  · rw [exchanged.word?]
    split
    next here =>
      obtain ⟨rfl, rfl⟩ := here
      rw [exchanged.present]
      exact .set (zoneHandle_ok exchanged.addressed).2 rfl exchanged.agreeOutside
    next => exact .same _

theorem performAll_kept (session : Session Nat) (memory : Memory) (requests : List Request)
    (handle : Nat) (address : Word) :
    Kept session.features address (memory.word? handle address)
      ((session.performAll memory requests).1.word? handle address) := by
  apply performAll_induct fun after : Memory =>
    Kept session.features address (memory.word? handle address) (after.word? handle address)
  · intro store request before
    exact before.trans (perform_kept session store request handle address)
  · exact .same _

theorem perform_absent {request : Request} {longTerm shortTerm : Option Limit} {term : Term}
    (limits : request.operation = .setLimits longTerm shortTerm)
    (absent : term.pick longTerm shortTerm = none) (handle : Nat) {i : Nat}
    (inside : term.area i) :
    ((session.perform request).run memory).store.bit? handle request.zone.limitRegister i =
      memory.bit? handle request.zone.limitRegister i := by
  obtain ⟨kept, _⟩ | ⟨target, old, new, exchanged⟩ := session.perform_cases request memory
  · rw [kept]
  · obtain ⟨update, sets, computed⟩ := exchanged.computed
    rw [limits] at sets
    cases Option.some.inj sets
    unfold Memory.bit?
    rw [exchanged.word?]
    split
    next here =>
      rw [here.1, exchanged.present]
      exact congrArg some (agree_encode_absent computed absent inside)
    next => rfl

/-- A course changes nothing but settable bits of limit words of zones that the platform has; one
request, none but those of its zone and its socket, and of the constraints that it gives a limit for. -/
theorem only_settable_bits_change (session : Session Nat) (memory : Memory) :
    (∀ (requests : List Request) (handle : Nat),
      let after := (session.performAll memory requests).1
      (∀ address, (after.word? handle address).isSome = (memory.word? handle address).isSome) ∧
      (∀ address, (∀ zone : Zone, zone.isSupported session.features → address ≠ zone.limitRegister) →
        after.word? handle address = memory.word? handle address) ∧
      after.word? handle unitRegister = memory.word? handle unitRegister ∧
      (∀ zone : Zone,
        after.word? handle zone.energyRegister = memory.word? handle zone.energyRegister) ∧
      ∀ (zone : Zone) (i : Nat), ¬ zone.domainClass.settable i →
        after.bit? handle zone.limitRegister i = memory.bit? handle zone.limitRegister i) ∧
    ∀ request : Request,
      let after := ((session.perform request).run memory).store
      (∀ handle address, ¬ (session.handles[request.socket]? = some handle ∧
          address = request.zone.limitRegister) →
        after.word? handle address = memory.word? handle address) ∧
      (request.operation.update? request.zone session.scale = none → after = memory) ∧
      ∀ longTerm shortTerm (term : Term), request.operation = .setLimits longTerm shortTerm →
        term.pick longTerm shortTerm = none → ∀ handle i, term.area i →
          after.bit? handle request.zone.limitRegister i =
            memory.bit? handle request.zone.limitRegister i := by
  refine ⟨fun requests handle => ?_, fun request => ?_⟩
  · have kept := performAll_kept session memory requests handle
    refine ⟨fun address => (kept address).isSome_eq, fun address => (kept address).elsewhere,
      ?_, ?_, ?_⟩
    · apply (kept unitRegister).elsewhere
      intro zone _
      cases zone <;> decide
    · intro zone
      apply (kept zone.energyRegister).elsewhere
      intro other _
      cases zone <;> cases other <;> decide
    · intro zone i outside
      exact (kept zone.limitRegister).bit_eq outside
  · refine ⟨fun handle address => perform_elsewhere request, fun reads => ?_, ?_⟩
    · exact perform_quiet session reads memory
    · intro longTerm shortTerm term limits absent handle i inside
      exact perform_absent limits absent handle inside

theorem only_settable_bits_change_pair :
    let course := (pair.performAll pairFiles pairCourse).1
    let limited := ((pair.perform ⟨0, .package, .setLimits (some ⟨.ofNat 95, .ofNat 8⟩) none⟩).run
      pairFiles).store
    course.bit? 1 0x610 63 = some true ∧ course.word? 0 0x606 = some 0xA0E03 ∧
      limited.bit? 1 0x610 49 = some true ∧ limited.word? 0 0x606 = some 0xA0E03 ∧
      ((pair.perform ⟨0, .package, .getLimits⟩).run pairFiles).store = pairFiles := by
  obtain ⟨course, single⟩ := only_settable_bits_change pair pairFiles
  obtain ⟨_, _, _, _, locked⟩ := course pairCourse 1
  obtain ⟨_, _, units, _⟩ := course pairCourse 0
  obtain ⟨other, _, absent⟩ := single ⟨0, .package, .setLimits (some ⟨.ofNat 95, .ofNat 8⟩) none⟩
  obtain ⟨_, quiet, _⟩ := single ⟨0, .package, .getLimits⟩
  refine ⟨?_, units.trans (by decide), ?_, ?_, quiet rfl⟩
  · refine (locked .package 63 ?_).trans (by decide)
    simp only [Zone.domainClass, DomainClass.settable]
    decide
  · exact (absent _ _ .short rfl rfl 1 49 ⟨by decide, by decide⟩).trans (by decide)
  · exact (other 0 unitRegister (by decide)).trans (by decide)

end Session

end PowerLimits
