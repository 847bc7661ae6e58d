import PowerLimits.Proofs.Binary64.Multiples
import PowerLimits.Proofs.Session.Lifetime
import PowerLimits.Proofs.Session.Refusal

/-! Energy readings. The unit of an energy count is a power of one half or the fixed one of DRAM, and in
either case the count can be told from its reading, which stays below the reading at which the register
wraps. -/
namespace PowerLimits

theorem EnergyStatus.counter_ofWord (word : Word) : (ofWord word).counter = word.setWidth 32 := by
  apply BitVec.eq_of_getLsbD_eq
  intro i inside
  have fits : i < counterField.width := inside
  have place : counterField.lo + i = i := Nat.zero_add i
  simp only [ofWord, BitVec.getLsbD_setWidth, BitRange.getLsbD_get, place, fits, decide_true,
    Bool.and_true]

namespace UnitScale
open Binary64 BitRange

theorem exists_unit_joules (word : Word) :
    ∃ unit, IsCountUnit unit ∧ (UnitRegister.ofWord word).joules = finite false unit := by
  have halvings : (UnitRegister.energyField.get word).toNat ≤ 31 := toNat_get_le _ word
  apply exists_unit_halfPow
  rw [scale_eq]
  exact Nat.lt_of_le_of_lt halvings (by decide)

theorem exists_unit_fixedDramEnergy :
    ∃ unit, IsCountUnit unit ∧ Signature.fixedDramEnergy = finite false unit := by
  have few : 17 < Binary64.scale := by
    rw [scale_eq]
    decide
  exact exists_unit_ofRatio few (by decide) (by decide) (by decide)

/-- The unit of every energy count is one that counts can be told by. -/
theorem exists_unit_energyFor (word : Word) (signature : Signature) (zone : Zone) :
    ∃ unit, IsCountUnit unit ∧ (ofWord word signature).energyFor zone = finite false unit := by
  cases zone with
  | dram =>
    have dram : (ofWord word signature).energyFor .dram =
      signature.dramEnergy?.getD (UnitRegister.ofWord word).joules := rfl
    rw [dram, Signature.dramEnergy?]
    split
    · exact exists_unit_fixedDramEnergy
    · exact exists_unit_joules word
  | package | core | uncore | psys => exact exists_unit_joules word

end UnitScale

namespace Session
open RegisterStore Journal

variable {σ Handle : Type} [RegisterStore σ Handle]

/-- The session was made, from handles that were open or over the sockets of a topology. -/
inductive Made (σ : Type) [RegisterStore σ Handle] (signature : Signature) (session : Session Handle) :
    Prop where
  | ofHandles {features : Features} {handles : List Handle} {store : σ}
      (made : ((ofHandles features signature handles).run store).result = .ok session)
  | openWith {features : Features} {topology : Topology} {store : σ}
      {openSocket : Nat → Nat → Action σ Error Handle}
      (made : ((openWith features topology signature openSocket).run store).result = .ok session)

variable {signature : Signature} {session : Session Handle}

theorem scale_of_ofHandles {features : Features} {handles : List Handle} {store : σ}
    (made : ((ofHandles features signature handles).run store).result = .ok session) :
    ∃ word, session.scale = UnitScale.ofWord word signature := by
  have tells : Tells (ofHandles features signature handles : Action (Journal σ Handle) _ _)
      (ofHandles features signature handles) fun store => Founded features signature store handles :=
    (ofHandles_watches features signature handles).tells (effect_ofHandles features signature handles)
  obtain ⟨_, _, result, founded, effect, _⟩ := tells store []
  cases (congrArg Prod.snd effect).symm.trans made
  cases founded with
  | founded found => exact ⟨_, rfl⟩

theorem Made.scale (made : Made σ signature session) :
    ∃ word, session.scale = UnitScale.ofWord word signature := by
  cases made with
  | ofHandles made => exact scale_of_ofHandles made
  | @openWith features topology store openSocket made =>
    change ((Session.openWith features topology signature openSocket).effect store).2 = _ at made
    rw [Session.openWith, Action.effect_bind] at made
    cases opened : (openEach openSocket [] topology.sockets).effect store with
    | mk after result =>
      rw [opened] at made
      cases result with
      | ok handles => exact scale_of_ofHandles made
      | error error => contradiction

theorem effect_energyCounter {socket : Nat} {zone : Zone} {handle : Handle}
    (addressed : session.zoneHandle socket zone = .ok handle) (store : σ) :
    (session.energyCounter socket zone).effect store =
      (store, ((read store handle zone.energyRegister).mapError .access).map fun word =>
        .ofNat (EnergyStatus.ofWord word).counter.toNat * session.scale.energyFor zone) := by
  simp only [energyCounter, readRegister, addressed, Action.effect_bind, Action.effect_ofExcept,
    Action.effect_look, Action.effect_mapError]
  cases read store handle zone.energyRegister <;> rfl

/-- A socket's energy reading for a zone that the platform has is a function of the word in the register.
It is not negative and less than the reading at which the register wraps, and the order of readings is that
of the low halves of the words, so that no count is lost in the rounding. -/
theorem energy_below_wrap (made : Made σ signature session) {socket : Nat} {zone : Zone}
    {handle : Handle} (there : session.handles[socket]? = some handle)
    (supported : zone.isSupported session.features) :
    ∃ (wrap : Binary64) (reading : Word → Binary64),
      session.energyCounterMax socket zone = .ok wrap ∧
      (∀ store : σ, (session.energyCounter socket zone).effect store =
        (store, ((read store handle zone.energyRegister).mapError .access).map reading)) ∧
      ∀ word next : Word,
        Binary64.zero.le (reading word) ∧ (reading word).lt wrap ∧
        (reading word = reading next ↔ word.setWidth 32 = next.setWidth 32) ∧
        ((reading word).lt (reading next) ↔ word.setWidth 32 < next.setWidth 32) := by
  have addressed := zoneHandle_of_there there supported
  obtain ⟨units, scale⟩ := made.scale
  obtain ⟨unit, isUnit, energy⟩ := UnitScale.exists_unit_energyFor units signature zone
  rw [← scale] at energy
  refine ⟨.ofNat EnergyStatus.wrap * session.scale.energyFor zone, _, ?_,
    effect_energyCounter addressed, fun word next => ?_⟩
  · rw [energyCounterMax, addressed]
    rfl
  · rw [energy]
    have few (word : Word) : (EnergyStatus.ofWord word).counter.toNat < 0x100000000 :=
      (EnergyStatus.ofWord word).counter.isLt
    have fits (word : Word) := Nat.le_of_lt (few word)
    refine ⟨isUnit.zero_le_mul (fits word),
      (isUnit.mul_lt_mul_iff (fits word) (Nat.le_refl _)).2 (few word), ?_, ?_⟩
    · rw [isUnit.mul_eq_mul_iff (fits word) (fits next), BitVec.toNat_inj, EnergyStatus.counter_ofWord,
        EnergyStatus.counter_ofWord]
    · rw [isUnit.mul_lt_mul_iff (fits word) (fits next), EnergyStatus.counter_ofWord,
        EnergyStatus.counter_ofWord, BitVec.lt_def]

/-- A processor that counts DRAM energy in the fixed unit, with a count about to wrap. -/
def serverFiles : Memory where
  files := [⟨0, (RegisterMap.empty.set 0x606 0xA0E03).set 0x619 0xDEADBEEFFFFFFFFF, [], none, 0⟩]
  opened := []

def server : Session Nat := ⟨[0], UnitScale.ofWord 0xA0E03 ⟨"GenuineIntel", 6, 0x55, 4⟩, .all⟩

theorem energy_below_wrap_dram :
    server.scale.energyFor .dram = Signature.fixedDramEnergy ∧
    ∃ (wrap : Binary64) (reading : Word → Binary64),
      server.energyCounterMax 0 .dram = .ok wrap ∧
      (server.energyCounter 0 .dram).effect serverFiles =
        (serverFiles, .ok (reading 0xDEADBEEFFFFFFFFF)) ∧
      (reading 0xDEADBEEFFFFFFFFF).lt wrap ∧
      reading 0xDEADBEEFFFFFFFFF = reading 0xFFFFFFFF ∧
      (reading 0xFFFFFFFE).lt (reading 0xDEADBEEFFFFFFFFF) := by
  have begun : ((ofHandles .all ⟨"GenuineIntel", 6, 0x55, 4⟩ [0]).run serverFiles).result =
    .ok server := rfl
  have there : server.handles[0]? = some 0 := rfl
  have supported : Zone.dram.isSupported server.features := rfl
  obtain ⟨wrap, reading, most, reads, order⟩ := energy_below_wrap (.ofHandles begun) there supported
  obtain ⟨_, below, same, _⟩ := order 0xDEADBEEFFFFFFFFF 0xFFFFFFFF
  obtain ⟨_, _, _, less⟩ := order 0xFFFFFFFE 0xDEADBEEFFFFFFFFF
  exact ⟨rfl, wrap, reading, most, reads serverFiles, below, same.2 (by decide), less.2 (by decide)⟩

end Session

end PowerLimits
