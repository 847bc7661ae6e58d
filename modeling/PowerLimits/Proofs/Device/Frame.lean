import PowerLimits.Proofs.Device.Registers
import PowerLimits.Proofs.Session.Step

/-! The bytes that a session over device files can reach. Whatever it is asked, no file changes its
length, and no byte changes that is not one of a limit register in the file of one of its devices. -/
namespace PowerLimits

namespace Bytes

/-- The offsets of the bytes of the register at an offset. -/
def within (offset i : Nat) : Prop := offset ≤ i ∧ i < offset + registerSize

instance (offset i : Nat) : Decidable (within offset i) := inferInstanceAs (Decidable (_ ∧ _))

/-- As long as before, and with the same bytes outside the area. -/
structure KeptOutside (area : Nat → Prop) (before after : Bytes) : Prop where
  length : after.length = before.length
  bytes : ∀ i, ¬ area i → after[i]? = before[i]?

namespace KeptOutside

variable {area wider : Nat → Prop} {first second third : Bytes}

theorem trans (before : KeptOutside area first second) (after : KeptOutside area second third) :
    KeptOutside area first third :=
  ⟨after.length.trans before.length,
    fun i outside => (after.bytes i outside).trans (before.bytes i outside)⟩

theorem weaken (inside : ∀ i, area i → wider i) (kept : KeptOutside area first second) :
    KeptOutside wider first second :=
  ⟨kept.length, fun i outside => kept.bytes i (mt (inside i) outside)⟩

end KeptOutside

theorem keptOutside_overwrite {bytes : Bytes} {offset : Nat}
    (fits : offset + registerSize ≤ bytes.length) (word : Word) :
    bytes.KeptOutside (within offset) (bytes.overwrite offset (ofWord word)) := by
  have fits := (length_ofWord word).symm ▸ fits
  refine ⟨length_overwrite fits, fun i outside => ?_⟩
  rw [getElem?_overwrite fits, length_ofWord]
  exact if_neg outside

end Bytes

namespace FileTree

/-- Each node is as it was, or it is a file of one of these names and differs within the area alone. -/
def KeptOutside (names : List (List String)) (area : Nat → Prop) (before after : FileTree) : Prop :=
  ∀ others, after.node? others = before.node? others ∨
    others ∈ names ∧ ∃ old new, before.node? others = some (.file old) ∧
      after.node? others = some (.file new) ∧ old.KeptOutside area new

namespace KeptOutside

variable {names more : List (List String)} {area wider : Nat → Prop} {first second third : FileTree}

theorem refl (names : List (List String)) (area : Nat → Prop) (tree : FileTree) :
    tree.KeptOutside names area tree := fun _ => .inl rfl

theorem trans (before : first.KeptOutside names area second)
    (after : second.KeptOutside names area third) : first.KeptOutside names area third := by
  intro others
  obtain same | ⟨member, old, middle, there, between, kept⟩ := before others
  · rw [← same]
    exact after others
  · obtain same | ⟨_, again, new, found, last, still⟩ := after others
    · exact .inr ⟨member, old, middle, there, same.trans between, kept⟩
    · cases Option.some.inj (between.symm.trans found)
      exact .inr ⟨member, old, new, there, last, kept.trans still⟩

theorem weaken (more_names : ∀ others ∈ names, others ∈ more) (inside : ∀ i, area i → wider i)
    (kept : first.KeptOutside names area second) : first.KeptOutside more wider second := by
  intro others
  refine (kept others).imp id ?_
  rintro ⟨member, old, new, there, last, still⟩
  exact ⟨more_names others member, old, new, there, last, still.weaken inside⟩

end KeptOutside

theorem keptOutside_setFile {tree : FileTree} {names : List String} {old new : Bytes}
    {area : Nat → Prop} (there : tree.node? names = some (.file old))
    (kept : old.KeptOutside area new) : tree.KeptOutside [names] area (tree.setFile names new) := by
  intro others
  rw [node?_setFile there]
  by_cases same : others = names
  · subst same
    exact .inr ⟨List.mem_singleton_self _, old, new, there, if_pos rfl, kept⟩
  · exact .inl (if_neg same)

end FileTree

/-- The offsets of the bytes of all limit registers. -/
def Zone.limitBytes (i : Nat) : Prop := ∃ zone : Zone, Bytes.within zone.limitRegister.toNat i

namespace Session
open RegisterStore

variable {session : Session Device} {tree : FileTree}

/-- The register was read before, so that the file is long enough for it. -/
theorem Exchanged.keptOutside {request : Request} {device : Device} {old new : Word}
    {outcome : Outcome FileTree Error Answer}
    (exchanged : session.Exchanged request tree device old new outcome) :
    tree.KeptOutside [device.names] (Bytes.within request.zone.limitRegister.toNat) outcome.store := by
  obtain ⟨bytes, there, present⟩ := Device.exists_of_read_ok exchanged.found
  obtain ⟨again, found, after⟩ := Device.exists_of_write_ok exchanged.written
  have same : again = bytes := FileNode.file.inj (Option.some.inj (found.symm.trans there))
  have fits := Bytes.fits_of_word? present
  rw [after, same]
  exact FileTree.keptOutside_setFile there (Bytes.keptOutside_overwrite fits new)

theorem perform_keptOutside (session : Session Device) (tree : FileTree) (request : Request) :
    tree.KeptOutside (session.handles.map Device.names) Zone.limitBytes
      ((session.perform request).run tree).store := by
  obtain ⟨kept, _⟩ | ⟨device, old, new, exchanged⟩ := session.perform_cases request tree
  · rw [kept]
    exact .refl _ _ _
  · have member : device ∈ session.handles :=
      List.mem_of_getElem? (zoneHandle_ok exchanged.addressed).1
    refine exchanged.keptOutside.weaken ?_ fun i inside => ⟨request.zone, inside⟩
    intro others same
    cases List.mem_singleton.1 same
    exact List.mem_map_of_mem member

theorem performAll_keptOutside (session : Session Device) (tree : FileTree)
    (requests : List Request) :
    tree.KeptOutside (session.handles.map Device.names) Zone.limitBytes
      (session.performAll tree requests).1 := by
  apply performAll_induct fun after : FileTree =>
    tree.KeptOutside (session.handles.map Device.names) Zone.limitBytes after
  · intro middle request before
    exact before.trans (perform_keptOutside session middle request)
  · exact .refl _ _ _

end Session

end PowerLimits
