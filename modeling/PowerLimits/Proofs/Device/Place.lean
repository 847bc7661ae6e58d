import Mathlib.Data.List.Nodup
import PowerLimits.Proofs.Device.Registers

/-! Where the devices of a processor lie. Whatever the root directory is called, the names on the way to
a device end in the number of its processor and the name of its interface, so that the devices of two
processors are two files. -/
namespace PowerLimits

namespace Path

theorem segments_ne_nil (path : List Char) : segments path ≠ [] := by
  cases path with
  | nil => exact List.cons_ne_nil _ _
  | cons c rest =>
    rw [segments]
    split
    · exact List.cons_ne_nil _ _
    · split <;> exact List.cons_ne_nil _ _

theorem segments_append (path rest : List Char) :
    segments (path ++ '/' :: rest) = segments path ++ segments rest := by
  induction path with
  | nil => rfl
  | cons c path ih =>
    simp only [List.cons_append, segments, ih]
    split
    · rfl
    · cases first : segments path with
      | nil => exact absurd first (segments_ne_nil path)
      | cons => rfl

theorem segments_of_plain {name : List Char} (plain : '/' ∉ name) : segments name = [name] := by
  induction name with
  | nil => rfl
  | cons c rest ih =>
    rw [List.mem_cons, not_or] at plain
    rw [segments, if_neg (Ne.symm plain.1), ih plain.2]

/-- What `join` puts before a name. -/
def stem (directory : String) : List Char :=
  if directory.toList = [] ∨ directory.toList.getLast? = some '/' then directory.toList
  else directory.toList ++ ['/']

theorem toList_join (directory name : String) :
    (join directory name).toList = stem directory ++ name.toList := by
  unfold join stem
  split <;> simp

theorem stem_cases (directory : String) :
    stem directory = [] ∨ ∃ path, stem directory = path ++ ['/'] := by
  unfold stem
  split
  next closed =>
    refine closed.imp_right fun last => ?_
    obtain ⟨path, ends⟩ := List.getLast?_eq_some_iff.1 last
    exact ⟨path, ends⟩
  next => exact .inr ⟨_, rfl⟩

theorem stem_of_plain {directory : String} {c : Char} (last : directory.toList.getLast? = some c)
    (plain : c ≠ '/') : stem directory = directory.toList ++ ['/'] := by
  refine if_neg (not_or.2 ⟨?_, ?_⟩)
  · intro empty
    rw [empty] at last
    contradiction
  · intro slash
    exact plain (Option.some.inj (last.symm.trans slash))

theorem step_plain {name : String} (nonempty : name ≠ "") (here : name ≠ ".") (up : name ≠ "..")
    (names : List String) : step names name = names ++ [name] := by
  rw [step, if_neg (not_or.2 ⟨nonempty, here⟩), if_neg up]

end Path

namespace DeviceKind

theorem plain_fileName (kind : DeviceKind) : '/' ∉ kind.fileName.toList := by
  cases kind <;> decide

theorem step_fileName (names : List String) (kind : DeviceKind) :
    Path.step names kind.fileName = names ++ [kind.fileName] := by
  cases kind <;> exact Path.step_plain (by decide) (by decide) (by decide) names

end DeviceKind

theorem isDigit_of_mem_toString {cpu : Nat} {c : Char} (member : c ∈ (toString cpu).toList) :
    c.isDigit = true := by
  change c ∈ cpu.repr.toList at member
  rw [Nat.toList_repr] at member
  exact Nat.isDigit_of_mem_toDigits (by decide) (by decide) member

theorem toString_cpu_injective : Function.Injective (toString : Nat → String) := by
  intro cpu other same
  have digits : Nat.toDigits 10 cpu = Nat.toDigits 10 other := by
    rw [← Nat.toList_repr, ← Nat.toList_repr]
    exact congrArg String.toList same
  calc
    cpu = Nat.ofDigitChars 10 (Nat.toDigits 10 cpu) 0 := Nat.ofDigitChars_ten_toDigits.symm
    _ = Nat.ofDigitChars 10 (Nat.toDigits 10 other) 0 := by rw [digits]
    _ = other := Nat.ofDigitChars_ten_toDigits

theorem exists_getLast?_toString (cpu : Nat) :
    ∃ c, (toString cpu).toList.getLast? = some c ∧ c.isDigit = true := by
  cases last : (toString cpu).toList.getLast? with
  | none =>
    have empty : cpu.repr.toList = [] := List.getLast?_eq_none_iff.1 last
    rw [Nat.toList_repr] at empty
    exact absurd empty Nat.toDigits_ne_nil
  | some c => exact ⟨c, rfl, isDigit_of_mem_toString (List.mem_of_getLast? last)⟩

theorem step_toString (names : List String) (cpu : Nat) :
    Path.step names (toString cpu) = names ++ [toString cpu] := by
  obtain ⟨c, last, digit⟩ := exists_getLast?_toString cpu
  have other (name : String) (ends : ∀ c, name.toList.getLast? = some c → c.isDigit = false) :
      toString cpu ≠ name := by
    intro same
    rw [same] at last
    rw [ends c last] at digit
    contradiction
  exact Path.step_plain (other "" (by simp)) (other "." (by simp)) (other ".." (by simp)) names

namespace DeviceKind

theorem segments_path (root : String) :
    ∃ before, ∀ (kind : DeviceKind) (cpu : Nat),
      Path.segments (kind.path root cpu).toList =
        before ++ [(toString cpu).toList, kind.fileName.toList] := by
  have tail (kind : DeviceKind) (cpu : Nat) :
      Path.segments ((toString cpu).toList ++ '/' :: kind.fileName.toList) =
        [(toString cpu).toList, kind.fileName.toList] := by
    have plain : '/' ∉ (toString cpu).toList := fun member =>
      absurd (isDigit_of_mem_toString member) (by decide)
    rw [Path.segments_append, Path.segments_of_plain plain,
      Path.segments_of_plain kind.plain_fileName, List.singleton_append]
  have whole (kind : DeviceKind) (cpu : Nat) : (kind.path root cpu).toList =
      Path.stem root ++ ((toString cpu).toList ++ '/' :: kind.fileName.toList) := by
    obtain ⟨c, last, digit⟩ := exists_getLast?_toString cpu
    have plain : c ≠ '/' := by
      rintro rfl
      contradiction
    have ends : (Path.join root (toString cpu)).toList.getLast? = some c := by
      rw [Path.toList_join, List.getLast?_append, last, Option.some_or]
    rw [path, Path.toList_join, Path.stem_of_plain ends plain, Path.toList_join]
    simp only [List.append_assoc, List.singleton_append]
  obtain empty | ⟨directory, closed⟩ := Path.stem_cases root
  · refine ⟨[], fun kind cpu => ?_⟩
    rw [whole, empty, List.nil_append, List.nil_append, tail]
  · refine ⟨Path.segments directory, fun kind cpu => ?_⟩
    rw [whole, closed, List.append_assoc, List.singleton_append, Path.segments_append, tail]

theorem walk_path (root : String) :
    ∃ start steps, ∀ (kind : DeviceKind) (cpu : Nat),
      Path.walk (kind.path root cpu) = (start, steps ++ [toString cpu, kind.fileName]) := by
  obtain ⟨before, segments⟩ := segments_path root
  match before with
  | [] =>
    refine ⟨[], [], fun kind cpu => ?_⟩
    obtain ⟨c, last, _⟩ := exists_getLast?_toString cpu
    rw [Path.walk, segments, List.nil_append]
    split
    next absolute =>
      rw [(List.cons.inj absolute).1] at last
      contradiction
    next => simp only [List.map_cons, List.map_nil, String.ofList_toList, List.nil_append]
  | [] :: rest =>
    refine ⟨[Path.root], rest.map String.ofList, fun kind cpu => ?_⟩
    simp only [Path.walk, segments, List.cons_append, List.map_append, List.map_cons, List.map_nil,
      String.ofList_toList]
  | (c :: name) :: rest =>
    refine ⟨[], ((c :: name) :: rest).map String.ofList, fun kind cpu => ?_⟩
    simp only [Path.walk, segments, List.cons_append, List.map_append, List.map_cons, List.map_nil,
      String.ofList_toList]

end DeviceKind

theorem FileTree.names_of_walk {tree : FileTree} {steps start : List String}
    {place : List String × FileNode} (found : tree.walk start steps = .ok place) :
    place.1 = steps.foldl Path.step start := by
  induction steps generalizing start with
  | nil => cases Except.ok.inj found; rfl
  | cons name rest ih =>
    simp only [walk] at found
    split at found
    next => exact ih found
    next =>
      split at found
      next => contradiction
      next =>
        split at found
        next => contradiction
        next => exact ih found
        next =>
          split at found
          next last =>
            cases Except.ok.inj found
            rw [last, List.foldl_cons, List.foldl_nil]
          next => contradiction

namespace Device

theorem openKind_place {tree : FileTree} {root : String} {cpu : Nat} {readOnly : Bool}
    {kind : DeviceKind} {device : Device} (opened : openKind tree root cpu readOnly kind = .ok device) :
    device.cpu = cpu ∧ device.kind = kind ∧ ∃ node,
      tree.locate (kind.path root cpu) = .ok (device.names, node) := by
  unfold openKind at opened
  dsimp only at opened
  split at opened
  next => contradiction
  next located =>
    cases Except.ok.inj opened
    exact ⟨rfl, rfl, _, located⟩
  next located =>
    split at opened
    · cases Except.ok.inj opened
      exact ⟨rfl, rfl, _, located⟩
    · contradiction

/-- All devices below a root have one beginning of their names. -/
theorem names_of_openFor (root : String) :
    ∃ before, ∀ (tree : FileTree) (cpu : Nat) (readOnly : Bool) (device : Device),
      openFor tree root cpu readOnly = .ok device →
        device.names = before ++ [toString cpu, device.kind.fileName] := by
  obtain ⟨start, steps, walks⟩ := DeviceKind.walk_path root
  refine ⟨steps.foldl Path.step start, fun tree cpu readOnly device opened => ?_⟩
  obtain ⟨kind, found⟩ := exists_openKind_of_openFor opened
  obtain ⟨_, rfl, node, located⟩ := openKind_place found
  have names := FileTree.names_of_walk (FileTree.walk_of_locate located)
  rw [walks, List.foldl_append, List.foldl_cons, List.foldl_cons, List.foldl_nil, step_toString,
    DeviceKind.step_fileName, List.append_assoc] at names
  exact names

/-- These are the names on the way to the device that is opened for a processor. -/
def At (tree : FileTree) (root : String) (readOnly : Bool) (cpu : Nat) (names : List String) : Prop :=
  ∃ device, openFor tree root cpu readOnly = .ok device ∧ device.names = names

variable {tree : FileTree} {root : String} {readOnly : Bool}

theorem biUnique_at : Relator.BiUnique (At tree root readOnly) := by
  constructor
  · rintro cpu names other ⟨device, opened, rfl⟩ ⟨further, also, same⟩
    obtain ⟨before, names⟩ := names_of_openFor root
    rw [names _ _ _ _ opened, names _ _ _ _ also] at same
    have ends := List.append_cancel_left same
    exact toString_cpu_injective (List.cons.inj ends).1.symm
  · rintro cpu names others ⟨device, opened, rfl⟩ ⟨further, also, rfl⟩
    rw [Except.ok.inj (opened.symm.trans also)]

theorem cpu_of_openFor {cpu : Nat} {device : Device}
    (opened : openFor tree root cpu readOnly = .ok device) : device.cpu = cpu := by
  obtain ⟨kind, found⟩ := exists_openKind_of_openFor opened
  exact (openKind_place found).1

variable {cpus : List Nat} {devices : List Device}
  (each : List.Forall₂ (fun cpu device => openFor tree root cpu readOnly = .ok device) cpus devices)

include each

theorem map_cpu_of_opened : devices.map Device.cpu = cpus := by
  induction each with
  | nil => rfl
  | cons opened further ih => rw [List.map_cons, cpu_of_openFor opened, ih]

theorem nodup_names_iff : (devices.map Device.names).Nodup ↔ cpus.Nodup := by
  have places : List.Forall₂ (At tree root readOnly) cpus (devices.map Device.names) :=
    List.forall₂_map_right_iff.2 (each.imp fun cpu device opened => ⟨device, opened, rfl⟩)
  exact (List.rel_nodup biUnique_at places).symm

end Device

end PowerLimits
