import PowerLimits.Proofs.Device.Window
import PowerLimits.Proofs.Store.Effect
import PowerLimits.Store.Devices

/-! A device that is open for writing, as the bytes of its file. Its registers are read out of them and
written into them, and the other files of the tree are left alone. -/
namespace PowerLimits

namespace FileTree

theorem lookup_map_snd (f : List String → FileNode → FileNode) (names : List String)
    (nodes : List (List String × FileNode)) :
    (nodes.map fun (others, node) => (others, f others node)).lookup names =
      (nodes.lookup names).map (f names) := by
  induction nodes with
  | nil => rfl
  | cons entry rest ih =>
    obtain ⟨others, node⟩ := entry
    simp only [List.map_cons, List.lookup_cons, ih]
    cases same : names == others with
    | true => simp [eq_of_beq same]
    | false => rfl

/-- Only a file that is there is exchanged for another. -/
theorem node?_setFile {tree : FileTree} {names : List String} {old : Bytes}
    (there : tree.node? names = some (.file old)) (bytes : Bytes) (others : List String) :
    (tree.setFile names bytes).node? others =
      if others = names then some (.file bytes) else tree.node? others := by
  unfold node? setFile at *
  rw [lookup_map_snd fun others node => if others = names then FileNode.file bytes else node]
  by_cases same : others = names
  · subst same
    cases found : tree.nodes.lookup others with
    | none =>
      simp only [found] at there
      split at there
      · cases Option.some.inj there
      · contradiction
    | some node => simp
  · simp only [same, if_false]
    cases tree.nodes.lookup others <;> rfl

theorem node?_of_walk {tree : FileTree} {steps start names : List String} {bytes : Bytes}
    (found : tree.walk start steps = .ok (names, .file bytes)) :
    tree.node? names = some (.file bytes) := by
  induction steps generalizing start with
  | nil => cases (Prod.mk.inj (Except.ok.inj found)).2
  | cons name rest ih =>
    simp only [walk] at found
    split at found
    next => exact ih found
    next =>
      split at found
      next => contradiction
      next =>
        split at found
        next => contradiction
        next => exact ih found
        next there =>
          split at found
          next =>
            cases Except.ok.inj found
            exact there
          next => contradiction

theorem walk_of_locate {tree : FileTree} {path : String} {place : List String × FileNode}
    (found : tree.locate path = .ok place) :
    tree.walk (Path.walk path).1 (Path.walk path).2 = .ok place := by
  unfold locate at found
  split at found
  next => contradiction
  next =>
    split at found
    next => contradiction
    next =>
      split at found
      next => contradiction
      next =>
        cases walked : tree.walk (Path.walk path).1 (Path.walk path).2 with
        | error error =>
          simp only [walked] at found
          contradiction
        | ok other =>
          simp only [walked] at found
          cases Except.ok.inj found
          rfl

theorem node?_of_locate {tree : FileTree} {path : String} {names : List String} {bytes : Bytes}
    (found : tree.locate path = .ok (names, .file bytes)) :
    tree.node? names = some (.file bytes) :=
  node?_of_walk (walk_of_locate found)

end FileTree

namespace Device
open RegisterStore

/-- The device is open for writing and these are the bytes of its file. -/
structure Holds (tree : FileTree) (device : Device) (bytes : Bytes) : Prop where
  writable : device.readOnly = false
  file : tree.node? device.names = some (.file bytes)

variable {tree : FileTree} {device : Device} {bytes : Bytes} {register : Word}

theorem holds_of_openKind {root : String} {cpu : Nat} {kind : DeviceKind}
    (opened : openKind tree root cpu false kind = .ok device) : ∃ bytes, Holds tree device bytes := by
  unfold openKind at opened
  dsimp only at opened
  split at opened
  next => contradiction
  next names bytes located =>
    cases Except.ok.inj opened
    exact ⟨bytes, rfl, FileTree.node?_of_locate located⟩
  next => contradiction

theorem exists_openKind_of_openFor {root : String} {cpu : Nat} {readOnly : Bool}
    (opened : openFor tree root cpu readOnly = .ok device) :
    ∃ kind, openKind tree root cpu readOnly kind = .ok device := by
  unfold openFor at opened
  split at opened
  next device first =>
    cases Except.ok.inj opened
    exact ⟨_, first⟩
  next =>
    split at opened
    next device second =>
      cases Except.ok.inj opened
      exact ⟨_, second⟩
    next => contradiction

theorem holds_of_openFor {root : String} {cpu : Nat}
    (opened : openFor tree root cpu false = .ok device) : ∃ bytes, Holds tree device bytes := by
  obtain ⟨kind, found⟩ := exists_openKind_of_openFor opened
  exact holds_of_openKind found

theorem openFor_of_openSocket {root : String} {readOnly : Bool} {socket cpu : Nat}
    (opened : ((openSocket root readOnly socket cpu).run tree).result = .ok device) :
    openFor tree root cpu readOnly = .ok device := by
  simp only [openSocket, Action.run_bind, Action.run_look] at opened
  cases found : openFor tree root cpu readOnly with
  | error source =>
    rw [found] at opened
    contradiction
  | ok other =>
    rw [found] at opened
    cases Except.ok.inj opened
    rfl

theorem holds_of_openSocket {root : String} {socket cpu : Nat}
    (opened : ((openSocket root false socket cpu).run tree).result = .ok device) :
    ∃ bytes, Holds tree device bytes :=
  holds_of_openFor (openFor_of_openSocket opened)

theorem openSocket_quiet (root : String) (readOnly : Bool) (socket cpu : Nat) :
    (openSocket root readOnly socket cpu).Quiet := by
  refine .bind .look fun tree => ?_
  cases openFor tree root cpu readOnly with
  | ok device => exact .bind (.note _) fun _ => .pure _
  | error source => exact fun _ => rfl

/-- A device that is opened leaves the tree it is found in. -/
theorem openFor_of_effect {root : String} {readOnly : Bool} {socket cpu : Nat} {after : FileTree}
    (opened : (openSocket root readOnly socket cpu).effect tree = (after, .ok device)) :
    after = tree ∧ openFor tree root cpu readOnly = .ok device := by
  have kept := openSocket_quiet root readOnly socket cpu tree
  rw [opened] at kept
  exact ⟨kept, openFor_of_openSocket (Prod.mk.inj opened).2⟩

theorem takes_signed {offset : Nat} :
    Host.signed.takes offset ↔ offset + Bytes.registerSize < 0x8000000000000000 :=
  decide_eq_true_iff

theorem not_offsetLimit_le (taken : Host.signed.takes register.toNat) :
    ¬ offsetLimit ≤ register.toNat := by
  have ends := takes_signed.1 taken
  unfold offsetLimit
  omega

section
variable {host : Host} (offset : ¬ offsetLimit ≤ register.toNat) (taken : host.takes register.toNat)

include offset taken

/-- Whether the device is open for writing as well does not matter to a reader. -/
theorem readOn_eq_of_file (file : tree.node? device.names = some (.file bytes)) :
    device.readOn host tree register =
      match bytes.word? register.toNat with
      | some word => .ok word
      | none => .error (.shortRead device.cpu register (bytes.window register.toNat).length) := by
  have whole : (bytes.window register.toNat).length = Bytes.registerSize ↔
      register.toNat + Bytes.registerSize ≤ bytes.length := by
    rw [Bytes.window, List.length_take, List.length_drop, Bytes.registerSize]
    omega
  have found : host.read tree device.names register.toNat = .ok (bytes.window register.toNat) := by
    rw [Host.read, taken, file]
    rfl
  rw [readOn, if_neg offset, found, Bytes.word?]
  by_cases fits : register.toNat + Bytes.registerSize ≤ bytes.length
  · simp only [if_pos (whole.2 fits), if_pos fits]
  · simp only [if_neg (mt whole.1 fits), if_neg fits]

theorem Holds.writeOn_eq (holds : Holds tree device bytes) (value : Word) :
    device.writeOn host tree register value =
      .ok (tree.setFile device.names (bytes.overwrite register.toNat (.ofWord value))) := by
  rw [writeOn, if_neg offset, Host.write, holds.writable, taken, holds.file]
  rfl

end

theorem Holds.read_eq (holds : Holds tree device bytes) (taken : Host.signed.takes register.toNat) :
    RegisterStore.read tree device register =
      match bytes.word? register.toNat with
      | some word => .ok word
      | none => .error (.shortRead device.cpu register (bytes.window register.toNat).length) :=
  readOn_eq_of_file (not_offsetLimit_le taken) taken holds.file

theorem Holds.write_eq (holds : Holds tree device bytes) (taken : Host.signed.takes register.toNat)
    (value : Word) :
    RegisterStore.write tree device register value =
      .ok (tree.setFile device.names (bytes.overwrite register.toNat (.ofWord value))) :=
  holds.writeOn_eq (not_offsetLimit_le taken) taken value

theorem exists_of_read_ok {word : Word} (found : RegisterStore.read tree device register = .ok word) :
    ∃ bytes, tree.node? device.names = some (.file bytes) ∧
      bytes.word? register.toNat = some word := by
  change device.readOn .signed tree register = _ at found
  unfold readOn Host.read at found
  split at found
  next => contradiction
  next =>
    split at found
    next => contradiction
    next window there =>
      split at there
      next => contradiction
      next =>
        split at there
        next bytes file =>
          cases Except.ok.inj there
          split at found
          next whole =>
            have fits : register.toNat + Bytes.registerSize ≤ bytes.length := by
              rw [Bytes.window, List.length_take, List.length_drop, Bytes.registerSize] at whole
              rw [Bytes.registerSize]
              omega
            cases Except.ok.inj found
            exact ⟨bytes, file, if_pos fits⟩
          next => contradiction
        next => contradiction

theorem exists_of_write_ok {value : Word} {after : FileTree}
    (written : RegisterStore.write tree device register value = .ok after) :
    ∃ bytes, tree.node? device.names = some (.file bytes) ∧
      after = tree.setFile device.names (bytes.overwrite register.toNat (.ofWord value)) := by
  change device.writeOn .signed tree register value = _ at written
  unfold writeOn Host.write at written
  split at written
  next => contradiction
  next =>
    split at written
    next => contradiction
    next =>
      split at written
      next => contradiction
      next =>
        split at written
        next bytes there =>
          cases Except.ok.inj written
          exact ⟨bytes, there, rfl⟩
        next => contradiction

end Device

end PowerLimits
