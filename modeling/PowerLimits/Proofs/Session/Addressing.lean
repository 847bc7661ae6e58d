import PowerLimits.Proofs.Device.Place
import PowerLimits.Proofs.Session.Lifetime
import PowerLimits.Proofs.Topology.Dense

/-! Which devices the sockets of a session are reached through. Each socket has the smallest processor on
it, so that two sockets share a device exactly where one processor is the smallest on both. A topology
text in which that is so is not refused. -/
namespace PowerLimits

/-- The socket and the processor of a call for a handle. -/
def Entry.address? {Handle : Type} : Entry Handle → Option (Nat × Nat)
  | .opening socket cpu _ => some (socket, cpu)
  | .closing _ => none

/-- A call for a socket with a handle from it. -/
def Entry.opened {Handle : Type} (address : Nat × Nat) (handle : Handle) : Entry Handle :=
  .opening address.1 address.2 (.ok handle)

namespace Topology

variable {records : List CpuRecord} {topology : Topology} {text : String}

theorem LeastCpu.unique {socket cpu other : Nat} (least : LeastCpu records socket cpu)
    (again : LeastCpu records socket other) : cpu = other :=
  Option.some.inj ((cpuOf?_eq_some_iff.2 least).symm.trans (cpuOf?_eq_some_iff.2 again))

theorem nodup_cpus_iff (found : ofText text = .ok topology)
    (read : Topology.records text = .ok records) :
    topology.cpus.Nodup ↔ ∀ cpu socket other, LeastCpu records socket cpu →
      LeastCpu records other cpu → socket = other := by
  obtain ⟨_, again, _, _, dense, least⟩ := ofText_eq_ok_iff.1 found
  cases Except.ok.inj (read.symm.trans again)
  have entry {socket cpu : Nat} (first : LeastCpu records socket cpu) :
      socket < topology.cpus.length ∧ topology.cpus[socket]? = some cpu := by
    obtain ⟨record, member, on, _⟩ := first.1
    have inside := (dense socket).1 (List.mem_map.2 ⟨record, member, on⟩)
    exact ⟨inside, List.getElem?_eq_some_iff.2 ⟨inside, (least socket inside).unique first⟩⟩
  constructor
  · intro distinct cpu socket other first second
    obtain ⟨inside, here⟩ := entry first
    exact (List.getElem?_inj inside distinct).1 (here.trans (entry second).2.symm)
  · intro apart
    rw [List.Nodup, List.pairwise_iff_getElem]
    intro socket other left right before same
    have equal := apart _ socket other (least socket left) (same ▸ least other right)
    omega

theorem nodup_cpus_of_function (found : ofText text = .ok topology)
    (read : Topology.records text = .ok records)
    (function : ∀ record ∈ records, ∀ other ∈ records, record.processor = other.processor →
      record.physicalId = other.physicalId) : topology.cpus.Nodup := by
  rw [nodup_cpus_iff found read]
  rintro cpu socket other ⟨⟨first, member, rfl, rfl⟩, _⟩ ⟨⟨second, also, rfl, same⟩, _⟩
  exact function first member second also same.symm

theorem length_sockets (topology : Topology) : topology.sockets.length = topology.cpus.length := by
  rw [sockets, List.length_map, List.length_zipIdx]

theorem map_snd_sockets (topology : Topology) : topology.sockets.map Prod.snd = topology.cpus := by
  apply List.ext_getElem <;> simp [sockets]

theorem pairwise_sockets (distinct : topology.cpus.Nodup) :
    topology.sockets.Pairwise fun first second => first.1 ≠ second.1 ∧ first.2 ≠ second.2 := by
  have numbers : topology.sockets.map Prod.fst = List.range topology.cpus.length := by
    apply List.ext_getElem <;> simp [sockets]
  apply List.Pairwise.and
  · exact List.pairwise_map.1 (numbers ▸ List.nodup_range)
  · exact List.pairwise_map.1 (topology.map_snd_sockets ▸ distinct)

end Topology

namespace Session
open RegisterStore Journal

variable {σ Handle : Type} {features : Features} {topology : Topology} {signature : Signature}
  {openSocket : Nat → Nat → Action σ Error Handle} {store last : σ} {sockets : List (Nat × Nat)}
  {calls entries : List (Entry Handle)} {handles : List Handle} {failure : Option Error}

theorem Opens.addresses (opens : Opens openSocket store sockets calls handles failure last) :
    calls.filterMap Entry.address? <+: sockets := by
  induction opens with
  | done => exact List.nil_prefix
  | next opened further ih => exact List.cons_prefix_cons.2 ⟨rfl, ih⟩
  | stop rest failed => exact List.cons_prefix_cons.2 ⟨rfl, List.nil_prefix⟩

theorem Opens.calls_eq (opens : Opens openSocket store sockets calls handles none last) :
    handles.length = sockets.length ∧ calls = List.zipWith Entry.opened sockets handles := by
  generalize whole : none = failure at opens
  induction opens with
  | done => exact ⟨rfl, rfl⟩
  | next opened further ih =>
    obtain ⟨length, calls⟩ := ih whole
    exact ⟨congrArg (· + 1) length, congrArg (_ :: ·) calls⟩
  | stop => contradiction

theorem addresses_closings (closed : List (Closing Handle)) :
    (closings closed).filterMap Entry.address? = [] := by
  rw [closings, List.filterMap_map, List.filterMap_eq_nil_iff]
  exact fun _ _ => rfl

variable [RegisterStore σ Handle] {result : Except Error (Session Handle)} {session : Session Handle}

theorem Founded.addresses (founded : Founded features signature store handles entries result) :
    entries.filterMap Entry.address? = [] := by
  cases founded with
  | empty | founded => rfl
  | unread => exact addresses_closings _

theorem Began.addresses (began : Began features topology signature openSocket store entries result) :
    entries.filterMap Entry.address? <+: topology.sockets := by
  cases began with
  | refused opens =>
    rw [List.filterMap_append, addresses_closings, List.append_nil]
    exact opens.addresses
  | opened opens founded =>
    rw [List.filterMap_append, founded.addresses, List.append_nil]
    exact opens.addresses

theorem Began.opens_of_ok
    (began : Began features topology signature openSocket store entries (.ok session)) :
    ∃ last, Opens openSocket store topology.sockets entries session.handles none last := by
  cases began with
  | opened opens founded =>
    cases founded with
    | founded =>
      rw [List.append_nil]
      exact ⟨_, opens⟩

/-- Opening a device leaves the tree as it is, so that all are opened in one tree. -/
theorem Opens.devices {root : String} {readOnly : Bool} {tree after : FileTree}
    {calls : List (Entry Device)} {devices : List Device}
    (opens : Opens (Device.openSocket root readOnly) tree sockets calls devices none after) :
    List.Forall₂ (fun cpu device => Device.openFor tree root cpu readOnly = .ok device)
      (sockets.map Prod.snd) devices := by
  generalize whole : none = failure at opens
  induction opens with
  | done => exact .nil
  | next opened further ih =>
    obtain ⟨rfl, found⟩ := Device.openFor_of_effect opened
    exact .cons found (ih whole)
  | stop => contradiction

theorem openWith_tells (features : Features) (topology : Topology) (signature : Signature)
    (openSocket : Nat → Nat → Action σ Error Handle) :
    Tells (openWith features topology signature (opener openSocket))
      (openWith features topology signature openSocket)
      (Began features topology signature openSocket) :=
  (openWith_watches features topology signature openSocket).tells
    (effect_openWith features topology signature openSocket)

theorem opens_of_openWith {root : String} {readOnly : Bool} {tree : FileTree}
    {session : Session Device}
    (made : ((openWith features topology signature (Device.openSocket root readOnly)).run tree).result =
      .ok session) :
    ∃ calls last, Opens (Device.openSocket root readOnly) tree topology.sockets calls session.handles
      none last := by
  obtain ⟨calls, after, result, began, effect, _⟩ :=
    openWith_tells features topology signature (Device.openSocket root readOnly) tree []
  have same : result = .ok session := (congrArg Prod.snd effect).symm.trans made
  rw [same] at began
  exact ⟨calls, began.opens_of_ok⟩

/-- A topology found in a text has no processor twice exactly if no processor is the smallest on two
sockets, and so if no record repeats the processor of one on another socket. The handles of a session are
opened in the order of the sockets, each with the processor of its socket. Where these are register
devices, they then are as many files as there are sockets, and otherwise two sockets have one file. -/
theorem devices_apart_iff {text : String} {topology : Topology} {records : List CpuRecord}
    (found : Topology.ofText text = .ok topology) (read : Topology.records text = .ok records) :
    (topology.cpus.Nodup ↔ ∀ cpu socket other, Topology.LeastCpu records socket cpu →
      Topology.LeastCpu records other cpu → socket = other) ∧
    ((∀ record ∈ records, ∀ other ∈ records, record.processor = other.processor →
      record.physicalId = other.physicalId) → topology.cpus.Nodup) ∧
    (∀ (σ Handle : Type) [RegisterStore σ Handle] (features : Features) (signature : Signature)
      (openSocket : Nat → Nat → Action σ Error Handle),
      Tells (openWith features topology signature (opener openSocket))
        (openWith features topology signature openSocket) fun _ calls result =>
          calls.filterMap Entry.address? <+: topology.sockets ∧
          (topology.cpus.Nodup → (calls.filterMap Entry.address?).Pairwise fun first second =>
            first.1 ≠ second.1 ∧ first.2 ≠ second.2) ∧
          ∀ session, result = .ok session → session.handles.length = topology.cpus.length ∧
            calls = List.zipWith Entry.opened topology.sockets session.handles) ∧
    ∀ (features : Features) (signature : Signature) (root : String) (readOnly : Bool) (tree : FileTree)
      (session : Session Device),
      ((openWith features topology signature (Device.openSocket root readOnly)).run tree).result =
        .ok session →
      session.handles.map Device.cpu = topology.cpus ∧
        ((session.handles.map Device.names).Nodup ↔ topology.cpus.Nodup) := by
  refine ⟨Topology.nodup_cpus_iff found read, Topology.nodup_cpus_of_function found read, ?_, ?_⟩
  · intro σ Handle registers features signature openSocket before entries
    obtain ⟨calls, after, result, began, effects⟩ :=
      openWith_tells features topology signature openSocket before entries
    refine ⟨calls, after, result, ⟨began.addresses, ?_, ?_⟩, effects⟩
    · intro distinct
      exact (Topology.pairwise_sockets distinct).sublist began.addresses.sublist
    · rintro session rfl
      obtain ⟨last, opens⟩ := began.opens_of_ok
      rw [← topology.length_sockets]
      exact opens.calls_eq
  · intro features signature root readOnly tree session made
    obtain ⟨calls, last, opens⟩ := opens_of_openWith made
    have each := opens.devices
    rw [topology.map_snd_sockets] at each
    exact ⟨Device.map_cpu_of_opened each, Device.nodup_names_iff each⟩

/-- A device file that ends with the unit register. -/
def unitFile : Bytes := List.replicate 0x606 0 ++ Bytes.ofWord 0xA0E03

def deviceTree : FileTree :=
  ((FileTree.empty.put "/dev/cpu/0/msr" (.file unitFile)).put "/dev/cpu/2/msr_safe" (.file unitFile)).put
    "/dev/cpu/3/msr" (.file unitFile)

def onDevices (topology : Topology) : Except Error (Session Device) :=
  ((openWith .none topology ⟨"GenuineIntel", 6, 158, 10⟩ (Device.openSocket "/dev/cpu" false)).run
    deviceTree).result

theorem devices_apart_iff_pair :
    ∃ session, onDevices ⟨[2, 3]⟩ = .ok session ∧ session.handles.map Device.cpu = [2, 3] ∧
      (session.handles.map Device.names).Nodup := by
  have found : Topology.ofText Topology.pairText = .ok ⟨[2, 3]⟩ := by decide +kernel
  have read : Topology.records Topology.pairText = .ok Topology.pairRecords := by decide +kernel
  have opens : (onDevices ⟨[2, 3]⟩).isOk := by decide +kernel
  obtain ⟨_, distinct, _, devices⟩ := devices_apart_iff found read
  cases made : onDevices ⟨[2, 3]⟩ with
  | error error =>
    rw [made] at opens
    cases opens
  | ok session =>
    obtain ⟨cpus, apart⟩ := devices _ _ _ _ _ session made
    exact ⟨session, rfl, cpus, apart.2 (distinct (by decide))⟩

/-- Two records, of two sockets, with one processor. -/
def sharedText : String :=
  "processor\t: 0\nphysical id\t: 0\ncore id\t\t: 0\n\nprocessor\t: 0\nphysical id\t: 1\ncore id\t\t: 0\n"

theorem devices_shared :
    Topology.records sharedText = .ok [⟨0, 0, 0⟩, ⟨0, 1, 0⟩] ∧
      Topology.ofText sharedText = .ok ⟨[0, 0]⟩ ∧
      (onDevices ⟨[0, 0]⟩).toOption.map (fun session => session.handles.map Device.names) =
        some [["/", "dev", "cpu", "0", "msr"], ["/", "dev", "cpu", "0", "msr"]] := by
  refine ⟨?_, ?_, ?_⟩ <;> decide +kernel

end Session

end PowerLimits
