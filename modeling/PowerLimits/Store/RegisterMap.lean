import PowerLimits.BitRange

/-!
Words by address in ascending order, and what a change of one does to the look-up of all.
-/
namespace PowerLimits

structure RegisterMap where
  entries : List (Word × Word)
  ascending : entries.Pairwise (·.1 < ·.1)
deriving DecidableEq

namespace RegisterMap

def empty : RegisterMap := ⟨[], .nil⟩

def get? (map : RegisterMap) (address : Word) : Option Word := map.entries.lookup address

def insertEntry (address value : Word) : List (Word × Word) → List (Word × Word)
  | [] => [(address, value)]
  | entry :: rest =>
    if address < entry.1 then (address, value) :: entry :: rest
    else if address = entry.1 then (address, value) :: rest
    else entry :: insertEntry address value rest

theorem fst_mem_insertEntry {address value : Word} {entries : List (Word × Word)}
    {entry : Word × Word} (member : entry ∈ insertEntry address value entries) :
    entry.1 = address ∨ entry ∈ entries := by
  induction entries with
  | nil => exact .inl (by rw [List.mem_singleton.1 member])
  | cons first rest ih =>
    simp only [insertEntry] at member
    split at member
    · rcases List.mem_cons.1 member with same | member
      · exact .inl (by rw [same])
      · exact .inr member
    · split at member
      · rcases List.mem_cons.1 member with same | member
        · exact .inl (by rw [same])
        · exact .inr (List.mem_cons_of_mem _ member)
      · rcases List.mem_cons.1 member with same | member
        · exact .inr (same ▸ List.mem_cons_self)
        · exact (ih member).imp id (List.mem_cons_of_mem _)

theorem ascending_insertEntry (address value : Word) {entries : List (Word × Word)}
    (ascending : entries.Pairwise (·.1 < ·.1)) :
    (insertEntry address value entries).Pairwise (·.1 < ·.1) := by
  induction ascending with
  | nil => exact List.pairwise_singleton ..
  | @cons first rest above ascending ih =>
    simp only [insertEntry]
    split
    · rename_i below
      refine .cons (fun entry member => ?_) (.cons above ascending)
      rcases List.mem_cons.1 member with same | member
      · exact same ▸ below
      · exact BitVec.lt_trans below (above entry member)
    · split
      · rename_i same
        exact .cons (fun entry member => same ▸ above entry member) ascending
      · rename_i notBelow different
        refine .cons (fun entry member => ?_) ih
        rcases fst_mem_insertEntry member with same | member
        · rw [same]
          have : first.1.toNat ≠ address.toNat := fun same =>
            different (BitVec.eq_of_toNat_eq same.symm)
          simp only [BitVec.lt_def] at *
          omega
        · exact above entry member

def set (map : RegisterMap) (address value : Word) : RegisterMap :=
  ⟨insertEntry address value map.entries, ascending_insertEntry address value map.ascending⟩

def erase (map : RegisterMap) (address : Word) : RegisterMap :=
  ⟨map.entries.filter (·.1 ≠ address), map.ascending.filter _⟩

/-- Of two words for one address the later counts. -/
def ofList (entries : List (Word × Word)) : RegisterMap :=
  entries.foldl (fun map entry => map.set entry.1 entry.2) empty

theorem lookup_cons_eq_ite (key : Word) (entry : Word × Word) (rest : List (Word × Word)) :
    (entry :: rest).lookup key = if key = entry.1 then some entry.2 else rest.lookup key := by
  by_cases same : key = entry.1
  · rw [if_pos same, List.lookup_cons, beq_iff_eq.2 same]
  · rw [if_neg same, List.lookup_cons, beq_eq_false_iff_ne.2 same]

theorem lookup_insertEntry (address value key : Word) (entries : List (Word × Word)) :
    (insertEntry address value entries).lookup key =
      if key = address then some value else entries.lookup key := by
  induction entries with
  | nil => simp only [insertEntry, lookup_cons_eq_ite]
  | cons entry rest ih =>
    simp only [insertEntry]
    split
    · rw [lookup_cons_eq_ite]
    · split
      · rename_i equal
        simp only [lookup_cons_eq_ite, equal]
        split <;> rfl
      · rename_i different
        simp only [lookup_cons_eq_ite, ih]
        by_cases same : key = address
        · subst same; simp only [different, if_false, if_true]
        · simp only [same, if_false]

theorem get?_set (map : RegisterMap) (address value key : Word) :
    (map.set address value).get? key = if key = address then some value else map.get? key :=
  lookup_insertEntry ..

theorem get?_erase (map : RegisterMap) (address key : Word) :
    (map.erase address).get? key = if key = address then none else map.get? key := by
  obtain ⟨entries, ascending⟩ := map
  change (entries.filter (·.1 ≠ address)).lookup key = if key = address then none else entries.lookup key
  clear ascending
  induction entries with
  | nil => simp
  | cons entry rest ih =>
    rw [List.filter_cons, lookup_cons_eq_ite]
    by_cases gone : entry.1 = address
    · rw [if_neg (by simp [gone]), ih, gone]
      split <;> rfl
    · rw [if_pos (by simp [gone]), lookup_cons_eq_ite, ih]
      by_cases same : key = entry.1
      · rw [if_pos same, if_pos same, if_neg (same ▸ gone)]
      · rw [if_neg same, if_neg same]

end RegisterMap

end PowerLimits
