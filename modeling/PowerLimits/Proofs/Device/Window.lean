import PowerLimits.Device.Bytes

/-! Registers as windows of a device file. A window that a write fills reads back what was written, and
the bytes outside it are as they were. A file that is long enough for it keeps its length; any other grows
to its end, with zeros where there was nothing before. -/
namespace PowerLimits.Bytes

@[simp] theorem length_lowest (count : Nat) (word : Word) : (lowest count word).length = count := by
  induction count generalizing word with
  | zero => rfl
  | succ count ih => rw [lowest, List.length_cons, ih]

@[simp] theorem length_ofWord (word : Word) : (ofWord word).length = registerSize := length_lowest _ _

theorem getLsbD_toWord_lowest (count : Nat) (word : Word) (i : Nat) :
    (toWord (lowest count word)).getLsbD i = (word.getLsbD i && decide (i < 8 * count)) := by
  induction count generalizing word i with
  | zero => simp [lowest, toWord]
  | succ count ih =>
    simp only [lowest, toWord, BitVec.getLsbD_or, BitVec.getLsbD_shiftLeft, ih,
      BitVec.getLsbD_setWidth, BitVec.getLsbD_ushiftRight]
    by_cases low : i < 8
    · have inside : i < 64 ∧ i < 8 * (count + 1) := by omega
      simp [low, inside]
    · have moved : 8 + (i - 8) = i := by omega
      have shorter : i - 8 < 8 * count ↔ i < 8 * (count + 1) := by omega
      by_cases inside : i < 64
      · simp [low, inside, moved, shorter]
      · simp [low, inside, BitVec.getLsbD_of_ge word i (by omega)]

theorem toWord_ofWord (word : Word) : toWord (ofWord word) = word := by
  apply BitVec.eq_of_getLsbD_eq
  intro i bound
  rw [ofWord, getLsbD_toWord_lowest, registerSize, decide_eq_true bound, Bool.and_true]

/-- The byte of a word that has `k` lower ones below it. -/
def byte (word : Word) (k : Nat) : UInt8 := UInt8.ofBitVec (word.extractLsb' (8 * k) 8)

theorem byte_shiftRight (word : Word) (k : Nat) : byte (word >>> 8) k = byte word (k + 1) := by
  have moved (i : Nat) : 8 + (8 * k + i) = 8 * (k + 1) + i := by omega
  apply congrArg UInt8.ofBitVec
  apply BitVec.eq_of_getLsbD_eq
  intro i bound
  simp only [BitVec.getLsbD_extractLsb', BitVec.getLsbD_ushiftRight, moved]

theorem getElem?_lowest (count : Nat) (word : Word) (k : Nat) :
    (lowest count word)[k]? = if k < count then some (byte word k) else none := by
  induction count generalizing word k with
  | zero => rfl
  | succ count ih =>
    cases k with
    | zero => simp [lowest, byte, BitVec.setWidth_eq_extractLsb']
    | succ k => simp only [lowest, List.getElem?_cons_succ, ih, byte_shiftRight, Nat.add_lt_add_iff_right]

theorem getElem?_ofWord (word : Word) (k : Nat) :
    (ofWord word)[k]? = if k < registerSize then some (byte word k) else none :=
  getElem?_lowest registerSize word k

theorem byte_toWord (bytes : Bytes) {k : Nat} (bound : k < registerSize) :
    byte (toWord bytes) k = bytes[k]?.getD 0 := by
  unfold registerSize at bound
  induction bytes generalizing k with
  | nil =>
    rw [List.getElem?_nil]
    apply UInt8.eq_of_toBitVec_eq
    simp [byte, toWord]
  | cons first rest ih =>
    apply UInt8.eq_of_toBitVec_eq
    apply BitVec.eq_of_getLsbD_eq
    intro i inside
    cases k with
    | zero =>
      have within : i < 64 := by omega
      simp [byte, toWord, inside, within]
    | succ k =>
      have within : 8 * (k + 1) + i < 64 ∧ ¬ 8 * (k + 1) + i < 8 := by omega
      have moved : 8 * (k + 1) + i - 8 = 8 * k + i := by omega
      have above : first.toBitVec.getLsbD (8 * (k + 1) + i) = false :=
        BitVec.getLsbD_of_ge _ _ (by omega)
      rw [List.getElem?_cons_succ, ← ih (by omega)]
      simp only [byte, toWord, UInt8.toBitVec_ofBitVec, BitVec.getLsbD_extractLsb',
        BitVec.getLsbD_or, BitVec.getLsbD_shiftLeft, BitVec.getLsbD_setWidth, inside, within, moved,
        above, decide_true, decide_false, Bool.true_and, Bool.not_false, Bool.and_false, Bool.or_false]

/-- The register at an offset, if the file is long enough to hold it. -/
def word? (bytes : Bytes) (offset : Nat) : Option Word :=
  if offset + registerSize ≤ bytes.length then some (bytes.window offset).toWord else none

variable {bytes patch : Bytes} {offset : Nat}

theorem fits_of_word? {word : Word} (present : bytes.word? offset = some word) :
    offset + registerSize ≤ bytes.length := by
  unfold word? at present
  split at present
  next fits => exact fits
  next => contradiction

theorem length_overwrite_max (bytes : Bytes) (offset : Nat) (patch : Bytes) :
    (bytes.overwrite offset patch).length = max bytes.length (offset + patch.length) := by
  simp only [overwrite, resize, List.length_append, List.length_take, List.length_replicate,
    List.length_drop]
  omega

theorem getElem?_overwrite_any (bytes : Bytes) (offset : Nat) (patch : Bytes) (i : Nat) :
    (bytes.overwrite offset patch)[i]? =
      if offset ≤ i ∧ i < offset + patch.length then patch[i - offset]?
      else if bytes.length ≤ i ∧ i < offset then some 0
      else bytes[i]? := by
  have reached : min offset bytes.length + (offset - bytes.length) = offset := by omega
  simp only [overwrite, resize, List.getElem?_append, List.length_append, List.length_take,
    List.getElem?_take, List.getElem?_drop, List.length_replicate, List.getElem?_replicate, reached]
  by_cases before : i < offset
  · have early : i < offset + patch.length := by omega
    have outside : ¬ (offset ≤ i ∧ i < offset + patch.length) := by omega
    rw [if_pos early, if_pos before, if_neg outside]
    by_cases old : i < bytes.length
    · rw [if_pos (by omega), if_pos before, if_neg (by omega)]
    · rw [if_neg (by omega), if_pos (by omega), if_pos (by omega)]
  · rw [if_neg before]
    by_cases inside : i < offset + patch.length
    · rw [if_pos inside, if_pos (by omega)]
    · have rest : offset + patch.length + (i - (offset + patch.length)) = i := by omega
      rw [if_neg inside, if_neg (by omega), if_neg (by omega), rest]

theorem length_overwrite (fits : offset + patch.length ≤ bytes.length) :
    (bytes.overwrite offset patch).length = bytes.length := by
  rw [length_overwrite_max, Nat.max_eq_left fits]

theorem getElem?_overwrite (fits : offset + patch.length ≤ bytes.length) (i : Nat) :
    (bytes.overwrite offset patch)[i]? =
      if offset ≤ i ∧ i < offset + patch.length then patch[i - offset]? else bytes[i]? := by
  have nothing : ¬ (bytes.length ≤ i ∧ i < offset) := by omega
  rw [getElem?_overwrite_any, if_neg nothing]

theorem getElem?_window (bytes : Bytes) (offset i : Nat) :
    (bytes.window offset)[i]? = if i < registerSize then bytes[offset + i]? else none := by
  rw [window, List.getElem?_take, List.getElem?_drop]

theorem window_overwrite (fits : offset + registerSize ≤ bytes.length) (word : Word) :
    (bytes.overwrite offset (ofWord word)).window offset = ofWord word := by
  have written := getElem?_overwrite ((length_ofWord word).symm ▸ fits)
  apply List.ext_getElem?
  intro i
  rw [getElem?_window, written, length_ofWord]
  split
  next inside => simp [inside]
  next outside => rw [List.getElem?_eq_none (by rw [length_ofWord]; omega)]

theorem window_overwrite_apart (fits : offset + registerSize ≤ bytes.length) {other : Nat}
    (apart : offset + registerSize ≤ other ∨ other + registerSize ≤ offset) (word : Word) :
    (bytes.overwrite offset (ofWord word)).window other = bytes.window other := by
  have written := getElem?_overwrite ((length_ofWord word).symm ▸ fits)
  apply List.ext_getElem?
  intro i
  rw [getElem?_window, getElem?_window, written, length_ofWord]
  split
  next inside => rw [if_neg (by omega)]
  next => rfl

theorem word?_overwrite (fits : offset + registerSize ≤ bytes.length) (word : Word) :
    (bytes.overwrite offset (ofWord word)).word? offset = some word := by
  rw [word?, length_overwrite ((length_ofWord word).symm ▸ fits), if_pos fits, window_overwrite fits,
    toWord_ofWord]

theorem word?_overwrite_apart (fits : offset + registerSize ≤ bytes.length) {other : Nat}
    (apart : offset + registerSize ≤ other ∨ other + registerSize ≤ offset) (word : Word) :
    (bytes.overwrite offset (ofWord word)).word? other = bytes.word? other := by
  rw [word?, length_overwrite ((length_ofWord word).symm ▸ fits), window_overwrite_apart fits apart, word?]

end PowerLimits.Bytes
