import CStoreWriter.WriteState

/-!
# `SerializeBoolArray`: packing the exists flags

`SerializeBoolArray` packs the exists flags of a block into bytes, flag `i` at bit `i % 8`
of byte `i / 8`, in a buffer of `(n + 7) / 8` bytes for `n` flags. The byte count is summed
in a `uint32`, so the results ask that `n + 7` fit one. Its only caller, `SerializeBlockData`,
passes the flags of one block, held in an array `palloc` gave, so fewer than `MaxAllocSize`.

## Main definitions

* `flagAt`, `unpackBoolArray` — reading flags back from a buffer as the layout gives them

## Main results

* `serializeBoolArray_spec` — the buffer holds exactly the set flags below `n`, whatever its
  length
* `serializeBoolArray_packs` — when `n + 7` fits a `uint32`, the buffer has `(n + 7) / 8`
  bytes, holds the flags below `n`, has no bit set from position `n` on, and reads back as
  the first `n` flags
* `serializeBlockData_existsBuffer` — every exists buffer `SerializeBlockData` freezes reads
  back as the block's exists flags
-/

namespace CStoreWriter

/-- The flag a buffer holds at position `p`: bit `p % 8` of byte `p / 8`, and `false` past the
buffer. -/
def flagAt (buffer : List UInt8) (p : Nat) : Bool :=
  (buffer.getD (p / 8) 0).toNat.testBit (p % 8)

/-- The first `n` flags a buffer holds, read back as the layout gives them. -/
def unpackBoolArray (buffer : List UInt8) (n : Nat) : List Bool :=
  (List.range n).map (flagAt buffer)

/-! ### One bit -/

theorem toNat_lor (x y : UInt8) : (x ||| y).toNat = x.toNat ||| y.toNat :=
  BitVec.toNat_or x.toBitVec y.toBitVec

theorem toNat_one_shiftLeft {b : Nat} (hb : b < 8) :
    (1 <<< UInt8.ofNat b : UInt8).toNat = 2 ^ b := by
  interval_cases b <;> rfl

/-- OR-ing the mask of bit `b` into a byte sets bit `b` and keeps the others. -/
theorem testBit_lor_one_shiftLeft (x : UInt8) {b : Nat} (hb : b < 8) (c : Nat) :
    (x ||| 1 <<< UInt8.ofNat b).toNat.testBit c = (x.toNat.testBit c || decide (b = c)) := by
  rw [toNat_lor, toNat_one_shiftLeft hb, Nat.testBit_or, Nat.testBit_two_pow]

@[simp] theorem flagAt_replicate_zero (L p : Nat) : flagAt (List.replicate L 0) p = false := by
  simp [flagAt, List.getD_eq_getElem?_getD, List.getElem?_getD_replicate_default_eq]

/-! ### The loop -/

/-- One iteration adds flag `i` to the buffer, provided a set flag's byte is in the buffer. -/
theorem setFlagBit_spec {boolArray : List Bool} {buffer : List UInt8} {i : Nat}
    (hi : i < boolArray.length) (hfits : boolArray[i] = true → i / 8 < buffer.length) :
    ∃ buffer', setFlagBit boolArray buffer i = some buffer' ∧
      buffer'.length = buffer.length ∧
      ∀ p, flagAt buffer' p = (flagAt buffer p || decide (p = i) && boolArray[i]) := by
  cases hflag : boolArray[i]
  · refine ⟨buffer, ?_, rfl, fun p => by simp⟩
    simp [setFlagBit, List.getElem?_eq_getElem hi, hflag]
  · have hbyte := hfits hflag
    refine ⟨buffer.set (i / 8) (buffer[i / 8] ||| 1 <<< UInt8.ofNat (i % 8)), ?_,
      List.length_set .., fun p => ?_⟩
    · simp only [setFlagBit, List.getElem?_eq_getElem hi, hflag, List.getElem?_eq_getElem hbyte,
        Option.bind_eq_bind, Option.some_bind, if_true, setChecked_eq_some hbyte]
    · simp only [flagAt, List.getD_eq_getElem?_getD, List.getElem?_set, Bool.and_true]
      by_cases hp : p / 8 = i / 8
      · have hmod : p = i ↔ i % 8 = p % 8 := by omega
        simp only [hp, if_true, hbyte, List.getElem?_eq_getElem hbyte, Option.getD_some,
          testBit_lor_one_shiftLeft _ (Nat.mod_lt i (by decide)), hmod]
      · have hne : p ≠ i := fun h => hp (h ▸ rfl)
        simp [Ne.symm hp, hne]

/-- After the first `k` iterations from a zeroed buffer, the buffer holds exactly the set flags
below `k`, provided every set flag's byte is in the buffer. -/
theorem foldlM_setFlagBit {boolArray : List Bool} {L : Nat} :
    ∀ {k : Nat}, k ≤ boolArray.length →
      (∀ i < k, boolArray.getD i false = true → i / 8 < L) →
      ∃ buffer, (List.range k).foldlM (setFlagBit boolArray) (List.replicate L 0) = some buffer ∧
        buffer.length = L ∧ ∀ p, flagAt buffer p = (decide (p < k) && boolArray.getD p false)
  | 0, _, _ => ⟨_, rfl, List.length_replicate .., fun p => by simp⟩
  | k + 1, hk, hfits => by
    obtain ⟨buffer, hloop, hlen, hflags⟩ := foldlM_setFlagBit (k := k) (by omega)
      fun i hi => hfits i (by omega)
    have hget : boolArray.getD k false = boolArray[k] := by
      simp [List.getD_eq_getElem?_getD, List.getElem?_eq_getElem hk]
    obtain ⟨buffer', hstep, hlen', hflags'⟩ := @setFlagBit_spec boolArray buffer k hk
      fun h => hlen ▸ hfits k (by omega) (hget ▸ h)
    refine ⟨buffer', ?_, hlen'.trans hlen, fun p => ?_⟩
    · rw [List.range_succ, List.foldlM_append, hloop]
      simpa using hstep
    · rw [hflags', hflags, ← hget]
      rcases Nat.lt_trichotomy p k with h | rfl | h
      · simp [h, Nat.lt_succ_of_lt h, Nat.ne_of_lt h]
      · simp
      · simp [Nat.not_lt.mpr h.le, Nat.not_lt.mpr h, Nat.ne_of_gt h]

/-- **`SerializeBoolArray` holds the set flags.** For flags that the array has, and when every
set flag's byte falls within the `byteCount` bytes, the buffer has `byteCount` bytes and holds
at position `p` exactly whether `p` is a set flag below `boolArrayLength`. -/
theorem serializeBoolArray_spec {boolArray : List Bool} {boolArrayLength : Nat}
    (hlength : boolArrayLength ≤ boolArray.length)
    (hfits : ∀ i < boolArrayLength, boolArray.getD i false = true →
      i / 8 < (boolArrayLength + 7) % 2 ^ 32 / 8) :
    ∃ buffer, serializeBoolArray boolArray boolArrayLength = some buffer ∧
      buffer.length = (boolArrayLength + 7) % 2 ^ 32 / 8 ∧
      ∀ p, flagAt buffer p = (decide (p < boolArrayLength) && boolArray.getD p false) :=
  foldlM_setFlagBit hlength hfits

/-- When `n + 7` fits a `uint32`, the buffer has `(n + 7) / 8` bytes and holds exactly the set
flags below `n`. -/
theorem serializeBoolArray_flags {boolArray : List Bool} {n : Nat} (hlength : n ≤ boolArray.length)
    (hsize : n + 7 < 2 ^ 32) :
    ∃ buffer, serializeBoolArray boolArray n = some buffer ∧ buffer.length = (n + 7) / 8 ∧
      ∀ p, flagAt buffer p = (decide (p < n) && boolArray.getD p false) := by
  rw [← Nat.mod_eq_of_lt hsize]
  exact serializeBoolArray_spec hlength fun i hi _ => by rw [Nat.mod_eq_of_lt hsize]; omega

/-- A buffer that holds the first `n` flags of an array reads back as them. -/
theorem unpackBoolArray_eq_take {boolArray : List Bool} {buffer : List UInt8} {n : Nat}
    (hlength : n ≤ boolArray.length) (hflags : ∀ i < n, flagAt buffer i = boolArray.getD i false) :
    unpackBoolArray buffer n = boolArray.take n := by
  apply List.ext_getElem (by simp [unpackBoolArray]; omega)
  intro i hi _
  simp only [unpackBoolArray, List.length_map, List.length_range] at hi
  simp [unpackBoolArray, hflags i hi, List.getD_eq_getElem?_getD,
    List.getElem?_eq_getElem (Nat.lt_of_lt_of_le hi hlength)]

/-- When `n + 7` fits a `uint32`, the buffer has `(n + 7) / 8` bytes and reads back as the first
`n` flags. -/
theorem serializeBoolArray_readsBack {boolArray : List Bool} {n : Nat}
    (hlength : n ≤ boolArray.length) (hsize : n + 7 < 2 ^ 32) :
    ∃ buffer, serializeBoolArray boolArray n = some buffer ∧ buffer.length = (n + 7) / 8 ∧
      unpackBoolArray buffer n = boolArray.take n := by
  obtain ⟨buffer, hbuffer, hlen, hflags⟩ := serializeBoolArray_flags hlength hsize
  exact ⟨buffer, hbuffer, hlen, unpackBoolArray_eq_take hlength fun i hi => by simp [hflags, hi]⟩

/-- **`SerializeBoolArray` packs the flags.** For every `n` with `n + 7` within a `uint32` and
every array of at least `n` flags, the buffer has `(n + 7) / 8` bytes, bit `i % 8` of byte
`i / 8` is flag `i` for every `i < n`, every bit from position `n` on is clear, and the first
`n` flags read back from it are the array's first `n`. -/
theorem serializeBoolArray_packs {boolArray : List Bool} {n : Nat} (hlength : n ≤ boolArray.length)
    (hsize : n + 7 < 2 ^ 32) :
    ∃ buffer, serializeBoolArray boolArray n = some buffer ∧ buffer.length = (n + 7) / 8 ∧
      (∀ i < n, flagAt buffer i = boolArray.getD i false) ∧
      (∀ p, n ≤ p → flagAt buffer p = false) ∧
      unpackBoolArray buffer n = boolArray.take n := by
  obtain ⟨buffer, hbuffer, hlen, hflags⟩ := serializeBoolArray_flags hlength hsize
  have hbelow : ∀ i < n, flagAt buffer i = boolArray.getD i false := fun i hi => by
    simp [hflags, hi]
  exact ⟨buffer, hbuffer, hlen, hbelow, fun p hp => by simp [hflags, Nat.not_lt.mpr hp],
    unpackBoolArray_eq_take hlength hbelow⟩

theorem serializeBoolArray_packs_nine :
    9 ≤ [true, false, false, true, false, false, false, false, true].length ∧ 9 + 7 < 2 ^ 32 ∧
      ∃ buffer, serializeBoolArray [true, false, false, true, false, false, false, false, true] 9 =
          some buffer ∧ buffer.length = (9 + 7) / 8 ∧
        (∀ i < 9, flagAt buffer i =
          [true, false, false, true, false, false, false, false, true].getD i false) ∧
        (∀ p, 9 ≤ p → flagAt buffer p = false) ∧
        unpackBoolArray buffer 9 =
          [true, false, false, true, false, false, false, false, true].take 9 :=
  ⟨by decide, by decide, serializeBoolArray_packs (by decide) (by decide)⟩

/-! ### Freezing a block -/

/-- The loop reads every flag below `n`: past the end of the array it is undefined. -/
theorem foldlM_setFlagBit_eq_none {boolArray : List Bool} {buffer : List UInt8} :
    ∀ {n : Nat}, boolArray.length < n → (List.range n).foldlM (setFlagBit boolArray) buffer = none
  | 0, h => absurd h (Nat.not_lt_zero _)
  | n + 1, h => by
    rw [List.range_succ, List.foldlM_append]
    rcases Nat.lt_succ_iff_lt_or_eq.mp h with h | h
    · rw [foldlM_setFlagBit_eq_none h]
      rfl
    · cases (List.range n).foldlM (setFlagBit boolArray) buffer with
      | none => rfl
      | some buffer' => simp [setFlagBit, ← h]

theorem length_le_of_serializeBoolArray {boolArray : List Bool} {n : Nat} {buffer : List UInt8}
    (h : serializeBoolArray boolArray n = some buffer) : n ≤ boolArray.length :=
  Nat.not_lt.mp fun hlt => by simp [serializeBoolArray, foldlM_setFlagBit_eq_none hlt] at h

variable {k : Codecs}

/-- **A frozen block's exists buffers read back as its flags.** When `SerializeBlockData` freezes
block `blockIndex` with `rowCount` rows, `rowCount + 7` within a `uint32`, every column's exists
buffer for the block has `(rowCount + 7) / 8` bytes and reads back as the first `rowCount`
exists flags of the column's block data. -/
theorem serializeBlockData_existsBuffer {st st' : TableWriteState} {blockIndex rowCount : Nat}
    (h : serializeBlockData k st blockIndex rowCount = some st') (hsize : rowCount + 7 < 2 ^ 32) :
    ∃ stripeBuffers columnBuffersArray, st.stripeBuffers = some stripeBuffers ∧
      st'.stripeBuffers = some { stripeBuffers with columnBuffersArray } ∧
      ∀ c < stripeBuffers.columnCount, ∃ blockData columnBuffers blockBuffers existsBuffer,
        st.blockDataArray[c]? = some blockData ∧ columnBuffersArray[c]? = some columnBuffers ∧
        columnBuffers.blockBuffersArray[blockIndex]? = some blockBuffers ∧
        blockBuffers.existsBuffer = some existsBuffer ∧
        existsBuffer.length = (rowCount + 7) / 8 ∧
        unpackBoolArray existsBuffer rowCount = blockData.existsArray.take rowCount := by
  simp only [serializeBlockData, Option.bind_eq_bind, Option.bind_eq_some, Option.pure_def,
    Option.some.injEq] at h
  obtain ⟨stripeBuffers, hbuffers, frozen, hexists, columnBuffersArray, hvalues, _, -, rfl⟩ := h
  refine ⟨stripeBuffers, columnBuffersArray, hbuffers, rfl, fun c hc => ?_⟩
  -- the first pass freezes the exists buffer of the column's block
  obtain ⟨columnBuffers, _, hcolumn, hbody, hfrozen⟩ := updateColumns_entry hexists hc
  simp only [Option.bind_eq_bind, Option.bind_eq_some, Option.pure_def, Option.some.injEq] at hbody
  obtain ⟨blockBuffers, hblock, blockData, hdata, existsBuffer, hserialize, rfl⟩ := hbody
  -- the second pass sets the block's value buffer and keeps its exists buffer
  obtain ⟨_, _, hfrozen', hvalue, hfinal⟩ := updateColumns_entry hvalues hc
  obtain rfl := Option.some.inj (hfrozen'.symm.trans hfrozen)
  simp only [Option.bind_eq_bind, Option.bind_eq_some, Option.pure_def, Option.some.injEq] at hvalue
  obtain ⟨_, hblock', _, -, rfl⟩ := hvalue
  have hlt : blockIndex < columnBuffers.blockBuffersArray.length :=
    (List.getElem?_eq_some_iff.mp hblock).1
  rw [List.getElem?_set_self hlt, Option.some.injEq] at hblock'
  subst hblock'
  obtain ⟨buffer, hbuffer, hlen, hunpack⟩ :=
    serializeBoolArray_readsBack (length_le_of_serializeBoolArray hserialize) hsize
  obtain rfl := Option.some.inj (hserialize.symm.trans hbuffer)
  exact ⟨blockData, _, _, existsBuffer, hdata, hfinal,
    List.getElem?_set_self (by simpa using hlt), rfl, hlen, hunpack⟩

end CStoreWriter
