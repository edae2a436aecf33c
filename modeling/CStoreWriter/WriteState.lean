import CStoreWriter.Storage.Footer
import CStoreWriter.Storage.WriteToFile

/-!
# The write state

A write session keeps a `TableWriteState`: the table footer read at the start, the
session's options, the offset and block where the next stripe goes, and, while a stripe is
open, its `StripeBuffers` (the frozen exists and value buffers of every block of every
column) and its `StripeSkipList` (a skip node for every block of every column). The block
being filled lives in the `ColumnBlockData` of each column: its rows' exists flags and the
serialized values so far. `SerializeBlockData` freezes it into the block's buffers.

Memory is modelled by its contents: an array is a list, a pointer that may be `NULL` an
`Option`, and an access past the end of an array, or through `NULL`, makes the operation
undefined, which the model writes `none`. The loops over columns are written with
`updateColumns`, which rewrites entry `c` of an array for `c = 0, 1, ...`.

## Main definitions

* `ColumnBlockBuffers`, `StripeBuffers`, `StripeSkipList`, `ColumnBlockData`,
  `TableWriteState`
* `updateColumns` — a loop over columns rewriting one array
* `createEmptyStripeBuffers`, `createEmptyStripeSkipList`, `createEmptyBlockDataArray`
* `cstoreBeginWrite` — `CStoreBeginWrite`
* `setFlagBit`, `serializeBoolArray`, `serializeBlockData` — freezing a block
-/

namespace CStoreWriter

/-- `ColumnBlockBuffers`: the frozen buffers of one block of one column, `NULL` until
`SerializeBlockData` sets them. -/
structure ColumnBlockBuffers where
  existsBuffer : Option (List UInt8)
  valueBuffer : Option (List UInt8)
  valueCompressionType : CompressionType

/-- `ColumnBuffers`: the block buffers of one column of the open stripe. -/
structure ColumnBuffers where
  blockBuffersArray : List ColumnBlockBuffers

/-- `StripeBuffers`: the buffers of every column of the open stripe, and its row count. -/
structure StripeBuffers where
  columnBuffersArray : List ColumnBuffers
  columnCount : Nat
  rowCount : Nat

/-- `StripeSkipList`: a skip node for every block of every column of the open stripe. -/
structure StripeSkipList where
  blockSkipNodeArray : List (List ColumnBlockSkipNode)
  columnCount : Nat
  blockCount : Nat

/-- `ColumnBlockData`: the block being filled, for one column: the exists flag of each of its
rows, and its non-null values serialized one after the other. -/
structure ColumnBlockData where
  existsArray : List Bool
  valueBuffer : List UInt8

/-- The relation's data fork and footer fork. -/
structure Relation where
  dataFork : List Page
  footerFork : List Page

/-- `TableWriteState`. The logging flag, the stripe memory context and the compression
scratch buffer are left out; `flushedStripes` is not in the source: it records the byte
stream each `FlushStripe` of the session passed to `WriteToFile`, so that statements can
name it, and no operation reads it. -/
structure TableWriteState where
  tableFooter : TableFooter
  compressionType : CompressionType
  stripeMaxRowCount : Nat
  tupleDescriptor : List Attribute
  currentFileOffset : Nat
  comparisonFunctionArray : List (Option Comparator)
  stripeBuffers : Option StripeBuffers
  stripeSkipList : Option StripeSkipList
  blockDataArray : List ColumnBlockData
  activeBlockNumber : Nat
  relation : Relation
  flushedStripes : List (List UInt8)

/-! ### Arrays -/

/-- `xs[i] = a`, undefined past the end of `xs`. -/
def setChecked {α : Type} (xs : List α) (i : Nat) (a : α) : Option (List α) :=
  if i < xs.length then some (xs.set i a) else none

/-- `for (c = 0; c < n; c++) xs[c] = body(c, xs[c])`: the first `n` iterations, then
iteration `n`. -/
def updateColumns {α : Type} (body : Nat → α → Option α) : Nat → List α → Option (List α)
  | 0, xs => some xs
  | n + 1, xs => do
    let xs ← updateColumns body n xs
    let x ← xs[n]?
    let x' ← body n x
    pure (xs.set n x')

theorem setChecked_eq_some {α : Type} {xs : List α} {i : Nat} {a : α} (h : i < xs.length) :
    setChecked xs i a = some (xs.set i a) := if_pos h

theorem setChecked_eq_none {α : Type} {xs : List α} {i : Nat} {a : α} (h : xs.length ≤ i) :
    setChecked xs i a = none := if_neg (Nat.not_lt.mpr h)

/-- When every iteration is defined, the loop rewrites entry `c` for every `c < n` and leaves
the others. -/
theorem updateColumns_getElem? {α : Type} {body : Nat → α → Option α} :
    ∀ {n : Nat} {xs : List α}, (∀ c < n, ∃ x y, xs[c]? = some x ∧ body c x = some y) →
      ∃ ys, updateColumns body n xs = some ys ∧ ys.length = xs.length ∧
        ∀ c, ys[c]? = if c < n then xs[c]?.bind (body c) else xs[c]?
  | 0, xs, _ => ⟨xs, rfl, rfl, fun c => by simp⟩
  | n + 1, xs, h => by
    obtain ⟨ys, hys, hlen, hget⟩ := updateColumns_getElem?
      (show ∀ c < n, ∃ x y, xs[c]? = some x ∧ body c x = some y from fun c hc => h c (by omega))
    obtain ⟨x, y, hx, hy⟩ := h n (Nat.lt_succ_self n)
    have hyn : ys[n]? = some x := by rw [hget, if_neg (Nat.lt_irrefl n), hx]
    refine ⟨ys.set n y, by simp [updateColumns, hys, hyn, hy], by simp [hlen], fun c => ?_⟩
    rw [List.getElem?_set]
    by_cases hc : c = n
    · subst hc
      have : c < ys.length := by
        rw [hlen]; exact (List.getElem?_eq_some_iff.mp hx).1
      simp [this, hx, hy]
    · rw [if_neg (Ne.symm hc), hget]
      by_cases hcn : c < n
      · simp [hcn, Nat.lt_succ_of_lt hcn]
      · simp [hcn, show ¬c < n + 1 by omega]

/-- An iteration that is undefined makes the loop undefined. -/
theorem updateColumns_eq_none {α : Type} {body : Nat → α → Option α} {c : Nat} {xs : List α}
    (hfail : ∀ ys, updateColumns body c xs = some ys → ∀ x, ys[c]? = some x → body c x = none) :
    ∀ {n : Nat}, c < n → updateColumns body n xs = none
  | 0, h => absurd h (Nat.not_lt_zero c)
  | n + 1, h => by
    rcases Nat.lt_succ_iff_lt_or_eq.mp h with h | rfl
    · simp [updateColumns, updateColumns_eq_none hfail h]
    · cases hys : updateColumns body c xs with
      | none => simp [updateColumns, hys]
      | some ys =>
        cases hx : ys[c]? with
        | none => simp [updateColumns, hys, hx]
        | some x => simp [updateColumns, hys, hx, hfail ys hys x hx]

/-- A property every iteration keeps holds of every entry after the loop. -/
theorem updateColumns_forall {α : Type} {body : Nat → α → Option α} {P : α → Prop}
    (hbody : ∀ c x y, body c x = some y → P x → P y) :
    ∀ {n : Nat} {xs ys : List α}, updateColumns body n xs = some ys → (∀ x ∈ xs, P x) →
      ∀ y ∈ ys, P y
  | 0, xs, ys, h, hxs => by
    cases h
    exact hxs
  | n + 1, xs, ys, h, hxs => by
    simp only [updateColumns, Option.bind_eq_bind, Option.bind_eq_some, Option.pure_def,
      Option.some.injEq] at h
    obtain ⟨zs, hzs, x, hx, y, hy, rfl⟩ := h
    have hzs' := updateColumns_forall hbody hzs hxs
    intro w hw
    rcases List.mem_or_eq_of_mem_set hw with hw | rfl
    · exact hzs' w hw
    · exact hbody n x w hy (hzs' x (List.getElem?_mem hx))

theorem mapM_range_eq_some {β : Type} {f : Nat → Option β} {h : Nat → β} :
    ∀ {n : Nat}, (∀ i < n, f i = some (h i)) → (List.range n).mapM f = some ((List.range n).map h)
  | 0, _ => rfl
  | n + 1, hf => by
    rw [List.range_succ, List.mapM_append, mapM_range_eq_some fun i hi => hf i (by omega),
      List.mapM_cons, hf n (Nat.lt_succ_self n), List.mapM_nil]
    rw [List.map_append]
    rfl

theorem mapM_range_eq_none {β : Type} {f : Nat → Option β} {i : Nat} (hi : f i = none) :
    ∀ {n : Nat}, i < n → (List.range n).mapM f = none
  | 0, h => absurd h (Nat.not_lt_zero i)
  | n + 1, h => by
    rw [List.range_succ, List.mapM_append]
    rcases Nat.lt_succ_iff_lt_or_eq.mp h with h | rfl
    · rw [mapM_range_eq_none hi h]; rfl
    · rw [List.mapM_cons, hi]
      cases (List.range i).mapM f <;> rfl

/-- A loop over `0 .. n - 1` whose every iteration is defined gives a list of its results. -/
theorem mapM_range_exists {β : Type} {f : Nat → Option β} :
    ∀ {n : Nat}, (∀ i < n, (f i).isSome) →
      ∃ l, (List.range n).mapM f = some l ∧ l.length = n ∧ ∀ i < n, l[i]? = f i
  | 0, _ => ⟨[], rfl, rfl, fun _ h => absurd h (Nat.not_lt_zero _)⟩
  | n + 1, hf => by
    obtain ⟨l, hl, hlen, hget⟩ := mapM_range_exists
      (show ∀ i < n, (f i).isSome from fun i hi => hf i (by omega))
    obtain ⟨b, hb⟩ := Option.isSome_iff_exists.mp (hf n (Nat.lt_succ_self n))
    refine ⟨l ++ [b], ?_, by simp [hlen], fun i hi => ?_⟩
    · rw [List.range_succ, List.mapM_append, hl, List.mapM_cons, hb, List.mapM_nil]
      rfl
    · rcases Nat.lt_succ_iff_lt_or_eq.mp hi with hi | rfl
      · rw [List.getElem?_append_left (by omega), hget i hi]
      · rw [List.getElem?_append_right (by omega), hlen, Nat.sub_self, hb]
        rfl

/-- A defined loop over `0 .. n - 1` had every iteration defined, and lists their results. -/
theorem mapM_range_of_eq_some {β : Type} {f : Nat → Option β} {n : Nat} {l : List β}
    (h : (List.range n).mapM f = some l) : l.length = n ∧ ∀ i < n, l[i]? = f i := by
  have hdefined : ∀ i < n, (f i).isSome := fun i hi => by
    cases hf : f i with
    | none => rw [mapM_range_eq_none hf hi] at h; cases h
    | some _ => rfl
  obtain ⟨l', hl', hlen, hget⟩ := mapM_range_exists hdefined
  obtain rfl : l = l' := Option.some.inj (h.symm.trans hl')
  exact ⟨hlen, hget⟩

/-- A defined loop over columns had every iteration defined, on the entry as it was. -/
theorem updateColumns_of_eq_some {α : Type} {body : Nat → α → Option α} :
    ∀ {n : Nat} {xs ys : List α}, updateColumns body n xs = some ys →
      ∀ c < n, ∃ x y, xs[c]? = some x ∧ body c x = some y
  | 0, _, _, _, c, hc => absurd hc (Nat.not_lt_zero c)
  | n + 1, xs, ys, h, c, hc => by
    simp only [updateColumns, Option.bind_eq_bind, Option.bind_eq_some, Option.pure_def,
      Option.some.injEq] at h
    obtain ⟨zs, hzs, x, hx, y, hy, -⟩ := h
    have hbefore := updateColumns_of_eq_some hzs
    rcases Nat.lt_succ_iff_lt_or_eq.mp hc with hc | rfl
    · exact hbefore c hc
    · obtain ⟨zs', hzs', -, hget⟩ := updateColumns_getElem? hbefore
      obtain rfl : zs = zs' := Option.some.inj (hzs.symm.trans hzs')
      refine ⟨x, y, ?_, hy⟩
      rw [← hx, hget, if_neg (Nat.lt_irrefl c)]

/-- A defined loop ran iteration `c` on entry `c` and stored its result there. -/
theorem updateColumns_entry {α : Type} {body : Nat → α → Option α} {n : Nat} {xs ys : List α}
    (h : updateColumns body n xs = some ys) {c : Nat} (hc : c < n) :
    ∃ x y, xs[c]? = some x ∧ body c x = some y ∧ ys[c]? = some y := by
  obtain ⟨x, y, hx, hy⟩ := updateColumns_of_eq_some h c hc
  obtain ⟨ys', hys', -, hget⟩ := updateColumns_getElem? (updateColumns_of_eq_some h)
  obtain rfl := Option.some.inj (hys'.symm.trans h)
  exact ⟨x, y, hx, hy, by rw [hget, if_pos hc, hx, Option.some_bind, hy]⟩

/-! ### Creating the state -/

variable (g : PageGeometry) (k : Codecs)

/-- `CreateEmptyStripeBuffers`: `maxBlockCount = stripeMaxRowCount / blockRowCount + 1` blocks a
column, a `uint32`, each with `NULL` buffers. -/
def createEmptyStripeBuffers (stripeMaxRowCount blockRowCount columnCount : Nat) :
    StripeBuffers :=
  let maxBlockCount := (stripeMaxRowCount / blockRowCount + 1) % 2 ^ 32
  { columnBuffersArray :=
      List.replicate columnCount ⟨List.replicate maxBlockCount ⟨none, none, .compressionNone⟩⟩
    columnCount
    rowCount := 0 }

/-- `CreateEmptyStripeSkipList`: `maxBlockCount` zeroed skip nodes a column. -/
def createEmptyStripeSkipList (stripeMaxRowCount blockRowCount columnCount : Nat) :
    StripeSkipList :=
  let maxBlockCount := (stripeMaxRowCount / blockRowCount + 1) % 2 ^ 32
  { blockSkipNodeArray := List.replicate columnCount (List.replicate maxBlockCount .empty)
    columnCount
    blockCount := 0 }

/-- Modelled from the spec: `CreateEmptyBlockDataArray`, in the reader outside `src/`, gives
every column the exists array `exists[0..R)` of a block of `R = blockRowCount` rows, all
false, and an empty value buffer. -/
def createEmptyBlockDataArray (columnCount blockRowCount : Nat) : List ColumnBlockData :=
  List.replicate columnCount ⟨List.replicate blockRowCount false, []⟩

/-- `CStoreBeginWrite`: the footer the footer fork holds, or a new one with the session's block
row count; the offset right after its last stripe, and the block of that offset; and a
comparison procedure for every column that is not dropped. -/
def cstoreBeginWrite (relation : Relation) (compressionType : CompressionType)
    (stripeMaxRowCount blockRowCount : Nat) (tupleDescriptor : List Attribute) :
    TableWriteState :=
  let tableFooter := (cstoreReadFooter k relation.footerFork).getD ⟨[], blockRowCount⟩
  let currentFileOffset :=
    (tableFooter.stripeMetadataList.getLast?.map StripeMetadata.endOffset).getD 0
  { tableFooter
    compressionType
    stripeMaxRowCount
    tupleDescriptor
    currentFileOffset
    comparisonFunctionArray := tupleDescriptor.map fun att =>
      if att.attisdropped then none else k.getFunctionInfoOrNull att.atttypid
    stripeBuffers := none
    stripeSkipList := none
    blockDataArray := createEmptyBlockDataArray tupleDescriptor.length blockRowCount
    activeBlockNumber := currentFileOffset / cstorePageDataSize g
    relation
    flushedStripes := [] }

/-! ### Freezing a block -/

/-- One iteration of `SerializeBoolArray`'s loop: flag `boolArrayIndex` is read and, when it
is set, bit `boolArrayIndex % 8` of byte `boolArrayIndex / 8` is set. Reading a flag past the
end of the array, or a byte past the end of the buffer, is undefined. -/
def setFlagBit (boolArray : List Bool) (boolArrayBuffer : List UInt8) (boolArrayIndex : Nat) :
    Option (List UInt8) := do
  if (← boolArray[boolArrayIndex]?) then
    let byteIndex := boolArrayIndex / 8
    let bitIndex := boolArrayIndex % 8
    let byte ← boolArrayBuffer[byteIndex]?
    setChecked boolArrayBuffer byteIndex (byte ||| 1 <<< UInt8.ofNat bitIndex)
  else pure boolArrayBuffer

/-- `SerializeBoolArray(boolArray, boolArrayLength)`: `byteCount = (boolArrayLength + 7) / 8`
zero bytes, the sum taken in a `uint32`, then `setFlagBit` for every index below
`boolArrayLength`. -/
def serializeBoolArray (boolArray : List Bool) (boolArrayLength : Nat) : Option (List UInt8) :=
  let byteCount := (boolArrayLength + 7) % 2 ^ 32 / 8
  (List.range boolArrayLength).foldlM (setFlagBit boolArray) (List.replicate byteCount 0)

/-- The value buffer a block stores and its compression type: what `CompressBuffer` made of
it when it compressed, else the serialized values as they are. -/
def compressValueBuffer (valueBuffer : List UInt8) (compressionType : CompressionType) :
    List UInt8 × CompressionType :=
  match k.compressBuffer valueBuffer compressionType with
  | some compressed => (compressed, .compressionPgLz)
  | none => (valueBuffer, .compressionNone)

/-- `SerializeBlockData(writeState, blockIndex, rowCount)`: for every column the exists flags of
the block's `rowCount` rows are packed into the block's exists buffer; then every column's
value buffer is stored, compressed when the codec finds it worthwhile, and reset for the
next block. -/
def serializeBlockData (st : TableWriteState) (blockIndex rowCount : Nat) :
    Option TableWriteState := do
  let stripeBuffers ← st.stripeBuffers
  let columnCount := stripeBuffers.columnCount
  let columnBuffersArray ← updateColumns (fun c columnBuffers => do
      let blockBuffers ← columnBuffers.blockBuffersArray[blockIndex]?
      let blockData ← st.blockDataArray[c]?
      let existsBuffer ← serializeBoolArray blockData.existsArray rowCount
      pure ⟨columnBuffers.blockBuffersArray.set blockIndex
        { blockBuffers with existsBuffer := some existsBuffer }⟩)
    columnCount stripeBuffers.columnBuffersArray
  let columnBuffersArray ← updateColumns (fun c columnBuffers => do
      let blockBuffers ← columnBuffers.blockBuffersArray[blockIndex]?
      let blockData ← st.blockDataArray[c]?
      let stored := compressValueBuffer k blockData.valueBuffer st.compressionType
      pure ⟨columnBuffers.blockBuffersArray.set blockIndex
        { blockBuffers with valueBuffer := some stored.1, valueCompressionType := stored.2 }⟩)
    columnCount columnBuffersArray
  let blockDataArray ← updateColumns (fun _ blockData => some { blockData with valueBuffer := [] })
    columnCount st.blockDataArray
  pure { st with
    stripeBuffers := some { stripeBuffers with columnBuffersArray }
    blockDataArray }

variable {k}

/-- `SerializeBlockData` changes only the stripe's column buffers and the block data, whose
exists arrays it leaves as they are. -/
theorem serializeBlockData_shape {st st' : TableWriteState} {blockIndex rowCount : Nat}
    (h : serializeBlockData k st blockIndex rowCount = some st') :
    ∃ stripeBuffers columnBuffersArray blockDataArray, st.stripeBuffers = some stripeBuffers ∧
      st' = { st with
        stripeBuffers := some { stripeBuffers with columnBuffersArray }
        blockDataArray } ∧
      ∀ {P : List Bool → Prop}, (∀ blockData ∈ st.blockDataArray, P blockData.existsArray) →
        ∀ blockData ∈ blockDataArray, P blockData.existsArray := by
  simp only [serializeBlockData, Option.bind_eq_bind, Option.bind_eq_some, Option.pure_def,
    Option.some.injEq] at h
  obtain ⟨stripeBuffers, hbuffers, -, -, columnBuffersArray, -, blockDataArray, hreset, rfl⟩ := h
  refine ⟨stripeBuffers, columnBuffersArray, blockDataArray, hbuffers, rfl, fun hP => ?_⟩
  refine updateColumns_forall (P := fun blockData => _) (fun _ x y hxy hx => ?_) hreset hP
  cases hxy
  exact hx

end CStoreWriter
