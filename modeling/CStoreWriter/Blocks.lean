import CStoreWriter.BoolArray
import CStoreWriter.WriteRow

/-!
# The blocks of a stripe

`CStoreWriteRow` puts row `i` of a stripe into block `i / blockRowCount`, at row
`i % blockRowCount` of it. For every column it sets the row's exists flag and serializes a
non-null value into the block data, and it counts the row in the skip node of the block;
`SerializeBlockData` then freezes the block into its exists and value buffers. This module
says what each of these does to the data of one column, in terms of the values the column
takes in the block's rows.

## Main definitions

* `columnValues` — the values of one column along a list of rows
* `blockRows` — the rows of one block
* `stripeBlockCount` — the blocks a stripe of `n` rows takes
* `blockBuffersOf` — the buffers a block of a column is frozen into

## Main results

* `blockRows_concat` — a row joins the block in progress, and no other block changes
* `flatten_blockRows` — the blocks of a stripe, in order, are its rows
* `writeBlockData_spec`, `writeSkipNode_spec`, `serializeBlockData_spec` — the column loops of
  `CStoreWriteRow` and `SerializeBlockData`, one column at a time
-/

namespace CStoreWriter

/-- Column `c` of each row: its value, `none` for a null. -/
def columnValues (c : Nat) (rows : List (List (Option Datum))) : List (Option Datum) :=
  rows.map fun row => row.getD c none

/-- The rows of block `b` of a stripe of `blockRowCount` rows a block: rows
`b * blockRowCount` on, as many as the block holds and the stripe has. -/
def blockRows {α : Type} (blockRowCount b : Nat) (xs : List α) : List α :=
  (xs.drop (b * blockRowCount)).take blockRowCount

/-- The blocks a stripe of `rowCount` rows takes: `rowCount / blockRowCount` rounded up. -/
def stripeBlockCount (blockRowCount rowCount : Nat) : Nat :=
  (rowCount + blockRowCount - 1) / blockRowCount

/-! ### Rows and blocks -/

section BlockRows

variable {α : Type} {blockRowCount : Nat}

theorem columnValues_append (c : Nat) (rows rows' : List (List (Option Datum))) :
    columnValues c (rows ++ rows') = columnValues c rows ++ columnValues c rows' :=
  List.map_append _ _ _

theorem length_blockRows (b : Nat) (xs : List α) :
    (blockRows blockRowCount b xs).length = min blockRowCount (xs.length - b * blockRowCount) := by
  simp [blockRows]

theorem length_blockRows_le (b : Nat) (xs : List α) :
    (blockRows blockRowCount b xs).length ≤ blockRowCount := by
  simp [blockRows]

/-- The block in progress holds the rows past the last full block. -/
theorem length_blockRows_current (hpos : 0 < blockRowCount) (xs : List α) :
    (blockRows blockRowCount (xs.length / blockRowCount) xs).length =
      xs.length % blockRowCount := by
  have hdiv := Nat.div_add_mod xs.length blockRowCount
  have hmod := Nat.mod_lt xs.length hpos
  rw [length_blockRows, Nat.mul_comm]
  omega

/-- A block that lies within the rows keeps its rows when more rows follow. -/
theorem blockRows_append_of_le {b : Nat} {xs : List α} (ys : List α)
    (h : b * blockRowCount + blockRowCount ≤ xs.length) :
    blockRows blockRowCount b (xs ++ ys) = blockRows blockRowCount b xs := by
  rw [blockRows, blockRows, List.drop_append_of_le_length (by omega),
    List.take_append_of_le_length (by simp; omega)]

theorem blockRows_eq_nil {b : Nat} {xs : List α} (h : xs.length ≤ b * blockRowCount) :
    blockRows blockRowCount b xs = [] := by
  rw [blockRows, List.drop_eq_nil_of_le h, List.take_nil]

/-- A full first block is block 0, and the blocks after it are those of the rest. -/
theorem blockRows_zero_append {xs : List α} (h : xs.length = blockRowCount) (ys : List α) :
    blockRows blockRowCount 0 (xs ++ ys) = xs := by
  rw [blockRows, Nat.zero_mul, List.drop_zero, ← h, List.take_left]

theorem blockRows_succ_append {xs : List α} (h : xs.length = blockRowCount) (b : Nat)
    (ys : List α) : blockRows blockRowCount (b + 1) (xs ++ ys) = blockRows blockRowCount b ys := by
  rw [blockRows, blockRows, Nat.succ_mul, Nat.add_comm, ← List.drop_drop, ← h, List.drop_left]

/-- Fewer rows than a block are block 0. -/
theorem blockRows_zero_of_lt {xs : List α} (h : xs.length < blockRowCount) :
    blockRows blockRowCount 0 xs = xs := by
  rw [blockRows, Nat.zero_mul, List.drop_zero, List.take_of_length_le h.le]

/-- **A row joins the block in progress.** Appending a row to a stripe appends it to block
`xs.length / blockRowCount` and changes no other block. -/
theorem blockRows_concat (hpos : 0 < blockRowCount) (b : Nat) (xs : List α) (x : α) :
    blockRows blockRowCount b (xs ++ [x]) = if b = xs.length / blockRowCount then
      blockRows blockRowCount b xs ++ [x] else blockRows blockRowCount b xs := by
  have hdiv := Nat.div_add_mod xs.length blockRowCount
  have hmod := Nat.mod_lt xs.length hpos
  rw [Nat.mul_comm] at hdiv
  split_ifs with hb
  · subst hb
    rw [blockRows, blockRows, List.drop_append_of_le_length (by omega),
      List.take_of_length_le (by simp; omega), List.take_of_length_le (by simp; omega)]
  rcases Nat.lt_or_gt_of_ne hb with hlt | hgt
  · have hle : (b + 1) * blockRowCount ≤ xs.length / blockRowCount * blockRowCount :=
      Nat.mul_le_mul_right _ hlt
    exact blockRows_append_of_le _ (by rw [Nat.succ_mul] at hle; omega)
  · have hle : (xs.length / blockRowCount + 1) * blockRowCount ≤ b * blockRowCount :=
      Nat.mul_le_mul_right _ hgt
    rw [Nat.succ_mul] at hle
    rw [blockRows_eq_nil (by simp; omega), blockRows_eq_nil (by omega)]

/-- The first `m` blocks are the first `m * blockRowCount` rows. -/
theorem flatten_map_range_blockRows (xs : List α) :
    ∀ m, ((List.range m).map fun b => blockRows blockRowCount b xs).flatten =
      xs.take (m * blockRowCount)
  | 0 => by simp
  | m + 1 => by
    rw [List.range_succ, List.map_append, List.flatten_append, flatten_map_range_blockRows xs m,
      Nat.succ_mul, List.take_add]
    simp [blockRows]

theorem stripeBlockCount_zero (blockRowCount : Nat) : stripeBlockCount blockRowCount 0 = 0 := by
  rcases Nat.eq_zero_or_pos blockRowCount with h | h
  · simp [stripeBlockCount, h]
  · exact Nat.div_eq_of_lt (by omega)

/-- A row counts the block it goes to. -/
theorem stripeBlockCount_succ (hpos : 0 < blockRowCount) (n : Nat) :
    stripeBlockCount blockRowCount (n + 1) = n / blockRowCount + 1 := by
  rw [stripeBlockCount, show n + 1 + blockRowCount - 1 = n + blockRowCount by omega,
    Nat.add_div_right n hpos]

/-- The blocks of a stripe are its full blocks, and one more for the block in progress when it
has rows. -/
theorem stripeBlockCount_eq (hpos : 0 < blockRowCount) (n : Nat) :
    stripeBlockCount blockRowCount n =
      n / blockRowCount + if n % blockRowCount = 0 then 0 else 1 := by
  have hdiv := Nat.div_add_mod n blockRowCount
  have hmod := Nat.mod_lt n hpos
  have hcount : stripeBlockCount blockRowCount n =
      n / blockRowCount + (n % blockRowCount + blockRowCount - 1) / blockRowCount := by
    rw [stripeBlockCount, Nat.add_comm (n / blockRowCount), ← Nat.add_mul_div_left _ _ hpos]
    congr 1
    omega
  rw [hcount]
  congr 1
  split_ifs with h
  · exact Nat.div_eq_of_lt (by omega)
  · exact Nat.div_eq_of_lt_le (by omega) (by omega)

theorem lt_stripeBlockCount (hpos : 0 < blockRowCount) {b n : Nat} :
    b < stripeBlockCount blockRowCount n ↔
      b < n / blockRowCount ∨ (b = n / blockRowCount ∧ 0 < n % blockRowCount) := by
  rw [stripeBlockCount_eq hpos]
  split_ifs <;> omega

/-- **The blocks of a stripe, in order, are its rows.** -/
theorem flatten_blockRows (hpos : 0 < blockRowCount) (xs : List α) :
    ((List.range (stripeBlockCount blockRowCount xs.length)).map fun b =>
      blockRows blockRowCount b xs).flatten = xs := by
  rw [flatten_map_range_blockRows, List.take_of_length_le]
  have hdiv := Nat.div_add_mod (xs.length + blockRowCount - 1) blockRowCount
  have hmod := Nat.mod_lt (xs.length + blockRowCount - 1) hpos
  rw [stripeBlockCount, Nat.mul_comm]
  omega

end BlockRows

/-! ### Freezing a block -/

variable (k : Codecs)

/-- The buffers `SerializeBlockData` freezes a block of a column of type `att` into, when the
column's values in the block's rows are `values`: their exists flags packed, and the non-null
values serialized, then compressed when the codec finds it worthwhile. -/
def blockBuffersOf (att : Attribute) (compressionType : CompressionType)
    (values : List (Option Datum)) : Option ColumnBlockBuffers :=
  (serializeBoolArray (values.map Option.isSome) values.length).map fun existsBuffer =>
    let stored := compressValueBuffer k (serializeDatums k.varsizeAny att values.reduceOption)
      compressionType
    ⟨some existsBuffer, some stored.1, stored.2⟩

variable {k}

/-- A frozen block has both its buffers. -/
theorem isSome_of_blockBuffersOf {att : Attribute} {compressionType : CompressionType}
    {values : List (Option Datum)} {blockBuffers : ColumnBlockBuffers}
    (h : blockBuffersOf k att compressionType values = some blockBuffers) :
    blockBuffers.existsBuffer.isSome ∧ blockBuffers.valueBuffer.isSome := by
  obtain ⟨_, -, rfl⟩ := Option.map_eq_some'.mp h
  exact ⟨rfl, rfl⟩

theorem foldlM_congr {α β : Type} {f g : β → α → Option β} :
    ∀ (l : List α) (init : β), (∀ x ∈ l, ∀ acc, f acc x = g acc x) →
      l.foldlM f init = l.foldlM g init
  | [], _, _ => rfl
  | x :: l, init, h => by
    simp only [List.foldlM_cons, h x (List.mem_cons_self x l)]
    congr 1
    funext acc
    exact foldlM_congr l acc fun y hy => h y (List.mem_cons_of_mem x hy)

/-- `SerializeBoolArray` reads only the flags below its length. -/
theorem serializeBoolArray_eq_of_take {a a' : List Bool} {n : Nat} (h : a.take n = a'.take n) :
    serializeBoolArray a n = serializeBoolArray a' n := by
  refine foldlM_congr _ _ fun i hi buffer => ?_
  have hflag : a[i]? = a'[i]? := by
    rw [← List.getElem?_take_of_lt (List.mem_range.mp hi), h,
      List.getElem?_take_of_lt (List.mem_range.mp hi)]
  simp only [setFlagBit, hflag]

theorem take_succ_set {α : Type} {l : List α} {i : Nat} (a : α) (h : i < l.length) :
    (l.set i a).take (i + 1) = l.take i ++ [a] := by
  rw [List.set_eq_take_append_cons_drop, if_pos h]
  simp [List.take_append_eq_append_take, Nat.min_eq_left h.le]

theorem serializeDatums_concat (varsizeAny : List UInt8 → Nat) (att : Attribute)
    (values : List Datum) (value : Option Datum) :
    serializeDatums varsizeAny att (values ++ value.toList) = match value with
      | none => serializeDatums varsizeAny att values
      | some v => serializeSingleDatum varsizeAny (serializeDatums varsizeAny att values) v
          att.attbyval att.attlen att.attalign := by
  cases value <;> simp [serializeDatums, List.foldl_append]

/-- The buffers a block is frozen into, from block data that holds the exists flags of the
block's rows and their non-null values serialized. -/
theorem blockBuffersOf_eq {att : Attribute} {compressionType : CompressionType}
    {values : List (Option Datum)} {blockData : ColumnBlockData} {existsBuffer : List UInt8}
    (hexists : blockData.existsArray.take values.length = values.map Option.isSome)
    (hvalue : blockData.valueBuffer = serializeDatums k.varsizeAny att values.reduceOption)
    (hserialize : serializeBoolArray blockData.existsArray values.length = some existsBuffer) :
    blockBuffersOf k att compressionType values = some ⟨some existsBuffer,
      some (compressValueBuffer k blockData.valueBuffer compressionType).1,
      (compressValueBuffer k blockData.valueBuffer compressionType).2⟩ := by
  have hflags : serializeBoolArray (values.map Option.isSome) values.length = some existsBuffer :=
    (serializeBoolArray_eq_of_take (by rw [hexists, List.take_of_length_le (by simp)])).trans
      hserialize
  rw [blockBuffersOf, hflags, Option.map_some', hvalue]

/-! ### The column loops, one column at a time -/

/-- What `CStoreWriteRow` does to the block data of column `c`: the row's value is read, its
exists flag stored at `blockRowIndex`, and a non-null value serialized after the values
before it. -/
theorem writeBlockData_spec {st : TableWriteState} {row : List (Option Datum)}
    {blockRowIndex c : Nat} {blockData blockData' : ColumnBlockData}
    (h : writeBlockData k st row blockRowIndex c blockData = some blockData') :
    ∃ value, row[c]? = some value ∧ blockRowIndex < blockData.existsArray.length ∧
      blockData'.existsArray = blockData.existsArray.set blockRowIndex value.isSome ∧
      ∀ att, st.tupleDescriptor[c]? = some att → ∀ values : List Datum,
        blockData.valueBuffer = serializeDatums k.varsizeAny att values →
        blockData'.valueBuffer = serializeDatums k.varsizeAny att (values ++ value.toList) := by
  simp only [writeBlockData, setChecked, Option.bind_eq_bind, Option.bind_eq_some] at h
  obtain ⟨value, hvalue, h⟩ := h
  refine ⟨value, hvalue, ?_⟩
  cases value with
  | none =>
    simp only [Option.bind_eq_some, Option.pure_def, Option.some.injEq] at h
    obtain ⟨existsArray, hexists, rfl⟩ := h
    split_ifs at hexists with hlt
    cases hexists
    exact ⟨hlt, rfl, fun att _ values hbuffer => by
      rw [serializeDatums_concat]
      exact hbuffer⟩
  | some v =>
    simp only [Option.bind_eq_some, Option.pure_def, Option.some.injEq] at h
    obtain ⟨att, hatt, existsArray, hexists, rfl⟩ := h
    split_ifs at hexists with hlt
    cases hexists
    refine ⟨hlt, rfl, fun att' hatt' values hbuffer => ?_⟩
    obtain rfl := Option.some.inj (hatt.symm.trans hatt')
    rw [serializeDatums_concat, ← hbuffer]

/-- What `CStoreWriteRow` does to the skip nodes of column `c`: the node of block `blockIndex`
takes the row's value. -/
theorem writeSkipNode_spec {st : TableWriteState} {row : List (Option Datum)} {blockIndex c : Nat}
    {nodes nodes' : List ColumnBlockSkipNode}
    (h : writeSkipNode k st row blockIndex c nodes = some nodes') :
    ∃ value att comparisonFunction node, row[c]? = some value ∧
      st.tupleDescriptor[c]? = some att ∧
      st.comparisonFunctionArray[c]? = some comparisonFunction ∧
      nodes[blockIndex]? = some node ∧
      nodes' = nodes.set blockIndex
        (writeBlockSkipNode k.varsizeAny att comparisonFunction node value) := by
  simp only [writeSkipNode, Option.bind_eq_bind, Option.bind_eq_some, Option.pure_def,
    Option.some.injEq] at h
  obtain ⟨value, hvalue, att, hatt, comparisonFunction, hcmp, node, hnode, rfl⟩ := h
  exact ⟨value, att, comparisonFunction, node, hvalue, hatt, hcmp, hnode, rfl⟩

/-- **What `SerializeBlockData` does to each column.** For every column the stripe's buffers
count, block `blockIndex` gets the column's exists flags below `rowCount` packed, and its value
buffer as `compressValueBuffer` stores it; the column's value buffer is then emptied. -/
theorem serializeBlockData_spec {st st' : TableWriteState} {blockIndex rowCount : Nat}
    (h : serializeBlockData k st blockIndex rowCount = some st') :
    ∃ stripeBuffers columnBuffersArray blockDataArray, st.stripeBuffers = some stripeBuffers ∧
      st' = { st with
        stripeBuffers := some { stripeBuffers with columnBuffersArray }
        blockDataArray } ∧
      blockDataArray.length = st.blockDataArray.length ∧
      ∀ c < stripeBuffers.columnCount, ∃ columnBuffers blockData existsBuffer,
        stripeBuffers.columnBuffersArray[c]? = some columnBuffers ∧
        st.blockDataArray[c]? = some blockData ∧
        blockIndex < columnBuffers.blockBuffersArray.length ∧
        serializeBoolArray blockData.existsArray rowCount = some existsBuffer ∧
        columnBuffersArray[c]? = some ⟨columnBuffers.blockBuffersArray.set blockIndex
          ⟨some existsBuffer,
            some (compressValueBuffer k blockData.valueBuffer st.compressionType).1,
            (compressValueBuffer k blockData.valueBuffer st.compressionType).2⟩⟩ ∧
        blockDataArray[c]? = some { blockData with valueBuffer := [] } := by
  simp only [serializeBlockData, Option.bind_eq_bind, Option.bind_eq_some, Option.pure_def,
    Option.some.injEq] at h
  obtain ⟨stripeBuffers, hbuffers, frozen, hexists, columnBuffersArray, hvalues, blockDataArray,
    hreset, rfl⟩ := h
  obtain ⟨_, hreset₂, hlen, hreset'⟩ :=
    updateColumns_getElem? (updateColumns_of_eq_some hreset)
  obtain rfl := Option.some.inj (hreset.symm.trans hreset₂)
  refine ⟨stripeBuffers, columnBuffersArray, _, hbuffers, rfl, hlen, fun c hc => ?_⟩
  -- the first pass freezes the exists buffer of the column's block
  obtain ⟨columnBuffers, _, hcolumn, hbody, hfrozen⟩ := updateColumns_entry hexists hc
  simp only [Option.bind_eq_bind, Option.bind_eq_some, Option.pure_def, Option.some.injEq] at hbody
  obtain ⟨blockBuffers, hblock, blockData, hdata, existsBuffer, hserialize, rfl⟩ := hbody
  -- the second pass stores the value buffer of the same block
  obtain ⟨_, _, hfrozen', hvalue, hfinal⟩ := updateColumns_entry hvalues hc
  obtain rfl := Option.some.inj (hfrozen'.symm.trans hfrozen)
  simp only [Option.bind_eq_bind, Option.bind_eq_some, Option.pure_def, Option.some.injEq] at hvalue
  obtain ⟨_, hblock', blockData', hdata', rfl⟩ := hvalue
  obtain rfl := Option.some.inj (hdata.symm.trans hdata')
  have hlt : blockIndex < columnBuffers.blockBuffersArray.length :=
    (List.getElem?_eq_some_iff.mp hblock).1
  rw [List.getElem?_set_self hlt, Option.some.injEq] at hblock'
  subst hblock'
  refine ⟨columnBuffers, blockData, existsBuffer, hcolumn, hdata, hlt, hserialize, ?_, ?_⟩
  · rw [hfinal, List.set_set]
  · rw [hreset', if_pos hc, hdata]
    rfl

end CStoreWriter
