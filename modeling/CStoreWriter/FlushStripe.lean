import CStoreWriter.WriteState

/-!
# `FlushStripe`: laying out a stripe

`FlushStripe` freezes the last block of the stripe if it is not full, records in every
skip node the lengths of its block's exists and value buffers and their offsets within the
column's exists and value regions, serializes each column's skip list and the stripe
footer, and writes the stripe to the data fork in one order: the skip lists of all columns,
then column by column the exists buffers of all its blocks followed by their value buffers,
then the stripe footer. The stripe's metadata records where it starts and the lengths of
its three regions, and `currentFileOffset` moves past it.

## Main definitions

* `setBlockOffsets` — the offset pass over one column's blocks
* `createSkipListBufferArray`, `createStripeFooter`
* `flushStripeBuffers`, `flushStripe` — `FlushStripe` after freezing the last block, and all
  of it
* `BuffersSet` — what the passes need: every block of every column has its buffers

## Main results

* `flushStripe_layout` — the bytes written, the skip nodes, the stripe footer and the metadata
  agree, and every block's buffers sit at the offsets its skip node records
-/

namespace CStoreWriter

variable (g : PageGeometry) (k : Codecs)

/-- The block loop of `FlushStripe`'s offset pass for one column: the node of block `b` gets the
lengths of the block's exists and value buffers, their offsets within the column's exists and
value regions, and the compression type. Returns the nodes and the two running offsets. -/
def setBlockOffsets (blockBuffersArray : List ColumnBlockBuffers) :
    Nat → List ColumnBlockSkipNode → Option (List ColumnBlockSkipNode × Nat × Nat)
  | 0, nodes => some (nodes, 0, 0)
  | b + 1, nodes => do
    let acc ← setBlockOffsets blockBuffersArray b nodes
    let blockBuffers ← blockBuffersArray[b]?
    let existsBuffer ← blockBuffers.existsBuffer
    let valueBuffer ← blockBuffers.valueBuffer
    let node ← acc.1[b]?
    pure (acc.1.set b
      { node with
        existsBlockOffset := acc.2.1
        existsLength := existsBuffer.length
        valueBlockOffset := acc.2.2
        valueLength := valueBuffer.length
        valueCompressionType := blockBuffers.valueCompressionType },
      acc.2.1 + existsBuffer.length, acc.2.2 + valueBuffer.length)

/-- One iteration of `FlushStripe`'s offset pass: the nodes of column `c` with the offsets of its
blocks. -/
def setColumnOffsets (stripeBuffers : StripeBuffers) (blockCount c : Nat)
    (nodes : List ColumnBlockSkipNode) : Option (List ColumnBlockSkipNode) := do
  let columnBuffers ← stripeBuffers.columnBuffersArray[c]?
  let updated ← setBlockOffsets columnBuffers.blockBuffersArray blockCount nodes
  pure updated.1

/-- `CreateSkipListBufferArray`: `SerializeColumnSkipList` of every column's skip nodes. -/
def createSkipListBufferArray (stripeSkipList : StripeSkipList) (tupleDescriptor : List Attribute) :
    Option (List (List UInt8)) :=
  (List.range stripeSkipList.columnCount).mapM fun c => do
    let blockSkipNodeArray ← stripeSkipList.blockSkipNodeArray[c]?
    let att ← tupleDescriptor[c]?
    pure (k.serializeColumnSkipList blockSkipNodeArray stripeSkipList.blockCount att.attbyval
      att.attlen)

/-- `CreateStripeFooter`: per column, the size of its skip list and the sums of its blocks'
exists and value lengths. -/
def createStripeFooter (stripeSkipList : StripeSkipList)
    (skipListBufferArray : List (List UInt8)) : Option StripeFooter := do
  let sizes ← (List.range stripeSkipList.columnCount).mapM fun c => do
    let blockSkipNodeArray ← stripeSkipList.blockSkipNodeArray[c]?
    let nodes ← (List.range stripeSkipList.blockCount).mapM fun b => blockSkipNodeArray[b]?
    let skipListBuffer ← skipListBufferArray[c]?
    pure (skipListBuffer.length, (nodes.map (·.existsLength)).sum, (nodes.map (·.valueLength)).sum)
  pure ⟨stripeSkipList.columnCount, sizes.map (·.1), sizes.map (·.2.1), sizes.map (·.2.2)⟩

/-- The buffers `FlushStripe` writes for column `c`: the exists buffers of its blocks, then their
value buffers. -/
def columnDataBuffers (stripeBuffers : StripeBuffers) (blockCount c : Nat) :
    Option (List (List UInt8)) := do
  let columnBuffers ← stripeBuffers.columnBuffersArray[c]?
  let existsBuffers ← (List.range blockCount).mapM fun b => do
    let blockBuffers ← columnBuffers.blockBuffersArray[b]?
    blockBuffers.existsBuffer
  let valueBuffers ← (List.range blockCount).mapM fun b => do
    let blockBuffers ← columnBuffers.blockBuffersArray[b]?
    blockBuffers.valueBuffer
  pure (existsBuffers ++ valueBuffers)

/-- `WriteToFile` of each buffer in turn. -/
def writeBuffers (fork : List Page) (activeBlockNumber : Nat) (buffers : List (List UInt8)) :
    List Page × Nat :=
  buffers.foldl (fun acc data => writeToFile g acc.1 acc.2 data) (fork, activeBlockNumber)

/-- The sum of entries `0 .. n - 1` of a size array. -/
def sumSizes (sizes : List Nat) (n : Nat) : Option Nat :=
  ((List.range n).mapM fun c => sizes[c]?).map List.sum

/-- `FlushStripe` from its offset pass on, once the last block is frozen. -/
def flushStripeBuffers (st : TableWriteState) : Option (TableWriteState × StripeMetadata) := do
  let stripeBuffers ← st.stripeBuffers
  let stripeSkipList ← st.stripeSkipList
  let columnCount := st.tupleDescriptor.length
  let blockSkipNodeArray ← updateColumns (setColumnOffsets stripeBuffers stripeSkipList.blockCount)
    columnCount stripeSkipList.blockSkipNodeArray
  let stripeSkipList := { stripeSkipList with blockSkipNodeArray }
  let skipListBufferArray ← createSkipListBufferArray k stripeSkipList st.tupleDescriptor
  let stripeFooter ← createStripeFooter stripeSkipList skipListBufferArray
  let stripeFooterBuffer := k.serializeStripeFooter stripeFooter
  let dataBuffers ← (List.range columnCount).mapM
    (columnDataBuffers stripeBuffers stripeSkipList.blockCount)
  let buffers := skipListBufferArray ++ dataBuffers.flatten ++ [stripeFooterBuffer]
  let written := writeBuffers g st.relation.dataFork st.activeBlockNumber buffers
  let skipListLength ← sumSizes stripeFooter.skipListSizeArray columnCount
  let existsLength ← sumSizes stripeFooter.existsSizeArray columnCount
  let valueLength ← sumSizes stripeFooter.valueSizeArray columnCount
  pure ({ st with
      stripeSkipList := some stripeSkipList
      relation := { st.relation with dataFork := written.1 }
      activeBlockNumber := written.2
      currentFileOffset :=
        st.currentFileOffset + skipListLength + (existsLength + valueLength) +
          stripeFooterBuffer.length
      flushedStripes := st.flushedStripes ++ [buffers.flatten] },
    ⟨st.currentFileOffset, skipListLength, existsLength + valueLength, stripeFooterBuffer.length⟩)

/-- `FlushStripe`'s first step: the last block is frozen when it is not full. -/
def serializeLastBlock (st : TableWriteState) : Option TableWriteState := do
  let stripeBuffers ← st.stripeBuffers
  let blockRowCount := st.tableFooter.blockRowCount
  if blockRowCount = 0 then none
  else if 0 < stripeBuffers.rowCount % blockRowCount then
    serializeBlockData k st (stripeBuffers.rowCount / blockRowCount)
      (stripeBuffers.rowCount % blockRowCount)
  else some st

/-- `FlushStripe(writeState)`: the new state and the stripe's metadata. -/
def flushStripe (st : TableWriteState) : Option (TableWriteState × StripeMetadata) :=
  serializeLastBlock k st >>= flushStripeBuffers g k

/-! ### The layout of a stripe -/

/-- Block `b` of column `c` of the open stripe's buffers. -/
def blockBuffersAt (stripeBuffers : StripeBuffers) (c b : Nat) : Option ColumnBlockBuffers :=
  stripeBuffers.columnBuffersArray[c]?.bind fun columnBuffers => columnBuffers.blockBuffersArray[b]?

/-- The exists buffer of block `b` of column `c`. -/
def existsBufferAt (stripeBuffers : StripeBuffers) (c b : Nat) : List UInt8 :=
  ((blockBuffersAt stripeBuffers c b).bind (·.existsBuffer)).getD []

/-- The value buffer of block `b` of column `c`. -/
def valueBufferAt (stripeBuffers : StripeBuffers) (c b : Nat) : List UInt8 :=
  ((blockBuffersAt stripeBuffers c b).bind (·.valueBuffer)).getD []

/-- The total length of buffers `0 .. n - 1`. -/
def prefixLength (buffers : Nat → List UInt8) (n : Nat) : Nat :=
  ((List.range n).map fun i => (buffers i).length).sum

/-- The data region of a stripe of `columnCount` columns and `blockCount` blocks: column by
column, the exists buffers of its blocks, then their value buffers. -/
def stripeDataBuffers (stripeBuffers : StripeBuffers) (columnCount blockCount : Nat) :
    List (List UInt8) :=
  (List.range columnCount).flatMap fun c =>
    (List.range blockCount).map (existsBufferAt stripeBuffers c) ++
      (List.range blockCount).map (valueBufferAt stripeBuffers c)

/-- Where column `c`'s exists region starts in the stripe's data region. -/
def columnDataOffset (stripeBuffers : StripeBuffers) (blockCount c : Nat) : Nat :=
  ((List.range c).map fun c' => prefixLength (existsBufferAt stripeBuffers c') blockCount +
    prefixLength (valueBufferAt stripeBuffers c') blockCount).sum

/-- The buffers of a stripe in the order `FlushStripe` writes them: the skip lists of all
columns, the data region, the stripe footer. -/
def stripeLayout (skipListBufferArray : List (List UInt8)) (stripeBuffers : StripeBuffers)
    (columnCount blockCount : Nat) (stripeFooterBuffer : List UInt8) : List (List UInt8) :=
  skipListBufferArray ++ stripeDataBuffers stripeBuffers columnCount blockCount ++
    [stripeFooterBuffer]

/-- `buffer` occupies the bytes `[offset, offset + |buffer|)` of `bytes`. -/
def OccursAt {α : Type} (bytes : List α) (offset : Nat) (buffer : List α) : Prop :=
  (bytes.drop offset).take buffer.length = buffer

/-- `node` records block `b` of column `c`: the lengths of the block's buffers, and their
offsets within the column's exists and value regions. -/
structure RecordsBlock (stripeBuffers : StripeBuffers) (c b : Nat) (node : ColumnBlockSkipNode) :
    Prop where
  existsLength : node.existsLength = (existsBufferAt stripeBuffers c b).length
  existsBlockOffset : node.existsBlockOffset = prefixLength (existsBufferAt stripeBuffers c) b
  valueLength : node.valueLength = (valueBufferAt stripeBuffers c b).length
  valueBlockOffset : node.valueBlockOffset = prefixLength (valueBufferAt stripeBuffers c) b

/-- What `FlushStripe` reads once the last block is frozen: the skip list counts the columns,
every column has its buffers and a skip node for each block, and every block has its exists
and value buffers. -/
structure BuffersSet (columnCount : Nat) (stripeBuffers : StripeBuffers)
    (stripeSkipList : StripeSkipList) : Prop where
  skipListColumns : stripeSkipList.columnCount = columnCount
  columns : ∀ c < columnCount, (stripeBuffers.columnBuffersArray[c]?).isSome
  nodes : ∀ c < columnCount, ∃ nodes, stripeSkipList.blockSkipNodeArray[c]? = some nodes ∧
    stripeSkipList.blockCount ≤ nodes.length
  buffers : ∀ c < columnCount, ∀ b < stripeSkipList.blockCount, ∃ blockBuffers,
    blockBuffersAt stripeBuffers c b = some blockBuffers ∧ blockBuffers.existsBuffer.isSome ∧
      blockBuffers.valueBuffer.isSome

variable {g k}

/-! ### Lists indexed by a range -/

theorem prefixLength_succ (buffers : Nat → List UInt8) (n : Nat) :
    prefixLength buffers (n + 1) = prefixLength buffers n + (buffers n).length := by
  simp [prefixLength, List.range_succ]

theorem length_flatten_map_range (buffers : Nat → List UInt8) (n : Nat) :
    ((List.range n).map buffers).flatten.length = prefixLength buffers n := by
  simp [prefixLength, Function.comp_def]

/-- Buffer `i` of a run of buffers starts after the buffers before it. -/
theorem flatten_map_range_split {α : Type} (f : Nat → List α) {i : Nat} :
    ∀ {n : Nat}, i < n →
      ∃ rest, ((List.range n).map f).flatten = ((List.range i).map f).flatten ++ (f i ++ rest)
  | 0, h => absurd h (Nat.not_lt_zero i)
  | n + 1, h => by
    rcases Nat.lt_succ_iff_lt_or_eq.mp h with h | rfl
    · obtain ⟨rest, hrest⟩ := flatten_map_range_split f h
      exact ⟨rest ++ f n, by simp [List.range_succ, hrest]⟩
    · exact ⟨[], by simp [List.range_succ]⟩

/-- Reading entries `0 .. n - 1` of a list one by one gives its first `n` entries. -/
theorem mapM_range_getElem? {α : Type} (l : List α) :
    ∀ {n : Nat}, n ≤ l.length → (List.range n).mapM (fun i => l[i]?) = some (l.take n)
  | 0, _ => rfl
  | n + 1, h => by
    rw [List.range_succ, List.mapM_append, mapM_range_getElem? l (by omega), List.mapM_cons,
      List.getElem?_eq_getElem (by omega), List.mapM_nil, List.take_succ,
      List.getElem?_eq_getElem (by omega)]
    rfl

/-- The first `n` entries of a list, mapped, are the values a function gives at `0 .. n - 1`
when it agrees with the mapped entries there. -/
theorem map_take_eq_map_range {α β : Type} {l : List α} {f : α → β} {F : Nat → β} :
    ∀ {n : Nat}, n ≤ l.length → (∀ i < n, ∃ a, l[i]? = some a ∧ f a = F i) →
      (l.take n).map f = (List.range n).map F
  | 0, _, _ => by simp
  | n + 1, hn, h => by
    obtain ⟨a, ha, hfa⟩ := h n (Nat.lt_succ_self n)
    rw [List.take_succ, List.range_succ, List.map_append, List.map_append,
      map_take_eq_map_range (by omega) fun i hi => h i (by omega), ha]
    simp [hfa]

theorem sumSizes_eq {l : List Nat} {n : Nat} (h : n ≤ l.length) :
    sumSizes l n = some (l.take n).sum := by
  rw [sumSizes, mapM_range_getElem? l h]; rfl

theorem occursAt_of_eq {α : Type} {bytes front buffer rest : List α} {offset : Nat}
    (h : bytes = front ++ (buffer ++ rest)) (hoffset : front.length = offset) :
    OccursAt bytes offset buffer := by
  subst h hoffset
  simp [OccursAt]

/-! ### Writing the buffers -/

/-- `WriteToFile` of each buffer in turn appends them, in order, to the data fork's logical
stream, and leaves the fork ready for the next write. -/
theorem writeBuffers_appends :
    ∀ {fork : List Page} {activeBlockNumber : Nat} (buffers : List (List UInt8)),
      ReadyAt g fork activeBlockNumber →
      forkStream (writeBuffers g fork activeBlockNumber buffers).1 =
          forkStream fork ++ buffers.flatten ∧
        ReadyAt g (writeBuffers g fork activeBlockNumber buffers).1
          (writeBuffers g fork activeBlockNumber buffers).2
  | _, _, [], hready => ⟨by simp [writeBuffers], hready⟩
  | fork, activeBlockNumber, data :: buffers, hready => by
    obtain ⟨hstream, hready'⟩ := writeToFile_appends data hready
    obtain ⟨hstream', hready''⟩ := writeBuffers_appends buffers hready'
    exact ⟨by rw [writeBuffers, List.foldl_cons, ← writeBuffers, hstream', hstream,
      List.flatten_cons, List.append_assoc], hready''⟩

/-! ### The offset pass -/

/-- The block loop gives block `b`'s node the lengths of its buffers and the total length of
the buffers of the blocks before it, and leaves the nodes past the loop alone. -/
theorem setBlockOffsets_spec {blockBuffersArray : List ColumnBlockBuffers}
    {existsBuffers valueBuffers : Nat → List UInt8} {nodes : List ColumnBlockSkipNode} :
    ∀ {blockCount : Nat}, blockCount ≤ nodes.length →
      (∀ b < blockCount, ∃ blockBuffers, blockBuffersArray[b]? = some blockBuffers ∧
        blockBuffers.existsBuffer = some (existsBuffers b) ∧
          blockBuffers.valueBuffer = some (valueBuffers b)) →
      ∃ nodes', setBlockOffsets blockBuffersArray blockCount nodes =
          some (nodes', prefixLength existsBuffers blockCount,
            prefixLength valueBuffers blockCount) ∧
        nodes'.length = nodes.length ∧
        (∀ b < blockCount, ∃ node blockBuffers, nodes[b]? = some node ∧
          blockBuffersArray[b]? = some blockBuffers ∧
          nodes'[b]? = some { node with
            existsBlockOffset := prefixLength existsBuffers b
            existsLength := (existsBuffers b).length
            valueBlockOffset := prefixLength valueBuffers b
            valueLength := (valueBuffers b).length
            valueCompressionType := blockBuffers.valueCompressionType }) ∧
        ∀ b, blockCount ≤ b → nodes'[b]? = nodes[b]?
  | 0, _, _ => ⟨nodes, rfl, rfl, fun _ h => absurd h (Nat.not_lt_zero _), fun _ _ => rfl⟩
  | n + 1, hlen, h => by
    obtain ⟨nodes', hrun, hlen', hset, hframe⟩ :=
      @setBlockOffsets_spec blockBuffersArray existsBuffers valueBuffers nodes n (by omega)
        fun b hb => h b (by omega)
    obtain ⟨blockBuffers, hbb, hexists, hvalue⟩ := h n (Nat.lt_succ_self n)
    have hnode : nodes'[n]? = some nodes[n] := by rw [hframe n le_rfl, List.getElem?_eq_getElem]
    refine ⟨nodes'.set n { nodes[n] with
        existsBlockOffset := prefixLength existsBuffers n
        existsLength := (existsBuffers n).length
        valueBlockOffset := prefixLength valueBuffers n
        valueLength := (valueBuffers n).length
        valueCompressionType := blockBuffers.valueCompressionType },
      by simp [setBlockOffsets, hrun, hbb, hexists, hvalue, hnode, prefixLength_succ],
      by simp [hlen'], fun b hb => ?_, fun b hb => ?_⟩
    · rcases Nat.lt_succ_iff_lt_or_eq.mp hb with hb | rfl
      · rw [List.getElem?_set_ne (by omega)]
        exact hset b hb
      · exact ⟨_, _, List.getElem?_eq_getElem (by omega), hbb, List.getElem?_set_self (by omega)⟩
    · rw [List.getElem?_set_ne (by omega), hframe b (by omega)]

section BuffersSet

variable {columnCount : Nat} {stripeBuffers : StripeBuffers} {stripeSkipList : StripeSkipList}

/-- A column's frozen blocks, as the offset pass and the emission loops read them. -/
theorem BuffersSet.blockBuffers (hset : BuffersSet columnCount stripeBuffers stripeSkipList)
    {c b : Nat} {columnBuffers : ColumnBuffers} (hc : c < columnCount)
    (hb : b < stripeSkipList.blockCount)
    (hcolumn : stripeBuffers.columnBuffersArray[c]? = some columnBuffers) :
    ∃ blockBuffers, columnBuffers.blockBuffersArray[b]? = some blockBuffers ∧
      blockBuffers.existsBuffer = some (existsBufferAt stripeBuffers c b) ∧
        blockBuffers.valueBuffer = some (valueBufferAt stripeBuffers c b) := by
  obtain ⟨blockBuffers, hat, hexists, hvalue⟩ := hset.buffers c hc b hb
  obtain ⟨e, he⟩ := Option.isSome_iff_exists.mp hexists
  obtain ⟨v, hv⟩ := Option.isSome_iff_exists.mp hvalue
  have hblock : columnBuffers.blockBuffersArray[b]? = some blockBuffers := by
    simpa [blockBuffersAt, hcolumn] using hat
  exact ⟨blockBuffers, hblock, by simp [existsBufferAt, hat, he],
    by simp [valueBufferAt, hat, hv]⟩

/-- One iteration of the offset pass: column `c`'s nodes record its blocks. -/
theorem setColumnOffsets_spec (hset : BuffersSet columnCount stripeBuffers stripeSkipList)
    {c : Nat} (hc : c < columnCount) :
    ∃ nodes nodes', stripeSkipList.blockSkipNodeArray[c]? = some nodes ∧
      setColumnOffsets stripeBuffers stripeSkipList.blockCount c nodes = some nodes' ∧
      stripeSkipList.blockCount ≤ nodes'.length ∧
      ∀ b < stripeSkipList.blockCount, ∃ node, nodes'[b]? = some node ∧
        RecordsBlock stripeBuffers c b node := by
  obtain ⟨nodes, hnodes, hlen⟩ := hset.nodes c hc
  obtain ⟨columnBuffers, hcolumn⟩ := Option.isSome_iff_exists.mp (hset.columns c hc)
  obtain ⟨nodes', hrun, hlen', hrec, -⟩ := setBlockOffsets_spec hlen fun b hb =>
    hset.blockBuffers hc hb hcolumn
  refine ⟨nodes, nodes', hnodes, by simp [setColumnOffsets, hcolumn, hrun], by omega,
    fun b hb => ?_⟩
  obtain ⟨node, blockBuffers, -, -, hnode⟩ := hrec b hb
  exact ⟨_, hnode, ⟨rfl, rfl, rfl, rfl⟩⟩

/-- The offset pass: every column's nodes record its blocks. -/
theorem offsetPass_spec (hset : BuffersSet columnCount stripeBuffers stripeSkipList) :
    ∃ blockSkipNodeArray, updateColumns (setColumnOffsets stripeBuffers stripeSkipList.blockCount)
        columnCount stripeSkipList.blockSkipNodeArray = some blockSkipNodeArray ∧
      ∀ c < columnCount, ∃ nodes, blockSkipNodeArray[c]? = some nodes ∧
        stripeSkipList.blockCount ≤ nodes.length ∧
        ∀ b < stripeSkipList.blockCount, ∃ node, nodes[b]? = some node ∧
          RecordsBlock stripeBuffers c b node := by
  obtain ⟨blockSkipNodeArray, hrun, -, hget⟩ := updateColumns_getElem? fun c hc =>
    let ⟨nodes, nodes', hnodes, hset', _⟩ := setColumnOffsets_spec hset hc
    ⟨nodes, nodes', hnodes, hset'⟩
  refine ⟨blockSkipNodeArray, hrun, fun c hc => ?_⟩
  obtain ⟨nodes, nodes', hnodes, hset', hlen, hrec⟩ := setColumnOffsets_spec hset hc
  exact ⟨nodes', by rw [hget, if_pos hc, hnodes, Option.some_bind, hset'], hlen, hrec⟩

end BuffersSet

/-! ### Serializing the skip lists and the stripe footer -/

theorem createSkipListBufferArray_spec {stripeSkipList : StripeSkipList}
    {tupleDescriptor : List Attribute}
    (hcolumns : stripeSkipList.columnCount = tupleDescriptor.length)
    (hnodes : ∀ c < tupleDescriptor.length, (stripeSkipList.blockSkipNodeArray[c]?).isSome) :
    ∃ skipListBufferArray,
      createSkipListBufferArray k stripeSkipList tupleDescriptor = some skipListBufferArray ∧
      skipListBufferArray.length = tupleDescriptor.length ∧
      ∀ c < tupleDescriptor.length, ∃ att nodes, tupleDescriptor[c]? = some att ∧
        stripeSkipList.blockSkipNodeArray[c]? = some nodes ∧
        skipListBufferArray[c]? = some (k.serializeColumnSkipList nodes stripeSkipList.blockCount
          att.attbyval att.attlen) := by
  have hdefined : ∀ c < tupleDescriptor.length, ∃ att nodes, tupleDescriptor[c]? = some att ∧
      stripeSkipList.blockSkipNodeArray[c]? = some nodes := fun c hc => by
    obtain ⟨nodes, hnodes⟩ := Option.isSome_iff_exists.mp (hnodes c hc)
    exact ⟨_, nodes, List.getElem?_eq_getElem hc, hnodes⟩
  obtain ⟨l, hl, hlen, hget⟩ : ∃ l, createSkipListBufferArray k stripeSkipList tupleDescriptor =
      some l ∧ l.length = tupleDescriptor.length ∧ ∀ c < tupleDescriptor.length, l[c]? = _ := by
    rw [createSkipListBufferArray, hcolumns]
    exact mapM_range_exists fun c hc => by
      obtain ⟨att, nodes, hatt, hnodes⟩ := hdefined c hc
      simp [hatt, hnodes]
  refine ⟨l, hl, hlen, fun c hc => ?_⟩
  obtain ⟨att, nodes, hatt, hnodes⟩ := hdefined c hc
  exact ⟨att, nodes, hatt, hnodes, by rw [hget c hc, hnodes, hatt]; rfl⟩

theorem map_range_getD {α β : Type} (l : List α) (f : α → β) (d : α) :
    (List.range l.length).map (fun i => f (l[i]?.getD d)) = l.map f := by
  apply List.ext_getElem?
  intro i
  by_cases hi : i < l.length
  · simp [hi, List.getElem?_range]
  · simp [List.getElem?_eq_none, Nat.le_of_not_lt hi]

/-- `CreateStripeFooter` sums its nodes' lengths; when the nodes record the blocks, the sums are
the lengths of the columns' exists and value regions. -/
theorem createStripeFooter_spec {stripeBuffers : StripeBuffers} {stripeSkipList : StripeSkipList}
    {skipListBufferArray : List (List UInt8)} {columnCount : Nat}
    (hcolumns : stripeSkipList.columnCount = columnCount)
    (hlen : skipListBufferArray.length = columnCount)
    (hnodes : ∀ c < columnCount, ∃ nodes,
      stripeSkipList.blockSkipNodeArray[c]? = some nodes ∧
      stripeSkipList.blockCount ≤ nodes.length ∧
      ∀ b < stripeSkipList.blockCount, ∃ node, nodes[b]? = some node ∧
        RecordsBlock stripeBuffers c b node) :
    createStripeFooter stripeSkipList skipListBufferArray = some
      ⟨columnCount, skipListBufferArray.map List.length,
        (List.range columnCount).map fun c =>
          prefixLength (existsBufferAt stripeBuffers c) stripeSkipList.blockCount,
        (List.range columnCount).map fun c =>
          prefixLength (valueBufferAt stripeBuffers c) stripeSkipList.blockCount⟩ := by
  subst hcolumns
  rw [createStripeFooter, mapM_range_eq_some (h := fun c =>
    ((skipListBufferArray[c]?.getD []).length,
      prefixLength (existsBufferAt stripeBuffers c) stripeSkipList.blockCount,
      prefixLength (valueBufferAt stripeBuffers c) stripeSkipList.blockCount)) fun c hc => ?_]
  · simp [← hlen, map_range_getD, Function.comp_def]
  obtain ⟨nodes, hnodes, hblocks, hrec⟩ := hnodes c hc
  have hsum {f : ColumnBlockSkipNode → Nat} {F : Nat → List UInt8}
      (hf : ∀ b node, RecordsBlock stripeBuffers c b node → f node = (F b).length) :
      ((nodes.take stripeSkipList.blockCount).map f).sum = prefixLength F
        stripeSkipList.blockCount := by
    rw [map_take_eq_map_range hblocks fun b hb => by
      obtain ⟨node, hnode, hr⟩ := hrec b hb
      exact ⟨node, hnode, hf b node hr⟩]
    rfl
  simp only [hnodes, Option.bind_eq_bind, Option.some_bind, mapM_range_getElem? nodes hblocks,
    List.getElem?_eq_getElem (hlen ▸ hc), hsum fun _ _ h => h.existsLength,
    hsum fun _ _ h => h.valueLength, Option.getD_some]
  rfl

/-! ### The data region -/

section Data

variable {columnCount : Nat} {stripeBuffers : StripeBuffers} {stripeSkipList : StripeSkipList}

theorem columnDataBuffers_spec (hset : BuffersSet columnCount stripeBuffers stripeSkipList)
    {c : Nat} (hc : c < columnCount) :
    columnDataBuffers stripeBuffers stripeSkipList.blockCount c = some
      ((List.range stripeSkipList.blockCount).map (existsBufferAt stripeBuffers c) ++
        (List.range stripeSkipList.blockCount).map (valueBufferAt stripeBuffers c)) := by
  obtain ⟨columnBuffers, hcolumn⟩ := Option.isSome_iff_exists.mp (hset.columns c hc)
  simp only [columnDataBuffers, hcolumn, Option.bind_eq_bind, Option.some_bind]
  rw [mapM_range_eq_some (h := existsBufferAt stripeBuffers c) fun b hb => ?_,
    mapM_range_eq_some (h := valueBufferAt stripeBuffers c) fun b hb => ?_]
  · rfl
  all_goals
    obtain ⟨blockBuffers, hblock, hexists, hvalue⟩ := hset.blockBuffers hc hb hcolumn
    simp [hblock, hexists, hvalue]

/-- The emission loops write the data region. -/
theorem dataBuffers_spec (hset : BuffersSet columnCount stripeBuffers stripeSkipList) :
    ∃ dataBuffers, (List.range columnCount).mapM
        (columnDataBuffers stripeBuffers stripeSkipList.blockCount) = some dataBuffers ∧
      dataBuffers.flatten = stripeDataBuffers stripeBuffers columnCount stripeSkipList.blockCount :=
  ⟨_, mapM_range_eq_some fun _ hc => columnDataBuffers_spec hset hc, rfl⟩

end Data

theorem stripeDataBuffers_succ (stripeBuffers : StripeBuffers) (n blockCount : Nat) :
    stripeDataBuffers stripeBuffers (n + 1) blockCount =
      stripeDataBuffers stripeBuffers n blockCount ++
        ((List.range blockCount).map (existsBufferAt stripeBuffers n) ++
          (List.range blockCount).map (valueBufferAt stripeBuffers n)) := by
  simp [stripeDataBuffers, List.range_succ]

theorem columnDataOffset_succ (stripeBuffers : StripeBuffers) (blockCount n : Nat) :
    columnDataOffset stripeBuffers blockCount (n + 1) =
      columnDataOffset stripeBuffers blockCount n +
        (prefixLength (existsBufferAt stripeBuffers n) blockCount +
          prefixLength (valueBufferAt stripeBuffers n) blockCount) := by
  simp [columnDataOffset, List.range_succ]

theorem length_flatten_stripeDataBuffers (stripeBuffers : StripeBuffers) (blockCount : Nat) :
    ∀ columnCount, (stripeDataBuffers stripeBuffers columnCount blockCount).flatten.length =
      columnDataOffset stripeBuffers blockCount columnCount
  | 0 => rfl
  | n + 1 => by
    rw [stripeDataBuffers_succ, columnDataOffset_succ, List.flatten_append, List.length_append,
      length_flatten_stripeDataBuffers stripeBuffers blockCount n, List.flatten_append,
      List.length_append, length_flatten_map_range, length_flatten_map_range]

/-- Column `c`'s exists region starts at `columnDataOffset` in the data region, and its value
region right after it. -/
theorem stripeDataBuffers_column (stripeBuffers : StripeBuffers) {columnCount c : Nat}
    (blockCount : Nat) (hc : c < columnCount) :
    ∃ front rest, (stripeDataBuffers stripeBuffers columnCount blockCount).flatten =
      front ++ (((List.range blockCount).map (existsBufferAt stripeBuffers c)).flatten ++
        (((List.range blockCount).map (valueBufferAt stripeBuffers c)).flatten ++ rest)) ∧
      front.length = columnDataOffset stripeBuffers blockCount c := by
  obtain ⟨rest, hrest⟩ := flatten_map_range_split (fun c =>
    (List.range blockCount).map (existsBufferAt stripeBuffers c) ++
      (List.range blockCount).map (valueBufferAt stripeBuffers c)) hc
  refine ⟨(stripeDataBuffers stripeBuffers c blockCount).flatten, rest.flatten, ?_,
    length_flatten_stripeDataBuffers stripeBuffers blockCount c⟩
  simp only [stripeDataBuffers, List.flatMap, hrest, List.flatten_append, List.append_assoc]

/-- The exists buffer of block `b` of column `c` sits after the skip lists, the columns before
`c` and the exists buffers of the blocks before `b`. -/
theorem stripeLayout_existsBuffer (skipListBufferArray : List (List UInt8))
    (stripeBuffers : StripeBuffers) {columnCount blockCount c b : Nat}
    (stripeFooterBuffer : List UInt8) (hc : c < columnCount) (hb : b < blockCount) :
    OccursAt (stripeLayout skipListBufferArray stripeBuffers columnCount blockCount
        stripeFooterBuffer).flatten
      (skipListBufferArray.flatten.length + columnDataOffset stripeBuffers blockCount c +
        prefixLength (existsBufferAt stripeBuffers c) b)
      (existsBufferAt stripeBuffers c b) := by
  obtain ⟨front, rest, hsplit, hfront⟩ := stripeDataBuffers_column stripeBuffers blockCount hc
  obtain ⟨rest', hblock⟩ := flatten_map_range_split (existsBufferAt stripeBuffers c) hb
  refine @occursAt_of_eq _ _ (skipListBufferArray.flatten ++ front ++
    ((List.range b).map (existsBufferAt stripeBuffers c)).flatten) _
    (rest' ++ (((List.range blockCount).map (valueBufferAt stripeBuffers c)).flatten ++ rest) ++
      stripeFooterBuffer) _ ?_ ?_
  · simp [stripeLayout, hsplit, hblock]
  · simp only [List.length_append, hfront, length_flatten_map_range]

/-- The value buffer of block `b` of column `c` sits after the skip lists, the columns before
`c`, the column's exists region and the value buffers of the blocks before `b`. -/
theorem stripeLayout_valueBuffer (skipListBufferArray : List (List UInt8))
    (stripeBuffers : StripeBuffers) {columnCount blockCount c b : Nat}
    (stripeFooterBuffer : List UInt8) (hc : c < columnCount) (hb : b < blockCount) :
    OccursAt (stripeLayout skipListBufferArray stripeBuffers columnCount blockCount
        stripeFooterBuffer).flatten
      (skipListBufferArray.flatten.length + columnDataOffset stripeBuffers blockCount c +
        prefixLength (existsBufferAt stripeBuffers c) blockCount +
          prefixLength (valueBufferAt stripeBuffers c) b)
      (valueBufferAt stripeBuffers c b) := by
  obtain ⟨front, rest, hsplit, hfront⟩ := stripeDataBuffers_column stripeBuffers blockCount hc
  obtain ⟨rest', hblock⟩ := flatten_map_range_split (valueBufferAt stripeBuffers c) hb
  refine @occursAt_of_eq _ _ (skipListBufferArray.flatten ++ front ++
    ((List.range blockCount).map (existsBufferAt stripeBuffers c)).flatten ++
      ((List.range b).map (valueBufferAt stripeBuffers c)).flatten) _
    (rest' ++ rest ++ stripeFooterBuffer) _ ?_ ?_
  · simp [stripeLayout, hsplit, hblock]
  · simp only [List.length_append, hfront, length_flatten_map_range]

theorem length_flatten_stripeLayout (skipListBufferArray : List (List UInt8))
    (stripeBuffers : StripeBuffers) (columnCount blockCount : Nat)
    (stripeFooterBuffer : List UInt8) :
    (stripeLayout skipListBufferArray stripeBuffers columnCount blockCount
        stripeFooterBuffer).flatten.length =
      (skipListBufferArray.map List.length).sum +
        columnDataOffset stripeBuffers blockCount columnCount + stripeFooterBuffer.length := by
  rw [stripeLayout, List.flatten_append, List.flatten_append, List.length_append,
    List.length_append, length_flatten_stripeDataBuffers, List.length_flatten]
  simp

/-! ### `FlushStripe` -/

theorem sumSizes_of_length {l : List Nat} {n : Nat} (h : l.length = n) :
    sumSizes l n = some l.sum := by
  rw [sumSizes_eq (by omega), List.take_of_length_le (by omega)]

theorem sumSizes_map_range (sizes : Nat → Nat) (n : Nat) :
    sumSizes ((List.range n).map sizes) n = some ((List.range n).map sizes).sum :=
  sumSizes_of_length (by simp)

/-- `FlushStripe` after the last block is frozen: the offset pass, the skip lists and the stripe
footer, and the state and metadata it returns. -/
theorem flushStripeBuffers_spec {st : TableWriteState} {stripeBuffers : StripeBuffers}
    {stripeSkipList : StripeSkipList} (hbuffers : st.stripeBuffers = some stripeBuffers)
    (hskip : st.stripeSkipList = some stripeSkipList)
    (hset : BuffersSet st.tupleDescriptor.length stripeBuffers stripeSkipList) :
    ∃ blockSkipNodeArray skipListBufferArray stripeFooter,
      let buffers := stripeLayout skipListBufferArray stripeBuffers st.tupleDescriptor.length
        stripeSkipList.blockCount (k.serializeStripeFooter stripeFooter)
      let written := writeBuffers g st.relation.dataFork st.activeBlockNumber buffers
      flushStripeBuffers g k st = some ({ st with
          stripeSkipList := some { stripeSkipList with blockSkipNodeArray }
          relation := { st.relation with dataFork := written.1 }
          activeBlockNumber := written.2
          currentFileOffset := st.currentFileOffset + buffers.flatten.length
          flushedStripes := st.flushedStripes ++ [buffers.flatten] },
        ⟨st.currentFileOffset, (skipListBufferArray.map List.length).sum,
          columnDataOffset stripeBuffers stripeSkipList.blockCount st.tupleDescriptor.length,
          (k.serializeStripeFooter stripeFooter).length⟩) ∧
      skipListBufferArray.length = st.tupleDescriptor.length ∧
      (∀ c < st.tupleDescriptor.length, ∃ att nodes, st.tupleDescriptor[c]? = some att ∧
        blockSkipNodeArray[c]? = some nodes ∧
        skipListBufferArray[c]? = some (k.serializeColumnSkipList nodes stripeSkipList.blockCount
          att.attbyval att.attlen)) ∧
      stripeFooter = ⟨st.tupleDescriptor.length, skipListBufferArray.map List.length,
        (List.range st.tupleDescriptor.length).map fun c =>
          prefixLength (existsBufferAt stripeBuffers c) stripeSkipList.blockCount,
        (List.range st.tupleDescriptor.length).map fun c =>
          prefixLength (valueBufferAt stripeBuffers c) stripeSkipList.blockCount⟩ ∧
      ∀ c < st.tupleDescriptor.length, ∃ nodes, blockSkipNodeArray[c]? = some nodes ∧
        stripeSkipList.blockCount ≤ nodes.length ∧
        ∀ b < stripeSkipList.blockCount, ∃ node, nodes[b]? = some node ∧
          RecordsBlock stripeBuffers c b node := by
  have hcolumns := hset.skipListColumns
  obtain ⟨blockSkipNodeArray, hpass, hrec⟩ := offsetPass_spec hset
  obtain ⟨skipListBufferArray, hskipLists, hlen, hget⟩ :=
    @createSkipListBufferArray_spec k { stripeSkipList with blockSkipNodeArray } st.tupleDescriptor
      hcolumns fun c hc => by
        obtain ⟨nodes, hnodes, -⟩ := hrec c hc
        simp [hnodes]
  have hfooter := @createStripeFooter_spec stripeBuffers { stripeSkipList with blockSkipNodeArray }
    _ _ hcolumns hlen hrec
  have hskipLength : sumSizes (skipListBufferArray.map List.length) st.tupleDescriptor.length =
      some (skipListBufferArray.map List.length).sum := sumSizes_of_length (by simp [hlen])
  obtain ⟨dataBuffers, hdata, hflatten⟩ := dataBuffers_spec hset
  refine ⟨blockSkipNodeArray, skipListBufferArray, _, ?_, hlen, hget, rfl, hrec⟩
  have hsums : ((List.range st.tupleDescriptor.length).map fun c =>
        prefixLength (existsBufferAt stripeBuffers c) stripeSkipList.blockCount).sum +
      ((List.range st.tupleDescriptor.length).map fun c =>
        prefixLength (valueBufferAt stripeBuffers c) stripeSkipList.blockCount).sum =
      columnDataOffset stripeBuffers stripeSkipList.blockCount st.tupleDescriptor.length := by
    rw [columnDataOffset, List.sum_map_add]
  simp only [length_flatten_stripeLayout]
  simp only [flushStripeBuffers, hbuffers, hskip, Option.bind_eq_bind, Option.some_bind, hpass,
    hskipLists, hfooter, hdata, hflatten, hskipLength, sumSizes_map_range, stripeLayout, ← hsums,
    Nat.add_assoc]
  rfl

/-! ### What a defined `FlushStripe` read -/

theorem length_setBlockOffsets {blockBuffersArray : List ColumnBlockBuffers}
    {nodes : List ColumnBlockSkipNode} :
    ∀ {blockCount : Nat} {r : List ColumnBlockSkipNode × Nat × Nat},
      setBlockOffsets blockBuffersArray blockCount nodes = some r → r.1.length = nodes.length
  | 0, _, h => by cases h; rfl
  | n + 1, r, h => by
    simp only [setBlockOffsets, Option.bind_eq_bind, Option.bind_eq_some, Option.pure_def,
      Option.some.injEq] at h
    obtain ⟨acc, hacc, -, -, -, -, -, -, -, -, rfl⟩ := h
    simpa using length_setBlockOffsets hacc

/-- A defined block loop found every block's buffers and a node for each block. -/
theorem setBlockOffsets_of_eq_some {blockBuffersArray : List ColumnBlockBuffers}
    {nodes : List ColumnBlockSkipNode} :
    ∀ {blockCount : Nat} {r : List ColumnBlockSkipNode × Nat × Nat},
      setBlockOffsets blockBuffersArray blockCount nodes = some r →
      blockCount ≤ nodes.length ∧ ∀ b < blockCount, ∃ blockBuffers,
        blockBuffersArray[b]? = some blockBuffers ∧ blockBuffers.existsBuffer.isSome ∧
          blockBuffers.valueBuffer.isSome
  | 0, _, _ => ⟨Nat.zero_le _, fun _ h => absurd h (Nat.not_lt_zero _)⟩
  | n + 1, r, h => by
    simp only [setBlockOffsets, Option.bind_eq_bind, Option.bind_eq_some, Option.pure_def,
      Option.some.injEq] at h
    obtain ⟨acc, hacc, blockBuffers, hbb, e, he, v, hv, node, hnode, -⟩ := h
    obtain ⟨hlen, hblocks⟩ := setBlockOffsets_of_eq_some hacc
    have hn : n < nodes.length :=
      length_setBlockOffsets hacc ▸ (List.getElem?_eq_some_iff.mp hnode).1
    refine ⟨hn, fun b hb => ?_⟩
    rcases Nat.lt_succ_iff_lt_or_eq.mp hb with hb | rfl
    · exact hblocks b hb
    · exact ⟨blockBuffers, hbb, by simp [he], by simp [hv]⟩

/-- A defined `FlushStripe` found the buffers it needs: every block of every column was
frozen. -/
theorem buffersSet_of_flushStripeBuffers {st : TableWriteState} {stripeBuffers : StripeBuffers}
    {stripeSkipList : StripeSkipList} {r : TableWriteState × StripeMetadata}
    (h : flushStripeBuffers g k st = some r) (hbuffers : st.stripeBuffers = some stripeBuffers)
    (hskip : st.stripeSkipList = some stripeSkipList) :
    BuffersSet st.tupleDescriptor.length stripeBuffers stripeSkipList := by
  simp only [flushStripeBuffers, hbuffers, hskip, Option.bind_eq_bind, Option.some_bind,
    Option.bind_eq_some] at h
  obtain ⟨blockSkipNodeArray, hpass, skipListBufferArray, hskipLists, stripeFooter, hfooter,
    dataBuffers, -, skipListLength, hskipLength, -⟩ := h
  have hcolumns : ∀ c < stripeSkipList.columnCount, c < st.tupleDescriptor.length := by
    intro c hc
    by_contra hge
    rw [createSkipListBufferArray, mapM_range_eq_none (i := c) ?_ hc] at hskipLists
    · cases hskipLists
    · simp only [List.getElem?_eq_none (Nat.le_of_not_lt hge), Option.bind_eq_bind,
        Option.none_bind, Option.bind_none]
  have hsizes : st.tupleDescriptor.length ≤ stripeSkipList.columnCount := by
    simp only [createStripeFooter, Option.bind_eq_bind, Option.bind_eq_some, Option.pure_def,
      Option.some.injEq] at hfooter
    obtain ⟨sizes, hsizes, rfl⟩ := hfooter
    have hlen := (mapM_range_of_eq_some hsizes).1
    by_contra hlt
    rw [sumSizes, mapM_range_eq_none (i := stripeSkipList.columnCount) (by simp [hlen])
      (by omega)] at hskipLength
    cases hskipLength
  have hcolumn : ∀ c < st.tupleDescriptor.length, ∃ nodes columnBuffers offsets,
      stripeSkipList.blockSkipNodeArray[c]? = some nodes ∧
      stripeBuffers.columnBuffersArray[c]? = some columnBuffers ∧
      setBlockOffsets columnBuffers.blockBuffersArray stripeSkipList.blockCount nodes =
        some offsets := by
    intro c hc
    obtain ⟨nodes, _, hnodes, hset⟩ := updateColumns_of_eq_some hpass c hc
    simp only [setColumnOffsets, Option.bind_eq_bind, Option.bind_eq_some, Option.pure_def,
      Option.some.injEq] at hset
    obtain ⟨columnBuffers, hcolumn, offsets, hoffsets, -⟩ := hset
    exact ⟨nodes, columnBuffers, offsets, hnodes, hcolumn, hoffsets⟩
  refine ⟨le_antisymm (Nat.le_of_not_lt fun hlt => absurd (hcolumns _ hlt) (Nat.lt_irrefl _))
    hsizes, fun c hc => ?_, fun c hc => ?_, fun c hc b hb => ?_⟩
  · obtain ⟨_, _, _, -, hcb, -⟩ := hcolumn c hc
    rw [hcb]
    rfl
  · obtain ⟨nodes, _, _, hnodes, -, hoffsets⟩ := hcolumn c hc
    exact ⟨nodes, hnodes, (setBlockOffsets_of_eq_some hoffsets).1⟩
  · obtain ⟨_, columnBuffers, _, -, hcb, hoffsets⟩ := hcolumn c hc
    obtain ⟨blockBuffers, hbb, he, hv⟩ := (setBlockOffsets_of_eq_some hoffsets).2 b hb
    exact ⟨blockBuffers, by rw [blockBuffersAt, hcb]; exact hbb, he, hv⟩

/-- `FlushStripe`'s first step changes only the stripe's column buffers and the block data,
whose exists arrays it leaves as they are. -/
theorem serializeLastBlock_shape {st st₁ : TableWriteState}
    (h : serializeLastBlock k st = some st₁) :
    ∃ stripeBuffers columnBuffersArray blockDataArray, st.stripeBuffers = some stripeBuffers ∧
      st₁ = { st with
        stripeBuffers := some { stripeBuffers with columnBuffersArray }
        blockDataArray } ∧
      ∀ {P : List Bool → Prop}, (∀ blockData ∈ st.blockDataArray, P blockData.existsArray) →
        ∀ blockData ∈ blockDataArray, P blockData.existsArray := by
  cases hbuffers : st.stripeBuffers with
  | none => simp [serializeLastBlock, hbuffers] at h
  | some stripeBuffers =>
    simp only [serializeLastBlock, hbuffers, Option.bind_eq_bind, Option.some_bind] at h
    split_ifs at h
    · obtain ⟨stripeBuffers', columnBuffersArray, blockDataArray, hbuffers', rfl, hP⟩ :=
        serializeBlockData_shape h
      obtain rfl : stripeBuffers = stripeBuffers' := Option.some.inj (hbuffers.symm.trans hbuffers')
      exact ⟨stripeBuffers, columnBuffersArray, blockDataArray, rfl, rfl, hP⟩
    · cases h
      refine ⟨stripeBuffers, stripeBuffers.columnBuffersArray, st.blockDataArray, rfl, ?_, id⟩
      cases st
      cases hbuffers
      rfl

/-- What a defined `FlushStripe` does to the write state: it writes the stripe's buffers to the
data fork from `activeBlockNumber`, records them in `flushedStripes`, moves
`currentFileOffset` past them, and changes nothing else but the stripe's buffers and skip
list and the block data, whose exists arrays it leaves as they are. Its metadata starts the
stripe at the old offset and counts its bytes. -/
theorem flushStripe_effect {st st' : TableWriteState} {stripeMetadata : StripeMetadata}
    (h : flushStripe g k st = some (st', stripeMetadata)) :
    ∃ (buffers : List (List UInt8)) (stripeBuffers : StripeBuffers)
      (stripeSkipList : StripeSkipList) (blockDataArray : List ColumnBlockData),
      stripeMetadata.fileOffset = st.currentFileOffset ∧
      stripeMetadata.size = buffers.flatten.length ∧
      st' = { st with
        stripeBuffers := some stripeBuffers
        stripeSkipList := some stripeSkipList
        blockDataArray
        relation := { st.relation with
          dataFork := (writeBuffers g st.relation.dataFork st.activeBlockNumber buffers).1 }
        activeBlockNumber := (writeBuffers g st.relation.dataFork st.activeBlockNumber buffers).2
        currentFileOffset := st.currentFileOffset + buffers.flatten.length
        flushedStripes := st.flushedStripes ++ [buffers.flatten] } ∧
      ∀ {P : List Bool → Prop}, (∀ blockData ∈ st.blockDataArray, P blockData.existsArray) →
        ∀ blockData ∈ blockDataArray, P blockData.existsArray := by
  obtain ⟨st₁, hlast, hflush⟩ := Option.bind_eq_some.mp h
  obtain ⟨stripeBuffers, columnBuffersArray, blockDataArray, -, rfl, hP⟩ :=
    serializeLastBlock_shape hlast
  cases hskip : st.stripeSkipList with
  | none => simp only [flushStripeBuffers, hskip, Option.bind_eq_bind, Option.none_bind,
      Option.some_bind, reduceCtorEq] at hflush
  | some stripeSkipList =>
    have hset := buffersSet_of_flushStripeBuffers hflush rfl hskip
    obtain ⟨blockSkipNodeArray, skipListBufferArray, stripeFooter, hspec, -⟩ :=
      @flushStripeBuffers_spec g k { st with
        stripeBuffers := some { stripeBuffers with columnBuffersArray }
        blockDataArray } _ _ rfl hskip hset
    rw [hspec, Option.some.injEq, Prod.mk.injEq] at hflush
    obtain ⟨rfl, rfl⟩ := hflush
    refine ⟨_, _, _, blockDataArray, rfl, ?_, rfl, hP⟩
    rw [length_flatten_stripeLayout]
    rfl

/-- **A flushed stripe is laid out as its metadata says.** Once the last block is frozen and every
block of every column has its buffers, `FlushStripe` writes the skip lists of the columns, then
column by column the exists buffers of its blocks and then their value buffers, then the
stripe footer. Every skip node records the lengths of its block's buffers and the lengths of
the buffers before them in the column; the stripe footer holds the skip lists' lengths and
each column's exists and value lengths; the metadata starts the stripe at the old file offset
and sums the footer's sizes; the file offset moves past the bytes written; and each block's
buffers sit in the written bytes at the offsets its node and the footer give. -/
theorem flushStripe_layout {st st₁ : TableWriteState} {stripeBuffers : StripeBuffers}
    {stripeSkipList : StripeSkipList} (hlast : serializeLastBlock k st = some st₁)
    (hbuffers : st₁.stripeBuffers = some stripeBuffers)
    (hskip : st₁.stripeSkipList = some stripeSkipList)
    (hset : BuffersSet st₁.tupleDescriptor.length stripeBuffers stripeSkipList) :
    ∃ st' stripeMetadata blockSkipNodeArray skipListBufferArray stripeFooter,
      let buffers := stripeLayout skipListBufferArray stripeBuffers st₁.tupleDescriptor.length
        stripeSkipList.blockCount (k.serializeStripeFooter stripeFooter)
      flushStripe g k st = some (st', stripeMetadata) ∧
      (st'.relation.dataFork, st'.activeBlockNumber) =
        writeBuffers g st₁.relation.dataFork st₁.activeBlockNumber buffers ∧
      st'.flushedStripes = st₁.flushedStripes ++ [buffers.flatten] ∧
      st'.stripeSkipList = some { stripeSkipList with blockSkipNodeArray } ∧
      skipListBufferArray.length = st₁.tupleDescriptor.length ∧
      (∀ c < st₁.tupleDescriptor.length, ∃ att nodes, st₁.tupleDescriptor[c]? = some att ∧
        blockSkipNodeArray[c]? = some nodes ∧
        skipListBufferArray[c]? = some (k.serializeColumnSkipList nodes stripeSkipList.blockCount
          att.attbyval att.attlen)) ∧
      stripeFooter = ⟨st₁.tupleDescriptor.length, skipListBufferArray.map List.length,
        (List.range st₁.tupleDescriptor.length).map fun c =>
          prefixLength (existsBufferAt stripeBuffers c) stripeSkipList.blockCount,
        (List.range st₁.tupleDescriptor.length).map fun c =>
          prefixLength (valueBufferAt stripeBuffers c) stripeSkipList.blockCount⟩ ∧
      stripeMetadata = ⟨st₁.currentFileOffset, (skipListBufferArray.map List.length).sum,
        columnDataOffset stripeBuffers stripeSkipList.blockCount st₁.tupleDescriptor.length,
        (k.serializeStripeFooter stripeFooter).length⟩ ∧
      st'.currentFileOffset = st₁.currentFileOffset + buffers.flatten.length ∧
      ∀ c < st₁.tupleDescriptor.length, ∀ b < stripeSkipList.blockCount, ∃ node,
        blockSkipNodeArray[c]?.bind (·[b]?) = some node ∧ RecordsBlock stripeBuffers c b node ∧
        OccursAt buffers.flatten
          (stripeMetadata.skipListLength +
            columnDataOffset stripeBuffers stripeSkipList.blockCount c + node.existsBlockOffset)
          (existsBufferAt stripeBuffers c b) ∧
        OccursAt buffers.flatten
          (stripeMetadata.skipListLength +
            columnDataOffset stripeBuffers stripeSkipList.blockCount c +
              prefixLength (existsBufferAt stripeBuffers c) stripeSkipList.blockCount +
                node.valueBlockOffset)
          (valueBufferAt stripeBuffers c b) := by
  obtain ⟨blockSkipNodeArray, skipListBufferArray, stripeFooter, hflush, hlen, hget, hfooter,
    hrec⟩ := flushStripeBuffers_spec (g := g) hbuffers hskip hset
  refine ⟨_, _, blockSkipNodeArray, skipListBufferArray, stripeFooter,
    by rw [flushStripe, hlast]; exact hflush, rfl, rfl, rfl, hlen, hget, hfooter, rfl, rfl,
    fun c hc b hb => ?_⟩
  obtain ⟨nodes, hnodes, -, hblocks⟩ := hrec c hc
  obtain ⟨node, hnode, hrecords⟩ := hblocks b hb
  have hskipLength : (skipListBufferArray.map List.length).sum =
      skipListBufferArray.flatten.length := (List.length_flatten _).symm
  refine ⟨node, by rw [hnodes, Option.some_bind, hnode], hrecords, ?_, ?_⟩
  · rw [hskipLength, hrecords.existsBlockOffset]
    exact stripeLayout_existsBuffer _ _ _ hc hb
  · rw [hskipLength, hrecords.valueBlockOffset]
    exact stripeLayout_valueBuffer _ _ _ hc hb

/-- The buffers of an open stripe of two `int4` columns and two frozen blocks of one row each:
5 and 6 in column 0, 7 and 8 in column 1. -/
def twoBlockStripeBuffers : StripeBuffers :=
  ⟨[⟨[⟨some [1], some [5, 0, 0, 0], .compressionNone⟩,
      ⟨some [1], some [6, 0, 0, 0], .compressionNone⟩]⟩,
    ⟨[⟨some [1], some [7, 0, 0, 0], .compressionNone⟩,
      ⟨some [1], some [8, 0, 0, 0], .compressionNone⟩]⟩], 2, 2⟩

/-- The skip list of that stripe: a node counting one row for each block. -/
def twoBlockSkipList : StripeSkipList :=
  ⟨[[{ ColumnBlockSkipNode.empty with rowCount := 1 },
      { ColumnBlockSkipNode.empty with rowCount := 1 }],
    [{ ColumnBlockSkipNode.empty with rowCount := 1 },
      { ColumnBlockSkipNode.empty with rowCount := 1 }]], 2, 2⟩

/-- A write state whose open stripe is that one, one row to a block. -/
def twoBlockState : TableWriteState where
  tableFooter := ⟨[], 1⟩
  compressionType := .compressionNone
  stripeMaxRowCount := 2
  tupleDescriptor := [int4Attribute, int4Attribute]
  currentFileOffset := 0
  comparisonFunctionArray := [some int4Comparator, some int4Comparator]
  stripeBuffers := some twoBlockStripeBuffers
  stripeSkipList := some twoBlockSkipList
  blockDataArray := [⟨[true], []⟩, ⟨[true], []⟩]
  activeBlockNumber := 0
  relation := ⟨[], []⟩
  flushedStripes := []

/-- Block 1 of column 1 of that stripe: its node records the one-byte exists buffer and the
four-byte value buffer of block 0 before it, and its buffers sit after the skip lists, after
the 10 bytes of column 0, and after those of block 0. -/
theorem flushStripe_layout_twoBlocks :
    serializeLastBlock exampleCodecs twoBlockState = some twoBlockState ∧
      BuffersSet 2 twoBlockStripeBuffers twoBlockSkipList ∧
      ∃ st' stripeMetadata node, flushStripe defaultGeometry exampleCodecs twoBlockState =
          some (st', stripeMetadata) ∧ stripeMetadata.dataLength = 20 ∧
        (st'.stripeSkipList.bind fun s => s.blockSkipNodeArray[1]?.bind (·[1]?)) = some node ∧
        node.existsBlockOffset = 1 ∧ node.valueBlockOffset = 4 ∧
        OccursAt st'.flushedStripes.flatten (stripeMetadata.skipListLength + 10 + 1) [1] ∧
        OccursAt st'.flushedStripes.flatten (stripeMetadata.skipListLength + 10 + 2 + 4)
          [8, 0, 0, 0] := by
  have hset : BuffersSet 2 twoBlockStripeBuffers twoBlockSkipList := by
    refine ⟨rfl, fun c hc => ?_, fun c hc => ?_, fun c hc b hb => ?_⟩
    · interval_cases c <;> rfl
    · interval_cases c <;> exact ⟨_, rfl, le_refl 2⟩
    · change b < 2 at hb
      interval_cases c <;> interval_cases b <;> exact ⟨_, rfl, rfl, rfl⟩
  obtain ⟨st', stripeMetadata, _, _, _, hflush, -, hflushed, hskip, -, -, -, hmetadata, -,
    hblocks⟩ := flushStripe_layout (g := defaultGeometry)
      (show serializeLastBlock exampleCodecs twoBlockState = some twoBlockState from rfl) rfl rfl
      hset
  obtain ⟨node, hnode, hrecords, hexists, hvalue⟩ := hblocks 1 (by decide) 1 (by decide)
  rw [hrecords.existsBlockOffset] at hexists
  rw [hrecords.valueBlockOffset] at hvalue
  refine ⟨rfl, hset, st', stripeMetadata, node, hflush, by rw [hmetadata]; rfl,
    by rw [hskip, Option.some_bind]; exact hnode, hrecords.existsBlockOffset,
    hrecords.valueBlockOffset, ?_, ?_⟩ <;>
    simp only [hflushed, twoBlockState, List.nil_append, List.flatten_cons, List.flatten_nil,
      List.append_nil]
  exacts [hexists, hvalue]

end CStoreWriter
