import CStoreWriter.OpenStripe
import CStoreWriter.Session

/-!
# Reading a stripe back

A reader finds a stripe through its metadata and reads the stripe footer at the stripe's end,
each column's skip list after the skip lists of the columns before it, and each block's exists
and value buffers at the offsets its skip node records within the column's exists and value
regions, whose starts it sums from the footer's sizes. It unpacks the block's exists flags,
decompresses the value buffer when the node says it was compressed, walks its values, and
spreads them over the rows whose flag is set.

The reader is outside `src/`; this module states it from the layout the writer produces, and
proves that it gets back every row written:

    theorem flushStripe_readBack ... (h : StripeHolds k st stripeBuffers stripeSkipList rows)
        (hflush : flushStripe g k st = some (st', stripeMetadata)) :
        ∃ stripe, st'.flushedStripes = st.flushedStripes ++ [stripe] ∧
          StripeReadsBack k decompress st.tupleDescriptor st.comparisonFunctionArray
            st.tableFooter.blockRowCount stripe stripeMetadata rows

The proof goes block by block. `SerializeLastBlock` freezes the block in progress, so that
every block is frozen into `blockBuffersOf` its rows (`stripeFrozen_serializeLastBlock`); a
frozen block reads back as its rows (`readBlock_blockBuffersOf`); the offset pass gives every
node the offsets of its block's buffers and keeps its statistics (`setColumnOffsets_nodes`);
and the layout of `FlushStripe` puts each buffer where the node and the footer say.

## Main definitions

* `fillNulls`, `readBlock`, `readColumn` — the reader
* `StripeFrozen` — every block of the stripe is frozen
* `StripeReadsBack` — a stripe's bytes read back as given rows

## Main results

* `readBlock_blockBuffersOf` — a frozen block reads back as its rows
* `flushStripe_readBack` — a flushed stripe reads back as the rows its open stripe held
-/

namespace CStoreWriter

/-! ### The reader -/

/-- The column's value in each row of a block, from the rows' exists flags and the block's
non-null values in order: a set flag takes the next value, a clear one is a null. Undefined
when the values run out or some are left over. -/
def fillNulls : List Bool → List Datum → Option (List (Option Datum))
  | [], [] => some []
  | [], _ :: _ => none
  | false :: flags, values => (fillNulls flags values).map (none :: ·)
  | true :: _, [] => none
  | true :: flags, v :: values => (fillNulls flags values).map (some v :: ·)

/-- The bytes `[offset, offset + length)` of a stream. -/
def sliceAt (bytes : List UInt8) (offset length : Nat) : List UInt8 :=
  (bytes.drop offset).take length

/-- The value buffer a reader gets from a stored one: decompressed when the node says it was
compressed. -/
def decompressValueBuffer (decompress : List UInt8 → List UInt8)
    (compressionType : CompressionType) (storedBuffer : List UInt8) : List UInt8 :=
  match compressionType with
  | .compressionNone => storedBuffer
  | .compressionPgLz => decompress storedBuffer

/-- A block's rows as a reader gets them from its exists and value buffers and its skip node:
the exists flags of the node's rows, the values walked from the decompressed value buffer, and
the values spread over the set flags. -/
def readBlock (decompress : List UInt8 → List UInt8) (varsizeAny : List UInt8 → Nat)
    (att : Attribute) (node : ColumnBlockSkipNode) (existsBuffer storedBuffer : List UInt8) :
    Option (List (Option Datum)) := do
  let valueBuffer := decompressValueBuffer decompress node.valueCompressionType storedBuffer
  let values ← walkDatums varsizeAny att valueBuffer (valueBuffer.length + 1) 0
  fillNulls (unpackBoolArray existsBuffer node.rowCount) values

/-- Where column `c`'s exists region starts in a stripe with footer `stripeFooter`: after the
skip lists of all columns and the exists and value regions of the columns before it. -/
def existsRegionOffset (stripeFooter : StripeFooter) (c : Nat) : Nat :=
  stripeFooter.skipListSizeArray.sum + ((List.range c).map fun c' =>
    stripeFooter.existsSizeArray.getD c' 0 + stripeFooter.valueSizeArray.getD c' 0).sum

/-- Where column `c`'s value region starts: right after its exists region. -/
def valueRegionOffset (stripeFooter : StripeFooter) (c : Nat) : Nat :=
  existsRegionOffset stripeFooter c + stripeFooter.existsSizeArray.getD c 0

/-- Column `c` of a stripe as a reader gets it from the stripe's bytes, its footer and the skip
nodes of the column's blocks: every block read from the buffers its node locates, the blocks
in order. -/
def readColumn (decompress : List UInt8 → List UInt8) (varsizeAny : List UInt8 → Nat)
    (att : Attribute) (stripe : List UInt8) (stripeFooter : StripeFooter) (c : Nat)
    (nodes : List ColumnBlockSkipNode) : Option (List (Option Datum)) :=
  (nodes.mapM fun node => readBlock decompress varsizeAny att node
    (sliceAt stripe (existsRegionOffset stripeFooter c + node.existsBlockOffset)
      node.existsLength)
    (sliceAt stripe (valueRegionOffset stripeFooter c + node.valueBlockOffset)
      node.valueLength)).map List.flatten

/-- **A stripe's bytes read back as `rows`.** The stripe has the length its metadata gives and
ends with a stripe footer where the metadata puts it. Every column's skip list sits where the
footer's sizes put it and has a node for each block the rows take: the node counts the
block's rows and bounds their values as `MinMaxInv` says, and reading the column with the
nodes gives the column's values in `rows`, in order. -/
def StripeReadsBack (k : Codecs) (decompress : List UInt8 → List UInt8)
    (tupleDescriptor : List Attribute) (comparisonFunctionArray : List (Option Comparator))
    (blockRowCount : Nat) (stripe : List UInt8) (stripeMetadata : StripeMetadata)
    (rows : List (List (Option Datum))) : Prop :=
  ∃ stripeFooter : StripeFooter, stripe.length = stripeMetadata.size ∧
    stripeMetadata.footerLength = (k.serializeStripeFooter stripeFooter).length ∧
    OccursAt stripe (stripeMetadata.skipListLength + stripeMetadata.dataLength)
      (k.serializeStripeFooter stripeFooter) ∧
    ∀ c < tupleDescriptor.length, ∃ att comparisonFunction nodes,
      tupleDescriptor[c]? = some att ∧ comparisonFunctionArray[c]? = some comparisonFunction ∧
      stripeFooter.skipListSizeArray.getD c 0 = (k.serializeColumnSkipList nodes
        (stripeBlockCount blockRowCount rows.length) att.attbyval att.attlen).length ∧
      OccursAt stripe (stripeFooter.skipListSizeArray.take c).sum (k.serializeColumnSkipList nodes
        (stripeBlockCount blockRowCount rows.length) att.attbyval att.attlen) ∧
      (∀ b < stripeBlockCount blockRowCount rows.length, ∃ node, nodes[b]? = some node ∧
        node.rowCount = (blockRows blockRowCount b (columnValues c rows)).length ∧
        MinMaxInv comparisonFunction att.attcollation
          (blockRows blockRowCount b (columnValues c rows)).reduceOption node) ∧
      readColumn decompress k.varsizeAny att stripe stripeFooter c
        (nodes.take (stripeBlockCount blockRowCount rows.length)) = some (columnValues c rows)

/-- Every non-null value of every row is a value of its column's type. -/
def RowsTyped (varsizeAny : List UInt8 → Nat) (tupleDescriptor : List Attribute)
    (rows : List (List (Option Datum))) : Prop :=
  ∀ row ∈ rows, ∀ (c : Nat) (att : Attribute) (v : Datum), tupleDescriptor[c]? = some att →
    row.getD c none = some v → IsValueOf varsizeAny att v

/-- Every column's comparison procedure, when it has one, orders datums as a B-tree procedure
does. -/
def ComparisonsOrder (tupleDescriptor : List Attribute)
    (comparisonFunctionArray : List (Option Comparator)) : Prop :=
  ∀ (c : Nat) (att : Attribute) (comparisonFunction : Option Comparator),
    tupleDescriptor[c]? = some att → comparisonFunctionArray[c]? = some comparisonFunction →
    ∀ cmp ∈ comparisonFunction, TotalPreorder (cmp att.attcollation)

theorem RowsTyped.mem_columnValues {varsizeAny : List UInt8 → Nat}
    {tupleDescriptor : List Attribute} {rows : List (List (Option Datum))}
    (h : RowsTyped varsizeAny tupleDescriptor rows) {c : Nat}
    {att : Attribute} (hatt : tupleDescriptor[c]? = some att) :
    ∀ v ∈ (columnValues c rows).reduceOption, IsValueOf varsizeAny att v := by
  intro v hv
  obtain ⟨row, hrow, hv⟩ := List.mem_map.mp (List.reduceOption_mem_iff.mp hv)
  exact h row hrow c att v hatt hv

/-! ### Reading a block -/

theorem fillNulls_map_isSome :
    ∀ values : List (Option Datum),
      fillNulls (values.map Option.isSome) values.reduceOption = some values
  | [] => rfl
  | none :: values => by
    rw [List.map_cons, List.reduceOption_cons_of_none, Option.isSome_none, fillNulls,
      fillNulls_map_isSome values]
    rfl
  | some v :: values => by
    rw [List.map_cons, List.reduceOption_cons_of_some, Option.isSome_some, fillNulls,
      fillNulls_map_isSome values]
    rfl

section Walk

variable {varsizeAny : List UInt8 → Nat} {att : Attribute}

theorem length_le_length_serializeDatums :
    ∀ {values : List Datum}, (∀ v ∈ values, IsValueOf varsizeAny att v) →
      values.length ≤ (serializeDatums varsizeAny att values).length
  | [], _ => Nat.zero_le _
  | v :: values, hvalues => by
    have hpos := attAddlengthDatum_pos (hvalues v (List.mem_cons_self v values))
    have hle := le_typeAlign (alignmentOf_pos att.attalign)
      (attAddlengthDatum varsizeAny att.attlen v)
    have ih := length_le_length_serializeDatums fun w hw =>
      hvalues w (List.mem_cons_of_mem v hw)
    rw [serializeDatums_eq_flatMap] at ih ⊢
    simp only [List.flatMap_cons, List.length_append, length_encodedDatum, List.length_cons]
    omega

/-- The reader's walk over a value buffer the writer built returns its values. -/
theorem walkDatums_serializeDatums {values : List Datum}
    (hvalues : ∀ v ∈ values, IsValueOf varsizeAny att v) :
    walkDatums varsizeAny att (serializeDatums varsizeAny att values)
      ((serializeDatums varsizeAny att values).length + 1) 0 = some values := by
  have hfuel := length_le_length_serializeDatums hvalues
  rw [serializeDatums_eq_flatMap] at hfuel ⊢
  simpa using walkDatums_flatMap att values hvalues [] _ (Nat.dvd_zero _)
    (Nat.lt_succ_of_le hfuel)

end Walk

section Block

variable {k : Codecs} {decompress : List UInt8 → List UInt8}
  (hdecompress : ∀ buffer compressionType compressed,
    k.compressBuffer buffer compressionType = some compressed → decompress compressed = buffer)
include hdecompress

theorem decompressValueBuffer_compressValueBuffer (buffer : List UInt8)
    (compressionType : CompressionType) :
    decompressValueBuffer decompress (compressValueBuffer k buffer compressionType).2
      (compressValueBuffer k buffer compressionType).1 = buffer := by
  unfold compressValueBuffer
  split
  · exact hdecompress _ _ _ ‹_›
  · rfl

/-- **A frozen block reads back as its rows.** For values of the column's type, in a block
whose flag count fits a `uint32` once rounded up, the buffers `blockBuffersOf` freezes read
back, with a node that counts the block's rows and records the buffers' compression type, as
the column's values in the block's rows. -/
theorem readBlock_blockBuffersOf {att : Attribute} {compressionType : CompressionType}
    {values : List (Option Datum)} {blockBuffers : ColumnBlockBuffers}
    (hbuffers : blockBuffersOf k att compressionType values = some blockBuffers)
    (hvalues : ∀ v ∈ values.reduceOption, IsValueOf k.varsizeAny att v)
    (hsize : values.length + 7 < 2 ^ 32) {node : ColumnBlockSkipNode}
    (hrowCount : node.rowCount = values.length)
    (hcompression : node.valueCompressionType = blockBuffers.valueCompressionType) :
    readBlock decompress k.varsizeAny att node (blockBuffers.existsBuffer.getD [])
      (blockBuffers.valueBuffer.getD []) = some values := by
  obtain ⟨existsBuffer, hexists, rfl⟩ := Option.map_eq_some'.mp hbuffers
  obtain ⟨buffer, hbuffer, -, hunpack⟩ :=
    @serializeBoolArray_readsBack (values.map Option.isSome) _ (by simp) hsize
  obtain rfl := Option.some.inj (hexists.symm.trans hbuffer)
  simp only [readBlock, hrowCount, hcompression, Option.getD_some,
    decompressValueBuffer_compressValueBuffer hdecompress, walkDatums_serializeDatums hvalues,
    Option.bind_eq_bind, Option.some_bind, hunpack, List.take_of_length_le (List.length_map _ _).le,
    fillNulls_map_isSome]

end Block

/-! ### Freezing the last block -/

/-- Every block of the open stripe is frozen, when its rows are `rows`: every column has a skip
node for each block, the one its block's rows give, and every block the rows take is frozen
into `blockBuffersOf` its rows. What `FlushStripe` lays out once the last block is frozen. -/
structure StripeFrozen (k : Codecs) (st : TableWriteState) (stripeBuffers : StripeBuffers)
    (stripeSkipList : StripeSkipList) (rows : List (List (Option Datum))) : Prop where
  blockRowCount_pos : 0 < st.tableFooter.blockRowCount
  skipListColumns : stripeSkipList.columnCount = st.tupleDescriptor.length
  blockCount :
    stripeSkipList.blockCount = stripeBlockCount st.tableFooter.blockRowCount rows.length
  columns : ∀ c < st.tupleDescriptor.length, ∃ att comparisonFunction nodes columnBuffers,
    st.tupleDescriptor[c]? = some att ∧
    st.comparisonFunctionArray[c]? = some comparisonFunction ∧
    stripeSkipList.blockSkipNodeArray[c]? = some nodes ∧
    stripeBuffers.columnBuffersArray[c]? = some columnBuffers ∧
    stripeSkipList.blockCount ≤ nodes.length ∧
    (∀ b node, nodes[b]? = some node → node = blockSkipNodeOf k.varsizeAny att
      comparisonFunction (blockRows st.tableFooter.blockRowCount b (columnValues c rows))) ∧
    ∀ b < stripeSkipList.blockCount, ∃ blockBuffers,
      columnBuffers.blockBuffersArray[b]? = some blockBuffers ∧
      blockBuffersOf k att st.compressionType
        (blockRows st.tableFooter.blockRowCount b (columnValues c rows)) = some blockBuffers

section Column

variable {k : Codecs} {blockRowCount : Nat} {compressionType : CompressionType}
  {att : Attribute} {comparisonFunction : Option Comparator} {nodes : List ColumnBlockSkipNode}
  {columnBuffers : ColumnBuffers} {blockData : ColumnBlockData} {values : List (Option Datum)}

/-- With no block in progress, every block is already frozen. -/
theorem ColumnHolds.frozen_of_mod_eq_zero
    (h : ColumnHolds k blockRowCount compressionType att comparisonFunction nodes columnBuffers
      blockData values) (hpos : 0 < blockRowCount) (hmod : values.length % blockRowCount = 0) :
    ∀ b < stripeBlockCount blockRowCount values.length, ∃ blockBuffers,
      columnBuffers.blockBuffersArray[b]? = some blockBuffers ∧
      blockBuffersOf k att compressionType (blockRows blockRowCount b values) = some blockBuffers :=
  fun b hb => h.frozen b <| by
    rcases (lt_stripeBlockCount hpos).mp hb with hb | ⟨-, hpartial⟩
    · exact hb
    · omega

/-- Freezing the block in progress, as `FlushStripe` does, freezes every block. -/
theorem ColumnHolds.frozen_last
    (h : ColumnHolds k blockRowCount compressionType att comparisonFunction nodes columnBuffers
      blockData values) (hpos : 0 < blockRowCount) {existsBuffer : List UInt8}
    (hserialize : serializeBoolArray blockData.existsArray (values.length % blockRowCount) =
      some existsBuffer)
    (hblock : values.length / blockRowCount < columnBuffers.blockBuffersArray.length) :
    ∀ b < stripeBlockCount blockRowCount values.length, ∃ blockBuffers,
      (columnBuffers.blockBuffersArray.set (values.length / blockRowCount)
        ⟨some existsBuffer, some (compressValueBuffer k blockData.valueBuffer compressionType).1,
          (compressValueBuffer k blockData.valueBuffer compressionType).2⟩)[b]? =
        some blockBuffers ∧
      blockBuffersOf k att compressionType (blockRows blockRowCount b values) =
        some blockBuffers := by
  intro b hb
  rcases (lt_stripeBlockCount hpos).mp hb with hb | ⟨rfl, -⟩
  · rw [List.getElem?_set_ne (Nat.ne_of_gt hb)]
    exact h.frozen b hb
  · refine ⟨_, List.getElem?_set_self hblock, blockBuffersOf_eq ?_ h.valueBuffer ?_⟩
    · rw [length_blockRows_current hpos]
      exact h.existsArray
    · rw [length_blockRows_current hpos]
      exact hserialize

end Column

section Flush

variable {k : Codecs} {st : TableWriteState} {stripeBuffers : StripeBuffers}
  {stripeSkipList : StripeSkipList} {rows : List (List (Option Datum))}

/-- **`FlushStripe`'s first step freezes every block.** When the open stripe holds `rows`, the
block in progress, if it has rows, is frozen into `blockBuffersOf` its rows, and then every
block of the stripe is. -/
theorem stripeFrozen_serializeLastBlock {st₁ : TableWriteState}
    (h : StripeHolds k st stripeBuffers stripeSkipList rows)
    (hbuffers : st.stripeBuffers = some stripeBuffers)
    (hlast : serializeLastBlock k st = some st₁) :
    ∃ stripeBuffers₁ blockDataArray,
      st₁ = { st with stripeBuffers := some stripeBuffers₁, blockDataArray } ∧
      StripeFrozen k st₁ stripeBuffers₁ stripeSkipList rows := by
  have hpos := h.blockRowCount_pos
  simp only [serializeLastBlock, hbuffers, Option.bind_eq_bind, Option.some_bind, h.rowCount,
    if_neg (Nat.pos_iff_ne_zero.mp hpos)] at hlast
  split_ifs at hlast with hpartial
  · -- the block in progress is frozen with the rows it has
    obtain ⟨stripeBuffers', columnBuffersArray, blockDataArray, hbuffers', rfl, -, hfrozen⟩ :=
      serializeBlockData_spec hlast
    obtain rfl := Option.some.inj (hbuffers.symm.trans hbuffers')
    refine ⟨_, blockDataArray, rfl, hpos, h.skipListColumns, h.blockCount, fun c hc => ?_⟩
    obtain ⟨att, comparisonFunction, nodes, columnBuffers, blockData, hatt, hcmp, hnodes, hcolumn,
      hdata, hholds⟩ := h.columns c hc
    obtain ⟨columnBuffers', blockData', existsBuffer, hcolumn', hdata', hlt, hserialize,
      hcolumn₁, -⟩ := hfrozen c (h.columnCount ▸ hc)
    obtain rfl := Option.some.inj (hcolumn.symm.trans hcolumn')
    obtain rfl := Option.some.inj (hdata.symm.trans hdata')
    have hlen : (columnValues c rows).length = rows.length := List.length_map _ _
    rw [← hlen] at hserialize hlt
    refine ⟨att, comparisonFunction, nodes, _, hatt, hcmp, hnodes, hcolumn₁, ?_, hholds.nodes,
      ?_⟩
    · rw [h.blockCount, ← hlen]
      exact hholds.nodes_length
    · rw [h.blockCount, ← hlen]
      exact hholds.frozen_last hpos hserialize hlt
  · -- every block is full, and already frozen
    cases hlast
    refine ⟨stripeBuffers, st.blockDataArray, ?_, hpos, h.skipListColumns, h.blockCount,
      fun c hc => ?_⟩
    · cases st
      cases hbuffers
      rfl
    obtain ⟨att, comparisonFunction, nodes, columnBuffers, blockData, hatt, hcmp, hnodes, hcolumn,
      -, hholds⟩ := h.columns c hc
    have hlen : (columnValues c rows).length = rows.length := List.length_map _ _
    refine ⟨att, comparisonFunction, nodes, columnBuffers, hatt, hcmp, hnodes, hcolumn, ?_,
      hholds.nodes, ?_⟩
    · rw [h.blockCount, ← hlen]
      exact hholds.nodes_length
    · rw [h.blockCount, ← hlen]
      exact hholds.frozen_of_mod_eq_zero hpos (by rw [hlen]; omega)

/-- A stripe whose blocks are all frozen has what `FlushStripe` reads. -/
theorem StripeFrozen.buffersSet (h : StripeFrozen k st stripeBuffers stripeSkipList rows) :
    BuffersSet st.tupleDescriptor.length stripeBuffers stripeSkipList where
  skipListColumns := h.skipListColumns
  columns c hc := by
    obtain ⟨_, _, _, _, -, -, -, hcolumn, -⟩ := h.columns c hc
    rw [hcolumn]
    rfl
  nodes c hc := by
    obtain ⟨_, _, nodes, _, -, -, hnodes, -, hlen, -⟩ := h.columns c hc
    exact ⟨nodes, hnodes, hlen⟩
  buffers c hc b hb := by
    obtain ⟨_, _, _, _, -, -, -, hcolumn, -, -, hblocks⟩ := h.columns c hc
    obtain ⟨blockBuffers, hblock, hof⟩ := hblocks b hb
    exact ⟨blockBuffers, by rw [blockBuffersAt, hcolumn, Option.some_bind, hblock],
      isSome_of_blockBuffersOf hof⟩

end Flush

/-! ### The offset pass keeps the statistics -/

section Offsets

variable {g : PageGeometry} {k : Codecs} {columnCount : Nat} {stripeBuffers : StripeBuffers}
  {stripeSkipList : StripeSkipList}

/-- The offset pass gives the node of every block the offsets and lengths of the block's
buffers and their compression type, and keeps the rest of the node. -/
theorem setColumnOffsets_nodes (hset : BuffersSet columnCount stripeBuffers stripeSkipList)
    {c : Nat} (hc : c < columnCount) {nodes nodes' : List ColumnBlockSkipNode}
    (hnodes : stripeSkipList.blockSkipNodeArray[c]? = some nodes)
    (h : setColumnOffsets stripeBuffers stripeSkipList.blockCount c nodes = some nodes') :
    ∀ b < stripeSkipList.blockCount, ∃ node blockBuffers, nodes[b]? = some node ∧
      blockBuffersAt stripeBuffers c b = some blockBuffers ∧
      nodes'[b]? = some { node with
        existsBlockOffset := prefixLength (existsBufferAt stripeBuffers c) b
        existsLength := (existsBufferAt stripeBuffers c b).length
        valueBlockOffset := prefixLength (valueBufferAt stripeBuffers c) b
        valueLength := (valueBufferAt stripeBuffers c b).length
        valueCompressionType := blockBuffers.valueCompressionType } := by
  obtain ⟨nodes₀, hnodes₀, hlen⟩ := hset.nodes c hc
  obtain rfl := Option.some.inj (hnodes.symm.trans hnodes₀)
  obtain ⟨columnBuffers, hcolumn⟩ := Option.isSome_iff_exists.mp (hset.columns c hc)
  obtain ⟨nodes'', hrun, -, hrec, -⟩ := setBlockOffsets_spec hlen fun b hb =>
    hset.blockBuffers hc hb hcolumn
  have hnodes' : nodes' = nodes'' := by
    simpa [setColumnOffsets, hcolumn, hrun] using h.symm
  subst hnodes'
  intro b hb
  obtain ⟨node, blockBuffers, hnode, hblock, hnode'⟩ := hrec b hb
  exact ⟨node, blockBuffers, hnode, by rw [blockBuffersAt, hcolumn, Option.some_bind, hblock],
    hnode'⟩

/-- The skip nodes `FlushStripe` keeps are those of the offset pass. -/
theorem flushStripeBuffers_nodes {st st' : TableWriteState} {stripeMetadata : StripeMetadata}
    (h : flushStripeBuffers g k st = some (st', stripeMetadata))
    (hbuffers : st.stripeBuffers = some stripeBuffers)
    (hskip : st.stripeSkipList = some stripeSkipList) :
    ∃ blockSkipNodeArray,
      st'.stripeSkipList = some { stripeSkipList with blockSkipNodeArray } ∧
      ∀ c < st.tupleDescriptor.length, ∃ nodes nodes',
        stripeSkipList.blockSkipNodeArray[c]? = some nodes ∧
        blockSkipNodeArray[c]? = some nodes' ∧
        setColumnOffsets stripeBuffers stripeSkipList.blockCount c nodes = some nodes' := by
  obtain ⟨_, hbuffers', h⟩ := Option.bind_eq_some.mp h
  obtain rfl := Option.some.inj (hbuffers.symm.trans hbuffers')
  obtain ⟨_, hskip', h⟩ := Option.bind_eq_some.mp h
  obtain rfl := Option.some.inj (hskip.symm.trans hskip')
  obtain ⟨blockSkipNodeArray, hpass, h⟩ := Option.bind_eq_some.mp h
  simp only [Option.bind_eq_bind, Option.bind_eq_some, Option.pure_def, Option.some.injEq,
    Prod.mk.injEq] at h
  obtain ⟨_, -, _, -, _, -, _, -, _, -, _, -, rfl, -⟩ := h
  refine ⟨blockSkipNodeArray, rfl, fun c hc => ?_⟩
  obtain ⟨nodes, nodes', hnodes, hset, hnodes'⟩ := updateColumns_entry hpass hc
  exact ⟨nodes, nodes', hnodes, hnodes', hset⟩

end Offsets

/-! ### Where the reader looks -/

theorem OccursAt.append_right {α : Type} {bytes buffer : List α} {offset : Nat}
    (h : OccursAt bytes offset buffer) (rest : List α) :
    OccursAt (bytes ++ rest) offset buffer := by
  have hlen : buffer.length ≤ (bytes.drop offset).length := by
    have := congrArg List.length h
    simp only [List.length_take] at this
    omega
  unfold OccursAt at h ⊢
  rw [List.drop_append_eq_append_drop, List.take_append_of_le_length hlen, h]

/-- Reading the first `n` entries of a list one by one, when entry `i` reads as `F i`. -/
theorem mapM_take_eq_some {α β : Type} {f : α → Option β} {l : List α} {F : Nat → β} :
    ∀ {n : Nat}, n ≤ l.length → (∀ i < n, ∃ a, l[i]? = some a ∧ f a = some (F i)) →
      (l.take n).mapM f = some ((List.range n).map F)
  | 0, _, _ => rfl
  | n + 1, hn, h => by
    obtain ⟨a, ha, hfa⟩ := h n (Nat.lt_succ_self n)
    rw [List.take_succ, ha, Option.toList_some, List.mapM_append,
      mapM_take_eq_some (by omega) fun i hi => h i (by omega), List.mapM_cons, hfa, List.mapM_nil,
      List.range_succ, List.map_append]
    rfl

theorem mem_reduceOption_of_blockRows {α : Type} {blockRowCount b : Nat} {xs : List (Option α)}
    {x : α} (h : x ∈ (blockRows blockRowCount b xs).reduceOption) : x ∈ xs.reduceOption :=
  List.reduceOption_mem_iff.mpr
    (List.mem_of_mem_drop (List.mem_of_mem_take (List.reduceOption_mem_iff.mp h)))

section Regions

variable {skipListBufferArray : List (List UInt8)} {stripeBuffers : StripeBuffers}
  {columnCount blockCount c : Nat}

/-- In the stripe footer `FlushStripe` writes, column `c`'s exists region starts after the skip
lists and the columns before it. -/
theorem existsRegionOffset_flushed (hc : c ≤ columnCount) :
    existsRegionOffset ⟨columnCount, skipListBufferArray.map List.length,
        (List.range columnCount).map fun c =>
          prefixLength (existsBufferAt stripeBuffers c) blockCount,
        (List.range columnCount).map fun c =>
          prefixLength (valueBufferAt stripeBuffers c) blockCount⟩ c =
      skipListBufferArray.flatten.length + columnDataOffset stripeBuffers blockCount c := by
  rw [existsRegionOffset, columnDataOffset, List.length_flatten]
  congr 1
  refine congrArg List.sum (List.map_congr_left fun c' hc' => ?_)
  have hlt : c' < columnCount := (List.mem_range.mp hc').trans_le hc
  simp [List.getD_eq_getElem?_getD, hlt]

theorem valueRegionOffset_flushed (hc : c < columnCount) :
    valueRegionOffset ⟨columnCount, skipListBufferArray.map List.length,
        (List.range columnCount).map fun c =>
          prefixLength (existsBufferAt stripeBuffers c) blockCount,
        (List.range columnCount).map fun c =>
          prefixLength (valueBufferAt stripeBuffers c) blockCount⟩ c =
      skipListBufferArray.flatten.length + columnDataOffset stripeBuffers blockCount c +
        prefixLength (existsBufferAt stripeBuffers c) blockCount := by
  rw [valueRegionOffset, existsRegionOffset_flushed hc.le]
  simp [List.getD_eq_getElem?_getD, hc]

end Regions

section ReadBack

variable {g : PageGeometry} {k : Codecs} {decompress : List UInt8 → List UInt8}
  (hdecompress : ∀ buffer compressionType compressed,
    k.compressBuffer buffer compressionType = some compressed → decompress compressed = buffer)
include hdecompress

/-- A block of a stripe laid out as `FlushStripe` lays it out reads back, from the buffers its
node locates through the stripe footer, as the rows it was frozen from. -/
theorem readBlock_stripeLayout {skipListBufferArray : List (List UInt8)}
    {stripeBuffers : StripeBuffers} {columnCount blockCount c b : Nat}
    (stripeFooterBuffer : List UInt8) (hc : c < columnCount) (hb : b < blockCount)
    {att : Attribute} {compressionType : CompressionType} {values : List (Option Datum)}
    {blockBuffers : ColumnBlockBuffers}
    (hblock : blockBuffersAt stripeBuffers c b = some blockBuffers)
    (hof : blockBuffersOf k att compressionType values = some blockBuffers)
    (hvalues : ∀ v ∈ values.reduceOption, IsValueOf k.varsizeAny att v)
    (hsize : values.length + 7 < 2 ^ 32) {node : ColumnBlockSkipNode}
    (hrowCount : node.rowCount = values.length) :
    readBlock decompress k.varsizeAny att { node with
        existsBlockOffset := prefixLength (existsBufferAt stripeBuffers c) b
        existsLength := (existsBufferAt stripeBuffers c b).length
        valueBlockOffset := prefixLength (valueBufferAt stripeBuffers c) b
        valueLength := (valueBufferAt stripeBuffers c b).length
        valueCompressionType := blockBuffers.valueCompressionType }
      (sliceAt (stripeLayout skipListBufferArray stripeBuffers columnCount blockCount
          stripeFooterBuffer).flatten
        (existsRegionOffset ⟨columnCount, skipListBufferArray.map List.length,
          (List.range columnCount).map fun c =>
            prefixLength (existsBufferAt stripeBuffers c) blockCount,
          (List.range columnCount).map fun c =>
            prefixLength (valueBufferAt stripeBuffers c) blockCount⟩ c +
          prefixLength (existsBufferAt stripeBuffers c) b)
        (existsBufferAt stripeBuffers c b).length)
      (sliceAt (stripeLayout skipListBufferArray stripeBuffers columnCount blockCount
          stripeFooterBuffer).flatten
        (valueRegionOffset ⟨columnCount, skipListBufferArray.map List.length,
          (List.range columnCount).map fun c =>
            prefixLength (existsBufferAt stripeBuffers c) blockCount,
          (List.range columnCount).map fun c =>
            prefixLength (valueBufferAt stripeBuffers c) blockCount⟩ c +
          prefixLength (valueBufferAt stripeBuffers c) b)
        (valueBufferAt stripeBuffers c b).length) = some values := by
  have hexists : existsBufferAt stripeBuffers c b = blockBuffers.existsBuffer.getD [] := by
    simp [existsBufferAt, hblock]
  have hvalue : valueBufferAt stripeBuffers c b = blockBuffers.valueBuffer.getD [] := by
    simp [valueBufferAt, hblock]
  rw [existsRegionOffset_flushed hc.le, valueRegionOffset_flushed hc, sliceAt, sliceAt,
    stripeLayout_existsBuffer _ _ _ hc hb, stripeLayout_valueBuffer _ _ _ hc hb, hexists, hvalue]
  exact readBlock_blockBuffersOf hdecompress hof hvalues hsize hrowCount rfl

/-- **A flushed stripe reads back as its rows.** When the open stripe holds `rows`, every
non-null value is of its column's type, every comparison procedure orders datums, and a block's
flags fit a `uint32` once rounded up, the stripe `FlushStripe` writes reads back as `rows`:
its footer sits where its metadata says, every column's skip list where the footer says, each
skip node counts its block's rows and bounds their values, and the reader gets back every
column's value in every row. -/
theorem flushStripe_readBack {st st' : TableWriteState} {stripeMetadata : StripeMetadata}
    {stripeBuffers : StripeBuffers} {stripeSkipList : StripeSkipList}
    {rows : List (List (Option Datum))}
    (hcmp : ComparisonsOrder st.tupleDescriptor st.comparisonFunctionArray)
    (htyped : RowsTyped k.varsizeAny st.tupleDescriptor rows)
    (hsize : st.tableFooter.blockRowCount + 7 < 2 ^ 32)
    (h : StripeHolds k st stripeBuffers stripeSkipList rows)
    (hbuffers : st.stripeBuffers = some stripeBuffers)
    (hskip : st.stripeSkipList = some stripeSkipList)
    (hflush : flushStripe g k st = some (st', stripeMetadata)) :
    ∃ stripe, st'.flushedStripes = st.flushedStripes ++ [stripe] ∧
      StripeReadsBack k decompress st.tupleDescriptor st.comparisonFunctionArray
        st.tableFooter.blockRowCount stripe stripeMetadata rows := by
  obtain ⟨st₁, hlast, hflush₁⟩ := Option.bind_eq_some.mp hflush
  obtain ⟨stripeBuffers₁, blockDataArray, rfl, hfrozen⟩ :=
    stripeFrozen_serializeLastBlock h hbuffers hlast
  have hset := hfrozen.buffersSet
  have hbuffers₁ : ({ st with stripeBuffers := some stripeBuffers₁, blockDataArray } :
      TableWriteState).stripeBuffers = some stripeBuffers₁ := rfl
  obtain ⟨blockSkipNodeArray, skipListBufferArray, stripeFooter, hspec, hlen, hget, hfooter,
    hrecords⟩ := flushStripeBuffers_spec (g := g) hbuffers₁ hskip hset
  obtain ⟨blockSkipNodeArray', hskip', hcolumns⟩ :=
    flushStripeBuffers_nodes hflush₁ hbuffers₁ hskip
  obtain ⟨rfl, rfl⟩ := Prod.mk.inj (Option.some.inj (hflush₁.symm.trans hspec))
  obtain rfl : blockSkipNodeArray = blockSkipNodeArray' :=
    congrArg StripeSkipList.blockSkipNodeArray (Option.some.inj hskip')
  have hblockCount : stripeSkipList.blockCount =
      stripeBlockCount st.tableFooter.blockRowCount rows.length := hfrozen.blockCount
  refine ⟨_, rfl, stripeFooter, by rw [length_flatten_stripeLayout]; rfl, rfl, ?_,
    fun c hc => ?_⟩
  · -- the stripe footer ends the stripe
    refine @occursAt_of_eq _ _ (skipListBufferArray.flatten ++
      (stripeDataBuffers stripeBuffers₁ st.tupleDescriptor.length
        stripeSkipList.blockCount).flatten) _ [] _ (by simp [stripeLayout]) ?_
    rw [List.length_append, length_flatten_stripeDataBuffers, List.length_flatten]
  obtain ⟨att, comparisonFunction, nodes, columnBuffers, hatt, hcmpc, hnodes, hcolumn, hcount,
    hnodesEq, hblocks⟩ := hfrozen.columns c hc
  obtain ⟨att', nodes', hatt', hnodes', hskipList⟩ := hget c hc
  obtain rfl := Option.some.inj (hatt.symm.trans hatt')
  obtain ⟨nodes₀, nodes₁, hnodes₀, hnodes₁, hoffsets⟩ := hcolumns c hc
  obtain rfl := Option.some.inj (hnodes.symm.trans hnodes₀)
  obtain rfl := Option.some.inj (hnodes'.symm.trans hnodes₁)
  obtain ⟨nodes₂, hnodes₂, hcount', -⟩ := hrecords c hc
  obtain rfl := Option.some.inj (hnodes'.symm.trans hnodes₂)
  have hpass := setColumnOffsets_nodes hset hc hnodes hoffsets
  have hvalues' := htyped.mem_columnValues hatt
  rw [← hblockCount]
  refine ⟨att, comparisonFunction, nodes', hatt, hcmpc, ?_, ?_, fun b hb => ?_, ?_⟩
  · rw [hfooter]
    simp [List.getD_eq_getElem?_getD, hskipList]
  · -- the column's skip list follows those of the columns before it
    have hat := (occursAt_flatten [] hskipList).append_right
      ((stripeDataBuffers stripeBuffers₁ st.tupleDescriptor.length
        stripeSkipList.blockCount).flatten ++ k.serializeStripeFooter stripeFooter)
    rw [List.nil_append, List.length_nil, Nat.zero_add, List.length_flatten, List.map_take] at hat
    rw [show stripeFooter.skipListSizeArray = skipListBufferArray.map List.length by rw [hfooter]]
    simpa [stripeLayout] using hat
  · -- the skip node of each block keeps its statistics through the offset pass
    obtain ⟨node, blockBuffers, hnode, -, hnode'⟩ := hpass b hb
    obtain rfl := hnodesEq b node hnode
    have hinv : MinMaxInv comparisonFunction att.attcollation
        (blockRows st.tableFooter.blockRowCount b (columnValues c rows)).reduceOption
        (blockSkipNodeOf k.varsizeAny att comparisonFunction
          (blockRows st.tableFooter.blockRowCount b (columnValues c rows))) :=
      minMaxInv_blockSkipNodeOf (hcmp c att comparisonFunction hatt hcmpc)
        fun v hv => hvalues' v (mem_reduceOption_of_blockRows hv)
    exact ⟨_, hnode', rowCount_blockSkipNodeOf _ _ _ _, hinv.1, hinv.2⟩
  · -- every block reads back as its rows, and the blocks make up the column
    have hlength : (columnValues c rows).length = rows.length := List.length_map _ _
    rw [readColumn, mapM_take_eq_some (F := fun b => blockRows st.tableFooter.blockRowCount b
      (columnValues c rows)) hcount' fun b hb => ?_, Option.map_some', hblockCount, ← hlength,
      flatten_blockRows hfrozen.blockRowCount_pos]
    obtain ⟨node, blockBuffers, hnode, hblock, hnode'⟩ := hpass b hb
    obtain ⟨blockBuffers', hblock', hof⟩ := hblocks b hb
    obtain rfl : blockBuffers = blockBuffers' := by
      rw [blockBuffersAt, hcolumn, Option.some_bind, hblock'] at hblock
      exact (Option.some.inj hblock).symm
    obtain rfl := hnodesEq b node hnode
    refine ⟨_, hnode', ?_⟩
    rw [hfooter]
    exact readBlock_stripeLayout hdecompress _ hc hb hblock hof
      (fun v hv => hvalues' v (mem_reduceOption_of_blockRows hv))
      (lt_of_le_of_lt (Nat.add_le_add_right (length_blockRows_le b _) 7) hsize)
      (rowCount_blockSkipNodeOf _ _ _ _)

end ReadBack

end CStoreWriter
