import CStoreWriter.Blocks

/-!
# The open stripe

While a stripe is open, its rows live in three places: the frozen buffers of its full
blocks, the block data of the block in progress, and the skip nodes of all its blocks.
`StripeHolds` says what the three hold, column by column, in terms of the stripe's rows:
every full block is frozen into the exists flags of its rows packed and their non-null
values serialized (and compressed); the block data holds the exists flags and serialized
values of the rows of the block in progress; and the skip node of every block is the one its
rows give. `CStoreWriteRow` opens a stripe that holds no rows (`stripeHolds_startStripe`),
and the row it adds is held with the rows before it (`stripeHolds_addRow`), freezing the
block it completes.

## Main definitions

* `ColumnHolds` — what one column of the open stripe holds
* `StripeHolds` — what the open stripe holds, for its rows

## Main results

* `stripeHolds_startStripe` — a new stripe holds no rows
* `stripeHolds_addRow` — the middle of `CStoreWriteRow` keeps the invariant, the row appended
-/

namespace CStoreWriter

variable (k : Codecs)

/-- What a column of the open stripe holds when its values in the stripe's rows are `values`,
in blocks of `blockRowCount` rows: there is a skip node for every block the stripe takes,
and every node is the one its block's rows give; every full block is frozen into
`blockBuffersOf` its rows; and the block data holds the exists flags of the rows of the
block in progress and their non-null values serialized. -/
structure ColumnHolds (blockRowCount : Nat) (compressionType : CompressionType)
    (att : Attribute) (comparisonFunction : Option Comparator) (nodes : List ColumnBlockSkipNode)
    (columnBuffers : ColumnBuffers) (blockData : ColumnBlockData) (values : List (Option Datum)) :
    Prop where
  nodes_length : stripeBlockCount blockRowCount values.length ≤ nodes.length
  nodes : ∀ b node, nodes[b]? = some node →
    node = blockSkipNodeOf k.varsizeAny att comparisonFunction (blockRows blockRowCount b values)
  frozen : ∀ b < values.length / blockRowCount, ∃ blockBuffers,
    columnBuffers.blockBuffersArray[b]? = some blockBuffers ∧
    blockBuffersOf k att compressionType (blockRows blockRowCount b values) = some blockBuffers
  existsArray_length : values.length % blockRowCount ≤ blockData.existsArray.length
  existsArray : blockData.existsArray.take (values.length % blockRowCount) =
    (blockRows blockRowCount (values.length / blockRowCount) values).map Option.isSome
  valueBuffer : blockData.valueBuffer = serializeDatums k.varsizeAny att
    (blockRows blockRowCount (values.length / blockRowCount) values).reduceOption

/-- What the open stripe holds when its rows are `rows`: the stripe's buffers count them,
the skip list counts the blocks they take, every row has a value for every column, and every
column holds the column's values in the rows. -/
structure StripeHolds (st : TableWriteState) (stripeBuffers : StripeBuffers)
    (stripeSkipList : StripeSkipList) (rows : List (List (Option Datum))) : Prop where
  blockRowCount_pos : 0 < st.tableFooter.blockRowCount
  rowCount : stripeBuffers.rowCount = rows.length
  columnCount : stripeBuffers.columnCount = st.tupleDescriptor.length
  skipListColumns : stripeSkipList.columnCount = st.tupleDescriptor.length
  blockCount :
    stripeSkipList.blockCount = stripeBlockCount st.tableFooter.blockRowCount rows.length
  rows_length : ∀ row ∈ rows, st.tupleDescriptor.length ≤ row.length
  columns : ∀ c < st.tupleDescriptor.length, ∃ att comparisonFunction nodes columnBuffers
    blockData, st.tupleDescriptor[c]? = some att ∧
    st.comparisonFunctionArray[c]? = some comparisonFunction ∧
    stripeSkipList.blockSkipNodeArray[c]? = some nodes ∧
    stripeBuffers.columnBuffersArray[c]? = some columnBuffers ∧
    st.blockDataArray[c]? = some blockData ∧
    ColumnHolds k st.tableFooter.blockRowCount st.compressionType att comparisonFunction nodes
      columnBuffers blockData (columnValues c rows)

variable {k}

/-! ### Row arithmetic -/

theorem succ_div_mod_of_lt {blockRowCount n : Nat} (h : n % blockRowCount + 1 < blockRowCount) :
    (n + 1) / blockRowCount = n / blockRowCount ∧
      (n + 1) % blockRowCount = n % blockRowCount + 1 := by
  have hdiv := Nat.div_add_mod n blockRowCount
  have hq : (n + 1) / blockRowCount = n / blockRowCount :=
    Nat.div_eq_of_lt_le (by rw [Nat.mul_comm]; omega) (by rw [Nat.succ_mul, Nat.mul_comm]; omega)
  have hdiv' := Nat.div_add_mod (n + 1) blockRowCount
  rw [hq] at hdiv'
  exact ⟨hq, by omega⟩

theorem succ_div_mod_of_eq {blockRowCount n : Nat} (h : n % blockRowCount + 1 = blockRowCount) :
    (n + 1) / blockRowCount = n / blockRowCount + 1 ∧ (n + 1) % blockRowCount = 0 := by
  have hdiv := Nat.div_add_mod n blockRowCount
  have hq : (n + 1) / blockRowCount = n / blockRowCount + 1 :=
    Nat.div_eq_of_lt_le (by rw [Nat.succ_mul, Nat.mul_comm]; omega)
      (by rw [Nat.succ_mul, Nat.succ_mul, Nat.mul_comm]; omega)
  have hdiv' := Nat.div_add_mod (n + 1) blockRowCount
  rw [hq, Nat.mul_succ] at hdiv'
  exact ⟨hq, by omega⟩

/-! ### One column -/

theorem reduceOption_singleton {α : Type} (value : Option α) :
    [value].reduceOption = value.toList :=
  by cases value <;> rfl

theorem blockSkipNodeOf_concat (varsizeAny : List UInt8 → Nat) (att : Attribute)
    (comparisonFunction : Option Comparator) (values : List (Option Datum)) (value : Option Datum) :
    blockSkipNodeOf varsizeAny att comparisonFunction (values ++ [value]) =
      writeBlockSkipNode varsizeAny att comparisonFunction
        (blockSkipNodeOf varsizeAny att comparisonFunction values) value :=
  List.foldl_append _ _ _ _

theorem rowCount_blockSkipNodeOf (varsizeAny : List UInt8 → Nat) (att : Attribute)
    (comparisonFunction : Option Comparator) (values : List (Option Datum)) :
    (blockSkipNodeOf varsizeAny att comparisonFunction values).rowCount = values.length := by
  rw [blockSkipNodeOf, rowCount_foldl]
  exact Nat.zero_add _

/-- The statistics of a block's node: `MinMaxInv` of the block's non-null values. -/
theorem minMaxInv_blockSkipNodeOf {varsizeAny : List UInt8 → Nat} {att : Attribute}
    {comparisonFunction : Option Comparator}
    (hcmp : ∀ cmp ∈ comparisonFunction, TotalPreorder (cmp att.attcollation))
    {values : List (Option Datum)}
    (hvalues : ∀ v ∈ values.reduceOption, IsValueOf varsizeAny att v) :
    MinMaxInv comparisonFunction att.attcollation values.reduceOption
      (blockSkipNodeOf varsizeAny att comparisonFunction values) := by
  simpa using minMaxInv_foldl hcmp values (minMaxInv_empty _ _) hvalues

section Column

variable {blockRowCount : Nat} {compressionType : CompressionType} {att : Attribute}
  {comparisonFunction : Option Comparator} {nodes : List ColumnBlockSkipNode}
  {columnBuffers : ColumnBuffers} {blockData : ColumnBlockData} {values : List (Option Datum)}

/-- A column with no rows: every node is zeroed and the value buffer is empty. -/
theorem columnHolds_nil (hnodes : ∀ node ∈ nodes, node = .empty)
    (hvalue : blockData.valueBuffer = []) :
    ColumnHolds k blockRowCount compressionType att comparisonFunction nodes columnBuffers
      blockData [] where
  nodes_length := by simp [stripeBlockCount_zero]
  nodes b node hb := by
    rw [hnodes node (List.getElem?_mem hb)]
    simp [blockRows, blockSkipNodeOf]
  frozen b hb := absurd hb (by simp)
  existsArray_length := by simp
  existsArray := by simp [blockRows]
  valueBuffer := by simp [hvalue, blockRows, serializeDatums]

section Row

variable (h : ColumnHolds k blockRowCount compressionType att comparisonFunction nodes
    columnBuffers blockData values) (hpos : 0 < blockRowCount)
include h hpos

/-- After a row, the node of the block in progress has taken the row's value. -/
theorem ColumnHolds.nodes_concat {node : ColumnBlockSkipNode}
    (hnode : nodes[values.length / blockRowCount]? = some node) (value : Option Datum) (b : Nat)
    (node' : ColumnBlockSkipNode)
    (hb : (nodes.set (values.length / blockRowCount)
      (writeBlockSkipNode k.varsizeAny att comparisonFunction node value))[b]? = some node') :
    node' = blockSkipNodeOf k.varsizeAny att comparisonFunction
      (blockRows blockRowCount b (values ++ [value])) := by
  rw [List.getElem?_set] at hb
  rw [blockRows_concat hpos]
  by_cases hcur : b = values.length / blockRowCount
  · subst hcur
    rw [if_pos rfl, if_pos (List.getElem?_eq_some_iff.mp hnode).1, Option.some.injEq] at hb
    rw [if_pos rfl, blockSkipNodeOf_concat, ← h.nodes _ node hnode, hb]
  · rw [if_neg (Ne.symm hcur)] at hb
    rw [if_neg hcur]
    exact h.nodes b node' hb

/-- The exists flags of the block in progress after a row: the row's flag is stored at its
index, after the flags before it. -/
theorem ColumnHolds.existsArray_concat
    (hidx : values.length % blockRowCount < blockData.existsArray.length) (value : Option Datum) :
    (blockData.existsArray.set (values.length % blockRowCount) value.isSome).take
        (values.length % blockRowCount + 1) =
      (blockRows blockRowCount (values.length / blockRowCount) (values ++ [value])).map
        Option.isSome := by
  rw [take_succ_set _ hidx, h.existsArray, blockRows_concat hpos, if_pos rfl, List.map_append]
  rfl

end Row

/-- After a row, the skip nodes still cover the blocks of the stripe. -/
theorem stripeBlockCount_concat_le (hpos : 0 < blockRowCount) {node : ColumnBlockSkipNode}
    (hnode : nodes[values.length / blockRowCount]? = some node) (value : Option Datum)
    (node' : ColumnBlockSkipNode) :
    stripeBlockCount blockRowCount (values ++ [value]).length ≤
      (nodes.set (values.length / blockRowCount) node').length := by
  rw [List.length_append, List.length_singleton, stripeBlockCount_succ hpos, List.length_set]
  exact (List.getElem?_eq_some_iff.mp hnode).1

theorem serializeDatums_blockRows_concat (hpos : 0 < blockRowCount)
    (varsizeAny : List UInt8 → Nat)
    (values : List (Option Datum)) (value : Option Datum) :
    serializeDatums varsizeAny att
        ((blockRows blockRowCount (values.length / blockRowCount) values).reduceOption ++
          value.toList) =
      serializeDatums varsizeAny att
        (blockRows blockRowCount (values.length / blockRowCount) (values ++ [value])).reduceOption
    := by
  rw [blockRows_concat hpos, if_pos rfl, List.reduceOption_append, reduceOption_singleton]

/-- **A row that does not complete its block.** The row's value joins the block in progress,
in the block data and in the block's skip node. -/
theorem ColumnHolds.concat
    (h : ColumnHolds k blockRowCount compressionType att comparisonFunction nodes columnBuffers
      blockData values) (hpos : 0 < blockRowCount) {node : ColumnBlockSkipNode}
    (hnode : nodes[values.length / blockRowCount]? = some node)
    (hidx : values.length % blockRowCount < blockData.existsArray.length)
    (hfull : values.length % blockRowCount + 1 < blockRowCount) {value : Option Datum}
    {blockData' : ColumnBlockData}
    (hexists : blockData'.existsArray =
      blockData.existsArray.set (values.length % blockRowCount) value.isSome)
    (hvalue : blockData'.valueBuffer = serializeDatums k.varsizeAny att
      ((blockRows blockRowCount (values.length / blockRowCount) values).reduceOption ++
        value.toList)) :
    ColumnHolds k blockRowCount compressionType att comparisonFunction
      (nodes.set (values.length / blockRowCount)
        (writeBlockSkipNode k.varsizeAny att comparisonFunction node value))
      columnBuffers blockData' (values ++ [value]) := by
  obtain ⟨hdiv, hmod⟩ := succ_div_mod_of_lt hfull
  have hlen : (values ++ [value]).length = values.length + 1 := List.length_append _ _
  refine ⟨stripeBlockCount_concat_le hpos hnode value _, h.nodes_concat hpos hnode value,
    fun b hb => ?_, ?_, ?_, ?_⟩
  · rw [hlen, hdiv] at hb
    rw [blockRows_concat hpos, if_neg (Nat.ne_of_lt hb)]
    exact h.frozen b hb
  · rw [hlen, hmod, hexists, List.length_set]
    exact hidx
  · rw [hlen, hmod, hdiv, hexists]
    exact h.existsArray_concat hpos hidx value
  · rw [hlen, hdiv, hvalue, serializeDatums_blockRows_concat hpos]

/-- **A row that completes its block.** Once the row's value has joined the block in progress,
`SerializeBlockData` freezes the block into `blockBuffersOf` its rows, and the next block
starts empty. -/
theorem ColumnHolds.concat_freeze
    (h : ColumnHolds k blockRowCount compressionType att comparisonFunction nodes columnBuffers
      blockData values) (hpos : 0 < blockRowCount) {node : ColumnBlockSkipNode}
    (hnode : nodes[values.length / blockRowCount]? = some node)
    (hidx : values.length % blockRowCount < blockData.existsArray.length)
    (hfull : values.length % blockRowCount + 1 = blockRowCount) {value : Option Datum}
    {blockData' : ColumnBlockData}
    (hexists : blockData'.existsArray =
      blockData.existsArray.set (values.length % blockRowCount) value.isSome)
    (hvalue : blockData'.valueBuffer = serializeDatums k.varsizeAny att
      ((blockRows blockRowCount (values.length / blockRowCount) values).reduceOption ++
        value.toList))
    {existsBuffer : List UInt8}
    (hserialize : serializeBoolArray blockData'.existsArray blockRowCount = some existsBuffer)
    (hblock : values.length / blockRowCount < columnBuffers.blockBuffersArray.length) :
    ColumnHolds k blockRowCount compressionType att comparisonFunction
      (nodes.set (values.length / blockRowCount)
        (writeBlockSkipNode k.varsizeAny att comparisonFunction node value))
      ⟨columnBuffers.blockBuffersArray.set (values.length / blockRowCount)
        ⟨some existsBuffer, some (compressValueBuffer k blockData'.valueBuffer compressionType).1,
          (compressValueBuffer k blockData'.valueBuffer compressionType).2⟩⟩
      { blockData' with valueBuffer := [] } (values ++ [value]) := by
  obtain ⟨hdiv, hmod⟩ := succ_div_mod_of_eq hfull
  have hlen : (values ++ [value]).length = values.length + 1 := List.length_append _ _
  have hnext : blockRows blockRowCount (values.length / blockRowCount + 1) (values ++ [value]) =
      [] := by
    have := Nat.div_add_mod values.length blockRowCount
    refine blockRows_eq_nil ?_
    rw [hlen, Nat.succ_mul, Nat.mul_comm]
    omega
  refine ⟨stripeBlockCount_concat_le hpos hnode value _, h.nodes_concat hpos hnode value,
    fun b hb => ?_, by simp [hmod], by simp [hlen, hmod, hdiv, hnext], by simp [hlen, hdiv, hnext,
      serializeDatums]⟩
  rw [hlen, hdiv] at hb
  rcases Nat.lt_succ_iff_lt_or_eq.mp hb with hb | rfl
  · rw [List.getElem?_set_ne (Nat.ne_of_gt hb), blockRows_concat hpos, if_neg (Nat.ne_of_lt hb)]
    exact h.frozen b hb
  -- the completed block: its flags and values are those the block data now holds
  have hcount : (blockRows blockRowCount (values.length / blockRowCount)
      (values ++ [value])).length = blockRowCount := by
    rw [blockRows_concat hpos, if_pos rfl, List.length_append, length_blockRows_current hpos,
      List.length_singleton, hfull]
  have hcurrent := h.existsArray_concat hpos hidx value
  rw [hfull] at hcurrent
  refine ⟨_, List.getElem?_set_self hblock, blockBuffersOf_eq ?_ ?_ ?_⟩
  · rw [hcount, hexists, hcurrent]
  · rw [hvalue, serializeDatums_blockRows_concat hpos]
  · rw [hcount]
    exact hserialize

end Column

/-! ### A stripe -/

/-- **A new stripe holds no rows.** When no stripe is open, the opening of `CStoreWriteRow`
creates buffers and skip nodes that hold no rows: zeroed skip nodes, and empty value
buffers. -/
theorem stripeHolds_startStripe {st st' : TableWriteState} (hnone : st.stripeBuffers = none)
    (hpos : 0 < st.tableFooter.blockRowCount)
    (hcomparison : st.tupleDescriptor.length ≤ st.comparisonFunctionArray.length)
    (h : startStripe st = some st') :
    ∃ stripeBuffers stripeSkipList, st'.stripeBuffers = some stripeBuffers ∧
      st'.stripeSkipList = some stripeSkipList ∧ StripeHolds k st' stripeBuffers stripeSkipList []
    := by
  simp only [startStripe, hnone, Option.bind_eq_bind, Option.bind_eq_some, Option.pure_def,
    Option.some.injEq] at h
  obtain ⟨blockDataArray, hreset, rfl⟩ := h
  refine ⟨_, _, rfl, rfl, hpos, rfl, rfl, rfl, (stripeBlockCount_zero _).symm, by simp,
    fun c hc => ?_⟩
  obtain ⟨_, blockData, -, hbody, hblock⟩ := updateColumns_entry hreset hc
  cases hbody
  refine ⟨_, _, List.replicate ((st.stripeMaxRowCount % 2 ^ 32 / st.tableFooter.blockRowCount +
    1) % 2 ^ 32) .empty, ⟨List.replicate ((st.stripeMaxRowCount % 2 ^ 32 /
    st.tableFooter.blockRowCount + 1) % 2 ^ 32) ⟨none, none, .compressionNone⟩⟩,
    _, List.getElem?_eq_getElem hc, List.getElem?_eq_getElem (hc.trans_le hcomparison), ?_, ?_,
    hblock, columnHolds_nil (fun node hnode => List.eq_of_mem_replicate hnode) rfl⟩
  · simp [createEmptyStripeSkipList, hc]
  · simp [createEmptyStripeBuffers, hc]

/-- The row's value in column `c`, once the row was read. -/
theorem getD_of_getElem? {row : List (Option Datum)} {c : Nat} {value : Option Datum}
    (h : row[c]? = some value) : row.getD c none = value := by
  rw [List.getD_eq_getElem?_getD, h, Option.getD_some]

section Stripe

variable {st : TableWriteState} {stripeBuffers : StripeBuffers} {stripeSkipList : StripeSkipList}
  {rows : List (List (Option Datum))} {row : List (Option Datum)}

/-- One column of a row, as the middle of `CStoreWriteRow` writes it: the column holds its
values before the row, the row has a value for it, and the block data and skip nodes after the
writes are those of the column loops. -/
theorem StripeHolds.column_write (h : StripeHolds k st stripeBuffers stripeSkipList rows)
    {blockDataArray : List ColumnBlockData} {blockSkipNodeArray : List (List ColumnBlockSkipNode)}
    (hdata : updateColumns (writeBlockData k st row (rows.length % st.tableFooter.blockRowCount))
      st.tupleDescriptor.length st.blockDataArray = some blockDataArray)
    (hnodes : updateColumns (writeSkipNode k st row (rows.length / st.tableFooter.blockRowCount))
      st.tupleDescriptor.length stripeSkipList.blockSkipNodeArray = some blockSkipNodeArray)
    {c : Nat} (hc : c < st.tupleDescriptor.length) :
    ∃ att comparisonFunction nodes node columnBuffers blockData blockData' value,
      st.tupleDescriptor[c]? = some att ∧
      st.comparisonFunctionArray[c]? = some comparisonFunction ∧
      stripeBuffers.columnBuffersArray[c]? = some columnBuffers ∧
      blockDataArray[c]? = some blockData' ∧
      blockSkipNodeArray[c]? = some (nodes.set (rows.length / st.tableFooter.blockRowCount)
        (writeBlockSkipNode k.varsizeAny att comparisonFunction node value)) ∧
      nodes[rows.length / st.tableFooter.blockRowCount]? = some node ∧
      row[c]? = some value ∧ columnValues c (rows ++ [row]) = columnValues c rows ++ [value] ∧
      rows.length % st.tableFooter.blockRowCount < blockData.existsArray.length ∧
      blockData'.existsArray =
        blockData.existsArray.set (rows.length % st.tableFooter.blockRowCount) value.isSome ∧
      blockData'.valueBuffer = serializeDatums k.varsizeAny att
        ((blockRows st.tableFooter.blockRowCount (rows.length / st.tableFooter.blockRowCount)
          (columnValues c rows)).reduceOption ++ value.toList) ∧
      ColumnHolds k st.tableFooter.blockRowCount st.compressionType att comparisonFunction nodes
        columnBuffers blockData (columnValues c rows) := by
  obtain ⟨att, comparisonFunction, nodes, columnBuffers, blockData, hatt, hcmp, hnodesc, hcolumn,
    hblockData, hholds⟩ := h.columns c hc
  obtain ⟨_, blockData', hblockData', hwrite, hdata'⟩ := updateColumns_entry hdata hc
  obtain rfl := Option.some.inj (hblockData.symm.trans hblockData')
  obtain ⟨_, nodes', hnodes', hskip, hnodesc'⟩ := updateColumns_entry hnodes hc
  obtain rfl := Option.some.inj (hnodesc.symm.trans hnodes')
  obtain ⟨value, hrow, hidx, hexists, hvalue⟩ := writeBlockData_spec hwrite
  obtain ⟨value', att', comparisonFunction', node, hrow', hatt', hcmp', hnode, rfl⟩ :=
    writeSkipNode_spec hskip
  obtain rfl := Option.some.inj (hrow.symm.trans hrow')
  obtain rfl := Option.some.inj (hatt.symm.trans hatt')
  obtain rfl := Option.some.inj (hcmp.symm.trans hcmp')
  have hvalues : (columnValues c rows).length = rows.length := List.length_map _ _
  refine ⟨att, comparisonFunction, nodes, node, columnBuffers, blockData, blockData', value, hatt,
    hcmp, hcolumn, hdata', hnodesc', hnode, hrow, ?_, hidx, hexists,
    hvalue att hatt _ (hvalues ▸ hholds.valueBuffer), hholds⟩
  rw [columnValues_append, columnValues, columnValues, List.map_singleton, getD_of_getElem? hrow]

/-- A row the column loops wrote has a value for every column. -/
theorem StripeHolds.length_row (h : StripeHolds k st stripeBuffers stripeSkipList rows)
    {blockDataArray : List ColumnBlockData} {blockSkipNodeArray : List (List ColumnBlockSkipNode)}
    (hdata : updateColumns (writeBlockData k st row (rows.length % st.tableFooter.blockRowCount))
      st.tupleDescriptor.length st.blockDataArray = some blockDataArray)
    (hnodes : updateColumns (writeSkipNode k st row (rows.length / st.tableFooter.blockRowCount))
      st.tupleDescriptor.length stripeSkipList.blockSkipNodeArray = some blockSkipNodeArray) :
    st.tupleDescriptor.length ≤ row.length := by
  rcases Nat.eq_zero_or_pos st.tupleDescriptor.length with h0 | hpos
  · omega
  obtain ⟨_, _, _, _, _, _, _, _, -, -, -, -, -, -, hrow, -⟩ :=
    h.column_write hdata hnodes (Nat.sub_lt hpos Nat.one_pos)
  have := (List.getElem?_eq_some_iff.mp hrow).1
  omega

/-- **The middle of `CStoreWriteRow` keeps the invariant.** When the open stripe holds `rows`,
the row that `addRow` adds is held after them: its value joins the block in progress of every
column, in the block data and in the block's skip node, and when it completes the block the
block is frozen into `blockBuffersOf` its rows. -/
theorem stripeHolds_addRow {st' : TableWriteState}
    (h : StripeHolds k st stripeBuffers stripeSkipList rows)
    (hbuffers : st.stripeBuffers = some stripeBuffers)
    (hskip : st.stripeSkipList = some stripeSkipList) (hadd : addRow k st row = some st') :
    ∃ stripeBuffers' stripeSkipList', st'.stripeBuffers = some stripeBuffers' ∧
      st'.stripeSkipList = some stripeSkipList' ∧
      StripeHolds k st' stripeBuffers' stripeSkipList' (rows ++ [row]) := by
  have hpos := h.blockRowCount_pos
  simp only [addRow, hbuffers, hskip, h.rowCount, Option.bind_eq_bind, Option.some_bind,
    Option.bind_eq_some, Option.pure_def, Option.some.injEq] at hadd
  obtain ⟨blockDataArray, hdata, blockSkipNodeArray, hnodes, st₂, hblock, stripeBuffers₂,
    hbuffers₂, rfl⟩ := hadd
  have hrow := h.length_row hdata hnodes
  have hlen : (rows ++ [row]).length = rows.length + 1 := List.length_append _ _
  have hcount : stripeBlockCount st.tableFooter.blockRowCount (rows ++ [row]).length =
      rows.length / st.tableFooter.blockRowCount + 1 := by
    rw [hlen, stripeBlockCount_succ hpos]
  have hrows : ∀ r ∈ rows ++ [row], st.tupleDescriptor.length ≤ r.length := by
    simpa [or_imp, forall_and] using And.intro h.rows_length hrow
  split_ifs at hblock with hfull
  · -- the row completes its block, which is frozen
    obtain ⟨stripeBuffers₁, columnBuffersArray, blockDataArray₂, hbuffers₁, rfl, -,
      hfrozen⟩ := serializeBlockData_spec hblock
    cases hbuffers₁
    cases hbuffers₂
    refine ⟨_, _, rfl, rfl, hpos, by simp [h.rowCount], h.columnCount, h.skipListColumns,
      hcount.symm, hrows, fun c hc => ?_⟩
    obtain ⟨att, comparisonFunction, nodes, node, columnBuffers, blockData, blockData', value,
      hatt, hcmp, hcolumn, hdata', hnodes', hnode, -, hvalues, hidx, hexists, hvalue, hholds⟩ :=
      h.column_write hdata hnodes hc
    obtain ⟨columnBuffers₁, blockData₁, existsBuffer, hcolumn₁, hdata₁, hlt, hserialize,
      hcolumn₂, hdata₂⟩ := hfrozen c (h.columnCount ▸ hc)
    obtain rfl := Option.some.inj (hcolumn.symm.trans hcolumn₁)
    obtain rfl := Option.some.inj (hdata'.symm.trans hdata₁)
    have hvalues' : (columnValues c rows).length = rows.length := List.length_map _ _
    refine ⟨att, comparisonFunction, _, _, _, hatt, hcmp, hnodes', hcolumn₂, hdata₂, ?_⟩
    rw [hvalues, ← hvalues']
    rw [← hvalues'] at hnode hidx hexists hvalue hlt hfull
    exact hholds.concat_freeze hpos hnode hidx (by omega) hexists
      hvalue hserialize hlt
  · -- the row stays in the block in progress
    cases hblock
    cases hbuffers₂
    refine ⟨_, _, rfl, rfl, hpos, by simp [h.rowCount], h.columnCount, h.skipListColumns,
      hcount.symm, hrows, fun c hc => ?_⟩
    obtain ⟨att, comparisonFunction, nodes, node, columnBuffers, blockData, blockData', value,
      hatt, hcmp, hcolumn, hdata', hnodes', hnode, -, hvalues, hidx, hexists, hvalue, hholds⟩ :=
      h.column_write hdata hnodes hc
    have hvalues' : (columnValues c rows).length = rows.length := List.length_map _ _
    refine ⟨att, comparisonFunction, _, _, _, hatt, hcmp, hnodes', hcolumn, hdata', ?_⟩
    rw [hvalues, ← hvalues']
    rw [← hvalues'] at hnode hidx hexists hvalue hfull
    have := Nat.mod_lt (columnValues c rows).length hpos
    exact hholds.concat hpos hnode hidx (by omega) hexists hvalue

end Stripe

end CStoreWriter
