import CStoreWriter.FlushStripe

/-!
# `CStoreWriteRow`: adding a row

`CStoreWriteRow` opens a stripe when none is open, writes the row into the block being
filled (for every column its exists flag, its serialized value when it is not null, and its
skip node), freezes the block when the row is its last, counts the row, and flushes the
stripe once it holds `stripeMaxRowCount` rows.

It divides by the table footer's block row count, which for a table that already has a
footer is the count the table was created with. The exists array of the block being filled
was allocated by `CStoreBeginWrite` for the session's argument instead, and the stripe's
arrays of blocks hold `stripeMaxRowCount / blockRowCount + 1` entries counted in a `uint32`.

## Main definitions

* `startStripe`, `writeBlockData`, `writeSkipNode`, `addRow`, `flushFullStripe` — the parts of
  `CStoreWriteRow`, in order
* `cstoreWriteRow`, `cstoreWriteRows`
* `stripeRowCount`, `ExistsArraysSized` — the open stripe's rows, and the exists arrays' size

## Main results

* `cstoreWriteRows_existsArray_overflow` — when the footer's block row count exceeds the
  session's, the row after the session's count writes past the exists array
* `cstoreWriteRow_maxBlockCount_wraps` — when `stripeMaxRowCount / blockRowCount + 1` wraps
  to 0, the first row writes past the skip node array
-/

namespace CStoreWriter

variable (g : PageGeometry) (k : Codecs)

/-- The opening of `CStoreWriteRow`: with no open stripe, the stripe's buffers and skip list
are created for the footer's block row count (the `uint64` stripe row count passes as a
`uint32`), and every column's value buffer is made empty. -/
def startStripe (st : TableWriteState) : Option TableWriteState :=
  match st.stripeBuffers with
  | some _ => some st
  | none => do
    let columnCount := st.tupleDescriptor.length
    let blockRowCount := st.tableFooter.blockRowCount
    let blockDataArray ←
      updateColumns (fun _ blockData => some { blockData with valueBuffer := [] })
      columnCount st.blockDataArray
    pure { st with
      stripeBuffers := some
        (createEmptyStripeBuffers (st.stripeMaxRowCount % 2 ^ 32) blockRowCount columnCount)
      stripeSkipList := some
        (createEmptyStripeSkipList (st.stripeMaxRowCount % 2 ^ 32) blockRowCount columnCount)
      blockDataArray }

/-- The column loop of `CStoreWriteRow` on column `c`'s block data: the row's exists flag goes
to `existsArray[blockRowIndex]`, and a non-null value is serialized onto the value buffer.
The row's values and null flags are one list, `none` for a null. -/
def writeBlockData (st : TableWriteState) (row : List (Option Datum)) (blockRowIndex c : Nat)
    (blockData : ColumnBlockData) : Option ColumnBlockData := do
  let value ← row[c]?
  match value with
  | none =>
    let existsArray ← setChecked blockData.existsArray blockRowIndex false
    pure { blockData with existsArray }
  | some v =>
    let att ← st.tupleDescriptor[c]?
    let existsArray ← setChecked blockData.existsArray blockRowIndex true
    pure { existsArray
           valueBuffer := serializeSingleDatum k.varsizeAny blockData.valueBuffer v att.attbyval
             att.attlen att.attalign }

/-- The column loop of `CStoreWriteRow` on column `c`'s skip nodes: the node of block
`blockIndex` takes the row. -/
def writeSkipNode (st : TableWriteState) (row : List (Option Datum)) (blockIndex c : Nat)
    (nodes : List ColumnBlockSkipNode) : Option (List ColumnBlockSkipNode) := do
  let value ← row[c]?
  let att ← st.tupleDescriptor[c]?
  let comparisonFunction ← st.comparisonFunctionArray[c]?
  let node ← nodes[blockIndex]?
  pure (nodes.set blockIndex (writeBlockSkipNode k.varsizeAny att comparisonFunction node value))

/-- The middle of `CStoreWriteRow`: the row goes into block `rowCount / blockRowCount` at row
`rowCount % blockRowCount`, the block is frozen when the row is its last, and the row is
counted. -/
def addRow (st : TableWriteState) (row : List (Option Datum)) : Option TableWriteState := do
  let stripeBuffers ← st.stripeBuffers
  let stripeSkipList ← st.stripeSkipList
  let columnCount := st.tupleDescriptor.length
  let blockRowCount := st.tableFooter.blockRowCount
  let blockIndex := stripeBuffers.rowCount / blockRowCount
  let blockRowIndex := stripeBuffers.rowCount % blockRowCount
  let blockDataArray ← updateColumns (writeBlockData k st row blockRowIndex) columnCount
    st.blockDataArray
  let blockSkipNodeArray ← updateColumns (writeSkipNode k st row blockIndex) columnCount
    stripeSkipList.blockSkipNodeArray
  let st := { st with
    blockDataArray
    stripeSkipList :=
      some { stripeSkipList with blockSkipNodeArray, blockCount := blockIndex + 1 } }
  let st ← (if blockRowIndex = blockRowCount - 1 then
      serializeBlockData k st blockIndex blockRowCount
    else some st)
  let stripeBuffers ← st.stripeBuffers
  pure { st with
    stripeBuffers := some { stripeBuffers with rowCount := stripeBuffers.rowCount + 1 } }

/-- The end of `CStoreWriteRow`: a stripe of `stripeMaxRowCount` rows is flushed, its metadata
appended to the table footer, and its buffers dropped. -/
def flushFullStripe (st : TableWriteState) : Option TableWriteState :=
  match st.stripeBuffers with
  | some stripeBuffers =>
    if st.stripeMaxRowCount ≤ stripeBuffers.rowCount then do
      let (st, stripeMetadata) ← flushStripe g k st
      pure { st with
        stripeBuffers := none
        stripeSkipList := none
        tableFooter := appendStripeMetadata st.tableFooter stripeMetadata }
    else some st
  | none => some st

/-- `CStoreWriteRow(writeState, columnValues, columnNulls)`; a block row count of 0 makes its
divisions undefined. -/
def cstoreWriteRow (st : TableWriteState) (row : List (Option Datum)) : Option TableWriteState :=
  if st.tableFooter.blockRowCount = 0 then none
  else startStripe st >>= (addRow k · row) >>= flushFullStripe g k

/-- `CStoreWriteRow` of each row in turn. -/
def cstoreWriteRows (st : TableWriteState) (rows : List (List (Option Datum))) :
    Option TableWriteState :=
  rows.foldlM (cstoreWriteRow g k) st

/-- The rows of the open stripe, 0 when none is open. -/
def stripeRowCount (st : TableWriteState) : Nat := (st.stripeBuffers.map (·.rowCount)).getD 0

/-- Every column's exists array has `length` entries. -/
def ExistsArraysSized (length : Nat) (st : TableWriteState) : Prop :=
  ∀ blockData ∈ st.blockDataArray, blockData.existsArray.length = length

variable {g k}

/-! ### The parts of a row -/

theorem startStripe_cases {st st' : TableWriteState} (h : startStripe st = some st') :
    (st.stripeBuffers.isSome ∧ st' = st) ∨
      (st.stripeBuffers = none ∧ ∃ blockDataArray, st' = { st with
        stripeBuffers := some (createEmptyStripeBuffers (st.stripeMaxRowCount % 2 ^ 32)
          st.tableFooter.blockRowCount st.tupleDescriptor.length)
        stripeSkipList := some (createEmptyStripeSkipList (st.stripeMaxRowCount % 2 ^ 32)
          st.tableFooter.blockRowCount st.tupleDescriptor.length)
        blockDataArray } ∧
        ∀ {length : Nat}, ExistsArraysSized length st →
          ∀ blockData ∈ blockDataArray, blockData.existsArray.length = length) := by
  cases hbuffers : st.stripeBuffers with
  | some _ =>
    simp only [startStripe, hbuffers, Option.some.injEq] at h
    exact Or.inl ⟨rfl, h.symm⟩
  | none =>
    simp only [startStripe, hbuffers, Option.bind_eq_bind, Option.bind_eq_some, Option.pure_def,
      Option.some.injEq] at h
    obtain ⟨blockDataArray, hreset, rfl⟩ := h
    refine Or.inr ⟨rfl, blockDataArray, rfl, fun hsized => ?_⟩
    refine updateColumns_forall (P := fun blockData => _) (fun _ x y hxy hx => ?_) hreset hsized
    cases hxy
    exact hx

theorem stripeRowCount_startStripe {st st' : TableWriteState} (h : startStripe st = some st') :
    stripeRowCount st' = stripeRowCount st ∧ st'.stripeBuffers.isSome := by
  rcases startStripe_cases h with ⟨hsome, rfl⟩ | ⟨hnone, _, rfl, -⟩
  · exact ⟨rfl, hsome⟩
  · simp [stripeRowCount, hnone, createEmptyStripeBuffers]

theorem existsArraysSized_startStripe {st st' : TableWriteState} {length : Nat}
    (h : startStripe st = some st') (hsized : ExistsArraysSized length st) :
    ExistsArraysSized length st' := by
  rcases startStripe_cases h with ⟨-, rfl⟩ | ⟨-, _, rfl, hlen⟩
  · exact hsized
  · exact hlen hsized

theorem length_existsArray_writeBlockData {st : TableWriteState} {row : List (Option Datum)}
    {blockRowIndex c : Nat} {blockData blockData' : ColumnBlockData}
    (h : writeBlockData k st row blockRowIndex c blockData = some blockData') :
    blockData'.existsArray.length = blockData.existsArray.length := by
  simp only [writeBlockData, setChecked, Option.bind_eq_bind, Option.bind_eq_some] at h
  obtain ⟨value, -, h⟩ := h
  cases value with
  | none =>
    simp only [Option.bind_eq_some] at h
    obtain ⟨existsArray, hexists, h⟩ := h
    split_ifs at hexists
    cases hexists
    cases h
    simp
  | some v =>
    simp only [Option.bind_eq_some] at h
    obtain ⟨att, -, existsArray, hexists, h⟩ := h
    split_ifs at hexists
    cases hexists
    cases h
    simp

/-- The middle of a row counts it and keeps the sizes of the exists arrays; it changes only the
stripe's buffers and skip list and the block data. -/
theorem addRow_shape {st st' : TableWriteState} {row : List (Option Datum)}
    (h : addRow k st row = some st') :
    ∃ stripeBuffers stripeBuffers' stripeSkipList blockDataArray,
      st.stripeBuffers = some stripeBuffers ∧
      st' = { st with
        stripeBuffers := some stripeBuffers'
        stripeSkipList := some stripeSkipList
        blockDataArray } ∧
      stripeBuffers'.rowCount = stripeBuffers.rowCount + 1 ∧
      ∀ {length : Nat}, ExistsArraysSized length st →
        ∀ blockData ∈ blockDataArray, blockData.existsArray.length = length := by
  simp only [addRow, Option.bind_eq_bind, Option.bind_eq_some, Option.pure_def,
    Option.some.injEq] at h
  obtain ⟨stripeBuffers, hbuffers, stripeSkipList, -, blockDataArray, hdata, blockSkipNodeArray,
    -, st₁, hblock, stripeBuffers₁, hbuffers₁, rfl⟩ := h
  have hsized : ∀ {length : Nat}, ExistsArraysSized length st →
      ∀ blockData ∈ blockDataArray, blockData.existsArray.length = length := fun hsized =>
    updateColumns_forall (P := fun blockData => _)
      (fun _ _ _ hxy hx => (length_existsArray_writeBlockData hxy).trans hx) hdata hsized
  split_ifs at hblock
  · obtain ⟨stripeBuffers₂, columnBuffersArray, blockDataArray₂, hbuffers₂, rfl, hP⟩ :=
      serializeBlockData_shape hblock
    obtain rfl : stripeBuffers = stripeBuffers₂ := Option.some.inj (hbuffers.symm.trans hbuffers₂)
    obtain rfl := Option.some.inj hbuffers₁
    exact ⟨stripeBuffers, _, _, blockDataArray₂, hbuffers, rfl, rfl,
      fun hs => hP (P := fun existsArray => existsArray.length = _) (hsized hs)⟩
  · cases hblock
    obtain rfl : stripeBuffers = stripeBuffers₁ := Option.some.inj (hbuffers.symm.trans hbuffers₁)
    exact ⟨stripeBuffers, _, _, blockDataArray, hbuffers, rfl, rfl, hsized⟩

theorem flushFullStripe_cases {st st' : TableWriteState} {stripeBuffers : StripeBuffers}
    (hbuffers : st.stripeBuffers = some stripeBuffers) (h : flushFullStripe g k st = some st') :
    (¬st.stripeMaxRowCount ≤ stripeBuffers.rowCount ∧ st' = st) ∨
      (st.stripeMaxRowCount ≤ stripeBuffers.rowCount ∧ ∃ st₁ stripeMetadata,
        flushStripe g k st = some (st₁, stripeMetadata) ∧
        st' = { st₁ with
          stripeBuffers := none
          stripeSkipList := none
          tableFooter := appendStripeMetadata st₁.tableFooter stripeMetadata }) := by
  simp only [flushFullStripe, hbuffers] at h
  split_ifs at h with hfull
  · simp only [Option.bind_eq_bind, Option.bind_eq_some, Option.pure_def, Option.some.injEq] at h
    obtain ⟨⟨st₁, stripeMetadata⟩, hflush, rfl⟩ := h
    exact Or.inr ⟨hfull, st₁, stripeMetadata, hflush, rfl⟩
  · cases h
    exact Or.inl ⟨hfull, rfl⟩

/-- A row changes the data fork, the cursor, the flushed stripes and the table footer only by
flushing a full stripe. -/
theorem cstoreWriteRow_flushes {st st' : TableWriteState} {row : List (Option Datum)}
    (h : cstoreWriteRow g k st row = some st') :
    ∃ st₂ : TableWriteState, st₂.relation = st.relation ∧
      st₂.activeBlockNumber = st.activeBlockNumber ∧
      st₂.currentFileOffset = st.currentFileOffset ∧ st₂.flushedStripes = st.flushedStripes ∧
      st₂.tableFooter = st.tableFooter ∧
      (st' = st₂ ∨ ∃ st₁ stripeMetadata, flushStripe g k st₂ = some (st₁, stripeMetadata) ∧
        st' = { st₁ with
          stripeBuffers := none
          stripeSkipList := none
          tableFooter := appendStripeMetadata st₁.tableFooter stripeMetadata }) := by
  unfold cstoreWriteRow at h
  split_ifs at h
  obtain ⟨st₂, h₂, hflush⟩ := Option.bind_eq_some.mp h
  obtain ⟨st₁, hstart, hadd⟩ := Option.bind_eq_some.mp h₂
  have hframe : st₁.relation = st.relation ∧ st₁.activeBlockNumber = st.activeBlockNumber ∧
      st₁.currentFileOffset = st.currentFileOffset ∧ st₁.flushedStripes = st.flushedStripes ∧
      st₁.tableFooter = st.tableFooter := by
    rcases startStripe_cases hstart with ⟨-, rfl⟩ | ⟨-, _, rfl, -⟩ <;>
      exact ⟨rfl, rfl, rfl, rfl, rfl⟩
  obtain ⟨_, _, _, _, -, hst₂, -, -⟩ := addRow_shape hadd
  obtain ⟨hrelation, hactive, hoffset, hflushed, hfooter⟩ := hframe
  refine ⟨st₂, by rw [hst₂]; exact hrelation, by rw [hst₂]; exact hactive,
    by rw [hst₂]; exact hoffset, by rw [hst₂]; exact hflushed, by rw [hst₂]; exact hfooter, ?_⟩
  rcases flushFullStripe_cases (by rw [hst₂]) hflush with ⟨-, rfl⟩ | ⟨-, hflush⟩
  · exact Or.inl rfl
  · exact Or.inr hflush

/-! ### A row that stays in its stripe -/

/-- A row that leaves its stripe short of `stripeMaxRowCount` rows counts one more row, keeps
the footer, the schema and the sizes of the exists arrays. -/
theorem cstoreWriteRow_below_stripe {st st' : TableWriteState} {row : List (Option Datum)}
    (h : cstoreWriteRow g k st row = some st')
    (hbelow : stripeRowCount st + 1 < st.stripeMaxRowCount) :
    stripeRowCount st' = stripeRowCount st + 1 ∧ st'.tableFooter = st.tableFooter ∧
      st'.tupleDescriptor = st.tupleDescriptor ∧
      st'.stripeMaxRowCount = st.stripeMaxRowCount ∧
      ∀ {length : Nat}, ExistsArraysSized length st → ExistsArraysSized length st' := by
  unfold cstoreWriteRow at h
  split_ifs at h
  obtain ⟨st₂, h₂, hflush⟩ := Option.bind_eq_some.mp h
  obtain ⟨st₁, hstart, hadd⟩ := Option.bind_eq_some.mp h₂
  obtain ⟨hcount, -⟩ := stripeRowCount_startStripe hstart
  have hframe : st₁.tableFooter = st.tableFooter ∧ st₁.tupleDescriptor = st.tupleDescriptor ∧
      st₁.stripeMaxRowCount = st.stripeMaxRowCount := by
    rcases startStripe_cases hstart with ⟨-, rfl⟩ | ⟨-, _, rfl, -⟩ <;> exact ⟨rfl, rfl, rfl⟩
  obtain ⟨stripeBuffers, stripeBuffers', stripeSkipList, blockDataArray, hbuffers, rfl, hrows,
    hsized⟩ := addRow_shape hadd
  have hcount₁ : stripeRowCount st₁ = stripeBuffers.rowCount := by simp [stripeRowCount, hbuffers]
  rcases flushFullStripe_cases rfl hflush with ⟨-, rfl⟩ | ⟨hfull, -⟩
  · refine ⟨by rw [← hcount, hcount₁, ← hrows]; rfl, hframe.1, hframe.2.1, hframe.2.2,
      fun hs => hsized (existsArraysSized_startStripe hstart hs)⟩
  · simp only at hfull
    omega

/-- A row whose index in its block is past the exists arrays writes past them. -/
theorem addRow_eq_none_of_existsArray {st : TableWriteState} {stripeBuffers : StripeBuffers}
    {length : Nat} (row : List (Option Datum)) (hbuffers : st.stripeBuffers = some stripeBuffers)
    (hcolumns : st.tupleDescriptor ≠ []) (hsized : ExistsArraysSized length st)
    (hindex : length ≤ stripeBuffers.rowCount % st.tableFooter.blockRowCount) :
    addRow k st row = none := by
  cases hskip : st.stripeSkipList with
  | none => simp [addRow, hbuffers, hskip]
  | some stripeSkipList =>
    have hfail : updateColumns (writeBlockData k st row
        (stripeBuffers.rowCount % st.tableFooter.blockRowCount))
        st.tupleDescriptor.length st.blockDataArray = none := by
      refine updateColumns_eq_none (fun ys hys blockData hblock => ?_)
        (List.length_pos.mpr hcolumns)
      cases hys
      have hlen := hsized blockData (List.getElem?_mem hblock)
      obtain ⟨att, hatt⟩ : ∃ att, st.tupleDescriptor[0]? = some att :=
        ⟨_, List.getElem?_eq_getElem (List.length_pos.mpr hcolumns)⟩
      cases hvalue : row[0]? with
      | none => simp [writeBlockData, hvalue]
      | some value =>
        cases value <;> simp [writeBlockData, hvalue, hatt, setChecked_eq_none (hlen ▸ hindex)]
    simp [addRow, hbuffers, hskip, hfail]

/-- A row whose block is past the skip node arrays writes past them. -/
theorem addRow_eq_none_of_skipNodes {st : TableWriteState} {stripeBuffers : StripeBuffers}
    {stripeSkipList : StripeSkipList} (row : List (Option Datum))
    (hbuffers : st.stripeBuffers = some stripeBuffers)
    (hskip : st.stripeSkipList = some stripeSkipList) (hcolumns : st.tupleDescriptor ≠ [])
    (hnodes : ∀ nodes ∈ stripeSkipList.blockSkipNodeArray,
      nodes.length ≤ stripeBuffers.rowCount / st.tableFooter.blockRowCount) :
    addRow k st row = none := by
  have hfail : updateColumns (writeSkipNode k st row
      (stripeBuffers.rowCount / st.tableFooter.blockRowCount))
      st.tupleDescriptor.length stripeSkipList.blockSkipNodeArray = none := by
    refine updateColumns_eq_none (fun ys hys nodes hnode => ?_) (List.length_pos.mpr hcolumns)
    cases hys
    have hlen := hnodes nodes (List.getElem?_mem hnode)
    simp [writeSkipNode, List.getElem?_eq_none hlen]
  cases hdata : updateColumns (writeBlockData k st row
      (stripeBuffers.rowCount % st.tableFooter.blockRowCount))
      st.tupleDescriptor.length st.blockDataArray <;>
    simp [addRow, hbuffers, hskip, hdata, hfail]

/-- A row whose index in its block is past the exists arrays is undefined. -/
theorem cstoreWriteRow_eq_none_of_existsArray {st : TableWriteState} {length : Nat}
    (row : List (Option Datum)) (hcolumns : st.tupleDescriptor ≠ [])
    (hsized : ExistsArraysSized length st)
    (hindex : length ≤ stripeRowCount st % st.tableFooter.blockRowCount) :
    cstoreWriteRow g k st row = none := by
  unfold cstoreWriteRow
  split_ifs
  · rfl
  cases hstart : startStripe st with
  | none => rfl
  | some st₁ =>
    obtain ⟨hcount, hsome⟩ := stripeRowCount_startStripe hstart
    obtain ⟨stripeBuffers, hbuffers⟩ := Option.isSome_iff_exists.mp hsome
    have hframe : st₁.tableFooter = st.tableFooter ∧ st₁.tupleDescriptor = st.tupleDescriptor := by
      rcases startStripe_cases hstart with ⟨-, rfl⟩ | ⟨-, _, rfl, -⟩ <;> exact ⟨rfl, rfl⟩
    have hcount₁ : stripeRowCount st₁ = stripeBuffers.rowCount := by
      simp [stripeRowCount, hbuffers]
    have hnone := @addRow_eq_none_of_existsArray k st₁ stripeBuffers length row hbuffers
      (hframe.2 ▸ hcolumns) (existsArraysSized_startStripe hstart hsized)
      (by rw [hframe.1, ← hcount₁, hcount]; exact hindex)
    simp [hnone]

/-! ### A table resumed with another block row count -/

theorem existsArraysSized_cstoreBeginWrite (relation : Relation)
    (compressionType : CompressionType) (stripeMaxRowCount blockRowCount : Nat)
    (tupleDescriptor : List Attribute) :
    ExistsArraysSized blockRowCount (cstoreBeginWrite g k relation compressionType
      stripeMaxRowCount blockRowCount tupleDescriptor) := by
  intro blockData hblock
  obtain ⟨-, rfl⟩ := List.mem_replicate.mp hblock
  simp

/-- From a state with `stripeRowCount ≤ length`, rows that stay below the exists arrays'
`length`, the block row count and the stripe's row count, the row that reaches index
`length` of its block writes past the exists arrays. -/
theorem cstoreWriteRows_eq_none_of_existsArray {length : Nat} :
    ∀ (rows : List (List (Option Datum))) {st : TableWriteState},
      st.tupleDescriptor ≠ [] → ExistsArraysSized length st →
      length < st.tableFooter.blockRowCount → length < st.stripeMaxRowCount →
      stripeRowCount st ≤ length → length - stripeRowCount st < rows.length →
      cstoreWriteRows g k st rows = none
  | [], _, _, _, _, _, _, hrows => absurd hrows (Nat.not_lt_zero _)
  | row :: rows, st, hcolumns, hsized, hblock, hstripe, hcount, hrows => by
    rw [cstoreWriteRows, List.foldlM_cons]
    rcases Nat.lt_or_eq_of_le hcount with hlt | heq
    · cases hrow : cstoreWriteRow g k st row with
      | none => rfl
      | some st' =>
        obtain ⟨hcount', hfooter, hdesc, hmax, hsized'⟩ :=
          cstoreWriteRow_below_stripe hrow (by omega)
        exact cstoreWriteRows_eq_none_of_existsArray rows (hdesc ▸ hcolumns) (hsized' hsized)
          (hfooter ▸ hblock) (hmax ▸ hstripe) (by omega)
          (by simp only [List.length_cons] at hrows; omega)
    · rw [cstoreWriteRow_eq_none_of_existsArray row hcolumns hsized
        (by rw [heq, Nat.mod_eq_of_lt hblock])]
      rfl

/-- **A table resumed with a larger block row count overruns the exists arrays.**
`CStoreBeginWrite` allocates every column's exists array for the session's block row count,
while `CStoreWriteRow` indexes it by the row's position in a block of the footer's count.
When the table's footer has a larger count than the session's argument and the stripe holds
more rows than the argument, the row after the first `blockRowCount` rows writes past the
exists array, whatever the rows are. -/
theorem cstoreWriteRows_existsArray_overflow {relation : Relation} {tableFooter : TableFooter}
    (compressionType : CompressionType) (stripeMaxRowCount blockRowCount : Nat)
    (tupleDescriptor : List Attribute) (rows : List (List (Option Datum)))
    (hfooter : cstoreReadFooter k relation.footerFork = some tableFooter)
    (hlarger : blockRowCount < tableFooter.blockRowCount)
    (hstripe : blockRowCount < stripeMaxRowCount) (hcolumns : tupleDescriptor ≠ [])
    (hrows : blockRowCount < rows.length) :
    cstoreWriteRows g k (cstoreBeginWrite g k relation compressionType stripeMaxRowCount
      blockRowCount tupleDescriptor) rows = none :=
  cstoreWriteRows_eq_none_of_existsArray rows hcolumns
    (existsArraysSized_cstoreBeginWrite relation compressionType stripeMaxRowCount blockRowCount
      tupleDescriptor)
    (by simpa [cstoreBeginWrite, hfooter] using hlarger) hstripe (Nat.zero_le _)
    (Nat.sub_zero blockRowCount ▸ hrows)

/-- A footer fork whose committed footer has block row count 2 and no stripes. -/
theorem cstoreWriteRows_existsArray_overflow_resumed :
    cstoreReadFooter exampleCodecs (footerRun defaultGeometry exampleCodecs [⟨[], 2⟩]) =
      some ⟨[], 2⟩ ∧ 1 < 2 ∧ 1 < 10 ∧ [int4Attribute] ≠ [] ∧ 1 < [[some (Datum.byVal 5)],
        [some (Datum.byVal 7)]].length ∧
      cstoreWriteRows defaultGeometry exampleCodecs
        (cstoreBeginWrite defaultGeometry exampleCodecs
          ⟨[], footerRun defaultGeometry exampleCodecs [⟨[], 2⟩]⟩ .compressionNone 10 1
          [int4Attribute])
        [[some (Datum.byVal 5)], [some (Datum.byVal 7)]] = none :=
  have hfooter : cstoreReadFooter exampleCodecs (footerRun defaultGeometry exampleCodecs
      [⟨[], 2⟩]) = some ⟨[], 2⟩ := by decide
  ⟨hfooter, by decide, by decide, List.cons_ne_nil _ _, by decide,
    @cstoreWriteRows_existsArray_overflow defaultGeometry exampleCodecs
      ⟨[], footerRun defaultGeometry exampleCodecs [⟨[], 2⟩]⟩ ⟨[], 2⟩ .compressionNone 10 1
      [int4Attribute] _ hfooter (by decide) (by decide) (List.cons_ne_nil _ _) (by decide)⟩

/-! ### A stripe row count that wraps the block count -/

/-- **The block count of a stripe can wrap to zero.** `CreateEmptyStripeSkipList` counts
`stripeMaxRowCount / blockRowCount + 1` blocks in a `uint32`: for a new table with block row
count 1 and a stripe row count of `2^32 - 1` it allocates no skip node at all, and the first
row writes past every column's skip nodes, whatever the row is. -/
theorem cstoreWriteRow_maxBlockCount_wraps {relation : Relation}
    (compressionType : CompressionType) (stripeMaxRowCount : Nat)
    (tupleDescriptor : List Attribute) (row : List (Option Datum))
    (hfooter : cstoreReadFooter k relation.footerFork = none)
    (hstripe : stripeMaxRowCount % 2 ^ 32 = 2 ^ 32 - 1) (hcolumns : tupleDescriptor ≠ []) :
    cstoreWriteRow g k (cstoreBeginWrite g k relation compressionType stripeMaxRowCount 1
      tupleDescriptor) row = none := by
  have hblock : (cstoreBeginWrite g k relation compressionType stripeMaxRowCount 1
      tupleDescriptor).tableFooter.blockRowCount = 1 := by simp [cstoreBeginWrite, hfooter]
  unfold cstoreWriteRow
  rw [if_neg (by omega)]
  cases hstart : startStripe (cstoreBeginWrite g k relation compressionType stripeMaxRowCount 1
      tupleDescriptor) with
  | none => rfl
  | some st₁ =>
    rcases startStripe_cases hstart with ⟨hsome, -⟩ | ⟨-, blockDataArray, rfl, -⟩
    · cases hsome
    · simp only [Option.bind_eq_bind, Option.some_bind]
      rw [addRow_eq_none_of_skipNodes row ?hbuffers ?hskip ?hcolumns ?hnodes]
      · rfl
      case hbuffers => rfl
      case hskip => rfl
      case hcolumns => exact hcolumns
      case hnodes =>
        intro nodes hnodes
        obtain ⟨-, rfl⟩ := List.mem_replicate.mp hnodes
        rw [List.length_replicate, hblock]
        show (stripeMaxRowCount % 2 ^ 32 / 1 + 1) % 2 ^ 32 ≤ _
        rw [hstripe]
        exact Nat.zero_le _

theorem cstoreWriteRow_maxBlockCount_wraps_new :
    cstoreReadFooter exampleCodecs [] = none ∧ (2 ^ 32 - 1) % 2 ^ 32 = 2 ^ 32 - 1 ∧
      [int4Attribute] ≠ [] ∧
      cstoreWriteRow defaultGeometry exampleCodecs
        (cstoreBeginWrite defaultGeometry exampleCodecs ⟨[], []⟩ .compressionNone (2 ^ 32 - 1) 1
          [int4Attribute]) [some (Datum.byVal 5)] = none :=
  ⟨rfl, by decide, List.cons_ne_nil _ _,
    @cstoreWriteRow_maxBlockCount_wraps defaultGeometry exampleCodecs ⟨[], []⟩ .compressionNone
      (2 ^ 32 - 1) [int4Attribute] [some (Datum.byVal 5)] rfl (by decide) (List.cons_ne_nil _ _)⟩

end CStoreWriter
