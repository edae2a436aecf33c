import CStoreWriter.Load

/-!
# Every write of a load stays within its arrays

`CStoreWriteRow` indexes arrays it sized when the stripe opened: a row's exists flag goes to
slot `rowCount % blockRowCount` of an array of `blockRowCount` flags made by
`CStoreBeginWrite`, and its skip node and frozen buffers to block `rowCount / blockRowCount`
of `maxBlockCount = stripeMaxRowCount / blockRowCount + 1` blocks, a `uint32`. The model makes
an access past the end of an array undefined (`none`). A load makes none when the footer's
block row count is the session's, the block and flag byte counts fit their `uint32`s and every
row has a value for every column: no write of a row, and none of the last stripe's flush, goes
past the end of an array. The `palloc0` and `enlargeStringInfo` calls that size these arrays
and buffers raise an `ERROR` past `MaxAllocSize`, before any access; the model leaves that
limit out, so these results are about accesses out of bounds, not about a load completing.

The proof is a progress and preservation argument. `Writable` is what every state of a
session keeps, `StripeRoom` is the room the open stripe's arrays have; each step of
`CStoreWriteRow` is defined from them (`addRow_isSome`, `flushStripe_isSome`) and keeps them.

## Main definitions

* `Writable` — the block row count, the stripe row count and the block data of a state
* `StripeRoom` — the open stripe has a slot for every block of `stripeMaxRowCount` rows
* `CanWrite` — no stripe is open, or the open stripe holds its rows and has room for more

## Main results

* `cstoreWriteRow_canWrite` — a row stays within the arrays, and the state can take the next
  one
* `abandonedSession_isSome` — no write of a load's rows, and none of its last stripe's flush,
  goes past the end of an array
-/

namespace CStoreWriter

/-- What every state of a session keeps for its writes to stay within their arrays: a block row
count `R` with `R + 7` within a `uint32`, a stripe row count and a block count
`stripeMaxRowCount / R + 1` within a `uint32`, a comparison procedure and block data for every
column, and exists arrays of `R` flags. -/
structure Writable (st : TableWriteState) : Prop where
  blockRowCount_pos : 0 < st.tableFooter.blockRowCount
  blockRowCount_lt : st.tableFooter.blockRowCount + 7 < 2 ^ 32
  stripeMaxRowCount_lt : st.stripeMaxRowCount < 2 ^ 32
  maxBlockCount_lt : st.stripeMaxRowCount / st.tableFooter.blockRowCount + 1 < 2 ^ 32
  length_le : st.tupleDescriptor.length ≤ st.comparisonFunctionArray.length
  blockDataArray_length : st.tupleDescriptor.length ≤ st.blockDataArray.length
  existsArraysSized : ExistsArraysSized st.tableFooter.blockRowCount st

/-- The open stripe has, for every column, a block buffer and a skip node for each of the
`stripeMaxRowCount / blockRowCount + 1` blocks a stripe can take. -/
structure StripeRoom (st : TableWriteState) (stripeBuffers : StripeBuffers)
    (stripeSkipList : StripeSkipList) : Prop where
  blockBuffers : ∀ c < st.tupleDescriptor.length, ∀ columnBuffers : ColumnBuffers,
    stripeBuffers.columnBuffersArray[c]? = some columnBuffers →
    st.stripeMaxRowCount / st.tableFooter.blockRowCount < columnBuffers.blockBuffersArray.length
  nodes : ∀ c < st.tupleDescriptor.length, ∀ nodes : List ColumnBlockSkipNode,
    stripeSkipList.blockSkipNodeArray[c]? = some nodes →
    st.stripeMaxRowCount / st.tableFooter.blockRowCount < nodes.length

variable (k : Codecs)

/-- A state that can take a row: it is `Writable`, and either no stripe is open, or the open
stripe holds `rows`, fewer than `stripeMaxRowCount`, and has room for the stripe's blocks. -/
def CanWrite (st : TableWriteState) (rows : List (List (Option Datum))) : Prop :=
  Writable st ∧ ((st.stripeBuffers = none ∧ rows = []) ∨
    (rows.length < st.stripeMaxRowCount ∧ ∃ stripeBuffers stripeSkipList,
      st.stripeBuffers = some stripeBuffers ∧ st.stripeSkipList = some stripeSkipList ∧
      StripeHolds k st stripeBuffers stripeSkipList rows ∧
      StripeRoom st stripeBuffers stripeSkipList))

variable {k} {g : PageGeometry}

/-! ### What every step keeps -/

theorem length_updateColumns {α : Type} {body : Nat → α → Option α} {n : Nat} {xs ys : List α}
    (h : updateColumns body n xs = some ys) : ys.length = xs.length := by
  obtain ⟨ys', hys', hlength, -⟩ := updateColumns_getElem? (updateColumns_of_eq_some h)
  rw [← Option.some.inj (hys'.symm.trans h), hlength]

theorem Writable.of_step {st st' : TableWriteState} (h : Writable st) (hschema : SameSchema st st')
    (hlength : st'.blockDataArray.length = st.blockDataArray.length)
    (hsized : ExistsArraysSized st.tableFooter.blockRowCount st →
      ExistsArraysSized st.tableFooter.blockRowCount st') : Writable st' := by
  obtain ⟨h₁, h₂, h₃, h₄, h₅, h₆, h₇⟩ := h
  have h₇' := hsized h₇
  refine ⟨?_, ?_, ?_, ?_, ?_, ?_, ?_⟩ <;>
    simp only [hschema.blockRowCount, hschema.stripeMaxRowCount, hschema.tupleDescriptor,
      hschema.comparisonFunctionArray, hlength] <;> assumption

theorem length_blockDataArray_startStripe {st st' : TableWriteState}
    (h : startStripe st = some st') : st'.blockDataArray.length = st.blockDataArray.length := by
  unfold startStripe at h
  split at h
  · cases h
    rfl
  · simp only [Option.bind_eq_bind, Option.bind_eq_some, Option.pure_def,
      Option.some.injEq] at h
    obtain ⟨blockDataArray, hreset, rfl⟩ := h
    exact length_updateColumns hreset

theorem length_blockDataArray_serializeBlockData {st st' : TableWriteState}
    {blockIndex rowCount : Nat} (h : serializeBlockData k st blockIndex rowCount = some st') :
    st'.blockDataArray.length = st.blockDataArray.length := by
  obtain ⟨_, _, _, -, rfl, hlength, -⟩ := serializeBlockData_spec h
  exact hlength

theorem length_blockDataArray_addRow {st st' : TableWriteState} {row : List (Option Datum)}
    (h : addRow k st row = some st') : st'.blockDataArray.length = st.blockDataArray.length := by
  simp only [addRow, Option.bind_eq_bind, Option.bind_eq_some, Option.pure_def,
    Option.some.injEq] at h
  obtain ⟨_, -, _, -, blockDataArray, hdata, _, -, st₂, hblock, _, -, rfl⟩ := h
  have hlength : st₂.blockDataArray.length = blockDataArray.length := by
    split_ifs at hblock
    · exact length_blockDataArray_serializeBlockData hblock
    · cases hblock
      rfl
  rw [hlength, length_updateColumns hdata]

theorem blockDataArray_flushStripeBuffers {st : TableWriteState}
    {r : TableWriteState × StripeMetadata} (h : flushStripeBuffers g k st = some r) :
    r.1.blockDataArray = st.blockDataArray := by
  obtain ⟨_, hbuffers, hflush⟩ := Option.bind_eq_some.mp h
  obtain ⟨_, hskip, -⟩ := Option.bind_eq_some.mp hflush
  obtain ⟨_, _, _, hspec, -⟩ := flushStripeBuffers_spec hbuffers hskip
    (buffersSet_of_flushStripeBuffers h hbuffers hskip)
  rw [hspec] at h
  cases h
  rfl

theorem length_blockDataArray_flushStripe {st st' : TableWriteState}
    {stripeMetadata : StripeMetadata} (h : flushStripe g k st = some (st', stripeMetadata)) :
    st'.blockDataArray.length = st.blockDataArray.length := by
  obtain ⟨st₁, hlast, hflush⟩ := Option.bind_eq_some.mp h
  rw [show st'.blockDataArray = st₁.blockDataArray from blockDataArray_flushStripeBuffers hflush]
  unfold serializeLastBlock at hlast
  obtain ⟨stripeBuffers, -, hlast⟩ := Option.bind_eq_some.mp hlast
  dsimp only at hlast
  split_ifs at hlast
  · exact length_blockDataArray_serializeBlockData hlast
  · cases hlast
    rfl

theorem writable_startStripe {st st' : TableWriteState} (h : Writable st)
    (hstart : startStripe st = some st') : Writable st' :=
  h.of_step (sameSchema_startStripe hstart) (length_blockDataArray_startStripe hstart)
    (existsArraysSized_startStripe hstart)

theorem writable_addRow {st st' : TableWriteState} {row : List (Option Datum)} (h : Writable st)
    (hadd : addRow k st row = some st') : Writable st' := by
  obtain ⟨_, _, _, _, -, rfl, -, hsized⟩ := addRow_shape hadd
  exact h.of_step ⟨rfl, rfl, rfl, rfl, rfl⟩ (length_blockDataArray_addRow hadd) hsized

theorem writable_flushFullStripe {st st' : TableWriteState} {stripeBuffers : StripeBuffers}
    (h : Writable st) (hbuffers : st.stripeBuffers = some stripeBuffers)
    (hflush : flushFullStripe g k st = some st') : Writable st' := by
  refine h.of_step (sameSchema_flushFullStripe hbuffers hflush) ?_ fun hsized => ?_ <;>
    rcases flushFullStripe_cases hbuffers hflush with ⟨-, rfl⟩ | ⟨-, _, _, hstripe, rfl⟩
  · rfl
  · have hlength := length_blockDataArray_flushStripe hstripe
    exact hlength
  · exact hsized
  · obtain ⟨_, _, _, _, -, -, rfl, hP⟩ := flushStripe_effect hstripe
    exact @hP (fun existsArray => existsArray.length = st.tableFooter.blockRowCount) hsized

/-! ### Room in the open stripe -/

theorem stripeRoom_startStripe {st st' : TableWriteState} (h : Writable st)
    (hnone : st.stripeBuffers = none) (hstart : startStripe st = some st') :
    ∃ stripeBuffers stripeSkipList, st'.stripeBuffers = some stripeBuffers ∧
      st'.stripeSkipList = some stripeSkipList ∧ StripeRoom st' stripeBuffers stripeSkipList := by
  rcases startStripe_cases hstart with ⟨hsome, -⟩ | ⟨-, _, rfl, -⟩
  · simp [hnone] at hsome
  have hcount : (st.stripeMaxRowCount % 2 ^ 32 / st.tableFooter.blockRowCount + 1) % 2 ^ 32 =
      st.stripeMaxRowCount / st.tableFooter.blockRowCount + 1 := by
    rw [Nat.mod_eq_of_lt h.stripeMaxRowCount_lt, Nat.mod_eq_of_lt h.maxBlockCount_lt]
  refine ⟨_, _, rfl, rfl, fun c _ columnBuffers hcolumn => ?_, fun c _ nodes hnodes => ?_⟩
  · obtain ⟨-, rfl⟩ := List.getElem?_eq_some_iff.mp hcolumn
    simp only [createEmptyStripeBuffers, List.getElem_replicate, List.length_replicate, hcount]
    exact Nat.lt_succ_self _
  · obtain ⟨-, rfl⟩ := List.getElem?_eq_some_iff.mp hnodes
    simp only [createEmptyStripeSkipList, List.getElem_replicate, List.length_replicate, hcount]
    exact Nat.lt_succ_self _

section Room

variable {st : TableWriteState} {stripeBuffers : StripeBuffers} {stripeSkipList : StripeSkipList}
  {rows : List (List (Option Datum))} {row : List (Option Datum)}

/-- The middle of `CStoreWriteRow` keeps the room of the stripe: it only rewrites entries of its
arrays. -/
theorem stripeRoom_addRow {st' : TableWriteState} {stripeBuffers' : StripeBuffers}
    {stripeSkipList' : StripeSkipList} (h : StripeHolds k st stripeBuffers stripeSkipList rows)
    (hroom : StripeRoom st stripeBuffers stripeSkipList)
    (hbuffers : st.stripeBuffers = some stripeBuffers)
    (hskip : st.stripeSkipList = some stripeSkipList) (hadd : addRow k st row = some st')
    (hbuffers' : st'.stripeBuffers = some stripeBuffers')
    (hskip' : st'.stripeSkipList = some stripeSkipList') :
    StripeRoom st' stripeBuffers' stripeSkipList' := by
  simp only [addRow, hbuffers, hskip, h.rowCount, Option.bind_eq_bind, Option.some_bind,
    Option.bind_eq_some, Option.pure_def, Option.some.injEq] at hadd
  obtain ⟨blockDataArray, -, blockSkipNodeArray, hnodes, st₂, hblock, stripeBuffers₂,
    hbuffers₂, rfl⟩ := hadd
  cases hbuffers'
  -- the stripe's buffers after the row: frozen in one block, or as they were
  obtain ⟨hschema, hskip₂, hcolumns⟩ : SameSchema st st₂ ∧
      st₂.stripeSkipList = some { stripeSkipList with
        blockSkipNodeArray := blockSkipNodeArray
        blockCount := rows.length / st.tableFooter.blockRowCount + 1 } ∧
      ∀ c < st.tupleDescriptor.length, ∀ columnBuffers : ColumnBuffers,
        stripeBuffers₂.columnBuffersArray[c]? = some columnBuffers →
        st.stripeMaxRowCount / st.tableFooter.blockRowCount <
          columnBuffers.blockBuffersArray.length := by
    split_ifs at hblock
    · obtain ⟨_, _, _, hbuffers₁, rfl, -, hfrozen⟩ := serializeBlockData_spec hblock
      cases hbuffers₁
      cases hbuffers₂
      refine ⟨⟨rfl, rfl, rfl, rfl, rfl⟩, rfl, fun c hc columnBuffers hcolumn => ?_⟩
      obtain ⟨columnBuffers₀, _, _, hcolumn₀, -, -, -, hcolumn', -⟩ :=
        hfrozen c (h.columnCount ▸ hc)
      rw [hcolumn', Option.some.injEq] at hcolumn
      subst hcolumn
      rw [List.length_set]
      exact hroom.blockBuffers c hc columnBuffers₀ hcolumn₀
    · cases hblock
      cases hbuffers₂
      exact ⟨⟨rfl, rfl, rfl, rfl, rfl⟩, rfl, hroom.blockBuffers⟩
  rw [show st₂.stripeSkipList = _ from hskip₂, Option.some.injEq] at hskip'
  subst hskip'
  refine ⟨fun c hc columnBuffers hcolumn => ?_, fun c hc nodes hnodes' => ?_⟩ <;>
    change c < st₂.tupleDescriptor.length at hc <;>
    change st₂.stripeMaxRowCount / st₂.tableFooter.blockRowCount < _ <;>
    rw [hschema.tupleDescriptor] at hc <;>
    rw [hschema.stripeMaxRowCount, hschema.blockRowCount]
  · exact hcolumns c hc columnBuffers hcolumn
  · -- the row's skip node rewrites one node of the column
    obtain ⟨nodes₀, _, hnodes₀, hwrite, hnodes₁⟩ := updateColumns_entry hnodes hc
    obtain ⟨_, _, _, _, -, -, -, -, rfl⟩ := writeSkipNode_spec hwrite
    rw [hnodes₁, Option.some.injEq] at hnodes'
    subst hnodes'
    rw [List.length_set]
    exact hroom.nodes c hc nodes₀ hnodes₀

end Room

/-! ### Every step is defined -/

/-- A column loop whose every iteration is defined, followed by a step defined on its result,
is defined. -/
theorem isSome_updateColumns_bind {α β : Type} {body : Nat → α → Option α} {n : Nat}
    {xs : List α} {f : List α → Option β}
    (h : ∀ c < n, ∃ x, xs[c]? = some x ∧ (body c x).isSome)
    (hf : ∀ ys, (∀ c, ys[c]? = if c < n then xs[c]?.bind (body c) else xs[c]?) →
      (f ys).isSome) :
    ((updateColumns body n xs).bind f).isSome := by
  obtain ⟨ys, hys, -, hget⟩ := updateColumns_getElem? fun c hc =>
    let ⟨x, hx, hbody⟩ := h c hc
    ⟨x, _, hx, Option.some_get hbody |>.symm⟩
  rw [hys, Option.some_bind]
  exact hf ys hget

theorem isSome_bind_of_isSome {α β : Type} {x : Option α} {f : α → Option β} (hx : x.isSome)
    (hf : ∀ a, x = some a → (f a).isSome) : (x.bind f).isSome := by
  obtain ⟨a, rfl⟩ := Option.isSome_iff_exists.mp hx
  exact hf a rfl

theorem startStripe_isSome {st : TableWriteState} (h : Writable st) :
    (startStripe st).isSome := by
  unfold startStripe
  split
  · rfl
  · have hlength := h.blockDataArray_length
    exact isSome_updateColumns_bind (fun c hc => ⟨st.blockDataArray[c],
      List.getElem?_eq_getElem (by omega), rfl⟩) fun _ _ => rfl

theorem writeBlockData_isSome {st : TableWriteState} {row : List (Option Datum)}
    {blockRowIndex c : Nat} {blockData : ColumnBlockData} (hrow : c < row.length)
    (hc : c < st.tupleDescriptor.length) (hslot : blockRowIndex < blockData.existsArray.length) :
    (writeBlockData k st row blockRowIndex c blockData).isSome := by
  rw [writeBlockData, List.getElem?_eq_getElem hrow]
  cases row[c] <;> simp [List.getElem?_eq_getElem hc, setChecked_eq_some hslot]

theorem writeSkipNode_isSome {st : TableWriteState} {row : List (Option Datum)}
    {blockIndex c : Nat} {nodes : List ColumnBlockSkipNode} (hrow : c < row.length)
    (hc : c < st.tupleDescriptor.length) (hcmp : c < st.comparisonFunctionArray.length)
    (hnode : blockIndex < nodes.length) :
    (writeSkipNode k st row blockIndex c nodes).isSome := by
  simp [writeSkipNode, List.getElem?_eq_getElem hrow, List.getElem?_eq_getElem hc,
    List.getElem?_eq_getElem hcmp, List.getElem?_eq_getElem hnode]

/-- `SerializeBlockData` is defined when every column has block `blockIndex` and `rowCount`
flags, and the flags' byte count fits its `uint32`. -/
theorem serializeBlockData_isSome {st : TableWriteState} {stripeBuffers : StripeBuffers}
    {blockIndex rowCount : Nat} (hbuffers : st.stripeBuffers = some stripeBuffers)
    (hcolumns : ∀ c < stripeBuffers.columnCount, ∃ columnBuffers,
      stripeBuffers.columnBuffersArray[c]? = some columnBuffers ∧
      blockIndex < columnBuffers.blockBuffersArray.length)
    (hdata : ∀ c < stripeBuffers.columnCount, ∃ blockData,
      st.blockDataArray[c]? = some blockData ∧ rowCount ≤ blockData.existsArray.length)
    (hsize : rowCount + 7 < 2 ^ 32) :
    (serializeBlockData k st blockIndex rowCount).isSome := by
  have hentry : ∀ c < stripeBuffers.columnCount, ∃ columnBuffers blockData existsBuffer,
      stripeBuffers.columnBuffersArray[c]? = some columnBuffers ∧
      blockIndex < columnBuffers.blockBuffersArray.length ∧
      st.blockDataArray[c]? = some blockData ∧
      serializeBoolArray blockData.existsArray rowCount = some existsBuffer := fun c hc => by
    obtain ⟨columnBuffers, hcolumn, hlt⟩ := hcolumns c hc
    obtain ⟨blockData, hblockData, hlength⟩ := hdata c hc
    obtain ⟨existsBuffer, hserialize, -⟩ := serializeBoolArray_flags hlength hsize
    exact ⟨columnBuffers, blockData, existsBuffer, hcolumn, hlt, hblockData, hserialize⟩
  rw [serializeBlockData, hbuffers]
  simp only [Option.bind_eq_bind, Option.some_bind]
  -- the exists buffers, then the value buffers, then the reset
  refine isSome_updateColumns_bind (fun c hc => ?_) fun columnBuffersArray hget => ?_
  · obtain ⟨columnBuffers, blockData, existsBuffer, hcolumn, hlt, hblockData, hserialize⟩ :=
      hentry c hc
    exact ⟨columnBuffers, hcolumn, by simp [List.getElem?_eq_getElem hlt, hblockData, hserialize]⟩
  refine isSome_updateColumns_bind (fun c hc => ?_) fun _ _ => ?_
  · obtain ⟨columnBuffers, blockData, existsBuffer, hcolumn, hlt, hblockData, hserialize⟩ :=
      hentry c hc
    simp only [hget, if_pos hc, hcolumn, Option.some_bind, List.getElem?_eq_getElem hlt,
      hblockData, hserialize, Option.pure_def, Option.some.injEq, exists_eq_left']
    simp [List.getElem?_set_self hlt, hblockData]
  refine isSome_updateColumns_bind (fun c hc => ?_) fun _ _ => rfl
  obtain ⟨_, blockData, _, -, -, hblockData, -⟩ := hentry c hc
  exact ⟨blockData, hblockData, rfl⟩

section Room

variable {st : TableWriteState} {stripeBuffers : StripeBuffers} {stripeSkipList : StripeSkipList}
  {rows : List (List (Option Datum))}

/-- Every column of a writable state has an exists array of `blockRowCount` flags. -/
theorem Writable.blockData {c : Nat} (hw : Writable st)
    (h : StripeHolds k st stripeBuffers stripeSkipList rows) (hc : c < st.tupleDescriptor.length) :
    ∃ blockData, st.blockDataArray[c]? = some blockData ∧
      blockData.existsArray.length = st.tableFooter.blockRowCount := by
  obtain ⟨_, _, _, _, blockData, -, -, -, -, hblockData, -⟩ := h.columns c hc
  exact ⟨blockData, hblockData, hw.existsArraysSized blockData (List.getElem?_mem hblockData)⟩

/-- Block `blockIndex` has frozen buffers in every column when it is within the stripe. -/
theorem StripeRoom.columns {blockIndex : Nat} (hroom : StripeRoom st stripeBuffers stripeSkipList)
    (h : StripeHolds k st stripeBuffers stripeSkipList rows)
    (hblock : blockIndex ≤ st.stripeMaxRowCount / st.tableFooter.blockRowCount) :
    ∀ c < stripeBuffers.columnCount, ∃ columnBuffers,
      stripeBuffers.columnBuffersArray[c]? = some columnBuffers ∧
      blockIndex < columnBuffers.blockBuffersArray.length := fun c hc => by
  rw [h.columnCount] at hc
  obtain ⟨_, _, _, columnBuffers, _, -, -, -, hcolumn, -⟩ := h.columns c hc
  exact ⟨columnBuffers, hcolumn, by have := hroom.blockBuffers c hc columnBuffers hcolumn; omega⟩

/-- The middle of `CStoreWriteRow` is defined while the stripe has fewer than
`stripeMaxRowCount` rows: the row's flag and skip node go to a block the stripe has room for. -/
theorem addRow_isSome {row : List (Option Datum)} (hw : Writable st)
    (h : StripeHolds k st stripeBuffers stripeSkipList rows)
    (hroom : StripeRoom st stripeBuffers stripeSkipList)
    (hbuffers : st.stripeBuffers = some stripeBuffers)
    (hskip : st.stripeSkipList = some stripeSkipList) (hrows : rows.length ≤ st.stripeMaxRowCount)
    (hrow : st.tupleDescriptor.length ≤ row.length) : (addRow k st row).isSome := by
  have hslot := Nat.mod_lt rows.length hw.blockRowCount_pos
  have hblock : rows.length / st.tableFooter.blockRowCount ≤
      st.stripeMaxRowCount / st.tableFooter.blockRowCount := Nat.div_le_div_right hrows
  have hwrites : ∀ c < st.tupleDescriptor.length, ∃ blockData blockData',
      st.blockDataArray[c]? = some blockData ∧
      writeBlockData k st row (rows.length % st.tableFooter.blockRowCount) c blockData =
        some blockData' ∧ blockData'.existsArray.length = st.tableFooter.blockRowCount :=
    fun c hc => by
      obtain ⟨blockData, hblockData, hlength⟩ := hw.blockData h hc
      obtain ⟨blockData', hwrite⟩ : ∃ blockData', writeBlockData k st row
          (rows.length % st.tableFooter.blockRowCount) c blockData = some blockData' :=
        Option.isSome_iff_exists.mp (writeBlockData_isSome (by omega) hc (hlength ▸ hslot))
      exact ⟨blockData, blockData', hblockData, hwrite,
        (length_existsArray_writeBlockData hwrite).trans hlength⟩
  simp only [addRow, hbuffers, hskip, h.rowCount, Option.bind_eq_bind, Option.some_bind]
  refine isSome_updateColumns_bind (fun c hc => ?_) fun blockDataArray hget => ?_
  · obtain ⟨blockData, _, hblockData, hwrite, -⟩ := hwrites c hc
    exact ⟨blockData, hblockData, by rw [hwrite]; rfl⟩
  refine isSome_updateColumns_bind (fun c hc => ?_) fun _ _ => ?_
  · obtain ⟨_, _, nodes, _, _, -, -, hnodes, -⟩ := h.columns c hc
    exact ⟨nodes, hnodes, writeSkipNode_isSome (by omega) hc (by have := hw.length_le; omega)
      (by have := hroom.nodes c hc nodes hnodes; omega)⟩
  split_ifs
  · -- the row fills its block, which is frozen
    refine isSome_bind_of_isSome (serializeBlockData_isSome rfl (hroom.columns h hblock)
      (fun c hc => ?_) (by have := hw.blockRowCount_lt; omega)) fun st₃ hfreeze => ?_
    · rw [h.columnCount] at hc
      obtain ⟨_, blockData', hblockData, hwrite, hlength⟩ := hwrites c hc
      exact ⟨blockData', by simp only [hget, if_pos hc, hblockData, Option.some_bind, hwrite],
        hlength.ge⟩
    · obtain ⟨_, _, _, -, rfl, -⟩ := serializeBlockData_spec hfreeze
      rfl
  · simp [hbuffers]

/-- The start of `FlushStripe` is defined on a stripe of up to `stripeMaxRowCount + 1` rows: a
partial last block is one of the blocks the stripe has room for. -/
theorem serializeLastBlock_isSome (hw : Writable st)
    (h : StripeHolds k st stripeBuffers stripeSkipList rows)
    (hroom : StripeRoom st stripeBuffers stripeSkipList)
    (hbuffers : st.stripeBuffers = some stripeBuffers)
    (hrows : rows.length ≤ st.stripeMaxRowCount + 1) : (serializeLastBlock k st).isSome := by
  have hpos := hw.blockRowCount_pos
  simp only [serializeLastBlock, hbuffers, Option.bind_eq_bind, Option.some_bind, h.rowCount,
    if_neg (Nat.pos_iff_ne_zero.mp hpos)]
  split_ifs with hpartial
  · -- a partial block is never past the stripe's last
    have hblock : rows.length / st.tableFooter.blockRowCount ≤
        st.stripeMaxRowCount / st.tableFooter.blockRowCount := by
      rcases Nat.lt_or_ge rows.length (st.stripeMaxRowCount + 1) with hlt | hge
      · exact Nat.div_le_div_right (Nat.lt_succ_iff.mp hlt)
      · have hlength : rows.length = st.stripeMaxRowCount + 1 := by omega
        rw [hlength] at hpartial ⊢
        rw [Nat.succ_div_of_not_dvd (by rw [Nat.dvd_iff_mod_eq_zero]; omega)]
    refine serializeBlockData_isSome hbuffers (hroom.columns h hblock) (fun c hc => ?_)
      (by have := hw.blockRowCount_lt; have := Nat.mod_lt rows.length hpos; omega)
    obtain ⟨blockData, hblockData, hlength⟩ := hw.blockData h (h.columnCount ▸ hc)
    exact ⟨blockData, hblockData, by rw [hlength]; exact (Nat.mod_lt _ hpos).le⟩
  · rfl

/-- `FlushStripe` is defined on a stripe of up to `stripeMaxRowCount + 1` rows. -/
theorem flushStripe_isSome (hw : Writable st)
    (h : StripeHolds k st stripeBuffers stripeSkipList rows)
    (hroom : StripeRoom st stripeBuffers stripeSkipList)
    (hbuffers : st.stripeBuffers = some stripeBuffers)
    (hskip : st.stripeSkipList = some stripeSkipList)
    (hrows : rows.length ≤ st.stripeMaxRowCount + 1) : (flushStripe g k st).isSome := by
  obtain ⟨st₁, hlast⟩ := Option.isSome_iff_exists.mp
    (serializeLastBlock_isSome hw h hroom hbuffers hrows)
  obtain ⟨stripeBuffers₁, blockDataArray, hst₁, hfrozen⟩ :=
    stripeFrozen_serializeLastBlock h hbuffers hlast
  obtain ⟨_, _, _, hspec, -⟩ := flushStripeBuffers_spec (g := g) (by rw [hst₁])
    (by rw [hst₁]; exact hskip) hfrozen.buffersSet
  rw [flushStripe, hlast, Option.bind_eq_bind, Option.some_bind, hspec]
  rfl

end Room

/-! ### A load -/

section Load

variable {st : TableWriteState} {rows : List (List (Option Datum))}

/-- After the opening of `CStoreWriteRow`, a stripe is open, holds the rows and has room for
the stripe's blocks. -/
theorem CanWrite.startStripe {st₁ : TableWriteState} (h : CanWrite k st rows)
    (hstart : startStripe st = some st₁) :
    ∃ stripeBuffers stripeSkipList, st₁.stripeBuffers = some stripeBuffers ∧
      st₁.stripeSkipList = some stripeSkipList ∧
      StripeHolds k st₁ stripeBuffers stripeSkipList rows ∧
      StripeRoom st₁ stripeBuffers stripeSkipList ∧ rows.length ≤ st₁.stripeMaxRowCount := by
  obtain ⟨hw, ⟨hnone, rfl⟩ | ⟨hlt, stripeBuffers, stripeSkipList, hbuffers, hskip, hholds,
    hroom⟩⟩ := h
  · obtain ⟨stripeBuffers, stripeSkipList, hbuffers, hskip, hholds⟩ :=
      stripeHolds_startStripe hnone hw.blockRowCount_pos hw.length_le hstart
    obtain ⟨_, _, hbuffers', hskip', hroom⟩ := stripeRoom_startStripe hw hnone hstart
    rw [hbuffers, Option.some.injEq] at hbuffers'
    rw [hskip, Option.some.injEq] at hskip'
    subst hbuffers' hskip'
    exact ⟨stripeBuffers, stripeSkipList, hbuffers, hskip, hholds, hroom, Nat.zero_le _⟩
  · rcases startStripe_cases hstart with ⟨-, rfl⟩ | ⟨hnone, -⟩
    · exact ⟨stripeBuffers, stripeSkipList, hbuffers, hskip, hholds, hroom, hlt.le⟩
    · simp [hnone] at hbuffers

/-- The end of `CStoreWriteRow` is defined on a stripe of up to `stripeMaxRowCount + 1` rows. -/
theorem flushFullStripe_isSome {stripeBuffers : StripeBuffers} {stripeSkipList : StripeSkipList}
    (hw : Writable st) (h : StripeHolds k st stripeBuffers stripeSkipList rows)
    (hroom : StripeRoom st stripeBuffers stripeSkipList)
    (hbuffers : st.stripeBuffers = some stripeBuffers)
    (hskip : st.stripeSkipList = some stripeSkipList)
    (hrows : rows.length ≤ st.stripeMaxRowCount + 1) : (flushFullStripe g k st).isSome := by
  simp only [flushFullStripe, hbuffers]
  split_ifs
  · obtain ⟨_, hstripe⟩ := Option.isSome_iff_exists.mp
      (flushStripe_isSome (g := g) hw h hroom hbuffers hskip hrows)
    simp [hstripe]
  · rfl

/-- `CStoreWriteRow` stays within its arrays on a row that has a value for every column, and
the state it leaves can take the next row. -/
theorem cstoreWriteRow_canWrite {row : List (Option Datum)} (h : CanWrite k st rows)
    (hrow : st.tupleDescriptor.length ≤ row.length) :
    ∃ st' rows', cstoreWriteRow g k st row = some st' ∧ SameSchema st st' ∧
      CanWrite k st' rows' := by
  have hw := h.1
  obtain ⟨st₁, hstart⟩ := Option.isSome_iff_exists.mp (startStripe_isSome hw)
  have hschema₁ := sameSchema_startStripe hstart
  have hw₁ := writable_startStripe hw hstart
  obtain ⟨stripeBuffers, stripeSkipList, hbuffers, hskip, hholds, hroom, hrows⟩ :=
    h.startStripe hstart
  -- the row joins the stripe
  obtain ⟨st₂, hadd⟩ := Option.isSome_iff_exists.mp (addRow_isSome hw₁ hholds hroom hbuffers
    hskip hrows (hschema₁.tupleDescriptor ▸ hrow))
  obtain ⟨stripeBuffers₂, stripeSkipList₂, hbuffers₂, hskip₂, hholds₂⟩ :=
    stripeHolds_addRow hholds hbuffers hskip hadd
  have hroom₂ := stripeRoom_addRow hholds hroom hbuffers hskip hadd hbuffers₂ hskip₂
  have hschema₂ := sameSchema_addRow hadd
  have hw₂ := writable_addRow hw₁ hadd
  have hlength : (rows ++ [row]).length = rows.length + 1 := by
    rw [List.length_append, List.length_singleton]
  -- a full stripe is flushed
  obtain ⟨st₃, hflush⟩ := Option.isSome_iff_exists.mp (flushFullStripe_isSome (g := g) hw₂ hholds₂
    hroom₂ hbuffers₂ hskip₂ (by rw [hlength, hschema₂.stripeMaxRowCount]; omega))
  have hrun : cstoreWriteRow g k st row = some st₃ := by
    simp only [cstoreWriteRow, if_neg (Nat.pos_iff_ne_zero.mp hw.blockRowCount_pos), hstart, hadd,
      hflush, Option.bind_eq_bind, Option.some_bind]
  have hschema := (hschema₁.trans hschema₂).trans (sameSchema_flushFullStripe hbuffers₂ hflush)
  have hw₃ := writable_flushFullStripe hw₂ hbuffers₂ hflush
  rcases flushFullStripe_cases hbuffers₂ hflush with ⟨hnot, rfl⟩ | ⟨-, _, _, -, rfl⟩
  · refine ⟨_, rows ++ [row], hrun, hschema, hw₃,
      Or.inr ⟨?_, stripeBuffers₂, stripeSkipList₂, hbuffers₂, hskip₂, hholds₂, hroom₂⟩⟩
    rw [hholds₂.rowCount, hlength] at hnot
    rw [hlength]
    omega
  · exact ⟨_, [], hrun, hschema, hw₃, Or.inl ⟨rfl, rfl⟩⟩

/-- A run of `CStoreWriteRow` over rows that have a value for every column stays within its
arrays. -/
theorem cstoreWriteRows_canWrite {rest : List (List (Option Datum))} (h : CanWrite k st rows)
    (hrest : ∀ row ∈ rest, st.tupleDescriptor.length ≤ row.length) :
    ∃ st' rows', cstoreWriteRows g k st rest = some st' ∧ SameSchema st st' ∧
      CanWrite k st' rows' := by
  induction rest generalizing st rows with
  | nil => exact ⟨st, rows, rfl, SameSchema.refl st, h⟩
  | cons row rest ih =>
    obtain ⟨st₁, rows₁, hrow, hschema₁, h₁⟩ :=
      cstoreWriteRow_canWrite (g := g) h (hrest row (List.mem_cons_self _ _))
    obtain ⟨st', rows', hrun, hschema, h'⟩ := ih h₁ fun row' hrow' =>
      hschema₁.tupleDescriptor ▸ hrest row' (List.mem_cons_of_mem _ hrow')
    refine ⟨st', rows', ?_, hschema₁.trans hschema, h'⟩
    rw [cstoreWriteRows, List.foldlM_cons, hrow, Option.bind_eq_bind, Option.some_bind]
    exact hrun

/-- The last stripe of a state that can take a row is flushed. -/
theorem flushLastStripe_isSome (h : CanWrite k st rows) : (flushLastStripe g k st).isSome := by
  rcases h with ⟨hw, ⟨hnone, -⟩ | ⟨hlt, _, _, hbuffers, hskip, hholds, hroom⟩⟩
  · simp [flushLastStripe, hnone]
  · obtain ⟨_, hstripe⟩ := Option.isSome_iff_exists.mp (flushStripe_isSome (g := g) hw hholds hroom
      hbuffers hskip (by omega))
    simp [flushLastStripe, hbuffers, hstripe]

/-- `CStoreBeginWrite` leaves a state that can take a row when the footer's block row count is
the session's and the counts fit their `uint32`s. -/
theorem canWrite_beginSession {relation : Relation} {session : WriteSession}
    (hblockRowCount : (beginSession g k relation session).tableFooter.blockRowCount =
      session.blockRowCount)
    (hpos : 0 < session.blockRowCount) (hsize : session.blockRowCount + 7 < 2 ^ 32)
    (hstripe : session.stripeMaxRowCount < 2 ^ 32)
    (hblocks : session.stripeMaxRowCount / session.blockRowCount + 1 < 2 ^ 32) :
    CanWrite k (beginSession g k relation session) [] := by
  refine ⟨⟨?_, ?_, hstripe, ?_, (List.length_map _ _).ge, (List.length_replicate _ _).ge, ?_⟩,
    Or.inl ⟨rfl, rfl⟩⟩ <;> rw [hblockRowCount]
  · exact hpos
  · exact hsize
  · exact hblocks
  · exact existsArraysSized_cstoreBeginWrite _ _ _ _ _

end Load

/-- In a load whose footer's block row count is the session's, whose counts fit their `uint32`s
and whose rows have a value for every column, no access of `CStoreWriteRow` to a row, nor of
the `FlushStripe` of the last stripe, goes past the end of an array. -/
theorem abandonedSession_isSome {relation : Relation} {session : WriteSession}
    (hblockRowCount : (beginSession g k relation session).tableFooter.blockRowCount =
      session.blockRowCount)
    (hpos : 0 < session.blockRowCount) (hsize : session.blockRowCount + 7 < 2 ^ 32)
    (hstripe : session.stripeMaxRowCount < 2 ^ 32)
    (hblocks : session.stripeMaxRowCount / session.blockRowCount + 1 < 2 ^ 32)
    (hrows : ∀ row ∈ session.rows, session.tupleDescriptor.length ≤ row.length) :
    ∃ st, abandonedSession g k relation session = some st ∧ (flushLastStripe g k st).isSome := by
  obtain ⟨st, _, hrun, -, h⟩ := cstoreWriteRows_canWrite (g := g)
    (canWrite_beginSession hblockRowCount hpos hsize hstripe hblocks) hrows
  exact ⟨st, hrun, flushLastStripe_isSome h⟩

theorem abandonedSession_isSome_firstLoad :
    ∃ st, abandonedSession defaultGeometry exampleCodecs ⟨[], []⟩ firstLoad = some st ∧
      (flushLastStripe defaultGeometry exampleCodecs st).isSome :=
  abandonedSession_isSome rfl (by decide) (by decide) (by decide) (by decide)
    (by simp [firstLoad])

end CStoreWriter
