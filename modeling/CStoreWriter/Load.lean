import CStoreWriter.ReadBack

/-!
# The rows of a load

Within a write session the rows go into stripes of `stripeMaxRowCount` rows: `CStoreWriteRow`
flushes the open stripe as soon as it holds that many rows, and `CStoreEndWrite` flushes what
is left. So stripe `i` of a session holds the rows from `i * stripeMaxRowCount` on, in the
same arithmetic as blocks within a stripe (`blockRows`), and every one of them reads back as
those rows. Over complete sessions, the table a reader gets from the committed footer and the
data fork is every row the sessions wrote, in order.

## Main definitions

* `SameSchema` — what a session never changes: the columns, their comparison procedures, the
  compression type, the stripe and block row counts
* `SchemaSound` — what the read-back needs of the columns
* `OpenHolds` — no stripe is open and there are no rows, or the open stripe holds the rows
* `StripesFlushed`, `RunHolds` — the stripes a run of rows flushed, each read back as its rows,
  and the rest in the open stripe
* `TableReadsBack` — the committed stripes, read where the footer puts them, are the rows

## Main results

* `openHolds_cstoreWriteRow` — one row: it joins the open stripe, or completes and flushes it
* `cstoreWriteRows_runHolds` — after any rows, every stripe flushed reads back as its rows, and
  the open stripe holds the rest
* `cstoreWriteRows_minMax` — after any rows, every skip node of the open stripe counts its
  block's rows and bounds their values by the first minimal and first maximal one
* `readBack_completeSession` — every stripe a complete session commits lies where the committed
  footer says, and reads back as its stripe of the session's rows
* `completeRun_readBack` — after complete sessions, the table reads back as all their rows
* `abandonedSession_keepsTable` — a session that never ends leaves the table as it was
-/

namespace CStoreWriter

/-- What a session never changes: the columns and their comparison procedures, the compression
type, the stripe row count and the footer's block row count. -/
structure SameSchema (st st' : TableWriteState) : Prop where
  tupleDescriptor : st'.tupleDescriptor = st.tupleDescriptor
  comparisonFunctionArray : st'.comparisonFunctionArray = st.comparisonFunctionArray
  compressionType : st'.compressionType = st.compressionType
  stripeMaxRowCount : st'.stripeMaxRowCount = st.stripeMaxRowCount
  blockRowCount : st'.tableFooter.blockRowCount = st.tableFooter.blockRowCount

/-- What the read-back needs of a state's columns: their comparison procedures order as B-tree
procedures do, every column has an entry in the comparison array, and a block's exists flags fit
the `uint32` byte count of `SerializeBoolArray`. -/
structure SchemaSound (st : TableWriteState) : Prop where
  comparisonsOrder : ComparisonsOrder st.tupleDescriptor st.comparisonFunctionArray
  length_le : st.tupleDescriptor.length ≤ st.comparisonFunctionArray.length
  blockRowCount_lt : st.tableFooter.blockRowCount + 7 < 2 ^ 32

variable (k : Codecs)

/-- No stripe is open and there are no rows, or the open stripe holds the rows, of which there
is at least one. -/
def OpenHolds (st : TableWriteState) (rows : List (List (Option Datum))) : Prop :=
  (st.stripeBuffers = none ∧ rows = []) ∨
    (rows ≠ [] ∧ ∃ stripeBuffers stripeSkipList, st.stripeBuffers = some stripeBuffers ∧
      st.stripeSkipList = some stripeSkipList ∧
      StripeHolds k st stripeBuffers stripeSkipList rows)

/-- The stripes of `stripes`, with their metadata, read back as consecutive stripes of
`stripeMaxRowCount` of `rows`. -/
def StripesReadBack (decompress : List UInt8 → List UInt8) (st : TableWriteState)
    (stripes : List (List UInt8 × StripeMetadata)) (rows : List (List (Option Datum))) : Prop :=
  ∀ i stripe, stripes[i]? = some stripe →
    StripeReadsBack k decompress st.tupleDescriptor st.comparisonFunctionArray
      st.tableFooter.blockRowCount stripe.1 stripe.2 (blockRows st.stripeMaxRowCount i rows)

/-- From `st` to `st'` the schema was kept and the stripes `stripes` were flushed: their bytes
appended to the flushed stripes, their metadata to the footer, and they read back as
consecutive stripes of `rows`. -/
structure StripesFlushed (decompress : List UInt8 → List UInt8) (st st' : TableWriteState)
    (stripes : List (List UInt8 × StripeMetadata)) (rows : List (List (Option Datum))) :
    Prop where
  sameSchema : SameSchema st st'
  flushedStripes : st'.flushedStripes = st.flushedStripes ++ stripes.map Prod.fst
  stripeMetadataList : st'.tableFooter.stripeMetadataList =
    st.tableFooter.stripeMetadataList ++ stripes.map Prod.snd
  readBack : StripesReadBack k decompress st stripes rows

/-- What a run of `CStoreWriteRow` over rows did from `st` to `st'`: one stripe was flushed per
`stripeMaxRowCount` of `rows`, and the open stripe holds the rows after them. -/
structure RunHolds (decompress : List UInt8 → List UInt8) (st st' : TableWriteState)
    (stripes : List (List UInt8 × StripeMetadata)) (rows : List (List (Option Datum)))
    extends StripesFlushed k decompress st st' stripes rows : Prop where
  length_stripes : stripes.length = rows.length / st.stripeMaxRowCount
  openHolds : OpenHolds k st' (blockRows st.stripeMaxRowCount stripes.length rows)

variable {k}

/-! ### What a session keeps -/

theorem SameSchema.refl (st : TableWriteState) : SameSchema st st := ⟨rfl, rfl, rfl, rfl, rfl⟩

theorem SameSchema.trans {st st' st'' : TableWriteState} (h : SameSchema st st')
    (h' : SameSchema st' st'') : SameSchema st st'' :=
  ⟨h'.tupleDescriptor.trans h.tupleDescriptor,
    h'.comparisonFunctionArray.trans h.comparisonFunctionArray,
    h'.compressionType.trans h.compressionType, h'.stripeMaxRowCount.trans h.stripeMaxRowCount,
    h'.blockRowCount.trans h.blockRowCount⟩

theorem SchemaSound.of_sameSchema {st st' : TableWriteState} (h : SameSchema st st')
    (hsound : SchemaSound st) : SchemaSound st' := by
  obtain ⟨hcmp, hlength, hsize⟩ := hsound
  refine ⟨?_, ?_, ?_⟩ <;>
    simp only [h.tupleDescriptor, h.comparisonFunctionArray, h.blockRowCount] <;> assumption

theorem stripesReadBack_of_sameSchema {decompress : List UInt8 → List UInt8}
    {st st' : TableWriteState} (h : SameSchema st st') :
    StripesReadBack k decompress st' = StripesReadBack k decompress st := by
  funext stripes rows
  simp only [StripesReadBack, h.tupleDescriptor, h.comparisonFunctionArray, h.blockRowCount,
    h.stripeMaxRowCount]

theorem RowsTyped.mono {varsizeAny : List UInt8 → Nat} {tupleDescriptor : List Attribute}
    {rows rows' : List (List (Option Datum))} (h : RowsTyped varsizeAny tupleDescriptor rows)
    (hsub : rows' ⊆ rows) : RowsTyped varsizeAny tupleDescriptor rows' :=
  fun row hrow => h row (hsub hrow)

theorem sameSchema_startStripe {st st' : TableWriteState} (h : startStripe st = some st') :
    SameSchema st st' := by
  rcases startStripe_cases h with ⟨-, rfl⟩ | ⟨-, _, rfl, -⟩ <;>
    exact ⟨rfl, rfl, rfl, rfl, rfl⟩

theorem sameSchema_addRow {st st' : TableWriteState} {row : List (Option Datum)}
    (h : addRow k st row = some st') : SameSchema st st' := by
  obtain ⟨_, _, _, _, -, rfl, -⟩ := addRow_shape h
  exact ⟨rfl, rfl, rfl, rfl, rfl⟩

theorem sameSchema_flushFullStripe {g : PageGeometry} {st st' : TableWriteState}
    {stripeBuffers : StripeBuffers} (hbuffers : st.stripeBuffers = some stripeBuffers)
    (h : flushFullStripe g k st = some st') : SameSchema st st' := by
  rcases flushFullStripe_cases hbuffers h with ⟨-, rfl⟩ | ⟨-, _, _, hflush, rfl⟩
  · exact SameSchema.refl _
  · obtain ⟨_, _, _, _, -, -, rfl, -⟩ := flushStripe_effect hflush
    exact ⟨rfl, rfl, rfl, rfl, rfl⟩

/-! ### One row -/

/-- **A row joins the open stripe.** When the open stripe holds `rows`, the opening and
`addRow` of `CStoreWriteRow` leave a state with an open stripe holding `rows` and the row, the
flushed stripes and the footer as they were, from which the end of `CStoreWriteRow` gives the
state it returns. -/
theorem cstoreWriteRow_joins {g : PageGeometry} {st st' : TableWriteState}
    {rows : List (List (Option Datum))} {row : List (Option Datum)} (hsound : SchemaSound st)
    (h : OpenHolds k st rows) (hrow : cstoreWriteRow g k st row = some st') :
    ∃ st₂ stripeBuffers stripeSkipList, SameSchema st st₂ ∧
      st₂.stripeBuffers = some stripeBuffers ∧ st₂.stripeSkipList = some stripeSkipList ∧
      StripeHolds k st₂ stripeBuffers stripeSkipList (rows ++ [row]) ∧
      st₂.flushedStripes = st.flushedStripes ∧ st₂.tableFooter = st.tableFooter ∧
      flushFullStripe g k st₂ = some st' := by
  unfold cstoreWriteRow at hrow
  split_ifs at hrow with hzero
  obtain ⟨st₂, h₂, hflush⟩ := Option.bind_eq_some.mp hrow
  obtain ⟨st₁, hstart, hadd⟩ := Option.bind_eq_some.mp h₂
  -- after the opening, a stripe is open and holds `rows`
  obtain ⟨stripeBuffers, stripeSkipList, hbuffers, hskip, hholds, hframe₁⟩ :
      ∃ stripeBuffers stripeSkipList, st₁.stripeBuffers = some stripeBuffers ∧
        st₁.stripeSkipList = some stripeSkipList ∧
        StripeHolds k st₁ stripeBuffers stripeSkipList rows ∧
        st₁.flushedStripes = st.flushedStripes ∧ st₁.tableFooter = st.tableFooter := by
    rcases h with ⟨hnone, rfl⟩ | ⟨-, stripeBuffers, stripeSkipList, hbuffers, hskip, hholds⟩
    · obtain ⟨stripeBuffers, stripeSkipList, hbuffers, hskip, hholds⟩ :=
        stripeHolds_startStripe hnone (Nat.pos_of_ne_zero hzero) hsound.length_le hstart
      rcases startStripe_cases hstart with ⟨hsome, -⟩ | ⟨-, _, rfl, -⟩
      · simp [hnone] at hsome
      · exact ⟨stripeBuffers, stripeSkipList, hbuffers, hskip, hholds, rfl, rfl⟩
    · rcases startStripe_cases hstart with ⟨-, rfl⟩ | ⟨hnone, -⟩
      · exact ⟨stripeBuffers, stripeSkipList, hbuffers, hskip, hholds, rfl, rfl⟩
      · simp [hnone] at hbuffers
  -- the row joins the stripe
  obtain ⟨stripeBuffers₂, stripeSkipList₂, hbuffers₂, hskip₂, hholds₂⟩ :=
    stripeHolds_addRow hholds hbuffers hskip hadd
  obtain ⟨_, _, _, _, -, hst₂, -⟩ := addRow_shape hadd
  refine ⟨st₂, stripeBuffers₂, stripeSkipList₂,
    (sameSchema_startStripe hstart).trans (sameSchema_addRow hadd), hbuffers₂, hskip₂, hholds₂,
    ?_, ?_, hflush⟩ <;> rw [hst₂]
  exacts [hframe₁.1, hframe₁.2]

/-- **The end of a row.** On an open stripe holding `rows`, at most `stripeMaxRowCount`, the end
of `CStoreWriteRow` keeps a stripe that is not full open, and flushes a full one, closes it and
appends its metadata to the footer. -/
theorem openHolds_flushFullStripe {g : PageGeometry} {st st' : TableWriteState}
    {stripeBuffers : StripeBuffers} {stripeSkipList : StripeSkipList}
    {rows : List (List (Option Datum))} (hbuffers : st.stripeBuffers = some stripeBuffers)
    (hskip : st.stripeSkipList = some stripeSkipList)
    (hholds : StripeHolds k st stripeBuffers stripeSkipList rows) (hne : rows ≠ [])
    (hrows : rows.length ≤ st.stripeMaxRowCount) (h : flushFullStripe g k st = some st') :
    SameSchema st st' ∧
      ((rows.length < st.stripeMaxRowCount ∧ OpenHolds k st' rows ∧ st' = st) ∨
        (rows.length = st.stripeMaxRowCount ∧ OpenHolds k st' [] ∧
          ∃ st₃ stripeMetadata, flushStripe g k st = some (st₃, stripeMetadata) ∧
            st'.flushedStripes = st₃.flushedStripes ∧
            st'.tableFooter = appendStripeMetadata st₃.tableFooter stripeMetadata)) := by
  have hcount := hholds.rowCount
  refine ⟨sameSchema_flushFullStripe hbuffers h, ?_⟩
  rcases flushFullStripe_cases hbuffers h with ⟨hnot, rfl⟩ |
    ⟨hfull, st₃, stripeMetadata, hflush, rfl⟩
  · exact Or.inl ⟨by omega, Or.inr ⟨hne, _, _, hbuffers, hskip, hholds⟩, rfl⟩
  · exact Or.inr ⟨by omega, Or.inl ⟨rfl, rfl⟩, st₃, stripeMetadata, hflush, rfl, rfl⟩

section Row

variable {g : PageGeometry} {decompress : List UInt8 → List UInt8}
  (hdecompress : ∀ buffer compressionType compressed,
    k.compressBuffer buffer compressionType = some compressed → decompress compressed = buffer)
include hdecompress

/-- **One row of a session.** When the open stripe holds `rows`, fewer than
`stripeMaxRowCount`, a row that `CStoreWriteRow` writes joins them; when it completes the
stripe, the stripe is flushed, reads back as `rows` and the row, and its metadata is appended
to the footer. -/
theorem openHolds_cstoreWriteRow {st st' : TableWriteState} {rows : List (List (Option Datum))}
    {row : List (Option Datum)}
    (hsound : SchemaSound st) (htyped : RowsTyped k.varsizeAny st.tupleDescriptor (rows ++ [row]))
    (h : OpenHolds k st rows) (hrows : rows.length < st.stripeMaxRowCount)
    (hrow : cstoreWriteRow g k st row = some st') :
    SameSchema st st' ∧
      ((rows.length + 1 < st.stripeMaxRowCount ∧ OpenHolds k st' (rows ++ [row]) ∧
          st'.flushedStripes = st.flushedStripes ∧ st'.tableFooter = st.tableFooter) ∨
        (rows.length + 1 = st.stripeMaxRowCount ∧ OpenHolds k st' [] ∧
          ∃ stripe stripeMetadata, st'.flushedStripes = st.flushedStripes ++ [stripe] ∧
            st'.tableFooter = appendStripeMetadata st.tableFooter stripeMetadata ∧
            StripeReadsBack k decompress st.tupleDescriptor st.comparisonFunctionArray
              st.tableFooter.blockRowCount stripe stripeMetadata (rows ++ [row]))) := by
  obtain ⟨st₂, stripeBuffers₂, stripeSkipList₂, hschema₂, hbuffers₂, hskip₂, hholds₂, hflushed₂,
    hfooter₂, hflush⟩ := cstoreWriteRow_joins hsound h hrow
  have hlength : (rows ++ [row]).length = rows.length + 1 := by
    rw [List.length_append, List.length_singleton]
  rw [← hschema₂.stripeMaxRowCount, ← hlength]
  obtain ⟨hschema₃, hcase⟩ := openHolds_flushFullStripe hbuffers₂ hskip₂ hholds₂
    (List.append_ne_nil_of_right_ne_nil _ (List.cons_ne_nil _ _))
    (by rw [hlength, hschema₂.stripeMaxRowCount]; omega) hflush
  refine ⟨hschema₂.trans hschema₃, ?_⟩
  rcases hcase with ⟨hlt, hopen, rfl⟩ | ⟨hfull, hopen, st₃, stripeMetadata, hflushS, hflushed,
    hfooter⟩
  · exact Or.inl ⟨hlt, hopen, hflushed₂, hfooter₂⟩
  · -- the stripe is full, and flushed
    obtain ⟨_, _, _, _, -, -, hst₃, -⟩ := flushStripe_effect hflushS
    have hsound₂ := hsound.of_sameSchema hschema₂
    obtain ⟨stripe, hflushedS, hread⟩ := flushStripe_readBack hdecompress
      hsound₂.comparisonsOrder (hschema₂.tupleDescriptor ▸ htyped) hsound₂.blockRowCount_lt
      hholds₂ hbuffers₂ hskip₂ hflushS
    refine Or.inr ⟨hfull, hopen, stripe, stripeMetadata, by rw [hflushed, hflushedS, hflushed₂],
      by rw [hfooter, hst₃, hfooter₂], ?_⟩
    rwa [hschema₂.tupleDescriptor, hschema₂.comparisonFunctionArray,
      hschema₂.blockRowCount] at hread

end Row

/-! ### A run of rows -/

section Run

variable {decompress : List UInt8 → List UInt8}

theorem runHolds_nil {st : TableWriteState} {pre : List (List (Option Datum))}
    (h : OpenHolds k st pre) (hpre : pre.length < st.stripeMaxRowCount) :
    RunHolds k decompress st st [] pre :=
  ⟨⟨SameSchema.refl st, by simp, by simp, fun _ _ h => by simp at h⟩,
    (Nat.div_eq_of_lt hpre).symm, by rwa [List.length_nil, blockRows_zero_of_lt hpre]⟩

/-- A run from a state that kept the schema, the flushed stripes and the footer of `st` is a run
from `st`. -/
theorem RunHolds.of_start {st st₁ st' : TableWriteState}
    {stripes : List (List UInt8 × StripeMetadata)} {rows : List (List (Option Datum))}
    (h : SameSchema st st₁) (hflushed : st₁.flushedStripes = st.flushedStripes)
    (hfooter : st₁.tableFooter = st.tableFooter)
    (hrun : RunHolds k decompress st₁ st' stripes rows) :
    RunHolds k decompress st st' stripes rows := by
  obtain ⟨⟨hschema, hflushed', hlist, hread⟩, hlength, hopen⟩ := hrun
  rw [stripesReadBack_of_sameSchema h] at hread
  rw [h.stripeMaxRowCount] at hlength hopen
  exact ⟨⟨h.trans hschema, by rw [hflushed', hflushed], by rw [hlist, hfooter], hread⟩,
    hlength, hopen⟩

/-- A run from a state that flushed one full stripe of `first` more than `st` is a run from `st`
over `first` and then its rows. -/
theorem RunHolds.of_flush {st st₁ st' : TableWriteState} {bytes : List UInt8}
    {stripeMetadata : StripeMetadata} {stripes : List (List UInt8 × StripeMetadata)}
    {first rows : List (List (Option Datum))} (hpos : 0 < st.stripeMaxRowCount)
    (h : SameSchema st st₁) (hfirst : first.length = st.stripeMaxRowCount)
    (hflushed : st₁.flushedStripes = st.flushedStripes ++ [bytes])
    (hlist : st₁.tableFooter.stripeMetadataList =
      st.tableFooter.stripeMetadataList ++ [stripeMetadata])
    (hread : StripeReadsBack k decompress st.tupleDescriptor st.comparisonFunctionArray
      st.tableFooter.blockRowCount bytes stripeMetadata first)
    (hrun : RunHolds k decompress st₁ st' stripes rows) :
    RunHolds k decompress st st' ((bytes, stripeMetadata) :: stripes) (first ++ rows) := by
  obtain ⟨⟨hschema, hflushed', hlist', hread'⟩, hlength, hopen⟩ := hrun
  rw [stripesReadBack_of_sameSchema h] at hread'
  rw [h.stripeMaxRowCount] at hlength hopen
  refine ⟨⟨h.trans hschema, by simp [hflushed', hflushed], by simp [hlist', hlist],
    fun i stripe hstripe => ?_⟩, ?_, ?_⟩
  · cases i with
    | zero =>
      rw [List.getElem?_cons_zero, Option.some.injEq] at hstripe
      subst hstripe
      rwa [blockRows_zero_append hfirst]
    | succ i =>
      rw [List.getElem?_cons_succ] at hstripe
      rw [blockRows_succ_append hfirst]
      exact hread' i stripe hstripe
  · rw [List.length_cons, hlength, List.length_append, hfirst,
      Nat.add_comm st.stripeMaxRowCount, Nat.add_div_right _ hpos]
  · rwa [List.length_cons, blockRows_succ_append hfirst]

/-- **The open stripe along a run.** From a state whose open stripe holds `pre`, fewer than
`stripeMaxRowCount` rows, `CStoreWriteRow` over `rows` keeps the schema and leaves the open
stripe holding the rows of `pre ++ rows` after its last full stripe. -/
theorem cstoreWriteRows_openHolds {g : PageGeometry} {st st' : TableWriteState}
    {pre rows : List (List (Option Datum))} (hsound : SchemaSound st)
    (h : OpenHolds k st pre) (hpre : pre.length < st.stripeMaxRowCount)
    (hrows : cstoreWriteRows g k st rows = some st') :
    SameSchema st st' ∧ OpenHolds k st' (blockRows st.stripeMaxRowCount
      ((pre ++ rows).length / st.stripeMaxRowCount) (pre ++ rows)) := by
  induction rows generalizing st pre with
  | nil =>
    cases hrows
    rw [List.append_nil, Nat.div_eq_of_lt hpre, blockRows_zero_of_lt hpre]
    exact ⟨SameSchema.refl _, h⟩
  | cons row rest ih =>
    rw [cstoreWriteRows, List.foldlM_cons] at hrows
    obtain ⟨st₁, hrow, hrest⟩ := Option.bind_eq_some.mp hrows
    obtain ⟨st₂, _, _, hschema₂, hbuffers₂, hskip₂, hholds₂, -, -, hflush⟩ :=
      cstoreWriteRow_joins hsound h hrow
    have hlength : (pre ++ [row]).length = pre.length + 1 := by
      rw [List.length_append, List.length_singleton]
    obtain ⟨hschema₃, hcase⟩ := openHolds_flushFullStripe hbuffers₂ hskip₂ hholds₂
      (List.append_ne_nil_of_right_ne_nil _ (List.cons_ne_nil _ _))
      (by rw [hlength, hschema₂.stripeMaxRowCount]; omega) hflush
    have hschema₁ := hschema₂.trans hschema₃
    have hS := hschema₁.stripeMaxRowCount
    rw [hschema₂.stripeMaxRowCount] at hcase
    rw [List.append_cons]
    rcases hcase with ⟨hlt, hopen, -⟩ | ⟨hfull, hopen, -⟩
    · -- the row joins the open stripe
      obtain ⟨hschema, hopen'⟩ := ih (hsound.of_sameSchema hschema₁) hopen (hS ▸ hlt) hrest
      exact ⟨hschema₁.trans hschema, hS ▸ hopen'⟩
    · -- the row completes the stripe, which is flushed
      obtain ⟨hschema, hopen'⟩ := ih (hsound.of_sameSchema hschema₁) hopen
        (by rw [List.length_nil, hS]; omega) hrest
      rw [List.nil_append, hS] at hopen'
      rw [List.length_append, hfull, Nat.add_comm, Nat.add_div_right _ (by omega),
        blockRows_succ_append hfull]
      exact ⟨hschema₁.trans hschema, hopen'⟩

variable {g : PageGeometry}
  (hdecompress : ∀ buffer compressionType compressed,
    k.compressBuffer buffer compressionType = some compressed → decompress compressed = buffer)
include hdecompress

/-- **A run of rows.** From a state whose open stripe holds `pre`, fewer than
`stripeMaxRowCount` rows, `CStoreWriteRow` over `rows` flushes one stripe per
`stripeMaxRowCount` rows of `pre ++ rows`, each reading back as its rows, and leaves the rest
in the open stripe. -/
theorem cstoreWriteRows_runHolds {st st' : TableWriteState}
    {pre rows : List (List (Option Datum))} (hsound : SchemaSound st)
    (htyped : RowsTyped k.varsizeAny st.tupleDescriptor (pre ++ rows))
    (h : OpenHolds k st pre) (hpre : pre.length < st.stripeMaxRowCount)
    (hrows : cstoreWriteRows g k st rows = some st') :
    ∃ stripes, RunHolds k decompress st st' stripes (pre ++ rows) := by
  induction rows generalizing st pre with
  | nil =>
    cases hrows
    exact ⟨[], by rw [List.append_nil]; exact runHolds_nil h hpre⟩
  | cons row rest ih =>
    rw [cstoreWriteRows, List.foldlM_cons] at hrows
    obtain ⟨st₁, hrow, hrest⟩ := Option.bind_eq_some.mp hrows
    rw [List.append_cons] at htyped ⊢
    obtain ⟨hschema, hstep⟩ := openHolds_cstoreWriteRow hdecompress hsound
      (htyped.mono (List.subset_append_left _ _)) h hpre hrow
    have hsound₁ := hsound.of_sameSchema hschema
    rw [← hschema.tupleDescriptor] at htyped
    rcases hstep with ⟨hlt, hopen, hflushed, hfooter⟩ | ⟨hfull, hopen, bytes, stripeMetadata,
      hflushed, hfooter, hread⟩
    · -- the row joins the open stripe
      obtain ⟨stripes, hrun⟩ := ih hsound₁ htyped hopen
        (by rw [hschema.stripeMaxRowCount, List.length_append, List.length_singleton]; exact hlt)
        hrest
      exact ⟨stripes, hrun.of_start hschema hflushed hfooter⟩
    · -- the row completes the stripe, which is flushed
      obtain ⟨stripes, hrun⟩ := ih hsound₁ (htyped.mono (List.subset_append_right _ _)) hopen
        (by rw [List.length_nil, hschema.stripeMaxRowCount]; omega) hrest
      exact ⟨_, hrun.of_flush (by omega) hschema (by simp [hfull]) hflushed
        (by rw [hfooter, appendStripeMetadata_stripeMetadataList]) hread⟩

/-- **The last stripe.** After a run of rows, the flush at the start of `CStoreEndWrite` flushes
the open stripe, when there is one, as the stripe after the run's: in all, the rows went into
`stripeBlockCount stripeMaxRowCount` stripes, each reading back as its rows. -/
theorem flushLastStripe_stripesFlushed {st st₁ st₂ : TableWriteState}
    {stripes : List (List UInt8 × StripeMetadata)} {rows : List (List (Option Datum))}
    (hsound : SchemaSound st) (htyped : RowsTyped k.varsizeAny st.tupleDescriptor rows)
    (hpos : 0 < st.stripeMaxRowCount) (hrun : RunHolds k decompress st st₁ stripes rows)
    (hlast : flushLastStripe g k st₁ = some st₂) :
    ∃ stripes', stripes'.length = stripeBlockCount st.stripeMaxRowCount rows.length ∧
      StripesFlushed k decompress st st₂ stripes' rows := by
  obtain ⟨⟨hschema, hflushed, hlist, hread⟩, hlength, hopen⟩ := hrun
  have hcurrent := length_blockRows_current hpos rows
  rw [← hlength] at hcurrent
  unfold flushLastStripe at hlast
  split at hlast
  next stripeBuffers hsome =>
    -- a stripe is open: it is flushed after the others
    rcases hopen with ⟨hnone, -⟩ |
      ⟨hne, stripeBuffers, stripeSkipList, hbuffers, hskip, hholds⟩
    · rw [hnone] at hsome
      cases hsome
    simp only [Option.bind_eq_bind, Option.bind_eq_some, Option.pure_def,
      Option.some.injEq] at hlast
    obtain ⟨⟨st₃, stripeMetadata⟩, hflush, rfl⟩ := hlast
    have hsound₁ := hsound.of_sameSchema hschema
    obtain ⟨bytes, hflushed₃, hreadLast⟩ := flushStripe_readBack hdecompress
      hsound₁.comparisonsOrder (hschema.tupleDescriptor ▸ htyped.mono
        ((List.take_sublist _ _).trans (List.drop_sublist _ _)).subset)
      hsound₁.blockRowCount_lt hholds hbuffers hskip hflush
    rw [hschema.tupleDescriptor, hschema.comparisonFunctionArray, hschema.blockRowCount]
      at hreadLast
    obtain ⟨_, _, _, _, -, -, rfl, -⟩ := flushStripe_effect hflush
    refine ⟨stripes ++ [(bytes, stripeMetadata)], ?_, hschema.trans ⟨rfl, rfl, rfl, rfl, rfl⟩,
      by rw [List.map_append, ← List.append_assoc, ← hflushed]; exact hflushed₃,
      by simp [hlist], fun i stripe hi => ?_⟩
    · have hmod : rows.length % st.stripeMaxRowCount ≠ 0 := by
        rw [← hcurrent]
        exact fun hzero => hne (List.eq_nil_of_length_eq_zero hzero)
      rw [List.length_append, hlength, stripeBlockCount_eq hpos, if_neg hmod, List.length_singleton]
    rcases Nat.lt_or_ge i stripes.length with hlt | hge
    · rw [List.getElem?_append_left hlt] at hi
      exact hread i stripe hi
    · rw [List.getElem?_append_right hge] at hi
      have hlt := (List.getElem?_eq_some_iff.mp hi).1
      rw [List.length_singleton] at hlt
      obtain rfl : i = stripes.length := by omega
      rw [Nat.sub_self, List.getElem?_cons_zero, Option.some.injEq] at hi
      subst hi
      exact hreadLast
  next hnone =>
    -- no stripe is open: the run flushed every row
    cases hlast
    rcases hopen with ⟨-, hempty⟩ | ⟨-, stripeBuffers, -, hbuffers, -⟩
    · refine ⟨stripes, ?_, hschema, hflushed, hlist, hread⟩
      rw [hempty, List.length_nil] at hcurrent
      rw [hlength, stripeBlockCount_eq hpos, if_pos hcurrent.symm, Nat.add_zero]
    · rw [hnone] at hbuffers
      cases hbuffers

end Run

/-! ### A complete session -/

section Session

variable {g : PageGeometry} {decompress : List UInt8 → List UInt8}

/-- The comparison procedures `CStoreBeginWrite` looks up order as B-tree procedures do when the
catalog's do. -/
theorem comparisonsOrder_beginSession {relation : Relation} {session : WriteSession}
    (hordered : ∀ att ∈ session.tupleDescriptor,
      ∀ cmp ∈ k.getFunctionInfoOrNull att.atttypid, TotalPreorder (cmp att.attcollation)) :
    ComparisonsOrder session.tupleDescriptor
      (beginSession g k relation session).comparisonFunctionArray := by
  intro c att comparisonFunction hatt hcomparison cmp hcmp
  simp only [beginSession, cstoreBeginWrite, List.getElem?_map, hatt, Option.map_some',
    Option.some.injEq] at hcomparison
  subst hcomparison
  split_ifs at hcmp
  · cases hcmp
  · exact hordered att (List.getElem?_mem hatt) cmp hcmp

theorem sliceAt_of_occursAt {bytes buffer : List UInt8} {offset : Nat}
    (h : OccursAt bytes offset buffer) : sliceAt bytes offset buffer.length = buffer := h

/-- A stripe a session flushed on a stream that ended at the cursor reads as its bytes, at the
offset and with the size its metadata records. -/
theorem SessionInv.sliceAt_flushed {footerFork : List Page} {stream : List UInt8}
    {stripes newStripes : List StripeMetadata} {st : TableWriteState}
    (hinv : SessionInv g footerFork stream stream.length stripes st)
    (hlist : st.tableFooter.stripeMetadataList = stripes ++ newStripes) {i : Nat}
    {stripe : StripeMetadata} {bytes : List UInt8} (hi : newStripes[i]? = some stripe)
    (hbytes : st.flushedStripes[i]? = some bytes) :
    sliceAt (forkStream st.relation.dataFork) stripe.fileOffset stripe.size = bytes := by
  obtain ⟨newStripes', hnew, hoffsets⟩ := hinv.footer
  obtain rfl := List.append_cancel_left (hnew.symm.trans hlist)
  obtain ⟨hfile, bytes', hbytes', hsize⟩ := hoffsets.2 i stripe hi
  obtain rfl := Option.some.inj (hbytes'.symm.trans hbytes)
  have hat := occursAt_flatten stream hbytes
  rw [← hinv.stream_eq, ← hfile] at hat
  rw [hsize]
  exact sliceAt_of_occursAt hat

/-- **What a complete load writes reads back.** On a relation committed by complete sessions, a
complete session commits `stripeBlockCount stripeMaxRowCount` stripes after the ones the footer
listed. Each stripe the committed footer lists for the session, read from the data fork's
stream at the offset and with the size the footer gives, reads back as its stripe of the
session's rows: stripe `i` holds rows `i * stripeMaxRowCount` on. The committed footer keeps
the block row count the session used. -/
theorem readBack_completeSession (hmeta : ∀ s c,
      k.deserializeTableFooterMetadata (k.serializeTableFooterMetadata s c) = (s, c))
    (hfooter : ∀ tableFooter, k.deserializeTableFooter (wholeFooter k tableFooter) =
      some tableFooter)
    (hdecompress : ∀ buffer compressionType compressed,
      k.compressBuffer buffer compressionType = some compressed → decompress compressed = buffer)
    {relation : Relation} {log : List (List UInt8)} {session : WriteSession}
    {st : TableWriteState} (hcommitted : Committed g k relation log)
    (hordered : ∀ att ∈ session.tupleDescriptor,
      ∀ cmp ∈ k.getFunctionInfoOrNull att.atttypid, TotalPreorder (cmp att.attcollation))
    (hsize : (beginSession g k relation session).tableFooter.blockRowCount + 7 < 2 ^ 32)
    (hpos : 0 < session.stripeMaxRowCount)
    (htyped : RowsTyped k.varsizeAny session.tupleDescriptor session.rows)
    (h : completeSession g k relation session = some st) :
    cstoreReadFooter k st.relation.footerFork = some st.tableFooter ∧
      st.tableFooter.blockRowCount =
        (beginSession g k relation session).tableFooter.blockRowCount ∧
      ∃ newStripes, committedStripes k st.relation = committedStripes k relation ++ newStripes ∧
      newStripes.length = stripeBlockCount session.stripeMaxRowCount session.rows.length ∧
      ∀ i stripe, newStripes[i]? = some stripe →
        StripeReadsBack k decompress session.tupleDescriptor
          (beginSession g k relation session).comparisonFunctionArray
          (beginSession g k relation session).tableFooter.blockRowCount
          (sliceAt (forkStream st.relation.dataFork) stripe.fileOffset stripe.size) stripe
          (blockRows session.stripeMaxRowCount i session.rows) := by
  obtain ⟨st₁, hrows, hend⟩ := Option.bind_eq_some.mp h
  have hsound : SchemaSound (beginSession g k relation session) :=
    ⟨comparisonsOrder_beginSession hordered, by simp [beginSession, cstoreBeginWrite], hsize⟩
  have hopen : OpenHolds k (beginSession g k relation session) [] := Or.inl ⟨rfl, rfl⟩
  have htyped' : RowsTyped k.varsizeAny (beginSession g k relation session).tupleDescriptor
      ([] ++ session.rows) := htyped
  obtain ⟨stripes, hrun⟩ := cstoreWriteRows_runHolds hdecompress hsound htyped' hopen hpos hrows
  simp only [cstoreEndWrite, Option.bind_eq_bind, Option.bind_eq_some, Option.pure_def,
    Option.some.injEq] at hend
  obtain ⟨st₂, hlast, footerFork, hwrite, rfl⟩ := hend
  obtain ⟨stripes', hcount, hschema, hflushed, hlist, hread⟩ :=
    flushLastStripe_stripesFlushed hdecompress hsound htyped hpos hrun hlast
  -- the session kept the footer fork until it wrote the footer, and grew the stream
  have hinv := ((sessionInv_beginSession session hcommitted.packed
    hcommitted.committedEnd_eq.le).writeRows hrows).flushLast hlast
  rw [hinv.footerFork_eq] at hwrite
  have hread₂ : cstoreReadFooter k footerFork = some st₂.tableFooter := by
    rw [cstoreReadFooter_cstoreWriteFooter hmeta hcommitted.headerValid hwrite, hfooter]
  have hbegin := @tableFooter_cstoreBeginWrite g k relation session.compressionType
    session.stripeMaxRowCount session.blockRowCount session.tupleDescriptor
  have hlist' : st₂.tableFooter.stripeMetadataList =
      committedStripes k relation ++ stripes'.map Prod.snd := by
    rw [hlist, ← hbegin]
    rfl
  refine ⟨hread₂, hschema.blockRowCount, stripes'.map Prod.snd,
    by rw [committedStripes, show cstoreReadFooter k footerFork = _ from hread₂, ← hlist']; rfl,
    by rw [List.length_map, hcount]; rfl, fun i stripe hi => ?_⟩
  -- stripe `i` sits where its offset says
  have hstripe := hi
  rw [List.getElem?_map] at hi
  obtain ⟨pair, hpair, rfl⟩ := Option.map_eq_some'.mp hi
  have hbytes : st₂.flushedStripes[i]? = some pair.1 := by
    rw [hflushed]
    simp [beginSession, cstoreBeginWrite, hpair]
  rw [hcommitted.committedEnd_eq] at hinv
  rw [hinv.sliceAt_flushed hlist' hstripe hbytes]
  exact hread i pair hpair

/-- A committed stripe reads the same from the stream with more bytes after it. -/
theorem Committed.sliceAt_append {relation : Relation} {log : List (List UInt8)}
    (h : Committed g k relation log) {i : Nat} {stripe : StripeMetadata}
    (hstripe : (committedStripes k relation)[i]? = some stripe) (rest : List UInt8) :
    sliceAt (forkStream relation.dataFork ++ rest) stripe.fileOffset stripe.size =
      sliceAt (forkStream relation.dataFork) stripe.fileOffset stripe.size := by
  have hlaid := h.offsets.laidOut
  have hi : i < log.length := hlaid.length ▸ (List.getElem?_eq_some_iff.mp hstripe).1
  obtain ⟨hsize, hat⟩ := hlaid.placed i stripe log[i] hstripe (List.getElem?_eq_getElem hi)
  rw [← h.stream] at hat
  rw [hsize, sliceAt_of_occursAt hat, sliceAt_of_occursAt (hat.append_right rest)]

end Session

/-! ### The skip nodes of a run -/

/-- **The statistics of the skip nodes of a load.** From a state whose open stripe holds `pre`,
fewer than `stripeMaxRowCount` rows, and whose comparison procedures are total preorders, after
`CStoreWriteRow` has written `rows` of the columns' types, every skip node of the open stripe,
block `b` of column `c`, counts the rows of its block; it has bounds exactly when the column has
a comparison procedure and a non-null value reached the block, and they are then the first
minimal and the first maximal non-null value, so every value of the block compares between
them; and a null row changes nothing of a node but its count. -/
theorem cstoreWriteRows_minMax {g : PageGeometry} {st st' : TableWriteState}
    {pre rows : List (List (Option Datum))} (hsound : SchemaSound st)
    (htyped : RowsTyped k.varsizeAny st.tupleDescriptor (pre ++ rows))
    (h : OpenHolds k st pre) (hpre : pre.length < st.stripeMaxRowCount)
    (hrows : cstoreWriteRows g k st rows = some st') {stripeBuffers : StripeBuffers}
    {stripeSkipList : StripeSkipList} (hbuffers : st'.stripeBuffers = some stripeBuffers)
    (hskip : st'.stripeSkipList = some stripeSkipList) {c b : Nat} {att : Attribute}
    {comparisonFunction : Option Comparator} {nodes : List ColumnBlockSkipNode}
    {node : ColumnBlockSkipNode} (hatt : st.tupleDescriptor[c]? = some att)
    (hcmp : st.comparisonFunctionArray[c]? = some comparisonFunction)
    (hnodes : stripeSkipList.blockSkipNodeArray[c]? = some nodes) (hnode : nodes[b]? = some node) :
    let blockValues := blockRows st.tableFooter.blockRowCount b (columnValues c
      (blockRows st.stripeMaxRowCount ((pre ++ rows).length / st.stripeMaxRowCount) (pre ++ rows)))
    node.rowCount = blockValues.length ∧
      MinMaxInv comparisonFunction att.attcollation blockValues.reduceOption node ∧
      ∀ node' : ColumnBlockSkipNode,
        (writeBlockSkipNode k.varsizeAny att comparisonFunction node' none).hasMinMax =
            node'.hasMinMax ∧
          (writeBlockSkipNode k.varsizeAny att comparisonFunction node' none).minimumValue =
            node'.minimumValue ∧
          (writeBlockSkipNode k.varsizeAny att comparisonFunction node' none).maximumValue =
            node'.maximumValue := by
  obtain ⟨hschema, hopen⟩ := cstoreWriteRows_openHolds hsound h hpre hrows
  rcases hopen with ⟨hnone, -⟩ | ⟨-, _, _, -, hskip', hholds⟩
  · simp [hnone] at hbuffers
  obtain rfl := Option.some.inj (hskip.symm.trans hskip')
  -- the open stripe's column `c` holds the column's values in the stripe's rows
  obtain ⟨att', comparisonFunction', nodes', _, _, hatt', hcmp', hnodes', -, -, hcolumn⟩ :=
    hholds.columns c (by rw [hschema.tupleDescriptor]; exact (List.getElem?_eq_some_iff.mp hatt).1)
  rw [hschema.tupleDescriptor, hatt, Option.some.injEq] at hatt'
  rw [hschema.comparisonFunctionArray, hcmp, Option.some.injEq] at hcmp'
  rw [hnodes, Option.some.injEq] at hnodes'
  subst hatt' hcmp' hnodes'
  rw [hcolumn.nodes b node hnode, hschema.blockRowCount]
  exact blockSkipNode_minMax att comparisonFunction
    (hsound.comparisonsOrder c att comparisonFunction hatt hcmp) _ fun v hv =>
      (htyped.mono fun _ hrow => List.mem_of_mem_drop (List.mem_of_mem_take hrow)).mem_columnValues
        hatt v (mem_reduceOption_of_blockRows hv)

/-- A load of three `int4` rows, 3, null and 1, four to a block and to a stripe. -/
def nullBetweenLoad : WriteSession :=
  ⟨.compressionNone, 4, 4, [int4Attribute], [[some (.byVal 3)], [none], [some (.byVal 1)]]⟩

/-- The catalog of `exampleCodecs` orders `int4` columns with `btint4cmp`, a total preorder. -/
theorem totalPreorder_exampleCodecs : ∀ att ∈ [int4Attribute],
    ∀ cmp ∈ exampleCodecs.getFunctionInfoOrNull att.atttypid,
      TotalPreorder (cmp att.attcollation) :=
  fun _ _ cmp hcmp => (Option.some.inj (Option.mem_def.mp hcmp) : int4Comparator = cmp) ▸
    totalPreorder_int4Comparator _

theorem cstoreWriteRows_minMax_nullBetween :
    ∃ st' stripeBuffers stripeSkipList nodes node,
      cstoreWriteRows defaultGeometry exampleCodecs
          (beginSession defaultGeometry exampleCodecs ⟨[], []⟩ nullBetweenLoad)
          nullBetweenLoad.rows = some st' ∧
        st'.stripeBuffers = some stripeBuffers ∧ st'.stripeSkipList = some stripeSkipList ∧
        stripeSkipList.blockSkipNodeArray[0]? = some nodes ∧ nodes[0]? = some node ∧
        node.rowCount = 3 ∧ node.hasMinMax = true ∧
        IsFirstMin (int4Comparator 0) [.byVal 3, .byVal 1] node.minimumValue ∧
        IsFirstMax (int4Comparator 0) [.byVal 3, .byVal 1] node.maximumValue := by
  have hrun : ((cstoreWriteRows defaultGeometry exampleCodecs
      (beginSession defaultGeometry exampleCodecs ⟨[], []⟩ nullBetweenLoad)
      nullBetweenLoad.rows).bind fun st' => st'.stripeBuffers.bind fun stripeBuffers =>
        st'.stripeSkipList.bind fun stripeSkipList =>
          stripeSkipList.blockSkipNodeArray[0]?.bind fun nodes =>
            nodes[0]?.map fun node => (st', stripeBuffers, stripeSkipList, nodes, node)).isSome =
      true := rfl
  obtain ⟨_, h⟩ := Option.isSome_iff_exists.mp hrun
  obtain ⟨st', hrows, h⟩ := Option.bind_eq_some.mp h
  obtain ⟨stripeBuffers, hbuffers, h⟩ := Option.bind_eq_some.mp h
  obtain ⟨stripeSkipList, hskip, h⟩ := Option.bind_eq_some.mp h
  obtain ⟨nodes, hnodes, h⟩ := Option.bind_eq_some.mp h
  obtain ⟨node, hnode, -⟩ := Option.map_eq_some'.mp h
  have hsound : SchemaSound (beginSession defaultGeometry exampleCodecs ⟨[], []⟩ nullBetweenLoad) :=
    ⟨comparisonsOrder_beginSession totalPreorder_exampleCodecs,
      by simp [beginSession, cstoreBeginWrite], by decide⟩
  have htyped :
      RowsTyped exampleCodecs.varsizeAny [int4Attribute] ([] ++ nullBetweenLoad.rows) := by
    intro row hrow c att v hatt hv
    simp only [nullBetweenLoad, List.nil_append, List.mem_cons, List.not_mem_nil,
      or_false] at hrow
    rcases hrow with rfl | rfl | rfl <;> rcases c with _ | c <;>
      simp only [List.getD_cons_zero, List.getD_cons_succ, List.getD_nil,
        List.getElem?_cons_zero, Option.some.injEq, reduceCtorEq] at hatt hv <;>
      subst hatt hv <;> exact ⟨rfl, by decide⟩
  obtain ⟨hcount, hinv, -⟩ := cstoreWriteRows_minMax (c := 0) (b := 0) hsound htyped
    (Or.inl ⟨rfl, rfl⟩) (by decide) hrows hbuffers hskip rfl rfl hnodes hnode
  change node.rowCount = 3 at hcount
  change MinMaxInv (some int4Comparator) 0 [.byVal 3, .byVal 1] node at hinv
  have hhas : node.hasMinMax = true := hinv.hasMinMax_iff.mpr ⟨rfl, List.cons_ne_nil _ _⟩
  obtain ⟨hmin, hmax⟩ := hinv.bounds int4Comparator rfl hhas
  exact ⟨st', stripeBuffers, stripeSkipList, nodes, node, hrows, hbuffers, hskip, hnodes, hnode,
    hcount, hhas, hmin, hmax⟩

/-! ### The table -/

section Table

variable (k)

/-- The comparison procedures `CStoreBeginWrite` looks up for the columns `tupleDescriptor`:
none for a dropped column. -/
def comparisonFunctionArrayOf (tupleDescriptor : List Attribute) : List (Option Comparator) :=
  tupleDescriptor.map fun att =>
    if att.attisdropped then none else k.getFunctionInfoOrNull att.atttypid

/-- A session of the table's columns `tupleDescriptor` and block row count `blockRowCount`, with
at least one row a stripe, and rows of the columns' types. -/
structure SessionFits (tupleDescriptor : List Attribute) (blockRowCount : Nat)
    (session : WriteSession) : Prop where
  tupleDescriptor_eq : session.tupleDescriptor = tupleDescriptor
  blockRowCount_eq : session.blockRowCount = blockRowCount
  stripeMaxRowCount_pos : 0 < session.stripeMaxRowCount
  rowsTyped : RowsTyped k.varsizeAny tupleDescriptor session.rows

/-- **The table a reader gets is `rows`.** The stripes the committed footer lists, each read from
the data fork's stream at the offset and with the size the footer gives, read back as
consecutive chunks of `rows`. -/
def TableReadsBack (decompress : List UInt8 → List UInt8) (tupleDescriptor : List Attribute)
    (blockRowCount : Nat) (relation : Relation) (rows : List (List (Option Datum))) : Prop :=
  ∃ chunks : List (List (List (Option Datum))), chunks.flatten = rows ∧
    chunks.length = (committedStripes k relation).length ∧
    ∀ (i : Nat) stripe chunk, (committedStripes k relation)[i]? = some stripe →
      chunks[i]? = some chunk →
      StripeReadsBack k decompress tupleDescriptor (comparisonFunctionArrayOf k tupleDescriptor)
        blockRowCount (sliceAt (forkStream relation.dataFork) stripe.fileOffset stripe.size)
        stripe chunk

variable {k} {g : PageGeometry} {decompress : List UInt8 → List UInt8}
  {tupleDescriptor : List Attribute} {blockRowCount : Nat}

theorem comparisonFunctionArray_beginSession (relation : Relation) (session : WriteSession) :
    (beginSession g k relation session).comparisonFunctionArray =
      comparisonFunctionArrayOf k session.tupleDescriptor := rfl

theorem tableReadsBack_empty :
    TableReadsBack k decompress tupleDescriptor blockRowCount ⟨[], []⟩ [] :=
  ⟨[], rfl, rfl, fun _ _ _ h => by simp [committedStripes, cstoreReadFooter] at h⟩

/-- The block row count a session writes with: the committed footer's, else its own. -/
theorem blockRowCount_beginSession {relation : Relation} {session : WriteSession}
    (hfits : SessionFits k tupleDescriptor blockRowCount session)
    (hfooter : ∀ tableFooter ∈ cstoreReadFooter k relation.footerFork,
      tableFooter.blockRowCount = blockRowCount) :
    (beginSession g k relation session).tableFooter.blockRowCount = blockRowCount := by
  simp only [beginSession, cstoreBeginWrite]
  cases hread : cstoreReadFooter k relation.footerFork with
  | none => exact hfits.blockRowCount_eq
  | some tableFooter => exact hfooter tableFooter hread

theorem rowsTyped_firstLoad :
    RowsTyped exampleCodecs.varsizeAny firstLoad.tupleDescriptor firstLoad.rows := by
  intro row hrow c att v hatt hv
  simp only [firstLoad, List.mem_cons, List.not_mem_nil, or_false] at hrow
  rcases hrow with rfl | rfl | rfl <;> rcases c with _ | c <;>
    simp only [firstLoad, List.getD_cons_zero, List.getD_cons_succ, List.getD_nil,
      List.getElem?_cons_zero, Option.some.injEq, reduceCtorEq] at hatt hv <;>
    subst hatt hv <;> exact ⟨rfl, by decide⟩

theorem sessionFits_firstLoad : SessionFits exampleCodecs [int4Attribute] 2 firstLoad :=
  ⟨rfl, rfl, by decide, rowsTyped_firstLoad⟩

section Step

variable (hmeta : ∀ s c,
      k.deserializeTableFooterMetadata (k.serializeTableFooterMetadata s c) = (s, c))
    (hfooter : ∀ tableFooter, k.deserializeTableFooter (wholeFooter k tableFooter) =
      some tableFooter)
    (hdecompress : ∀ buffer compressionType compressed,
      k.compressBuffer buffer compressionType = some compressed → decompress compressed = buffer)
    (hordered : ∀ att ∈ tupleDescriptor,
      ∀ cmp ∈ k.getFunctionInfoOrNull att.atttypid, TotalPreorder (cmp att.attcollation))
    (hsize : blockRowCount + 7 < 2 ^ 32)
include hmeta hfooter hdecompress hordered hsize

/-- A complete session of the table's schema extends the table with its rows, and the committed
footer keeps the block row count. -/
theorem TableReadsBack.completeSession {relation : Relation} {log : List (List UInt8)}
    {rows : List (List (Option Datum))} {session : WriteSession} {st : TableWriteState}
    (hcommitted : Committed g k relation log)
    (htable : TableReadsBack k decompress tupleDescriptor blockRowCount relation rows)
    (hblockRowCount : ∀ tableFooter ∈ cstoreReadFooter k relation.footerFork,
      tableFooter.blockRowCount = blockRowCount)
    (hfits : SessionFits k tupleDescriptor blockRowCount session)
    (h : completeSession g k relation session = some st) :
    TableReadsBack k decompress tupleDescriptor blockRowCount st.relation (rows ++ session.rows) ∧
      ∀ tableFooter ∈ cstoreReadFooter k st.relation.footerFork,
        tableFooter.blockRowCount = blockRowCount := by
  have hR : (beginSession g k relation session).tableFooter.blockRowCount = blockRowCount :=
    blockRowCount_beginSession hfits hblockRowCount
  obtain ⟨hread, hfooterR, newStripes, hlist, hlength, hnew⟩ := readBack_completeSession hmeta
    hfooter hdecompress hcommitted (hfits.tupleDescriptor_eq ▸ hordered) (by rw [hR]; exact hsize)
    hfits.stripeMaxRowCount_pos (hfits.tupleDescriptor_eq ▸ hfits.rowsTyped) h
  obtain ⟨-, -, hstream, -⟩ := completeSession_spec hmeta hfooter hcommitted.headerValid
    hcommitted.packed hcommitted.committedEnd_eq.le h
  refine ⟨?_, fun tableFooter htableFooter => ?_⟩
  · obtain ⟨chunks, hflatten, hlength', hold⟩ := htable
    refine ⟨chunks ++ (List.range (stripeBlockCount session.stripeMaxRowCount
      session.rows.length)).map (blockRows session.stripeMaxRowCount · session.rows), ?_, ?_,
      fun i stripe chunk hstripe hchunk => ?_⟩
    · rw [List.flatten_append, hflatten, flatten_blockRows hfits.stripeMaxRowCount_pos]
    · rw [hlist, List.length_append, List.length_append, hlength', List.length_map,
        List.length_range, hlength]
    rw [hlist] at hstripe
    rcases Nat.lt_or_ge i chunks.length with hi | hi
    · -- a stripe of the table before: its bytes are where they were
      rw [List.getElem?_append_left (hlength' ▸ hi)] at hstripe
      rw [List.getElem?_append_left hi] at hchunk
      rw [hstream, hcommitted.sliceAt_append hstripe]
      exact hold i stripe chunk hstripe hchunk
    · -- a stripe of the session
      rw [List.getElem?_append_right (hlength' ▸ hi), ← hlength'] at hstripe
      rw [List.getElem?_append_right hi] at hchunk
      obtain ⟨hj, rfl⟩ := List.getElem?_eq_some_iff.mp hchunk
      have hstripeRead := hnew (i - chunks.length) stripe hstripe
      rw [hR, comparisonFunctionArray_beginSession, hfits.tupleDescriptor_eq] at hstripeRead
      simpa using hstripeRead
  · rw [hread, Option.mem_some_iff] at htableFooter
    rw [← htableFooter, hfooterR, hR]

theorem tableReadsBack_foldlM :
    ∀ {sessions : List WriteSession} {start run : Relation × List (List UInt8)}
      {rows : List (List (Option Datum))}, Committed g k start.1 start.2 →
      TableReadsBack k decompress tupleDescriptor blockRowCount start.1 rows →
      (∀ tableFooter ∈ cstoreReadFooter k start.1.footerFork,
        tableFooter.blockRowCount = blockRowCount) →
      (∀ session ∈ sessions, SessionFits k tupleDescriptor blockRowCount session) →
      sessions.foldlM (fun run session => (CStoreWriter.completeSession g k run.1 session).map
        fun st => (st.relation, run.2 ++ st.flushedStripes)) start = some run →
      TableReadsBack k decompress tupleDescriptor blockRowCount run.1
        (rows ++ (sessions.map WriteSession.rows).flatten)
  | [], _, _, _, _, htable, _, _, hrun => by
    cases hrun
    simpa using htable
  | session :: sessions, _, _, _, hcommitted, htable, hblockRowCount, hfits, hrun => by
    rw [List.foldlM_cons] at hrun
    obtain ⟨next, hnext, hrest⟩ := Option.bind_eq_some.mp hrun
    obtain ⟨st, hsession, rfl⟩ := Option.map_eq_some'.mp hnext
    obtain ⟨htable', hblockRowCount'⟩ := htable.completeSession hmeta hfooter hdecompress
      hordered hsize hcommitted hblockRowCount (hfits session (List.mem_cons_self _ _)) hsession
    have hrun' := tableReadsBack_foldlM (hcommitted.completeSession hmeta hfooter hsession).1
      htable' hblockRowCount' (fun s hs => hfits s (List.mem_cons_of_mem _ hs)) hrest
    simpa using hrun'

/-- **A table reads back as every row its complete loads wrote.** After complete sessions from
an empty relation, all of the table's columns and block row count, the stripes the committed
footer lists, each read from the data fork where the footer puts it, read back as consecutive
chunks of the sessions' rows, in order. This needs the metadata codecs to read back what they
write, decompression to undo compression, the catalog's comparison procedures to order, a
block's flags to fit `SerializeBoolArray`'s `uint32` byte count, and of every session at least
one row a stripe and rows of the columns' types. -/
theorem completeRun_readBack {sessions : List WriteSession} {relation : Relation}
    {log : List (List UInt8)}
    (hfits : ∀ session ∈ sessions, SessionFits k tupleDescriptor blockRowCount session)
    (hrun : completeRun g k sessions = some (relation, log)) :
    TableReadsBack k decompress tupleDescriptor blockRowCount relation
      (sessions.map WriteSession.rows).flatten := by
  simpa using tableReadsBack_foldlM hmeta hfooter hdecompress hordered hsize committed_empty
    tableReadsBack_empty (fun _ h => by simp [cstoreReadFooter] at h) hfits hrun

end Step

/-- The first load of three rows, two to a stripe, reads back from the table it commits. -/
theorem completeRun_readBack_firstLoad :
    ∃ run, completeRun defaultGeometry exampleCodecs [firstLoad] = some run ∧
      TableReadsBack exampleCodecs id [int4Attribute] 2 run.1 firstLoad.rows := by
  obtain ⟨⟨relation, log⟩, hrun⟩ := Option.isSome_iff_exists.mp
    (rfl : (completeRun defaultGeometry exampleCodecs [firstLoad]).isSome = true)
  have htable : TableReadsBack exampleCodecs id [int4Attribute] 2 relation
      ([firstLoad].map WriteSession.rows).flatten := completeRun_readBack
    exampleCodecs_tableFooterMetadata exampleCodecs_deserializeTableFooter
    (fun _ _ _ h => by simp [exampleCodecs] at h) totalPreorder_exampleCodecs (by decide)
    (fun _ h => List.mem_singleton.mp h ▸ sessionFits_firstLoad) hrun
  exact ⟨(relation, log), hrun, by simpa using htable⟩

/-- **A load that never ends leaves the table as it was.** A session that writes rows and never
reaches `CStoreEndWrite`, as after an error or a crash, leaves the footer fork alone and only
appends to the data fork's stream, so a committed table reads back as the same rows. -/
theorem abandonedSession_keepsTable {relation : Relation} {log : List (List UInt8)}
    {session : WriteSession} {st : TableWriteState} {rows : List (List (Option Datum))}
    (hcommitted : Committed g k relation log)
    (htable : TableReadsBack k decompress tupleDescriptor blockRowCount relation rows)
    (h : abandonedSession g k relation session = some st) :
    TableReadsBack k decompress tupleDescriptor blockRowCount st.relation rows := by
  obtain ⟨hfork, -, hstream⟩ :=
    abandonedSession_spec hcommitted.packed hcommitted.committedEnd_eq.le h
  have hstripes : committedStripes k st.relation = committedStripes k relation := by
    rw [committedStripes, hfork, ← committedStripes]
  obtain ⟨chunks, hflatten, hlength, hread⟩ := htable
  refine ⟨chunks, hflatten, hstripes ▸ hlength, fun i stripe chunk hstripe hchunk => ?_⟩
  rw [hstripes] at hstripe
  rw [hstream, hcommitted.sliceAt_append hstripe]
  exact hread i stripe chunk hstripe hchunk

/-- The first load committed, then run again and abandoned after its first stripe is flushed:
the table still reads back as the first load's rows. -/
theorem abandonedSession_keepsTable_afterFirstLoad :
    ∃ relation log st,
      completeRun defaultGeometry exampleCodecs [firstLoad] = some (relation, log) ∧
      Committed defaultGeometry exampleCodecs relation log ∧
      TableReadsBack exampleCodecs id [int4Attribute] 2 relation firstLoad.rows ∧
      abandonedSession defaultGeometry exampleCodecs relation firstLoad = some st ∧
      st.flushedStripes ≠ [] ∧
      TableReadsBack exampleCodecs id [int4Attribute] 2 st.relation firstLoad.rows := by
  have hloads : ((completeRun defaultGeometry exampleCodecs [firstLoad]).bind fun run =>
      (abandonedSession defaultGeometry exampleCodecs run.1 firstLoad).bind fun st =>
        if st.flushedStripes = [] then none else some (run, st)).isSome = true := rfl
  obtain ⟨⟨⟨relation, log⟩, _⟩, h⟩ := Option.isSome_iff_exists.mp hloads
  obtain ⟨run, hrun, h⟩ := Option.bind_eq_some.mp h
  obtain ⟨st, hst, h⟩ := Option.bind_eq_some.mp h
  split at h
  · cases h
  rename_i hflushed
  simp only [Option.some.injEq, Prod.mk.injEq] at h
  obtain ⟨rfl, rfl⟩ := h
  have hcommitted := committed_completeRun exampleCodecs_tableFooterMetadata
    exampleCodecs_deserializeTableFooter committed_empty hrun
  have htable : TableReadsBack exampleCodecs id [int4Attribute] 2 relation firstLoad.rows := by
    simpa using tableReadsBack_foldlM exampleCodecs_tableFooterMetadata
      exampleCodecs_deserializeTableFooter (fun _ _ _ h => by simp [exampleCodecs] at h)
      totalPreorder_exampleCodecs (by decide) committed_empty tableReadsBack_empty
      (fun _ h => by simp [cstoreReadFooter] at h)
      (fun _ h => List.mem_singleton.mp h ▸ sessionFits_firstLoad) hrun
  exact ⟨relation, log, st, hrun, hcommitted, htable, hst, hflushed,
    abandonedSession_keepsTable hcommitted htable hst⟩

end Table

end CStoreWriter
