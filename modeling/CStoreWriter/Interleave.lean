import CStoreWriter.Load

/-!
# Complete and abandoned loads in any order

A table is written by one load after another, and a load that fails or crashes never reaches
`CStoreEndWrite`. `sessionRun` runs complete and abandoned sessions in any order from an empty
relation. Whatever the order, the data fork is an append-only log: its stream is exactly the
bytes of every stripe flushed, in flush order, and a stripe the footer commits stays committed
(`sessionRun_appendOnly`); the committed footer keeps the block row count of the first one
(`sessionRun_blockRowCount`). A load abandoned before its first stripe is flushed leaves the
relation as it was, so a run whose abandoned loads all stop that early reads back as the rows
of its complete loads (`sessionRun_readBack`); `abandonedSession_shifts` shows what a later
load commits when an abandoned one did flush.

## Main definitions

* `runSession`, `sessionRun` — a session that ends or is abandoned, and a run of them
* `Logged` — the data fork holds exactly a log of stripes, and the committed ones end in it

## Main results

* `sessionRun_appendOnly` — the log and the committed stripes of a run only grow
* `sessionRun_blockRowCount` — once a footer is committed, its block row count stays
* `sessionRun_readBack` — a run whose abandoned loads flush nothing reads back as its complete
  loads' rows
-/

namespace CStoreWriter

variable (g : PageGeometry) (k : Codecs)

/-- A session that reaches `CStoreEndWrite` when `ends`, and is abandoned after its rows
otherwise. -/
def runSession (relation : Relation) (session : WriteSession) (ends : Bool) :
    Option TableWriteState :=
  if ends then completeSession g k relation session else abandonedSession g k relation session

/-- One session of a run: the relation it leaves, and the log of flushed stripes extended by
the stripes it flushed. -/
def runStep (run : Relation × List (List UInt8)) (session : WriteSession × Bool) :
    Option (Relation × List (List UInt8)) :=
  (runSession g k run.1 session.1 session.2).map fun st =>
    (st.relation, run.2 ++ st.flushedStripes)

/-- Complete and abandoned sessions in any order from an empty relation: the relation, and the
bytes of every stripe flushed, in flush order. -/
def sessionRun (sessions : List (WriteSession × Bool)) : Option (Relation × List (List UInt8)) :=
  sessions.foldlM (runStep g k) (⟨[], []⟩, [])

/-- The footer fork is valid, the data fork is packed and its stream is exactly the bytes of
`log`, and the committed stripes end within it. -/
structure Logged (relation : Relation) (log : List (List UInt8)) : Prop where
  headerValid : HeaderValid k relation.footerFork
  packed : Packed g relation.dataFork
  stream : forkStream relation.dataFork = log.flatten
  committedEnd_le : committedEnd k relation ≤ log.flatten.length

variable {g k}

theorem logged_empty : Logged g k ⟨[], []⟩ [] :=
  ⟨by simp [HeaderValid], packed_nil g, rfl, by simp [committedEnd, committedStripes,
    cstoreReadFooter]⟩

theorem committedStripes_congr {relation relation' : Relation}
    (h : relation'.footerFork = relation.footerFork) :
    committedStripes k relation' = committedStripes k relation := by
  rw [committedStripes, h, ← committedStripes]

/-- Stripes recorded from `base` on end at `base` plus their bytes, or not past `base` when
there are none. -/
theorem committedEnd_le_of_append {relation relation' : Relation}
    {newStripes : List StripeMetadata} {flushed : List (List UInt8)} {bound : Nat}
    (hlist : committedStripes k relation' = committedStripes k relation ++ newStripes)
    (hoffsets : OffsetsFrom (committedEnd k relation) newStripes flushed)
    (hbound : committedEnd k relation ≤ bound) :
    committedEnd k relation' ≤ bound + flushed.flatten.length := by
  have hend := hoffsets.end_eq
  rw [committedEnd, hlist, List.getLast?_append, ← Nat.add_zero (Option.getD _ 0)]
  cases hlast : newStripes.getLast? with
  | none => simpa [committedEnd] using Nat.add_le_add hbound (Nat.zero_le _)
  | some stripe =>
    rw [hlast, Option.map_some', Option.getD_some] at hend
    simpa [hend] using hbound

section Logged

variable (hmeta : ∀ s c,
      k.deserializeTableFooterMetadata (k.serializeTableFooterMetadata s c) = (s, c))
    (hfooter : ∀ tableFooter, k.deserializeTableFooter (wholeFooter k tableFooter) =
      some tableFooter)
include hmeta hfooter

/-- A session, complete or abandoned, appends the stripes it flushes to the log, and the
committed stripes before it are a prefix of those after it. -/
theorem Logged.runSession {relation : Relation} {log : List (List UInt8)}
    {session : WriteSession} {ends : Bool} {st : TableWriteState} (h : Logged g k relation log)
    (hsession : CStoreWriter.runSession g k relation session ends = some st) :
    Logged g k st.relation (log ++ st.flushedStripes) ∧
      committedStripes k relation <+: committedStripes k st.relation := by
  have hend : committedEnd k relation ≤ (forkStream relation.dataFork).length :=
    h.stream ▸ h.committedEnd_le
  cases ends with
  | false =>
    -- the footer fork is untouched, so the committed stripes are
    obtain ⟨hfork, hpacked, hstream⟩ := abandonedSession_spec h.packed hend hsession
    have hcommitted := committedStripes_congr (k := k) hfork
    refine ⟨⟨hfork ▸ h.headerValid, hpacked, by rw [hstream, h.stream, List.flatten_append],
      ?_⟩, hcommitted ▸ List.prefix_refl _⟩
    rw [committedEnd, hcommitted, ← committedEnd, List.flatten_append, List.length_append]
    exact h.committedEnd_le.trans (Nat.le_add_right _ _)
  | true =>
    obtain ⟨hvalid, hpacked, hstream, newStripes, hlist, hoffsets⟩ :=
      completeSession_spec hmeta hfooter h.headerValid h.packed hend hsession
    refine ⟨⟨hvalid, hpacked, by rw [hstream, h.stream, List.flatten_append], ?_⟩,
      hlist ▸ List.prefix_append _ _⟩
    rw [List.flatten_append, List.length_append]
    exact committedEnd_le_of_append hlist hoffsets h.committedEnd_le

theorem Logged.foldlM :
    ∀ {sessions : List (WriteSession × Bool)} {start run : Relation × List (List UInt8)},
      Logged g k start.1 start.2 → sessions.foldlM (runStep g k) start = some run →
      Logged g k run.1 run.2 ∧ committedStripes k start.1 <+: committedStripes k run.1 ∧
        start.2 <+: run.2
  | [], _, _, h, hrun => by
    cases hrun
    exact ⟨h, List.prefix_refl _, List.prefix_refl _⟩
  | session :: sessions, _, _, h, hrun => by
    rw [List.foldlM_cons] at hrun
    obtain ⟨next, hnext, hrest⟩ := Option.bind_eq_some.mp hrun
    obtain ⟨st, hsession, rfl⟩ := Option.map_eq_some'.mp hnext
    obtain ⟨hlogged, hcommitted⟩ := h.runSession hmeta hfooter hsession
    obtain ⟨hrun', hcommitted', hlog⟩ := hlogged.foldlM hrest
    exact ⟨hrun', hcommitted.trans hcommitted', (List.prefix_append _ _).trans hlog⟩

/-- **The data fork is an append-only log.** In a run of complete and abandoned loads in any
order from an empty relation, with metadata codecs that read back what they write, the data
fork's stream holds exactly the bytes of every stripe flushed, in flush order, on packed pages;
and whatever sessions follow a prefix of the run, the stripes flushed and the stripes committed
after the prefix are prefixes of those after the whole run: no flushed byte is lost or
overwritten, and no committed stripe is dropped or changed. -/
theorem sessionRun_appendOnly {pre post : List (WriteSession × Bool)}
    {relation relation' : Relation} {log log' : List (List UInt8)}
    (hpre : sessionRun g k pre = some (relation, log))
    (hrun : sessionRun g k (pre ++ post) = some (relation', log')) :
    forkStream relation'.dataFork = log'.flatten ∧ Packed g relation'.dataFork ∧ log <+: log' ∧
      committedStripes k relation <+: committedStripes k relation' := by
  obtain ⟨hlogged, -⟩ := (logged_empty (g := g)).foldlM hmeta hfooter hpre
  rw [sessionRun, List.foldlM_append, ← sessionRun, hpre] at hrun
  obtain ⟨hlogged', hcommitted, hlog⟩ := hlogged.foldlM hmeta hfooter hrun
  exact ⟨hlogged'.stream, hlogged'.packed, hlog, hcommitted⟩

end Logged

/-- A load of 5 abandoned after its stripe is flushed, then a complete load of 7: both stripes
stay on the data fork, in order. -/
theorem sessionRun_appendOnly_orphan :
    ∃ run run', sessionRun defaultGeometry exampleCodecs [(oneRowLoad 5, false)] = some run ∧
      sessionRun defaultGeometry exampleCodecs
        ([(oneRowLoad 5, false)] ++ [(oneRowLoad 7, true)]) = some run' ∧
      forkStream run'.1.dataFork = run'.2.flatten ∧ Packed defaultGeometry run'.1.dataFork ∧
      run.2 <+: run'.2 ∧
      committedStripes exampleCodecs run.1 <+: committedStripes exampleCodecs run'.1 := by
  obtain ⟨⟨relation, log⟩, hpre⟩ := Option.isSome_iff_exists.mp
    (rfl : (sessionRun defaultGeometry exampleCodecs [(oneRowLoad 5, false)]).isSome = true)
  obtain ⟨⟨relation', log'⟩, hrun⟩ := Option.isSome_iff_exists.mp
    (rfl : (sessionRun defaultGeometry exampleCodecs
      ([(oneRowLoad 5, false)] ++ [(oneRowLoad 7, true)])).isSome = true)
  exact ⟨_, _, hpre, hrun, sessionRun_appendOnly exampleCodecs_tableFooterMetadata
    exampleCodecs_deserializeTableFooter hpre hrun⟩

/-! ### The committed block row count -/

theorem sameSchema_cstoreWriteRow {st st' : TableWriteState} {row : List (Option Datum)}
    (h : cstoreWriteRow g k st row = some st') : SameSchema st st' := by
  unfold cstoreWriteRow at h
  split_ifs at h
  obtain ⟨st₂, h₂, hflush⟩ := Option.bind_eq_some.mp h
  obtain ⟨st₁, hstart, hadd⟩ := Option.bind_eq_some.mp h₂
  obtain ⟨_, _, _, _, -, rfl, -⟩ := addRow_shape hadd
  exact ((sameSchema_startStripe hstart).trans (sameSchema_addRow hadd)).trans
    (sameSchema_flushFullStripe rfl hflush)

theorem sameSchema_cstoreWriteRows :
    ∀ {rows : List (List (Option Datum))} {st st' : TableWriteState},
      cstoreWriteRows g k st rows = some st' → SameSchema st st'
  | [], _, _, h => by
    cases h
    exact SameSchema.refl _
  | row :: rows, _, _, h => by
    rw [cstoreWriteRows, List.foldlM_cons] at h
    obtain ⟨st₁, hrow, hrest⟩ := Option.bind_eq_some.mp h
    exact (sameSchema_cstoreWriteRow hrow).trans (sameSchema_cstoreWriteRows hrest)

theorem sameSchema_flushLastStripe {st st' : TableWriteState}
    (h : flushLastStripe g k st = some st') : SameSchema st st' := by
  unfold flushLastStripe at h
  split at h
  · simp only [Option.bind_eq_bind, Option.bind_eq_some, Option.pure_def,
      Option.some.injEq] at h
    obtain ⟨⟨st₁, stripeMetadata⟩, hstripe, rfl⟩ := h
    obtain ⟨_, _, _, _, -, -, rfl, -⟩ := flushStripe_effect hstripe
    exact ⟨rfl, rfl, rfl, rfl, rfl⟩
  · cases h
    exact SameSchema.refl _

section BlockRowCount

variable (hmeta : ∀ s c,
      k.deserializeTableFooterMetadata (k.serializeTableFooterMetadata s c) = (s, c))
    (hfooter : ∀ tableFooter, k.deserializeTableFooter (wholeFooter k tableFooter) =
      some tableFooter)
include hmeta hfooter

/-- A complete session commits its own table footer, with the block row count
`CStoreBeginWrite` took. -/
theorem cstoreReadFooter_completeSession {relation : Relation} {session : WriteSession}
    {st : TableWriteState} (hvalid : HeaderValid k relation.footerFork)
    (hpacked : Packed g relation.dataFork)
    (hend : committedEnd k relation ≤ (forkStream relation.dataFork).length)
    (h : completeSession g k relation session = some st) :
    cstoreReadFooter k st.relation.footerFork = some st.tableFooter ∧
      st.tableFooter.blockRowCount =
        (beginSession g k relation session).tableFooter.blockRowCount := by
  obtain ⟨st₁, hrows, hend'⟩ := Option.bind_eq_some.mp h
  simp only [cstoreEndWrite, Option.bind_eq_bind, Option.bind_eq_some, Option.pure_def,
    Option.some.injEq] at hend'
  obtain ⟨st₂, hlast, footerFork, hwrite, rfl⟩ := hend'
  have hinv := ((sessionInv_beginSession session hpacked hend).writeRows hrows).flushLast hlast
  rw [hinv.footerFork_eq] at hwrite
  exact ⟨by rw [cstoreReadFooter_cstoreWriteFooter hmeta hvalid hwrite, hfooter],
    ((sameSchema_cstoreWriteRows hrows).trans (sameSchema_flushLastStripe hlast)).blockRowCount⟩

/-- A session, complete or abandoned, leaves a committed footer committed, with its block row
count. -/
theorem Logged.blockRowCount_runSession {relation : Relation} {log : List (List UInt8)}
    {session : WriteSession} {ends : Bool} {st : TableWriteState} {tableFooter : TableFooter}
    (h : Logged g k relation log)
    (hsession : CStoreWriter.runSession g k relation session ends = some st)
    (hread : cstoreReadFooter k relation.footerFork = some tableFooter) :
    ∃ tableFooter', cstoreReadFooter k st.relation.footerFork = some tableFooter' ∧
      tableFooter'.blockRowCount = tableFooter.blockRowCount := by
  have hend : committedEnd k relation ≤ (forkStream relation.dataFork).length :=
    h.stream ▸ h.committedEnd_le
  cases ends with
  | false =>
    obtain ⟨hfork, -⟩ := abandonedSession_spec h.packed hend hsession
    exact ⟨tableFooter, hfork ▸ hread, rfl⟩
  | true =>
    obtain ⟨hread', hblockRowCount⟩ :=
      cstoreReadFooter_completeSession hmeta hfooter h.headerValid h.packed hend hsession
    refine ⟨_, hread', hblockRowCount.trans ?_⟩
    simp [beginSession, cstoreBeginWrite, hread]

theorem Logged.blockRowCount_foldlM :
    ∀ {sessions : List (WriteSession × Bool)} {start run : Relation × List (List UInt8)}
      {tableFooter : TableFooter}, Logged g k start.1 start.2 →
      sessions.foldlM (runStep g k) start = some run →
      cstoreReadFooter k start.1.footerFork = some tableFooter →
      ∃ tableFooter', cstoreReadFooter k run.1.footerFork = some tableFooter' ∧
        tableFooter'.blockRowCount = tableFooter.blockRowCount
  | [], _, _, tableFooter, _, hrun, hread => by
    cases hrun
    exact ⟨tableFooter, hread, rfl⟩
  | session :: sessions, _, _, _, h, hrun, hread => by
    rw [List.foldlM_cons] at hrun
    obtain ⟨next, hnext, hrest⟩ := Option.bind_eq_some.mp hrun
    obtain ⟨st, hsession, rfl⟩ := Option.map_eq_some'.mp hnext
    obtain ⟨tableFooter', hread', hblockRowCount⟩ :=
      h.blockRowCount_runSession hmeta hfooter hsession hread
    obtain ⟨tableFooter'', hread'', hblockRowCount'⟩ :=
      (h.runSession hmeta hfooter hsession).1.blockRowCount_foldlM hrest hread'
    exact ⟨tableFooter'', hread'', hblockRowCount'.trans hblockRowCount⟩

/-- **The first committed block row count stays.** In a run of complete and abandoned loads in
any order from an empty relation, with metadata codecs that read back what they write, once a
footer is committed every later run keeps a committed footer with the same block row count,
whatever block row count later loads pass to `CStoreBeginWrite`. -/
theorem sessionRun_blockRowCount {pre post : List (WriteSession × Bool)}
    {relation relation' : Relation} {log log' : List (List UInt8)} {tableFooter : TableFooter}
    (hpre : sessionRun g k pre = some (relation, log))
    (hrun : sessionRun g k (pre ++ post) = some (relation', log'))
    (hread : cstoreReadFooter k relation.footerFork = some tableFooter) :
    ∃ tableFooter', cstoreReadFooter k relation'.footerFork = some tableFooter' ∧
      tableFooter'.blockRowCount = tableFooter.blockRowCount := by
  obtain ⟨hlogged, -⟩ := (logged_empty (g := g)).foldlM hmeta hfooter hpre
  rw [sessionRun, List.foldlM_append, ← sessionRun, hpre] at hrun
  exact hlogged.blockRowCount_foldlM hmeta hfooter hrun hread

end BlockRowCount

/-- A load of 5 commits a footer of one row a block; a later load asking for two rows a block
keeps it. -/
theorem sessionRun_blockRowCount_oneRow :
    ∃ run run' tableFooter,
      sessionRun defaultGeometry exampleCodecs [(oneRowLoad 5, true)] = some run ∧
      sessionRun defaultGeometry exampleCodecs ([(oneRowLoad 5, true)] ++
        [(⟨.compressionNone, 2, 2, [int4Attribute], [[some (.byVal 7)]]⟩, true)]) = some run' ∧
      cstoreReadFooter exampleCodecs run.1.footerFork = some tableFooter ∧
      tableFooter.blockRowCount = 1 ∧
      ∃ tableFooter', cstoreReadFooter exampleCodecs run'.1.footerFork = some tableFooter' ∧
        tableFooter'.blockRowCount = tableFooter.blockRowCount := by
  obtain ⟨⟨relation, log⟩, hpre⟩ := Option.isSome_iff_exists.mp
    (rfl : (sessionRun defaultGeometry exampleCodecs [(oneRowLoad 5, true)]).isSome = true)
  obtain ⟨⟨relation', log'⟩, hrun⟩ := Option.isSome_iff_exists.mp
    (rfl : (sessionRun defaultGeometry exampleCodecs ([(oneRowLoad 5, true)] ++
      [(⟨.compressionNone, 2, 2, [int4Attribute], [[some (.byVal 7)]]⟩, true)])).isSome = true)
  have hfooters : (sessionRun defaultGeometry exampleCodecs [(oneRowLoad 5, true)]).bind
      (fun run => (cstoreReadFooter exampleCodecs run.1.footerFork).map
        TableFooter.blockRowCount) = some 1 := rfl
  rw [hpre, Option.some_bind] at hfooters
  obtain ⟨tableFooter, hread, hblockRowCount⟩ := Option.map_eq_some'.mp hfooters
  exact ⟨_, _, tableFooter, hpre, hrun, hread, hblockRowCount, sessionRun_blockRowCount
    exampleCodecs_tableFooterMetadata exampleCodecs_deserializeTableFooter hpre hrun hread⟩

/-! ### A load abandoned before its first flush -/

/-- A row that leaves its stripe short of `stripeMaxRowCount` rows flushes nothing: the
relation and the flushed stripes stay as they were. -/
theorem cstoreWriteRow_keeps_of_below {st st' : TableWriteState} {row : List (Option Datum)}
    (h : cstoreWriteRow g k st row = some st')
    (hbelow : stripeRowCount st + 1 < st.stripeMaxRowCount) :
    st'.relation = st.relation ∧ st'.flushedStripes = st.flushedStripes := by
  obtain ⟨hcount, -⟩ := cstoreWriteRow_below_stripe h hbelow
  obtain ⟨_, hrelation, -, -, hflushed, -, rfl | ⟨_, _, -, rfl⟩⟩ := cstoreWriteRow_flushes h
  · exact ⟨hrelation, hflushed⟩
  · simp [stripeRowCount] at hcount

theorem cstoreWriteRows_keeps_of_lt :
    ∀ {rows : List (List (Option Datum))} {st st' : TableWriteState},
      cstoreWriteRows g k st rows = some st' →
      stripeRowCount st + rows.length < st.stripeMaxRowCount →
      st'.relation = st.relation ∧ st'.flushedStripes = st.flushedStripes
  | [], _, _, h, _ => by
    cases h
    exact ⟨rfl, rfl⟩
  | row :: rows, _, _, h, hlt => by
    rw [cstoreWriteRows, List.foldlM_cons] at h
    obtain ⟨st₁, hrow, hrest⟩ := Option.bind_eq_some.mp h
    rw [List.length_cons] at hlt
    obtain ⟨hcount, -, -, hmax, -⟩ := cstoreWriteRow_below_stripe hrow (by omega)
    obtain ⟨hrelation₁, hflushed₁⟩ := cstoreWriteRow_keeps_of_below hrow (by omega)
    obtain ⟨hrelation, hflushed⟩ := cstoreWriteRows_keeps_of_lt hrest (by rw [hcount, hmax]; omega)
    exact ⟨hrelation.trans hrelation₁, hflushed.trans hflushed₁⟩

/-- A load abandoned with fewer rows than a stripe holds leaves the relation as it was. -/
theorem abandonedSession_keeps_of_lt {relation : Relation} {session : WriteSession}
    {st : TableWriteState} (h : abandonedSession g k relation session = some st)
    (hshort : session.rows.length < session.stripeMaxRowCount) :
    st.relation = relation ∧ st.flushedStripes = [] :=
  cstoreWriteRows_keeps_of_lt h (by
    change 0 + session.rows.length < session.stripeMaxRowCount
    omega)

section ReadBack

variable {decompress : List UInt8 → List UInt8} {tupleDescriptor : List Attribute}
  {blockRowCount : Nat}
  (hmeta : ∀ s c,
      k.deserializeTableFooterMetadata (k.serializeTableFooterMetadata s c) = (s, c))
  (hfooter : ∀ tableFooter, k.deserializeTableFooter (wholeFooter k tableFooter) =
      some tableFooter)
  (hdecompress : ∀ buffer compressionType compressed,
      k.compressBuffer buffer compressionType = some compressed → decompress compressed = buffer)
  (hordered : ∀ att ∈ tupleDescriptor,
      ∀ cmp ∈ k.getFunctionInfoOrNull att.atttypid, TotalPreorder (cmp att.attcollation))
  (hsize : blockRowCount + 7 < 2 ^ 32)
include hmeta hfooter hdecompress hordered hsize

theorem tableReadsBack_sessionRun :
    ∀ {sessions : List (WriteSession × Bool)} {start run : Relation × List (List UInt8)}
      {rows : List (List (Option Datum))}, Committed g k start.1 start.2 →
      TableReadsBack k decompress tupleDescriptor blockRowCount start.1 rows →
      (∀ tableFooter ∈ cstoreReadFooter k start.1.footerFork,
        tableFooter.blockRowCount = blockRowCount) →
      (∀ session ∈ sessions, session.2 = true →
        SessionFits k tupleDescriptor blockRowCount session.1) →
      (∀ session ∈ sessions, session.2 = false →
        session.1.rows.length < session.1.stripeMaxRowCount) →
      sessions.foldlM (runStep g k) start = some run →
      TableReadsBack k decompress tupleDescriptor blockRowCount run.1
        (rows ++ ((sessions.filter (·.2)).map (·.1.rows)).flatten)
  | [], _, _, _, _, htable, _, _, _, hrun => by
    cases hrun
    simpa using htable
  | ⟨session, ends⟩ :: sessions, ⟨relation, log⟩, _, _, hcommitted, htable, hblockRowCount,
      hfits, hshort, hrun => by
    rw [List.foldlM_cons] at hrun
    obtain ⟨next, hnext, hrest⟩ := Option.bind_eq_some.mp hrun
    obtain ⟨st, hsession, rfl⟩ := Option.map_eq_some'.mp hnext
    have hfits' := fun s hs => hfits s (List.mem_cons_of_mem _ hs)
    have hshort' := fun s hs => hshort s (List.mem_cons_of_mem _ hs)
    cases ends with
    | false =>
      -- the load flushed nothing: the run goes on from the same relation and log
      obtain ⟨hrelation, hflushed⟩ :=
        abandonedSession_keeps_of_lt hsession (hshort _ (List.mem_cons_self _ _) rfl)
      rw [hrelation, hflushed, List.append_nil] at hrest
      simpa using tableReadsBack_sessionRun hcommitted htable hblockRowCount hfits' hshort' hrest
    | true =>
      obtain ⟨htable', hblockRowCount'⟩ := htable.completeSession hmeta hfooter hdecompress
        hordered hsize hcommitted hblockRowCount (hfits _ (List.mem_cons_self _ _) rfl) hsession
      simpa using tableReadsBack_sessionRun (hcommitted.completeSession hmeta hfooter hsession).1
        htable' hblockRowCount' hfits' hshort' hrest

/-- **Loads abandoned before their first flush leave no trace.** In a run of complete and
abandoned loads in any order from an empty relation, all of the table's columns and block row
count, where every abandoned load has fewer rows than a stripe holds, the stripes the committed
footer lists read back as consecutive chunks of the complete loads' rows, in order. The
assumptions are those of `completeRun_readBack`. -/
theorem sessionRun_readBack {sessions : List (WriteSession × Bool)} {relation : Relation}
    {log : List (List UInt8)}
    (hfits : ∀ session ∈ sessions, session.2 = true →
      SessionFits k tupleDescriptor blockRowCount session.1)
    (hshort : ∀ session ∈ sessions, session.2 = false →
      session.1.rows.length < session.1.stripeMaxRowCount)
    (hrun : sessionRun g k sessions = some (relation, log)) :
    TableReadsBack k decompress tupleDescriptor blockRowCount relation
      ((sessions.filter (·.2)).map (·.1.rows)).flatten := by
  simpa using tableReadsBack_sessionRun hmeta hfooter hdecompress hordered hsize committed_empty
    tableReadsBack_empty (fun _ h => by simp [cstoreReadFooter] at h) hfits hshort hrun

end ReadBack

/-- A load of one `int4` row, two rows to a stripe: it never fills its stripe. -/
def shortLoad : WriteSession :=
  ⟨.compressionNone, 2, 2, [int4Attribute], [[some (.byVal 9)]]⟩

theorem sessionRun_readBack_shortLoad :
    ∃ run, sessionRun defaultGeometry exampleCodecs [(shortLoad, false), (firstLoad, true)] =
      some run ∧ TableReadsBack exampleCodecs id [int4Attribute] 2 run.1 firstLoad.rows := by
  obtain ⟨⟨relation, log⟩, hrun⟩ := Option.isSome_iff_exists.mp
    (rfl : (sessionRun defaultGeometry exampleCodecs
      [(shortLoad, false), (firstLoad, true)]).isSome = true)
  have hfits : ∀ session ∈ [(shortLoad, false), (firstLoad, true)], session.2 = true →
      SessionFits exampleCodecs [int4Attribute] 2 session.1 := by
    intro session hsession hends
    simp only [List.mem_cons, List.not_mem_nil, or_false] at hsession
    rcases hsession with rfl | rfl
    · cases hends
    · exact ⟨rfl, rfl, by decide, rowsTyped_firstLoad⟩
  have hshort : ∀ session ∈ [(shortLoad, false), (firstLoad, true)], session.2 = false →
      session.1.rows.length < session.1.stripeMaxRowCount := by
    intro session hsession hends
    simp only [List.mem_cons, List.not_mem_nil, or_false] at hsession
    rcases hsession with rfl | rfl
    · decide
    · cases hends
  have htable : TableReadsBack exampleCodecs id [int4Attribute] 2 relation
      (([(shortLoad, false), (firstLoad, true)].filter (·.2)).map (·.1.rows)).flatten :=
    sessionRun_readBack exampleCodecs_tableFooterMetadata exampleCodecs_deserializeTableFooter
      (fun _ _ _ h => by simp [exampleCodecs] at h)
      (fun _ _ cmp hcmp => (Option.some.inj (Option.mem_def.mp hcmp) : int4Comparator = cmp) ▸
        totalPreorder_int4Comparator _) (by decide) hfits hshort hrun
  exact ⟨(relation, log), hrun, by simpa using htable⟩

end CStoreWriter
