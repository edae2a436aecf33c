import CStoreWriter.WriteRow

/-!
# Write sessions

A load is a write session: `CStoreBeginWrite` reads the table footer and places the write
cursor right after the last stripe it lists, `CStoreWriteRow` adds the rows and flushes
every full stripe to the data fork, and `CStoreEndWrite` flushes the last stripe and
commits the footer, now listing the new stripes, to the footer fork. A session that never
reaches `CStoreEndWrite` leaves the stripes it flushed on the data fork and the footer as it
was.

Along a session the data fork's stream grows by exactly the bytes `FlushStripe` emits, and
the stripes appended to the footer record offsets counted from the cursor `CStoreBeginWrite`
chose (`SessionInv`). Over a run of complete sessions from an empty relation the cursor is
the end of the stream, so every committed stripe lies where its metadata says
(`Committed`). After an abandoned session it is not: the cursor is the end of the last
committed stripe, while `WriteToFile` appends after the orphaned bytes.

## Main definitions

* `cstoreEndWrite` — `CStoreEndWrite`
* `WriteSession`, `completeSession`, `abandonedSession`, `completeRun`
* `OffsetsFrom`, `StripesLaidOut` — stripe metadata against the bytes of the stripes
* `SessionInv`, `Committed` — the invariants of a session and of a run

## Main results

* `completeRun_commits` — after every complete session of a run from an empty relation, the
  footer lists the stripes read at the start and then one per stripe flushed, in order, and
  every committed stripe lies at its recorded offset of the data fork's stream
* `abandonedSession_shifts` — after an abandoned session, the stripes of the next complete
  session are recorded at offsets short of where their bytes are by the orphaned bytes
-/

namespace CStoreWriter

variable (g : PageGeometry) (k : Codecs)

/-- The flush at the start of `CStoreEndWrite`: an open stripe is flushed and its metadata
appended to the table footer. -/
def flushLastStripe (st : TableWriteState) : Option TableWriteState :=
  match st.stripeBuffers with
  | some _ => do
    let (st, stripeMetadata) ← flushStripe g k st
    pure { st with tableFooter := appendStripeMetadata st.tableFooter stripeMetadata }
  | none => some st

/-- `CStoreEndWrite(writeState)`: the last stripe is flushed, and the table footer written to
the footer fork. -/
def cstoreEndWrite (st : TableWriteState) : Option TableWriteState := do
  let st ← flushLastStripe g k st
  let footerFork ← cstoreWriteFooter g k st.tableFooter st.relation.footerFork
  pure { st with relation := { st.relation with footerFork } }

/-- A load: the arguments of `CStoreBeginWrite` and the rows written. -/
structure WriteSession where
  compressionType : CompressionType
  stripeMaxRowCount : Nat
  blockRowCount : Nat
  tupleDescriptor : List Attribute
  rows : List (List (Option Datum))

/-- `CStoreBeginWrite` of a session's arguments. -/
def beginSession (relation : Relation) (session : WriteSession) : TableWriteState :=
  cstoreBeginWrite g k relation session.compressionType session.stripeMaxRowCount
    session.blockRowCount session.tupleDescriptor

/-- A session that writes its rows and then ends. -/
def completeSession (relation : Relation) (session : WriteSession) : Option TableWriteState :=
  cstoreWriteRows g k (beginSession g k relation session) session.rows >>= cstoreEndWrite g k

/-- A session that writes its rows and never ends: its flushed stripes stay on the data fork,
and the footer is not rewritten. -/
def abandonedSession (relation : Relation) (session : WriteSession) : Option TableWriteState :=
  cstoreWriteRows g k (beginSession g k relation session) session.rows

/-- A run of complete sessions from an empty relation: the relation, and the bytes of the
stripes the sessions flushed, in flush order. -/
def completeRun (sessions : List WriteSession) : Option (Relation × List (List UInt8)) :=
  sessions.foldlM (fun run session => (completeSession g k run.1 session).map fun st =>
    (st.relation, run.2 ++ st.flushedStripes)) (⟨[], []⟩, [])

/-- The stripes the committed footer lists, none without a footer. -/
def committedStripes (relation : Relation) : List StripeMetadata :=
  ((cstoreReadFooter k relation.footerFork).map (·.stripeMetadataList)).getD []

/-! ### Stripe metadata against the stripes' bytes -/

/-- Stripe `i` records the length of `log[i]`, and starts `base` plus the bytes of the
stripes before it. -/
def OffsetsFrom (base : Nat) (stripes : List StripeMetadata) (log : List (List UInt8)) : Prop :=
  stripes.length = log.length ∧ ∀ i stripe, stripes[i]? = some stripe →
    stripe.fileOffset = base + (log.take i).flatten.length ∧
      ∃ bytes, log[i]? = some bytes ∧ stripe.size = bytes.length

/-- The stripes lie one after the other from offset 0 of `stream`, which holds exactly their
bytes, and each stripe's bytes sit at its offset. -/
structure StripesLaidOut (stripes : List StripeMetadata) (log : List (List UInt8))
    (stream : List UInt8) : Prop where
  length : stripes.length = log.length
  first : ∀ stripe ∈ stripes.head?, stripe.fileOffset = 0
  next : ∀ (i : Nat) (stripe stripe' : StripeMetadata), stripes[i]? = some stripe →
    stripes[i + 1]? = some stripe' →
      stripe'.fileOffset = stripe.endOffset
  placed : ∀ (i : Nat) (stripe : StripeMetadata) (bytes : List UInt8), stripes[i]? = some stripe →
    log[i]? = some bytes →
      stripe.size = bytes.length ∧ OccursAt stream stripe.fileOffset bytes
  stream : stream = log.flatten

variable {g k}

theorem offsetsFrom_nil (base : Nat) : OffsetsFrom base [] [] :=
  ⟨rfl, fun _ _ h => by simp at h⟩

theorem length_flatten_take_succ {log : List (List UInt8)} {i : Nat} {bytes : List UInt8}
    (h : log[i]? = some bytes) :
    (log.take (i + 1)).flatten.length = (log.take i).flatten.length + bytes.length := by
  simp [List.take_succ, h]

/-- Stripes that follow on from a run's stripes, counted from its end, continue it. -/
theorem OffsetsFrom.append {base : Nat} {stripes stripes' : List StripeMetadata}
    {log log' : List (List UInt8)} (h : OffsetsFrom base stripes log)
    (h' : OffsetsFrom (base + log.flatten.length) stripes' log') :
    OffsetsFrom base (stripes ++ stripes') (log ++ log') := by
  refine ⟨by simp [h.1, h'.1], fun i s hs => ?_⟩
  rcases Nat.lt_or_ge i stripes.length with hi | hi
  · rw [List.getElem?_append_left hi] at hs
    obtain ⟨hfile, bytes, hbytes, hsize⟩ := h.2 i s hs
    have hlog : i < log.length := h.1 ▸ hi
    refine ⟨by rw [hfile, List.take_append_of_le_length (by omega)], bytes, ?_, hsize⟩
    rwa [List.getElem?_append_left hlog]
  · have hlen := h.1
    obtain ⟨j, rfl⟩ : ∃ j, i = stripes.length + j := ⟨i - stripes.length, by omega⟩
    rw [List.getElem?_append_right hi, Nat.add_sub_cancel_left] at hs
    obtain ⟨hfile, bytes, hbytes, hsize⟩ := h'.2 j s hs
    refine ⟨?_, bytes, ?_, hsize⟩
    · rw [hfile, hlen, List.take_append, List.flatten_append, List.length_append, Nat.add_assoc]
    · rwa [hlen, List.getElem?_append_right (by omega), Nat.add_sub_cancel_left]

/-- One stripe, recorded at `base` with the length of its bytes. -/
theorem offsetsFrom_singleton {base : Nat} {stripe : StripeMetadata} {bytes : List UInt8}
    (hoffset : stripe.fileOffset = base) (hsize : stripe.size = bytes.length) :
    OffsetsFrom base [stripe] [bytes] := by
  refine ⟨rfl, fun i s hs => ?_⟩
  cases i with
  | zero =>
    cases hs
    exact ⟨by simp [hoffset], bytes, rfl, hsize⟩
  | succ i => simp at hs

theorem OffsetsFrom.concat {base : Nat} {stripes : List StripeMetadata}
    {log : List (List UInt8)} {stripe : StripeMetadata} {bytes : List UInt8}
    (h : OffsetsFrom base stripes log) (hoffset : stripe.fileOffset = base + log.flatten.length)
    (hsize : stripe.size = bytes.length) :
    OffsetsFrom base (stripes ++ [stripe]) (log ++ [bytes]) :=
  h.append (offsetsFrom_singleton hoffset hsize)

/-- The stripes end where their bytes do. -/
theorem OffsetsFrom.end_eq {base : Nat} {stripes : List StripeMetadata}
    {log : List (List UInt8)} (h : OffsetsFrom base stripes log) :
    (stripes.getLast?.map StripeMetadata.endOffset).getD base = base + log.flatten.length := by
  rcases List.eq_nil_or_concat stripes with rfl | ⟨stripes', stripe, rfl⟩
  · have : log = [] := List.eq_nil_of_length_eq_zero (by simpa using h.1.symm)
    simp [this]
  · have hlen : log.length = stripes'.length + 1 := by simpa using h.1.symm
    obtain ⟨hfile, bytes, hbytes, hsize⟩ := h.2 stripes'.length stripe (by simp)
    have htake : log.take (stripes'.length + 1) = log := List.take_of_length_le (by omega)
    rw [← htake, length_flatten_take_succ hbytes]
    simp [StripeMetadata.endOffset, hfile, hsize, Nat.add_assoc]

/-- Entry `i` of a log sits, in the log's bytes after `front`, after the entries before it. -/
theorem occursAt_flatten (front : List UInt8) {log : List (List UInt8)} {i : Nat}
    {bytes : List UInt8} (h : log[i]? = some bytes) :
    OccursAt (front ++ log.flatten) (front.length + (log.take i).flatten.length) bytes := by
  obtain ⟨hi, rfl⟩ := List.getElem?_eq_some_iff.mp h
  have hsplit : log = log.take i ++ log[i] :: log.drop (i + 1) := by
    rw [← List.drop_eq_getElem_cons hi, List.take_append_drop]
  refine @occursAt_of_eq _ _ (front ++ (log.take i).flatten) _ (log.drop (i + 1)).flatten _ ?_
    (by simp)
  conv_lhs => rw [hsplit, List.flatten_append, List.flatten_cons]
  simp

/-- Offsets from 0 into a stream of exactly the stripes' bytes lay the stripes out. -/
theorem OffsetsFrom.laidOut {stripes : List StripeMetadata} {log : List (List UInt8)}
    (h : OffsetsFrom 0 stripes log) : StripesLaidOut stripes log log.flatten := by
  refine ⟨h.1, fun s hs => ?_, fun i s s' hs hs' => ?_, fun i s bytes hs hbytes => ?_, rfl⟩
  · obtain ⟨hfile, -⟩ := h.2 0 s (by simpa [List.head?_eq_getElem?] using hs)
    simpa using hfile
  · obtain ⟨hfile, bytes, hbytes, hsize⟩ := h.2 i s hs
    obtain ⟨hfile', -⟩ := h.2 (i + 1) s' hs'
    rw [hfile', StripeMetadata.endOffset, hfile, hsize, length_flatten_take_succ hbytes,
      Nat.add_assoc]
  · obtain ⟨hfile, bytes', hbytes', hsize⟩ := h.2 i s hs
    obtain rfl := Option.some.inj (hbytes'.symm.trans hbytes)
    refine ⟨hsize, ?_⟩
    simpa [hfile] using occursAt_flatten [] hbytes

/-! ### Along a session -/

variable (g k)

/-- The cursor `CStoreBeginWrite` places: right after the last committed stripe. -/
def committedEnd (relation : Relation) : Nat :=
  ((committedStripes k relation).getLast?.map StripeMetadata.endOffset).getD 0

/-- What a session keeps from its start, where the footer fork was `footerFork`, the data
fork's stream `stream`, the committed stripes `stripes` and the cursor `base`: the footer
fork is untouched, the stream grows by exactly the flushed stripes, the data fork is ready
at `activeBlockNumber`, the cursor is `base` plus the bytes flushed, and the footer lists
`stripes` and then one stripe per flush, at offsets counted from `base`. -/
structure SessionInv (footerFork : List Page) (stream : List UInt8) (base : Nat)
    (stripes : List StripeMetadata) (st : TableWriteState) : Prop where
  footerFork_eq : st.relation.footerFork = footerFork
  stream_eq : forkStream st.relation.dataFork = stream ++ st.flushedStripes.flatten
  ready : ReadyAt g st.relation.dataFork st.activeBlockNumber
  offset_eq : st.currentFileOffset = base + st.flushedStripes.flatten.length
  footer : ∃ newStripes, st.tableFooter.stripeMetadataList = stripes ++ newStripes ∧
    OffsetsFrom base newStripes st.flushedStripes

variable {g k}

section SessionInv

variable {footerFork : List Page} {stream : List UInt8} {base : Nat}
  {stripes : List StripeMetadata}

theorem tableFooter_cstoreBeginWrite (relation : Relation) (compressionType : CompressionType)
    (stripeMaxRowCount blockRowCount : Nat) (tupleDescriptor : List Attribute) :
    (cstoreBeginWrite g k relation compressionType stripeMaxRowCount blockRowCount
      tupleDescriptor).tableFooter.stripeMetadataList = committedStripes k relation := by
  cases h : cstoreReadFooter k relation.footerFork <;> simp [cstoreBeginWrite, committedStripes, h]

/-- `CStoreBeginWrite` on a packed data fork whose stream reaches the committed end starts a
session. -/
theorem sessionInv_beginSession {relation : Relation} (session : WriteSession)
    (hpacked : Packed g relation.dataFork)
    (hend : committedEnd k relation ≤ (forkStream relation.dataFork).length) :
    SessionInv g relation.footerFork (forkStream relation.dataFork) (committedEnd k relation)
      (committedStripes k relation) (beginSession g k relation session) := by
  have hfooter := tableFooter_cstoreBeginWrite (g := g) (k := k) relation session.compressionType
    session.stripeMaxRowCount session.blockRowCount session.tupleDescriptor
  have hoffset :
      (beginSession g k relation session).currentFileOffset = committedEnd k relation := by
    simp only [beginSession, cstoreBeginWrite] at hfooter ⊢
    rw [hfooter]
    rfl
  refine ⟨rfl, by simp [beginSession, cstoreBeginWrite], ?_, by simpa using hoffset,
    ⟨[], by simpa [beginSession] using hfooter, offsetsFrom_nil _⟩⟩
  have hready := readyAt_div_of_packed hpacked hend
  rw [← hoffset] at hready
  exact hready

theorem SessionInv.congr {st st' : TableWriteState}
    (h : SessionInv g footerFork stream base stripes st) (hrelation : st'.relation = st.relation)
    (hactive : st'.activeBlockNumber = st.activeBlockNumber)
    (hoffset : st'.currentFileOffset = st.currentFileOffset)
    (hflushed : st'.flushedStripes = st.flushedStripes)
    (hfooter : st'.tableFooter = st.tableFooter) :
    SessionInv g footerFork stream base stripes st' := by
  obtain ⟨h1, h2, h3, h4, h5⟩ := h
  refine ⟨?_, ?_, ?_, ?_, ?_⟩ <;> simp only [hrelation, hactive, hoffset, hflushed, hfooter] <;>
    assumption

/-- A flush appends the stripe's bytes to the stream and its metadata, at the cursor, to the
footer. -/
theorem SessionInv.flush {st st₁ : TableWriteState} {stripeMetadata : StripeMetadata}
    (h : SessionInv g footerFork stream base stripes st)
    (hflush : flushStripe g k st = some (st₁, stripeMetadata)) :
    SessionInv g footerFork stream base stripes
      { st₁ with tableFooter := appendStripeMetadata st₁.tableFooter stripeMetadata } := by
  obtain ⟨buffers, _, _, _, hfile, hsize, rfl, -⟩ := flushStripe_effect hflush
  obtain ⟨hstream, hready⟩ := writeBuffers_appends buffers h.ready
  obtain ⟨newStripes, hlist, hoffsets⟩ := h.footer
  refine ⟨h.footerFork_eq, ?_, hready, ?_, newStripes ++ [stripeMetadata], ?_,
    hoffsets.concat (hfile.trans h.offset_eq) hsize⟩
  · simp [hstream, h.stream_eq]
  · simp [h.offset_eq, Nat.add_assoc]
  · simp [hlist]

theorem SessionInv.writeRow {st st' : TableWriteState} {row : List (Option Datum)}
    (h : SessionInv g footerFork stream base stripes st)
    (hrow : cstoreWriteRow g k st row = some st') :
    SessionInv g footerFork stream base stripes st' := by
  obtain ⟨st₂, hrelation, hactive, hoffset, hflushed, hfooter, rfl | ⟨st₁, stripeMetadata,
    hflush, rfl⟩⟩ := cstoreWriteRow_flushes hrow
  · exact h.congr hrelation hactive hoffset hflushed hfooter
  · exact ((h.congr hrelation hactive hoffset hflushed hfooter).flush hflush).congr rfl rfl
      rfl rfl rfl

theorem SessionInv.writeRows {st st' : TableWriteState} :
    ∀ {rows : List (List (Option Datum))}, SessionInv g footerFork stream base stripes st →
      cstoreWriteRows g k st rows = some st' → SessionInv g footerFork stream base stripes st'
  | [], h, hrows => by
    cases hrows
    exact h
  | row :: rows, h, hrows => by
    rw [cstoreWriteRows, List.foldlM_cons] at hrows
    obtain ⟨st₁, hrow, hrest⟩ := Option.bind_eq_some.mp hrows
    exact SessionInv.writeRows (h.writeRow hrow) hrest

theorem SessionInv.flushLast {st st' : TableWriteState}
    (h : SessionInv g footerFork stream base stripes st)
    (hflush : flushLastStripe g k st = some st') :
    SessionInv g footerFork stream base stripes st' := by
  unfold flushLastStripe at hflush
  split at hflush
  · simp only [Option.bind_eq_bind, Option.bind_eq_some, Option.pure_def,
      Option.some.injEq] at hflush
    obtain ⟨⟨st₁, stripeMetadata⟩, hstripe, rfl⟩ := hflush
    exact h.flush hstripe
  · cases hflush
    exact h

end SessionInv

/-! ### Ending a session -/

/-- A complete session from a valid footer fork and a packed data fork whose stream reaches the
committed end appends its stripes' bytes to the stream and their metadata, at offsets counted
from the committed end, to the committed stripes. -/
theorem completeSession_spec (hmeta : ∀ s c,
      k.deserializeTableFooterMetadata (k.serializeTableFooterMetadata s c) = (s, c))
    (hfooter : ∀ tableFooter, k.deserializeTableFooter (wholeFooter k tableFooter) =
      some tableFooter)
    {relation : Relation} {session : WriteSession} {st : TableWriteState}
    (hvalid : HeaderValid k relation.footerFork) (hpacked : Packed g relation.dataFork)
    (hend : committedEnd k relation ≤ (forkStream relation.dataFork).length)
    (h : completeSession g k relation session = some st) :
    HeaderValid k st.relation.footerFork ∧ Packed g st.relation.dataFork ∧
      forkStream st.relation.dataFork =
        forkStream relation.dataFork ++ st.flushedStripes.flatten ∧
      ∃ newStripes, committedStripes k st.relation = committedStripes k relation ++ newStripes ∧
        OffsetsFrom (committedEnd k relation) newStripes st.flushedStripes := by
  obtain ⟨st₁, hrows, hend'⟩ := Option.bind_eq_some.mp h
  have hinv := (sessionInv_beginSession session hpacked hend).writeRows hrows
  simp only [cstoreEndWrite, Option.bind_eq_bind, Option.bind_eq_some, Option.pure_def,
    Option.some.injEq] at hend'
  obtain ⟨st₂, hlast, footerFork, hwrite, rfl⟩ := hend'
  have hinv₂ := hinv.flushLast hlast
  rw [hinv₂.footerFork_eq] at hwrite
  obtain ⟨newStripes, hlist, hoffsets⟩ := hinv₂.footer
  refine ⟨headerValid_cstoreWriteFooter hmeta hvalid hwrite, hinv₂.ready.packed,
    hinv₂.stream_eq, newStripes, ?_, hoffsets⟩
  rw [committedStripes, cstoreReadFooter_cstoreWriteFooter hmeta hvalid hwrite, hfooter]
  exact hlist

/-- An abandoned session keeps the footer fork, and appends the bytes of the stripes it
flushed to the stream. -/
theorem abandonedSession_spec {relation : Relation} {session : WriteSession}
    {st : TableWriteState} (hpacked : Packed g relation.dataFork)
    (hend : committedEnd k relation ≤ (forkStream relation.dataFork).length)
    (h : abandonedSession g k relation session = some st) :
    st.relation.footerFork = relation.footerFork ∧ Packed g st.relation.dataFork ∧
      forkStream st.relation.dataFork =
        forkStream relation.dataFork ++ st.flushedStripes.flatten := by
  have hinv := (sessionInv_beginSession session hpacked hend).writeRows h
  exact ⟨hinv.footerFork_eq, hinv.ready.packed, hinv.stream_eq⟩

/-! ### Runs of complete sessions -/

variable (g k)

/-- A relation after complete sessions: its footer fork is valid, its data fork packed, and
its stream holds exactly the bytes of the committed stripes, laid out as the footer says. -/
structure Committed (relation : Relation) (log : List (List UInt8)) : Prop where
  headerValid : HeaderValid k relation.footerFork
  packed : Packed g relation.dataFork
  stream : forkStream relation.dataFork = log.flatten
  offsets : OffsetsFrom 0 (committedStripes k relation) log

variable {g k}

theorem committed_empty : Committed g k ⟨[], []⟩ [] :=
  ⟨by simp [HeaderValid], packed_nil g, rfl, offsetsFrom_nil 0⟩

theorem Committed.committedEnd_eq {relation : Relation} {log : List (List UInt8)}
    (h : Committed g k relation log) :
    committedEnd k relation = (forkStream relation.dataFork).length := by
  rw [committedEnd, h.offsets.end_eq, h.stream, Nat.zero_add]

/-- A complete session keeps a relation committed, and its footer lists the stripes it had and
then one per stripe the session flushed. -/
theorem Committed.completeSession (hmeta : ∀ s c,
      k.deserializeTableFooterMetadata (k.serializeTableFooterMetadata s c) = (s, c))
    (hfooter : ∀ tableFooter, k.deserializeTableFooter (wholeFooter k tableFooter) =
      some tableFooter)
    {relation : Relation} {log : List (List UInt8)}
    {session : WriteSession} {st : TableWriteState} (h : Committed g k relation log)
    (hsession : completeSession g k relation session = some st) :
    Committed g k st.relation (log ++ st.flushedStripes) ∧
      ∃ newStripes, committedStripes k st.relation = committedStripes k relation ++ newStripes ∧
        newStripes.length = st.flushedStripes.length := by
  obtain ⟨hvalid, hpacked, hstream, newStripes, hlist, hoffsets⟩ :=
    completeSession_spec hmeta hfooter h.headerValid h.packed h.committedEnd_eq.le hsession
  rw [h.committedEnd_eq, h.stream] at hoffsets
  refine ⟨⟨hvalid, hpacked, by rw [hstream, h.stream, List.flatten_append], ?_⟩, newStripes,
    hlist, hoffsets.1⟩
  rw [hlist]
  exact h.offsets.append (by simpa using hoffsets)

theorem committed_completeRun (hmeta : ∀ s c,
      k.deserializeTableFooterMetadata (k.serializeTableFooterMetadata s c) = (s, c))
    (hfooter : ∀ tableFooter, k.deserializeTableFooter (wholeFooter k tableFooter) =
      some tableFooter) :
    ∀ {sessions : List WriteSession} {start : Relation × List (List UInt8)}
      {run : Relation × List (List UInt8)}, Committed g k start.1 start.2 →
      sessions.foldlM (fun run session => (CStoreWriter.completeSession g k run.1 session).map
        fun st => (st.relation, run.2 ++ st.flushedStripes)) start = some run →
      Committed g k run.1 run.2
  | [], _, _, h, hrun => by
    cases hrun
    exact h
  | session :: sessions, start, run, h, hrun => by
    rw [List.foldlM_cons] at hrun
    obtain ⟨next, hnext, hrest⟩ := Option.bind_eq_some.mp hrun
    obtain ⟨st, hsession, rfl⟩ := Option.map_eq_some'.mp hnext
    exact committed_completeRun hmeta hfooter (h.completeSession hmeta hfooter hsession).1 hrest

/-- **Complete sessions commit their stripes where the footer says.** On a relation reached by
complete sessions from an empty one, with metadata codecs that read back what they write, a
further complete session extends the run; the committed footer lists the stripes it read at
the session's start and then one stripe per stripe the session flushed, in flush order; the
stripes lie one after the other from offset 0 of the data fork's stream, which holds exactly
the bytes `FlushStripe` emitted for them, each at its recorded offset; and the stream before
the session is a prefix of the stream after it. -/
theorem completeRun_commits (hmeta : ∀ s c,
      k.deserializeTableFooterMetadata (k.serializeTableFooterMetadata s c) = (s, c))
    (hfooter : ∀ tableFooter, k.deserializeTableFooter (wholeFooter k tableFooter) =
      some tableFooter)
    {sessions : List WriteSession} {relation : Relation} {log : List (List UInt8)}
    (hrun : completeRun g k sessions = some (relation, log)) {session : WriteSession}
    {st : TableWriteState} (hsession : completeSession g k relation session = some st) :
    completeRun g k (sessions ++ [session]) = some (st.relation, log ++ st.flushedStripes) ∧
      (∃ newStripes, committedStripes k st.relation = committedStripes k relation ++ newStripes ∧
        newStripes.length = st.flushedStripes.length) ∧
      StripesLaidOut (committedStripes k st.relation) (log ++ st.flushedStripes)
        (forkStream st.relation.dataFork) ∧
      forkStream relation.dataFork <+: forkStream st.relation.dataFork := by
  have h := committed_completeRun hmeta hfooter committed_empty hrun
  obtain ⟨hcommitted, hnew⟩ := h.completeSession hmeta hfooter hsession
  refine ⟨?_, hnew, ?_, ?_⟩
  · rw [completeRun, List.foldlM_append, ← completeRun, hrun]
    simp [hsession]
  · rw [hcommitted.stream]
    exact hcommitted.offsets.laidOut
  · rw [hcommitted.stream, h.stream, List.flatten_append]
    exact List.prefix_append _ _

/-- A first load of three rows of an `int4` column, two rows to a stripe and two to a block. -/
def firstLoad : WriteSession :=
  ⟨.compressionNone, 2, 2, [int4Attribute], [[some (.byVal 5)], [some (.byVal 7)], [none]]⟩

theorem completeRun_commits_firstLoad :
    (∀ s c, exampleCodecs.deserializeTableFooterMetadata
      (exampleCodecs.serializeTableFooterMetadata s c) = (s, c)) ∧
    (∀ tableFooter, exampleCodecs.deserializeTableFooter (wholeFooter exampleCodecs tableFooter) =
      some tableFooter) ∧
    completeRun defaultGeometry exampleCodecs [] = some (⟨[], []⟩, []) ∧
    ∃ st, completeSession defaultGeometry exampleCodecs ⟨[], []⟩ firstLoad = some st ∧
      committedStripes exampleCodecs st.relation = [⟨0, 3, 9, 15⟩, ⟨27, 2, 1, 6⟩] ∧
      StripesLaidOut (committedStripes exampleCodecs st.relation) ([] ++ st.flushedStripes)
        (forkStream st.relation.dataFork) := by
  obtain ⟨st, hst⟩ := Option.isSome_iff_exists.mp
    (rfl : (completeSession defaultGeometry exampleCodecs ⟨[], []⟩ firstLoad).isSome = true)
  obtain ⟨-, -, hlaid, -⟩ := @completeRun_commits defaultGeometry exampleCodecs
    exampleCodecs_tableFooterMetadata exampleCodecs_deserializeTableFooter [] ⟨[], []⟩ [] rfl
    firstLoad st hst
  have hstripes : (completeSession defaultGeometry exampleCodecs ⟨[], []⟩ firstLoad).map
      (fun st => committedStripes exampleCodecs st.relation) =
        some [⟨0, 3, 9, 15⟩, ⟨27, 2, 1, 6⟩] := rfl
  rw [hst] at hstripes
  exact ⟨exampleCodecs_tableFooterMetadata, exampleCodecs_deserializeTableFooter, rfl, st, hst,
    Option.some.inj hstripes, hlaid⟩

/-! ### An abandoned session -/

/-- **An abandoned session shifts the stripes of the next complete one.** On a relation reached
by complete sessions, a session that flushes stripes and never ends leaves their bytes on
the data fork and the footer as it was. The next complete session starts its cursor at the
end of the last committed stripe, so the stripes it commits record offsets counted from
there, while `WriteToFile` appends their bytes after the orphaned ones: each committed new
stripe's bytes lie at its recorded offset plus the length of the orphaned bytes. -/
theorem abandonedSession_shifts (hmeta : ∀ s c,
      k.deserializeTableFooterMetadata (k.serializeTableFooterMetadata s c) = (s, c))
    (hfooter : ∀ tableFooter, k.deserializeTableFooter (wholeFooter k tableFooter) =
      some tableFooter)
    {sessions : List WriteSession} {relation : Relation} {log : List (List UInt8)}
    (hrun : completeRun g k sessions = some (relation, log)) {abandoned session : WriteSession}
    {stAbandoned st : TableWriteState}
    (habandoned : abandonedSession g k relation abandoned = some stAbandoned)
    (hsession : completeSession g k stAbandoned.relation session = some st) :
    ∃ newStripes, committedStripes k st.relation = committedStripes k relation ++ newStripes ∧
      OffsetsFrom log.flatten.length newStripes st.flushedStripes ∧
      forkStream st.relation.dataFork =
        log.flatten ++ stAbandoned.flushedStripes.flatten ++ st.flushedStripes.flatten ∧
      ∀ (i : Nat) (stripe : StripeMetadata) (bytes : List UInt8), newStripes[i]? = some stripe →
        st.flushedStripes[i]? = some bytes →
          OccursAt (forkStream st.relation.dataFork)
            (stripe.fileOffset + stAbandoned.flushedStripes.flatten.length) bytes := by
  have h : Committed g k relation log := committed_completeRun hmeta hfooter committed_empty hrun
  obtain ⟨hfork, hpacked, hstream⟩ := abandonedSession_spec h.packed h.committedEnd_eq.le habandoned
  have hcommitted : committedStripes k stAbandoned.relation = committedStripes k relation := by
    rw [committedStripes, hfork, ← committedStripes]
  have hend : committedEnd k stAbandoned.relation = log.flatten.length := by
    rw [committedEnd, hcommitted, ← committedEnd, h.committedEnd_eq, h.stream]
  have hbefore : forkStream stAbandoned.relation.dataFork =
      log.flatten ++ stAbandoned.flushedStripes.flatten := by
    rw [hstream, h.stream]
  obtain ⟨-, -, hafter, newStripes, hlist, hoffsets⟩ := completeSession_spec hmeta hfooter
    (hfork ▸ h.headerValid) hpacked (by simp [hend, hbefore]) hsession
  rw [hend] at hoffsets
  rw [hbefore] at hafter
  refine ⟨newStripes, hcommitted ▸ hlist, hoffsets, hafter, fun i stripe bytes hs hb => ?_⟩
  rw [hafter, (hoffsets.2 i stripe hs).1]
  have hat := occursAt_flatten (log.flatten ++ stAbandoned.flushedStripes.flatten) hb
  rw [List.length_append] at hat
  rwa [Nat.add_right_comm]

/-- A load of one `int4` row, flushed as a stripe of its own. -/
def oneRowLoad (value : Nat) : WriteSession :=
  ⟨.compressionNone, 1, 1, [int4Attribute], [[some (.byVal value)]]⟩

/-- A load of 5 abandoned after its stripe is flushed, then a complete load of 7: the footer
records 7's stripe at offset 0, where the data fork holds 5's stripe; 7's bytes are 17 bytes
further on. -/
theorem abandonedSession_shifts_orphan :
    (∀ s c, exampleCodecs.deserializeTableFooterMetadata
      (exampleCodecs.serializeTableFooterMetadata s c) = (s, c)) ∧
    (∀ tableFooter, exampleCodecs.deserializeTableFooter (wholeFooter exampleCodecs tableFooter) =
      some tableFooter) ∧
    completeRun defaultGeometry exampleCodecs [] = some (⟨[], []⟩, []) ∧
    ∃ stAbandoned st,
      abandonedSession defaultGeometry exampleCodecs ⟨[], []⟩ (oneRowLoad 5) = some stAbandoned ∧
      completeSession defaultGeometry exampleCodecs stAbandoned.relation (oneRowLoad 7) =
        some st ∧
      committedStripes exampleCodecs st.relation = [⟨0, 2, 5, 10⟩] ∧
      st.flushedStripes = [[1, 0, 1, 7, 0, 0, 0, 1, 1, 0, 1, 0, 1, 1, 1, 1, 0]] ∧
      OccursAt (forkStream st.relation.dataFork) 17
        [1, 0, 1, 7, 0, 0, 0, 1, 1, 0, 1, 0, 1, 1, 1, 1, 0] ∧
      ¬OccursAt (forkStream st.relation.dataFork) 0
        [1, 0, 1, 7, 0, 0, 0, 1, 1, 0, 1, 0, 1, 1, 1, 1, 0] := by
  have hloads : ((abandonedSession defaultGeometry exampleCodecs ⟨[], []⟩ (oneRowLoad 5)).bind
      fun stAbandoned => (completeSession defaultGeometry exampleCodecs stAbandoned.relation
        (oneRowLoad 7)).map fun st => (stAbandoned.flushedStripes.flatten.length,
          committedStripes exampleCodecs st.relation, st.flushedStripes,
          (forkStream st.relation.dataFork).take 17)) =
      some (17, [⟨0, 2, 5, 10⟩], [[1, 0, 1, 7, 0, 0, 0, 1, 1, 0, 1, 0, 1, 1, 1, 1, 0]],
        [1, 0, 1, 5, 0, 0, 0, 1, 1, 0, 1, 0, 1, 1, 1, 1, 0]) := rfl
  obtain ⟨stAbandoned, habandoned, hmap⟩ := Option.bind_eq_some.mp hloads
  obtain ⟨st, hst, hfacts⟩ := Option.map_eq_some'.mp hmap
  simp only [Prod.mk.injEq] at hfacts
  obtain ⟨horphan, hstripes, hflushed, hfront⟩ := hfacts
  obtain ⟨newStripes, hlist, -, -, hat⟩ := @abandonedSession_shifts defaultGeometry exampleCodecs
    exampleCodecs_tableFooterMetadata exampleCodecs_deserializeTableFooter [] ⟨[], []⟩ [] rfl
    (oneRowLoad 5) (oneRowLoad 7) stAbandoned st habandoned hst
  have hnew : newStripes = [⟨0, 2, 5, 10⟩] := by
    rw [hstripes] at hlist
    exact hlist.symm
  refine ⟨exampleCodecs_tableFooterMetadata, exampleCodecs_deserializeTableFooter, rfl,
    stAbandoned, st, habandoned, hst, hstripes, hflushed, ?_, ?_⟩
  · simpa [horphan] using hat 0 _ _ (by rw [hnew]; rfl) (by rw [hflushed]; rfl)
  · intro hoccurs
    simp only [OccursAt, List.drop_zero, List.length_cons, List.length_nil] at hoccurs
    rw [hfront] at hoccurs
    exact absurd hoccurs (by decide)

end CStoreWriter
