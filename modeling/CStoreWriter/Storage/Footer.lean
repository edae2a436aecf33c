import CStoreWriter.Metadata
import CStoreWriter.Storage.Page

/-!
# `CStoreWriteFooter`: the footer fork

At the end of a session the table footer is serialized into one stream: its length as an
`int32`, `SerializeTableFooter`, `SerializePostScript` of the footer's size, and the
postscript's size in a last byte. `CStoreWriteFooter` copies the stream onto consecutive
blocks of the footer fork, `CSTORE_PAGE_DATA_SIZE` bytes a page, and then rewrites block 0,
the header, with the range it used. The range is chosen so that it does not meet the range
the header records: block 1 when the new footer fits before the old one, else the block
after the old one. The header page is the single commit point.

## Main definitions

* `wholeFooter` — the stream `CStoreWriteFooter` lays out
* `newStartingBlock` — the three-way rule on the parsed header
* `writeFooterPages` — the page loop
* `writeFooterData`, `cstoreWriteFooter` — the call up to the header rewrite, and all of it
* `cstoreReadFooter` — the reader's view of the footer fork

## Main results

* `writeFooterPages_eq` — the loop splices one page per chunk into the fork at the chosen
  block, `P_NEW` landing on exactly the block it was meant for
* `cstoreWriteFooter_commits` — after every call of a run from an empty fork, the header
  points to a range of the fork that holds exactly the new stream
* `writeFooterData_frame` — the pages a call writes before the header miss block 0 and the
  committed range, which reads back unchanged until the header is rewritten
* `cstoreWriteFooter_atomic` — a crash after any page of a call leaves the old footer, and
  the call leaves the new one
* `length_footerRun_le` — however many calls a run makes, the fork stays within three times
  the largest footer's blocks, plus the header
-/

namespace CStoreWriter

/-- The host's `MaxAllocSize`: `enlargeStringInfo` refuses to grow a buffer to this many
bytes. -/
def maxAllocSize : Nat := 0x3fffffff

/-- Modelled from the spec: `CSTORE_POSTSCRIPT_SIZE_MAX`, declared outside `src/`. The
postscript's size must fit in the one byte that ends the footer stream. -/
def cstorePostscriptSizeMax : Nat := 256

/-- The all-zero page `ReadBufferExtended` returns for `P_NEW` before `PageInit`; nothing
reads it before it is initialized. -/
def zeroPage : Page := ⟨0, []⟩

variable (g : PageGeometry) (k : Codecs)

/-- `SerializePostScript` of the size of `SerializeTableFooter`. -/
def postscriptBuffer (tableFooter : TableFooter) : List UInt8 :=
  k.serializePostScript (k.serializeTableFooter tableFooter).length

/-- The stream after its length field: the footer, the postscript, and the postscript's
size in one byte. -/
def footerBody (tableFooter : TableFooter) : List UInt8 :=
  k.serializeTableFooter tableFooter ++ postscriptBuffer k tableFooter ++
    [UInt8.ofNat (postscriptBuffer k tableFooter).length]

/-- `wholeFooter`: the footer stream, its first four bytes patched with its length. -/
def wholeFooter (tableFooter : TableFooter) : List UInt8 :=
  leBytes 4 (4 + (footerBody k tableFooter).length) ++ footerBody k tableFooter

/-- Where `CStoreWriteFooter` starts the new footer: block 1 on an empty fork or when the
header does not parse (`startingBlock = 0`), block 1 again when the new footer fits before
the current one, and right after the current one otherwise. -/
def newStartingBlock (originalBlockCount actualBlockCount : Nat) (header : Page) : Nat :=
  if originalBlockCount = 0 then 1
  else
    let parsed := k.deserializeTableFooterMetadata header.payload
    if parsed.1 = 0 then 1
    else if actualBlockCount < parsed.1 then 1
    else parsed.1 + parsed.2

/-- The page `ReadBufferExtended` gives for block `i`: block `i` itself, or with `P_NEW` a
page appended at the end of the fork. -/
def placePage (fork : List Page) (i : Nat) (page : Page) : List Page :=
  if i < fork.length then fork.set i page else fork ++ [page]

/-- The page loop of `CStoreWriteFooter`: block `blockNumber` is reinitialized and gets the
next `CSTORE_PAGE_DATA_SIZE` bytes of the stream; a block at or past `originalBlockCount`
comes from `P_NEW`. Returns the fork and `BufferGetBlockNumber` of each buffer. -/
def writeFooterPages (originalBlockCount : Nat) :
    List Page → Nat → Nat → List UInt8 → List Page × List Nat
  | fork, _, 0, _ => (fork, [])
  | fork, blockNumber, n + 1, data =>
    let copySize :=
      if data.length ≤ cstorePageDataSize g then data.length else cstorePageDataSize g
    let actualBlockNumber := if originalBlockCount ≤ blockNumber then fork.length else blockNumber
    let next := writeFooterPages originalBlockCount
      (placePage fork actualBlockNumber ((pageInit g).append (data.take copySize)))
      (blockNumber + 1) n (data.drop copySize)
    (next.1, actualBlockNumber :: next.2)

/-- The footer fork as `CStoreWriteFooter` leaves it before it rewrites the header page,
with the range it wrote and the block numbers the loop's buffers had. -/
structure FooterPages where
  fork : List Page
  newStartingBlock : Nat
  actualBlockCount : Nat
  actualBlockNumbers : List Nat

/-- `CStoreWriteFooter` up to the rewrite of the header page. It fails, before touching a
page, when the postscript's size does not fit in a byte (the `Assert`) or the stream
reaches `MaxAllocSize`. -/
def writeFooterData (tableFooter : TableFooter) (footerFork : List Page) :
    Option FooterPages :=
  let originalBlockCount := footerFork.length
  if cstorePostscriptSizeMax ≤ (postscriptBuffer k tableFooter).length then none
  else if maxAllocSize ≤ (wholeFooter k tableFooter).length then none
  else
    let dataLength := (wholeFooter k tableFooter).length
    let actualBlockCount := (dataLength - 1) / cstorePageDataSize g + 1
    -- the header buffer: block 0, or a new page for it on an empty fork
    let fork := if 0 < originalBlockCount then footerFork else [zeroPage]
    let start := newStartingBlock k originalBlockCount actualBlockCount (fork.getD 0 zeroPage)
    let written := writeFooterPages g originalBlockCount fork start actualBlockCount
      (wholeFooter k tableFooter)
    some ⟨written.1, start, actualBlockCount, written.2⟩

/-- `CStoreWriteFooter(tableFooter, relation)` on the footer fork. -/
def cstoreWriteFooter (tableFooter : TableFooter) (footerFork : List Page) :
    Option (List Page) :=
  (writeFooterData g k tableFooter footerFork).map fun pages =>
    pages.fork.set 0 ((pageInit g).append
      (k.serializeTableFooterMetadata pages.newStartingBlock pages.actualBlockCount))

/-- Modelled from the spec: `CStoreReadFooter`, in the reader outside `src/`. A footer fork
whose header page parses to a starting block other than 0 holds the footer in the stream
of the block range the header records; otherwise there is no footer. -/
def cstoreReadFooter (footerFork : List Page) : Option TableFooter :=
  match footerFork with
  | [] => none
  | header :: _ =>
    let parsed := k.deserializeTableFooterMetadata header.payload
    if parsed.1 = 0 then none
    else k.deserializeTableFooter (forkStream ((footerFork.drop parsed.1).take parsed.2))

/-- The chunks the page loop copies, `D` bytes each from the start of the stream. -/
def pageChunks (D : Nat) : Nat → List UInt8 → List (List UInt8)
  | 0, _ => []
  | n + 1, data => data.take D :: pageChunks D n (data.drop D)

/-- The footer fork is empty, or its header page parses to a range of blocks of the fork
that starts at block 1 or later: what every `CStoreWriteFooter` leaves behind. -/
def HeaderValid (footerFork : List Page) : Prop :=
  ∀ header ∈ footerFork.head?, 1 ≤ (k.deserializeTableFooterMetadata header.payload).1 ∧
    (k.deserializeTableFooterMetadata header.payload).1 +
      (k.deserializeTableFooterMetadata header.payload).2 ≤ footerFork.length

/-- The footer fork after a run of `CStoreWriteFooter` calls from an empty fork; a call
that fails fails before it touches a page. -/
def footerRun (footers : List TableFooter) : List Page :=
  footers.foldl (fun fork tableFooter => (cstoreWriteFooter g k tableFooter fork).getD fork) []

variable {g k}

/-! ### The page loop -/

theorem length_pageChunks (D : Nat) : ∀ (n : Nat) (data : List UInt8),
    (pageChunks D n data).length = n
  | 0, _ => rfl
  | n + 1, data => by simp [pageChunks, length_pageChunks D n]

theorem flatten_pageChunks (D : Nat) : ∀ (n : Nat) (data : List UInt8),
    (pageChunks D n data).flatten = data.take (n * D)
  | 0, _ => by simp [pageChunks]
  | n + 1, data => by
    rw [pageChunks, List.flatten_cons, flatten_pageChunks D n, Nat.succ_mul, Nat.add_comm,
      List.take_add]

/-- Copying `min remaining D` bytes takes and leaves what copying `D` would. -/
theorem copySize_eq (D : Nat) (data : List UInt8) :
    data.take (if data.length ≤ D then data.length else D) = data.take D ∧
      data.drop (if data.length ≤ D then data.length else D) = data.drop D := by
  split
  · rw [List.take_length, List.take_of_length_le ‹_›, List.drop_length,
      List.drop_eq_nil_of_le ‹_›]
    exact ⟨rfl, rfl⟩
  · exact ⟨rfl, rfl⟩

theorem forkStream_map_pageInit_append (chunks : List (List UInt8)) :
    forkStream (chunks.map (pageInit g).append) = chunks.flatten := by
  induction chunks with
  | nil => rfl
  | cons c cs ih => simp [ih]

/-- **The page loop splices.** Started at a block within the fork, and with every block at
or past `originalBlockCount` at the fork's end when it is reached, the loop replaces blocks
`blockNumber, ..., blockNumber + n - 1` by one page per chunk of the stream and leaves every
other block alone; `P_NEW` lands on exactly the block number the loop meant. -/
theorem writeFooterPages_eq (o : Nat) : ∀ (n : Nat) (fork : List Page) (b : Nat)
    (data : List UInt8), o ≤ fork.length → b ≤ fork.length → fork.length ≤ max o b →
    writeFooterPages g o fork b n data =
      (fork.take b ++ (pageChunks (cstorePageDataSize g) n data).map (pageInit g).append ++
        fork.drop (b + n), List.range' b n)
  | 0, fork, b, data, _, _, _ => by simp [writeFooterPages, pageChunks]
  | n + 1, fork, b, data, ho, hb, hmax => by
    obtain ⟨htake, hdrop⟩ := copySize_eq (cstorePageDataSize g) data
    set page := (pageInit g).append (data.take (cstorePageDataSize g))
    -- the block this pass writes is block `b`, whether it exists or comes from `P_NEW`
    have hactual : (if o ≤ b then fork.length else b) = b := by split <;> omega
    have hplace : placePage fork b page = fork.take b ++ page :: fork.drop (b + 1) := by
      unfold placePage
      split
      · rw [List.set_eq_take_append_cons_drop, if_pos ‹_›]
      · obtain rfl : b = fork.length := by omega
        simp
    have hlen : (fork.take b ++ page :: fork.drop (b + 1)).length = max fork.length (b + 1) := by
      simp only [List.length_append, List.length_take, List.length_cons, List.length_drop]
      omega
    simp only [writeFooterPages, htake, hdrop, hactual, hplace]
    rw [writeFooterPages_eq o n _ (b + 1) _ (by omega) (by omega) (by omega)]
    have htakeb : (fork.take b).length = b := by simp; omega
    have hfront : (fork.take b ++ page :: fork.drop (b + 1)).take (b + 1) =
        fork.take b ++ [page] := by
      rw [List.take_append_eq_append_take, htakeb, List.take_of_length_le (by omega),
        Nat.add_sub_cancel_left]
      rfl
    have hsuffix : (fork.take b ++ page :: fork.drop (b + 1)).drop (b + 1 + n) =
        fork.drop (b + (n + 1)) := by
      rw [List.drop_append_eq_append_drop, htakeb, List.drop_eq_nil_of_le (by omega),
        show b + 1 + n - b = n + 1 by omega, List.nil_append, List.drop_succ_cons, List.drop_drop]
      congr 1
      omega
    rw [hfront, hsuffix]
    simp [pageChunks, List.range'_succ, page]

/-! ### One call -/

theorem length_wholeFooter (tableFooter : TableFooter) :
    (wholeFooter k tableFooter).length = 4 + (footerBody k tableFooter).length := by
  simp [wholeFooter]

/-- The stream starts with its own length and ends with the postscript's size. -/
theorem wholeFooter_ends (tableFooter : TableFooter) :
    (wholeFooter k tableFooter).take 4 = leBytes 4 (wholeFooter k tableFooter).length ∧
      (wholeFooter k tableFooter).getLast? =
        some (UInt8.ofNat (postscriptBuffer k tableFooter).length) := by
  rw [length_wholeFooter]
  constructor
  · simp [wholeFooter]
  · simp [wholeFooter, footerBody, List.getLast?_append]

theorem newStartingBlock_le {footerFork : List Page} (hvalid : HeaderValid k footerFork)
    (hne : footerFork ≠ []) (actualBlockCount : Nat) :
    1 ≤ newStartingBlock k footerFork.length actualBlockCount (footerFork.getD 0 zeroPage) ∧
      newStartingBlock k footerFork.length actualBlockCount (footerFork.getD 0 zeroPage) ≤
        footerFork.length := by
  obtain ⟨header, rest, rfl⟩ := List.exists_cons_of_ne_nil hne
  have := hvalid header rfl
  unfold newStartingBlock
  simp only [List.length_cons, List.getD_cons_zero]
  split_ifs <;> simp only [List.length_cons] at this ⊢ <;> omega

/-- The header buffer's fork, and where the page loop starts in it: a block of that fork
past the header, at or before the fork's end. -/
theorem newStartingBlock_within {footerFork : List Page} (hvalid : HeaderValid k footerFork)
    (actualBlockCount : Nat) :
    1 ≤ newStartingBlock k footerFork.length actualBlockCount (footerFork.getD 0 zeroPage) ∧
      newStartingBlock k footerFork.length actualBlockCount (footerFork.getD 0 zeroPage) ≤
        (if 0 < footerFork.length then footerFork else [zeroPage]).length ∧
      (if 0 < footerFork.length then footerFork else [zeroPage]).length ≤ max footerFork.length
        (newStartingBlock k footerFork.length actualBlockCount (footerFork.getD 0 zeroPage)) := by
  by_cases hne : footerFork = []
  · subst hne
    simp [newStartingBlock]
  · have := newStartingBlock_le hvalid hne actualBlockCount
    have hpos := List.length_pos.mpr hne
    simp only [hpos, if_true]
    omega

/-- A call on a fork whose header is valid writes the new stream into the blocks from the
starting block the three-way rule picks, and nowhere else. -/
theorem writeFooterData_spec {tableFooter : TableFooter} {footerFork : List Page}
    (hvalid : HeaderValid k footerFork)
    (hpostscript : (postscriptBuffer k tableFooter).length < cstorePostscriptSizeMax)
    (hsize : (wholeFooter k tableFooter).length < maxAllocSize) :
    ∃ pages : FooterPages, writeFooterData g k tableFooter footerFork = some pages ∧
      pages.actualBlockCount =
        ((wholeFooter k tableFooter).length - 1) / cstorePageDataSize g + 1 ∧
      pages.newStartingBlock = newStartingBlock k footerFork.length pages.actualBlockCount
        (footerFork.getD 0 zeroPage) ∧
      1 ≤ pages.newStartingBlock ∧
      pages.fork = (if 0 < footerFork.length then footerFork else [zeroPage]).take
          pages.newStartingBlock ++
        (pageChunks (cstorePageDataSize g) pages.actualBlockCount
          (wholeFooter k tableFooter)).map (pageInit g).append ++
        (if 0 < footerFork.length then footerFork else [zeroPage]).drop
          (pages.newStartingBlock + pages.actualBlockCount) ∧
      pages.actualBlockNumbers = List.range' pages.newStartingBlock pages.actualBlockCount := by
  set n := ((wholeFooter k tableFooter).length - 1) / cstorePageDataSize g + 1
  set s := newStartingBlock k footerFork.length n (footerFork.getD 0 zeroPage)
  have hstart := newStartingBlock_within hvalid n
  have hloop := writeFooterPages_eq (g := g) footerFork.length n _ s (wholeFooter k tableFooter)
    (by split <;> simp; omega) hstart.2.1 hstart.2.2
  refine ⟨⟨_, s, n, _⟩, ?_, rfl, rfl, hstart.1, congrArg Prod.fst hloop,
    congrArg Prod.snd hloop⟩
  simp only [writeFooterData, Nat.not_le.mpr hpostscript, Nat.not_le.mpr hsize, if_false]
  by_cases hne : footerFork = []
  · subst hne
    rfl
  · rw [if_pos (List.length_pos.mpr hne)]

theorem le_actualBlockCount_mul {len D : Nat} (hD : 0 < D) : len ≤ ((len - 1) / D + 1) * D := by
  have := Nat.lt_div_mul_add (a := len - 1) hD
  rw [Nat.succ_mul]
  omega

/-- `(len - 1) / D + 1` is the ceiling of `len / D` for a stream that is not empty. -/
theorem actualBlockCount_eq {len D : Nat} (hlen : 0 < len) (hD : 0 < D) :
    (len - 1) / D + 1 = (len + D - 1) / D := by
  rw [show len + D - 1 = len - 1 + D by omega, Nat.add_div_right _ hD]

/-- The blocks a splice wrote hold the stream, when they are enough for it. -/
theorem forkStream_splice {fork : List Page} {s n : Nat} {data : List UInt8}
    (hs : s ≤ fork.length) (hn : data.length ≤ n * cstorePageDataSize g) :
    forkStream (((fork.take s ++
      (pageChunks (cstorePageDataSize g) n data).map (pageInit g).append ++
        fork.drop (s + n)).drop s).take n) = data := by
  have htake : (fork.take s).length = s := by simp; omega
  rw [List.append_assoc, List.drop_left' htake, List.take_left' (by simp [length_pageChunks]),
    forkStream_map_pageInit_append, flatten_pageChunks, List.take_of_length_le hn]

/-- A splice from block `s ≥ 1` on leaves every block before `s` and every block from
`s + n` on as it was. -/
theorem getElem?_splice {fork : List Page} {s n i : Nat} {pages : List Page} (hs : s ≤ fork.length)
    (hpages : pages.length = n) (hi : i < s ∨ s + n ≤ i) :
    (fork.take s ++ pages ++ fork.drop (s + n))[i]? = fork[i]? := by
  have htake : (fork.take s).length = s := by simp; omega
  rcases hi with hi | hi
  · rw [List.append_assoc, List.getElem?_append_left (by omega), List.getElem?_take_of_lt hi]
  · rw [List.getElem?_append_right (by simp [hpages]; omega), List.getElem?_drop]
    simp only [List.length_append, htake, hpages]
    congr 1
    omega

/-- **One call commits.** On a fork whose header is valid, a call that passes its two checks
writes the stream into `actualBlockCount = ⌈len / CSTORE_PAGE_DATA_SIZE⌉` blocks from a
starting block of at least 1, the block numbers of its buffers are those blocks, and the
new header, which then heads the fork, records that range. -/
theorem cstoreWriteFooter_spec {tableFooter : TableFooter} {footerFork : List Page}
    (hvalid : HeaderValid k footerFork)
    (hpostscript : (postscriptBuffer k tableFooter).length < cstorePostscriptSizeMax)
    (hsize : (wholeFooter k tableFooter).length < maxAllocSize) :
    ∃ (pages : FooterPages) (footerFork' : List Page),
      writeFooterData g k tableFooter footerFork = some pages ∧
      cstoreWriteFooter g k tableFooter footerFork = some footerFork' ∧
      footerFork'.head? = some ((pageInit g).append
        (k.serializeTableFooterMetadata pages.newStartingBlock pages.actualBlockCount)) ∧
      1 ≤ pages.newStartingBlock ∧
      pages.actualBlockCount =
        ((wholeFooter k tableFooter).length + cstorePageDataSize g - 1) / cstorePageDataSize g ∧
      pages.newStartingBlock + pages.actualBlockCount ≤ footerFork'.length ∧
      pages.actualBlockNumbers = List.range' pages.newStartingBlock pages.actualBlockCount ∧
      forkStream ((footerFork'.drop pages.newStartingBlock).take pages.actualBlockCount) =
        wholeFooter k tableFooter := by
  obtain ⟨pages, hpages, hcount, hstartEq, hstart, hfork, hnumbers⟩ :=
    writeFooterData_spec (g := g) hvalid hpostscript hsize
  have hD := cstorePageDataSize_pos g
  have hlen : 0 < (wholeFooter k tableFooter).length := by rw [length_wholeFooter]; omega
  -- the loop's fork reaches past the range it wrote
  set fork0 := if 0 < footerFork.length then footerFork else [zeroPage]
  have hs : pages.newStartingBlock ≤ fork0.length := by
    by_cases hne : footerFork = []
    · subst hne
      simp [hstartEq, fork0, newStartingBlock]
    · have hb := newStartingBlock_le hvalid hne pages.actualBlockCount
      simp only [fork0, List.length_pos.mpr hne, if_true]
      omega
  have hwritten : pages.newStartingBlock + pages.actualBlockCount ≤ pages.fork.length := by
    rw [hfork]
    simp [length_pageChunks]
    omega
  refine ⟨pages, pages.fork.set 0 ((pageInit g).append
    (k.serializeTableFooterMetadata pages.newStartingBlock pages.actualBlockCount)), hpages,
    by simp [cstoreWriteFooter, hpages], ?_, hstart, ?_,
    by simpa using hwritten, hnumbers, ?_⟩
  · obtain ⟨p, ps, hps⟩ := List.exists_cons_of_length_pos (show 0 < pages.fork.length by omega)
    simp [hps]
  · rw [hcount, actualBlockCount_eq hlen hD]
  · rw [List.drop_set_of_lt _ _ (by omega), hfork]
    exact forkStream_splice hs (hcount ▸ le_actualBlockCount_mul hD)

theorem checks_of_writeFooterData {tableFooter : TableFooter} {footerFork : List Page}
    {pages : FooterPages} (hpages : writeFooterData g k tableFooter footerFork = some pages) :
    (postscriptBuffer k tableFooter).length < cstorePostscriptSizeMax ∧
      (wholeFooter k tableFooter).length < maxAllocSize := by
  by_cases h₁ : cstorePostscriptSizeMax ≤ (postscriptBuffer k tableFooter).length
  · simp [writeFooterData, h₁] at hpages
  by_cases h₂ : maxAllocSize ≤ (wholeFooter k tableFooter).length
  · simp [writeFooterData, h₁, h₂] at hpages
  exact ⟨Nat.lt_of_not_le h₁, Nat.lt_of_not_le h₂⟩

theorem checks_of_cstoreWriteFooter {tableFooter : TableFooter} {footerFork footerFork' : List Page}
    (hwrite : cstoreWriteFooter g k tableFooter footerFork = some footerFork') :
    (postscriptBuffer k tableFooter).length < cstorePostscriptSizeMax ∧
      (wholeFooter k tableFooter).length < maxAllocSize := by
  obtain ⟨pages, hpages, -⟩ := Option.map_eq_some'.mp hwrite
  exact checks_of_writeFooterData hpages

/-- Two footer forks with the same header page and the same blocks in the range it records
hold the same footer. -/
theorem cstoreReadFooter_congr {header : Page} {rest rest' : List Page}
    (hrange : ∀ i, (k.deserializeTableFooterMetadata header.payload).1 ≤ i →
      i < (k.deserializeTableFooterMetadata header.payload).1 +
        (k.deserializeTableFooterMetadata header.payload).2 →
      (header :: rest')[i]? = (header :: rest)[i]?) :
    cstoreReadFooter k (header :: rest') = cstoreReadFooter k (header :: rest) := by
  have hblocks : ((header :: rest').drop (k.deserializeTableFooterMetadata header.payload).1).take
      (k.deserializeTableFooterMetadata header.payload).2 =
      ((header :: rest).drop (k.deserializeTableFooterMetadata header.payload).1).take
        (k.deserializeTableFooterMetadata header.payload).2 := by
    apply List.ext_getElem?
    intro j
    simp only [List.getElem?_take, List.getElem?_drop]
    split
    · exact hrange _ (Nat.le_add_right _ _) (by omega)
    · rfl
  simp only [cstoreReadFooter, hblocks]

/-! ### Runs of calls -/

theorem headerValid_cstoreWriteFooter (hmeta : ∀ s c,
      k.deserializeTableFooterMetadata (k.serializeTableFooterMetadata s c) = (s, c))
    {tableFooter : TableFooter} {footerFork footerFork' : List Page}
    (hvalid : HeaderValid k footerFork)
    (hwrite : cstoreWriteFooter g k tableFooter footerFork = some footerFork') :
    HeaderValid k footerFork' := by
  obtain ⟨hpostscript, hsize⟩ := checks_of_cstoreWriteFooter hwrite
  obtain ⟨pages, _, -, hwrite', hhead, hstart, -, hlen, -⟩ :=
    cstoreWriteFooter_spec (g := g) hvalid hpostscript hsize
  obtain rfl := Option.some.inj (hwrite.symm.trans hwrite')
  intro header hheader
  obtain rfl := Option.some.inj (hheader.symm.trans hhead)
  simp only [Page.append_payload, pageInit_payload, List.nil_append, hmeta]
  exact ⟨hstart, hlen⟩

theorem headerValid_foldl (hmeta : ∀ s c,
      k.deserializeTableFooterMetadata (k.serializeTableFooterMetadata s c) = (s, c)) :
    ∀ (footers : List TableFooter) (footerFork : List Page),
    HeaderValid k footerFork → HeaderValid k (footers.foldl
      (fun fork tableFooter => (cstoreWriteFooter g k tableFooter fork).getD fork) footerFork)
  | [], _, h => h
  | tableFooter :: footers, footerFork, h => by
    rw [List.foldl_cons]
    apply headerValid_foldl hmeta footers
    cases hw : cstoreWriteFooter g k tableFooter footerFork with
    | none => exact h
    | some footerFork' => exact headerValid_cstoreWriteFooter hmeta h hw

theorem headerValid_footerRun (hmeta : ∀ s c,
      k.deserializeTableFooterMetadata (k.serializeTableFooterMetadata s c) = (s, c))
    (footers : List TableFooter) : HeaderValid k (footerRun g k footers) :=
  headerValid_foldl hmeta footers [] (by simp [HeaderValid])

/-- **The footer commits.** In a run of `CStoreWriteFooter` calls from an empty footer fork,
every call that passes its two checks writes its stream `int32(len) ++ SerializeTableFooter
++ SerializePostScript ++ uint8(|postscript|)` into `⌈len / CSTORE_PAGE_DATA_SIZE⌉` blocks
from a starting block of at least 1, its buffers, `P_NEW` ones included, are exactly those
blocks, and the new header page, block 0, records that range of the fork. -/
theorem cstoreWriteFooter_commits (hmeta : ∀ s c,
      k.deserializeTableFooterMetadata (k.serializeTableFooterMetadata s c) = (s, c))
    (footers : List TableFooter) (tableFooter : TableFooter)
    (hpostscript : (postscriptBuffer k tableFooter).length < cstorePostscriptSizeMax)
    (hsize : (wholeFooter k tableFooter).length < maxAllocSize) :
    ∃ (pages : FooterPages) (footerFork : List Page),
      writeFooterData g k tableFooter (footerRun g k footers) = some pages ∧
      cstoreWriteFooter g k tableFooter (footerRun g k footers) = some footerFork ∧
      (∃ header ∈ footerFork.head?, k.deserializeTableFooterMetadata header.payload =
        (pages.newStartingBlock, pages.actualBlockCount)) ∧
      1 ≤ pages.newStartingBlock ∧
      pages.actualBlockCount =
        ((wholeFooter k tableFooter).length + cstorePageDataSize g - 1) / cstorePageDataSize g ∧
      pages.newStartingBlock + pages.actualBlockCount ≤ footerFork.length ∧
      pages.actualBlockNumbers = List.range' pages.newStartingBlock pages.actualBlockCount ∧
      forkStream ((footerFork.drop pages.newStartingBlock).take pages.actualBlockCount) =
        wholeFooter k tableFooter ∧
      (wholeFooter k tableFooter).take 4 = leBytes 4 (wholeFooter k tableFooter).length ∧
      (wholeFooter k tableFooter).getLast? =
        some (UInt8.ofNat (postscriptBuffer k tableFooter).length) := by
  obtain ⟨pages, footerFork, hpages, hwrite, hhead, hstart, hcount, hlen, hnumbers, hstream⟩ :=
    cstoreWriteFooter_spec (g := g) (headerValid_footerRun hmeta footers) hpostscript hsize
  exact ⟨pages, footerFork, hpages, hwrite, ⟨_, hhead, by simp [hmeta]⟩, hstart, hcount, hlen,
    hnumbers, hstream, wholeFooter_ends tableFooter⟩

theorem cstoreWriteFooter_commits_resume :
    (∀ s c, exampleCodecs.deserializeTableFooterMetadata
      (exampleCodecs.serializeTableFooterMetadata s c) = (s, c)) ∧
    (postscriptBuffer exampleCodecs ⟨[], 4⟩).length < cstorePostscriptSizeMax ∧
    (wholeFooter exampleCodecs ⟨[], 4⟩).length < maxAllocSize ∧
    ∃ footerFork, cstoreWriteFooter defaultGeometry exampleCodecs ⟨[], 4⟩
        (footerRun defaultGeometry exampleCodecs [⟨[], 4⟩]) = some footerFork ∧
      forkStream ((footerFork.drop 2).take 1) = wholeFooter exampleCodecs ⟨[], 4⟩ := by
  obtain ⟨pages, footerFork, hpages, hwrite, -, -, -, -, -, hstream, -⟩ :=
    cstoreWriteFooter_commits (g := defaultGeometry) exampleCodecs_tableFooterMetadata
      [⟨[], 4⟩] ⟨[], 4⟩ (by decide) (by decide)
  have hstart : pages.newStartingBlock = 2 ∧ pages.actualBlockCount = 1 := by
    rw [Option.some.inj (hpages.symm.trans rfl)]
    exact ⟨rfl, rfl⟩
  rw [hstart.1, hstart.2] at hstream
  exact ⟨exampleCodecs_tableFooterMetadata, by decide, by decide, footerFork, hwrite, hstream⟩

/-- **The committed footer stays readable until the header is rewritten.** Before it rewrites
the header, a call of a run from an empty footer fork has written only blocks from 1 on,
outside the range the header records, and changed no other block of the fork; so block 0
and the committed range are as they were, and the fork still holds the old footer. -/
theorem writeFooterData_frame (hmeta : ∀ s c,
      k.deserializeTableFooterMetadata (k.serializeTableFooterMetadata s c) = (s, c))
    (footers : List TableFooter) (tableFooter : TableFooter)
    (pages : FooterPages)
    (hpages : writeFooterData g k tableFooter (footerRun g k footers) = some pages) :
    1 ≤ pages.newStartingBlock ∧
      (∀ i < (footerRun g k footers).length,
        i < pages.newStartingBlock ∨ pages.newStartingBlock + pages.actualBlockCount ≤ i →
          pages.fork[i]? = (footerRun g k footers)[i]?) ∧
      ∀ header ∈ (footerRun g k footers).head?,
        (pages.newStartingBlock + pages.actualBlockCount ≤
            (k.deserializeTableFooterMetadata header.payload).1 ∨
          (k.deserializeTableFooterMetadata header.payload).1 +
            (k.deserializeTableFooterMetadata header.payload).2 ≤ pages.newStartingBlock) ∧
        cstoreReadFooter k pages.fork = cstoreReadFooter k (footerRun g k footers) := by
  have hvalid := headerValid_footerRun (g := g) hmeta footers
  obtain ⟨hpostscript, hsize⟩ := checks_of_writeFooterData hpages
  obtain ⟨pages', hpages', -, hstartEq, hstart, hfork, -⟩ :=
    writeFooterData_spec (g := g) hvalid hpostscript hsize
  obtain rfl := Option.some.inj (hpages.symm.trans hpages')
  set footerFork := footerRun g k footers
  -- outside the written range, the loop's fork is the old one
  have hframe : ∀ i < footerFork.length,
      i < pages.newStartingBlock ∨ pages.newStartingBlock + pages.actualBlockCount ≤ i →
        pages.fork[i]? = footerFork[i]? := by
    intro i hi hout
    have hpos : 0 < footerFork.length := by omega
    have hs := newStartingBlock_le hvalid (List.ne_nil_of_length_pos hpos) pages.actualBlockCount
    rw [hfork, if_pos hpos]
    exact getElem?_splice (by omega) (by simp [length_pageChunks]) hout
  refine ⟨hstart, hframe, fun header hheader => ?_⟩
  obtain ⟨rest, hrest⟩ := List.head?_eq_some_iff.mp hheader
  obtain ⟨hp1, hp2⟩ := hvalid header hheader
  -- the three-way rule keeps the new range off the committed one
  have hdisjoint : pages.newStartingBlock + pages.actualBlockCount ≤
        (k.deserializeTableFooterMetadata header.payload).1 ∨
      (k.deserializeTableFooterMetadata header.payload).1 +
        (k.deserializeTableFooterMetadata header.payload).2 ≤ pages.newStartingBlock := by
    have hget : footerFork.getD 0 zeroPage = header := by rw [hrest]; rfl
    have hlen0 : footerFork.length ≠ 0 := by rw [hrest]; simp
    rw [hstartEq, hget]
    unfold newStartingBlock
    rw [if_neg hlen0]
    dsimp only
    split_ifs <;> omega
  refine ⟨hdisjoint, ?_⟩
  -- block 0 is outside the written range, so the fork keeps the header
  obtain ⟨qs, hq⟩ : ∃ qs, pages.fork = header :: qs := by
    apply List.head?_eq_some_iff.mp
    simpa [hrest, List.head?_eq_getElem?] using hframe 0 (by simp [hrest]) (Or.inl hstart)
  rw [hq, hrest]
  apply cstoreReadFooter_congr
  intro i hi1 hi2
  have := hframe i (by omega) (by omega)
  rwa [hq, hrest] at this

theorem writeFooterData_frame_resume :
    (∀ s c, exampleCodecs.deserializeTableFooterMetadata
      (exampleCodecs.serializeTableFooterMetadata s c) = (s, c)) ∧
    ∃ pages, writeFooterData defaultGeometry exampleCodecs ⟨[], 4⟩
        (footerRun defaultGeometry exampleCodecs [⟨[], 4⟩]) = some pages ∧
      1 ≤ pages.newStartingBlock ∧
      cstoreReadFooter exampleCodecs pages.fork =
        cstoreReadFooter exampleCodecs (footerRun defaultGeometry exampleCodecs [⟨[], 4⟩]) := by
  have hvalid := headerValid_footerRun (g := defaultGeometry) exampleCodecs_tableFooterMetadata
    [⟨[], 4⟩]
  obtain ⟨pages, hpages, -⟩ := @writeFooterData_spec defaultGeometry exampleCodecs ⟨[], 4⟩ _ hvalid
    (by decide) (by decide)
  have h := writeFooterData_frame exampleCodecs_tableFooterMetadata [⟨[], 4⟩] ⟨[], 4⟩ pages hpages
  exact ⟨exampleCodecs_tableFooterMetadata, pages, hpages, h.1,
    (h.2.2 _ (show _ ∈ some _ from rfl)).2⟩

/-- After a call that commits, the reader finds the new stream in the range the header
records. -/
theorem cstoreReadFooter_cstoreWriteFooter (hmeta : ∀ s c,
      k.deserializeTableFooterMetadata (k.serializeTableFooterMetadata s c) = (s, c))
    {tableFooter : TableFooter} {footerFork footerFork' : List Page}
    (hvalid : HeaderValid k footerFork)
    (hwrite : cstoreWriteFooter g k tableFooter footerFork = some footerFork') :
    cstoreReadFooter k footerFork' = k.deserializeTableFooter (wholeFooter k tableFooter) := by
  obtain ⟨hpostscript, hsize⟩ := checks_of_cstoreWriteFooter hwrite
  obtain ⟨pages, _, -, hwrite', hhead, hstart, -, -, -, hstream⟩ :=
    cstoreWriteFooter_spec (g := g) hvalid hpostscript hsize
  obtain rfl := Option.some.inj (hwrite.symm.trans hwrite')
  cases footerFork' with
  | nil => simp at hhead
  | cons header rest =>
    simp only [List.head?_cons, Option.some.injEq] at hhead
    subst hhead
    simp only [cstoreReadFooter, Page.append_payload, pageInit_payload, List.nil_append, hmeta,
      Nat.ne_of_gt hstart, if_false, hstream]

/-- **The footer commits atomically.** A crash while `CStoreWriteFooter` copies the stream,
after any number of its pages, leaves a fork whose first pages are those the loop of as many
passes writes; on a fork whose header is valid, and with an empty header page parsing to no
footer (`startingBlock = 0`, as a failed parse does), every such fork holds the old footer.
Once the header page is rewritten, the fork holds the new one. -/
theorem cstoreWriteFooter_atomic (hmeta : ∀ s c,
      k.deserializeTableFooterMetadata (k.serializeTableFooterMetadata s c) = (s, c))
    (hempty : (k.deserializeTableFooterMetadata []).1 = 0) {tableFooter : TableFooter}
    {footerFork : List Page} {pages : FooterPages} (hvalid : HeaderValid k footerFork)
    (hpages : writeFooterData g k tableFooter footerFork = some pages) :
    (∀ written ≤ pages.actualBlockCount,
      cstoreReadFooter k (writeFooterPages g footerFork.length
        (if 0 < footerFork.length then footerFork else [zeroPage]) pages.newStartingBlock written
        (wholeFooter k tableFooter)).1 = cstoreReadFooter k footerFork) ∧
    ∃ footerFork', cstoreWriteFooter g k tableFooter footerFork = some footerFork' ∧
      cstoreReadFooter k footerFork' = k.deserializeTableFooter (wholeFooter k tableFooter) := by
  obtain ⟨hpostscript, hsize⟩ := checks_of_writeFooterData hpages
  obtain ⟨pages', hpages', -, hstartEq, -⟩ := writeFooterData_spec (g := g) hvalid hpostscript hsize
  obtain rfl := Option.some.inj (hpages.symm.trans hpages')
  have hwrite : cstoreWriteFooter g k tableFooter footerFork = some (pages.fork.set 0
      ((pageInit g).append (k.serializeTableFooterMetadata pages.newStartingBlock
        pages.actualBlockCount))) := by
    rw [cstoreWriteFooter, hpages]
    rfl
  refine ⟨fun written hwritten => ?_, _, hwrite, cstoreReadFooter_cstoreWriteFooter hmeta hvalid
    hwrite⟩
  obtain ⟨hs, hsle, hmax⟩ := newStartingBlock_within hvalid pages.actualBlockCount
  rw [← hstartEq] at hs hsle hmax
  rw [writeFooterPages_eq (g := g) footerFork.length written _ _ _ (by split <;> simp; omega) hsle
    hmax]
  have hchunks : ((pageChunks (cstorePageDataSize g) written (wholeFooter k tableFooter)).map
      (pageInit g).append).length = written := by simp [length_pageChunks]
  rcases footerFork with _ | ⟨header, rest⟩
  · -- an empty fork: the header page is new, and parses to no footer
    obtain hone : pages.newStartingBlock = 1 := by simp at hsle; omega
    simp [hone, cstoreReadFooter, zeroPage, hempty]
  · -- the pages written miss block 0 and the committed range
    obtain ⟨hp1, hp2⟩ := hvalid header rfl
    have hdisjoint : pages.newStartingBlock + written ≤
          (k.deserializeTableFooterMetadata header.payload).1 ∨
        (k.deserializeTableFooterMetadata header.payload).1 +
          (k.deserializeTableFooterMetadata header.payload).2 ≤ pages.newStartingBlock := by
      rw [hstartEq]
      unfold newStartingBlock
      simp only [List.length_cons, List.getD_cons_zero, Nat.succ_ne_zero, if_false]
      split_ifs <;> omega
    simp only [List.length_cons, Nat.zero_lt_succ, if_true] at hsle ⊢
    have hframe := fun i (hi : i < pages.newStartingBlock ∨ pages.newStartingBlock + written ≤ i) =>
      getElem?_splice (show pages.newStartingBlock ≤ (header :: rest).length from hsle) hchunks hi
    obtain ⟨qs, hq⟩ : ∃ qs, (header :: rest).take pages.newStartingBlock ++
        (pageChunks (cstorePageDataSize g) written (wholeFooter k tableFooter)).map
          (pageInit g).append ++ (header :: rest).drop (pages.newStartingBlock + written) =
        header :: qs :=
      List.head?_eq_some_iff.mp (by simpa [List.head?_eq_getElem?] using hframe 0 (Or.inl hs))
    rw [hq]
    exact cstoreReadFooter_congr fun i hi1 hi2 => hq ▸ hframe i (by omega)

/-- A second footer written over the first: a crash after any of its pages leaves the first
footer readable. -/
theorem cstoreWriteFooter_atomic_resume :
    ∃ pages, writeFooterData defaultGeometry exampleCodecs ⟨[], 4⟩
        (footerRun defaultGeometry exampleCodecs [⟨[], 4⟩]) = some pages ∧
      (∀ written ≤ pages.actualBlockCount,
        cstoreReadFooter exampleCodecs (writeFooterPages defaultGeometry
          (footerRun defaultGeometry exampleCodecs [⟨[], 4⟩]).length
          (if 0 < (footerRun defaultGeometry exampleCodecs [⟨[], 4⟩]).length then
            footerRun defaultGeometry exampleCodecs [⟨[], 4⟩] else [zeroPage])
          pages.newStartingBlock written (wholeFooter exampleCodecs ⟨[], 4⟩)).1 =
        cstoreReadFooter exampleCodecs (footerRun defaultGeometry exampleCodecs [⟨[], 4⟩])) ∧
      ∃ footerFork', cstoreWriteFooter defaultGeometry exampleCodecs ⟨[], 4⟩
          (footerRun defaultGeometry exampleCodecs [⟨[], 4⟩]) = some footerFork' ∧
        cstoreReadFooter exampleCodecs footerFork' =
          exampleCodecs.deserializeTableFooter (wholeFooter exampleCodecs ⟨[], 4⟩) := by
  have hvalid := headerValid_footerRun (g := defaultGeometry) exampleCodecs_tableFooterMetadata
    [⟨[], 4⟩]
  obtain ⟨pages, hpages, -⟩ := @writeFooterData_spec defaultGeometry exampleCodecs ⟨[], 4⟩ _ hvalid
    (by decide) (by decide)
  exact ⟨pages, hpages, cstoreWriteFooter_atomic exampleCodecs_tableFooterMetadata rfl hvalid
    hpages⟩

/-! ### The space a run of calls takes -/

variable (g k)

/-- The blocks `CStoreWriteFooter` gives a footer: `⌈len / CSTORE_PAGE_DATA_SIZE⌉`. -/
def footerBlockCount (tableFooter : TableFooter) : Nat :=
  ((wholeFooter k tableFooter).length - 1) / cstorePageDataSize g + 1

/-- The footer fork holds at most `1 + 3 * maxBlockCount` blocks, and the footer its header
records at most `maxBlockCount`. -/
def FooterBounded (maxBlockCount : Nat) (footerFork : List Page) : Prop :=
  footerFork.length ≤ 1 + 3 * maxBlockCount ∧
    ∀ header ∈ footerFork.head?, (k.deserializeTableFooterMetadata header.payload).2 ≤
      maxBlockCount

variable {g k}

/-- The loop's fork reaches the end of the written range or the old end, whichever is later. -/
theorem length_writeFooterData {tableFooter : TableFooter} {footerFork : List Page}
    {pages : FooterPages} (hvalid : HeaderValid k footerFork)
    (hpages : writeFooterData g k tableFooter footerFork = some pages) :
    pages.fork.length = max (max 1 footerFork.length)
      (pages.newStartingBlock + pages.actualBlockCount) := by
  obtain ⟨hpostscript, hsize⟩ := checks_of_writeFooterData hpages
  obtain ⟨pages', hpages', -, hstartEq, -, hfork, -⟩ :=
    writeFooterData_spec (g := g) hvalid hpostscript hsize
  obtain rfl := Option.some.inj (hpages.symm.trans hpages')
  obtain ⟨-, hsle, -⟩ := newStartingBlock_within hvalid pages.actualBlockCount
  rw [← hstartEq] at hsle
  have hfork0 : (if 0 < footerFork.length then footerFork else [zeroPage]).length =
      max 1 footerFork.length := by split <;> simp <;> omega
  rw [hfork, List.length_append, List.length_append, List.length_take, List.length_map,
    length_pageChunks, List.length_drop, hfork0]
  rw [hfork0] at hsle
  omega

/-- A call that writes a footer of at most `maxBlockCount` blocks keeps the fork bounded: it
writes from block 1 when the new footer fits before the old one, else right after the old one,
which starts at most `maxBlockCount` blocks in. -/
theorem footerBounded_cstoreWriteFooter (hmeta : ∀ s c,
      k.deserializeTableFooterMetadata (k.serializeTableFooterMetadata s c) = (s, c))
    {maxBlockCount : Nat} {tableFooter : TableFooter} {footerFork footerFork' : List Page}
    (h : FooterBounded k maxBlockCount footerFork) (hvalid : HeaderValid k footerFork)
    (hcount : footerBlockCount g k tableFooter ≤ maxBlockCount)
    (hwrite : cstoreWriteFooter g k tableFooter footerFork = some footerFork') :
    FooterBounded k maxBlockCount footerFork' := by
  obtain ⟨hpostscript, hsize⟩ := checks_of_cstoreWriteFooter hwrite
  obtain ⟨pages, hpages, hcount', hstartEq, -⟩ :=
    writeFooterData_spec (g := g) hvalid hpostscript hsize
  rw [cstoreWriteFooter, hpages, Option.map_some', Option.some.injEq] at hwrite
  subst hwrite
  rw [footerBlockCount, ← hcount'] at hcount
  -- the range written ends within the bound
  have hend : pages.newStartingBlock + pages.actualBlockCount ≤ 1 + 3 * maxBlockCount := by
    rw [hstartEq]
    unfold newStartingBlock
    rcases footerFork with _ | ⟨header, rest⟩
    · simp only [List.length_nil, if_true]
      omega
    · have := h.2 header rfl
      simp only [List.length_cons, Nat.succ_ne_zero, if_false, List.getD_cons_zero]
      split_ifs <;> omega
  refine ⟨?_, fun header hheader => ?_⟩
  · rw [List.length_set, length_writeFooterData hvalid hpages]
    have := h.1
    omega
  · obtain ⟨p, ps, hps⟩ := List.exists_cons_of_length_pos
      (show 0 < pages.fork.length by rw [length_writeFooterData hvalid hpages]; omega)
    rw [hps, List.set_cons_zero, List.head?_cons, Option.mem_some_iff] at hheader
    subst hheader
    simpa only [Page.append_payload, pageInit_payload, List.nil_append, hmeta] using hcount

theorem footerBounded_foldl (hmeta : ∀ s c,
      k.deserializeTableFooterMetadata (k.serializeTableFooterMetadata s c) = (s, c))
    {maxBlockCount : Nat} :
    ∀ (footers : List TableFooter) (footerFork : List Page),
      (∀ tableFooter ∈ footers, footerBlockCount g k tableFooter ≤ maxBlockCount) →
      HeaderValid k footerFork → FooterBounded k maxBlockCount footerFork →
      FooterBounded k maxBlockCount (footers.foldl
        (fun fork tableFooter => (cstoreWriteFooter g k tableFooter fork).getD fork) footerFork)
  | [], _, _, _, h => h
  | tableFooter :: footers, footerFork, hcount, hvalid, h => by
    rw [List.foldl_cons]
    have hcount' := fun tableFooter' htableFooter' =>
      hcount tableFooter' (List.mem_cons_of_mem _ htableFooter')
    cases hw : cstoreWriteFooter g k tableFooter footerFork with
    | none => exact footerBounded_foldl hmeta footers footerFork hcount' hvalid h
    | some footerFork' =>
      exact footerBounded_foldl hmeta footers footerFork' hcount'
        (headerValid_cstoreWriteFooter hmeta hvalid hw)
        (footerBounded_cstoreWriteFooter hmeta h hvalid (hcount _ (List.mem_cons_self _ _)) hw)

/-- **Rewriting the footer reuses its blocks.** However many times a run of `CStoreWriteFooter`
calls from an empty fork rewrites the footer, the footer fork never holds more than
`1 + 3 * M` blocks, where `M` bounds the blocks of every footer written: a new footer goes to
block 1 when it fits before the committed one, and otherwise right after it. -/
theorem length_footerRun_le (hmeta : ∀ s c,
      k.deserializeTableFooterMetadata (k.serializeTableFooterMetadata s c) = (s, c))
    {footers : List TableFooter} {maxBlockCount : Nat}
    (hcount : ∀ tableFooter ∈ footers, footerBlockCount g k tableFooter ≤ maxBlockCount) :
    (footerRun g k footers).length ≤ 1 + 3 * maxBlockCount :=
  (footerBounded_foldl hmeta footers [] hcount (by simp [HeaderValid])
    ⟨by simp, by simp⟩).1

/-- Ten rewrites of a one-block footer keep the fork within four blocks. -/
theorem length_footerRun_le_ten :
    (∀ s c, exampleCodecs.deserializeTableFooterMetadata
      (exampleCodecs.serializeTableFooterMetadata s c) = (s, c)) ∧
    (∀ tableFooter ∈ List.replicate 10 (⟨[], 4⟩ : TableFooter),
      footerBlockCount defaultGeometry exampleCodecs tableFooter ≤ 1) ∧
    (footerRun defaultGeometry exampleCodecs (List.replicate 10 ⟨[], 4⟩)).length ≤ 1 + 3 * 1 :=
  ⟨exampleCodecs_tableFooterMetadata, by decide,
    length_footerRun_le exampleCodecs_tableFooterMetadata (by decide)⟩

/-- The concrete instance reads back every footer it writes. -/
theorem exampleCodecs_deserializeTableFooter (tableFooter : TableFooter) :
    exampleCodecs.deserializeTableFooter (wholeFooter exampleCodecs tableFooter) =
      some tableFooter := by
  simp only [exampleCodecs, wholeFooter, footerBody, List.drop_left' (length_leBytes 4 _),
    List.append_assoc, decodeTableFooter_encode]

end CStoreWriter
