import CStoreWriter.Storage.Page

/-!
# `WriteToFile`: appending bytes to the data fork

`WriteToFile` copies a buffer into the data fork starting at `activeBlockNumber`. Each pass
of its loop takes the next block: an existing one while the block number is below the
block count read at entry, else a page `P_NEW` appends to the fork. It copies as many bytes
as fit between `pd_lower` and `pd_upper`, advances `pd_lower`, records the block as the
active one, and moves to the next block.

The loop is modelled on fuel computed from its inputs; `writeToFileLoop_fills` shows the
fuel always suffices, so the model is the total function the C loop is. Its sizes are
natural numbers. C computes `remainingCapacity` as an `int` and `copySize` as an `int32`; the
two agree on pages within their bounds, `SizeOfPageHeaderData <= pd_lower <= pd_upper`, and
on buffers below `2^31` bytes, which `writeToFile_places` assumes. Out of them C's `copySize`
goes negative and `memcpy` is handed a huge size, which the model does not follow.

## Main results

* `writeToFile_places` — on pages within their bounds and a buffer below `2^31` bytes, the
  bytes land in order in the free space of the blocks from `min activeBlockNumber blockCount`
  on, every block but the last filled, every page stays within its bounds, and
  `activeBlockNumber` ends at the last block written
* `writeToFile_appends` — on a packed fork, with the cursor at or before its end, the
  fork's stream grows by exactly the buffer and stays packed
-/

namespace CStoreWriter

variable (g : PageGeometry)

/-- The free space of block `i`; a block past the end counts as the page `P_NEW` gives. -/
def forkFreeSpace (fork : List Page) (i : Nat) : Nat := (fork.getD i (pageInit g)).freeSpace g

/-- `fork` with `bytes` copied at `pd_lower` of block `i`, or onto a new page when `i` is
the fork's length. -/
def appendAt (fork : List Page) (i : Nat) (bytes : List UInt8) : List Page :=
  if i < fork.length then fork.set i ((fork.getD i (pageInit g)).append bytes)
  else fork ++ [(pageInit g).append bytes]

/-- The loop of `WriteToFile`. `blockCount` is `RelationGetNumberOfBlocksInFork`, read once
at entry; `data` is what is left of the buffer (`data + dataOffset`). -/
def writeToFileLoop (blockCount : Nat) :
    Nat → List Page → Nat → Nat → List UInt8 → List Page × Nat
  | 0, fork, _, activeBlockNumber, _ => (fork, activeBlockNumber)
  | fuel + 1, fork, blockNumber, activeBlockNumber, data =>
    if data = [] then (fork, activeBlockNumber)
    else if blockCount ≤ blockNumber then
      -- `P_NEW`: the host appends a page, which `PageInit` lays out
      let copySize := min ((pageInit g).freeSpace g) data.length
      writeToFileLoop blockCount fuel (fork ++ [(pageInit g).append (data.take copySize)])
        (fork.length + 1) fork.length (data.drop copySize)
    else
      let page := fork.getD blockNumber (pageInit g)
      let copySize := min (page.freeSpace g) data.length
      writeToFileLoop blockCount fuel (fork.set blockNumber (page.append (data.take copySize)))
        (blockNumber + 1) blockNumber (data.drop copySize)

/-- `WriteToFile(writeState, data, dataLength)` on the data fork and the write state's
`activeBlockNumber`: the fork and the new `activeBlockNumber`. -/
def writeToFile (fork : List Page) (activeBlockNumber : Nat) (data : List UInt8) :
    List Page × Nat :=
  if data = [] then (fork, activeBlockNumber)
  else writeToFileLoop g fork.length (data.length + (fork.length - activeBlockNumber)) fork
    activeBlockNumber activeBlockNumber data

/-- The block a pass of the loop writes: `blockNumber` while it is below the count read
at entry, else the page `P_NEW` appends. -/
def targetBlock (blockCount : Nat) (fork : List Page) (blockNumber : Nat) : Nat :=
  if blockCount ≤ blockNumber then fork.length else blockNumber

/-- `chunks` fill blocks `start, start + 1, ...` of `fork` in order: each chunk but the
last takes all the free space of its block, and the last is not empty and fits. -/
def FillsFrom (fork : List Page) : Nat → List (List UInt8) → Prop
  | _, [] => False
  | start, [c] => 0 < c.length ∧ c.length ≤ forkFreeSpace g fork start
  | start, c :: d :: cs =>
    c.length = forkFreeSpace g fork start ∧ FillsFrom fork (start + 1) (d :: cs)

/-- `fork` with chunk `j` copied at `pd_lower` of block `start + j`, in order. -/
def placeChunks : List Page → Nat → List (List UInt8) → List Page
  | fork, _, [] => fork
  | fork, i, c :: cs => placeChunks (appendAt g fork i c) (i + 1) cs

variable {g}

/-! ### One pass of the loop -/

theorem writeToFileLoop_nil (blockCount fuel : Nat) (fork : List Page) (b a : Nat) :
    writeToFileLoop g blockCount fuel fork b a [] = (fork, a) := by
  cases fuel <;> simp [writeToFileLoop]

theorem writeToFileLoop_succ {blockCount fuel : Nat} {fork : List Page} {b a : Nat}
    {data : List UInt8} (hdata : data ≠ []) (hcount : blockCount ≤ fork.length) :
    writeToFileLoop g blockCount (fuel + 1) fork b a data =
      writeToFileLoop g blockCount fuel
        (appendAt g fork (targetBlock blockCount fork b)
          (data.take (min (forkFreeSpace g fork (targetBlock blockCount fork b)) data.length)))
        (targetBlock blockCount fork b + 1) (targetBlock blockCount fork b)
        (data.drop (min (forkFreeSpace g fork (targetBlock blockCount fork b)) data.length)) := by
  unfold targetBlock appendAt forkFreeSpace
  by_cases hb : blockCount ≤ b
  · simp [writeToFileLoop, hdata, hb]
  · have : b < fork.length := by omega
    simp [writeToFileLoop, hdata, hb, this]

/-! ### Free space is local to a block -/

theorem length_appendAt {fork : List Page} {i : Nat} (bytes : List UInt8)
    (hi : i ≤ fork.length) : (appendAt g fork i bytes).length = max fork.length (i + 1) := by
  unfold appendAt
  split <;> simp <;> omega

theorem forkFreeSpace_appendAt_of_lt {fork : List Page} {t i : Nat} (bytes : List UInt8)
    (ht : t ≤ fork.length) (hti : t < i) :
    forkFreeSpace g (appendAt g fork t bytes) i = forkFreeSpace g fork i := by
  unfold forkFreeSpace appendAt
  split
  · simp [List.getElem?_set, Nat.ne_of_lt hti]
  · obtain ⟨k, hk⟩ : ∃ k, i - fork.length = k + 1 := ⟨i - fork.length - 1, by omega⟩
    simp [List.getElem?_append_right (show fork.length ≤ i by omega),
      List.getElem?_eq_none (show fork.length ≤ i by omega), hk]

theorem fillsFrom_congr {fork fork' : List Page} :
    ∀ {s : Nat} {chunks : List (List UInt8)},
      (∀ i, s ≤ i → forkFreeSpace g fork' i = forkFreeSpace g fork i) →
      FillsFrom g fork' s chunks → FillsFrom g fork s chunks
  | _, [], _, h => h
  | s, [c], hfree, h => by
    simpa [FillsFrom, hfree s (Nat.le_refl s)] using h
  | s, c :: d :: cs, hfree, h => by
    refine ⟨h.1.trans (hfree s (Nat.le_refl s)), fillsFrom_congr ?_ h.2⟩
    intro i hi
    exact hfree i (by omega)

/-! ### The whole loop -/

/-- With fuel for every byte and every existing block to pass, the loop writes the buffer
as chunks that fill the blocks from its first target on. -/
theorem writeToFileLoop_fills (blockCount : Nat) :
    ∀ (fuel : Nat) (fork : List Page) (b a : Nat) (data : List UInt8),
      data ≠ [] → blockCount ≤ fork.length → (b < blockCount → fork.length = blockCount) →
      data.length + (blockCount - b) ≤ fuel →
      ∃ chunks : List (List UInt8), chunks.flatten = data ∧
        FillsFrom g fork (targetBlock blockCount fork b) chunks ∧
        writeToFileLoop g blockCount fuel fork b a data =
          (placeChunks g fork (targetBlock blockCount fork b) chunks,
            targetBlock blockCount fork b + chunks.length - 1)
  | 0, _, _, _, data, hdata, _, _, hfuel => by
    exact absurd (List.eq_nil_of_length_eq_zero (by omega)) hdata
  | fuel + 1, fork, b, a, data, hdata, hcount, hfresh, hfuel => by
    rw [writeToFileLoop_succ hdata hcount]
    set t := targetBlock blockCount fork b with ht
    set c := min (forkFreeSpace g fork t) data.length with hc
    -- the block this pass writes, and what the next pass sees
    have hcases : (blockCount ≤ b ∧ t = fork.length ∧
        forkFreeSpace g fork t = cstorePageDataSize g) ∨
        (b < blockCount ∧ t = b ∧ fork.length = blockCount) := by
      by_cases hb : blockCount ≤ b
      · refine Or.inl ⟨hb, by simp [ht, targetBlock, hb], ?_⟩
        simp [ht, targetBlock, hb, forkFreeSpace, pageInit_freeSpace]
      · exact Or.inr ⟨by omega, by simp [ht, targetBlock, hb], hfresh (by omega)⟩
    have htle : t ≤ fork.length := by omega
    have hD := cstorePageDataSize_pos g
    have hne := List.length_pos.mpr hdata
    by_cases hrest : data.drop c = []
    · have hlen : data.length ≤ c := by simpa using hrest
      refine ⟨[data], by simp, ⟨hne, by omega⟩, ?_⟩
      rw [hrest, writeToFileLoop_nil, List.take_of_length_le hlen]
      simp [placeChunks]
    · have hlen : c < data.length := by simpa using hrest
      set fork₁ := appendAt g fork t (data.take c)
      have hlen₁ : fork₁.length = max fork.length (t + 1) := length_appendAt _ htle
      have htarget : targetBlock blockCount fork₁ (t + 1) = t + 1 := by
        unfold targetBlock; split <;> omega
      obtain ⟨chunks, hflat, hfills, hloop⟩ :=
        writeToFileLoop_fills blockCount fuel fork₁ (t + 1) t (data.drop c) hrest (by omega)
          (fun _ => by omega) (by simp only [List.length_drop]; omega)
      rw [htarget] at hfills hloop
      obtain ⟨d, cs, rfl⟩ := List.exists_cons_of_ne_nil
        (show chunks ≠ [] by rintro rfl; simp [FillsFrom] at hfills)
      refine ⟨data.take c :: d :: cs, ?_, ⟨?_, ?_⟩, ?_⟩
      · rw [List.flatten_cons, hflat, List.take_append_drop]
      · rw [List.length_take]; omega
      · exact fillsFrom_congr (fun i hi => forkFreeSpace_appendAt_of_lt _ htle (by omega)) hfills
      · rw [hloop]
        simp only [placeChunks, List.length_cons]
        congr 1
        omega

/-- The whole loop from its first target, `min activeBlockNumber blockCount`: the bytes go
in order into the free space of the blocks from there on. -/
theorem writeToFile_fills (fork : List Page) (activeBlockNumber : Nat) (data : List UInt8)
    (hdata : data ≠ []) :
    ∃ chunks : List (List UInt8), chunks.flatten = data ∧
      FillsFrom g fork (min activeBlockNumber fork.length) chunks ∧
      writeToFile g fork activeBlockNumber data =
        (placeChunks g fork (min activeBlockNumber fork.length) chunks,
          min activeBlockNumber fork.length + chunks.length - 1) := by
  have htarget : targetBlock fork.length fork activeBlockNumber =
      min activeBlockNumber fork.length := by
    unfold targetBlock; split <;> omega
  rw [← htarget]
  unfold writeToFile
  rw [if_neg hdata]
  exact writeToFileLoop_fills _ _ _ _ _ _ hdata (Nat.le_refl _) (fun _ => rfl) (Nat.le_refl _)

/-! ### Pages within their bounds -/

/-- Copying a chunk that fits into a block keeps every page of the fork within its bounds. -/
theorem wellFormed_appendAt {fork : List Page} {i : Nat} {c : List UInt8}
    (hpages : ∀ p ∈ fork, p.WellFormed g) (hc : c.length ≤ forkFreeSpace g fork i) :
    ∀ p ∈ appendAt g fork i c, p.WellFormed g := by
  have hwf : (fork.getD i (pageInit g)).WellFormed g := by
    rcases Nat.lt_or_ge i fork.length with hlt | hge
    · rw [List.getD_eq_getElem _ _ hlt]
      exact hpages _ (List.getElem_mem hlt)
    · rw [List.getD_eq_default _ _ hge]
      exact pageInit_wellFormed g
  have hpage := Page.wellFormed_append hwf hc
  intro p hp
  unfold appendAt at hp
  split at hp
  · rcases List.mem_or_eq_of_mem_set hp with hp | rfl
    exacts [hpages p hp, hpage]
  · rcases List.mem_append.mp hp with hp | hp
    · exact hpages p hp
    · rw [List.mem_singleton.mp hp]
      rwa [List.getD_eq_default _ _ (Nat.le_of_not_lt ‹_›)] at hpage

/-- Chunks that fill blocks from one within the fork keep every page within its bounds. -/
theorem wellFormed_placeChunks : ∀ {fork : List Page} {s : Nat} {chunks : List (List UInt8)},
    FillsFrom g fork s chunks → s ≤ fork.length → (∀ p ∈ fork, p.WellFormed g) →
    ∀ p ∈ placeChunks g fork s chunks, p.WellFormed g
  | _, _, [], h, _, _ => absurd h (by simp [FillsFrom])
  | _, _, [_], h, hs, hpages => wellFormed_appendAt hpages h.2
  | fork, s, c :: d :: cs, h, hs, hpages => by
    have hlen := length_appendAt (g := g) c hs
    exact @wellFormed_placeChunks (appendAt g fork s c) (s + 1) (d :: cs)
      (fillsFrom_congr (fun i hi => (forkFreeSpace_appendAt_of_lt c hs (by omega)).symm) h.2)
      (by omega) (wellFormed_appendAt hpages h.1.le)

/-- **`WriteToFile` places the buffer.** On a fork whose pages all lie within their bounds,
`SizeOfPageHeaderData <= pd_lower <= pd_upper = BLCKSZ`, and for any `activeBlockNumber` and
any buffer of fewer than `2^31` bytes, the bytes go, in order, into the free space of the
existing blocks from `activeBlockNumber` on and then of new pages appended with `P_NEW`:
chunk `j` is copied at `pd_lower` of block `min activeBlockNumber blockCount + j`, every chunk
but the last fills its block, and `activeBlockNumber` ends at the block of the last chunk.
Every chunk, C's `int32 copySize`, is below `2^31`, and every page stays within its bounds, so
C's `int remainingCapacity` is never negative. -/
theorem writeToFile_places (fork : List Page) (activeBlockNumber : Nat) (data : List UInt8)
    (hpages : ∀ p ∈ fork, p.WellFormed g) (hdata : data ≠ []) (hlength : data.length < 2 ^ 31) :
    ∃ chunks : List (List UInt8), chunks.flatten = data ∧
      FillsFrom g fork (min activeBlockNumber fork.length) chunks ∧
      writeToFile g fork activeBlockNumber data =
        (placeChunks g fork (min activeBlockNumber fork.length) chunks,
          min activeBlockNumber fork.length + chunks.length - 1) ∧
      (∀ c ∈ chunks, c.length < 2 ^ 31) ∧
      ∀ p ∈ placeChunks g fork (min activeBlockNumber fork.length) chunks, p.WellFormed g := by
  obtain ⟨chunks, hflat, hfills, heq⟩ := writeToFile_fills fork activeBlockNumber data hdata
  refine ⟨chunks, hflat, hfills, heq, fun c hc => ?_,
    wellFormed_placeChunks hfills (Nat.min_le_right _ _) hpages⟩
  have hle := (List.sublist_flatten_of_mem hc).length_le
  rw [hflat] at hle
  omega

theorem writeToFile_places_past_end :
    (∀ p ∈ ([] : List Page), p.WellFormed defaultGeometry) ∧ [(7 : UInt8)] ≠ [] ∧
      [(7 : UInt8)].length < 2 ^ 31 ∧ ∃ chunks : List (List UInt8), chunks.flatten = [7] ∧
      FillsFrom defaultGeometry [] (min 1 ([] : List Page).length) chunks ∧
      writeToFile defaultGeometry [] 1 [7] =
        (placeChunks defaultGeometry [] (min 1 ([] : List Page).length) chunks,
          min 1 ([] : List Page).length + chunks.length - 1) ∧
      (∀ c ∈ chunks, c.length < 2 ^ 31) ∧
      ∀ p ∈ placeChunks defaultGeometry [] (min 1 ([] : List Page).length) chunks,
        p.WellFormed defaultGeometry :=
  ⟨fun _ h => absurd h (List.not_mem_nil _), by decide, by decide,
    writeToFile_places [] 1 [7] (fun _ h => absurd h (List.not_mem_nil _)) (by decide) (by decide)⟩

/-- With `activeBlockNumber` past the end of an empty fork, the byte lands on block 0, the
page `P_NEW` appends, and `activeBlockNumber` ends at 0, not at block 1 or after it. -/
theorem writeToFile_past_end :
    writeToFile defaultGeometry [] 1 [7] = ([(pageInit defaultGeometry).append [7]], 0) := rfl

/-! ### Appending to a packed fork -/

variable (g)

/-- The data fork as `WriteToFile` expects it at `activeBlockNumber`: packed, and when the
cursor is at or past the end of the fork, its last page full. -/
structure ReadyAt (fork : List Page) (activeBlockNumber : Nat) : Prop where
  packed : Packed g fork
  lastFull : fork.length ≤ activeBlockNumber → ∀ p ∈ fork.getLast?, p.Full g

variable {g}

theorem appendAt_concat (pages : List Page) (last : Page) (bytes : List UInt8) :
    appendAt g (pages ++ [last]) pages.length bytes = pages ++ [last.append bytes] := by
  simp [appendAt]

theorem appendAt_length (fork : List Page) (bytes : List UInt8) :
    appendAt g fork fork.length bytes = fork ++ [(pageInit g).append bytes] := by
  simp [appendAt]

theorem forkFreeSpace_concat (pages : List Page) (last : Page) :
    forkFreeSpace g (pages ++ [last]) pages.length = last.freeSpace g := by
  simp [forkFreeSpace]

theorem forkFreeSpace_length (fork : List Page) :
    forkFreeSpace g fork fork.length = cstorePageDataSize g := by
  simp [forkFreeSpace, pageInit_freeSpace]

theorem appendAt_nil_of_lt {fork : List Page} {i : Nat} (hi : i < fork.length) :
    appendAt g fork i [] = fork := by
  apply List.ext_getElem?
  intro j
  simp only [appendAt, hi, if_true, Page.append_nil, List.getElem?_set]
  split <;> simp_all

/-- A block before the last one of a packed fork has no room left. -/
theorem forkFreeSpace_of_packed {fork : List Page} {i : Nat} (hp : Packed g fork)
    (hi : i + 1 < fork.length) : forkFreeSpace g fork i = 0 := by
  obtain ⟨pages, last, rfl⟩ :=
    (List.eq_nil_or_concat' fork).resolve_left (by rintro rfl; simp at hi)
  have hlt : i < pages.length := by simpa using hi
  have hfull := ((packed_concat_iff.mp hp).1 _ (List.getElem_mem hlt)).2
  simpa [forkFreeSpace, List.getElem?_append_left hlt, List.getElem?_eq_getElem hlt]
    using (Page.full_iff_freeSpace_eq_zero _).mp hfull

/-- Copying a chunk that fits into a block of a packed fork at or after its last page
extends the fork's stream by the chunk, and the fork stays packed. -/
theorem appendAt_packed {fork : List Page} {s : Nat} {c : List UInt8} (hp : Packed g fork)
    (hs : s ≤ fork.length) (hlast : s = fork.length → ∀ p ∈ fork.getLast?, p.Full g)
    (hc : c.length ≤ forkFreeSpace g fork s) :
    forkStream (appendAt g fork s c) = forkStream fork ++ c ∧ Packed g (appendAt g fork s c) ∧
      (c.length = forkFreeSpace g fork s → ∀ p ∈ (appendAt g fork s c)[s]?, p.Full g) := by
  rcases Nat.lt_or_ge s fork.length with hlt | hge
  · obtain ⟨pages, last, rfl⟩ :=
      (List.eq_nil_or_concat' fork).resolve_left (by rintro rfl; simp at hlt)
    obtain ⟨hpages, hwf⟩ := packed_concat_iff.mp hp
    rcases Nat.lt_or_ge s pages.length with hs' | hs'
    · -- a full page before the last: nothing fits
      have hzero := forkFreeSpace_of_packed hp (by simpa using hs')
      obtain rfl : c = [] := List.eq_nil_of_length_eq_zero (by omega)
      rw [appendAt_nil_of_lt hlt]
      refine ⟨by simp, hp, fun _ p hp' => ?_⟩
      rw [List.getElem?_append_left hs', List.getElem?_eq_getElem hs', Option.mem_some_iff] at hp'
      exact hp' ▸ (hpages _ (List.getElem_mem hs')).2
    · -- the last page
      obtain rfl : s = pages.length := by simp at hlt; omega
      rw [forkFreeSpace_concat] at hc
      rw [appendAt_concat]
      have hfree := Page.freeSpace_of_wellFormed hwf
      refine ⟨by simp, packed_concat_iff.mpr ⟨hpages, ?_⟩, fun hfill p hp' => ?_⟩
      · rw [Page.wellFormed_iff] at hwf ⊢
        simp only [Page.append_pdUpper, Page.append_payload, List.length_append]
        exact ⟨hwf.1, by omega⟩
      · simp only [List.getElem?_concat_length, Option.mem_some_iff] at hp'
        rw [← hp', Page.full_iff_freeSpace_eq_zero]
        rw [forkFreeSpace_concat] at hfill
        simp only [Page.freeSpace, Page.pdLower, Page.append_pdUpper, Page.append_payload,
          List.length_append] at hfill ⊢
        omega
  · -- a new page
    obtain rfl : s = fork.length := by omega
    rw [forkFreeSpace_length] at hc
    rw [appendAt_length]
    refine ⟨by simp, packed_concat_iff.mpr ⟨fun p hp' => ⟨hp.wellFormed p hp', ?_⟩, ?_⟩,
      fun hfill p hp' => ?_⟩
    · rcases List.eq_nil_or_concat' fork with rfl | ⟨pages, last, rfl⟩
      · simp at hp'
      · rcases List.mem_append.mp hp' with hp' | hp'
        · exact (packed_concat_iff.mp hp).1 p hp' |>.2
        · exact List.mem_singleton.mp hp' ▸ hlast (by simp) last (by simp)
    · rw [Page.wellFormed_iff]
      simpa using hc
    · simp only [List.getElem?_concat_length, Option.mem_some_iff] at hp'
      rw [forkFreeSpace_length] at hfill
      rw [← hp', Page.full_iff_of_wellFormed]
      · simpa using hfill
      · rw [Page.wellFormed_iff]; simpa using hc

/-- Chunks that fill a packed fork from a block at or after its last page extend its
stream by their concatenation, keep it packed, and end at the last chunk's block. -/
theorem placeChunks_packed : ∀ {fork : List Page} {s : Nat} {chunks : List (List UInt8)},
    FillsFrom g fork s chunks → Packed g fork → s ≤ fork.length →
    (s = fork.length → ∀ p ∈ fork.getLast?, p.Full g) →
    forkStream (placeChunks g fork s chunks) = forkStream fork ++ chunks.flatten ∧
      Packed g (placeChunks g fork s chunks) ∧
      (placeChunks g fork s chunks).length = s + chunks.length
  | _, _, [], h, _, _, _ => absurd h (by simp [FillsFrom])
  | fork, s, [c], h, hp, hs, hlast => by
    obtain ⟨hpos, hfit⟩ := h
    obtain ⟨hstream, hpacked, -⟩ := appendAt_packed hp hs hlast hfit
    have hend : fork.length ≤ s + 1 := by
      by_contra hlt
      have := forkFreeSpace_of_packed hp (i := s) (by omega)
      omega
    refine ⟨by simpa [placeChunks] using hstream, by simpa [placeChunks] using hpacked, ?_⟩
    simp only [placeChunks, length_appendAt c hs, List.length_singleton]
    omega
  | fork, s, c :: d :: cs, h, hp, hs, hlast => by
    obtain ⟨hfill, hrest⟩ := h
    obtain ⟨hstream, hpacked, hfull⟩ := appendAt_packed hp hs hlast hfill.le
    have hlen := length_appendAt (g := g) c hs
    obtain ⟨hstream', hpacked', hlen'⟩ :=
      @placeChunks_packed (appendAt g fork s c) (s + 1) (d :: cs)
      (fillsFrom_congr (fun i hi => (forkFreeSpace_appendAt_of_lt c hs (by omega)).symm) hrest)
      hpacked (by omega)
      (fun heq p hp' => hfull hfill p (by
        rw [List.getLast?_eq_getElem?] at hp'
        simpa [← heq] using hp'))
    refine ⟨?_, hpacked', ?_⟩
    · simp only [placeChunks] at hstream' ⊢
      rw [hstream', hstream]
      simp
    · simp only [placeChunks, List.length_cons] at hlen' ⊢
      omega

/-- **`WriteToFile` appends.** On a fork that is ready at `activeBlockNumber`, the data
fork's logical stream grows by exactly the buffer, and the fork is ready at the new
`activeBlockNumber`. -/
theorem writeToFile_appends {fork : List Page} {activeBlockNumber : Nat} (data : List UInt8)
    (hready : ReadyAt g fork activeBlockNumber) :
    forkStream (writeToFile g fork activeBlockNumber data).1 = forkStream fork ++ data ∧
      ReadyAt g (writeToFile g fork activeBlockNumber data).1
        (writeToFile g fork activeBlockNumber data).2 := by
  by_cases hdata : data = []
  · subst hdata
    simpa [writeToFile] using hready
  obtain ⟨chunks, hflat, hfills, heq⟩ := writeToFile_fills fork activeBlockNumber data hdata
  obtain ⟨hstream, hpacked, hlen⟩ := placeChunks_packed hfills hready.packed
    (Nat.min_le_right _ _) (fun h => hready.lastFull (by omega))
  have hne : chunks ≠ [] := by rintro rfl; exact hfills
  have hpos := List.length_pos.mpr hne
  rw [heq]
  refine ⟨hstream.trans (by rw [hflat]), ⟨hpacked, fun h => absurd h ?_⟩⟩
  dsimp only
  omega

/-- A packed fork is ready at the block of any offset within its stream:
`CStoreBeginWrite` places its cursor this way. -/
theorem readyAt_div_of_packed {fork : List Page} {offset : Nat} (hp : Packed g fork)
    (hoffset : offset ≤ (forkStream fork).length) :
    ReadyAt g fork (offset / cstorePageDataSize g) := by
  refine ⟨hp, fun hle p hp' => ?_⟩
  obtain ⟨pages, last, rfl⟩ :=
    (List.eq_nil_or_concat' fork).resolve_left (by rintro rfl; simp at hp')
  obtain rfl : p = last := by simpa using hp'.symm
  have hwf := (packed_concat_iff.mp hp).2
  have hD := cstorePageDataSize_pos g
  have hmul := (Nat.le_div_iff_mul_le hD).mp (by simpa using hle)
  rw [length_forkStream_of_packed hp] at hoffset
  rw [Nat.succ_mul, Nat.mul_comm] at hmul
  rw [Page.full_iff_of_wellFormed hwf]
  have := (Page.wellFormed_iff p).mp hwf
  omega

end CStoreWriter
