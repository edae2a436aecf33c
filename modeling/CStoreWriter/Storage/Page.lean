import Mathlib

/-!
# Pages and forks

The writer keeps a table in two forks of a host relation: the data fork, which it only
appends to, and the footer fork. A fork is a sequence of pages of `BLCKSZ` bytes. A page
starts with `SizeOfPageHeaderData` bytes of header, and its payload runs from there up to
`pd_lower`; a reader of either fork concatenates the payloads of a range of pages.

So a page is modelled by its payload and its `pd_upper`, and `pd_lower` is the header size
plus the payload's length. The bytes between `pd_lower` and `pd_upper` are never read
before they are written, and are left out.

## Main definitions

* `PageGeometry` — the host's `BLCKSZ` and `SizeOfPageHeaderData`
* `cstorePageDataSize` — `CSTORE_PAGE_DATA_SIZE`, the payload a page can hold
* `Page`, `pageInit` — a page, and the empty page `PageInit(page, BLCKSZ, 0)` leaves
* `forkStream` — the logical byte stream of a fork
* `Packed` — every page of a fork but the last is full
-/

namespace CStoreWriter

/-- The host's page geometry: `BLCKSZ` bytes a page, of which the first
`SizeOfPageHeaderData` are the page header. -/
structure PageGeometry where
  blckSz : Nat
  sizeOfPageHeaderData : Nat
  header_lt_blckSz : sizeOfPageHeaderData < blckSz

/-- The geometry of a default build of the host: `BLCKSZ = 8192` and 24-byte page
headers. -/
def defaultGeometry : PageGeometry := ⟨8192, 24, by decide⟩

variable (g : PageGeometry)

/-- Modelled from the spec: `CSTORE_PAGE_DATA_SIZE`, declared outside `src/`, is the
payload capacity of a page, `D = P − H`. -/
def cstorePageDataSize : Nat := g.blckSz - g.sizeOfPageHeaderData

theorem cstorePageDataSize_pos : 0 < cstorePageDataSize g := by
  have := g.header_lt_blckSz
  unfold cstorePageDataSize
  omega

/-- A page: its `pd_upper` and the payload bytes `[SizeOfPageHeaderData, pd_lower)`. -/
structure Page where
  pdUpper : Nat
  payload : List UInt8
  deriving DecidableEq, Repr

namespace Page

/-- `pd_lower`: the header, then the payload. -/
def pdLower (p : Page) : Nat := g.sizeOfPageHeaderData + p.payload.length

/-- `pd_upper - pd_lower`, the room left on the page (`remainingCapacity` in
`WriteToFile`). It is C's `int` difference on a page with `pd_lower <= pd_upper`, as every
page the writer lays out is (`WellFormed`); on another it would be negative, not 0. -/
def freeSpace (p : Page) : Nat := p.pdUpper - p.pdLower g

/-- The host marks a page `PD_PAGE_FULL` once `pd_lower >= pd_upper`. -/
def Full (p : Page) : Prop := p.pdUpper ≤ p.pdLower g

/-- A page as `PageInit(page, BLCKSZ, 0)` lays it out and the writers keep it:
`pd_upper = BLCKSZ` and the payload within it. -/
def WellFormed (p : Page) : Prop := p.pdUpper = g.blckSz ∧ p.pdLower g ≤ p.pdUpper

/-- The page with `bytes` copied at `pd_lower` and `pd_lower` advanced past them. -/
def append (p : Page) (bytes : List UInt8) : Page := { p with payload := p.payload ++ bytes }

@[simp] theorem append_payload (p : Page) (bytes : List UInt8) :
    (p.append bytes).payload = p.payload ++ bytes := rfl

@[simp] theorem append_pdUpper (p : Page) (bytes : List UInt8) :
    (p.append bytes).pdUpper = p.pdUpper := rfl

variable {g}

theorem wellFormed_iff (p : Page) :
    p.WellFormed g ↔ p.pdUpper = g.blckSz ∧ p.payload.length ≤ cstorePageDataSize g := by
  have := g.header_lt_blckSz
  unfold WellFormed pdLower cstorePageDataSize
  omega

theorem full_iff_of_wellFormed {p : Page} (h : p.WellFormed g) :
    p.Full g ↔ p.payload.length = cstorePageDataSize g := by
  rw [wellFormed_iff] at h
  unfold Full pdLower
  unfold cstorePageDataSize at h ⊢
  omega

theorem full_iff_freeSpace_eq_zero (p : Page) : p.Full g ↔ p.freeSpace g = 0 := by
  unfold Full freeSpace
  omega

@[simp] theorem append_nil (p : Page) : p.append [] = p := by
  simp [append]

theorem freeSpace_of_wellFormed {p : Page} (h : p.WellFormed g) :
    p.freeSpace g = cstorePageDataSize g - p.payload.length := by
  rw [wellFormed_iff] at h
  unfold freeSpace pdLower
  unfold cstorePageDataSize at h ⊢
  omega

/-- Bytes that fit the free space keep a page within its bounds. -/
theorem wellFormed_append {p : Page} {bytes : List UInt8} (h : p.WellFormed g)
    (hbytes : bytes.length ≤ p.freeSpace g) : (p.append bytes).WellFormed g := by
  rw [freeSpace_of_wellFormed h] at hbytes
  rw [wellFormed_iff] at h ⊢
  simp only [append_pdUpper, append_payload, List.length_append]
  exact ⟨h.1, by omega⟩

end Page

/-- `PageInit(page, BLCKSZ, 0)`: no payload, and no special space. -/
def pageInit : Page := { pdUpper := g.blckSz, payload := [] }

@[simp] theorem pageInit_payload : (pageInit g).payload = [] := rfl

@[simp] theorem pageInit_pdUpper : (pageInit g).pdUpper = g.blckSz := rfl

theorem pageInit_freeSpace : (pageInit g).freeSpace g = cstorePageDataSize g := rfl

theorem pageInit_wellFormed : (pageInit g).WellFormed g := by
  rw [Page.wellFormed_iff]
  exact ⟨rfl, Nat.zero_le _⟩

/-- The logical byte stream of a fork: the payloads of blocks `0, 1, ...` in order. -/
def forkStream (fork : List Page) : List UInt8 := fork.flatMap Page.payload

@[simp] theorem forkStream_nil : forkStream [] = [] := rfl

@[simp] theorem forkStream_append (fork fork' : List Page) :
    forkStream (fork ++ fork') = forkStream fork ++ forkStream fork' := by
  simp [forkStream]

@[simp] theorem forkStream_cons (p : Page) (fork : List Page) :
    forkStream (p :: fork) = p.payload ++ forkStream fork := by
  simp [forkStream]

/-- Every page of the fork is well formed, and every page but the last is full: the
shape `WriteToFile` leaves a fork in when it starts after the last payload byte. -/
structure Packed (fork : List Page) : Prop where
  wellFormed : ∀ p ∈ fork, p.WellFormed g
  full : ∀ p ∈ fork.dropLast, p.Full g

theorem packed_nil : Packed g [] := ⟨by simp, by simp⟩

variable {g}

theorem packed_concat_iff {pages : List Page} {last : Page} :
    Packed g (pages ++ [last]) ↔
      (∀ p ∈ pages, p.WellFormed g ∧ p.Full g) ∧ last.WellFormed g := by
  constructor
  · rintro ⟨hwf, hfull⟩
    simp only [List.dropLast_concat] at hfull
    exact ⟨fun p hp => ⟨hwf p (by simp [hp]), hfull p hp⟩, hwf last (by simp)⟩
  · rintro ⟨hpages, hlast⟩
    refine ⟨fun p hp => ?_, by simpa using fun p hp => (hpages p hp).2⟩
    rcases List.mem_append.mp hp with hp | hp
    · exact (hpages p hp).1
    · rw [List.mem_singleton.mp hp]; exact hlast

theorem length_forkStream_of_full {pages : List Page}
    (h : ∀ p ∈ pages, p.WellFormed g ∧ p.Full g) :
    (forkStream pages).length = cstorePageDataSize g * pages.length := by
  induction pages with
  | nil => rfl
  | cons p pages ih =>
    have hp := h p (List.mem_cons_self p pages)
    rw [forkStream_cons, List.length_append, ih (fun q hq => h q (List.mem_cons_of_mem p hq)),
      (Page.full_iff_of_wellFormed hp.1).mp hp.2, List.length_cons, Nat.mul_succ]
    omega

/-- A packed fork holds `CSTORE_PAGE_DATA_SIZE` bytes on each page but the last. -/
theorem length_forkStream_of_packed {pages : List Page} {last : Page}
    (h : Packed g (pages ++ [last])) :
    (forkStream (pages ++ [last])).length =
      cstorePageDataSize g * pages.length + last.payload.length := by
  rw [forkStream_append, List.length_append,
    length_forkStream_of_full (packed_concat_iff.mp h).1]
  simp

end CStoreWriter
