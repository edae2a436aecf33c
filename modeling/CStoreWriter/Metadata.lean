import CStoreWriter.SkipNode

/-!
# File metadata and the collaborators that encode it

The writer records where each stripe lies in a `StripeMetadata`, collects them in the
`TableFooter` it persists at the end of a session, and describes the regions of a stripe in
its `StripeFooter`. The byte encodings of these records, the compression codec, the catalog
lookup of comparison procedures and `VARSIZE_ANY` are declared outside `src/`; the model
takes them as the fields of `Codecs`, and a theorem that needs one of them to behave says
so in a hypothesis.

## Main definitions

* `StripeMetadata`, `TableFooter`, `StripeFooter`
* `Codecs` — the collaborators the writer calls
* `appendStripeMetadata` — `AppendStripeMetadata`
-/

namespace CStoreWriter

/-- `StripeMetadata`: where a stripe starts in the data fork's logical stream, and the
lengths of its skip list, data and footer regions. -/
structure StripeMetadata where
  fileOffset : Nat
  skipListLength : Nat
  dataLength : Nat
  footerLength : Nat
  deriving DecidableEq, Repr

namespace StripeMetadata

/-- The bytes a stripe takes: `skipListLength + dataLength + footerLength`. -/
def size (s : StripeMetadata) : Nat := s.skipListLength + s.dataLength + s.footerLength

/-- The offset right after the stripe. -/
def endOffset (s : StripeMetadata) : Nat := s.fileOffset + s.size

end StripeMetadata

/-- `TableFooter`: the block row count of the table and its stripes, in flush order. -/
structure TableFooter where
  stripeMetadataList : List StripeMetadata
  blockRowCount : Nat
  deriving DecidableEq, Repr

/-- `StripeFooter`: the per-column sizes of a stripe's skip list, exists and value
regions. -/
structure StripeFooter where
  columnCount : Nat
  skipListSizeArray : List Nat
  existsSizeArray : List Nat
  valueSizeArray : List Nat
  deriving DecidableEq, Repr

/-- `AppendStripeMetadata`: a copy of the stripe's metadata goes at the end of the list. -/
def appendStripeMetadata (tableFooter : TableFooter) (stripeMetadata : StripeMetadata) :
    TableFooter :=
  { tableFooter with stripeMetadataList := tableFooter.stripeMetadataList ++ [stripeMetadata] }

@[simp] theorem appendStripeMetadata_stripeMetadataList (tableFooter : TableFooter)
    (stripeMetadata : StripeMetadata) :
    (appendStripeMetadata tableFooter stripeMetadata).stripeMetadataList =
      tableFooter.stripeMetadataList ++ [stripeMetadata] := rfl

@[simp] theorem appendStripeMetadata_blockRowCount (tableFooter : TableFooter)
    (stripeMetadata : StripeMetadata) :
    (appendStripeMetadata tableFooter stripeMetadata).blockRowCount =
      tableFooter.blockRowCount := rfl

/-- The functions the writer calls that are declared outside `src/`: the metadata
serializers and the footer reader's deserializers, `CompressBuffer`, the catalog's
`GetFunctionInfoOrNull` for a type's B-tree ordering procedure, and `VARSIZE_ANY`.
`deserializeTableFooterMetadata` returns `(startingBlock, blockCount)` with
`startingBlock = 0` when the header does not parse; `compressBuffer` returns the
compressed bytes when it compressed the input. -/
structure Codecs where
  varsizeAny : List UInt8 → Nat
  serializeColumnSkipList : List ColumnBlockSkipNode → Nat → Bool → Int → List UInt8
  serializeStripeFooter : StripeFooter → List UInt8
  serializeTableFooter : TableFooter → List UInt8
  serializePostScript : Nat → List UInt8
  serializeTableFooterMetadata : Nat → Nat → List UInt8
  deserializeTableFooterMetadata : List UInt8 → Nat × Nat
  deserializeTableFooter : List UInt8 → Option TableFooter
  compressBuffer : List UInt8 → CompressionType → Option (List UInt8)
  getFunctionInfoOrNull : Nat → Option Comparator

/-! ### A small lawful instance

The serializers of the real format are declared outside `src/`. For concrete runs the
model uses this instance: numbers in unary closed by a zero byte, which every parser here
reads back whatever follows. -/

/-- `n` in unary, closed by a zero byte. -/
def unaryBytes (n : Nat) : List UInt8 := List.replicate n 1 ++ [0]

/-- A number `unaryBytes` wrote, and the bytes after it. -/
def parseUnary (bytes : List UInt8) : Nat × List UInt8 :=
  ((bytes.takeWhile (· = 1)).length, (bytes.dropWhile (· = 1)).drop 1)

theorem parseUnary_cons_one (bytes : List UInt8) :
    parseUnary (1 :: bytes) = ((parseUnary bytes).1 + 1, (parseUnary bytes).2) := by
  simp [parseUnary, List.takeWhile_cons, List.dropWhile_cons]

theorem parseUnary_unaryBytes (n : Nat) (rest : List UInt8) :
    parseUnary (unaryBytes n ++ rest) = (n, rest) := by
  induction n with
  | zero => rfl
  | succ n ih =>
    rw [show unaryBytes (n + 1) ++ rest = 1 :: (unaryBytes n ++ rest) by
      simp [unaryBytes, List.replicate_succ], parseUnary_cons_one, ih]

/-- A stripe's metadata, field by field. -/
def encodeStripeMetadata (s : StripeMetadata) : List UInt8 :=
  unaryBytes s.fileOffset ++ unaryBytes s.skipListLength ++ unaryBytes s.dataLength ++
    unaryBytes s.footerLength

/-- Read `n` stripe metadata records, and the bytes after them. -/
def parseStripeMetadataList : Nat → List UInt8 → List StripeMetadata × List UInt8
  | 0, bytes => ([], bytes)
  | n + 1, bytes =>
    let a := parseUnary bytes
    let b := parseUnary a.2
    let c := parseUnary b.2
    let d := parseUnary c.2
    let rest := parseStripeMetadataList n d.2
    (⟨a.1, b.1, c.1, d.1⟩ :: rest.1, rest.2)

theorem parseStripeMetadataList_encode (stripes : List StripeMetadata) (rest : List UInt8) :
    parseStripeMetadataList stripes.length (stripes.flatMap encodeStripeMetadata ++ rest) =
      (stripes, rest) := by
  induction stripes with
  | nil => rfl
  | cons s stripes ih =>
    simp only [List.length_cons, parseStripeMetadataList, List.flatMap_cons, encodeStripeMetadata,
      List.append_assoc, parseUnary_unaryBytes, ih]

/-- A table footer: its block row count, its number of stripes, and the stripes. -/
def encodeTableFooter (tableFooter : TableFooter) : List UInt8 :=
  unaryBytes tableFooter.blockRowCount ++ unaryBytes tableFooter.stripeMetadataList.length ++
    tableFooter.stripeMetadataList.flatMap encodeStripeMetadata

/-- Read a table footer `encodeTableFooter` wrote, ignoring what follows it. -/
def decodeTableFooter (bytes : List UInt8) : TableFooter :=
  let r := parseUnary bytes
  let n := parseUnary r.2
  ⟨(parseStripeMetadataList n.1 n.2).1, r.1⟩

theorem decodeTableFooter_encode (tableFooter : TableFooter) (rest : List UInt8) :
    decodeTableFooter (encodeTableFooter tableFooter ++ rest) = tableFooter := by
  simp only [decodeTableFooter, encodeTableFooter, List.append_assoc, parseUnary_unaryBytes,
    parseStripeMetadataList_encode]

/-- The collaborators of the concrete runs: unary metadata, a four-byte postscript, a
stripe footer of its sizes, a codec that never compresses, and `btint4cmp` for every
type. -/
def exampleCodecs : Codecs where
  varsizeAny bytes := fromLE (bytes.take 4)
  serializeColumnSkipList nodes blockCount _ _ := (nodes.take blockCount).flatMap fun node =>
    unaryBytes node.rowCount
  serializeStripeFooter stripeFooter :=
    (stripeFooter.skipListSizeArray ++ stripeFooter.existsSizeArray ++
      stripeFooter.valueSizeArray).flatMap unaryBytes
  serializeTableFooter := encodeTableFooter
  serializePostScript := leBytes 4
  serializeTableFooterMetadata startingBlock blockCount :=
    unaryBytes startingBlock ++ unaryBytes blockCount
  deserializeTableFooterMetadata bytes :=
    ((parseUnary bytes).1, (parseUnary (parseUnary bytes).2).1)
  deserializeTableFooter bytes := some (decodeTableFooter (bytes.drop 4))
  compressBuffer _ _ := none
  getFunctionInfoOrNull _ := some int4Comparator

theorem exampleCodecs_tableFooterMetadata (startingBlock blockCount : Nat) :
    exampleCodecs.deserializeTableFooterMetadata
      (exampleCodecs.serializeTableFooterMetadata startingBlock blockCount) =
        (startingBlock, blockCount) := by
  simp only [exampleCodecs]
  rw [parseUnary_unaryBytes, ← List.append_nil (unaryBytes blockCount), parseUnary_unaryBytes]

end CStoreWriter
