import CStoreWriter.Datum

/-!
# Block skip nodes and their min/max statistics

For every column and block of a stripe the writer keeps a `ColumnBlockSkipNode`. While
rows arrive, `CStoreWriteRow` counts each row in the node of its block and, for a
non-null value of a column with a B-tree comparison procedure, widens the node's range
with `UpdateBlockSkipNodeMinMax`; the offsets and lengths are filled in at flush time.

A node starts zeroed (`palloc0`), so without `hasMinMax`. The first value is copied into
both bounds; a later one replaces a bound only when it compares strictly beyond it, so
ties keep the incumbent.

## Main definitions

* `ColumnBlockSkipNode`, `ColumnBlockSkipNode.empty`
* `updateBlockSkipNodeMinMax` — `UpdateBlockSkipNodeMinMax`
* `writeBlockSkipNode` — what one row does to the node of its block for one column
* `TotalPreorder`, `IsFirstMin`, `IsFirstMax` — the ordering a comparison procedure
  induces, and the bounds it should yield

## Main results

* `blockSkipNode_minMax` — after any sequence of rows, `hasMinMax` holds exactly when a
  comparison procedure exists and a non-null value arrived, and the bounds are then the
  first minimal and first maximal values
-/

namespace CStoreWriter

/-- `CompressionType`: the value buffer of a block is stored as is, or compressed with
the host's `pglz`. -/
inductive CompressionType
  | compressionNone
  | compressionPgLz
  deriving DecidableEq, Repr

/-- A B-tree comparison procedure as `FunctionCall2Coll` calls it: a collation, then the
two datums; its sign orders them. -/
def Comparator := Nat → Datum → Datum → Int

/-- `ColumnBlockSkipNode`: the statistics and the position of one column's data in one
block of a stripe. Offsets are relative to the column's region of the stripe. -/
structure ColumnBlockSkipNode where
  rowCount : Nat
  minimumValue : Datum
  maximumValue : Datum
  hasMinMax : Bool
  valueBlockOffset : Nat
  valueLength : Nat
  existsBlockOffset : Nat
  existsLength : Nat
  valueCompressionType : CompressionType
  deriving DecidableEq, Repr

/-- The node `palloc0` gives: no rows, no bounds. -/
def ColumnBlockSkipNode.empty : ColumnBlockSkipNode :=
  ⟨0, .byVal 0, .byVal 0, false, 0, 0, 0, 0, .compressionNone⟩

variable (varsizeAny : List UInt8 → Nat)

/-- `DatumCopy`: a by-value datum as is, else a copy of the bytes the type's length
covers. -/
def datumCopy (datum : Datum) (datumTypeByValue : Bool) (datumTypeLength : Int) : Datum :=
  if datumTypeByValue then datum
  else .byRef (datum.pointee.take (attAddlengthDatum varsizeAny datumTypeLength datum))

/-- `UpdateBlockSkipNodeMinMax`: without a comparison procedure the node is left alone;
the first value becomes both bounds; a later value replaces the minimum when it compares
below it and the maximum when it compares above it. -/
def updateBlockSkipNodeMinMax (blockSkipNode : ColumnBlockSkipNode) (columnValue : Datum)
    (columnTypeByValue : Bool) (columnTypeLength : Int) (columnCollation : Nat)
    (comparisonFunction : Option Comparator) : ColumnBlockSkipNode :=
  match comparisonFunction with
  | none => blockSkipNode
  | some cmp =>
    let copy := datumCopy varsizeAny columnValue columnTypeByValue columnTypeLength
    if blockSkipNode.hasMinMax then
      let minimumComparison := cmp columnCollation columnValue blockSkipNode.minimumValue
      let maximumComparison := cmp columnCollation columnValue blockSkipNode.maximumValue
      { blockSkipNode with
        hasMinMax := true
        minimumValue := if minimumComparison < 0 then copy else blockSkipNode.minimumValue
        maximumValue := if 0 < maximumComparison then copy else blockSkipNode.maximumValue }
    else
      { blockSkipNode with hasMinMax := true, minimumValue := copy, maximumValue := copy }

/-- What `CStoreWriteRow` does to the skip node of the row's block for one column: a
non-null value (`some`) updates the bounds, and the row is counted either way. -/
def writeBlockSkipNode (att : Attribute) (comparisonFunction : Option Comparator)
    (node : ColumnBlockSkipNode) (value : Option Datum) : ColumnBlockSkipNode :=
  let node := match value with
    | none => node
    | some v => updateBlockSkipNodeMinMax varsizeAny node v att.attbyval att.attlen
        att.attcollation comparisonFunction
  { node with rowCount := node.rowCount + 1 }

/-- The skip node of a block after the column's values of its rows, in order. -/
def blockSkipNodeOf (att : Attribute) (comparisonFunction : Option Comparator)
    (values : List (Option Datum)) : ColumnBlockSkipNode :=
  values.foldl (writeBlockSkipNode varsizeAny att comparisonFunction) .empty

/-! ### The ordering -/

/-- `r` orders datums as a B-tree comparison procedure does: swapping the arguments negates
the sign, and `r a b ≤ 0` is transitive. -/
structure TotalPreorder (r : Datum → Datum → Int) : Prop where
  sign_swap : ∀ a b, (r a b).sign = -(r b a).sign
  trans : ∀ a b c, r a b ≤ 0 → r b c ≤ 0 → r a c ≤ 0

/-- `m` is the first minimal value of `values`: every value compares `≥ m`, and every
value before `m` strictly above it. -/
def IsFirstMin (r : Datum → Datum → Int) (values : List Datum) (m : Datum) : Prop :=
  ∃ pre post, values = pre ++ m :: post ∧ (∀ w ∈ pre, 0 < r w m) ∧ ∀ w ∈ values, 0 ≤ r w m

/-- `m` is the first maximal value of `values`. -/
def IsFirstMax (r : Datum → Datum → Int) (values : List Datum) (m : Datum) : Prop :=
  ∃ pre post, values = pre ++ m :: post ∧ (∀ w ∈ pre, r w m < 0) ∧ ∀ w ∈ values, r w m ≤ 0

namespace TotalPreorder

variable {r : Datum → Datum → Int} (hr : TotalPreorder r)
include hr

theorem neg_iff_pos_swap (a b : Datum) : r a b < 0 ↔ 0 < r b a := by
  have h := hr.sign_swap a b
  rw [← Int.sign_eq_neg_one_iff_neg, ← Int.sign_eq_one_iff_pos]
  omega

theorem self_eq_zero (a : Datum) : r a a = 0 := by
  have h := hr.sign_swap a a
  exact Int.sign_eq_zero_iff_zero.mp (by omega)

theorem nonpos_swap {a b : Datum} (h : 0 ≤ r a b) : r b a ≤ 0 :=
  Int.not_lt.mp fun hpos => absurd ((hr.neg_iff_pos_swap a b).mpr hpos) (Int.not_lt.mpr h)

/-- The reversed procedure orders datums the other way round. -/
theorem neg : TotalPreorder (fun a b => -r a b) := by
  refine ⟨fun a b => by simp only [Int.sign_neg, hr.sign_swap a b], fun a b c hab hbc => ?_⟩
  have hca := hr.trans c b a (hr.nonpos_swap (by omega)) (hr.nonpos_swap (by omega))
  have hac : ¬r a c < 0 := fun h => absurd ((hr.neg_iff_pos_swap a c).mp h) (Int.not_lt.mpr hca)
  show -r a c ≤ 0
  omega

end TotalPreorder

section Bounds

variable {r : Datum → Datum → Int} (hr : TotalPreorder r)
include hr

theorem isFirstMin_singleton (v : Datum) : IsFirstMin r [v] v :=
  ⟨[], [], rfl, by simp, by simp [hr.self_eq_zero]⟩

/-- One more value: it becomes the minimum exactly when it compares below the incumbent. -/
theorem isFirstMin_concat {values : List Datum} {m : Datum} (h : IsFirstMin r values m)
    (v : Datum) : IsFirstMin r (values ++ [v]) (if r v m < 0 then v else m) := by
  obtain ⟨pre, post, rfl, hpre, hall⟩ := h
  split_ifs with hv
  · -- every earlier value is at least `m`, which is above `v`
    have hbefore : ∀ w ∈ pre ++ m :: post, 0 < r w v := by
      intro w hw
      have hmv := hr.trans m w v (hr.nonpos_swap (hall w hw))
      have := (hr.neg_iff_pos_swap v m).mp hv
      omega
    refine ⟨pre ++ m :: post, [], rfl, hbefore, fun w hw => ?_⟩
    rcases List.mem_append.mp hw with hw | hw
    · exact Int.le_of_lt (hbefore w hw)
    · obtain rfl := List.mem_singleton.mp hw
      have := hr.self_eq_zero w
      omega
  · refine ⟨pre, post ++ [v], by simp, hpre, fun w hw => ?_⟩
    rcases List.mem_append.mp hw with hw | hw
    · exact hall w hw
    · rw [List.mem_singleton.mp hw]; omega

end Bounds

/-- The first maximal value is the first minimal one under the reversed order. -/
theorem isFirstMax_iff {r : Datum → Datum → Int} {values : List Datum} {m : Datum} :
    IsFirstMax r values m ↔ IsFirstMin (fun a b => -r a b) values m := by
  have hlt : ∀ w, 0 < -r w m ↔ r w m < 0 := fun w => by omega
  have hle : ∀ w, 0 ≤ -r w m ↔ r w m ≤ 0 := fun w => by omega
  simp only [IsFirstMax, IsFirstMin, hlt, hle]

theorem isFirstMax_singleton {r : Datum → Datum → Int} (hr : TotalPreorder r) (v : Datum) :
    IsFirstMax r [v] v :=
  isFirstMax_iff.mpr (isFirstMin_singleton hr.neg v)

/-- One more value: it becomes the maximum exactly when it compares above the incumbent. -/
theorem isFirstMax_concat {r : Datum → Datum → Int} (hr : TotalPreorder r) {values : List Datum}
    {m : Datum} (h : IsFirstMax r values m) (v : Datum) :
    IsFirstMax r (values ++ [v]) (if 0 < r v m then v else m) := by
  have hif : (if -r v m < 0 then v else m) = if 0 < r v m then v else m := by
    congr 1; exact propext (by omega)
  exact isFirstMax_iff.mpr (hif ▸ isFirstMin_concat hr.neg (isFirstMax_iff.mp h) v)

/-! ### The node of a block over a run of rows -/

variable {varsizeAny}

theorem datumCopy_eq {att : Attribute} {v : Datum} (h : IsValueOf varsizeAny att v) :
    datumCopy varsizeAny v att.attbyval att.attlen = v := by
  cases hb : att.attbyval
  · have hfetch := (decode_datumBytes h []).2.2
    have hbytes : datumBytes varsizeAny v false att.attlen =
        v.pointee.take (attAddlengthDatum varsizeAny att.attlen v) := by
      unfold datumBytes attAddlengthDatum
      split_ifs <;> simp_all
    simpa [datumCopy, hb, fetchAtt, hbytes] using hfetch
  · simp [datumCopy]

@[simp] theorem writeBlockSkipNode_none (att : Attribute) (comparisonFunction : Option Comparator)
    (node : ColumnBlockSkipNode) :
    writeBlockSkipNode varsizeAny att comparisonFunction node none =
      { node with rowCount := node.rowCount + 1 } := rfl

@[simp] theorem updateBlockSkipNodeMinMax_rowCount (node : ColumnBlockSkipNode) (v : Datum)
    (byVal : Bool) (len : Int) (collation : Nat) (comparisonFunction : Option Comparator) :
    (updateBlockSkipNodeMinMax varsizeAny node v byVal len collation comparisonFunction).rowCount =
      node.rowCount := by
  unfold updateBlockSkipNodeMinMax
  split
  · rfl
  · split <;> rfl

theorem rowCount_writeBlockSkipNode (att : Attribute) (comparisonFunction : Option Comparator)
    (node : ColumnBlockSkipNode) (value : Option Datum) :
    (writeBlockSkipNode varsizeAny att comparisonFunction node value).rowCount =
      node.rowCount + 1 := by
  cases value <;> simp [writeBlockSkipNode]

theorem reduceOption_cons (value : Option Datum) (values : List (Option Datum)) :
    (value :: values).reduceOption = value.toList ++ values.reduceOption := by
  cases value <;> simp

/-- What the node of a block records after the non-null values `values` of its rows:
bounds exactly when there is a comparison procedure and a value, and then the first
minimal and the first maximal value. -/
structure MinMaxInv (comparisonFunction : Option Comparator) (collation : Nat)
    (values : List Datum) (node : ColumnBlockSkipNode) : Prop where
  hasMinMax_iff : node.hasMinMax = true ↔ comparisonFunction.isSome ∧ values ≠ []
  bounds : ∀ cmp ∈ comparisonFunction, node.hasMinMax = true →
    IsFirstMin (cmp collation) values node.minimumValue ∧
      IsFirstMax (cmp collation) values node.maximumValue

theorem minMaxInv_empty (comparisonFunction : Option Comparator) (collation : Nat) :
    MinMaxInv comparisonFunction collation [] .empty :=
  ⟨by simp [ColumnBlockSkipNode.empty], by simp [ColumnBlockSkipNode.empty]⟩

section Step

variable {att : Attribute} {comparisonFunction : Option Comparator}
  (hcmp : ∀ cmp ∈ comparisonFunction, TotalPreorder (cmp att.attcollation))
include hcmp

/-- One row keeps the invariant, its value joining the block's values when it is not null. -/
theorem minMaxInv_writeBlockSkipNode {values : List Datum} {node : ColumnBlockSkipNode}
    (h : MinMaxInv comparisonFunction att.attcollation values node) {value : Option Datum}
    (hvalue : ∀ v ∈ value, IsValueOf varsizeAny att v) :
    MinMaxInv comparisonFunction att.attcollation (values ++ value.toList)
      (writeBlockSkipNode varsizeAny att comparisonFunction node value) := by
  rcases value with _ | v
  · exact ⟨by simpa using h.hasMinMax_iff, by simpa using h.bounds⟩
  have hcopy := datumCopy_eq (hvalue v rfl)
  rcases comparisonFunction with _ | cmp
  · exact ⟨by simpa [writeBlockSkipNode, updateBlockSkipNodeMinMax] using h.hasMinMax_iff,
      by simp⟩
  have hr := hcmp cmp rfl
  by_cases hm : node.hasMinMax = true
  · obtain ⟨hmin, hmax⟩ := h.bounds cmp rfl hm
    refine ⟨by simp [writeBlockSkipNode, updateBlockSkipNodeMinMax, hm], fun c hc _ => ?_⟩
    obtain rfl : c = cmp := (Option.mem_some_iff.mp hc).symm
    simpa [writeBlockSkipNode, updateBlockSkipNodeMinMax, hm, hcopy] using
      And.intro (isFirstMin_concat hr hmin v) (isFirstMax_concat hr hmax v)
  · obtain rfl : values = [] := by simpa [hm] using h.hasMinMax_iff
    refine ⟨by simp [writeBlockSkipNode, updateBlockSkipNodeMinMax, hm], fun c hc _ => ?_⟩
    obtain rfl : c = cmp := (Option.mem_some_iff.mp hc).symm
    simpa [writeBlockSkipNode, updateBlockSkipNodeMinMax, hm, hcopy] using
      And.intro (isFirstMin_singleton hr v) (isFirstMax_singleton hr v)

/-- A run of rows keeps the invariant, the non-null values joining the block's values. -/
theorem minMaxInv_foldl : ∀ (rows : List (Option Datum)) {values : List Datum}
    {node : ColumnBlockSkipNode}, MinMaxInv comparisonFunction att.attcollation values node →
    (∀ v ∈ rows.reduceOption, IsValueOf varsizeAny att v) →
    MinMaxInv comparisonFunction att.attcollation (values ++ rows.reduceOption)
      (rows.foldl (writeBlockSkipNode varsizeAny att comparisonFunction) node)
  | [], _, _, h, _ => by simpa [List.reduceOption] using h
  | value :: rows, values, node, h, hrows => by
    rw [reduceOption_cons] at hrows ⊢
    rw [List.foldl_cons, ← List.append_assoc]
    exact minMaxInv_foldl rows
      (minMaxInv_writeBlockSkipNode hcmp h fun v hv => hrows v (by simp [hv]))
      fun v hv => hrows v (List.mem_append_right _ hv)

end Step

theorem rowCount_foldl (att : Attribute) (comparisonFunction : Option Comparator) :
    ∀ (rows : List (Option Datum)) (node : ColumnBlockSkipNode),
      (rows.foldl (writeBlockSkipNode varsizeAny att comparisonFunction) node).rowCount =
        node.rowCount + rows.length
  | [], _ => rfl
  | value :: rows, node => by
    rw [List.foldl_cons, rowCount_foldl, rowCount_writeBlockSkipNode, List.length_cons]
    omega

/-- **The statistics of a block's skip node.** For a comparison procedure that is a total
preorder and any rows written into a block, the node counts the rows; it has bounds exactly
when the column has a comparison procedure and a non-null value arrived; its bounds are
then the first minimal and the first maximal non-null value, so every value compares
between them; and a null row changes nothing but the count. -/
theorem blockSkipNode_minMax (att : Attribute) (comparisonFunction : Option Comparator)
    (hcmp : ∀ cmp ∈ comparisonFunction, TotalPreorder (cmp att.attcollation))
    (rows : List (Option Datum)) (hrows : ∀ v ∈ rows.reduceOption, IsValueOf varsizeAny att v) :
    (blockSkipNodeOf varsizeAny att comparisonFunction rows).rowCount = rows.length ∧
      MinMaxInv comparisonFunction att.attcollation rows.reduceOption
        (blockSkipNodeOf varsizeAny att comparisonFunction rows) ∧
      ∀ node : ColumnBlockSkipNode,
        (writeBlockSkipNode varsizeAny att comparisonFunction node none).hasMinMax =
            node.hasMinMax ∧
          (writeBlockSkipNode varsizeAny att comparisonFunction node none).minimumValue =
            node.minimumValue ∧
          (writeBlockSkipNode varsizeAny att comparisonFunction node none).maximumValue =
            node.maximumValue :=
  ⟨by simp [blockSkipNodeOf, rowCount_foldl, ColumnBlockSkipNode.empty],
    by simpa using minMaxInv_foldl hcmp rows (minMaxInv_empty _ _) hrows,
    fun _ => ⟨rfl, rfl, rfl⟩⟩

/-- `btint4cmp`: `int4` values compare as integers. -/
def int4Comparator : Comparator := fun _ a b => (a.word : Int) - b.word

theorem totalPreorder_int4Comparator (collation : Nat) :
    TotalPreorder (int4Comparator collation) :=
  ⟨fun a b => by simp only [int4Comparator]; rw [← Int.sign_neg, Int.neg_sub],
    fun a b c => by simp only [int4Comparator]; omega⟩

end CStoreWriter
