import Mathlib

/-!
# Datums and `SerializeSingleDatum`

A column's value buffer is the concatenation of its non-null datums, each copied by
`SerializeSingleDatum` and padded with zero bytes to `att_align_nominal` of its length.
The padding is applied to the datum's length and not to the buffer's, so it is only
because every datum's length is rounded to a multiple of the alignment that every datum
also starts at one, and that a reader can walk the buffer datum by datum.

A datum of a fixed-length type holds `attlen` bytes, stored from the machine word
(`store_att_byval`) or copied through the pointer. A varlena (`attlen = -1`) carries its
length in a header that `VARSIZE_ANY` reads; a cstring (`attlen = -2`) runs through its
terminating NUL. `VARSIZE_ANY` is the host's macro, and is a parameter here.

## Main definitions

* `Datum`, `Attribute` — a datum, and the type metadata the writer reads for a column
* `attAlignNominal`, `attAddlengthDatum` — the host macros the serializer uses
* `serializeSingleDatum`, `serializeDatums` — one datum, and a list of them from empty
* `walkDatums` — the reader's walk over a value buffer

## Main results

* `alignment_dvd_length_serializeDatums` — every datum starts at a multiple of the alignment
* `walkDatums_flatMap` — from an aligned offset the walk returns exactly the encoded values
* `serializeDatums_decodable` — the buffer is each datum's bytes followed by zeros, and the
  walk from offset 0 returns exactly the serialized values
-/

namespace CStoreWriter

/-- A `Datum`: a value held in the machine word itself, or a pointer to the bytes of a
value held by reference. -/
inductive Datum
  | byVal (word : Nat)
  | byRef (bytes : List UInt8)
  deriving DecidableEq, Repr

namespace Datum

/-- `DatumGetPointer`: the bytes a by-reference datum points to. -/
def pointee : Datum → List UInt8
  | byVal _ => []
  | byRef bytes => bytes

/-- The machine word of a by-value datum. -/
def word : Datum → Nat
  | byVal w => w
  | byRef _ => 0

end Datum

/-- The `n` low bytes of `w`, least significant first: what storing an `n`-byte integer
writes on the little-endian hosts the writer targets. -/
def leBytes : Nat → Nat → List UInt8
  | 0, _ => []
  | n + 1, w => UInt8.ofNat (w % 256) :: leBytes n (w / 256)

/-- Little-endian bytes read back as a number. -/
def fromLE : List UInt8 → Nat
  | [] => 0
  | b :: bs => b.toNat + 256 * fromLE bs

@[simp] theorem length_leBytes (n w : Nat) : (leBytes n w).length = n := by
  induction n generalizing w <;> simp [leBytes, *]

theorem fromLE_leBytes (n w : Nat) : fromLE (leBytes n w) = w % 256 ^ n := by
  induction n generalizing w with
  | zero => simp [leBytes, fromLE, Nat.mod_one]
  | succ n ih =>
    rw [leBytes, fromLE, ih, UInt8.toNat_ofNat_of_lt (Nat.mod_lt _ (by decide)), Nat.pow_succ,
      Nat.mul_comm _ 256, Nat.mod_mul]

/-- The column metadata the writer reads from `tupleDescriptor->attrs[c]`. The catalog
keeps `attlen` positive, `-1` (varlena) or `-2` (cstring), and a by-value type 1, 2, 4
or 8 bytes long (`store_att_byval` refuses any other length). -/
structure Attribute where
  attlen : Int
  attbyval : Bool
  attalign : Char
  attcollation : Nat
  attisdropped : Bool
  atttypid : Nat
  attlen_cases : 0 < attlen ∨ attlen = -1 ∨ attlen = -2
  attbyval_len : attbyval = true → attlen = 1 ∨ attlen = 2 ∨ attlen = 4 ∨ attlen = 8

/-! ### Host macros -/

/-- `TYPEALIGN(ALIGNVAL, LEN)`: `LEN` rounded up to a multiple of `ALIGNVAL`. -/
def typeAlign (alignval len : Nat) : Nat := (len + (alignval - 1)) / alignval * alignval

/-- The alignment `att_align_nominal` uses for an `attalign` code: `i` int, `c` char,
`d` double, and short for anything else. -/
def alignmentOf (attalign : Char) : Nat :=
  if attalign = 'i' then 4 else if attalign = 'c' then 1 else if attalign = 'd' then 8 else 2

/-- `att_align_nominal(cur_offset, attalign)`. -/
def attAlignNominal (curOffset : Nat) (attalign : Char) : Nat :=
  if attalign = 'i' then typeAlign 4 curOffset
  else if attalign = 'c' then curOffset
  else if attalign = 'd' then typeAlign 8 curOffset
  else typeAlign 2 curOffset

/-- `strlen`: the bytes before the first NUL. -/
def strlen (bytes : List UInt8) : Nat := (bytes.takeWhile (· ≠ 0)).length

variable (varsizeAny : List UInt8 → Nat)

/-- `att_addlength_datum(0, attlen, datum)`: the bytes a datum occupies, before alignment. -/
def attAddlengthDatum (attlen : Int) (datum : Datum) : Nat :=
  if 0 < attlen then attlen.toNat
  else if attlen = -1 then varsizeAny datum.pointee
  else strlen datum.pointee + 1

/-! ### `SerializeSingleDatum` -/

/-- The bytes `SerializeSingleDatum` copies: `store_att_byval` of the word for a fixed-length
by-value type, else `memcpy` of the length from the pointer. -/
def datumBytes (datum : Datum) (datumTypeByValue : Bool) (datumTypeLength : Int) :
    List UInt8 :=
  if 0 < datumTypeLength then
    if datumTypeByValue then leBytes datumTypeLength.toNat datum.word
    else datum.pointee.take datumTypeLength.toNat
  else datum.pointee.take (attAddlengthDatum varsizeAny datumTypeLength datum)

/-- `SerializeSingleDatum(datumBuffer, datum, ...)`: `datumLengthAligned` zero bytes are
reserved at the end of the buffer and the datum is copied over their start. -/
def serializeSingleDatum (datumBuffer : List UInt8) (datum : Datum) (datumTypeByValue : Bool)
    (datumTypeLength : Int) (datumTypeAlign : Char) : List UInt8 :=
  let datumLength := attAddlengthDatum varsizeAny datumTypeLength datum
  let datumLengthAligned := attAlignNominal datumLength datumTypeAlign
  let copied := datumBytes varsizeAny datum datumTypeByValue datumTypeLength
  datumBuffer ++ (copied ++ List.replicate (datumLengthAligned - copied.length) 0)

/-- The bytes one datum adds to a value buffer of a column of type `att`. -/
def encodedDatum (att : Attribute) (datum : Datum) : List UInt8 :=
  serializeSingleDatum varsizeAny [] datum att.attbyval att.attlen att.attalign

/-- The value buffer `CStoreWriteRow` builds for a column of type `att` from empty, one
`SerializeSingleDatum` call per non-null value. -/
def serializeDatums (att : Attribute) (values : List Datum) : List UInt8 :=
  values.foldl (fun buffer v => serializeSingleDatum varsizeAny buffer v att.attbyval
    att.attlen att.attalign) []

/-! ### The reader's walk -/

/-- The length of the datum at the head of `bytes`, measured as a reader of the buffer
does: `attlen` bytes, `VARSIZE_ANY` of the varlena header, or through the NUL. -/
def datumLengthAt (attlen : Int) (bytes : List UInt8) : Nat :=
  if 0 < attlen then attlen.toNat else if attlen = -1 then varsizeAny bytes else strlen bytes + 1

/-- `fetch_att`: the datum a reader builds from a datum's bytes. -/
def fetchAtt (attbyval : Bool) (bytes : List UInt8) : Datum :=
  if attbyval then .byVal (fromLE bytes) else .byRef bytes

/-- Walk a value buffer from `offset`: read one datum, move to `att_align_nominal` of the
offset past it, and stop exactly at the buffer's end. -/
def walkDatums (att : Attribute) (buffer : List UInt8) : Nat → Nat → Option (List Datum)
  | 0, _ => none
  | fuel + 1, offset =>
    if offset = buffer.length then some []
    else if buffer.length < offset then none
    else
      let rest := buffer.drop offset
      let len := datumLengthAt varsizeAny att.attlen rest
      (walkDatums att buffer fuel (attAlignNominal (offset + len) att.attalign)).map
        (fetchAtt att.attbyval (rest.take len) :: ·)

/-- `datum` is a value of a column of type `att`: a word that fits in `attlen` bytes, or
the bytes of a fixed-length value, of a varlena whose header gives its length whatever
follows it, or of a NUL-terminated string. -/
def IsValueOf (att : Attribute) : Datum → Prop
  | .byVal w => att.attbyval = true ∧ w < 256 ^ att.attlen.toNat
  | .byRef bytes => att.attbyval = false ∧
      ((0 < att.attlen ∧ bytes.length = att.attlen.toNat) ∨
        (att.attlen = -1 ∧ 0 < bytes.length ∧ ∀ rest, varsizeAny (bytes ++ rest) = bytes.length) ∨
        (att.attlen = -2 ∧ ∃ s, 0 ∉ s ∧ bytes = s ++ [0]))

/-! ### Alignment arithmetic -/

theorem dvd_typeAlign (a x : Nat) : a ∣ typeAlign a x := Nat.dvd_mul_left a _

theorem le_typeAlign {a : Nat} (ha : 0 < a) (x : Nat) : x ≤ typeAlign a x := by
  unfold typeAlign
  have := Nat.div_add_mod (x + (a - 1)) a
  have := Nat.mod_lt (x + (a - 1)) ha
  rw [Nat.mul_comm]
  omega

/-- Rounding up past a multiple of the alignment keeps that multiple. -/
theorem typeAlign_mul_add {a : Nat} (ha : 0 < a) (k x : Nat) :
    typeAlign a (a * k + x) = a * k + typeAlign a x := by
  unfold typeAlign
  rw [show a * k + x + (a - 1) = x + (a - 1) + a * k by omega, Nat.add_mul_div_left _ _ ha,
    Nat.add_mul, Nat.mul_comm k a, Nat.add_comm]

theorem alignmentOf_pos (attalign : Char) : 0 < alignmentOf attalign := by
  unfold alignmentOf; split_ifs <;> decide

theorem attAlignNominal_eq (curOffset : Nat) (attalign : Char) :
    attAlignNominal curOffset attalign = typeAlign (alignmentOf attalign) curOffset := by
  unfold attAlignNominal alignmentOf
  split_ifs <;> simp [typeAlign]

/-! ### The encoded datum -/

variable {varsizeAny}

theorem serializeSingleDatum_eq (buffer : List UInt8) (att : Attribute) (v : Datum) :
    serializeSingleDatum varsizeAny buffer v att.attbyval att.attlen att.attalign =
      buffer ++ encodedDatum varsizeAny att v := by
  simp [encodedDatum, serializeSingleDatum]

theorem serializeDatums_eq_flatMap (att : Attribute) (values : List Datum) :
    serializeDatums varsizeAny att values = values.flatMap (encodedDatum varsizeAny att) := by
  suffices ∀ acc, values.foldl (fun buffer v => serializeSingleDatum varsizeAny buffer v
      att.attbyval att.attlen att.attalign) acc =
      acc ++ values.flatMap (encodedDatum varsizeAny att) by simpa using this []
  induction values with
  | nil => simp
  | cons v values ih =>
    intro acc
    rw [List.foldl_cons, serializeSingleDatum_eq, ih]
    simp

theorem length_datumBytes_le (att : Attribute) (v : Datum) :
    (datumBytes varsizeAny v att.attbyval att.attlen).length ≤
      attAddlengthDatum varsizeAny att.attlen v := by
  unfold datumBytes attAddlengthDatum
  split_ifs <;> simp only [length_leBytes, List.length_take] <;> omega

theorem length_encodedDatum (att : Attribute) (v : Datum) :
    (encodedDatum varsizeAny att v).length =
      typeAlign (alignmentOf att.attalign) (attAddlengthDatum varsizeAny att.attlen v) := by
  have := @length_datumBytes_le varsizeAny att v
  have := le_typeAlign (alignmentOf_pos att.attalign) (attAddlengthDatum varsizeAny att.attlen v)
  simp only [encodedDatum, serializeSingleDatum, attAlignNominal_eq, List.nil_append,
    List.length_append, List.length_replicate]
  omega

/-- Every datum's bytes and padding together take a multiple of the alignment. -/
theorem alignment_dvd_length_serializeDatums (att : Attribute) (values : List Datum) :
    alignmentOf att.attalign ∣ (serializeDatums varsizeAny att values).length := by
  rw [serializeDatums_eq_flatMap]
  induction values with
  | nil => exact Nat.dvd_zero _
  | cons v values ih =>
    rw [List.flatMap_cons, List.length_append, length_encodedDatum]
    exact Nat.dvd_add (dvd_typeAlign _ _) ih

/-! ### Decoding one value -/

theorem strlen_append_zero : ∀ {s : List UInt8}, 0 ∉ s → ∀ rest : List UInt8,
    strlen (s ++ 0 :: rest) = s.length
  | [], _, rest => by simp [strlen]
  | b :: s, hs, rest => by
    have hb : b ≠ 0 := fun h => hs (h ▸ List.mem_cons_self _ _)
    have ih := strlen_append_zero (fun h => hs (List.mem_cons_of_mem _ h)) rest
    simpa [strlen, List.takeWhile_cons, hb] using ih

/-- A value of the column's type is read back whole: its bytes have the length the writer
computed, a reader measures the same length whatever follows, and `fetch_att` of the bytes
is the value. -/
theorem decode_datumBytes {att : Attribute} {v : Datum} (h : IsValueOf varsizeAny att v)
    (more : List UInt8) :
    (datumBytes varsizeAny v att.attbyval att.attlen).length =
        attAddlengthDatum varsizeAny att.attlen v ∧
      datumLengthAt varsizeAny att.attlen
          (datumBytes varsizeAny v att.attbyval att.attlen ++ more) =
        attAddlengthDatum varsizeAny att.attlen v ∧
      fetchAtt att.attbyval (datumBytes varsizeAny v att.attbyval att.attlen) = v := by
  cases v with
  | byVal w =>
    obtain ⟨hbyval, hw⟩ := h
    have hlen : 0 < att.attlen := by rcases att.attbyval_len hbyval with h | h | h | h <;> omega
    simp [datumBytes, attAddlengthDatum, datumLengthAt, fetchAtt, hbyval, hlen, Datum.word,
      fromLE_leBytes, Nat.mod_eq_of_lt hw]
  | byRef bytes =>
    obtain ⟨hbyval, ⟨hlen, hbytes⟩ | ⟨hlen, -, hvar⟩ | ⟨hlen, s, hs, rfl⟩⟩ := h
    · simp [datumBytes, attAddlengthDatum, datumLengthAt, fetchAtt, hbyval, hlen, Datum.pointee,
        ← hbytes]
    · have hsize := hvar []
      rw [List.append_nil] at hsize
      simp [datumBytes, attAddlengthDatum, datumLengthAt, fetchAtt, hbyval, hlen, Datum.pointee,
        hsize, hvar]
    · have hstr : strlen (s ++ [0]) = s.length := strlen_append_zero hs []
      have htake : (s ++ [0]).take (s.length + 1) = s ++ [0] := List.take_of_length_le (by simp)
      simp [datumBytes, attAddlengthDatum, datumLengthAt, fetchAtt, hbyval, hlen, Datum.pointee,
        hstr, htake, strlen_append_zero hs]

theorem attAddlengthDatum_pos {att : Attribute} {v : Datum} (h : IsValueOf varsizeAny att v) :
    0 < attAddlengthDatum varsizeAny att.attlen v := by
  rw [← (decode_datumBytes h []).1]
  cases v with
  | byVal w =>
    obtain ⟨hbyval, -⟩ := h
    have hlen : 0 < att.attlen := by rcases att.attbyval_len hbyval with h | h | h | h <;> omega
    rw [datumBytes, if_pos hlen, if_pos hbyval, length_leBytes]
    omega
  | byRef bytes =>
    obtain ⟨hbyval, ⟨hlen, hbytes⟩ | ⟨hlen, hpos, hvar⟩ | ⟨hlen, s, hs, rfl⟩⟩ := h
    · simp [datumBytes, hbyval, hlen, Datum.pointee, ← hbytes]; omega
    · have hsize := hvar []
      rw [List.append_nil] at hsize
      simpa [datumBytes, attAddlengthDatum, hlen, Datum.pointee, hsize] using hpos
    · simp [datumBytes, attAddlengthDatum, hlen, Datum.pointee, strlen_append_zero hs []]

theorem encodedDatum_eq (att : Attribute) (v : Datum) :
    encodedDatum varsizeAny att v = datumBytes varsizeAny v att.attbyval att.attlen ++
      List.replicate
        (typeAlign (alignmentOf att.attalign) (attAddlengthDatum varsizeAny att.attlen v) -
          (datumBytes varsizeAny v att.attbyval att.attlen).length) 0 := by
  simp [encodedDatum, serializeSingleDatum, attAlignNominal_eq]

/-! ### The walk -/

theorem walkDatums_succ_of_lt {att : Attribute} {buffer : List UInt8} {fuel offset : Nat}
    (h : offset < buffer.length) :
    walkDatums varsizeAny att buffer (fuel + 1) offset =
      (walkDatums varsizeAny att buffer fuel (attAlignNominal
        (offset + datumLengthAt varsizeAny att.attlen (buffer.drop offset)) att.attalign)).map
        (fetchAtt att.attbyval ((buffer.drop offset).take
          (datumLengthAt varsizeAny att.attlen (buffer.drop offset))) :: ·) := by
  rw [walkDatums, if_neg (Nat.ne_of_lt h), if_neg (Nat.not_lt_of_lt h)]

/-- From any offset that is a multiple of the alignment, the walk over encoded values of
the column's type returns them all and stops at the end of the buffer. -/
theorem walkDatums_flatMap (att : Attribute) :
    ∀ (values : List Datum), (∀ v ∈ values, IsValueOf varsizeAny att v) →
    ∀ (pre : List UInt8) (fuel : Nat), alignmentOf att.attalign ∣ pre.length →
      values.length < fuel →
      walkDatums varsizeAny att (pre ++ values.flatMap (encodedDatum varsizeAny att)) fuel
        pre.length = some values
  | [], _, _, 0, _, h => absurd h (by simp)
  | [], _, pre, fuel + 1, _, _ => by simp [walkDatums]
  | _ :: _, _, _, 0, _, h => absurd h (by simp)
  | v :: vs, hv, pre, fuel + 1, hdvd, hfuel => by
    have hval := hv v (List.mem_cons_self _ _)
    have hpos := attAddlengthDatum_pos hval
    have hencLen := @length_encodedDatum varsizeAny att v
    obtain ⟨k, hk⟩ := hdvd
    -- the next datum starts where this one's padding ends
    have hnext : attAlignNominal (pre.length + attAddlengthDatum varsizeAny att.attlen v)
        att.attalign = (pre ++ encodedDatum varsizeAny att v).length := by
      rw [attAlignNominal_eq, hk, typeAlign_mul_add (alignmentOf_pos _), List.length_append,
        hencLen, hk]
    have ih := walkDatums_flatMap att vs (fun w hw => hv w (List.mem_cons_of_mem _ hw))
      (pre ++ encodedDatum varsizeAny att v) fuel
      (by
        rw [List.length_append, hencLen, hk]
        exact Nat.dvd_add (Nat.dvd_mul_right _ _) (dvd_typeAlign _ _))
      (by simp at hfuel; omega)
    rw [List.append_assoc] at ih
    have hlt : pre.length < (pre ++ (v :: vs).flatMap (encodedDatum varsizeAny att)).length := by
      simp only [List.flatMap_cons, List.length_append, hencLen]
      have := le_typeAlign (alignmentOf_pos att.attalign)
        (attAddlengthDatum varsizeAny att.attlen v)
      omega
    -- the buffer from this datum on is its bytes, then its padding and the later datums
    obtain ⟨padding, hencoded⟩ : ∃ padding, encodedDatum varsizeAny att v =
        datumBytes varsizeAny v att.attbyval att.attlen ++ padding := ⟨_, encodedDatum_eq att v⟩
    obtain ⟨hlen, hmeasure, hfetch⟩ :=
      decode_datumBytes hval (padding ++ vs.flatMap (encodedDatum varsizeAny att))
    have hdrop : (pre ++ (v :: vs).flatMap (encodedDatum varsizeAny att)).drop pre.length =
        datumBytes varsizeAny v att.attbyval att.attlen ++
          (padding ++ vs.flatMap (encodedDatum varsizeAny att)) := by
      rw [List.drop_left, List.flatMap_cons, hencoded, List.append_assoc]
    rw [walkDatums_succ_of_lt hlt, hdrop, hmeasure, List.take_left' hlen, hfetch, hnext,
      List.flatMap_cons, ih]
    rfl

/-- **Value buffers decode.** For any column type and any list of values of that type, the
buffer built by successive `SerializeSingleDatum` calls from empty is each value's bytes
followed by zero padding, every value starts at a multiple of the type's alignment, and
the reader's walk from offset 0 returns exactly the values and stops at the buffer's end. -/
theorem serializeDatums_decodable (att : Attribute) (values : List Datum)
    (hvalues : ∀ v ∈ values, IsValueOf varsizeAny att v) :
    serializeDatums varsizeAny att values = values.flatMap (fun v =>
        datumBytes varsizeAny v att.attbyval att.attlen ++
          List.replicate (attAlignNominal (attAddlengthDatum varsizeAny att.attlen v) att.attalign -
            (datumBytes varsizeAny v att.attbyval att.attlen).length) 0) ∧
      (∀ i ≤ values.length,
        alignmentOf att.attalign ∣ (serializeDatums varsizeAny att (values.take i)).length) ∧
      walkDatums varsizeAny att (serializeDatums varsizeAny att values)
        ((serializeDatums varsizeAny att values).length + 1) 0 = some values := by
  refine ⟨?_, fun i _ => alignment_dvd_length_serializeDatums att _, ?_⟩
  · rw [serializeDatums_eq_flatMap]
    rfl
  · have hfuel : values.length ≤ (values.flatMap (encodedDatum varsizeAny att)).length := by
      induction values with
      | nil => simp
      | cons v vs ih =>
        have hval := hvalues v (List.mem_cons_self _ _)
        have := le_typeAlign (alignmentOf_pos att.attalign)
          (attAddlengthDatum varsizeAny att.attlen v)
        have := attAddlengthDatum_pos hval
        simp only [List.flatMap_cons, List.length_append, length_encodedDatum, List.length_cons]
        have := ih (fun w hw => hvalues w (List.mem_cons_of_mem _ hw))
        omega
    rw [serializeDatums_eq_flatMap]
    simpa using walkDatums_flatMap att values hvalues [] _ (Nat.dvd_zero _)
      (Nat.lt_succ_of_le hfuel)

/-- A column of `int4`, the type of the spec's scenarios: four bytes, by value,
int-aligned. -/
def int4Attribute : Attribute where
  attlen := 4
  attbyval := true
  attalign := 'i'
  attcollation := 0
  attisdropped := false
  atttypid := 23
  attlen_cases := by decide
  attbyval_len := by decide

theorem serializeDatums_decodable_int4 :
    (∀ v ∈ [Datum.byVal 42, Datum.byVal 7], IsValueOf (fun _ => 0) int4Attribute v) ∧
      walkDatums (fun _ => 0) int4Attribute
        (serializeDatums (fun _ => 0) int4Attribute [Datum.byVal 42, Datum.byVal 7])
        ((serializeDatums (fun _ => 0) int4Attribute [Datum.byVal 42, Datum.byVal 7]).length + 1)
        0 = some [Datum.byVal 42, Datum.byVal 7] :=
  have h : ∀ v ∈ [Datum.byVal 42, Datum.byVal 7], IsValueOf (fun _ => 0) int4Attribute v := by
    intro v hv
    simp only [List.mem_cons, List.mem_singleton, List.not_mem_nil, or_false] at hv
    rcases hv with rfl | rfl <;> exact ⟨rfl, by decide⟩
  ⟨h, (serializeDatums_decodable _ _ h).2.2⟩

end CStoreWriter
