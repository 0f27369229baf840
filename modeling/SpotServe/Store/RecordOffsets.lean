import SpotServe.Store.TensorWriter

/-!
# The offsets of a sequence of records

A `TensorWriter` is given any number of records, one after the other, and is then destroyed, which
leaves its partition files behind.  For every largest size of a partition and for a buffer of any
sizes (`BufferSizes`), each record stands where its offset says.

* `Placed`: what is said of one record, given the records before it and the files.
* `Placed.extend`: a later record changes nothing about an earlier one.  Its bytes go to the end
  of the last partition or to a new one, so every boundary is where it was or at the very end.
* `writeRecords_placed`: the whole sequence.
-/

namespace SpotServe
namespace Store

open Packing

/-- The arguments of a `writeRecord`. -/
structure RecordData where
  data : ℕ → Byte
  size : ℕ

/-- The room of a record in the files. -/
def RecordData.paddedSize (record : RecordData) : ℕ :=
  record.size + padding record.size

/-- `writeRecord` for one record after the other: the offsets, the writer and what was printed. -/
def writeRecords (s : BufferSizes) (maxSize : ℕ) (garbage : ℕ → ℕ → Byte) :
    TensorWriter → List RecordData → List ℕ × TensorWriter × List String
  | w, [] => ([], w, [])
  | w, record :: records =>
    let (offset, w, printed) := w.writeRecord s maxSize [] garbage record.data record.size
    let (offsets, w, printed') := writeRecords s maxSize garbage w records
    (offset :: offsets, w, printed ++ printed')

/-- Where a partition begins, or the end of the last one. -/
def boundary (files : List (List Byte)) (k : ℕ) : ℕ :=
  (files.take k).flatten.length

/-- A record is where it belongs: at the sum of the padded sizes before it, a multiple of eight,
and with no boundary of a partition inside. -/
structure Placed (files : List (List Byte)) (before : List RecordData) (record : RecordData) :
    Prop where
  aligned : 8 ∣ total RecordData.paddedSize before
  bytes : ∀ i < record.size,
    files.flatten[total RecordData.paddedSize before + i]? = some (record.data i)
  uncut : ∀ k, boundary files k ≤ total RecordData.paddedSize before ∨
    total RecordData.paddedSize before + record.size ≤ boundary files k

theorem dvd_total_paddedSize (records : List RecordData) :
    8 ∣ total RecordData.paddedSize records := by
  induction records with
  | nil => exact dvd_zero 8
  | cons record records ih =>
    rw [total_cons]
    exact Nat.dvd_add (dvd_padded record.size) ih

/-! ## One more record -/

section Extends

variable {files files' : List (List Byte)} {added : List Byte}

/-- A boundary stays where it is, or it is the end of what is new. -/
theorem Extends.boundary (h : Extends files files' added) (k : ℕ) :
    boundary files' k = Store.boundary files k ∨ boundary files' k = files'.flatten.length := by
  obtain ⟨earlier, last, hfiles, rfl⟩ := h
  rcases Nat.lt_or_ge earlier.length k with hlt | hle
  · refine Or.inr ?_
    rw [Store.boundary, List.take_of_length_le]
    rw [List.length_append, List.length_singleton]
    omega
  · refine Or.inl ?_
    have htake : files.take k = earlier.take k := by
      rcases hfiles with rfl | ⟨rfl, rfl⟩
      · exact List.take_append_of_le_length hle
      · rfl
    rw [Store.boundary, Store.boundary, htake, List.take_append_of_le_length hle]

/-- No boundary lies behind the last byte. -/
theorem boundary_le (files : List (List Byte)) (k : ℕ) :
    boundary files k ≤ files.flatten.length := by
  rw [boundary]
  conv_rhs => rw [← List.take_append_drop k files, List.flatten_append, List.length_append]
  exact Nat.le_add_right _ _

variable {before : List RecordData} {record : RecordData}

/-- **A later record leaves an earlier one alone.** -/
theorem Placed.extend (h : Placed files before record) (hextends : Extends files files' added)
    (hinside : total RecordData.paddedSize before + record.size ≤ files.flatten.length) :
    Placed files' before record where
  aligned := h.aligned
  bytes := by
    intro i hi
    rw [hextends.flatten, List.getElem?_append_left (by omega)]
    exact h.bytes i hi
  uncut := by
    intro k
    rcases hextends.boundary k with hk | hk
    · rw [hk]
      exact h.uncut k
    · refine Or.inr ?_
      rw [hk, hextends.flatten, List.length_append]
      omega

/-- The record that has just been written. -/
theorem placed_of_extends {pad : List Byte} (hlength : files.flatten.length =
      total RecordData.paddedSize before)
    (hextends : Extends files files' (slice record.data 0 record.size ++ pad)) :
    Placed files' before record where
  aligned := dvd_total_paddedSize before
  bytes := by
    intro i hi
    rw [hextends.flatten, List.getElem?_append_right (by omega), hlength, Nat.add_sub_cancel_left,
      List.getElem?_append_left (by rw [length_slice]; exact hi), getElem?_slice _ hi, Nat.zero_add]
  uncut := by
    intro k
    rcases hextends.boundary k with hk | hk
    · refine Or.inl ?_
      rw [hk, ← hlength]
      exact boundary_le files k
    · refine Or.inr ?_
      rw [hk, hextends.flatten, List.length_append, List.length_append, length_slice, hlength]
      omega

end Extends

/-! ## The sequence -/

section Sequence

variable (s : BufferSizes) (maxSize : ℕ) (garbage : ℕ → ℕ → Byte)

/-- The state of a writer after some records. -/
structure RecordsWritten (w : TensorWriter) (done : List RecordData) : Prop where
  sound : w.Sound s
  length : w.files.flatten.length = total RecordData.paddedSize done
  sizes : w.files.map List.length = (done.map RecordData.size).foldl (addRecord maxSize) []
  placed : ∀ before record after, done = before ++ record :: after →
    Placed w.files before record

theorem recordsWritten_empty : RecordsWritten s maxSize {} [] where
  sound := TensorWriter.sound_empty s
  length := rfl
  sizes := rfl
  placed := fun before record after h => absurd h (by simp)

variable {s maxSize}

/-- One record: the offset, nothing printed, and the state after it. -/
theorem RecordsWritten.writeRecord {w : TensorWriter} {done : List RecordData}
    (h : RecordsWritten s maxSize w done) (record : RecordData) :
    let result := w.writeRecord s maxSize [] garbage record.data record.size
    result.1 = total RecordData.paddedSize done ∧ result.2.2 = [] ∧
      RecordsWritten s maxSize result.2.1 (done ++ [record]) := by
  obtain ⟨hoffset, hprinted, hsound, hsizes, pad, hpad, hextends⟩ :=
    TensorWriter.writeRecord_spec maxSize h.sound garbage record.data record.size
  refine ⟨hoffset.trans h.length, hprinted, hsound, ?_, ?_, ?_⟩
  · rw [hextends.flatten, List.length_append, List.length_append, length_slice, hpad, h.length,
      total_append, total_cons, total_nil]
    rfl
  · rw [hsizes, h.sizes, List.map_append, List.foldl_append]
    rfl
  · intro before record' after hsplit
    rcases List.eq_nil_or_concat after with rfl | ⟨after', last', rfl⟩
    · -- the record just written
      obtain ⟨rfl, hrecord⟩ := List.append_inj' hsplit rfl
      obtain rfl : record = record' := (List.cons.inj hrecord).1
      exact placed_of_extends h.length hextends
    · have hdone : done = before ++ record' :: after' := by
        rw [List.concat_eq_append, ← List.cons_append, ← List.append_assoc] at hsplit
        exact (List.append_inj' hsplit rfl).1
      refine (h.placed before record' after' hdone).extend hextends ?_
      rw [h.length, hdone, total_append, total_cons, RecordData.paddedSize]
      omega

/-- All records: the offsets are the sums of the padded sizes before, and nothing is printed. -/
theorem RecordsWritten.writeRecords {w : TensorWriter} {done : List RecordData}
    (h : RecordsWritten s maxSize w done) (records : List RecordData) :
    let result := Store.writeRecords s maxSize garbage w records
    RecordsWritten s maxSize result.2.1 (done ++ records) ∧ result.2.2 = [] ∧
      ∀ before record after, records = before ++ record :: after →
        result.1[before.length]? = some (total RecordData.paddedSize (done ++ before)) := by
  induction records generalizing w done with
  | nil =>
    refine ⟨?_, rfl, fun before record after hsplit => absurd hsplit (by simp)⟩
    rw [List.append_nil]
    exact h
  | cons record records ih =>
    obtain ⟨hoffset, hprinted, hwritten⟩ := h.writeRecord garbage record
    obtain ⟨hwritten', hprinted', hoffsets⟩ := ih hwritten
    rw [Store.writeRecords]
    refine ⟨?_, ?_, ?_⟩
    · rw [List.append_cons]
      exact hwritten'
    · show _ ++ _ = []
      rw [hprinted, hprinted']
      rfl
    · intro before record' after hsplit
      cases before with
      | nil =>
        rw [List.append_nil]
        exact congrArg some hoffset
      | cons first before =>
        obtain ⟨rfl, hrest⟩ := List.cons.inj hsplit
        have hnext := hoffsets before record' after hrest
        rw [List.append_assoc] at hnext
        exact hnext

theorem length_writeRecords (w : TensorWriter) (records : List RecordData) :
    (Store.writeRecords s maxSize garbage w records).1.length = records.length := by
  induction records generalizing w with
  | nil => rfl
  | cons record records ih =>
    rw [Store.writeRecords, List.length_cons]
    exact congrArg Nat.succ (ih _)

/-- **The offsets are right.**  For every sequence of records: the offset of each is the sum of the
padded sizes before it and a multiple of eight, the partition files hold its bytes there, in one
partition, and the padding prints no error. -/
theorem writeRecords_placed (records : List RecordData) :
    let result := Store.writeRecords s maxSize garbage {} records
    result.2.2 = [] ∧ result.1.length = records.length ∧
      ∀ before record after, records = before ++ record :: after →
        result.1[before.length]? = some (total RecordData.paddedSize before) ∧
          Placed result.2.1.files before record := by
  obtain ⟨hwritten, hprinted, hoffsets⟩ :=
    (recordsWritten_empty s maxSize).writeRecords garbage records
  refine ⟨hprinted, length_writeRecords garbage {} records, fun before record after hsplit => ?_⟩
  exact ⟨hoffsets before record after hsplit, hwritten.placed before record after hsplit⟩

end Sequence

end Store
end SpotServe
