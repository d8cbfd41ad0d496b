import ApexiDevices.Queue.Stored

set_option autoImplicit false

namespace ApexiDevices

open Device StoreForwardQueue

structure Storable (payload : Bytes) : Prop where
  nonempty : 0 < payload.length
  bounded : payload.length ≤ kMaximumPayloadBytes

/-- What an interrupted append leaves: less than a whole record. -/
def Stub (bytes : Bytes) : Prop :=
  ∃ payload kept, Storable payload ∧ kept < (record payload).length ∧ bytes = (record payload).take kept

@[simp] theorem records_nil : records [] = [] := rfl

@[simp] theorem records_cons (payload : Bytes) (rest : List Bytes) :
    records (payload :: rest) = record payload ++ records rest := rfl

@[simp] theorem records_append (first second : List Bytes) :
    records (first ++ second) = records first ++ records second := by
  simp [records]

@[simp] theorem record_length (payload : Bytes) :
    (record payload).length = RecordHeader.size + payload.length := by
  rw [record, List.length_append, RecordHeader.bytes_length]

@[simp] theorem ofPayload_length (payload : Bytes) :
    (RecordHeader.ofPayload payload).length = payload.length := rfl

@[simp] theorem ofPayload_checksum (payload : Bytes) :
    (RecordHeader.ofPayload payload).checksum = (checksum payload).toNat := rfl

theorem ofBytes_record (payload : Bytes) (storable : Storable payload) :
    RecordHeader.ofBytes (RecordHeader.ofPayload payload).bytes = RecordHeader.ofPayload payload := by
  have bounded := storable.bounded
  have short : kMaximumPayloadBytes < 2 ^ 32 := by decide
  exact RecordHeader.ofBytes_bytes _
    ⟨show kRecordMagic < 2 ^ 32 by decide, Nat.lt_of_le_of_lt bounded short, UInt32.toNat_lt _⟩

theorem ofPayload_valid (payload : Bytes) (storable : Storable payload) :
    (RecordHeader.ofPayload payload).valid = true := by
  have nonempty : payload.length ≠ 0 := Nat.ne_of_gt storable.nonempty
  simp [RecordHeader.valid, RecordHeader.ofPayload, nonempty, storable.bounded]

theorem drop_succ_of_cons {bytes rest : Bytes} {byte : UInt8} {position : Nat}
    (here : bytes.drop position = byte :: rest) : bytes.drop (position + 1) = rest := by
  rw [← List.drop_drop, here, List.drop_one, List.tail_cons]

theorem drop_add_of_append {bytes first second : Bytes} {position : Nat}
    (here : bytes.drop position = first ++ second) : bytes.drop (position + first.length) = second := by
  rw [← List.drop_drop, here, List.drop_left]

section Reading

variable {disk : Disk} {path : Path} {position : Nat} {bytes rest : Bytes}

theorem File.read_observes (here : (disk.content path).drop position = bytes ++ rest) :
    Disk.device.Observes disk (File.read ⟨path, position⟩ bytes.length)
      (bytes, ⟨path, position + bytes.length⟩) := by
  have taken : ((disk.content path).drop position).take bytes.length = bytes := by
    rw [here, List.take_left]
  simp only [Model.Observes, File.read, wp_read, taken, Model.wp_pure, and_self]

theorem checksumFile_observes (value : UInt32)
    (here : (disk.content path).drop position = bytes ++ rest) :
    Disk.device.Observes disk (checksumFile ⟨path, position⟩ bytes.length value)
      (bytes.foldl checksumStep value) := by
  induction bytes generalizing position value with
  | nil => simp [Model.Observes, checksumFile]
  | cons byte bytes ih =>
    have first : (disk.content path).drop position = [byte] ++ (bytes ++ rest) := here
    simp only [List.length_cons, checksumFile, List.foldl_cons]
    exact (File.read_observes first).then (ih _ (drop_succ_of_cons here))

theorem readPayload_observes (polled : Bool) (rounds length : Nat) (payload : Bytes)
    (here : (disk.content path).drop position = bytes ++ rest) (enough : bytes.length ≤ rounds)
    (total : length = payload.length + bytes.length) :
    Disk.device.Observes disk (readPayload polled length rounds ⟨path, position⟩ payload)
      (payload ++ bytes, ⟨path, position + bytes.length⟩) := by
  induction rounds generalizing position bytes payload with
  | zero =>
    have none : bytes = [] := List.length_eq_zero_iff.mp (Nat.le_zero.mp enough)
    simp [Model.Observes, readPayload, none]
  | succ rounds ih =>
    by_cases none : bytes = []
    · simp [Model.Observes, readPayload, none, total]
    have some : 0 < bytes.length := List.length_pos_iff.mpr none
    have shorter : payload.length < length := by omega
    have within : position < (disk.content path).length := by
      by_contra past
      rw [List.drop_eq_nil_of_le (by omega)] at here
      simp_all
    have split : (disk.content path).drop position = bytes.take 256 ++ (bytes.drop 256 ++ rest) := by
      rw [here, ← List.append_assoc, List.take_append_drop]
    have wanted : min 256 (length - payload.length) = (bytes.take 256).length := by
      rw [List.length_take, total, Nat.add_sub_cancel_left]
    have filled : (bytes.take 256).isEmpty = false := by simp [none]
    have parts : (bytes.take 256).length + (bytes.drop 256).length = bytes.length := by
      rw [← List.length_append, List.take_append_drop]
    have later := ih (payload ++ bytes.take 256) (drop_add_of_append split)
      (by rw [List.length_drop]; omega) (by rw [List.length_append]; omega)
    rw [List.append_assoc, List.take_append_drop, Nat.add_assoc, parts] at later
    rw [readPayload, if_pos shorter, wanted]
    cases polled with
    | false =>
      refine (File.read_observes split).then ?_
      simp only [filled, Bool.false_eq_true, if_false]
      exact later
    | true =>
      simp only [if_true, Model.Observes, wp_size, Prog.pure_bind_eq, within, decide_true, Bool.not_true,
        Bool.false_eq_true, if_false]
      refine (File.read_observes split).then ?_
      simp only [filled, Bool.false_eq_true, if_false]
      exact later

theorem readHeader_observes (payload : Bytes)
    (here : (disk.content path).drop position = (RecordHeader.ofPayload payload).bytes ++ rest) :
    Disk.device.Observes disk (File.read ⟨path, position⟩ RecordHeader.size)
      ((RecordHeader.ofPayload payload).bytes, ⟨path, position + RecordHeader.size⟩) := by
  have read := File.read_observes here
  rwa [RecordHeader.bytes_length] at read

theorem scanRecords_stub (rounds count : Nat) (stub : Stub rest)
    (here : (disk.content path).drop position = rest) (within : position ≤ (disk.content path).length) :
    Disk.device.Observes disk (scanRecords path (disk.content path).length rounds position count)
      (position, count) := by
  cases rounds with
  | zero => simp [Model.Observes, scanRecords]
  | succ rounds =>
    obtain ⟨payload, kept, storable, partly, rfl⟩ := stub
    have remaining : (disk.content path).length - position = kept := by
      rw [← List.length_drop, here, List.length_take, Nat.min_eq_left (Nat.le_of_lt partly)]
    rw [record_length] at partly
    rw [scanRecords]
    by_cases header : position + RecordHeader.size ≤ (disk.content path).length
    · have past : RecordHeader.size ≤ kept := by omega
      have split : (disk.content path).drop position =
          (RecordHeader.ofPayload payload).bytes ++ payload.take (kept - RecordHeader.size) := by
        rw [here, record, List.take_append, RecordHeader.bytes_length,
          List.take_of_length_le (by rw [RecordHeader.bytes_length]; exact past)]
      have beyond : (disk.content path).length < position + RecordHeader.size + payload.length := by
        omega
      rw [if_pos header, Model.Observes, wp_seek]
      simp only [within, decide_true, Bool.not_true, Bool.false_eq_true, if_false]
      refine (readHeader_observes payload split).then ?_
      simp [ofBytes_record payload storable, beyond]
    · simp [Model.Observes, if_neg header]

theorem scanRecords_observes (payloads : List Bytes) (rounds count : Nat) (stub : Stub rest)
    (storable : ∀ payload ∈ payloads, Storable payload)
    (here : (disk.content path).drop position = records payloads ++ rest)
    (within : position ≤ (disk.content path).length) (enough : payloads.length ≤ rounds) :
    Disk.device.Observes disk (scanRecords path (disk.content path).length rounds position count)
      (position + (records payloads).length, count + payloads.length) := by
  -- on the records in front of the stub; each takes one round
  induction payloads generalizing position rounds count with
  | nil => exact scanRecords_stub rounds count stub here within
  | cons payload payloads ih =>
    obtain ⟨rounds, rfl⟩ : ∃ fewer, rounds = fewer + 1 := Nat.exists_eq_add_one.mpr (by
      rw [List.length_cons] at enough; omega)
    have good := storable payload List.mem_cons_self
    have split : (disk.content path).drop position =
        (RecordHeader.ofPayload payload).bytes ++ (payload ++ (records payloads ++ rest)) := by
      rw [here, records_cons, record, List.append_assoc, List.append_assoc]
    have body : (disk.content path).drop (position + RecordHeader.size) =
        payload ++ (records payloads ++ rest) := by
      rw [← RecordHeader.bytes_length (RecordHeader.ofPayload payload)]
      exact drop_add_of_append split
    have after := drop_add_of_append body
    have size : (disk.content path).length - position =
        RecordHeader.size + payload.length + (records payloads ++ rest).length := by
      rw [← List.length_drop, split]
      simp only [List.length_append, RecordHeader.bytes_length]
      omega
    have header : position + RecordHeader.size ≤ (disk.content path).length := by omega
    have fits : position + RecordHeader.size + payload.length ≤ (disk.content path).length := by omega
    have later := ih rounds (count + 1) (fun other member => storable other (List.mem_cons_of_mem _ member))
      after fits (by rw [List.length_cons] at enough; omega)
    rw [scanRecords, if_pos header, Model.Observes, wp_seek]
    simp only [within, decide_true, Bool.not_true, Bool.false_eq_true, if_false]
    refine (readHeader_observes payload split).then ?_
    have sum := checksumFile_observes 2166136261 body
    simp only [ofBytes_record payload good, RecordHeader.bytes_length, bne_self_eq_false,
      ofPayload_valid payload good, Bool.not_true, Bool.or_self, ofPayload_length, Bool.false_or,
      decide_eq_true_eq, gt_iff_lt, Nat.not_lt.mpr fits, if_false]
    refine sum.then ?_
    simp only [ofPayload_checksum, checksum, bne_self_eq_false, Bool.false_eq_true, if_false]
    have total : position + (records (payload :: payloads)).length =
        position + RecordHeader.size + payload.length + (records payloads).length := by
      rw [records_cons, List.length_append, record_length]
      omega
    have counted : count + (payload :: payloads).length = count + 1 + payloads.length := by
      rw [List.length_cons]
      omega
    rw [total, counted]
    exact later

end Reading

end ApexiDevices
