import ApexiDevices.Storage.LittleFs

set_option autoImplicit false

namespace ApexiDevices

open Device

def kMetadataMagic : Nat := 0x5346514D
def kMetadataVersion : Nat := 2
def kRecordMagic : Nat := 0x53465131
def kMaximumPayloadBytes : Nat := 4096
def kFilesystemReserveBytes : Nat := 512 * 1024

/-- The FNV-1a step shared by record, metadata and settings checksums. -/
def checksumStep (value : UInt32) (byte : UInt8) : UInt32 := (value ^^^ byte.toUInt32) * 16777619

def checksum (bytes : Bytes) : UInt32 := bytes.foldl checksumStep 2166136261

def field (bytes : Bytes) (offset width : Nat) : Nat :=
  ofLittleEndian ((bytes.drop offset).take width)

theorem field_here (width value : Nat) (rest : Bytes) (fits : value < 256 ^ width) :
    field (littleEndian width value ++ rest) 0 width = value := by
  rw [field, List.drop_zero, List.take_left' (littleEndian_length width value),
    ofLittleEndian_littleEndian width value fits]

theorem field_skip (bytes rest : Bytes) (offset width : Nat) (past : bytes.length ≤ offset) :
    field (bytes ++ rest) offset width = field rest (offset - bytes.length) width := by
  rw [field, field, List.drop_append, List.drop_eq_nil_of_le past, List.nil_append]

structure RecordHeader where
  magic : Nat
  length : Nat
  checksum : Nat
  deriving DecidableEq, Repr

namespace RecordHeader

def size : Nat := 12

def bytes (header : RecordHeader) : Bytes :=
  littleEndian 4 header.magic ++ littleEndian 4 header.length ++ littleEndian 4 header.checksum

def ofBytes (bytes : Bytes) : RecordHeader :=
  ⟨field bytes 0 4, field bytes 4 4, field bytes 8 4⟩

/-- The header checks made before any payload byte is read. -/
def valid (header : RecordHeader) : Bool :=
  header.magic == kRecordMagic && header.length != 0 && header.length ≤ kMaximumPayloadBytes

def ofPayload (payload : Bytes) : RecordHeader :=
  ⟨kRecordMagic, payload.length, (ApexiDevices.checksum payload).toNat⟩

/-- The sizes the packed header can carry. -/
structure Fits (header : RecordHeader) : Prop where
  magic : header.magic < 2 ^ 32
  length : header.length < 2 ^ 32
  checksum : header.checksum < 2 ^ 32

@[simp] theorem bytes_length (header : RecordHeader) : header.bytes.length = size := by
  simp [bytes, size]

theorem ofBytes_bytes (header : RecordHeader) (fits : header.Fits) : ofBytes header.bytes = header := by
  obtain ⟨magic, length, checksum⟩ := header
  obtain ⟨magicFits, lengthFits, checksumFits⟩ := fits
  have last := field_here 4 checksum [] checksumFits
  rw [List.append_nil] at last
  simp only [ofBytes, bytes, List.append_assoc]
  simp (disch := simp_all [littleEndian_length]) only [field_skip, field_here, littleEndian_length,
    Nat.sub_self, Nat.reduceSub, last]

end RecordHeader

def record (payload : Bytes) : Bytes := (RecordHeader.ofPayload payload).bytes ++ payload

def records (payloads : List Bytes) : Bytes := (payloads.map record).flatten

/-- The queue's own record, without the checksum that only its stored form carries. -/
structure Metadata where
  magic : Nat := 0
  version : Nat := 0
  activeSegment : Segment := .zero
  reserved : Nat := 0
  head : Segment → Nat := fun _ => 0
  droppedRecords : Nat := 0
  corruptionEvents : Nat := 0
  quarantinedBytes : Nat := 0

def Segment.index : Segment → Nat
  | .zero => 0
  | .one => 1

def Segment.ofIndex? : Nat → Option Segment
  | 0 => some .zero
  | 1 => some .one
  | _ => none

@[simp] theorem Segment.ofIndex?_index (segment : Segment) :
    Segment.ofIndex? segment.index = some segment := by
  cases segment <;> rfl

namespace Metadata

def size : Nat := 32

def body (metadata : Metadata) : Bytes :=
  littleEndian 4 metadata.magic ++ littleEndian 2 metadata.version ++
    littleEndian 1 metadata.activeSegment.index ++ littleEndian 1 metadata.reserved ++
    littleEndian 4 (metadata.head .zero) ++ littleEndian 4 (metadata.head .one) ++
    littleEndian 4 metadata.droppedRecords ++ littleEndian 4 metadata.corruptionEvents ++
    littleEndian 4 metadata.quarantinedBytes

def metadataChecksum (metadata : Metadata) : Nat := (ApexiDevices.checksum metadata.body).toNat

def bytes (metadata : Metadata) : Bytes :=
  metadata.body ++ littleEndian 4 metadata.metadataChecksum

/-- The record as it is saved: the save itself sets magic and version. -/
def stamped (metadata : Metadata) : Metadata :=
  { metadata with magic := kMetadataMagic, version := kMetadataVersion }

@[simp] theorem stamped_head (metadata : Metadata) : metadata.stamped.head = metadata.head := rfl

def heads (first second : Nat) : Segment → Nat
  | .zero => first
  | .one => second

def ofBody (bytes : Bytes) : Option Metadata := do
  let active ← Segment.ofIndex? (field bytes 6 1)
  return { magic := field bytes 0 4, version := field bytes 4 2, activeSegment := active
           reserved := field bytes 7 1, head := heads (field bytes 8 4) (field bytes 12 4)
           droppedRecords := field bytes 16 4, corruptionEvents := field bytes 20 4
           quarantinedBytes := field bytes 24 4 }

/-- The version 2 record, when magic, version, active segment and checksum are those it must have. -/
def ofBytes (bytes : Bytes) : Option Metadata := do
  let metadata ← ofBody bytes
  if metadata.magic = kMetadataMagic ∧ metadata.version = kMetadataVersion ∧
      field bytes 28 4 = (ApexiDevices.checksum (bytes.take 28)).toNat then
    some metadata
  else none

/-- The sizes the packed record can carry. -/
structure Fits (metadata : Metadata) : Prop where
  reserved : metadata.reserved < 2 ^ 8
  head : ∀ segment, metadata.head segment < 2 ^ 32
  droppedRecords : metadata.droppedRecords < 2 ^ 32
  corruptionEvents : metadata.corruptionEvents < 2 ^ 32
  quarantinedBytes : metadata.quarantinedBytes < 2 ^ 32

theorem heads_eq (head : Segment → Nat) : heads (head .zero) (head .one) = head := by
  funext segment
  cases segment <;> rfl

@[simp] theorem body_length (metadata : Metadata) : metadata.body.length = 28 := by
  simp [body]

@[simp] theorem bytes_length (metadata : Metadata) : metadata.bytes.length = size := by
  simp [bytes, size]

theorem ofBody_body (metadata : Metadata) (rest : Bytes) (magic : metadata.magic < 2 ^ 32)
    (version : metadata.version < 2 ^ 16) (fits : metadata.Fits) :
    ofBody (metadata.body ++ rest) = some metadata := by
  obtain ⟨reserved, head, dropped, events, quarantined⟩ := fits
  have active : metadata.activeSegment.index < 2 ^ 8 := by
    cases metadata.activeSegment <;> decide
  have first := head .zero
  have second := head .one
  simp only [ofBody, body, List.append_assoc]
  simp (disch := simp_all [littleEndian_length]) only [field_skip, field_here,
    littleEndian_length, Nat.sub_self, Nat.reduceSub, Segment.ofIndex?_index, heads_eq]
  rfl

theorem field_checksum (metadata : Metadata) :
    field metadata.bytes 28 4 = metadata.metadataChecksum := by
  have small : metadata.metadataChecksum < 256 ^ 4 := UInt32.toNat_lt _
  have here := field_here 4 metadata.metadataChecksum [] small
  rw [List.append_nil] at here
  rw [bytes, field_skip _ _ _ _ (by rw [body_length]), body_length, Nat.sub_self, here]

theorem ofBytes_stamped (metadata : Metadata) (fits : metadata.Fits) :
    ofBytes metadata.stamped.bytes = some metadata.stamped := by
  have parsed : ofBody metadata.stamped.bytes = some metadata.stamped :=
    ofBody_body metadata.stamped _ (by simp [stamped, kMetadataMagic])
      (by simp [stamped, kMetadataVersion])
      ⟨fits.reserved, fits.head, fits.droppedRecords, fits.corruptionEvents, fits.quarantinedBytes⟩
  have covered : metadata.stamped.bytes.take 28 = metadata.stamped.body :=
    List.take_left' metadata.stamped.body_length
  have sum : field metadata.stamped.bytes 28 4 =
      (ApexiDevices.checksum (metadata.stamped.bytes.take 28)).toNat := by
    rw [field_checksum, covered, metadataChecksum]
  exact Option.bind_eq_some_iff.mpr ⟨_, parsed, if_pos ⟨rfl, rfl, sum⟩⟩

def legacySize : Nat := 24

/-- The version 1 record, carried over to the version 2 fields. -/
def ofLegacyBytes (bytes : Bytes) : Option Metadata := do
  let active ← Segment.ofIndex? (field bytes 6 1)
  if field bytes 0 4 = kMetadataMagic ∧ field bytes 4 2 = 1 ∧
      field bytes 20 4 = (ApexiDevices.checksum (bytes.take 20)).toNat then
    some { magic := kMetadataMagic, version := kMetadataVersion, activeSegment := active
           head := heads (field bytes 8 4) (field bytes 12 4), droppedRecords := field bytes 16 4 }
  else none

end Metadata

/-- `StatusDiagnostics::saturatingAdd`. -/
def saturatingAdd (value : Nat) (increment : Nat := 1) : Nat :=
  let maximum := 2 ^ 32 - 1
  if increment > maximum - value then maximum else value + increment

end ApexiDevices
