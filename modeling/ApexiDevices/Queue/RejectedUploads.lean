import ApexiDevices.Queue.Model
import ApexiDevices.Shared.Codec

set_option autoImplicit false

/-!
# The archive of rejected uploads

Sixteen slots, each one file. A payload is written to a temporary file, read
back, and renamed to the first slot that is free.
-/

namespace ApexiDevices

open Device

structure RejectedHeader where
  magic : UInt32
  length : UInt32
  checksum : UInt32
  httpStatus : UInt32
  deriving DecidableEq

namespace RejectedHeader

def codec : Codec RejectedHeader :=
  Codec.fields (.pair .uint32 (.pair .uint32 (.pair .uint32 .uint32)))
    (fun (magic, length, checksum, httpStatus) => ⟨magic, length, checksum, httpStatus⟩)
    (fun header => (header.magic, header.length, header.checksum, header.httpStatus)) (fun _ => rfl)

def size : Nat := 16

end RejectedHeader

namespace UploadRecovery

def payloadRejected (status : Int32) : Bool := status == 400 || status == 413 || status == 422

end UploadRecovery

namespace StoreForwardQueue

def kRejectedMagic : UInt32 := 0x52454A31
def kPayloadLimit : Nat := 4096

/-- The payload of an archive file and its header, unless the file is damaged. -/
def readFile (path : Path) : Flash (Option (Bytes × RejectedHeader)) := do
  if !(← LittleFs.openRead path) then
    return none
  let (bytes, file) ← File.read ⟨path, 0⟩ RejectedHeader.size
  let header := RejectedHeader.codec.decode bytes
  if bytes.length != RejectedHeader.size || header.magic != kRejectedMagic || header.length == 0 ||
      kPayloadLimit < header.length.toNat then
    return none
  if (← LittleFs.size path) != RejectedHeader.size + header.length.toNat then
    return none
  let (payload, _) ← readPayload false header.length.toNat header.length.toNat file []
  return if payload.length == header.length.toNat then some (payload, header) else none

variable (queue : StoreForwardQueue)

def readRejected (slot : Nat) : Flash (Option (Bytes × Int32)) := do
  if !queue.ready || slot ≥ kRejectedSlots then
    return none
  match ← readFile (.rejectedSlot slot) with
  | none => return none
  | some (payload, header) =>
    return if ApexiDevices.checksum payload != header.checksum then none else some (payload, header.httpStatus.toInt32)

/-- The first free slot, or nothing when some slot has the payload already. -/
def searchSlots (payload : Bytes) : List Nat → Nat → Flash (Option Nat)
  | [], freeSlot => pure (some freeSlot)
  | slot :: slots, freeSlot => do
    if !(← queue.rejectedSlotPresent slot) then
      searchSlots payload slots (if freeSlot = kRejectedSlots then slot else freeSlot)
    else
      match ← queue.readRejected slot with
      | none => searchSlots payload slots freeSlot
      | some (saved, _) => if saved = payload then return none else searchSlots payload slots freeSlot

def writeTemporary (header : RejectedHeader) (payload : Bytes) : Flash Bool := do
  if !(← LittleFs.openWrite .rejectedTemporary) then
    return false
  if (← LittleFs.write .rejectedTemporary (RejectedHeader.codec.encode header)) != RejectedHeader.size then
    return false
  return (← LittleFs.write .rejectedTemporary payload) == payload.length

def verifyTemporary (header : RejectedHeader) (payload : Bytes) : Flash Bool := do
  match ← readFile .rejectedTemporary with
  | none => return false
  | some (saved, verified) =>
    return saved == payload && verified.checksum == header.checksum && verified.httpStatus == header.httpStatus

def archive (header : RejectedHeader) (payload : Bytes) (freeSlot : Nat) : Flash Bool := do
  if !(← writeTemporary header payload) then
    return false
  if !(← verifyTemporary header payload) then
    return false
  LittleFs.rename .rejectedTemporary (.rejectedSlot freeSlot)

def preserveRejected (payload : Bytes) (httpStatus : Int32) : Flash (Bool × StoreForwardQueue) := do
  if !queue.ready || payload.isEmpty || kPayloadLimit < payload.length ||
      !UploadRecovery.payloadRejected httpStatus then
    return queue.failed "Rejected upload cannot be archived; replay retained"
  match ← queue.searchSlots payload (List.range kRejectedSlots) kRejectedSlots with
  | none => return (true, { queue with lastError := "" })
  | some freeSlot =>
    if freeSlot = kRejectedSlots then
      return queue.failed "Rejected upload archive full; replay retained; export recovery records"
    let header : RejectedHeader :=
      ⟨kRejectedMagic, UInt32.ofNat payload.length, ApexiDevices.checksum payload, httpStatus.toUInt32⟩
    if ← archive header payload freeSlot then
      return (true, { queue with rejectedRecords := queue.rejectedRecords + 1, lastError := "" })
    else
      return queue.failed "Rejected upload archive write failed; replay retained"

end StoreForwardQueue

end ApexiDevices
