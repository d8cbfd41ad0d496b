import ApexiDevices.Queue.Format

set_option autoImplicit false

namespace ApexiDevices

open Device

structure StoreForwardQueue where
  metadata : Metadata := {}
  tail : Segment → Nat := fun _ => 0
  count : Segment → Nat := fun _ => 0
  segmentMaximumBytes : Nat := 0
  enabled : Bool := false
  ready : Bool := false
  rejectedRecords : Nat := 0
  lastError : String := ""

structure File where
  path : Path
  position : Nat := 0

def File.read (file : File) (length : Nat) : Flash (Bytes × File) := do
  let bytes ← LittleFs.read file.path file.position length
  pure (bytes, { file with position := file.position + bytes.length })

namespace StoreForwardQueue

def kRejectedSlots : Nat := 16

def pendingRecords (queue : StoreForwardQueue) : Nat := queue.count .zero + queue.count .one

def pendingBytes (queue : StoreForwardQueue) : Nat :=
  (queue.tail .zero - queue.metadata.head .zero) + (queue.tail .one - queue.metadata.head .one)

def droppedRecordsKnown (queue : StoreForwardQueue) : Bool :=
  queue.ready && queue.metadata.reserved == 0

def oldestSegment (queue : StoreForwardQueue) : Segment :=
  let inactive := queue.metadata.activeSegment.other
  if queue.count inactive > 0 then inactive else queue.metadata.activeSegment

def failed (queue : StoreForwardQueue) (error : String) : Bool × StoreForwardQueue :=
  (false, { queue with lastError := error })

def saveMetadata (queue : StoreForwardQueue) : Flash (Bool × StoreForwardQueue) := do
  let queue := { queue with metadata := queue.metadata.stamped }
  if ← LittleFs.exists .metadataTemporary then
    let _ ← LittleFs.remove .metadataTemporary
  if !(← LittleFs.openWrite .metadataTemporary) then
    return queue.failed "Queue metadata write failed"
  if (← LittleFs.write .metadataTemporary queue.metadata.bytes) != Metadata.size then
    return queue.failed "Queue metadata write failed"
  -- The previous metadata stays in place until this commit.
  if !(← LittleFs.rename .metadataTemporary .metadata) then
    return queue.failed "Queue metadata commit failed"
  return (true, queue)

def loadMetadata : Flash (Option Metadata) := do
  if !(← LittleFs.openRead .metadata) then
    return none
  let size ← LittleFs.size .metadata
  if size = Metadata.size then
    let bytes ← LittleFs.read .metadata 0 Metadata.size
    if bytes.length = Metadata.size then
      return Metadata.ofBytes bytes
  if !(← LittleFs.seek .metadata 0) || size != Metadata.legacySize then
    return none
  let bytes ← LittleFs.read .metadata 0 Metadata.legacySize
  if bytes.length != Metadata.legacySize then
    return none
  return Metadata.ofLegacyBytes bytes

def measured (queue : StoreForwardQueue) (segment : Segment) (head tail count : Nat) :
    StoreForwardQueue :=
  { queue with
    metadata := { queue.metadata with head := Function.update queue.metadata.head segment head }
    tail := Function.update queue.tail segment tail
    count := Function.update queue.count segment count }

def emptied (queue : StoreForwardQueue) (segment : Segment) : StoreForwardQueue :=
  queue.measured segment 0 0 0

def quarantined (queue : StoreForwardQueue) (corruptBytes : Nat) : StoreForwardQueue :=
  { queue with
    metadata := { queue.metadata with
      corruptionEvents := (queue.metadata.corruptionEvents + 1) % 2 ^ 32
      quarantinedBytes := (queue.metadata.quarantinedBytes + corruptBytes) % 2 ^ 32 }
    lastError := "Queue tail corruption quarantined" }

def truncateSegment (queue : StoreForwardQueue) (segment : Segment) :
    Flash (Bool × StoreForwardQueue) := do
  if !(← LittleFs.openWrite (.segment segment)) then
    return queue.failed "Queue segment reset failed"
  return (true, queue.emptied segment)

/-- The checksum of the next bytes of a file, read one at a time; zero when they run out. -/
def checksumFile (file : File) : Nat → UInt32 → Flash UInt32
  | 0, value => pure value
  | length + 1, value => do
    let (bytes, file) ← file.read 1
    match bytes with
    | [] => pure 0
    | byte :: _ => checksumFile file length (checksumStep value byte)

/-- The replayable records from an offset on: where they end and how many they are.
The file size bounds the rounds, since a record is never empty. -/
def scanRecords (path : Path) (fileSize : Nat) : Nat → Nat → Nat → Flash (Nat × Nat)
  | 0, offset, count => pure (offset, count)
  | rounds + 1, offset, count => do
    if offset + RecordHeader.size ≤ fileSize then
      if !(← LittleFs.seek path offset) then
        return (offset, count)
      let (bytes, file) ← File.read ⟨path, offset⟩ RecordHeader.size
      let header := RecordHeader.ofBytes bytes
      if bytes.length != RecordHeader.size || !header.valid ||
          offset + RecordHeader.size + header.length > fileSize then
        return (offset, count)
      let value ← checksumFile file header.length 2166136261
      if value.toNat != header.checksum then
        return (offset, count)
      scanRecords path fileSize rounds (offset + RecordHeader.size + header.length) (count + 1)
    else
      return (offset, count)

/-- Copy the given number of bytes in chunks of 256; every round copies at least one. -/
def copyBytes (target : Path) (opened : Bool) : Nat → File → Nat → Flash (Bool × File)
  | 0, source, _ => pure (true, source)
  | rounds + 1, source, remaining => do
    if remaining = 0 then
      return (true, source)
    let chunk := min remaining 256
    let (bytes, source) ← source.read chunk
    if !(opened && bytes.length == chunk) then
      return (false, source)
    if (← LittleFs.write target bytes) != chunk then
      return (false, source)
    copyBytes target opened rounds source (remaining - chunk)

/-- Move the bytes behind the valid records to quarantine and replace the live segment. -/
def replaceSegment (segment : Segment) (source : Bool) (tail fileSize : Nat) : Flash Bool := do
  let repair ← LittleFs.openWrite .segmentRepair
  let (copied, file) ← if source && repair then
      copyBytes .segmentRepair true tail ⟨.segment segment, 0⟩ tail
    else pure (false, ⟨.segment segment, 0⟩)
  let quarantine ← LittleFs.openAppend (.quarantine segment)
  let (repaired, _) ← if copied then
      copyBytes (.quarantine segment) quarantine (fileSize - tail) file (fileSize - tail)
    else pure (false, file)
  if !repaired then
    return false
  LittleFs.rename .segmentRepair (.segment segment)

def repairSegment (segment : Segment) (tail fileSize : Nat) : Flash Bool := do
  let source ← LittleFs.openRead (.segment segment)
  if ← LittleFs.exists .segmentRepair then
    let _ ← LittleFs.remove .segmentRepair
  replaceSegment segment source tail fileSize

def scanSegment (queue : StoreForwardQueue) (segment : Segment) :
    Flash (Bool × StoreForwardQueue) := do
  if !(← LittleFs.openRead (.segment segment)) then
    if !(← LittleFs.openWrite (.segment segment)) then
      return queue.failed "Queue segment create failed"
    return (true, queue.emptied segment)
  let fileSize ← LittleFs.size (.segment segment)
  let head := min (queue.metadata.head segment) fileSize
  let (offset, count) ← scanRecords (.segment segment) fileSize fileSize head 0
  let queue := queue.measured segment head offset count
  let queue ← if offset < fileSize then do
      if !(← repairSegment segment offset fileSize) then
        return queue.failed "Queue tail repair failed"
      pure (queue.quarantined (fileSize - offset))
    else pure queue
  if count = 0 then
    truncateSegment queue segment
  else
    return (true, queue)

/-- The last part of a rotation: the older segment becomes the empty active one. -/
def activateSegment (queue : StoreForwardQueue) (next : Segment) : Flash (Bool × StoreForwardQueue) := do
  let (truncated, queue) ← truncateSegment queue next
  if !truncated then
    return (false, queue)
  saveMetadata { queue with metadata := { queue.metadata with activeSegment := next } }

def rotateSegment (queue : StoreForwardQueue) : Flash (Bool × StoreForwardQueue) := do
  let next := queue.metadata.activeSegment.other
  let recordsToDrop := queue.count next
  let previousDroppedRecords := queue.metadata.droppedRecords
  let (counted, queue) ← if recordsToDrop > 0 then
      -- The loss is recorded before its bytes are reclaimed.
      saveMetadata { queue with metadata := { queue.metadata with
        droppedRecords := saturatingAdd queue.metadata.droppedRecords recordsToDrop } }
    else pure (true, queue)
  if !counted then
    return (false, { queue with metadata := { queue.metadata with
      droppedRecords := previousDroppedRecords } })
  activateSegment queue next

def appended (queue : StoreForwardQueue) (payload : Bytes) : StoreForwardQueue :=
  let segment := queue.metadata.activeSegment
  { queue with
    tail := Function.update queue.tail segment
      (queue.tail segment + (RecordHeader.size + payload.length))
    count := Function.update queue.count segment (queue.count segment + 1)
    lastError := "" }

def appendRecord (queue : StoreForwardQueue) (payload : Bytes) :
    Flash (Bool × StoreForwardQueue) := do
  let segment := queue.metadata.activeSegment
  if !(← LittleFs.openAppend (.segment segment)) then
    return queue.failed "Queue segment open failed"
  let header := RecordHeader.ofPayload payload
  if (← LittleFs.write (.segment segment) header.bytes) != RecordHeader.size then
    return queue.failed "Queue append failed"
  if (← LittleFs.write (.segment segment) payload) != payload.length then
    return queue.failed "Queue append failed"
  return (true, queue.appended payload)

def enqueue (queue : StoreForwardQueue) (payload : Bytes) : Flash (Bool × StoreForwardQueue) := do
  if !queue.ready || payload.isEmpty || payload.length > kMaximumPayloadBytes then
    return queue.failed
      (if queue.ready then "Queued payload size invalid" else "Store-and-forward unavailable")
  let recordBytes := RecordHeader.size + payload.length
  if recordBytes > queue.segmentMaximumBytes then
    return queue.failed "Queued payload exceeds segment capacity"
  if queue.tail queue.metadata.activeSegment + recordBytes > queue.segmentMaximumBytes then
    let (rotated, queue) ← rotateSegment queue
    if rotated then appendRecord queue payload else return (false, queue)
  else
    appendRecord queue payload

/-- Read up to a payload's length in chunks of 256; every round reads at least one byte.
`peek` also stops where the file reports nothing available, `peekBatch` where a read is empty. -/
def readPayload (polled : Bool) (length : Nat) : Nat → File → Bytes → Flash (Bytes × File)
  | 0, file, payload => pure (payload, file)
  | rounds + 1, file, payload => do
    if payload.length < length then
      let available ← if polled then do pure (file.position < (← LittleFs.size file.path) : Bool)
        else pure true
      if !available then
        return (payload, file)
      let (bytes, file) ← file.read (min 256 (length - payload.length))
      if bytes.isEmpty then
        return (payload, file)
      readPayload polled length rounds file (payload ++ bytes)
    else
      return (payload, file)

structure Peeked where
  found : Bool
  payload : Bytes
  queue : StoreForwardQueue

def peek (queue : StoreForwardQueue) : Flash Peeked := do
  if !queue.ready || queue.pendingRecords = 0 then
    return ⟨false, [], queue⟩
  let segment := queue.oldestSegment
  let opened ← LittleFs.openRead (.segment segment)
  if !(opened && (← LittleFs.seek (.segment segment) (queue.metadata.head segment))) then
    return ⟨false, [], { queue with lastError := "Queue read seek failed" }⟩
  let (bytes, file) ← File.read ⟨.segment segment, queue.metadata.head segment⟩ RecordHeader.size
  let header := RecordHeader.ofBytes bytes
  if bytes.length != RecordHeader.size || !header.valid then
    return ⟨false, [], { queue with lastError := "Queue record header invalid" }⟩
  let (payload, _) ← readPayload true header.length header.length file []
  if payload.length != header.length || (checksum payload).toNat != header.checksum then
    return ⟨false, [], { queue with lastError := "Queue record checksum invalid" }⟩
  return ⟨true, payload, { queue with lastError := "" }⟩

/-- One record less at the head of a segment. -/
def advanced (queue : StoreForwardQueue) (segment : Segment) (recordBytes : Nat) (discarded : Bool) :
    StoreForwardQueue :=
  { queue with
    metadata := { queue.metadata with
      head := Function.update queue.metadata.head segment (queue.metadata.head segment + recordBytes)
      droppedRecords := if discarded then saturatingAdd queue.metadata.droppedRecords
        else queue.metadata.droppedRecords }
    count := Function.update queue.count segment (queue.count segment - 1) }

def pop (queue : StoreForwardQueue) (discarded : Bool := false) :
    Flash (Bool × StoreForwardQueue) := do
  if !queue.ready || queue.pendingRecords = 0 then
    return (false, queue)
  let segment := queue.oldestSegment
  let opened ← LittleFs.openRead (.segment segment)
  if !(opened && (← LittleFs.seek (.segment segment) (queue.metadata.head segment))) then
    return queue.failed "Queue pop seek failed"
  let (bytes, _) ← File.read ⟨.segment segment, queue.metadata.head segment⟩ RecordHeader.size
  let header := RecordHeader.ofBytes bytes
  if bytes.length != RecordHeader.size || !header.valid then
    return queue.failed "Queue pop header invalid"
  let popped := queue.advanced segment (RecordHeader.size + header.length) discarded
  -- The acknowledgement is committed before the segment is reclaimed.
  let (saved, popped) ← saveMetadata popped
  if !saved then
    return (false, { popped with
      metadata := { popped.metadata with
        head := queue.metadata.head, droppedRecords := queue.metadata.droppedRecords }
      count := queue.count })
  if popped.count segment = 0 then
    let (truncated, popped) ← truncateSegment popped segment
    if !truncated then
      return (false, popped)
    let (saved, popped) ← saveMetadata popped
    return (saved, if saved then { popped with lastError := "" } else popped)
  else
    return (true, { popped with lastError := "" })

def popIfMatches (queue : StoreForwardQueue) (submitted : Bytes) (discarded : Bool := false) :
    Flash (Bool × StoreForwardQueue) := do
  let peeked ← queue.peek
  if !peeked.found then
    return (peeked.queue.pendingRecords == 0, peeked.queue)
  -- Another head means that capacity policy has removed the submitted record already.
  if peeked.payload ≠ submitted then
    return (true, peeked.queue)
  peeked.queue.pop discarded

/-- `BlankPartition::verify`: every byte of the partition reads as erased. -/
def verifyBlank (size : Nat) : Nat → Nat → Flash Bool
  | 0, _ => pure true
  | rounds + 1, offset => do
    if offset < size then
      let length := min 256 (size - offset)
      match ← LittleFs.readPartition offset length with
      | none => return false
      | some bytes =>
        if bytes.all (· == 0xff) then verifyBlank size rounds (offset + length) else return false
    else
      return true

def mountPartition : Flash (Option String) := do
  let preferred ← LittleFs.findPartition "littlefs"
  let partition ← match preferred with
    | some size => pure (some size)
    | none => LittleFs.findPartition "spiffs"
  match partition with
  | none => return some "Filesystem partition missing"
  | some size =>
    if ← LittleFs.mount then
      return none
    let blank ← if size = 0 then pure false else verifyBlank size size 0
    if !blank then
      return some "LittleFS mount failed; nonblank or unreadable data preserved"
    if !(← LittleFs.format) then
      return some "Blank LittleFS initialization failed"
    if !(← LittleFs.mount) then
      return some "Blank LittleFS initialization failed"
    return none

/-- The size of the quarantine file left by an earlier repair; zero when there is none. -/
def quarantineSize (segment : Segment) : Flash Nat := do
  if ← LittleFs.openRead (.quarantine segment) then
    LittleFs.size (.quarantine segment)
  else
    return 0

def anyExists : List Path → Flash Bool
  | [] => pure false
  | path :: rest => do
    if ← LittleFs.exists path then return true else anyExists rest

/-- Metadata for a store whose own record is lost: the drop count is flagged as uncertain
when anything of an earlier store is left. -/
def rebuildMetadata : Flash Metadata := do
  let left ← anyExists
    [.metadata, .segment .zero, .segment .one, .quarantine .zero, .quarantine .one]
  let first ← quarantineSize .zero
  let second ← quarantineSize .one
  return { magic := kMetadataMagic, version := kMetadataVersion, activeSegment := .zero
           reserved := if left then 1 else 0
           corruptionEvents := (if first > 0 then 1 else 0) + (if second > 0 then 1 else 0)
           quarantinedBytes := (first + second) % 2 ^ 32 }

def loadOrRebuild : Flash Metadata := do
  match ← loadMetadata with
  | some metadata => pure metadata
  | none => rebuildMetadata

def rejectedSlotPresent (queue : StoreForwardQueue) (slot : Nat) : Flash Bool := do
  if !queue.ready || slot ≥ kRejectedSlots then
    return false
  LittleFs.exists (.rejectedSlot slot)

def countRejected (queue : StoreForwardQueue) : List Nat → Nat → Flash Nat
  | [], present => pure present
  | slot :: slots, present => do
    if ← queue.rejectedSlotPresent slot then
      countRejected queue slots (present + 1)
    else
      countRejected queue slots present

def removeLeft (path : Path) : Flash Unit := do
  if ← LittleFs.exists path then
    let _ ← LittleFs.remove path

/-- The part of `begin` behind the capacity checks. -/
def recover (queue : StoreForwardQueue) : Flash (Bool × StoreForwardQueue) := do
  removeLeft .metadataTemporary
  removeLeft .segmentRepair
  let metadata ← loadOrRebuild
  let (scanned, queue) ← scanSegment { queue with metadata } .zero
  if !scanned then
    return (false, queue)
  let (scanned, queue) ← scanSegment queue .one
  if !scanned then
    return (false, queue)
  let (saved, queue) ← saveMetadata queue
  if !saved then
    return (false, queue)
  let queue := { queue with ready := true }
  let rejectedRecords ← queue.countRejected (List.range kRejectedSlots) 0
  return (true, { queue with rejectedRecords })

def «begin» (queue : StoreForwardQueue) (enabled : Bool) (maximumBytes : Nat) :
    Flash (Bool × StoreForwardQueue) := do
  let queue := { queue with enabled, ready := false, rejectedRecords := 0, lastError := "" }
  if !enabled then
    return (true, { queue with lastError := "Onboard store-and-forward disabled" })
  match ← mountPartition with
  | some error => return queue.failed error
  | none =>
    let totalBytes ← LittleFs.totalBytes
    if totalBytes ≤ kFilesystemReserveBytes + 2 * RecordHeader.size then
      return queue.failed "LittleFS partition too small"
    let usableBytes := min maximumBytes (totalBytes - kFilesystemReserveBytes)
    let queue := { queue with segmentMaximumBytes := usableBytes / 2 }
    if queue.segmentMaximumBytes ≤ RecordHeader.size + 1 then
      return queue.failed "Store-and-forward capacity too small"
    queue.recover

end StoreForwardQueue

end ApexiDevices
