import ApexiDevices.Dash.UploadEvidence
import ApexiDevices.Https.HttpsExchange
import ApexiDevices.Management.QueueOldest
import ApexiDevices.Management.DesiredState
import ApexiDevices.Queue.PeekBatch
import ApexiDevices.Queue.RejectedUploads

set_option autoImplicit false

/-!
# Uploads over HTTPS

A capture goes to flash. Each turn of the main loop takes at most one result
from the worker and gives it at most one request; what the server has accepted
is removed from flash by its bytes.
-/

namespace ApexiDevices

open Device

structure HttpsPacing where
  attempted : Bool := false
  lastStatusAttempt : UInt32 := 0

namespace HttpsPacing

inductive Work where
  | Wait
  | Status
  | Snapshot
  deriving DecidableEq, Repr

def next (pacing : HttpsPacing) (now : UInt32) (busy connected backoff : Bool) (lastCompletion retryMs : UInt32)
    (statusRequested hasSnapshot : Bool) : Work :=
  if busy || !connected || (backoff && decide (now - lastCompletion < retryMs)) then .Wait
  else if statusRequested || !pacing.attempted || decide (30000 ≤ now - pacing.lastStatusAttempt) then .Status
  else if hasSnapshot then .Snapshot else .Wait

def statusCompleted (now : UInt32) : HttpsPacing := { attempted := true, lastStatusAttempt := now }

end HttpsPacing

structure UploadRecovery where
  singlesRemaining : Nat := 0

namespace UploadRecovery

def batchRejected (count : Nat) : UploadRecovery := { singlesRemaining := count }

def allowBatch (recovery : UploadRecovery) : Bool := recovery.singlesRemaining == 0

def recordResolved (recovery : UploadRecovery) (advanced : Bool) : UploadRecovery :=
  if advanced && recovery.singlesRemaining != 0 then { singlesRemaining := recovery.singlesRemaining - 1 } else recovery

inductive Resolution where
  | Retained
  | Archived
  | ArchiveFailed
  | AdvanceFailed
  deriving DecidableEq, Repr

/-- `save` and `advance` work on what the callbacks capture. -/
def resolveRejected {S : Signature} {σ : Type} (recovery : UploadRecovery) (status : Int32) (permanent : Bool)
    (save advance : σ → Prog S (Bool × σ)) (captured : σ) : Prog S (Resolution × UploadRecovery × σ) := do
  if !permanent || !payloadRejected status then
    return (.Retained, recovery, captured)
  let (saved, captured) ← save captured
  if !saved then
    return (.ArchiveFailed, recovery, captured)
  let (advanced, captured) ← advance captured
  if !advanced then
    return (.AdvanceFailed, recovery, captured)
  return (.Archived, recovery.recordResolved true, captured)

end UploadRecovery

/-- The library's parser, with the filters of the four places that use one. -/
structure UploadReaders where
  library : JsonLibrary
  serialize : Document → Bytes
  response : Bytes → Option Document
  batch : Bytes → Option Document
  stamp : Bytes → Option Document
  oldest : LiveUpload.FilteredReader

def UploadEvidence.acceptedResponse (readers : UploadReaders) (status : Int) (body : CText) : Bool :=
  status == 200 &&
    match readers.response body.bytes with
    | none => false
    | some doc =>
      doc.object?.isSome && (doc.member "accepted").bool? == some true &&
        (doc.member "status").text? == some (.literal "ok")

def BatchAcknowledgement.accepted (readers : UploadReaders) (status : Int) (body : CText) (batchId : Bytes)
    (count : Nat) : Bool :=
  status == 200 && count != 0 && count ≤ 8 && batchId.length == 32 &&
    match readers.batch body.bytes with
    | none => false
    | some doc =>
      (doc.member "status").bytes == ascii "ok" && (doc.member "accepted").bool? == some true &&
        (doc.member "batch_id").text? == some (.of batchId) &&
        (doc.member "accepted_count").uint? == some (.ofNat count)

def Logic.isRetryableHttpStatus (status : Int) : Bool :=
  status < 0 || status == 408 || status == 425 || status == 429 || 500 ≤ status

structure UploadPerformance where
  captured : UInt32 := 0
  accepted : UInt32 := 0
  captureRejected : UInt32 := 0
  requests : UInt32 := 0
  reused : UInt32 := 0
  lastRequestMs : UInt32 := 0
  lastSampleEpoch : UInt32 := 0
  batchRequests : UInt32 := 0
  batchAccepted : UInt32 := 0
  batchEnabled : Bool := false

namespace LiveUploadAsync

inductive Operation where
  | None
  | Status
  | Fallback
  | RotationAck
  | RotationProof
  | Snapshot
  | Batch
  deriving DecidableEq, Repr

def Operation.status (operation : Operation) : Bool := operation != .Snapshot && operation != .Batch

/-- What `HttpsWorker::submit` is given for this owner. -/
structure Post where
  url : String
  payload : CText
  token : String
  accessId : String
  accessSecret : String

/-! ## What a turn calls -/

inductive PeerOp where
  -- the worker, for Owner::Telemetry
  | workerBegin
  | result
  | release
  | idle
  | submit (post : Post)
  -- WiFi.status() == WL_CONNECTED
  | connected
  | millis
  | random
  -- the authorization, where one is attached
  | restartRequired
  | uploadDeviceId
  | bearer (statusRequest : Bool)
  | hasRotation
  | statusResult (accepted : Bool)
  | beginRotationFallback
  | finishRotationFallback (accepted : Bool)
  | stageDesired (desired : Document.Object)
  -- buildStatusJson(true)
  | statusJson

abbrev PeerOp.Reply : PeerOp → Type
  | .result => Option HttpsExchange.Result
  | .workerBegin | .idle | .submit _ | .connected | .restartRequired | .hasRotation | .stageDesired _ => Bool
  | .millis | .random => UInt32
  | .uploadDeviceId => CText
  | .bearer _ => String
  | .statusJson => Bytes
  | .release | .statusResult _ | .beginRotationFallback | .finishRotationFallback _ => Unit

abbrev Peers : Signature := ⟨PeerOp, PeerOp.Reply⟩

abbrev Parts : Signature := LittleFs.sum ((Preferences AppBearerRotation.layout).sum Peers)

abbrev Upload := Prog Parts

def onFlash {A : Type} (program : Flash A) : Upload A := program.left

def onStore {A : Type} (program : AppBearerRotation.Auth A) : Upload A := program.left.right

def ask (op : PeerOp) : Upload op.Reply := (@Prog.request Peers op).right.right

structure Config where
  deviceId : CText
  host : String
  port : UInt16
  path : String
  appDeviceToken : String
  accessId : String
  accessSecret : String
  publishIntervalMs : UInt32
  reconnectIntervalMs : UInt16

def Operation.path : Operation → String
  | .Snapshot => "/snapshot"
  | .Batch => "/snapshot-batch"
  | _ => "/status"

def Config.url (config : Config) (operation : Operation) : String :=
  "https://" ++ config.host ++ ":" ++ toString config.port.toNat ++ config.path ++ operation.path

/-- `%08lx` -/
def hexWord (value : UInt32) : Bytes :=
  (List.range 8).map fun place =>
    let digit := value.toNat / 16 ^ (7 - place) % 16
    UInt8.ofNat (if digit < 10 then 48 + digit else 87 + digit)

def snapshotsJson (records : List Bytes) : Bytes := (ascii ",").intercalate records

/-- The body of a batch. -/
def envelope (deviceId : CText) (batchId : Bytes) (records : List Bytes) : Bytes :=
  ascii "\x7b\"schema_version\":1,\"device_id\":\"" ++ LiveUpload.jsonEscape deviceId.bytes ++
    ascii "\",\"batch_id\":\"" ++ batchId ++ ascii "\",\"snapshots\":[" ++ snapshotsJson records ++ ascii "]\x7d"

end LiveUploadAsync

open LiveUploadAsync in
/-- The members of `LiveUpload` that its HTTPS part uses. -/
structure LiveUploadAsync where
  -- those of the desired state: identity, managed rotation, status texts
  management : LiveUpload
  config : LiveUploadAsync.Config
  sessionId : CText := .empty
  enabled : Bool := false
  remoteManagementEnabled : Bool := false
  workerReady : Bool := false
  queue : StoreForwardQueue := {}
  queueOldest : LiveUpload.QueueOldest := {}
  operation : Operation := .None
  pacing : HttpsPacing := {}
  recovery : UploadRecovery := {}
  statusRequested : Bool := true
  fallbackRequested : Bool := false
  backoff : Bool := false
  durableInFlight : Bool := false
  completedMs : UInt32 := 0
  inFlightPayload : Bytes := []
  volatilePayload : Bytes := []
  batchRecords : List Bytes := []
  batchId : Bytes := []
  batchPayload : Bytes := []
  batchEnabled : Bool := false
  batchAcknowledged : Bool := false
  batchAckIndex : Nat := 0
  uploadEvidence : UploadEvidence.Tracker := {}
  performance : UploadPerformance := {}
  lastError : String := ""
  rejectionArchiveError : String := ""
  lastHttpStatus : Int := 0
  lastPostRetryable : Bool := false
  httpsConnected : Bool := false
  httpsRecoveryPending : Bool := false
  authenticatedHeartbeatObserved : Bool := false
  lastAuthenticatedHeartbeatMs : UInt32 := 0
  lastSequence : UInt32 := 0
  lastPublishMs : UInt32 := 0
  lastHttpsAttemptMs : UInt32 := 0
  lastStatusPublishMs : UInt32 := 0
  pairingCodeGeneratedMs : UInt32 := 0

namespace LiveUploadAsync

section Source

variable (readers : UploadReaders) (self : LiveUploadAsync)

def refreshQueueOldest : Upload LiveUploadAsync := do
  let (queueOldest, queue) ← onFlash (LiveUpload.refreshQueueOldest readers.oldest self.queue)
  return { self with queueOldest, queue }

/-! ## Setup -/

/-- The settings of a boot; the text of the pairing code is left out. -/
def configured (config : Config) (enabled remoteManagementEnabled : Bool) (appliedConfigVersion : UInt32)
    (bearerRotation : Option AppBearerRotation) (bootCounter now : UInt32) : LiveUploadAsync :=
  let normalizedDevice := Logic.normalizeTopicSegment config.deviceId.bytes
  let deviceId : CText := if normalizedDevice.isEmpty then .literal "mda-logger" else .of normalizedDevice
  { self with
    management := { self.management with
      deviceId, appliedConfigVersion, bearerRotation, protocol := .https
      managementStatus := if 0 < appliedConfigVersion then "applied" else "ready", managementError := "" }
    config, enabled, remoteManagementEnabled
    uploadEvidence := {}
    sessionId := .of (Logic.formatSessionId deviceId.bytes bootCounter)
    pairingCodeGeneratedMs := now }

/-- A boot with HTTPS as its protocol. -/
def «begin» (maximumBytes : Nat) (config : Config) (enabled remoteManagementEnabled : Bool)
    (appliedConfigVersion : UInt32) (bearerRotation : Option AppBearerRotation) : Upload (Bool × LiveUploadAsync) := do
  let bootCounter : UInt32 ← ask .random
  let now : UInt32 ← ask .millis
  let self := self.configured config enabled remoteManagementEnabled appliedConfigVersion bearerRotation bootCounter now
  if !enabled then
    return (false, { self with lastError := "Live upload disabled" })
  if config.host.isEmpty then
    return (false, { self with lastError := "Upload host not configured" })
  let (_, queue) ← onFlash (self.queue.begin true maximumBytes)
  let self := { self with queue }
  if config.path.isEmpty || config.accessId.isEmpty || config.accessSecret.isEmpty then
    return (false, { self with lastError := "HTTPS credentials not configured" })
  let workerReady : Bool ← ask .workerBegin
  return if workerReady then (true, { self with workerReady, lastError := "" })
    else (false, { self with workerReady, lastError := "HTTPS worker unavailable" })

/-! ## Capture -/

/-- The checks of an attached authorization in front of a capture. -/
def unauthorized : Upload Bool := do
  if !self.management.authorization then return false
  let restart : Bool ← ask .restartRequired
  if restart then return true
  let bearer : String ← ask (.bearer false)
  if bearer.isEmpty then return true
  let deviceId : CText ← ask .uploadDeviceId
  return deviceId != self.management.deviceId

def snapshot (decimals : UInt32 → Bytes) (state : LiveUpload.AppState) : Bytes :=
  LiveUpload.buildSnapshotJson self.management.deviceId self.sessionId decimals state (self.lastSequence + 1)

def captureRejected (error : String) : LiveUploadAsync :=
  { self with
    performance := { self.performance with captureRejected := self.performance.captureRejected + 1 }
    lastError := error }

/-- The queue takes the payload where it is ready, else the one volatile slot does. -/
def store (payload : Bytes) : Upload (Bool × LiveUploadAsync) := do
  if self.queue.ready then
    let (stored, queue) ← onFlash (self.queue.enqueue payload)
    let self := { self with queue }
    return if stored then (true, self) else (false, self.captureRejected ("Onboard capture failed: " ++ queue.lastError))
  else if !self.volatilePayload.isEmpty then
    return (false, self.captureRejected "Upload capture full; SD logging remains separate")
  else
    return (true, { self with volatilePayload := payload })

def captureHttps (decimals : UInt32 → Bytes) (state : LiveUpload.AppState) : Upload (Bool × LiveUploadAsync) := do
  if ← self.unauthorized then
    let now : UInt32 ← ask .millis
    return (false, { self with
      lastPublishMs := now, lastError := "Device authorization required before upload capture" })
  let now : UInt32 ← ask .millis
  let (stored, self) ← { self with lastPublishMs := now }.store (self.snapshot decimals state)
  if !stored then
    return (false, self)
  let self := { self with
    lastSequence := self.lastSequence + 1
    performance := { self.performance with captured := self.performance.captured + 1 } }
  if self.queueOldest.session == .empty then
    return (true, ← self.refreshQueueOldest readers)
  else
    return (true, self)

def publishIfDue (decimals : UInt32 → Bytes) (state : LiveUpload.AppState) : Upload (Bool × LiveUploadAsync) := do
  if !self.enabled then
    return (false, self)
  let now : UInt32 ← ask .millis
  if self.config.publishIntervalMs ≤ now - self.lastPublishMs then
    self.captureHttps readers decimals state
  else
    return (false, self)

/-! ## Requests -/

def token (operation : Operation) : Upload String :=
  if self.management.authorization then ask (.bearer operation.status)
  else
    match self.management.bearerRotation with
    | some rotation => return if operation = .RotationProof then rotation.candidateBearer else rotation.activeBearer
    | none => return self.config.appDeviceToken

def submitHttps (operation : Operation) (payload : Bytes) : Upload (Bool × LiveUploadAsync) := do
  let token ← self.token operation
  if token.isEmpty then
    return (false, { self with lastError := "Device authorization required" })
  let taken : Bool ← ask (.submit ⟨self.config.url operation, .of payload, token, self.config.accessId, self.config.accessSecret⟩)
  if !taken then
    return (false, self)
  let now : UInt32 ← ask .millis
  return (true, { self with operation, lastHttpsAttemptMs := now })

/-! ## Results -/

def withoutBatch : LiveUploadAsync := { self with batchRecords := [], batchPayload := [], batchId := [] }

/-- The time of a record that has been delivered. -/
def stamped (record : Bytes) : LiveUploadAsync :=
  match readers.stamp record with
  | none => self
  | some stamp =>
    { self with performance := { self.performance with
        lastSampleEpoch := QueueAge.epoch (some (stamp.member "timestamp").text) } }

def noted (now : UInt32) (result : HttpsExchange.Result) (accepted : Bool) : LiveUploadAsync :=
  { self with
    performance := { self.performance with
      requests := self.performance.requests + 1
      reused := if result.reused then self.performance.reused + 1 else self.performance.reused
      lastRequestMs := result.durationMs }
    lastHttpStatus := result.status
    completedMs := now
    lastPostRetryable := Logic.isRetryableHttpStatus result.status ||
      (decide (200 ≤ result.status) && decide (result.status < 300) && !accepted)
    backoff := !accepted
    httpsRecoveryPending := !accepted }

def finishBatch (now : UInt32) (result : HttpsExchange.Result) (accepted : Bool) : LiveUploadAsync :=
  let self := { self with
    uploadEvidence := self.uploadEvidence.record accepted now
    performance := { self.performance with
      batchRequests := self.performance.batchRequests + 1
      batchAccepted := if accepted then self.performance.batchAccepted + 1 else self.performance.batchAccepted } }
  if accepted then
    { self with
      performance := { self.performance with accepted := self.performance.accepted + .ofNat self.batchRecords.length }
      batchAcknowledged := true, batchAckIndex := 0 }
  else if UploadRecovery.payloadRejected (Int32.ofInt result.status) then
    -- The records are sent again one by one; none of them is removed.
    { self.withoutBatch with recovery := .batchRejected self.batchRecords.length, backoff := false }
  else if result.status = 404 ∨ result.status = 405 then
    { self.withoutBatch with
      batchEnabled := false, backoff := false, performance := { self.performance with batchEnabled := false } }
  else self

/-- The delivered record is removed while it is still the head. -/
def advance : Upload (Bool × LiveUploadAsync) := do
  if self.durableInFlight then
    let (popped, queue) ← onFlash (self.queue.popIfMatches self.inFlightPayload)
    return (popped, { self with queue })
  else if self.volatilePayload = self.inFlightPayload then
    return (true, { self with volatilePayload := [] })
  else
    return (false, self)

def acceptSnapshot : Upload LiveUploadAsync := do
  let self := { self with
    rejectionArchiveError := "", performance := { self.performance with accepted := self.performance.accepted + 1 } }
  let (advanced, self) ← (self.stamped readers self.inFlightPayload).advance
  let self := { self with recovery := self.recovery.recordResolved advanced }
  return if advanced then self
    else { self with lastError := "Queue acknowledgement persistence failed", backoff := true }

/-- Archived byte for byte before the queue may go on; the second answer says that it was. -/
def rejectSnapshot (status : Int) : Upload (LiveUploadAsync × Bool) := do
  let save (queue : StoreForwardQueue) : Upload (Bool × StoreForwardQueue) :=
    onFlash (queue.preserveRejected self.inFlightPayload (Int32.ofInt status))
  let advance (queue : StoreForwardQueue) : Upload (Bool × StoreForwardQueue) :=
    if !self.durableInFlight then return (true, queue) else onFlash (queue.popIfMatches self.inFlightPayload)
  let (resolution, recovery, queue) ← self.recovery.resolveRejected (Int32.ofInt status) true save advance self.queue
  let self := { self with recovery, queue }
  match resolution with
  | .Archived =>
    return ({ self with
      volatilePayload := if !self.durableInFlight ∧ self.volatilePayload = self.inFlightPayload then [] else self.volatilePayload
      backoff := false, rejectionArchiveError := "" }, true)
  | .AdvanceFailed =>
    return ({ self with rejectionArchiveError := "Rejected upload archived; queue acknowledgement failed" }, false)
  | .Retained | .ArchiveFailed => return ({ self with rejectionArchiveError := queue.lastError }, false)

def resolveSnapshot (result : HttpsExchange.Result) (accepted : Bool) : Upload (LiveUploadAsync × Bool) := do
  if accepted then
    return (← self.acceptSnapshot readers, false)
  else if result.permanentRejection then
    self.rejectSnapshot result.status
  else
    return (self, false)

def finishSnapshot (now : UInt32) (result : HttpsExchange.Result) (accepted : Bool) : Upload (LiveUploadAsync × Bool) := do
  let self := { self with uploadEvidence := self.uploadEvidence.record accepted now }
  let (self, archived) ← self.resolveSnapshot readers result accepted
  return ({ self with inFlightPayload := [] }, archived)

/-! ## Status requests -/

/-- What a managed rotation makes of the result of a status request. -/
def finishRotation (status : Int) (accepted : Bool) : Upload LiveUploadAsync := do
  match self.management.authorization, self.management.bearerRotation, self.operation with
  | false, some rotation, .RotationAck =>
    if accepted then
      let (marked, rotation) ← onStore rotation.markAcknowledged
      let self := { self with management := { self.management with bearerRotation := some rotation } }
      return if marked then { self with statusRequested := true }
        else { self with management := { self.management with managementError := rotation.lastError }, backoff := true }
    else if 400 ≤ status ∧ status < 500 ∧ !self.lastPostRetryable then
      let rotation ← onStore rotation.abandonCandidate
      return { self with
        management := { self.management with bearerRotation := some rotation }
        fallbackRequested := true, statusRequested := true }
    else
      return self
  | false, some rotation, .RotationProof =>
    if accepted then
      let (promoted, rotation) ← onStore rotation.promoteCandidate
      let self := { self with management := { self.management with bearerRotation := some rotation } }
      return if promoted then self
        else { self with management := { self.management with managementError := rotation.lastError }, backoff := true }
    else
      return { self with fallbackRequested := true, statusRequested := true }
  | _, _, _ => return self

/-- `snapshot_batch_v1` for eight records or more. -/
def batching (capabilities : Document) : Bool :=
  (capabilities.member "snapshot_batch_v1").bool? == some true &&
    (capabilities.member "max_snapshots").uint?.any fun snapshots => 8 ≤ snapshots

def credentialError : String := "Credential rotation rejected or storage unavailable"

/-- The rotation of a device whose settings are not managed remotely. -/
def consumeRotation (desired : Document) : Upload LiveUploadAsync := do
  if self.management.authorization || self.management.bearerRotation.isNone ||
      readers.library.asInt (desired.member "schema_version") != 1 ||
      (desired.member "device_id").text != self.management.deviceId then
    return self
  let (valid, management) ←
    onStore (self.management.parseCredentialRotation (desired.member "credential_rotation").object?)
  let self := { self with management }
  return if valid then self
    else { self with management := { management with managementError := credentialError } }

def consumeManagement (desired : Document) : Upload LiveUploadAsync := do
  let (consumed, management) ← onStore (self.management.consumeDesiredState readers.library (readers.serialize desired))
  let self := { self with management }
  return if consumed then self
    else { self with management := { management with
      diagnostics := { management.diagnostics with configRejected := some true }
      managementStatus := "rejected", managementError := "Invalid desired management state" } }

def consumeDesired (desired : Document) (members : Document.Object) : Upload LiveUploadAsync := do
  if self.management.authorization then
    let staged : Bool ← ask (.stageDesired members)
    if !staged then
      return { self with management := { self.management with managementError := credentialError } }
  if !self.remoteManagementEnabled then self.consumeRotation readers desired else self.consumeManagement readers desired

/-- The capability decides whether a batch that has not been acknowledged is kept. -/
def announced (document : Document) : LiveUploadAsync :=
  let batchEnabled := batching (document.member "ingest_capabilities")
  let self := { self with batchEnabled, performance := { self.performance with batchEnabled } }
  if !batchEnabled && !self.batchAcknowledged then self.withoutBatch else self

def consumeHttpsDesiredConfig (body : CText) : Upload LiveUploadAsync := do
  if body.bytes.isEmpty then return self
  match readers.library.deserialize 5120 body.bytes with
  | none => return self
  | some document =>
    let self := self.announced document
    match (document.member "desired_config").object? with
    | none => return self
    | some members => self.consumeDesired readers (document.member "desired_config") members

/-- What the attached authorization is told, or the fallback that follows a refused status. -/
def reportStatus (status : Int) (accepted : Bool) : Upload LiveUploadAsync := do
  if self.operation = .Fallback then
    if self.management.authorization then
      ask (.finishRotationFallback accepted)
    return { self with fallbackRequested := false }
  if !self.management.authorization then
    return self
  let rotates : Bool ← ask .hasRotation
  if !accepted && rotates && decide (400 ≤ status) && decide (status < 500) && !Logic.isRetryableHttpStatus status then
    return { self with fallbackRequested := true }
  ask (.statusResult accepted)
  return self

/-- A staged rotation goes on without a whole heartbeat interval. -/
def hurried : Upload LiveUploadAsync := do
  if self.management.authorization then
    let rotates : Bool ← ask .hasRotation
    return if rotates then { self with statusRequested := true } else self
  else
    return if self.management.bearerRotation.any AppBearerRotation.hasCandidate then { self with statusRequested := true }
      else self

def heartbeat (now : UInt32) (body : CText) : Upload LiveUploadAsync := do
  let self ← { self with
    lastStatusPublishMs := now, authenticatedHeartbeatObserved := true
    lastAuthenticatedHeartbeatMs := now }.consumeHttpsDesiredConfig readers body
  self.hurried

def finishStatus (now : UInt32) (result : HttpsExchange.Result) (accepted : Bool) : Upload LiveUploadAsync := do
  let self := { self with pacing := .statusCompleted now, statusRequested := false }
  let self ← self.finishRotation result.status accepted
  let self ← self.reportStatus result.status accepted
  if accepted then self.heartbeat readers now (.of result.body) else return self

/-! ## A turn -/

def replaying (pending : Nat) : String :=
  if pending = 0 then "" else "Replaying onboard queue: " ++ toString pending ++ " pending"

def concluded (result : HttpsExchange.Result) (accepted archived : Bool) : LiveUploadAsync :=
  let self := { self with httpsConnected := accepted }
  if archived then { self with lastError := "Rejected upload preserved in recovery archive" }
  else if !accepted then
    { self with lastError := "HTTPS request failed (" ++ toString result.status ++ "); queued data retained" }
  else if !self.backoff then { self with lastError := replaying self.queue.pendingRecords }
  else self

def acceptedResult (result : HttpsExchange.Result) : Bool :=
  if self.operation = .Batch then
    BatchAcknowledgement.accepted readers result.status (.of result.body) self.batchId self.batchRecords.length
  else UploadEvidence.acceptedResponse readers result.status (.of result.body)

/-- The second answer says whether a rejected snapshot has been archived. -/
def finish (now : UInt32) (result : HttpsExchange.Result) (accepted : Bool) : Upload (LiveUploadAsync × Bool) := do
  match self.operation with
  | .Batch => return (self.finishBatch now result accepted, false)
  | .Snapshot => self.finishSnapshot readers now result accepted
  | _ => return (← self.finishStatus readers now result accepted, false)

def complete (now : UInt32) (result : HttpsExchange.Result) : Upload LiveUploadAsync := do
  let accepted := self.acceptedResult readers result
  let (self, archived) ← (self.noted now result accepted).finish readers now result accepted
  let self := self.concluded result accepted archived
  ask .release
  { self with operation := .None }.refreshQueueOldest readers

/-- One record of an acknowledged batch in each turn. -/
def acknowledgeRecord (record : Bytes) : Upload LiveUploadAsync := do
  let (popped, queue) ← onFlash (self.queue.popIfMatches record)
  let self := { self with queue }
  return if popped then { self.stamped readers record with batchAckIndex := self.batchAckIndex + 1 }
    else { self with lastError := "Batch queue acknowledgement persistence failed" }

def statusOperation : Operation :=
  if self.fallbackRequested then .Fallback
  else
    match self.management.authorization, self.management.bearerRotation with
    | false, some rotation =>
      if !rotation.hasCandidate then .Status
      else if rotation.phase = .staged then .RotationAck else .RotationProof
    | _, _ => .Status

def submitStatus : Upload LiveUploadAsync := do
  if self.fallbackRequested && self.management.authorization then
    ask .beginRotationFallback
  let payload : Bytes ← ask .statusJson
  let (taken, self) ← self.submitHttps self.statusOperation payload
  if !taken && self.fallbackRequested && self.management.authorization then
    ask (.finishRotationFallback false)
  return self

def nextBatchId : Upload Bytes := do
  let first : UInt32 ← ask .random
  let second : UInt32 ← ask .random
  let third : UInt32 ← ask .random
  let fourth : UInt32 ← ask .random
  return hexWord first ++ hexWord second ++ hexWord third ++ hexWord fourth

/-- A new batch of two records or more, unless the envelope is too long. -/
def prepareBatch : Upload LiveUploadAsync := do
  let batch ← onFlash (self.queue.peekBatch 8 (HttpsExchange.kBodyLimit - 256))
  let self := { self with queue := batch.queue, batchRecords := batch.payloads }
  if !batch.found || batch.payloads.length ≤ 1 then
    return self
  let batchId ← nextBatchId
  let self := { self with batchId, batchPayload := envelope self.management.deviceId batchId self.batchRecords }
  if self.batchPayload.length ≤ HttpsExchange.kBodyLimit then
    return self
  else
    return { self with lastError := "Batch exceeds bounded request size", batchPayload := [], batchRecords := [] }

/-- The oldest record of the queue, or the volatile one where nothing is queued. -/
def oldestPayload : Upload (Bool × LiveUploadAsync) := do
  if 0 < self.queue.pendingRecords then
    let peeked ← onFlash self.queue.peek
    return (peeked.found, { self with
      durableInFlight := true, queue := peeked.queue, inFlightPayload := peeked.payload })
  else
    return (true, { self with durableInFlight := false, inFlightPayload := self.volatilePayload })

def submitSingle : Upload LiveUploadAsync := do
  let (found, self) ← self.oldestPayload
  if !found then
    return { self with lastError := self.queue.lastError }
  let (taken, self) ← self.submitHttps .Snapshot self.inFlightPayload
  return if taken then self else { self with inFlightPayload := [] }

def submitBatch : Upload LiveUploadAsync := do
  let (_, self) ← self.submitHttps .Batch self.batchPayload
  return self

def submitSnapshot : Upload LiveUploadAsync := do
  if !self.batchPayload.isEmpty then
    self.submitBatch
  else if self.batchEnabled && self.recovery.allowBatch && decide (1 < self.queue.pendingRecords) then
    let self ← self.prepareBatch
    if !self.batchPayload.isEmpty then self.submitBatch else self.submitSingle
  else
    self.submitSingle

/-- A pairing code lives for ten minutes. -/
def repaired (now : UInt32) : LiveUploadAsync :=
  if self.remoteManagementEnabled && decide (600000 ≤ now - self.pairingCodeGeneratedMs) then
    { self with pairingCodeGeneratedMs := now, statusRequested := true }
  else self

def restarting : Upload Bool := if self.management.authorization then ask .restartRequired else return false

def dispatch (now : UInt32) : Upload LiveUploadAsync := do
  if ← self.restarting then
    return self
  let connected : Bool ← ask .connected
  if !connected then
    return { self with httpsConnected := false, httpsRecoveryPending := true, lastError := "Wi-Fi disconnected" }
  let self := self.repaired now
  let idle : Bool ← ask .idle
  let connected : Bool ← ask .connected
  let hasSnapshot := decide (0 < self.queue.pendingRecords) || !self.volatilePayload.isEmpty
  match self.pacing.next now (!idle) connected self.backoff self.completedMs
    self.config.reconnectIntervalMs.toUInt32 (self.statusRequested || self.fallbackRequested) hasSnapshot with
  | .Wait => return self
  | .Status => self.submitStatus
  | .Snapshot => self.submitSnapshot

/-- The acknowledgement of a batch holds back all other work. -/
def proceed (now : UInt32) : Upload LiveUploadAsync := do
  if self.batchAcknowledged then
    match self.batchRecords[self.batchAckIndex]? with
    | some record => self.acknowledgeRecord readers record
    | none =>
      let self ← { self.withoutBatch with batchAcknowledged := false }.refreshQueueOldest readers
      self.dispatch now
  else
    self.dispatch now

def serviceHttps (now : UInt32) : Upload LiveUploadAsync := do
  if !self.workerReady then
    return self
  let result : Option HttpsExchange.Result ← ask .result
  match result with
  | none => self.proceed readers now
  | some result =>
    let self ← self.complete readers now result
    self.proceed readers now

def loop : Upload LiveUploadAsync := do
  if !self.enabled then
    return self
  let now : UInt32 ← ask .millis
  self.serviceHttps readers now

end Source

end LiveUploadAsync

end ApexiDevices
