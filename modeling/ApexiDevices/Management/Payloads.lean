import ApexiDevices.Management.Identity
import ApexiDevices.Queue.Model
import ApexiDevices.Shared.JsonTree

set_option autoImplicit false

/-!
# The payloads of the uploader

Status and snapshots are put together by hand, with every text escaped.
-/

namespace ApexiDevices

open Device JsonTree

namespace LiveUpload

def escapeByte (byte : UInt8) : Bytes :=
  if byte = 0x5c then ascii "\\\\"
  else if byte = 0x22 then ascii "\\\""
  else if byte = 0x0a then ascii "\\n"
  else if byte = 0x0d then ascii "\\r"
  else if byte = 0x09 then ascii "\\t"
  else [byte]

def jsonEscape (value : Bytes) : Bytes := value.flatMap escapeByte

/-- What the checks of remote and provisioned texts let through, and three controls more. -/
def Escapable (value : Bytes) : Prop := ∀ byte ∈ value, 0x20 ≤ byte ∨ byte = 0x0a ∨ byte = 0x0d ∨ byte = 0x09

instance (value : Bytes) : Decidable (Escapable value) := inferInstanceAs (Decidable (∀ byte ∈ value, 0x20 ≤ byte ∨ byte = 0x0a ∨ byte = 0x0d ∨ byte = 0x09))

theorem escapeByte_escapes {byte : UInt8} (admitted : 0x20 ≤ byte ∨ byte = 0x0a ∨ byte = 0x0d ∨ byte = 0x09) :
    Escapes (escapeByte byte) [byte] := by
  unfold escapeByte
  split
  next backslash => exact backslash ▸ escapes_letter rfl
  next backslash =>
  split
  next quote => exact quote ▸ escapes_letter rfl
  next quote =>
  split
  next feed => exact feed ▸ escapes_letter rfl
  next feed =>
  split
  next carriage => exact carriage ▸ escapes_letter rfl
  next carriage =>
  split
  next tab => exact tab ▸ escapes_letter rfl
  next tab =>
    apply escapes_plain
    simp only [feed, carriage, tab, or_false] at admitted
    simp [plain, admitted, quote, backslash]

theorem jsonEscape_literal {value : Bytes} (admitted : Escapable value) : Literal (jsonEscape value) value := by
  have whole : Escapes (value.flatMap escapeByte) (value.flatMap fun byte => [byte]) :=
    .flatMap fun byte member => escapeByte_escapes (admitted byte member)
  rw [List.flatMap_singleton'] at whole
  exact whole.literal

structure SystemDiagnostics extends StatusDiagnostics where
  attempted : Bool := false
  reconnects : UInt32 := 0
  reboots : Option UInt32 := none
  clockFault : Option Bool := none

def flag (value : Bool) : Bytes := ascii (if value then "true" else "false")

namespace SystemDiagnostics

def add (result : Bytes) (key : String) (value : Bytes) : Bytes :=
  (if result.length > 1 then result ++ ascii "," else result) ++ ascii "\"" ++ ascii key ++ ascii "\":" ++ value

def reported (diagnostics : SystemDiagnostics) (queueAvailable : Bool) (pending dropped : Nat) (dropsKnown : Bool) :
    List (String × Bytes) :=
  (if queueAvailable then
    ("store_forward_pending_records", decimal pending) ::
      if dropsKnown then [("store_forward_dropped_records", decimal dropped)] else []
    else []) ++
  (diagnostics.clockFault.toList.map fun fault => ("clock_fault", flag fault)) ++
  (diagnostics.configStale.toList.map fun stale => ("config_stale", flag stale)) ++
  (diagnostics.configRejected.toList.map fun rejected => ("config_rejected", flag rejected)) ++
  (if diagnostics.attempted then [("reconnects_total", decimal diagnostics.reconnects.toNat)] else []) ++
  (diagnostics.reboots.toList.map fun reboots => ("reboots_total", decimal reboots.toNat))

def json (diagnostics : SystemDiagnostics) (queueAvailable : Bool) (pending dropped : Nat) (dropsKnown : Bool) :
    Bytes :=
  (diagnostics.reported queueAvailable pending dropped dropsKnown).foldl
    (fun result entry => add result entry.1 entry.2) (ascii "\x7b") ++ ascii "\x7d"

end SystemDiagnostics

structure Reported where
  deviceId : CText := .empty
  sessionId : CText := .empty
  enabled : Bool := false
  protocol : AppConfig.Protocol := .mqtt
  diagnostics : SystemDiagnostics := {}
  storeForwardQueue : StoreForwardQueue := {}
  remoteManagementEnabled : Bool := false
  authorization : Option LoggerAuthorization := none
  bearerRotation : Option AppBearerRotation := none
  pairingCode : CText := .empty
  pairingCodeGeneratedMs : UInt32 := 0
  appliedConfigVersion : UInt32 := 0
  managementStatus : CText := .literal "ready"
  managementError : CText := .empty
  friendlyName : CText := .empty
  hardwareRevision : CText := .empty
  provisionedAt : CText := .empty
  reportedUploadEnabled : Bool := false
  reportedNtpPrimary : CText := .empty
  reportedNtpSecondary : CText := .empty
  reportedTimeZoneRule : CText := .empty
  reportedTimeZoneLabel : CText := .empty
  assignment : Assignment := {}

def kLivePayloadSchemaVersion : Nat := 1
def kPairingCodeRefreshMs : UInt32 := 600000

/-- A member whose text is escaped, as the source puts it together. -/
def escapedMember (name : String) (value : CText) : Bytes :=
  ascii "\"" ++ ascii name ++ ascii "\":\"" ++ jsonEscape value.bytes ++ ascii "\""

def plainMember (name : String) (value : Bytes) : Bytes := ascii "\"" ++ ascii name ++ ascii "\":" ++ value

/-- A text of `String` in the target's encoding. -/
def utf8 (text : String) : Bytes := text.toList.flatMap String.utf8EncodeChar

namespace Reported

variable (self : Reported)

def protocolName : Bytes :=
  if self.enabled then (match self.protocol with | .https => ascii "https" | .mqtt => ascii "mqtt") else []

def pairingCodeExpiresInSeconds (nowMs : UInt32) : UInt32 :=
  if !self.remoteManagementEnabled || self.pairingCode.bytes.isEmpty then 0
  else
    let elapsedMs := nowMs - self.pairingCodeGeneratedMs
    if kPairingCodeRefreshMs ≤ elapsedMs then 0 else (kPairingCodeRefreshMs - elapsedMs + 999) / 1000

/-- The acknowledgement of a rotation, behind its comma. -/
def acknowledgement : Bytes :=
  match self.authorization, self.bearerRotation with
  | some authorization, _ =>
    let ack := utf8 authorization.rotationAcknowledgement
    if ack.isEmpty then [] else ascii ",\"credential_rotation_ack\":" ++ ack
  | none, some rotation =>
    if rotation.hasAppliedAcknowledgement then
      ascii ",\"credential_rotation_ack\":\x7b\"version\":" ++ decimal rotation.version.toNat ++
        ascii ",\"nonce\":\"" ++ jsonEscape (ascii rotation.nonce) ++ ascii "\",\"state\":\"applied\"\x7d"
    else []
  | none, none => []

def settings : Bytes :=
  ascii "\"settings\":\x7b" ++ plainMember "upload_enabled" (flag self.reportedUploadEnabled) ++ ascii "," ++
    escapedMember "ntp_primary" self.reportedNtpPrimary ++ ascii "," ++
    escapedMember "ntp_secondary" self.reportedNtpSecondary ++ ascii "," ++
    escapedMember "tz_rule" self.reportedTimeZoneRule ++ ascii "," ++
    escapedMember "tz_label" self.reportedTimeZoneLabel ++ ascii "\x7d"

def assigned : Bytes :=
  ascii ",\"assignment\":\x7b" ++ escapedMember "target_session_id" self.assignment.targetSessionId ++ ascii "," ++
    escapedMember "planned_session_name" self.assignment.plannedSessionName ++ ascii "," ++
    escapedMember "status" self.assignment.status ++ ascii "," ++
    escapedMember "role" self.assignment.role ++ ascii "," ++
    escapedMember "expires_at" self.assignment.expiresAt ++ ascii "," ++
    escapedMember "source_session_id" self.assignment.sourceSessionId ++ ascii "," ++
    escapedMember "recording_session_id" self.assignment.recordingSessionId ++ ascii "\x7d"

def metadata (firmwareVersion : CText) : Bytes :=
  escapedMember "status" self.managementStatus ++ ascii "," ++
    escapedMember "error" self.managementError ++ ascii "," ++
    escapedMember "firmware_version" firmwareVersion ++ ascii "," ++
    escapedMember "friendly_name" self.friendlyName ++ ascii "," ++
    escapedMember "hardware_revision" self.hardwareRevision ++ ascii "," ++
    escapedMember "provisioned_at" self.provisionedAt ++ ascii ","

def managed (firmwareVersion : CText) (nowMs : UInt32) : Bytes :=
  ascii "," ++ escapedMember "pairing_code" self.pairingCode ++ ascii "," ++
    plainMember "pairing_expires_in_s" (decimal (self.pairingCodeExpiresInSeconds nowMs).toNat) ++ ascii "," ++
    plainMember "config_version" (decimal self.appliedConfigVersion.toNat) ++ ascii "," ++
    self.metadata firmwareVersion ++ self.settings ++ self.assigned

def management (firmwareVersion : CText) (nowMs : UInt32) : Bytes :=
  if self.remoteManagementEnabled || self.authorization.isSome || self.bearerRotation.isSome then
    ascii ",\"management\":\x7b" ++ plainMember "enabled" (flag self.remoteManagementEnabled) ++
      self.acknowledgement ++ (if self.remoteManagementEnabled then self.managed firmwareVersion nowMs else []) ++
      ascii "\x7d"
  else []

def system : Bytes :=
  self.diagnostics.json (self.storeForwardQueue.enabled && self.storeForwardQueue.ready)
    self.storeForwardQueue.pendingRecords self.storeForwardQueue.metadata.droppedRecords
    self.storeForwardQueue.droppedRecordsKnown

/-- `APEXI_FIRMWARE_VERSION` and `millis()` come from outside. -/
def buildStatusJson (firmwareVersion : CText) (nowMs : UInt32) (connected : Bool) : Bytes :=
  ascii "\x7b" ++ plainMember "schema_version" (decimal kLivePayloadSchemaVersion) ++ ascii "," ++
    escapedMember "device_id" self.deviceId ++ ascii "," ++ escapedMember "session_id" self.sessionId ++ ascii "," ++
    plainMember "protocol" (ascii "\"" ++ self.protocolName ++ ascii "\"") ++ ascii "," ++
    plainMember "connected" (flag connected) ++ ascii ",\"system\":" ++ self.system ++
    self.management firmwareVersion nowMs ++ ascii "\x7d"

end Reported

structure SensorSnapshot where
  id : CText
  name : CText
  units : CText
  -- floats, as their bits
  filteredValue : UInt32
  loopCurrentmA : UInt32
  activeFault : SensorFault

structure SystemStatus where
  adcReady : Bool
  rtcReady : Bool
  sdReady : Bool
  wifiReady : Bool

structure AppState where
  transportTimestamp : CText
  uptimeMs : UInt32
  sensors : List SensorSnapshot
  system : SystemStatus

/-- `decimals value` is `String(value, 3)`. -/
def sensorJson (decimals : UInt32 → Bytes) (sensor : SensorSnapshot) : Bytes :=
  ascii "\x7b" ++ escapedMember "id" sensor.id ++ ascii "," ++ escapedMember "name" sensor.name ++ ascii "," ++
    plainMember "value" (decimals sensor.filteredValue) ++ ascii "," ++ escapedMember "units" sensor.units ++
    ascii "," ++ plainMember "loop_mA" (decimals sensor.loopCurrentmA) ++ ascii "," ++
    ascii "\"fault\":\"" ++ jsonEscape (sensorFaultToString sensor.activeFault) ++ ascii "\"" ++ ascii "\x7d"

-- The sensors with a comma before every one but the first.
def sensorsJson (decimals : UInt32 → Bytes) : List SensorSnapshot → Bytes
  | [] => []
  | first :: rest => sensorJson decimals first ++ rest.flatMap fun sensor => ascii "," ++ sensorJson decimals sensor

def SystemStatus.json (system : SystemStatus) : Bytes :=
  ascii "\x7b" ++ plainMember "adc_ready" (flag system.adcReady) ++ ascii "," ++
    plainMember "rtc_ready" (flag system.rtcReady) ++ ascii "," ++ plainMember "sd_ready" (flag system.sdReady) ++
    ascii "," ++ plainMember "wifi_ready" (flag system.wifiReady) ++ ascii "\x7d"

def buildSnapshotJson (deviceId sessionId : CText) (decimals : UInt32 → Bytes) (state : AppState)
    (sequence : UInt32) : Bytes :=
  ascii "\x7b" ++ plainMember "schema_version" (decimal kLivePayloadSchemaVersion) ++ ascii "," ++
    escapedMember "device_id" deviceId ++ ascii "," ++ escapedMember "session_id" sessionId ++ ascii "," ++
    plainMember "sequence" (decimal sequence.toNat) ++ ascii "," ++
    escapedMember "timestamp" state.transportTimestamp ++ ascii "," ++
    plainMember "uptime_ms" (decimal state.uptimeMs.toNat) ++ ascii ",\"sensors\":[" ++
    sensorsJson decimals state.sensors ++ ascii "],\"system\":" ++ state.system.json ++ ascii "\x7d"

end LiveUpload

end ApexiDevices
