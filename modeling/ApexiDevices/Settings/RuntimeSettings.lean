import ApexiDevices.Queue.Format
import ApexiDevices.Shared.Codec

set_option autoImplicit false

/-!
# Settings in the EEPROM

One record at address 0, in five formats over time. `begin` carries an older
record over to the current format, with defaults for what it does not store.
-/

namespace ApexiDevices

open Device

namespace AppConfig

inductive Protocol
  | mqtt
  | https
  deriving DecidableEq

def Protocol.byte : Protocol → UInt8
  | .mqtt => 0
  | .https => 1

structure UploadConfig where
  protocol : Protocol := .mqtt
  deviceId : CText := .empty
  mqttHost : CText := .empty
  mqttPort : UInt16 := 0
  mqttUsername : CText := .empty
  mqttPassword : CText := .empty
  topicPrefix : CText := .empty
  publishIntervalMs : UInt32 := 0
  reconnectIntervalMs : UInt16 := 0
  httpsPath : CText := .empty
  cloudflareAccessClientId : CText := .empty
  cloudflareAccessClientSecret : CText := .empty
  appDeviceToken : CText := .empty
  deriving DecidableEq

end AppConfig

/-- The EEPROM: what is in flash, and the copy in memory that a commit writes back. -/
structure Eeprom where
  flash : Bytes
  cells : Bytes
  commits : Bool := true

namespace Eeprom

def «begin» (eeprom : Eeprom) : Eeprom := { eeprom with cells := eeprom.flash }

def put {A : Type} (eeprom : Eeprom) (codec : Codec A) (value : A) : Eeprom :=
  { eeprom with cells := codec.encode value ++ eeprom.cells.drop codec.width }

def commit (eeprom : Eeprom) : Bool × Eeprom :=
  (eeprom.commits, if eeprom.commits then { eeprom with flash := eeprom.cells } else eeprom)

end Eeprom

structure RemoteConfig where
  version : UInt32 := 0
  hasUploadEnabled : Bool := false
  uploadEnabled : Bool := false
  ntpPrimary : CText := .empty
  ntpSecondary : CText := .empty
  timeZoneRule : CText := .empty
  timeZoneLabel : CText := .empty
  deriving DecidableEq

namespace RuntimeSettings

def kMagic : UInt32 := 0x4D444131
def kVersion : UInt16 := 5
def kHostCapacity : Nat := 64
def kNtpCapacity : Nat := 64
def kTimeZoneRuleCapacity : Nat := 64
def kTimeZoneLabelCapacity : Nat := 32
def kCloudflareCredentialCapacity : Nat := 128

structure Head where
  magic : UInt32
  version : UInt16
  size : UInt16

structure Times where
  ntpPrimary : Chars kNtpCapacity
  ntpSecondary : Chars kNtpCapacity
  timeZoneRule : Chars kTimeZoneRuleCapacity
  timeZoneLabel : Chars kTimeZoneLabelCapacity

def Head.codec : Codec Head :=
  .fields (.pair .uint32 (.pair .uint16 .uint16)) (fun (magic, version, size) => ⟨magic, version, size⟩)
    (fun head => (head.magic, head.version, head.size)) fun _ => rfl

def Times.codec : Codec Times :=
  .fields (.pair (Chars.codec _) (.pair (Chars.codec _) (.pair (Chars.codec _) (Chars.codec _))))
    (fun (primary, secondary, rule, label) => ⟨primary, secondary, rule, label⟩)
    (fun times => (times.ntpPrimary, times.ntpSecondary, times.timeZoneRule, times.timeZoneLabel)) fun _ => rfl

def Head.describes (head : Head) (version : UInt16) (size : Nat) : Bool :=
  head.magic == kMagic && head.version == version && head.size.toNat == size

def Times.holdTexts (times : Times) : Bool :=
  times.ntpPrimary.holdsText && times.ntpSecondary.holdsText && times.timeZoneRule.holdsText &&
    times.timeZoneLabel.holdsText

structure LegacyRecord where
  head : Head
  uploadEnabled : UInt8
  reserved : UInt8
  mqttPort : UInt16
  mqttHost : Chars kHostCapacity
  checksum : UInt32

namespace LegacyRecord

def body : Codec (Head × UInt8 × UInt8 × UInt16 × Chars kHostCapacity) :=
  .pair Head.codec (.pair .uint8 (.pair .uint8 (.pair .uint16 (Chars.codec _))))

def fields (record : LegacyRecord) : Head × UInt8 × UInt8 × UInt16 × Chars kHostCapacity :=
  (record.head, record.uploadEnabled, record.reserved, record.mqttPort, record.mqttHost)

def codec : Codec LegacyRecord :=
  .fields (.pair body .uint32)
    (fun ((head, uploadEnabled, reserved, mqttPort, mqttHost), checksum) =>
      ⟨head, uploadEnabled, reserved, mqttPort, mqttHost, checksum⟩)
    (fun record => (record.fields, record.checksum)) fun _ => rfl

def sum (record : LegacyRecord) : UInt32 := ApexiDevices.checksum (body.encode record.fields)

def valid (record : LegacyRecord) : Bool :=
  record.head.describes 1 codec.width && record.mqttPort != 0 && record.mqttHost.holdsText &&
    record.checksum == record.sum

end LegacyRecord

structure Version2Record where
  head : Head
  uploadEnabled : UInt8
  reserved : UInt8
  mqttPort : UInt16
  mqttHost : Chars kHostCapacity
  times : Times
  checksum : UInt32

namespace Version2Record

def body : Codec (Head × UInt8 × UInt8 × UInt16 × Chars kHostCapacity × Times) :=
  .pair Head.codec (.pair .uint8 (.pair .uint8 (.pair .uint16 (.pair (Chars.codec _) Times.codec))))

def fields (record : Version2Record) : Head × UInt8 × UInt8 × UInt16 × Chars kHostCapacity × Times :=
  (record.head, record.uploadEnabled, record.reserved, record.mqttPort, record.mqttHost, record.times)

def codec : Codec Version2Record :=
  .fields (.pair body .uint32)
    (fun ((head, uploadEnabled, reserved, mqttPort, mqttHost, times), checksum) =>
      ⟨head, uploadEnabled, reserved, mqttPort, mqttHost, times, checksum⟩)
    (fun record => (record.fields, record.checksum)) fun _ => rfl

def sum (record : Version2Record) : UInt32 := ApexiDevices.checksum (body.encode record.fields)

def valid (record : Version2Record) : Bool :=
  record.head.describes 2 codec.width && record.mqttPort != 0 && record.mqttHost.holdsText &&
    record.times.holdTexts && record.checksum == record.sum

end Version2Record

structure Version3Record where
  head : Head
  uploadEnabled : UInt8
  remoteManagementEnabled : UInt8
  mqttPort : UInt16
  appliedConfigVersion : UInt32
  mqttHost : Chars kHostCapacity
  times : Times
  checksum : UInt32

namespace Version3Record

def body : Codec (Head × UInt8 × UInt8 × UInt16 × UInt32 × Chars kHostCapacity × Times) :=
  .pair Head.codec (.pair .uint8 (.pair .uint8 (.pair .uint16 (.pair .uint32 (.pair (Chars.codec _) Times.codec)))))

def fields (record : Version3Record) : Head × UInt8 × UInt8 × UInt16 × UInt32 × Chars kHostCapacity × Times :=
  (record.head, record.uploadEnabled, record.remoteManagementEnabled, record.mqttPort, record.appliedConfigVersion,
    record.mqttHost, record.times)

def codec : Codec Version3Record :=
  .fields (.pair body .uint32)
    (fun ((head, uploadEnabled, remote, mqttPort, applied, mqttHost, times), checksum) =>
      ⟨head, uploadEnabled, remote, mqttPort, applied, mqttHost, times, checksum⟩)
    (fun record => (record.fields, record.checksum)) fun _ => rfl

def sum (record : Version3Record) : UInt32 := ApexiDevices.checksum (body.encode record.fields)

def valid (record : Version3Record) : Bool :=
  record.head.describes 3 codec.width && record.mqttPort != 0 && record.mqttHost.holdsText &&
    record.times.holdTexts && record.checksum == record.sum

end Version3Record

structure Version4Record where
  head : Head
  uploadEnabled : UInt8
  remoteManagementEnabled : UInt8
  uploadProtocol : UInt8
  reserved : UInt8
  mqttPort : UInt16
  padding : UInt16
  appliedConfigVersion : UInt32
  mqttHost : Chars kHostCapacity
  times : Times
  checksum : UInt32

namespace Version4Record

def body :
    Codec (Head × UInt8 × UInt8 × UInt8 × UInt8 × UInt16 × UInt16 × UInt32 × Chars kHostCapacity × Times) :=
  .pair Head.codec (.pair .uint8 (.pair .uint8 (.pair .uint8 (.pair .uint8 (.pair .uint16 (.pair .uint16
    (.pair .uint32 (.pair (Chars.codec _) Times.codec))))))))

def fields (record : Version4Record) :
    Head × UInt8 × UInt8 × UInt8 × UInt8 × UInt16 × UInt16 × UInt32 × Chars kHostCapacity × Times :=
  (record.head, record.uploadEnabled, record.remoteManagementEnabled, record.uploadProtocol, record.reserved,
    record.mqttPort, record.padding, record.appliedConfigVersion, record.mqttHost, record.times)

def codec : Codec Version4Record :=
  .fields (.pair body .uint32)
    (fun ((head, uploadEnabled, remote, protocol, reserved, mqttPort, padding, applied, mqttHost, times), checksum) =>
      ⟨head, uploadEnabled, remote, protocol, reserved, mqttPort, padding, applied, mqttHost, times, checksum⟩)
    (fun record => (record.fields, record.checksum)) fun _ => rfl

def sum (record : Version4Record) : UInt32 := ApexiDevices.checksum (body.encode record.fields)

def valid (record : Version4Record) : Bool :=
  record.head.describes 4 codec.width && record.mqttPort != 0 &&
    record.uploadProtocol ≤ AppConfig.Protocol.https.byte && record.mqttHost.holdsText &&
    record.times.holdTexts && record.checksum == record.sum

end Version4Record

structure Record where
  head : Head
  uploadEnabled : UInt8
  remoteManagementEnabled : UInt8
  uploadProtocol : UInt8
  reserved : UInt8 := 0
  mqttPort : UInt16
  padding : UInt16 := 0
  appliedConfigVersion : UInt32
  mqttHost : Chars kHostCapacity
  times : Times
  cloudflareAccessClientId : Chars kCloudflareCredentialCapacity
  cloudflareAccessClientSecret : Chars kCloudflareCredentialCapacity
  checksum : UInt32 := 0

namespace Record

def body :
    Codec (Head × UInt8 × UInt8 × UInt8 × UInt8 × UInt16 × UInt16 × UInt32 × Chars kHostCapacity × Times ×
      Chars kCloudflareCredentialCapacity × Chars kCloudflareCredentialCapacity) :=
  .pair Head.codec (.pair .uint8 (.pair .uint8 (.pair .uint8 (.pair .uint8 (.pair .uint16 (.pair .uint16
    (.pair .uint32 (.pair (Chars.codec _) (.pair Times.codec (.pair (Chars.codec _) (Chars.codec _)))))))))))

def fields (record : Record) :
    Head × UInt8 × UInt8 × UInt8 × UInt8 × UInt16 × UInt16 × UInt32 × Chars kHostCapacity × Times ×
      Chars kCloudflareCredentialCapacity × Chars kCloudflareCredentialCapacity :=
  (record.head, record.uploadEnabled, record.remoteManagementEnabled, record.uploadProtocol, record.reserved,
    record.mqttPort, record.padding, record.appliedConfigVersion, record.mqttHost, record.times,
    record.cloudflareAccessClientId, record.cloudflareAccessClientSecret)

def codec : Codec Record :=
  .fields (.pair body .uint32)
    (fun ((head, uploadEnabled, remote, protocol, reserved, mqttPort, padding, applied, mqttHost, times, clientId,
        clientSecret), checksum) =>
      ⟨head, uploadEnabled, remote, protocol, reserved, mqttPort, padding, applied, mqttHost, times, clientId,
        clientSecret, checksum⟩)
    (fun record => (record.fields, record.checksum)) fun _ => rfl

def sum (record : Record) : UInt32 := ApexiDevices.checksum (body.encode record.fields)

def valid (record : Record) : Bool :=
  record.head.describes kVersion codec.width && record.mqttPort != 0 &&
    record.uploadProtocol ≤ AppConfig.Protocol.https.byte && record.mqttHost.holdsText &&
    record.times.holdTexts && record.cloudflareAccessClientId.bytes.getLastD 0 == 0 &&
    record.cloudflareAccessClientSecret.bytes.getLastD 0 == 0 && record.checksum == record.sum

end Record

end RuntimeSettings

/-- A member buffer, as `apply` leaves it: a text, and NUL up to the end. -/
structure Buffer (capacity : Nat) where
  text : CText
  fits : text.bytes.length ≤ capacity - 1

namespace Buffer

def empty (capacity : Nat) : Buffer capacity := ⟨.empty, Nat.zero_le _⟩

def copy (capacity : Nat) (source : CText) : Buffer capacity := ⟨source.clipped capacity, source.clipped_length _⟩

end Buffer

open RuntimeSettings in
structure RuntimeSettings where
  defaults : AppConfig.UploadConfig := {}
  mqttPort : UInt16 := 0
  mqttHost : Buffer kHostCapacity := .empty _
  ntpPrimary : Buffer kNtpCapacity := .empty _
  ntpSecondary : Buffer kNtpCapacity := .empty _
  timeZoneRule : Buffer kTimeZoneRuleCapacity := .empty _
  timeZoneLabel : Buffer kTimeZoneLabelCapacity := .empty _
  cloudflareAccessClientId : Buffer kCloudflareCredentialCapacity := .empty _
  cloudflareAccessClientSecret : Buffer kCloudflareCredentialCapacity := .empty _
  uploadEnabled : Bool := false
  remoteManagementEnabled : Bool := false
  appliedConfigVersion : UInt32 := 0

namespace RuntimeSettings

/-- The pointers of the upload configuration are those of the member buffers. -/
def uploadConfig (settings : RuntimeSettings) : AppConfig.UploadConfig :=
  { settings.defaults with
    mqttHost := settings.mqttHost.text
    mqttPort := settings.mqttPort
    cloudflareAccessClientId := settings.cloudflareAccessClientId.text
    cloudflareAccessClientSecret := settings.cloudflareAccessClientSecret.text }

def Record.sealed (record : Record) : Record := { record with checksum := record.sum }

def head (version : UInt16) (size : Nat) : Head := ⟨kMagic, version, UInt16.ofNat size⟩

def flag (value : Bool) : UInt8 := if value then 1 else 0

def populateDefaults (defaults : AppConfig.UploadConfig)
    (defaultUploadEnabled defaultRemoteManagementEnabled : Bool) : Record where
  head := head kVersion Record.codec.width
  uploadEnabled := flag defaultUploadEnabled
  remoteManagementEnabled := flag defaultRemoteManagementEnabled
  uploadProtocol := defaults.protocol.byte
  mqttPort := defaults.mqttPort
  appliedConfigVersion := 0
  mqttHost := .copy _ defaults.mqttHost
  times.ntpPrimary := .copy _ (.literal "pool.ntp.org")
  times.ntpSecondary := .copy _ (.literal "time.google.com")
  times.timeZoneRule := .copy _ (.literal "AWST-8")
  times.timeZoneLabel := .copy _ (.literal "AWST")
  cloudflareAccessClientId := .copy _ defaults.cloudflareAccessClientId
  cloudflareAccessClientSecret := .copy _ defaults.cloudflareAccessClientSecret

def Times.copied (times : Times) : Times where
  ntpPrimary := .copy _ times.ntpPrimary.text
  ntpSecondary := .copy _ times.ntpSecondary.text
  timeZoneRule := .copy _ times.timeZoneRule.text
  timeZoneLabel := .copy _ times.timeZoneLabel.text

def Version4Record.carry (version4 : Version4Record) (record : Record) : Record :=
  { record with
    uploadEnabled := version4.uploadEnabled
    remoteManagementEnabled := version4.remoteManagementEnabled
    uploadProtocol := version4.uploadProtocol
    mqttPort := version4.mqttPort
    appliedConfigVersion := version4.appliedConfigVersion
    mqttHost := .copy _ version4.mqttHost.text
    times := version4.times.copied }

def Version3Record.carry (version3 : Version3Record) (protocol : AppConfig.Protocol) (record : Record) : Record :=
  let record :=
    { record with
      uploadEnabled := version3.uploadEnabled
      remoteManagementEnabled := version3.remoteManagementEnabled
      appliedConfigVersion := version3.appliedConfigVersion
      times := version3.times.copied }
  if protocol = .mqtt then
    { record with mqttPort := version3.mqttPort, mqttHost := .copy _ version3.mqttHost.text }
  else record

def Version2Record.carry (version2 : Version2Record) (record : Record) : Record :=
  { record with
    uploadEnabled := version2.uploadEnabled
    mqttPort := version2.mqttPort
    mqttHost := .copy _ version2.mqttHost.text
    times := version2.times.copied }

def LegacyRecord.carry (legacy : LegacyRecord) (record : Record) : Record :=
  { record with
    uploadEnabled := legacy.uploadEnabled
    mqttPort := legacy.mqttPort
    mqttHost := .copy _ legacy.mqttHost.text }

/-- The record that `begin` makes when the stored one is not of the current format. -/
def migrated (cells : Bytes) (defaults : AppConfig.UploadConfig)
    (defaultUploadEnabled defaultRemoteManagementEnabled : Bool) : Record :=
  let record := populateDefaults defaults defaultUploadEnabled defaultRemoteManagementEnabled
  let version4 := Version4Record.codec.decode cells
  let version3 := Version3Record.codec.decode cells
  let version2 := Version2Record.codec.decode cells
  let legacy := LegacyRecord.codec.decode cells
  let record :=
    if version4.valid then version4.carry record
    else if version3.valid then version3.carry defaults.protocol record
    else if version2.valid then version2.carry record
    else if legacy.valid then legacy.carry record
    else record
  record.sealed

def apply (settings : RuntimeSettings) (record : Record) : RuntimeSettings where
  defaults := settings.defaults
  mqttPort := record.mqttPort
  mqttHost := .copy _ record.mqttHost.text
  ntpPrimary := .copy _ record.times.ntpPrimary.text
  ntpSecondary := .copy _ record.times.ntpSecondary.text
  timeZoneRule := .copy _ record.times.timeZoneRule.text
  timeZoneLabel := .copy _ record.times.timeZoneLabel.text
  cloudflareAccessClientId := .copy _ record.cloudflareAccessClientId.text
  cloudflareAccessClientSecret := .copy _ record.cloudflareAccessClientSecret.text
  uploadEnabled := record.uploadEnabled != 0
  remoteManagementEnabled := record.remoteManagementEnabled != 0
  appliedConfigVersion := record.appliedConfigVersion

def «begin» (settings : RuntimeSettings) (defaults : AppConfig.UploadConfig)
    (defaultUploadEnabled defaultRemoteManagementEnabled : Bool) (eeprom : Eeprom) :
    RuntimeSettings × Eeprom :=
  let settings := { settings with defaults }
  let eeprom := eeprom.begin
  let record := Record.codec.decode eeprom.cells
  if record.valid then
    (settings.apply record, eeprom)
  else
    let record := migrated eeprom.cells defaults defaultUploadEnabled defaultRemoteManagementEnabled
    (settings.apply record, (eeprom.put Record.codec record).commit.2)

def validText (value : Bytes) (capacity : Nat) : Bool :=
  !(value.isEmpty || value.length ≥ capacity) && value.all fun character => !(character < 0x20 || character == 0x7F)

/-- A blank credential keeps the one in memory. -/
def credential (value : Bytes) (kept : Buffer kCloudflareCredentialCapacity) : CText :=
  if value.isEmpty then kept.text else .of value

def save (settings : RuntimeSettings) (eeprom : Eeprom) (host : Bytes) (port : UInt16) (enabled : Bool)
    (ntpPrimary ntpSecondary timeZoneRule timeZoneLabel : Bytes) (remoteManagementEnabled : Bool)
    (appliedConfigVersion : UInt32) (cloudflareAccessClientId cloudflareAccessClientSecret : Bytes := []) :
    Bool × RuntimeSettings × Eeprom :=
  if !validText host kHostCapacity || port == 0 || !validText ntpPrimary kNtpCapacity ||
      !validText ntpSecondary kNtpCapacity || !validText timeZoneRule kTimeZoneRuleCapacity ||
      !validText timeZoneLabel kTimeZoneLabelCapacity ||
      (!cloudflareAccessClientId.isEmpty && !validText cloudflareAccessClientId kCloudflareCredentialCapacity) ||
      (!cloudflareAccessClientSecret.isEmpty &&
        !validText cloudflareAccessClientSecret kCloudflareCredentialCapacity) then
    (false, settings, eeprom)
  else
    let record : Record :=
      { head := head kVersion Record.codec.width
        uploadEnabled := flag enabled
        remoteManagementEnabled := flag remoteManagementEnabled
        uploadProtocol := settings.defaults.protocol.byte
        mqttPort := port
        appliedConfigVersion
        mqttHost := .copy _ (.of host)
        times.ntpPrimary := .copy _ (.of ntpPrimary)
        times.ntpSecondary := .copy _ (.of ntpSecondary)
        times.timeZoneRule := .copy _ (.of timeZoneRule)
        times.timeZoneLabel := .copy _ (.of timeZoneLabel)
        cloudflareAccessClientId :=
          .copy _ (credential cloudflareAccessClientId settings.cloudflareAccessClientId)
        cloudflareAccessClientSecret :=
          .copy _ (credential cloudflareAccessClientSecret settings.cloudflareAccessClientSecret) }
    let record := record.sealed
    let (committed, eeprom) := (eeprom.put Record.codec record).commit
    if !committed then
      (false, settings, eeprom)
    else
      (true, settings.apply record, eeprom)

def applyRemoteConfig (settings : RuntimeSettings) (eeprom : Eeprom) (config : RemoteConfig) :
    Bool × RuntimeSettings × Eeprom :=
  if !settings.remoteManagementEnabled || config.version ≤ settings.appliedConfigVersion then
    (false, settings, eeprom)
  else
    let kept (value : CText) (current : CText) : Bytes := if value.bytes.isEmpty then current.bytes else value.bytes
    settings.save eeprom settings.mqttHost.text.bytes settings.mqttPort
      (if config.hasUploadEnabled then config.uploadEnabled else settings.uploadEnabled)
      (kept config.ntpPrimary settings.ntpPrimary.text) (kept config.ntpSecondary settings.ntpSecondary.text)
      (kept config.timeZoneRule settings.timeZoneRule.text) (kept config.timeZoneLabel settings.timeZoneLabel.text)
      true config.version

def factoryReset (eeprom : Eeprom) : Bool × Eeprom :=
  let eeprom := eeprom.begin
  { eeprom with
    cells := List.replicate Record.codec.width 0xFF ++ eeprom.cells.drop Record.codec.width }.commit

end RuntimeSettings

end ApexiDevices
