import ApexiDevices.Provisioning.ProvisioningPolicy
import ApexiDevices.Shared.Document
import ApexiDevices.Shared.Parts
import ApexiDevices.Storage.Preferences

set_option autoImplicit false

/-!
# Provisioning on the ESP32

`acceptSerialCommand` writes the record of an owner into the NVS, and `begin`
reads it on every boot. The callback that prepares the change of the owner
belongs to the program around them.
-/

namespace ApexiDevices

open Device ProvisioningPolicy

namespace DeviceProvisioning

structure WifiConfig where
  stationSsid : CText := .empty
  stationPassword : CText := .empty

structure OtaConfig where
  hostname : CText := .empty
  password : CText := .empty

inductive OwnerKey
  | ready
  | deviceId
  | name
  | wifiSsid
  | wifiPass
  | otaPass
  | upHost
  | upPort
  | protocol
  | mqttUser
  | mqttPass
  | cfId
  | cfSecret
  | appToken
  | appSubject
  | provAt
  | remoteMgmt
deriving DecidableEq

/-- The namespace `apexi_owner`. -/
abbrev ownerLayout : Layout where
  Key := OwnerKey
  kind
    | .ready | .remoteMgmt => .bool
    | .upPort => .ushort
    | .protocol => .uchar
    | .deviceId | .name | .wifiSsid | .wifiPass | .otaPass | .upHost | .mqttUser | .mqttPass | .cfId | .cfSecret
    | .appToken | .appSubject | .provAt => .string

inductive FactoryKey
  | hwRev
deriving DecidableEq

/-- The namespace `apexi_factory`. -/
abbrev factoryLayout : Layout where
  Key := FactoryKey
  kind
    | .hwRev => .string

/-- The call of `prepareOwnerChange`. -/
abbrev Transition : Signature where
  Op := Unit
  Reply _ := Bool

abbrev Nvs := (Preferences ownerLayout).sum (Preferences factoryLayout)

abbrev Serial := Nvs.sum Transition

def owner {A : Type} (program : Prog (Preferences ownerLayout) A) : Prog Serial A := program.left.left

def factory {A : Type} (program : Prog (Preferences factoryLayout) A) : Prog Serial A := program.right.left

def prepareOwnerChange : Prog Serial Bool := Prog.request (S := Serial) (.inr ())

def kCommandPrefix : Bytes := ascii "APEXI_PROVISION "

end DeviceProvisioning

open DeviceProvisioning in
structure DeviceProvisioning where
  wifi : WifiConfig := {}
  ota : OtaConfig := {}
  upload : AppConfig.UploadConfig := {}
  deviceId : CText := .empty
  friendlyName : CText := .empty
  wifiSsid : CText := .empty
  wifiPassword : CText := .empty
  otaPassword : CText := .empty
  uploadHost : CText := .empty
  mqttUsername : CText := .empty
  mqttPassword : CText := .empty
  cloudflareClientId : CText := .empty
  cloudflareClientSecret : CText := .empty
  appDeviceToken : CText := .empty
  appTokenSubject : CText := .empty
  hardwareRevision : CText := .empty
  provisionedAt : CText := .empty
  status : String := "unprovisioned"
  lastError : String := ""
  provisioned : Bool := false
  remoteManagementEnabled : Bool := false

namespace DeviceProvisioning

variable (self : DeviceProvisioning)

def bindConfigs : DeviceProvisioning :=
  { self with
    wifi := { self.wifi with stationSsid := self.wifiSsid, stationPassword := self.wifiPassword }
    ota := { self.ota with hostname := self.deviceId, password := self.otaPassword }
    upload :=
      { self.upload with
        deviceId := self.deviceId
        mqttHost := self.uploadHost
        mqttUsername := self.mqttUsername
        mqttPassword := self.mqttPassword
        cloudflareAccessClientId := self.cloudflareClientId
        cloudflareAccessClientSecret := self.cloudflareClientSecret
        appDeviceToken := self.appDeviceToken } }

def clearOwnerValues : DeviceProvisioning :=
  { self with
    provisioned := false
    friendlyName := self.deviceId
    wifiSsid := .empty
    wifiPassword := .empty
    otaPassword := .empty
    uploadHost := .empty
    upload := { self.upload with mqttPort := 0 }
    mqttUsername := .empty
    mqttPassword := .empty
    cloudflareClientId := .empty
    cloudflareClientSecret := .empty
    appDeviceToken := .empty
    appTokenSubject := .empty
    provisionedAt := .empty
    remoteManagementEnabled := false }

def refused (status error : String) : Bool × DeviceProvisioning :=
  (false, { self with status, lastError := error }.clearOwnerValues.bindConfigs)

def getText {L : Layout} (key : L.Key) (absent : L.Value key) (text : L.Value key → CText) :
    Prog (Preferences L) CText := do
  return text (← Preferences.get key absent)

/-- The record of the owner, and the byte of its protocol. -/
def readOwner : Prog (Preferences ownerLayout) (UInt8 × DeviceProvisioning) := do
  let friendlyName ← getText OwnerKey.name self.deviceId.string .literal
  let wifiSsid ← getText OwnerKey.wifiSsid "" .literal
  let wifiPassword ← getText OwnerKey.wifiPass "" .literal
  let otaPassword ← getText OwnerKey.otaPass "" .literal
  let uploadHost ← getText OwnerKey.upHost "" .literal
  let mqttPort ← Preferences.get OwnerKey.upPort (0 : UInt16)
  let storedProtocol ← Preferences.get OwnerKey.protocol (0xFF : UInt8)
  let mqttUsername ← getText OwnerKey.mqttUser "" .literal
  let mqttPassword ← getText OwnerKey.mqttPass "" .literal
  let cloudflareClientId ← getText OwnerKey.cfId "" .literal
  let cloudflareClientSecret ← getText OwnerKey.cfSecret "" .literal
  let appDeviceToken ← getText OwnerKey.appToken "" .literal
  let appTokenSubject ← getText OwnerKey.appSubject "" .literal
  let provisionedAt ← getText OwnerKey.provAt "" .literal
  let remoteManagementEnabled ← Preferences.get OwnerKey.remoteMgmt false
  return (storedProtocol, { self with
    friendlyName, wifiSsid, wifiPassword, otaPassword, uploadHost, mqttUsername, mqttPassword, cloudflareClientId
    cloudflareClientSecret, appDeviceToken, appTokenSubject, provisionedAt, remoteManagementEnabled
    upload :=
      { self.upload with
        mqttPort, protocol := if storedProtocol == 0 then .mqtt else .https }
    status := "provisioned" })

def readFactory : Prog (Preferences factoryLayout) DeviceProvisioning := do
  if ← Preferences.openNamespace true then
    let hardwareRevision ← getText FactoryKey.hwRev "unknown" .literal
    return { self with hardwareRevision }
  else return self

def stored : Candidate where
  expectedDeviceId := self.deviceId
  friendlyName := self.friendlyName
  wifiSsid := self.wifiSsid
  wifiPassword := self.wifiPassword
  otaPassword := self.otaPassword
  protocol := self.upload.protocol
  uploadHost := self.uploadHost
  uploadPort := self.upload.mqttPort
  mqttUsername := self.mqttUsername
  mqttPassword := self.mqttPassword
  cloudflareClientId := self.cloudflareClientId
  cloudflareClientSecret := self.cloudflareClientSecret
  appDeviceToken := self.appDeviceToken
  appTokenSubject := self.appTokenSubject
  hardwareRevision := self.hardwareRevision
  provisionedAt := self.provisionedAt

/-- The last check of `begin`, on the record it has read. -/
def checked (storedProtocol : UInt8) : Bool × DeviceProvisioning :=
  if storedProtocol > 1 then self.refused "fault" "stored upload protocol is invalid"
  else
    match validate self.stored self.deviceId with
    | .error error => self.refused "fault" error
    | .ok () => (true, self.bindConfigs)

def initial (deviceId : CText) (wifiDefaults : WifiConfig) (otaDefaults : OtaConfig)
    (uploadDefaults : AppConfig.UploadConfig) : DeviceProvisioning where
  wifi := wifiDefaults
  ota := otaDefaults
  upload := uploadDefaults
  deviceId
  friendlyName := deviceId
  wifiSsid := wifiDefaults.stationSsid
  wifiPassword := wifiDefaults.stationPassword
  otaPassword := otaDefaults.password
  uploadHost := uploadDefaults.mqttHost
  mqttUsername := uploadDefaults.mqttUsername
  mqttPassword := uploadDefaults.mqttPassword
  cloudflareClientId := uploadDefaults.cloudflareAccessClientId
  cloudflareClientSecret := uploadDefaults.cloudflareAccessClientSecret
  appDeviceToken := uploadDefaults.appDeviceToken

def «begin» (hardwareId : UInt64) (wifiDefaults : WifiConfig) (otaDefaults : OtaConfig)
    (uploadDefaults : AppConfig.UploadConfig) : Prog Serial (Bool × DeviceProvisioning) := do
  let deviceId := deviceIdFromHardwareId hardwareId
  let self := initial deviceId wifiDefaults otaDefaults uploadDefaults
  if !(← owner (Preferences.openNamespace true)) then
    return self.refused "fault" "owner credential store unavailable"
  let provisioned ← owner (Preferences.get OwnerKey.ready false)
  if !provisioned then
    let self ← factory self.clearOwnerValues.readFactory
    return (false, self.bindConfigs)
  let recordedDeviceId ← owner (getText OwnerKey.deviceId "" .literal)
  if recordedDeviceId ≠ deviceId then
    return { self with provisioned }.refused "identity-mismatch" "provisioning record belongs to another device"
  let (storedProtocol, self) ← owner { self with provisioned }.readOwner
  let self ← factory self.readFactory
  return self.checked storedProtocol

def candidate (document : Document) : Candidate :=
  let wifi := document.member "wifi"
  let upload := document.member "upload"
  { expectedDeviceId := (document.member "expected_device_id").text
    friendlyName := (document.member "friendly_name").text
    wifiSsid := (wifi.member "ssid").text
    wifiPassword := (wifi.member "password").text
    otaPassword := (document.member "ota_password").text
    protocol := if (upload.member "protocol").text = .literal "mqtt" then .mqtt else .https
    uploadHost := (upload.member "host").text
    -- An integer of the document is cut to the 16 bits of the field.
    uploadPort := UInt16.ofInt ((upload.member "port").int?.getD 0)
    mqttUsername := (upload.member "mqtt_username").text
    mqttPassword := (upload.member "mqtt_password").text
    cloudflareClientId := (upload.member "cloudflare_client_id").text
    cloudflareClientSecret := (upload.member "cloudflare_client_secret").text
    appDeviceToken := (upload.member "app_device_token").text
    appTokenSubject := (upload.member "app_token_subject").text
    hardwareRevision := (document.member "hardware_revision").text
    provisionedAt := (document.member "provisioned_at").text }

def asked (document : Document) : Except String (Candidate × Bool) :=
  let protocol := ((document.member "upload").member "protocol").text
  let remote := document.member "remote_management_enabled"
  if protocol ≠ .literal "mqtt" ∧ protocol ≠ .literal "https" then throw "upload protocol must be mqtt or https"
  else if !remote.isNull && remote.bool?.isNone then throw "remote_management_enabled must be boolean"
  else return (candidate document, remote.bool?.getD false)

def parsed (library : JsonLibrary) (line : Bytes) : Except String (Candidate × Bool) :=
  if !kCommandPrefix.isPrefixOf line then throw "unknown provisioning command"
  else
    match library.deserialize 4096 (line.drop kCommandPrefix.length) with
    | none => throw "malformed provisioning JSON"
    | some document => asked document

abbrev Entry := (key : OwnerKey) × ownerLayout.Value key

def entries (candidate : Candidate) (remoteManagementEnabled : Bool) : List Entry :=
  [⟨.deviceId, candidate.expectedDeviceId.string⟩, ⟨.name, candidate.friendlyName.string⟩,
    ⟨.wifiSsid, candidate.wifiSsid.string⟩, ⟨.wifiPass, candidate.wifiPassword.string⟩,
    ⟨.otaPass, candidate.otaPassword.string⟩, ⟨.upHost, candidate.uploadHost.string⟩,
    ⟨.upPort, candidate.uploadPort⟩, ⟨.protocol, candidate.protocol.byte⟩] ++
  (match candidate.protocol with
    | .mqtt => [⟨.mqttUser, candidate.mqttUsername.string⟩, ⟨.mqttPass, candidate.mqttPassword.string⟩]
    | .https =>
      [⟨.cfId, candidate.cloudflareClientId.string⟩, ⟨.cfSecret, candidate.cloudflareClientSecret.string⟩,
        ⟨.appToken, candidate.appDeviceToken.string⟩, ⟨.appSubject, candidate.appTokenSubject.string⟩]) ++
  [⟨.provAt, candidate.provisionedAt.string⟩, ⟨.remoteMgmt, remoteManagementEnabled⟩, ⟨.ready, true⟩]

def putAll : Bool → List Entry → Prog (Preferences ownerLayout) Bool
  | saved, [] => return saved
  | saved, entry :: rest => do
    let saved ← Preferences.putNext saved entry.1 entry.2
    putAll saved rest

def failed (error : String) : Bool × DeviceProvisioning := (false, { self with lastError := error })

def rollback : Prog (Preferences ownerLayout) Unit := do
  if ← Preferences.openNamespace false then
    let _ ← Preferences.clear

def persist (candidate : Candidate) (remoteManagementEnabled : Bool) :
    Prog (Preferences ownerLayout) (Bool × DeviceProvisioning) := do
  if !(← Preferences.openNamespace false) then return self.failed "owner credential store unavailable"
  let saved ← Preferences.clear
  let saved ← putAll saved (entries candidate remoteManagementEnabled)
  if !saved then
    rollback
    return self.failed (if self.lastError.isEmpty then "failed to persist complete provisioning record"
      else self.lastError)
  return (true, { self with lastError := "" })

/-- The factory keeps the revision of the hardware that it has, or takes the new one. -/
def keepRevision (existingRevision revision : CText) : Prog (Preferences factoryLayout) Bool := do
  if existingRevision.bytes.isEmpty then
    return (← Preferences.put FactoryKey.hwRev revision.string) ≠ 0
  else return true

def changeOwner (existingRevision : CText) (candidate : Candidate) (remoteManagementEnabled : Bool) :
    Prog Serial (Bool × DeviceProvisioning) := do
  if !(← factory (keepRevision existingRevision candidate.hardwareRevision)) then
    return self.failed "failed to persist factory hardware revision"
  owner (self.persist candidate remoteManagementEnabled)

def acceptSerialCommand (library : JsonLibrary) (line : Bytes) (callback : Bool) :
    Prog Serial (Bool × DeviceProvisioning) :=
  match parsed library line with
  | .error error => return self.failed error
  | .ok (candidate, remoteManagementEnabled) => do
    if let .error error := validate candidate self.deviceId then return self.failed error
    if !(← factory (Preferences.openNamespace false)) then return self.failed "factory metadata store unavailable"
    let existingRevision ← factory (getText FactoryKey.hwRev "" .literal)
    if !existingRevision.bytes.isEmpty && existingRevision != candidate.hardwareRevision then
      return self.failed "hardware_revision conflicts with factory record"
    if !(← if callback then prepareOwnerChange else pure false) then
      return self.failed "owner transition incomplete; networking disabled"
    self.changeOwner existingRevision candidate remoteManagementEnabled

end DeviceProvisioning

end ApexiDevices
