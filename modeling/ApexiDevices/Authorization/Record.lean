import ApexiDevices.Authorization.DeviceAuthorizationPolicy

set_option autoImplicit false

/-!
# The authorization record of a logger

One record in NVS holds the credential, a pending challenge and a staged
rotation. A text is what the JSON parser makes of it: `none` is one it refuses.
-/

namespace ApexiDevices

open Device DeviceAuthorizationPolicy

inductive Protocol
  | mqtt
  | https
deriving DecidableEq

structure UploadConfig where
  protocol : Protocol := .mqtt
  deviceId : ArduinoString := .empty
  mqttHost : ArduinoString := .empty
  mqttPort : UInt16 := 0
  cloudflareAccessClientId : ArduinoString := .empty
  cloudflareAccessClientSecret : ArduinoString := .empty
  appDeviceToken : ArduinoString := .empty

namespace LoggerAuthorization

inductive Status
  | unavailable
  | authorizationRequired
  | credentialStored
  | credentialSaved
  | awaitingApproval
  | requestingCode
  | requestFailed
  | verifyingSavedCredential
  | expired
  | denied
  | authorized
  | storageFault
  | rotationStaged
  | rotationVerifying
  | rotationComplete
  | connectionFailed
  | connected
deriving DecidableEq

abbrev Text := Option Json

end LoggerAuthorization

open LoggerAuthorization

structure LoggerAuthorization where
  config : UploadConfig := {}
  hardwareId : ArduinoString := .empty
  installationId : ArduinoString := .empty
  installationSecret : ArduinoString := .empty
  origin : ArduinoString := .empty
  activeToken : ArduinoString := .empty
  deviceId : ArduinoString := .empty
  authorizationId : ArduinoString := .empty
  deviceCode : ArduinoString := .empty
  userCode : ArduinoString := .empty
  csrf : ArduinoString := .empty
  storedToken : ArduinoString := .empty
  storedDeviceId : ArduinoString := .empty
  storedOrigin : ArduinoString := .empty
  bootstrapToken : ArduinoString := .empty
  bootstrapDeviceId : ArduinoString := .empty
  bootstrapVersion : UInt32 := 0
  credentialVersion : UInt32 := 0
  expiresEpoch : UInt32 := 0
  ackPending : Bool := false
  verifyPending : Bool := false
  candidate : ArduinoString := .empty
  rotationNonce : ArduinoString := .empty
  rotationExpiry : ArduinoString := .empty
  appliedRotationNonce : ArduinoString := .empty
  rotationVersion : UInt32 := 0
  appliedRotationVersion : UInt32 := 0
  rotationPhase : UInt8 := 0
  fallback : Bool := false
  status : Status := .unavailable
  error : String := ""
  startedMs : UInt32 := 0
  expiresMs : UInt32 := 0
  lastPollMs : UInt32 := 0
  pollMs : UInt32 := 5000
  busy : Bool := false
  restart : Bool := false
  ready : Bool := false
  requestStart : Bool := false
  requestAck : Bool := false
  requestVerify : Bool := false
  startPending : Bool := false

namespace LoggerAuthorization

structure Save where
  self : LoggerAuthorization
  token : ArduinoString
  deviceId : ArduinoString
  version : UInt32

namespace Save

variable (save : Save)

/-- All members, before `access_token` and `device_id` are removed for an empty token. -/
def members : Members :=
  [("hardware_id", .ofText save.self.hardwareId), ("installation_id", .ofText save.self.installationId),
    ("installation_secret", .ofText save.self.installationSecret), ("origin", .ofText save.self.storedOrigin),
    ("access_token", .ofText save.token), ("device_id", .ofText save.deviceId),
    ("credential_version", .ofUInt32 save.version), ("authorization_id", .ofText save.self.authorizationId),
    ("device_code", .ofText save.self.deviceCode), ("user_code", .ofText save.self.userCode),
    ("ack_pending", .bool save.self.ackPending), ("expires_epoch", .ofUInt32 save.self.expiresEpoch),
    ("pending_origin", .ofText save.self.origin), ("bootstrap_token", .ofText save.self.bootstrapToken),
    ("bootstrap_device_id", .ofText save.self.bootstrapDeviceId),
    ("bootstrap_version", .ofUInt32 save.self.bootstrapVersion), ("candidate", .ofText save.self.candidate),
    ("rotation_nonce", .ofText save.self.rotationNonce), ("rotation_expiry", .ofText save.self.rotationExpiry),
    ("rotation_version", .ofUInt32 save.self.rotationVersion),
    ("rotation_phase", .int save.self.rotationPhase.toNat),
    ("applied_rotation_version", .ofUInt32 save.self.appliedRotationVersion),
    ("applied_rotation_nonce", .ofText save.self.appliedRotationNonce)]

def record : Members :=
  if save.token.isEmpty then (save.members.remove "access_token").remove "device_id" else save.members

end Save

def identity (hardwareId installationId installationSecret : ArduinoString) : Members :=
  [("hardware_id", .ofText hardwareId), ("installation_id", .ofText installationId),
    ("installation_secret", .ofText installationSecret)]

/-- The identity of a record, without owner credentials and pending proofs. -/
def ownerResetRecord (saved : Text) : Option Members :=
  match saved with
  | none => none
  | some doc =>
    let hardware := (doc.member "hardware_id").asString
    let installation := (doc.member "installation_id").asString
    let secret := (doc.member "installation_secret").asString
    if DeviceAuthorizationPolicy.deviceId hardware && uuid installation && hex secret 64 then
      some (identity hardware installation secret)
    else none

variable (self : LoggerAuthorization)

def failed (error : String) : LoggerAuthorization := { self with error }

/-- The part of a record read when its origin is the configured one. -/
def restoreCredential (doc : Json) : Bool × LoggerAuthorization :=
  let token := (doc.member "access_token").asString
  let device := (doc.member "device_id").asString
  let self := { self with activeToken := token, deviceId := device }
  if !token.isEmpty && (!printable token 32 511 || !DeviceAuthorizationPolicy.deviceId device) then
    (false, self.failed "Invalid stored credential")
  else
    let self :=
      { self with
        storedToken := token
        storedDeviceId := device
        credentialVersion := (doc.member "credential_version").uint?.getD 0
        candidate := (doc.member "candidate").asString
        rotationNonce := (doc.member "rotation_nonce").asString
        rotationExpiry := (doc.member "rotation_expiry").asString
        rotationVersion := (doc.member "rotation_version").uint?.getD 0
        rotationPhase := UInt8.ofInt ((doc.member "rotation_phase").int?.getD 0)
        appliedRotationVersion := (doc.member "applied_rotation_version").uint?.getD 0
        appliedRotationNonce := (doc.member "applied_rotation_nonce").asString }
    if 2 < self.rotationPhase ∨ (self.rotationPhase ≠ 0 ∧ (!printable self.candidate 32 511 ||
        !printable self.rotationNonce 8 96 || self.rotationVersion == 0)) then
      (false, self.failed "Invalid rotation record; preserved")
    else (true, self)

/-- The part read when the challenge was asked of the configured origin. -/
def restorePending (doc : Json) : Bool × LoggerAuthorization :=
  let self :=
    { self with
      authorizationId := (doc.member "authorization_id").asString
      deviceCode := (doc.member "device_code").asString
      userCode := (doc.member "user_code").asString
      ackPending := (doc.member "ack_pending").bool?.getD false
      expiresEpoch := (doc.member "expires_epoch").uint?.getD 0
      bootstrapToken := (doc.member "bootstrap_token").asString
      bootstrapDeviceId := (doc.member "bootstrap_device_id").asString
      bootstrapVersion := (doc.member "bootstrap_version").uint?.getD 0 }
  if self.ackPending && (!printable self.bootstrapToken 32 511 ||
      !DeviceAuthorizationPolicy.deviceId self.bootstrapDeviceId || self.authorizationId.length != 36 ||
      !printable self.deviceCode 32 256) then
    (false, self.failed "Invalid pending credential; preserved")
  else (true, self)

-- Once a stored credential exists it is never replaced by a compiled fallback.
def restoreConfig (doc : Json) : LoggerAuthorization :=
  if doc.containsKey "access_token" then
    { self with
      config := { self.config with
        appDeviceToken := self.activeToken
        deviceId := if self.deviceId.isEmpty then self.config.deviceId else self.deviceId } }
  else self

def readStored (doc : Json) : LoggerAuthorization :=
  { self with
    storedOrigin := (doc.member "origin").asString
    storedToken := (doc.member "access_token").asString
    storedDeviceId := (doc.member "device_id").asString
    credentialVersion := (doc.member "credential_version").uint?.getD 0 }

/-- The two parts that the origins select, then the configuration. -/
def restoreOwner (doc : Json) : Bool × LoggerAuthorization :=
  let (credential, self) :=
    if self.storedOrigin = self.origin then self.restoreCredential doc else (true, self)
  if !credential then (false, self)
  else
    let (pending, self) :=
      if (doc.member "pending_origin").asString = self.origin then self.restorePending doc else (true, self)
    if !pending then (false, self) else (true, self.restoreConfig doc)

def restoreRecord (saved : Text) : Bool × LoggerAuthorization :=
  let self :=
    { self with
      config := { self.config with appDeviceToken := .empty }
      activeToken := .empty
      deviceId := .empty
      candidate := .empty
      rotationPhase := 0 }
  match saved with
  | none => (false, self.failed "Credential record identity mismatch")
  | some doc =>
    if (doc.member "hardware_id").asString ≠ self.hardwareId then
      (false, self.failed "Credential record identity mismatch")
    else
      let self :=
        { self with
          installationId := (doc.member "installation_id").asString
          installationSecret := (doc.member "installation_secret").asString }
      if !uuid self.installationId || !hex self.installationSecret 64 then
        (false, self.failed "Invalid installation identity")
      else (self.readStored doc).restoreOwner doc

end LoggerAuthorization

end ApexiDevices
