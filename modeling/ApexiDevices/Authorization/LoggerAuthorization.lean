import ApexiDevices.Authorization.Record
import ApexiDevices.Shared.Program

set_option autoImplicit false

/-!
# Owner-approved authorization of a logger

The operations of the main loop over the NVS record and the shared HTTPS worker.
`saveRecord` is one request: what it writes is the record of its `Save`.
-/

namespace ApexiDevices.LoggerAuthorization

open Device DeviceAuthorizationPolicy

structure Submission where
  url : ArduinoString
  body : Json
  bearer : ArduinoString
  accessId : ArduinoString
  accessSecret : ArduinoString
  get : Bool

structure Answer where
  status : Int
  body : Text
  tlsError : Int

inductive AuthOp
  | random
  | connected
  | millis
  | time
  -- the namespace `logger_authz` of begin and factoryReset
  | openStore
  | getRecord
  | putRecord (record : Members)
  | saveRecord (save : Save)
  -- the shared HTTPS worker
  | startWorker
  | submit (request : Submission)
  | result
  | release
  | cancelPending

abbrev Network : Signature where
  Op := AuthOp
  Reply
    | .random | .millis => UInt32
    | .time => Int
    | .getRecord => Option Text
    | .result => Option Answer
    | .connected | .openStore | .putRecord _ | .saveRecord _ | .startWorker | .submit _ => Bool
    | .release | .cancelPending => Unit

abbrev Auth := Prog Network

def ask (op : AuthOp) : Auth (Network.Reply op) := Prog.request (S := Network) op

/-! ## Identity -/

def randomHex : Nat → Auth (List Char)
  | 0 => return []
  | count + 1 => do
    let out ← randomHex count
    let value : UInt32 ← ask .random
    return out ++ [nibble (value.toNat % 256 / 16), nibble (value.toNat % 256)]

def randomUuid : Auth (List Char) := do
  let digits ← randomHex 16
  let variant : UInt32 ← ask .random
  let s := (digits.set 12 '4').set 16 (("89ab".toList)[variant.toNat % 4]!)
  return s.take 8 ++ '-' :: ((s.drop 8).take 4 ++ '-' :: ((s.drop 12).take 4 ++ '-' ::
    ((s.drop 16).take 4 ++ '-' :: s.drop 20)))

def factoryReset : Auth Bool := do
  if !(← ask .openStore) then return false
  match ← ask .getRecord with
  | none => return true
  | some saved =>
    match ownerResetRecord saved with
    | none => return false
    | some record => ask (.putRecord record)

variable (self : LoggerAuthorization)

def restored (saved : Text) : Auth (Bool × LoggerAuthorization) := do
  let (restored, self) := self.restoreRecord saved
  if !restored then return (false, self)
  if !(← ask .startWorker) then return (false, self.failed "HTTPS worker unavailable")
  let self :=
    { self with
      ready := true
      status := if self.activeToken.isEmpty then .authorizationRequired else .credentialStored }
  if self.authorizationId.isEmpty || self.deviceCode.isEmpty then return (true, self)
  let now : Int ← ask .time
  let startedMs : UInt32 ← ask .millis
  return (true, { self with
    expiresMs :=
      if 1000000000 < now ∧ self.expiresEpoch ≠ 0 then
        if UInt32.ofInt now < self.expiresEpoch then min 600 (self.expiresEpoch - UInt32.ofInt now) * 1000 else 1
      else 600000
    startedMs
    status := if self.ackPending then .credentialSaved else .awaitingApproval })

def beginSaved (saved : Text) : Auth (Bool × LoggerAuthorization) :=
  match saved with
  | none => return (false, self.failed "Credential record invalid; preserved for recovery")
  | some doc =>
    if (doc.member "hardware_id").asString ≠ self.hardwareId then
      return (false, self.failed "Credential record invalid; preserved for recovery")
    else self.restored saved

def beginBlank : Auth (Bool × LoggerAuthorization) := do
  let installationId ← randomUuid
  let installationSecret ← randomHex 32
  let self :=
    { self with installationId := .cut installationId, installationSecret := .cut installationSecret }
  let record := identity self.hardwareId self.installationId self.installationSecret
  if !(← ask (.putRecord record)) then return (false, self.failed "Cannot persist device identity")
  self.restored (some (.object record))

def begin (mac : UInt64) (config : UploadConfig) : Auth (Bool × LoggerAuthorization) := do
  let csrf ← randomHex 24
  let self : LoggerAuthorization :=
    { config := { config with appDeviceToken := .empty }
      hardwareId := DeviceAuthorizationPolicy.hardwareId mac
      origin := config.mqttHost ++ .of ":" ++ .of (toString config.mqttPort.toNat)
      csrf := .cut csrf }
  if !(← ask .openStore) then return (false, self.failed "Credential storage unavailable")
  match ← ask .getRecord with
  | some saved => self.beginSaved saved
  | none => self.beginBlank

def expiresIn : Auth UInt32 := do
  if self.expiresMs = 0 then return 0
  let now : UInt32 ← ask .millis
  let age := now - self.startedMs
  return if self.expiresMs ≤ age then 0 else (self.expiresMs - age + 999) / 1000

def saveRecord (token deviceId : ArduinoString) (version : UInt32) : Auth Bool :=
  ask (.saveRecord ⟨self, token, deviceId, version⟩)

def saveStored : Auth Bool := self.saveRecord self.storedToken self.storedDeviceId self.credentialVersion

/-! ## Requests -/

def requestBody (start : Bool) : Json :=
  .object ((if start then
      [("hardware_id", .ofText self.hardwareId), ("installation_id", .ofText self.installationId),
        ("device_name", .string "Apexi Logger")]
    else [("authorization_id", .ofText self.authorizationId), ("device_code", .ofText self.deviceCode)]) ++
    [("installation_secret", .ofText self.installationSecret)])

def requestPath (start ack verify : Bool) : String :=
  if verify then "/auth/me"
  else "/api/v1/logger-authorization/" ++ (if start then "start" else if ack then "ack" else "poll")

def submission (start ack verify : Bool) : Submission where
  url := .of "https://" ++ self.config.mqttHost ++ .of (":" ++ toString self.config.mqttPort.toNat) ++
    .of (requestPath start ack verify)
  body := self.requestBody start
  bearer := if verify then self.bootstrapToken else .empty
  accessId := self.config.cloudflareAccessClientId
  accessSecret := self.config.cloudflareAccessClientSecret
  get := verify

def send (start ack verify : Bool) : Auth (Bool × LoggerAuthorization) := do
  if !(← ask .connected) then return (false, self.failed "Wi-Fi disconnected")
  if !(← ask (.submit (self.submission start ack verify))) then
    return (false, self.failed "HTTPS worker busy")
  let lastPollMs : UInt32 ← ask .millis
  return (true, { self with
    requestStart := start, requestAck := ack, requestVerify := verify, busy := true, lastPollMs })

def sendStart : Auth LoggerAuthorization := do
  let (sent, self) ← self.send true false false
  return if sent then { self with startPending := false } else self

def approvalOpen : Auth Bool :=
  if self.status = .awaitingApproval then do return decide (0 < (← self.expiresIn)) else return false

def requestAuthorization : Auth (Bool × LoggerAuthorization) := do
  if !self.ready || self.busy || self.restart then
    return (false, self.failed "Authorization is busy or unavailable")
  if self.config.protocol ≠ .https then return (false, self.failed "Authorization requires HTTPS")
  if self.ackPending then return (true, self)
  if ← self.approvalOpen then return (true, self)
  let self :=
    { self with
      authorizationId := .empty, deviceCode := .empty, userCode := .empty, error := ""
      status := .requestingCode, startPending := true }
  return (true, ← self.sendStart)

/-! ## Responses -/

def refused (code : Int) : Auth LoggerAuthorization := do
  let self :=
    { self with
      status := if code = 410 then .expired else if code = 403 then .denied else .authorizationRequired
      error := "Authorization expired, denied or proof rejected"
      deviceCode := .empty, userCode := .empty, authorizationId := .empty, ackPending := false
      bootstrapToken := .empty, bootstrapDeviceId := .empty, bootstrapVersion := 0, verifyPending := false }
  let _ ← self.saveStored
  return self

def acknowledged : Auth LoggerAuthorization := do
  let saved :=
    { self with
      storedOrigin := self.origin
      rotationPhase := 0, candidate := .empty, appliedRotationVersion := 0, appliedRotationNonce := .empty
      authorizationId := .empty, deviceCode := .empty, userCode := .empty, ackPending := false }
  if !(← saved.saveRecord self.bootstrapToken self.bootstrapDeviceId self.bootstrapVersion) then
    return { saved with
      storedOrigin := self.storedOrigin
      rotationPhase := self.rotationPhase, candidate := self.candidate
      appliedRotationVersion := self.appliedRotationVersion
      appliedRotationNonce := self.appliedRotationNonce
      authorizationId := self.authorizationId, deviceCode := self.deviceCode, ackPending := true
      error := "Cannot save acknowledgement; retrying" }
  return { saved with status := .authorized, error := "", restart := true }

def validChallenge (doc : Members) : Bool :=
  (doc.get "authorization_id").isString && (doc.get "device_code").isString && (doc.get "user_code").isString &&
    uuid (doc.get "authorization_id").asString && printable (doc.get "device_code").asString 32 256 &&
    printable (doc.get "user_code").asString 8 16 &&
    (doc.get "expires_in").uint?.any fun seconds => seconds != 0 && seconds ≤ 600

def challengeEpoch (expiresMs : UInt32) : Auth UInt32 := do
  let now : Int ← ask .time
  if now ≤ 1000000000 then return 0
  let now : Int ← ask .time
  return UInt32.ofInt now + expiresMs / 1000

def challenged (doc : Members) : Auth LoggerAuthorization := do
  if !validChallenge doc then return self.failed "Invalid authorization challenge"
  let expiresMs := (doc.get "expires_in").uint?.getD 0 * 1000
  let startedMs : UInt32 ← ask .millis
  let expiresEpoch ← challengeEpoch expiresMs
  let self :=
    { self with
      authorizationId := (doc.get "authorization_id").asString
      deviceCode := (doc.get "device_code").asString
      userCode := (doc.get "user_code").asString
      expiresMs, startedMs, expiresEpoch
      pollMs := pollDelay ((doc.get "interval").uint?.getD 5) }
  if !(← self.saveStored) then
    return { self with
      authorizationId := .empty, deviceCode := .empty, userCode := .empty
      status := .storageFault, error := "Cannot save authorization challenge" }
  return { self with status := .awaitingApproval, error := "" }

def validCredential (doc : Members) : Bool :=
  (doc.get "access_token").isString && (doc.get "device_id").isString &&
    printable (doc.get "access_token").asString 32 511 &&
    DeviceAuthorizationPolicy.deviceId (doc.get "device_id").asString &&
    (doc.get "credential_version").uint?.isSome

def issued (doc : Members) : Auth LoggerAuthorization := do
  if !validCredential doc then return self.failed "Invalid issued credential"
  let self :=
    { self with
      ackPending := true
      bootstrapToken := (doc.get "access_token").asString
      bootstrapDeviceId := (doc.get "device_id").asString
      bootstrapVersion := (doc.get "credential_version").uint?.getD 0 }
  if !(← self.saveStored) then
    return { self with ackPending := false, error := "Cannot save credential; retrying delivery" }
  return { self with status := .credentialSaved, error := "" }

def acceptDocument (code : Int) (doc : Members) (start ack : Bool) : Auth LoggerAuthorization :=
  if ack && code == 200 && (doc.get "status").reads "acknowledged" then self.acknowledged
  else if start && code == 201 then self.challenged doc
  else if !start && code == 202 && (doc.get "status").reads "authorization_pending" then
    return { self with error := "" }
  else if !start && !ack && code == 200 && (doc.get "status").reads "authorized" &&
      (doc.get "token_type").reads "Bearer" then self.issued doc
  else return self.failed "Unexpected authorization response"

/-- `accept` of a response that verifies nothing. -/
def acceptPlain (code : Int) (body : Text) (start ack : Bool) : Auth LoggerAuthorization :=
  if code = 429 then
    return { self with
      pollMs := min 60000 (self.pollMs + 5000), error := "Authorization rate limited; retrying" }
  else if code ≤ 0 ∨ 500 ≤ code then
    return { self with
      error := "Authorization server unavailable; retrying"
      status := if start then .requestFailed else self.status }
  else if code = 410 ∧ ack ∧ self.ackPending then
    return { self with
      verifyPending := true, status := .verifyingSavedCredential
      error := "Acknowledgement expired; checking saved credential" }
  else if code = 410 ∨ code = 403 ∨ code = 401 then self.refused code
  else
    match body with
    | some (.object doc) => self.acceptDocument code doc start ack
    | _ => return self.failed "Invalid authorization response"

def verifiedActor (doc : Json) : Bool :=
  let actor := doc.member "actor"
  (actor.member "authenticated").bool?.getD false && (actor.member "auth_method").reads "bearer" &&
    (actor.member "subject").asString == .of "logger:" ++ self.bootstrapDeviceId &&
    (actor.member "scopes").elements.any fun item => item.reads "logger:ingest"

def accept (code : Int) (body : Text) (start ack verify : Bool) : Auth LoggerAuthorization :=
  if verify && code == 200 then
    match body with
    | none => return self.failed "Invalid credential verification response"
    | some doc =>
      let checked := { self with verifyPending := false }
      -- The source calls itself with a response of its own.
      if self.verifiedActor doc then
        checked.acceptPlain 200 (some (.object [("status", .string "acknowledged")])) false true
      else checked.acceptPlain 410 (some (.object [])) false false
  else self.acceptPlain code body start ack

/-! ## The main loop -/

def takeResult : Auth LoggerAuthorization := do
  match ← ask .result with
  | none => return self
  | some answer =>
    let self ← { self with busy := false }.accept answer.status answer.body self.requestStart
      self.requestAck self.requestVerify
    ask .release
    return if answer.status ≤ 0 then
      self.failed ("Authorization transport error " ++ toString answer.status ++ "; TLS " ++
        toString answer.tlsError)
    else self

def retryAcknowledgement : Auth LoggerAuthorization := do
  if !self.ackPending || self.busy then return self
  let now : UInt32 ← ask .millis
  if !elapsed now self.lastPollMs self.pollMs then return self
  return (← self.send false (!self.verifyPending) self.verifyPending).2

def pollApproval : Auth LoggerAuthorization := do
  if self.status ≠ .awaitingApproval || self.busy then return self
  if (← self.expiresIn) = 0 then
    ask .cancelPending
    let self :=
      { self with status := .expired, deviceCode := .empty, userCode := .empty, authorizationId := .empty }
    let _ ← self.saveStored
    return self
  let now : UInt32 ← ask .millis
  if !elapsed now self.lastPollMs self.pollMs then return self
  return (← self.send false false false).2

def loop : Auth LoggerAuthorization := do
  if !self.ready then return self
  let self ← if self.startPending && !self.busy then self.sendStart else pure self
  let self ← self.takeResult
  let self ← self.retryAcknowledgement
  self.pollApproval

/-! ## Rotation -/

def bearer (statusRequest : Bool) : ArduinoString :=
  if statusRequest && self.rotationPhase == 2 && !self.fallback then self.candidate
  else self.config.appDeviceToken

def rotationAcknowledgement : String :=
  let version := if self.rotationPhase ≠ 0 then self.rotationVersion else self.appliedRotationVersion
  let nonce := if self.rotationPhase ≠ 0 then self.rotationNonce else self.appliedRotationNonce
  if self.fallback || version == 0 || nonce.isEmpty then ""
  else (Json.object [("version", .ofUInt32 version), ("nonce", .ofText nonce),
    ("state", .string "applied")]).serialize

def validRotation (rotation : Members) : Bool :=
  (rotation.get "type").reads "app_bearer" && (rotation.get "version").uint?.any (· != 0) &&
    (rotation.get "token").isString && (rotation.get "nonce").isString &&
    (rotation.get "overlap_expires_at").isString && printable (rotation.get "token").asString 32 511 &&
    printable (rotation.get "nonce").asString 8 96 &&
    printable (rotation.get "overlap_expires_at").asString 20 40

def stageRotation (rotation : Option Members) : Auth (Bool × LoggerAuthorization) := do
  if self.restart then return (true, self)
  match rotation with
  | none => return (true, self)
  | some rotation =>
    if !validRotation rotation then return (false, self)
    let version := (rotation.get "version").uint?.getD 0
    let token := (rotation.get "token").asString
    let nonce := (rotation.get "nonce").asString
    if version = self.appliedRotationVersion then
      return (token == self.storedToken && nonce == self.appliedRotationNonce, self)
    if self.rotationPhase ≠ 0 then
      return (version == self.rotationVersion && token == self.candidate && nonce == self.rotationNonce, self)
    if version < self.appliedRotationVersion || token == self.storedToken || self.storedToken.isEmpty ||
        self.ackPending then
      return (false, self)
    let staged :=
      { self with
        candidate := token, rotationNonce := nonce
        rotationExpiry := (rotation.get "overlap_expires_at").asString
        rotationVersion := version, rotationPhase := 1 }
    if !(← staged.saveStored) then
      return (false, { staged with
        candidate := .empty, rotationNonce := .empty, rotationExpiry := .empty, rotationVersion := 0
        rotationPhase := 0, error := "Cannot stage rotated credential" })
    return (true, { staged with status := .rotationStaged })

def stageDesired (envelope : Members) : Auth (Bool × LoggerAuthorization) := do
  match envelope.find? "credential_rotation" with
  | none => return (true, self)
  | some rotation =>
    if (envelope.get "schema_version").uint? ≠ some 1 || !(envelope.get "device_id").isString ||
        (envelope.get "device_id").asString ≠ self.config.deviceId then
      return (false, self)
    match rotation with
    | .object rotation => self.stageRotation (some rotation)
    | _ => return (false, self)

def statusResult (accepted : Bool) : Auth LoggerAuthorization := do
  if self.restart then return self
  if !accepted then
    return if self.rotationPhase = 0 ∧ self.authorizationId.isEmpty ∧ !self.busy then
      { self with status := if self.activeToken.isEmpty then .authorizationRequired else .connectionFailed }
    else self
  if self.rotationPhase = 1 then
    let saved := { self with rotationPhase := 2 }
    if !(← saved.saveStored) then
      return { saved with rotationPhase := 1, error := "Cannot persist rotation acknowledgement" }
    return { saved with status := .rotationVerifying }
  if self.rotationPhase = 2 then
    let saved :=
      { self with
        appliedRotationVersion := self.rotationVersion, appliedRotationNonce := self.rotationNonce
        rotationPhase := 0 }
    if !(← saved.saveRecord self.candidate self.storedDeviceId self.rotationVersion) then
      return { saved with
        rotationPhase := 2, appliedRotationVersion := self.appliedRotationVersion
        appliedRotationNonce := self.appliedRotationNonce, error := "Cannot commit rotated credential" }
    return { saved with status := .rotationComplete, restart := true }
  return if !self.busy ∧ self.status ≠ .awaitingApproval ∧ !self.ackPending then
    { self with status := .connected }
  else self

def beginRotationFallback : LoggerAuthorization := { self with fallback := true }

def finishRotationFallback (oldAccepted : Bool) : Auth (Bool × LoggerAuthorization) := do
  let self := { self with fallback := false }
  if !oldAccepted then return (false, self)
  let cleared :=
    { self with
      rotationPhase := 0, candidate := .empty, rotationNonce := .empty, rotationExpiry := .empty
      rotationVersion := 0 }
  if !(← cleared.saveStored) then
    return (false, self.failed "Cannot clear rejected rotation; old credential retained")
  return (true, { cleared with
    status := .connected, error := "Rejected rotation cleared; old credential retained" })

end ApexiDevices.LoggerAuthorization
