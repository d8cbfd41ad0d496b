import ApexiDevices.Settings.RuntimeSettings

set_option autoImplicit false

namespace ApexiDevices.ProvisioningPolicy

open Device

structure Candidate where
  expectedDeviceId : CText := .empty
  friendlyName : CText := .empty
  wifiSsid : CText := .empty
  wifiPassword : CText := .empty
  otaPassword : CText := .empty
  protocol : AppConfig.Protocol := .https
  uploadHost : CText := .empty
  uploadPort : UInt16 := 0
  mqttUsername : CText := .empty
  mqttPassword : CText := .empty
  cloudflareClientId : CText := .empty
  cloudflareClientSecret : CText := .empty
  appDeviceToken : CText := .empty
  appTokenSubject : CText := .empty
  hardwareRevision : CText := .empty
  provisionedAt : CText := .empty

def validText (value : CText) (maximum : Nat) (required : Bool) : Bool :=
  !((required && value.bytes.isEmpty) || value.bytes.length > maximum) &&
    value.bytes.all fun character => !(character < 0x20 || character == 0x7F)

/-- The digit of a nibble as `%x` prints it. -/
def nibble (value : Nat) : UInt8 := ((ascii "0123456789abcdef")[value % 16]?).getD 0

/-- `mda-%012llx` of the lower 48 bits. -/
def deviceIdFromHardwareId (hardwareId : UInt64) : CText :=
  .of (ascii "mda-" ++ (List.range 12).map fun digit => nibble (hardwareId.toNat / 16 ^ (11 - digit)))

def hexadecimal (character : UInt8) : Bool :=
  (0x30 ≤ character && character ≤ 0x39) || (0x61 ≤ character && character ≤ 0x66)

def isCanonicalDeviceId (deviceId : CText) : Bool :=
  deviceId.bytes.length == 16 && deviceId.bytes.take 4 == ascii "mda-" &&
    (deviceId.bytes.drop 4).all hexadecimal && (deviceId.bytes.drop 4).any fun character => character != 0x30

def validate (candidate : Candidate) (immutableDeviceId : CText) : Except String Unit :=
  if !isCanonicalDeviceId immutableDeviceId then throw "hardware identity is malformed"
  else if candidate.expectedDeviceId == .empty then throw "expected_device_id is required"
  else if candidate.expectedDeviceId != immutableDeviceId then throw "expected_device_id does not match this device"
  else if !validText candidate.friendlyName 63 true || !validText candidate.wifiSsid 32 true ||
      !validText candidate.wifiPassword 63 true || !validText candidate.otaPassword 127 true ||
      !validText candidate.uploadHost 127 true || candidate.uploadPort == 0 ||
      !validText candidate.hardwareRevision 31 true || !validText candidate.provisionedAt 40 true then
    throw "required provisioning field is blank, malformed, or too long"
  else if candidate.otaPassword.bytes.length < 12 || candidate.wifiPassword.bytes.length < 8 then
    throw "Wi-Fi and OTA credentials do not meet minimum lengths"
  else
    match candidate.protocol with
    | .mqtt =>
      if candidate.mqttUsername != immutableDeviceId then throw "MQTT username must equal the immutable device ID"
      else if !validText candidate.mqttPassword 127 true then throw "MQTT password is required"
      else return ()
    | .https =>
      if !validText candidate.cloudflareClientId 127 true || !validText candidate.cloudflareClientSecret 127 true ||
          !validText candidate.appDeviceToken 511 true then
        throw "HTTPS credentials are incomplete"
      else if candidate.appTokenSubject.bytes != ascii "logger:" ++ immutableDeviceId.bytes then
        throw "app bearer subject must equal logger:<immutable device ID>"
      else return ()

theorem validText_fits {value : CText} {maximum : Nat} (valid : validText value maximum true = true) :
    value.bytes ≠ [] ∧ value.bytes.length ≤ maximum := by
  simp only [validText, Bool.true_and, Bool.and_eq_true, Bool.not_eq_true', Bool.or_eq_false_iff,
    List.isEmpty_eq_false_iff, decide_eq_false_iff_not, gt_iff_lt, Nat.not_lt] at valid
  exact valid.1

structure Accepted (candidate : Candidate) (deviceId : CText) : Prop where
  canonical : isCanonicalDeviceId deviceId = true
  identity : candidate.expectedDeviceId = deviceId
  friendlyName : validText candidate.friendlyName 63 true = true
  wifiSsid : validText candidate.wifiSsid 32 true = true
  wifiPassword : validText candidate.wifiPassword 63 true = true
  otaPassword : validText candidate.otaPassword 127 true = true
  uploadHost : validText candidate.uploadHost 127 true = true
  uploadPort : candidate.uploadPort ≠ 0
  hardwareRevision : validText candidate.hardwareRevision 31 true = true
  provisionedAt : validText candidate.provisionedAt 40 true = true
  mqtt : candidate.protocol = .mqtt → candidate.mqttUsername = deviceId ∧ validText candidate.mqttPassword 127 true = true
  https : candidate.protocol = .https → validText candidate.cloudflareClientId 127 true = true ∧
    validText candidate.cloudflareClientSecret 127 true = true ∧ validText candidate.appDeviceToken 511 true = true ∧
      candidate.appTokenSubject.bytes = ascii "logger:" ++ deviceId.bytes

theorem Accepted.identity_ne {candidate : Candidate} {deviceId : CText} (accepted : Accepted candidate deviceId) :
    candidate.expectedDeviceId.bytes ≠ [] := by
  rw [accepted.identity]
  intro none
  have canonical := accepted.canonical
  simp [isCanonicalDeviceId, none] at canonical

theorem accepted_of_validate {candidate : Candidate} {deviceId : CText} (valid : validate candidate deviceId = .ok ()) :
    Accepted candidate deviceId := by
  unfold validate at valid
  split at valid
  · cases valid
  rename_i canonical
  split at valid
  · cases valid
  split at valid
  · cases valid
  rename_i identity
  split at valid
  · cases valid
  rename_i required
  split at valid
  · cases valid
  simp only [Bool.or_eq_true, Bool.not_eq_true', not_or, Bool.not_eq_false, beq_iff_eq] at required
  obtain ⟨⟨⟨⟨⟨⟨⟨name, ssid⟩, wifi⟩, ota⟩, host⟩, port⟩, revision⟩, time⟩ := required
  have same : candidate.expectedDeviceId = deviceId := by simpa using identity
  refine ⟨by simpa using canonical, same, name, ssid, wifi, ota, host, port, revision, time, ?_, ?_⟩
  · intro protocol
    simp only [protocol] at valid
    split at valid
    · cases valid
    rename_i user
    split at valid
    · cases valid
    rename_i password
    exact ⟨by simpa using user, by simpa using password⟩
  · intro protocol
    simp only [protocol] at valid
    split at valid
    · cases valid
    rename_i texts
    split at valid
    · cases valid
    rename_i subject
    simp only [Bool.or_eq_true, Bool.not_eq_true', not_or, Bool.not_eq_false] at texts
    exact ⟨texts.1.1, texts.1.2, texts.2, by simpa using subject⟩

end ApexiDevices.ProvisioningPolicy
