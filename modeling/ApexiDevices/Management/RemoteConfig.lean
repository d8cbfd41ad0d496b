import ApexiDevices.Settings.Saves
import ApexiDevices.Shared.Document
import Mathlib.Data.Option.Basic

set_option autoImplicit false

/-!
# Remote configurations

`parseRemoteConfig` checks the texts of a desired state, and `applyRemoteConfig`
checks them again before it saves them.
-/

namespace ApexiDevices

open Device

namespace LiveUpload

def kRemoteConfigJsonCapacity : Nat := 4096

def validRemoteText (value : Option CText) (maximumLength : Nat) : Bool :=
  match value with
  | none => true
  | some value =>
    !(value.bytes.isEmpty || value.bytes.length > maximumLength) && value.bytes.all fun character => !(character < 0x20)

def validOptionalRemoteText (value : CText) (maximumLength : Nat) : Bool :=
  value.bytes.isEmpty || validRemoteText (some value) maximumLength

def settingKeys : List String := ["upload_enabled", "ntp_primary", "ntp_secondary", "tz_rule", "tz_label"]

def parseSettings (version : UInt32) (settings : Document.Object) : Option RemoteConfig := do
  guard (settings.all fun (key, _) => settingKeys.any fun known => key == .literal known)
  let uploadEnabled ← (settings.get "upload_enabled").bool?
  let primary ← (settings.get "ntp_primary").text?
  let secondary ← (settings.get "ntp_secondary").text?
  let rule ← (settings.get "tz_rule").text?
  let label ← (settings.get "tz_label").text?
  guard (validRemoteText (some primary) 63 && validRemoteText (some secondary) 63 &&
    validRemoteText (some rule) 63 && validRemoteText (some label) 31)
  return {
    version
    hasUploadEnabled := true
    uploadEnabled
    ntpPrimary := primary
    ntpSecondary := secondary
    timeZoneRule := rule
    timeZoneLabel := label }

def parseRemoteConfig (library : JsonLibrary) (deviceId : CText) (payload : Bytes) : Option RemoteConfig := do
  guard (payload.length != 0 && payload.length ≤ kRemoteConfigJsonCapacity)
  let document ← library.deserialize kRemoteConfigJsonCapacity payload
  guard (library.asInt (document.member "schema_version") == 1 && (document.member "device_id").text == deviceId)
  let version := library.asUInt (document.member "config_version")
  let settings ← (document.member "settings").object?
  guard (version != 0)
  parseSettings version settings

theorem validRemoteText_iff {value : CText} {maximumLength : Nat} :
    validRemoteText (some value) maximumLength = true ↔
      value.bytes ≠ [] ∧ value.bytes.length ≤ maximumLength ∧ ∀ character ∈ value.bytes, ¬character < 0x20 := by
  simp only [validRemoteText, Bool.and_eq_true, Bool.not_eq_true', Bool.or_eq_false_iff, List.isEmpty_eq_false_iff,
    decide_eq_false_iff_not, gt_iff_lt, Nat.not_lt, List.all_eq_true, ne_eq, and_assoc]

/-- A text that the wire check accepts is one that the settings accept, but for DEL. -/
theorem validText_iff_printable {value : CText} {maximumLength capacity : Nat}
    (accepted : validRemoteText (some value) maximumLength = true) (room : maximumLength < capacity) :
    RuntimeSettings.validText value.bytes capacity = true ↔ 0x7F ∉ value.bytes := by
  obtain ⟨some, short, printable⟩ := validRemoteText_iff.mp accepted
  rw [RuntimeSettings.validText_iff]
  constructor
  · rintro ⟨-, -, characters⟩ member
    exact (characters _ member).2 rfl
  · intro absent
    refine ⟨some, by omega, fun character member => ⟨printable character member, ?_⟩⟩
    rintro rfl
    exact absent member

structure Admitted (config : RemoteConfig) : Prop where
  whole : config.hasUploadEnabled = true
  primary : validRemoteText (some config.ntpPrimary) 63 = true
  secondary : validRemoteText (some config.ntpSecondary) 63 = true
  rule : validRemoteText (some config.timeZoneRule) 63 = true
  label : validRemoteText (some config.timeZoneLabel) 31 = true

theorem parseSettings_admitted {version : UInt32} {settings : Document.Object} {config : RemoteConfig}
    (parsed : parseSettings version settings = some config) : Admitted config := by
  simp only [parseSettings, Option.bind_eq_bind, Option.bind_eq_some_iff, Option.guard_eq_some', Bool.and_eq_true,
    Option.pure_def, Option.some.injEq] at parsed
  obtain ⟨-, -, uploadEnabled, -, primary, -, secondary, -, rule, -, label, -, -, ⟨⟨⟨valid, also⟩, more⟩, last⟩, rfl⟩ :=
    parsed
  exact ⟨rfl, valid, also, more, last⟩

theorem parseRemoteConfig_admitted {library : JsonLibrary} {deviceId : CText} {payload : Bytes}
    {config : RemoteConfig} (parsed : parseRemoteConfig library deviceId payload = some config) : Admitted config := by
  simp only [parseRemoteConfig, Option.bind_eq_bind, Option.bind_eq_some_iff] at parsed
  obtain ⟨-, -, document, -, -, -, settings, -, -, -, parsed⟩ := parsed
  exact parseSettings_admitted parsed

end LiveUpload

namespace RemoteConfig

/-- No text has a DEL. -/
structure Printable (config : RemoteConfig) : Prop where
  primary : 0x7F ∉ config.ntpPrimary.bytes
  secondary : 0x7F ∉ config.ntpSecondary.bytes
  rule : 0x7F ∉ config.timeZoneRule.bytes
  label : 0x7F ∉ config.timeZoneLabel.bytes

def arguments (config : RemoteConfig) (settings : RuntimeSettings) : RuntimeSettings.Arguments where
  host := settings.mqttHost.text.bytes
  port := settings.mqttPort
  enabled := config.uploadEnabled
  ntpPrimary := config.ntpPrimary.bytes
  ntpSecondary := config.ntpSecondary.bytes
  timeZoneRule := config.timeZoneRule.bytes
  timeZoneLabel := config.timeZoneLabel.bytes
  remoteManagementEnabled := true
  appliedConfigVersion := config.version

end RemoteConfig

namespace RuntimeSettings

open LiveUpload

variable {settings : RuntimeSettings} {eeprom : Eeprom} {config : RemoteConfig}

theorem applyRemoteConfig_saves (admitted : Admitted config) (remote : settings.remoteManagementEnabled = true)
    (newer : settings.appliedConfigVersion < config.version) :
    settings.applyRemoteConfig eeprom config = (config.arguments settings).save settings eeprom := by
  have proceeds : ¬(!settings.remoteManagementEnabled || config.version ≤ settings.appliedConfigVersion) = true := by
    simpa [remote] using newer
  have whole (text : CText) (maximumLength : Nat) (valid : validRemoteText (some text) maximumLength = true) :
      text.bytes.isEmpty = false :=
    List.isEmpty_eq_false_iff.mpr (validRemoteText_iff.mp valid).1
  rw [applyRemoteConfig, if_neg proceeds]
  simp only [admitted.whole, whole _ _ admitted.primary, whole _ _ admitted.secondary, whole _ _ admitted.rule,
    whole _ _ admitted.label, Bool.false_eq_true, if_true, if_false]
  rfl

theorem arguments_valid (admitted : Admitted config) (host : validText settings.mqttHost.text.bytes kHostCapacity = true)
    (port : settings.mqttPort ≠ 0) : (config.arguments settings).Valid ↔ config.Printable := by
  constructor
  · intro valid
    exact ⟨(validText_iff_printable admitted.primary (by decide)).mp valid.primary,
      (validText_iff_printable admitted.secondary (by decide)).mp valid.secondary,
      (validText_iff_printable admitted.rule (by decide)).mp valid.rule,
      (validText_iff_printable admitted.label (by decide)).mp valid.label⟩
  · intro printable
    exact ⟨host, port, (validText_iff_printable admitted.primary (by decide)).mpr printable.primary,
      (validText_iff_printable admitted.secondary (by decide)).mpr printable.secondary,
      (validText_iff_printable admitted.rule (by decide)).mpr printable.rule,
      (validText_iff_printable admitted.label (by decide)).mpr printable.label, .inl rfl, .inl rfl⟩

def Exposed.configured (exposed : Exposed) (config : RemoteConfig) : Exposed :=
  { exposed with
    uploadEnabled := config.uploadEnabled
    ntpPrimary := config.ntpPrimary
    ntpSecondary := config.ntpSecondary
    timeZoneRule := config.timeZoneRule
    timeZoneLabel := config.timeZoneLabel
    appliedConfigVersion := config.version }

theorem arguments_exposes (remote : settings.remoteManagementEnabled = true) :
    (config.arguments settings).exposes settings settings.defaults = settings.exposed.configured config := by
  simp only [Arguments.exposes, RemoteConfig.arguments, CText.of_bytes, Exposed.configured, exposed, remote]
  rfl

/-- A configuration that the wire check accepts is applied just when none of its texts has a DEL. -/
theorem applyRemoteConfig_agrees {library : JsonLibrary} {deviceId : CText} {payload : Bytes}
    (accepted : parseRemoteConfig library deviceId payload = some config)
    (newer : settings.appliedConfigVersion < config.version) (remote : settings.remoteManagementEnabled = true)
    (host : validText settings.mqttHost.text.bytes kHostCapacity = true) (port : settings.mqttPort ≠ 0)
    (commits : eeprom.commits = true) :
    ((settings.applyRemoteConfig eeprom config).1 = true ∧
        (settings.applyRemoteConfig eeprom config).2.1.exposed = settings.exposed.configured config) ↔
      config.Printable := by
  have admitted := parseRemoteConfig_admitted accepted
  rw [applyRemoteConfig_saves admitted remote newer, ← arguments_valid admitted host port, ← arguments_exposes remote]
  constructor
  · rintro ⟨saved, -⟩
    exact (Arguments.save_accepted.mp saved).1
  · intro valid
    have saved : ((config.arguments settings).save settings eeprom).1 = true :=
      Arguments.save_accepted.mpr ⟨valid, commits⟩
    exact ⟨saved, Arguments.saved_exposed saved⟩

/-! A desired state of which one text is given. -/

def desired (primary : String) : Document :=
  .object [(.literal "schema_version", .int 1), (.literal "device_id", .string (ascii "mda-1")),
    (.literal "config_version", .int 2), (.literal "settings", .object [(.literal "upload_enabled", .bool true),
      (.literal "ntp_primary", .string (ascii primary)), (.literal "ntp_secondary", .string (ascii "time.google.com")),
      (.literal "tz_rule", .string (ascii "AWST-8")), (.literal "tz_label", .string (ascii "AWST"))])]

def desiredPayload (primary : String) : Bytes :=
  ascii ("\x7b\"schema_version\":1,\"device_id\":\"mda-1\",\"config_version\":2,\"settings\":\x7b" ++
    "\"upload_enabled\":true,\"ntp_primary\":\"" ++ primary ++ "\",\"ntp_secondary\":\"time.google.com\"," ++
    "\"tz_rule\":\"AWST-8\",\"tz_label\":\"AWST\"\x7d\x7d")

def desiredLibrary (primary : String) : JsonLibrary where
  deserialize _ _ := some (desired primary)
  textInt _ := 0
  textUInt _ := 0
  realInt _ := 0
  realUInt _ := 0

def desiredConfig (primary : String) : RemoteConfig where
  version := 2
  hasUploadEnabled := true
  uploadEnabled := true
  ntpPrimary := .literal primary
  ntpSecondary := .literal "time.google.com"
  timeZoneRule := .literal "AWST-8"
  timeZoneLabel := .literal "AWST"

def managed : RuntimeSettings where
  mqttHost := .copy _ (.literal "broker")
  mqttPort := 8883
  remoteManagementEnabled := true

theorem applyRemoteConfig_agrees_pool :
    (managed.applyRemoteConfig ⟨[], [], true⟩ (desiredConfig "pool.ntp.org")).1 = true ∧
      (managed.applyRemoteConfig ⟨[], [], true⟩ (desiredConfig "pool.ntp.org")).2.1.exposed =
        managed.exposed.configured (desiredConfig "pool.ntp.org") :=
  (@applyRemoteConfig_agrees managed ⟨[], [], true⟩ (desiredConfig "pool.ntp.org") (desiredLibrary "pool.ntp.org")
    (.literal "mda-1") (desiredPayload "pool.ntp.org") (by decide +kernel) (by decide) rfl (by decide +kernel) (by decide) rfl).mpr
    ⟨by decide, by decide, by decide, by decide⟩

theorem not_applyRemoteConfig_agrees :
    ¬∀ (settings : RuntimeSettings) (eeprom : Eeprom) (config : RemoteConfig) (library : JsonLibrary)
        (deviceId : CText) (payload : Bytes), parseRemoteConfig library deviceId payload = some config →
      settings.appliedConfigVersion < config.version → settings.remoteManagementEnabled = true →
      validText settings.mqttHost.text.bytes kHostCapacity = true → settings.mqttPort ≠ 0 → eeprom.commits = true →
      (settings.applyRemoteConfig eeprom config).1 = true ∧
        (settings.applyRemoteConfig eeprom config).2.1.exposed = settings.exposed.configured config := by
  intro claimed
  have applied := (claimed managed ⟨[], [], true⟩ (desiredConfig "pool\x7f") (desiredLibrary "pool\x7f")
    (.literal "mda-1") (desiredPayload "pool\x7f") (by decide +kernel) (by decide) rfl (by decide +kernel) (by decide) rfl).1
  exact absurd applied (by decide)

end RuntimeSettings

end ApexiDevices
