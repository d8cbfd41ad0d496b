import ApexiDevices.Settings.Migration

set_option autoImplicit false

/-!
# Saved settings

The record of an accepted save is one that every later boot accepts, and its
arrays have room for the arguments.
-/

namespace ApexiDevices

open Device

namespace RuntimeSettings

theorem validText_iff {value : Bytes} {capacity : Nat} :
    validText value capacity = true ↔
      value ≠ [] ∧ value.length < capacity ∧ ∀ character ∈ value, ¬character < 0x20 ∧ character ≠ 0x7F := by
  simp only [validText, Bool.and_eq_true, Bool.not_eq_true', Bool.or_eq_false_iff, List.isEmpty_eq_false_iff,
    decide_eq_false_iff_not, ge_iff_le, Nat.not_le, List.all_eq_true, beq_eq_false_iff_ne, ne_eq, and_assoc]

theorem of_validText {value : Bytes} {capacity : Nat} (valid : validText value capacity = true) :
    (CText.of value).bytes = value := by
  obtain ⟨-, -, characters⟩ := validText_iff.mp valid
  rw [CText.of_eq fun zero => (characters 0 zero).1 (by decide)]

structure Arguments where
  host : Bytes
  port : UInt16
  enabled : Bool
  ntpPrimary : Bytes
  ntpSecondary : Bytes
  timeZoneRule : Bytes
  timeZoneLabel : Bytes
  remoteManagementEnabled : Bool
  appliedConfigVersion : UInt32
  cloudflareAccessClientId : Bytes := []
  cloudflareAccessClientSecret : Bytes := []

namespace Arguments

def save (arguments : Arguments) (settings : RuntimeSettings) (eeprom : Eeprom) : Bool × RuntimeSettings × Eeprom :=
  settings.save eeprom arguments.host arguments.port arguments.enabled arguments.ntpPrimary arguments.ntpSecondary
    arguments.timeZoneRule arguments.timeZoneLabel arguments.remoteManagementEnabled arguments.appliedConfigVersion
    arguments.cloudflareAccessClientId arguments.cloudflareAccessClientSecret

structure Valid (arguments : Arguments) : Prop where
  host : validText arguments.host kHostCapacity = true
  port : arguments.port ≠ 0
  primary : validText arguments.ntpPrimary kNtpCapacity = true
  secondary : validText arguments.ntpSecondary kNtpCapacity = true
  rule : validText arguments.timeZoneRule kTimeZoneRuleCapacity = true
  label : validText arguments.timeZoneLabel kTimeZoneLabelCapacity = true
  clientId : arguments.cloudflareAccessClientId = [] ∨
    validText arguments.cloudflareAccessClientId kCloudflareCredentialCapacity = true
  clientSecret : arguments.cloudflareAccessClientSecret = [] ∨
    validText arguments.cloudflareAccessClientSecret kCloudflareCredentialCapacity = true

def record (arguments : Arguments) (settings : RuntimeSettings) : Record where
  head := head kVersion Record.codec.width
  uploadEnabled := flag arguments.enabled
  remoteManagementEnabled := flag arguments.remoteManagementEnabled
  uploadProtocol := settings.defaults.protocol.byte
  mqttPort := arguments.port
  appliedConfigVersion := arguments.appliedConfigVersion
  mqttHost := .copy _ (.of arguments.host)
  times.ntpPrimary := .copy _ (.of arguments.ntpPrimary)
  times.ntpSecondary := .copy _ (.of arguments.ntpSecondary)
  times.timeZoneRule := .copy _ (.of arguments.timeZoneRule)
  times.timeZoneLabel := .copy _ (.of arguments.timeZoneLabel)
  cloudflareAccessClientId :=
    .copy _ (credential arguments.cloudflareAccessClientId settings.cloudflareAccessClientId)
  cloudflareAccessClientSecret :=
    .copy _ (credential arguments.cloudflareAccessClientSecret settings.cloudflareAccessClientSecret)

variable {arguments : Arguments} {settings : RuntimeSettings} {eeprom : Eeprom}

theorem save_valid (valid : arguments.Valid) :
    arguments.save settings eeprom =
      if eeprom.commits then
        (true, settings.apply (arguments.record settings).sealed,
          (eeprom.put Record.codec (arguments.record settings).sealed).commit.2)
      else (false, settings, eeprom.put Record.codec (arguments.record settings).sealed) := by
  obtain ⟨host, port, primary, secondary, rule, label, clientId, clientSecret⟩ := valid
  have id : (!arguments.cloudflareAccessClientId.isEmpty &&
      !validText arguments.cloudflareAccessClientId kCloudflareCredentialCapacity) = false := by
    rcases clientId with none | some
    · rw [none]
      rfl
    · rw [some]
      exact Bool.and_false _
  have secret : (!arguments.cloudflareAccessClientSecret.isEmpty &&
      !validText arguments.cloudflareAccessClientSecret kCloudflareCredentialCapacity) = false := by
    rcases clientSecret with none | some
    · rw [none]
      rfl
    · rw [some]
      exact Bool.and_false _
  rw [save, RuntimeSettings.save]
  simp only [host, primary, secondary, rule, label, id, secret, beq_eq_false_iff_ne.mpr port, Bool.not_true,
    Bool.or_false, Bool.false_eq_true, if_false, Eeprom.commit]
  obtain ⟨flash, cells, commits⟩ := eeprom
  cases commits <;> rfl

theorem save_invalid (invalid : ¬arguments.Valid) : arguments.save settings eeprom = (false, settings, eeprom) := by
  apply if_pos
  by_contra accepted
  simp only [Bool.or_eq_true, Bool.and_eq_true, Bool.not_eq_true', not_or, not_and, Bool.not_eq_false,
    List.isEmpty_eq_false_iff, beq_iff_eq] at accepted
  obtain ⟨⟨⟨⟨⟨⟨⟨host, port⟩, primary⟩, secondary⟩, rule⟩, label⟩, clientId⟩, clientSecret⟩ := accepted
  exact invalid ⟨host, port, primary, secondary, rule, label, or_iff_not_imp_left.mpr clientId,
    or_iff_not_imp_left.mpr clientSecret⟩

theorem save_accepted : (arguments.save settings eeprom).1 = true ↔ arguments.Valid ∧ eeprom.commits = true := by
  by_cases valid : arguments.Valid
  · rw [save_valid valid]
    cases eeprom.commits <;> simp [valid]
  · rw [save_invalid valid]
    simp [valid]

theorem save_refused (refused : (arguments.save settings eeprom).1 = false) :
    (arguments.save settings eeprom).2.1 = settings := by
  by_cases valid : arguments.Valid
  · rw [save_valid valid] at refused ⊢
    split at refused
    · cases refused
    · rename_i works
      rw [if_neg works]
  · rw [save_invalid valid]

def exposes (arguments : Arguments) (settings : RuntimeSettings) (defaults : AppConfig.UploadConfig) : Exposed where
  config :=
    { defaults with
      mqttHost := .of arguments.host
      mqttPort := arguments.port
      cloudflareAccessClientId := credential arguments.cloudflareAccessClientId settings.cloudflareAccessClientId
      cloudflareAccessClientSecret :=
        credential arguments.cloudflareAccessClientSecret settings.cloudflareAccessClientSecret }
  uploadEnabled := arguments.enabled
  ntpPrimary := .of arguments.ntpPrimary
  ntpSecondary := .of arguments.ntpSecondary
  timeZoneRule := .of arguments.timeZoneRule
  timeZoneLabel := .of arguments.timeZoneLabel
  remoteManagementEnabled := arguments.remoteManagementEnabled
  appliedConfigVersion := arguments.appliedConfigVersion

theorem copy_valid {value : Bytes} {capacity : Nat} (valid : validText value capacity = true) (positive : 1 < capacity) :
    (Chars.copy capacity (.of value)).holdsText = true ∧ (Chars.copy capacity (.of value)).text = .of value := by
  have bytes := of_validText valid
  obtain ⟨some, fits, -⟩ := validText_iff.mp valid
  constructor
  · rw [Chars.holdsText_copy positive, bytes, Bool.not_eq_true', List.isEmpty_eq_false_iff]
    exact some
  · rw [Chars.text_copy (by omega), CText.clipped_eq_self, bytes]
    omega

theorem credential_fits {value : Bytes} {kept : Buffer kCloudflareCredentialCapacity}
    (valid : value = [] ∨ validText value kCloudflareCredentialCapacity = true) :
    (credential value kept).bytes.length < kCloudflareCredentialCapacity := by
  unfold credential
  rcases valid with rfl | valid
  · exact Nat.lt_of_le_of_lt kept.fits (by decide)
  · obtain ⟨some, fits, -⟩ := validText_iff.mp valid
    rw [if_neg (by simpa using some), of_validText valid]
    exact fits

theorem record_describes (valid : arguments.Valid) (defaults : AppConfig.UploadConfig) :
    Describes (arguments.record settings) (arguments.exposes settings defaults) defaults := by
  have primary := copy_valid valid.primary (by decide)
  have secondary := copy_valid valid.secondary (by decide)
  have rule := copy_valid valid.rule (by decide)
  have label := copy_valid valid.label (by decide)
  refine ⟨⟨rfl, protocol_byte _, ?_, Chars.copy_ended (by decide) _, Chars.copy_ended (by decide) _⟩, rfl, rfl, rfl, rfl,
    rfl, ?_, flag_ne_zero _, flag_ne_zero _, rfl⟩
  · rw [Times.holdTexts]
    simp only [record, primary.1, secondary.1, rule.1, label.1, Bool.and_self]
  · simp only [Exposed.withTimes, record, primary.2, secondary.2, rule.2, label.2]
    rfl

theorem record_exposes (valid : arguments.Valid) (defaults : AppConfig.UploadConfig) :
    (arguments.record settings).sealed.exposes defaults = arguments.exposes settings defaults ∧
      (arguments.record settings).sealed.valid = true := by
  have describes := @record_describes arguments settings valid defaults
  have host := of_validText valid.host
  obtain ⟨some, fits, -⟩ := validText_iff.mp valid.host
  rw [describes.exposes, describes.valid, Exposed.clipped_eq_self, ne_eq, CText.eq_empty]
  refine ⟨⟨?_, credential_fits valid.clientId, credential_fits valid.clientSecret⟩, ?_, valid.port⟩
  · exact host.symm ▸ fits
  · exact host.symm ▸ some

theorem saved_exposed (accepted : (arguments.save settings eeprom).1 = true) :
    (arguments.save settings eeprom).2.1.exposed = arguments.exposes settings settings.defaults := by
  obtain ⟨valid, commits⟩ := save_accepted.mp accepted
  rw [save_valid valid, if_pos commits, apply_exposed]
  exact (record_exposes valid _).1

theorem saved_booted (accepted : (arguments.save settings eeprom).1 = true) (defaults : AppConfig.UploadConfig)
    (enabled remote : Bool) (boots : Nat) :
    exposedAfter defaults enabled remote boots (arguments.save settings eeprom).2.2 =
      arguments.exposes settings defaults := by
  obtain ⟨valid, commits⟩ := save_accepted.mp accepted
  obtain ⟨exposed, holds⟩ := @record_exposes arguments settings valid defaults
  have written : (arguments.save settings eeprom).2.2.commits = true ∧
      Record.codec.decode (arguments.save settings eeprom).2.2.flash = (arguments.record settings).sealed := by
    rw [save_valid valid, if_pos commits, Eeprom.commit, Eeprom.put]
    simp only [commits, if_true]
    exact ⟨trivial, Record.codec.decode_encode _ _⟩
  have applied : loaded defaults enabled remote (arguments.save settings eeprom).2.2.flash =
      (arguments.record settings).sealed := by
    rw [loaded, written.2]
    exact if_pos holds
  refine (exposedAfter_iff written.1 _).mpr ?_ boots
  rw [applied]
  exact ⟨exposed, .inl holds⟩

/-- The accessors return the arguments, and for a blank credential what they returned before. -/
structure Shown (arguments : Arguments) (previous exposed : Exposed) : Prop where
  host : exposed.config.mqttHost.bytes = arguments.host
  port : exposed.config.mqttPort = arguments.port
  enabled : exposed.uploadEnabled = arguments.enabled
  primary : exposed.ntpPrimary.bytes = arguments.ntpPrimary
  secondary : exposed.ntpSecondary.bytes = arguments.ntpSecondary
  rule : exposed.timeZoneRule.bytes = arguments.timeZoneRule
  label : exposed.timeZoneLabel.bytes = arguments.timeZoneLabel
  remote : exposed.remoteManagementEnabled = arguments.remoteManagementEnabled
  applied : exposed.appliedConfigVersion = arguments.appliedConfigVersion
  clientId : exposed.config.cloudflareAccessClientId.bytes =
    if arguments.cloudflareAccessClientId = [] then previous.config.cloudflareAccessClientId.bytes
    else arguments.cloudflareAccessClientId
  clientSecret : exposed.config.cloudflareAccessClientSecret.bytes =
    if arguments.cloudflareAccessClientSecret = [] then previous.config.cloudflareAccessClientSecret.bytes
    else arguments.cloudflareAccessClientSecret

theorem credential_bytes {value : Bytes} {kept : Buffer kCloudflareCredentialCapacity}
    (valid : value = [] ∨ validText value kCloudflareCredentialCapacity = true) :
    (credential value kept).bytes = if value = [] then kept.text.bytes else value := by
  unfold credential
  rcases valid with rfl | valid
  · rfl
  · have some := (validText_iff.mp valid).1
    rw [if_neg (by simpa using some), if_neg some, of_validText valid]

theorem exposes_shown (valid : arguments.Valid) (defaults : AppConfig.UploadConfig) :
    arguments.Shown settings.exposed (arguments.exposes settings defaults) where
  host := of_validText valid.host
  port := rfl
  enabled := rfl
  primary := of_validText valid.primary
  secondary := of_validText valid.secondary
  rule := of_validText valid.rule
  label := of_validText valid.label
  remote := rfl
  applied := rfl
  clientId := credential_bytes valid.clientId
  clientSecret := credential_bytes valid.clientSecret

end Arguments

/-- A save that is accepted lasts, one that is refused changes nothing. -/
def SavesLast : Prop :=
  ∀ (arguments : Arguments) (settings : RuntimeSettings) (eeprom : Eeprom), eeprom.commits = true →
    ((arguments.save settings eeprom).1 = true → ∀ defaults enabled remote boots,
      arguments.Shown settings.exposed (exposedAfter defaults enabled remote boots (arguments.save settings eeprom).2.2)) ∧
    ((arguments.save settings eeprom).1 = false → (arguments.save settings eeprom).2.1.exposed = settings.exposed)

theorem saves_last : SavesLast := by
  intro arguments settings eeprom _
  constructor
  · intro accepted defaults enabled remote boots
    rw [Arguments.saved_booted accepted]
    exact Arguments.exposes_shown (Arguments.save_accepted.mp accepted).1 defaults
  · intro refused
    rw [Arguments.save_refused refused]

/-- Every boot exposes what is stored, and every save lasts, just when the record that the first boot writes is one
that the next accepts. -/
theorem settings_survive (defaults : AppConfig.UploadConfig) (enabled remote : Bool) {eeprom : Eeprom} {stored : Stored}
    (commits : eeprom.commits = true) (held : stored.HeldIn eeprom.flash) :
    (∀ boots, exposedAfter defaults enabled remote boots eeprom = stored.exposes defaults enabled remote) ∧ SavesLast ↔
      stored.Kept defaults enabled remote := by
  rw [← kept_exposed defaults enabled remote commits held]
  exact and_iff_left saves_last

def upgraded : Version3Record :=
  let record : Version3Record :=
    { head := head 3 Version3Record.codec.width
      uploadEnabled := 1
      remoteManagementEnabled := 1
      mqttPort := 1883
      appliedConfigVersion := 7
      mqttHost := .copy _ (.literal "broker")
      times := (populateDefaults {} false false).times
      checksum := 0 }
  { record with checksum := record.sum }

def upgradedEeprom : Eeprom where
  flash := Version3Record.codec.encode upgraded
  cells := []

theorem upgraded_held : (Stored.version3 upgraded).HeldIn upgradedEeprom.flash := by
  have whole := Version3Record.codec.decode_encode upgraded []
  rw [List.append_nil] at whole
  exact ⟨whole, by decide +kernel⟩

theorem settings_survive_mqtt :
    (∀ boots, exposedAfter {} true false boots upgradedEeprom = (Stored.version3 upgraded).exposes {} true false) ∧
      SavesLast :=
  (settings_survive {} true false rfl upgraded_held).mpr ⟨⟨by decide, by decide⟩, .inl rfl⟩

/-- Without a default host, an HTTPS device forgets what it has migrated. -/
theorem not_settings_survive :
    ¬∀ (defaults : AppConfig.UploadConfig) (enabled remote : Bool) (eeprom : Eeprom) (stored : Stored),
      eeprom.commits = true → stored.HeldIn eeprom.flash →
        (∀ boots, exposedAfter defaults enabled remote boots eeprom = stored.exposes defaults enabled remote) ∧
          SavesLast := by
  intro claimed
  have second := (claimed { protocol := .https } true false upgradedEeprom _ rfl upgraded_held).1 1
  have forgotten : (exposedAfter { protocol := .https } true false 1 upgradedEeprom).appliedConfigVersion = 0 := by
    decide +kernel
  rw [second] at forgotten
  exact absurd forgotten (by decide)

end RuntimeSettings

end ApexiDevices
