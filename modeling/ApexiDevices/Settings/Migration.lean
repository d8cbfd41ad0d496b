import ApexiDevices.Settings.RuntimeSettings

set_option autoImplicit false

/-!
# Settings across reboots

What the accessors expose after a boot depends on the stored record only, and a
record that `begin` has written is the one that the next boot reads.
-/

namespace ApexiDevices

open Device

namespace RuntimeSettings

structure Exposed where
  config : AppConfig.UploadConfig
  uploadEnabled : Bool
  ntpPrimary : CText
  ntpSecondary : CText
  timeZoneRule : CText
  timeZoneLabel : CText
  remoteManagementEnabled : Bool
  appliedConfigVersion : UInt32
  deriving DecidableEq

def exposed (settings : RuntimeSettings) : Exposed where
  config := settings.uploadConfig
  uploadEnabled := settings.uploadEnabled
  ntpPrimary := settings.ntpPrimary.text
  ntpSecondary := settings.ntpSecondary.text
  timeZoneRule := settings.timeZoneRule.text
  timeZoneLabel := settings.timeZoneLabel.text
  remoteManagementEnabled := settings.remoteManagementEnabled
  appliedConfigVersion := settings.appliedConfigVersion

def Record.exposes (record : Record) (defaults : AppConfig.UploadConfig) : Exposed :=
  (({ defaults } : RuntimeSettings).apply record).exposed

theorem apply_exposed (settings : RuntimeSettings) (record : Record) :
    (settings.apply record).exposed = record.exposes settings.defaults := rfl

inductive Stored where
  | legacy (record : LegacyRecord)
  | version2 (record : Version2Record)
  | version3 (record : Version3Record)
  | version4 (record : Version4Record)
  | current (record : Record)

namespace Stored

def HeldIn (flash : Bytes) : Stored → Prop
  | legacy record => LegacyRecord.codec.decode flash = record ∧ record.valid = true
  | version2 record => Version2Record.codec.decode flash = record ∧ record.valid = true
  | version3 record => Version3Record.codec.decode flash = record ∧ record.valid = true
  | version4 record => Version4Record.codec.decode flash = record ∧ record.valid = true
  | current record => Record.codec.decode flash = record ∧ record.valid = true

end Stored

section Exposing

variable (defaults : AppConfig.UploadConfig) (enabled remote : Bool)

def Exposed.ofDefaults : Exposed where
  config := defaults
  uploadEnabled := enabled
  ntpPrimary := .literal "pool.ntp.org"
  ntpSecondary := .literal "time.google.com"
  timeZoneRule := .literal "AWST-8"
  timeZoneLabel := .literal "AWST"
  remoteManagementEnabled := remote
  appliedConfigVersion := 0

def Exposed.withTimes (exposed : Exposed) (times : Times) : Exposed :=
  { exposed with
    ntpPrimary := times.ntpPrimary.text
    ntpSecondary := times.ntpSecondary.text
    timeZoneRule := times.timeZoneRule.text
    timeZoneLabel := times.timeZoneLabel.text }

/-- The stored values, and the defaults for what the format does not store. -/
def Stored.exposes : Stored → Exposed
  | .legacy record =>
    { Exposed.ofDefaults defaults enabled remote with
      config := { defaults with mqttHost := record.mqttHost.text, mqttPort := record.mqttPort }
      uploadEnabled := record.uploadEnabled != 0 }
  | .version2 record =>
    { (Exposed.ofDefaults defaults enabled remote).withTimes record.times with
      config := { defaults with mqttHost := record.mqttHost.text, mqttPort := record.mqttPort }
      uploadEnabled := record.uploadEnabled != 0 }
  | .version3 record =>
    { (Exposed.ofDefaults defaults enabled remote).withTimes record.times with
      config :=
        if defaults.protocol = .mqtt then
          { defaults with mqttHost := record.mqttHost.text, mqttPort := record.mqttPort }
        else defaults
      uploadEnabled := record.uploadEnabled != 0
      remoteManagementEnabled := record.remoteManagementEnabled != 0
      appliedConfigVersion := record.appliedConfigVersion }
  | .version4 record =>
    { (Exposed.ofDefaults defaults enabled remote).withTimes record.times with
      config := { defaults with mqttHost := record.mqttHost.text, mqttPort := record.mqttPort }
      uploadEnabled := record.uploadEnabled != 0
      remoteManagementEnabled := record.remoteManagementEnabled != 0
      appliedConfigVersion := record.appliedConfigVersion }
  | .current record =>
    { (Exposed.ofDefaults defaults enabled remote).withTimes record.times with
      config :=
        { defaults with
          mqttHost := record.mqttHost.text
          mqttPort := record.mqttPort
          cloudflareAccessClientId := record.cloudflareAccessClientId.text
          cloudflareAccessClientSecret := record.cloudflareAccessClientSecret.text }
      uploadEnabled := record.uploadEnabled != 0
      remoteManagementEnabled := record.remoteManagementEnabled != 0
      appliedConfigVersion := record.appliedConfigVersion }

/-- The default credentials fit the record. -/
def CredentialsFit : Prop :=
  defaults.cloudflareAccessClientId.bytes.length < kCloudflareCredentialCapacity ∧
    defaults.cloudflareAccessClientSecret.bytes.length < kCloudflareCredentialCapacity

/-- No default that is exposed is cut, and the record that a boot writes is one that the next boot accepts, or
holds the defaults anyway. -/
def Stored.Kept : Stored → Prop
  | .current _ => True
  | .version3 record => CredentialsFit defaults ∧ (defaults.protocol = .mqtt ∨
      defaults.mqttHost.bytes.length < kHostCapacity ∧
        (defaults.mqttHost ≠ .empty ∧ defaults.mqttPort ≠ 0 ∨
          (Stored.version3 record).exposes defaults enabled remote = .ofDefaults defaults enabled remote))
  | _ => CredentialsFit defaults

end Exposing

section Loading

variable {defaults : AppConfig.UploadConfig} {enabled remote : Bool} {cells flash : Bytes} {eeprom : Eeprom}

def loaded (defaults : AppConfig.UploadConfig) (enabled remote : Bool) (cells : Bytes) : Record :=
  let record := Record.codec.decode cells
  if record.valid then record else migrated cells defaults enabled remote

theorem begin_current (settings : RuntimeSettings) (valid : (Record.codec.decode eeprom.flash).valid = true) :
    settings.begin defaults enabled remote eeprom =
      ({ settings with defaults }.apply (Record.codec.decode eeprom.flash), eeprom.begin) :=
  if_pos valid

theorem begin_older (settings : RuntimeSettings) (older : ¬(Record.codec.decode eeprom.flash).valid = true) :
    settings.begin defaults enabled remote eeprom =
      ({ settings with defaults }.apply (migrated eeprom.flash defaults enabled remote),
        (eeprom.begin.put Record.codec (migrated eeprom.flash defaults enabled remote)).commit.2) :=
  if_neg older

theorem begin_exposed (settings : RuntimeSettings) :
    (settings.begin defaults enabled remote eeprom).1.exposed =
      (loaded defaults enabled remote eeprom.flash).exposes defaults := by
  unfold loaded
  by_cases valid : (Record.codec.decode eeprom.flash).valid = true
  · simp only [begin_current settings valid, valid, if_true]
    rfl
  · simp only [begin_older settings valid, valid]
    rfl

theorem begin_commits (settings : RuntimeSettings) :
    (settings.begin defaults enabled remote eeprom).2.commits = eeprom.commits := by
  by_cases valid : (Record.codec.decode eeprom.flash).valid = true
  · rw [begin_current settings valid]
    rfl
  · rw [begin_older settings valid, Eeprom.commit]
    dsimp only
    split <;> rfl

theorem begin_stores (settings : RuntimeSettings) (commits : eeprom.commits = true) :
    Record.codec.decode (settings.begin defaults enabled remote eeprom).2.flash =
      loaded defaults enabled remote eeprom.flash := by
  unfold loaded
  by_cases valid : (Record.codec.decode eeprom.flash).valid = true
  · simp only [begin_current settings valid, valid, if_true]
    rfl
  · simp only [begin_older settings valid, valid, Eeprom.commit, Eeprom.put, Eeprom.begin, commits, if_true]
    exact Record.codec.decode_encode _ _

def booted (defaults : AppConfig.UploadConfig) (enabled remote : Bool) : Nat → Eeprom → Eeprom
  | 0, eeprom => eeprom
  | boots + 1, eeprom => (({} : RuntimeSettings).begin defaults enabled remote (booted defaults enabled remote boots eeprom)).2

def exposedAfter (defaults : AppConfig.UploadConfig) (enabled remote : Bool) (boots : Nat) (eeprom : Eeprom) : Exposed :=
  (({} : RuntimeSettings).begin defaults enabled remote (booted defaults enabled remote boots eeprom)).1.exposed

/-! Every format has its version in the same place. -/

theorem version_of_valid1 (valid : (LegacyRecord.codec.decode cells).valid = true) :
    (Head.codec.decode cells).version = 1 := by
  simp only [LegacyRecord.valid, Head.describes, Bool.and_eq_true, beq_iff_eq] at valid
  exact valid.1.1.1.1.2

theorem version_of_valid2 (valid : (Version2Record.codec.decode cells).valid = true) :
    (Head.codec.decode cells).version = 2 := by
  simp only [Version2Record.valid, Head.describes, Bool.and_eq_true, beq_iff_eq] at valid
  exact valid.1.1.1.1.1.2

theorem version_of_valid3 (valid : (Version3Record.codec.decode cells).valid = true) :
    (Head.codec.decode cells).version = 3 := by
  simp only [Version3Record.valid, Head.describes, Bool.and_eq_true, beq_iff_eq] at valid
  exact valid.1.1.1.1.1.2

theorem version_of_valid4 (valid : (Version4Record.codec.decode cells).valid = true) :
    (Head.codec.decode cells).version = 4 := by
  simp only [Version4Record.valid, Head.describes, Bool.and_eq_true, beq_iff_eq] at valid
  exact valid.1.1.1.1.1.1.2

theorem version_of_valid (valid : (Record.codec.decode cells).valid = true) :
    (Head.codec.decode cells).version = kVersion := by
  simp only [Record.valid, Head.describes, Bool.and_eq_true, beq_iff_eq] at valid
  exact valid.1.1.1.1.1.1.1.1.2

def Current (cells : Bytes) : Prop := (Head.codec.decode cells).version = kVersion

def fresh (defaults : AppConfig.UploadConfig) (enabled remote : Bool) : Record :=
  (populateDefaults defaults enabled remote).sealed

theorem migrated_other (old1 : ¬(LegacyRecord.codec.decode cells).valid = true)
    (old2 : ¬(Version2Record.codec.decode cells).valid = true)
    (old3 : ¬(Version3Record.codec.decode cells).valid = true)
    (old4 : ¬(Version4Record.codec.decode cells).valid = true) :
    migrated cells defaults enabled remote = fresh defaults enabled remote := by
  simp only [migrated, old1, old2, old3, old4, Bool.false_eq_true, if_false]
  rfl

theorem migrated_current (current : Current cells) :
    migrated cells defaults enabled remote = fresh defaults enabled remote := by
  have other (version : UInt16) (same : (Head.codec.decode cells).version = version) : version = kVersion :=
    same.symm.trans current
  apply migrated_other
  · exact fun valid => absurd (other 1 (version_of_valid1 valid)) (by decide)
  · exact fun valid => absurd (other 2 (version_of_valid2 valid)) (by decide)
  · exact fun valid => absurd (other 3 (version_of_valid3 valid)) (by decide)
  · exact fun valid => absurd (other 4 (version_of_valid4 valid)) (by decide)

theorem migrated_head : (migrated cells defaults enabled remote).head = head kVersion Record.codec.width := by
  simp only [migrated, Record.sealed]
  split
  · rfl
  split
  · unfold Version3Record.carry
    dsimp only
    split <;> rfl
  split
  · rfl
  split
  · rfl
  · rfl

theorem loaded_version : (loaded defaults enabled remote cells).head.version = kVersion := by
  unfold loaded
  by_cases valid : (Record.codec.decode cells).valid = true
  · simp only [valid, if_true]
    exact version_of_valid valid
  · simp only [valid, Bool.false_eq_true, if_false, migrated_head]
    rfl

theorem loaded_again (commits : eeprom.commits = true) (boots : Nat) :
    (booted defaults enabled remote boots eeprom).commits = true ∧
      loaded defaults enabled remote (booted defaults enabled remote boots eeprom).flash =
        if boots = 0 ∨ (loaded defaults enabled remote eeprom.flash).valid then
          loaded defaults enabled remote eeprom.flash
        else fresh defaults enabled remote := by
  induction boots with
  | zero => exact ⟨commits, rfl⟩
  | succ boots ih =>
    obtain ⟨works, before⟩ := ih
    refine ⟨(begin_commits _).trans works, ?_⟩
    have stored : Record.codec.decode (booted defaults enabled remote (boots + 1) eeprom).flash = _ :=
      begin_stores {} works
    have current : Current (booted defaults enabled remote (boots + 1) eeprom).flash := by
      have head := congrArg (fun record => record.head.version) stored
      exact head.trans loaded_version
    rw [before] at stored
    simp only [Nat.succ_ne_zero, false_or]
    by_cases valid : (loaded defaults enabled remote eeprom.flash).valid = true
    · simp only [valid, or_true, if_true] at stored ⊢
      rw [loaded, stored]
      exact if_pos valid
    · simp only [valid, Bool.false_eq_true, or_false, if_false] at stored ⊢
      rw [loaded, stored, migrated_current current]
      -- The record found is the invalid one of the first boot, or already that of the defaults.
      by_cases first : boots = 0
      · simp only [first, if_true, valid, Bool.false_eq_true, if_false]
      · simp only [first, if_false, ite_self]

theorem exposedAfter_iff (commits : eeprom.commits = true) (expected : Exposed) :
    (∀ boots, exposedAfter defaults enabled remote boots eeprom = expected) ↔
      (loaded defaults enabled remote eeprom.flash).exposes defaults = expected ∧
        ((loaded defaults enabled remote eeprom.flash).valid = true ∨
          (fresh defaults enabled remote).exposes defaults = expected) := by
  have each (boots : Nat) := (@loaded_again defaults enabled remote eeprom commits boots).2
  unfold exposedAfter
  simp only [begin_exposed, each]
  constructor
  · intro all
    refine ⟨all 0, ?_⟩
    by_cases valid : (loaded defaults enabled remote eeprom.flash).valid = true
    · exact .inl valid
    · have second := all 1
      simp only [Nat.succ_ne_zero, valid, Bool.false_eq_true, or_false, if_false] at second
      exact .inr second
  · rintro ⟨first, later⟩ boots
    split
    · exact first
    · rename_i neither
      exact later.resolve_left fun valid => neither (.inr valid)

end Loading

def Exposed.clipped (exposed : Exposed) : Exposed :=
  { exposed with
    config :=
      { exposed.config with
        mqttHost := exposed.config.mqttHost.clipped kHostCapacity
        cloudflareAccessClientId := exposed.config.cloudflareAccessClientId.clipped kCloudflareCredentialCapacity
        cloudflareAccessClientSecret :=
          exposed.config.cloudflareAccessClientSecret.clipped kCloudflareCredentialCapacity } }

theorem Exposed.clipped_eq_self {exposed : Exposed} :
    exposed.clipped = exposed ↔
      exposed.config.mqttHost.bytes.length < kHostCapacity ∧ CredentialsFit exposed.config := by
  obtain ⟨config, enabled, primary, secondary, rule, label, remote, applied⟩ := exposed
  obtain ⟨protocol, device, host, port, user, password, topic, publish, reconnect, path, id, secret, token⟩ := config
  simp [Exposed.clipped, CredentialsFit, CText.clipped_eq_self, kHostCapacity, kCloudflareCredentialCapacity]
  omega

structure Record.Ended (record : Record) : Prop where
  host : record.mqttHost.bytes.getLastD 0 = 0
  primary : record.times.ntpPrimary.bytes.getLastD 0 = 0
  secondary : record.times.ntpSecondary.bytes.getLastD 0 = 0
  rule : record.times.timeZoneRule.bytes.getLastD 0 = 0
  label : record.times.timeZoneLabel.bytes.getLastD 0 = 0
  clientId : record.cloudflareAccessClientId.bytes.getLastD 0 = 0
  clientSecret : record.cloudflareAccessClientSecret.bytes.getLastD 0 = 0

section Formats

variable {defaults : AppConfig.UploadConfig} {enabled remote : Bool} {cells : Bytes} {capacity : Nat}

theorem exposes_of_ended {record : Record} (ended : record.Ended) :
    record.exposes defaults = (Stored.current record).exposes defaults enabled remote := by
  simp only [Record.exposes, exposed, uploadConfig, apply, Buffer.copy, Chars.clipped_text ended.host,
    Chars.clipped_text ended.primary, Chars.clipped_text ended.secondary, Chars.clipped_text ended.rule,
    Chars.clipped_text ended.label, Chars.clipped_text ended.clientId, Chars.clipped_text ended.clientSecret]
  rfl

theorem ended_of_holdsText {chars : Chars capacity} (holds : chars.holdsText = true) :
    chars.bytes.getLastD 0 = 0 := by
  rw [Chars.holdsText, Bool.and_eq_true] at holds
  exact beq_iff_eq.mp holds.2

theorem copied_text {chars : Chars capacity} (holds : chars.holdsText = true) (positive : 0 < capacity) :
    (Chars.copy capacity chars.text).text = chars.text := by
  rw [Chars.text_copy positive, Chars.clipped_text (ended_of_holdsText holds)]

theorem copied_holdsText {chars : Chars capacity} (holds : chars.holdsText = true) (positive : 1 < capacity) :
    (Chars.copy capacity chars.text).holdsText = true := by
  have some := Chars.text_ne_empty holds
  rw [Chars.holdsText_copy positive, Bool.not_eq_true']
  rw [List.isEmpty_eq_false_iff]
  exact fun none => some (CText.ext none)

/-- A record with magic, version and size, whose texts of time are those of a record or the defaults. -/
structure Composed (record : Record) : Prop where
  head : record.head = head kVersion Record.codec.width
  protocol : record.uploadProtocol ≤ AppConfig.Protocol.https.byte
  times : record.times.holdTexts = true
  clientId : record.cloudflareAccessClientId.bytes.getLastD 0 = 0
  clientSecret : record.cloudflareAccessClientSecret.bytes.getLastD 0 = 0

theorem sealed_sum (record : Record) : record.sealed.checksum = record.sealed.sum := by
  have fields : record.sealed.fields = record.fields := rfl
  have stored : record.sealed.checksum = record.sum := by
    simp only [Record.sealed]
  rw [stored, Record.sum, Record.sum, fields]

theorem Composed.valid {record : Record} (composed : Composed record) :
    record.sealed.valid = (record.mqttPort != 0 && record.mqttHost.holdsText) := by
  have described : record.sealed.head.describes kVersion Record.codec.width = true := by
    rw [show record.sealed.head = record.head from rfl, composed.head]
    decide
  have protocol : record.sealed.uploadProtocol ≤ AppConfig.Protocol.https.byte := composed.protocol
  have times : record.sealed.times.holdTexts = true := composed.times
  have clientId : record.sealed.cloudflareAccessClientId.bytes.getLastD 0 = 0 := composed.clientId
  have clientSecret : record.sealed.cloudflareAccessClientSecret.bytes.getLastD 0 = 0 := composed.clientSecret
  simp only [Record.valid, described, protocol, times, clientId, clientSecret, sealed_sum, decide_true,
    beq_self_eq_true, Bool.true_and, Bool.and_true]
  rfl

theorem protocol_byte (protocol : AppConfig.Protocol) : protocol.byte ≤ AppConfig.Protocol.https.byte := by
  cases protocol <;> decide

theorem populateDefaults_composed (defaults : AppConfig.UploadConfig) (enabled remote : Bool) :
    Composed (populateDefaults defaults enabled remote) where
  head := rfl
  protocol := protocol_byte _
  times := by
    have constant : (populateDefaults {} false false).times.holdTexts = true := by decide
    exact constant
  clientId := Chars.copy_ended (by decide) _
  clientSecret := Chars.copy_ended (by decide) _

theorem copied_holdTexts {times : Times} (hold : times.holdTexts = true) : times.copied.holdTexts = true := by
  simp only [Times.holdTexts, Bool.and_eq_true] at hold ⊢
  obtain ⟨⟨⟨primary, secondary⟩, rule⟩, label⟩ := hold
  exact ⟨⟨⟨copied_holdsText primary (by decide), copied_holdsText secondary (by decide)⟩,
    copied_holdsText rule (by decide)⟩, copied_holdsText label (by decide)⟩

/-- A composed record has the values to be exposed, as far as its arrays have room. -/
structure Describes (record : Record) (exposed : Exposed) (defaults : AppConfig.UploadConfig) : Prop where
  composed : Composed record
  host : record.mqttHost = .copy _ exposed.config.mqttHost
  port : record.mqttPort = exposed.config.mqttPort
  clientId : record.cloudflareAccessClientId = .copy _ exposed.config.cloudflareAccessClientId
  clientSecret : record.cloudflareAccessClientSecret = .copy _ exposed.config.cloudflareAccessClientSecret
  config : exposed.config =
    { defaults with
      mqttHost := exposed.config.mqttHost
      mqttPort := exposed.config.mqttPort
      cloudflareAccessClientId := exposed.config.cloudflareAccessClientId
      cloudflareAccessClientSecret := exposed.config.cloudflareAccessClientSecret }
  times : exposed = exposed.withTimes record.times
  enabled : (record.uploadEnabled != 0) = exposed.uploadEnabled
  remote : (record.remoteManagementEnabled != 0) = exposed.remoteManagementEnabled
  applied : record.appliedConfigVersion = exposed.appliedConfigVersion

theorem Describes.exposes {record : Record} {exposed : Exposed} (describes : Describes record exposed defaults) :
    record.sealed.exposes defaults = exposed.clipped := by
  have ends := describes.composed.times
  simp only [Times.holdTexts, Bool.and_eq_true] at ends
  have ended : record.Ended :=
    ⟨describes.host ▸ Chars.copy_ended (by decide) _, ended_of_holdsText ends.1.1.1, ended_of_holdsText ends.1.1.2,
      ended_of_holdsText ends.1.2, ended_of_holdsText ends.2, describes.composed.clientId,
      describes.composed.clientSecret⟩
  have unsealed : record.sealed.exposes defaults = record.exposes defaults := rfl
  rw [unsealed, @exposes_of_ended defaults false false record ended, Exposed.clipped, describes.times]
  simp only [Stored.exposes, Exposed.withTimes, describes.host, describes.port, describes.clientId,
    describes.clientSecret, @Chars.text_copy kHostCapacity (by decide),
    @Chars.text_copy kCloudflareCredentialCapacity (by decide), describes.enabled, describes.remote,
    describes.applied]
  rw [describes.config]

theorem Describes.valid {record : Record} {exposed : Exposed} (describes : Describes record exposed defaults) :
    record.sealed.valid = true ↔ exposed.config.mqttHost ≠ .empty ∧ exposed.config.mqttPort ≠ 0 := by
  rw [describes.composed.valid, describes.host, describes.port, Chars.holdsText_copy (by decide), ne_eq,
    CText.eq_empty, ne_eq, Bool.and_eq_true, bne_iff_ne, Bool.not_eq_true', List.isEmpty_eq_false_iff]
  exact And.comm

theorem literal_text {capacity : Nat} {text : String} (positive : 0 < capacity)
    (fits : (CText.literal text).bytes.length ≤ capacity - 1) :
    (Chars.copy capacity (.literal text)).text = .literal text := by
  rw [Chars.text_copy positive, CText.clipped_eq_self.mpr fits]

theorem flag_ne_zero (value : Bool) : (flag value != 0) = value := by
  cases value <;> rfl

theorem fresh_describes :
    Describes (populateDefaults defaults enabled remote) (.ofDefaults defaults enabled remote) defaults where
  composed := populateDefaults_composed _ _ _
  host := rfl
  port := rfl
  clientId := rfl
  clientSecret := rfl
  config := rfl
  times := by
    have primary := @literal_text kNtpCapacity "pool.ntp.org" (by decide) (by decide)
    have secondary := @literal_text kNtpCapacity "time.google.com" (by decide) (by decide)
    have rule := @literal_text kTimeZoneRuleCapacity "AWST-8" (by decide) (by decide)
    have label := @literal_text kTimeZoneLabelCapacity "AWST" (by decide) (by decide)
    simp only [Exposed.withTimes, populateDefaults, primary, secondary, rule, label]
    rfl
  enabled := flag_ne_zero _
  remote := flag_ne_zero _
  applied := rfl

theorem withTimes_copied {times : Times} (exposed : Exposed) (hold : times.holdTexts = true) :
    exposed.withTimes times.copied = exposed.withTimes times := by
  simp only [Times.holdTexts, Bool.and_eq_true] at hold
  obtain ⟨⟨⟨primary, secondary⟩, rule⟩, label⟩ := hold
  simp only [Exposed.withTimes, Times.copied, copied_text primary (by decide), copied_text secondary (by decide),
    copied_text rule (by decide), copied_text label (by decide)]

theorem legacy_describes (record : LegacyRecord) :
    Describes (record.carry (populateDefaults defaults enabled remote))
      ((Stored.legacy record).exposes defaults enabled remote) defaults where
  composed := ⟨rfl, protocol_byte _, (populateDefaults_composed defaults enabled remote).times, (populateDefaults_composed defaults enabled remote).clientId,
    (populateDefaults_composed defaults enabled remote).clientSecret⟩
  host := rfl
  port := rfl
  clientId := rfl
  clientSecret := rfl
  config := rfl
  times := by
    have same := congrArg (fun exposed : Exposed => { exposed with
      config := { defaults with mqttHost := record.mqttHost.text, mqttPort := record.mqttPort }
      uploadEnabled := record.uploadEnabled != 0 }) (@fresh_describes defaults enabled remote).times
    exact same
  enabled := rfl
  remote := flag_ne_zero _
  applied := rfl

theorem version2_describes {record : Version2Record} (hold : record.times.holdTexts = true) :
    Describes (record.carry (populateDefaults defaults enabled remote))
      ((Stored.version2 record).exposes defaults enabled remote) defaults where
  composed := ⟨rfl, protocol_byte _, copied_holdTexts hold, (populateDefaults_composed defaults enabled remote).clientId,
    (populateDefaults_composed defaults enabled remote).clientSecret⟩
  host := rfl
  port := rfl
  clientId := rfl
  clientSecret := rfl
  config := rfl
  times := (withTimes_copied ((Stored.version2 record).exposes defaults enabled remote) hold).symm
  enabled := rfl
  remote := flag_ne_zero _
  applied := rfl

theorem version3_describes {record : Version3Record} (hold : record.times.holdTexts = true) :
    Describes (record.carry defaults.protocol (populateDefaults defaults enabled remote))
      ((Stored.version3 record).exposes defaults enabled remote) defaults := by
  have ends := populateDefaults_composed defaults enabled remote
  have times := (withTimes_copied ((Stored.version3 record).exposes defaults enabled remote) hold).symm
  obtain ⟨protocol, device, host, port, user, password, topic, publish, reconnect, path, id, secret, token⟩ := defaults
  cases protocol with
  | mqtt =>
    exact ⟨⟨rfl, protocol_byte _, copied_holdTexts hold, ends.clientId, ends.clientSecret⟩, rfl, rfl, rfl, rfl, rfl,
      times, rfl, rfl, rfl⟩
  | https =>
    exact ⟨⟨rfl, protocol_byte _, copied_holdTexts hold, ends.clientId, ends.clientSecret⟩, rfl, rfl, rfl, rfl, rfl,
      times, rfl, rfl, rfl⟩

theorem version4_describes {record : Version4Record} (hold : record.times.holdTexts = true)
    (protocol : record.uploadProtocol ≤ AppConfig.Protocol.https.byte) :
    Describes (record.carry (populateDefaults defaults enabled remote))
      ((Stored.version4 record).exposes defaults enabled remote) defaults where
  composed := ⟨rfl, protocol, copied_holdTexts hold, (populateDefaults_composed defaults enabled remote).clientId,
    (populateDefaults_composed defaults enabled remote).clientSecret⟩
  host := rfl
  port := rfl
  clientId := rfl
  clientSecret := rfl
  config := rfl
  times := (withTimes_copied ((Stored.version4 record).exposes defaults enabled remote) hold).symm
  enabled := rfl
  remote := rfl
  applied := rfl

theorem loaded_exposes {stored : Stored} (held : stored.HeldIn cells) :
    (loaded defaults enabled remote cells).exposes defaults = (stored.exposes defaults enabled remote).clipped ∧
      ((loaded defaults enabled remote cells).valid = true ↔
        (stored.exposes defaults enabled remote).config.mqttHost ≠ .empty ∧
          (stored.exposes defaults enabled remote).config.mqttPort ≠ 0) := by
  -- an older format is migrated by one branch, which its version number selects
  have describes {record : Record} (migrates : migrated cells defaults enabled remote = record.sealed)
      (older : (Head.codec.decode cells).version ≠ kVersion)
      (describes : Describes record (stored.exposes defaults enabled remote) defaults) :
      (loaded defaults enabled remote cells).exposes defaults = (stored.exposes defaults enabled remote).clipped ∧
        ((loaded defaults enabled remote cells).valid = true ↔
          (stored.exposes defaults enabled remote).config.mqttHost ≠ .empty ∧
            (stored.exposes defaults enabled remote).config.mqttPort ≠ 0) := by
    have applied : loaded defaults enabled remote cells = record.sealed := by
      rw [← migrates]
      exact if_neg fun valid => older (version_of_valid valid)
    rw [applied]
    exact ⟨describes.exposes, describes.valid⟩
  have not4 (version : (Head.codec.decode cells).version ≠ 4) : ¬(Version4Record.codec.decode cells).valid = true :=
    fun valid => version (version_of_valid4 valid)
  have not3 (version : (Head.codec.decode cells).version ≠ 3) : ¬(Version3Record.codec.decode cells).valid = true :=
    fun valid => version (version_of_valid3 valid)
  have not2 (version : (Head.codec.decode cells).version ≠ 2) : ¬(Version2Record.codec.decode cells).valid = true :=
    fun valid => version (version_of_valid2 valid)
  cases stored with
  | legacy record =>
    obtain ⟨rfl, valid⟩ := held
    have version := version_of_valid1 valid
    refine describes ?_ (by rw [version]; decide) (legacy_describes _)
    simp only [migrated, not4 (by rw [version]; decide), not3 (by rw [version]; decide),
      not2 (by rw [version]; decide), valid, Bool.false_eq_true, if_false, if_true]
  | version2 record =>
    obtain ⟨rfl, valid⟩ := held
    have version := version_of_valid2 valid
    have hold := valid
    simp only [Version2Record.valid, Bool.and_eq_true] at hold
    refine describes ?_ (by rw [version]; decide) (version2_describes hold.1.2)
    simp only [migrated, not4 (by rw [version]; decide), not3 (by rw [version]; decide), valid, Bool.false_eq_true,
      if_false, if_true]
  | version3 record =>
    obtain ⟨rfl, valid⟩ := held
    have version := version_of_valid3 valid
    have hold := valid
    simp only [Version3Record.valid, Bool.and_eq_true] at hold
    refine describes ?_ (by rw [version]; decide) (version3_describes hold.1.2)
    simp only [migrated, not4 (by rw [version]; decide), valid, Bool.false_eq_true, if_false, if_true]
  | version4 record =>
    obtain ⟨rfl, valid⟩ := held
    have version := version_of_valid4 valid
    have hold := valid
    simp only [Version4Record.valid, Bool.and_eq_true, decide_eq_true_eq] at hold
    refine describes ?_ (by rw [version]; decide) (version4_describes hold.1.2 hold.1.1.1.2)
    simp only [migrated, valid, if_true]
  | current record =>
    obtain ⟨rfl, valid⟩ := held
    have applied : loaded defaults enabled remote cells = Record.codec.decode cells := if_pos valid
    rw [applied]
    have hold := valid
    simp only [Record.valid, Times.holdTexts, Bool.and_eq_true, beq_iff_eq, bne_iff_ne] at hold
    obtain ⟨⟨⟨⟨⟨⟨⟨-, port⟩, -⟩, host⟩, ⟨⟨⟨primary, secondary⟩, rule⟩, label⟩⟩, clientId⟩, clientSecret⟩, -⟩ := hold
    have ended : (Record.codec.decode cells).Ended :=
      ⟨ended_of_holdsText host, ended_of_holdsText primary, ended_of_holdsText secondary, ended_of_holdsText rule,
        ended_of_holdsText label, clientId, clientSecret⟩
    -- the current format is read as it is: its texts already end inside their fields
    have whole : ((Stored.current (Record.codec.decode cells)).exposes defaults enabled remote).clipped =
        (Stored.current (Record.codec.decode cells)).exposes defaults enabled remote := by
      simp only [Stored.exposes, Exposed.clipped, Chars.clipped_text ended.host, Chars.clipped_text clientId,
        Chars.clipped_text clientSecret]
    refine ⟨?_, fun _ => ⟨Chars.text_ne_empty host, port⟩, fun _ => valid⟩
    rw [whole]
    exact exposes_of_ended ended

theorem fit_iff {exposed : Exposed} {host : Chars kHostCapacity} {other : Prop} (holds : host.holdsText = true)
    (same : exposed.config.mqttHost = host.text) (port : exposed.config.mqttPort ≠ 0) :
    CredentialsFit exposed.config ↔ exposed.clipped = exposed ∧
      (exposed.config.mqttHost ≠ .empty ∧ exposed.config.mqttPort ≠ 0 ∨ other) := by
  have fits : exposed.config.mqttHost.bytes.length < kHostCapacity := by
    rw [same]
    exact Nat.lt_of_le_of_lt (Chars.text_length (ended_of_holdsText holds)) (by decide)
  have some : exposed.config.mqttHost ≠ .empty := same ▸ Chars.text_ne_empty holds
  rw [Exposed.clipped_eq_self]
  exact ⟨fun credentials => ⟨⟨fits, credentials⟩, .inl ⟨some, port⟩⟩, fun both => both.1.2⟩

theorem kept_iff {stored : Stored} (held : stored.HeldIn cells) :
    stored.Kept defaults enabled remote ↔
      (stored.exposes defaults enabled remote).clipped = stored.exposes defaults enabled remote ∧
        ((stored.exposes defaults enabled remote).config.mqttHost ≠ .empty ∧
            (stored.exposes defaults enabled remote).config.mqttPort ≠ 0 ∨
          (Exposed.ofDefaults defaults enabled remote).clipped = stored.exposes defaults enabled remote) := by
  cases stored with
  | legacy record =>
    obtain ⟨-, valid⟩ := held
    simp only [LegacyRecord.valid, Bool.and_eq_true, bne_iff_ne] at valid
    exact @fit_iff ((Stored.legacy record).exposes defaults enabled remote) _ _ valid.1.2 rfl valid.1.1.2
  | version2 record =>
    obtain ⟨-, valid⟩ := held
    simp only [Version2Record.valid, Bool.and_eq_true, bne_iff_ne] at valid
    exact @fit_iff ((Stored.version2 record).exposes defaults enabled remote) _ _ valid.1.1.2 rfl valid.1.1.1.2
  | version3 record =>
    obtain ⟨-, valid⟩ := held
    simp only [Version3Record.valid, Bool.and_eq_true, bne_iff_ne] at valid
    by_cases mqtt : defaults.protocol = .mqtt
    · have config : ((Stored.version3 record).exposes defaults enabled remote).config =
          { defaults with mqttHost := record.mqttHost.text, mqttPort := record.mqttPort } := if_pos mqtt
      rw [← @fit_iff ((Stored.version3 record).exposes defaults enabled remote) _ _ valid.1.1.2
        (congrArg AppConfig.UploadConfig.mqttHost config) (by rw [config]; exact valid.1.1.1.2), config]
      exact ⟨fun kept => kept.1, fun fits => ⟨fits, .inl mqtt⟩⟩
    · have config : ((Stored.version3 record).exposes defaults enabled remote).config = defaults := if_neg mqtt
      rw [Exposed.clipped_eq_self, config]
      -- The defaults fit, so what a later boot makes of them is not cut either.
      have whole (host : defaults.mqttHost.bytes.length < kHostCapacity) (credentials : CredentialsFit defaults) :
          (Exposed.ofDefaults defaults enabled remote).clipped = .ofDefaults defaults enabled remote :=
        Exposed.clipped_eq_self.mpr ⟨host, credentials⟩
      constructor
      · rintro ⟨credentials, protocol | ⟨host, lasts⟩⟩
        · exact absurd protocol mqtt
        · exact ⟨⟨host, credentials⟩, lasts.imp_right fun same => (whole host credentials).trans same.symm⟩
      · rintro ⟨⟨host, credentials⟩, lasts⟩
        exact ⟨credentials, .inr ⟨host, lasts.imp_right fun same => same.symm.trans (whole host credentials)⟩⟩
  | version4 record =>
    obtain ⟨-, valid⟩ := held
    simp only [Version4Record.valid, Bool.and_eq_true, bne_iff_ne] at valid
    exact @fit_iff ((Stored.version4 record).exposes defaults enabled remote) _ _ valid.1.1.2 rfl valid.1.1.1.1.2
  | current record =>
    obtain ⟨-, valid⟩ := held
    simp only [Record.valid, Bool.and_eq_true, beq_iff_eq, bne_iff_ne] at valid
    obtain ⟨⟨⟨⟨⟨⟨⟨-, port⟩, -⟩, host⟩, -⟩, clientId⟩, clientSecret⟩, -⟩ := valid
    rw [← @fit_iff ((Stored.current record).exposes defaults enabled remote) _ _ host rfl port]
    refine ⟨fun _ => ⟨?_, ?_⟩, fun _ => trivial⟩
    · exact Nat.lt_of_le_of_lt (Chars.text_length clientId) (by decide)
    · exact Nat.lt_of_le_of_lt (Chars.text_length clientSecret) (by decide)

end Formats

theorem kept_exposed (defaults : AppConfig.UploadConfig) (enabled remote : Bool) {eeprom : Eeprom} {stored : Stored}
    (commits : eeprom.commits = true) (held : stored.HeldIn eeprom.flash) :
    (∀ boots, exposedAfter defaults enabled remote boots eeprom = stored.exposes defaults enabled remote) ↔
      stored.Kept defaults enabled remote := by
  obtain ⟨exposes, valid⟩ := @loaded_exposes defaults enabled remote _ _ held
  rw [exposedAfter_iff commits, exposes, valid, fresh, fresh_describes.exposes, kept_iff held]

end RuntimeSettings

end ApexiDevices
