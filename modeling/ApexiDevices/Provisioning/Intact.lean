import ApexiDevices.Provisioning.Commands
import ApexiDevices.Settings.Migration

set_option autoImplicit false

/-!
# Provisioned settings reach the uploader

A device whose settings have been erased takes host, port and credentials from
its provisioning, as far as the buffers of the settings have room.
-/

namespace ApexiDevices

open Device ProvisioningPolicy

namespace RuntimeSettings

section Erased

variable {defaults : AppConfig.UploadConfig} {enabled remote : Bool} {flash : Bytes}

def flashAfter (defaults : AppConfig.UploadConfig) (enabled remote : Bool) : List Bool → Bytes → Bytes
  | [], flash => flash
  | commits :: rest, flash =>
    flashAfter defaults enabled remote rest (({} : RuntimeSettings).begin defaults enabled remote ⟨flash, [], commits⟩).2.flash

theorem begin_uncommitted (settings : RuntimeSettings) {eeprom : Eeprom} (fails : eeprom.commits = false) :
    (settings.begin defaults enabled remote eeprom).2.flash = eeprom.flash := by
  by_cases valid : (Record.codec.decode eeprom.flash).valid = true
  · rw [begin_current settings valid]
    rfl
  · rw [begin_older settings valid, Eeprom.commit]
    simp only [Eeprom.put, Eeprom.begin, fails, Bool.false_eq_true, if_false]

theorem loaded_fresh {eeprom : Eeprom} (settings : RuntimeSettings)
    (same : loaded defaults enabled remote eeprom.flash = fresh defaults enabled remote) :
    loaded defaults enabled remote (settings.begin defaults enabled remote eeprom).2.flash =
      fresh defaults enabled remote := by
  cases commits : eeprom.commits with
  | false => rw [begin_uncommitted settings commits, same]
  | true =>
    have stored := @begin_stores defaults enabled remote eeprom settings commits
    rw [same] at stored
    have current : Current (settings.begin defaults enabled remote eeprom).2.flash := by
      have head := congrArg (fun record => record.head.version) stored
      exact head
    rw [loaded, stored, migrated_current current]
    exact ite_self _

theorem flashAfter_fresh (boots : List Bool) (same : loaded defaults enabled remote flash = fresh defaults enabled remote) :
    loaded defaults enabled remote (flashAfter defaults enabled remote boots flash) = fresh defaults enabled remote := by
  induction boots generalizing flash with
  | nil => exact same
  | cons commits rest ih => exact ih (loaded_fresh {} same)

theorem loaded_erased (rest : Bytes) :
    loaded defaults enabled remote (List.replicate Record.codec.width 0xFF ++ rest) = fresh defaults enabled remote := by
  have version : (Head.codec.decode (List.replicate Record.codec.width 0xFF ++ rest)).version = 0xFFFF := by
    have width : Record.codec.width = 6 + 562 := by decide
    rw [width, List.replicate_add, List.append_assoc]
    have bytes (behind : Bytes) : (Head.codec.decode (List.replicate 6 0xFF ++ behind)).version =
        UInt16.ofNat (ofLittleEndian [0xFF, 0xFF]) := rfl
    rw [bytes]
    decide
  have invalid {expected : UInt16} (found : (Head.codec.decode (List.replicate Record.codec.width 0xFF ++ rest)).version =
      expected) (other : expected ≠ 0xFFFF) : False :=
    other (found.symm.trans version)
  rw [loaded, if_neg fun valid => invalid (version_of_valid valid) (by decide)]
  apply migrated_other
  · exact fun valid => invalid (version_of_valid1 valid) (by decide)
  · exact fun valid => invalid (version_of_valid2 valid) (by decide)
  · exact fun valid => invalid (version_of_valid3 valid) (by decide)
  · exact fun valid => invalid (version_of_valid4 valid) (by decide)

theorem factoryReset_erases {eeprom : Eeprom} (reset : (factoryReset eeprom).1 = true) :
    ∃ rest, (factoryReset eeprom).2.flash = List.replicate Record.codec.width 0xFF ++ rest := by
  have commits : eeprom.commits = true := reset
  refine ⟨eeprom.flash.drop Record.codec.width, ?_⟩
  simp only [factoryReset, Eeprom.commit, Eeprom.begin, commits, if_true]

theorem erased_exposed {eeprom : Eeprom} (reset : (factoryReset eeprom).1 = true) (boots : List Bool) (commits : Bool) :
    (({} : RuntimeSettings).begin defaults enabled remote
        ⟨flashAfter defaults enabled remote boots (factoryReset eeprom).2.flash, [], commits⟩).1.exposed =
      (Exposed.ofDefaults defaults enabled remote).clipped := by
  obtain ⟨rest, erased⟩ := factoryReset_erases reset
  rw [begin_exposed, flashAfter_fresh boots (erased ▸ loaded_erased rest)]
  exact fresh_describes.exposes

end Erased

end RuntimeSettings

namespace DeviceProvisioning

open RuntimeSettings Cells

/-- What the uploader is to get. A candidate for MQTT has no Cloudflare credentials. -/
structure Intact (candidate : Candidate) (exposed : Exposed) : Prop where
  host : exposed.config.mqttHost = candidate.uploadHost
  port : exposed.config.mqttPort = candidate.uploadPort
  clientId : exposed.config.cloudflareAccessClientId = (kept candidate).cloudflareClientId
  clientSecret : exposed.config.cloudflareAccessClientSecret = (kept candidate).cloudflareClientSecret

theorem intact_iff {candidate : Candidate} {deviceId : CText} (accepted : Accepted candidate deviceId)
    (wifiDefaults : WifiConfig) (otaDefaults : OtaConfig) (uploadDefaults : AppConfig.UploadConfig)
    (remote enabled managed : Bool) :
    Intact candidate (Exposed.ofDefaults (provisionedWith wifiDefaults otaDefaults uploadDefaults candidate remote).upload
        enabled managed).clipped ↔
      candidate.uploadHost.bytes.length < kHostCapacity := by
  have credentials : (kept candidate).cloudflareClientId.bytes.length < kCloudflareCredentialCapacity ∧
      (kept candidate).cloudflareClientSecret.bytes.length < kCloudflareCredentialCapacity := by
    cases protocol : candidate.protocol with
    | mqtt =>
      simp only [kept, protocol]
      exact ⟨by decide, by decide⟩
    | https =>
      obtain ⟨clientId, secret, -, -⟩ := accepted.https protocol
      simp only [kept, protocol]
      exact ⟨Nat.lt_succ_of_le (validText_fits clientId).2, Nat.lt_succ_of_le (validText_fits secret).2⟩
  have host : (kept candidate).uploadHost = candidate.uploadHost := by
    unfold DeviceProvisioning.kept
    split <;> rfl
  have port : (kept candidate).uploadPort = candidate.uploadPort := by
    unfold DeviceProvisioning.kept
    split <;> rfl
  constructor
  · intro intact
    have whole : (kept candidate).uploadHost.clipped kHostCapacity = candidate.uploadHost := intact.host
    rw [host, CText.clipped_eq_self] at whole
    exact Nat.lt_of_le_of_lt whole (by decide)
  · intro fits
    have fits : (kept candidate).uploadHost.bytes.length < kHostCapacity := by rwa [host]
    have whole : (Exposed.ofDefaults (provisionedWith wifiDefaults otaDefaults uploadDefaults candidate remote).upload
        enabled managed).clipped = .ofDefaults _ enabled managed := Exposed.clipped_eq_self.mpr ⟨fits, credentials⟩
    rw [whole]
    exact ⟨host, port, rfl, rfl⟩

/-- On a device whose settings were erased, every boot takes over the settings of an accepted command, just when its
host has fewer than 64 bytes. -/
theorem provisioned_intact {self : DeviceProvisioning} {library : JsonLibrary} {line : Bytes} {callback : Bool}
    {cells last final : Cells} {answer booted : Bool × DeviceProvisioning} {candidate : Candidate} {remote : Bool}
    {hardwareId : UInt64} {wifiDefaults : WifiConfig} {otaDefaults : OtaConfig}
    {uploadDefaults : AppConfig.UploadConfig} {eeprom : Eeprom}
    (command : parsed library line = .ok (candidate, remote))
    (run : device.Runs (self.acceptSerialCommand library line callback) cells answer last) (accepted : answer.1 = true)
    (identity : self.deviceId = deviceIdFromHardwareId hardwareId)
    (boot : device.Runs («begin» hardwareId wifiDefaults otaDefaults uploadDefaults) last booted final)
    (reset : (RuntimeSettings.factoryReset eeprom).1 = true) :
    (∀ (enabled managed : Bool) (boots : List Bool) (commits : Bool),
        Intact candidate (({} : RuntimeSettings).begin booted.2.upload enabled managed
          ⟨flashAfter booted.2.upload enabled managed boots (RuntimeSettings.factoryReset eeprom).2.flash, [],
            commits⟩).1.exposed) ↔
      candidate.uploadHost.bytes.length < kHostCapacity := by
  obtain ⟨accepts, -⟩ := Model.wp_runs (acceptSerialCommand_wp self library line callback cells) run
  obtain ⟨candidate', remote', proceeds, stored⟩ := accepts accepted
  obtain ⟨rfl, rfl⟩ := Prod.mk.inj (Except.ok.inj (command.symm.trans proceeds.parsed))
  obtain ⟨rfl, -⟩ := proceeds.begins stored identity boot
  have valid := accepted_of_validate proceeds.valid
  simp only [erased_exposed reset, intact_iff valid, forall_const]

/-! The boot after a command for a given host. -/

def benchStored (host : String) : Cells :=
  ((benchDevice.acceptSerialCommand (benchLibrary host 1883) (benchLine host "1883") true).exec works {}).2

def benchBooted (host : String) : Bool × DeviceProvisioning :=
  ((«begin» 0xA1B2C3D4E5F6 {} {} {}).exec works (benchStored host)).1

theorem bench_proceeds {host : String} (command : kCommandPrefix.isPrefixOf (benchLine host "1883") = true)
    (valid : validate (candidate (bench host 1883)) benchDevice.deviceId = .ok ()) :
    benchDevice.Proceeds (benchLibrary host 1883) (benchLine host "1883") {} (candidate (bench host 1883)) false :=
  ⟨documentOf_parsed (bench_found command), valid, .inl rfl⟩

theorem bench_boots (host : String) : ∃ final, device.Runs («begin» 0xA1B2C3D4E5F6 {} {} {}) (benchStored host)
    (benchBooted host) final :=
  ⟨_, Model.runs_of_handler device_works _ _⟩

theorem bench_runs (host : String) : ∃ answer, device.Runs
    (benchDevice.acceptSerialCommand (benchLibrary host 1883) (benchLine host "1883") true) {} answer
    (benchStored host) ∧ answer = ((benchDevice.acceptSerialCommand (benchLibrary host 1883) (benchLine host "1883")
      true).exec works {}).1 :=
  ⟨_, Model.runs_of_handler device_works _ _, rfl⟩

theorem provisioned_intact_bench :
    Intact (candidate (bench "broker" 1883)) (({} : RuntimeSettings).begin (benchBooted "broker").2.upload true false
      ⟨flashAfter (benchBooted "broker").2.upload true false [true] (RuntimeSettings.factoryReset ⟨[], [], true⟩).2.flash,
        [], true⟩).1.exposed := by
  have proceeds := @bench_proceeds "broker" (by decide +kernel) (by decide +kernel)
  obtain ⟨answer, run, same⟩ := bench_runs "broker"
  obtain ⟨final, boot⟩ := bench_boots "broker"
  have accepted : answer.1 = true := by
    rw [same]
    exact acceptSerialCommand_exec proceeds
  have identity : benchDevice.deviceId = deviceIdFromHardwareId 0xA1B2C3D4E5F6 := by decide
  have reset : (RuntimeSettings.factoryReset ⟨[], [], true⟩).1 = true := rfl
  exact (provisioned_intact proceeds.parsed run accepted identity boot reset).mpr (by decide) true false [true] true

def longHost : String := "a-host-name-of-sixty-four-bytes-that-the-policy-lets-through.com"

/-- A host of 64 bytes loses its last one. -/
theorem not_provisioned_intact :
    ¬∀ (self : DeviceProvisioning) (library : JsonLibrary) (line : Bytes) (callback : Bool) (cells last final : Cells)
        (answer booted : Bool × DeviceProvisioning) (candidate : Candidate) (remote : Bool) (hardwareId : UInt64)
        (wifiDefaults : WifiConfig) (otaDefaults : OtaConfig) (uploadDefaults : AppConfig.UploadConfig)
        (eeprom : Eeprom), parsed library line = .ok (candidate, remote) →
      device.Runs (self.acceptSerialCommand library line callback) cells answer last → answer.1 = true →
      self.deviceId = deviceIdFromHardwareId hardwareId →
      device.Runs («begin» hardwareId wifiDefaults otaDefaults uploadDefaults) last booted final →
      (RuntimeSettings.factoryReset eeprom).1 = true →
      ∀ (enabled managed : Bool) (boots : List Bool) (commits : Bool),
        Intact candidate (({} : RuntimeSettings).begin booted.2.upload enabled managed
          ⟨flashAfter booted.2.upload enabled managed boots (RuntimeSettings.factoryReset eeprom).2.flash, [],
            commits⟩).1.exposed := by
  intro claimed
  have proceeds := @bench_proceeds longHost (by decide +kernel) (by decide +kernel)
  obtain ⟨answer, run, same⟩ := bench_runs longHost
  obtain ⟨final, boot⟩ := bench_boots longHost
  have accepted : answer.1 = true := by
    rw [same]
    exact acceptSerialCommand_exec proceeds
  have identity : benchDevice.deviceId = deviceIdFromHardwareId 0xA1B2C3D4E5F6 := by decide
  have reset : (RuntimeSettings.factoryReset ⟨[], [], true⟩).1 = true := rfl
  have intact := claimed _ _ _ _ _ _ _ _ _ _ _ _ _ _ _ ⟨[], [], true⟩ proceeds.parsed run accepted identity boot reset
    true false [] true
  obtain ⟨accepts, -⟩ := Model.wp_runs (acceptSerialCommand_wp _ _ _ _ _) run
  obtain ⟨candidate, remote, again, stored⟩ := accepts accepted
  obtain ⟨rfl, rfl⟩ := Prod.mk.inj (Except.ok.inj (proceeds.parsed.symm.trans again.parsed))
  rw [erased_exposed reset, (again.begins stored identity boot).1, intact_iff (accepted_of_validate again.valid)] at intact
  exact absurd intact (by decide)

end DeviceProvisioning

end ApexiDevices
