import ApexiDevices.Authorization.LoggerAuthorization

set_option autoImplicit false

/-!
# What a saved record restores

The parser is lossless, so the text of a record is the record itself.
-/

namespace ApexiDevices.LoggerAuthorization

open Device DeviceAuthorizationPolicy

def missing : ArduinoString := .of "null"

def Credential (token device : ArduinoString) : Prop :=
  printable token 32 511 = true ∧ DeviceAuthorizationPolicy.deviceId device = true

def Challenge (id code : ArduinoString) : Prop := uuid id = true ∧ printable code 32 256 = true

/-- What the loader asks of a record, whatever origin it is loaded under. -/
structure Coherent (save : Save) : Prop where
  installation : uuid save.self.installationId = true
  secret : hex save.self.installationSecret 64 = true
  credential : save.self.storedOrigin ≠ missing → Credential save.token save.deviceId
  phase : save.self.rotationPhase ≤ 2
  candidate : save.self.rotationPhase ≠ 0 → printable save.self.candidate 32 511 = true ∧
    printable save.self.rotationNonce 8 96 = true ∧ save.self.rotationVersion ≠ 0
  pending : save.self.ackPending = true →
    Credential save.self.bootstrapToken save.self.bootstrapDeviceId ∧
      Challenge save.self.authorizationId save.self.deviceCode

namespace Save

variable {save : Save} {self fresh : LoggerAuthorization}

theorem record_of_token (token : save.token ≠ .empty) : save.record = save.members := by
  rw [record, if_neg (by simpa using token)]

theorem member_record {key : String} (first : "access_token" ≠ key) (second : "device_id" ≠ key) :
    (Json.object save.record).member key = save.members.get key := by
  rw [Json.member, record]
  split
  · rw [Members.get_remove, if_neg second, Members.get_remove, if_neg first]
  · rfl

variable (save)

def ownCredential (self : LoggerAuthorization) : LoggerAuthorization :=
  { self with
    activeToken := save.token
    deviceId := save.deviceId
    storedToken := save.token
    storedDeviceId := save.deviceId
    credentialVersion := save.version
    candidate := save.self.candidate
    rotationNonce := save.self.rotationNonce
    rotationExpiry := save.self.rotationExpiry
    rotationVersion := save.self.rotationVersion
    rotationPhase := save.self.rotationPhase
    appliedRotationVersion := save.self.appliedRotationVersion
    appliedRotationNonce := save.self.appliedRotationNonce }

def ownPending (self : LoggerAuthorization) : LoggerAuthorization :=
  { self with
    authorizationId := save.self.authorizationId
    deviceCode := save.self.deviceCode
    userCode := save.self.userCode
    ackPending := save.self.ackPending
    expiresEpoch := save.self.expiresEpoch
    bootstrapToken := save.self.bootstrapToken
    bootstrapDeviceId := save.self.bootstrapDeviceId
    bootstrapVersion := save.self.bootstrapVersion }

/-- What is read whatever the origins are. -/
def unowned (fresh : LoggerAuthorization) : LoggerAuthorization :=
  { fresh with
    config := { fresh.config with appDeviceToken := .empty }
    activeToken := .empty
    deviceId := .empty
    candidate := .empty
    rotationPhase := 0
    installationId := save.self.installationId
    installationSecret := save.self.installationSecret
    storedOrigin := save.self.storedOrigin
    storedToken := ((Json.object save.record).member "access_token").asString
    storedDeviceId := ((Json.object save.record).member "device_id").asString
    credentialVersion := save.version }

def restoredIn (fresh : LoggerAuthorization) : LoggerAuthorization :=
  let self := save.unowned fresh
  let self := if save.self.storedOrigin = fresh.origin then save.ownCredential self else self
  let self := if save.self.origin = fresh.origin then save.ownPending self else self
  self.restoreConfig (.object save.record)

variable {save}

theorem uint8_of_int (value : UInt8) : UInt8.ofInt ((Json.int value.toNat).int?.getD 0) = value := by
  have bound := value.toNat_lt
  have small : ((value.toNat : Int) % 2 ^ 8).toNat = value.toNat := by omega
  rw [Json.int?, if_pos (by omega), Option.getD_some, UInt8.ofInt, small, UInt8.ofNat_toNat]

theorem restoreCredential_saved (coherent : Coherent save)
    (credential : Credential save.token save.deviceId) :
    self.restoreCredential (.object save.record) = (true, save.ownCredential self) := by
  rw [record_of_token (printable_ne_empty credential.1 (by decide))]
  have low : ¬2 < save.self.rotationPhase := UInt8.not_lt.mpr coherent.phase
  simp [restoreCredential, Json.member, members, Members.get, Members.find?, ownCredential, credential.1,
    credential.2, low, uint8_of_int]
  intro phase
  simp [coherent.candidate phase]

theorem restorePending_saved (coherent : Coherent save) :
    self.restorePending (.object save.record) = (true, save.ownPending self) := by
  have valid : ¬(save.self.ackPending && (!printable save.self.bootstrapToken 32 511 ||
      !DeviceAuthorizationPolicy.deviceId save.self.bootstrapDeviceId ||
      save.self.authorizationId.length != 36 || !printable save.self.deviceCode 32 256)) = true := by
    intro broken
    rw [Bool.and_eq_true] at broken
    obtain ⟨credential, challenge⟩ := coherent.pending broken.1
    simp [credential.1, credential.2, challenge.2, uuid_length challenge.1] at broken
  simp only [restorePending, member_record, ne_eq, String.reduceEq, not_false_eq_true]
  simp [members, Members.get, Members.find?, ownPending, valid]

theorem restoreRecord_saved (coherent : Coherent save) (hardware : fresh.hardwareId = save.self.hardwareId)
    (origin : fresh.origin ≠ missing) :
    fresh.restoreRecord (some (.object save.record)) = (true, save.restoredIn fresh) := by
  have identity : ((Json.object save.record).member "hardware_id").asString = fresh.hardwareId ∧
      ((Json.object save.record).member "installation_id").asString = save.self.installationId ∧
      ((Json.object save.record).member "installation_secret").asString = save.self.installationSecret ∧
      ((Json.object save.record).member "origin").asString = save.self.storedOrigin ∧
      ((Json.object save.record).member "pending_origin").asString = save.self.origin ∧
      ((Json.object save.record).member "credential_version").uint?.getD 0 = save.version := by
    simp only [member_record, ne_eq, String.reduceEq, not_false_eq_true]
    simp [members, Members.get, Members.find?, hardware]
  obtain ⟨hardware, installation, secret, stored, pending, version⟩ := identity
  simp only [restoreRecord, readStored, restoreOwner, restoredIn, unowned, hardware, installation, secret,
    stored, pending, version, coherent.installation, coherent.secret, restorePending_saved coherent]
  by_cases own : save.self.storedOrigin = fresh.origin
  · have credential := coherent.credential (own ▸ origin)
    by_cases asked : save.self.origin = fresh.origin <;>
      simp [own, asked, restoreCredential_saved coherent credential, ownCredential]
  · by_cases asked : save.self.origin = fresh.origin <;> simp [own, asked]

end Save

section Unbegun

structure Unbegun (before after : LoggerAuthorization) : Prop where
  status : after.status = before.status
  ready : after.ready = before.ready

theorem Unbegun.trans {before between after : LoggerAuthorization} (first : Unbegun before between)
    (second : Unbegun between after) : Unbegun before after :=
  ⟨second.status.trans first.status, second.ready.trans first.ready⟩

variable (logger : LoggerAuthorization)

theorem restoreConfig_unbegun (doc : Json) : Unbegun logger (logger.restoreConfig doc) := by
  rw [restoreConfig]
  split
  · exact ⟨rfl, rfl⟩
  · exact ⟨rfl, rfl⟩

theorem restoreCredential_unbegun (doc : Json) : Unbegun logger (logger.restoreCredential doc).2 := by
  unfold restoreCredential
  dsimp only
  split
  · exact ⟨rfl, rfl⟩
  · split
    · exact ⟨rfl, rfl⟩
    · exact ⟨rfl, rfl⟩

theorem restorePending_unbegun (doc : Json) : Unbegun logger (logger.restorePending doc).2 := by
  unfold restorePending
  dsimp only
  split
  · exact ⟨rfl, rfl⟩
  · exact ⟨rfl, rfl⟩

theorem unbegun_ite {asked : Prop} [Decidable asked] {loaded : Bool × LoggerAuthorization}
    (unbegun : Unbegun logger loaded.2) : Unbegun logger (if asked then loaded else (true, logger)).2 := by
  split
  · exact unbegun
  · exact ⟨rfl, rfl⟩

theorem restoreOwner_unbegun (doc : Json) : Unbegun logger (logger.restoreOwner doc).2 := by
  have credential := @unbegun_ite logger (logger.storedOrigin = logger.origin) _ _
    (restoreCredential_unbegun logger doc)
  unfold restoreOwner
  generalize (if logger.storedOrigin = logger.origin then logger.restoreCredential doc
    else (true, logger)) = loaded at credential ⊢
  obtain ⟨valid, loaded⟩ := loaded
  dsimp only at credential ⊢
  split
  · exact credential
  · have pending := @unbegun_ite loaded ((doc.member "pending_origin").asString = loaded.origin) _ _
      (restorePending_unbegun loaded doc)
    generalize (if (doc.member "pending_origin").asString = loaded.origin then loaded.restorePending doc
      else (true, loaded)) = asked at pending ⊢
    obtain ⟨valid, asked⟩ := asked
    dsimp only at pending ⊢
    split
    · exact credential.trans pending
    · exact (credential.trans pending).trans (restoreConfig_unbegun asked doc)

theorem restoreRecord_unbegun (saved : Text) : Unbegun logger (logger.restoreRecord saved).2 := by
  unfold restoreRecord
  dsimp only
  split
  · exact ⟨rfl, rfl⟩
  · split
    · exact ⟨rfl, rfl⟩
    · split
      · exact ⟨rfl, rfl⟩
      · have owner := restoreOwner_unbegun
        refine Unbegun.trans ⟨?_, ?_⟩ (owner _ _)
        · rfl
        · rfl

end Unbegun

/-- What the loaded logger owes the saving one, given the acknowledgement it must report. -/
structure Restores (save : Save) (acknowledgement : String) (restored : LoggerAuthorization) : Prop where
  challenge : restored.authorizationId = save.self.authorizationId ∧
    restored.deviceCode = save.self.deviceCode ∧ restored.userCode = save.self.userCode ∧
      restored.expiresEpoch = save.self.expiresEpoch
  bootstrap : restored.bootstrapToken = save.self.bootstrapToken ∧
    restored.bootstrapDeviceId = save.self.bootstrapDeviceId ∧
      restored.bootstrapVersion = save.self.bootstrapVersion
  pending : restored.ackPending = save.self.ackPending
  bearers : save.self.storedOrigin = save.self.origin → restored.bearer false = save.token ∧
    restored.bearer true = if save.self.rotationPhase = 2 then save.self.candidate else save.token
  rotation : save.self.storedOrigin = save.self.origin →
    restored.rotationPhase = save.self.rotationPhase ∧
      restored.rotationVersion = save.self.rotationVersion ∧
      restored.rotationNonce = save.self.rotationNonce ∧
      restored.appliedRotationVersion = save.self.appliedRotationVersion ∧
      restored.appliedRotationNonce = save.self.appliedRotationNonce ∧
      restored.rotationAcknowledgement = acknowledgement

structure RoundTrip (save : Save) (acknowledgement : String) : Prop where
  same : ∀ fresh : LoggerAuthorization, fresh.hardwareId = save.self.hardwareId →
    fresh.origin = save.self.origin → fresh.fallback = false →
      (fresh.restoreRecord (some (.object save.record))).1 = true ∧
        Restores save acknowledgement (fresh.restoreRecord (some (.object save.record))).2
  other : ∀ fresh : LoggerAuthorization, fresh.origin ≠ save.self.storedOrigin → ∀ statusRequest,
    (fresh.restoreRecord (some (.object save.record))).2.bearer statusRequest = .empty

/-- The acknowledgement a logger gives when no fallback is under way. -/
def durableAcknowledgement (self : LoggerAuthorization) : String :=
  ({ self with fallback := false } : LoggerAuthorization).rotationAcknowledgement

variable {save : Save} {fresh self : LoggerAuthorization}

theorem restores_saved (coherent : Coherent save) (origin : save.self.origin ≠ missing)
    (same : fresh.origin = save.self.origin) (settled : fresh.fallback = false) :
    Restores save (durableAcknowledgement save.self) (save.restoredIn fresh) := by
  by_cases own : save.self.storedOrigin = save.self.origin
  · have credential := coherent.credential (own ▸ origin)
    have present : save.token ≠ .empty := printable_ne_empty credential.1 (by decide)
    have contains : (Json.object save.members).containsKey "access_token" = true := rfl
    constructor <;> simp [Save.restoredIn, Save.unowned, same, own, Save.ownCredential, Save.ownPending,
      restoreConfig, Save.record_of_token present, contains, bearer, durableAcknowledgement,
      rotationAcknowledgement, settled]
  · constructor <;> simp [Save.restoredIn, Save.unowned, same, own, Save.ownPending, restoreConfig, apply_ite]

structure Bare (logger : LoggerAuthorization) : Prop where
  active : logger.activeToken = .empty
  configured : logger.config.appDeviceToken = .empty
  phase : logger.rotationPhase = 0

theorem Bare.bearer (bare : Bare self) (statusRequest : Bool) : self.bearer statusRequest = .empty := by
  simp [LoggerAuthorization.bearer, bare.phase, bare.configured]

theorem Bare.restorePending (bare : Bare self) (doc : Json) : Bare (self.restorePending doc).2 := by
  rw [LoggerAuthorization.restorePending]
  split
  · exact ⟨bare.active, bare.configured, bare.phase⟩
  · exact ⟨bare.active, bare.configured, bare.phase⟩

theorem Bare.restoreConfig (bare : Bare self) (doc : Json) : Bare (self.restoreConfig doc) := by
  rw [LoggerAuthorization.restoreConfig]
  split
  · exact ⟨bare.active, bare.active, bare.phase⟩
  · exact bare

theorem Bare.restoreOwner (bare : Bare self) {doc : Json} (foreign : self.storedOrigin ≠ self.origin) :
    Bare (self.restoreOwner doc).2 := by
  simp only [LoggerAuthorization.restoreOwner, if_neg foreign, Bool.not_true, Bool.false_eq_true, if_false]
  by_cases asked : (doc.member "pending_origin").asString = self.origin
  · rw [if_pos asked]
    split
    · exact bare.restorePending doc
    · exact (bare.restorePending doc).restoreConfig doc
  · rw [if_neg asked]
    exact bare.restoreConfig doc

/-- A record of another origin gives no bearer, whether it is accepted or not. -/
theorem restoreRecord_foreign {doc : Json} (foreign : (doc.member "origin").asString ≠ self.origin) :
    Bare (self.restoreRecord (some doc)).2 := by
  simp only [restoreRecord]
  split
  · exact ⟨rfl, rfl, rfl⟩
  · split
    · exact ⟨rfl, rfl, rfl⟩
    · apply Bare.restoreOwner
      · exact ⟨rfl, rfl, rfl⟩
      · exact foreign

theorem roundTrip_of_coherent (coherent : Coherent save) (origin : save.self.origin ≠ missing) :
    RoundTrip save (durableAcknowledgement save.self) := by
  constructor
  · intro fresh hardware same settled
    rw [Save.restoreRecord_saved coherent hardware (same ▸ origin)]
    exact ⟨rfl, restores_saved coherent origin same settled⟩
  · intro fresh other statusRequest
    apply Bare.bearer
    apply restoreRecord_foreign
    rw [Save.member_record (by decide) (by decide)]
    simpa [Save.members, Members.get, Members.find?] using other.symm

end ApexiDevices.LoggerAuthorization
