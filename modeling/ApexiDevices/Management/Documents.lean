import ApexiDevices.Management.Payloads

set_option autoImplicit false

/-!
# What the payloads say

Every payload is one JSON object. Its members are those of the source, whatever
the texts in it are, and each text is read back as it was.
-/

namespace ApexiDevices

open Device JsonTree

namespace LiveUpload

def stringMember (name : String) (value : Bytes) : Member := (ascii name, quoted (jsonEscape value), .string value)

-- A text of the source's own, which is not escaped.
def rawMember (name : String) (value : Bytes) : Member := (ascii name, quoted value, .string value)

def tokenMember (name : String) (token : Bytes) : Member := (ascii name, token, .token token)

def objectMember (name : String) (members : List Member) : Member :=
  (ascii name, renderObject members, .object (members.map Member.value))

section Reads

variable {name : String} (named : ∀ byte ∈ ascii name, plain byte = true)

include named

theorem stringMember_reads {value : Bytes} (escapable : Escapable value) : (stringMember name value).Reads :=
  ⟨named, text_string (jsonEscape_literal escapable)⟩

theorem rawMember_reads {value : Bytes} (each : ∀ byte ∈ value, plain byte = true) : (rawMember name value).Reads :=
  ⟨named, text_string (literal_plain each)⟩

theorem flagMember_reads (value : Bool) : (tokenMember name (flag value)).Reads := by
  have said : flag value ≠ [] ∧ ∀ byte ∈ flag value, tokenByte byte = true := by cases value <;> decide
  exact ⟨named, text_token said.1 said.2⟩

theorem decimalMember_reads (value : Nat) : (tokenMember name (decimal value)).Reads := by
  refine ⟨named, text_token ?_ fun byte member => ?_⟩
  · intro none
    exact Nat.toDigits_ne_nil (List.map_eq_nil_iff.mp none)
  · have range := decimal_digit member
    simp only [tokenByte, UInt8.le_iff_toNat_le, Bool.or_eq_true, Bool.and_eq_true, decide_eq_true_eq]
    have low : (0x30 : UInt8).toNat = 48 := rfl
    have high : (0x39 : UInt8).toNat = 57 := rfl
    omega

theorem objectMember_reads {members : List Member} (each : ∀ member ∈ members, member.Reads) :
    (objectMember name members).Reads :=
  ⟨named, text_members each⟩

end Reads

/-! Members as the source writes them. -/

theorem punctuation : ascii "\"" = [0x22] ∧ ascii "\":" = [0x22, 0x3a] ∧ ascii "\":\"" = [0x22, 0x3a, 0x22] ∧
    ascii "," = [0x2c] ∧ ascii "\x7b" = [0x7b] ∧ ascii "\x7d" = [0x7d] := by
  decide

theorem render_string (name : String) (value : CText) :
    renderMember (stringMember name value.bytes) = escapedMember name value := by
  obtain ⟨quote, _, opens, _⟩ := punctuation
  simp [renderMember, stringMember, quoted, escapedMember, quote, opens]

theorem render_token (name : String) (token : Bytes) : renderMember (tokenMember name token) = plainMember name token := by
  obtain ⟨quote, colon, _⟩ := punctuation
  simp [renderMember, tokenMember, quoted, plainMember, quote, colon]

theorem render_raw (name : String) (value : Bytes) :
    renderMember (rawMember name value) = plainMember name (ascii "\"" ++ value ++ ascii "\"") := by
  obtain ⟨quote, colon, _⟩ := punctuation
  simp [renderMember, rawMember, quoted, plainMember, quote, colon]

theorem render_object (name : String) (members : List Member) :
    renderMember (objectMember name members) = plainMember name (renderObject members) := by
  obtain ⟨quote, colon, _⟩ := punctuation
  simp [renderMember, objectMember, quoted, plainMember, quote, colon]

theorem renderObject_cons (first : Member) (rest : List Member) :
    renderObject (first :: rest) = ascii "\x7b" ++ renderMember first ++
      (rest.flatMap fun next => ascii "," ++ renderMember next) ++ ascii "\x7d" := by
  obtain ⟨_, _, _, comma, opens, closes⟩ := punctuation
  simp [renderObject, renderMembers_cons, comma, opens, closes]

theorem utf8EncodeChar_high {char : Char} (high : 0x80 ≤ char.toNat) :
    ∀ byte ∈ String.utf8EncodeChar char, 0x80 ≤ byte := by
  intro byte member
  have above : ¬char.val.toNat ≤ 0x7f := by
    rw [Char.toNat] at high
    omega
  have bound (value : Nat) (least : 0x80 ≤ value) (most : value < 0x100) : 0x80 ≤ UInt8.ofNat value := by
    rw [UInt8.le_iff_toNat_le, UInt8.toNat_ofNat']
    have same : (0x80 : UInt8).toNat = 0x80 := rfl
    omega
  simp only [String.utf8EncodeChar, above, if_false] at member
  split at member
  · simp only [List.mem_cons, List.not_mem_nil, or_false] at member
    rcases member with rfl | rfl <;> apply bound <;> omega
  · split at member
    · simp only [List.mem_cons, List.not_mem_nil, or_false] at member
      rcases member with rfl | rfl | rfl <;> apply bound <;> omega
    · simp only [List.mem_cons, List.not_mem_nil, or_false] at member
      rcases member with rfl | rfl | rfl | rfl <;> apply bound <;> omega

/-- Both escapes are one on what may be escaped: the others of the library are controls. -/
theorem utf8_escape {char : Char} (escapable : Escapable (String.utf8EncodeChar char)) :
    (Json.escape char).flatMap String.utf8EncodeChar = (String.utf8EncodeChar char).flatMap escapeByte := by
  by_cases low : char.toNat < 0x80
  · have each : ∀ code : Fin 0x80, Escapable (String.utf8EncodeChar (Char.ofNat code)) →
        (Json.escape (Char.ofNat code)).flatMap String.utf8EncodeChar =
          (String.utf8EncodeChar (Char.ofNat code)).flatMap escapeByte := by
      decide
    have here := each ⟨char.toNat, low⟩
    rw [Char.ofNat_toNat] at here
    exact here escapable
  · have high := utf8EncodeChar_high (Nat.not_lt.mp low)
    have same : Json.escape char = [char] := by
      unfold Json.escape
      split <;> first | exact absurd (by decide) low | rfl
    have kept : ∀ byte ∈ String.utf8EncodeChar char, escapeByte byte = [byte] := by
      intro byte member
      have above := high byte member
      have other (value : UInt8) (less : value < 0x80) : byte ≠ value := by
        rintro rfl
        exact absurd above (UInt8.not_le.mpr less)
      simp only [escapeByte, other 0x5c (by decide), other 0x22 (by decide), other 0x0a (by decide),
        other 0x0d (by decide), other 0x09 (by decide), if_false]
    rw [same, List.flatMap_singleton, List.flatMap_congr kept, List.flatMap_singleton']

theorem utf8_append (first second : String) : utf8 (first ++ second) = utf8 first ++ utf8 second := by
  simp [utf8, String.toList_append]

theorem utf8_quote {text : String} (escapable : Escapable (utf8 text)) :
    utf8 (Json.quote text) = quoted (jsonEscape (utf8 text)) := by
  have escaped : (text.toList.flatMap Json.escape).flatMap String.utf8EncodeChar =
      jsonEscape (text.toList.flatMap String.utf8EncodeChar) := by
    rw [jsonEscape, List.flatMap_assoc, List.flatMap_assoc]
    exact List.flatMap_congr fun char member =>
      utf8_escape fun byte inside => escapable byte (List.mem_flatMap.mpr ⟨char, member, inside⟩)
  have quote : utf8 "\"" = [0x22] := by decide
  rw [Json.quote, utf8_append, utf8_append, quote, quoted]
  simp [utf8, escaped]

theorem utf8_digits (value : Nat) : utf8 (toString value) = decimal value := by
  have ascii : ∀ digit ∈ Nat.toDigits 10 value, String.utf8EncodeChar digit = [UInt8.ofNat digit.toNat] := by
    intro digit member
    have isDigit := Nat.isDigit_of_mem_toDigits (by decide) (by decide) member
    have range : 48 ≤ digit.toNat ∧ digit.toNat ≤ 57 := by
      simp only [Char.isDigit, Bool.and_eq_true, decide_eq_true_eq, ge_iff_le, UInt32.le_iff_toNat_le] at isDigit
      exact isDigit
    have small : digit.val.toNat ≤ 0x7f := by
      rw [Char.toNat] at range
      omega
    rw [String.utf8EncodeChar, if_pos small]
    rfl
  rw [utf8, decimal, Nat.toString_eq_repr, Nat.repr, String.toList_ofList, List.flatMap_congr ascii]
  induction Nat.toDigits 10 value <;> simp_all

namespace SystemDiagnostics

variable (diagnostics : SystemDiagnostics) (queueAvailable : Bool) (pending dropped : Nat) (dropsKnown : Bool)

def members : List Member :=
  (diagnostics.reported queueAvailable pending dropped dropsKnown).map fun entry => tokenMember entry.1 entry.2

theorem foldl_add (result : Bytes) (begun : 1 < result.length) (entries : List (String × Bytes)) :
    entries.foldl (fun result entry => add result entry.1 entry.2) result =
      result ++ entries.flatMap fun entry => ascii "," ++ plainMember entry.1 entry.2 := by
  induction entries generalizing result with
  | nil => exact (List.append_nil _).symm
  | cons entry entries ih =>
    have longer : 1 < (add result entry.1 entry.2).length := by
      simp only [add, if_pos begun, List.length_append]
      omega
    rw [List.foldl_cons, ih _ longer, List.flatMap_cons, add, if_pos begun, plainMember]
    simp only [List.append_assoc]

theorem json_eq : diagnostics.json queueAvailable pending dropped dropsKnown =
    renderObject (diagnostics.members queueAvailable pending dropped dropsKnown) := by
  obtain ⟨_, _, _, _, opens, closes⟩ := punctuation
  rw [json, members]
  cases diagnostics.reported queueAvailable pending dropped dropsKnown with
  | nil => rw [opens, closes]; rfl
  | cons entry entries =>
    have begun : 1 < (add (ascii "\x7b") entry.1 entry.2).length := by
      have one : (ascii "\"").length = 1 := by decide
      simp only [add, List.length_append, opens, List.length_singleton, one, Nat.lt_irrefl, if_false]
      omega
    rw [List.foldl_cons, foldl_add _ begun, List.map_cons, renderObject_cons, render_token, List.flatMap_map]
    simp only [render_token, add, plainMember, opens, List.length_singleton, gt_iff_lt, Nat.lt_irrefl, if_false,
      List.append_assoc]

theorem members_read : ∀ member ∈ diagnostics.members queueAvailable pending dropped dropsKnown, member.Reads := by
  have named : ∀ name ∈ ["store_forward_pending_records", "store_forward_dropped_records", "clock_fault",
      "config_stale", "config_rejected", "reconnects_total", "reboots_total"],
      ∀ byte ∈ ascii name, plain byte = true := by decide
  intro member inside
  obtain ⟨entry, listed, rfl⟩ := List.mem_map.mp inside
  simp only [reported, List.mem_append, List.mem_map, Option.mem_toList] at listed
  rcases listed with ((((queued | clock) | stale) | rejected) | attempted) | rebooted
  · split at queued
    · rcases List.mem_cons.mp queued with rfl | queued
      · exact @decimalMember_reads "store_forward_pending_records" (named "store_forward_pending_records" (by simp)) _
      · split at queued
        · rw [List.mem_singleton.mp queued]
          exact @decimalMember_reads "store_forward_dropped_records" (named "store_forward_dropped_records" (by simp)) _
        · cases queued
    · cases queued
  · obtain ⟨_, _, rfl⟩ := clock
    exact @flagMember_reads "clock_fault" (named "clock_fault" (by simp)) _
  · obtain ⟨_, _, rfl⟩ := stale
    exact @flagMember_reads "config_stale" (named "config_stale" (by simp)) _
  · obtain ⟨_, _, rfl⟩ := rejected
    exact @flagMember_reads "config_rejected" (named "config_rejected" (by simp)) _
  · split at attempted
    · rw [List.mem_singleton.mp attempted]
      exact @decimalMember_reads "reconnects_total" (named "reconnects_total" (by simp)) _
    · cases attempted
  · obtain ⟨_, _, rfl⟩ := rebooted
    exact @decimalMember_reads "reboots_total" (named "reboots_total" (by simp)) _

end SystemDiagnostics

namespace Reported

variable (self : Reported)

def acknowledged : Option (UInt32 × Bytes) :=
  match self.authorization, self.bearerRotation with
  | some authorization, _ =>
    let version :=
      if authorization.rotationPhase ≠ 0 then authorization.rotationVersion else authorization.appliedRotationVersion
    let nonce :=
      if authorization.rotationPhase ≠ 0 then authorization.rotationNonce else authorization.appliedRotationNonce
    if authorization.fallback || version == 0 || nonce.isEmpty then none else some (version, utf8 nonce.text)
  | none, some rotation =>
    if rotation.hasAppliedAcknowledgement then some (rotation.version, ascii rotation.nonce) else none
  | none, none => none

def acknowledgementMember (acknowledged : UInt32 × Bytes) : Member :=
  objectMember "credential_rotation_ack" [tokenMember "version" (decimal acknowledged.1.toNat),
    stringMember "nonce" acknowledged.2, rawMember "state" (ascii "applied")]

def settingsMember : Member :=
  objectMember "settings" [tokenMember "upload_enabled" (flag self.reportedUploadEnabled),
    stringMember "ntp_primary" self.reportedNtpPrimary.bytes, stringMember "ntp_secondary" self.reportedNtpSecondary.bytes,
    stringMember "tz_rule" self.reportedTimeZoneRule.bytes, stringMember "tz_label" self.reportedTimeZoneLabel.bytes]

def assignmentMember : Member :=
  objectMember "assignment" [stringMember "target_session_id" self.assignment.targetSessionId.bytes,
    stringMember "planned_session_name" self.assignment.plannedSessionName.bytes,
    stringMember "status" self.assignment.status.bytes, stringMember "role" self.assignment.role.bytes,
    stringMember "expires_at" self.assignment.expiresAt.bytes,
    stringMember "source_session_id" self.assignment.sourceSessionId.bytes,
    stringMember "recording_session_id" self.assignment.recordingSessionId.bytes]

def managedMembers (firmwareVersion : CText) (nowMs : UInt32) : List Member :=
  [stringMember "pairing_code" self.pairingCode.bytes,
    tokenMember "pairing_expires_in_s" (decimal (self.pairingCodeExpiresInSeconds nowMs).toNat),
    tokenMember "config_version" (decimal self.appliedConfigVersion.toNat),
    stringMember "status" self.managementStatus.bytes, stringMember "error" self.managementError.bytes,
    stringMember "firmware_version" firmwareVersion.bytes, stringMember "friendly_name" self.friendlyName.bytes,
    stringMember "hardware_revision" self.hardwareRevision.bytes, stringMember "provisioned_at" self.provisionedAt.bytes,
    self.settingsMember, self.assignmentMember]

def managementMembers (firmwareVersion : CText) (nowMs : UInt32) : List Member :=
  if self.remoteManagementEnabled || self.authorization.isSome || self.bearerRotation.isSome then
    [objectMember "management" (tokenMember "enabled" (flag self.remoteManagementEnabled) ::
      (self.acknowledged.toList.map acknowledgementMember ++
        if self.remoteManagementEnabled then self.managedMembers firmwareVersion nowMs else []))]
  else []

def systemMembers : List Member :=
  self.diagnostics.members (self.storeForwardQueue.enabled && self.storeForwardQueue.ready)
    self.storeForwardQueue.pendingRecords self.storeForwardQueue.metadata.droppedRecords
    self.storeForwardQueue.droppedRecordsKnown

def statusMembers (firmwareVersion : CText) (nowMs : UInt32) (connected : Bool) : List Member :=
  tokenMember "schema_version" (decimal kLivePayloadSchemaVersion) :: stringMember "device_id" self.deviceId.bytes ::
    stringMember "session_id" self.sessionId.bytes :: rawMember "protocol" self.protocolName ::
    tokenMember "connected" (flag connected) :: objectMember "system" self.systemMembers ::
    self.managementMembers firmwareVersion nowMs

def statusDocument (firmwareVersion : CText) (nowMs : UInt32) (connected : Bool) : JsonTree :=
  .object ((self.statusMembers firmwareVersion nowMs connected).map Member.value)

def nonces : List Bytes := self.acknowledged.toList.map Prod.snd

theorem render_acknowledgement (version : UInt32) (nonce : Bytes) :
    renderMember (acknowledgementMember (version, nonce)) = ascii "\"credential_rotation_ack\":" ++
      (ascii "\x7b\"version\":" ++ decimal version.toNat ++ ascii ",\"nonce\":\"" ++ jsonEscape nonce ++
        ascii "\",\"state\":\"applied\"\x7d") := by
  have name : ascii "\"credential_rotation_ack\":" = ascii "\"" ++ ascii "credential_rotation_ack" ++ ascii "\":" := by
    decide
  have opens : ascii "\x7b\"version\":" = ascii "\x7b" ++ (ascii "\"" ++ ascii "version" ++ ascii "\":") := by
    decide
  have then_ : ascii ",\"nonce\":\"" = ascii "," ++ (ascii "\"" ++ ascii "nonce" ++ ascii "\":\"") := by decide
  have closes : ascii "\",\"state\":\"applied\"\x7d" = ascii "\"" ++ ascii "," ++
      (ascii "\"" ++ ascii "state" ++ ascii "\":" ++ (ascii "\"" ++ ascii "applied" ++ ascii "\"")) ++ ascii "\x7d" := by
    decide
  have escaped : renderMember (stringMember "nonce" nonce) =
      ascii "\"" ++ ascii "nonce" ++ ascii "\":\"" ++ jsonEscape nonce ++ ascii "\"" := by
    obtain ⟨quote, _, colon, _⟩ := punctuation
    simp [renderMember, stringMember, quoted, quote, colon]
  rw [acknowledgementMember, render_object, renderObject_cons, render_token, name, opens, then_, closes]
  simp only [List.flatMap_cons, List.flatMap_nil, render_raw, escaped, plainMember, List.append_assoc, List.append_nil]

theorem acknowledgement_eq (escapable : ∀ nonce ∈ self.nonces, Escapable nonce) :
    self.acknowledgement =
      self.acknowledged.toList.flatMap fun entry => ascii "," ++ renderMember (acknowledgementMember entry) := by
  have comma : ascii ",\"credential_rotation_ack\":" = ascii "," ++ ascii "\"credential_rotation_ack\":" := by
    decide
  rw [nonces] at escapable
  unfold acknowledgement
  unfold acknowledged at escapable ⊢
  -- with an authorization the member is serialised, without one it is printed piece by piece
  cases held : self.authorization with
  | some authorization =>
    simp only [held] at escapable ⊢
    generalize versioned : (if authorization.rotationPhase ≠ 0 then authorization.rotationVersion
      else authorization.appliedRotationVersion) = version at escapable ⊢
    generalize named : (if authorization.rotationPhase ≠ 0 then authorization.rotationNonce
      else authorization.appliedRotationNonce) = nonce at escapable ⊢
    rw [LoggerAuthorization.rotationAcknowledgement, versioned, named]
    split
    · rename_i blank
      have none : utf8 "" = [] := rfl
      rw [none]
      rfl
    · rename_i present
      rw [if_neg present] at escapable
      have clean := escapable (utf8 nonce.text) (by simp)
      have text : utf8 (Json.object [("version", .ofUInt32 version), ("nonce", .ofText nonce),
          ("state", .string "applied")]).serialize =
          ascii "\x7b\"version\":" ++ decimal version.toNat ++ ascii ",\"nonce\":\"" ++ jsonEscape (utf8 nonce.text) ++
            ascii "\",\"state\":\"applied\"\x7d" := by
        have opens : utf8 "\x7b" ++ utf8 (Json.quote "version") ++ utf8 ":" = ascii "\x7b\"version\":" := by
          decide
        have then_ : utf8 "," ++ utf8 (Json.quote "nonce") ++ utf8 ":" ++ [0x22] = ascii ",\"nonce\":\"" := by
          decide
        have closes : [0x22] ++ utf8 "," ++ utf8 (Json.quote "state") ++ utf8 ":" ++ utf8 (Json.quote "applied") ++
            utf8 "\x7d" = ascii "\",\"state\":\"applied\"\x7d" := by
          decide
        have number : utf8 (toString (version.toNat : Int)) = decimal version.toNat := utf8_digits _
        simp only [Json.serialize, Json.serializeMembers, Json.ofUInt32, Json.ofText, utf8_append, utf8_quote clean,
          number, ← opens, ← then_, ← closes, quoted, List.append_assoc, List.cons_append, List.nil_append]
      have some : (utf8 (Json.object [("version", .ofUInt32 version), ("nonce", .ofText nonce),
          ("state", .string "applied")]).serialize).isEmpty = false := by
        have opens : ascii "\x7b\"version\":" ≠ [] := by decide
        rw [text, List.isEmpty_eq_false_iff]
        simp [opens]
      rw [some, if_neg Bool.false_ne_true, text, Option.toList_some, List.flatMap_singleton,
        render_acknowledgement, comma, List.append_assoc]
  | none =>
    simp only [held] at escapable ⊢
    cases kept : self.bearerRotation with
    | none => rfl
    | some rotation =>
      dsimp only
      split
      · have joined : ascii ",\"credential_rotation_ack\":\x7b\"version\":" =
            ascii "," ++ ascii "\"credential_rotation_ack\":" ++ ascii "\x7b\"version\":" := by
          decide
        simp only [Option.toList_some, List.flatMap_singleton, render_acknowledgement, joined, List.append_assoc]
      · rfl

theorem settings_eq : self.settings = renderMember self.settingsMember := by
  have opens : ascii "\"settings\":\x7b" = ascii "\"" ++ ascii "settings" ++ ascii "\":" ++ ascii "\x7b" := by decide
  rw [settings, settingsMember, render_object, renderObject_cons, render_token, opens, plainMember]
  simp only [List.flatMap_cons, List.flatMap_nil, render_string, plainMember, List.append_assoc, List.append_nil]

theorem assigned_eq : self.assigned = ascii "," ++ renderMember self.assignmentMember := by
  have opens : ascii ",\"assignment\":\x7b" =
      ascii "," ++ (ascii "\"" ++ ascii "assignment" ++ ascii "\":") ++ ascii "\x7b" := by
    decide
  rw [assigned, assignmentMember, render_object, renderObject_cons, render_string, opens]
  simp only [List.flatMap_cons, List.flatMap_nil, render_string, plainMember, List.append_assoc, List.append_nil]

variable (firmwareVersion : CText) (nowMs : UInt32) (connected : Bool)

theorem managed_eq : self.managed firmwareVersion nowMs =
    (self.managedMembers firmwareVersion nowMs).flatMap fun member => ascii "," ++ renderMember member := by
  simp only [managed, metadata, managedMembers, List.flatMap_cons, List.flatMap_nil, render_string, render_token, settings_eq,
    assigned_eq, List.append_assoc, List.append_nil]

theorem management_eq (escapable : ∀ nonce ∈ self.nonces, Escapable nonce) :
    self.management firmwareVersion nowMs =
      (self.managementMembers firmwareVersion nowMs).flatMap fun member => ascii "," ++ renderMember member := by
  have opens : ascii ",\"management\":\x7b" =
      ascii "," ++ (ascii "\"" ++ ascii "management" ++ ascii "\":") ++ ascii "\x7b" := by
    decide
  rw [management, managementMembers]
  split
  · rw [self.acknowledgement_eq escapable, opens]
    simp only [List.flatMap_cons, List.flatMap_nil, render_object, renderObject_cons, render_token, List.flatMap_append,
      List.flatMap_map, plainMember, List.append_assoc, List.append_nil]
    split
    · rw [managed_eq]
    · rfl
  · rfl

theorem buildStatusJson_eq (escapable : ∀ nonce ∈ self.nonces, Escapable nonce) :
    self.buildStatusJson firmwareVersion nowMs connected =
      renderObject (self.statusMembers firmwareVersion nowMs connected) := by
  have system : ascii ",\"system\":" = ascii "," ++ (ascii "\"" ++ ascii "system" ++ ascii "\":") := by decide
  rw [buildStatusJson, statusMembers, renderObject_cons, self.management_eq firmwareVersion nowMs escapable, Reported.system,
    SystemDiagnostics.json_eq, system]
  simp only [List.flatMap_cons, render_string, render_token, render_raw, render_object, systemMembers, plainMember,
    List.append_assoc]

/-! The texts of a status, all of which are read back. -/

def texts : List Bytes :=
  self.nonces ++
    ([self.deviceId, self.sessionId, self.pairingCode, self.managementStatus, self.managementError, firmwareVersion,
      self.friendlyName, self.hardwareRevision, self.provisionedAt, self.reportedNtpPrimary, self.reportedNtpSecondary,
      self.reportedTimeZoneRule, self.reportedTimeZoneLabel, self.assignment.targetSessionId,
      self.assignment.plannedSessionName, self.assignment.status, self.assignment.role, self.assignment.expiresAt,
      self.assignment.sourceSessionId, self.assignment.recordingSessionId].map CText.bytes)

def Clean : Prop := ∀ text ∈ self.texts firmwareVersion, Escapable text

instance : Decidable (self.Clean firmwareVersion) :=
  inferInstanceAs (Decidable (∀ text ∈ self.texts firmwareVersion, Escapable text))

variable {self firmwareVersion}

theorem Clean.nonce (clean : self.Clean firmwareVersion) : ∀ nonce ∈ self.nonces, Escapable nonce :=
  fun nonce member => clean nonce (List.mem_append_left _ member)

theorem acknowledgementMember_reads {entry : UInt32 × Bytes} (escapable : Escapable entry.2) :
    (acknowledgementMember entry).Reads := by
  have named : ∀ name ∈ ["credential_rotation_ack", "version", "nonce", "state"],
      ∀ byte ∈ ascii name, plain byte = true := by decide
  apply @objectMember_reads "credential_rotation_ack" (named "credential_rotation_ack" (by simp))
  intro member inside
  simp only [List.mem_cons, List.not_mem_nil, or_false] at inside
  rcases inside with rfl | rfl | rfl
  · exact @decimalMember_reads "version" (named "version" (by simp)) _
  · exact @stringMember_reads "nonce" (named "nonce" (by simp)) _ escapable
  · exact @rawMember_reads "state" (named "state" (by simp)) _ (by decide)

theorem settingsMember_reads (clean : self.Clean firmwareVersion) : self.settingsMember.Reads := by
  have named : ∀ name ∈ ["settings", "upload_enabled", "ntp_primary", "ntp_secondary", "tz_rule", "tz_label"],
      ∀ byte ∈ ascii name, plain byte = true := by decide
  apply @objectMember_reads "settings" (named "settings" (by simp))
  intro member inside
  simp only [List.mem_cons, List.not_mem_nil, or_false] at inside
  rcases inside with rfl | rfl | rfl | rfl | rfl
  · exact @flagMember_reads "upload_enabled" (named "upload_enabled" (by simp)) _
  · exact @stringMember_reads "ntp_primary" (named "ntp_primary" (by simp)) _ (clean _ (by simp [texts]))
  · exact @stringMember_reads "ntp_secondary" (named "ntp_secondary" (by simp)) _ (clean _ (by simp [texts]))
  · exact @stringMember_reads "tz_rule" (named "tz_rule" (by simp)) _ (clean _ (by simp [texts]))
  · exact @stringMember_reads "tz_label" (named "tz_label" (by simp)) _ (clean _ (by simp [texts]))

theorem assignmentMember_reads (clean : self.Clean firmwareVersion) : self.assignmentMember.Reads := by
  have named : ∀ name ∈ ["assignment", "target_session_id", "planned_session_name", "status", "role",
      "expires_at", "source_session_id", "recording_session_id"],
      ∀ byte ∈ ascii name, plain byte = true := by decide
  apply @objectMember_reads "assignment" (named "assignment" (by simp))
  intro member inside
  simp only [List.mem_cons, List.not_mem_nil, or_false] at inside
  rcases inside with rfl | rfl | rfl | rfl | rfl | rfl | rfl
  · exact @stringMember_reads "target_session_id" (named "target_session_id" (by simp)) _ (clean _ (by simp [texts]))
  · exact @stringMember_reads "planned_session_name" (named "planned_session_name" (by simp)) _ (clean _ (by simp [texts]))
  · exact @stringMember_reads "status" (named "status" (by simp)) _ (clean _ (by simp [texts]))
  · exact @stringMember_reads "role" (named "role" (by simp)) _ (clean _ (by simp [texts]))
  · exact @stringMember_reads "expires_at" (named "expires_at" (by simp)) _ (clean _ (by simp [texts]))
  · exact @stringMember_reads "source_session_id" (named "source_session_id" (by simp)) _ (clean _ (by simp [texts]))
  · exact @stringMember_reads "recording_session_id" (named "recording_session_id" (by simp)) _ (clean _ (by simp [texts]))

theorem managedMembers_read (clean : self.Clean firmwareVersion) (nowMs : UInt32) :
    ∀ member ∈ self.managedMembers firmwareVersion nowMs, member.Reads := by
  have named : ∀ name ∈ ["pairing_code", "pairing_expires_in_s", "config_version", "status", "error",
      "firmware_version", "friendly_name", "hardware_revision", "provisioned_at"],
      ∀ byte ∈ ascii name, plain byte = true := by decide
  intro member inside
  simp only [managedMembers, List.mem_cons, List.not_mem_nil, or_false] at inside
  rcases inside with rfl | rfl | rfl | rfl | rfl | rfl | rfl | rfl | rfl | rfl | rfl
  · exact @stringMember_reads "pairing_code" (named "pairing_code" (by simp)) _ (clean _ (by simp [texts]))
  · exact @decimalMember_reads "pairing_expires_in_s" (named "pairing_expires_in_s" (by simp)) _
  · exact @decimalMember_reads "config_version" (named "config_version" (by simp)) _
  · exact @stringMember_reads "status" (named "status" (by simp)) _ (clean _ (by simp [texts]))
  · exact @stringMember_reads "error" (named "error" (by simp)) _ (clean _ (by simp [texts]))
  · exact @stringMember_reads "firmware_version" (named "firmware_version" (by simp)) _ (clean _ (by simp [texts]))
  · exact @stringMember_reads "friendly_name" (named "friendly_name" (by simp)) _ (clean _ (by simp [texts]))
  · exact @stringMember_reads "hardware_revision" (named "hardware_revision" (by simp)) _ (clean _ (by simp [texts]))
  · exact @stringMember_reads "provisioned_at" (named "provisioned_at" (by simp)) _ (clean _ (by simp [texts]))
  · exact settingsMember_reads clean
  · exact assignmentMember_reads clean

theorem managementMembers_read (clean : self.Clean firmwareVersion) (nowMs : UInt32) :
    ∀ member ∈ self.managementMembers firmwareVersion nowMs, member.Reads := by
  have named : ∀ name ∈ ["management", "enabled"], ∀ byte ∈ ascii name, plain byte = true := by decide
  intro member inside
  rw [managementMembers] at inside
  split at inside
  · rw [List.mem_singleton.mp inside]
    apply @objectMember_reads "management" (named "management" (by simp))
    intro member inside
    simp only [List.mem_cons, List.mem_append, List.mem_map, Option.mem_toList] at inside
    rcases inside with rfl | ⟨entry, acknowledged, rfl⟩ | managed
    · exact @flagMember_reads "enabled" (named "enabled" (by simp)) _
    · exact acknowledgementMember_reads (clean.nonce _ (by simp [nonces, acknowledged]))
    · split at managed
      · exact managedMembers_read clean nowMs member managed
      · cases managed
  · cases inside

theorem statusMembers_read (clean : self.Clean firmwareVersion) (nowMs : UInt32) (connected : Bool) :
    ∀ member ∈ self.statusMembers firmwareVersion nowMs connected, member.Reads := by
  have named : ∀ name ∈ ["schema_version", "device_id", "session_id", "protocol", "connected", "system"],
      ∀ byte ∈ ascii name, plain byte = true := by decide
  intro member inside
  simp only [statusMembers, List.mem_cons] at inside
  rcases inside with rfl | rfl | rfl | rfl | rfl | rfl | managed
  · exact @decimalMember_reads "schema_version" (named "schema_version" (by simp)) _
  · exact @stringMember_reads "device_id" (named "device_id" (by simp)) _ (clean _ (by simp [texts]))
  · exact @stringMember_reads "session_id" (named "session_id" (by simp)) _ (clean _ (by simp [texts]))
  · have said : ∀ byte ∈ self.protocolName, plain byte = true := by
      rw [protocolName]
      split
      · split <;> decide
      · exact fun _ member => nomatch member
    exact @rawMember_reads "protocol" (named "protocol" (by simp)) _ said
  · exact @flagMember_reads "connected" (named "connected" (by simp)) _
  · exact @objectMember_reads "system" (named "system" (by simp)) _ (SystemDiagnostics.members_read _ _ _ _ _)
  · exact managementMembers_read clean nowMs member managed

theorem buildStatusJson_reads (clean : self.Clean firmwareVersion) (nowMs : UInt32) (connected : Bool) :
    JsonTree.parse (self.buildStatusJson firmwareVersion nowMs connected) =
      some (self.statusDocument firmwareVersion nowMs connected) := by
  rw [self.buildStatusJson_eq firmwareVersion nowMs connected clean.nonce]
  exact (text_members (statusMembers_read clean nowMs connected)).parse

end Reported

end LiveUpload

end ApexiDevices
