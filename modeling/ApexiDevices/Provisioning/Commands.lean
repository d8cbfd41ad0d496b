import ApexiDevices.Provisioning.Stores

set_option autoImplicit false

/-!
# Commands are stored as written

An accepted command is exposed by every later boot as its document has it, but
for a port that does not fit its field and a text that has a NUL.
-/

namespace ApexiDevices

open Device ProvisioningPolicy

namespace DeviceProvisioning

open Cells

abbrev ownerWorks : Slots ownerLayout → (op : PreferencesOp ownerLayout) →
    (Preferences ownerLayout).Reply op × Slots ownerLayout :=
  Slots.handle fun _ => false

abbrev factoryWorks : Slots factoryLayout → (op : PreferencesOp factoryLayout) →
    (Preferences factoryLayout).Reply op × Slots factoryLayout :=
  Slots.handle fun _ => false

def works : Cells → (op : Serial.Op) → Serial.Reply op × Cells
  | cells, .inl (.inl op) =>
    ((ownerWorks cells.ownerSlots op).1, { cells with ownerSlots := (ownerWorks cells.ownerSlots op).2 })
  | cells, .inl (.inr op) =>
    ((factoryWorks cells.factorySlots op).1, { cells with factorySlots := (factoryWorks cells.factorySlots op).2 })
  | cells, .inr () => (true, { cells with prepared := true })

theorem device_works (cells : Cells) (op : Serial.Op) : device.step cells op (works cells op).1 (works cells op).2 := by
  rcases op with (op | op) | _
  · exact ⟨_, Slots.device_handle _ _ _, rfl⟩
  · exact ⟨_, Slots.device_handle _ _ _, rfl⟩
  · exact ⟨cells.ownerSlots, rfl⟩

variable {A : Type} {self : DeviceProvisioning} {candidate : Candidate} {remote : Bool} {cells : Cells}
  {library : JsonLibrary} {line : Bytes}

theorem exec_owner (program : Prog (Preferences ownerLayout) A) (cells : Cells) :
    (owner program).exec works cells =
      ((program.exec ownerWorks cells.ownerSlots).1,
        { cells with ownerSlots := (program.exec ownerWorks cells.ownerSlots).2 }) := by
  rw [owner, Model.exec_left, Model.exec_left]
  exact @Model.exec_component _ _ _ _ ownerWorks ownerSlots (fun cells part => { cells with ownerSlots := part })
    (fun _ _ => rfl) (fun _ _ _ => rfl) (fun _ => rfl) program cells

theorem exec_factory (program : Prog (Preferences factoryLayout) A) (cells : Cells) :
    (factory program).exec works cells =
      ((program.exec factoryWorks cells.factorySlots).1,
        { cells with factorySlots := (program.exec factoryWorks cells.factorySlots).2 }) := by
  rw [factory, Model.exec_left, Model.exec_right]
  exact @Model.exec_component _ _ _ _ factoryWorks factorySlots (fun cells part => { cells with factorySlots := part })
    (fun _ _ => rfl) (fun _ _ _ => rfl) (fun _ => rfl) program cells

theorem putAll_exec {rest : List Entry} (positive : ∀ entry ∈ rest, 0 < (ownerLayout.kind entry.1).size entry.2)
    (slots : Slots ownerLayout) : ((putAll true rest).exec ownerWorks slots).1 = true := by
  induction rest generalizing slots with
  | nil => rfl
  | cons entry rest ih =>
    have put : (Preferences.putNext true entry.1 entry.2).exec ownerWorks slots =
        (decide ((ownerLayout.kind entry.1).size entry.2 > 0), slots.put entry.1 entry.2) := rfl
    rw [putAll, Prog.exec_bind, put, decide_eq_true (positive entry List.mem_cons_self)]
    exact ih (fun entry member => positive entry (List.mem_cons_of_mem _ member)) _

theorem string_length {text : CText} (some : text.bytes ≠ []) : 0 < text.string.length := by
  rw [CText.string, String.length_ofList, List.length_map]
  exact List.length_pos_iff.mpr some

theorem entries_positive {deviceId : CText} (accepted : Accepted candidate deviceId) :
    ∀ entry ∈ entries candidate remote, 0 < (ownerLayout.kind entry.1).size entry.2 := by
  have id := accepted.identity_ne
  have text {value : CText} {maximum : Nat} (valid : validText value maximum true = true) :
      0 < value.string.length :=
    string_length (validText_fits valid).1
  have first := string_length id
  have name := text accepted.friendlyName
  have ssid := text accepted.wifiSsid
  have wifi := text accepted.wifiPassword
  have ota := text accepted.otaPassword
  have host := text accepted.uploadHost
  have time := text accepted.provisionedAt
  cases protocol : candidate.protocol with
  | mqtt =>
    obtain ⟨user, password⟩ := accepted.mqtt protocol
    have user : 0 < candidate.mqttUsername.string.length := by rwa [user, ← accepted.identity]
    have password := text password
    simp only [entries, protocol, List.cons_append, List.nil_append, List.forall_mem_cons, List.not_mem_nil,
      false_implies, implies_true, and_true]
    exact ⟨first, name, ssid, wifi, ota, host, Nat.succ_pos _, Nat.succ_pos _, user, password, time, Nat.succ_pos _,
      Nat.succ_pos _⟩
  | https =>
    obtain ⟨clientId, secret, token, subject⟩ := accepted.https protocol
    have clientId := text clientId
    have secret := text secret
    have token := text token
    have subject : 0 < candidate.appTokenSubject.string.length := by
      apply string_length
      rw [subject]
      exact List.cons_ne_nil _ _
    simp only [entries, protocol, List.cons_append, List.nil_append, List.forall_mem_cons, List.not_mem_nil,
      false_implies, implies_true, and_true]
    exact ⟨first, name, ssid, wifi, ota, host, Nat.succ_pos _, Nat.succ_pos _, clientId, secret, token, subject, time,
      Nat.succ_pos _, Nat.succ_pos _⟩

theorem persist_exec {deviceId : CText} (accepted : Accepted candidate deviceId) (slots : Slots ownerLayout) :
    ((self.persist candidate remote).exec ownerWorks slots).1.1 = true := by
  have opened : (Preferences.openNamespace false).exec ownerWorks slots = (true, { slots with present := true }) := rfl
  have cleared (slots : Slots ownerLayout) :
      Preferences.clear.exec ownerWorks slots = (true, slots.keep fun _ => false) := rfl
  rw [persist, Prog.exec_bind, opened]
  simp only [Bool.not_true, Bool.false_eq_true, if_false, Prog.exec_bind, cleared,
    putAll_exec (entries_positive accepted)]
  rfl

theorem changeOwner_exec {deviceId existing : CText} (accepted : Accepted candidate deviceId) (cells : Cells) :
    ((self.changeOwner existing candidate remote).exec works cells).1.1 = true := by
  have kept (slots : Slots factoryLayout) :
      ((keepRevision existing candidate.hardwareRevision).exec factoryWorks slots).1 = true := by
    unfold keepRevision
    split
    · have positive := string_length (validText_fits accepted.hardwareRevision).1
      have put : (Preferences.put FactoryKey.hwRev candidate.hardwareRevision.string).exec factoryWorks slots =
          (candidate.hardwareRevision.string.length, slots.put .hwRev candidate.hardwareRevision.string) := rfl
      rw [Prog.exec_bind, put]
      exact decide_eq_true (Nat.ne_of_gt positive)
    · rfl
  rw [changeOwner, Prog.exec_bind, exec_factory, kept]
  simp only [Bool.not_true, Bool.false_eq_true, if_false, exec_owner, persist_exec accepted]

theorem acceptSerialCommand_exec (proceeds : self.Proceeds library line cells candidate remote) :
    ((self.acceptSerialCommand library line true).exec works cells).1.1 = true := by
  obtain ⟨command, valid, agrees⟩ := proceeds
  have opened : (Preferences.openNamespace false).exec factoryWorks cells.factorySlots =
      (true, { cells.factorySlots with present := true }) := rfl
  have read (slots : Slots factoryLayout) :
      (getText (L := factoryLayout) .hwRev "" .literal).exec factoryWorks slots =
        (.literal ((slots.value .hwRev).getD ""), slots) := rfl
  have compatible : ¬(!(CText.literal ((cells.factorySlots.value .hwRev).getD "")).bytes.isEmpty &&
      CText.literal ((cells.factorySlots.value .hwRev).getD "") != candidate.hardwareRevision) = true := by
    rw [CText.eq_empty, ← List.isEmpty_iff] at agrees
    simpa [or_iff_not_imp_left] using agrees
  rw [acceptSerialCommand, command]
  dsimp only
  rw [valid]
  simp only [Prog.exec_bind, exec_factory, opened, read, Slots.value_present, compatible, Bool.not_true,
    Bool.false_eq_true, if_false]
  exact changeOwner_exec (accepted_of_validate valid) _

def protocolName : AppConfig.Protocol → Bytes
  | .mqtt => ascii "mqtt"
  | .https => ascii "https"

def givenTexts (document : Document) (protocol : AppConfig.Protocol) : List Document :=
  let wifi := document.member "wifi"
  let upload := document.member "upload"
  [document.member "expected_device_id", document.member "friendly_name", wifi.member "ssid", wifi.member "password",
    document.member "ota_password", upload.member "protocol", upload.member "host",
    document.member "hardware_revision", document.member "provisioned_at"] ++
  match protocol with
    | .mqtt => [upload.member "mqtt_username", upload.member "mqtt_password"]
    | .https =>
      [upload.member "cloudflare_client_id", upload.member "cloudflare_client_secret",
        upload.member "app_device_token"]

def shownTexts (self : DeviceProvisioning) : List Bytes :=
  [self.deviceId.bytes, self.friendlyName.bytes, self.wifi.stationSsid.bytes, self.wifi.stationPassword.bytes,
    self.ota.password.bytes, protocolName self.upload.protocol, self.upload.mqttHost.bytes,
    self.hardwareRevision.bytes, self.provisionedAt.bytes] ++
  match self.upload.protocol with
    | .mqtt => [self.upload.mqttUsername.bytes, self.upload.mqttPassword.bytes]
    | .https =>
      [self.upload.cloudflareAccessClientId.bytes, self.upload.cloudflareAccessClientSecret.bytes,
        self.upload.appDeviceToken.bytes]

def portOf (document : Document) : Document := (document.member "upload").member "port"

structure AsWritten (document : Document) (booted : DeviceProvisioning) : Prop where
  texts : givenTexts document booted.upload.protocol = booted.shownTexts.map .string
  port : portOf document = .int booted.upload.mqttPort.toNat
  positive : 0 < booted.upload.mqttPort.toNat
  remote : booted.remoteManagementEnabled = (document.member "remote_management_enabled").bool?.getD false

/-- An integer in 1..65535. -/
def PortFits (document : Document) : Prop := ∃ port : Nat, 0 < port ∧ port < 0x10000 ∧ portOf document = .int port

def documentOf (library : JsonLibrary) (line : Bytes) : Option Document :=
  if kCommandPrefix.isPrefixOf line then library.deserialize 4096 (line.drop kCommandPrefix.length) else none

/-- Every boot after an accepted command exposes its document; one without a proper port changes nothing. -/
def StoredAsWritten (self : DeviceProvisioning) (hardwareId : UInt64) (library : JsonLibrary) (line : Bytes)
    (document : Document) (cells : Cells) : Prop :=
  ∀ (callback : Bool) (answer : Bool × DeviceProvisioning) (last : Cells),
    device.Runs (self.acceptSerialCommand library line callback) cells answer last →
    (answer.1 = true → ∀ (wifiDefaults : WifiConfig) (otaDefaults : OtaConfig) (uploadDefaults : AppConfig.UploadConfig)
      (booted : Bool × DeviceProvisioning) (final : Cells),
      device.Runs («begin» hardwareId wifiDefaults otaDefaults uploadDefaults) last booted final →
        final = last ∧ booted.1 = true ∧ AsWritten document booted.2) ∧
    (¬PortFits document → answer.1 = false ∧ Unchanged cells last)

/-- When the command can be accepted, its port fits the field and no text that is exposed has a NUL. -/
def KeptExactly (self : DeviceProvisioning) (library : JsonLibrary) (line : Bytes) (document : Document)
    (cells : Cells) : Prop :=
  ∀ candidate remote, self.Proceeds library line cells candidate remote →
    PortFits document ∧ ∀ given ∈ givenTexts document candidate.protocol, 0 ∉ given.bytes

theorem text_whole {document : Document} {text : CText} (read : document.text = text) (some : text.bytes ≠ [])
    (whole : 0 ∉ document.bytes) : document = .string text.bytes := by
  subst read
  cases document with
  | string value =>
    have same : (CText.of value).bytes = value := congrArg CText.bytes (CText.of_eq whole)
    exact congrArg Document.string same.symm
  | null | bool _ | int _ | real _ | array _ | object _ => exact absurd rfl some

theorem documentOf_parsed {document : Document} (found : documentOf library line = some document) :
    parsed library line = asked document := by
  unfold documentOf at found
  unfold parsed
  split at found
  · rename_i command
    simp only [command, Bool.not_true, Bool.false_eq_true, if_false, found]
  · cases found

theorem asked_ok {document : Document} (command : asked document = .ok (candidate, remote)) :
    candidate = DeviceProvisioning.candidate document ∧
      remote = (document.member "remote_management_enabled").bool?.getD false ∧
      ((document.member "upload").member "protocol").text = .of (protocolName candidate.protocol) := by
  unfold asked at command
  dsimp only at command
  split at command
  · cases command
  rename_i known
  split at command
  · cases command
  obtain ⟨rfl, rfl⟩ := Prod.mk.inj (Except.ok.inj command)
  refine ⟨rfl, rfl, ?_⟩
  by_cases mqtt : ((document.member "upload").member "protocol").text = .literal "mqtt"
  · simp only [DeviceProvisioning.candidate, mqtt, if_true]
    rfl
  · simp only [DeviceProvisioning.candidate, mqtt, if_false]
    exact not_not.mp fun https => known ⟨mqtt, https⟩

theorem ofInt_port {port : Nat} (fits : port < 0x10000) : (UInt16.ofInt (port : Int)).toNat = port := by
  rw [UInt16.ofInt, UInt16.toNat_ofNat']
  omega

theorem kept_protocol (candidate : Candidate) : (kept candidate).protocol = candidate.protocol := by
  unfold kept
  split <;> rfl

theorem provisionedWith_asWritten {document : Document} {deviceId : CText}
    (command : asked document = .ok (candidate, remote)) (accepted : Accepted candidate deviceId)
    (port : PortFits document)
    (whole : ∀ given ∈ givenTexts document candidate.protocol, 0 ∉ given.bytes)
    (wifiDefaults : WifiConfig) (otaDefaults : OtaConfig) (uploadDefaults : AppConfig.UploadConfig) :
    AsWritten document (provisionedWith wifiDefaults otaDefaults uploadDefaults candidate remote) := by
  obtain ⟨same, flagged, name⟩ := asked_ok command
  obtain ⟨port, positive, fits, given⟩ := port
  -- the port is read as an `int` and narrowed, which `PortFits` makes harmless
  have number : (kept candidate).uploadPort.toNat = port := by
    have read : candidate.uploadPort = UInt16.ofInt (port : Int) := by
      have integer : (Document.int (port : Int)).int? = some (port : Int) := by
        rw [Document.int?, if_pos]
        omega
      rw [same]
      change UInt16.ofInt ((portOf document).int?.getD 0) = _
      rw [given, integer]
      rfl
    have kept : (kept candidate).uploadPort = candidate.uploadPort := by
      unfold DeviceProvisioning.kept
      split <;> rfl
    rw [kept, read, ofInt_port fits]
  have text {value : CText} {maximum : Nat} (valid : validText value maximum true = true) : value.bytes ≠ [] :=
    (validText_fits valid).1
  have id := accepted.identity_ne
  have called : protocolName candidate.protocol ≠ [] := by cases candidate.protocol <;> decide
  have asWhole : CText.of (protocolName candidate.protocol) = ⟨protocolName candidate.protocol, by
      cases candidate.protocol <;> decide⟩ := CText.of_eq _
  rw [asWhole] at name
  refine ⟨?_, ?_, ?_, flagged⟩
  · have read {member : Document} {value : CText} (wholly : 0 ∉ member.bytes) (text : member.text = value)
        (some : value.bytes ≠ []) : member = .string value.bytes :=
      text_whole text some wholly
    change givenTexts document (kept candidate).protocol = _
    rw [kept_protocol]
    -- the two protocols keep different credentials, so they show different texts
    cases protocol : candidate.protocol with
    | mqtt =>
      rw [protocol] at name called
      obtain ⟨user, password⟩ := accepted.mqtt protocol
      have user : candidate.mqttUsername.bytes ≠ [] := by rwa [user, ← accepted.identity]
      have shown : (provisionedWith wifiDefaults otaDefaults uploadDefaults candidate remote).shownTexts =
          [candidate.expectedDeviceId.bytes, candidate.friendlyName.bytes, candidate.wifiSsid.bytes,
            candidate.wifiPassword.bytes, candidate.otaPassword.bytes, protocolName .mqtt, candidate.uploadHost.bytes,
            candidate.hardwareRevision.bytes, candidate.provisionedAt.bytes, candidate.mqttUsername.bytes,
            candidate.mqttPassword.bytes] := by
        simp only [shownTexts, provisionedWith, bindConfigs, restored, kept, protocol]
        rfl
      simp only [givenTexts, protocol, List.cons_append, List.nil_append, List.forall_mem_cons] at whole
      obtain ⟨w1, w2, w3, w4, w5, w6, w7, w8, w9, w10, w11, -⟩ := whole
      simp only [shown, givenTexts, List.cons_append, List.nil_append, List.map_cons, List.map_nil, List.cons.injEq,
        and_true]
      exact ⟨read w1 (by subst same; rfl) id, read w2 (by subst same; rfl) (text accepted.friendlyName),
        read w3 (by subst same; rfl) (text accepted.wifiSsid), read w4 (by subst same; rfl) (text accepted.wifiPassword),
        read w5 (by subst same; rfl) (text accepted.otaPassword), read w6 name called,
        read w7 (by subst same; rfl) (text accepted.uploadHost),
        read w8 (by subst same; rfl) (text accepted.hardwareRevision),
        read w9 (by subst same; rfl) (text accepted.provisionedAt), read w10 (by subst same; rfl) user,
        read w11 (by subst same; rfl) (text password)⟩
    | https =>
      rw [protocol] at name called
      obtain ⟨clientId, secret, token, -⟩ := accepted.https protocol
      have shown : (provisionedWith wifiDefaults otaDefaults uploadDefaults candidate remote).shownTexts =
          [candidate.expectedDeviceId.bytes, candidate.friendlyName.bytes, candidate.wifiSsid.bytes,
            candidate.wifiPassword.bytes, candidate.otaPassword.bytes, protocolName .https, candidate.uploadHost.bytes,
            candidate.hardwareRevision.bytes, candidate.provisionedAt.bytes, candidate.cloudflareClientId.bytes,
            candidate.cloudflareClientSecret.bytes, candidate.appDeviceToken.bytes] := by
        simp only [shownTexts, provisionedWith, bindConfigs, restored, kept, protocol]
        rfl
      simp only [givenTexts, protocol, List.cons_append, List.nil_append, List.forall_mem_cons] at whole
      obtain ⟨w1, w2, w3, w4, w5, w6, w7, w8, w9, w10, w11, w12, -⟩ := whole
      simp only [shown, givenTexts, List.cons_append, List.nil_append, List.map_cons, List.map_nil, List.cons.injEq,
        and_true]
      exact ⟨read w1 (by subst same; rfl) id, read w2 (by subst same; rfl) (text accepted.friendlyName),
        read w3 (by subst same; rfl) (text accepted.wifiSsid), read w4 (by subst same; rfl) (text accepted.wifiPassword),
        read w5 (by subst same; rfl) (text accepted.otaPassword), read w6 name called,
        read w7 (by subst same; rfl) (text accepted.uploadHost),
        read w8 (by subst same; rfl) (text accepted.hardwareRevision),
        read w9 (by subst same; rfl) (text accepted.provisionedAt), read w10 (by subst same; rfl) (text clientId),
        read w11 (by subst same; rfl) (text secret), read w12 (by subst same; rfl) (text token)⟩
  · exact given.trans (congrArg (fun port : Nat => Document.int port) number.symm)
  · exact number.symm ▸ positive

theorem Proceeds.identity (proceeds : self.Proceeds library line cells candidate remote) :
    candidate.expectedDeviceId = self.deviceId :=
  (accepted_of_validate proceeds.valid).identity

theorem Proceeds.begins {hardwareId : UInt64} {wifiDefaults : WifiConfig} {otaDefaults : OtaConfig}
    {uploadDefaults : AppConfig.UploadConfig} {before last final : Cells} {booted : Bool × DeviceProvisioning}
    (proceeds : self.Proceeds library line before candidate remote) (stored : Stored candidate remote last)
    (identity : self.deviceId = deviceIdFromHardwareId hardwareId)
    (run : device.Runs («begin» hardwareId wifiDefaults otaDefaults uploadDefaults) last booted final) :
    booted = (true, provisionedWith wifiDefaults otaDefaults uploadDefaults candidate remote) ∧ final = last := by
  have valid : validate candidate candidate.expectedDeviceId = .ok () := by
    rw [proceeds.identity]
    exact proceeds.valid
  have observes := begin_observes wifiDefaults otaDefaults uploadDefaults (proceeds.identity.trans identity) valid stored
  have ends := Model.wp_runs observes run
  exact ends

theorem protocolName_whole (protocol : AppConfig.Protocol) : 0 ∉ protocolName protocol := by
  cases protocol <;> decide

theorem shownTexts_whole (self : DeviceProvisioning) : ∀ shown ∈ self.shownTexts, 0 ∉ shown := by
  unfold shownTexts
  cases self.upload.protocol <;>
    simp only [List.cons_append, List.nil_append, List.forall_mem_cons, List.not_mem_nil, false_implies, implies_true,
      CText.ends, protocolName_whole, not_false_eq_true, and_self]

/-- Commands are stored as written just when the port fits and the texts are whole. -/
theorem stored_as_written (self : DeviceProvisioning) (library : JsonLibrary) (line : Bytes) (cells : Cells)
    {document : Document} {hardwareId : UInt64} (found : documentOf library line = some document)
    (identity : self.deviceId = deviceIdFromHardwareId hardwareId) :
    self.StoredAsWritten hardwareId library line document cells ↔ self.KeptExactly library line document cells := by
  have command {candidate : Candidate} {remote : Bool} (proceeds : self.Proceeds library line cells candidate remote) :
      asked document = .ok (candidate, remote) :=
    (documentOf_parsed found).symm.trans proceeds.parsed
  constructor
  · intro kept candidate remote proceeds
    -- A device that works accepts the command, and the boot after it shows what has been stored.
    have run := Model.runs_of_handler device_works (self.acceptSerialCommand library line true) cells
    have accepted := acceptSerialCommand_exec proceeds
    obtain ⟨shows, -⟩ := kept true _ _ run
    obtain ⟨accepts, -⟩ := Model.wp_runs (acceptSerialCommand_wp self library line true cells) run
    obtain ⟨candidate', remote', again, stored⟩ := accepts accepted
    obtain ⟨rfl, rfl⟩ := Prod.mk.inj (Except.ok.inj (proceeds.parsed.symm.trans again.parsed))
    have boot := Model.runs_of_handler device_works («begin» hardwareId {} {} {}) (Prog.exec works
      (self.acceptSerialCommand library line true) cells).2
    obtain ⟨-, -, written⟩ := shows accepted {} {} {} _ _ boot
    rw [(again.begins stored identity boot).1] at written
    have protocol : (provisionedWith {} {} {} candidate remote).upload.protocol = candidate.protocol := kept_protocol _
    refine ⟨⟨_, written.positive, UInt16.toNat_lt _, written.port⟩, ?_⟩
    rw [← protocol, written.texts]
    intro given member
    obtain ⟨shown, among, rfl⟩ := List.mem_map.mp member
    exact shownTexts_whole _ _ among
  · intro kept callback answer last run
    obtain ⟨accepts, refuses⟩ := Model.wp_runs (acceptSerialCommand_wp self library line callback cells) run
    constructor
    · intro accepted wifiDefaults otaDefaults uploadDefaults booted final boot
      obtain ⟨candidate, remote, proceeds, stored⟩ := accepts accepted
      obtain ⟨rfl, rfl⟩ := proceeds.begins stored identity boot
      obtain ⟨port, whole⟩ := kept candidate remote proceeds
      exact ⟨rfl, rfl, provisionedWith_asWritten (command proceeds) (accepted_of_validate proceeds.valid) port whole _ _ _⟩
    · intro unfit
      exact refuses fun candidate remote proceeds => unfit (kept candidate remote proceeds).1

/-! A command of which the host and the port are given. -/

def bench (host : String) (port : Int) : Document :=
  .object [(.literal "expected_device_id", .string (ascii "mda-a1b2c3d4e5f6")),
    (.literal "friendly_name", .string (ascii "bench")),
    (.literal "wifi", .object [(.literal "ssid", .string (ascii "pits")),
      (.literal "password", .string (ascii "slipstream"))]),
    (.literal "ota_password", .string (ascii "tyres-and-fuel")),
    (.literal "upload", .object [(.literal "protocol", .string (ascii "mqtt")),
      (.literal "host", .string (ascii host)), (.literal "port", .int port),
      (.literal "mqtt_username", .string (ascii "mda-a1b2c3d4e5f6")),
      (.literal "mqtt_password", .string (ascii "chicane"))]),
    (.literal "hardware_revision", .string (ascii "r1")),
    (.literal "provisioned_at", .string (ascii "2026-01-01T00:00:00Z"))]

def benchLine (host port : String) : Bytes :=
  ascii ("APEXI_PROVISION \x7b\"expected_device_id\":\"mda-a1b2c3d4e5f6\",\"friendly_name\":\"bench\"," ++
    "\"wifi\":\x7b\"ssid\":\"pits\",\"password\":\"slipstream\"\x7d,\"ota_password\":\"tyres-and-fuel\"," ++
    "\"upload\":\x7b\"protocol\":\"mqtt\",\"host\":\"" ++ host ++ "\",\"port\":" ++ port ++
    ",\"mqtt_username\":\"mda-a1b2c3d4e5f6\",\"mqtt_password\":\"chicane\"\x7d," ++
    "\"hardware_revision\":\"r1\",\"provisioned_at\":\"2026-01-01T00:00:00Z\"\x7d")

def benchLibrary (host : String) (port : Int) : JsonLibrary where
  deserialize _ _ := some (bench host port)
  textInt _ := 0
  textUInt _ := 0
  realInt _ := 0
  realUInt _ := 0

def benchDevice : DeviceProvisioning where
  deviceId := .literal "mda-a1b2c3d4e5f6"

theorem bench_found {host : String} {port : Int} {line : Bytes} (command : kCommandPrefix.isPrefixOf line = true) :
    documentOf (benchLibrary host port) line = some (bench host port) := by
  rw [documentOf, if_pos command]
  rfl

theorem stored_as_written_bench :
    benchDevice.StoredAsWritten 0xA1B2C3D4E5F6 (benchLibrary "broker" 1883) (benchLine "broker" "1883")
      (bench "broker" 1883) {} := by
  have found : documentOf (benchLibrary "broker" 1883) (benchLine "broker" "1883") = some (bench "broker" 1883) :=
    bench_found (by decide +kernel)
  refine (stored_as_written benchDevice (benchLibrary "broker" 1883) (benchLine "broker" "1883") {} found
    (by decide)).mpr ?_
  intro candidate remote proceeds
  have command : asked (bench "broker" 1883) = .ok (candidate, remote) :=
    (documentOf_parsed found).symm.trans proceeds.parsed
  obtain ⟨rfl, -⟩ := asked_ok command
  exact ⟨⟨1883, by decide, by decide, rfl⟩, by decide⟩

/-- A port of 65537 is stored as 1. -/
theorem not_stored_as_written :
    ¬∀ (self : DeviceProvisioning) (library : JsonLibrary) (line : Bytes) (cells : Cells) (document : Document)
        (hardwareId : UInt64), documentOf library line = some document →
      self.deviceId = deviceIdFromHardwareId hardwareId → self.StoredAsWritten hardwareId library line document cells := by
  intro claimed
  have found : documentOf (benchLibrary "broker" 65537) (benchLine "broker" "65537") = some (bench "broker" 65537) :=
    bench_found (by decide +kernel)
  have kept := claimed benchDevice (benchLibrary "broker" 65537) (benchLine "broker" "65537") {}
    (bench "broker" 65537) 0xA1B2C3D4E5F6 found (by decide)
  have proceeds : benchDevice.Proceeds (benchLibrary "broker" 65537) (benchLine "broker" "65537") {}
      (candidate (bench "broker" 65537)) false :=
    ⟨documentOf_parsed found, by decide, .inl rfl⟩
  have run := Model.runs_of_handler device_works
    (benchDevice.acceptSerialCommand (benchLibrary "broker" 65537) (benchLine "broker" "65537") true) {}
  have unfit : ¬PortFits (bench "broker" 65537) := by
    rintro ⟨port, -, small, same⟩
    have same : (65537 : Int) = port := Document.int.inj same
    omega
  have refused := ((kept true _ _ run).2 unfit).1
  rw [acceptSerialCommand_exec proceeds] at refused
  cases refused

end DeviceProvisioning

end ApexiDevices
