import ApexiDevices.Fleet.Inventory
import ApexiDevices.Provisioning.ProvisioningPolicy
import ApexiDevices.Shared.Utf8

set_option autoImplicit false

/-!
# What the firmware makes of an accepted bundle

The tool counts characters where the firmware counts bytes. Nothing else keeps
the two apart.
-/

namespace ApexiDevices.ProvisionDevice

open Device ProvisioningPolicy

/-! ## The candidate of a bundle -/

/-- `value | ""`, of the bytes the device receives. -/
def received : Json → CText
  | .string text => .of (utf8 text)
  | _ => .empty

/-- `value | 0`, cut to the 16 bits of the field. -/
def receivedPort : Json → UInt16
  | .int value => if -0x80000000 ≤ value ∧ value < 0x80000000 then UInt16.ofInt value else 0
  | _ => 0

/-- `document[key]` -/
def below : Json → String → Json
  | .object members, key => Members.get members key
  | _, _ => .null

def candidate (bundle : Members) : Candidate :=
  let wifi := bundle.get "wifi"
  let upload := bundle.get "upload"
  { expectedDeviceId := received (bundle.get "expected_device_id")
    friendlyName := received (bundle.get "friendly_name")
    wifiSsid := received (below wifi "ssid")
    wifiPassword := received (below wifi "password")
    otaPassword := received (bundle.get "ota_password")
    protocol := if received (below upload "protocol") = .literal "mqtt" then .mqtt else .https
    uploadHost := received (below upload "host")
    uploadPort := receivedPort (below upload "port")
    mqttUsername := received (below upload "mqtt_username")
    mqttPassword := received (below upload "mqtt_password")
    cloudflareClientId := received (below upload "cloudflare_client_id")
    cloudflareClientSecret := received (below upload "cloudflare_client_secret")
    appDeviceToken := received (below upload "app_device_token")
    appTokenSubject := received (below upload "app_token_subject")
    hardwareRevision := received (bundle.get "hardware_revision")
    provisionedAt := received (bundle.get "provisioned_at") }

/-- The length of a text as the firmware counts it. -/
def utf8Length : Json → Nat
  | .string text => (utf8 text).length
  | _ => 0

/-- Every text of the bundle has its length in bytes, too. -/
@[mk_iff]
structure Fits (now : String) (bundle : Members) : Prop where
  friendlyName : utf8Length (bundle.get "friendly_name") ≤ 63
  hardwareRevision : utf8Length (bundle.get "hardware_revision") ≤ 31
  provisionedAt : utf8Length ((bundle.find? "provisioned_at").getD (.string now)) ≤ 40
  otaPassword : utf8Length (bundle.get "ota_password") ≤ 127
  wifiSsid : utf8Length (below (bundle.get "wifi") "ssid") ≤ 32
  wifiPassword : utf8Length (below (bundle.get "wifi") "password") ≤ 63
  uploadHost : utf8Length (below (bundle.get "upload") "host") ≤ 127
  mqtt : below (bundle.get "upload") "protocol" = .string "mqtt" →
    utf8Length (below (bundle.get "upload") "mqtt_password") ≤ 127
  https : below (bundle.get "upload") "protocol" = .string "https" →
    utf8Length (below (bundle.get "upload") "cloudflare_client_id") ≤ 127 ∧
    utf8Length (below (bundle.get "upload") "cloudflare_client_secret") ≤ 127 ∧
    utf8Length (below (bundle.get "upload") "app_device_token") ≤ 511

/-! ## Texts -/

structure Checked (value : Json) (minimum : Nat) : Prop where
  isText : ∃ text, value = .string text ∧ minimum ≤ text.length ∧
    ∀ char ∈ text.toList, 0x20 ≤ char.toNat ∧ char.toNat ≠ 0x7F

theorem text_checked {value : Json} {field read : String} {maximum minimum : Nat}
    (accepted : text value field maximum minimum = .ok read) : Checked value minimum ∧ value = .string read := by
  have same := text_ok accepted
  subst same
  unfold text at accepted
  dsimp only at accepted
  split at accepted
  · cases accepted
  · rename_i range
    split at accepted
    · cases accepted
    · rename_i control
      refine ⟨⟨read, rfl, by omega, ?_⟩, rfl⟩
      intro char member
      simp only [List.any_eq_true, not_exists, not_and, Bool.or_eq_true, decide_eq_true_eq, beq_iff_eq, not_or] at control
      have fact := control char member
      omega

section Texts

variable {value : Json} {minimum : Nat} (checked : Checked value minimum)

include checked

theorem received_bytes : (received value).bytes.length = utf8Length value ∧ minimum ≤ utf8Length value ∧
    ∀ byte ∈ (received value).bytes, ¬byte < 0x20 ∧ byte ≠ 0x7F := by
  obtain ⟨text, rfl, long, plain⟩ := checked.isText
  have clean : ∀ byte ∈ utf8 text, ¬byte < 0x20 ∧ byte ≠ 0x7F := by
    intro byte member
    refine ⟨fun small => ?_, fun delete => ?_⟩
    · have low : byte.toNat < 0x20 := small
      obtain ⟨char, own, code⟩ := Utf8.low_char member (by omega)
      have fact := plain char own
      omega
    · have code : byte.toNat = 0x7F := by rw [delete]; rfl
      obtain ⟨char, own, same⟩ := Utf8.low_char member (by omega)
      have fact := plain char own
      omega
  have ends : 0 ∉ utf8 text := fun zero => (clean 0 zero).1 (by decide)
  rw [received, CText.of_eq ends]
  exact ⟨rfl, long.trans (Utf8.length_le text), clean⟩

theorem validText_checked (maximum : Nat) (positive : 1 ≤ minimum) :
    validText (received value) maximum true = true ↔ utf8Length value ≤ maximum := by
  obtain ⟨length, least, clean⟩ := received_bytes checked
  have filled : (received value).bytes ≠ [] := by
    intro none
    rw [none] at length
    have zero : 0 = utf8Length value := length
    omega
  have plain : ((received value).bytes.all fun character => !(character < 0x20 || character == 0x7F)) = true := by
    rw [List.all_eq_true]
    intro byte member
    have fact := clean byte member
    simp [fact.1, fact.2]
  rw [validText, plain, length]
  simp [filled]

end Texts

theorem received_string {text : String} (low : ∀ char ∈ text.toList, char.toNat < 0x80) :
    received (.string text) = .literal text := by
  rw [received, Utf8.utf8_ascii low, CText.literal]

/-! ## Accepted bundles -/

structure Upload (observed : String) (upload : Json) : Prop where
  protocol : below upload "protocol" = .string "https" ∨ below upload "protocol" = .string "mqtt"
  host : Checked (below upload "host") 1
  port : ∃ port : Int, below upload "port" = .int port ∧ 1 ≤ port ∧ port ≤ 65535
  mqtt : below upload "protocol" = .string "mqtt" →
    below upload "mqtt_username" = .string observed ∧ Checked (below upload "mqtt_password") 1
  https : below upload "protocol" = .string "https" →
    Checked (below upload "cloudflare_client_id") 1 ∧ Checked (below upload "cloudflare_client_secret") 1 ∧
    Checked (below upload "app_device_token") 1 ∧ below upload "app_token_subject" = .string s!"logger:{observed}"

theorem upload_of_ok {observed : String} {upload : Members} (accepted : validateUpload observed upload = .ok ()) :
    Upload observed (.object upload) := by
  obtain ⟨protocol, read, accepted⟩ := bind_ok accepted
  obtain ⟨-, same⟩ := text_checked read
  by_cases known : protocol ≠ "https" ∧ protocol ≠ "mqtt"
  · rw [if_pos known] at accepted
    cases accepted
  rw [if_neg known] at accepted
  obtain ⟨host, hosted, accepted⟩ := bind_ok accepted
  obtain ⟨checkedHost, -⟩ := text_checked hosted
  have own : ∀ key, below (.object upload) key = upload.get key := fun _ => rfl
  dsimp only at accepted
  -- a port that is no whole number is refused before its range is looked at
  cases isPort : upload.get "port" with
  | null | bool _ | real _ | string _ | array _ | object _ =>
    rw [isPort] at accepted
    cases accepted
  | int port =>
  rw [isPort] at accepted
  dsimp only at accepted
  by_cases range : 1 ≤ port ∧ port ≤ 65535
  case neg =>
    rw [if_pos range] at accepted
    cases accepted
  rw [if_neg (not_not.mpr range)] at accepted
  have kind : protocol = "https" ∨ protocol = "mqtt" := by
    by_cases https : protocol = "https"
    · exact .inl https
    · exact .inr (by_contra fun mqtt => known ⟨https, mqtt⟩)
  split at accepted
  · rename_i mqtt
    obtain ⟨username, named, accepted⟩ := bind_ok accepted
    split at accepted
    · cases accepted
    rename_i owner
    obtain ⟨password, checked, -⟩ := bind_ok accepted
    have isMqtt : upload.get "protocol" = .string "mqtt" := by rw [same, mqtt]
    refine ⟨.inr isMqtt, checkedHost, ⟨port, isPort, by omega, by omega⟩, ?_, ?_⟩
    · intro _
      have owned : username = observed := by simpa using owner
      exact ⟨by rw [own, (text_checked named).2, owned], (text_checked checked).1⟩
    · intro https
      rw [own, isMqtt] at https
      exact absurd (Json.string.inj https) (by decide)
  · rename_i other
    have isHttps : upload.get "protocol" = .string "https" := by rw [same, kind.resolve_right other]
    obtain ⟨id, checkedId, accepted⟩ := bind_ok accepted
    obtain ⟨secret, checkedSecret, accepted⟩ := bind_ok accepted
    obtain ⟨token, checkedToken, accepted⟩ := bind_ok accepted
    obtain ⟨subject, checkedSubject, accepted⟩ := bind_ok accepted
    split at accepted
    · cases accepted
    rename_i owner
    refine ⟨.inl isHttps, checkedHost, ⟨port, isPort, by omega, by omega⟩, ?_, ?_⟩
    · intro mqtt
      rw [own, isHttps] at mqtt
      exact absurd (Json.string.inj mqtt) (by decide)
    · intro _
      have owned : subject = s!"logger:{observed}" := by simpa using owner
      exact ⟨(text_checked checkedId).1, (text_checked checkedSecret).1, (text_checked checkedToken).1,
        by rw [own, (text_checked checkedSubject).2, owned]⟩

structure Validated (now observed : String) (bundle result : Members) : Prop where
  pattern : deviceIdPattern observed = true
  identity : ¬"000000000000".toList <:+ observed.toList
  managed : ∃ managed, result = (bindIdentity now observed bundle).set "remote_management_enabled" (.bool managed)
  friendlyName : Checked (result.get "friendly_name") 1
  hardwareRevision : Checked (result.get "hardware_revision") 1
  provisionedAt : Checked (result.get "provisioned_at") 1
  otaPassword : Checked (result.get "ota_password") 12
  wifiSsid : Checked (below (result.get "wifi") "ssid") 1
  wifiPassword : Checked (below (result.get "wifi") "password") 8
  upload : Upload observed (result.get "upload")

theorem device_of_ok {observed : String} {bundle : Members} (accepted : validateDeviceId observed bundle = .ok ()) :
    deviceIdPattern observed = true ∧ ¬"000000000000".toList <:+ observed.toList := by
  by_cases malformed : (decide ¬deviceIdPattern observed = true) || "000000000000".toList.isSuffixOf observed.toList
  · rw [validateDeviceId, if_pos malformed] at accepted
    cases accepted
  · rw [Bool.or_eq_true, not_or, List.isSuffixOf_iff_suffix] at malformed
    exact ⟨by simpa using malformed.1, malformed.2⟩

theorem validated_of_ok {now observed : String} {bundle : Json} {result : Members}
    (accepted : validateBundle now bundle observed = .ok result) :
    ∃ members, bundle = .object members ∧ Validated now observed members result := by
  unfold validateBundle at accepted
  split at accepted
  case h_2 => cases accepted
  rename_i members
  obtain ⟨_, device, accepted⟩ := bind_ok accepted
  dsimp only at accepted
  obtain ⟨_, identity, accepted⟩ := bind_ok accepted
  split at accepted
  case h_2 => cases accepted
  rename_i managed isManaged
  split at accepted
  case h_2 => cases accepted
  rename_i wifi isWifi
  split at accepted
  case h_2 => cases accepted
  rename_i upload isUpload
  obtain ⟨ssid, checkedSsid, accepted⟩ := bind_ok accepted
  obtain ⟨password, checkedPassword, accepted⟩ := bind_ok accepted
  obtain ⟨_, uploaded, accepted⟩ := bind_ok accepted
  cases accepted
  obtain ⟨name, named, identity⟩ := bind_ok identity
  obtain ⟨revision, revised, identity⟩ := bind_ok identity
  obtain ⟨time, timed, identity⟩ := bind_ok identity
  obtain ⟨ota, guarded, -⟩ := bind_ok identity
  obtain ⟨pattern, other⟩ := device_of_ok device
  -- the member set last is none of those that are checked
  have kept : ∀ key, key ≠ "remote_management_enabled" →
      ((bindIdentity now observed members).set "remote_management_enabled" (.bool managed)).get key =
        (bindIdentity now observed members).get key := by
    intro key apart
    rw [Members.get_set, if_neg apart.symm]
  have ownWifi : ∀ key, below (.object wifi) key = Members.get wifi key := fun _ => rfl
  refine ⟨members, rfl, pattern, other, ⟨managed, rfl⟩, ?_, ?_, ?_, ?_, ?_, ?_, ?_⟩
  · rw [kept _ (by decide)]
    exact (text_checked named).1
  · rw [kept _ (by decide)]
    exact (text_checked revised).1
  · rw [kept _ (by decide)]
    exact (text_checked timed).1
  · rw [kept _ (by decide)]
    exact (text_checked guarded).1
  · rw [isWifi, ownWifi]
    exact (text_checked checkedSsid).1
  · rw [isWifi, ownWifi]
    exact (text_checked checkedPassword).1
  · rw [isUpload]
    exact upload_of_ok uploaded

theorem bound_get {now observed : String} {bundle : Members} {managed : Bool} {key : String}
    (identity : key ≠ "expected_device_id") (time : key ≠ "provisioned_at") (remote : key ≠ "remote_management_enabled") :
    ((bindIdentity now observed bundle).set "remote_management_enabled" (.bool managed)).get key = bundle.get key := by
  rw [Members.get_set, if_neg remote.symm, bindIdentity]
  split
  · rw [Members.get_set, if_neg identity.symm]
  · rw [Members.get_set, if_neg time.symm, Members.get_set, if_neg identity.symm]

theorem bound_identity {now observed : String} {bundle : Members} {managed : Bool} :
    ((bindIdentity now observed bundle).set "remote_management_enabled" (.bool managed)).get "expected_device_id" =
      .string observed := by
  rw [Members.get_set, if_neg (by decide), bindIdentity]
  split
  · rw [Members.get_set, if_pos rfl]
  · rw [Members.get_set, if_neg (by decide), Members.get_set, if_pos rfl]

theorem bound_time {now observed : String} {bundle : Members} {managed : Bool} :
    ((bindIdentity now observed bundle).set "remote_management_enabled" (.bool managed)).find? "provisioned_at" =
      some ((bundle.find? "provisioned_at").getD (.string now)) := by
  have kept : (bundle.set "expected_device_id" (.string observed)).find? "provisioned_at" = bundle.find? "provisioned_at" := by
    rw [Members.find?_set, if_neg (by decide)]
  rw [Members.find?_set, if_neg (by decide), bindIdentity, kept]
  cases had : bundle.find? "provisioned_at" with
  | some time =>
    rw [if_pos Option.isSome_some, kept, had]
    rfl
  | none =>
    rw [if_neg (by decide), Members.find?_set, if_pos rfl]
    rfl

theorem fits_bound {now observed : String} {bundle : Members} {managed : Bool} :
    Fits now ((bindIdentity now observed bundle).set "remote_management_enabled" (.bool managed)) ↔ Fits now bundle := by
  rw [fits_iff, fits_iff, bound_time, Option.getD_some]
  simp only [bound_get, ne_eq, String.reduceEq, not_false_eq_true]

/-! ## The identity -/

theorem lowerHex_range {char : Char} (hex : lowerHex char = true) :
    0x30 ≤ char.toNat ∧ char.toNat ≤ 0x39 ∨ 0x61 ≤ char.toNat ∧ char.toNat ≤ 0x66 := by
  simpa [lowerHex, Char.le_def, UInt32.le_iff_toNat_le] using hex

theorem low_of_pattern {observed : String} (pattern : deviceIdPattern observed = true) :
    ∀ char ∈ observed.toList, 0x20 ≤ char.toNat ∧ char.toNat < 0x80 := by
  unfold deviceIdPattern at pattern
  split at pattern
  case h_2 => cases pattern
  rename_i digits shape
  rw [Bool.and_eq_true, List.all_eq_true] at pattern
  rw [shape]
  intro char member
  simp only [List.mem_cons] at member
  obtain rfl | rfl | rfl | rfl | digit := member
  · decide
  · decide
  · decide
  · decide
  · have range := lowerHex_range (pattern.2 char digit)
    omega

theorem ascii_pattern {observed : String} (pattern : deviceIdPattern observed = true) : 0 ∉ ascii observed := by
  intro zero
  obtain ⟨char, member, code⟩ := List.mem_map.mp zero
  have range := low_of_pattern pattern char member
  have value := congrArg UInt8.toNat code
  rw [UInt8.toNat_ofNat'] at value
  have none : (0 : UInt8).toNat = 0 := rfl
  omega

theorem received_subject {observed : String} (pattern : deviceIdPattern observed = true) :
    (received (.string s!"logger:{observed}")).bytes = ascii "logger:" ++ (CText.literal observed).bytes := by
  have low : ∀ char ∈ observed.toList, char.toNat < 0x80 := fun char member => (low_of_pattern pattern char member).2
  have whole : utf8 s!"logger:{observed}" = ascii "logger:" ++ ascii observed := by
    rw [← Utf8.utf8_ascii low, ← Utf8.utf8_ascii (show ∀ char ∈ "logger:".toList, char.toNat < 0x80 by decide)]
    exact Utf8.utf8_append _ _
  have ends : 0 ∉ ascii "logger:" ++ ascii observed := by
    rw [List.mem_append, not_or]
    exact ⟨by decide, ascii_pattern pattern⟩
  rw [received, whole, CText.of_eq ends, CText.literal, CText.of_eq (ascii_pattern pattern)]

theorem canonical_of_pattern {observed : String} (pattern : deviceIdPattern observed = true)
    (other : ¬"000000000000".toList <:+ observed.toList) : isCanonicalDeviceId (.literal observed) = true := by
  have ends := ascii_pattern pattern
  unfold deviceIdPattern at pattern
  split at pattern
  case h_2 => cases pattern
  rename_i digits shape
  rw [Bool.and_eq_true, List.all_eq_true, beq_iff_eq] at pattern
  obtain ⟨length, hex⟩ := pattern
  have bytes : ascii observed = ascii "mda-" ++ digits.map fun char => UInt8.ofNat char.toNat := by
    rw [ascii, shape]
    rfl
  have code : ∀ char ∈ digits, (UInt8.ofNat char.toNat).toNat = char.toNat := by
    intro char member
    have range := lowerHex_range (hex char member)
    rw [UInt8.toNat_ofNat']
    omega
  have some : ∃ char ∈ digits, char ≠ '0' := by
    by_contra none
    have each : ∀ char ∈ digits, char = '0' := by simpa using none
    have zeros : digits = "000000000000".toList := by
      rw [List.eq_replicate_of_mem each, length]
      rfl
    exact other ⟨['m', 'd', 'a', '-'], by rw [shape, zeros]; rfl⟩
  have size : (ascii "mda-").length = 4 := by decide
  have head : (ascii observed).take 4 = ascii "mda-" := by rw [bytes, ← size, List.take_left]
  have tail : (ascii observed).drop 4 = digits.map fun char => UInt8.ofNat char.toNat := by
    rw [bytes, ← size, List.drop_left]
  have whole : (ascii observed).length = 16 := by rw [bytes, List.length_append, List.length_map, size, length]
  rw [CText.literal, CText.of_eq ends, isCanonicalDeviceId]
  dsimp only
  rw [whole, head, tail, Bool.and_eq_true, Bool.and_eq_true, List.all_map, List.any_map, List.all_eq_true, List.any_eq_true]
  refine ⟨⟨by simp, ?_⟩, ?_⟩
  · intro char member
    have range := lowerHex_range (hex char member)
    have same := code char member
    simp only [Function.comp_apply, hexadecimal, UInt8.le_iff_toNat_le, same, Bool.or_eq_true, Bool.and_eq_true,
      decide_eq_true_eq]
    exact range
  · obtain ⟨char, member, apart⟩ := some
    refine ⟨char, member, ?_⟩
    rw [Function.comp_apply, bne_iff_ne]
    intro zero
    have same := code char member
    rw [zero] at same
    exact apart (Char.toNat_inj.mp same.symm)

/-! ## Agreement -/

theorem receivedPort_ne {port : Int} (low : 1 ≤ port) (high : port ≤ 65535) : receivedPort (.int port) ≠ 0 := by
  rw [receivedPort, if_pos (by omega)]
  intro zero
  have value := congrArg UInt16.toNat zero
  obtain ⟨value', rfl⟩ := Int.eq_ofNat_of_zero_le (show 0 ≤ port by omega)
  rw [UInt16.ofInt, UInt16.toNat_ofNat'] at value
  have none : (0 : UInt16).toNat = 0 := rfl
  omega

theorem validate_of_accepted {candidate : Candidate} {deviceId : CText} (accepted : Accepted candidate deviceId)
    (ota : 12 ≤ candidate.otaPassword.bytes.length) (wifi : 8 ≤ candidate.wifiPassword.bytes.length) :
    validate candidate deviceId = .ok () := by
  have filled : candidate.expectedDeviceId ≠ .empty := by
    intro none
    exact accepted.identity_ne (by rw [none]; rfl)
  rw [validate, if_neg (by simp [accepted.canonical]), if_neg (by simpa using filled), if_neg (by simp [accepted.identity]),
    if_neg (by simp [accepted.friendlyName, accepted.wifiSsid, accepted.wifiPassword, accepted.otaPassword,
      accepted.uploadHost, accepted.uploadPort, accepted.hardwareRevision, accepted.provisionedAt]), if_neg (by simp; omega)]
  cases protocol : candidate.protocol with
  | mqtt =>
    obtain ⟨username, password⟩ := accepted.mqtt protocol
    simp [username, password]
    rfl
  | https =>
    obtain ⟨id, secret, token, subject⟩ := accepted.https protocol
    simp [id, secret, token, subject]
    rfl

variable {now observed : String} {bundle result : Members}

theorem received_protocol (upload : Upload observed (bundle.get "upload")) :
    ((candidate bundle).protocol = .mqtt ↔ below (bundle.get "upload") "protocol" = .string "mqtt") ∧
      ((candidate bundle).protocol = .https ↔ below (bundle.get "upload") "protocol" = .string "https") := by
  have apart : CText.literal "https" ≠ .literal "mqtt" := by decide
  rw [candidate]
  obtain https | mqtt := upload.protocol
  · rw [https, received_string (by decide)]
    simp [apart]
  · rw [mqtt, received_string (by decide)]
    simp

/-- The firmware accepts what was checked exactly when the texts fit in bytes, too. -/
theorem accepted_iff (validated : Validated now observed bundle result) :
    Accepted (candidate result) (.literal observed) ↔ Fits now result := by
  have stamped : (result.find? "provisioned_at").getD (.string now) = result.get "provisioned_at" := by
    obtain ⟨managed, rfl⟩ := validated.managed
    rw [Members.get, bound_time]
    rfl
  have name := validText_checked validated.friendlyName 63 (by decide)
  have revision := validText_checked validated.hardwareRevision 31 (by decide)
  have time := validText_checked validated.provisionedAt 40 (by decide)
  have ota := validText_checked validated.otaPassword 127 (by decide)
  have ssid := validText_checked validated.wifiSsid 32 (by decide)
  have password := validText_checked validated.wifiPassword 63 (by decide)
  have host := validText_checked validated.upload.host 127 (by decide)
  obtain ⟨isMqtt, isHttps⟩ := received_protocol validated.upload
  constructor
  -- the device bounds the bytes of a text, where the tool has bounded its characters
  · intro accepted
    refine ⟨name.mp accepted.friendlyName, revision.mp accepted.hardwareRevision, ?_, ota.mp accepted.otaPassword,
      ssid.mp accepted.wifiSsid, password.mp accepted.wifiPassword, host.mp accepted.uploadHost, ?_, ?_⟩
    · rw [stamped]
      exact time.mp accepted.provisionedAt
    · intro mqtt
      have own := (validated.upload.mqtt mqtt).2
      exact (validText_checked own 127 (by decide)).mp (accepted.mqtt (isMqtt.mpr mqtt)).2
    · intro https
      obtain ⟨id, secret, token, -⟩ := validated.upload.https https
      obtain ⟨validId, validSecret, validToken, -⟩ := accepted.https (isHttps.mpr https)
      exact ⟨(validText_checked id 127 (by decide)).mp validId,
        (validText_checked secret 127 (by decide)).mp validSecret,
        (validText_checked token 511 (by decide)).mp validToken⟩
  -- what has no length to fit is checked alike on both sides
  · intro fits
    have low := fun char member => (low_of_pattern validated.pattern char member).2
    have timed := fits.provisionedAt
    rw [stamped] at timed
    refine ⟨canonical_of_pattern validated.pattern validated.identity, ?_, name.mpr fits.friendlyName,
      ssid.mpr fits.wifiSsid, password.mpr fits.wifiPassword, ota.mpr fits.otaPassword, host.mpr fits.uploadHost, ?_,
      revision.mpr fits.hardwareRevision, time.mpr timed, ?_, ?_⟩
    · obtain ⟨managed, rfl⟩ := validated.managed
      rw [candidate]
      dsimp only
      rw [bound_identity, received_string low]
    · obtain ⟨port, isPort, least, most⟩ := validated.upload.port
      rw [candidate]
      dsimp only
      rw [isPort]
      exact receivedPort_ne least most
    · intro mqtt
      have chosen := isMqtt.mp mqtt
      obtain ⟨username, own⟩ := validated.upload.mqtt chosen
      refine ⟨?_, (validText_checked own 127 (by decide)).mpr (fits.mqtt chosen)⟩
      rw [candidate]
      dsimp only
      rw [username, received_string low]
    · intro https
      have chosen := isHttps.mp https
      obtain ⟨id, secret, token, subject⟩ := validated.upload.https chosen
      obtain ⟨fitsId, fitsSecret, fitsToken⟩ := fits.https chosen
      refine ⟨(validText_checked id 127 (by decide)).mpr fitsId,
        (validText_checked secret 127 (by decide)).mpr fitsSecret,
        (validText_checked token 511 (by decide)).mpr fitsToken, ?_⟩
      rw [candidate]
      dsimp only
      rw [subject]
      exact received_subject validated.pattern

/-- For every accepted bundle the firmware accepts the candidate if and only if every text fits in bytes, too. -/
theorem bundle_accepted (now observed : String) (bundle result : Members)
    (accepted : validateBundle now (.object bundle) observed = .ok result) :
    validate (candidate result) (.of (utf8 observed)) = .ok () ↔ Fits now bundle := by
  obtain ⟨members, same, validated⟩ := validated_of_ok accepted
  cases same
  have low := fun char member => (low_of_pattern validated.pattern char member).2
  have own : CText.of (utf8 observed) = .literal observed := received_string low
  have bound : Fits now result ↔ Fits now bundle := by
    obtain ⟨managed, rfl⟩ := validated.managed
    exact fits_bound
  rw [own, ← bound, ← accepted_iff validated]
  refine ⟨accepted_of_validate, fun accepted => validate_of_accepted accepted ?_ ?_⟩
  · obtain ⟨length, least, -⟩ := received_bytes validated.otaPassword
    exact least.trans_eq length.symm
  · obtain ⟨length, least, -⟩ := received_bytes validated.wifiPassword
    exact least.trans_eq length.symm

def accented : Members :=
  [("friendly_name", .string (String.ofList (List.replicate 32 'é'))), ("hardware_revision", .string "r1"),
    ("provisioned_at", .string "2026-09-05T00:00:00+00:00"), ("ota_password", .string "unique-ota-password"),
    ("wifi", .object [("ssid", .string "network"), ("password", .string "password123")]),
    ("upload", .object [("protocol", .string "https"), ("host", .string "app-dev.apexilabs.com"), ("port", .int 443),
      ("cloudflare_client_id", .string "client.access"), ("cloudflare_client_secret", .string "secret"),
      ("app_device_token", .string "token"), ("app_token_subject", .string "logger:mda-aabbccddeeff")])]

def accentedResult : Members :=
  accented ++ [("expected_device_id", .string "mda-aabbccddeeff"), ("remote_management_enabled", .bool false)]

theorem accented_validates : validateBundle "" (.object accented) "mda-aabbccddeeff" = .ok accentedResult := by
  rfl

theorem bundle_accepted_accented :
    validate (candidate accentedResult) (.of (utf8 "mda-aabbccddeeff")) = .ok () ↔ Fits "" accented :=
  bundle_accepted "" "mda-aabbccddeeff" accented accentedResult accented_validates

/-- The tool accepts it, and the firmware does not. -/
theorem accented_refused :
    validateBundle "" (.object accented) "mda-aabbccddeeff" = .ok accentedResult ∧
      validate (candidate accentedResult) (.of (utf8 "mda-aabbccddeeff")) ≠ .ok () :=
  ⟨accented_validates, by decide⟩

end ApexiDevices.ProvisionDevice
