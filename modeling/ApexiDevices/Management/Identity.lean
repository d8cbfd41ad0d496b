import ApexiDevices.Authorization.LoggerAuthorization
import ApexiDevices.Csv.ReadOnly
import ApexiDevices.Management.DesiredState
import Mathlib.Data.List.DropRight

set_option autoImplicit false

/-!
# The identity of the uploader

The uploader normalizes the device id it is begun with. It compares the result
with the id of the authorization and with the ids of the documents it receives.
-/

namespace ApexiDevices

open Device

namespace Logic

def isUpper (byte : UInt8) : Bool := 0x41 ≤ byte && byte ≤ 0x5a

def toLower (byte : UInt8) : UInt8 := if isUpper byte then byte + 0x20 else byte

def normalizeNext (normalized : Bytes) (byte : UInt8) : Bytes :=
  if isAlnum byte || byte == 0x2d || byte == 0x5f then normalized ++ [toLower byte]
  else if byte == 0x20 || byte == 0x2f || byte == 0x2e then
    if normalized.isEmpty || normalized.getLast? == some 0x2d then normalized else normalized ++ [0x2d]
  else normalized

def normalizeTopicSegment (rawSegment : Bytes) : Bytes :=
  ((trimWhitespace rawSegment).foldl normalizeNext []).rdropWhile (· == 0x2d)

/-- What the policy accepts in a device id, as a byte. -/
def idByte (byte : UInt8) : Bool :=
  (0x61 ≤ byte && byte ≤ 0x7a) || (0x30 ≤ byte && byte ≤ 0x39) || byte == 0x2d || byte == 0x5f

theorem idByte_space {byte : UInt8} (valid : idByte byte = true) : isSpace byte = false := by
  have each : ∀ value : Fin 256, idByte (.ofFin value) = true → isSpace (.ofFin value) = false := by decide +kernel
  exact each byte.toFin valid

theorem idByte_kept {byte : UInt8} (valid : idByte byte = true) :
    (isAlnum byte || byte == 0x2d || byte == 0x5f) = true ∧ toLower byte = byte := by
  have each : ∀ value : Fin 256, idByte (.ofFin value) = true →
      (isAlnum (.ofFin value) || UInt8.ofFin value == 0x2d || UInt8.ofFin value == 0x5f) = true ∧
        toLower (.ofFin value) = .ofFin value := by
    decide +kernel
  exact each byte.toFin valid

variable {bytes : Bytes}

theorem trimWhitespace_idBytes (valid : ∀ byte ∈ bytes, idByte byte = true) : trimWhitespace bytes = bytes := by
  have whole : bytes.dropWhile isSpace = bytes := by
    rw [List.dropWhile_eq_self_iff]
    intro some
    rw [idByte_space (valid _ (List.getElem_mem some))]
    decide
  rw [trimWhitespace, whole, ← List.rdropWhile, List.rdropWhile_eq_self_iff]
  intro some
  rw [idByte_space (valid _ (List.getLast_mem some))]
  decide

theorem foldl_idBytes (valid : ∀ byte ∈ bytes, idByte byte = true) (normalized : Bytes) :
    bytes.foldl normalizeNext normalized = normalized ++ bytes := by
  induction bytes generalizing normalized with
  | nil => exact (List.append_nil _).symm
  | cons byte rest ih =>
    obtain ⟨kept, lower⟩ := idByte_kept (valid byte List.mem_cons_self)
    rw [List.foldl_cons, normalizeNext, if_pos kept, lower,
      ih fun byte member => valid byte (List.mem_cons_of_mem _ member), List.append_assoc]
    rfl

theorem normalizeTopicSegment_idBytes (valid : ∀ byte ∈ bytes, idByte byte = true) :
    normalizeTopicSegment bytes = bytes.rdropWhile (· == 0x2d) := by
  rw [normalizeTopicSegment, trimWhitespace_idBytes valid, foldl_idBytes valid, List.nil_append]

theorem normalizeTopicSegment_eq (valid : ∀ byte ∈ bytes, idByte byte = true) :
    normalizeTopicSegment bytes = bytes ↔ bytes.getLast? ≠ some 0x2d := by
  rw [normalizeTopicSegment_idBytes valid, List.rdropWhile_eq_self_iff]
  constructor
  · intro ends last
    have some : bytes ≠ [] := fun none => by simp [none] at last
    rw [List.getLast?_eq_some_getLast some, Option.some.injEq] at last
    exact ends some (by rw [last]; decide)
  · intro ends some dash
    exact ends ((List.getLast?_eq_some_getLast some).trans (congrArg _ (eq_of_beq dash)))

end Logic

namespace LiveUpload

/-- The device id of the uploader; `String(normalizedDevice.c_str())`. -/
def normalizedDevice (deviceId : CText) : CText :=
  let normalized := Logic.normalizeTopicSegment deviceId.bytes
  if normalized.isEmpty then .literal "mda-logger" else .of normalized

def begin (self : LiveUpload) (config : AppConfig.UploadConfig) (appliedConfigVersion : UInt32)
    (bearerRotation : Option AppBearerRotation) : LiveUpload :=
  { self with
    bearerRotation
    protocol := config.protocol
    appliedConfigVersion
    managementStatus := if 0 < appliedConfigVersion then "applied" else "ready"
    managementError := ""
    deviceId := normalizedDevice config.deviceId }

-- `c_str()`: the text in UTF-8.
def cString (text : ArduinoString) : CText := .of (text.chars.flatMap String.utf8EncodeChar)

/-- Whether `captureHttps` refuses to capture for want of an authorization. -/
def captureRefused (self : LiveUpload) (authorization : Option LoggerAuthorization) : Bool :=
  authorization.any fun authorization =>
    authorization.restart || (authorization.bearer false).isEmpty ||
      cString authorization.config.deviceId != self.deviceId

section Policy

variable {id : ArduinoString}

def idChar (char : Char) : Bool :=
  ('a' ≤ char && char ≤ 'z') || ('0' ≤ char && char ≤ '9') || char == '-' || char == '_'

theorem idChar_ascii {char : Char} (valid : idChar char = true) : char.toNat < 128 := by
  simp only [idChar, Bool.or_eq_true, Bool.and_eq_true, decide_eq_true_eq, Char.le_def, UInt32.le_iff_toNat_le,
    beq_iff_eq] at valid
  rw [Char.toNat]
  have nine : ('9' : Char).val.toNat = 0x39 := rfl
  have z : ('z' : Char).val.toNat = 0x7a := rfl
  rcases valid with ((letter | digit) | rfl) | rfl
  · omega
  · omega
  · decide
  · decide

theorem idChar_byte {char : Char} (valid : idChar char = true) :
    String.utf8EncodeChar char = [char.val.toUInt8] ∧ Logic.idByte char.val.toUInt8 = true ∧
      (char.val.toUInt8 = 0x2d ↔ char = '-') := by
  have each : ∀ value : Fin 128, idChar (Char.ofNat value) = true →
      String.utf8EncodeChar (Char.ofNat value) = [(Char.ofNat value).val.toUInt8] ∧
        Logic.idByte (Char.ofNat value).val.toUInt8 = true ∧
          ((Char.ofNat value).val.toUInt8 = 0x2d ↔ Char.ofNat value = '-') := by
    decide
  have same : Char.ofNat char.toNat = char := Char.ofNat_toNat char
  have here := each ⟨char.toNat, idChar_ascii valid⟩
  rw [same] at here
  exact here valid

theorem deviceId_chars (valid : DeviceAuthorizationPolicy.deviceId id = true) :
    ∀ char ∈ id.chars, idChar char = true := by
  rw [DeviceAuthorizationPolicy.deviceId, Bool.and_eq_true, List.all_eq_true] at valid
  exact valid.2

theorem cString_bytes (valid : DeviceAuthorizationPolicy.deviceId id = true) :
    (cString id).bytes = id.chars.map fun char => char.val.toUInt8 := by
  have each := deviceId_chars valid
  have encoded : id.chars.flatMap String.utf8EncodeChar = id.chars.map fun char => char.val.toUInt8 := by
    generalize id.chars = chars at each
    induction chars with
    | nil => rfl
    | cons char rest ih =>
      rw [List.flatMap_cons, (idChar_byte (each char List.mem_cons_self)).1,
        ih fun char member => each char (List.mem_cons_of_mem _ member)]
      rfl
  rw [cString, encoded, CText.of_eq]
  intro nul
  obtain ⟨char, member, zero⟩ := List.mem_map.mp nul
  have byte := (idChar_byte (each char member)).2.1
  rw [zero] at byte
  cases byte

theorem cString_idBytes (valid : DeviceAuthorizationPolicy.deviceId id = true) :
    ∀ byte ∈ (cString id).bytes, Logic.idByte byte = true := by
  intro byte member
  rw [cString_bytes valid] at member
  obtain ⟨char, inside, rfl⟩ := List.mem_map.mp member
  exact (idChar_byte (deviceId_chars valid char inside)).2.1

theorem cString_last (valid : DeviceAuthorizationPolicy.deviceId id = true) :
    (cString id).bytes.getLast? = some 0x2d ↔ id.chars.getLast? = some '-' := by
  rw [cString_bytes valid, List.getLast?_map, Option.map_eq_some_iff]
  constructor
  · rintro ⟨char, last, dash⟩
    rw [last, (idChar_byte (deviceId_chars valid char (List.mem_of_getLast? last))).2.2.mp dash]
  · intro last
    exact ⟨'-', last, rfl⟩

theorem cString_nonempty (valid : DeviceAuthorizationPolicy.deviceId id = true) : (cString id).bytes ≠ [] := by
  rw [cString_bytes valid]
  intro none
  exact DeviceAuthorizationPolicy.deviceId_ne_empty valid (ArduinoString.ext (List.map_eq_nil_iff.mp none))

/-- The uploader has the id it is begun with just when that does not end in a dash. -/
theorem normalizedDevice_eq (valid : DeviceAuthorizationPolicy.deviceId id = true) :
    normalizedDevice (cString id) = cString id ↔ id.chars.getLast? ≠ some '-' := by
  rw [ne_eq, ← cString_last valid, ← ne_eq, ← Logic.normalizeTopicSegment_eq (cString_idBytes valid)]
  constructor
  · intro same
    unfold normalizedDevice at same
    dsimp only at same
    split at same
    · -- An id that normalizes to nothing is all dashes, and the fallback is not.
      rename_i blank
      rw [← same] at blank
      exact absurd blank (by decide)
    · have part : Logic.normalizeTopicSegment (cString id).bytes <+: (cString id).bytes := by
        rw [Logic.normalizeTopicSegment_idBytes (cString_idBytes valid)]
        exact List.rdropWhile_prefix _ _
      have ends : 0 ∉ Logic.normalizeTopicSegment (cString id).bytes := fun nul => (cString id).ends (part.subset nul)
      rw [CText.of_eq ends] at same
      exact congrArg CText.bytes same
  · intro same
    unfold normalizedDevice
    rw [same, if_neg (by simpa using cString_nonempty valid), CText.of_bytes]

end Policy

end LiveUpload

end ApexiDevices
