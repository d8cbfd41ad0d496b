import ApexiDevices.Shared.Bytes
import ApexiDevices.Shared.Clock

set_option autoImplicit false

/-!
# Upload status on the dash link

The logger's delivery evidence, its 20-byte frame, and the dash's view of it.
-/

namespace ApexiDevices.DashUploadStatus

open Device

def kPublishMs : UInt32 := 1000
def kStaleMs : UInt32 := 5000
def kNever : UInt32 := 0xFFFFFFFF

inductive State where
  | Unknown
  | Disabled
  | Failed
  | ServerAccepted
  | TransportSent
  deriving DecidableEq, Repr

inductive Transport where
  | Unknown
  | Https
  | Mqtt
  deriving DecidableEq, Repr

def State.code : State → UInt8
  | Unknown => 0
  | Disabled => 1
  | Failed => 2
  | ServerAccepted => 3
  | TransportSent => 4

def Transport.code : Transport → UInt8
  | Unknown => 0
  | Https => 1
  | Mqtt => 2

def State.ofCode? (code : UInt8) : Option State :=
  [Unknown, Disabled, Failed, ServerAccepted, TransportSent].find? fun state => state.code == code

def Transport.ofCode? (code : UInt8) : Option Transport :=
  [Unknown, Https, Mqtt].find? fun transport => transport.code == code

structure Status where
  state : State := .Unknown
  transport : Transport := .Unknown
  successAgeMs : UInt32 := kNever
  expectedIntervalMs : UInt32 := 1000
  deriving DecidableEq, Repr

/-- `std::array<uint8_t,20>` -/
structure Frame where
  bytes : Bytes
  size : bytes.length = 20
  deriving DecidableEq

def encodeFields (state transport : UInt8) (ageMs intervalMs : UInt32) : Frame where
  bytes := [1, state, transport, 0] ++ littleEndian 4 ageMs.toNat ++ littleEndian 4 intervalMs.toNat ++
    List.replicate 8 0
  size := by simp

def encode (status : Status) : Frame :=
  encodeFields status.state.code status.transport.code status.successAgeMs status.expectedIntervalMs

def Status.refused (status : Status) : Bool :=
  status.expectedIntervalMs == 0 ||
    (status.state == .ServerAccepted && status.transport != .Https) ||
    (status.state == .TransportSent && status.transport != .Mqtt) ||
    ((status.state == .ServerAccepted || status.state == .TransportSent) && status.successAgeMs == kNever)

def word (frame : Frame) (offset : Nat) : UInt32 :=
  UInt32.ofNat (ofLittleEndian ((frame.bytes.drop offset).take 4))

def decode (frame : Frame) : Option Status :=
  if frame.bytes.getD 0 0 != 1 || frame.bytes.getD 3 0 != 0 then none
  else if (frame.bytes.drop 12).any fun byte => byte != 0 then none
  else
    -- codes above 4 and above 2 name no state and no transport
    match State.ofCode? (frame.bytes.getD 1 0), Transport.ofCode? (frame.bytes.getD 2 0) with
    | some state, some transport =>
      let status : Status := ⟨state, transport, word frame 4, word frame 8⟩
      if status.refused then none else some status
    | _, _ => none

/-- A delivery is claimed only with its own transport and a known age. -/
structure Status.WellFormed (status : Status) : Prop where
  interval : status.expectedIntervalMs ≠ 0
  accepted : status.state = .ServerAccepted → status.transport = .Https ∧ status.successAgeMs ≠ kNever
  sent : status.state = .TransportSent → status.transport = .Mqtt ∧ status.successAgeMs ≠ kNever

theorem refused_iff (status : Status) : status.refused = false ↔ status.WellFormed := by
  obtain ⟨state, transport, age, interval⟩ := status
  constructor
  · intro kept
    simp only [Status.refused, Bool.or_eq_false_iff, beq_eq_false_iff_ne] at kept
    obtain ⟨⟨⟨known, https⟩, mqtt⟩, aged⟩ := kept
    refine ⟨known, ?_, ?_⟩
    · rintro rfl
      simpa using And.intro https aged
    · rintro rfl
      simpa using And.intro mqtt aged
  · rintro ⟨known, accepted, sent⟩
    cases state <;> simp_all [Status.refused]

theorem ofCode?_state (code : UInt8) (state : State) : State.ofCode? code = some state ↔ state.code = code := by
  constructor
  · intro found
    simpa using List.find?_some found
  · rintro rfl
    cases state <;> rfl

theorem ofCode?_transport (code : UInt8) (transport : Transport) :
    Transport.ofCode? code = some transport ↔ transport.code = code := by
  constructor
  · intro found
    simpa using List.find?_some found
  · rintro rfl
    cases transport <;> rfl

section Codec

structure Parts where
  version : UInt8
  state : UInt8
  transport : UInt8
  reserved : UInt8
  age : Bytes
  interval : Bytes
  rest : Bytes
  ageSize : age.length = 4
  intervalSize : interval.length = 4
  restSize : rest.length = 8

def Parts.frame (parts : Parts) : Frame where
  bytes := [parts.version, parts.state, parts.transport, parts.reserved] ++ parts.age ++ parts.interval ++ parts.rest
  size := by simp [parts.ageSize, parts.intervalSize, parts.restSize]

theorem exists_parts (frame : Frame) : ∃ parts : Parts, parts.frame = frame := by
  obtain ⟨bytes, size⟩ := frame
  match bytes, size with
  | version :: state :: transport :: reserved :: rest, size =>
    simp only [List.length_cons] at size
    refine ⟨⟨version, state, transport, reserved, rest.take 4, (rest.drop 4).take 4, (rest.drop 4).drop 4,
      ?_, ?_, ?_⟩, ?_⟩
    · rw [List.length_take]; omega
    · rw [List.length_take, List.length_drop]; omega
    · rw [List.length_drop, List.length_drop]; omega
    · simp only [Parts.frame, List.append_assoc, List.take_append_drop]
      rfl

theorem word_age (parts : Parts) : word parts.frame 4 = UInt32.ofNat (ofLittleEndian parts.age) := by
  simp [word, Parts.frame, parts.ageSize]

theorem word_interval (parts : Parts) : word parts.frame 8 = UInt32.ofNat (ofLittleEndian parts.interval) := by
  have skipped : parts.frame.bytes.drop 8 = parts.interval ++ parts.rest := by
    simp [Parts.frame, parts.ageSize]
  rw [word, skipped, List.take_left' parts.intervalSize]

theorem rest_zero (parts : Parts) :
    ((parts.frame.bytes.drop 12).any fun byte => byte != 0) = false ↔ parts.rest = List.replicate 8 0 := by
  have skipped : parts.frame.bytes.drop 12 = parts.rest := by
    simp [Parts.frame, List.drop_append, parts.ageSize, parts.intervalSize]
  rw [skipped, List.eq_replicate_iff]
  simp [parts.restSize]

theorem ofNat_word (bytes : Bytes) (size : bytes.length = 4) :
    littleEndian 4 (UInt32.ofNat (ofLittleEndian bytes)).toNat = bytes := by
  have fits := ofLittleEndian_lt bytes
  rw [size] at fits
  rw [UInt32.toNat_ofNat', Nat.mod_eq_of_lt (by simpa using fits), ← size, littleEndian_ofLittleEndian]

theorem word_ofNat (value : UInt32) : UInt32.ofNat (ofLittleEndian (littleEndian 4 value.toNat)) = value := by
  rw [ofLittleEndian_littleEndian 4 _ (by simpa using value.toNat_lt), UInt32.ofNat_toNat]

theorem encode_parts (parts : Parts) (status : Status) :
    parts.frame = encode status ↔
      parts.version = 1 ∧ parts.reserved = 0 ∧ parts.rest = List.replicate 8 0 ∧
        status.state.code = parts.state ∧ status.transport.code = parts.transport ∧
        status.successAgeMs = UInt32.ofNat (ofLittleEndian parts.age) ∧
        status.expectedIntervalMs = UInt32.ofNat (ofLittleEndian parts.interval) := by
  constructor
  · intro same
    have bytes : parts.frame.bytes = (encode status).bytes := by rw [same]
    simp only [Parts.frame, encode, encodeFields, List.append_assoc, List.cons_append, List.nil_append,
      List.cons.injEq] at bytes
    obtain ⟨version, state, transport, reserved, tail⟩ := bytes
    obtain ⟨age, tail⟩ := List.append_inj tail (by simp [parts.ageSize])
    obtain ⟨interval, rest⟩ := List.append_inj tail (by simp [parts.intervalSize])
    rw [age, interval, word_ofNat, word_ofNat]
    exact ⟨version, reserved, rest, state.symm, transport.symm, rfl, rfl⟩
  · rintro ⟨version, reserved, rest, state, transport, age, interval⟩
    simp only [Parts.frame, encode, encodeFields, Frame.mk.injEq]
    rw [state, transport, age, interval, ofNat_word _ parts.ageSize, ofNat_word _ parts.intervalSize, version,
      reserved, rest]

theorem decode_iff (frame : Frame) (status : Status) :
    decode frame = some status ↔ status.WellFormed ∧ frame = encode status := by
  obtain ⟨parts, rfl⟩ := exists_parts frame
  rw [encode_parts, ← refused_iff]
  have version : parts.frame.bytes.getD 0 0 = parts.version := rfl
  have state : parts.frame.bytes.getD 1 0 = parts.state := rfl
  have transport : parts.frame.bytes.getD 2 0 = parts.transport := rfl
  have reserved : parts.frame.bytes.getD 3 0 = parts.reserved := rfl
  unfold decode
  rw [version, state, transport, reserved, word_age, word_interval]
  obtain ⟨ownState, ownTransport, age, interval⟩ := status
  constructor
  · intro decoded
    split at decoded
    · cases decoded
    rename_i header
    split at decoded
    · cases decoded
    rename_i tail
    rw [Bool.not_eq_true, rest_zero] at tail
    split at decoded
    · rename_i state transport stated transported
      dsimp only at decoded
      split at decoded
      · cases decoded
      rename_i kept
      cases decoded
      rw [Bool.not_eq_true] at kept
      have first : parts.version = 1 ∧ parts.reserved = 0 := by simpa using header
      exact ⟨kept, first.1, first.2, tail, (ofCode?_state _ _).mp stated, (ofCode?_transport _ _).mp transported,
        rfl, rfl⟩
    · cases decoded
  · rintro ⟨kept, version, reserved, rest, state, transport, rfl, rfl⟩
    have stated := (ofCode?_state parts.state ownState).mpr state
    have transported := (ofCode?_transport parts.transport ownTransport).mpr transport
    have tail := (rest_zero parts).mpr rest
    simp [version, reserved, tail, stated, transported, kept]

end Codec

end ApexiDevices.DashUploadStatus
