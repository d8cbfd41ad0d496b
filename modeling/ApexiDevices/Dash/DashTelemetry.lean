import ApexiDevices.Dash.SystemEvents
import ApexiDevices.Shared.SensorTypes

set_option autoImplicit false

/-!
# Telemetry frames and the dash's sensor catalog

A float is its 32-bit pattern. Text buffers have 16 bytes, the last one zero.
-/

namespace ApexiDevices.DashTelemetry

open Device SystemEvents

def kMaxSensors : UInt8 := 8
def kPublishMs : Nat := 250
def kStaleMs : UInt32 := 3000

inductive Kind where
  | id
  | name
  | units
  deriving DecidableEq

def Kind.code : Kind → UInt8
  | id => 1
  | name => 2
  | units => 3

def kSample : UInt8 := 4

structure Frame where
  bytes : Bytes
  size : bytes.length = 20

/-- `std::isfinite` -/
def isfinite (bits : UInt32) : Bool := (bits >>> 23) &&& 0xff ≠ 0xff

/-- `strncpy(...,15)` into a buffer of 16 zeros. -/
def field (value : Bytes) : Bytes := (value ++ List.replicate 15 0).take 15 ++ [0]

@[simp] theorem field_length (value : Bytes) : (field value).length = 16 := by simp [field]

def text (kind : Kind) (index count : UInt8) (value : Bytes) : Frame where
  bytes := [1, kind.code, index, count] ++ field value
  size := by simp

def sample (index count : UInt8) (value : UInt32) (valid : Bool) (fault : SensorFault) (warning : Bool) : Frame where
  bytes := [1, kSample, index, count, (valid && isfinite value).toUInt8, fault.code, warning.toUInt8, 0] ++
    littleEndian 4 value.toNat ++ List.replicate 8 0
  size := by simp

structure Sensor where
  id : Bytes := field []
  name : Bytes := field []
  units : Bytes := field []
  metadata : UInt8 := 0
  value : UInt32 := 0
  valid : Bool := false
  warning : Bool := false
  received : Bool := false
  fault : SensorFault := .none
  receivedMs : UInt32 := 0
  hasLastGood : Bool := false
  lastGoodValue : UInt32 := 0
  lastGoodMs : UInt32 := 0

namespace Sensor

variable (sensor : Sensor)

def fresh (connected : Bool) (now : UInt32) : Bool :=
  connected && sensor.received && sensor.metadata == 7 && decide (now - sensor.receivedMs < kStaleMs)

def text : Kind → Bytes
  | .id => sensor.id
  | .name => sensor.name
  | .units => sensor.units

/-- An id other than the stored one starts the sensor anew. -/
def store (kind : Kind) (value : Bytes) : Sensor :=
  match kind with
  | .id =>
    let kept := if cText sensor.id ≠ cText value then {} else sensor
    { kept with id := value, metadata := kept.metadata ||| 1 }
  | .name => { sensor with name := value, metadata := sensor.metadata ||| 2 }
  | .units => { sensor with units := value, metadata := sensor.metadata ||| 4 }

def measure (bits : UInt32) (flag : Bool) (fault : SensorFault) (warning : Bool) (now : UInt32) : Sensor :=
  let valid := flag && isfinite bits
  let measured := { sensor with value := bits, valid, fault, warning, received := true, receivedMs := now }
  if valid && fault = .none then { measured with hasLastGood := true, lastGoodValue := bits, lastGoodMs := now }
  else measured

end Sensor

structure Model where
  sensors : Nat → Sensor := fun _ => {}
  count : UInt8 := 0

def Kind.ofCode (code : UInt8) : Kind := if code = 1 then id else if code = 2 then name else units

def refused (frame : Frame) : Bool :=
  let byte := fun offset => frame.bytes.getD offset 0
  if byte 1 ≠ kSample then
    byte 19 ≠ 0 || (byte 1 = Kind.id.code && byte 4 = 0) ||
      (cText ((frame.bytes.drop 4).take 15)).any fun char => char < 32 || char > 126
  else byte 4 > 1 || byte 5 > SensorFault.adcUnavailable.code || byte 6 > 1

/-- A frame of another count clears the whole catalog. -/
def Model.resized (model : Model) (count : UInt8) : Model := if model.count ≠ count then { count } else model

def Model.accept (model : Model) (frame : Frame) (now : UInt32) : Bool × Model :=
  let byte := fun offset => frame.bytes.getD offset 0
  if byte 0 ≠ 1 ∨ byte 1 < 1 ∨ byte 1 > kSample ∨ byte 3 = 0 ∨ byte 3 > kMaxSensors ∨ byte 2 ≥ byte 3 then (false, model)
  else if refused frame then (false, model)
  else
    let resized := model.resized (byte 3)
    let index := (byte 2).toNat
    let sensor := resized.sensors index
    let next :=
      if byte 1 ≠ kSample then sensor.store (Kind.ofCode (byte 1)) ((frame.bytes.drop 4).take 16)
      else sensor.measure (get32 frame.bytes 8) (byte 4 ≠ 0) (SensorFault.ofCode (byte 5)) (byte 6 ≠ 0) now
    (true, { resized with sensors := Function.update resized.sensors index next })

section Decode

variable {model : Model} {index count : UInt8} {now : UInt32}

/-- A text that the dash takes: printable, and not empty where it is an id. -/
def Legible (kind : Kind) (value : Bytes) : Prop := refused (text kind 0 1 value) = false

instance (kind : Kind) (value : Bytes) : Decidable (Legible kind value) :=
  inferInstanceAs (Decidable (_ = _))

theorem refused_text (kind : Kind) (value : Bytes) :
    refused (text kind index count value) = refused (text kind 0 1 value) := rfl

theorem header_valid {code : UInt8} (low : 1 ≤ code) (high : code ≤ kSample) (positive : 0 < count)
    (bounded : count ≤ kMaxSensors) (inside : index < count) :
    ¬((1 : UInt8) ≠ 1 ∨ code < 1 ∨ code > kSample ∨ count = 0 ∨ count > kMaxSensors ∨ index ≥ count) := by
  rintro (version | under | above | none | many | outside)
  · exact version rfl
  · exact UInt8.not_lt.mpr low under
  · exact UInt8.not_lt.mpr high above
  · exact absurd (none ▸ positive) (by decide)
  · exact UInt8.not_lt.mpr bounded many
  · exact UInt8.not_lt.mpr outside inside

theorem accept_text (kind : Kind) (value : Bytes) (positive : 0 < count) (bounded : count ≤ kMaxSensors)
    (inside : index < count) :
    model.accept (text kind index count value) now =
      if Legible kind value then
        (true, { model.resized count with
          sensors := Function.update (model.resized count).sensors index.toNat
            (((model.resized count).sensors index.toNat).store kind (field value)) })
      else (false, model) := by
  have low : 1 ≤ kind.code := by cases kind <;> decide
  have high : kind.code ≤ kSample := by cases kind <;> decide
  have other : kind.code ≠ kSample := by cases kind <;> decide
  have same : Kind.ofCode kind.code = kind := by cases kind <;> rfl
  have checked := header_valid low high positive bounded inside
  have content : ((text kind index count value).bytes.drop 4).take 16 = field value :=
    List.take_of_length_le (field_length value).le
  unfold Model.accept
  simp only
  rw [if_neg (by exact checked), refused_text]
  by_cases legible : Legible kind value
  · rw [if_pos legible, if_neg (by rw [legible]; decide)]
    rw [content]
    have named : (text kind index count value).bytes.getD 1 0 = kind.code := rfl
    rw [named, if_pos other, same]
    rfl
  · rw [if_neg legible, if_pos (by simpa [Legible] using legible)]

theorem accept_sample (value : UInt32) (valid : Bool) (fault : SensorFault) (warning : Bool) (positive : 0 < count)
    (bounded : count ≤ kMaxSensors) (inside : index < count) :
    model.accept (sample index count value valid fault warning) now =
      (true, { model.resized count with
        sensors := Function.update (model.resized count).sensors index.toNat
          (((model.resized count).sensors index.toNat).measure value (valid && isfinite value) fault warning now) }) := by
  have checked := @header_valid _ _ kSample (by decide) (by decide) positive bounded inside
  have flag (bit : Bool) : ¬bit.toUInt8 > 1 ∧ (decide (bit.toUInt8 ≠ 0)) = bit := by cases bit <;> decide
  have taken : refused (sample index count value valid fault warning) = false := by
    have kind : ¬(sample index count value valid fault warning).bytes.getD 1 0 ≠ kSample := fun differs => differs rfl
    have known : ¬fault.code > SensorFault.adcUnavailable.code := UInt8.not_lt.mpr fault.code_le
    unfold refused
    simp only
    rw [if_neg kind, Bool.or_eq_false_iff, Bool.or_eq_false_iff]
    exact ⟨⟨decide_eq_false (flag _).1, decide_eq_false known⟩, decide_eq_false (flag _).1⟩
  have bits : get32 (sample index count value valid fault warning).bytes 8 = value := by
    have drop : ((sample index count value valid fault warning).bytes.drop 8).take 4 = put32 value :=
      List.take_left' (put32_length value)
    rw [get32, drop, get32_put32]
  unfold Model.accept
  simp only
  rw [if_neg (by exact checked), if_neg (by rw [taken]; decide), bits]
  rw [if_neg fun differs => differs rfl]
  have validates : decide ((sample index count value valid fault warning).bytes.getD 4 0 ≠ 0) = (valid && isfinite value) :=
    (flag _).2
  have warns : decide ((sample index count value valid fault warning).bytes.getD 6 0 ≠ 0) = warning := (flag _).2
  have named : SensorFault.ofCode ((sample index count value valid fault warning).bytes.getD 5 0) = fault :=
    fault.ofCode_code
  rw [validates, warns, named]
  rfl

end Decode

end ApexiDevices.DashTelemetry
