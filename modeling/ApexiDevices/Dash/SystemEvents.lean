import ApexiDevices.Shared.Bytes
import Mathlib.Data.List.Infix

set_option autoImplicit false

/-!
# Event records and their four notifications
-/

namespace ApexiDevices.SystemEvents

open Device

/-- `char code[32]` -/
structure Code where
  bytes : Bytes
  size : bytes.length = 32
  deriving DecidableEq

def Code.ofBytes (bytes : Bytes) : Code where
  bytes := (bytes ++ List.replicate 32 0).take 32
  size := by simp

theorem Code.ofBytes_append (code : Code) (rest : Bytes) : Code.ofBytes (code.bytes ++ rest) = code := by
  obtain ⟨bytes, size⟩ := code
  simp [Code.ofBytes, ← size]

structure Event where
  boot : UInt32
  seq : UInt32
  ms : UInt32
  value : UInt32
  severity : UInt8
  code : Code
  durationMs : UInt32
  httpStatus : UInt16
  method : UInt8
  version : UInt8
  deriving DecidableEq

def put32 (value : UInt32) : Bytes := littleEndian 4 value.toNat

def get32 (bytes : Bytes) (offset : Nat) : UInt32 := UInt32.ofNat (ofLittleEndian ((bytes.drop offset).take 4))

def Event.bytes (event : Event) : Bytes :=
  [event.version, event.severity, event.method, 0] ++ put32 event.boot ++ put32 event.seq ++ put32 event.ms ++
    put32 event.value ++ put32 event.durationMs ++ littleEndian 2 event.httpStatus.toNat ++ event.code.bytes ++ [0, 0]

def Event.ofBytes (bytes : Bytes) : Event where
  version := bytes.getD 0 0
  severity := bytes.getD 1 0
  method := bytes.getD 2 0
  boot := get32 bytes 4
  seq := get32 bytes 8
  ms := get32 bytes 12
  value := get32 bytes 16
  durationMs := get32 bytes 20
  httpStatus := UInt16.ofNat (ofLittleEndian ((bytes.drop 24).take 2))
  code := Code.ofBytes (bytes.drop 26)

/-- The low byte of the sequence that tags every notification of an event. -/
def Event.tag (event : Event) : UInt8 := event.seq.toUInt8

def chunk (bytes : Bytes) (part : Nat) : Bytes := (bytes.drop (part * 17)).take (min 17 (60 - part * 17))

def frame (event : Event) (part : Nat) : Bytes :=
  [0xe1, UInt8.ofNat part, event.tag] ++ chunk event.bytes part ++
    List.replicate (17 - (chunk event.bytes part).length) 0

structure Receiver where
  bytes : Bytes := List.replicate 60 0
  next : Nat := 0
  sequence : UInt8 := 0

def memcpy (target : Bytes) (offset : Nat) (source : Bytes) : Bytes :=
  target.take offset ++ source ++ target.drop (offset + source.length)

def Receiver.start (receiver : Receiver) (part : Nat) (sequence : UInt8) : Receiver :=
  if part = 0 then { receiver with next := 0, sequence } else receiver

def Receiver.store (receiver : Receiver) (part : Nat) (source : Bytes) : Option Event × Receiver :=
  let bytes := memcpy receiver.bytes (part * 17) source
  if part + 1 ≠ 4 then (none, { receiver with bytes, next := part + 1 })
  else
    let event := Event.ofBytes bytes
    (if event.version = 1 ∧ event.tag = receiver.sequence then some event else none,
      { receiver with bytes, next := 0 })

def Receiver.accept (receiver : Receiver) (data : Bytes) : Option Event × Receiver :=
  if data.length ≠ 20 ∨ data.getD 0 0 ≠ 0xe1 ∨ data.getD 1 0 > 3 then (none, { receiver with next := 0 })
  else
    let part := (data.getD 1 0).toNat
    let started := receiver.start part (data.getD 2 0)
    if part ≠ started.next ∨ data.getD 2 0 ≠ started.sequence then (none, { started with next := 0 })
    else started.store part ((data.drop 3).take (min 17 (60 - part * 17)))

structure Queue (capacity : Nat) where
  entries : List Event := []
  dropped : Nat := 0

def Queue.push {capacity : Nat} (queue : Queue capacity) (event : Event) : Queue capacity :=
  if queue.entries.length = capacity then { queue with dropped := queue.dropped + 1 }
  else { queue with entries := queue.entries ++ [event] }

def Queue.front {capacity : Nat} (queue : Queue capacity) : Option Event := queue.entries.head?

def Queue.pop {capacity : Nat} (queue : Queue capacity) : Queue capacity :=
  { queue with entries := queue.entries.tail }

/-- What a C string holds of a buffer. -/
def cText (buffer : Bytes) : Bytes := buffer.takeWhile (· ≠ 0)

def lower (byte : UInt8) : Bool := 97 ≤ byte && byte ≤ 122

def digit (byte : UInt8) : Bool := 48 ≤ byte && byte ≤ 57

def safeCode (buffer : Bytes) : Bool :=
  let text := cText buffer
  text ≠ [] && text.length ≤ 31 && text.all fun byte => lower byte || digit byte || byte = 95

def safeName (name : Bytes) : Bool :=
  5 ≤ name.length && name.length ≤ 95 && !decide (ascii ".." <:+: name) &&
    name.all (fun byte => lower byte || digit byte || byte = 45 || byte = 46) &&
    (decide (ascii "logs-" <+: name) && decide (ascii ".csv" <:+ name) ||
      (decide (ascii "logger-" <+: name) || decide (ascii "dash-" <+: name)) && decide (ascii ".log" <:+ name))

theorem Queue.front_push {capacity : Nat} {queue : Queue capacity} {event head : Event}
    (front : queue.front = some head) : (queue.push event).front = some head := by
  unfold Queue.push
  split
  · exact front
  · obtain ⟨entries, dropped⟩ := queue
    cases entries with
    | nil => cases front
    | cons first rest => exact front

@[simp] theorem put32_length (value : UInt32) : (put32 value).length = 4 := littleEndian_length _ _

theorem get32_put32 (value : UInt32) : UInt32.ofNat (ofLittleEndian (put32 value)) = value := by
  rw [put32, ofLittleEndian_littleEndian 4 _ (by simpa using value.toNat_lt), UInt32.ofNat_toNat]

theorem get16_put16 (value : UInt16) : UInt16.ofNat (ofLittleEndian (littleEndian 2 value.toNat)) = value := by
  rw [ofLittleEndian_littleEndian 2 _ (by simpa using value.toNat_lt), UInt16.ofNat_toNat]

@[simp] theorem Event.bytes_length (event : Event) : event.bytes.length = 60 := by
  simp [Event.bytes, event.code.size]

theorem drop_put32 (value : UInt32) {count : Nat} (past : 4 ≤ count) : (put32 value).drop count = [] :=
  List.drop_eq_nil_of_le (by simpa using past)

theorem Event.ofBytes_bytes (event : Event) : Event.ofBytes event.bytes = event := by
  obtain ⟨boot, seq, ms, value, severity, code, durationMs, httpStatus, method, version⟩ := event
  simp [Event.ofBytes, Event.bytes, get32, get32_put32, get16_put16, Code.ofBytes_append,
    List.drop_append, drop_put32]

section Reassembly

variable {event : Event} {part : Nat}

@[simp] theorem chunk_length (event : Event) (part : Nat) :
    (chunk event.bytes part).length = min 17 (60 - part * 17) := by
  simp [chunk]

theorem frame_length (event : Event) (part : Nat) : (frame event part).length = 20 := by
  simp [frame]

theorem frame_chunk (event : Event) (part : Nat) :
    ((frame event part).drop 3).take (min 17 (60 - part * 17)) = chunk event.bytes part := by
  simp only [frame, List.cons_append, List.nil_append, List.drop_succ_cons, List.drop_zero]
  exact List.take_left' (chunk_length event part)

theorem accept_frame (receiver : Receiver) (small : part < 4) :
    receiver.accept (frame event part) =
      if part ≠ (receiver.start part event.tag).next ∨ event.tag ≠ (receiver.start part event.tag).sequence then
        (none, { receiver.start part event.tag with next := 0 })
      else (receiver.start part event.tag).store part (chunk event.bytes part) := by
  have number : (UInt8.ofNat part).toNat = part := by
    rw [UInt8.toNat_ofNat', Nat.mod_eq_of_lt (by omega)]
  have valid : ¬((frame event part).length ≠ 20 ∨ (frame event part).getD 0 0 ≠ 0xe1 ∨
      (frame event part).getD 1 0 > 3) := by
    rintro (size | kind | many)
    · exact size (frame_length event part)
    · exact kind rfl
    · have large := UInt8.lt_iff_toNat_lt.mp many
      rw [show (frame event part).getD 1 0 = UInt8.ofNat part from rfl, number] at large
      exact absurd large (Nat.not_lt.mpr (Nat.le_of_lt_succ small))
  unfold Receiver.accept
  rw [if_neg valid, show (frame event part).getD 1 0 = UInt8.ofNat part from rfl,
    show (frame event part).getD 2 0 = event.tag from rfl, number]
  dsimp only
  rw [frame_chunk]

theorem start_cases (receiver : Receiver) :
    let started := receiver.start part event.tag
    ¬(part ≠ started.next ∨ event.tag ≠ started.sequence) →
      (part = 0 ∨ part = receiver.next ∧ event.tag = receiver.sequence) ∧ started.bytes = receiver.bytes ∧
        started.sequence = event.tag := by
  unfold Receiver.start
  split
  · rename_i first
    exact fun _ => ⟨.inl first, rfl, rfl⟩
  · intro started room
    obtain ⟨next, tagged⟩ := not_or.mp room
    exact ⟨.inr ⟨not_not.mp next, not_not.mp tagged⟩, rfl, (not_not.mp tagged).symm⟩

/-- What a frame of an event does to the receiver: it restarts, or the event goes on by one part. -/
theorem accept_cases (receiver : Receiver) (small : part < 4) :
    let outcome := receiver.accept (frame event part)
    (outcome.1 = none ∧ outcome.2.next = 0 ∧ outcome.2.bytes = receiver.bytes) ∨
      (part = 0 ∨ part = receiver.next ∧ event.tag = receiver.sequence) ∧
        outcome.2.bytes = memcpy receiver.bytes (part * 17) (chunk event.bytes part) ∧
        outcome.2.sequence = event.tag ∧
        (part < 3 ∧ outcome.1 = none ∧ outcome.2.next = part + 1 ∨
          part = 3 ∧ outcome.2.next = 0 ∧
            ∀ accepted, outcome.1 = some accepted → accepted = Event.ofBytes outcome.2.bytes) := by
  rw [accept_frame receiver small]
  by_cases room : part ≠ (receiver.start part event.tag).next ∨ event.tag ≠ (receiver.start part event.tag).sequence
  · rw [if_pos room]
    refine .inl ⟨rfl, rfl, ?_⟩
    unfold Receiver.start
    split <;> rfl
  · obtain ⟨next, bytes, tagged⟩ := start_cases receiver room
    rw [if_neg room]
    unfold Receiver.store
    rw [bytes]
    refine .inr ⟨next, ?_⟩
    by_cases more : part + 1 ≠ 4
    · rw [if_pos more]
      exact ⟨rfl, tagged, .inl ⟨by omega, rfl, rfl⟩⟩
    · rw [if_neg more]
      refine ⟨rfl, tagged, .inr ⟨by omega, rfl, ?_⟩⟩
      intro accepted
      dsimp only
      split
      · rintro ⟨⟩
        rfl
      · intro impossible
        cases impossible

theorem memcpy_length {target source : Bytes} {offset : Nat} (fits : offset + source.length ≤ target.length) :
    (memcpy target offset source).length = target.length := by
  simp [memcpy]
  omega

theorem memcpy_take {target : Bytes} (size : target.length = 60) (small : part < 4)
    (held : target.take (part * 17) = event.bytes.take (part * 17)) :
    (memcpy target (part * 17) (chunk event.bytes part)).take ((part + 1) * 17) =
      event.bytes.take ((part + 1) * 17) := by
  have here : (target.take (part * 17)).length = part * 17 := by
    rw [List.length_take]
    omega
  have grown : (memcpy target (part * 17) (chunk event.bytes part)).take (part * 17 + min 17 (60 - part * 17)) =
      event.bytes.take (part * 17 + min 17 (60 - part * 17)) := by
    rw [memcpy, List.take_left' (by simp [here]), held, chunk, ← List.take_add]
  by_cases last : part < 3
  · rwa [show part * 17 + min 17 (60 - part * 17) = (part + 1) * 17 by omega] at grown
  · have room : part * 17 + (chunk event.bytes part).length ≤ target.length := by
      rw [chunk_length, size]
      omega
    rw [show part * 17 + min 17 (60 - part * 17) = 60 by omega, List.take_of_length_le,
      List.take_of_length_le] at grown
    · rw [grown]
    · simp
    · rw [memcpy_length room, size]

end Reassembly

end ApexiDevices.SystemEvents
