import ApexiDevices.Logs.RemoteLogs
import ApexiDevices.Shared.Utf8

set_option autoImplicit false

/-!
# The body of a request

How long it is, and that no NUL cuts it.
-/

namespace ApexiDevices

open Device HttpsExchange

def escapedLength (text : Bytes) : Nat := (text.flatMap escapeByte).length

theorem escapeByte_le (byte : UInt8) : (escapeByte byte).length ≤ 2 := by
  unfold escapeByte
  split_ifs <;> simp [ascii]

theorem escapedLength_le (text : Bytes) : escapedLength text ≤ 2 * text.length := by
  induction text with
  | nil => rfl
  | cons byte rest ih =>
    have first := escapeByte_le byte
    rw [escapedLength] at ih ⊢
    rw [List.flatMap_cons, List.length_append, List.length_cons]
    omega

theorem escapeByte_high {byte : UInt8} (high : 0x80 ≤ byte.toNat) : escapeByte byte = [byte] := by
  have apart : ∀ other : UInt8, other.toNat < 0x80 → byte ≠ other := by
    rintro other low rfl
    omega
  simp only [escapeByte, apart 0x22 (by decide), apart 0x5c (by decide), apart 8 (by decide), apart 12 (by decide),
    apart 10 (by decide), apart 13 (by decide), apart 9 (by decide), if_false]

theorem escapedLength_high {bytes : Bytes} (high : ∀ byte ∈ bytes, 0x80 ≤ byte.toNat) :
    escapedLength bytes = bytes.length := by
  induction bytes with
  | nil => rfl
  | cons byte rest ih =>
    have later := ih fun other member => high other (List.mem_cons_of_mem _ member)
    rw [escapedLength] at later ⊢
    rw [List.flatMap_cons, List.length_append, later, escapeByte_high (high byte (List.mem_cons_self ..)),
      List.length_singleton, List.length_cons, Nat.add_comm]

theorem escapedLength_append (first second : Bytes) :
    escapedLength (first ++ second) = escapedLength first + escapedLength second := by
  rw [escapedLength, List.flatMap_append, List.length_append, escapedLength, escapedLength]

theorem escapedLength_utf8 (text : String) : escapedLength (utf8 text) ≤ 4 * text.length := by
  rw [← String.length_toList, utf8]
  induction text.toList with
  | nil => rfl
  | cons char rest ih =>
    have first : escapedLength (String.utf8EncodeChar char) ≤ 4 := by
      by_cases low : char.toNat < 0x80
      · rw [Utf8.encoded_low low]
        exact (escapedLength_le _).trans (by rw [List.length_singleton]; decide)
      · have code : char.toNat = char.val.toNat := rfl
        rw [escapedLength_high (Utf8.high_bytes (by omega)), String.length_utf8EncodeChar]
        exact Char.utf8Size_le_four char
    rw [List.flatMap_cons, escapedLength_append, List.length_cons]
    omega

theorem textJson_length (text : Bytes) : (textJson text).length = 2 + escapedLength text := by
  rw [textJson, List.length_append, List.length_cons, List.length_singleton, escapedLength]
  omega

theorem hex_length (bytes : Bytes) : (hex bytes).length = 2 * bytes.length := by
  induction bytes with
  | nil => rfl
  | cons byte rest ih =>
    rw [hex] at ih ⊢
    rw [List.flatMap_cons, List.length_append, ih, List.length_cons]
    simp only [List.length_cons, List.length_nil]
    omega

theorem decimal_length {value bound : Nat} (below : value < 10 ^ bound) (positive : 0 < bound) :
    (decimal value).length ≤ bound := by
  rw [decimal, List.length_map]
  exact (Nat.length_toDigits_le_iff (by decide) positive).mpr below

def refreshLength (deviceId id : CText) (entries : List (Bytes × Nat)) : Nat :=
  50 + escapedLength deviceId.bytes + escapedLength id.bytes +
    (entries.map fun entry => 19 + escapedLength entry.1 + (decimal entry.2).length).sum + (entries.length - 1)

theorem fileJson_length (entry : Bytes × Nat) :
    (Reply.fileJson entry).length = 19 + escapedLength entry.1 + (decimal entry.2).length := by
  have name : (ascii "\x7b\"name\":").length = 8 := rfl
  have size : (ascii ",\"size\":").length = 8 := rfl
  have last : (ascii "\x7d").length = 1 := rfl
  rw [Reply.fileJson]
  simp only [List.length_append, textJson_length, name, size, last]
  omega

theorem intercalate_length (parts : List Bytes) :
    ((ascii ",").intercalate parts).length = (parts.map List.length).sum + (parts.length - 1) := by
  have comma : ascii "," = [0x2c] := rfl
  rw [comma]
  induction parts with
  | nil => rfl
  | cons part rest ih =>
    cases rest with
    | nil => simp
    | cons other more =>
      rw [List.intercalate_cons_cons, List.length_append, List.length_append, ih]
      simp only [List.map_cons, List.sum_cons, List.length_cons, List.length_nil]
      omega

theorem requestJson_answer (deviceId id : CText) (reply : Reply) :
    (requestJson deviceId (some ⟨id, reply⟩)).length =
      39 + escapedLength deviceId.bytes + escapedLength id.bytes + reply.members.length := by
  have device : (ascii "\x7b\"device_id\":").length = 13 := rfl
  have enabled : (ascii ",\"enabled\":true").length = 15 := rfl
  have named : (ascii ",\"id\":").length = 6 := rfl
  have last : (ascii "\x7d").length = 1 := rfl
  rw [requestJson]
  simp only [List.length_append, textJson_length, device, enabled, named, last]
  omega

theorem requestJson_none (deviceId : CText) :
    (requestJson deviceId none).length = 31 + escapedLength deviceId.bytes := by
  have device : (ascii "\x7b\"device_id\":").length = 13 := rfl
  have enabled : (ascii ",\"enabled\":true").length = 15 := rfl
  have last : (ascii "\x7d").length = 1 := rfl
  rw [requestJson]
  simp only [List.length_append, textJson_length, device, enabled, last, List.length_nil]
  omega

theorem requestJson_files (deviceId id : CText) (entries : List (Bytes × Nat)) :
    (requestJson deviceId (some ⟨id, .files entries⟩)).length = refreshLength deviceId id entries := by
  have files : (ascii ",\"files\":[").length = 10 := rfl
  have last : (ascii "]").length = 1 := rfl
  have lengths : (entries.map Reply.fileJson).map List.length =
      entries.map fun entry => 19 + escapedLength entry.1 + (decimal entry.2).length := by
    rw [List.map_map]
    exact List.map_congr_left fun entry _ => fileJson_length entry
  rw [requestJson_answer, Reply.members, List.length_append, List.length_append, intercalate_length, lengths, files,
    last, List.length_map, refreshLength]
  omega

theorem chunk_members {chunk : Chunk} (few : chunk.bytes.length ≤ 2048) :
    (Reply.chunk chunk).members.length ≤ 4143 := by
  have offset : (ascii ",\"offset\":").length = 10 := rfl
  have size : (ascii ",\"size\":").length = 8 := rfl
  have opens : (ascii ",\"hex\":\"").length = 8 := rfl
  have last : (ascii "\"").length = 1 := rfl
  have first : (decimal chunk.offset.toNat).length ≤ 10 :=
    decimal_length (chunk.offset.toNat_lt.trans (by decide)) (by decide)
  have second : (decimal chunk.size.toNat).length ≤ 10 :=
    decimal_length (chunk.size.toNat_lt.trans (by decide)) (by decide)
  rw [Reply.members]
  simp only [List.length_append, hex_length, offset, size, opens, last]
  omega

theorem escapeByte_ends {byte : UInt8} (ends : byte ≠ 0) : 0 ∉ escapeByte byte := by
  unfold escapeByte
  split_ifs <;> simp [ascii, Ne.symm ends]

theorem textJson_ends {text : Bytes} (ends : 0 ∉ text) : 0 ∉ textJson text := by
  have escaped : 0 ∉ text.flatMap escapeByte := by
    rw [List.mem_flatMap]
    rintro ⟨byte, member, zero⟩
    exact escapeByte_ends (fun same => ends (same ▸ member)) zero
  simp [textJson, escaped]

theorem decimal_ends (value : Nat) : 0 ∉ decimal value := fun zero => absurd (decimal_digit zero).1 (by decide)

theorem hex_ends (bytes : Bytes) : 0 ∉ hex bytes := by
  have each : ∀ place : Fin 16, hexDigits.getD place 0 ≠ 0 := by decide
  rw [hex, List.mem_flatMap]
  rintro ⟨byte, _, zero⟩
  have small := byte.toNat_lt
  rcases List.mem_pair.mp zero with high | low
  · exact each ⟨byte.toNat / 16, by omega⟩ high.symm
  · exact each ⟨byte.toNat % 16, by omega⟩ low.symm

theorem intercalate_ends {parts : List Bytes} (each : ∀ part ∈ parts, 0 ∉ part) :
    0 ∉ (ascii ",").intercalate parts := by
  induction parts with
  | nil => exact List.not_mem_nil
  | cons part rest ih =>
    have first := each part (List.mem_cons_self ..)
    have later := ih fun other member => each other (List.mem_cons_of_mem _ member)
    cases rest with
    | nil => simpa using first
    | cons other more =>
      have comma : 0 ∉ ascii "," := by decide
      rw [List.intercalate_cons_cons, List.mem_append, List.mem_append, not_or, not_or]
      exact ⟨⟨first, comma⟩, later⟩

def Reply.Ends : Reply → Prop
  | .files entries => ∀ entry ∈ entries, 0 ∉ entry.1
  | _ => True

theorem Reply.members_ends {reply : Reply} (ends : reply.Ends) : 0 ∉ reply.members := by
  cases reply with
  | files entries =>
    have each : ∀ part ∈ entries.map fileJson, 0 ∉ part := by
      intro part member
      obtain ⟨entry, listed, rfl⟩ := List.mem_map.mp member
      have name := textJson_ends (ends entry listed)
      have size := decimal_ends entry.2
      have texts : 0 ∉ ascii "\x7b\"name\":" ∧ 0 ∉ ascii ",\"size\":" ∧ 0 ∉ ascii "\x7d" := by decide
      simp [fileJson, name, size, texts]
    have joined := intercalate_ends each
    have texts : 0 ∉ ascii ",\"files\":[" ∧ 0 ∉ ascii "]" := by decide
    simp [members, joined, texts]
  | chunk chunk =>
    have texts : 0 ∉ ascii ",\"offset\":" ∧ 0 ∉ ascii ",\"size\":" ∧ 0 ∉ ascii ",\"hex\":\"" ∧
        0 ∉ ascii "\"" := by decide
    simp [members, decimal_ends, hex_ends, texts]
  | readFailed => exact by decide
  | unsupported => exact by decide

theorem requestJson_ends {deviceId : CText} {answer : Option Answer}
    (ends : ∀ given ∈ answer, given.reply.Ends) : 0 ∉ requestJson deviceId answer := by
  have device := textJson_ends deviceId.ends
  have texts : 0 ∉ ascii "\x7b\"device_id\":" ∧ 0 ∉ ascii ",\"enabled\":true" ∧ 0 ∉ ascii ",\"id\":" ∧
      0 ∉ ascii "\x7d" := by decide
  cases answer with
  | none => simp [requestJson, device, texts]
  | some given =>
    have id := textJson_ends given.id.ends
    have members := Reply.members_ends (ends given rfl)
    simp [requestJson, device, id, members, texts]

end ApexiDevices
