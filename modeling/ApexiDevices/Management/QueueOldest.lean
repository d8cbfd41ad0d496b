import ApexiDevices.Dash.DashTelemetry
import ApexiDevices.Management.QueueAge
import ApexiDevices.Management.Structure
import ApexiDevices.Shared.Document
import ApexiDevices.Shared.Traces

set_option autoImplicit false

/-!
# The session of the oldest record

Diagnostics name the session of the oldest record. A session that is not a
normal segment is not shown, and the uploader's own sessions always are.
-/

namespace ApexiDevices

open Device

namespace Logic

theorem normalizeNext_idBytes {normalized : Bytes} (valid : ∀ byte ∈ normalized, idByte byte = true) (byte : UInt8) :
    ∀ kept ∈ normalizeNext normalized byte, idByte kept = true := by
  have lowered : ∀ value : Fin 256, (isAlnum (.ofFin value) || UInt8.ofFin value == 0x2d || UInt8.ofFin value == 0x5f) =
      true → idByte (toLower (.ofFin value)) = true := by
    decide +kernel
  intro kept member
  unfold normalizeNext at member
  split at member
  · rename_i keeps
    rcases List.mem_append.mp member with old | new
    · exact valid kept old
    · rw [List.mem_singleton.mp new]
      exact lowered byte.toFin keeps
  split at member
  · split at member
    · exact valid kept member
    · rcases List.mem_append.mp member with old | new
      · exact valid kept old
      · rw [List.mem_singleton.mp new]
        rfl
  · exact valid kept member

theorem foldl_normalizeNext_idBytes (bytes : Bytes) {normalized : Bytes}
    (valid : ∀ byte ∈ normalized, idByte byte = true) :
    ∀ byte ∈ bytes.foldl normalizeNext normalized, idByte byte = true := by
  induction bytes generalizing normalized with
  | nil => exact valid
  | cons byte bytes ih => exact ih (normalizeNext_idBytes valid byte)

theorem normalizeTopicSegment_valid (rawSegment : Bytes) :
    ∀ byte ∈ normalizeTopicSegment rawSegment, idByte byte = true := by
  intro byte member
  exact foldl_normalizeNext_idBytes _ (fun _ none => absurd none List.not_mem_nil) byte
    ((List.rdropWhile_prefix _ _).subset member)

theorem normalizeTopicSegment_last (rawSegment : Bytes) : (normalizeTopicSegment rawSegment).getLast? ≠ some 0x2d := by
  intro last
  have some : normalizeTopicSegment rawSegment ≠ [] := fun none => by simp [none] at last
  rw [List.getLast?_eq_some_getLast some, Option.some.injEq] at last
  exact List.rdropWhile_last_not (· == 0x2d) _ some (by rw [beq_iff_eq]; exact last)

theorem normalizeTopicSegment_fixpoint (rawSegment : Bytes) :
    normalizeTopicSegment (normalizeTopicSegment rawSegment) = normalizeTopicSegment rawSegment :=
  (normalizeTopicSegment_eq (normalizeTopicSegment_valid rawSegment)).mpr (normalizeTopicSegment_last rawSegment)

def formatSessionId (deviceId : Bytes) (bootCounter : UInt32) : Bytes :=
  let normalizedDevice := normalizeTopicSegment deviceId
  let start := if normalizedDevice.isEmpty then ascii "logger" else normalizedDevice
  start ++ ascii "-boot-" ++ decimal bootCounter.toNat

theorem decimal_idByte {value : Nat} {byte : UInt8} (member : byte ∈ decimal value) : idByte byte = true ∧ byte ≠ 0x2d := by
  have range := decimal_digit member
  have each : ∀ value : Fin 256, 48 ≤ value.val → value.val ≤ 57 → idByte (.ofFin value) = true ∧
      UInt8.ofFin value ≠ 0x2d := by
    decide +kernel
  exact each byte.toFin range.1 range.2

theorem formatSessionId_valid (deviceId : Bytes) (bootCounter : UInt32) :
    ∀ byte ∈ formatSessionId deviceId bootCounter, idByte byte = true := by
  have fallback : ∀ byte ∈ ascii "logger", idByte byte = true := by decide
  have boot : ∀ byte ∈ ascii "-boot-", idByte byte = true := by decide
  intro byte member
  simp only [formatSessionId, List.mem_append] at member
  rcases member with (named | marked) | counted
  · split at named
    · exact fallback byte named
    · exact normalizeTopicSegment_valid deviceId byte named
  · exact boot byte marked
  · exact (decimal_idByte counted).1

theorem decimal_ne_nil (value : Nat) : decimal value ≠ [] :=
  fun none => Nat.toDigits_ne_nil (List.map_eq_nil_iff.mp none)

theorem formatSessionId_fixpoint (deviceId : Bytes) (bootCounter : UInt32) :
    normalizeTopicSegment (formatSessionId deviceId bootCounter) = formatSessionId deviceId bootCounter := by
  rw [normalizeTopicSegment_eq (formatSessionId_valid deviceId bootCounter), formatSessionId,
    List.getLast?_append_of_ne_nil _ (decimal_ne_nil _)]
  intro last
  exact (decimal_idByte (List.mem_of_getLast? last)).2 rfl

end Logic

/-! ## Reading a record -/

open JsonTree

namespace LiveUpload

def digits (text : Bytes) : Bool := !text.isEmpty && text.all SystemEvents.digit

def numberToken (token : Bytes) : Bool :=
  let unsigned := if token.head? == some 0x2d then token.tail else token
  let fraction := unsigned.dropWhile SystemEvents.digit
  digits (unsigned.takeWhile SystemEvents.digit) && (fraction.isEmpty || fraction.head? == some 0x2e && digits fraction.tail)

def plainToken (token : Bytes) : Bool :=
  token == ascii "true" || token == ascii "false" || token == ascii "null" || numberToken token

mutual

/-- A value that is nested no deeper than so many levels, with plain tokens and short names. -/
def readable : Nat → JsonTree → Bool
  | _, .token text => plainToken text
  | _, .string _ => true
  | levels, .array items => levels != 0 && readableItems (levels - 1) items
  | levels, .object members => levels != 0 && readableMembers (levels - 1) members

def readableItems : Nat → List JsonTree → Bool
  | _, [] => true
  | levels, item :: items => readable levels item && readableItems levels items

def readableMembers : Nat → List (Bytes × JsonTree) → Bool
  | _, [] => true
  | levels, (name, value) :: members => decide (name.length ≤ 32) && readable levels value && readableMembers levels members

end

def filtered : List String := ["session_id", "sequence", "timestamp"]

/-- The room of a member in the pool: its slot, its name and its text. -/
def poolBytes (member : Bytes × JsonTree) : Nat :=
  if member.1 ∈ filtered.map ascii then
    16 + (member.1.length + 1) + match member.2 with | .string text => text.length + 1 | _ => 0
  else 0

/-- An object that a pool of 512 bytes has room for, with one name more. -/
structure Fitting (members : List (Bytes × JsonTree)) : Prop where
  distinct : (members.map Prod.fst).Nodup
  readable : readableMembers 9 members = true
  pool : (members.map poolBytes).sum + 33 ≤ 512

/-- `deserializeJson` with the filter: texts and counts are read as they stand. -/
structure FilteredReader where
  read : Bytes → Option Document
  reads : ∀ (text : Bytes) (members : List (Bytes × JsonTree)), JsonTree.parse text = some (.object members) →
    Fitting members → ∃ object : Document.Object, read text = some (.object object) ∧
      (∀ name ∈ filtered, ∀ value, (ascii name, .string value) ∈ members → object.get name = .string value) ∧
      ∀ name ∈ filtered, ∀ count : UInt32, (ascii name, .token (decimal count.toNat)) ∈ members →
        object.get name = .int count.toNat

structure QueueOldest where
  session : CText := .empty
  timestamp : CText := .empty
  sequence : UInt32 := 0
  epoch : UInt32 := 0

def oldestOf (reader : FilteredReader) (payload : Bytes) : QueueOldest :=
  match reader.read payload with
  | none => {}
  | some metadata =>
    match (metadata.member "session_id").text?, (metadata.member "sequence").uint?, (metadata.member "timestamp").text? with
    | some session, some sequence, some timestamp =>
      if session.bytes.length == 0 || 128 < session.bytes.length ||
          Logic.normalizeTopicSegment session.bytes != session.bytes || 32 < timestamp.bytes.length then {}
      else { session, timestamp, sequence, epoch := QueueAge.epoch (some timestamp) }
    | _, _, _ => {}

def refreshQueueOldest (reader : FilteredReader) (queue : StoreForwardQueue) : Flash (QueueOldest × StoreForwardQueue) := do
  if !queue.ready then return ({}, queue)
  let peeked ← queue.peek
  if !peeked.found then return ({}, peeked.queue)
  return (oldestOf reader peeked.payload, peeked.queue)

/-! ## What is captured -/

/-- `String(value, 3)`: a number where there is one. -/
structure FloatText (decimals : UInt32 → Bytes) : Prop where
  token : Numeric decimals
  number : ∀ bits, DashTelemetry.isfinite bits = true → numberToken (decimals bits) = true

/-- What a capture reads. The channels keep every reading in the range of its sensor. -/
structure Capture (decimals : UInt32 → Bytes) where
  config : CText
  bootCounter : UInt32
  sequence : UInt32
  networkReady : Bool
  utcTime : Option Calendar.Instant
  uptimeMs : UInt32
  sensors : List SensorSnapshot
  system : SystemStatus
  texts : ∀ sensor ∈ sensors, ∀ text ∈ [sensor.id, sensor.name, sensor.units], Escapable text.bytes
  finite : ∀ sensor ∈ sensors, DashTelemetry.isfinite sensor.filteredValue = true ∧
    DashTelemetry.isfinite sensor.loopCurrentmA = true

namespace Capture

variable {decimals : UInt32 → Bytes} (capture : Capture decimals)

def sessionId : CText :=
  .of (Logic.formatSessionId (normalizedDevice capture.config).bytes capture.bootCounter)

def state : AppState where
  transportTimestamp := .of (Timekeeper.transportTimestamp capture.networkReady capture.uptimeMs capture.utcTime)
  uptimeMs := capture.uptimeMs
  sensors := capture.sensors
  system := capture.system

def payload : Bytes :=
  buildSnapshotJson (normalizedDevice capture.config) capture.sessionId decimals capture.state capture.sequence

end Capture

/-! ## The clock's text is short and printable -/

theorem decimal_printable {value : Nat} {byte : UInt8} (member : byte ∈ decimal value) : 0x20 ≤ byte := by
  have range := decimal_digit member
  rw [UInt8.le_iff_toNat_le]
  exact (by decide : 32 ≤ 48).trans range.1

theorem zeroPadded_printable {width value : Nat} {byte : UInt8} (member : byte ∈ Logic.zeroPadded width value) :
    0x20 ≤ byte := by
  rcases List.mem_append.mp member with filler | digit
  · rw [(List.mem_replicate.mp filler).2]
    decide
  · exact decimal_printable digit

theorem fallbackTimestamp_printable (uptimeMs : UInt32) : ∀ byte ∈ Logic.fallbackTimestamp uptimeMs, 0x20 ≤ byte := by
  have boot : ∀ byte ∈ ascii "boot+", 0x20 ≤ byte := by decide
  intro byte member
  rcases List.mem_append.mp member with start | digit
  · exact boot byte start
  · exact decimal_printable digit

theorem formatTimestamp_printable (year month day hour minute second : Nat) :
    ∀ byte ∈ Logic.formatTimestamp year month day hour minute second, 0x20 ≤ byte := by
  have marks : ∀ byte ∈ ascii "-" ++ ascii " " ++ ascii ":", 0x20 ≤ byte := by decide
  intro byte member
  have inside := List.mem_of_mem_take member
  simp only [List.mem_append] at inside marks
  rcases inside with (((((((((number | mark) | number) | mark) | number) | mark) | number) | mark) | number) | mark) | number
  all_goals first
    | exact zeroPadded_printable number
    | exact marks byte (by simp [mark])

theorem transportTimestamp_printable (networkReady : Bool) (uptimeMs : UInt32) (utcTime : Option Calendar.Instant) :
    ∀ byte ∈ Timekeeper.transportTimestamp networkReady uptimeMs utcTime, 0x20 ≤ byte := by
  have zulu : ∀ byte ∈ ascii "Z", 0x20 ≤ byte := by decide
  unfold Timekeeper.transportTimestamp
  split
  · exact fallbackTimestamp_printable uptimeMs
  split
  · exact fallbackTimestamp_printable uptimeMs
  split
  · exact fallbackTimestamp_printable uptimeMs
  · intro byte member
    rcases List.mem_append.mp member with stamped | ends
    · rcases List.mem_or_eq_of_mem_set stamped with written | t
      · exact formatTimestamp_printable _ _ _ _ _ _ byte written
      · rw [t]
        decide
    · exact zulu byte ends

theorem fallbackTimestamp_length (uptimeMs : UInt32) : (Logic.fallbackTimestamp uptimeMs).length ≤ 32 := by
  have boot : (ascii "boot+").length = 5 := by decide
  have digits : (decimal uptimeMs.toNat).length ≤ 10 := by
    rw [decimal, List.length_map]
    exact (Nat.length_toDigits_le_iff (by decide) (by decide)).mpr (uptimeMs.toNat_lt.trans (by decide))
  rw [Logic.fallbackTimestamp, List.length_append, boot]
  omega

theorem transportTimestamp_length (networkReady : Bool) (uptimeMs : UInt32) (utcTime : Option Calendar.Instant) :
    (Timekeeper.transportTimestamp networkReady uptimeMs utcTime).length ≤ 32 := by
  unfold Timekeeper.transportTimestamp
  split
  · exact fallbackTimestamp_length uptimeMs
  split
  · exact fallbackTimestamp_length uptimeMs
  split
  · exact fallbackTimestamp_length uptimeMs
  · have zulu : (ascii "Z").length = 1 := by decide
    rw [List.length_append, List.length_set, Logic.formatTimestamp, List.length_take, zulu]
    omega

/-! ## A captured record is read -/

theorem numberToken_decimal (value : Nat) : numberToken (decimal value) = true := by
  have each : ∀ byte ∈ decimal value, SystemEvents.digit byte = true := by
    intro byte member
    have range := decimal_digit member
    simp only [SystemEvents.digit, UInt8.le_iff_toNat_le, Bool.and_eq_true, decide_eq_true_eq]
    exact range
  have taken : (decimal value).takeWhile SystemEvents.digit = decimal value := List.takeWhile_eq_self_iff.mpr each
  have dropped : (decimal value).dropWhile SystemEvents.digit = [] := List.dropWhile_eq_nil_iff.mpr each
  have unsigned : ((decimal value).head? == some 0x2d) = false := by
    cases first : (decimal value).head? with
    | none => rfl
    | some byte =>
      have dash := (Logic.decimal_idByte (List.mem_of_head? first)).2
      simpa using dash
  have some : (decimal value).isEmpty = false := List.isEmpty_eq_false_iff.mpr (Logic.decimal_ne_nil value)
  simp [numberToken, digits, unsigned, taken, dropped, some, List.all_eq_true.mpr each]

theorem plainToken_number {token : Bytes} (number : numberToken token = true) : plainToken token = true := by
  rw [plainToken, number, Bool.or_true]

theorem plainToken_flag (value : Bool) : plainToken (flag value) = true := by
  cases value <;> decide

namespace Capture

variable {decimals : UInt32 → Bytes} (capture : Capture decimals)

theorem sensors_readable (text : FloatText decimals) :
    readableItems 8 ((capture.sensors.map (sensorItem decimals)).map Prod.snd) = true := by
  have names : ["id", "name", "value", "units", "loop_mA", "fault"].all (fun name => (ascii name).length ≤ 32) = true := by
    decide
  simp only [List.all_cons, List.all_nil, Bool.and_eq_true, decide_eq_true_eq] at names
  obtain ⟨id, name, value, units, loop, fault, _⟩ := names
  have finite := capture.finite
  generalize capture.sensors = sensors at finite
  induction sensors with
  | nil => rfl
  | cons sensor sensors ih =>
    obtain ⟨filtered, current⟩ := finite sensor List.mem_cons_self
    have later := ih fun sensor member => finite sensor (List.mem_cons_of_mem _ member)
    simp only [List.map_cons, readableItems, later, Bool.and_true, sensorItem, sensorMembers, List.map_nil, Member.value,
      stringMember, tokenMember, readable, readableMembers, id, name, value, units, loop, fault,
      plainToken_number (text.number _ filtered), plainToken_number (text.number _ current), decide_true]
    rfl

theorem sessionId_bytes :
    capture.sessionId.bytes = Logic.formatSessionId (normalizedDevice capture.config).bytes capture.bootCounter := by
  have ends : 0 ∉ Logic.formatSessionId (normalizedDevice capture.config).bytes capture.bootCounter :=
    fun nul => absurd (Logic.formatSessionId_valid _ _ 0 nul) (by decide)
  rw [sessionId, CText.of_eq ends]

theorem timestamp_bytes : capture.state.transportTimestamp.bytes =
    Timekeeper.transportTimestamp capture.networkReady capture.uptimeMs capture.utcTime := by
  have ends : 0 ∉ Timekeeper.transportTimestamp capture.networkReady capture.uptimeMs capture.utcTime :=
    fun nul => absurd (transportTimestamp_printable _ _ _ 0 nul) (by decide)
  rw [state, CText.of_eq ends]

def members : List (Bytes × JsonTree) :=
  (snapshotMembers (normalizedDevice capture.config) capture.sessionId decimals capture.state capture.sequence).map
    Member.value

theorem idBytes_escapable {text : Bytes} (valid : ∀ byte ∈ text, Logic.idByte byte = true) : Escapable text := by
  have each : ∀ value : Fin 256, Logic.idByte (.ofFin value) = true → 0x20 ≤ UInt8.ofFin value := by decide +kernel
  exact fun byte member => .inl (each byte.toFin (valid byte member))

theorem normalizedDevice_valid (deviceId : CText) : ∀ byte ∈ (normalizedDevice deviceId).bytes, Logic.idByte byte = true := by
  unfold normalizedDevice
  dsimp only
  split
  · decide
  · intro byte member
    exact Logic.normalizeTopicSegment_valid deviceId.bytes byte ((List.takeWhile_prefix _).subset member)

theorem payload_reads (text : FloatText decimals) : JsonTree.parse capture.payload = some (.object capture.members) := by
  refine buildSnapshotJson_reads text.token (fun entry listed => ?_) capture.sequence
  simp only [AppState.texts, List.mem_cons, List.mem_flatMap] at listed
  rcases listed with rfl | rfl | rfl | ⟨sensor, present, named⟩
  · exact idBytes_escapable (normalizedDevice_valid capture.config)
  · rw [sessionId_bytes]
    exact idBytes_escapable (Logic.formatSessionId_valid _ _)
  · rw [timestamp_bytes]
    exact fun byte member => .inl (transportTimestamp_printable _ _ _ byte member)
  · exact capture.texts sensor present entry (by simpa using named)

theorem members_fitting (text : FloatText decimals) (short : capture.sessionId.bytes.length ≤ 128) :
    Fitting capture.members := by
  have stamped : capture.state.transportTimestamp.bytes.length ≤ 32 := by
    rw [timestamp_bytes]
    exact transportTimestamp_length _ _ _
  have sizes : ["schema_version", "device_id", "session_id", "sequence", "timestamp", "uptime_ms", "sensors",
      "system", "adc_ready", "rtc_ready", "sd_ready", "wifi_ready"].map (fun name => (ascii name).length) =
        [14, 9, 10, 8, 9, 9, 7, 6, 9, 9, 8, 10] := by
    decide
  simp only [List.map_cons, List.map_nil, List.cons.injEq, and_true] at sizes
  obtain ⟨version, device, session, sequence, timestamp, uptime, sensors, system, adc, rtc, sd, wifi⟩ := sizes
  refine ⟨?distinct, ?readable, ?pool⟩
  case distinct =>
    have names : capture.members.map Prod.fst = ["schema_version", "device_id", "session_id", "sequence", "timestamp",
        "uptime_ms", "sensors", "system"].map ascii := rfl
    rw [names]
    decide
  case readable =>
    have listed := capture.sensors_readable text
    simp only [members, snapshotMembers, List.map_cons, List.map_nil, Member.value, stringMember, tokenMember, objectMember,
      SystemStatus.members, readableMembers, readable, version, device, session, sequence, timestamp, uptime, sensors,
      system, adc, rtc, sd, wifi, plainToken_number (numberToken_decimal _), plainToken_flag, state, listed]
    rfl
  case pool =>
    have kept : ["schema_version", "device_id", "session_id", "sequence", "timestamp", "uptime_ms", "sensors",
        "system"].map (fun name => decide (ascii name ∈ filtered.map ascii)) =
          [false, false, true, true, true, false, false, false] := by
      decide
    simp only [List.map_cons, List.map_nil, List.cons.injEq, and_true, decide_eq_true_eq, decide_eq_false_iff_not] at kept
    obtain ⟨version', device', session', sequence', timestamp', uptime', sensors', system'⟩ := kept
    simp only [members, snapshotMembers, List.map_cons, List.map_nil, Member.value, stringMember, tokenMember, objectMember,
      poolBytes, if_neg version', if_neg device', if_pos session', if_pos sequence', if_pos timestamp', if_neg uptime',
      if_neg sensors', if_neg system', session, sequence, timestamp, List.sum_cons, List.sum_nil]
    omega

/-- A captured record names its session, if that is not too long to be shown. -/
theorem oldestOf_payload (text : FloatText decimals) (reader : FilteredReader)
    (short : capture.sessionId.bytes.length ≤ 128) : (oldestOf reader capture.payload).session = capture.sessionId := by
  obtain ⟨object, read, texts, counts⟩ :=
    reader.reads _ _ (capture.payload_reads text) (capture.members_fitting text short)
  have session : object.get "session_id" = .string capture.sessionId.bytes := texts _ (by simp [filtered]) _
    (by simp [members, snapshotMembers, Member.value, stringMember])
  have timestamp : object.get "timestamp" = .string capture.state.transportTimestamp.bytes :=
    texts _ (by simp [filtered]) _ (by simp [members, snapshotMembers, Member.value, stringMember])
  have sequence : object.get "sequence" = .int capture.sequence.toNat := counts _ (by simp [filtered]) capture.sequence
    (by simp [members, snapshotMembers, Member.value, tokenMember])
  have count : (Document.int capture.sequence.toNat).uint? = some capture.sequence := by
    have bound := capture.sequence.toNat_lt
    rw [Document.uint?, if_pos (by omega)]
    simp
  have some : capture.sessionId.bytes.length ≠ 0 := by
    rw [sessionId_bytes, Logic.formatSessionId, List.length_append]
    have digits := List.length_pos_iff.mpr (Logic.decimal_ne_nil capture.bootCounter.toNat)
    omega
  have normal : Logic.normalizeTopicSegment capture.sessionId.bytes = capture.sessionId.bytes := by
    rw [sessionId_bytes]
    exact Logic.formatSessionId_fixpoint _ _
  have stamped : capture.state.transportTimestamp.bytes.length ≤ 32 := by
    rw [timestamp_bytes]
    exact transportTimestamp_length _ _ _
  rw [oldestOf, read]
  simp only [Document.member, session, timestamp, sequence, Document.text?, count, CText.of_bytes, normal]
  rw [if_neg (by simp [some, Nat.not_lt.mpr short, Nat.not_lt.mpr stamped])]

end Capture

/-- Normal forms are stable, sessions are normal, and so the session of a captured record is never discarded. -/
theorem sessions_stable :
    (∀ rawSegment : Bytes, (∀ byte ∈ Logic.normalizeTopicSegment rawSegment, Logic.idByte byte = true) ∧
      (Logic.normalizeTopicSegment rawSegment).getLast? ≠ some 0x2d ∧
      Logic.normalizeTopicSegment (Logic.normalizeTopicSegment rawSegment) = Logic.normalizeTopicSegment rawSegment) ∧
    (∀ (deviceId : Bytes) (bootCounter : UInt32),
      Logic.normalizeTopicSegment (Logic.formatSessionId deviceId bootCounter) =
        Logic.formatSessionId deviceId bootCounter) ∧
    ∀ (reader : FilteredReader) (decimals : UInt32 → Bytes), FloatText decimals → ∀ (queue : StoreForwardQueue)
      (trace : List (Prog.Exchange LittleFs)) (outcome : QueueOldest × StoreForwardQueue), queue.ready = true →
      (refreshQueueOldest reader queue).Traces trace outcome →
      ∃ peeked, queue.peek.Traces trace peeked ∧ (peeked.found = true → ∀ capture : Capture decimals,
        peeked.payload = capture.payload → capture.sessionId.bytes.length ≤ 128 →
        outcome.1.session = capture.sessionId) := by
  refine ⟨fun rawSegment => ⟨Logic.normalizeTopicSegment_valid rawSegment, Logic.normalizeTopicSegment_last rawSegment,
    Logic.normalizeTopicSegment_fixpoint rawSegment⟩, Logic.formatSessionId_fixpoint,
    fun reader decimals text queue trace outcome ready run => ?_⟩
  rw [refreshQueueOldest, ready] at run
  obtain ⟨before, peeked, after, peeks, rest, same⟩ := Prog.traces_bind run
  -- behind the peek the payload is only parsed, without another call
  have alone : after = [] ∧ (peeked.found = true → outcome.1 = oldestOf reader peeked.payload) := by
    cases found : peeked.found
    · rw [found] at rest
      obtain ⟨none, _⟩ := Prog.traces_pure rest
      exact ⟨none, fun absent => nomatch absent⟩
    · rw [found] at rest
      obtain ⟨none, result⟩ := Prog.traces_pure rest
      exact ⟨none, fun _ => by rw [result]⟩
  rw [alone.1, List.append_nil] at same
  refine ⟨peeked, same ▸ peeks, fun found capture holds short => ?_⟩
  rw [alone.2 found, holds]
  exact capture.oldestOf_payload text reader short

/-! One captured record, read back from its segment. -/

def keep : JsonTree → Document
  | .string text => .string text
  | .token text => .int (Nat.ofDigitChars 10 (text.map fun byte => Char.ofNat byte.toNat) 0)
  | .array _ | .object _ => .null

def keptMembers : List (Bytes × JsonTree) → Document.Object
  | [] => []
  | (name, value) :: members =>
    if name ∈ filtered.map ascii then (.of name, keep value) :: keptMembers members else keptMembers members

theorem keptMembers_get {members : List (Bytes × JsonTree)} (distinct : (members.map Prod.fst).Nodup) {name : String}
    (listed : name ∈ filtered) {value : JsonTree} (member : (ascii name, value) ∈ members) :
    (keptMembers members).get name = keep value := by
  have apart : ∀ first ∈ filtered, ∀ second ∈ filtered, CText.of (ascii first) = .literal second → first = second := by
    decide
  induction members with
  | nil => cases member
  | cons entry members ih =>
    obtain ⟨other, entry⟩ := entry
    rw [List.map_cons, List.nodup_cons] at distinct
    rw [keptMembers]
    rcases List.mem_cons.mp member with same | later
    · cases same
      have named : CText.of (ascii name) = .literal name := rfl
      rw [if_pos (List.mem_map_of_mem listed), Document.Object.get, if_pos named]
    · have found := ih distinct.2 later
      split
      · rename_i kept
        obtain ⟨first, known, rfl⟩ := List.mem_map.mp kept
        have different : CText.of (ascii first) ≠ .literal name := by
          intro equal
          rw [apart first known name listed equal] at distinct
          exact distinct.1 (List.mem_map.mpr ⟨_, later, rfl⟩)
        rw [Document.Object.get, if_neg different, found]
      · exact found

theorem keep_decimal (value : Nat) : keep (.token (decimal value)) = .int value := by
  have chars : (decimal value).map (fun byte => Char.ofNat byte.toNat) = Nat.toDigits 10 value := by
    rw [decimal, List.map_map]
    refine (List.map_congr_left fun digit member => ?_).trans (List.map_id _)
    have isDigit := Nat.isDigit_of_mem_toDigits (by decide) (by decide) member
    have range : 48 ≤ digit.toNat ∧ digit.toNat ≤ 57 := by
      simp only [Char.isDigit, Bool.and_eq_true, decide_eq_true_eq, ge_iff_le, UInt32.le_iff_toNat_le] at isDigit
      exact isDigit
    have byte : (UInt8.ofNat digit.toNat).toNat = digit.toNat := by
      rw [UInt8.toNat_ofNat']
      omega
    rw [Function.comp_apply, byte, Char.ofNat_toNat, id]
  rw [keep, chars, Nat.ofDigitChars_toDigits (by decide) (by decide)]

/-- A reader that keeps what the filter names. -/
def treeReader : FilteredReader where
  read text :=
    match JsonTree.parse text with
    | some (.object members) => some (.object (keptMembers members))
    | _ => none
  reads text members parsed fitting := by
    refine ⟨keptMembers members, by rw [parsed], fun name listed value member => ?_, fun name listed count member => ?_⟩
    · rw [keptMembers_get fitting.distinct listed member, keep]
    · rw [keptMembers_get fitting.distinct listed member, keep_decimal]

def zeroText : UInt32 → Bytes := fun _ => ascii "0.000"

theorem zeroText_law : FloatText zeroText := by
  have zero : ascii "0.000" ≠ [] ∧ (∀ byte ∈ ascii "0.000", tokenByte byte = true) ∧
      numberToken (ascii "0.000") = true := by
    decide
  exact ⟨fun _ => ⟨zero.1, zero.2.1⟩, fun _ _ => zero.2.2⟩

def oneCapture : Capture zeroText where
  config := .literal "Car 01"
  bootCounter := 42
  sequence := 7
  networkReady := false
  utcTime := none
  uptimeMs := 5
  sensors := [⟨.literal "oil", .literal "Oil \"main\"", .literal "bar", 0, 0, .none⟩]
  system := ⟨true, false, true, false⟩
  texts := by decide
  finite := by decide

def oneDisk : Disk :=
  ⟨"littlefs", 4096, 4096, fun path => if path = .segment .zero then some (record oneCapture.payload) else none, []⟩

def oneQueue : StoreForwardQueue := { ready := true, count := fun segment => if segment = .zero then 1 else 0 }

theorem oneQueue_peek : (oneQueue.peek.exec Disk.handle oneDisk).1.found = true ∧
    (oneQueue.peek.exec Disk.handle oneDisk).1.payload = oneCapture.payload := by
  decide +kernel

theorem sessions_stable_car :
    Logic.normalizeTopicSegment (ascii " Car/01 -") = ascii "car-01" ∧
    ((refreshQueueOldest treeReader oneQueue).exec Disk.handle oneDisk).1.1.session = .literal "car-01-boot-42" := by
  obtain ⟨found, payload⟩ := oneQueue_peek
  have trace : (refreshQueueOldest treeReader oneQueue).exchanges Disk.handle oneDisk =
      oneQueue.peek.exchanges Disk.handle oneDisk := by
    rw [refreshQueueOldest, show (!oneQueue.ready) = false from rfl]
    simp only [Bool.false_eq_true, if_false, Prog.exchanges_bind, found, Bool.not_true]
    exact List.append_nil _
  obtain ⟨peeked, peeks, named⟩ := sessions_stable.2.2 treeReader zeroText zeroText_law oneQueue _ _ rfl
    (Prog.traces_exchanges Disk.handle (refreshQueueOldest treeReader oneQueue) oneDisk)
  rw [trace] at peeks
  have same := peeks.unique (Prog.traces_exchanges Disk.handle oneQueue.peek oneDisk)
  rw [same] at named
  have session : oneCapture.sessionId = .literal "car-01-boot-42" := by decide
  exact ⟨by decide, (named found oneCapture payload (by decide)).trans session⟩

end LiveUpload

end ApexiDevices
