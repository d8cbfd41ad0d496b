import ApexiDevices.Management.Documents

set_option autoImplicit false

/-!
# No text alters a payload's structure

Which members a payload has, and how they nest, does not depend on what the
texts in it say.
-/

namespace ApexiDevices

open Device JsonTree

namespace LiveUpload

section Snapshots

variable {decimals : UInt32 → Bytes}

def sensorMembers (decimals : UInt32 → Bytes) (sensor : SensorSnapshot) : List Member :=
  [stringMember "id" sensor.id.bytes, stringMember "name" sensor.name.bytes,
    tokenMember "value" (decimals sensor.filteredValue), stringMember "units" sensor.units.bytes,
    tokenMember "loop_mA" (decimals sensor.loopCurrentmA),
    stringMember "fault" (sensorFaultToString sensor.activeFault)]

def sensorItem (decimals : UInt32 → Bytes) (sensor : SensorSnapshot) : Item :=
  (renderObject (sensorMembers decimals sensor), .object ((sensorMembers decimals sensor).map Member.value))

def SystemStatus.members (system : SystemStatus) : List Member :=
  [tokenMember "adc_ready" (flag system.adcReady), tokenMember "rtc_ready" (flag system.rtcReady),
    tokenMember "sd_ready" (flag system.sdReady), tokenMember "wifi_ready" (flag system.wifiReady)]

def snapshotMembers (deviceId sessionId : CText) (decimals : UInt32 → Bytes) (state : AppState) (sequence : UInt32) :
    List Member :=
  [tokenMember "schema_version" (decimal kLivePayloadSchemaVersion), stringMember "device_id" deviceId.bytes,
    stringMember "session_id" sessionId.bytes, tokenMember "sequence" (decimal sequence.toNat),
    stringMember "timestamp" state.transportTimestamp.bytes, tokenMember "uptime_ms" (decimal state.uptimeMs.toNat),
    (ascii "sensors", renderArray (state.sensors.map (sensorItem decimals)),
      .array ((state.sensors.map (sensorItem decimals)).map Prod.snd)),
    objectMember "system" state.system.members]

def snapshotDocument (deviceId sessionId : CText) (decimals : UInt32 → Bytes) (state : AppState) (sequence : UInt32) :
    JsonTree :=
  .object ((snapshotMembers deviceId sessionId decimals state sequence).map Member.value)

/-! The text of a snapshot is that of its members. -/

theorem sensorJson_eq (sensor : SensorSnapshot) : sensorJson decimals sensor = (sensorItem decimals sensor).1 := by
  have fault : ascii "\"fault\":\"" = ascii "\"" ++ ascii "fault" ++ ascii "\":\"" := by decide
  have escaped : renderMember (stringMember "fault" (sensorFaultToString sensor.activeFault)) =
      ascii "\"" ++ ascii "fault" ++ ascii "\":\"" ++ jsonEscape (sensorFaultToString sensor.activeFault) ++ ascii "\"" := by
    obtain ⟨quote, _, colon, _⟩ := punctuation
    simp [renderMember, stringMember, quoted, quote, colon]
  simp only [sensorJson, sensorItem, sensorMembers, renderObject_cons, List.flatMap_cons, List.flatMap_nil,
    render_string, render_token, escaped, fault, List.append_assoc, List.append_nil]

theorem sensorsJson_eq (sensors : List SensorSnapshot) :
    ascii "[" ++ sensorsJson decimals sensors ++ ascii "]" = renderArray (sensors.map (sensorItem decimals)) := by
  have brackets : ascii "[" = [0x5b] ∧ ascii "]" = [0x5d] ∧ ascii "," = [0x2c] := by decide
  obtain ⟨opens, closes, comma⟩ := brackets
  cases sensors with
  | nil => simp [sensorsJson, renderArray, renderItems, opens, closes]
  | cons first rest =>
    simp [sensorsJson, renderArray, renderItems_cons, sensorJson_eq, List.flatMap_map, opens, closes, comma]

theorem system_eq (system : SystemStatus) : system.json = renderObject system.members := by
  simp only [SystemStatus.json, SystemStatus.members, renderObject_cons, List.flatMap_cons, List.flatMap_nil,
    render_token, List.append_assoc, List.append_nil]

theorem buildSnapshotJson_eq (deviceId sessionId : CText) (state : AppState) (sequence : UInt32) :
    buildSnapshotJson deviceId sessionId decimals state sequence =
      renderObject (snapshotMembers deviceId sessionId decimals state sequence) := by
  have opens : ascii ",\"sensors\":[" = ascii "," ++ (ascii "\"" ++ ascii "sensors" ++ ascii "\":") ++ ascii "[" := by
    decide
  have closes : ascii "],\"system\":" = ascii "]" ++ ascii "," ++ (ascii "\"" ++ ascii "system" ++ ascii "\":") := by
    decide
  have sensors : renderMember (ascii "sensors", renderArray (state.sensors.map (sensorItem decimals)),
      .array ((state.sensors.map (sensorItem decimals)).map Prod.snd)) =
        ascii "\"" ++ ascii "sensors" ++ ascii "\":" ++ (ascii "[" ++ sensorsJson decimals state.sensors ++ ascii "]") := by
    obtain ⟨quote, colon, _⟩ := punctuation
    rw [sensorsJson_eq]
    simp [renderMember, quoted, quote, colon]
  simp only [buildSnapshotJson, snapshotMembers, renderObject_cons, List.flatMap_cons, List.flatMap_nil, render_string,
    render_token, render_object, sensors, system_eq, opens, closes, plainMember, List.append_assoc, List.append_nil]

/-! Every member is read back. -/

/-- How `String(value, 3)` writes a number: digits, a sign, a point, or a word for what is none. -/
def Numeric (decimals : UInt32 → Bytes) : Prop :=
  ∀ bits, decimals bits ≠ [] ∧ ∀ byte ∈ decimals bits, tokenByte byte = true

def AppState.texts (state : AppState) : List CText :=
  state.transportTimestamp :: state.sensors.flatMap fun sensor => [sensor.id, sensor.name, sensor.units]

theorem sensorFaultToString_escapable (fault : SensorFault) : Escapable (sensorFaultToString fault) := by
  cases fault <;> decide

theorem sensorMembers_read (numeric : Numeric decimals) {sensor : SensorSnapshot}
    (clean : ∀ text ∈ [sensor.id, sensor.name, sensor.units], Escapable text.bytes) :
    ∀ member ∈ sensorMembers decimals sensor, member.Reads := by
  have named : ∀ name ∈ ["id", "name", "units", "fault"], ∀ byte ∈ ascii name, plain byte = true := by decide
  intro member inside
  simp only [sensorMembers, List.mem_cons, List.not_mem_nil, or_false] at inside
  rcases inside with rfl | rfl | rfl | rfl | rfl | rfl
  · exact @stringMember_reads "id" (named "id" (by simp)) _ (clean _ (by simp))
  · exact @stringMember_reads "name" (named "name" (by simp)) _ (clean _ (by simp))
  · have named : ∀ byte ∈ ascii "value", plain byte = true := by decide
    exact ⟨named, text_token (numeric _).1 (numeric _).2⟩
  · exact @stringMember_reads "units" (named "units" (by simp)) _ (clean _ (by simp))
  · have named : ∀ byte ∈ ascii "loop_mA", plain byte = true := by decide
    exact ⟨named, text_token (numeric _).1 (numeric _).2⟩
  · exact @stringMember_reads "fault" (named "fault" (by simp)) _ (sensorFaultToString_escapable _)

theorem systemMembers_read (system : SystemStatus) : ∀ member ∈ system.members, member.Reads := by
  have named : ∀ name ∈ ["adc_ready", "rtc_ready", "sd_ready", "wifi_ready"],
      ∀ byte ∈ ascii name, plain byte = true := by decide
  intro member inside
  simp only [SystemStatus.members, List.mem_cons, List.not_mem_nil, or_false] at inside
  rcases inside with rfl | rfl | rfl | rfl
  · exact @flagMember_reads "adc_ready" (named "adc_ready" (by simp)) _
  · exact @flagMember_reads "rtc_ready" (named "rtc_ready" (by simp)) _
  · exact @flagMember_reads "sd_ready" (named "sd_ready" (by simp)) _
  · exact @flagMember_reads "wifi_ready" (named "wifi_ready" (by simp)) _

theorem snapshotMembers_read (numeric : Numeric decimals) {deviceId sessionId : CText} {state : AppState}
    (clean : ∀ text ∈ deviceId :: sessionId :: state.texts, Escapable text.bytes) (sequence : UInt32) :
    ∀ member ∈ snapshotMembers deviceId sessionId decimals state sequence, member.Reads := by
  have named : ∀ name ∈ ["schema_version", "device_id", "session_id", "sequence", "timestamp", "uptime_ms",
      "system"],
      ∀ byte ∈ ascii name, plain byte = true := by decide
  intro member inside
  simp only [snapshotMembers, List.mem_cons, List.not_mem_nil, or_false] at inside
  rcases inside with rfl | rfl | rfl | rfl | rfl | rfl | rfl | rfl
  · exact @decimalMember_reads "schema_version" (named "schema_version" (by simp)) _
  · exact @stringMember_reads "device_id" (named "device_id" (by simp)) _ (clean _ (by simp))
  · exact @stringMember_reads "session_id" (named "session_id" (by simp)) _ (clean _ (by simp))
  · exact @decimalMember_reads "sequence" (named "sequence" (by simp)) _
  · exact @stringMember_reads "timestamp" (named "timestamp" (by simp)) _ (clean _ (by simp [AppState.texts]))
  · exact @decimalMember_reads "uptime_ms" (named "uptime_ms" (by simp)) _
  · have named : ∀ byte ∈ ascii "sensors", plain byte = true := by decide
    refine ⟨named, text_array fun item listed => ?_⟩
    obtain ⟨sensor, present, rfl⟩ := List.mem_map.mp listed
    refine text_members (sensorMembers_read numeric fun text of => clean text ?_)
    exact List.mem_cons_of_mem _ (List.mem_cons_of_mem _
      (List.mem_cons_of_mem _ (List.mem_flatMap.mpr ⟨sensor, present, of⟩)))
  · exact @objectMember_reads "system" (named "system" (by simp)) _ (systemMembers_read _)

theorem buildSnapshotJson_reads (numeric : Numeric decimals) {deviceId sessionId : CText} {state : AppState}
    (clean : ∀ text ∈ deviceId :: sessionId :: state.texts, Escapable text.bytes) (sequence : UInt32) :
    JsonTree.parse (buildSnapshotJson deviceId sessionId decimals state sequence) =
      some (snapshotDocument deviceId sessionId decimals state sequence) := by
  rw [buildSnapshotJson_eq]
  exact (text_members (snapshotMembers_read numeric clean sequence)).parse

end Snapshots

theorem shape_string (name : String) (value : Bytes) : (stringMember name value).shape = (ascii name, .string []) := rfl

theorem shape_raw (name : String) (value : Bytes) : (rawMember name value).shape = (ascii name, .string []) := rfl

theorem shape_token (name : String) (token : Bytes) : (tokenMember name token).shape = (ascii name, .token []) := rfl

theorem shape_object (name : String) (members : List Member) :
    (objectMember name members).shape = (ascii name, .object (members.map Member.shape)) := by
  rw [Member.shape, objectMember, shape_members]

/-- The names of what is reported of the system, and which other members a status has. -/
structure Outline where
  system : List String
  management : Bool
  remote : Bool
  acknowledged : Bool
  deriving DecidableEq

namespace Reported

def outline (self : Reported) : Outline where
  system := (self.diagnostics.reported (self.storeForwardQueue.enabled && self.storeForwardQueue.ready)
    self.storeForwardQueue.pendingRecords self.storeForwardQueue.metadata.droppedRecords
    self.storeForwardQueue.droppedRecordsKnown).map Prod.fst
  management := self.remoteManagementEnabled || self.authorization.isSome || self.bearerRotation.isSome
  remote := self.remoteManagementEnabled
  acknowledged := self.acknowledged.isSome

theorem system_shape (self : Reported) :
    self.systemMembers.map Member.shape = self.outline.system.map fun name => (ascii name, .token []) := by
  simp [systemMembers, SystemDiagnostics.members, outline, Function.comp_def, shape_token]

theorem acknowledgement_shape (first second : UInt32 × Bytes) :
    (acknowledgementMember first).shape = (acknowledgementMember second).shape := by
  simp only [acknowledgementMember, shape_object, shape_string, shape_token, shape_raw, List.map_cons, List.map_nil]

theorem managed_shape (first second : Reported) (firstVersion secondVersion : CText) (firstMs secondMs : UInt32) :
    (first.managedMembers firstVersion firstMs).map Member.shape =
      (second.managedMembers secondVersion secondMs).map Member.shape := by
  simp only [managedMembers, settingsMember, assignmentMember, shape_object, shape_string, shape_token, List.map_cons,
    List.map_nil]

section Same

variable {first second : Reported} (same : first.outline = second.outline)

include same

theorem acknowledged_shape :
    (first.acknowledged.toList.map acknowledgementMember).map Member.shape =
      (second.acknowledged.toList.map acknowledgementMember).map Member.shape := by
  have acknowledged : first.acknowledged.isSome = second.acknowledged.isSome := congrArg Outline.acknowledged same
  cases here : first.acknowledged with
  | none =>
    rw [here] at acknowledged
    rw [Option.isSome_eq_false_iff.mp acknowledged.symm |> Option.isNone_iff_eq_none.mp]
  | some entry =>
    rw [here] at acknowledged
    obtain ⟨other, there⟩ := Option.isSome_iff_exists.mp acknowledged.symm
    rw [there]
    exact congrArg (fun shaped => [shaped]) (acknowledgement_shape entry other)

variable (firstVersion secondVersion : CText) (firstMs secondMs : UInt32)

theorem management_shape :
    (first.managementMembers firstVersion firstMs).map Member.shape =
      (second.managementMembers secondVersion secondMs).map Member.shape := by
  have shown : (first.remoteManagementEnabled || first.authorization.isSome || first.bearerRotation.isSome) =
      (second.remoteManagementEnabled || second.authorization.isSome || second.bearerRotation.isSome) :=
    congrArg Outline.management same
  have remote : first.remoteManagementEnabled = second.remoteManagementEnabled := congrArg Outline.remote same
  rw [managementMembers, managementMembers, shown, remote]
  split
  · simp only [List.map_cons, List.map_nil, shape_object, shape_token, List.map_append, acknowledged_shape same]
    split
    · rw [managed_shape first second firstVersion secondVersion firstMs secondMs]
    · rfl
  · rfl

theorem status_shape (firstConnected secondConnected : Bool) :
    (first.statusDocument firstVersion firstMs firstConnected).shape =
      (second.statusDocument secondVersion secondMs secondConnected).shape := by
  have system : first.systemMembers.map Member.shape = second.systemMembers.map Member.shape := by
    rw [system_shape, system_shape, same]
  have management := management_shape same firstVersion secondVersion firstMs secondMs
  rw [statusDocument, statusDocument, shape_members, shape_members]
  simp only [statusMembers, List.map_cons, shape_string, shape_token, shape_raw, shape_object, system, management]

end Same

end Reported

theorem snapshot_shape {firstDecimals secondDecimals : UInt32 → Bytes} {first second : AppState}
    (same : first.sensors.length = second.sensors.length) (firstId secondId firstSession secondSession : CText)
    (firstSequence secondSequence : UInt32) :
    (snapshotDocument firstId firstSession firstDecimals first firstSequence).shape =
      (snapshotDocument secondId secondSession secondDecimals second secondSequence).shape := by
  have one (decimals : UInt32 → Bytes) (sensor : SensorSnapshot) :
      (sensorItem decimals sensor).2.shape = .object ([stringMember "id" [], stringMember "name" [],
        tokenMember "value" [], stringMember "units" [], tokenMember "loop_mA" [], stringMember "fault" []].map
          Member.shape) := by
    rw [sensorItem, shape_members]
    simp only [sensorMembers, shape_string, shape_token, List.map_cons, List.map_nil]
  rw [snapshotDocument, snapshotDocument, shape_members, shape_members]
  simp only [snapshotMembers, SystemStatus.members, List.map_cons, List.map_nil, shape_string, shape_token, shape_object]
  simp only [Member.shape, shape, shapeItems_eq, List.map_map, Function.comp_def, one, List.map_const', same]

theorem jsonEscape_printable {value : Bytes} (escapable : Escapable value) :
    ∀ byte ∈ jsonEscape value, 0x20 ≤ byte := by
  intro byte member
  obtain ⟨source, listed, escaped⟩ := List.mem_flatMap.mp member
  have letters : ∀ byte ∈ ascii "\\\\" ++ ascii "\\\"" ++ ascii "\\n" ++ ascii "\\r" ++ ascii "\\t", 0x20 ≤ byte := by
    decide
  unfold escapeByte at escaped
  split at escaped
  next => exact letters byte (by simp [escaped])
  split at escaped
  next => exact letters byte (by simp [escaped])
  split at escaped
  next => exact letters byte (by simp [escaped])
  next feed =>
  split at escaped
  next => exact letters byte (by simp [escaped])
  next carriage =>
  split at escaped
  next => exact letters byte (by simp [escaped])
  next tab =>
    rw [List.mem_singleton.mp escaped]
    rcases escapable source listed with printable | control | control | control
    · exact printable
    · exact absurd control feed
    · exact absurd control carriage
    · exact absurd control tab

/-- Escaping is lossless, and what is escaped never alters the structure of a payload. -/
theorem escaping_lossless :
    (∀ value, Escapable value → Literal (jsonEscape value) value ∧ (∀ byte ∈ jsonEscape value, 0x20 ≤ byte) ∧
      JsonTree.parse (quoted (jsonEscape value)) = some (.string value)) ∧
    (∀ value other, Escapable value → Escapable other → jsonEscape value = jsonEscape other → value = other) ∧
    (∀ (self : Reported) (firmwareVersion : CText) (nowMs : UInt32) (connected : Bool), self.Clean firmwareVersion →
      JsonTree.parse (self.buildStatusJson firmwareVersion nowMs connected) =
        some (self.statusDocument firmwareVersion nowMs connected)) ∧
    (∀ (first second : Reported) (firstVersion secondVersion : CText) (nowMs : UInt32) (connected : Bool),
      first.Clean firstVersion → second.Clean secondVersion → first.outline = second.outline →
      (JsonTree.parse (first.buildStatusJson firstVersion nowMs connected)).map JsonTree.shape =
        (JsonTree.parse (second.buildStatusJson secondVersion nowMs connected)).map JsonTree.shape) ∧
    (∀ (decimals : UInt32 → Bytes), Numeric decimals → ∀ (deviceId sessionId : CText) (state : AppState)
      (sequence : UInt32), (∀ text ∈ deviceId :: sessionId :: state.texts, Escapable text.bytes) →
      JsonTree.parse (buildSnapshotJson deviceId sessionId decimals state sequence) =
        some (snapshotDocument deviceId sessionId decimals state sequence)) ∧
    (∀ (decimals : UInt32 → Bytes), Numeric decimals → ∀ (firstId firstSession secondId secondSession : CText)
      (first second : AppState) (sequence : UInt32),
      (∀ text ∈ firstId :: firstSession :: first.texts, Escapable text.bytes) →
      (∀ text ∈ secondId :: secondSession :: second.texts, Escapable text.bytes) →
      first.sensors.length = second.sensors.length →
      (JsonTree.parse (buildSnapshotJson firstId firstSession decimals first sequence)).map JsonTree.shape =
        (JsonTree.parse (buildSnapshotJson secondId secondSession decimals second sequence)).map JsonTree.shape) := by
  refine ⟨fun value escapable => ?literal, fun value other escapable another same => ?injective,
    fun self firmwareVersion nowMs connected clean => Reported.buildStatusJson_reads clean nowMs connected,
    fun first second firstVersion secondVersion nowMs connected clean others same => ?status,
    fun decimals numeric deviceId sessionId state sequence clean => buildSnapshotJson_reads numeric clean sequence,
    fun decimals numeric firstId firstSession secondId secondSession first second sequence clean others same => ?snapshot⟩
  case literal =>
    have literal := jsonEscape_literal escapable
    exact ⟨literal, jsonEscape_printable escapable, (text_string literal).parse⟩
  case injective =>
    have literal := jsonEscape_literal escapable
    rw [same] at literal
    exact literal.unique (jsonEscape_literal another)
  case status =>
    rw [Reported.buildStatusJson_reads clean, Reported.buildStatusJson_reads others, Option.map_some, Option.map_some,
      Reported.status_shape same firstVersion secondVersion nowMs nowMs connected connected]
  case snapshot =>
    rw [buildSnapshotJson_reads numeric clean, buildSnapshotJson_reads numeric others, Option.map_some, Option.map_some,
      snapshot_shape same firstId secondId firstSession secondSession sequence sequence]

/-- A name that would close its own string, and a sensor with such a name. -/
def quotedName : CText := .literal "\",\"enabled\":true,\"\\\n"

def namedReport : Reported := { remoteManagementEnabled := true, friendlyName := quotedName }

def namedState : AppState where
  transportTimestamp := .empty
  uptimeMs := 5
  sensors := [⟨.literal "oil", quotedName, .literal "bar", 0, 0, .none⟩]
  system := ⟨true, false, true, false⟩

theorem escaping_lossless_named :
    JsonTree.parse (quoted (jsonEscape quotedName.bytes)) = some (.string quotedName.bytes) ∧
    (JsonTree.parse (namedReport.buildStatusJson .empty 0 true)).map JsonTree.shape =
      (JsonTree.parse (({ namedReport with friendlyName := .empty } : Reported).buildStatusJson .empty 0 true)).map
        JsonTree.shape ∧
    (JsonTree.parse (buildSnapshotJson .empty .empty (fun _ => ascii "0.000") namedState 1)).map JsonTree.shape =
      (JsonTree.parse (buildSnapshotJson quotedName .empty (fun _ => ascii "0.000") namedState 1)).map
        JsonTree.shape := by
  obtain ⟨literal, _, _, status, _, snapshot⟩ := escaping_lossless
  have zero : ascii "0.000" ≠ [] ∧ ∀ byte ∈ ascii "0.000", tokenByte byte = true := by decide
  refine ⟨(literal _ (by decide)).2.2, status namedReport _ _ _ _ _ ?_ ?_ rfl,
    snapshot (fun _ => ascii "0.000") (fun _ => zero) _ _ _ _ namedState namedState _ ?_ ?_ rfl⟩
  all_goals exact (by decide)

end LiveUpload

end ApexiDevices
