import ApexiDevices.Dash.DashTelemetry
import Mathlib.Logic.Function.Basic

set_option autoImplicit false

/-!
# Sensor identity over connections

Every connection brings the catalog of one logger. The dash forgets the
readings of the last connection but not its texts.
-/

namespace ApexiDevices.DashTelemetry

open Device SystemEvents

structure Entry where
  id : Bytes
  name : Bytes
  units : Bytes

def Entry.text (entry : Entry) : Kind → Bytes
  | .id => entry.id
  | .name => entry.name
  | .units => entry.units

structure Catalog where
  entries : List Entry
  filled : entries ≠ []
  fits : entries.length ≤ kMaxSensors.toNat

/-- What changes of a sensor between two calls; `outside` compares the value with its warning limits. -/
structure Reading where
  filteredValue : UInt32
  hasValidSample : Bool
  activeFault : SensorFault
  outside : Bool

structure DashLink where
  connected : Bool := false
  sensorIndex : Nat := 0
  frameKind : UInt8 := Kind.id.code
  lastFrameMs : UInt32 := 0

namespace DashLink

variable (link : DashLink)

def advance (sensors : Nat) : DashLink :=
  if link.frameKind + 1 > kSample then
    { link with frameKind := Kind.id.code, sensorIndex := (link.sensorIndex + 1) % sensors }
  else { link with frameKind := link.frameKind + 1 }

def frame (entry : Entry) (reading : Reading) (sensors : Nat) : Frame :=
  if link.frameKind = kSample then
    sample (UInt8.ofNat link.sensorIndex) (UInt8.ofNat sensors) reading.filteredValue reading.hasValidSample
      reading.activeFault reading.outside
  else
    DashTelemetry.text (Kind.ofCode link.frameKind) (UInt8.ofNat link.sensorIndex) (UInt8.ofNat sensors)
      (entry.text (Kind.ofCode link.frameKind))

/-- One frame at most; an id that would be truncated is never sent. -/
def publish (catalog : List Entry) (readings : Nat → Reading) (nowMs : UInt32) (written : Bool) :
    Option Frame × DashLink :=
  if !link.connected then (none, link)
  else if nowMs - link.lastFrameMs < UInt32.ofNat (kPublishMs / (catalog.length * 4)) then (none, link)
  else
    let timed := { link with lastFrameMs := nowMs }
    match catalog[link.sensorIndex]? with
    | none => (none, timed)
    | some entry =>
      if entry.id.length > 15 then (none, timed)
      else if !written then (none, timed)
      else (some (link.frame entry (readings link.sensorIndex) catalog.length), timed.advance catalog.length)

end DashLink

structure Dash where
  telemetry : Model := {}
  bleConnected : Bool := false
  loggerReady : Bool := false

namespace Dash

variable (dash : Dash)

def clearTelemetry : Dash :=
  { dash with telemetry := { dash.telemetry with
      sensors := fun index => { dash.telemetry.sensors index with received := false, valid := false } } }

def onConnect : Dash := { dash.clearTelemetry with bleConnected := true, loggerReady := false }

def onDisconnect : Dash := { dash.clearTelemetry with bleConnected := false, loggerReady := false }

def onWrite (frame : Frame) (now : UInt32) : Bool × Dash :=
  if dash.loggerReady then
    let accepted := dash.telemetry.accept frame now
    (accepted.1, { dash with telemetry := accepted.2 })
  else (false, dash)

def fresh (index : Nat) (now : UInt32) : Bool :=
  (dash.telemetry.sensors index).fresh (dash.bleConnected && dash.loggerReady) now

end Dash

structure World where
  catalog : List Entry := []
  link : DashLink := {}
  dash : Dash := {}
  -- what no code reads: the texts accepted in this connection, those the dash had when it began,
  -- and the samples published in it
  heard : Nat → Kind → Bool := fun _ _ => false
  kept : Nat → Kind → Bytes := fun _ _ => []
  samples : List (Nat × UInt32) := []

inductive Action where
  | connect (catalog : Catalog) (lastFrameMs : UInt32)
  | handshake (known : Bool)
  | publish (readings : Nat → Reading) (nowMs : UInt32) (written delivered : Bool) (now : UInt32)
  | disconnect

namespace World

variable (world : World)

def connect (catalog : Catalog) (lastFrameMs : UInt32) : World where
  catalog := catalog.entries
  link := { connected := true, lastFrameMs }
  dash := world.dash.onConnect
  kept index kind := (world.dash.telemetry.sensors index).text kind

def deliver (frame : Frame) (now : UInt32) : World :=
  let accepted := world.dash.onWrite frame now
  let index := world.link.sensorIndex
  { world with
    dash := accepted.2
    heard :=
      if accepted.1 && world.link.frameKind ≠ kSample then
        Function.update world.heard index
          (Function.update (world.heard index) (Kind.ofCode world.link.frameKind) true)
      else world.heard }

def publish (readings : Nat → Reading) (nowMs : UInt32) (written delivered : Bool) (now : UInt32) : World :=
  let published := world.link.publish world.catalog readings nowMs written
  match published.1 with
  | none => { world with link := published.2 }
  | some frame =>
    let index := world.link.sensorIndex
    let sampled := { world with
      samples :=
        if world.link.frameKind = kSample then world.samples ++ [(index, (readings index).filteredValue)]
        else world.samples }
    { (if delivered then sampled.deliver frame now else sampled) with link := published.2 }

def act : Action → World
  | .connect catalog lastFrameMs => world.connect catalog lastFrameMs
  | .handshake known => { world with dash := { world.dash with loggerReady := known } }
  | .publish readings nowMs written delivered now => world.publish readings nowMs written delivered now
  | .disconnect =>
    { world with link := { world.link with connected := false }, dash := world.dash.onDisconnect }

end World

inductive Reached : World → Prop
  | start : Reached {}
  | step {world : World} (earlier : Reached world) (action : Action) : Reached (world.act action)

/-- The sensor shows its own texts, as far as a frame carries them, and a sample of its own. -/
def Identified (world : World) (index : Nat) : Prop :=
  ∃ entry, world.catalog[index]? = some entry ∧
    (∀ kind, (world.dash.telemetry.sensors index).text kind = field (entry.text kind)) ∧
    (index, (world.dash.telemetry.sensors index).value) ∈ world.samples

def Known (world : World) (index : Nat) (kind : Kind) : Prop :=
  world.heard index kind = true ∨ ∃ entry, world.catalog[index]? = some entry ∧
    world.kept index kind = field (entry.text kind)

section Sensors

variable {sensor : Sensor} {model : Model} {kind other : Kind} {value : Bytes} {index : Nat}

def Kind.bit : Kind → UInt8
  | .id => 1
  | .name => 2
  | .units => 4

def Marked (sensor : Sensor) (kind : Kind) : Prop := sensor.metadata &&& kind.bit ≠ 0

theorem marked_or (metadata : UInt8) (kind other : Kind) :
    (metadata ||| kind.bit) &&& other.bit ≠ 0 ↔ other = kind ∨ metadata &&& other.bit ≠ 0 := by
  have spread : (metadata ||| kind.bit) &&& other.bit = (metadata &&& other.bit) ||| (kind.bit &&& other.bit) := by
    rw [← UInt8.toBitVec_inj]
    ext index
    simp [Bool.and_or_distrib_right]
  rw [spread, ne_eq, UInt8.or_eq_zero_iff, not_and_or, or_comm]
  apply or_congr_left
  cases kind <;> cases other <;> decide

theorem not_marked_blank : ¬Marked {} kind := by
  cases kind <;> exact fun marked => marked rfl

theorem marked_of_complete (complete : sensor.metadata = 7) : Marked sensor kind := by
  rw [Marked, complete]
  cases kind <;> decide

theorem store_cases (marked : Marked (sensor.store kind value) other) :
    (other = kind ∧ (sensor.store kind value).text other = value) ∨
      (other ≠ kind ∧ Marked sensor other ∧ (sensor.store kind value).text other = sensor.text other) := by
  by_cases same : other = kind
  · subst same
    refine .inl ⟨rfl, ?_⟩
    cases other <;> rfl
  · refine .inr ⟨same, ?_⟩
    cases kind with
    -- another id blanks the sensor, and with it the marks of the name and the units
    | id =>
      unfold Sensor.store at marked ⊢
      simp only at marked ⊢
      split at marked
      · have blank := ((marked_or 0 .id other).mp marked).resolve_left same
        exact absurd blank (by cases other <;> decide)
      · rename_i kept
        rw [if_neg kept]
        have before := ((marked_or sensor.metadata .id other).mp marked).resolve_left same
        refine ⟨before, ?_⟩
        cases other with
        | id => exact absurd rfl same
        | name => rfl
        | units => rfl
    | name =>
      have before := ((marked_or sensor.metadata .name other).mp marked).resolve_left same
      refine ⟨before, ?_⟩
      cases other with
      | name => exact absurd rfl same
      | id => rfl
      | units => rfl
    | units =>
      have before := ((marked_or sensor.metadata .units other).mp marked).resolve_left same
      refine ⟨before, ?_⟩
      cases other with
      | units => exact absurd rfl same
      | id => rfl
      | name => rfl

theorem store_received (received : (sensor.store kind value).received = true) :
    sensor.received = true ∧ (sensor.store kind value).value = sensor.value := by
  cases kind with
  | id =>
    unfold Sensor.store at received ⊢
    simp only at received ⊢
    split at received
    · cases received
    · rename_i kept
      rw [if_neg kept]
      exact ⟨received, rfl⟩
  | name => exact ⟨received, rfl⟩
  | units => exact ⟨received, rfl⟩

theorem measure_eq (sensor : Sensor) (bits : UInt32) (flag : Bool) (fault : SensorFault) (warning : Bool)
    (now : UInt32) (kind : Kind) :
    let measured := sensor.measure bits flag fault warning now
    measured.metadata = sensor.metadata ∧ measured.text kind = sensor.text kind ∧ measured.value = bits := by
  unfold Sensor.measure
  simp only
  split <;> cases kind <;> exact ⟨rfl, rfl, rfl⟩

theorem resized_cases (model : Model) (count : UInt8) (index : Nat) :
    (model.resized count).sensors index = model.sensors index ∨ (model.resized count).sensors index = {} := by
  unfold Model.resized
  split
  · exact .inr rfl
  · exact .inl rfl

end Sensors

structure Invariant (world : World) : Prop where
  fits : world.catalog.length ≤ kMaxSensors.toNat
  received : ∀ index, (world.dash.telemetry.sensors index).received = true →
    index < world.catalog.length ∧ (index, (world.dash.telemetry.sensors index).value) ∈ world.samples
  marked : ∀ index kind, Marked (world.dash.telemetry.sensors index) kind →
    (world.heard index kind = true ∧ ∃ entry, world.catalog[index]? = some entry ∧
        (world.dash.telemetry.sensors index).text kind = field (entry.text kind)) ∨
      (world.heard index kind = false ∧
        (world.dash.telemetry.sensors index).text kind = world.kept index kind)

section Step

variable {world : World} {entry : Entry} {reading : Reading} {now : UInt32}

theorem invariant_start : Invariant {} := by
  refine ⟨by decide, nofun, fun index kind marked => absurd marked not_marked_blank⟩

theorem frame_numbers {index sensors : Nat} (inside : index < sensors) (fits : sensors ≤ kMaxSensors.toNat) :
    0 < UInt8.ofNat sensors ∧ UInt8.ofNat sensors ≤ kMaxSensors ∧ UInt8.ofNat index < UInt8.ofNat sensors ∧
      (UInt8.ofNat index).toNat = index := by
  have most : kMaxSensors.toNat = 8 := rfl
  have zero : (0 : UInt8).toNat = 0 := rfl
  simp only [UInt8.lt_iff_toNat_lt, UInt8.le_iff_toNat_le, UInt8.toNat_ofNat', most, zero]
  refine ⟨?_, ?_, ?_, ?_⟩ <;> omega

theorem Invariant.resized (inv : Invariant world) (count : UInt8) :
    Invariant { world with dash := { world.dash with telemetry := world.dash.telemetry.resized count } } := by
  refine ⟨inv.fits, fun index received => ?_, fun index kind marked => ?_⟩
  · rcases resized_cases world.dash.telemetry count index with same | blank
    · simp only [same] at received ⊢
      exact inv.received index received
    · simp only [blank] at received
      cases received
  · rcases resized_cases world.dash.telemetry count index with same | blank
    · simp only [same] at marked ⊢
      exact inv.marked index kind marked
    · simp only [blank] at marked
      exact absurd marked not_marked_blank

theorem Invariant.store (inv : Invariant world) {index : Nat} (listed : world.catalog[index]? = some entry)
    (kind : Kind) :
    Invariant { world with
      dash := { world.dash with telemetry := { world.dash.telemetry with
        sensors := Function.update world.dash.telemetry.sensors index
          ((world.dash.telemetry.sensors index).store kind (field (entry.text kind))) } }
      heard := Function.update world.heard index (Function.update (world.heard index) kind true) } := by
  refine ⟨inv.fits, fun other received => ?_, fun other mine marked => ?_⟩
  · by_cases same : other = index
    · subst same
      simp only [Function.update_self] at received ⊢
      obtain ⟨before, value⟩ := store_received received
      rw [value]
      exact inv.received other before
    · simp only [Function.update_of_ne same] at received ⊢
      exact inv.received other received
  · by_cases same : other = index
    · subst same
      simp only [Function.update_self] at marked ⊢
      rcases store_cases marked with ⟨rfl, stored⟩ | ⟨differs, before, kept⟩
      · exact .inl ⟨Function.update_self .., entry, listed, stored⟩
      · rw [kept, Function.update_of_ne differs]
        exact inv.marked other mine before
    · simp only [Function.update_of_ne same] at marked ⊢
      exact inv.marked other mine marked

theorem Invariant.measure (inv : Invariant world) {index : Nat} (inside : index < world.catalog.length)
    {bits : UInt32} (sampled : (index, bits) ∈ world.samples) (flag : Bool) (fault : SensorFault) (warning : Bool) :
    Invariant { world with dash := { world.dash with telemetry := { world.dash.telemetry with
      sensors := Function.update world.dash.telemetry.sensors index
        ((world.dash.telemetry.sensors index).measure bits flag fault warning now) } } } := by
  refine ⟨inv.fits, fun other received => ?_, fun other kind marked => ?_⟩
  · by_cases same : other = index
    · subst same
      simp only [Function.update_self, (measure_eq _ bits flag fault warning now .id).2.2]
      exact ⟨inside, sampled⟩
    · simp only [Function.update_of_ne same] at received ⊢
      exact inv.received other received
  · by_cases same : other = index
    · subst same
      obtain ⟨metadata, text, -⟩ :=
        measure_eq (world.dash.telemetry.sensors other) bits flag fault warning now kind
      simp only [Function.update_self, Marked, metadata, text] at marked ⊢
      exact inv.marked other kind marked
    · simp only [Function.update_of_ne same] at marked ⊢
      exact inv.marked other kind marked

theorem Invariant.deliver (inv : Invariant world) (listed : world.catalog[world.link.sensorIndex]? = some entry)
    (sampled : world.link.frameKind = kSample →
      (world.link.sensorIndex, reading.filteredValue) ∈ world.samples) :
    Invariant (world.deliver (world.link.frame entry reading world.catalog.length) now) := by
  have inside := (List.getElem?_eq_some_iff.mp listed).1
  obtain ⟨positive, bounded, below, index⟩ := frame_numbers inside inv.fits
  have cleared := inv.resized (UInt8.ofNat world.catalog.length)
  unfold World.deliver Dash.onWrite
  by_cases ready : world.dash.loggerReady = true
  · rw [if_pos ready]
    by_cases kind : world.link.frameKind = kSample
    · have sent : world.link.frame entry reading world.catalog.length = _ := if_pos kind
      rw [sent, accept_sample _ _ _ _ positive bounded below, index]
      simp only [kind, ne_eq, not_true_eq_false, decide_false, Bool.and_false, Bool.false_eq_true, if_false]
      exact cleared.measure inside (sampled kind) _ _ _
    · have sent : world.link.frame entry reading world.catalog.length = _ := if_neg kind
      rw [sent, accept_text _ _ positive bounded below, index]
      by_cases legible : Legible (Kind.ofCode world.link.frameKind) (entry.text (Kind.ofCode world.link.frameKind))
      · rw [if_pos legible]
        simp only [kind, ne_eq, not_false_eq_true, decide_true, Bool.and_true, if_true]
        exact cleared.store listed (Kind.ofCode world.link.frameKind)
      · rw [if_neg legible]
        simpa using inv
  · rw [if_neg ready]
    simpa using inv

theorem publish_cases (link : DashLink) (catalog : List Entry) (readings : Nat → Reading) (nowMs : UInt32)
    (written : Bool) :
    (link.publish catalog readings nowMs written).1 = none ∨
      ∃ entry, catalog[link.sensorIndex]? = some entry ∧
        (link.publish catalog readings nowMs written).1 =
          some (link.frame entry (readings link.sensorIndex) catalog.length) := by
  unfold DashLink.publish
  split
  · exact .inl rfl
  · split
    · exact .inl rfl
    · cases listed : catalog[link.sensorIndex]? with
      | none => exact .inl rfl
      | some entry =>
        simp only
        split
        · exact .inl rfl
        · split
          · exact .inl rfl
          · exact .inr ⟨entry, rfl, rfl⟩

theorem Invariant.publish (inv : Invariant world) (readings : Nat → Reading) (nowMs : UInt32)
    (written delivered : Bool) (now : UInt32) :
    Invariant (world.publish readings nowMs written delivered now) := by
  have relinked {world : World} (inv : Invariant world) (link : DashLink) : Invariant { world with link } :=
    ⟨inv.fits, inv.received, inv.marked⟩
  unfold World.publish
  dsimp only
  rcases publish_cases world.link world.catalog readings nowMs written with silent | ⟨entry, listed, sent⟩
  · rw [silent]
    exact relinked inv _
  · rw [sent]
    have sampled : Invariant { world with
        samples :=
          if world.link.frameKind = kSample then
            world.samples ++ [(world.link.sensorIndex, (readings world.link.sensorIndex).filteredValue)]
          else world.samples } := by
      refine ⟨inv.fits, fun index received => ?_, inv.marked⟩
      obtain ⟨inside, published⟩ := inv.received index received
      refine ⟨inside, ?_⟩
      simp only
      split
      · exact List.mem_append_left _ published
      · exact published
    apply relinked
    split
    · apply sampled.deliver listed
      intro kind
      simp only
      rw [if_pos (show world.link.frameKind = kSample from kind)]
      exact List.mem_append_right _ (List.mem_singleton_self _)
    · exact sampled

theorem Invariant.act (inv : Invariant world) (action : Action) : Invariant (world.act action) := by
  cases action with
  | connect catalog lastFrameMs =>
    refine ⟨catalog.fits, nofun, fun index kind _ => .inr ⟨rfl, ?_⟩⟩
    cases kind <;> rfl
  | handshake known => exact ⟨inv.fits, inv.received, inv.marked⟩
  | publish readings nowMs written delivered now => exact inv.publish readings nowMs written delivered now
  | disconnect =>
    refine ⟨inv.fits, nofun, fun index kind marked => ?_⟩
    rcases inv.marked index kind marked with ⟨heard, entry, listed, same⟩ | ⟨unheard, same⟩
    · exact .inl ⟨heard, entry, listed, by cases kind <;> exact same⟩
    · exact .inr ⟨unheard, by cases kind <;> exact same⟩

theorem invariant_of_reached (reached : Reached world) : Invariant world := by
  induction reached with
  | start => exact invariant_start
  | step earlier action ih => exact ih.act action

end Step

/-- What is fresh is a sample of the connected logger's sensor, and shows its texts exactly when each of
them came in this connection or was the same before. -/
theorem identified_iff (world : World) (reached : Reached world) (now : UInt32) :
    (∀ index, world.dash.fresh index now = true → Identified world index) ↔
      ∀ index, world.dash.fresh index now = true → ∀ kind, Known world index kind := by
  have inv := invariant_of_reached reached
  apply forall_congr'
  intro index
  apply imp_congr_right
  intro fresh
  simp only [Dash.fresh, Sensor.fresh, Bool.and_eq_true, beq_iff_eq] at fresh
  obtain ⟨⟨⟨-, received⟩, complete⟩, -⟩ := fresh
  obtain ⟨inside, sampled⟩ := inv.received index received
  have listed := List.getElem?_eq_getElem inside
  constructor
  · rintro ⟨entry, found, texts, -⟩ kind
    rcases inv.marked index kind (marked_of_complete complete) with ⟨heard, -⟩ | ⟨-, same⟩
    · exact .inl heard
    · exact .inr ⟨entry, found, same.symm.trans (texts kind)⟩
  · intro known
    refine ⟨_, listed, fun kind => ?_, sampled⟩
    rcases inv.marked index kind (marked_of_complete complete) with ⟨-, entry, found, same⟩ | ⟨unheard, same⟩
    · rw [listed] at found
      exact Option.some.inj found ▸ same
    · rcases known kind with heard | ⟨entry, found, before⟩
      · rw [unheard] at heard
        cases heard
      · rw [listed] at found
        rw [same, before, Option.some.inj found]

def oilPressure : Catalog := ⟨[⟨ascii "oil_pressure", ascii "Oil Pressure", ascii "bar"⟩], by decide, by decide⟩

def oilTemperature : Catalog := ⟨[⟨ascii "oil_temperature", ascii "Oil Temp", ascii "C"⟩], by decide, by decide⟩

def cycle (world : World) (catalog : Catalog) (value : UInt32) (delivered : List Bool) : World :=
  let reading : Reading := ⟨value, true, .none, false⟩
  let started := (world.act (.connect catalog 0)).act (.handshake true)
  (delivered.zipIdx.foldl (fun world step =>
    world.act (.publish (fun _ => reading) (UInt32.ofNat (100 * (step.2 + 1))) true step.1
      (UInt32.ofNat (100 * (step.2 + 1))))) started)

theorem reached_cycle {world : World} (reached : Reached world) (catalog : Catalog) (value : UInt32)
    (delivered : List Bool) : Reached (cycle world catalog value delivered) := by
  unfold cycle
  have started := (reached.step (.connect catalog 0)).step (.handshake true)
  dsimp only
  generalize (world.act (.connect catalog 0)).act (.handshake true) = world at started
  generalize delivered.zipIdx = steps
  induction steps generalizing world with
  | nil => exact started
  | cons first rest ih => exact ih _ (started.step _)

/-- The second logger's texts are lost, but not its sample: it is shown as oil pressure. -/
def mistaken : World :=
  cycle ((cycle {} oilPressure 0x40880000 [true, true, true, true]).act .disconnect) oilTemperature 0x42b40000
    [false, false, false, true]

theorem reached_mistaken : Reached mistaken :=
  reached_cycle ((reached_cycle .start _ _ _).step .disconnect) _ _ _

theorem identified_oilPressure :
    (cycle {} oilPressure 0x40880000 [true, true, true, true]).dash.fresh 0 1000 = true ∧
      Identified (cycle {} oilPressure 0x40880000 [true, true, true, true]) 0 := by
  have reached : Reached (cycle {} oilPressure 0x40880000 [true, true, true, true]) := reached_cycle .start _ _ _
  have shown : (cycle {} oilPressure 0x40880000 [true, true, true, true]).dash.fresh 0 1000 = true := by
    decide +kernel
  apply And.intro shown
  apply (identified_iff _ reached 1000).mpr _ 0 shown
  intro index fresh kind
  simp only [Dash.fresh, Sensor.fresh, Bool.and_eq_true] at fresh
  have inside := ((invariant_of_reached reached).received index fresh.1.1.2).1
  have only : (cycle {} oilPressure 0x40880000 [true, true, true, true]).catalog.length = 1 := by decide +kernel
  obtain rfl : index = 0 := by omega
  left
  cases kind <;> decide

theorem not_identified_mistaken :
    ∃ world, Reached world ∧ ∃ index now, world.dash.fresh index now = true ∧ ¬Identified world index := by
  refine ⟨mistaken, reached_mistaken, 0, 1000, by decide +kernel, ?_⟩
  rintro ⟨entry, listed, texts, -⟩
  have shown : (mistaken.dash.telemetry.sensors 0).text .id = field (ascii "oil_pressure") := by decide +kernel
  have own : mistaken.catalog[0]? = some ⟨ascii "oil_temperature", ascii "Oil Temp", ascii "C"⟩ := by rfl
  rw [own] at listed
  have same := texts .id
  rw [shown, ← Option.some.inj listed] at same
  exact absurd same (by decide)

end ApexiDevices.DashTelemetry
