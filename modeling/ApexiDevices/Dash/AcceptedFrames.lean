import ApexiDevices.Dash.DashTelemetry

set_option autoImplicit false

/-!
# Whatever frames arrive

The catalog stays well formed over every run of frames, and a last good reading
is that of the last good sample since the sensor was started anew.
-/

namespace ApexiDevices.DashTelemetry

open Device SystemEvents

def Printable (text : Bytes) : Prop := ∀ char ∈ text, 32 ≤ char ∧ char ≤ 126

instance (text : Bytes) : Decidable (Printable text) :=
  inferInstanceAs (Decidable (∀ char ∈ text, 32 ≤ char ∧ char ≤ 126))

structure Held (buffer : Bytes) : Prop where
  size : buffer.length = 16
  ends : buffer.getLast? = some 0
  printable : Printable (cText buffer)

structure Sensor.Sound (sensor : Sensor) : Prop where
  text : ∀ kind, Held (sensor.text kind)
  named : sensor.metadata &&& 1 ≠ 0 → cText sensor.id ≠ []

structure Model.Sound (model : Model) : Prop where
  count : model.count ≤ kMaxSensors
  sensors : ∀ index, (model.sensors index).Sound

/-! ## What a frame can do -/

def Model.replace (model : Model) (count : UInt8) (index : Nat) (change : Sensor → Sensor) : Model :=
  { model.resized count with
    sensors := Function.update (model.resized count).sensors index (change ((model.resized count).sensors index)) }

section Replace

variable (model : Model) (count : UInt8) (index : Nat) (change : Sensor → Sensor)

theorem replace_self : (model.replace count index change).sensors index = change ((model.resized count).sensors index) :=
  Function.update_self ..

theorem replace_other {other : Nat} (different : other ≠ index) :
    (model.replace count index change).sensors other = (model.resized count).sensors other :=
  Function.update_of_ne different ..

theorem resized_count : (model.resized count).count = count := by
  unfold Model.resized
  split
  · rfl
  · rename_i same
    exact not_not.mp same

theorem replace_count : (model.replace count index change).count = count := resized_count model count

theorem resized_same (same : count = model.count) : model.resized count = model := by
  rw [Model.resized, if_neg (not_not.mpr same.symm)]

theorem resized_blank (changed : count ≠ model.count) (index : Nat) : (model.resized count).sensors index = {} := by
  rw [Model.resized, if_pos changed.symm]

end Replace

def Frame.index (frame : Frame) : Nat := (frame.bytes.getD 2 0).toNat

def Frame.Good (frame : Frame) (index : Nat) : Prop :=
  frame.bytes.getD 1 0 = kSample ∧ frame.index = index ∧ frame.bytes.getD 4 0 ≠ 0 ∧
    isfinite (get32 frame.bytes 8) = true ∧ frame.bytes.getD 5 0 = SensorFault.none.code

instance (frame : Frame) (index : Nat) : Decidable (frame.Good index) := inferInstanceAs (Decidable (_ ∧ _))

inductive Taken (model : Model) (frame : Frame) (now : UInt32) : Model → Prop
  | text (kind : Kind) (value : Bytes) (code : frame.bytes.getD 1 0 = kind.code) (held : Held value)
    (named : kind = .id → cText value ≠ []) :
    Taken model frame now (model.replace (frame.bytes.getD 3 0) frame.index fun sensor => sensor.store kind value)
  | sample (code : frame.bytes.getD 1 0 = kSample) (fault : frame.bytes.getD 5 0 ≤ SensorFault.adcUnavailable.code) :
    Taken model frame now (model.replace (frame.bytes.getD 3 0) frame.index fun sensor =>
      sensor.measure (get32 frame.bytes 8) (frame.bytes.getD 4 0 ≠ 0) (SensorFault.ofCode (frame.bytes.getD 5 0))
        (frame.bytes.getD 6 0 ≠ 0) now)

theorem cText_snoc (text : Bytes) : cText (text ++ [0]) = cText text := by
  induction text with
  | nil => rfl
  | cons char text ih =>
    rw [cText] at ih ⊢
    rw [cText] at ih ⊢
    rw [List.cons_append, List.takeWhile_cons, List.takeWhile_cons, ih]

theorem held_of_taken {frame : Frame} (text : frame.bytes.getD 1 0 ≠ kSample) (taken : refused frame = false) :
    Held ((frame.bytes.drop 4).take 16) ∧
      (frame.bytes.getD 1 0 = Kind.id.code → cText ((frame.bytes.drop 4).take 16) ≠ []) := by
  unfold refused at taken
  simp only at taken
  rw [if_pos text, Bool.or_eq_false_iff, Bool.or_eq_false_iff, List.any_eq_false] at taken
  obtain ⟨⟨ended, named⟩, printable⟩ := taken
  have size := frame.size
  have last : frame.bytes.getD 19 0 = 0 := by simpa using ended
  have whole : (frame.bytes.drop 4).take 16 = (frame.bytes.drop 4).take 15 ++ [0] := by
    have element : (frame.bytes.drop 4)[15]? = some 0 := by
      rw [List.getElem?_drop, List.getElem?_eq_getElem (by omega), ← last]
      simp [size]
    rw [List.take_add_one, element]
    rfl
  rw [whole]
  refine ⟨⟨?_, ?_, ?_⟩, fun id => ?_⟩
  · simp [size]
  · simp
  · intro char member
    rw [cText_snoc] at member
    have inside := printable char member
    simp only [Bool.or_eq_true, decide_eq_true_eq, not_or, UInt8.not_lt, gt_iff_lt] at inside
    exact inside
  · have first : frame.bytes.getD 4 0 ≠ 0 := by
      intro zero
      rw [Bool.and_eq_false_iff, decide_eq_false_iff_not, decide_eq_false_iff_not] at named
      exact named.elim (fun other => other id) fun other => other zero
    have begins : (frame.bytes.drop 4).take 15 ++ [0] =
        frame.bytes.getD 4 0 :: ((frame.bytes.drop 5).take 14 ++ [0]) := by
      have inside : 4 < frame.bytes.length := by omega
      have element : frame.bytes.getD 4 0 = frame.bytes[4] := by simp [inside]
      rw [List.drop_eq_getElem_cons inside, element]
      rfl
    rw [begins, cText, List.takeWhile_cons, if_pos (by simpa using first)]
    exact List.cons_ne_nil _ _

theorem Kind.ofCode_eq {code : UInt8} (low : 1 ≤ code) (high : code ≤ kSample) (text : code ≠ kSample) :
    (Kind.ofCode code).code = code := by
  have each : ∀ value : Fin 256, 1 ≤ UInt8.ofFin value → UInt8.ofFin value ≤ kSample → UInt8.ofFin value ≠ kSample →
      (Kind.ofCode (.ofFin value)).code = .ofFin value := by
    decide +kernel
  exact each code.toFin low high text

theorem accept_cases (model : Model) (frame : Frame) (now : UInt32) :
    model.accept frame now = (false, model) ∨
      ((model.accept frame now).1 = true ∧ frame.bytes.getD 3 0 ≤ kMaxSensors ∧
        Taken model frame now (model.accept frame now).2) := by
  unfold Model.accept
  simp only
  split
  · exact .inl rfl
  rename_i header
  simp only [not_or, UInt8.not_lt, gt_iff_lt] at header
  obtain ⟨_, low, high, _, bounded, _⟩ := header
  split
  · exact .inl rfl
  rename_i taken
  have taken : refused frame = false := by simpa using taken
  refine .inr ⟨rfl, bounded, ?_⟩
  split
  · rename_i text
    obtain ⟨held, named⟩ := held_of_taken text taken
    have code := Kind.ofCode_eq low high text
    exact .text (Kind.ofCode _) _ code.symm held fun id => named (code.symm.trans (congrArg Kind.code id))
  · rename_i sample
    have sample : frame.bytes.getD 1 0 = kSample := not_not.mp sample
    refine .sample sample ?_
    unfold refused at taken
    simp only at taken
    rw [if_neg (not_not.mpr sample), Bool.or_eq_false_iff, Bool.or_eq_false_iff] at taken
    exact UInt8.not_lt.mp (of_decide_eq_false taken.1.2)

/-! ## The catalog stays well formed -/

theorem held_blank : Held (field []) := ⟨by decide, by decide, by decide⟩

theorem sound_blank : ({} : Sensor).Sound where
  text kind := by cases kind <;> exact held_blank
  named marked := absurd rfl marked

theorem Sensor.Sound.store {sensor : Sensor} (sound : sensor.Sound) {kind : Kind} {value : Bytes} (held : Held value)
    (named : kind = .id → cText value ≠ []) : (sensor.store kind value).Sound := by
  have bits : ∀ metadata : Fin 256, (UInt8.ofFin metadata ||| 2) &&& 1 = .ofFin metadata &&& 1 ∧
      (UInt8.ofFin metadata ||| 4) &&& 1 = .ofFin metadata &&& 1 := by
    decide +kernel
  cases kind with
  | id =>
    have kept : (if cText sensor.id ≠ cText value then ({} : Sensor) else sensor).Sound := by
      split
      · exact sound_blank
      · exact sound
    refine ⟨fun kind => ?_, fun _ => named rfl⟩
    cases kind with
    | id => exact held
    | name => exact kept.text .name
    | units => exact kept.text .units
  | name =>
    refine ⟨fun kind => ?_, fun marked => sound.named ((bits sensor.metadata.toFin).1 ▸ marked)⟩
    cases kind with
    | id => exact sound.text .id
    | name => exact held
    | units => exact sound.text .units
  | units =>
    refine ⟨fun kind => ?_, fun marked => sound.named ((bits sensor.metadata.toFin).2 ▸ marked)⟩
    cases kind with
    | id => exact sound.text .id
    | name => exact sound.text .name
    | units => exact held

theorem measure_texts (sensor : Sensor) (bits : UInt32) (flag : Bool) (fault : SensorFault) (warning : Bool)
    (now : UInt32) : (sensor.measure bits flag fault warning now).metadata = sensor.metadata ∧
      ∀ kind, (sensor.measure bits flag fault warning now).text kind = sensor.text kind := by
  unfold Sensor.measure
  dsimp only
  split <;> exact ⟨rfl, fun kind => by cases kind <;> rfl⟩

theorem Sensor.Sound.measure {sensor : Sensor} (sound : sensor.Sound) (bits : UInt32) (flag : Bool)
    (fault : SensorFault) (warning : Bool) (now : UInt32) : (sensor.measure bits flag fault warning now).Sound := by
  obtain ⟨metadata, texts⟩ := measure_texts sensor bits flag fault warning now
  have id : (sensor.measure bits flag fault warning now).id = sensor.id := texts .id
  exact ⟨fun kind => texts kind ▸ sound.text kind, fun marked => id ▸ sound.named (metadata ▸ marked)⟩

theorem Model.Sound.resized {model : Model} (sound : model.Sound) (count : UInt8) :
    ∀ index, ((model.resized count).sensors index).Sound := by
  unfold Model.resized
  split
  · exact fun _ => sound_blank
  · exact sound.sensors

theorem Model.Sound.replace {model : Model} (sound : model.Sound) {count : UInt8} (bounded : count ≤ kMaxSensors)
    {index : Nat} {change : Sensor → Sensor} (kept : ∀ sensor : Sensor, sensor.Sound → (change sensor).Sound) :
    (model.replace count index change).Sound := by
  refine ⟨(replace_count model count index change).symm ▸ bounded, fun other => ?_⟩
  by_cases same : other = index
  · rw [same, replace_self]
    exact kept _ (sound.resized count index)
  · rw [replace_other _ _ _ _ same]
    exact sound.resized count other

theorem Model.Sound.accept {model : Model} (sound : model.Sound) (frame : Frame) (now : UInt32) :
    (model.accept frame now).2.Sound := by
  rcases accept_cases model frame now with refused | ⟨_, bounded, taken⟩
  · rw [refused]
    exact sound
  · generalize (model.accept frame now).2 = next at taken ⊢
    cases taken with
    | text kind value code held named => exact sound.replace bounded fun sensor ok => ok.store held named
    | sample code fault => exact sound.replace bounded fun sensor ok => ok.measure _ _ _ _ _

/-! ## One frame and the last good reading -/

def Sensor.lastGood (sensor : Sensor) : Option (UInt32 × UInt32) :=
  if sensor.hasLastGood then some (sensor.lastGoodValue, sensor.lastGoodMs) else none

def Steady (index : Nat) (model next : Model) : Prop :=
  next.count = model.count ∧ cText (next.sensors index).id = cText (model.sensors index).id

theorem measure_lastGood (sensor : Sensor) (bits : UInt32) (flag : Bool) (fault : SensorFault) (warning : Bool)
    (now : UInt32) : (sensor.measure bits flag fault warning now).lastGood =
      if (flag && isfinite bits) = true ∧ fault = .none then some (bits, now) else sensor.lastGood := by
  unfold Sensor.measure
  dsimp only
  by_cases good : (flag && isfinite bits) = true ∧ fault = .none
  · rw [if_pos good, if_pos (by simp [good.1, good.2])]
    rfl
  · rw [if_neg good, if_neg (by simpa using good)]
    rfl

theorem store_lastGood (sensor : Sensor) (kind : Kind) (value : Bytes) :
    (sensor.store kind value).lastGood = sensor.lastGood ∧ cText (sensor.store kind value).id = cText sensor.id ∨
      (sensor.store kind value).lastGood = none ∧ cText (sensor.store kind value).id ≠ cText sensor.id := by
  cases kind with
  | id =>
    by_cases same : cText sensor.id = cText value
    · left
      rw [Sensor.store, if_neg (not_not.mpr same)]
      exact ⟨rfl, same.symm⟩
    · right
      rw [Sensor.store, if_pos same]
      exact ⟨rfl, Ne.symm same⟩
  | name => exact .inl ⟨rfl, rfl⟩
  | units => exact .inl ⟨rfl, rfl⟩

def Keeps (change : Sensor → Sensor) : Prop :=
  ∀ sensor : Sensor,
    (change sensor).lastGood = sensor.lastGood ∧ cText (change sensor).id = cText sensor.id ∨
      (change sensor).lastGood = none ∧ cText (change sensor).id ≠ cText sensor.id

theorem replace_lastGood {model : Model} {count : UInt8} {changed index : Nat} {change : Sensor → Sensor}
    (keeps : index = changed → Keeps change) :
    let next := model.replace count changed change
    (Steady index model next → (next.sensors index).lastGood = (model.sensors index).lastGood) ∧
      (¬Steady index model next → (next.sensors index).lastGood = none) := by
  dsimp only
  by_cases same : count = model.count
  · have counted : (model.replace count changed change).count = model.count := (replace_count ..).trans same
    by_cases here : index = changed
    · have content : (model.replace count changed change).sensors index = change (model.sensors index) := by
        rw [here, replace_self, resized_same _ _ same]
      rcases keeps here (model.sensors index) with ⟨kept, id⟩ | ⟨none, other⟩
      · exact ⟨fun _ => content ▸ kept, fun moved => absurd ⟨counted, content ▸ id⟩ moved⟩
      · exact ⟨fun steady => absurd (content ▸ steady.2) other, fun _ => content ▸ none⟩
    · have content : (model.replace count changed change).sensors index = model.sensors index := by
        rw [replace_other _ _ _ _ here, resized_same _ _ same]
      exact ⟨fun _ => content ▸ rfl, fun moved => absurd ⟨counted, content ▸ rfl⟩ moved⟩
  · -- The catalog was cleared before the change.
    have blank := resized_blank model count same index
    have none : ((model.replace count changed change).sensors index).lastGood = none := by
      by_cases here : index = changed
      · subst here
        rw [replace_self, blank]
        rcases keeps rfl {} with ⟨kept, _⟩ | ⟨none, _⟩
        · exact kept
        · exact none
      · rw [replace_other _ _ _ _ here, blank]
        rfl
    exact ⟨fun steady => absurd ((replace_count ..).symm.trans steady.1) same, fun _ => none⟩

theorem ofCode_none {code : UInt8} (known : code ≤ SensorFault.adcUnavailable.code) :
    SensorFault.ofCode code = .none ↔ code = SensorFault.none.code := by
  have each : ∀ value : Fin 256, UInt8.ofFin value ≤ SensorFault.adcUnavailable.code →
      (SensorFault.ofCode (.ofFin value) = .none ↔ UInt8.ofFin value = SensorFault.none.code) := by
    decide +kernel
  exact each code.toFin known

section Step

variable (model : Model) (frame : Frame) (now : UInt32) (index : Nat)

theorem accept_good (accepted : (model.accept frame now).1 = true) (good : frame.Good index) :
    ((model.accept frame now).2.sensors index).lastGood = some (get32 frame.bytes 8, now) := by
  obtain ⟨sample, here, flag, finite, fault⟩ := good
  rcases accept_cases model frame now with refused | ⟨_, _, taken⟩
  · rw [refused] at accepted
    cases accepted
  · generalize (model.accept frame now).2 = next at taken ⊢
    cases taken with
    | text kind value code held named => cases kind <;> exact absurd (code.symm.trans sample) (by decide)
    | sample code known =>
      rw [← here, replace_self, measure_lastGood, if_pos]
      rw [Bool.and_eq_true, decide_eq_true_eq]
      exact ⟨⟨flag, finite⟩, (ofCode_none known).mpr fault⟩

theorem accept_otherwise (other : ¬((model.accept frame now).1 = true ∧ frame.Good index)) :
    (Steady index model (model.accept frame now).2 →
      ((model.accept frame now).2.sensors index).lastGood = (model.sensors index).lastGood) ∧
    (¬Steady index model (model.accept frame now).2 → ((model.accept frame now).2.sensors index).lastGood = none) := by
  rcases accept_cases model frame now with refused | ⟨accepted, _, taken⟩
  · rw [refused]
    exact ⟨fun _ => rfl, fun moved => absurd ⟨rfl, rfl⟩ moved⟩
  · have bad : ¬frame.Good index := fun good => other ⟨accepted, good⟩
    generalize (model.accept frame now).2 = next at taken ⊢
    cases taken with
    | text kind value code held named => exact replace_lastGood fun _ sensor => store_lastGood sensor kind value
    | sample code known =>
      refine replace_lastGood fun here sensor => .inl ⟨?_, congrArg cText ((measure_texts ..).2 .id)⟩
      rw [measure_lastGood, if_neg]
      rintro ⟨flagged, fault⟩
      rw [Bool.and_eq_true, decide_eq_true_eq] at flagged
      exact bad ⟨code, here.symm, flagged.1, flagged.2, (ofCode_none known).mp fault⟩

theorem accept_other {other : Nat} (different : other ≠ frame.index)
    (same : (model.accept frame now).2.count = model.count) :
    (model.accept frame now).2.sensors other = model.sensors other := by
  rcases accept_cases model frame now with refused | ⟨_, _, taken⟩
  · rw [refused]
  · generalize (model.accept frame now).2 = next at taken same ⊢
    cases taken with
    | text | sample =>
      rw [replace_count] at same
      rw [replace_other _ _ _ _ different, resized_same _ _ same]

end Step

/-! ## Runs -/

abbrev Input : Type := Frame × UInt32

def Model.run (model : Model) (inputs : List Input) : Model :=
  inputs.foldl (fun model input => (model.accept input.1 input.2).2) model

theorem run_append (model : Model) (first second : List Input) :
    model.run (first ++ second) = (model.run first).run second :=
  List.foldl_append

theorem sound_run {model : Model} (sound : model.Sound) (inputs : List Input) : (model.run inputs).Sound := by
  induction inputs generalizing model with
  | nil => exact sound
  | cons input inputs ih => exact ih (sound.accept input.1 input.2)

def Sampled (index : Nat) (model : Model) (input : Input) : Prop :=
  (model.accept input.1 input.2).1 = true ∧ input.1.Good index

def Quiet (index : Nat) : Model → List Input → Prop
  | _, [] => True
  | model, input :: inputs =>
    Steady index model (model.accept input.1 input.2).2 ∧ ¬Sampled index model input ∧
      Quiet index (model.accept input.1 input.2).2 inputs

theorem quiet_append {index : Nat} {model : Model} {first second : List Input} :
    Quiet index model (first ++ second) ↔ Quiet index model first ∧ Quiet index (model.run first) second := by
  induction first generalizing model with
  | nil => exact (true_and _).symm ▸ Iff.rfl
  | cons input first ih =>
    rw [List.cons_append, Quiet, ih, Quiet]
    exact ⟨fun ⟨steady, other, first, second⟩ => ⟨⟨steady, other, first⟩, second⟩,
      fun ⟨⟨steady, other, first⟩, second⟩ => ⟨steady, other, first, second⟩⟩

theorem quiet_lastGood {index : Nat} {model : Model} {inputs : List Input} (quiet : Quiet index model inputs) :
    ((model.run inputs).sensors index).lastGood = (model.sensors index).lastGood := by
  induction inputs generalizing model with
  | nil => rfl
  | cons input inputs ih =>
    obtain ⟨steady, other, later⟩ := quiet
    exact (ih later).trans ((accept_otherwise model input.1 input.2 index other).1 steady)

def LastSample (index : Nat) (inputs : List Input) (reading : UInt32 × UInt32) : Prop :=
  ∃ (before : List Input) (input : Input) (after : List Input), inputs = before ++ input :: after ∧
    Sampled index (({} : Model).run before) input ∧
    Quiet index ((({} : Model).run before).accept input.1 input.2).2 after ∧
    reading = (get32 input.1.bytes 8, input.2)

theorem lastGood_iff (index : Nat) (inputs : List Input) (reading : UInt32 × UInt32) :
    ((({} : Model).run inputs).sensors index).lastGood = some reading ↔ LastSample index inputs reading := by
  constructor
  · induction inputs using List.reverseRecOn generalizing reading with
    | nil => exact fun none => nomatch none
    | append_singleton inputs input ih =>
      intro found
      have last : ({} : Model).run (inputs ++ [input]) = ((({} : Model).run inputs).accept input.1 input.2).2 :=
        run_append ..
      rw [last] at found
      by_cases sampled : Sampled index (({} : Model).run inputs) input
      · rw [accept_good _ _ _ _ sampled.1 sampled.2] at found
        exact ⟨inputs, input, [], rfl, sampled, trivial, (Option.some.inj found).symm⟩
      · obtain ⟨kept, anew⟩ := accept_otherwise _ _ _ _ sampled
        by_cases steady : Steady index (({} : Model).run inputs) ((({} : Model).run inputs).accept input.1 input.2).2
        · obtain ⟨before, sample, after, rfl, good, quiet, same⟩ := ih reading ((kept steady).symm.trans found)
          rw [run_append] at sampled steady
          exact ⟨before, sample, after ++ [input], by simp, good,
            quiet_append.mpr ⟨quiet, steady, sampled, trivial⟩, same⟩
        · rw [anew steady] at found
          cases found
  · rintro ⟨before, input, after, rfl, sampled, quiet, rfl⟩
    rw [run_append]
    exact (quiet_lastGood quiet).trans (accept_good _ _ _ _ sampled.1 sampled.2)

/-! ## The logger's own frames -/

theorem cText_field {value : Bytes} (printable : Printable value) : cText (field value) = value.take 15 := by
  have whole : (value ++ List.replicate 15 0).take 15 = value.take 15 ++ List.replicate (15 - value.length) 0 := by
    rw [List.take_append, List.take_replicate]
    simp
  have kept : ∀ char ∈ value.take 15, (decide (char ≠ 0)) = true := by
    intro char member
    have least := (printable char (List.mem_of_mem_take member)).1
    rw [decide_eq_true_eq]
    rintro rfl
    exact absurd least (by decide)
  rw [field, cText_snoc, whole, cText, List.takeWhile_append_of_pos kept]
  cases 15 - value.length <;> simp [List.replicate_succ]

theorem legible_of_printable {kind : Kind} {value : Bytes} (printable : Printable value)
    (named : kind = .id → value ≠ []) : Legible kind value := by
  have other : kind.code ≠ kSample := by cases kind <;> decide
  have ends : (text kind 0 1 value).bytes.getD 19 0 = 0 := by
    have size : ((value ++ List.replicate 15 0).take 15).length = 15 := by simp
    have part : (text kind 0 1 value).bytes.getD 19 0 = ((value ++ List.replicate 15 0).take 15 ++ [0]).getD 15 0 := rfl
    rw [part, List.getD_eq_getElem?_getD, List.getElem?_append_right (by omega), size]
    rfl
  have content : ((text kind 0 1 value).bytes.drop 4).take 15 = (value ++ List.replicate 15 0).take 15 := by
    have size : ((value ++ List.replicate 15 0).take 15).length = 15 := by simp
    exact List.take_left' size
  have chars : cText (((text kind 0 1 value).bytes.drop 4).take 15) = value.take 15 := by
    rw [content, ← cText_snoc]
    exact cText_field printable
  have filled : ¬(kind.code = Kind.id.code ∧ (text kind 0 1 value).bytes.getD 4 0 = 0) := by
    rintro ⟨id, zero⟩
    cases kind with
    | id =>
      obtain ⟨char, rest, rfl⟩ := List.exists_cons_of_ne_nil (named rfl)
      have least := (printable char List.mem_cons_self).1
      have first : (text .id 0 1 (char :: rest)).bytes.getD 4 0 = char := rfl
      rw [← first, zero] at least
      exact absurd least (by decide)
    | name | units => exact absurd id (by decide)
  have code : (text kind 0 1 value).bytes.getD 1 0 = kind.code := rfl
  rw [Legible, refused]
  simp only
  rw [if_pos (by rw [code]; exact other), Bool.or_eq_false_iff, Bool.or_eq_false_iff, List.any_eq_false, chars]
  refine ⟨⟨by simpa using ends, ?_⟩, fun char member => ?_⟩
  · rw [Bool.and_eq_false_iff, decide_eq_false_iff_not, decide_eq_false_iff_not, code]
    exact not_and_or.mp filled
  · have inside := printable char (List.mem_of_mem_take member)
    simp [inside.1, inside.2]

theorem store_text (sensor : Sensor) (kind : Kind) (value : Bytes) : (sensor.store kind value).text kind = value := by
  cases kind <;> rfl

theorem measure_value (sensor : Sensor) (bits : UInt32) (flag : Bool) (fault : SensorFault) (warning : Bool)
    (now : UInt32) : (sensor.measure bits flag fault warning now).value = bits ∧
      (sensor.measure bits flag fault warning now).valid = (flag && isfinite bits) := by
  unfold Sensor.measure
  dsimp only
  split <;> exact ⟨rfl, rfl⟩

/-- What the catalog keeps over every run of frames. -/
theorem catalog_invariant :
    (∀ (model : Model) (frame : Frame) (now : UInt32), (model.accept frame now).1 = false →
      (model.accept frame now).2 = model) ∧
    (∀ inputs : List Input, (({} : Model).run inputs).Sound) ∧
    (∀ (model : Model) (kind : Kind) (index count : UInt8) (value : Bytes) (now : UInt32), index < count →
      count ≤ kMaxSensors → Printable value → (kind = .id → value ≠ []) →
      (model.accept (text kind index count value) now).1 = true ∧
        cText (((model.accept (text kind index count value) now).2.sensors index.toNat).text kind) = value.take 15) ∧
    (∀ (model : Model) (index count : UInt8) (value : UInt32) (valid : Bool) (fault : SensorFault) (warning : Bool)
      (now : UInt32), index < count → count ≤ kMaxSensors →
      (model.accept (sample index count value valid fault warning) now).1 = true ∧
        ((model.accept (sample index count value valid fault warning) now).2.sensors index.toNat).value = value ∧
        ((model.accept (sample index count value valid fault warning) now).2.sensors index.toNat).valid =
          (valid && isfinite value)) ∧
    (∀ (index : Nat) (inputs : List Input) (reading : UInt32 × UInt32),
      ((({} : Model).run inputs).sensors index).lastGood = some reading ↔ LastSample index inputs reading) ∧
    ∀ (model : Model) (frame : Frame) (now : UInt32) (other : Nat), other ≠ frame.index →
      (model.accept frame now).2.count = model.count →
      (model.accept frame now).2.sensors other = model.sensors other := by
  refine ⟨fun model frame now rejected => ?rejected, fun inputs => sound_run ⟨by decide, fun _ => sound_blank⟩ inputs,
    fun model kind index count value now inside bounded printable named => ?text,
    fun model index count value valid fault warning now inside bounded => ?sample, lastGood_iff,
    fun model frame now other => accept_other model frame now⟩
  case rejected =>
    rcases accept_cases model frame now with refused | ⟨accepted, _⟩
    · rw [refused]
    · rw [rejected] at accepted
      cases accepted
  case text =>
    have positive : 0 < count := UInt8.lt_of_le_of_lt (UInt8.zero_le) inside
    rw [accept_text kind value positive bounded inside, if_pos (legible_of_printable printable named)]
    refine ⟨rfl, ?_⟩
    dsimp only
    rw [Function.update_self, store_text, cText_field printable]
  case sample =>
    have positive : 0 < count := UInt8.lt_of_le_of_lt (UInt8.zero_le) inside
    obtain ⟨bits, valids⟩ := measure_value ((model.resized count).sensors index.toNat) value (valid && isfinite value)
      fault warning now
    rw [accept_sample value valid fault warning positive bounded inside]
    dsimp only
    rw [Function.update_self]
    exact ⟨rfl, bits, valids.trans (by rw [Bool.and_assoc, Bool.and_self])⟩

/-- An id, a good sample of one and a half, and another id, whose sensor has none. -/
theorem catalog_invariant_oil :
    LastSample 0 [(text .id 0 1 (ascii "oil"), 0), (sample 0 1 0x3fc00000 true .none false, 5)] (0x3fc00000, 5) ∧
    ¬LastSample 0 [(text .id 0 1 (ascii "oil"), 0), (sample 0 1 0x3fc00000 true .none false, 5),
      (text .id 0 1 (ascii "air"), 9)] (0x3fc00000, 5) ∧
    cText (((({} : Model).accept (text .id 0 1 (ascii "oil")) 0).2.sensors 0).text .id) = ascii "oil" := by
  obtain ⟨_, _, texts, _, last, _⟩ := catalog_invariant
  refine ⟨(last _ _ _).mp (by decide), fun reading => ?_, ?_⟩
  · exact absurd ((last _ _ _).mpr reading) (by decide)
  · have taken : (ascii "oil").take 15 = ascii "oil" := by decide
    exact (texts {} .id 0 1 (ascii "oil") 0 (by decide) (by decide) (by decide)
      (fun _ => by decide)).2.trans taken

end ApexiDevices.DashTelemetry
