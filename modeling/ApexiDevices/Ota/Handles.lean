import ApexiDevices.Ota.Session
import ApexiDevices.Ota.SignedOtaEsp32

set_option autoImplicit false

/-!
# Handles and boot selection on the ESP32

The trace of ESP-IDF calls shows which begin a handle and a boot selection
belong to.
-/

namespace ApexiDevices.SignedOtaEsp32

open Device Esp

abbrev Trace := List Esp.Exchange

abbrev esp : Model Esp Trace := Model.recording Esp

/-- Calls that neither begin, end nor abort an update, nor select a partition. -/
def keepsUpdate : Esp.Op → Bool
  | .otaBegin _ _ | .otaEnd _ | .otaAbort _ | .setBootPartition _ => false
  | _ => true

/-- Those of them that use no handle either. -/
def reads : Esp.Op → Bool
  | .otaWrite _ _ _ => false
  | op => keepsUpdate op

def Kept (trace : Trace) : Prop := ∀ exchange ∈ trace, keepsUpdate exchange.op = true

/-- The handle came from this begin and was neither ended nor aborted since. -/
def Live (target : Partition) (handle : Handle) (trace : Trace) : Prop :=
  ∃ before bytes since, trace = before ++ ⟨.otaBegin target bytes, some handle⟩ :: since ∧ Kept since

/-- Since its begin the image ended successfully and its description was accepted. -/
def Checked (target : Partition) (trace : Trace) : Prop :=
  ∃ before bytes handle written running candidate current since,
    trace = before ++ (⟨.otaBegin target bytes, some handle⟩ :: written ++
      (⟨.otaEnd handle, true⟩ :: ⟨.partitionDescription (some target), some candidate⟩ ::
        ⟨.runningPartition, running⟩ :: ⟨.partitionDescription running, some current⟩ :: since)) ∧
      Kept written ∧ Kept since ∧ acceptable candidate current = true

def usesHandle : Esp.Op → Option Handle
  | .otaWrite handle _ _ | .otaEnd handle | .otaAbort handle => some handle
  | _ => none

/-- A handle is used between its begin and its end or abort only. -/
def Used (before : Trace) (exchange : Esp.Exchange) : Prop :=
  ∀ handle, usesHandle exchange.op = some handle → ∃ target, Live target handle before

/-- A partition is selected for boot once per begin, checked, and read as the inactive slot. -/
def Booted (before : Trace) (exchange : Esp.Exchange) : Prop :=
  ∀ partition, exchange.op = .setBootPartition partition →
    ∃ target earlier running next, partition = some target ∧ Checked target before ∧
      before = earlier ++ [⟨.runningPartition, running⟩, ⟨.nextUpdatePartition, next⟩] ∧
      inactiveOf running next = some target

structure Safe (backend : SignedOtaEsp32) (trace : Trace) : Prop where
  used : Preceded Used trace
  booted : Preceded Booted trace
  live : backend.isOpen = true → ∃ target, backend.target = some target ∧ Live target backend.handle trace
  checked : backend.verified = true → ∃ target, backend.target = some target ∧ Checked target trace
  apart : backend.isOpen = true → backend.verified = false

variable {build : Build} {backend : SignedOtaEsp32} {trace : Trace}

section Extension

theorem Kept.snoc {trace : Trace} (kept : Kept trace) {exchange : Esp.Exchange}
    (keeps : keepsUpdate exchange.op = true) : Kept (trace ++ [exchange]) := by
  intro event present
  rcases List.mem_append.mp present with earlier | same
  · exact kept event earlier
  · obtain rfl := List.mem_singleton.mp same
    exact keeps

theorem Live.snoc {target : Partition} {handle : Handle} (live : Live target handle trace)
    {exchange : Esp.Exchange} (keeps : keepsUpdate exchange.op = true) :
    Live target handle (trace ++ [exchange]) := by
  obtain ⟨before, bytes, since, rfl, kept⟩ := live
  exact ⟨before, bytes, since ++ [exchange], by simp, kept.snoc keeps⟩

theorem Checked.snoc {target : Partition} (checked : Checked target trace) {exchange : Esp.Exchange}
    (keeps : keepsUpdate exchange.op = true) : Checked target (trace ++ [exchange]) := by
  obtain ⟨before, bytes, handle, written, running, candidate, current, since, rfl, first, later, same⟩ := checked
  exact ⟨before, bytes, handle, written, running, candidate, current, since ++ [exchange], by simp,
    first, later.snoc keeps, same⟩

theorem reads_keeps {op : Esp.Op} (read : reads op = true) : keepsUpdate op = true := by
  cases op <;> first | exact read | cases read

theorem Safe.read (safe : Safe backend trace) (exchange : Esp.Exchange) (read : reads exchange.op = true) :
    Safe backend (trace ++ [exchange]) where
  used := safe.used.snoc fun handle uses => by
    cases same : exchange.op <;> simp [same, usesHandle, reads, keepsUpdate] at uses read
  booted := safe.booted.snoc fun partition selected => by
    simp [selected, reads, keepsUpdate] at read
  live isOpen := by
    obtain ⟨target, same, live⟩ := safe.live isOpen
    exact ⟨target, same, live.snoc (reads_keeps read)⟩
  checked verified := by
    obtain ⟨target, same, checked⟩ := safe.checked verified
    exact ⟨target, same, checked.snoc (reads_keeps read)⟩
  apart := safe.apart

theorem Safe.closed (safe : Safe backend trace) (target : Option Partition) :
    Safe { backend with target := target, isOpen := false, verified := false } trace :=
  ⟨safe.used, safe.booted, nofun, nofun, nofun⟩

end Extension

section Posture

abbrev Anything : Trace → Prop := fun _ => True

def Reads {α : Type} (program : Prog Esp α) : Prop :=
  ∀ {trace : Trace} {backend : SignedOtaEsp32}, Safe backend trace →
    esp.wp program (fun _ last => Safe backend last) Anything trace

theorem reads_call {op : Esp.Op} (read : reads op = true) : Reads (call op) :=
  fun safe => Model.wp_record trivial fun _ => ⟨trivial, safe.read _ read⟩

theorem reads_pure {α : Type} (value : α) : Reads (pure value : Prog Esp α) := fun safe => ⟨trivial, safe⟩

theorem Reads.bind {α β : Type} {program : Prog Esp α} {rest : α → Prog Esp β} (first : Reads program)
    (later : ∀ value, Reads (rest value)) : Reads (program >>= rest) :=
  fun safe => Model.wp_then (first safe) (fun _ same => same) fun value _ safe => later value safe

theorem reads_then {β : Type} {op : Esp.Op} {rest : Esp.Reply op → Prog Esp β} (read : reads op = true)
    (later : ∀ reply, Reads (rest reply)) : Reads (call op >>= rest) :=
  Reads.bind (reads_call read) later

theorem securePosture_reads : Reads (securePosture build) := by
  unfold securePosture
  split
  next => exact reads_pure _
  next =>
    refine reads_then (by rfl) fun keys => reads_then (by rfl) fun queue => ?_
    split
    next => exact reads_pure _
    next =>
      refine reads_then (by rfl) fun enabled => ?_
      split
      next => exact reads_pure _
      next => exact reads_then (by rfl) fun mode => reads_pure _

theorem bootState_reads : Reads bootState := by
  refine reads_then (by rfl) fun running => ?_
  cases running with
  | none => exact reads_pure _
  | some running =>
    refine reads_then (by rfl) fun state => ?_
    split <;> exact reads_pure _

theorem inactive_reads : Reads inactive :=
  reads_then (by rfl) fun _ => reads_then (by rfl) fun _ => reads_pure _

theorem inactiveCapacity_reads : Reads inactiveCapacity := by
  refine inactive_reads.bind fun next => ?_
  cases next <;> exact reads_pure _

theorem confirmHealthy_reads : Reads (confirmHealthy build) := by
  refine securePosture_reads.bind fun secure => ?_
  split
  next => exact reads_pure _
  next =>
    refine bootState_reads.bind fun boot => ?_
    split
    next => exact reads_pure _
    next => exact reads_call rfl

end Posture

section Updates

abbrev Keeps {α : Type} (answer : α × SignedOtaEsp32) (last : Trace) : Prop := Safe answer.2 last

theorem beginTarget_wp (safe : Safe backend trace) (unverified : backend.verified = false)
    (bytes : UInt32) : esp.wp (backend.beginTarget bytes) Keeps Anything trace := by
  unfold beginTarget
  cases same : backend.target with
  | none => exact ⟨trivial, safe⟩
  | some target =>
    dsimp only
    split
    next => exact ⟨trivial, safe⟩
    next =>
      refine Model.wp_bind.mpr (Model.wp_record trivial fun handle => ⟨trivial, ?_⟩)
      have used : Preceded Used (trace ++ [⟨.otaBegin target bytes, handle⟩]) := safe.used.snoc nofun
      have booted : Preceded Booted (trace ++ [⟨.otaBegin target bytes, handle⟩]) := safe.booted.snoc nofun
      have unchecked : backend.verified = true → ∃ chosen, some target = some chosen ∧
          Checked chosen (trace ++ [⟨.otaBegin target bytes, handle⟩]) := by
        intro verified
        exact absurd (unverified.symm.trans verified) nofun
      cases handle with
      | none => exact ⟨trivial, used, booted, nofun, unchecked, nofun⟩
      | some handle =>
        refine ⟨trivial, used, booted, fun _ => ⟨target, rfl, ?_⟩, unchecked, fun _ => unverified⟩
        exact ⟨trace, bytes, [], rfl, nofun⟩

theorem beginInactive_wp (safe : Safe backend trace) (bytes : UInt32) :
    esp.wp (backend.beginInactive build bytes) Keeps Anything trace := by
  unfold beginInactive
  cases isOpen : backend.isOpen with
  | true => exact ⟨trivial, safe⟩
  | false =>
    refine Model.wp_then (securePosture_reads safe) (fun _ same => same) fun secure last safe => ?_
    cases secure with
    | false => exact ⟨trivial, safe⟩
    | true =>
      refine Model.wp_then (bootState_reads safe) (fun _ same => same) fun boot last safe => ?_
      split
      next => exact ⟨trivial, safe⟩
      next =>
        refine Model.wp_then (inactive_reads safe) (fun _ same => same) fun target last safe => ?_
        apply beginTarget_wp _ rfl
        exact ⟨safe.used, safe.booted, nofun, nofun, fun _ => rfl⟩

theorem write_wp (safe : Safe backend trace) (data : Bytes) (bytes : UInt32) :
    esp.wp (backend.write data bytes) Keeps Anything trace := by
  unfold write
  cases isOpen : backend.isOpen with
  | false => exact ⟨trivial, safe⟩
  | true =>
    obtain ⟨target, same, live⟩ := safe.live isOpen
    refine Model.wp_bind.mpr (Model.wp_record trivial fun written => ⟨trivial, trivial, ?_⟩)
    refine ⟨safe.used.snoc ?_, safe.booted.snoc nofun, fun _ => ⟨target, same, live.snoc rfl⟩, ?_, safe.apart⟩
    · intro handle uses
      obtain rfl := Option.some.inj uses
      exact ⟨target, live⟩
    · intro verified
      exact absurd ((safe.apart isOpen).symm.trans verified) nofun

def Ended (target : Partition) (trace : Trace) : Prop :=
  ∃ before bytes handle written,
    trace = before ++ (⟨.otaBegin target bytes, some handle⟩ :: written ++ [⟨.otaEnd handle, true⟩]) ∧
      Kept written

theorem verifyTarget_wp (safe : Safe backend trace) (closed : backend.isOpen = false)
    {target : Partition} (same : backend.target = some target) (ended : Ended target trace) :
    esp.wp backend.verifyTarget Keeps Anything trace := by
  unfold verifyTarget
  rw [same]
  refine Model.wp_bind.mpr (Model.wp_record trivial fun candidate => ⟨trivial, ?_⟩)
  have safe := safe.read ⟨.partitionDescription (some target), candidate⟩ rfl
  cases candidate with
  | none => exact ⟨trivial, safe⟩
  | some candidate =>
    refine Model.wp_bind.mpr (Model.wp_record trivial fun running => ⟨trivial, ?_⟩)
    have safe := safe.read ⟨.runningPartition, running⟩ rfl
    refine Model.wp_bind.mpr (Model.wp_record trivial fun current => ⟨trivial, ?_⟩)
    have safe := safe.read ⟨.partitionDescription running, current⟩ rfl
    cases current with
    | none => exact ⟨trivial, safe⟩
    | some current =>
      refine ⟨trivial, safe.used, safe.booted, ?_, fun accepted => ?_, ?_⟩
      · intro isOpen
        exact absurd (closed.symm.trans isOpen) nofun
      · obtain ⟨before, bytes, handle, written, rfl, kept⟩ := ended
        refine ⟨target, rfl, before, bytes, handle, written, running, candidate, current, [], ?_, kept,
          nofun, accepted⟩
        simp
      · intro isOpen
        exact absurd (closed.symm.trans isOpen) nofun

theorem finishAndVerify_wp (safe : Safe backend trace) :
    esp.wp (backend.finishAndVerify build) Keeps Anything trace := by
  unfold finishAndVerify
  cases isOpen : backend.isOpen with
  | false => exact ⟨trivial, safe⟩
  | true =>
    refine Model.wp_then (securePosture_reads safe) (fun _ same => same) fun secure last safe => ?_
    cases secure with
    | false => exact ⟨trivial, safe⟩
    | true =>
      obtain ⟨target, same, live⟩ := safe.live isOpen
      have unverified := safe.apart isOpen
      refine Model.wp_bind.mpr (Model.wp_record trivial fun success => ⟨trivial, ?_⟩)
      have ended : Safe { backend with isOpen := false } (last ++ [⟨.otaEnd backend.handle, success⟩]) := by
        refine ⟨safe.used.snoc ?_, safe.booted.snoc nofun, nofun, ?_, nofun⟩
        · intro handle uses
          obtain rfl := Option.some.inj uses
          exact ⟨target, live⟩
        · intro verified
          exact absurd (unverified.symm.trans verified) nofun
      cases success with
      | false => exact ⟨trivial, ended⟩
      | true =>
        apply verifyTarget_wp ended rfl same
        obtain ⟨before, bytes, since, rfl, kept⟩ := live
        exact ⟨before, bytes, backend.handle, since, by simp, kept⟩

theorem selectVerified_wp (safe : Safe backend trace) :
    esp.wp (backend.selectVerified build) Keeps Anything trace := by
  unfold selectVerified
  cases verified : backend.verified with
  | false => exact ⟨trivial, safe⟩
  | true =>
    refine Model.wp_then (securePosture_reads safe) (fun _ same => same) fun secure last safe => ?_
    cases secure with
    | false => exact ⟨trivial, safe⟩
    | true =>
      refine Model.wp_then (bootState_reads safe) (fun _ same => same) fun boot last safe => ?_
      split
      next => exact ⟨trivial, safe⟩
      next =>
        -- The slot is read right before the selection.
        refine Model.wp_bind.mpr (Model.wp_bind.mpr (Model.wp_record trivial fun running => ⟨trivial, ?_⟩))
        have safe := safe.read ⟨.runningPartition, running⟩ rfl
        refine Model.wp_bind.mpr (Model.wp_record trivial fun next => ⟨trivial, trivial, ?_⟩)
        have safe := safe.read ⟨.nextUpdatePartition, next⟩ rfl
        unfold bootTarget
        beta_reduce
        split
        next => exact ⟨trivial, safe⟩
        next current =>
          have current : backend.target = inactiveOf running next := by simpa using current
          obtain ⟨target, same, checked⟩ := safe.checked verified
          refine Model.wp_bind.mpr (Model.wp_record trivial fun selected => ⟨trivial, trivial, ?_⟩)
          refine ⟨safe.used.snoc nofun, safe.booted.snoc ?_, ?_, nofun, fun _ => rfl⟩
          · intro partition chosen
            obtain rfl := Esp.Op.setBootPartition.inj chosen
            exact ⟨target, last, running, next, same, checked, by simp, current.symm.trans same⟩
          · intro isOpen
            exact absurd ((safe.apart isOpen).symm.trans verified) nofun

theorem abort_wp (safe : Safe backend trace) : esp.wp backend.abort Safe Anything trace := by
  unfold abort
  cases isOpen : backend.isOpen with
  | false => exact ⟨trivial, safe.closed backend.target⟩
  | true =>
    obtain ⟨target, same, live⟩ := safe.live isOpen
    refine Model.wp_bind.mpr (Model.wp_record trivial fun _ => ⟨trivial, trivial, ?_⟩)
    refine ⟨safe.used.snoc ?_, safe.booted.snoc nofun, nofun, nofun, nofun⟩
    intro handle uses
    obtain rfl := Option.some.inj uses
    exact ⟨target, live⟩

end Updates

theorem implement_wp (safe : Safe backend trace) (op : SignedOtaBackend.Op) :
    esp.wp (backend.implement build op) Keeps Anything trace := by
  cases op with
  | securePosture =>
    exact Model.wp_then (securePosture_reads safe) (fun _ same => same) fun _ _ safe => ⟨trivial, safe⟩
  | bootState => exact Model.wp_then (bootState_reads safe) (fun _ same => same) fun _ _ safe => ⟨trivial, safe⟩
  | inactiveCapacity =>
    exact Model.wp_then (inactiveCapacity_reads safe) (fun _ same => same) fun _ _ safe => ⟨trivial, safe⟩
  | beginInactive bytes => exact beginInactive_wp safe bytes
  | write data bytes => exact write_wp safe data bytes
  | finishAndVerify => exact finishAndVerify_wp safe
  | selectVerified => exact selectVerified_wp safe
  | abort => exact Model.wp_then (abort_wp safe) (fun _ same => same) fun _ _ safe => ⟨trivial, safe⟩
  | confirmHealthy =>
    refine Model.wp_then ?_ (fun _ same => same) fun _ _ safe => ⟨trivial, safe⟩
    exact confirmHealthy_reads safe
  | rollbackPossible =>
    exact Model.wp_then (reads_call rfl safe) (fun _ same => same) fun _ _ safe => ⟨trivial, safe⟩
  | rollback =>
    exact Model.wp_then (reads_call rfl safe) (fun _ same => same) fun _ _ safe => ⟨trivial, safe⟩

/-- Whatever the ESP-IDF answers, the backend is one that may answer anything, and stays safe. -/
theorem implements : Model.Implements SignedOta.backend esp (fun backend => implement build backend)
    (fun _ backend trace => Safe backend trace) Anything := by
  intro above backend trace op safe
  exact Model.wp_mono (implement_wp safe op) (fun answer last safe => ⟨_, rfl, safe⟩) fun _ same => same

inductive Reached (build : Build) : SignedOta → SignedOtaEsp32 → Trace → Prop
  | fresh : Reached build {} {} []
  | call {ota next : SignedOta} {backend implemented : SignedOtaEsp32} {trace last : Trace}
      (earlier : Reached build ota backend trace) (call : SignedOta.Call)
      (run : esp.Runs ((call.run ota).through (fun backend => implement build backend) backend) trace
        (next, implemented) last) : Reached build next implemented last

theorem safe_of_reached {ota : SignedOta} (reached : Reached build ota backend trace) :
    (∃ above, SignedOta.Sound ota above) ∧ Safe backend trace := by
  induction reached with
  | fresh => exact ⟨⟨[], preceded_nil, nofun⟩, preceded_nil, preceded_nil, nofun, nofun, nofun⟩
  | call earlier call run ih =>
    obtain ⟨⟨above, sound⟩, safe⟩ := ih
    have ended := Model.wp_runs (implements.wp_through (SignedOta.call_wp sound call) safe
      fun _ _ _ _ => trivial) run
    obtain ⟨above, left, safe⟩ := ended
    exact ⟨⟨above, left.sound⟩, safe⟩

/-- A new image is selected only after a complete, secure and verified transfer, a transfer that
fails is aborted once, and on the ESP32 no handle outlives its end and no other slot is selected. -/
theorem signed_update :
    (∀ ota trace, SignedOta.Reached ota trace →
      Preceded SignedOta.Selected trace ∧ (ota.state = .receiving → ota.received ≤ ota.expected) ∧
        ∀ call next last, SignedOta.backend.Runs (SignedOta.Call.run ota call) trace next last →
          SignedOta.aborts last = SignedOta.aborts trace +
            if ota.state = .receiving ∧ next.state = .failed then 1 else 0) ∧
    (∀ build ota backend trace, Reached build ota backend trace →
      Preceded Used trace ∧ Preceded Booted trace) := by
  refine ⟨fun ota trace reached => ?_, fun build ota backend trace reached => ?_⟩
  · have sound := SignedOta.sound_of_reached reached
    refine ⟨sound.selected, fun receiving => ?_, fun call next last run => SignedOta.aborts_of_call reached run⟩
    obtain ⟨before, capacity, chunks, -, -, -, within, -⟩ := sound.transfers receiving
    exact within
  · have safe := (safe_of_reached reached).2
    exact ⟨safe.used, safe.booted⟩

section Run

def secureBuild : Build := ⟨true, true, true, true, true, true, true, true, false⟩

def runningSlot : Partition := ⟨0x10000, 0x100000, .app, .appOta0, true⟩
def inactiveSlot : Partition := ⟨0x110000, 0x100000, .app, .appOta1, true⟩
def description : AppDescription := ⟨kAppDescriptionMagicWord, 0, [1, 2, 3]⟩

def healthy : (op : Esp.Op) → Esp.Reply op
  | .findPartition _ _ => some ⟨0x9000, 4096, .data, .other, true⟩
  | .flashEncryptionMode => .release
  | .runningPartition => some runningSlot
  | .nextUpdatePartition => some inactiveSlot
  | .statePartition _ => some .valid
  | .otaBegin _ _ => some 1
  | .partitionDescription _ => some description
  | .otaAbort _ => ()
  | .secureBootEnabled | .otaWrite _ _ _ | .otaEnd _ | .setBootPartition _ | .markAppValid
  | .rollbackPossible | .markAppInvalid => true

structure Session where
  ota : SignedOta := {}
  backend : SignedOtaEsp32 := {}
  trace : Trace := []

def Session.perform (session : Session) (call : SignedOta.Call) : Session :=
  let ran := ((call.run session.ota).through (fun backend => implement secureBuild backend)
    session.backend).exec (Model.answering healthy) session.trace
  ⟨ran.1.1, ran.1.2, ran.2⟩

theorem reached_perform {session : Session}
    (reached : Reached secureBuild session.ota session.backend session.trace) (call : SignedOta.Call) :
    Reached secureBuild (session.perform call).ota (session.perform call).backend
      (session.perform call).trace :=
  .call reached call (Model.runs_answering healthy
    ((call.run session.ota).through (fun backend => implement secureBuild backend) session.backend)
    session.trace)

def updated : Session :=
  ((Session.perform {} (.begin 4)).perform (.append (some [1, 2, 3, 4]) 4)).perform .finish

theorem updated_reached : Reached secureBuild updated.ota updated.backend updated.trace := by
  apply reached_perform
  apply reached_perform
  apply reached_perform
  exact .fresh

/-- A backend on which every call succeeds. -/
def willing : (op : SignedOtaBackend.Op) → SignedOtaBackend.Reply op
  | .bootState => .valid
  | .inactiveCapacity => 0x100000
  | .abort => ()
  | .securePosture | .beginInactive _ | .write _ _ | .finishAndVerify | .selectVerified | .confirmHealthy
  | .rollbackPossible | .rollback => true

def transfer (calls : List SignedOta.Call) : SignedOta × SignedOta.Trace :=
  calls.foldl (fun state call => (call.run state.1).exec (Model.answering willing) state.2) ({}, [])

theorem transfer_reached (calls : List SignedOta.Call) : SignedOta.Reached (transfer calls).1 (transfer calls).2 := by
  have each (state : SignedOta × SignedOta.Trace) (reached : SignedOta.Reached state.1 state.2) :
      SignedOta.Reached (calls.foldl (fun state call => (call.run state.1).exec (Model.answering willing) state.2) state).1
        (calls.foldl (fun state call => (call.run state.1).exec (Model.answering willing) state.2) state).2 := by
    induction calls generalizing state with
    | nil => exact reached
    | cons call rest ih => exact ih _ (.call reached call (Model.runs_answering willing (call.run state.1) state.2))
  exact each ({}, []) .fresh

def half : SignedOta × SignedOta.Trace := transfer [.begin 4, .append (some [1, 2]) 2]

/-- The half of an image is followed by three bytes too many, which fails the transfer; the board takes a whole image. -/
theorem signed_update_updated :
    (half.1.state = .receiving ∧ half.1.received ≤ half.1.expected ∧
      SignedOta.aborts (transfer [.begin 4, .append (some [1, 2]) 2, .append (some [3, 4, 5]) 3]).2 = 1) ∧
    (Preceded SignedOta.Selected (transfer [.begin 4, .append (some [1, 2]) 2, .append (some [3, 4]) 2, .finish]).2) ∧
    updated.ota.state = .readyToReboot ∧ Preceded Used updated.trace ∧ Preceded Booted updated.trace := by
  obtain ⟨-, within, aborted⟩ := signed_update.1 half.1 half.2 (transfer_reached _)
  have receiving : half.1.state = .receiving := by decide
  have failed := aborted (.append (some [3, 4, 5]) 3) _ _ (Model.runs_answering willing _ half.2)
  refine ⟨⟨receiving, within receiving, failed.trans (by decide)⟩, ?_, by decide,
    signed_update.2 secureBuild updated.ota updated.backend updated.trace updated_reached⟩
  exact (signed_update.1 _ _ (transfer_reached _)).1

end Run

end ApexiDevices.SignedOtaEsp32
