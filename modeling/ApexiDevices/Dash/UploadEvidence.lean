import ApexiDevices.Dash.UploadStatus
import Mathlib.Data.List.Induction

set_option autoImplicit false

/-!
# What the dash may report as accepted

The tracker's status becomes a frame, the frame the dash's model, and the model
a view.
-/

namespace ApexiDevices

open Device

namespace UploadEvidence

def Unknown : UInt8 := 0
def Disabled : UInt8 := 1
def Failed : UInt8 := 2
def ServerAccepted : UInt8 := 3
def TransportSent : UInt8 := 4

structure Status where
  state : UInt8
  transport : UInt8
  ageMs : UInt32
  intervalMs : UInt32

structure Tracker where
  attempted : Bool := false
  failed : Bool := false
  succeeded : Bool := false
  successMs : UInt32 := 0

def Tracker.record (tracker : Tracker) (success : Bool) (now : UInt32) : Tracker where
  attempted := true
  failed := !success
  succeeded := success || tracker.succeeded
  successMs := if success then now else tracker.successMs

def Tracker.status (tracker : Tracker) (enabled available https : Bool) (now interval : UInt32) : Status where
  transport := if https then 1 else 2
  intervalMs := interval
  ageMs := if tracker.succeeded then now - tracker.successMs else DashUploadStatus.kNever
  state :=
    if !enabled then Disabled
    else if !available || tracker.failed then Failed
    else if !tracker.attempted then Unknown
    else if https then ServerAccepted else TransportSent

/-- Records up to a real time, with the time of the last success. -/
inductive Recorded : Tracker → Nat → Option Nat → Prop
  | start : Recorded {} 0 none
  | success {tracker : Tracker} {earlier time : Nat} {last : Option Nat} (before : Recorded tracker earlier last)
      (order : earlier ≤ time) : Recorded (tracker.record true (clock time)) time (some time)
  | failure {tracker : Tracker} {earlier time : Nat} {last : Option Nat} (before : Recorded tracker earlier last)
      (order : earlier ≤ time) : Recorded (tracker.record false (clock time)) time last

structure Tracker.Standing (tracker : Tracker) (time : Nat) (last : Option Nat) : Prop where
  succeeded : tracker.succeeded = last.isSome
  -- a state that claims a delivery has a success behind it
  claimed : tracker.attempted = true → tracker.failed = false → last.isSome = true
  past : ∀ success, last = some success → success ≤ time ∧ tracker.successMs = clock success

theorem Recorded.standing {tracker : Tracker} {time : Nat} {last : Option Nat}
    (recorded : Recorded tracker time last) : tracker.Standing time last := by
  induction recorded with
  | start => exact ⟨rfl, fun impossible => (by simp at impossible), fun _ impossible => by simp at impossible⟩
  | success before order ih =>
    refine ⟨rfl, fun _ _ => rfl, ?_⟩
    rintro success ⟨⟩
    exact ⟨Nat.le_refl _, rfl⟩
  | failure before order ih =>
    refine ⟨ih.succeeded, fun _ impossible => (by cases impossible), ?_⟩
    intro success known
    obtain ⟨past, same⟩ := ih.past success known
    exact ⟨Nat.le_trans past order, same⟩

end UploadEvidence

namespace DashLink

structure Link where
  connected : Bool
  clientConnected : Bool
  canWriteNoResponse : Bool
  lastUploadStatusMs : UInt32

def publishUploadStatus (link : Link) (status : UploadEvidence.Status) (nowMs : UInt32) :
    Option DashUploadStatus.Frame × Link :=
  if !link.connected || !link.clientConnected || !link.canWriteNoResponse ||
      nowMs - link.lastUploadStatusMs < DashUploadStatus.kPublishMs then (none, link)
  else
    (some (DashUploadStatus.encodeFields status.state status.transport status.ageMs status.intervalMs),
      { link with lastUploadStatusMs := nowMs })

end DashLink

namespace DashUploadStatus

def window (interval : UInt32) : UInt32 :=
  let v := interval.toUInt64 * 3
  if v < 5000 then 5000 else if v ≥ kNever.toUInt64 then kNever - 1 else v.toUInt32

inductive View where
  | Unknown
  | Disabled
  | Failed
  | Accepted
  | Unconfirmed
  | Stale
  deriving DecidableEq, Repr

structure Model where
  status : Status := {}
  receivedMs : UInt32 := 0
  received : Bool := false

def Model.accept (model : Model) (frame : Frame) (now : UInt32) : Bool × Model :=
  match decode frame with
  | none => (false, model)
  | some next => (true, ⟨next, now, true⟩)

def Model.age (model : Model) (now : UInt32) : UInt32 :=
  if !model.received || model.status.successAgeMs == kNever then kNever
  else
    let v := model.status.successAgeMs.toUInt64 + (now - model.receivedMs).toUInt64
    if v ≥ kNever.toUInt64 then kNever - 1 else v.toUInt32

def Model.view (model : Model) (connected : Bool) (now : UInt32) : View :=
  if !connected || !model.received then .Unknown
  else if now - model.receivedMs ≥ kStaleMs then .Stale
  else if model.status.state = .Disabled then .Disabled
  else if model.status.state = .Failed then .Failed
  else if model.status.state = .Unknown then .Unknown
  else if model.age now ≥ window model.status.expectedIntervalMs then .Stale
  else if model.status.state = .ServerAccepted then .Accepted else .Unconfirmed

def Model.receive (arrivals : List (Frame × UInt32)) : Model :=
  arrivals.foldl (fun model arrival => (model.accept arrival.1 arrival.2).2) {}

theorem window_toNat (interval : UInt32) :
    (window interval).toNat = min (max 5000 (3 * interval.toNat)) (2 ^ 32 - 2) := by
  have small := interval.toNat_lt
  have product : (interval.toUInt64 * 3).toNat = 3 * interval.toNat := by
    rw [UInt64.toNat_mul, UInt32.toNat_toUInt64]
    simp
    omega
  have never : kNever.toUInt64.toNat = 2 ^ 32 - 1 := by decide
  unfold window
  simp only [UInt64.lt_iff_toNat_lt, ge_iff_le, UInt64.le_iff_toNat_le, product, never]
  split
  · rename_i short
    have : 3 * interval.toNat < 5000 := short
    simp
    omega
  · rename_i long
    have : ¬3 * interval.toNat < 5000 := long
    split
    · simp [kNever]
      omega
    · rw [UInt64.toNat_toUInt32, product]
      omega

theorem age_toNat {model : Model} (received : model.received = true)
    (known : model.status.successAgeMs ≠ kNever) (now : UInt32) :
    (model.age now).toNat = min (model.status.successAgeMs.toNat + (now - model.receivedMs).toNat) (2 ^ 32 - 2) := by
  have reported := model.status.successAgeMs.toNat_lt
  have since := (now - model.receivedMs).toNat_lt
  have sum : (model.status.successAgeMs.toUInt64 + (now - model.receivedMs).toUInt64).toNat =
      model.status.successAgeMs.toNat + (now - model.receivedMs).toNat := by
    rw [UInt64.toNat_add, UInt32.toNat_toUInt64, UInt32.toNat_toUInt64]
    omega
  have never : kNever.toUInt64.toNat = 2 ^ 32 - 1 := by decide
  unfold Model.age
  simp only [received, known, Bool.not_true, Bool.false_or, beq_iff_eq, if_false, ge_iff_le,
    UInt64.le_iff_toNat_le, sum, never]
  split
  · simp [kNever]
    omega
  · rw [UInt64.toNat_toUInt32, sum]
    omega

theorem receive_last (arrivals : List (Frame × UInt32)) :
    ((Model.receive arrivals).received = false ∧ ∀ arrival ∈ arrivals, decode arrival.1 = none) ∨
      ∃ before arrival after, arrivals = before ++ arrival :: after ∧
        decode arrival.1 = some (Model.receive arrivals).status ∧
          (Model.receive arrivals).receivedMs = arrival.2 ∧ ∀ later ∈ after, decode later.1 = none := by
  induction arrivals using List.reverseRecOn with
  | nil => exact .inl ⟨rfl, fun _ impossible => absurd impossible (by simp)⟩
  | append_singleton arrivals last ih =>
    have next : Model.receive (arrivals ++ [last]) = ((Model.receive arrivals).accept last.1 last.2).2 := by
      simp [Model.receive]
    rw [next, Model.accept]
    cases decoded : decode last.1 with
    | some status => exact .inr ⟨arrivals, last, [], rfl, decoded, rfl, fun _ impossible => absurd impossible (by simp)⟩
    | none =>
      rcases ih with ⟨absent, rejected⟩ | ⟨before, arrival, after, rfl, accepted, at_arrival, rejected⟩
      · refine .inl ⟨absent, List.forall_mem_append.mpr ⟨rejected, ?_⟩⟩
        exact List.forall_mem_singleton.mpr decoded
      · refine .inr ⟨before, arrival, after ++ [last], by simp, accepted, at_arrival, ?_⟩
        exact List.forall_mem_append.mpr ⟨rejected, List.forall_mem_singleton.mpr decoded⟩

theorem view_accepted {model : Model} {connected : Bool} {now : UInt32}
    (accepted : model.view connected now = .Accepted) :
    connected = true ∧ model.received = true ∧ (now - model.receivedMs).toNat < 5000 ∧
      model.status.state = .ServerAccepted ∧ model.age now < window model.status.expectedIntervalMs := by
  unfold Model.view at accepted
  split at accepted
  · cases accepted
  rename_i linked
  split at accepted
  · cases accepted
  rename_i recent
  split at accepted
  · cases accepted
  split at accepted
  · cases accepted
  split at accepted
  · cases accepted
  split at accepted
  · cases accepted
  rename_i fresh
  split at accepted
  · rename_i server
    have known : connected = true ∧ model.received = true := by simpa using linked
    refine ⟨known.1, known.2, ?_, server, UInt32.not_le.mp fresh⟩
    simpa [UInt32.le_iff_toNat_le, kStaleMs] using recent
  · cases accepted

end DashUploadStatus

section Published

open UploadEvidence

variable {tracker : Tracker} {time now : Nat} {last : Option Nat}

theorem status_state (tracker : Tracker) (enabled available https : Bool) (now interval : UInt32) :
    ∃ state : DashUploadStatus.State, state.code = (tracker.status enabled available https now interval).state ∧
      (state = .ServerAccepted → https = true ∧ tracker.attempted = true ∧ tracker.failed = false) ∧
      (state = .TransportSent → https = false ∧ tracker.attempted = true ∧ tracker.failed = false) := by
  unfold Tracker.status
  by_cases off : enabled = false
  · exact ⟨.Disabled, by simp [off]; rfl, by simp, by simp⟩
  by_cases down : available = false ∨ tracker.failed = true
  · exact ⟨.Failed, by simp [off, down]; rfl, by simp, by simp⟩
  obtain ⟨up, ok⟩ := not_or.mp down
  by_cases fresh : tracker.attempted = false
  · exact ⟨.Unknown, by simp [off, up, ok, fresh]; rfl, by simp, by simp⟩
  have claimed : tracker.attempted = true ∧ tracker.failed = false := by simpa using And.intro fresh ok
  cases https with
  | true => exact ⟨.ServerAccepted, by simp [off, up, ok, fresh]; rfl, fun _ => ⟨rfl, claimed⟩, by simp⟩
  | false => exact ⟨.TransportSent, by simp [off, up, ok, fresh]; rfl, by simp, fun _ => ⟨rfl, claimed⟩⟩

theorem ageMs_known (standing : tracker.Standing time last) (order : time ≤ now)
    (near : ∀ success, last = some success → now - success < 2 ^ 32 - 1)
    (claimed : tracker.attempted = true ∧ tracker.failed = false) :
    (if tracker.succeeded then clock now - tracker.successMs else DashUploadStatus.kNever) ≠
      DashUploadStatus.kNever := by
  obtain ⟨success, known⟩ := Option.isSome_iff_exists.mp (standing.claimed claimed.1 claimed.2)
  obtain ⟨past, same⟩ := standing.past success known
  have short := near success known
  rw [if_pos (by rw [standing.succeeded, known, Option.isSome_some]), same]
  intro never
  have age := clock_sub (Nat.le_trans past order) (Nat.lt_of_lt_of_le short (by omega))
  rw [never] at age
  have : DashUploadStatus.kNever.toNat = 2 ^ 32 - 1 := by decide
  omega

/-- With a known interval and no wrap of the age, every status of the tracker is well formed. -/
theorem status_wellFormed (standing : tracker.Standing time last) (order : time ≤ now)
    (near : ∀ success, last = some success → now - success < 2 ^ 32 - 1) (enabled available https : Bool)
    {interval : UInt32} (positive : interval ≠ 0) :
    ∃ status : DashUploadStatus.Status, status.WellFormed ∧
      DashUploadStatus.encode status =
        let published := tracker.status enabled available https (clock now) interval
        DashUploadStatus.encodeFields published.state published.transport published.ageMs published.intervalMs := by
  obtain ⟨state, coded, server, transport⟩ := status_state tracker enabled available https (clock now) interval
  have aged := ageMs_known standing order near
  refine ⟨⟨state, if https then .Https else .Mqtt,
    if tracker.succeeded then clock now - tracker.successMs else DashUploadStatus.kNever, interval⟩, ?_, ?_⟩
  · refine ⟨positive, fun claims => ?_, fun claims => ?_⟩
    · obtain ⟨https, claimed⟩ := server claims
      exact ⟨if_pos https, aged claimed⟩
    · obtain ⟨https, claimed⟩ := transport claims
      exact ⟨if_neg (by simp [https]), aged claimed⟩
  · unfold DashUploadStatus.encode
    rw [coded]
    cases https <;> rfl

/-- The link carries exactly the well-formed statuses and the dash claims no more than they say. -/
theorem upload_status_exact :
    (∀ frame status, DashUploadStatus.decode frame = some status ↔
      status.WellFormed ∧ frame = DashUploadStatus.encode status) ∧
    (∀ tracker time last now, Recorded tracker time last → time ≤ now →
      (∀ success, last = some success → now - success < 2 ^ 32 - 1) →
      ∀ (enabled available https : Bool) (interval : UInt32), interval ≠ 0 →
      ∀ published, published = tracker.status enabled available https (clock now) interval →
      (∀ model at_dash, (DashUploadStatus.Model.accept model (DashUploadStatus.encodeFields published.state
        published.transport published.ageMs published.intervalMs) at_dash).1 = true) ∧
      ∀ (link : DashLink.Link) (nowMs : UInt32) (frame : DashUploadStatus.Frame),
        (DashLink.publishUploadStatus link published nowMs).1 = some frame →
        ∀ model at_dash, (DashUploadStatus.Model.accept model frame at_dash).1 = true) ∧
    ∀ (arrivals : List (DashUploadStatus.Frame × UInt32)) (connected : Bool) (now : UInt32),
      (DashUploadStatus.Model.receive arrivals).view connected now = .Accepted →
      connected = true ∧ ∃ before frame receivedMs after status,
        arrivals = before ++ (frame, receivedMs) :: after ∧ DashUploadStatus.decode frame = some status ∧
        (∀ later ∈ after, DashUploadStatus.decode later.1 = none) ∧ (now - receivedMs).toNat < 5000 ∧
        status.state = .ServerAccepted ∧
        status.successAgeMs.toNat + (now - receivedMs).toNat < max 5000 (3 * status.expectedIntervalMs.toNat) := by
  refine ⟨DashUploadStatus.decode_iff, ?_, ?_⟩
  · intro tracker time last now recorded order near enabled available https interval positive published same
    obtain ⟨status, formed, encoded⟩ :=
      status_wellFormed recorded.standing order near enabled available https positive
    have accepted (model : DashUploadStatus.Model) (at_dash : UInt32) : (model.accept (DashUploadStatus.encodeFields
        published.state published.transport published.ageMs published.intervalMs) at_dash).1 = true := by
      rw [DashUploadStatus.Model.accept, (DashUploadStatus.decode_iff _ status).mpr ⟨formed, same ▸ encoded.symm⟩]
    refine ⟨accepted, fun link nowMs frame written => ?_⟩
    unfold DashLink.publishUploadStatus at written
    split at written
    · cases written
    · obtain rfl := Option.some.inj written
      exact accepted
  · intro arrivals connected now accepted
    obtain ⟨linked, received, recent, server, fresh⟩ := DashUploadStatus.view_accepted accepted
    rcases DashUploadStatus.receive_last arrivals with ⟨absent, -⟩ | ⟨before, arrival, after, split, decoded, at_arrival, rejected⟩
    · rw [absent] at received
      cases received
    have formed := ((DashUploadStatus.decode_iff _ _).mp decoded).1
    refine ⟨linked, before, arrival.1, arrival.2, after, _, split, decoded, rejected, at_arrival ▸ recent, server, ?_⟩
    rw [UInt32.lt_iff_toNat_lt, DashUploadStatus.age_toNat received (formed.accepted server).2,
      DashUploadStatus.window_toNat, at_arrival] at fresh
    omega

end Published

/-- A delivery after five seconds, published a second later to a gauge that has its link. -/
def acceptedStatus : UploadEvidence.Status :=
  (({} : UploadEvidence.Tracker).record true (clock 5000)).status true true true (clock 6000) 10000

def gaugeLink : DashLink.Link := ⟨true, true, true, 0⟩

theorem upload_status_exact_accepted : ∃ frame, (DashLink.publishUploadStatus gaugeLink acceptedStatus 6000).1 = some frame ∧
    (∀ model at_dash, (DashUploadStatus.Model.accept model frame at_dash).1 = true) ∧
    (DashUploadStatus.Model.receive [(frame, 6000)]).view true 7000 = .Accepted ∧
    ∃ status, DashUploadStatus.decode frame = some status ∧ status.state = .ServerAccepted := by
  have recorded : UploadEvidence.Recorded _ 5000 (some 5000) := .success .start (Nat.zero_le _)
  have near (success : Nat) (known : some 5000 = some success) : 6000 - success < 2 ^ 32 - 1 := by
    obtain rfl := Option.some.inj known
    decide
  obtain ⟨frame, published⟩ : ∃ frame, (DashLink.publishUploadStatus gaugeLink acceptedStatus 6000).1 = some frame :=
    ⟨_, rfl⟩
  have view : (DashUploadStatus.Model.receive [(frame, 6000)]).view true 7000 = .Accepted := by
    obtain rfl := Option.some.inj published
    decide +kernel
  refine ⟨frame, published, ?_, view, ?_⟩
  · exact (upload_status_exact.2.1 _ _ _ 6000 recorded (by decide) near true true true 10000 (by decide) _ rfl).2
      gaugeLink 6000 frame published
  · obtain ⟨-, before, read, receivedMs, after, status, same, decoded, -, -, server, -⟩ :=
      upload_status_exact.2.2 [(frame, 6000)] true 7000 view
    have only : before = [] ∧ (frame, 6000) = (read, receivedMs) := by
      cases before with
      | nil => exact ⟨rfl, (List.cons.inj same).1⟩
      | cons first rest => simp at same
    obtain ⟨rfl, -⟩ := Prod.mk.inj only.2
    exact ⟨status, decoded, server⟩

end ApexiDevices
