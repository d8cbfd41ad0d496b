import ApexiDevices.Rotation.AppBearerRotation

set_option autoImplicit false

/-!
# Calls of the rotation store

What is durable is described against the calls so far: every call is recorded
with the memory and the keys it started from.
-/

namespace ApexiDevices.AppBearerRotation

open Device

inductive Call
  | begin
  | stage (version : UInt32) (nonce token overlapExpiresAt : String)
  | markAcknowledged
  | promoteCandidate
  | abandonCandidate

def Call.run (provisioned : Option String) (rotation : AppBearerRotation) : Call → Auth AppBearerRotation
  | .begin => do return (← AppBearerRotation.begin provisioned).2
  | .stage version nonce token overlapExpiresAt => do
    return (← rotation.stage version nonce token overlapExpiresAt).2
  | .markAcknowledged => do return (← rotation.markAcknowledged).2
  | .promoteCandidate => do return (← rotation.promoteCandidate).2
  | .abandonCandidate => rotation.abandonCandidate

structure Moment where
  call : Call
  rotation : AppBearerRotation
  stored : Slots layout

def calling (past : List Moment) (stored : Slots layout) : Slots layout :=
  { stored with writer := past.length }

/-- A boot begins; then any calls in any order. Power may fail inside every call and between two. -/
inductive Reached (provisioned : Option String) :
    List Moment → Option AppBearerRotation → Slots layout → Prop
  | fresh : Reached provisioned [] none {}
  | boot {past : List Moment} {stored last : Slots layout} {rotation : AppBearerRotation}
      (earlier : Reached provisioned past none stored)
      (run : nvs.Runs (Call.begin.run provisioned {}) (calling past stored) rotation last) :
      Reached provisioned (past ++ [⟨.begin, {}, stored⟩]) (some rotation) last
  | bootCut {past : List Moment} {stored last : Slots layout}
      (earlier : Reached provisioned past none stored)
      (cut : nvs.Cut (Call.begin.run provisioned {}) (calling past stored) last) :
      Reached provisioned (past ++ [⟨.begin, {}, stored⟩]) none last
  | call {past : List Moment} {rotation next : AppBearerRotation} {stored last : Slots layout}
      (earlier : Reached provisioned past (some rotation) stored) (call : Call)
      (run : nvs.Runs (call.run provisioned rotation) (calling past stored) next last) :
      Reached provisioned (past ++ [⟨call, rotation, stored⟩]) (some next) last
  | cut {past : List Moment} {rotation : AppBearerRotation} {stored last : Slots layout}
      (earlier : Reached provisioned past (some rotation) stored) (call : Call)
      (cut : nvs.Cut (call.run provisioned rotation) (calling past stored) last) :
      Reached provisioned (past ++ [⟨call, rotation, stored⟩]) none last
  | powerOff {past : List Moment} {rotation : AppBearerRotation} {stored : Slots layout}
      (earlier : Reached provisioned past (some rotation) stored) : Reached provisioned past none stored

def applied (stored : Slots layout) : UInt32 := (stored.value .appliedVer).getD 0

/-- A promotion was called while this candidate and its acknowledgement were durable. -/
def Acknowledged (past : List Moment) (bearer : String) : Prop :=
  ∃ moment ∈ past, moment.call = .promoteCandidate ∧
    moment.stored.value .candReady = some true ∧
    moment.stored.value .phase = some Phase.acknowledged.byte ∧
    moment.stored.value .candidate = some bearer

/-- No stage request that passes every check is older than the version already applied in NVS. -/
def Ordered (past : List Moment) : Prop :=
  ∀ moment ∈ past, ∀ version nonce token overlapExpiresAt candidate,
    moment.call = .stage version nonce token overlapExpiresAt →
    moment.rotation.accepts version nonce token overlapExpiresAt = .ok candidate →
    applied moment.stored ≤ version

structure Request where
  version : UInt32
  nonce : String
  token : String
  overlapExpiresAt : String

def Request.call (request : Request) : Call :=
  .stage request.version request.nonce request.token request.overlapExpiresAt

def StagedAt (past : List Moment) (position : Nat) (request : Request) : Prop :=
  ∃ moment, past[position]? = some moment ∧ moment.call = request.call

/-- Every part of the candidate that is still stored was written by that one call. -/
structure WrittenBy (stored : Slots layout) (position : Nat) (request : Request) : Prop where
  version : stored.stored .candVer = none ∨ stored.stored .candVer = some (request.version, position)
  nonce : stored.stored .candNonce = none ∨ stored.stored .candNonce = some (request.nonce, position)
  token : stored.stored .candidate = none ∨ stored.stored .candidate = some (request.token, position)
  expiry : stored.stored .overlapAt = none ∨
    stored.stored .overlapAt = some (request.overlapExpiresAt, position)

/-- What power losses keep true of the keys. -/
structure Durable (past : List Moment) (stored : Slots layout) : Prop where
  active : ∀ bearer, stored.value .active = some bearer → Acknowledged past bearer
  staged : stored.value .candReady = some true →
    ∃ position request, StagedAt past position request ∧ WrittenBy stored position request
  monotone : Ordered past → ∀ moment ∈ past, applied moment.stored ≤ applied stored
  ahead : Ordered past → stored.value .candReady = some true →
    ∀ version, stored.value .candVer = some version → applied stored ≤ version

/-- A candidate in memory is the durable one, phase included. -/
structure Agrees (rotation : AppBearerRotation) (stored : Slots layout) : Prop where
  ready : stored.value .candReady = some true
  version : stored.value .candVer = some rotation.version_
  nonce : stored.value .candNonce = some rotation.nonce_
  token : stored.value .candidate = some rotation.candidateBearer
  expiry : stored.value .overlapAt = some rotation.overlapExpiresAt
  phase : stored.value .phase = some rotation.phase.byte

structure Held (provisioned : Option String) (past : List Moment) (rotation : AppBearerRotation)
    (stored : Slots layout) : Prop where
  durable : Durable past stored
  active : rotation.activeBearer = provisioned.getD "" ∨ Acknowledged past rotation.activeBearer
  agrees : rotation.hasCandidate = true → Agrees rotation stored

section Durable

variable {past : List Moment} {stored : Slots layout}

theorem Acknowledged.snoc {bearer : String} (acknowledged : Acknowledged past bearer) (moment : Moment) :
    Acknowledged (past ++ [moment]) bearer := by
  obtain ⟨earlier, present, facts⟩ := acknowledged
  exact ⟨earlier, List.mem_append_left _ present, facts⟩

theorem StagedAt.snoc {position : Nat} {request : Request} (staged : StagedAt past position request)
    (moment : Moment) : StagedAt (past ++ [moment]) position request := by
  obtain ⟨earlier, found, called⟩ := staged
  refine ⟨earlier, ?_, called⟩
  rw [List.getElem?_append_left (List.getElem?_eq_some_iff.mp found).1]
  exact found

theorem Ordered.init {moment : Moment} (ordered : Ordered (past ++ [moment])) : Ordered past :=
  fun earlier present => ordered earlier (List.mem_append_left _ present)

theorem Durable.started (durable : Durable past stored) (call : Call) (rotation : AppBearerRotation) :
    Durable (past ++ [⟨call, rotation, stored⟩]) (calling past stored) where
  active bearer found := (durable.active bearer found).snoc _
  staged ready := by
    obtain ⟨position, request, staged, written⟩ := durable.staged ready
    exact ⟨position, request, staged.snoc _, ⟨written.version, written.nonce, written.token, written.expiry⟩⟩
  monotone ordered moment present := by
    rcases List.mem_append.mp present with earlier | same
    · exact durable.monotone ordered.init moment earlier
    · obtain rfl := List.mem_singleton.mp same
      exact UInt32.le_refl _
  ahead ordered ready := durable.ahead ordered.init ready

theorem Durable.opened (durable : Durable past stored) : Durable past { stored with present := true } :=
  ⟨durable.active, fun ready => by
    obtain ⟨position, request, staged, written⟩ := durable.staged ready
    exact ⟨position, request, staged, ⟨written.version, written.nonce, written.token, written.expiry⟩⟩,
    durable.monotone, durable.ahead⟩

theorem WrittenBy.remove {position : Nat} {request : Request} (written : WrittenBy stored position request)
    (key : Key) : WrittenBy (stored.remove key) position request := by
  obtain ⟨version, nonce, token, expiry⟩ := written
  cases key <;> constructor <;> simp [version, nonce, token, expiry]

theorem Durable.remove (durable : Durable past stored) {key : Key} (other : key ≠ .appliedVer) :
    Durable past (stored.remove key) := by
  have same : applied (stored.remove key) = applied stored := by
    rw [applied, applied, Slots.value_remove_ne stored (Ne.symm other)]
  have gone {kept : Key} {value : layout.Value kept} (found : (stored.remove key).value kept = some value) :
      stored.value kept = some value := by
    by_cases removed : kept = key
    · subst removed
      rw [Slots.value_remove_same stored kept] at found
      cases found
    · rwa [Slots.value_remove_ne stored removed] at found
  refine ⟨fun bearer found => durable.active bearer (gone found), fun ready => ?_, ?_, ?_⟩
  · obtain ⟨position, request, staged, written⟩ := durable.staged (gone ready)
    exact ⟨position, request, staged, written.remove key⟩
  · rw [same]
    exact durable.monotone
  · intro ordered ready version found
    rw [same]
    exact durable.ahead ordered (gone ready) version (gone found)

/-- A key outside the candidate, or any key of a candidate that is not marked ready. -/
theorem Durable.put (durable : Durable past stored) (key : Key) (value : layout.Value key)
    (inactive : key ≠ .active) (unapplied : key ≠ .appliedVer) (unready : key ≠ .candReady)
    (apart : stored.value .candReady = some true → key = .appliedNonce ∨ key = .phase) :
    Durable past (stored.put key value) := by
  have same : applied (stored.put key value) = applied stored := by
    rw [applied, applied, Slots.value_put_ne stored value (Ne.symm unapplied)]
  refine ⟨?_, ?_, ?_, ?_⟩
  · rw [Slots.value_put_ne stored value inactive.symm]
    exact durable.active
  · rw [Slots.value_put_ne stored value unready.symm]
    intro ready
    obtain ⟨position, request, staged, version, nonce, token, expiry⟩ := durable.staged ready
    refine ⟨position, request, staged, ?_⟩
    rcases apart ready with rfl | rfl <;> constructor <;> simp [version, nonce, token, expiry]
  · rw [same]
    exact durable.monotone
  · rw [same, Slots.value_put_ne stored value unready.symm]
    intro ordered ready version found
    apply durable.ahead ordered ready version
    rcases apart ready with rfl | rfl <;> simpa using found

theorem Durable.unready (durable : Durable past stored) : Durable past (stored.put .candReady false) := by
  refine ⟨?_, ?_, ?_, ?_⟩
  · simpa using durable.active
  · simp
  · simpa [applied] using durable.monotone
  · simp

/-- The last write of a stage call: every part of the candidate is in place. -/
theorem Durable.ready (durable : Durable past stored) {position : Nat} {request : Request}
    (staged : StagedAt past position request) (written : WrittenBy stored position request)
    (ahead : Ordered past → ∀ version, stored.value .candVer = some version → applied stored ≤ version) :
    Durable past (stored.put .candReady true) := by
  refine ⟨?_, fun _ => ⟨position, request, staged, ?_⟩, ?_, fun ordered _ => ?_⟩
  · simpa using durable.active
  · obtain ⟨version, nonce, token, expiry⟩ := written
    constructor <;> simp [version, nonce, token, expiry]
  · simpa [applied] using durable.monotone
  · simpa [applied] using ahead ordered

theorem Durable.promoted (durable : Durable past stored) {bearer : String}
    (acknowledged : Acknowledged past bearer) : Durable past (stored.put .active bearer) := by
  refine ⟨fun found same => ?_, fun ready => ?_, ?_, ?_⟩
  · rw [Slots.value_put_same stored Key.active] at same
    exact Option.some.inj same ▸ acknowledged
  · obtain ⟨position, request, staged, version, nonce, token, expiry⟩ :=
      durable.staged (by simpa using ready)
    refine ⟨position, request, staged, ?_⟩
    constructor <;> simp [version, nonce, token, expiry]
  · simpa [applied] using durable.monotone
  · simpa [applied] using durable.ahead

theorem Durable.applied (durable : Durable past stored) {version : UInt32}
    (ready : stored.value .candReady = some true) (candidate : stored.value .candVer = some version) :
    Durable past (stored.put .appliedVer version) := by
  have now : AppBearerRotation.applied (stored.put .appliedVer version) = version := by
    simp [AppBearerRotation.applied]
  refine ⟨?_, fun _ => ?_, fun ordered moment present => ?_, fun _ _ found same => ?_⟩
  · simpa using durable.active
  · obtain ⟨position, request, staged, version, nonce, token, expiry⟩ := durable.staged ready
    refine ⟨position, request, staged, ?_⟩
    constructor <;> simp [version, nonce, token, expiry]
  · rw [now]
    exact UInt32.le_trans (durable.monotone ordered moment present)
      (durable.ahead ordered ready version candidate)
  · have kept : stored.value .candVer = some found := by simpa using same
    rw [now, Option.some.inj (candidate.symm.trans kept)]
    exact UInt32.le_refl _

end Durable

end ApexiDevices.AppBearerRotation
