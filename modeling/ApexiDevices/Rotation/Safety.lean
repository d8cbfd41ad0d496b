import ApexiDevices.Rotation.Durable

set_option autoImplicit false

namespace ApexiDevices.AppBearerRotation

open Device

variable {provisioned : Option String} {past : List Moment} {stored : Slots layout}
  {rotation : AppBearerRotation}

theorem stagedAt_last (request : Request) :
    StagedAt (past ++ [⟨request.call, rotation, stored⟩]) past.length request :=
  ⟨_, List.getElem?_concat_length, rfl⟩

theorem boot_wp (durable : Durable past stored) :
    nvs.wp (Call.begin.run provisioned {})
      (Held provisioned (past ++ [⟨.begin, {}, stored⟩])) (Durable (past ++ [⟨.begin, {}, stored⟩]))
      (calling past stored) := by
  refine Model.wp_then (begin_wp (durable.started .begin {})) (fun _ same => same) fun answer last held => ?_
  exact ⟨held.durable, held⟩

theorem call_wp (held : Held provisioned past rotation stored) (call : Call) :
    nvs.wp (call.run provisioned rotation)
      (Held provisioned (past ++ [⟨call, rotation, stored⟩]))
      (Durable (past ++ [⟨call, rotation, stored⟩])) (calling past stored) := by
  have started := held.started call
  cases call with
  | begin =>
    refine Model.wp_then (begin_wp started.durable) (fun _ same => same) fun answer last held => ?_
    exact ⟨held.durable, held⟩
  | stage version nonce token overlapExpiresAt =>
    refine Model.wp_then (stage_wp started (stagedAt_last ⟨version, nonce, token, overlapExpiresAt⟩) ?_)
      (fun _ same => same) fun answer last held => ⟨held.durable, held⟩
    intro candidate accepted ordered
    exact ordered _ (List.mem_append_right _ (List.mem_singleton_self _)) _ _ _ _ candidate rfl accepted
  | markAcknowledged =>
    refine Model.wp_then (markAcknowledged_wp started) (fun _ same => same) fun answer last held => ?_
    exact ⟨held.durable, held⟩
  | promoteCandidate =>
    refine Model.wp_then (promoteCandidate_wp started ?_) (fun _ same => same) fun answer last held => ?_
    · intro candidate phase
      obtain ⟨ready, -, -, token, -, byte⟩ := held.agrees candidate
      rw [phase] at byte
      exact ⟨_, List.mem_append_right _ (List.mem_singleton_self _), rfl, ready, byte, token⟩
    · exact ⟨held.durable, held⟩
  | abandonCandidate =>
    refine Model.wp_then (clearCandidatePersistent_wp erasable_durable started.durable
      started.durable.opened) (fun _ same => same) fun _ last durable => ?_
    exact ⟨durable, started.cleared durable⟩

theorem held_of_reached {memory : Option AppBearerRotation}
    (reached : Reached provisioned past memory stored) :
    Durable past stored ∧ ∀ rotation, memory = some rotation → Held provisioned past rotation stored := by
  induction reached with
  | fresh =>
    refine ⟨⟨?_, ?_, ?_, ?_⟩, nofun⟩ <;> simp [Slots.value]
  | boot earlier run ih =>
    have held := Model.wp_runs (boot_wp ih.1) run
    exact ⟨held.durable, fun _ same => Option.some.inj same ▸ held⟩
  | bootCut earlier cut ih => exact ⟨Model.wp_cut (boot_wp ih.1) cut, nofun⟩
  | call earlier call run ih =>
    have held := Model.wp_runs (call_wp (ih.2 _ rfl) call) run
    exact ⟨held.durable, fun _ same => Option.some.inj same ▸ held⟩
  | cut earlier call cut ih => exact ⟨Model.wp_cut (call_wp (ih.2 _ rfl) call) cut, nofun⟩
  | powerOff earlier ih => exact ⟨ih.1, nofun⟩

/-- The four parts of the candidate in memory are in NVS, written by one stage call with them. -/
structure StagedOnce (past : List Moment) (rotation : AppBearerRotation) (stored : Slots layout)
    (position : Nat) : Prop where
  staged : StagedAt past position ⟨rotation.version_, rotation.nonce_, rotation.candidateBearer,
    rotation.overlapExpiresAt⟩
  version : stored.stored .candVer = some (rotation.version_, position)
  nonce : stored.stored .candNonce = some (rotation.nonce_, position)
  token : stored.stored .candidate = some (rotation.candidateBearer, position)
  expiry : stored.stored .overlapAt = some (rotation.overlapExpiresAt, position)

theorem written_part {key : Key} {value found : layout.Value key} {position : Nat}
    (written : stored.stored key = none ∨ stored.stored key = some (value, position))
    (read : stored.value key = some found) :
    value = found ∧ stored.stored key = some (found, position) := by
  rw [Slots.value] at read
  rcases written with absent | present
  · rw [absent] at read
    cases read
  · rw [present] at read
    obtain rfl := Option.some.inj read
    exact ⟨rfl, present⟩

theorem Held.stagedOnce (held : Held provisioned past rotation stored)
    (candidate : rotation.hasCandidate = true) : ∃ position, StagedOnce past rotation stored position := by
  obtain ⟨ready, version, nonce, token, expiry, -⟩ := held.agrees candidate
  obtain ⟨position, request, staged, written⟩ := held.durable.staged ready
  obtain ⟨sameVersion, version⟩ := written_part written.version version
  obtain ⟨sameNonce, nonce⟩ := written_part written.nonce nonce
  obtain ⟨sameToken, token⟩ := written_part written.token token
  obtain ⟨sameExpiry, expiry⟩ := written_part written.expiry expiry
  refine ⟨position, ?_, version, nonce, token, expiry⟩
  rw [← sameVersion, ← sameNonce, ← sameToken, ← sameExpiry]
  exact staged

/-- The active bearer was acknowledged before it was promoted, a candidate in memory comes from one
stage call, and the applied version never decreases while every accepted request is in order. -/
theorem rotation_is_durable (provisioned : Option String) (past : List Moment)
    (memory : Option AppBearerRotation) (stored : Slots layout)
    (reached : Reached provisioned past memory stored) :
    (∀ rotation, memory = some rotation →
      rotation.activeBearer = provisioned.getD "" ∨ Acknowledged past rotation.activeBearer) ∧
    (∀ bearer, stored.value .active = some bearer → Acknowledged past bearer) ∧
    (∀ rotation, memory = some rotation → rotation.hasCandidate = true →
      ∃ position, StagedOnce past rotation stored position) ∧
    (Ordered past → ∀ moment ∈ past, applied moment.stored ≤ applied stored) := by
  obtain ⟨durable, held⟩ := held_of_reached reached
  exact ⟨fun rotation same => (held rotation same).active, durable.active,
    fun rotation same candidate => (held rotation same).stagedOnce candidate, durable.monotone⟩

def failing (fails : Key → Bool) (slots : Slots layout) (op : PreferencesOp layout) :
    (Preferences layout).Reply op × Slots layout := slots.handle fails op

structure Running where
  past : List Moment
  rotation : AppBearerRotation
  stored : Slots layout

def boot (provisioned : Option String) : Running :=
  let ran := (Call.begin.run provisioned {}).exec (failing fun _ => false) (calling [] {})
  ⟨[⟨.begin, {}, {}⟩], ran.1, ran.2⟩

def Running.perform (running : Running) (provisioned : Option String) (call : Call)
    (fails : Key → Bool) : Running :=
  let ran := (call.run provisioned running.rotation).exec (failing fails)
    (calling running.past running.stored)
  ⟨running.past ++ [⟨call, running.rotation, running.stored⟩], ran.1, ran.2⟩

theorem reached_boot (provisioned : Option String) :
    Reached provisioned (boot provisioned).past (some (boot provisioned).rotation)
      (boot provisioned).stored :=
  .boot .fresh (Model.runs_of_handler (fun slots op => slots.device_handle _ op) _ _)

theorem reached_perform {running : Running}
    (reached : Reached provisioned running.past (some running.rotation) running.stored) (call : Call)
    (fails : Key → Bool) :
    Reached provisioned (running.perform provisioned call fails).past
      (some (running.perform provisioned call fails).rotation)
      (running.perform provisioned call fails).stored :=
  .call reached call (Model.runs_of_handler (fun slots op => slots.device_handle _ op) _ _)

def promoted (fails : Key → Bool) : Running :=
  (((boot (some "provisioned-bearer")).perform (some "provisioned-bearer")
      (.stage 7 "nonce-seven" "candidate-seven-token" "2026-10-01T00:00:00Z") fun _ => false).perform
      (some "provisioned-bearer") .markAcknowledged fun _ => false).perform
      (some "provisioned-bearer") .promoteCandidate fails

theorem reached_promoted (fails : Key → Bool) :
    Reached (some "provisioned-bearer") (promoted fails).past (some (promoted fails).rotation)
      (promoted fails).stored := by
  apply reached_perform
  apply reached_perform
  apply reached_perform
  exact reached_boot _

theorem ordered_promoted : Ordered (promoted fun _ => false).past := by
  have unapplied : ∀ moment ∈ (promoted fun _ => false).past, applied moment.stored = 0 := by
    decide
  intro moment present version nonce token overlapExpiresAt candidate _ _
  rw [unapplied moment present]
  exact UInt32.zero_le

theorem rotation_is_durable_promoted :
    ((promoted fun _ => false).rotation.activeBearer = "provisioned-bearer" ∨
      Acknowledged (promoted fun _ => false).past (promoted fun _ => false).rotation.activeBearer) ∧
    ∀ moment ∈ (promoted fun _ => false).past,
      applied moment.stored ≤ applied (promoted fun _ => false).stored := by
  obtain ⟨active, -, -, monotone⟩ := rotation_is_durable _ _ _ _ (reached_promoted fun _ => false)
  exact ⟨active _ rfl, monotone ordered_promoted⟩

/-- The promotion of version 7 loses only its last metadata write, is abandoned, and version 6 follows. -/
def reverted : Running :=
  ((((promoted (· == .appliedNonce)).perform (some "provisioned-bearer") .abandonCandidate
      fun _ => false).perform (some "provisioned-bearer")
      (.stage 6 "nonce-six-six" "candidate-six-token" "2026-10-01T00:00:00Z") fun _ => false).perform
      (some "provisioned-bearer") .markAcknowledged fun _ => false).perform
      (some "provisioned-bearer") .promoteCandidate fun _ => false

theorem applied_version_decreases :
    ∃ past memory stored, Reached (some "provisioned-bearer") past memory stored ∧
      ∃ moment ∈ past, applied stored < applied moment.stored := by
  refine ⟨reverted.past, some reverted.rotation, reverted.stored, ?_, ?_⟩
  · apply reached_perform
    apply reached_perform
    apply reached_perform
    apply reached_perform
    exact reached_promoted _
  · have present : reverted.past[4]? ≠ none := by decide
    obtain ⟨moment, found⟩ := Option.ne_none_iff_exists'.mp present
    refine ⟨moment, List.mem_of_getElem? found, ?_⟩
    have before : (reverted.past[4]?.map fun moment => applied moment.stored) = some 7 := by decide
    have after : applied reverted.stored = 6 := by decide
    rw [found, Option.map_some] at before
    rw [after, Option.some.inj before]
    decide

end ApexiDevices.AppBearerRotation
