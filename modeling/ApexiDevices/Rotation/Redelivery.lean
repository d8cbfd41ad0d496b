import ApexiDevices.Rotation.Safety
import ApexiDevices.Shared.Recording

set_option autoImplicit false

/-!
# A rotation delivered again

Promotion writes the active bearer, the applied version and the applied nonce
one key at a time. `Tracked` lists the states of the keys in which an accepted
request can be while it is retried.
-/

namespace ApexiDevices.AppBearerRotation

open Device

variable {provisioned : Option String} {past : List Moment} {stored last : Slots layout}
  {rotation : AppBearerRotation} {request : Request}

def Request.valid (request : Request) : Bool :=
  request.version != 0 && validSecret request.nonce kMaximumNonceLength 8 &&
    validSecret request.token kMaximumBearerLength 16 &&
    validSecret request.overlapExpiresAt kMaximumExpiryLength 20

def requested (rotation : AppBearerRotation) : Request :=
  ⟨rotation.version_, rotation.nonce_, rotation.candidateBearer, rotation.overlapExpiresAt⟩

def candidateIn (stored : Slots layout) : Request := (loading {} stored).requested

structure Loadable (stored : Slots layout) : Prop where
  ready : stored.value .candReady = some true
  valid : (loading {} stored).validCandidate ((stored.value .phase).getD 0) = true

def effective (provisioned : Option String) (stored : Slots layout) : String :=
  (({ activeBearer := provisioned.getD "" } : AppBearerRotation).restoreActive
    ((stored.value .active).getD "")).activeBearer

def appliedNonceIn (stored : Slots layout) : String := (stored.value .appliedNonce).getD ""

structure AppliedSame (stored last : Slots layout) : Prop where
  active : last.value .active = stored.value .active
  version : last.value .appliedVer = stored.value .appliedVer
  nonce : last.value .appliedNonce = stored.value .appliedNonce

/-- A namespace that was never opened for writing is empty. -/
def Written (stored : Slots layout) : Prop :=
  stored.present = true ∨ ∀ key, stored.value key = none

structure Current (provisioned : Option String) (rotation : AppBearerRotation) (stored : Slots layout) :
    Prop where
  active : rotation.activeBearer = effective provisioned stored
  version : rotation.appliedVersion = applied stored
  nonce : rotation.appliedNonce = appliedNonceIn stored

structure Coherent (provisioned : Option String) (rotation : AppBearerRotation) (stored : Slots layout) :
    Prop where
  written : Written stored
  pending : rotation.hasCandidate = true → Agrees rotation stored ∧ Loadable stored
  idle : rotation.hasCandidate = false → Current provisioned rotation stored ∧ ¬Loadable stored

/-- How far an accepted request has come: not started, a candidate, or applied. -/
def Tracked (provisioned : Option String) (request : Request) (stored : Slots layout) : Prop :=
  (¬Loadable stored ∧ request.version ≠ applied stored ∧ ¬request.version < applied stored ∧
    request.token ≠ effective provisioned stored) ∨
  (Loadable stored ∧ candidateIn stored = request ∧
    (request.version = applied stored → request.token = effective provisioned stored)) ∨
  (¬Loadable stored ∧ request.version = applied stored ∧ request.nonce = appliedNonceIn stored ∧
    request.token = effective provisioned stored)

/-- NVS has the version of the request as applied, but not its nonce. -/
def HalfApplied (request : Request) (stored : Slots layout) : Prop :=
  applied stored = request.version ∧ appliedNonceIn stored ≠ request.nonce

section Keys

theorem AppliedSame.refl (stored : Slots layout) : AppliedSame stored stored := ⟨rfl, rfl, rfl⟩

theorem AppliedSame.applied (same : AppliedSame stored last) : applied last = applied stored := by
  rw [AppBearerRotation.applied, AppBearerRotation.applied, same.version]

theorem AppliedSame.nonceIn (same : AppliedSame stored last) : appliedNonceIn last = appliedNonceIn stored := by
  rw [appliedNonceIn, appliedNonceIn, same.nonce]

theorem AppliedSame.effective (same : AppliedSame stored last) :
    effective provisioned last = effective provisioned stored := by
  rw [AppBearerRotation.effective, AppBearerRotation.effective, same.active]

theorem AppliedSame.put (same : AppliedSame stored last) (key : Key) (value : layout.Value key)
    (inactive : key ≠ .active) (unapplied : key ≠ .appliedVer) (unnoted : key ≠ .appliedNonce) :
    AppliedSame stored (last.put key value) where
  active := (last.value_put_ne value inactive.symm).trans same.active
  version := (last.value_put_ne value unapplied.symm).trans same.version
  nonce := (last.value_put_ne value unnoted.symm).trans same.nonce

theorem AppliedSame.remove (same : AppliedSame stored last) {key : Key} (inactive : key ≠ .active)
    (unapplied : key ≠ .appliedVer) (unnoted : key ≠ .appliedNonce) :
    AppliedSame stored (last.remove key) where
  active := (last.value_remove_ne inactive.symm).trans same.active
  version := (last.value_remove_ne unapplied.symm).trans same.version
  nonce := (last.value_remove_ne unnoted.symm).trans same.nonce

theorem Written.remove (written : Written stored) (key : Key) : Written (stored.remove key) := by
  apply written.imp id
  intro empty other
  by_cases same : other = key
  · subst same
    exact stored.value_remove_same other
  · rw [stored.value_remove_ne same]
    exact empty other

theorem Current.of_same (current : Current provisioned rotation stored) (same : AppliedSame stored last) :
    Current provisioned rotation last :=
  ⟨current.active.trans same.effective.symm, current.version.trans same.applied.symm,
    current.nonce.trans same.nonceIn.symm⟩

theorem not_loadable_remove (idle : ¬Loadable stored) {key : Key} : ¬Loadable (stored.remove key) := by
  intro loadable
  apply idle
  obtain ⟨ready, valid⟩ := loadable
  cases key
  case candReady => simp at ready
  case active | appliedVer | appliedNonce =>
    exact ⟨by simpa using ready, by simpa [loading] using valid⟩
  case candVer => simp [loading, validCandidate] at valid
  case candNonce => simp [loading, validCandidate, validSecret] at valid
  case candidate => simp [loading, validCandidate, validSecret] at valid
  case overlapAt => simp [loading, validCandidate, validSecret] at valid
  case phase => simp [loading, validCandidate, Phase.byte] at valid

structure Idle (stored last : Slots layout) : Prop where
  same : AppliedSame stored last
  written : Written last
  unloadable : ¬Loadable last

theorem erasable_idle : Erasable (Idle stored) := by
  intro last key inactive unapplied unnoted idle
  exact ⟨idle.same.remove inactive unapplied unnoted, idle.written.remove key,
    not_loadable_remove idle.unloadable⟩

theorem Tracked.idle (tracked : Tracked provisioned request stored) (before : ¬Loadable stored)
    (idle : Idle stored last) : Tracked provisioned request last := by
  obtain ⟨same, -, after⟩ := idle
  rcases tracked with ⟨-, fresh⟩ | ⟨loadable, -⟩ | ⟨-, done⟩
  · rw [← same.applied, ← same.effective] at fresh
    exact .inl ⟨after, fresh⟩
  · exact absurd loadable before
  · rw [← same.applied, ← same.nonceIn, ← same.effective] at done
    exact .inr (.inr ⟨after, done⟩)

/-- Only the phase, between the two of a candidate, may differ. -/
structure Rephased (stored last : Slots layout) : Prop where
  same : AppliedSame stored last
  candidate : candidateIn last = candidateIn stored
  loadable : Loadable stored ↔ Loadable last

theorem Tracked.rephased (tracked : Tracked provisioned request stored) (rephased : Rephased stored last) :
    Tracked provisioned request last := by
  obtain ⟨same, candidate, loadable⟩ := rephased
  unfold Tracked at tracked
  rw [← same.applied, ← same.nonceIn, ← same.effective, ← candidate, loadable] at tracked
  exact tracked

theorem Rephased.opened (stored : Slots layout) : Rephased stored { stored with present := true } :=
  ⟨⟨rfl, rfl, rfl⟩, rfl, ⟨fun loadable => ⟨loadable.ready, loadable.valid⟩,
    fun loadable => ⟨loadable.ready, loadable.valid⟩⟩⟩

end Keys

/-- What every call leaves, also when power fails in it: the requests it retries are still tracked. -/
structure Keeps (provisioned : Option String) (retried : Request → Prop) (stored last : Slots layout) :
    Prop where
  written : Written last
  tracked : ∀ request, retried request → Tracked provisioned request stored →
    Tracked provisioned request last

section Calls

variable {retried : Request → Prop}

theorem Keeps.refl (written : Written stored) : Keeps provisioned retried stored stored :=
  ⟨written, fun _ _ tracked => tracked⟩

theorem Keeps.opened : Keeps provisioned retried stored { stored with present := true } :=
  ⟨.inl rfl, fun _ _ tracked => tracked.rephased (.opened stored)⟩

theorem Idle.keeps (idle : Idle stored last) (before : ¬Loadable stored) :
    Keeps provisioned retried stored last :=
  ⟨idle.written, fun _ _ tracked => tracked.idle before idle⟩

theorem Idle.opened (unloadable : ¬Loadable stored) : Idle stored { stored with present := true } :=
  ⟨⟨rfl, rfl, rfl⟩, .inl rfl, fun loadable => unloadable ⟨loadable.ready, loadable.valid⟩⟩

theorem hasCandidate_of_valid (valid : rotation.requested.valid = true) (phase : rotation.phase ≠ .none) :
    rotation.hasCandidate = true := by
  simp only [Request.valid, requested, Bool.and_eq_true] at valid
  have secret := validSecret_ne (by decide) valid.1.2
  simp [hasCandidate, secret, phase]

theorem hasCandidate_loading (rotation : AppBearerRotation)
    (valid : (loading rotation stored).validCandidate ((stored.value .phase).getD 0) = true) :
    (loading rotation stored).hasCandidate = true := by
  simp only [validCandidate, Bool.and_eq_true] at valid
  apply hasCandidate_of_valid
  · simp only [Request.valid, requested, Bool.and_eq_true]
    exact valid.1
  · simp only [loading, Phase.ofByte]
    split <;> decide

theorem Coherent.failed (coherent : Coherent provisioned rotation stored) (error : String) :
    Coherent provisioned (rotation.failed error) stored where
  written := coherent.written
  pending candidate := ⟨(coherent.pending candidate).1.failed error, (coherent.pending candidate).2⟩
  idle none :=
    have ⟨⟨active, version, nonce⟩, unloadable⟩ := coherent.idle none
    ⟨⟨active, version, nonce⟩, unloadable⟩

theorem begin_tracks (written : Written stored) :
    nvs.wp (AppBearerRotation.begin provisioned)
      (fun answer last => Coherent provisioned answer.2 last ∧ Current provisioned answer.2 last ∧
        AppliedSame stored last ∧ Keeps provisioned retried stored last)
      (Keeps provisioned retried stored) stored := by
  have same : Keeps provisioned retried stored stored := .refl written
  apply Model.wp_bind.mpr
  apply Slots.wp_openReadOnly same
  cases present : stored.present with
  | false =>
    have empty : ∀ key, stored.value key = none := written.resolve_left (by simp [present])
    have current : Current provisioned
        (({ activeBearer := provisioned.getD "" } : AppBearerRotation).failed
          "credential rotation store unavailable") stored := by
      constructor <;> simp [failed, effective, applied, appliedNonceIn, empty, restoreActive]
    refine ⟨same, ⟨written, fun on => (Bool.false_ne_true on).elim, fun _ => ⟨current, ?_⟩⟩, current,
      .refl stored, same⟩
    intro loadable
    have ready := loadable.ready
    rw [empty] at ready
    cases ready
  | true =>
    apply (observes_get .active "").then
    apply (observes_get .appliedVer 0).then
    apply (observes_get .appliedNonce "").then
    apply (observes_get .candReady false).then
    generalize found : ({ ({ activeBearer := provisioned.getD "" } : AppBearerRotation).restoreActive
      ((stored.value .active).getD "") with
      appliedVersion := (stored.value .appliedVer).getD 0
      appliedNonce := (stored.value .appliedNonce).getD "" } : AppBearerRotation) = restored
    have current : Current provisioned restored stored := by
      rw [← found]
      exact ⟨rfl, rfl, rfl⟩
    have inactive : restored.phase = .none := by
      rw [← found]
      exact restoreActive_phase _ _
    -- a marked candidate is loaded if it is valid and erased otherwise
    split
    next marked =>
      have ready : stored.value .candReady = some true :=
        (found_of_getD (by simp [marked])).trans (congrArg some marked)
      apply loadCandidate_loading
      rw [checkCandidate]
      split
      next valid =>
        have candidate := hasCandidate_loading restored valid
        refine ⟨same, ⟨written, fun _ => ⟨agrees_loading ready valid, ⟨ready, valid⟩⟩, ?_⟩,
          ⟨current.active, current.version, current.nonce⟩, .refl stored, same⟩
        intro none
        exact absurd (candidate.symm.trans none) (by decide)
      next invalid =>
        have unloadable : ¬Loadable stored := fun loadable => invalid loadable.valid
        apply Model.wp_then (clearCandidatePersistent_wp erasable_idle ⟨.refl stored, written, unloadable⟩
          (.opened unloadable)) (fun last idle => idle.keeps unloadable)
        intro _ last idle
        have moved := current.of_same idle.same
        have kept : Current provisioned ((loading restored stored).clearCandidateMemory.failed
          "credential rotation record is invalid") last := ⟨moved.active, moved.version, moved.nonce⟩
        exact ⟨idle.keeps unloadable, ⟨idle.written, fun on => (Bool.false_ne_true on).elim,
          fun _ => ⟨kept, idle.unloadable⟩⟩, kept, idle.same, idle.keeps unloadable⟩
    next unmarked =>
      refine ⟨same, ⟨written, ?_, fun _ => ⟨current, ?_⟩⟩, current, .refl stored, same⟩
      · intro candidate
        simp [hasCandidate, inactive] at candidate
      · intro loadable
        rw [loadable.ready] at unmarked
        exact unmarked rfl

variable {version : UInt32} {nonce token overlapExpiresAt : String} {candidate : AppBearerRotation}

theorem accepts_facts
    (accepted : rotation.accepts version nonce token overlapExpiresAt = .ok candidate) :
    (Request.mk version nonce token overlapExpiresAt).valid = true ∧ version ≠ rotation.appliedVersion ∧
      rotation.hasCandidate = false ∧ ¬version < rotation.appliedVersion ∧ token ≠ rotation.activeBearer := by
  unfold accepts at accepted
  split at accepted
  next => cases accepted
  next valid =>
    split at accepted
    next => split at accepted <;> cases accepted
    next other =>
      split at accepted
      next => split at accepted <;> cases accepted
      next idle =>
        split at accepted
        next => cases accepted
        next newer =>
          split at accepted
          next => cases accepted
          next inactive =>
            refine ⟨by simpa [Request.valid, and_assoc] using valid, by simpa using other, by simpa using idle, newer,
              by simpa using inactive⟩

structure Busy (stored : Slots layout) (candidate : AppBearerRotation) (last : Slots layout) : Prop where
  same : AppliedSame stored last
  written : Written last
  agrees : Agrees candidate last
  loadable : Loadable last

theorem candidateIn_of_agrees (agrees : Agrees rotation stored) : candidateIn stored = rotation.requested := by
  simp [candidateIn, loading, requested, agrees.version, agrees.nonce, agrees.token, agrees.expiry]

theorem Agrees.loadable (agrees : Agrees candidate last) (valid : candidate.requested.valid = true)
    (phase : candidate.phase ≠ .none) : Loadable last := by
  refine ⟨agrees.ready, ?_⟩
  have byte : (last.value .phase).getD 0 = Phase.staged.byte ∨
      (last.value .phase).getD 0 = Phase.acknowledged.byte := by
    rw [agrees.phase, Option.getD_some]
    cases same : candidate.phase with
    | none => exact absurd same phase
    | staged => exact .inl rfl
    | acknowledged => exact .inr rfl
  have loaded : (loading {} last).requested = candidate.requested := candidateIn_of_agrees agrees
  have checked : (loading {} last).requested.valid = true := loaded ▸ valid
  simp only [validCandidate, Bool.and_eq_true, Bool.or_eq_true, beq_iff_eq]
  simp only [Request.valid, requested, Bool.and_eq_true] at checked
  exact ⟨checked, byte⟩

theorem Busy.of_agrees (same : AppliedSame stored last) (written : Written last)
    (agrees : Agrees candidate last) (valid : candidate.requested.valid = true)
    (staged : candidate.phase = .staged) : Busy stored candidate last :=
  ⟨same, written, agrees, agrees.loadable valid (by simp [staged])⟩

theorem persistCandidate_tracks (unloadable : ¬Loadable stored) (written : Written stored)
    (staged : candidate.phase = .staged) (valid : candidate.requested.valid = true) :
    nvs.wp (candidate.persistCandidate candidate.phase)
      (fun answer last => (answer = (true, candidate) ∧ Busy stored candidate last) ∨
        (answer.1 = false ∧ Idle stored last ∧ ∃ error, answer.2 = candidate.failed error))
      (fun last => Idle stored last ∨ Busy stored candidate last) stored := by
  have before : Idle stored stored := ⟨.refl stored, written, unloadable⟩
  have opened := Idle.opened unloadable
  refine Model.wp_bind.mpr (Slots.wp_open (.inl before) (.inl opened) ?_
    ⟨.inl before, .inr ⟨rfl, before, _, rfl⟩⟩)
  have start : Chain (Idle stored) { stored with present := true } true { stored with present := true } :=
    ⟨opened, fun _ => rfl⟩
  -- From the first write to the last one the candidate is not marked ready.
  have unready {last : Slots layout} (same : AppliedSame stored last) (present : last.present = true)
      (ready : last.value .candReady = some false) : Idle stored last := by
    refine ⟨same, .inl present, fun loadable => ?_⟩
    have marked := loadable.ready
    rw [ready] at marked
    cases marked
  have s₁ := opened.same.put .candReady false nofun nofun nofun
  have s₂ := s₁.put .candVer candidate.version_ nofun nofun nofun
  have s₃ := s₂.put .candNonce candidate.nonce_ nofun nofun nofun
  have s₄ := s₃.put .candidate candidate.candidateBearer nofun nofun nofun
  have s₅ := s₄.put .overlapAt candidate.overlapExpiresAt nofun nofun nofun
  have s₆ := s₅.put .phase candidate.phase.byte nofun nofun nofun
  have s₇ := s₆.put .candReady true nofun nofun nofun
  refine Model.wp_then (start.next (fun _ => .inl) (unready s₁ rfl (by simp))) (fun _ same => same)
    fun saved last chain => ?_
  refine Model.wp_then (chain.next (fun _ => .inl) (unready s₂ rfl (by simp))) (fun _ same => same)
    fun saved last chain => ?_
  refine Model.wp_then (chain.next (fun _ => .inl) (unready s₃ rfl (by simp))) (fun _ same => same)
    fun saved last chain => ?_
  refine Model.wp_then (chain.next (fun _ => .inl) (unready s₄ rfl (by simp))) (fun _ same => same)
    fun saved last chain => ?_
  refine Model.wp_then (chain.next (fun _ => .inl) (unready s₅ rfl (by simp))) (fun _ same => same)
    fun saved last chain => ?_
  refine Model.wp_then (chain.next (fun _ => .inl) (unready s₆ rfl (by simp))) (fun _ same => same)
    fun saved last chain => ?_
  refine Model.wp_bind.mpr (Slots.wp_putNext (.inl chain.1) ⟨.inl chain.1, .inr ⟨rfl, chain.1, _, rfl⟩⟩
    fun reached => ?_)
  obtain rfl := chain.2 reached
  have busy := Busy.of_agrees s₇ (.inl rfl) (by constructor <;> simp) valid staged
  exact ⟨.inr busy, .inr busy, .inl ⟨rfl, busy⟩⟩

theorem Busy.keeps (busy : Busy stored candidate last) (before : ¬Loadable stored)
    (requested : ∀ request, retried request → request = candidate.requested)
    (current : Current provisioned rotation stored) (other : candidate.version_ ≠ rotation.appliedVersion) :
    Keeps provisioned retried stored last := by
  refine ⟨busy.written, fun request same tracked => ?_⟩
  obtain rfl := requested request same
  rw [current.version] at other
  rcases tracked with ⟨-, fresh⟩ | ⟨loadable, -⟩ | ⟨-, applied, -⟩
  · refine .inr (.inl ⟨busy.loadable, candidateIn_of_agrees busy.agrees, fun applied => ?_⟩)
    rw [busy.same.applied] at applied
    exact absurd applied other
  · exact absurd loadable before
  · exact absurd applied other

/-- The calls that retry a request: a restart, the same stage call, and the two that follow it. -/
def Retries (request : Request) (call : Call) : Prop :=
  call = .begin ∨ call = request.call ∨ call = .markAcknowledged ∨ call = .promoteCandidate

theorem retries_stage {called : Request} (retries : Retries request called.call) : request = called := by
  rcases retries with impossible | same | impossible | impossible
  · cases impossible
  · cases request
    cases called
    cases same
    rfl
  · cases impossible
  · cases impossible

theorem stage_tracks (coherent : Coherent provisioned rotation stored)
    (requested : ∀ request, retried request → request = ⟨version, nonce, token, overlapExpiresAt⟩) :
    nvs.wp (rotation.stage version nonce token overlapExpiresAt)
      (fun answer last => Coherent provisioned answer.2 last ∧ Keeps provisioned retried stored last)
      (Keeps provisioned retried stored) stored := by
  have same : Keeps provisioned retried stored stored := .refl coherent.written
  unfold stage
  cases asked : rotation.accepts version nonce token overlapExpiresAt with
  | error answer =>
    obtain ⟨error, failed⟩ := accepts_error asked
    have refused : Coherent provisioned answer.2 stored := failed ▸ coherent.failed error
    exact ⟨same, refused, same⟩
  | ok candidate =>
    obtain ⟨valid, other, idle, -, -⟩ := accepts_facts asked
    obtain ⟨current, unloadable⟩ := coherent.idle idle
    have named : candidate.requested = ⟨version, nonce, token, overlapExpiresAt⟩ := accepts_ok asked ▸ rfl
    have staged : candidate.phase = .staged := accepts_ok asked ▸ rfl
    have current : Current provisioned candidate stored :=
      accepts_ok asked ▸ ⟨current.active, current.version, current.nonce⟩
    have other : candidate.version_ ≠ candidate.appliedVersion := accepts_ok asked ▸ other
    rw [← named] at valid requested
    -- the marker is written last, so a cut leaves either no candidate or this one
    apply Model.wp_then (persistCandidate_tracks unloadable coherent.written staged valid)
    case crashes =>
      rintro last (idle | busy)
      · exact idle.keeps unloadable
      · exact busy.keeps unloadable requested current other
    case next =>
      rintro ⟨saved, left⟩ last (⟨complete, busy⟩ | ⟨incomplete, idle, error, failed⟩)
      · cases complete
        have keeps := busy.keeps unloadable requested current other
        refine ⟨keeps, ⟨busy.written, fun _ => ⟨busy.agrees.failed "", busy.loadable⟩, fun none => ?_⟩, keeps⟩
        have candidate := hasCandidate_of_valid valid (by simp [staged])
        exact absurd (candidate.symm.trans none) (by decide)
      · cases incomplete
        cases failed
        have moved := current.of_same idle.same
        have keeps : Keeps provisioned retried _ _ := idle.keeps unloadable
        exact ⟨keeps, ⟨idle.written, nofun,
          fun _ => ⟨⟨moved.active, moved.version, moved.nonce⟩, idle.unloadable⟩⟩, keeps⟩

theorem Agrees.opened (agrees : Agrees rotation stored) : Agrees rotation { stored with present := true } :=
  ⟨agrees.ready, agrees.version, agrees.nonce, agrees.token, agrees.expiry, agrees.phase⟩

theorem Coherent.opened (coherent : Coherent provisioned rotation stored) :
    Coherent provisioned rotation { stored with present := true } where
  written := .inl rfl
  pending candidate :=
    have ⟨agrees, loadable⟩ := coherent.pending candidate
    ⟨agrees.opened, loadable.ready, loadable.valid⟩
  idle none :=
    have ⟨current, unloadable⟩ := coherent.idle none
    ⟨⟨current.active, current.version, current.nonce⟩, (Idle.opened unloadable).unloadable⟩

theorem rephased_acknowledged (loadable : Loadable stored) :
    Rephased stored (stored.put .phase Phase.acknowledged.byte) := by
  refine ⟨(AppliedSame.refl stored).put _ _ nofun nofun nofun, by simp [candidateIn, loading, requested], ?_⟩
  refine ⟨fun loadable => ⟨by simpa using loadable.ready, ?_⟩, fun _ => loadable⟩
  have valid := loadable.valid
  simp only [validCandidate, Bool.and_eq_true] at valid
  simpa [validCandidate, loading] using valid.1

theorem markAcknowledged_tracks (coherent : Coherent provisioned rotation stored) :
    nvs.wp rotation.markAcknowledged
      (fun answer last => Coherent provisioned answer.2 last ∧ Keeps provisioned retried stored last)
      (Keeps provisioned retried stored) stored := by
  have same : Keeps provisioned retried stored stored := .refl coherent.written
  unfold markAcknowledged
  cases candidate : rotation.hasCandidate with
  | false => exact ⟨same, coherent, same⟩
  | true =>
    have opened := coherent.opened
    have created : Keeps provisioned retried stored { stored with present := true } := .opened
    refine Model.wp_bind.mpr (Slots.wp_open same created ?_ ⟨same, coherent.failed _, same⟩)
    obtain ⟨agrees, loadable⟩ := opened.pending candidate
    have rephased := rephased_acknowledged loadable
    have marked : Keeps provisioned retried stored (Slots.put _ .phase Phase.acknowledged.byte) :=
      ⟨.inl rfl, fun request retries tracked => (created.tracked request retries tracked).rephased rephased⟩
    refine Model.wp_bind.mpr (Slots.wp_putNext created ⟨created, opened.failed _, created⟩
      fun _ => ⟨marked, marked, ⟨.inl rfl, fun _ => ⟨?_, rephased.loadable.mp loadable⟩, ?_⟩, marked⟩)
    · obtain ⟨ready, version, nonce, token, expiry, -⟩ := agrees
      constructor <;> simp [ready, version, nonce, token, expiry]
    · intro none
      simp only [hasCandidate, Bool.and_eq_true] at candidate
      simp [hasCandidate, candidate.2] at none

/-- The keys of a promotion that has made the candidate's bearer active. -/
structure Promoting (rotation : AppBearerRotation) (provisioned : Option String) (last : Slots layout) :
    Prop where
  written : Written last
  agrees : Agrees rotation last
  loadable : Loadable last
  active : effective provisioned last = rotation.candidateBearer

structure Finished (rotation : AppBearerRotation) (provisioned : Option String) (last : Slots layout) :
    Prop where
  written : Written last
  unloadable : ¬Loadable last
  version : applied last = rotation.version_
  nonce : appliedNonceIn last = rotation.nonce_
  active : effective provisioned last = rotation.candidateBearer

theorem erasable_finished : Erasable (Finished rotation provisioned) := by
  intro last key inactive unapplied unnoted finished
  have same := (AppliedSame.refl last).remove inactive unapplied unnoted
  exact ⟨finished.written.remove key, not_loadable_remove finished.unloadable,
    same.applied.trans finished.version, same.nonceIn.trans finished.nonce,
    same.effective.trans finished.active⟩

theorem Tracked.requested (tracked : Tracked provisioned request stored) (agrees : Agrees rotation stored)
    (loadable : Loadable stored) :
    rotation.requested = request ∧
      (request.version = applied stored → request.token = effective provisioned stored) := by
  rcases tracked with ⟨unloadable, -⟩ | ⟨-, same, active⟩ | ⟨unloadable, -⟩
  · exact absurd loadable unloadable
  · exact ⟨(candidateIn_of_agrees agrees).symm.trans same, active⟩
  · exact absurd loadable unloadable

theorem Promoting.keeps (promoting : Promoting rotation provisioned last) (agrees : Agrees rotation stored)
    (loadable : Loadable stored) : Keeps provisioned retried stored last := by
  refine ⟨promoting.written, fun request _ tracked => ?_⟩
  obtain ⟨rfl, -⟩ := tracked.requested agrees loadable
  exact .inr (.inl ⟨promoting.loadable, candidateIn_of_agrees promoting.agrees, fun _ => promoting.active.symm⟩)

theorem Finished.keeps (finished : Finished rotation provisioned last) (agrees : Agrees rotation stored)
    (loadable : Loadable stored) : Keeps provisioned retried stored last := by
  refine ⟨finished.written, fun request _ tracked => ?_⟩
  obtain ⟨rfl, -⟩ := tracked.requested agrees loadable
  exact .inr (.inr ⟨finished.unloadable, finished.version.symm, finished.nonce.symm, finished.active.symm⟩)

theorem Promoting.coherent (promoting : Promoting rotation provisioned last)
    (candidate : rotation.hasCandidate = true) : Coherent provisioned rotation last := by
  refine ⟨promoting.written, fun _ => ⟨promoting.agrees, promoting.loadable⟩, fun none => ?_⟩
  exact absurd (candidate.symm.trans none) (by decide)

theorem promoteCandidate_tracks (coherent : Coherent provisioned rotation stored) :
    nvs.wp rotation.promoteCandidate
      (fun answer last => Coherent provisioned answer.2 last ∧ Keeps provisioned retried stored last)
      (Keeps provisioned retried stored) stored := by
  have same : Keeps provisioned retried stored stored := .refl coherent.written
  unfold promoteCandidate
  split
  next => exact ⟨same, coherent, same⟩
  next possible =>
    simp only [Bool.or_eq_true, Bool.not_eq_eq_eq_not, Bool.not_true, bne_iff_ne, ne_eq, not_or,
      Bool.not_eq_false, Decidable.not_not] at possible
    obtain ⟨candidate, -⟩ := possible
    have opened := coherent.opened
    have created : Keeps provisioned retried stored { stored with present := true } := .opened
    refine Model.wp_bind.mpr (Slots.wp_open same created ?_ ⟨same, coherent.failed _, same⟩)
    obtain ⟨agreed, loaded⟩ := coherent.pending candidate
    have secret : rotation.candidateBearer ≠ "" := by
      simp only [hasCandidate, Bool.and_eq_true] at candidate
      intro empty
      simp [empty] at candidate
    obtain ⟨⟨ready, version, nonce, token, expiry, phase⟩, loadable⟩ := opened.pending candidate
    -- Before the bearer is written nothing has changed; from then on the candidate's is active.
    have start : Chain (fun last => Coherent provisioned rotation last ∧ Keeps provisioned retried stored last)
        { stored with present := true } true { stored with present := true } :=
      ⟨⟨opened, created⟩, fun _ => rfl⟩
    have advance {last : Slots layout} (promoting : Promoting rotation provisioned last) :
        Coherent provisioned rotation last ∧ Keeps provisioned retried stored last :=
      ⟨promoting.coherent candidate, promoting.keeps agreed loaded⟩
    refine Model.wp_then (start.next (fun _ kept => kept.2) (advance ⟨.inl rfl, ?_, ⟨?_, ?_⟩, ?_⟩))
      (fun _ same => same) fun saved last chain => ?_
    · constructor <;> simp [ready, version, nonce, token, expiry, phase]
    · simp [ready]
    · simpa [loading] using loadable.valid
    · simp [effective, restoreActive, secret]
    refine Model.wp_then (chain.next (fun _ kept => kept.2) (advance ⟨.inl rfl, ?_, ⟨?_, ?_⟩, ?_⟩))
      (fun _ same => same) fun saved last chain => ?_
    · constructor <;> simp [ready, version, nonce, token, expiry, phase]
    · simp [ready]
    · simpa [loading] using loadable.valid
    · simp [effective, restoreActive, secret]
    refine Model.wp_then (chain.next (fun _ kept => kept.2) (advance ⟨.inl rfl, ?_, ⟨?_, ?_⟩, ?_⟩))
      (fun _ same => same) fun saved last chain => ?_
    · constructor <;> simp [ready, version, nonce, token, expiry, phase]
    · simp [ready]
    · simpa [loading] using loadable.valid
    · simp [effective, restoreActive, secret]
    obtain ⟨underway, kept⟩ := chain.1
    cases saved with
    | false => exact ⟨kept, underway.failed _, kept⟩
    | true =>
      have finished : Finished rotation provisioned (last.remove .candReady) := by
        rw [chain.2 rfl]
        refine ⟨.inl rfl, fun loadable => ?_, ?_, ?_, ?_⟩
        · simpa using loadable.ready
        · simp [applied]
        · simp [appliedNonceIn]
        · simp [effective, restoreActive, secret]
      have removed : Keeps provisioned retried _ _ := finished.keeps agreed loaded
      refine Model.wp_bind.mpr (Slots.wp_remove kept removed ?_ ⟨kept, underway.failed _, kept⟩)
      have present : (last.stored .candReady).isSome = true := by
        have found := (underway.pending candidate).2.ready
        rw [Slots.value, Option.map_eq_some_iff] at found
        obtain ⟨slot, same, -⟩ := found
        rw [same]
        rfl
      rw [present]
      refine Model.wp_then (removeCandidateKeys_wp erasable_finished finished)
        (fun _ finished => finished.keeps agreed loaded) fun _ last finished => ?_
      refine ⟨finished.keeps agreed loaded, ⟨finished.written, fun on => (Bool.false_ne_true on).elim,
        fun _ => ⟨?_, finished.unloadable⟩⟩,
        finished.keeps agreed loaded⟩
      exact ⟨finished.active.symm, finished.version.symm, finished.nonce.symm⟩

end Calls

section Histories

theorem present_wp {α : Type} (program : Auth α) (present : stored.present = true) :
    nvs.wp program (fun _ => Written) Written stored := by
  induction program generalizing stored with
  | done value => exact ⟨.inl present, .inl present⟩
  | call op next ih =>
    refine ⟨.inl present, fun last torn => ?_, fun reply last step => ih reply ?_⟩
    · cases op with
      | openNamespace readOnly =>
        rcases torn with rfl | ⟨-, rfl⟩
        · exact .inl present
        · exact .inl rfl
      | get key => exact torn ▸ .inl present
      | put key value => rcases torn with rfl | rfl <;> exact .inl present
      | remove key => rcases torn with rfl | rfl <;> exact .inl present
      | clear =>
        obtain ⟨kept, rfl⟩ := torn
        exact .inl present
    · cases op with
      | openNamespace readOnly =>
        cases readOnly with
        | true => exact step.2 ▸ present
        | false =>
          cases step
          simp [present]
      | get key => exact step.2 ▸ present
      | put key value => rcases step with ⟨-, rfl⟩ | ⟨-, rfl⟩ <;> exact present
      | remove key => rcases step with ⟨-, rfl⟩ | ⟨-, rfl⟩ <;> exact present
      | clear => rcases step with ⟨-, rfl⟩ | ⟨-, kept, rfl⟩ <;> exact present

theorem opening_wp {α : Type} {rest : Bool → Auth α} (written : Written stored)
    (refused : nvs.wp (rest false) (fun _ => Written) Written stored) :
    nvs.wp (Preferences.openNamespace false >>= rest) (fun _ => Written) Written stored :=
  Model.wp_bind.mpr (Slots.wp_open written (.inl rfl) (present_wp _ rfl) refused)

theorem returning_wp {α β : Type} {program : Auth α} (result : α → β)
    (kept : nvs.wp program (fun _ => Written) Written stored) :
    nvs.wp (do return result (← program)) (fun _ => Written) Written stored :=
  Model.wp_then kept (fun _ same => same) fun _ _ written => ⟨written, written⟩

/-- The namespace is opened before the first write, whatever the memory says. -/
theorem call_written (written : Written stored) (call : Call) :
    nvs.wp (call.run provisioned rotation) (fun _ => Written) Written stored := by
  have returned {α : Type} {value : α} :
      nvs.wp (pure value : Auth α) (fun _ => Written) Written stored := ⟨written, written⟩
  cases call with
  | begin =>
    apply Model.wp_then (@begin_tracks provisioned _ (fun _ => False) written)
      (fun _ keeps => keeps.written)
    rintro answer last ⟨coherent, -⟩
    exact ⟨coherent.written, coherent.written⟩
  | stage version nonce token overlapExpiresAt =>
    apply returning_wp
    unfold stage
    split
    next => exact returned
    next candidate _ =>
      have persisted : nvs.wp (candidate.persistCandidate candidate.phase) (fun _ => Written) Written stored :=
        opening_wp written returned
      apply Model.wp_then persisted (fun _ same => same)
      rintro ⟨saved, left⟩ last written
      cases saved <;> exact ⟨written, written⟩
  | markAcknowledged =>
    apply returning_wp
    unfold markAcknowledged
    split
    next => exact returned
    next => exact opening_wp written returned
  | promoteCandidate =>
    apply returning_wp
    unfold promoteCandidate
    split
    next => exact returned
    next => exact opening_wp written returned
  | abandonCandidate => exact returning_wp _ (opening_wp written returned)

theorem call_tracks (coherent : Coherent provisioned rotation stored) (call : Call)
    (kept : call ≠ .abandonCandidate) :
    nvs.wp (call.run provisioned rotation)
      (fun next last => Coherent provisioned next last ∧ Keeps provisioned (Retries · call) stored last)
      (Keeps provisioned (Retries · call) stored) stored := by
  cases call with
  | begin =>
    apply Model.wp_then (begin_tracks coherent.written) (fun _ keeps => keeps)
    rintro answer last ⟨coherent, -, -, keeps⟩
    exact ⟨keeps, coherent, keeps⟩
  | stage version nonce token overlapExpiresAt =>
    apply Model.wp_then (stage_tracks coherent fun request => retries_stage) (fun _ keeps => keeps)
    exact fun answer last both => ⟨both.2, both⟩
  | markAcknowledged =>
    apply Model.wp_then (markAcknowledged_tracks coherent) (fun _ keeps => keeps)
    exact fun answer last both => ⟨both.2, both⟩
  | promoteCandidate =>
    apply Model.wp_then (promoteCandidate_tracks coherent) (fun _ keeps => keeps)
    exact fun answer last both => ⟨both.2, both⟩
  | abandonCandidate => exact absurd rfl kept

/-- After every abandonment the memory has been loaded again. -/
def Undisturbed (past : List Moment) : Prop :=
  ∀ before moment after, past = before ++ moment :: after → moment.call = .abandonCandidate →
    ∃ begun ∈ after, begun.call = .begin

theorem Undisturbed.append {later : List Moment} (undisturbed : Undisturbed past)
    (kept : ∀ moment ∈ later, moment.call ≠ .abandonCandidate) : Undisturbed (past ++ later) := by
  intro before moment after same abandoned
  rcases List.append_eq_append_iff.mp same with ⟨skipped, -, rfl⟩ | ⟨skipped, rfl, rest⟩
  · exact absurd abandoned (kept moment (by simp))
  · cases skipped with
    | nil => exact absurd abandoned (kept moment (by simp [← show moment :: after = later from rest]))
    | cons first skipped =>
      obtain ⟨rfl, rfl⟩ := List.cons.inj rest
      obtain ⟨begun, present, begins⟩ := undisturbed before moment skipped rfl abandoned
      exact ⟨begun, List.mem_append_left _ present, begins⟩

theorem Undisturbed.init {moment : Moment} (undisturbed : Undisturbed (past ++ [moment]))
    (running : moment.call ≠ .begin) : Undisturbed past ∧ moment.call ≠ .abandonCandidate := by
  constructor
  · intro before abandonment after same abandoned
    obtain ⟨begun, present, begins⟩ :=
      undisturbed before abandonment (after ++ [moment]) (by simp [same]) abandoned
    rcases List.mem_append.mp present with earlier | last
    · exact ⟨begun, earlier, begins⟩
    · exact absurd (List.mem_singleton.mp last ▸ begins) running
  · intro abandoned
    obtain ⟨begun, present, -⟩ := undisturbed past moment [] rfl abandoned
    cases present

/-- The request was accepted in this history, and only retried since. -/
def Delivered (request : Request) (past : List Moment) : Prop :=
  ∃ before later rotation stored candidate, past = before ++ ⟨request.call, rotation, stored⟩ :: later ∧
    Undisturbed before ∧
    rotation.accepts request.version request.nonce request.token request.overlapExpiresAt = .ok candidate ∧
    ∀ moment ∈ later, Retries request moment.call

theorem Delivered.undisturbed (delivered : Delivered request past) : Undisturbed past := by
  obtain ⟨before, later, rotation, stored, candidate, rfl, undisturbed, -, retried⟩ := delivered
  apply undisturbed.append
  intro moment present abandoned
  rcases List.mem_cons.mp present with rfl | after
  · cases abandoned
  · rcases retried moment after with same | same | same | same <;> rw [same] at abandoned <;> cases abandoned

theorem Delivered.snoc {moment : Moment} (delivered : Delivered request (past ++ [moment])) :
    (Undisturbed past ∧ moment.call = request.call ∧ ∃ candidate, moment.rotation.accepts request.version
        request.nonce request.token request.overlapExpiresAt = .ok candidate) ∨
      (Delivered request past ∧ Retries request moment.call) := by
  obtain ⟨before, later, rotation, stored, candidate, same, undisturbed, accepted, retried⟩ := delivered
  rcases split_snoc same with ⟨rfl, rfl, rfl⟩ | ⟨earlier, rfl, rfl⟩
  · exact .inl ⟨undisturbed, rfl, candidate, accepted⟩
  · refine .inr ⟨⟨before, earlier, rotation, stored, candidate, rfl, undisturbed, accepted, ?_⟩,
      retried moment (by simp)⟩
    exact fun other present => retried other (List.mem_append_left _ present)

theorem tracked_accepted (coherent : Coherent provisioned rotation stored) {candidate : AppBearerRotation}
    (accepted : rotation.accepts request.version request.nonce request.token request.overlapExpiresAt =
      .ok candidate) : Tracked provisioned request stored := by
  obtain ⟨-, other, none, newer, inactive⟩ := accepts_facts accepted
  obtain ⟨⟨active, version, -⟩, unloadable⟩ := coherent.idle none
  rw [version] at other newer
  rw [active] at inactive
  exact .inl ⟨unloadable, other, newer, inactive⟩

/-- What every history keeps. -/
structure Tracking (provisioned : Option String) (past : List Moment) (memory : Option AppBearerRotation)
    (stored : Slots layout) : Prop where
  written : Written stored
  coherent : ∀ rotation, memory = some rotation → Undisturbed past → Coherent provisioned rotation stored
  tracked : ∀ request, Delivered request past → Tracked provisioned request stored

theorem rephased_calling (past : List Moment) (stored : Slots layout) :
    Rephased stored (calling past stored) :=
  ⟨⟨rfl, rfl, rfl⟩, rfl, ⟨fun loadable => ⟨loadable.ready, loadable.valid⟩,
    fun loadable => ⟨loadable.ready, loadable.valid⟩⟩⟩

theorem Coherent.calling (coherent : Coherent provisioned rotation stored) (past : List Moment) :
    Coherent provisioned rotation (calling past stored) where
  written := coherent.written
  pending candidate :=
    have ⟨agrees, loadable⟩ := coherent.pending candidate
    ⟨⟨agrees.ready, agrees.version, agrees.nonce, agrees.token, agrees.expiry, agrees.phase⟩,
      (rephased_calling past stored).loadable.mp loadable⟩
  idle none :=
    have ⟨current, unloadable⟩ := coherent.idle none
    ⟨⟨current.active, current.version, current.nonce⟩,
      fun loadable => unloadable ((rephased_calling past stored).loadable.mpr loadable)⟩

/-- One call of a history. A restart needs nothing of the memory before it. -/
theorem moment_tracks (written : Written stored) (call : Call)
    (held : Undisturbed past → call ≠ .begin → Coherent provisioned rotation stored) :
    nvs.wp (call.run provisioned rotation)
      (fun next last => Written last ∧ (Undisturbed (past ++ [⟨call, rotation, stored⟩]) →
        Coherent provisioned next last ∧ Keeps provisioned (Retries · call) (calling past stored) last))
      (fun last => Written last ∧ (Undisturbed (past ++ [⟨call, rotation, stored⟩]) →
        Keeps provisioned (Retries · call) (calling past stored) last)) (calling past stored) := by
  have started : Written (calling past stored) := written
  by_cases undisturbed : Undisturbed (past ++ [⟨call, rotation, stored⟩])
  · by_cases begins : call = .begin
    · subst begins
      apply Model.wp_then (begin_tracks started) (fun _ keeps => ⟨keeps.written, fun _ => keeps⟩)
      rintro answer last ⟨coherent, -, -, keeps⟩
      exact ⟨⟨keeps.written, fun _ => keeps⟩, keeps.written, fun _ => ⟨coherent, keeps⟩⟩
    · obtain ⟨before, kept⟩ := undisturbed.init begins
      apply Model.wp_mono (call_tracks ((held before begins).calling past) call kept)
      · exact fun next last both => ⟨both.2.written, fun _ => both⟩
      · exact fun last keeps => ⟨keeps.written, fun _ => keeps⟩
  · apply Model.wp_mono (call_written started call)
    · exact fun next last written => ⟨written, fun impossible => absurd impossible undisturbed⟩
    · exact fun last written => ⟨written, fun impossible => absurd impossible undisturbed⟩

theorem Tracking.next {memory : Option AppBearerRotation} (tracking : Tracking provisioned past memory stored)
    {call : Call} (held : Undisturbed past → call ≠ .begin → Coherent provisioned rotation stored)
    (keeps : Undisturbed (past ++ [⟨call, rotation, stored⟩]) →
      Keeps provisioned (Retries · call) (calling past stored) last)
    (delivered : Delivered request (past ++ [⟨call, rotation, stored⟩])) :
    Tracked provisioned request last := by
  have kept := (keeps delivered.undisturbed).tracked request
  rcases delivered.snoc with ⟨undisturbed, rfl, candidate, accepted⟩ | ⟨earlier, retries⟩
  · have tracked := tracked_accepted (held undisturbed nofun) accepted
    exact kept (.inr (.inl rfl)) (tracked.rephased (rephased_calling past stored))
  · exact kept retries ((tracking.tracked request earlier).rephased (rephased_calling past stored))

theorem tracking_of_reached {memory : Option AppBearerRotation}
    (reached : Reached provisioned past memory stored) : Tracking provisioned past memory stored := by
  induction reached with
  | fresh =>
    refine ⟨.inr fun _ => rfl, nofun, ?_⟩
    rintro request ⟨before, later, rotation, stored, candidate, impossible, -⟩
    simp at impossible
  | boot earlier run ih =>
    have held {stored : Slots layout} {past : List Moment} : Undisturbed past → Call.begin ≠ .begin →
      Coherent provisioned {} stored := fun _ running => absurd rfl running
    obtain ⟨written, kept⟩ := Model.wp_runs (moment_tracks ih.written .begin held) run
    exact ⟨written, fun _ same undisturbed => Option.some.inj same ▸ (kept undisturbed).1,
      fun request => ih.next held fun undisturbed => (kept undisturbed).2⟩
  | bootCut earlier cut ih =>
    have held {stored : Slots layout} {past : List Moment} : Undisturbed past → Call.begin ≠ .begin →
      Coherent provisioned {} stored := fun _ running => absurd rfl running
    obtain ⟨written, kept⟩ := Model.wp_cut (moment_tracks ih.written .begin held) cut
    exact ⟨written, nofun, fun request => ih.next held kept⟩
  | call earlier call run ih =>
    have held := fun undisturbed (_ : call ≠ .begin) => ih.coherent _ rfl undisturbed
    obtain ⟨written, kept⟩ := Model.wp_runs (moment_tracks ih.written call held) run
    exact ⟨written, fun _ same undisturbed => Option.some.inj same ▸ (kept undisturbed).1,
      fun request => ih.next held fun undisturbed => (kept undisturbed).2⟩
  | cut earlier call cut ih =>
    have held := fun undisturbed (_ : call ≠ .begin) => ih.coherent _ rfl undisturbed
    obtain ⟨written, kept⟩ := Model.wp_cut (moment_tracks ih.written call held) cut
    exact ⟨written, nofun, fun request => ih.next held kept⟩
  | powerOff earlier ih => exact ⟨ih.written, nofun, ih.tracked⟩

end Histories

section Answer

theorem exec_putNext (key : Key) (value : layout.Value key) (sized : 0 < (layout.kind key).size value) :
    (Preferences.putNext true key value : Auth Bool).exec (failing fun _ => false) stored =
      (true, stored.put key value) := by
  have ran : (Preferences.putNext true key value : Auth Bool).exec (failing fun _ => false) stored =
    (decide (0 < (layout.kind key).size value), stored.put key value) := rfl
  rw [ran, decide_eq_true sized]

theorem stage_healthy {version : UInt32} {nonce token overlapExpiresAt : String} {candidate : AppBearerRotation}
    (accepted : rotation.accepts version nonce token overlapExpiresAt = .ok candidate) :
    ((rotation.stage version nonce token overlapExpiresAt).exec (failing fun _ => false) stored).1.1 =
      .staged := by
  obtain ⟨valid, -⟩ := accepts_facts accepted
  simp only [Request.valid, validSecret, Bool.and_eq_true, decide_eq_true_eq] at valid
  have nonceSized : 0 < nonce.length := by omega
  have tokenSized : 0 < token.length := by omega
  have expirySized : 0 < overlapExpiresAt.length := by omega
  have opened : (Preferences.openNamespace false : Auth Bool).exec (failing fun _ => false) stored =
    (true, { stored with present := true }) := rfl
  rw [stage, accepted, accepts_ok accepted]
  simp only [persistCandidate, Prog.exec_bind, opened]
  simp only [Bool.not_true, Bool.false_eq_true, ↓reduceIte, Prog.exec_bind]
  rw [exec_putNext .candReady _ Nat.one_pos, exec_putNext .candVer _ (Nat.succ_pos 3),
    exec_putNext .candNonce _ nonceSized, exec_putNext .candidate _ tokenSized,
    exec_putNext .overlapAt _ expirySized, exec_putNext .phase _ Nat.one_pos,
    exec_putNext .candReady _ Nat.one_pos]
  rfl

theorem accepts_of_valid (valid : request.valid = true) :
    rotation.accepts request.version request.nonce request.token request.overlapExpiresAt =
      if request.version == rotation.appliedVersion then
        if request.nonce == rotation.appliedNonce && request.token == rotation.activeBearer then
          .error (.alreadyApplied, rotation)
        else
          .error (.rejected, rotation.failed "credential rotation version was reused")
      else if rotation.hasCandidate then
        if request.version == rotation.version_ && request.nonce == rotation.nonce_ &&
            request.token == rotation.candidateBearer then
          .error (.alreadyPending, rotation)
        else
          .error (.rejected, rotation.failed (if request.version ≤ rotation.version_ then
            "credential rotation is stale" else "credential rotation already pending"))
      else if request.version < rotation.appliedVersion then
        .error (.rejected, rotation.failed "credential rotation is stale")
      else if request.token == rotation.activeBearer then
        .error (.rejected, rotation.failed "credential rotation token is already active")
      else
        .ok { rotation with
          version_ := request.version, nonce_ := request.nonce, candidateBearer := request.token
          overlapExpiresAt := request.overlapExpiresAt, phase := .staged } := by
  have checked : (request.version == 0 || !validSecret request.nonce kMaximumNonceLength 8 ||
      !validSecret request.token kMaximumBearerLength 16 ||
      !validSecret request.overlapExpiresAt kMaximumExpiryLength 20) = false := by
    simpa [Request.valid, and_assoc] using valid
  rw [accepts, checked]
  rfl

def Answered (result : StageResult) : Prop :=
  result = .staged ∨ result = .alreadyPending ∨ result = .alreadyApplied

theorem answered_iff (tracked : Tracked provisioned request stored) (valid : request.valid = true)
    (coherent : Coherent provisioned rotation stored) (current : Current provisioned rotation stored) :
    Answered ((rotation.stage request.version request.nonce request.token request.overlapExpiresAt).exec
      (failing fun _ => false) stored).1.1 ↔ ¬HalfApplied request stored := by
  obtain ⟨active, version, nonce⟩ := current
  have asked := @accepts_of_valid rotation _ valid
  rw [active, version, nonce] at asked
  have pending : rotation.hasCandidate = true ↔ Loadable stored := by
    cases candidate : rotation.hasCandidate with
    | false => exact ⟨nofun, fun loadable => absurd loadable (coherent.idle candidate).2⟩
    | true => exact ⟨fun _ => (coherent.pending candidate).2, fun _ => rfl⟩
  rcases tracked with ⟨unloadable, other, newer, inactive⟩ | ⟨loadable, same, applying⟩ |
    ⟨unloadable, applied, noted, activated⟩
  · rw [if_neg (by simpa using other), if_neg (by simpa [pending] using unloadable), if_neg newer,
      if_neg (by simpa using inactive)] at asked
    refine ⟨fun _ half => other half.1.symm, fun _ => .inl (stage_healthy asked)⟩
  · have candidate := pending.mpr loadable
    obtain rfl := (candidateIn_of_agrees (coherent.pending candidate).1).symm.trans same
    by_cases applied : rotation.requested.version = applied stored
    · have activated := applying applied
      rw [if_pos (by simpa using applied)] at asked
      by_cases noted : rotation.requested.nonce = appliedNonceIn stored
      · rw [if_pos (by simp [noted, activated])] at asked
        rw [stage, asked]
        exact ⟨fun _ half => half.2 noted.symm, fun _ => .inr (.inr rfl)⟩
      · rw [if_neg (by simp [noted])] at asked
        rw [stage, asked]
        refine ⟨?_, fun whole => absurd ⟨applied.symm, Ne.symm noted⟩ whole⟩
        rintro (impossible | impossible | impossible) <;> cases impossible
    · rw [if_neg (by simpa using applied), if_pos candidate, if_pos (by simp [requested])] at asked
      rw [stage, asked]
      exact ⟨fun _ half => applied half.1.symm, fun _ => .inr (.inl rfl)⟩
  · rw [if_pos (by simpa using applied), if_pos (by simp [noted, activated])] at asked
    rw [stage, asked]
    exact ⟨fun _ half => half.2 noted.symm, fun _ => .inr (.inr rfl)⟩

/-- Whatever cut or failed write its calls met, an accepted request that is delivered again after a
restart is answered unless NVS has its version without its nonce. -/
theorem redelivery_answered_iff (provisioned : Option String) (request : Request) (past : List Moment)
    (stored booted : Slots layout) (usable : Bool) (rotation : AppBearerRotation)
    (reached : Reached provisioned past none stored) (delivered : Delivered request past)
    (run : nvs.Runs (AppBearerRotation.begin provisioned) stored (usable, rotation) booted) :
    Answered ((rotation.stage request.version request.nonce request.token request.overlapExpiresAt).exec
      (failing fun _ => false) booted).1.1 ↔ ¬HalfApplied request stored := by
  have tracking := tracking_of_reached reached
  have started := @begin_tracks provisioned _ (fun _ => True) tracking.written
  obtain ⟨coherent, current, same, keeps⟩ := Model.wp_runs started run
  have tracked := keeps.tracked request trivial (tracking.tracked request delivered)
  obtain ⟨before, later, earlier, base, candidate, -, -, accepted, -⟩ := delivered
  have half : HalfApplied request booted ↔ HalfApplied request stored := by
    rw [HalfApplied, HalfApplied, same.applied, same.nonceIn]
  rw [← half]
  exact answered_iff tracked (accepts_facts accepted).1 coherent current

def seventh : Request := ⟨7, "nonce-seven", "candidate-seven-token", "2026-10-01T00:00:00Z"⟩

theorem delivered_promoted (fails : Key → Bool) : Delivered seventh (promoted fails).past := by
  have offered : ((boot (some "provisioned-bearer")).rotation.accepts seventh.version seventh.nonce
      seventh.token seventh.overlapExpiresAt).isOk = true := by decide
  cases accepted : (boot (some "provisioned-bearer")).rotation.accepts seventh.version seventh.nonce
      seventh.token seventh.overlapExpiresAt with
  | error answer =>
    rw [accepted] at offered
    cases offered
  | ok candidate =>
    refine ⟨(boot (some "provisioned-bearer")).past, [⟨.markAcknowledged, _, _⟩, ⟨.promoteCandidate, _, _⟩],
      _, _, candidate, rfl, ?_, accepted, ?_⟩
    · intro before moment after same abandoned
      have begun : moment ∈ (boot (some "provisioned-bearer")).past := by simp [same]
      obtain rfl := List.mem_singleton.mp begun
      cases abandoned
    · intro moment present
      simp only [List.mem_cons, List.not_mem_nil, or_false] at present
      rcases present with rfl | rfl
      · exact .inr (.inr (.inl rfl))
      · exact .inr (.inr (.inr rfl))

def restarted (fails : Key → Bool) : (Bool × AppBearerRotation) × Slots layout :=
  (AppBearerRotation.begin (some "provisioned-bearer")).exec (failing fun _ => false) (promoted fails).stored

theorem runs_restarted (fails : Key → Bool) :
    nvs.Runs (AppBearerRotation.begin (some "provisioned-bearer")) (promoted fails).stored
      (restarted fails).1 (restarted fails).2 :=
  Model.runs_of_handler (fun slots op => slots.device_handle _ op) _ _

/-- `cand_ready` could not be removed: the rotation is recognised all the same. -/
theorem redelivery_answered_unremoved :
    Answered (((restarted (· == .candReady)).1.2.stage seventh.version seventh.nonce seventh.token
      seventh.overlapExpiresAt).exec (failing fun _ => false) (restarted (· == .candReady)).2).1.1 := by
  apply (redelivery_answered_iff _ seventh _ _ _ _ _ (.powerOff (reached_promoted (· == .candReady)))
    (delivered_promoted _) (runs_restarted _)).mpr
  have noted : appliedNonceIn (promoted (· == .candReady)).stored = seventh.nonce := by decide
  exact fun half => half.2 noted

/-- `applied_nonce` could not be written: after the restart the same rotation is rejected. -/
theorem redelivery_rejected :
    ∃ provisioned request past stored usable rotation booted,
      Reached provisioned past none stored ∧ Delivered request past ∧
      nvs.Runs (AppBearerRotation.begin provisioned) stored (usable, rotation) booted ∧
      ((rotation.stage request.version request.nonce request.token request.overlapExpiresAt).exec
        (failing fun _ => false) booted).1.1 = .rejected :=
  ⟨_, seventh, _, _, _, _, _, .powerOff (reached_promoted (· == .appliedNonce)), delivered_promoted _,
    runs_restarted _, by decide⟩

end Answer

end ApexiDevices.AppBearerRotation
