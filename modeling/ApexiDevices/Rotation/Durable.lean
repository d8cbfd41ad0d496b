import ApexiDevices.Rotation.Calls

set_option autoImplicit false

namespace ApexiDevices.AppBearerRotation

open Device

variable {provisioned : Option String} {past : List Moment} {stored : Slots layout}
  {rotation : AppBearerRotation}

theorem observes_get (key : Key) (absent : layout.Value key) :
    nvs.Observes stored (Preferences.get key absent) ((stored.value key).getD absent) :=
  @Slots.observes_get layout _ stored key absent

section Writes

variable {keeps crash : Slots layout → Prop}

/-- Removing a key of the candidate keeps it. -/
def Erasable (keeps : Slots layout → Prop) : Prop :=
  ∀ stored key, key ≠ .active → key ≠ .appliedVer → key ≠ .appliedNonce → keeps stored →
    keeps (stored.remove key)

theorem erasable_durable : Erasable (Durable past) := by
  intro stored key _ other _ durable
  exact durable.remove other

theorem remove_wp (erasable : Erasable keeps) (kept : keeps stored) {key : Key} (inactive : key ≠ .active)
    (unapplied : key ≠ .appliedVer) (unnoted : key ≠ .appliedNonce) :
    nvs.wp (Preferences.remove key) (fun _ => keeps) keeps stored := by
  have removed := erasable stored key inactive unapplied unnoted kept
  exact Slots.wp_remove kept removed removed kept

/-- How far a chain of writes has come: to its target, unless a link failed. -/
def Chain (keeps : Slots layout → Prop) (target : Slots layout) (saved : Bool) (last : Slots layout) : Prop :=
  keeps last ∧ (saved = true → last = target)

theorem Chain.next {target : Slots layout} {saved : Bool} {key : Key}
    {value : layout.Value key} (chain : Chain keeps target saved stored)
    (durable : ∀ last, keeps last → crash last) (kept : keeps (target.put key value)) :
    nvs.wp (Preferences.putNext saved key value) (Chain keeps (target.put key value)) crash
      stored := by
  apply Slots.wp_putNext (durable _ chain.1)
  · exact ⟨chain.1, nofun⟩
  · intro reached
    obtain rfl := chain.2 reached
    exact ⟨durable _ kept, kept, fun _ => rfl⟩

theorem removeCandidateKeys_wp (erasable : Erasable keeps) (kept : keeps stored) :
    nvs.wp removeCandidateKeys (fun _ => keeps) keeps stored := by
  have removed {last : Slots layout} (kept : keeps last) {key : Key} := @remove_wp last keeps erasable kept key
  refine Model.wp_then (removed kept nofun nofun nofun) (fun _ same => same) fun _ _ kept => ?_
  refine Model.wp_then (removed kept nofun nofun nofun) (fun _ same => same) fun _ _ kept => ?_
  refine Model.wp_then (removed kept nofun nofun nofun) (fun _ same => same) fun _ _ kept => ?_
  refine Model.wp_then (removed kept nofun nofun nofun) (fun _ same => same) fun _ _ kept => ?_
  refine Model.wp_then (removed kept nofun nofun nofun) (fun _ same => same) fun _ _ kept => ?_
  exact ⟨kept, kept⟩

theorem clearCandidatePersistent_wp (erasable : Erasable keeps) (kept : keeps stored)
    (opened : keeps { stored with present := true }) :
    nvs.wp clearCandidatePersistent (fun _ => keeps) keeps stored := by
  refine Model.wp_bind.mpr (Slots.wp_open kept opened ?_ ⟨kept, kept⟩)
  refine Model.wp_then (remove_wp erasable opened nofun nofun nofun) (fun _ same => same) fun _ _ kept => ?_
  exact removeCandidateKeys_wp erasable kept

end Writes

section Begin

theorem hasCandidate_clear : rotation.clearCandidateMemory.hasCandidate = false := rfl

theorem found_of_getD {α : Type} {value : Option α} {absent : α} (different : value.getD absent ≠ absent) :
    value = some (value.getD absent) := by
  cases value with
  | none => exact absurd rfl different
  | some value => rfl

theorem validSecret_ne {value : String} {maximum minimum : Nat} (positive : 0 < minimum)
    (valid : validSecret value maximum minimum = true) : value ≠ "" := by
  rintro rfl
  simp only [validSecret, String.length_empty, Bool.and_eq_true, decide_eq_true_eq] at valid
  omega

def loading (rotation : AppBearerRotation) (stored : Slots layout) : AppBearerRotation :=
  { rotation with
    version_ := (stored.value .candVer).getD 0, nonce_ := (stored.value .candNonce).getD ""
    candidateBearer := (stored.value .candidate).getD ""
    overlapExpiresAt := (stored.value .overlapAt).getD ""
    phase := Phase.ofByte ((stored.value .phase).getD 0) }

theorem loadCandidate_loading {post : Bool × AppBearerRotation → Slots layout → Prop}
    {crash : Slots layout → Prop}
    (checked : nvs.wp ((loading rotation stored).checkCandidate ((stored.value .phase).getD 0)) post crash stored) :
    nvs.wp rotation.loadCandidate post crash stored := by
  apply (observes_get .candVer 0).then
  apply (observes_get .candNonce "").then
  apply (observes_get .candidate "").then
  apply (observes_get .overlapAt "").then
  apply (observes_get .phase 0).then
  exact checked

theorem agrees_loading (ready : stored.value .candReady = some true)
    (valid : (loading rotation stored).validCandidate ((stored.value .phase).getD 0) = true) :
    Agrees (loading rotation stored) stored := by
  simp only [validCandidate, Bool.and_eq_true, Bool.or_eq_true, bne_iff_ne, ne_eq, beq_iff_eq] at valid
  obtain ⟨⟨⟨⟨version, nonce⟩, token⟩, expiry⟩, phase⟩ := valid
  have present : (stored.value .phase).getD 0 ≠ 0 := by
    rcases phase with same | same <;> rw [same] <;> decide
  refine ⟨ready, found_of_getD version, found_of_getD (validSecret_ne (by decide) nonce),
    found_of_getD (validSecret_ne (by decide) token), found_of_getD (validSecret_ne (by decide) expiry),
    (found_of_getD present).trans (congrArg some ?_)⟩
  rw [loading]
  rcases phase with same | same <;> rw [same] <;> rfl

theorem loadCandidate_wp (durable : Durable past stored) (ready : stored.value .candReady = some true)
    (active : rotation.activeBearer = provisioned.getD "" ∨ Acknowledged past rotation.activeBearer) :
    nvs.wp rotation.loadCandidate (fun answer => Held provisioned past answer.2) (Durable past) stored := by
  apply loadCandidate_loading
  rw [checkCandidate]
  split
  next valid => exact ⟨durable, durable, active, fun _ => agrees_loading ready valid⟩
  next =>
    refine Model.wp_then (clearCandidatePersistent_wp erasable_durable durable durable.opened)
      (fun _ same => same) fun _ last durable => ?_
    exact ⟨durable, durable, active, fun impossible => by cases impossible⟩

theorem begin_wp (durable : Durable past stored) :
    nvs.wp (AppBearerRotation.begin provisioned) (fun answer => Held provisioned past answer.2)
      (Durable past) stored := by
  refine Model.wp_bind.mpr (Slots.wp_openReadOnly durable ?_)
  cases stored.present with
  | false => exact ⟨durable, durable, .inl rfl, fun impossible => by cases impossible⟩
  | true =>
    refine (observes_get .active "").then ?_
    refine (observes_get .appliedVer 0).then ?_
    refine (observes_get .appliedNonce "").then ?_
    refine (observes_get .candReady false).then ?_
    generalize same : ({ activeBearer := provisioned.getD "" } : AppBearerRotation).restoreActive
      ((stored.value .active).getD "") = restored
    have inactive : restored.phase = .none := by rw [← same, restoreActive_phase]
    have active : restored.activeBearer = provisioned.getD "" ∨
        Acknowledged past restored.activeBearer := by
      rw [← same, restoreActive]
      split
      next => exact .inl rfl
      next persisted =>
        refine .inr (durable.active _ (found_of_getD fun blank => persisted ?_))
        rw [blank]
        rfl
    split
    next ready =>
      exact loadCandidate_wp durable ((found_of_getD (by simp [ready])).trans (congrArg some ready)) active
    next => exact ⟨durable, durable, active, fun impossible => by simp [hasCandidate, inactive] at impossible⟩

end Begin

section Candidate

theorem Agrees.failed (agrees : Agrees rotation stored) (error : String) :
    Agrees (rotation.failed error) stored :=
  ⟨agrees.ready, agrees.version, agrees.nonce, agrees.token, agrees.expiry, agrees.phase⟩

theorem Held.failed (held : Held provisioned past rotation stored) (error : String) :
    Held provisioned past (rotation.failed error) stored :=
  ⟨held.durable, held.active, fun candidate => (held.agrees candidate).failed error⟩

theorem Held.cleared (held : Held provisioned past rotation stored) {last : Slots layout}
    (durable : Durable past last) : Held provisioned past rotation.clearCandidateMemory last :=
  ⟨durable, held.active, fun impossible => by simp [hasCandidate_clear] at impossible⟩

theorem Held.started (held : Held provisioned past rotation stored) (call : Call) :
    Held provisioned (past ++ [⟨call, rotation, stored⟩]) rotation (calling past stored) where
  durable := held.durable.started call rotation
  active := held.active.imp_right fun acknowledged => acknowledged.snoc _
  agrees candidate := by
    obtain ⟨ready, version, nonce, token, expiry, phase⟩ := held.agrees candidate
    exact ⟨ready, version, nonce, token, expiry, phase⟩

theorem Held.opened (held : Held provisioned past rotation stored) :
    Held provisioned past rotation { stored with present := true } where
  durable := held.durable.opened
  active := held.active
  agrees candidate := by
    obtain ⟨ready, version, nonce, token, expiry, phase⟩ := held.agrees candidate
    exact ⟨ready, version, nonce, token, expiry, phase⟩

variable {version : UInt32} {nonce token overlapExpiresAt : String}

theorem accepts_error {answer : StageResult × AppBearerRotation}
    (refused : rotation.accepts version nonce token overlapExpiresAt = .error answer) :
    ∃ error, answer.2 = rotation.failed error := by
  unfold accepts at refused
  repeat' split at refused
  all_goals first
    | (obtain rfl := Except.error.inj refused; exact ⟨_, rfl⟩)
    | cases refused

theorem accepts_ok {candidate : AppBearerRotation}
    (accepted : rotation.accepts version nonce token overlapExpiresAt = .ok candidate) :
    candidate = { rotation with
      version_ := version, nonce_ := nonce, candidateBearer := token
      overlapExpiresAt := overlapExpiresAt, phase := .staged } := by
  unfold accepts at accepted
  repeat' split at accepted
  all_goals first
    | exact (Except.ok.inj accepted).symm
    | cases accepted

theorem persistCandidate_wp {request : Request} (durable : Durable past stored)
    (staged : StagedAt past stored.writer request)
    (ordered : Ordered past → applied stored ≤ request.version)
    (candidate : AppBearerRotation) (version : candidate.version_ = request.version)
    (nonce : candidate.nonce_ = request.nonce) (token : candidate.candidateBearer = request.token)
    (expiry : candidate.overlapExpiresAt = request.overlapExpiresAt) (phase : candidate.phase = .staged) :
    nvs.wp (candidate.persistCandidate candidate.phase)
      (fun answer last => Durable past last ∧ answer.2.activeBearer = candidate.activeBearer ∧
        (answer.1 = true → answer.2 = candidate ∧ Agrees candidate last)) (Durable past) stored := by
  refine Model.wp_bind.mpr (Slots.wp_open durable durable.opened ?_ ⟨durable, durable, rfl, fun impossible => by cases impossible⟩)
  have start : Chain (Durable past) { stored with present := true } true
      { stored with present := true } := ⟨durable.opened, fun _ => rfl⟩
  have d₁ := start.1.unready
  -- While the candidate is not marked ready, every other part may be written.
  have d₂ := d₁.put .candVer candidate.version_ (by decide) (by decide) (by decide) (by simp)
  have d₃ := d₂.put .candNonce candidate.nonce_ (by decide) (by decide) (by decide) (by simp)
  have d₄ := d₃.put .candidate candidate.candidateBearer (by decide) (by decide) (by decide)
    (by simp)
  have d₅ := d₄.put .overlapAt candidate.overlapExpiresAt (by decide) (by decide) (by decide)
    (by simp)
  have d₆ := d₅.put .phase candidate.phase.byte (by decide) (by decide) (by decide) (by simp)
  have d₇ := d₆.ready staged
    (by constructor <;> simp [version, nonce, token, expiry])
    (by simpa [applied, version] using ordered)
  refine Model.wp_then (start.next (fun _ same => same) d₁) (fun _ same => same) fun saved last chain => ?_
  refine Model.wp_then (chain.next (fun _ same => same) d₂) (fun _ same => same) fun saved last chain => ?_
  refine Model.wp_then (chain.next (fun _ same => same) d₃) (fun _ same => same) fun saved last chain => ?_
  refine Model.wp_then (chain.next (fun _ same => same) d₄) (fun _ same => same) fun saved last chain => ?_
  refine Model.wp_then (chain.next (fun _ same => same) d₅) (fun _ same => same) fun saved last chain => ?_
  refine Model.wp_then (chain.next (fun _ same => same) d₆) (fun _ same => same) fun saved last chain => ?_
  refine Model.wp_then (chain.next (fun _ same => same) d₇) (fun _ same => same) fun saved last chain => ?_
  cases saved with
  | false => exact ⟨chain.1, chain.1, rfl, fun impossible => by cases impossible⟩
  | true =>
    refine ⟨chain.1, chain.1, rfl, fun _ => ⟨rfl, ?_⟩⟩
    obtain rfl := chain.2 rfl
    constructor <;> simp [phase]

theorem stage_wp (held : Held provisioned past rotation stored)
    (staged : StagedAt past stored.writer ⟨version, nonce, token, overlapExpiresAt⟩)
    (ordered : ∀ candidate, rotation.accepts version nonce token overlapExpiresAt = .ok candidate →
      Ordered past → applied stored ≤ version) :
    nvs.wp (rotation.stage version nonce token overlapExpiresAt)
      (fun answer => Held provisioned past answer.2) (Durable past) stored := by
  unfold stage
  cases same : rotation.accepts version nonce token overlapExpiresAt with
  | error answer =>
    obtain ⟨error, failed⟩ := accepts_error same
    have refused : Held provisioned past answer.2 stored := failed ▸ held.failed error
    exact ⟨held.durable, refused⟩
  | ok candidate =>
    obtain rfl := accepts_ok same
    refine Model.wp_then (persistCandidate_wp held.durable staged (ordered _ same) _ rfl rfl rfl rfl rfl)
      (fun _ same => same) ?_
    rintro ⟨saved, left⟩ last ⟨durable, active, complete⟩
    cases saved with
    | false =>
      refine ⟨durable, durable, ?_, fun impossible => by simp [hasCandidate_clear] at impossible⟩
      exact active.symm ▸ held.active
    | true =>
      obtain ⟨rfl, agrees⟩ := complete rfl
      exact ⟨durable, durable, held.active, fun _ => agrees.failed ""⟩

theorem markAcknowledged_wp (held : Held provisioned past rotation stored) :
    nvs.wp rotation.markAcknowledged (fun answer => Held provisioned past answer.2) (Durable past)
      stored := by
  unfold markAcknowledged
  cases candidate : rotation.hasCandidate with
  | false => exact ⟨held.durable, held⟩
  | true =>
    refine Model.wp_bind.mpr (Slots.wp_open held.durable held.durable.opened ?_
      ⟨held.durable, held.failed _⟩)
    have opened := held.opened
    have marked := opened.durable.put .phase Phase.acknowledged.byte
      (by decide) (by decide) (by decide) (fun _ => .inr rfl)
    refine Model.wp_bind.mpr (Slots.wp_putNext opened.durable
      ⟨opened.durable, opened.failed _⟩ fun _ => ⟨marked, marked, ?_⟩)
    refine ⟨marked, held.active, fun _ => ?_⟩
    obtain ⟨ready, version, nonce, token, expiry, -⟩ := opened.agrees candidate
    constructor <;> simp [ready, version, nonce, token, expiry]

theorem promoteCandidate_wp (held : Held provisioned past rotation stored)
    (acknowledged : rotation.hasCandidate = true → rotation.phase = .acknowledged →
      Acknowledged past rotation.candidateBearer) :
    nvs.wp rotation.promoteCandidate (fun answer => Held provisioned past answer.2) (Durable past)
      stored := by
  unfold promoteCandidate
  split
  next => exact ⟨held.durable, held⟩
  next possible =>
    simp only [Bool.or_eq_true, Bool.not_eq_eq_eq_not, Bool.not_true, bne_iff_ne, ne_eq, not_or,
      Bool.not_eq_false, Decidable.not_not] at possible
    obtain ⟨candidate, phase⟩ := possible
    refine Model.wp_bind.mpr (Slots.wp_open held.durable held.durable.opened ?_
      ⟨held.durable, held.failed _⟩)
    have opened := held.opened
    have agrees := opened.agrees candidate
    have ⟨ready, version, nonce, token, expiry, acked⟩ := agrees
    -- The candidate stays in place until `cand_ready` is removed.
    have start : Chain (fun last => Durable past last ∧ Agrees rotation last)
        { stored with present := true } true { stored with present := true } :=
      ⟨⟨opened.durable, agrees⟩, fun _ => rfl⟩
    have d₁ := opened.durable.promoted (acknowledged candidate phase)
    have d₂ := d₁.applied (by simpa using ready) (by simpa using version)
    have d₃ := d₂.put .appliedNonce rotation.nonce_ (by decide) (by decide) (by decide) (fun _ => .inl rfl)
    refine Model.wp_then (start.next (fun _ kept => kept.1) ⟨d₁, ?_⟩) (fun _ same => same)
      fun saved last chain => ?_
    · constructor <;> simp [ready, version, nonce, token, expiry, acked]
    refine Model.wp_then (chain.next (fun _ kept => kept.1) ⟨d₂, ?_⟩) (fun _ same => same)
      fun saved last chain => ?_
    · constructor <;> simp [ready, version, nonce, token, expiry, acked]
    refine Model.wp_then (chain.next (fun _ kept => kept.1) ⟨d₃, ?_⟩) (fun _ same => same)
      fun saved last chain => ?_
    · constructor <;> simp [ready, version, nonce, token, expiry, acked]
    have unchanged {last : Slots layout} (kept : Durable past last ∧ Agrees rotation last) :
        Held provisioned past (rotation.failed "credential rotation promotion failed") last :=
      ⟨kept.1, held.active, fun _ => kept.2.failed _⟩
    cases saved with
    | false => exact ⟨chain.1.1, unchanged chain.1⟩
    | true =>
      have removed : Durable past (last.remove .candReady) := chain.1.1.remove (by decide)
      refine Model.wp_bind.mpr (Slots.wp_remove chain.1.1 removed ?_ ⟨chain.1.1, unchanged chain.1⟩)
      have present : (last.stored .candReady).isSome = true := by
        have found := chain.1.2.ready
        rw [Slots.value, Option.map_eq_some_iff] at found
        obtain ⟨slot, same, -⟩ := found
        rw [same]
        rfl
      rw [present]
      refine Model.wp_then (removeCandidateKeys_wp erasable_durable removed) (fun _ same => same) fun _ _ durable => ?_
      refine ⟨durable, durable, .inr (acknowledged candidate phase), ?_⟩
      intro impossible
      cases impossible

end Candidate

end ApexiDevices.AppBearerRotation
