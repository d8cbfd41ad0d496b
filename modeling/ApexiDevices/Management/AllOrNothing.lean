import ApexiDevices.Management.DesiredState
import ApexiDevices.Rotation.Durable

set_option autoImplicit false

/-!
# What a refused document leaves

The sections in front of the rotation change nothing but the assignment, and
the rotation is the only section that reaches the NVS.
-/

namespace ApexiDevices

open Device

namespace LiveUpload

open AppBearerRotation (nvs)

-- The managed candidate in memory.
def candidateOf (rotation : AppBearerRotation) : String × String × String × UInt32 × AppBearerRotation.Phase :=
  (rotation.candidateBearer, rotation.nonce_, rotation.overlapExpiresAt, rotation.version_, rotation.phase)

structure Untouched (before after : LiveUpload) (slots last : Slots AppBearerRotation.layout) : Prop where
  pending : after.pendingRemoteConfig = before.pendingRemoteConfig
  flag : after.hasPendingRemoteConfig = before.hasPendingRemoteConfig
  assignment : after.assignment = before.assignment
  candidate : after.bearerRotation.map candidateOf = before.bearerRotation.map candidateOf
  stored : ∀ key, last.value key = slots.value key

def AllOrNothing (self : LiveUpload) (library : JsonLibrary) (payload : Bytes)
    (slots : Slots AppBearerRotation.layout) : Prop :=
  ∀ (answer : Bool × LiveUpload) (last : Slots AppBearerRotation.layout),
    nvs.Runs (self.consumeDesiredState library payload) slots answer last → answer.1 = false →
      Untouched self answer.2 slots last

/-! ## The condition -/

inductive Reaction where
  | accepted
  | refused
  | staged (manager candidate : AppBearerRotation)

def reaction (self : LiveUpload) (document : Document) : Reaction :=
  match section? (document.member "credential_rotation") with
  | none => .refused
  | some rotation =>
    if self.authorization then if rotation.isNone || self.protocol == .https then .accepted else .refused
    else
      match rotation with
      | none => .accepted
      | some rotation =>
        match self.manager, rotationRequest rotation with
        | some manager, some request =>
          match manager.accepts request.version request.nonce.string request.token.string
            request.overlapExpiresAt.string with
          | .error (.alreadyApplied, _) | .error (.alreadyPending, _) => .accepted
          | .error _ => .refused
          | .ok candidate => .staged manager candidate
        | _, _ => .refused

-- The sections in front of the rotation are accepted.
def Admits (self : LiveUpload) (library : JsonLibrary) (payload : Bytes) (document : Document)
    (candidate : Option RemoteConfig) : Prop :=
  ∃ version assignment, self.addressed library payload = some (document, version) ∧
    self.candidate? library payload version = some candidate ∧ section? (document.member "assignment") = some assignment ∧
    assignment.all (fun assignment => (Assignment.read assignment).valid) = true

-- The document has no assignment, or the one of the device once more.
def Repeats (self : LiveUpload) (document : Document) : Prop :=
  ∀ assignment, section? (document.member "assignment") = some (some assignment) →
    Assignment.read assignment = self.assignment

/-- The NVS has the values of the candidate, but not the mark that they are complete. -/
structure Written (candidate : AppBearerRotation) (slots : Slots AppBearerRotation.layout) : Prop where
  ready : slots.value .candReady = some false
  version : slots.value .candVer = some candidate.version_
  nonce : slots.value .candNonce = some candidate.nonce_
  bearer : slots.value .candidate = some candidate.candidateBearer
  overlap : slots.value .overlapAt = some candidate.overlapExpiresAt
  phase : slots.value .phase = some candidate.phase.byte

def Harmless (self : LiveUpload) (document : Document) (slots : Slots AppBearerRotation.layout) : Prop :=
  match self.reaction document with
  | .accepted => True
  | .refused => self.Repeats document
  | .staged manager candidate =>
    self.Repeats document ∧ candidateOf manager = candidateOf manager.clearCandidateMemory ∧ Written candidate slots

def NoTrace (self : LiveUpload) (library : JsonLibrary) (payload : Bytes)
    (slots : Slots AppBearerRotation.layout) : Prop :=
  ∀ document candidate, self.Admits library payload document candidate → self.Harmless document slots

/-! ## The sections in front of the rotation -/

-- All but the assignment and the texts of the status is as before.
structure SameButAssignment (before after : LiveUpload) : Prop where
  pending : after.pendingRemoteConfig = before.pendingRemoteConfig
  flag : after.hasPendingRemoteConfig = before.hasPendingRemoteConfig
  rotation : after.bearerRotation = before.bearerRotation
  authorization : after.authorization = before.authorization
  protocol : after.protocol = before.protocol

theorem SameButAssignment.manager {before after : LiveUpload} (same : SameButAssignment before after) :
    after.manager = before.manager := by
  rw [LiveUpload.manager, LiveUpload.manager, same.protocol, same.rotation]

theorem SameButAssignment.reaction {before after : LiveUpload} (same : SameButAssignment before after)
    (document : Document) : after.reaction document = before.reaction document := by
  simp only [LiveUpload.reaction, same.authorization, same.protocol, same.manager]

variable {self : LiveUpload} {library : JsonLibrary} {payload : Bytes} {document : Document}
  {candidate : Option RemoteConfig} {slots : Slots AppBearerRotation.layout}

@[simp] theorem candidate?_observed (diagnostics : StatusDiagnostics) (version : UInt32) :
    ({ self with diagnostics := diagnostics } : LiveUpload).candidate? library payload version =
      self.candidate? library payload version := rfl

theorem readSections_admits (admits : self.Admits library payload document candidate) :
    ∃ after, self.readSections library payload = (after, some (document, candidate)) ∧
      SameButAssignment self after ∧ (after.assignment = self.assignment ↔ self.Repeats document) := by
  obtain ⟨version, assignment, addressed, configured, sectioned, valid⟩ := admits
  simp only [readSections, addressed, candidate?_observed, configured, sectioned, Repeats]
  cases assignment with
  | none => exact ⟨_, rfl, ⟨rfl, rfl, rfl, rfl, rfl⟩, by simp [parseAssignment]⟩
  | some assignment =>
    simp only [parseAssignment, if_pos (show (Assignment.read assignment).valid = true from valid)]
    exact ⟨_, rfl, ⟨rfl, rfl, rfl, rfl, rfl⟩, by simp⟩

theorem readSections_refuses (refuses : ∀ document candidate, ¬self.Admits library payload document candidate) :
    ∃ after, self.readSections library payload = (after, none) ∧
      SameButAssignment self after ∧ after.assignment = self.assignment := by
  unfold readSections
  split
  · exact ⟨self, rfl, ⟨rfl, rfl, rfl, rfl, rfl⟩, rfl⟩
  rename_i document version addressed
  dsimp only
  split
  · rename_i candidate assignment configured sectioned
    cases assignment with
    | none => exact absurd ⟨version, none, addressed, configured, sectioned, rfl⟩ (refuses document candidate)
    | some assignment =>
      have invalid : ¬(Assignment.read assignment).valid = true := fun valid =>
        refuses document candidate ⟨version, some assignment, addressed, configured, sectioned, valid⟩
      simp only [parseAssignment, if_neg invalid]
      exact ⟨_, rfl, ⟨rfl, rfl, rfl, rfl, rfl⟩, rfl⟩
  · exact ⟨_, rfl, ⟨rfl, rfl, rfl, rfl, rfl⟩, rfl⟩

/-! ## The rotation -/

/-- `next` differs from `before` in the texts of the status alone. -/
structure Kept (before next : LiveUpload) : Prop where
  pending : next.pendingRemoteConfig = before.pendingRemoteConfig
  flag : next.hasPendingRemoteConfig = before.hasPendingRemoteConfig
  assignment : next.assignment = before.assignment
  candidate : next.bearerRotation.map candidateOf = before.bearerRotation.map candidateOf

-- A rotation that is to be stored: the document is accepted with it or not at all.
def storing (self : LiveUpload) (configuration : Option RemoteConfig) (candidate : AppBearerRotation) :
    AppBearerRotation.Auth (Bool × LiveUpload) := do
  let (saved, rotation) ← candidate.persistCandidate candidate.phase
  if saved then
    return (true, { self with
      bearerRotation := some { rotation with lastError := "" }, managementStatus := "pending" }.settle configuration)
  else
    return (false, { self with
      bearerRotation := some rotation.clearCandidateMemory
      managementError := rotation.clearCandidateMemory.lastError })

theorem manager_some {manager : AppBearerRotation} (managed : self.manager = some manager) :
    self.bearerRotation = some manager := by
  unfold LiveUpload.manager at managed
  split at managed
  · exact managed
  · cases managed

inductive Reacts (self : LiveUpload) (configuration : Option RemoteConfig) :
    AppBearerRotation.Auth (Bool × LiveUpload) → Reaction → Prop
  | accepted (next : LiveUpload) : Reacts self configuration (pure (true, next)) .accepted
  | refused {next : LiveUpload} (kept : Kept self next) : Reacts self configuration (pure (false, next)) .refused
  | staged {manager candidate : AppBearerRotation} {version : UInt32} {nonce token overlapExpiresAt : String}
      (managed : self.bearerRotation = some manager)
      (valid : manager.accepts version nonce token overlapExpiresAt = .ok candidate) :
      Reacts self configuration (self.storing configuration candidate) (.staged manager candidate)

theorem stageRotation_refused {manager : AppBearerRotation} {request : RotationRequest}
    {answer : AppBearerRotation.StageResult × AppBearerRotation} (managed : self.bearerRotation = some manager)
    (answered : manager.accepts request.version request.nonce.string request.token.string
      request.overlapExpiresAt.string = .error answer) :
    Kept self { self with bearerRotation := some answer.2, managementError := answer.2.lastError } := by
  obtain ⟨error, failed⟩ := AppBearerRotation.accepts_error answered
  refine ⟨rfl, rfl, rfl, ?_⟩
  rw [managed, failed]
  rfl

theorem accepts_answers {manager rotation : AppBearerRotation} {result : AppBearerRotation.StageResult}
    {version : UInt32} {nonce token overlapExpiresAt : String}
    (answered : manager.accepts version nonce token overlapExpiresAt = .error (result, rotation)) :
    result = .rejected ∨ result = .alreadyApplied ∨ result = .alreadyPending := by
  unfold AppBearerRotation.accepts at answered
  repeat' split at answered
  all_goals first
    | (obtain ⟨rfl, -⟩ := Prod.mk.inj (Except.error.inj answered); decide)
    | cases answered

theorem finish_reacts (self : LiveUpload) (document : Document) (configuration : Option RemoteConfig) :
    self.Reacts configuration (self.finish document configuration) (self.reaction document) := by
  -- one case per way out of the parser, in the order of its checks
  unfold finish reaction
  cases section? (document.member "credential_rotation") with
  | none => exact .refused ⟨rfl, rfl, rfl, rfl⟩
  | some rotation =>
  unfold parseCredentialRotation
  dsimp only
  by_cases authorized : self.authorization = true
  · rw [if_pos authorized, if_pos authorized, Prog.pure_bind_eq]
    cases rotation.isNone || self.protocol == .https with
    | true => exact .accepted _
    | false => exact .refused ⟨rfl, rfl, rfl, rfl⟩
  rw [if_neg authorized, if_neg authorized]
  cases rotation with
  | none => exact .accepted _
  | some rotation =>
  dsimp only
  cases managed : self.manager with
  | none => exact .refused ⟨rfl, rfl, rfl, rfl⟩
  | some manager =>
  cases rotationRequest rotation with
  | none => exact .refused ⟨rfl, rfl, rfl, rfl⟩
  | some request =>
  have present := manager_some managed
  dsimp only
  unfold stageRotation AppBearerRotation.stage
  cases answered : manager.accepts request.version request.nonce.string request.token.string
    request.overlapExpiresAt.string with
  | error answer =>
    obtain ⟨result, after⟩ := answer
    obtain rfl | rfl | rfl := accepts_answers answered
    · exact .refused (stageRotation_refused present answered)
    · exact .accepted _
    · exact .accepted _
  | ok candidate =>
    refine (congrArg (Reacts self configuration · _) ?_).mpr (.staged present answered)
    rw [storing, Prog.bind_bind_eq, Prog.bind_bind_eq]
    refine congrArg _ (funext fun answer => ?_)
    obtain ⟨saved, rotation⟩ := answer
    cases saved <;> rfl

section Storing

variable {candidate : AppBearerRotation}

theorem Written.put_same {written stored : Slots AppBearerRotation.layout} {key : AppBearerRotation.Key}
    {value : AppBearerRotation.layout.Value key} (same : ∀ key, stored.value key = written.value key)
    (held : written.value key = some value) (other : AppBearerRotation.Key) :
    (stored.put key value).value other = written.value other := by
  by_cases here : other = key
  · subst here
    exact (Slots.value_put_same stored other value).trans held.symm
  · exact (Slots.value_put_ne stored value here).trans (same other)

/-- The next value is stored already, so that it makes no difference whether it is stored once more. -/
theorem putNext_same {written stored : Slots AppBearerRotation.layout} {saved : Bool}
    {key : AppBearerRotation.Key} {value : AppBearerRotation.layout.Value key}
    (same : ∀ key, stored.value key = written.value key) (held : written.value key = some value) :
    nvs.wp (Preferences.putNext saved key value) (fun _ last => ∀ key, last.value key = written.value key)
      (fun _ => True) stored :=
  Slots.wp_putNext trivial same fun _ => ⟨trivial, Written.put_same same held⟩

theorem persistCandidate_written (written : Written candidate slots) :
    nvs.wp (candidate.persistCandidate candidate.phase)
      (fun answer last => answer.1 = false → ∀ key, last.value key = slots.value key) (fun _ => True) slots := by
  refine Model.wp_bind.mpr (Slots.wp_open trivial trivial ?_ ⟨trivial, fun _ _ => rfl⟩)
  refine Model.wp_then (putNext_same (fun _ => rfl) written.ready) (fun _ _ => trivial) fun _ _ same => ?_
  refine Model.wp_then (putNext_same same written.version) (fun _ _ => trivial) fun _ _ same => ?_
  refine Model.wp_then (putNext_same same written.nonce) (fun _ _ => trivial) fun _ _ same => ?_
  refine Model.wp_then (putNext_same same written.bearer) (fun _ _ => trivial) fun _ _ same => ?_
  refine Model.wp_then (putNext_same same written.overlap) (fun _ _ => trivial) fun _ _ same => ?_
  refine Model.wp_then (putNext_same same written.phase) (fun _ _ => trivial) fun saved _ same => ?_
  refine Model.wp_bind.mpr (Slots.wp_putNext trivial ?_ fun _ => ⟨trivial, ?_⟩)
  · exact ⟨trivial, fun _ => same⟩
  · exact ⟨trivial, fun refused => by cases refused⟩

def stalling (slots : Slots AppBearerRotation.layout) :
    (op : PreferencesOp AppBearerRotation.layout) →
      (Preferences AppBearerRotation.layout).Reply op × Slots AppBearerRotation.layout
  | .put .candReady true => (false, slots)
  | op => slots.handle (fun _ => false) op

theorem device_stalling (slots : Slots AppBearerRotation.layout) (op : PreferencesOp AppBearerRotation.layout) :
    nvs.step slots op (stalling slots op).1 (stalling slots op).2 := by
  unfold stalling
  split
  · exact .inr ⟨rfl, rfl⟩
  · exact Slots.device_handle _ slots op

theorem putNext_stalling {stored : Slots AppBearerRotation.layout} (key : AppBearerRotation.Key)
    {value : AppBearerRotation.layout.Value key}
    (works : stalling stored (.put key value) = (true, stored.put key value))
    (long : 0 < (AppBearerRotation.layout.kind key).size value) :
    (Preferences.putNext true key value).exec stalling stored = (true, stored.put key value) := by
  have written : (Preferences.put key value).exec stalling stored =
      ((AppBearerRotation.layout.kind key).size value, stored.put key value) := by
    unfold Preferences.put
    rw [Prog.exec_bind, show (Prog.request (S := Preferences AppBearerRotation.layout) (.put key value)).exec
      stalling stored = (true, stored.put key value) from works]
    rfl
  unfold Preferences.putNext
  rw [if_pos rfl, Prog.exec_bind, written]
  exact congrArg (fun saved => (saved, stored.put key value)) (decide_eq_true long)

theorem persistCandidate_stalling (nonce : 0 < candidate.nonce_.length) (bearer : 0 < candidate.candidateBearer.length)
    (overlap : 0 < candidate.overlapExpiresAt.length) :
    ∃ last, (candidate.persistCandidate candidate.phase).exec stalling slots =
      ((false, candidate.failed "credential rotation persistence failed"), last) ∧ Written candidate last := by
  unfold AppBearerRotation.persistCandidate
  rw [Prog.exec_bind,
    show (Preferences.openNamespace false).exec stalling slots = (true, { slots with present := true }) from rfl]
  dsimp only
  rw [if_neg (by decide)]
  rw [Prog.exec_bind, putNext_stalling .candReady rfl Nat.one_pos]
  rw [Prog.exec_bind, putNext_stalling .candVer rfl (Nat.zero_lt_succ 3)]
  rw [Prog.exec_bind, putNext_stalling .candNonce rfl nonce]
  rw [Prog.exec_bind, putNext_stalling .candidate rfl bearer]
  rw [Prog.exec_bind, putNext_stalling .overlapAt rfl overlap]
  rw [Prog.exec_bind, putNext_stalling .phase rfl Nat.one_pos]
  refine ⟨_, rfl, ?_⟩
  constructor <;> simp [stalling]

end Storing

/-! ## All or nothing -/

variable {manager staged : AppBearerRotation}

theorem accepts_lengths {version : UInt32} {nonce token overlapExpiresAt : String}
    (accepted : manager.accepts version nonce token overlapExpiresAt = .ok staged) :
    0 < staged.nonce_.length ∧ 0 < staged.candidateBearer.length ∧ 0 < staged.overlapExpiresAt.length := by
  obtain rfl := AppBearerRotation.accepts_ok accepted
  unfold AppBearerRotation.accepts at accepted
  split at accepted
  · cases accepted
  rename_i valid
  simp only [AppBearerRotation.validSecret, Bool.or_eq_true, Bool.not_eq_true', Bool.not_eq_false, not_or,
    Bool.and_eq_true, decide_eq_true_eq] at valid
  obtain ⟨⟨⟨-, nonce⟩, token⟩, overlap⟩ := valid
  exact ⟨Nat.lt_of_lt_of_le (by decide) nonce.1.1, Nat.lt_of_lt_of_le (by decide) token.1.1,
    Nat.lt_of_lt_of_le (by decide) overlap.1.1⟩

theorem storing_untouched (managed : self.bearerRotation = some manager)
    (cleared : candidateOf manager = candidateOf manager.clearCandidateMemory) (written : Written staged slots) :
    nvs.wp (self.storing candidate staged)
      (fun answer last => answer.1 = false →
        Kept self answer.2 ∧ ∀ key, last.value key = slots.value key) (fun _ => True) slots := by
  refine Model.wp_then (persistCandidate_written written) (fun _ _ => trivial) ?_
  rintro ⟨saved, rotation⟩ last same
  cases saved with
  | true => exact ⟨trivial, fun refused => by cases refused⟩
  | false =>
    refine ⟨trivial, fun _ => ⟨⟨rfl, rfl, rfl, ?_⟩, same rfl⟩⟩
    rw [managed]
    exact congrArg some cleared.symm

/-- When the last mark cannot be written, memory has no candidate and the NVS has all its values. -/
theorem storing_stalled (self : LiveUpload) (candidate : Option RemoteConfig)
    (lengths : 0 < staged.nonce_.length ∧ 0 < staged.candidateBearer.length ∧ 0 < staged.overlapExpiresAt.length)
    (slots : Slots AppBearerRotation.layout) :
    ∃ (next : LiveUpload) (last : Slots AppBearerRotation.layout),
      nvs.Runs (self.storing candidate staged) slots (false, next) last ∧ Written staged last ∧
        next.assignment = self.assignment ∧
          next.bearerRotation.map candidateOf = some (candidateOf staged.clearCandidateMemory) := by
  obtain ⟨last, stalled, written⟩ := persistCandidate_stalling lengths.1 lengths.2.1 lengths.2.2
  have run := Model.runs_of_handler device_stalling (self.storing candidate staged) slots
  unfold storing at run ⊢
  rw [Prog.exec_bind, stalled] at run
  exact ⟨_, last, run, written, rfl, rfl⟩

theorem consumeDesiredState_admits (admits : self.Admits library payload document candidate) :
    ∃ after, self.consumeDesiredState library payload = after.finish document candidate ∧
      SameButAssignment self after ∧ (after.assignment = self.assignment ↔ self.Repeats document) := by
  obtain ⟨after, read, same, repeats⟩ := readSections_admits admits
  exact ⟨after, by rw [consumeDesiredState, read], same, repeats⟩

theorem Kept.untouched {after next : LiveUpload} {last : Slots AppBearerRotation.layout} (kept : Kept after next)
    (same : SameButAssignment self after) (assignment : after.assignment = self.assignment)
    (stored : ∀ key, last.value key = slots.value key) : Untouched self next slots last :=
  ⟨kept.pending.trans same.pending, kept.flag.trans same.flag, kept.assignment.trans assignment,
    kept.candidate.trans (congrArg _ same.rotation), stored⟩

theorem allOrNothing_of_noTrace (noTrace : self.NoTrace library payload slots) :
    self.AllOrNothing library payload slots := by
  intro answer last run refused
  by_cases admitted : ∃ document candidate, self.Admits library payload document candidate
  · obtain ⟨document, candidate, admits⟩ := admitted
    obtain ⟨after, rest, same, repeats⟩ := consumeDesiredState_admits admits
    have harmless := noTrace document candidate admits
    have reacts := after.finish_reacts document candidate
    rw [rest] at run
    rw [Harmless, ← same.reaction] at harmless
    generalize after.finish document candidate = program at run reacts
    generalize after.reaction document = reaction at harmless reacts
    cases reacts with
    | accepted next =>
      cases run
      cases refused
    | refused kept =>
      cases run
      exact kept.untouched same (repeats.mpr harmless) fun _ => rfl
    | staged managed valid =>
      obtain ⟨unchanged, cleared, written⟩ := harmless
      obtain ⟨kept, stored⟩ := Model.wp_runs (storing_untouched managed cleared written) run refused
      exact kept.untouched same (repeats.mpr unchanged) stored
  · obtain ⟨after, read, same, assignment⟩ := readSections_refuses fun document candidate admits =>
      admitted ⟨document, candidate, admits⟩
    rw [consumeDesiredState, read] at run
    cases run
    exact ⟨same.pending, same.flag, assignment, congrArg _ same.rotation, fun _ => rfl⟩

theorem noTrace_of_allOrNothing (allOrNothing : self.AllOrNothing library payload slots) :
    self.NoTrace library payload slots := by
  intro document candidate admits
  obtain ⟨after, rest, same, repeats⟩ := consumeDesiredState_admits admits
  have reacts := after.finish_reacts document candidate
  rw [Harmless, ← same.reaction]
  have all (answer : Bool × LiveUpload) (last : Slots AppBearerRotation.layout)
      (run : nvs.Runs (after.finish document candidate) slots answer last) (refused : answer.1 = false) :
      Untouched self answer.2 slots last := allOrNothing answer last (rest ▸ run) refused
  generalize after.finish document candidate = program at all reacts
  generalize after.reaction document = reaction at reacts
  cases reacts with
  | accepted next => trivial
  | refused kept =>
    have untouched := all _ slots (.done _ _) rfl
    exact repeats.mp (kept.assignment.symm.trans untouched.assignment)
  | @staged manager staged _ _ _ _ managed valid =>
    obtain ⟨next, last, run, written, assignment, cleared⟩ :=
      storing_stalled after candidate (accepts_lengths valid) slots
    have untouched := all _ last run rfl
    refine ⟨repeats.mp (assignment.symm.trans untouched.assignment), ?_, ?_⟩
    · have before := untouched.candidate.symm.trans cleared
      rw [← same.rotation, managed] at before
      exact Option.some.inj before
    · constructor <;> rw [← untouched.stored]
      exacts [written.ready, written.version, written.nonce, written.bearer, written.overlap, written.phase]

/-- A refused document leaves no trace exactly when it has nothing to be undone: its assignment is the one of the
device, and storing its rotation can change neither the memory nor the NVS. -/
theorem consumeDesiredState_allOrNothing (self : LiveUpload) (library : JsonLibrary) (payload : Bytes)
    (slots : Slots AppBearerRotation.layout) :
    self.AllOrNothing library payload slots ↔ self.NoTrace library payload slots :=
  ⟨noTrace_of_allOrNothing, allOrNothing_of_noTrace⟩

/-! A document with an assignment and a rotation that says only its type. -/

def armed : Document :=
  .object [(.literal "schema_version", .int 1), (.literal "device_id", .string (ascii "mda-1")),
    (.literal "config_version", .int 0),
    (.literal "assignment", .object [(.literal "status", .string (ascii "armed")),
      (.literal "target_session_id", .string (ascii "run-7"))]),
    (.literal "credential_rotation", .object [(.literal "type", .string (ascii "app_bearer"))])]

def armedPayload : Bytes :=
  ascii ("\x7b\"schema_version\":1,\"device_id\":\"mda-1\",\"config_version\":0,\"assignment\":" ++
    "\x7b\"status\":\"armed\",\"target_session_id\":\"run-7\"\x7d,\"credential_rotation\":" ++
    "\x7b\"type\":\"app_bearer\"\x7d\x7d")

def armedLibrary : JsonLibrary where
  deserialize _ _ := some armed
  textInt _ := 0
  textUInt _ := 0
  realInt _ := 0
  realUInt _ := 0

def uploader : LiveUpload where
  deviceId := .literal "mda-1"
  protocol := .https
  bearerRotation := some { activeBearer := "ed2f51a08c96b374" }

theorem not_consumeDesiredState_allOrNothing :
    ¬∀ (self : LiveUpload) (library : JsonLibrary) (payload : Bytes) (slots : Slots AppBearerRotation.layout),
      self.AllOrNothing library payload slots := by
  intro claimed
  have run := Model.runs_of_handler (Slots.device_handle (L := AppBearerRotation.layout) fun _ => false)
    (uploader.consumeDesiredState armedLibrary armedPayload) {}
  have untouched := claimed uploader armedLibrary armedPayload {} _ _ run (by decide +kernel)
  exact absurd untouched.assignment (by decide +kernel)

end LiveUpload

end ApexiDevices
