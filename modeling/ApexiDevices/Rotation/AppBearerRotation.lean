import ApexiDevices.Storage.Preferences

set_option autoImplicit false

namespace ApexiDevices

open Device

namespace AppBearerRotation

inductive Key
  | active
  | appliedVer
  | appliedNonce
  | candReady
  | candVer
  | candNonce
  | candidate
  | overlapAt
  | phase
deriving DecidableEq

/-- The namespace `apexi_auth`. -/
abbrev layout : Layout where
  Key := Key
  kind
    | .active | .appliedNonce | .candNonce | .candidate | .overlapAt => .string
    | .appliedVer | .candVer => .uint
    | .candReady => .bool
    | .phase => .uchar

abbrev Auth := Prog (Preferences layout)

abbrev nvs : Model (Preferences layout) (Slots layout) := Slots.device

inductive StageResult
  | staged
  | alreadyPending
  | alreadyApplied
  | rejected
  | storageFault
deriving DecidableEq, Repr

inductive Phase
  | none
  | staged
  | acknowledged
deriving DecidableEq, Repr

def Phase.byte : Phase → UInt8
  | .none => 0
  | .staged => 1
  | .acknowledged => 2

-- Only the bytes of the two candidate phases are accepted from storage.
def Phase.ofByte (byte : UInt8) : Phase :=
  if byte == Phase.acknowledged.byte then .acknowledged else .staged

def kMaximumBearerLength : Nat := 511
def kMaximumNonceLength : Nat := 96
def kMaximumExpiryLength : Nat := 40

def validSecret (value : String) (maximum minimum : Nat) : Bool :=
  minimum ≤ value.length && value.length ≤ maximum &&
    value.toList.all fun character => !(character.toNat < 0x21 || character.toNat == 0x7f)

end AppBearerRotation

open AppBearerRotation in
structure AppBearerRotation where
  activeBearer : String := ""
  candidateBearer : String := ""
  nonce_ : String := ""
  overlapExpiresAt : String := ""
  appliedNonce : String := ""
  lastError : String := ""
  version_ : UInt32 := 0
  appliedVersion : UInt32 := 0
  phase : Phase := .none

namespace AppBearerRotation

variable (rotation : AppBearerRotation)

def hasCandidate : Bool := rotation.phase != .none && !rotation.candidateBearer.isEmpty

def version : UInt32 := if rotation.hasCandidate then rotation.version_ else rotation.appliedVersion

def nonce : String := if rotation.hasCandidate then rotation.nonce_ else rotation.appliedNonce

-- The candidate proof and later heartbeats omit the acknowledgement.
def hasAppliedAcknowledgement : Bool := rotation.hasCandidate && rotation.phase == .staged

def failed (error : String) : AppBearerRotation := { rotation with lastError := error }

def clearCandidateMemory : AppBearerRotation :=
  { rotation with
    candidateBearer := "", nonce_ := "", overlapExpiresAt := "", version_ := 0, phase := .none }

/-- The removals after `cand_ready`, the same in both places that clear a candidate. -/
def removeCandidateKeys : Auth Unit := do
  let _ ← Preferences.remove Key.candidate
  let _ ← Preferences.remove Key.candVer
  let _ ← Preferences.remove Key.candNonce
  let _ ← Preferences.remove Key.overlapAt
  let _ ← Preferences.remove Key.phase

def clearCandidatePersistent : Auth Unit := do
  if ← Preferences.openNamespace false then
    let _ ← Preferences.remove Key.candReady
    removeCandidateKeys

/-- A loaded candidate; the phase byte is checked before it becomes a phase. -/
def validCandidate (phase : UInt8) : Bool :=
  rotation.version_ != 0 && validSecret rotation.nonce_ kMaximumNonceLength 8 &&
    validSecret rotation.candidateBearer kMaximumBearerLength 16 &&
    validSecret rotation.overlapExpiresAt kMaximumExpiryLength 20 &&
    (phase == Phase.staged.byte || phase == Phase.acknowledged.byte)

def checkCandidate (phase : UInt8) : Auth (Bool × AppBearerRotation) := do
  if rotation.validCandidate phase then
    return (!rotation.activeBearer.isEmpty, rotation)
  clearCandidatePersistent
  return (false, rotation.clearCandidateMemory.failed "credential rotation record is invalid")

def loadCandidate : Auth (Bool × AppBearerRotation) := do
  let version ← Preferences.get Key.candVer (0 : UInt32)
  let nonce ← Preferences.get Key.candNonce ""
  let candidate ← Preferences.get Key.candidate ""
  let overlap ← Preferences.get Key.overlapAt ""
  let phase ← Preferences.get Key.phase (0 : UInt8)
  checkCandidate { rotation with
    version_ := version, nonce_ := nonce, candidateBearer := candidate, overlapExpiresAt := overlap
    phase := Phase.ofByte phase } phase

def restoreActive (persistedActive : String) : AppBearerRotation :=
  if persistedActive.isEmpty then rotation else { rotation with activeBearer := persistedActive }

theorem restoreActive_phase (persistedActive : String) :
    (rotation.restoreActive persistedActive).phase = rotation.phase := by
  unfold restoreActive
  split <;> rfl

def begin (provisionedBearer : Option String) : Auth (Bool × AppBearerRotation) := do
  let rotation : AppBearerRotation := { activeBearer := provisionedBearer.getD "" }
  if !(← Preferences.openNamespace true) then
    return (false, rotation.failed "credential rotation store unavailable")
  let persistedActive ← Preferences.get Key.active ""
  let appliedVersion ← Preferences.get Key.appliedVer (0 : UInt32)
  let appliedNonce ← Preferences.get Key.appliedNonce ""
  let ready ← Preferences.get Key.candReady false
  let rotation := { rotation.restoreActive persistedActive with
    appliedVersion := appliedVersion, appliedNonce := appliedNonce }
  if ready then
    rotation.loadCandidate
  else
    return (!rotation.activeBearer.isEmpty, rotation)

def persistCandidate (phase : Phase) : Auth (Bool × AppBearerRotation) := do
  if !(← Preferences.openNamespace false) then
    return (false, rotation.failed "credential rotation store unavailable")
  let saved ← Preferences.putNext true Key.candReady false
  let saved ← Preferences.putNext saved Key.candVer rotation.version_
  let saved ← Preferences.putNext saved Key.candNonce rotation.nonce_
  let saved ← Preferences.putNext saved Key.candidate rotation.candidateBearer
  let saved ← Preferences.putNext saved Key.overlapAt rotation.overlapExpiresAt
  let saved ← Preferences.putNext saved Key.phase phase.byte
  let saved ← Preferences.putNext saved Key.candReady true
  if saved then
    return (true, rotation)
  else
    return (false, rotation.failed "credential rotation persistence failed")

/-- The checks of `stage`: an answer, or the rotation with the candidate to persist. -/
def accepts (version : UInt32) (nonce token overlapExpiresAt : String) :
    Except (StageResult × AppBearerRotation) AppBearerRotation :=
  if version == 0 || !validSecret nonce kMaximumNonceLength 8 ||
      !validSecret token kMaximumBearerLength 16 ||
      !validSecret overlapExpiresAt kMaximumExpiryLength 20 then
    .error (.rejected, rotation.failed "invalid credential rotation request")
  else if version == rotation.appliedVersion then
    if nonce == rotation.appliedNonce && token == rotation.activeBearer then
      .error (.alreadyApplied, rotation)
    else
      .error (.rejected, rotation.failed "credential rotation version was reused")
  else if rotation.hasCandidate then
    if version == rotation.version_ && nonce == rotation.nonce_ && token == rotation.candidateBearer then
      .error (.alreadyPending, rotation)
    else
      .error (.rejected, rotation.failed (if version ≤ rotation.version_ then
        "credential rotation is stale" else "credential rotation already pending"))
  else if version < rotation.appliedVersion then
    .error (.rejected, rotation.failed "credential rotation is stale")
  else if token == rotation.activeBearer then
    .error (.rejected, rotation.failed "credential rotation token is already active")
  else
    .ok { rotation with
      version_ := version, nonce_ := nonce, candidateBearer := token
      overlapExpiresAt := overlapExpiresAt, phase := .staged }

def stage (version : UInt32) (nonce token overlapExpiresAt : String) :
    Auth (StageResult × AppBearerRotation) := do
  match rotation.accepts version nonce token overlapExpiresAt with
  | .error answer => return answer
  | .ok candidate =>
    let (saved, rotation) ← candidate.persistCandidate candidate.phase
    if saved then
      return (.staged, { rotation with lastError := "" })
    else
      return (.storageFault, rotation.clearCandidateMemory)

def markAcknowledged : Auth (Bool × AppBearerRotation) := do
  if !rotation.hasCandidate then
    return (false, rotation)
  if !(← Preferences.openNamespace false) then
    return (false, rotation.failed "credential rotation store unavailable")
  -- The complete candidate is already durable: only its phase changes.
  let saved ← Preferences.putNext true Key.phase Phase.acknowledged.byte
  if saved then
    return (true, { rotation with phase := .acknowledged, lastError := "" })
  else
    return (false, rotation.failed "credential rotation acknowledgement persistence failed")

def removeNext (saved : Bool) (key : Key) : Auth Bool := do
  if saved then Preferences.remove key else return false

def promoteCandidate : Auth (Bool × AppBearerRotation) := do
  if !rotation.hasCandidate || rotation.phase != .acknowledged then
    return (false, rotation)
  if !(← Preferences.openNamespace false) then
    return (false, rotation.failed "credential rotation store unavailable")
  let saved ← Preferences.putNext true Key.active rotation.candidateBearer
  let saved ← Preferences.putNext saved Key.appliedVer rotation.version_
  let saved ← Preferences.putNext saved Key.appliedNonce rotation.nonce_
  let saved ← removeNext saved .candReady
  if saved then
    removeCandidateKeys
    return (true, { rotation.clearCandidateMemory with
      activeBearer := rotation.candidateBearer, appliedVersion := rotation.version_
      appliedNonce := rotation.nonce_, lastError := "" })
  else
    return (false, rotation.failed "credential rotation promotion failed")

def abandonCandidate : Auth AppBearerRotation := do
  clearCandidatePersistent
  return rotation.clearCandidateMemory

def factoryReset : Auth Bool := do
  if !(← Preferences.openNamespace false) then
    return false
  Preferences.clear

end AppBearerRotation

end ApexiDevices
