import ApexiDevices.Ota.SignedOta

set_option autoImplicit false

namespace ApexiDevices

open Device

namespace Esp

inductive PartitionType
  | app
  | data
deriving DecidableEq, Repr

inductive Subtype
  | appOta0
  | appOta1
  | dataNvsKeys
  | dataSpiffs
  | other
deriving DecidableEq, Repr

/-- A row of the partition table; its address identifies it. -/
structure Partition where
  address : UInt32
  size : UInt32
  type : PartitionType
  subtype : Subtype
  encrypted : Bool
deriving DecidableEq, Repr

inductive ImageState
  | valid
  | pendingVerify
  | other
deriving DecidableEq, Repr

inductive EncryptionMode
  | disabled
  | development
  | release
deriving DecidableEq, Repr

structure AppDescription where
  magicWord : UInt32
  secureVersion : UInt32
  projectName : Bytes
deriving DecidableEq

abbrev Handle := Nat

inductive Op
  | findPartition (subtype : Subtype) (label : Option String)
  | secureBootEnabled
  | flashEncryptionMode
  | runningPartition
  | nextUpdatePartition
  | statePartition (partition : Partition)
  | otaBegin (partition : Partition) (bytes : UInt32)
  | otaWrite (handle : Handle) (data : Bytes) (bytes : UInt32)
  | otaEnd (handle : Handle)
  | otaAbort (handle : Handle)
  | partitionDescription (partition : Option Partition)
  | setBootPartition (partition : Option Partition)
  | markAppValid
  | rollbackPossible
  | markAppInvalid

end Esp

open Esp in
/-- The ESP-IDF calls of the backend; nothing is answered where the call fails. -/
abbrev Esp : Signature where
  Op := Esp.Op
  Reply
    | .findPartition _ _ | .runningPartition | .nextUpdatePartition => Option Partition
    | .flashEncryptionMode => EncryptionMode
    | .statePartition _ => Option ImageState
    | .otaBegin _ _ => Option Handle
    | .partitionDescription _ => Option AppDescription
    | .otaAbort _ => Unit
    | _ => Bool

namespace Esp

def kAppDescriptionMagicWord : UInt32 := 0xABCD5432

def call (op : Op) : Prog Esp (Esp.Reply op) := Prog.request (S := Esp) op

end Esp

/-- The build options the secure posture depends on. -/
structure Build where
  productionSecurityRequired : Bool
  secureBootV2Enabled : Bool
  secureBoot : Bool
  secureFlashEncEnabled : Bool
  secureFlashEncryptionModeRelease : Bool
  bootloaderAppRollbackEnable : Bool
  nvsEncryption : Bool
  encryptedQueueQualified : Bool
  bootloaderAppAntiRollback : Bool

def Build.secure (build : Build) : Bool :=
  build.productionSecurityRequired && build.secureBootV2Enabled && build.secureBoot &&
    build.secureFlashEncEnabled && build.secureFlashEncryptionModeRelease &&
    build.bootloaderAppRollbackEnable && build.nvsEncryption && build.encryptedQueueQualified &&
    !build.bootloaderAppAntiRollback

open Esp in
structure SignedOtaEsp32 where
  target : Option Partition := none
  handle : Handle := 0
  isOpen : Bool := false
  verified : Bool := false

namespace SignedOtaEsp32

open Esp SignedOtaBackend

def securePosture (build : Build) : Prog Esp Bool := do
  if !build.secure then
    return false
  let keys ← call (.findPartition .dataNvsKeys none)
  let queue ← call (.findPartition .dataSpiffs (some "littlefs"))
  if !(keys.any (fun keys => keys.encrypted && keys.size == 4096) && queue.any (·.encrypted)) then
    return false
  if !(← call .secureBootEnabled) then
    return false
  return (← call .flashEncryptionMode) == .release

def bootState : Prog Esp Boot := do
  match ← call .runningPartition with
  | none => return .unknown
  | some running =>
    match ← call (.statePartition running) with
    | some .valid => return .valid
    | some .pendingVerify => return .pending
    | _ => return .unknown

/-- The slot that is not running, when both ends are known and it is an update slot. -/
def inactiveOf (running next : Option Partition) : Option Partition :=
  match running, next with
  | some running, some next =>
    if running.address == next.address || next.type != .app ||
        (next.subtype != .appOta0 && next.subtype != .appOta1) then none
    else some next
  | _, _ => none

def inactive : Prog Esp (Option Partition) := do
  let running ← call .runningPartition
  let next ← call .nextUpdatePartition
  return inactiveOf running next

def inactiveCapacity : Prog Esp UInt32 := do
  match ← inactive with
  | none => return 0
  | some next => return next.size

variable (build : Build) (backend : SignedOtaEsp32)

def beginTarget (bytes : UInt32) : Prog Esp (Bool × SignedOtaEsp32) := do
  match backend.target with
  | none => return (false, backend)
  | some target =>
    if bytes == 0 || bytes > target.size then
      return (false, backend)
    match ← call (.otaBegin target bytes) with
    | none => return (false, { backend with isOpen := false })
    | some handle => return (true, { backend with handle := handle, isOpen := true })

def beginInactive (bytes : UInt32) : Prog Esp (Bool × SignedOtaEsp32) := do
  if backend.isOpen then
    return (false, backend)
  if !(← securePosture build) then
    return (false, backend)
  if (← bootState) != .valid then
    return (false, backend)
  let target ← inactive
  beginTarget { backend with target := target, verified := false } bytes

def write (data : Bytes) (bytes : UInt32) : Prog Esp (Bool × SignedOtaEsp32) := do
  if backend.isOpen then
    return (← call (.otaWrite backend.handle data bytes), backend)
  else
    return (false, backend)

def acceptable (candidate running : AppDescription) : Bool :=
  candidate.magicWord == kAppDescriptionMagicWord &&
    candidate.secureVersion == running.secureVersion && candidate.projectName == running.projectName

def verifyTarget : Prog Esp (Bool × SignedOtaEsp32) := do
  match ← call (.partitionDescription backend.target) with
  | none => return (false, backend)
  | some candidate =>
    let runningPartition ← call .runningPartition
    match ← call (.partitionDescription runningPartition) with
    | none => return (false, backend)
    | some running =>
      return (acceptable candidate running, { backend with verified := acceptable candidate running })

def finishAndVerify : Prog Esp (Bool × SignedOtaEsp32) := do
  if !backend.isOpen then
    return (false, backend)
  if !(← securePosture build) then
    return (false, backend)
  -- The end consumes the handle on every outcome.
  let backend := { backend with isOpen := false }
  if !(← call (.otaEnd backend.handle)) then
    return (false, backend)
  backend.verifyTarget

def bootTarget (inactive : Option Partition) : Prog Esp (Bool × SignedOtaEsp32) := do
  if backend.target != inactive then
    return (false, backend)
  return (← call (.setBootPartition backend.target), { backend with verified := false })

def selectVerified : Prog Esp (Bool × SignedOtaEsp32) := do
  if !backend.verified then
    return (false, backend)
  if !(← securePosture build) then
    return (false, backend)
  if (← bootState) != .valid then
    return (false, backend)
  backend.bootTarget (← inactive)

def abort : Prog Esp SignedOtaEsp32 := do
  if backend.isOpen then
    let _ ← call (.otaAbort backend.handle)
    return { backend with isOpen := false, verified := false }
  else
    return { backend with isOpen := false, verified := false }

def confirmHealthy : Prog Esp Bool := do
  if !(← securePosture build) then
    return false
  if (← bootState) != .pending then
    return false
  call .markAppValid

/-- The virtual methods of the backend. -/
def implement : (op : SignedOtaBackend.Op) → Prog Esp (SignedOtaBackend.Reply op × SignedOtaEsp32)
  | .securePosture => do return (← securePosture build, backend)
  | .bootState => do return (← bootState, backend)
  | .inactiveCapacity => do return (← inactiveCapacity, backend)
  | .beginInactive bytes => backend.beginInactive build bytes
  | .write data bytes => backend.write data bytes
  | .finishAndVerify => backend.finishAndVerify build
  | .selectVerified => backend.selectVerified build
  | .abort => do return ((), ← backend.abort)
  | .confirmHealthy => do return (← confirmHealthy build, backend)
  | .rollbackPossible => do return (← call .rollbackPossible, backend)
  | .rollback => do return (← call .markAppInvalid, backend)

end SignedOtaEsp32

end ApexiDevices
