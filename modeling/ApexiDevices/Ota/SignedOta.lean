import ApexiDevices.Shared.Bytes
import ApexiDevices.Shared.Recording

set_option autoImplicit false

namespace ApexiDevices

open Device

namespace SignedOtaBackend

inductive Boot
  | valid
  | pending
  | unknown
deriving DecidableEq, Repr

inductive Op
  | securePosture
  | bootState
  | inactiveCapacity
  | beginInactive (bytes : UInt32)
  | write (data : Bytes) (bytes : UInt32)
  | finishAndVerify
  | selectVerified
  | abort
  | confirmHealthy
  | rollbackPossible
  | rollback

end SignedOtaBackend

open SignedOtaBackend in
abbrev SignedOtaBackend : Signature where
  Op := Op
  Reply
    | .bootState => Boot
    | .inactiveCapacity => UInt32
    | .abort => Unit
    | _ => Bool

namespace SignedOtaBackend

abbrev Backend := Prog SignedOtaBackend

def securePosture : Backend Bool := Prog.request (S := SignedOtaBackend) .securePosture
def bootState : Backend Boot := Prog.request (S := SignedOtaBackend) .bootState
def inactiveCapacity : Backend UInt32 := Prog.request (S := SignedOtaBackend) .inactiveCapacity
def beginInactive (bytes : UInt32) : Backend Bool :=
  Prog.request (S := SignedOtaBackend) (.beginInactive bytes)
def write (data : Bytes) (bytes : UInt32) : Backend Bool :=
  Prog.request (S := SignedOtaBackend) (.write data bytes)
def finishAndVerify : Backend Bool := Prog.request (S := SignedOtaBackend) .finishAndVerify
def selectVerified : Backend Bool := Prog.request (S := SignedOtaBackend) .selectVerified
def abort : Backend Unit := Prog.request (S := SignedOtaBackend) .abort
def confirmHealthy : Backend Bool := Prog.request (S := SignedOtaBackend) .confirmHealthy
def rollbackPossible : Backend Bool := Prog.request (S := SignedOtaBackend) .rollbackPossible
def rollback : Backend Bool := Prog.request (S := SignedOtaBackend) .rollback

end SignedOtaBackend

namespace SignedOta

inductive State
  | idle
  | receiving
  | readyToReboot
  | failed
deriving DecidableEq, Repr

end SignedOta

structure SignedOta where
  state : SignedOta.State := .idle
  expected : UInt32 := 0
  received : UInt32 := 0
  error : String := ""

namespace SignedOta

open SignedOtaBackend

variable (ota : SignedOta)

def fail (error : String) : Backend (Bool × SignedOta) := do
  if ota.state == .receiving then
    abort
  return (false, { ota with state := .failed, error := error })

def begin (bytes : UInt32) : Backend (Bool × SignedOta) := do
  if ota.state == .receiving || ota.state == .readyToReboot then
    return (false, ota)
  if !(← securePosture) then
    return ← ota.fail "secure production posture required"
  if (← bootState) != .valid then
    return ← ota.fail "running image is not confirmed"
  -- A length of zero is rejected without asking for the capacity.
  if bytes == 0 then
    return ← ota.fail "image exceeds inactive slot capacity"
  if bytes > (← inactiveCapacity) then
    return ← ota.fail "image exceeds inactive slot capacity"
  if !(← beginInactive bytes) then
    return ← ota.fail "inactive slot preparation failed"
  return (true, { state := .receiving, expected := bytes, received := 0, error := "" })

/-- `none` is a null pointer. -/
def append (data : Option Bytes) (bytes : UInt32) : Backend (Bool × SignedOta) := do
  if ota.state != .receiving then
    return (false, ota)
  match data with
  | none => ota.fail "invalid image chunk or length"
  | some data =>
    if bytes == 0 || bytes > 4096 || bytes > ota.expected - ota.received then
      return ← ota.fail "invalid image chunk or length"
    if !(← SignedOtaBackend.write data bytes) then
      return ← ota.fail "inactive slot write failed"
    return (true, { ota with received := ota.received + bytes })

def finish : Backend (Bool × SignedOta) := do
  if ota.state != .receiving then
    return (false, ota)
  if ota.received != ota.expected then
    return ← ota.fail "incomplete image"
  if !(← securePosture) then
    return ← ota.fail "security posture changed"
  if !(← finishAndVerify) then
    return ← ota.fail "image signature or release policy rejected"
  if !(← selectVerified) then
    return ← ota.fail "verified image selection failed"
  return (true, { ota with state := .readyToReboot })

def cancel : Backend SignedOta := do
  if ota.state == .receiving then
    return (← ota.fail "update cancelled; current slot preserved").2
  else
    return ota

end SignedOta

namespace OtaBootHealth

inductive State
  | inactive
  | pending
  | confirmed
  | rolledBack
  | recoveryRequired
deriving DecidableEq, Repr

end OtaBootHealth

structure OtaBootHealth where
  state : OtaBootHealth.State := .inactive
  startedMs : UInt32 := 0
  healthySinceMs : UInt32 := 0
  healthy : Bool := false

namespace OtaBootHealth

open SignedOtaBackend

variable (health : OtaBootHealth)

def begin (nowMs : UInt32) (productionRequired : Bool) : Backend OtaBootHealth := do
  let health := { health with startedMs := nowMs, healthy := false, state := .inactive }
  if !productionRequired then
    return health
  match ← bootState with
  | .pending => return { health with state := .pending }
  | .unknown => return { health with state := .recoveryRequired }
  | .valid => return health

def rollBack : Backend OtaBootHealth := do
  if ← rollbackPossible then
    if ← rollback then
      return { health with state := .rolledBack }
  return { health with state := .recoveryRequired }

/-- A healthy poll starts the window if none is running. -/
def startWindow (nowMs : UInt32) : OtaBootHealth :=
  if health.healthy then health else { health with healthy := true, healthySinceMs := nowMs }

def confirmAfterWindow (nowMs : UInt32) : Backend OtaBootHealth := do
  if nowMs - health.healthySinceMs ≥ 10000 then
    if ← confirmHealthy then
      return { health with state := .confirmed }
    else
      health.rollBack
  else
    return health

def poll (nowMs : UInt32) (sensorsReady queueReady authenticatedHeartbeat : Bool) :
    Backend OtaBootHealth := do
  if health.state != .pending then
    return health
  -- Never confirm after the deadline, even if the candidate becomes healthy on that poll.
  if nowMs - health.startedMs ≥ 120000 then
    return ← health.rollBack
  if !(← securePosture) || !sensorsReady || !queueReady || !authenticatedHeartbeat then
    return { health with healthy := false }
  (health.startWindow nowMs).confirmAfterWindow nowMs

end OtaBootHealth

end ApexiDevices
