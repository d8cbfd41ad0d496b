import ApexiDevices.Shared.Program

set_option autoImplicit false

namespace ApexiDevices.OwnerReset

open Device

inductive Result
  | unchecked
  | noResetNeeded
  | completed
  | pending
  | storageError
deriving DecidableEq, Repr

inductive StoreOp (Clear : Type)
  | getPending
  | markPending (value : Bool)
  | clear (callback : Clear)

/-- The latch store and the clear callbacks; a read answers nothing on any error. -/
abbrev Store (Clear : Type) : Signature where
  Op := StoreOp Clear
  Reply
    | .getPending => Option Bool
    | .markPending _ => Bool
    | .clear _ => Bool

section Calls

variable {Clear : Type}

def getPending : Prog (Store Clear) (Option Bool) := Prog.request (S := Store Clear) .getPending

def markPending (value : Bool) : Prog (Store Clear) Bool :=
  Prog.request (S := Store Clear) (.markPending value)

def clear (callback : Clear) : Prog (Store Clear) Bool :=
  Prog.request (S := Store Clear) (.clear callback)

end Calls

structure Coordinator where
  result : Result := .unchecked
  requested : Bool := false

namespace Coordinator

variable {Clear : Type}

def networkAllowed (coordinator : Coordinator) : Bool :=
  coordinator.result == .noResetNeeded || coordinator.result == .completed

-- Every callback runs, also after one that failed.
def clearAll : List Clear → Bool → Prog (Store Clear) Bool
  | [], cleared => pure cleared
  | callback :: rest, cleared => do
    let done ← clear callback
    clearAll rest (done && cleared)

def finish (coordinator : Coordinator) (callbacks : List Clear) : Prog (Store Clear) Coordinator := do
  let coordinator := { coordinator with result := .pending }
  if !(← clearAll callbacks true) then
    return coordinator
  if !(← markPending false) then
    return { coordinator with result := .storageError }
  match ← getPending with
  | some false => return { result := .completed, requested := false }
  | _ => return { coordinator with result := .storageError }

def request (coordinator : Coordinator) (callbacks : List Clear) : Prog (Store Clear) Coordinator := do
  let coordinator : Coordinator := { coordinator with result := .pending, requested := true }
  if !(← markPending true) then
    return { coordinator with result := .storageError }
  match ← getPending with
  | some true => coordinator.finish callbacks
  | _ => return { coordinator with result := .storageError }

def resume (coordinator : Coordinator) (callbacks : List Clear) : Prog (Store Clear) Coordinator := do
  let coordinator := { coordinator with result := .unchecked }
  match ← getPending with
  | none => return { coordinator with result := .storageError }
  | some false =>
    -- A failed initial write is not bypassed by calling resume again within this boot.
    if coordinator.requested then coordinator.request callbacks
    else return { coordinator with result := .noResetNeeded }
  | some true => coordinator.finish callbacks

end Coordinator

end ApexiDevices.OwnerReset
