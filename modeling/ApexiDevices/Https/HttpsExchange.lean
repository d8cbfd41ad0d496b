import ApexiDevices.Shared.Bytes
import Mathlib.Data.List.TakeWhile

set_option autoImplicit false

/-!
# The HTTP worker's exchange buffers

One request buffer and one result buffer change hands through a state word.
-/

namespace ApexiDevices

open Device

structure CString where
  bytes : Bytes
  ended : ∀ byte ∈ bytes, byte ≠ 0

def strcpy (buffer : Bytes) (text : CString) : Bytes :=
  text.bytes ++ 0 :: buffer.drop (text.bytes.length + 1)

def cString (buffer : Bytes) : Bytes := buffer.takeWhile fun byte => byte != 0

@[simp] theorem cString_strcpy (buffer : Bytes) (text : CString) : cString (strcpy buffer text) = text.bytes := by
  have whole : text.bytes.takeWhile (fun byte => byte != 0) = text.bytes := by
    rw [List.takeWhile_eq_self_iff]
    exact fun byte member => by simpa using text.ended byte member
  rw [cString, strcpy, List.takeWhile_append, whole]
  simp

namespace HttpsExchange

inductive State where
  | Idle
  | Requested
  | Complete
  deriving DecidableEq, Repr

def kBodyLimit : Nat := 6144
def kUrl : Nat := 513
def kBearer : Nat := 2049
def kAccessId : Nat := 257
def kAccessSecret : Nat := 513

structure Request where
  get : Bool
  url : Bytes
  payload : Bytes
  bearer : Bytes
  accessId : Bytes
  accessSecret : Bytes

structure Result where
  status : Int
  tlsError : Int
  durationMs : UInt32
  reused : Bool
  permanentRejection : Bool
  body : Bytes

structure Text where
  get : Bool
  url : Bytes
  payload : Bytes
  bearer : Bytes
  accessId : Bytes
  accessSecret : Bytes

def Request.read (request : Request) : Text where
  get := request.get
  url := cString request.url
  payload := cString request.payload
  bearer := cString request.bearer
  accessId := cString request.accessId
  accessSecret := cString request.accessSecret

/-- The arguments of `submit`; each pointer may be null. -/
structure Arguments where
  url : Option CString
  payload : Option CString
  bearer : Option CString
  accessId : Option CString
  accessSecret : Option CString
  get : Bool

def pointed (text : Option CString) : Bytes := (text.map CString.bytes).getD []

def Arguments.text (arguments : Arguments) : Text where
  get := arguments.get
  url := pointed arguments.url
  payload := pointed arguments.payload
  bearer := pointed arguments.bearer
  accessId := pointed arguments.accessId
  accessSecret := pointed arguments.accessSecret

def zeros (size : Nat) : Bytes := List.replicate size 0

end HttpsExchange

open HttpsExchange

structure HttpsExchange where
  request : Request
  result : Result
  state : State

namespace HttpsExchange

def cold : HttpsExchange where
  request := ⟨false, zeros kUrl, zeros (kBodyLimit + 1), zeros kBearer, zeros kAccessId, zeros kAccessSecret⟩
  result := ⟨0, 0, 0, false, false, zeros (kBodyLimit + 1)⟩
  state := .Idle

def fits (value : Option CString) (size : Nat) : Option CString :=
  value.filter fun text => text.bytes.length < size

/-- Every text is checked before any buffer is written. -/
def submit (exchange : HttpsExchange) (arguments : Arguments) : Option HttpsExchange :=
  if exchange.state ≠ .Idle then none
  else do
    let url ← fits arguments.url kUrl
    let payload ← fits arguments.payload (kBodyLimit + 1)
    let bearer ← fits arguments.bearer kBearer
    let accessId ← fits arguments.accessId kAccessId
    let accessSecret ← fits arguments.accessSecret kAccessSecret
    let request := exchange.request
    some { exchange with
      request := ⟨arguments.get, strcpy request.url url, strcpy request.payload payload,
        strcpy request.bearer bearer, strcpy request.accessId accessId,
        strcpy request.accessSecret accessSecret⟩
      state := .Requested }

/-- `request()`: the buffer the worker may read. -/
def requested (exchange : HttpsExchange) : Option Request :=
  if exchange.state = .Requested then some exchange.request else none

def complete (exchange : HttpsExchange) : HttpsExchange := { exchange with state := .Complete }

/-- `result()` -/
def completed (exchange : HttpsExchange) : Option Result :=
  if exchange.state = .Complete then some exchange.result else none

def release (exchange : HttpsExchange) : HttpsExchange where
  request := ⟨exchange.request.get, zeros kUrl, zeros (kBodyLimit + 1), zeros kBearer, zeros kAccessId,
    zeros kAccessSecret⟩
  result := { exchange.result with body := zeros (kBodyLimit + 1) }
  state := .Idle

def idle (exchange : HttpsExchange) : Bool := exchange.state == .Idle

/-- No text of a transaction is left in the buffers. -/
structure Cleared (exchange : HttpsExchange) : Prop where
  url : exchange.request.url = zeros kUrl
  payload : exchange.request.payload = zeros (kBodyLimit + 1)
  bearer : exchange.request.bearer = zeros kBearer
  accessId : exchange.request.accessId = zeros kAccessId
  accessSecret : exchange.request.accessSecret = zeros kAccessSecret
  body : exchange.result.body = zeros (kBodyLimit + 1)

theorem cold_cleared : cold.Cleared := ⟨rfl, rfl, rfl, rfl, rfl, rfl⟩

theorem release_cleared (exchange : HttpsExchange) : exchange.release.Cleared := ⟨rfl, rfl, rfl, rfl, rfl, rfl⟩

theorem fits_some {value : Option CString} {size : Nat} {text : CString} (fitted : fits value size = some text) :
    value = some text := (Option.filter_eq_some_iff.mp fitted).1

theorem submit_some {exchange next : HttpsExchange} {arguments : Arguments}
    (accepted : exchange.submit arguments = some next) :
    exchange.state = .Idle ∧ next.state = .Requested ∧ next.result = exchange.result ∧
      next.request.read = arguments.text := by
  unfold submit at accepted
  split at accepted
  · cases accepted
  rename_i idle
  obtain ⟨url, urlFits, accepted⟩ := Option.bind_eq_some_iff.mp accepted
  obtain ⟨payload, payloadFits, accepted⟩ := Option.bind_eq_some_iff.mp accepted
  obtain ⟨bearer, bearerFits, accepted⟩ := Option.bind_eq_some_iff.mp accepted
  obtain ⟨accessId, accessIdFits, accepted⟩ := Option.bind_eq_some_iff.mp accepted
  obtain ⟨accessSecret, accessSecretFits, accepted⟩ := Option.bind_eq_some_iff.mp accepted
  cases accepted
  refine ⟨not_not.mp idle, rfl, rfl, ?_⟩
  simp [Request.read, Arguments.text, pointed, fits_some urlFits, fits_some payloadFits, fits_some bearerFits,
    fits_some accessIdFits, fits_some accessSecretFits]

end HttpsExchange

end ApexiDevices
