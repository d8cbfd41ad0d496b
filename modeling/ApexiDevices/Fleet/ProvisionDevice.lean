import ApexiDevices.Shared.Json
import ApexiDevices.Shared.Program

set_option autoImplicit false

/-!
# The fleet inventory of `provision_device.py`

Delivery is a callback. The inventory file is read once under the lock and
replaced atomically by every write.
-/

namespace ApexiDevices.ProvisionDevice

open Device

inductive Raised where
  | provisioningError (message : String)
  | provisioningIndeterminate (message : String)
  | exception
  -- KeyboardInterrupt and SystemExit are no Exception: no handler below sees them.
  | interrupt

def text (value : Json) (field : String) (maximum minimum : Nat) : Except String String :=
  match value with
  | .string value =>
    if ¬(minimum ≤ value.length ∧ value.length ≤ maximum) then
      .error s!"{field} length must be {minimum}..{maximum}"
    else if value.toList.any fun character => character.toNat < 0x20 || character.toNat == 0x7F then
      .error s!"{field} contains a control character"
    else .ok value
  | _ => .error s!"{field} must be text"

def lowerHex (character : Char) : Bool :=
  ('0' ≤ character && character ≤ '9') || ('a' ≤ character && character ≤ 'f')

/-- `^mda-[0-9a-f]{12}$` -/
def deviceIdPattern (observed : String) : Bool :=
  match observed.toList with
  | 'm' :: 'd' :: 'a' :: '-' :: digits => digits.length == 12 && digits.all lowerHex
  | _ => false

def validateDeviceId (observed : String) (bundle : Members) : Except String Unit := do
  if ¬deviceIdPattern observed || "000000000000".toList.isSuffixOf observed.toList then
    throw "device reported a malformed immutable ID"
  match bundle.get "expected_device_id" with
  | .null => pure ()
  | expected =>
    if (← text expected "expected_device_id" 16 1) ≠ observed then
      throw "expected_device_id does not match the attached device"

def validateUpload (observed : String) (upload : Members) : Except String Unit := do
  let protocol ← text (upload.get "protocol") "upload.protocol" 5 1
  if protocol ≠ "https" ∧ protocol ≠ "mqtt" then
    throw "upload.protocol must be https or mqtt"
  let _ ← text (upload.get "host") "upload.host" 127 1
  match upload.get "port" with
  | .int port =>
    if ¬(1 ≤ port ∧ port ≤ 65535) then
      throw "upload.port must be an integer from 1 to 65535"
  | _ => throw "upload.port must be an integer from 1 to 65535"
  if protocol = "mqtt" then
    let username ← text (upload.get "mqtt_username") "upload.mqtt_username" 127 1
    if username ≠ observed then
      throw "MQTT username must equal the immutable device ID"
    let _ ← text (upload.get "mqtt_password") "upload.mqtt_password" 127 1
  else
    let _ ← text (upload.get "cloudflare_client_id") "upload.cloudflare_client_id" 127 1
    let _ ← text (upload.get "cloudflare_client_secret") "upload.cloudflare_client_secret" 127 1
    let _ ← text (upload.get "app_device_token") "upload.app_device_token" 511 1
    let subject ← text (upload.get "app_token_subject") "upload.app_token_subject" 80 1
    if subject ≠ s!"logger:{observed}" then
      throw "app bearer subject must equal logger:<immutable device ID>"

def validateIdentity (bundle : Members) : Except String Unit := do
  let _ ← text (bundle.get "friendly_name") "friendly_name" 63 1
  let _ ← text (bundle.get "hardware_revision") "hardware_revision" 31 1
  let _ ← text (bundle.get "provisioned_at") "provisioned_at" 40 1
  let _ ← text (bundle.get "ota_password") "ota_password" 127 12

def bindIdentity (now observed : String) (bundle : Members) : Members :=
  let result := bundle.set "expected_device_id" (.string observed)
  if (result.find? "provisioned_at").isSome then result else result.set "provisioned_at" (.string now)

/-- `now` is the time a bundle without `provisioned_at` is given. -/
def validateBundle (now : String) (bundle : Json) (observed : String) : Except String Members := do
  let .object bundle := bundle | throw "bundle must be a JSON object"
  validateDeviceId observed bundle
  let result := bindIdentity now observed bundle
  validateIdentity result
  let .bool managed := (result.find? "remote_management_enabled").getD (.bool false)
    | throw "remote_management_enabled must be boolean"
  let result : Members := result.set "remote_management_enabled" (.bool managed)
  let .object wifi := result.get "wifi" | throw "wifi must be a JSON object"
  let .object upload := result.get "upload" | throw "upload must be a JSON object"
  let _ ← text (Members.get wifi "ssid") "wifi.ssid" 32 1
  let _ ← text (Members.get wifi "password") "wifi.password" 63 8
  validateUpload observed upload
  return result

/-- `entry.get(key) == text` -/
def holds (entry : Members) (key text : String) : Bool := (entry.get key).equal (.string text)

structure Inventory where
  devices : Option (List Members)
  other : Members

def Inventory.entries (inventory : Inventory) : List Members := inventory.devices.getD []

def emptyInventory : Inventory where
  devices := some []
  other := []

inductive Op where
  | read
  | write (inventory : Inventory)
  | deliver (metadata : Members)

/-- The calls of a run that can fail; a missing file is read as none. -/
abbrev Fleet : Signature where
  Op := Op
  Reply
    | .read => Except Raised (Option Inventory)
    | .write _ => Except Raised Unit
    | .deliver _ => Except Raised Unit

def existing (observed : String) (devices : List Members) : Option Members :=
  devices.find? fun entry => holds entry "device_id" observed

/-- `existing` is the first entry of its id: a change of it in place. -/
def assign (observed : String) (entry : Members) : List Members → List Members
  | [] => []
  | first :: rest =>
    if holds first "device_id" observed then entry :: rest else first :: assign observed entry rest

def safeEntry (observed : String) (metadata : Members) (status : String) : Members :=
  [("device_id", .string observed), ("friendly_name", metadata.get "friendly_name"),
    ("hardware_revision", metadata.get "hardware_revision"),
    ("provisioned_at", metadata.get "provisioned_at"), ("status", .string status)]

def setStatus (entry : Members) (status : String) : Members := entry.set "status" (.string status)

/-- `_write_inventory`, then `rest` unless the write raised. -/
def writeInventory {α : Type} (inventory : Inventory) (devices : List Members)
    (rest : Prog Fleet (Except Raised α)) : Prog Fleet (Except Raised α) := do
  match ← Prog.request (S := Fleet) (.write { inventory with devices := some devices }) with
  | .error failure => return .error failure
  | .ok () => rest

/-- An entry left pending becomes indeterminate before anything else happens. -/
def settlePending (observed : String) (inventory : Inventory) (devices : List Members) :
    Prog Fleet (Except Raised (List Members)) :=
  match existing observed devices with
  | none => return .ok devices
  | some entry =>
    if holds entry "status" "pending" then
      writeInventory inventory (assign observed (setStatus entry "indeterminate") devices)
        (return .ok (assign observed (setStatus entry "indeterminate") devices))
    else return .ok devices

def duplicateIdentity (observed : String) (entry : Members) : Raised :=
  if holds entry "status" "indeterminate" then
    .provisioningError (s!"identity {observed} has an indeterminate prior attempt; " ++
      "inspect the device before using --reprovision")
  else
    .provisioningError (s!"duplicate identity {observed} already exists; " ++
      "use --reprovision only after ownership checks")

def record (observed : String) (previous : Option Members) (entry : Members) (devices : List Members) :
    List Members :=
  match previous with
  | none => devices ++ [entry]
  | some _ => assign observed entry devices

def withdraw (observed : String) (previous : Option Members) (entry : Members) (devices : List Members) :
    List Members :=
  match previous with
  -- list.remove takes the first equal entry
  | none => devices.eraseP fun other => Json.equal (.object entry) (.object other)
  | some previous => assign observed previous devices

/-- The entry is written as pending before the device is asked, and settled after. -/
def deliverRecorded (observed : String) (inventory : Inventory) (devices : List Members)
    (previous : Option Members) (metadata : Members)
    (deliver : Members → Prog Fleet (Except Raised Unit)) : Prog Fleet (Except Raised Unit) :=
  let entry := safeEntry observed metadata "pending"
  let recorded := record observed previous entry devices
  writeInventory inventory recorded do
    match ← deliver metadata with
    | .error (.provisioningIndeterminate message) =>
      writeInventory inventory (assign observed (setStatus entry "indeterminate") recorded)
        (return .error (.provisioningIndeterminate message))
    | .error (.provisioningError message) =>
      writeInventory inventory (withdraw observed previous entry recorded)
        (return .error (.provisioningError message))
    | .error .exception =>
      writeInventory inventory (assign observed (setStatus entry "indeterminate") recorded)
        (return .error (.provisioningIndeterminate
          "provisioning delivery was interrupted; inspect the device before retrying"))
    | .error .interrupt => return .error .interrupt
    | .ok () =>
      writeInventory inventory (assign observed (setStatus entry "committed") recorded) (return .ok ())

def commissionIdentity (now observed : String) (bundle : Json) (reprovision : Bool)
    (deliver : Members → Prog Fleet (Except Raised Unit)) : Prog Fleet (Except Raised Unit) :=
  match validateBundle now bundle observed with
  | .error message => return .error (.provisioningError message)
  | .ok metadata => do
    match ← Prog.request (S := Fleet) .read with
    | .error failure => return .error failure
    | .ok file =>
      let inventory := file.getD emptyInventory
      match ← settlePending observed inventory inventory.entries with
      | .error failure => return .error failure
      | .ok devices =>
        match existing observed devices with
        | none => deliverRecorded observed inventory devices none metadata deliver
        | some previous =>
          if reprovision then
            deliverRecorded observed inventory devices (some previous) metadata deliver
          else return .error (duplicateIdentity observed previous)

end ApexiDevices.ProvisionDevice
