import ApexiDevices.Dash.SystemEvents
import ApexiDevices.Shared.Lines
import ApexiDevices.Storage.SdFiles
import Mathlib.Data.List.Infix
import Mathlib.Logic.Function.Basic

set_option autoImplicit false

namespace ApexiDevices

open Device SystemEvents

/-- The members `remember` gives to one JSON document. -/
structure Record where
  receivedAt : Bytes
  device : Bytes
  boot : UInt32
  seq : UInt32
  loggerId : Bytes
  uptimeMs : UInt32
  severity : Bytes
  event : Bytes
  value : UInt32
  -- status, method and duration of a request
  http : Option (UInt16 × UInt8 × UInt32)

/-- What the code relies on of the JSON library: a record is one printable line, short enough for
the 1024-byte tail, and a line that is read back gives its own boot and sequence. -/
structure ArduinoJson where
  serializeJson : Record → Bytes
  deserializeJson : Bytes → Option (UInt32 × UInt32)
  printable : ∀ record, ∀ byte ∈ serializeJson record, 32 ≤ byte
  short : ∀ record, (serializeJson record).length ≤ 1022
  reads : ∀ record boot seq, deserializeJson (serializeJson record) = some (boot, seq) →
    boot = record.boot ∧ seq = record.seq

/-- An entry of `pending_`, with its entries of `devices_` and `lines_`: the three move together. -/
structure Waiting where
  event : Event
  device : Bytes
  line : Bytes

/-- Log files have no leading slash here. The source is true for dash events. -/
structure SystemLog where
  identity : Bytes := []
  boot : UInt32 := 0
  seq : UInt32 := 0
  pending : List Waiting := []
  dropped : UInt32 := 0
  lastDrain : UInt32 := 0
  dashBoot : UInt32 := 0
  dashSeq : UInt32 := 0
  dashPendingBoot : UInt32 := 0
  dashPendingSeq : UInt32 := 0
  dashDevice : Bytes := []
  ready : Bool := false
  error : String := ""
  detailed : Bool := false
  detailedStarted : UInt32 := 0
  lastHttpCode : Bytes := []
  lastHttpMs : UInt32 := 0
  httpRepeated : UInt32 := 0
  lastHttpStatus : UInt16 := 0
  active : Bool → Bytes := fun _ => []
  segment : Bool → UInt32 := fun _ => 0

/-- The last complete line of a text, unless the text starts with its newline. -/
def lastLine (text : Bytes) : Option Bytes :=
  match text.reverse.dropWhile (· ≠ 10) with
  | [] | [_] => none
  | _ :: before => some (before.takeWhile (· ≠ 10)).reverse

/-- `%08lu` -/
def padded (value : UInt32) : Bytes :=
  List.replicate (8 - (decimal value.toNat).length) 48 ++ decimal value.toNat

namespace SystemLog

def severityName (severity : UInt8) : Bytes :=
  if severity = 2 then ascii "WARN" else if severity = 3 then ascii "ERROR" else ascii "INFO"

def record (log : SystemLog) (event : Event) (device receivedAt : Bytes) : Record where
  receivedAt := receivedAt
  device := device
  boot := event.boot
  seq := event.seq
  loggerId := log.identity
  uptimeMs := event.ms
  severity := severityName event.severity
  event := cText event.code.bytes
  value := event.value
  http := if event.httpStatus ≠ 0 then some (event.httpStatus, event.method, event.durationMs) else none

/-- `pending_.push`, then `remember`. -/
def push (json : ArduinoJson) (log : SystemLog) (event : Event) (device receivedAt : Bytes) : Option SystemLog :=
  if log.pending.length = 64 then none
  else
    some { log with
      pending := log.pending ++ [⟨event, device, json.serializeJson (log.record event device receivedAt)⟩] }

/-- An event of the logger itself: a full queue counts it as dropped. -/
def remember (json : ArduinoJson) (log : SystemLog) (event : Event) (receivedAt : Bytes) : SystemLog :=
  (log.push json event (ascii "logger") receivedAt).getD { log with dropped := log.dropped + 1 }

/-- `strlcpy` into `char code[32]` -/
def strlcpy (text : Bytes) : Code := Code.ofBytes (text.take 31)

def add (json : ArduinoJson) (log : SystemLog) (code : Bytes) (value : UInt32) (severity : UInt8) (now : UInt32)
    (receivedAt : Bytes) : SystemLog :=
  if !safeCode code then log
  else
    let seq := log.seq + 1
    { log with seq }.remember json
      { boot := log.boot, seq, ms := now, value, severity, code := strlcpy code, durationMs := 0, httpStatus := 0,
        method := 0, version := 1 }
      receivedAt

def begin (json : ArduinoJson) (log : SystemLog) (identity : Bytes) (random now : UInt32) (receivedAt : Bytes) :
    SystemLog :=
  { log with identity, boot := random }.add json (ascii "boot") 0 1 now receivedAt

def detailedRequests (log : SystemLog) (now : UInt32) : Bool :=
  log.detailed && decide (now - log.detailedStarted < 600000)

def http (json : ArduinoJson) (log : SystemLog) (route : Bytes) (method : UInt8) (status : UInt16)
    (duration now : UInt32) (receivedAt : Bytes) : SystemLog :=
  if !log.detailedRequests now && log.lastHttpCode = route && log.lastHttpStatus = status &&
      decide (now - log.lastHttpMs < 10000) then
    { log with httpRepeated := log.httpRepeated + 1 }
  else
    let summarised :=
      if log.httpRepeated ≠ 0 then
        { log.add json (ascii "http_repeat_summary") log.httpRepeated 1 now receivedAt with httpRepeated := 0 }
      else log
    let seq := summarised.seq + 1
    { summarised with lastHttpCode := route, lastHttpStatus := status, lastHttpMs := now, seq }.remember json
      { boot := log.boot, seq, ms := now, value := 0, severity := if status ≥ 400 then 2 else 1,
        code := strlcpy route, durationMs := duration, httpStatus := status, method, version := 1 }
      receivedAt

/-- The boot and sequence of the last line of one of the device's logs, read from its last 1024 bytes. -/
def tailCursor (json : ArduinoJson) (device : Bytes) (file : SdFile) : Option (UInt32 × UInt32) :=
  if ascii "dash-" ++ device ++ ascii "-" <+: file.name ∧ ascii ".log" <:+ file.name then
    let tail := file.content.drop (file.content.length - 1024)
    (lastLine (cText tail)).bind json.deserializeJson
  else none

/-- One file of the scan: a last line of the event's boot moves the cursor there. -/
def recoverFrom (json : ArduinoJson) (event : Event) (device : Bytes) (log : SystemLog) (file : SdFile) : SystemLog :=
  match tailCursor json device file with
  | some (boot, seq) =>
    if boot = event.boot then { log with dashBoot := event.boot, dashSeq := max log.dashSeq seq } else log
  | none => log

/-- The cursor for a device: recovered from the log tails when the device is another one. -/
def recover (json : ArduinoJson) (log : SystemLog) (files : List SdFile) (event : Event) (device : Bytes) :
    SystemLog :=
  if device ≠ log.dashDevice then
    { files.foldl (recoverFrom json event device) log with dashDevice := device }
  else log

def acceptDash (json : ArduinoJson) (log : SystemLog) (files : List SdFile) (event : Event)
    (device receivedAt : Bytes) : Bool × SystemLog :=
  if event.version ≠ 1 ∨ safeCode event.code.bytes = false ∨ event.seq = 0 then (false, log)
  else if !log.ready then (false, log)
  else
    let found := log.recover json files event device
    if device = found.dashDevice ∧ event.boot = found.dashBoot ∧ event.seq ≤ found.dashSeq then (true, found)
    else if found.dashPendingSeq ≠ 0 then (false, found)
    else
      match found.push json event (ascii "dash-" ++ device) receivedAt with
      | none => (false, { found with dropped := found.dropped + 1 })
      | some pushed => (false, { pushed with dashPendingBoot := event.boot, dashPendingSeq := event.seq })

/-- `oldest` after one more name of the directory. -/
def older (path : Bytes) (oldest : Option Bytes) (name : Bytes) : Option Bytes :=
  if name ≠ path ∧ (oldest.all fun known => name < known) then some name else oldest

/-- The oldest other segment of a device with more than 16. -/
def prune (files : List SdFile) (device path : Bytes) : Option Bytes :=
  let segments := (files.map SdFile.name).filter fun name =>
    device ++ ascii "-" <+: name ∧ ascii ".log" <:+ name ∧ safeName name = true
  if segments.length > 16 then segments.foldl (older path) none else none

def pruned (files : List SdFile) (device path : Bytes) : List SdFile :=
  match prune files device path with
  | none => files
  | some oldest => SdFile.remove oldest files

/-- One waiting line is appended to the active segment of its source. -/
def drain (log : SystemLog) (files : List SdFile) (waiting : Waiting) (rest : List Waiting) (dateStamp : Bytes) :
    SystemLog × List SdFile :=
  let source := decide (ascii "dash-" <+: waiting.device)
  let start := waiting.device ++ ascii "-" ++ dateStamp ++ ascii "-"
  let segment := if start <+: log.active source then log.segment source else 0
  let path := start ++ padded segment ++ ascii ".log"
  if SdFile.size files path ≥ 256 * 1024 then
    ({ log with
      segment := Function.update log.segment source (segment + 1)
      active := Function.update log.active source path }, files)
  else
    let written := SdFile.append path (waiting.line ++ [10]) files
    ({ log with
      segment := Function.update log.segment source segment
      active := Function.update log.active source path
      error := ""
      dashBoot := if source then log.dashPendingBoot else log.dashBoot
      dashSeq := if source then log.dashPendingSeq else log.dashSeq
      dashPendingSeq := if source then 0 else log.dashPendingSeq
      pending := rest },
      if log.active source ≠ path then pruned written waiting.device path else written)

def loop (log : SystemLog) (files : List SdFile) (now : UInt32) (dateStamp : Bytes) (sdReady : Bool) :
    SystemLog × List SdFile :=
  if now - log.lastDrain < 250 then ({ log with ready := sdReady }, files)
  else
    let woken := { log with ready := sdReady, lastDrain := now }
    match log.pending with
    | [] => (woken, files)
    | waiting :: rest =>
      if !sdReady then ({ woken with error := "microSD unavailable; events buffered in RAM" }, files)
      else woken.drain files waiting rest dateStamp

end SystemLog

end ApexiDevices
