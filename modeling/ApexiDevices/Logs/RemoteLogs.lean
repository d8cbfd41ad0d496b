import ApexiDevices.Https.HttpsWorker
import ApexiDevices.Shared.Document
import ApexiDevices.Web.WebUi

set_option autoImplicit false

/-!
# Remote retrieval of logs

The logger asks its server for a command and sends the answer with its next
request. A request that is not taken is kept for the next try.
-/

namespace ApexiDevices

open Device HttpsExchange SystemEvents

/-- A byte inside a JSON string as ArduinoJson writes it. -/
def escapeByte (byte : UInt8) : Bytes :=
  if byte = 0x22 then [0x5c, 0x22]
  else if byte = 0x5c then [0x5c, 0x5c]
  else if byte = 8 then ascii "\\b"
  else if byte = 12 then ascii "\\f"
  else if byte = 10 then ascii "\\n"
  else if byte = 13 then ascii "\\r"
  else if byte = 9 then ascii "\\t"
  else [byte]

def textJson (text : Bytes) : Bytes := 0x22 :: text.flatMap escapeByte ++ [0x22]

def hexDigits : Bytes := ascii "0123456789abcdef"

def hex (bytes : Bytes) : Bytes :=
  bytes.flatMap fun byte => [hexDigits.getD (byte.toNat / 16) 0, hexDigits.getD (byte.toNat % 16) 0]

/-- A part of a file as it was when its download began. -/
structure Chunk where
  offset : UInt32
  size : UInt32
  bytes : Bytes
  deriving DecidableEq

inductive Reply where
  | files (entries : List (Bytes × Nat))
  | chunk (chunk : Chunk)
  | readFailed
  | unsupported

structure Answer where
  id : CText
  reply : Reply

namespace Reply

def fileJson (entry : Bytes × Nat) : Bytes :=
  ascii "\x7b\"name\":" ++ textJson entry.1 ++ ascii ",\"size\":" ++ decimal entry.2 ++ ascii "\x7d"

def members : Reply → Bytes
  | files entries => ascii ",\"files\":[" ++ (ascii ",").intercalate (entries.map fileJson) ++ ascii "]"
  | chunk part =>
    ascii ",\"offset\":" ++ decimal part.offset.toNat ++ ascii ",\"size\":" ++ decimal part.size.toNat ++
      ascii ",\"hex\":\"" ++ hex part.bytes ++ ascii "\""
  | readFailed => ascii ",\"error\":\"read_failed\""
  | unsupported => ascii ",\"error\":\"unsupported\""

end Reply

/-- The body of a request, with the answer to the last command if there was one. -/
def requestJson (deviceId : CText) (answer : Option Answer) : Bytes :=
  ascii "\x7b\"device_id\":" ++ textJson deviceId.bytes ++ ascii ",\"enabled\":true" ++
    (match answer with
      | none => []
      | some answer => ascii ",\"id\":" ++ textJson answer.id.bytes ++ answer.reply.members) ++
    ascii "\x7d"

namespace RemoteLogs

structure Config where
  deviceId : CText
  host : CText
  port : Nat
  path : CText
  accessId : CText
  accessSecret : CText

def Config.url (config : Config) : CText :=
  .of (ascii "https://" ++ config.host.bytes ++ ascii ":" ++ decimal config.port ++ config.path.bytes ++ ascii "/logs")

/-- `state_`: 0, 1 and 2. -/
inductive State where
  | idle
  | waiting
  | answered
  deriving DecidableEq

inductive Handle where
  | file (name : Bytes)
  | directory

end RemoteLogs

open RemoteLogs in
structure RemoteLogs where
  config : Config
  ready : Bool
  state : RemoteLogs.State := .idle
  request : Bytes := []
  response : CText := .empty
  success : Bool := false
  lastRequest : UInt32 := 0
  interval : UInt32 := 15000
  failed : Bool := false
  file : Option Handle := none
  job : CText := .empty
  size : UInt32 := 0

def SystemLog.entries (log : SystemLog) (volume : SdVolume) : List (Bytes × Nat) :=
  if !log.ready || !volume.listed then []
  else
    ((volume.files.filter fun file => !file.name.contains 47 && safeName file.name).take 128).map fun file =>
      (file.name, file.content.length)

theorem SystemLog.filesJson_entries (log : SystemLog) (serialize : List (Bytes × Nat) → Bytes) (volume : SdVolume) :
    log.filesJson serialize volume = serialize (log.entries volume) := by
  rw [filesJson, entries]
  split <;> rfl

namespace RemoteLogs

structure Input where
  enabled : Bool
  -- result(Owner::Logs): status and body
  result : Option (Int × CText)
  connected : Bool
  now : UInt32
  log : SystemLog
  volume : SdVolume
  -- calls of the card and of the heap that may fail
  opens : Bool
  seeks : Bool
  allocates : Bool
  reads : Bool
  bearer : CText
  -- submit(Owner::Logs, ...)
  submit : Arguments → Bool

/-- What a file holds now: a directory holds nothing. -/
def Input.content (input : Input) : Option Handle → Bytes
  | some (.file name) => SdFile.read input.volume.files name
  | _ => []

inductive Call where
  | release
  | cancelPending
  | event (recovered : Bool)
  | submit (arguments : Arguments)

section Loop

variable (library : JsonLibrary) (paths : PathNames) (self : RemoteLogs) (input : Input)

def openJob (id name : CText) : RemoteLogs :=
  if self.job = id then self
  else
    let file := if input.opens then input.log.open_ paths input.volume name.bytes else none
    let handle := file.map fun
      | .file found => Handle.file found.name
      | .directory => .directory
    { self with job := id, file := handle, size := .ofNat (input.content handle).length }

/-- `seek` fails on a directory. -/
def seekable : Bool :=
  match self.file with
  | some (.file _) => input.seeks
  | _ => false

def kMaximum : UInt32 := 16 * 1024 * 1024

/-- The chunk of a job that is open, from `offset` on. -/
def readChunk (offset : UInt32) (announced : Option UInt32) : Reply :=
  let content := input.content self.file
  -- A reboot in between is noticed by the size.
  let changed := announced.any fun size => size != self.size
  if self.file.isNone || changed || kMaximum < self.size || self.size < offset || content.length < self.size.toNat ||
      !self.seekable input then
    .readFailed
  else
    let length := min 2048 (self.size - offset).toNat
    if !input.allocates || !input.reads then .readFailed
    else .chunk { offset, size := self.size, bytes := (content.drop offset.toNat).take length }

/-- The value of a member that is not null. -/
def announced (command : Document) : Option UInt32 :=
  let size := command.member "size"
  if size.isNull then none else some (library.asUInt size)

def command (document : Document) : Option Document :=
  let command := document.member "command"
  command.object?.map fun _ => command

def reply (command : Document) : Reply × RemoteLogs :=
  let id := (command.member "id").text
  let kind := (command.member "kind").bytes
  if kind = ascii "refresh" then (.files (input.log.entries input.volume), self)
  else if kind = ascii "download" then
    let self := self.openJob paths input id (command.member "name").text
    (self.readChunk input ((command.member "offset").uint?.getD 0) (announced library command), self)
  else (.unsupported, self)

def answerCommand (command : Document) : RemoteLogs :=
  let (reply, self) := { self with interval := 500 }.reply library paths input command
  { self with
    state := .idle, request := requestJson self.config.deviceId (some ⟨(command.member "id").text, reply⟩) }

/-- The state behind an answer of the server; none where the call ends at once. -/
def answer : Option RemoteLogs :=
  let self := { self with interval := if self.success then 5000 else 60000, failed := !self.success }
  if !self.success then some { self with state := .idle }
  else
    match library.deserialize 2048 self.response.bytes with
    | none => none
    | some document =>
      match command document with
      | none =>
        some { self with
          file := none, job := .empty, interval := 15000, state := .idle
          request := requestJson self.config.deviceId none }
      | some command => some (self.answerCommand library paths input command)

def cString (text : CText) : CString := ⟨text.bytes, fun _ member zero => text.ends (zero ▸ member)⟩

def arguments : Arguments where
  url := some (cString self.config.url)
  payload := some (cString (.of self.request))
  bearer := some (cString input.bearer)
  accessId := some (cString self.config.accessId)
  accessSecret := some (cString self.config.accessSecret)
  get := false

/-- The end of a call: the request is given to the worker when its time has come. -/
def poll : RemoteLogs × List Call :=
  if !input.connected || decide (input.now - self.lastRequest < self.interval) then (self, [])
  else
    let self := if self.request.isEmpty then { self with request := requestJson self.config.deviceId none } else self
    if input.bearer.bytes.isEmpty then (self, [.cancelPending])
    else
      let arguments := self.arguments input
      if input.submit arguments then
        ({ self with lastRequest := input.now, state := .waiting }, [.submit arguments])
      else (self, [.submit arguments])

/-- The state with the worker's result in it. -/
def collected (status : Int) (body : CText) : RemoteLogs :=
  { self with success := status = 200, response := if status = 200 then body else .empty, state := .answered }

/-- The worker's result, if one is waited for; none while there is none. -/
def collect : Option (RemoteLogs × List Call) :=
  if self.state = .waiting then input.result.map fun (status, body) => (self.collected status body, [.release])
  else some (self, [])

def stopped : RemoteLogs :=
  { self with file := none, job := .empty, request := [], response := .empty, state := .idle }

def settle : RemoteLogs × List Call :=
  let events := if self.failed = self.success then [Call.event self.success] else []
  match self.answer library paths input with
  | none => ({ self with failed := !self.success, state := .idle, interval := 60000 }, events)
  | some self =>
    let (self, calls) := self.poll input
    (self, events ++ calls)

def loop : RemoteLogs × List Call :=
  if !self.ready then (self, [])
  else
    match self.collect input with
    | none => (self, [])
    | some (self, released) =>
      if !input.enabled then (self.stopped, released ++ [.cancelPending])
      else
        let (self, calls) := if self.state = .answered then self.settle library paths input else self.poll input
        (self, released ++ calls)

end Loop

def begun (config : Config) (ready : Bool) : RemoteLogs := { config, ready }

end RemoteLogs

end ApexiDevices
