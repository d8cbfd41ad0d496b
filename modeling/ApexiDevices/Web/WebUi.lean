import ApexiDevices.Csv.ReadOnly
import ApexiDevices.Logs.SystemLog

set_option autoImplicit false

namespace ApexiDevices

open Device SystemEvents

inductive Method where
  | get | post | other
  deriving DecidableEq

/-- The handlers of `registerRoutes`; what no route matches is `handleDownload`. -/
inductive Handler where
  | authorization | authorizationStart | logging | systemEvents | logFiles | systemLogDownload | logs
  | index | diagnostics | live | files | uploadRejections | settings | settingsSave | download
  deriving DecidableEq

structure Request where
  method : Method
  uri : Bytes
  -- server_.arg: the query and form arguments
  arg : Bytes → Bytes
  -- server_.authenticate: whether the request proves this user and password
  authenticate : Bytes → Bytes → Bool

inductive Response where
  | sent (status : Nat) (type : String) (body : Bytes)
  -- server_.requestAuthentication(DIGEST_AUTH, realm)
  | challenge (realm : String)

structure WebUi where
  logger : Option CsvLogger
  systemLog : SystemLog
  settingsPassword : Bytes
  localSettingsEnabled : Bool
  -- indexHtml, diagnosticsHtml and liveJson, built from the published state
  indexHtml : Bytes
  diagnosticsHtml : Bytes
  liveJson : Bytes
  -- the replies behind the credentials that read no card
  managed : Handler → Request → Response
  -- the JSON array of names and sizes
  serializeFiles : List (Bytes × Nat) → Bytes

namespace SystemLog

def filesJson (log : SystemLog) (serialize : List (Bytes × Nat) → Bytes) (volume : SdVolume) : Bytes :=
  if !log.ready || !volume.listed then serialize []
  else
    let safe := volume.files.filter fun file => !file.name.contains 47 && safeName file.name
    serialize ((safe.take 128).map fun file => (file.name, file.content.length))

def open_ (log : SystemLog) (paths : PathNames) (volume : SdVolume) (name : Bytes) : Option Opened :=
  if !log.ready || !safeName (cText name) then none else volume.open paths (47 :: cText name)

end SystemLog

namespace WebUi

def routes : List (Bytes × Method × Handler) :=
  [(ascii "/api/authorization", .get, .authorization),
    (ascii "/api/authorization/start", .post, .authorizationStart),
    (ascii "/api/logging", .post, .logging),
    (ascii "/api/system-events", .get, .systemEvents),
    (ascii "/api/log-files", .get, .logFiles),
    (ascii "/system-log-download", .get, .systemLogDownload),
    (ascii "/logs", .get, .logs),
    (ascii "/", .get, .index),
    (ascii "/diagnostics", .get, .diagnostics),
    (ascii "/api/live", .get, .live),
    (ascii "/api/files", .get, .files),
    (ascii "/api/upload-rejections", .get, .uploadRejections),
    (ascii "/settings", .get, .settings),
    (ascii "/settings", .post, .settingsSave)]

def dispatch (request : Request) : Handler :=
  match routes.find? fun route => route.1 = request.uri ∧ route.2.1 = request.method with
  | none => .download
  | some route => route.2.2

def authenticated (ui : WebUi) (request : Request) : Bool := request.authenticate (ascii "admin") ui.settingsPassword

/-- `if(!settingsAuthorized()) return;` before a reply. -/
def settingsAuthorized (ui : WebUi) (request : Request) (reply : Response) : Response :=
  if ui.settingsPassword = [] then
    .sent 503 "text/plain" (ascii "Configure APEXI_OTA_PASSWORD before using settings")
  else if !ui.authenticated request then .challenge "MDA Logger"
  else reply

def handleFilesJson (ui : WebUi) (volume : SdVolume) : Response :=
  match ui.logger with
  | none => .sent 503 "application/json" (ascii "[]")
  | some logger => .sent 200 "application/json" (logger.listFilesJson volume)

/-- The file a `/download/` path opens. -/
def opened (ui : WebUi) (paths : PathNames) (volume : SdVolume) (request : Request) : Option Opened :=
  match ui.logger with
  | none => none
  | some logger =>
    if ascii "/download/" <+: request.uri then
      logger.openReadOnly paths volume (request.uri.drop (ascii "/download/").length)
    else none

def handleDownload (ui : WebUi) (paths : PathNames) (volume : SdVolume) (request : Request) : Response :=
  if ui.logger.isNone ∨ ¬ascii "/download/" <+: request.uri then .sent 404 "text/plain" (ascii "Not found")
  else
    match ui.opened paths volume request with
    | none => .sent 404 "text/plain" (ascii "File not found")
    | some file => .sent 200 "text/csv" file.content

def systemLogDownload (ui : WebUi) (paths : PathNames) (volume : SdVolume) (request : Request) : Response :=
  match ui.systemLog.open_ paths volume (request.arg (ascii "name")) with
  | none => .sent 404 "text/plain" (ascii "Log unavailable")
  | some file => .sent 200 "text/plain" file.content

def localSettings (ui : WebUi) (refused : String) (reply : Response) : Response :=
  if !ui.localSettingsEnabled then .sent 410 "text/plain" (ascii refused) else reply

def settingsDisabled : String := "Local settings are disabled; use provisioned device management."

def respond (ui : WebUi) (paths : PathNames) (volume : SdVolume) (request : Request) : Response :=
  match dispatch request with
  | .authorizationStart =>
    ui.localSettings "Local authorization disabled"
      (ui.settingsAuthorized request (ui.managed .authorizationStart request))
  | .settings => ui.localSettings settingsDisabled (ui.settingsAuthorized request (ui.managed .settings request))
  | .settingsSave =>
    ui.localSettings settingsDisabled (ui.settingsAuthorized request (ui.managed .settingsSave request))
  | .logFiles =>
    ui.settingsAuthorized request
      (.sent 200 "application/json" (ui.systemLog.filesJson ui.serializeFiles volume))
  | .systemLogDownload => ui.settingsAuthorized request (ui.systemLogDownload paths volume request)
  | .index => .sent 200 "text/html" ui.indexHtml
  | .diagnostics => .sent 200 "text/html" ui.diagnosticsHtml
  | .live => .sent 200 "application/json" ui.liveJson
  | .files => ui.handleFilesJson volume
  | .download => ui.handleDownload paths volume request
  | handler => ui.settingsAuthorized request (ui.managed handler request)

end WebUi

end ApexiDevices
