import ApexiDevices.Web.WebUi

set_option autoImplicit false

/-!
# Downloads without credentials

Two cards that differ in the contents of system logs only are told apart by a
request without credentials exactly when it downloads such a log.
-/

namespace ApexiDevices.WebUi

open Device SystemEvents

def systemLogName (name : Bytes) : Bool := safeName name && decide (ascii ".log" <:+ name)

def sensorCsvName (name : Bytes) : Bool := safeName name && decide (ascii ".csv" <:+ name)

/-- The same name, and the same content unless it is a system log. -/
def SameFile (first second : SdFile) : Prop :=
  first.name = second.name ∧ (systemLogName first.name = false → first.content = second.content)

structure SameButLogs (first second : SdVolume) : Prop where
  listed : first.listed = second.listed
  directories : first.directories = second.directories
  files : List.Forall₂ SameFile first.files second.files

/-- The response tells nothing about the contents of system logs. -/
def Independent (ui : WebUi) (paths : PathNames) (request : Request) : Prop :=
  ∀ first second, SameButLogs first second → ui.respond paths first request = ui.respond paths second request

/-- `/download/` opens no file but sensor CSV files. -/
def OpensSensorCsv (ui : WebUi) (paths : PathNames) (request : Request) : Prop :=
  dispatch request = .download → ∀ volume file, ui.opened paths volume request = some (.file file) →
    sensorCsvName file.name = true

/-- The path that a `/download/` request asks a ready logger for, once normalised. -/
def downloadPath (ui : WebUi) (request : Request) : Option Bytes :=
  match ui.logger with
  | none => none
  | some logger =>
    let normalized := Logic.normalizeLogFileName (cText (request.uri.drop (ascii "/download/").length))
    if dispatch request = .download ∧ ascii "/download/" <+: request.uri ∧ logger.ready = true ∧ normalized ≠ [] then
      some normalized
    else none

section Volumes

variable {first second : SdVolume} {paths : PathNames}

theorem csv_not_log {name : Bytes} (csv : ascii ".csv" <:+ name) : systemLogName name = false := by
  have differs : ¬ascii ".log" <:+ name := by
    intro log
    have same := List.IsSuffix.eq_of_length (List.suffix_of_suffix_length_le log csv (by decide)) (by decide)
    exact absurd same (by decide)
  simp [systemLogName, differs]

theorem find_same {files others : List SdFile} (same : List.Forall₂ SameFile files others) (name : Bytes) :
    (files.find? (fun file => file.name = name) = none ∧ others.find? (fun file => file.name = name) = none) ∨
      ∃ file other, files.find? (fun file => file.name = name) = some file ∧
        others.find? (fun file => file.name = name) = some other ∧ SameFile file other := by
  induction same with
  | nil => exact .inl ⟨rfl, rfl⟩
  | @cons file other rest more here later ih =>
    by_cases named : file.name = name
    · exact .inr ⟨file, other, List.find?_cons_of_pos (by simpa using named),
        List.find?_cons_of_pos (by simpa using here.1.symm.trans named), here⟩
    · have unnamed : ¬other.name = name := fun hit => named (here.1.trans hit)
      rw [List.find?_cons_of_neg (by simpa using named), List.find?_cons_of_neg (by simpa using unnamed)]
      exact ih

theorem open_same (same : SameButLogs first second) {path : Bytes} (safe : systemLogName (paths.entry path) = false) :
    (first.open paths path).map Opened.content = (second.open paths path).map Opened.content := by
  unfold SdVolume.open
  rw [same.directories]
  dsimp only
  split
  · rfl
  · rcases find_same same.files (paths.entry path) with ⟨none, nothing⟩ | ⟨file, other, found, another, alike⟩
    · rw [none, nothing]
    · have name : file.name = paths.entry path := by simpa using List.find?_some found
      rw [found, another]
      exact congrArg some (alike.2 (name ▸ safe))

theorem listed_same {files others : List SdFile} (same : List.Forall₂ SameFile files others) :
    (files.filter fun file => CsvLogger.listedName file.name).map CsvLogger.fileJson =
      (others.filter fun file => CsvLogger.listedName file.name).map CsvLogger.fileJson := by
  induction same with
  | nil => rfl
  | @cons file other rest more here later ih =>
    cases listed : CsvLogger.listedName file.name with
    | false =>
      have unlisted : CsvLogger.listedName other.name = false := here.1 ▸ listed
      simp only [List.filter_cons, listed, unlisted, Bool.false_eq_true, if_false, ih]
    | true =>
      have both : CsvLogger.listedName other.name = true := here.1 ▸ listed
      have csv : ascii ".csv" <:+ file.name := of_decide_eq_true (Bool.and_eq_true_iff.mp listed).2
      have content := here.2 (csv_not_log csv)
      simp only [List.filter_cons, both, if_true, List.map_cons, ih, CsvLogger.fileJson, here.1, content]

theorem listFilesJson_same (same : SameButLogs first second) (logger : CsvLogger) :
    logger.listFilesJson first = logger.listFilesJson second := by
  unfold CsvLogger.listFilesJson
  rw [same.listed]
  split
  · rfl
  · dsimp only
    rw [listed_same same.files]

end Volumes

section Requests

variable {ui : WebUi} {paths : PathNames} {request : Request}

theorem refused (unauthenticated : ui.authenticated request = false) (first second : Response) :
    ui.settingsAuthorized request first = ui.settingsAuthorized request second := by
  unfold settingsAuthorized
  split
  · rfl
  · simp [unauthenticated]

theorem opened_eq (download : dispatch request = .download) (volume : SdVolume) :
    ui.opened paths volume request = (ui.downloadPath request).bind (volume.open paths) := by
  unfold opened downloadPath CsvLogger.openReadOnly
  cases ui.logger with
  | none => rfl
  | some logger =>
    by_cases under : ascii "/download/" <+: request.uri <;> cases ready : logger.ready <;>
      by_cases named : Logic.normalizeLogFileName (cText (request.uri.drop (ascii "/download/").length)) = [] <;>
      simp [download, under, ready, named]

theorem handleDownload_eq (volume : SdVolume) :
    ui.handleDownload paths volume request =
      if ui.logger.isNone ∨ ¬ascii "/download/" <+: request.uri then .sent 404 "text/plain" (ascii "Not found")
      else
        match (ui.opened paths volume request).map Opened.content with
        | none => .sent 404 "text/plain" (ascii "File not found")
        | some content => .sent 200 "text/csv" content := by
  unfold handleDownload
  split
  · rfl
  · cases ui.opened paths volume request <;> rfl

theorem independent_of_path (unauthenticated : ui.authenticated request = false)
    (safe : ∀ path, ui.downloadPath request = some path → systemLogName (paths.entry path) = false) :
    ui.Independent paths request := by
  intro first second same
  unfold respond
  split
  · exact congrArg _ (refused unauthenticated _ _)
  · exact congrArg _ (refused unauthenticated _ _)
  · exact congrArg _ (refused unauthenticated _ _)
  · exact refused unauthenticated _ _
  · exact refused unauthenticated _ _
  · rfl
  · rfl
  · rfl
  · unfold handleFilesJson
    split
    · rfl
    · rw [listFilesJson_same same]
  · rename_i download
    rw [handleDownload_eq, handleDownload_eq, opened_eq download, opened_eq download]
    cases asked : ui.downloadPath request with
    | none => rfl
    | some path => rw [Option.bind_some, Option.bind_some, open_same same (safe path asked)]
  · exact refused unauthenticated _ _

def oneFile (name content : Bytes) : SdVolume := { files := [⟨name, content⟩] }

theorem oneFile_same {name : Bytes} (log : systemLogName name = true) (first second : Bytes) :
    SameButLogs (oneFile name first) (oneFile name second) where
  listed := rfl
  directories := rfl
  files := .cons ⟨rfl, fun other => by cases log.symm.trans other⟩ .nil

theorem open_oneFile {path content : Bytes} :
    (oneFile (paths.entry path) content).open paths path = some (.file ⟨paths.entry path, content⟩) := by
  simp [SdVolume.open, oneFile]

theorem dispatch_of_path {path : Bytes} (asked : ui.downloadPath request = some path) :
    dispatch request = .download ∧ ui.logger.isSome ∧ ascii "/download/" <+: request.uri := by
  unfold downloadPath at asked
  split at asked
  · cases asked
  · rename_i logger attached
    dsimp only at asked
    split at asked
    · rename_i here
      exact ⟨here.1, by rw [attached]; rfl, here.2.1⟩
    · cases asked

theorem respond_oneFile {path : Bytes} (asked : ui.downloadPath request = some path) (content : Bytes) :
    ui.respond paths (oneFile (paths.entry path) content) request = .sent 200 "text/csv" content := by
  obtain ⟨download, attached, under⟩ := dispatch_of_path asked
  have present : ¬(ui.logger.isNone = true ∨ ¬ascii "/download/" <+: request.uri) := by
    simp [under, Option.isSome_iff_ne_none.mp attached]
  unfold respond
  rw [download]
  dsimp only
  rw [handleDownload_eq, if_neg present, opened_eq download, asked, Option.bind_some, open_oneFile]
  rfl

/-- The contents of system logs stay hidden exactly when the request downloads no system log. -/
theorem independent_iff (unauthenticated : ui.authenticated request = false) :
    ui.Independent paths request ↔
      ∀ path, ui.downloadPath request = some path → systemLogName (paths.entry path) = false := by
  constructor
  · intro independent path asked
    cases log : systemLogName (paths.entry path) with
    | false => rfl
    | true =>
      have same := independent _ _ (oneFile_same log [] [0])
      rw [respond_oneFile asked, respond_oneFile asked] at same
      cases same
  · exact independent_of_path unauthenticated

theorem opensSensorCsv_iff :
    ui.OpensSensorCsv paths request ↔
      ∀ path, ui.downloadPath request = some path → sensorCsvName (paths.entry path) = true := by
  constructor
  · intro opens path asked
    have download := (dispatch_of_path asked).1
    apply opens download (oneFile (paths.entry path) []) ⟨paths.entry path, []⟩
    rw [opened_eq download, asked, Option.bind_some, open_oneFile]
  · intro names download volume file hit
    rw [opened_eq download] at hit
    obtain ⟨path, asked, found⟩ := Option.bind_eq_some_iff.mp hit
    unfold SdVolume.open at found
    dsimp only at found
    split at found
    · cases found
    · obtain ⟨held, located, same⟩ := Option.map_eq_some_iff.mp found
      cases same
      have name : file.name = paths.entry path := by simpa using List.find?_some located
      rw [name]
      exact names path asked

theorem csvName_not_log {name : Bytes} (csv : sensorCsvName name = true) : systemLogName name = false :=
  csv_not_log (of_decide_eq_true (Bool.and_eq_true_iff.mp csv).2)

/-- Without credentials the logs are confined exactly when a download names a sensor CSV file. -/
theorem downloads_confined (ui : WebUi) (paths : PathNames) (request : Request)
    (unauthenticated : ui.authenticated request = false) :
    (ui.Independent paths request ∧ ui.OpensSensorCsv paths request) ↔
      ∀ path, ui.downloadPath request = some path → sensorCsvName (paths.entry path) = true := by
  rw [independent_iff unauthenticated, opensSensorCsv_iff]
  constructor
  · exact fun confined => confined.2
  · exact fun names => ⟨fun path asked => csvName_not_log (names path asked), names⟩

end Requests

section Bench

/-- A file system that knows a root file by its exact name. -/
def exactNames : PathNames where
  entry path := path.drop 1
  rooted _ _ := rfl

def benchUi : WebUi where
  logger := some { ready := true }
  systemLog := { ready := true }
  settingsPassword := ascii "ota-password"
  localSettingsEnabled := true
  indexHtml := []
  diagnosticsHtml := []
  liveJson := []
  managed _ _ := .sent 200 "text/html" []
  serializeFiles _ := ascii "[]"

def anonymous (name : String) : Request where
  method := .get
  uri := ascii "/download/" ++ ascii name
  arg _ := []
  authenticate _ _ := false

theorem downloads_confined_csv :
    benchUi.downloadPath (anonymous "logs-20260924.csv") = some (ascii "/logs-20260924.csv") ∧
      benchUi.Independent exactNames (anonymous "logs-20260924.csv") ∧
      benchUi.OpensSensorCsv exactNames (anonymous "logs-20260924.csv") := by
  have asked : benchUi.downloadPath (anonymous "logs-20260924.csv") = some (ascii "/logs-20260924.csv") := by
    decide
  refine ⟨asked, (downloads_confined benchUi exactNames (anonymous "logs-20260924.csv") rfl).mpr ?_⟩
  intro path same
  cases asked.symm.trans same
  decide

/-- A system log is served to a request without credentials. -/
theorem log_served :
    ¬∀ (ui : WebUi) (paths : PathNames) (request : Request), ui.authenticated request = false →
      ui.Independent paths request ∧ ui.OpensSensorCsv paths request := by
  intro confined
  have asked : benchUi.downloadPath (anonymous "logger-20260924-00000000.log") =
      some (ascii "/logger-20260924-00000000.log") := by decide
  have independent := (confined benchUi exactNames (anonymous "logger-20260924-00000000.log") rfl).1
  have hidden := (independent_iff rfl).mp independent _ asked
  exact absurd hidden (by decide)

end Bench

end ApexiDevices.WebUi
