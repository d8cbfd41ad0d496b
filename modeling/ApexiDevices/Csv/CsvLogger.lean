import ApexiDevices.Shared.SensorTypes
import ApexiDevices.Storage.SdCard

set_option autoImplicit false

namespace ApexiDevices

open Device

/-- A text without line endings: a sensor id, a timestamp, a number with its decimals. -/
structure Field where
  bytes : Bytes
  plain : Plain bytes

structure SensorSnapshot where
  id : Field
  filteredValue : Field
  loopCurrentmA : Field
  activeFault : SensorFault

/-- What one `logRow` call reads: the clock, the uptime and the configured sensors. -/
structure Sample (ids : List Field) where
  dateStamp : Bytes
  logTimestamp : Field
  uptimeMs : UInt32
  sensors : List SensorSnapshot
  configured : sensors.map SensorSnapshot.id = ids

namespace Sample

variable {ids : List Field}

def row (sample : Sample ids) : Bytes :=
  sample.logTimestamp.bytes ++ ascii "," ++ decimal sample.uptimeMs.toNat ++
    sample.sensors.flatMap fun sensor =>
      ascii "," ++ sensor.filteredValue.bytes ++ ascii "," ++ sensor.loopCurrentmA.bytes ++ ascii "," ++
        sensorFaultToString sensor.activeFault

theorem row_plain (sample : Sample ids) : Plain sample.row := by
  have comma : Plain (ascii ",") := by decide
  refine ((sample.logTimestamp.plain.append comma).append (decimal_plain _)).append (Plain.flatMap ?_)
  intro sensor _
  exact ((((comma.append sensor.filteredValue.plain).append comma).append sensor.loopCurrentmA.plain).append
    comma).append (sensorFaultToString_plain _)

end Sample

def csvHeader (ids : List Field) : Bytes :=
  ascii "timestamp,uptime_ms" ++ ids.flatMap fun id =>
    ascii "," ++ id.bytes ++ ascii "_value" ++ ascii "," ++ id.bytes ++ ascii "_mA" ++ ascii "," ++ id.bytes ++
      ascii "_fault"

theorem csvHeader_plain (ids : List Field) : Plain (csvHeader ids) := by
  have start : Plain (ascii "timestamp,uptime_ms") := by decide
  have comma : Plain (ascii ",") := by decide
  have endings : Plain (ascii "_value") ∧ Plain (ascii "_mA") ∧ Plain (ascii "_fault") := by decide
  refine start.append (Plain.flatMap fun id _ => ?_)
  exact (((((((comma.append id.plain).append endings.1).append comma).append id.plain).append
    endings.2.1).append comma).append id.plain).append endings.2.2

structure CsvLogger where
  ready : Bool := false
  currentFileName : Bytes := []
  lastError : String := ""
  -- file_, by the name it was opened with
  file : Option Bytes := none
  lastFlushMs : UInt32 := 0
  rowsSinceFlush : UInt16 := 0
  rowsWritten : UInt32 := 0
  lastWriteMs : UInt32 := 0
  incompleteRow : Bool := false

namespace CsvLogger

def loggerFlushIntervalMs : UInt32 := 1000
def loggerFlushRows : UInt16 := 20

/-- `file_.print`: a closed file takes nothing. -/
def print (logger : CsvLogger) (bytes : Bytes) : OnCard Nat :=
  match logger.file with
  | none => pure 0
  | some name => Sd.print name bytes

def flush (logger : CsvLogger) : OnCard Unit :=
  match logger.file with
  | none => pure ()
  | some name => Sd.flush name

def disable (logger : CsvLogger) : OnCard CsvLogger := do
  logger.flush
  return { logger with ready := false, currentFileName := [], lastError := "microSD logging disabled", file := none }

/-- `mounted` is the answer of `SD.begin`. -/
def begin (logger : CsvLogger) (mounted : Bool) : CsvLogger :=
  { logger with ready := mounted, lastError := if mounted then "" else "microSD mount failed" }

def writeHeaderIfNeeded (logger : CsvLogger) (sensors : List SensorSnapshot) : OnCard (Bool × CsvLogger) :=
  match logger.file with
  | none => return (false, { logger with lastError := "CSV header write failed" })
  | some name => do
    let header := csvHeader (sensors.map SensorSnapshot.id)
    let written ← Sd.println name header
    if written ≠ header.length + 2 then
      return (false, { logger with lastError := "CSV header write failed" })
    else do
      Sd.flush name
      return (true, { logger with lastFlushMs := 0, rowsSinceFlush := 0 })

def startFile (logger : CsvLogger) (desiredName : Bytes) (sensors : List SensorSnapshot) :
    OnCard (Bool × CsvLogger) := do
  let header ← logger.writeHeaderIfNeeded sensors
  if header.1 then return (true, header.2)
  else do
    let closed := { header.2 with file := none, currentFileName := [] }
    let removed ← Sd.remove desiredName
    if removed then return (false, closed)
    else
      return (false, { closed with
        ready := false
        lastError := "CSV header write failed; incomplete file could not be removed" })

def fileName (dateStamp : Bytes) : Bytes := ascii "/logs-" ++ dateStamp ++ ascii ".csv"

def ensureFileOpen (logger : CsvLogger) (dateStamp : Bytes) (sensors : List SensorSnapshot) :
    OnCard (Bool × CsvLogger) :=
  let desiredName := fileName dateStamp
  if logger.file.isSome ∧ logger.currentFileName = desiredName then return (true, logger)
  else do
    logger.flush
    let present ← Sd.exists desiredName
    let opened ← Sd.openAppend desiredName
    if opened then do
      let open_ := { logger with file := some desiredName, currentFileName := desiredName }
      let size ← Sd.size desiredName
      if !present || size = 0 then open_.startFile desiredName sensors else return (true, open_)
    else return (false, { logger with file := none, lastError := "Open log file failed" })

def separate (logger : CsvLogger) : OnCard Bool :=
  if logger.incompleteRow then do
    let written ← logger.print (ascii "\n")
    return decide (written = 1)
  else return true

def writeRow {ids : List Field} (logger : CsvLogger) (sample : Sample ids) : OnCard (Bool × CsvLogger) := do
  let separated ← logger.separate
  if separated then do
    let row := sample.row ++ ascii "\n"
    let written ← logger.print row
    if written = row.length then
      return (true, { logger with
        incompleteRow := false
        rowsSinceFlush := logger.rowsSinceFlush + 1
        rowsWritten := if logger.rowsWritten ≠ 0xFFFFFFFF then logger.rowsWritten + 1 else logger.rowsWritten
        lastWriteMs := sample.uptimeMs
        lastError := "" })
    else return (false, { logger with incompleteRow := true, lastError := "CSV write failed" })
  else return (false, { logger with lastError := "CSV write failed" })

def logRow {ids : List Field} (logger : CsvLogger) (sample : Sample ids) : OnCard (Bool × CsvLogger) :=
  if logger.ready then do
    let opened ← logger.ensureFileOpen sample.dateStamp sample.sensors
    if opened.1 then opened.2.writeRow sample else return opened
  else
    return (false,
      if logger.lastError.isEmpty then { logger with lastError := "microSD logging disabled" } else logger)

def flushIfNeeded (logger : CsvLogger) (uptimeMs : UInt32) : OnCard CsvLogger :=
  if logger.ready ∧ logger.file.isSome ∧
      (uptimeMs - logger.lastFlushMs ≥ loggerFlushIntervalMs ∨ logger.rowsSinceFlush ≥ loggerFlushRows) then do
    logger.flush
    return { logger with lastFlushMs := uptimeMs, rowsSinceFlush := 0 }
  else return logger

end CsvLogger

end ApexiDevices
