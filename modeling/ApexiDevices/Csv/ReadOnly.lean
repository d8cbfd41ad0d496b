import ApexiDevices.Csv.CsvLogger
import ApexiDevices.Dash.SystemEvents
import ApexiDevices.Storage.SdFiles

set_option autoImplicit false

namespace ApexiDevices

open Device SystemEvents

/-- A card to read from. A file or directory below the root has its path as its name. -/
structure SdVolume where
  -- whether SD.open("/") succeeds
  listed : Bool := true
  files : List SdFile
  directories : List Bytes := []

/-- How the file system reads a path: a safe name behind a slash is that name in the root. -/
structure PathNames where
  entry : Bytes → Bytes
  rooted : ∀ name, safeName name = true → entry (47 :: name) = name

inductive Opened where
  | file (file : SdFile)
  | directory

def SdVolume.open (paths : PathNames) (volume : SdVolume) (path : Bytes) : Option Opened :=
  let name := paths.entry path
  if name ∈ volume.directories then some .directory
  else (volume.files.find? fun file => file.name = name).map .file

/-- What `streamFile` sends: a directory has no bytes. -/
def Opened.content : Opened → Bytes
  | .file found => found.content
  | .directory => []

namespace Logic

def isSpace (byte : UInt8) : Bool := byte = 32 || (9 ≤ byte && byte ≤ 13)

def isAlnum (byte : UInt8) : Bool := digit byte || lower byte || (65 ≤ byte && byte ≤ 90)

def trimWhitespace (input : Bytes) : Bytes :=
  ((input.dropWhile isSpace).reverse.dropWhile isSpace).reverse

def allowed (byte : UInt8) : Bool := isAlnum byte || byte = 47 || byte = 45 || byte = 95 || byte = 46

/-- The path, or nothing when a character or `..` is refused. -/
def normalizeLogFileName (rawName : Bytes) : Bytes :=
  let candidate := trimWhitespace rawName
  if candidate = [] then []
  else
    let rooted := if candidate.head? ≠ some 47 then 47 :: candidate else candidate
    if !rooted.all allowed then []
    else if ascii ".." <:+: rooted then []
    else rooted

end Logic

namespace CsvLogger

def openReadOnly (logger : CsvLogger) (paths : PathNames) (volume : SdVolume) (userVisibleName : Bytes) :
    Option Opened :=
  if !logger.ready then none
  else
    let normalized := Logic.normalizeLogFileName (cText userVisibleName)
    if normalized = [] then none else volume.open paths normalized

def fileJson (file : SdFile) : Bytes :=
  ascii "\x7b\"name\":\"" ++ file.name ++ ascii "\",\"size\":" ++ decimal file.content.length ++ ascii "\x7d"

/-- A name in the root that ends in `.csv`. -/
def listedName (name : Bytes) : Bool := !name.contains 47 && decide (ascii ".csv" <:+ name)

def listFilesJson (logger : CsvLogger) (volume : SdVolume) : Bytes :=
  if !logger.ready || !volume.listed then ascii "[]"
  else
    let named := volume.files.filter fun file => listedName file.name
    ascii "[" ++ (ascii ",").intercalate (named.map fileJson) ++ ascii "]"

end CsvLogger

end ApexiDevices
