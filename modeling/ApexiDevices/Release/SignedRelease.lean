import ApexiDevices.Release.ProductionSecurity
import ApexiDevices.Shared.Outcome
import Mathlib.Data.List.Nodup

set_option autoImplicit false

/-!
# Evidence of a signed release, as `verify_signed_release.py` gathers it
-/

namespace ApexiDevices.SignedRelease

open Device PythonText ProductionSecurity

inductive Raised where
  | evidenceError (message : String)
  | exception
  deriving DecidableEq

abbrev Folder := String → Option Bytes

structure Host where
  md5 : Bytes → Bytes
  sha : Bytes → String
  -- the image and the public key
  verifier : Bytes → Bytes → Except Raised Unit

def require (condition : Bool) (message : String) : Except Raised Unit :=
  if condition then .ok () else .error (.evidenceError message)

def limit (name : String) : Nat :=
  if name = "firmware.bin" then 0x200000 else if name = "bootloader.bin" then 0x7000 else 1024 * 1024

def readBounded (file : Option Bytes) (maximum : Nat) : Except Raised Bytes :=
  match file with
  | none => .error .exception
  | some data =>
    let read := data.take (maximum + 1)
    if read.isEmpty || maximum < read.length then
      .error (.evidenceError "artifact is empty or exceeds profile capacity")
    else .ok read

/-- `bytes.decode("utf-8")` -/
def decode (bytes : Bytes) : Except Raised Text :=
  match String.fromUTF8? ⟨⟨bytes⟩⟩ with
  | some text => .ok text.toList
  | none => .error .exception

def readText (file : Option Bytes) : Except Raised Text :=
  match file with
  | some bytes => decode bytes
  | none => .error .exception

def readInput (first second : Folder) (name : String) : Except Raised Bytes := do
  let left ← readBounded (first name) (limit name)
  let right ← readBounded (second name) (limit name)
  require (left == right) "independent build inputs are not byte-identical"
  return left

structure Inputs where
  firmware : Bytes
  bootloader : Bytes
  partitions : Bytes
  sdkconfig : Bytes
  buildFlags : Bytes
  dependencies : Bytes

def readInputs (first second : Folder) : Except Raised Inputs := do
  let firmware ← readInput first second "firmware.bin"
  let bootloader ← readInput first second "bootloader.bin"
  let partitions ← readInput first second "partitions.bin"
  let sdkconfig ← readInput first second "sdkconfig"
  let buildFlags ← readInput first second "build-flags.txt"
  let dependencies ← readInput first second "dependencies.lock"
  return { firmware, bootloader, partitions, sdkconfig, buildFlags, dependencies }

/-! ## SDK entries -/

/-- `[A-Z0-9_]` -/
def nameChar (char : Char) : Bool :=
  ('A' ≤ char && char ≤ 'Z') || ('0' ≤ char && char ≤ '9') || char == '_'

/-- The text behind `(?:# )?` -/
def uncommented (line : Text) : Text := if "# ".toList.isPrefixOf line then line.drop 2 else line

/-- The option of `(CONFIG_[A-Z0-9_]+)(?:=| is not set)`. -/
def optionAt (line : Text) : Option Text :=
  let name := (line.drop 7).takeWhile nameChar
  let behind := (line.drop 7).dropWhile nameChar
  if "CONFIG_".toList.isPrefixOf line && !name.isEmpty &&
      ("=".toList.isPrefixOf behind || " is not set".toList.isPrefixOf behind) then
    some ("CONFIG_".toList ++ name)
  else none

/-- What `re.match` reads at the start of a line. -/
def entry (line : Text) : Option Text := optionAt (uncommented line)

/-- The lines behind those whose entries are known. -/
def checkEntries : (entries : List Text) → List Text → Except Raised Unit
  | _, [] => .ok ()
  | entries, line :: rest =>
    match entry line with
    | none => checkEntries entries rest
    | some option => do
      require (!entries.contains option) "duplicate SDK configuration entry"
      checkEntries (option :: entries) rest

def checkOptions (options : List Text) : Except Raised Unit := do
  let has (option : String) : Bool := options.contains option.toList
  require (has "CONFIG_SECURE_BOOT" && !has "CONFIG_BOOTLOADER_APP_ANTI_ROLLBACK")
    "unsupported secure-boot or automatic anti-rollback policy"
  require (has "CONFIG_APP_REPRODUCIBLE_BUILD" ||
      (!has "CONFIG_APP_COMPILE_TIME_DATE" && has "CONFIG_COMPILER_HIDE_PATHS_MACROS"))
    "reproducible-build SDK controls are missing"

/-! ## Images -/

def unpack (width : Nat) (bytes : Bytes) (offset : Nat) : Nat := ofLittleEndian ((bytes.drop offset).take width)

def ljust (bytes : Bytes) (width : Nat) (fill : UInt8) : Bytes := bytes ++ List.replicate (width - bytes.length) fill

def checkApp (app : Bytes) (project : String) (securityVersion : Int) : Except Raised Unit := do
  require (!(app.length < 288 || app.getD 0 0 != 0xE9 || unpack 2 app 12 != 0))
    "application target is not the supported ESP32 image"
  require (unpack 4 app 32 == 0xABCD5432 && (unpack 4 app 36 : Int) == securityVersion)
    "application security version does not match policy"
  require ((app.drop 80).take 32 == ljust (ascii project) 32 0) "application project does not match policy"

/-- `<HBBII16sI`, behind the magic number. -/
def partitionRow (kind subtype : UInt8) (offset size : Nat) (label : String) (flags : Nat) : Bytes :=
  littleEndian 2 0x50AA ++ [kind, subtype] ++ littleEndian 4 offset ++ littleEndian 4 size ++
    ljust (ascii label) 16 0 ++ littleEndian 4 flags

def partitionRows : Bytes :=
  partitionRow 1 2 0x9000 0x4000 "nvs" 0 ++ partitionRow 1 4 0xD000 0x1000 "nvs_keys" 1 ++
    partitionRow 1 0 0xE000 0x2000 "otadata" 0 ++ partitionRow 0 0x10 0x10000 0x200000 "app0" 0 ++
    partitionRow 0 0x11 0x210000 0x200000 "app1" 0 ++ partitionRow 1 0x82 0x410000 0xBF0000 "littlefs" 1

def partitionTable (host : Host) : Bytes :=
  partitionRows ++ [0xeb, 0xeb] ++ List.replicate 14 0xff ++ host.md5 partitionRows

structure Artifact where
  sha256 : String
  bytes : Nat

def checkArtifact (host : Host) (signed : Folder) (key : Bytes) (name : String) (unsigned : Bytes) :
    Except Raised Artifact := do
  let data ← readBounded (signed name) (limit name)
  let padded := unsigned ++ List.replicate ((4096 - unsigned.length % 4096) % 4096) 0xff
  require (data.length == padded.length + 4096 && data.take (data.length - 4096) == padded)
    "signed image differs from the reproduced unsigned input"
  host.verifier data key
  return { sha256 := host.sha data, bytes := data.length }

/-! ## The whole -/

structure Evidence where
  sourceCommitClaim : String
  project : String
  securityVersion : Int
  publicKeySha256 : String
  reproducedInputSha256 : List (String × String)
  signedArtifacts : List (String × Artifact)

def lowerHexDigit (char : Char) : Bool := ('0' ≤ char && char ≤ '9') || ('a' ≤ char && char ≤ 'f')

def projectChar (char : Char) : Bool :=
  ('A' ≤ char && char ≤ 'Z') || ('a' ≤ char && char ≤ 'z') || ('0' ≤ char && char ≤ '9') || char == '_' || char == '-'

def checkPolicy (sourceCommit project : String) (securityVersion : Int) : Except Raised Unit := do
  require (sourceCommit.length == 40 && sourceCommit.toList.all lowerHexDigit)
    "source commit must be an immutable full SHA"
  require (1 ≤ project.length && project.length ≤ 31 && project.toList.all projectChar && 0 ≤ securityVersion &&
      securityVersion ≤ 32)
    "invalid project or security-version policy"

/-- What is checked of the two texts; the configuration is read from the first build once more. -/
def checkTexts (first : Folder) (inputs : Inputs) : Except Raised Unit := do
  let sdkconfig ← decode inputs.sdkconfig
  checkEntries [] (splitlines sdkconfig)
  let flags ← decode inputs.buildFlags
  let again ← readText (first "sdkconfig")
  require (classify again flags true).sdkSecurityReady "SDK or runtime security gate is not ready"
  checkOptions (enabledOptions again)

def verify (host : Host) (first second signed : Folder) (publicKey : Option Bytes) (sourceCommit project : String)
    (securityVersion : Int) : Except Raised Evidence := do
  checkPolicy sourceCommit project securityVersion
  let key ← readBounded publicKey 8192
  require (!key.tails.any (ascii "PRIVATE").isPrefixOf && (ascii "-----BEGIN PUBLIC KEY-----").isPrefixOf key)
    "only a public verification key is accepted"
  let inputs ← readInputs first second
  checkTexts first inputs
  checkApp inputs.firmware project securityVersion
  require (inputs.partitions == ljust (partitionTable host) 0xC00 0xff)
    "partition table does not match encrypted NVS/dual-slot profile"
  let firmware ← checkArtifact host signed key "firmware.bin" inputs.firmware
  let bootloader ← checkArtifact host signed key "bootloader.bin" inputs.bootloader
  return {
    sourceCommitClaim := sourceCommit
    project
    securityVersion
    publicKeySha256 := host.sha key
    reproducedInputSha256 := [("firmware.bin", host.sha inputs.firmware), ("bootloader.bin", host.sha inputs.bootloader),
      ("partitions.bin", host.sha inputs.partitions), ("sdkconfig", host.sha inputs.sdkconfig),
      ("build-flags.txt", host.sha inputs.buildFlags), ("dependencies.lock", host.sha inputs.dependencies)]
    signedArtifacts := [("firmware.bin", firmware), ("bootloader.bin", bootloader)] }

/-! ## What the anchored pattern reads -/

theorem takeWhile_stop {α : Type} {p : α → Bool} {front rest : List α} {stop : α} (stops : p stop = false) :
    (front ++ stop :: rest).takeWhile p = front.takeWhile p := by
  induction front with
  | nil => rw [List.nil_append, List.takeWhile_cons_of_neg (by simp [stops]), List.takeWhile_nil]
  | cons first front ih =>
    rw [List.cons_append]
    cases holds : p first with
    | true => rw [List.takeWhile_cons_of_pos holds, List.takeWhile_cons_of_pos holds, ih]
    | false => rw [List.takeWhile_cons_of_neg (by simp [holds]), List.takeWhile_cons_of_neg (by simp [holds])]

theorem drop_config (rest : Text) : ("CONFIG_".toList ++ rest).drop 7 = rest := List.drop_left' (by decide)

theorem optionAt_some {line option : Text} (read : optionAt line = some option) :
    ∃ rest, line = "CONFIG_".toList ++ rest ∧ option = "CONFIG_".toList ++ rest.takeWhile nameChar := by
  rw [optionAt] at read
  split at read
  case isFalse => cases read
  case isTrue shape =>
    rw [Bool.and_eq_true, Bool.and_eq_true, List.isPrefixOf_iff_prefix] at shape
    obtain ⟨rest, rfl⟩ := shape.1.1
    rw [drop_config] at read
    exact ⟨rest, rfl, (Option.some.inj read).symm⟩

theorem entry_some {line option : Text} (read : entry line = some option) :
    ∃ rest, (line = "# ".toList ++ ("CONFIG_".toList ++ rest) ∨ line = "CONFIG_".toList ++ rest) ∧
      option = "CONFIG_".toList ++ rest.takeWhile nameChar := by
  obtain ⟨rest, whole, same⟩ := optionAt_some read
  refine ⟨rest, ?_, same⟩
  rw [uncommented] at whole
  split at whole
  case isFalse => exact .inr whole
  case isTrue comment =>
    rw [List.isPrefixOf_iff_prefix] at comment
    obtain ⟨behind, rfl⟩ := comment
    rw [List.drop_left' (by decide)] at whole
    exact .inl (by rw [whole])

theorem entry_of_mentions {name line read : Text} (mentioned : mentions ("CONFIG_".toList ++ name) line = true)
    (own : entry line = some read) : read = "CONFIG_".toList ++ name.takeWhile nameChar := by
  obtain ⟨rest, starts, rfl⟩ := entry_some own
  rw [mentions, Bool.or_eq_true, List.isPrefixOf_iff_prefix, beq_iff_eq] at mentioned
  have equals : nameChar '=' = false := by decide
  have space : nameChar ' ' = false := by decide
  obtain comment | plain := starts
  · -- the line begins with `#`: it says that the option is not set
    obtain ⟨more, stripped⟩ : strip line <+: line := by
      rw [comment]
      exact strip_prefix (by decide)
    obtain ⟨value, assigned⟩ | unset := mentioned
    · rw [← assigned, comment] at stripped
      exact absurd (List.cons.inj stripped).1 (by decide)
    · rw [unset, comment, List.append_assoc, List.append_assoc, List.append_assoc, List.append_cancel_left_eq,
        List.append_cancel_left_eq] at stripped
      have same : name ++ ' ' :: ("is not set".toList ++ more) = rest := stripped
      rw [← same, takeWhile_stop space]
  · -- the line begins with the option: it assigns it
    obtain ⟨more, stripped⟩ : strip line <+: line := by
      rw [plain]
      exact strip_prefix (by decide)
    obtain ⟨value, assigned⟩ | unset := mentioned
    · rw [← assigned, plain, List.append_assoc, List.append_assoc, List.append_assoc, List.append_cancel_left_eq] at stripped
      have same : name ++ '=' :: (value ++ more) = rest := stripped
      rw [← same, takeWhile_stop equals]
    · rw [unset, plain] at stripped
      exact absurd (List.cons.inj stripped).1 (by decide)

theorem checkEntries_nodup {entries lines : List Text} (checked : checkEntries entries lines = .ok ()) :
    (lines.filterMap entry).Nodup ∧ ∀ option ∈ lines.filterMap entry, option ∉ entries := by
  induction lines generalizing entries with
  | nil => simp
  | cons line rest ih =>
    rw [checkEntries] at checked
    cases read : entry line with
    | none =>
      rw [read] at checked
      rw [List.filterMap_cons_none read]
      exact ih checked
    | some option =>
      rw [read] at checked
      obtain ⟨_, fresh, checked⟩ := bind_ok checked
      have new : option ∉ entries := by
        intro twice
        rw [require, if_neg (by simpa using twice)] at fresh
        cases fresh
      obtain ⟨nodup, apart⟩ := ih checked
      rw [List.filterMap_cons_some read, List.nodup_cons]
      refine ⟨⟨fun again => apart option again (List.mem_cons_self ..), nodup⟩, ?_⟩
      intro other member
      obtain rfl | later := List.mem_cons.mp member
      · exact new
      · exact fun known => apart other later (List.mem_cons_of_mem _ known)

/-! ## What the verdict is worth -/

def EachRead (sdkconfig : Text) : Prop :=
  ∀ option ∈ enabledOptions sdkconfig, ∀ line ∈ splitlines sdkconfig, mentions option line = true →
    (entry line).isSome = true

theorem mentioned_of_enabled {sdkconfig option : Text} (enabled : option ∈ enabledOptions sdkconfig) :
    0 < (splitlines sdkconfig).countP (mentions option) := by
  rw [enabledOptions, splitlines_universal, List.mem_filterMap] at enabled
  obtain ⟨line, member, enables⟩ := enabled
  exact List.countP_pos_iff.mpr ⟨line, member, mentions_of_enabled enables⟩

theorem oneLineEach_of_read {sdkconfig : Text} (distinct : ((splitlines sdkconfig).filterMap entry).Nodup)
    (read : EachRead sdkconfig) : OneLineEach sdkconfig := by
  intro option enabled
  have some := mentioned_of_enabled enabled
  have said := enabled
  rw [enabledOptions, List.mem_filterMap] at said
  obtain ⟨_, _, enables⟩ := said
  obtain ⟨-, name, rfl⟩ := enabledOption_some enables
  -- all that mention it are read under one name, which is read once
  have once := List.nodup_iff_count_le_one.mp distinct ("CONFIG_".toList ++ name.takeWhile nameChar)
  have counted : (splitlines sdkconfig).countP (mentions ("CONFIG_".toList ++ name)) ≤
      ((splitlines sdkconfig).filterMap entry).count ("CONFIG_".toList ++ name.takeWhile nameChar) := by
    rw [List.count, List.countP_filterMap]
    refine List.countP_mono_left ?_
    intro line member mentioned
    obtain ⟨found, own⟩ := Option.isSome_iff_exists.mp (read _ enabled line member mentioned)
    rw [own, entry_of_mentions mentioned own]
    simp
  omega

def gate : String := "APEXI_PRODUCTION_SECURITY_REQUIRED"

theorem gate_unbroken : Unbroken gate := by
  unfold Unbroken
  decide

theorem readBounded_ok {file : Option Bytes} {maximum : Nat} {read : Bytes} (bounded : readBounded file maximum = .ok read) :
    file = some read := by
  cases file with
  | none => cases bounded
  | some data =>
    rw [readBounded] at bounded
    split at bounded
    case isTrue => cases bounded
    case isFalse inside =>
      rw [Bool.or_eq_true, not_or, decide_eq_true_eq, List.length_take] at inside
      have whole : data.take (maximum + 1) = data := List.take_of_length_le (by omega)
      rw [whole] at bounded
      cases bounded
      rfl

theorem readInput_ok {first second : Folder} {name : String} {read : Bytes}
    (same : readInput first second name = .ok read) : first name = some read := by
  obtain ⟨left, bounded, same⟩ := bind_ok same
  obtain ⟨right, -, same⟩ := bind_ok same
  obtain ⟨_, -, same⟩ := bind_ok same
  cases same
  exact readBounded_ok bounded

theorem readInputs_ok {first second : Folder} {inputs : Inputs} (same : readInputs first second = .ok inputs) :
    first "sdkconfig" = some inputs.sdkconfig ∧ first "build-flags.txt" = some inputs.buildFlags := by
  obtain ⟨firmware, -, same⟩ := bind_ok same
  obtain ⟨bootloader, -, same⟩ := bind_ok same
  obtain ⟨partitions, -, same⟩ := bind_ok same
  obtain ⟨sdkconfig, configured, same⟩ := bind_ok same
  obtain ⟨buildFlags, flagged, same⟩ := bind_ok same
  obtain ⟨dependencies, -, same⟩ := bind_ok same
  cases same
  exact ⟨readInput_ok configured, readInput_ok flagged⟩

theorem require_ok {condition : Bool} {message : String} (held : require condition message = .ok ()) : condition = true := by
  rw [require] at held
  split at held
  case isTrue holds => exact holds
  case isFalse => cases held

theorem checkTexts_ok {first : Folder} {inputs : Inputs} (passed : checkTexts first inputs = .ok ()) :
    ∃ sdkconfig flags again, decode inputs.sdkconfig = .ok sdkconfig ∧ decode inputs.buildFlags = .ok flags ∧
      readText (first "sdkconfig") = .ok again ∧ checkEntries [] (splitlines sdkconfig) = .ok () ∧
      (classify again flags true).sdkSecurityReady = true ∧ checkOptions (enabledOptions again) = .ok () := by
  obtain ⟨sdkconfig, read, passed⟩ := bind_ok passed
  obtain ⟨_, distinct, passed⟩ := bind_ok passed
  obtain ⟨flags, flagged, passed⟩ := bind_ok passed
  obtain ⟨again, reread, passed⟩ := bind_ok passed
  obtain ⟨_, ready, options⟩ := bind_ok passed
  exact ⟨sdkconfig, flags, again, read, flagged, reread, distinct, require_ok ready, options⟩

theorem checkTexts_of {first : Folder} {inputs : Inputs} {sdkconfig flags : Text} (read : decode inputs.sdkconfig = .ok sdkconfig)
    (flagged : decode inputs.buildFlags = .ok flags) (reread : readText (first "sdkconfig") = .ok sdkconfig)
    (entries : checkEntries [] (splitlines sdkconfig) = .ok ()) (ready : (classify sdkconfig flags true).sdkSecurityReady = true)
    (options : checkOptions (enabledOptions sdkconfig) = .ok ()) : checkTexts first inputs = .ok () := by
  rw [checkTexts, read, flagged, reread]
  change (checkEntries [] (splitlines sdkconfig) >>= fun _ => _) = _
  rw [entries]
  change (require (classify sdkconfig flags true).sdkSecurityReady _ >>= fun _ => _) = _
  rw [require, if_pos ready]
  exact options

theorem gate_found {sdkconfig flags : Text} {externalSigning : Bool}
    (ready : (classify sdkconfig flags externalSigning).sdkSecurityReady = true) : search gate flags = true := by
  rw [classify] at ready
  dsimp only at ready
  rw [Bool.and_eq_true] at ready
  exact ready.2

/-- The flags have no other directive for the macro than those that define it as 1. -/
def Undisputed (flags : Text) : Prop := ∀ directive ∈ directives gate flags, directive = .define ['1']

/-- What is verified is unambiguous as far as the two patterns read it: each enabled option has one line where the
anchored pattern reads all of its lines, and the macro is 1 in the end where no other directive is about it. -/
theorem verify_unambiguous (host : Host) (first second signed : Folder) (publicKey : Option Bytes)
    (sourceCommit project : String) (securityVersion : Int) (evidence : Evidence)
    (passed : verify host first second signed publicKey sourceCommit project securityVersion = .ok evidence) :
    ∃ sdkconfig flags, readText (first "sdkconfig") = .ok sdkconfig ∧ readText (first "build-flags.txt") = .ok flags ∧
      (EachRead sdkconfig → OneLineEach sdkconfig) ∧
      (Undisputed flags → (directives gate flags).getLast? = some (.define ['1'])) := by
  obtain ⟨_, -, passed⟩ := bind_ok passed
  obtain ⟨key, -, passed⟩ := bind_ok passed
  obtain ⟨_, -, passed⟩ := bind_ok passed
  obtain ⟨inputs, read, passed⟩ := bind_ok passed
  obtain ⟨_, texts, -⟩ := bind_ok passed
  obtain ⟨configured, flagged⟩ := readInputs_ok read
  obtain ⟨sdkconfig, flags, _, first_text, second_text, -, distinct, ready, -⟩ := checkTexts_ok texts
  refine ⟨sdkconfig, flags, ?_, ?_, oneLineEach_of_read (checkEntries_nodup distinct).1, fun undisputed => ?_⟩
  · rw [configured]
    exact first_text
  · rw [flagged]
    exact second_text
  · have present := List.ne_nil_of_mem (search_directive gate_unbroken (gate_found ready))
    rw [List.getLast?_eq_some_getLast present, undisputed _ (List.getLast_mem present)]

/-! ## A build that passes -/

theorem require_true {condition : Bool} {message : String} (holds : condition = true) : require condition message = .ok () :=
  if_pos holds

theorem readBounded_of_fits {data : Bytes} {maximum : Nat} (filled : data ≠ []) (fits : data.length ≤ maximum) :
    readBounded (some data) maximum = .ok data := by
  have whole : data.take (maximum + 1) = data := List.take_of_length_le (by omega)
  rw [readBounded, whole, if_neg]
  rw [Bool.or_eq_true, not_or, List.isEmpty_iff, decide_eq_true_eq]
  exact ⟨filled, by omega⟩

theorem readInput_same {first second : Folder} {name : String} {data : Bytes} (found : first name = some data)
    (again : second name = some data) (filled : data ≠ []) (fits : data.length ≤ limit name) :
    readInput first second name = .ok data := by
  rw [readInput, found, again, readBounded_of_fits filled fits]
  change (require (data == data) _ >>= fun _ => pure data) = _
  rw [require_true (beq_self_eq_true data)]
  rfl

theorem decode_ofList (text : Text) : decode (utf8 (String.ofList text)) = .ok text := by
  rw [decode, Utf8.fromUTF8_utf8]
  exact congrArg _ String.toList_ofList

def image : Bytes :=
  [0xE9] ++ List.replicate 31 0 ++ littleEndian 4 0xABCD5432 ++ List.replicate 44 0 ++ ljust (ascii "apexi-logger") 32 0 ++
    List.replicate 176 0

def bootloader : Bytes := ascii "bootloader fixture"

def padding (unsigned : Bytes) : Bytes := List.replicate ((4096 - unsigned.length % 4096) % 4096) 0xff

def host : Host where
  md5 _ := List.replicate 16 0
  sha _ := ""
  verifier _ _ := .ok ()

def build (sdkconfig flags : Text) : Folder := fun name =>
  if name = "firmware.bin" then some image
  else if name = "bootloader.bin" then some bootloader
  else if name = "partitions.bin" then some (ljust (partitionTable host) 0xC00 0xff)
  else if name = "sdkconfig" then some (utf8 (String.ofList sdkconfig))
  else if name = "build-flags.txt" then some (utf8 (String.ofList flags))
  else if name = "dependencies.lock" then some (ascii "lock")
  else none

def signedBuild : Folder := fun name =>
  if name = "firmware.bin" then some (image ++ padding image ++ List.replicate 4096 0)
  else if name = "bootloader.bin" then some (bootloader ++ padding bootloader ++ List.replicate 4096 0)
  else none

def verified (sdkconfig flags : Text) : Except Raised Evidence :=
  verify host (build sdkconfig flags) (build sdkconfig flags) signedBuild (some (ascii "-----BEGIN PUBLIC KEY-----"))
    "aaaaaaaaaaaaaaaaaaaaaaaaaaaaaaaaaaaaaaaa" "apexi-logger" 0

theorem checkArtifact_signed {name : String} {unsigned key : Bytes}
    (found : signedBuild name = some (unsigned ++ padding unsigned ++ List.replicate 4096 0))
    (fits : (unsigned ++ padding unsigned ++ List.replicate 4096 (0 : UInt8)).length ≤ limit name) :
    ∃ artifact, checkArtifact host signedBuild key name unsigned = .ok artifact := by
  have filled : unsigned ++ padding unsigned ++ List.replicate 4096 0 ≠ [] := by
    apply List.ne_nil_of_length_pos
    rw [List.length_append, List.length_replicate]
    omega
  have read : readBounded (signedBuild name) (limit name) = .ok (unsigned ++ padding unsigned ++ List.replicate 4096 0) := by
    rw [found, readBounded_of_fits filled fits]
  refine bind_of_ok read ?_
  · refine bind_of_ok (require_true ?_) ⟨_, rfl⟩
    rw [Bool.and_eq_true, beq_iff_eq, beq_iff_eq, List.length_append, List.length_replicate, Nat.add_sub_cancel]
    exact ⟨rfl, List.take_left⟩

theorem text_fits {text : Text} {name : String} (filled : text ≠ []) (few : text.length ≤ 0x40000)
    (most : limit name = 1024 * 1024) :
    utf8 (String.ofList text) ≠ [] ∧ (utf8 (String.ofList text)).length ≤ limit name := by
  have least := Utf8.length_le (String.ofList text)
  have greatest := Utf8.le_length (String.ofList text)
  rw [String.length_ofList] at least greatest
  have positive := List.length_pos_of_ne_nil filled
  refine ⟨List.ne_nil_of_length_pos (by omega), ?_⟩
  rw [most]
  omega

def inputs (sdkconfig flags : Text) : Inputs where
  firmware := image
  bootloader := bootloader
  partitions := ljust (partitionTable host) 0xC00 0xff
  sdkconfig := utf8 (String.ofList sdkconfig)
  buildFlags := utf8 (String.ofList flags)
  dependencies := ascii "lock"

theorem readInputs_build {sdkconfig flags : Text} (configured : sdkconfig ≠ [] ∧ sdkconfig.length ≤ 0x40000)
    (flagged : flags ≠ [] ∧ flags.length ≤ 0x40000) :
    readInputs (build sdkconfig flags) (build sdkconfig flags) = .ok (inputs sdkconfig flags) := by
  have first := @text_fits sdkconfig "sdkconfig" configured.1 configured.2 (by decide)
  have second := @text_fits flags "build-flags.txt" flagged.1 flagged.2 (by decide)
  have firmware := @readInput_same (build sdkconfig flags) (build sdkconfig flags) "firmware.bin" _ rfl rfl (by decide) (by decide +kernel)
  have loader := @readInput_same (build sdkconfig flags) (build sdkconfig flags) "bootloader.bin" _ rfl rfl (by decide) (by decide)
  have partitions := @readInput_same (build sdkconfig flags) (build sdkconfig flags) "partitions.bin" _ rfl rfl (by decide) (by decide +kernel)
  have config := @readInput_same (build sdkconfig flags) (build sdkconfig flags) "sdkconfig" _ rfl rfl first.1 first.2
  have flags' := @readInput_same (build sdkconfig flags) (build sdkconfig flags) "build-flags.txt" _ rfl rfl second.1 second.2
  have lock := @readInput_same (build sdkconfig flags) (build sdkconfig flags) "dependencies.lock" _ rfl rfl (by decide) (by decide)
  rw [readInputs, firmware, loader, partitions, config, flags', lock]
  rfl

theorem readText_build (sdkconfig flags : Text) :
    readText (build sdkconfig flags "sdkconfig") = .ok sdkconfig ∧
      readText (build sdkconfig flags "build-flags.txt") = .ok flags :=
  ⟨decode_ofList sdkconfig, decode_ofList flags⟩

theorem verified_of_texts {sdkconfig flags : Text} (configured : sdkconfig ≠ [] ∧ sdkconfig.length ≤ 0x40000)
    (flagged : flags ≠ [] ∧ flags.length ≤ 0x40000) (entries : checkEntries [] (splitlines sdkconfig) = .ok ())
    (ready : (classify sdkconfig flags true).sdkSecurityReady = true)
    (options : checkOptions (enabledOptions sdkconfig) = .ok ()) : ∃ evidence, verified sdkconfig flags = .ok evidence := by
  have policy : checkPolicy "aaaaaaaaaaaaaaaaaaaaaaaaaaaaaaaaaaaaaaaa" "apexi-logger" 0 = .ok () := by decide
  have key := @readBounded_of_fits (ascii "-----BEGIN PUBLIC KEY-----") 8192 (by decide) (by decide)
  have texts : checkTexts (build sdkconfig flags) (inputs sdkconfig flags) = .ok () :=
    checkTexts_of (readText_build sdkconfig flags).1 (readText_build sdkconfig flags).2 (readText_build sdkconfig flags).1
      entries ready options
  refine bind_of_ok policy (bind_of_ok key (bind_of_ok (require_true (by decide)) ?_))
  have app : checkApp image "apexi-logger" 0 = .ok () := by decide +kernel
  refine bind_of_ok (readInputs_build configured flagged) (bind_of_ok texts (bind_of_ok app ?_))
  obtain ⟨firmware, signedFirmware⟩ := @checkArtifact_signed "firmware.bin" image (ascii "-----BEGIN PUBLIC KEY-----") rfl
    (by decide +kernel)
  obtain ⟨loader, signedLoader⟩ := @checkArtifact_signed "bootloader.bin" bootloader (ascii "-----BEGIN PUBLIC KEY-----") rfl
    (by decide +kernel)
  exact bind_of_ok (require_true (beq_self_eq_true _)) (bind_of_ok signedFirmware (bind_of_ok signedLoader ⟨_, rfl⟩))

def configuration : Text :=
  ((requiredOptions.filter fun option => option != "CONFIG_SECURE_BOOT_BUILD_SIGNED_BINARIES").flatMap fun option =>
    option.toList ++ "=y\n".toList) ++ "CONFIG_COMPILER_HIDE_PATHS_MACROS=y\n".toList

/-- With a blank in front of it, the line that takes secure boot back is not read. -/
def contradictory : Text := configuration ++ " # CONFIG_SECURE_BOOT is not set\n".toList

/-- The search is content with the first of the two. -/
def disabled : Text :=
  "-D APEXI_PRODUCTION_SECURITY_REQUIRED=1 -D APEXI_PRODUCTION_SECURITY_REQUIRED=0".toList

def production : Text :=
  "-D APEXI_PRODUCTION_SECURITY_REQUIRED=1 -D APEXI_ENCRYPTED_QUEUE_QUALIFIED=1".toList

theorem verify_unambiguous_production :
    OneLineEach configuration ∧ (directives gate production).getLast? = some (.define ['1']) := by
  obtain ⟨evidence, passed⟩ := @verified_of_texts configuration production (by decide +kernel) (by decide +kernel)
    (by decide +kernel) (by decide +kernel) (by decide +kernel)
  obtain ⟨sdkconfig, flags, configured, flagged, one, last⟩ := verify_unambiguous host _ _ signedBuild _ _ _ 0 evidence passed
  obtain rfl := Except.ok.inj ((readText_build configuration production).1.symm.trans configured)
  obtain rfl := Except.ok.inj ((readText_build configuration production).2.symm.trans flagged)
  have read : EachRead configuration := by
    unfold EachRead
    decide +kernel
  have undisputed : Undisputed production := by
    unfold Undisputed
    decide +kernel
  exact ⟨one read, last undisputed⟩

theorem contradictory_passes : ∃ evidence, verified contradictory disabled = .ok evidence :=
  verified_of_texts (by decide +kernel) (by decide +kernel) (by decide +kernel) (by decide +kernel) (by decide +kernel)

/-- The build passes with secure boot enabled and taken back, and with the macro defined as 0 in the end. -/
theorem contradictory_ambiguous :
    (∃ evidence, verified contradictory disabled = .ok evidence) ∧
      ¬OneLineEach contradictory ∧ (directives gate disabled).getLast? = some (.define ['0']) := by
  refine ⟨contradictory_passes, ?_, by decide⟩
  intro one
  have twice := one "CONFIG_SECURE_BOOT".toList (by decide)
  exact absurd twice (by decide)

/-! ## What the verdict leaves open -/

/-- The same build with other texts. -/
def Folder.withTexts (folder : Folder) (sdkconfig flags : Text) : Folder := fun name =>
  if name = "sdkconfig" then some (utf8 (String.ofList sdkconfig))
  else if name = "build-flags.txt" then some (utf8 (String.ofList flags))
  else folder name

def Inputs.withTexts (inputs : Inputs) (sdkconfig flags : Text) : Inputs :=
  { inputs with sdkconfig := utf8 (String.ofList sdkconfig), buildFlags := utf8 (String.ofList flags) }

theorem readInput_withTexts {first second : Folder} {sdkconfig flags : Text} {name : String} (other : name ≠ "sdkconfig")
    (another : name ≠ "build-flags.txt") :
    readInput (first.withTexts sdkconfig flags) (second.withTexts sdkconfig flags) name = readInput first second name := by
  have kept (folder : Folder) : folder.withTexts sdkconfig flags name = folder name := by
    rw [Folder.withTexts, if_neg other, if_neg another]
  rw [readInput, kept, kept]
  rfl

theorem readInputs_withTexts {first second : Folder} {inputs : Inputs} {sdkconfig flags : Text}
    (read : readInputs first second = .ok inputs) (configured : sdkconfig ≠ [] ∧ sdkconfig.length ≤ 0x40000)
    (flagged : flags ≠ [] ∧ flags.length ≤ 0x40000) :
    readInputs (first.withTexts sdkconfig flags) (second.withTexts sdkconfig flags) = .ok (inputs.withTexts sdkconfig flags) := by
  obtain ⟨firmware, image, read⟩ := bind_ok read
  obtain ⟨bootloader, loader, read⟩ := bind_ok read
  obtain ⟨partitions, table, read⟩ := bind_ok read
  obtain ⟨_, -, read⟩ := bind_ok read
  obtain ⟨_, -, read⟩ := bind_ok read
  obtain ⟨dependencies, lock, read⟩ := bind_ok read
  cases read
  have one := @text_fits sdkconfig "sdkconfig" configured.1 configured.2 (by decide)
  have two := @text_fits flags "build-flags.txt" flagged.1 flagged.2 (by decide)
  have config := @readInput_same (first.withTexts sdkconfig flags) (second.withTexts sdkconfig flags) "sdkconfig" _ rfl rfl
    one.1 one.2
  have flags' := @readInput_same (first.withTexts sdkconfig flags) (second.withTexts sdkconfig flags) "build-flags.txt" _
    rfl rfl two.1 two.2
  rw [readInputs, readInput_withTexts (by decide) (by decide), image, readInput_withTexts (by decide) (by decide), loader,
    readInput_withTexts (by decide) (by decide), table, config, flags', readInput_withTexts (by decide) (by decide), lock]
  rfl

def defined : Text := "-D APEXI_PRODUCTION_SECURITY_REQUIRED=1 ".toList

theorem defined_append (more : Text) : defined ++ more =
    '-' :: (['D'] ++ ' ' :: ('A' :: ("PEXI_PRODUCTION_SECURITY_REQUIRED=1".toList ++ ' ' :: more))) := by
  have shape : defined = '-' :: (['D'] ++ ' ' :: ('A' :: ("PEXI_PRODUCTION_SECURITY_REQUIRED=1".toList ++ [' ']))) := by decide
  rw [shape]
  simp

theorem definesHere_defined (more : Text) : definesHere gate (defined ++ more) = true := by
  refine (definesHere_iff gate_unbroken).mpr ⟨[' '], ' ' :: more, by decide, rfl, ?_⟩
  have shape : defined = "-D".toList ++ ([' '] ++ ((gate ++ "=1").toList ++ [' '])) := by decide
  rw [shape]
  simp

theorem search_defined (more : Text) : search gate (defined ++ more) = true := by
  have here := definesHere_defined more
  rw [defined_append] at here ⊢
  rw [search, searchFrom, here]
  rfl

theorem directives_defined (more : Text) : directives gate (defined ++ more) = .define ['1'] :: directives gate more := by
  have kept : defined.filter (fun char => !quotes char) = defined := by decide
  have first := directive_of_definesHere (definesHere_defined (unquoted more))
  rw [directives, unquoted, List.filter_append, kept]
  change directivesFrom gate true (defined ++ unquoted more) = _
  rw [defined_append] at first ⊢
  -- behind the first directive there is none before the next white space, nor in the name it ends with
  have second : directive? gate ('A' :: ("PEXI_PRODUCTION_SECURITY_REQUIRED=1".toList ++ ' ' :: unquoted more)) = none := rfl
  rw [directivesFrom, if_pos rfl, first, show isspace '-' = false by decide, directivesFrom_word (by decide), directivesFrom,
    if_pos rfl, second, show isspace 'A' = false by decide, directivesFrom_word (by decide)]
  rfl

theorem checkTexts_unread {first : Folder} {inputs : Inputs} {sdkconfig line more : Text}
    (texts : checkTexts first inputs = .ok ()) (named : first "sdkconfig" = some inputs.sdkconfig)
    (configured : readText (first "sdkconfig") = .ok sdkconfig) (unread : entry line = none)
    (whole : ∀ char ∈ line, endsLine char = false)
    (same : ∀ other, other ∈ enabledOptions (line ++ '\n' :: sdkconfig) ↔ other ∈ enabledOptions sdkconfig) :
    checkTexts (first.withTexts (line ++ '\n' :: sdkconfig) (defined ++ more))
      (inputs.withTexts (line ++ '\n' :: sdkconfig) (defined ++ more)) = .ok () := by
  obtain ⟨said, flags, again, reads, -, reread, entries, ready, rest⟩ := checkTexts_ok texts
  obtain rfl : again = sdkconfig := Except.ok.inj (reread.symm.trans configured)
  obtain rfl : said = again := by
    rw [named] at reread
    exact Except.ok.inj (reads.symm.trans reread)
  have contains (other : Text) :
      (enabledOptions (line ++ '\n' :: said)).contains other = (enabledOptions said).contains other := by
    rw [Bool.eq_iff_iff, List.contains_iff_mem, List.contains_iff_mem, same]
  refine checkTexts_of (decode_ofList _) (decode_ofList _) (decode_ofList _) ?_
    (sdkSecurityReady_congr same (search_defined more) ready) ?_
  · rw [splitlines_cons whole, checkEntries, unread]
    exact entries
  · simp only [checkOptions, contains]
    exact rest

/-- Any build that passes still does with one more line about an option, where the pattern does not read that line, and with
any directives at all behind one that defines the macro as 1. -/
theorem verify_unread {host : Host} {first second signed : Folder} {publicKey : Option Bytes} {sourceCommit project : String}
    {securityVersion : Int} {evidence : Evidence}
    (passed : verify host first second signed publicKey sourceCommit project securityVersion = .ok evidence)
    {sdkconfig option line more : Text} (configured : readText (first "sdkconfig") = .ok sdkconfig)
    (enabled : option ∈ enabledOptions sdkconfig) (mentioned : mentions option line = true) (unread : entry line = none)
    (whole : ∀ char ∈ line, endsLine char = false) (own : ∀ other, enabledOption line = some other → other = option)
    (few : (line ++ '\n' :: sdkconfig).length ≤ 0x40000) (short : (defined ++ more).length ≤ 0x40000) :
    (∃ evidence, verify host (first.withTexts (line ++ '\n' :: sdkconfig) (defined ++ more))
        (second.withTexts (line ++ '\n' :: sdkconfig) (defined ++ more)) signed publicKey sourceCommit project securityVersion =
          .ok evidence) ∧
      ¬OneLineEach (line ++ '\n' :: sdkconfig) ∧
      directives gate (defined ++ more) = .define ['1'] :: directives gate more := by
  have same (other : Text) : other ∈ enabledOptions (line ++ '\n' :: sdkconfig) ↔ other ∈ enabledOptions sdkconfig := by
    rw [enabledOptions_cons whole, List.mem_append, Option.mem_toList]
    exact ⟨fun either => either.elim (fun enables => own other enables ▸ enabled) id, .inr⟩
  refine ⟨?_, fun one => ?_, directives_defined more⟩
  · obtain ⟨_, policy, passed⟩ := bind_ok passed
    obtain ⟨key, found, passed⟩ := bind_ok passed
    obtain ⟨_, known, passed⟩ := bind_ok passed
    obtain ⟨inputs, read, passed⟩ := bind_ok passed
    obtain ⟨_, texts, passed⟩ := bind_ok passed
    obtain ⟨_, app, passed⟩ := bind_ok passed
    obtain ⟨_, table, passed⟩ := bind_ok passed
    obtain ⟨firmware, signedFirmware, passed⟩ := bind_ok passed
    obtain ⟨bootloader, signedLoader, -⟩ := bind_ok passed
    have some : defined ++ more ≠ [] := by
      rw [defined_append]
      exact List.cons_ne_nil _ _
    have inside := readInputs_withTexts read ⟨by simp, few⟩ ⟨some, short⟩
    have checked := @checkTexts_unread _ _ _ _ more texts (readInputs_ok read).1 configured unread whole same
    -- what is checked besides the two texts is what was checked before
    exact bind_of_ok policy (bind_of_ok found (bind_of_ok known (bind_of_ok inside (bind_of_ok checked (bind_of_ok app
      (bind_of_ok table (bind_of_ok signedFirmware (bind_of_ok signedLoader ⟨_, rfl⟩))))))))
  · have twice := one option ((same option).mpr enabled)
    rw [splitlines_cons whole, List.countP_cons_of_pos mentioned] at twice
    have some := mentioned_of_enabled enabled
    omega

end ApexiDevices.SignedRelease
