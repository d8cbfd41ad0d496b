import ApexiDevices.Logs.RemotePolling
import ApexiDevices.Shared.Slices

set_option autoImplicit false

/-!
# Downloads of logs

A job freezes the length of the file it opens. Its chunks are read from that
length, whatever is appended in the meantime.
-/

namespace ApexiDevices.RemoteLogs

open Device

structure Alike (first second : RemoteLogs) : Prop where
  job : first.job = second.job
  file : first.file = second.file
  size : first.size = second.size

section Calls

variable {library : JsonLibrary} {paths : PathNames} {self : RemoteLogs} {input : Input}

theorem Alike.trans {first second third : RemoteLogs} (before : Alike first second) (after : Alike second third) :
    Alike first third :=
  ⟨before.job.trans after.job, before.file.trans after.file, before.size.trans after.size⟩

theorem Alike.openJob {first second : RemoteLogs} (alike : Alike first second) (id name : CText) :
    Alike (first.openJob paths input id name) (second.openJob paths input id name) := by
  unfold RemoteLogs.openJob
  rw [alike.job]
  split
  · exact alike
  · exact ⟨rfl, rfl, rfl⟩

theorem Alike.readChunk {first second : RemoteLogs} (alike : Alike first second) (offset : UInt32)
    (announced : Option UInt32) : first.readChunk input offset announced = second.readChunk input offset announced := by
  unfold RemoteLogs.readChunk RemoteLogs.seekable
  rw [alike.file, alike.size]

theorem Alike.reply {first second : RemoteLogs} (alike : Alike first second) (command : Document) :
    (first.reply library paths input command).1 = (second.reply library paths input command).1 ∧
      Alike (first.reply library paths input command).2 (second.reply library paths input command).2 := by
  unfold RemoteLogs.reply
  dsimp only
  split
  · exact ⟨rfl, alike⟩
  split
  · exact ⟨(alike.openJob _ _).readChunk _ _, alike.openJob _ _⟩
  · exact ⟨rfl, alike⟩

theorem poll_alike (self : RemoteLogs) (input : Input) : Alike (self.poll input).1 self := by
  rcases self.poll_cases input with ⟨polled, -⟩ | ⟨polled, -⟩ | ⟨polled, -⟩ | ⟨polled, -⟩
  all_goals
    rw [polled]
    exact ⟨rfl, rfl, rfl⟩

theorem answerCommand_eq (self : RemoteLogs) (command : Document) :
    self.answerCommand library paths input command =
      { ({ self with interval := 500 }.reply library paths input command).2 with
        state := .idle
        request := requestJson ({ self with interval := 500 }.reply library paths input command).2.config.deviceId
          (some ⟨(command.member "id").text, ({ self with interval := 500 }.reply library paths input command).1⟩) } :=
  rfl

theorem loop_replies {command : Document} (ready : self.ready = true)
    (received : self.received library input = some command) :
    Alike (self.loop library paths input).1 (self.reply library paths input command).2 ∧
      (self.loop library paths input).1.request =
        self.answerJson command (self.reply library paths input command).1 := by
  obtain ⟨waiting, enabled, body, document, result, parsed, given⟩ := received_some received
  let asked : RemoteLogs := { self.collected 200 body with interval := 5000, failed := false }
  have answered : (self.collected 200 body).answer library paths input =
      some (asked.answerCommand library paths input command) := by
    have success : (self.collected 200 body).success = true := rfl
    have read : library.deserialize 2048 (self.collected 200 body).response.bytes = some document := parsed
    simp only [answer, success, read, given, Bool.not_true, Bool.false_eq_true, if_true, if_false]
    rfl
  obtain ⟨same, job⟩ :=
    @Alike.reply library paths input { asked with interval := 500 } self ⟨rfl, rfl, rfl⟩ command
  obtain ⟨-, config, -⟩ := @reply_answers library paths { asked with interval := 500 } input command
  have request : (asked.answerCommand library paths input command).request =
      self.answerJson command (self.reply library paths input command).1 := by
    rw [answerCommand_eq, config, same]
    rfl
  rw [loop_collected ready waiting result enabled, settle_answered answered]
  refine ⟨(poll_alike _ _).trans ⟨job.job, job.file, job.size⟩, ?_⟩
  rw [poll_keeps (by rw [request]; exact requestJson_ne_nil _ _), request]

theorem settle_closes {status : Int} {body : CText} (waiting : self.state = .waiting) (enabled : input.enabled = true)
    (result : input.result = some (status, body)) (received : self.received library input = none) :
    ((self.collected status body).settle library paths input).1.file = none ∨
      Alike ((self.collected status body).settle library paths input).1 self := by
  have command := @uncommanded library self input status body waiting enabled result received
  cases answered : (self.collected status body).answer library paths input with
  | none =>
    rw [settle, answered]
    exact .inr ⟨rfl, rfl, rfl⟩
  | some after =>
    rw [settle_answered answered]
    have polled := after.poll_alike input
    unfold answer at answered
    dsimp only at answered
    split at answered
    · cases answered
      exact .inr (polled.trans ⟨rfl, rfl, rfl⟩)
    rename_i success
    split at answered
    · cases answered
    rename_i document parsed
    rw [command document (by simpa using success) parsed] at answered
    cases answered
    exact .inl polled.file

theorem loop_closes (settled : self.state ≠ .answered) (received : self.received library input = none) :
    (self.loop library paths input).1.file = none ∨ Alike (self.loop library paths input).1 self := by
  have unchanged : Alike self self := ⟨rfl, rfl, rfl⟩
  by_cases ready : self.ready = true
  case neg =>
    rw [loop, if_pos (by simp [ready])]
    exact .inr unchanged
  cases state : self.state with
  | answered => exact absurd state settled
  | idle =>
    have collect : self.collect input = some (self, []) := by rw [RemoteLogs.collect, if_neg (by simp [state])]
    rw [loop, if_neg (by simp [ready]), collect]
    dsimp only
    split
    · exact .inl rfl
    · exact .inr (poll_alike _ _)
  | waiting =>
    cases result : input.result with
    | none =>
      have collect : self.collect input = none := by rw [RemoteLogs.collect, if_pos state, result, Option.map_none]
      rw [loop, if_neg (by simp [ready]), collect]
      exact .inr unchanged
    | some given =>
      obtain ⟨status, body⟩ := given
      by_cases enabled : input.enabled = true
      case neg =>
        have collect : self.collect input = some (self.collected status body, [.release]) := by
          rw [RemoteLogs.collect, if_pos state, result]
          rfl
        rw [loop, if_neg (by simp [ready]), collect]
        dsimp only
        rw [if_pos (by simp [enabled])]
        exact .inl rfl
      rw [loop_collected ready state result enabled]
      exact settle_closes state enabled result received

end Calls

structure Opening where
  boot : Nat
  job : CText
  name : Bytes
  content : Bytes

structure Part where
  boot : Nat
  command : Document
  name : Bytes
  chunk : Chunk
  request : Bytes

/-- The files of a card are appended to, and stay below the limit of the file system. -/
structure Grown (before after : SdVolume) : Prop where
  appended : ∀ name, SdFile.read before.files name <+: SdFile.read after.files name
  small : ∀ name, (SdFile.read after.files name).length < 2 ^ 32

def fileName : Option Handle → Option Bytes
  | some (.file name) => some name
  | _ => none

structure Session where
  boot : Nat := 0
  logs : RemoteLogs
  volume : SdVolume
  openings : List Opening := []
  parts : List Part := []

section Sessions

variable (library : JsonLibrary) (paths : PathNames)

def opens (self : RemoteLogs) (input : Input) (boot : Nat) : Option Opening :=
  (self.received library input).bind fun command =>
    let id := (command.member "id").text
    if (command.member "kind").bytes = ascii "download" ∧ self.job ≠ id then
      (fileName (self.reply library paths input command).2.file).map fun name =>
        ⟨boot, id, name, SdFile.read input.volume.files name⟩
    else none

def gives (self : RemoteLogs) (input : Input) (boot : Nat) : Option Part :=
  (self.received library input).bind fun command =>
    match self.reply library paths input command with
    | (.chunk chunk, after) =>
      (fileName after.file).map fun name => ⟨boot, command, name, chunk, (self.loop library paths input).1.request⟩
    | _ => none

namespace Session

def loop (session : Session) (input : Input) : Session where
  boot := session.boot
  logs := (session.logs.loop library paths input).1
  volume := input.volume
  openings := session.openings ++ (session.logs.opens library paths input session.boot).toList
  parts := session.parts ++ (session.logs.gives library paths input session.boot).toList

def reboot (session : Session) (config : Config) (ready : Bool) : Session :=
  { session with boot := session.boot + 1, logs := begun config ready }

inductive Reached (config : Config) : Session → Prop
  | begun (ready : Bool) (volume : SdVolume) : Reached config { logs := begun config ready, volume }
  | loop {session : Session} (earlier : Reached config session) (input : Input)
      (grown : Grown session.volume input.volume) : Reached config (session.loop library paths input)
  | reboot {session : Session} (earlier : Reached config session) (ready : Bool) :
      Reached config (session.reboot config ready)

end Session

/-- A part is the one asked for, of the file as its job found it. -/
structure Part.Exact (config : Config) (part : Part) (opening : Opening) : Prop where
  boot : opening.boot = part.boot
  job : opening.job = (part.command.member "id").text
  name : opening.name = part.name
  size : opening.content.length = part.chunk.size.toNat
  bytes : part.chunk.bytes = slice opening.content part.chunk.offset.toNat 2048
  offset : part.chunk.offset = (part.command.member "offset").uint?.getD 0
  within : part.chunk.offset ≤ part.chunk.size
  announced : ∀ size, announced library part.command = some size → size = part.chunk.size
  request : part.request =
    requestJson config.deviceId (some ⟨(part.command.member "id").text, .chunk part.chunk⟩)

structure Session.Sound (config : Config) (session : Session) : Prop where
  configured : session.logs.config = config
  settled : session.logs.state ≠ .answered
  ready : session.logs.state = .waiting → session.logs.ready = true
  job : ∀ name, fileName session.logs.file = some name → ∃ opening ∈ session.openings,
    opening.boot = session.boot ∧ opening.job = session.logs.job ∧ opening.name = name ∧
      opening.content.length = session.logs.size.toNat
  kept : ∀ opening ∈ session.openings, opening.content <+: SdFile.read session.volume.files opening.name
  parts : ∀ part ∈ session.parts, ∃ opening ∈ session.openings, part.Exact library config opening

end Sessions

section Sessions

variable {library : JsonLibrary} {paths : PathNames} {self : RemoteLogs} {input : Input} {config : Config}
  {session : Session} {command : Document}

theorem openJob_cases (self : RemoteLogs) (id name : CText) :
    (self.openJob paths input id name = self ∧ self.job = id) ∨
      (self.job ≠ id ∧ (self.openJob paths input id name).job = id ∧
        ∀ found, fileName (self.openJob paths input id name).file = some found →
          (self.openJob paths input id name).size = .ofNat (SdFile.read input.volume.files found).length) := by
  unfold openJob
  split
  · rename_i same
    exact .inl ⟨rfl, same⟩
  · rename_i other
    refine .inr ⟨other, rfl, fun found named => ?_⟩
    dsimp only at named ⊢
    generalize Option.map _ (if input.opens then input.log.open_ paths input.volume name.bytes else none) = handle at named
    cases handle with
    | none => cases named
    | some handle =>
      cases handle with
      | directory => cases named
      | file held =>
        cases named
        rfl

theorem reply_job (self : RemoteLogs) (command : Document) :
    (self.reply library paths input command).2 = self ∨
      ((command.member "kind").bytes = ascii "download" ∧ self.job ≠ (command.member "id").text ∧
        (self.reply library paths input command).2.job = (command.member "id").text ∧
        ∀ found, fileName (self.reply library paths input command).2.file = some found →
          (self.reply library paths input command).2.size = .ofNat (SdFile.read input.volume.files found).length) := by
  unfold reply
  dsimp only
  split
  · exact .inl rfl
  split
  · rename_i download
    rcases @openJob_cases paths input self (command.member "id").text (command.member "name").text with
      ⟨same, -⟩ | ⟨other, job, frozen⟩
    · exact .inl same
    · exact .inr ⟨download, other, job, frozen⟩
  · exact .inl rfl

theorem readChunk_chunk {offset : UInt32} {announced : Option UInt32} {chunk : Chunk}
    (read : self.readChunk input offset announced = .chunk chunk) :
    ∃ name, fileName self.file = some name ∧ chunk.offset = offset ∧ chunk.size = self.size ∧ offset ≤ self.size ∧
      (∀ size, announced = some size → size = self.size) ∧
      chunk.bytes = slice (SdFile.read input.volume.files name) offset.toNat
        (min 2048 (self.size.toNat - offset.toNat)) := by
  unfold readChunk at read
  dsimp only at read
  split at read
  · cases read
  rename_i open_
  split at read
  · cases read
  simp only [Bool.or_eq_true, not_or, decide_eq_true_eq, Bool.not_eq_true] at open_
  obtain ⟨⟨⟨⟨⟨-, unchanged⟩, -⟩, inside⟩, -⟩, seekable⟩ := open_
  cases read
  have offset_le : offset ≤ self.size := UInt32.not_lt.mp inside
  unfold RemoteLogs.seekable at seekable
  cases file : self.file with
  | none => simp [file] at seekable
  | some handle =>
    cases handle with
    | directory => simp [file] at seekable
    | file name =>
      refine ⟨name, rfl, rfl, rfl, offset_le, fun size announced => ?_, ?_⟩
      · subst announced
        simpa using unchanged
      · rw [slice, Input.content, UInt32.toNat_sub_of_le _ _ offset_le]

theorem reply_chunk {chunk : Chunk} (replied : (self.reply library paths input command).1 = .chunk chunk) :
    (self.reply library paths input command).2.job = (command.member "id").text ∧
      (self.reply library paths input command).2.readChunk input ((command.member "offset").uint?.getD 0)
        (announced library command) = .chunk chunk := by
  unfold reply at replied ⊢
  dsimp only at replied ⊢
  split at replied
  · cases replied
  rename_i other
  rw [if_neg other]
  split at replied
  · rename_i download
    rw [if_pos download]
    refine ⟨?_, replied⟩
    rcases @openJob_cases paths input self (command.member "id").text (command.member "name").text with
      ⟨same, job⟩ | ⟨-, job, -⟩
    · rw [same, job]
    · exact job
  · cases replied

namespace Session.Sound

theorem begun (ready : Bool) (volume : SdVolume) :
    Session.Sound library config { logs := RemoteLogs.begun config ready, volume } where
  configured := rfl
  settled := nofun
  ready := nofun
  job := nofun
  kept := nofun
  parts := nofun

theorem reboot (sound : session.Sound library config) (ready : Bool) :
    (session.reboot config ready).Sound library config where
  configured := rfl
  settled := nofun
  ready := nofun
  job := nofun
  kept := sound.kept
  parts := sound.parts

theorem opened (sound : session.Sound library config) (small : ∀ name, (SdFile.read input.volume.files name).length < 2 ^ 32)
    (received : session.logs.received library input = some command) {name : Bytes}
    (held : fileName (session.logs.reply library paths input command).2.file = some name) :
    ∃ opening ∈ (session.loop library paths input).openings,
      opening.boot = session.boot ∧ opening.job = (session.logs.reply library paths input command).2.job ∧
        opening.name = name ∧
        opening.content.length = (session.logs.reply library paths input command).2.size.toNat := by
  rcases session.logs.reply_job command with same | ⟨download, other, job, frozen⟩
  · rw [same] at held ⊢
    obtain ⟨opening, earlier, rest⟩ := sound.job name held
    exact ⟨opening, List.mem_append_left _ earlier, rest⟩
  · have opens : session.logs.opens library paths input session.boot =
        some ⟨session.boot, (command.member "id").text, name, SdFile.read input.volume.files name⟩ := by
      rw [RemoteLogs.opens, received, Option.bind_some]
      dsimp only
      rw [if_pos ⟨download, other⟩, held]
      rfl
    refine ⟨_, List.mem_append_right _ (by rw [opens]; exact List.mem_singleton_self _), rfl, job.symm, rfl, ?_⟩
    rw [frozen name held, UInt32.toNat_ofNat_of_lt' (small name)]

theorem given (sound : session.Sound library config) (small : ∀ name, (SdFile.read input.volume.files name).length < 2 ^ 32)
    (kept : ∀ opening ∈ (session.loop library paths input).openings,
      opening.content <+: SdFile.read input.volume.files opening.name)
    {part : Part} (gives : session.logs.gives library paths input session.boot = some part) :
    ∃ opening ∈ (session.loop library paths input).openings, part.Exact library config opening := by
  obtain ⟨command, received, answered⟩ := Option.bind_eq_some_iff.mp gives
  split at answered
  case h_2 => cases answered
  rename_i chunk after replied
  obtain ⟨name, held, rfl⟩ := Option.map_eq_some_iff.mp answered
  have ready := sound.ready (received_some received).1
  obtain ⟨-, request⟩ := @loop_replies library paths session.logs input command ready received
  obtain ⟨job, read⟩ := @reply_chunk library paths session.logs input command chunk (by rw [replied])
  rw [replied] at job read
  obtain ⟨found, file, offset, size, inside, announced, bytes⟩ := readChunk_chunk read
  cases held.symm.trans file
  obtain ⟨opening, member, boot, same, named, length⟩ := @opened _ paths input _ _ command sound small received name
    (by rw [replied]; exact held)
  rw [replied] at same length
  refine ⟨opening, member, ⟨boot, same.trans job, named, ?_, ?_, offset, ?_, ?_, ?_⟩⟩
  · rw [length, size]
  · rw [bytes, ← length, ← offset, ← named]
    exact slice_prefix (kept opening member) _ _
  · rw [offset, size]
    exact inside
  · intro length told
    rw [size]
    exact announced length told
  · rw [request, answerJson, sound.configured, replied]

theorem loop (sound : session.Sound library config) (grown : Grown session.volume input.volume) :
    (session.loop library paths input).Sound library config := by
  have kept : ∀ opening ∈ (session.loop library paths input).openings,
      opening.content <+: SdFile.read input.volume.files opening.name := by
    intro opening member
    rcases List.mem_append.mp member with earlier | now
    · exact (sound.kept opening earlier).trans (grown.appended _)
    · obtain ⟨command, -, opens⟩ := Option.bind_eq_some_iff.mp (Option.mem_toList.mp now)
      dsimp only at opens
      split at opens
      · obtain ⟨name, -, rfl⟩ := Option.map_eq_some_iff.mp opens
        exact List.prefix_rfl
      · cases opens
  have parts : ∀ part ∈ (session.loop library paths input).parts,
      ∃ opening ∈ (session.loop library paths input).openings, part.Exact library config opening := by
    intro part member
    rcases List.mem_append.mp member with earlier | now
    · obtain ⟨opening, held, precise⟩ := sound.parts part earlier
      exact ⟨opening, List.mem_append_left _ held, precise⟩
    · exact sound.given grown.small kept (Option.mem_toList.mp now)
  -- without a command the loop leaves the transfer alone or closes it
  cases received : session.logs.received library input with
  | none =>
    obtain ⟨same, -⟩ := @loop_other library paths session.logs input sound.settled received
    refine ⟨same.config.trans sound.configured, same.state, fun waiting => ?_, fun name held => ?_, kept, parts⟩
    · by_cases ready : session.logs.ready = true
      · exact same.ready.trans ready
      · rw [Session.loop, RemoteLogs.loop, if_pos (by simp [ready])] at waiting ⊢
        exact sound.ready waiting
    rcases @loop_closes library paths session.logs input sound.settled received with closed | alike
    · change fileName (session.logs.loop library paths input).1.file = some name at held
      rw [closed] at held
      cases held
    · change fileName (session.logs.loop library paths input).1.file = some name at held
      rw [alike.file] at held
      obtain ⟨opening, earlier, boot, job, named, length⟩ := sound.job name held
      exact ⟨opening, List.mem_append_left _ earlier, boot, job.trans alike.job.symm, named,
        length.trans (congrArg UInt32.toNat alike.size.symm)⟩
  | some command =>
    have ready := sound.ready (received_some received).1
    obtain ⟨-, -, same, -⟩ := @loop_given library paths session.logs input command ready received
    obtain ⟨alike, -⟩ := @loop_replies library paths session.logs input command ready received
    refine ⟨same.config.trans sound.configured, same.state, fun _ => same.ready.trans ready, fun name held => ?_, kept,
      parts⟩
    change fileName (session.logs.loop library paths input).1.file = some name at held
    rw [alike.file] at held
    obtain ⟨opening, member, boot, job, named, length⟩ :=
      @opened _ paths input _ _ command sound grown.small received name held
    exact ⟨opening, member, boot, job.trans alike.job.symm, named,
      length.trans (congrArg UInt32.toNat alike.size.symm)⟩

end Session.Sound

theorem sound_of_reached (reached : session.Reached library paths config) : session.Sound library config := by
  induction reached with
  | begun ready volume => exact .begun ready volume
  | loop earlier input grown ih => exact ih.loop grown
  | reboot earlier ready ih => exact ih.reboot ready

/-- A download is an exact snapshot, over every order of commands, failures and reboots. -/
theorem download_exact (reached : session.Reached library paths config) :
    (∀ part ∈ session.parts, ∃ opening ∈ session.openings, part.Exact library config opening ∧
      part.chunk.offset.toNat + part.chunk.bytes.length ≤ part.chunk.size.toNat) ∧
      -- chunks of one length and file, whatever their boots and jobs, make up its beginning
      ∀ (name : Bytes) (size : UInt32) (part : Nat → Part),
        (∀ index, 2048 * index < size.toNat → part index ∈ session.parts ∧ (part index).name = name ∧
          (part index).chunk.size = size ∧ (part index).chunk.offset.toNat = 2048 * index) →
        (List.range ((size.toNat + 2047) / 2048)).flatMap (fun index => (part index).chunk.bytes) =
          (SdFile.read session.volume.files name).take size.toNat := by
  have sound := sound_of_reached reached
  refine ⟨fun part given => ?_, fun name size part all => ?_⟩
  · obtain ⟨opening, member, precise⟩ := sound.parts part given
    have inside := UInt32.le_iff_toNat_le.mp precise.within
    refine ⟨opening, member, precise, ?_⟩
    rw [precise.bytes, slice_length, precise.size]
    omega
  · have each : ∀ index ∈ List.range ((size.toNat + 2047) / 2048), (part index).chunk.bytes =
        slice ((SdFile.read session.volume.files name).take size.toNat) (2048 * index) 2048 := by
      intro index few
      have inside : 2048 * index < size.toNat := by
        have := List.mem_range.mp few
        omega
      obtain ⟨given, named, length, offset⟩ := all index inside
      obtain ⟨opening, member, precise⟩ := sound.parts _ given
      have begins := sound.kept opening member
      rw [precise.name, named] at begins
      have content : opening.content = (SdFile.read session.volume.files name).take size.toNat := by
        rw [List.prefix_iff_eq_take.mp begins, precise.size, length]
      rw [precise.bytes, offset, content]
    rw [List.flatMap_congr each]
    refine flatMap_slices_whole ?_
    rw [List.length_take]
    omega

end Sessions

section Bench

def logName : Bytes := ascii "dash-car-100-20260924-00000000.log"

def logVolume (content : String) : SdVolume where
  files := [⟨logName, ascii content⟩]

theorem logVolume_grown {first second : String} (begins : ascii first <+: ascii second)
    (small : (ascii second).length < 2 ^ 32) : Grown (logVolume first) (logVolume second) := by
  have read (content : String) (name : Bytes) :
      SdFile.read (logVolume content).files name = if logName = name then ascii content else [] :=
    SdFile.read_cons _ _ _
  constructor
  · intro name
    rw [read, read]
    split
    · exact begins
    · exact List.prefix_rfl
  · intro name
    rw [read]
    split
    · exact small
    · decide

def downloadCommand (offset : Int) : Document :=
  .object [(.literal "id", .string (ascii "7")), (.literal "kind", .string (ascii "download")),
    (.literal "name", .string logName), (.literal "offset", .int offset)]

def downloadLibrary : JsonLibrary where
  deserialize _ bytes :=
    if bytes = ascii "from the start" then some (.object [(.literal "command", downloadCommand 0)])
    else if bytes = ascii "from the middle" then some (.object [(.literal "command", downloadCommand 2)])
    else none
  textInt _ := 0
  textUInt _ := 0
  realInt _ := 0
  realUInt _ := 0

def downloadInputs : List Input :=
  [benchInput (logVolume "first") 15000 none,
    benchInput (logVolume "first") 15200 (some (200, .literal "from the start")),
    benchInput (logVolume "first line") 15800 none,
    benchInput (logVolume "first line") 15900 (some (200, .literal "from the middle"))]

def downloaded : Session :=
  downloadInputs.foldl (Session.loop downloadLibrary WebUi.exactNames)
    { logs := begun benchConfig true, volume := logVolume "first" }

theorem downloaded_reached : Session.Reached downloadLibrary WebUi.exactNames benchConfig downloaded := by
  have still := @logVolume_grown "first" "first" (by decide) (by decide)
  have appended := @logVolume_grown "first" "first line" (by decide) (by decide)
  have later := @logVolume_grown "first line" "first line" (by decide) (by decide)
  have booted := @Session.Reached.begun downloadLibrary WebUi.exactNames benchConfig true (logVolume "first")
  have asked := booted.loop (benchInput (logVolume "first") 15000 none) still
  have opened := asked.loop (benchInput (logVolume "first") 15200 (some (200, .literal "from the start"))) still
  have again := opened.loop (benchInput (logVolume "first line") 15800 none) appended
  exact again.loop (benchInput (logVolume "first line") 15900 (some (200, .literal "from the middle"))) later

theorem download_exact_appended :
    downloaded.parts.map (fun part => part.chunk.bytes) = [ascii "first", ascii "rst"] ∧
      (∀ part ∈ downloaded.parts, ∃ opening ∈ downloaded.openings,
        part.Exact downloadLibrary benchConfig opening ∧
          part.chunk.offset.toNat + part.chunk.bytes.length ≤ part.chunk.size.toNat) ∧
      ∀ part ∈ downloaded.parts.head?, (List.range ((5 + 2047) / 2048)).flatMap (fun _ => part.chunk.bytes) =
        (SdFile.read downloaded.volume.files logName).take 5 := by
  have parts : downloaded.parts.map (fun part => part.chunk.bytes) = [ascii "first", ascii "rst"] ∧
      ∀ part ∈ downloaded.parts.head?, part.name = logName ∧ part.chunk.size = 5 ∧ part.chunk.offset = 0 := by
    decide +kernel
  obtain ⟨each, whole⟩ := download_exact downloaded_reached
  refine ⟨parts.1, each, fun part first => ?_⟩
  obtain ⟨named, size, offset⟩ := parts.2 part first
  refine whole logName 5 (fun _ => part) fun index few => ⟨List.mem_of_mem_head? first, named, size, ?_⟩
  have zero : index = 0 := by
    have limit : (5 : UInt32).toNat = 5 := rfl
    omega
  subst zero
  rw [offset]
  rfl

end Bench

end ApexiDevices.RemoteLogs
