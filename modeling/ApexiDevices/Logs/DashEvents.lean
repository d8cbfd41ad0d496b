import ApexiDevices.Logs.LogLine
import Mathlib.Data.List.TakeWhile

set_option autoImplicit false

/-!
# Durable dash events

All dashes share one cursor and one pending slot. An acknowledged event is on the
card as long as the scan for another dash never carries the sequence number of
one boot over to another.
-/

namespace ApexiDevices.SystemLog

open Device SystemEvents

variable {json : ArduinoJson}

structure World where
  log : SystemLog := {}
  files : List SdFile := []
  -- what no code reads: the last sequence number sent in each boot, and the events acknowledged
  newest : UInt32 → UInt32 := fun _ => 0
  acknowledged : List (Bytes × Event) := []

inductive Action where
  | acceptDash (event : Event) (device receivedAt : Bytes)
  | add (code : Bytes) (value : UInt32) (severity : UInt8) (now : UInt32) (receivedAt : Bytes)
  | http (route : Bytes) (method : UInt8) (status : UInt16) (duration now : UInt32) (receivedAt : Bytes)
  | detailedRequests (enabled : Bool) (now : UInt32)
  | loop (now : UInt32) (dateStamp : Bytes) (sdReady : Bool)
  | reboot (identity : Bytes) (random now : UInt32) (receivedAt : Bytes)

def sent (newest : UInt32 → UInt32) (event : Event) : UInt32 → UInt32 :=
  Function.update newest event.boot (max (newest event.boot) event.seq)

namespace World

def acceptDash (json : ArduinoJson) (world : World) (event : Event) (device receivedAt : Bytes) : World :=
  let outcome := world.log.acceptDash json world.files event device receivedAt
  { world with
    log := outcome.2
    newest := sent world.newest event
    acknowledged := if outcome.1 then world.acknowledged ++ [(device, event)] else world.acknowledged }

def act (json : ArduinoJson) (world : World) : Action → World
  | .acceptDash event device receivedAt => world.acceptDash json event device receivedAt
  | .add code value severity now receivedAt =>
    { world with log := world.log.add json code value severity now receivedAt }
  | .http route method status duration now receivedAt =>
    { world with log := world.log.http json route method status duration now receivedAt }
  | .detailedRequests enabled now =>
    { world with log := { world.log with detailed := enabled, detailedStarted := now } }
  | .loop now dateStamp sdReady =>
    let outcome := world.log.loop world.files now dateStamp sdReady
    { world with log := outcome.1, files := outcome.2 }
  | .reboot identity random now receivedAt =>
    { world with log := SystemLog.begin json {} identity random now receivedAt }

end World

/-- A complete line on the card carries this device, boot and sequence. -/
def Logged (json : ArduinoJson) (files : List SdFile) (device : Bytes) (boot seq : UInt32) : Prop :=
  ∃ file ∈ files, ∃ record : Record, json.serializeJson record ∈ (Lines.of file.content).complete ∧
    record.device = ascii "dash-" ++ device ∧ record.boot = boot ∧ record.seq = seq

/-- A boot belongs to one dash, which sends its newest event, or again one that is logged. No log is removed. -/
def Permitted (json : ArduinoJson) (owner : UInt32 → Bytes) (world : World) (action : Action) : Prop :=
  match action with
  | .acceptDash event device _ => device = owner event.boot ∧
    (world.newest event.boot ≤ event.seq ∨ Logged json world.files device event.boot event.seq)
  | .loop _ _ _ => ∀ file ∈ world.files, ∃ after ∈ (world.act json action).files, after.name = file.name
  | _ => True

inductive Reached (json : ArduinoJson) (owner : UInt32 → Bytes) (allowed : World → Action → Prop) : World → Prop
  | start : Reached json owner allowed {}
  | step {world : World} (earlier : Reached json owner allowed world) (action : Action)
      (permitted : Permitted json owner world action) (ok : allowed world action) :
      Reached json owner allowed (world.act json action)

/-- What a cursor covers of the events still to come has been logged. -/
def Covers (json : ArduinoJson) (owner : UInt32 → Bytes) (newest : UInt32 → UInt32) (files : List SdFile)
    (boot last : UInt32) : Prop :=
  ∀ seq, newest boot ≤ seq → seq ≤ last → seq ≠ 0 → Logged json files (owner boot) boot seq

def Durable (json : ArduinoJson) (world : World) : Prop :=
  ∀ device event, (device, event) ∈ world.acknowledged → Logged json world.files device event.boot event.seq

/-- The sequence number in a log tail of the event's boot. -/
def tailSeq (json : ArduinoJson) (event : Event) (device : Bytes) (file : SdFile) : Option UInt32 :=
  (tailCursor json device file).bind fun cursor => if cursor.1 = event.boot then some cursor.2 else none

def tailSeqs (json : ArduinoJson) (files : List SdFile) (event : Event) (device : Bytes) : List UInt32 :=
  files.filterMap (tailSeq json event device)

/-- The scan does not carry another boot's sequence number over to the event's boot. -/
def Unmixed (json : ArduinoJson) (world : World) : Action → Prop
  | .acceptDash event device _ =>
    world.log.ready = false ∨ device = world.log.dashDevice ∨ event.boot = world.log.dashBoot ∨
      world.log.dashSeq < event.seq ∨ tailSeqs json world.files event device = [] ∨
      ∃ seq ∈ tailSeqs json world.files event device, world.log.dashSeq ≤ seq
  | _ => True

section Tail

theorem lastLine_eq {before line found : Bytes} (within : (10 : UInt8) ∉ line)
    (starts : before = [] ∨ ∃ earlier, before = earlier ++ [10])
    (last : lastLine (before ++ line ++ [10]) = some found) : found = line := by
  have reversed : (before ++ line ++ [10]).reverse.dropWhile (· ≠ 10) = 10 :: (line.reverse ++ before.reverse) := by
    simp
  have own : (line.reverse ++ before.reverse).takeWhile (fun byte => decide (byte ≠ 10)) = line.reverse := by
    have inside : ∀ byte ∈ line.reverse, decide (byte ≠ 10) = true := by
      intro byte member
      have differs : byte ≠ 10 := fun same => within (same ▸ List.mem_reverse.mp member)
      simpa using differs
    rw [List.takeWhile_append_of_pos inside]
    rcases starts with rfl | ⟨earlier, rfl⟩ <;> simp
  unfold lastLine at last
  rw [reversed] at last
  split at last
  · cases last
  · cases last
  · rename_i found before _ same
    cases same
    rw [own, List.reverse_reverse] at last
    exact (Option.some.inj last).symm

theorem flatMap_ends (lines : List Bytes) :
    lines.flatMap (fun line => line ++ [10]) = [] ∨
      ∃ earlier, lines.flatMap (fun line => line ++ [10]) = earlier ++ [(10 : UInt8)] := by
  rcases List.eq_nil_or_concat lines with rfl | ⟨init, last, rfl⟩
  · exact .inl rfl
  · exact .inr ⟨init.flatMap (fun line => line ++ [10]) ++ last, by simp⟩

/-- The last line in the last 1024 bytes of a file of whole, short, printable lines is one of its lines. -/
theorem tail_line {content found : Bytes} (whole : (Lines.of content).tail = [])
    (printable : ∀ line ∈ (Lines.of content).complete, ∀ byte ∈ line, 32 ≤ byte)
    (short : ∀ line ∈ (Lines.of content).complete, line.length ≤ 1022)
    (last : lastLine (cText (content.drop (content.length - 1024))) = some found) :
    found ∈ (Lines.of content).complete := by
  have text := Lines.text_of content
  rw [Lines.text, whole, List.append_nil] at text
  generalize (Lines.of content).complete = lines at printable short text ⊢
  rcases List.eq_nil_or_concat lines with rfl | ⟨init, line, rfl⟩
  · rw [← text] at last
    cases last
  rw [List.concat_eq_append] at printable short text ⊢
  have listed : line ∈ init ++ [line] := List.mem_append_right _ (List.mem_singleton_self line)
  have content_eq : content = init.flatMap (fun line => line ++ [10]) ++ (line ++ [10]) := by rw [← text]; simp
  have visible : ∀ byte ∈ content, byte ≠ 0 := by
    intro byte member zero
    rw [← text] at member
    obtain ⟨other, other_listed, inside⟩ := List.mem_flatMap.mp member
    rcases List.mem_append.mp inside with own | newline
    · have low := printable other other_listed byte own
      rw [zero] at low
      exact absurd low (by decide)
    · rw [zero] at newline
      exact absurd newline (by decide)
  have kept : cText (content.drop (content.length - 1024)) = content.drop (content.length - 1024) := by
    unfold cText
    rw [List.takeWhile_eq_self_iff]
    intro byte member
    simpa using visible byte (List.mem_of_mem_drop member)
  have room := short line listed
  have ends := flatMap_ends init
  generalize init.flatMap (fun line => line ++ [10]) = before at content_eq ends
  have size : content.length = before.length + line.length + 1 := by simp [content_eq, Nat.add_assoc]
  have cut : content.drop (content.length - 1024) = before.drop (content.length - 1024) ++ line ++ [10] := by
    rw [List.append_assoc, ← List.drop_append_of_le_length (by omega), ← content_eq]
  rw [kept, cut] at last
  have within : (10 : UInt8) ∉ line := by
    intro member
    exact absurd (printable line listed 10 member) (by decide)
  have starts : before.drop (content.length - 1024) = [] ∨
      ∃ earlier, before.drop (content.length - 1024) = earlier ++ [10] := by
    rcases ends with rfl | ⟨earlier, rfl⟩
    · exact .inl List.drop_nil
    · have least : content.length - 1024 ≤ earlier.length := by
        rw [size, List.length_append, List.length_singleton]
        omega
      exact .inr ⟨earlier.drop (content.length - 1024), List.drop_append_of_le_length least⟩
  rw [lastLine_eq within starts last]
  exact listed

end Tail

def Origin (owner : UInt32 → Bytes) (newest : UInt32 → UInt32) (record : Record) : Prop :=
  record.device = ascii "logger" ∨
    (record.device = ascii "dash-" ++ owner record.boot ∧ record.seq ≤ newest record.boot)

/-- A file holds whole lines, each of a record of the file's own device. -/
structure Filed (json : ArduinoJson) (owner : UInt32 → Bytes) (newest : UInt32 → UInt32) (file : SdFile) : Prop where
  whole : (Lines.of file.content).tail = []
  lines : ∀ line ∈ (Lines.of file.content).complete, ∃ record, line = json.serializeJson record ∧
    record.device ++ ascii "-" <+: file.name ∧ Origin owner newest record

structure Queued (json : ArduinoJson) (owner : UInt32 → Bytes) (newest : UInt32 → UInt32) (log : SystemLog)
    (waiting : Waiting) (record : Record) : Prop where
  line : waiting.line = json.serializeJson record
  device : waiting.device = record.device
  origin : Origin owner newest record
  pending : ascii "dash-" <+: waiting.device →
    log.dashPendingSeq ≠ 0 ∧ record.boot = log.dashPendingBoot ∧ record.seq = log.dashPendingSeq

def ofDash (waiting : Waiting) : Bool := decide (ascii "dash-" <+: waiting.device)

structure Invariant (json : ArduinoJson) (owner : UInt32 → Bytes) (world : World) : Prop where
  files : ∀ file ∈ world.files, Filed json owner world.newest file
  queued : ∀ waiting ∈ world.log.pending, ∃ record, Queued json owner world.newest world.log waiting record
  single : (world.log.pending.filter ofDash).length ≤ 1
  cursor : Covers json owner world.newest world.files world.log.dashBoot world.log.dashSeq
  durable : Durable json world

theorem dash_not_logger {name : Bytes} (dash : ascii "dash-" <+: name) (logger : ascii "logger" <+: name) : False := by
  obtain ⟨one, rfl⟩ := dash
  obtain ⟨two, same⟩ := logger
  have first := congrArg List.head? same
  exact absurd first (by simp [ascii])

section Recover

variable {owner : UInt32 → Bytes} {newest : UInt32 → UInt32} {log : SystemLog} {files : List SdFile} {event : Event}
  {device : Bytes} {seq : UInt32}

theorem tail_logged (filed : ∀ file ∈ files, Filed json owner newest file)
    (member : seq ∈ tailSeqs json files event device) :
    Logged json files (owner event.boot) event.boot seq ∧ seq ≤ newest event.boot := by
  obtain ⟨file, listed, found⟩ := List.mem_filterMap.mp member
  obtain ⟨cursor, read, same⟩ := Option.bind_eq_some_iff.mp found
  have boot : cursor.1 = event.boot ∧ cursor.2 = seq := by simpa using same
  unfold tailCursor at read
  split at read
  · rename_i named
    obtain ⟨line, last, parsed⟩ := Option.bind_eq_some_iff.mp read
    have kept := filed file listed
    have present := tail_line kept.whole ?_ ?_ last
    · obtain ⟨record, rfl, own, origin⟩ := kept.lines line present
      have here := json.reads record cursor.1 cursor.2 parsed
      rw [boot.1, boot.2] at here
      rcases origin with logger | ⟨dash, sent⟩
      · have prefixes : ascii "dash-" <+: file.name :=
          ((List.prefix_append _ device).trans (List.prefix_append _ _)).trans named.1
        exact (dash_not_logger prefixes (logger ▸ (List.prefix_append _ _).trans own)).elim
      · rw [here.1, here.2]
        exact ⟨⟨file, listed, record, present, dash, rfl, rfl⟩, sent⟩
    · intro line listed
      obtain ⟨record, rfl, -⟩ := kept.lines line listed
      exact json.printable record
    · intro line listed
      obtain ⟨record, rfl, -⟩ := kept.lines line listed
      exact json.short record
  · cases read

theorem le_max {one two : UInt32} : seq ≤ max one two ↔ seq ≤ one ∨ seq ≤ two := by
  have unfolded : max one two = if one ≤ two then two else one := rfl
  rw [unfolded]
  split <;> simp only [UInt32.le_iff_toNat_le] at * <;> omega

theorem max_le {one two : UInt32} (order : one ≤ two) : max one two ≤ two := by
  have unfolded : max one two = if one ≤ two then two else one := rfl
  rw [unfolded, if_pos order]
  exact UInt32.le_refl _

theorem le_foldl_max (seqs : List UInt32) (start : UInt32) :
    seq ≤ seqs.foldl max start ↔ seq ≤ start ∨ ∃ tail ∈ seqs, seq ≤ tail := by
  induction seqs generalizing start with
  | nil => simp
  | cons first rest ih => rw [List.foldl_cons, ih, le_max]; simp [or_assoc]

theorem recoverFrom_eq (log : SystemLog) (file : SdFile) :
    recoverFrom json event device log file =
      match tailSeq json event device file with
      | none => log
      | some seq => { log with dashBoot := event.boot, dashSeq := max log.dashSeq seq } := by
  unfold recoverFrom tailSeq
  cases tailCursor json device file with
  | none => rfl
  | some cursor =>
    obtain ⟨boot, seq⟩ := cursor
    by_cases same : boot = event.boot <;> simp [same]

theorem scan_eq (files : List SdFile) (log : SystemLog) :
    files.foldl (recoverFrom json event device) log =
      if tailSeqs json files event device = [] then log
      else { log with
        dashBoot := event.boot, dashSeq := (tailSeqs json files event device).foldl max log.dashSeq } := by
  induction files generalizing log with
  | nil => rfl
  | cons file rest ih =>
    rw [List.foldl_cons, ih, recoverFrom_eq]
    cases found : tailSeq json event device file with
    | none =>
      have same : tailSeqs json (file :: rest) event device = tailSeqs json rest event device :=
        List.filterMap_cons_none found
      rw [same]
    | some seq =>
      have more : tailSeqs json (file :: rest) event device = seq :: tailSeqs json rest event device :=
        List.filterMap_cons_some found
      rw [more, if_neg (List.cons_ne_nil _ _), List.foldl_cons]
      split
      · rename_i none
        rw [none]
        rfl
      · rfl

theorem le_sent (boot : UInt32) : newest boot ≤ sent newest event boot := by
  unfold sent
  by_cases same : boot = event.boot
  · rw [same, Function.update_self]
    exact le_max.mpr (.inl (UInt32.le_refl _))
  · rw [Function.update_of_ne same]
    exact UInt32.le_refl _

theorem seq_le_sent : event.seq ≤ sent newest event event.boot := by
  rw [sent, Function.update_self]
  exact le_max.mpr (.inr (UInt32.le_refl _))

theorem Covers.sent {boot last : UInt32} (covers : Covers json owner newest files boot last) :
    Covers json owner (SystemLog.sent newest event) files boot last :=
  fun seq new within nonzero => covers seq (UInt32.le_trans (le_sent boot) new) within nonzero

theorem scan_covers (filed : ∀ file ∈ files, Filed json owner newest file)
    (covers : Covers json owner newest files log.dashBoot log.dashSeq)
    (unmixed : event.boot = log.dashBoot ∨ log.dashSeq < event.seq ∨ tailSeqs json files event device = [] ∨
      ∃ seq ∈ tailSeqs json files event device, log.dashSeq ≤ seq) :
    let found := files.foldl (recoverFrom json event device) log
    Covers json owner (sent newest event) files found.dashBoot found.dashSeq := by
  have tail (seq : UInt32) (new : sent newest event event.boot ≤ seq) (within : ∃ last ∈ tailSeqs json files event device, seq ≤ last) :
      Logged json files (owner event.boot) event.boot seq := by
    obtain ⟨last, listed, below⟩ := within
    obtain ⟨logged, old⟩ := tail_logged filed listed
    have same : seq = last := UInt32.le_antisymm below (UInt32.le_trans (UInt32.le_trans old (le_sent _)) new)
    rwa [same]
  rw [scan_eq]
  split
  · exact covers.sent
  · rename_i some_tail
    intro found seq new within nonzero
    change Logged json files (owner event.boot) event.boot seq
    change sent newest event event.boot ≤ seq at new
    rcases (le_foldl_max _ _).mp within with kept | below
    · rcases unmixed with same | fresh | none | ⟨last, listed, above⟩
      · have old := UInt32.le_trans (le_sent _) new
        rw [same] at old ⊢
        exact covers seq old kept nonzero
      · have late := UInt32.le_trans (UInt32.le_trans seq_le_sent new) kept
        exact absurd (UInt32.lt_of_lt_of_le fresh late) (UInt32.lt_irrefl _)
      · exact absurd none some_tail
      · exact tail seq new ⟨last, listed, UInt32.le_trans kept above⟩
    · exact tail seq new below

theorem recover_rest :
    let found := log.recover json files event device
    found.pending = log.pending ∧ found.dashPendingBoot = log.dashPendingBoot ∧
      found.dashPendingSeq = log.dashPendingSeq := by
  unfold recover
  split
  · rw [scan_eq]
    split <;> exact ⟨rfl, rfl, rfl⟩
  · exact ⟨rfl, rfl, rfl⟩

end Recover

section Steps

variable {owner : UInt32 → Bytes} {world : World} {log : SystemLog} {event : Event} {device receivedAt : Bytes}

theorem Origin.sent {newest : UInt32 → UInt32} {record : Record} (origin : Origin owner newest record) :
    Origin owner (SystemLog.sent newest event) record :=
  origin.imp_right fun dash => ⟨dash.1, UInt32.le_trans dash.2 (le_sent _)⟩

theorem Filed.sent {newest : UInt32 → UInt32} {file : SdFile} (filed : Filed json owner newest file) :
    Filed json owner (SystemLog.sent newest event) file where
  whole := filed.whole
  lines line listed := by
    obtain ⟨record, text, own, origin⟩ := filed.lines line listed
    exact ⟨record, text, own, origin.sent⟩

theorem acceptDash_cases (log : SystemLog) (files : List SdFile) (event : Event) (device receivedAt : Bytes) :
    let found := log.recover json files event device
    let outcome := log.acceptDash json files event device receivedAt
    outcome = (false, log) ∨ (log.ready = true ∧ event.seq ≠ 0 ∧
      ((event.boot = found.dashBoot ∧ event.seq ≤ found.dashSeq ∧ outcome = (true, found)) ∨
        (∃ dropped, outcome = (false, { found with dropped })) ∨
        (found.dashPendingSeq = 0 ∧ outcome = (false, { found with
          pending := found.pending ++
            [⟨event, ascii "dash-" ++ device, json.serializeJson (found.record event (ascii "dash-" ++ device) receivedAt)⟩]
          dashPendingBoot := event.boot
          dashPendingSeq := event.seq })))) := by
  intro found outcome
  dsimp only [outcome, acceptDash]
  split
  · exact .inl rfl
  rename_i valid
  split
  · exact .inl rfl
  rename_i ready
  have nonzero : event.seq ≠ 0 := fun zero => valid (.inr (.inr zero))
  refine .inr ⟨by simpa using ready, nonzero, ?_⟩
  split
  · rename_i covered
    exact .inl ⟨covered.2.1, covered.2.2, rfl⟩
  split
  · exact .inr (.inl ⟨_, rfl⟩)
  rename_i free
  have slot : found.dashPendingSeq = 0 := by simpa using free
  cases pushed : found.push json event (ascii "dash-" ++ device) receivedAt with
  | none => exact .inr (.inl ⟨_, rfl⟩)
  | some next =>
    unfold push at pushed
    split at pushed
    · cases pushed
    · cases pushed
      exact .inr (.inr ⟨slot, rfl⟩)

theorem Invariant.move (inv : Invariant json owner world)
    (pending : log.pending = world.log.pending) (boot : log.dashPendingBoot = world.log.dashPendingBoot)
    (seq : log.dashPendingSeq = world.log.dashPendingSeq) {acknowledged : List (Bytes × Event)}
    (covers : Covers json owner (sent world.newest event) world.files log.dashBoot log.dashSeq)
    (durable : Durable json { world with acknowledged }) :
    Invariant json owner
      { world with log, newest := sent world.newest event, acknowledged } where
  files file listed := (inv.files file listed).sent
  queued waiting listed := by
    obtain ⟨record, line, own, origin, dash⟩ := inv.queued waiting (pending ▸ listed)
    exact ⟨record, line, own, origin.sent, fun isDash => by rw [boot, seq]; exact dash isDash⟩
  single := by
    dsimp only
    rw [pending]
    exact inv.single
  cursor := covers
  durable := durable

theorem recover_covers (inv : Invariant json owner world)
    (ready : world.log.ready = true) (unmixed : Unmixed json world (.acceptDash event device receivedAt)) :
    Covers json owner (sent world.newest event) world.files
      (world.log.recover json world.files event device).dashBoot
      (world.log.recover json world.files event device).dashSeq := by
  unfold recover
  split
  · rename_i other
    rcases unmixed with unready | same | rest
    · rw [ready] at unready
      cases unready
    · exact absurd same other
    · exact scan_covers inv.files inv.cursor rest
  · exact inv.cursor.sent

theorem dash_pending (inv : Invariant json owner world) (free : world.log.dashPendingSeq = 0) :
    world.log.pending.filter ofDash = [] := by
  apply List.filter_eq_nil_iff.mpr
  intro waiting listed isDash
  obtain ⟨record, queued⟩ := inv.queued waiting listed
  exact (queued.pending (of_decide_eq_true isDash)).1 free

theorem acceptDash_invariant (inv : Invariant json owner world) (owned : device = owner event.boot)
    (again : world.newest event.boot ≤ event.seq ∨ Logged json world.files device event.boot event.seq)
    (unmixed : Unmixed json world (.acceptDash event device receivedAt)) :
    Invariant json owner (world.acceptDash json event device receivedAt) := by
  unfold World.acceptDash
  rcases @acceptDash_cases json world.log world.files event device receivedAt with
    same | ⟨ready, nonzero, outcomes⟩
  · rw [same]
    exact inv.move rfl rfl rfl inv.cursor.sent inv.durable
  have covers := recover_covers inv ready unmixed
  obtain ⟨pending, pendingBoot, pendingSeq⟩ := @recover_rest json world.log world.files event device
  generalize world.log.recover json world.files event device = found at *
  -- it is acknowledged as known, left for later, or put in the queue
  rcases outcomes with ⟨boot, last, same⟩ | ⟨dropped, same⟩ | ⟨free, same⟩
  · rw [same]
    refine inv.move pending pendingBoot pendingSeq covers ?_
    intro other acked member
    rcases List.mem_append.mp member with before | new
    · exact inv.durable other acked before
    · cases List.mem_singleton.mp new
      rcases again with newest | logged
      · rw [owned, boot]
        refine covers event.seq ?_ last nonzero
        rw [← boot, sent, Function.update_self]
        exact max_le newest
      · exact logged
  · rw [same]
    refine inv.move ?_ ?_ ?_ ?_ inv.durable
    · exact pending
    · exact pendingBoot
    · exact pendingSeq
    · exact covers
  · rw [same]
    have quiet := dash_pending inv (pendingSeq.symm.trans free)
    have kept : Invariant json owner _ := inv.move pending pendingBoot pendingSeq covers inv.durable
    refine ⟨kept.files, ?_, ?_, covers, inv.durable⟩
    · intro waiting listed
      rcases List.mem_append.mp listed with before | new
      · obtain ⟨record, queued⟩ := kept.queued waiting before
        exact ⟨record, queued.line, queued.device, queued.origin, fun isDash => absurd free (queued.pending isDash).1⟩
      · rw [List.mem_singleton.mp new]
        refine ⟨found.record event (ascii "dash-" ++ device) receivedAt, rfl, rfl, .inr ⟨by rw [owned]; rfl, ?_⟩,
          fun _ => ⟨nonzero, rfl, rfl⟩⟩
        exact seq_le_sent
    · dsimp only
      rw [pending, List.filter_append, quiet]
      exact List.length_filter_le _ _

theorem Invariant.idle (inv : Invariant json owner world) (pending : log.pending = world.log.pending)
    (boot : log.dashPendingBoot = world.log.dashPendingBoot) (seq : log.dashPendingSeq = world.log.dashPendingSeq)
    (cursorBoot : log.dashBoot = world.log.dashBoot) (cursorSeq : log.dashSeq = world.log.dashSeq) :
    Invariant json owner { world with log } where
  files := inv.files
  queued waiting listed := by
    obtain ⟨record, line, own, origin, dash⟩ := inv.queued waiting (pending ▸ listed)
    exact ⟨record, line, own, origin, fun isDash => by rw [boot, seq]; exact dash isDash⟩
  single := by
    dsimp only
    rw [pending]
    exact inv.single
  cursor := by
    dsimp only
    rw [cursorBoot, cursorSeq]
    exact inv.cursor
  durable := inv.durable

theorem remember_invariant (inv : Invariant json owner { world with log }) :
    Invariant json owner { world with log := log.remember json event receivedAt } := by
  unfold remember push
  split
  · exact inv.idle rfl rfl rfl rfl rfl
  · refine ⟨inv.files, ?_, ?_, inv.cursor, inv.durable⟩
    · intro waiting listed
      rcases List.mem_append.mp listed with before | new
      · obtain ⟨record, queued⟩ := inv.queued waiting before
        exact ⟨record, queued.line, queued.device, queued.origin, queued.pending⟩
      · rw [List.mem_singleton.mp new]
        exact ⟨log.record event (ascii "logger") receivedAt, rfl, rfl, .inl rfl,
          fun isDash => (dash_not_logger isDash List.prefix_rfl).elim⟩
    · have logger (line : Bytes) : ¬ofDash ⟨event, ascii "logger", line⟩ = true := by
        intro isDash
        exact dash_not_logger (of_decide_eq_true isDash) List.prefix_rfl
      change ((log.pending ++ [_]).filter ofDash).length ≤ 1
      rw [List.filter_append, List.filter_cons_of_neg (logger _), List.filter_nil, List.append_nil]
      exact inv.single

theorem add_invariant (inv : Invariant json owner { world with log }) (code : Bytes) (value : UInt32)
    (severity : UInt8) (now : UInt32) :
    Invariant json owner { world with log := log.add json code value severity now receivedAt } := by
  unfold add
  split
  · exact inv
  · apply remember_invariant
    exact inv.idle rfl rfl rfl rfl rfl

theorem http_invariant (inv : Invariant json owner world) (route : Bytes) (method : UInt8) (status : UInt16)
    (duration now : UInt32) :
    Invariant json owner { world with log := world.log.http json route method status duration now receivedAt } := by
  unfold http
  split
  · exact inv.idle rfl rfl rfl rfl rfl
  · apply remember_invariant
    split
    · have summarised := @add_invariant json owner world world.log receivedAt inv (ascii "http_repeat_summary")
        world.log.httpRepeated 1 now
      exact summarised.idle rfl rfl rfl rfl rfl
    · exact inv.idle rfl rfl rfl rfl rfl

end Steps

section Drain

variable {owner : UInt32 → Bytes} {newest : UInt32 → UInt32} {files : List SdFile} {path : Bytes} {record : Record}

theorem Logged.append {device bytes : Bytes} {boot seq : UInt32} (logged : Logged json files device boot seq) :
    Logged json (SdFile.append path bytes files) device boot seq := by
  obtain ⟨file, listed, record, present, same⟩ := logged
  obtain ⟨more, extended⟩ := @SdFile.append_extends path bytes files file listed
  refine ⟨_, extended, record, ?_, same⟩
  rw [Lines.of_append]
  exact (Lines.complete_append _ _).subset present

theorem held_whole {before : Bytes} (filed : ∀ file ∈ files, Filed json owner newest file)
    (held : SdFile.Held files path before) : Filed json owner newest ⟨path, before⟩ := by
  rcases held with listed | rfl
  · exact filed _ listed
  · exact ⟨rfl, fun line listed => by cases listed⟩

theorem line_within (record : Record) : (10 : UInt8) ∉ json.serializeJson record :=
  fun member => absurd (json.printable record 10 member) (by decide)

theorem appended_lines {before : Bytes} (whole : (Lines.of before).tail = []) :
    Lines.of (before ++ (json.serializeJson record ++ [10])) =
      ⟨(Lines.of before).complete ++ [json.serializeJson record], []⟩ := by
  rw [Lines.of_append, Lines.append_line _ (line_within record), whole, List.nil_append]

theorem append_filed (filed : ∀ file ∈ files, Filed json owner newest file) (origin : Origin owner newest record)
    (own : record.device ++ ascii "-" <+: path) :
    ∀ file ∈ SdFile.append path (json.serializeJson record ++ [10]) files, Filed json owner newest file := by
  intro file member
  rcases SdFile.mem_append member with old | ⟨before, held, rfl⟩
  · exact filed file old
  · have kept := held_whole filed held
    have lines := @appended_lines json record before kept.whole
    constructor
    · rw [lines]
    · dsimp only
      rw [lines]
      intro line listed
      rcases List.mem_append.mp listed with earlier | new
      · exact kept.lines line earlier
      · exact ⟨record, List.mem_singleton.mp new, own, origin⟩

theorem append_logged (filed : ∀ file ∈ files, Filed json owner newest file) {device : Bytes}
    (dash : record.device = ascii "dash-" ++ device) :
    Logged json (SdFile.append path (json.serializeJson record ++ [10]) files) device record.boot record.seq := by
  obtain ⟨before, held, present⟩ := @SdFile.append_written path (json.serializeJson record ++ [10]) files
  refine ⟨_, present, record, ?_, dash, rfl, rfl⟩
  rw [appended_lines (held_whole filed held).whole]
  exact List.mem_append_right _ (List.mem_singleton_self _)

theorem older_listed {names : List Bytes} {start : Option Bytes}
    (known : ∀ name, start = some name → name ∈ files.map SdFile.name ∧ name ≠ path)
    (listed : ∀ name ∈ names, name ∈ files.map SdFile.name) {name : Bytes}
    (found : names.foldl (older path) start = some name) : name ∈ files.map SdFile.name ∧ name ≠ path := by
  induction names generalizing start with
  | nil => exact known name found
  | cons first rest ih =>
    refine ih ?_ (fun other member => listed other (List.mem_cons_of_mem _ member)) found
    intro other same
    unfold older at same
    split at same
    · rename_i differs
      cases same
      exact ⟨listed first List.mem_cons_self, differs.1⟩
    · exact known other same

theorem prune_some {device oldest : Bytes} (pruned : prune files device path = some oldest) :
    oldest ∈ files.map SdFile.name ∧ oldest ≠ path := by
  unfold prune at pruned
  dsimp only at pruned
  split at pruned
  · exact older_listed (fun _ impossible => by cases impossible) (fun name member => (List.mem_filter.mp member).1) pruned
  · cases pruned

theorem pruned_same {device bytes : Bytes}
    (kept : ∀ file ∈ files, ∃ after ∈ pruned (SdFile.append path bytes files) device path, after.name = file.name) :
    pruned (SdFile.append path bytes files) device path = SdFile.append path bytes files := by
  unfold pruned at kept ⊢
  split
  · rfl
  · rename_i oldest chosen
    rw [chosen] at kept
    obtain ⟨listed, other⟩ := prune_some chosen
    obtain ⟨file, present, rfl⟩ := List.mem_map.mp listed
    rcases SdFile.mem_append present with old | ⟨before, -, same⟩
    · obtain ⟨after, remaining, same⟩ := kept file old
      have differs := (List.mem_filter.mp remaining).2
      exact absurd same (by simpa using differs)
    · exact absurd (congrArg SdFile.name same) other

variable {world : World} {log : SystemLog} {waiting : Waiting} {rest : List Waiting} {dateStamp : Bytes}

theorem drain_invariant (inv : Invariant json owner { world with log }) (front : log.pending = waiting :: rest)
    (kept : ∀ file ∈ world.files, ∃ after ∈ (log.drain world.files waiting rest dateStamp).2, after.name = file.name) :
    Invariant json owner
      { world with
        log := (log.drain world.files waiting rest dateStamp).1
        files := (log.drain world.files waiting rest dateStamp).2 } := by
  obtain ⟨record, queued⟩ := inv.queued waiting (by rw [front]; exact List.mem_cons_self)
  unfold drain at kept ⊢
  dsimp only at kept ⊢
  generalize path_eq : waiting.device ++ ascii "-" ++ dateStamp ++ ascii "-" ++ padded _ ++ ascii ".log" = path at kept ⊢
  split
  · exact inv.idle rfl rfl rfl rfl rfl
  rename_i room
  rw [if_neg room] at kept
  dsimp only at kept ⊢
  -- by `kept` the pruning removes no file, so the line is all that is new
  have files_eq : (if log.active (decide (ascii "dash-" <+: waiting.device)) ≠ path then
      pruned (SdFile.append path (waiting.line ++ [10]) world.files) waiting.device path
      else SdFile.append path (waiting.line ++ [10]) world.files) =
      SdFile.append path (json.serializeJson record ++ [10]) world.files := by
    rw [← queued.line]
    by_cases rotated : log.active (decide (ascii "dash-" <+: waiting.device)) ≠ path
    · rw [if_pos rotated] at kept ⊢
      exact pruned_same kept
    · exact if_neg rotated
  rw [files_eq]
  have own : record.device ++ ascii "-" <+: path := by
    rw [← path_eq, queued.device]
    simp only [List.append_assoc]
    exact ⟨_, by rw [List.append_assoc]⟩
  have behind (other : Waiting) (listed : other ∈ rest) : other ∈ log.pending := by
    rw [front]
    exact List.mem_cons_of_mem _ listed
  have single := inv.single
  rw [front] at single
  refine ⟨append_filed inv.files queued.origin own, ?_, ?_, ?_, ?_⟩
  · intro other listed
    obtain ⟨held, waits⟩ := inv.queued other (behind other listed)
    refine ⟨held, waits.line, waits.device, waits.origin, fun isDash => ?_⟩
    dsimp only
    split
    · -- two dash events would wait
      rename_i dash
      rw [List.filter_cons_of_pos (show ofDash waiting = true from dash), List.length_cons] at single
      have present : other ∈ rest.filter ofDash := List.mem_filter.mpr ⟨listed, decide_eq_true isDash⟩
      have := List.length_pos_of_mem present
      omega
    · exact waits.pending isDash
  · exact (List.Sublist.filter _ (List.sublist_cons_self waiting rest)).length_le.trans single
  · dsimp only
    split
    · -- the pending event has just been logged
      rename_i dash
      obtain ⟨-, boot, seq⟩ := queued.pending (of_decide_eq_true dash)
      rcases queued.origin with logger | ⟨device, sent⟩
      · exact (dash_not_logger (of_decide_eq_true dash) (by rw [queued.device, logger])).elim
      · intro last new within _
        rw [← boot] at new ⊢
        rw [← seq] at within
        have same : last = record.seq := UInt32.le_antisymm within (UInt32.le_trans sent new)
        rw [same]
        exact append_logged inv.files device
    · intro last new within nonzero
      exact (inv.cursor last new within nonzero).append
  · intro device event member
    exact (inv.durable device event member).append

theorem loop_invariant (inv : Invariant json owner world) {now : UInt32} {sdReady : Bool}
    (kept : ∀ file ∈ world.files,
      ∃ after ∈ (world.log.loop world.files now dateStamp sdReady).2, after.name = file.name) :
    Invariant json owner
      { world with
        log := (world.log.loop world.files now dateStamp sdReady).1
        files := (world.log.loop world.files now dateStamp sdReady).2 } := by
  revert kept
  unfold loop
  split
  · exact fun _ => inv.idle rfl rfl rfl rfl rfl
  dsimp only
  split
  · exact fun _ => inv.idle rfl rfl rfl rfl rfl
  · rename_i waiting rest front
    split
    · exact fun _ => inv.idle rfl rfl rfl rfl rfl
    · intro kept
      refine drain_invariant ?_ front kept
      exact inv.idle rfl rfl rfl rfl rfl

end Drain

theorem covers_nothing {owner : UInt32 → Bytes} {newest : UInt32 → UInt32} {files : List SdFile} (boot : UInt32) :
    Covers json owner newest files boot 0 :=
  fun _ _ within nonzero => absurd (UInt32.le_zero_iff.mp within) nonzero

theorem act_invariant {owner : UInt32 → Bytes} {world : World} (inv : Invariant json owner world) (action : Action)
    (permitted : Permitted json owner world action) (unmixed : Unmixed json world action) :
    Invariant json owner (world.act json action) := by
  cases action with
  | acceptDash event device receivedAt => exact acceptDash_invariant inv permitted.1 permitted.2 unmixed
  | add code value severity now receivedAt => exact add_invariant inv code value severity now
  | http route method status duration now receivedAt => exact http_invariant inv route method status duration now
  | detailedRequests enabled now => exact inv.idle rfl rfl rfl rfl rfl
  | loop now dateStamp sdReady => exact loop_invariant inv permitted
  | reboot identity random now receivedAt =>
    -- the memory is lost, the card is not
    have fresh : Invariant json owner { world with log := { identity, boot := random } } :=
      ⟨inv.files, fun _ listed => absurd listed List.not_mem_nil, Nat.zero_le _, covers_nothing _, inv.durable⟩
    exact add_invariant fresh (ascii "boot") 0 1 now

/-- In every run whose scans mix no boots, an acknowledged event is a complete line on the card. -/
theorem acknowledged_durable (json : ArduinoJson) (owner : UInt32 → Bytes) (world : World)
    (reached : Reached json owner (Unmixed json) world) : Durable json world := by
  have inv : Invariant json owner world := by
    induction reached with
    | start =>
      exact ⟨fun _ listed => absurd listed List.not_mem_nil, fun _ listed => absurd listed List.not_mem_nil,
        Nat.zero_le _, covers_nothing _, fun _ _ member => absurd member List.not_mem_nil⟩
    | step earlier action permitted ok ih => exact act_invariant ih action permitted ok
  exact inv.durable

section Bench

def permits (json : ArduinoJson) (owner : UInt32 → Bytes) (world : World) (action : Action) : Bool :=
  match action with
  | .acceptDash event device _ => device = owner event.boot && decide (world.newest event.boot ≤ event.seq)
  | .loop _ _ _ =>
    world.files.all fun file => (world.act json action).files.any fun after => after.name = file.name
  | _ => true

theorem permitted_of_permits {owner : UInt32 → Bytes} {world : World} {action : Action}
    (permits : permits json owner world action = true) : Permitted json owner world action := by
  cases action with
  | acceptDash event device receivedAt =>
    obtain ⟨owned, newest⟩ := Bool.and_eq_true_iff.mp permits
    exact ⟨of_decide_eq_true owned, .inl (of_decide_eq_true newest)⟩
  | loop now dateStamp sdReady =>
    intro file listed
    obtain ⟨after, present, same⟩ := List.any_eq_true.mp (List.all_eq_true.mp permits file listed)
    exact ⟨after, present, of_decide_eq_true same⟩
  | add | http | detailedRequests | reboot => trivial

instance (json : ArduinoJson) (world : World) : (action : Action) → Decidable (Unmixed json world action)
  | .acceptDash _ _ _ => inferInstanceAs (Decidable (_ ∨ _ ∨ _ ∨ _ ∨ _ ∨ ∃ seq ∈ _, _))
  | .loop _ _ _ | .add _ _ _ _ _ | .http _ _ _ _ _ _ | .detailedRequests _ _ | .reboot _ _ _ _ => isTrue trivial

def throughout (json : ArduinoJson) (owner : UInt32 → Bytes) (allowed : World → Action → Prop)
    [∀ world action, Decidable (allowed world action)] : World → List Action → Bool
  | _, [] => true
  | world, action :: rest =>
    permits json owner world action && decide (allowed world action) &&
      throughout json owner allowed (world.act json action) rest

theorem reached_throughout {owner : UInt32 → Bytes} {allowed : World → Action → Prop}
    [∀ world action, Decidable (allowed world action)] {world : World} (reached : Reached json owner allowed world)
    {actions : List Action} (checked : throughout json owner allowed world actions = true) :
    Reached json owner allowed (actions.foldl (World.act json) world) := by
  induction actions generalizing world with
  | nil => exact reached
  | cons action rest ih =>
    obtain ⟨here, later⟩ := Bool.and_eq_true_iff.mp checked
    obtain ⟨permits, allows⟩ := Bool.and_eq_true_iff.mp here
    exact ih (reached.step action (permitted_of_permits permits) (of_decide_eq_true allows)) later

def benchOwner (boot : UInt32) : Bytes := if boot = 1 then ascii "0a1b2c3d4e5f" else ascii "102030405060"

def benchEvent (boot seq : UInt32) : Event :=
  { boot, seq, ms := 0, value := 0, severity := 1, code := strlcpy (ascii "boot"), durationMs := 0, httpStatus := 0,
    method := 0, version := 1 }

def send (boot seq : UInt32) : Action := .acceptDash (benchEvent boot seq) (benchOwner boot) (ascii "unsynced")

def drainAt (now : UInt32) : Action := .loop now (ascii "20260924") true

def switched : List Action :=
  [.reboot (ascii "logger-1") 9 0 (ascii "unsynced"), drainAt 250, send 2 1, drainAt 500, send 1 1, drainAt 750,
    send 1 2, drainAt 1000, send 1 2]

theorem acknowledged_durable_switched :
    ((switched.foldl (World.act LogLine.minified) {}).acknowledged.map fun ack => (ack.1, ack.2.seq)) =
        [(benchOwner 1, 2)] ∧
      Durable LogLine.minified (switched.foldl (World.act LogLine.minified) {}) :=
  ⟨by decide +kernel, acknowledged_durable LogLine.minified benchOwner _
    (reached_throughout .start (by decide +kernel))⟩

/-- The other dash again: its log ends with its first event, the cursor stands at 2. -/
def mixed : World := (switched ++ [send 2 2]).foldl (World.act LogLine.minified) {}

theorem mixed_reached : Reached LogLine.minified benchOwner (fun _ _ => True) mixed :=
  reached_throughout .start (by decide +kernel)

theorem mixed_acknowledged : (benchOwner 2, benchEvent 2 2) ∈ mixed.acknowledged := by decide +kernel

theorem mixed_lines : ∀ file ∈ mixed.files, ∀ line ∈ (Lines.of file.content).complete,
    line ≠ [] ∧ LogLine.read line ≠ some (2, 2) := by decide +kernel

/-- The second event of the other dash is acknowledged and lost. -/
theorem acknowledged_unlogged :
    ¬∀ (json : ArduinoJson) (owner : UInt32 → Bytes) (world : World),
      Reached json owner (fun _ _ => True) world → Durable json world := by
  intro durable
  obtain ⟨file, listed, record, present, -, boot, seq⟩ :=
    durable LogLine.minified benchOwner mixed mixed_reached _ _ mixed_acknowledged
  obtain ⟨nonempty, other⟩ := mixed_lines file listed _ present
  by_cases fits : LogLine.Fits record
  · have line : LogLine.minified.serializeJson record = LogLine.write record := if_pos fits
    rw [line, LogLine.read_fits fits, boot, seq] at other
    exact other rfl
  · exact nonempty (if_neg fits)

end Bench

end ApexiDevices.SystemLog
