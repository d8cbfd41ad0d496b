import ApexiDevices.Logs.Rings

set_option autoImplicit false

/-!
# Whole lines, in order

What a failed print left stays at the end of its file, and the retry goes
behind it. `torn` remembers these files.
-/

namespace ApexiDevices.RingLog

open Device SystemEvents

variable {json : ArduinoJson}

structure Popped where
  entry : Waiting
  path : Bytes
  content : Bytes
  torn : Bool

structure World where
  rings : RingLog := {}
  files : List SdFile := []
  -- what no code reads: the files that end in part of a line, and the entries that were popped
  torn : Bytes → Bool := fun _ => false
  written : List Popped := []

inductive Action where
  | begin (identity : Bytes) (random now : UInt32) (receivedAt : Bytes)
  | add (code : Bytes) (value : UInt32) (severity : UInt8) (now : UInt32) (receivedAt : Bytes)
  | http (route : Bytes) (method : UInt8) (status : UInt16) (duration now : UInt32) (receivedAt : Bytes)
  | acceptDash (listed : Bool) (event : Event) (device receivedAt : Bytes)
  | detailedRequests (enabled : Bool) (now : UInt32)
  | loop (now : UInt32) (dateStamp : Bytes) (sdReady : Bool) (card : CardReplies)

/-- A print that failed behind some bytes tears its file; a complete line, or a removal, mends it. -/
def tornBy (torn : Bytes → Bool) (files : List SdFile) : Drained → Bytes → Bool
  | .nothing => torn
  | .part path printed => if printed = 0 then torn else Function.update torn path true
  | .line _ path => fun name => Function.update torn path false name && files.any fun file => file.name = name

def writtenBy (world : World) (files : List SdFile) : Drained → List Popped
  | .line entry path => world.written ++ [⟨entry, path, SdFile.read files path, world.torn path⟩]
  | _ => world.written

namespace World

def loop (world : World) (now : UInt32) (dateStamp : Bytes) (sdReady : Bool) (card : CardReplies) : World :=
  let outcome := world.rings.loop world.files now dateStamp sdReady card
  { rings := outcome.1
    files := outcome.2.1
    torn := tornBy world.torn outcome.2.1 outcome.2.2
    written := writtenBy world outcome.2.1 outcome.2.2 }

def act (json : ArduinoJson) (world : World) : Action → World
  | .begin identity random now receivedAt =>
    { world with rings := world.rings.begin json identity random now receivedAt }
  | .add code value severity now receivedAt =>
    { world with rings := world.rings.add json code value severity now receivedAt }
  | .http route method status duration now receivedAt =>
    { world with rings := world.rings.http json route method status duration now receivedAt }
  | .acceptDash listed event device receivedAt =>
    { world with
      rings := (world.rings.acceptDash json (if listed then world.files else []) event device receivedAt).2 }
  | .detailedRequests enabled now =>
    { world with rings := { world.rings with
        log := { world.rings.log with detailed := enabled, detailedStarted := now } } }
  | .loop now dateStamp sdReady card => world.loop now dateStamp sdReady card

end World

inductive Reached (json : ArduinoJson) : World → Prop
  | start : Reached json {}
  | step {world : World} (earlier : Reached json world) (action : Action) : Reached json (world.act json action)

def Ended (content : Bytes) : Prop := content = [] ∨ ∃ earlier, content = earlier ++ [10]

/-- The line of the entry stands at the end of its file, behind a line break or the start. -/
def Alone (popped : Popped) : Prop :=
  ∃ before, popped.content = before ++ popped.entry.line ++ [10] ∧ Ended before

structure InOrder (json : ArduinoJson) (world : World) : Prop where
  counters : world.rings.pushed - world.rings.popped = UInt32.ofNat world.rings.pending.count
  bounded : world.rings.pending.count ≤ 64
  order : world.written.map Popped.entry <+: world.rings.accepted
  produced : ∀ popped ∈ world.written, Produced json popped.entry
  own : ∀ popped ∈ world.written, OwnLog popped.entry.device popped.path
  alone : ∀ popped ∈ world.written, Alone popped

section Ends

variable {content part before : Bytes}

theorem ended_line (content : Bytes) : Ended (content ++ [10]) := .inr ⟨content, rfl⟩

theorem not_ended_part (filled : part ≠ []) (within : (10 : UInt8) ∉ part) : ¬Ended (content ++ part) := by
  rintro (empty | ⟨earlier, same⟩)
  · exact filled (List.append_eq_nil_iff.mp empty).2
  · have last := congrArg List.getLast? same
    rw [List.getLast?_append_of_ne_nil _ filled, List.getLast?_concat] at last
    exact within (List.mem_of_getLast? last)

theorem alone_iff {popped : Popped} (same : popped.content = before ++ popped.entry.line ++ [10]) :
    Alone popped ↔ Ended before := by
  constructor
  · rintro ⟨other, found, ended⟩
    rw [same, List.append_left_inj, List.append_left_inj] at found
    exact found ▸ ended
  · exact fun ended => ⟨before, same, ended⟩

end Ends

structure Invariant (json : ArduinoJson) (world : World) : Prop where
  entries : ∃ waiting, Aligned world.rings waiting ∧
    world.rings.accepted = world.written.map Popped.entry ++ waiting
  produced : ∀ entry ∈ world.rings.accepted, Produced json entry
  torn : ∀ name, world.torn name = false ↔ Ended (SdFile.read world.files name)
  written : ∀ popped ∈ world.written,
    OwnLog popped.entry.device popped.path ∧ (Alone popped ↔ popped.torn = false)

section Step

variable {world : World} {entry : Waiting} {path : Bytes} {files : List SdFile}

theorem invariant_start : Invariant json {} := by
  refine ⟨⟨[], aligned_start, rfl⟩, ?_, ?_, ?_⟩
  · exact fun entry member => absurd member List.not_mem_nil
  · exact fun name => ⟨fun _ => .inl rfl, fun _ => rfl⟩
  · exact fun popped member => absurd member List.not_mem_nil

theorem Invariant.refines (inv : Invariant json world) {next : RingLog} {target : List Waiting → SystemLog}
    (refines : ∀ waiting, Aligned world.rings waiting → Refines json world.rings waiting next (target waiting)) :
    Invariant json { world with rings := next } := by
  obtain ⟨waiting, aligned, accepted⟩ := inv.entries
  obtain ⟨more, aligned, grown, produced, -⟩ := refines waiting aligned
  refine ⟨⟨waiting ++ more, aligned, by rw [grown, accepted, List.append_assoc]⟩, ?_, inv.torn, inv.written⟩
  intro entry member
  rw [grown] at member
  rcases List.mem_append.mp member with old | new
  · exact inv.produced entry old
  · exact produced entry new

theorem line_within (produced : Produced json entry) : (10 : UInt8) ∉ entry.line := by
  obtain ⟨log, receivedAt, line⟩ := produced
  intro member
  rw [line] at member
  exact absurd (json.printable _ 10 member) (by decide)

theorem torn_part (torn : ∀ name, world.torn name = false ↔ Ended (SdFile.read world.files name)) {printed : Nat}
    (within : (10 : UInt8) ∉ entry.line) (short : printed ≤ entry.line.length) (name : Bytes) :
    tornBy world.torn (SdFile.append path (entry.line.take printed) world.files) (.part path printed) name = false ↔
      Ended (SdFile.read (SdFile.append path (entry.line.take printed) world.files) name) := by
  by_cases same : name = path
  · subst same
    rw [SdFile.read_append_same, tornBy]
    by_cases none : printed = 0
    · rw [if_pos none, none, List.take_zero, List.append_nil]
      exact torn name
    · rw [if_neg none, Function.update_self]
      have part : entry.line.take printed ≠ [] := by
        intro empty
        have length := congrArg List.length empty
        rw [List.length_take, List.length_nil] at length
        omega
      have torn := @not_ended_part (SdFile.read world.files name) _ part
        fun member => within (List.mem_of_mem_take member)
      exact ⟨nofun, fun ended => absurd ended torn⟩
  · rw [SdFile.read_append_ne same, tornBy]
    split
    · exact torn name
    · rw [Function.update_of_ne same]
      exact torn name

theorem any_remove (name : Bytes) : (SdFile.remove name files).any (fun file => file.name = name) = false := by
  rw [List.any_eq_false]
  intro file listed
  simpa using (List.mem_filter.mp listed).2

theorem read_kept {after : List SdFile} {line : Bytes}
    (kept : after = SdFile.append path line files ∨ ∃ oldest, oldest ≠ path ∧
      after = SdFile.remove oldest (SdFile.append path line files)) :
    SdFile.read after path = SdFile.read files path ++ line ∧
      ∀ name, name ≠ path → after.any (fun file => file.name = name) = true →
        SdFile.read after name = SdFile.read files name := by
  rcases kept with rfl | ⟨oldest, apart, rfl⟩
  · exact ⟨SdFile.read_append_same, fun name other _ => SdFile.read_append_ne other⟩
  · refine ⟨(SdFile.read_remove_ne apart.symm).trans SdFile.read_append_same, fun name other present => ?_⟩
    have left : name ≠ oldest := by
      rintro rfl
      rw [any_remove] at present
      cases present
    exact (SdFile.read_remove_ne left).trans (SdFile.read_append_ne other)

theorem torn_line (torn : ∀ name, world.torn name = false ↔ Ended (SdFile.read world.files name))
    {after : List SdFile} (own : SdFile.read after path = SdFile.read world.files path ++ (entry.line ++ [10]))
    (others : ∀ name, name ≠ path → after.any (fun file => file.name = name) = true →
      SdFile.read after name = SdFile.read world.files name) (name : Bytes) :
    tornBy world.torn after (.line entry path) name = false ↔ Ended (SdFile.read after name) := by
  change (Function.update world.torn path false name && after.any fun file => file.name = name) = false ↔ _
  by_cases same : name = path
  · subst same
    rw [own, ← List.append_assoc, Function.update_self]
    exact ⟨fun _ => ended_line _, fun _ => rfl⟩
  · rw [Function.update_of_ne same]
    cases present : after.any fun file => file.name = name with
    | false =>
      rw [SdFile.read_absent present, Bool.and_false]
      exact ⟨fun _ => .inl rfl, fun _ => rfl⟩
    | true =>
      rw [others name same present, Bool.and_true]
      exact torn name

theorem Invariant.loop (inv : Invariant json world) (now : UInt32) (dateStamp : Bytes) (sdReady : Bool)
    (card : CardReplies) : Invariant json (world.loop now dateStamp sdReady card) := by
  obtain ⟨waiting, aligned, accepted⟩ := inv.entries
  have drained := @loop_cases _ _ world.files aligned now dateStamp sdReady card
  unfold World.loop
  simp only
  generalize world.rings.loop world.files now dateStamp sdReady card = outcome at drained
  have waits (log : SystemLog) : ∃ waiting, Aligned { world.rings with log } waiting ∧
      world.rings.accepted = world.written.map Popped.entry ++ waiting :=
    ⟨waiting, aligned.with_log log, accepted⟩
  cases drained with
  | nothing log => exact ⟨waits log, inv.produced, inv.torn, inv.written⟩
  | part front own short log =>
    refine ⟨waits log, inv.produced, ?_, inv.written⟩
    have queued : _ ∈ world.rings.accepted := accepted ▸ List.mem_append_right _ (front ▸ List.mem_cons_self)
    exact torn_part inv.torn (line_within (inv.produced _ queued)) short
  | @line entry rest front path own next after aligned same kept =>
    obtain ⟨mine, others⟩ := read_kept kept
    refine ⟨⟨rest, aligned, ?_⟩, ?_, torn_line inv.torn mine others, ?_⟩
    · simp only [same, accepted, front, writtenBy, List.map_append, List.map_singleton, List.append_assoc,
        List.singleton_append]
    · rw [same]
      exact inv.produced
    · intro popped member
      rcases List.mem_append.mp member with old | new
      · exact inv.written popped old
      · obtain rfl := List.mem_singleton.mp new
        refine ⟨own, ?_⟩
        rw [alone_iff (mine.trans (List.append_assoc _ _ _).symm), ← inv.torn path]

theorem Invariant.act (inv : Invariant json world) (action : Action) : Invariant json (world.act json action) := by
  cases action with
  | begin identity random now receivedAt => exact inv.refines fun _ aligned => begin_refines aligned
  | add code value severity now receivedAt => exact inv.refines fun _ aligned => add_refines aligned
  | http route method status duration now receivedAt => exact inv.refines fun _ aligned => http_refines aligned
  | acceptDash listed event device receivedAt => exact inv.refines fun _ aligned => acceptDash_refines aligned
  | detailedRequests enabled now => exact inv.refines fun _ aligned => refines_log aligned rfl
  | loop now dateStamp sdReady card => exact inv.loop now dateStamp sdReady card

theorem invariant_of_reached (reached : Reached json world) : Invariant json world := by
  induction reached with
  | start => exact invariant_start
  | step earlier action ih => exact ih.act action

end Step

/-- The log is whole and in order as long as no line is completed in a file that a failed print has torn. -/
theorem in_order_iff (json : ArduinoJson) (world : World) (reached : Reached json world) :
    InOrder json world ↔ ∀ popped ∈ world.written, popped.torn = false := by
  obtain ⟨⟨waiting, aligned, accepted⟩, produced, -, written⟩ := invariant_of_reached reached
  constructor
  · intro ordered popped member
    exact (written popped member).2.mp (ordered.alone popped member)
  · intro untorn
    constructor
    case counters =>
      rw [aligned.counters, aligned.count, UInt32.add_comm, UInt32.add_sub_cancel]
    case bounded => exact aligned.count ▸ aligned.room
    case order => exact ⟨waiting, accepted.symm⟩
    case produced =>
      intro popped member
      apply produced
      rw [accepted]
      exact List.mem_append_left _ (List.mem_map_of_mem member)
    case own => exact fun popped member => (written popped member).1
    case alone => exact fun popped member => (written popped member).2.mpr (untorn popped member)

def booted (first second : CardReplies) : World :=
  let started := World.act LogLine.minified {} (.begin (ascii "logger-7") 7 1000 (ascii "unsynced"))
  (started.loop 2000 (ascii "20260701") true first).loop 3000 (ascii "20260701") true second

theorem reached_booted (first second : CardReplies) : Reached LogLine.minified (booted first second) :=
  ((Reached.start.step (.begin _ _ _ _)).step (.loop _ _ _ _)).step (.loop _ _ _ _)

/-- The first open fails and nothing of the first print arrives: the line is whole all the same. -/
theorem in_order_booted : InOrder LogLine.minified (booted ⟨false, 0, false⟩ ⟨true, 1024, true⟩) := by
  apply (in_order_iff _ _ (reached_booted _ _)).mpr
  decide +kernel

/-- The first print fails behind five bytes: the retry completes a line that starts with them. -/
theorem not_in_order_torn : ∃ world, Reached LogLine.minified world ∧ ¬InOrder LogLine.minified world := by
  refine ⟨_, reached_booted ⟨true, 5, false⟩ ⟨true, 1024, true⟩, fun ordered => ?_⟩
  have torn : (booted ⟨true, 5, false⟩ ⟨true, 1024, true⟩).written.map Popped.torn = [true] := by decide +kernel
  obtain ⟨popped, listed, wrong⟩ := List.mem_map.mp (torn ▸ List.mem_singleton_self true)
  have written := (invariant_of_reached (reached_booted ⟨true, 5, false⟩ ⟨true, 1024, true⟩)).written popped listed
  rw [written.2.mp (ordered.alone popped listed)] at wrong
  cases wrong

end ApexiDevices.RingLog
