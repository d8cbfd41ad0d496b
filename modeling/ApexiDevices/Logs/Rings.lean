import ApexiDevices.Logs.LogLine
import ApexiDevices.Shared.Ring

set_option autoImplicit false

/-!
# The system log over its rings

Three rings carry one event each: `pending_` counts from its head, `devices_`
and `lines_` are indexed by two running counters. A print may fail behind any
part of its line, which then stays at the end of the file.
-/

namespace ApexiDevices

open Device SystemEvents

namespace SystemEvents

/-- `Queue<N>` over its array. -/
structure EventRing (capacity : Nat) where
  entries : Nat → Event := fun _ =>
    { boot := 0, seq := 0, ms := 0, value := 0, severity := 1, code := Code.ofBytes [], durationMs := 0
      httpStatus := 0, method := 0, version := 1 }
  head : Nat := 0
  count : Nat := 0
  dropped : UInt32 := 0

namespace EventRing

variable {capacity : Nat} (ring : EventRing capacity)

def push (event : Event) : Bool × EventRing capacity :=
  if ring.count = capacity then (false, { ring with dropped := ring.dropped + 1 })
  else
    (true, { ring with
      entries := Function.update ring.entries ((ring.head + ring.count) % capacity) event
      count := ring.count + 1 })

def front : Option Event := if ring.count ≠ 0 then some (ring.entries ring.head) else none

def pop : EventRing capacity :=
  if ring.count ≠ 0 then { ring with head := (ring.head + 1) % capacity, count := ring.count - 1 } else ring

@[simp] theorem pop_dropped : ring.pop.dropped = ring.dropped := by
  unfold pop
  split <;> rfl

end EventRing

end SystemEvents

/-- `log` has every other member; its own list of waiting entries and its dropped count are not used. -/
structure RingLog where
  log : SystemLog := {}
  pending : EventRing 64 := {}
  devices : Nat → Bytes := fun _ => []
  lines : Nat → Bytes := fun _ => []
  pushed : UInt32 := 0
  popped : UInt32 := 0
  recent : Nat → Bytes := fun _ => []
  recentCount : UInt32 := 0
  -- what no code reads: the events that entered the queue
  accepted : List Waiting := []

/-- What the card answers in one `loop`: the open, the bytes printed, the removal of an old segment. -/
structure CardReplies where
  opened : Bool
  printed : Nat
  removed : Bool

/-- What `loop` did to a file: a print that failed, or one that was completed and popped its entry. -/
inductive Drained where
  | nothing
  | part (path : Bytes) (printed : Nat)
  | line (entry : Waiting) (path : Bytes)

namespace RingLog

variable (json : ArduinoJson) (rings : RingLog)

def remember (event : Event) (device receivedAt : Bytes) : RingLog :=
  let line := json.serializeJson (rings.log.record event device receivedAt)
  { rings with
    devices := Function.update rings.devices (rings.pushed.toNat % 64) device
    lines := Function.update rings.lines (rings.pushed.toNat % 64) line
    pushed := rings.pushed + 1
    recent := Function.update rings.recent (rings.recentCount.toNat % 64) line
    recentCount := rings.recentCount + 1
    accepted := rings.accepted ++ [⟨event, device, line⟩] }

/-- `if(pending_.push(e)) remember(e,device)` -/
def enqueue (event : Event) (device receivedAt : Bytes) : Bool × RingLog :=
  let pushed := rings.pending.push event
  if pushed.1 then (true, { rings with pending := pushed.2 }.remember json event device receivedAt)
  else (false, { rings with pending := pushed.2 })

def add (code : Bytes) (value : UInt32) (severity : UInt8) (now : UInt32) (receivedAt : Bytes) : RingLog :=
  if !safeCode code then rings
  else
    let seq := rings.log.seq + 1
    ({ rings with log := { rings.log with seq } }.enqueue json
      { boot := rings.log.boot, seq, ms := now, value, severity, code := SystemLog.strlcpy code, durationMs := 0
        httpStatus := 0, method := 0, version := 1 } (ascii "logger") receivedAt).2

def begin (identity : Bytes) (random now : UInt32) (receivedAt : Bytes) : RingLog :=
  { rings with log := { rings.log with identity, boot := random } }.add json (ascii "boot") 0 1 now receivedAt

/-- The suppressed repetitions are reported before the request that ends them. -/
def summarise (now : UInt32) (receivedAt : Bytes) : RingLog :=
  if rings.log.httpRepeated ≠ 0 then
    let summarised := rings.add json (ascii "http_repeat_summary") rings.log.httpRepeated 1 now receivedAt
    { summarised with log := { summarised.log with httpRepeated := 0 } }
  else rings

def http (route : Bytes) (method : UInt8) (status : UInt16) (duration now : UInt32) (receivedAt : Bytes) :
    RingLog :=
  if !rings.log.detailedRequests now && rings.log.lastHttpCode = route && rings.log.lastHttpStatus = status &&
      decide (now - rings.log.lastHttpMs < 10000) then
    { rings with log := { rings.log with httpRepeated := rings.log.httpRepeated + 1 } }
  else
    let summarised := rings.summarise json now receivedAt
    let seq := summarised.log.seq + 1
    ({ summarised with log := { summarised.log with
        lastHttpCode := route, lastHttpStatus := status, lastHttpMs := now, seq } }.enqueue json
      { boot := rings.log.boot, seq, ms := now, value := 0, severity := if status ≥ 400 then 2 else 1
        code := SystemLog.strlcpy route, durationMs := duration, httpStatus := status, method, version := 1 }
      (ascii "logger") receivedAt).2

def acceptDash (files : List SdFile) (event : Event) (device receivedAt : Bytes) : Bool × RingLog :=
  if event.version ≠ 1 ∨ safeCode event.code.bytes = false ∨ event.seq = 0 then (false, rings)
  else if !rings.log.ready then (false, rings)
  else
    let found := rings.log.recover json files event device
    if device = found.dashDevice ∧ event.boot = found.dashBoot ∧ event.seq ≤ found.dashSeq then
      (true, { rings with log := found })
    else if found.dashPendingSeq ≠ 0 then (false, { rings with log := found })
    else
      let pushed := { rings with log := found }.enqueue json event (ascii "dash-" ++ device) receivedAt
      if pushed.1 then
        (false, { pushed.2 with
          log := { pushed.2.log with dashPendingBoot := event.boot, dashPendingSeq := event.seq } })
      else (false, pushed.2)

/-- The front entry goes to the active segment of its source, if the card takes it. -/
def drain (files : List SdFile) (event : Event) (dateStamp : Bytes) (card : CardReplies) :
    RingLog × List SdFile × Drained :=
  let device := rings.devices (rings.popped.toNat % 64)
  let line := rings.lines (rings.popped.toNat % 64)
  let log := rings.log
  if !log.ready then
    ({ rings with log := { log with error := "microSD unavailable; events buffered in RAM" } }, files, .nothing)
  else
    let source := decide (ascii "dash-" <+: device)
    let start := device ++ ascii "-" ++ dateStamp ++ ascii "-"
    let segment := if start <+: log.active source then log.segment source else 0
    let path := start ++ padded segment ++ ascii ".log"
    let log := { log with segment := Function.update log.segment source segment }
    if !card.opened then ({ rings with log := { log with error := "System log open failed" } }, files, .nothing)
    else if SdFile.size files path ≥ 256 * 1024 then
      ({ rings with log := { log with
        segment := Function.update log.segment source (segment + 1)
        active := Function.update log.active source path } }, files, .nothing)
    else
      let output := line ++ [10]
      let written := SdFile.append path (output.take card.printed) files
      if card.printed < output.length then
        ({ rings with log := { log with error := "System log write failed" } }, written, .part path card.printed)
      else
        let kept := if log.active source ≠ path && card.removed then SystemLog.pruned written device path else written
        ({ rings with
          log := { log with
            error := ""
            active := Function.update log.active source path
            dashBoot := if source then log.dashPendingBoot else log.dashBoot
            dashSeq := if source then log.dashPendingSeq else log.dashSeq
            dashPendingSeq := if source then 0 else log.dashPendingSeq }
          pending := rings.pending.pop
          lines := Function.update rings.lines (rings.popped.toNat % 64) []
          popped := rings.popped + 1 }, kept, .line ⟨event, device, line⟩ path)

def loop (files : List SdFile) (now : UInt32) (dateStamp : Bytes) (sdReady : Bool) (card : CardReplies) :
    RingLog × List SdFile × Drained :=
  let log := { rings.log with ready := sdReady }
  if now - log.lastDrain < 250 then ({ rings with log }, files, .nothing)
  else
    let woken := { rings with log := { log with lastDrain := now } }
    match rings.pending.front with
    | none => (woken, files, .nothing)
    | some event => woken.drain files event dateStamp card

structure Aligned (rings : RingLog) (waiting : List Waiting) : Prop where
  count : rings.pending.count = waiting.length
  room : waiting.length ≤ 64
  head : rings.pending.head < 64
  counters : rings.pushed = rings.popped + UInt32.ofNat waiting.length
  events : window 64 rings.pending.entries rings.pending.head waiting.length = waiting.map Waiting.event
  devices : window 64 rings.devices rings.popped.toNat waiting.length = waiting.map Waiting.device
  lines : window 64 rings.lines rings.popped.toNat waiting.length = waiting.map Waiting.line

def view (waiting : List Waiting) : SystemLog :=
  { rings.log with pending := waiting, dropped := rings.pending.dropped }

def Produced (entry : Waiting) : Prop :=
  ∃ (log : SystemLog) (receivedAt : Bytes),
    entry.line = json.serializeJson (log.record entry.event entry.device receivedAt)

/-- Entries were only added, and the list model did the same. -/
def Refines (waiting : List Waiting) (next : RingLog) (log : SystemLog) : Prop :=
  ∃ more, Aligned next (waiting ++ more) ∧ next.accepted = rings.accepted ++ more ∧
    (∀ entry ∈ more, Produced json entry) ∧ next.view (waiting ++ more) = log

section Refine

variable {json : ArduinoJson} {rings next : RingLog} {waiting : List Waiting} {log : SystemLog} {event : Event}
  {device receivedAt : Bytes}

theorem aligned_start : Aligned {} [] := ⟨rfl, Nat.zero_le _, by decide, rfl, rfl, rfl, rfl⟩

theorem Aligned.with_log (aligned : Aligned rings waiting) (log : SystemLog) :
    Aligned { rings with log } waiting :=
  ⟨aligned.count, aligned.room, aligned.head, aligned.counters, aligned.events, aligned.devices, aligned.lines⟩

theorem slot_pushed (aligned : Aligned rings waiting) :
    rings.pushed.toNat % 64 = (rings.popped.toNat + waiting.length) % 64 := by
  have room := aligned.room
  rw [aligned.counters, UInt32.toNat_add, UInt32.toNat_ofNat']
  omega

theorem refines_refl (aligned : Aligned rings waiting) : Refines json rings waiting rings (rings.view waiting) :=
  ⟨[], by simpa using aligned, by simp, by simp, by simp⟩

theorem enqueue_full (aligned : Aligned rings waiting) (full : waiting.length = 64) :
    rings.enqueue json event device receivedAt =
      (false, { rings with pending := { rings.pending with dropped := rings.pending.dropped + 1 } }) := by
  simp [enqueue, EventRing.push, aligned.count, full]

theorem enqueue_room (aligned : Aligned rings waiting) (space : waiting.length < 64) :
    let entry : Waiting := ⟨event, device, json.serializeJson (rings.log.record event device receivedAt)⟩
    let pushed := rings.enqueue json event device receivedAt
    pushed.1 = true ∧ Aligned pushed.2 (waiting ++ [entry]) ∧ pushed.2.accepted = rings.accepted ++ [entry] ∧
      pushed.2.log = rings.log ∧ pushed.2.pending.dropped = rings.pending.dropped := by
  have slot := slot_pushed aligned
  obtain ⟨count, room, head, counters, events, devices, lines⟩ := aligned
  have pushes : rings.pending.push event = (true, { rings.pending with
      entries := Function.update rings.pending.entries ((rings.pending.head + waiting.length) % 64) event
      count := waiting.length + 1 }) := by
    rw [EventRing.push, count, if_neg (by omega)]
  simp only [enqueue, pushes, if_true]
  refine ⟨trivial, ?_, rfl, rfl, rfl⟩
  constructor
  case count => simp [remember]
  case room =>
    rw [List.length_append, List.length_singleton]
    omega
  case head => exact head
  case counters =>
    simp only [remember, counters, List.length_append, List.length_singleton]
    rw [UInt32.add_assoc, UInt32.ofNat_add]
    rfl
  case events =>
    simp only [remember, List.length_append, List.length_singleton, List.map_append, List.map_singleton]
    rw [window_put space, events]
  case devices =>
    simp only [remember, slot, List.length_append, List.length_singleton, List.map_append, List.map_singleton]
    rw [window_put space, devices]
  case lines =>
    simp only [remember, slot, List.length_append, List.length_singleton, List.map_append, List.map_singleton]
    rw [window_put space, lines]

theorem enqueue_refines (aligned : Aligned rings waiting) :
    Refines json rings waiting (rings.enqueue json event device receivedAt).2
      (((rings.view waiting).push json event device receivedAt).getD
        { rings.view waiting with dropped := rings.pending.dropped + 1 }) := by
  by_cases full : waiting.length = 64
  · have refused : (rings.view waiting).push json event device receivedAt = none := if_pos full
    rw [enqueue_full aligned full, refused]
    refine ⟨[], ?_, by simp, by simp, by simp [view]⟩
    rw [List.append_nil]
    exact ⟨aligned.count, aligned.room, aligned.head, aligned.counters, aligned.events, aligned.devices,
      aligned.lines⟩
  · have space : waiting.length < 64 := by
      have room := aligned.room
      omega
    have taken : (rings.view waiting).push json event device receivedAt = some { rings.view waiting with
        pending := waiting ++ [⟨event, device, json.serializeJson (rings.log.record event device receivedAt)⟩] } :=
      if_neg full
    obtain ⟨-, grown, accepted, log, dropped⟩ :=
      @enqueue_room json _ _ event device receivedAt aligned space
    rw [taken]
    refine ⟨_, grown, accepted, ?_, ?_⟩
    · intro entry member
      obtain rfl := List.mem_singleton.mp member
      exact ⟨_, _, rfl⟩
    · simp [view, log, dropped]

theorem Refines.trans {last : RingLog} {middle target : SystemLog} (first : Refines json rings waiting next middle)
    (second : ∀ waiting, Aligned next waiting → next.view waiting = middle →
      Refines json next waiting last target) : Refines json rings waiting last target := by
  obtain ⟨more, aligned, accepted, produced, viewed⟩ := first
  obtain ⟨rest, aligned, later, others, viewed⟩ := second _ aligned viewed
  refine ⟨more ++ rest, by rwa [List.append_assoc] at aligned, by rw [later, accepted, List.append_assoc], ?_, ?_⟩
  · intro entry member
    rcases List.mem_append.mp member with one | two
    · exact produced entry one
    · exact others entry two
  · rwa [List.append_assoc] at viewed

theorem refines_log (aligned : Aligned rings waiting) {changed target : SystemLog}
    (same : { rings with log := changed }.view waiting = target) :
    Refines json rings waiting { rings with log := changed } target :=
  ⟨[], by simpa using aligned.with_log changed, by simp, by simp, by simpa using same⟩

variable {code route identity : Bytes} {value random now duration : UInt32} {severity method : UInt8}
  {status : UInt16} {files : List SdFile}

theorem add_refines (aligned : Aligned rings waiting) :
    Refines json rings waiting (rings.add json code value severity now receivedAt)
      ((rings.view waiting).add json code value severity now receivedAt) := by
  unfold add SystemLog.add
  split
  · exact refines_refl aligned
  · exact enqueue_refines (aligned.with_log { rings.log with seq := rings.log.seq + 1 })

theorem begin_refines (aligned : Aligned rings waiting) :
    Refines json rings waiting (rings.begin json identity random now receivedAt)
      ((rings.view waiting).begin json identity random now receivedAt) :=
  add_refines (aligned.with_log { rings.log with identity, boot := random })

def summarised (json : ArduinoJson) (log : SystemLog) (now : UInt32) (receivedAt : Bytes) : SystemLog :=
  if log.httpRepeated ≠ 0 then
    { log.add json (ascii "http_repeat_summary") log.httpRepeated 1 now receivedAt with httpRepeated := 0 }
  else log

theorem summarise_refines (aligned : Aligned rings waiting) :
    Refines json rings waiting (rings.summarise json now receivedAt)
      (summarised json (rings.view waiting) now receivedAt) := by
  unfold summarise summarised
  by_cases repeated : rings.log.httpRepeated ≠ 0
  · rw [if_pos repeated, if_pos (show (rings.view waiting).httpRepeated ≠ 0 from repeated)]
    apply (add_refines aligned).trans
    intro waiting aligned viewed
    have reset := congrArg (fun log : SystemLog => { log with httpRepeated := 0 }) viewed
    exact refines_log aligned reset
  · rw [if_neg repeated, if_neg (show ¬(rings.view waiting).httpRepeated ≠ 0 from repeated)]
    exact refines_refl aligned

theorem http_refines (aligned : Aligned rings waiting) :
    Refines json rings waiting (rings.http json route method status duration now receivedAt)
      ((rings.view waiting).http json route method status duration now receivedAt) := by
  by_cases quiet : (!rings.log.detailedRequests now && rings.log.lastHttpCode = route &&
      rings.log.lastHttpStatus = status && decide (now - rings.log.lastHttpMs < 10000)) = true
  · have counted : rings.http json route method status duration now receivedAt =
      { rings with log := { rings.log with httpRepeated := rings.log.httpRepeated + 1 } } := if_pos quiet
    have listed : (rings.view waiting).http json route method status duration now receivedAt =
      { rings.view waiting with httpRepeated := rings.log.httpRepeated + 1 } := if_pos quiet
    rw [counted, listed]
    exact refines_log aligned rfl
  · have reported : rings.http json route method status duration now receivedAt =
      ({ rings.summarise json now receivedAt with log := { (rings.summarise json now receivedAt).log with
          lastHttpCode := route, lastHttpStatus := status, lastHttpMs := now
          seq := (rings.summarise json now receivedAt).log.seq + 1 } }.enqueue json
        { boot := rings.log.boot, seq := (rings.summarise json now receivedAt).log.seq + 1, ms := now, value := 0
          severity := if status ≥ 400 then 2 else 1, code := SystemLog.strlcpy route, durationMs := duration
          httpStatus := status, method, version := 1 } (ascii "logger") receivedAt).2 := if_neg quiet
    have listed : (rings.view waiting).http json route method status duration now receivedAt =
      { summarised json (rings.view waiting) now receivedAt with
          lastHttpCode := route, lastHttpStatus := status, lastHttpMs := now
          seq := (summarised json (rings.view waiting) now receivedAt).seq + 1 }.remember json
        { boot := rings.log.boot, seq := (summarised json (rings.view waiting) now receivedAt).seq + 1, ms := now
          value := 0, severity := if status ≥ 400 then 2 else 1, code := SystemLog.strlcpy route
          durationMs := duration, httpStatus := status, method, version := 1 } receivedAt := if_neg quiet
    rw [reported, listed]
    apply (summarise_refines aligned).trans
    intro waiting aligned viewed
    rw [← viewed]
    exact enqueue_refines (aligned.with_log _)

theorem recover_view (log : SystemLog) (pending : List Waiting) (dropped : UInt32) :
    SystemLog.recover json { log with pending, dropped } files event device =
      { log.recover json files event device with pending, dropped } := by
  have one (log : SystemLog) (file : SdFile) :
      SystemLog.recoverFrom json event device { log with pending, dropped } file =
        { SystemLog.recoverFrom json event device log file with pending, dropped } := by
    unfold SystemLog.recoverFrom
    split
    · split <;> rfl
    · rfl
  have all (log : SystemLog) : files.foldl (SystemLog.recoverFrom json event device) { log with pending, dropped } =
      { files.foldl (SystemLog.recoverFrom json event device) log with pending, dropped } := by
    induction files generalizing log with
    | nil => rfl
    | cons file rest ih => rw [List.foldl_cons, List.foldl_cons, one, ih]
  unfold SystemLog.recover
  by_cases other : device ≠ log.dashDevice
  · rw [if_pos other, if_pos other, all]
  · rw [if_neg other, if_neg other]

theorem acceptDash_refines (aligned : Aligned rings waiting) :
    Refines json rings waiting (rings.acceptDash json files event device receivedAt).2
      ((rings.view waiting).acceptDash json files event device receivedAt).2 := by
  have scanned := @recover_view json event device files rings.log waiting rings.pending.dropped
  unfold acceptDash SystemLog.acceptDash
  by_cases invalid : event.version ≠ 1 ∨ safeCode event.code.bytes = false ∨ event.seq = 0
  · rw [if_pos invalid, if_pos invalid]
    exact refines_refl aligned
  · rw [if_neg invalid, if_neg invalid]
    by_cases unready : (!rings.log.ready) = true
    · rw [if_pos unready, if_pos (show (!(rings.view waiting).ready) = true from unready)]
      exact refines_refl aligned
    · rw [if_neg unready, if_neg (show ¬(!(rings.view waiting).ready) = true from unready)]
      simp only [view, scanned]
      generalize rings.log.recover json files event device = found
      have moved := aligned.with_log found
      by_cases known : device = found.dashDevice ∧ event.boot = found.dashBoot ∧ event.seq ≤ found.dashSeq
      · rw [if_pos known, if_pos known]
        exact refines_log aligned rfl
      · rw [if_neg known, if_neg known]
        by_cases busy : found.dashPendingSeq ≠ 0
        · rw [if_pos busy, if_pos busy]
          exact refines_log aligned rfl
        · rw [if_neg busy, if_neg busy]
          have entered := @enqueue_refines json _ _ event (ascii "dash-" ++ device) receivedAt moved
          by_cases full : waiting.length = 64
          · have refused : SystemLog.push json ({ rings with log := found }.view waiting) event
                (ascii "dash-" ++ device) receivedAt = none := if_pos full
            rw [refused] at entered
            simp only [view] at refused
            rw [enqueue_full moved full] at entered ⊢
            rw [refused]
            exact entered
          · have space : waiting.length < 64 := by
              have room := aligned.room
              omega
            have taken : SystemLog.push json ({ rings with log := found }.view waiting) event
                (ascii "dash-" ++ device) receivedAt = some _ := if_neg full
            rw [taken] at entered
            simp only [view] at taken
            rw [taken, if_pos (enqueue_room moved space).1]
            apply entered.trans
            intro waiting aligned viewed
            have marked := congrArg (fun log : SystemLog =>
              { log with dashPendingBoot := event.boot, dashPendingSeq := event.seq }) viewed
            exact refines_log aligned marked

end Refine

/-- A name that `loop` gives to a log of this device. -/
def OwnLog (device path : Bytes) : Prop :=
  ∃ (dateStamp : Bytes) (segment : UInt32),
    path = device ++ ascii "-" ++ dateStamp ++ ascii "-" ++ padded segment ++ ascii ".log"

inductive Drains (rings : RingLog) (files : List SdFile) (waiting : List Waiting) :
    RingLog × List SdFile × Drained → Prop
  | nothing (log : SystemLog) : Drains rings files waiting ({ rings with log }, files, .nothing)
  | part {entry : Waiting} {rest : List Waiting} (front : waiting = entry :: rest) {path : Bytes}
      (own : OwnLog entry.device path) {printed : Nat} (short : printed ≤ entry.line.length) (log : SystemLog) :
      Drains rings files waiting
        ({ rings with log }, SdFile.append path (entry.line.take printed) files, .part path printed)
  | line {entry : Waiting} {rest : List Waiting} (front : waiting = entry :: rest) {path : Bytes}
      (own : OwnLog entry.device path) {next : RingLog} {after : List SdFile} (aligned : Aligned next rest)
      (accepted : next.accepted = rings.accepted)
      (kept : after = SdFile.append path (entry.line ++ [10]) files ∨ ∃ oldest, oldest ≠ path ∧
        after = SdFile.remove oldest (SdFile.append path (entry.line ++ [10]) files)) :
      Drains rings files waiting (next, after, .line entry path)

section Loop

variable {rings : RingLog} {entry : Waiting} {waiting rest : List Waiting} {files : List SdFile} {path : Bytes}

theorem foldl_older_ne (names : List Bytes) {oldest : Option Bytes} (apart : oldest ≠ some path) :
    names.foldl (SystemLog.older path) oldest ≠ some path := by
  induction names generalizing oldest with
  | nil => exact apart
  | cons name rest ih =>
    apply ih
    unfold SystemLog.older
    split
    · rename_i found
      exact fun same => found.1 (Option.some.inj same)
    · exact apart

theorem pruned_cases (device : Bytes) :
    SystemLog.pruned files device path = files ∨
      ∃ oldest, oldest ≠ path ∧ SystemLog.pruned files device path = SdFile.remove oldest files := by
  unfold SystemLog.pruned
  cases found : SystemLog.prune files device path with
  | none => exact .inl rfl
  | some oldest =>
    refine .inr ⟨oldest, ?_, rfl⟩
    rintro rfl
    unfold SystemLog.prune at found
    simp only at found
    split at found
    · exact foldl_older_ne _ (by simp) found
    · cases found

theorem front_entry (aligned : Aligned rings (entry :: rest)) :
    rings.pending.front = some entry.event ∧ rings.devices (rings.popped.toNat % 64) = entry.device ∧
      rings.lines (rings.popped.toNat % 64) = entry.line := by
  obtain ⟨count, -, head, -, events, devices, lines⟩ := aligned
  simp only [List.length_cons, window_succ, List.map_cons, List.cons.injEq] at count events devices lines
  refine ⟨?_, devices.1, lines.1⟩
  rw [EventRing.front, if_pos (by omega), ← events.1, Nat.mod_eq_of_lt head]

theorem front_none (aligned : Aligned rings []) : rings.pending.front = none := by
  simp [EventRing.front, aligned.count]

theorem popped_toNat (popped : UInt32) : (popped + 1).toNat % 64 = (popped.toNat + 1) % 64 := by
  rw [UInt32.toNat_add, UInt32.toNat_one]
  omega

theorem Aligned.pop (aligned : Aligned rings (entry :: rest)) (log : SystemLog) :
    Aligned { rings with
      log := log
      pending := rings.pending.pop
      lines := Function.update rings.lines (rings.popped.toNat % 64) []
      popped := rings.popped + 1 } rest := by
  obtain ⟨count, room, head, counters, events, devices, lines⟩ := aligned
  simp only [List.length_cons, window_succ, List.map_cons, List.cons.injEq] at count room counters events devices lines
  have popping : rings.pending.pop =
      { rings.pending with head := (rings.pending.head + 1) % 64, count := rest.length } := by
    rw [EventRing.pop, if_pos (by omega), count]
    rfl
  constructor
  case count => rw [popping]
  case room => omega
  case head =>
    rw [popping]
    exact Nat.mod_lt _ (by decide)
  case counters =>
    rw [counters, UInt32.ofNat_add, UInt32.add_comm (UInt32.ofNat rest.length), ← UInt32.add_assoc]
    rfl
  case events =>
    rw [popping]
    exact window_mod.trans events.2
  case devices =>
    show window 64 rings.devices (rings.popped + 1).toNat rest.length = _
    rw [← window_mod, popped_toNat, window_mod, devices.2]
  case lines =>
    show window 64 (Function.update _ _ _) (rings.popped + 1).toNat rest.length = _
    rw [← window_mod, popped_toNat, window_mod, window_clear (by omega), lines.2]

theorem drain_cases (aligned : Aligned rings (entry :: rest)) {dateStamp : Bytes} {card : CardReplies} :
    Drains rings files (entry :: rest) (rings.drain files entry.event dateStamp card) := by
  obtain ⟨-, device, line⟩ := front_entry aligned
  unfold drain
  simp only [device, line]
  generalize (if entry.device ++ ascii "-" ++ dateStamp ++ ascii "-" <+:
    rings.log.active (decide (ascii "dash-" <+: entry.device)) then
    rings.log.segment (decide (ascii "dash-" <+: entry.device)) else 0) = segment
  split
  · exact .nothing _
  · split
    · exact .nothing _
    · split
      · exact .nothing _
      · split
        · rename_i short
          have within : card.printed ≤ entry.line.length := by
            rw [List.length_append, List.length_singleton] at short
            omega
          rw [List.take_append_of_le_length within]
          exact .part rfl ⟨dateStamp, _, rfl⟩ within _
        · rename_i complete
          rw [List.take_of_length_le (Nat.le_of_not_lt complete)]
          have next := aligned.pop
          refine .line rfl ⟨dateStamp, _, rfl⟩ (next _) rfl ?_
          split
          · exact pruned_cases _
          · exact .inl rfl

theorem Drains.of_log {log : SystemLog} {result : RingLog × List SdFile × Drained}
    (drains : Drains { rings with log } files waiting result) : Drains rings files waiting result := by
  cases drains with
  | nothing log => exact .nothing log
  | part front own short log => exact .part front own short log
  | line front own aligned accepted kept => exact .line front own aligned accepted kept

theorem loop_cases (aligned : Aligned rings waiting) {now : UInt32} {dateStamp : Bytes} {sdReady : Bool}
    {card : CardReplies} : Drains rings files waiting (rings.loop files now dateStamp sdReady card) := by
  unfold loop
  simp only
  split
  · exact .nothing _
  · cases waiting with
    | nil =>
      rw [front_none aligned]
      exact .nothing _
    | cons entry rest =>
      rw [(front_entry aligned).1]
      exact (drain_cases (aligned.with_log { rings.log with ready := sdReady, lastDrain := now })).of_log

theorem loop_refines (aligned : Aligned rings waiting) (now : UInt32) (dateStamp : Bytes) (sdReady : Bool)
    {printed : Nat} (complete : ∀ entry ∈ waiting, entry.line.length < printed) :
    let outcome := rings.loop files now dateStamp sdReady ⟨true, printed, true⟩
    let listed := (rings.view waiting).loop files now dateStamp sdReady
    ∃ rest, Aligned outcome.1 rest ∧ outcome.1.view rest = listed.1 ∧ outcome.2.1 = listed.2 := by
  intro outcome listed
  by_cases early : now - rings.log.lastDrain < 250
  · have waits : outcome = _ := if_pos early
    have same : listed = _ := if_pos early
    rw [waits, same]
    exact ⟨waiting, aligned.with_log _, rfl, rfl⟩
  · have drains : outcome = _ := if_neg early
    cases waiting with
    | nil =>
      have same : listed = _ := if_neg early
      rw [drains, same, front_none aligned]
      exact ⟨[], aligned.with_log _, rfl, rfl⟩
    | cons entry rest =>
      obtain ⟨front, device, line⟩ := front_entry aligned
      rw [front] at drains
      have room := complete entry List.mem_cons_self
      rw [← line] at room
      obtain ⟨event, ownDevice, ownLine⟩ := entry
      subst device line
      let source := decide (ascii "dash-" <+: rings.devices (rings.popped.toNat % 64))
      let start := rings.devices (rings.popped.toNat % 64) ++ ascii "-" ++ dateStamp ++ ascii "-"
      let segment := if start <+: rings.log.active source then rings.log.segment source else 0
      let path := start ++ padded segment ++ ascii ".log"
      by_cases unready : (!sdReady) = true
      · have drained : outcome = _ := drains.trans (if_pos unready)
        have same : listed = _ := (if_neg early).trans (if_pos unready)
        rw [drained, same]
        exact ⟨_, aligned.with_log _, rfl, rfl⟩
      · have ready : outcome = _ := drains.trans ((if_neg unready).trans (if_neg Bool.false_ne_true))
        have awake : listed = _ := (if_neg early).trans (if_neg unready)
        by_cases full : SdFile.size files path ≥ 256 * 1024
        · have rotated : outcome = _ := ready.trans (if_pos full)
          have same : listed = _ := awake.trans (if_pos full)
          rw [rotated, same]
          clear drains ready awake rotated same
          refine ⟨_, aligned.with_log _, ?_, rfl⟩
          simp only [view, Function.update_idem]
          rfl
        · have within : ¬printed < (rings.lines (rings.popped.toNat % 64) ++ [10]).length := by
            rw [List.length_append, List.length_singleton]
            omega
          have drained : outcome = _ := ready.trans ((if_neg full).trans (if_neg within))
          have same : listed = _ := awake.trans (if_neg full)
          rw [drained, same]
          clear drains ready awake drained same
          refine ⟨rest, aligned.pop _, ?_, ?_⟩
          · simp only [view, EventRing.pop_dropped]
            rfl
          · have taken := List.take_of_length_le (Nat.le_of_not_lt within)
            simp only [taken, Bool.and_true, decide_eq_true_eq]
            rfl

end Loop

end RingLog

end ApexiDevices
