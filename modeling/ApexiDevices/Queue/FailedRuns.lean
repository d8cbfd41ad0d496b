import ApexiDevices.Queue.FailedCalls

set_option autoImplicit false

/-!
# Runs of the queue in which filesystem calls fail

A run is a sequence of boots, calls and power losses. Within an enqueue or a
removal any filesystem call of the given kinds may fail.
-/

namespace ApexiDevices

open Device

namespace StoreForwardQueue

variable {faults : Faults} {may : FsOp → Prop} {disk : Disk} {queue : StoreForwardQueue} {live : List Bytes}

theorem readPayload_asks (polled : Bool) (length rounds : Nat) (file : File) (payload : Bytes) :
    (readPayload polled length rounds file payload).Asks Disk.reads := by
  induction rounds generalizing file payload with
  | zero => exact Prog.asks_pure
  | succ rounds ih =>
    unfold readPayload
    split
    case isFalse => exact Prog.asks_pure
    case isTrue =>
      cases polled
      case' true => refine Prog.Asks.bind (Prog.asks_request.mpr trivial) fun size => ?_
      all_goals
        refine Prog.Asks.bind Prog.asks_pure fun available => ?_
        dsimp only
        split
        · exact Prog.asks_pure
        · refine Prog.Asks.bind (fileRead_asks _ _) fun read => ?_
          split
          · exact Prog.asks_pure
          · exact ih _ _

theorem peek_asks (queue : StoreForwardQueue) : queue.peek.Asks Disk.reads := by
  unfold peek
  split
  · exact Prog.asks_pure
  · refine Prog.Asks.bind (Prog.asks_request.mpr trivial) fun opened =>
      Prog.Asks.bind (Prog.asks_request.mpr trivial) fun sought => ?_
    split
    · exact Prog.asks_pure
    · refine Prog.Asks.bind (fileRead_asks _ _) fun read => ?_
      dsimp only
      split
      · exact Prog.asks_pure
      · refine Prog.Asks.bind (readPayload_asks _ _ _ _ _) fun body => ?_
        split <;> exact Prog.asks_pure

theorem peek_endures (enduring : Enduring faults queue disk.stored live) :
    (Disk.failing may).Observes disk queue.peek (queue.peeked live) := by
  obtain ⟨metadata, pending, lasting, rfl⟩ := enduring
  have total := lasting.counts.total
  apply Disk.observes_failing queue.peek_asks
  generalize order : fifo queue.metadata.activeSegment pending = payloads at total ⊢
  cases payloads with
  | nil =>
    unfold peek
    simp only [total, List.length_nil, decide_true, Bool.or_true, if_true]
    exact ⟨rfl, rfl, rfl⟩
  | cons payload rest =>
    obtain ⟨later, held, -⟩ := Counts.oldest lasting.counts order
    have good : Storable payload := lasting.storable _ payload (held ▸ List.mem_cons_self)
    obtain ⟨whole, left, filed⟩ := lasting.filed queue.oldestSegment
    rw [held] at filed
    obtain ⟨present, within, bytes⟩ := shape_bytes filed.bytes filed.shape
    rw [records_cons, List.append_assoc] at bytes
    have some : queue.pendingRecords ≠ 0 := by simp [total]
    exact peekRecord_observes lasting.ready some good present within bytes

/-- What replay reads and retires, record after record, on a filesystem that works again. -/
def replay (queue : StoreForwardQueue) (disk : Disk) : List Bytes :=
  ((drain queue.pendingRecords queue).exec Disk.handle disk).1

theorem drain_endures (enduring : Enduring faults queue disk.stored live) :
    (Disk.failing fun _ => False).wp (drain live.length queue) (fun found _ => found = live) (fun _ => True) disk := by
  have works (fails : MayRefuse fun _ => False) : faults.pop := by
    obtain ⟨_, impossible, _⟩ := fails
    exact impossible.elim
  induction live generalizing queue disk with
  | nil => exact ⟨trivial, rfl⟩
  | cons payload rest ih =>
    refine (peek_endures enduring).then ?_
    simp only [peeked, Bool.not_true, Bool.false_eq_true, if_false]
    refine Model.wp_then (pop_endures false (enduring.withError "") works) (fun _ _ => trivial) ?_
    intro outcome last left
    have gone : disk.stored.commits < last.stored.commits := by
      apply left.done.resolve_right
      rintro ⟨_, impossible, _⟩
      exact impossible
    have later := left.enduring
    rw [if_pos gone] at later
    refine Model.wp_then (ih later) (fun _ _ => trivial) ?_
    rintro found after rfl
    exact ⟨trivial, rfl⟩

theorem replay_endures (enduring : Enduring faults queue disk.stored live) : queue.replay disk = live := by
  have total : queue.pendingRecords = live.length := by
    obtain ⟨metadata, pending, lasting, rfl⟩ := enduring
    exact lasting.counts.total
  unfold replay
  rw [total]
  have run := @Disk.runs_failing _ (fun _ => False) (drain live.length queue) disk
  have found := Model.wp_runs (drain_endures enduring) run
  exact found

def Removal.discarded : Removal → Bool
  | .pop discarded | .popIfMatches _ discarded => discarded

/-- What the two ways of removing the head have in common. -/
structure Retired (faults : Faults) (queue : StoreForwardQueue) (disk : Disk) (live : List Bytes) (discarded : Bool)
    (next : StoreForwardQueue) (last : Disk) : Prop where
  enduring : Enduring faults next last.stored
    (if disk.stored.commits < last.stored.commits then live.tail else live)
  dropped : next.droppedRecords =
    if disk.stored.commits < last.stored.commits then queue.dropsAfter discarded else queue.droppedRecords

theorem Retired.idle {discarded : Bool} {next : StoreForwardQueue} (enduring : Enduring faults next disk.stored live)
    (dropped : next.droppedRecords = queue.droppedRecords) : Retired faults queue disk live discarded next disk := by
  refine ⟨?_, ?_⟩
  · rwa [if_neg (Nat.lt_irrefl _)]
  · rwa [if_neg (Nat.lt_irrefl _)]

theorem Retired.survives {discarded : Bool} {next : StoreForwardQueue} {last : Disk}
    (retired : Retired faults queue disk live discarded next last) : Survives last.stored
      (if disk.stored.commits < last.stored.commits then live.tail else live) :=
  retired.enduring.survives

theorem remove_endures (removal : Removal) (enduring : Enduring faults queue disk.stored live)
    (refuses : MayRefuse may → faults.pop) :
    (Disk.failing may).wp (queue.remove removal)
      (fun outcome => Retired faults queue disk live removal.discarded outcome.2)
      (fun last => Survives last.stored
        (if disk.stored.commits < last.stored.commits then live.tail else live)) disk := by
  have popped {payload : Bytes} {rest : List Bytes} (error : String) (discarded : Bool)
      (enduring : Enduring faults queue disk.stored (payload :: rest)) :
      (Disk.failing may).wp ({ queue with lastError := error }.pop discarded)
        (fun outcome => Retired faults queue disk (payload :: rest) discarded outcome.2)
        (fun last => Survives last.stored
          (if disk.stored.commits < last.stored.commits then rest else payload :: rest)) disk :=
    Model.wp_mono (pop_endures discarded (enduring.withError error) refuses)
      (fun _ _ removed => ⟨removed.enduring, removed.dropped⟩) fun _ survives => survives
  have none : live = [] → queue.pendingRecords = 0 := by
    rintro rfl
    obtain ⟨metadata, pending, lasting, order⟩ := enduring
    rw [lasting.counts.total, order, List.length_nil]
  -- `popIfMatches` peeks first, which may only change the last error
  cases removal with
  | pop discarded =>
    cases live with
    | nil =>
      have retired := @Retired.idle faults disk queue [] discarded queue enduring rfl
      refine Model.wp_mono (pop_nothing discarded (.inr (none rfl))) ?_ fun last same => same ▸ retired.survives
      rintro outcome last ⟨rfl, rfl⟩
      exact retired
    | cons payload rest => exact popped queue.lastError discarded enduring
  | popIfMatches submitted discarded =>
    have peeks := @peek_endures faults may disk queue live enduring
    cases live with
    | nil =>
      have retired := @Retired.idle faults disk queue [] discarded queue enduring rfl
      exact peeks.then ⟨retired.survives, retired⟩
    | cons payload rest =>
      refine peeks.then ?_
      simp only [peeked, Bool.not_true, Bool.false_eq_true, if_false]
      by_cases same : payload = submitted
      · simp only [same, ne_eq, not_true_eq_false, if_false]
        exact same ▸ popped "" discarded enduring
      · simp only [same, ne_eq, not_false_eq_true, if_true]
        have retired := @Retired.idle faults disk queue (payload :: rest) discarded _ (enduring.withError "") rfl
        exact ⟨retired.survives, retired⟩

/-- A device with or without power, the payloads that replay owes, and the records dropped since the last boot
as the counter should have them. -/
structure Tracked where
  queue : Option StoreForwardQueue
  disk : Disk
  live : List Bytes
  drops : Nat

inductive Act where
  | boot (maximumBytes : Nat)
  | bootCut (maximumBytes : Nat)
  | enqueue (payload : Bytes)
  | enqueueCut (payload : Bytes)
  | remove (removal : Removal)
  | removeCut (removal : Removal)
  | powerLoss

namespace Tracked

inductive Step (faults : Faults) : Tracked → Act → Tracked → Prop
  -- What is pending after a boot is what replay then finds; what it must contain is a theorem.
  | boot {disk last : Disk} {live : List Bytes} {drops : Nat} {ok : Bool} {queue : StoreForwardQueue}
      (maximumBytes : Nat)
      (run : Disk.device.Runs (StoreForwardQueue.begin {} true maximumBytes) disk (ok, queue) last) :
      Step faults ⟨none, disk, live, drops⟩ (.boot maximumBytes)
        ⟨some queue, last, if queue.ready then queue.replay last else live, queue.droppedRecords⟩
  | bootCut {disk last : Disk} {live : List Bytes} {drops : Nat} (maximumBytes : Nat)
      (cut : Disk.device.Cut (StoreForwardQueue.begin {} true maximumBytes) disk last) :
      Step faults ⟨none, disk, live, drops⟩ (.bootCut maximumBytes) ⟨none, last, live, drops⟩
  | enqueue {disk last : Disk} {live : List Bytes} {drops : Nat} {ok : Bool} {queue next : StoreForwardQueue}
      (payload : Bytes) (run : (Disk.failing faults.enqueue).Runs (queue.enqueue payload) disk (ok, next) last) :
      Step faults ⟨some queue, disk, live, drops⟩ (.enqueue payload)
        ⟨some next, last, live.drop (queue.removedBy disk last) ++ if ok then [payload] else [],
          drops + queue.removedBy disk last⟩
  | enqueueCut {disk last : Disk} {live : List Bytes} {drops : Nat} {queue : StoreForwardQueue} (payload : Bytes)
      (cut : (Disk.failing faults.enqueue).Cut (queue.enqueue payload) disk last) :
      Step faults ⟨some queue, disk, live, drops⟩ (.enqueueCut payload)
        ⟨none, last, live.drop (queue.removedBy disk last), drops⟩
  | remove {disk last : Disk} {live : List Bytes} {drops : Nat} {ok : Bool} {queue next : StoreForwardQueue}
      (removal : Removal) (run : (Disk.failing faults.removal).Runs (queue.remove removal) disk (ok, next) last) :
      Step faults ⟨some queue, disk, live, drops⟩ (.remove removal)
        ⟨some next, last, if disk.stored.commits < last.stored.commits then live.tail else live,
          if disk.stored.commits < last.stored.commits ∧ removal.discarded then drops + 1 else drops⟩
  | removeCut {disk last : Disk} {live : List Bytes} {drops : Nat} {queue : StoreForwardQueue} (removal : Removal)
      (cut : (Disk.failing faults.removal).Cut (queue.remove removal) disk last) :
      Step faults ⟨some queue, disk, live, drops⟩ (.removeCut removal)
        ⟨none, last, if disk.stored.commits < last.stored.commits then live.tail else live, drops⟩
  | powerLoss {disk : Disk} {live : List Bytes} {drops : Nat} {queue : StoreForwardQueue} :
      Step faults ⟨some queue, disk, live, drops⟩ .powerLoss ⟨none, disk, live, drops⟩

/-- The worlds that runs reach from an empty filesystem when each step meets the condition. -/
inductive Reached (faults : Faults) (meets : Tracked → Act → Tracked → Prop) : Tracked → Prop
  | blank (partition : String) (partitionSize : Nat) (totalBytes : UInt32) :
      Reached faults meets ⟨none, StoreForwardQueue.blank partition partitionSize totalBytes, [], 0⟩
  | step {world next : Tracked} {act : Act} (before : Reached faults meets world)
      (taken : Step faults world act next) (met : meets world act next) : Reached faults meets next

/-- No enqueue appends behind bytes that a failed append has left, nor to a segment whose replay head or place
in the order a boot would take from an older metadata record. -/
def Appends (faults : Faults) (world : Tracked) : Act → Tracked → Prop
  | .enqueue payload, _ | .enqueueCut payload, _ => ∀ queue, world.queue = some queue → queue.ready = true →
      queue.full payload ∨ Careful faults queue world.disk.stored
  | _, _ => True

/-- Moreover no truncation is refused whose drop has been counted. -/
def Counts (faults : Faults) (world : Tracked) (act : Act) (next : Tracked) : Prop :=
  world.Appends faults act next ∧ ∀ payload, act = .enqueue payload → ¬Overcounts world.disk next.disk

def saturated (drops : Nat) : Nat := min (2 ^ 32 - 1) drops

/-- What holds in every world that is reached; `exact` adds the drop count. -/
def Sound (faults : Faults) (exact : Prop) (world : Tracked) : Prop :=
  match world.queue with
  | none => Survives world.disk.stored world.live
  | some queue => queue.ready = false ∧ Survives world.disk.stored world.live ∨
      Enduring faults queue world.disk.stored world.live ∧
        (exact → queue.droppedRecords = saturated world.drops)

theorem saturated_add (drops more : Nat) : saturatingAdd (saturated drops) more = saturated (drops + more) := by
  unfold saturatingAdd saturated
  dsimp only
  split <;> omega

theorem saturated_of_fits {drops : Nat} (fits : drops < 2 ^ 32) : drops = saturated drops := by
  unfold saturated
  omega

variable {exact : Prop} {world next : Tracked}

theorem boot_wp (maximumBytes : Nat) {metadata : Metadata} {found : Segment → List Bytes}
    (held : Holds disk.stored metadata found) (kept : live.Sublist (fifo metadata.activeSegment found)) :
    Disk.device.wp (StoreForwardQueue.begin {} true maximumBytes)
      (fun outcome last => outcome.2.ready = false ∧ Survives last.stored live ∨
        ∃ pending, Ready outcome.2 last.stored pending ∧
          live.Sublist (fifo outcome.2.metadata.activeSegment pending) ∧
          outcome.2.droppedRecords = metadata.droppedRecords)
      (fun last => Survives last.stored live) disk := by
  refine begin_wp {} maximumBytes metadata found held ?_ ?_ ?_
  · intro last loaded holds active _
    exact ⟨loaded, found, holds, by rwa [active]⟩
  · intro _ last off _ _ _
    exact .inl ⟨off, metadata, found, held, kept⟩
  · intro _ _ last ready settled active dropped _ _
    exact .inr ⟨found, settled, by rwa [active], dropped⟩

theorem Sound.survives (sound : world.Sound faults exact) : Survives world.disk.stored world.live := by
  obtain ⟨queue, disk, live, drops⟩ := world
  cases queue with
  | none => exact sound
  | some queue =>
    rcases sound with ⟨-, survives⟩ | ⟨enduring, -⟩
    · exact survives
    · exact enduring.survives

theorem sound_boot {disk last : Disk} {ok : Bool} {queue : StoreForwardQueue} {maximumBytes : Nat}
    (survives : Survives disk.stored live)
    (run : Disk.device.Runs (StoreForwardQueue.begin {} true maximumBytes) disk (ok, queue) last) :
    Sound faults exact
      ⟨some queue, last, if queue.ready then queue.replay last else live, queue.droppedRecords⟩ := by
  obtain ⟨metadata, found, held, finds⟩ := survives
  rcases Model.wp_runs (boot_wp maximumBytes held finds) run with ⟨off, kept⟩ | ⟨pending, ready, kept⟩
  · refine .inl ⟨off, ?_⟩
    simp only [show queue.ready = false from off, Bool.false_eq_true, if_false]
    exact kept
  · have enduring : Enduring faults queue last.stored (fifo queue.metadata.activeSegment pending) :=
      ⟨_, pending, .of_ready ready, rfl⟩
    have on : queue.ready = true := ready.ready
    refine .inr ⟨?_, fun _ => saturated_of_fits ready.fits.droppedRecords⟩
    simp only [on, if_true, replay_endures enduring]
    exact enduring

theorem sound_enqueue {disk last : Disk} {drops : Nat} {ok : Bool} {queue next : StoreForwardQueue} {payload : Bytes}
    (sound : Sound faults exact ⟨some queue, disk, live, drops⟩)
    (met : queue.ready = true → queue.full payload ∨ Careful faults queue disk.stored)
    (counted : exact → ¬Overcounts disk last)
    (run : (Disk.failing faults.enqueue).Runs (queue.enqueue payload) disk (ok, next) last) :
    Sound faults exact ⟨some next, last, live.drop (queue.removedBy disk last) ++ if ok then [payload] else [],
      drops + queue.removedBy disk last⟩ := by
  rcases sound with ⟨off, survives⟩ | ⟨enduring, drops⟩
  · obtain ⟨error, observed⟩ := @enqueue_refused (Disk.failing faults.enqueue) queue disk payload (.inl off)
    obtain ⟨same, rfl⟩ := Model.wp_runs observed run
    obtain ⟨rfl, rfl⟩ := Prod.mk.inj same
    refine .inl ⟨off, ?_⟩
    rw [removedBy_same last rfl, List.drop_zero, if_neg Bool.false_ne_true, List.append_nil]
    exact survives
  · have on : queue.ready = true := by
      obtain ⟨_, _, lasting, -⟩ := enduring
      exact lasting.ready
    have left := Model.wp_runs (enqueue_endures payload enduring (met on)) run
    refine .inr ⟨left.enduring, fun counts => ?_⟩
    rw [left.dropped.resolve_right (counted counts), drops counts, saturated_add]

theorem sound_remove {disk last : Disk} {drops : Nat} {ok : Bool} {queue next : StoreForwardQueue}
    {removal : Removal} (sound : Sound faults exact ⟨some queue, disk, live, drops⟩)
    (run : (Disk.failing faults.removal).Runs (queue.remove removal) disk (ok, next) last) :
    Sound faults exact ⟨some next, last, if disk.stored.commits < last.stored.commits then live.tail else live,
      if disk.stored.commits < last.stored.commits ∧ removal.discarded then drops + 1 else drops⟩ := by
  rcases sound with ⟨off, survives⟩ | ⟨enduring, drops⟩
  · have quiet : queue = next ∧ disk = last := by
      cases removal with
      | pop discarded =>
        obtain ⟨same, rfl⟩ := Model.wp_runs (pop_nothing discarded (.inl off)) run
        exact ⟨(Prod.mk.inj same).2.symm, rfl⟩
      | popIfMatches submitted discarded =>
        obtain ⟨same, rfl⟩ := Model.wp_runs (popIfMatches_closed submitted discarded off) run
        exact ⟨(Prod.mk.inj same).2.symm, rfl⟩
    obtain ⟨rfl, rfl⟩ := quiet
    refine .inl ⟨off, ?_⟩
    rw [if_neg (Nat.lt_irrefl _)]
    exact survives
  · have refuses (allowed : MayRefuse faults.removal) : faults.pop := by
      obtain ⟨_, fails, _⟩ := allowed
      exact fails
    have left := Model.wp_runs (remove_endures removal enduring refuses) run
    refine .inr ⟨left.enduring, fun counts => ?_⟩
    have before : queue.metadata.droppedRecords = saturated _ := drops counts
    rw [left.dropped]
    by_cases gone : disk.stored.commits < last.stored.commits
    · rw [if_pos gone, dropsAfter]
      cases removal.discarded with
      | false => simpa using before
      | true =>
        have added := saturated_add ‹_› 1
        rw [← before] at added
        simpa [gone] using added
    · simp only [gone, if_false, false_and]
      exact before

theorem sound_cut {disk last : Disk} {drops : Nat} {queue : StoreForwardQueue} {payload : Bytes}
    (sound : Sound faults exact ⟨some queue, disk, live, drops⟩)
    (met : queue.ready = true → queue.full payload ∨ Careful faults queue disk.stored)
    (cut : (Disk.failing faults.enqueue).Cut (queue.enqueue payload) disk last) :
    Survives last.stored (live.drop (queue.removedBy disk last)) := by
  rcases sound with ⟨off, survives⟩ | ⟨enduring, -⟩
  · obtain ⟨error, observed⟩ := @enqueue_refused (Disk.failing faults.enqueue) queue disk payload (.inl off)
    obtain rfl := Model.wp_cut observed cut
    rwa [removedBy_same last rfl, List.drop_zero]
  · have on : queue.ready = true := by
      obtain ⟨_, _, lasting, -⟩ := enduring
      exact lasting.ready
    have left := Model.wp_cut (enqueue_endures payload enduring (met on)) cut
    exact left

theorem sound_removeCut {disk last : Disk} {drops : Nat} {queue : StoreForwardQueue} {removal : Removal}
    (sound : Sound faults exact ⟨some queue, disk, live, drops⟩)
    (cut : (Disk.failing faults.removal).Cut (queue.remove removal) disk last) :
    Survives last.stored (if disk.stored.commits < last.stored.commits then live.tail else live) := by
  rcases sound with ⟨off, survives⟩ | ⟨enduring, -⟩
  · have quiet : last = disk := by
      cases removal with
      | pop discarded =>
        have left := Model.wp_cut (pop_nothing discarded (.inl off)) cut
        exact left
      | popIfMatches submitted discarded =>
        have left := Model.wp_cut (popIfMatches_closed submitted discarded off) cut
        exact left
    obtain rfl := quiet
    rwa [if_neg (Nat.lt_irrefl _)]
  · have refuses (allowed : MayRefuse faults.removal) : faults.pop := by
      obtain ⟨_, fails, _⟩ := allowed
      exact fails
    have left := Model.wp_cut (remove_endures removal enduring refuses) cut
    exact left

theorem Sound.step {act : Act} (sound : world.Sound faults exact) (taken : Step faults world act next)
    (met : world.Appends faults act next)
    (counted : exact → ∀ payload, act = .enqueue payload → ¬Overcounts world.disk next.disk) :
    next.Sound faults exact := by
  cases taken with
  | boot maximumBytes run => exact sound_boot sound.survives run
  | bootCut maximumBytes cut =>
    obtain ⟨metadata, found, held, finds⟩ := sound.survives
    have left := Model.wp_cut (boot_wp maximumBytes held finds) cut
    exact left
  | enqueue payload run => exact sound_enqueue sound (met _ rfl) (fun counts => counted counts payload rfl) run
  | enqueueCut payload cut => exact sound_cut sound (met _ rfl) cut
  | remove removal run => exact sound_remove sound run
  | removeCut removal cut => exact sound_removeCut sound cut
  | powerLoss => exact sound.survives

theorem sound_of_reached {meets : Tracked → Act → Tracked → Prop} (reached : Reached faults meets world)
    (appends : ∀ world act next, meets world act next → world.Appends faults act next)
    (counts : exact → ∀ world act next, meets world act next →
      ∀ payload, act = .enqueue payload → ¬Overcounts world.disk next.disk) : world.Sound faults exact := by
  induction reached with
  | blank partition partitionSize totalBytes =>
    refine ⟨{}, fun _ => [], ⟨.fresh rfl rfl rfl rfl, fun _ => .reset rfl rfl, fun _ _ member => ?_⟩, .slnil⟩
    exact absurd member List.not_mem_nil
  | step before taken met ih =>
    exact ih.step taken (appends _ _ _ met) fun exact => counts exact _ _ _ met

def rebooted (world : Tracked) (maximumBytes : Nat) : (Bool × StoreForwardQueue) × Disk :=
  (StoreForwardQueue.begin {} true maximumBytes).exec Disk.handle world.disk

/-- All bytes of the segment files from the replay heads on are those of the pending records. -/
def Intact (queue : StoreForwardQueue) (disk : Disk) (payloads : List Bytes) : Prop :=
  ∃ pending : Segment → List Bytes, fifo queue.metadata.activeSegment pending = payloads ∧
    ∀ segment, (disk.content (.segment segment)).drop (queue.metadata.head segment) = records (pending segment)

theorem intact_of_ready {pending : Segment → List Bytes} (ready : Ready queue disk.stored pending) :
    Intact queue disk (queue.replay disk) := by
  have enduring : Enduring .all queue disk.stored (fifo queue.metadata.activeSegment pending) :=
    ⟨_, pending, .of_ready ready, rfl⟩
  rw [replay_endures enduring]
  exact ⟨pending, rfl, fun segment => (pending_bytes (ready.segment segment)).2.2⟩

theorem boots_find {last : Disk} {ok : Bool} {booted : StoreForwardQueue} {maximumBytes : Nat}
    (survives : Survives disk.stored live)
    (boots : Disk.device.Runs (StoreForwardQueue.begin {} true maximumBytes) disk (ok, booted) last)
    (ready : booted.ready = true) :
    live.Sublist (booted.replay last) ∧ Intact booted last (booted.replay last) := by
  obtain ⟨metadata, found, held, finds⟩ := survives
  rcases Model.wp_runs (boot_wp maximumBytes held finds) boots with ⟨off, -⟩ | ⟨pending, settled, kept, -⟩
  · exact absurd (ready.symm.trans off) (by decide)
  · have enduring : Enduring .all booted last.stored _ := ⟨_, pending, .of_ready settled, rfl⟩
    refine ⟨?_, intact_of_ready settled⟩
    rw [replay_endures enduring]
    exact kept

theorem rebooted_finds {maximumBytes : Nat} (survives : Survives world.disk.stored world.live)
    (ready : (world.rebooted maximumBytes).1.2.ready = true) :
    world.live.Sublist ((world.rebooted maximumBytes).1.2.replay (world.rebooted maximumBytes).2) :=
  (boots_find survives (Model.runs_exec _ _) ready).1

theorem rebooted_dropped (enduring : Enduring faults queue world.disk.stored live) {maximumBytes : Nat}
    (ready : (world.rebooted maximumBytes).1.2.ready = true) :
    (world.rebooted maximumBytes).1.2.droppedRecords = queue.droppedRecords := by
  obtain ⟨metadata, pending, lasting, rfl⟩ := enduring
  obtain ⟨found, held, finds⟩ := lasting.holds
  rcases Model.exec_wp (boot_wp maximumBytes held finds) with ⟨off, -⟩ | ⟨pending, settled, kept, dropped⟩
  · exact absurd (ready.symm.trans off) (by decide)
  · exact dropped.trans lasting.dropped

section Replays

def booted (maximumBytes : Nat) (disk : Disk) : (Bool × StoreForwardQueue) × Disk :=
  (StoreForwardQueue.begin {} true maximumBytes).exec Disk.handle disk

def opened (maximumBytes : Nat) : (Bool × StoreForwardQueue) × Disk :=
  booted maximumBytes (blank "littlefs" 2097152 2097152)

def offered (chosen : FsOp → Bool) (device : (Bool × StoreForwardQueue) × Disk) (payload : Bytes) :
    (Bool × StoreForwardQueue) × Disk :=
  (device.1.2.enqueue payload).exec (Disk.refuse chosen) device.2

def popped (chosen : FsOp → Bool) (device : (Bool × StoreForwardQueue) × Disk) : (Bool × StoreForwardQueue) × Disk :=
  (device.1.2.pop false).exec (Disk.refuse chosen) device.2

def commitOf (meets : Metadata → Bool) : FsOp → Bool
  | .write .metadataTemporary bytes => (Metadata.ofBytes bytes).any meets
  | _ => false

def payloadWrite : FsOp → Bool
  | .write (.segment .zero) bytes => bytes.length == 1
  | _ => false

def truncation : FsOp → Bool
  | .openWrite (.segment .zero) => true
  | _ => false

variable {meets : Tracked → Act → Tracked → Prop} {chosen : FsOp → Bool} {drops : Nat}
  {device : (Bool × StoreForwardQueue) × Disk}

theorem commitOf_enqueue {condition : Metadata → Bool} (rotation : faults.rotation) (op : FsOp)
    (chosen : commitOf condition op = true) : faults.enqueue op := by
  unfold commitOf at chosen
  split at chosen
  · exact rotation
  · exact absurd chosen Bool.false_ne_true

theorem payloadWrite_enqueue (append : faults.append) (op : FsOp) (chosen : payloadWrite op = true) :
    faults.enqueue op := by
  unfold payloadWrite at chosen
  split at chosen
  · exact append
  · exact absurd chosen Bool.false_ne_true

theorem booted_runs (maximumBytes : Nat) (disk : Disk) :
    Disk.device.Runs (StoreForwardQueue.begin {} true maximumBytes) disk (booted maximumBytes disk).1
      (booted maximumBytes disk).2 :=
  Model.runs_exec _ _

theorem reached_opened (faults : Faults) (meets : Tracked → Act → Tracked → Prop) (maximumBytes : Nat)
    (met : ∀ world next, meets world (.boot maximumBytes) next)
    (empty : (opened maximumBytes).1.2.replay (opened maximumBytes).2 = []) :
    Reached faults meets ⟨some (opened maximumBytes).1.2, (opened maximumBytes).2, [],
      (opened maximumBytes).1.2.droppedRecords⟩ := by
  have run := booted_runs maximumBytes (blank "littlefs" 2097152 2097152)
  have up := Reached.step (.blank "littlefs" 2097152 2097152) (@Step.boot faults _ _ [] 0 _ _ maximumBytes run)
    (met _ _)
  rw [← opened, empty, ite_self] at up
  exact up

theorem reached_offered (payload : Bytes)
    (before : Reached faults meets ⟨some device.1.2, device.2, live, drops⟩)
    (allowed : ∀ op, chosen op = true → faults.enqueue op)
    (met : ∀ left more, meets ⟨some device.1.2, device.2, live, drops⟩ (.enqueue payload)
      ⟨some (offered chosen device payload).1.2, (offered chosen device payload).2, left, more⟩) :
    Reached faults meets ⟨some (offered chosen device payload).1.2, (offered chosen device payload).2,
      live.drop (device.1.2.removedBy device.2 (offered chosen device payload).2) ++
        (if (offered chosen device payload).1.1 then [payload] else []),
      drops + device.1.2.removedBy device.2 (offered chosen device payload).2⟩ :=
  .step before (.enqueue payload (Disk.runs_refuse allowed _ _)) (met _ _)

def loaded : (Bool × StoreForwardQueue) × Disk := offered payloadWrite (opened 1048576) [2, 3]

theorem loaded_reached (faults : Faults) (append : faults.append) :
    Reached faults (Appends faults) ⟨some loaded.1.2, loaded.2,
      ([] : List Bytes).drop ((opened 1048576).1.2.removedBy (opened 1048576).2 loaded.2) ++
        (if loaded.1.1 then [[2, 3]] else []),
      (opened 1048576).1.2.droppedRecords + (opened 1048576).1.2.removedBy (opened 1048576).2 loaded.2⟩ := by
  have careful : Careful faults (opened 1048576).1.2 (opened 1048576).2.stored :=
    ⟨fun _ => by decide, fun _ => by decide, fun _ => .inl (by decide)⟩
  have first := reached_opened faults (Appends faults) 1048576 (fun _ _ => trivial) (by decide)
  exact reached_offered [2, 3] first (payloadWrite_enqueue append)
    fun _ _ queue on _ => .inr (Option.some.inj on ▸ careful)

end Replays

/-- In every run in which no record is appended where a failed call has left something behind, replay returns
what was accepted, in order, and so does a reboot. -/
theorem failed_append_replayed (faults : Faults) {world : Tracked}
    (reached : Reached faults (Appends faults) world) :
    (∀ queue, world.queue = some queue → queue.ready = true → queue.replay world.disk = world.live) ∧
      ∀ maximumBytes, (world.rebooted maximumBytes).1.2.ready = true →
        world.live.Sublist ((world.rebooted maximumBytes).1.2.replay (world.rebooted maximumBytes).2) := by
  have sound : world.Sound faults False := sound_of_reached reached (fun _ _ _ met => met) nofun
  refine ⟨fun queue on ready => ?_, fun maximumBytes ready => rebooted_finds sound.survives ready⟩
  obtain ⟨_, disk, live, drops⟩ := world
  obtain rfl := on
  rcases sound with ⟨off, -⟩ | ⟨enduring, -⟩
  · exact absurd (ready.symm.trans off) (by decide)
  · exact replay_endures enduring

def shortened : (Bool × StoreForwardQueue) × Disk := offered payloadWrite loaded [1]

theorem failed_append_replayed_shortened :
    shortened.1.1 = false ∧ shortened.1.2.replay shortened.2 = [[2, 3]] := by
  have careful : Careful ⟨True, False, False⟩ loaded.1.2 loaded.2.stored :=
    ⟨fun _ => by decide, fun _ => by decide, fun _ => .inl (by decide)⟩
  have reached := reached_offered [1] (loaded_reached ⟨True, False, False⟩ trivial) (payloadWrite_enqueue trivial)
    fun _ _ queue on _ => .inr (Option.some.inj on ▸ careful)
  have replayed := (failed_append_replayed ⟨True, False, False⟩ reached).1 _ rfl (by decide)
  exact ⟨by decide, replayed.trans (by decide)⟩

/-- The payload that is accepted behind a refused one is never replayed. -/
theorem not_failed_append_replayed :
    ¬∀ world, Reached ⟨True, False, False⟩ (fun _ _ _ => True) world →
      (∀ queue, world.queue = some queue → queue.ready = true → queue.replay world.disk = world.live) ∧
        ∀ maximumBytes, (world.rebooted maximumBytes).1.2.ready = true →
          world.live.Sublist ((world.rebooted maximumBytes).1.2.replay (world.rebooted maximumBytes).2) := by
  intro replayed
  have first := reached_opened ⟨True, False, False⟩ (fun _ _ _ => True) 1048576 (fun _ _ => trivial)
    (by decide)
  have refused := reached_offered [1] first (payloadWrite_enqueue trivial) fun _ _ => trivial
  have reached := reached_offered [2, 3] refused (payloadWrite_enqueue trivial) fun _ _ => trivial
  have same := (replayed _ reached).1 _ rfl (by decide)
  revert same
  decide

/-- Successful enqueues for which there is room. -/
inductive Fills (faults : Faults) :
    StoreForwardQueue → Disk → List Bytes → StoreForwardQueue → Disk → Prop
  | nil {queue : StoreForwardQueue} {disk : Disk} : Fills faults queue disk [] queue disk
  | cons {queue next filled : StoreForwardQueue} {disk middle last : Disk} {payload : Bytes} {payloads : List Bytes}
      (room : ¬queue.full payload)
      (run : (Disk.failing faults.enqueue).Runs (queue.enqueue payload) disk (true, next) middle)
      (rest : Fills faults next middle payloads filled last) :
      Fills faults queue disk (payload :: payloads) filled last

variable {payloads : List Bytes} {filled : StoreForwardQueue} {last : Disk}

theorem fills_endure (fills : Fills faults queue disk payloads filled last)
    (enduring : Enduring faults queue disk.stored live) (careful : payloads = [] ∨ Careful faults queue disk.stored) :
    Enduring faults filled last.stored (live ++ payloads) := by
  induction fills generalizing live with
  | nil => rwa [List.append_nil]
  | cons room run rest ih =>
    have still := careful.resolve_left (List.cons_ne_nil _ _)
    obtain ⟨endures, again⟩ := Model.wp_runs (enqueue_fills _ enduring room still) run rfl
    have left := ih endures (.inr again)
    rwa [List.append_assoc, List.singleton_append] at left

theorem fills_closed (fills : Fills faults queue disk payloads filled last) (off : queue.ready = false) :
    payloads = [] ∧ last = disk := by
  cases fills with
  | nil => exact ⟨rfl, rfl⟩
  | cons room run rest =>
    obtain ⟨error, observed⟩ := @enqueue_refused (Disk.failing faults.enqueue) _ disk _ (.inl off)
    obtain ⟨same, -⟩ := Model.wp_runs observed run
    exact absurd (congrArg Prod.fst same) nofun

theorem replay_off (off : queue.ready = false) : queue.replay disk = [] := by
  unfold replay
  cases queue.pendingRecords with
  | zero => rfl
  | succ records => simp [drain, peek, off]

/-- What a pop leaves, and what is accepted after it, is pending after a reboot, byte for byte, as long as
the first enqueue finds its segment as the metadata record on flash has it. -/
theorem pop_endangers_nothing (faults : Faults) {queue popped filled booted : StoreForwardQueue}
    {disk middle last start : Disk} {live payloads : List Bytes} {drops maximumBytes : Nat} {discarded ok up : Bool}
    (reached : Reached faults (Appends faults) ⟨some queue, disk, live, drops⟩)
    (pops : (Disk.failing faults.removal).Runs (queue.pop discarded) disk (ok, popped) middle)
    (fills : Fills faults popped middle payloads filled last)
    (careful : payloads = [] ∨ Careful faults popped middle.stored)
    (boots : Disk.device.Runs (StoreForwardQueue.begin {} true maximumBytes) last (up, booted) start)
    (ready : booted.ready = true) :
    ((queue.replay disk).tail ++ payloads).Sublist (booted.replay start) ∧
      Intact booted start (booted.replay start) := by
  have before : Sound faults False _ := sound_of_reached reached (fun _ _ _ met => met) nofun
  have removes : (Disk.failing faults.removal).Runs (queue.remove (.pop discarded)) disk (ok, popped) middle := pops
  have after : Sound faults False _ := sound_remove before removes
  -- whether the pop was saved or not, all but its record are still there
  have shorter : live.tail.Sublist (if disk.stored.commits < middle.stored.commits then live.tail else live) := by
    split
    · exact List.Sublist.refl _
    · exact List.tail_sublist live
  have replayed : (queue.replay disk).tail.Sublist live.tail := by
    rcases before with ⟨off, -⟩ | ⟨enduring, -⟩
    · rw [replay_off off]
      exact List.nil_sublist _
    · rw [replay_endures enduring]
  have kept : Survives last.stored ((queue.replay disk).tail ++ payloads) := by
    rcases after with ⟨off, survives⟩ | ⟨enduring, -⟩
    · obtain ⟨rfl, rfl⟩ := fills_closed fills off
      rw [List.append_nil]
      exact survives.of_sublist (replayed.trans shorter)
    · exact (fills_endure fills enduring careful).survives.of_sublist
        ((replayed.trans shorter).append (List.Sublist.refl _))
  exact boots_find kept boots ready

theorem fills_offered {chosen : FsOp → Bool} {device : (Bool × StoreForwardQueue) × Disk} {payload : Bytes}
    (allowed : ∀ op, chosen op = true → faults.enqueue op) (room : ¬device.1.2.full payload)
    (accepted : (offered chosen device payload).1.1 = true) :
    Fills faults device.1.2 device.2 [payload] (offered chosen device payload).1.2
      (offered chosen device payload).2 := by
  have run : (Disk.failing faults.enqueue).Runs (device.1.2.enqueue payload) device.2
    (offered chosen device payload).1 (offered chosen device payload).2 := Disk.runs_refuse allowed _ _
  have same : (offered chosen device payload).1 = (true, (offered chosen device payload).1.2) :=
    Prod.ext accepted rfl
  rw [same] at run
  exact .cons room run .nil

/-- The truncation of the emptied segment is refused; then a payload is accepted. -/
def kept : (Bool × StoreForwardQueue) × Disk := offered (fun _ => false) (popped truncation loaded) [4]

theorem pop_endangers_nothing_truncation :
    (popped truncation loaded).1.1 = false ∧
      ([[4]] : List Bytes).Sublist ((booted 1048576 kept.2).1.2.replay (booted 1048576 kept.2).2) := by
  have careful : Careful .all (popped truncation loaded).1.2 (popped truncation loaded).2.stored :=
    ⟨fun _ => by decide, fun _ => by decide, fun _ => .inl (by decide)⟩
  have fills : Fills .all (popped truncation loaded).1.2 (popped truncation loaded).2 [[4]] kept.1.2 kept.2 :=
    fills_offered nofun (by unfold full; decide) (by decide)
  have pending := pop_endangers_nothing .all (loaded_reached .all trivial)
    (Disk.runs_refuse (fun _ _ => trivial) _ _) fills (.inr careful) (booted_runs 1048576 kept.2) (by decide)
  exact ⟨by decide, (List.sublist_append_right _ _).trans pending.1⟩

/-- The second commit of a pop fails; then a payload of the same length is accepted, which the next boot takes
for removed. -/
def skipped : (Bool × StoreForwardQueue) × Disk :=
  offered (fun _ => false) (popped (commitOf fun metadata => metadata.head .zero == 0) loaded) [4, 5]

theorem not_pop_endangers_nothing :
    ¬∀ (queue popped filled booted : StoreForwardQueue) (disk middle last start : Disk) (live payloads : List Bytes)
        (drops : Nat) (ok up : Bool),
      Reached ⟨False, True, False⟩ (fun _ _ _ => True) ⟨some queue, disk, live, drops⟩ →
      (Disk.failing (Faults.removal ⟨False, True, False⟩)).Runs (queue.pop false) disk (ok, popped) middle →
      Fills ⟨False, True, False⟩ popped middle payloads filled last →
      Disk.device.Runs (StoreForwardQueue.begin {} true 1048576) last (up, booted) start → booted.ready = true →
      ((queue.replay disk).tail ++ payloads).Sublist (booted.replay start) := by
  intro pending
  have first := reached_opened ⟨False, True, False⟩ (fun _ _ _ => True) 1048576 (fun _ _ => trivial)
    (by decide)
  have reached := @reached_offered _ [] _ (fun _ => false) _ _ [2, 3] first nofun fun _ _ => trivial
  have fills : Fills ⟨False, True, False⟩ _ _ [[4, 5]] skipped.1.2 skipped.2 :=
    fills_offered nofun (by unfold full; decide) (by decide)
  have lost := pending _ _ _ _ _ _ _ _ _ _ _ _ _ reached (Disk.runs_refuse (fun _ _ => trivial) _ _) fills
    (booted_runs 1048576 skipped.2) (by decide)
  revert lost
  decide

/-- In every run in which no record is appended where a failed call has left something behind, and no truncation
is refused whose drop has been counted, what is replayed is in order and every dropped record is counted. -/
theorem rotation_keeps_order (faults : Faults) {world : Tracked} (reached : Reached faults (Counts faults) world) :
    (∀ queue, world.queue = some queue → queue.ready = true →
      queue.replay world.disk = world.live ∧ queue.droppedRecords = saturated world.drops ∧
        ∀ maximumBytes, (world.rebooted maximumBytes).1.2.ready = true →
          (world.rebooted maximumBytes).1.2.droppedRecords = saturated world.drops) ∧
      ∀ maximumBytes, (world.rebooted maximumBytes).1.2.ready = true →
        world.live.Sublist ((world.rebooted maximumBytes).1.2.replay (world.rebooted maximumBytes).2) := by
  have sound : world.Sound faults True :=
    sound_of_reached reached (fun _ _ _ met => met.1) fun _ _ _ _ met => met.2
  refine ⟨fun queue on ready => ?_, fun maximumBytes ready => rebooted_finds sound.survives ready⟩
  obtain ⟨_, disk, live, drops⟩ := world
  obtain rfl := on
  rcases sound with ⟨off, -⟩ | ⟨enduring, counted⟩
  · exact absurd (ready.symm.trans off) (by decide)
  · refine ⟨replay_endures enduring, counted trivial, fun maximumBytes again => ?_⟩
    exact (rebooted_dropped enduring again).trans (counted trivial)

/-- The commit that makes the first segment the active one. -/
def activation : FsOp → Bool := commitOf fun metadata => metadata.activeSegment == .zero

def filledOnce : (Bool × StoreForwardQueue) × Disk := offered (fun _ => false) (opened 32) [1, 1, 1, 1]

def crowded : (Bool × StoreForwardQueue) × Disk := offered (fun _ => false) filledOnce [2, 2, 2, 2]

/-- The rotation for a third record loses its last commit. -/
def uncommitted : (Bool × StoreForwardQueue) × Disk := offered activation crowded [3, 3, 3, 3]

theorem rotation_keeps_order_uncommitted :
    uncommitted.1.1 = false ∧ uncommitted.1.2.replay uncommitted.2 = [[2, 2, 2, 2]] ∧
      uncommitted.1.2.droppedRecords = 1 ∧ (booted 32 uncommitted.2).1.2.droppedRecords = 1 := by
  have careful : Careful .all (opened 32).1.2 (opened 32).2.stored :=
    ⟨fun _ => by decide, fun _ => by decide, fun _ => .inl (by decide)⟩
  have full : (filledOnce.1.2.full [2, 2, 2, 2] ∧ crowded.1.2.full [3, 3, 3, 3]) := by
    unfold StoreForwardQueue.full
    decide
  have counted : ¬Overcounts (opened 32).2 filledOnce.2 ∧ ¬Overcounts filledOnce.2 crowded.2 ∧
      ¬Overcounts crowded.2 uncommitted.2 := by
    unfold Overcounts
    decide
  have first := reached_opened .all (Counts .all) 32 (fun _ _ => ⟨trivial, nofun⟩) (by decide)
  have one := @reached_offered .all _ _ (fun _ => false) _ _ [1, 1, 1, 1] first nofun fun _ _ =>
    ⟨fun queue on _ => .inr (Option.some.inj on ▸ careful), fun _ _ => counted.1⟩
  have two := @reached_offered .all _ _ (fun _ => false) _ _ [2, 2, 2, 2] one nofun fun _ _ =>
    ⟨fun queue on _ => .inl (Option.some.inj on ▸ full.1), fun _ _ => counted.2.1⟩
  have reached := @reached_offered .all _ _ activation _ _ [3, 3, 3, 3] two (commitOf_enqueue trivial) fun _ _ =>
    ⟨fun queue on _ => .inl (Option.some.inj on ▸ full.2), fun _ _ => counted.2.2⟩
  obtain ⟨replayed, dropped, again⟩ := (rotation_keeps_order .all reached).1 _ rfl (by decide)
  exact ⟨by decide, replayed.trans (by decide), dropped.trans (by decide),
    (again 32 (by decide)).trans (by decide)⟩

/-- The record is accepted on the next try; the next boot replays it before the older one. -/
theorem not_rotation_keeps_order :
    ¬∀ world, Reached ⟨False, False, True⟩ (fun _ _ _ => True) world →
      ∀ maximumBytes, (world.rebooted maximumBytes).1.2.ready = true →
        world.live.Sublist ((world.rebooted maximumBytes).1.2.replay (world.rebooted maximumBytes).2) := by
  intro ordered
  have first := reached_opened ⟨False, False, True⟩ (fun _ _ _ => True) 32 (fun _ _ => trivial) (by decide)
  have one := @reached_offered _ _ _ (fun _ => false) _ _ [1, 1, 1, 1] first nofun fun _ _ => trivial
  have two := @reached_offered _ _ _ (fun _ => false) _ _ [2, 2, 2, 2] one nofun fun _ _ => trivial
  have refused := @reached_offered _ _ _ activation _ _ [3, 3, 3, 3] two (commitOf_enqueue trivial) fun _ _ => trivial
  have reached := @reached_offered _ _ _ (fun _ => false) _ _ [3, 3, 3, 3] refused nofun fun _ _ => trivial
  have kept := ordered _ reached 32 (by decide +kernel)
  revert kept
  decide

end Tracked

end StoreForwardQueue

end ApexiDevices
