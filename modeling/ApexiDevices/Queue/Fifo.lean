import ApexiDevices.Queue.Calls

set_option autoImplicit false

/-!
# The queue is a bounded FIFO

Every run of calls on a filesystem that never fails follows one list of
payloads, whatever segments and replay heads it passes through.
-/

namespace ApexiDevices

open Device

namespace StoreForwardQueue

inductive Call where
  | begin
  | enqueue (payload : Bytes)
  | peek
  | pop (discarded : Bool)
  | popIfMatches (submitted : Bytes) (discarded : Bool)

structure Outcome where
  ok : Bool
  payload : Bytes := []
  queue : StoreForwardQueue

def perform (maximumBytes : Nat) (queue : StoreForwardQueue) : Call → Flash Outcome
  | .begin => do
    let (ok, queue) ← queue.begin true maximumBytes
    return { ok, queue }
  | .enqueue payload => do
    let (ok, queue) ← queue.enqueue payload
    return { ok, queue }
  | .peek => do
    let peeked ← queue.peek
    return { ok := peeked.found, payload := peeked.payload, queue := peeked.queue }
  | .pop discarded => do
    let (ok, queue) ← queue.pop discarded
    return { ok, queue }
  | .popIfMatches submitted discarded => do
    let (ok, queue) ← queue.popIfMatches submitted discarded
    return { ok, queue }

def droppedRecords (queue : StoreForwardQueue) : Nat := queue.metadata.droppedRecords

/-- The pending payloads of the segment a rotation would reclaim. -/
def OlderPayloads (queue : StoreForwardQueue) (disk : Disk) (older : List Bytes) : Prop :=
  older.length = queue.olderRecords ∧
    (disk.content (.segment queue.metadata.activeSegment.other)).drop
      (queue.metadata.head queue.metadata.activeSegment.other) = records older

/-- What one call may do to the abstract list and to the drop count. -/
def FifoStep (queue : StoreForwardQueue) (disk : Disk) (pending : List Bytes) (outcome : Outcome)
    (next : List Bytes) : Call → Prop
  | .begin => next = pending ∧ outcome.queue.droppedRecords = queue.droppedRecords
  | .peek =>
    outcome.ok = pending.head?.isSome ∧ outcome.payload = pending.head?.getD [] ∧ next = pending ∧
      outcome.queue.droppedRecords = queue.droppedRecords
  | .pop discarded =>
    if outcome.ok then
      (∃ payload, pending = payload :: next) ∧
        outcome.queue.droppedRecords = queue.dropsAfter discarded
    else pending = [] ∧ next = pending ∧ outcome.queue.droppedRecords = queue.droppedRecords
  | .popIfMatches submitted discarded =>
    if pending.head? = some submitted then
      outcome.ok = true ∧ pending = submitted :: next ∧
        outcome.queue.droppedRecords = queue.dropsAfter discarded
    else next = pending ∧ outcome.queue.droppedRecords = queue.droppedRecords
  | .enqueue payload =>
    if outcome.ok then
      ∃ removed kept, pending = removed ++ kept ∧ next = kept ++ [payload] ∧
        outcome.queue.droppedRecords = saturatingAdd queue.droppedRecords removed.length ∧
        (queue.full payload → queue.OlderPayloads disk removed) ∧
        (¬ queue.full payload → removed = [])
    else next = pending ∧ outcome.queue.droppedRecords = queue.droppedRecords

/-- What the queue reports about its contents. -/
structure Accounts (queue : StoreForwardQueue) (disk : Disk) (pending : List Bytes) : Prop where
  records : queue.pendingRecords = pending.length
  bytes : queue.pendingBytes = (pending.map fun payload => RecordHeader.size + payload.length).sum
  head : ∀ segment, queue.metadata.head segment ≤ queue.tail segment
  tail : ∀ segment, queue.tail segment ≤ queue.segmentMaximumBytes
  file : ∀ segment, (disk.content (.segment segment)).length = queue.tail segment

/-- A run of calls on a filesystem that never fails follows the abstract list. -/
def FollowsFifo (maximumBytes : Nat) (queue : StoreForwardQueue) (disk : Disk) (pending : List Bytes) :
    List Call → Prop
  | [] => queue.Accounts disk pending
  | call :: rest =>
    let (outcome, last) := (queue.perform maximumBytes call).exec Disk.handle disk
    queue.Accounts disk pending ∧ ∃ next, queue.FifoStep disk pending outcome next call ∧
      FollowsFifo maximumBytes outcome.queue last next rest

/-- A queue that has never been opened on a filesystem without records. -/
structure Unopened (queue : StoreForwardQueue) (disk : Disk) : Prop where
  ready : queue.ready = false
  metadata : queue.metadata = {}
  tail : queue.tail = fun _ => 0
  count : queue.count = fun _ => 0
  absent : disk.stored.metadata = none
  empty : ∀ segment, disk.content (.segment segment) = []

inductive Simulates (maximumBytes : Nat) (queue : StoreForwardQueue) (disk : Disk) : List Bytes → Prop
  | unopened (blank : Unopened queue disk) : Simulates maximumBytes queue disk []
  | working (pending : List Bytes) (works : Working queue disk.stored pending)
      (size : capacity disk.stored maximumBytes = some queue.segmentMaximumBytes)
      (within : ∀ segment, queue.tail segment ≤ queue.segmentMaximumBytes) :
      Simulates maximumBytes queue disk pending

theorem Unopened.holds {queue : StoreForwardQueue} {disk : Disk} (blank : Unopened queue disk) :
    Holds disk.stored {} (fun _ => []) where
  loaded := .fresh blank.absent rfl rfl rfl
  segment segment := .reset (blank.empty segment) rfl
  storable _ _ member := absurd member List.not_mem_nil

theorem file_length {queue : StoreForwardQueue} {disk : Disk} {pending : Segment → List Bytes}
    (ready : Ready queue disk.stored pending) (segment : Segment) :
    (disk.content (.segment segment)).length = queue.tail segment := by
  obtain ⟨dead, bytes, start⟩ := (ready.segment segment).bytes
  rw [Disk.stored_segments] at bytes
  rw [Disk.content, bytes, Option.getD_some, List.length_append, start, (ready.segment segment).tail]

theorem records_length (payloads : List Bytes) :
    (records payloads).length =
      (payloads.map fun payload => RecordHeader.size + payload.length).sum := by
  induction payloads with
  | nil => rfl
  | cons payload rest ih =>
    rw [records_cons, List.length_append, record_length, ih, List.map_cons, List.sum_cons]

theorem working_accounts {queue : StoreForwardQueue} {disk : Disk} {pending : List Bytes}
    (works : Working queue disk.stored pending)
    (within : ∀ segment, queue.tail segment ≤ queue.segmentMaximumBytes) :
    queue.Accounts disk pending := by
  have records := pendingRecords_eq works
  obtain ⟨pending, ready, rfl⟩ := works
  have used (segment : Segment) : queue.tail segment - queue.metadata.head segment =
      (ApexiDevices.records (pending segment)).length := by
    rw [(ready.segment segment).tail, Nat.add_sub_cancel_left]
  refine ⟨records, ?_, fun segment => ?_, within, file_length ready⟩
  · rw [pendingBytes, used, used, ← records_length, fifo, records_append, List.length_append]
    cases queue.metadata.activeSegment with
    | zero => exact Nat.add_comm _ _
    | one => rfl
  · rw [(ready.segment segment).tail]
    exact Nat.le_add_right _ _

theorem Simulates.accounts {maximumBytes : Nat} {queue : StoreForwardQueue} {disk : Disk}
    {pending : List Bytes} (simulates : Simulates maximumBytes queue disk pending) :
    queue.Accounts disk pending := by
  cases simulates with
  | working _ works size within => exact working_accounts works within
  | unopened blank =>
    refine ⟨?_, ?_, fun segment => ?_, fun segment => ?_, fun segment => ?_⟩
    · simp [pendingRecords, blank.count]
    · simp [pendingBytes, blank.tail]
    · simp [blank.metadata]
    · simp [blank.tail]
    · simp [blank.empty, blank.tail]

theorem begin_simulates (maximumBytes : Nat) {queue : StoreForwardQueue} {disk : Disk}
    {pending : List Bytes} (simulates : Simulates maximumBytes queue disk pending) :
    Disk.device.wp (queue.begin true maximumBytes) (fun outcome last =>
      outcome.2.droppedRecords = queue.droppedRecords ∧
        Simulates maximumBytes outcome.2 last pending) (fun _ => True) disk := by
  -- a queue that never opened has a blank flash, which a boot fills with nothing
  cases simulates with
  | unopened blank =>
    refine begin_wp queue maximumBytes {} (fun _ => []) blank.holds (fun _ _ _ _ _ => trivial) ?_ ?_
    · intro _ last off metadata tail count
      exact ⟨congrArg Metadata.droppedRecords metadata, .unopened ⟨off, metadata.trans blank.metadata,
        tail.trans blank.tail, count.trans blank.count, blank.absent, blank.empty⟩⟩
    · intro size opens last ready settled active dropped capacity booted
      refine ⟨by rw [droppedRecords, dropped, droppedRecords, blank.metadata],
        .working _ ⟨_, settled, by simp [fifo]⟩ ?_ fun segment => ?_⟩
      · rw [capacity_kept booted.kept, opens, capacity]
      · rw [← file_length settled]
        have shorter := booted.shorter segment
        rw [Disk.stored_content, Disk.stored_content, blank.empty] at shorter
        exact shorter.trans (Nat.zero_le _)
  | working _ works size within =>
    obtain ⟨segments, ready, order⟩ := works
    refine begin_wp queue maximumBytes queue.metadata segments ready.holds (fun _ _ _ _ _ => trivial) ?_ ?_
    · intro closed
      rw [size] at closed
      cases closed
    · intro segment opens last booted settled active dropped capacity kept
      obtain rfl : queue.segmentMaximumBytes = segment := Option.some.inj (size.symm.trans opens)
      refine ⟨dropped, .working _ ⟨_, settled, by rw [active, order]⟩ ?_ fun segment => ?_⟩
      · rw [capacity_kept kept.kept, opens, capacity]
      · rw [capacity, ← file_length settled]
        exact (kept.shorter segment).trans ((file_length ready segment).trans_le (within segment))

theorem Simulates.withError {maximumBytes : Nat} {queue : StoreForwardQueue} {disk : Disk}
    {pending : List Bytes} (simulates : Simulates maximumBytes queue disk pending) (error : String) :
    Simulates maximumBytes { queue with lastError := error } disk pending := by
  cases simulates with
  | unopened blank =>
    exact .unopened ⟨blank.ready, blank.metadata, blank.tail, blank.count, blank.absent, blank.empty⟩
  | working _ works size within => exact .working _ (works.withError error) size within

theorem older_payloads {queue : StoreForwardQueue} {disk : Disk} {pending : List Bytes}
    (works : Working queue disk.stored pending) :
    queue.OlderPayloads disk (pending.take queue.olderRecords) := by
  obtain ⟨segments, ready, order⟩ := works
  have older := ready.segment queue.metadata.activeSegment.other
  have count : queue.olderRecords = (segments queue.metadata.activeSegment.other).length := older.count
  have taken : pending.take queue.olderRecords = segments queue.metadata.activeSegment.other := by
    rw [count, ← order, fifo, List.take_left]
  rw [taken]
  exact ⟨count.symm, (pending_bytes older).2.2⟩

theorem enqueue_simulates (maximumBytes : Nat) {queue : StoreForwardQueue} {disk : Disk}
    {pending : List Bytes} (simulates : Simulates maximumBytes queue disk pending) (payload : Bytes) :
    Disk.device.wp (queue.enqueue payload) (fun outcome last =>
      ∃ next, queue.FifoStep disk pending ⟨outcome.1, [], outcome.2⟩ next (.enqueue payload) ∧
        Simulates maximumBytes outcome.2 last next) (fun _ => True) disk := by
  by_cases refused : queue.ready = false ∨ ¬ Storable payload ∨
      queue.segmentMaximumBytes < RecordHeader.size + payload.length
  · obtain ⟨error, observed⟩ := enqueue_refused disk payload refused
    refine Model.wp_mono observed ?_ fun _ _ => trivial
    rintro outcome last ⟨rfl, rfl⟩
    exact ⟨pending, ⟨rfl, rfl⟩, simulates.withError error⟩
  obtain ⟨on, storable, room⟩ : queue.ready = true ∧ Storable payload ∧
      RecordHeader.size + payload.length ≤ queue.segmentMaximumBytes := by
    simpa only [not_or, Bool.not_eq_false, not_not, Nat.not_lt] using refused
  cases simulates with
  | unopened blank => exact absurd (on.symm.trans blank.ready) (by decide)
  | working _ works size within =>
    have tails {appended : StoreForwardQueue}
        (capacity : appended.segmentMaximumBytes = queue.segmentMaximumBytes)
        (grown : ∀ segment, appended.tail segment ≤ max (queue.tail segment) queue.segmentMaximumBytes)
        (segment : Segment) : appended.tail segment ≤ appended.segmentMaximumBytes := by
      rw [capacity]
      exact (grown segment).trans (max_le (within segment) (Nat.le_refl _))
    refine enqueue_wp payload works storable room (fun _ _ _ _ _ _ _ => trivial)
      (fun _ _ _ _ _ _ => trivial) ?_ ?_
    · intro last appended loose later dropped capacity grown kept _ _
      refine ⟨trivial, _, ⟨[], pending, rfl, rfl, ?_, fun tight => absurd tight loose, fun _ => rfl⟩,
        .working _ later ?_ (tails capacity grown)⟩
      · rw [List.length_nil, saturatingAdd_zero]
        exact dropped
      · rw [capacity_kept kept, size, capacity]
    · intro last appended tight later dropped capacity grown kept _ _
      have older := older_payloads works
      refine ⟨trivial, _, ⟨pending.take queue.olderRecords, pending.drop queue.olderRecords,
        (List.take_append_drop _ _).symm, rfl, ?_, fun _ => older, fun loose => absurd tight loose⟩,
        .working _ later ?_ (tails capacity grown)⟩
      · rw [older.1]
        exact dropped
      · rw [capacity_kept kept, size, capacity]

/-- Every call keeps the simulation and moves the abstract list as its contract says. -/
theorem perform_simulates (maximumBytes : Nat) {queue : StoreForwardQueue} {disk : Disk}
    {pending : List Bytes} (simulates : Simulates maximumBytes queue disk pending) (call : Call) :
    Disk.device.wp (queue.perform maximumBytes call) (fun outcome last =>
      ∃ next, queue.FifoStep disk pending outcome next call ∧
        Simulates maximumBytes outcome.queue last next) (fun _ => True) disk := by
  cases call with
  | begin =>
    refine Model.wp_bind.mpr (Model.wp_mono (begin_simulates maximumBytes simulates) ?_ fun _ h => h)
    rintro ⟨ok, last⟩ after ⟨dropped, later⟩
    exact ⟨trivial, pending, ⟨rfl, dropped⟩, later⟩
  | enqueue payload =>
    refine Model.wp_bind.mpr (Model.wp_mono (enqueue_simulates maximumBytes simulates payload) ?_
      fun _ h => h)
    rintro ⟨ok, last⟩ after step
    exact ⟨trivial, step⟩
  -- a queue that is closed answers like an empty one
  | peek =>
    cases simulates with
    | unopened blank =>
      exact (peek_closed blank.ready).then ⟨trivial, [], ⟨rfl, rfl, rfl, rfl⟩, .unopened blank⟩
    | working _ works size within =>
      refine (peek_observes works).then ⟨trivial, pending, ?_, ?_⟩
      · cases pending <;> exact ⟨rfl, rfl, rfl, rfl⟩
      · cases pending with
        | nil => exact .working _ works size within
        | cons payload rest => exact (Simulates.working _ works size within).withError ""
  | pop discarded =>
    cases simulates with
    | unopened blank =>
      exact (pop_nothing discarded (.inl blank.ready)).then
        ⟨trivial, [], ⟨rfl, rfl, rfl⟩, .unopened blank⟩
    | working _ works size within =>
      cases pending with
      | nil =>
        exact (pop_nothing discarded (.inr (pendingRecords_eq works))).then
          ⟨trivial, [], ⟨rfl, rfl, rfl⟩, .working _ works size within⟩
      | cons payload rest =>
        refine Model.wp_bind.mpr (pop_wp discarded works (fun _ _ => trivial) (fun _ _ _ _ => trivial) ?_)
        intro last popped later dropped capacity tails kept _
        refine ⟨trivial, rest, ⟨⟨payload, rfl⟩, dropped⟩, .working _ later ?_ fun segment => ?_⟩
        · rw [capacity_kept kept, size, capacity]
        · rw [capacity]
          exact (tails segment).trans (within segment)
  | popIfMatches submitted discarded =>
    cases simulates with
    | unopened blank =>
      exact (popIfMatches_closed submitted discarded blank.ready).then
        ⟨trivial, [], ⟨rfl, rfl⟩, .unopened blank⟩
    | working _ works size within =>
      refine Model.wp_bind.mpr (popIfMatches_wp submitted discarded works (fun _ _ => trivial)
        (fun _ _ _ _ _ _ => trivial) ?_ ?_)
      · intro other
        refine ⟨trivial, pending, ?_, ?_⟩
        · rw [FifoStep, if_neg other]
          cases pending <;> exact ⟨rfl, rfl⟩
        · cases pending with
          | nil => exact .working _ works size within
          | cons payload rest => exact (Simulates.working _ works size within).withError ""
      · intro rest last popped order later dropped capacity tails kept _
        subst order
        refine ⟨trivial, rest, ?_, .working _ later ?_ fun segment => ?_⟩
        · rw [FifoStep, if_pos List.head?_cons]
          exact ⟨rfl, rfl, dropped⟩
        · rw [capacity_kept kept, size, capacity]
        · rw [capacity]
          exact (tails segment).trans (within segment)

theorem follows_fifo (maximumBytes : Nat) (queue : StoreForwardQueue) (disk : Disk) (pending : List Bytes)
    (simulates : Simulates maximumBytes queue disk pending) (calls : List Call) :
    queue.FollowsFifo maximumBytes disk pending calls := by
  induction calls generalizing queue disk pending with
  | nil => exact simulates.accounts
  | cons call rest ih =>
    obtain ⟨next, step, later⟩ := Model.exec_wp (perform_simulates maximumBytes simulates call)
    exact ⟨simulates.accounts, next, step, ih _ _ _ later⟩

def blank (partition : String) (partitionSize : Nat) (totalBytes : UInt32) : Disk :=
  { partition, partitionSize, totalBytes, files := fun _ => none }

/-- The queue refines a bounded FIFO over every run from an empty filesystem. -/
theorem queue_refines_fifo (partition : String) (partitionSize : Nat) (totalBytes : UInt32)
    (maximumBytes : Nat) (calls : List Call) :
    FollowsFifo maximumBytes {} (blank partition partitionSize totalBytes) [] calls :=
  follows_fifo maximumBytes _ _ _ (.unopened ⟨rfl, rfl, rfl, rfl, rfl, fun _ => rfl⟩) calls

end StoreForwardQueue

end ApexiDevices
