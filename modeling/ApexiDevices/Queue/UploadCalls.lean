import ApexiDevices.Management.QueueOldest
import ApexiDevices.Queue.ArchiveBoot
import ApexiDevices.Queue.FailedRuns
import ApexiDevices.Queue.PeekBatch

set_option autoImplicit false

/-!
# The calls of the uploads

Each call with what it does to the pending payloads, to the drop count and to
the archive of rejected records.
-/

namespace ApexiDevices

open Device

namespace Disk

variable {A : Type} {disk : Disk} {program : Flash A} {post : A → Disk → Prop} {crash : Disk → Prop}

theorem wp_of_unreliable (h : unreliable.wp program post crash disk) : device.wp program post crash disk := by
  refine Model.wp_narrow (Prog.asks_any program) (fun _ _ _ _ _ step => Or.inl step) ?_ h
  intro disk op last _ torn
  cases op with
  | write path bytes =>
    obtain ⟨kept, -, rfl⟩ := torn
    exact ⟨path, bytes, _, rfl, rfl⟩
  | _ => exact torn.elim

structure Sized (before last : Disk) : Prop where
  partition : last.partition = before.partition
  totalBytes : last.totalBytes = before.totalBytes

theorem handle_sized (disk : Disk) (op : FsOp) : Sized disk (disk.handle op).2 := by
  cases op with
  | rename source target =>
    unfold handle
    dsimp only
    split <;> exact ⟨rfl, rfl⟩
  | _ => exact ⟨rfl, rfl⟩

theorem wp_sized (program : Flash A) (disk : Disk) :
    device.wp program (fun _ last => Sized disk last) (fun _ => True) disk := by
  have general (rest : Flash A) (middle : Disk) (sized : Sized disk middle) :
      device.wp rest (fun _ last => Sized disk last) (fun _ => True) middle := by
    induction rest generalizing middle with
    | done value => exact ⟨trivial, sized⟩
    | call op next ih =>
      refine ⟨trivial, fun _ _ => trivial, fun reply last step => ih reply last ?_⟩
      obtain rfl : (middle.handle op).2 = last := congrArg Prod.snd step
      have kept := handle_sized middle op
      exact ⟨kept.partition.trans sized.partition, kept.totalBytes.trans sized.totalBytes⟩
  exact general program disk ⟨rfl, rfl⟩

theorem wp_same {kept : Path → Prop} (asks : program.Asks (leaves kept)) :
    device.wp program (fun _ last => Same kept disk last) (fun _ => True) disk :=
  Model.wp_mono (wp_of_unreliable (wp_leaves asks (Prog.returns_any program))) (fun _ _ same => same.2) fun _ _ => trivial

theorem wp_both {first second : A → Disk → Prop} {cut : Disk → Prop} (one : device.wp program first cut disk)
    (other : device.wp program second (fun _ => True) disk) :
    device.wp program (fun value last => first value last ∧ second value last) (fun _ => True) disk :=
  Model.wp_mono (Model.wp_and one other) (fun _ _ both => both) fun _ _ => trivial

theorem reads_leaves (kept : Path → Prop) (op : FsOp) (observes : reads op) : leaves kept op := by
  cases op <;> first | exact trivial | exact observes.elim

end Disk

def Path.queued : Path → Prop
  | .metadata | .segment _ => True
  | _ => False

namespace StoreForwardQueue

open Prog

variable {limit : Nat} {queue : StoreForwardQueue} {disk last : Disk} {pending : List Bytes}

section Frame

theorem rotateSegment_leaves (queue : StoreForwardQueue) : queue.rotateSegment.Asks (Disk.leaves Path.archived) := by
  have activated (queue : StoreForwardQueue) (next : Segment) :
      (queue.activateSegment next).Asks (Disk.leaves Path.archived) := by
    refine Asks.bind (truncateSegment_leaves queue next) fun outcome => ?_
    obtain ⟨truncated, queue⟩ := outcome
    dsimp only
    split
    · exact asks_pure
    · exact saveMetadata_leaves _
  unfold rotateSegment
  dsimp only
  split
  · refine Asks.bind (saveMetadata_leaves _) fun counted => ?_
    split
    · exact asks_pure
    · exact activated _ _
  · refine Asks.bind asks_pure fun counted => ?_
    split
    · exact asks_pure
    · exact activated _ _

theorem appendRecord_leaves (queue : StoreForwardQueue) (payload : Bytes) :
    (queue.appendRecord payload).Asks (Disk.leaves Path.archived) := by
  unfold appendRecord
  refine Asks.bind (asks_request.mpr id) fun opened => ?_
  split
  · exact asks_pure
  · refine Asks.bind (asks_request.mpr id) fun header => ?_
    split
    · exact asks_pure
    · refine Asks.bind (asks_request.mpr id) fun body => ?_
      split <;> exact asks_pure

theorem enqueue_leaves (queue : StoreForwardQueue) (payload : Bytes) :
    (queue.enqueue payload).Asks (Disk.leaves Path.archived) := by
  unfold enqueue
  split
  · exact asks_pure
  · dsimp only
    split
    · exact asks_pure
    · split
      · refine Asks.bind (rotateSegment_leaves queue) fun rotated => ?_
        split
        · exact appendRecord_leaves _ _
        · exact asks_pure
      · exact appendRecord_leaves _ _

theorem pop_leaves (queue : StoreForwardQueue) (discarded : Bool) :
    (queue.pop discarded).Asks (Disk.leaves Path.archived) := by
  unfold pop
  split
  · exact asks_pure
  · refine Asks.bind (asks_request.mpr trivial) fun opened => Asks.bind (asks_request.mpr trivial) fun sought => ?_
    split
    · exact asks_pure
    · refine Asks.bind (fileRead_leaves _ _) fun read => ?_
      dsimp only
      split
      · exact asks_pure
      · refine Asks.bind (saveMetadata_leaves _) fun saved => ?_
        split
        · exact asks_pure
        · split
          · refine Asks.bind (truncateSegment_leaves _ _) fun truncated => ?_
            split
            · exact asks_pure
            · exact Asks.bind (saveMetadata_leaves _) fun again => asks_pure
          · exact asks_pure

theorem popIfMatches_leaves (queue : StoreForwardQueue) (submitted : Bytes) (discarded : Bool) :
    (queue.popIfMatches submitted discarded).Asks (Disk.leaves Path.archived) := by
  unfold popIfMatches
  refine Asks.bind (queue.peek_asks.mono (Disk.reads_leaves _)) fun peeked => ?_
  split
  · exact asks_pure
  · split
    · exact asks_pure
    · exact pop_leaves _ _

theorem searchSlots_asks (queue : StoreForwardQueue) (payload : Bytes) (slots : List Nat) (freeSlot : Nat) :
    (queue.searchSlots payload slots freeSlot).Asks Disk.reads := by
  induction slots generalizing freeSlot with
  | nil => exact asks_pure
  | cons slot slots ih =>
    have present : (queue.rejectedSlotPresent slot).Asks Disk.reads := by
      unfold rejectedSlotPresent
      split
      · exact asks_pure
      · exact asks_request.mpr trivial
    have read : (queue.readRejected slot).Asks Disk.reads := by
      unfold readRejected
      split
      · exact asks_pure
      · refine Asks.bind (readFile_asks _) fun found => ?_
        split <;> exact asks_pure
    unfold searchSlots
    refine Asks.bind present fun found => ?_
    split
    · exact ih _
    · refine Asks.bind read fun saved => ?_
      split
      · exact ih _
      · split
        · exact asks_pure
        · exact ih _

theorem preserveRejected_leaves (queue : StoreForwardQueue) (payload : Bytes) (httpStatus : Int32) :
    (queue.preserveRejected payload httpStatus).Asks (Disk.leaves Path.queued) := by
  have archived (header : RejectedHeader) (slot : Nat) : (archive header payload slot).Asks (Disk.leaves Path.queued) := by
    have other : ¬Path.queued .rejectedTemporary := id
    unfold archive writeTemporary verifyTemporary
    refine Asks.bind (Asks.bind (asks_request.mpr other) fun opened => ?_) fun written => ?_
    · split
      · exact asks_pure
      · refine Asks.bind (asks_request.mpr other) fun count => ?_
        split
        · exact asks_pure
        · exact Asks.bind (asks_request.mpr other) fun count => asks_pure
    · split
      · exact asks_pure
      · refine Asks.bind (Asks.bind ((readFile_asks _).mono (Disk.reads_leaves _)) fun found => ?_) fun verified => ?_
        · split <;> exact asks_pure
        · split
          · exact asks_pure
          · exact asks_request.mpr ⟨other, id⟩
  unfold preserveRejected
  split
  · exact asks_pure
  · refine Asks.bind ((searchSlots_asks queue payload _ _).mono (Disk.reads_leaves _)) fun found => ?_
    split
    · exact asks_pure
    · split
      · exact asks_pure
      · refine Asks.bind (archived _ _) fun done => ?_
        split <;> exact asks_pure

theorem Simulates.of_same (simulates : Simulates limit queue disk pending) (same : Disk.Same Path.queued disk last)
    (sized : Disk.Sized disk last) (rejectedRecords : Nat) (lastError : String) :
    Simulates limit { queue with rejectedRecords, lastError } last pending := by
  have segments (segment : Segment) : last.files (.segment segment) = disk.files (.segment segment) :=
    same (.segment segment) trivial
  cases simulates with
  | unopened blank =>
    refine .unopened ⟨blank.ready, blank.metadata, blank.tail, blank.count, (same .metadata trivial).trans blank.absent, ?_⟩
    intro segment
    rw [Disk.content, segments]
    exact blank.empty segment
  | working _ works size within =>
    obtain ⟨held, ready, order⟩ := works
    refine .working _ ⟨held, ?_, order⟩ ?_ within
    · refine ⟨ready.ready, ready.stamped, ready.fits, (same .metadata trivial).trans ready.saved, fun segment => ?_,
        ready.storable, ready.capacity⟩
      rw [Disk.stored_segments, segments]
      exact (ready.segment segment).transfer rfl rfl rfl
    · have partition : last.stored.partition = disk.stored.partition := sized.partition
      have totalBytes : last.stored.totalBytes = disk.stored.totalBytes := sized.totalBytes
      rwa [capacity, partition, totalBytes]

end Frame

theorem enqueue_hands (simulates : Simulates limit queue disk pending) (payload : Bytes) :
    Disk.device.wp (queue.enqueue payload) (fun outcome last => Disk.Same Path.archived disk last ∧
      ∃ removed kept, pending = removed ++ kept ∧
        Simulates limit outcome.2 last (kept ++ if outcome.1 then [payload] else []) ∧
        outcome.2.droppedRecords = saturatingAdd queue.droppedRecords removed.length) (fun _ => True) disk := by
  refine Model.wp_mono (Disk.wp_both (Disk.wp_same (enqueue_leaves queue payload))
    (enqueue_simulates limit simulates payload)) ?_ fun _ _ => trivial
  rintro ⟨ok, later⟩ last ⟨same, next, step, after⟩
  refine ⟨same, ?_⟩
  cases ok with
  | true =>
    obtain ⟨removed, kept, split, rfl, dropped, -⟩ := step
    exact ⟨removed, kept, split, after, dropped⟩
  | false =>
    obtain ⟨rfl, dropped⟩ := step
    refine ⟨[], next, rfl, ?_, dropped.trans (saturatingAdd_zero _).symm⟩
    simpa using after

theorem peek_hands (simulates : Simulates limit queue disk pending) :
    Disk.device.Observes disk queue.peek (queue.peeked pending) ∧ Simulates limit (queue.peeked pending).queue disk pending := by
  cases simulates with
  | unopened blank => exact ⟨peek_closed blank.ready, .unopened blank⟩
  | working _ works size within =>
    refine ⟨peek_observes works, ?_⟩
    cases pending with
    | nil => exact .working _ works size within
    | cons payload rest => exact (Simulates.working _ works size within).withError ""

theorem peek_found {peeked : Peeked} (run : Disk.device.Runs queue.peek disk peeked last) (found : peeked.found = true) :
    peeked.queue.ready = true := by
  obtain ⟨error, observed⟩ := peek_any queue disk
  obtain ⟨same, -⟩ := Model.wp_runs observed run
  cases on : queue.ready with
  | false =>
    obtain ⟨rfl, -⟩ := Model.wp_runs (peek_closed on) run
    cases found
  | true =>
    rw [same]
    cases queue.headRecord disk <;> exact on

/-- A record is removed while it is the oldest; another one in its place is no failure. -/
theorem popIfMatches_hands (simulates : Simulates limit queue disk pending) (submitted : Bytes) :
    Disk.device.wp (queue.popIfMatches submitted) (fun outcome last => Disk.Same Path.archived disk last ∧
      outcome.1 = true ∧ outcome.2.droppedRecords = queue.droppedRecords ∧
        Simulates limit outcome.2 last (if pending.head? = some submitted then pending.tail else pending))
      (fun _ => True) disk := by
  refine Disk.wp_both (Disk.wp_same (popIfMatches_leaves queue submitted false)) ?_
  cases simulates with
  | unopened blank =>
    refine Model.wp_mono (popIfMatches_closed submitted false blank.ready) ?_ fun _ _ => trivial
    rintro outcome last ⟨rfl, rfl⟩
    refine ⟨?_, rfl, .unopened blank⟩
    simp [pendingRecords, blank.count]
  | working _ works size within =>
    have simulates := Simulates.working pending works size within
    refine popIfMatches_wp submitted false works (fun _ _ => trivial) (fun _ _ _ _ _ _ => trivial) ?_ ?_
    · intro other
      rw [if_neg other]
      refine ⟨rfl, ?_, (peek_hands simulates).2⟩
      cases pending <;> rfl
    · intro rest last popped order later dropped capacity tails kept _
      subst order
      rw [List.head?_cons, if_pos rfl]
      refine ⟨rfl, dropped, .working _ later ?_ fun segment => ?_⟩
      · rw [capacity_kept kept, size, capacity]
      · rw [capacity]
        exact (tails segment).trans (within segment)

theorem peekBatch_hands (simulates : Simulates limit queue disk pending) (maximumRecords maximumBytes : Nat) :
    ∃ batch error, Disk.device.Observes disk (queue.peekBatch maximumRecords maximumBytes)
        ⟨!batch.isEmpty, batch, { queue with lastError := error }⟩ ∧
      LongestWithin separated (min maximumRecords 8) maximumBytes pending batch ∧
      Simulates limit { queue with lastError := error } disk pending := by
  cases simulates with
  | unopened blank =>
    obtain ⟨batch, error, observed, longest⟩ := peekBatch_agrees queue disk maximumRecords maximumBytes
    have silent : queue.deliveries disk = [] := by
      rw [deliveries, show queue.pendingRecords = 0 by simp [pendingRecords, blank.count]]
      rfl
    exact ⟨batch, error, observed, silent ▸ longest, (Simulates.unopened blank).withError error⟩
  | working _ works size within =>
    obtain ⟨batch, error, observed, longest⟩ := peekBatch_working works maximumRecords maximumBytes
    exact ⟨batch, error, observed, longest, (Simulates.working _ works size within).withError error⟩

theorem peekBatch_queue {maximumRecords maximumBytes : Nat} {batch : Batch}
    (run : Disk.device.Runs (queue.peekBatch maximumRecords maximumBytes) disk batch last) :
    ∃ error, batch.queue = { queue with lastError := error } := by
  obtain ⟨payloads, error, observed, -⟩ := peekBatch_agrees queue disk maximumRecords maximumBytes
  obtain ⟨rfl, -⟩ := Model.wp_runs observed run
  exact ⟨error, rfl⟩

theorem refreshQueueOldest_hands (reader : LiveUpload.FilteredReader) (simulates : Simulates limit queue disk pending) :
    ∃ oldest error, Disk.device.Observes disk (LiveUpload.refreshQueueOldest reader queue)
      (oldest, { queue with lastError := error }) := by
  unfold LiveUpload.refreshQueueOldest
  split
  · exact ⟨_, queue.lastError, rfl, rfl, rfl⟩
  · have peeked := (peek_hands simulates).1
    cases pending with
    | nil => exact ⟨_, queue.lastError, peeked.then ⟨rfl, rfl, rfl⟩⟩
    | cons payload rest => exact ⟨_, "", peeked.then ⟨rfl, rfl, rfl⟩⟩

theorem preserveRejected_hands (simulates : Simulates limit queue disk pending) (payload : Bytes) (httpStatus : Int32) :
    Disk.device.wp (queue.preserveRejected payload httpStatus) (fun outcome last =>
      Simulates limit outcome.2 last pending ∧ outcome.2.droppedRecords = queue.droppedRecords ∧
        (∀ other slot, Saved disk other slot → Saved last other slot) ∧
        (outcome.1 = true → ∃ slot, Saved last payload slot)) (fun _ => True) disk := by
  have frame := Disk.wp_both (Disk.wp_same (preserveRejected_leaves queue payload httpStatus))
    (Disk.wp_sized (queue.preserveRejected payload httpStatus) disk)
  have archives := Disk.wp_of_unreliable (preserveRejected_wp queue disk payload httpStatus)
  refine Model.wp_mono (Disk.wp_both archives frame) ?_ fun _ _ => trivial
  rintro outcome last ⟨preserved, same, sized⟩
  cases preserved with
  | refused error archive =>
    exact ⟨simulates.of_same same sized _ _, rfl, fun other slot saved => (saved_of_same archive).mpr saved,
      fun impossible => by cases impossible⟩
  | known on saved => exact ⟨simulates.of_same same sized _ _, rfl, fun _ _ known => known, fun _ => ⟨_, saved⟩⟩
  | filled on filled =>
    refine ⟨simulates.of_same same sized _ _, rfl, fun other slot saved => ?_, fun _ => ⟨_, filled.saved⟩⟩
    refine ⟨saved.1, ?_⟩
    rw [filled.others slot fun here => ?_]
    · exact saved.2
    · have occupied := saved.occupied
      rw [here, filled.free] at occupied
      cases occupied

theorem reboot_hands (simulates : Simulates limit queue disk pending) :
    Disk.device.wp (StoreForwardQueue.begin {} true limit) (fun outcome last => Disk.Same Path.archived disk last ∧
      outcome.2.droppedRecords = queue.droppedRecords ∧ Simulates limit outcome.2 last pending) (fun _ => True) disk := by
  have frame : Disk.device.wp (StoreForwardQueue.begin {} true limit) (fun _ last => Disk.Same Path.archived disk last)
      (fun _ => True) disk :=
    Model.wp_mono (Disk.wp_of_unreliable (begin_archived true limit)) (fun _ _ both => both.2) fun _ _ => trivial
  refine Disk.wp_both frame ?_
  cases simulates with
  | unopened blank =>
    have fresh : Unopened {} disk := ⟨rfl, rfl, rfl, rfl, blank.absent, blank.empty⟩
    refine Model.wp_mono (begin_simulates limit (.unopened fresh)) ?_ fun _ _ => trivial
    rintro outcome last ⟨dropped, later⟩
    exact ⟨dropped.trans (by rw [droppedRecords, droppedRecords, blank.metadata]), later⟩
  | working _ works size within =>
    obtain ⟨segments, ready, order⟩ := works
    refine begin_wp {} limit queue.metadata segments ready.holds (fun _ _ _ _ _ => trivial) ?_ ?_
    · intro closed
      rw [size] at closed
      cases closed
    · intro segment opens last booted settled active dropped capacity kept
      obtain rfl : queue.segmentMaximumBytes = segment := Option.some.inj (size.symm.trans opens)
      refine ⟨dropped, .working _ ⟨_, settled, by rw [active, order]⟩ ?_ fun segment => ?_⟩
      · rw [capacity_kept kept.kept, opens, capacity]
      · rw [capacity, ← file_length settled]
        exact (kept.shorter segment).trans ((file_length ready segment).trans_le (within segment))

end StoreForwardQueue

end ApexiDevices
