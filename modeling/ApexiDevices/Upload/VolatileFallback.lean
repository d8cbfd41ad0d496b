import ApexiDevices.Upload.BatchAcknowledged

set_option autoImplicit false

/-!
# Uploads without the durable queue

A queue that is not ready gives and takes nothing, but it may count records
that its start has found. The one volatile payload goes out only where it
counts none.
-/

namespace ApexiDevices

namespace StoreForwardQueue

open Device

variable {queue : StoreForwardQueue} {disk : Disk}

theorem refreshQueueOldest_closed (reader : LiveUpload.FilteredReader) (off : queue.ready = false) :
    Disk.device.Observes disk (LiveUpload.refreshQueueOldest reader queue) ({}, queue) := by
  unfold LiveUpload.refreshQueueOldest
  simp only [off, Bool.not_false, if_true]
  exact ⟨rfl, rfl, rfl⟩

theorem preserveRejected_closed (payload : Bytes) (httpStatus : Int32) (off : queue.ready = false) :
    Disk.device.Observes disk (queue.preserveRejected payload httpStatus)
      (queue.failed "Rejected upload cannot be archived; replay retained") := by
  unfold preserveRejected
  simp only [off, Bool.not_false, Bool.true_or, if_true]
  exact ⟨rfl, rfl, rfl⟩

theorem peekBatch_closed (maximumRecords maximumBytes : Nat) (off : queue.ready = false) :
    Disk.device.Observes disk (queue.peekBatch maximumRecords maximumBytes) ⟨false, [], queue⟩ := by
  unfold peekBatch
  simp only [off, Bool.not_false, Bool.true_or, if_true]
  exact ⟨rfl, rfl, rfl⟩

end StoreForwardQueue

namespace LiveUploadAsync

open Device StoreForwardQueue

/-- The request under way is a status, or it carries the volatile payload of a queue that counts nothing. -/
def Fallback (start : StoreForwardQueue) (cargo : Cargo) (post : Post) : Prop :=
  cargo.operation ≠ .Batch ∧ (cargo.operation = .Snapshot →
    start.pendingRecords = 0 ∧ cargo.durableInFlight = false ∧ cargo.inFlightPayload = cargo.volatilePayload ∧
      cargo.volatilePayload ≠ [] ∧ post.payload = .of cargo.volatilePayload)

/-- A queue that is not ready stays as it was, and so does the flash. -/
structure Offline (start : StoreForwardQueue) (disk : Disk) (captured : List Bytes) (point : Point) : Prop where
  queue : ∃ lastError, point.cargo.queue = { start with lastError }
  disk : point.site.disk = disk
  captured : point.captured = captured
  unprepared : point.cargo.batchPayload = []
  working : point.cargo.batchAcknowledged = false
  flight : ∀ post, point.site.worker.outstanding = some post → Fallback start point.cargo post

variable {readers : UploadReaders} {captured : List Bytes} {site last : Site} {self next : LiveUploadAsync} {cargo : Cargo}
  {point later : Point} {start : StoreForwardQueue} {disk : Disk}

namespace Offline

theorem free (queue : ∃ lastError, cargo.queue = { start with lastError }) (kept : site.disk = disk)
    (unprepared : cargo.batchPayload = []) (working : cargo.batchAcknowledged = false)
    (free : site.worker.outstanding = none) : Offline start disk captured ⟨site, cargo, captured⟩ where
  queue := queue
  disk := kept
  captured := rfl
  unprepared := unprepared
  working := working
  flight post sent := by
    rw [show site.worker.outstanding = some post from sent] at free
    cases free

theorem closed (offline : Offline start disk captured point) (off : start.ready = false) : point.cargo.queue.ready = false := by
  obtain ⟨error, same⟩ := offline.queue
  rw [same]
  exact off

theorem unchanged (offline : Offline start disk captured point) (off : start.ready = false) (submitted : Bytes)
    {popped : Bool} {queue : StoreForwardQueue} {last : Disk}
    (run : Disk.device.Runs (point.cargo.queue.popIfMatches submitted) point.site.disk (popped, queue) last) :
    queue = point.cargo.queue ∧ last = point.site.disk := by
  obtain ⟨same, kept⟩ := Model.wp_runs (popIfMatches_closed submitted false (offline.closed off)) run
  exact ⟨congrArg Prod.snd same, kept⟩

theorem unarchived (offline : Offline start disk captured point) (off : start.ready = false) {payload : Bytes} {status : Int32}
    {saved : Bool} {queue : StoreForwardQueue} {last : Disk}
    (run : Disk.device.Runs (point.cargo.queue.preserveRejected payload status) point.site.disk (saved, queue) last) :
    saved = false ∧ (∃ lastError, queue = { start with lastError }) ∧ last = point.site.disk := by
  obtain ⟨error, was⟩ := offline.queue
  obtain ⟨same, kept⟩ := Model.wp_runs (preserveRejected_closed payload status (offline.closed off)) run
  rw [was] at same
  cases same
  exact ⟨rfl, ⟨_, rfl⟩, kept⟩

theorem effect (offline : Offline start disk captured point) (off : start.ready = false) {post : Post}
    (sent : point.site.worker.outstanding = some post) {exchange : Exchange} {cargo : Cargo} {last : Disk}
    (effect : Effect readers exchange point.cargo point.site.disk cargo last) :
    (∃ lastError, cargo.queue = { start with lastError }) ∧ last = disk ∧ cargo.batchPayload = [] ∧
      cargo.batchAcknowledged = false := by
  obtain ⟨single, volatile⟩ := offline.flight post sent
  cases effect with
  | nothing => exact ⟨offline.queue, offline.disk, offline.unprepared, offline.working⟩
  | withdrawn => exact ⟨offline.queue, offline.disk, rfl, offline.working⟩
  | acknowledged batch => exact absurd batch single
  | refused batch => exact absurd batch single
  | delivered snapshot durable =>
    rw [(volatile snapshot).2.1] at durable
    cases durable
  | archived snapshot run =>
    obtain ⟨-, queue, kept⟩ := offline.unarchived off run
    exact ⟨queue, kept.trans offline.disk, offline.unprepared, offline.working⟩
  | discarded snapshot durable =>
    rw [(volatile snapshot).2.1] at durable
    cases durable
  | emptied => exact ⟨offline.queue, offline.disk, offline.unprepared, offline.working⟩
  | evicted snapshot _ _ _ saves =>
    obtain ⟨impossible, -⟩ := offline.unarchived off saves
    cases impossible

theorem capture (offline : Offline start disk captured point) (off : start.ready = false)
    (capture : Capture readers point later) : Offline start disk captured later := by
  cases capture with
  | stored payload on =>
    rw [offline.closed off] at on
    cases on
  | held payload _ room =>
    refine ⟨offline.queue, offline.disk, offline.captured, offline.unprepared, offline.working, fun post sent => ?_⟩
    exact ⟨(offline.flight post sent).1, fun snapshot => absurd room ((offline.flight post sent).2 snapshot).2.2.2.1⟩
  | refreshed run =>
    obtain ⟨same, kept⟩ := Model.wp_runs (refreshQueueOldest_closed readers.oldest (offline.closed off)) run
    cases same
    exact ⟨offline.queue, kept.trans offline.disk, offline.captured, offline.unprepared, offline.working, offline.flight⟩

theorem request (offline : Offline start disk captured point) (off : start.ready = false) (request : Request point later) :
    Offline start disk captured later := by
  obtain ⟨site, cargo, _⟩ := point
  obtain rfl := offline.captured
  have closed := offline.closed off
  cases request with
  | prepared free working none run batchId batchPayload batchRecords records payload =>
    obtain ⟨rfl, kept⟩ := Model.wp_runs (peekBatch_closed _ _ closed) run
    refine .free offline.queue (kept.trans offline.disk) ?_ working free
    by_contra some
    exact absurd (payload some).1 (Nat.not_lt_zero _)
  | durable free working some run =>
    obtain ⟨rfl, kept⟩ := Model.wp_runs (peek_closed closed) run
    exact .free offline.queue (kept.trans offline.disk) offline.unprepared working free
  | volatile free working => exact .free offline.queue offline.disk offline.unprepared working free
  | landed free => exact .free offline.queue offline.disk offline.unprepared offline.working free
  | submitted operation post url free working sent =>
    refine ⟨offline.queue, offline.disk, rfl, offline.unprepared, working, fun other taken => ?_⟩
    obtain rfl : post = other := Option.some.inj taken
    refine ⟨fun batch => ?_, fun snapshot => ?_⟩
    · obtain rfl : operation = .Batch := batch
      exact sent.1 offline.unprepared
    · obtain rfl : operation = .Snapshot := snapshot
      obtain ⟨payload, chosen⟩ := sent
      obtain ⟨error, same⟩ := offline.queue
      split at chosen
      case isTrue =>
        rw [closed] at chosen
        cases chosen
      case isFalse volatile =>
        obtain ⟨nothing, equal, some⟩ := chosen
        have count : start.pendingRecords = 0 := by
          rw [show cargo.queue = _ from same] at nothing
          exact nothing
        exact ⟨count, by simpa using volatile, equal, some, equal ▸ payload⟩
  | aside slots => exact ⟨offline.queue, offline.disk, rfl, offline.unprepared, offline.working, offline.flight⟩

theorem move (offline : Offline start disk captured point) (off : start.ready = false) (move : Move readers point later) :
    Offline start disk captured later := by
  cases move with
  | completed result sent slots inFlightPayload effect =>
    obtain ⟨queue, kept, unprepared, working⟩ := offline.effect off sent effect
    obtain rfl := offline.captured
    exact .free queue kept unprepared working rfl
  | capture captures => exact offline.capture off captures
  | removed record acknowledged =>
    rw [offline.working] at acknowledged
    cases acknowledged
  | finished acknowledged =>
    rw [offline.working] at acknowledged
    cases acknowledged
  | request requests => exact offline.request off requests

end Offline

theorem Request.aside_of_results (request : Request point later) :
    later.site.worker.exchanges = point.site.worker.exchanges ∧ later.cargo.volatilePayload = point.cargo.volatilePayload := by
  cases request <;> exact ⟨rfl, rfl⟩

theorem Requests.aside_of_results (requests : Requests point later) :
    later.site.worker.exchanges = point.site.worker.exchanges ∧ later.cargo.volatilePayload = point.cargo.volatilePayload := by
  induction requests with
  | refl => exact ⟨rfl, rfl⟩
  | tail _ request kept => exact ⟨request.aside_of_results.1.trans kept.1, request.aside_of_results.2.trans kept.2⟩

theorem proceed_aside (working : self.batchAcknowledged = false) (now : UInt32) :
    Ends (self.proceed readers now) (fun next last =>
      last.worker.exchanges = site.worker.exchanges ∧ next.volatilePayload = self.volatilePayload) site := by
  unfold proceed
  rw [if_neg (by rw [working]; decide)]
  exact (@dispatch_requests [] site self working now).mono fun next last requests => requests.aside_of_results

structure Cargo.Sent (cargo : Cargo) : Prop where
  snapshot : cargo.operation = .Snapshot
  volatile : cargo.durableInFlight = false
  same : cargo.volatilePayload = cargo.inFlightPayload

theorem advance_empties (same : self.cargo = cargo) (sent : cargo.Sent) :
    Ends self.advance (fun outcome last => last.worker = site.worker ∧ outcome.2.volatilePayload = []) site := by
  subst same
  have volatile : self.durableInFlight = false := sent.volatile
  have waiting : self.volatilePayload = self.inFlightPayload := sent.same
  unfold advance
  rw [if_neg (by rw [volatile]; decide), if_pos waiting]
  exact .pure ⟨rfl, rfl⟩

theorem acceptSnapshot_empties (sent : self.cargo.Sent) :
    Ends (self.acceptSnapshot readers) (fun next last => last.worker = site.worker ∧ next.volatilePayload = []) site := by
  unfold acceptSnapshot
  dsimp only
  refine .next (advance_empties (stamped_cargo _) sent) ?_
  rintro ⟨advanced, next⟩ last empties
  dsimp only
  split <;> exact .pure empties

theorem finish_empties {result : HttpsExchange.Result} (now : UInt32) (sent : self.cargo.Sent) :
    Ends (self.finish readers now result true) (fun outcome last => last.worker = site.worker ∧
      outcome.1.volatilePayload = []) site := by
  have snapshot : self.operation = .Snapshot := sent.snapshot
  have accepts (before : LiveUploadAsync) (same : before.cargo = self.cargo) :
      Ends (before.resolveSnapshot readers result true)
        (fun outcome last => last.worker = site.worker ∧ outcome.1.volatilePayload = []) site := by
    unfold resolveSnapshot
    exact .next (acceptSnapshot_empties (same ▸ sent)) fun next last empties => .pure empties
  unfold finish
  rw [snapshot]
  unfold finishSnapshot
  exact .next (accepts _ rfl) fun outcome last empties => .pure empties

theorem refresh_aside (before : LiveUploadAsync) :
    Ends (do ask .release; { before with operation := .None }.refreshQueueOldest readers)
      (fun next last => last.worker.exchanges = site.worker.exchanges ∧ next.volatilePayload = before.volatilePayload)
      site := by
  refine .bind (.ask fun reply worker step => ?_)
  cases step with
  | release => exact .bind (.flashed fun outcome disk run => .pure ⟨rfl, rfl⟩)
  | elsewhere _ _ other => cases other

theorem complete_exchanges (result : HttpsExchange.Result) (now : UInt32) :
    Ends (self.complete readers now result) (fun _ last => last.worker.exchanges = site.worker.exchanges) site := by
  have finishes := @finish_affects readers site (self.noted now result (self.acceptedResult readers result)) ⟨⟨"", .empty, "", "", ""⟩, result⟩ now
  unfold complete
  refine .next finishes ?_
  rintro ⟨next, archived⟩ middle ⟨worker, -⟩
  exact (refresh_aside _).mono fun next last aside => aside.1.trans (congrArg Worker.exchanges worker)

theorem complete_empties (result : HttpsExchange.Result) (now : UInt32) (sent : self.cargo.Sent)
    (accepted : UploadEvidence.acceptedResponse readers result.status (.of result.body) = true) :
    Ends (self.complete readers now result) (fun next _ => next.volatilePayload = []) site := by
  have rule : self.acceptedResult readers result = true := by
    unfold acceptedResult
    rwa [if_neg (by rw [show self.operation = .Snapshot from sent.snapshot]; decide)]
  unfold complete
  dsimp only
  rw [rule]
  have finishes : Ends ((self.noted now result true).finish readers now result true)
      (fun outcome last => last.worker = site.worker ∧ outcome.1.volatilePayload = []) site :=
    finish_empties now sent
  refine .next finishes ?_
  rintro ⟨next, archived⟩ middle ⟨-, empty⟩
  have same := congrArg Cargo.volatilePayload (@concluded_cargo next result true archived)
  exact (refresh_aside _).mono fun next last aside => aside.2.trans (same.trans empty)

theorem loop_empties (off : start.ready = false) (offline : Offline start disk captured ⟨site, self.cargo, captured⟩)
    {post : Post} (outstanding : site.worker.outstanding = some post) (snapshot : self.operation = .Snapshot) :
    Ends (self.loop readers) (fun next last => ∀ result, last.worker.exchanges = ⟨post, result⟩ :: site.worker.exchanges →
      UploadEvidence.acceptedResponse readers result.status (.of result.body) = true → next.volatilePayload = []) site := by
  have idle (now : UInt32) : Ends (self.proceed readers now) (fun next last => ∀ result,
      last.worker.exchanges = ⟨post, result⟩ :: site.worker.exchanges →
        UploadEvidence.acceptedResponse readers result.status (.of result.body) = true → next.volatilePayload = []) site := by
    refine (proceed_aside offline.working now).mono fun next last aside result answered _ => ?_
    rw [aside.1] at answered
    exact absurd answered.symm (List.cons_ne_self _ _)
  have silent {next : LiveUploadAsync} (result : HttpsExchange.Result)
      (answered : site.worker.exchanges = ⟨post, result⟩ :: site.worker.exchanges) :
      UploadEvidence.acceptedResponse readers result.status (.of result.body) = true → next.volatilePayload = [] :=
    absurd answered.symm (List.cons_ne_self _ _)
  have volatile := (offline.flight post outstanding).2 snapshot
  have sent : self.cargo.Sent := ⟨snapshot, volatile.2.1, volatile.2.2.1.symm⟩
  unfold loop
  split
  · exact .pure silent
  refine .bind (.asked rfl fun now => ?_)
  unfold serviceHttps
  split
  · exact .pure silent
  refine .bind (.ask fun reply worker step => ?_)
  cases step with
  | nothing => exact idle now
  | @completed other result taken =>
    obtain rfl : post = other := Option.some.inj (outstanding.symm.trans taken)
    have completes := (@complete_moves readers captured site self post result taken now).both (complete_exchanges result now)
    -- an accepted answer empties the slot, and what follows in the turn leaves it alone
    by_cases accepted : UploadEvidence.acceptedResponse readers result.status (.of result.body) = true
    case pos =>
      refine .next (completes.both (complete_empties result now sent accepted)) ?_
      rintro middle here ⟨⟨moves, -⟩, empty⟩
      have after := Moves.keeps (fun _ _ move offline => Offline.move offline off move) moves offline
      exact (proceed_aside after.working now).mono fun next last aside _ _ _ => aside.2.trans empty
    case neg =>
      refine .next completes ?_
      rintro middle here ⟨moves, exchanges⟩
      have after := Moves.keeps (fun _ _ move offline => Offline.move offline off move) moves offline
      refine (proceed_aside after.working now).mono fun next last aside again answered accepts => ?_
      rw [aside.1, exchanges] at answered
      cases answered
      exact absurd accepts accepted
  | elsewhere _ _ other => cases other

/-- While the queue is not ready, it stays as it is but for its error text, flash stays untouched, and all uploads are of
the volatile payload. An accepted one frees the slot. -/
theorem volatile_fallback (off : self.queue.ready = false) (fresh : self.cargo = .fresh self.queue)
    (free : site.worker.outstanding = none) {turns : Nat} {more : List Bytes}
    (interleaved : Interleaved readers site self captured turns last next more) :
    ((∃ lastError, next.queue = { self.queue with lastError }) ∧ next.queue.ready = false ∧
        next.queue.pendingRecords = self.queue.pendingRecords ∧ last.disk = site.disk ∧ more = captured) ∧
      ∀ post, last.worker.outstanding = some post → next.operation ≠ .Batch ∧ (next.operation = .Snapshot →
        next.volatilePayload ≠ [] ∧ post.payload = .of next.volatilePayload ∧
          ∀ after final result, Site.device.Runs (next.loop readers) last after final →
            final.worker.exchanges = ⟨post, result⟩ :: last.worker.exchanges →
            UploadEvidence.acceptedResponse readers result.status (.of result.body) = true → after.volatilePayload = []) := by
  have begins : Offline self.queue site.disk captured ⟨site, self.cargo, captured⟩ := by
    rw [fresh]
    exact .free ⟨_, rfl⟩ rfl rfl rfl free
  have offline := interleaved.keeps (fun _ _ move offline => Offline.move offline off move) begins
  refine ⟨⟨offline.queue, offline.closed off, ?_, offline.disk, offline.captured⟩,
    fun post sent => ⟨(offline.flight post sent).1, fun snapshot => ?_⟩⟩
  · obtain ⟨error, same⟩ := offline.queue
    rw [show next.queue = _ from same]
    rfl
  · obtain ⟨-, -, -, some, payload⟩ := (offline.flight post sent).2 snapshot
    refine ⟨some, payload, fun after final result run => ?_⟩
    obtain rfl := offline.captured
    exact (loop_empties off offline sent snapshot).runs run result

theorem Offline.slot (offline : Offline start disk captured point) (counted : 0 < start.pendingRecords)
    (full : point.cargo.volatilePayload ≠ []) (move : Move readers point later) :
    later.cargo.volatilePayload = point.cargo.volatilePayload := by
  have uncounted {post : Post} (sent : point.site.worker.outstanding = some post) (snapshot : point.cargo.operation = .Snapshot) :
      False := by
    rw [((offline.flight post sent).2 snapshot).1] at counted
    exact absurd counted (Nat.lt_irrefl 0)
  cases move with
  | completed result sent slots inFlightPayload effect =>
    cases effect with
    | emptied snapshot => exact (uncounted sent snapshot).elim
    | evicted snapshot => exact (uncounted sent snapshot).elim
    | nothing | withdrawn | acknowledged | refused | delivered | archived | discarded => rfl
  | capture captures =>
    cases captures with
    | held payload _ room => exact absurd room full
    | stored | refreshed => rfl
  | removed | finished => rfl
  | request requests => exact requests.aside_of_results.2

theorem store_full (off : self.queue.ready = false) (full : self.volatilePayload ≠ []) (payload : Bytes) :
    Ends (self.store payload) (fun outcome _ => outcome.1 = false) site := by
  unfold store
  rw [if_neg (by rw [off]; decide), if_pos (by simpa using full)]
  exact .pure rfl

theorem publishIfDue_full (off : self.queue.ready = false) (full : self.volatilePayload ≠ []) (decimals : UInt32 → Bytes)
    (state : LiveUpload.AppState) :
    Ends (self.publishIfDue readers decimals state) (fun outcome _ => outcome.1 = false) site := by
  have captures : Ends (self.captureHttps readers decimals state) (fun outcome _ => outcome.1 = false) site := by
    unfold captureHttps
    refine .next (unauthorized_same site) ?_
    rintro refused here rfl
    split
    · exact .bind (.asked rfl fun now => .pure rfl)
    · have stores (now : UInt32) := @store_full here { self with lastPublishMs := now } off full (self.snapshot decimals state)
      refine .bind (.asked rfl fun now => .next (stores now) ?_)
      rintro ⟨stored, next⟩ last rejected
      obtain rfl : stored = false := rejected
      exact .pure rfl
  unfold publishIfDue
  split
  · exact .pure rfl
  · refine .bind (.asked rfl fun now => ?_)
    split
    · exact captures
    · exact .pure rfl

/-- Records that are counted but cannot be read hold back every upload, and the slot is never free again. -/
theorem volatile_stuck (off : self.queue.ready = false) (fresh : self.cargo = .fresh self.queue)
    (free : site.worker.outstanding = none) (counted : 0 < self.queue.pendingRecords) {turns : Nat} {more : List Bytes}
    (interleaved : Interleaved readers site self captured turns last next more) :
    (∀ post, last.worker.outstanding = some post → next.operation ≠ .Snapshot ∧ next.operation ≠ .Batch) ∧
      (next.volatilePayload ≠ [] → ∀ rounds final after later,
        Interleaved readers last next more rounds final after later → after.volatilePayload = next.volatilePayload ∧
          ∀ decimals state stored further beyond,
            Site.device.Runs (after.publishIfDue readers decimals state) final (stored, further) beyond → stored = false) := by
  have begins : Offline self.queue site.disk captured ⟨site, self.cargo, captured⟩ := by
    rw [fresh]
    exact .free ⟨_, rfl⟩ rfl rfl rfl free
  have offline := interleaved.keeps (fun _ _ move offline => Offline.move offline off move) begins
  refine ⟨fun post sent => ⟨fun snapshot => ?_, (offline.flight post sent).1⟩, fun full rounds final after later goes => ?_⟩
  · rw [((offline.flight post sent).2 snapshot).1] at counted
    exact absurd counted (Nat.lt_irrefl 0)
  · have keeps (point later : Point) (move : Move readers point later)
        (both : Offline self.queue site.disk captured point ∧ point.cargo.volatilePayload = next.volatilePayload) :
        Offline self.queue site.disk captured later ∧ later.cargo.volatilePayload = next.volatilePayload :=
      ⟨both.1.move off move, (both.1.slot counted (both.2 ▸ full) move).trans both.2⟩
    obtain ⟨offline, slot⟩ := goes.keeps keeps ⟨offline, rfl⟩
    have slot : after.volatilePayload = next.volatilePayload := slot
    refine ⟨slot, fun decimals state stored further beyond run => ?_⟩
    exact (publishIfDue_full (offline.closed off) (by rwa [slot]) decimals state).runs run

namespace Snap

theorem boot_fresh (boot : Boot) (totalBytes : UInt32) :
    (Snap.boot boot totalBytes).self.cargo = .fresh (Snap.boot boot totalBytes).self.queue ∧
      (Snap.boot boot totalBytes).site.worker.outstanding = none :=
  ((@boot_booted 1048576 [] ⟨blank "littlefs" 2097152 totalBytes, {}, {}⟩ boot {} (.fresh {})).runs
    (Site.runs_handle_pair taken _ _)).fresh

def waiting : Snap := (((Snap.boot garage 0).publish parked).turn taken).turn taken

theorem waiting_state :
    ((Snap.boot garage 0).self.queue.ready = false ∧ ((Snap.boot garage 0).publish parked).self.enabled = true ∧
        ((Snap.boot garage 0).publish parked).self.workerReady = true) ∧
      ((((Snap.boot garage 0).publish parked).turn taken).self.enabled = true ∧
        (((Snap.boot garage 0).publish parked).turn taken).self.workerReady = true) ∧
      waiting.self.operation = .Snapshot ∧ waiting.site.worker.outstanding.isSome = true ∧
      (waiting.turn taken).self.volatilePayload = [] := by
  decide +kernel

theorem waiting_follows : Follows (Snap.boot garage 0) 2 waiting :=
  turn_follows _ (turn_follows _ (publish_follows _ .start) waiting_state.1.2.1 waiting_state.1.2.2) waiting_state.2.1.1
    waiting_state.2.1.2

def unwritten : FsOp → Bool
  | .write .metadataTemporary _ => true
  | _ => false

/-- What a boot leaves that finds one record and cannot write the metadata. -/
def halted : StoreForwardQueue :=
  let stored := Tracked.offered (fun _ => false) (Tracked.opened 1048576) [1]
  ((StoreForwardQueue.begin {} true 1048576).exec (Disk.refuse unwritten) stored.2).1.2

def blocked : Snap := { Snap.boot garage 0 with self := { (Snap.boot garage 0).self with queue := halted } }

theorem blocked_state :
    (halted.ready = false ∧ halted.pendingRecords = 1) ∧ (blocked.publish parked).self.volatilePayload ≠ [] := by
  decide +kernel

end Snap

theorem volatile_fallback_waiting :
    Snap.waiting.site.worker.outstanding.isSome = true ∧ Snap.waiting.self.operation = .Snapshot ∧
      (Snap.waiting.turn taken).self.volatilePayload = [] ∧ Snap.waiting.site.disk = (Snap.boot garage 0).site.disk ∧
      ∀ post, Snap.waiting.site.worker.outstanding = some post → post.payload = .of Snap.waiting.self.volatilePayload := by
  have fallback := volatile_fallback Snap.waiting_state.1.1 (Snap.boot_fresh garage 0).1 (Snap.boot_fresh garage 0).2
    Snap.waiting_follows
  have state := Snap.waiting_state.2.2
  exact ⟨state.2.1, state.1, state.2.2, fallback.1.2.2.2.1, fun post sent => ((fallback.2 post sent).2 state.1).2.1⟩

theorem volatile_stuck_blocked :
    Snap.halted.ready = false ∧ Snap.halted.pendingRecords = 1 ∧ (Snap.blocked.publish parked).self.volatilePayload ≠ [] ∧
      ∀ rounds final after later,
        Interleaved treeReaders (Snap.blocked.publish parked).site (Snap.blocked.publish parked).self
          (Snap.blocked.publish parked).captured rounds final after later →
        after.volatilePayload = (Snap.blocked.publish parked).self.volatilePayload := by
  obtain ⟨⟨off, count⟩, full⟩ := Snap.blocked_state
  have fresh : Snap.blocked.self.cargo = .fresh Snap.blocked.self.queue :=
    congrArg (fun cargo : Cargo => { cargo with queue := Snap.halted }) (Snap.boot_fresh garage 0).1
  have counted : 0 < Snap.blocked.self.queue.pendingRecords := by
    rw [show Snap.blocked.self.queue.pendingRecords = 1 from count]
    decide
  have follows : Snap.Follows Snap.blocked 0 (Snap.blocked.publish parked) := Snap.publish_follows parked .start
  have free : Snap.blocked.site.worker.outstanding = none := (Snap.boot_fresh garage 0).2
  have stuck := volatile_stuck off fresh free counted follows
  exact ⟨off, count, full, fun rounds final after later goes => (stuck.2 full rounds final after later goes).1⟩

end LiveUploadAsync

end ApexiDevices
