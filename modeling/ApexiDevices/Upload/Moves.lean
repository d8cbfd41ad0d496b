import ApexiDevices.Queue.UploadCalls
import ApexiDevices.Upload.Turns
import Mathlib.Logic.Relation

set_option autoImplicit false

/-!
# The moves of an upload

All that one call can do to the queue, the worker and the members of the
uploads, as single moves. What holds of whole runs is proved of each move.
-/

namespace ApexiDevices

open Device StoreForwardQueue

namespace LiveUploadAsync

/-- The captured payloads are those that have gone to flash, in their order. -/
structure Point where
  site : Site
  cargo : Cargo
  captured : List Bytes

/-- What a free worker may be given: no record of a queue that is not ready, and the volatile record only where there is
one. -/
def Submits (cargo : Cargo) (payload : CText) : Operation → Prop
  | .Snapshot => payload = .of cargo.inFlightPayload ∧
    if cargo.durableInFlight then cargo.queue.ready = true
    else cargo.queue.pendingRecords = 0 ∧ cargo.inFlightPayload = cargo.volatilePayload ∧ cargo.volatilePayload ≠ []
  | .Batch => cargo.batchPayload ≠ [] ∧ payload = .of cargo.batchPayload
  | _ => True

def Cargo.withoutBatch (cargo : Cargo) : Cargo := { cargo with batchRecords := [], batchPayload := [], batchId := [] }

section Moves

variable (readers : UploadReaders)

/-- What the result of a request does to the members and to the flash. -/
inductive Effect (exchange : Exchange) (cargo : Cargo) (disk : Disk) : Cargo → Disk → Prop
  | nothing : Effect exchange cargo disk cargo disk
  | withdrawn (working : cargo.batchAcknowledged = false) : Effect exchange cargo disk cargo.withoutBatch disk
  | acknowledged (batch : cargo.operation = .Batch)
    (accepted : BatchAcknowledgement.accepted readers exchange.result.status (.of exchange.result.body) cargo.batchId
      cargo.batchRecords.length = true) :
    Effect exchange cargo disk { cargo with batchAcknowledged := true, batchAckIndex := 0 } disk
  | refused (batch : cargo.operation = .Batch) : Effect exchange cargo disk cargo.withoutBatch disk
  | delivered (snapshot : cargo.operation = .Snapshot) (durable : cargo.durableInFlight = true)
    (accepted : UploadEvidence.acceptedResponse readers exchange.result.status (.of exchange.result.body) = true)
    {popped : Bool} {queue : StoreForwardQueue} {last : Disk}
    (run : Disk.device.Runs (cargo.queue.popIfMatches cargo.inFlightPayload) disk (popped, queue) last) :
    Effect exchange cargo disk { cargo with queue } last
  | archived (snapshot : cargo.operation = .Snapshot) {saved : Bool} {queue : StoreForwardQueue} {last : Disk}
    (run : Disk.device.Runs (cargo.queue.preserveRejected cargo.inFlightPayload (Int32.ofInt exchange.result.status)) disk
      (saved, queue) last) :
    Effect exchange cargo disk { cargo with queue } last
  | discarded (snapshot : cargo.operation = .Snapshot) (durable : cargo.durableInFlight = true) (permanent : exchange.result.permanentRejection = true)
    (rejected : UploadRecovery.payloadRejected (Int32.ofInt exchange.result.status) = true)
    {queue : StoreForwardQueue} {middle : Disk}
    (saves : Disk.device.Runs (cargo.queue.preserveRejected cargo.inFlightPayload (Int32.ofInt exchange.result.status)) disk
      (true, queue) middle) {popped : Bool} {rest : StoreForwardQueue} {last : Disk}
    (run : Disk.device.Runs (queue.popIfMatches cargo.inFlightPayload) middle (popped, rest) last) :
    Effect exchange cargo disk { cargo with queue := rest } last
  -- The volatile slot.
  | emptied (snapshot : cargo.operation = .Snapshot) (volatile : cargo.durableInFlight = false)
    (same : cargo.volatilePayload = cargo.inFlightPayload)
    (accepted : UploadEvidence.acceptedResponse readers exchange.result.status (.of exchange.result.body) = true) :
    Effect exchange cargo disk { cargo with volatilePayload := [] } disk
  | evicted (snapshot : cargo.operation = .Snapshot) (volatile : cargo.durableInFlight = false)
    (same : cargo.volatilePayload = cargo.inFlightPayload) (permanent : exchange.result.permanentRejection = true)
    {queue : StoreForwardQueue} {last : Disk}
    (saves : Disk.device.Runs (cargo.queue.preserveRejected cargo.inFlightPayload (Int32.ofInt exchange.result.status)) disk
      (true, queue) last) :
    Effect exchange cargo disk { cargo with queue, volatilePayload := [] } last

/-- A queue as a boot finds it, and nothing under way. -/
def Cargo.fresh (queue : StoreForwardQueue) : Cargo :=
  { queue, operation := .None, durableInFlight := false, inFlightPayload := [], volatilePayload := [], batchRecords := []
    batchId := [], batchPayload := [], batchAcknowledged := false, batchAckIndex := 0 }

inductive Capture (point : Point) : Point → Prop
  | stored (payload : Bytes) {ok : Bool} {queue : StoreForwardQueue} {disk : Disk} (on : point.cargo.queue.ready = true)
    (run : Disk.device.Runs (point.cargo.queue.enqueue payload) point.site.disk (ok, queue) disk) :
    Capture point ⟨{ point.site with disk }, { point.cargo with queue },
      if ok then point.captured ++ [payload] else point.captured⟩
  | held (payload : Bytes) (off : point.cargo.queue.ready = false) (room : point.cargo.volatilePayload = []) :
    Capture point { point with cargo := { point.cargo with volatilePayload := payload } }
  | refreshed {oldest : LiveUpload.QueueOldest} {queue : StoreForwardQueue} {disk : Disk}
    (run : Disk.device.Runs (LiveUpload.refreshQueueOldest readers.oldest point.cargo.queue) point.site.disk (oldest, queue) disk) :
    Capture point { point with site := { point.site with disk }, cargo := { point.cargo with queue } }

/-- What a free worker is given, and what is read for it. -/
inductive Request (point : Point) : Point → Prop
  | prepared (free : point.site.worker.outstanding = none) (working : point.cargo.batchAcknowledged = false)
    (none : point.cargo.batchPayload = []) {batch : Batch} {disk : Disk}
    (run : Disk.device.Runs (point.cargo.queue.peekBatch 8 (HttpsExchange.kBodyLimit - 256)) point.site.disk batch disk)
    (batchId batchPayload : Bytes) (batchRecords : List Bytes) (records : batchRecords = batch.payloads ∨ batchRecords = [])
    (payload : batchPayload ≠ [] →
      1 < batch.payloads.length ∧ ∃ deviceId, batchPayload = envelope deviceId batchId batchRecords) :
    Request point { point with
      site := { point.site with disk }
      cargo := { point.cargo with queue := batch.queue, batchRecords, batchId, batchPayload } }
  | durable (free : point.site.worker.outstanding = none) (working : point.cargo.batchAcknowledged = false)
    (some : 0 < point.cargo.queue.pendingRecords) {peeked : Peeked} {disk : Disk}
    (run : Disk.device.Runs point.cargo.queue.peek point.site.disk peeked disk) :
    Request point { point with
      site := { point.site with disk }
      cargo := { point.cargo with durableInFlight := true, queue := peeked.queue, inFlightPayload := peeked.payload } }
  | volatile (free : point.site.worker.outstanding = none) (working : point.cargo.batchAcknowledged = false)
    (nothing : point.cargo.queue.pendingRecords = 0) :
    Request point { point with
      cargo := { point.cargo with durableInFlight := false, inFlightPayload := point.cargo.volatilePayload } }
  | submitted (operation : Operation) (post : Post) (url : ∃ config : Config, post.url = config.url operation)
    (free : point.site.worker.outstanding = none) (working : point.cargo.batchAcknowledged = false)
    (sent : Submits point.cargo post.payload operation) :
    Request point { point with
      site := { point.site with worker := { point.site.worker with outstanding := some post } }
      cargo := { point.cargo with operation } }
  | landed (free : point.site.worker.outstanding = none) :
    Request point { point with cargo := { point.cargo with inFlightPayload := [] } }
  | aside (slots : Slots AppBearerRotation.layout) : Request point { point with site := { point.site with slots } }

inductive Move (point : Point) : Point → Prop
  /-- A result is dealt with, and the worker is free again. -/
  | completed {post : Post} (result : HttpsExchange.Result) (sent : point.site.worker.outstanding = some post)
    (slots : Slots AppBearerRotation.layout) (inFlightPayload : Bytes) {cargo : Cargo} {disk : Disk}
    (effect : Effect readers ⟨post, result⟩ point.cargo point.site.disk cargo disk) :
    Move point { point with
      site := ⟨disk, slots, ⟨none, ⟨post, result⟩ :: point.site.worker.exchanges⟩⟩
      cargo := { cargo with operation := .None, inFlightPayload } }
  | capture {next : Point} (captured : Capture readers point next) : Move point next
  /-- One record of an acknowledged batch. -/
  | removed (record : Bytes) (acknowledged : point.cargo.batchAcknowledged = true)
    (found : point.cargo.batchRecords[point.cargo.batchAckIndex]? = some record)
    {popped : Bool} {queue : StoreForwardQueue} {disk : Disk}
    (run : Disk.device.Runs (point.cargo.queue.popIfMatches record) point.site.disk (popped, queue) disk) :
    Move point { point with
      site := { point.site with disk }
      cargo := { point.cargo with
        queue, batchAckIndex := if popped then point.cargo.batchAckIndex + 1 else point.cargo.batchAckIndex } }
  | finished (acknowledged : point.cargo.batchAcknowledged = true)
    (whole : point.cargo.batchRecords[point.cargo.batchAckIndex]? = none) :
    Move point { point with cargo := { point.cargo.withoutBatch with batchAcknowledged := false } }
  | request {next : Point} (requested : Request point next) : Move point next

/-- A request under way is lost with the power; what the server has answered is not. -/
inductive Booted (limit : Nat) (point : Point) : Point → Prop
  | booted (slots : Slots AppBearerRotation.layout) {ok : Bool} {queue : StoreForwardQueue} {disk : Disk}
    (run : Disk.device.Runs (StoreForwardQueue.begin {} true limit) point.site.disk (ok, queue) disk) :
    Booted limit point { point with
      site := ⟨disk, slots, { point.site.worker with outstanding := none }⟩, cargo := .fresh queue }

abbrev Moves : Point → Point → Prop := Relation.ReflTransGen (Move readers)

abbrev Captures : Point → Point → Prop := Relation.ReflTransGen (Capture readers)

abbrev Requests : Point → Point → Prop := Relation.ReflTransGen Request

end Moves

theorem Captures.moves {readers : UploadReaders} {point next : Point} (captures : Captures readers point next) :
    Moves readers point next := by
  induction captures with
  | refl => exact .refl
  | tail _ captured moves => exact moves.tail (.capture captured)

theorem Requests.moves {readers : UploadReaders} {point next : Point} (requests : Requests point next) :
    Moves readers point next := by
  induction requests with
  | refl => exact .refl
  | tail _ requested moves => exact moves.tail (.request requested)

section Calls

variable {readers : UploadReaders} {captured : List Bytes} {site last : Site} {self : LiveUploadAsync}

theorem Ends.flashed {A : Type} {program : Flash A} {post : A → Site → Prop}
    (runs : ∀ value disk, Disk.device.Runs program site.disk value disk → post value { site with disk }) :
    Ends (onFlash program) post site :=
  .flash (Model.wp_mono (Model.wp_of_runs Disk.device program site.disk) runs fun _ _ => trivial)

section Results

variable {exchange : Exchange}

theorem stamped_cargo (record : Bytes) : (self.stamped readers record).cargo = self.cargo := by
  unfold stamped
  split <;> rfl

theorem concluded_cargo (result : HttpsExchange.Result) (accepted archived : Bool) :
    (self.concluded result accepted archived).cargo = self.cargo := by
  unfold concluded
  dsimp only
  repeat' split
  all_goals rfl

/-- The effect of a part of `complete`, which leaves the worker alone. -/
def Affects (readers : UploadReaders) (exchange : Exchange) (cargo : Cargo) (site : Site) (next : LiveUploadAsync)
    (last : Site) : Prop :=
  last.worker = site.worker ∧ Effect readers exchange cargo site.disk next.cargo last.disk

theorem advance_affects {cargo : Cargo} (same : self.cargo = cargo) (snapshot : cargo.operation = .Snapshot)
    (accepted : UploadEvidence.acceptedResponse readers exchange.result.status (.of exchange.result.body) = true) :
    Ends self.advance (fun outcome last => Affects readers exchange cargo site outcome.2 last) site := by
  subst same
  unfold advance
  split
  case isTrue durable =>
    refine .bind (.flashed fun outcome disk run => ?_)
    exact .pure ⟨rfl, .delivered snapshot durable accepted run⟩
  case isFalse volatile =>
    split
    case isTrue same => exact .pure ⟨rfl, .emptied snapshot (Bool.eq_false_of_not_eq_true volatile) same accepted⟩
    case isFalse => exact .pure ⟨rfl, .nothing⟩

theorem acceptSnapshot_affects (snapshot : self.operation = .Snapshot)
    (accepted : UploadEvidence.acceptedResponse readers exchange.result.status (.of exchange.result.body) = true) :
    Ends (self.acceptSnapshot readers) (Affects readers exchange self.cargo site) site := by
  unfold acceptSnapshot
  dsimp only
  refine .next (advance_affects (stamped_cargo _) snapshot accepted) ?_
  rintro ⟨advanced, next⟩ last affects
  dsimp only
  split <;> exact .pure affects

/-- What has been done about a record that the server refuses for good. -/
inductive Resolved (cargo : Cargo) (status : Int32) (disk : Disk) : UploadRecovery.Resolution → StoreForwardQueue → Disk → Prop
  | retained : Resolved cargo status disk .Retained cargo.queue disk
  | failed {queue : StoreForwardQueue} {last : Disk}
    (saves : Disk.device.Runs (cargo.queue.preserveRejected cargo.inFlightPayload status) disk (false, queue) last) :
    Resolved cargo status disk .ArchiveFailed queue last
  | archived (volatile : cargo.durableInFlight = false) {queue : StoreForwardQueue} {last : Disk}
    (saves : Disk.device.Runs (cargo.queue.preserveRejected cargo.inFlightPayload status) disk (true, queue) last) :
    Resolved cargo status disk .Archived queue last
  | removed (durable : cargo.durableInFlight = true) (rejected : UploadRecovery.payloadRejected status = true)
    {queue : StoreForwardQueue} {middle : Disk}
    (saves : Disk.device.Runs (cargo.queue.preserveRejected cargo.inFlightPayload status) disk (true, queue) middle)
    {popped : Bool} {rest : StoreForwardQueue} {last : Disk}
    (run : Disk.device.Runs (queue.popIfMatches cargo.inFlightPayload) middle (popped, rest) last)
    {resolution : UploadRecovery.Resolution} (done : resolution = if popped then .Archived else .AdvanceFailed) :
    Resolved cargo status disk resolution rest last

theorem resolveRejected_resolves (recovery : UploadRecovery) (status : Int32)
    (save advance : StoreForwardQueue → Upload (Bool × StoreForwardQueue))
    (saves : save = fun queue => onFlash (queue.preserveRejected self.inFlightPayload status))
    (advances : advance = fun queue =>
      if !self.durableInFlight then pure (true, queue) else onFlash (queue.popIfMatches self.inFlightPayload)) :
    Ends (recovery.resolveRejected status true save advance self.queue) (fun outcome last =>
      last.worker = site.worker ∧ Resolved self.cargo status site.disk outcome.1 outcome.2.2 last.disk) site := by
  subst saves advances
  unfold UploadRecovery.resolveRejected
  split
  case isTrue => exact .pure ⟨rfl, .retained⟩
  case isFalse permanent =>
    have rejected : UploadRecovery.payloadRejected status = true := by simpa using permanent
    refine .bind (.flashed fun outcome middle saves => ?_)
    obtain ⟨saved, queue⟩ := outcome
    cases saved with
    | false => exact .pure ⟨rfl, .failed saves⟩
    | true =>
      refine .bind ?_
      split
      case isTrue volatile =>
        have volatile : self.durableInFlight = false := by simpa using volatile
        exact .pure (.pure ⟨rfl, .archived volatile saves⟩)
      case isFalse durable =>
        refine .flashed fun outcome last run => ?_
        obtain ⟨popped, rest⟩ := outcome
        have durable : self.durableInFlight = true := by simpa using durable
        cases popped with
        | false => exact .pure ⟨rfl, .removed durable rejected saves run rfl⟩
        | true => exact .pure ⟨rfl, .removed durable rejected saves run rfl⟩

theorem rejectSnapshot_affects (snapshot : self.operation = .Snapshot) (permanent : exchange.result.permanentRejection = true) :
    Ends (self.rejectSnapshot exchange.result.status) (fun outcome last => Affects readers exchange self.cargo site outcome.1 last)
      site := by
  unfold rejectSnapshot
  refine .next (resolveRejected_resolves _ _ _ _ rfl rfl) ?_
  rintro ⟨resolution, recovery, queue⟩ ⟨disk, slots, worker⟩ ⟨same, resolved⟩
  dsimp only at resolved
  cases resolved with
  | retained => exact .pure ⟨same, .nothing⟩
  | failed saves => exact .pure ⟨same, .archived snapshot saves⟩
  | archived volatile saves =>
    refine .pure ⟨same, ?_⟩
    have off : self.durableInFlight = false := volatile
    by_cases waiting : self.volatilePayload = self.inFlightPayload
    · have cleared : (!self.durableInFlight) = true ∧ self.volatilePayload = self.inFlightPayload := ⟨by rw [off]; rfl, waiting⟩
      rw [if_pos cleared]
      exact .evicted snapshot volatile waiting permanent saves
    · rw [if_neg fun both => waiting both.2]
      exact .archived snapshot saves
  | @removed durable rejected _ _ saves popped _ _ run _ done =>
    have on : self.durableInFlight = true := durable
    subst done
    cases popped with
    | false => exact .pure ⟨same, .discarded snapshot durable permanent rejected saves run⟩
    | true =>
      refine .pure ⟨same, ?_⟩
      rw [if_neg fun both => by rw [on] at both; exact absurd both.1 (by decide)]
      exact .discarded snapshot durable permanent rejected saves run

theorem finishSnapshot_affects (snapshot : self.operation = .Snapshot) (now : UInt32) :
    Ends (self.finishSnapshot readers now exchange.result (self.acceptedResult readers exchange.result))
      (fun outcome last => last.worker = site.worker ∧ ∃ cargo, Effect readers exchange self.cargo site.disk cargo last.disk ∧
        outcome.1.cargo = { cargo with inFlightPayload := [] }) site := by
  have rule : self.acceptedResult readers exchange.result =
      UploadEvidence.acceptedResponse readers exchange.result.status (.of exchange.result.body) :=
    if_neg (by rw [snapshot]; decide)
  have resolved (noted : LiveUploadAsync) (same : noted.cargo = self.cargo) :
      Ends (noted.resolveSnapshot readers exchange.result (self.acceptedResult readers exchange.result))
        (fun outcome last => Affects readers exchange self.cargo site outcome.1 last) site := by
    have snapshot : noted.operation = .Snapshot := (congrArg Cargo.operation same).trans snapshot
    rw [← same]
    unfold resolveSnapshot
    split
    case isTrue accepted =>
      exact .next (acceptSnapshot_affects snapshot (rule ▸ accepted)) fun next last affects => .pure affects
    case isFalse =>
      split
      case isTrue permanent => exact rejectSnapshot_affects snapshot permanent
      case isFalse => exact .pure ⟨rfl, .nothing⟩
  unfold finishSnapshot
  refine .next (resolved _ rfl) ?_
  rintro ⟨next, archived⟩ last ⟨worker, effect⟩
  exact .pure ⟨worker, next.cargo, effect, rfl⟩

theorem finishBatch_effect (batch : self.operation = .Batch) (now : UInt32) (disk : Disk) :
    Effect readers exchange self.cargo disk
      (self.finishBatch now exchange.result (self.acceptedResult readers exchange.result)).cargo disk := by
  have rule : self.acceptedResult readers exchange.result = BatchAcknowledgement.accepted readers exchange.result.status
      (.of exchange.result.body) self.batchId self.batchRecords.length :=
    if_pos batch
  unfold finishBatch
  dsimp only
  split
  case isTrue accepted => exact .acknowledged batch (rule ▸ accepted)
  case isFalse =>
    split
    · exact .refused batch
    · split
      · exact .refused batch
      · exact .nothing

theorem finish_affects (now : UInt32) :
    Ends (self.finish readers now exchange.result (self.acceptedResult readers exchange.result))
      (fun outcome last => last.worker = site.worker ∧ ∃ cargo inFlightPayload,
        Effect readers exchange self.cargo site.disk cargo last.disk ∧
          outcome.1.cargo = { cargo with inFlightPayload }) site := by
  unfold finish
  split
  case h_1 batch =>
    have effect := @finishBatch_effect readers self exchange batch now site.disk
    exact .pure ⟨rfl, _, (finishBatch self now exchange.result _).inFlightPayload, effect, rfl⟩
  case h_2 snapshot =>
    refine (finishSnapshot_affects snapshot now).mono ?_
    rintro outcome last ⟨worker, cargo, effect, same⟩
    exact ⟨worker, cargo, [], effect, same⟩
  case h_3 =>
    refine .next (finishStatus_withdrawn _ _ _ site) fun next last aside => .pure ⟨aside.worker, ?_⟩
    rcases aside.cargo with same | ⟨working, same⟩
    · exact ⟨self.cargo, self.inFlightPayload, aside.disk ▸ .nothing, same⟩
    · exact ⟨self.withoutBatch.cargo, self.inFlightPayload, aside.disk ▸ .withdrawn working, same⟩

end Results

/-! ## Turns -/

theorem refreshQueueOldest_captures :
    Ends (self.refreshQueueOldest readers) (fun next last =>
      Capture readers ⟨site, self.cargo, captured⟩ ⟨last, next.cargo, captured⟩ ∧
        next.cargo = { self.cargo with queue := next.queue }) site :=
  .bind (.flashed fun _ _ run => .pure ⟨.refreshed run, rfl⟩)

theorem complete_moves {post : Post} (result : HttpsExchange.Result) (sent : site.worker.outstanding = some post) (now : UInt32) :
    Ends (self.complete readers now result) (fun next last =>
      Moves readers ⟨site, self.cargo, captured⟩ ⟨last, next.cargo, captured⟩)
      { site with worker := { site.worker with exchanges := ⟨post, result⟩ :: site.worker.exchanges } } := by
  unfold complete
  have finishes := @finish_affects readers { site with
    worker := { site.worker with exchanges := ⟨post, result⟩ :: site.worker.exchanges } }
    (self.noted now result (self.acceptedResult readers result)) ⟨post, result⟩ now
  refine .next finishes ?_
  rintro ⟨next, archived⟩ ⟨disk, slots, _⟩ ⟨rfl, cargo, inFlightPayload, effect, same⟩
  have concluded : (next.concluded result (self.acceptedResult readers result) archived).cargo = { cargo with inFlightPayload } :=
    (concluded_cargo result _ archived).trans same
  refine .bind (.ask fun reply worker step => ?_)
  cases step with
  | release =>
    have freed : { (next.concluded result (self.acceptedResult readers result) archived) with operation := .None }.cargo =
        { cargo with operation := .None, inFlightPayload } :=
      congrArg (fun cargo : Cargo => { cargo with operation := .None }) concluded
    have completed : Move readers ⟨site, self.cargo, captured⟩ ⟨⟨disk, slots, ⟨none, ⟨post, result⟩ :: site.worker.exchanges⟩⟩,
        { cargo with operation := .None, inFlightPayload }, captured⟩ := .completed result sent slots inFlightPayload effect
    rw [← freed] at completed
    refine (@refreshQueueOldest_captures readers captured _ _).mono fun refreshed last refreshes => ?_
    exact .tail (.single completed) (.capture refreshes.1)
  | elsewhere _ _ other => cases other

/-! ### Requests -/

inductive Submitted (before : LiveUploadAsync) (site : Site) (operation : Operation) (payload : Bytes) :
    Bool × LiveUploadAsync → Site → Prop
  | refused {next : LiveUploadAsync} {last : Site} (aside : Aside before site next last) :
    Submitted before site operation payload (false, next) last
  | taken {next : LiveUploadAsync} {last : Site} (post : Post) (url : post.url = before.config.url operation)
    (sent : post.payload = .of payload) (free : site.worker.outstanding = none)
    (cargo : next.cargo = { before.cargo with operation }) (disk : last.disk = site.disk) (slots : last.slots = site.slots)
    (worker : last.worker = { site.worker with outstanding := some post }) :
    Submitted before site operation payload (true, next) last

theorem token_same (operation : Operation) (site : Site) : Ends (self.token operation) (fun _ last => last = site) site := by
  unfold token
  split
  · exact .asked rfl fun _ => rfl
  · split <;> exact .pure rfl

theorem submitHttps_submitted (operation : Operation) (payload : Bytes) (site : Site) :
    Ends (self.submitHttps operation payload) (Submitted self site operation payload) site := by
  unfold submitHttps
  refine .next (token_same operation site) ?_
  rintro token _ rfl
  split
  · exact .pure (.refused ⟨rfl, rfl, rfl⟩)
  · refine .bind (.ask fun taken worker step => ?_)
    cases step with
    | refused => exact .pure (.refused (.refl _))
    | taken _ free =>
      refine .bind (.asked rfl fun now => ?_)
      exact .pure (.taken _ rfl rfl free rfl rfl rfl rfl)
    | elsewhere _ _ other => cases other

structure Free (site : Site) (cargo : Cargo) : Prop where
  free : site.worker.outstanding = none
  working : cargo.batchAcknowledged = false

theorem Submitted.requests {operation : Operation} {payload : Bytes} {outcome : Bool × LiveUploadAsync}
    (submitted : Submitted self site operation payload outcome last) (free : Free site self.cargo)
    (sends : Submits self.cargo (.of payload) operation) :
    Requests ⟨site, self.cargo, captured⟩ ⟨last, outcome.2.cargo, captured⟩ := by
  obtain ⟨disk, slots, worker⟩ := last
  cases submitted with
  | refused aside => 
    have cargo := aside.cargo
    have disk := aside.disk
    have worker := aside.worker
    dsimp only at cargo disk worker
    subst disk worker
    rw [cargo]
    exact .single (.aside slots)
  | taken post url sent none cargo disk same worker =>
    dsimp only at disk worker same
    subst disk worker same
    dsimp only
    rw [cargo]
    exact .single (.submitted operation post ⟨_, url⟩ free.free free.working (sent ▸ sends))

theorem submitStatus_requests (free : Free site self.cargo) :
    Ends self.submitStatus (fun next last => Requests ⟨site, self.cargo, captured⟩ ⟨last, next.cargo, captured⟩)
      site := by
  have submits (operation : Operation) (status : operation.status = true) (payload : Bytes) :
      Ends (self.submitHttps operation payload)
        (fun outcome last => Requests ⟨site, self.cargo, captured⟩ ⟨last, outcome.2.cargo, captured⟩) site := by
    refine (submitHttps_submitted operation payload site).mono fun _ _ submitted => submitted.requests free ?_
    cases operation <;> first | exact trivial | cases status
  have status : self.statusOperation.status = true := by
    unfold statusOperation
    repeat' split
    all_goals rfl
  unfold submitStatus
  refine .told rfl (.bind (.asked rfl fun payload => .next (submits _ status payload) fun outcome last moves => ?_))
  exact .told rfl (.pure moves)

def Cargo.Waits (cargo : Cargo) : Prop := 0 < cargo.queue.pendingRecords ∨ cargo.volatilePayload ≠ []

theorem oldestPayload_requests (free : Free site self.cargo) (waits : self.cargo.Waits) :
    Ends self.oldestPayload (fun outcome last => Free last outcome.2.cargo ∧
      (outcome.1 = true → Submits outcome.2.cargo (.of outcome.2.inFlightPayload) .Snapshot) ∧
      Request ⟨site, self.cargo, captured⟩ ⟨last, outcome.2.cargo, captured⟩) site := by
  unfold oldestPayload
  split
  case isTrue some =>
    refine .bind (.flashed fun peeked disk run => .pure ⟨⟨free.free, free.working⟩, fun found => ⟨rfl, ?_⟩, ?_⟩)
    · exact peek_found run found
    · exact .durable free.free free.working some run
  case isFalse none =>
    have some : self.volatilePayload ≠ [] := waits.resolve_left none
    have nothing : self.queue.pendingRecords = 0 := Nat.eq_zero_of_not_pos none
    exact .pure ⟨⟨free.free, free.working⟩, fun _ => ⟨rfl, nothing, rfl, some⟩, .volatile free.free free.working nothing⟩

theorem submitSingle_requests (free : Free site self.cargo) (waits : self.cargo.Waits) :
    Ends self.submitSingle (fun next last => Requests ⟨site, self.cargo, captured⟩ ⟨last, next.cargo, captured⟩)
      site := by
  unfold submitSingle
  refine .next (@oldestPayload_requests captured _ _ free waits) ?_
  rintro ⟨found, taken⟩ middle ⟨free, sends, first⟩
  dsimp only
  split
  · exact .pure (.single first)
  case isFalse available =>
    refine .next (submitHttps_submitted _ _ middle) fun outcome last submitted => ?_
    have moves : Requests ⟨site, self.cargo, captured⟩ ⟨last, outcome.2.cargo, captured⟩ :=
      .head first (submitted.requests free (sends (by simpa using available)))
    split
    case isTrue => exact .pure moves
    case isFalse refused =>
      refine .pure (moves.tail (.landed ?_))
      cases submitted with
      | refused aside => exact (congrArg Worker.outstanding aside.worker).trans free.free
      | taken => exact absurd rfl refused

theorem submitBatch_requests (free : Free site self.cargo) (some : self.batchPayload ≠ []) :
    Ends self.submitBatch (fun next last => Requests ⟨site, self.cargo, captured⟩ ⟨last, next.cargo, captured⟩)
      site :=
  .next (submitHttps_submitted _ _ site) fun _ _ submitted => .pure (submitted.requests free ⟨some, rfl⟩)

theorem nextBatchId_same (site : Site) : Ends nextBatchId (fun _ last => last = site) site := by
  unfold nextBatchId
  refine .bind (.asked rfl fun first => ?_)
  refine .bind (.asked rfl fun second => ?_)
  refine .bind (.asked rfl fun third => ?_)
  exact .bind (.asked rfl fun fourth => .pure rfl)

theorem prepareBatch_requests (free : Free site self.cargo) (none : self.batchPayload = []) (waits : self.cargo.Waits) :
    Ends self.prepareBatch (fun next last => Free last next.cargo ∧ next.cargo.Waits ∧
      Request ⟨site, self.cargo, captured⟩ ⟨last, next.cargo, captured⟩) site := by
  unfold prepareBatch
  refine .bind (.flashed fun batch disk run => ?_)
  obtain ⟨error, same⟩ := peekBatch_queue run
  have waits : 0 < batch.queue.pendingRecords ∨ self.volatilePayload ≠ [] := by
    rw [same]
    exact waits
  dsimp only
  split
  case isTrue =>
    refine .pure ⟨⟨free.free, free.working⟩, waits, ?_⟩
    exact .prepared free.free free.working none run _ _ _ (.inl rfl) fun some => absurd none some
  case isFalse several =>
    have several : 1 < batch.payloads.length := by
      simp only [Bool.or_eq_true, decide_eq_true_eq, not_or] at several
      omega
    refine .next (nextBatchId_same _) ?_
    rintro batchId _ rfl
    split
    · refine .pure ⟨⟨free.free, free.working⟩, waits, ?_⟩
      exact .prepared free.free free.working none run _ _ _ (.inl rfl) fun _ => ⟨several, _, rfl⟩
    · refine .pure ⟨⟨free.free, free.working⟩, waits, ?_⟩
      exact .prepared free.free free.working none run _ _ _ (.inr rfl) fun some => absurd rfl some

theorem submitSnapshot_requests (free : Free site self.cargo) (waits : self.cargo.Waits) :
    Ends self.submitSnapshot (fun next last => Requests ⟨site, self.cargo, captured⟩ ⟨last, next.cargo, captured⟩)
      site := by
  unfold submitSnapshot
  split
  case isTrue some => exact submitBatch_requests free (by simpa using some)
  case isFalse none =>
    split
    · refine .next (@prepareBatch_requests captured _ _ free (by simpa using none) waits) ?_
      rintro prepared middle ⟨free, waits, first⟩
      split
      case isTrue some =>
        exact (@submitBatch_requests captured _ _ free (by simpa using some)).mono fun next last => .head first
      case isFalse => exact (@submitSingle_requests captured _ _ free waits).mono fun next last => .head first
    · exact submitSingle_requests free waits

theorem HttpsPacing.next_snapshot {pacing : HttpsPacing} {now : UInt32} {busy connected backoff : Bool}
    {lastCompletion retryMs : UInt32} {statusRequested hasSnapshot : Bool}
    (work : pacing.next now busy connected backoff lastCompletion retryMs statusRequested hasSnapshot = .Snapshot) :
    hasSnapshot = true := by
  unfold HttpsPacing.next at work
  repeat' split at work
  all_goals first | assumption | cases work

/-! ### The turn -/

theorem repaired_cargo (now : UInt32) : (self.repaired now).cargo = self.cargo := by
  unfold repaired
  split <;> rfl

theorem dispatch_requests (working : self.batchAcknowledged = false) (now : UInt32) :
    Ends (self.dispatch now) (fun next last => Requests ⟨site, self.cargo, captured⟩ ⟨last, next.cargo, captured⟩)
      site := by
  have restarts : Ends self.restarting (fun _ last => last = site) site := by
    unfold restarting
    split
    · exact .asked rfl fun _ => rfl
    · exact .pure rfl
  unfold dispatch
  refine .next restarts ?_
  rintro restart here rfl
  split
  · exact .pure .refl
  refine .bind (.asked rfl fun connected => ?_)
  split
  · exact .pure .refl
  refine .bind (.ask fun idle worker step => .bind (.asked rfl fun connected => ?_))
  have same : worker = here.worker := by
    cases step with
    | busy => rfl
    | free => rfl
    | elsewhere _ _ other => cases other
  subst same
  rw [← repaired_cargo now]
  -- A busy worker is left alone.
  have free (work : (self.repaired now).pacing.next now (!idle) connected (self.repaired now).backoff
      (self.repaired now).completedMs (self.repaired now).config.reconnectIntervalMs.toUInt32
      ((self.repaired now).statusRequested || (self.repaired now).fallbackRequested)
      (decide (0 < (self.repaired now).queue.pendingRecords) || !(self.repaired now).volatilePayload.isEmpty) ≠ .Wait) :
      Free here (self.repaired now).cargo := by
    refine ⟨?_, ?_⟩
    · cases step with
      | busy => exact absurd (if_pos rfl) work
      | free none => exact none
      | elsewhere _ _ other => cases other
    · rw [repaired_cargo]
      exact working
  dsimp only
  split
  case h_1 => exact .pure .refl
  case h_2 work => exact submitStatus_requests (free (by rw [work]; decide))
  case h_3 work =>
    have waits : (self.repaired now).cargo.Waits := by
      have some := HttpsPacing.next_snapshot work
      rw [Bool.or_eq_true, decide_eq_true_eq, Bool.not_eq_true', List.isEmpty_eq_false_iff] at some
      exact some
    exact submitSnapshot_requests (free (by rw [work]; decide)) waits

theorem acknowledgeRecord_removes (record : Bytes) :
    Ends (self.acknowledgeRecord readers record) (fun next last => ∃ popped queue disk,
      Disk.device.Runs (self.queue.popIfMatches record) site.disk (popped, queue) disk ∧ last = { site with disk } ∧
        next.cargo = { self.cargo with
          queue, batchAckIndex := if popped then self.batchAckIndex + 1 else self.batchAckIndex }) site := by
  unfold acknowledgeRecord
  refine .bind (.flashed fun outcome disk run => ?_)
  obtain ⟨popped, queue⟩ := outcome
  cases popped with
  | false => exact .pure ⟨_, _, _, run, rfl, rfl⟩
  | true =>
    refine .pure ⟨_, _, _, run, rfl, ?_⟩
    have stamped : ({ self with queue }.stamped readers record).cargo = { self.cargo with queue } := stamped_cargo record
    exact congrArg (fun cargo : Cargo => { cargo with batchAckIndex := self.batchAckIndex + 1 }) stamped

theorem proceed_moves (now : UInt32) :
    Ends (self.proceed readers now) (fun next last =>
      Moves readers ⟨site, self.cargo, captured⟩ ⟨last, next.cargo, captured⟩) site := by
  unfold proceed
  split
  case isTrue acknowledged =>
    split
    case h_1 record found =>
      refine (acknowledgeRecord_removes record).mono ?_
      rintro next _ ⟨popped, queue, disk, run, rfl, cargo⟩
      rw [cargo]
      exact .single (.removed record acknowledged found run)
    case h_2 whole =>
      have finished : Move readers ⟨site, self.cargo, captured⟩
          ⟨site, { self.withoutBatch with batchAcknowledged := false }.cargo, captured⟩ :=
        .finished acknowledged whole
      refine .next (@refreshQueueOldest_captures readers captured _ _) ?_
      rintro refreshed middle ⟨refreshes, cargo⟩
      have working : refreshed.batchAcknowledged = false := congrArg Cargo.batchAcknowledged cargo
      exact (@dispatch_requests captured _ _ working now).mono fun next last later =>
        .head finished (.head (.capture refreshes) later.moves)
  case isFalse working => exact (dispatch_requests (by simpa using working) now).mono fun next last later => later.moves

theorem serviceHttps_moves (now : UInt32) :
    Ends (self.serviceHttps readers now) (fun next last =>
      Moves readers ⟨site, self.cargo, captured⟩ ⟨last, next.cargo, captured⟩) site := by
  unfold serviceHttps
  split
  · exact .pure .refl
  · refine .bind (.ask fun reply worker step => ?_)
    cases step with
    | nothing => exact proceed_moves now
    | completed result sent =>
      refine .next (@complete_moves readers captured _ _ _ result sent now) fun next middle first => ?_
      exact (@proceed_moves readers captured _ _ now).mono fun after last second => first.trans second
    | elsewhere _ _ other => cases other

theorem loop_moves :
    Ends (self.loop readers) (fun next last => Moves readers ⟨site, self.cargo, captured⟩ ⟨last, next.cargo, captured⟩)
      site := by
  unfold loop
  split
  · exact .pure .refl
  · exact .bind (.asked rfl fun now => serviceHttps_moves now)

/-! ### Captures and boots -/

/-- The payloads captured after a call of `publishIfDue`: those that go to flash. -/
def capturedBy (self : LiveUploadAsync) (decimals : UInt32 → Bytes) (state : LiveUpload.AppState) (stored : Bool)
    (captured : List Bytes) : List Bytes :=
  if stored && self.queue.ready then captured ++ [self.snapshot decimals state] else captured

theorem store_captures (payload : Bytes) :
    Ends (self.store payload) (fun outcome last =>
      Captures readers ⟨site, self.cargo, captured⟩
        ⟨last, outcome.2.cargo, if outcome.1 && self.queue.ready then captured ++ [payload] else captured⟩) site := by
  unfold store
  split
  case isTrue on =>
    refine .bind (.flashed fun outcome disk run => ?_)
    obtain ⟨stored, queue⟩ := outcome
    have captures : Capture readers ⟨site, self.cargo, captured⟩ ⟨{ site with disk }, { self.cargo with queue },
        if stored then captured ++ [payload] else captured⟩ := .stored payload on run
    rw [on]
    cases stored <;> exact .pure (.single captures)
  case isFalse off =>
    have off : self.queue.ready = false := Bool.eq_false_of_not_eq_true off
    rw [off]
    split
    case isTrue => exact .pure .refl
    case isFalse room =>
      have room : self.volatilePayload = [] := by simpa using room
      exact .pure (.single (.held payload off room))

theorem unauthorized_same (site : Site) : Ends self.unauthorized (fun _ last => last = site) site := by
  unfold unauthorized
  split
  · exact .pure rfl
  · refine .bind (.asked rfl fun restart => ?_)
    split
    · exact .pure rfl
    · refine .bind (.asked rfl fun bearer => ?_)
      split
      · exact .pure rfl
      · exact .bind (.asked rfl fun deviceId => .pure rfl)

theorem publishIfDue_captures (decimals : UInt32 → Bytes) (state : LiveUpload.AppState) :
    Ends (self.publishIfDue readers decimals state) (fun outcome last =>
      Captures readers ⟨site, self.cargo, captured⟩
        ⟨last, outcome.2.cargo, self.capturedBy decimals state outcome.1 captured⟩) site := by
  have captures : Ends (self.captureHttps readers decimals state) (fun outcome last =>
      Captures readers ⟨site, self.cargo, captured⟩
        ⟨last, outcome.2.cargo, self.capturedBy decimals state outcome.1 captured⟩) site := by
    unfold captureHttps
    refine .next (unauthorized_same site) ?_
    rintro refused here rfl
    split
    · exact .bind (.asked rfl fun now => .pure .refl)
    refine .bind (.asked rfl fun now => .next (@store_captures readers captured _ { self with lastPublishMs := now } _) ?_)
    rintro ⟨stored, next⟩ last first
    dsimp only
    cases stored with
    | false => exact .pure first
    | true =>
      simp only [Bool.not_true, Bool.false_eq_true, if_false]
      split
      · refine .next (@refreshQueueOldest_captures readers (self.capturedBy decimals state true captured) _ _) ?_
        exact fun refreshed last second => .pure (first.tail second.1)
      · exact .pure first
  unfold publishIfDue
  split
  · exact .pure .refl
  · refine .bind (.asked rfl fun now => ?_)
    split
    · exact captures
    · exact .pure .refl

end Calls

/-! ## Whole runs -/

structure Boot where
  management : LiveUpload
  config : Config
  remoteManagementEnabled : Bool
  appliedConfigVersion : UInt32
  bearerRotation : Option AppBearerRotation
  hosted : config.host.isEmpty = false

def Boot.program (boot : Boot) (limit : Nat) : Upload (Bool × LiveUploadAsync) :=
  LiveUploadAsync.begin { management := boot.management, config := boot.config } limit boot.config true
    boot.remoteManagementEnabled boot.appliedConfigVersion boot.bearerRotation

/-- The main loop over any number of boots, whatever the worker, the server and the other peers answer. -/
inductive Reached (readers : UploadReaders) (limit : Nat) : Site → LiveUploadAsync → List Bytes → Prop
  | boot (boot : Boot) (partition : String) (partitionSize : Nat) (totalBytes : UInt32)
      (slots : Slots AppBearerRotation.layout) {ok : Bool} {self : LiveUploadAsync} {site : Site}
      (run : Site.device.Runs (boot.program limit) ⟨blank partition partitionSize totalBytes, slots, {}⟩ (ok, self) site) :
      Reached readers limit site self []
  -- A request under way is lost with the power; what the server has answered is not.
  | reboot (boot : Boot) (slots : Slots AppBearerRotation.layout) {site last : Site} {before self : LiveUploadAsync}
      {captured : List Bytes} {ok : Bool} (earlier : Reached readers limit site before captured)
      (run : Site.device.Runs (boot.program limit) ⟨site.disk, slots, { site.worker with outstanding := none }⟩ (ok, self) last) :
      Reached readers limit last self captured
  | publish (decimals : UInt32 → Bytes) (state : LiveUpload.AppState) {site last : Site} {self next : LiveUploadAsync}
      {captured : List Bytes} {stored : Bool} (earlier : Reached readers limit site self captured)
      (run : Site.device.Runs (self.publishIfDue readers decimals state) site (stored, next) last) :
      Reached readers limit last next (self.capturedBy decimals state stored captured)
  | turn {site last : Site} {self next : LiveUploadAsync} {captured : List Bytes}
      (earlier : Reached readers limit site self captured)
      (run : Site.device.Runs (self.loop readers) site next last) : Reached readers limit last next captured
  -- Whatever else is done to the device leaves the members of its uploads.
  | other (slots : Slots AppBearerRotation.layout) (next : LiveUploadAsync) {site : Site} {self : LiveUploadAsync}
      {captured : List Bytes} (earlier : Reached readers limit site self captured) (same : next.cargo = self.cargo) :
      Reached readers limit { site with slots } next captured

/-- So many turns of a device that uploads, and whatever else between them but a restart. -/
inductive Interleaved (readers : UploadReaders) (site : Site) (self : LiveUploadAsync) (captured : List Bytes) :
    Nat → Site → LiveUploadAsync → List Bytes → Prop
  | start : Interleaved readers site self captured 0 site self captured
  | publish (decimals : UInt32 → Bytes) (state : LiveUpload.AppState) {turns : Nat} {middle last : Site}
      {between next : LiveUploadAsync} {later : List Bytes} {stored : Bool}
      (earlier : Interleaved readers site self captured turns middle between later)
      (run : Site.device.Runs (between.publishIfDue readers decimals state) middle (stored, next) last) :
      Interleaved readers site self captured turns last next (between.capturedBy decimals state stored later)
  | turn {turns : Nat} {middle last : Site} {between next : LiveUploadAsync} {later : List Bytes}
      (earlier : Interleaved readers site self captured turns middle between later) (on : between.enabled = true)
      (ready : between.workerReady = true) (run : Site.device.Runs (between.loop readers) middle next last) :
      Interleaved readers site self captured (turns + 1) last next later
  | other (slots : Slots AppBearerRotation.layout) (next : LiveUploadAsync) {turns : Nat} {middle : Site}
      {between : LiveUploadAsync} {later : List Bytes}
      (earlier : Interleaved readers site self captured turns middle between later) (same : next.cargo = between.cargo) :
      Interleaved readers site self captured turns { middle with slots } next later

def Point.blank (partition : String) (partitionSize : Nat) (totalBytes : UInt32)
    (slots : Slots AppBearerRotation.layout) : Point :=
  ⟨⟨StoreForwardQueue.blank partition partitionSize totalBytes, slots, {}⟩, .fresh {}, []⟩

section Runs

variable {readers : UploadReaders} {limit : Nat} {captured : List Bytes} {site : Site} {self : LiveUploadAsync}

theorem boot_booted (boot : Boot) (slots : Slots AppBearerRotation.layout) (cargo : Cargo) :
    Ends (boot.program limit)
      (fun outcome last => Booted limit ⟨site, cargo, captured⟩ ⟨last, outcome.2.cargo, captured⟩)
      ⟨site.disk, slots, { site.worker with outstanding := none }⟩ := by
  unfold Boot.program LiveUploadAsync.begin
  refine .bind (.asked rfl fun bootCounter => .bind (.asked rfl fun now => ?_))
  simp only [Bool.not_true, Bool.false_eq_true, if_false, boot.hosted]
  refine .bind (.flashed fun outcome disk run => ?_)
  dsimp only
  split
  · exact .pure (.booted slots run)
  · refine .bind (.asked rfl fun ready => ?_)
    split <;> exact .pure (.booted slots run)

theorem Booted.fresh {point next : Point} (booted : Booted limit point next) :
    next.cargo = .fresh next.cargo.queue ∧ next.site.worker.outstanding = none := by
  cases booted
  exact ⟨rfl, rfl⟩

theorem Moves.keeps {invariant : Point → Prop}
    (keeps : ∀ point next, Move readers point next → invariant point → invariant next) {point next : Point}
    (moves : Moves readers point next) (holds : invariant point) : invariant next := by
  induction moves with
  | refl => exact holds
  | tail _ move holds => exact keeps _ _ move holds

theorem reached_invariant {invariant : Point → Prop}
    (starts : ∀ partition partitionSize totalBytes slots, invariant (.blank partition partitionSize totalBytes slots))
    (boots : ∀ point next, Booted limit point next → invariant point → invariant next)
    (keeps : ∀ point next, Move readers point next → invariant point → invariant next)
    (reached : Reached readers limit site self captured) : invariant ⟨site, self.cargo, captured⟩ := by
  induction reached with
  | boot boot partition partitionSize totalBytes slots run =>
    refine boots _ _ ?_ (starts partition partitionSize totalBytes slots)
    exact (@boot_booted limit [] ⟨blank partition partitionSize totalBytes, slots, {}⟩ boot slots (.fresh {})).runs run
  | @reboot boot slots site last before self captured ok earlier run holds =>
    exact boots _ _ ((boot_booted boot slots before.cargo).runs run) holds
  | publish decimals state earlier run holds =>
    exact ((publishIfDue_captures decimals state).runs run).moves.keeps keeps holds
  | turn earlier run holds => exact Moves.keeps keeps (loop_moves.runs run) holds
  | other slots next earlier same holds =>
    rw [same]
    exact keeps _ _ (.request (.aside slots)) holds

theorem Interleaved.keeps {invariant : Point → Prop}
    (keeps : ∀ point next, Move readers point next → invariant point → invariant next) {turns : Nat} {last : Site}
    {next : LiveUploadAsync} {more : List Bytes} (interleaved : Interleaved readers site self captured turns last next more)
    (holds : invariant ⟨site, self.cargo, captured⟩) : invariant ⟨last, next.cargo, more⟩ := by
  induction interleaved with
  | start => exact holds
  | publish decimals state earlier run holds =>
    exact ((publishIfDue_captures decimals state).runs run).moves.keeps keeps holds
  | turn earlier on ready run holds => exact Moves.keeps keeps (loop_moves.runs run) holds
  | other slots next earlier same holds =>
    rw [same]
    exact keeps _ _ (.request (.aside slots)) holds

end Runs

end LiveUploadAsync

end ApexiDevices
