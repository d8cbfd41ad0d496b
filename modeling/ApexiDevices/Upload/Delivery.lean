import ApexiDevices.Upload.Moves

set_option autoImplicit false

/-!
# Every captured record is accounted for

The queue holds the records captured last. Each one before them has left it
for a reason that the exchanges, the archive of rejected records or the drop
count show.
-/

namespace ApexiDevices

open Device StoreForwardQueue Tracked

namespace LiveUploadAsync

inductive Cause where
  | Acknowledged
  | Archived
  | Rotated
  deriving DecidableEq, Repr

def Single (post : Post) (payload : Bytes) : Prop :=
  (∃ config : Config, post.url = config.url .Snapshot) ∧ post.payload = .of payload

def Batched (post : Post) (batchId : Bytes) (records : List Bytes) : Prop :=
  (∃ config : Config, post.url = config.url .Batch) ∧ ∃ deviceId, post.payload = .of (envelope deviceId batchId records)

section Evidence

variable (readers : UploadReaders) (site : Site) (payload : Bytes)

/-- The server has accepted the record by itself, or all of a batch with the record in it. -/
inductive Delivered : Prop
  | single (exchange : Exchange) (answered : exchange ∈ site.worker.exchanges) (sent : Single exchange.post payload)
    (accepted : UploadEvidence.acceptedResponse readers exchange.result.status (.of exchange.result.body) = true)
  | batch (exchange : Exchange) (answered : exchange ∈ site.worker.exchanges) (batchId : Bytes) (records : List Bytes)
    (member : payload ∈ records) (sent : Batched exchange.post batchId records)
    (accepted : BatchAcknowledgement.accepted readers exchange.result.status (.of exchange.result.body) batchId
      records.length = true)

/-- The server has refused the record by itself, and for good. -/
def Refused : Prop :=
  ∃ exchange ∈ site.worker.exchanges, Single exchange.post payload ∧ exchange.result.permanentRejection = true ∧
    UploadRecovery.payloadRejected (Int32.ofInt exchange.result.status) = true

def Justified : Cause → Prop
  | .Acknowledged => Delivered readers site payload
  | .Archived => Refused site payload ∧ ∃ slot, Saved site.disk payload slot
  | .Rotated => True

end Evidence

def rotations (gone : List (Bytes × Cause)) : Nat := gone.countP fun entry => entry.2 == .Rotated

/-- The captured records in their order, each one gone or pending. -/
structure Account (readers : UploadReaders) (limit : Nat) (site : Site) (queue : StoreForwardQueue) (captured : List Bytes)
    (gone : List (Bytes × Cause)) (pending : List Bytes) : Prop where
  whole : captured = gone.map Prod.fst ++ pending
  justified : ∀ entry ∈ gone, Justified readers site entry.1 entry.2
  simulates : Simulates limit queue site.disk pending
  dropped : queue.droppedRecords = saturated (rotations gone)

/-- No exchange is forgotten and no archived record lost. -/
structure Retained (site last : Site) : Prop where
  exchanges : ∀ exchange ∈ site.worker.exchanges, exchange ∈ last.worker.exchanges
  saved : ∀ payload slot, Saved site.disk payload slot → Saved last.disk payload slot

section Accounts

variable {readers : UploadReaders} {limit : Nat} {site last : Site} {queue : StoreForwardQueue} {captured pending : List Bytes}
  {gone : List (Bytes × Cause)} {payload : Bytes}

theorem Retained.refl (site : Site) : Retained site site := ⟨fun _ answered => answered, fun _ _ saved => saved⟩

theorem Retained.trans {middle : Site} (first : Retained site middle) (second : Retained middle last) : Retained site last :=
  ⟨fun _ answered => second.exchanges _ (first.exchanges _ answered),
    fun _ _ saved => second.saved _ _ (first.saved _ _ saved)⟩

theorem Retained.of_same (disk : Disk.Same Path.archived site.disk last.disk)
    (worker : last.worker.exchanges = site.worker.exchanges) : Retained site last :=
  ⟨fun _ answered => worker ▸ answered, fun _ _ saved => (saved_of_same disk).mpr saved⟩

theorem Delivered.retained (delivered : Delivered readers site payload) (retained : Retained site last) :
    Delivered readers last payload := by
  cases delivered with
  | single exchange answered sent accepted => exact .single exchange (retained.exchanges _ answered) sent accepted
  | batch exchange answered batchId records member sent accepted =>
    exact .batch exchange (retained.exchanges _ answered) batchId records member sent accepted

theorem Justified.retained {cause : Cause} (justified : Justified readers site payload cause) (retained : Retained site last) :
    Justified readers last payload cause := by
  cases cause with
  | Acknowledged => exact Delivered.retained justified retained
  | Archived =>
    obtain ⟨⟨exchange, answered, refused⟩, slot, saved⟩ := justified
    exact ⟨⟨exchange, retained.exchanges _ answered, refused⟩, slot, retained.saved _ _ saved⟩
  | Rotated => trivial

theorem rotations_append (first second : List (Bytes × Cause)) :
    rotations (first ++ second) = rotations first + rotations second :=
  List.countP_append

/-- The entries of records that are rotated away together. -/
def rotated (records : List Bytes) : List (Bytes × Cause) := records.map fun payload => (payload, .Rotated)

theorem rotations_rotated (records : List Bytes) : rotations (rotated records) = records.length := by
  rw [rotations, rotated, List.countP_map]
  exact List.countP_eq_length.mpr fun _ _ => rfl

theorem rotated_payloads (records : List Bytes) : (rotated records).map Prod.fst = records := by
  rw [rotated, List.map_map]
  exact List.map_id records

namespace Account

theorem justified_later (account : Account readers limit site queue captured gone pending) (retained : Retained site last) :
    ∀ entry ∈ gone, Justified readers last entry.1 entry.2 :=
  fun entry member => (account.justified entry member).retained retained

theorem kept (account : Account readers limit site queue captured gone pending) (retained : Retained site last)
    {next : StoreForwardQueue} (simulates : Simulates limit next last.disk pending)
    (dropped : next.droppedRecords = queue.droppedRecords) : Account readers limit last next captured gone pending :=
  ⟨account.whole, account.justified_later retained, simulates, dropped.trans account.dropped⟩

theorem retained (account : Account readers limit site queue captured gone pending) (retained : Retained site last)
    (disk : last.disk = site.disk) : Account readers limit last queue captured gone pending :=
  account.kept retained (disk ▸ account.simulates) rfl

theorem enqueue (account : Account readers limit site queue captured gone pending) (payload : Bytes) :
    Disk.device.wp (queue.enqueue payload) (fun outcome disk => Retained site { site with disk } ∧ ∃ lost later,
      Account readers limit { site with disk } outcome.2 (if outcome.1 then captured ++ [payload] else captured)
        (gone ++ rotated lost) later) (fun _ => True) site.disk := by
  refine Model.wp_mono (enqueue_hands account.simulates payload) ?_ fun _ _ => trivial
  rintro ⟨ok, next⟩ disk ⟨same, lost, rest, rfl, later, drops⟩
  have retained : Retained site { site with disk } := .of_same same rfl
  refine ⟨retained, lost, _, ?_, ?_, later, ?_⟩
  · have whole : captured = (gone ++ rotated lost).map Prod.fst ++ rest := by
      rw [List.map_append, rotated_payloads, List.append_assoc]
      exact account.whole
    cases ok <;> simp [whole]
  · intro entry member
    rcases List.mem_append.mp member with earlier | here
    · exact account.justified_later retained entry earlier
    · obtain ⟨record, -, rfl⟩ := List.mem_map.mp here
      trivial
  · rw [rotations_append, rotations_rotated, ← saturated_add, ← account.dropped]
    exact drops

/-- A record leaves by its bytes, while it is the oldest, and only with a reason. -/
theorem popIfMatches (account : Account readers limit site queue captured gone pending) {cause : Cause}
    (justified : Justified readers site payload cause) (durable : cause ≠ .Rotated) :
    Disk.device.wp (queue.popIfMatches payload) (fun outcome disk => outcome.1 = true ∧ Retained site { site with disk } ∧
      if pending.head? = some payload then
        Account readers limit { site with disk } outcome.2 captured (gone ++ [(payload, cause)]) pending.tail
      else Account readers limit { site with disk } outcome.2 captured gone pending) (fun _ => True) site.disk := by
  refine Model.wp_mono (popIfMatches_hands account.simulates payload) ?_ fun _ _ => trivial
  rintro ⟨ok, next⟩ disk ⟨same, done, drops, later⟩
  have retained : Retained site { site with disk } := .of_same same rfl
  refine ⟨done, retained, ?_⟩
  split
  case isTrue head =>
    obtain ⟨rest, rfl⟩ : ∃ rest, pending = payload :: rest := List.head?_eq_some_iff.mp head
    rw [if_pos head] at later
    refine ⟨?_, fun entry member => ?_, later, ?_⟩
    · rw [List.map_append, List.append_assoc]
      exact account.whole
    · rcases List.mem_append.mp member with earlier | here
      · exact account.justified_later retained entry earlier
      · rw [List.mem_singleton.mp here]
        exact justified.retained retained
    · have none : rotations [(payload, cause)] = 0 := by simp [rotations, durable]
      rw [rotations_append, none]
      exact drops.trans account.dropped
  case isFalse other =>
    rw [if_neg other] at later
    exact account.kept retained later drops

theorem refreshQueueOldest (account : Account readers limit site queue captured gone pending)
    (reader : LiveUpload.FilteredReader) :
    Disk.device.wp (LiveUpload.refreshQueueOldest reader queue) (fun outcome disk =>
      disk = site.disk ∧ Account readers limit site outcome.2 captured gone pending) (fun _ => True) site.disk := by
  obtain ⟨oldest, error, observed⟩ := refreshQueueOldest_hands reader account.simulates
  refine Model.wp_mono observed ?_ fun _ _ => trivial
  rintro outcome disk ⟨rfl, rfl⟩
  exact ⟨rfl, account.kept (.refl site) (account.simulates.withError error) rfl⟩

theorem peek (account : Account readers limit site queue captured gone pending) :
    Disk.device.wp queue.peek (fun peeked disk =>
      disk = site.disk ∧ Account readers limit site peeked.queue captured gone pending) (fun _ => True) site.disk := by
  obtain ⟨observed, later⟩ := peek_hands account.simulates
  refine Model.wp_mono observed ?_ fun _ _ => trivial
  rintro peeked disk ⟨rfl, rfl⟩
  exact ⟨rfl, account.kept (.refl site) later (by cases pending <;> rfl)⟩

theorem peekBatch (account : Account readers limit site queue captured gone pending) (maximumRecords maximumBytes : Nat) :
    Disk.device.wp (queue.peekBatch maximumRecords maximumBytes) (fun batch disk =>
      disk = site.disk ∧ Account readers limit site batch.queue captured gone pending ∧ batch.payloads <+: pending)
      (fun _ => True) site.disk := by
  obtain ⟨batch, error, observed, longest, later⟩ := peekBatch_hands account.simulates maximumRecords maximumBytes
  refine Model.wp_mono observed ?_ fun _ _ => trivial
  rintro gathered disk ⟨rfl, rfl⟩
  exact ⟨rfl, account.kept (.refl site) later rfl, longest.begins⟩

theorem preserveRejected (account : Account readers limit site queue captured gone pending) (payload : Bytes)
    (httpStatus : Int32) :
    Disk.device.wp (queue.preserveRejected payload httpStatus) (fun outcome disk =>
      Account readers limit { site with disk } outcome.2 captured gone pending ∧ Retained site { site with disk } ∧
        (outcome.1 = true → ∃ slot, Saved disk payload slot)) (fun _ => True) site.disk := by
  refine Model.wp_mono (preserveRejected_hands account.simulates payload httpStatus) ?_ fun _ _ => trivial
  rintro outcome disk ⟨later, drops, saved, archived⟩
  have retained : Retained site { site with disk } := ⟨fun _ answered => answered, saved⟩
  exact ⟨account.kept retained later drops, retained, archived⟩

theorem reboot (account : Account readers limit site queue captured gone pending) :
    Disk.device.wp (StoreForwardQueue.begin {} true limit) (fun outcome disk => Retained site { site with disk } ∧
      Account readers limit { site with disk } outcome.2 captured gone pending) (fun _ => True) site.disk := by
  refine Model.wp_mono (reboot_hands account.simulates) ?_ fun _ _ => trivial
  rintro outcome disk ⟨same, drops, later⟩
  have retained : Retained site { site with disk } := .of_same same rfl
  exact ⟨retained, account.kept retained later drops⟩

end Account

end Accounts

/-- The request under way is about what the members say. -/
def Carries (cargo : Cargo) (post : Post) : Prop :=
  match cargo.operation with
  | .Snapshot => Single post cargo.inFlightPayload
  | .Batch => Batched post cargo.batchId cargo.batchRecords
  | _ => True

structure Lot where
  records : List Bytes
  batchId : Bytes
  payload : Bytes
  acknowledged : Bool
  index : Nat

def Cargo.lot (cargo : Cargo) : Lot :=
  ⟨cargo.batchRecords, cargo.batchId, cargo.batchPayload, cargo.batchAcknowledged, cargo.batchAckIndex⟩

/-- They were captured one after another; those acknowledged so far have left the queue, like all before them. -/
structure Lot.Sound (readers : UploadReaders) (site : Site) (captured : List Bytes) (gone : Nat) (lot : Lot) : Prop where
  prepared : lot.payload ≠ [] → ∃ deviceId, lot.payload = envelope deviceId lot.batchId lot.records
  delivered : lot.acknowledged = true → ∀ record ∈ lot.records, Delivered readers site record
  aligned : ∃ start ≤ gone, lot.records <+: captured.drop start ∧ (lot.acknowledged = true → start + lot.index ≤ gone)

structure Sound (readers : UploadReaders) (limit : Nat) (point : Point) (gone : List (Bytes × Cause)) (pending : List Bytes) :
    Prop where
  account : Account readers limit point.site point.cargo.queue point.captured gone pending
  lot : point.cargo.lot.Sound readers point.site point.captured gone.length
  flight : ∀ post, point.site.worker.outstanding = some post → Carries point.cargo post
  idle : point.cargo.batchAcknowledged = true → point.site.worker.outstanding = none

section Steps

variable {readers : UploadReaders} {limit : Nat} {captured pending : List Bytes} {site last : Site} {cargo : Cargo}
  {point next : Point} {gone : List (Bytes × Cause)} {lot : Lot} {count : Nat}

namespace Lot.Sound

theorem later (sound : lot.Sound readers site captured count) (retained : Retained site last) {more : List Bytes}
    (longer : captured <+: more) {after : Nat} (grown : count ≤ after) : lot.Sound readers last more after where
  prepared := sound.prepared
  delivered done record member := (sound.delivered done record member).retained retained
  aligned := by
    obtain ⟨start, within, among, passed⟩ := sound.aligned
    exact ⟨start, within.trans grown, among.trans (longer.drop start), fun done => (passed done).trans grown⟩

theorem emptied (records : lot.records = []) (payload : lot.payload = []) (index : lot.acknowledged = true → lot.index = 0) :
    lot.Sound readers site captured count where
  prepared some := absurd payload some
  delivered _ record member := by
    rw [records] at member
    cases member
  aligned := ⟨0, Nat.zero_le _, records ▸ List.nil_prefix, fun done => by rw [index done]; exact Nat.zero_le _⟩

end Lot.Sound

/-- A record that leaves for this reason; the members are otherwise the same. -/
theorem Account.leaves {queue : StoreForwardQueue} (account : Account readers limit site queue captured gone pending)
    (sound : lot.Sound readers site captured gone.length) {payload : Bytes} {cause : Cause}
    (justified : Justified readers site payload cause) (durable : cause ≠ .Rotated) {popped : Bool} {rest : StoreForwardQueue}
    {disk : Disk} (run : Disk.device.Runs (queue.popIfMatches payload) site.disk (popped, rest) disk) :
    Retained site { site with disk } ∧ ∃ more later,
      Account readers limit { site with disk } rest captured (gone ++ more) later ∧
        lot.Sound readers { site with disk } captured (gone ++ more).length := by
  obtain ⟨-, retained, next⟩ := Model.wp_runs (account.popIfMatches justified durable) run
  refine ⟨retained, ?_⟩
  split at next
  · exact ⟨_, _, next, sound.later retained List.prefix_rfl (by simp)⟩
  · exact ⟨[], _, by rwa [List.append_nil], sound.later retained List.prefix_rfl (by simp)⟩

theorem Effect.keeps {exchange : Exchange} {after : Cargo} {disk : Disk}
    (account : Account readers limit site cargo.queue captured gone pending)
    (effect : Effect readers exchange cargo site.disk after disk)
    (sound : cargo.lot.Sound readers site captured gone.length) (working : cargo.batchAcknowledged = false)
    (answered : exchange ∈ site.worker.exchanges) (carries : Carries cargo exchange.post) :
    ∃ more rest, Account readers limit { site with disk } after.queue captured (gone ++ more) rest ∧
      after.lot.Sound readers { site with disk } captured (gone ++ more).length := by
  -- most effects take nothing out of the queue
  have stays {last : Site} {after : Cargo} (account : Account readers limit last after.queue captured gone pending)
      (lot : after.lot.Sound readers last captured gone.length) :
      ∃ more rest, Account readers limit last after.queue captured (gone ++ more) rest ∧
        after.lot.Sound readers last captured (gone ++ more).length :=
    ⟨[], pending, by rwa [List.append_nil], by rwa [List.append_nil]⟩
  have emptied : cargo.withoutBatch.lot.Sound readers site captured gone.length :=
    .emptied rfl rfl fun done => by rw [show cargo.batchAcknowledged = true from done] at working; cases working
  have sent (snapshot : cargo.operation = .Snapshot) : Single exchange.post cargo.inFlightPayload := by
    rwa [Carries, snapshot] at carries
  have refused (snapshot : cargo.operation = .Snapshot) (permanent : exchange.result.permanentRejection = true)
      (rejected : UploadRecovery.payloadRejected (Int32.ofInt exchange.result.status) = true) :
      Refused site cargo.inFlightPayload := ⟨exchange, answered, sent snapshot, permanent, rejected⟩
  cases effect with
  | nothing => exact stays account sound
  | withdrawn => exact stays account emptied
  | acknowledged batch accepted =>
    rw [Carries, batch] at carries
    refine stays account ⟨sound.prepared, fun _ record member => ?_, ?_⟩
    · exact .batch exchange answered _ _ member carries accepted
    · obtain ⟨start, within, among, -⟩ := sound.aligned
      exact ⟨start, within, among, fun _ => within⟩
  | refused batch => exact stays account emptied
  | delivered snapshot durable accepted run =>
    have delivered : Justified readers site cargo.inFlightPayload .Acknowledged :=
      .single exchange answered (sent snapshot) accepted
    exact (account.leaves sound delivered (by decide) run).2
  | archived snapshot run =>
    obtain ⟨later, retained, -⟩ := Model.wp_runs (account.preserveRejected _ _) run
    exact stays later (sound.later retained List.prefix_rfl (Nat.le_refl _))
  -- first archived, then popped: the archived file is what justifies the loss
  | @discarded snapshot durable permanent rejected queue middle saves popped rest last run =>
    obtain ⟨later, retained, saved⟩ := Model.wp_runs (account.preserveRejected _ _) saves
    obtain ⟨exchange, listed, refused⟩ := refused snapshot permanent rejected
    have archived : Justified readers { site with disk := middle } cargo.inFlightPayload .Archived :=
      ⟨⟨exchange, retained.exchanges _ listed, refused⟩, saved rfl⟩
    exact (later.leaves (sound.later retained List.prefix_rfl (Nat.le_refl _)) archived (by decide) run).2
  | emptied => exact stays account sound
  | evicted snapshot volatile same permanent saves =>
    obtain ⟨later, retained, -⟩ := Model.wp_runs (account.preserveRejected _ _) saves
    exact stays later (sound.later retained List.prefix_rfl (Nat.le_refl _))

theorem Account.rest {queue : StoreForwardQueue} (account : Account readers limit site queue captured gone pending) :
    captured.drop gone.length = pending := by
  have length : (gone.map Prod.fst).length = gone.length := List.length_map _
  rw [account.whole, ← length, List.drop_left]

/-- What is pending starts with the first member of a lot that has not left. -/
theorem Account.oldest {queue : StoreForwardQueue} {records : List Bytes}
    (account : Account readers limit site queue captured gone pending)
    {start index : Nat} {record : Bytes} (among : records <+: captured.drop start) (found : records[index]? = some record)
    (here : start + index = gone.length) : pending.head? = some record := by
  obtain ⟨short, rfl⟩ := List.getElem?_eq_some_iff.mp found
  have position : captured[start + index]? = some records[index] := by
    rw [← List.getElem?_drop]
    exact List.prefix_iff_getElem?.mp among index short
  rw [← account.rest, List.head?_drop, ← here, position]

namespace Sound

theorem later (sound : Sound readers limit point gone pending) {queue : StoreForwardQueue} {volatilePayload : Bytes}
    {disk : Disk} {captured rest : List Bytes} {more : List (Bytes × Cause)}
    (account : Account readers limit { point.site with disk } queue captured (gone ++ more) rest)
    (retained : Retained point.site { point.site with disk }) (longer : point.captured <+: captured) :
    Sound readers limit ⟨{ point.site with disk }, { point.cargo with queue, volatilePayload }, captured⟩ (gone ++ more) rest
    where
  account := account
  lot := sound.lot.later retained longer (by simp)
  flight := sound.flight
  idle := sound.idle

theorem free (account : Account readers limit site cargo.queue captured gone pending)
    (lot : cargo.lot.Sound readers site captured gone.length) (free : site.worker.outstanding = none) :
    Sound readers limit ⟨site, cargo, captured⟩ gone pending where
  account := account
  lot := lot
  flight post sent := by
    rw [show site.worker.outstanding = some post from sent] at free
    cases free
  idle _ := free

end Sound

theorem Capture.keeps (capture : Capture readers point next) (sound : Sound readers limit point gone pending) :
    ∃ lost rest, Sound readers limit next (gone ++ rotated lost) rest := by
  have same : gone ++ rotated [] = gone := List.append_nil gone
  cases capture with
  | @stored payload ok queue disk on run =>
    obtain ⟨retained, lost, rest, account⟩ := Model.wp_runs (sound.account.enqueue payload) run
    refine ⟨lost, rest, sound.later account retained ?_⟩
    cases ok with
    | true => exact List.prefix_append _ _
    | false => exact List.prefix_rfl
  | held payload => exact ⟨[], pending, sound.later (same.symm ▸ sound.account) (.refl _) List.prefix_rfl⟩
  | refreshed run =>
    obtain ⟨rfl, account⟩ := Model.wp_runs (sound.account.refreshQueueOldest readers.oldest) run
    exact ⟨[], pending, sound.later (same.symm ▸ account) (.refl _) List.prefix_rfl⟩

theorem Sound.removes (sound : Sound readers limit point gone pending) (acknowledged : point.cargo.batchAcknowledged = true)
    {record : Bytes} (found : point.cargo.batchRecords[point.cargo.batchAckIndex]? = some record) {popped : Bool}
    {queue : StoreForwardQueue} {disk : Disk}
    (run : Disk.device.Runs (point.cargo.queue.popIfMatches record) point.site.disk (popped, queue) disk) :
    popped = true ∧ ∃ more rest, Sound readers limit { point with
        site := { point.site with disk }
        cargo := { point.cargo with
          queue, batchAckIndex := if popped then point.cargo.batchAckIndex + 1 else point.cargo.batchAckIndex } }
      (gone ++ more) rest ∧ ∀ entry ∈ more, entry = (record, .Acknowledged) := by
  have delivered := sound.lot.delivered acknowledged record (List.mem_of_getElem? found)
  obtain ⟨start, within, among, passed⟩ := sound.lot.aligned
  have passed : start + point.cargo.batchAckIndex ≤ gone.length := passed acknowledged
  obtain ⟨done, retained, next⟩ := Model.wp_runs (sound.account.popIfMatches
    (show Justified readers point.site record .Acknowledged from delivered) (by decide)) run
  obtain rfl : popped = true := done
  have delivers (_ : point.cargo.batchAcknowledged = true) (record : Bytes) (member : record ∈ point.cargo.batchRecords) :
      Delivered readers { point.site with disk } record :=
    (sound.lot.delivered acknowledged record member).retained retained
  refine ⟨rfl, ?_⟩
  split at next
  case isTrue head =>
    refine ⟨_, _, .free next ⟨sound.lot.prepared, delivers, start, ?_, among, fun _ => ?_⟩ (sound.idle acknowledged), ?_⟩
    · rw [List.length_append]
      exact within.trans (Nat.le_add_right _ _)
    · rw [List.length_append]
      exact Nat.succ_le_succ passed
    · exact fun entry here => List.mem_singleton.mp here
  case isFalse other =>
    refine ⟨[], pending, ?_, fun entry none => absurd none List.not_mem_nil⟩
    rw [List.append_nil]
    refine .free next ⟨sound.lot.prepared, delivers, start, within, among, fun _ => ?_⟩ (sound.idle acknowledged)
    exact Nat.lt_of_le_of_ne passed fun here => other (sound.account.oldest among found here)

theorem Sound.aside (sound : Sound readers limit point gone pending) (slots : Slots AppBearerRotation.layout) :
    Sound readers limit { point with site := { point.site with slots } } gone pending := by
  have retained : Retained point.site { point.site with slots } := ⟨fun _ answered => answered, fun _ _ saved => saved⟩
  exact ⟨sound.account.retained retained rfl, sound.lot.later retained List.prefix_rfl (Nat.le_refl _), sound.flight,
    sound.idle⟩

theorem Request.keeps (request : Request point next) (sound : Sound readers limit point gone pending) :
    Sound readers limit next gone pending := by
  cases request with
  | prepared free working none run batchId batchPayload batchRecords records payload =>
    obtain ⟨rfl, account, begins⟩ := Model.wp_runs (sound.account.peekBatch _ _) run
    have unacknowledged {conclusion : Prop} (done : point.cargo.batchAcknowledged = true) : conclusion := by
      rw [working] at done
      cases done
    refine .free account ⟨fun some => (payload some).2, unacknowledged, gone.length, Nat.le_refl _, ?_, unacknowledged⟩ free
    rw [sound.account.rest]
    rcases records with rfl | rfl
    · exact begins
    · exact List.nil_prefix
  | durable free working some run =>
    obtain ⟨rfl, account⟩ := Model.wp_runs sound.account.peek run
    exact .free account sound.lot free
  | volatile free => exact .free sound.account sound.lot free
  | submitted operation post url free working sent =>
    have begun : Retained point.site { point.site with worker := { point.site.worker with outstanding := some post } } :=
      ⟨fun _ answered => answered, fun _ _ saved => saved⟩
    refine ⟨sound.account.retained begun rfl,
      sound.lot.later begun List.prefix_rfl (Nat.le_refl _), ?_, fun done => ?_⟩
    · intro other taken
      obtain rfl : post = other := Option.some.inj taken
      cases operation with
      | Snapshot => exact ⟨url, sent.1⟩
      | Batch =>
        obtain ⟨deviceId, prepared⟩ := sound.lot.prepared sent.1
        exact ⟨url, deviceId, sent.2.trans (congrArg CText.of prepared)⟩
      | None | Status | RotationAck | RotationProof | Fallback => trivial
    · rw [show point.cargo.batchAcknowledged = true from done] at working
      cases working
  | landed free => exact .free sound.account sound.lot free
  | aside slots => exact sound.aside slots

theorem Move.keeps (move : Move readers point next) (sound : Sound readers limit point gone pending) :
    ∃ more rest, Sound readers limit next (gone ++ more) rest := by
  have same : gone ++ [] = gone := List.append_nil gone
  cases move with
  | @completed post result sent slots inFlightPayload cargo disk effect =>
    have working : point.cargo.batchAcknowledged = false := by
      cases acknowledged : point.cargo.batchAcknowledged with
      | false => rfl
      | true =>
        have free := sound.idle acknowledged
        rw [sent] at free
        cases free
    have listed : Retained point.site ⟨point.site.disk, slots, ⟨none, ⟨post, result⟩ :: point.site.worker.exchanges⟩⟩ :=
      ⟨fun _ answered => List.mem_cons_of_mem _ answered, fun _ _ saved => saved⟩
    obtain ⟨more, rest, account, lot⟩ := Effect.keeps (sound.account.retained listed rfl) effect
      (sound.lot.later listed List.prefix_rfl (Nat.le_refl _)) working List.mem_cons_self (sound.flight post sent)
    exact ⟨more, rest, .free account lot rfl⟩
  | capture captured =>
    obtain ⟨lost, rest, sound⟩ := captured.keeps sound
    exact ⟨rotated lost, rest, sound⟩
  | removed record acknowledged found run =>
    obtain ⟨more, rest, sound, -⟩ := (sound.removes acknowledged found run).2
    exact ⟨more, rest, sound⟩
  | finished acknowledged whole =>
    refine ⟨[], pending, same.symm ▸ .free sound.account (.emptied rfl rfl fun done => ?_) (sound.idle acknowledged)⟩
    cases done
  | request requested => exact ⟨[], pending, same.symm ▸ requested.keeps sound⟩

theorem Booted.keeps (booted : Booted limit point next) (sound : Sound readers limit point gone pending) :
    Sound readers limit next gone pending := by
  cases booted with
  | booted slots run =>
    have lost : Retained point.site { point.site with slots, worker := { point.site.worker with outstanding := none } } :=
      ⟨fun _ answered => answered, fun _ _ saved => saved⟩
    obtain ⟨retained, account⟩ := Model.wp_runs (sound.account.retained lost rfl).reboot run
    exact .free account (.emptied rfl rfl fun done => nomatch done) rfl

end Steps

section Runs

variable {readers : UploadReaders} {limit : Nat} {captured : List Bytes} {site : Site} {self : LiveUploadAsync}

theorem reached_sound (reached : Reached readers limit site self captured) :
    ∃ gone pending, Sound readers limit ⟨site, self.cargo, captured⟩ gone pending := by
  refine @reached_invariant readers limit captured site self (fun point => ∃ gone pending, Sound readers limit point gone pending)
    ?_ ?_ ?_ reached
  · intro partition partitionSize totalBytes slots
    have blank : Unopened {} (StoreForwardQueue.blank partition partitionSize totalBytes) :=
      ⟨rfl, rfl, rfl, rfl, rfl, fun _ => rfl⟩
    refine ⟨[], [], .free ⟨rfl, fun entry none => absurd none List.not_mem_nil, .unopened blank, rfl⟩ ?_ rfl⟩
    exact .emptied rfl rfl fun done => nomatch done
  · rintro point next booted ⟨gone, pending, sound⟩
    exact ⟨gone, pending, booted.keeps sound⟩
  · rintro point next move ⟨gone, pending, sound⟩
    obtain ⟨more, rest, sound⟩ := move.keeps sound
    exact ⟨_, rest, sound⟩

/-- Every captured record is in the queue, in the order of the captures, or it has left it before all that are: accepted by
the server, archived after a permanent refusal, or rotated away and counted. -/
theorem delivery_accounted (reached : Reached readers limit site self captured) :
    ∃ gone pending, Account readers limit site self.queue captured gone pending := by
  obtain ⟨gone, pending, sound⟩ := reached_sound reached
  exact ⟨gone, pending, sound.account⟩

end Runs

def readDocument : Nat → JsonTree → Document
  | _, .string text => .string text
  | _, .token text =>
    if text = ascii "null" then .null
    else if text = ascii "true" then .bool true
    else if text = ascii "false" then .bool false
    else .int (Nat.ofDigitChars 10 (text.map fun byte => Char.ofNat byte.toNat) 0)
  | depth + 1, .array items => .array (items.map (readDocument depth))
  | depth + 1, .object members => .object (members.map fun entry => (.of entry.1, readDocument depth entry.2))
  | 0, _ => .null

/-- The members of these names, where the text is one object. -/
def namedMembers (names : List String) (text : Bytes) : Option Document :=
  match JsonTree.parse text with
  | some (.object members) =>
    some (readDocument 10 (.object (members.filter fun entry => names.any fun name => entry.1 == ascii name)))
  | _ => none

def treeReaders : UploadReaders where
  library := ⟨fun _ text => (JsonTree.parse text).map (readDocument 10), fun _ => 0, fun _ => 0, fun _ => 0, fun _ => 0⟩
  serialize _ := ascii "null"
  response := namedMembers ["accepted", "status"]
  batch := namedMembers ["accepted", "status", "batch_id", "accepted_count"]
  stamp := namedMembers ["timestamp"]
  oldest := LiveUpload.treeReader

def answered (body : String) : HttpsExchange.Result where
  status := 200
  tlsError := 0
  durationMs := 7
  reused := false
  permanentRejection := false
  body := ascii body

def taken : HttpsExchange.Result := answered "\x7b\"accepted\":true,\"status\":\"ok\"\x7d"

def garage : Boot where
  management := {}
  config := ⟨.literal "car-01", "app.local", 443, "/device", "token", "id", "secret", 0, 0⟩
  remoteManagementEnabled := false
  appliedConfigVersion := 0
  bearerRotation := none
  hosted := rfl

def parked : LiveUpload.AppState := ⟨.literal "2026-01-02T03:04:05Z", 5, [], ⟨true, false, true, false⟩⟩

structure Snap where
  self : LiveUploadAsync
  site : Site
  captured : List Bytes

namespace Snap

def boot (boot : Boot) (totalBytes : UInt32) : Snap :=
  let started := (boot.program 1048576).exec (Site.handle taken) ⟨blank "littlefs" 2097152 totalBytes, {}, {}⟩
  ⟨started.1.2, started.2, []⟩

def publish (snap : Snap) (state : LiveUpload.AppState) : Snap :=
  let called := (snap.self.publishIfDue treeReaders LiveUpload.zeroText state).exec (Site.handle taken) snap.site
  ⟨called.1.2, called.2, snap.self.capturedBy LiveUpload.zeroText state called.1.1 snap.captured⟩

/-- A turn; this is what the server answers to the request under way. -/
def turn (snap : Snap) (answer : HttpsExchange.Result) : Snap :=
  let called := (snap.self.loop treeReaders).exec (Site.handle answer) snap.site
  ⟨called.1, called.2, snap.captured⟩

def Sighted (snap : Snap) : Prop := Reached treeReaders 1048576 snap.site snap.self snap.captured

variable {snap : Snap}

theorem boot_sighted (boot : Boot) (totalBytes : UInt32) : (Snap.boot boot totalBytes).Sighted :=
  .boot boot "littlefs" 2097152 totalBytes {} (Site.runs_handle_pair taken _ _)

theorem publish_sighted (state : LiveUpload.AppState) (sighted : snap.Sighted) : (snap.publish state).Sighted :=
  .publish LiveUpload.zeroText state sighted (Site.runs_handle_pair taken _ _)

theorem turn_sighted (answer : HttpsExchange.Result) (sighted : snap.Sighted) : (snap.turn answer).Sighted :=
  .turn sighted (Site.runs_handle answer _ _)

def sent : Snap := ((((Snap.boot garage 2097152).publish parked).turn taken).turn taken).turn taken

theorem sent_sighted : sent.Sighted :=
  turn_sighted _ (turn_sighted _ (turn_sighted _ (publish_sighted parked (boot_sighted garage 2097152))))

end Snap

/-- One record from its capture to the empty queue. -/
theorem delivery_accounted_sent :
    Snap.sent.captured.length = 1 ∧ Snap.sent.self.queue.pendingRecords = 0 ∧
      ∃ gone pending, Account treeReaders 1048576 Snap.sent.site Snap.sent.self.queue Snap.sent.captured gone pending :=
  ⟨by decide +kernel, by decide +kernel, delivery_accounted Snap.sent_sighted⟩

end LiveUploadAsync

end ApexiDevices
