import ApexiDevices.Queue.Endurance

set_option autoImplicit false

/-!
# Calls of a ready queue when filesystem calls fail
-/

namespace ApexiDevices

open Device StoreForwardQueue

theorem Survives.of_sublist {stored : Stored} {live fewer : List Bytes} (survives : Survives stored live)
    (part : fewer.Sublist live) : Survives stored fewer := by
  obtain ⟨metadata, found, holds, kept⟩ := survives
  exact ⟨metadata, found, holds, part.trans kept⟩

theorem Enduring.survives {faults : Faults} {queue : StoreForwardQueue} {stored : Stored} {live : List Bytes}
    (enduring : Enduring faults queue stored live) : Survives stored live := by
  obtain ⟨metadata, pending, lasting, rfl⟩ := enduring
  exact lasting.survives

theorem Enduring.withError {faults : Faults} {queue : StoreForwardQueue} {stored : Stored} {live : List Bytes}
    (enduring : Enduring faults queue stored live) (error : String) :
    Enduring faults { queue with lastError := error } stored live := by
  obtain ⟨metadata, pending, lasting, order⟩ := enduring
  exact ⟨metadata, pending, lasting.withError error, order⟩

def durable (stored : Stored) : Option Metadata := Metadata.ofBytes (stored.metadata.getD [])

/-- An append to the active segment now adds a record that is found again: no bytes of a failed append
lie behind its records, and a boot would read it from the same head and in the same order. -/
structure Careful (faults : Faults) (queue : StoreForwardQueue) (stored : Stored) : Prop where
  whole : faults.append → (stored.content queue.metadata.activeSegment).length =
    queue.tail queue.metadata.activeSegment
  head : faults.stale → (durable stored).map (·.head queue.metadata.activeSegment) =
    some (queue.metadata.head queue.metadata.activeSegment)
  order : faults.rotation → (durable stored).map (·.activeSegment) = some queue.metadata.activeSegment ∨
    queue.count queue.metadata.activeSegment.other = 0

namespace Lasting

variable {faults : Faults} {queue : StoreForwardQueue} {stored : Stored} {metadata : Metadata}
  {pending : Segment → List Bytes}

theorem durable_eq (lasting : Lasting faults queue stored metadata pending) :
    durable stored = some metadata := by
  rw [durable, lasting.saved, Option.getD_some, ← lasting.durableStamped]
  exact Metadata.ofBytes_stamped metadata lasting.durableFits

theorem clean (lasting : Lasting faults queue stored metadata pending) (careful : Careful faults queue stored) :
    Clean faults queue stored metadata pending where
  whole := by
    obtain ⟨whole, left, bytes, shape, leftover⟩ := lasting.filed queue.metadata.activeSegment
    have nothing : left = [] := by
      cases leftover with
      | none => rfl
      | part payload kept storable fails room =>
        have size := careful.whole fails
        rw [Stored.content, bytes, Option.getD_some, List.length_append, shape.length] at size
        exact List.length_eq_zero_iff.mp (by omega)
    exact ⟨whole, by rw [bytes, nothing, List.append_nil], shape⟩
  head := by
    rcases lasting.head queue.metadata.activeSegment with same | ⟨fails, -⟩
    · exact same
    · have same := careful.head fails
      rw [lasting.durable_eq] at same
      exact Option.some.inj same
  order := by
    rcases lasting.active with same | ⟨fails, -⟩
    · exact .inl same
    · have order := careful.order fails
      rw [lasting.durable_eq, lasting.counts] at order
      exact order.imp Option.some.inj fun none => ⟨fails, List.length_eq_zero_iff.mp none⟩

theorem careful (lasting : Lasting faults queue stored metadata pending)
    (clean : Clean faults queue stored metadata pending) : Careful faults queue stored where
  whole _ := by
    obtain ⟨whole, file, shape⟩ := clean.whole
    rw [Stored.content, file, Option.getD_some, shape.length]
  head _ := by
    rw [lasting.durable_eq, Option.map_some, clean.head]
  order _ := by
    rw [lasting.durable_eq, Option.map_some, lasting.counts]
    exact clean.order.imp (congrArg some) fun empty => List.length_eq_zero_iff.mpr empty.2

theorem clean_appended (lasting : Lasting faults queue stored metadata pending)
    (clean : Clean faults queue stored metadata pending) {payload : Bytes} {writes : Nat} (room : ¬queue.full payload) :
    Clean faults (queue.appended payload)
      (stored.append queue.metadata.activeSegment (record payload) writes) metadata
      (grown pending queue.metadata.activeSegment payload) := by
  obtain ⟨⟨whole, file, shape⟩, head, order⟩ := clean
  have grows : grown pending queue.metadata.activeSegment payload queue.metadata.activeSegment =
      pending queue.metadata.activeSegment ++ [payload] := Function.update_self _ _ _
  have older : grown pending queue.metadata.activeSegment payload queue.metadata.activeSegment.other =
      pending queue.metadata.activeSegment.other := Function.update_of_ne (Segment.other_ne _) _ _
  refine ⟨⟨whole ++ record payload, append_active queue stored _ _ file, ?_⟩, head, ?_⟩
  · rw [appended_metadata, grows]
    exact appended_shape shape room lasting.capacity
  · rw [appended_metadata, older]
    exact order

theorem counted (lasting : Lasting faults queue stored metadata pending) :
    ∃ record, Lasting faults queue.counted (queue.storeCounted stored) record pending := by
  by_cases drops : queue.count queue.metadata.activeSegment.other > 0
  · have same : queue.counted = _ := if_pos drops
    have store : queue.storeCounted stored = _ := if_pos drops
    have fits : Metadata.Fits { queue.metadata with
        droppedRecords := saturatingAdd queue.metadata.droppedRecords
          (queue.count queue.metadata.activeSegment.other) } :=
      ⟨lasting.fits.reserved, lasting.fits.head, saturatingAdd_lt _ _ lasting.fits.droppedRecords,
        lasting.fits.corruptionEvents, lasting.fits.quarantinedBytes⟩
    rw [store, same]
    refine ⟨_, @of_commit faults { queue with metadata := _ } _ _ _ lasting.ready fits (fun segment => ?_)
      lasting.storable lasting.capacity rfl⟩
    obtain ⟨whole, left, filed⟩ := lasting.filed segment
    exact ⟨whole, left, filed.transfer rfl rfl rfl⟩
  · have same : queue.counted = queue := if_neg drops
    have store : queue.storeCounted stored = stored := if_neg drops
    rw [same, store]
    exact ⟨metadata, lasting⟩

theorem activated (lasting : Lasting faults queue stored metadata pending) (next : Segment)
    (fails : faults.rotation) (empty : pending next = []) :
    Lasting faults { queue with metadata := { queue.metadata with activeSegment := next }.stamped } stored metadata
      pending where
  ready := lasting.ready
  stamped := rfl
  fits := ⟨lasting.fits.reserved, lasting.fits.head, lasting.fits.droppedRecords, lasting.fits.corruptionEvents,
    lasting.fits.quarantinedBytes⟩
  durableStamped := lasting.durableStamped
  durableFits := lasting.durableFits
  saved := lasting.saved
  dropped := lasting.dropped
  active := .inr ⟨fails, next, empty⟩
  head := lasting.head
  filed segment :=
    have ⟨whole, left, filed⟩ := lasting.filed segment
    ⟨whole, left, filed.transfer rfl rfl rfl⟩
  storable := lasting.storable
  capacity := lasting.capacity

/-- The older segment is gone and the other one goes on as the older, though this is not committed. -/
theorem uncommitted (lasting : Lasting faults queue stored metadata pending) (fails : faults.rotation) :
    ∃ record, Lasting faults queue.rotated (queue.storeReclaimed stored) record
      (Function.update pending queue.metadata.activeSegment.other []) := by
  obtain ⟨record, counted⟩ := lasting.counted
  have emptied := counted.emptied queue.metadata.activeSegment.other (.inr fails) (.inr fails)
  exact ⟨record, emptied.activated _ fails (Function.update_self _ _ _)⟩

theorem rotated (lasting : Lasting faults queue stored metadata pending) :
    Lasting faults queue.rotated (queue.storeRotated stored) queue.rotated.metadata
      (Function.update pending queue.metadata.activeSegment.other []) := by
  obtain ⟨record, counted⟩ := lasting.counted
  have fits := measured_fits counted.fits queue.metadata.activeSegment.other 0 0 0 (by decide)
  have filed := emptied_filed queue.counted (queue.storeCounted stored) pending
    queue.metadata.activeSegment.other fun other _ => counted.filed other
  exact @of_commit faults { queue.counted.emptied queue.metadata.activeSegment.other with metadata := _ } _ _ _
    counted.ready ⟨fits.reserved, fits.head, fits.droppedRecords, fits.corruptionEvents, fits.quarantinedBytes⟩
    (fun segment =>
      have ⟨whole, left, filed⟩ := filed segment
      ⟨whole, left, filed.transfer rfl rfl rfl⟩)
    (emptied_storable _ lasting.storable) counted.capacity rfl

end Lasting

theorem rotated_clean (faults : Faults) (queue : StoreForwardQueue) (stored : Stored)
    (pending : Segment → List Bytes) :
    Clean faults queue.rotated (queue.storeRotated stored) queue.rotated.metadata
      (Function.update pending queue.metadata.activeSegment.other []) where
  whole := by
    refine ⟨[], Function.update_self _ _ _, ?_⟩
    rw [show Function.update pending queue.metadata.activeSegment.other [] queue.rotated.metadata.activeSegment =
      [] from Function.update_self _ _ _]
    exact (emptied_ready queue.counted queue.metadata.activeSegment.other).toSegmentShape.transfer rfl rfl rfl
  head := rfl
  order := .inl rfl

/-- The drop was committed, but the truncation that it announces was refused. -/
def Overcounts (before last : Disk) : Prop :=
  before.stored.commits < last.stored.commits ∧ last.stored.reclaims = before.stored.reclaims

namespace StoreForwardQueue

variable {faults : Faults} {may : FsOp → Prop} {disk : Disk} {crash : Disk → Prop} {queue : StoreForwardQueue}
  {metadata : Metadata} {pending : Segment → List Bytes} {live : List Bytes}

theorem appendLasting_failing (payload : Bytes) {post : Bool × StoreForwardQueue → Disk → Prop}
    (lasting : Lasting faults queue disk.stored metadata pending)
    (clean : Clean faults queue disk.stored metadata pending) (storable : Storable payload)
    (room : ¬queue.full payload) (tears : MayTear may → faults.append)
    (short : ∀ last : Disk, Survives last.stored (fifo queue.metadata.activeSegment pending) →
      last.stored.reclaims = disk.stored.reclaims → crash last)
    (refused : ∀ (last : Disk) (error : String),
      Lasting faults { queue with lastError := error } last.stored metadata pending →
      last.stored.reclaims = disk.stored.reclaims → post (false, { queue with lastError := error }) last)
    (after : ∀ last : Disk, Lasting faults (queue.appended payload) last.stored metadata
        (grown pending queue.metadata.activeSegment payload) →
      Clean faults (queue.appended payload) last.stored metadata
        (grown pending queue.metadata.activeSegment payload) →
      last.stored.reclaims = disk.stored.reclaims → post (true, queue.appended payload) last) :
    (Disk.failing may).wp (queue.appendRecord payload) post crash disk := by
  obtain ⟨whole, file, -⟩ := clean.whole
  have loosened : Clean .all queue disk.stored metadata pending :=
    ⟨clean.whole, clean.head, clean.order.imp_right fun stale => ⟨trivial, stale.2⟩⟩
  have parts (last : Disk) (kept writes : Nat) (same : last.stored =
      disk.stored.append queue.metadata.activeSegment ((record payload).take kept) writes) : crash last := by
    have cut := lasting.loosen.torn loosened storable trivial room same
    exact short last cut.survives (by rw [same]; rfl)
  refine appendRecord_failing queue payload (by rw [file]; rfl) (fun last kept writes _ => parts last kept writes) ?_ ?_
  · intro last kept writes error allowed _ same
    have left := lasting.torn clean storable (tears allowed) room same
    exact refused last error (left.withError error) (by rw [same]; rfl)
  · intro last same
    have appended := lasting.appended clean storable room same
    have reclaims : last.stored.reclaims = disk.stored.reclaims := by rw [same]; rfl
    have all : (record payload).take (record payload).length = record payload := List.take_length
    have grows : Clean faults (queue.appended payload) last.stored metadata
        (grown pending queue.metadata.activeSegment payload) := same ▸ lasting.clean_appended clean room
    exact ⟨parts last (record payload).length 2 (by rw [all, same]), after last appended grows reclaims⟩

structure Enqueued (faults : Faults) (queue : StoreForwardQueue) (disk : Disk) (live : List Bytes) (payload : Bytes)
    (outcome : Bool × StoreForwardQueue) (last : Disk) : Prop where
  enduring : Enduring faults outcome.2 last.stored
    (live.drop (queue.removedBy disk last) ++ if outcome.1 then [payload] else [])
  dropped : outcome.2.droppedRecords = saturatingAdd queue.droppedRecords (queue.removedBy disk last) ∨
    Overcounts disk last

theorem fifo_emptied (active current : Segment) (pending : Segment → List Bytes) :
    fifo current (Function.update pending active.other []) = pending active := by
  rcases Segment.eq_or_other active current with rfl | rfl <;> simp [fifo]

theorem fifo_grown (active : Segment) (pending : Segment → List Bytes) (payload : Bytes) :
    fifo active (grown pending active payload) = fifo active pending ++ [payload] := by
  simp [fifo, grown]

theorem rotateLasting_failing {post : Bool × StoreForwardQueue → Disk → Prop}
    (lasting : Lasting faults queue disk.stored metadata pending) (refuses : MayRefuse may → faults.rotation)
    (before : ∀ last : Disk, Survives last.stored (fifo queue.metadata.activeSegment pending) →
      last.stored.reclaims = disk.stored.reclaims → crash last)
    (gone : ∀ last : Disk, Survives last.stored (pending queue.metadata.activeSegment) →
      last.stored.reclaims = disk.stored.reclaims + 1 → crash last)
    -- The older segment is still there, though its drop may have been counted.
    (kept : ∀ (last : Disk) (next : StoreForwardQueue) (record : Metadata),
      Lasting faults next last.stored record pending →
      next.metadata.activeSegment = queue.metadata.activeSegment →
      last.stored.reclaims = disk.stored.reclaims →
      next.droppedRecords = queue.droppedRecords ∨ Overcounts disk last → post (false, next) last)
    -- It is gone, though the other one has not become the older one on flash.
    (reclaimed : ∀ (last : Disk) (error : String) (record : Metadata),
      Lasting faults { queue.rotated with lastError := error } last.stored record
        (Function.update pending queue.metadata.activeSegment.other []) →
      last.stored.reclaims = disk.stored.reclaims + 1 → post (false, { queue.rotated with lastError := error }) last)
    (after : ∀ last : Disk, last.stored = queue.storeRotated disk.stored →
      last.stored.reclaims = disk.stored.reclaims + 1 → post (true, queue.rotated) last) :
    (Disk.failing may).wp queue.rotateSegment post crash disk := by
  have facts := counted_counted queue disk.stored
  have reclaims : (queue.storeReclaimed disk.stored).reclaims = disk.stored.reclaims + 1 :=
    congrArg (· + 1) facts.reclaims
  obtain ⟨counting, counted⟩ := lasting.counted
  obtain ⟨emptying, emptied⟩ := lasting.loosen.uncommitted trivial
  have survives := emptied.survives
  rw [fifo_emptied] at survives
  refine rotateSegment_failing queue ?_ ?_ ?_ ?_ ?_ ?_ ?_
  · intro last same
    exact before last (same ▸ lasting.survives) (by rw [same])
  · intro last same
    have counts := counted.survives
    rw [facts.active] at counts
    exact before last (same ▸ counts) (by rw [same, facts.reclaims])
  · intro last same
    exact gone last (same ▸ survives) (by rw [same, reclaims])
  · intro last error _ same
    have settled := lasting.withError error
    simp only [lasting.stamped]
    exact kept last _ metadata (same ▸ settled) rfl (by rw [same]) (.inl rfl)
  · intro last error _ same
    refine kept last _ counting (same ▸ counted.withError error) facts.active (by rw [same, facts.reclaims]) ?_
    by_cases drops : queue.count queue.metadata.activeSegment.other > 0
    · have store : queue.storeCounted disk.stored = _ := if_pos drops
      have commits : last.stored.commits = disk.stored.commits + 1 := by
        rw [same, store]
        rfl
      exact .inr ⟨commits ▸ Nat.lt_succ_self _, by rw [same, facts.reclaims]⟩
    · have whole : queue.counted = queue := if_neg drops
      exact .inl (congrArg (·.metadata.droppedRecords) whole)
  · intro last error allowed same
    obtain ⟨record, uncommitted⟩ := lasting.uncommitted (refuses allowed)
    exact reclaimed last error record (same ▸ uncommitted.withError error) (by rw [same, reclaims])
  · intro last same
    have committed := lasting.rotated.survives
    rw [fifo_emptied] at committed
    have more : last.stored.reclaims = disk.stored.reclaims + 1 := by
      rw [same]
      exact reclaims
    exact ⟨gone last (same ▸ committed) more, after last same more⟩

theorem enqueue_room {payload : Bytes} (on : queue.ready = true) (storable : Storable payload)
    (room : RecordHeader.size + payload.length ≤ queue.segmentMaximumBytes) (loose : ¬queue.full payload) :
    queue.enqueue payload = queue.appendRecord payload := by
  have early : ¬(!queue.ready || payload.isEmpty || decide (payload.length > kMaximumPayloadBytes)) = true := by
    have some := List.length_pos_iff.mp storable.nonempty
    simp [on, some, storable.bounded]
  have loose' : ¬queue.segmentMaximumBytes < queue.tail queue.metadata.activeSegment +
    (RecordHeader.size + payload.length) := loose
  unfold enqueue
  rw [if_neg early]
  simp only [Nat.not_lt.mpr room, gt_iff_lt, if_false, loose']

theorem enqueue_tight {payload : Bytes} (on : queue.ready = true) (storable : Storable payload)
    (room : RecordHeader.size + payload.length ≤ queue.segmentMaximumBytes) (tight : queue.full payload) :
    queue.enqueue payload = (do
      let (rotated, queue) ← queue.rotateSegment
      if rotated then queue.appendRecord payload else return (false, queue)) := by
  have early : ¬(!queue.ready || payload.isEmpty || decide (payload.length > kMaximumPayloadBytes)) = true := by
    have some := List.length_pos_iff.mp storable.nonempty
    simp [on, some, storable.bounded]
  have tight' : queue.segmentMaximumBytes < queue.tail queue.metadata.activeSegment +
    (RecordHeader.size + payload.length) := tight
  unfold enqueue
  rw [if_neg early]
  simp only [Nat.not_lt.mpr room, gt_iff_lt, if_false, tight', if_true]

theorem enqueue_endures (payload : Bytes) (enduring : Enduring faults queue disk.stored live)
    (careful : queue.full payload ∨ Careful faults queue disk.stored) :
    (Disk.failing faults.enqueue).wp (queue.enqueue payload) (Enqueued faults queue disk live payload)
      (fun last => Survives last.stored (live.drop (queue.removedBy disk last))) disk := by
  obtain ⟨metadata, pending, lasting, rfl⟩ := enduring
  -- Nothing has been reclaimed: all that was pending still is.
  have unmoved (last : Disk) (same : last.stored.reclaims = disk.stored.reclaims) :
      (fifo queue.metadata.activeSegment pending).drop (queue.removedBy disk last) =
        fifo queue.metadata.activeSegment pending := by
    rw [removedBy_same last same, List.drop_zero]
  have kept (last : Disk) (same : last.stored.reclaims = disk.stored.reclaims) :
      queue.droppedRecords = saturatingAdd queue.droppedRecords (queue.removedBy disk last) := by
    rw [removedBy_same last same, saturatingAdd_zero]
  have whole (last : Disk) (survives : Survives last.stored (fifo queue.metadata.activeSegment pending))
      (same : last.stored.reclaims = disk.stored.reclaims) :
      Survives last.stored ((fifo queue.metadata.activeSegment pending).drop (queue.removedBy disk last)) := by
    rwa [unmoved last same]
  by_cases refused : queue.ready = false ∨ ¬Storable payload ∨
      queue.segmentMaximumBytes < RecordHeader.size + payload.length
  · obtain ⟨error, observed⟩ := @enqueue_refused (Disk.failing faults.enqueue) queue disk payload refused
    refine Model.wp_mono observed ?_ fun last same => whole last (same ▸ lasting.survives) (same ▸ rfl)
    rintro outcome last ⟨rfl, rfl⟩
    refine ⟨⟨metadata, pending, lasting.withError error, ?_⟩, .inl (kept _ rfl)⟩
    rw [unmoved _ rfl, if_neg Bool.false_ne_true, List.append_nil]
  obtain ⟨on, storable, room⟩ : queue.ready = true ∧ Storable payload ∧
      RecordHeader.size + payload.length ≤ queue.segmentMaximumBytes := by
    simpa only [not_or, Bool.not_eq_false, not_not, Nat.not_lt] using refused
  by_cases tight : queue.full payload
  case neg =>
    rw [enqueue_room on storable room tight]
    refine appendLasting_failing payload lasting (lasting.clean (careful.resolve_left tight)) storable tight
      Faults.append_of_tear whole ?_ ?_
    · intro last error left same
      refine ⟨⟨metadata, pending, left, ?_⟩, .inl (kept last same)⟩
      rw [unmoved last same, if_neg Bool.false_ne_true, List.append_nil]
    · intro last appended _ same
      refine ⟨⟨metadata, _, appended, ?_⟩, .inl (kept last same)⟩
      rw [unmoved last same, if_pos rfl, appended_metadata, fifo_grown]
  rw [enqueue_tight on storable room tight]
  have facts := counted_counted queue disk.stored
  have older : queue.olderRecords = (pending queue.metadata.activeSegment.other).length := lasting.counts _
  -- The older segment has been reclaimed: what is left are the records of the other one.
  have moved (last : Disk) (more : last.stored.reclaims = disk.stored.reclaims + 1) :
      (fifo queue.metadata.activeSegment pending).drop (queue.removedBy disk last) =
        pending queue.metadata.activeSegment := by
    rw [removedBy_older last more, older, fifo, List.drop_left]
  have dropped (last : Disk) (more : last.stored.reclaims = disk.stored.reclaims + 1) :
      queue.rotated.droppedRecords = saturatingAdd queue.droppedRecords (queue.removedBy disk last) := by
    rw [removedBy_older last more]
    exact facts.dropped
  have left (last : Disk) (survives : Survives last.stored (pending queue.metadata.activeSegment))
      (more : last.stored.reclaims = disk.stored.reclaims + 1) :
      Survives last.stored ((fifo queue.metadata.activeSegment pending).drop (queue.removedBy disk last)) := by
    rwa [moved last more]
  refine Model.wp_bind.mpr (rotateLasting_failing lasting Faults.rotation_of_refuse whole left ?_ ?_ ?_)
  · intro last next record settled active same counted
    simp only [Bool.false_eq_true, if_false]
    refine ⟨whole last (active ▸ settled.survives) same, ⟨record, pending, settled, ?_⟩, ?_⟩
    · rw [unmoved last same, if_neg Bool.false_ne_true, List.append_nil, active]
    · exact counted.imp_left fun unchanged => unchanged.trans (kept last same)
  · intro last error record settled more
    have survives := settled.survives
    rw [fifo_emptied] at survives
    simp only [Bool.false_eq_true, if_false]
    refine ⟨left last survives more, ⟨record, _, settled, ?_⟩, .inl (dropped last more)⟩
    rw [moved last more, if_neg Bool.false_ne_true, List.append_nil, fifo_emptied]
  · intro middle same more
    have settled := lasting.rotated
    have clean := rotated_clean faults queue disk.stored pending
    rw [← same] at settled clean
    have space : ¬queue.rotated.full payload := by
      have capacity : queue.rotated.segmentMaximumBytes = queue.segmentMaximumBytes := facts.capacity
      rw [full, rotated_tail_active, capacity, Nat.zero_add]
      exact Nat.not_lt.mpr room
    simp only [if_true]
    refine appendLasting_failing payload settled clean storable space Faults.append_of_tear ?_ ?_ ?_
    · intro last survives kept
      rw [fifo_emptied] at survives
      exact left last survives (kept.trans more)
    · intro last error torn kept
      refine ⟨⟨_, _, torn, ?_⟩, .inl (dropped last (kept.trans more))⟩
      rw [moved last (kept.trans more), if_neg Bool.false_ne_true, List.append_nil, fifo_emptied]
    · intro last appended _ kept
      refine ⟨⟨_, _, appended, ?_⟩, .inl (dropped last (kept.trans more))⟩
      rw [moved last (kept.trans more), if_pos rfl, appended_metadata, fifo_grown, fifo_emptied]

/-- An append that has succeeded leaves the segment ready for the next one. -/
theorem enqueue_fills (payload : Bytes) (enduring : Enduring faults queue disk.stored live)
    (room : ¬queue.full payload) (careful : Careful faults queue disk.stored) :
    (Disk.failing faults.enqueue).wp (queue.enqueue payload)
      (fun outcome last => outcome.1 = true →
        Enduring faults outcome.2 last.stored (live ++ [payload]) ∧ Careful faults outcome.2 last.stored)
      (fun _ => True) disk := by
  obtain ⟨metadata, pending, lasting, rfl⟩ := enduring
  by_cases refused : queue.ready = false ∨ ¬Storable payload ∨
      queue.segmentMaximumBytes < RecordHeader.size + payload.length
  · obtain ⟨error, observed⟩ := @enqueue_refused (Disk.failing faults.enqueue) queue disk payload refused
    refine Model.wp_mono observed ?_ fun _ _ => trivial
    rintro outcome last ⟨rfl, -⟩
    exact nofun
  obtain ⟨on, storable, fits⟩ : queue.ready = true ∧ Storable payload ∧
      RecordHeader.size + payload.length ≤ queue.segmentMaximumBytes := by
    simpa only [not_or, Bool.not_eq_false, not_not, Nat.not_lt] using refused
  rw [enqueue_room on storable fits room]
  refine appendLasting_failing payload lasting (lasting.clean careful) storable room Faults.append_of_tear
    (fun _ _ _ => trivial) (fun _ _ _ _ => nofun) ?_
  intro last appended clean _ _
  refine ⟨⟨metadata, _, appended, ?_⟩, appended.careful clean⟩
  rw [appended_metadata, fifo_grown]

theorem fileRead_asks (file : File) (length : Nat) : (file.read length).Asks Disk.reads :=
  ⟨trivial, fun _ => trivial⟩

/-- What a removal leaves, whatever failed in it: the head is gone once its removal is committed. -/
structure Removed (faults : Faults) (may : FsOp → Prop) (queue : StoreForwardQueue) (disk : Disk)
    (payload : Bytes) (rest : List Bytes) (discarded : Bool) (next : StoreForwardQueue) (last : Disk) : Prop where
  enduring : Enduring faults next last.stored
    (if disk.stored.commits < last.stored.commits then rest else payload :: rest)
  dropped : next.droppedRecords =
    if disk.stored.commits < last.stored.commits then queue.dropsAfter discarded else queue.droppedRecords
  done : disk.stored.commits < last.stored.commits ∨ MayRefuse may

theorem pop_endures (discarded : Bool) {payload : Bytes} {rest : List Bytes}
    (enduring : Enduring faults queue disk.stored (payload :: rest)) (refuses : MayRefuse may → faults.pop) :
    (Disk.failing may).wp (queue.pop discarded)
      (fun outcome => Removed faults may queue disk payload rest discarded outcome.2)
      (fun last => Survives last.stored
        (if disk.stored.commits < last.stored.commits then rest else payload :: rest)) disk := by
  obtain ⟨metadata, pending, lasting, order⟩ := enduring
  have total := lasting.counts.total
  obtain ⟨later, held, removed⟩ := Counts.oldest lasting.counts order
  have good : Storable payload := lasting.storable _ payload (held ▸ List.mem_cons_self)
  obtain ⟨whole, left, filed⟩ := lasting.filed queue.oldestSegment
  rw [held] at filed
  obtain ⟨present, within, bytes⟩ := shape_bytes filed.bytes filed.shape
  have split : (disk.content (.segment queue.oldestSegment)).drop
      (queue.metadata.head queue.oldestSegment) =
      (RecordHeader.ofPayload payload).bytes ++ (payload ++ (records later ++ left)) := by
    rw [bytes, records_cons, record, List.append_assoc, List.append_assoc]
  unfold pop
  have more : ¬(!queue.ready || decide (queue.pendingRecords = 0)) = true := by
    simp [total, order, lasting.ready]
  rw [if_neg more]
  apply Disk.wp_failing_openRead
  apply Disk.wp_failing_seek
  simp only [present, within, decide_true, Bool.and_self, Bool.not_true, Bool.false_eq_true, if_false]
  refine (Disk.observes_failing (fileRead_asks _ _) (readHeader_observes payload split)).then ?_
  simp only [ofBytes_record payload good, RecordHeader.bytes_length, bne_self_eq_false,
    ofPayload_valid payload good, Bool.not_true, Bool.or_self, ofPayload_length, Bool.false_eq_true, if_false]
  have shape := advanced_shape filed.shape discarded
  have fits := advanced_fits lasting.fits discarded shape
  generalize queue.oldestSegment = seg at held removed filed shape fits ⊢
  have segments (segment : Segment) : ∃ whole left,
      Filed faults (queue.advanced seg (RecordHeader.size + payload.length) discarded) segment
        (disk.stored.segments segment) (Function.update pending seg later segment) whole left := by
    by_cases same : segment = seg
    · subst same
      rw [Function.update_self]
      exact ⟨whole, left, filed.bytes, shape, filed.left⟩
    · obtain ⟨whole, left, filed⟩ := lasting.filed segment
      rw [Function.update_of_ne same]
      exact ⟨whole, left, filed.transfer (Function.update_of_ne same _ _) rfl (Function.update_of_ne same _ _)⟩
  have storable (segment : Segment) : ∀ entry ∈ Function.update pending seg later segment, Storable entry := by
    intro entry member
    by_cases same : segment = seg
    · subst same
      rw [Function.update_self] at member
      exact lasting.storable segment entry (held ▸ List.mem_cons_of_mem _ member)
    · rw [Function.update_of_ne same] at member
      exact lasting.storable segment entry member
  have committed := @Lasting.of_commit faults
    (queue.advanced seg (RecordHeader.size + payload.length) discarded) disk.stored _ _ lasting.ready fits segments
    storable lasting.capacity rfl
  have counted := shape.count
  -- Before the first commit nothing has changed, after it the head is gone.
  have unmoved (last : Disk) (same : last.stored = disk.stored) :
      ¬disk.stored.commits < last.stored.commits := by
    rw [same]
    exact Nat.lt_irrefl _
  have here (last : Disk) (same : last.stored = disk.stored) : Survives last.stored
      (if disk.stored.commits < last.stored.commits then rest else payload :: rest) := by
    rw [if_neg (unmoved last same), ← order, same]
    exact lasting.survives
  refine Model.wp_bind.mpr (saveMetadata_failing _ here ?_ ?_)
  · intro last error allowed same
    have settled := lasting.withError error
    simp only [Bool.not_false, if_true]
    refine ⟨here last same, ⟨metadata, pending, ?_, ?_⟩, ?_, .inr allowed⟩
    · rw [same]
      rw [← lasting.stamped] at settled
      exact settled
    · rw [if_neg (unmoved last same)]
      exact order
    · rw [if_neg (unmoved last same)]
      rfl
  · intro saved savedStored
    rw [← savedStored] at committed
    have gone (last : Disk) (more : disk.stored.commits < last.stored.commits) (survives : Survives last.stored rest) :
        Survives last.stored (if disk.stored.commits < last.stored.commits then rest else payload :: rest) := by
      rwa [if_pos more]
    have left {outcome : Bool × StoreForwardQueue} {last : Disk} {record : Metadata} {kept : Segment → List Bytes}
        (more : disk.stored.commits < last.stored.commits)
        (settled : Lasting faults outcome.2 last.stored record kept)
        (remaining : fifo outcome.2.metadata.activeSegment kept = rest)
        (dropped : outcome.2.droppedRecords = queue.dropsAfter discarded) :
        (Disk.failing may).wp (pure outcome) (fun outcome => Removed faults may queue disk payload rest discarded outcome.2)
          (fun last => Survives last.stored
            (if disk.stored.commits < last.stored.commits then rest else payload :: rest)) last := by
      refine ⟨gone last more (remaining ▸ settled.survives), ⟨record, kept, settled, ?_⟩, ?_, .inl more⟩
      · rw [if_pos more]
        exact remaining
      · rw [if_pos more]
        exact dropped
    have commits : disk.stored.commits < saved.stored.commits := by
      rw [savedStored]
      exact Nat.lt_succ_self _
    refine ⟨gone saved commits (removed ▸ committed.survives), ?_⟩
    simp only [Bool.not_true, Bool.false_eq_true, if_false]
    by_cases empty : later = []
    case neg =>
      have some : ¬(queue.advanced seg (RecordHeader.size + payload.length) discarded).count seg = 0 := by
        rw [counted]
        exact fun none => empty (List.length_eq_zero_iff.mp none)
      simp only [some, if_false]
      exact left commits (committed.withError "") removed rfl
    subst empty
    have none : (queue.advanced seg (RecordHeader.size + payload.length) discarded).count seg = 0 := counted
    simp only [none, if_true]
    refine Model.wp_bind.mpr (truncateSegment_failing _ seg ?_ ?_ ?_)
    · intro last same
      exact gone last (same ▸ commits) (same ▸ removed ▸ committed.survives)
    · intro error allowed
      exact left commits (committed.withError error) removed rfl
    · intro middle truncated
      have again : Function.update (Function.update pending seg []) seg [] = Function.update pending seg [] :=
        Function.update_idem _ _ _
      have survives := (committed.loosen.emptied seg (.inl trivial) (.inl rfl)).survives
      rw [← truncated, again] at survives
      have moreMiddle : disk.stored.commits < middle.stored.commits := by
        rw [truncated]
        exact commits
      refine ⟨gone middle moreMiddle (removed ▸ survives), ?_⟩
      simp only [Bool.not_true, Bool.false_eq_true, if_false]
      refine Model.wp_bind.mpr (saveMetadata_failing _ ?_ ?_ ?_)
      · intro last same
        exact gone last (same ▸ moreMiddle) (same ▸ removed ▸ survives)
      · intro last error allowed same
        have stale := (committed.emptied seg (.inl (refuses allowed)) (.inl rfl)).withError error
        rw [← truncated, again, ← same] at stale
        exact left (same ▸ moreMiddle) stale removed rfl
      · intro last resaved
        have filed := Lasting.emptied_filed _ saved.stored _ seg fun other _ => committed.filed other
        rw [← truncated, again] at filed
        have small := measured_fits committed.fits seg 0 0 0 (by decide)
        have settled := @Lasting.of_commit faults (StoreForwardQueue.emptied { queue.advanced seg
            (RecordHeader.size + payload.length) discarded with metadata := (queue.advanced seg
              (RecordHeader.size + payload.length) discarded).metadata.stamped } seg) middle.stored _ last.stored
          committed.ready small filed storable committed.capacity resaved
        have moreLast : disk.stored.commits < last.stored.commits := by
          rw [resaved]
          exact Nat.lt_succ_of_lt moreMiddle
        refine ⟨gone last moreLast (removed ▸ settled.survives), ?_⟩
        exact left moreLast (settled.withError "") removed rfl

end StoreForwardQueue

end ApexiDevices
