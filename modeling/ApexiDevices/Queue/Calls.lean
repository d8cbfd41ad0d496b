import ApexiDevices.Queue.Boot

set_option autoImplicit false

namespace ApexiDevices

open Device

/-- The pending payloads in the order they leave: the inactive segment is the older one. -/
def fifo (active : Segment) (pending : Segment → List Bytes) : List Bytes :=
  pending active.other ++ pending active

/-- A boot from this flash finds these payloads and this drop count. -/
def Recoverable (stored : Stored) (payloads : List Bytes) (dropped : Nat) : Prop :=
  ∃ metadata pending, Holds stored metadata pending ∧ fifo metadata.activeSegment pending = payloads ∧
    metadata.droppedRecords = dropped

def Working (queue : StoreForwardQueue) (stored : Stored) (payloads : List Bytes) : Prop :=
  ∃ pending, Ready queue stored pending ∧ fifo queue.metadata.activeSegment pending = payloads

theorem Working.recoverable {queue : StoreForwardQueue} {stored : Stored} {payloads : List Bytes}
    (working : Working queue stored payloads) :
    Recoverable stored payloads queue.metadata.droppedRecords := by
  obtain ⟨pending, ready, order⟩ := working
  exact ⟨queue.metadata, pending, ready.holds, order, rfl⟩

theorem Working.withError {queue : StoreForwardQueue} {stored : Stored} {payloads : List Bytes}
    (working : Working queue stored payloads) (error : String) :
    Working { queue with lastError := error } stored payloads := by
  obtain ⟨pending, ready, order⟩ := working
  exact ⟨pending, ready.withError error, order⟩

namespace StoreForwardQueue

variable {D : Model LittleFs Disk} {disk : Disk} {crash : Disk → Prop} {queue : StoreForwardQueue}
  {payloads : List Bytes}

def Counts (queue : StoreForwardQueue) (pending : Segment → List Bytes) : Prop :=
  ∀ segment, queue.count segment = (pending segment).length

theorem Counts.total {pending : Segment → List Bytes} (counts : queue.Counts pending) :
    queue.pendingRecords = (fifo queue.metadata.activeSegment pending).length := by
  rw [pendingRecords, counts .zero, counts .one, fifo, List.length_append]
  cases queue.metadata.activeSegment with
  | zero => exact Nat.add_comm _ _
  | one => rfl

theorem pendingRecords_eq (working : Working queue disk.stored payloads) :
    queue.pendingRecords = payloads.length := by
  obtain ⟨pending, ready, rfl⟩ := working
  exact Counts.total fun segment => (ready.segment segment).count

theorem Counts.oldest {pending : Segment → List Bytes} (counts : queue.Counts pending)
    {payload : Bytes} {rest : List Bytes}
    (order : fifo queue.metadata.activeSegment pending = payload :: rest) :
    ∃ later, pending queue.oldestSegment = payload :: later ∧
      fifo queue.metadata.activeSegment (Function.update pending queue.oldestSegment later) = rest := by
  have counted := counts queue.metadata.activeSegment.other
  rw [oldestSegment]
  cases older : pending queue.metadata.activeSegment.other with
  | nil =>
    rw [older] at counted
    rw [fifo, older, List.nil_append] at order
    simp only [counted, List.length_nil, gt_iff_lt, Nat.lt_irrefl, if_false]
    exact ⟨rest, order, by simp [fifo, older]⟩
  | cons first later =>
    rw [older] at counted
    rw [fifo, older, List.cons_append, List.cons.injEq] at order
    obtain ⟨rfl, same⟩ := order
    simp only [counted, List.length_cons, gt_iff_lt, Nat.succ_pos, if_true]
    exact ⟨later, older, by simp [fifo, same]⟩

/-- The bytes behind the replay head of a segment in use, and behind its records. -/
theorem shape_bytes {segment : Segment} {payloads : List Bytes} {whole left : Bytes}
    (file : disk.files (.segment segment) = some (whole ++ left))
    (shape : SegmentShape queue segment (some whole) payloads) :
    (disk.files (.segment segment)).isSome ∧
      queue.metadata.head segment ≤ (disk.content (.segment segment)).length ∧
      (disk.content (.segment segment)).drop (queue.metadata.head segment) = records payloads ++ left := by
  obtain ⟨dead, bytes, start⟩ := shape.bytes
  have content : disk.content (.segment segment) = dead ++ (records payloads ++ left) := by
    rw [Disk.content, file, Option.getD_some, Option.some.inj bytes, List.append_assoc]
  refine ⟨by rw [file]; rfl, ?_, ?_⟩
  · rw [content, List.length_append, start]
    exact Nat.le_add_right _ _
  · rw [content, ← start, List.drop_left]

theorem pending_bytes {segment : Segment} {payloads : List Bytes}
    (ready : SegmentReady queue segment (disk.files (.segment segment)) payloads) :
    (disk.files (.segment segment)).isSome ∧
      queue.metadata.head segment ≤ (disk.content (.segment segment)).length ∧
      (disk.content (.segment segment)).drop (queue.metadata.head segment) = records payloads := by
  obtain ⟨dead, bytes, -⟩ := ready.bytes
  have shape := ready.toSegmentShape
  rw [bytes] at shape
  have found := @shape_bytes disk _ segment payloads _ [] (by rw [bytes, List.append_nil]) shape
  rwa [List.append_nil] at found

def peeked (queue : StoreForwardQueue) : List Bytes → Peeked
  | [] => ⟨false, [], queue⟩
  | payload :: _ => ⟨true, payload, { queue with lastError := "" }⟩

theorem peekRecord_observes {payload rest : Bytes} (on : queue.ready = true) (some : queue.pendingRecords ≠ 0)
    (good : Storable payload) (present : (disk.files (.segment queue.oldestSegment)).isSome)
    (within : queue.metadata.head queue.oldestSegment ≤ (disk.content (.segment queue.oldestSegment)).length)
    (bytes : (disk.content (.segment queue.oldestSegment)).drop (queue.metadata.head queue.oldestSegment) =
      record payload ++ rest) :
    Disk.device.Observes disk queue.peek ⟨true, payload, { queue with lastError := "" }⟩ := by
  have split : (disk.content (.segment queue.oldestSegment)).drop
      (queue.metadata.head queue.oldestSegment) =
      (RecordHeader.ofPayload payload).bytes ++ (payload ++ rest) := by
    rw [bytes, record, List.append_assoc]
  have body : (disk.content (.segment queue.oldestSegment)).drop
      (queue.metadata.head queue.oldestSegment + RecordHeader.size) = payload ++ rest := by
    rw [← RecordHeader.bytes_length (RecordHeader.ofPayload payload)]
    exact drop_add_of_append split
  unfold peek
  simp only [some, on, decide_false, Bool.not_true, Bool.or_self, Bool.false_eq_true, if_false,
    Model.Observes, wp_openRead, present, wp_seek, within, decide_true, Bool.and_self]
  refine (readHeader_observes payload split).then ?_
  have read := readPayload_observes true payload.length payload.length [] body (Nat.le_refl _)
    (Nat.zero_add _).symm
  simp only [ofBytes_record payload good, RecordHeader.bytes_length, bne_self_eq_false,
    ofPayload_valid payload good, Bool.not_true, Bool.or_self, ofPayload_length, Bool.false_eq_true,
    if_false]
  refine read.then ?_
  simp only [List.nil_append, bne_self_eq_false, ofPayload_checksum, Bool.or_self, Bool.false_eq_true,
    if_false]
  exact ⟨rfl, rfl, rfl⟩

theorem peek_observes (working : Working queue disk.stored payloads) :
    Disk.device.Observes disk queue.peek (queue.peeked payloads) := by
  have total := pendingRecords_eq working
  obtain ⟨pending, ready, order⟩ := working
  cases payloads with
  | nil =>
    unfold peek
    simp only [total, List.length_nil, decide_true, Bool.or_true, if_true]
    exact ⟨rfl, rfl, rfl⟩
  | cons payload rest =>
    obtain ⟨later, held, -⟩ := Counts.oldest (fun segment => (ready.segment segment).count) order
    have good : Storable payload := ready.storable _ payload (held ▸ List.mem_cons_self)
    obtain ⟨present, within, bytes⟩ := pending_bytes (held ▸ ready.segment queue.oldestSegment)
    have some : queue.pendingRecords ≠ 0 := by simp [total]
    exact peekRecord_observes ready.ready some good present within bytes

theorem peek_closed (off : queue.ready = false) :
    D.Observes disk queue.peek ⟨false, [], queue⟩ := by
  unfold peek
  simp only [off, Bool.not_false, Bool.true_or, if_true]
  exact ⟨rfl, rfl, rfl⟩

theorem popIfMatches_closed (submitted : Bytes) (discarded : Bool) (off : queue.ready = false) :
    D.Observes disk (queue.popIfMatches submitted discarded)
      (queue.pendingRecords == 0, queue) := by
  unfold popIfMatches
  refine (peek_closed off).then ?_
  exact ⟨rfl, rfl, rfl⟩

theorem pop_nothing (discarded : Bool) (nothing : queue.ready = false ∨ queue.pendingRecords = 0) :
    D.Observes disk (queue.pop discarded) (false, queue) := by
  have stop : (!queue.ready || decide (queue.pendingRecords = 0)) = true := by
    rcases nothing with off | none <;> simp [*]
  unfold pop
  rw [if_pos stop]
  exact ⟨rfl, rfl, rfl⟩

theorem saturatingAdd_lt (value increment : Nat) (small : value < 2 ^ 32) :
    saturatingAdd value increment < 2 ^ 32 := by
  unfold saturatingAdd
  dsimp only
  split <;> omega

def dropsAfter (queue : StoreForwardQueue) (discarded : Bool) : Nat :=
  if discarded then saturatingAdd queue.metadata.droppedRecords else queue.metadata.droppedRecords

theorem advanced_shape {segment : Segment} {file : Option Bytes} {payload : Bytes} {later : List Bytes}
    (shape : SegmentShape queue segment file (payload :: later)) (discarded : Bool) :
    SegmentShape (queue.advanced segment (RecordHeader.size + payload.length) discarded) segment file
      later := by
  obtain ⟨⟨dead, bytes, start⟩, tail, count, bounded⟩ := shape
  have length : (records (payload :: later)).length =
      RecordHeader.size + payload.length + (records later).length := by
    rw [records_cons, List.length_append, record_length]
  refine ⟨⟨dead ++ record payload, ?_, ?_⟩, ?_, ?_, bounded⟩
  · rw [bytes, records_cons, List.append_assoc]
  · simp [advanced, start]
  · simp only [advanced, Function.update_self, tail, length]
    omega
  · simp [advanced, count]

theorem advanced_fits {segment : Segment} {file : Option Bytes} {later : List Bytes} {recordBytes : Nat}
    (fits : queue.metadata.Fits) (discarded : Bool)
    (shape : SegmentShape (queue.advanced segment recordBytes discarded) segment file later) :
    (queue.advanced segment recordBytes discarded).metadata.Fits where
  reserved := fits.reserved
  head other := by
    by_cases same : other = segment
    · have bounded := shape.bounded
      rw [shape.tail] at bounded
      subst same
      exact (Nat.le_add_right _ _).trans_lt (bounded.trans (by decide))
    · simpa [advanced, same] using fits.head other
  droppedRecords := by
    have added := saturatingAdd_lt queue.metadata.droppedRecords 1 fits.droppedRecords
    cases discarded
    · exact fits.droppedRecords
    · exact added
  corruptionEvents := fits.corruptionEvents
  quarantinedBytes := fits.quarantinedBytes

theorem emptied_segments (queue : StoreForwardQueue) (stored : Stored) (pending : Segment → List Bytes)
    (segment : Segment)
    (others : ∀ other, other ≠ segment → SegmentReady queue other (stored.segments other) (pending other))
    (other : Segment) :
    SegmentReady (queue.emptied segment) other ((stored.reclaim segment).segments other)
      (Function.update pending segment [] other) := by
  by_cases same : other = segment
  · subst same
    simpa [Stored.reclaim] using emptied_ready queue other
  · have kept : SegmentReady (queue.emptied segment) other (stored.segments other) (pending other) :=
      (others other same).transfer (Function.update_of_ne same _ _) (Function.update_of_ne same _ _) (Function.update_of_ne same _ _)
    simpa [Stored.reclaim, same] using kept

theorem emptied_tail_le (queue : StoreForwardQueue) (segment other : Segment) :
    (queue.emptied segment).tail other ≤ queue.tail other := by
  by_cases same : other = segment <;> simp [emptied, measured, same]

theorem pop_wp (discarded : Bool) {payload : Bytes} {rest : List Bytes}
    {post : Bool × StoreForwardQueue → Disk → Prop}
    (working : Working queue disk.stored (payload :: rest))
    (before : ∀ last : Disk, last.stored = disk.stored → crash last)
    (committed : ∀ last : Disk, Recoverable last.stored rest (queue.dropsAfter discarded) →
      disk.stored.Kept last.stored → disk.stored.commits < last.stored.commits → crash last)
    (after : ∀ (last : Disk) (popped : StoreForwardQueue), Working popped last.stored rest →
      popped.metadata.droppedRecords = queue.dropsAfter discarded →
      popped.segmentMaximumBytes = queue.segmentMaximumBytes →
      (∀ segment, popped.tail segment ≤ queue.tail segment) →
      disk.stored.Kept last.stored → disk.stored.commits < last.stored.commits → post (true, popped) last) :
    Disk.device.wp (queue.pop discarded) post crash disk := by
  have total := pendingRecords_eq working
  obtain ⟨pending, ready, order⟩ := working
  obtain ⟨later, held, removed⟩ := Counts.oldest (fun segment => (ready.segment segment).count) order
  have good : Storable payload := ready.storable _ payload (held ▸ List.mem_cons_self)
  have segment := held ▸ ready.segment queue.oldestSegment
  obtain ⟨present, within, bytes⟩ := pending_bytes segment
  have split : (disk.content (.segment queue.oldestSegment)).drop
      (queue.metadata.head queue.oldestSegment) =
      (RecordHeader.ofPayload payload).bytes ++ (payload ++ records later) := by
    rw [bytes, records_cons, record, List.append_assoc]
  unfold pop
  have more : ¬ (!queue.ready || decide (queue.pendingRecords = 0)) = true := by
    simp [total, ready.ready]
  rw [if_neg more]
  simp only [wp_openRead, present, wp_seek, within, decide_true, Bool.and_self, Bool.not_true,
    Bool.false_eq_true, if_false]
  refine (readHeader_observes payload split).then ?_
  simp only [ofBytes_record payload good, RecordHeader.bytes_length, bne_self_eq_false,
    ofPayload_valid payload good, Bool.not_true, Bool.or_self, ofPayload_length, Bool.false_eq_true,
    if_false]
  have shape := advanced_shape segment.toSegmentShape discarded
  have fits := advanced_fits ready.fits discarded shape
  generalize queue.oldestSegment = seg at held removed shape fits present ⊢
  have others (other : Segment) (differs : other ≠ seg) :
      SegmentReady (queue.advanced seg (RecordHeader.size + payload.length) discarded) other
        (disk.stored.segments other) (pending other) :=
    (ready.segment other).transfer (Function.update_of_ne differs _ _) rfl (Function.update_of_ne differs _ _)
  have storable (other : Segment) : ∀ entry ∈ Function.update pending seg later other, Storable entry := by
    intro entry member
    by_cases same : other = seg
    · subst same
      rw [Function.update_self] at member
      exact ready.storable other entry (held ▸ List.mem_cons_of_mem _ member)
    · rw [Function.update_of_ne same] at member
      exact ready.storable other entry member
  have drops : (queue.advanced seg (RecordHeader.size + payload.length) discarded).metadata.droppedRecords =
      queue.dropsAfter discarded := rfl
  have active : (queue.advanced seg (RecordHeader.size + payload.length)
      discarded).metadata.activeSegment = queue.metadata.activeSegment := rfl
  have capacity : (queue.advanced seg (RecordHeader.size + payload.length)
      discarded).segmentMaximumBytes = queue.segmentMaximumBytes := rfl
  have tails : (queue.advanced seg (RecordHeader.size + payload.length) discarded).tail = queue.tail := rfl
  have on : (queue.advanced seg (RecordHeader.size + payload.length) discarded).ready = true := ready.ready
  generalize queue.advanced seg (RecordHeader.size + payload.length) discarded = popped
    at shape fits others drops active capacity tails on ⊢
  have stampedFits := fits.stamped
  -- Whatever file the drained segment has become, the committed head decides what is pending.
  have holds (stored : Stored) (file : Option Bytes)
      (saved : stored.metadata = some popped.metadata.stamped.bytes)
      (segments : stored.segments = Function.update disk.stored.segments seg file)
      (here : SegmentHolds file (popped.metadata.head seg) later) :
      Recoverable stored rest (queue.dropsAfter discarded) := by
    refine ⟨popped.metadata.stamped, Function.update pending seg later, ⟨.saved rfl stampedFits saved, ?_,
      storable⟩, active ▸ removed, drops⟩
    intro other
    by_cases same : other = seg
    · subst same
      simpa [segments] using here
    · simpa [segments, same] using (others other same).holds
  refine Model.wp_bind.mpr (saveMetadata_wp popped before ?_)
  intro saved savedStored
  have kept : disk.stored.Kept saved.stored := savedStored ▸ ⟨rfl, rfl, rfl⟩
  have commits : saved.stored.commits = disk.stored.commits + 1 := by
    rw [savedStored]
    rfl
  have savedCrash (last : Disk) (same : last.stored = saved.stored) : crash last := by
    refine committed last (holds _ (disk.stored.segments seg) ?_ ?_ shape.holds) (same ▸ kept)
      (by rw [same, commits]; exact Nat.lt_succ_self _)
    · rw [same, savedStored]
      rfl
    · rw [same, savedStored, Function.update_eq_self]
      rfl
  refine ⟨savedCrash saved rfl, ?_⟩
  simp only [Bool.not_true, Bool.false_eq_true, if_false]
  by_cases empty : later = []
  case neg =>
    have counted : ¬ popped.count seg = 0 := by
      rw [shape.count]
      exact fun none => empty (List.length_eq_zero_iff.mp none)
    simp only [counted, if_false]
    refine ⟨savedCrash saved rfl, after _ _ ⟨Function.update pending seg later, ?_, active ▸ removed⟩ drops
      capacity (fun segment => by rw [tails]) kept (by rw [commits]; exact Nat.lt_succ_self _)⟩
    refine (ready_of_commit popped on fits (fun other => ?_) storable (capacity.trans_lt ready.capacity)
      savedStored).withError ""
    by_cases same : other = seg
    · subst same
      rw [Function.update_self]
      exact ⟨shape, fun none => absurd none empty⟩
    · rw [Function.update_of_ne same]
      exact others other same
  subst empty
  have counted : popped.count seg = 0 := by
    rw [shape.count]
    rfl
  simp only [counted, if_true]
  refine Model.wp_bind.mpr (truncateSegment_wp _ seg savedCrash ?_)
  intro middle truncated
  rw [savedStored] at truncated
  have truncatedCrash (last : Disk) (same : last.stored = middle.stored) : crash last := by
    refine committed last (holds _ (some []) ?_ ?_ (.reset rfl rfl)) ?_ ?_
    · rw [same, truncated]
      rfl
    · rw [same, truncated]
      rfl
    · exact same ▸ truncated ▸ ⟨rfl, rfl, rfl⟩
    · rw [same, truncated]
      exact Nat.lt_succ_self _
  refine ⟨truncatedCrash middle rfl, ?_⟩
  simp only [Bool.not_true, Bool.false_eq_true, if_false]
  refine Model.wp_bind.mpr (saveMetadata_wp _ truncatedCrash ?_)
  intro last resaved
  rw [truncated] at resaved
  have segments := emptied_segments { popped with metadata := popped.metadata.stamped }
    (disk.stored.commit popped.metadata.stamped) pending seg
    fun other differs => (others other differs).transfer rfl rfl rfl
  have settled := ready_of_commit (emptied { popped with metadata := popped.metadata.stamped } seg) on
    (measured_fits stampedFits seg 0 0 0 (by decide)) segments storable (capacity.trans_lt ready.capacity)
    resaved
  have keptLast : disk.stored.Kept last.stored := resaved ▸ ⟨rfl, rfl, rfl⟩
  have commitsLast : disk.stored.commits < last.stored.commits := by
    rw [resaved]
    exact Nat.lt_succ_of_lt (Nat.lt_succ_self _)
  have working := settled.withError ""
  have crashed : crash last := committed last
    ⟨_, _, settled.holds, active ▸ removed, drops⟩ keptLast commitsLast
  refine ⟨crashed, crashed, after last _ ⟨_, working, active ▸ removed⟩ drops capacity ?_ keptLast commitsLast⟩
  intro other
  rw [← tails]
  exact emptied_tail_le { popped with metadata := popped.metadata.stamped } seg other

theorem popIfMatches_wp (submitted : Bytes) (discarded : Bool)
    {post : Bool × StoreForwardQueue → Disk → Prop} (working : Working queue disk.stored payloads)
    (before : ∀ last : Disk, last.stored = disk.stored → crash last)
    (committed : ∀ (rest : List Bytes) (last : Disk), payloads = submitted :: rest →
      Recoverable last.stored rest (queue.dropsAfter discarded) → disk.stored.Kept last.stored →
      disk.stored.commits < last.stored.commits → crash last)
    (other : payloads.head? ≠ some submitted →
      post (true, (queue.peeked payloads).queue) disk)
    (after : ∀ (rest : List Bytes) (last : Disk) (popped : StoreForwardQueue), payloads = submitted :: rest →
      Working popped last.stored rest →
      popped.metadata.droppedRecords = queue.dropsAfter discarded →
      popped.segmentMaximumBytes = queue.segmentMaximumBytes →
      (∀ segment, popped.tail segment ≤ queue.tail segment) →
      disk.stored.Kept last.stored → disk.stored.commits < last.stored.commits → post (true, popped) last) :
    Disk.device.wp (queue.popIfMatches submitted discarded) post crash disk := by
  refine (peek_observes working).then ?_
  cases payloads with
  | nil =>
    have total := pendingRecords_eq working
    simp only [peeked, Bool.not_false, if_true, total, List.length_nil, beq_self_eq_true]
    exact ⟨before disk rfl, other (by simp)⟩
  | cons payload rest =>
    simp only [peeked, Bool.not_true, Bool.false_eq_true, if_false]
    by_cases same : payload = submitted
    · subst same
      simp only [ne_eq, not_true_eq_false, if_false]
      exact pop_wp discarded (working.withError "") before (fun last => committed rest last rfl)
        fun last popped => after rest last popped rfl
    · simp only [ne_eq, same, not_false_eq_true, if_true]
      exact ⟨before disk rfl, other (by simpa using same)⟩

def full (queue : StoreForwardQueue) (payload : Bytes) : Prop :=
  queue.segmentMaximumBytes <
    queue.tail queue.metadata.activeSegment + (RecordHeader.size + payload.length)

/-- The pending records of the older segment: those a rotation drops. -/
def olderRecords (queue : StoreForwardQueue) : Nat := queue.count queue.metadata.activeSegment.other

theorem fifo_drop_older (working : Working queue disk.stored payloads) :
    ∃ pending, Ready queue disk.stored pending ∧ payloads.drop queue.olderRecords =
      pending queue.metadata.activeSegment ∧ payloads = fifo queue.metadata.activeSegment pending := by
  obtain ⟨pending, ready, order⟩ := working
  refine ⟨pending, ready, ?_, order.symm⟩
  rw [olderRecords, (ready.segment _).count, ← order, fifo, List.drop_left]

theorem enqueue_refused (disk : Disk) (payload : Bytes)
    (refused : queue.ready = false ∨ ¬ Storable payload ∨
      queue.segmentMaximumBytes < RecordHeader.size + payload.length) :
    ∃ error, D.Observes disk (queue.enqueue payload)
      (false, { queue with lastError := error }) := by
  unfold enqueue
  by_cases early : (!queue.ready || payload.isEmpty ||
      decide (payload.length > kMaximumPayloadBytes)) = true
  · rw [if_pos early]
    exact ⟨_, rfl, rfl, rfl⟩
  · rw [if_neg early]
    have large : RecordHeader.size + payload.length > queue.segmentMaximumBytes := by
      simp only [Bool.or_eq_true, Bool.not_eq_true', decide_eq_true_eq, not_or, Bool.not_eq_false,
        List.isEmpty_iff, gt_iff_lt, Nat.not_lt] at early
      obtain ⟨⟨on, some⟩, bounded⟩ := early
      refine (refused.resolve_left (by simp [on])).resolve_left fun bad => bad ⟨?_, bounded⟩
      exact List.length_pos_iff.mpr some
    simp only [large, if_true]
    exact ⟨_, rfl, rfl, rfl⟩

@[simp] theorem appended_metadata (payload : Bytes) : (queue.appended payload).metadata = queue.metadata := rfl

@[simp] theorem appended_tail_active (payload : Bytes) :
    (queue.appended payload).tail queue.metadata.activeSegment =
      queue.tail queue.metadata.activeSegment + (RecordHeader.size + payload.length) :=
  Function.update_self _ _ _

@[simp] theorem appended_count_active (payload : Bytes) :
    (queue.appended payload).count queue.metadata.activeSegment =
      queue.count queue.metadata.activeSegment + 1 :=
  Function.update_self _ _ _

theorem appended_shape {payloads : List Bytes} {whole payload : Bytes}
    (shape : SegmentShape queue queue.metadata.activeSegment (some whole) payloads)
    (room : ¬ queue.full payload) (capacity : queue.segmentMaximumBytes < segmentLimit) :
    SegmentShape (queue.appended payload) queue.metadata.activeSegment (some (whole ++ record payload))
      (payloads ++ [payload]) := by
  obtain ⟨⟨dead, bytes, start⟩, tail, count, -⟩ := shape
  refine ⟨⟨dead, ?_, start⟩, ?_, ?_, ?_⟩
  · rw [Option.some.inj bytes, records_append, records_cons, records_nil, List.append_nil, List.append_assoc]
  · simp [tail, Nat.add_assoc]
  · simp [count]
  · rw [appended_tail_active]
    exact (Nat.le_of_not_lt room).trans_lt capacity

theorem appendReady_wp (payload : Bytes) {pending : Segment → List Bytes}
    {post : Bool × StoreForwardQueue → Disk → Prop} (ready : Ready queue disk.stored pending)
    (storable : Storable payload) (room : ¬ queue.full payload)
    (short : ∀ last : Disk, Holds last.stored queue.metadata pending → disk.stored.Kept last.stored →
      last.stored.reclaims = disk.stored.reclaims → last.stored.appends < disk.stored.appends + 2 →
      crash last)
    (after : ∀ last : Disk, Ready (queue.appended payload) last.stored
        (Function.update pending queue.metadata.activeSegment
          (pending queue.metadata.activeSegment ++ [payload])) →
      disk.stored.Kept last.stored → last.stored.reclaims = disk.stored.reclaims →
      last.stored.appends = disk.stored.appends + 2 →
      crash last ∧ post (true, queue.appended payload) last) :
    Disk.device.wp (queue.appendRecord payload) post crash disk := by
  have here := ready.segment queue.metadata.activeSegment
  obtain ⟨dead, bytes, start⟩ := here.bytes
  have content : disk.stored.content queue.metadata.activeSegment =
      dead ++ records (pending queue.metadata.activeSegment) := by
    rw [Stored.content, bytes, Option.getD_some]
  have bounded : (dead ++ records (pending queue.metadata.activeSegment)).length < segmentLimit := by
    have bounded := here.bounded
    rwa [here.tail, ← start, ← List.length_append] at bounded
  refine appendRecord_wp queue payload (by rw [bytes]; rfl) storable.nonempty ?_ ?_
  -- cut inside the record: a part of it stands behind the tail, and no count knows of it
  · intro last part writes within few torn
    refine short last ⟨.saved ready.stamped ready.fits ?_, fun other => ?_, ready.storable⟩
      (torn ▸ ⟨rfl, rfl, rfl⟩) (by rw [torn]; rfl) (by rw [torn]; exact Nat.add_lt_add_left few _)
    · rw [torn]
      exact ready.saved
    · by_cases same : other = queue.metadata.activeSegment
      · subst same
        refine .whole dead ((record payload).take part) ?_ start ⟨payload, part, storable, within, rfl⟩ bounded
        rw [torn, ← content]
        exact Function.update_self _ _ _
      · have untouched : last.stored.segments other = disk.stored.segments other := by
          rw [torn]
          exact Function.update_of_ne same _ _
        rw [untouched]
        exact (ready.segment other).holds
  -- the whole record: the active segment has one more and the other is as it was
  · intro last written
    refine after last ⟨ready.ready, ready.stamped, ready.fits, ?_, fun other => ?_, fun other => ?_,
      ready.capacity⟩ (written ▸ ⟨rfl, rfl, rfl⟩) (by rw [written]; rfl) (by rw [written]; rfl)
    · rw [written]
      exact ready.saved
    · by_cases same : other = queue.metadata.activeSegment
      · subst same
        have appended : last.stored.segments queue.metadata.activeSegment =
            some (dead ++ records (pending queue.metadata.activeSegment) ++ record payload) := by
          rw [written, ← content]
          exact Function.update_self _ _ _
        have shape := here.toSegmentShape
        rw [bytes] at shape
        rw [appended, Function.update_self]
        exact ⟨appended_shape shape room ready.capacity, fun none => by simp at none⟩
      · have untouched : last.stored.segments other = disk.stored.segments other := by
          rw [written]
          exact Function.update_of_ne same _ _
        rw [untouched, Function.update_of_ne same]
        exact (ready.segment other).transfer rfl (Function.update_of_ne same _ _)
          (Function.update_of_ne same _ _)
    · by_cases same : other = queue.metadata.activeSegment
      · subst same
        rw [Function.update_self]
        intro entry member
        rcases List.mem_append.mp member with old | new
        · exact ready.storable _ entry old
        · exact List.mem_singleton.mp new ▸ storable
      · rw [Function.update_of_ne same]
        exact ready.storable other

theorem saturatingAdd_zero (value : Nat) : saturatingAdd value 0 = value := by
  simp [saturatingAdd]

theorem le_saturatingAdd (value increment : Nat) (small : value < 2 ^ 32) :
    value ≤ saturatingAdd value increment := by
  unfold saturatingAdd
  dsimp only
  split <;> omega

/-- Counting the drop touches nothing but the drop count, in memory and on flash. -/
structure Counted (queue : StoreForwardQueue) (stored : Stored) : Prop where
  dropped : queue.counted.metadata.droppedRecords =
    saturatingAdd queue.metadata.droppedRecords queue.olderRecords
  active : queue.counted.metadata.activeSegment = queue.metadata.activeSegment
  capacity : queue.counted.segmentMaximumBytes = queue.segmentMaximumBytes
  tail : queue.counted.tail = queue.tail
  kept : stored.Kept (queue.storeCounted stored)
  segments : (queue.storeCounted stored).segments = stored.segments
  reclaims : (queue.storeCounted stored).reclaims = stored.reclaims
  appends : (queue.storeCounted stored).appends = stored.appends

theorem counted_counted (queue : StoreForwardQueue) (stored : Stored) : queue.Counted stored := by
  by_cases drops : queue.count queue.metadata.activeSegment.other > 0
  · have same : queue.counted = _ := if_pos drops
    have store : queue.storeCounted stored = _ := if_pos drops
    exact ⟨congrArg (·.metadata.droppedRecords) same, congrArg (·.metadata.activeSegment) same,
      congrArg (·.segmentMaximumBytes) same, congrArg (·.tail) same, store ▸ ⟨rfl, rfl, rfl⟩,
      congrArg (·.segments) store, congrArg (·.reclaims) store, congrArg (·.appends) store⟩
  · have same : queue.counted = queue := if_neg drops
    have store : queue.storeCounted stored = stored := if_neg drops
    have none : queue.olderRecords = 0 := Nat.eq_zero_of_not_pos drops
    exact ⟨by rw [same, none, saturatingAdd_zero], congrArg (·.metadata.activeSegment) same,
      congrArg (·.segmentMaximumBytes) same, congrArg (·.tail) same, by rw [store]; exact .refl stored,
      congrArg (·.segments) store, congrArg (·.reclaims) store, congrArg (·.appends) store⟩

theorem counted_ready {pending : Segment → List Bytes} {stored : Stored}
    (ready : Ready queue stored pending) : Ready queue.counted (queue.storeCounted stored) pending := by
  by_cases drops : queue.count queue.metadata.activeSegment.other > 0
  · have same : queue.counted = _ := if_pos drops
    have store : queue.storeCounted stored = _ := if_pos drops
    have fits : Metadata.Fits { queue.metadata with
        droppedRecords := saturatingAdd queue.metadata.droppedRecords
          (queue.count queue.metadata.activeSegment.other) } :=
      ⟨ready.fits.reserved, ready.fits.head, saturatingAdd_lt _ _ ready.fits.droppedRecords,
        ready.fits.corruptionEvents, ready.fits.quarantinedBytes⟩
    rw [store, same]
    exact ready_of_commit { queue with metadata := _ } ready.ready fits
      (fun segment => (ready.segment segment).transfer rfl rfl rfl) ready.storable ready.capacity rfl
  · have same : queue.counted = queue := if_neg drops
    have store : queue.storeCounted stored = stored := if_neg drops
    rwa [same, store]

theorem rotateReady_wp {pending : Segment → List Bytes} {post : Bool × StoreForwardQueue → Disk → Prop}
    (ready : Ready queue disk.stored pending)
    (before : ∀ last : Disk, last.stored = disk.stored → crash last)
    (counted : ∀ last : Disk, Ready queue.counted last.stored pending →
      last.stored = queue.storeCounted disk.stored → crash last)
    (reclaimed : ∀ last : Disk, Holds last.stored queue.counted.metadata
        (Function.update pending queue.metadata.activeSegment.other []) →
      last.stored = queue.storeReclaimed disk.stored → crash last)
    (after : ∀ last : Disk, Ready queue.rotated last.stored
        (Function.update pending queue.metadata.activeSegment.other []) →
      last.stored = queue.storeRotated disk.stored → crash last ∧ post (true, queue.rotated) last) :
    Disk.device.wp queue.rotateSegment post crash disk := by
  have facts := counted_counted queue disk.stored
  have settled := counted_ready ready
  have segments := emptied_segments queue.counted (queue.storeCounted disk.stored) pending
    queue.metadata.activeSegment.other fun other _ => settled.segment other
  have storable (other : Segment) : ∀ entry ∈
      Function.update pending queue.metadata.activeSegment.other [] other, Storable entry := by
    by_cases same : other = queue.metadata.activeSegment.other
    · simp [same]
    · rw [Function.update_of_ne same]
      exact ready.storable other
  refine rotateSegment_wp queue before (fun last same => counted last (same ▸ settled) same) ?_ ?_
  · intro last same
    refine reclaimed last ⟨.saved settled.stamped settled.fits ?_, fun other => ?_, storable⟩ same
    · rw [same]
      exact settled.saved
    · rw [same]
      by_cases here : other = queue.metadata.activeSegment.other
      · subst here
        rw [Function.update_self]
        exact .reset (by simp [storeReclaimed, Stored.reclaim]) rfl
      · rw [Function.update_of_ne here]
        have kept := (settled.segment other).holds
        simpa [storeReclaimed, Stored.reclaim, here] using kept
  · intro last same
    refine after last ?_ same
    have fits := measured_fits settled.fits queue.metadata.activeSegment.other 0 0 0 (by decide)
    exact ready_of_commit { queue.counted.emptied queue.metadata.activeSegment.other with metadata := _ }
      settled.ready ⟨fits.reserved, fits.head, fits.droppedRecords, fits.corruptionEvents,
        fits.quarantinedBytes⟩ (fun other => (segments other).transfer rfl rfl rfl) storable
      settled.capacity same

theorem appended_tail_le {payload : Bytes} (room : ¬ queue.full payload) (segment : Segment) :
    (queue.appended payload).tail segment ≤ max (queue.tail segment) queue.segmentMaximumBytes := by
  by_cases same : segment = queue.metadata.activeSegment
  · subst same
    rw [appended_tail_active]
    exact (Nat.le_of_not_lt room).trans (Nat.le_max_right _ _)
  · have kept : (queue.appended payload).tail segment = queue.tail segment :=
      Function.update_of_ne same _ _
    exact kept ▸ Nat.le_max_left _ _

theorem rotated_tail_le (stored : Stored) (segment : Segment) :
    queue.rotated.tail segment ≤ queue.tail segment := by
  rw [← (counted_counted queue stored).tail]
  exact emptied_tail_le _ _ _

theorem rotated_tail_active : queue.rotated.tail queue.rotated.metadata.activeSegment = 0 :=
  Function.update_self _ _ _

theorem enqueue_wp (payload : Bytes) {post : Bool × StoreForwardQueue → Disk → Prop}
    (working : Working queue disk.stored payloads) (storable : Storable payload)
    (room : RecordHeader.size + payload.length ≤ queue.segmentMaximumBytes)
    -- Nothing is reclaimed yet: every record is still there, and drops may be counted already.
    (before : ∀ (last : Disk) (dropped : Nat), Recoverable last.stored payloads dropped →
      queue.metadata.droppedRecords ≤ dropped → disk.stored.Kept last.stored →
      last.stored.reclaims = disk.stored.reclaims → last.stored.appends < disk.stored.appends + 2 →
      crash last)
    -- The older segment is gone, and counted.
    (reclaimed : ∀ last : Disk, queue.full payload →
      Recoverable last.stored (payloads.drop queue.olderRecords)
        (saturatingAdd queue.metadata.droppedRecords queue.olderRecords) →
      disk.stored.Kept last.stored → last.stored.reclaims = disk.stored.reclaims + 1 →
      last.stored.appends < disk.stored.appends + 2 → crash last)
    (kept : ∀ (last : Disk) (appended : StoreForwardQueue), ¬ queue.full payload →
      Working appended last.stored (payloads ++ [payload]) →
      appended.metadata.droppedRecords = queue.metadata.droppedRecords →
      appended.segmentMaximumBytes = queue.segmentMaximumBytes →
      (∀ segment, appended.tail segment ≤ max (queue.tail segment) queue.segmentMaximumBytes) →
      disk.stored.Kept last.stored → last.stored.reclaims = disk.stored.reclaims →
      last.stored.appends = disk.stored.appends + 2 → crash last ∧ post (true, appended) last)
    (rotated : ∀ (last : Disk) (appended : StoreForwardQueue), queue.full payload →
      Working appended last.stored (payloads.drop queue.olderRecords ++ [payload]) →
      appended.metadata.droppedRecords =
        saturatingAdd queue.metadata.droppedRecords queue.olderRecords →
      appended.segmentMaximumBytes = queue.segmentMaximumBytes →
      (∀ segment, appended.tail segment ≤ max (queue.tail segment) queue.segmentMaximumBytes) →
      disk.stored.Kept last.stored → last.stored.reclaims = disk.stored.reclaims + 1 →
      last.stored.appends = disk.stored.appends + 2 → crash last ∧ post (true, appended) last) :
    Disk.device.wp (queue.enqueue payload) post crash disk := by
  obtain ⟨pending, ready, drop, rfl⟩ := fifo_drop_older working
  have facts := counted_counted queue disk.stored
  have early : ¬ (!queue.ready || payload.isEmpty ||
      decide (payload.length > kMaximumPayloadBytes)) = true := by
    have some := List.length_pos_iff.mp storable.nonempty
    simp [ready.ready, some, storable.bounded]
  unfold enqueue
  rw [if_neg early]
  simp only [Nat.not_lt.mpr room, gt_iff_lt, if_false]
  by_cases tight : queue.full payload
  · have tight' : queue.segmentMaximumBytes < queue.tail queue.metadata.activeSegment +
      (RecordHeader.size + payload.length) := tight
    simp only [tight', if_true]
    have emptied (active : Segment) :
        fifo active (Function.update pending queue.metadata.activeSegment.other []) =
          pending queue.metadata.activeSegment := by
      rcases Segment.eq_or_other queue.metadata.activeSegment active with rfl | rfl <;> simp [fifo]
    have reclaims : (queue.storeReclaimed disk.stored).reclaims = disk.stored.reclaims + 1 :=
      congrArg (· + 1) facts.reclaims
    refine Model.wp_bind.mpr (rotateReady_wp ready ?_ ?_ ?_ ?_)
    · intro last same
      exact before last _ ⟨_, _, same ▸ ready.holds, rfl, rfl⟩ (Nat.le_refl _) (same ▸ .refl _)
        (by rw [same]) (by rw [same]; exact Nat.lt_add_of_pos_right (by decide))
    · intro last settled same
      refine before last _ ⟨_, _, settled.holds, by rw [facts.active], rfl⟩ ?_ (same ▸ facts.kept)
        (by rw [same, facts.reclaims]) ?_
      · rw [facts.dropped]
        exact le_saturatingAdd _ _ ready.fits.droppedRecords
      · rw [same, facts.appends]
        exact Nat.lt_add_of_pos_right (by decide)
    · intro last holds same
      refine reclaimed last tight ⟨_, _, holds, (emptied _).trans drop.symm, facts.dropped⟩ ?_ ?_ ?_
      · rw [same]
        exact ⟨facts.kept.partition, facts.kept.totalBytes, facts.kept.rejected⟩
      · rw [same, reclaims]
      · rw [same]
        exact facts.appends.trans_lt (Nat.lt_add_of_pos_right (by decide))
    · intro middle settled same
      have kept : disk.stored.Kept middle.stored := by
        rw [same]
        exact ⟨facts.kept.partition, facts.kept.totalBytes, facts.kept.rejected⟩
      have middleReclaims : middle.stored.reclaims = disk.stored.reclaims + 1 := by
        rw [same]
        exact reclaims
      have middleAppends : middle.stored.appends = disk.stored.appends := by
        rw [same]
        exact facts.appends
      have dropped : queue.rotated.metadata.droppedRecords =
          saturatingAdd queue.metadata.droppedRecords queue.olderRecords := facts.dropped
      have capacity : queue.rotated.segmentMaximumBytes = queue.segmentMaximumBytes := facts.capacity
      have space : ¬ queue.rotated.full payload := by
        rw [full, rotated_tail_active, capacity, Nat.zero_add]
        exact Nat.not_lt.mpr room
      have holdsCrash (last : Disk) (holds : Holds last.stored queue.rotated.metadata
          (Function.update pending queue.metadata.activeSegment.other []))
          (follows : middle.stored.Kept last.stored)
          (sameReclaims : last.stored.reclaims = middle.stored.reclaims)
          (few : last.stored.appends < middle.stored.appends + 2) : crash last :=
        reclaimed last tight ⟨_, _, holds, (emptied _).trans drop.symm, dropped⟩ (kept.trans follows)
          (sameReclaims.trans middleReclaims) (middleAppends ▸ few)
      refine ⟨holdsCrash middle settled.holds (.refl _) rfl (Nat.lt_add_of_pos_right (by decide)), ?_⟩
      simp only [if_true]
      refine appendReady_wp payload settled storable space holdsCrash ?_
      intro last appended follows sameReclaims written
      refine rotated last _ tight ⟨_, appended, ?_⟩ dropped capacity ?_ (kept.trans follows)
        (sameReclaims.trans middleReclaims) (written.trans (by rw [middleAppends]))
      · have active : queue.rotated.metadata.activeSegment = queue.metadata.activeSegment.other := rfl
        rw [appended_metadata, active, drop]
        simp [fifo]
      · intro segment
        have grown := appended_tail_le space segment
        rw [capacity] at grown
        exact grown.trans (max_le_max (rotated_tail_le disk.stored segment) (Nat.le_refl _))
  · have loose : ¬ queue.segmentMaximumBytes < queue.tail queue.metadata.activeSegment +
      (RecordHeader.size + payload.length) := tight
    simp only [loose, if_false]
    refine appendReady_wp payload ready storable tight ?_ ?_
    · intro last holds keptLast reclaims appends
      exact before last _ ⟨_, _, holds, rfl, rfl⟩ (Nat.le_refl _) keptLast reclaims appends
    · intro last appended keptLast reclaims appends
      refine kept last _ tight ⟨_, appended, ?_⟩ rfl rfl ?_ keptLast reclaims appends
      · simp [fifo]
      · exact appended_tail_le tight

end StoreForwardQueue

end ApexiDevices
