import ApexiDevices.Queue.Invariant

set_option autoImplicit false

namespace ApexiDevices

open Device

namespace StoreForwardQueue

variable {disk : Disk} {crash : Disk → Prop}

/-- A scan of one segment leaves the rest of the queue alone. -/
structure Elsewhere (queue last : StoreForwardQueue) (segment : Segment) : Prop where
  head : ∀ other, other ≠ segment → last.metadata.head other = queue.metadata.head other
  tail : ∀ other, other ≠ segment → last.tail other = queue.tail other
  count : ∀ other, other ≠ segment → last.count other = queue.count other
  active : last.metadata.activeSegment = queue.metadata.activeSegment
  dropped : last.metadata.droppedRecords = queue.metadata.droppedRecords
  fits : last.metadata.Fits
  capacity : last.segmentMaximumBytes = queue.segmentMaximumBytes

theorem measured_fits {queue : StoreForwardQueue} (fits : queue.metadata.Fits) (segment : Segment)
    (head tail count : Nat) (small : head < 2 ^ 32) :
    (queue.measured segment head tail count).metadata.Fits where
  reserved := fits.reserved
  head other := by
    by_cases here : other = segment
    · simpa [measured, here] using small
    · simpa [measured, here] using fits.head other
  droppedRecords := fits.droppedRecords
  corruptionEvents := fits.corruptionEvents
  quarantinedBytes := fits.quarantinedBytes

theorem Elsewhere.measured {queue last : StoreForwardQueue} {segment : Segment}
    (same : Elsewhere queue last segment) (head tail count : Nat) (small : head < 2 ^ 32) :
    Elsewhere queue (last.measured segment head tail count) segment where
  head other differs := (Function.update_of_ne differs _ _).trans (same.head other differs)
  tail other differs := (Function.update_of_ne differs _ _).trans (same.tail other differs)
  count other differs := (Function.update_of_ne differs _ _).trans (same.count other differs)
  active := same.active
  dropped := same.dropped
  fits := measured_fits same.fits segment head tail count small
  capacity := same.capacity

theorem Elsewhere.quarantined {queue last : StoreForwardQueue} {segment : Segment}
    (same : Elsewhere queue last segment) (corruptBytes : Nat) :
    Elsewhere queue (last.quarantined corruptBytes) segment where
  head := same.head
  tail := same.tail
  count := same.count
  active := same.active
  dropped := same.dropped
  fits := {
    reserved := same.fits.reserved
    head := same.fits.head
    droppedRecords := same.fits.droppedRecords
    corruptionEvents := Nat.mod_lt _ (by decide)
    quarantinedBytes := Nat.mod_lt _ (by decide) }
  capacity := same.capacity

theorem emptied_ready (queue : StoreForwardQueue) (segment : Segment) :
    SegmentReady (queue.emptied segment) segment (some []) [] where
  bytes := ⟨[], rfl, by simp [emptied, measured]⟩
  tail := by simp [emptied, measured]
  count := by simp [emptied, measured]
  drained _ := by simp [emptied, measured]
  bounded := by simp [emptied, measured, segmentLimit]

theorem quarantined_ready {queue : StoreForwardQueue} {segment : Segment} {file : Option Bytes}
    {payloads : List Bytes} (ready : SegmentReady queue segment file payloads) (corruptBytes : Nat) :
    SegmentReady (queue.quarantined corruptBytes) segment file payloads :=
  ⟨⟨ready.bytes, ready.tail, ready.count, ready.bounded⟩, ready.drained⟩

theorem measured_ready (queue : StoreForwardQueue) (segment : Segment) (dead : Bytes)
    (payloads : List Bytes) (some : payloads ≠ [])
    (bounded : (dead ++ records payloads).length < segmentLimit) :
    SegmentReady (queue.measured segment dead.length (dead.length + (records payloads).length)
      payloads.length) segment (Option.some (dead ++ records payloads)) payloads where
  bytes := ⟨dead, rfl, by simp [measured]⟩
  tail := by simp [measured]
  count := by simp [measured]
  drained none := absurd none some
  bounded := by simpa [measured] using bounded

theorem scanSegment_wp (queue : StoreForwardQueue) (segment : Segment) (payloads : List Bytes)
    {post : Bool × StoreForwardQueue → Disk → Prop}
    (held : SegmentHolds (disk.stored.segments segment) (queue.metadata.head segment) payloads)
    (storable : ∀ payload ∈ payloads, Storable payload) (fits : queue.metadata.Fits)
    (during : ∀ (last : Disk) (file : Option Bytes) (reclaims : Nat),
      last.stored = disk.stored.replaced segment file reclaims →
      SegmentHolds file (queue.metadata.head segment) payloads → crash last)
    (after : ∀ (last : Disk) (file : Option Bytes) (reclaims : Nat) (scanned : StoreForwardQueue),
      last.stored = disk.stored.replaced segment file reclaims →
      SegmentHolds file (queue.metadata.head segment) payloads →
      SegmentReady scanned segment file payloads → Elsewhere queue scanned segment →
      (file.getD []).length ≤ (disk.stored.content segment).length → post (true, scanned) last) :
    Disk.device.wp (queue.scanSegment segment) post crash disk := by
  have unchanged (last : Disk) (same : last.stored = disk.stored) : crash last :=
    during last _ _ (same.trans (Stored.replaced_self _ _ _ rfl)) held
  have whole : Elsewhere queue queue segment :=
    ⟨fun _ _ => rfl, fun _ _ => rfl, fun _ _ => rfl, rfl, rfl, fits, rfl⟩
  unfold scanSegment
  rw [wp_openRead]
  rw [Disk.stored_segments] at held
  cases file : disk.files (.segment segment) with
  | none =>
    have nothing : payloads = [] := by
      cases held with
      | whole dead stub bytes => rw [file] at bytes; cases bytes
      | reset _ none => exact none
    subst nothing
    simp only [Option.isSome_none, Bool.not_false, if_true]
    rw [wp_openWrite]
    refine ⟨unchanged disk rfl, ?_⟩
    simp only [Bool.not_true, Bool.false_eq_true, if_false]
    have created : ((disk.set (.segment segment) (some [])).log (.openWrite (.segment segment))).stored =
        disk.stored.replaced segment (some []) (disk.stored.reclaims + 1) := by
      rw [Disk.stored_log, Disk.stored_set_segment]
      rfl
    exact ⟨during _ _ _ created (.reset rfl rfl), after _ _ _ _ created (.reset rfl rfl) (emptied_ready queue segment)
      (whole.measured 0 0 0 (by decide)) (Nat.zero_le _)⟩
  | some content =>
    have size : disk.content (.segment segment) = content := by rw [Disk.content, file, Option.getD_some]
    rw [file] at held
    simp only [Option.isSome_some, Bool.not_true, Bool.false_eq_true, if_false]
    -- A scanned segment without a record is truncated, whatever lies in front of its tail.
    have close (last : StoreForwardQueue) (start : Disk) (file : Option Bytes) (reclaims : Nat)
        (same : start.stored = disk.stored.replaced segment file reclaims)
        (holds : SegmentHolds file (queue.metadata.head segment) payloads)
        (elsewhere : Elsewhere queue last segment)
        (ready : payloads ≠ [] → SegmentReady last segment file payloads)
        (shorter : (file.getD []).length ≤ (disk.stored.content segment).length) :
        Disk.device.wp (if payloads.length = 0 then truncateSegment last segment
          else pure (true, last)) post crash start := by
      by_cases none : payloads = []
      · subst none
        refine truncateSegment_wp last segment (fun state kept => during _ _ _ (kept.trans same) holds) ?_
        intro state truncated
        rw [same, Stored.reclaim_eq, Stored.replaced_replaced] at truncated
        exact ⟨during _ _ _ truncated (.reset rfl rfl), after _ _ _ _ truncated (.reset rfl rfl)
          (emptied_ready last segment) (elsewhere.measured 0 0 0 (by decide)) (Nat.zero_le _)⟩
      · rw [if_neg (by rwa [List.length_eq_zero_iff])]
        exact ⟨during _ _ _ same holds, after _ _ _ _ same holds (ready none) elsewhere shorter⟩
    cases held with
    | reset empty nothing =>
      subst nothing
      obtain rfl : content = [] := empty
      rw [wp_size, size]
      simp only [List.length_nil, Nat.min_zero, scanRecords, Prog.pure_bind_eq, Nat.lt_irrefl, if_false]
      exact close _ disk _ _ (Stored.replaced_self _ _ _ file) (.reset rfl rfl) (whole.measured 0 0 0 (by decide)) (fun some => absurd rfl some)
        (Nat.zero_le _)
    | whole dead stub bytes start torn bounded =>
      have contents : content = dead ++ records payloads ++ stub := Option.some.inj bytes
      have here : (disk.content (.segment segment)).drop dead.length = records payloads ++ stub := by
        rw [size, contents, List.append_assoc, List.drop_left]
      have within : dead.length ≤ (disk.content (.segment segment)).length := by
        rw [size, contents, List.length_append, List.length_append]
        omega
      have enough : payloads.length ≤ (disk.content (.segment segment)).length := by
        have fewer := length_le_records payloads
        rw [size, contents, List.length_append, List.length_append]
        omega
      rw [wp_size, ← start, Nat.min_eq_left within]
      refine (scanRecords_observes payloads _ 0 torn storable here within enough).then ?_
      have small : dead.length < 2 ^ 32 := start ▸ fits.head segment
      have elsewhere := whole.measured dead.length (dead.length + (records payloads).length)
        payloads.length small
      have kept : SegmentHolds (some (dead ++ records payloads)) (queue.metadata.head segment) payloads :=
        .whole dead [] (by rw [List.append_nil]) start Stub.nil bounded
      have ready (some : payloads ≠ []) := measured_ready queue segment dead payloads some bounded
      have shorter : (dead ++ records payloads).length ≤ (disk.stored.content segment).length := by
        rw [Disk.stored_content, size, contents]
        exact (List.sublist_append_left _ _).length_le
      simp only [size, contents, Nat.zero_add]
      by_cases clean : stub = []
      · subst clean
        have done : ¬ dead.length + (records payloads).length <
            (dead ++ records payloads ++ []).length := by
          rw [List.append_nil, List.length_append]
          exact Nat.lt_irrefl _
        simp only [done, if_false]
        refine close _ disk _ _ (Stored.replaced_self _ _ _ ?_) kept elsewhere ready shorter
        rw [Disk.stored_segments, file, contents, List.append_nil]
      · have more : dead.length + (records payloads).length <
            (dead ++ records payloads ++ stub).length := by
          have positive := List.length_pos_iff.mpr clean
          rw [List.length_append, List.length_append]
          omega
        simp only [more, if_true]
        rw [← List.length_append] at elsewhere ready ⊢
        refine Model.wp_bind.mpr (repairSegment_wp segment _ stub (by rw [file, contents]) unchanged ?_)
        intro last repaired
        rw [Stored.setSegment_eq] at repaired
        refine ⟨during _ _ _ repaired kept, ?_⟩
        simp only [Bool.not_true, Bool.false_eq_true, if_false]
        exact close _ last _ _ repaired kept (elsewhere.quarantined _)
          (fun some => quarantined_ready (ready some) _) shorter

theorem mountPartition_observes :
    Disk.device.Observes disk mountPartition
      (if "littlefs" = disk.partition ∨ "spiffs" = disk.partition then none
        else some "Filesystem partition missing") := by
  unfold mountPartition
  by_cases preferred : "littlefs" = disk.partition
  · simp [Model.Observes, preferred]
  · by_cases other : "spiffs" = disk.partition <;> simp [Model.Observes, preferred, other]

theorem loadMetadata_saved {metadata : Metadata} (same : metadata.stamped = metadata)
    (fits : metadata.Fits) (bytes : disk.files .metadata = some metadata.bytes) :
    Disk.device.Observes disk loadMetadata (some metadata) := by
  have content : disk.content .metadata = metadata.bytes := by rw [Disk.content, bytes, Option.getD_some]
  have parsed := Metadata.ofBytes_stamped metadata fits
  rw [same] at parsed
  have whole : ((disk.content .metadata).drop 0).take Metadata.size = metadata.bytes := by
    rw [List.drop_zero, content, List.take_of_length_le (Nat.le_of_eq metadata.bytes_length)]
  unfold loadMetadata Model.Observes
  rw [wp_openRead, bytes]
  simp only [Option.isSome_some, Bool.not_true, Bool.false_eq_true, if_false]
  rw [wp_size, content, Metadata.bytes_length]
  simp only [if_true]
  rw [wp_read, whole, Metadata.bytes_length]
  simp only [if_true, parsed]
  exact ⟨rfl, rfl, rfl⟩

theorem loadMetadata_absent (absent : disk.files .metadata = none) :
    Disk.device.Observes disk loadMetadata none := by
  simp [Model.Observes, loadMetadata, absent]

/-- Metadata rebuilt for a lost record starts from the first byte of both segments. -/
structure Rebuilt (metadata : Metadata) : Prop where
  active : metadata.activeSegment = .zero
  head : metadata.head = fun _ => 0
  dropped : metadata.droppedRecords = 0
  fits : metadata.Fits

theorem quarantineSize_observes (segment : Segment) :
    Disk.device.Observes disk (quarantineSize segment) (disk.content (.quarantine segment)).length := by
  unfold quarantineSize Model.Observes
  rw [wp_openRead]
  cases file : disk.files (.quarantine segment) with
  | none => simp [Disk.content, file]
  | some bytes =>
    simp only [Option.isSome_some, if_true]
    rw [← Prog.bind_pure_eq (LittleFs.size _), wp_size]
    exact ⟨rfl, rfl, rfl⟩

def rebuilt (disk : Disk) (left : Bool) : Metadata :=
  let first := (disk.content (.quarantine .zero)).length
  let second := (disk.content (.quarantine .one)).length
  { magic := kMetadataMagic, version := kMetadataVersion, activeSegment := .zero
    reserved := if left then 1 else 0
    corruptionEvents := (if first > 0 then 1 else 0) + (if second > 0 then 1 else 0)
    quarantinedBytes := (first + second) % 2 ^ 32 }

theorem rebuilt_rebuilt (disk : Disk) (left : Bool) : Rebuilt (rebuilt disk left) where
  active := rfl
  head := rfl
  dropped := rfl
  fits := {
    reserved := by cases left <;> simp [rebuilt]
    head _ := by simp [rebuilt]
    droppedRecords := by simp [rebuilt]
    corruptionEvents := by simp only [rebuilt]; split <;> split <;> decide
    quarantinedBytes := Nat.mod_lt _ (by decide) }

theorem anyExists_observes (paths : List Path) :
    Disk.device.Observes disk (anyExists paths) (paths.any fun path => (disk.files path).isSome) := by
  induction paths with
  | nil => exact ⟨rfl, rfl, rfl⟩
  | cons path rest ih =>
    simp only [anyExists, Model.Observes, wp_exists, List.any_cons]
    cases (disk.files path).isSome with
    | true => exact ⟨rfl, rfl, rfl⟩
    | false =>
      simp only [Bool.false_or, Bool.false_eq_true, if_false]
      exact ih

theorem rebuildMetadata_observes (disk : Disk) :
    ∃ left, Disk.device.Observes disk rebuildMetadata (rebuilt disk left) :=
  ⟨_, (anyExists_observes _).then
    ((quarantineSize_observes .zero).then ((quarantineSize_observes .one).then ⟨rfl, rfl, rfl⟩))⟩

theorem removeLeft_wp (path : Path) (unseen : Disk.scratch path = true) {post : Unit → Disk → Prop}
    (before : ∀ last : Disk, last.stored = disk.stored → crash last)
    (after : ∀ last : Disk, last.stored = disk.stored → (∀ other, Disk.scratch other = false →
      last.files other = disk.files other) → post () last) :
    Disk.device.wp (removeLeft path) post crash disk := by
  have removed : ((disk.set path none).log (.remove path)).stored = disk.stored := by
    rw [Disk.stored_log, Disk.stored_set_scratch _ _ _ unseen]
    rfl
  rw [removeLeft, wp_exists]
  split
  · rw [wp_remove]
    refine ⟨before _ rfl, before _ removed, after _ removed fun other seen => ?_⟩
    rw [Disk.files_log, Disk.files_set_of_ne _ _ _ _ (by rintro rfl; simp_all)]
  · exact ⟨before _ rfl, after _ rfl fun _ _ => rfl⟩

theorem countRejected_observes (disk : Disk) (queue : StoreForwardQueue) (slots : List Nat) (present : Nat) :
    ∃ total, Disk.device.Observes disk (queue.countRejected slots present) total := by
  induction slots generalizing present with
  | nil => exact ⟨present, rfl, rfl, rfl⟩
  | cons slot rest ih =>
    unfold countRejected rejectedSlotPresent
    split
    · obtain ⟨total, counted⟩ := ih present
      exact ⟨total, counted⟩
    · rw [← Prog.bind_pure_eq (LittleFs.exists _)]
      cases held : (disk.files (.rejectedSlot slot)).isSome with
      | true =>
        obtain ⟨total, counted⟩ := ih (present + 1)
        exact ⟨total, by simpa [Model.Observes, held] using counted⟩
      | false =>
        obtain ⟨total, counted⟩ := ih present
        exact ⟨total, by simpa [Model.Observes, held] using counted⟩

/-- A boot works with the replay heads, the active segment and the drop count that are held. -/
theorem load_observes {metadata : Metadata} (held : Loaded disk.stored metadata) :
    ∃ loaded : Metadata, loaded.head = metadata.head ∧ loaded.activeSegment = metadata.activeSegment ∧
      loaded.droppedRecords = metadata.droppedRecords ∧ loaded.Fits ∧
      Disk.device.Observes disk loadOrRebuild loaded := by
  cases held with
  | saved same fits bytes =>
    exact ⟨metadata, rfl, rfl, rfl, fits, (loadMetadata_saved same fits bytes).then ⟨rfl, rfl, rfl⟩⟩
  | fresh absent active head dropped =>
    obtain ⟨left, observed⟩ := rebuildMetadata_observes disk
    have rebuilt := rebuilt_rebuilt disk left
    exact ⟨_, rebuilt.head.trans head.symm, rebuilt.active.trans active.symm,
      rebuilt.dropped.trans dropped.symm, rebuilt.fits, (loadMetadata_absent absent).then observed⟩

/-- The segment size a boot arrives at, when it can open a store at all. -/
def capacity (stored : Stored) (maximumBytes : Nat) : Option Nat :=
  let segment := min maximumBytes (stored.totalBytes.toNat - kFilesystemReserveBytes) / 2
  if ("littlefs" = stored.partition ∨ "spiffs" = stored.partition) ∧
      kFilesystemReserveBytes + 2 * RecordHeader.size < stored.totalBytes.toNat ∧
      RecordHeader.size + 1 < segment then
    some segment
  else none

theorem capacity_lt {stored : Stored} {maximumBytes segment : Nat}
    (opens : capacity stored maximumBytes = some segment) : segment < segmentLimit := by
  have total := stored.totalBytes.toNat_lt
  simp only [capacity] at opens
  split at opens
  · obtain rfl := Option.some.inj opens
    unfold segmentLimit
    omega
  · cases opens

theorem capacity_kept {before last : Stored} (kept : before.Kept last) (maximumBytes : Nat) :
    capacity last maximumBytes = capacity before maximumBytes := by
  simp only [capacity, kept.partition, kept.totalBytes]

/-- A boot keeps the filesystem's geometry and grows no segment. -/
structure Booted (before last : Stored) : Prop where
  kept : before.Kept last
  shorter : ∀ segment, (last.content segment).length ≤ (before.content segment).length

theorem scanned_ready {queue last : StoreForwardQueue} {segment other : Segment} {file : Option Bytes}
    {payloads : List Bytes} (ready : SegmentReady queue other file payloads) (differs : other ≠ segment)
    (elsewhere : Elsewhere queue last segment) : SegmentReady last other file payloads :=
  ready.transfer (elsewhere.head other differs) (elsewhere.tail other differs) (elsewhere.count other differs)

theorem recover_wp (queue : StoreForwardQueue) (metadata : Metadata) (pending : Segment → List Bytes)
    {post : Bool × StoreForwardQueue → Disk → Prop} (held : Holds disk.stored metadata pending)
    (capacity : queue.segmentMaximumBytes < segmentLimit)
    (during : ∀ (last : Disk) (loaded : Metadata), Holds last.stored loaded pending →
      loaded.activeSegment = metadata.activeSegment →
      loaded.droppedRecords = metadata.droppedRecords → crash last)
    (opened : ∀ (last : Disk) (ready : StoreForwardQueue), Ready ready last.stored pending →
        ready.metadata.activeSegment = metadata.activeSegment →
        ready.metadata.droppedRecords = metadata.droppedRecords →
        ready.segmentMaximumBytes = queue.segmentMaximumBytes → Booted disk.stored last.stored →
        post (true, ready) last) :
    Disk.device.wp queue.recover post crash disk := by
  have same (last : Disk) (kept : last.stored = disk.stored) : crash last :=
    during last metadata (kept ▸ held) rfl rfl
  unfold recover
  refine Model.wp_bind.mpr (removeLeft_wp .metadataTemporary rfl same ?_)
  intro cleaned cleanedStored _
  refine Model.wp_bind.mpr (removeLeft_wp .segmentRepair rfl
    (fun last kept => same last (kept.trans cleanedStored)) ?_)
  intro start startStored _
  rw [cleanedStored] at startStored
  have holds : Holds start.stored metadata pending := startStored ▸ held
  obtain ⟨loaded, head, active, dropped, fits, observed⟩ := load_observes holds.loaded
  refine observed.then ?_
  -- a segment is repaired by itself: what is on flash holds the same records before and after
  have first : SegmentHolds (start.stored.segments .zero) (loaded.head .zero) (pending .zero) :=
    head ▸ holds.segment .zero
  refine Model.wp_bind.mpr (scanSegment_wp { queue with metadata := loaded } .zero (pending .zero) first
    (held.storable .zero) fits ?_ ?_)
  · intro last file reclaims replaced kept
    exact during last metadata (replaced ▸ holds.replaced .zero file reclaims (head ▸ kept)) rfl rfl
  intro middle fileZero reclaimsZero scanned middleStored keptZero readyZero elsewhereZero shorterZero
  have holdsZero : Holds middle.stored metadata pending :=
    middleStored ▸ holds.replaced .zero fileZero reclaimsZero (head ▸ keptZero)
  simp only [Bool.not_true, Bool.false_eq_true, if_false]
  have second : SegmentHolds (middle.stored.segments .one) (scanned.metadata.head .one) (pending .one) := by
    rw [elsewhereZero.head .one (by decide), head]
    exact holdsZero.segment .one
  refine Model.wp_bind.mpr (scanSegment_wp scanned .one (pending .one) second (held.storable .one)
    elsewhereZero.fits ?_ ?_)
  · intro last file reclaims replaced kept
    refine during last metadata (replaced ▸ holdsZero.replaced .one file reclaims ?_) rfl rfl
    rwa [elsewhereZero.head .one (by decide), head] at kept
  intro settled fileOne reclaimsOne last settledStored keptOne readyOne elsewhereOne shorterOne
  rw [elsewhereZero.head .one (by decide), head] at keptOne
  have holdsOne : Holds settled.stored metadata pending :=
    settledStored ▸ holdsZero.replaced .one fileOne reclaimsOne keptOne
  simp only [Bool.not_true, Bool.false_eq_true, if_false]
  have activeLast : last.metadata.activeSegment = metadata.activeSegment :=
    elsewhereOne.active.trans (elsewhereZero.active.trans active)
  have droppedLast : last.metadata.droppedRecords = metadata.droppedRecords :=
    elsewhereOne.dropped.trans (elsewhereZero.dropped.trans dropped)
  -- until the record is replaced, its heads fit the repaired files as well
  refine Model.wp_bind.mpr (saveMetadata_wp last
    (fun state kept => during state metadata (kept ▸ holdsOne) rfl rfl) ?_)
  intro saved savedStored
  have final : saved.stored = ((disk.stored.replaced .zero fileZero reclaimsZero).replaced .one fileOne
      reclaimsOne).commit last.metadata.stamped := by
    rw [savedStored, settledStored, middleStored, startStored]
  have zero : saved.stored.segments .zero = fileZero := by
    rw [final]
    rfl
  have one : saved.stored.segments .one = fileOne := by
    rw [final]
    rfl
  obtain ⟨rejectedRecords, counted⟩ := countRejected_observes saved
    { last with metadata := last.metadata.stamped, ready := true } (List.range kRejectedSlots) 0
  -- what was measured of the first segment is still so after the scan of the second
  have ready : Ready { last with metadata := last.metadata.stamped, ready := true, rejectedRecords }
      saved.stored pending := by
    refine ⟨rfl, rfl, ⟨elsewhereOne.fits.reserved, elsewhereOne.fits.head, elsewhereOne.fits.droppedRecords,
      elsewhereOne.fits.corruptionEvents, elsewhereOne.fits.quarantinedBytes⟩, ?_, ?_, held.storable, ?_⟩
    · rw [savedStored]
      rfl
    · intro segment
      cases segment with
      | zero => exact zero ▸ (scanned_ready readyZero (by decide) elsewhereOne).transfer rfl rfl rfl
      | one => exact one ▸ readyOne.transfer rfl rfl rfl
    · exact (elsewhereOne.capacity.trans elsewhereZero.capacity).trans_lt capacity
  refine ⟨during saved _ ready.holds activeLast droppedLast, ?_⟩
  simp only [Bool.not_true, Bool.false_eq_true, if_false]
  refine counted.then ⟨during saved _ ready.holds activeLast droppedLast, opened saved _ ready activeLast
    droppedLast (elsewhereOne.capacity.trans elsewhereZero.capacity) ?_⟩
  refine ⟨final ▸ ⟨rfl, rfl, rfl⟩, fun segment => ?_⟩
  cases segment with
  | zero =>
    rw [startStored] at shorterZero
    rwa [Stored.content, zero]
  | one =>
    rw [middleStored, startStored] at shorterOne
    rwa [Stored.content, one]

theorem begin_wp (queue : StoreForwardQueue) (maximumBytes : Nat) (metadata : Metadata)
    (pending : Segment → List Bytes) {post : Bool × StoreForwardQueue → Disk → Prop}
    (held : Holds disk.stored metadata pending)
    (during : ∀ (last : Disk) (loaded : Metadata), Holds last.stored loaded pending →
      loaded.activeSegment = metadata.activeSegment →
      loaded.droppedRecords = metadata.droppedRecords → crash last)
    (closed : capacity disk.stored maximumBytes = none → ∀ last : StoreForwardQueue,
      last.ready = false → last.metadata = queue.metadata → last.tail = queue.tail →
      last.count = queue.count → post (false, last) disk)
    (opened : ∀ segmentMaximumBytes, capacity disk.stored maximumBytes = some segmentMaximumBytes →
      ∀ (last : Disk) (ready : StoreForwardQueue), Ready ready last.stored pending →
        ready.metadata.activeSegment = metadata.activeSegment →
        ready.metadata.droppedRecords = metadata.droppedRecords →
        ready.segmentMaximumBytes = segmentMaximumBytes → Booted disk.stored last.stored →
        post (true, ready) last) :
    Disk.device.wp (queue.begin true maximumBytes) post crash disk := by
  have start := during disk metadata held rfl rfl
  unfold «begin»
  simp only [Bool.not_true, Bool.false_eq_true, if_false]
  refine mountPartition_observes.then ?_
  by_cases found : "littlefs" = disk.partition ∨ "spiffs" = disk.partition
  case neg =>
    have none : capacity disk.stored maximumBytes = none := if_neg fun h => found h.1
    rw [if_neg found]
    exact ⟨start, closed none _ rfl rfl rfl rfl⟩
  rw [if_pos found]
  dsimp only
  rw [wp_totalBytes]
  split
  case isTrue small =>
    have none : capacity disk.stored maximumBytes = none := if_neg fun h => Nat.not_lt.mpr small h.2.1
    exact ⟨start, closed none _ rfl rfl rfl rfl⟩
  case isFalse large =>
  split
  case isTrue small =>
    have none : capacity disk.stored maximumBytes = none := if_neg fun h => Nat.not_lt.mpr small h.2.2
    exact ⟨start, closed none _ rfl rfl rfl rfl⟩
  case isFalse roomy =>
  have opens : capacity disk.stored maximumBytes = some _ :=
    if_pos ⟨found, Nat.lt_of_not_le large, Nat.lt_of_not_le roomy⟩
  exact recover_wp _ metadata pending held (capacity_lt opens) during (opened _ opens)

end StoreForwardQueue

end ApexiDevices
