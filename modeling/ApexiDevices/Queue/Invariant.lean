import ApexiDevices.Queue.Operations

set_option autoImplicit false

namespace ApexiDevices

open Device

/-- A segment never outgrows half of a 32-bit size. -/
def segmentLimit : Nat := 2 ^ 31

/-- What a boot makes of a segment file, given the replay head it loads for it. -/
inductive SegmentHolds (file : Option Bytes) (head : Nat) (payloads : List Bytes) : Prop
  | whole (dead stub : Bytes) (bytes : file = some (dead ++ records payloads ++ stub))
      (start : dead.length = head) (stub : Stub stub)
      (bounded : (dead ++ records payloads).length < segmentLimit)
  | reset (empty : file.getD [] = []) (none : payloads = [])

inductive Loaded (stored : Stored) (metadata : Metadata) : Prop
  | saved (same : metadata.stamped = metadata) (fits : metadata.Fits)
      (bytes : stored.metadata = some metadata.bytes)
  | fresh (absent : stored.metadata = none) (active : metadata.activeSegment = .zero)
      (head : metadata.head = fun _ => 0) (dropped : metadata.droppedRecords = 0)

/-- The flash holds these pending payloads, whatever was interrupted last. -/
structure Holds (stored : Stored) (metadata : Metadata) (pending : Segment → List Bytes) : Prop where
  loaded : Loaded stored metadata
  segment : ∀ segment, SegmentHolds (stored.segments segment) (metadata.head segment) (pending segment)
  storable : ∀ segment, ∀ payload ∈ pending segment, Storable payload

/-- A segment file, and what the queue remembers of it. -/
structure SegmentShape (queue : StoreForwardQueue) (segment : Segment) (file : Option Bytes)
    (payloads : List Bytes) : Prop where
  bytes : ∃ dead : Bytes, file = some (dead ++ records payloads) ∧
    dead.length = queue.metadata.head segment
  tail : queue.tail segment = queue.metadata.head segment + (records payloads).length
  count : queue.count segment = payloads.length
  bounded : queue.tail segment < segmentLimit

/-- Between two calls a segment without records is an empty file. -/
structure SegmentReady (queue : StoreForwardQueue) (segment : Segment) (file : Option Bytes)
    (payloads : List Bytes) : Prop extends SegmentShape queue segment file payloads where
  drained : payloads = [] → queue.tail segment = 0

/-- Between two calls a ready queue and its flash agree on the pending payloads. -/
structure Ready (queue : StoreForwardQueue) (stored : Stored) (pending : Segment → List Bytes) : Prop where
  ready : queue.ready = true
  stamped : queue.metadata.stamped = queue.metadata
  fits : queue.metadata.Fits
  saved : stored.metadata = some queue.metadata.bytes
  segment : ∀ segment, SegmentReady queue segment (stored.segments segment) (pending segment)
  storable : ∀ segment, ∀ payload ∈ pending segment, Storable payload
  capacity : queue.segmentMaximumBytes < segmentLimit

theorem Stub.nil : Stub [] := by
  refine ⟨[0], 0, ⟨by decide, by decide⟩, ?_, rfl⟩
  rw [record_length]
  exact Nat.add_pos_left (by decide) _

theorem length_le_records (payloads : List Bytes) : payloads.length ≤ (records payloads).length := by
  induction payloads with
  | nil => exact Nat.le_refl _
  | cons payload rest ih =>
    rw [records_cons, List.length_append, record_length, List.length_cons]
    have positive : 0 < RecordHeader.size := by decide
    omega

theorem SegmentShape.holds {queue : StoreForwardQueue} {segment : Segment} {file : Option Bytes}
    {payloads : List Bytes} (shape : SegmentShape queue segment file payloads) :
    SegmentHolds file (queue.metadata.head segment) payloads := by
  obtain ⟨dead, bytes, start⟩ := shape.bytes
  refine .whole dead [] (by rw [bytes, List.append_nil]) start Stub.nil ?_
  have bounded := shape.bounded
  rwa [shape.tail, ← start, ← List.length_append] at bounded

theorem SegmentShape.transfer {queue last : StoreForwardQueue} {segment : Segment} {file : Option Bytes}
    {payloads : List Bytes} (shape : SegmentShape queue segment file payloads)
    (head : last.metadata.head segment = queue.metadata.head segment)
    (tail : last.tail segment = queue.tail segment) (count : last.count segment = queue.count segment) :
    SegmentShape last segment file payloads where
  bytes := head ▸ shape.bytes
  tail := by rw [tail, head, shape.tail]
  count := count.trans shape.count
  bounded := tail ▸ shape.bounded

theorem SegmentReady.transfer {queue last : StoreForwardQueue} {segment : Segment} {file : Option Bytes}
    {payloads : List Bytes} (ready : SegmentReady queue segment file payloads)
    (head : last.metadata.head segment = queue.metadata.head segment)
    (tail : last.tail segment = queue.tail segment) (count : last.count segment = queue.count segment) :
    SegmentReady last segment file payloads :=
  ⟨ready.toSegmentShape.transfer head tail count, fun none => tail.trans (ready.drained none)⟩

theorem Holds.replaced {stored : Stored} {metadata : Metadata} {pending : Segment → List Bytes}
    (held : Holds stored metadata pending) (segment : Segment) (file : Option Bytes) (reclaims : Nat)
    (holds : SegmentHolds file (metadata.head segment) (pending segment)) :
    Holds (stored.replaced segment file reclaims) metadata pending where
  loaded := by
    cases held.loaded with
    | saved same fits bytes => exact .saved same fits bytes
    | fresh absent active head dropped => exact .fresh absent active head dropped
  segment other := by
    by_cases same : other = segment
    · subst same
      simpa [Stored.replaced] using holds
    · simpa [Stored.replaced, same] using held.segment other
  storable := held.storable

theorem Ready.holds {queue : StoreForwardQueue} {stored : Stored} {pending : Segment → List Bytes}
    (ready : Ready queue stored pending) : Holds stored queue.metadata pending where
  loaded := .saved ready.stamped ready.fits ready.saved
  segment segment := (ready.segment segment).holds
  storable := ready.storable

theorem Ready.withError {queue : StoreForwardQueue} {stored : Stored} {pending : Segment → List Bytes}
    (ready : Ready queue stored pending) (error : String) :
    Ready { queue with lastError := error } stored pending :=
  ⟨ready.ready, ready.stamped, ready.fits, ready.saved,
    fun segment => (ready.segment segment).transfer rfl rfl rfl, ready.storable, ready.capacity⟩

theorem Metadata.Fits.stamped {metadata : Metadata} (fits : metadata.Fits) : metadata.stamped.Fits :=
  ⟨fits.reserved, fits.head, fits.droppedRecords, fits.corruptionEvents, fits.quarantinedBytes⟩

theorem ready_of_commit (queue : StoreForwardQueue) {stored last : Stored}
    {pending : Segment → List Bytes} (on : queue.ready = true) (fits : queue.metadata.Fits)
    (segments : ∀ segment, SegmentReady queue segment (stored.segments segment) (pending segment))
    (storable : ∀ segment, ∀ payload ∈ pending segment, Storable payload)
    (capacity : queue.segmentMaximumBytes < segmentLimit)
    (saved : last = stored.commit queue.metadata.stamped) :
    Ready { queue with metadata := queue.metadata.stamped } last pending := by
  subst saved
  exact ⟨on, rfl, fits.stamped, rfl, fun segment => (segments segment).transfer rfl rfl rfl, storable,
    capacity⟩

end ApexiDevices
