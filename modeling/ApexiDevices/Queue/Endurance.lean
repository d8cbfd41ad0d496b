import ApexiDevices.Queue.Failures
import ApexiDevices.Queue.Recovery

set_option autoImplicit false

/-!
# What a ready queue and its flash keep when calls fail

A failed append may leave bytes behind the records, and a failed commit may leave
an older metadata record. Both are harmless as long as no further record is
appended to the segment concerned.
-/

namespace ApexiDevices

open Device StoreForwardQueue

/-- The calls that may fail: those of an append, those inside a removal, and the commits and
truncations of a rotation. -/
structure Faults where
  append : Prop
  pop : Prop
  rotation : Prop

namespace Faults

def all : Faults := ⟨True, True, True⟩

def enqueue (faults : Faults) (op : FsOp) : Prop := if op.appends then faults.append else faults.rotation

def removal (faults : Faults) (_ : FsOp) : Prop := faults.pop

def stale (faults : Faults) : Prop := faults.pop ∨ faults.rotation

variable {faults : Faults}

theorem append_of_tear (allowed : MayTear faults.enqueue) : faults.append := by
  obtain ⟨op, allowed, appends⟩ := allowed
  rwa [enqueue, if_pos appends] at allowed

theorem rotation_of_refuse (allowed : MayRefuse faults.enqueue) : faults.rotation := by
  obtain ⟨op, allowed, other⟩ := allowed
  rwa [enqueue, if_neg (by simp [other])] at allowed

end Faults

/-- What failed appends left behind the records of a segment: any part of one record. -/
inductive Leftover (faults : Faults) (tail : Nat) : Bytes → Prop
  | none : Leftover faults tail []
  | part (payload : Bytes) (kept : Nat) (storable : Storable payload) (fails : faults.append)
      (room : tail + (record payload).length < segmentLimit) :
      Leftover faults tail ((record payload).take kept)

/-- A segment file with everything behind its records, and what the queue remembers of it. -/
structure Filed (faults : Faults) (queue : StoreForwardQueue) (segment : Segment) (file : Option Bytes)
    (payloads : List Bytes) (whole left : Bytes) : Prop where
  bytes : file = some (whole ++ left)
  shape : SegmentShape queue segment (some whole) payloads
  left : Leftover faults (queue.tail segment) left

/-- Between two calls, whatever calls have failed: the metadata record on flash may be older than the
queue's own, but only where it does not matter yet. -/
structure Lasting (faults : Faults) (queue : StoreForwardQueue) (stored : Stored) (metadata : Metadata)
    (pending : Segment → List Bytes) : Prop where
  ready : queue.ready = true
  stamped : queue.metadata.stamped = queue.metadata
  fits : queue.metadata.Fits
  durableStamped : metadata.stamped = metadata
  durableFits : metadata.Fits
  saved : stored.metadata = some metadata.bytes
  dropped : metadata.droppedRecords = queue.metadata.droppedRecords
  active : metadata.activeSegment = queue.metadata.activeSegment ∨
    faults.rotation ∧ ∃ segment, pending segment = []
  head : ∀ segment, metadata.head segment = queue.metadata.head segment ∨
    faults.stale ∧ stored.segments segment = some []
  filed : ∀ segment, ∃ whole left,
    Filed faults queue segment (stored.segments segment) (pending segment) whole left
  storable : ∀ segment, ∀ payload ∈ pending segment, Storable payload
  capacity : queue.segmentMaximumBytes < segmentLimit

/-- A ready queue holds these payloads, whatever calls have failed. -/
def Enduring (faults : Faults) (queue : StoreForwardQueue) (stored : Stored) (live : List Bytes) : Prop :=
  ∃ metadata pending, Lasting faults queue stored metadata pending ∧
    fifo queue.metadata.activeSegment pending = live

/-- A boot from this flash finds these payloads, in this order. -/
def Survives (stored : Stored) (live : List Bytes) : Prop :=
  ∃ metadata found, Holds stored metadata found ∧ live.Sublist (fifo metadata.activeSegment found)

section Segments

variable {faults : Faults} {queue last : StoreForwardQueue} {segment : Segment} {file : Option Bytes}
  {payloads : List Bytes} {whole left : Bytes}

theorem Filed.transfer (filed : Filed faults queue segment file payloads whole left)
    (head : last.metadata.head segment = queue.metadata.head segment)
    (tail : last.tail segment = queue.tail segment) (count : last.count segment = queue.count segment) :
    Filed faults last segment file payloads whole left :=
  ⟨filed.bytes, filed.shape.transfer head tail count, tail ▸ filed.left⟩

theorem SegmentReady.filed (ready : SegmentReady queue segment file payloads) :
    ∃ whole left, Filed faults queue segment file payloads whole left := by
  obtain ⟨dead, bytes, -⟩ := ready.bytes
  have shape := ready.toSegmentShape
  rw [bytes] at shape
  exact ⟨_, [], by rw [bytes, List.append_nil], shape, .none⟩

theorem Leftover.loosen {tail : Nat} (leftover : Leftover faults tail left) : Leftover .all tail left := by
  cases leftover with
  | none => exact .none
  | part payload kept storable fails room => exact .part payload kept storable trivial room

theorem records_eq_nil (none : records payloads = []) : payloads = [] := by
  have fewer := length_le_records payloads
  rw [none] at fewer
  exact List.length_eq_zero_iff.mp (Nat.le_zero.mp fewer)

theorem Filed.nothing (filed : Filed faults queue segment (some []) payloads whole left) : payloads = [] := by
  obtain ⟨dead, bytes, -⟩ := filed.shape.bytes
  have empty := Option.some.inj filed.bytes
  rw [Option.some.inj bytes] at empty
  have parts := List.append_eq_nil_iff.mp empty.symm
  exact records_eq_nil (List.append_eq_nil_iff.mp parts.1).2

theorem SegmentShape.length (shape : SegmentShape queue segment (some whole) payloads) :
    whole.length = queue.tail segment := by
  obtain ⟨dead, bytes, start⟩ := shape.bytes
  rw [shape.tail, Option.some.inj bytes, List.length_append, start]

/-- A boot takes over the records, and a record that was written whole though its append failed. -/
theorem Filed.holds (filed : Filed faults queue segment file payloads whole left)
    (storable : ∀ payload ∈ payloads, Storable payload) :
    ∃ found, SegmentHolds file (queue.metadata.head segment) found ∧ payloads <+: found ∧
      ∀ payload ∈ found, Storable payload := by
  obtain ⟨bytes, shape, leftover⟩ := filed
  have length := shape.length
  have bounded := shape.bounded
  obtain ⟨dead, same, start⟩ := shape.bytes
  obtain rfl := Option.some.inj same
  rw [← length] at bounded
  cases leftover with
  | none =>
    exact ⟨payloads, .whole dead [] bytes start Stub.nil bounded, List.prefix_rfl, storable⟩
  | part payload kept good fails room =>
    by_cases torn : kept < (record payload).length
    · have stub : Stub ((record payload).take kept) := ⟨payload, kept, good, torn, rfl⟩
      exact ⟨payloads, .whole dead _ bytes start stub bounded, List.prefix_rfl, storable⟩
    · have all : (record payload).take kept = record payload := List.take_of_length_le (Nat.le_of_not_lt torn)
      have grown : dead ++ records (payloads ++ [payload]) = dead ++ records payloads ++ record payload := by
        rw [records_append, records_cons, records_nil, List.append_nil, List.append_assoc]
      refine ⟨payloads ++ [payload], .whole dead [] ?_ start Stub.nil ?_, List.prefix_append _ _, ?_⟩
      · rw [bytes, all, grown, List.append_nil]
      · rwa [grown, List.length_append, length]
      · intro other member
        rcases List.mem_append.mp member with old | new
        · exact storable other old
        · exact List.mem_singleton.mp new ▸ good

end Segments

theorem fifo_sublist {active current : Segment} {pending found : Segment → List Bytes}
    (same : active = current ∨ ∃ segment, pending segment = [])
    (kept : ∀ segment, (pending segment).Sublist (found segment)) :
    (fifo current pending).Sublist (fifo active found) := by
  rcases Segment.eq_or_other active current with rfl | rfl
  · exact (kept _).append (kept _)
  · rcases same with same | ⟨segment, none⟩
    · exact absurd same (by simp)
    · have one (older newer : Segment) (order : newer = older.other) :
          (pending older ++ pending newer).Sublist (found newer ++ found older) := by
        subst order
        rcases Segment.eq_or_other older segment with rfl | rfl
        · rw [none, List.nil_append]
          exact (kept _).trans (List.sublist_append_left _ _)
        · rw [none, List.append_nil]
          exact (kept _).trans (List.sublist_append_right _ _)
      rw [fifo, fifo, Segment.other_other]
      exact one active active.other rfl

def grown (pending : Segment → List Bytes) (active : Segment) (payload : Bytes) : Segment → List Bytes :=
  Function.update pending active (pending active ++ [payload])

/-- The active segment can take a record that every later boot finds again. -/
structure Clean (faults : Faults) (queue : StoreForwardQueue) (stored : Stored) (metadata : Metadata)
    (pending : Segment → List Bytes) : Prop where
  whole : ∃ whole, stored.segments queue.metadata.activeSegment = some whole ∧
    SegmentShape queue queue.metadata.activeSegment (some whole) (pending queue.metadata.activeSegment)
  head : metadata.head queue.metadata.activeSegment = queue.metadata.head queue.metadata.activeSegment
  order : metadata.activeSegment = queue.metadata.activeSegment ∨
    faults.rotation ∧ pending queue.metadata.activeSegment.other = []

namespace Lasting

variable {faults : Faults} {queue : StoreForwardQueue} {stored : Stored} {metadata : Metadata}
  {pending : Segment → List Bytes}

theorem of_ready (ready : Ready queue stored pending) : Lasting faults queue stored queue.metadata pending where
  ready := ready.ready
  stamped := ready.stamped
  fits := ready.fits
  durableStamped := ready.stamped
  durableFits := ready.fits
  saved := ready.saved
  dropped := rfl
  active := .inl rfl
  head _ := .inl rfl
  filed segment := (ready.segment segment).filed
  storable := ready.storable
  capacity := ready.capacity

theorem withError (lasting : Lasting faults queue stored metadata pending) (error : String) :
    Lasting faults { queue with lastError := error } stored metadata pending :=
  { lasting with
    filed := fun segment =>
      have ⟨whole, left, filed⟩ := lasting.filed segment
      ⟨whole, left, filed.transfer rfl rfl rfl⟩ }

theorem loosen (lasting : Lasting faults queue stored metadata pending) :
    Lasting .all queue stored metadata pending :=
  { lasting with
    active := lasting.active.imp_right fun stale => ⟨trivial, stale.2⟩
    head := fun segment => (lasting.head segment).imp_right fun stale => ⟨.inl trivial, stale.2⟩
    filed := fun segment =>
      have ⟨whole, left, filed⟩ := lasting.filed segment
      ⟨whole, left, filed.bytes, filed.shape, filed.left.loosen⟩ }

theorem holds (lasting : Lasting faults queue stored metadata pending) :
    ∃ found, Holds stored metadata found ∧
      (fifo queue.metadata.activeSegment pending).Sublist (fifo metadata.activeSegment found) := by
  have each (segment : Segment) : ∃ found,
      SegmentHolds (stored.segments segment) (metadata.head segment) found ∧ pending segment <+: found ∧
        ∀ payload ∈ found, Storable payload := by
    obtain ⟨whole, left, filed⟩ := lasting.filed segment
    rcases lasting.head segment with same | ⟨-, empty⟩
    · rw [same]
      exact filed.holds (lasting.storable segment)
    · rw [empty] at filed ⊢
      rw [filed.nothing]
      exact ⟨[], .reset rfl rfl, List.prefix_rfl, nofun⟩
  choose found holds kept storable using each
  refine ⟨found, ⟨.saved lasting.durableStamped lasting.durableFits lasting.saved, holds, storable⟩, ?_⟩
  exact fifo_sublist (lasting.active.imp_right And.right) fun segment => (kept segment).sublist

theorem survives (lasting : Lasting faults queue stored metadata pending) :
    Survives stored (fifo queue.metadata.activeSegment pending) :=
  ⟨metadata, lasting.holds⟩

theorem of_commit {last : Stored} (on : queue.ready = true) (fits : queue.metadata.Fits)
    (filed : ∀ segment, ∃ whole left,
      Filed faults queue segment (stored.segments segment) (pending segment) whole left)
    (storable : ∀ segment, ∀ payload ∈ pending segment, Storable payload)
    (capacity : queue.segmentMaximumBytes < segmentLimit)
    (saved : last = stored.commit queue.metadata.stamped) :
    Lasting faults { queue with metadata := queue.metadata.stamped } last queue.metadata.stamped pending := by
  subst saved
  exact {
    ready := on
    stamped := rfl
    fits := fits.stamped
    durableStamped := rfl
    durableFits := fits.stamped
    saved := rfl
    dropped := rfl
    active := .inl rfl
    head := fun _ => .inl rfl
    filed := fun segment =>
      have ⟨whole, left, filed⟩ := filed segment
      ⟨whole, left, filed.transfer rfl rfl rfl⟩
    storable
    capacity }

theorem counts (lasting : Lasting faults queue stored metadata pending) : queue.Counts pending := by
  intro segment
  obtain ⟨whole, left, filed⟩ := lasting.filed segment
  exact filed.shape.count

section Append

variable {last : Stored} {payload : Bytes} {kept writes : Nat}

theorem append_active (queue : StoreForwardQueue) (stored : Stored) (bytes : Bytes) (writes : Nat) {whole : Bytes}
    (file : stored.segments queue.metadata.activeSegment = some whole) :
    (stored.append queue.metadata.activeSegment bytes writes).segments queue.metadata.activeSegment =
      some (whole ++ bytes) := by
  refine (Function.update_self _ _ _).trans ?_
  rw [Stored.content, file, Option.getD_some]

theorem append_other (queue : StoreForwardQueue) (stored : Stored) (bytes : Bytes) (writes : Nat)
    {segment : Segment} (other : segment ≠ queue.metadata.activeSegment) :
    (stored.append queue.metadata.activeSegment bytes writes).segments segment = stored.segments segment :=
  Function.update_of_ne other _ _

theorem torn (lasting : Lasting faults queue stored metadata pending)
    (clean : Clean faults queue stored metadata pending) (storable : Storable payload) (fails : faults.append)
    (room : ¬queue.full payload)
    (short : last = stored.append queue.metadata.activeSegment ((record payload).take kept) writes) :
    Lasting faults queue last metadata pending := by
  subst short
  obtain ⟨whole, file, shape⟩ := clean.whole
  refine { lasting with saved := lasting.saved, head := fun segment => ?_, filed := fun segment => ?_ }
  · by_cases same : segment = queue.metadata.activeSegment
    · exact .inl (same ▸ clean.head)
    · rw [append_other queue stored _ _ same]
      exact lasting.head segment
  · by_cases same : segment = queue.metadata.activeSegment
    · subst same
      have fits : queue.tail queue.metadata.activeSegment + (record payload).length < segmentLimit := by
        rw [record_length]
        exact (Nat.le_of_not_lt room).trans_lt lasting.capacity
      exact ⟨whole, _, append_active queue stored _ _ file, shape, .part payload kept storable fails fits⟩
    · rw [append_other queue stored _ _ same]
      exact lasting.filed segment

theorem appended (lasting : Lasting faults queue stored metadata pending)
    (clean : Clean faults queue stored metadata pending) (storable : Storable payload)
    (room : ¬queue.full payload)
    (written : last = stored.append queue.metadata.activeSegment (record payload) writes) :
    Lasting faults (queue.appended payload) last metadata (grown pending queue.metadata.activeSegment payload) := by
  subst written
  obtain ⟨whole, file, shape⟩ := clean.whole
  exact {
    ready := lasting.ready
    stamped := lasting.stamped
    fits := lasting.fits
    durableStamped := lasting.durableStamped
    durableFits := lasting.durableFits
    saved := lasting.saved
    dropped := lasting.dropped
    capacity := lasting.capacity
    active := clean.order.imp_right fun ⟨fails, empty⟩ =>
      ⟨fails, queue.metadata.activeSegment.other,
        (Function.update_of_ne (Segment.other_ne _) _ _).trans empty⟩
    head := by
      intro segment
      by_cases same : segment = queue.metadata.activeSegment
      · exact .inl (same ▸ clean.head)
      · rw [append_other queue stored _ _ same]
        exact lasting.head segment
    filed := by
      intro segment
      by_cases same : segment = queue.metadata.activeSegment
      · subst same
        refine ⟨whole ++ record payload, [], ?_, ?_, .none⟩
        · rw [List.append_nil]
          exact append_active queue stored _ _ file
        · rw [grown, Function.update_self]
          exact appended_shape shape room lasting.capacity
      · obtain ⟨whole, left, filed⟩ := lasting.filed segment
        rw [append_other queue stored _ _ same, grown, Function.update_of_ne same]
        exact ⟨whole, left, filed.transfer rfl (Function.update_of_ne same _ _) (Function.update_of_ne same _ _)⟩
    storable := by
      intro segment
      by_cases same : segment = queue.metadata.activeSegment
      · subst same
        rw [grown, Function.update_self]
        intro entry member
        rcases List.mem_append.mp member with old | new
        · exact lasting.storable _ entry old
        · exact List.mem_singleton.mp new ▸ storable
      · rw [grown, Function.update_of_ne same]
        exact lasting.storable segment }

end Append

section Truncate

theorem emptied_filed (queue : StoreForwardQueue) (stored : Stored) (pending : Segment → List Bytes)
    (segment : Segment)
    (others : ∀ other, other ≠ segment → ∃ whole left,
      Filed faults queue other (stored.segments other) (pending other) whole left)
    (other : Segment) :
    ∃ whole left, Filed faults (queue.emptied segment) other ((stored.reclaim segment).segments other)
      (Function.update pending segment [] other) whole left := by
  by_cases same : other = segment
  · subst same
    rw [Function.update_self, show (stored.reclaim other).segments other = some [] from Function.update_self _ _ _]
    exact (emptied_ready queue other).filed
  · obtain ⟨whole, left, filed⟩ := others other same
    rw [Function.update_of_ne same,
      show (stored.reclaim segment).segments other = _ from Function.update_of_ne same _ _]
    exact ⟨whole, left, filed.transfer (Function.update_of_ne same _ _) (Function.update_of_ne same _ _)
      (Function.update_of_ne same _ _)⟩

theorem emptied_storable (segment : Segment)
    (storable : ∀ segment, ∀ payload ∈ pending segment, Storable payload) (other : Segment) :
    ∀ payload ∈ Function.update pending segment [] other, Storable payload := by
  by_cases same : other = segment
  · simp [same]
  · rw [Function.update_of_ne same]
    exact storable other

/-- A truncated segment may wait for its commit: an empty file makes every head harmless. -/
theorem emptied (lasting : Lasting faults queue stored metadata pending) (segment : Segment)
    (fails : faults.stale)
    (order : metadata.activeSegment = queue.metadata.activeSegment ∨ faults.rotation) :
    Lasting faults (queue.emptied segment) (stored.reclaim segment) metadata
      (Function.update pending segment []) where
  ready := lasting.ready
  stamped := congrArg (fun metadata : Metadata =>
    { metadata with head := Function.update metadata.head segment 0 }) lasting.stamped
  fits := measured_fits lasting.fits segment 0 0 0 (by decide)
  durableStamped := lasting.durableStamped
  durableFits := lasting.durableFits
  saved := lasting.saved
  dropped := lasting.dropped
  active := order.imp_right fun fails => ⟨fails, segment, Function.update_self _ _ _⟩
  head other := by
    by_cases same : other = segment
    · exact .inr ⟨fails, same ▸ Function.update_self _ _ _⟩
    · have kept := lasting.head other
      rwa [← show (stored.reclaim segment).segments other = _ from Function.update_of_ne same _ _,
        ← show (queue.emptied segment).metadata.head other = _ from Function.update_of_ne same _ _] at kept
  filed := emptied_filed queue stored pending segment fun other _ => lasting.filed other
  storable := emptied_storable segment lasting.storable
  capacity := lasting.capacity

end Truncate

end Lasting

end ApexiDevices
