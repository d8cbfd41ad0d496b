import ApexiDevices.Queue.Calls
import ApexiDevices.Storage.Failing

set_option autoImplicit false

/-!
# Queue calls on a failing filesystem

What each step of a call leaves when any of its filesystem calls may be refused
or may write less than it was given.
-/

namespace ApexiDevices

open Device

/-- The calls of an append; all others belong to a commit, a truncation or a boot. -/
def FsOp.appends : FsOp → Bool
  | .openAppend (.segment _) | .write (.segment _) _ => true
  | _ => false

/-- Some call of a commit or a truncation may fail. -/
def MayRefuse (may : FsOp → Prop) : Prop := ∃ op, may op ∧ op.appends = false

/-- Some call of an append may fail. -/
def MayTear (may : FsOp → Prop) : Prop := ∃ op, may op ∧ op.appends = true

namespace StoreForwardQueue

variable {may : FsOp → Prop} {disk : Disk} {crash : Disk → Prop}

theorem saveMetadata_failing (queue : StoreForwardQueue) {post : Bool × StoreForwardQueue → Disk → Prop}
    (before : ∀ last : Disk, last.stored = disk.stored → crash last)
    (refused : ∀ (last : Disk) (error : String), MayRefuse may → last.stored = disk.stored →
      post (false, { queue with metadata := queue.metadata.stamped, lastError := error }) last)
    (after : ∀ last : Disk, last.stored = disk.stored.commit queue.metadata.stamped →
      crash last ∧ post (true, { queue with metadata := queue.metadata.stamped }) last) :
    (Disk.failing may).wp queue.saveMetadata post crash disk := by
  have scratch (start : Disk) (file : Option Bytes) :
      (start.set .metadataTemporary file).stored = start.stored :=
    Disk.stored_set_scratch start _ file rfl
  have stop (last : Disk) (error : String) (allowed : MayRefuse may) (same : last.stored = disk.stored) :
      (Disk.failing may).wp (pure ({ queue with metadata := queue.metadata.stamped }.failed error)) post crash
        last :=
    ⟨before _ same, refused _ error allowed same⟩
  -- a stale temporary is removed first; what follows is the same with and without it
  have written (start : Disk) (same : start.stored = disk.stored) :
      (Disk.failing may).wp (do
        if !(← LittleFs.openWrite .metadataTemporary) then
          return { queue with metadata := queue.metadata.stamped }.failed "Queue metadata write failed"
        if (← LittleFs.write .metadataTemporary queue.metadata.stamped.bytes) != Metadata.size then
          return { queue with metadata := queue.metadata.stamped }.failed "Queue metadata write failed"
        if !(← LittleFs.rename .metadataTemporary .metadata) then
          return { queue with metadata := queue.metadata.stamped }.failed "Queue metadata commit failed"
        return (true, { queue with metadata := queue.metadata.stamped })) post crash start := by
    refine Disk.wp_failing_openWrite (before _ same) ?_ fun allowed => stop _ _ ⟨_, allowed, rfl⟩ same
    simp only [Bool.not_true, Bool.false_eq_true, if_false]
    have opened : ((start.set .metadataTemporary (some [])).log (.openWrite .metadataTemporary)).stored =
        disk.stored := by
      simp only [Disk.stored_log, scratch, same, Stored.note]
    have partly (file : Option Bytes) :
        (((start.set .metadataTemporary (some [])).log (.openWrite .metadataTemporary)).set .metadataTemporary
          file).stored = disk.stored := (scratch _ _).trans opened
    refine Disk.wp_failing_write (fun kept => before _ (partly _)) ?_ ?_ (before _ opened)
    · simp only [Metadata.bytes_length, bne_self_eq_false, Bool.false_eq_true, if_false]
      have present := Disk.files_rewritten start .metadataTemporary queue.metadata.stamped.bytes
        (.openWrite .metadataTemporary) (.write .metadataTemporary queue.metadata.stamped.bytes)
      have quiet (last : Disk) (same : last.stored = disk.stored) :
          (last.log (.write .metadataTemporary queue.metadata.stamped.bytes)).stored = disk.stored := by
        rw [Disk.stored_log, same]
        rfl
      refine Disk.wp_failing_rename present (before _ (quiet _ (partly _))) ?_
        fun allowed => stop _ _ ⟨_, allowed, rfl⟩ (quiet _ (partly _))
      simp only [Bool.not_true, Bool.false_eq_true, if_false]
      exact after _ (by simp only [Disk.stored_log, scratch, same, Stored.note, Stored.commit,
        Disk.stored_set_metadata])
    · intro count kept allowed short
      have differs : (count != Metadata.size) = true := by
        rw [Metadata.bytes_length] at short
        exact bne_iff_ne.mpr (Nat.ne_of_lt short)
      simp only [differs, if_true]
      exact stop _ _ ⟨_, allowed, rfl⟩ (partly _)
  unfold saveMetadata
  apply Disk.wp_failing_exists
  split
  · exact Disk.wp_failing_remove (before _ rfl) (written _ (by simp [scratch, Stored.note])) (written _ rfl)
  · exact written _ rfl

theorem truncateSegment_failing (queue : StoreForwardQueue) (segment : Segment)
    {post : Bool × StoreForwardQueue → Disk → Prop}
    (before : ∀ last : Disk, last.stored = disk.stored → crash last)
    (refused : ∀ error : String, MayRefuse may → post (false, { queue with lastError := error }) disk)
    (after : ∀ last : Disk, last.stored = disk.stored.reclaim segment →
      crash last ∧ post (true, queue.emptied segment) last) :
    (Disk.failing may).wp (queue.truncateSegment segment) post crash disk := by
  unfold truncateSegment
  refine Disk.wp_failing_openWrite (before _ rfl) ?_ fun allowed =>
    ⟨before _ rfl, refused _ ⟨_, allowed, rfl⟩⟩
  simp only [Bool.not_true, Bool.false_eq_true, if_false]
  exact after _ (by simp [Stored.note, Stored.reclaim, Stored.setSegment])

theorem appendRecord_failing (queue : StoreForwardQueue) (payload : Bytes)
    {post : Bool × StoreForwardQueue → Disk → Prop}
    (present : (disk.stored.segments queue.metadata.activeSegment).isSome)
    (short : ∀ (last : Disk) (kept writes : Nat), writes < 2 →
      last.stored = disk.stored.append queue.metadata.activeSegment ((record payload).take kept) writes →
      crash last)
    (refused : ∀ (last : Disk) (kept writes : Nat) (error : String), MayTear may → writes < 2 →
      last.stored = disk.stored.append queue.metadata.activeSegment ((record payload).take kept) writes →
      post (false, { queue with lastError := error }) last)
    (after : ∀ last : Disk,
      last.stored = disk.stored.append queue.metadata.activeSegment (record payload) 2 →
      crash last ∧ post (true, queue.appended payload) last) :
    (Disk.failing may).wp (queue.appendRecord payload) post crash disk := by
  obtain ⟨header, same⟩ : ∃ header, header = (RecordHeader.ofPayload payload).bytes := ⟨_, rfl⟩
  have whole : record payload = header ++ payload := by rw [record, same]
  have size : header.length = RecordHeader.size := by rw [same, RecordHeader.bytes_length]
  -- every failure ends alike: a part of the record stands in the file
  have stop (last : Disk) (kept writes : Nat) (error : String) (allowed : MayTear may) (few : writes < 2)
      (stored : last.stored =
        disk.stored.append queue.metadata.activeSegment ((record payload).take kept) writes) :
      (Disk.failing may).wp (pure (queue.failed error)) post crash last :=
    ⟨short last kept writes few stored, refused last kept writes error allowed few stored⟩
  rw [whole] at short after stop
  unfold appendRecord
  generalize queue.metadata.activeSegment = segment at present short stop after ⊢
  have untouched := Stored.append_nil disk.stored segment present
  have empty : disk.stored = disk.stored.append segment ((header ++ payload).take 0) 0 := by
    rw [List.take_zero, untouched]
  refine Disk.wp_failing_openAppend (short _ 0 0 (by decide) empty) ?_ fun allowed =>
    stop _ 0 0 _ ⟨_, allowed, rfl⟩ (by decide) empty
  simp only [Bool.not_true, Bool.false_eq_true, if_false, ← same]
  obtain ⟨opened, start⟩ : ∃ opened, opened = (disk.set (.segment segment)
      (some (disk.content (.segment segment)))).log (.openAppend (.segment segment)) := ⟨_, rfl⟩
  have kept : opened.stored = disk.stored := by
    rw [start, Disk.stored_log, Disk.stored_set_segment]
    simpa [Stored.append, Stored.note, Stored.setSegment] using untouched
  rw [← start]
  have headPart (part : Nat) : (opened.set (.segment segment)
      (some (opened.content (.segment segment) ++ header.take part))).stored =
      disk.stored.append segment ((header ++ payload).take (min part header.length)) 0 := by
    rw [Disk.stored_torn, kept, List.take_append_of_le_length (Nat.min_le_right _ _), ← List.take_eq_take_min]
  refine Disk.wp_failing_write (fun part => short _ _ 0 (by decide) (headPart part)) ?_ ?_
    (short _ 0 0 (by decide) (kept.trans empty))
  · simp only [size, bne_self_eq_false, Bool.false_eq_true, if_false]
    obtain ⟨headed, wrote⟩ : ∃ headed, headed = (opened.set (.segment segment)
        (some (opened.content (.segment segment) ++ header))).log (.write (.segment segment) header) := ⟨_, rfl⟩
    have middle : headed.stored = disk.stored.append segment header 1 := by
      rw [wrote, Disk.stored_append, kept]
    have bodyPart (part : Nat) : (headed.set (.segment segment)
        (some (headed.content (.segment segment) ++ payload.take part))).stored =
        disk.stored.append segment ((header ++ payload).take (header.length + part)) 1 := by
      rw [Disk.stored_torn, middle, Stored.append_append, List.take_length_add_append]
    rw [← wrote]
    refine Disk.wp_failing_write (fun part => short _ _ 1 (by decide) (bodyPart part)) ?_ ?_
      (short _ header.length 1 (by decide) (by rw [middle, List.take_left]))
    · simp only [bne_self_eq_false, Bool.false_eq_true, if_false]
      exact after _ (by rw [Disk.stored_append, middle, Stored.append_append])
    · intro count part allowed fewer
      simp only [bne_iff_ne.mpr (Nat.ne_of_lt fewer), if_true]
      exact stop _ _ 1 _ ⟨_, allowed, rfl⟩ (by decide) (bodyPart part)
  · intro count part allowed fewer
    rw [size] at fewer
    simp only [bne_iff_ne.mpr (Nat.ne_of_lt fewer), if_true]
    exact stop _ _ 0 _ ⟨_, allowed, rfl⟩ (by decide) (headPart part)

theorem rotateSegment_failing (queue : StoreForwardQueue) {post : Bool × StoreForwardQueue → Disk → Prop}
    (before : ∀ last : Disk, last.stored = disk.stored → crash last)
    (counted : ∀ last : Disk, last.stored = queue.storeCounted disk.stored → crash last)
    (reclaimed : ∀ last : Disk, last.stored = queue.storeReclaimed disk.stored → crash last)
    (uncounted : ∀ (last : Disk) (error : String), MayRefuse may → last.stored = disk.stored →
      post (false, { queue with metadata := queue.metadata.stamped, lastError := error }) last)
    (unreclaimed : ∀ (last : Disk) (error : String), MayRefuse may →
      last.stored = queue.storeCounted disk.stored → post (false, { queue.counted with lastError := error }) last)
    (uncommitted : ∀ (last : Disk) (error : String), MayRefuse may →
      last.stored = queue.storeReclaimed disk.stored → post (false, { queue.rotated with lastError := error }) last)
    (after : ∀ last : Disk, last.stored = queue.storeRotated disk.stored →
      crash last ∧ post (true, queue.rotated) last) :
    (Disk.failing may).wp queue.rotateSegment post crash disk := by
  have rest (start : Disk) (same : start.stored = queue.storeCounted disk.stored) :
      (Disk.failing may).wp (queue.counted.activateSegment queue.metadata.activeSegment.other) post crash
        start := by
    refine Model.wp_bind.mpr (truncateSegment_failing _ _ (fun last kept => counted _ (kept.trans same)) ?_ ?_)
    · intro error allowed
      exact ⟨counted _ same, unreclaimed _ error allowed same⟩
    intro middle truncated
    rw [same] at truncated
    refine ⟨reclaimed _ truncated, ?_⟩
    simp only [Bool.not_true, Bool.false_eq_true, if_false]
    refine saveMetadata_failing _ (fun last kept => reclaimed _ (kept.trans truncated)) ?_ ?_
    · exact fun last error allowed kept => uncommitted last error allowed (kept.trans truncated)
    · intro last saved
      exact after _ (by rw [saved, truncated]; rfl)
  unfold rotateSegment
  by_cases drops : queue.count queue.metadata.activeSegment.other > 0
  · have same : queue.counted = _ := if_pos drops
    have store : queue.storeCounted disk.stored = _ := if_pos drops
    simp only [drops, if_true]
    rw [same] at rest store
    refine Model.wp_bind.mpr (saveMetadata_failing _ before ?_ fun last saved => ?_)
    · exact fun last error allowed kept => ⟨before _ kept, uncounted last error allowed kept⟩
    · exact ⟨counted _ (saved.trans store.symm), rest last (saved.trans store.symm)⟩
  · have same : queue.counted = queue := if_neg drops
    have store : queue.storeCounted disk.stored = disk.stored := if_neg drops
    rw [same] at rest
    simp only [drops, if_false]
    exact rest disk store.symm

end StoreForwardQueue

end ApexiDevices
