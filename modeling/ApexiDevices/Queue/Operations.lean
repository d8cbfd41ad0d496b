import ApexiDevices.Queue.Records

set_option autoImplicit false

namespace ApexiDevices

open Device

namespace StoreForwardQueue

variable {disk : Disk} {crash : Disk → Prop}

theorem saveMetadata_wp (queue : StoreForwardQueue) {post : Bool × StoreForwardQueue → Disk → Prop}
    (before : ∀ last : Disk, last.stored = disk.stored → crash last)
    (after : ∀ last : Disk, last.stored = disk.stored.commit queue.metadata.stamped →
      crash last ∧ post (true, { queue with metadata := queue.metadata.stamped }) last) :
    Disk.device.wp queue.saveMetadata post crash disk := by
  have scratch (start : Disk) (file : Option Bytes) :
      (start.set .metadataTemporary file).stored = start.stored :=
    Disk.stored_set_scratch start _ file rfl
  have written (start : Disk) (same : start.stored = disk.stored) :
      Disk.device.wp (do
        if !(← LittleFs.openWrite .metadataTemporary) then
          return { queue with metadata := queue.metadata.stamped }.failed "Queue metadata write failed"
        if (← LittleFs.write .metadataTemporary queue.metadata.stamped.bytes) != Metadata.size then
          return { queue with metadata := queue.metadata.stamped }.failed "Queue metadata write failed"
        if !(← LittleFs.rename .metadataTemporary .metadata) then
          return { queue with metadata := queue.metadata.stamped }.failed "Queue metadata commit failed"
        return (true, { queue with metadata := queue.metadata.stamped })) post crash start := by
    rw [wp_openWrite]
    refine ⟨before _ same, ?_⟩
    simp only [Bool.not_true, Bool.false_eq_true, if_false]
    rw [wp_write]
    refine ⟨before _ (by simp only [Disk.stored_log, scratch, same, Stored.note]),
      fun kept _ => before _ (by simp only [Disk.stored_log, scratch, same, Stored.note]), ?_⟩
    simp only [Metadata.bytes_length, bne_self_eq_false, Bool.false_eq_true, if_false]
    have present := Disk.files_rewritten start .metadataTemporary queue.metadata.stamped.bytes
      (.openWrite .metadataTemporary) (.write .metadataTemporary queue.metadata.stamped.bytes)
    refine (wp_rename present).mpr
      ⟨before _ (by simp only [Disk.stored_log, scratch, same, Stored.note]), ?_⟩
    simp only [Bool.not_true, Bool.false_eq_true, if_false]
    exact after _ (by simp only [Disk.stored_log, scratch, same, Stored.note, Stored.commit,
      Disk.stored_set_metadata])
  unfold saveMetadata
  rw [wp_exists]
  split
  · rw [wp_remove]
    exact ⟨before _ rfl, written _ (by simp [scratch, Stored.note])⟩
  · exact written _ rfl

theorem truncateSegment_wp (queue : StoreForwardQueue) (segment : Segment)
    {post : Bool × StoreForwardQueue → Disk → Prop}
    (before : ∀ last : Disk, last.stored = disk.stored → crash last)
    (after : ∀ last : Disk, last.stored = disk.stored.reclaim segment →
      crash last ∧ post (true, queue.emptied segment) last) :
    Disk.device.wp (queue.truncateSegment segment) post crash disk := by
  rw [truncateSegment, wp_openWrite]
  refine ⟨before _ rfl, ?_⟩
  simp only [Bool.not_true, Bool.false_eq_true, if_false]
  exact after _ (by simp [Stored.note, Stored.reclaim, Stored.setSegment])

theorem appendRecord_wp (queue : StoreForwardQueue) (payload : Bytes)
    {post : Bool × StoreForwardQueue → Disk → Prop}
    (present : (disk.stored.segments queue.metadata.activeSegment).isSome) (nonempty : 0 < payload.length)
    (short : ∀ (last : Disk) (kept writes : Nat), kept < (record payload).length → writes < 2 →
      last.stored = disk.stored.append queue.metadata.activeSegment ((record payload).take kept) writes →
      crash last)
    (after : ∀ last : Disk,
      last.stored = disk.stored.append queue.metadata.activeSegment (record payload) 2 →
      crash last ∧ post (true, queue.appended payload) last) :
    Disk.device.wp (queue.appendRecord payload) post crash disk := by
  obtain ⟨header, same⟩ : ∃ header, header = (RecordHeader.ofPayload payload).bytes := ⟨_, rfl⟩
  have whole : record payload = header ++ payload := by rw [record, same]
  have size : header.length = RecordHeader.size := by rw [same, RecordHeader.bytes_length]
  rw [whole] at short after
  rw [appendRecord, wp_openAppend]
  generalize queue.metadata.activeSegment = segment at present short after ⊢
  have untouched := Stored.append_nil disk.stored segment present
  have empty : disk.stored = disk.stored.append segment ((header ++ payload).take 0) 0 := by
    rw [List.take_zero, untouched]
  have positive : 0 < (header ++ payload).length := by
    rw [List.length_append, size]
    exact Nat.add_pos_left (by decide) _
  refine ⟨short _ 0 0 positive (by decide) empty, ?_⟩
  simp only [Bool.not_true, Bool.false_eq_true, if_false, ← same]
  obtain ⟨opened, start⟩ : ∃ opened, opened = (disk.set (.segment segment)
      (some (disk.content (.segment segment)))).log (.openAppend (.segment segment)) := ⟨_, rfl⟩
  have kept : opened.stored = disk.stored := by
    rw [start, Disk.stored_log, Disk.stored_set_segment]
    simpa [Stored.append, Stored.note, Stored.setSegment] using untouched
  rw [← start, wp_write]
  refine ⟨short _ 0 0 positive (by decide) (kept.trans empty), fun part within => ?_, ?_⟩
  · refine short _ part 0 (by rw [List.length_append]; omega) (by decide) ?_
    rw [Disk.stored_torn, kept, List.take_append_of_le_length (Nat.le_of_lt within)]
  simp only [size, bne_self_eq_false, Bool.false_eq_true, if_false]
  obtain ⟨headed, wrote⟩ : ∃ headed, headed = (opened.set (.segment segment)
      (some (opened.content (.segment segment) ++ header))).log (.write (.segment segment) header) := ⟨_, rfl⟩
  have middle : headed.stored = disk.stored.append segment header 1 := by
    rw [wrote, Disk.stored_append, kept]
  rw [← wrote, wp_write]
  refine ⟨?_, fun part within => ?_, ?_⟩
  · refine short _ header.length 1 (by rw [List.length_append]; omega) (by decide) ?_
    rw [middle, List.take_left]
  · refine short _ (header.length + part) 1 (by rw [List.length_append]; omega) (by decide) ?_
    rw [Disk.stored_torn, middle, Stored.append_append, List.take_length_add_append]
  simp only [bne_self_eq_false, Bool.false_eq_true, if_false]
  exact after _ (by rw [Disk.stored_append, middle, Stored.append_append])

/-- The queue once the drop of the older segment is counted. -/
def counted (queue : StoreForwardQueue) : StoreForwardQueue :=
  if queue.count queue.metadata.activeSegment.other > 0 then
    { queue with metadata := { queue.metadata with
        droppedRecords := saturatingAdd queue.metadata.droppedRecords
          (queue.count queue.metadata.activeSegment.other) }.stamped }
  else queue

def rotated (queue : StoreForwardQueue) : StoreForwardQueue :=
  let emptied := queue.counted.emptied queue.metadata.activeSegment.other
  { emptied with metadata := { emptied.metadata with
      activeSegment := queue.metadata.activeSegment.other }.stamped }

def storeCounted (queue : StoreForwardQueue) (stored : Stored) : Stored :=
  if queue.count queue.metadata.activeSegment.other > 0 then stored.commit queue.counted.metadata
  else stored

def storeReclaimed (queue : StoreForwardQueue) (stored : Stored) : Stored :=
  (queue.storeCounted stored).reclaim queue.metadata.activeSegment.other

def storeRotated (queue : StoreForwardQueue) (stored : Stored) : Stored :=
  (queue.storeReclaimed stored).commit queue.rotated.metadata

theorem rotateSegment_wp (queue : StoreForwardQueue) {post : Bool × StoreForwardQueue → Disk → Prop}
    (before : ∀ last : Disk, last.stored = disk.stored → crash last)
    (counted : ∀ last : Disk, last.stored = queue.storeCounted disk.stored → crash last)
    (reclaimed : ∀ last : Disk, last.stored = queue.storeReclaimed disk.stored → crash last)
    (after : ∀ last : Disk, last.stored = queue.storeRotated disk.stored →
      crash last ∧ post (true, queue.rotated) last) :
    Disk.device.wp queue.rotateSegment post crash disk := by
  have rest (start : Disk) (same : start.stored = queue.storeCounted disk.stored) :
      Disk.device.wp (queue.counted.activateSegment queue.metadata.activeSegment.other) post crash
        start := by
    refine Model.wp_bind.mpr (truncateSegment_wp _ _ (fun last kept => counted _ (kept.trans same)) ?_)
    intro middle truncated
    rw [same] at truncated
    refine ⟨reclaimed _ truncated, ?_⟩
    simp only [Bool.not_true, Bool.false_eq_true, if_false]
    refine saveMetadata_wp _ (fun last kept => reclaimed _ (kept.trans truncated)) ?_
    intro last saved
    exact after _ (by rw [saved, truncated]; rfl)
  unfold rotateSegment
  by_cases drops : queue.count queue.metadata.activeSegment.other > 0
  · have same : queue.counted = _ := if_pos drops
    have store : queue.storeCounted disk.stored = _ := if_pos drops
    simp only [drops, if_true]
    refine Model.wp_bind.mpr (saveMetadata_wp _ before fun last saved => ?_)
    rw [same] at rest store
    exact ⟨counted _ (saved.trans store.symm), rest last (saved.trans store.symm)⟩
  · have same : queue.counted = queue := if_neg drops
    have store : queue.storeCounted disk.stored = disk.stored := if_neg drops
    rw [same] at rest
    simp only [drops, if_false]
    exact rest disk store.symm

theorem copyBytes_wp (target source : Path) (position rounds : Nat) (old bytes rest : Bytes)
    {post : Bool × File → Disk → Prop} (differs : source ≠ target) (unseen : Disk.scratch target = true)
    (held : disk.files target = some old) (here : (disk.content source).drop position = bytes ++ rest)
    (enough : bytes.length ≤ rounds)
    (before : ∀ last : Disk, last.stored = disk.stored → crash last)
    (after : ∀ last : Disk, last.stored = disk.stored →
      last.files target = some (old ++ bytes) →
      (∀ path, path ≠ target → last.files path = disk.files path) →
      post (true, ⟨source, position + bytes.length⟩) last) :
    Disk.device.wp (copyBytes target true rounds ⟨source, position⟩ bytes.length) post crash disk := by
  -- on the rounds left: each copies up to 256 bytes and goes on behind them
  induction rounds generalizing disk position old bytes with
  | zero =>
    have none : bytes = [] := List.length_eq_zero_iff.mp (Nat.le_zero.mp enough)
    subst none
    exact ⟨before _ rfl, after _ rfl (by rw [held, List.append_nil]) fun _ _ => rfl⟩
  | succ rounds ih =>
    rw [copyBytes]
    by_cases none : bytes = []
    · subst none
      exact ⟨before _ rfl, after _ rfl (by rw [held, List.append_nil]) fun _ _ => rfl⟩
    have positive : 0 < bytes.length := List.length_pos_iff.mpr none
    have split : (disk.content source).drop position = bytes.take 256 ++ (bytes.drop 256 ++ rest) := by
      rw [here, ← List.append_assoc, List.take_append_drop]
    have wanted : min bytes.length 256 = (bytes.take 256).length := by
      rw [List.length_take, Nat.min_comm]
    have left : bytes.length - (bytes.take 256).length = (bytes.drop 256).length := by
      rw [List.length_take, List.length_drop]
      omega
    have parts : (bytes.take 256).length + (bytes.drop 256).length = bytes.length := by
      rw [← List.length_append, List.take_append_drop]
    have scratch (start : Disk) (file : Option Bytes) : (start.set target file).stored = start.stored :=
      Disk.stored_set_scratch start _ file unseen
    rw [if_neg (Nat.ne_of_gt positive)]
    simp only [wanted, left]
    refine (File.read_observes split).then ?_
    simp only [Bool.true_and, beq_self_eq_true, Bool.not_true, Bool.false_eq_true, if_false]
    obtain ⟨written, wrote⟩ : ∃ written, written = (disk.set target
        (some (disk.content target ++ bytes.take 256))).log (.write target (bytes.take 256)) := ⟨_, rfl⟩
    have quiet : written.stored = disk.stored := by
      rw [wrote, Disk.stored_log, scratch]
      cases target <;> first | rfl | cases unseen
    have kept (path : Path) (other : path ≠ target) : written.files path = disk.files path := by
      rw [wrote, Disk.files_log, Disk.files_set_of_ne _ _ _ _ other]
    have grown : written.files target = some (old ++ bytes.take 256) := by
      rw [wrote, Disk.files_log, Disk.files_set_self, Disk.content, held, Option.getD_some]
    rw [wp_write, ← wrote]
    refine ⟨before _ rfl, fun part _ => before _ (scratch _ _), ?_⟩
    simp only [bne_self_eq_false, Bool.false_eq_true, if_false]
    have unchanged : written.content source = disk.content source :=
      congrArg (Option.getD · []) (kept source differs)
    refine ih (position + (bytes.take 256).length) _ (bytes.drop 256) grown ?_ ?_ ?_ ?_
    · rw [unchanged]
      exact drop_add_of_append split
    · rw [List.length_drop]
      omega
    · exact fun last same => before last (same.trans quiet)
    · intro last same filled others
      rw [Nat.add_assoc, parts]
      refine after last (same.trans quiet) ?_ fun path other => (others path other).trans (kept path other)
      rw [filled, List.append_assoc, List.take_append_drop]

theorem repairSegment_wp (segment : Segment) (valid torn : Bytes) {post : Bool → Disk → Prop}
    (held : disk.files (.segment segment) = some (valid ++ torn))
    (before : ∀ last : Disk, last.stored = disk.stored → crash last)
    (after : ∀ last : Disk, last.stored = disk.stored.setSegment segment valid →
      crash last ∧ post true last) :
    Disk.device.wp (repairSegment segment valid.length (valid ++ torn).length) post crash disk := by
  have scratch (start : Disk) (file : Option Bytes) :
      (start.set .segmentRepair file).stored = start.stored := Disk.stored_set_scratch start _ file rfl
  have aside (start : Disk) (file : Option Bytes) :
      (start.set (.quarantine segment) file).stored = start.stored :=
    Disk.stored_set_scratch start _ file rfl
  have corrupt : (valid ++ torn).length - valid.length = torn.length := by
    rw [List.length_append, Nat.add_sub_cancel_left]
  -- nothing that a boot reads changes until the copy is renamed over the segment
  have copied (start : Disk) (same : start.stored = disk.stored)
      (live : start.files (.segment segment) = some (valid ++ torn)) :
      Disk.device.wp (replaceSegment segment true valid.length (valid ++ torn).length) post crash
        start := by
    rw [replaceSegment, wp_openWrite, corrupt]
    refine ⟨before _ same, ?_⟩
    simp only [Bool.and_self, if_true]
    obtain ⟨opened, start⟩ : ∃ opened, opened =
        (start.set .segmentRepair (some [])).log (.openWrite .segmentRepair) := ⟨_, rfl⟩
    have openedStored : opened.stored = disk.stored := by
      rw [start, Disk.stored_log, scratch, ← same]
      rfl
    have openedLive : opened.content (.segment segment) = valid ++ torn := by
      rw [start, Disk.content_log, Disk.content_set_of_ne _ _ _ _ (by simp), Disk.content, live,
        Option.getD_some]
    have openedEmpty : opened.files .segmentRepair = some [] := by
      rw [start, Disk.files_log, Disk.files_set_self]
    rw [← start]
    refine Model.wp_bind.mpr (copyBytes_wp .segmentRepair (.segment segment) 0 _ [] valid torn (by simp) rfl
      openedEmpty (by rw [openedLive, List.drop_zero]) (Nat.le_refl _)
      (fun last kept => before last (kept.trans openedStored)) ?_)
    intro prefixed prefixedStored filled others
    rw [openedStored] at prefixedStored
    rw [List.nil_append] at filled
    rw [wp_openAppend]
    refine ⟨before _ prefixedStored, ?_⟩
    simp only [if_true]
    obtain ⟨ready, begun⟩ : ∃ ready, ready = (prefixed.set (.quarantine segment)
        (some (prefixed.content (.quarantine segment)))).log (.openAppend (.quarantine segment)) := ⟨_, rfl⟩
    have readyStored : ready.stored = disk.stored := by
      rw [begun, Disk.stored_log, aside, ← prefixedStored]
      rfl
    have readyLive : ready.content (.segment segment) = valid ++ torn := by
      rw [begun, Disk.content_log, Disk.content_set_of_ne _ _ _ _ (by simp), Disk.content,
        others _ (by simp)]
      exact openedLive
    have readyRepair : ready.files .segmentRepair = some valid := by
      rw [begun, Disk.files_log, Disk.files_set_of_ne _ _ _ _ (by simp), filled]
    have readyAside : ready.files (.quarantine segment) = some (prefixed.content (.quarantine segment)) := by
      rw [begun, Disk.files_log, Disk.files_set_self]
    rw [← begun, Nat.zero_add]
    refine Model.wp_bind.mpr (copyBytes_wp (.quarantine segment) (.segment segment) valid.length _ _ torn []
      (by simp) rfl readyAside (by rw [readyLive, List.drop_left, List.append_nil]) (Nat.le_refl _)
      (fun last kept => before last (kept.trans readyStored)) ?_)
    intro saved savedStored _ unchanged
    rw [readyStored] at savedStored
    have repair : saved.files .segmentRepair = some valid := by
      rw [unchanged _ (by simp), readyRepair]
    simp only [Bool.not_true, Bool.false_eq_true, if_false]
    rw [← Prog.bind_pure_eq (LittleFs.rename _ _), wp_rename repair]
    refine ⟨before _ savedStored, after _ ?_⟩
    rw [Disk.stored_log, scratch, Disk.stored_set_segment, savedStored]
    rfl
  unfold repairSegment
  rw [wp_openRead, wp_exists, held, Option.isSome_some]
  split
  · rw [wp_remove]
    exact ⟨before _ rfl, copied _ (by simp only [Disk.stored_log, scratch, Stored.note])
      (by rw [← held]; rfl)⟩
  · exact copied disk rfl held

end StoreForwardQueue

end ApexiDevices
