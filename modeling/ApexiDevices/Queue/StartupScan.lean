import ApexiDevices.Queue.UploadCalls

set_option autoImplicit false

/-!
# The scan at startup

`begin` on segment files with any bytes in them. Behind the replay head it
keeps the longest run of records, and moves what is left to quarantine.
-/

namespace ApexiDevices

open Device

namespace RecordHeader

theorem bytes_ofBytes {bytes : Bytes} (whole : bytes.length = size) : (ofBytes bytes).bytes = bytes := by
  have part (offset : Nat) (inside : offset + 4 ≤ 12) :
      littleEndian 4 (field bytes offset 4) = (bytes.drop offset).take 4 := by
    have length : ((bytes.drop offset).take 4).length = 4 := by
      rw [List.length_take, List.length_drop, whole, size]
      omega
    have read := littleEndian_ofLittleEndian ((bytes.drop offset).take 4)
    rwa [length] at read
  have last : (bytes.drop 8).take 4 = bytes.drop 8 :=
    List.take_of_length_le (by rw [List.length_drop, whole, size])
  unfold RecordHeader.bytes ofBytes
  dsimp only
  rw [part 0 (by decide), part 4 (by decide), part 8 (by decide), last, List.drop_zero,
    ← List.take_add, List.take_append_drop]

end RecordHeader

theorem Disk.content_of_files {disk last : Disk} {path : Path} (same : last.files path = disk.files path) :
    last.content path = disk.content path :=
  congrArg (Option.getD · []) same

namespace StoreForwardQueue

/-! ## The run of records in any bytes -/

variable {content payload : Bytes} {position count : Nat}

theorem recordAt_written (record : recordAt content position = some payload) :
    Storable payload ∧ content.drop position =
      ApexiDevices.record payload ++ content.drop (position + (RecordHeader.size + payload.length)) := by
  unfold recordAt at record
  dsimp only at record
  obtain ⟨bytes, here⟩ : ∃ bytes, bytes = (content.drop position).take RecordHeader.size := ⟨_, rfl⟩
  obtain ⟨body, behind⟩ : ∃ body, body =
      (content.drop (position + RecordHeader.size)).take (RecordHeader.ofBytes bytes).length := ⟨_, rfl⟩
  rw [← here, ← behind] at record
  split at record
  · cases record
  rename_i sized
  split at record
  · cases record
  rename_i sound
  obtain rfl := Option.some.inj record
  simp only [Bool.or_eq_true, bne_iff_ne, ne_eq, not_or, not_not, Bool.not_eq_true', Bool.not_eq_false] at sized sound
  have fields := sized.2
  simp only [RecordHeader.valid, Bool.and_eq_true, beq_iff_eq, bne_iff_ne, decide_eq_true_eq] at fields
  have header : RecordHeader.ofPayload body = RecordHeader.ofBytes bytes := by
    rw [RecordHeader.ofPayload, ← fields.1.1, sound.1, sound.2]
  have split : content.drop position = bytes ++ content.drop (position + RecordHeader.size) := by
    rw [here, ← List.drop_drop, List.take_append_drop]
  have tail : content.drop (position + RecordHeader.size) =
      body ++ content.drop (position + (RecordHeader.size + body.length)) := by
    have parts := (List.take_append_drop (RecordHeader.ofBytes bytes).length
      (content.drop (position + RecordHeader.size))).symm
    rwa [List.drop_drop, ← behind, ← sound.1, Nat.add_assoc] at parts
  refine ⟨⟨?_, ?_⟩, ?_⟩
  · rw [sound.1]
    exact Nat.pos_of_ne_zero fields.1.2
  · rw [sound.1]
    exact fields.2
  · rw [ApexiDevices.record, header, RecordHeader.bytes_ofBytes sized.1, List.append_assoc, ← tail, split]

theorem readable_written (content : Bytes) (position count : Nat) :
    (∀ payload ∈ readable content position count, Storable payload) ∧
      content.drop position = records (readable content position count) ++
        content.drop (position + (records (readable content position count)).length) := by
  induction count generalizing position with
  | zero => exact ⟨nofun, by simp⟩
  | succ count ih =>
    cases read : recordAt content position with
    | none =>
      rw [readable_none read]
      exact ⟨nofun, by simp⟩
    | some payload =>
      obtain ⟨storable, here⟩ := recordAt_written read
      obtain ⟨others, behind⟩ := ih (position + (RecordHeader.size + payload.length))
      rw [readable_some read]
      refine ⟨List.forall_mem_cons.mpr ⟨storable, others⟩, ?_⟩
      rw [records_cons, List.append_assoc, List.length_append, record_length,
        ← Nat.add_assoc position (RecordHeader.size + payload.length), ← behind]
      exact here

theorem readable_ends (enough : content.length - position ≤ count) :
    recordAt content (position + (records (readable content position count)).length) = none := by
  induction count generalizing position with
  | zero => exact recordAt_past (by simpa [Nat.sub_eq_zero_iff_le] using Nat.le_zero.mp enough)
  | succ count ih =>
    cases read : recordAt content position with
    | none =>
      rw [readable_none read]
      simpa using read
    | some payload =>
      have size : 0 < RecordHeader.size := by decide
      rw [readable_some read, records_cons, List.length_append, record_length,
        ← Nat.add_assoc position (RecordHeader.size + payload.length)]
      exact ih (by omega)

section Scan

variable {disk : Disk} {path : Path}

theorem scanRecords_stops (rounds count : Nat) (within : position ≤ (disk.content path).length)
    (none : recordAt (disk.content path) position = none) :
    Disk.device.Observes disk (scanRecords path (disk.content path).length rounds position count)
      (position, count) := by
  cases rounds with
  | zero => exact ⟨rfl, rfl, rfl⟩
  | succ rounds =>
    rw [scanRecords]
    split
    case isFalse => exact ⟨rfl, rfl, rfl⟩
    rw [Model.Observes, wp_seek]
    simp only [within, decide_true, Bool.not_true, Bool.false_eq_true, if_false]
    refine (fileRead_any _).then ?_
    obtain ⟨bytes, here⟩ : ∃ bytes, bytes = ((disk.content path).drop position).take RecordHeader.size :=
      ⟨_, rfl⟩
    rw [← here]
    dsimp only
    split
    case isTrue => exact ⟨rfl, rfl, rfl⟩
    rename_i sound
    simp only [Bool.or_eq_true, bne_iff_ne, ne_eq, not_or, not_not, Bool.not_eq_true', Bool.not_eq_false,
      decide_eq_true_eq, gt_iff_lt, Nat.not_lt] at sound
    obtain ⟨⟨size, valid⟩, inside⟩ := sound
    obtain ⟨body, behind⟩ : ∃ body, body =
        ((disk.content path).drop (position + RecordHeader.size)).take (RecordHeader.ofBytes bytes).length :=
      ⟨_, rfl⟩
    have length : body.length = (RecordHeader.ofBytes bytes).length := by
      rw [behind, List.length_take, List.length_drop]
      omega
    -- header and length are right, so it is the checksum that stops the scan
    have sum : (checksum body).toNat ≠ (RecordHeader.ofBytes bytes).checksum := by
      intro same
      unfold recordAt at none
      dsimp only at none
      rw [← here, if_neg (by simp [size, valid]), ← behind, if_neg (by simp [length, same])] at none
      cases none
    have split : (disk.content path).drop (position + bytes.length) =
        body ++ ((disk.content path).drop (position + RecordHeader.size)).drop (RecordHeader.ofBytes bytes).length := by
      rw [size, behind, List.take_append_drop]
    have summed := checksumFile_observes 2166136261 split
    rw [length] at summed
    refine summed.then ?_
    change Disk.device.wp (if (checksum body).toNat != _ then _ else _) _ _ _
    rw [if_pos (by simpa using sum)]
    exact ⟨rfl, rfl, rfl⟩

theorem scanRecords_any (rounds count : Nat) (within : position ≤ (disk.content path).length) :
    Disk.device.Observes disk (scanRecords path (disk.content path).length rounds position count)
      (position + (records (readable (disk.content path) position rounds)).length,
        count + (readable (disk.content path) position rounds).length) := by
  induction rounds generalizing position count with
  | zero => exact ⟨rfl, rfl, rfl⟩
  | succ rounds ih =>
    cases read : recordAt (disk.content path) position with
    | none =>
      rw [readable_none read]
      exact scanRecords_stops _ _ within read
    | some payload =>
      -- one round of the scan takes this record; `later` is the run behind it
      obtain ⟨storable, here⟩ := recordAt_written read
      have split : (disk.content path).drop position = (RecordHeader.ofPayload payload).bytes ++
          (payload ++ (disk.content path).drop (position + (RecordHeader.size + payload.length))) := by
        rw [here, record, List.append_assoc]
      have body : (disk.content path).drop (position + RecordHeader.size) =
          payload ++ (disk.content path).drop (position + (RecordHeader.size + payload.length)) := by
        rw [← RecordHeader.bytes_length (RecordHeader.ofPayload payload)]
        exact drop_add_of_append split
      have inside : position + (RecordHeader.size + payload.length) ≤ (disk.content path).length := by
        have length := congrArg List.length here
        rw [List.length_drop, List.length_append, record_length, List.length_drop] at length
        have positive := storable.nonempty
        omega
      have later := ih (count + 1) inside
      rw [readable_some read, records_cons, List.length_append, record_length, List.length_cons,
        ← Nat.add_assoc position (RecordHeader.size + payload.length), Nat.add_comm (List.length _) 1,
        ← Nat.add_assoc count]
      rw [scanRecords, if_pos (by omega), Model.Observes, wp_seek]
      simp only [within, decide_true, Bool.not_true, Bool.false_eq_true, if_false]
      refine (readHeader_observes payload split).then ?_
      have beyond : ¬position + RecordHeader.size + payload.length > (disk.content path).length := by omega
      simp only [ofBytes_record payload storable, RecordHeader.bytes_length, bne_self_eq_false,
        ofPayload_valid payload storable, Bool.not_true, Bool.or_self, ofPayload_length, Bool.false_or,
        decide_eq_true_eq, beyond, if_false]
      refine (checksumFile_observes 2166136261 body).then ?_
      simp only [ofPayload_checksum, checksum, bne_self_eq_false, Bool.false_eq_true, if_false]
      rw [Nat.add_assoc position]
      exact later

end Scan

/-! ## The repair -/

/-- The segment keeps its valid bytes, and the others lie behind those of its quarantine. -/
structure Repaired (disk last : Disk) (segment : Segment) (valid torn : Bytes) : Prop where
  live : last.files (.segment segment) = some valid
  aside : last.content (.quarantine segment) = disk.content (.quarantine segment) ++ torn
  others : ∀ path, path ≠ .segment segment → path ≠ .quarantine segment → path ≠ .segmentRepair →
    last.files path = disk.files path

section Repair

variable {disk : Disk} {segment : Segment} {valid torn : Bytes}

theorem replaceSegment_files (held : disk.files (.segment segment) = some (valid ++ torn)) :
    Disk.device.wp (replaceSegment segment true valid.length (valid ++ torn).length)
      (fun repaired last => repaired = true ∧ Repaired disk last segment valid torn) (fun _ => True) disk := by
  have corrupt : (valid ++ torn).length - valid.length = torn.length := by
    rw [List.length_append, Nat.add_sub_cancel_left]
  rw [replaceSegment, wp_openWrite, corrupt]
  refine ⟨trivial, ?_⟩
  simp only [Bool.and_self, if_true]
  obtain ⟨opened, start⟩ : ∃ opened, opened =
      (disk.set .segmentRepair (some [])).log (.openWrite .segmentRepair) := ⟨_, rfl⟩
  have openedEmpty : opened.files .segmentRepair = some [] := by rw [start, Disk.files_log, Disk.files_set_self]
  have openedOther (path : Path) (other : path ≠ .segmentRepair) : opened.files path = disk.files path := by
    rw [start, Disk.files_log, Disk.files_set_of_ne _ _ _ _ other]
  have openedLive : opened.content (.segment segment) = valid ++ torn := by
    rw [Disk.content, openedOther _ (by simp), held, Option.getD_some]
  rw [← start]
  -- the valid bytes go to the repair file
  refine Model.wp_bind.mpr (copyBytes_wp .segmentRepair (.segment segment) 0 _ [] valid torn (by simp) rfl openedEmpty
    (by rw [openedLive, List.drop_zero]) (Nat.le_refl _) (fun _ _ => trivial) ?_)
  intro copied _ filled copiedOther
  rw [wp_openAppend]
  refine ⟨trivial, ?_⟩
  simp only [if_true]
  obtain ⟨ready, begun⟩ : ∃ ready, ready = (copied.set (.quarantine segment)
      (some (copied.content (.quarantine segment)))).log (.openAppend (.quarantine segment)) := ⟨_, rfl⟩
  have readyAside : ready.files (.quarantine segment) = some (disk.content (.quarantine segment)) := by
    rw [begun, Disk.files_log, Disk.files_set_self, Disk.content, copiedOther _ (by simp), openedOther _ (by simp),
      Disk.content]
  have readyOther (path : Path) (other : path ≠ .quarantine segment) : ready.files path = copied.files path := by
    rw [begun, Disk.files_log, Disk.files_set_of_ne _ _ _ _ other]
  have readyLive : ready.content (.segment segment) = valid ++ torn := by
    rw [Disk.content, readyOther _ (by simp), copiedOther _ (by simp)]
    exact openedLive
  rw [← begun, Nat.zero_add]
  -- the others to quarantine
  refine Model.wp_bind.mpr (copyBytes_wp (.quarantine segment) (.segment segment) valid.length _ _ torn [] (by simp) rfl
    readyAside (by rw [readyLive, List.drop_left, List.append_nil]) (Nat.le_refl _) (fun _ _ => trivial) ?_)
  intro saved _ quarantined savedOther
  have repair : saved.files .segmentRepair = some valid := by
    rw [savedOther _ (by simp), readyOther _ (by simp), filled, List.nil_append]
  simp only [Bool.not_true, Bool.false_eq_true, if_false]
  rw [← Prog.bind_pure_eq (LittleFs.rename _ _), wp_rename repair]
  refine ⟨trivial, trivial, rfl, ?_, ?_, ?_⟩
  · rw [Disk.files_log, Disk.files_set_of_ne _ _ _ _ (by simp), Disk.files_set_self]
  · rw [Disk.content_log, Disk.content_set_of_ne _ _ _ _ (by simp), Disk.content_set_of_ne _ _ _ _ (by simp),
      Disk.content, quarantined, Option.getD_some]
  · intro path live aside repaired
    rw [Disk.files_log, Disk.files_set_of_ne _ _ _ _ repaired, Disk.files_set_of_ne _ _ _ _ live,
      savedOther path aside, readyOther path aside, copiedOther path repaired, openedOther path repaired]

theorem repairSegment_files (held : disk.files (.segment segment) = some (valid ++ torn)) :
    Disk.device.wp (repairSegment segment valid.length (valid ++ torn).length)
      (fun repaired last => repaired = true ∧ Repaired disk last segment valid torn) (fun _ => True) disk := by
  unfold repairSegment
  rw [wp_openRead, wp_exists, held, Option.isSome_some]
  split
  · rw [wp_remove]
    refine ⟨trivial, ?_⟩
    obtain ⟨removed, start⟩ : ∃ removed, removed =
        (disk.set .segmentRepair none).log (.remove .segmentRepair) := ⟨_, rfl⟩
    have other (path : Path) (other : path ≠ .segmentRepair) : removed.files path = disk.files path := by
      rw [start, Disk.files_log, Disk.files_set_of_ne _ _ _ _ other]
    rw [← start]
    refine Model.wp_mono (replaceSegment_files (by rw [other _ (by simp)]; exact held)) ?_ fun _ _ => trivial
    rintro repaired last ⟨done, repair⟩
    refine ⟨done, repair.live, ?_, fun path live aside gone =>
      (repair.others path live aside gone).trans (other path gone)⟩
    rw [repair.aside, Disk.content, other _ (by simp), Disk.content]
  · exact replaceSegment_files held

end Repair

/-! ## One segment -/

def survivors (content : Bytes) (head : Nat) : List Bytes :=
  readable content (min head content.length) content.length

/-- The dead bytes and the records: what a boot leaves in a segment that has records. -/
def sound (content : Bytes) (head : Nat) : Bytes :=
  content.take (min head content.length) ++ records (survivors content head)

def behind (content : Bytes) (head : Nat) : Bytes := content.drop (sound content head).length

theorem sound_length (content : Bytes) (head : Nat) :
    (sound content head).length = min head content.length + (records (survivors content head)).length := by
  rw [sound, List.length_append, List.length_take, Nat.min_assoc, Nat.min_self]

theorem sound_behind (content : Bytes) (head : Nat) : sound content head ++ behind content head = content := by
  obtain ⟨-, split⟩ := readable_written content (min head content.length) content.length
  rw [behind, sound_length, sound, survivors, List.append_assoc, ← split, List.take_append_drop]

theorem survivors_storable (content : Bytes) (head : Nat) : ∀ payload ∈ survivors content head, Storable payload :=
  (readable_written content _ _).1

theorem survivors_maximal (content : Bytes) (head : Nat) : recordAt content (sound content head).length = none := by
  rw [sound_length]
  exact readable_ends (Nat.sub_le _ _)

def liveBytes (content : Bytes) (head : Nat) : Bytes :=
  if survivors content head = [] then [] else sound content head

def liveHead (content : Bytes) (head : Nat) : Nat :=
  if survivors content head = [] then 0 else min head content.length

structure Scanned (before after : StoreForwardQueue) (disk last : Disk) (segment : Segment) (content : Bytes)
    (head : Nat) : Prop where
  ready : SegmentReady after segment (last.files (.segment segment)) (survivors content head)
  live : last.files (.segment segment) = some (liveBytes content head)
  start : after.metadata.head segment = liveHead content head
  aside : last.content (.quarantine segment) = disk.content (.quarantine segment) ++ behind content head
  others : ∀ path, path ≠ .segment segment → path ≠ .quarantine segment → path ≠ .segmentRepair →
    last.files path = disk.files path
  events : after.metadata.corruptionEvents =
    (before.metadata.corruptionEvents + if behind content head = [] then 0 else 1) % 2 ^ 32
  bytes : after.metadata.quarantinedBytes =
    (before.metadata.quarantinedBytes + (behind content head).length) % 2 ^ 32
  elsewhere : Elsewhere before after segment

section Segments

variable {disk : Disk} {segment : Segment} {queue : StoreForwardQueue}

theorem close_scanned {scanned : StoreForwardQueue} {start : Disk} {content : Bytes} {head : Nat}
    (held : start.files (.segment segment) = some (sound content head))
    (begun : scanned.metadata.head segment = min head content.length)
    (ready : survivors content head ≠ [] →
      SegmentReady scanned segment (some (sound content head)) (survivors content head))
    (aside : start.content (.quarantine segment) = disk.content (.quarantine segment) ++ behind content head)
    (others : ∀ path, path ≠ .segment segment → path ≠ .quarantine segment → path ≠ .segmentRepair →
      start.files path = disk.files path)
    (events : scanned.metadata.corruptionEvents =
      (queue.metadata.corruptionEvents + if behind content head = [] then 0 else 1) % 2 ^ 32)
    (bytes : scanned.metadata.quarantinedBytes =
      (queue.metadata.quarantinedBytes + (behind content head).length) % 2 ^ 32)
    (elsewhere : Elsewhere queue scanned segment) :
    Disk.device.wp (if (survivors content head).length = 0 then truncateSegment scanned segment
        else pure (true, scanned))
      (fun answer last => answer.1 = true ∧ Scanned queue answer.2 disk last segment content head) (fun _ => True)
      start := by
  by_cases none : survivors content head = []
  · rw [if_pos (by rw [none]; rfl), truncateSegment, wp_openWrite]
    refine ⟨trivial, trivial, rfl, ?_⟩
    obtain ⟨last, truncated⟩ : ∃ last, last = (start.set (.segment segment) (some [])).log
        (.openWrite (.segment segment)) := ⟨_, rfl⟩
    have empty : last.files (.segment segment) = some [] := by rw [truncated, Disk.files_log, Disk.files_set_self]
    have kept (path : Path) (other : path ≠ .segment segment) : last.files path = start.files path := by
      rw [truncated, Disk.files_log, Disk.files_set_of_ne _ _ _ _ other]
    rw [← truncated]
    constructor
    · rw [none, empty]
      exact emptied_ready scanned segment
    · rw [liveBytes, if_pos none, empty]
    · rw [liveHead, if_pos none]
      simp [emptied, measured]
    · rw [Disk.content, kept _ (by simp)]
      exact aside
    · exact fun path live quarantined repair => (kept path live).trans (others path live quarantined repair)
    · exact events
    · exact bytes
    · exact elsewhere.measured 0 0 0 (by decide)
  · rw [if_neg (by rwa [List.length_eq_zero_iff])]
    refine ⟨trivial, rfl, ?_⟩
    constructor
    · rw [held]
      exact ready none
    · rw [liveBytes, if_neg none, held]
    · rw [liveHead, if_neg none, begun]
    · exact aside
    · exact others
    · exact events
    · exact bytes
    · exact elsewhere

theorem scanSegment_any (queue : StoreForwardQueue) (segment : Segment) (fits : queue.metadata.Fits)
    (bounded : (disk.content (.segment segment)).length < segmentLimit) :
    Disk.device.wp (queue.scanSegment segment)
      (fun answer last => answer.1 = true ∧ Scanned queue answer.2 disk last segment (disk.content (.segment segment))
        (queue.metadata.head segment)) (fun _ => True) disk := by
  have whole : Elsewhere queue queue segment :=
    ⟨fun _ _ => rfl, fun _ _ => rfl, fun _ _ => rfl, rfl, rfl, fits, rfl⟩
  have events := Nat.mod_eq_of_lt fits.corruptionEvents
  have bytes := Nat.mod_eq_of_lt fits.quarantinedBytes
  unfold scanSegment
  rw [wp_openRead]
  -- a missing file is created empty, so nothing of it survives and nothing is lost
  cases file : disk.files (.segment segment) with
  | none =>
    have empty : disk.content (.segment segment) = [] := by rw [Disk.content, file, Option.getD_none]
    have nothing (head : Nat) : survivors [] head = [] := rfl
    have gone (head : Nat) : behind [] head = [] := List.drop_nil
    simp only [Option.isSome_none, Bool.not_false, if_true]
    rw [wp_openWrite, empty]
    refine ⟨trivial, trivial, rfl, ?_⟩
    constructor
    · rw [nothing, Disk.files_log, Disk.files_set_self]
      exact emptied_ready queue segment
    · rw [liveBytes, if_pos (nothing _), Disk.files_log, Disk.files_set_self]
    · rw [liveHead, if_pos (nothing _)]
      simp [emptied, measured]
    · rw [Disk.content_log, Disk.content_set_of_ne _ _ _ _ (by simp), gone, List.append_nil]
    · intro path live _ _
      rw [Disk.files_log, Disk.files_set_of_ne _ _ _ _ live]
    · rw [gone, if_pos rfl, Nat.add_zero, events]
      rfl
    · rw [gone, List.length_nil, Nat.add_zero, bytes]
      rfl
    · exact whole.measured 0 0 0 (by decide)
  | some content =>
    have size : disk.content (.segment segment) = content := by rw [Disk.content, file, Option.getD_some]
    rw [size] at bounded
    simp only [Option.isSome_some, Bool.not_true, Bool.false_eq_true, if_false]
    obtain ⟨head, loaded⟩ : ∃ head, head = queue.metadata.head segment := ⟨_, rfl⟩
    have parts := sound_behind content head
    have ended := sound_length content head
    have scan := @scanRecords_any (min head content.length) disk (.segment segment) content.length 0
      (by rw [size]; exact Nat.min_le_right _ _)
    rw [size, ← survivors, ← ended, Nat.zero_add] at scan
    have small : min head content.length < 2 ^ 32 :=
      (Nat.min_le_left _ _).trans_lt (loaded ▸ fits.head segment)
    have elsewhere := whole.measured (min head content.length) (sound content head).length
      (survivors content head).length small
    have begun : (queue.measured segment (min head content.length) (sound content head).length
        (survivors content head).length).metadata.head segment = min head content.length := by simp [measured]
    have length : (sound content head).length + (behind content head).length = content.length := by
      rw [← List.length_append, parts]
    have ready (some : survivors content head ≠ []) : SegmentReady (queue.measured segment (min head content.length)
        (sound content head).length (survivors content head).length) segment (Option.some (sound content head))
        (survivors content head) := by
      have shape := measured_ready queue segment (content.take (min head content.length)) (survivors content head) some
        (by rw [← sound]; omega)
      rwa [List.length_take, Nat.min_assoc, Nat.min_self, ← ended] at shape
    rw [wp_size, size, ← loaded]
    refine scan.then ?_
    dsimp only
    -- only what stands behind the last sound record has to be put aside
    by_cases clean : behind content head = []
    · rw [clean, List.length_nil, Nat.add_zero] at length
      rw [if_neg (by omega), Prog.pure_bind_eq]
      rw [clean, List.append_nil] at parts
      refine close_scanned (by rw [file, parts]) begun ready (by rw [clean, List.append_nil]) (fun _ _ _ _ => rfl) ?_ ?_
        elsewhere
      · rw [clean, if_pos rfl, Nat.add_zero, events]
        rfl
      · rw [clean, List.length_nil, Nat.add_zero, bytes]
        rfl
    · have positive := List.length_pos_iff.mpr clean
      have repair := @repairSegment_files disk segment (sound content head) (behind content head) (by rw [parts, file])
      rw [parts] at repair
      simp only [show (sound content head).length < content.length by omega, if_true]
      refine Model.wp_then repair (fun _ _ => trivial) ?_
      rintro repaired last ⟨rfl, repair⟩
      simp only [Bool.not_true, Bool.false_eq_true, if_false]
      refine close_scanned repair.live begun (fun some => quarantined_ready (ready some) _) repair.aside
        repair.others ?_ ?_ (elsewhere.quarantined _)
      · rw [if_neg clean]
        rfl
      · have torn : content.length - (sound content head).length = (behind content head).length := by omega
        rw [torn]
        rfl

end Segments

/-! ## The metadata of a boot -/

def metadataIn : Option Bytes → Option Metadata
  | none => none
  | some bytes =>
    if bytes.length = Metadata.size then Metadata.ofBytes bytes
    else if bytes.length = Metadata.legacySize then Metadata.ofLegacyBytes bytes
    else none

/-- The metadata a boot works with: the saved one, or a new one where there is none to read. -/
def bootMetadata (disk : Disk) : Metadata :=
  (metadataIn (disk.files .metadata)).getD (rebuilt disk
    ([Path.metadata, .segment .zero, .segment .one, .quarantine .zero, .quarantine .one].any fun path =>
      (disk.files path).isSome))

theorem field_lt (bytes : Bytes) (offset width : Nat) : field bytes offset width < 256 ^ width := by
  refine (ofLittleEndian_lt _).trans_le (Nat.pow_le_pow_right (by decide) ?_)
  rw [List.length_take]
  exact Nat.min_le_left _ _

theorem heads_lt (bytes : Bytes) (segment : Segment) :
    Metadata.heads (field bytes 8 4) (field bytes 12 4) segment < 2 ^ 32 := by
  cases segment
  · exact field_lt bytes 8 4
  · exact field_lt bytes 12 4

theorem metadataIn_fits {bytes : Bytes} {metadata : Metadata} (read : metadataIn (some bytes) = some metadata) :
    metadata.Fits := by
  unfold metadataIn at read
  dsimp only at read
  split at read
  · unfold Metadata.ofBytes Metadata.ofBody at read
    obtain ⟨parsed, body, checked⟩ := Option.bind_eq_some_iff.mp read
    obtain ⟨active, -, same⟩ := Option.bind_eq_some_iff.mp body
    obtain rfl := Option.some.inj same
    split at checked
    · obtain rfl := Option.some.inj checked
      exact ⟨field_lt bytes 7 1, heads_lt bytes, field_lt bytes 16 4, field_lt bytes 20 4, field_lt bytes 24 4⟩
    · cases checked
  split at read
  · unfold Metadata.ofLegacyBytes at read
    obtain ⟨active, -, checked⟩ := Option.bind_eq_some_iff.mp read
    split at checked
    · obtain rfl := Option.some.inj checked
      exact ⟨Nat.zero_lt_succ _, heads_lt bytes, field_lt bytes 16 4, Nat.zero_lt_succ _, Nat.zero_lt_succ _⟩
    · cases checked
  · cases read

theorem bootMetadata_fits (disk : Disk) : (bootMetadata disk).Fits := by
  unfold bootMetadata
  cases read : metadataIn (disk.files .metadata) with
  | none => exact (rebuilt_rebuilt disk _).fits
  | some metadata =>
    cases file : disk.files .metadata with
    | none =>
      rw [file] at read
      cases read
    | some bytes =>
      rw [file] at read
      exact metadataIn_fits read

section Loading

variable {disk : Disk}

theorem loadMetadata_any : Disk.device.Observes disk loadMetadata (metadataIn (disk.files .metadata)) := by
  unfold loadMetadata Model.Observes
  rw [wp_openRead]
  cases file : disk.files .metadata with
  | none => exact ⟨rfl, rfl, rfl⟩
  | some bytes =>
    have content : disk.content .metadata = bytes := by rw [Disk.content, file, Option.getD_some]
    simp only [Option.isSome_some, Bool.not_true, Bool.false_eq_true, if_false]
    rw [wp_size, content, metadataIn]
    by_cases current : bytes.length = Metadata.size
    · simp only [current, if_true]
      rw [wp_read, content, List.drop_zero, List.take_of_length_le (Nat.le_of_eq current), if_pos current]
      exact ⟨rfl, rfl, rfl⟩
    simp only [current, if_false]
    rw [wp_seek]
    by_cases legacy : bytes.length = Metadata.legacySize
    · simp only [legacy, Nat.zero_le, decide_true, Bool.not_true, bne_self_eq_false, Bool.or_self, Bool.false_eq_true,
        if_false, if_true]
      rw [wp_read, content, List.drop_zero, List.take_of_length_le (Nat.le_of_eq legacy), legacy]
      simp only [bne_self_eq_false, Bool.false_eq_true, if_false]
      exact ⟨rfl, rfl, rfl⟩
    · simp only [bne_iff_ne, ne_eq, legacy, not_false_eq_true, if_true, if_false, Bool.or_eq_true, or_true]
      exact ⟨rfl, rfl, rfl⟩

theorem loadOrRebuild_any : Disk.device.Observes disk loadOrRebuild (bootMetadata disk) := by
  refine loadMetadata_any.then ?_
  unfold bootMetadata
  cases metadataIn (disk.files .metadata) with
  | some metadata => exact ⟨rfl, rfl, rfl⟩
  | none =>
    exact (anyExists_observes _).then
      ((quarantineSize_observes .zero).then ((quarantineSize_observes .one).then ⟨rfl, rfl, rfl⟩))

end Loading

/-! ## The whole start -/

def pendingAtBoot (disk : Disk) (segment : Segment) : List Bytes :=
  survivors (disk.content (.segment segment)) ((bootMetadata disk).head segment)

def behindAtBoot (disk : Disk) (segment : Segment) : Bytes :=
  behind (disk.content (.segment segment)) ((bootMetadata disk).head segment)

def repairs (disk : Disk) : Nat :=
  (if behindAtBoot disk .zero = [] then 0 else 1) + if behindAtBoot disk .one = [] then 0 else 1

structure Started (queue : StoreForwardQueue) (disk last : Disk) : Prop where
  ready : Ready queue last.stored (pendingAtBoot disk)
  live : ∀ segment, last.files (.segment segment) =
    some (liveBytes (disk.content (.segment segment)) ((bootMetadata disk).head segment))
  start : ∀ segment, queue.metadata.head segment =
    liveHead (disk.content (.segment segment)) ((bootMetadata disk).head segment)
  aside : ∀ segment, last.content (.quarantine segment) =
    disk.content (.quarantine segment) ++ behindAtBoot disk segment
  active : queue.metadata.activeSegment = (bootMetadata disk).activeSegment
  dropped : queue.metadata.droppedRecords = (bootMetadata disk).droppedRecords
  events : queue.metadata.corruptionEvents = ((bootMetadata disk).corruptionEvents + repairs disk) % 2 ^ 32
  bytes : queue.metadata.quarantinedBytes = ((bootMetadata disk).quarantinedBytes +
    ((behindAtBoot disk .zero).length + (behindAtBoot disk .one).length)) % 2 ^ 32

section Start

variable {disk : Disk} {queue : StoreForwardQueue}

theorem removeLeft_any (path : Path) : Disk.device.wp (removeLeft path)
    (fun _ last => ∀ other, other ≠ path → last.files other = disk.files other) (fun _ => True) disk := by
  rw [removeLeft, wp_exists]
  split
  · rw [wp_remove]
    exact ⟨trivial, trivial, fun other differs => Disk.files_set_of_ne disk path other none differs⟩
  · exact ⟨trivial, fun _ _ => rfl⟩

theorem saveMetadata_others (queue : StoreForwardQueue) :
    queue.saveMetadata.Asks (Disk.leaves fun path => path ≠ .metadata ∧ path ≠ .metadataTemporary) := by
  have other : ¬(Path.metadataTemporary ≠ .metadata ∧ Path.metadataTemporary ≠ .metadataTemporary) := by simp
  unfold saveMetadata
  refine Prog.Asks.bind (Prog.asks_request.mpr trivial) fun left =>
    Prog.Asks.unless (Prog.asks_request.mpr other) (Prog.Asks.bind (Prog.asks_request.mpr other) fun opened => ?_)
  split
  · exact Prog.asks_pure
  · refine Prog.Asks.bind (Prog.asks_request.mpr other) fun count => ?_
    split
    · exact Prog.asks_pure
    · refine Prog.Asks.bind (Prog.asks_request.mpr ⟨other, by simp⟩) fun renamed => ?_
      split <;> exact Prog.asks_pure

theorem bootMetadata_same {last : Disk}
    (same : Disk.Same (fun path => path ≠ .metadataTemporary ∧ path ≠ .segmentRepair) disk last) :
    bootMetadata last = bootMetadata disk := by
  have left : ([Path.metadata, .segment .zero, .segment .one, .quarantine .zero, .quarantine .one].any fun path =>
      (last.files path).isSome) = ([Path.metadata, .segment .zero, .segment .one, .quarantine .zero,
        .quarantine .one].any fun path => (disk.files path).isSome) := by
    simp only [List.any_cons, List.any_nil, same .metadata ⟨by simp, by simp⟩, same (.segment _) ⟨by simp, by simp⟩,
      same (.quarantine _) ⟨by simp, by simp⟩]
  have aside (segment : Segment) : last.content (.quarantine segment) = disk.content (.quarantine segment) :=
    Disk.content_of_files (same (.quarantine segment) ⟨by simp, by simp⟩)
  have anew (left : Bool) : rebuilt last left = rebuilt disk left := by
    rw [rebuilt, rebuilt, aside .zero, aside .one]
  rw [bootMetadata, bootMetadata, same .metadata ⟨by simp, by simp⟩, left, anew]

theorem saveMetadata_any (queue : StoreForwardQueue) : Disk.device.wp queue.saveMetadata
    (fun answer last => (answer = (true, { queue with metadata := queue.metadata.stamped }) ∧
      last.stored = disk.stored.commit queue.metadata.stamped) ∧
      Disk.Same (fun path => path ≠ .metadata ∧ path ≠ .metadataTemporary) disk last) (fun _ => True) disk := by
  have committed := @saveMetadata_wp disk (fun _ => True) queue
    (fun answer last => answer = (true, { queue with metadata := queue.metadata.stamped }) ∧
      last.stored = disk.stored.commit queue.metadata.stamped) (fun _ _ => trivial)
    fun last saved => ⟨trivial, rfl, saved⟩
  exact Disk.wp_both committed (Disk.wp_same (saveMetadata_others queue))

theorem started_of_scans {older newer : StoreForwardQueue} {loaded : Metadata} {start middle scanned saved : Disk}
    (rejectedRecords : Nat) (load : loaded = bootMetadata disk) (capacity : queue.segmentMaximumBytes < segmentLimit)
    (same : Disk.Same (fun path => path ≠ .metadataTemporary ∧ path ≠ .segmentRepair) disk start)
    (zero : Scanned { queue with metadata := loaded } older start middle .zero (disk.content (.segment .zero))
      (loaded.head .zero))
    (one : Scanned older newer middle scanned .one (disk.content (.segment .one)) (loaded.head .one))
    (stored : saved.stored = scanned.stored.commit newer.metadata.stamped)
    (frame : Disk.Same (fun path => path ≠ .metadata ∧ path ≠ .metadataTemporary) scanned saved) :
    Started { newer with metadata := newer.metadata.stamped, ready := true, rejectedRecords } disk saved := by
  -- neither the scan of the other segment nor the metadata touches a scanned segment
  have savedZero : saved.files (.segment .zero) = middle.files (.segment .zero) :=
    (frame _ ⟨by simp, by simp⟩).trans (one.others _ (by simp) (by simp) (by simp))
  have savedOne : saved.files (.segment .one) = scanned.files (.segment .one) := frame _ ⟨by simp, by simp⟩
  have startAside (segment : Segment) : start.content (.quarantine segment) = disk.content (.quarantine segment) :=
    Disk.content_of_files (same _ ⟨by simp, by simp⟩)
  have middleAside : middle.content (.quarantine .one) = start.content (.quarantine .one) :=
    Disk.content_of_files (zero.others _ (by simp) (by simp) (by simp))
  have scannedAside : scanned.content (.quarantine .zero) = middle.content (.quarantine .zero) :=
    Disk.content_of_files (one.others _ (by simp) (by simp) (by simp))
  have savedAside (segment : Segment) : saved.content (.quarantine segment) = scanned.content (.quarantine segment) :=
    Disk.content_of_files (frame (.quarantine segment) ⟨by simp, by simp⟩)
  have pending : pendingAtBoot disk =
      fun segment => survivors (disk.content (.segment segment)) (loaded.head segment) := by
    rw [load]
    rfl
  constructor
  · refine ⟨rfl, rfl, one.elsewhere.fits.stamped, ?_, fun segment => ?_, fun segment => ?_, ?_⟩
    · rw [stored]
      rfl
    · rw [pending]
      cases segment with
      | zero =>
        change SegmentReady _ _ (saved.files (.segment .zero)) _
        rw [savedZero]
        exact (scanned_ready zero.ready (by decide) one.elsewhere).transfer rfl rfl rfl
      | one =>
        change SegmentReady _ _ (saved.files (.segment .one)) _
        rw [savedOne]
        exact one.ready.transfer rfl rfl rfl
    · exact survivors_storable _ _
    · exact (one.elsewhere.capacity.trans zero.elsewhere.capacity).trans_lt capacity
  · rw [← load]
    rintro (_ | _)
    · rw [savedZero, zero.live]
    · rw [savedOne, one.live]
  · rw [← load]
    rintro (_ | _)
    · exact (one.elsewhere.head .zero (by decide)).trans zero.start
    · exact one.start
  · unfold behindAtBoot
    rw [← load]
    rintro (_ | _)
    · rw [savedAside, scannedAside, zero.aside, startAside .zero]
    · rw [savedAside, one.aside, middleAside, startAside .one]
  · rw [← load]
    exact one.elsewhere.active.trans zero.elsewhere.active
  · rw [← load]
    exact one.elsewhere.dropped.trans zero.elsewhere.dropped
  · unfold repairs behindAtBoot
    rw [← load]
    change newer.metadata.corruptionEvents = _
    rw [one.events, zero.events, Nat.mod_add_mod, Nat.add_assoc]
  · unfold behindAtBoot
    rw [← load]
    change newer.metadata.quarantinedBytes = _
    rw [one.bytes, zero.bytes, Nat.mod_add_mod, Nat.add_assoc]

theorem recover_any (queue : StoreForwardQueue) (capacity : queue.segmentMaximumBytes < segmentLimit)
    (bounded : ∀ segment, (disk.content (.segment segment)).length < segmentLimit) :
    Disk.device.wp queue.recover (fun answer last => answer.1 = true ∧ Started answer.2 disk last) (fun _ => True)
      disk := by
  unfold recover
  refine Model.wp_then (removeLeft_any .metadataTemporary) (fun _ _ => trivial) ?_
  intro _ cleaned cleanedSame
  refine Model.wp_then (removeLeft_any .segmentRepair) (fun _ _ => trivial) ?_
  intro _ start startSame
  -- the files that a boot removes first are none that it reads
  have same : Disk.Same (fun path => path ≠ .metadataTemporary ∧ path ≠ .segmentRepair) disk start :=
    fun path kept => (startSame path kept.2).trans (cleanedSame path kept.1)
  have startZero : start.content (.segment .zero) = disk.content (.segment .zero) :=
    Disk.content_of_files (same _ ⟨by simp, by simp⟩)
  obtain ⟨loaded, load⟩ : ∃ loaded, loaded = bootMetadata disk := ⟨_, rfl⟩
  have observed := @loadOrRebuild_any start
  rw [bootMetadata_same same, ← load] at observed
  refine observed.then ?_
  have fits : loaded.Fits := load ▸ bootMetadata_fits disk
  refine Model.wp_then (scanSegment_any { queue with metadata := loaded } .zero fits
    (by rw [startZero]; exact bounded .zero)) (fun _ _ => trivial) ?_
  rintro ⟨done, older⟩ middle ⟨rfl, zero⟩
  simp only [Bool.not_true, Bool.false_eq_true, if_false]
  have middleOne : middle.content (.segment .one) = disk.content (.segment .one) :=
    Disk.content_of_files ((zero.others _ (by simp) (by simp) (by simp)).trans (same _ ⟨by simp, by simp⟩))
  refine Model.wp_then (scanSegment_any older .one zero.elsewhere.fits (by rw [middleOne]; exact bounded .one))
    (fun _ _ => trivial) ?_
  rintro ⟨done, newer⟩ scanned ⟨rfl, one⟩
  simp only [Bool.not_true, Bool.false_eq_true, if_false]
  rw [startZero] at zero
  rw [middleOne, zero.elsewhere.head .one (by decide)] at one
  refine Model.wp_then (saveMetadata_any newer) (fun _ _ => trivial) ?_
  rintro ⟨done, committed⟩ saved ⟨⟨answer, stored⟩, frame⟩
  obtain ⟨rfl, rfl⟩ := Prod.mk.inj answer
  simp only [Bool.not_true, Bool.false_eq_true, if_false]
  obtain ⟨rejectedRecords, counted⟩ := countRejected_observes saved
    { newer with metadata := newer.metadata.stamped, ready := true } (List.range kRejectedSlots) 0
  exact counted.then ⟨trivial, rfl, started_of_scans rejectedRecords load capacity same zero one stored frame⟩

theorem begin_any (queue : StoreForwardQueue) {maximumBytes size : Nat}
    (opens : capacity disk.stored maximumBytes = some size)
    (bounded : ∀ segment, (disk.content (.segment segment)).length < segmentLimit) :
    Disk.device.wp (queue.begin true maximumBytes) (fun answer last => answer.1 = true ∧ Started answer.2 disk last)
      (fun _ => True) disk := by
  have limit := capacity_lt opens
  unfold capacity at opens
  dsimp only at opens
  split at opens
  case isFalse => cases opens
  rename_i able
  obtain ⟨found, large, roomy⟩ := able
  obtain rfl := Option.some.inj opens
  unfold «begin»
  simp only [Bool.not_true, Bool.false_eq_true, if_false]
  refine mountPartition_observes.then ?_
  rw [if_pos (show "littlefs" = disk.partition ∨ "spiffs" = disk.partition from found)]
  dsimp only
  rw [wp_totalBytes, if_neg (show ¬disk.totalBytes.toNat ≤ kFilesystemReserveBytes + 2 * RecordHeader.size from
    Nat.not_le.mpr large), if_neg (show ¬min maximumBytes (disk.totalBytes.toNat - kFilesystemReserveBytes) / 2 ≤
      RecordHeader.size + 1 from Nat.not_le.mpr roomy)]
  exact recover_any _ limit bounded

theorem survivors_again (content : Bytes) (head : Nat) :
    survivors (liveBytes content head) (liveHead content head) = survivors content head ∧
      behind (liveBytes content head) (liveHead content head) = [] := by
  by_cases none : survivors content head = []
  · rw [liveBytes, liveHead, if_pos none, if_pos none, none]
    exact ⟨rfl, List.drop_nil⟩
  rw [liveBytes, liveHead, if_neg none, if_neg none]
  have dead : (content.take (min head content.length)).length = min head content.length := by
    rw [List.length_take, Nat.min_assoc, Nat.min_self]
  have length := sound_length content head
  have within : min (min head content.length) (sound content head).length = min head content.length := by omega
  have same : survivors (sound content head) (min head content.length) = survivors content head := by
    have enough := length_le_records (survivors content head)
    have here : (sound content head).drop (min head content.length) = records (survivors content head) ++ [] := by
      rw [sound, List.drop_left' dead, List.append_nil]
    obtain ⟨spare, rounds⟩ := Nat.exists_eq_add_of_le (enough.trans (length ▸ Nat.le_add_left _ _))
    rw [survivors, within, rounds, readable_records spare (survivors_storable content head) here, ← length,
      readable_none (recordAt_past (Nat.le_refl _)), List.append_nil]
  refine ⟨same, ?_⟩
  have whole : (sound (sound content head) (min head content.length)).length = (sound content head).length := by
    rw [sound_length, within, same, ← length]
  rw [behind, whole, List.drop_length]

theorem live_again (content : Bytes) (head : Nat) :
    liveBytes (liveBytes content head) (liveHead content head) = liveBytes content head ∧
      liveHead (liveBytes content head) (liveHead content head) = liveHead content head := by
  obtain ⟨same, gone⟩ := survivors_again content head
  by_cases none : survivors content head = []
  · have empty : liveBytes content head = [] := if_pos none
    have start : liveHead content head = 0 := if_pos none
    rw [none] at same
    rw [empty, start] at same ⊢
    exact ⟨if_pos same, if_pos same⟩
  · have some : survivors (liveBytes content head) (liveHead content head) ≠ [] := by rwa [same]
    have kept : liveBytes content head = sound content head := if_neg none
    have start : liveHead content head = min head content.length := if_neg none
    have parts := sound_behind (liveBytes content head) (liveHead content head)
    rw [gone, List.append_nil] at parts
    have length := sound_length content head
    have within : min (liveHead content head) (liveBytes content head).length = liveHead content head := by
      rw [kept, start]
      omega
    exact ⟨(if_neg some).trans parts, (if_neg some).trans within⟩

theorem liveBytes_length (content : Bytes) (head : Nat) : (liveBytes content head).length ≤ content.length := by
  have parts := congrArg List.length (sound_behind content head)
  rw [List.length_append] at parts
  unfold liveBytes
  split
  · exact Nat.zero_le _
  · omega

theorem Started.segmentContent {last : Disk} (started : queue.Started disk last) (segment : Segment) :
    last.content (.segment segment) =
      liveBytes (disk.content (.segment segment)) ((bootMetadata disk).head segment) := by
  rw [Disk.content, started.live, Option.getD_some]

theorem Started.loads {last : Disk} (started : queue.Started disk last) :
    bootMetadata last = queue.metadata := by
  have saved : last.files .metadata = some queue.metadata.bytes := started.ready.saved
  have read := Metadata.ofBytes_stamped queue.metadata started.ready.fits
  rw [started.ready.stamped] at read
  rw [bootMetadata, saved, metadataIn, if_pos (Metadata.bytes_length _), read, Option.getD_some]

theorem Started.again {last : Disk} (started : queue.Started disk last) :
    pendingAtBoot last = pendingAtBoot disk ∧ ∀ segment, behindAtBoot last segment = [] := by
  have each (segment : Segment) := survivors_again (disk.content (.segment segment)) ((bootMetadata disk).head segment)
  constructor
  · funext segment
    rw [pendingAtBoot, started.segmentContent, started.loads, started.start]
    exact (each segment).1
  · intro segment
    rw [behindAtBoot, started.segmentContent, started.loads, started.start]
    exact (each segment).2

structure Unchanged (first second : StoreForwardQueue) (last final : Disk) : Prop where
  files : ∀ segment, final.files (.segment segment) = last.files (.segment segment)
  aside : ∀ segment, final.content (.quarantine segment) = last.content (.quarantine segment)
  head : second.metadata.head = first.metadata.head
  active : second.metadata.activeSegment = first.metadata.activeSegment
  dropped : second.metadata.droppedRecords = first.metadata.droppedRecords
  events : second.metadata.corruptionEvents = first.metadata.corruptionEvents
  bytes : second.metadata.quarantinedBytes = first.metadata.quarantinedBytes

theorem Started.unchanged {second : StoreForwardQueue} {last final : Disk} (started : queue.Started disk last)
    (restarted : second.Started last final) : Unchanged queue second last final := by
  obtain ⟨-, gone⟩ := started.again
  have fits := started.ready.fits
  have each (segment : Segment) := live_again (disk.content (.segment segment)) ((bootMetadata disk).head segment)
  constructor
  · intro segment
    rw [restarted.live, started.segmentContent, started.loads, started.start, (each segment).1, started.live]
  · intro segment
    rw [restarted.aside, gone, List.append_nil]
  · funext segment
    rw [restarted.start, started.segmentContent, started.loads, started.start, (each segment).2]
  · rw [restarted.active, started.loads]
  · rw [restarted.dropped, started.loads]
  · rw [restarted.events, repairs, gone, gone, if_pos rfl, started.loads]
    exact Nat.mod_eq_of_lt fits.corruptionEvents
  · rw [restarted.bytes, gone, gone, started.loads]
    exact Nat.mod_eq_of_lt fits.quarantinedBytes

/-- The scan at startup conserves what the files hold, whatever bytes they are. -/
theorem startup_conserves {maximumBytes size : Nat} {outcome : Bool × StoreForwardQueue} {last : Disk}
    (opens : capacity disk.stored maximumBytes = some size)
    (bounded : ∀ segment, (disk.content (.segment segment)).length < segmentLimit)
    (run : Disk.device.Runs (queue.begin true maximumBytes) disk outcome last) :
    outcome.1 = true ∧ outcome.2.Started disk last ∧
      outcome.2.deliveries last = fifo (bootMetadata disk).activeSegment (pendingAtBoot disk) ∧
      -- every byte from the replay head on is in a pending record or in quarantine
      (∀ segment, (disk.content (.segment segment)).drop ((bootMetadata disk).head segment) =
        records (pendingAtBoot disk segment) ++ behindAtBoot disk segment ∧
        recordAt (disk.content (.segment segment)) (min ((bootMetadata disk).head segment)
          (disk.content (.segment segment)).length + (records (pendingAtBoot disk segment)).length) = none) ∧
      ∀ (other : StoreForwardQueue) (second : Bool × StoreForwardQueue) (final : Disk),
        Disk.device.Runs (other.begin true maximumBytes) last second final →
          second.1 = true ∧ Ready second.2 final.stored (pendingAtBoot disk) ∧
            Unchanged outcome.2 second.2 last final := by
  obtain ⟨done, started⟩ := Model.wp_runs (begin_any queue opens bounded) run
  refine ⟨done, started, ?_, fun segment => ⟨?_, ?_⟩, fun other second final rerun => ?_⟩
  · have working : Working outcome.2 last.stored (fifo (bootMetadata disk).activeSegment (pendingAtBoot disk)) :=
      ⟨_, started.ready, by rw [started.active]⟩
    have delivered : outcome.2.deliveries last = outcome.2.deliverable last :=
      Model.exec_wp (drained_any started.ready.ready outcome.2.pendingRecords rfl)
    rw [delivered, deliverable_working working]
  · obtain ⟨content, here⟩ : ∃ content, content = disk.content (.segment segment) := ⟨_, rfl⟩
    obtain ⟨-, split⟩ := readable_written content
      (min ((bootMetadata disk).head segment) content.length) content.length
    rw [pendingAtBoot, behindAtBoot, behind, ← here, sound_length, survivors, ← split]
    by_cases inside : (bootMetadata disk).head segment ≤ content.length
    · rw [Nat.min_eq_left inside]
    · rw [Nat.min_eq_right (by omega), List.drop_length, List.drop_eq_nil_of_le (by omega)]
  · rw [pendingAtBoot, ← sound_length]
    exact survivors_maximal _ _
  · have sized := Model.wp_runs (Disk.wp_sized (queue.begin true maximumBytes) disk) run
    have reopens : capacity last.stored maximumBytes = some size := by
      have partition : last.stored.partition = disk.stored.partition := sized.partition
      have totalBytes : last.stored.totalBytes = disk.stored.totalBytes := sized.totalBytes
      rw [← opens]
      simp only [capacity, partition, totalBytes]
    obtain ⟨redone, restarted⟩ := Model.wp_runs (begin_any other reopens fun segment => by
      rw [started.segmentContent]
      exact (liveBytes_length _ _).trans_lt (bounded segment)) rerun
    exact ⟨redone, started.again.1 ▸ restarted.ready, started.unchanged restarted⟩

end Start

def tornFlash : Disk :=
  (blank "littlefs" 2097152 2097152).set (.segment .zero) (some (record [1, 2, 3] ++ [0x51, 0x46]))

def tornBoot : (Bool × StoreForwardQueue) × Disk :=
  (StoreForwardQueue.begin {} true 1048576).exec Disk.handle tornFlash

theorem startup_conserves_torn : tornBoot.1.2.deliveries tornBoot.2 = [[1, 2, 3]] ∧
    tornBoot.2.content (.quarantine .zero) = [0x51, 0x46] ∧ tornBoot.1.2.metadata.corruptionEvents = 1 := by
  have opens : capacity tornFlash.stored 1048576 = some 524288 := by decide +kernel
  have bounded (segment : Segment) : (tornFlash.content (.segment segment)).length < segmentLimit := by
    cases segment <;> decide +kernel
  have run : Disk.device.Runs (StoreForwardQueue.begin {} true 1048576) tornFlash tornBoot.1 tornBoot.2 :=
    Model.runs_exec _ _
  obtain ⟨-, started, delivered, -⟩ := startup_conserves opens bounded run
  exact ⟨delivered.trans (by decide +kernel), (started.aside .zero).trans (by decide +kernel),
    started.events.trans (by decide +kernel)⟩

end StoreForwardQueue

end ApexiDevices
