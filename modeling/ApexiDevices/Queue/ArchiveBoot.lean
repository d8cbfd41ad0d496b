import ApexiDevices.Queue.Archive

set_option autoImplicit false

/-!
# A boot over an archive

A boot changes no slot, whatever fails in it, and counts the slots it finds.
-/

namespace ApexiDevices

open Device

namespace StoreForwardQueue

variable {disk last : Disk} {queue : StoreForwardQueue}

section Frame

theorem fileRead_leaves (file : File) (length : Nat) : (file.read length).Asks (Disk.leaves Path.archived) :=
  Prog.Asks.bind (Prog.asks_request.mpr trivial) fun _ => Prog.asks_pure

theorem saveMetadata_leaves (queue : StoreForwardQueue) : queue.saveMetadata.Asks (Disk.leaves Path.archived) := by
  have other : ¬Path.archived .metadataTemporary := id
  unfold saveMetadata
  refine Prog.Asks.bind (Prog.asks_request.mpr trivial) fun left =>
    Prog.Asks.unless (Prog.asks_request.mpr other) (Prog.Asks.bind (Prog.asks_request.mpr other) fun opened => ?_)
  split
  · exact Prog.asks_pure
  · refine Prog.Asks.bind (Prog.asks_request.mpr other) fun count => ?_
    split
    · exact Prog.asks_pure
    · refine Prog.Asks.bind (Prog.asks_request.mpr ⟨other, id⟩) fun renamed => ?_
      split <;> exact Prog.asks_pure

theorem loadMetadata_leaves : loadMetadata.Asks (Disk.leaves Path.archived) := by
  have legacy (size : Nat) : Prog.Asks (Disk.leaves Path.archived) (do
      if !(← LittleFs.seek .metadata 0) || size != Metadata.legacySize then
        return none
      let bytes ← LittleFs.read .metadata 0 Metadata.legacySize
      if bytes.length != Metadata.legacySize then
        return none
      return Metadata.ofLegacyBytes bytes) := by
    refine Prog.Asks.bind (Prog.asks_request.mpr trivial) fun sought => ?_
    split
    · exact Prog.asks_pure
    · refine Prog.Asks.bind (Prog.asks_request.mpr trivial) fun bytes => ?_
      split <;> exact Prog.asks_pure
  unfold loadMetadata
  refine Prog.Asks.bind (Prog.asks_request.mpr trivial) fun opened => ?_
  split
  · exact Prog.asks_pure
  · refine Prog.Asks.bind (Prog.asks_request.mpr trivial) fun size => ?_
    split
    · refine Prog.Asks.bind (Prog.asks_request.mpr trivial) fun bytes => ?_
      split
      · exact Prog.asks_pure
      · exact legacy size
    · exact legacy size

theorem quarantineSize_leaves (segment : Segment) : (quarantineSize segment).Asks (Disk.leaves Path.archived) := by
  refine Prog.Asks.bind (Prog.asks_request.mpr trivial) fun opened => ?_
  split
  · exact Prog.asks_request.mpr trivial
  · exact Prog.asks_pure

theorem anyExists_leaves (paths : List Path) : (anyExists paths).Asks (Disk.leaves Path.archived) := by
  induction paths with
  | nil => exact Prog.asks_pure
  | cons path rest ih =>
    refine Prog.Asks.bind (Prog.asks_request.mpr trivial) fun found => ?_
    split
    · exact Prog.asks_pure
    · exact ih

theorem loadOrRebuild_leaves : loadOrRebuild.Asks (Disk.leaves Path.archived) := by
  refine Prog.Asks.bind loadMetadata_leaves fun loaded => ?_
  cases loaded with
  | some metadata => exact Prog.asks_pure
  | none =>
    exact Prog.Asks.bind (anyExists_leaves _) fun left => Prog.Asks.bind (quarantineSize_leaves _) fun first =>
      Prog.Asks.bind (quarantineSize_leaves _) fun second => Prog.asks_pure

theorem removeLeft_leaves (path : Path) (other : ¬path.archived) :
    (removeLeft path).Asks (Disk.leaves Path.archived) := by
  refine Prog.Asks.bind (Prog.asks_request.mpr trivial) fun found => ?_
  split
  · exact Prog.Asks.bind (Prog.asks_request.mpr other) fun _ => Prog.asks_pure
  · exact Prog.asks_pure

theorem checksumFile_leaves (file : File) (length : Nat) (value : UInt32) :
    (checksumFile file length value).Asks (Disk.leaves Path.archived) := by
  induction length generalizing file value with
  | zero => exact Prog.asks_pure
  | succ length ih =>
    refine Prog.Asks.bind (fileRead_leaves file 1) fun read => ?_
    obtain ⟨bytes, next⟩ := read
    cases bytes with
    | nil => exact Prog.asks_pure
    | cons byte rest => exact ih next _

theorem scanRecords_leaves (path : Path) (fileSize rounds offset count : Nat) :
    (scanRecords path fileSize rounds offset count).Asks (Disk.leaves Path.archived) := by
  induction rounds generalizing offset count with
  | zero => exact Prog.asks_pure
  | succ rounds ih =>
    unfold scanRecords
    split
    case isFalse => exact Prog.asks_pure
    case isTrue =>
      refine Prog.Asks.bind (Prog.asks_request.mpr trivial) fun sought => ?_
      split
      · exact Prog.asks_pure
      · refine Prog.Asks.bind (fileRead_leaves _ _) fun read => ?_
        dsimp only
        split
        · exact Prog.asks_pure
        · refine Prog.Asks.bind (checksumFile_leaves _ _ _) fun value => ?_
          split
          · exact Prog.asks_pure
          · exact ih _ _

theorem copyBytes_leaves (target : Path) (other : ¬target.archived) (opened : Bool) (rounds : Nat) (source : File)
    (remaining : Nat) : (copyBytes target opened rounds source remaining).Asks (Disk.leaves Path.archived) := by
  induction rounds generalizing source remaining with
  | zero => exact Prog.asks_pure
  | succ rounds ih =>
    unfold copyBytes
    split
    · exact Prog.asks_pure
    · refine Prog.Asks.bind (fileRead_leaves _ _) fun read => ?_
      dsimp only
      split
      · exact Prog.asks_pure
      · refine Prog.Asks.bind (Prog.asks_request.mpr other) fun count => ?_
        split
        · exact Prog.asks_pure
        · exact ih _ _

theorem replaceSegment_leaves (segment : Segment) (source : Bool) (tail fileSize : Nat) :
    (replaceSegment segment source tail fileSize).Asks (Disk.leaves Path.archived) := by
  have repair : ¬Path.archived .segmentRepair := id
  have quarantine : ¬Path.archived (.quarantine segment) := id
  unfold replaceSegment
  refine Prog.Asks.bind (Prog.asks_request.mpr repair) fun opened =>
    Prog.Asks.either (copyBytes_leaves _ repair _ _ _ _) Prog.asks_pure fun copied =>
      Prog.Asks.bind (Prog.asks_request.mpr quarantine) fun appended =>
        Prog.Asks.either (copyBytes_leaves _ quarantine _ _ _ _) Prog.asks_pure fun repaired => ?_
  dsimp only
  split
  · exact Prog.asks_pure
  · exact Prog.asks_request.mpr ⟨repair, id⟩

theorem repairSegment_leaves (segment : Segment) (tail fileSize : Nat) :
    (repairSegment segment tail fileSize).Asks (Disk.leaves Path.archived) := by
  have repair : ¬Path.archived .segmentRepair := id
  unfold repairSegment
  exact Prog.Asks.bind (Prog.asks_request.mpr trivial) fun source =>
    Prog.Asks.bind (Prog.asks_request.mpr trivial) fun left =>
      Prog.Asks.unless (Prog.asks_request.mpr repair) (replaceSegment_leaves _ _ _ _)

theorem truncateSegment_leaves (queue : StoreForwardQueue) (segment : Segment) :
    (queue.truncateSegment segment).Asks (Disk.leaves Path.archived) := by
  unfold truncateSegment
  refine Prog.Asks.bind (Prog.asks_request.mpr (show ¬Path.archived (.segment segment) from id)) fun opened => ?_
  split <;> exact Prog.asks_pure

theorem scanSegment_leaves (queue : StoreForwardQueue) (segment : Segment) :
    (queue.scanSegment segment).Asks (Disk.leaves Path.archived) := by
  have drained (count : Nat) (scanned : StoreForwardQueue) : Prog.Asks (Disk.leaves Path.archived)
      (if count = 0 then scanned.truncateSegment segment else pure (true, scanned)) := by
    split
    · exact truncateSegment_leaves _ _
    · exact Prog.asks_pure
  unfold scanSegment
  refine Prog.Asks.bind (Prog.asks_request.mpr trivial) fun opened => ?_
  split
  · refine Prog.Asks.bind (Prog.asks_request.mpr (show ¬Path.archived (.segment segment) from id)) fun created => ?_
    split <;> exact Prog.asks_pure
  · refine Prog.Asks.bind (Prog.asks_request.mpr trivial) fun fileSize =>
      Prog.Asks.bind (scanRecords_leaves _ _ _ _ _) fun scanned => ?_
    dsimp only
    split
    · refine Prog.Asks.bind (repairSegment_leaves _ _ _) fun repaired => ?_
      split
      · exact Prog.asks_pure
      · exact drained _ _
    · exact drained _ _

end Frame

structure Unarchived (queue last : StoreForwardQueue) : Prop where
  ready : last.ready = queue.ready
  rejectedRecords : last.rejectedRecords = queue.rejectedRecords

theorem saveMetadata_unarchived (queue : StoreForwardQueue) :
    queue.saveMetadata.Returns fun outcome => Unarchived queue outcome.2 := by
  unfold saveMetadata
  refine Prog.returns_then fun left => Prog.returns_unless (Prog.returns_then fun opened => ?_)
  split
  · exact ⟨rfl, rfl⟩
  · refine Prog.returns_then fun count => ?_
    split
    · exact ⟨rfl, rfl⟩
    · refine Prog.returns_then fun renamed => ?_
      split <;> exact ⟨rfl, rfl⟩

theorem truncateSegment_unarchived (queue : StoreForwardQueue) (segment : Segment) :
    (queue.truncateSegment segment).Returns fun outcome => Unarchived queue outcome.2 := by
  unfold truncateSegment
  refine Prog.returns_then fun opened => ?_
  split <;> exact ⟨rfl, rfl⟩

theorem scanSegment_unarchived (queue : StoreForwardQueue) (segment : Segment) :
    (queue.scanSegment segment).Returns fun outcome => Unarchived queue outcome.2 := by
  have drained (count : Nat) (scanned : StoreForwardQueue) (same : Unarchived queue scanned) : Prog.Returns
      (fun outcome => Unarchived queue outcome.2)
      (if count = 0 then scanned.truncateSegment segment else pure (true, scanned)) := by
    split
    · refine (truncateSegment_unarchived scanned segment).mono fun outcome kept => ?_
      exact ⟨kept.ready.trans same.ready, kept.rejectedRecords.trans same.rejectedRecords⟩
    · exact same
  unfold scanSegment
  refine Prog.returns_then fun opened => ?_
  split
  · refine Prog.returns_then fun created => ?_
    split <;> exact ⟨rfl, rfl⟩
  · refine Prog.returns_then fun fileSize => Prog.returns_then fun scanned => ?_
    dsimp only
    split
    · refine Prog.returns_then fun repaired => ?_
      split
      · exact ⟨rfl, rfl⟩
      · exact drained _ _ ⟨rfl, rfl⟩
    · exact drained _ _ ⟨rfl, rfl⟩

/-- The slots of which the code itself says that they are present. -/
def presentSlots (queue : StoreForwardQueue) (disk : Disk) : Nat :=
  (List.range kRejectedSlots).countP fun slot => ((queue.rejectedSlotPresent slot).exec Disk.handle disk).1

theorem presentSlots_closed (off : queue.ready = false) : queue.presentSlots disk = 0 := by
  have absent (slot : Nat) : ((queue.rejectedSlotPresent slot).exec Disk.handle disk).1 = false := by
    simp [rejectedSlotPresent, off]
  simp [presentSlots, absent]

theorem rejectedSlotPresent_ready (on : queue.ready = true) {slot : Nat} (known : slot < kRejectedSlots) :
    ((queue.rejectedSlotPresent slot).exec Disk.handle disk).1 = (disk.files (.rejectedSlot slot)).isSome := by
  have opened : ¬(!queue.ready || decide (slot ≥ kRejectedSlots)) = true := by simp [on, known]
  rw [rejectedSlotPresent, if_neg opened]
  rfl

theorem presentSlots_ready (on : queue.ready = true) : queue.presentSlots disk =
    (List.range kRejectedSlots).countP fun slot => (disk.files (.rejectedSlot slot)).isSome := by
  apply List.countP_congr
  intro slot member
  rw [rejectedSlotPresent_ready on (List.mem_range.mp member)]

theorem presentSlots_le (queue : StoreForwardQueue) (disk : Disk) : queue.presentSlots disk ≤ kRejectedSlots := by
  simpa [presentSlots] using List.countP_le_length (l := List.range kRejectedSlots)

theorem countRejected_counts (on : queue.ready = true) (slots : List Nat) (listed : ∀ slot ∈ slots, slot < kRejectedSlots)
    (present : Nat) : Disk.unreliable.Observes disk (queue.countRejected slots present)
      (present + slots.countP fun slot => (disk.files (.rejectedSlot slot)).isSome) := by
  induction slots generalizing present with
  | nil => exact ⟨rfl, rfl, rfl⟩
  | cons slot slots ih =>
    have rest := ih fun slot member => listed slot (List.mem_cons_of_mem _ member)
    have closed : ¬(!queue.ready || decide (slot ≥ kRejectedSlots)) = true := by
      simp [on, listed slot List.mem_cons_self]
    have found := rejectedSlotPresent_observes disk queue slot
    rw [if_neg closed] at found
    unfold countRejected
    refine found.then ?_
    rw [List.countP_cons]
    cases (disk.files (.rejectedSlot slot)).isSome with
    | true =>
      have total := rest (present + 1)
      rwa [Nat.add_assoc, Nat.add_comm 1] at total
    | false => exact rest present

def Recorded (queue : StoreForwardQueue) (disk : Disk) : Prop := queue.rejectedRecords = queue.presentSlots disk

theorem recorded_closed (off : queue.ready = false) (none : queue.rejectedRecords = 0) : Recorded queue disk :=
  none.trans (presentSlots_closed off).symm

theorem recorded_of_same (recorded : Recorded queue disk) (same : Disk.Same Path.archived disk last) :
    Recorded queue last := by
  cases on : queue.ready with
  | false => exact recorded_closed on (recorded.trans (presentSlots_closed on))
  | true =>
    rw [Recorded, presentSlots_ready on] at recorded ⊢
    simpa only [same (.rejectedSlot _) trivial] using recorded

theorem recover_archived (off : queue.ready = false) (none : queue.rejectedRecords = 0) :
    Disk.unreliable.wp queue.recover (fun outcome last => Recorded outcome.2 last ∧ Disk.Same Path.archived disk last)
      (Disk.Same Path.archived disk) disk := by
  -- no step in front of the count touches a slot, and each may stop the boot
  have stopped (outcome : Bool × StoreForwardQueue) (middle : Disk) (off : outcome.2.ready = false)
      (none : outcome.2.rejectedRecords = 0) (same : Disk.Same Path.archived disk middle) :
      Disk.unreliable.wp (pure outcome) (fun outcome last => Recorded outcome.2 last ∧ Disk.Same Path.archived disk last)
        (Disk.Same Path.archived disk) middle := ⟨same, recorded_closed off none, same⟩
  unfold recover
  refine Model.wp_then (Disk.wp_leaves (removeLeft_leaves _ id) (Prog.returns_any _)) (fun _ => id) ?_
  rintro - first ⟨-, same⟩
  refine Model.wp_then (Disk.wp_leaves (removeLeft_leaves _ id) (Prog.returns_any _)) (fun _ => same.trans) ?_
  rintro - second ⟨-, next⟩
  replace same := same.trans next
  refine Model.wp_then (Disk.wp_leaves loadOrRebuild_leaves (Prog.returns_any _)) (fun _ => same.trans) ?_
  rintro metadata third ⟨-, next⟩
  replace same := same.trans next
  refine Model.wp_then (Disk.wp_leaves (scanSegment_leaves _ _) (scanSegment_unarchived _ _)) (fun _ => same.trans) ?_
  rintro ⟨scanned, older⟩ fourth ⟨kept, next⟩
  replace same := same.trans next
  replace off : older.ready = false := kept.ready.trans off
  replace none : older.rejectedRecords = 0 := kept.rejectedRecords.trans none
  dsimp only
  split
  · exact stopped _ _ off none same
  refine Model.wp_then (Disk.wp_leaves (scanSegment_leaves _ _) (scanSegment_unarchived _ _)) (fun _ => same.trans) ?_
  rintro ⟨scanned, newer⟩ fifth ⟨kept, next⟩
  replace same := same.trans next
  replace off : newer.ready = false := kept.ready.trans off
  replace none : newer.rejectedRecords = 0 := kept.rejectedRecords.trans none
  dsimp only
  split
  · exact stopped _ _ off none same
  refine Model.wp_then (Disk.wp_leaves (saveMetadata_leaves _) (saveMetadata_unarchived _)) (fun _ => same.trans) ?_
  rintro ⟨saved, committed⟩ sixth ⟨kept, next⟩
  replace same := same.trans next
  dsimp only
  split
  · exact stopped _ _ (kept.ready.trans off) (kept.rejectedRecords.trans none) same
  refine (countRejected_counts rfl _ (fun slot => List.mem_range.mp) 0).then ⟨same, ?_, same⟩
  rw [Recorded, presentSlots_ready rfl, Nat.zero_add]

theorem mountPartition_unreliable (disk : Disk) : ∃ error, Disk.unreliable.Observes disk mountPartition error := by
  have finds (label : String) := @Disk.observes_flash disk (.findPartition label) trivial
  have mounts := @Disk.observes_flash disk .mount trivial
  unfold mountPartition
  by_cases preferred : "littlefs" = disk.partition
  · refine ⟨none, (finds "littlefs").then ?_⟩
    simp only [Disk.handle, preferred, if_true, Prog.pure_bind_eq]
    exact mounts.then ⟨rfl, rfl, rfl⟩
  · by_cases other : "spiffs" = disk.partition
    · refine ⟨none, (finds "littlefs").then ?_⟩
      simp only [Disk.handle, preferred, if_false]
      refine (finds "spiffs").then ?_
      simp only [Disk.handle, other, if_true]
      exact mounts.then ⟨rfl, rfl, rfl⟩
    · refine ⟨some "Filesystem partition missing", (finds "littlefs").then ?_⟩
      simp only [Disk.handle, preferred, if_false]
      refine (finds "spiffs").then ?_
      simp only [Disk.handle, other, if_false]
      exact ⟨rfl, rfl, rfl⟩

theorem begin_archived (enabled : Bool) (maximumBytes : Nat) :
    Disk.unreliable.wp (queue.begin enabled maximumBytes)
      (fun outcome last => Recorded outcome.2 last ∧ Disk.Same Path.archived disk last)
      (Disk.Same Path.archived disk) disk := by
  have same := Disk.Same.refl Path.archived disk
  have stopped (answer : Bool) (queue : StoreForwardQueue) (off : queue.ready = false)
      (none : queue.rejectedRecords = 0) : Disk.unreliable.wp (pure (answer, queue))
        (fun outcome last => Recorded outcome.2 last ∧ Disk.Same Path.archived disk last)
        (Disk.Same Path.archived disk) disk := ⟨same, recorded_closed off none, same⟩
  unfold «begin»
  dsimp only
  split
  · exact stopped _ _ rfl rfl
  obtain ⟨error, mounted⟩ := mountPartition_unreliable disk
  refine mounted.then ?_
  cases error with
  | some error => exact stopped _ _ rfl rfl
  | none =>
    refine (@Disk.observes_flash disk .totalBytes trivial).then ?_
    split
    · exact stopped _ _ rfl rfl
    · split
      · exact stopped _ _ rfl rfl
      · exact recover_archived rfl rfl

end StoreForwardQueue

end ApexiDevices
