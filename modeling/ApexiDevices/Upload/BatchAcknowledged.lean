import ApexiDevices.Upload.Delivery

set_option autoImplicit false

/-!
# An acknowledged batch between captures

Each turn takes one member of the batch from the queue, or finds it gone.
Captures come in between, and each of them may rotate records away.
-/

namespace ApexiDevices

open Device StoreForwardQueue

namespace LiveUploadAsync

variable {readers : UploadReaders} {limit : Nat} {captured pending : List Bytes} {site last : Site}
  {self next : LiveUploadAsync} {point later : Point} {gone : List (Bytes × Cause)}

theorem Captures.keeps (captures : Captures readers point later) (sound : Sound readers limit point gone pending) :
    later.cargo.lot = point.cargo.lot ∧ ∃ lost rest, Sound readers limit later (gone ++ rotated lost) rest := by
  induction captures with
  | refl => exact ⟨rfl, [], pending, by rwa [show gone ++ rotated [] = gone from List.append_nil gone]⟩
  | tail _ capture kept =>
    obtain ⟨lot, lost, rest, sound⟩ := kept
    obtain ⟨more, rest, sound⟩ := capture.keeps sound
    refine ⟨?_, lost ++ more, rest, ?_⟩
    · rw [← lot]
      cases capture <;> rfl
    · rwa [rotated, List.map_append, ← List.append_assoc]

theorem Requests.working (requests : Requests point later) (working : point.cargo.batchAcknowledged = false) :
    later.cargo.batchAcknowledged = false := by
  induction requests with
  | refl => exact working
  | tail _ request kept =>
    cases request with
    | prepared | durable | volatile | submitted | landed | aside => exact kept

section Turn

variable (on : self.enabled = true) (ready : self.workerReady = true) (free : site.worker.outstanding = none)

include on ready free

theorem loop_acknowledged {post : LiveUploadAsync → Site → Prop}
    (proceeds : ∀ now, Ends (self.proceed readers now) post site) : Ends (self.loop readers) post site := by
  unfold loop serviceHttps
  simp only [on, ready, Bool.not_true, Bool.false_eq_true, if_false]
  refine .bind (.asked rfl fun now => .bind (.ask fun reply worker step => ?_))
  cases step with
  | nothing => exact proceeds now
  | completed result sent =>
    rw [free] at sent
    cases sent
  | elsewhere _ _ other => cases other

theorem loop_removes (acknowledged : self.batchAcknowledged = true) {record : Bytes} (found : self.batchRecords[self.batchAckIndex]? = some record)
    (sound : Sound readers limit ⟨site, self.cargo, captured⟩ gone pending) :
    Ends (self.loop readers) (fun next last =>
      next.cargo.lot = { self.cargo.lot with index := self.batchAckIndex + 1 } ∧ ∃ more rest,
        Sound readers limit ⟨last, next.cargo, captured⟩ (gone ++ more) rest ∧
          ∀ entry ∈ more, entry = (record, .Acknowledged)) site := by
  refine loop_acknowledged on ready free fun now => ?_
  unfold proceed
  rw [if_pos acknowledged, found]
  refine (acknowledgeRecord_removes record).mono ?_
  rintro next _ ⟨popped, queue, disk, run, rfl, cargo⟩
  obtain ⟨rfl, more, rest, sound, members⟩ := sound.removes acknowledged found run
  rw [cargo]
  exact ⟨rfl, more, rest, sound, members⟩

theorem loop_finishes (acknowledged : self.batchAcknowledged = true)
    (whole : self.batchRecords[self.batchAckIndex]? = none) :
    Ends (self.loop readers) (fun next _ => next.batchAcknowledged = false) site := by
  refine loop_acknowledged on ready free fun now => ?_
  unfold proceed
  rw [if_pos acknowledged, whole]
  refine .next (@refreshQueueOldest_captures readers [] _ _) ?_
  rintro refreshed middle ⟨-, cargo⟩
  have working : refreshed.batchAcknowledged = false := congrArg Cargo.batchAcknowledged cargo
  exact (@dispatch_requests [] middle refreshed working now).mono fun next last requests => requests.working working

end Turn

structure Draining (readers : UploadReaders) (limit : Nat) (before : LiveUploadAsync) (gone : List (Bytes × Cause)) (turns : Nat)
    (last : Site) (next : LiveUploadAsync) (captured : List Bytes) (left : List (Bytes × Cause)) (pending : List Bytes) :
    Prop where
  lot : next.cargo.lot = { before.cargo.lot with index := before.batchAckIndex + turns }
  sound : Sound readers limit ⟨last, next.cargo, captured⟩ (gone ++ left) pending
  members : ∀ entry ∈ left, entry.2 = .Rotated ∨ entry.2 = .Acknowledged ∧ entry.1 ∈ before.batchRecords

theorem interleaved_draining (sound : Sound readers limit ⟨site, self.cargo, captured⟩ gone pending)
    (acknowledged : self.batchAcknowledged = true) {turns : Nat} {more : List Bytes}
    (interleaved : Interleaved readers site self captured turns last next more)
    (within : self.batchAckIndex + turns ≤ self.batchRecords.length) :
    ∃ left rest, Draining readers limit self gone turns last next more left rest := by
  -- on the run: captures only append and rotate, and each turn takes one member
  induction interleaved with
  | start => exact ⟨[], pending, rfl, by rwa [List.append_nil], fun entry none => absurd none List.not_mem_nil⟩
  | publish decimals state earlier run drains =>
    obtain ⟨left, rest, drains⟩ := drains within
    obtain ⟨lot, lost, rest, sound⟩ := ((publishIfDue_captures decimals state).runs run).keeps drains.sound
    refine ⟨left ++ rotated lost, rest, lot.trans drains.lot, by rwa [← List.append_assoc], fun entry member => ?_⟩
    rcases List.mem_append.mp member with earlier | here
    · exact drains.members entry earlier
    · obtain ⟨payload, -, rfl⟩ := List.mem_map.mp here
      exact .inl rfl
  | @turn turns middle last between next later earlier on ready run drains =>
    obtain ⟨left, rest, drains⟩ := drains (Nat.le_of_succ_le within)
    have still : between.batchAcknowledged = true := (congrArg Lot.acknowledged drains.lot).trans acknowledged
    have records : between.batchRecords = self.batchRecords := congrArg Lot.records drains.lot
    have index : between.batchAckIndex = self.batchAckIndex + turns := congrArg Lot.index drains.lot
    have short : between.batchAckIndex < between.batchRecords.length := by
      rw [records, index]
      exact within
    obtain ⟨lot, more, rest, sound, members⟩ := (loop_removes on ready (drains.sound.idle still) still
      (List.getElem?_eq_getElem short) drains.sound).runs run
    refine ⟨left ++ more, rest, ?_, by rwa [← List.append_assoc], fun entry member => ?_⟩
    · rw [lot, drains.lot, index]
      rfl
    · rcases List.mem_append.mp member with earlier | here
      · exact drains.members entry earlier
      · rw [members entry here, ← records]
        exact .inr ⟨rfl, List.getElem_mem short⟩
  | other slots next earlier same drains =>
    obtain ⟨left, rest, drains⟩ := drains within
    refine ⟨left, rest, ?_, ?_, drains.members⟩
    · rw [same]
      exact drains.lot
    · rw [same]
      exact drains.sound.aside slots

/-- Distinct captures: the members that have been passed are pending no more. -/
theorem Lot.Sound.passed {lot : Lot} (sound : lot.Sound readers site captured gone.length)
    {queue : StoreForwardQueue} (account : Account readers limit site queue captured gone pending)
    (acknowledged : lot.acknowledged = true) (whole : lot.index = lot.records.length) (distinct : captured.Nodup)
    {record : Bytes} (member : record ∈ lot.records) : record ∉ pending := by
  intro waiting
  obtain ⟨start, -, among, passed⟩ := sound.aligned
  obtain ⟨index, short, rfl⟩ := List.getElem_of_mem member
  rw [← account.rest] at waiting
  obtain ⟨position, bound, same⟩ := List.getElem_of_mem waiting
  have first : captured[start + index]? = some lot.records[index] := by
    rw [← List.getElem?_drop]
    exact List.prefix_iff_getElem?.mp among index short
  have second : captured[gone.length + position]? = some lot.records[index] := by
    rw [← List.getElem?_drop, List.getElem?_eq_getElem bound, same]
  have equal := List.getElem?_inj (List.getElem?_eq_some_iff.mp first).1 distinct |>.mp (first.trans second.symm)
  have := passed acknowledged
  omega

/-- After as many turns as there are members left, none of them is pending, and the next turn ends the acknowledgement.
Meanwhile a record has left the queue only as a member or by rotation, and what is pending has kept its order. -/
theorem batch_drains (reached : Reached readers limit site self captured) (acknowledged : self.batchAcknowledged = true)
    {turns : Nat} {more : List Bytes} (interleaved : Interleaved readers site self captured turns last next more)
    (within : self.batchAckIndex + turns ≤ self.batchRecords.length) :
    next.batchAcknowledged = true ∧ next.batchRecords = self.batchRecords ∧ next.batchAckIndex = self.batchAckIndex + turns ∧
      (∃ gone pending left rest, Account readers limit site self.queue captured gone pending ∧
        Account readers limit last next.queue more (gone ++ left) rest ∧
        (∀ entry ∈ left, entry.2 = .Rotated ∨ entry.2 = .Acknowledged ∧ entry.1 ∈ self.batchRecords) ∧
        (self.batchAckIndex + turns = self.batchRecords.length → more.Nodup → ∀ record ∈ self.batchRecords, record ∉ rest)) ∧
      (self.batchAckIndex + turns = self.batchRecords.length → next.enabled = true → next.workerReady = true →
        ∀ after final, Site.device.Runs (next.loop readers) last after final → after.batchAcknowledged = false) := by
  obtain ⟨gone, pending, sound⟩ := reached_sound reached
  obtain ⟨left, rest, drains⟩ := interleaved_draining sound acknowledged interleaved within
  have still : next.batchAcknowledged = true := (congrArg Lot.acknowledged drains.lot).trans acknowledged
  have records : next.batchRecords = self.batchRecords := congrArg Lot.records drains.lot
  have index : next.batchAckIndex = self.batchAckIndex + turns := congrArg Lot.index drains.lot
  refine ⟨still, records, index, ⟨gone, pending, left, rest, sound.account, drains.sound.account, drains.members, ?_⟩, ?_⟩
  · intro whole distinct record member
    have passed : next.batchAckIndex = next.batchRecords.length := by rw [index, records, whole]
    rw [← records] at member
    exact drains.sound.lot.passed drains.sound.account still passed distinct member
  · intro whole on ready after final run
    have ended : next.batchRecords[next.batchAckIndex]? = none := by
      rw [records, index, whole]
      exact List.getElem?_eq_none (Nat.le_refl _)
    exact (loop_finishes on ready (drains.sound.idle still) still ended).runs run

def capable : HttpsExchange.Result :=
  answered "\x7b\"accepted\":true,\"status\":\"ok\",\"ingest_capabilities\":\x7b\"snapshot_batch_v1\":true,\"max_snapshots\":8\x7d\x7d"

def allAccepted : HttpsExchange.Result :=
  answered "\x7b\"accepted\":true,\"status\":\"ok\",\"batch_id\":\"00000000000000000000000000000000\",\"accepted_count\":2\x7d"

namespace Snap

def accepted : Snap :=
  ((((((Snap.boot garage 2097152).publish parked).publish parked).turn capable).turn capable).turn allAccepted)

theorem accepted_sighted : accepted.Sighted :=
  turn_sighted _ (turn_sighted _ (turn_sighted _ (publish_sighted _ (publish_sighted _ (boot_sighted garage 2097152)))))

def drained : Snap := (accepted.publish parked).turn allAccepted

def Follows (before : Snap) (turns : Nat) (after : Snap) : Prop :=
  Interleaved treeReaders before.site before.self before.captured turns after.site after.self after.captured

variable {before after : Snap} {turns : Nat}

theorem publish_follows (state : LiveUpload.AppState) (follows : Follows before turns after) :
    Follows before turns (after.publish state) :=
  .publish LiveUpload.zeroText state follows (Site.runs_handle_pair taken _ _)

theorem turn_follows (answer : HttpsExchange.Result) (follows : Follows before turns after) (on : after.self.enabled = true)
    (ready : after.self.workerReady = true) : Follows before (turns + 1) (after.turn answer) :=
  .turn follows on ready (Site.runs_handle answer _ _)

theorem drained_state :
    (accepted.self.batchAcknowledged = true ∧ accepted.self.batchAckIndex = 1 ∧ accepted.self.batchRecords.length = 2) ∧
      ((accepted.publish parked).self.enabled = true ∧ (accepted.publish parked).self.workerReady = true) ∧
      drained.captured.Nodup := by
  decide +kernel

theorem drained_follows : Follows accepted 1 drained :=
  turn_follows _ (publish_follows _ .start) drained_state.2.1.1 drained_state.2.1.2

end Snap

theorem batch_drains_drained :
    Snap.accepted.self.batchAckIndex = 1 ∧ Snap.accepted.self.batchRecords.length = 2 ∧ Snap.drained.captured.Nodup ∧
      ∃ gone pending left rest,
        Account treeReaders 1048576 Snap.accepted.site Snap.accepted.self.queue Snap.accepted.captured gone pending ∧
        Account treeReaders 1048576 Snap.drained.site Snap.drained.self.queue Snap.drained.captured (gone ++ left) rest ∧
        (∀ entry ∈ left, entry.2 = .Rotated ∨ entry.2 = .Acknowledged ∧ entry.1 ∈ Snap.accepted.self.batchRecords) ∧
        (Snap.accepted.self.batchAckIndex + 1 = Snap.accepted.self.batchRecords.length → Snap.drained.captured.Nodup →
          ∀ record ∈ Snap.accepted.self.batchRecords, record ∉ rest) := by
  have acknowledged := Snap.drained_state.1.1
  have index := Snap.drained_state.1.2.1
  have members := Snap.drained_state.1.2.2
  have within : Snap.accepted.self.batchAckIndex + 1 ≤ Snap.accepted.self.batchRecords.length := by
    rw [index, members]
  exact ⟨index, members, Snap.drained_state.2.2,
    (batch_drains Snap.accepted_sighted acknowledged Snap.drained_follows within).2.2.2.1⟩

end LiveUploadAsync

end ApexiDevices
