import ApexiDevices.Queue.Fifo
import ApexiDevices.Queue.Ledger

set_option autoImplicit false

/-!
# Recovery of the queue after any number of power losses

A run is a sequence of calls and boots, each of which either ends or is cut
between two filesystem operations or inside an append.
-/

namespace ApexiDevices

open Device

namespace StoreForwardQueue

inductive Removal where
  | pop (discarded : Bool)
  | popIfMatches (submitted : Bytes) (discarded : Bool)

def remove (queue : StoreForwardQueue) : Removal → Flash (Bool × StoreForwardQueue)
  | .pop discarded => queue.pop discarded
  | .popIfMatches submitted discarded => queue.popIfMatches submitted discarded

/-- The records a rotation inside this call has reclaimed. -/
def removedBy (queue : StoreForwardQueue) (before last : Disk) : Nat :=
  if before.stored.reclaims < last.stored.reclaims then queue.olderRecords else 0

/-- Header and payload have both been written. -/
def storedBy (before last : Disk) : Bool := decide (before.stored.appends + 2 ≤ last.stored.appends)

/-- The ledger after a removal: an acknowledgement counts once its head is committed. -/
def retiredBy (before last : Disk) (ledger : Ledger Bytes) : Ledger Bytes :=
  if before.stored.commits < last.stored.commits then ledger.retire else ledger

/-- A device with or without power: without power only the flash is left of the queue. -/
structure World where
  queue : Option StoreForwardQueue
  disk : Disk
  ledger : Ledger Bytes

inductive Reachable : World → Prop
  | blank (partition : String) (partitionSize : Nat) (totalBytes : UInt32) :
      Reachable ⟨none, blank partition partitionSize totalBytes, {}⟩
  | boot {disk last : Disk} {ledger : Ledger Bytes} {ok : Bool} {queue : StoreForwardQueue}
      (maximumBytes : Nat) (off : Reachable ⟨none, disk, ledger⟩)
      (run : Disk.device.Runs (StoreForwardQueue.begin {} true maximumBytes) disk (ok, queue) last) :
      Reachable ⟨some queue, last, ledger⟩
  | bootCut {disk last : Disk} {ledger : Ledger Bytes} (maximumBytes : Nat)
      (off : Reachable ⟨none, disk, ledger⟩)
      (cut : Disk.device.Cut (StoreForwardQueue.begin {} true maximumBytes) disk last) :
      Reachable ⟨none, last, ledger.cut⟩
  | enqueue {disk last : Disk} {ledger : Ledger Bytes} {ok : Bool} {queue next : StoreForwardQueue}
      (payload : Bytes) (on : Reachable ⟨some queue, disk, ledger⟩)
      (run : Disk.device.Runs (queue.enqueue payload) disk (ok, next) last) :
      Reachable ⟨some next, last,
        ledger.offer payload (queue.removedBy disk last) (if ok then .accepted else .refused)⟩
  | enqueueCut {disk last : Disk} {ledger : Ledger Bytes} {queue : StoreForwardQueue}
      (payload : Bytes) (on : Reachable ⟨some queue, disk, ledger⟩)
      (cut : Disk.device.Cut (queue.enqueue payload) disk last) :
      Reachable ⟨none, last,
        ledger.offer payload (queue.removedBy disk last) (.cut (storedBy disk last))⟩
  | remove {disk last : Disk} {ledger : Ledger Bytes} {ok : Bool} {queue next : StoreForwardQueue}
      (removal : Removal) (on : Reachable ⟨some queue, disk, ledger⟩)
      (run : Disk.device.Runs (queue.remove removal) disk (ok, next) last) :
      Reachable ⟨some next, last, retiredBy disk last ledger⟩
  | removeCut {disk last : Disk} {ledger : Ledger Bytes} {queue : StoreForwardQueue}
      (removal : Removal) (on : Reachable ⟨some queue, disk, ledger⟩)
      (cut : Disk.device.Cut (queue.remove removal) disk last) :
      Reachable ⟨none, last, (retiredBy disk last ledger).cut⟩
  | powerLoss {disk : Disk} {ledger : Ledger Bytes} {queue : StoreForwardQueue}
      (on : Reachable ⟨some queue, disk, ledger⟩) : Reachable ⟨none, disk, ledger.cut⟩

/-- The drop count covers the reclaimed records as far as a 32-bit counter can. -/
def CountsDrops (ledger : Ledger Bytes) (dropped : Nat) : Prop :=
  min (2 ^ 32 - 1) ledger.rotated.length ≤ dropped

/-- These payloads and this drop count are what the ledger expects. -/
structure Expected (ledger : Ledger Bytes) (payloads : List Bytes) (dropped : Nat) : Prop where
  balanced : ledger.Balanced
  contents : payloads.map some = ledger.contents
  drops : CountsDrops ledger dropped

def OnFlash (disk : Disk) (ledger : Ledger Bytes) : Prop :=
  ∃ payloads dropped, Recoverable disk.stored payloads dropped ∧ Expected ledger payloads dropped

/-- A mounted queue works with what the ledger expects; one that did not open leaves the flash alone. -/
inductive Mounted (queue : StoreForwardQueue) (disk : Disk) (ledger : Ledger Bytes) : Prop
  | closed (off : queue.ready = false) (flash : OnFlash disk ledger)
  | open (payloads : List Bytes) (works : Working queue disk.stored payloads)
      (expected : Expected ledger payloads queue.metadata.droppedRecords)

def Consistent (world : World) : Prop :=
  match world.queue with
  | none => OnFlash world.disk world.ledger
  | some queue => Mounted queue world.disk world.ledger

theorem Mounted.onFlash {queue : StoreForwardQueue} {disk : Disk} {ledger : Ledger Bytes}
    (mounted : Mounted queue disk ledger) : OnFlash disk ledger := by
  cases mounted with
  | closed off flash => exact flash
  | «open» payloads works expected => exact ⟨payloads, _, works.recoverable, expected⟩

theorem Expected.cut {ledger : Ledger Bytes} {payloads : List Bytes} {dropped : Nat}
    (expected : Expected ledger payloads dropped) : Expected ledger.cut payloads dropped :=
  ⟨expected.balanced.cut, expected.contents, expected.drops⟩

theorem OnFlash.cut {disk : Disk} {ledger : Ledger Bytes} (flash : OnFlash disk ledger) :
    OnFlash disk ledger.cut := by
  obtain ⟨payloads, dropped, recoverable, expected⟩ := flash
  exact ⟨payloads, dropped, recoverable, expected.cut⟩

theorem Expected.retire {ledger : Ledger Bytes} {payload : Bytes} {rest : List Bytes} {dropped : Nat}
    (expected : Expected ledger (payload :: rest) dropped) {last : Nat} (more : dropped ≤ last) :
    Expected ledger.retire rest last := by
  refine ⟨expected.balanced.retire, ?_, expected.drops.trans more⟩
  have contents := congrArg (List.drop 1) expected.contents
  rw [List.map_cons, List.drop_one, List.tail_cons] at contents
  rw [contents, Ledger.retire_contents]

theorem Expected.offer {ledger : Ledger Bytes} {payloads : List Bytes} {dropped : Nat}
    (expected : Expected ledger payloads dropped) (payload : Bytes) (removed : Nat) (fate : Ledger.Fate)
    {last : Nat} (more : saturatingAdd dropped removed ≤ last) :
    Expected (ledger.offer payload removed fate)
      (payloads.drop removed ++ if fate.stored then [payload] else []) last := by
  refine ⟨expected.balanced.offer payload removed fate, ?_, ?_⟩
  · rw [Ledger.offer_contents expected.balanced, List.map_append, List.map_drop, expected.contents]
    split <;> rfl
  · have covered := expected.drops
    have taken : (ledger.live.take removed).length ≤ removed := by
      rw [List.length_take]
      exact Nat.min_le_left _ _
    unfold CountsDrops saturatingAdd at *
    rw [Ledger.offer_rotated, List.length_append]
    dsimp only at more
    split at more <;> omega

theorem Expected.offerNothing {ledger : Ledger Bytes} {payloads : List Bytes} {dropped : Nat}
    (expected : Expected ledger payloads dropped) (payload : Bytes) (fate : Ledger.Fate)
    (nothing : fate.stored = false) {last : Nat} (more : dropped ≤ last) :
    Expected (ledger.offer payload 0 fate) payloads last := by
  have next := expected.offer payload 0 fate ((saturatingAdd_zero dropped).trans_le more)
  simpa [nothing] using next

section Calls

variable {queue : StoreForwardQueue} {disk : Disk} {ledger : Ledger Bytes}

theorem boot_mounted (maximumBytes : Nat) (flash : OnFlash disk ledger) :
    Disk.device.wp (StoreForwardQueue.begin {} true maximumBytes)
      (fun outcome last => Mounted outcome.2 last ledger) (fun last => OnFlash last ledger) disk := by
  obtain ⟨payloads, dropped, ⟨metadata, pending, held, rfl, rfl⟩, expected⟩ := flash
  refine begin_wp {} maximumBytes metadata pending held ?_ ?_ ?_
  · intro last loaded holds active drops
    exact ⟨_, _, ⟨loaded, pending, holds, by rw [active], drops⟩, expected⟩
  · intro _ last off _ _ _
    exact .closed off ⟨_, _, ⟨metadata, pending, held, rfl, rfl⟩, expected⟩
  · intro _ _ last ready settled active drops _ _
    exact .open _ ⟨pending, settled, by rw [active]⟩ (drops ▸ expected)

theorem removedBy_same (last : Disk) (same : last.stored.reclaims = disk.stored.reclaims) :
    queue.removedBy disk last = 0 :=
  if_neg (by rw [same]; exact Nat.lt_irrefl _)

theorem removedBy_older (last : Disk) (more : last.stored.reclaims = disk.stored.reclaims + 1) :
    queue.removedBy disk last = queue.olderRecords :=
  if_pos (by rw [more]; exact Nat.lt_succ_self _)

theorem storedBy_short (last : Disk) (few : last.stored.appends < disk.stored.appends + 2) :
    storedBy disk last = false :=
  decide_eq_false (Nat.not_le.mpr few)

theorem storedBy_whole (last : Disk) (whole : last.stored.appends = disk.stored.appends + 2) :
    storedBy disk last = true :=
  decide_eq_true (Nat.le_of_eq whole.symm)

theorem enqueue_mounted (payload : Bytes) (mounted : Mounted queue disk ledger) :
    Disk.device.wp (queue.enqueue payload)
      (fun outcome last => Mounted outcome.2 last (ledger.offer payload (queue.removedBy disk last)
        (if outcome.1 then .accepted else .refused)))
      (fun last => OnFlash last (ledger.offer payload (queue.removedBy disk last)
        (.cut (storedBy disk last)))) disk := by
  have unmoved : queue.removedBy disk disk = 0 := removedBy_same disk rfl
  have unwritten : storedBy disk disk = false :=
    storedBy_short disk (Nat.lt_add_of_pos_right (by decide))
  -- a refused call changes no byte, so the ledger only notes the offer
  by_cases refused : queue.ready = false ∨ ¬ Storable payload ∨
      queue.segmentMaximumBytes < RecordHeader.size + payload.length
  · obtain ⟨error, observed⟩ := enqueue_refused disk payload refused
    have untouched (fate : Ledger.Fate) (nothing : fate.stored = false) :
        OnFlash disk (ledger.offer payload 0 fate) := by
      obtain ⟨payloads, dropped, recoverable, expected⟩ := mounted.onFlash
      exact ⟨_, _, recoverable, expected.offerNothing payload fate nothing (Nat.le_refl _)⟩
    refine Model.wp_mono observed ?_ ?_
    · rintro outcome last ⟨rfl, rfl⟩
      rw [unmoved]
      cases mounted with
      | closed off flash => exact .closed off (untouched .refused rfl)
      | «open» payloads works expected =>
        exact .open payloads (works.withError error) (expected.offerNothing payload .refused rfl
          (Nat.le_refl _))
    · rintro last rfl
      rw [unmoved, unwritten]
      exact untouched (.cut false) rfl
  obtain ⟨on, storable, room⟩ : queue.ready = true ∧ Storable payload ∧
      RecordHeader.size + payload.length ≤ queue.segmentMaximumBytes := by
    simpa only [not_or, Bool.not_eq_false, not_not, Nat.not_lt] using refused
  cases mounted with
  | closed off flash => exact absurd (on.symm.trans off) (by decide)
  | «open» payloads works expected =>
    refine enqueue_wp payload works storable room ?_ ?_ ?_ ?_
    · intro last dropped recoverable more kept same few
      rw [removedBy_same last same, storedBy_short last few]
      exact ⟨_, _, recoverable, expected.offerNothing payload _ rfl more⟩
    -- cut behind a rotation: the older records are gone, the new one is not there yet
    · intro last tight recoverable kept more few
      rw [removedBy_older last more, storedBy_short last few]
      have next := expected.offer payload queue.olderRecords (.cut false) (Nat.le_refl _)
      rw [Ledger.Fate.stored, if_neg (by decide), List.append_nil] at next
      exact ⟨_, _, recoverable, next⟩
    · intro last appended loose works dropped _ _ _ same whole
      rw [removedBy_same last same, storedBy_whole last whole]
      have next (fate : Ledger.Fate) (stored : fate.stored = true) :
          Expected (ledger.offer payload 0 fate) (payloads ++ [payload])
            appended.metadata.droppedRecords := by
        have next := expected.offer payload 0 fate
          (((saturatingAdd_zero _).trans dropped.symm).le)
        rwa [stored, if_pos rfl] at next
      exact ⟨⟨_, _, works.recoverable, next (.cut true) rfl⟩, .open _ works (next .accepted rfl)⟩
    · intro last appended tight works dropped _ _ _ more whole
      rw [removedBy_older last more, storedBy_whole last whole]
      have next (fate : Ledger.Fate) (stored : fate.stored = true) :
          Expected (ledger.offer payload queue.olderRecords fate)
            (payloads.drop queue.olderRecords ++ [payload]) appended.metadata.droppedRecords := by
        have next := expected.offer payload queue.olderRecords fate dropped.symm.le
        rwa [stored, if_pos rfl] at next
      exact ⟨⟨_, _, works.recoverable, next (.cut true) rfl⟩, .open _ works (next .accepted rfl)⟩

theorem le_dropsAfter {payloads : List Bytes} (works : Working queue disk.stored payloads)
    (discarded : Bool) : queue.metadata.droppedRecords ≤ queue.dropsAfter discarded := by
  obtain ⟨_, ready, _⟩ := works
  cases discarded
  · exact Nat.le_refl _
  · exact le_saturatingAdd _ _ ready.fits.droppedRecords

theorem retiredBy_same (last : Disk) (same : last.stored = disk.stored) :
    retiredBy disk last ledger = ledger :=
  if_neg (by rw [same]; exact Nat.lt_irrefl _)

theorem retiredBy_commit (last : Disk) (commits : disk.stored.commits < last.stored.commits) :
    retiredBy disk last ledger = ledger.retire :=
  if_pos commits

theorem remove_mounted (removal : Removal) (mounted : Mounted queue disk ledger) :
    Disk.device.wp (queue.remove removal)
      (fun outcome last => Mounted outcome.2 last (retiredBy disk last ledger))
      (fun last => OnFlash last (retiredBy disk last ledger).cut) disk := by
  have unmoved (last : Disk) (same : last.stored = disk.stored) :
      OnFlash last (retiredBy disk last ledger).cut := by
    rw [retiredBy_same last same]
    obtain ⟨payloads, dropped, recoverable, expected⟩ := mounted.onFlash
    exact ⟨_, _, same ▸ recoverable, expected.cut⟩
  have observed {program : Flash (Bool × StoreForwardQueue)} {ok : Bool}
      (reads : Disk.device.Observes disk program (ok, queue)) :
      Disk.device.wp program (fun outcome last => Mounted outcome.2 last (retiredBy disk last ledger))
        (fun last => OnFlash last (retiredBy disk last ledger).cut) disk := by
    refine Model.wp_mono reads ?_ fun last same => unmoved last (congrArg Disk.stored same)
    rintro outcome last ⟨rfl, rfl⟩
    rwa [retiredBy_same last rfl]
  cases mounted with
  | closed off flash =>
    cases removal with
    | pop discarded => exact observed (pop_nothing discarded (.inl off))
    | popIfMatches submitted discarded => exact observed (popIfMatches_closed submitted discarded off)
  | «open» payloads works expected =>
    -- the saved metadata decides: from then on the front record is retired
    have retired {payload : Bytes} {rest : List Bytes} {discarded : Bool} (order : payloads = payload :: rest) :
        Expected ledger.retire rest (queue.dropsAfter discarded) :=
      (order ▸ expected).retire (le_dropsAfter works discarded)
    cases removal with
    | pop discarded =>
      cases payloads with
      | nil => exact observed (pop_nothing discarded (.inr (pendingRecords_eq works)))
      | cons payload rest =>
        refine pop_wp discarded works unmoved ?_ ?_
        · intro last recoverable _ commits
          rw [retiredBy_commit last commits]
          exact ⟨_, _, recoverable, (retired rfl).cut⟩
        · intro last popped later dropped _ _ _ commits
          rw [retiredBy_commit last commits]
          exact .open _ later (dropped ▸ retired rfl)
    | popIfMatches submitted discarded =>
      refine popIfMatches_wp submitted discarded works unmoved ?_ ?_ ?_
      · intro rest last order recoverable _ commits
        rw [retiredBy_commit last commits]
        exact ⟨_, _, recoverable, (retired order).cut⟩
      · intro _
        rw [retiredBy_same disk rfl]
        cases payloads with
        | nil => exact .open _ works expected
        | cons payload rest => exact .open _ (works.withError "") expected
      · intro rest last popped order later dropped _ _ _ commits
        rw [retiredBy_commit last commits]
        exact .open _ later (dropped ▸ retired order)

end Calls

theorem reachable_consistent {world : World} (reachable : Reachable world) : Consistent world := by
  induction reachable with
  | blank partition partitionSize totalBytes =>
    refine ⟨[], 0, ⟨{}, fun _ => [], ?_, rfl, rfl⟩, .fresh, rfl, Nat.zero_le _⟩
    exact ⟨.fresh rfl rfl rfl rfl, fun _ => .reset rfl rfl, fun _ _ member => absurd member List.not_mem_nil⟩
  | boot maximumBytes _ run ih =>
    have mounted := Model.wp_runs (boot_mounted maximumBytes ih) run
    exact mounted
  | bootCut maximumBytes _ cut ih =>
    have flash := Model.wp_cut (boot_mounted maximumBytes ih) cut
    exact flash.cut
  | enqueue payload _ run ih =>
    have mounted := Model.wp_runs (enqueue_mounted payload ih) run
    exact mounted
  | enqueueCut payload _ cut ih =>
    have flash := Model.wp_cut (enqueue_mounted payload ih) cut
    exact flash
  | remove removal _ run ih =>
    have mounted := Model.wp_runs (remove_mounted removal ih) run
    exact mounted
  | removeCut removal _ cut ih =>
    have flash := Model.wp_cut (remove_mounted removal ih) cut
    exact flash
  | powerLoss _ ih => exact OnFlash.cut (Mounted.onFlash ih)

/-- Read and retire record after record, as replay does. -/
def drain : Nat → StoreForwardQueue → Flash (List Bytes)
  | 0, _ => pure []
  | records + 1, queue => do
    let peeked ← queue.peek
    if !peeked.found then
      return []
    let (_, queue) ← peeked.queue.pop
    let rest ← drain records queue
    return peeked.payload :: rest

theorem drain_exact {queue : StoreForwardQueue} {disk : Disk} {payloads : List Bytes}
    (works : Working queue disk.stored payloads) :
    Disk.device.wp (drain payloads.length queue) (fun found _ => found = payloads) (fun _ => True) disk := by
  induction payloads generalizing queue disk with
  | nil => exact ⟨trivial, rfl⟩
  | cons payload rest ih =>
    refine (peek_observes works).then ?_
    simp only [peeked, Bool.not_true, Bool.false_eq_true, if_false]
    refine Model.wp_bind.mpr (pop_wp false (works.withError "") (fun _ _ => trivial)
      (fun _ _ _ _ => trivial) ?_)
    intro last popped later _ _ _ _ _
    refine Model.wp_bind.mpr (Model.wp_mono (ih later) ?_ fun _ _ => trivial)
    rintro found after rfl
    exact ⟨trivial, rfl⟩

/-- After any run with any number of power losses, a queue that opened holds exactly the live
entries of the ledger, in the order they were given. -/
theorem crash_recovery {queue : StoreForwardQueue} {disk : Disk} {ledger : Ledger Bytes}
    (reachable : Reachable ⟨some queue, disk, ledger⟩) (ready : queue.ready = true) :
    ((drain queue.pendingRecords queue).exec Disk.handle disk).1.map some =
        ledger.live.map ledger.entry ∧
      ledger.Balanced ∧
      min (2 ^ 32 - 1) ledger.rotated.length ≤ queue.droppedRecords := by
  cases (reachable_consistent reachable : Mounted queue disk ledger) with
  | closed off _ => exact absurd (ready.symm.trans off) (by decide)
  | «open» payloads works expected =>
    have found := Model.exec_wp (drain_exact works)
    rw [pendingRecords_eq works, found]
    exact ⟨expected.contents, expected.balanced, expected.drops⟩

def stocked : (Bool × StoreForwardQueue) × Disk :=
  let opened := (StoreForwardQueue.begin {} true 1048576).exec Disk.handle
    (blank "littlefs" 2097152 2097152)
  (opened.1.2.enqueue [1, 2, 3]).exec Disk.handle opened.2

theorem stocked_reachable :
    Reachable ⟨some stocked.1.2, stocked.2, ({} : Ledger Bytes).offer [1, 2, 3] 0 .accepted⟩ := by
  have reached := Reachable.enqueue [1, 2, 3]
    (.boot 1048576 (.blank "littlefs" 2097152 2097152) (Model.runs_exec _ _)) (Model.runs_exec _ _)
  exact reached

/-- Power is lost when the header and one byte of a second payload have been written. -/
def interrupted : Disk :=
  let begun := (Prog.execFor Disk.handle 2 (stocked.1.2.enqueue [4, 5]) stocked.2).2
  begun.set (.segment .zero) (some (begun.content (.segment .zero) ++ [4]))

theorem interrupted_cut : Disk.device.Cut (stocked.1.2.enqueue [4, 5]) stocked.2 interrupted := by
  have rest : Disk.device.Cut (Prog.execFor Disk.handle 2 (stocked.1.2.enqueue [4, 5]) stocked.2).1
      (Prog.execFor Disk.handle 2 (stocked.1.2.enqueue [4, 5]) stocked.2).2 interrupted :=
    .inside ⟨1, by decide, rfl⟩
  exact Model.cut_execFor rest

def restarted : (Bool × StoreForwardQueue) × Disk :=
  (StoreForwardQueue.begin {} true 1048576).exec Disk.handle interrupted

theorem restarted_reachable : Reachable ⟨some restarted.1.2, restarted.2,
    (({} : Ledger Bytes).offer [1, 2, 3] 0 .accepted).offer [4, 5] 0 (.cut false)⟩ := by
  have reached := Reachable.boot 1048576 (Reachable.enqueueCut [4, 5] stocked_reachable interrupted_cut)
    (Model.runs_exec _ _)
  exact reached

theorem crash_recovery_interrupted :
    ((drain restarted.1.2.pendingRecords restarted.1.2).exec Disk.handle restarted.2).1 = [[1, 2, 3]] ∧
      restarted.1.2.metadata.corruptionEvents = 1 := by
  have recovered := (crash_recovery restarted_reachable (by decide +kernel)).1
  have live : ((({} : Ledger Bytes).offer [1, 2, 3] 0 .accepted).offer [4, 5] 0 (.cut false)).live.map
      ((({} : Ledger Bytes).offer [1, 2, 3] 0 .accepted).offer [4, 5] 0 (.cut false)).entry = [[1, 2, 3]].map some := by
    decide
  rw [live] at recovered
  exact ⟨List.map_injective_iff.mpr (Option.some_injective _) recovered, by decide +kernel⟩

end StoreForwardQueue

end ApexiDevices
