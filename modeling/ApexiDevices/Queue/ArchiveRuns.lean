import ApexiDevices.Queue.ArchiveBoot
import Mathlib.Logic.Relation

set_option autoImplicit false

/-!
# Runs of the archive

Boots, archived uploads, reads and power losses in any order, on a filesystem
whose writes cannot be trusted.
-/

namespace ApexiDevices

open Device StoreForwardQueue

theorem countP_changed {α : Type} {entries : List α} {before after : α → Bool} {changed : α} (distinct : entries.Nodup)
    (member : changed ∈ entries) (absent : before changed = false) (present : after changed = true)
    (others : ∀ entry, entry ≠ changed → after entry = before entry) :
    entries.countP after = entries.countP before + 1 := by
  induction entries with
  | nil => cases member
  | cons head rest ih =>
    obtain ⟨fresh, distinct⟩ := List.nodup_cons.mp distinct
    rw [List.countP_cons, List.countP_cons]
    by_cases same : head = changed
    · subst same
      have kept : rest.countP after = rest.countP before := by
        apply List.countP_congr
        intro entry member
        rw [others entry fun same => fresh (same ▸ member)]
      simp [kept, absent, present]
    · have one := ih distinct ((List.mem_cons.mp member).resolve_left (Ne.symm same))
      rw [one, others head same]
      omega

namespace RejectedUploads

/-- Without power only the flash is left. -/
structure World where
  memory : Option StoreForwardQueue
  disk : Disk

inductive Step : World → World → Prop
  | boot {disk last : Disk} {ok : Bool} {queue : StoreForwardQueue} (enabled : Bool) (maximumBytes : Nat)
    (run : Disk.unreliable.Runs (StoreForwardQueue.begin {} enabled maximumBytes) disk (ok, queue) last) :
    Step ⟨none, disk⟩ ⟨some queue, last⟩
  | bootCut {disk last : Disk} (enabled : Bool) (maximumBytes : Nat)
    (cut : Disk.unreliable.Cut (StoreForwardQueue.begin {} enabled maximumBytes) disk last) :
    Step ⟨none, disk⟩ ⟨none, last⟩
  | preserve {disk last : Disk} {ok : Bool} {queue next : StoreForwardQueue} (payload : Bytes) (httpStatus : Int32)
    (run : Disk.unreliable.Runs (queue.preserveRejected payload httpStatus) disk (ok, next) last) :
    Step ⟨some queue, disk⟩ ⟨some next, last⟩
  | preserveCut {disk last : Disk} {queue : StoreForwardQueue} (payload : Bytes) (httpStatus : Int32)
    (cut : Disk.unreliable.Cut (queue.preserveRejected payload httpStatus) disk last) :
    Step ⟨some queue, disk⟩ ⟨none, last⟩
  | read {disk last : Disk} {found : Option (Bytes × Int32)} {queue : StoreForwardQueue} (slot : Nat)
    (run : Disk.unreliable.Runs (queue.readRejected slot) disk found last) :
    Step ⟨some queue, disk⟩ ⟨some queue, last⟩
  | readCut {disk last : Disk} {queue : StoreForwardQueue} (slot : Nat)
    (cut : Disk.unreliable.Cut (queue.readRejected slot) disk last) : Step ⟨some queue, disk⟩ ⟨none, last⟩
  | powerLoss {disk : Disk} {queue : StoreForwardQueue} : Step ⟨some queue, disk⟩ ⟨none, disk⟩

def readBack (queue : StoreForwardQueue) (disk : Disk) (slot : Nat) : Option (Bytes × Int32) :=
  ((queue.readRejected slot).exec Disk.handle disk).1

def Distinct (disk : Disk) : Prop :=
  ∀ (queue : StoreForwardQueue) (payload : Bytes) (status other : Int32) (first second : Nat),
    readBack queue disk first = some (payload, status) → readBack queue disk second = some (payload, other) →
      first = second

def Kept (disk last : Disk) : Prop :=
  ∀ slot bytes, disk.files (.rejectedSlot slot) = some bytes → last.files (.rejectedSlot slot) = some bytes

variable {disk last : Disk} {queue : StoreForwardQueue} {payload : Bytes} {slot : Nat}

theorem readBack_eq (queue : StoreForwardQueue) (disk : Disk) (slot : Nat) : readBack queue disk slot =
    if !queue.ready || slot ≥ kRejectedSlots then none else parseRejected (disk.files (.rejectedSlot slot)) := by
  have run := @Model.runs_of_handler _ _ _ Disk.unreliable Disk.handle (fun _ _ => .inl rfl) (queue.readRejected slot) disk
  exact (Model.wp_runs (readRejected_observes disk queue slot) run).1

theorem saved_of_readBack {status : Int32} (found : readBack queue disk slot = some (payload, status)) :
    Saved disk payload slot := by
  rw [readBack_eq] at found
  split at found
  case isTrue => cases found
  case isFalse open_ =>
    simp only [Bool.or_eq_true, Bool.not_eq_true', decide_eq_true_eq, not_or, Nat.not_le, ge_iff_le] at open_
    exact ⟨open_.2, status, found⟩

theorem Saved.readBack (saved : Saved disk payload slot) (on : queue.ready = true) :
    ∃ status, RejectedUploads.readBack queue disk slot = some (payload, status) := by
  obtain ⟨listed, status, parsed⟩ := saved
  refine ⟨status, ?_⟩
  rw [readBack_eq, if_neg (by simp [on, listed]), parsed]

theorem distinct_iff : Distinct disk ↔
    ∀ payload first second, Saved disk payload first → Saved disk payload second → first = second := by
  constructor
  · intro distinct payload first second saved other
    have on : ({ ready := true } : StoreForwardQueue).ready = true := rfl
    obtain ⟨status, found⟩ := Saved.readBack saved on
    obtain ⟨last, again⟩ := Saved.readBack other on
    exact distinct _ _ _ _ _ _ found again
  · intro distinct queue payload status other first second found again
    exact distinct payload first second (saved_of_readBack found) (saved_of_readBack again)

section Same

variable (same : Disk.Same Path.archived disk last)

include same

theorem kept_of_same : Kept disk last := fun slot _ occupied => (same (.rejectedSlot slot) trivial).trans occupied

theorem distinct_of_same (distinct : Distinct disk) : Distinct last := by
  rw [distinct_iff] at distinct ⊢
  intro payload first second saved other
  exact distinct payload first second ((saved_of_same same).mp saved) ((saved_of_same same).mp other)

end Same

section Filled

variable (filled : Filled disk payload slot last)

include filled

theorem kept_of_filled : Kept disk last := by
  intro other bytes occupied
  by_cases same : other = slot
  · rw [same, filled.free] at occupied
    cases occupied
  · exact (filled.others other same).trans occupied

theorem saved_of_filled {entry : Bytes} {other : Nat} (saved : Saved last entry other) :
    other = slot ∧ entry = payload ∨ other ≠ slot ∧ Saved disk entry other := by
  by_cases same : other = slot
  · subst same
    obtain ⟨-, status, parsed⟩ := saved
    obtain ⟨-, archived, written⟩ := filled.saved
    rw [parsed, Option.some.injEq, Prod.mk.injEq] at written
    exact .inl ⟨rfl, written.1⟩
  · rw [Saved, filled.others other same] at saved
    exact .inr ⟨same, saved⟩

theorem distinct_of_filled (distinct : Distinct disk) : Distinct last := by
  rw [distinct_iff] at distinct ⊢
  intro entry first second saved other
  rcases saved_of_filled filled saved with ⟨rfl, rfl⟩ | ⟨-, old⟩ <;>
    rcases saved_of_filled filled other with ⟨rfl, same⟩ | ⟨-, older⟩
  · rfl
  · exact (filled.unsaved _ older).elim
  · exact (filled.unsaved _ (same ▸ old)).elim
  · exact distinct entry first second old older

theorem presentSlots_filled (on : queue.ready = true) : queue.presentSlots last = queue.presentSlots disk + 1 := by
  rw [presentSlots_ready on, presentSlots_ready on]
  apply countP_changed List.nodup_range (List.mem_range.mpr filled.saved.1)
  · rw [filled.free]
    rfl
  · exact filled.saved.occupied
  · intro other differs
    rw [filled.others other differs]

end Filled

/-- The slots are told apart, and the queue in memory has counted them. -/
structure Sound (world : World) : Prop where
  distinct : Distinct world.disk
  recorded : ∀ queue, world.memory = some queue → Recorded queue world.disk

theorem Sound.off (distinct : Distinct disk) : Sound ⟨none, disk⟩ := ⟨distinct, fun _ impossible => by cases impossible⟩

theorem Sound.on (distinct : Distinct disk) (recorded : Recorded queue disk) : Sound ⟨some queue, disk⟩ := by
  refine ⟨distinct, fun other same => ?_⟩
  cases same
  exact recorded

theorem preserved_sound {outcome : Bool × StoreForwardQueue} (preserved : Preserved queue disk payload outcome last)
    (sound : Sound ⟨some queue, disk⟩) : Sound ⟨some outcome.2, last⟩ ∧ Kept disk last := by
  have recorded := sound.recorded queue rfl
  cases preserved with
  | refused error same =>
    have counted : Recorded { queue with lastError := error } disk := recorded
    exact ⟨.on (distinct_of_same same sound.distinct) (recorded_of_same counted same), kept_of_same same⟩
  | known on saved => exact ⟨.on sound.distinct recorded, fun _ _ occupied => occupied⟩
  | filled on filled =>
    refine ⟨.on (distinct_of_filled filled sound.distinct) ?_, kept_of_filled filled⟩
    have more : queue.presentSlots last = queue.presentSlots disk + 1 := presentSlots_filled filled on
    exact (congrArg (· + 1) recorded).trans more.symm

theorem step_sound {world next : World} (step : Step world next) (sound : Sound world) :
    Sound next ∧ Kept world.disk next.disk := by
  have settled {start last : Disk} (distinct : Distinct start) (same : Disk.Same Path.archived start last) :
      Sound ⟨none, last⟩ ∧ Kept start last := ⟨.off (distinct_of_same same distinct), kept_of_same same⟩
  cases step with
  | boot enabled maximumBytes run =>
    obtain ⟨recorded, same⟩ := Model.wp_runs (begin_archived enabled maximumBytes) run
    exact ⟨.on (distinct_of_same same sound.distinct) recorded, kept_of_same same⟩
  | bootCut enabled maximumBytes cut => exact settled sound.distinct (Model.wp_cut (begin_archived enabled maximumBytes) cut)
  | preserve payload httpStatus run =>
    exact preserved_sound (Model.wp_runs (preserveRejected_wp _ _ payload httpStatus) run) sound
  | preserveCut payload httpStatus cut =>
    rcases Model.wp_cut (preserveRejected_wp _ _ payload httpStatus) cut with same | ⟨slot, filled⟩
    · exact settled sound.distinct same
    · exact ⟨.off (distinct_of_filled filled sound.distinct), kept_of_filled filled⟩
  | read slot run =>
    obtain ⟨-, rfl⟩ := Model.wp_runs (readRejected_observes _ _ slot) run
    exact ⟨sound, fun _ _ occupied => occupied⟩
  | readCut slot cut =>
    obtain rfl := Model.wp_cut (readRejected_observes _ _ slot) cut
    exact settled sound.distinct (.refl _ _)
  | powerLoss => exact settled sound.distinct (.refl _ _)

theorem run_sound {start world : World} (reached : Relation.ReflTransGen Step start world) (sound : Sound start) :
    Sound world ∧ Kept start.disk world.disk := by
  induction reached with
  | refl => exact ⟨sound, fun _ _ occupied => occupied⟩
  | tail _ step ih =>
    obtain ⟨later, kept⟩ := step_sound step ih.1
    exact ⟨later, fun slot bytes occupied => kept slot bytes (ih.2 slot bytes occupied)⟩

theorem archive_safe {start : Disk} {world : World} (distinct : Distinct start)
    (reached : Relation.ReflTransGen Step ⟨none, start⟩ world) :
    (∀ later, Relation.ReflTransGen Step world later → ∀ slot bytes,
      world.disk.files (.rejectedSlot slot) = some bytes → later.disk.files (.rejectedSlot slot) = some bytes) ∧
    Distinct world.disk ∧
    ∀ queue, world.memory = some queue →
      queue.rejectedRecords = queue.presentSlots world.disk ∧ queue.rejectedRecords ≤ 16 ∧
      (queue.ready = true → queue.rejectedRecords =
        (List.range kRejectedSlots).countP fun slot => (world.disk.files (.rejectedSlot slot)).isSome) ∧
      ∀ payload httpStatus ok next last,
        Disk.unreliable.Runs (queue.preserveRejected payload httpStatus) world.disk (ok, next) last →
        if ok then ∃ slot status, readBack next last slot = some (payload, status)
        else ∀ slot, last.files (.rejectedSlot slot) = world.disk.files (.rejectedSlot slot) := by
  obtain ⟨sound, -⟩ := run_sound reached (.off distinct)
  refine ⟨fun later run => (run_sound run sound).2, sound.distinct, fun queue here => ?_⟩
  have recorded := sound.recorded queue here
  refine ⟨recorded, recorded.trans_le (presentSlots_le _ _), fun on => recorded.trans (presentSlots_ready on),
    fun payload httpStatus ok next last run => ?_⟩
  have preserved := Model.wp_runs (preserveRejected_wp _ _ payload httpStatus) run
  cases preserved with
  | refused error same => exact fun slot => same (.rejectedSlot slot) trivial
  | known on saved => exact ⟨_, Saved.readBack saved on⟩
  | filled on filled => exact ⟨_, Saved.readBack filled.saved on⟩

theorem distinct_blank (partition : String) (partitionSize : Nat) (totalBytes : UInt32) :
    Distinct (blank partition partitionSize totalBytes) := by
  rw [distinct_iff]
  intro payload first second saved
  cases saved.occupied

def archivedOnce : World :=
  let booted := (StoreForwardQueue.begin {} true 1048576).exec Disk.handle (blank "littlefs" 1441792 1441792)
  let archived := (booted.1.2.preserveRejected [0x7b, 0x7d] 422).exec Disk.handle booted.2
  ⟨some archived.1.2, archived.2⟩

theorem reached_archivedOnce : Relation.ReflTransGen Step ⟨none, blank "littlefs" 1441792 1441792⟩ archivedOnce := by
  have runs {α : Type} (program : Flash α) (disk : Disk) := @Model.runs_of_handler _ _ _ Disk.unreliable Disk.handle
    (fun _ _ => .inl rfl) program disk
  exact .tail (.tail .refl (.boot true 1048576 (runs _ _))) (.preserve [0x7b, 0x7d] 422 (runs _ _))

theorem archive_safe_once :
    (∀ later, Relation.ReflTransGen Step archivedOnce later → ∀ slot bytes,
      archivedOnce.disk.files (.rejectedSlot slot) = some bytes → later.disk.files (.rejectedSlot slot) = some bytes) ∧
    Distinct archivedOnce.disk ∧ ∀ queue, archivedOnce.memory = some queue → queue.rejectedRecords = 1 := by
  obtain ⟨kept, distinct, counted⟩ := archive_safe (distinct_blank _ _ _) reached_archivedOnce
  refine ⟨kept, distinct, fun queue here => ?_⟩
  have on : queue.ready = true := by
    obtain rfl := Option.some.inj here
    decide +kernel
  rw [(counted queue here).2.2.1 on]
  decide +kernel

end RejectedUploads

end ApexiDevices
