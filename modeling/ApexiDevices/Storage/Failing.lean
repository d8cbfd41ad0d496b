import ApexiDevices.Storage.LittleFs

set_option autoImplicit false

/-!
# A filesystem whose calls may fail

A call that changes a file may be refused, and a write may be short, whatever
part of its bytes has reached the file. Which calls may fail is a parameter.
-/

namespace ApexiDevices

open Device

namespace Disk

inductive Fails (disk : Disk) : (op : FsOp) → op.Reply → Disk → Prop
  | remove (path : Path) : disk.Fails (.remove path) false disk
  | rename (source target : Path) : disk.Fails (.rename source target) false disk
  | openWrite (path : Path) : disk.Fails (.openWrite path) false disk
  | openAppend (path : Path) : disk.Fails (.openAppend path) false disk
  | write (path : Path) (bytes : Bytes) (count kept : Nat) (short : count < bytes.length) :
      disk.Fails (.write path bytes) count (disk.set path (some (disk.content path ++ bytes.take kept)))

/-- The device on which the given calls may fail. -/
def failing (may : FsOp → Prop) : Model LittleFs Disk where
  step disk op reply last := disk.handle op = (reply, last) ∨ may op ∧ disk.Fails op reply last
  torn := Torn

def reads : FsOp → Prop
  | .findPartition _ | .mount | .totalBytes | .exists _ | .openRead _ | .size _ | .seek _ _ | .read _ _ _ => True
  | _ => False

theorem reads_unfailing {disk last : Disk} {op : FsOp} {reply : op.Reply} (observes : reads op)
    (fails : disk.Fails op reply last) : False := by
  cases fails <;> exact observes

section Rules

variable {α : Type} {may : FsOp → Prop} {disk : Disk} {value : α} {post : α → Disk → Prop} {crash : Disk → Prop}
  {path source target : Path} {length position : Nat} {bytes : Bytes}

theorem observes_failing {program : Flash α} (asks : program.Asks reads)
    (observed : device.Observes disk program value) : (failing may).Observes disk program value := by
  refine Model.wp_narrow (D := device) asks ?_ (fun _ _ _ _ tears => tears) observed
  intro state op reply middle observes step
  exact step.resolve_right fun fails => reads_unfailing observes fails.2

theorem wp_failing {op : FsOp} {rest : op.Reply → Flash α} :
    (failing may).wp (flash op >>= rest) post crash disk ↔
      crash disk ∧ (∀ last, disk.Torn op last → crash last) ∧
        (failing may).wp (rest (disk.handle op).1) post crash (disk.handle op).2 ∧
        ∀ reply last, may op → disk.Fails op reply last → (failing may).wp (rest reply) post crash last := by
  rw [Model.wp_bind, flash, Model.wp_request]
  refine and_congr_right fun _ => and_congr_right fun _ => ⟨fun steps => ⟨?_, ?_⟩, ?_⟩
  · exact (steps _ _ (.inl rfl)).2
  · exact fun reply last allowed fails => (steps reply last (.inr ⟨allowed, fails⟩)).2
  · rintro ⟨works, refused⟩ reply middle (step | ⟨allowed, fails⟩)
    · obtain ⟨rfl, rfl⟩ := Prod.mk.inj step
      exact ⟨Model.wp_crash works, works⟩
    · exact ⟨Model.wp_crash (refused _ _ allowed fails), refused _ _ allowed fails⟩

theorem wp_failing_read {op : FsOp} {rest : op.Reply → Flash α} {reply : op.Reply} (observes : reads op)
    (same : disk.handle op = (reply, disk)) (whole : ∀ last, ¬disk.Torn op last)
    (next : (failing may).wp (rest reply) post crash disk) :
    (failing may).wp (flash op >>= rest) post crash disk := by
  rw [wp_failing, same]
  exact ⟨Model.wp_crash next, fun last torn => absurd torn (whole last), next,
    fun reply last _ fails => (reads_unfailing observes fails).elim⟩

theorem wp_failing_exists {rest : Bool → Flash α}
    (next : (failing may).wp (rest (disk.files path).isSome) post crash disk) :
    (failing may).wp (LittleFs.exists path >>= rest) post crash disk :=
  wp_failing_read trivial rfl (by simp [Torn]) next

theorem wp_failing_openRead {rest : Bool → Flash α}
    (next : (failing may).wp (rest (disk.files path).isSome) post crash disk) :
    (failing may).wp (LittleFs.openRead path >>= rest) post crash disk :=
  wp_failing_read trivial rfl (by simp [Torn]) next

theorem wp_failing_seek {rest : Bool → Flash α}
    (next : (failing may).wp (rest (decide (position ≤ (disk.content path).length))) post crash disk) :
    (failing may).wp (LittleFs.seek path position >>= rest) post crash disk :=
  wp_failing_read trivial rfl (by simp [Torn]) next

theorem wp_failing_remove {rest : Bool → Flash α} (here : crash disk)
    (works : (failing may).wp (rest (disk.files path).isSome) post crash
      ((disk.set path none).log (.remove path)))
    (refused : (failing may).wp (rest false) post crash disk) :
    (failing may).wp (LittleFs.remove path >>= rest) post crash disk := by
  refine wp_failing.mpr ⟨here, by simp [Torn], works, fun reply last allowed fails => ?_⟩
  cases fails
  exact refused

theorem wp_failing_openWrite {rest : Bool → Flash α} (here : crash disk)
    (works : (failing may).wp (rest true) post crash ((disk.set path (some [])).log (.openWrite path)))
    (refused : may (.openWrite path) → (failing may).wp (rest false) post crash disk) :
    (failing may).wp (LittleFs.openWrite path >>= rest) post crash disk := by
  refine wp_failing.mpr ⟨here, by simp [Torn], works, fun reply last allowed fails => ?_⟩
  cases fails
  exact refused allowed

theorem wp_failing_openAppend {rest : Bool → Flash α} (here : crash disk)
    (works : (failing may).wp (rest true) post crash
      ((disk.set path (some (disk.content path))).log (.openAppend path)))
    (refused : may (.openAppend path) → (failing may).wp (rest false) post crash disk) :
    (failing may).wp (LittleFs.openAppend path >>= rest) post crash disk := by
  refine wp_failing.mpr ⟨here, by simp [Torn], works, fun reply last allowed fails => ?_⟩
  cases fails
  exact refused allowed

theorem wp_failing_rename {rest : Bool → Flash α} (present : disk.files source = some bytes) (here : crash disk)
    (works : (failing may).wp (rest true) post crash
      (((disk.set target (some bytes)).set source none).log (.rename source target)))
    (refused : may (.rename source target) → (failing may).wp (rest false) post crash disk) :
    (failing may).wp (LittleFs.rename source target >>= rest) post crash disk := by
  have renames : disk.handle (.rename source target) =
      (true, ((disk.set target (some bytes)).set source none).log (.rename source target)) := by
    simp only [handle, present]
  refine wp_failing.mpr ⟨here, by simp [Torn], ?_, fun reply last allowed fails => ?_⟩
  · rw [renames]
    exact works
  · cases fails
    exact refused allowed

theorem wp_failing_write {rest : Nat → Flash α}
    (parts : ∀ kept, crash (disk.set path (some (disk.content path ++ bytes.take kept))))
    (works : (failing may).wp (rest bytes.length) post crash
      ((disk.set path (some (disk.content path ++ bytes))).log (.write path bytes)))
    (short : ∀ count kept, may (.write path bytes) → count < bytes.length →
      (failing may).wp (rest count) post crash
        (disk.set path (some (disk.content path ++ bytes.take kept)))) (here : crash disk) :
    (failing may).wp (LittleFs.write path bytes >>= rest) post crash disk := by
  refine wp_failing.mpr ⟨here, ?_, works, fun reply last allowed fails => ?_⟩
  · rintro last ⟨kept, -, rfl⟩
    exact parts kept
  · cases fails with
    | write _ _ _ kept fewer => exact short _ kept allowed fewer

theorem runs_failing (program : Flash α) (disk : Disk) :
    (failing may).Runs program disk (program.exec handle disk).1 (program.exec handle disk).2 :=
  Model.runs_of_handler (fun _ _ => Or.inl rfl) program disk

end Rules

/-- The device on which the chosen calls fail; a write that fails leaves nothing. -/
def refuse (chosen : FsOp → Bool) (disk : Disk) : (op : FsOp) → op.Reply × Disk
  | .remove path => if chosen (.remove path) then (false, disk) else disk.handle (.remove path)
  | .rename source target =>
    if chosen (.rename source target) then (false, disk) else disk.handle (.rename source target)
  | .openWrite path => if chosen (.openWrite path) then (false, disk) else disk.handle (.openWrite path)
  | .openAppend path => if chosen (.openAppend path) then (false, disk) else disk.handle (.openAppend path)
  | .write path bytes =>
    if chosen (.write path bytes) && 0 < bytes.length then
      (0, disk.set path (some (disk.content path ++ bytes.take 0)))
    else disk.handle (.write path bytes)
  | op => disk.handle op

theorem refuse_step (chosen : FsOp → Bool) (disk : Disk) (op : FsOp) :
    (failing fun op => chosen op = true).step disk op (disk.refuse chosen op).1 (disk.refuse chosen op).2 := by
  cases op
  case remove path =>
    rw [refuse]
    split
    · exact .inr ⟨‹_›, .remove path⟩
    · exact .inl rfl
  case rename source target =>
    rw [refuse]
    split
    · exact .inr ⟨‹_›, .rename source target⟩
    · exact .inl rfl
  case openWrite path =>
    rw [refuse]
    split
    · exact .inr ⟨‹_›, .openWrite path⟩
    · exact .inl rfl
  case openAppend path =>
    rw [refuse]
    split
    · exact .inr ⟨‹_›, .openAppend path⟩
    · exact .inl rfl
  case write path bytes =>
    rw [refuse]
    split
    · rename_i refused
      obtain ⟨fails, some⟩ := Bool.and_eq_true_iff.mp refused
      exact .inr ⟨fails, .write path bytes 0 0 (of_decide_eq_true some)⟩
    · exact .inl rfl
  all_goals exact .inl rfl

theorem runs_refuse {α : Type} {may : FsOp → Prop} {chosen : FsOp → Bool} (allowed : ∀ op, chosen op = true → may op)
    (program : Flash α) (disk : Disk) :
    (failing may).Runs program disk (program.exec (refuse chosen) disk).1 (program.exec (refuse chosen) disk).2 := by
  refine Model.runs_of_handler (fun disk op => ?_) program disk
  exact (refuse_step chosen disk op).imp_right fun fails => ⟨allowed op fails.1, fails.2⟩

end Disk

end ApexiDevices
