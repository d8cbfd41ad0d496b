import ApexiDevices.Storage.Failing

set_option autoImplicit false

/-!
# A filesystem that cannot be trusted with a write

A write may leave any bytes in its file and return any count, as when what was
accepted is not flushed. A power loss leaves any bytes in the file written then.
-/

namespace ApexiDevices

open Device

namespace Disk

inductive Lies (disk : Disk) : (op : FsOp) → op.Reply → Disk → Prop
  | write (path : Path) (bytes content : Bytes) (count : Nat) :
    disk.Lies (.write path bytes) count (disk.set path (some content))

def unreliable : Model LittleFs Disk where
  step disk op reply last := disk.handle op = (reply, last) ∨ disk.Fails op reply last ∨ disk.Lies op reply last
  torn disk op last := ∃ path bytes content, op = .write path bytes ∧ last = disk.set path (some content)

section Frame

variable {α : Type} {kept : Path → Prop} {disk last : Disk} {program : Flash α}

def leaves (kept : Path → Prop) : FsOp → Prop
  | .remove path | .openWrite path | .openAppend path | .write path _ => ¬kept path
  | .rename source target => ¬kept source ∧ ¬kept target
  | .format => False
  | _ => True

def Same (kept : Path → Prop) (before last : Disk) : Prop := ∀ path, kept path → last.files path = before.files path

theorem Same.refl (kept : Path → Prop) (disk : Disk) : Same kept disk disk := fun _ _ => rfl

theorem Same.trans {middle : Disk} (first : Same kept disk middle) (second : Same kept middle last) :
    Same kept disk last :=
  fun path known => (second path known).trans (first path known)

theorem same_set {path : Path} (file : Option Bytes) (other : ¬kept path) : Same kept disk (disk.set path file) :=
  fun _ known => files_set_of_ne disk path _ file fun same => other (same ▸ known)

theorem step_same {op : FsOp} {reply : op.Reply} (allowed : leaves kept op) (step : unreliable.step disk op reply last) :
    Same kept disk last := by
  rcases step with step | fails | lies
  · obtain rfl : (disk.handle op).2 = last := congrArg Prod.snd step
    cases op with
    | format => exact allowed.elim
    | remove path => exact same_set none allowed
    | openWrite path => exact same_set (some []) allowed
    | openAppend path => exact same_set _ allowed
    | write path bytes => exact same_set _ allowed
    | rename source target =>
      unfold handle
      dsimp only
      split
      · exact .refl kept disk
      · exact (same_set _ allowed.2).trans (same_set none allowed.1)
    | findPartition _ | mount | readPartition _ _ | totalBytes | «exists» _ | openRead _ | size _ | seek _ _
    | read _ _ _ => exact .refl kept disk
  · cases fails with
    | write path bytes => exact same_set _ allowed
    | remove | rename | openWrite | openAppend => exact .refl kept disk
  · cases lies with
    | write path => exact same_set _ allowed

theorem torn_same {op : FsOp} (allowed : leaves kept op) (torn : unreliable.torn disk op last) : Same kept disk last := by
  obtain ⟨path, bytes, content, rfl, rfl⟩ := torn
  exact same_set _ allowed

theorem wp_leaves {returned : α → Prop} (asks : program.Asks (leaves kept)) (returns : program.Returns returned) :
    unreliable.wp program (fun value last => returned value ∧ Same kept disk last) (Same kept disk) disk := by
  have general (rest : Flash α) (middle : Disk) (asks : rest.Asks (leaves kept)) (returns : rest.Returns returned)
      (same : Same kept disk middle) :
      unreliable.wp rest (fun value last => returned value ∧ Same kept disk last) (Same kept disk) middle := by
    induction rest generalizing middle with
    | done value => exact ⟨same, returns, same⟩
    | call op next ih =>
      refine ⟨same, fun last torn => same.trans (torn_same asks.1 torn), fun reply last step => ?_⟩
      exact ih reply last (asks.2 reply) (returns reply) (same.trans (step_same asks.1 step))
  exact general program disk asks returns (.refl kept disk)

theorem observes_unreliable {value : α} (asks : program.Asks reads) (observed : device.Observes disk program value) :
    unreliable.Observes disk program value := by
  refine Model.wp_narrow (D := device) asks ?_ ?_ observed
  · rintro state op reply middle observes (step | fails | lies)
    · exact step
    · exact (reads_unfailing observes fails).elim
    · cases lies
      exact observes.elim
  · rintro state op last observes ⟨path, bytes, content, rfl, rfl⟩
    exact observes.elim

end Frame

section Rules

variable {disk : Disk} {source target : Path} {bytes : Bytes}

theorem handle_reads {op : FsOp} (observes : reads op) : (disk.handle op).2 = disk := by
  cases op <;> first | rfl | exact observes.elim

theorem observes_flash {op : FsOp} (observes : reads op) :
    unreliable.Observes disk (flash op) (disk.handle op).1 := by
  refine observes_unreliable (Prog.asks_request.mpr observes) ?_
  refine ⟨rfl, fun last torn => ?_, fun reply last step => ?_⟩
  · cases op <;> first | exact torn.elim | exact observes.elim
  · obtain rfl : (disk.handle op).1 = reply := congrArg Prod.fst step
    obtain rfl : (disk.handle op).2 = last := congrArg Prod.snd step
    exact ⟨handle_reads observes, rfl, handle_reads observes⟩

def renamed (disk : Disk) (source target : Path) (bytes : Bytes) : Disk :=
  ((disk.set target (some bytes)).set source none).log (.rename source target)

theorem files_renamed_target (disk : Disk) (source target : Path) (bytes : Bytes) (differs : target ≠ source) :
    (disk.renamed source target bytes).files target = some bytes := by
  rw [renamed, files_log, files_set_of_ne _ _ _ _ differs, files_set_self]

theorem files_renamed_of_ne (disk : Disk) (source target path : Path) (bytes : Bytes) (other : path ≠ source)
    (differs : path ≠ target) : (disk.renamed source target bytes).files path = disk.files path := by
  rw [renamed, files_log, files_set_of_ne _ _ _ _ other, files_set_of_ne _ _ _ _ differs]

theorem wp_unreliable_rename {post : Bool → Disk → Prop} {crash : Disk → Prop}
    (present : disk.files source = some bytes)
    (works : crash (disk.renamed source target bytes) ∧ post true (disk.renamed source target bytes))
    (refused : crash disk ∧ post false disk) :
    unreliable.wp (LittleFs.rename source target) post crash disk := by
  have renames : disk.handle (.rename source target) = (true, disk.renamed source target bytes) := by
    simp only [handle, present, renamed]
  refine ⟨refused.1, fun last torn => ?_, fun reply last step => ?_⟩
  · obtain ⟨path, bytes, content, impossible, -⟩ := torn
    cases impossible
  · rcases step with step | fails | lies
    · obtain ⟨rfl, rfl⟩ := Prod.mk.inj (renames.symm.trans step)
      exact works
    · cases fails
      exact refused
    · cases lies

end Rules

end Disk

end ApexiDevices
