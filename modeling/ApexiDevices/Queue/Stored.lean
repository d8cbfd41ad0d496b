import ApexiDevices.Queue.Model

set_option autoImplicit false

namespace ApexiDevices

open Device

/-- What of a disk the queue ever reads again, with the number of its commit points so far. -/
structure Stored where
  partition : String
  partitionSize : Nat
  totalBytes : UInt32
  metadata : Option Bytes
  segments : Segment → Option Bytes
  rejected : Nat → Option Bytes
  commits : Nat
  reclaims : Nat
  appends : Nat

namespace Stored

/-- The commit points: a metadata rename, a truncated segment, a completed segment write. -/
def note (stored : Stored) : FsOp → Stored
  | .rename .metadataTemporary .metadata => { stored with commits := stored.commits + 1 }
  | .openWrite (.segment _) => { stored with reclaims := stored.reclaims + 1 }
  | .write (.segment _) _ => { stored with appends := stored.appends + 1 }
  | _ => stored

def content (stored : Stored) (segment : Segment) : Bytes := (stored.segments segment).getD []

def setSegment (stored : Stored) (segment : Segment) (bytes : Bytes) : Stored :=
  { stored with segments := Function.update stored.segments segment (some bytes) }

def commit (stored : Stored) (metadata : Metadata) : Stored :=
  { stored with metadata := some metadata.bytes, commits := stored.commits + 1 }

def reclaim (stored : Stored) (segment : Segment) : Stored :=
  { stored with
    segments := Function.update stored.segments segment (some [])
    reclaims := stored.reclaims + 1 }

/-- Bytes have been appended to a segment in the given number of completed writes. -/
def append (stored : Stored) (segment : Segment) (bytes : Bytes) (writes : Nat) : Stored :=
  { stored with
    segments := Function.update stored.segments segment (some (stored.content segment ++ bytes))
    appends := stored.appends + writes }

/-- A boot has recreated, repaired or truncated a segment. -/
def replaced (stored : Stored) (segment : Segment) (file : Option Bytes) (reclaims : Nat) : Stored :=
  { stored with
    segments := Function.update stored.segments segment file
    reclaims := reclaims }

theorem replaced_self (stored : Stored) (segment : Segment) (file : Option Bytes)
    (held : stored.segments segment = file) :
    stored = stored.replaced segment file stored.reclaims := by
  simp [replaced, ← held]

theorem replaced_replaced (stored : Stored) (segment : Segment) (first second : Option Bytes)
    (before after : Nat) :
    (stored.replaced segment first before).replaced segment second after =
      stored.replaced segment second after := by
  simp [replaced]

/-- What no call of the queue itself changes. -/
structure Kept (before last : Stored) : Prop where
  partition : last.partition = before.partition
  totalBytes : last.totalBytes = before.totalBytes
  rejected : last.rejected = before.rejected

theorem Kept.refl (stored : Stored) : Kept stored stored := ⟨rfl, rfl, rfl⟩

theorem Kept.trans {before middle last : Stored} (first : Kept before middle) (second : Kept middle last) :
    Kept before last :=
  ⟨second.partition.trans first.partition, second.totalBytes.trans first.totalBytes,
    second.rejected.trans first.rejected⟩

theorem reclaim_eq (stored : Stored) (segment : Segment) :
    stored.reclaim segment = stored.replaced segment (some []) (stored.reclaims + 1) := rfl

theorem setSegment_eq (stored : Stored) (segment : Segment) (bytes : Bytes) :
    stored.setSegment segment bytes = stored.replaced segment (some bytes) stored.reclaims := rfl

theorem append_append (stored : Stored) (segment : Segment) (first second : Bytes) (before after : Nat) :
    (stored.append segment first before).append segment second after =
      stored.append segment (first ++ second) (before + after) := by
  simp [append, content, Nat.add_assoc]

theorem append_nil (stored : Stored) (segment : Segment) (present : (stored.segments segment).isSome) :
    stored.append segment [] 0 = stored := by
  obtain ⟨bytes, held⟩ := Option.isSome_iff_exists.mp present
  have same : Function.update stored.segments segment (some bytes) = stored.segments := by
    rw [← held, Function.update_eq_self]
  simp [append, content, held, same]

end Stored

namespace Disk

def stored (disk : Disk) : Stored where
  partition := disk.partition
  partitionSize := disk.partitionSize
  totalBytes := disk.totalBytes
  metadata := disk.files .metadata
  segments segment := disk.files (.segment segment)
  rejected slot := disk.files (.rejectedSlot slot)
  commits := disk.performed.countP fun
    | .rename .metadataTemporary .metadata => true
    | _ => false
  reclaims := disk.performed.countP fun
    | .openWrite (.segment _) => true
    | _ => false
  appends := disk.performed.countP fun
    | .write (.segment _) _ => true
    | _ => false

@[simp] theorem stored_segments (disk : Disk) (segment : Segment) :
    disk.stored.segments segment = disk.files (.segment segment) := rfl

@[simp] theorem stored_content (disk : Disk) (segment : Segment) :
    disk.stored.content segment = disk.content (.segment segment) := rfl

/-- Files the queue never reads before it has written them. -/
def scratch : Path → Bool
  | .metadataTemporary | .segmentRepair | .quarantine _ | .rejectedTemporary => true
  | _ => false

@[simp] theorem stored_log (disk : Disk) (op : FsOp) : (disk.log op).stored = disk.stored.note op := by
  unfold Stored.note
  split <;> simp_all [stored, log]

theorem stored_set_scratch (disk : Disk) (path : Path) (file : Option Bytes)
    (unseen : scratch path = true) : (disk.set path file).stored = disk.stored := by
  cases path <;> simp_all [scratch, stored, set]

@[simp] theorem stored_set_segment (disk : Disk) (segment : Segment) (bytes : Bytes) :
    (disk.set (.segment segment) (some bytes)).stored = disk.stored.setSegment segment bytes := by
  have changed : (fun other => Function.update disk.files (.segment segment) (some bytes)
      (.segment other)) = Function.update disk.stored.segments segment (some bytes) := by
    funext other
    by_cases same : other = segment <;> simp [same, Function.update_apply, stored]
  simp [stored, set, Stored.setSegment, changed]

@[simp] theorem stored_set_metadata (disk : Disk) (bytes : Bytes) :
    (disk.set .metadata (some bytes)).stored = { disk.stored with metadata := some bytes } := by
  simp [stored, set]

theorem stored_torn (disk : Disk) (segment : Segment) (bytes : Bytes) :
    (disk.set (.segment segment) (some (disk.content (.segment segment) ++ bytes))).stored =
      disk.stored.append segment bytes 0 := by
  rw [stored_set_segment]
  rfl

theorem stored_append (disk : Disk) (segment : Segment) (bytes written : Bytes) :
    ((disk.set (.segment segment) (some (disk.content (.segment segment) ++ bytes))).log
      (.write (.segment segment) written)).stored = disk.stored.append segment bytes 1 := by
  rw [stored_log, stored_set_segment]
  rfl

end Disk

end ApexiDevices
