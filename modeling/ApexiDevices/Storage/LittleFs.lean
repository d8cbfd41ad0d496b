import ApexiDevices.Shared.Bytes
import ApexiDevices.Shared.Program

set_option autoImplicit false

namespace ApexiDevices

open Device

inductive Segment where
  | zero | one
  deriving DecidableEq, Repr

def Segment.other : Segment → Segment
  | .zero => .one
  | .one => .zero

@[simp] theorem Segment.other_other (segment : Segment) : segment.other.other = segment := by
  cases segment <;> rfl

@[simp] theorem Segment.other_ne (segment : Segment) : segment.other ≠ segment := by
  cases segment <;> decide

@[simp] theorem Segment.ne_other (segment : Segment) : segment ≠ segment.other := by
  cases segment <;> decide

theorem Segment.eq_or_other (active segment : Segment) : segment = active ∨ segment = active.other := by
  cases active <;> cases segment <;> decide

inductive Path where
  | metadata
  | metadataTemporary
  | segmentRepair
  | segment (segment : Segment)
  | quarantine (segment : Segment)
  | rejectedTemporary
  | rejectedSlot (slot : Nat)
  deriving DecidableEq, Repr

def Path.text : Path → String
  | .metadata => "/sfq.meta"
  | .metadataTemporary => "/sfq.meta.tmp"
  | .segmentRepair => "/sfq.repair.tmp"
  | .segment .zero => "/sfq-0.log"
  | .segment .one => "/sfq-1.log"
  | .quarantine .zero => "/sfq-0.corrupt"
  | .quarantine .one => "/sfq-1.corrupt"
  | .rejectedTemporary => "/upload-rejected.tmp"
  | .rejectedSlot slot => "/upload-rejected-" ++ (if slot < 10 then "0" else "") ++ toString slot ++ ".bin"

/-- The flash calls of the queue. A write appends: every handle is written from its end. -/
inductive FsOp where
  | findPartition (label : String)
  | mount
  | readPartition (offset length : Nat)
  | format
  | totalBytes
  | exists (path : Path)
  | remove (path : Path)
  | rename (source target : Path)
  | openRead (path : Path)
  | openWrite (path : Path)
  | openAppend (path : Path)
  | size (path : Path)
  | seek (path : Path) (position : Nat)
  | read (path : Path) (position length : Nat)
  | write (path : Path) (bytes : Bytes)

abbrev FsOp.Reply : FsOp → Type
  | .findPartition _ => Option Nat
  | .readPartition _ _ => Option Bytes
  | .totalBytes | .size _ | .write _ _ => Nat
  | .read _ _ _ => Bytes
  | _ => Bool

abbrev LittleFs : Signature := ⟨FsOp, FsOp.Reply⟩

abbrev Flash := Prog LittleFs

def flash (op : FsOp) : Flash op.Reply := @Prog.request LittleFs op

namespace LittleFs

def findPartition (label : String) : Flash (Option Nat) := flash (.findPartition label)
def mount : Flash Bool := flash .mount
def readPartition (offset length : Nat) : Flash (Option Bytes) := flash (.readPartition offset length)
def format : Flash Bool := flash .format
def totalBytes : Flash Nat := flash .totalBytes
def «exists» (path : Path) : Flash Bool := flash (.exists path)
def remove (path : Path) : Flash Bool := flash (.remove path)
def rename (source target : Path) : Flash Bool := flash (.rename source target)
def openRead (path : Path) : Flash Bool := flash (.openRead path)
def openWrite (path : Path) : Flash Bool := flash (.openWrite path)
def openAppend (path : Path) : Flash Bool := flash (.openAppend path)
def size (path : Path) : Flash Nat := flash (.size path)
def seek (path : Path) (position : Nat) : Flash Bool := flash (.seek path position)
def read (path : Path) (position length : Nat) : Flash Bytes := flash (.read path position length)
def write (path : Path) (bytes : Bytes) : Flash Nat := flash (.write path bytes)

end LittleFs

/-- Files by name, and the mutations completed so far: no program reads the latter, it only
dates the commit points of a run. -/
structure Disk where
  partition : String
  partitionSize : Nat
  totalBytes : UInt32
  files : Path → Option Bytes
  performed : List FsOp := []

namespace Disk

def content (disk : Disk) (path : Path) : Bytes := (disk.files path).getD []

def set (disk : Disk) (path : Path) (file : Option Bytes) : Disk :=
  { disk with files := Function.update disk.files path file }

def log (disk : Disk) (op : FsOp) : Disk := { disk with performed := op :: disk.performed }

@[simp] theorem files_log (disk : Disk) (op : FsOp) : (disk.log op).files = disk.files := rfl

@[simp] theorem files_set_self (disk : Disk) (path : Path) (file : Option Bytes) :
    (disk.set path file).files path = file :=
  Function.update_self _ _ _

theorem files_set_of_ne (disk : Disk) (path other : Path) (file : Option Bytes) (differs : other ≠ path) :
    (disk.set path file).files other = disk.files other :=
  Function.update_of_ne differs _ _

@[simp] theorem content_log (disk : Disk) (op : FsOp) (path : Path) :
    (disk.log op).content path = disk.content path := rfl

@[simp] theorem content_set_self (disk : Disk) (path : Path) (bytes : Bytes) :
    (disk.set path (some bytes)).content path = bytes := by
  simp [set, content]

theorem content_set_of_ne (disk : Disk) (path other : Path) (file : Option Bytes) (differs : other ≠ path) :
    (disk.set path file).content other = disk.content other := by
  simp [set, content, differs]

theorem files_rewritten (disk : Disk) (path : Path) (bytes : Bytes) (opened written : FsOp) :
    let start := (disk.set path (some [])).log opened
    ((start.set path (some (start.content path ++ bytes))).log written).files path = some bytes := by
  simp [set, log, content]

/-- A mounted filesystem on which every call succeeds. -/
def handle (disk : Disk) : (op : FsOp) → op.Reply × Disk
  | .findPartition label => (if label = disk.partition then some disk.partitionSize else none, disk)
  | .mount => (true, disk)
  | .readPartition _ length => (some (List.replicate length 0xff), disk)
  | .format => (true, { disk with files := fun _ => none }.log .format)
  | .totalBytes => (disk.totalBytes.toNat, disk)
  | .exists path => ((disk.files path).isSome, disk)
  | .remove path => ((disk.files path).isSome, (disk.set path none).log (.remove path))
  | .rename source target =>
    match disk.files source with
    | none => (false, disk)
    | some bytes =>
      (true, ((disk.set target (some bytes)).set source none).log (.rename source target))
  | .openRead path => ((disk.files path).isSome, disk)
  | .openWrite path => (true, (disk.set path (some [])).log (.openWrite path))
  | .openAppend path => (true, (disk.set path (some (disk.content path))).log (.openAppend path))
  | .size path => ((disk.content path).length, disk)
  | .seek path position => (decide (position ≤ (disk.content path).length), disk)
  | .read path position length => (((disk.content path).drop position).take length, disk)
  | .write path bytes =>
    (bytes.length, (disk.set path (some (disk.content path ++ bytes))).log (.write path bytes))

/-- A power loss inside an append leaves a proper prefix of it; every other call is atomic. -/
def Torn (disk : Disk) : FsOp → Disk → Prop
  | .write path bytes, last => ∃ kept, kept < bytes.length ∧
      last = disk.set path (some (disk.content path ++ bytes.take kept))
  | _, _ => False

/-- The device whose calls all succeed until the power is lost. -/
def device : Model LittleFs Disk := Model.ofHandler handle Torn

end Disk

variable {α : Type} {disk : Disk} {post : α → Disk → Prop} {crash : Disk → Prop}

theorem wp_flash {op : FsOp} {rest : op.Reply → Flash α} :
    Disk.device.wp (flash op >>= rest) post crash disk ↔
      crash disk ∧ (∀ last, disk.Torn op last → crash last) ∧
        Disk.device.wp (rest (disk.handle op).1) post crash (disk.handle op).2 := by
  rw [Model.wp_bind]
  refine Model.wp_request_ofHandler.trans (and_congr_right fun _ => and_congr_right fun _ => ?_)
  exact ⟨fun h => h.2, fun h => ⟨Model.wp_crash h, h⟩⟩

theorem wp_flash_read {op : FsOp} {rest : op.Reply → Flash α} {reply : op.Reply}
    (reads : disk.handle op = (reply, disk)) (whole : ∀ last, ¬ disk.Torn op last) :
    Disk.device.wp (flash op >>= rest) post crash disk ↔ Disk.device.wp (rest reply) post crash disk := by
  rw [wp_flash, reads]
  exact ⟨fun h => h.2.2, fun h => ⟨Model.wp_crash h, fun last torn => absurd torn (whole last), h⟩⟩

theorem wp_flash_atomic {op : FsOp} {rest : op.Reply → Flash α} {reply : op.Reply} {last : Disk}
    (changes : disk.handle op = (reply, last)) (whole : ∀ last, ¬ disk.Torn op last) :
    Disk.device.wp (flash op >>= rest) post crash disk ↔
      crash disk ∧ Disk.device.wp (rest reply) post crash last := by
  rw [wp_flash, changes]
  exact and_congr_right fun _ => ⟨fun h => h.2, fun h => ⟨fun _ torn => absurd torn (whole _), h⟩⟩

section Rules

variable {path source target : Path} {length position : Nat} {bytes : Bytes}

@[simp] theorem wp_findPartition {label : String} {rest : Option Nat → Flash α} :
    Disk.device.wp (LittleFs.findPartition label >>= rest) post crash disk ↔
      Disk.device.wp (rest (if label = disk.partition then some disk.partitionSize else none))
        post crash disk :=
  wp_flash_read rfl (by simp [Disk.Torn])

@[simp] theorem wp_mount {rest : Bool → Flash α} :
    Disk.device.wp (LittleFs.mount >>= rest) post crash disk ↔
      Disk.device.wp (rest true) post crash disk :=
  wp_flash_read rfl (by simp [Disk.Torn])

@[simp] theorem wp_totalBytes {rest : Nat → Flash α} :
    Disk.device.wp (LittleFs.totalBytes >>= rest) post crash disk ↔
      Disk.device.wp (rest disk.totalBytes.toNat) post crash disk :=
  wp_flash_read rfl (by simp [Disk.Torn])

@[simp] theorem wp_exists {rest : Bool → Flash α} :
    Disk.device.wp (LittleFs.exists path >>= rest) post crash disk ↔
      Disk.device.wp (rest (disk.files path).isSome) post crash disk :=
  wp_flash_read rfl (by simp [Disk.Torn])

@[simp] theorem wp_openRead {rest : Bool → Flash α} :
    Disk.device.wp (LittleFs.openRead path >>= rest) post crash disk ↔
      Disk.device.wp (rest (disk.files path).isSome) post crash disk :=
  wp_flash_read rfl (by simp [Disk.Torn])

@[simp] theorem wp_size {rest : Nat → Flash α} :
    Disk.device.wp (LittleFs.size path >>= rest) post crash disk ↔
      Disk.device.wp (rest (disk.content path).length) post crash disk :=
  wp_flash_read rfl (by simp [Disk.Torn])

@[simp] theorem wp_seek {rest : Bool → Flash α} :
    Disk.device.wp (LittleFs.seek path position >>= rest) post crash disk ↔
      Disk.device.wp (rest (decide (position ≤ (disk.content path).length))) post crash disk :=
  wp_flash_read rfl (by simp [Disk.Torn])

@[simp] theorem wp_read {rest : Bytes → Flash α} :
    Disk.device.wp (LittleFs.read path position length >>= rest) post crash disk ↔
      Disk.device.wp (rest (((disk.content path).drop position).take length)) post crash disk :=
  wp_flash_read rfl (by simp [Disk.Torn])

@[simp] theorem wp_remove {rest : Bool → Flash α} :
    Disk.device.wp (LittleFs.remove path >>= rest) post crash disk ↔ crash disk ∧
      Disk.device.wp (rest (disk.files path).isSome) post crash
        ((disk.set path none).log (.remove path)) :=
  wp_flash_atomic rfl (by simp [Disk.Torn])

@[simp] theorem wp_openWrite {rest : Bool → Flash α} :
    Disk.device.wp (LittleFs.openWrite path >>= rest) post crash disk ↔ crash disk ∧
      Disk.device.wp (rest true) post crash ((disk.set path (some [])).log (.openWrite path)) :=
  wp_flash_atomic rfl (by simp [Disk.Torn])

@[simp] theorem wp_openAppend {rest : Bool → Flash α} :
    Disk.device.wp (LittleFs.openAppend path >>= rest) post crash disk ↔ crash disk ∧
      Disk.device.wp (rest true) post crash
        ((disk.set path (some (disk.content path))).log (.openAppend path)) :=
  wp_flash_atomic rfl (by simp [Disk.Torn])

theorem wp_rename {rest : Bool → Flash α} (present : disk.files source = some bytes) :
    Disk.device.wp (LittleFs.rename source target >>= rest) post crash disk ↔ crash disk ∧
      Disk.device.wp (rest true) post crash
        (((disk.set target (some bytes)).set source none).log (.rename source target)) :=
  wp_flash_atomic (by simp only [Disk.handle, present]) (by simp [Disk.Torn])

@[simp] theorem wp_write {rest : Nat → Flash α} :
    Disk.device.wp (LittleFs.write path bytes >>= rest) post crash disk ↔ crash disk ∧
      (∀ kept, kept < bytes.length →
        crash (disk.set path (some (disk.content path ++ bytes.take kept)))) ∧
      Disk.device.wp (rest bytes.length) post crash
        ((disk.set path (some (disk.content path ++ bytes))).log (.write path bytes)) := by
  refine wp_flash.trans (and_congr_right fun _ => and_congr ?_ Iff.rfl)
  exact ⟨fun h kept short => h _ ⟨kept, short, rfl⟩, fun h last ⟨kept, short, same⟩ => same ▸ h kept short⟩

end Rules

end ApexiDevices
