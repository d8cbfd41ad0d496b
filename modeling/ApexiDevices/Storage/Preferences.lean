import ApexiDevices.Shared.Program

set_option autoImplicit false

/-!
# Preferences over one NVS namespace

Every key is written with one type. A write or a removal may fail without
effect, and power may be lost on either side of it. A slot also remembers which
call wrote it; no program reads that.
-/

namespace ApexiDevices

open Device

inductive Kind
  | bool
  | uchar
  | ushort
  | uint
  | string

-- A character of a string is one byte of the source's string.
@[reducible] def Kind.Value : Kind → Type
  | .bool => Bool
  | .uchar => UInt8
  | .ushort => UInt16
  | .uint => UInt32
  | .string => String

/-- What a successful `put` answers: the bytes it stored. -/
def Kind.size : (kind : Kind) → kind.Value → Nat
  | .bool, _ => 1
  | .uchar, _ => 1
  | .ushort, _ => 2
  | .uint, _ => 4
  | .string, value => value.length

structure Layout where
  Key : Type
  kind : Key → Kind

abbrev Layout.Value (L : Layout) (key : L.Key) : Type := (L.kind key).Value

inductive PreferencesOp (L : Layout)
  | openNamespace (readOnly : Bool)
  | get (key : L.Key)
  | put (key : L.Key) (value : L.Value key)
  | remove (key : L.Key)
  | clear

abbrev Preferences (L : Layout) : Signature where
  Op := PreferencesOp L
  Reply
    | .openNamespace _ => Bool
    | .get key => Option (L.Value key)
    | .put _ _ => Bool
    | .remove _ => Bool
    | .clear => Bool

namespace Preferences

variable {L : Layout}

def openNamespace (readOnly : Bool) : Prog (Preferences L) Bool :=
  Prog.request (S := Preferences L) (.openNamespace readOnly)

def get (key : L.Key) (absent : L.Value key) : Prog (Preferences L) (L.Value key) := do
  let stored ← Prog.request (S := Preferences L) (.get key)
  return stored.getD absent

def put (key : L.Key) (value : L.Value key) : Prog (Preferences L) Nat := do
  if ← Prog.request (S := Preferences L) (.put key value) then
    return (L.kind key).size value
  else
    return 0

/-- The next link of a chain `saved = saved && put(...) > 0`. -/
def putNext (saved : Bool) (key : L.Key) (value : L.Value key) : Prog (Preferences L) Bool := do
  if saved then
    return (← put key value) > 0
  else
    return false

def remove (key : L.Key) : Prog (Preferences L) Bool :=
  Prog.request (S := Preferences L) (.remove key)

def clear : Prog (Preferences L) Bool := Prog.request (S := Preferences L) .clear

end Preferences

structure Slots (L : Layout) where
  present : Bool := false
  stored : (key : L.Key) → Option (L.Value key × Nat) := fun _ => none
  writer : Nat := 0

namespace Slots

variable {L : Layout}

def value (slots : Slots L) (key : L.Key) : Option (L.Value key) := (slots.stored key).map Prod.fst

@[simp] theorem value_present (slots : Slots L) (present : Bool) (key : L.Key) :
    ({ slots with present := present } : Slots L).value key = slots.value key := rfl

/-- The keys that a partial erasure keeps. -/
def keep (slots : Slots L) (kept : L.Key → Bool) : Slots L :=
  { slots with stored := fun key => if kept key then slots.stored key else none }

variable [DecidableEq L.Key]

def put (slots : Slots L) (key : L.Key) (value : L.Value key) : Slots L :=
  { slots with stored := Function.update slots.stored key (some (value, slots.writer)) }

def remove (slots : Slots L) (key : L.Key) : Slots L :=
  { slots with stored := Function.update slots.stored key none }

@[simp] theorem put_stored (slots : Slots L) (key : L.Key) (value : L.Value key) :
    (slots.put key value).stored = Function.update slots.stored key (some (value, slots.writer)) := rfl

@[simp] theorem put_writer (slots : Slots L) (key : L.Key) (value : L.Value key) :
    (slots.put key value).writer = slots.writer := rfl

@[simp] theorem put_present (slots : Slots L) (key : L.Key) (value : L.Value key) :
    (slots.put key value).present = slots.present := rfl

@[simp] theorem value_put_same (slots : Slots L) (key : L.Key) (value : L.Value key) :
    (slots.put key value).value key = some value := by
  simp [Slots.value]

@[simp] theorem value_put_ne (slots : Slots L) {key other : L.Key} (value : L.Value key)
    (different : other ≠ key) : (slots.put key value).value other = slots.value other := by
  simp [Slots.value, different]

@[simp] theorem remove_stored (slots : Slots L) (key : L.Key) :
    (slots.remove key).stored = Function.update slots.stored key none := rfl

@[simp] theorem remove_writer (slots : Slots L) (key : L.Key) :
    (slots.remove key).writer = slots.writer := rfl

@[simp] theorem remove_present (slots : Slots L) (key : L.Key) :
    (slots.remove key).present = slots.present := rfl

@[simp] theorem value_remove_same (slots : Slots L) (key : L.Key) :
    (slots.remove key).value key = none := by
  simp [Slots.value]

@[simp] theorem value_remove_ne (slots : Slots L) {key other : L.Key} (different : other ≠ key) :
    (slots.remove key).value other = slots.value other := by
  simp [Slots.value, different]

def device : Model (Preferences L) (Slots L) where
  step
    | slots, .openNamespace true, opened, last => opened = slots.present ∧ last = slots
    | slots, .openNamespace false, opened, last =>
      last = { slots with present := slots.present || opened }
    | slots, .get key, answer, last => answer = slots.value key ∧ last = slots
    | slots, .put key value, written, last =>
      (written = true ∧ last = slots.put key value) ∨ (written = false ∧ last = slots)
    | slots, .remove key, removed, last =>
      (removed = (slots.stored key).isSome ∧ last = slots.remove key) ∨ (removed = false ∧ last = slots)
    | slots, .clear, cleared, last =>
      (cleared = true ∧ last = slots.keep fun _ => false) ∨
        (cleared = false ∧ ∃ kept, last = slots.keep kept)
  torn
    | slots, .openNamespace readOnly, last =>
      last = slots ∨ (readOnly = false ∧ last = { slots with present := true })
    | slots, .get _, last => last = slots
    | slots, .put key value, last => last = slots.put key value ∨ last = slots
    | slots, .remove key, last => last = slots.remove key ∨ last = slots
    | slots, .clear, last => ∃ kept, last = slots.keep kept

/-- The device on which exactly the writes and removals of the given keys fail. -/
def handle (fails : L.Key → Bool) (slots : Slots L) :
    (op : PreferencesOp L) → (Preferences L).Reply op × Slots L
  | .openNamespace true => (slots.present, slots)
  | .openNamespace false => (true, { slots with present := true })
  | .get key => (slots.value key, slots)
  | .put key value => if fails key then (false, slots) else (true, slots.put key value)
  | .remove key => if fails key then (false, slots) else ((slots.stored key).isSome, slots.remove key)
  | .clear => (true, slots.keep fun _ => false)

theorem device_handle (fails : L.Key → Bool) (slots : Slots L) (op : PreferencesOp L) :
    device.step slots op (slots.handle fails op).1 (slots.handle fails op).2 := by
  cases op with
  | openNamespace readOnly =>
    cases readOnly with
    | true => exact ⟨rfl, rfl⟩
    | false => simp [device, handle]
  | get key => exact ⟨rfl, rfl⟩
  | put key value => cases failing : fails key <;> simp [device, handle, failing]
  | remove key => cases failing : fails key <;> simp [device, handle, failing]
  | clear => exact .inl ⟨rfl, rfl⟩

section Rules

variable {slots : Slots L} {crash : Slots L → Prop}

theorem wp_openReadOnly {post : Bool → Slots L → Prop} (before : crash slots)
    (answered : post slots.present slots) :
    device.wp (Preferences.openNamespace true) post crash slots := by
  refine ⟨before, ?_, ?_⟩
  · rintro last (rfl | ⟨impossible, -⟩)
    · exact before
    · cases impossible
  · rintro opened last ⟨rfl, rfl⟩
    exact ⟨before, answered⟩

theorem wp_open {post : Bool → Slots L → Prop} (before : crash slots)
    (created : crash { slots with present := true })
    (opened : post true { slots with present := true }) (failed : post false slots) :
    device.wp (Preferences.openNamespace false) post crash slots := by
  refine ⟨before, ?_, ?_⟩
  · rintro last (rfl | ⟨-, rfl⟩)
    · exact before
    · exact created
  · rintro (_ | _) last rfl
    · rw [Bool.or_false]
      exact ⟨before, failed⟩
    · rw [Bool.or_true]
      exact ⟨created, opened⟩

theorem observes_get (key : L.Key) (absent : L.Value key) :
    device.Observes slots (Preferences.get key absent) ((slots.value key).getD absent) := by
  refine ⟨rfl, fun last torn => torn, ?_⟩
  rintro answer last ⟨rfl, rfl⟩
  exact ⟨rfl, rfl, rfl⟩

theorem wp_put {key : L.Key} {value : L.Value key} {post : Nat → Slots L → Prop}
    (before : crash slots) (after : crash (slots.put key value))
    (written : post ((L.kind key).size value) (slots.put key value)) (failed : post 0 slots) :
    device.wp (Preferences.put key value) post crash slots := by
  refine ⟨before, ?_, ?_⟩
  · rintro last (rfl | rfl)
    · exact after
    · exact before
  · rintro reply last (⟨rfl, rfl⟩ | ⟨rfl, rfl⟩)
    · exact ⟨after, written⟩
    · exact ⟨before, failed⟩

theorem wp_putNext {saved : Bool} {key : L.Key} {value : L.Value key}
    {post : Bool → Slots L → Prop} (before : crash slots) (skipped : post false slots)
    (written : saved = true →
      crash (slots.put key value) ∧ post ((L.kind key).size value > 0) (slots.put key value)) :
    device.wp (Preferences.putNext saved key value) post crash slots := by
  cases saved with
  | false => exact ⟨before, skipped⟩
  | true =>
    obtain ⟨after, counted⟩ := written rfl
    refine Model.wp_bind.mpr (wp_put before after ?_ ?_)
    · exact ⟨after, counted⟩
    · exact ⟨before, skipped⟩

theorem wp_remove {key : L.Key} {post : Bool → Slots L → Prop}
    (before : crash slots) (after : crash (slots.remove key))
    (removed : post (slots.stored key).isSome (slots.remove key)) (failed : post false slots) :
    device.wp (Preferences.remove key) post crash slots := by
  refine ⟨before, ?_, ?_⟩
  · rintro last (rfl | rfl)
    · exact after
    · exact before
  · rintro reply last (⟨rfl, rfl⟩ | ⟨rfl, rfl⟩)
    · exact ⟨after, removed⟩
    · exact ⟨before, failed⟩

end Rules

end Slots

end ApexiDevices
