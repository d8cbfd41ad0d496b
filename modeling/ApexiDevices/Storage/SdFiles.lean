import ApexiDevices.Shared.Bytes

set_option autoImplicit false

/-!
# A card as its directory

Files in directory order, for code that lists the card. No call on it fails.
-/

namespace ApexiDevices

open Device

structure SdFile where
  name : Bytes
  content : Bytes
  deriving DecidableEq

namespace SdFile

def size (files : List SdFile) (name : Bytes) : Nat :=
  match files.find? fun file => file.name = name with
  | none => 0
  | some file => file.content.length

def read (files : List SdFile) (name : Bytes) : Bytes :=
  match files.find? fun file => file.name = name with
  | none => []
  | some file => file.content

/-- A file that does not exist yet is created at the end of the directory. -/
def append (name bytes : Bytes) : List SdFile → List SdFile
  | [] => [⟨name, bytes⟩]
  | file :: rest =>
    if file.name = name then ⟨name, file.content ++ bytes⟩ :: rest else file :: append name bytes rest

def remove (name : Bytes) (files : List SdFile) : List SdFile := files.filter fun file => file.name ≠ name

variable {name bytes : Bytes} {files : List SdFile} {file : SdFile}

def Held (files : List SdFile) (name before : Bytes) : Prop := ⟨name, before⟩ ∈ files ∨ before = []

theorem mem_append (member : file ∈ append name bytes files) :
    file ∈ files ∨ ∃ before, Held files name before ∧ file = ⟨name, before ++ bytes⟩ := by
  induction files with
  | nil => exact .inr ⟨[], .inr rfl, List.mem_singleton.mp member⟩
  | cons first rest ih =>
    unfold append at member
    split at member
    · rename_i same
      rcases List.mem_cons.mp member with rfl | later
      · exact .inr ⟨first.content, .inl (same ▸ List.mem_cons_self), rfl⟩
      · exact .inl (List.mem_cons_of_mem _ later)
    · rcases List.mem_cons.mp member with rfl | later
      · exact .inl List.mem_cons_self
      · rcases ih later with old | ⟨before, held, same⟩
        · exact .inl (List.mem_cons_of_mem _ old)
        · exact .inr ⟨before, held.imp_left (List.mem_cons_of_mem _), same⟩

theorem append_written : ∃ before, Held files name before ∧ ⟨name, before ++ bytes⟩ ∈ append name bytes files := by
  induction files with
  | nil => exact ⟨[], .inr rfl, List.mem_cons_self⟩
  | cons first rest ih =>
    unfold append
    split
    · rename_i same
      exact ⟨first.content, .inl (same ▸ List.mem_cons_self), List.mem_cons_self⟩
    · obtain ⟨before, held, present⟩ := ih
      exact ⟨before, held.imp_left (List.mem_cons_of_mem _), List.mem_cons_of_mem _ present⟩

theorem append_extends (member : file ∈ files) :
    ∃ more, ⟨file.name, file.content ++ more⟩ ∈ append name bytes files := by
  induction files with
  | nil => cases member
  | cons first rest ih =>
    unfold append
    split
    · rename_i same
      rcases List.mem_cons.mp member with rfl | later
      · exact ⟨bytes, same ▸ List.mem_cons_self⟩
      · exact ⟨[], by simpa using .inr later⟩
    · rcases List.mem_cons.mp member with rfl | later
      · exact ⟨[], by simp⟩
      · obtain ⟨more, present⟩ := ih later
        exact ⟨more, List.mem_cons_of_mem _ present⟩

section Content

variable {other : Bytes}

theorem read_cons (file : SdFile) (files : List SdFile) (name : Bytes) :
    read (file :: files) name = if file.name = name then file.content else read files name := by
  by_cases same : file.name = name <;> simp [read, same]

theorem read_append_same : read (append name bytes files) name = read files name ++ bytes := by
  induction files with
  | nil => simp [append, read]
  | cons file rest ih =>
    unfold append
    split
    · rename_i same
      rw [read_cons, read_cons, if_pos rfl, if_pos same]
    · rename_i different
      rw [read_cons, read_cons, if_neg different, if_neg different, ih]

theorem read_append_ne (different : other ≠ name) :
    read (append name bytes files) other = read files other := by
  induction files with
  | nil => simp [append, read, Ne.symm different]
  | cons file rest ih =>
    unfold append
    split
    · rename_i same
      rw [read_cons, read_cons, if_neg (Ne.symm different), if_neg (same ▸ Ne.symm different)]
    · rw [read_cons, read_cons, ih]

theorem read_remove_ne (different : other ≠ name) :
    read (remove name files) other = read files other := by
  induction files with
  | nil => rfl
  | cons file rest ih =>
    unfold remove at ih ⊢
    by_cases same : file.name = name
    · rw [List.filter_cons_of_neg (by simpa using same), ih, read_cons, if_neg (same ▸ Ne.symm different)]
    · rw [List.filter_cons_of_pos (by simpa using same), read_cons, read_cons, ih]

theorem read_absent (absent : files.any (fun file => file.name = other) = false) : read files other = [] := by
  have missing : files.find? (fun file => file.name = other) = none := by
    rw [List.find?_eq_none]
    intro file listed named
    have present : files.any (fun file => file.name = other) = true := List.any_eq_true.mpr ⟨file, listed, named⟩
    rw [absent] at present
    cases present
  rw [read, missing]

end Content

end SdFile

end ApexiDevices
