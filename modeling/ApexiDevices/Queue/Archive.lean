import ApexiDevices.Queue.FailedRuns
import ApexiDevices.Queue.RejectedUploads
import ApexiDevices.Storage.Unreliable

set_option autoImplicit false

/-!
# What a call does to the archive

Every filesystem call of `preserveRejected` but the rename leaves the slots
alone, and the rename fills a free one with a file that has been read back.
-/

namespace ApexiDevices

open Device

def Path.archived : Path → Prop
  | .rejectedSlot _ => True
  | _ => False

namespace StoreForwardQueue

def parseFile : Option Bytes → Option (Bytes × RejectedHeader)
  | none => none
  | some bytes =>
    let header := RejectedHeader.codec.decode (bytes.take RejectedHeader.size)
    if (bytes.take RejectedHeader.size).length != RejectedHeader.size || header.magic != kRejectedMagic ||
        header.length == 0 || kPayloadLimit < header.length.toNat then none
    else if bytes.length != RejectedHeader.size + header.length.toNat then none
    else some (bytes.drop RejectedHeader.size, header)

def parseRejected (file : Option Bytes) : Option (Bytes × Int32) :=
  match parseFile file with
  | none => none
  | some (payload, header) =>
    if checksum payload != header.checksum then none else some (payload, header.httpStatus.toInt32)

variable {disk last : Disk} {queue : StoreForwardQueue} {payload : Bytes} {slot : Nat}

theorem readFile_asks (path : Path) : (readFile path).Asks Disk.reads := by
  unfold readFile
  refine Prog.Asks.bind (Prog.asks_request.mpr trivial) fun opened => ?_
  split
  · exact Prog.asks_pure
  · refine Prog.Asks.bind (fileRead_asks _ _) fun read => ?_
    dsimp only
    split
    · exact Prog.asks_pure
    · refine Prog.Asks.bind (Prog.asks_request.mpr trivial) fun size => ?_
      split
      · exact Prog.asks_pure
      · exact Prog.Asks.bind (readPayload_asks _ _ _ _ _) fun body => Prog.asks_pure

theorem readFile_observes (disk : Disk) (path : Path) :
    Disk.unreliable.Observes disk (readFile path) (parseFile (disk.files path)) := by
  apply Disk.observes_unreliable (readFile_asks path)
  unfold readFile
  rw [Model.Observes, wp_openRead]
  cases file : disk.files path with
  | none => exact ⟨rfl, rfl, rfl⟩
  | some bytes =>
    have content : disk.content path = bytes := by rw [Disk.content, file, Option.getD_some]
    simp only [Option.isSome_some, Bool.not_true, Bool.false_eq_true, if_false, File.read, Prog.bind_bind_eq, wp_read,
      content, List.drop_zero, Prog.pure_bind_eq, parseFile]
    generalize RejectedHeader.codec.decode (bytes.take RejectedHeader.size) = header
    split
    case isTrue => exact ⟨rfl, rfl, rfl⟩
    case isFalse accepted =>
      rw [wp_size, content]
      split
      case isTrue => exact ⟨rfl, rfl, rfl⟩
      case isFalse whole =>
        have size : bytes.length = RejectedHeader.size + header.length.toNat := by simpa using whole
        have body : (bytes.drop RejectedHeader.size).length = header.length.toNat := by
          rw [List.length_drop, size, Nat.add_sub_cancel_left]
        have position : 0 + (bytes.take RejectedHeader.size).length = RejectedHeader.size := by
          rw [Nat.zero_add, List.length_take, size, Nat.min_eq_left (Nat.le_add_right _ _)]
        have here : (disk.content path).drop (0 + (bytes.take RejectedHeader.size).length) =
            bytes.drop RejectedHeader.size ++ [] := by
          rw [content, position, List.append_nil]
        refine (readPayload_observes false header.length.toNat header.length.toNat [] here (Nat.le_of_eq body)
          (by rw [body, List.length_nil, Nat.zero_add])).then ?_
        simp only [List.nil_append, body, beq_self_eq_true, if_true]
        exact ⟨rfl, rfl, rfl⟩

theorem readRejected_observes (disk : Disk) (queue : StoreForwardQueue) (slot : Nat) :
    Disk.unreliable.Observes disk (queue.readRejected slot)
      (if !queue.ready || slot ≥ kRejectedSlots then none else parseRejected (disk.files (.rejectedSlot slot))) := by
  unfold readRejected
  split
  case isTrue => exact ⟨rfl, rfl, rfl⟩
  case isFalse =>
    refine (readFile_observes disk _).then ?_
    unfold parseRejected
    cases parseFile (disk.files (.rejectedSlot slot)) <;> exact ⟨rfl, rfl, rfl⟩

theorem rejectedSlotPresent_observes (disk : Disk) (queue : StoreForwardQueue) (slot : Nat) :
    Disk.unreliable.Observes disk (queue.rejectedSlotPresent slot)
      (if !queue.ready || slot ≥ kRejectedSlots then false else (disk.files (.rejectedSlot slot)).isSome) := by
  have asks : (queue.rejectedSlotPresent slot).Asks Disk.reads := by
    unfold rejectedSlotPresent
    split
    · exact Prog.asks_pure
    · exact Prog.asks_request.mpr trivial
  apply Disk.observes_unreliable asks
  unfold rejectedSlotPresent
  split
  · exact ⟨rfl, rfl, rfl⟩
  · exact ⟨rfl, fun last torn => torn.elim, fun reply last step => by
      obtain ⟨rfl, rfl⟩ := Prod.mk.inj (show disk.handle (.exists (.rejectedSlot slot)) = (reply, last) from step)
      exact ⟨rfl, rfl, rfl⟩⟩

/-- The slot is one of the archive and reads back as the payload. -/
def Saved (disk : Disk) (payload : Bytes) (slot : Nat) : Prop :=
  slot < kRejectedSlots ∧ ∃ status, parseRejected (disk.files (.rejectedSlot slot)) = some (payload, status)

theorem saved_of_same (same : Disk.Same Path.archived disk last) : Saved last payload slot ↔ Saved disk payload slot := by
  rw [Saved, Saved, same (.rejectedSlot slot) trivial]

theorem Saved.occupied (saved : Saved disk payload slot) : (disk.files (.rejectedSlot slot)).isSome := by
  obtain ⟨-, status, parsed⟩ := saved
  cases file : disk.files (.rejectedSlot slot) with
  | none => simp [file, parseRejected, parseFile] at parsed
  | some bytes => rfl

inductive Searched (disk : Disk) (payload : Bytes) (slots : List Nat) (freeSlot : Nat) : Option Nat → Prop
  | saved {slot : Nat} (saved : Saved disk payload slot) : Searched disk payload slots freeSlot none
  | unsaved {free : Nat} (unsaved : ∀ slot ∈ slots, ¬Saved disk payload slot)
    (absent : free = freeSlot ∨ free < kRejectedSlots ∧ disk.files (.rejectedSlot free) = none) :
    Searched disk payload slots freeSlot (some free)

theorem searchSlots_observes (on : queue.ready = true) (slots : List Nat) (listed : ∀ slot ∈ slots, slot < kRejectedSlots)
    (freeSlot : Nat) : ∃ outcome, Disk.unreliable.Observes disk (queue.searchSlots payload slots freeSlot) outcome ∧
      Searched disk payload slots freeSlot outcome := by
  induction slots generalizing freeSlot with
  | nil => exact ⟨some freeSlot, ⟨rfl, rfl, rfl⟩, .unsaved (fun _ none => absurd none List.not_mem_nil) (.inl rfl)⟩
  | cons slot slots ih =>
    have known := listed slot List.mem_cons_self
    have rest := ih fun slot member => listed slot (List.mem_cons_of_mem _ member)
    have closed : ¬(!queue.ready || decide (slot ≥ kRejectedSlots)) = true := by simp [on, known]
    have exists_ := rejectedSlotPresent_observes disk queue slot
    have reads := readRejected_observes disk queue slot
    rw [if_neg closed] at exists_ reads
    -- A slot without the payload leaves the outcome of the others.
    have behind {outcome : Option Nat} {free : Nat} (other : ¬Saved disk payload slot)
        (start : free = freeSlot ∨ free < kRejectedSlots ∧ disk.files (.rejectedSlot free) = none)
        (found : Searched disk payload slots free outcome) : Searched disk payload (slot :: slots) freeSlot outcome := by
      cases found with
      | saved saved => exact .saved saved
      | unsaved unsaved absent =>
        refine .unsaved (fun entry member => ?_) (absent.elim (fun same => same ▸ start) .inr)
        rcases List.mem_cons.mp member with rfl | member
        · exact other
        · exact unsaved entry member
    unfold searchSlots
    cases file : disk.files (.rejectedSlot slot) with
    | none =>
      obtain ⟨outcome, observed, found⟩ := rest (if freeSlot = kRejectedSlots then slot else freeSlot)
      refine ⟨outcome, exists_.then ?_, behind (fun saved => ?_) ?_ found⟩
      · simpa only [file, Option.isSome_none, Bool.not_false, if_true, Model.Observes] using observed
      · simpa [file] using saved.occupied
      · split
        · exact .inr ⟨known, file⟩
        · exact .inl rfl
    | some bytes =>
      cases parsed : parseRejected (some bytes) with
      | none =>
        obtain ⟨outcome, observed, found⟩ := rest freeSlot
        refine ⟨outcome, exists_.then ?_, behind (fun saved => ?_) (.inl rfl) found⟩
        · simp only [file, Option.isSome_some, Bool.not_true, Bool.false_eq_true, if_false]
          refine reads.then ?_
          simpa only [file, parsed, Model.Observes] using observed
        · obtain ⟨-, status, read⟩ := saved
          rw [file, parsed] at read
          cases read
      | some entry =>
        obtain ⟨saved, status⟩ := entry
        by_cases same : saved = payload
        case pos =>
          subst same
          refine ⟨none, exists_.then ?_, .saved ⟨known, status, file ▸ parsed⟩⟩
          simp only [file, Option.isSome_some, Bool.not_true, Bool.false_eq_true, if_false]
          refine reads.then ?_
          simp only [file, parsed, if_true]
          exact ⟨rfl, rfl, rfl⟩
        case neg =>
          obtain ⟨outcome, observed, found⟩ := rest freeSlot
          refine ⟨outcome, exists_.then ?_, behind (fun held => ?_) (.inl rfl) found⟩
          · simp only [file, Option.isSome_some, Bool.not_true, Bool.false_eq_true, if_false]
            refine reads.then ?_
            simpa only [file, parsed, same, if_false, Model.Observes] using observed
          · obtain ⟨-, status, read⟩ := held
            rw [file, parsed, Option.some.injEq, Prod.mk.injEq] at read
            exact same read.1

/-- A free slot has been filled with the payload, which no slot had, and nothing else has changed. -/
structure Filled (disk : Disk) (payload : Bytes) (slot : Nat) (last : Disk) : Prop where
  free : disk.files (.rejectedSlot slot) = none
  unsaved : ∀ slot, ¬Saved disk payload slot
  saved : Saved last payload slot
  others : ∀ other, other ≠ slot → last.files (.rejectedSlot other) = disk.files (.rejectedSlot other)

theorem writeTemporary_asks (header : RejectedHeader) (payload : Bytes) :
    (writeTemporary header payload).Asks (Disk.leaves Path.archived) := by
  have other : ¬Path.archived .rejectedTemporary := id
  unfold writeTemporary
  refine Prog.Asks.bind (Prog.asks_request.mpr other) fun opened => ?_
  split
  · exact Prog.asks_pure
  · refine Prog.Asks.bind (Prog.asks_request.mpr other) fun count => ?_
    split
    · exact Prog.asks_pure
    · exact Prog.Asks.bind (Prog.asks_request.mpr other) fun count => Prog.asks_pure

theorem verifyTemporary_observes (disk : Disk) (header : RejectedHeader) (payload : Bytes) :
    ∃ verified, Disk.unreliable.Observes disk (verifyTemporary header payload) verified ∧
      (verified = true → ∃ read : RejectedHeader, parseFile (disk.files .rejectedTemporary) = some (payload, read) ∧
        read.checksum = header.checksum) := by
  have read := readFile_observes disk .rejectedTemporary
  unfold verifyTemporary
  cases parsed : parseFile (disk.files .rejectedTemporary) with
  | none => exact ⟨false, read.then (by rw [parsed]; exact ⟨rfl, rfl, rfl⟩), fun impossible => by cases impossible⟩
  | some entry =>
    obtain ⟨saved, found⟩ := entry
    refine ⟨_, read.then (by rw [parsed]; exact ⟨rfl, rfl, rfl⟩), fun verified => ?_⟩
    simp only [Bool.and_eq_true, beq_iff_eq] at verified
    exact ⟨found, by rw [verified.1.1], verified.1.2⟩

theorem archive_wp {header : RejectedHeader} {free : Nat} (sum : header.checksum = checksum payload)
    (listed : free < kRejectedSlots) (absent : disk.files (.rejectedSlot free) = none)
    (unsaved : ∀ slot, ¬Saved disk payload slot) :
    Disk.unreliable.wp (archive header payload free)
      (fun done last => if done then Filled disk payload free last else Disk.Same Path.archived disk last)
      (fun last => Disk.Same Path.archived disk last ∨ Filled disk payload free last) disk := by
  unfold archive
  refine Model.wp_then (Disk.wp_leaves (writeTemporary_asks header payload) (Prog.returns_any _)) (fun _ => .inl) ?_
  rintro written middle ⟨-, same⟩
  have stopped : Disk.unreliable.wp (pure false)
      (fun done last => if done then Filled disk payload free last else Disk.Same Path.archived disk last)
      (fun last => Disk.Same Path.archived disk last ∨ Filled disk payload free last) middle := ⟨.inl same, same⟩
  split
  · exact stopped
  obtain ⟨verified, observed, agrees⟩ := verifyTemporary_observes middle header payload
  refine observed.then ?_
  split
  case isTrue => exact stopped
  case isFalse agreed =>
    obtain ⟨found, parsed, sums⟩ := agrees (by simpa using agreed)
    obtain ⟨bytes, file⟩ : ∃ bytes, middle.files .rejectedTemporary = some bytes := by
      cases file : middle.files .rejectedTemporary with
      | none => simp [file, parseFile] at parsed
      | some bytes => exact ⟨bytes, rfl⟩
    have filled : Filled disk payload free (middle.renamed .rejectedTemporary (.rejectedSlot free) bytes) := by
      refine ⟨absent, unsaved, ⟨listed, found.httpStatus.toInt32, ?_⟩, fun other differs => ?_⟩
      · rw [file] at parsed
        rw [Disk.files_renamed_target _ _ _ _ (by simp), parseRejected, parsed]
        simp [sums, sum]
      · rw [Disk.files_renamed_of_ne _ _ _ _ _ (by simp) (by simpa using differs), same (.rejectedSlot other) trivial]
    exact Disk.wp_unreliable_rename file ⟨.inr filled, filled⟩ ⟨.inl same, same⟩

inductive Preserved (queue : StoreForwardQueue) (disk : Disk) (payload : Bytes) :
    Bool × StoreForwardQueue → Disk → Prop
  | refused {last : Disk} (error : String) (same : Disk.Same Path.archived disk last) :
    Preserved queue disk payload (false, { queue with lastError := error }) last
  | known {slot : Nat} (on : queue.ready = true) (saved : Saved disk payload slot) :
    Preserved queue disk payload (true, { queue with lastError := "" }) disk
  | filled {slot : Nat} {last : Disk} (on : queue.ready = true) (filled : Filled disk payload slot last) :
    Preserved queue disk payload
      (true, { queue with rejectedRecords := queue.rejectedRecords + 1, lastError := "" }) last

theorem preserveRejected_wp (queue : StoreForwardQueue) (disk : Disk) (payload : Bytes) (httpStatus : Int32) :
    Disk.unreliable.wp (queue.preserveRejected payload httpStatus) (Preserved queue disk payload)
      (fun last => Disk.Same Path.archived disk last ∨ ∃ slot, Filled disk payload slot last) disk := by
  have same := Disk.Same.refl Path.archived disk
  unfold preserveRejected
  split
  case isTrue => exact ⟨.inl same, .refused _ same⟩
  case isFalse accepted =>
    have on : queue.ready = true := by
      cases on : queue.ready with
      | true => rfl
      | false => simp [on] at accepted
    obtain ⟨outcome, observed, searched⟩ :=
      @searchSlots_observes disk queue payload on _ (fun slot => List.mem_range.mp) kRejectedSlots
    refine observed.then ?_
    cases searched with
    | saved saved => exact ⟨.inl same, .known on saved⟩
    | @unsaved free unsaved absent =>
      dsimp only
      split
      case isTrue => exact ⟨.inl same, .refused _ same⟩
      case isFalse some =>
        obtain ⟨listed, absent⟩ := absent.resolve_left some
        have nowhere (slot : Nat) (saved : Saved disk payload slot) : False :=
          unsaved slot (List.mem_range.mpr saved.1) saved
        refine Model.wp_then (archive_wp rfl listed absent nowhere) (fun last cut => cut.imp_right fun filled => ⟨_, filled⟩) ?_
        intro done last reached
        cases done with
        | true => exact ⟨.inr ⟨_, reached⟩, .filled on reached⟩
        | false => exact ⟨.inl reached, .refused _ reached⟩

end StoreForwardQueue

end ApexiDevices
