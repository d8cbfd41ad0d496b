import ApexiDevices.Queue.Calls
import ApexiDevices.Shared.Budget

set_option autoImplicit false

/-!
# A batch is the beginning of the replay

`peekBatch` reads what `peek` and `pop` would deliver one record after another,
also where flash has been damaged since the records were written.
-/

namespace ApexiDevices

open Device

namespace StoreForwardQueue

inductive Walk where
  | on
  -- `break` out of the passes
  | broken
  -- `return` inside a pass
  | returned
  deriving DecidableEq

structure Gathered where
  payloads : List Bytes := []
  bytes : Nat := 0
  lastError : String
  walk : Walk := .on

section Source

variable (queue : StoreForwardQueue) (maximumRecords maximumBytes : Nat)

def gatherRecords : Nat → File → Gathered → Flash Gathered
  | 0, _, gathered => pure gathered
  | left + 1, file, gathered => do
    if gathered.payloads.length < maximumRecords then
      let (bytes, file) ← file.read RecordHeader.size
      let header := RecordHeader.ofBytes bytes
      if bytes.length != RecordHeader.size || !header.valid then
        return { gathered with lastError := "Queue batch header invalid", walk := .returned }
      if maximumBytes < gathered.bytes + header.length + 1 then
        return { gathered with walk := .returned }
      let (payload, file) ← readPayload false header.length header.length file []
      if payload.length != header.length || (checksum payload).toNat != header.checksum then
        return { gathered with lastError := "Queue batch checksum invalid", walk := .returned }
      gatherRecords left file
        { gathered with payloads := gathered.payloads ++ [payload], bytes := gathered.bytes + (payload.length + 1) }
    else
      return gathered

def gatherSegment (segment : Segment) (gathered : Gathered) : Flash Gathered := do
  if gathered.walk = .on ∧ gathered.payloads.length < maximumRecords ∧ queue.count segment ≠ 0 then
    let opened ← LittleFs.openRead (.segment segment)
    if !(opened && (← LittleFs.seek (.segment segment) (queue.metadata.head segment))) then
      return { gathered with lastError := "Queue batch seek failed", walk := .broken }
    gatherRecords maximumRecords maximumBytes (queue.count segment) ⟨.segment segment, queue.metadata.head segment⟩
      gathered
  else
    return gathered

/-- A `return` keeps the error it has set, also where some records were read. -/
def Gathered.error (gathered : Gathered) : String :=
  if gathered.walk ≠ .returned ∧ gathered.payloads ≠ [] then "" else gathered.lastError

structure Batch where
  found : Bool
  payloads : List Bytes
  queue : StoreForwardQueue

def peekBatch : Flash Batch := do
  if !queue.ready || queue.pendingRecords = 0 || maximumRecords = 0 then
    return ⟨false, [], queue⟩
  let maximumRecords := min maximumRecords 8
  let first := queue.oldestSegment
  let gathered ← queue.gatherSegment maximumRecords maximumBytes first { lastError := queue.lastError }
  let gathered ← queue.gatherSegment maximumRecords maximumBytes first.other gathered
  return ⟨!gathered.payloads.isEmpty, gathered.payloads, { queue with lastError := gathered.error }⟩

/-- What `peek` and `pop` deliver by turns, until a `peek` fails. -/
def drained (queue : StoreForwardQueue) : Nat → Flash (List Bytes)
  | 0 => pure []
  | rounds + 1 => do
    let peeked ← queue.peek
    if !peeked.found then
      return []
    let (popped, queue) ← peeked.queue.pop
    if !popped then
      return [peeked.payload]
    let rest ← drained queue rounds
    return peeked.payload :: rest

/-- The same on a copy of the queue and its filesystem. -/
def deliveries (disk : Disk) : List Bytes := ((queue.drained queue.pendingRecords).exec Disk.handle disk).1

end Source

/-- The payload of the record at a position, if header, length and checksum are right. -/
def recordAt (content : Bytes) (position : Nat) : Option Bytes :=
  let bytes := (content.drop position).take RecordHeader.size
  let header := RecordHeader.ofBytes bytes
  if bytes.length != RecordHeader.size || !header.valid then none
  else
    let payload := (content.drop (position + RecordHeader.size)).take header.length
    if payload.length != header.length || (checksum payload).toNat != header.checksum then none else some payload

def readable (content : Bytes) : Nat → Nat → List Bytes
  | _, 0 => []
  | position, count + 1 =>
    match recordAt content position with
    | none => []
    | some payload => payload :: readable content (position + (RecordHeader.size + payload.length)) count

variable {disk : Disk} {path : Path} {position : Nat} {queue : StoreForwardQueue}

theorem fileRead_any (length : Nat) : Disk.device.Observes disk (File.read ⟨path, position⟩ length)
    (((disk.content path).drop position).take length,
      ⟨path, position + (((disk.content path).drop position).take length).length⟩) := by
  simp only [Model.Observes, File.read, wp_read, Model.wp_pure, and_self]

theorem readPayload_any (polled : Bool) (rounds length : Nat) (payload : Bytes)
    (enough : length - payload.length ≤ rounds) :
    Disk.device.Observes disk (readPayload polled length rounds ⟨path, position⟩ payload)
      (payload ++ ((disk.content path).drop position).take (length - payload.length),
        ⟨path, position + (((disk.content path).drop position).take (length - payload.length)).length⟩) := by
  -- on the rounds left, of which there are at least as many as missing bytes
  induction rounds generalizing position payload with
  | zero =>
    have none : length - payload.length = 0 := Nat.le_zero.mp enough
    simp [Model.Observes, readPayload, none]
  | succ rounds ih =>
    rw [readPayload]
    by_cases more : payload.length < length
    case neg =>
      have none : length - payload.length = 0 := by omega
      simp [Model.Observes, more, none]
    rw [if_pos more]
    obtain ⟨rest, behind⟩ : ∃ rest, rest = (disk.content path).drop position := ⟨_, rfl⟩
    have onward : Disk.device.Observes disk
        (do
          let (bytes, file) ← File.read ⟨path, position⟩ (min 256 (length - payload.length))
          if bytes.isEmpty then
            return (payload, file)
          readPayload polled length rounds file (payload ++ bytes))
        (payload ++ rest.take (length - payload.length),
          ⟨path, position + (rest.take (length - payload.length)).length⟩) := by
      refine (fileRead_any _).then ?_
      rw [← behind]
      dsimp only
      -- the file may end inside the payload: what was read is then all there is
      by_cases ended : rest = []
      · simp [ended]
      obtain ⟨chunk, taken⟩ : ∃ chunk, chunk = rest.take (min 256 (length - payload.length)) := ⟨_, rfl⟩
      have size : chunk.length = min (min 256 (length - payload.length)) rest.length := by rw [taken, List.length_take]
      have positive : 0 < rest.length := List.length_pos_iff.mpr ended
      have some : chunk.isEmpty = false := by
        rw [List.isEmpty_eq_false_iff, ← List.length_pos_iff]
        omega
      have whole : rest.take (length - payload.length) =
          chunk ++ (rest.drop chunk.length).take (length - (payload ++ chunk).length) := by
        have parts : length - payload.length = chunk.length + (length - (payload ++ chunk).length) := by
          rw [List.length_append]
          omega
        have kept : rest.take chunk.length = chunk := by
          rw [size, ← List.take_take, List.take_length, ← taken]
        rw [parts, List.take_add, kept]
      have later := @ih (position + chunk.length) (payload ++ chunk) (by rw [List.length_append]; omega)
      rw [← List.drop_drop, ← behind, List.append_assoc, Nat.add_assoc, ← List.length_append, ← whole] at later
      rw [← taken]
      simp only [some, Bool.false_eq_true, if_false]
      exact later
    rw [behind] at onward
    cases polled with
    | false =>
      simp only [Bool.false_eq_true, if_false, Prog.pure_bind_eq, Bool.not_true]
      exact onward
    | true =>
      simp only [if_true, Model.Observes, wp_size, Prog.pure_bind_eq]
      by_cases available : position < (disk.content path).length
      · simp only [available, decide_true, Bool.not_true, Bool.false_eq_true, if_false]
        exact onward
      · have ended : (disk.content path).drop position = [] := List.drop_eq_nil_of_le (by omega)
        simp [available, ended]

theorem recordAt_past {content : Bytes} (past : content.length ≤ position) : recordAt content position = none := by
  simp [recordAt, List.drop_eq_nil_of_le past, RecordHeader.size]

theorem recordAt_closed
    (closed : ((disk.files path).isSome && decide (position ≤ (disk.content path).length)) = false) :
    recordAt (disk.content path) position = none := by
  apply recordAt_past
  by_contra before
  cases file : disk.files path with
  | none => simp [Disk.content, file] at before
  | some bytes =>
    simp only [file, Option.isSome_some, Bool.true_and, decide_eq_false_iff_not] at closed
    omega

@[simp] theorem readable_zero (content : Bytes) (position : Nat) : readable content position 0 = [] := rfl

theorem readable_none {content : Bytes} (damaged : recordAt content position = none) (count : Nat) :
    readable content position count = [] := by
  cases count with
  | zero => rfl
  | succ count => rw [readable, damaged]

theorem readable_some {content payload : Bytes} (record : recordAt content position = some payload) (count : Nat) :
    readable content position (count + 1) =
      payload :: readable content (position + (RecordHeader.size + payload.length)) count := by
  rw [readable, record]

theorem recordAt_record {content payload rest : Bytes} (storable : Storable payload)
    (here : content.drop position = record payload ++ rest) : recordAt content position = some payload := by
  have header : (content.drop position).take RecordHeader.size = (RecordHeader.ofPayload payload).bytes := by
    rw [here, record, List.append_assoc, List.take_left' (RecordHeader.bytes_length _)]
  have body : (content.drop (position + RecordHeader.size)).take payload.length = payload := by
    rw [← List.drop_drop, here, record, List.append_assoc, List.drop_left' (RecordHeader.bytes_length _),
      List.take_left]
  unfold recordAt
  simp [header, ofBytes_record payload storable, ofPayload_valid payload storable, body]

theorem readable_records {content rest : Bytes} {payloads : List Bytes} (count : Nat)
    (storable : ∀ payload ∈ payloads, Storable payload) (here : content.drop position = records payloads ++ rest) :
    readable content position (payloads.length + count) =
      payloads ++ readable content (position + (records payloads).length) count := by
  induction payloads generalizing position with
  | nil => rw [List.length_nil, Nat.zero_add, records_nil, List.length_nil, Nat.add_zero, List.nil_append]
  | cons payload others ih =>
    rw [records_cons, List.append_assoc] at here
    have later := ih (fun other member => storable other (List.mem_cons_of_mem _ member)) (drop_add_of_append here)
    rw [record_length] at later
    rw [List.length_cons, Nat.add_right_comm,
      readable_some (recordAt_record (storable payload List.mem_cons_self) here), later, records_cons,
      List.length_append, record_length, Nat.add_assoc position, List.cons_append]

def headRecord (queue : StoreForwardQueue) (disk : Disk) : Option Bytes :=
  if !queue.ready || queue.pendingRecords = 0 then none
  else recordAt (disk.content (.segment queue.oldestSegment)) (queue.metadata.head queue.oldestSegment)

def peekedAs (queue : StoreForwardQueue) (error : String) : Option Bytes → Peeked
  | none => ⟨false, [], { queue with lastError := error }⟩
  | some payload => ⟨true, payload, { queue with lastError := "" }⟩

theorem peek_any (queue : StoreForwardQueue) (disk : Disk) :
    ∃ error, Disk.device.Observes disk queue.peek (queue.peekedAs error (queue.headRecord disk)) := by
  unfold peek headRecord
  split
  case isTrue => exact ⟨queue.lastError, rfl, rfl, rfl⟩
  simp only [Model.Observes, wp_openRead, wp_seek]
  generalize queue.oldestSegment = segment
  generalize queue.metadata.head segment = position
  cases opened : (disk.files (.segment segment)).isSome && decide (position ≤ (disk.content (.segment segment)).length)
  case false => exact ⟨"Queue read seek failed", recordAt_closed opened ▸ ⟨rfl, rfl, rfl⟩⟩
  simp only [Bool.not_true, Bool.false_eq_true, if_false]
  unfold recordAt
  obtain ⟨bytes, header⟩ : ∃ bytes, bytes = ((disk.content (.segment segment)).drop position).take RecordHeader.size :=
    ⟨_, rfl⟩
  by_cases invalid : (bytes.length != RecordHeader.size || !(RecordHeader.ofBytes bytes).valid) = true
  case pos =>
    refine ⟨"Queue record header invalid", (fileRead_any _).then ?_⟩
    simp only [← header, invalid, if_true]
    exact ⟨rfl, rfl, rfl⟩
  obtain ⟨size, valid⟩ : bytes.length = RecordHeader.size ∧ (RecordHeader.ofBytes bytes).valid = true := by
    simpa using invalid
  refine ⟨"Queue record checksum invalid", (fileRead_any _).then ?_⟩
  simp only [← header, size, valid, bne_self_eq_false, Bool.not_true, Bool.or_self, Bool.false_eq_true, if_false]
  have body := @readPayload_any disk (.segment segment) (position + RecordHeader.size) true
    (RecordHeader.ofBytes bytes).length (RecordHeader.ofBytes bytes).length [] (Nat.sub_le _ _)
  refine body.then ?_
  simp only [List.nil_append, List.length_nil, Nat.sub_zero]
  split <;> exact ⟨rfl, rfl, rfl⟩

theorem oldest_count (some : queue.pendingRecords ≠ 0) : queue.count queue.oldestSegment ≠ 0 := by
  unfold oldestSegment
  dsimp only
  split
  · omega
  · unfold pendingRecords at some
    cases active : queue.metadata.activeSegment <;> simp_all [Segment.other]

def unread (queue : StoreForwardQueue) (disk : Disk) (segment : Segment) : List Bytes :=
  readable (disk.content (.segment segment)) (queue.metadata.head segment) (queue.count segment)

/-- The older segment first; the active one follows where all of the older reads back. -/
def deliverable (queue : StoreForwardQueue) (disk : Disk) : List Bytes :=
  if (queue.unread disk queue.metadata.activeSegment.other).length = queue.count queue.metadata.activeSegment.other then
    queue.unread disk queue.metadata.activeSegment.other ++ queue.unread disk queue.metadata.activeSegment
  else queue.unread disk queue.metadata.activeSegment.other

theorem unread_none {segment : Segment} (none : queue.count segment = 0) : queue.unread disk segment = [] := by
  rw [unread, none, readable_zero]

structure Behind (queue popped : StoreForwardQueue) (disk last : Disk) : Prop where
  ready : popped.ready = true
  active : popped.metadata.activeSegment = queue.metadata.activeSegment
  count : popped.count = Function.update queue.count queue.oldestSegment (queue.count queue.oldestSegment - 1)
  here : popped.unread last queue.oldestSegment = (queue.unread disk queue.oldestSegment).tail
  others : ∀ segment, segment ≠ queue.oldestSegment → popped.unread last segment = queue.unread disk segment

theorem headRecord_some {payload : Bytes} (head : queue.headRecord disk = some payload) :
    queue.ready = true ∧ queue.pendingRecords ≠ 0 ∧
      recordAt (disk.content (.segment queue.oldestSegment)) (queue.metadata.head queue.oldestSegment) = some payload := by
  unfold headRecord at head
  split at head
  · cases head
  · rename_i open_
    simp only [Bool.or_eq_true, Bool.not_eq_true', decide_eq_true_eq, not_or, Bool.not_eq_false] at open_
    exact ⟨open_.1, open_.2, head⟩

theorem unread_head {payload : Bytes} (head : queue.headRecord disk = some payload) :
    queue.unread disk queue.oldestSegment = payload :: readable (disk.content (.segment queue.oldestSegment))
      (queue.metadata.head queue.oldestSegment + (RecordHeader.size + payload.length))
      (queue.count queue.oldestSegment - 1) := by
  obtain ⟨-, some, record⟩ := headRecord_some head
  have counted := oldest_count some
  obtain ⟨count, more⟩ := Nat.exists_eq_succ_of_ne_zero counted
  rw [unread, more, Nat.succ_eq_add_one, readable_some record, Nat.add_sub_cancel]

theorem behind_of {popped : StoreForwardQueue} {last : Disk} {payload : Bytes} (head : queue.headRecord disk = some payload)
    (ready : popped.ready = true) (active : popped.metadata.activeSegment = queue.metadata.activeSegment)
    (count : popped.count = Function.update queue.count queue.oldestSegment (queue.count queue.oldestSegment - 1))
    (here : popped.count queue.oldestSegment ≠ 0 → popped.metadata.head queue.oldestSegment =
        queue.metadata.head queue.oldestSegment + (RecordHeader.size + payload.length) ∧
      last.content (.segment queue.oldestSegment) = disk.content (.segment queue.oldestSegment))
    (others : ∀ segment, segment ≠ queue.oldestSegment → popped.metadata.head segment = queue.metadata.head segment ∧
      last.content (.segment segment) = disk.content (.segment segment)) :
    queue.Behind popped disk last := by
  refine ⟨ready, active, count, ?_, fun segment other => ?_⟩
  · rw [unread_head head, List.tail_cons]
    by_cases drained : popped.count queue.oldestSegment = 0
    · rw [unread_none drained]
      rw [count, Function.update_self] at drained
      rw [drained, readable_zero]
    · obtain ⟨moved, same⟩ := here drained
      rw [unread, moved, same, count, Function.update_self]
  · obtain ⟨moved, same⟩ := others segment other
    rw [unread, unread, moved, same, count, Function.update_of_ne other]

theorem pop_any {payload : Bytes} (head : queue.headRecord disk = some payload) :
    Disk.device.wp queue.pop (fun popped last => popped.1 = true ∧ queue.Behind popped.2 disk last) (fun _ => True)
      disk := by
  have rest := unread_head head
  obtain ⟨on, some, record⟩ := headRecord_some head
  have counted := oldest_count some
  unfold pop
  have more : ¬(!queue.ready || decide (queue.pendingRecords = 0)) = true := by simp [on, some]
  rw [if_neg more]
  have opened : ((disk.files (.segment queue.oldestSegment)).isSome && decide (queue.metadata.head queue.oldestSegment ≤
      (disk.content (.segment queue.oldestSegment)).length)) = true := by
    by_contra closed
    rw [recordAt_closed (Bool.eq_false_iff.mpr closed)] at record
    cases record
  simp only [wp_openRead, wp_seek, opened, Bool.not_true, Bool.false_eq_true, if_false]
  obtain ⟨bytes, header⟩ : ∃ bytes, bytes = ((disk.content (.segment queue.oldestSegment)).drop
      (queue.metadata.head queue.oldestSegment)).take RecordHeader.size := ⟨_, rfl⟩
  obtain ⟨size, valid, length⟩ : bytes.length = RecordHeader.size ∧ (RecordHeader.ofBytes bytes).valid = true ∧
      (RecordHeader.ofBytes bytes).length = payload.length := by
    unfold recordAt at record
    simp only [← header] at record
    split at record
    · cases record
    rename_i sound
    split at record
    · cases record
    rename_i whole
    obtain rfl := Option.some.inj record
    simp only [Bool.or_eq_true, not_or, bne_iff_ne, ne_eq, not_not, Bool.not_eq_true', Bool.not_eq_false] at sound whole
    exact ⟨sound.1, sound.2, whole.1.symm⟩
  refine (fileRead_any _).then ?_
  simp only [← header, size, valid, length, bne_self_eq_false, Bool.not_true, Bool.or_self, Bool.false_eq_true, if_false]
  have behind := @behind_of disk queue
  have ready : (queue.advanced queue.oldestSegment (RecordHeader.size + payload.length) false).ready = true := on
  have active : (queue.advanced queue.oldestSegment (RecordHeader.size + payload.length) false).metadata.activeSegment =
      queue.metadata.activeSegment := rfl
  have count : (queue.advanced queue.oldestSegment (RecordHeader.size + payload.length) false).count =
      Function.update queue.count queue.oldestSegment (queue.count queue.oldestSegment - 1) := rfl
  have moved : (queue.advanced queue.oldestSegment (RecordHeader.size + payload.length) false).metadata.head =
      Function.update queue.metadata.head queue.oldestSegment
        (queue.metadata.head queue.oldestSegment + (RecordHeader.size + payload.length)) := rfl
  generalize queue.advanced queue.oldestSegment (RecordHeader.size + payload.length) false = popped
    at ready active count moved ⊢
  refine Model.wp_bind.mpr (saveMetadata_wp popped (fun _ _ => trivial) ?_)
  intro saved savedStored
  have contents (segment : Segment) : saved.content (.segment segment) = disk.content (.segment segment) := by
    rw [← Disk.stored_content, savedStored]
    rfl
  refine ⟨trivial, ?_⟩
  simp only [Bool.not_true, Bool.false_eq_true, if_false]
  -- with its last record gone the segment is truncated, and the metadata saved again
  by_cases emptied : popped.count queue.oldestSegment = 0
  case neg =>
    simp only [emptied, if_false]
    refine ⟨trivial, rfl, behind head ready active count (fun _ => ⟨?_, contents _⟩) fun segment other => ⟨?_, contents _⟩⟩
    · exact (congrFun moved _).trans (Function.update_self _ _ _)
    · exact (congrFun moved _).trans (Function.update_of_ne other _ _)
  simp only [emptied, if_true]
  refine Model.wp_bind.mpr (truncateSegment_wp _ queue.oldestSegment (fun _ _ => trivial) ?_)
  intro middle truncated
  refine ⟨trivial, ?_⟩
  simp only [Bool.not_true, Bool.false_eq_true, if_false]
  refine Model.wp_bind.mpr (saveMetadata_wp _ (fun _ _ => trivial) ?_)
  intro last resaved
  refine ⟨trivial, trivial, rfl, behind head ready active ?_ (fun more => ?_) fun segment other => ⟨?_, ?_⟩⟩
  · rw [count, Function.update_self] at emptied
    simp [StoreForwardQueue.emptied, measured, count, emptied]
  · exact absurd (Function.update_self queue.oldestSegment 0 popped.count) more
  · exact (Function.update_of_ne other _ _).trans ((congrFun moved _).trans (Function.update_of_ne other _ _))
  · rw [← contents segment, ← Disk.stored_content, ← Disk.stored_content, resaved, truncated]
    simp [Stored.content, Stored.commit, Stored.reclaim, other]

theorem deliverable_behind {popped : StoreForwardQueue} {last : Disk} {payload : Bytes}
    (head : queue.headRecord disk = some payload) (behind : queue.Behind popped disk last) :
    queue.deliverable disk = payload :: popped.deliverable last := by
  have rest := unread_head head
  have here := behind.here
  have others := behind.others
  have counted := oldest_count (headRecord_some head).2.1
  have count := behind.count
  rw [deliverable, deliverable, behind.active, count]
  by_cases older : queue.count queue.metadata.activeSegment.other > 0
  case pos =>
    have oldest : queue.oldestSegment = queue.metadata.activeSegment.other := by simp [oldestSegment, older]
    rw [oldest] at rest here others
    rw [oldest, Function.update_self, others queue.metadata.activeSegment (by simp), here, rest, List.tail_cons]
    simp only [List.length_cons]
    by_cases whole : (readable (disk.content (.segment queue.metadata.activeSegment.other))
        (queue.metadata.head queue.metadata.activeSegment.other + (RecordHeader.size + payload.length))
        (queue.count queue.metadata.activeSegment.other - 1)).length + 1 = queue.count queue.metadata.activeSegment.other
    · rw [if_pos whole, if_pos (by omega), List.cons_append]
    · rw [if_neg whole, if_neg (by omega)]
  case neg =>
    have oldest : queue.oldestSegment = queue.metadata.activeSegment := by simp [oldestSegment, older]
    rw [oldest] at rest here others
    have none : queue.unread disk queue.metadata.activeSegment.other = [] := unread_none (by omega)
    rw [oldest, Function.update_of_ne (by simp), others queue.metadata.activeSegment.other (by simp), none, here, rest]
    simp [show queue.count queue.metadata.activeSegment.other = 0 by omega]

theorem deliverable_none (on : queue.ready = true) (none : queue.headRecord disk = none) : queue.deliverable disk = [] := by
  have unread : queue.unread disk queue.oldestSegment = [] := by
    by_cases some : queue.pendingRecords = 0
    · refine unread_none ?_
      unfold pendingRecords at some
      cases queue.oldestSegment <;> omega
    · refine readable_none ?_ _
      simpa [headRecord, on, some] using none
  unfold deliverable
  by_cases older : queue.count queue.metadata.activeSegment.other > 0
  case pos =>
    have oldest : queue.oldestSegment = queue.metadata.activeSegment.other := by simp [oldestSegment, older]
    rw [oldest] at unread
    rw [unread, if_neg (by simp; omega)]
  case neg =>
    have oldest : queue.oldestSegment = queue.metadata.activeSegment := by simp [oldestSegment, older]
    rw [oldest] at unread
    have drained : queue.unread disk queue.metadata.activeSegment.other = [] := unread_none (by omega)
    rw [unread, drained, List.append_nil, ite_self]

theorem Behind.pendingRecords {popped : StoreForwardQueue} {last : Disk} (some : queue.pendingRecords ≠ 0)
    (behind : queue.Behind popped disk last) : popped.pendingRecords + 1 = queue.pendingRecords := by
  have counted := oldest_count some
  unfold StoreForwardQueue.pendingRecords
  rw [behind.count]
  cases oldest : queue.oldestSegment <;> simp [oldest] at counted ⊢ <;> omega

theorem drained_any (on : queue.ready = true) (rounds : Nat) (total : queue.pendingRecords = rounds) :
    Disk.device.wp (queue.drained rounds) (fun payloads _ => payloads = queue.deliverable disk) (fun _ => True)
      disk := by
  induction rounds generalizing queue disk with
  | zero =>
    have none : queue.headRecord disk = none := by simp [headRecord, total]
    exact ⟨trivial, (deliverable_none on none).symm⟩
  | succ rounds ih =>
    obtain ⟨error, peeks⟩ := peek_any queue disk
    refine peeks.then ?_
    cases head : queue.headRecord disk with
    | none => exact ⟨trivial, (deliverable_none on head).symm⟩
    | some payload =>
      have pending : queue.pendingRecords ≠ 0 := by omega
      simp only [peekedAs, Bool.not_true, Bool.false_eq_true, if_false]
      refine Model.wp_then (pop_any (show { queue with lastError := "" }.headRecord disk = some payload from head))
        (fun _ _ => trivial) ?_
      rintro ⟨done, popped⟩ last ⟨rfl, behind⟩
      have behind : queue.Behind popped disk last :=
        ⟨behind.ready, behind.active, behind.count, behind.here, behind.others⟩
      have fewer := behind.pendingRecords pending
      simp only [Bool.not_true, Bool.false_eq_true, if_false]
      refine Model.wp_then (ih behind.ready (by omega)) (fun _ _ => trivial) ?_
      rintro payloads after rfl
      exact ⟨trivial, (deliverable_behind head behind).symm⟩

/-- What a payload takes in a batch, with its separator. -/
def separated (payload : Bytes) : Nat := payload.length + 1

/-- The beginning of a segment's records has been gathered; `whole` says that its records all read back. -/
structure Gathers (maximumRecords maximumBytes : Nat) (records : List Bytes) (whole : Prop) (taken : List Bytes)
    (gathered last : Gathered) : Prop where
  chosen : taken = withinBudget separated (maximumRecords - gathered.payloads.length) (maximumBytes - gathered.bytes) records
  payloads : last.payloads = gathered.payloads ++ taken
  bytes : last.bytes = gathered.bytes + (taken.map separated).sum
  onward : last.walk = .on → maximumRecords ≤ last.payloads.length ∨ whole ∧ taken = records
  stopped : last.walk ≠ .on → ¬whole ∨ taken ≠ records

section Gather

variable {maximumRecords maximumBytes : Nat} {gathered : Gathered}

theorem gatherRecords_any (left : Nat) (on : gathered.walk = .on) :
    ∃ last, Disk.device.Observes disk (gatherRecords maximumRecords maximumBytes left ⟨path, position⟩ gathered) last ∧
      ∃ taken, Gathers maximumRecords maximumBytes (readable (disk.content path) position left)
        ((readable (disk.content path) position left).length = left) taken gathered last := by
  induction left generalizing position gathered with
  | zero =>
    refine ⟨gathered, ⟨rfl, rfl, rfl⟩, [], by simp, by simp, by simp, fun _ => .inr ⟨rfl, rfl⟩, fun off => absurd on off⟩
  | succ left ih =>
    rw [gatherRecords]
    by_cases room : gathered.payloads.length < maximumRecords
    case neg =>
      rw [if_neg room]
      refine ⟨gathered, ⟨rfl, rfl, rfl⟩, [], ?_, by simp, by simp, fun _ => .inl (Nat.le_of_not_lt room),
        fun off => absurd on off⟩
      rw [Nat.sub_eq_zero_of_le (Nat.le_of_not_lt room), withinBudget_none]
    rw [if_pos room]
    -- A record that does not read back ends the walk before anything more is taken.
    have damaged (last : Gathered) (none : recordAt (disk.content path) position = none)
        (payloads : last.payloads = gathered.payloads) (bytes : last.bytes = gathered.bytes) (off : last.walk = .returned) :
        Gathers maximumRecords maximumBytes (readable (disk.content path) position (left + 1))
          ((readable (disk.content path) position (left + 1)).length = left + 1) [] gathered last := by
      rw [readable_none none]
      exact ⟨by simp, by simp [payloads], by simp [bytes], fun on => (by rw [off] at on; cases on),
        fun _ => .inl (by simp)⟩
    obtain ⟨bytes, header⟩ : ∃ bytes, bytes = ((disk.content path).drop position).take RecordHeader.size := ⟨_, rfl⟩
    by_cases invalid : (bytes.length != RecordHeader.size || !(RecordHeader.ofBytes bytes).valid) = true
    case pos =>
      refine ⟨{ gathered with lastError := "Queue batch header invalid", walk := .returned }, (fileRead_any _).then ?_,
        [], damaged _ ?_ rfl rfl rfl⟩
      · simp only [← header, invalid, if_true]
        exact ⟨rfl, rfl, rfl⟩
      · simp only [recordAt, ← header, invalid, if_true]
    obtain ⟨size, valid⟩ : bytes.length = RecordHeader.size ∧ (RecordHeader.ofBytes bytes).valid = true := by
      simpa using invalid
    obtain ⟨body, behind⟩ : ∃ body, body = ((disk.content path).drop (position + RecordHeader.size)).take
      (RecordHeader.ofBytes bytes).length := ⟨_, rfl⟩
    have record : recordAt (disk.content path) position =
        if body.length != (RecordHeader.ofBytes bytes).length ||
          (checksum body).toNat != (RecordHeader.ofBytes bytes).checksum then none else some body := by
      simp only [recordAt, ← header, size, valid, bne_self_eq_false, Bool.not_true, Bool.or_self, Bool.false_eq_true,
        if_false, behind]
    have more : maximumRecords - gathered.payloads.length = maximumRecords - (gathered.payloads.length + 1) + 1 := by omega
    by_cases beyond : maximumBytes < gathered.bytes + (RecordHeader.ofBytes bytes).length + 1
    case pos =>
      refine ⟨{ gathered with walk := .returned }, (fileRead_any _).then ?_, [], ?_⟩
      · simp only [← header, size, valid, bne_self_eq_false, Bool.not_true, Bool.or_self, Bool.false_eq_true, if_false,
          beyond, if_true]
        exact ⟨rfl, rfl, rfl⟩
      split at record
      · exact damaged _ record rfl rfl rfl
      rename_i sound
      have length : body.length = (RecordHeader.ofBytes bytes).length := by
        simp only [Bool.or_eq_true, not_or, bne_iff_ne, ne_eq, not_not] at sound
        exact sound.1
      rw [readable_some record]
      refine ⟨?_, by simp, by simp, fun on => (by cases on), fun _ => .inr (by simp)⟩
      rw [more, withinBudget, if_neg]
      unfold separated
      omega
    have read := @readPayload_any disk path (position + RecordHeader.size) false (RecordHeader.ofBytes bytes).length
      (RecordHeader.ofBytes bytes).length [] (Nat.sub_le _ _)
    rw [List.nil_append, List.length_nil, Nat.sub_zero, ← behind] at read
    split at record
    case isTrue unsound =>
      refine ⟨{ gathered with lastError := "Queue batch checksum invalid", walk := .returned }, (fileRead_any _).then ?_,
        [], damaged _ record rfl rfl rfl⟩
      simp only [← header, size, valid, bne_self_eq_false, Bool.not_true, Bool.or_self, Bool.false_eq_true, if_false, beyond]
      refine read.then ?_
      simp only [unsound, if_true]
      exact ⟨rfl, rfl, rfl⟩
    case isFalse sound =>
      have length : body.length = (RecordHeader.ofBytes bytes).length := by
        simp only [Bool.or_eq_true, not_or, bne_iff_ne, ne_eq, not_not] at sound
        exact sound.1
      obtain ⟨last, observed, taken, gathers⟩ := @ih (position + (RecordHeader.size + body.length))
        { gathered with
          payloads := gathered.payloads ++ [body]
          bytes := gathered.bytes + (body.length + 1) } on
      refine ⟨last, (fileRead_any _).then ?_, body :: taken, ?_⟩
      · simp only [← header, size, valid, bne_self_eq_false, Bool.not_true, Bool.or_self, Bool.false_eq_true, if_false, beyond]
        refine read.then ?_
        simp only [sound, Bool.false_eq_true, if_false, Nat.add_assoc]
        exact observed
      rw [readable_some record]
      have first := gathers.chosen
      simp only [List.length_append, List.length_singleton] at first
      refine ⟨?_, by simp [gathers.payloads], ?_, fun on => (gathers.onward on).imp_right ?_, fun off => ?_⟩
      · rw [more, withinBudget, if_pos (by unfold separated; omega), first]
        congr 2
        unfold separated
        omega
      · rw [gathers.bytes, List.map_cons, List.sum_cons, separated, Nat.add_assoc]
      · rintro ⟨whole, same⟩
        exact ⟨by rw [List.length_cons, whole], by rw [same]⟩
      · refine (gathers.stopped off).imp (fun cut whole => cut ?_) fun other same => other (List.cons.inj same).2
        rw [List.length_cons] at whole
        omega

theorem gatherSegment_any (queue : StoreForwardQueue) (segment : Segment) (on : gathered.walk = .on) :
    ∃ last, Disk.device.Observes disk (queue.gatherSegment maximumRecords maximumBytes segment gathered) last ∧
      ∃ taken, Gathers maximumRecords maximumBytes (queue.unread disk segment)
        ((queue.unread disk segment).length = queue.count segment) taken gathered last := by
  unfold gatherSegment
  by_cases open_ : gathered.walk = .on ∧ gathered.payloads.length < maximumRecords ∧ queue.count segment ≠ 0
  case neg =>
    rw [if_neg open_]
    refine ⟨gathered, ⟨rfl, rfl, rfl⟩, [], ?_, by simp, by simp, fun _ => ?_, fun off => absurd on off⟩
    · by_cases empty : queue.count segment = 0
      · rw [unread_none empty, withinBudget_nil]
      · have full : maximumRecords ≤ gathered.payloads.length := Nat.le_of_not_lt fun room => open_ ⟨on, room, empty⟩
        rw [Nat.sub_eq_zero_of_le full, withinBudget_none]
    · by_cases empty : queue.count segment = 0
      · exact .inr ⟨by rw [unread_none empty, empty]; rfl, (unread_none empty).symm⟩
      · exact .inl (Nat.le_of_not_lt fun room => open_ ⟨on, room, empty⟩)
  rw [if_pos open_]
  cases opened : (disk.files (.segment segment)).isSome &&
      decide (queue.metadata.head segment ≤ (disk.content (.segment segment)).length)
  case false =>
    refine ⟨{ gathered with lastError := "Queue batch seek failed", walk := .broken }, ?_, [], ?_⟩
    · simp only [Model.Observes, wp_openRead, wp_seek, opened, Bool.not_false, if_true]
      exact ⟨rfl, rfl, rfl⟩
    · rw [unread, readable_none (recordAt_closed opened)]
      refine ⟨by simp, by simp, by simp, fun impossible => (by cases impossible), fun _ => .inl fun whole => ?_⟩
      exact open_.2.2 whole.symm
  case true =>
    obtain ⟨last, observed, gathers⟩ := @gatherRecords_any disk (.segment segment) (queue.metadata.head segment)
      maximumRecords maximumBytes gathered (queue.count segment) on
    refine ⟨last, ?_, gathers⟩
    simp only [Model.Observes, wp_openRead, wp_seek, opened, Bool.not_true, Bool.false_eq_true, if_false]
    exact observed

theorem gatherSegment_off (queue : StoreForwardQueue) (segment : Segment) (off : gathered.walk ≠ .on) :
    Disk.device.Observes disk (queue.gatherSegment maximumRecords maximumBytes segment gathered) gathered := by
  unfold gatherSegment
  rw [if_neg fun open_ => off open_.1]
  exact ⟨rfl, rfl, rfl⟩

theorem gather_deliverable (queue : StoreForwardQueue) (disk : Disk) (maximumRecords maximumBytes : Nat)
    (lastError : String) : ∃ gathered : Gathered, Disk.device.Observes disk (do
      let gathered ← queue.gatherSegment maximumRecords maximumBytes queue.oldestSegment { lastError }
      queue.gatherSegment maximumRecords maximumBytes queue.oldestSegment.other gathered) gathered ∧
        gathered.payloads = withinBudget separated maximumRecords maximumBytes (queue.deliverable disk) := by
  obtain ⟨first, observed, taken, gathers⟩ := @gatherSegment_any disk maximumRecords maximumBytes { lastError } queue
    queue.oldestSegment rfl
  have chosen := gathers.chosen
  have payloads := gathers.payloads
  have bytes := gathers.bytes
  simp only [List.length_nil, Nat.sub_zero, List.nil_append, Nat.zero_add] at chosen payloads bytes
  -- The deliverable records are those of the oldest segment and, behind all of them, those of the other.
  have order : queue.deliverable disk = if (queue.unread disk queue.oldestSegment).length = queue.count queue.oldestSegment
      then queue.unread disk queue.oldestSegment ++ queue.unread disk queue.oldestSegment.other
      else queue.unread disk queue.oldestSegment := by
    unfold deliverable
    by_cases older : queue.count queue.metadata.activeSegment.other > 0
    case pos =>
      have oldest : queue.oldestSegment = queue.metadata.activeSegment.other := by simp [oldestSegment, older]
      rw [oldest, Segment.other_other]
    case neg =>
      have oldest : queue.oldestSegment = queue.metadata.activeSegment := by simp [oldestSegment, older]
      have none : queue.unread disk queue.metadata.activeSegment.other = [] := unread_none (by omega)
      rw [oldest, none, List.nil_append, List.append_nil, ite_self, if_pos]
      rw [List.length_nil]
      omega
  have ended (stopped : ¬((queue.unread disk queue.oldestSegment).length = queue.count queue.oldestSegment) ∨
      taken ≠ queue.unread disk queue.oldestSegment) :
      taken = withinBudget separated maximumRecords maximumBytes (queue.deliverable disk) := by
    rw [order]
    split
    case isTrue whole =>
      rw [withinBudget_append_of_ne, chosen]
      exact chosen ▸ stopped.resolve_left fun cut => cut whole
    case isFalse => exact chosen
  by_cases on : first.walk = .on
  case neg =>
    refine ⟨first, observed.then (gatherSegment_off queue _ on), payloads.trans (ended ?_)⟩
    exact gathers.stopped on
  obtain ⟨second, later, more, behind⟩ := @gatherSegment_any disk maximumRecords maximumBytes first queue
    queue.oldestSegment.other on
  refine ⟨second, observed.then later, ?_⟩
  rw [behind.payloads, behind.chosen, bytes, payloads]
  rcases gathers.onward on with full | ⟨whole, all⟩
  · rw [payloads] at full
    rw [Nat.sub_eq_zero_of_le full, withinBudget_none, List.append_nil]
    by_cases stopped : ¬((queue.unread disk queue.oldestSegment).length = queue.count queue.oldestSegment) ∨
        taken ≠ queue.unread disk queue.oldestSegment
    · exact ended stopped
    · rw [order, if_pos (by tauto), withinBudget_full (chosen ▸ full), ← chosen]
  · rw [order, if_pos whole, withinBudget_append_of_eq (all ▸ chosen.symm), all]

end Gather

/-- A batch is the longest beginning, within its limits, of what `peek` and `pop` would deliver, and reading it
changes nothing but the error text. -/
theorem peekBatch_agrees (queue : StoreForwardQueue) (disk : Disk) (maximumRecords maximumBytes : Nat) :
    ∃ batch error, Disk.device.Observes disk (queue.peekBatch maximumRecords maximumBytes)
        ⟨!batch.isEmpty, batch, { queue with lastError := error }⟩ ∧
      LongestWithin separated (min maximumRecords 8) maximumBytes (queue.deliveries disk) batch := by
  have delivered : queue.ready = true → queue.deliveries disk = queue.deliverable disk := by
    intro on
    exact Model.exec_wp (drained_any on queue.pendingRecords rfl)
  unfold peekBatch
  by_cases closed : (!queue.ready || decide (queue.pendingRecords = 0) || decide (maximumRecords = 0)) = true
  case pos =>
    rw [if_pos closed]
    refine ⟨[], queue.lastError, ⟨rfl, rfl, rfl⟩, ?_⟩
    have nothing : withinBudget separated (min maximumRecords 8) maximumBytes (queue.deliveries disk) = [] := by
      simp only [Bool.or_eq_true, Bool.not_eq_true', decide_eq_true_eq] at closed
      rcases closed with (off | none) | zero
      · have silent : queue.deliveries disk = [] := by
          unfold deliveries
          cases queue.pendingRecords with
          | zero => rfl
          | succ rounds =>
            have stops : Disk.device.wp (queue.drained (rounds + 1)) (fun payloads _ => payloads = []) (fun _ => True)
                disk := (peek_closed off).then ⟨trivial, rfl⟩
            exact Model.exec_wp stops
        rw [silent, withinBudget_nil]
      · have silent : queue.deliveries disk = [] := by
          rw [deliveries, none]
          rfl
        rw [silent, withinBudget_nil]
      · rw [zero, Nat.zero_min, withinBudget_none]
    exact nothing ▸ withinBudget_longest _ _ _
  rw [if_neg closed]
  simp only [Bool.or_eq_true, Bool.not_eq_true', decide_eq_true_eq, not_or, Bool.not_eq_false] at closed
  obtain ⟨gathered, observed, payloads⟩ :=
    gather_deliverable queue disk (min maximumRecords 8) maximumBytes queue.lastError
  rw [← delivered closed.1.1] at payloads
  refine ⟨gathered.payloads, gathered.error, ?_, payloads ▸ withinBudget_longest _ _ _⟩
  dsimp only
  rw [← Prog.bind_bind_eq]
  exact observed.then ⟨rfl, rfl, rfl⟩

theorem deliverable_working {payloads : List Bytes} (working : Working queue disk.stored payloads) :
    queue.deliverable disk = payloads := by
  obtain ⟨pending, ready, order⟩ := working
  have whole (segment : Segment) : queue.unread disk segment = pending segment := by
    have bytes := (pending_bytes (ready.segment segment)).2.2
    rw [unread, (ready.segment segment).count]
    have reads := @readable_records (queue.metadata.head segment) (disk.content (.segment segment)) []
      (pending segment) 0 (ready.storable segment) (by rw [bytes, List.append_nil])
    rwa [Nat.add_zero, readable_zero, List.append_nil] at reads
  rw [deliverable, whole, whole, (ready.segment _).count, if_pos rfl]
  exact order

theorem peekBatch_working {payloads : List Bytes} (working : Working queue disk.stored payloads)
    (maximumRecords maximumBytes : Nat) : ∃ batch error,
      Disk.device.Observes disk (queue.peekBatch maximumRecords maximumBytes)
          ⟨!batch.isEmpty, batch, { queue with lastError := error }⟩ ∧
        LongestWithin separated (min maximumRecords 8) maximumBytes payloads batch := by
  obtain ⟨batch, error, observed, longest⟩ := peekBatch_agrees queue disk maximumRecords maximumBytes
  have on : queue.ready = true := working.elim fun _ working => working.1.ready
  have delivered : queue.deliveries disk = queue.deliverable disk :=
    Model.exec_wp (drained_any on queue.pendingRecords rfl)
  rw [delivered, deliverable_working working] at longest
  exact ⟨batch, error, observed, longest⟩

end StoreForwardQueue

end ApexiDevices
