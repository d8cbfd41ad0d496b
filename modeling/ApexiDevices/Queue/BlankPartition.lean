import ApexiDevices.Queue.ArchiveBoot
import ApexiDevices.Shared.Traces

set_option autoImplicit false

/-!
# Formatting an erased partition

`BlankPartition::verify` reads a partition from end to end, and only what it
has found erased is formatted.
-/

namespace ApexiDevices

open Device

namespace BlankPartition

/-- The whole of a partition is read; `verifyBlank` is the loop. -/
def verify (size : Nat) : Flash Bool :=
  if size = 0 then pure false else StoreForwardQueue.verifyBlank size size 0

structure Read where
  offset : Nat
  length : Nat
  -- nothing when the read has failed
  bytes : Option Bytes

namespace Read

def exchange (read : Read) : Prog.Exchange LittleFs := ⟨.readPartition read.offset read.length, read.bytes⟩

def covers (read : Read) (position : Nat) : Bool := read.offset ≤ position && position < read.offset + read.length

def Erased (read : Read) : Prop := ∃ bytes, read.bytes = some bytes ∧ ∀ byte ∈ bytes, byte = 0xff

end Read

inductive Consecutive : Nat → List Read → Nat → Prop
  | none (position : Nat) : Consecutive position [] position
  | next {read : Read} {rest : List Read} {stop : Nat}
    (later : Consecutive (read.offset + read.length) rest stop) : Consecutive read.offset (read :: rest) stop

theorem Consecutive.le {start stop : Nat} {reads : List Read} (consecutive : Consecutive start reads stop) :
    start ≤ stop := by
  induction consecutive with
  | none => exact Nat.le_refl _
  | next later ih => exact (Nat.le_add_right _ _).trans ih

theorem Consecutive.covered {start stop : Nat} {reads : List Read} (consecutive : Consecutive start reads stop)
    (position : Nat) : reads.countP (·.covers position) = if start ≤ position ∧ position < stop then 1 else 0 := by
  induction consecutive with
  | none => simp
  | @next read rest stop later ih =>
    have ordered := later.le
    rw [List.countP_cons, ih, Read.covers]
    simp only [Bool.and_eq_true, decide_eq_true_eq]
    split <;> split <;> split <;> omega

theorem Consecutive.bounded {start stop : Nat} {reads : List Read} (consecutive : Consecutive start reads stop) :
    ∀ read ∈ reads, read.offset + read.length ≤ stop := by
  induction consecutive with
  | none => exact fun _ none => absurd none List.not_mem_nil
  | next later ih =>
    intro read member
    rcases List.mem_cons.mp member with rfl | member
    · exact later.le
    · exact ih read member

theorem verifyBlank_traces {size rounds offset : Nat} {trace : List (Prog.Exchange LittleFs)} {result : Bool}
    (within : offset ≤ size) (enough : size - offset ≤ rounds)
    (run : (StoreForwardQueue.verifyBlank size rounds offset).Traces trace result) :
    ∃ reads stop, trace = reads.map Read.exchange ∧ Consecutive offset reads stop ∧ stop ≤ size ∧
      (result = true ↔ ∀ read ∈ reads, read.Erased) ∧ (result = true → stop = size) := by
  induction rounds generalizing offset trace with
  | zero =>
    obtain ⟨rfl, rfl⟩ := Prog.traces_pure run
    have full : offset = size := by omega
    exact ⟨[], offset, rfl, .none _, within, by simp, fun _ => full⟩
  | succ rounds ih =>
    unfold StoreForwardQueue.verifyBlank at run
    split at run
    case isFalse done =>
      obtain ⟨rfl, rfl⟩ := Prog.traces_pure run
      exact ⟨[], offset, rfl, .none _, within, by simp, fun _ => by omega⟩
    case isTrue more =>
      obtain ⟨first, answer, after, asked, later, rfl⟩ := Prog.traces_bind run
      obtain rfl := Prog.traces_request asked
      -- A read that fails or finds anything else is the last one.
      have stops (bad : ¬Read.Erased ⟨offset, min 256 (size - offset), answer⟩) (none : after = []) (fails : result = false) :
          ∃ reads stop, [(⟨.readPartition offset (min 256 (size - offset)), answer⟩ : Prog.Exchange LittleFs)] ++ after =
              reads.map Read.exchange ∧ Consecutive offset reads stop ∧ stop ≤ size ∧
            (result = true ↔ ∀ read ∈ reads, read.Erased) ∧ (result = true → stop = size) := by
        subst none fails
        refine ⟨[⟨offset, min 256 (size - offset), answer⟩], offset + min 256 (size - offset), rfl,
          @Consecutive.next ⟨offset, min 256 (size - offset), answer⟩ [] _ (.none _), by omega,
          ⟨fun impossible => (Bool.false_ne_true impossible).elim, fun all => (bad (all _ List.mem_cons_self)).elim⟩,
          fun impossible => (Bool.false_ne_true impossible).elim⟩
      cases answer with
      | none =>
        obtain ⟨none, fails⟩ := Prog.traces_pure later
        refine stops (fun erased => ?_) none fails
        obtain ⟨bytes, impossible, -⟩ := erased
        cases impossible
      | some bytes =>
        dsimp only at later
        split at later
        case isTrue erased =>
          obtain ⟨reads, stop, rfl, consecutive, bounded, exact_, full⟩ := ih (by omega) (by omega) later
          refine ⟨⟨offset, min 256 (size - offset), some bytes⟩ :: reads, stop, rfl,
            @Consecutive.next ⟨offset, min 256 (size - offset), some bytes⟩ _ _ consecutive, bounded, ?_, full⟩
          have here : Read.Erased ⟨offset, min 256 (size - offset), some bytes⟩ :=
            ⟨bytes, rfl, by simpa using erased⟩
          rw [exact_, List.forall_mem_cons]
          exact ⟨fun all => ⟨here, all⟩, fun all => all.2⟩
        case isFalse other =>
          obtain ⟨none, fails⟩ := Prog.traces_pure later
          refine stops (fun erased => other ?_) none fails
          obtain ⟨found, same, all⟩ := erased
          cases same
          simpa using all

/-- The reads of a partition in which the bytes are these, as far as they succeed. -/
def Reads (content : Nat → UInt8) (reads : List Read) : Prop :=
  ∀ read ∈ reads, ∀ bytes, read.bytes = some bytes →
    bytes = (List.range read.length).map fun index => content (read.offset + index)

theorem Read.erased_iff {content : Nat → UInt8} {read : Read} (found : ∀ bytes, read.bytes = some bytes →
    bytes = (List.range read.length).map fun index => content (read.offset + index)) :
    read.Erased ↔ read.bytes.isSome ∧ ∀ position, read.covers position = true → content position = 0xff := by
  constructor
  · rintro ⟨bytes, here, erased⟩
    refine ⟨by rw [here]; rfl, fun position covered => ?_⟩
    simp only [Read.covers, Bool.and_eq_true, decide_eq_true_eq] at covered
    have member : content (read.offset + (position - read.offset)) ∈ bytes := by
      rw [found bytes here]
      exact List.mem_map.mpr ⟨position - read.offset, List.mem_range.mpr (by omega), rfl⟩
    rw [Nat.add_sub_cancel' covered.1] at member
    exact erased _ member
  · rintro ⟨succeeds, erased⟩
    obtain ⟨bytes, here⟩ := Option.isSome_iff_exists.mp succeeds
    refine ⟨bytes, here, fun byte member => ?_⟩
    rw [found bytes here] at member
    obtain ⟨index, inside, rfl⟩ := List.mem_map.mp member
    apply erased
    simp only [Read.covers, Bool.and_eq_true, decide_eq_true_eq]
    exact ⟨Nat.le_add_right _ _, Nat.add_lt_add_left (List.mem_range.mp inside) _⟩

/-- What any run of `verify` has read, whatever the read function answered. -/
structure Verified (size : Nat) (reads : List Read) (result : Bool) : Prop where
  bounded : ∀ read ∈ reads, read.offset + read.length ≤ size
  disjoint : ∀ position, reads.countP (·.covers position) ≤ 1
  covered : result = true → ∀ position, position < size → reads.countP (·.covers position) = 1
  erased : result = true ↔ 0 < size ∧ ∀ read ∈ reads, read.Erased
  blank : ∀ content, Reads content reads →
    (result = true ↔ 0 < size ∧ (∀ read ∈ reads, read.bytes.isSome) ∧ ∀ position, position < size → content position = 0xff)

theorem verify_verified {size : Nat} {trace : List (Prog.Exchange LittleFs)} {result : Bool}
    (run : (verify size).Traces trace result) : ∃ reads, trace = reads.map Read.exchange ∧ Verified size reads result := by
  unfold verify at run
  split at run
  case isTrue empty =>
    obtain ⟨rfl, rfl⟩ := Prog.traces_pure run
    subst empty
    exact ⟨[], rfl, by simp, by simp, by simp, by simp, fun content _ => by simp⟩
  case isFalse some =>
    obtain ⟨reads, stop, same, consecutive, bounded, erased, full⟩ :=
      verifyBlank_traces (Nat.zero_le _) (Nat.sub_le _ _) run
    have positive : 0 < size := Nat.pos_of_ne_zero some
    have covered (passed : result = true) (position : Nat) (inside : position < size) :
        reads.countP (·.covers position) = 1 := by
      rw [consecutive.covered, if_pos ⟨Nat.zero_le _, by rw [full passed]; exact inside⟩]
    refine ⟨reads, same, fun read member => (consecutive.bounded read member).trans bounded, fun position => ?_, covered,
      erased.trans (by simp [positive]), fun content agrees => ?_⟩
    · rw [consecutive.covered]
      split <;> omega
    have each (read : Read) (member : read ∈ reads) := Read.erased_iff (agrees read member)
    constructor
    · intro passed
      have all := erased.mp passed
      refine ⟨positive, fun read member => ((each read member).mp (all read member)).1, fun position inside => ?_⟩
      -- The read that covers the byte has found it.
      have one : 0 < reads.countP (·.covers position) := by rw [covered passed position inside]; exact Nat.one_pos
      obtain ⟨read, member, covers⟩ := List.countP_pos_iff.mp one
      exact ((each read member).mp (all read member)).2 position covers
    · rintro ⟨-, succeeds, blank⟩
      refine erased.mpr fun read member => (each read member).mpr ⟨succeeds read member, fun position covers => blank _ ?_⟩
      have bound := (consecutive.bounded read member).trans bounded
      simp only [Read.covers, Bool.and_eq_true, decide_eq_true_eq] at covers
      omega

end BlankPartition

namespace StoreForwardQueue

open BlankPartition

theorem recover_leaves (queue : StoreForwardQueue) : queue.recover.Asks (Disk.leaves Path.archived) := by
  have counts (queue : StoreForwardQueue) (slots : List Nat) (present : Nat) :
      (queue.countRejected slots present).Asks (Disk.leaves Path.archived) := by
    induction slots generalizing present with
    | nil => exact Prog.asks_pure
    | cons slot slots ih =>
      refine Prog.Asks.bind ?_ fun found => ?_
      · unfold rejectedSlotPresent
        split
        · exact Prog.asks_pure
        · exact Prog.asks_request.mpr trivial
      · split
        · exact ih _
        · exact ih _
  unfold recover
  refine Prog.Asks.bind (removeLeft_leaves _ id) fun _ => Prog.Asks.bind (removeLeft_leaves _ id) fun _ =>
    Prog.Asks.bind loadOrRebuild_leaves fun metadata => Prog.Asks.bind (scanSegment_leaves _ _) fun older => ?_
  obtain ⟨scanned, older⟩ := older
  cases scanned with
  | false => exact Prog.asks_pure
  | true =>
  refine Prog.Asks.bind (scanSegment_leaves _ _) fun newer => ?_
  obtain ⟨scanned, newer⟩ := newer
  cases scanned with
  | false => exact Prog.asks_pure
  | true =>
  refine Prog.Asks.bind (saveMetadata_leaves _) fun saved => ?_
  obtain ⟨saved, committed⟩ := saved
  cases saved with
  | false => exact Prog.asks_pure
  | true => exact Prog.Asks.bind (counts _ _ _) fun total => Prog.asks_pure

/-- What stands before a format: a mount that fails, and reads that find the whole partition erased. -/
def Justified (before : List (Prog.Exchange LittleFs)) : Prop :=
  ∃ (label : String) (size : Nat) (found : List (Prog.Exchange LittleFs)) (reads : List Read),
    before = found ++ ⟨.findPartition label, some size⟩ :: ⟨.mount, false⟩ :: reads.map Read.exchange ∧
      0 < size ∧ (∀ read ∈ reads, read.Erased) ∧ (∀ read ∈ reads, read.offset + read.length ≤ size) ∧
        ∀ position, position < size → reads.countP (·.covers position) = 1

def Unformatted (trace : List (Prog.Exchange LittleFs)) : Prop := ∀ exchange ∈ trace, exchange.1 ≠ .format

section Unformatted

variable {exchange : Prog.Exchange LittleFs} {first rest trace : List (Prog.Exchange LittleFs)}

theorem unformatted_nil : Unformatted [] := fun _ none => absurd none List.not_mem_nil

theorem Unformatted.cons (here : exchange.1 ≠ .format) (later : Unformatted trace) : Unformatted (exchange :: trace) :=
  List.forall_mem_cons.mpr ⟨here, later⟩

theorem Unformatted.append (before : Unformatted first) (after : Unformatted rest) : Unformatted (first ++ rest) :=
  List.forall_mem_append.mpr ⟨before, after⟩

theorem unformatted_reads (reads : List Read) : Unformatted (reads.map Read.exchange) := by
  intro exchange member
  obtain ⟨read, -, rfl⟩ := List.mem_map.mp member
  exact fun impossible => FsOp.noConfusion impossible

end Unformatted

/-- The second name is tried when the first is unknown. -/
def lookup : Option Nat → Flash (Option Nat)
  | some size => pure (some size)
  | none => LittleFs.findPartition "spiffs"

def mountFound : Option Nat → Flash (Option String)
  | none => pure (some "Filesystem partition missing")
  | some size => do
    if ← LittleFs.mount then
      return none
    let blank ← verify size
    if !blank then
      return some "LittleFS mount failed; nonblank or unreadable data preserved"
    if !(← LittleFs.format) then
      return some "Blank LittleFS initialization failed"
    if !(← LittleFs.mount) then
      return some "Blank LittleFS initialization failed"
    return none

theorem mountPartition_eq : mountPartition =
    LittleFs.findPartition "littlefs" >>= fun preferred => lookup preferred >>= mountFound := by
  have found (size : Nat) : (do
      if ← LittleFs.mount then
        return none
      let blank ← if size = 0 then pure false else verifyBlank size size 0
      if !blank then
        return some "LittleFS mount failed; nonblank or unreadable data preserved"
      if !(← LittleFs.format) then
        return some "Blank LittleFS initialization failed"
      if !(← LittleFs.mount) then
        return some "Blank LittleFS initialization failed"
      return none) = mountFound (some size) := by
    by_cases empty : size = 0 <;> simp only [mountFound, verify, empty, if_true, if_false]
  unfold mountPartition
  congr 1
  funext preferred
  cases preferred with
  | some size => exact found size
  | none =>
    refine congrArg (LittleFs.findPartition "spiffs" >>= ·) (funext fun partition => ?_)
    cases partition with
    | some size => exact found size
    | none => rfl

theorem lookup_traces {trace : List (Prog.Exchange LittleFs)} {preferred partition : Option Nat}
    (run : (lookup preferred).Traces trace partition) (first : String) :
    Unformatted (⟨.findPartition first, preferred⟩ :: trace) ∧ ∀ size, partition = some size → ∃ label found,
      (⟨.findPartition first, preferred⟩ : Prog.Exchange LittleFs) :: trace = found ++ [⟨.findPartition label, some size⟩] := by
  have named (label : String) (partition : Option Nat) : (⟨.findPartition label, partition⟩ : Prog.Exchange LittleFs).1 ≠ .format :=
    fun impossible => FsOp.noConfusion impossible
  cases preferred with
  | some known =>
    obtain ⟨rfl, rfl⟩ := Prog.traces_pure run
    refine ⟨.cons (named _ _) unformatted_nil, fun size same => ?_⟩
    cases same
    exact ⟨first, [], rfl⟩
  | none =>
    obtain rfl := Prog.traces_request run
    refine ⟨.cons (named _ _) (.cons (named _ _) unformatted_nil), fun size same => ?_⟩
    cases same
    exact ⟨"spiffs", [⟨.findPartition first, none⟩], rfl⟩

/-- A mount that fails is followed by at most one format, and by that only of an erased partition. -/
theorem mountFound_traces {trace : List (Prog.Exchange LittleFs)} {size : Nat} {error : Option String}
    (run : (mountFound (some size)).Traces trace error) : Unformatted trace ∨
      ∃ reads reply after, trace = ⟨.mount, false⟩ :: (reads.map Read.exchange ++ ⟨.format, reply⟩ :: after) ∧
        Verified size reads true ∧ Unformatted after := by
  have mount (reply : Bool) : (⟨.mount, reply⟩ : Prog.Exchange LittleFs).1 ≠ .format := fun impossible => FsOp.noConfusion impossible
  obtain ⟨_, mounted, after, asked, tried, rfl⟩ := Prog.traces_bind run
  obtain rfl := Prog.traces_request asked
  cases mounted with
  | true =>
    obtain ⟨rfl, -⟩ := Prog.traces_pure tried
    exact .inl (.cons (mount true) unformatted_nil)
  | false =>
    obtain ⟨_, blank, last, verified, judged, rfl⟩ := Prog.traces_bind tried
    obtain ⟨reads, rfl, exact_⟩ := verify_verified verified
    cases blank with
    | false =>
      obtain ⟨rfl, -⟩ := Prog.traces_pure judged
      exact .inl (.cons (mount false) ((unformatted_reads reads).append unformatted_nil))
    | true =>
      obtain ⟨_, formatted, final, asked, ended, rfl⟩ := Prog.traces_bind judged
      obtain rfl := Prog.traces_request asked
      refine .inr ⟨reads, formatted, final, rfl, exact_, ?_⟩
      cases formatted with
      | false =>
        obtain ⟨rfl, -⟩ := Prog.traces_pure ended
        exact unformatted_nil
      | true =>
        obtain ⟨_, again, rest, asked, remounted, rfl⟩ := Prog.traces_bind ended
        obtain rfl := Prog.traces_request asked
        have none : rest = [] := by
          cases again <;> exact (Prog.traces_pure remounted).1
        subst none
        exact .cons (mount again) unformatted_nil

theorem mountPartition_traces {trace : List (Prog.Exchange LittleFs)} {error : Option String}
    (run : mountPartition.Traces trace error) : Unformatted trace ∨
      ∃ before reply after, trace = before ++ ⟨.format, reply⟩ :: after ∧ Justified before ∧ Unformatted before ∧
        Unformatted after := by
  rw [mountPartition_eq] at run
  obtain ⟨_, preferred, _, asked, later, rfl⟩ := Prog.traces_bind run
  obtain rfl := Prog.traces_request asked
  obtain ⟨looked, partition, rest, lookup, mounts, rfl⟩ := Prog.traces_bind later
  obtain ⟨unformatted, named⟩ := lookup_traces lookup "littlefs"
  rw [← List.append_assoc, List.singleton_append]
  cases partition with
  | none =>
    obtain ⟨rfl, -⟩ := Prog.traces_pure mounts
    exact .inl (unformatted.append unformatted_nil)
  | some size =>
    obtain ⟨label, found, same⟩ := named size rfl
    rw [same] at unformatted ⊢
    rcases mountFound_traces mounts with none | ⟨reads, reply, after, rfl, verified, follows⟩
    · exact .inl (unformatted.append none)
    · obtain ⟨positive, erased⟩ := verified.erased.mp rfl
      have mount : (⟨.mount, false⟩ : Prog.Exchange LittleFs).1 ≠ .format := fun impossible => FsOp.noConfusion impossible
      refine .inr ⟨found ++ [⟨.findPartition label, some size⟩] ++ ⟨.mount, false⟩ :: reads.map Read.exchange, reply, after,
        by simp, ⟨label, size, found, reads, by simp, positive, erased, verified.bounded, verified.covered rfl⟩,
        unformatted.append (.cons mount (unformatted_reads reads)), follows⟩

theorem begin_traces {queue : StoreForwardQueue} {enabled : Bool} {maximumBytes : Nat}
    {trace : List (Prog.Exchange LittleFs)} {outcome : Bool × StoreForwardQueue}
    (run : (queue.begin enabled maximumBytes).Traces trace outcome) : Unformatted trace ∨
      ∃ before reply after, trace = before ++ ⟨.format, reply⟩ :: after ∧ Justified before ∧ Unformatted before ∧
        Unformatted after := by
  unfold «begin» at run
  dsimp only at run
  split at run
  · obtain ⟨rfl, -⟩ := Prog.traces_pure run
    exact .inl unformatted_nil
  obtain ⟨mounting, error, rest, mounted, after, rfl⟩ := Prog.traces_bind run
  have later : Unformatted rest := by
    cases error with
    | some error =>
      obtain ⟨rfl, -⟩ := Prog.traces_pure after
      exact unformatted_nil
    | none =>
      obtain ⟨_, totalBytes, last, asked, sized, rfl⟩ := Prog.traces_bind after
      obtain rfl := Prog.traces_request asked
      refine .cons (fun impossible => FsOp.noConfusion impossible) ?_
      split at sized
      · obtain ⟨rfl, -⟩ := Prog.traces_pure sized
        exact unformatted_nil
      · split at sized
        · obtain ⟨rfl, -⟩ := Prog.traces_pure sized
          exact unformatted_nil
        · intro exchange member formats
          have left := (recover_leaves _).traces sized exchange member
          rw [formats] at left
          exact left
  rcases mountPartition_traces mounted with before | ⟨before, reply, after, rfl, justified, unformatted, follows⟩
  · exact .inl (before.append later)
  · exact .inr ⟨before, reply, after ++ rest, by rw [List.append_assoc, List.cons_append], justified, unformatted,
      follows.append later⟩

/-- Only a mount that has failed on a partition that reads as erased from end to end is followed by a format. -/
theorem format_erased :
    (∀ (size : Nat) (trace : List (Prog.Exchange LittleFs)) (result : Bool), (verify size).Traces trace result →
      ∃ reads, trace = reads.map Read.exchange ∧ Verified size reads result) ∧
    ∀ (queue : StoreForwardQueue) (enabled : Bool) (maximumBytes : Nat) (outcome : Bool × StoreForwardQueue)
      (before after : List (Prog.Exchange LittleFs)) (reply : Bool),
      (queue.begin enabled maximumBytes).Traces (before ++ ⟨.format, reply⟩ :: after) outcome → Justified before := by
  refine ⟨fun size trace result run => verify_verified run, fun queue enabled maximumBytes outcome before after reply run => ?_⟩
  have here : (⟨.format, reply⟩ : Prog.Exchange LittleFs) ∈ before ++ ⟨.format, reply⟩ :: after := by simp
  rcases begin_traces run with unformatted | ⟨first, answer, last, same, justified, unformatted, follows⟩
  · exact absurd rfl (unformatted _ here)
  · have absent (trace : List (Prog.Exchange LittleFs)) (none : Unformatted trace) :
        (⟨.format, reply⟩ : Prog.Exchange LittleFs) ∉ trace := fun member => none _ member rfl
    rw [eq_comm, List.append_cons_inj_of_notMem (absent _ unformatted) (absent _ follows)] at same
    exact same.1 ▸ justified

def erasedFlash (disk : Disk) : (op : FsOp) → op.Reply × Disk
  | .mount | .format => (false, disk)
  | op => disk.handle op

theorem format_erased_flash : Justified [⟨.findPartition "littlefs", some 4⟩, ⟨.mount, false⟩,
    ⟨.readPartition 0 4, some [0xff, 0xff, 0xff, 0xff]⟩] := by
  have run := Prog.traces_exchanges erasedFlash (StoreForwardQueue.begin {} true 1048576) ⟨"littlefs", 4, 0, fun _ => none, []⟩
  exact format_erased.2 {} true 1048576 _ _ [] false run

end StoreForwardQueue

end ApexiDevices
