import ApexiDevices.Ota.SignedOta

set_option autoImplicit false

/-!
# Update sessions

The backend answers anything. Its trace shows what every selection of a new
image followed on, and how often a transfer was aborted.
-/

namespace ApexiDevices.SignedOta

open Device SignedOtaBackend

inductive Call
  | begin (bytes : UInt32)
  | append (data : Option Bytes) (bytes : UInt32)
  | finish
  | cancel

def Call.run (ota : SignedOta) : Call → Backend SignedOta
  | .begin bytes => do return (← ota.begin bytes).2
  | .append data bytes => do return (← ota.append data bytes).2
  | .finish => do return (← ota.finish).2
  | .cancel => ota.cancel

abbrev Trace := List SignedOtaBackend.Exchange

abbrev backend : Model SignedOtaBackend Trace := Model.recording SignedOtaBackend

inductive Reached : SignedOta → Trace → Prop
  | fresh : Reached {} []
  | call {ota next : SignedOta} {trace last : Trace} (earlier : Reached ota trace) (call : Call)
      (run : backend.Runs (call.run ota) trace next last) : Reached next last

def opening (bytes capacity : UInt32) : Trace :=
  [⟨.securePosture, true⟩, ⟨.bootState, .valid⟩, ⟨.inactiveCapacity, capacity⟩,
    ⟨.beginInactive bytes, true⟩]

def writes (chunks : List (Bytes × UInt32)) : Trace :=
  chunks.map fun chunk => ⟨.write chunk.1 chunk.2, true⟩

/-- The trace ends in a prepared slot and successful writes of `received` bytes. -/
def Transfers (expected received : UInt32) (trace : Trace) : Prop :=
  ∃ before capacity chunks,
    trace = before ++ (opening expected capacity ++ writes chunks) ∧
      expected ≠ 0 ∧ expected ≤ capacity ∧ received ≤ expected ∧
      (∀ chunk ∈ chunks, 1 ≤ chunk.2 ∧ chunk.2 ≤ 4096) ∧
      (chunks.map fun chunk => chunk.2.toNat).sum = received.toNat

def Verified (trace : Trace) : Prop :=
  ∃ before bytes, trace = before ++ [⟨.securePosture, true⟩, ⟨.finishAndVerify, true⟩] ∧
    Transfers bytes bytes before

def Selected (before : Trace) (exchange : SignedOtaBackend.Exchange) : Prop :=
  exchange.op = .selectVerified → Verified before

def aborts (trace : Trace) : Nat := trace.countP fun exchange => exchange.op matches .abort

structure Sound (ota : SignedOta) (trace : Trace) : Prop where
  selected : Preceded Selected trace
  transfers : ota.state = .receiving → Transfers ota.expected ota.received trace

/-- One call: the abort belongs to leaving `receiving` for `failed`, and to nothing else. -/
structure Left (ota : SignedOta) (trace : Trace) (next : SignedOta) (last : Trace) : Prop where
  sound : Sound next last
  aborted : aborts last = aborts trace +
    if ota.state = .receiving ∧ next.state = .failed then 1 else 0

variable {ota : SignedOta} {trace : Trace}

theorem aborts_snoc (exchange : SignedOtaBackend.Exchange) :
    aborts (trace ++ [exchange]) = aborts trace + if exchange.op matches .abort then 1 else 0 := by
  simp [aborts, List.countP_append, List.countP_singleton]

theorem Transfers.write {expected received : UInt32} (transfers : Transfers expected received trace)
    {data : Bytes} {bytes : UInt32} (positive : bytes ≠ 0) (small : bytes ≤ 4096)
    (fits : bytes ≤ expected - received) :
    Transfers expected (received + bytes) (trace ++ [⟨.write data bytes, true⟩]) := by
  obtain ⟨before, capacity, chunks, rfl, nonzero, capable, within, sizes, total⟩ := transfers
  have room : bytes.toNat ≤ expected.toNat - received.toNat := by
    rw [← UInt32.toNat_sub_of_le _ _ within]
    exact UInt32.le_iff_toNat_le.mp fits
  have below : received.toNat ≤ expected.toNat := UInt32.le_iff_toNat_le.mp within
  have sum : (received + bytes).toNat = received.toNat + bytes.toNat := by
    rw [UInt32.toNat_add, Nat.mod_eq_of_lt]
    have := expected.toNat_lt
    omega
  refine ⟨before, capacity, chunks ++ [(data, bytes)], by simp [writes], nonzero, capable, ?_, ?_, ?_⟩
  · rw [UInt32.le_iff_toNat_le, sum]
    omega
  · intro chunk present
    rcases List.mem_append.mp present with earlier | same
    · exact sizes chunk earlier
    · obtain rfl := List.mem_singleton.mp same
      refine ⟨?_, small⟩
      rw [UInt32.le_iff_toNat_le]
      have : bytes.toNat ≠ 0 := fun zero => positive (UInt32.toNat_inj.mp zero)
      change 1 ≤ bytes.toNat
      omega
  · rw [List.map_append, List.sum_append, total, sum]
    simp

section Calls

abbrev Anything : Trace → Prop := fun _ => True

theorem wp_quiet {op : Op} {post : SignedOtaBackend.Reply op → Trace → Prop}
    (preceded : Preceded Selected trace) (unselected : op ≠ .selectVerified) (unaborted : op ≠ .abort)
    (next : ∀ reply, Preceded Selected (trace ++ [⟨op, reply⟩]) →
      aborts (trace ++ [⟨op, reply⟩]) = aborts trace → post reply (trace ++ [⟨op, reply⟩])) :
    backend.wp (Prog.request op) post Anything trace := by
  refine Model.wp_record trivial fun reply => ⟨trivial, next reply ?_ ?_⟩
  · exact preceded.snoc fun impossible => absurd impossible unselected
  · rw [aborts_snoc]
    cases op <;> first | rfl | exact absurd rfl unaborted

/-- What a failed call leaves: an abort exactly when a transfer was open. -/
def Failed (ota : SignedOta) (trace : Trace) (answer : Bool × SignedOta) (last : Trace) : Prop :=
  Sound answer.2 last ∧ answer.2.state = .failed ∧
    aborts last = aborts trace + if ota.state = .receiving then 1 else 0

theorem fail_wp (preceded : Preceded Selected trace) (error : String) :
    backend.wp (ota.fail error) (Failed ota trace) Anything trace := by
  unfold fail
  by_cases receiving : ota.state = .receiving
  · simp only [receiving, BEq.rfl, if_true]
    refine Model.wp_bind.mpr (Model.wp_record trivial fun reply => ⟨trivial, trivial, ?_⟩)
    refine ⟨⟨preceded.snoc nofun, nofun⟩, rfl, ?_⟩
    rw [aborts_snoc, if_pos receiving]
    rfl
  · simp only [beq_eq_false_iff_ne.mpr receiving, Bool.false_eq_true, if_false]
    refine ⟨trivial, ⟨preceded, nofun⟩, rfl, ?_⟩
    rw [if_neg receiving]
    rfl

theorem Failed.left {answer : Bool × SignedOta} {last : Trace} (failed : Failed ota trace answer last) :
    Left ota trace answer.2 last := by
  obtain ⟨sound, state, aborted⟩ := failed
  exact ⟨sound, by simpa [state] using aborted⟩

theorem fail_later {earlier : Trace} (preceded : Preceded Selected trace)
    (unaborted : aborts trace = aborts earlier) (error : String) :
    backend.wp (ota.fail error) (fun answer => Left ota earlier answer.2) Anything trace := by
  refine Model.wp_mono (fail_wp preceded error) (fun answer last failed => ?_) fun _ same => same
  have left := failed.left
  exact ⟨left.sound, unaborted ▸ left.aborted⟩

theorem begin_wp (sound : Sound ota trace) (bytes : UInt32) :
    backend.wp (ota.begin bytes) (fun answer => Left ota trace answer.2) Anything trace := by
  unfold begin
  split
  next =>
    refine ⟨trivial, sound, ?_⟩
    rw [if_neg (fun both => by simp [both.1] at both)]
    rfl
  -- each question may end the session; only the last one opens it, with nothing written
  next idle =>
    have closed : ota.state ≠ .receiving := by
      intro receiving
      simp [receiving] at idle
    refine Model.wp_bind.mpr (wp_quiet sound.selected nofun nofun fun secure selected kept => ?_)
    cases secure with
    | false => exact fail_later selected kept _
    | true =>
      refine Model.wp_bind.mpr (wp_quiet selected nofun nofun fun boot selected kept' => ?_)
      have kept := kept'.trans kept
      by_cases valid : boot = .valid
      · subst valid
        simp only [bne_self_eq_false, Bool.false_eq_true, if_false]
        by_cases zero : bytes = 0
        · simp only [zero, BEq.rfl, if_true]
          exact fail_later selected kept _
        · simp only [beq_eq_false_iff_ne.mpr zero, Bool.false_eq_true, if_false]
          refine Model.wp_bind.mpr (wp_quiet selected nofun nofun fun capacity selected kept' => ?_)
          have kept := kept'.trans kept
          by_cases large : bytes > capacity
          · simp only [large, if_true]
            exact fail_later selected kept _
          · simp only [large, if_false]
            refine Model.wp_bind.mpr (wp_quiet selected nofun nofun fun prepared selected kept' => ?_)
            have kept := kept'.trans kept
            cases prepared with
            | false => exact fail_later selected kept _
            | true =>
              refine ⟨trivial, ⟨selected, fun _ => ?_⟩, ?_⟩
              · refine ⟨trace, capacity, [], by simp [opening, writes], zero, ?_, ?_, nofun, rfl⟩
                · exact UInt32.not_lt.mp large
                · exact UInt32.zero_le
              · rw [kept, if_neg (fun both => closed both.1)]
                rfl
      · simp only [bne_iff_ne.mpr valid, if_true]
        exact fail_later selected kept _

theorem append_wp (sound : Sound ota trace) (data : Option Bytes) (bytes : UInt32) :
    backend.wp (ota.append data bytes) (fun answer => Left ota trace answer.2) Anything trace := by
  unfold append
  split
  next closed =>
    refine ⟨trivial, sound, ?_⟩
    rw [if_neg (fun both => by simp [both.1] at closed)]
    rfl
  next receiving =>
    have receiving : ota.state = .receiving := by simpa using receiving
    cases data with
    | none => exact fail_later sound.selected rfl _
    | some data =>
      dsimp only
      split
      next => exact fail_later sound.selected rfl _
      next allowed =>
        simp only [Bool.or_eq_true, beq_iff_eq, decide_eq_true_eq, not_or, gt_iff_lt, UInt32.not_lt] at allowed
        obtain ⟨⟨positive, small⟩, fits⟩ := allowed
        refine Model.wp_bind.mpr (wp_quiet sound.selected nofun nofun fun written selected kept => ?_)
        cases written with
        | false => exact fail_later selected kept _
        | true =>
          refine ⟨trivial, ⟨selected, fun _ => ?_⟩, ?_⟩
          · exact (sound.transfers receiving).write positive small fits
          · rw [kept, if_neg (fun both => by simp [receiving] at both)]
            rfl

theorem finish_wp (sound : Sound ota trace) :
    backend.wp ota.finish (fun answer => Left ota trace answer.2) Anything trace := by
  unfold finish
  split
  next closed =>
    refine ⟨trivial, sound, ?_⟩
    rw [if_neg (fun both => by simp [both.1] at closed)]
    rfl
  next receiving =>
    have receiving : ota.state = .receiving := by simpa using receiving
    split
    next => exact fail_later sound.selected rfl _
    next complete =>
      have complete : ota.received = ota.expected := by simpa using complete
      refine Model.wp_bind.mpr (wp_quiet sound.selected nofun nofun fun secure selected kept => ?_)
      cases secure with
      | false => exact fail_later selected kept _
      | true =>
        refine Model.wp_bind.mpr (wp_quiet selected nofun nofun fun verified selected kept' => ?_)
        have kept := kept'.trans kept
        cases verified with
        | false => exact fail_later selected kept _
        | true =>
          -- The transfer is complete, secure and verified at the selection.
          refine Model.wp_bind.mpr (Model.wp_record trivial fun chosen => ⟨trivial, ?_⟩)
          have preceded : Preceded Selected (_ ++ [⟨.selectVerified, chosen⟩]) := selected.snoc fun _ =>
            ⟨trace, ota.expected, by simp, complete ▸ sound.transfers receiving⟩
          have unaborted := (aborts_snoc ⟨.selectVerified, chosen⟩).trans kept
          cases chosen with
          | false => exact fail_later preceded unaborted _
          | true =>
            refine ⟨trivial, ⟨preceded, nofun⟩, ?_⟩
            rw [unaborted, if_neg (fun both => by cases both.2)]
            rfl

theorem cancel_wp (sound : Sound ota trace) :
    backend.wp ota.cancel (Left ota trace) Anything trace := by
  unfold cancel
  split
  next =>
    refine Model.wp_then (fail_later sound.selected rfl _) (fun _ same => same) fun answer last left => ?_
    exact ⟨trivial, left⟩
  next closed =>
    refine ⟨trivial, sound, ?_⟩
    rw [if_neg (fun both => by simp [both.1] at closed)]
    rfl

theorem call_wp (sound : Sound ota trace) (call : Call) :
    backend.wp (call.run ota) (Left ota trace) Anything trace := by
  cases call with
  | begin bytes => exact Model.wp_then (begin_wp sound bytes) (fun _ same => same) fun _ _ left => ⟨trivial, left⟩
  | append data bytes =>
    exact Model.wp_then (append_wp sound data bytes) (fun _ same => same) fun _ _ left => ⟨trivial, left⟩
  | finish => exact Model.wp_then (finish_wp sound) (fun _ same => same) fun _ _ left => ⟨trivial, left⟩
  | cancel => exact cancel_wp sound

end Calls

theorem sound_of_reached (reached : Reached ota trace) : Sound ota trace := by
  induction reached with
  | fresh => exact ⟨preceded_nil, nofun⟩
  | call earlier call run ih => exact (Model.wp_runs (call_wp ih call) run).sound

theorem aborts_of_call (reached : Reached ota trace) {call : Call} {next : SignedOta} {last : Trace}
    (run : backend.Runs (call.run ota) trace next last) :
    aborts last = aborts trace + if ota.state = .receiving ∧ next.state = .failed then 1 else 0 :=
  (Model.wp_runs (call_wp (sound_of_reached reached) call) run).aborted

end ApexiDevices.SignedOta
