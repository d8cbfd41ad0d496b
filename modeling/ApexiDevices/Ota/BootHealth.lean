import ApexiDevices.Ota.SignedOta
import ApexiDevices.Shared.Clock

set_option autoImplicit false

/-!
# Boot confirmation

Polls carry real time; the code sees it modulo 2^32. Every poll keeps the
backend calls it made.
-/

namespace ApexiDevices.OtaBootHealth

open Device SignedOtaBackend

abbrev Trace := List SignedOtaBackend.Exchange

abbrev backend : Model SignedOtaBackend Trace := Model.recording SignedOtaBackend

structure Polled where
  time : Nat
  sensorsReady : Bool
  queueReady : Bool
  authenticatedHeartbeat : Bool
  calls : Trace

def Polled.healthy (polled : Polled) : Prop :=
  polled.sensorsReady = true ∧ polled.queueReady = true ∧ polled.authenticatedHeartbeat = true ∧
    ⟨.securePosture, true⟩ ∈ polled.calls

def now (start : Nat) (polls : List Polled) : Nat := (polls.getLast?.map (·.time)).getD start

/-- A begin and the polls after it, less than 2^31 ms of real time apart. -/
inductive Reached (start : Nat) (productionRequired : Bool) : OtaBootHealth → List Polled → Prop
  | begin {before health : OtaBootHealth} {calls : Trace}
      (run : backend.Runs (before.begin (clock start) productionRequired) [] health calls) :
      Reached start productionRequired health []
  | poll {health next : OtaBootHealth} {polls : List Polled} (polled : Polled)
      (earlier : Reached start productionRequired health polls)
      (later : now start polls ≤ polled.time) (gap : polled.time < now start polls + 2 ^ 31)
      (run : backend.Runs (health.poll (clock polled.time) polled.sensorsReady polled.queueReady
        polled.authenticatedHeartbeat) [] next polled.calls) :
      Reached start productionRequired next (polls ++ [polled])

def calls (polls : List Polled) : Trace := polls.flatMap (·.calls)

def confirms (trace : Trace) : Nat := trace.countP fun exchange => exchange.op matches .confirmHealthy
def rollbacks (trace : Trace) : Nat := trace.countP fun exchange => exchange.op matches .rollback

/-- A confirmation comes in time, at the end of ten seconds of healthy polls. -/
def Justified (start : Nat) (before : List Polled) (polled : Polled) : Prop :=
  (∃ exchange ∈ polled.calls, exchange.op = .confirmHealthy) →
    polled.time < start + 120000 ∧
      ∃ earlier first rest, before ++ [polled] = earlier ++ first :: rest ∧
        (∀ poll ∈ first :: rest, poll.healthy) ∧ first.time + 10000 ≤ polled.time

def settled (state : State) : Prop := state = .confirmed ∨ state = .rolledBack ∨ state = .recoveryRequired

def RolledBack (health next : OtaBootHealth) (calls : Trace) : Prop :=
  (next.state = .rolledBack ∨ next.state = .recoveryRequired) ∧ next.startedMs = health.startedMs ∧
    confirms calls = 0 ∧ rollbacks calls ≤ 1

inductive Outcome (health : OtaBootHealth) (nowMs : UInt32) (ready : Bool) : OtaBootHealth → Trace → Prop
  | done (state : health.state ≠ .pending) : Outcome health nowMs ready health []
  | late {next : OtaBootHealth} {calls : Trace} (state : health.state = .pending)
      (elapsed : nowMs - health.startedMs ≥ 120000) (ended : RolledBack health next calls) :
      Outcome health nowMs ready next calls
  | unhealthy (state : health.state = .pending) (elapsed : ¬nowMs - health.startedMs ≥ 120000) (secure : Bool) :
      Outcome health nowMs ready { health with healthy := false } [⟨.securePosture, secure⟩]
  | waiting (state : health.state = .pending) (elapsed : ¬nowMs - health.startedMs ≥ 120000)
      (inputs : ready = true) : Outcome health nowMs ready (health.startWindow nowMs) [⟨.securePosture, true⟩]
  | confirmed (state : health.state = .pending) (elapsed : ¬nowMs - health.startedMs ≥ 120000)
      (inputs : ready = true) (window : nowMs - (health.startWindow nowMs).healthySinceMs ≥ 10000) :
      Outcome health nowMs ready { health.startWindow nowMs with state := .confirmed }
        [⟨.securePosture, true⟩, ⟨.confirmHealthy, true⟩]
  | refused {next : OtaBootHealth} {calls : Trace} (state : health.state = .pending)
      (elapsed : ¬nowMs - health.startedMs ≥ 120000) (inputs : ready = true)
      (window : nowMs - (health.startWindow nowMs).healthySinceMs ≥ 10000)
      (ended : RolledBack health next calls) :
      Outcome health nowMs ready next (⟨.securePosture, true⟩ :: ⟨.confirmHealthy, false⟩ :: calls)

section Poll

variable {health next : OtaBootHealth} {nowMs : UInt32} {before last : Trace}

abbrev Anything : Trace → Prop := fun _ => True

theorem startWindow_startedMs : (health.startWindow nowMs).startedMs = health.startedMs := by
  unfold startWindow
  split <;> rfl

theorem startWindow_state : (health.startWindow nowMs).state = health.state := by
  unfold startWindow
  split <;> rfl

theorem rollBack_wp : backend.wp health.rollBack
    (fun next last => ∃ calls, last = before ++ calls ∧ RolledBack health next calls) Anything before := by
  refine Model.wp_bind.mpr (Model.wp_record trivial fun possible => ⟨trivial, ?_⟩)
  cases possible with
  | false => exact ⟨trivial, _, rfl, .inr rfl, rfl, rfl, Nat.zero_le 1⟩
  | true =>
    refine Model.wp_bind.mpr (Model.wp_record trivial fun rolled => ⟨trivial, ?_⟩)
    cases rolled with
    | false => exact ⟨trivial, _, List.append_assoc _ _ _, .inr rfl, rfl, rfl, Nat.le_refl 1⟩
    | true => exact ⟨trivial, _, List.append_assoc _ _ _, .inl rfl, rfl, rfl, Nat.le_refl 1⟩

theorem poll_wp (sensorsReady queueReady authenticatedHeartbeat : Bool) :
    backend.wp (health.poll nowMs sensorsReady queueReady authenticatedHeartbeat)
      (Outcome health nowMs (sensorsReady && queueReady && authenticatedHeartbeat)) Anything [] := by
  unfold poll
  split
  next settled => exact ⟨trivial, .done (by simpa using settled)⟩
  next pending =>
    have pending : health.state = .pending := by simpa using pending
    split
    next elapsed =>
      refine Model.wp_mono rollBack_wp ?_ fun _ same => same
      rintro next last ⟨calls, rfl, ended⟩
      exact .late pending elapsed ended
    next elapsed =>
      refine Model.wp_bind.mpr (Model.wp_record trivial fun secure => ⟨trivial, ?_⟩)
      split
      next => exact ⟨trivial, .unhealthy pending elapsed secure⟩
      next healthy =>
        simp only [Bool.or_eq_true, Bool.not_eq_eq_eq_not, Bool.not_true, not_or, Bool.not_eq_false] at healthy
        obtain ⟨⟨⟨rfl, rfl⟩, rfl⟩, rfl⟩ := healthy
        unfold confirmAfterWindow
        split
        next window =>
          refine Model.wp_bind.mpr (Model.wp_record trivial fun confirmed => ⟨trivial, ?_⟩)
          cases confirmed with
          | true => exact ⟨trivial, .confirmed pending elapsed rfl window⟩
          | false =>
            refine Model.wp_mono rollBack_wp ?_ fun _ same => same
            rintro next last ⟨calls, rfl, state, started, counts⟩
            exact .refused pending elapsed rfl window ⟨state, started.trans startWindow_startedMs, counts⟩
        next => exact ⟨trivial, .waiting pending elapsed rfl⟩

end Poll

/-- The running window: its first poll, and only healthy polls since. -/
def Window (health : OtaBootHealth) (polls : List Polled) : Prop :=
  ∃ earlier first rest, polls = earlier ++ first :: rest ∧ (∀ poll ∈ first :: rest, poll.healthy) ∧
    health.healthySinceMs = clock first.time

structure Watch (start : Nat) (health : OtaBootHealth) (polls : List Polled) : Prop where
  times : ∀ poll ∈ polls, start ≤ poll.time ∧ poll.time ≤ now start polls
  started : health.startedMs = clock start
  early : health.state = .pending → now start polls < start + 120000
  quiet : health.state = .pending → confirms (calls polls) = 0 ∧ rollbacks (calls polls) = 0
  window : health.state = .pending → health.healthy = true → Window health polls
  once : confirms (calls polls) ≤ 1 ∧ rollbacks (calls polls) ≤ 1
  confirmed : health.state = .confirmed → ⟨.confirmHealthy, true⟩ ∈ calls polls
  justified : Preceded (Justified start) polls

section Run

variable {start : Nat} {productionRequired : Bool} {health next : OtaBootHealth} {polls : List Polled}
  {polled : Polled} {trace : Trace}

theorem now_snoc : now start (polls ++ [polled]) = polled.time := by
  simp [now]

theorem start_le_now (times : ∀ poll ∈ polls, start ≤ poll.time ∧ poll.time ≤ now start polls) :
    start ≤ now start polls := by
  rw [now]
  cases same : polls.getLast? with
  | none => exact Nat.le_refl start
  | some poll => exact (times poll (List.mem_of_getLast? same)).1

theorem confirms_append (first second : Trace) :
    confirms (first ++ second) = confirms first + confirms second := List.countP_append

theorem rollbacks_append (first second : Trace) :
    rollbacks (first ++ second) = rollbacks first + rollbacks second := List.countP_append

theorem calls_snoc : calls (polls ++ [polled]) = calls polls ++ polled.calls := by
  simp [calls]

theorem watch_begin {before : OtaBootHealth}
    (run : backend.Runs (before.begin (clock start) productionRequired) [] health trace) :
    Watch start health [] := by
  have spec : backend.wp (before.begin (clock start) productionRequired)
      (fun health _ => Watch start health []) Anything [] := by
    have fresh (state : State) (open_ : state ≠ .confirmed) :
        Watch start { before with startedMs := clock start, healthy := false, state := state } [] := by
      refine ⟨nofun, rfl, fun _ => ?_, fun _ => ⟨rfl, rfl⟩, nofun, ⟨Nat.zero_le 1, Nat.zero_le 1⟩,
        fun same => absurd same open_, preceded_nil⟩
      change start < start + 120000
      omega
    unfold OtaBootHealth.begin
    split
    next => exact ⟨trivial, fresh .inactive nofun⟩
    next =>
      refine Model.wp_bind.mpr (Model.wp_record trivial fun boot => ⟨trivial, ?_⟩)
      cases boot with
      | valid => exact ⟨trivial, fresh .inactive nofun⟩
      | pending => exact ⟨trivial, fresh .pending nofun⟩
      | unknown => exact ⟨trivial, fresh .recoveryRequired nofun⟩
  have watch := Model.wp_runs spec run
  exact watch

theorem outcome_settled {ready : Bool} {nowMs : UInt32} {calls : Trace}
    (outcome : Outcome health nowMs ready next calls) (state : health.state ≠ .pending) :
    next = health ∧ calls = [] := by
  cases outcome with
  | done => exact ⟨rfl, rfl⟩
  | late pending | unhealthy pending | waiting pending | confirmed pending | refused pending =>
    exact absurd pending state

theorem Window.startWindow (window : health.healthy = true → Window health polls) (healthy : polled.healthy) :
    Window (health.startWindow (clock polled.time)) (polls ++ [polled]) := by
  unfold OtaBootHealth.startWindow
  cases running : health.healthy with
  | true =>
    obtain ⟨earlier, first, rest, rfl, all, since⟩ := window running
    refine ⟨earlier, first, rest ++ [polled], by simp, ?_, since⟩
    intro poll present
    rcases List.mem_append.mp (List.cons_append ▸ present) with before | same
    · exact all poll before
    · exact List.mem_singleton.mp same ▸ healthy
  | false =>
    refine ⟨polls, polled, [], rfl, ?_, rfl⟩
    intro poll same
    exact List.mem_singleton.mp same ▸ healthy

theorem Window.justified (window : Window health (polls ++ [polled]))
    (times : ∀ poll ∈ polls ++ [polled], start ≤ poll.time ∧ poll.time ≤ polled.time)
    (early : polled.time < start + 120000) (long : clock polled.time - health.healthySinceMs ≥ 10000) :
    Justified start polls polled := by
  obtain ⟨earlier, first, rest, same, all, since⟩ := window
  refine fun _ => ⟨early, earlier, first, rest, same, all, ?_⟩
  have bounds := times first (by rw [same]; simp)
  rw [since, ge_iff_le, le_clock_sub bounds.2 (by omega)] at long
  change 10000 ≤ polled.time - first.time at long
  omega

theorem Watch.times_snoc (watch : Watch start health polls) (later : now start polls ≤ polled.time) :
    ∀ poll ∈ polls ++ [polled], start ≤ poll.time ∧ poll.time ≤ polled.time := by
  intro poll present
  rcases List.mem_append.mp present with before | same
  · have bounds := watch.times poll before
    omega
  · obtain rfl := List.mem_singleton.mp same
    have := start_le_now watch.times
    omega

theorem Watch.counted (same : polled.calls = trace) :
    confirms (calls (polls ++ [polled])) = confirms (calls polls) + confirms trace ∧
      rollbacks (calls (polls ++ [polled])) = rollbacks (calls polls) + rollbacks trace := by
  rw [calls_snoc, same, confirms_append, rollbacks_append]
  exact ⟨rfl, rfl⟩

theorem justified_of_quiet (quiet : confirms polled.calls = 0) : Justified start polls polled := by
  rintro ⟨exchange, present, same⟩
  have none := List.countP_eq_zero.mp quiet exchange present
  simp [same] at none

theorem Watch.poll (watch : Watch start health polls) (later : now start polls ≤ polled.time)
    (gap : polled.time < now start polls + 2 ^ 31)
    (outcome : Outcome health (clock polled.time)
      (polled.sensorsReady && polled.queueReady && polled.authenticatedHeartbeat) next polled.calls) :
    Watch start next (polls ++ [polled]) := by
  have times := watch.times_snoc later
  have ordered := start_le_now watch.times
  have kept : ∀ poll ∈ polls ++ [polled], start ≤ poll.time ∧ poll.time ≤ now start (polls ++ [polled]) := by
    rwa [now_snoc]
  have deadline (pending : health.state = .pending) :
      clock polled.time - health.startedMs ≥ 120000 ↔ start + 120000 ≤ polled.time := by
    have early := watch.early pending
    rw [watch.started, ge_iff_le, le_clock_sub (by omega) (by omega)]
    change 120000 ≤ polled.time - start ↔ _
    omega
  -- each way a poll can end moves the watch on by itself
  generalize same : polled.calls = trace at outcome
  have counted := @Watch.counted polls _ _ same
  cases outcome with
  | done settled =>
    have quiet : Justified start polls polled := justified_of_quiet (by rw [same]; rfl)
    refine ⟨kept, watch.started, fun pending => absurd pending settled, fun pending => absurd pending settled,
      fun pending => absurd pending settled, ?_, fun confirmed => ?_, watch.justified.snoc quiet⟩
    · rw [counted.1, counted.2]
      exact watch.once
    · rw [calls_snoc]
      exact List.mem_append_left _ (watch.confirmed confirmed)
  -- the roll-back is the only one: nothing was rolled back while the image was pending
  | late pending elapsed ended =>
    obtain ⟨state, started, unconfirmed, rolled⟩ := ended
    obtain ⟨noConfirm, noRollback⟩ := watch.quiet pending
    have quiet : Justified start polls polled := justified_of_quiet (by rw [same, unconfirmed])
    refine ⟨kept, started.trans watch.started, ?_, ?_, ?_, ?_, ?_, watch.justified.snoc quiet⟩
    · intro impossible
      simp [impossible] at state
    · intro impossible
      simp [impossible] at state
    · intro impossible
      simp [impossible] at state
    · omega
    · intro impossible
      simp [impossible] at state
  | unhealthy pending elapsed secure =>
    have early := (deadline pending).not.mp elapsed
    have quiet : Justified start polls polled := justified_of_quiet (by rw [same]; rfl)
    refine ⟨kept, watch.started, fun _ => ?_, fun _ => ?_, nofun, ?_, fun impossible => ?_,
      watch.justified.snoc quiet⟩
    · rw [now_snoc]
      omega
    · rw [counted.1, counted.2]
      exact watch.quiet pending
    · rw [counted.1, counted.2]
      exact watch.once
    · exact absurd (pending.symm.trans impossible) nofun
  | waiting pending elapsed inputs =>
    have early := (deadline pending).not.mp elapsed
    have quiet : Justified start polls polled := justified_of_quiet (by rw [same]; rfl)
    have healthy : polled.healthy := by
      simp only [Bool.and_eq_true] at inputs
      exact ⟨inputs.1.1, inputs.1.2, inputs.2, by simp [same]⟩
    refine ⟨kept, startWindow_startedMs.trans watch.started, fun _ => ?_, fun _ => ?_, fun _ _ => ?_, ?_,
      fun impossible => ?_, watch.justified.snoc quiet⟩
    · rw [now_snoc]
      omega
    · rw [counted.1, counted.2]
      exact watch.quiet pending
    · exact Window.startWindow (watch.window pending) healthy
    · rw [counted.1, counted.2]
      exact watch.once
    · rw [startWindow_state, pending] at impossible
      cases impossible
  -- the window that has now lasted long enough justifies the confirmation
  | confirmed pending elapsed inputs long =>
    have early := (deadline pending).not.mp elapsed
    have healthy : polled.healthy := by
      simp only [Bool.and_eq_true] at inputs
      exact ⟨inputs.1.1, inputs.1.2, inputs.2, by simp [same]⟩
    have window := Window.startWindow (watch.window pending) healthy
    obtain ⟨noConfirm, noRollback⟩ := watch.quiet pending
    refine ⟨kept, startWindow_startedMs.trans watch.started, nofun, nofun, nofun, ?_, fun _ => ?_,
      watch.justified.snoc (window.justified times (by omega) long)⟩
    · rw [counted.1, counted.2, noConfirm, noRollback]
      exact ⟨Nat.le_refl 1, Nat.zero_le 1⟩
    · rw [calls_snoc, same]
      simp
  | refused pending elapsed inputs long ended =>
    have early := (deadline pending).not.mp elapsed
    have healthy : polled.healthy := by
      simp only [Bool.and_eq_true] at inputs
      exact ⟨inputs.1.1, inputs.1.2, inputs.2, by simp [same]⟩
    have window := Window.startWindow (watch.window pending) healthy
    obtain ⟨state, started, unconfirmed, rolled⟩ := ended
    obtain ⟨noConfirm, noRollback⟩ := watch.quiet pending
    refine ⟨kept, started.trans watch.started, ?_, ?_, ?_, ?_, ?_,
      watch.justified.snoc (window.justified times (by omega) long)⟩
    · intro impossible
      simp [impossible] at state
    · intro impossible
      simp [impossible] at state
    · intro impossible
      simp [impossible] at state
    · rw [counted.1, counted.2, noConfirm, noRollback]
      rw [confirms, List.countP_cons, List.countP_cons, ← confirms, unconfirmed]
      rw [rollbacks, List.countP_cons, List.countP_cons, ← rollbacks]
      simpa using rolled
    · intro impossible
      simp [impossible] at state

theorem watch_of_reached (reached : Reached start productionRequired health polls) :
    Watch start health polls := by
  induction reached with
  | begin run => exact watch_begin run
  | poll polled earlier later gap run ih =>
    have outcome := Model.wp_runs (poll_wp _ _ _) run
    exact ih.poll later gap outcome

theorem Watch.deadline (watch : Watch start health polls) {time : Nat} (later : now start polls ≤ time)
    (gap : time < now start polls + 2 ^ 31) (late : start + 120000 ≤ time) {ready : Bool}
    (outcome : Outcome health (clock time) ready next trace) : next.state ≠ .pending := by
  have expired (pending : health.state = .pending) : clock time - health.startedMs ≥ 120000 := by
    have early := watch.early pending
    have ordered := start_le_now watch.times
    rw [watch.started, ge_iff_le, le_clock_sub (by omega) (by omega)]
    change 120000 ≤ time - start
    omega
  cases outcome with
  | done settled => exact settled
  | late pending elapsed ended =>
    intro impossible
    simp [RolledBack, impossible] at ended
  | unhealthy pending elapsed | waiting pending elapsed | confirmed pending elapsed
  | refused pending elapsed => exact absurd (expired pending) elapsed

/-- A boot is confirmed at most once, in time and after ten healthy seconds; it is rolled back at
most once; what is decided stays decided, and the deadline decides. -/
theorem boot_confirmation (start : Nat) (productionRequired : Bool) (health : OtaBootHealth)
    (polls : List Polled) (reached : Reached start productionRequired health polls) :
    Preceded (Justified start) polls ∧ confirms (calls polls) ≤ 1 ∧ rollbacks (calls polls) ≤ 1 ∧
      (health.state = .confirmed → ⟨.confirmHealthy, true⟩ ∈ calls polls) ∧
      (∀ nowMs sensorsReady queueReady authenticatedHeartbeat next trace, settled health.state →
        backend.Runs (health.poll nowMs sensorsReady queueReady authenticatedHeartbeat) [] next trace →
        next = health ∧ trace = []) ∧
      (∀ time sensorsReady queueReady authenticatedHeartbeat next trace, now start polls ≤ time →
        time < now start polls + 2 ^ 31 → start + 120000 ≤ time →
        backend.Runs (health.poll (clock time) sensorsReady queueReady authenticatedHeartbeat) [] next trace →
        next.state ≠ .pending) := by
  have watch := watch_of_reached reached
  refine ⟨watch.justified, watch.once.1, watch.once.2, watch.confirmed, ?_, ?_⟩
  · intro nowMs sensorsReady queueReady authenticatedHeartbeat next trace decided run
    apply outcome_settled (Model.wp_runs (poll_wp _ _ _) run)
    rcases decided with same | same | same <;> simp [same]
  · intro time sensorsReady queueReady authenticatedHeartbeat next trace later gap late run
    exact watch.deadline later gap late (Model.wp_runs (poll_wp _ _ _) run)

end Run

section Example

def granted : (op : Op) → SignedOtaBackend.Reply op
  | .bootState => .pending
  | .inactiveCapacity => 0
  | .abort => ()
  | .securePosture | .beginInactive _ | .write _ _ | .finishAndVerify | .selectVerified
  | .confirmHealthy | .rollbackPossible | .rollback => true

def began : OtaBootHealth := ((({} : OtaBootHealth).begin (clock 0) true).exec (Model.answering granted) []).1

def pollAt (health : OtaBootHealth) (time : Nat) : OtaBootHealth × Polled :=
  let ran := (health.poll (clock time) true true true).exec (Model.answering granted) []
  (ran.1, ⟨time, true, true, true, ran.2⟩)

theorem reached_pollAt {health : OtaBootHealth} {polls : List Polled} (reached : Reached 0 true health polls)
    (time : Nat) (later : now 0 polls ≤ time) (gap : time < now 0 polls + 2 ^ 31) :
    Reached 0 true (pollAt health time).1 (polls ++ [(pollAt health time).2]) := by
  have run := Model.runs_answering granted (health.poll (clock time) true true true) []
  exact .poll _ reached later gap run

def confirmedPolls : List Polled := [] ++ [(pollAt began 5000).2] ++ [(pollAt (pollAt began 5000).1 15000).2]

theorem boot_confirmation_confirmed :
    (⟨.confirmHealthy, true⟩ : SignedOtaBackend.Exchange) ∈ calls confirmedPolls ∧
      Preceded (Justified 0) confirmedPolls := by
  have first : Reached 0 true began [] :=
    .begin (Model.runs_answering granted (({} : OtaBootHealth).begin (clock 0) true) [])
  have second := reached_pollAt first 5000 (by decide) (by decide)
  have third := reached_pollAt second 15000 (by decide) (by decide)
  obtain ⟨justified, -, -, confirmed, -, -⟩ := boot_confirmation 0 true _ _ third
  exact ⟨confirmed (by decide), justified⟩

end Example

end ApexiDevices.OtaBootHealth
