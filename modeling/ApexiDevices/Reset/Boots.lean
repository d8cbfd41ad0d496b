import ApexiDevices.Reset.Coordinator
import Mathlib.Data.List.Infix

set_option autoImplicit false

/-!
# Owner reset over boots

The device is the trace of what its latch store did. The durable latch is the
last write that took effect, whatever that write reported.
-/

namespace ApexiDevices.OwnerReset

open Device

inductive Event (Clear : Type)
  | boot
  | read (answer : Option Bool)
  | wrote (value reported effective : Bool)
  | cleared (callback : Clear) (succeeded : Bool)

abbrev Trace (Clear : Type) := List (Event Clear)

variable {Clear : Type}

def Event.latch : Event Clear → Bool → Bool
  | .wrote value _ true, _ => value
  | _, latched => latched

@[simp] theorem Event.latch_read (answer : Option Bool) (latched : Bool) :
    (Event.read answer : Event Clear).latch latched = latched := rfl

def latch (start : Bool) (trace : Trace Clear) : Bool :=
  trace.foldl (fun latched event => event.latch latched) start

@[simp] theorem latch_append (start : Bool) (first second : Trace Clear) :
    latch start (first ++ second) = latch (latch start first) second := List.foldl_append

@[simp] theorem latch_cons (start : Bool) (event : Event Clear) (trace : Trace Clear) :
    latch start (event :: trace) = latch (event.latch start) trace := rfl

@[simp] theorem latch_nil (start : Bool) : latch start ([] : Trace Clear) = start := rfl

/-- A read fails or returns the latch; a write reports and takes effect independently. -/
def device (start : Bool) : Model (Store Clear) (Trace Clear) where
  step
    | trace, .getPending, answer, last =>
      (answer = none ∨ answer = some (latch start trace)) ∧ last = trace ++ [.read answer]
    | trace, .markPending value, reported, last =>
      ∃ effective, last = trace ++ [.wrote value reported effective]
    | trace, .clear callback, succeeded, last => last = trace ++ [.cleared callback succeeded]
  torn
    | trace, .getPending, last => last = trace
    | trace, .markPending value, last => ∃ effective, last = trace ++ [.wrote value false effective]
    | trace, .clear callback, last => last = trace ++ [.cleared callback false]

/-- Off, or between two calls of the coordinator of this boot. -/
inductive Power (Clear : Type)
  | off (trace : Trace Clear)
  | on (coordinator : Coordinator) (trace : Trace Clear)

def Power.trace : Power Clear → Trace Clear
  | .off trace => trace
  | .on _ trace => trace

def Power.networkAllowed : Power Clear → Bool
  | .off _ => false
  | .on coordinator _ => coordinator.networkAllowed

/-- Every boot calls `resume` first; power may fail inside every call and between two. -/
inductive Reached (callbacks : List Clear) (start : Bool) : Power Clear → Prop
  | fresh : Reached callbacks start (.off [])
  | boot {trace last : Trace Clear} {coordinator : Coordinator}
      (earlier : Reached callbacks start (.off trace))
      (run : (device start).Runs (({} : Coordinator).resume callbacks) (trace ++ [.boot]) coordinator last) :
      Reached callbacks start (.on coordinator last)
  | bootCut {trace last : Trace Clear} (earlier : Reached callbacks start (.off trace))
      (cut : (device start).Cut (({} : Coordinator).resume callbacks) (trace ++ [.boot]) last) :
      Reached callbacks start (.off last)
  | resume {trace last : Trace Clear} {coordinator next : Coordinator}
      (earlier : Reached callbacks start (.on coordinator trace))
      (run : (device start).Runs (coordinator.resume callbacks) trace next last) :
      Reached callbacks start (.on next last)
  | resumeCut {trace last : Trace Clear} {coordinator : Coordinator}
      (earlier : Reached callbacks start (.on coordinator trace))
      (cut : (device start).Cut (coordinator.resume callbacks) trace last) :
      Reached callbacks start (.off last)
  | request {trace last : Trace Clear} {coordinator next : Coordinator}
      (earlier : Reached callbacks start (.on coordinator trace))
      (run : (device start).Runs (coordinator.request callbacks) trace next last) :
      Reached callbacks start (.on next last)
  | requestCut {trace last : Trace Clear} {coordinator : Coordinator}
      (earlier : Reached callbacks start (.on coordinator trace))
      (cut : (device start).Cut (coordinator.request callbacks) trace last) :
      Reached callbacks start (.off last)
  | powerOff {trace : Trace Clear} {coordinator : Coordinator}
      (earlier : Reached callbacks start (.on coordinator trace)) : Reached callbacks start (.off trace)

def Event.sets : Event Clear → Bool
  | .wrote true _ true => true
  | _ => false

def everSet (start : Bool) (trace : Trace Clear) : Bool := start || trace.any Event.sets

/-- Every callback ran once, in order, and returned true. -/
def passed (callbacks : List Clear) : Trace Clear := callbacks.map (.cleared · true)

/-- The latch is set before, between and after the callbacks of a pass that starts here. -/
def SetThroughout (callbacks : List Clear) (start : Bool) (before : Trace Clear) : Prop :=
  ∀ begun, begun <+: passed callbacks → latch start (before ++ begun) = true

/-- The last time the latch became clear it did so at the end of a full pass. -/
def Cleared (callbacks : List Clear) (start : Bool) (trace : Trace Clear) : Prop :=
  ∃ before reported since,
    trace = before ++ (passed callbacks ++ .wrote false reported true :: since) ∧
      SetThroughout callbacks start before ∧ since.any Event.sets = false

def Guarded (start : Bool) (trace : Trace Clear) : Prop :=
  ∀ before callback succeeded after, trace = before ++ .cleared callback succeeded :: after →
    latch start before = true

structure Sound (callbacks : List Clear) (start : Bool) (trace : Trace Clear) : Prop where
  guarded : Guarded start trace
  cleared : latch start trace = false → everSet start trace = true → Cleared callbacks start trace

/-- A full pass whose clearing write was reported and then read back. -/
def Completes (callbacks : List Clear) (start : Bool) (past future : Trace Clear) : Prop :=
  ∃ between after,
    future = between ++ (passed callbacks ++ .wrote false true true :: .read (some false) :: after) ∧
      SetThroughout callbacks start (past ++ between)

/-- Every request of this boot is followed by a completed pass, also one whose initial write
failed, or reported a success that it was not. -/
def Settled (callbacks : List Clear) (start : Bool) (trace : Trace Clear) : Prop :=
  ∀ past reported effective future, trace = past ++ .wrote true reported effective :: future →
    (∀ event ∈ future, event ≠ .boot) →
    Completes callbacks start (past ++ [.wrote true reported effective]) future

section Trace

variable {callbacks : List Clear} {start : Bool} {trace : Trace Clear}

theorem latch_passed (latched : Bool) {begun : Trace Clear} (early : begun <+: passed callbacks) :
    latch latched begun = latched := by
  have quiet : ∀ event ∈ begun, event.latch latched = latched := by
    intro event present
    obtain ⟨callback, -, rfl⟩ := List.mem_map.mp (early.subset present)
    rfl
  clear early
  induction begun with
  | nil => rfl
  | cons event rest ih =>
    rw [latch_cons, quiet event List.mem_cons_self]
    exact ih fun later present => quiet later (List.mem_cons_of_mem _ present)

theorem setThroughout_of_latch (latched : latch start trace = true) :
    SetThroughout callbacks start trace := by
  intro begun early
  rw [latch_append, latched, latch_passed true early]

theorem split_snoc {before after : Trace Clear} {event last : Event Clear}
    (same : trace ++ [last] = before ++ event :: after) :
    (after = [] ∧ event = last ∧ trace = before) ∨
      ∃ earlier, after = earlier ++ [last] ∧ trace = before ++ event :: earlier := by
  rcases List.eq_nil_or_concat after with rfl | ⟨earlier, final, rfl⟩
  · obtain ⟨rfl, ends⟩ := List.append_inj' same rfl
    exact .inl ⟨rfl, (List.singleton_inj.mp ends).symm, rfl⟩
  · have regrouped : trace ++ [last] = (before ++ event :: earlier) ++ [final] := by simpa using same
    obtain ⟨rfl, ends⟩ := List.append_inj' regrouped rfl
    exact .inr ⟨earlier, by rw [List.singleton_inj.mp ends, List.concat_eq_append], rfl⟩

theorem Guarded.snoc (guarded : Guarded start trace) {last : Event Clear}
    (fresh : ∀ callback succeeded, last = .cleared callback succeeded → latch start trace = true) :
    Guarded start (trace ++ [last]) := by
  intro before callback succeeded after same
  rcases split_snoc same with ⟨-, rfl, rfl⟩ | ⟨earlier, -, split⟩
  · exact fresh callback succeeded rfl
  · exact guarded before callback succeeded earlier split

theorem Cleared.snoc (cleared : Cleared callbacks start trace) {last : Event Clear}
    (quiet : last.sets = false) : Cleared callbacks start (trace ++ [last]) := by
  obtain ⟨before, reported, since, rfl, held, clear⟩ := cleared
  refine ⟨before, reported, since ++ [last], by simp, held, ?_⟩
  simp [clear, quiet]

theorem Completes.snoc {past future : Trace Clear} (completes : Completes callbacks start past future)
    (last : Event Clear) : Completes callbacks start past (future ++ [last]) := by
  obtain ⟨between, after, rfl, held⟩ := completes
  exact ⟨between, after ++ [last], by simp, held⟩

theorem Settled.snoc (settled : Settled callbacks start trace) {last : Event Clear}
    (fresh : ∀ reported effective, last ≠ .wrote true reported effective) :
    Settled callbacks start (trace ++ [last]) := by
  intro past reported effective future same sameBoot
  rcases split_snoc same with ⟨-, rfl, -⟩ | ⟨earlier, rfl, split⟩
  · exact absurd rfl (fresh reported effective)
  · apply Completes.snoc
    exact settled past reported effective earlier split fun event present =>
      sameBoot event (List.mem_append_left _ present)

theorem settled_boot : Settled callbacks start (trace ++ [.boot]) := by
  intro past reported effective future same sameBoot
  rcases split_snoc same with ⟨-, impossible, -⟩ | ⟨earlier, rfl, -⟩
  · exact absurd impossible (by simp)
  · exact absurd rfl (sameBoot .boot (by simp))

theorem Sound.snoc (sound : Sound callbacks start trace) {last : Event Clear}
    (fresh : ∀ callback succeeded, last = .cleared callback succeeded → latch start trace = true)
    (kept : last.sets = false → last.latch (latch start trace) = latch start trace) :
    Sound callbacks start (trace ++ [last]) := by
  refine ⟨sound.guarded.snoc fresh, fun clear ever => ?_⟩
  have quiet : last.sets = false := by
    rcases last with _ | _ | ⟨_ | _, _, _ | _⟩ | _ <;>
      first | rfl | (simp [latch_append, Event.latch] at clear)
  apply Cleared.snoc _ quiet
  apply sound.cleared
  · simpa [kept quiet] using clear
  · simpa [everSet, quiet] using ever

theorem Sound.read (sound : Sound callbacks start trace) (answer : Option Bool) :
    Sound callbacks start (trace ++ [.read answer]) :=
  sound.snoc (fun _ _ impossible => by cases impossible) (fun _ => rfl)

theorem Sound.boot (sound : Sound callbacks start trace) : Sound callbacks start (trace ++ [.boot]) :=
  sound.snoc (fun _ _ impossible => by cases impossible) (fun _ => rfl)

theorem Sound.called (sound : Sound callbacks start trace) (latched : latch start trace = true)
    (callback : Clear) (succeeded : Bool) :
    Sound callbacks start (trace ++ [.cleared callback succeeded]) :=
  sound.snoc (fun _ _ _ => latched) (fun _ => rfl)

theorem Sound.marked (sound : Sound callbacks start trace) (reported effective : Bool) :
    Sound callbacks start (trace ++ [.wrote true reported effective]) := by
  apply sound.snoc (fun _ _ impossible => by cases impossible)
  intro quiet
  cases effective with
  | false => rfl
  | true => cases quiet

/-- The clearing write ends a pass: the only event that may clear the latch. -/
theorem Sound.unmarked (sound : Sound callbacks start (trace ++ passed callbacks))
    (latched : latch start trace = true) (reported effective : Bool) :
    Sound callbacks start (trace ++ passed callbacks ++ [.wrote false reported effective]) := by
  cases effective with
  | false => exact sound.snoc (fun _ _ impossible => by cases impossible) (fun _ => rfl)
  | true =>
    refine ⟨sound.guarded.snoc (fun _ _ impossible => by cases impossible), fun _ _ => ?_⟩
    exact ⟨trace, reported, [], by simp, setThroughout_of_latch latched, rfl⟩

theorem settled_completed (latched : latch start trace = true) :
    Settled callbacks start
      (trace ++ passed callbacks ++ [.wrote false true true] ++ [.read (some false)]) := by
  intro past reported effective future same _
  have regrouped : trace ++ (passed callbacks ++ [.wrote false true true, .read (some false)]) =
      past ++ .wrote true reported effective :: future := by
    simpa using same
  rcases List.append_eq_append_iff.mp regrouped with ⟨between, rfl, tail⟩ | ⟨between, rfl, tail⟩
  · -- The write of the request would lie inside the pass.
    have inside : Event.wrote true reported effective ∈
        passed callbacks ++ [.wrote false true true, .read (some false)] := by
      rw [tail]
      simp
    simp [passed] at inside
  · cases between with
    | nil =>
      have inside : Event.wrote true reported effective ∈
          passed callbacks ++ [.wrote false true true, .read (some false)] := by
        rw [← List.nil_append (passed callbacks ++ _), ← tail]
        simp
      simp [passed] at inside
    | cons event between =>
      obtain ⟨rfl, rfl⟩ := List.cons_eq_cons.mp tail
      refine ⟨between, [], by simp, ?_⟩
      apply setThroughout_of_latch
      simpa using latched

end Trace

end ApexiDevices.OwnerReset
