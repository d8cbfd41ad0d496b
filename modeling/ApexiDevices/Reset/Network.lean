import ApexiDevices.Reset.Boots

set_option autoImplicit false

namespace ApexiDevices.OwnerReset

open Device

variable {Clear : Type} {callbacks : List Clear} {start : Bool} {trace : Trace Clear}

section Store

variable {crash : Trace Clear → Prop}

theorem wp_getPending {post : Option Bool → Trace Clear → Prop} (before : crash trace)
    (answered : ∀ answer, answer = none ∨ answer = some (latch start trace) →
      crash (trace ++ [.read answer]) ∧ post answer (trace ++ [.read answer])) :
    (device start).wp getPending post crash trace := by
  refine ⟨before, fun last torn => torn ▸ before, ?_⟩
  rintro answer last ⟨possible, rfl⟩
  exact answered answer possible

theorem wp_markPending {value : Bool} {post : Bool → Trace Clear → Prop} (before : crash trace)
    (written : ∀ reported effective, crash (trace ++ [.wrote value reported effective]) ∧
      post reported (trace ++ [.wrote value reported effective])) :
    (device start).wp (markPending value) post crash trace := by
  refine ⟨before, ?_, ?_⟩
  · rintro last ⟨effective, rfl⟩
    exact (written false effective).1
  · rintro reported last ⟨effective, rfl⟩
    exact written reported effective

theorem wp_clear {callback : Clear} {post : Bool → Trace Clear → Prop} (before : crash trace)
    (ran : ∀ succeeded, crash (trace ++ [.cleared callback succeeded]) ∧
      post succeeded (trace ++ [.cleared callback succeeded])) :
    (device start).wp (clear callback) post crash trace := by
  refine ⟨before, fun last torn => torn ▸ (ran false).1, ?_⟩
  rintro succeeded last rfl
  exact ran succeeded

end Store

/-- What a call leaves in memory, next to what it left in the store. -/
structure Ends (callbacks : List Clear) (start : Bool) (coordinator : Coordinator)
    (trace : Trace Clear) : Prop where
  sound : Sound callbacks start trace
  settled : coordinator.requested = false → Settled callbacks start trace
  clear : coordinator.networkAllowed = true →
    coordinator.requested = false ∧ latch start trace = false ∧
      ∃ prior, trace = prior ++ [.read (some false)]

namespace Coordinator

variable {coordinator : Coordinator}

theorem clearAll_wp (rest : List Clear) (cleared : Bool) (sound : Sound callbacks start trace)
    (latched : latch start trace = true) :
    (device start).wp (clearAll rest cleared)
      (fun all last => Sound callbacks start last ∧ latch start last = true ∧
        (Settled callbacks start trace → Settled callbacks start last) ∧
        (all = true → cleared = true ∧ last = trace ++ passed rest))
      (Sound callbacks start) trace := by
  induction rest generalizing cleared trace with
  | nil => exact ⟨sound, sound, latched, id, fun all => ⟨all, (List.append_nil _).symm⟩⟩
  | cons callback rest ih =>
    refine Model.wp_bind.mpr (wp_clear sound fun succeeded => ?_)
    have called := sound.called latched callback succeeded
    have still : latch start (trace ++ [.cleared callback succeeded]) = true := by
      rw [latch_append]
      exact latched
    refine ⟨called, Model.wp_mono (ih (succeeded && cleared) called still) ?_ fun _ same => same⟩
    rintro all last ⟨sound, latched, settled, every⟩
    refine ⟨sound, latched, fun before => settled (before.snoc (by simp)), fun done => ?_⟩
    obtain ⟨both, rfl⟩ := every done
    obtain ⟨rfl, rfl⟩ := Bool.and_eq_true_iff.mp both
    exact ⟨rfl, by simp [passed]⟩

theorem finish_wp (sound : Sound callbacks start trace) (latched : latch start trace = true)
    (settled : coordinator.requested = false → Settled callbacks start trace) :
    (device start).wp (coordinator.finish callbacks) (Ends callbacks start)
      (Sound callbacks start) trace := by
  refine Model.wp_then (clearAll_wp callbacks true sound latched) (fun _ same => same) ?_
  rintro all last ⟨sound, stillLatched, kept, every⟩
  cases all with
  | false => exact ⟨sound, sound, fun quiet => kept (settled quiet), nofun⟩
  | true =>
    obtain ⟨-, rfl⟩ := every rfl
    -- the write may report a failure and take effect, or the other way round: the latch is read back
    refine Model.wp_bind.mpr (wp_markPending sound fun reported effective => ?_)
    have unmarked := sound.unmarked latched reported effective
    have marked (quiet : coordinator.requested = false) :
        Settled callbacks start (trace ++ passed callbacks ++ [.wrote false reported effective]) :=
      (kept (settled quiet)).snoc (by simp)
    refine ⟨unmarked, ?_⟩
    cases reported with
    | false => exact ⟨unmarked, unmarked, marked, nofun⟩
    | true =>
      refine Model.wp_bind.mpr (wp_getPending unmarked fun answer possible => ?_)
      refine ⟨unmarked.read answer, ?_⟩
      have stored : Ends callbacks start { coordinator with result := .storageError }
          (trace ++ passed callbacks ++ [.wrote false true effective] ++ [.read answer]) :=
        ⟨unmarked.read answer, fun quiet => (marked quiet).snoc (by simp), nofun⟩
      rcases answer with _ | _ | _
      · exact ⟨unmarked.read none, stored⟩
      · -- The latch reads back clear, so the write took effect.
        have clear : latch start (trace ++ passed callbacks ++ [.wrote false true effective]) = false := by
          simpa using possible.symm
        have effect : effective = true := by
          cases effective with
          | true => rfl
          | false =>
            rw [latch_append, stillLatched] at clear
            cases clear
        subst effect
        refine ⟨unmarked.read (some false), unmarked.read (some false), ?_, ?_⟩
        · exact fun _ => settled_completed latched
        · refine fun _ => ⟨rfl, ?_, _, rfl⟩
          rw [latch_append, clear]
          rfl
      · exact ⟨unmarked.read (some true), stored⟩

theorem request_wp (sound : Sound callbacks start trace) :
    (device start).wp (coordinator.request callbacks) (Ends callbacks start)
      (Sound callbacks start) trace := by
  refine Model.wp_bind.mpr (wp_markPending sound fun reported effective => ?_)
  have marked := sound.marked reported effective
  refine ⟨marked, ?_⟩
  cases reported with
  | false =>
    exact ⟨marked, marked, nofun, nofun⟩
  | true =>
    refine Model.wp_bind.mpr (wp_getPending marked fun answer possible => ?_)
    have read := marked.read answer
    have stored : Ends callbacks start { result := .storageError, requested := true }
        (trace ++ [.wrote true true effective] ++ [.read answer]) :=
      ⟨read, nofun, nofun⟩
    refine ⟨read, ?_⟩
    rcases answer with _ | _ | _
    · exact ⟨read, stored⟩
    · exact ⟨read, stored⟩
    · apply finish_wp read
      · rw [latch_append]
        simpa using possible.symm
      · nofun

theorem resume_wp (sound : Sound callbacks start trace)
    (settled : coordinator.requested = false → Settled callbacks start trace) :
    (device start).wp (coordinator.resume callbacks) (Ends callbacks start)
      (Sound callbacks start) trace := by
  refine Model.wp_bind.mpr (wp_getPending sound fun answer possible => ?_)
  have read := sound.read answer
  have quiet (unrequested : coordinator.requested = false) :
      Settled callbacks start (trace ++ [.read answer]) :=
    (settled unrequested).snoc (by simp)
  refine ⟨read, ?_⟩
  rcases answer with _ | _ | _
  · exact ⟨read, read, quiet, nofun⟩
  · have clear : latch start trace = false := by simpa using possible.symm
    rcases same : coordinator.requested with _ | _
    · simp only [Bool.false_eq_true, if_false]
      refine ⟨read, read, fun _ => quiet same, fun _ => ⟨rfl, ?_, trace, rfl⟩⟩
      rw [latch_append, clear]
      rfl
    · simp only [if_true]
      exact request_wp read
  · apply finish_wp read
    · rw [latch_append]
      simpa using possible.symm
    · exact quiet

end Coordinator

/-- What holds of every state a boot or a call can leave. -/
def Power.Holds (callbacks : List Clear) (start : Bool) : Power Clear → Prop
  | .off trace => Sound callbacks start trace
  | .on coordinator trace => Ends callbacks start coordinator trace

theorem sound_nil : Sound callbacks start ([] : Trace Clear) := by
  refine ⟨fun before callback succeeded after same => ?_, fun clear ever => ?_⟩
  · exact absurd same (by simp)
  · simp only [everSet, List.any_nil, Bool.or_false] at ever
    exact absurd (clear.symm.trans ever) (by simp)

theorem holds_of_reached {state : Power Clear} (reached : Reached callbacks start state) :
    state.Holds callbacks start := by
  induction reached with
  | fresh => exact sound_nil
  | boot earlier run ih =>
    have ends := Model.wp_runs (Coordinator.resume_wp (Sound.boot ih) fun _ => settled_boot) run
    exact ends
  | bootCut earlier cut ih =>
    have crashed := Model.wp_cut (Coordinator.resume_wp (Sound.boot ih) fun _ => settled_boot) cut
    exact crashed
  | resume earlier run ih =>
    have ends := Model.wp_runs (Coordinator.resume_wp ih.sound ih.settled) run
    exact ends
  | resumeCut earlier cut ih =>
    have crashed := Model.wp_cut (Coordinator.resume_wp ih.sound ih.settled) cut
    exact crashed
  | request earlier run ih =>
    have ends := Model.wp_runs (Coordinator.request_wp ih.sound) run
    exact ends
  | requestCut earlier cut ih =>
    have crashed := Model.wp_cut (Coordinator.request_wp ih.sound) cut
    exact crashed
  | powerOff earlier ih => exact ih.sound

/-- The pass that last cleared the latch, and the read that then found it clear. -/
theorem Ends.pass {coordinator : Coordinator} (ends : Ends callbacks start coordinator trace)
    (allowed : coordinator.networkAllowed = true) (ever : everSet start trace = true) :
    ∃ before reported since,
      trace = before ++ (passed callbacks ++
        .wrote false reported true :: (since ++ [.read (some false)])) ∧
        SetThroughout callbacks start before ∧ since.any Event.sets = false := by
  obtain ⟨-, clear, prior, final⟩ := ends.clear allowed
  obtain ⟨before, reported, since, same, held, quiet⟩ := ends.sound.cleared clear ever
  rcases List.eq_nil_or_concat since with rfl | ⟨since, last, rfl⟩
  · have wrote : prior ++ [.read (some false)] =
        (before ++ passed callbacks) ++ [.wrote false reported true] := by
      rw [← final, same, List.append_assoc]
    obtain ⟨-, impossible⟩ := List.append_inj' wrote rfl
    cases impossible
  · rw [List.concat_eq_append] at same quiet
    have regrouped : prior ++ [.read (some false)] =
        (before ++ (passed callbacks ++ .wrote false reported true :: since)) ++ [last] := by
      rw [← final, same]
      simp
    obtain ⟨-, read⟩ := List.append_inj' regrouped rfl
    obtain rfl := List.singleton_inj.mp read
    rw [List.any_append, Bool.or_eq_false_iff] at quiet
    exact ⟨before, reported, since, same, held, quiet.1⟩

/-- Network access follows a full pass over every latch that was ever set, no callback runs
without a durable latch, and every request of this boot keeps the network off until such a pass. -/
theorem network_after_full_pass (callbacks : List Clear) (start : Bool) (state : Power Clear)
    (reached : Reached callbacks start state) :
    (state.networkAllowed = true → everSet start state.trace = true →
      ∃ before reported since,
        state.trace = before ++ (passed callbacks ++
          .wrote false reported true :: (since ++ [.read (some false)])) ∧
          SetThroughout callbacks start before ∧ since.any Event.sets = false) ∧
      Guarded start state.trace ∧
      (state.networkAllowed = true → Settled callbacks start state.trace) := by
  have holds := holds_of_reached reached
  cases state with
  | off trace => exact ⟨nofun, holds.guarded, nofun⟩
  | on coordinator trace =>
    exact ⟨holds.pass, holds.sound.guarded, fun allowed => holds.settled (holds.clear allowed).1⟩

/-- A reset whose first write reports a failure although it took effect, completed by `resume`. -/
def retried : Power Unit :=
  .on { result := .completed } [.boot, .read (some false), .wrote true false true, .read (some true),
    .cleared () true, .wrote false true true, .read (some false)]

theorem reached_retried : Reached [()] false retried := by
  have booted : Reached [()] false
      (.on { result := .noResetNeeded } [.boot, .read (some false)] : Power Unit) :=
    .boot .fresh (.call ⟨.inr rfl, rfl⟩ (.done _ _))
  have write : (device false).step [.boot, .read (some false)] (.markPending true) false
      ([.boot, .read (some false), .wrote true false true] : Trace Unit) := ⟨true, rfl⟩
  have refused : Reached [()] false (.on { result := .storageError, requested := true }
      [.boot, .read (some false), .wrote true false true] : Power Unit) :=
    .request booted (.call write (.done _ _))
  have unwrite : (device false).step
      [.boot, .read (some false), .wrote true false true, .read (some true), .cleared () true]
      (.markPending false) true ([.boot, .read (some false), .wrote true false true,
        .read (some true), .cleared () true, .wrote false true true] : Trace Unit) := ⟨true, rfl⟩
  have cleared : (device false).step
      [.boot, .read (some false), .wrote true false true, .read (some true)] (.clear ()) true
      ([.boot, .read (some false), .wrote true false true, .read (some true),
        .cleared () true] : Trace Unit) := rfl
  exact .resume refused (.call ⟨.inr rfl, rfl⟩
    (.call cleared (.call unwrite (.call ⟨.inr rfl, rfl⟩ (.done _ _)))))

theorem network_after_full_pass_retried :
    (∃ before reported since, retried.trace = before ++ (passed [()] ++
        .wrote false reported true :: (since ++ [.read (some false)])) ∧
        SetThroughout [()] false before ∧ since.any Event.sets = false) ∧
      Guarded false retried.trace ∧ Settled [()] false retried.trace := by
  obtain ⟨pass, guarded, settled⟩ := network_after_full_pass [()] false retried reached_retried
  exact ⟨pass rfl rfl, guarded, settled rfl⟩

end ApexiDevices.OwnerReset
