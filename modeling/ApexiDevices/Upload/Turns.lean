import ApexiDevices.Queue.FailedRuns
import ApexiDevices.Shared.Parts
import ApexiDevices.Upload.LiveUploadAsync

set_option autoImplicit false

/-!
# A device that uploads

The flash, the store of the rotation and the worker, with all exchanges that
the worker has completed. What a turn does outside the queue is one relation.
-/

namespace ApexiDevices

open Device

namespace LiveUploadAsync

/-- The requests that only the worker answers. -/
def PeerOp.ofWorker : PeerOp → Bool
  | .result | .release | .idle | .submit _ => true
  | _ => false

structure Exchange where
  post : Post
  result : HttpsExchange.Result

/-- The worker as the owner of one request sees it; the list is all that the server has answered. -/
structure Worker where
  outstanding : Option Post := none
  exchanges : List Exchange := []

namespace Worker

inductive Step (worker : Worker) : (op : PeerOp) → op.Reply → Worker → Prop
  | nothing : Step worker .result none worker
  | completed {post : Post} (result : HttpsExchange.Result) (sent : worker.outstanding = some post) :
    Step worker .result (some result) { worker with exchanges := ⟨post, result⟩ :: worker.exchanges }
  | release (reply : Unit) : Step worker .release reply { worker with outstanding := none }
  | busy : Step worker .idle false worker
  | free (none : worker.outstanding = none) : Step worker .idle true worker
  | refused (post : Post) : Step worker (.submit post) false worker
  | taken (post : Post) (free : worker.outstanding = none) :
    Step worker (.submit post) true { worker with outstanding := some post }
  | elsewhere (op : PeerOp) (reply : op.Reply) (other : op.ofWorker = false) : Step worker op reply worker

def device : Model Peers Worker where
  step worker := worker.Step
  torn _ _ _ := False

theorem Step.same {worker last : Worker} {op : PeerOp} {reply : op.Reply} (step : worker.Step op reply last)
    (other : op.ofWorker = false) : last = worker := by
  cases step with
  | elsewhere => rfl
  | nothing | busy | free | refused => rfl
  | completed | release | taken => cases other

end Worker

structure Site where
  disk : Disk
  slots : Slots AppBearerRotation.layout := {}
  worker : Worker := {}

namespace Site

def device : Model Parts Site where
  step
    | site, .inl op, reply, last => ∃ disk, Disk.device.step site.disk op reply disk ∧ last = { site with disk }
    | site, .inr (.inl op), reply, last =>
      ∃ slots, AppBearerRotation.nvs.step site.slots op reply slots ∧ last = { site with slots }
    | site, .inr (.inr op), reply, last => ∃ worker, Worker.device.step site.worker op reply worker ∧ last = { site with worker }
  torn
    | site, .inl op, last => ∃ disk, Disk.device.torn site.disk op disk ∧ last = { site with disk }
    | site, .inr (.inl op), last => ∃ slots, AppBearerRotation.nvs.torn site.slots op slots ∧ last = { site with slots }
    | site, .inr (.inr op), last => ∃ worker, Worker.device.torn site.worker op worker ∧ last = { site with worker }

end Site

namespace Worker

/-- A worker that has an answer at the next turn; time does not pass. -/
def handle (answer : HttpsExchange.Result) (worker : Worker) : (op : PeerOp) → op.Reply × Worker
  | .result =>
    match worker.outstanding with
    | none => (none, worker)
    | some post => (some answer, { worker with exchanges := ⟨post, answer⟩ :: worker.exchanges })
  | .release => ((), { worker with outstanding := none })
  | .idle => (worker.outstanding.isNone, worker)
  | .submit post =>
    match worker.outstanding with
    | none => (true, { worker with outstanding := some post })
    | some _ => (false, worker)
  | .workerBegin | .connected => (true, worker)
  | .restartRequired | .hasRotation | .stageDesired _ => (false, worker)
  | .millis | .random => (0, worker)
  | .uploadDeviceId => (.empty, worker)
  | .bearer _ => ("", worker)
  | .statusJson => (ascii "\x7b\x7d", worker)
  | .statusResult _ | .beginRotationFallback | .finishRotationFallback _ => ((), worker)

theorem handle_step (answer : HttpsExchange.Result) (worker : Worker) (op : PeerOp) :
    worker.Step op (worker.handle answer op).1 (worker.handle answer op).2 := by
  obtain ⟨outstanding, exchanges⟩ := worker
  cases op with
  | result => cases outstanding with
    | none => exact .nothing
    | some post => exact .completed answer rfl
  | release => exact .release ()
  | idle => cases outstanding with
    | none => exact .free rfl
    | some post => exact .busy
  | submit post => cases outstanding with
    | none => exact .taken post rfl
    | some other => exact .refused post
  | _ => exact .elsewhere _ _ rfl

end Worker

namespace Site

def handle (answer : HttpsExchange.Result) (site : Site) : (op : Parts.Op) → Parts.Reply op × Site
  | .inl op => ((site.disk.handle op).1, { site with disk := (site.disk.handle op).2 })
  | .inr (.inl op) =>
    ((site.slots.handle (fun _ => false) op).1, { site with slots := (site.slots.handle (fun _ => false) op).2 })
  | .inr (.inr op) => ((site.worker.handle answer op).1, { site with worker := (site.worker.handle answer op).2 })

theorem runs_handle {A : Type} (answer : HttpsExchange.Result) (program : Upload A) (site : Site) :
    device.Runs program site (program.exec (handle answer) site).1 (program.exec (handle answer) site).2 := by
  refine Model.runs_of_handler (fun site op => ?_) program site
  rcases op with op | op | op
  · exact ⟨_, rfl, rfl⟩
  · exact ⟨_, Slots.device_handle _ site.slots op, rfl⟩
  · exact ⟨_, Worker.handle_step answer site.worker op, rfl⟩

theorem runs_handle_pair {A B : Type} (answer : HttpsExchange.Result) (program : Upload (A × B)) (site : Site) :
    device.Runs program site
      ((program.exec (handle answer) site).1.1, (program.exec (handle answer) site).1.2)
      (program.exec (handle answer) site).2 :=
  runs_handle answer program site

end Site

/-- Every run of the program ends like this. -/
def Ends {A : Type} (program : Upload A) (post : A → Site → Prop) (site : Site) : Prop :=
  Site.device.wp program post (fun _ => True) site

namespace Ends

variable {A B : Type} {program : Upload A} {post weaker : A → Site → Prop} {site : Site}

theorem pure {value : A} (here : post value site) : Ends (pure value) post site := ⟨trivial, here⟩

theorem bind {rest : A → Upload B} {post : B → Site → Prop}
    (first : Ends program (fun value middle => Ends (rest value) post middle) site) : Ends (program >>= rest) post site :=
  Model.wp_bind.mpr first

theorem mono (ends : Ends program post site) (implies : ∀ value last, post value last → weaker value last) :
    Ends program weaker site :=
  Model.wp_mono ends implies fun _ _ => trivial

theorem both {other : A → Site → Prop} (first : Ends program post site) (second : Ends program other site) :
    Ends program (fun value last => post value last ∧ other value last) site :=
  Model.wp_mono (Model.wp_and first second) (fun _ _ both => both) fun _ _ => trivial

theorem runs {value : A} {last : Site} (ends : Ends program post site) (run : Site.device.Runs program site value last) :
    post value last :=
  Model.wp_runs ends run

theorem next {rest : A → Upload B} {later : B → Site → Prop} (first : Ends program post site)
    (next : ∀ value middle, post value middle → Ends (rest value) later middle) : Ends (program >>= rest) later site :=
  bind (first.mono next)

theorem flash {program : Flash A}
    (runs : Disk.device.wp program (fun value disk => post value { site with disk }) (fun _ => True) site.disk) :
    Ends (onFlash program) post site := by
  have part : Site.device.left = Disk.device.component Site.disk fun site disk => { site with disk } := rfl
  rw [Ends, onFlash, Model.wp_left, part]
  apply Model.wp_component
  · exact fun _ _ => rfl
  · exact fun _ _ _ => rfl
  · exact fun _ => rfl
  · exact runs

theorem store {program : AppBearerRotation.Auth A}
    (runs : AppBearerRotation.nvs.wp program (fun value slots => post value { site with slots }) (fun _ => True) site.slots) :
    Ends (onStore program) post site := by
  have part : Site.device.right.left = AppBearerRotation.nvs.component Site.slots fun site slots => { site with slots } := rfl
  rw [Ends, onStore, Model.wp_right, Model.wp_left, part]
  apply Model.wp_component
  · exact fun _ _ => rfl
  · exact fun _ _ _ => rfl
  · exact fun _ => rfl
  · exact runs

theorem ask {op : PeerOp} {post : op.Reply → Site → Prop}
    (answers : ∀ reply worker, site.worker.Step op reply worker → post reply { site with worker }) :
    Ends (ask op) post site := by
  have part : Site.device.right.right = Worker.device.component Site.worker fun site worker => { site with worker } := rfl
  rw [Ends, LiveUploadAsync.ask, Model.wp_right, Model.wp_right, part]
  apply Model.wp_component
  · exact fun _ _ => rfl
  · exact fun _ _ _ => rfl
  · exact fun _ => rfl
  · exact ⟨trivial, fun _ torn => torn.elim, fun reply worker step => ⟨trivial, answers reply worker step⟩⟩

theorem asked {op : PeerOp} {post : op.Reply → Site → Prop} (other : op.ofWorker = false)
    (answers : ∀ reply, post reply site) : Ends (LiveUploadAsync.ask op) post site :=
  ask fun reply worker step => by
    rw [step.same other]
    exact answers reply

theorem told {condition : Prop} [Decidable condition] {op : PeerOp} {rest : Upload A} (other : op.ofWorker = false)
    (next : Ends rest post site) :
    Ends (if condition then LiveUploadAsync.ask op >>= fun _ => rest else rest) post site := by
  split
  · exact bind (asked other fun _ => next)
  · exact next

end Ends

/-- The members that say what is to be sent, what is under way and what has been answered. -/
structure Cargo where
  queue : StoreForwardQueue
  operation : Operation
  durableInFlight : Bool
  inFlightPayload : Bytes
  volatilePayload : Bytes
  batchRecords : List Bytes
  batchId : Bytes
  batchPayload : Bytes
  batchAcknowledged : Bool
  batchAckIndex : Nat

section Frame

variable (readers : UploadReaders) (self : LiveUploadAsync)

def cargo : Cargo where
  queue := self.queue
  operation := self.operation
  durableInFlight := self.durableInFlight
  inFlightPayload := self.inFlightPayload
  volatilePayload := self.volatilePayload
  batchRecords := self.batchRecords
  batchId := self.batchId
  batchPayload := self.batchPayload
  batchAcknowledged := self.batchAcknowledged
  batchAckIndex := self.batchAckIndex

/-- Only the bearer's store and members of no upload have changed. -/
structure Aside (before : LiveUploadAsync) (site : Site) (next : LiveUploadAsync) (last : Site) : Prop where
  cargo : next.cargo = before.cargo
  disk : last.disk = site.disk
  worker : last.worker = site.worker

variable {self} {readers}

theorem Aside.refl (site : Site) : Aside self site self site := ⟨rfl, rfl, rfl⟩

theorem Aside.trans {site middle last : Site} {between next : LiveUploadAsync} (first : Aside self site between middle)
    (second : Aside between middle next last) : Aside self site next last :=
  ⟨second.cargo.trans first.cargo, second.disk.trans first.disk, second.worker.trans first.worker⟩

theorem ends_store {A : Type} {program : AppBearerRotation.Auth A} {post : A → Site → Prop} {site : Site}
    (answers : ∀ value slots, post value { site with slots }) : Ends (onStore program) post site :=
  .store (Model.wp_mono (Model.wp_returns (Prog.returns_any program) _ _) (fun value slots _ => answers value slots)
    fun _ _ => trivial)

theorem finishRotation_aside (status : Int) (accepted : Bool) (site : Site) :
    Ends (self.finishRotation status accepted) (Aside self site) site := by
  unfold finishRotation
  split
  case h_1 =>
    split
    · refine .bind (ends_store fun outcome slots => ?_)
      dsimp only
      split <;> exact .pure ⟨rfl, rfl, rfl⟩
    · split
      · exact .bind (ends_store fun _ _ => .pure ⟨rfl, rfl, rfl⟩)
      · exact .pure (.refl site)
  case h_2 =>
    split
    · refine .bind (ends_store fun outcome slots => ?_)
      dsimp only
      split <;> exact .pure ⟨rfl, rfl, rfl⟩
    · exact .pure ⟨rfl, rfl, rfl⟩
  case h_3 => exact .pure (.refl site)

theorem consumeRotation_aside (desired : Document) (site : Site) :
    Ends (self.consumeRotation readers desired) (Aside self site) site := by
  unfold consumeRotation
  split
  · exact .pure (.refl site)
  · refine .bind (ends_store fun outcome slots => ?_)
    dsimp only
    split <;> exact .pure ⟨rfl, rfl, rfl⟩

theorem consumeManagement_aside (desired : Document) (site : Site) :
    Ends (self.consumeManagement readers desired) (Aside self site) site := by
  unfold consumeManagement
  refine .bind (ends_store fun outcome slots => ?_)
  dsimp only
  split <;> exact .pure ⟨rfl, rfl, rfl⟩

theorem consumeDesired_aside (desired : Document) (members : Document.Object) (site : Site) :
    Ends (self.consumeDesired readers desired members) (Aside self site) site := by
  have consumed : Ends (if !self.remoteManagementEnabled then self.consumeRotation readers desired
      else self.consumeManagement readers desired) (Aside self site) site := by
    split
    · exact consumeRotation_aside desired site
    · exact consumeManagement_aside desired site
  unfold consumeDesired
  dsimp only
  split
  · refine .bind (.asked rfl fun staged => ?_)
    split
    · exact .pure ⟨rfl, rfl, rfl⟩
    · exact consumed
  · exact consumed

/-- The capability that comes with a status may have withdrawn the batch. -/
structure Withdrawn (before : LiveUploadAsync) (site : Site) (next : LiveUploadAsync) (last : Site) : Prop where
  cargo : next.cargo = before.cargo ∨ before.batchAcknowledged = false ∧ next.cargo = before.withoutBatch.cargo
  disk : last.disk = site.disk
  worker : last.worker = site.worker

theorem Aside.withdrawn {site last : Site} {next : LiveUploadAsync} (aside : Aside self site next last) :
    Withdrawn self site next last :=
  ⟨.inl aside.cargo, aside.disk, aside.worker⟩

theorem Withdrawn.trans {site middle last : Site} {between next : LiveUploadAsync}
    (first : Withdrawn self site between middle) (second : Aside between middle next last) :
    Withdrawn self site next last :=
  ⟨first.cargo.imp (second.cargo.trans ·) (.imp_right (second.cargo.trans ·)), second.disk.trans first.disk,
    second.worker.trans first.worker⟩

theorem Aside.before {site middle last : Site} {between next : LiveUploadAsync} (first : Aside self site between middle)
    (second : Withdrawn between middle next last) : Withdrawn self site next last := by
  refine ⟨second.cargo.imp (·.trans first.cargo) fun withdrawn => ?_, second.disk.trans first.disk,
    second.worker.trans first.worker⟩
  have cargo : between.withoutBatch.cargo = self.withoutBatch.cargo :=
    congrArg (fun cargo : Cargo => { cargo with batchRecords := [], batchPayload := [], batchId := [] }) first.cargo
  exact ⟨(congrArg Cargo.batchAcknowledged first.cargo).symm.trans withdrawn.1, withdrawn.2.trans cargo⟩

theorem announced_withdrawn (document : Document) (site : Site) :
    Withdrawn self site (self.announced document) site := by
  unfold announced
  dsimp only
  split
  case isTrue withdrawn =>
    rw [Bool.and_eq_true, Bool.not_eq_true'] at withdrawn
    exact ⟨.inr ⟨by simpa using withdrawn.2, rfl⟩, rfl, rfl⟩
  case isFalse => exact ⟨.inl rfl, rfl, rfl⟩

theorem consumeHttpsDesiredConfig_withdrawn (body : CText) (site : Site) :
    Ends (self.consumeHttpsDesiredConfig readers body) (Withdrawn self site) site := by
  unfold consumeHttpsDesiredConfig
  split
  · exact .pure (Aside.refl site).withdrawn
  split
  · exact .pure (Aside.refl site).withdrawn
  · have announced := @announced_withdrawn self ‹Document› site
    dsimp only
    split
    · exact .pure announced
    · exact (consumeDesired_aside _ _ site).mono fun next last aside => announced.trans aside

theorem reportStatus_aside (status : Int) (accepted : Bool) (site : Site) :
    Ends (self.reportStatus status accepted) (Aside self site) site := by
  unfold reportStatus
  split
  · split
    · exact .bind (.asked rfl fun _ => .pure ⟨rfl, rfl, rfl⟩)
    · exact .pure ⟨rfl, rfl, rfl⟩
  · split
    · exact .pure (.refl site)
    · refine .bind (.asked rfl fun rotates => ?_)
      split
      · exact .pure ⟨rfl, rfl, rfl⟩
      · exact .bind (.asked rfl fun _ => .pure (.refl site))

theorem hurried_aside (site : Site) : Ends self.hurried (Aside self site) site := by
  unfold hurried
  split
  · refine .bind (.asked rfl fun rotates => ?_)
    split <;> exact .pure ⟨rfl, rfl, rfl⟩
  · split <;> exact .pure ⟨rfl, rfl, rfl⟩

theorem heartbeat_withdrawn (now : UInt32) (body : CText) (site : Site) :
    Ends (self.heartbeat readers now body) (Withdrawn self site) site := by
  refine .next (consumeHttpsDesiredConfig_withdrawn body site) fun consumed middle first => ?_
  exact (hurried_aside middle).mono fun next last second => ⟨(first.trans second).cargo, second.disk.trans first.disk,
    second.worker.trans first.worker⟩

theorem finishStatus_withdrawn (now : UInt32) (result : HttpsExchange.Result) (accepted : Bool) (site : Site) :
    Ends (self.finishStatus readers now result accepted) (Withdrawn self site) site := by
  unfold finishStatus
  refine .next (finishRotation_aside _ _ site) fun rotated middle first => ?_
  refine .next (reportStatus_aside _ _ middle) fun reported later second => ?_
  have aside : Aside self site reported later :=
    ⟨second.cargo.trans first.cargo, second.disk.trans first.disk, second.worker.trans first.worker⟩
  split
  · exact (heartbeat_withdrawn _ _ later).mono fun next last third => aside.before third
  · exact .pure aside.withdrawn

end Frame

end LiveUploadAsync

end ApexiDevices
