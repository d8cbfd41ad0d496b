import ApexiDevices.Dash.SystemEvents

set_option autoImplicit false

/-!
# Event forwarding from the dash to the logger

Notifications and acknowledgements travel in order. The first one in flight may
be lost, or arrive and stay to arrive again; a new connection drops them all.
-/

namespace ApexiDevices.EventLink

open Device SystemEvents

/-- A notification, with the queue head it was sent for and the number of heads popped before. -/
structure Notification where
  data : Bytes
  head : Event
  generation : Nat

structure Ack where
  boot : UInt32
  seq : UInt32
  generation : Nat

/-- What no code reads: which notifications fill the receiver, and the events it completed. -/
structure Trace where
  generation : Nat := 0
  -- the last event popped in this connection
  popped : Option Event := none
  filled : List Notification := []
  accepted : List (Event × List Event) := []

def Trace.fill (trace : Trace) (receiver : Receiver) (notification : Notification) : List Notification :=
  if receiver.next = 0 then []
  else if receiver.next = 1 then [notification] else trace.filled ++ [notification]

structure Link where
  boot : UInt32
  eventSeq : UInt32 := 0
  queue : Queue 64 := {}
  last : UInt32 := 0
  part : Nat := 0
  previousSeq : UInt32 := 0
  connected : Bool := false
  notifications : List Notification := []
  acks : List Ack := []
  receiver : Receiver := {}
  -- receivedEvent_, while eventReady_
  ready : Option (Event × Nat) := none
  lastEventMs : UInt32 := 0
  trace : Trace := {}

inductive Action where
  | dashEvent (code : Code) (ms value : UInt32) (severity : UInt8)
  | service (now : UInt32)
  | deliver (again : Bool)
  | lose
  | publish (now : UInt32) (durable : Bool)
  | deliverAck (again : Bool)
  | loseAck
  | connect
  | disconnect

namespace Link

def dashEvent (link : Link) (code : Code) (ms value : UInt32) (severity : UInt8) : Link :=
  let seq := link.eventSeq + 1
  { link with
    eventSeq := seq
    queue := link.queue.push
      { boot := link.boot, seq, ms, value, severity, code, durationMs := 0, httpStatus := 0, method := 0,
        version := 1 } }

def servicePart (link : Link) (event : Event) : Nat := if link.previousSeq ≠ event.seq then 0 else link.part

def spacing (link : Link) : UInt32 := if link.part ≠ 0 then 40 else 1000

def service (link : Link) (now : UInt32) : Link :=
  if !link.connected || now - link.last < link.spacing then link
  else
    match link.queue.front with
    | none => { link with last := now }
    | some event =>
      { link with
        last := now
        previousSeq := event.seq
        part := (link.servicePart event + 1) % 4
        notifications := link.notifications ++
          [⟨frame event (link.servicePart event), event, link.trace.generation⟩] }

/-- `onEvent` -/
def receive (link : Link) (notification : Notification) : Link :=
  let outcome := link.receiver.accept notification.data
  { link with
    receiver := outcome.2
    ready := match outcome.1 with
      | none => link.ready
      | some event => some (event, notification.generation)
    trace := { link.trace with
      filled := link.trace.fill outcome.2 notification
      accepted := link.trace.accepted ++ outcome.1.toList.map fun event =>
        (event, (link.trace.filled ++ [notification]).map Notification.head) } }

def publish (link : Link) (now : UInt32) (durable : Bool) : Link :=
  if !link.connected || now - link.lastEventMs < 1000 then link
  else
    match link.ready with
    | none => { link with lastEventMs := now }
    | some (event, generation) =>
      { link with
        lastEventMs := now
        ready := none
        acks := if durable then link.acks ++ [⟨event.boot, event.seq, generation⟩] else link.acks }

/-- `EventCallbacks::onWrite` -/
def onWrite (link : Link) (ack : Ack) : Link :=
  match link.queue.front with
  | none => link
  | some event =>
    if event.boot = ack.boot ∧ event.seq = ack.seq then
      { link with
        queue := link.queue.pop
        trace := { link.trace with generation := link.trace.generation + 1, popped := some event } }
    else link

def act (link : Link) : Action → Link
  | .dashEvent code ms value severity => link.dashEvent code ms value severity
  | .service now => link.service now
  | .deliver again =>
    match link.notifications with
    | [] => link
    | first :: rest => { link with notifications := if again then first :: rest else rest }.receive first
  | .lose => { link with notifications := link.notifications.tail }
  | .publish now durable => link.publish now durable
  | .deliverAck again =>
    match link.acks with
    | [] => link
    | first :: rest => { link with acks := if again then first :: rest else rest }.onWrite first
  | .loseAck => { link with acks := link.acks.tail }
  | .connect =>
    { link with
      connected := true, notifications := [], acks := [], receiver := {}, ready := none
      trace := { link.trace with popped := none, filled := [] } }
  | .disconnect => { link with connected := false, notifications := [], acks := [] }

end Link

inductive Reached (allowed : Link → Prop) : Link → Prop
  | start (boot : UInt32) : Reached allowed { boot }
  | step {link : Link} (earlier : Reached allowed link) (ok : allowed link) (action : Action) :
      Reached allowed (link.act action)

/-- Every event accepted is the one queue head its four parts were sent for. -/
def Faithful (link : Link) : Prop :=
  ∀ event heads, (event, heads) ∈ link.trace.accepted → heads.length = 4 ∧ ∀ head ∈ heads, head = event

/-- The head does not carry the tag of the event popped before it in this connection. -/
def Apart (link : Link) : Prop :=
  ∀ head popped, link.queue.front = some head → link.trace.popped = some popped → head.tag ≠ popped.tag

/-- The event was the queue's head at a generation: it still is, or it is the one popped last. -/
def Link.Sends (link : Link) (generation : Nat) (event : Event) : Prop :=
  (generation = link.trace.generation ∧ link.queue.front = some event) ∨
    (generation + 1 = link.trace.generation ∧ link.trace.popped = some event)

/-- Acknowledgements to come: those in flight, then the one for the event waiting to be logged. -/
def Link.answers (link : Link) : List Ack :=
  link.acks ++ link.ready.toList.map fun (event, generation) => ⟨event.boot, event.seq, generation⟩

structure Invariant (link : Link) : Prop where
  part : link.part < 4
  flight : ∀ notification ∈ link.notifications,
    (∃ part < 4, notification.data = frame notification.head part) ∧
      link.Sends notification.generation notification.head
  filled : ∀ notification ∈ link.trace.filled, link.Sends notification.generation notification.head
  order : (link.trace.filled ++ link.notifications).Pairwise fun earlier later =>
    earlier.generation ≤ later.generation
  answered : ∀ ack ∈ link.answers, ∃ event, link.Sends ack.generation event ∧ ack.boot = event.boot ∧ ack.seq = event.seq
  answerOrder : link.answers.Pairwise fun earlier later => earlier.generation ≤ later.generation
  -- what was acknowledged has been received: no part of an older event comes any more
  seen : ∀ ack ∈ link.answers, ∀ notification ∈ link.trace.filled ++ link.notifications,
    ack.generation ≤ notification.generation
  size : link.receiver.bytes.length = 60
  count : link.trace.filled.length = link.receiver.next
  parts : ∀ notification ∈ link.trace.filled, notification.head.tag = link.receiver.sequence ∧
    link.receiver.bytes.take (link.receiver.next * 17) = notification.head.bytes.take (link.receiver.next * 17)
  faithful : Faithful link

section Steps

variable {link next : Link} {notification : Notification}

theorem Link.Sends.unique {generation : Nat} {event other : Event} (sends : link.Sends generation event)
    (same : link.Sends generation other) : event = other := by
  rcases sends with ⟨now, front⟩ | ⟨before, popped⟩ <;> rcases same with ⟨now', front'⟩ | ⟨before', popped'⟩
  · exact Option.some.inj (front.symm.trans front')
  · omega
  · omega
  · exact Option.some.inj (popped.symm.trans popped')

theorem Link.Sends.same_tag (apart : Apart link) {generation later : Nat} {event other : Event}
    (sends : link.Sends generation event) (same : link.Sends later other) (order : generation ≤ later)
    (tags : event.tag = other.tag) : generation = later ∧ event = other := by
  rcases sends with ⟨now, front⟩ | ⟨before, popped⟩ <;> rcases same with ⟨now', front'⟩ | ⟨before', popped'⟩
  · exact ⟨now.trans now'.symm, Option.some.inj (front.symm.trans front')⟩
  · omega
  · exact absurd tags.symm (apart other event front' popped)
  · exact ⟨by omega, Option.some.inj (popped.symm.trans popped')⟩

theorem Link.Sends.le {generation : Nat} {event : Event} (sends : link.Sends generation event) :
    generation ≤ link.trace.generation := by
  rcases sends with ⟨now, -⟩ | ⟨before, -⟩ <;> omega

/-- A step that only takes messages out of flight; `floor` is the oldest generation left. -/
theorem Invariant.shrink (inv : Invariant link) (part : next.part < 4) (floor : Nat)
    (sends : ∀ generation event, floor ≤ generation → link.Sends generation event → next.Sends generation event)
    (young : ∀ notification ∈ link.trace.filled ++ link.notifications, floor ≤ notification.generation)
    (youngAnswers : ∀ ack ∈ link.answers, floor ≤ ack.generation)
    (notifications : next.notifications.Sublist link.notifications) (answers : next.answers.Sublist link.answers)
    (receiver : next.receiver = link.receiver) (filled : next.trace.filled = link.trace.filled)
    (accepted : next.trace.accepted = link.trace.accepted) : Invariant next where
  part := part
  flight notification member := by
    have before := notifications.subset member
    obtain ⟨part, sent⟩ := inv.flight notification before
    exact ⟨part, sends _ _ (young notification (List.mem_append_right _ before)) sent⟩
  filled notification member := by
    rw [filled] at member
    exact sends _ _ (young notification (List.mem_append_left _ member)) (inv.filled notification member)
  order := by
    rw [filled]
    exact inv.order.sublist (notifications.append_left _)
  answered ack member := by
    have before := answers.subset member
    obtain ⟨event, sent, same⟩ := inv.answered ack before
    exact ⟨event, sends _ _ (youngAnswers ack before) sent, same⟩
  answerOrder := inv.answerOrder.sublist answers
  seen ack member notification present := by
    rw [filled] at present
    exact inv.seen ack (answers.subset member) notification ((notifications.append_left _).subset present)
  size := by rw [receiver, inv.size]
  count := by rw [filled, receiver, inv.count]
  parts := by
    rw [filled, receiver]
    exact inv.parts
  faithful := by
    unfold Faithful
    rw [accepted]
    exact inv.faithful

theorem Invariant.keep (inv : Invariant link) (part : next.part < 4)
    (sends : ∀ generation event, link.Sends generation event → next.Sends generation event)
    (notifications : next.notifications.Sublist link.notifications) (answers : next.answers.Sublist link.answers)
    (receiver : next.receiver = link.receiver) (filled : next.trace.filled = link.trace.filled)
    (accepted : next.trace.accepted = link.trace.accepted) : Invariant next :=
  inv.shrink part 0 (fun generation event _ => sends generation event) (fun _ _ => Nat.zero_le _)
    (fun _ _ => Nat.zero_le _) notifications answers receiver filled accepted

theorem dashEvent_invariant (inv : Invariant link) (code : Code) (ms value : UInt32) (severity : UInt8) :
    Invariant (link.dashEvent code ms value severity) := by
  refine inv.keep inv.part ?_ (List.Sublist.refl _) (List.Sublist.refl _) rfl rfl rfl
  rintro generation event (⟨now, front⟩ | before)
  · exact .inl ⟨now, Queue.front_push front⟩
  · exact .inr before

theorem servicePart_lt (small : link.part < 4) (event : Event) : link.servicePart event < 4 := by
  unfold Link.servicePart
  split
  · decide
  · exact small

theorem service_invariant (inv : Invariant link) (now : UInt32) :
    Invariant (link.service now) := by
  unfold Link.service
  split
  · exact inv
  split
  · exact inv.keep inv.part (fun _ _ sends => sends) (List.Sublist.refl _) (List.Sublist.refl _) rfl rfl rfl
  -- the new notification is the head's, behind all that are in flight
  · rename_i event front
    have fresh : link.Sends link.trace.generation event := .inl ⟨rfl, front⟩
    have known (notification : Notification) (member : notification ∈ link.trace.filled ++ link.notifications) :
        link.Sends notification.generation notification.head := by
      rcases List.mem_append.mp member with filled | flight
      · exact inv.filled notification filled
      · exact (inv.flight notification flight).2
    refine ⟨Nat.mod_lt _ (by decide), ?_, inv.filled, ?_, inv.answered, inv.answerOrder, ?_, inv.size, inv.count,
      inv.parts, inv.faithful⟩
    · intro notification member
      rcases List.mem_append.mp member with earlier | new
      · exact inv.flight notification earlier
      · rw [List.mem_singleton.mp new]
        exact ⟨⟨_, servicePart_lt inv.part event, rfl⟩, fresh⟩
    · rw [← List.append_assoc]
      apply List.pairwise_append.mpr
      refine ⟨inv.order, List.pairwise_singleton _ _, ?_⟩
      intro earlier member later new
      rw [List.mem_singleton.mp new]
      exact (known earlier member).le
    · intro ack member notification present
      rw [← List.append_assoc] at present
      rcases List.mem_append.mp present with earlier | new
      · exact inv.seen ack member notification earlier
      · obtain ⟨acked, sent, -⟩ := inv.answered ack member
        rw [List.mem_singleton.mp new]
        exact sent.le

theorem connect_invariant (inv : Invariant link) : Invariant (link.act .connect) where
  part := inv.part
  flight _ impossible := absurd impossible (by simp [Link.act])
  filled _ impossible := absurd impossible (by simp [Link.act])
  order := List.Pairwise.nil
  answered _ impossible := absurd impossible (by simp [Link.act, Link.answers])
  answerOrder := List.Pairwise.nil
  seen _ impossible := absurd impossible (by simp [Link.act, Link.answers])
  size := rfl
  count := rfl
  parts _ impossible := absurd impossible (by simp [Link.act])
  faithful := inv.faithful

theorem publish_invariant (inv : Invariant link) (now : UInt32) (durable : Bool) :
    Invariant (link.publish now durable) := by
  unfold Link.publish
  split
  · exact inv
  split
  · exact inv.keep inv.part (fun _ _ sends => sends) (List.Sublist.refl _) (List.Sublist.refl _) rfl rfl rfl
  · rename_i event generation ready
    refine inv.keep inv.part (fun _ _ sends => sends) (List.Sublist.refl _) ?_ rfl rfl rfl
    unfold Link.answers
    rw [ready]
    cases durable <;> simp

/-- An acknowledgement that matches the head is for the head, so all older parts are gone. -/
theorem onWrite_invariant (inv : Invariant link) (apart : Apart link) {ack : Ack} {acked : Event}
    (sent : link.Sends ack.generation acked) (seq : ack.seq = acked.seq)
    (oldest : ∀ later ∈ link.answers, ack.generation ≤ later.generation)
    (seen : ∀ notification ∈ link.trace.filled ++ link.notifications, ack.generation ≤ notification.generation) :
    Invariant (link.onWrite ack) := by
  unfold Link.onWrite
  split
  · exact inv
  rename_i event front
  split
  · rename_i same
    have tags : acked.tag = event.tag := by rw [Event.tag, Event.tag, same.2, seq]
    have current : ack.generation = link.trace.generation :=
      (sent.same_tag apart (.inl ⟨rfl, front⟩) sent.le tags).1
    refine inv.shrink inv.part link.trace.generation ?_ (current ▸ seen) (current ▸ oldest) (List.Sublist.refl _)
      (List.Sublist.refl _) rfl rfl rfl
    rintro generation head young (⟨now, here⟩ | ⟨before, -⟩)
    · exact .inr ⟨by rw [now], front.symm.trans here ▸ rfl⟩
    · omega
  · exact inv

theorem fill_sublist (trace : Trace) (receiver : Receiver) (notification : Notification) :
    (trace.fill receiver notification).Sublist (trace.filled ++ [notification]) := by
  unfold Trace.fill
  split
  · exact List.nil_sublist _
  split
  · exact List.sublist_append_right _ _
  · exact List.Sublist.refl _

/-- A notification that arrives: sent for a head, and no older than what came before it. -/
structure Arrives (link : Link) (notification : Notification) : Prop where
  data : ∃ part < 4, notification.data = frame notification.head part
  sent : link.Sends notification.generation notification.head
  after : ∀ earlier ∈ link.trace.filled, earlier.generation ≤ notification.generation
  before : ∀ later ∈ link.notifications, notification.generation ≤ later.generation
  seen : ∀ ack ∈ link.answers, ack.generation ≤ notification.generation

theorem Arrives.order (arrives : Arrives link notification) (inv : Invariant link) :
    ((link.trace.filled ++ [notification]) ++ link.notifications).Pairwise fun earlier later =>
      earlier.generation ≤ later.generation := by
  obtain ⟨filled, flight, between⟩ := List.pairwise_append.mp inv.order
  apply List.pairwise_append.mpr
  refine ⟨List.pairwise_append.mpr ⟨filled, List.pairwise_singleton _ _, ?_⟩, flight, ?_⟩
  · intro earlier member later new
    rw [List.mem_singleton.mp new]
    exact arrives.after earlier member
  · intro earlier member later present
    rcases List.mem_append.mp member with old | new
    · exact between earlier old later present
    · rw [List.mem_singleton.mp new]
      exact arrives.before later present

section Receive

variable (inv : Invariant link) (apart : Apart link) (arrives : Arrives link notification)

include inv apart arrives

/-- A part that continues the receiver's event is of the same head as the parts before it. -/
theorem continues_head {part : Nat} (next : part = link.receiver.next)
    (tags : notification.head.tag = link.receiver.sequence) :
    (∀ earlier ∈ link.trace.filled, earlier.head = notification.head) ∧
      link.receiver.bytes.take (part * 17) = notification.head.bytes.take (part * 17) := by
  have same (earlier : Notification) (member : earlier ∈ link.trace.filled) : earlier.head = notification.head :=
    ((inv.filled earlier member).same_tag apart arrives.sent (arrives.after earlier member)
      ((inv.parts earlier member).1.trans tags.symm)).2
  refine ⟨same, ?_⟩
  subst next
  cases held : link.trace.filled with
  | nil =>
    have empty := inv.count
    rw [held] at empty
    simp [← empty]
  | cons first rest =>
    have member : first ∈ link.trace.filled := by rw [held]; exact List.mem_cons_self
    rw [(inv.parts first member).2, same first member]

theorem taken_bytes {part : Nat} (small : part < 4)
    (next : part = 0 ∨ part = link.receiver.next ∧ notification.head.tag = link.receiver.sequence)
    {bytes : Bytes} (stored : bytes = memcpy link.receiver.bytes (part * 17) (chunk notification.head.bytes part)) :
    bytes.length = 60 ∧ bytes.take ((part + 1) * 17) = notification.head.bytes.take ((part + 1) * 17) := by
  subst stored
  constructor
  · rw [memcpy_length, inv.size]
    rw [inv.size, chunk_length]
    omega
  · apply memcpy_take inv.size small
    rcases next with rfl | ⟨rfl, tags⟩
    · simp
    · exact (continues_head inv apart arrives rfl tags).2

theorem accepted_head {event : Event} (accepted : (link.receiver.accept notification.data).1 = some event) :
    event = notification.head ∧ link.trace.filled.length = 3 ∧
      (∀ earlier ∈ link.trace.filled, earlier.head = notification.head) ∧
      (link.receiver.accept notification.data).2.next = 0 := by
  obtain ⟨part, small, data⟩ := arrives.data
  rw [data] at accepted ⊢
  rcases accept_cases link.receiver small with ⟨nothing, -⟩ | ⟨next, stored, -, ⟨-, nothing, -⟩ | ⟨rfl, done, out⟩⟩
  · cases nothing.symm.trans accepted
  · cases nothing.symm.trans accepted
  · obtain ⟨here, tags⟩ := next.resolve_left (by decide)
    obtain ⟨size, bytes⟩ := taken_bytes inv apart arrives small next stored
    rw [List.take_of_length_le (by rw [size]; decide), List.take_of_length_le (by simp)] at bytes
    refine ⟨?_, inv.count.trans here.symm, (continues_head inv apart arrives here tags).1, done⟩
    rw [out event accepted, bytes, Event.ofBytes_bytes]

theorem receive_parts :
    let after := link.receive notification
    after.receiver.bytes.length = 60 ∧ after.trace.filled.length = after.receiver.next ∧
      ∀ held ∈ after.trace.filled, held.head.tag = after.receiver.sequence ∧
        after.receiver.bytes.take (after.receiver.next * 17) = held.head.bytes.take (after.receiver.next * 17) := by
  obtain ⟨part, small, data⟩ := arrives.data
  unfold Link.receive
  dsimp only
  rw [data]
  rcases @accept_cases notification.head part link.receiver small with
    ⟨-, reset, bytes⟩ | ⟨next, stored, tagged, ⟨more, -, grown⟩ | ⟨-, done, -⟩⟩
  · simp [Trace.fill, reset, bytes, inv.size]
  · obtain ⟨size, held⟩ := taken_bytes inv apart arrives small next stored
    rw [grown, tagged]
    rcases next with rfl | ⟨here, tags⟩
    · simp [Trace.fill, grown, size, held]
    by_cases first : part = 0
    · subst first
      simp [Trace.fill, grown, size, held]
    have later : ¬part + 1 = 0 ∧ ¬part + 1 = 1 := by omega
    have same := (continues_head inv apart arrives here tags).1
    unfold Trace.fill
    rw [grown, if_neg later.1, if_neg later.2]
    refine ⟨size, by rw [List.length_append, inv.count, here]; rfl, ?_⟩
    intro filled member
    have head : filled.head = notification.head := by
      rcases List.mem_append.mp member with earlier | new
      · exact same filled earlier
      · rw [List.mem_singleton.mp new]
    rw [head]
    exact ⟨rfl, held⟩
  · have size := (taken_bytes inv apart arrives small next stored).1
    simp [Trace.fill, done, size]

theorem receive_faithful : Faithful (link.receive notification) := by
  intro event heads member
  rcases List.mem_append.mp member with before | new
  · exact inv.faithful event heads before
  · obtain ⟨accepted, out, same⟩ := List.mem_map.mp new
    obtain ⟨head, three, all, -⟩ := accepted_head inv apart arrives (Option.mem_toList.mp out)
    cases same
    refine ⟨by simp [three], ?_⟩
    intro sent listed
    obtain ⟨source, present, rfl⟩ := List.mem_map.mp listed
    rcases List.mem_append.mp present with earlier | last
    · rw [all source earlier, head]
    · rw [List.mem_singleton.mp last, head]

theorem receive_answers :
    (link.receive notification).answers = link.answers ∨
      (link.receive notification).answers =
          link.acks ++ [⟨notification.head.boot, notification.head.seq, notification.generation⟩] ∧
        (link.receive notification).trace.filled = [] := by
  unfold Link.receive Link.answers
  dsimp only
  cases out : (link.receiver.accept notification.data).1 with
  | none => exact .inl rfl
  | some event =>
    obtain ⟨rfl, -, -, done⟩ := accepted_head inv apart arrives out
    exact .inr ⟨rfl, by simp [Trace.fill, done]⟩

theorem receive_invariant : Invariant (link.receive notification) := by
  -- what is filled afterwards was filled before or is this notification
  have filled := fill_sublist link.trace (link.receiver.accept notification.data).2 notification
  have old (held : Notification) (member : held ∈ (link.receive notification).trace.filled) :
      held ∈ link.trace.filled ∨ held = notification := by
    simpa using filled.subset member
  have fresh (ack : Ack) (member : ack ∈ link.acks) : ack ∈ link.answers := List.mem_append_left _ member
  obtain ⟨size, count, parts⟩ := receive_parts inv apart arrives
  refine ⟨inv.part, inv.flight, ?_, ?_, ?_, ?_, ?_, size, count, parts, receive_faithful inv apart arrives⟩
  · intro held member
    rcases old held member with earlier | rfl
    · exact inv.filled held earlier
    · exact arrives.sent
  · exact (arrives.order inv).sublist (filled.append_right _)
  · rcases receive_answers inv apart arrives with same | ⟨replaced, -⟩
    · rw [same]
      exact inv.answered
    · rw [replaced]
      intro ack member
      rcases List.mem_append.mp member with before | new
      · exact inv.answered ack (fresh ack before)
      · rw [List.mem_singleton.mp new]
        exact ⟨notification.head, arrives.sent, rfl, rfl⟩
  · rcases receive_answers inv apart arrives with same | ⟨replaced, -⟩
    · rw [same]
      exact inv.answerOrder
    · rw [replaced]
      apply List.pairwise_append.mpr
      refine ⟨inv.answerOrder.sublist (List.sublist_append_left _ _), List.pairwise_singleton _ _, ?_⟩
      intro ack member later new
      rw [List.mem_singleton.mp new]
      exact arrives.seen ack (fresh ack member)
  · rcases receive_answers inv apart arrives with same | ⟨replaced, emptied⟩
    · rw [same]
      intro ack member held present
      rcases List.mem_append.mp present with taken | flight
      · rcases old held taken with earlier | rfl
        · exact inv.seen ack member held (List.mem_append_left _ earlier)
        · exact arrives.seen ack member
      · exact inv.seen ack member held (List.mem_append_right _ flight)
    · rw [replaced, emptied]
      intro ack member held flight
      rcases List.mem_append.mp member with before | new
      · exact inv.seen ack (fresh ack before) held (List.mem_append_right _ flight)
      · rw [List.mem_singleton.mp new]
        exact arrives.before held flight

end Receive

theorem deliver_invariant (inv : Invariant link) (apart : Apart link) (again : Bool) :
    Invariant (link.act (.deliver again)) := by
  unfold Link.act
  dsimp only
  split
  · exact inv
  · rename_i first rest flight
    have left : (if again then first :: rest else rest).Sublist link.notifications := by
      rw [flight]
      cases again with
      | true => exact List.Sublist.refl _
      | false => exact List.sublist_cons_self first rest
    have here : first ∈ link.notifications := by rw [flight]; exact List.mem_cons_self
    obtain ⟨-, order, between⟩ := List.pairwise_append.mp inv.order
    apply receive_invariant
    · exact inv.keep inv.part (fun _ _ sends => sends) left (List.Sublist.refl _) rfl rfl rfl
    · exact apart
    · obtain ⟨data, sent⟩ := inv.flight first here
      refine ⟨data, sent, fun earlier member => between earlier member first here, ?_, ?_⟩
      · intro later member
        have present := left.subset member
        rw [flight] at order present
        rcases List.mem_cons.mp present with rfl | behind
        · exact Nat.le_refl _
        · exact (List.pairwise_cons.mp order).1 later behind
      · exact fun ack member => inv.seen ack member first (List.mem_append_right _ here)

theorem deliverAck_invariant (inv : Invariant link) (apart : Apart link) (again : Bool) :
    Invariant (link.act (.deliverAck again)) := by
  unfold Link.act
  dsimp only
  split
  · exact inv
  · rename_i first rest flight
    let left : Link := { link with acks := if again then first :: rest else rest }
    have answers : left.answers.Sublist link.answers := by
      apply List.Sublist.append_right
      rw [flight]
      cases again with
      | true => exact List.Sublist.refl _
      | false => exact List.sublist_cons_self first rest
    have here : first ∈ link.answers := List.mem_append_left _ (by rw [flight]; exact List.mem_cons_self)
    obtain ⟨acked, sent, -, seq⟩ := inv.answered first here
    have kept : Invariant left :=
      inv.keep inv.part (fun _ _ sends => sends) (List.Sublist.refl _) answers rfl rfl rfl
    apply onWrite_invariant kept apart sent seq
    · intro later member
      have present := answers.subset member
      have order := inv.answerOrder
      unfold Link.answers at order present
      rw [flight, List.cons_append] at order present
      rcases List.mem_cons.mp present with rfl | behind
      · exact Nat.le_refl _
      · exact (List.pairwise_cons.mp order).1 later behind
    · exact inv.seen first here

theorem act_invariant (inv : Invariant link) (apart : Apart link) (action : Action) :
    Invariant (link.act action) := by
  cases action with
  | dashEvent code ms value severity => exact dashEvent_invariant inv code ms value severity
  | service now => exact service_invariant inv now
  | deliver again => exact deliver_invariant inv apart again
  | lose => exact inv.keep inv.part (fun _ _ sends => sends) (List.tail_sublist _) (List.Sublist.refl _) rfl rfl rfl
  | publish now durable => exact publish_invariant inv now durable
  | deliverAck again => exact deliverAck_invariant inv apart again
  | loseAck =>
    exact inv.keep inv.part (fun _ _ sends => sends) (List.Sublist.refl _)
      ((List.tail_sublist _).append_right _) rfl rfl rfl
  | connect => exact connect_invariant inv
  | disconnect =>
    exact inv.keep inv.part (fun _ _ sends => sends) (List.nil_sublist _)
      ((List.nil_sublist _).append_right _) rfl rfl rfl

end Steps

theorem reached_invariant {link : Link} (reached : Reached Apart link) : Invariant link := by
  induction reached with
  | start boot =>
    exact ⟨Nat.zero_lt_succ 3, fun _ impossible => absurd impossible (by simp), fun _ impossible => absurd impossible (by simp),
      List.Pairwise.nil, fun _ impossible => absurd impossible (by simp [Link.answers]), List.Pairwise.nil,
      fun _ impossible => absurd impossible (by simp [Link.answers]), rfl, rfl,
      fun _ impossible => absurd impossible (by simp), fun _ _ impossible => absurd impossible (by simp)⟩
  | step earlier ok action ih => exact act_invariant ih ok action

/-- What an action does to the queue: nothing, a push, or a pop on the head's own acknowledgement. -/
def PopsAcknowledged (link : Link) (action : Action) : Prop :=
  (link.act action).queue = link.queue ∨ (∃ event, (link.act action).queue = link.queue.push event) ∨
    ∃ again ack head, action = .deliverAck again ∧ link.acks.head? = some ack ∧ link.queue.front = some head ∧
      head.boot = ack.boot ∧ head.seq = ack.seq ∧ (link.act action).queue = link.queue.pop

theorem pops_acknowledged (link : Link) (action : Action) : PopsAcknowledged link action := by
  cases action with
  | dashEvent code ms value severity => exact .inr (.inl ⟨_, rfl⟩)
  | service now =>
    apply Or.inl
    unfold Link.act Link.service
    dsimp only
    split
    · rfl
    · split <;> rfl
  | deliver again =>
    apply Or.inl
    unfold Link.act
    dsimp only
    split <;> rfl
  | publish now durable =>
    apply Or.inl
    unfold Link.act Link.publish
    dsimp only
    split
    · rfl
    · split <;> rfl
  -- only an acknowledgement with the head's own boot and sequence pops
  | deliverAck again =>
    cases flight : link.acks with
    | nil => exact .inl (by rw [Link.act, flight])
    | cons first rest =>
      cases front : link.queue.front with
      | none => exact .inl (by simp only [Link.act, flight, Link.onWrite, front])
      | some head =>
        by_cases same : head.boot = first.boot ∧ head.seq = first.seq
        · refine .inr (.inr ⟨again, first, head, rfl, by rw [flight]; rfl, front, same.1, same.2, ?_⟩)
          simp only [Link.act, flight, Link.onWrite, front, same, and_self, if_true]
        · exact .inl (by simp only [Link.act, flight, Link.onWrite, front, same, if_false])
  | lose | loseAck | connect | disconnect => exact .inl rfl

/-- Forwarding is faithful in every run that never puts two heads of one tag next to each other. -/
theorem forwarding_faithful (link : Link) :
    (Reached Apart link → Faithful link) ∧ ∀ action, PopsAcknowledged link action :=
  ⟨fun reached => (reached_invariant reached).faithful, pops_acknowledged link⟩

section Collision

def idle : Code := Code.ofBytes (ascii "sensor_recovered")

def settings : Code := Code.ofBytes (ascii "http_get_settings")

def cycle (time : UInt32) : List Action :=
  [.service (time + 1000), .deliver false, .service (time + 2000), .deliver false, .service (time + 3000),
    .deliver false, .service (time + 4000), .deliver false, .publish (time + 4000) true]

def cycles : Nat → UInt32 → List Action
  | 0, _ => []
  | count + 1, time => cycle time ++ [.deliverAck false] ++ cycles count (time + 4000)

/-- The run meets the condition before every action. -/
def Throughout (allowed : Link → Prop) : List Action → Link → Prop
  | [], _ => True
  | action :: rest, link => allowed link ∧ Throughout allowed rest (link.act action)

theorem throughout_any (actions : List Action) (link : Link) : Throughout (fun _ => True) actions link := by
  induction actions generalizing link with
  | nil => trivial
  | cons action rest ih => exact ⟨trivial, ih _⟩

theorem foldl_reached {allowed : Link → Prop} {link : Link} (reached : Reached allowed link) (actions : List Action)
    (throughout : Throughout allowed actions link) : Reached allowed (actions.foldl Link.act link) := by
  induction actions generalizing link with
  | nil => exact reached
  | cons action rest ih => exact ih (reached.step throughout.1 action) throughout.2

instance decidableApart (link : Link) : Decidable (Apart link) :=
  match head : link.queue.front, popped : link.trace.popped with
  | some event, some other =>
    decidable_of_iff (event.tag ≠ other.tag) ⟨fun apart _ _ same before => by
      rw [head] at same
      rw [popped] at before
      rwa [← Option.some.inj same, ← Option.some.inj before], fun apart => apart event other head popped⟩
  | none, _ => .isTrue fun _ _ same => by rw [head] at same; cases same
  | some _, none => .isTrue fun _ _ _ before => by rw [popped] at before; cases before

instance decidableThroughout : (actions : List Action) → (link : Link) → Decidable (Throughout Apart actions link)
  | [], _ => .isTrue trivial
  | action :: rest, link =>
    match decidableApart link, decidableThroughout rest (link.act action) with
    | .isTrue first, .isTrue others => .isTrue ⟨first, others⟩
    | .isFalse first, _ => .isFalse fun both => first both.1
    | _, .isFalse others => .isFalse fun both => others both.2

/-- Two events, each sent, logged and acknowledged, with a part and an acknowledgement that come twice. -/
def forwarding : List Action :=
  [.dashEvent idle 0 0 1, .dashEvent settings 0 0 1, .connect, .service 1000, .deliver true, .deliver false,
    .service 2000, .deliver false, .service 3000, .deliver false, .service 4000, .deliver false, .publish 4000 true,
    .deliverAck true, .deliverAck false] ++ cycle 4000 ++ [.deliverAck false]

def forwarded : Link := forwarding.foldl Link.act { boot := 7 }

theorem forwarding_faithful_forwarded : forwarded.trace.accepted.length = 2 ∧ Faithful forwarded :=
  ⟨by decide +kernel, (forwarding_faithful forwarded).1 (foldl_reached (.start 7) forwarding (by decide +kernel))⟩

/-- 319 events, of which 64 fit; one is acknowledged, one more fits, and the 63 older ones follow.
The last of them is sent again while its acknowledgement is under way. -/
def collision : List Action :=
  List.replicate 319 (.dashEvent idle 0 0 1) ++ [.connect] ++ cycles 1 0 ++ [.dashEvent settings 0 0 1] ++
    cycles 62 4000 ++ cycle 252000 ++
    [.service 257000, .deliver false, .service 258000, .deliver false, .deliverAck false, .service 259000, .lose,
      .service 260000, .lose, .service 261000, .deliver false, .service 262000, .deliver false]

def collided : Link := collision.foldl Link.act { boot := 7 }

theorem collided_reached : Reached (fun _ => True) collided :=
  foldl_reached (.start 7) collision (throughout_any collision _)

def mixed (link : Link) : Bool :=
  link.trace.accepted.any fun record => record.2.any fun head => decide (head ≠ record.1)

theorem collided_mixed : mixed collided = true := by decide +kernel

/-- Events 64 and 320 have one tag: the logger accepts two parts of each as one event. -/
theorem parts_of_two_events : ¬∀ link, Reached (fun _ => True) link → Faithful link := by
  intro faithful
  obtain ⟨⟨event, heads⟩, member, different⟩ := List.any_eq_true.mp collided_mixed
  obtain ⟨head, listed, other⟩ := List.any_eq_true.mp different
  exact of_decide_eq_true other ((faithful collided collided_reached event heads member).2 head listed)

end Collision

end ApexiDevices.EventLink
