import ApexiDevices.Logs.RemoteRequests
import ApexiDevices.Web.Downloads

set_option autoImplicit false

/-!
# Polling for commands

Whatever the server asks for, the next request fits the worker's buffer, unless
a directory listing is too long for it. Such a request is kept for good.
-/

namespace ApexiDevices

open Device HttpsExchange

namespace HttpsWorker.Machine

/-- What `submit` returns: its two calls of the exchange are one to its caller. -/
def accepts (machine : Machine) (owner : Owner) (arguments : Arguments) : Bool :=
  decide (owner ≠ .None) && machine.task && (machine.arbiter.request owner machine.exchange.idle).1 &&
    (machine.exchange.submit arguments).isSome

structure Free (machine : Machine) : Prop where
  task : machine.task = true
  idle : machine.exchange.state = .Idle
  pending : machine.arbiter.pending &&& Owner.Authorization.bit = 0

theorem Free.granted {machine : Machine} (free : machine.Free) :
    (machine.arbiter.request .Logs machine.exchange.idle).1 = true := by
  have each : ∀ value : Fin 256, UInt8.ofFin value &&& Owner.Authorization.bit = 0 →
      ((HttpsArbiter.mk (.ofFin value)).request .Logs true).1 = true := by decide +kernel
  have idle : machine.exchange.idle = true := by rw [HttpsExchange.idle, free.idle]; rfl
  rw [idle]
  exact each machine.arbiter.pending.toFin free.pending

theorem fits_some_iff {text fitted : CString} {size : Nat} :
    fits (some text) size = some fitted ↔ text.bytes.length < size ∧ text = fitted := by
  rw [fits, Option.filter_eq_some_iff, Option.some.injEq, decide_eq_true_eq]
  exact ⟨fun ⟨same, short⟩ => ⟨same ▸ short, same⟩, fun ⟨short, same⟩ => ⟨same, same ▸ short⟩⟩

variable {machine : Machine} {url payload bearer accessId accessSecret : CString} {get : Bool}

theorem Free.accepts (free : machine.Free) (urlFits : url.bytes.length < kUrl)
    (fits : payload.bytes.length ≤ kBodyLimit) (bearerFits : bearer.bytes.length < kBearer) (idFits : accessId.bytes.length < kAccessId)
    (secretFits : accessSecret.bytes.length < kAccessSecret) :
    machine.accepts .Logs ⟨some url, some payload, some bearer, some accessId, some accessSecret, get⟩ = true := by
  rw [Machine.accepts, free.granted, free.task, HttpsExchange.submit, if_neg (not_not.mpr free.idle)]
  simp only [fits_some_iff.mpr ⟨urlFits, rfl⟩, fits_some_iff.mpr ⟨Nat.lt_succ_of_le fits, rfl⟩,
    fits_some_iff.mpr ⟨bearerFits, rfl⟩, fits_some_iff.mpr ⟨idFits, rfl⟩, fits_some_iff.mpr ⟨secretFits, rfl⟩]
  rfl

theorem accepts_oversized (long : kBodyLimit < payload.bytes.length) (owner : Owner) :
    machine.accepts owner ⟨some url, some payload, some bearer, some accessId, some accessSecret, get⟩ = false := by
  have refused : fits (some payload) (kBodyLimit + 1) = none := by
    rw [fits, Option.filter_some, if_neg (by rw [decide_eq_true_eq]; exact Nat.not_lt.mpr long)]
  have none :
      machine.exchange.submit ⟨some url, some payload, some bearer, some accessId, some accessSecret, get⟩ = none := by
    rw [HttpsExchange.submit]
    split
    · rfl
    · rw [refused]
      cases fits (some url) kUrl <;> rfl
  rw [Machine.accepts, none, Option.isSome_none, Bool.and_false]

end HttpsWorker.Machine

namespace RemoteLogs

/-- The sizes that the settings keep their texts to. -/
structure Config.Sized (config : Config) : Prop where
  deviceId : config.deviceId.bytes.length ≤ 63
  url : config.url.bytes.length < kUrl
  accessId : config.accessId.bytes.length < kAccessId
  accessSecret : config.accessSecret.bytes.length < kAccessSecret

section Calls

variable (library : JsonLibrary) (paths : PathNames) (self : RemoteLogs) (input : Input)

def received : Option Document :=
  (if self.state = .waiting then input.result else none).bind fun (status, body) =>
    if input.enabled && status = 200 then (library.deserialize 2048 body.bytes).bind command else none

def Input.Answers (command : Document) : Reply → Prop
  | .files entries => (command.member "kind").bytes = ascii "refresh" ∧ entries = input.log.entries input.volume
  | .chunk chunk => (command.member "kind").bytes = ascii "download" ∧ chunk.bytes.length ≤ 2048
  | .readFailed => (command.member "kind").bytes = ascii "download"
  | .unsupported =>
    (command.member "kind").bytes ≠ ascii "refresh" ∧ (command.member "kind").bytes ≠ ascii "download"

def answerJson (command : Document) (reply : Reply) : Bytes :=
  requestJson self.config.deviceId (some ⟨(command.member "id").text, reply⟩)

end Calls

section Calls

variable {library : JsonLibrary} {paths : PathNames} {self : RemoteLogs} {input : Input}

theorem readChunk_answers (offset : UInt32) (size : Option UInt32) {command : Document}
    (kind : (command.member "kind").bytes = ascii "download") :
    input.Answers command (self.readChunk input offset size) := by
  unfold readChunk
  dsimp only
  split
  · exact kind
  split
  · exact kind
  · refine ⟨kind, ?_⟩
    rw [List.length_take]
    omega

theorem openJob_same (id name : CText) :
    (self.openJob paths input id name).config = self.config ∧
      (self.openJob paths input id name).ready = self.ready := by
  unfold openJob
  split <;> exact ⟨rfl, rfl⟩

theorem reply_answers (command : Document) :
    input.Answers command (self.reply library paths input command).1 ∧
      (self.reply library paths input command).2.config = self.config ∧
      (self.reply library paths input command).2.ready = self.ready := by
  unfold reply
  dsimp only
  split
  · rename_i refresh
    exact ⟨⟨refresh, rfl⟩, rfl, rfl⟩
  rename_i other
  split
  · rename_i download
    exact ⟨readChunk_answers _ _ download, openJob_same _ _⟩
  · rename_i neither
    exact ⟨⟨other, neither⟩, rfl, rfl⟩

def next (self : RemoteLogs) : Bytes :=
  if self.request.isEmpty then requestJson self.config.deviceId none else self.request

theorem next_of_ne_nil (held : self.request ≠ []) : self.next = self.request := by
  rw [next, if_neg (by simpa using held)]

theorem requestJson_ne_nil (deviceId : CText) (answer : Option Answer) : requestJson deviceId answer ≠ [] := by
  unfold requestJson
  exact List.append_ne_nil_of_right_ne_nil _ (by decide)

def prepared (self : RemoteLogs) : RemoteLogs := { self with request := self.next }

/-- The time of the next request has come, and there is a network. -/
structure Due (logs : RemoteLogs) (input : Input) : Prop where
  connected : input.connected = true
  elapsed : ¬input.now - logs.lastRequest < logs.interval

theorem poll_cases (self : RemoteLogs) (input : Input) :
    (self.poll input = (self, []) ∧ ¬self.Due input) ∨
      (self.poll input = (self.prepared, [.cancelPending]) ∧ input.bearer.bytes = []) ∨
      (self.poll input = (self.prepared, [.submit (self.prepared.arguments input)]) ∧
        input.submit (self.prepared.arguments input) = false) ∨
      (self.poll input = ({ self.prepared with lastRequest := input.now, state := .waiting },
          [.submit (self.prepared.arguments input)]) ∧
        input.submit (self.prepared.arguments input) = true) := by
  have given : (if self.request.isEmpty then { self with request := requestJson self.config.deviceId none } else self) =
      self.prepared := by
    rw [prepared, next]
    split <;> rfl
  unfold poll
  rw [given]
  split
  · rename_i early
    refine .inl ⟨rfl, fun due => ?_⟩
    rw [due.connected] at early
    exact due.elapsed (by simpa using early)
  dsimp only
  split
  · rename_i empty
    exact .inr (.inl ⟨rfl, by simpa using empty⟩)
  split
  · rename_i taken
    exact .inr (.inr (.inr ⟨rfl, taken⟩))
  · rename_i refused
    exact .inr (.inr (.inl ⟨rfl, by simpa using refused⟩))

/-- What no call but `begin` changes, and where every call ends. -/
structure Same (before after : RemoteLogs) : Prop where
  config : after.config = before.config
  ready : after.ready = before.ready
  state : after.state ≠ .answered

theorem poll_same (idle : self.state = .idle) : self.Same (self.poll input).1 := by
  rcases self.poll_cases input with ⟨polled, -⟩ | ⟨polled, -⟩ | ⟨polled, -⟩ | ⟨polled, -⟩ <;> rw [polled]
  all_goals exact ⟨rfl, rfl, by simp [prepared, idle]⟩

theorem poll_request (self : RemoteLogs) (input : Input) :
    (self.poll input).1.request = self.request ∨ (self.poll input).1.request = self.next := by
  rcases self.poll_cases input with ⟨polled, -⟩ | ⟨polled, -⟩ | ⟨polled, -⟩ | ⟨polled, -⟩ <;> rw [polled]
  · exact .inl rfl
  all_goals exact .inr rfl

theorem poll_keeps (held : self.request ≠ []) : (self.poll input).1.request = self.request :=
  (self.poll_request input).elim id fun same => same.trans (next_of_ne_nil held)

theorem poll_taken {arguments : Arguments} (made : .submit arguments ∈ (self.poll input).2) :
    arguments = (self.poll input).1.arguments input ∧
      (input.submit arguments = true → (self.poll input).1.state = .waiting) := by
  rcases self.poll_cases input with ⟨polled, -⟩ | ⟨polled, -⟩ | ⟨polled, refused⟩ | ⟨polled, -⟩
  all_goals rw [polled] at made ⊢
  · cases made
  · cases List.mem_singleton.mp made
  · cases List.mem_singleton.mp made
    exact ⟨rfl, fun taken => absurd (taken.symm.trans refused) (by decide)⟩
  · cases List.mem_singleton.mp made
    exact ⟨rfl, fun _ => rfl⟩

theorem poll_due (due : self.Due input) (bearer : input.bearer.bytes ≠ [])
    (taken : input.submit (self.prepared.arguments input) = true) :
    self.poll input = ({ self.prepared with lastRequest := input.now, state := .waiting },
      [.submit (self.prepared.arguments input)]) := by
  rcases self.poll_cases input with ⟨-, early⟩ | ⟨-, empty⟩ | ⟨-, refused⟩ | ⟨polled, -⟩
  · exact absurd due early
  · exact absurd empty bearer
  · exact absurd (taken.symm.trans refused) (by decide)
  · exact polled

theorem answerCommand_answers (command : Document) :
    ∃ reply, input.Answers command reply ∧
      (self.answerCommand library paths input command).request = self.answerJson command reply ∧
      (self.answerCommand library paths input command).state = .idle ∧
      (self.answerCommand library paths input command).config = self.config ∧
      (self.answerCommand library paths input command).ready = self.ready := by
  obtain ⟨answers, config, ready⟩ := @reply_answers library paths { self with interval := 500 } input command
  refine ⟨_, answers, ?_, rfl, config, ready⟩
  exact congrArg (fun config : Config => requestJson config.deviceId (some ⟨(command.member "id").text, _⟩)) config

theorem answer_given {document command : Document} (success : self.success = true)
    (parsed : library.deserialize 2048 self.response.bytes = some document)
    (given : RemoteLogs.command document = some command) :
    ∃ reply after, self.answer library paths input = some after ∧ input.Answers command reply ∧
      after.request = self.answerJson command reply ∧ after.state = .idle ∧ after.config = self.config ∧
      after.ready = self.ready := by
  obtain ⟨reply, answers, rest⟩ :=
    @answerCommand_answers library paths { self with interval := 5000, failed := false } input command
  refine ⟨reply, _, ?_, answers, rest⟩
  unfold answer
  simp only [success, parsed, given]
  rfl

theorem answer_other {after : RemoteLogs} (answered : self.answer library paths input = some after)
    (none : ∀ document, self.success = true → library.deserialize 2048 self.response.bytes = some document →
      RemoteLogs.command document = .none) :
    after.state = .idle ∧ after.config = self.config ∧ after.ready = self.ready ∧
      (after.request = self.request ∨ after.request = requestJson self.config.deviceId .none) := by
  unfold answer at answered
  dsimp only at answered
  split at answered
  · cases answered
    exact ⟨rfl, rfl, rfl, .inl rfl⟩
  rename_i success
  split at answered
  · cases answered
  · rename_i document parsed
    rw [none document (by simpa using success) parsed] at answered
    cases answered
    exact ⟨rfl, rfl, rfl, .inr rfl⟩

theorem received_some {command : Document} (received : self.received library input = some command) :
    self.state = .waiting ∧ input.enabled = true ∧ ∃ body document, input.result = some (200, body) ∧
      library.deserialize 2048 body.bytes = some document ∧ RemoteLogs.command document = some command := by
  obtain ⟨⟨status, body⟩, result, asked⟩ := Option.bind_eq_some_iff.mp received
  dsimp only at asked
  split at asked
  · rename_i wanted
    rw [Bool.and_eq_true, decide_eq_true_eq] at wanted
    obtain ⟨enabled, rfl⟩ := wanted
    obtain ⟨document, parsed, given⟩ := Option.bind_eq_some_iff.mp asked
    split at result
    · rename_i waiting
      exact ⟨waiting, enabled, body, document, result, parsed, given⟩
    · cases result
  · cases asked

theorem settle_answered {after : RemoteLogs} (answered : self.answer library paths input = some after) :
    (self.settle library paths input).1 = (after.poll input).1 := by
  rw [settle, answered]

theorem loop_collected {status : Int} {body : CText} (ready : self.ready = true) (waiting : self.state = .waiting)
    (result : input.result = some (status, body)) (enabled : input.enabled = true) :
    self.loop library paths input =
      (((self.collected status body).settle library paths input).1,
        .release :: ((self.collected status body).settle library paths input).2) := by
  have collect : self.collect input = some (self.collected status body, [.release]) := by
    rw [RemoteLogs.collect, if_pos waiting, result]
    rfl
  have answered : (self.collected status body).state = .answered := rfl
  rw [loop, if_neg (by simp [ready]), collect]
  simp only [enabled, answered, Bool.not_true, Bool.false_eq_true, if_true, if_false]
  rfl

theorem loop_given {command : Document} (ready : self.ready = true)
    (received : self.received library input = some command) :
    ∃ reply, input.Answers command reply ∧ self.Same (self.loop library paths input).1 ∧
      (self.loop library paths input).1.request = self.answerJson command reply := by
  obtain ⟨waiting, enabled, body, document, result, parsed, given⟩ := received_some received
  obtain ⟨reply, after, answered, answers, request, idle, config, kept⟩ :=
    @answer_given library paths (self.collected 200 body) input document command rfl parsed given
  have same := @poll_same after input idle
  have held : after.request ≠ [] := by
    rw [request]
    exact requestJson_ne_nil _ _
  rw [loop_collected ready waiting result enabled, settle_answered answered]
  exact ⟨reply, answers, ⟨same.config.trans config, same.ready.trans kept, same.state⟩,
    (poll_keeps held).trans request⟩

def Plain (self : RemoteLogs) (request : Bytes) : Prop :=
  request = self.request ∨ request = [] ∨ request = requestJson self.config.deviceId none

theorem poll_plain (self : RemoteLogs) (input : Input) : self.Plain (self.poll input).1.request := by
  rcases self.poll_request input with same | given
  · exact .inl same
  · rw [given, next]
    split
    · exact .inr (.inr rfl)
    · exact .inl rfl

theorem Plain.trans {after : RemoteLogs} {request : Bytes} (first : self.Plain after.request)
    (config : after.config = self.config) (second : after.Plain request) : self.Plain request := by
  rcases second with rfl | rfl | rfl
  · exact first
  · exact .inr (.inl rfl)
  · exact .inr (.inr (by rw [config]))

theorem uncommanded {status : Int} {body : CText} (waiting : self.state = .waiting) (enabled : input.enabled = true)
    (result : input.result = some (status, body)) (received : self.received library input = none) (document : Document)
    (success : (self.collected status body).success = true)
    (parsed : library.deserialize 2048 (self.collected status body).response.bytes = some document) :
    RemoteLogs.command document = none := by
  have ok : status = 200 := of_decide_eq_true success
  subst ok
  have given : library.deserialize 2048 body.bytes = some document := parsed
  rw [RemoteLogs.received, if_pos waiting, result, Option.bind_some] at received
  dsimp only at received
  rwa [if_pos (by simp [enabled]), given, Option.bind_some] at received

theorem settle_plain {status : Int} {body : CText} (waiting : self.state = .waiting) (enabled : input.enabled = true)
    (result : input.result = some (status, body)) (received : self.received library input = none) :
    self.Same ((self.collected status body).settle library paths input).1 ∧
      self.Plain ((self.collected status body).settle library paths input).1.request := by
  cases answered : (self.collected status body).answer library paths input with
  | none =>
    rw [settle, answered]
    exact ⟨⟨rfl, rfl, by simp⟩, .inl rfl⟩
  | some after =>
    obtain ⟨idle, config, ready, request⟩ := answer_other answered (uncommanded waiting enabled result received)
    have same := @poll_same after input idle
    have plain : self.Plain after.request := by
      rcases request with kept | none
      · exact .inl kept
      · exact .inr (.inr none)
    rw [settle_answered answered]
    exact ⟨⟨same.config.trans config, same.ready.trans ready, same.state⟩,
      plain.trans config (after.poll_plain input)⟩

theorem loop_other (settled : self.state ≠ .answered) (received : self.received library input = none) :
    self.Same (self.loop library paths input).1 ∧ self.Plain (self.loop library paths input).1.request := by
  have unchanged : self.Same self ∧ self.Plain self.request := ⟨⟨rfl, rfl, settled⟩, .inl rfl⟩
  have stopped : self.Same self.stopped ∧ self.Plain self.stopped.request :=
    ⟨⟨rfl, rfl, by simp [RemoteLogs.stopped]⟩, .inr (.inl rfl)⟩
  by_cases ready : self.ready = true
  · cases state : self.state with
    | answered => exact absurd state settled
    | idle =>
      have collect : self.collect input = some (self, []) := by rw [RemoteLogs.collect, if_neg (by simp [state])]
      rw [loop, if_neg (by simp [ready]), collect]
      dsimp only
      split
      · exact ⟨stopped.1, stopped.2⟩
      · exact ⟨poll_same state, self.poll_plain input⟩
    | waiting =>
      cases result : input.result with
      | none =>
        have collect : self.collect input = none := by rw [RemoteLogs.collect, if_pos state, result, Option.map_none]
        rw [loop, if_neg (by simp [ready]), collect]
        exact unchanged
      | some given =>
        obtain ⟨status, body⟩ := given
        by_cases enabled : input.enabled = true
        · rw [loop_collected ready state result enabled]
          exact settle_plain state enabled result received
        · have collect : self.collect input = some (self.collected status body, [.release]) := by
            rw [RemoteLogs.collect, if_pos state, result]
            rfl
          rw [loop, if_neg (by simp [ready]), collect]
          dsimp only
          rw [if_pos (by simp [enabled])]
          exact ⟨⟨rfl, rfl, by simp [RemoteLogs.stopped]⟩, .inr (.inl rfl)⟩
  · rw [loop, if_pos (by simp [ready])]
    exact unchanged

theorem settle_taken {arguments : Arguments} (made : .submit arguments ∈ (self.settle library paths input).2) :
    arguments = (self.settle library paths input).1.arguments input ∧
      (input.submit arguments = true → (self.settle library paths input).1.state = .waiting) := by
  have none : .submit arguments ∉ (if self.failed = self.success then [Call.event self.success] else []) := by
    split <;> simp
  unfold settle at made ⊢
  cases answered : self.answer library paths input with
  | none =>
    rw [answered] at made
    exact absurd made none
  | some after =>
    rw [answered] at made
    exact poll_taken ((List.mem_append.mp made).resolve_left none)

theorem loop_taken {arguments : Arguments} (made : .submit arguments ∈ (self.loop library paths input).2) :
    arguments = (self.loop library paths input).1.arguments input ∧
      (input.submit arguments = true → (self.loop library paths input).1.state = .waiting) := by
  unfold loop at made ⊢
  split at made
  · cases made
  rename_i ready
  rw [if_neg ready]
  cases collected : self.collect input with
  | none =>
    rw [collected] at made
    cases made
  | some found =>
    obtain ⟨after, released⟩ := found
    -- what is done with a result first is at most a release
    have none : .submit arguments ∉ released := by
      unfold collect at collected
      split at collected
      · obtain ⟨_, _, same⟩ := Option.map_eq_some_iff.mp collected
        cases same
        simp
      · cases collected
        simp
    rw [collected] at made
    dsimp only at made ⊢
    split at made
    · rcases List.mem_append.mp made with early | cancelled
      · exact absurd early none
      · cases List.mem_singleton.mp cancelled
    rename_i enabled
    rw [if_neg enabled]
    split at made
    · rename_i state
      rw [if_pos state]
      exact settle_taken ((List.mem_append.mp made).resolve_left none)
    · rename_i state
      rw [if_neg state]
      exact poll_taken ((List.mem_append.mp made).resolve_left none)

theorem loop_idle (ready : self.ready = true) (idle : self.state = .idle) (enabled : input.enabled = true) :
    self.loop library paths input = self.poll input := by
  have collect : self.collect input = some (self, []) := by rw [RemoteLogs.collect, if_neg (by simp [idle])]
  rw [loop, if_neg (by simp [ready]), collect]
  simp [enabled, idle]

end Calls

section Runs

variable (library : JsonLibrary) (paths : PathNames)

/-- The states of a logger, its calls being those that meet a condition. -/
inductive Reached (config : Config) (Meets : RemoteLogs → Input → Prop) : RemoteLogs → Prop
  | begun (ready : Bool) : Reached config Meets (begun config ready)
  | loop {self : RemoteLogs} (earlier : Reached config Meets self) (input : Input) (meets : Meets self input) :
      Reached config Meets (self.loop library paths input).1

def ShortId (command : Document) : Prop :=
  ∃ text : String, text.length ≤ 64 ∧ (command.member "id").bytes = utf8 text

def ShortIds (self : RemoteLogs) (input : Input) : Prop :=
  ∀ command, self.received library input = some command → ShortId command

def ListingsFit (self : RemoteLogs) (input : Input) : Prop :=
  ∀ command, self.received library input = some command → (command.member "kind").bytes = ascii "refresh" →
    refreshLength self.config.deviceId (command.member "id").text (input.log.entries input.volume) ≤ kBodyLimit

def Meets (self : RemoteLogs) (input : Input) : Prop := self.ShortIds library input ∧ self.ListingsFit library input

end Runs

section Runs

variable {library : JsonLibrary} {paths : PathNames} {config : Config} {self : RemoteLogs} {input : Input}

theorem id_length {command : Document} (short : ShortId command) :
    escapedLength (command.member "id").text.bytes ≤ 256 := by
  obtain ⟨text, few, bytes⟩ := short
  cases member : command.member "id" with
  | string value =>
    rw [member] at bytes
    have whole := escapedLength_append (value.takeWhile (· != 0)) (value.dropWhile (· != 0))
    rw [List.takeWhile_append_dropWhile] at whole
    have bound := escapedLength_utf8 text
    rw [← bytes, Document.bytes] at bound
    change escapedLength (value.takeWhile (· != 0)) ≤ 256
    omega
  | _ => exact Nat.zero_le _

theorem entries_ends (log : SystemLog) (volume : SdVolume) : ∀ entry ∈ log.entries volume, 0 ∉ entry.1 := by
  intro entry listed zero
  unfold SystemLog.entries at listed
  split at listed
  · cases listed
  · obtain ⟨file, taken, rfl⟩ := List.mem_map.mp listed
    have kept := (List.mem_filter.mp (List.mem_of_mem_take taken)).2
    rw [Bool.and_eq_true] at kept
    have each := kept.2
    unfold SystemEvents.safeName at each
    rw [Bool.and_eq_true, Bool.and_eq_true] at each
    have byte := List.all_eq_true.mp each.1.2 0 zero
    exact absurd byte (by decide)

theorem Input.Answers.ends {command : Document} {reply : Reply} (answers : input.Answers command reply) :
    reply.Ends := by
  cases reply with
  | files entries =>
    obtain ⟨_, rfl⟩ := answers
    exact entries_ends _ _
  | _ => trivial

theorem answerJson_fits {command : Document} {reply : Reply} (sized : self.config.deviceId.bytes.length ≤ 63)
    (short : ShortId command) (answers : input.Answers command reply)
    (listing : (command.member "kind").bytes = ascii "refresh" →
      refreshLength self.config.deviceId (command.member "id").text (input.log.entries input.volume) ≤ kBodyLimit) :
    (self.answerJson command reply).length ≤ kBodyLimit := by
  have device := escapedLength_le self.config.deviceId.bytes
  have id := id_length short
  have limit : kBodyLimit = 6144 := rfl
  unfold answerJson
  cases reply with
  | files entries =>
    obtain ⟨kind, rfl⟩ := answers
    rw [requestJson_files]
    exact listing kind
  | chunk chunk =>
    have few := chunk_members answers.2
    rw [requestJson_answer]
    omega
  | readFailed =>
    have members : Reply.readFailed.members.length = 22 := rfl
    rw [requestJson_answer, members]
    omega
  | unsupported =>
    have members : Reply.unsupported.members.length = 22 := rfl
    rw [requestJson_answer, members]
    omega

structure Fitting (config : Config) (logs : RemoteLogs) : Prop where
  config : logs.config = config
  settled : logs.state ≠ .answered
  fits : logs.request.length ≤ kBodyLimit
  ends : 0 ∉ logs.request

theorem requestJson_fits (sized : config.Sized) : (requestJson config.deviceId none).length ≤ kBodyLimit := by
  have device := escapedLength_le config.deviceId.bytes
  have short := sized.deviceId
  have limit : kBodyLimit = 6144 := rfl
  rw [requestJson_none]
  omega

theorem Fitting.prepared (sized : config.Sized) (fitting : self.Fitting config) : self.prepared.Fitting config := by
  have next : self.next.length ≤ kBodyLimit ∧ 0 ∉ self.next := by
    unfold RemoteLogs.next
    split
    · rw [fitting.config]
      exact ⟨requestJson_fits sized, requestJson_ends nofun⟩
    · exact ⟨fitting.fits, fitting.ends⟩
  exact ⟨fitting.config, fitting.settled, next.1, next.2⟩

theorem Fitting.loop (sized : config.Sized) (fitting : self.Fitting config) (meets : self.Meets library input) :
    (self.loop library paths input).1.Fitting config := by
  cases received : self.received library input with
  | none =>
    obtain ⟨same, plain⟩ := @loop_other library paths self input fitting.settled received
    refine ⟨same.config.trans fitting.config, same.state, ?_, ?_⟩
    · rcases plain with kept | none | alone
      · rw [kept]
        exact fitting.fits
      · rw [none]
        exact Nat.zero_le _
      · rw [alone, fitting.config]
        exact requestJson_fits sized
    · rcases plain with kept | none | alone
      · rw [kept]
        exact fitting.ends
      · rw [none]
        exact List.not_mem_nil
      · rw [alone]
        exact requestJson_ends nofun
  | some command =>
    by_cases ready : self.ready = true
    · obtain ⟨reply, answers, same, request⟩ := @loop_given library paths self input command ready received
      refine ⟨same.config.trans fitting.config, same.state, ?_, ?_⟩
      · rw [request]
        exact answerJson_fits (by rw [fitting.config]; exact sized.deviceId) (meets.1 command received) answers
          (meets.2 command received)
      · rw [request]
        refine requestJson_ends fun given same => ?_
        cases same
        exact answers.ends
    · rw [RemoteLogs.loop, if_pos (by simp [ready])]
      exact fitting

theorem fitting_of_reached (sized : config.Sized) (reached : Reached library paths config (Meets library) self) :
    self.Fitting config := by
  induction reached with
  | begun ready => exact ⟨rfl, by simp [begun], Nat.zero_le _, List.not_mem_nil⟩
  | loop earlier input meets ih => exact ih.loop sized meets

structure Served (machine : HttpsWorker.Machine) (input : Input) : Prop where
  enabled : input.enabled = true
  bearer : input.bearer.bytes ≠ []
  bearerFits : input.bearer.bytes.length < kBearer
  free : machine.Free
  submit : input.submit = machine.accepts .Logs

theorem Fitting.accepted {machine : HttpsWorker.Machine} (sized : config.Sized) (fitting : self.Fitting config)
    (served : Served machine input) : input.submit (self.arguments input) = true := by
  have payload : (CText.of self.request).bytes.length ≤ kBodyLimit :=
    (List.takeWhile_sublist _).length_le.trans fitting.fits
  rw [served.submit]
  refine served.free.accepts ?_ payload served.bearerFits ?_ ?_
  · change self.config.url.bytes.length < kUrl
    rw [fitting.config]
    exact sized.url
  · change self.config.accessId.bytes.length < kAccessId
    rw [fitting.config]
    exact sized.accessId
  · change self.config.accessSecret.bytes.length < kAccessSecret
    rw [fitting.config]
    exact sized.accessSecret

theorem Fitting.payload (fitting : self.Fitting config) : (self.arguments input).text.payload = self.request := by
  change (CText.of self.request).bytes = self.request
  rw [CText.of_eq fitting.ends]

/-- As long as every directory that is asked for fits a request, polling goes on. -/
theorem polling_goes_on (sized : config.Sized) (reached : Reached library paths config (Meets library) self) :
    self.request.length ≤ kBodyLimit ∧
      -- every submission to a free worker is taken, and sends the request
      (∀ (input : Input) (machine : HttpsWorker.Machine) (arguments : Arguments), self.Meets library input →
        Served machine input → .submit arguments ∈ (self.loop library paths input).2 →
        machine.accepts .Logs arguments = true ∧ (self.loop library paths input).1.state = .waiting ∧
          arguments.text.payload = (self.loop library paths input).1.request) ∧
      -- it is made when its time has come
      (∀ (input : Input) (machine : HttpsWorker.Machine), Served machine input → self.ready = true →
        self.state = .idle → self.Due input → ∃ arguments, .submit arguments ∈ (self.loop library paths input).2 ∧
          (self.loop library paths input).1.request = self.next) ∧
      -- a command is answered, and its answer is kept for that submission
      (∀ (input : Input) (command : Document), self.ready = true → self.received library input = some command →
        ∃ reply, input.Answers command reply ∧
          (self.loop library paths input).1.request = self.answerJson command reply) ∧
      ∀ input : Input, self.ready = true → self.state = .idle → input.enabled = true → self.request ≠ [] →
        self.next = self.request ∧ (self.loop library paths input).1.request = self.request := by
  have fitting := fitting_of_reached sized reached
  refine ⟨fitting.fits, fun input machine arguments meets served made => ?_,
    fun input machine served ready idle due => ?_, fun input command ready received => ?_,
    fun input ready idle enabled held => ?_⟩
  · have after := @Fitting.loop library paths config self input sized fitting meets
    obtain ⟨rfl, waits⟩ := loop_taken made
    have accepted := after.accepted sized served
    refine ⟨?_, waits accepted, after.payload⟩
    rw [← served.submit]
    exact accepted
  · have prepared := fitting.prepared sized
    rw [loop_idle ready idle served.enabled, poll_due due served.bearer (prepared.accepted sized served)]
    exact ⟨_, List.mem_singleton_self _, rfl⟩
  · obtain ⟨reply, answers, _, request⟩ := @loop_given library paths self input command ready received
    exact ⟨reply, answers, request⟩
  · rw [loop_idle ready idle enabled]
    exact ⟨next_of_ne_nil held, poll_keeps held⟩

def Polls (library : JsonLibrary) (paths : PathNames) (self after : RemoteLogs) : Prop :=
  ∃ (input : Input) (machine : HttpsWorker.Machine), input.enabled = true ∧ input.submit = machine.accepts .Logs ∧
    after = (self.loop library paths input).1

theorem oversized_step {after : RemoteLogs} (idle : self.state = .idle) (long : kBodyLimit < self.request.length)
    (ends : 0 ∉ self.request) (step : Polls library paths self after) :
    after.state = .idle ∧ after.request = self.request := by
  obtain ⟨input, machine, enabled, submit, rfl⟩ := step
  by_cases ready : self.ready = true
  · have held : self.request ≠ [] := List.ne_nil_of_length_pos (by omega)
    have refused : input.submit (self.prepared.arguments input) = false := by
      rw [submit]
      apply HttpsWorker.Machine.accepts_oversized
      change kBodyLimit < (CText.of self.next).bytes.length
      rw [next_of_ne_nil held, CText.of_eq ends]
      exact long
    rw [loop_idle ready idle enabled]
    refine ⟨?_, poll_keeps held⟩
    rcases self.poll_cases input with ⟨polled, -⟩ | ⟨polled, -⟩ | ⟨polled, -⟩ | ⟨-, taken⟩
    · rw [polled]
      exact idle
    · rw [polled]
      exact idle
    · rw [polled]
      exact idle
    · exact absurd (taken.symm.trans refused) (by decide)
  · rw [RemoteLogs.loop, if_pos (by simp [ready])]
    exact ⟨idle, rfl⟩

/-- A request that is too long is never taken and never replaced. -/
theorem oversized_stays (idle : self.state = .idle) (long : kBodyLimit < self.request.length)
    (ends : 0 ∉ self.request) :
    ∀ after, Relation.ReflTransGen (Polls library paths) self after →
      after.state = .idle ∧ after.request = self.request := by
  intro after later
  induction later with
  | refl => exact ⟨idle, rfl⟩
  | @tail between last _ step ih =>
    obtain ⟨waits, request⟩ := ih
    have stays := oversized_step waits (by rw [request]; exact long) (by rw [request]; exact ends) step
    exact ⟨stays.1, stays.2.trans request⟩

end Runs

section Bench

def refreshCommand : Document :=
  .object [(.literal "id", .string (ascii "1")), (.literal "kind", .string (ascii "refresh"))]

def refreshAnswer : CText := .literal "\x7b\"command\":\x7b\"id\":\"1\",\"kind\":\"refresh\"\x7d\x7d"

/-- The parser on the one answer of the runs below. -/
def refreshLibrary : JsonLibrary where
  deserialize _ bytes :=
    if bytes = refreshAnswer.bytes then some (.object [(.literal "command", refreshCommand)]) else none
  textInt _ := 0
  textUInt _ := 0
  realInt _ := 0
  realUInt _ := 0

def benchConfig : Config where
  deviceId := .literal "esp32-0a1b2c3d4e5f"
  host := .literal "server.local"
  port := 443
  path := .literal "/api/ingest"
  accessId := .empty
  accessSecret := .empty

theorem benchConfig_sized : benchConfig.Sized := ⟨by decide, by decide, by decide, by decide⟩

def idleWorker : HttpsWorker.Machine := { task := true }

theorem idleWorker_free : idleWorker.Free := ⟨rfl, rfl, rfl⟩

def volumeOf (gauges : Nat) : SdVolume where
  files := (List.range gauges).map fun gauge =>
    ⟨ascii "dash-car-" ++ decimal (100 + gauge) ++ ascii "-20260924-00000000.log", ascii "\x7b\x7d\n"⟩

def benchInput (volume : SdVolume) (now : UInt32) (result : Option (Int × CText)) : Input where
  enabled := true
  result := result
  connected := true
  now := now
  log := { ready := true }
  volume := volume
  opens := true
  seeks := true
  allocates := true
  reads := true
  bearer := .literal "token"
  submit := idleWorker.accepts .Logs

def refreshInput (volume : SdVolume) : Input := benchInput volume 15200 (some (200, refreshAnswer))

theorem benchInput_served (volume : SdVolume) (now : UInt32) (result : Option (Int × CText)) :
    Served idleWorker (benchInput volume now result) := by
  have bearer : (CText.literal "token").bytes ≠ [] ∧ (CText.literal "token").bytes.length < kBearer := by decide
  exact ⟨rfl, bearer.1, bearer.2, idleWorker_free, rfl⟩

def polled (volume : SdVolume) : RemoteLogs :=
  ((begun benchConfig true).loop refreshLibrary WebUi.exactNames (benchInput volume 15000 none)).1

def refreshed (volume : SdVolume) : RemoteLogs :=
  ((polled volume).loop refreshLibrary WebUi.exactNames (refreshInput volume)).1

theorem polled_waits (volume : SdVolume) :
    (polled volume).state = .waiting ∧ (polled volume).config = benchConfig ∧ (polled volume).ready = true := by
  have fitting : (begun benchConfig true).Fitting benchConfig := ⟨rfl, by decide, by decide, by decide⟩
  have served := benchInput_served volume 15000 none
  have accepted := (fitting.prepared benchConfig_sized).accepted benchConfig_sized served
  have due : (begun benchConfig true).Due (benchInput volume 15000 none) := by
    refine ⟨rfl, ?_⟩
    simp only [benchInput, begun]
    decide
  rw [polled, loop_idle rfl rfl rfl, poll_due due served.bearer accepted]
  exact ⟨rfl, rfl, rfl⟩

theorem refreshCommand_short : ShortId refreshCommand := ⟨"1", by decide, rfl⟩

theorem polled_received (volume : SdVolume) (command : Document) :
    (polled volume).received refreshLibrary (refreshInput volume) = some command ↔ refreshCommand = command := by
  rw [received, if_pos (polled_waits volume).1]
  exact Option.some_inj

theorem meets_of_silent {library : JsonLibrary} {self : RemoteLogs} {input : Input}
    (silent : self.received library input = none) : self.Meets library input :=
  ⟨fun _ given => absurd (silent.symm.trans given) nofun, fun _ given => absurd (silent.symm.trans given) nofun⟩

theorem reached_refreshed {volume : SdVolume} {Condition : RemoteLogs → Input → Prop}
    (silent : ∀ logs input, logs.received refreshLibrary input = none → Condition logs input)
    (asked : Condition (polled volume) (refreshInput volume)) :
    Reached refreshLibrary WebUi.exactNames benchConfig Condition (refreshed volume) :=
  .loop (.loop (.begun true) _ (silent _ _ rfl)) _ asked

theorem refreshed_request (volume : SdVolume) :
    (refreshed volume).request = requestJson benchConfig.deviceId
      (some ⟨.literal "1", .files (SystemLog.entries { ready := true } volume)⟩) := by
  obtain ⟨_, config, ready⟩ := polled_waits volume
  have received := (polled_received volume refreshCommand).mpr rfl
  obtain ⟨reply, answers, _, request⟩ := @loop_given _ WebUi.exactNames _ _ _ ready received
  rw [refreshed, request, answerJson, config]
  cases reply with
  | files entries =>
    obtain ⟨_, rfl⟩ := answers
    rfl
  | chunk chunk => exact absurd answers.1 (by decide)
  | readFailed => exact absurd (show (refreshCommand.member "kind").bytes = ascii "download" from answers) (by decide)
  | unsupported => exact absurd rfl answers.1

/-- Two gauges with a log each: the listing is sent. -/
theorem polling_goes_on_listed :
    (refreshed (volumeOf 2)).request.length ≤ kBodyLimit ∧
      ∃ arguments, idleWorker.accepts .Logs arguments = true ∧
        .submit arguments ∈
          ((refreshed (volumeOf 2)).loop refreshLibrary WebUi.exactNames (benchInput (volumeOf 2) 16000 none)).2 := by
  have listing : refreshLength benchConfig.deviceId (.literal "1")
      (SystemLog.entries { ready := true } (volumeOf 2)) ≤ kBodyLimit := by decide +kernel
  have asked : (polled (volumeOf 2)).Meets refreshLibrary (refreshInput (volumeOf 2)) := by
    refine ⟨fun command given => ?_, fun command given _ => ?_⟩
    · cases (polled_received _ _).mp given
      exact refreshCommand_short
    · cases (polled_received _ _).mp given
      rw [(polled_waits _).2.1]
      exact listing
  have reached := reached_refreshed (fun _ _ => meets_of_silent) asked
  obtain ⟨fits, taken, made, _⟩ := polling_goes_on benchConfig_sized reached
  have served := benchInput_served (volumeOf 2) 16000 none
  have state : (refreshed (volumeOf 2)).ready = true ∧ (refreshed (volumeOf 2)).state = .idle ∧
      ¬(16000 : UInt32) - (refreshed (volumeOf 2)).lastRequest < (refreshed (volumeOf 2)).interval := by
    decide +kernel
  obtain ⟨arguments, submitted, _⟩ := made _ idleWorker served state.1 state.2.1 ⟨rfl, state.2.2⟩
  have silent : (refreshed (volumeOf 2)).received refreshLibrary (benchInput (volumeOf 2) 16000 none) = none := by
    rw [received, if_neg (by rw [state.2.1]; decide)]
    rfl
  exact ⟨fits, arguments, (taken _ idleWorker arguments (meets_of_silent silent) served submitted).1, submitted⟩

/-- A refresh of 128 logs: its answer is never sent. -/
theorem crowded_wedges :
    Reached refreshLibrary WebUi.exactNames benchConfig (ShortIds refreshLibrary) (refreshed (volumeOf 128)) ∧
      kBodyLimit < (refreshed (volumeOf 128)).request.length ∧
      ∀ after, Relation.ReflTransGen (Polls refreshLibrary WebUi.exactNames) (refreshed (volumeOf 128)) after →
        after.state = .idle ∧ after.request = (refreshed (volumeOf 128)).request := by
  have reached := @reached_refreshed (volumeOf 128) (ShortIds refreshLibrary)
    (fun _ _ silent => (meets_of_silent silent).1)
    fun command given => (polled_received _ _).mp given ▸ refreshCommand_short
  have long : kBodyLimit < (refreshed (volumeOf 128)).request.length := by
    rw [refreshed_request, requestJson_files]
    decide +kernel
  have idle : (refreshed (volumeOf 128)).state = .idle := by decide +kernel
  have ends : 0 ∉ (refreshed (volumeOf 128)).request := by
    rw [refreshed_request]
    refine requestJson_ends fun given same => ?_
    cases same
    exact entries_ends _ _
  exact ⟨reached, long, oversized_stays idle long ends⟩

end Bench

end RemoteLogs

end ApexiDevices
