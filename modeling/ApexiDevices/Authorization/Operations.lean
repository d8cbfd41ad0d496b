import ApexiDevices.Authorization.Durable

set_option autoImplicit false

/-!
# What every operation of the logger keeps
-/

namespace ApexiDevices.LoggerAuthorization

open Device DeviceAuthorizationPolicy

variable {mac : UInt64} {logger : LoggerAuthorization} {board : Board} {α : Type}
  {post : α → Board → Prop} {start ack verify : Bool}

theorem Sound.savable (sound : Sound mac logger) {token device : ArduinoString} {version : UInt32}
    (credential : logger.storedOrigin ≠ missing → Credential token device) :
    Savable mac ⟨logger, token, device, version⟩ where
  installation := sound.installation
  secret := sound.secret
  credential := credential
  phase := sound.phase
  candidate := sound.candidate
  pending := sound.pending
  hardware := sound.hardware
  origin := sound.origin
  challenge := sound.challenge

theorem wp_saveStored {rest : Bool → Auth α} (kept : Kept mac board) (sound : Sound mac logger)
    (next : ∀ saved after, Kept mac after → after.inFlight = board.inFlight →
      Board.device.wp (rest saved) post (Kept mac) after) :
    Board.device.wp (logger.saveStored >>= rest) post (Kept mac) board :=
  wp_saveRecord kept (sound.savable sound.credential) next

theorem wp_send {rest : Bool × LoggerAuthorization → Auth α} (kept : Kept mac board)
    (refused : ∀ error, Board.device.wp (rest (false, logger.failed error)) post (Kept mac) board)
    (taken : ∀ lastPollMs, board.inFlight = false →
      Board.device.wp (rest (true, { logger with
        requestStart := start, requestAck := ack, requestVerify := verify, busy := true, lastPollMs }))
        post (Kept mac) { board with inFlight := true }) :
    Board.device.wp (logger.send start ack verify >>= rest) post (Kept mac) board := by
  simp only [send, Prog.bind_bind_eq]
  refine wp_ask (fun _ _ same => same) (fun _ same => same) kept fun (connected : Bool) => ?_
  cases connected with
  | false => exact refused _
  | true =>
    simp only [Bool.not_true, Bool.false_eq_true, if_false, Prog.bind_bind_eq]
    apply wp_submit kept
    · intro free
      simp only [Bool.not_true, Bool.false_eq_true, if_false, Prog.bind_bind_eq]
      refine wp_ask (fun _ _ same => same) (fun _ same => same) ⟨kept.record, kept.saves⟩ fun now => ?_
      exact taken now free
    · exact refused _

theorem wp_sendStart (held : Held mac logger board) (live : Live mac logger)
    (starting : logger.startPending = true) :
    Board.device.wp logger.sendStart (Held mac) (Kept mac) board := by
  obtain ⟨-, pending, waiting⟩ := live.starting starting
  apply wp_send held.kept
  · intro error
    exact ⟨held.kept, held.kept, held.flight, .inl (live.failed error)⟩
  · intro lastPollMs free
    refine ⟨⟨held.kept.record, held.kept.saves⟩, ⟨held.kept.record, held.kept.saves⟩, rfl, .inl ?_⟩
    exact { live with
      starting := nofun
      asked := fun _ => ⟨fun _ => ⟨rfl, rfl, pending, waiting⟩, nofun, nofun⟩ }

theorem wp_sendProof (held : Held mac logger board) (live : Live mac logger)
    (starting : logger.startPending = false)
    (asked : Asked logger.ackPending logger.status logger.authorizationId logger.deviceCode false ack verify) :
    Board.device.wp (do return (← logger.send false ack verify).2) (Held mac) (Kept mac) board := by
  apply wp_send held.kept
  · intro error
    exact ⟨held.kept, held.kept, held.flight, .inl (live.failed error)⟩
  · intro lastPollMs free
    refine ⟨⟨held.kept.record, held.kept.saves⟩, ⟨held.kept.record, held.kept.saves⟩, rfl, .inl ?_⟩
    exact { live with
      starting := fun started => absurd (starting.symm.trans started) (by decide)
      asked := fun _ => asked }

theorem wp_expiresIn {rest : UInt32 → Auth α} {crash : Board → Prop} (kept : crash board)
    (next : ∀ seconds, Board.device.wp (rest seconds) post crash board) :
    Board.device.wp (logger.expiresIn >>= rest) post crash board := by
  rw [expiresIn]
  split
  · exact next 0
  · simp only [Prog.bind_bind_eq]
    refine wp_ask (fun _ _ same => same) (fun _ same => same) kept fun now => ?_
    exact next _

theorem wp_approvalOpen {rest : Bool → Auth α} {crash : Board → Prop} (kept : crash board)
    (next : ∀ waiting, Board.device.wp (rest waiting) post crash board) :
    Board.device.wp (logger.approvalOpen >>= rest) post crash board := by
  rw [approvalOpen]
  split
  · simp only [Prog.bind_bind_eq]
    exact wp_expiresIn kept fun seconds => next _
  · exact next false

theorem wp_requestAuthorization (held : Held mac logger board) :
    Board.device.wp logger.requestAuthorization (fun answer => Held mac answer.2) (Kept mac) board := by
  have failed (error : String) : Held mac (logger.failed error) board := by
    refine ⟨held.kept, held.flight, held.state.imp (fun live => live.failed error) fun inert => ?_⟩
    exact { inert with idle := inert.idle }
  rw [requestAuthorization]
  split
  · exact ⟨held.kept, failed _⟩
  · next available =>
    simp only [Bool.or_eq_true, Bool.not_eq_true', not_or, Bool.not_eq_false] at available
    obtain ⟨⟨ready, idle⟩, running⟩ := available
    have live : Live mac logger := by
      refine held.state.resolve_right fun inert => ?_
      rcases inert.silent with ⟨unready, -, -⟩ | restart
      · exact absurd (unready.symm.trans ready) (by decide)
      · exact running restart
    split
    · exact ⟨held.kept, failed _⟩
    · split
      · exact ⟨held.kept, held⟩
      · next unsaved =>
        refine wp_approvalOpen held.kept fun waiting => ?_
        cases waiting with
        | true => exact ⟨held.kept, held⟩
        | false =>
          refine Model.wp_then (wp_sendStart ⟨held.kept, held.flight, .inl ?_⟩ ?_ rfl) (fun _ same => same)
            fun next last held => ⟨held.kept, held⟩
          all_goals
            exact { live with
              challenge := .inl ⟨rfl, rfl⟩
              pending := fun pending => absurd pending unsaved
              awaiting := nofun
              starting := fun _ => ⟨eq_false_of_ne_true idle, eq_false_of_ne_true unsaved, nofun⟩
              asked := fun busy => absurd busy idle }

section Responses

structure Answered (mac : UInt64) (flight : Bool) (logger : LoggerAuthorization) (board : Board) : Prop where
  kept : Kept mac board
  flight : board.inFlight = flight
  idle : logger.busy = false
  state : Live mac logger ∨ Inert logger

structure Answering (mac : UInt64) (logger : LoggerAuthorization) (board : Board) : Prop where
  kept : Kept mac board
  live : Live mac logger
  idle : logger.busy = false
  starting : logger.startPending = false

theorem Answering.unchanged (answering : Answering mac logger board) {next : LoggerAuthorization}
    (sound : Sound mac next) (idle : next.busy = logger.busy) (starting : next.startPending = logger.startPending)
    (awaiting : next.status = .awaitingApproval →
      Challenge next.authorizationId next.deviceCode ∧ next.ackPending = false) :
    Answered mac board.inFlight next board :=
  ⟨answering.kept, rfl, idle.trans answering.idle,
    .inl (sound.live (starting.trans answering.starting) (idle.trans answering.idle) awaiting)⟩

theorem Answering.failed (answering : Answering mac logger board) (error : String) :
    Answered mac board.inFlight (logger.failed error) board :=
  ⟨answering.kept, rfl, answering.idle, .inl (answering.live.failed error)⟩

theorem wp_refused (answering : Answering mac logger board) (code : Int) :
    Board.device.wp (logger.refused code) (Answered mac board.inFlight) (Kept mac) board := by
  have sound := answering.live.toSound
  rw [refused]
  apply wp_saveStored answering.kept
  · exact { sound with challenge := .inl ⟨rfl, rfl⟩, pending := nofun }
  · intro saved after kept flight
    refine ⟨kept, kept, flight, answering.idle, .inl (Sound.live ?_ answering.starting answering.idle ?_)⟩
    · exact { sound with challenge := .inl ⟨rfl, rfl⟩, pending := nofun }
    · intro waiting
      dsimp only at waiting
      split at waiting
      · cases waiting
      · split at waiting <;> cases waiting

theorem wp_acknowledged (answering : Answering mac logger board) (pending : logger.ackPending = true) :
    Board.device.wp logger.acknowledged (Answered mac board.inFlight) (Kept mac) board := by
  have sound := answering.live.toSound
  obtain ⟨credential, challenge⟩ := sound.pending pending
  rw [acknowledged]
  apply wp_saveRecord answering.kept
  · exact {
      installation := sound.installation
      secret := sound.secret
      credential := fun _ => credential
      phase := UInt8.zero_le
      candidate := fun other => absurd rfl other
      pending := nofun
      hardware := sound.hardware
      origin := sound.origin
      challenge := .inl ⟨rfl, rfl⟩ }
  · intro saved after kept flight
    cases saved with
    | false =>
      refine ⟨kept, kept, flight, answering.idle, .inl ?_⟩
      exact { answering.live with
        pending := fun _ => ⟨credential, challenge⟩
        challenge := .inr challenge
        awaiting := fun waiting =>
          absurd (pending.symm.trans (answering.live.awaiting waiting).2) (by decide)
        starting := fun started => absurd (answering.starting.symm.trans started) (by decide)
        asked := fun busy => absurd (answering.idle.symm.trans busy) (by decide) }
    | true =>
      refine ⟨kept, kept, flight, answering.idle, ?_⟩
      by_cases bearer : logger.config.appDeviceToken = .empty
      · exact .inr ⟨answering.idle, bearer, answering.starting, rfl, nofun, .inr rfl⟩
      · refine .inl (Sound.live ?_ answering.starting answering.idle nofun)
        exact { sound with
          credential := fun _ => sound.active bearer
          phase := UInt8.zero_le
          candidate := fun other => absurd rfl other
          challenge := .inl ⟨rfl, rfl⟩
          pending := nofun }

theorem challenge_of_valid {doc : Members} (valid : validChallenge doc = true) :
    Challenge (doc.get "authorization_id").asString (doc.get "device_code").asString := by
  simp only [validChallenge, Bool.and_eq_true] at valid
  exact ⟨valid.1.1.1.2, valid.1.1.2⟩

theorem credential_of_valid {doc : Members} (valid : validCredential doc = true) :
    Credential (doc.get "access_token").asString (doc.get "device_id").asString := by
  simp only [validCredential, Bool.and_eq_true] at valid
  exact ⟨valid.1.1.2, valid.1.2⟩

theorem wp_challengeEpoch {expiresMs : UInt32} {rest : UInt32 → Auth α} {crash : Board → Prop}
    (kept : crash board) (next : ∀ epoch, Board.device.wp (rest epoch) post crash board) :
    Board.device.wp (challengeEpoch expiresMs >>= rest) post crash board := by
  simp only [challengeEpoch, Prog.bind_bind_eq]
  refine wp_ask (fun _ _ same => same) (fun _ same => same) kept fun (now : Int) => ?_
  split
  · exact next 0
  · simp only [Prog.bind_bind_eq]
    refine wp_ask (fun _ _ same => same) (fun _ same => same) kept fun (now : Int) => ?_
    exact next _

theorem wp_challenged (answering : Answering mac logger board) (unsaved : logger.ackPending = false)
    (doc : Members) :
    Board.device.wp (logger.challenged doc) (Answered mac board.inFlight) (Kept mac) board := by
  have sound := answering.live.toSound
  rw [challenged]
  split
  · exact ⟨answering.kept, answering.failed _⟩
  · next valid =>
    have challenge : Challenge (doc.get "authorization_id").asString (doc.get "device_code").asString :=
      challenge_of_valid (by simpa using valid)
    refine wp_ask (fun _ _ same => same) (fun _ same => same) answering.kept fun startedMs => ?_
    refine wp_challengeEpoch answering.kept fun expiresEpoch => ?_
    apply wp_saveStored answering.kept
    · exact { sound with
        challenge := .inr challenge
        pending := fun pending => absurd (unsaved.symm.trans pending) (by decide) }
    · intro saved after kept flight
      cases saved with
      | false =>
        refine ⟨kept, kept, flight, answering.idle, .inl (Sound.live ?_ answering.starting answering.idle nofun)⟩
        exact { sound with
          challenge := .inl ⟨rfl, rfl⟩
          pending := fun pending => absurd (unsaved.symm.trans pending) (by decide) }
      | true =>
        refine ⟨kept, kept, flight, answering.idle, .inl (Sound.live ?_ answering.starting answering.idle
          fun _ => ⟨challenge, unsaved⟩)⟩
        exact { sound with
          challenge := .inr challenge
          pending := fun pending => absurd (unsaved.symm.trans pending) (by decide) }

theorem wp_issued (answering : Answering mac logger board)
    (challenge : Challenge logger.authorizationId logger.deviceCode) (doc : Members) :
    Board.device.wp (logger.issued doc) (Answered mac board.inFlight) (Kept mac) board := by
  have sound := answering.live.toSound
  rw [issued]
  split
  · exact ⟨answering.kept, answering.failed _⟩
  · next valid =>
    have credential : Credential (doc.get "access_token").asString (doc.get "device_id").asString :=
      credential_of_valid (by simpa using valid)
    apply wp_saveStored answering.kept
    · exact { sound with pending := fun _ => ⟨credential, challenge⟩ }
    · intro saved after kept flight
      cases saved with
      | false =>
        refine ⟨kept, kept, flight, answering.idle, .inl (Sound.live ?_ answering.starting answering.idle
          fun _ => ⟨challenge, rfl⟩)⟩
        exact { sound with pending := nofun }
      | true =>
        refine ⟨kept, kept, flight, answering.idle, .inl (Sound.live ?_ answering.starting answering.idle nofun)⟩
        exact { sound with pending := fun _ => ⟨credential, challenge⟩ }

theorem wp_acceptDocument (answering : Answering mac logger board)
    (asked : Asked logger.ackPending logger.status logger.authorizationId logger.deviceCode start ack verify)
    (code : Int) (doc : Members) :
    Board.device.wp (logger.acceptDocument code doc start ack) (Answered mac board.inFlight) (Kept mac)
      board := by
  rw [acceptDocument]
  split
  · next acknowledges =>
    simp only [Bool.and_eq_true] at acknowledges
    exact wp_acknowledged answering (asked.pends (.inl acknowledges.1.1))
  · split
    · next challenges =>
      rw [Bool.and_eq_true] at challenges
      exact wp_challenged answering (asked.starts challenges.1).2.2.1 doc
    · split
      · exact ⟨answering.kept, answering.failed ""⟩
      · split
        · next issues =>
          simp only [Bool.and_eq_true, Bool.not_eq_true'] at issues
          exact wp_issued answering (asked.proof issues.1.1.1.1) doc
        · exact ⟨answering.kept, answering.failed _⟩

theorem wp_acceptPlain (answering : Answering mac logger board)
    (asked : Asked logger.ackPending logger.status logger.authorizationId logger.deviceCode start ack verify)
    (code : Int) (body : Text) :
    Board.device.wp (logger.acceptPlain code body start ack) (Answered mac board.inFlight) (Kept mac)
      board := by
  have sound := answering.live.toSound
  unfold acceptPlain
  split
  · exact ⟨answering.kept, answering.unchanged { sound with } rfl rfl answering.live.awaiting⟩
  · split
    · refine ⟨answering.kept, answering.unchanged { sound with } rfl rfl fun waiting => ?_⟩
      apply answering.live.awaiting
      dsimp only at waiting
      split at waiting
      · cases waiting
      · exact waiting
    · split
      · exact ⟨answering.kept, answering.unchanged { sound with } rfl rfl nofun⟩
      · split
        · exact wp_refused answering code
        · split
          · exact wp_acceptDocument answering asked code _
          · exact ⟨answering.kept, answering.failed _⟩

theorem wp_accept (answering : Answering mac logger board)
    (asked : Asked logger.ackPending logger.status logger.authorizationId logger.deviceCode start ack verify)
    (code : Int) (body : Text) :
    Board.device.wp (logger.accept code body start ack verify) (Answered mac board.inFlight) (Kept mac)
      board := by
  unfold accept
  split
  · next verifies =>
    rw [Bool.and_eq_true] at verifies
    have proof : start = false := by
      cases starts : start with
      | false => rfl
      | true => exact absurd ((asked.starts starts).2.1.symm.trans verifies.1) (by decide)
    split
    · exact ⟨answering.kept, answering.failed _⟩
    · next doc =>
      have checked : Answering mac { logger with verifyPending := false } board :=
        { answering with live := { answering.live with } }
      split
      · have acknowledging : Asked logger.ackPending logger.status logger.authorizationId logger.deviceCode false
            true false :=
          ⟨nofun, fun _ => asked.proof proof, fun _ => asked.pends (.inr verifies.1)⟩
        exact wp_acceptPlain checked acknowledging _ _
      · have refusing : Asked logger.ackPending logger.status logger.authorizationId logger.deviceCode false
            false false :=
          ⟨nofun, fun _ => asked.proof proof, nofun⟩
        exact wp_acceptPlain checked refusing _ _
  · exact wp_acceptPlain answering asked code body

end Responses

section Loop

theorem Held.idle_or_asked (held : Held mac logger board) :
    logger.busy = false ∨ (Live mac logger ∧ logger.startPending = false ∧
      Asked logger.ackPending logger.status logger.authorizationId logger.deviceCode logger.requestStart
        logger.requestAck logger.requestVerify) := by
  cases busy : logger.busy with
  | false => exact .inl rfl
  | true =>
    have live := held.state.resolve_right fun inert => absurd (inert.idle.symm.trans busy) (by decide)
    refine .inr ⟨live, ?_, live.asked busy⟩
    cases starting : logger.startPending with
    | false => rfl
    | true => exact absurd ((live.starting starting).1.symm.trans busy) (by decide)

theorem wp_takeResult (held : Held mac logger board) :
    Board.device.wp logger.takeResult (Held mac) (Kept mac) board := by
  rw [takeResult]
  apply Model.wp_bind.mpr
  refine ⟨held.kept, fun after torn => torn ▸ held.kept, ?_⟩
  rintro (answer : Option Answer) after ⟨rfl, delivered⟩
  refine ⟨held.kept, ?_⟩
  cases answer with
  | none => exact ⟨held.kept, held⟩
  | some answer =>
    have busy : logger.busy = true := held.flight.trans (delivered rfl)
    obtain ⟨live, starting, asked⟩ := held.idle_or_asked.resolve_left (by simp [busy])
    have answering : Answering mac { logger with busy := false } after :=
      ⟨held.kept, { live with starting := fun _ => ⟨rfl, (live.starting ‹_›).2⟩, asked := nofun }, rfl, starting⟩
    refine Model.wp_then (wp_accept answering asked _ _) (fun _ same => same) fun next last answered => ?_
    apply Model.wp_bind.mpr
    refine ⟨answered.kept, fun after torn => torn ▸ answered.kept, ?_⟩
    rintro ⟨⟩ released rfl
    have kept : Kept mac { last with inFlight := false } := ⟨answered.kept.record, answered.kept.saves⟩
    refine ⟨kept, kept, ?_⟩
    split
    · refine ⟨kept, answered.idle, answered.state.imp (fun live => live.failed _) fun inert => ?_⟩
      exact { inert with idle := inert.idle }
    · exact ⟨kept, answered.idle, answered.state⟩

theorem wp_retryAcknowledgement (held : Held mac logger board) :
    Board.device.wp logger.retryAcknowledgement (Held mac) (Kept mac) board := by
  rw [retryAcknowledgement]
  split
  · exact ⟨held.kept, held⟩
  · next retries =>
    simp only [Bool.or_eq_true, Bool.not_eq_true', not_or, Bool.not_eq_false, Bool.not_eq_true] at retries
    have live := held.state.resolve_right fun inert =>
      absurd (inert.pending.symm.trans retries.1) (by decide)
    refine wp_ask (fun _ _ same => same) (fun _ same => same) held.kept fun (now : UInt32) => ?_
    split
    · exact ⟨held.kept, held⟩
    · apply wp_sendProof held live
      · cases starting : logger.startPending with
        | false => rfl
        | true => exact absurd ((live.starting starting).2.1.symm.trans retries.1) (by decide)
      · exact ⟨nofun, fun _ => (live.pending retries.1).2, fun _ => retries.1⟩

theorem wp_pollApproval (held : Held mac logger board) :
    Board.device.wp logger.pollApproval (Held mac) (Kept mac) board := by
  rw [pollApproval]
  split
  · exact ⟨held.kept, held⟩
  · next polls =>
    simp only [ne_eq, Bool.or_eq_true, decide_eq_true_eq, not_or, Decidable.not_not, Bool.not_eq_true] at polls
    obtain ⟨waiting, idle⟩ := polls
    have live := held.state.resolve_right fun inert => inert.waiting waiting
    obtain ⟨challenge, unsaved⟩ := live.awaiting waiting
    have starting : logger.startPending = false := by
      cases starts : logger.startPending with
      | false => rfl
      | true => exact absurd waiting (live.starting starts).2.2
    refine wp_expiresIn held.kept fun seconds => ?_
    split
    · refine wp_ask (fun _ _ same => same) (fun _ same => same) held.kept fun _ => ?_
      have sound : Sound mac { logger with
          status := .expired, deviceCode := .empty, userCode := .empty, authorizationId := .empty } :=
        { live with
          challenge := .inl ⟨rfl, rfl⟩
          pending := fun pending => absurd (unsaved.symm.trans pending) (by decide) }
      refine wp_saveStored held.kept sound fun saved after kept flight => ?_
      exact ⟨kept, kept, held.flight.trans flight.symm, .inl (sound.live starting idle nofun)⟩
    · refine wp_ask (fun _ _ same => same) (fun _ same => same) held.kept fun (now : UInt32) => ?_
      split
      · exact ⟨held.kept, held⟩
      · exact wp_sendProof held live starting ⟨nofun, fun _ => challenge, nofun⟩

theorem wp_loop (held : Held mac logger board) :
    Board.device.wp logger.loop (Held mac) (Kept mac) board := by
  have rest {next : LoggerAuthorization} {last : Board} (held : Held mac next last) :
      Board.device.wp (do
        let next ← next.takeResult
        let next ← next.retryAcknowledgement
        next.pollApproval) (Held mac) (Kept mac) last := by
    refine Model.wp_then (wp_takeResult held) (fun _ same => same) fun next last held => ?_
    refine Model.wp_then (wp_retryAcknowledgement held) (fun _ same => same) fun next last held => ?_
    exact wp_pollApproval held
  rw [loop]
  split
  · exact ⟨held.kept, held⟩
  · split
    · next starts =>
      rw [Bool.and_eq_true] at starts
      have live := held.state.resolve_right fun inert =>
        absurd (inert.starting.symm.trans starts.1) (by decide)
      exact Model.wp_then (wp_sendStart held live starts.1) (fun _ same => same) fun next last held => rest held
    · exact rest held

end Loop

section Rotation

structure SameRequest (before after : LoggerAuthorization) : Prop where
  busy : after.busy = before.busy
  starting : after.startPending = before.startPending
  pending : after.ackPending = before.ackPending
  id : after.authorizationId = before.authorizationId
  code : after.deviceCode = before.deviceCode
  kind : after.requestStart = before.requestStart ∧ after.requestAck = before.requestAck ∧
    after.requestVerify = before.requestVerify

theorem Live.moved (live : Live mac logger) {next : LoggerAuthorization} (sound : Sound mac next)
    (same : SameRequest logger next)
    (status : next.status = .awaitingApproval → logger.status = .awaitingApproval) : Live mac next := by
  obtain ⟨busy, starting, pending, id, code, start, ack, verify⟩ := same
  refine { sound with awaiting := fun waiting => ?_, starting := fun starts => ?_, asked := fun asks => ?_ }
  · rw [id, code, pending]
    exact live.awaiting (status waiting)
  · obtain ⟨idle, unsaved, other⟩ := live.starting (starting ▸ starts)
    exact ⟨busy.trans idle, pending.trans unsaved, fun waiting => other (status waiting)⟩
  · obtain ⟨starts, proof, pends⟩ := live.asked (busy ▸ asks)
    rw [pending, id, code, start, ack, verify]
    refine ⟨fun started => ?_, proof, pends⟩
    obtain ⟨noAck, noVerify, unsaved, other⟩ := starts started
    exact ⟨noAck, noVerify, unsaved, fun waiting => other (status waiting)⟩

theorem candidate_of_valid {rotation : Members} (valid : validRotation rotation = true) :
    printable (rotation.get "token").asString 32 511 = true ∧
      printable (rotation.get "nonce").asString 8 96 = true ∧ (rotation.get "version").uint?.getD 0 ≠ 0 := by
  simp only [validRotation, Bool.and_eq_true, Option.any_eq_true, bne_iff_ne] at valid
  obtain ⟨⟨⟨⟨⟨⟨⟨-, version, read, nonzero⟩, -⟩, -⟩, -⟩, token⟩, nonce⟩, -⟩ := valid
  exact ⟨token, nonce, by rw [read]; exact nonzero⟩

theorem wp_stageRotation (held : Held mac logger board) (rotation : Option Members) :
    Board.device.wp (logger.stageRotation rotation) (fun answer => Held mac answer.2) (Kept mac) board := by
  unfold stageRotation
  split
  · exact ⟨held.kept, held⟩
  · next running =>
    split
    · exact ⟨held.kept, held⟩
    · next rotation =>
      split
      · exact ⟨held.kept, held⟩
      · next checked =>
        have valid := @candidate_of_valid rotation (by simpa using checked)
        dsimp only
        split
        · exact ⟨held.kept, held⟩
        · split
          · exact ⟨held.kept, held⟩
          · split
            · exact ⟨held.kept, held⟩
            · next fresh =>
              simp only [Bool.or_eq_true, not_or] at fresh
              have live : Live mac logger := held.state.resolve_right fun inert => by
                rcases inert.silent with ⟨-, -, stored⟩ | restart
                · exact fresh.1.2 (ArduinoString.isEmpty_iff.mpr stored)
                · exact running restart
              have staged : (1 : UInt8) ≤ 2 := by decide
              refine wp_saveStored held.kept { live with phase := staged, candidate := fun _ => valid }
                fun saved after kept flight => ?_
              have flight := held.flight.trans flight.symm
              cases saved with
              | false =>
                refine ⟨kept, kept, flight, .inl (live.moved ?_ ⟨rfl, rfl, rfl, rfl, rfl, rfl, rfl, rfl⟩ id)⟩
                exact { live with phase := UInt8.zero_le, candidate := fun other => absurd rfl other }
              | true =>
                refine ⟨kept, kept, flight, .inl (live.moved ?_ ⟨rfl, rfl, rfl, rfl, rfl, rfl, rfl, rfl⟩ nofun)⟩
                exact { live with phase := staged, candidate := fun _ => valid }

theorem wp_stageDesired (held : Held mac logger board) (envelope : Members) :
    Board.device.wp (logger.stageDesired envelope) (fun answer => Held mac answer.2) (Kept mac) board := by
  rw [stageDesired]
  split
  · exact ⟨held.kept, held⟩
  · split
    · exact ⟨held.kept, held⟩
    · split
      · exact wp_stageRotation held _
      · exact ⟨held.kept, held⟩

theorem wp_statusResult (held : Held mac logger board) (accepted : Bool) :
    Board.device.wp (logger.statusResult accepted) (Held mac) (Kept mac) board := by
  have shown {status : Status} (other : status ≠ .awaitingApproval) : Held mac { logger with status } board := by
    refine ⟨held.kept, held.flight, held.state.imp (fun live => ?_) fun inert => ?_⟩
    · exact live.moved { live with } ⟨rfl, rfl, rfl, rfl, rfl, rfl, rfl, rfl⟩ fun waiting => absurd waiting other
    · exact { inert with waiting := other }
  have staged : (1 : UInt8) ≤ 2 := by decide
  have acknowledged : (2 : UInt8) ≤ 2 := by decide
  rw [statusResult]
  split
  · exact ⟨held.kept, held⟩
  · next running =>
    split
    · split
      · refine ⟨held.kept, shown ?_⟩
        split <;> decide
      · exact ⟨held.kept, held⟩
    -- a rotation under way was begun by a logger that is live
    · have live (staged : logger.rotationPhase ≠ 0) : Live mac logger := held.state.resolve_right fun inert =>
        inert.silent.elim (fun silent => staged silent.2.1) running
      split
      · next phase =>
        have live := live (by simp [phase])
        have candidate := live.candidate (by simp [phase])
        refine wp_saveStored held.kept { live with phase := acknowledged, candidate := fun _ => candidate }
          fun saved after kept flight => ?_
        have flight := held.flight.trans flight.symm
        cases saved with
        | false =>
          refine ⟨kept, kept, flight, .inl (live.moved ?_ ⟨rfl, rfl, rfl, rfl, rfl, rfl, rfl, rfl⟩ id)⟩
          exact { live with phase := staged, candidate := fun _ => candidate }
        | true =>
          refine ⟨kept, kept, flight, .inl (live.moved ?_ ⟨rfl, rfl, rfl, rfl, rfl, rfl, rfl, rfl⟩ nofun)⟩
          exact { live with phase := acknowledged, candidate := fun _ => candidate }
      · split
        · next phase =>
          have live := live (by simp [phase])
          have candidate := live.candidate (by simp [phase])
          have sound : Sound mac { logger with
              appliedRotationVersion := logger.rotationVersion, appliedRotationNonce := logger.rotationNonce
              rotationPhase := 0 } :=
            { live with phase := UInt8.zero_le, candidate := fun other => absurd rfl other }
          refine wp_saveRecord held.kept (sound.savable fun other => ⟨candidate.1, (live.credential other).2⟩)
            fun saved after kept flight => ?_
          have flight := held.flight.trans flight.symm
          cases saved with
          | false =>
            refine ⟨kept, kept, flight, .inl (live.moved ?_ ⟨rfl, rfl, rfl, rfl, rfl, rfl, rfl, rfl⟩ id)⟩
            exact { live with phase := acknowledged, candidate := fun _ => candidate }
          | true =>
            refine ⟨kept, kept, flight, .inl (live.moved ?_ ⟨rfl, rfl, rfl, rfl, rfl, rfl, rfl, rfl⟩ nofun)⟩
            exact { sound with }
        · split
          · exact ⟨held.kept, shown (by decide)⟩
          · exact ⟨held.kept, held⟩

theorem Held.fallback (held : Held mac logger board) (fallback : Bool) :
    Held mac { logger with fallback } board := by
  refine ⟨held.kept, held.flight, held.state.imp (fun live => ?_) fun inert => ?_⟩
  · exact live.moved { live with } ⟨rfl, rfl, rfl, rfl, rfl, rfl, rfl, rfl⟩ id
  · exact { inert with idle := inert.idle }

/-- A fallback was answered with a bearer, or in a logger that began and does not wait for a restart. -/
def Reportable (logger : LoggerAuthorization) : Prop :=
  logger.bearer false ≠ .empty ∨ (logger.ready = true ∧ logger.restart = false)

theorem wp_finishRotationFallback (held : Held mac logger board) (oldAccepted : Bool)
    (reportable : oldAccepted = true → Reportable logger) :
    Board.device.wp (logger.finishRotationFallback oldAccepted) (fun answer => Held mac answer.2) (Kept mac)
      board := by
  have settled := held.fallback false
  rw [finishRotationFallback]
  split
  · exact ⟨held.kept, settled⟩
  · next accepted =>
    have live : Live mac { logger with fallback := false } := settled.state.resolve_right fun inert => by
      rcases reportable (by simpa using accepted) with bearer | ⟨ready, running⟩
      · exact bearer inert.bearer
      · rcases inert.silent with ⟨unready, -, -⟩ | restart
        · exact absurd (unready.symm.trans ready) (by decide)
        · exact absurd (running.symm.trans restart) (by decide)
    have sound : Sound mac { logger with
        fallback := false, rotationPhase := 0, candidate := .empty, rotationNonce := .empty
        rotationExpiry := .empty, rotationVersion := 0 } :=
      { live with phase := UInt8.zero_le, candidate := fun other => absurd rfl other }
    refine wp_saveStored held.kept sound fun saved after kept flight => ?_
    have flight := held.flight.trans flight.symm
    cases saved with
    | false => exact ⟨kept, kept, flight, .inl (live.failed _)⟩
    | true =>
      exact ⟨kept, kept, flight, .inl (live.moved { sound with } ⟨rfl, rfl, rfl, rfl, rfl, rfl, rfl, rfl⟩ nofun)⟩

end Rotation

theorem written_hardware {record : Members} (written : Written mac record) :
    ((Json.object record).member "hardware_id").asString = DeviceAuthorizationPolicy.hardwareId mac := by
  cases written with
  | identity => exact Json.asString_ofText _
  | saved savable =>
    rw [Save.member_record (by decide) (by decide)]
    exact (Json.asString_ofText _).trans savable.hardware

theorem ownerResetRecord_written {record : Members} (written : Written mac record) {reset : Members}
    (cleared : ownerResetRecord (some (.object record)) = some reset) : Written mac reset := by
  simp only [ownerResetRecord, written_hardware written] at cleared
  split at cleared
  · next checked =>
    simp only [Bool.and_eq_true] at checked
    obtain rfl := Option.some.inj cleared
    exact .identity checked.1.2 checked.2
  · cases cleared

theorem wp_factoryReset (held : Held mac logger board) :
    Board.device.wp factoryReset (fun _ => Held mac logger) (Kept mac) board := by
  rw [factoryReset]
  refine wp_ask (fun _ _ same => same) (fun _ same => same) held.kept fun (opened : Bool) => ?_
  split
  · exact ⟨held.kept, held⟩
  · apply Model.wp_bind.mpr
    refine ⟨held.kept, fun after torn => torn ▸ held.kept, ?_⟩
    rintro saved after ⟨rfl, rfl⟩
    refine ⟨held.kept, ?_⟩
    cases stored : after.record with
    | none => exact ⟨held.kept, held⟩
    | some record =>
      simp only [Option.map_some]
      cases cleared : ownerResetRecord (some (.object record)) with
      | none => exact ⟨held.kept, held⟩
      | some reset =>
        have written := ownerResetRecord_written (held.kept.record record stored) cleared
        refine ⟨held.kept, ?_, fun (put : Bool) last step => ?_⟩
        · rintro last (rfl | rfl)
          · exact held.kept
          · exact held.kept.put written
        · obtain ⟨replaced, flight, saves⟩ := step
          have kept := held.kept.written replaced written saves
          exact ⟨kept, kept, held.flight.trans flight.symm, held.state⟩

end ApexiDevices.LoggerAuthorization
