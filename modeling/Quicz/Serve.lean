import Quicz.Recv.Refines
import Quicz.Send.Recovers
import Quicz.Send.Writes
import Quicz.Upkeep.Views

/-! What a call does to the connection as a whole. However it ends, the receive side of the streams moves
along its machine, the send side along its own, the books by entries the rule allows, and every part of the
upkeep along its machine. Here: the timers, the losses, and the calls around the streams. -/
namespace Quicz

open Chunks Proc Resend List Connection

variable (c : Connection) (space : PacketNumberSpace)

structure Evolves (rule : LedgerRule) (c t : Connection) : Prop where
  recv : RecvSteps rule.recv c.recvPart t.recvPart
  send : c.sendView.Moves t.sendView
  ledger : LedgerSteps rule c.ledger t.ledger

structure Serves (lives : Life → Life → Prop) (b : LedgerRule) (u : UpkeepRule) (c t : Connection) : Prop where
  evolves : Evolves b c t
  tends : Tends lives u c t

variable {lives : Life → Life → Prop} [IsPreorder Life lives] {b : LedgerRule} {u : UpkeepRule}

section Relation

variable {α : Type} {m : ConnM α} {c t : Connection}

theorem Evolves.refl (c : Connection) : Evolves b c c := ⟨.refl _, .refl _, .refl _⟩

theorem Evolves.trans {a c t : Connection} (h : Evolves b a c) (k : Evolves b c t) :
    Evolves b a t := ⟨h.recv.trans k.recv, h.send.trans k.send, h.ledger.trans k.ledger⟩

instance : IsPreorder Connection (Evolves b) where
  refl := .refl
  trans _ _ _ := .trans

theorem Sends.evolves (h : Sends b c t) : Evolves b c t :=
  ⟨h.streams.recvPart ▸ .refl _, h.streams.moves, h.ledger⟩

theorem Evolves.of_view (h : t.view = c.view) : Evolves b c t := (Sends.of_view h).evolves

namespace Serves

theorem refl (c : Connection) : Serves lives b u c c := ⟨.refl c, .refl c⟩

theorem trans {a c t : Connection} (h : Serves lives b u a c) (k : Serves lives b u c t) : Serves lives b u a t :=
  ⟨h.evolves.trans k.evolves, h.tends.trans k.tends⟩

instance : IsPreorder Connection (Serves lives b u) where
  refl := refl
  trans _ _ _ := trans

theorem of_rest (view : t.view = c.view) (upkeep : t.upkeep = c.upkeep) : Serves lives b u c t :=
  ⟨.of_view view, .of_upkeep upkeep⟩

theorem of_entry (entry : LedgerEntry) (allowed : entry.Allowed b c.ledger) (streams : t.streamView = c.streamView)
    (ledger : t.ledger = entry.apply c.ledger) (upkeep : t.upkeep = c.upkeep) : Serves lives b u c t :=
  ⟨(Sends.of_entry entry allowed streams ledger).evolves, .of_upkeep upkeep⟩

theorem rest {v : Connection} (h : Serves lives b u c t) (view : v.view = t.view) (upkeep : v.upkeep = t.upkeep) :
    Serves lives b u c v := h.trans (of_rest view upkeep)

omit [IsPreorder Life lives] in
theorem of_still (h : Serves lives b u.still c t) : Serves lives b u c t ∧ t.activity = c.activity :=
  ⟨⟨h.evolves, h.tends.of_still.1⟩, h.tends.of_still.2⟩

omit [IsPreorder Life lives] in
theorem of_nameless (h : Serves lives b u.nameless c t) : Serves lives b u c t ∧ t.identity = c.identity :=
  ⟨⟨h.evolves, h.tends.of_nameless.1⟩, h.tends.of_nameless.2⟩

theorem lively (h : Serves Eq b u c t) : Serves LifeSteps b u c t := ⟨h.evolves, h.tends.lively⟩

end Serves

theorem Sends.serves (h : Sends b c t) (upkeep : t.upkeep = c.upkeep) : Serves lives b u c t :=
  ⟨h.evolves, .of_upkeep upkeep⟩

theorem OnlyRecv.tends (h : OnlyRecv c t) : Tends lives u c t := by
  have kept : (t.withRecvOf c).upkeep = c.upkeep := congrArg upkeep h
  exact .of_upkeep kept

theorem Takes.serves (h : Takes b.recv c t) : Serves lives b u c t := by
  have sendView : (t.withRecvOf c).sendView = c.sendView := congrArg sendView h.only
  have ledger : (t.withRecvOf c).ledger = c.ledger := congrArg ledger h.only
  change t.sendView = _ at sendView
  change t.ledger = _ at ledger
  exact ⟨⟨h.steps, sendView ▸ .refl _, ledger ▸ .refl _⟩, h.only.tends⟩

theorem serves_of_receives (receives : Steps (Takes b.recv) m) : Steps (Serves lives b u) m :=
  receives.mono fun _ _ => Takes.serves

end Relation

variable (now : Int)

theorem expire_tends : Tends LifeSteps u c c.expire := .of_life (.expires _) rfl

theorem expireIdleState_tends : Tends LifeSteps u c (c.expireIdleState now) := by
  rcases c.expireIdleState_cases now with same | ended
  · rw [same]
    exact .refl c
  · rw [ended]
    exact expire_tends c

theorem expireCloseState_tends : Tends LifeSteps u c (c.expireCloseState now) := by
  rcases c.expireCloseState_cases now with same | ended
  · rw [same]
    exact .refl c
  · rw [ended]
    exact expire_tends c

theorem expireIdleState_serves : Steps (Serves LifeSteps b u) (modify fun c => c.expireIdleState now : ConnM PUnit) :=
  fun c => ⟨.of_view (view_expireIdleState c now), expireIdleState_tends c now⟩

theorem expireCloseState_serves :
    Steps (Serves LifeSteps b u) (modify fun c => c.expireCloseState now : ConnM PUnit) :=
  fun c => ⟨.of_view (view_expireCloseState c now), expireCloseState_tends c now⟩

theorem expireState_serves : Steps (Serves LifeSteps b u) (expireState now) :=
  .bind (expireIdleState_serves now) fun _ => expireCloseState_serves now

theorem not_isClosingOrClosed {c : Connection} (going : ¬ c.isClosingOrClosed = true) :
    c.state = .active ∧ c.pendingClose = none ∧ c.closed = false := by
  simp only [isClosingOrClosed, Bool.not_eq_true, Bool.or_eq_false_iff, decide_eq_false_iff_not,
    not_not, Option.isSome_eq_false_iff, Option.isNone_iff_eq_none] at going
  exact ⟨going.1.1, going.1.2, going.2⟩

theorem closeWith_serves (close : PendingCloseFrame) : Steps (Serves LifeSteps b u) (closeWith close) := by
  refine .runs fun c => .active fun going => .value fun _ _ => .read (.failIf fun _ => ?_)
  obtain ⟨active, -, running⟩ := not_isClosingOrClosed going
  exact ⟨.of_view rfl, .of_life (.closes close active running) rfl⟩

theorem confirmHandshake_serves : Steps (Serves lives b u) confirmHandshake :=
  .active <| .modify fun _ => .of_rest rfl rfl

theorem discardPacketNumberSpaceState_serves {space : PacketNumberSpace} (early : space ≠ .application) :
    Serves lives b u c (c.discardPacketNumberSpaceState space) :=
  (discardPacketNumberSpaceState_prepares c early).sends.serves (upkeep_discardPacketNumberSpaceState c space)

theorem discardPacketNumberSpace_serves : Steps (Serves lives b u) (discardPacketNumberSpace space) := by
  refine .active <| ?_
  cases space with
  | application => exact .runs fun c => .failIf fun other => (other rfl).elim
  | _ =>
    exact .guard <| .modify fun c =>
      discardPacketNumberSpaceState_serves c nofun

theorem discardExpiredOneRttKeys_serves {now : Int} (clock : b.clock now) :
    Steps (Serves lives b u) (modify fun c => c.discardExpiredOneRttKeys now : ConnM PUnit) :=
  fun _ => Serves.of_entry (.expires now) clock rfl rfl rfl

theorem prepareInboundDatagramProcessing_serves {now : Int} (clock : b.clock now) (c : Connection) :
    RunsFrom (Serves LifeSteps b u)
      (fun go s t => Serves LifeSteps b u s t ∧ (go = true → t.isClosingOrClosed = false)) c
      (prepareInboundDatagramProcessing now) := by
  refine .after (expireState_serves now) fun _ _ => .after (discardExpiredOneRttKeys_serves clock) fun _ t =>
    .read (.ite (fun _ => ⟨.refl t, nofun⟩) fun _ => .failIf fun going => ⟨.refl t, fun _ => ?_⟩)
  simpa using going

theorem prepared_serves {α : Type} {now : Int} (clock : b.clock now) {yes no : ConnM α}
    (yesServes : Steps (Serves LifeSteps b u) yes) (noServes : Steps (Serves LifeSteps b u) no) :
    Steps (Serves LifeSteps b u) (do if ← prepareInboundDatagramProcessing now then yes else no) := by
  refine fun s => RunsFrom.bind (prepareInboundDatagramProcessing_serves clock s) fun go c _ => ?_
  cases go with
  | false => exact noServes c
  | true => exact yesServes c

theorem checkIdleTimeouts_serves : Steps (Serves LifeSteps b u) (checkIdleTimeouts now) :=
  .bind (expireIdleState_serves now) fun _ => .read fun _ => .failIf _ _

theorem checkCloseTimeouts_serves : Steps (Serves LifeSteps b u) (checkCloseTimeouts now) :=
  .bind (expireCloseState_serves now) fun _ => .read fun _ => .failIf _ _

theorem processStatelessResetDatagram_serves (datagram : Bytes) :
    Steps (Serves LifeSteps b u) (processStatelessResetDatagram now datagram) := by
  refine .bind (expireCloseState_serves now) fun _ => .bind (expireIdleState_serves now) fun _ => .get fun c => ?_
  simp only [wp_ite, wp_pure]
  refine ⟨fun _ => .refl c, fun going => ?_⟩
  split
  · exact Serves.refl c
  · exact ⟨.of_view rfl, .of_life (.drains _ going) rfl⟩

variable (ack : AckFrame) (counts : Option EcnCounts)

theorem receiveAckFrame_serves : Steps (Serves lives b u) (receiveAckFrame space now ack counts) :=
  .read fun _ => .guard <| .guard <| .guard <|
    .modify fun c => (applyAck_sends c space now ack counts).serves (upkeep_applyAck c space now ack counts)

theorem receiveAckInSpace_serves : Steps (Serves lives b u) (receiveAckInSpace space now ack counts) :=
  .active <| receiveAckFrame_serves space now ack counts

theorem expireLossDetectionTimeouts_serves :
    Steps (Serves lives b u) (modify fun c => c.expireLossDetectionTimeouts now : ConnM PUnit) :=
  fun c => (expireLossDetectionTimeouts_sends c now).serves (upkeep_expireLossDetectionTimeouts c now)

theorem checkLossDetectionTimeouts_serves : Steps (Serves LifeSteps b u) (checkLossDetectionTimeouts now) :=
  .bind (expireState_serves now) fun _ => .active <| expireLossDetectionTimeouts_serves now

theorem queuePingInSpace_serves : Steps (Serves lives b u) (queuePingInSpace space) :=
  .read fun _ => .guard <| .guard <|
    .modify fun c => .of_rest (view_modifySpace c space _ fun _ => rfl) (upkeep_modifySpace c space _)

theorem queuePtoProbeInSpace_serves : Steps (Serves lives b u) (queuePtoProbeInSpace space) := by
  refine .read fun _ => .ite _ (.pure _) (.get fun c => ?_)
  have dropped : Serves lives b u c (c.hasPendingAckElicitingDataInSpace space).2 :=
    (prepares_trimming.pending c space).sends.serves (upkeep_hasPendingAckElicitingDataInSpace c space)
  have armed : ∀ t : Connection, Serves lives b u t (t.armPtoProbeInSpace space) := fun t =>
    .of_rest (view_armPtoProbeInSpace t space) (upkeep_armPtoProbeInSpace t space)
  simp only [wp_bind, wp_set, wp_ite, wp_modify]
  refine ⟨fun _ => dropped.trans (armed _), fun _ => ?_⟩
  cases queued : (c.hasPendingAckElicitingDataInSpace space).2.queuePtoRetransmission space with
  | some t =>
    exact (dropped.trans ((queuePtoRetransmission_sends queued).serves
      (upkeep_queuePtoRetransmission _ queued))).trans (armed t)
  | none =>
    refine Steps.later ?_ dropped
    exact .bind (queuePingInSpace_serves space) fun _ => .modify armed

theorem checkPtoTimeoutInSpace_serves : Steps (Serves lives b u) (checkPtoTimeoutInSpace space) :=
  .read fun _ => .ite _ (.pure _) (.bind (queuePtoProbeInSpace_serves space) fun _ =>
    .modify fun c => .of_rest (view_increaseConnectionPtoBackoff c) rfl)

theorem queuePtoPeerSpaceProbes_serves (expired : PacketNumberSpace) :
    Steps (Serves lives b u) (queuePtoPeerSpaceProbes expired) :=
  .forM (fun space => .read fun _ => .ite _ (.pure _) (queuePtoProbeInSpace_serves space)) _

theorem checkPtoTimeouts_serves {now : Int} (clock : b.clock now) :
    Steps (Serves LifeSteps b u) (checkPtoTimeouts now) := by
  refine .bind (expireState_serves now) fun _ => .active <|
    .bind (discardExpiredOneRttKeys_serves clock) fun _ =>
    .bind (expireLossDetectionTimeouts_serves now) fun _ => .read fun c => ?_
  cases c.earliestDuePto now with
  | none => exact .pure _
  | some due =>
    exact .bind (checkPtoTimeoutInSpace_serves due.1) fun _ => queuePtoPeerSpaceProbes_serves due.1

theorem serviceLossDetectionTimer_serves {now : Int} (clock : b.clock now) :
    Steps (Serves LifeSteps b u) (serviceLossDetectionTimer now) := by
  refine .read fun c => ?_
  cases c.lossDetectionTimerDeadline with
  | none => exact .pure _
  | some deadline =>
    refine .ite _ (.pure _) ?_
    cases deadline.kind with
    | lossTime => exact .bind (checkLossDetectionTimeouts_serves now) fun _ => .pure _
    | pto => exact .bind (checkPtoTimeouts_serves clock) fun _ => .pure _

theorem recordPacketSentInSpaceWithEcn_serves {now : Int} (clock : u.clock now)
    (bytes : Nat) (codepoint : EcnCodepoint) :
    Steps (Serves lives b u) (recordPacketSentInSpaceWithEcn space now bytes codepoint) := by
  refine .active <| .runs fun c => .read <| .failIf fun _ => .failIf fun _ =>
    .failIf fun allowed => ⟨?_, ?_⟩
  · refine (Sends.trans (Sends.view ?_ (view_recordPacketActivity _ now))
      (maybeDiscardInitialAfterHandshakePacketSent_prepares _ space).sends).evolves
    set entry : SentPacket :=
      ⟨(c.packetNumberSpace space).nextPacketNumber, now, bytes, codepoint, none, none, none, none⟩
    set recorded := c.modifySpace space fun s =>
      { s.commitPacket (fun packet => { packet with ecnCodepoint := codepoint }) now bytes false with
        ecnSentEct0 := if codepoint = .ect0 then s.ecnSentEct0 + 1 else s.ecnSentEct0
        ecnSentEct1 := if codepoint = .ect1 then s.ecnSentEct1 + 1 else s.ecnSentEct1 }
    have enlisted : recorded.ledger = c.ledger.modify space (·.enlist entry) :=
      ledger_modifySpace_at c space rfl
    have streams : Streams c recorded := recorded_streams (show (_ : List SentPacket) = _ ++ [entry] from rfl) rfl
    refine ⟨streams.view ?_, .of_eq (.records space entry) ⟨rfl, ?_⟩ ?_⟩
    · exact (streamView_recordPeerAddressBytesSent _ bytes).trans
        (streamView_recordAckElicitingSendInSpace recorded space bytes)
    · simp only [ackElicitingSendAllowed, Bool.not_eq_true', Bool.not_eq_false, Bool.and_eq_true] at allowed
      exact fits_of_canSend allowed.1
    · rw [ledger_note, ledger_recordPeerAddressBytesSent, ledger_recordAckElicitingSendInSpace, enlisted,
        Ledger.modify_modify]
      rfl
  · refine .of_send clock ?_
    rw [upkeep_maybeDiscardInitialAfterHandshakePacketSent, upkeep_recordPacketActivity, upkeep_note_sent _ rfl rfl,
      upkeep_recordPeerAddressBytesSent, upkeep_recordAckElicitingSendInSpace, Upkeep.stir_book, upkeep_modifySpace]

theorem recordEcnPacketSentInSpace_serves {now : Int} (clock : u.clock now) (bytes : Nat)
    (codepoint : EcnCodepoint) : Steps (Serves lives b u) (recordEcnPacketSentInSpace space now bytes codepoint) :=
  .guard <| .read fun _ => .guard <|
    recordPacketSentInSpaceWithEcn_serves space clock bytes codepoint

theorem ledger_validated :
    { c with peerAddressValidated := true }.ledger = LedgerEntry.validates.apply c.ledger := by
  have free : { c with peerAddressValidated := true }.isAntiAmplificationLimited = false := by
    simp [isAntiAmplificationLimited]
  exact congrArg (fun limited => { c.ledger with limited }) free

theorem recordPeerAddressBytesReceived_serves (bytes : Nat) :
    Steps (Serves lives b u) (recordPeerAddressBytesReceived bytes) :=
  .active <| .modify fun c => by
    split
    · exact .refl c
    · exact .of_entry (.credits bytes) trivial rfl rfl rfl

theorem recordPeerAddressDatagramReceived_serves {now : Int} (clock : b.clock now) (bytes : Nat) :
    Steps (Serves LifeSteps b u) (recordPeerAddressDatagramReceived now bytes) :=
  .read fun _ => .bind (recordPeerAddressBytesReceived_serves bytes) fun _ =>
    .ite _ (.pure _) (serviceLossDetectionTimer_serves clock)

theorem validatePeerAddress_serves : Steps (Serves lives b u) validatePeerAddress :=
  .active <| .modify fun c =>
    .of_entry .validates trivial rfl (ledger_validated c) rfl

theorem recordReceivedPacketNumber_serves {space : PacketNumberSpace} {packetNumber : Nat}
    (hears : b.hears space packetNumber) :
    Steps (Serves lives b u) (recordReceivedPacketNumber space packetNumber) := by
  refine .runs fun c => .failIf fun bound => .read <| .ite (fun _ => ?_) fun _ => .refl c
  refine (Sends.of_entry (.hears space packetNumber) ⟨hears, Nat.le_of_not_lt bound⟩ ?_ ?_).serves
    (upkeep_modifySpace c space _)
  · refine streamView_modifySpace c space _ ?_
    exact fun _ => rfl
  · exact ledger_modifySpace_at c space (g := (·.hear packetNumber)) rfl

theorem queueAckForReceivedPacket_serves {space : PacketNumberSpace} {packetNumber : Option Nat}
    (hears : ∀ n, packetNumber = none ∨ packetNumber = some n → b.hears space n) :
    Steps (Serves lives b u) (queueAckForReceivedPacket space packetNumber) := by
  refine .read fun c => .guard <| .bind (recordReceivedPacketNumber_serves ?_) fun _ =>
    .ite _ (.modify fun c => .of_rest (view_modifySpace c space _ fun _ => rfl) (upkeep_modifySpace c space _)) (.pure _)
  cases packetNumber with
  | none => exact hears _ (Or.inl rfl)
  | some n => exact hears n (Or.inr rfl)

theorem sendPingInSpace_serves : Steps (Serves lives b u) (sendPingInSpace space) :=
  .active <| .bind (queuePingInSpace_serves space) fun _ =>
    .modify fun c => .of_rest (view_markHandshakeSpaceUsed c space) (upkeep_markHandshakeSpaceUsed c space)

variable (data : Bytes)

theorem sendDatagram_serves : Steps (Serves lives b u) (sendDatagram data) :=
  .active <| .read fun _ => .guard <|
    .guard <| .modify fun _ => .of_rest rfl rfl

theorem recvDatagram_serves (bufLen : Nat) : Steps (Serves lives b u) (recvDatagram bufLen) := by
  refine .active <| .read fun c => ?_
  cases c.receivedDatagrams with
  | nil => exact .pure _
  | cons datagram rest => exact .bind (.modify fun _ => .of_rest rfl rfl) fun _ => .pure _

theorem receiveDatagramFrame_serves : Steps (Serves lives b u) (receiveDatagramFrame data) :=
  .modify fun c => by split <;> exact .of_rest rfl rfl

theorem sendPathChallengeOn_serves (path : Option UdpTuple) :
    Steps (Serves lives b u) (sendPathChallengeOn data path) :=
  .active <| .modify fun c =>
    ⟨.of_view rfl, .of_paths (.single (.queues c.paths data path)) rfl⟩

theorem setReceivePathHint_serves (may : u.arrives) (path : Option UdpTuple) :
    Steps (Serves lives b u) (setReceivePathHint path) :=
  .modify fun c => ⟨.of_view rfl, .of_paths (.single (.arrives c.paths path may)) rfl⟩

theorem receivePathChallengeFrame_serves :
    Steps (Serves lives b u) (receivePathChallengeFrame data) := .modify fun c => by
  simp only
  split <;> exact .of_rest rfl rfl

theorem receivePathResponseFrame_serves {data : Bytes} (hears : ∃ state, u.hears ⟨.pathResponse data, state⟩) :
    Steps (Serves lives b u) (receivePathResponseFrame data) := by
  refine .get fun c => ?_
  have stay : Serves lives b u c c := .refl c
  cases found : c.outstandingPathChallenges.findIdx? fun challenge => challenge.data = data with
  | none => exact stay
  | some index =>
    simp only
    cases here : c.outstandingPathChallenges[index]? with
    | none => exact stay
    | some challenge =>
      simp only [wp_ite, wp_pure, wp_set]
      refine ⟨fun _ => stay, fun bound => ⟨.of_view rfl, .of_paths ?_ rfl⟩⟩
      have answered : challenge.data = data := by
        obtain ⟨inside, same, -⟩ := findIdx?_eq_some_iff_getElem.mp found
        obtain ⟨_, rfl⟩ := List.getElem?_eq_some_iff.mp here
        simpa using same
      subst answered
      refine .single (PathStep.answers (p := c.paths) here hears fun isBound => ?_)
      by_contra other
      exact bound ⟨isBound, other⟩

/-- The loop expires one challenge after the other; those it has kept come first. -/
theorem expire_steps {rule : PathRule} (may : rule.waits) (late : OutstandingPathChallenge → Bool)
    (rest : List OutstandingPathChallenge) :
    ∀ (kept : List OutstandingPathChallenge) (p : Paths), p.outstanding = kept ++ rest → PathSteps rule p { p with
        pending := p.pending ++ ((rest.filter late).filter fun challenge =>
          decide (challenge.transmissions < maxPathChallengeTransmissions)).map (·.again)
        outstanding := kept ++ rest.filter (!late ·)
        log := p.log ++ (rest.filter late).map fun challenge =>
          if challenge.transmissions < maxPathChallengeTransmissions then .requeued challenge
          else .failed challenge } := by
  induction rest with
  | nil =>
    intro kept p same
    rw [append_nil] at same
    simp only [filter_nil, map_nil, append_nil, ← same]
    exact .refl
  | cons challenge rest ih =>
    intro kept p same
    cases isLate : late challenge with
    | false =>
      have := ih (kept ++ [challenge]) p (by rw [same, append_assoc, singleton_append])
      simpa [isLate] using this
    | true =>
      have found : p.outstanding[kept.length]? = some challenge := by simp [same]
      have erased : p.outstanding.eraseIdx kept.length = kept ++ rest := by
        rw [same, eraseIdx_append_of_length_le le_rfl, Nat.sub_self, eraseIdx_cons_zero]
      by_cases again : challenge.transmissions < maxPathChallengeTransmissions
      · have step := @PathStep.retries rule p kept.length challenge found again may
        have onwards := ih kept { p with
          pending := p.pending ++ [challenge.again]
          outstanding := p.outstanding.eraseIdx kept.length
          log := p.log ++ [.requeued challenge] } erased
        exact .head step (by simpa [isLate, again] using onwards)
      · have step := @PathStep.fails rule p kept.length challenge found may
        have onwards := ih kept { p with
          outstanding := p.outstanding.eraseIdx kept.length
          log := p.log ++ [.failed challenge] } erased
        exact .head step (by simpa [isLate, again] using onwards)

theorem expirePathChallenges_tends (may : u.waits) (c : Connection) (now : Int) :
    Tends lives u c (c.expirePathChallenges now) := by
  unfold expirePathChallenges
  split
  · exact .refl c
  · set timeout := c.applicationPacketSpace.recoveryState.ptoNs
    have steps : PathSteps u.toPathRule c.paths _ := expire_steps may (fun challenge =>
      decide (elapsed challenge.sentTimeNanos now ≥ timeout.1)) c.outstandingPathChallenges [] c.paths rfl
    have kept : (fun challenge : OutstandingPathChallenge =>
        decide (elapsed challenge.sentTimeNanos now < timeout.1)) =
        fun challenge => !decide (elapsed challenge.sentTimeNanos now ≥ timeout.1) := by
      funext challenge
      simp only [ge_iff_le, ← Nat.not_le, decide_not]
    refine .of_paths ?_ rfl
    simpa [paths, OutstandingPathChallenge.again, kept] using steps

theorem checkPathValidationTimeouts_serves (may : u.waits) :
    Steps (Serves LifeSteps b u) (checkPathValidationTimeouts now) :=
  .bind (expireState_serves now) fun _ => .active <|
    .modify fun c => ⟨.of_view (view_expirePathChallenges c now), expirePathChallenges_tends may c now⟩

theorem issueConnectionId_serves (connectionId token : Bytes) (retirePriorTo : Nat) :
    Steps (Serves lives b u) (issueConnectionId connectionId token retirePriorTo) := by
  refine .active <| .runs fun c => .read <| .failIf fun _ => .failIf fun _ => .failIf fun _ =>
    .failIf fun _ => .failIf fun _ => .failIf fun _ => .failIf fun _ => ?_
  exact Serves.of_rest rfl rfl

variable (sequenceNumber : Nat)

theorem queueRetireConnectionId_serves : (c.queueRetireConnectionId sequenceNumber).view = c.view ∧
      (c.queueRetireConnectionId sequenceNumber).upkeep = c.upkeep := by
  unfold queueRetireConnectionId
  split <;> exact ⟨rfl, rfl⟩

theorem retireConnectionIdsBefore_serves (retirePriorTo : Nat) : Serves lives b u c
      ({ c with largestPeerRetirePriorTo := max c.largestPeerRetirePriorTo retirePriorTo }
        |>.retireConnectionIdsBefore retirePriorTo) := by
  have queued : ∀ (numbers : List Nat) (t : Connection),
      Serves lives b u t (numbers.foldl queueRetireConnectionId t) := by
    intro numbers
    induction numbers with
    | nil => exact .refl
    | cons number rest ih =>
      intro t
      obtain ⟨view, upkeep⟩ := queueRetireConnectionId_serves t number
      exact (Serves.of_rest view upkeep).trans (ih _)
  refine Serves.trans ?_ (queued _ _)
  exact ⟨.of_view rfl, .of_peerIds (.retires c.peerIds retirePriorTo) rfl⟩

variable (frame : NewConnectionIdFrame)

/-- The frame is accepted: its identifier is new, known, or to be retired already. -/
theorem admitConnectionId_serves : wp (admitConnectionId frame)
      (fun _ t => Serves lives b u c { t with suppliedIds := t.suppliedIds ++ [frame] })
      (fun _ t => t = c) c := by
  rw [admitConnectionId, wp_bind, wp_get]
  cases known : c.activeConnectionIds.find? fun id => id.sequenceNumber = frame.sequenceNumber with
  | some existing =>
    simp only [wp_bind, wp_failIf]
    refine ⟨fun _ => trivial, fun sameId => ⟨fun _ => trivial, fun sameToken => ⟨.of_view rfl, .of_peerIds ?_ rfl⟩⟩⟩
    have number : existing.sequenceNumber = frame.sequenceNumber := by simpa using find?_some known
    exact .repeats (p := c.peerIds) (mem_of_find?_eq_some known)
      ⟨number, Decidable.not_not.mp sameId, Decidable.not_not.mp sameToken⟩
  | none =>
    simp only [wp_ite, wp_set, wp_bind, wp_failIf]
    refine ⟨fun late => ?_, fun current => ⟨fun _ => trivial, fun newId => ⟨fun _ => trivial, fun newToken =>
      ⟨fun _ => trivial, fun room => ⟨.of_view rfl, .of_peerIds (.adds ?_ ⟨rfl, rfl, rfl⟩) rfl⟩⟩⟩⟩⟩
    · obtain ⟨view, upkeep⟩ := queueRetireConnectionId_serves c frame.sequenceNumber
      refine (Serves.of_rest view upkeep).trans ⟨.of_view rfl, .of_peerIds (.outdated ?_) rfl⟩
      have same := congrArg (fun u : Upkeep => u.peerIds.largestRetirePriorTo) upkeep
      exact same ▸ late
    · simp only [any_eq_true, decide_eq_true_eq, not_exists, not_and] at newId newToken
      simp only [find?_eq_none, decide_eq_true_eq] at known
      exact ⟨Nat.le_of_not_lt current, rfl, known, newId, newToken, Nat.lt_of_not_le room⟩

theorem receiveNewConnectionIdFrame_serves : Steps (Serves lives b u) (receiveNewConnectionIdFrame frame) := by
  refine .read fun _ => .guard <| .guard <| ?_
  intro before
  simp only [wp_bind, wp_modify]
  have retired : Serves lives b u before _ := retireConnectionIdsBefore_serves before frame.retirePriorTo
  exact wp_mono (admitConnectionId_serves _ frame) (fun _ _ h => retired.trans h) fun _ _ same => same ▸ retired

theorem receiveRetireConnectionIdFrame_serves :
    Steps (Serves lives b u) (receiveRetireConnectionIdFrame sequenceNumber) := by
  refine .runs fun c => .read <| .failIf fun _ => ?_
  split
  · exact Serves.refl c
  · exact .failIf fun _ => Serves.of_rest rfl rfl

variable (token : Bytes)

theorem issueNewToken_serves : Steps (Serves lives b u) (issueNewToken token) :=
  .active <| .read fun _ => .guard <|
    .bind (Steps.liftExcept _) fun _ => .read fun _ => .guard <|
    .modify fun _ => .of_rest rfl rfl

theorem receiveNewTokenFrame_serves : Steps (Serves lives b u) (receiveNewTokenFrame token) := by
  refine .runs fun c => .read <| .failIf fun _ => .ite (fun _ => Serves.refl c) fun _ => ?_
  exact Serves.of_rest rfl rfl

theorem setLocalInitialSourceConnectionId_serves (scid : Bytes) :
    Steps (Serves lives b u) (setLocalInitialSourceConnectionId scid) :=
  .guard <| .modify fun _ => .of_rest rfl rfl

theorem setPeerInitialSourceConnectionId_serves (may : u.identifies) (scid : Bytes) :
    Steps (Serves lives b u) (setPeerInitialSourceConnectionId scid) := by
  refine .guard <| .get fun c => ?_
  cases unset : c.peerInitialSourceConnectionId with
  | some existing => exact Steps.failIf _ _ c
  | none => exact ⟨.of_view rfl, Tends.of_identity (.bindsPeer scid unset may) rfl⟩

theorem sendHandshakeDone_serves : Steps (Serves lives b u) sendHandshakeDone := by
  refine .active <| .read fun _ => .guard <|
    .bind (.modify fun c => ?_) fun _ => .modify fun c => by split <;> exact .of_rest rfl rfl
  have confirmed : Serves lives b u c c.markHandshakeConfirmed := .of_rest rfl rfl
  exact confirmed.trans (discardPacketNumberSpaceState_serves _ nofun)

theorem receiveHandshakeDoneFrame_serves : Steps (Serves lives b u) receiveHandshakeDoneFrame :=
  .read fun _ => .guard <| .modify fun _ => .of_rest rfl rfl

theorem installHandshakeTrafficSecrets_serves (own peer : TrafficSecret) :
    Steps (Serves lives b u) (installHandshakeTrafficSecrets own peer) :=
  .active <| .read fun _ => .guard <|
    .modify fun _ => .of_rest rfl rfl

theorem installZeroRttTrafficSecrets_serves (own peer : Option TrafficSecret) :
    Steps (Serves lives b u) (installZeroRttTrafficSecrets own peer) :=
  .active <| .guard <| .modify fun _ => .of_rest rfl rfl

theorem acceptZeroRtt_serves : Steps (Serves lives b u) acceptZeroRtt :=
  .active <| .read fun _ => .guard <|
    .modify fun _ => .of_rest rfl rfl

theorem rejectZeroRtt_serves : Steps (Serves lives b u) rejectZeroRtt :=
  .active <| .modify fun _ => .of_rest rfl rfl

theorem discardZeroRttProtectionKeys_serves : Steps (Serves lives b u) discardZeroRttProtectionKeys :=
  .active <| .modify fun _ => .of_rest rfl rfl

theorem installOneRttTrafficSecrets_serves (installs : b.installs) (own peer : TrafficSecret) :
    Steps (Serves lives b u) (installOneRttTrafficSecrets own peer) :=
  .active <| .modify fun c => by
    simp only
    split
    · exact .of_entry (.installs own peer) installs rfl rfl (upkeep_note c.discardZeroRttProtectionKeyState rfl rfl)
    · exact .of_entry (.installs own peer) installs rfl rfl (upkeep_note c rfl rfl)

theorem moveOn_schedulePreviousKeyDiscard (state : Aes128KeyPhaseState) (now : Option Int) :
    c.schedulePreviousKeyDiscard state.initiateKeyUpdate now = state.moveOn (now.map c.keyDiscardDeadline) := by
  cases now <;> rfl

theorem initiateOneRttKeyUpdate_serves : Steps (Serves lives b u) initiateOneRttKeyUpdate := by
  refine .active <| .runs fun c => .read <| .failIf fun _ => .failIf fun settled => ?_
  cases held : c.localOneRttKeyPhaseState with
  | none => exact Serves.refl c
  | some state =>
    have initiated : Sends b c { c.note (.keyUpdate true) with
        localOneRttKeyPhaseState := some (state.moveOn (c.lastPacketActivityNanos.map c.keyDiscardDeadline))
        localOneRttKeyUpdateAckThreshold := some c.applicationPacketSpace.nextPacketNumber } := by
      refine .of_entry (.initiates (c.lastPacketActivityNanos.map c.keyDiscardDeadline)) ?_ rfl ?_
      · exact Option.not_isSome_iff_eq_none.mp settled
      · have keys : c.ledger.localKeys = some state := held
        simp only [LedgerEntry.apply, keys, Option.map_some]
        rfl
    simp only [moveOn_schedulePreviousKeyDiscard]
    exact initiated.serves (upkeep_note c rfl rfl)

theorem issueRetryToken_serves : Steps (Serves lives b u) (issueRetryToken token) := by
  refine .active <| .runs fun c => .read <| .failIf fun _ => .failIf fun _ => ?_
  exact Serves.of_rest rfl rfl

theorem validateRetryToken_serves : Steps (Serves lives b u) (validateRetryToken token) := by
  refine .active <| .runs fun c => .read <| .failIf fun _ => .failIf fun _ => ?_
  exact Serves.of_entry .validates trivial rfl (ledger_validated c) rfl

variable {now : Int}

theorem validateAddressValidationToken_serves (clock : u.clock now) (counts : u.admits)
    (kind : AddressValidationTokenKind) (token : Bytes) (authentic : Bool) :
    Steps (Serves LifeSteps b u) (validateAddressValidationToken now kind token authentic) := by
  refine .bind (expireState_serves now) fun _ => .active <| .read fun _ =>
    .guard <| .guard <| .guard <|
    .modify fun c => ⟨Sends.evolves ?_, .of_stir clock counts (upkeep_recordPacketActivity _ now)⟩
  have validates : ∀ retryTokens, Sends b c { c with retryTokens, peerAddressValidated := true } :=
    fun _ => .of_entry .validates trivial rfl (ledger_validated c)
  exact (validates _).view (view_recordPacketActivity _ now)

theorem issueRetryDatagram_serves (may : u.identifies) (clock : u.clock now) (counts : u.admits)
    (originalDcid clientScid retryScid token : Bytes) :
    Steps (Serves LifeSteps b u) (issueRetryDatagram now originalDcid clientScid retryScid token) := by
  refine .bind (expireState_serves now) fun _ => .active <| .runs fun c => .read <|
    .failIf fun server => .failIf fun _ => .failIf fun fresh => .failIf fun _ => .value fun _ _ => .failIf fun _ =>
      .failIf fun _ => ?_
  obtain ⟨unrecorded, first⟩ := not_or.mp fresh
  have issued : Steps (Serves LifeSteps b u.nameless) (issueRetryToken token) := issueRetryToken_serves token
  rw [RunsFrom, wp_bind]
  refine wp_mono (issued c) (fun _ t h => ?_) fun _ _ h => h.of_nameless.1
  obtain ⟨served, same⟩ := h.of_nameless
  have step : IdentityStep u.identifies t.identity _ := .issuesRetry originalDcid retryScid
    (by rw [same]; exact Decidable.not_not.mp (not_or.mp server).1)
    (by rw [same]; exact Option.not_isSome_iff_eq_none.mp unrecorded)
    (by rw [same]; exact Option.not_isSome_iff_eq_none.mp first) may
  let fixed : Connection := { t with
    originalDestinationConnectionId := some originalDcid
    retrySourceConnectionId := some retryScid
    idLog := t.idLog ++ [.issuedRetry originalDcid retryScid] }
  have recorded : Tends LifeSteps u t fixed := .of_identity step rfl
  refine ⟨h.evolves.trans (Sends.evolves (Sends.view ?_ (view_recordPacketActivity _ now))),
    (served.tends.trans recorded).trans (.of_stir clock counts ?_)⟩
  · refine .of_entry (.spends (retryPacketLen clientScid retryScid token)) trivial
      (streamView_recordPeerAddressBytesSent fixed _) ?_
    rw [ledger_recordPeerAddressBytesSent]
    rfl
  · rw [upkeep_recordPacketActivity, upkeep_recordPeerAddressBytesSent]

theorem processRetryDatagram_serves (may : u.identifies) (clock : u.clock now) (counts : u.admits)
    (originalDcid : Bytes) (retry : RetryPacket) :
    Steps (Serves LifeSteps b u) (processRetryDatagram now originalDcid retry) := by
  refine .bind (expireState_serves now) fun _ => .active <| .runs fun c => .read <|
    .failIf fun first => .failIf fun _ => .failIf fun _ => .failIf fun _ => .failIf fun valid => .value fun _ _ => ?_
  obtain ⟨client, untaken⟩ := not_or.mp first
  rw [Bool.not_eq_true', Bool.not_eq_false, validateOriginalDestinationConnectionIdForRecord, Bool.and_eq_true] at valid
  have step : IdentityStep u.identifies c.identity _ := .processesRetry retry.scid retry.token
    (Decidable.not_not.mp client) valid.2 (Option.not_isSome_iff_eq_none.mp untaken) may
  let fixed : Connection := { c with
    originalDestinationConnectionId := c.originalDestinationConnectionId.or (some originalDcid)
    retryToken := some retry.token
    retrySourceConnectionId := some retry.scid
    idLog := c.idLog ++ [.processedRetry originalDcid retry.scid] }
  have recorded : Tends LifeSteps u c fixed := .of_identity step rfl
  exact ⟨.of_view ((view_recordPacketActivity fixed now).trans rfl),
    recorded.trans (.of_stir clock counts (upkeep_recordPacketActivity fixed now))⟩

theorem resetInitialCryptoSendForRetry_serves : Steps (Serves lives b u) resetInitialCryptoSendForRetry := by
  refine .active <| .read fun _ => .guard <| .read fun _ =>
    .guard <| .modify fun c => ⟨⟨.refl _, ?_, .of_eq .restarts trivial ?_⟩,
      .of_upkeep ((upkeep_note _ rfl rfl).trans (upkeep_modifySpace c .initial _))⟩
  · rw [sendView_note, sendView_retain c .initial (fun _ => false) _ fun s => (filter_false _).symm]
    exact .of_part (fun clean => clean.retain .initial _) rfl
  · rw [ledger_note, ledger_modifySpace c .initial (g := SpaceLedger.restart) fun _ => rfl]
    rfl

theorem processVersionNegotiationDatagram_serves (clock : u.clock now) (counts : u.admits)
    (originalDcid localScid : Bytes) (negotiation : Option VersionNegotiationPacket) :
    Steps (Serves LifeSteps b u) (processVersionNegotiationDatagram now originalDcid localScid negotiation) :=
  .bind (expireState_serves now) fun _ => .active <| .read fun _ =>
    .guard <| .guard <| .ite _ (.pure _)
      (.bind (.orThrow _ _) fun _ => .ite _ (.pure _) (.bind (.orThrow _ _) fun _ =>
        .bind (.modify fun _ => ⟨.of_view (view_recordPacketActivity _ now),
          .of_stir clock counts (upkeep_recordPacketActivity _ now)⟩) fun _ => .pure _))

theorem modifyCrypto_serves {f : PacketNumberSpaceState → PacketNumberSpaceState}
    (keeps : ∀ s, (f s).ledger = s.ledger) (c : Connection) : Serves lives b u c (c.modifySpace space f) :=
  .of_rest (view_modifySpace c space f keeps) (upkeep_modifySpace c space f)

theorem sendCryptoInSpace_serves : Steps (Serves lives b u) (sendCryptoInSpace space data) := by
  refine .active <| .ite _ (.pure _) (.read fun _ => .guard <|
    .bind (.orThrow _ _) fun _ => .bind (Steps.liftExcept _) fun _ => .bind (Steps.liftExcept _) fun _ =>
    .modify fun c => Serves.rest (modifyCrypto_serves space ?_ c) (view_markHandshakeSpaceUsed _ space)
      (upkeep_markHandshakeSpaceUsed _ space))
  exact fun _ => rfl

theorem receiveCryptoFrame_serves (crypto : PendingCryptoFrame) :
    Steps (Serves lives b u) (receiveCryptoFrame space crypto) := by
  refine .read fun _ => .guard <| .bind (.orThrow _ _) fun _ =>
    .guard <| .bind (Steps.liftExcept _) fun _ => .modify (modifyCrypto_serves space ?_)
  exact fun _ => rfl

theorem drainPendingCryptoFrames_serves : Steps (Serves lives b u) (drainPendingCryptoFrames space) := by
  refine .read fun _ => .bind (Steps.liftExcept _) fun _ => .modify (modifyCrypto_serves space ?_)
  exact fun _ => rfl

theorem recvCryptoInSpace_serves (bufLen : Nat) : Steps (Serves lives b u) (recvCryptoInSpace space bufLen) := by
  refine .active <| .read fun _ => .guard <|
    .bind (drainPendingCryptoFrames_serves space) fun _ => .read fun _ => .ite _ (.pure _)
      (.bind (.modify (modifyCrypto_serves space ?_)) fun _ => .pure _)
  exact fun _ => rfl

end Quicz
