import Quicz.Send.Packets
import Quicz.Serve

/-! The polls: what they hand out is what the books say they handed out, and the upkeep moves along
its machines. A packet with a PATH_CHALLENGE frame sends the challenge it takes from its queue, and a
packet with a CONNECTION_CLOSE frame enters the closing state. -/
namespace Quicz

open Chunks Proc Connection

variable {space : PacketNumberSpace} {ack : Option AckFrame} {now : Int} {outLen : Nat} {c : Connection}

variable {b : LedgerRule} {u : UpkeepRule}

variable {c t : Connection}

structure Readies (b : LedgerRule) (u : UpkeepRule) (c t : Connection) : Prop where
  prepares : Prepares b c t
  tends : Tends LifeSteps u c t

instance : IsPreorder Connection (Readies b u) where
  refl c := ⟨.refl c, .refl c⟩
  trans _ _ _ h k := ⟨h.prepares.trans k.prepares, h.tends.trans k.tends⟩

theorem Readies.of_view (view : t.view = c.view) (upkeep : t.upkeep = c.upkeep) : Readies b u c t :=
  ⟨.of_view view, .of_upkeep upkeep⟩

structure Ships (b : LedgerRule) (u : UpkeepRule) (packets : List EmittedPacket) (c t : Connection) : Prop where
  handsOut : HandsOut b packets c t
  tends : Tends LifeSteps u c t

theorem Ships.ready {packets : List EmittedPacket} {v : Connection} (h : Ships b u packets c t) (k : Readies b u t v) :
    Ships b u packets c v := ⟨h.handsOut.prepares k.prepares, h.tends.trans k.tends⟩

abbrev PollsFrom (b : LedgerRule) (u : UpkeepRule) : Connection → ConnM (Option Datagram) → Prop :=
  RunsFrom (Readies b u) fun datagram => Ships b u (handedOut datagram)

instance : Leads (Readies b u) fun datagram => Ships b u (handedOut datagram) :=
  ⟨fun first h => ⟨first.prepares.then h.handsOut, first.tends.trans h.tends⟩⟩

theorem polls_nothing : PollsFrom b u c (pure none) := ⟨(Prepares.refl c).handsOut, .refl c⟩

theorem PollsFrom.expire {m : Unit → ConnM (Option Datagram)}
    (next : PollsFrom b u ((c.expireIdleState now).expireCloseState now) (m ())) :
    PollsFrom b u c (expireState now >>= m) := by
  have idle : Readies b u c (c.expireIdleState now) := ⟨.of_view (view_expireIdleState c now), expireIdleState_tends c now⟩
  have close : Readies b u (c.expireIdleState now) ((c.expireIdleState now).expireCloseState now) :=
    ⟨.of_view (view_expireCloseState _ now), expireCloseState_tends _ now⟩
  rw [expireState, bind_assoc]
  exact .step idle (.step close next)

theorem readies_trimming : Trimming (Readies b u) where
  stopSending _ := .of_view rfl rfl
  maxFrames _ := .of_view rfl rfl
  blockedFrames _ := .of_view rfl rfl
  streams c := ⟨dropResetClosedStreamFrames_prepares c, .of_upkeep rfl⟩
  datagram _ := .of_view rfl rfl

section Emission
variable (c : Connection)

@[simp] theorem challengesIn_ackPayload (ack : Option AckFrame) (frames : Payload) :
    challengesIn (ackPayload ack ++ frames) = challengesIn frames := by
  cases ack <;> rfl

theorem challengesEmitted_emitted (packet : EmittedPacket) :
    challengesEmitted [.emitted packet] = challengesIn packet.frames := by
  simp [challengesEmitted, emittedIn]

variable {packet : EmittedPacket}

theorem upkeep_accountEmitted (quiet : challengesIn packet.frames = []) :
    (c.accountEmitted packet).upkeep = c.upkeep.book :=
  (upkeep_note_sent _ ((challengesEmitted_emitted packet).trans quiet) rfl).trans
    (congrArg Upkeep.book (upkeep_recordPeerAddressBytesSent c packet.len))

theorem upkeep_accountEmitted_stir (quiet : challengesIn packet.frames = []) (now : Int) :
    ((c.accountEmitted packet).recordPacketActivity now).upkeep = c.upkeep.send now := by
  rw [upkeep_recordPacketActivity, upkeep_accountEmitted _ quiet, Upkeep.stir_book]

theorem upkeep_accountSend (quiet : challengesIn packet.frames = []) (now : Int) :
    (c.accountSend packet now).upkeep = c.upkeep.send now := by
  rw [accountSend, upkeep_accountEmitted_stir _ quiet, upkeep_recordAckElicitingSendInSpace]

theorem upkeep_note_eq (event : Event) : (c.note event).upkeep = { c.upkeep with
      paths := { c.paths with emitted := c.paths.emitted ++ challengesEmitted [event] }
      activity := { c.activity with sent := c.activity.sent + packetsSent [event] } } := by
  have upkeep : (c.note event).upkeep =
      { c.upkeep with paths := (c.note event).paths, activity := (c.note event).activity } := rfl
  rw [upkeep, paths_note, activity_note]

theorem upkeep_note_congr {c t : Connection} (same : t.upkeep = c.upkeep) (event : Event) :
    (t.note event).upkeep = (c.note event).upkeep := by
  have paths : t.paths = c.paths := congrArg Upkeep.paths same
  have activity : t.activity = c.activity := congrArg Upkeep.activity same
  rw [upkeep_note_eq, upkeep_note_eq, same, paths, activity]

def Paths.sendHead (p : Paths) (now : Int) : Paths :=
  match p.pending with
  | [] => p
  | challenge :: rest =>
    { p with
      pending := rest
      outstanding := p.outstanding ++ [challenge.sentAt now]
      log := p.log ++ [.sent challenge.serial challenge.data] }

theorem upkeep_sendHeadPathChallenge (now : Int) : (c.sendHeadPathChallenge now).upkeep =
    { c.upkeep with paths := c.upkeep.paths.sendHead now } := by
  cases pending : c.pendingPathChallenges with
  | nil => simp [sendHeadPathChallenge, Paths.sendHead, pending, upkeep, paths]
  | cons challenge rest =>
    simp only [sendHeadPathChallenge, Paths.sendHead, pending, upkeep, paths]
    rfl

theorem sendHeadPathChallenge_tends {c t : Connection} {challenge : PendingPathChallenge}
    (clock : u.clock now) (first : c.pendingPathChallenges.head? = some challenge)
    (frames : challengesIn packet.frames = [challenge.data])
    (same : t.upkeep = (((c.sendHeadPathChallenge now).note (.emitted packet)).upkeep.stir now)) :
    Tends LifeSteps u c t := by
  obtain ⟨rest, head⟩ : ∃ rest, c.pendingPathChallenges = challenge :: rest :=
    ⟨_, List.eq_cons_of_mem_head? first⟩
  have taken := upkeep_sendHeadPathChallenge c now
  have sent : c.upkeep.paths.sendHead now = { c.paths with
      pending := rest
      outstanding := c.paths.outstanding ++ [challenge.sentAt now]
      log := c.paths.log ++ [.sent challenge.serial challenge.data] } := by
    simp only [Paths.sendHead, upkeep, paths, head]
  rw [sent] at taken
  have paths : (c.sendHeadPathChallenge now).paths = _ := congrArg Upkeep.paths taken
  have activity : (c.sendHeadPathChallenge now).activity = c.activity := congrArg Upkeep.activity taken
  rw [upkeep_note_eq, challengesEmitted_emitted, frames, taken, paths, activity] at same
  have moved : t.paths = _ := congrArg Upkeep.paths same
  have stirred : t.activity = _ := congrArg Upkeep.activity same
  refine .of_paths_activity ?_ ?_ (by rw [moved, stirred]; exact same)
  · rw [moved]
    exact .single (.sends now head)
  · have booked := congrArg Upkeep.activity (Upkeep.stir_book c.upkeep now)
    have sending : t.activity = c.activity.send now := stirred.trans booked
    rw [sending]
    exact .single (.sends _ clock)

theorem pollAckOnlyInSpace_polls {c : Connection} {ack : AckFrame}
    (clock : u.clock now) : PollsFrom b u c (pollAckOnlyInSpace space ack now outLen) := by
  refine .read (.value fun encodedLen _ => .failIf fun _ => .ite (fun _ => polls_nothing) fun admitted => .failIf fun _ =>
    .commit ⟨.prepares ?_ (maybeDiscardInitialAfterHandshakePacketSent_prepares _ space), .of_send clock ?_⟩)
  · have acked := view_modifySpace c space (fun s => { s with pendingAckLargest := none }) fun _ => rfl
    have activity := view_recordPacketActivity
      ((c.modifySpace space fun s => { s with pendingAckLargest := none }).accountEmitted
        ⟨space, none, [.ack ack none], encodedLen⟩) now
    have affordable := affordable_of_canSend (by simpa using admitted)
    refine .of_emit none (.of_view ?_) ⟨Or.inl rfl, nofun, nofun, affordable⟩ ?_
    · rw [streamView_of_view activity, streamView_accountEmitted, streamView_of_view acked]
    · rw [ledger_of_view activity, ledger_accountEmitted, ledger_of_view acked, Ledger.emit_unnumbered _ rfl]
  · rw [upkeep_maybeDiscardInitialAfterHandshakePacketSent, upkeep_accountEmitted_stir _ rfl, upkeep_modifySpace]

end Emission

section Frames
/-- From this state the frame can go out. -/
def OutgoingFrame.Leaves (b : LedgerRule) (u : UpkeepRule) (space : PacketNumberSpace) (next : OutgoingFrame)
    (c : Connection) : Prop :=
  ∀ (ack : Option AckFrame) (encodedLen : Nat) (now : Int), u.clock now →
    c.canSendAckElicitingInSpace space encodedLen = true → c.canSendToPeerAddress encodedLen = true →
      Ships b u [c.framePacket space ack next encodedLen] c (c.emitNext space ack next encodedLen now)

structure OutgoingFrame.Plain (next : OutgoingFrame) : Prop where
  frame : challengesIn [next.frame] = [] := by rfl
  consume : ∀ now c, (next.consume now c).upkeep = c.upkeep := by exact fun _ _ => rfl
  afterSend : ∀ c, (next.afterSend c).upkeep = c.upkeep := by exact fun _ => rfl

variable {next : OutgoingFrame}

theorem OutgoingFrame.Plain.tends (plain : next.Plain) {encodedLen : Nat} (clock : u.clock now) :
    Tends LifeSteps u c (c.emitNext space ack next encodedLen now) := by
  refine .of_send clock ?_
  rw [emitNext, plain.afterSend, upkeep_accountSend _ ((challengesIn_ackPayload ack _).trans plain.frame),
    plain.consume, upkeep_modifySpace]

theorem OutgoingFrame.Plain.leaves (plain : next.Plain) (quiet : next.Quiet) : next.Leaves b u space c :=
  fun _ _ _ clock window budget => ⟨quiet.handsOut window budget, plain.tends clock⟩

theorem pathChallengeOutgoing_leaves {challenge : PendingPathChallenge}
    (head : c.pendingPathChallenges.head? = some challenge) :
    (pathChallengeOutgoing challenge).Leaves b u .application c := by
  intro ack encodedLen now clock window budget
  have quiet : (pathChallengeOutgoing challenge).Quiet := { consume := fun now c => view_sendHeadPathChallenge c now }
  have frames : challengesIn (c.framePacket .application ack (pathChallengeOutgoing challenge) encodedLen).frames =
    [challenge.data] := challengesIn_ackPayload ack _
  refine ⟨quiet.handsOut window budget, sendHeadPathChallenge_tends clock head frames ?_⟩
  refine (upkeep_recordPacketActivity _ now).trans (congrArg (Upkeep.stir · now) (upkeep_note_congr ?_ _))
  rw [upkeep_recordPeerAddressBytesSent, upkeep_recordAckElicitingSendInSpace]
  exact (upkeep_sendHeadPathChallenge _ now).trans (upkeep_sendHeadPathChallenge c now).symm

theorem streamOutgoing_leaves {pending : PendingStreamFrame} {rest : List PendingStreamFrame} {n : Nat}
    (head : c.sendQueue = pending :: rest) (short : n ≤ pending.data.length) :
    (streamOutgoing pending n).Leaves b u .application c := by
  intro ack encodedLen now clock window budget
  have plain : (streamOutgoing pending n).Plain := {}
  exact ⟨streamOutgoing_handsOut head short window budget, plain.tends clock⟩

variable (clock : u.clock now)
include clock

theorem emitFrame_polls {encodedLen : Nat} (leaves : next.Leaves b u space c) :
    PollsFrom b u c (emitFrame space next ack encodedLen now outLen) := by
  refine .read (.ite (fun _ => polls_nothing) fun admitted => .failIf fun _ => .failIf fun _ => .commit ?_)
  simp only [Bool.or_eq_true, Bool.not_eq_true', not_or, Bool.not_eq_false] at admitted
  exact leaves ack encodedLen now clock admitted.1 admitted.2

theorem pollFrameInSpace_polls (leaves : next.Leaves b u space c) :
    PollsFrom b u c (pollFrameInSpace space next ack now outLen) := by
  refine .read (.value fun _ _ => .failIf fun _ => ?_)
  cases ack with
  | none => exact emitFrame_polls clock leaves
  | some ack =>
    exact .value fun _ _ => .value fun _ _ => .ite (fun _ => emitFrame_polls clock leaves) fun _ =>
      .ite (fun _ => pollAckOnlyInSpace_polls clock) fun _ => .throw _

theorem pollHead_polls {α : Type} {queue : List α} {outgoing : α → OutgoingFrame}
    (leaves : ∀ a, queue.head? = some a → (outgoing a).Leaves b u space c) :
    PollsFrom b u c (pollHead queue outgoing space ack now outLen) := by
  cases queue with
  | nil => exact polls_nothing
  | cons head _ => exact pollFrameInSpace_polls clock (leaves head rfl)

end Frames

section Queues
theorem maxFrame_quiet (frame : PendingMaxFrame) : challengesIn [frame.toFrame] = [] := by
  cases frame <;> rfl

theorem blockedFrame_quiet (frame : PendingBlockedFrame) : challengesIn [frame.toFrame] = [] := by
  cases frame <;> rfl

theorem closeFrame_quiet (close : PendingCloseFrame) : challengesIn [close.toFrame] = [] := by
  cases close <;> rfl

theorem enterClosingState_tends (pending : c.pendingClose.isSome) (now : Int) :
    Tends LifeSteps u c (c.enterClosingState now) := .of_life (.enters _ pending) rfl

theorem pingOutgoing_leaves : (pingOutgoing space).Leaves b u space c :=
  OutgoingFrame.Plain.leaves
    { consume := fun _ c => upkeep_modifySpace c space _
      afterSend := fun c => upkeep_maybeDiscardInitialAfterHandshakePacketSent c space }
    { consume := fun _ c => view_modifySpace c space _ fun _ => rfl
      afterSend := fun _ c => maybeDiscardInitialAfterHandshakePacketSent_prepares c space }

theorem cryptoOutgoing_leaves (pending : PendingCryptoFrame) : (cryptoOutgoing space pending).Leaves b u space c :=
  OutgoingFrame.Plain.leaves
    { consume := fun _ c => upkeep_modifySpace c space _
      afterSend := fun c => (upkeep_maybeDiscardHandshakeAfterConfirmedCryptoSent _ space).trans
        (upkeep_maybeDiscardInitialAfterHandshakePacketSent c space) }
    { consume := fun _ c => view_modifySpace c space _ fun _ => rfl
      afterSend := fun _ c => (maybeDiscardInitialAfterHandshakePacketSent_prepares c space).trans
        (maybeDiscardHandshakeAfterConfirmedCryptoSent_prepares _ space) }

variable (clock : u.clock now)
include clock

theorem pollNewConnectionId_polls : PollsFrom b u c (pollNewConnectionId ack now outLen) := by
  refine .read ?_
  cases c.nextUnsentLocalConnectionIdIndex with
  | none => exact polls_nothing
  | some index =>
    simp only
    cases c.localConnectionIds[index]? with
    | none => exact polls_nothing
    | some id => exact pollFrameInSpace_polls clock (OutgoingFrame.Plain.leaves {} {})

theorem pollPingFrameInSpace_polls : PollsFrom b u c (pollPingFrameInSpace space ack now outLen) :=
  .read (.failIf fun _ => pollFrameInSpace_polls clock pingOutgoing_leaves)

theorem pollCryptoFrame_polls : PollsFrom b u c (pollCryptoFrame space ack now outLen) :=
  .read (.failIf fun _ => .read (pollHead_polls clock fun pending _ => cryptoOutgoing_leaves pending))

theorem pollDatagramFrame_polls (unaccounted : b.unaccounted) : PollsFrom b u c (pollDatagramFrame outLen) := by
  refine .read ?_
  cases c.pendingDatagrams with
  | nil => exact polls_nothing
  | cons data rest =>
    refine .step (.of_view rfl rfl) ?_
    cases datagramFrameWireLen data.length with
    | error e => exact .throw _
    | ok encodedLen =>
      refine .failIf fun _ => .commit ⟨⟨.of_entry (.handsOut _) ⟨unaccounted, rfl⟩ rfl rfl, ?_⟩,
        .of_book clock (upkeep_note_sent _ rfl rfl)⟩
      rw [ledger_note, Ledger.emitted_note]
      rfl

theorem pollCloseFrame_polls : PollsFrom b u c (pollCloseFrame now outLen) := by
  refine .read ?_
  cases pending : c.pendingClose with
  | none => exact polls_nothing
  | some close =>
    refine .value fun encodedLen _ => .failIf fun _ => .ite (fun _ => polls_nothing) fun admitted => .failIf fun _ =>
      .commit ⟨?_, ?_⟩
    · set packet : EmittedPacket := ⟨.application, none, [close.toFrame], encodedLen⟩
      have entered : (if c.closed then c else c.enterClosingState now).view = c.view := by
        split <;> rfl
      have activity := view_recordPacketActivity
        ((if c.closed then c else c.enterClosingState now).accountEmitted packet) now
      have quiet : packet.ackEliciting = false := by cases close <;> rfl
      have affordable := affordable_of_canSend (c := c) (by simpa using admitted)
      refine .of_emit none (.of_view ?_) ⟨Or.inl rfl, fun h => (nomatch quiet.symm.trans h), nofun, affordable⟩ ?_
      · rw [streamView_of_view activity, streamView_accountEmitted, streamView_of_view entered]
      · rw [ledger_of_view activity, ledger_accountEmitted, ledger_of_view entered, Ledger.emit_unnumbered _ rfl]
    · have entered : Tends LifeSteps u c (if c.closed then c else c.enterClosingState now) := by
        split
        · exact .refl c
        · exact enterClosingState_tends (by rw [pending]; rfl) now
      exact entered.trans (.of_send clock (upkeep_accountEmitted_stir _ (closeFrame_quiet close) now))

theorem pollStreamFrame_polls {pending : PendingStreamFrame} {rest : List PendingStreamFrame}
    (head : c.sendQueue = pending :: rest) : PollsFrom b u c (pollStreamFrame pending ack now outLen) := by
  refine .read (.value fun _ _ => ?_)
  have emits : ∀ {remaining maxLen n encodedLen : Nat} (ack : Option AckFrame),
      maxStreamFrameDataLen pending.streamId pending.offset remaining maxLen = .ok n → remaining = pending.data.length →
      PollsFrom b u c (emitFrame .application (streamOutgoing pending n) ack encodedLen now outLen) := by
    rintro remaining maxLen n encodedLen ack fits rfl
    exact emitFrame_polls clock (streamOutgoing_leaves head (maxStreamFrameDataLen_le _ _ _ _ n fits))
  cases ack with
  | none => exact .value fun n fits => .value fun _ _ => emits none fits rfl
  | some ack =>
    have ackOnly : PollsFrom b u c (pollAckOnly ack now outLen) := pollAckOnlyInSpace_polls clock
    exact .ite (fun _ => ackOnly) fun _ => .value fun _ _ => .ite (fun _ => ackOnly) fun _ =>
      .value fun n fits => .value fun _ _ => .value fun _ _ =>
        .ite (fun _ => emits (some ack) fits rfl) fun _ => ackOnly

/-- The polls that come after the DATAGRAM frames: STREAM data and a pending ACK. -/
theorem pollTxStreams_polls : PollsFrom b u c (pollTxStreams ack now outLen) := by
  refine .step (readies_trimming.streams c) (.read ?_)
  cases queued : c.dropResetClosedStreamFrames.sendQueue with
  | cons pending rest => exact pollStreamFrame_polls clock queued
  | nil =>
    cases ack with
    | some ack => exact pollAckOnlyInSpace_polls clock
    | none => exact polls_nothing

end Queues

section Poll
variable (clock : u.clock now) (may : u.waits) (outLen : Nat)
include clock may

/-- A DATAGRAM frame that goes out needs a rule that allows it. -/
theorem pollTx_polls (unaccounted : b.unaccounted ∨ c.datagramIsNext now = false) :
    PollsFrom b u c (pollTx now outLen) := by
  refine PollsFrom.expire (.read (.ite (fun _ => pollCloseFrame_polls clock) fun close => .active fun active => ?_))
  have plain : ∀ {α : Type} {queue : List α} {outgoing : α → OutgoingFrame} {ack : Option AckFrame}
      {t : Connection}, (∀ a, (outgoing a).Plain) → (∀ a, (outgoing a).Quiet) →
        PollsFrom b u t (pollHead queue outgoing .application ack now outLen) :=
    fun plain quiet => pollHead_polls clock fun a _ => (plain a).leaves (quiet a)
  refine .step ⟨.of_view (view_expirePathChallenges _ now), expirePathChallenges_tends may _ now⟩ (.read (.read ?_))
  refine .ite (fun _ => .read (plain (fun _ => {}) fun _ => {})) fun responses => .read ?_
  refine .ite (fun _ => .read (plain (fun _ => {}) fun _ => {})) fun resets => ?_
  refine .step (.of_view rfl rfl) (.read ?_)
  refine .ite (fun _ => .read (plain (fun _ => {}) fun _ => {})) fun stops => .read ?_
  refine .ite (fun _ => .read (plain (fun _ => {}) fun _ => {})) fun retired => .read ?_
  refine .ite (fun _ => pollFrameInSpace_polls clock (OutgoingFrame.Plain.leaves {} {})) fun handshakeDone => .read ?_
  refine .ite (fun _ => pollNewConnectionId_polls clock) fun ids => .read ?_
  refine .ite (fun _ => .read (plain (fun _ => {}) fun _ => {})) fun tokens => .read ?_
  refine .ite (fun _ => .read (pollHead_polls clock fun _ head => pathChallengeOutgoing_leaves head)) fun challenges => ?_
  refine .step (.of_view rfl rfl) (.read ?_)
  refine .ite (fun _ => .read (plain (fun frame => { frame := maxFrame_quiet frame }) fun _ => {})) fun maxFrames => ?_
  refine .step (.of_view rfl rfl) (.read ?_)
  refine .ite (fun _ => .read (plain (fun frame => { frame := blockedFrame_quiet frame }) fun _ => {})) fun blocked => .read ?_
  refine .ite (fun _ => pollCryptoFrame_polls clock) fun crypto => .read ?_
  refine .ite (fun _ => pollPingFrameInSpace_polls clock) fun pings => .read ?_
  refine .ite (fun datagrams => ?_) fun _ => pollTxStreams_polls clock
  refine pollDatagramFrame_polls clock (unaccounted.resolve_right fun later => ?_)
  -- every queue before the DATAGRAM payloads was found empty
  simp only [not_not, Bool.not_eq_true, Option.isSome_eq_false_iff] at *
  simp_all [datagramIsNext]

theorem pollTxInSpace_polls (space : PacketNumberSpace)
    (unaccounted : b.unaccounted ∨ (space = .application → c.datagramIsNext now = false)) :
    PollsFrom b u c (pollTxInSpace space now outLen) := by
  refine .ite (fun app => pollTx_polls clock may outLen (unaccounted.imp_right fun h => h app)) fun _ =>
    PollsFrom.expire (.active fun _ => .read (.failIf fun _ => .ite (fun _ => pollCryptoFrame_polls clock) fun _ =>
      .ite (fun _ => pollPingFrameInSpace_polls clock) fun _ => ?_))
  cases (((c.expireIdleState now).expireCloseState now).packetNumberSpace space).pendingAckFrame with
  | some ack => exact pollAckOnlyInSpace_polls clock
  | none => exact polls_nothing

end Poll

section Short
variable {built : BuiltProtectedShortPacket} (now : Int)

/-- Only a path challenge leaves a queue of the upkeep. -/
theorem upkeep_consumeQueues : (c.consumeQueues built now).upkeep =
    (if built.consumePathChallenge then c.sendHeadPathChallenge now else c).upkeep := by
  have done : ∀ t : Connection, t.markHandshakeDoneSent.upkeep = t.upkeep := fun _ => rfl
  have stream : ∀ (t : Connection) (left : Option PendingStreamFrame),
      (t.consumeStream left).upkeep = t.upkeep := fun _ _ => rfl
  simp only [consumeQueues, consumeControlQueues, apply_ite upkeep, stream,
    ite_self, upkeep_sendHeadPathChallenge, done]
  cases built.newConnectionIdIndex <;> rfl

inductive ShortContent.Kind (c : Connection) (built : BuiltProtectedShortPacket) : Prop
  | plain (keeps : built.consumePathChallenge = false) (goes : built.closePacket = false)
      (quiet : challengesIn built.frames = [])
  | challenge {challenge : PendingPathChallenge} (takes : built.consumePathChallenge = true)
      (goes : built.closePacket = false) (head : c.pendingPathChallenges.head? = some challenge)
      (frames : challengesIn built.frames = [challenge.data])
  | close (keeps : built.consumePathChallenge = false) (quiet : challengesIn built.frames = [])
      (pending : c.pendingClose.isSome)

theorem ShortContent.kind (content : ShortContent c built) : ShortContent.Kind c built := by
  cases content with
  | pathChallenge len ack head => exact .challenge rfl rfl head (challengesIn_ackPayload ack _)
  | close len pending => exact .close rfl (closeFrame_quiet _) (by rw [pending]; rfl)
  | maxFrame len ack head =>
    exact .plain rfl rfl ((challengesIn_ackPayload ack _).trans (maxFrame_quiet _))
  | blockedFrame len ack head =>
    exact .plain rfl rfl ((challengesIn_ackPayload ack _).trans (blockedFrame_quiet _))
  | ack => exact .plain rfl rfl rfl
  | _ => exact .plain rfl rfl (challengesIn_ackPayload _ _)

theorem commitBuiltProtectedShortPacket_tends {now : Int} (clock : u.clock now) (content : ShortContent c built) :
    Tends LifeSteps u c (c.commitBuiltProtectedShortPacket built now) := by
  have consumed : ((c.modifySpace .application fun s => s.commitShort built now).consumeQueues built now).upkeep =
      (if built.consumePathChallenge then c.sendHeadPathChallenge now else c).upkeep := by
    simp only [upkeep_consumeQueues, apply_ite upkeep, upkeep_sendHeadPathChallenge, upkeep_modifySpace]
  unfold commitBuiltProtectedShortPacket
  generalize (c.modifySpace .application fun s => s.commitShort built now).consumeQueues built now = t
    at consumed
  have recorded : ∀ bytes, (if built.ackEliciting then t.recordAckElicitingSendInSpace .application bytes
      else t).upkeep = t.upkeep := by
    intro bytes
    simp only [apply_ite upkeep, upkeep_recordAckElicitingSendInSpace, ite_self]
  replace recorded := recorded built.datagramLen
  simp only
  generalize (if built.ackEliciting then t.recordAckElicitingSendInSpace .application built.datagramLen
      else t) = v at recorded
  cases content.kind with
  | plain keeps goes quiet =>
    simp only [keeps, Bool.false_eq_true, if_false] at consumed
    simp only [goes, Bool.false_eq_true, false_and, if_false]
    refine .of_send clock ?_
    rw [upkeep_accountEmitted_stir _ quiet, recorded, consumed]
  | challenge takes goes head frames =>
    simp only [takes, if_true] at consumed
    simp only [goes, Bool.false_eq_true, false_and, if_false]
    have noted : (v.accountEmitted built.emitted).upkeep =
        ((c.sendHeadPathChallenge now).note (.emitted built.emitted)).upkeep :=
      upkeep_note_congr ((upkeep_recordPeerAddressBytesSent v _).trans (recorded.trans consumed)) _
    exact sendHeadPathChallenge_tends clock head frames
      ((upkeep_recordPacketActivity _ now).trans (congrArg (Upkeep.stir · now) noted))
  | close keeps quiet pending =>
    simp only [keeps, Bool.false_eq_true, if_false] at consumed
    have same : v.upkeep = c.upkeep := recorded.trans consumed
    have entered : Tends LifeSteps u v (if built.closePacket ∧ !v.closed then v.enterClosingState now else v) := by
      split
      · have kept : v.pendingClose = c.pendingClose := congrArg (fun u : Upkeep => u.life.pendingClose) same
        exact enterClosingState_tends (kept ▸ pending) now
      · exact .refl v
    exact (Tends.of_upkeep same).trans (entered.trans (.of_send clock (upkeep_accountEmitted_stir _ quiet now)))

theorem pollProtectedShortCloseDatagram_polls {now : Int} (clock : u.clock now) (dcidLen : Nat) :
    PollsFrom b u c (pollProtectedShortCloseDatagram now dcidLen) := by
  refine .read ?_
  cases pending : c.pendingClose with
  | none => exact .throw _
  | some close =>
    refine .value fun built returned => .failIf fun _ => .ite (fun _ => polls_nothing) fun admitted => ?_
    obtain ⟨len, rfl⟩ := buildProtectedShortClosePacket_shape built returned
    have content := ShortContent.close len pending
    exact ⟨commitBuiltProtectedShortPacket_handsOut now content.fits nofun (by simpa using admitted),
      commitBuiltProtectedShortPacket_tends clock content⟩

theorem pollProtectedShortDatagram_polls {now : Int} (clock : u.clock now) (dcidLen : Nat) :
    PollsFrom b u c (pollProtectedShortDatagram now dcidLen) := by
  refine PollsFrom.expire (.read (.ite (fun _ => pollProtectedShortCloseDatagram_polls clock dcidLen) fun _ =>
    .active fun _ => .read (.ite (fun _ => polls_nothing) fun _ => ?_)))
  refine .bind (buildNextProtectedShortPacket_from readies_trimming dcidLen) fun built t content => ?_
  cases built with
  | none => exact polls_nothing
  | some built =>
    refine .read (.failIf fun _ => .ite (fun _ => polls_nothing) fun admitted => ?_)
    have content := content built rfl
    have tends := commitBuiltProtectedShortPacket_tends clock content
    cases eliciting : built.ackEliciting with
    | true =>
      simp only [eliciting, if_true, Bool.not_eq_true', Bool.not_eq_false,
        ackElicitingSendAllowed, Bool.and_eq_true] at admitted
      have committed : Ships b u [built.emitted] t (t.commitBuiltProtectedShortPacket built now) :=
        ⟨commitBuiltProtectedShortPacket_handsOut now content.fits
          (fun _ => Or.inr (fits_of_canSend admitted.1)) admitted.2, tends⟩
      exact committed.ready (.of_view rfl rfl)
    | false =>
      simp only [eliciting, Bool.false_eq_true, if_false, Bool.not_eq_true', Bool.not_eq_false] at admitted
      exact ⟨commitBuiltProtectedShortPacket_handsOut now content.fits
        (fun counted => ((by cases eliciting.symm.trans counted))) admitted, tends⟩

end Short

variable {built : BuiltProtectedLongPacket}

structure BuiltProtectedLongPacket.Plain (built : BuiltProtectedLongPacket) (c : Connection) : Prop where
  quiet : challengesIn built.frames = []
  pending : built.closePacket = true → c.pendingClose.isSome
  original : c.originalDestinationConnectionId = none → built.localOriginalDestinationConnectionId =
    if c.side = .client ∧ built.space = .initial then some built.dcid else none

theorem recordedIds_original (address : LongAddressing) (built : BuiltProtectedLongPacket)
    (unset : c.originalDestinationConnectionId = none) :
    (c.recordedIds address built).localOriginalDestinationConnectionId =
      if c.side = .client ∧ built.space = .initial then some address.dcid else none := by
  simp only [recordedIds, unset, Option.isNone_none, and_true]

theorem SpaceContent.plain (content : SpaceContent c space built) : built.Plain c := by
  have ids := fun (frames : Payload) eliciting len (address : LongAddressing) =>
    recordedIds_original (c := c) address ⟨space, address.dcid, (c.packetNumberSpace space).nextPacketNumber, len,
      frames, eliciting, none, none, none, none, false, false, false, false, false, false, false, none, none⟩
  cases content with
  | close len address pending => exact ⟨rfl, fun _ => by rw [pending]; rfl, ids _ _ _ _⟩
  | ping len ack => exact ⟨challengesIn_ackPayload ack _, nofun, ids _ _ _ _⟩
  | _ => exact ⟨rfl, nofun, ids _ _ _ _⟩

theorem ZeroRttContent.plain (content : ZeroRttContent c built) : built.Plain c := by
  have other : ¬ (c.side = .client ∧ PacketNumberSpace.application = .initial) := nofun
  cases content <;> exact ⟨rfl, nofun, fun _ => (if_neg other).symm⟩

/-- It stays so while the close frame does and the identifier is not fixed otherwise. -/
theorem BuiltProtectedLongPacket.Plain.later {t : Connection} (plain : built.Plain c)
    (tends : Tends LifeSteps u c t) (kept : t.pendingClose = c.pendingClose) : built.Plain t := by
  refine ⟨plain.quiet, fun closes => kept ▸ plain.pending closes, fun unset => ?_⟩
  have side : t.side = c.side := tends.identity.side
  have before : c.originalDestinationConnectionId = none := by
    by_contra known
    obtain ⟨id, recorded⟩ := Option.ne_none_iff_exists'.mp known
    have still : t.originalDestinationConnectionId = some id := tends.identity.original recorded
    rw [unset] at still
    cases still
  rw [side]
  exact plain.original before

theorem LongPackets.From.plain {packets : LongPackets} (here : packets.From c) :
    ∀ built ∈ packets.toList, built.Plain c := by
  intro built mem
  simp only [LongPackets.toList, List.mem_append, Option.mem_toList] at mem
  rcases mem with (initial | zeroRtt) | handshake
  · exact (here.initial built initial).plain
  · exact (here.zeroRtt built zeroRtt).plain
  · exact (here.handshake built handshake).plain

theorem consumeLongQueues_tends (may : u.identifies) (plain : built.Plain c) :
    Tends Eq u c (c.consumeLongQueues built) := by
  have rest : (c.consumeLongQueues built).upkeep =
      { c.upkeep with identity := (c.consumeLongQueues built).identity } := by
    unfold consumeLongQueues
    simp only
    split <;> rfl
  have identity : (c.consumeLongQueues built).identity = { c.identity with
      original := c.originalDestinationConnectionId.or built.localOriginalDestinationConnectionId
      log := if built.space = .initial then c.idLog ++ [.sentInitial built.dcid] else c.idLog } := by
    unfold consumeLongQueues
    simp only
    split <;> rfl
  by_cases initial : built.space = .initial
  · refine .of_identity ((IdentityStep.sendsInitial c.identity built.dcid may).of_eq ?_) rest
    rw [identity, if_pos initial]
    cases known : c.originalDestinationConnectionId with
    | some id => simp [Connection.identity, known]
    | none => simp [Connection.identity, known, plain.original known, initial]
  · refine .of_upkeep ?_
    rw [rest, identity, if_neg initial]
    cases known : c.originalDestinationConnectionId with
    | some id => simp [Connection.upkeep, Connection.identity, known]
    | none => simp [Connection.upkeep, Connection.identity, known, plain.original known, initial]

theorem commitBuiltProtectedLongPacket_tends (clock : u.clock now) (may : u.identifies) (plain : built.Plain c) :
    Tends LifeSteps u c (c.commitBuiltProtectedLongPacket built now) ∧
      (c.commitBuiltProtectedLongPacket built now).pendingClose = c.pendingClose := by
  unfold commitBuiltProtectedLongPacket
  have stored : Tends Eq u c (c.modifySpace built.space fun s => s.commitLong built now) :=
    .of_upkeep (upkeep_modifySpace c built.space _)
  have close : (c.modifySpace built.space fun s => s.commitLong built now).pendingClose = c.pendingClose :=
    congrArg Life.pendingClose stored.life.symm
  have consumed := stored.trans (consumeLongQueues_tends may (plain.later stored.lively close))
  generalize (c.modifySpace built.space fun s => s.commitLong built now).consumeLongQueues built = t
    at consumed
  have recorded : (if built.ackEliciting then t.recordAckElicitingSendInSpace built.space built.datagramLen
      else t).upkeep = t.upkeep := by
    simp only [apply_ite upkeep, upkeep_recordAckElicitingSendInSpace, ite_self]
  simp only
  generalize (if built.ackEliciting then t.recordAckElicitingSendInSpace built.space built.datagramLen
      else t) = v at recorded
  replace consumed := consumed.upkeep recorded
  have kept : v.pendingClose = c.pendingClose := congrArg Life.pendingClose consumed.life.symm
  have entered : Tends LifeSteps u v (if built.closePacket ∧ !v.closed then v.enterClosingState now else v) ∧
      (if built.closePacket ∧ !v.closed then v.enterClosingState now else v).pendingClose = v.pendingClose := by
    split
    · rename_i closes
      exact ⟨enterClosingState_tends (kept ▸ plain.pending closes.1) now, rfl⟩
    · exact ⟨.refl v, rfl⟩
  generalize (if built.closePacket ∧ !v.closed then v.enterClosingState now else v) = w at entered
  have finished : (((w.accountEmitted built.emitted).recordPacketActivity now).maybeDiscardInitialAfterHandshakePacketSent
      built.space |>.maybeDiscardHandshakeAfterConfirmedCryptoSent built.space).upkeep = w.upkeep.send now := by
    rw [upkeep_maybeDiscardHandshakeAfterConfirmedCryptoSent, upkeep_maybeDiscardInitialAfterHandshakePacketSent,
      upkeep_accountEmitted_stir _ plain.quiet]
  refine ⟨consumed.lively.trans (entered.1.trans (.of_send clock finished)), ?_⟩
  exact (congrArg (fun u : Upkeep => u.life.pendingClose) finished).trans (entered.2.trans kept)

theorem commitLongPackets_tends (clock : u.clock now) (may : u.identifies)
    (packets : List BuiltProtectedLongPacket) :
    ∀ c : Connection, (∀ built ∈ packets, built.Plain c) → Tends LifeSteps u c
      (packets.foldl (fun c built => c.commitBuiltProtectedLongPacket built now) c) := by
  induction packets with
  | nil => exact fun c _ => .refl c
  | cons built packets ih =>
    intro c plain
    obtain ⟨committed, kept⟩ := commitBuiltProtectedLongPacket_tends clock may (plain built List.mem_cons_self)
    exact committed.trans (ih _ fun other mem => (plain other (List.mem_cons_of_mem _ mem)).later committed kept)

structure BuiltProtectedLongPacket.Ready (built : BuiltProtectedLongPacket) (c : Connection) : Prop where
  fits : built.Fits c
  plain : built.Plain c

variable (clock : u.clock now) (may : u.identifies)
include clock may

theorem commitAdmitted_polls (ready : built.Ready c) : PollsFrom b u c (commitAdmitted built now) := by
  refine .read (.failIf fun _ => .ite (fun _ => polls_nothing) fun admitted => ?_)
  simp only [Bool.or_eq_true, Bool.not_eq_true', Bool.and_eq_true, not_or, Bool.not_eq_false, not_and] at admitted
  exact ⟨commitBuiltProtectedLongPacket_handsOut now ready.fits
    (fun eliciting => Or.inr (fits_of_canSend (admitted.2 eliciting))) (affordable_of_canSend admitted.1),
    (commitBuiltProtectedLongPacket_tends clock may ready.plain).1⟩

theorem commitBuilt_polls {x : Except Error (Option BuiltProtectedLongPacket)}
    (content : Returns x (spacePacket c space)) :
    PollsFrom b u c (do
      match ← liftExcept x with
      | none => pure none
      | some built => commitAdmitted built now) := by
  refine .value fun built returned => ?_
  cases built with
  | none => exact polls_nothing
  | some built =>
    have content := content _ returned built rfl
    exact commitAdmitted_polls clock may ⟨content.fits, content.plain⟩

theorem pollProtectedZeroRttDatagram_polls (address : LongAddressing) :
    PollsFrom b u c (pollProtectedZeroRttDatagram now address) := by
  refine PollsFrom.expire (.active fun _ => .bind (buildNextProtectedZeroRttPacket_from readies_trimming)
    fun built t content => ?_)
  cases built with
  | none => exact polls_nothing
  | some built => exact commitAdmitted_polls clock may ⟨(content built rfl).fits, (content built rfl).plain⟩

theorem pollProtectedHandshakeDatagramWithInstalledKeys_polls (dcid scid : Bytes) :
    PollsFrom b u c (pollProtectedHandshakeDatagramWithInstalledKeys now dcid scid) := by
  refine PollsFrom.expire (.read (.failIf fun _ => .read (.ite (fun _ => .value fun built returned => ?_) fun _ =>
    .active fun _ => commitBuilt_polls clock may buildNextProtectedLongPacketInSpace_content)))
  have content := buildProtectedLongClosePacketInSpace_content built returned
  exact commitAdmitted_polls clock may ⟨content.fits, content.plain⟩

theorem pollProtectedLongCryptoDatagramInSpace_polls (space : PacketNumberSpace) (address : LongAddressing) :
    PollsFrom b u c (pollProtectedLongCryptoDatagramInSpace space now address) :=
  PollsFrom.expire (.active fun _ => .read (commitBuilt_polls clock may buildProtectedLongCryptoPacketInSpace_content))

omit clock may

structure BuildKeeps (c t : Connection) : Prop where
  ledger : t.ledger = c.ledger
  maxTxDatagramSize : t.maxTxDatagramSize = c.maxTxDatagramSize

instance : IsPreorder Connection BuildKeeps where
  refl _ := ⟨rfl, rfl⟩
  trans _ _ _ h k := ⟨k.1.trans h.1, k.2.trans h.2⟩

theorem buildKeeps_trimming : Trimming BuildKeeps :=
  ⟨fun _ => ⟨rfl, rfl⟩, fun _ => ⟨rfl, rfl⟩, fun _ => ⟨rfl, rfl⟩, fun _ => ⟨rfl, rfl⟩, fun _ => ⟨rfl, rfl⟩⟩

/-- Coalesced packets are admitted one by one, so their sum needs room of its own. -/
theorem pollProtectedLongDatagram_polls (clock : u.clock now) (may : u.identifies) (address : LongAddressing)
    (keys : ProtectedLongDatagramKeys)
    (room : b.crowded ∨ c.ledger.totalBytesInFlight + c.maxTxDatagramSize ≤ maxU64) :
    PollsFrom b u c (pollProtectedLongDatagram now address keys) := by
  refine PollsFrom.expire ?_
  have expired : BuildKeeps c ((c.expireIdleState now).expireCloseState now) := by
    refine ⟨ledger_of_view ((view_expireCloseState _ now).trans (view_expireIdleState c now)), ?_⟩
    have size := fun c : Connection => c.expired_keeps now (f := maxTxDatagramSize) fun _ => rfl
    exact (size _).2.trans (size c).1
  rw [PollsFrom, RunsFrom, wp_bind]
  refine wp_mono (wp_and (buildLongDatagram_from readies_trimming) (buildLongDatagram_from buildKeeps_trimming))
    (fun built t h => ?_) fun _ _ h => h.1
  obtain ⟨⟨readies, here⟩, keeps, -⟩ := h
  refine RunsFrom.later readies (.read (.value fun packets padded => .ite (fun _ => polls_nothing) fun _ =>
    .failIf fun short => .ite (fun _ => polls_nothing) fun admitted => ?_))
  have here := padInitial_from (here.coalesce _) packets padded
  simp only [Bool.or_eq_true, Bool.not_eq_true', not_or, Bool.not_eq_false] at admitted
  refine ⟨commitLongPackets_handsOut now packets.toList t here.fits here.apart (room.imp_right fun h => ?_)
    (affordable_of_canSend admitted.1), commitLongPackets_tends clock may packets.toList t here.plain⟩
  rw [keeps.ledger, expired.ledger]
  rw [keeps.maxTxDatagramSize, expired.maxTxDatagramSize] at short
  exact (Nat.add_le_add_left (Nat.le_of_not_lt short) _).trans h

end Quicz
