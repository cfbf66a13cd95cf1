import Quicz.Upkeep.Machine

/-! The bookkeeping on packets, timers and keys, and the marks acknowledgements leave on the send
streams, keep every part of the upkeep as it is. -/
namespace Quicz

open Chunks Proc Connection

variable (c : Connection) (space : PacketNumberSpace)

theorem challengesEmitted_append (events more : List Event) :
    challengesEmitted (events ++ more) = challengesEmitted events ++ challengesEmitted more := by
  simp [challengesEmitted, emittedIn]

theorem paths_note (event : Event) : (c.note event).paths =
    { c.paths with emitted := c.paths.emitted ++ challengesEmitted [event] } := by
  simp [note, paths, challengesEmitted_append]

theorem activity_note (event : Event) : (c.note event).activity =
    { c.activity with sent := c.activity.sent + packetsSent [event] } := by
  simp [note, activity, packetsSent, List.countP_append]

variable {event : Event}

theorem upkeep_note_quiet (quiet : challengesEmitted [event] = []) : (c.note event).upkeep =
    { c.upkeep with activity := { c.activity with sent := c.activity.sent + packetsSent [event] } } := by
  have paths : (c.note event).paths = c.paths := by
    rw [paths_note, quiet, List.append_nil]
  have upkeep : (c.note event).upkeep =
      { c.upkeep with paths := (c.note event).paths, activity := (c.note event).activity } := rfl
  rw [upkeep, paths, activity_note]
  rfl

theorem upkeep_note (quiet : challengesEmitted [event] = []) (unsent : packetsSent [event] = 0) :
    (c.note event).upkeep = c.upkeep := by
  rw [upkeep_note_quiet c quiet, unsent]
  rfl

theorem upkeep_note_sent (quiet : challengesEmitted [event] = []) (sent : packetsSent [event] = 1) :
    (c.note event).upkeep = c.upkeep.book := by
  rw [upkeep_note_quiet c quiet, sent]
  rfl

@[simp] theorem upkeep_modifySpace (f : PacketNumberSpaceState → PacketNumberSpaceState) :
    (c.modifySpace space f).upkeep = c.upkeep := by
  cases space <;> rfl

@[simp] theorem upkeep_modifyRecovery (f : Recovery → Recovery) :
    (c.modifyRecovery space f).upkeep = c.upkeep := upkeep_modifySpace c space _

theorem upkeep_recordPacketActivity (now : Int) : (c.recordPacketActivity now).upkeep = c.upkeep.stir now := by
  have same : c.upkeep.activity.timeout = c.effectiveIdleTimeout := rfl
  unfold recordPacketActivity Upkeep.stir Activity.stir
  rw [same]
  cases c.effectiveIdleTimeout <;> rfl

@[simp] theorem upkeep_markHandshakeSpaceUsed : (c.markHandshakeSpaceUsed space).upkeep = c.upkeep := by
  unfold markHandshakeSpaceUsed
  split <;> rfl

@[simp] theorem upkeep_recordPeerAddressBytesSent (bytes : Nat) :
    (c.recordPeerAddressBytesSent bytes).upkeep = c.upkeep := by
  unfold recordPeerAddressBytesSent
  split <;> rfl

@[simp] theorem upkeep_recordAckElicitingSendInSpace (bytes : Nat) :
    (c.recordAckElicitingSendInSpace space bytes).upkeep = c.upkeep := upkeep_modifySpace c space _

@[simp] theorem upkeep_armPtoProbeInSpace :
    (c.armPtoProbeInSpace space).upkeep = c.upkeep := upkeep_modifySpace c space _

@[simp] theorem upkeep_armCongestionProbeIfPendingData :
    (c.armCongestionProbeIfPendingData space).upkeep = c.upkeep := by
  unfold armCongestionProbeIfPendingData
  split
  · exact upkeep_modifySpace c space _
  · rfl

@[simp] theorem upkeep_refreshAntiDeadlockPtoTimer (now : Int) :
    (c.refreshAntiDeadlockPtoTimer space now).upkeep = c.upkeep := by
  unfold refreshAntiDeadlockPtoTimer
  split
  · rfl
  · split <;> rfl

@[simp] theorem upkeep_discardPacketNumberSpaceState : (c.discardPacketNumberSpaceState space).upkeep = c.upkeep := by
  unfold discardPacketNumberSpaceState
  split
  · rfl
  · have cleared : ((c.modifySpace space PacketNumberSpaceState.discard).note (.cleared space)).upkeep =
        c.upkeep := (upkeep_note _ rfl rfl).trans (upkeep_modifySpace c space _)
    split <;> exact cleared

@[simp] theorem upkeep_maybeDiscardInitialAfterHandshakePacketSent :
    (c.maybeDiscardInitialAfterHandshakePacketSent space).upkeep = c.upkeep := by
  unfold maybeDiscardInitialAfterHandshakePacketSent
  split
  · rfl
  · exact upkeep_discardPacketNumberSpaceState c .initial

@[simp] theorem upkeep_maybeDiscardInitialAfterHandshakePacketReceived :
    (c.maybeDiscardInitialAfterHandshakePacketReceived space).upkeep = c.upkeep := by
  unfold maybeDiscardInitialAfterHandshakePacketReceived
  split
  · rfl
  · exact upkeep_discardPacketNumberSpaceState c .initial

@[simp] theorem upkeep_maybeDiscardHandshakeAfterConfirmedCryptoSent :
    (c.maybeDiscardHandshakeAfterConfirmedCryptoSent space).upkeep = c.upkeep := by
  unfold maybeDiscardHandshakeAfterConfirmedCryptoSent
  split
  · rfl
  · split
    · rfl
    · exact upkeep_discardPacketNumberSpaceState c .handshake

@[simp] theorem upkeep_dropObsoleteStopSendingFrames : c.dropObsoleteStopSendingFrames.upkeep = c.upkeep := rfl

@[simp] theorem upkeep_dropObsoleteMaxFrames : c.dropObsoleteMaxFrames.upkeep = c.upkeep := rfl

@[simp] theorem upkeep_dropObsoleteBlockedFrames : c.dropObsoleteBlockedFrames.upkeep = c.upkeep := rfl

@[simp] theorem upkeep_dropResetClosedStreamFrames : c.dropResetClosedStreamFrames.upkeep = c.upkeep := rfl

theorem upkeep_markSendStream (streamId : Nat) {mark : SendStreamState → SendStreamState}
    (keeps : ∀ stream, (mark stream).allowance = stream.allowance) :
    (c.markSendStream streamId mark).upkeep = c.upkeep := by
  have streams : (Keyed.adjust SendStreamState.streamId streamId mark c.sendStreams).map
      SendStreamState.allowance = c.sendStreams.map SendStreamState.allowance := by
    induction c.sendStreams with
    | nil => rfl
    | cons stream rest ih =>
      simp only [Keyed.adjust]
      split
      · simp [keeps]
      · simp [ih]
  have allowance : (c.markSendStream streamId mark).allowance = c.allowance :=
    congrArg (fun streams => { c.allowance with streams }) streams
  exact congrArg (fun allowance => { c.upkeep with allowance }) allowance

theorem upkeep_markSentPacketAckedOnStreams (packet : SentPacket) :
    (c.markSentPacketAckedOnStreams packet).upkeep = c.upkeep := by
  have data : ∀ (c : Connection) (pending : PendingStreamFrame),
      (c.markStreamFrameAcked pending).upkeep = c.upkeep := by
    intro c pending
    unfold markStreamFrameAcked
    cases pending.fin
    · rfl
    · exact upkeep_markSendStream c pending.streamId fun _ => rfl
  have reset : ∀ (c : Connection) (reset : ResetStreamFrame),
      (c.markSendStream reset.streamId fun stream => { stream with resetAcked := true }).upkeep = c.upkeep :=
    fun c reset => upkeep_markSendStream c reset.streamId fun _ => rfl
  unfold markSentPacketAckedOnStreams
  cases packet.streamFrame with
  | none =>
    cases packet.resetStreamFrame with
    | none => rfl
    | some frame => exact reset c frame
  | some pending =>
    cases packet.resetStreamFrame with
    | none => exact data c pending
    | some frame => exact (reset _ frame).trans (data c pending)

variable (now : Int) (ack : AckFrame)

@[simp] theorem upkeep_settleAcked : (c.settleAcked space ack).upkeep = c.upkeep := by
  have marked : ∀ (packets : List SentPacket) (t : Connection),
      (packets.foldl markSentPacketAckedOnStreams t).upkeep = t.upkeep := by
    intro packets
    induction packets with
    | nil => exact fun _ => rfl
    | cons packet rest ih => exact fun t => (ih _).trans (upkeep_markSentPacketAckedOnStreams t packet)
  exact (upkeep_note _ rfl rfl).trans ((marked _ _).trans (upkeep_modifySpace c space _))

@[simp] theorem upkeep_requeueLost (lost : List SentPacket) :
    (c.requeueLost space lost).upkeep = c.upkeep := upkeep_modifySpace c space _

@[simp] theorem upkeep_removeAckDrivenLosses (largest : Nat) (sample : Option Nat) :
    (c.removeAckDrivenLosses space largest sample now).2.upkeep = c.upkeep :=
  (upkeep_note _ rfl rfl).trans ((upkeep_modifySpace _ space _).trans (upkeep_requeueLost c space _))

@[simp] theorem upkeep_refreshSendDataAckedStates : c.refreshSendDataAckedStates.upkeep = c.upkeep := by
  have streams : c.refreshSendDataAckedStates.sendStreams.map SendStreamState.allowance =
      c.sendStreams.map SendStreamState.allowance := by
    simp only [refreshSendDataAckedStates, List.map_map]
    refine List.map_congr_left fun stream _ => ?_
    simp only [Function.comp_apply]
    split <;> rfl
  have allowance : c.refreshSendDataAckedStates.allowance = c.allowance :=
    congrArg (fun streams => { c.allowance with streams }) streams
  exact congrArg (fun allowance => { c.upkeep with allowance }) allowance

@[simp] theorem upkeep_confirmKeyUpdate (packets : List SentPacket) :
    (c.confirmKeyUpdate space packets).upkeep = c.upkeep := by
  unfold confirmKeyUpdate
  split <;> rfl

@[simp] theorem upkeep_syncRttEstimatesFromSpace : (c.syncRttEstimatesFromSpace space).upkeep = c.upkeep := rfl

@[simp] theorem upkeep_rememberFirstRttSampleSentTime (sent : Int) :
    (c.rememberFirstRttSampleSentTime sent).upkeep = c.upkeep := rfl

@[simp] theorem upkeep_resetConnectionPtoBackoff : c.resetConnectionPtoBackoff.upkeep = c.upkeep := rfl

@[simp] theorem upkeep_restorePtoBackoff (snapshot : Connection) :
    (c.restorePtoBackoff snapshot).upkeep = c.upkeep := rfl

@[simp] theorem upkeep_recoverFromAck (acked : AckedPackets) (loss : LossDetectionResult) :
    (c.recoverFromAck space now ack acked loss).upkeep = c.upkeep := by
  unfold recoverFromAck
  cases acked.rttSample <;> simp [apply_ite upkeep]

variable (counts : Option EcnCounts)

theorem upkeep_applyNewlyAcked (packets : List SentPacket) (bytes : Nat) (largest : SentPacket) (utilized : Bool) :
    (c.applyNewlyAcked space now ack counts packets bytes largest utilized).upkeep = c.upkeep := by
  simp only [applyNewlyAcked, upkeep_recoverFromAck, upkeep_confirmKeyUpdate,
    upkeep_refreshSendDataAckedStates, upkeep_removeAckDrivenLosses, upkeep_modifySpace,
    apply_ite upkeep, upkeep_rememberFirstRttSampleSentTime, ite_self]

@[simp] theorem upkeep_applyAck : (c.applyAck space now ack counts).upkeep = c.upkeep := by
  have settled := upkeep_settleAcked c space ack
  unfold applyAck
  simp only
  split
  · exact settled
  · split
    · exact settled
    · exact (upkeep_applyNewlyAcked _ space now ack counts _ _ _ _).trans settled

@[simp] theorem upkeep_expireLossDetectionTimeoutInSpace :
    (c.expireLossDetectionTimeoutInSpace space now).upkeep = c.upkeep := by
  unfold expireLossDetectionTimeoutInSpace
  simp only
  split
  · rfl
  · split
    · rfl
    · split
      · exact upkeep_modifySpace c space _
      · simp only [apply_ite upkeep, upkeep_refreshAntiDeadlockPtoTimer, upkeep_modifyRecovery,
          upkeep_armCongestionProbeIfPendingData, upkeep_removeAckDrivenLosses, ite_self]

@[simp] theorem upkeep_expireLossDetectionTimeouts : (c.expireLossDetectionTimeouts now).upkeep = c.upkeep := by
  simp only [expireLossDetectionTimeouts, upkeep_expireLossDetectionTimeoutInSpace]

theorem upkeep_hasPendingAckElicitingDataInSpace :
    (c.hasPendingAckElicitingDataInSpace space).2.upkeep = c.upkeep := by
  simp only [hasPendingAckElicitingDataInSpace, apply_ite Prod.snd, apply_ite upkeep,
    upkeep_dropObsoleteStopSendingFrames, upkeep_dropObsoleteMaxFrames, upkeep_dropObsoleteBlockedFrames,
    upkeep_dropResetClosedStreamFrames, ite_self]

theorem upkeep_queuePtoRetransmission {t : Connection} {space : PacketNumberSpace}
    (queued : c.queuePtoRetransmission space = some t) : t.upkeep = c.upkeep := by
  unfold queuePtoRetransmission at queued
  split at queued
  · obtain rfl := Option.some.inj queued
    exact upkeep_modifySpace c space _
  · split at queued
    · cases queued
    · rcases Option.or_eq_some_iff.mp queued with control | ⟨-, stream⟩
      · obtain ⟨packet, -, found⟩ := List.exists_of_findSome?_eq_some control
        cases reset : packet.resetStreamFrame with
        | some frame =>
          simp only [reset] at found
          split at found
          · cases found
          · obtain rfl := Option.some.inj found
            rfl
        | none =>
          simp only [reset] at found
          obtain ⟨stop, -, rfl⟩ := Option.map_eq_some_iff.mp found
          rfl
      · obtain ⟨pending, -, rfl⟩ := Option.map_eq_some_iff.mp stream
        rfl

end Quicz
