import Quicz.Send.Contents

/-! Acknowledgements, losses and probe timeouts refine the send machine. -/
namespace Quicz

open Chunks Proc Resend Connection SpaceLedger LedgerEntry

variable (c : Connection)

variable {rule : LedgerRule}

section Books

variable (space : PacketNumberSpace) (s : SpaceLedger) (gone : SentPacket → Bool)

def SpaceLedger.drop : SpaceLedger :=
  { s with sent := s.sent.filter fun packet => !gone packet }

theorem SpaceLedger.leave_eq : s.leave gone = (s.drop gone).release (countedBytes (s.sent.filter gone)) := rfl

/-- Losses are taken off the count before what was acknowledged. -/
theorem SpaceLedger.leave_leave (acked lost : SentPacket → Bool) :
    (s.leave acked).leave lost = (((s.drop acked).drop lost).release
      (countedBytes ((s.drop acked).sent.filter lost))).release (countedBytes (s.sent.filter acked)) := by
  simp only [leave, drop, release, Nat.sub_right_comm]

theorem ledger_settleAcked (ack : AckFrame) : (c.settleAcked space ack).ledger =
      (c.ledger.modify space (·.drop fun p => ackFrameContains ack p.packetNumber)).note
        (.acknowledged space ((c.ledger.space space).leaving fun p => ackFrameContains ack p.packetNumber)) := by
  obtain ⟨streams, settled⟩ := settleAcked_eq c space ack
  rw [settled, ledger_note]
  have dropped := ledger_modifySpace c space (f := fun s => { s with
      sentPackets := s.sentPackets.filter fun p => !ackFrameContains ack p.packetNumber })
    (g := (·.drop fun p => ackFrameContains ack p.packetNumber)) fun _ => rfl
  rw [← dropped]
  rfl

variable (largestAcknowledged : Nat) (rttSample : Option Nat) (now : Int)

theorem ledger_removeAckDrivenLosses :
    (c.removeAckDrivenLosses space largestAcknowledged rttSample now).2.ledger = (c.ledger.modify space
        (·.drop (c.lossCheck space largestAcknowledged rttSample now).declaresLost)).note
        (.lost space ((c.ledger.space space).leaving
          (c.lossCheck space largestAcknowledged rttSample now).declaresLost)) := by
  set check := c.lossCheck space largestAcknowledged rttSample now with checked
  have requeued : ∀ lost, (c.requeueLost space lost).ledger = c.ledger := by
    intro lost
    refine Eq.trans ?_ (ledger_of_view (view_modifySpace c space (fun s => { s with
      cryptoSendQueue := (lost.filter c.retransmits).filterMap SentPacket.cryptoFrame ++
        s.cryptoSendQueue }) fun _ => rfl))
    rfl
  simp only [removeAckDrivenLosses, ledger_note, ← checked]
  rw [ledger_modifySpace _ space (g := (·.drop check.declaresLost)) fun _ => rfl, requeued]
  rfl

theorem recordLostPacket_lostBytes (first : Option Int) (r : LossDetectionResult) (packet : SentPacket) :
    (r.recordLostPacket first packet).lostBytes = saturatingAddU64 r.lostBytes packet.bytes := by
  unfold LossDetectionResult.recordLostPacket
  simp only
  repeat' split
  all_goals rfl

theorem removeAckDrivenLosses_lostBytes :
    (c.removeAckDrivenLosses space largestAcknowledged rttSample now).1.lostBytes =
      countedBytes ((c.ledger.space space).sent.filter
        (c.lossCheck space largestAcknowledged rttSample now).declaresLost) := by
  have fold : ∀ (lost : List SentPacket) (r : LossDetectionResult) (first : Option Int),
      (lost.foldl (LossDetectionResult.recordLostPacket first) r).lostBytes =
        lost.foldl (fun total packet => saturatingAddU64 total packet.bytes) r.lostBytes := by
    intro lost
    induction lost with
    | nil => exact fun _ _ => rfl
    | cons packet lost ih =>
      intro r first
      rw [List.foldl_cons, ih, recordLostPacket_lostBytes, List.foldl_cons]
  exact fold _ _ _

theorem ledger_confirmKeyUpdate (packets : List SentPacket) :
    (c.confirmKeyUpdate space packets).ledger = { c.ledger with
      threshold := if space == .application && c.ledger.threshold.any fun threshold =>
          (packets.map SentPacket.packetNumber).any fun packetNumber => decide (packetNumber ≥ threshold)
        then none else c.ledger.threshold } := by
  have confirms : (space == .application && c.ledger.threshold.any fun threshold =>
      (packets.map SentPacket.packetNumber).any fun packetNumber =>
        decide (packetNumber ≥ threshold)) =
      decide (space = .application ∧ c.localOneRttKeyUpdateAckThreshold.any fun threshold =>
        packets.any fun packet => decide (packet.packetNumber ≥ threshold)) := by
    simp only [List.any_map, Bool.decide_and, Bool.decide_eq_true]
    rfl
  rw [confirms]
  unfold confirmKeyUpdate
  split
  · rename_i confirmed
    rw [if_pos (decide_eq_true confirmed)]
    rfl
  · rename_i pending
    rw [if_neg (by simpa only [decide_eq_true_eq] using pending)]

theorem ledger_recoverFromAck (ack : AckFrame) (acked : AckedPackets) (loss : LossDetectionResult) :
    (c.recoverFromAck space now ack acked loss).ledger =
      (c.ledger.modify space (·.release loss.lostBytes)).modify space (·.release acked.bytes) := by
  have congestion : ∀ t : Connection, (if acked.ceMarked then
      t.modifyRecovery space (·.onCongestionEvent acked.largest.sentTimeNanos now) else t).ledger = t.ledger := by
    intro t
    split
    · exact ledger_of_view (view_modifyRecovery t space _ fun r => by
        simp [Recovery.onCongestionEvent])
    · rfl
  have lost : ∀ t : Connection, (if loss.lostBytes ≠ 0 then
      t.modifyRecovery space (·.onPacketLostWithNumber loss.lostBytes
        (loss.largestLostSentTimeNanos.getD 0) now loss.largestLostPacketNumber) else t).ledger =
        t.ledger.modify space (·.release loss.lostBytes) := by
    intro t
    split
    · exact ledger_modifyRecovery t space _ _ fun r => by simp
    · rename_i none
      rw [Decidable.not_not.mp none]
      exact (Ledger.modify_id _ space).symm
  have probe : ∀ (t : Connection) (b : Bool),
      (if b then t.armCongestionProbeIfPendingData space else t).ledger = t.ledger := by
    intro t b
    split
    · exact ledger_of_view (view_armCongestionProbeIfPendingData t space)
    · rfl
  have backoff : ∀ (t before : Connection), (if t.ackShouldResetPtoBackoff space then
      t.resetConnectionPtoBackoff else t.restorePtoBackoff before).ledger = t.ledger := by
    intro t before
    split
    · exact ledger_of_view (view_resetConnectionPtoBackoff t)
    · exact ledger_of_view (view_restorePtoBackoff t before)
  have persistent : ∀ (t : Connection) (b : Bool), (if b then
      if acked.rttSample.isSome then (t.modifyRecovery space
        (·.onPersistentCongestionWithRttSample acked.rttSample)).syncRttEstimatesFromSpace space
      else t.modifyRecovery space (·.onPersistentCongestionWithRttSample acked.rttSample)
      else t).ledger = t.ledger := by
    intro t b
    have kept := ledger_of_view (view_modifyRecovery t space
      (·.onPersistentCongestionWithRttSample acked.rttSample) fun r => by simp)
    split
    · split
      · rw [ledger_of_view (view_syncRttEstimatesFromSpace _ space)]
        exact kept
      · exact kept
    · rfl
  unfold recoverFromAck
  simp only
  rw [ledger_of_view (view_refreshAntiDeadlockPtoTimer _ space now), persistent, backoff]
  have notified : ∀ t : Connection, (t.modifyRecovery space
      (·.notifyLargestAcked ack.largestAcknowledged)).ledger = t.ledger := fun t =>
    ledger_of_view (view_modifyRecovery t space _ fun r => Recovery.bytesInFlight_notifyLargestAcked r _)
  cases acked.rttSample with
  | some sample =>
    simp only
    rw [ledger_of_view (view_syncRttEstimatesFromSpace _ space),
      ledger_modifyRecovery _ space _ acked.bytes fun r => by simp, notified, probe, lost, congestion]
  | none =>
    simp only
    rw [ledger_modifyRecovery _ space _ acked.bytes fun r => by simp, notified, probe, lost, congestion]

theorem streamView_recoverFromAck (ack : AckFrame) (acked : AckedPackets) (loss : LossDetectionResult) :
    (c.recoverFromAck space now ack acked loss).streamView = c.streamView := by
  have sync := fun t : Connection => streamView_of_view (view_syncRttEstimatesFromSpace t space)
  have probe := fun t : Connection => streamView_of_view (view_armCongestionProbeIfPendingData t space)
  have reset := fun t : Connection => streamView_of_view (view_resetConnectionPtoBackoff t)
  have restore := fun t before : Connection => streamView_of_view (view_restorePtoBackoff t before)
  unfold recoverFromAck
  simp only [streamView_of_view (view_refreshAntiDeadlockPtoTimer _ space now),
    apply_ite streamView, sync, reset, restore, streamView_modifyRecovery, ite_self]
  split <;>
    simp only [apply_ite streamView, sync, probe, streamView_modifyRecovery, ite_self]

end Books

variable (space : PacketNumberSpace) (now : Int) (ack : AckFrame) (ecnCounts : Option EcnCounts)

theorem settleAcked_streams : Streams c (c.settleAcked space ack) := by
  refine ⟨?_, settleAcked_moves c space ack⟩
  obtain ⟨streams, eq⟩ := settleAcked_eq c space ack
  rw [eq]
  exact recvPart_modifySpace c space _

theorem removeAckDrivenLosses_streams (largestAcknowledged : Nat) (rttSample : Option Nat) (now : Int) :
    Streams c (c.removeAckDrivenLosses space largestAcknowledged rttSample now).2 := by
  refine ⟨?_, removeAckDrivenLosses_moves c space largestAcknowledged rttSample now⟩
  refine (recvPart_modifySpace _ space _).trans ?_
  exact recvPart_modifySpace c space _

theorem refreshSendDataAckedStates_streams : Streams c c.refreshSendDataAckedStates :=
  ⟨rfl, refreshSendDataAckedStates_moves c⟩

theorem ledger_validateEcnAck (s : PacketNumberSpaceState) (largestAcknowledged ect0 ect1 : Nat)
    (counts : Option EcnCounts) : (s.validateEcnAck largestAcknowledged ect0 ect1 counts).2.ledger = s.ledger := by
  unfold PacketNumberSpaceState.validateEcnAck
  split
  · rfl
  · cases counts with
    | none | some counts => simp only; split <;> rfl

variable (packets : List SentPacket)

theorem streamView_confirmKeyUpdate : (c.confirmKeyUpdate space packets).streamView = c.streamView := by
  unfold confirmKeyUpdate
  split <;> rfl

/-- What the check of the ECN counters and the RTT sample do before losses are looked for. -/
def Connection.beforeLosses (c : Connection) (space : PacketNumberSpace) (now : Int) (ack : AckFrame)
    (ecnCounts : Option EcnCounts) (packets : List SentPacket) (largest : SentPacket) : Connection :=
  let ecn := (c.packetNumberSpace space).validateEcnAck ack.largestAcknowledged
    (countEcn .ect0 packets) (countEcn .ect1 packets) ecnCounts
  let c := c.modifySpace space fun _ => ecn.2
  let rttSample := if largest.packetNumber = ack.largestAcknowledged then
    some (elapsed largest.sentTimeNanos now) else none
  let c := if rttSample.isSome then c.rememberFirstRttSampleSentTime largest.sentTimeNanos else c
  let largestAcknowledged :=
    max ((c.packetNumberSpace space).largestAcknowledged.getD ack.largestAcknowledged)
      ack.largestAcknowledged
  c.modifySpace space fun s => { s with largestAcknowledged := some largestAcknowledged }

variable (largest : SentPacket)

theorem view_beforeLosses : (c.beforeLosses space now ack ecnCounts packets largest).view = c.view := by
  refine (view_modifySpace _ space _ ?_).trans ?_
  · exact fun _ => rfl
  have checked : (c.modifySpace space fun _ => ((c.packetNumberSpace space).validateEcnAck
      ack.largestAcknowledged (countEcn .ect0 packets) (countEcn .ect1 packets) ecnCounts).2).view =
      c.view := view_modifySpace_at c space _ (ledger_validateEcnAck _ _ _ _ _)
  split
  · exact (view_rememberFirstRttSampleSentTime _ _).trans checked
  · exact checked

/-- The RTT sample an ACK frame gives: only when its largest number is newly acknowledged. -/
def AckFrame.rttSample (ack : AckFrame) (largest : SentPacket) (now : Int) : Option Nat :=
  if largest.packetNumber = ack.largestAcknowledged then some (elapsed largest.sentTimeNanos now) else none

/-- The losses an ACK brings to light are taken out after what it acknowledges. -/
theorem applyNewlyAcked_eq
    (bytes : Nat) (largest : SentPacket)
    (utilized : Bool) :
    ∃ (largestAcknowledged : Nat) (rttSample : Option Nat) (acked : AckedPackets), acked.bytes = bytes ∧
      let before := c.beforeLosses space now ack ecnCounts packets largest
      (before.packetNumberSpace space).largestAcknowledged = some largestAcknowledged ∧
      rttSample = ack.rttSample largest now ∧
      let losses := before.removeAckDrivenLosses space largestAcknowledged rttSample now
      c.applyNewlyAcked space now ack ecnCounts packets bytes largest utilized =
        (losses.2.refreshSendDataAckedStates.confirmKeyUpdate space packets).recoverFromAck space now ack
          acked losses.1 :=
  ⟨_, _, ⟨bytes, largest, _, utilized, _⟩, rfl, by cases space <;> rfl, rfl, rfl⟩

theorem applyNewlyAcked_streams (bytes : Nat) (utilized : Bool) :
    Streams c (c.applyNewlyAcked space now ack ecnCounts packets bytes largest utilized) := by
  obtain ⟨largestAcknowledged, rttSample, acked, -, -, -, applied⟩ :=
    applyNewlyAcked_eq c space now ack ecnCounts packets bytes largest utilized
  rw [applied]
  have before : Streams c (c.beforeLosses space now ack ecnCounts packets largest) :=
    .of_view (streamView_of_view (view_beforeLosses c space now ack ecnCounts packets largest))
  have refreshed := (before.trans (removeAckDrivenLosses_streams _ space largestAcknowledged rttSample now)).trans
    (refreshSendDataAckedStates_streams _)
  exact (refreshed.view (streamView_confirmKeyUpdate _ space packets)).view
    (streamView_recoverFromAck _ space now ack acked _)

theorem ledger_applyNewlyAcked (utilized : Bool) : ∃ lost : SentPacket → Bool,
      ((c.settleAcked space ack).applyNewlyAcked space now ack ecnCounts
        ((c.packetNumberSpace space).acknowledgedBy ack)
        (countedBytes ((c.packetNumberSpace space).acknowledgedBy ack)) largest utilized).ledger =
      (loses space lost).apply ((acknowledges space (fun p => ackFrameContains ack p.packetNumber) true).apply
          c.ledger) := by
  set packets := (c.packetNumberSpace space).acknowledgedBy ack with acknowledged
  obtain ⟨largestAcknowledged, rttSample, acked, bytes, -, -, applied⟩ :=
    applyNewlyAcked_eq (c.settleAcked space ack) space now ack ecnCounts packets (countedBytes packets)
      largest utilized
  set before := (c.settleAcked space ack).beforeLosses space now ack ecnCounts packets largest
  have kept : before.ledger = (c.settleAcked space ack).ledger :=
    ledger_of_view (view_beforeLosses _ space now ack ecnCounts packets largest)
  set lost := (before.lossCheck space largestAcknowledged rttSample now).declaresLost with lostDef
  have lostBytes := removeAckDrivenLosses_lostBytes before space largestAcknowledged rttSample now
  have losses := ledger_removeAckDrivenLosses before space largestAcknowledged rttSample now
  rw [← lostDef, kept, ledger_settleAcked] at lostBytes losses
  have refreshed : ∀ t : Connection, t.refreshSendDataAckedStates.ledger = t.ledger := fun _ => rfl
  refine ⟨lost, ?_⟩
  rw [applied, ledger_recoverFromAck, ledger_confirmKeyUpdate, refreshed, losses, lostBytes, bytes]
  simp only [apply, Bool.true_and, Ledger.modify, Ledger.note, leave_leave,
    Function.update_idem, Function.update_self]
  rfl

theorem largestPacket_eq_none {packets : List SentPacket} (none : largestPacket packets = none) : packets = [] := by
  rcases packets.eq_nil_or_concat with empty | ⟨front, last, rfl⟩
  · exact empty
  · rw [largestPacket, List.concat_eq_append, List.foldl_append] at none
    simp only [List.foldl_cons, List.foldl_nil] at none
    split at none
    · cases none
    · split at none <;> cases none

theorem applyAck_sends : Sends rule c (c.applyAck space now ack ecnCounts) := by
  have settled : countedBytes ((c.packetNumberSpace space).acknowledgedBy ack) = 0 →
      Sends rule c (c.settleAcked space ack) := by
    intro empty
    refine ⟨settleAcked_streams c space ack, .of_eq (.acknowledges space
      (fun p => ackFrameContains ack p.packetNumber) false) trivial ?_⟩
    rw [ledger_settleAcked]
    have same : (c.ledger.space space).drop (fun p => ackFrameContains ack p.packetNumber) =
        (c.ledger.space space).leave fun p => ackFrameContains ack p.packetNumber := by
      rw [leave_eq]
      exact (congrArg (fun bytes => ((c.ledger.space space).drop
        fun p => ackFrameContains ack p.packetNumber).release bytes) empty).symm
    rw [Ledger.modify_congr (g := (·.leave fun p => ackFrameContains ack p.packetNumber)) same]
    rfl
  simp only [applyAck]
  split
  · rename_i none
    exact settled (by rw [largestPacket_eq_none none]; rfl)
  · split
    · rename_i empty
      exact settled empty
    · obtain ⟨lost, books⟩ := ledger_applyNewlyAcked c space now ack ecnCounts _ _
      exact ⟨(settleAcked_streams c space ack).trans (applyNewlyAcked_streams _ space now ack _ _ _ _ _),
        (LedgerSteps.one (.acknowledges space _ true) trivial).trans
          (.of_eq (.loses space lost) trivial books)⟩

theorem expireLossDetectionTimeoutInSpace_sends : Sends rule c (c.expireLossDetectionTimeoutInSpace space now) := by
  simp only [expireLossDetectionTimeoutInSpace]
  split
  · exact .refl c
  · split
    · exact .refl c
    · split
      · refine .of_view (view_modifySpace c space _ ?_)
        exact fun _ => rfl
      · rename_i largestAcknowledged _
        have streams := removeAckDrivenLosses_streams c space largestAcknowledged none now
        have books := ledger_removeAckDrivenLosses c space largestAcknowledged none now
        have counted := removeAckDrivenLosses_lostBytes c space largestAcknowledged none now
        set losses := c.removeAckDrivenLosses space largestAcknowledged none now
        refine Sends.view ⟨?_, .of_eq (.loses space (c.lossCheck space largestAcknowledged none
          now).declaresLost) trivial ?_⟩ (view_refreshAntiDeadlockPtoTimer _ space now)
        · refine streams.view ?_
          simp only [apply_ite streamView, streamView_modifyRecovery, ite_self,
            streamView_of_view (view_armCongestionProbeIfPendingData _ space)]
        · have kept : ∀ t : Connection, ∀ b : Bool, (if b then
              t.modifyRecovery space Recovery.onPersistentCongestion else t).ledger = t.ledger := by
            intro t b
            split
            · exact ledger_of_view (view_modifyRecovery t space _ fun _ => rfl)
            · rfl
          have probed : ∀ t : Connection, ∀ b : Bool,
              (if b then t.armCongestionProbeIfPendingData space else t).ledger = t.ledger := by
            intro t b
            split
            · exact ledger_of_view (view_armCongestionProbeIfPendingData t space)
            · rfl
          have released : (losses.2.ledger.modify space (·.release losses.1.lostBytes)) =
              (loses space (c.lossCheck space largestAcknowledged none now).declaresLost).apply c.ledger := by
            rw [books, counted]
            simp only [apply, Ledger.modify, Ledger.note, Function.update_idem, Function.update_self]
            rfl
          rw [← released]
          split
          · rename_i none
            rw [none]
            exact (Ledger.modify_id _ space).symm
          · rw [kept, probed]
            exact ledger_modifyRecovery _ space _ _ fun r => by simp

theorem expireLossDetectionTimeouts_sends : Sends rule c (c.expireLossDetectionTimeouts now) :=
  ((expireLossDetectionTimeoutInSpace_sends c .initial now).trans
    (expireLossDetectionTimeoutInSpace_sends _ .handshake now)).trans
    (expireLossDetectionTimeoutInSpace_sends _ .application now)

variable {c t : Connection}

theorem queuePtoControlRetransmission_sends (queued : c.queuePtoControlRetransmission = some t) : Sends rule c t := by
  obtain ⟨packet, _, found⟩ := List.exists_of_findSome?_eq_some queued
  split at found
  · split at found
    · cases found
    · cases found
      exact .of_view rfl
  · obtain ⟨stop, _, rfl⟩ := Option.map_eq_some_iff.mp found
    exact .of_view rfl

theorem queuePtoStreamRetransmission_sends (queued : c.queuePtoStreamRetransmission = some t) : Sends rule c t := by
  have moves := queuePtoStreamRetransmission_moves queued
  obtain ⟨frame, _, rfl⟩ := Option.map_eq_some_iff.mp queued
  exact ⟨⟨rfl, moves⟩, .refl _⟩

theorem queuePtoRetransmission_sends {space : PacketNumberSpace}
    (queued : c.queuePtoRetransmission space = some t) : Sends rule c t := by
  unfold queuePtoRetransmission at queued
  split at queued
  · cases queued
    exact .of_view (view_modifySpace c space _ fun _ => rfl)
  · split at queued
    · cases queued
    · rcases Option.or_eq_some_iff.mp queued with control | ⟨_, stream⟩
      · exact queuePtoControlRetransmission_sends control
      · exact queuePtoStreamRetransmission_sends stream

end Quicz
