import Quicz.Control
import Quicz.Ledger
import Quicz.Send.Machine

/-! The part of the connection the streams live in, its ledger, and what leaves them alone.
Most of the connection's state (timers, probes, congestion control, path validation,
connection IDs) touches neither a stream nor the books. -/
namespace Quicz

open Proc Connection

variable (c : Connection) (space : PacketNumberSpace)

structure SendView where
  side : ConnectionSide
  nextStreamId : Nat
  nextUniStreamId : Nat
  streams : List SendStreamState
  queue : List PendingStreamFrame
  acked : List PendingStreamFrame
  initialSent : List SentPacket
  handshakeSent : List SentPacket
  applicationSent : List SentPacket

def Connection.sendView (c : Connection) : SendView where
  side := c.side
  nextStreamId := c.nextStreamId
  nextUniStreamId := c.nextUniStreamId
  streams := c.sendStreams
  queue := c.sendQueue
  acked := c.ackedStreamFrames
  initialSent := c.initialPacketSpace.sentPackets
  handshakeSent := c.handshakePacketSpace.sentPackets
  applicationSent := c.applicationPacketSpace.sentPackets

structure StreamView where
  recv : RecvPart
  send : SendView

def Connection.streamView (c : Connection) : StreamView := ⟨c.recvPart, c.sendView⟩

structure View where
  streams : StreamView
  ledger : Ledger

def Connection.view (c : Connection) : View := ⟨c.streamView, c.ledger⟩

section Parts
variable {c t : Connection}

theorem view_ext (streams : t.streamView = c.streamView) (ledger : t.ledger = c.ledger) : t.view = c.view := by
  simp only [view, streams, ledger]

theorem streamView_of_view (h : t.view = c.view) : t.streamView = c.streamView :=
  congrArg View.streams h

theorem ledger_of_view (h : t.view = c.view) : t.ledger = c.ledger := congrArg View.ledger h

theorem recvPart_of_view (h : t.streamView = c.streamView) : t.recvPart = c.recvPart :=
  congrArg StreamView.recv h

theorem sendView_of_view (h : t.streamView = c.streamView) : t.sendView = c.sendView :=
  congrArg StreamView.send h

end Parts

variable (f : PacketNumberSpaceState → PacketNumberSpaceState)

@[simp] theorem recvPart_modifySpace : (c.modifySpace space f).recvPart = c.recvPart := by
  cases space <;> rfl

/-- The streams only see which packets are in flight in a space. -/
theorem streamView_modifySpace_at
    (keeps : (f (c.packetNumberSpace space)).sentPackets = (c.packetNumberSpace space).sentPackets) :
    (c.modifySpace space f).streamView = c.streamView := by
  cases space <;>
    simp only [packetNumberSpace] at keeps <;>
    simp [modifySpace, streamView, recvPart, sendView, keeps]

theorem streamView_modifySpace (keeps : ∀ s, (f s).sentPackets = s.sentPackets) :
    (c.modifySpace space f).streamView = c.streamView :=
  streamView_modifySpace_at c space f (keeps _)

theorem view_modifySpace_at (keeps : (f (c.packetNumberSpace space)).ledger = (c.packetNumberSpace space).ledger) :
    (c.modifySpace space f).view = c.view := by
  refine view_ext (streamView_modifySpace_at c space f (congrArg SpaceLedger.sent keeps)) ?_
  exact (ledger_modifySpace_at c space (g := id) keeps).trans (Ledger.modify_id _ space)

theorem view_modifySpace (keeps : ∀ s, (f s).ledger = s.ledger) : (c.modifySpace space f).view = c.view :=
  view_modifySpace_at c space f (keeps _)

theorem view_modifySpaces (keeps : ∀ s, (f s).ledger = s.ledger) : (c.modifySpaces f).view = c.view := by
  have changed : ∀ s : PacketNumberSpaceState, (if s.discarded then s else f s).ledger = s.ledger := by
    intro s
    split
    · rfl
    · exact keeps s
  refine Eq.trans (view_modifySpace (modifySpace (c.modifySpace .initial
    (fun s => if s.discarded then s else f s)) .handshake (fun s => if s.discarded then s else f s))
    .application (fun s => if s.discarded then s else f s) changed) ?_
  refine Eq.trans (view_modifySpace (c.modifySpace .initial (fun s => if s.discarded then s else f s))
    .handshake (fun s => if s.discarded then s else f s) changed) ?_
  exact view_modifySpace c .initial (fun s => if s.discarded then s else f s) changed

variable (now : Int)

theorem view_expireIdleState : (c.expireIdleState now).view = c.view :=
  (expired_keeps c now fun _ => rfl).1

theorem view_expireCloseState : (c.expireCloseState now).view = c.view :=
  (expired_keeps c now fun _ => rfl).2

theorem view_enterClosingState : (c.enterClosingState now).view = c.view := rfl

theorem view_recordPacketActivity : (c.recordPacketActivity now).view = c.view := by
  unfold recordPacketActivity
  split <;> rfl

theorem view_markHandshakeSpaceUsed : (c.markHandshakeSpaceUsed space).view = c.view := by
  unfold markHandshakeSpaceUsed
  split <;> rfl

theorem bytesInFlight_ptoNs (r : Recovery) : r.ptoNs.2.bytesInFlight = r.bytesInFlight := by
  simp only [Recovery.ptoNs, Recovery.backedOffPtoNs, Recovery.basePtoWithJitterNs]
  split <;> rfl

theorem view_expirePathChallenges : (c.expirePathChallenges now).view = c.view := by
  unfold expirePathChallenges
  split
  · rfl
  · have drawn := view_modifySpace c .application
      (fun s => { s with recoveryState := s.recoveryState.ptoNs.2 }) fun s => by
        simp only [PacketNumberSpaceState.ledger, bytesInFlight_ptoNs]
    exact drawn

theorem view_armPtoProbeInSpace : (c.armPtoProbeInSpace space).view = c.view :=
  view_modifySpace c space _ fun s => by split <;> rfl

theorem view_armCongestionProbeInSpace : (c.armCongestionProbeInSpace space).view = c.view :=
  view_modifySpace c space _ fun s => by split <;> rfl

variable (f : Recovery → Recovery)

theorem view_modifyRecovery
    (keeps : ∀ r, (f r).bytesInFlight = r.bytesInFlight) : (c.modifyRecovery space f).view = c.view :=
  view_modifySpace c space _ fun s => by simp only [PacketNumberSpaceState.ledger, keeps]

theorem view_modifyRecoveries
    (keeps : ∀ r, (f r).bytesInFlight = r.bytesInFlight) : (c.modifyRecoveries f).view = c.view :=
  view_modifySpaces c (fun s => { s with recoveryState := f s.recoveryState }) fun s => by
    simp only [PacketNumberSpaceState.ledger, keeps]

theorem view_resetConnectionPtoBackoff : c.resetConnectionPtoBackoff.view = c.view :=
  view_modifyRecoveries c _ fun _ => rfl

theorem view_increaseConnectionPtoBackoff : c.increaseConnectionPtoBackoff.view = c.view :=
  view_modifyRecoveries c _ fun _ => rfl

theorem view_restorePtoBackoff (snapshot : Connection) : (c.restorePtoBackoff snapshot).view = c.view := by
  refine view_ext rfl ?_
  have spaces : (c.restorePtoBackoff snapshot).ledger.space = c.ledger.space := by
    funext space
    cases space <;> rfl
  exact congrArg (fun space => { c.ledger with space }) spaces

theorem view_rememberFirstRttSampleSentTime (sent : Int) : (c.rememberFirstRttSampleSentTime sent).view = c.view :=
  view_modifySpaces c _ fun _ => rfl

theorem view_syncRttEstimatesFromSpace : (c.syncRttEstimatesFromSpace space).view = c.view :=
  view_modifySpaces c _ fun _ => rfl

theorem view_armCongestionProbeIfPendingData : (c.armCongestionProbeIfPendingData space).view = c.view := by
  unfold armCongestionProbeIfPendingData
  split
  · exact view_armCongestionProbeInSpace c space
  · rfl

theorem view_refreshAntiDeadlockPtoTimer : (c.refreshAntiDeadlockPtoTimer space now).view = c.view := by
  unfold refreshAntiDeadlockPtoTimer
  repeat' split
  all_goals rfl

variable (bytes : Nat)

theorem streamView_recordPeerAddressBytesSent : (c.recordPeerAddressBytesSent bytes).streamView = c.streamView := by
  unfold recordPeerAddressBytesSent
  split <;> rfl

theorem ledger_recordPeerAddressBytesSent : (c.recordPeerAddressBytesSent bytes).ledger = c.ledger.spend bytes := by
  have books : c.ledger.limited = c.isAntiAmplificationLimited := rfl
  unfold recordPeerAddressBytesSent Ledger.spend
  by_cases limited : c.isAntiAmplificationLimited = true
  · rw [if_neg (by simp [limited]), if_pos (books.trans limited)]
    rfl
  · rw [if_pos (by simp [limited]), if_neg (books ▸ limited)]

variable (packet : EmittedPacket)

theorem streamView_accountEmitted : (c.accountEmitted packet).streamView = c.streamView :=
  streamView_recordPeerAddressBytesSent c packet.len

theorem ledger_accountEmitted :
    (c.accountEmitted packet).ledger = (c.ledger.spend packet.len).note (.emitted packet) := by
  rw [accountEmitted, ledger_note, ledger_recordPeerAddressBytesSent]

def SpaceLedger.charge (s : SpaceLedger) (bytes : Nat) : SpaceLedger :=
  { s with bytesInFlight := saturatingAddU64 s.bytesInFlight bytes }

theorem streamView_recordAckElicitingSendInSpace :
    (c.recordAckElicitingSendInSpace space bytes).streamView = c.streamView :=
  streamView_modifySpace c space _ fun _ => rfl

theorem ledger_recordAckElicitingSendInSpace :
    (c.recordAckElicitingSendInSpace space bytes).ledger = c.ledger.modify space (·.charge bytes) :=
  ledger_modifySpace c space fun _ => rfl

theorem streamView_accountSend : (c.accountSend packet now).streamView = c.streamView := by
  rw [accountSend, streamView_of_view (view_recordPacketActivity _ now),
    streamView_accountEmitted, streamView_recordAckElicitingSendInSpace]

theorem ledger_accountSend : (c.accountSend packet now).ledger =
      (((c.ledger.modify packet.space (·.charge packet.len)).spend packet.len).note (.emitted packet)) := by
  rw [accountSend, ledger_of_view (view_recordPacketActivity _ now), ledger_accountEmitted,
    ledger_recordAckElicitingSendInSpace]

def SpaceLedger.release (s : SpaceLedger) (bytes : Nat) : SpaceLedger :=
  { s with bytesInFlight := s.bytesInFlight - bytes }

namespace Recovery

variable (r : Recovery) (sent now : Int) (lost : Option Nat)

@[simp] theorem bytesInFlight_onCongestionEventWithPacketNumber :
    (r.onCongestionEventWithPacketNumber sent now lost).bytesInFlight = r.bytesInFlight := by
  unfold onCongestionEventWithPacketNumber
  split
  · rfl
  · simp only
    split <;> rfl

@[simp] theorem bytesInFlight_onPacketLostWithNumber :
    (r.onPacketLostWithNumber bytes sent now lost).bytesInFlight = r.bytesInFlight - bytes := by
  simp [onPacketLostWithNumber, removeBytesInFlight]

@[simp] theorem bytesInFlight_notifyLargestAcked (pn : Nat) :
    (r.notifyLargestAcked pn).bytesInFlight = r.bytesInFlight := by
  unfold notifyLargestAcked
  simp only
  repeat' split
  all_goals rfl

@[simp] theorem bytesInFlight_growCongestionAvoidance (now : Int) :
    (r.growCongestionAvoidance bytes now).bytesInFlight = r.bytesInFlight := by
  unfold growCongestionAvoidance
  split
  · rfl
  · split <;> rfl

@[simp] theorem bytesInFlight_onAckedBytesForCongestion (sent : Int) (utilized : Bool) :
    (r.onAckedBytesForCongestion bytes sent utilized).bytesInFlight = r.bytesInFlight := by
  unfold onAckedBytesForCongestion
  simp only
  repeat' split
  all_goals simp

@[simp] theorem bytesInFlight_updateRtt (latest delay : Nat) :
    (r.updateRtt latest delay).bytesInFlight = r.bytesInFlight := by
  unfold updateRtt
  simp only
  split <;> rfl

@[simp] theorem bytesInFlight_onPacketAckedWithUtilization (sent : Int) (latest delay : Nat) (utilized : Bool) :
    (r.onPacketAckedWithUtilization bytes sent latest delay utilized).bytesInFlight = r.bytesInFlight - bytes := by
  unfold onPacketAckedWithUtilization
  simp only [bytesInFlight_onAckedBytesForCongestion]
  split <;> simp [removeBytesInFlight]

@[simp] theorem bytesInFlight_onPacketAckedWithoutRttSample (sent : Int) (utilized : Bool) :
    (r.onPacketAckedWithoutRttSample bytes sent utilized).bytesInFlight = r.bytesInFlight - bytes := by
  simp [onPacketAckedWithoutRttSample, removeBytesInFlight]

@[simp] theorem bytesInFlight_onPersistentCongestionWithRttSample (latest : Option Nat) :
    (r.onPersistentCongestionWithRttSample latest).bytesInFlight = r.bytesInFlight := by
  unfold onPersistentCongestionWithRttSample
  cases latest <;> rfl

end Recovery

theorem streamView_modifyRecovery : (c.modifyRecovery space f).streamView = c.streamView :=
  streamView_modifySpace c space _ fun _ => rfl

theorem ledger_modifyRecovery (releases : ∀ r, (f r).bytesInFlight = r.bytesInFlight - bytes) :
    (c.modifyRecovery space f).ledger = c.ledger.modify space (·.release bytes) :=
  ledger_modifySpace c space fun s => by
    simp only [PacketNumberSpaceState.ledger, SpaceLedger.release, releases]

end Quicz
