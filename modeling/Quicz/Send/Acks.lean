import Quicz.Send.Poll

/-! Acknowledgements, loss detection and the probe timeout. An ACK takes packets out of a
space and tells the streams; packets found lost, by an ACK or by the loss timer, give their
frames back to the front of the queues; a probe timeout copies a frame that is still in
flight to the end of its queue. -/
namespace Quicz

open Chunks Proc SentPacket

variable (c : Connection) (space : PacketNumberSpace)

variable (streamId : Nat)

def Connection.markSendStream (mark : SendStreamState → SendStreamState) : Connection :=
  { c with sendStreams := Keyed.adjust SendStreamState.streamId streamId mark c.sendStreams }

def Connection.markStreamFrameAcked (pending : PendingStreamFrame) : Connection :=
  let marked := if pending.fin then
    c.markSendStream pending.streamId fun stream => { stream with finAcked := true } else c
  { marked with ackedStreamFrames := marked.ackedStreamFrames ++ [pending] }

def Connection.markSentPacketAckedOnStreams (packet : SentPacket) : Connection :=
  let c := match packet.streamFrame with
    | none => c
    | some pending => c.markStreamFrameAcked pending
  match packet.resetStreamFrame with
  | none => c
  | some reset => c.markSendStream reset.streamId fun stream => { stream with resetAcked := true }

def PacketNumberSpaceState.acknowledgedBy (s : PacketNumberSpaceState) (ack : AckFrame) : List SentPacket :=
  s.sentPackets.filter fun packet => ackFrameContains ack packet.packetNumber

def Connection.settleAcked (space : PacketNumberSpace) (ack : AckFrame) : Connection :=
  let acked := (c.packetNumberSpace space).acknowledgedBy ack
  let removed := c.modifySpace space fun s =>
    { s with sentPackets := s.sentPackets.filter fun p => !ackFrameContains ack p.packetNumber }
  (acked.foldl Connection.markSentPacketAckedOnStreams removed).note
    (.acknowledged space (acked.map packetNumber))

def streamHasFrame (frames : List PendingStreamFrame) : Bool :=
  frames.any fun pending => pending.streamId == streamId

def Connection.streamHasQueuedSendData : Bool :=
  streamHasFrame streamId c.sendQueue

def Connection.streamHasOutstandingSendData : Bool :=
  streamHasFrame streamId c.outstandingStreamFrames

def Connection.refreshSendDataAckedStates : Connection :=
  { c with sendStreams := c.sendStreams.map fun stream =>
      if !stream.finAcked || stream.resetSent then stream
      else { stream with dataAcked :=
        !c.streamHasQueuedSendData stream.streamId && !c.streamHasOutstandingSendData stream.streamId } }

structure LossDetectionResult where
  lostBytes : Nat := 0
  pcCandidateCount : Nat := 0
  pcFirstPacketNumber : Nat := 0
  pcLastPacketNumber : Nat := 0
  pcFirstSentTimeNanos : Int := 0
  pcLastSentTimeNanos : Int := 0
  pcContiguousPacketNumbers : Bool := true
  largestLostSentTimeNanos : Option Int := none
  largestLostPacketNumber : Option Nat := none

def LossDetectionResult.recordLostPacket (firstRttSampleSentTimeNanos : Option Int)
    (r : LossDetectionResult) (packet : SentPacket) : LossDetectionResult :=
  let r := { r with
    lostBytes := saturatingAddU64 r.lostBytes packet.bytes
    largestLostSentTimeNanos :=
      some (max (r.largestLostSentTimeNanos.getD packet.sentTimeNanos) packet.sentTimeNanos)
    largestLostPacketNumber :=
      some (max (r.largestLostPacketNumber.getD packet.packetNumber) packet.packetNumber) }
  match firstRttSampleSentTimeNanos with
  | none => r
  | some firstSent =>
    if packet.sentTimeNanos ≤ firstSent then r
    else if r.pcCandidateCount = 0 then
      { r with
        pcFirstPacketNumber := packet.packetNumber
        pcLastPacketNumber := packet.packetNumber
        pcFirstSentTimeNanos := packet.sentTimeNanos
        pcLastSentTimeNanos := packet.sentTimeNanos
        pcCandidateCount := 1 }
    else
      { r with
        pcContiguousPacketNumbers := r.pcContiguousPacketNumbers &&
          packet.packetNumber == saturatingAddU64 r.pcLastPacketNumber 1
        pcLastPacketNumber := packet.packetNumber
        pcLastSentTimeNanos := packet.sentTimeNanos
        pcCandidateCount := r.pcCandidateCount + 1 }

def LossDetectionResult.persistentCongestionEstablished (r : LossDetectionResult)
    (space : PacketNumberSpace) (recovery : Recovery) : Bool :=
  if r.pcCandidateCount < 2 ∨ !r.pcContiguousPacketNumbers then false
  else
    let duration := match space with
      | .initial | .handshake => recovery.persistentCongestionDurationWithoutMaxAckDelay
      | .application => recovery.persistentCongestionDuration
    decide (elapsed r.pcFirstSentTimeNanos r.pcLastSentTimeNanos ≥ duration)

structure LossCheck where
  largestAcknowledged : Nat
  lossDelayNs : Nat
  nowNanos : Int

def LossCheck.declaresLost (check : LossCheck) (packet : SentPacket) : Bool :=
  decide (packet.packetNumber ≤ check.largestAcknowledged) &&
    (decide (check.largestAcknowledged ≥ saturatingAddU64 packet.packetNumber packetThresholdLossGap) ||
      decide (packet.sentTimeNanos + check.lossDelayNs ≤ check.nowNanos))

def LossCheck.nextDeadline (check : LossCheck) (packets : List SentPacket) : Option Int :=
  ((packets.filter fun packet =>
      decide (packet.packetNumber ≤ check.largestAcknowledged) && !check.declaresLost packet).map
    fun packet => packet.sentTimeNanos + (check.lossDelayNs : Int)).min?

def Connection.resetStreamFrameAlreadyAcked (reset : ResetStreamFrame) : Bool :=
  (c.findSendStream reset.streamId).any SendStreamState.resetAcked

/- A lost packet with data of a reset stream gives nothing back, and one with an acknowledged
RESET_STREAM gives back what comes before that frame in the loop. -/
variable (packet : SentPacket)

def Connection.retransmits : Bool :=
  !packet.streamFrame.any fun pending => c.streamIsReset pending.streamId

def Connection.retransmitsControl : Bool :=
  c.retransmits packet && !packet.resetStreamFrame.any c.resetStreamFrameAlreadyAcked

def Connection.requeueLost (lost : List SentPacket) : Connection :=
  let control := lost.filter c.retransmitsControl
  let data := lost.filter c.retransmits
  { c.modifySpace space fun s =>
      { s with cryptoSendQueue := data.filterMap cryptoFrame ++ s.cryptoSendQueue } with
    pendingResetStreams := control.filterMap resetStreamFrame ++ c.pendingResetStreams
    pendingStopSending := control.filterMap stopSendingFrame ++ c.pendingStopSending
    sendQueue := data.filterMap streamFrame ++ c.sendQueue }

variable (largestAcknowledged : Nat) (latestRttSample : Option Nat) (nowNanos : Int)

def Connection.lossCheck : LossCheck where
  largestAcknowledged := largestAcknowledged
  lossDelayNs := timeThresholdLossDelayNs (some (latestRttSample.getD 0))
    (c.packetNumberSpace space).recoveryState.smoothedRttNs
  nowNanos := nowNanos

def Connection.removeAckDrivenLosses : LossDetectionResult × Connection :=
  let check := c.lossCheck space largestAcknowledged latestRttSample nowNanos
  let s := c.packetNumberSpace space
  let lost := s.sentPackets.filter check.declaresLost
  let removed := (c.requeueLost space lost).modifySpace space fun s =>
    { s with
      lossDeadlineNanos := check.nextDeadline s.sentPackets
      sentPackets := s.sentPackets.filter (!check.declaresLost ·) }
  (lost.foldl (LossDetectionResult.recordLostPacket s.firstRttSampleSentTimeNanos) {},
    removed.note (.lost space (lost.map packetNumber)))

namespace Connection

def modifyRecovery (f : Recovery → Recovery) : Connection :=
  c.modifySpace space fun s => { s with recoveryState := f s.recoveryState }

def recoveryOf : Recovery :=
  (c.packetNumberSpace space).recoveryState

def scaledPeerAckDelay (ackDelay : Nat) : Nat :=
  saturatingMulU64 ackDelay (2 ^ c.peerAckDelayExponent)

def ackDelayForRtt (ackDelay : Nat) : Nat :=
  if space ≠ .application then 0
  else
    let scaledAckDelayNs := c.scaledPeerAckDelay ackDelay * 1000
    if !c.handshakeConfirmed then scaledAckDelayNs
    else min scaledAckDelayNs c.applicationPacketSpace.recoveryState.maxAckDelayNs

def modifySpaces (f : PacketNumberSpaceState → PacketNumberSpaceState) : Connection :=
  let change (s : PacketNumberSpaceState) : PacketNumberSpaceState := if s.discarded then s else f s
  { c with
    initialPacketSpace := change c.initialPacketSpace
    handshakePacketSpace := change c.handshakePacketSpace
    applicationPacketSpace := change c.applicationPacketSpace }

def rememberFirstRttSampleSentTime (sentTimeNanos : Int) : Connection :=
  c.modifySpaces fun s => { s with
    firstRttSampleSentTimeNanos := some (s.firstRttSampleSentTimeNanos.getD sentTimeNanos) }

/- The source space keeps its own estimates: copying them onto itself changes nothing. -/
def syncRttEstimatesFromSpace (source : PacketNumberSpace) : Connection :=
  let r := c.recoveryOf source
  c.modifySpaces fun s => { s with recoveryState := { s.recoveryState with
    latestRttNs := r.latestRttNs
    minRttNs := r.minRttNs
    smoothedRttNs := r.smoothedRttNs
    rttvarNs := r.rttvarNs } }

def ackShouldResetPtoBackoff : Bool :=
  !(c.side == .client && space == .initial)

def restorePtoBackoff (c snapshot : Connection) : Connection :=
  let restore (s t : PacketNumberSpaceState) : PacketNumberSpaceState :=
    { s with recoveryState := { s.recoveryState with ptoCount := t.recoveryState.ptoCount } }
  { c with
    initialPacketSpace := restore c.initialPacketSpace snapshot.initialPacketSpace
    handshakePacketSpace := restore c.handshakePacketSpace snapshot.handshakePacketSpace
    applicationPacketSpace := restore c.applicationPacketSpace snapshot.applicationPacketSpace }

def hasQueuedCryptoOrPing : Bool :=
  (c.packetNumberSpace space).cryptoSendQueue ≠ [] || (c.packetNumberSpace space).pendingPingCount != 0

/-- The Application queues whose frames never become obsolete. -/
def hasPendingApplicationControl : Bool :=
  c.pendingPathResponses ≠ [] || c.pendingResetStreams ≠ [] || c.pendingRetireConnectionIds ≠ [] ||
    c.pendingHandshakeDone || c.pendingNewConnectionIdCount != 0 || c.pendingNewTokens ≠ [] ||
    c.pendingPathChallenges ≠ []

def hasQueuedAckElicitingDataInSpace : Bool :=
  c.hasQueuedCryptoOrPing space ||
    (space == .application && (c.hasPendingApplicationControl || c.pendingStopSending ≠ [] ||
      c.pendingMaxFrames ≠ [] || c.pendingBlockedFrames ≠ [] || c.sendQueue ≠ []))

def armCongestionProbeIfPendingData : Connection :=
  if c.hasQueuedAckElicitingDataInSpace space then c.armCongestionProbeInSpace space else c

def antiDeadlockPtoSpace : Option PacketNumberSpace :=
  if c.side = .server ∨ c.handshakeConfirmed ∨ c.totalBytesInFlight ≠ 0 then none
  else if c.localHandshakeKeys.isSome ∧ !c.handshakePacketSpace.discarded then
    if !c.hasQueuedCryptoOrPing .handshake then some .handshake else none
  else if !c.initialPacketSpace.discarded ∧ !c.hasQueuedCryptoOrPing .initial then some .initial
  else none

def refreshAntiDeadlockPtoTimer (trigger : PacketNumberSpace) (nowNanos : Int) : Connection :=
  if c.antiDeadlockPtoSpace.isNone then { c with antiDeadlockPtoStartNanos := none }
  else if trigger = .application ∧ c.antiDeadlockPtoStartNanos.isNone then c
  else { c with antiDeadlockPtoStartNanos := some (c.antiDeadlockPtoStartNanos.getD nowNanos) }

end Connection

variable (s : PacketNumberSpaceState)

def PacketNumberSpaceState.ecnCountsFail (counts : EcnCounts) (newlyAckedEct0 newlyAckedEct1 : Nat) : Bool :=
  let previous := s.ecnCounts
  let ceIncrease := counts.ecnCeCount - previous.ecnCeCount
  decide (counts.ect0Count > s.ecnSentEct0) || decide (counts.ect1Count > s.ecnSentEct1) ||
    decide (counts.ecnCeCount > saturatingAddU64 s.ecnSentEct0 s.ecnSentEct1) ||
    decide (counts.ect0Count < previous.ect0Count) ||
    decide (counts.ect1Count < previous.ect1Count) ||
    decide (counts.ecnCeCount < previous.ecnCeCount) ||
    decide (saturatingAddU64 (counts.ect0Count - previous.ect0Count) ceIncrease < newlyAckedEct0) ||
    decide (saturatingAddU64 (counts.ect1Count - previous.ect1Count) ceIncrease < newlyAckedEct1)

/-- Whether the frame reports a new CE mark, and the space after the check. -/
def PacketNumberSpaceState.validateEcnAck (largestAcknowledged : Nat)
    (newlyAckedEct0 newlyAckedEct1 : Nat) (ecnCounts : Option EcnCounts) : Bool × PacketNumberSpaceState :=
  if s.ecnValidationState = .failed ∨ s.ecnLargestAcknowledged.any (largestAcknowledged ≤ ·) then
    (false, s)
  else
    let failed := { s with ecnValidationState := .failed }
    match ecnCounts with
    | none => if newlyAckedEct0 ≠ 0 ∨ newlyAckedEct1 ≠ 0 then (false, failed) else (false, s)
    | some counts =>
      if s.ecnCountsFail counts newlyAckedEct0 newlyAckedEct1 then (false, failed)
      else
        (decide (counts.ecnCeCount - s.ecnCounts.ecnCeCount ≠ 0), { s with
            ecnCounts := counts
            ecnLargestAcknowledged := some largestAcknowledged
            ecnValidationState :=
              if newlyAckedEct0 ≠ 0 ∨ newlyAckedEct1 ≠ 0 then .capable else s.ecnValidationState })

structure AckedPackets where
  bytes : Nat
  largest : SentPacket
  rttSample : Option Nat
  windowUtilized : Bool
  ceMarked : Bool

def largestPacket (packets : List SentPacket) : Option SentPacket :=
  packets.foldl (fun largest packet =>
    match largest with
    | none => some packet
    | some current => if packet.packetNumber > current.packetNumber then some packet else some current)
    none

def countEcn (codepoint : EcnCodepoint) (packets : List SentPacket) : Nat :=
  (packets.filter fun packet => packet.ecnCodepoint = codepoint).length

variable (ack : AckFrame)

/-- The part of an ACK that only concerns congestion control and the timers. -/
def Connection.recoverFromAck (acked : AckedPackets) (loss : LossDetectionResult) : Connection :=
  let sentTime := acked.largest.sentTimeNanos
  let ceProbe := acked.ceMarked && (c.recoveryOf space).wouldStartCongestionRecovery sentTime
  let c := if acked.ceMarked then
    c.modifyRecovery space (·.onCongestionEvent sentTime nowNanos) else c
  let persistent := loss.persistentCongestionEstablished space (c.recoveryOf space)
  let lostSentTime := loss.largestLostSentTimeNanos.getD 0
  let lossProbe := loss.lostBytes != 0 &&
    (c.recoveryOf space).wouldStartCongestionRecovery lostSentTime
  let c := if loss.lostBytes ≠ 0 then
    c.modifyRecovery space
      (·.onPacketLostWithNumber loss.lostBytes lostSentTime nowNanos loss.largestLostPacketNumber)
    else c
  let c := if ceProbe || lossProbe then c.armCongestionProbeIfPendingData space else c
  let c := c.modifyRecovery space (·.notifyLargestAcked ack.largestAcknowledged)
  let beforeAck := c
  let c := match acked.rttSample with
    | some sample =>
      (c.modifyRecovery space fun r => r.onPacketAckedWithUtilization acked.bytes sentTime sample
        (c.ackDelayForRtt space ack.ackDelay) acked.windowUtilized).syncRttEstimatesFromSpace space
    | none => c.modifyRecovery space
        (·.onPacketAckedWithoutRttSample acked.bytes sentTime acked.windowUtilized)
  let c := if c.ackShouldResetPtoBackoff space then c.resetConnectionPtoBackoff
    else c.restorePtoBackoff beforeAck
  let c := if persistent then
      let c := c.modifyRecovery space (·.onPersistentCongestionWithRttSample acked.rttSample)
      if acked.rttSample.isSome then c.syncRttEstimatesFromSpace space else c
    else c
  c.refreshAntiDeadlockPtoTimer space nowNanos

/-- An acknowledged packet of the generation a local key update began confirms the update. -/
def Connection.confirmKeyUpdate (packets : List SentPacket) : Connection :=
  if space = .application ∧ c.localOneRttKeyUpdateAckThreshold.any fun threshold =>
      packets.any fun packet => decide (packet.packetNumber ≥ threshold) then
    { c with localOneRttKeyUpdateAckThreshold := none }
  else c

variable (ecnCounts : Option EcnCounts)

def Connection.applyNewlyAcked (packets : List SentPacket)
    (bytes : Nat) (largest : SentPacket) (utilized : Bool) : Connection :=
  let ecn := (c.packetNumberSpace space).validateEcnAck ack.largestAcknowledged
    (countEcn .ect0 packets) (countEcn .ect1 packets) ecnCounts
  let c := c.modifySpace space fun _ => ecn.2
  let rttSample := if largest.packetNumber = ack.largestAcknowledged then
    some (elapsed largest.sentTimeNanos nowNanos) else none
  let c := if rttSample.isSome then c.rememberFirstRttSampleSentTime largest.sentTimeNanos else c
  let largestAcknowledged :=
    max ((c.packetNumberSpace space).largestAcknowledged.getD ack.largestAcknowledged)
      ack.largestAcknowledged
  let c := c.modifySpace space fun s => { s with largestAcknowledged := some largestAcknowledged }
  let losses := c.removeAckDrivenLosses space largestAcknowledged rttSample nowNanos
  (losses.2.refreshSendDataAckedStates.confirmKeyUpdate space packets).recoverFromAck space nowNanos ack
    ⟨bytes, largest, rttSample, utilized, ecn.1⟩ losses.1

def Connection.applyAck : Connection :=
  let packets := (c.packetNumberSpace space).acknowledgedBy ack
  let bytes := packets.foldl (fun total packet => saturatingAddU64 total packet.bytes) 0
  let settled := c.settleAcked space ack
  match largestPacket packets with
  | none => settled
  | some largest =>
    if bytes = 0 then settled
    else settled.applyNewlyAcked space nowNanos ack ecnCounts packets bytes largest
      (c.recoveryOf space).isCongestionWindowUtilized

def receiveAckFrame : ConnM Unit := do
  let s := (← get).packetNumberSpace space
  failIf s.discarded .invalidPacket
  failIf (ack.largestAcknowledged ≥ s.nextPacketNumber) .invalidPacket
  failIf (!ackFrameRangesAreValid ack) .invalidPacket
  modify fun c => c.applyAck space nowNanos ack ecnCounts

def receiveAckInSpace : ConnM Unit := do
  requireActive
  receiveAckFrame space nowNanos ack ecnCounts

def Connection.expireLossDetectionTimeoutInSpace (c : Connection) (space : PacketNumberSpace)
    (nowNanos : Int) : Connection :=
  let s := c.packetNumberSpace space
  match s.lossDeadlineNanos with
  | none => c
  | some deadline =>
    if deadline > nowNanos then c
    else
      match s.largestAcknowledged with
      | none => c.modifySpace space fun s => { s with lossDeadlineNanos := none }
      | some largestAcknowledged =>
        let losses := c.removeAckDrivenLosses space largestAcknowledged none nowNanos
        let c := losses.2
        let c := if losses.1.lostBytes = 0 then c
          else
            let sentTime := losses.1.largestLostSentTimeNanos.getD 0
            let probe := (c.recoveryOf space).wouldStartCongestionRecovery sentTime
            let c := c.modifyRecovery space (·.onPacketLostWithNumber losses.1.lostBytes sentTime
              nowNanos losses.1.largestLostPacketNumber)
            let c := if probe then c.armCongestionProbeIfPendingData space else c
            if losses.1.persistentCongestionEstablished space (c.recoveryOf space) then
              c.modifyRecovery space Recovery.onPersistentCongestion
            else c
        c.refreshAntiDeadlockPtoTimer space nowNanos

def Connection.expireLossDetectionTimeouts (c : Connection) (nowNanos : Int) : Connection :=
  ((c.expireLossDetectionTimeoutInSpace .initial nowNanos)
    |>.expireLossDetectionTimeoutInSpace .handshake nowNanos)
    |>.expireLossDetectionTimeoutInSpace .application nowNanos

def checkLossDetectionTimeouts : ConnM Unit := do
  expireState nowNanos
  requireActive
  modify fun c => c.expireLossDetectionTimeouts nowNanos

namespace Connection

def ptoAllowedInSpace : Bool :=
  !c.serverAtAntiAmplificationLimit && (space != .application || c.handshakeConfirmed)

/-- The jitter a deadline draws is not kept: the code computes it on a copy. -/
def ptoDeadlineFromStart (r : Recovery) (startNanos : Int) (includeMaxAckDelay : Bool) (ptoCount : Nat) : Int :=
  saturatingAdd startNanos ({ r with ptoCount }.backedOffPtoNs includeMaxAckDelay).1

def ptoDeadlineFor (s : PacketNumberSpaceState) (includeMaxAckDelay : Bool) (ptoCount : Nat) : Option Int :=
  s.latestSentTime.map fun sent => ptoDeadlineFromStart s.recoveryState sent includeMaxAckDelay ptoCount

def antiDeadlockPtoDeadline (ptoCount : Nat) : Option Int :=
  if c.antiDeadlockPtoSpace ≠ some space then none
  else c.antiDeadlockPtoStartNanos.map fun start =>
    ptoDeadlineFromStart (c.recoveryOf space) start false ptoCount

def ptoDeadline : Option Int :=
  if !c.ptoAllowedInSpace space then none
  else
    let ptoCount := c.connectionPtoBackoffCount
    match space with
    | .application => ptoDeadlineFor c.applicationPacketSpace true ptoCount
    | space => (ptoDeadlineFor (c.packetNumberSpace space) false ptoCount).or
        (c.antiDeadlockPtoDeadline space ptoCount)

inductive LossDetectionTimerKind
  | lossTime | pto
deriving DecidableEq, Repr

structure LossDetectionTimerDeadline where
  space : PacketNumberSpace
  kind : LossDetectionTimerKind
  deadlineNanos : Int
deriving DecidableEq, Repr

def allSpaces : List PacketNumberSpace := [.initial, .handshake, .application]

def earliestDeadline (deadline : PacketNumberSpace → Option Int) : Option (PacketNumberSpace × Int) :=
  allSpaces.foldl (fun best space =>
    match deadline space, best with
    | none, best => best
    | some d, none => some (space, d)
    | some d, some (other, e) => if d < e then some (space, d) else some (other, e)) none

def lossDetectionTimerDeadline : Option LossDetectionTimerDeadline :=
  if c.isClosingOrClosed then none
  else
    match earliestDeadline fun space => (c.packetNumberSpace space).lossDeadlineNanos with
    | some (space, deadline) => some ⟨space, .lossTime, deadline⟩
    | none => (earliestDeadline c.ptoDeadline).map fun d => ⟨d.1, .pto, d.2⟩

/-- The probe timeout that has passed, the earliest one first. -/
def earliestDuePto : Option (PacketNumberSpace × Int) :=
  earliestDeadline fun space => (c.ptoDeadline space).filter (· ≤ nowNanos)

/-- Drops what is obsolete until a queue with something to send is found. -/
def hasPendingAckElicitingDataInSpace : Bool × Connection :=
  if c.hasQueuedCryptoOrPing space then (true, c)
  else if space ≠ .application then (false, c)
  else if c.hasPendingApplicationControl then (true, c)
  else
    let c := c.dropObsoleteStopSendingFrames
    if c.pendingStopSending ≠ [] then (true, c)
    else
      let c := c.dropObsoleteMaxFrames
      if c.pendingMaxFrames ≠ [] then (true, c)
      else
        let c := c.dropObsoleteBlockedFrames
        if c.pendingBlockedFrames ≠ [] then (true, c)
        else
          let c := c.dropResetClosedStreamFrames
          (decide (c.sendQueue ≠ []), c)

def ptoCryptoFrame : Option PendingCryptoFrame :=
  (c.packetNumberSpace space).sentPackets.findSome? cryptoFrame

def queuePtoControlRetransmission : Option Connection :=
  c.applicationPacketSpace.sentPackets.findSome? fun packet =>
    match packet.resetStreamFrame with
    | some reset =>
      -- an acknowledged RESET_STREAM ends the packet's turn before its STOP_SENDING
      if c.resetStreamFrameAlreadyAcked reset then none
      else some { c with pendingResetStreams := c.pendingResetStreams ++ [reset] }
    | none => packet.stopSendingFrame.map fun stop =>
      { c with pendingStopSending := c.pendingStopSending ++ [stop] }

def queuePtoStreamRetransmission : Option Connection :=
  (c.applicationPacketSpace.sentPackets.findSome? streamFrame).map fun pending =>
    { c with sendQueue := c.sendQueue ++ [pending] }

/-- The probe made of data in flight: CRYPTO first, then stream control, then STREAM data. -/
def queuePtoRetransmission : Option Connection :=
  match c.ptoCryptoFrame space with
  | some pending => some (c.modifySpace space fun s =>
      { s with cryptoSendQueue := s.cryptoSendQueue ++ [pending] })
  | none =>
    if space ≠ .application then none
    else c.queuePtoControlRetransmission.or c.queuePtoStreamRetransmission

end Connection

def queuePingInSpace : ConnM Unit := do
  let s := (← get).packetNumberSpace space
  failIf s.discarded .invalidPacket
  failIf (s.pendingPingCount + 1 > maxU64) .internal
  modify fun c => c.modifySpace space fun s => { s with pendingPingCount := s.pendingPingCount + 1 }

def queuePtoProbeInSpace : ConnM Unit := do
  if !(← get).ptoAllowedInSpace space then pure ()
  else
    let pending := (← get).hasPendingAckElicitingDataInSpace space
    set pending.2
    if pending.1 then modify fun c => c.armPtoProbeInSpace space
    else
      match pending.2.queuePtoRetransmission space with
      | some queued => set (queued.armPtoProbeInSpace space)
      | none =>
        queuePingInSpace space
        modify fun c => c.armPtoProbeInSpace space

def checkPtoTimeoutInSpace : ConnM Unit := do
  if ((← get).packetNumberSpace space).discarded then pure ()
  else
    queuePtoProbeInSpace space
    modify Connection.increaseConnectionPtoBackoff

def queuePtoPeerSpaceProbes (expired : PacketNumberSpace) : ConnM Unit :=
  Connection.allSpaces.forM fun space => do
    let c ← get
    if space = expired ∨ !c.ptoAllowedInSpace space ∨ (c.packetNumberSpace space).discarded ∨
        (c.packetNumberSpace space).sentPackets = [] then pure ()
    else queuePtoProbeInSpace space

def checkPtoTimeouts : ConnM Unit := do
  expireState nowNanos
  requireActive
  modify fun c => c.discardExpiredOneRttKeys nowNanos
  modify fun c => c.expireLossDetectionTimeouts nowNanos
  match (← get).earliestDuePto nowNanos with
  | none => pure ()
  | some due =>
    checkPtoTimeoutInSpace due.1
    queuePtoPeerSpaceProbes due.1

def serviceLossDetectionTimer : ConnM (Option Connection.LossDetectionTimerDeadline) := do
  match (← get).lossDetectionTimerDeadline with
  | none => pure none
  | some deadline =>
    if deadline.deadlineNanos > nowNanos then pure none
    else
      match deadline.kind with
      | .lossTime => checkLossDetectionTimeouts nowNanos
      | .pto => checkPtoTimeouts nowNanos
      pure (some deadline)

end Quicz
