import Quicz.Connection

/-! What every entry point of the connection does besides its own work: the close and idle
timers, the anti-amplification budget, admission of ack-eliciting packets, the PTO backoff
shared by the spaces, and the discarding of the Initial and Handshake spaces. -/
namespace Quicz

open Proc

variable (c : Connection) (space : PacketNumberSpace)

namespace Connection

variable (nowNanos : Int)

def effectiveIdleTimeout : Option Nat :=
  let own := c.config.maxIdleTimeoutMs
  let peer := c.peerMaxIdleTimeoutMs
  if own = 0 ∧ peer = 0 then none
  else if own = 0 then some peer
  else if peer = 0 then some own
  else some (min own peer)

def idleTimeoutDeadline : Option Int := do
  let idleTimeout ← c.effectiveIdleTimeout
  let lastActivity ← c.lastPacketActivityNanos
  return saturatingAdd lastActivity (idleTimeout * nsPerMs)

def closeStateTimeout : Nat :=
  saturatingMulU64 closeStatePtoMultiplier c.applicationPacketSpace.recoveryState.ptoNs.1

def closeStateDeadline : Int :=
  saturatingAdd nowNanos c.closeStateTimeout

def enterClosingState : Connection :=
  { c with
    state := .closing, closeDeadlineNanos := some (c.closeStateDeadline nowNanos), closed := true }

def enterDrainingState : Connection :=
  { c with
    state := .draining, closeDeadlineNanos := some (c.closeStateDeadline nowNanos), closed := true }

def expire : Connection :=
  { c with state := .closed, closeDeadlineNanos := none, closed := true, pendingClose := none }

def expireCloseState : Connection :=
  if c.state ≠ .closing ∧ c.state ≠ .draining then c
  else
    match c.closeDeadlineNanos with
    | none => c
    | some deadline => if nowNanos < deadline then c else c.expire

def expireIdleState : Connection :=
  if c.state ≠ .active ∨ c.pendingClose.isSome then c
  else
    match c.idleTimeoutDeadline with
    | none => c
    | some deadline => if nowNanos < deadline then c else c.expire

theorem expireCloseState_cases : c.expireCloseState nowNanos = c ∨ c.expireCloseState nowNanos = c.expire := by
  unfold expireCloseState
  repeat' split
  all_goals first | exact .inl rfl | exact .inr rfl

theorem expireIdleState_cases : c.expireIdleState nowNanos = c ∨ c.expireIdleState nowNanos = c.expire := by
  unfold expireIdleState
  repeat' split
  all_goals first | exact .inl rfl | exact .inr rfl

/-- What a closed connection keeps, the two timers keep. -/
theorem expired_keeps {α : Type} {f : Connection → α} (keeps : ∀ c : Connection, f c.expire = f c) :
    f (c.expireIdleState nowNanos) = f c ∧ f (c.expireCloseState nowNanos) = f c := by
  constructor
  · rcases expireIdleState_cases c nowNanos with same | ended
    · rw [same]
    · rw [ended, keeps]
  · rcases expireCloseState_cases c nowNanos with same | ended
    · rw [same]
    · rw [ended, keeps]

def recordPacketActivity : Connection :=
  match c.effectiveIdleTimeout with
  | none => c
  | some _ => { c with lastPacketActivityNanos := some nowNanos }

def discardExpiredOneRttKeys : Connection :=
  { c with
    localOneRttKeyPhaseState := c.localOneRttKeyPhaseState.map (·.discardExpiredPrevious nowNanos)
    peerOneRttKeyPhaseState := c.peerOneRttKeyPhaseState.map (·.discardExpiredPrevious nowNanos) }

def isAntiAmplificationLimited : Bool := c.side == .server && !c.peerAddressValidated

def antiAmplificationLimitRemaining : Option Nat :=
  if !c.isAntiAmplificationLimited then none
  else some (saturatingMulU64 c.peerAddressBytesReceived antiAmplificationMultiplier - c.peerAddressBytesSent)

def canSendToPeerAddress (bytes : Nat) : Bool :=
  match c.antiAmplificationLimitRemaining with
  | none => true
  | some remaining => decide (bytes ≤ remaining)

def serverAtAntiAmplificationLimit : Bool :=
  match c.antiAmplificationLimitRemaining with
  | none => false
  | some remaining => remaining == 0

def recordPeerAddressBytesSent (bytes : Nat) : Connection :=
  if !c.isAntiAmplificationLimited then c
  else { c with peerAddressBytesSent := saturatingAddU64 c.peerAddressBytesSent bytes }

def initialPeerStreamDataLimit (streamId : Nat) : Nat :=
  if !isBidirectional streamId then c.peerInitialMaxStreamDataUni
  else if isLocalInitiator c.side streamId then c.peerInitialMaxStreamDataBidiRemote
  else c.peerInitialMaxStreamDataBidiLocal

def totalBytesInFlight : Nat :=
  saturatingAddU64
    (saturatingAddU64 c.initialPacketSpace.recoveryState.bytesInFlight
      c.handshakePacketSpace.recoveryState.bytesInFlight)
    c.applicationPacketSpace.recoveryState.bytesInFlight

variable (bytes : Nat)

def canSendAckElicitingInSpace : Bool :=
  let packetSpace := c.packetNumberSpace space
  match addU64 c.totalBytesInFlight bytes with
  | none => false
  | some afterSend =>
    packetSpace.ptoProbeCount != 0 || packetSpace.congestionProbeCount != 0 ||
      decide (afterSend ≤ packetSpace.recoveryState.congestionWindow)

def ackElicitingSendAllowed : Bool :=
  c.canSendAckElicitingInSpace space bytes && c.canSendToPeerAddress bytes

def armPtoProbeInSpace : Connection :=
  c.modifySpace space fun s => if s.ptoProbeCount = 0 then { s with ptoProbeCount := 1 } else s

def armCongestionProbeInSpace : Connection :=
  c.modifySpace space fun s =>
    if s.congestionProbeCount = 0 then { s with congestionProbeCount := 1 } else s

/- The code stores the Application space's next packet number as the largest one sent,
whichever space the packet belongs to. -/
def recordAckElicitingSendInSpace : Connection :=
  let largest := c.applicationPacketSpace.nextPacketNumber
  let sent := c.modifySpace space fun s =>
    { s with
      recoveryState := { s.recoveryState with largestSentPacketNumber := largest }.onPacketSent bytes
      ptoProbeCount := s.ptoProbeCount - 1
      congestionProbeCount := s.congestionProbeCount - 1 }
  { sent with antiDeadlockPtoStartNanos := none }

def connectionPtoBackoffCount : Nat :=
  let count (space : PacketNumberSpaceState) : Nat :=
    if space.discarded then 0 else space.recoveryState.ptoCount
  max (max (count c.initialPacketSpace) (count c.handshakePacketSpace)) (count c.applicationPacketSpace)

def modifyRecoveries (f : Recovery → Recovery) : Connection :=
  let change (space : PacketNumberSpaceState) : PacketNumberSpaceState :=
    if space.discarded then space else { space with recoveryState := f space.recoveryState }
  { c with
    initialPacketSpace := change c.initialPacketSpace
    handshakePacketSpace := change c.handshakePacketSpace
    applicationPacketSpace := change c.applicationPacketSpace }

def setConnectionPtoBackoffCount (count : Nat) : Connection :=
  c.modifyRecoveries fun r => { r with ptoCount := count }

def resetConnectionPtoBackoff : Connection := c.setConnectionPtoBackoffCount 0

def increaseConnectionPtoBackoff : Connection :=
  c.setConnectionPtoBackoffCount (min (c.connectionPtoBackoffCount + 1) 255)

def discardPacketNumberSpaceState : Connection :=
  if (c.packetNumberSpace space).discarded then c
  else
    let discarded := (c.modifySpace space PacketNumberSpaceState.discard).note (.cleared space)
    let keyless := if space = .handshake then
      { discarded with localHandshakeKeys := none, peerHandshakeKeys := none } else discarded
    { keyless with antiDeadlockPtoStartNanos := none }.resetConnectionPtoBackoff

def markHandshakeSpaceUsed : Connection :=
  if space = .handshake ∧ c.handshakeState = .initial then { c with handshakeState := .handshake }
  else c

def maybeDiscardInitialAfterHandshakePacketSent : Connection :=
  if c.side ≠ .client ∨ space ≠ .handshake ∨ c.isClosingOrClosed then c
  else c.discardPacketNumberSpaceState .initial

def maybeDiscardInitialAfterHandshakePacketReceived : Connection :=
  if c.side ≠ .server ∨ space ≠ .handshake ∨ c.isClosingOrClosed then c
  else c.discardPacketNumberSpaceState .initial

def maybeDiscardHandshakeAfterConfirmedCryptoSent : Connection :=
  if space ≠ .handshake ∨ !c.handshakeConfirmed ∨ c.isClosingOrClosed then c
  else if c.handshakePacketSpace.discarded ∨ c.handshakePacketSpace.cryptoSendQueue ≠ [] then c
  else c.discardPacketNumberSpaceState .handshake

end Connection

def expireState (nowNanos : Int) : ConnM Unit := do
  modify fun c => c.expireIdleState nowNanos
  modify fun c => c.expireCloseState nowNanos

def requireActive : ConnM Unit := do
  failIf (← get).isClosingOrClosed .connectionClosed

/-- The shared body of the two close calls, over the frame. -/
def closeWith (close : PendingCloseFrame) : ConnM Unit := do
  requireActive
  let encodedLen ← liftExcept (closeFrameWireLen close)
  failIf (encodedLen > (← get).maxTxDatagramSize) .bufferTooSmall
  modify fun c => { c with pendingClose := some close, state := .closing, closeDeadlineNanos := none }

def closeConnection (errorCode frameType : Nat) (reasonPhrase : Bytes) : ConnM Unit :=
  closeWith (.connection ⟨errorCode, frameType, reasonPhrase⟩)

def closeApplication (errorCode : Nat) (reasonPhrase : Bytes) : ConnM Unit :=
  closeWith (.application ⟨errorCode, reasonPhrase⟩)

def confirmHandshake : ConnM Unit := do
  requireActive
  modify fun c => { c with
    handshakeState := .confirmed, handshakeConfirmed := true, antiDeadlockPtoStartNanos := none }

def discardPacketNumberSpace (space : PacketNumberSpace) : ConnM Unit := do
  requireActive
  failIf (space = .application) .invalidPacket
  modify fun c => c.discardPacketNumberSpaceState space

/-- Whether a received datagram is to be processed at all. -/
def prepareInboundDatagramProcessing (nowNanos : Int) : ConnM Bool := do
  expireState nowNanos
  modify fun c => c.discardExpiredOneRttKeys nowNanos
  let c ← get
  if c.state = .closing ∨ c.state = .draining then pure false
  else
    failIf c.isClosingOrClosed .connectionClosed
    pure true

end Quicz
