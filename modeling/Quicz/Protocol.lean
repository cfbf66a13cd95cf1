import Quicz.Lib.Chunk

/-! Vocabulary of the transport: limits (protocol_limits.zig), error set and roles
(transport_types.zig), stream identifiers (stream_id.zig), frames (frame.zig) and the
rules about where a frame may stand (frame_rules.zig). Lengths and offsets are
natural numbers; every bound the code checks is checked explicitly. -/
namespace Quicz

abbrev Bytes := List UInt8

def maxQuicVarint : Nat := 2 ^ 62 - 1
def maxStreamCount : Nat := 2 ^ 60
def maxU64 : Nat := 2 ^ 64 - 1
def packetThresholdLossGap : Nat := 3
def antiAmplificationMultiplier : Nat := 3
def closeStatePtoMultiplier : Nat := 3
def minActiveConnectionIdLimit : Nat := 2

def addU64 (a b : Nat) : Option Nat := if a + b ≤ maxU64 then some (a + b) else none

theorem addU64_some {a b n : Nat} : addU64 a b = some n ↔ n = a + b ∧ a + b ≤ maxU64 := by
  unfold addU64
  split <;> simp_all [eq_comm]

/-- The saturating sum the code writes as `std.math.add(..) catch maxInt(u64)`. -/
def saturatingAddU64 (a b : Nat) : Nat := min (a + b) maxU64

inductive Error
  | connectionClosed | invalidPacket | cryptoError | internal | outOfMemory
  | bufferTooSmall | flowControlBlocked | streamClosed | invalidStream
deriving DecidableEq, Repr

inductive ConnectionSide
  | client | server
deriving DecidableEq, Repr

inductive PacketNumberSpace
  | initial | handshake | application
deriving DecidableEq, Repr

inductive FramePacketType
  | initial | zeroRtt | handshake | oneRtt
deriving DecidableEq, Repr

inductive ConnectionState
  | active | closing | draining | closed
deriving DecidableEq, Repr

def isBidirectional (streamId : Nat) : Bool := streamId / 2 % 2 == 0

variable (side : ConnectionSide)

def isLocalInitiator (streamId : Nat) : Bool :=
  match side with
  | .client => streamId % 2 == 0
  | .server => streamId % 2 != 0

def isLocalBidirectional (streamId : Nat) : Bool :=
  isBidirectional streamId && isLocalInitiator side streamId

def isLocalUnidirectional (streamId : Nat) : Bool :=
  !isBidirectional streamId && isLocalInitiator side streamId

def countForId (streamId : Nat) : Nat := streamId / 4 + 1

def endOffset (offset dataLen : Nat) : Option Nat :=
  if offset + dataLen ≤ maxQuicVarint then some (offset + dataLen) else none

theorem endOffset_some {offset len stop : Nat} :
    endOffset offset len = some stop ↔ stop = offset + len ∧ offset + len ≤ maxQuicVarint := by
  unfold endOffset
  split <;> simp_all [eq_comm]

structure StreamFrame where
  streamId : Nat
  offset : Nat
  fin : Bool
  data : Bytes
deriving DecidableEq, Repr

def StreamFrame.chunk (frame : StreamFrame) : Chunks.Chunk UInt8 := ⟨frame.offset, frame.data⟩

structure AckRange where
  gap : Nat
  ackRange : Nat
deriving DecidableEq, Repr

structure AckFrame where
  largestAcknowledged : Nat
  ackDelay : Nat
  firstAckRange : Nat
  ranges : List AckRange
deriving DecidableEq, Repr

structure EcnCounts where
  ect0Count : Nat
  ect1Count : Nat
  ecnCeCount : Nat
deriving DecidableEq, Repr

structure ResetStreamFrame where
  streamId : Nat
  applicationErrorCode : Nat
  finalSize : Nat
deriving DecidableEq, Repr

structure StopSendingFrame where
  streamId : Nat
  applicationErrorCode : Nat
deriving DecidableEq, Repr

structure NewConnectionIdFrame where
  sequenceNumber : Nat
  retirePriorTo : Nat
  connectionId : Bytes
  statelessResetToken : Bytes
deriving DecidableEq, Repr

structure ConnectionCloseFrame where
  errorCode : Nat
  frameType : Nat
  reasonPhrase : Bytes
deriving DecidableEq, Repr

structure ApplicationCloseFrame where
  errorCode : Nat
  reasonPhrase : Bytes
deriving DecidableEq, Repr

inductive Frame
  | padding (len : Nat)
  | ping
  | ack (ack : AckFrame) (ecnCounts : Option EcnCounts)
  | resetStream (reset : ResetStreamFrame)
  | stopSending (stop : StopSendingFrame)
  | newToken (token : Bytes)
  | stream (frame : StreamFrame)
  | crypto (frame : Chunks.Chunk UInt8)
  | maxData (maximumData : Nat)
  | maxStreamData (streamId maximumStreamData : Nat)
  | maxStreamsBidi (maximumStreams : Nat)
  | maxStreamsUni (maximumStreams : Nat)
  | dataBlocked (maximumData : Nat)
  | streamDataBlocked (streamId maximumStreamData : Nat)
  | streamsBlockedBidi (maximumStreams : Nat)
  | streamsBlockedUni (maximumStreams : Nat)
  | newConnectionId (frame : NewConnectionIdFrame)
  | retireConnectionId (sequenceNumber : Nat)
  | pathChallenge (data : Bytes)
  | pathResponse (data : Bytes)
  | connectionClose (frame : ConnectionCloseFrame)
  | applicationClose (frame : ApplicationCloseFrame)
  | handshakeDone
  | datagram (data : Bytes)
deriving DecidableEq, Repr

def frameIsAckEliciting : Frame → Bool
  | .padding _ | .ack _ _ | .connectionClose _ | .applicationClose _ => false
  | _ => true

def packetNumberSpaceForFramePacketType : FramePacketType → PacketNumberSpace
  | .initial => .initial
  | .handshake => .handshake
  | .zeroRtt | .oneRtt => .application

/-- RETIRE_CONNECTION_ID is refused in 0-RTT packets, as section 12.5 of RFC 9000 permits. -/
def frameAllowedInFramePacketType (decoded : Frame) : FramePacketType → Bool
  | .initial | .handshake =>
    match decoded with
    | .padding _ | .ping | .ack _ _ | .crypto _ | .connectionClose _ => true
    | _ => false
  | .zeroRtt =>
    match decoded with
    | .padding _ | .ping | .resetStream _ | .stopSending _ | .stream _ | .maxData _
    | .maxStreamData _ _ | .maxStreamsBidi _ | .maxStreamsUni _ | .dataBlocked _
    | .streamDataBlocked _ _ | .streamsBlockedBidi _ | .streamsBlockedUni _
    | .newConnectionId _ | .pathChallenge _ | .connectionClose _ | .applicationClose _ => true
    | _ => false
  | .oneRtt => true

/-- The range loop shared by the ACK checks: the acknowledged intervals below `smallest`,
largest first, or nothing once a range is malformed. -/
def ackIntervals (smallest : Nat) : List AckRange → List (Nat × Nat) × Bool
  | [] => ([], true)
  | range :: rest =>
    if range.gap + 2 > maxU64 ∨ smallest < range.gap + 2 then ([], false)
    else
      let largest := smallest - (range.gap + 2)
      if range.ackRange > largest then ([], false)
      else
        let tail := ackIntervals (largest - range.ackRange) rest
        ((largest - range.ackRange, largest) :: tail.1, tail.2)

def ackFrameRangesAreValid (ack : AckFrame) : Bool :=
  if ack.firstAckRange > ack.largestAcknowledged then false
  else (ackIntervals (ack.largestAcknowledged - ack.firstAckRange) ack.ranges).2

def ackFrameContains (ack : AckFrame) (packetNumber : Nat) : Bool :=
  if ack.firstAckRange > ack.largestAcknowledged then false
  else
    let smallest := ack.largestAcknowledged - ack.firstAckRange
    (decide (smallest ≤ packetNumber) && decide (packetNumber ≤ ack.largestAcknowledged)) ||
      (ackIntervals smallest ack.ranges).1.any fun interval =>
        decide (interval.1 ≤ packetNumber) && decide (packetNumber ≤ interval.2)

end Quicz
