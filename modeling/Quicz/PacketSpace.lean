import Quicz.Recovery
import Quicz.WireLen

/-! The state owned by one packet number space: the received packet-number ranges, the
sent packets awaiting acknowledgement and the CRYPTO stream (packet_number_space.zig,
connection_state.zig). The code keeps the Application space in fields of the connection
and the other two in records; here all three are records. -/
namespace Quicz

open Chunks

abbrev PendingStreamFrame := StreamFrame
abbrev PendingCryptoFrame := Chunk UInt8

inductive EcnCodepoint
  | notEct | ect0 | ect1
deriving DecidableEq, Repr

inductive EcnValidationState
  | unknown | capable | failed
deriving DecidableEq, Repr

structure SentPacket where
  packetNumber : Nat
  sentTimeNanos : Int
  bytes : Nat
  ecnCodepoint : EcnCodepoint := .notEct
  streamFrame : Option PendingStreamFrame := none
  cryptoFrame : Option PendingCryptoFrame := none
  resetStreamFrame : Option ResetStreamFrame := none
  stopSendingFrame : Option StopSendingFrame := none
deriving DecidableEq

structure ReceivedPacketRange where
  smallest : Nat
  largest : Nat
deriving DecidableEq, Repr

structure ReceivedPacketRanges where
  ranges : List ReceivedPacketRange := []
  forgottenThrough : Option Nat := none
deriving DecidableEq, Repr

namespace ReceivedPacketRanges

def maxRanges : Nat := 32

def isImmediatelyBefore (previous next : Nat) : Bool :=
  previous != maxU64 && previous + 1 == next

def canRecordIn (packetNumber : Nat) : List ReceivedPacketRange → Option Bool
  | [] => none
  | range :: rest =>
    if packetNumber > range.largest then some true
    else if packetNumber ≥ range.smallest then some false
    else if isImmediatelyBefore packetNumber range.smallest then some true
    else canRecordIn packetNumber rest

variable (r : ReceivedPacketRanges) (packetNumber : Nat)

def canRecord : Bool :=
  match r.forgottenThrough with
  | some forgotten => packetNumber > forgotten && go
  | none => go
where
  go : Bool := (canRecordIn packetNumber r.ranges).getD (r.ranges.length < maxRanges)

/-- Makes room by forgetting the oldest range when the table is full. -/
def insertRange (index : Nat) (range : ReceivedPacketRange) : ReceivedPacketRanges × Bool :=
  if r.ranges.length = maxRanges ∧ index = r.ranges.length then (r, false)
  else
    let room := if r.ranges.length = maxRanges then
        { ranges := r.ranges.dropLast
          forgottenThrough :=
            match r.forgottenThrough, r.ranges.getLast? with
            | some previous, some last => some (max previous last.largest)
            | none, some last => some last.largest
            | previous, none => previous }
      else r
    ({ room with ranges := room.ranges.insertIdx index range }, true)

/- The loop of `record`: `before` holds the ranges already passed, nearest first. -/
def recordIn (r : ReceivedPacketRanges) (packetNumber : Nat) :
    List ReceivedPacketRange → List ReceivedPacketRange → ReceivedPacketRanges × Bool
  | before, [] => r.insertRange before.length ⟨packetNumber, packetNumber⟩
  | before, range :: rest =>
    if packetNumber > range.largest then
      if isImmediatelyBefore range.largest packetNumber then
        match before with
        | above :: earlier =>
          if isImmediatelyBefore packetNumber above.smallest then
            ({ r with ranges := earlier.reverse ++ { above with smallest := range.smallest } :: rest }, true)
          else
            ({ r with ranges := before.reverse ++ { range with largest := packetNumber } :: rest }, true)
        | [] => ({ r with ranges := { range with largest := packetNumber } :: rest }, true)
      else r.insertRange before.length ⟨packetNumber, packetNumber⟩
    else if packetNumber ≥ range.smallest then (r, false)
    else if isImmediatelyBefore packetNumber range.smallest then
      match rest with
      | below :: later =>
        if isImmediatelyBefore below.largest packetNumber then
          ({ r with ranges := before.reverse ++ { range with smallest := below.smallest } :: later }, true)
        else
          ({ r with ranges := before.reverse ++ { range with smallest := packetNumber } :: rest }, true)
      | [] => ({ r with ranges := before.reverse ++ [{ range with smallest := packetNumber }] }, true)
    else recordIn r packetNumber (range :: before) rest

def record : ReceivedPacketRanges × Bool :=
  if r.canRecord packetNumber then r.recordIn packetNumber [] r.ranges else (r, false)

def nextExpectedPacketNumber : Nat :=
  match r.ranges with
  | [] => 0
  | first :: _ => if first.largest = maxU64 then first.largest else first.largest + 1

def ackRanges (previousSmallest : Nat) : List ReceivedPacketRange → List AckRange
  | [] => []
  | range :: rest =>
    ⟨previousSmallest - range.largest - 2, range.largest - range.smallest⟩ ::
      ackRanges range.smallest rest

def ackFrame : Option AckFrame :=
  match r.ranges with
  | [] => none
  | first :: rest => some
    { largestAcknowledged := first.largest
      ackDelay := 0
      firstAckRange := first.largest - first.smallest
      ranges := ackRanges first.smallest rest }

end ReceivedPacketRanges

structure PacketNumberSpaceState where
  discarded : Bool := false
  nextPacketNumber : Nat := 0
  nextPeerPacketNumber : Nat := 0
  pendingAckLargest : Option Nat := none
  receivedPacketRanges : ReceivedPacketRanges := {}
  largestAcknowledged : Option Nat := none
  firstRttSampleSentTimeNanos : Option Int := none
  lossDeadlineNanos : Option Int := none
  recoveryState : Recovery
  sentPackets : List SentPacket := []
  pendingPingCount : Nat := 0
  ptoProbeCount : Nat := 0
  congestionProbeCount : Nat := 0
  cryptoSendOffset : Nat := 0
  cryptoRecvBuffer : Bytes := []
  cryptoReadOffset : Nat := 0
  cryptoSendQueue : List PendingCryptoFrame := []
  cryptoRecvPending : List PendingCryptoFrame := []
  ecnSentEct0 : Nat := 0
  ecnSentEct1 : Nat := 0
  ecnLargestAcknowledged : Option Nat := none
  ecnCounts : EcnCounts := ⟨0, 0, 0⟩
  ecnValidationState : EcnValidationState := .unknown

namespace PacketNumberSpaceState

variable (space : PacketNumberSpaceState)

def pendingAckFrame : Option AckFrame :=
  match space.pendingAckLargest with
  | none => none
  | some _ => space.receivedPacketRanges.ackFrame

def discard : PacketNumberSpaceState where
  discarded := true
  nextPacketNumber := space.nextPacketNumber
  nextPeerPacketNumber := space.nextPeerPacketNumber
  recoveryState := { space.recoveryState with
    bytesInFlight := 0
    ptoCount := 0
    congestionAvoidanceBytesAcked := 0 }

def latestSentTime : Option Int :=
  (space.sentPackets.map SentPacket.sentTimeNanos).max?

end PacketNumberSpaceState

end Quicz
