import Quicz.Protocol

/-! Encoded sizes of frames and packets, from wire_len.zig. The code computes in usize,
so a sum past 2^64 - 1 is an error of its own. -/
namespace Quicz

inductive PendingBlockedFrame
  | data (maximumData : Nat)
  | streamData (streamId maximumStreamData : Nat)
  | streamsBidi (maximumStreams : Nat)
  | streamsUni (maximumStreams : Nat)
deriving DecidableEq, Repr

inductive PendingMaxFrame
  | data (maximumData : Nat)
  | streamData (streamId maximumStreamData : Nat)
  | streamsBidi (maximumStreams : Nat)
  | streamsUni (maximumStreams : Nat)
deriving DecidableEq, Repr

inductive PendingCloseFrame
  | connection (frame : ConnectionCloseFrame)
  | application (frame : ApplicationCloseFrame)
deriving DecidableEq, Repr

def aeadTagLen : Nat := 16
def maxConnectionIdLen : Nat := 20
def minInitialUdpDatagramLen : Nat := 1200
def minInitialDestinationConnectionIdLen : Nat := 8

def quicVarIntWireLen (value : Nat) : Except Error Nat :=
  if value ≤ 63 then .ok 1
  else if value ≤ 16383 then .ok 2
  else if value ≤ 1073741823 then .ok 4
  else if value ≤ maxQuicVarint then .ok 8
  else .error .invalidPacket

variable (current extra : Nat)

def addWireLen : Except Error Nat :=
  if current + extra ≤ maxU64 then .ok (current + extra) else .error .internal

def addDatagramWireLen : Except Error Nat :=
  if current + extra ≤ maxU64 then .ok (current + extra) else .error .bufferTooSmall

def protectedShortDatagramWireLen (dcidLen packetNumberLen plaintextLen : Nat) : Except Error Nat := do
  if packetNumberLen = 0 ∨ packetNumberLen > 4 then throw .invalidPacket
  if dcidLen > maxConnectionIdLen then throw .invalidPacket
  let protectedPayloadLen ← addDatagramWireLen plaintextLen aeadTagLen
  let len ← addDatagramWireLen 1 dcidLen
  let len ← addDatagramWireLen len packetNumberLen
  addDatagramWireLen len protectedPayloadLen

/-- The padding loop, over the size of the datagram: every round adds what is still missing. -/
def expandPlaintext (wireLen : Nat → Except Error Nat) (minDatagramLen : Nat) : Nat → Nat → Except Error Nat
  | 0, expandedLen => .ok expandedLen
  | rounds + 1, expandedLen => do
    let currentLen ← wireLen expandedLen
    if currentLen < minDatagramLen then
      let expandedLen ← addDatagramWireLen expandedLen (minDatagramLen - currentLen)
      expandPlaintext wireLen minDatagramLen rounds expandedLen
    else return expandedLen

variable (wireLen : Nat → Except Error Nat)

def plaintextLenForMinDatagram (plaintextLen minDatagramLen : Nat) : Except Error Nat :=
  if minDatagramLen = 0 then .ok plaintextLen
  else expandPlaintext wireLen minDatagramLen (minDatagramLen + 1) plaintextLen

def protectedShortPlaintextLenForMinDatagram
    (dcidLen packetNumberLen plaintextLen minDatagramLen : Nat) : Except Error Nat :=
  plaintextLenForMinDatagram (protectedShortDatagramWireLen dcidLen packetNumberLen) plaintextLen
    minDatagramLen

inductive LongPacketType
  | initial | zeroRtt | handshake | retry
deriving DecidableEq, Repr

structure LongHeader where
  version : Nat
  packetType : LongPacketType
  dcid : Bytes
  scid : Bytes
  token : Bytes := []

variable (header : LongHeader)

def protectedLongDatagramWireLen (packetNumberLen plaintextLen : Nat) : Except Error Nat := do
  if packetNumberLen = 0 ∨ packetNumberLen > 4 then throw .invalidPacket
  if header.dcid.length > maxConnectionIdLen ∨ header.scid.length > maxConnectionIdLen then
    throw .invalidPacket
  if header.version = 0 then throw .invalidPacket
  if header.packetType = .retry then throw .invalidPacket
  if header.packetType ≠ .initial ∧ header.token ≠ [] then throw .invalidPacket
  let protectedPayloadLen ← addDatagramWireLen plaintextLen aeadTagLen
  let wireLength ← addDatagramWireLen protectedPayloadLen packetNumberLen
  if wireLength > maxQuicVarint then throw .bufferTooSmall
  let len := 1 + 4 + 1 + header.dcid.length + 1 + header.scid.length
  let len ← if header.packetType = .initial then do
      if header.token.length > maxQuicVarint then throw .invalidPacket
      let len ← addDatagramWireLen len (← quicVarIntWireLen header.token.length)
      addDatagramWireLen len header.token.length
    else pure len
  let len ← addDatagramWireLen len (← quicVarIntWireLen wireLength)
  let len ← addDatagramWireLen len packetNumberLen
  addDatagramWireLen len protectedPayloadLen

def protectedLongPlaintextLenForMinDatagram (packetNumberLen plaintextLen minDatagramLen : Nat) : Except Error Nat :=
  plaintextLenForMinDatagram (protectedLongDatagramWireLen header packetNumberLen) plaintextLen
    minDatagramLen

/-- The length `encodePacketNumberForHeader` chooses, or nothing when it refuses. -/
def packetNumberEncodingLen (packetNumber : Nat) (largestAcked : Option Nat) : Option Nat :=
  let unacked := match largestAcked with
    | some largest => packetNumber - largest
    | none => packetNumber + 1
  if packetNumber > maxQuicVarint ∨ unacked = 0 then none
  else if unacked ≤ 2 ^ 7 then some 1
  else if unacked ≤ 2 ^ 15 then some 2
  else if unacked ≤ 2 ^ 23 then some 3
  else if unacked ≤ 2 ^ 31 then some 4
  else none

def validateFrameDataRange (offset dataLen : Nat) : Except Error Unit :=
  if offset + dataLen > maxQuicVarint then .error .invalidPacket else .ok ()

def streamFrameWireLen (streamId offset dataLen : Nat) : Except Error Nat := do
  if streamId > maxQuicVarint then throw .invalidPacket
  validateFrameDataRange offset dataLen
  let len ← addWireLen 1 (← quicVarIntWireLen streamId)
  let len ← if offset = 0 then pure len else addWireLen len (← quicVarIntWireLen offset)
  let len ← addWireLen len (← quicVarIntWireLen dataLen)
  addWireLen len dataLen

def cryptoFrameWireLen (offset dataLen : Nat) : Except Error Nat := do
  validateFrameDataRange offset dataLen
  let len ← addWireLen 1 (← quicVarIntWireLen offset)
  let len ← addWireLen len (← quicVarIntWireLen dataLen)
  addWireLen len dataLen

/-- The binary search of the chunk sizing functions: `best` is the last length that fitted.
The window [low, high] shrinks with every probe, so `high + 1` rounds are enough. -/
def searchDataLen (wireLen : Nat → Except Error Nat) (maxDatagramSize : Nat) :
    Nat → Nat → Nat → Nat → Except Error Nat
  | 0, _, _, best => .ok best
  | fuel + 1, low, high, best =>
    if low ≤ high then
      let mid := low + (high - low) / 2
      match wireLen mid with
      | .error e => .error e
      | .ok encodedLen =>
        if encodedLen ≤ maxDatagramSize then
          if mid = maxU64 then .ok mid
          else searchDataLen wireLen maxDatagramSize fuel (mid + 1) high mid
        else if mid = 0 then .ok best
        else searchDataLen wireLen maxDatagramSize fuel low (mid - 1) best
    else .ok best

variable (offset remaining maxDatagramSize : Nat)

/-- The body the two chunk sizing functions share, over the size of the frame. -/
def maxFrameDataLen : Except Error Nat := do
  if (← wireLen 0) > maxDatagramSize then throw .bufferTooSmall
  if remaining = 0 then return 0
  let high := min (min remaining maxDatagramSize) (maxQuicVarint - offset)
  let best ← searchDataLen wireLen maxDatagramSize (high + 1) 1 high 0
  if best = 0 then throw .bufferTooSmall
  return best

def maxStreamFrameDataLen (streamId offset remaining maxDatagramSize : Nat) : Except Error Nat :=
  maxFrameDataLen (streamFrameWireLen streamId offset) offset remaining maxDatagramSize

def maxCryptoFrameDataLen : Except Error Nat :=
  maxFrameDataLen (cryptoFrameWireLen offset) offset remaining maxDatagramSize

def datagramFrameWireLen (dataLen : Nat) : Except Error Nat := do
  return 1 + (← quicVarIntWireLen dataLen) + dataLen

def ackRangesWireRange (smallest : Nat) : List AckRange → Except Error Unit
  | [] => .ok ()
  | range :: rest =>
    if range.gap + 2 > maxU64 then .error .invalidPacket
    else if smallest < range.gap + 2 then .error .invalidPacket
    else if range.ackRange > smallest - (range.gap + 2) then .error .invalidPacket
    else ackRangesWireRange (smallest - (range.gap + 2) - range.ackRange) rest

def validateAckFrameWireRange (ack : AckFrame) : Except Error Unit :=
  if ack.firstAckRange > ack.largestAcknowledged then .error .invalidPacket
  else ackRangesWireRange (ack.largestAcknowledged - ack.firstAckRange) ack.ranges

def ackRangesWireLen (len : Nat) : List AckRange → Except Error Nat
  | [] => .ok len
  | range :: rest => do
    let len ← addWireLen len (← quicVarIntWireLen range.gap)
    let len ← addWireLen len (← quicVarIntWireLen range.ackRange)
    ackRangesWireLen len rest

def ackFrameWireLen (ack : AckFrame) : Except Error Nat := do
  validateAckFrameWireRange ack
  let len ← addWireLen 1 (← quicVarIntWireLen ack.largestAcknowledged)
  let len ← addWireLen len (← quicVarIntWireLen ack.ackDelay)
  let len ← addWireLen len (← quicVarIntWireLen ack.ranges.length)
  let len ← addWireLen len (← quicVarIntWireLen ack.firstAckRange)
  ackRangesWireLen len ack.ranges

def pathResponseFrameWireLen : Nat := 9
def pathChallengeFrameWireLen : Nat := 9
def pingFrameWireLen : Nat := 1
def handshakeDoneFrameWireLen : Nat := 1

def resetStreamFrameWireLen (reset : ResetStreamFrame) : Except Error Nat := do
  if reset.streamId > maxQuicVarint ∨ reset.applicationErrorCode > maxQuicVarint ∨
      reset.finalSize > maxQuicVarint then throw .invalidPacket
  let len ← addWireLen 1 (← quicVarIntWireLen reset.streamId)
  let len ← addWireLen len (← quicVarIntWireLen reset.applicationErrorCode)
  addWireLen len (← quicVarIntWireLen reset.finalSize)

def stopSendingFrameWireLen (stop : StopSendingFrame) : Except Error Nat := do
  if stop.streamId > maxQuicVarint ∨ stop.applicationErrorCode > maxQuicVarint then
    throw .invalidPacket
  let len ← addWireLen 1 (← quicVarIntWireLen stop.streamId)
  addWireLen len (← quicVarIntWireLen stop.applicationErrorCode)

def retireConnectionIdFrameWireLen (sequenceNumber : Nat) : Except Error Nat := do
  addWireLen 1 (← quicVarIntWireLen sequenceNumber)

def newConnectionIdFrameWireLen (frame : NewConnectionIdFrame) : Except Error Nat := do
  if frame.connectionId = [] ∨ frame.connectionId.length > maxConnectionIdLen then throw .invalidPacket
  if frame.sequenceNumber > maxQuicVarint ∨ frame.retirePriorTo > maxQuicVarint then
    throw .invalidPacket
  if frame.retirePriorTo > frame.sequenceNumber then throw .invalidPacket
  let len ← addWireLen 1 (← quicVarIntWireLen frame.sequenceNumber)
  let len ← addWireLen len (← quicVarIntWireLen frame.retirePriorTo)
  let len ← addWireLen len 1
  let len ← addWireLen len frame.connectionId.length
  addWireLen len frame.statelessResetToken.length

def newTokenFrameWireLen (token : Bytes) : Except Error Nat := do
  if token = [] ∨ token.length > maxQuicVarint then throw .invalidPacket
  let len ← addWireLen 1 (← quicVarIntWireLen token.length)
  addWireLen len token.length

def connectionCloseFrameWireLen (close : ConnectionCloseFrame) : Except Error Nat := do
  if close.errorCode > maxQuicVarint ∨ close.frameType > maxQuicVarint then throw .invalidPacket
  let len ← addWireLen 1 (← quicVarIntWireLen close.errorCode)
  let len ← addWireLen len (← quicVarIntWireLen close.frameType)
  let len ← addWireLen len (← quicVarIntWireLen close.reasonPhrase.length)
  addWireLen len close.reasonPhrase.length

def applicationCloseFrameWireLen (close : ApplicationCloseFrame) : Except Error Nat := do
  if close.errorCode > maxQuicVarint then throw .invalidPacket
  let len ← addWireLen 1 (← quicVarIntWireLen close.errorCode)
  let len ← addWireLen len (← quicVarIntWireLen close.reasonPhrase.length)
  addWireLen len close.reasonPhrase.length

def closeFrameWireLen : PendingCloseFrame → Except Error Nat
  | .connection close => connectionCloseFrameWireLen close
  | .application close => applicationCloseFrameWireLen close

def validateStreamCountWireLen (maximumStreams : Nat) : Except Error Unit :=
  if maximumStreams > maxStreamCount then .error .invalidPacket else .ok ()

def blockedFrameWireLen : PendingBlockedFrame → Except Error Nat
  | .data maximumData => do addWireLen 1 (← quicVarIntWireLen maximumData)
  | .streamData streamId maximumStreamData => do
    let len ← addWireLen 1 (← quicVarIntWireLen streamId)
    addWireLen len (← quicVarIntWireLen maximumStreamData)
  | .streamsBidi maximumStreams | .streamsUni maximumStreams => do
    validateStreamCountWireLen maximumStreams
    addWireLen 1 (← quicVarIntWireLen maximumStreams)

def maxFrameWireLen : PendingMaxFrame → Except Error Nat
  | .data maximumData => do addWireLen 1 (← quicVarIntWireLen maximumData)
  | .streamData streamId maximumStreamData => do
    let len ← addWireLen 1 (← quicVarIntWireLen streamId)
    addWireLen len (← quicVarIntWireLen maximumStreamData)
  | .streamsBidi maximumStreams | .streamsUni maximumStreams => do
    validateStreamCountWireLen maximumStreams
    addWireLen 1 (← quicVarIntWireLen maximumStreams)

end Quicz
