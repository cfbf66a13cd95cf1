import Quicz.Control

/-! The transport error a received payload is closed with: the checks on its encoding and on
the packet type (frame_payload.zig), and the classifier that looks for the frame a handler
refused. The classifier runs after the handlers, over the whole payload. -/
namespace Quicz

open Chunks Proc

inductive TransportErrorCode
  | noError | internalError | connectionRefused | flowControlError | streamLimitError
  | streamStateError | finalSizeError | frameEncodingError | transportParameterError
  | connectionIdLimitError | protocolViolation | invalidToken | applicationError
  | cryptoBufferExceeded | keyUpdateError | aeadLimitReached | noViablePath
  | versionNegotiationError
deriving DecidableEq, Repr

def codeValue : TransportErrorCode → Nat
  | .noError => 0x00
  | .internalError => 0x01
  | .connectionRefused => 0x02
  | .flowControlError => 0x03
  | .streamLimitError => 0x04
  | .streamStateError => 0x05
  | .finalSizeError => 0x06
  | .frameEncodingError => 0x07
  | .transportParameterError => 0x08
  | .connectionIdLimitError => 0x09
  | .protocolViolation => 0x0a
  | .invalidToken => 0x0b
  | .applicationError => 0x0c
  | .cryptoBufferExceeded => 0x0d
  | .keyUpdateError => 0x0e
  | .aeadLimitReached => 0x0f
  | .noViablePath => 0x10
  | .versionNegotiationError => 0x11

def textBytes (text : String) : Bytes := text.toList.map fun ch => UInt8.ofNat ch.toNat

structure CloseError where
  code : TransportErrorCode
  frameType : Nat
  reasonPhrase : String
deriving DecidableEq, Repr

structure WireFrame where
  typeValue : Nat
  frame : Frame
deriving DecidableEq, Repr

structure MalformedFrame where
  typeValue : Nat
  classified : Bool := true
deriving DecidableEq, Repr

structure ReceivedPayload where
  wire : List WireFrame
  malformed : Option MalformedFrame := none
  len : Nat
deriving DecidableEq, Repr

def ReceivedPayload.frames (payload : ReceivedPayload) : List Frame := payload.wire.map WireFrame.frame

def framePacketTypeErrorCode (decoded : Frame) (packetType : FramePacketType) : Option TransportErrorCode :=
  if frameAllowedInFramePacketType decoded packetType then none else some .protocolViolation

/-- The frame loop of `classifyFramePayloadCloseError`. -/
def classifyWireFrames (packetType : FramePacketType) (malformed : Option MalformedFrame) :
    List WireFrame → Option CloseError
  | [] => malformed.bind fun stopped =>
    if stopped.classified then some ⟨.frameEncodingError, stopped.typeValue, "frame encoding"⟩ else none
  | decoded :: rest =>
    match framePacketTypeErrorCode decoded.frame packetType with
    | some code => some ⟨code, decoded.typeValue, "packet type"⟩
    | none => classifyWireFrames packetType malformed rest

def classifyFramePayloadCloseError (packetType : FramePacketType) (payload : ReceivedPayload) : Option CloseError :=
  if payload.len = 0 then some ⟨.protocolViolation, 0, "empty payload"⟩
  else classifyWireFrames packetType payload.malformed payload.wire

namespace Connection

variable (c : Connection) (streamId frameType : Nat)

def classifyReceiveStreamIdCloseError : Option CloseError :=
  if streamId > maxQuicVarint then none
  else if isLocalBidirectional c.side streamId then
    if (c.findSendStream streamId).isNone then some ⟨.streamStateError, frameType, "stream state"⟩
    else none
  else if isBidirectional streamId then
    if countForId streamId > c.recvMaxStreamsBidi then
      some ⟨.streamLimitError, frameType, "stream limit"⟩
    else none
  else if isLocalInitiator c.side streamId then some ⟨.streamStateError, frameType, "stream state"⟩
  else if countForId streamId > c.recvMaxStreamsUni then
    some ⟨.streamLimitError, frameType, "stream limit"⟩
  else none

def classifySendControlStreamIdCloseError : Option CloseError :=
  if streamId > maxQuicVarint then none
  else if !isBidirectional streamId then
    if !isLocalInitiator c.side streamId then some ⟨.streamStateError, frameType, "stream state"⟩
    else if (c.findSendStream streamId).isNone then some ⟨.streamStateError, frameType, "stream state"⟩
    else none
  else if isLocalInitiator c.side streamId then
    if (c.findSendStream streamId).isNone then some ⟨.streamStateError, frameType, "stream state"⟩
    else none
  else if countForId streamId > c.recvMaxStreamsBidi then
    some ⟨.streamLimitError, frameType, "stream limit"⟩
  else none

variable (stream : RecvStreamState)

/-- Whether the bytes contradict what the stream holds; an error of the check counts as no. -/
def overlapConflicts (incoming : Chunk UInt8) : Except Error Bool :=
  streamFrameHasConflictingOverlap stream incoming

/- What the classifier finds in a stream that exists: an error to report, or how it goes on.
`none` in the right component ends the classification without a finding. -/
variable (frame : StreamFrame)

def classifyStreamAgainstState (stop frameType : Nat) : Option CloseError × Bool :=
  let conflict : Option CloseError × Bool :=
    match overlapConflicts stream frame.chunk with
    | .error _ => (none, false)
    | .ok true => (some ⟨.protocolViolation, frameType, "stream data"⟩, false)
    | .ok false => (none, true)
  match stream.finalSize with
  | some finalSize =>
    if stop > finalSize then (some ⟨.finalSizeError, frameType, "final size"⟩, false)
    else if frame.fin ∧ stop ≠ finalSize then (some ⟨.finalSizeError, frameType, "final size"⟩, false)
    else
      match conflict with
      | (found, false) => (found, false)
      | (_, true) =>
        if stream.data.length ≥ finalSize then (none, false)
        else if stream.resetErrorCode.isSome then (none, false)
        else conflict
  | none =>
    if stream.resetErrorCode.isSome then (none, false)
    else if frame.fin then
      match highestReceivedStreamEndOffset stream with
      | .error _ => (none, false)
      | .ok highestReceived =>
        if stop < highestReceived then (some ⟨.finalSizeError, frameType, "final size"⟩, false)
        else conflict
    else conflict

def classifyConnectionLimit (newDataLen frameType : Nat) : Option CloseError :=
  match endOffset c.recvDataBytes newDataLen with
  | none => none
  | some nextRecvTotal =>
    if nextRecvTotal > c.recvMaxData then some ⟨.flowControlError, frameType, "flow control"⟩ else none

def classifyStreamFrameProcessingCloseError (frameType : Nat) : Option CloseError :=
  match c.classifyReceiveStreamIdCloseError frame.streamId frameType with
  | some close => some close
  | none =>
    match endOffset frame.offset frame.data.length with
    | none => none
    | some stop =>
      match c.findRecvStream frame.streamId with
      | none =>
        if stop > c.recvMaxStreamData then some ⟨.flowControlError, frameType, "flow control"⟩
        else c.classifyConnectionLimit frame.data.length frameType
      | some stream =>
        if stop > stream.maxData then some ⟨.flowControlError, frameType, "flow control"⟩
        else
          match classifyStreamAgainstState stream frame stop frameType with
          | (found, false) => found
          | (_, true) =>
            match collectNewRecvStreamDataSegments stream frame.chunk with
            | .error _ => none
            | .ok segments => c.classifyConnectionLimit (size segments) frameType

def classifyResetCharge (receivedSize finalSize frameType : Nat) : Option CloseError :=
  if finalSize < receivedSize then some ⟨.finalSizeError, frameType, "final size"⟩
  else
    match addU64 c.recvDataBytes (finalSize - receivedSize) with
    | none => none
    | some nextRecvTotal =>
      if nextRecvTotal > c.recvMaxData then some ⟨.flowControlError, frameType, "flow control"⟩
      else none

def classifyResetStreamFrameProcessingCloseError (reset : ResetStreamFrame) (frameType : Nat) : Option CloseError :=
  match c.classifyReceiveStreamIdCloseError reset.streamId frameType with
  | some close => some close
  | none =>
    match c.findRecvStream reset.streamId with
    | none =>
      if reset.finalSize > c.recvMaxStreamData then some ⟨.flowControlError, frameType, "flow control"⟩
      else c.classifyResetCharge 0 reset.finalSize frameType
    | some stream =>
      if reset.finalSize > stream.maxData then some ⟨.flowControlError, frameType, "flow control"⟩
      else
        match highestReceivedStreamEndOffset stream with
        | .error _ => none
        | .ok highestReceived =>
          if reset.finalSize < highestReceived then some ⟨.finalSizeError, frameType, "final size"⟩
          else if stream.finalSize.any (· ≠ reset.finalSize) then
            some ⟨.finalSizeError, frameType, "final size"⟩
          else if stream.finalSize.isSome ∧ stream.resetErrorCode.isSome then none
          else if stream.finalSize.any (stream.data.length ≥ ·) then none
          else
            match receivedStreamByteCount stream with
            | .error _ => none
            | .ok receivedSize => c.classifyResetCharge receivedSize reset.finalSize frameType

variable (packetType : FramePacketType)

def classifyCryptoFrameProcessingCloseError (crypto : PendingCryptoFrame) (frameType : Nat) : Option CloseError :=
  match endOffset crypto.offset crypto.data.length with
  | none => none
  | some stop =>
    if stop > c.config.maxCryptoBufferSize then
      some ⟨.cryptoBufferExceeded, frameType, "crypto buffer"⟩
    else
      let space := c.packetNumberSpace (packetNumberSpaceForFramePacketType packetType)
      match overlapConflicts space.cryptoStream crypto with
      | .ok true => some ⟨.protocolViolation, frameType, "crypto data"⟩
      | _ => none

def classifyAckFrameProcessingCloseError (ack : AckFrame) (frameType : Nat) : Option CloseError :=
  let space := c.packetNumberSpace (packetNumberSpaceForFramePacketType packetType)
  if space.discarded then none
  else if ack.largestAcknowledged ≥ space.nextPacketNumber then
    some ⟨.protocolViolation, frameType, "ack"⟩
  else none

def activeConnectionIdCountAfterRetirePriorTo (retirePriorTo : Nat) : Nat :=
  (c.activeConnectionIds.filter fun id =>
    !id.retired && decide (id.sequenceNumber ≥ retirePriorTo)).length

def classifyNewConnectionIdFrameProcessingCloseError (frame : NewConnectionIdFrame) (frameType : Nat) :
    Option CloseError :=
  if c.sendsZeroLengthDestinationConnectionId then
    some ⟨.protocolViolation, frameType, "connection id zero"⟩
  else
    match c.activeConnectionIds.find? fun id => id.sequenceNumber = frame.sequenceNumber with
    | some existing =>
      if existing.connectionId ≠ frame.connectionId then
        some ⟨.protocolViolation, frameType, "connection id sequence"⟩
      else if existing.statelessResetToken ≠ frame.statelessResetToken then
        some ⟨.protocolViolation, frameType, "reset token mismatch"⟩
      else none
    | none =>
      if c.activeConnectionIds.any fun id => id.connectionId = frame.connectionId then
        some ⟨.protocolViolation, frameType, "connection id reuse"⟩
      else if c.activeConnectionIds.any fun id =>
          id.statelessResetToken = frame.statelessResetToken then
        some ⟨.protocolViolation, frameType, "reset token reuse"⟩
      else if c.activeConnectionIdCountAfterRetirePriorTo frame.retirePriorTo ≥
          c.config.activeConnectionIdLimit then
        some ⟨.connectionIdLimitError, frameType, "connection id limit"⟩
      else none

def classifyRetireConnectionIdFrameProcessingCloseError (sequenceNumber frameType : Nat) : Option CloseError :=
  if c.hasZeroLengthLocalInitialSourceConnectionId then
    some ⟨.protocolViolation, frameType, "connection id zero"⟩
  else
    match c.localConnectionIds.find? fun id => id.sequenceNumber = sequenceNumber with
    | none => some ⟨.protocolViolation, frameType, "retire connection id"⟩
    | some id =>
      if !id.sent then some ⟨.protocolViolation, frameType, "retire connection id"⟩ else none

def pathResponseChallengeIndex (data : Bytes) : Option Nat :=
  c.outstandingPathChallenges.findIdx? fun challenge => challenge.data = data

def classifyFrame (decoded : WireFrame) : Option CloseError :=
  let frameType := decoded.typeValue
  match decoded.frame with
  | .ack ack _ => c.classifyAckFrameProcessingCloseError packetType ack frameType
  | .stream frame => c.classifyStreamFrameProcessingCloseError frame frameType
  | .crypto crypto => c.classifyCryptoFrameProcessingCloseError packetType crypto frameType
  | .resetStream reset => c.classifyResetStreamFrameProcessingCloseError reset frameType
  | .streamDataBlocked streamId _ => c.classifyReceiveStreamIdCloseError streamId frameType
  | .maxStreamData streamId _ => c.classifySendControlStreamIdCloseError streamId frameType
  | .maxStreamsBidi maximumStreams | .maxStreamsUni maximumStreams =>
    if maximumStreams > maxStreamCount then some ⟨.frameEncodingError, frameType, "frame encoding"⟩
    else none
  | .stopSending stop => c.classifySendControlStreamIdCloseError stop.streamId frameType
  | .newToken _ =>
    if c.side = .server then some ⟨.protocolViolation, frameType, "new token"⟩ else none
  | .newConnectionId frame => c.classifyNewConnectionIdFrameProcessingCloseError frame frameType
  | .retireConnectionId sequenceNumber =>
    c.classifyRetireConnectionIdFrameProcessingCloseError sequenceNumber frameType
  | .pathResponse data =>
    if (c.pathResponseChallengeIndex data).isNone then
      some ⟨.protocolViolation, frameType, "path response"⟩ else none
  | .handshakeDone =>
    if c.side = .server then some ⟨.protocolViolation, frameType, "handshake done"⟩ else none
  | _ => none

def classifyFrameProcessingCloseError (c : Connection) (packetType : FramePacketType) :
    List WireFrame → Option CloseError
  | [] => none
  | decoded :: rest =>
    if (framePacketTypeErrorCode decoded.frame packetType).isSome then none
    else
      match c.classifyFrame packetType decoded with
      | some close => some close
      | none => classifyFrameProcessingCloseError c packetType rest

end Connection

end Quicz
