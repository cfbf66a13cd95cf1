import Quicz.Lifecycle
import Quicz.Recv.Handlers

/-! The send side of streams: opening, writing, resetting, and the frames of the peer that
move send limits or ask for a reset. A write is cut into STREAM frames when it is queued;
an error takes the queued frames back, so a failed write queues nothing. -/
namespace Quicz

open Chunks Proc

/-- The shared body of the BLOCKED frame queues: a frame already queued is not queued again. -/
def queueBlockedFrame (frame : PendingBlockedFrame) : ConnM Unit :=
  modify fun c =>
    if frame ∈ c.pendingBlockedFrames then c
    else { c with pendingBlockedFrames := c.pendingBlockedFrames ++ [frame] }

def queueDataBlockedFrame (maximumData : Nat) : ConnM Unit := queueBlockedFrame (.data maximumData)

def queueStreamDataBlockedFrame (streamId maximumStreamData : Nat) : ConnM Unit :=
  queueBlockedFrame (.streamData streamId maximumStreamData)

def queueStreamsBlockedBidiFrame (maximumStreams : Nat) : ConnM Unit :=
  queueBlockedFrame (.streamsBidi maximumStreams)

def queueStreamsBlockedUniFrame (maximumStreams : Nat) : ConnM Unit :=
  queueBlockedFrame (.streamsUni maximumStreams)

def sendStreamClosed (stream : SendStreamState) : Bool := stream.finSent || stream.resetSent

def Connection.freshSendStream (c : Connection) (streamId : Nat) : SendStreamState :=
  { streamId, maxData := c.initialPeerStreamDataLimit streamId }

def Connection.appendSendStream (c : Connection) (stream : SendStreamState) : Connection :=
  { c with sendStreams := c.sendStreams ++ [stream] }

def openStream : ConnM Nat := do
  requireActive
  let c ← get
  let streamId := c.nextStreamId
  failIf (streamId > maxQuicVarint) .invalidStream
  if c.openedBidiStreams ≥ c.peerMaxStreamsBidi then
    queueStreamsBlockedBidiFrame c.peerMaxStreamsBidi
    throw .flowControlBlocked
  else
    set { c.appendSendStream (c.freshSendStream streamId) with
      nextStreamId := streamId + 4, openedBidiStreams := c.openedBidiStreams + 1 }
    pure streamId

def openUniStream : ConnM Nat := do
  requireActive
  let c ← get
  let streamId := c.nextUniStreamId
  failIf (streamId > maxQuicVarint) .invalidStream
  if c.openedUniStreams ≥ c.peerMaxStreamsUni then
    queueStreamsBlockedUniFrame c.peerMaxStreamsUni
    throw .flowControlBlocked
  else
    set { c.appendSendStream (c.freshSendStream streamId) with
      nextUniStreamId := streamId + 4, openedUniStreams := c.openedUniStreams + 1 }
    pure streamId

/- The splitting loop of a write: every round cuts the longest frame that fits, at least
one byte, so the length of the data bounds the rounds. -/
def splitStreamData (streamId maxDatagramSize : Nat) (fin : Bool) :
    Nat → Nat → Bytes → Except Error (List PendingStreamFrame)
  | 0, _, _ => .error .internal
  | rounds + 1, frameOffset, data =>
    if data = [] then .ok []
    else
      match maxStreamFrameDataLen streamId frameOffset data.length maxDatagramSize with
      | .error e => .error e
      | .ok chunkLen =>
        match endOffset frameOffset chunkLen with
        | none => .error .internal
        | some nextOffset =>
          match splitStreamData streamId maxDatagramSize fin rounds nextOffset (data.drop chunkLen) with
          | .error e => .error e
          | .ok rest =>
            .ok (⟨streamId, frameOffset, fin && chunkLen == data.length, data.take chunkLen⟩ :: rest)

/-- A write without data queues one empty frame. -/
def streamFramesOfWrite (streamId maxDatagramSize offset : Nat) (data : Bytes) (fin : Bool) :
    Except Error (List PendingStreamFrame) :=
  if data = [] then .ok [⟨streamId, offset, fin, []⟩]
  else splitStreamData streamId maxDatagramSize fin (data.length + 1) offset data

variable (c : Connection)

/-- The frame size a write is cut for leaves room for the overhead of a short packet. -/
def Connection.writeDatagramSize : Nat :=
  let base := if c.maxTxDatagramSize = 0 then 1200 else c.maxTxDatagramSize
  if base > 64 then base - 64 else base

/-- The stream a write goes to: a known one that is open, or a peer stream not yet answered. -/
def Connection.writableSendStream (streamId : Nat) : Except Error SendStreamState :=
  match c.findSendStream streamId with
  | some stream => if sendStreamClosed stream then .error .streamClosed else .ok stream
  | none =>
    if isLocalBidirectional c.side streamId ∨ isLocalUnidirectional c.side streamId then
      .error .invalidStream
    else if (c.findRecvStream streamId).isNone then .error .invalidStream
    else .ok (c.freshSendStream streamId)

def Connection.storeSendStream (stream : SendStreamState) : Connection :=
  if (c.findSendStream stream.streamId).isSome then c.putSendStream stream
  else c.appendSendStream stream

def sendOnStream (streamId : Nat) (data : Bytes) (fin : Bool) : ConnM Unit := do
  requireActive
  failIf (streamId > maxQuicVarint) .invalidStream
  let c ← get
  failIf (!isBidirectional streamId && !isLocalUnidirectional c.side streamId) .invalidStream
  let stream ← liftExcept (c.writableSendStream streamId)
  let nextOffset ← orThrow (endOffset stream.nextOffset data.length) .invalidStream
  if nextOffset > stream.maxData then
    queueStreamDataBlockedFrame streamId stream.maxData
    throw .flowControlBlocked
  else
    let nextSentTotal ← orThrow (endOffset c.sentStreamDataBytes data.length) .invalidStream
    if nextSentTotal > c.peerMaxData then
      queueDataBlockedFrame c.peerMaxData
      throw .flowControlBlocked
    else
      let _ ← liftExcept
        (maxStreamFrameDataLen streamId stream.nextOffset data.length c.writeDatagramSize)
      let frames ← liftExcept
        (streamFramesOfWrite streamId c.writeDatagramSize stream.nextOffset data fin)
      let written := { stream with nextOffset := nextOffset, finSent := stream.finSent || fin }
      set { c.storeSendStream written with
        sendQueue := c.sendQueue ++ frames
        sentStreamDataBytes := nextSentTotal }

def queueResetStream (stream : SendStreamState) (applicationErrorCode : Nat) : ConnM Unit := do
  if stream.resetSent then pure ()
  else
    failIf (applicationErrorCode > maxQuicVarint) .invalidPacket
    let reset : ResetStreamFrame := ⟨stream.streamId, applicationErrorCode, stream.nextOffset⟩
    modify fun c =>
      { c with pendingResetStreams := c.pendingResetStreams ++ [reset] }.putSendStream
        { stream with finSent := true, resetSent := true, resetAcked := false }

/-- Runs on the send state of a stream, added first when missing and removed again on failure. -/
def withSendStream (streamId : Nat) (act : SendStreamState → ConnM Unit) : ConnM Unit := do
  let c ← get
  match c.findSendStream streamId with
  | some stream => act stream
  | none =>
    set (c.appendSendStream (c.freshSendStream streamId))
    onError (act (c.freshSendStream streamId)) fun t =>
      { t with sendStreams := t.sendStreams.dropLast }

variable (streamId applicationErrorCode : Nat)

def resetStream : ConnM Unit := do
  requireActive
  failIf (streamId > maxQuicVarint) .invalidStream
  failIf (applicationErrorCode > maxQuicVarint) .invalidPacket
  let c ← get
  failIf (!isBidirectional streamId && !isLocalUnidirectional c.side streamId) .invalidStream
  failIf ((c.findSendStream streamId).isNone ∧
    (isLocalBidirectional c.side streamId ∨ isLocalUnidirectional c.side streamId ∨
      (c.findRecvStream streamId).isNone)) .invalidStream
  withSendStream streamId fun stream => queueResetStream stream applicationErrorCode

def queueStopSending (stream : RecvStreamState) (applicationErrorCode : Nat) : ConnM Unit := do
  failIf stream.resetErrorCode.isSome .streamClosed
  if stream.stopSendingSent then pure ()
  else
    failIf (applicationErrorCode > maxQuicVarint) .invalidPacket
    failIf (stream.finalSize.any fun finalSize => stream.data.length ≥ finalSize) .streamClosed
    let stop : StopSendingFrame := ⟨stream.streamId, applicationErrorCode⟩
    modify fun c =>
      { c with pendingStopSending := c.pendingStopSending ++ [stop] }.putRecvStream
        { stream with stopSendingSent := true }

def stopSending : ConnM Unit := do
  requireActive
  failIf (streamId > maxQuicVarint) .invalidStream
  failIf (applicationErrorCode > maxQuicVarint) .invalidPacket
  let c ← get
  failIf (!isBidirectional streamId && isLocalInitiator c.side streamId) .invalidStream
  match c.findRecvStream streamId with
  | some stream => queueStopSending stream applicationErrorCode
  | none =>
    failIf (!isLocalBidirectional c.side streamId) .invalidStream
    failIf (c.findSendStream streamId).isNone .invalidStream
    appendRecvStreamState streamId
    onError (queueStopSending (c.freshRecvStream streamId) applicationErrorCode) fun t =>
      { t with recvStreams := t.recvStreams.dropLast }

def receiveMaxDataFrame (maximumData : Nat) : ConnM Unit :=
  modify fun c => { c with
    peerMaxData := max c.peerMaxData maximumData
    peerLimits := c.peerLimits ++ [.data maximumData] }

def applyMaxStreamDataToSendStream (maximumStreamData : Nat) (stream : SendStreamState) : ConnM Unit :=
  if sendStreamClosed stream then pure ()
  else modify fun c =>
    let limit : PeerLimit := .streamData stream.streamId maximumStreamData
    { c with peerLimits := c.peerLimits ++ [limit] }.putSendStream
      { stream with maxData := max stream.maxData maximumStreamData }

/-- The shared routing of MAX_STREAM_DATA and STOP_SENDING: the frame must name a stream this
side sends on, and opens a peer stream it is the first frame of. -/
def onSendSideOfStream (streamId : Nat) (act : SendStreamState → ConnM Unit) : ConnM Unit := do
  failIf (streamId > maxQuicVarint) .invalidStream
  let c ← get
  if isLocalInitiator c.side streamId then
    match c.findSendStream streamId with
    | some stream => act stream
    | none => throw .invalidPacket
  else
    failIf (!isBidirectional streamId) .invalidPacket
    failIf (countForId streamId > c.recvMaxStreamsBidi) .invalidPacket
    let _ ← ensureRecvStreamState streamId
    withSendStream streamId act

def receiveMaxStreamDataFrame (streamId maximumStreamData : Nat) : ConnM Unit :=
  onSendSideOfStream streamId (applyMaxStreamDataToSendStream maximumStreamData)

def receiveStopSendingFrame (stop : StopSendingFrame) : ConnM Unit :=
  onSendSideOfStream stop.streamId fun stream => queueResetStream stream stop.applicationErrorCode

def receiveMaxStreamsBidiFrame (maximumStreams : Nat) : ConnM Unit := do
  failIf (maximumStreams > maxStreamCount) .invalidPacket
  modify fun c => { c with
    peerMaxStreamsBidi := max c.peerMaxStreamsBidi maximumStreams
    peerLimits := c.peerLimits ++ [.streamsBidi maximumStreams] }

def receiveMaxStreamsUniFrame (maximumStreams : Nat) : ConnM Unit := do
  failIf (maximumStreams > maxStreamCount) .invalidPacket
  modify fun c => { c with
    peerMaxStreamsUni := max c.peerMaxStreamsUni maximumStreams
    peerLimits := c.peerLimits ++ [.streamsUni maximumStreams] }

structure StreamSendProgress where
  streamId : Nat
  acceptedOffset : Nat
  oldestUnsettledOffset : Nat
deriving DecidableEq, Repr

def oldestOffset (streamId : Nat) (oldest : Option Nat) (frames : List PendingStreamFrame) : Option Nat :=
  frames.foldl (fun oldest pending =>
    if pending.streamId ≠ streamId then oldest
    else some (min (oldest.getD pending.offset) pending.offset)) oldest

def Connection.outstandingStreamFrames (c : Connection) : List PendingStreamFrame :=
  c.applicationPacketSpace.sentPackets.filterMap SentPacket.streamFrame

def Connection.streamSendProgress (c : Connection) (streamId : Nat) : Option StreamSendProgress :=
  match c.findSendStream streamId with
  | none => none
  | some stream =>
    if stream.resetSent then some ⟨streamId, stream.nextOffset, stream.nextOffset⟩
    else
      let oldest := oldestOffset streamId (oldestOffset streamId none c.sendQueue)
        c.outstandingStreamFrames
      some ⟨streamId, stream.nextOffset, oldest.getD stream.nextOffset⟩

inductive StreamSendState
  | ready | dataSent | dataAcked | resetSent | resetAcked
deriving DecidableEq, Repr

def publicSendStreamState (stream : SendStreamState) : StreamSendState :=
  if stream.resetAcked then .resetAcked
  else if stream.resetSent then .resetSent
  else if stream.dataAcked then .dataAcked
  else if stream.finSent then .dataSent
  else .ready

end Quicz
