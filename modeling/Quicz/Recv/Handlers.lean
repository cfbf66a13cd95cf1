import Quicz.Recv.Reassembly

/-! The receive side of the connection: the handlers of STREAM, RESET_STREAM and the
BLOCKED frames, the credit a read releases, and `recvOnStream`. A stream pointer of the
code is passed as the stream's current value and written back. -/
namespace Quicz

open Chunks Proc

def Connection.validateIncomingStreamCount (c : Connection) (streamId : Nat) : Except Error Unit :=
  if isLocalBidirectional c.side streamId then
    if (c.findSendStream streamId).isNone then .error .invalidPacket else .ok ()
  else if isBidirectional streamId then
    if countForId streamId > c.recvMaxStreamsBidi then .error .invalidPacket else .ok ()
  else if isLocalInitiator c.side streamId then .error .invalidPacket
  else if countForId streamId > c.recvMaxStreamsUni then .error .invalidPacket
  else .ok ()

def Connection.freshRecvStream (c : Connection) (streamId : Nat) : RecvStreamState :=
  { streamId, maxData := c.recvMaxStreamData }

variable (streamId : Nat)

def appendRecvStreamState : ConnM Unit :=
  modify fun c => { c with recvStreams := c.recvStreams ++ [c.freshRecvStream streamId] }

def streamIdsUpTo : List Nat :=
  (List.range (countForId streamId)).map fun k => streamId % 4 + 4 * k

/-- A stream opens together with all lower-numbered streams of its type. -/
def ensureRecvStreamState : ConnM RecvStreamState := do
  match (← get).findRecvStream streamId with
  | some stream => pure stream
  | none =>
    (streamIdsUpTo streamId).forM fun id => do
      if ((← get).findRecvStream id).isNone then appendRecvStreamState id else pure ()
    orThrow ((← get).findRecvStream streamId) .internal

/- The checks of a STREAM frame against a stream that exists: an error, `false` when the
frame is to be ignored, `true` when its data is to be stored. -/
variable (stream : RecvStreamState) (frame : StreamFrame) (stop : Nat)

def acceptsStreamFrame : Except Error Bool :=
  match stream.finalSize with
  | some finalSize =>
    if stop > finalSize then .error .invalidPacket
    else if frame.fin ∧ stop ≠ finalSize then .error .invalidPacket
    else
      match streamFrameHasConflictingOverlap stream frame.chunk with
      | .error e => .error e
      | .ok true => .error .invalidPacket
      | .ok false =>
        if stream.data.length ≥ finalSize then .ok false
        else if stream.resetErrorCode.isSome then .ok false
        else .ok true
  | none =>
    if stream.resetErrorCode.isSome then .error .internal
    else if frame.fin then
      match highestReceivedStreamEndOffset stream with
      | .error e => .error e
      | .ok highestReceived => if stop < highestReceived then .error .invalidPacket else .ok true
    else .ok true

def storeStreamFrame : ConnM Unit := do
  let stream ← ensureRecvStreamState frame.streamId
  let segments ← liftExcept (collectNewRecvStreamDataSegments stream frame.chunk)
  let c ← get
  let nextRecvTotal ← orThrow (endOffset c.recvDataBytes (size segments)) .invalidPacket
  failIf (nextRecvTotal > c.recvMaxData) .invalidPacket
  let stored := segments.foldl storeSegment stream
  let final := if frame.fin then { stored with finalSize := some stop } else stored
  set { c.putRecvStream final with recvDataBytes := nextRecvTotal }

def receiveStreamFrame : ConnM Unit := do
  failIf (frame.streamId > maxQuicVarint) .invalidStream
  let c ← get
  liftExcept (c.validateIncomingStreamCount frame.streamId)
  let stop ← orThrow (endOffset frame.offset frame.data.length) .invalidPacket
  match c.findRecvStream frame.streamId with
  | some stream =>
    failIf (stop > stream.maxData) .invalidPacket
    let accepted ← liftExcept (acceptsStreamFrame stream frame stop)
    if accepted then storeStreamFrame frame stop else pure ()
  | none =>
    failIf (stop > c.recvMaxStreamData) .invalidPacket
    storeStreamFrame frame stop

/-- Drains the streams in order; a failure keeps what was drained before it. -/
def drainStreams : List RecvStreamState → List RecvStreamState × Except Error Unit
  | [] => ([], .ok ())
  | stream :: rest =>
    match drainStream stream with
    | .error e => (stream :: rest, .error e)
    | .ok drained => (drained :: (drainStreams rest).1, (drainStreams rest).2)

def drainPendingRecvStreams : ConnM Unit := do
  let c ← get
  let result := drainStreams c.recvStreams
  set { c with recvStreams := result.1 }
  liftExcept result.2

variable (reset : ResetStreamFrame)

def chargeReset : ConnM Unit := do
  let receivedSize ← liftExcept (receivedStreamByteCount stream)
  failIf (reset.finalSize < receivedSize) .invalidPacket
  let c ← get
  let nextRecvTotal ← orThrow (addU64 c.recvDataBytes (reset.finalSize - receivedSize)) .invalidPacket
  failIf (nextRecvTotal > c.recvMaxData) .invalidPacket
  let resetStream := { stream with
    finalSize := some reset.finalSize
    resetErrorCode := some reset.applicationErrorCode }
  set { c.putRecvStream resetStream with
    recvDataBytes := nextRecvTotal
    metResets := c.metResets ++ [{ stream, frame := reset : MetReset }] }

def receiveResetStreamFrame : ConnM Unit := do
  failIf (reset.streamId > maxQuicVarint) .invalidStream
  liftExcept ((← get).validateIncomingStreamCount reset.streamId)
  let stream ← ensureRecvStreamState reset.streamId
  failIf (reset.finalSize > stream.maxData) .invalidPacket
  let highestReceived ← liftExcept (highestReceivedStreamEndOffset stream)
  failIf (reset.finalSize < highestReceived) .invalidPacket
  match stream.finalSize with
  | some finalSize =>
    failIf (finalSize ≠ reset.finalSize) .invalidPacket
    if stream.resetErrorCode.isSome then pure ()
    else if stream.data.length ≥ finalSize then pure ()
    else chargeReset stream reset
  | none => chargeReset stream reset

/-- The shared body of the MAX frame queues: a frame already queued is not queued again. -/
def queueMaxFrame (frame : PendingMaxFrame) : ConnM Unit :=
  modify fun c =>
    if frame ∈ c.pendingMaxFrames then c
    else { c with pendingMaxFrames := c.pendingMaxFrames ++ [frame] }

def queueMaxDataFrame (maximumData : Nat) : ConnM Unit := queueMaxFrame (.data maximumData)

def queueMaxStreamDataFrame (streamId maximumStreamData : Nat) : ConnM Unit :=
  queueMaxFrame (.streamData streamId maximumStreamData)

variable (maximumStreams : Nat)

def queueMaxStreamsBidiFrame : ConnM Unit := do
  failIf (maximumStreams > maxStreamCount) .invalidStream
  queueMaxFrame (.streamsBidi maximumStreams)

def queueMaxStreamsUniFrame : ConnM Unit := do
  failIf (maximumStreams > maxStreamCount) .invalidStream
  queueMaxFrame (.streamsUni maximumStreams)

def queueClosedReceiveStreamCountCredit : ConnM RecvStreamState := do
  let c ← get
  if stream.streamCountCreditReleased then pure stream
  else if isLocalInitiator c.side stream.streamId then pure stream
  else
    if isBidirectional stream.streamId then
      let nextLimit ← orThrow (addU64 c.recvMaxStreamsBidi 1) .invalidStream
      let len ← liftExcept (maxFrameWireLen (.streamsBidi nextLimit))
      failIf (len > c.maxTxDatagramSize) .bufferTooSmall
      queueMaxStreamsBidiFrame nextLimit
      modify fun c => { c with recvMaxStreamsBidi := nextLimit }
    else
      let nextLimit ← orThrow (addU64 c.recvMaxStreamsUni 1) .invalidStream
      let len ← liftExcept (maxFrameWireLen (.streamsUni nextLimit))
      failIf (len > c.maxTxDatagramSize) .bufferTooSmall
      queueMaxStreamsUniFrame nextLimit
      modify fun c => { c with recvMaxStreamsUni := nextLimit }
    let released := { stream with streamCountCreditReleased := true }
    modify fun c => c.putRecvStream released
    pure released

def queueReceiveStreamCountCredit (consumedLen : Nat) : ConnM RecvStreamState :=
  if stream.streamCountCreditReleased then pure stream
  else if stream.resetErrorCode.isSome then pure stream
  else
    match stream.finalSize with
    | none => pure stream
    | some finalSize =>
      if stream.data.length < finalSize then pure stream
      else do
        let newReadOffset ← orThrow (addU64 stream.readOffset consumedLen) .internal
        if newReadOffset < finalSize then pure stream
        else queueClosedReceiveStreamCountCredit stream

/-- The new limit after a read: the old one plus the bytes read, raised to the received
amount plus the window when a window is configured. -/
def nextDataLimit (limit consumed received : Nat) (window : Option Nat) : Except Error Nat := do
  let nextLimit ← match addU64 limit consumed with
    | some next => .ok next
    | none => .error .internal
  let nextLimit ← match window with
    | none => .ok nextLimit
    | some window =>
      match addU64 received window with
      | some target => .ok (max nextLimit target)
      | none => .error .internal
  if nextLimit > maxQuicVarint then .error .internal else .ok nextLimit

def Connection.nextReceiveConnectionDataLimit (c : Connection) (consumed : Nat) : Except Error Nat :=
  nextDataLimit c.recvMaxData consumed c.recvDataBytes c.config.receiveConnectionWindow

/- The highest received offset is only computed when a window is configured. -/
def Connection.nextReceiveStreamDataLimit (c : Connection) (stream : RecvStreamState)
    (consumed : Nat) : Except Error Nat :=
  match c.config.receiveStreamWindow with
  | none => nextDataLimit stream.maxData consumed 0 none
  | some window =>
    match addU64 stream.maxData consumed with
    | none => .error .internal
    | some _ =>
      match highestReceivedStreamEndOffset stream with
      | .error e => .error e
      | .ok highestReceived => nextDataLimit stream.maxData consumed highestReceived (some window)

/-- The changes the error path of `queueReceiveFlowControlCredit` takes back. -/
def restoreCredit (before : Connection) (stream : RecvStreamState) (c : Connection) : Connection :=
  { c with
    pendingMaxFrames := c.pendingMaxFrames.take before.pendingMaxFrames.length
    recvMaxData := before.recvMaxData
    recvMaxStreamsBidi := before.recvMaxStreamsBidi
    recvMaxStreamsUni := before.recvMaxStreamsUni }.putRecvStream stream

def queueReceiveFlowControlCredit (consumedLen : Nat) : ConnM RecvStreamState := do
  if consumedLen = 0 then queueReceiveStreamCountCredit stream 0
  else
    let c ← get
    onError (do
      let nextConnectionLimit ← liftExcept (c.nextReceiveConnectionDataLimit consumedLen)
      let nextStreamLimit ← liftExcept (c.nextReceiveStreamDataLimit stream consumedLen)
      let dataLen ← liftExcept (maxFrameWireLen (.data nextConnectionLimit))
      failIf (dataLen > c.maxTxDatagramSize) .bufferTooSmall
      let streamLen ← liftExcept (maxFrameWireLen (.streamData stream.streamId nextStreamLimit))
      failIf (streamLen > c.maxTxDatagramSize) .bufferTooSmall
      queueMaxDataFrame nextConnectionLimit
      queueMaxStreamDataFrame stream.streamId nextStreamLimit
      let credited := { stream with maxData := nextStreamLimit }
      modify fun c => { c with recvMaxData := nextConnectionLimit }.putRecvStream credited
      queueReceiveStreamCountCredit credited consumedLen) (restoreCredit c stream)

def markReceiveDataReadIfComplete : RecvStreamState :=
  if stream.resetErrorCode.isSome then stream
  else
    match stream.finalSize with
    | none => stream
    | some finalSize =>
      if stream.data.length ≥ finalSize ∧ stream.readOffset ≥ finalSize then
        { stream with dataReadObserved := true }
      else stream

/-- Returns the bytes copied to the caller; `none` when there is nothing to read. -/
def recvOnStream (streamId bufLen : Nat) : ConnM (Option Bytes) := do
  let c ← get
  failIf c.isClosingOrClosed .connectionClosed
  failIf (streamId > maxQuicVarint) .invalidStream
  failIf (!isBidirectional streamId && isLocalInitiator c.side streamId) .invalidStream
  match c.findRecvStream streamId with
  | none => pure none
  | some stream =>
    let available := stream.data.drop stream.readOffset
    let n := min bufLen available.length
    if stream.resetErrorCode.isSome then
      if c.config.enableResetPartialDelivery ∧ stream.readOffset < stream.data.length then
        -- buffered data is delivered before the reset is reported
        let stream ← queueReceiveFlowControlCredit stream n
        modify fun c => c.putRecvStream { stream with readOffset := stream.readOffset + n }
        pure (some (available.take n))
      else
        let stream ← queueClosedReceiveStreamCountCredit stream
        modify fun c => c.putRecvStream { stream with resetReadObserved := true }
        throw .streamClosed
    else if stream.readOffset ≥ stream.data.length then
      let stream ← queueReceiveFlowControlCredit stream 0
      modify fun c => c.putRecvStream (markReceiveDataReadIfComplete stream)
      pure none
    else
      let stream ← queueReceiveFlowControlCredit stream n
      modify fun c => c.putRecvStream
        (markReceiveDataReadIfComplete { stream with readOffset := stream.readOffset + n })
      pure (some (available.take n))

/-- The shared body of the two limit computations, over the largest value of the limit. -/
def nextLimitAfterPeerBlocked (maximum currentLimit reportedLimit : Nat) (window : Option Nat) : Option Nat :=
  match window with
  | none => none
  | some window =>
    let cappedReported := min reportedLimit maximum
    if window = 0 ∨ cappedReported < currentLimit then none
    else
      let targetLimit := cappedReported + min window (maximum - cappedReported)
      if targetLimit ≤ currentLimit then none else some targetLimit

variable (currentLimit reportedLimit : Nat) (window : Option Nat)

def nextReceiveLimitAfterPeerBlocked : Option Nat :=
  nextLimitAfterPeerBlocked maxQuicVarint currentLimit reportedLimit window

def nextReceiveStreamCountLimitAfterPeerBlocked : Option Nat :=
  nextLimitAfterPeerBlocked maxStreamCount currentLimit reportedLimit window

def raiseReported (old : Option Nat) (reported : Nat) : Option Nat :=
  match old with
  | some current => some (max current reported)
  | none => some reported

/- The shared body of the four BLOCKED handlers: record the report, repeat the current
limit to a peer that has not seen it, and otherwise raise the limit if a window allows. -/
def answerBlocked (report : Connection → Connection) (limit : Connection → Nat)
    (next : Connection → Option Nat) (queue : Nat → ConnM Unit)
    (raise : Nat → Connection → Connection) (reported : Nat) : ConnM Unit := do
  modify report
  let c ← get
  if reported < limit c then queue (limit c)
  else
    match next c with
    | some nextLimit =>
      queue nextLimit
      modify (raise nextLimit)
    | none => pure ()

def receiveDataBlockedFrame (maximumData : Nat) : ConnM Unit :=
  answerBlocked
    (fun c => { c with peerDataBlockedLimit := raiseReported c.peerDataBlockedLimit maximumData })
    (fun c => c.recvMaxData)
    (fun c => nextReceiveLimitAfterPeerBlocked c.recvMaxData maximumData c.config.receiveConnectionWindow)
    queueMaxDataFrame
    (fun nextLimit c => { c with recvMaxData := nextLimit })
    maximumData

def recordStreamDataBlocked (limits : List PeerStreamDataBlockedState)
    (streamId maximumStreamData : Nat) : List PeerStreamDataBlockedState :=
  match Keyed.lookup PeerStreamDataBlockedState.streamId streamId limits with
  | some _ =>
    Keyed.adjust PeerStreamDataBlockedState.streamId streamId (fun blocked =>
      { blocked with maximumStreamData := max blocked.maximumStreamData maximumStreamData }) limits
  | none => limits ++ [⟨streamId, maximumStreamData⟩]

def receiveStreamDataBlockedFrame (streamId maximumStreamData : Nat) : ConnM Unit := do
  failIf (streamId > maxQuicVarint) .invalidStream
  liftExcept ((← get).validateIncomingStreamCount streamId)
  let stream ← ensureRecvStreamState streamId
  if stream.finalSize.isSome then pure ()
  else
    answerBlocked
      (fun c => { c with
        peerStreamDataBlockedLimits :=
          recordStreamDataBlocked c.peerStreamDataBlockedLimits streamId maximumStreamData })
      (fun _ => stream.maxData)
      (fun c => nextReceiveLimitAfterPeerBlocked stream.maxData maximumStreamData
        c.config.receiveStreamWindow)
      (queueMaxStreamDataFrame streamId)
      (fun nextLimit c => c.putRecvStream { stream with maxData := nextLimit })
      maximumStreamData

def receiveStreamsBlockedBidiFrame : ConnM Unit :=
  answerBlocked
    (fun c => { c with
      peerStreamsBlockedBidiLimit := raiseReported c.peerStreamsBlockedBidiLimit maximumStreams })
    (fun c => c.recvMaxStreamsBidi)
    (fun c => nextReceiveStreamCountLimitAfterPeerBlocked c.recvMaxStreamsBidi maximumStreams
      c.config.receiveStreamCountWindow)
    queueMaxStreamsBidiFrame
    (fun nextLimit c => { c with recvMaxStreamsBidi := nextLimit })
    maximumStreams

def receiveStreamsBlockedUniFrame : ConnM Unit :=
  answerBlocked
    (fun c => { c with
      peerStreamsBlockedUniLimit := raiseReported c.peerStreamsBlockedUniLimit maximumStreams })
    (fun c => c.recvMaxStreamsUni)
    (fun c => nextReceiveStreamCountLimitAfterPeerBlocked c.recvMaxStreamsUni maximumStreams
      c.config.receiveStreamCountWindow)
    queueMaxStreamsUniFrame
    (fun nextLimit c => { c with recvMaxStreamsUni := nextLimit })
    maximumStreams

end Quicz
