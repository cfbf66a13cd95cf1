import Quicz.Lib.Reader
import Quicz.Varint

/-! The frame codec of frame.zig (RFC 9000, section 19). Output buffers are unbounded here; a
writer that runs out of room is the caller's concern. -/
namespace Quicz

open Chunks Reader

inductive FrameError
  | endOfStream
  | invalidVarInt
  | unsupportedFrameType
  | invalidAckRange
  | invalidPaddingLength
  | invalidConnectionIdLength
  | invalidFrameLength
  | invalidFrameValue
  /-- Not an error of the source: the allocator is told to free memory that it did not hand out. -/
  | invalidFree
deriving DecidableEq, Repr

def reject (c : Prop) [Decidable c] (e : FrameError) : Except FrameError Unit :=
  if c then .error e else .ok ()

def validateFrameVarInt (value : Nat) : Except FrameError Unit :=
  reject (value > maxQuicVarint) .invalidFrameValue

def validateConnectionIdLen (len : Nat) : Except FrameError Unit :=
  reject (len = 0 ∨ len > 20) .invalidConnectionIdLength

def validateNewConnectionIdFrame (frame : NewConnectionIdFrame) : Except FrameError Unit := do
  validateFrameVarInt frame.sequenceNumber
  validateFrameVarInt frame.retirePriorTo
  validateConnectionIdLen frame.connectionId.length
  reject (frame.retirePriorTo > frame.sequenceNumber) .invalidFrameValue

def validateFrameSliceLen (data : Bytes) : Except FrameError Unit :=
  reject (data.length > maxQuicVarint) .invalidFrameValue

def validateNewTokenFrame (token : Bytes) : Except FrameError Unit := do
  reject (token.length = 0) .invalidFrameValue
  validateFrameSliceLen token

def validateConnectionCloseFrame (close : ConnectionCloseFrame) : Except FrameError Unit := do
  validateFrameVarInt close.errorCode
  validateFrameVarInt close.frameType
  validateFrameSliceLen close.reasonPhrase

def validateApplicationCloseFrame (close : ApplicationCloseFrame) : Except FrameError Unit := do
  validateFrameVarInt close.errorCode
  validateFrameSliceLen close.reasonPhrase

def validateResetStreamFrame (reset : ResetStreamFrame) : Except FrameError Unit := do
  validateFrameVarInt reset.streamId
  validateFrameVarInt reset.applicationErrorCode
  validateFrameVarInt reset.finalSize

def validateStopSendingFrame (stop : StopSendingFrame) : Except FrameError Unit := do
  validateFrameVarInt stop.streamId
  validateFrameVarInt stop.applicationErrorCode

def validateStreamCount (maximumStreams : Nat) : Except FrameError Unit :=
  reject (maximumStreams > maxStreamCount) .invalidFrameValue

/- The sum of two 64-bit numbers that does not fit is past the largest offset as well. -/
def validateFrameEndOffset (offset dataLen : Nat) : Except FrameError Unit :=
  reject (offset + dataLen > maxQuicVarint) .invalidFrameValue

variable (frame : StreamFrame)

def validateStreamFrame : Except FrameError Unit := do
  validateFrameVarInt frame.streamId
  validateFrameEndOffset frame.offset frame.data.length

variable (streamId maximumStreamData : Nat)

def validateMaxStreamDataFrame : Except FrameError Unit := do
  validateFrameVarInt streamId
  validateFrameVarInt maximumStreamData

def validateStreamDataBlockedFrame : Except FrameError Unit := do
  validateFrameVarInt streamId
  validateFrameVarInt maximumStreamData

def validateAckRanges (smallest : Nat) : List AckRange → Except FrameError Unit
  | [] => .ok ()
  | range :: rest => do
    validateFrameVarInt range.gap
    validateFrameVarInt range.ackRange
    reject (range.gap + 2 > maxU64 ∨ smallest < range.gap + 2) .invalidAckRange
    let rangeLargest := smallest - (range.gap + 2)
    reject (range.ackRange > rangeLargest) .invalidAckRange
    validateAckRanges (rangeLargest - range.ackRange) rest

def validateAckFrame (ack : AckFrame) : Except FrameError Unit := do
  validateFrameVarInt ack.largestAcknowledged
  validateFrameVarInt ack.ackDelay
  validateFrameVarInt ack.firstAckRange
  validateFrameVarInt ack.ranges.length
  reject (ack.firstAckRange > ack.largestAcknowledged) .invalidAckRange
  validateAckRanges (ack.largestAcknowledged - ack.firstAckRange) ack.ranges

def validateAckEcnFrame (ack : AckFrame) (counts : EcnCounts) : Except FrameError Unit := do
  validateAckFrame ack
  validateFrameVarInt counts.ect0Count
  validateFrameVarInt counts.ect1Count
  validateFrameVarInt counts.ecnCeCount

def writeVarInt (value : Nat) : Except FrameError Bytes :=
  match encodeVarInt value with
  | some bytes => .ok bytes
  | none => .error .invalidVarInt

def writeVarInts : List Nat → Except FrameError Bytes
  | [] => .ok []
  | value :: rest => do
    let first ← writeVarInt value
    return first ++ (← writeVarInts rest)

def writeSized (data : Bytes) : Except FrameError Bytes := do
  return (← writeVarInt data.length) ++ data

def writeAckRanges : List AckRange → Except FrameError Bytes
  | [] => .ok []
  | range :: rest => do
    let first ← writeVarInts [range.gap, range.ackRange]
    return first ++ (← writeAckRanges rest)

def encodeAckFrameFields (ack : AckFrame) : Except FrameError Bytes := do
  validateAckFrame ack
  let head ← writeVarInts [ack.largestAcknowledged, ack.ackDelay, ack.ranges.length, ack.firstAckRange]
  return head ++ (← writeAckRanges ack.ranges)

/-- The OFF bit is set for an offset other than 0, the LEN bit always. -/
def streamFrameType : UInt8 :=
  0x08 + (if frame.offset ≠ 0 then 0x04 else 0) + 0x02 + (if frame.fin then 0x01 else 0)

def writeStreamOffset (offset : Nat) : Except FrameError Bytes :=
  if offset ≠ 0 then writeVarInt offset else .ok []

def encodeFrame : Frame → Except FrameError Bytes
  | .padding len => do
    reject (len = 0) .invalidPaddingLength
    return List.replicate len 0x00
  | .ping => return [0x01]
  | .ack ack none => do
    validateAckFrame ack
    return 0x02 :: (← encodeAckFrameFields ack)
  | .ack ack (some counts) => do
    validateAckEcnFrame ack counts
    let fields ← encodeAckFrameFields ack
    return 0x03 :: fields ++ (← writeVarInts [counts.ect0Count, counts.ect1Count, counts.ecnCeCount])
  | .resetStream reset => do
    validateResetStreamFrame reset
    return 0x04 :: (← writeVarInts [reset.streamId, reset.applicationErrorCode, reset.finalSize])
  | .stopSending stop => do
    validateStopSendingFrame stop
    return 0x05 :: (← writeVarInts [stop.streamId, stop.applicationErrorCode])
  | .crypto frame => do
    validateFrameEndOffset frame.offset frame.data.length
    return 0x06 :: (← writeVarInt frame.offset) ++ (← writeSized frame.data)
  | .newToken token => do
    validateNewTokenFrame token
    return 0x07 :: (← writeSized token)
  | .stream frame => do
    validateStreamFrame frame
    let streamId ← writeVarInt frame.streamId
    let offset ← writeStreamOffset frame.offset
    return streamFrameType frame :: streamId ++ offset ++ (← writeSized frame.data)
  | .maxData maximumData => do
    validateFrameVarInt maximumData
    return 0x10 :: (← writeVarInt maximumData)
  | .maxStreamData streamId maximumStreamData => do
    validateMaxStreamDataFrame streamId maximumStreamData
    return 0x11 :: (← writeVarInts [streamId, maximumStreamData])
  | .maxStreamsBidi maximumStreams => do
    validateStreamCount maximumStreams
    return 0x12 :: (← writeVarInt maximumStreams)
  | .maxStreamsUni maximumStreams => do
    validateStreamCount maximumStreams
    return 0x13 :: (← writeVarInt maximumStreams)
  | .dataBlocked maximumData => do
    validateFrameVarInt maximumData
    return 0x14 :: (← writeVarInt maximumData)
  | .streamDataBlocked streamId maximumStreamData => do
    validateStreamDataBlockedFrame streamId maximumStreamData
    return 0x15 :: (← writeVarInts [streamId, maximumStreamData])
  | .streamsBlockedBidi maximumStreams => do
    validateStreamCount maximumStreams
    return 0x16 :: (← writeVarInt maximumStreams)
  | .streamsBlockedUni maximumStreams => do
    validateStreamCount maximumStreams
    return 0x17 :: (← writeVarInt maximumStreams)
  | .newConnectionId frame => do
    validateNewConnectionIdFrame frame
    let numbers ← writeVarInts [frame.sequenceNumber, frame.retirePriorTo]
    return 0x18 :: numbers ++ UInt8.ofNat frame.connectionId.length :: frame.connectionId ++
      frame.statelessResetToken
  | .retireConnectionId sequenceNumber => do
    validateFrameVarInt sequenceNumber
    return 0x19 :: (← writeVarInt sequenceNumber)
  | .pathChallenge data => return 0x1a :: data
  | .pathResponse data => return 0x1b :: data
  | .connectionClose close => do
    validateConnectionCloseFrame close
    return 0x1c :: (← writeVarInts [close.errorCode, close.frameType]) ++ (← writeSized close.reasonPhrase)
  | .applicationClose close => do
    validateApplicationCloseFrame close
    return 0x1d :: (← writeVarInt close.errorCode) ++ (← writeSized close.reasonPhrase)
  | .handshakeDone => return [0x1e]
  | .datagram data => return 0x31 :: (← writeSized data)

abbrev FrameReader (α : Type) : Type := Reader FrameError α

def readVarInt : FrameReader Nat := fun bytes =>
  match decodeVarInt bytes with
  | some (value, rest) => .ok (value, rest)
  | none => .error .endOfStream

def readByte : FrameReader UInt8
  | [] => .error .endOfStream
  | byte :: rest => .ok (byte, rest)

def readBytes (len : Nat) : FrameReader Bytes := fun bytes =>
  if bytes.length < len then .error .endOfStream else .ok (bytes.take len, bytes.drop len)

def minimalVarIntLen (value : Nat) : Except FrameError Nat :=
  if value ≤ 63 then .ok 1
  else if value ≤ 16383 then .ok 2
  else if value ≤ 1073741823 then .ok 4
  else if value ≤ maxQuicVarint then .ok 8
  else .error .invalidFrameValue

/-- A frame type must be written in as few bytes as it fits in. -/
def decodeFrameType : FrameReader Nat := do
  let before ← remainingLen
  let value ← readVarInt
  let after ← remainingLen
  let minimal ← attempt (minimalVarIntLen value)
  refuse (before - after ≠ minimal) .invalidFrameValue
  return value

def decodeAckRanges : Nat → FrameReader (List AckRange)
  | 0 => pure []
  | count + 1 => do
    let gap ← readVarInt
    let ackRange ← readVarInt
    return ⟨gap, ackRange⟩ :: (← decodeAckRanges count)

def decodeAckFrameFields : FrameReader AckFrame := do
  let largestAcknowledged ← readVarInt
  let ackDelay ← readVarInt
  let rangeCount ← readVarInt
  let firstAckRange ← readVarInt
  -- every range takes two bytes at least
  refuse (rangeCount * 2 > (← remainingLen)) .invalidFrameLength
  let ranges ← decodeAckRanges rangeCount
  let ack := { largestAcknowledged, ackDelay, firstAckRange, ranges : AckFrame }
  attempt (validateAckFrame ack)
  return ack

def decodeSized : FrameReader Bytes := do
  let len ← readVarInt
  readBytes len

variable (borrow : Bool) (frameType : Nat)

def decodeStreamOffset : FrameReader Nat :=
  if frameType &&& 0x04 ≠ 0 then readVarInt else pure 0

/-- Without a length the frame takes the rest of the payload. -/
def decodeStreamLen : FrameReader Nat :=
  if frameType &&& 0x02 ≠ 0 then readVarInt else remainingLen

def decodeStreamFrame : FrameReader Frame := do
  let streamId ← readVarInt
  let offset ← decodeStreamOffset frameType
  let len ← decodeStreamLen frameType
  attempt (validateFrameEndOffset offset len)
  let data ← readBytes len
  return .stream { streamId, offset, fin := frameType &&& 0x01 ≠ 0, data }

def decodeNewConnectionIdFrame : FrameReader Frame := do
  let sequenceNumber ← readVarInt
  let retirePriorTo ← readVarInt
  let len ← readByte
  attempt (validateConnectionIdLen len.toNat)
  refuse (retirePriorTo > sequenceNumber) .invalidFrameValue
  let connectionId ← readBytes len.toNat
  -- when the token is cut off the connection ID is freed, borrowed or not
  refuse (borrow ∧ (← remainingLen) < 16) .invalidFree
  let statelessResetToken ← readBytes 16
  return .newConnectionId { sequenceNumber, retirePriorTo, connectionId, statelessResetToken }

/- With `borrow` the payloads are slices of the input instead of copies. The mask of the STREAM test
looks at the low eight bits of the type only, as in the source. -/
def decodeFrameFields : FrameReader Frame :=
  match frameType with
  | 0x00 => pure (.padding 1)
  | 0x01 => pure .ping
  | 0x02 => do return .ack (← decodeAckFrameFields) none
  | 0x03 => do
    let ack ← decodeAckFrameFields
    let ect0Count ← readVarInt
    let ect1Count ← readVarInt
    let ecnCeCount ← readVarInt
    return .ack ack (some { ect0Count, ect1Count, ecnCeCount })
  | 0x04 => do
    let streamId ← readVarInt
    let applicationErrorCode ← readVarInt
    let finalSize ← readVarInt
    return .resetStream { streamId, applicationErrorCode, finalSize }
  | 0x05 => do
    let streamId ← readVarInt
    let applicationErrorCode ← readVarInt
    return .stopSending { streamId, applicationErrorCode }
  | 0x06 => do
    let offset ← readVarInt
    let dataLen ← readVarInt
    attempt (validateFrameEndOffset offset dataLen)
    return .crypto { offset, data := ← readBytes dataLen }
  | 0x07 => do
    let len ← readVarInt
    refuse (len = 0) .invalidFrameValue
    return .newToken (← readBytes len)
  | 0x10 => do return .maxData (← readVarInt)
  | 0x11 => do
    let streamId ← readVarInt
    return .maxStreamData streamId (← readVarInt)
  | 0x12 => do
    let maximumStreams ← readVarInt
    attempt (validateStreamCount maximumStreams)
    return .maxStreamsBidi maximumStreams
  | 0x13 => do
    let maximumStreams ← readVarInt
    attempt (validateStreamCount maximumStreams)
    return .maxStreamsUni maximumStreams
  | 0x14 => do return .dataBlocked (← readVarInt)
  | 0x15 => do
    let streamId ← readVarInt
    return .streamDataBlocked streamId (← readVarInt)
  | 0x16 => do
    let maximumStreams ← readVarInt
    attempt (validateStreamCount maximumStreams)
    return .streamsBlockedBidi maximumStreams
  | 0x17 => do
    let maximumStreams ← readVarInt
    attempt (validateStreamCount maximumStreams)
    return .streamsBlockedUni maximumStreams
  | 0x18 => decodeNewConnectionIdFrame borrow
  | 0x19 => do return .retireConnectionId (← readVarInt)
  | 0x1a => do return .pathChallenge (← readBytes 8)
  | 0x1b => do return .pathResponse (← readBytes 8)
  | frameType =>
    if frameType &&& 0xf8 = 0x08 then decodeStreamFrame frameType
    else if frameType = 0x1c then do
      let errorCode ← readVarInt
      let triggeringFrameType ← readVarInt
      return .connectionClose { errorCode, frameType := triggeringFrameType, reasonPhrase := ← decodeSized }
    else if frameType = 0x1d then do
      let errorCode ← readVarInt
      return .applicationClose { errorCode, reasonPhrase := ← decodeSized }
    else if frameType = 0x1e then pure .handshakeDone
    else if frameType = 0x31 then do return .datagram (← decodeSized)
    else fail .unsupportedFrameType

def decodeFrameImpl : FrameReader Frame := do
  let frameType ← decodeFrameType
  decodeFrameFields borrow frameType

def decodeFrame : FrameReader Frame := decodeFrameImpl false

variable (data : Bytes)

/-- The first frame of a payload and the bytes it takes. PADDING is read up to the next frame. -/
def decodeFrameSliceImpl : Except FrameError (Frame × Nat) :=
  match data with
  | [] => .error .endOfStream
  | first :: _ =>
    if first = 0x00 then
      let len := (data.takeWhile (· = 0x00)).length
      .ok (.padding len, len)
    else
      match decodeFrameImpl borrow data with
      | .ok (frame, rest) => .ok (frame, data.length - rest.length)
      | .error e => .error e

def decodeFrameSlice : Except FrameError (Frame × Nat) := decodeFrameSliceImpl false data

def decodeFrameSliceBorrowing : Except FrameError (Frame × Nat) := decodeFrameSliceImpl true data

variable {α : Type}

@[simp] theorem reject_ok {c : Prop} [Decidable c] {e : FrameError} : reject c e = .ok () ↔ ¬ c := by
  unfold reject
  split <;> simp_all

variable {value : Nat} {bytes : Bytes}

@[simp] theorem validateFrameVarInt_ok : validateFrameVarInt value = .ok () ↔ value ≤ maxQuicVarint := by
  rw [validateFrameVarInt, reject_ok, not_lt]

theorem check_then {x y : Except FrameError Unit} : (do x; y) = .ok () ↔ x = .ok () ∧ y = .ok () := by
  cases x with
  | error e | ok u => simp [bind, Except.bind]

theorem bind_ok {β : Type} {x : Except FrameError α} {f : α → Except FrameError β} {b : β} :
    (x >>= f) = .ok b ↔ ∃ a, x = .ok a ∧ f a = .ok b := by
  cases x <;> simp [bind, Except.bind]

theorem readVarInt_reads (written : writeVarInt value = .ok bytes) : Reads readVarInt bytes value := by
  intro rest
  unfold writeVarInt at written
  cases encoded : encodeVarInt value with
  | none => simp [encoded] at written
  | some out =>
    simp only [encoded, Except.ok.injEq] at written
    subst written
    rw [readVarInt, decodeVarInt_encodeVarInt encoded rest]

theorem writeVarInt_total (bound : value ≤ maxQuicVarint) : ∃ bytes, writeVarInt value = .ok bytes := by
  obtain ⟨bytes, encoded⟩ := encodeVarInt_isSome bound
  exact ⟨bytes, by rw [writeVarInt, encoded]⟩

theorem writeVarInt_pos (written : writeVarInt value = .ok bytes) : 1 ≤ bytes.length := by
  have read := readVarInt_reads written []
  cases bytes with
  | nil => simp [readVarInt, decodeVarInt] at read
  | cons first rest => simp

theorem writeVarInts_total {v : List Nat} (bounds : ∀ value ∈ v, value ≤ maxQuicVarint) :
    ∃ bytes, writeVarInts v = .ok bytes := by
  induction v with
  | nil => exact ⟨[], rfl⟩
  | cons value rest ih =>
    obtain ⟨here, later⟩ := List.forall_mem_cons.mp bounds
    obtain ⟨first, written⟩ := writeVarInt_total here
    obtain ⟨others, writtenRest⟩ := ih later
    exact ⟨first ++ others, by rw [writeVarInts, written, writtenRest]; rfl⟩

theorem writeAckRanges_cons {range : AckRange} {rest : List AckRange}
    (written : writeAckRanges (range :: rest) = .ok bytes) : ∃ gap len others,
      writeVarInt range.gap = .ok gap ∧ writeVarInt range.ackRange = .ok len ∧
      writeAckRanges rest = .ok others ∧ bytes = gap ++ (len ++ others) := by
  simp only [writeAckRanges, writeVarInts, bind_ok, pure, Except.pure, Except.ok.injEq] at written
  obtain ⟨_, ⟨gap, writtenGap, _, ⟨len, writtenLen, _, rfl, rfl⟩, rfl⟩, others, writtenRest, rfl⟩ := written
  exact ⟨gap, len, others, writtenGap, writtenLen, writtenRest, by simp⟩

theorem decodeAckRanges_reads (written : writeAckRanges ranges = .ok bytes) :
    Reads (decodeAckRanges ranges.length) bytes ranges ∧ ranges.length * 2 ≤ bytes.length := by
  induction ranges generalizing bytes with
  | nil =>
    obtain rfl : bytes = [] := by simpa [writeAckRanges, eq_comm] using written
    exact ⟨.pure [], Nat.zero_le _⟩
  | cons range rest ih =>
    obtain ⟨gap, len, others, writtenGap, writtenLen, writtenRest, rfl⟩ := writeAckRanges_cons written
    obtain ⟨reads, long⟩ := ih writtenRest
    refine ⟨(readVarInt_reads writtenGap).bind ((readVarInt_reads writtenLen).bind ?_), ?_⟩
    · have listed := reads.bind (f := fun others => pure (range :: others)) (.pure (range :: rest))
      rwa [List.append_nil] at listed
    · have := writeVarInt_pos writtenGap
      have := writeVarInt_pos writtenLen
      simp only [List.length_cons, List.length_append]
      omega

variable {ack : AckFrame} {ranges : List AckRange}

theorem decodeAckFrameFields_reads (encoded : encodeAckFrameFields ack = .ok bytes) :
    Reads decodeAckFrameFields bytes ack ∧ validateAckFrame ack = .ok () := by
  simp only [encodeAckFrameFields, writeVarInts, bind_ok, pure, Except.pure, Except.ok.injEq] at encoded
  obtain ⟨⟨⟩, valid, _, ⟨largest, writtenLargest, _, ⟨delay, writtenDelay, _, ⟨count, writtenCount, _,
    ⟨first, writtenFirst, _, rfl, rfl⟩, rfl⟩, rfl⟩, rfl⟩, ranges, writtenRanges, rfl⟩ := encoded
  obtain ⟨reads, long⟩ := decodeAckRanges_reads writtenRanges
  refine ⟨?_, valid⟩
  have shape : largest ++ (delay ++ (count ++ (first ++ []))) ++ ranges =
      largest ++ (delay ++ (count ++ (first ++ ranges))) := by simp
  rw [shape]
  refine (readVarInt_reads writtenLargest).bind ((readVarInt_reads writtenDelay).bind
    ((readVarInt_reads writtenCount).bind ((readVarInt_reads writtenFirst).bind (.measure fun rest => ?_))))
  have fits : ¬ ack.ranges.length * 2 > (ranges ++ rest).length := by
    rw [List.length_append]
    omega
  have tail : Reads (do
      refuse (ack.ranges.length * 2 > (ranges ++ rest).length) FrameError.invalidFrameLength
      let listed ← decodeAckRanges ack.ranges.length
      attempt (validateAckFrame ⟨ack.largestAcknowledged, ack.ackDelay, ack.firstAckRange, listed⟩)
      return (⟨ack.largestAcknowledged, ack.ackDelay, ack.firstAckRange, listed⟩ : AckFrame)) ranges ack := by
    have checked := reads.bind (f := fun listed => do
      attempt (validateAckFrame ⟨ack.largestAcknowledged, ack.ackDelay, ack.firstAckRange, listed⟩)
      return (⟨ack.largestAcknowledged, ack.ackDelay, ack.firstAckRange, listed⟩ : AckFrame))
      ((Reads.attempt valid).skip (.pure ack))
    rw [List.append_nil] at checked
    exact (Reads.refuse fits).skip checked
  exact tail rest

theorem decodeFrameType_reads {first : UInt8} (small : first.toNat ≤ 63) :
    Reads decodeFrameType [first] first.toNat := by
  intro rest
  have high : first.toNat / 64 = 0 := by omega
  have low : first.toNat % 64 = first.toNat := by omega
  have read : readVarInt (first :: rest) = .ok (first.toNat, rest) := by
    simp [readVarInt, decodeVarInt, high, low, BigEndian.decode]
  have shortest : minimalVarIntLen first.toNat = .ok 1 := by rw [minimalVarIntLen, if_pos small]
  simp [decodeFrameType, remainingLen, bind, StateT.bind, Except.bind, read, attempt, shortest, refuse, Except.map]

theorem decodeFrame_ack (encoded : encodeFrame (.ack ack none) = .ok bytes) :
    Reads decodeFrame bytes (.ack ack none) ∧ validateAckFrame ack = .ok () := by
  simp only [encodeFrame, bind_ok, pure, Except.pure, Except.ok.injEq] at encoded
  obtain ⟨_, -, fields, written, rfl⟩ := encoded
  obtain ⟨reads, valid⟩ := decodeAckFrameFields_reads written
  refine ⟨?_, valid⟩
  have typed : Reads decodeFrameType [0x02] 2 := decodeFrameType_reads (by decide)
  have framed := reads.bind (f := fun ack => pure (Frame.ack ack none)) (.pure _)
  rw [List.append_nil] at framed
  exact typed.bind framed

theorem writeAckRanges_total {smallest : Nat}
    (valid : validateAckRanges smallest ranges = .ok ()) : ∃ bytes, writeAckRanges ranges = .ok bytes := by
  induction ranges generalizing smallest with
  | nil => exact ⟨[], rfl⟩
  | cons range rest ih =>
    simp only [validateAckRanges, check_then, validateFrameVarInt_ok] at valid
    obtain ⟨gap, len, -, -, later⟩ := valid
    obtain ⟨first, written⟩ := writeVarInts_total (v := [range.gap, range.ackRange]) (by simp [gap, len])
    obtain ⟨others, writtenRest⟩ := ih later
    exact ⟨first ++ others, by rw [writeAckRanges, written, writtenRest]; rfl⟩

theorem encodeFrame_ack (valid : validateAckFrame ack = .ok ()) :
    ∃ bytes, encodeFrame (.ack ack none) = .ok bytes := by
  have parts := valid
  simp only [validateAckFrame, check_then, validateFrameVarInt_ok] at parts
  obtain ⟨largest, delay, first, count, -, ranges⟩ := parts
  obtain ⟨head, written⟩ := writeVarInts_total
    (v := [ack.largestAcknowledged, ack.ackDelay, ack.ranges.length, ack.firstAckRange])
    (by simp [largest, delay, first, count])
  obtain ⟨tail, writtenRanges⟩ := writeAckRanges_total ranges
  exact ⟨0x02 :: (head ++ tail), by
    rw [encodeFrame, encodeAckFrameFields, valid, written, writtenRanges]; rfl⟩

end Quicz
