import Quicz.FrameCodec.RoundTrip
import Quicz.Lib.Measured
import Quicz.WireLen

/-! The functions that predict the size of a frame succeed on the frames that can be encoded, with the number
of bytes the encoder writes. Both are measured against one specification, in which nothing overflows. -/
namespace Quicz

open Chunks List Measured Quicz.Frame

variable (value : Nat)

def varIntLen : Nat :=
  if value ≤ 63 then 1 else if value ≤ 16383 then 2 else if value ≤ 1073741823 then 4 else 8

theorem varIntLen_le : varIntLen value ≤ 8 := by
  unfold varIntLen
  split_ifs <;> omega

theorem quicVarIntWireLen_measured :
    Measured id (quicVarIntWireLen value) (value ≤ maxQuicVarint) (varIntLen value) := by
  unfold quicVarIntWireLen varIntLen maxQuicVarint
  split_ifs
  all_goals first
    | exact (ok _).congr (by simp only [true_iff]; omega) fun _ => rfl
    | exact ⟨fun h => by omega, fun _ result => nomatch result⟩

theorem writeVarInt_measured : Measured length (writeVarInt value) (value ≤ maxQuicVarint) (varIntLen value) := by
  unfold writeVarInt encodeVarInt varIntLen maxQuicVarint
  split_ifs
  all_goals first
    | exact (ok _).congr (by simp only [true_iff]; omega) fun _ => BigEndian.length_encode ..
    | exact ⟨fun h => by omega, fun _ result => nomatch result⟩

variable {current extra : Nat}

theorem addWireLen_fits (fits : current + extra ≤ maxU64) : addWireLen current extra = .ok (current + extra) := by
  rw [addWireLen, if_pos fits]

variable {k : Nat → Except Error Nat}

theorem addLen_then {current extra n : Nat} {c : Prop}
    (fits : current + extra ≤ maxU64) (rest : Measured id (k (current + extra)) c n) :
    Measured id (addWireLen current extra >>= k) c n := by
  rw [addWireLen_fits fits]
  exact rest

theorem addLen_measured (fits : current + extra ≤ maxU64) :
    Measured id (addWireLen current extra) True (current + extra) := by
  rw [addWireLen_fits fits]
  exact .ok _

theorem addVarInt_then {current value n : Nat} {c : Prop}
    (fits : current + varIntLen value ≤ maxU64)
    (rest : value ≤ maxQuicVarint → Measured id (k (current + varIntLen value)) c n) :
    Measured id (do let len ← addWireLen current (← quicVarIntWireLen value); k len)
      (value ≤ maxQuicVarint ∧ c) n :=
  (quicVarIntWireLen_measured value).bind fun len bounded sized => by
    rw [id] at sized
    subst sized
    exact addLen_then fits (rest bounded)

theorem addVarInt_measured {current value : Nat} (fits : current + varIntLen value ≤ maxU64) :
    Measured id (do addWireLen current (← quicVarIntWireLen value)) (value ≤ maxQuicVarint)
      (current + varIntLen value) :=
  ((quicVarIntWireLen_measured value).bind fun len _ sized => by
    rw [id] at sized
    subst sized
    exact addLen_measured fits).congr (by simp) fun _ => rfl

theorem append_measured {x y : Except FrameError Bytes} {c d : Prop} {n m : Nat} (front : Measured length x c n)
    (back : Measured length y d m) : Measured length (do return (← x) ++ (← y)) (c ∧ d) (n + m) :=
  front.bind fun first _ sized => by
    rw [← sized]
    exact back.map (first.length + ·) fun _ => length_append

theorem writeVarInts_measured (v : List Nat) :
    Measured length (writeVarInts v) (∀ value ∈ v, value ≤ maxQuicVarint) (v.map varIntLen).sum := by
  induction v with
  | nil => exact (ok _).congr (by simp) fun _ => rfl
  | cons value rest ih =>
    exact (append_measured (writeVarInt_measured value) ih).congr (by simp) fun _ => by simp

theorem writeSized_measured (data : Bytes) : Measured length (writeSized data)
    (data.length ≤ maxQuicVarint) (varIntLen data.length + data.length) :=
  (writeVarInt_measured data.length).map (· + data.length) fun _ => length_append

theorem validateStreamCount_ok {count : Nat} : validateStreamCount count = .ok () ↔ count ≤ maxStreamCount := by
  rw [validateStreamCount, reject_ok, not_lt]

theorem streamCount_le {count : Nat} (bounded : count ≤ maxStreamCount) : count ≤ maxQuicVarint := by
  simp only [maxStreamCount, maxQuicVarint] at bounded ⊢
  omega

def ackRangesLen (ranges : List AckRange) : Nat :=
  (ranges.map fun range => varIntLen range.gap + varIntLen range.ackRange).sum

theorem writeAckRanges_measured (ranges : List AckRange) : Measured length (writeAckRanges ranges)
    (∀ range ∈ ranges, range.gap ≤ maxQuicVarint ∧ range.ackRange ≤ maxQuicVarint) (ackRangesLen ranges) := by
  induction ranges with
  | nil => exact (ok _).congr (by simp) fun _ => rfl
  | cons range rest ih =>
    exact (append_measured (writeVarInts_measured [range.gap, range.ackRange]) ih).congr (by simp) fun _ => by
      simp [ackRangesLen]

/-- A range takes no more bytes than there are packets in it and in the gap before it, and two. -/
theorem varIntLen_le_succ : varIntLen value ≤ value + 1 := by
  unfold varIntLen
  split_ifs <;> omega

theorem ackRangesWireRange_cons {range : AckRange} {rest : List AckRange} :
    ackRangesWireRange smallest (range :: rest) = .ok () ↔ range.gap + 2 ≤ maxU64 ∧ range.gap + 2 ≤ smallest ∧
      range.ackRange ≤ smallest - (range.gap + 2) ∧
      ackRangesWireRange (smallest - (range.gap + 2) - range.ackRange) rest = .ok () := by
  rw [ackRangesWireRange]
  split_ifs with huge short long
  · simp [Nat.not_le.mpr huge]
  · simp [Nat.not_le.mpr short]
  · simp [Nat.not_le.mpr long]
  · simp [Nat.not_lt.mp huge, Nat.not_lt.mp short, Nat.not_lt.mp long]

variable {ranges : List AckRange} {smallest : Nat}

/-- The two modules check the ranges of an ACK frame alike. -/
theorem validateAckRanges_ok :
    validateAckRanges smallest ranges = .ok () ↔ ackRangesWireRange smallest ranges = .ok () ∧
      ∀ range ∈ ranges, range.gap ≤ maxQuicVarint ∧ range.ackRange ≤ maxQuicVarint := by
  induction ranges generalizing smallest with
  | nil => simp [validateAckRanges, ackRangesWireRange]
  | cons range rest ih =>
    simp only [validateAckRanges, check_then, validateFrameVarInt_ok, reject_ok, ih, ackRangesWireRange_cons,
      forall_mem_cons, not_or, not_lt]
    tauto

/-- Ranges that fit below a packet number take no more bytes than it counts. -/
theorem ackRangesLen_le (fit : ackRangesWireRange smallest ranges = .ok ()) : ackRangesLen ranges ≤ smallest := by
  induction ranges generalizing smallest with
  | nil => exact Nat.zero_le _
  | cons range rest ih =>
    obtain ⟨-, short, long, fit⟩ := ackRangesWireRange_cons.mp fit
    have later := ih fit
    have gap := varIntLen_le_succ range.gap
    have len := varIntLen_le_succ range.ackRange
    simp only [ackRangesLen, map_cons, sum_cons] at later ⊢
    omega

theorem ackRangesWireLen_measured {len : Nat} (fits : len + ackRangesLen ranges ≤ maxU64) :
    Measured id (ackRangesWireLen len ranges)
      (∀ range ∈ ranges, range.gap ≤ maxQuicVarint ∧ range.ackRange ≤ maxQuicVarint)
      (len + ackRangesLen ranges) := by
  induction ranges generalizing len with
  | nil => exact (ok _).congr (by simp) fun _ => rfl
  | cons range rest ih =>
    simp only [ackRangesLen, map_cons, sum_cons] at fits ⊢
    refine (addVarInt_then (by omega) fun _ => addVarInt_then (by omega) fun _ => ih ?_).congr ?_ fun _ => ?_
    · simp only [ackRangesLen]
      omega
    · simp [and_assoc]
    · simp only [ackRangesLen]
      omega

/-- An ACK frame is valid for the encoder when its fields are integers and its ranges pass the check of the
size computation. -/
theorem validateAckFrame_ok {ack : AckFrame} : validateAckFrame ack = .ok () ↔
    validateAckFrameWireRange ack = .ok () ∧ ack.largestAcknowledged ≤ maxQuicVarint ∧ ack.ackDelay ≤ maxQuicVarint ∧
      ack.ranges.length ≤ maxQuicVarint ∧ ack.firstAckRange ≤ maxQuicVarint ∧
      ∀ range ∈ ack.ranges, range.gap ≤ maxQuicVarint ∧ range.ackRange ≤ maxQuicVarint := by
  simp only [validateAckFrame, check_then, validateFrameVarInt_ok, reject_ok, validateAckRanges_ok,
    validateAckFrameWireRange]
  split_ifs with long
  · simp [long]
  · simp only [long, not_false_eq_true, true_and]
    tauto

variable (ack : AckFrame)

def ackFrameLen : Nat :=
  1 + varIntLen ack.largestAcknowledged + varIntLen ack.ackDelay + varIntLen ack.ranges.length +
    varIntLen ack.firstAckRange + ackRangesLen ack.ranges

theorem encodeAckFrameFields_measured : Measured length (encodeAckFrameFields ack)
    (validateAckFrame ack = .ok ()) (ackFrameLen ack - 1) :=
  (check fun _ => append_measured (writeVarInts_measured _) (writeAckRanges_measured ack.ranges)).congr
    (by
      rw [and_iff_left_iff_imp]
      intro valid
      obtain ⟨-, largest, delay, count, first, ranges⟩ := validateAckFrame_ok.mp valid
      exact ⟨by simp [largest, delay, count, first], ranges⟩)
    fun _ => by
      simp only [map_cons, map_nil, sum_cons, sum_nil, ackFrameLen]
      omega

theorem ackFrameWireLen_measured :
    Measured id (ackFrameWireLen ack) (validateAckFrame ack = .ok ()) (ackFrameLen ack) := by
  have largest := varIntLen_le ack.largestAcknowledged
  have delay := varIntLen_le ack.ackDelay
  have count := varIntLen_le ack.ranges.length
  have first := varIntLen_le ack.firstAckRange
  refine (check fun valid => addVarInt_then ?_ fun bounded => addVarInt_then ?_ fun _ =>
    addVarInt_then ?_ fun _ => addVarInt_then ?_ fun _ => ackRangesWireLen_measured ?_).congr
    validateAckFrame_ok.symm fun _ => rfl
  case refine_5 =>
    -- the ranges lie below the largest packet number, which is an integer of the wire format
    have ranges : ackRangesLen ack.ranges ≤ maxQuicVarint := by
      unfold validateAckFrameWireRange at valid
      split_ifs at valid
      exact le_trans (ackRangesLen_le valid) (le_trans (Nat.sub_le ..) bounded)
    simp only [maxQuicVarint, maxU64] at ranges ⊢
    omega
  all_goals
    simp only [maxU64]
    omega

def Frame.Encodable : Frame → Prop
  | .padding len => len ≠ 0
  | .ping | .handshakeDone | .pathChallenge _ | .pathResponse _ => True
  | .ack fields none => validateAckFrame fields = .ok ()
  | .ack fields (some counts) => validateAckFrame fields = .ok () ∧ counts.ect0Count ≤ maxQuicVarint ∧
      counts.ect1Count ≤ maxQuicVarint ∧ counts.ecnCeCount ≤ maxQuicVarint
  | .resetStream reset => reset.streamId ≤ maxQuicVarint ∧ reset.applicationErrorCode ≤ maxQuicVarint ∧
      reset.finalSize ≤ maxQuicVarint
  | .stopSending stop => stop.streamId ≤ maxQuicVarint ∧ stop.applicationErrorCode ≤ maxQuicVarint
  | .newToken token => token ≠ [] ∧ token.length ≤ maxQuicVarint
  | .stream frame => frame.streamId ≤ maxQuicVarint ∧ frame.offset + frame.data.length ≤ maxQuicVarint
  | .crypto frame => frame.offset + frame.data.length ≤ maxQuicVarint
  | .maxData value | .dataBlocked value | .retireConnectionId value => value ≤ maxQuicVarint
  | .maxStreamData streamId value | .streamDataBlocked streamId value =>
    streamId ≤ maxQuicVarint ∧ value ≤ maxQuicVarint
  | .maxStreamsBidi count | .maxStreamsUni count | .streamsBlockedBidi count | .streamsBlockedUni count =>
    count ≤ maxStreamCount
  | .newConnectionId frame => frame.sequenceNumber ≤ maxQuicVarint ∧ frame.retirePriorTo ≤ maxQuicVarint ∧
      frame.connectionId ≠ [] ∧ frame.connectionId.length ≤ 20 ∧ frame.retirePriorTo ≤ frame.sequenceNumber
  | .connectionClose close => close.errorCode ≤ maxQuicVarint ∧ close.frameType ≤ maxQuicVarint ∧
      close.reasonPhrase.length ≤ maxQuicVarint
  | .applicationClose close => close.errorCode ≤ maxQuicVarint ∧ close.reasonPhrase.length ≤ maxQuicVarint
  | .datagram data => data.length ≤ maxQuicVarint

def sizedLen (data : Bytes) : Nat := varIntLen data.length + data.length

def Frame.wireLen : Frame → Nat
  | .padding len => len
  | .ping | .handshakeDone => 1
  | .pathChallenge _ | .pathResponse _ => 9
  | .ack fields none => ackFrameLen fields
  | .ack fields (some counts) => ackFrameLen fields + varIntLen counts.ect0Count + varIntLen counts.ect1Count +
      varIntLen counts.ecnCeCount
  | .resetStream reset => 1 + varIntLen reset.streamId + varIntLen reset.applicationErrorCode +
      varIntLen reset.finalSize
  | .stopSending stop => 1 + varIntLen stop.streamId + varIntLen stop.applicationErrorCode
  | .newToken token => 1 + sizedLen token
  | .stream frame => 1 + varIntLen frame.streamId + (if frame.offset = 0 then 0 else varIntLen frame.offset) +
      sizedLen frame.data
  | .crypto frame => 1 + varIntLen frame.offset + sizedLen frame.data
  | .maxData value | .dataBlocked value | .retireConnectionId value => 1 + varIntLen value
  | .maxStreamData streamId value | .streamDataBlocked streamId value => 1 + varIntLen streamId + varIntLen value
  | .maxStreamsBidi count | .maxStreamsUni count | .streamsBlockedBidi count | .streamsBlockedUni count =>
    1 + varIntLen count
  | .newConnectionId frame => 1 + varIntLen frame.sequenceNumber + varIntLen frame.retirePriorTo + 1 +
      frame.connectionId.length + frame.statelessResetToken.length
  | .connectionClose close => 1 + varIntLen close.errorCode + varIntLen close.frameType +
      sizedLen close.reasonPhrase
  | .applicationClose close => 1 + varIntLen close.errorCode + sizedLen close.reasonPhrase
  | .datagram data => 1 + sizedLen data

variable {x : Except FrameError Bytes} {c : Prop} {n : Nat}

theorem typed_measured (first : UInt8) (fields : Measured length x c n) :
    Measured length (do return first :: (← x)) c (1 + n) :=
  fields.map (1 + ·) fun _ => by rw [length_cons, Nat.add_comm]

theorem typed_append_measured {y : Except FrameError Bytes} {d : Prop} {m : Nat} (first : UInt8)
    (front : Measured length x c n) (back : Measured length y d m) :
    Measured length (do return first :: (← x) ++ (← y)) (c ∧ d) (1 + n + m) :=
  front.bind fun fields _ sized => by
    rw [← sized]
    exact back.map (1 + fields.length + ·) fun _ => by
      rw [length_append, length_cons, Nat.add_comm 1]

theorem writeStreamOffset_measured (offset : Nat) : Measured length (writeStreamOffset offset)
    (offset ≤ maxQuicVarint) (if offset = 0 then 0 else varIntLen offset) := by
  unfold writeStreamOffset
  by_cases zero : offset = 0
  · rw [if_neg (not_not.mpr zero), if_pos zero, zero]
    exact (ok _).congr (by simp) fun _ => rfl
  · rw [if_pos zero, if_neg zero]
    exact writeVarInt_measured offset

theorem stream_measured (frame : StreamFrame) : Measured length (encodeFrame (.stream frame))
    (Frame.Encodable (.stream frame)) (wireLen (.stream frame)) := by
  have fields := (writeVarInt_measured frame.streamId).bind fun streamId _ sizedId =>
    (writeStreamOffset_measured frame.offset).bind fun offset _ sizedOffset => by
      have written : Measured length
          (do return streamFrameType frame :: streamId ++ offset ++ (← writeSized frame.data)) _ _ :=
        (writeSized_measured frame.data).map (1 + streamId.length + offset.length + ·) fun sized => by
          simp only [length_append, length_cons]
          omega
      rw [sizedId, sizedOffset] at written
      exact written
  refine (check fun _ => fields).congr ?_ fun _ => rfl
  simp only [validateStreamFrame, check_then, validateFrameVarInt_ok, validateFrameEndOffset, reject_ok,
    Frame.Encodable]
  omega

/-- What the encoder writes has the size of the specification, and it writes what can be encoded. -/
theorem encodeFrame_measured {frame : Frame} (sized : frame.Sized) :
    Measured length (encodeFrame frame) frame.Encodable frame.wireLen := by
  cases frame with
  | padding len =>
    exact (check fun _ => .ok _).congr (by simp [Frame.Encodable]) fun _ => by simp [wireLen]
  | ping | handshakeDone => exact .ok _
  | ack ack counts =>
    cases counts with
    | none =>
      refine (check fun _ => typed_measured 0x02 (encodeAckFrameFields_measured ack)).congr
        (by simp [Frame.Encodable]) fun _ => ?_
      simp only [wireLen, ackFrameLen]
      omega
    | some counts =>
      refine (check fun _ => typed_append_measured 0x03 (encodeAckFrameFields_measured ack)
        (writeVarInts_measured _)).congr ?_ fun _ => ?_
      · simp [Frame.Encodable, validateAckEcnFrame, check_then]
      · simp only [wireLen, ackFrameLen, map_cons, map_nil, sum_cons, sum_nil]
        omega
  | resetStream reset =>
    refine (check fun _ => typed_measured 0x04 (writeVarInts_measured _)).congr ?_ fun _ => ?_
    · simp [Frame.Encodable, validateResetStreamFrame, check_then]
    · simp [wireLen, Nat.add_assoc]
  | stopSending stop =>
    refine (check fun _ => typed_measured 0x05 (writeVarInts_measured _)).congr ?_ fun _ => ?_
    · simp [Frame.Encodable, validateStopSendingFrame, check_then]
    · simp [wireLen, Nat.add_assoc]
  | newToken token =>
    refine (check fun _ => typed_measured 0x07 (writeSized_measured token)).congr ?_ fun _ => rfl
    simp [Frame.Encodable, validateNewTokenFrame, validateFrameSliceLen, check_then]
  | stream frame => exact stream_measured frame
  | crypto frame =>
    refine (check fun _ => typed_append_measured 0x06 (writeVarInt_measured frame.offset)
      (writeSized_measured frame.data)).congr ?_ fun _ => rfl
    simp only [Frame.Encodable, validateFrameEndOffset, reject_ok]
    omega
  | maxData value | dataBlocked value | retireConnectionId value =>
    exact (check fun _ => typed_measured _ (writeVarInt_measured value)).congr
      (by simp [Frame.Encodable]) fun _ => rfl
  | maxStreamData streamId value | streamDataBlocked streamId value =>
    refine (check fun _ => typed_measured _ (writeVarInts_measured _)).congr ?_ fun _ => ?_
    · simp [Frame.Encodable, validateMaxStreamDataFrame, validateStreamDataBlockedFrame, check_then]
    · simp [wireLen, Nat.add_assoc]
  | maxStreamsBidi count | maxStreamsUni count | streamsBlockedBidi count | streamsBlockedUni count =>
    refine (check fun _ => typed_measured _ (writeVarInt_measured count)).congr ?_ fun _ => rfl
    simp only [Frame.Encodable, validateStreamCount_ok]
    exact and_iff_left_of_imp streamCount_le
  | newConnectionId frame =>
    refine (check fun _ => (writeVarInts_measured _).map
      (1 + · + 1 + frame.connectionId.length + frame.statelessResetToken.length) fun numbers => ?_).congr ?_ fun _ => ?_
    · simp only [length_append, length_cons]
      omega
    · simp only [Frame.Encodable, validateNewConnectionIdFrame, validateConnectionIdLen, check_then, reject_ok,
        validateFrameVarInt_ok, forall_mem_cons, not_mem_nil, not_lt, not_or, length_eq_zero_iff]
      tauto
    · simp [wireLen, Nat.add_assoc]
  | pathChallenge data | pathResponse data =>
    exact (ok _).congr Iff.rfl fun _ => congrArg (· + 1) sized
  | connectionClose close =>
    refine (check fun _ => typed_append_measured 0x1c (writeVarInts_measured _)
      (writeSized_measured close.reasonPhrase)).congr ?_ fun _ => ?_
    · simp only [Frame.Encodable, validateConnectionCloseFrame, validateFrameSliceLen, check_then, reject_ok,
        validateFrameVarInt_ok, forall_mem_cons, not_mem_nil, not_lt]
      tauto
    · simp [wireLen, sizedLen, Nat.add_assoc]
  | applicationClose close =>
    refine (check fun _ => typed_append_measured 0x1d (writeVarInt_measured close.errorCode)
      (writeSized_measured close.reasonPhrase)).congr ?_ fun _ => rfl
    simp [Frame.Encodable, validateApplicationCloseFrame, validateFrameSliceLen, check_then]
  | datagram data => exact typed_measured 0x31 (writeSized_measured data)

/-- The function of wire_len.zig that predicts the size of a frame. PADDING and ACK frames with ECN counters
have none. -/
def predictedWireLen : Frame → Option (Except Error Nat)
  | .padding _ | .ack _ (some _) => none
  | .ping => some (.ok pingFrameWireLen)
  | .ack fields none => some (ackFrameWireLen fields)
  | .resetStream reset => some (resetStreamFrameWireLen reset)
  | .stopSending stop => some (stopSendingFrameWireLen stop)
  | .newToken token => some (newTokenFrameWireLen token)
  | .stream frame => some (streamFrameWireLen frame.streamId frame.offset frame.data.length)
  | .crypto frame => some (cryptoFrameWireLen frame.offset frame.data.length)
  | .maxData maximumData => some (maxFrameWireLen (.data maximumData))
  | .maxStreamData streamId maximumStreamData => some (maxFrameWireLen (.streamData streamId maximumStreamData))
  | .maxStreamsBidi maximumStreams => some (maxFrameWireLen (.streamsBidi maximumStreams))
  | .maxStreamsUni maximumStreams => some (maxFrameWireLen (.streamsUni maximumStreams))
  | .dataBlocked maximumData => some (blockedFrameWireLen (.data maximumData))
  | .streamDataBlocked streamId maximumStreamData =>
    some (blockedFrameWireLen (.streamData streamId maximumStreamData))
  | .streamsBlockedBidi maximumStreams => some (blockedFrameWireLen (.streamsBidi maximumStreams))
  | .streamsBlockedUni maximumStreams => some (blockedFrameWireLen (.streamsUni maximumStreams))
  | .newConnectionId frame => some (newConnectionIdFrameWireLen frame)
  | .retireConnectionId sequenceNumber => some (retireConnectionIdFrameWireLen sequenceNumber)
  | .pathChallenge _ => some (.ok pathChallengeFrameWireLen)
  | .pathResponse _ => some (.ok pathResponseFrameWireLen)
  | .connectionClose close => some (closeFrameWireLen (.connection close))
  | .applicationClose close => some (closeFrameWireLen (.application close))
  | .handshakeDone => some (.ok handshakeDoneFrameWireLen)
  | .datagram data => some (datagramFrameWireLen data.length)

theorem few_fit {few len : Nat} (small : few ≤ 100) (bounded : len ≤ maxQuicVarint) : few + len ≤ maxU64 := by
  simp only [maxQuicVarint, maxU64] at bounded ⊢
  omega

theorem small_fits {few : Nat} (small : few ≤ 100) : few ≤ maxU64 := few_fit small (Nat.zero_le _)

theorem one_number_measured : Measured id (do addWireLen 1 (← quicVarIntWireLen value))
    (value ≤ maxQuicVarint) (1 + varIntLen value) := by
  have bounded := varIntLen_le value
  exact addVarInt_measured (small_fits (by omega))

theorem two_numbers_measured (first second : Nat) : Measured id (do
      let len ← addWireLen 1 (← quicVarIntWireLen first)
      addWireLen len (← quicVarIntWireLen second))
      (first ≤ maxQuicVarint ∧ second ≤ maxQuicVarint) (1 + varIntLen first + varIntLen second) := by
  have a := varIntLen_le first
  have b := varIntLen_le second
  exact addVarInt_then (small_fits (by omega)) fun _ => addVarInt_measured (small_fits (by omega))

theorem streamCountWireLen_measured (count : Nat) : Measured id (do
      validateStreamCountWireLen count
      addWireLen 1 (← quicVarIntWireLen count)) (count ≤ maxStreamCount) (1 + varIntLen count) := by
  refine (check fun _ => one_number_measured count).congr ?_ fun _ => rfl
  unfold validateStreamCountWireLen
  split_ifs with above
  · simp [not_le.mpr above]
  · simpa [not_lt.mp above] using streamCount_le (not_lt.mp above)

theorem sizedWireLen_measured {current len : Nat} (small : current ≤ 50) : Measured id (do
      let sum ← addWireLen current (← quicVarIntWireLen len)
      addWireLen sum len) (len ≤ maxQuicVarint) (current + (varIntLen len + len)) := by
  have a := varIntLen_le len
  have last : len ≤ maxQuicVarint → Measured id (addWireLen (current + varIntLen len) len) True
      (current + varIntLen len + len) := fun bounded => addLen_measured (few_fit (by omega) bounded)
  exact congr (addVarInt_then (small_fits (by omega)) last) (and_iff_left trivial)
    fun _ => Nat.add_assoc ..

theorem validateFrameDataRange_ok {offset len : Nat} :
    validateFrameDataRange offset len = .ok () ↔ offset + len ≤ maxQuicVarint := by
  unfold validateFrameDataRange
  split_ifs with above
  · simp [not_le.mpr above]
  · simp [not_lt.mp above]

theorem streamFrameWireLen_measured (streamId offset len : Nat) :
    Measured id (streamFrameWireLen streamId offset len) (streamId ≤ maxQuicVarint ∧ offset + len ≤ maxQuicVarint)
      (1 + varIntLen streamId + (if offset = 0 then 0 else varIntLen offset) + (varIntLen len + len)) := by
  have a := varIntLen_le streamId
  have b := varIntLen_le offset
  unfold streamFrameWireLen
  by_cases zero : offset = 0
  · simp only [if_pos zero]
    refine (guard fun _ => check fun _ => addVarInt_then (small_fits (by omega)) fun _ =>
      sizedWireLen_measured (by omega)).congr ?_ fun _ => rfl
    simp only [validateFrameDataRange_ok]
    omega
  · simp only [if_neg zero]
    refine (guard fun _ => check fun _ => addVarInt_then (small_fits (by omega)) fun _ =>
      addVarInt_then (small_fits (by omega)) fun _ => sizedWireLen_measured (by omega)).congr ?_ fun _ => rfl
    simp only [validateFrameDataRange_ok]
    omega

theorem cryptoFrameWireLen_measured (offset len : Nat) :
    Measured id (cryptoFrameWireLen offset len) (offset + len ≤ maxQuicVarint)
      (1 + varIntLen offset + (varIntLen len + len)) := by
  have a := varIntLen_le offset
  refine (check fun _ => addVarInt_then (small_fits (by omega)) fun _ =>
    sizedWireLen_measured (by omega)).congr ?_ fun _ => rfl
  simp only [validateFrameDataRange_ok]
  omega

theorem threeLens_measured {current first second third : Nat} (small : current + first + second + third ≤ 100) :
    Measured id (do
      let len ← addWireLen current first
      let len ← addWireLen len second
      addWireLen len third) True (current + first + second + third) := by
  refine addLen_then (small_fits (by omega)) ?_
  refine addLen_then (small_fits (by omega)) ?_
  exact addLen_measured (small_fits small)

theorem newConnectionIdFrameWireLen_measured {frame : NewConnectionIdFrame}
    (token : frame.statelessResetToken.length = 16) : Measured id (newConnectionIdFrameWireLen frame)
      (Frame.Encodable (.newConnectionId frame)) (wireLen (.newConnectionId frame)) := by
  have a := varIntLen_le frame.sequenceNumber
  have b := varIntLen_le frame.retirePriorTo
  refine (guard fun short => guard fun _ => guard fun _ =>
    addVarInt_then (small_fits (by omega)) fun _ => addVarInt_then (small_fits (by omega)) fun _ =>
    threeLens_measured ?_).congr ?_ fun _ => rfl
  · simp only [maxConnectionIdLen] at short
    omega
  · simp only [Frame.Encodable, maxConnectionIdLen, not_or, not_lt, and_true]
    tauto

/-- The size computations have the size of the specification, and succeed on what can be encoded. -/
theorem predictedWireLen_measured {frame : Frame} (sized : frame.Sized) {predicted : Except Error Nat}
    (predicts : predictedWireLen frame = some predicted) : Measured id predicted frame.Encodable frame.wireLen := by
  cases frame with try obtain rfl := Option.some.inj predicts
  | padding => exact nomatch predicts
  | ping | handshakeDone | pathChallenge | pathResponse => exact .ok _
  | ack ack counts =>
    cases counts with
    | some => exact nomatch predicts
    | none =>
      obtain rfl := Option.some.inj predicts
      exact ackFrameWireLen_measured ack
  | stream frame => exact streamFrameWireLen_measured ..
  | crypto frame => exact cryptoFrameWireLen_measured ..
  | maxData | dataBlocked | retireConnectionId => exact one_number_measured _
  | maxStreamData | streamDataBlocked => exact two_numbers_measured ..
  | maxStreamsBidi | maxStreamsUni | streamsBlockedBidi | streamsBlockedUni => exact streamCountWireLen_measured _
  | resetStream reset =>
    have a := varIntLen_le reset.streamId
    have b := varIntLen_le reset.applicationErrorCode
    have c := varIntLen_le reset.finalSize
    refine (guard fun _ => addVarInt_then (small_fits (by omega)) fun _ =>
      addVarInt_then (small_fits (by omega)) fun _ => addVarInt_measured (small_fits (by omega))).congr ?_ fun _ => rfl
    simp only [Frame.Encodable]
    omega
  | stopSending stop =>
    refine (guard fun _ => two_numbers_measured ..).congr ?_ fun _ => rfl
    simp only [Frame.Encodable]
    omega
  | newToken token =>
    refine (guard fun _ => sizedWireLen_measured (by decide)).congr ?_ fun _ => rfl
    simp only [Frame.Encodable, not_or, not_lt]
    tauto
  | newConnectionId frame => exact newConnectionIdFrameWireLen_measured sized
  | connectionClose close =>
    have a := varIntLen_le close.errorCode
    have b := varIntLen_le close.frameType
    refine (guard fun _ => addVarInt_then (small_fits (by omega)) fun _ =>
      addVarInt_then (small_fits (by omega)) fun _ => sizedWireLen_measured (by omega)).congr ?_ fun _ => rfl
    simp only [Frame.Encodable]
    omega
  | applicationClose close =>
    have a := varIntLen_le close.errorCode
    refine (guard fun _ => addVarInt_then (small_fits (by omega)) fun _ =>
      sizedWireLen_measured (by omega)).congr ?_ fun _ => rfl
    simp only [Frame.Encodable]
    omega
  | datagram data =>
    exact ((quicVarIntWireLen_measured data.length).map (1 + · + data.length) fun _ => rfl).congr Iff.rfl
      fun _ => Nat.add_assoc ..

/-- A size is predicted exactly when the frame can be encoded, and is the number of bytes written. -/
theorem wireLen_exact (frame : Frame) (sized : frame.Sized) (predicted : Except Error Nat)
    (predicts : predictedWireLen frame = some predicted) (n : Nat) :
    predicted = .ok n ↔ ∃ bytes, encodeFrame frame = .ok bytes ∧ bytes.length = n := by
  rw [← (predictedWireLen_measured sized predicts).agree (encodeFrame_measured sized) n]
  simp

theorem wireLen_exact_ack : ackFrameWireLen ⟨100, 0, 10, [⟨2, 3⟩]⟩ = .ok 8 ↔
    ∃ bytes, encodeFrame (.ack ⟨100, 0, 10, [⟨2, 3⟩]⟩ none) = .ok bytes ∧ bytes.length = 8 :=
  wireLen_exact (.ack ⟨100, 0, 10, [⟨2, 3⟩]⟩ none) trivial _ rfl 8

end Quicz
