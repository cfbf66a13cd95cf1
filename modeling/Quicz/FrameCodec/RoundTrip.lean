import Quicz.FrameCodec

/-! What the frame codec writes it reads back, the decoder that borrows its payloads agrees with the
one that copies them, and no decoder takes more than it was given. -/
namespace Quicz

open Chunks Reader List Except

variable {borrow : Bool}

/-- The arrays of fixed length in the source's frame types: a reset token is 16 bytes, the data of a path
validation frame is 8. -/
def Frame.Sized : Frame → Prop
  | .newConnectionId frame => frame.statelessResetToken.length = 16
  | .pathChallenge data | .pathResponse data => data.length = 8
  | _ => True

theorem writeVarInts_two {a b : Nat} {bytes : Bytes} (written : writeVarInts [a, b] = .ok bytes) :
    ∃ x y, writeVarInt a = .ok x ∧ writeVarInt b = .ok y ∧ bytes = x ++ y := by
  simp only [writeVarInts, bind_ok, pure, Except.pure, Except.ok.injEq] at written
  obtain ⟨x, writtenFirst, _, ⟨y, writtenSecond, _, rfl, rfl⟩, rfl⟩ := written
  exact ⟨x, y, writtenFirst, writtenSecond, by simp⟩

theorem writeVarInts_three {a b c : Nat} {bytes : Bytes} (written : writeVarInts [a, b, c] = .ok bytes) :
    ∃ x y z, writeVarInt a = .ok x ∧ writeVarInt b = .ok y ∧ writeVarInt c = .ok z ∧ bytes = x ++ (y ++ z) := by
  rw [writeVarInts] at written
  simp only [bind_ok, pure, Except.pure, Except.ok.injEq] at written
  obtain ⟨x, writtenFirst, rest, others, rfl⟩ := written
  obtain ⟨y, z, writtenSecond, writtenThird, rfl⟩ := writeVarInts_two others
  exact ⟨x, y, z, writtenFirst, writtenSecond, writtenThird, rfl⟩

theorem writeSized_ok {data bytes : Bytes} (written : writeSized data = .ok bytes) :
    ∃ len, writeVarInt data.length = .ok len ∧ bytes = len ++ data := by
  simp only [writeSized, bind_ok, pure, Except.pure, Except.ok.injEq] at written
  obtain ⟨len, writtenLen, rfl⟩ := written
  exact ⟨len, writtenLen, rfl⟩

variable {len : Nat}

theorem readBytes_reads {data : Bytes} (long : data.length = len) : Reads (readBytes len) data data := by
  intro rest
  simp [readBytes, ← long]

theorem readByte_reads (byte : UInt8) : Reads readByte [byte] byte := fun _ => rfl

theorem decodeSized_reads {data bytes : Bytes} (written : writeSized data = .ok bytes) :
    Reads decodeSized bytes data := by
  obtain ⟨len, writtenLen, rfl⟩ := writeSized_ok written
  exact (readVarInt_reads writtenLen).bind (readBytes_reads rfl)

variable {bytes : Bytes} {frame : Frame} {first : UInt8} {body : Bytes}

theorem framed_reads (small : first.toNat ≤ 63) (fields : Reads (decodeFrameFields borrow first.toNat) body frame) :
    Reads (decodeFrameImpl borrow) (first :: body) frame :=
  (decodeFrameType_reads small).bind fields

theorem streamCount_reads {maximumStreams : Nat} {value : Bytes} {g : Nat → Frame}
    (valid : validateStreamCount maximumStreams = .ok ()) (written : writeVarInt maximumStreams = .ok value) :
    Reads (do
      let maximumStreams ← readVarInt
      attempt (validateStreamCount maximumStreams)
      return g maximumStreams) value (g maximumStreams) := by
  have read := (readVarInt_reads written).bind (f := fun maximumStreams => do
    attempt (validateStreamCount maximumStreams)
    return g maximumStreams) ((Reads.attempt valid).skip (.pure (g maximumStreams)))
  rwa [append_nil] at read

theorem ackEcn_reads {ack : AckFrame} {counts : EcnCounts}
    (encoded : encodeFrame (.ack ack (some counts)) = .ok bytes) :
    Reads (decodeFrameImpl borrow) bytes (.ack ack (some counts)) := by
  simp only [encodeFrame, bind_ok, pure, Except.pure, Except.ok.injEq] at encoded
  obtain ⟨_, -, fields, writtenFields, numbers, writtenNumbers, rfl⟩ := encoded
  obtain ⟨ect0, ect1, ce, writtenEct0, writtenEct1, writtenCe, rfl⟩ := writeVarInts_three writtenNumbers
  obtain ⟨reads, -⟩ := decodeAckFrameFields_reads writtenFields
  exact framed_reads (by decide) (reads.bind ((readVarInt_reads writtenEct0).bind
    ((readVarInt_reads writtenEct1).bind (readVarInt_reads writtenCe).map)))

/-- The type byte of a STREAM frame says whether an offset follows, that a length does, and whether the
frame is the last. -/
theorem streamFrameType_bits (frame : StreamFrame) : (streamFrameType frame).toNat &&& 0xf8 = 0x08 ∧
    ((streamFrameType frame).toNat &&& 0x04 ≠ 0 ↔ frame.offset ≠ 0) ∧ (streamFrameType frame).toNat &&& 0x02 ≠ 0 ∧
    decide ((streamFrameType frame).toNat &&& 0x01 ≠ 0) = frame.fin ∧ (streamFrameType frame).toNat ≤ 63 := by
  unfold streamFrameType
  cases frame.fin with
  | false | true => split <;> simp_all

variable {frameType : Nat}

theorem decodeFrameFields_stream (masked : frameType &&& 0xf8 = 0x08) :
    decodeFrameFields borrow frameType = decodeStreamFrame frameType := by
  unfold decodeFrameFields
  split
  case h_21 => rw [if_pos masked]
  all_goals exact absurd masked (by decide)

/-- An offset of 0 is not written, and read as 0 when the type does not announce one. -/
theorem offset_reads {offset frameType : Nat} {written : Bytes}
    (encoded : writeStreamOffset offset = .ok written) (announced : frameType &&& 0x04 ≠ 0 ↔ offset ≠ 0) :
    Reads (decodeStreamOffset frameType) written offset := by
  unfold writeStreamOffset at encoded
  unfold decodeStreamOffset
  by_cases zero : offset = 0
  · rw [if_neg (announced.not.mpr (not_not.mpr zero)), zero]
    rw [if_neg (not_not.mpr zero)] at encoded
    obtain rfl := ok.inj encoded
    exact .pure 0
  · rw [if_pos (announced.mpr zero)]
    rw [if_pos zero] at encoded
    exact readVarInt_reads encoded

theorem stream_reads {frame : StreamFrame} (encoded : encodeFrame (.stream frame) = .ok bytes) :
    Reads (decodeFrameImpl borrow) bytes (.stream frame) := by
  simp only [encodeFrame, bind_ok, pure, Except.pure, Except.ok.injEq] at encoded
  obtain ⟨⟨⟩, valid, streamId, writtenId, offset, writtenOffset, sized, writtenSized, rfl⟩ := encoded
  obtain ⟨-, valid⟩ := check_then.mp valid
  obtain ⟨len, writtenLen, rfl⟩ := writeSized_ok writtenSized
  obtain ⟨masked, announced, measured, last, small⟩ := streamFrameType_bits frame
  have body : Reads (decodeStreamFrame (streamFrameType frame).toNat)
      (streamId ++ (offset ++ (len ++ frame.data))) (.stream frame) := by
    have measures : Reads (decodeStreamLen (streamFrameType frame).toNat) len frame.data.length := by
      rw [decodeStreamLen, if_pos measured]
      exact readVarInt_reads writtenLen
    refine (readVarInt_reads writtenId).bind ((offset_reads writtenOffset announced).bind
      (measures.bind ((Reads.attempt valid).skip ?_)))
    rw [last]
    exact (readBytes_reads rfl).map
  have framed : Reads (decodeFrameImpl borrow) (streamFrameType frame :: _) (.stream frame) :=
    framed_reads small (by rwa [decodeFrameFields_stream masked])
  simpa only [cons_append, append_assoc] using framed

theorem newConnectionId_reads {frame : NewConnectionIdFrame} (token : frame.statelessResetToken.length = 16)
    (encoded : encodeFrame (.newConnectionId frame) = .ok bytes) :
    Reads (decodeFrameImpl borrow) bytes (.newConnectionId frame) := by
  simp only [encodeFrame, bind_ok, pure, Except.pure, Except.ok.injEq] at encoded
  obtain ⟨⟨⟩, valid, numbers, writtenNumbers, rfl⟩ := encoded
  simp only [validateNewConnectionIdFrame, check_then, reject_ok] at valid
  obtain ⟨-, -, validLen, ordered⟩ := valid
  obtain ⟨sequence, retire, writtenSequence, writtenRetire, rfl⟩ := writeVarInts_two writtenNumbers
  have short : frame.connectionId.length ≤ 20 := by
    simp only [validateConnectionIdLen, reject_ok] at validLen
    omega
  have len : (UInt8.ofNat frame.connectionId.length).toNat = frame.connectionId.length := by
    rw [UInt8.toNat_ofNat', Nat.mod_eq_of_lt (by omega)]
  have body : Reads (decodeNewConnectionIdFrame borrow)
      (sequence ++ (retire ++ ([UInt8.ofNat frame.connectionId.length] ++ (frame.connectionId ++
        frame.statelessResetToken)))) (.newConnectionId frame) := by
    refine (readVarInt_reads writtenSequence).bind ((readVarInt_reads writtenRetire).bind
      ((readByte_reads _).bind ?_))
    rw [len]
    refine (Reads.attempt validLen).skip ((Reads.refuse ordered).skip ((readBytes_reads rfl).bind
      (.measure fun rest => ?_)))
    have whole : ¬ (borrow = true ∧ (frame.statelessResetToken ++ rest).length < 16) := by
      rw [length_append, token]
      omega
    exact ((Reads.refuse whole).skip (readBytes_reads token).map) rest
  have framed : Reads (decodeFrameImpl borrow) (0x18 :: _) (.newConnectionId frame) :=
    framed_reads (by decide) body
  simpa using framed

/-- Every frame but PADDING is read back from what was written, whatever follows, and does not start with
the type of PADDING. -/
theorem encodeFrame_reads (sized : frame.Sized) (encoded : encodeFrame frame = .ok bytes)
    (other : ∀ n, frame ≠ .padding n) :
    Reads (decodeFrameImpl borrow) bytes frame ∧ ∃ first body, bytes = first :: body ∧ first ≠ 0x00 := by
  have whole := encoded
  cases frame with simp only [encodeFrame, bind_ok, pure, Except.pure, Except.ok.injEq] at encoded
  | padding n => exact absurd rfl (other n)
  | ping | handshakeDone =>
    obtain rfl := encoded
    exact ⟨framed_reads (by decide) (.pure _), _, _, rfl, by decide⟩
  | ack ack counts =>
    cases counts with simp only [bind_ok, Except.ok.injEq] at encoded
    | some counts =>
      refine ⟨ackEcn_reads whole, ?_⟩
      obtain ⟨_, -, fields, -, numbers, -, rfl⟩ := encoded
      exact ⟨_, _, rfl, by decide⟩
    | none =>
      obtain ⟨_, -, fields, written, rfl⟩ := encoded
      exact ⟨framed_reads (by decide) (decodeAckFrameFields_reads written).1.map, _, _, rfl, by decide⟩
  | resetStream reset =>
    obtain ⟨_, -, numbers, written, rfl⟩ := encoded
    obtain ⟨x, y, z, writtenId, writtenCode, writtenSize, rfl⟩ := writeVarInts_three written
    exact ⟨framed_reads (by decide) ((readVarInt_reads writtenId).bind ((readVarInt_reads writtenCode).bind
      (readVarInt_reads writtenSize).map)), _, _, rfl, by decide⟩
  | stopSending stop =>
    obtain ⟨_, -, numbers, written, rfl⟩ := encoded
    obtain ⟨x, y, writtenId, writtenCode, rfl⟩ := writeVarInts_two written
    exact ⟨framed_reads (by decide) ((readVarInt_reads writtenId).bind (readVarInt_reads writtenCode).map),
      _, _, rfl, by decide⟩
  | newToken token =>
    simp only [validateNewTokenFrame, bind_ok] at encoded
    obtain ⟨_, ⟨⟨⟩, filled, -⟩, sized, written, rfl⟩ := encoded
    obtain ⟨len, writtenLen, rfl⟩ := writeSized_ok written
    exact ⟨framed_reads (by decide) ((readVarInt_reads writtenLen).bind ((Reads.refuse (reject_ok.mp filled)).skip
      (readBytes_reads rfl).map)), _, _, rfl, by decide⟩
  | stream frame =>
    refine ⟨stream_reads whole, ?_⟩
    obtain ⟨_, -, streamId, -, offset, -, sized, -, rfl⟩ := encoded
    refine ⟨_, _, rfl, fun zero => ?_⟩
    have masked := (streamFrameType_bits frame).1
    rw [zero] at masked
    exact absurd masked (by decide)
  | crypto frame =>
    obtain ⟨⟨⟩, valid, offset, writtenOffset, sized, written, rfl⟩ := encoded
    obtain ⟨len, writtenLen, rfl⟩ := writeSized_ok written
    exact ⟨framed_reads (by decide) ((readVarInt_reads writtenOffset).bind ((readVarInt_reads writtenLen).bind
      ((Reads.attempt valid).skip (readBytes_reads rfl).map))), _, _, rfl, by decide⟩
  | maxData maximumData | dataBlocked maximumData | retireConnectionId sequenceNumber =>
    obtain ⟨_, -, value, written, rfl⟩ := encoded
    exact ⟨framed_reads (by decide) (readVarInt_reads written).map, _, _, rfl, by decide⟩
  | maxStreamData streamId maximum | streamDataBlocked streamId maximum =>
    obtain ⟨_, -, numbers, written, rfl⟩ := encoded
    obtain ⟨x, y, writtenId, writtenMaximum, rfl⟩ := writeVarInts_two written
    exact ⟨framed_reads (by decide) ((readVarInt_reads writtenId).bind (readVarInt_reads writtenMaximum).map),
      _, _, rfl, by decide⟩
  | maxStreamsBidi maximum | maxStreamsUni maximum | streamsBlockedBidi maximum | streamsBlockedUni maximum =>
    obtain ⟨⟨⟩, valid, value, written, rfl⟩ := encoded
    exact ⟨framed_reads (by decide) (streamCount_reads valid written), _, _, rfl, by decide⟩
  | newConnectionId frame =>
    refine ⟨newConnectionId_reads sized whole, ?_⟩
    obtain ⟨_, -, numbers, -, rfl⟩ := encoded
    exact ⟨_, _, rfl, by decide⟩
  | pathChallenge data | pathResponse data =>
    obtain rfl := encoded
    exact ⟨framed_reads (by decide) (readBytes_reads sized).map, _, _, rfl, by decide⟩
  | connectionClose close =>
    obtain ⟨_, -, numbers, written, reason, writtenReason, rfl⟩ := encoded
    obtain ⟨x, y, writtenCode, writtenType, rfl⟩ := writeVarInts_two written
    have fields := (readVarInt_reads writtenCode).bind (f := fun errorCode => do
      let triggeringFrameType ← readVarInt
      return Frame.connectionClose ⟨errorCode, triggeringFrameType, ← decodeSized⟩)
      ((readVarInt_reads writtenType).bind (decodeSized_reads writtenReason).map)
    rw [cons_append, append_assoc]
    exact ⟨framed_reads (by decide) fields, _, _, rfl, by decide⟩
  | applicationClose close =>
    obtain ⟨_, -, code, writtenCode, reason, writtenReason, rfl⟩ := encoded
    exact ⟨framed_reads (by decide) ((readVarInt_reads writtenCode).bind (decodeSized_reads writtenReason).map),
      _, _, rfl, by decide⟩
  | datagram data =>
    obtain ⟨sized, written, rfl⟩ := encoded
    exact ⟨framed_reads (by decide) (decodeSized_reads written).map, _, _, rfl, by decide⟩

variable {data : Bytes}

/-- The bytes at the front that the slice decoder takes for PADDING. -/
def zeroRun (data : Bytes) : Nat := (data.takeWhile (· = 0x00)).length

theorem zeroRun_le (data : Bytes) : zeroRun data ≤ data.length := (takeWhile_sublist _).length_le

theorem zeroRun_replicate (n : Nat) (rest : Bytes) : zeroRun (replicate n 0x00 ++ rest) = n + zeroRun rest := by
  induction n with
  | zero => simp
  | succ n ih =>
    have step : zeroRun (0x00 :: (replicate n 0x00 ++ rest)) =
        zeroRun (replicate n 0x00 ++ rest) + 1 := by simp [zeroRun]
    rw [replicate_succ, cons_append, step, ih]
    omega

theorem decodeFrameSlice_padding {n : Nat} (rest : Bytes)
    (encoded : encodeFrame (.padding n) = .ok bytes) : decodeFrameSlice (bytes ++ rest) =
      .ok (.padding (n + zeroRun rest), n + zeroRun rest) := by
  simp only [encodeFrame, bind_ok, pure, Except.pure, Except.ok.injEq] at encoded
  obtain ⟨⟨⟩, filled, rfl⟩ := encoded
  obtain ⟨n, rfl⟩ := Nat.exists_eq_succ_of_ne_zero (reject_ok.mp filled)
  have run := zeroRun_replicate (n + 1) rest
  simp only [zeroRun] at run
  rw [replicate_succ, cons_append] at run ⊢
  simp only [decodeFrameSlice, decodeFrameSliceImpl, if_pos, run, zeroRun]

theorem decodeFrameSlice_reads (rest : Bytes) (reads : Reads (decodeFrameImpl false) bytes frame)
    (shape : bytes = first :: body) (typed : first ≠ 0x00) :
    decodeFrameSlice (bytes ++ rest) = .ok (frame, bytes.length) := by
  have read := reads rest
  subst shape
  rw [cons_append] at read ⊢
  simp only [decodeFrameSlice, decodeFrameSliceImpl, if_neg typed, read]
  rw [← cons_append, length_append, Nat.add_sub_cancel]

theorem readVarInt_ok {bytes rest : Bytes} {value : Nat} :
    readVarInt bytes = .ok (value, rest) ↔ decodeVarInt bytes = some (value, rest) := by
  unfold readVarInt
  cases decodeVarInt bytes with
  | none => simp
  | some result => simp [Prod.ext_iff]

instance : Shrinking readVarInt := ⟨fun _ _ _ read => (length_decodeVarInt (readVarInt_ok.mp read)).le⟩

instance : Shrinking readByte := by
  refine ⟨fun bytes byte rest read => ?_⟩
  cases bytes with
  | nil => exact nomatch read
  | cons first tail =>
    obtain ⟨rfl, rfl⟩ := Prod.mk.inj (ok.inj read)
    simp

theorem readBytes_ok {bytes rest data : Bytes} (read : readBytes len bytes = .ok (data, rest)) :
    len ≤ bytes.length ∧ data = bytes.take len ∧ rest = bytes.drop len := by
  unfold readBytes at read
  split at read
  case isTrue => exact nomatch read
  case isFalse enough =>
    obtain ⟨rfl, rfl⟩ := Prod.mk.inj (ok.inj read)
    exact ⟨not_lt.mp enough, rfl, rfl⟩

instance (len : Nat) : Shrinking (readBytes len) := by
  refine ⟨fun bytes data rest read => ?_⟩
  obtain ⟨-, -, rfl⟩ := readBytes_ok read
  simp

instance : Shrinking decodeSized := .bind

instance (count : Nat) : Shrinking (decodeAckRanges count) := by
  induction count with
  | zero => exact inferInstanceAs (Shrinking (pure []))
  | succ count ih => exact .bind

instance : Shrinking decodeAckFrameFields := .bind

instance (frameType : Nat) : Shrinking (decodeStreamOffset frameType) := .ite

instance (frameType : Nat) : Shrinking (decodeStreamLen frameType) := .ite

instance (frameType : Nat) : Shrinking (decodeStreamFrame frameType) := .bind

set_option synthInstance.maxSize 256 in
instance (borrow : Bool) : Shrinking (decodeNewConnectionIdFrame borrow) := .bind

instance (borrow : Bool) (frameType : Nat) : Shrinking (decodeFrameFields borrow frameType) := by
  unfold decodeFrameFields
  split <;> infer_instance

/-- The type is the integer at the front, in its shortest form. -/
theorem decodeFrameType_ok {bytes rest : Bytes} : decodeFrameType bytes = .ok (frameType, rest) ↔
      decodeVarInt bytes = some (frameType, rest) ∧ minimalVarIntLen frameType = .ok (bytes.length - rest.length) := by
  rw [← readVarInt_ok]
  constructor
  · intro read
    simp only [decodeFrameType, bind_eq_ok] at read
    obtain ⟨before, _, measured, value, left, here, after, _, measuredAfter, minimal, _, shortest, _, _, agreed, read⟩ :=
      read
    obtain ⟨rfl, rfl⟩ := Prod.mk.inj (Except.ok.inj measured)
    obtain ⟨rfl, rfl⟩ := Prod.mk.inj (Except.ok.inj measuredAfter)
    obtain ⟨least, rfl⟩ := attempt_eq_ok shortest
    obtain ⟨same, rfl⟩ := refuse_eq_ok agreed
    obtain ⟨rfl, rfl⟩ := Prod.mk.inj (Except.ok.inj read)
    exact ⟨here, by rw [least, not_not.mp same]⟩
  · rintro ⟨here, shortest⟩
    simp [decodeFrameType, remainingLen, bind, StateT.bind, Except.bind, here, attempt, shortest, refuse, Except.map]

theorem decodeFrameImpl_consumes {data rest : Bytes}
    (read : decodeFrameImpl borrow data = .ok (frame, rest)) : rest.length < data.length := by
  obtain ⟨frameType, left, typed, fields⟩ := bind_eq_ok.mp read
  have taken := length_decodeVarInt (decodeFrameType_ok.mp typed).1
  exact lt_of_le_of_lt (Shrinking.shrinks left frame rest fields) taken

theorem decodeFrameSliceImpl_consumes
    (read : decodeFrameSliceImpl borrow data = .ok (frame, len)) : 1 ≤ len ∧ len ≤ data.length := by
  cases data with
  | nil => exact nomatch read
  | cons first tail =>
    simp only [decodeFrameSliceImpl] at read
    split at read
    case isTrue zero =>
      obtain ⟨rfl, rfl⟩ := Prod.mk.inj (ok.inj read)
      refine ⟨?_, zeroRun_le (first :: tail)⟩
      simp [zero]
    case isFalse =>
      cases decoded : decodeFrameImpl borrow (first :: tail) with
      | error e => simp [decoded] at read
      | ok result =>
        have taken := decodeFrameImpl_consumes decoded
        simp only [decoded] at read
        obtain ⟨rfl, rfl⟩ := Prod.mk.inj (ok.inj read)
        omega

def CutInToken (data : Bytes) : Prop :=
  ∃ fields sequenceNumber retirePriorTo rest len tail, data = 0x18 :: fields ∧
    decodeVarInt fields = some (sequenceNumber, rest) ∧ decodeVarInt rest = some (retirePriorTo, len :: tail) ∧
    1 ≤ len.toNat ∧ len.toNat ≤ 20 ∧ retirePriorTo ≤ sequenceNumber ∧ len.toNat ≤ tail.length ∧
    tail.length < len.toNat + 16

theorem decodeNewConnectionIdFrame_borrow {fields : Bytes} (whole : ¬ CutInToken (0x18 :: fields)) :
    decodeNewConnectionIdFrame true fields = decodeNewConnectionIdFrame false fields := by
  refine bind_congr_at fun sequenceNumber rest readSequence => bind_congr_at fun retirePriorTo left readRetire =>
    bind_congr_at fun len tail readLen => bind_congr_at fun ⟨⟩ _ checkedLen => bind_congr_at fun _ _ checked =>
    bind_congr_at fun connectionId token readId => bind_congr_at fun remaining _ measured => ?_
  obtain ⟨validLen, rfl⟩ := attempt_eq_ok checkedLen
  obtain ⟨ordered, rfl⟩ := refuse_eq_ok checked
  obtain ⟨enough, -, rfl⟩ := readBytes_ok readId
  obtain ⟨rfl, rfl⟩ := Prod.mk.inj (ok.inj measured)
  have long : ¬ (tail.drop len.toNat).length < 16 := by
    intro short
    refine whole ⟨fields, sequenceNumber, retirePriorTo, rest, len, tail, rfl, readVarInt_ok.mp readSequence, ?_, ?_⟩
    · cases left with
      | nil => exact nomatch readLen
      | cons first others =>
        obtain ⟨rfl, rfl⟩ := Prod.mk.inj (ok.inj readLen)
        exact readVarInt_ok.mp readRetire
    · simp only [validateConnectionIdLen, reject_ok] at validLen
      rw [length_drop] at short
      omega
  rw [refuse, refuse, if_neg fun cut => long cut.2, if_neg fun cut => long cut.2]

theorem decodeFrameFields_borrow (other : frameType ≠ 0x18) :
    decodeFrameFields true frameType = decodeFrameFields false frameType := by
  unfold decodeFrameFields
  split
  case h_17 => exact absurd rfl other
  all_goals rfl

theorem decodeFrameType_small {bytes rest : Bytes} (small : frameType ≤ 63)
    (typed : decodeFrameType bytes = .ok (frameType, rest)) : bytes = UInt8.ofNat frameType :: rest := by
  obtain ⟨read, shortest⟩ := decodeFrameType_ok.mp typed
  cases bytes with
  | nil => exact nomatch read
  | cons first tail =>
    have taken := length_decodeVarInt read
    rw [minimalVarIntLen, if_pos small, ok.injEq] at shortest
    simp only [decodeVarInt] at read
    split_ifs at read with short
    obtain ⟨value, rfl⟩ := Prod.mk.inj (Option.some.inj read)
    have none : 2 ^ (first.toNat / 64) - 1 = 0 := by
      rw [length_cons, length_drop] at shortest
      omega
    rw [none] at value ⊢
    have high : first.toNat / 64 = 0 := by
      by_contra positive
      have := Nat.pow_le_pow_right (show 0 < 2 by decide) (Nat.one_le_iff_ne_zero.mpr positive)
      omega
    have low : first.toNat % 64 = first.toNat := by omega
    rw [take_zero, BigEndian.decode, low] at value
    rw [← value, UInt8.ofNat_toNat, drop_zero]

theorem decodeFrameImpl_borrow (whole : ¬ CutInToken data) :
    decodeFrameImpl true data = decodeFrameImpl false data := by
  refine bind_congr_at fun frameType fields typed => ?_
  by_cases kind : frameType = 0x18
  · subst kind
    obtain rfl := decodeFrameType_small (by decide) typed
    exact decodeNewConnectionIdFrame_borrow whole
  · rw [decodeFrameFields_borrow kind]

theorem decodeFrameSlice_borrow (whole : ¬ CutInToken data) :
    decodeFrameSliceBorrowing data = decodeFrameSlice data := by
  unfold decodeFrameSliceBorrowing decodeFrameSlice decodeFrameSliceImpl
  rw [decodeFrameImpl_borrow whole]

/-- What the codec writes it reads back, whatever follows; PADDING is read on through the zero bytes that
follow it. The decoder that borrows agrees with the one that copies, except on a NEW_CONNECTION_ID frame that
is cut off in its reset token. A decoded frame takes one byte at least and no more than there are. -/
theorem frames_read_back : (∀ (frame : Frame) (bytes rest : Bytes), frame.Sized → encodeFrame frame = .ok bytes →
      (∀ n, frame ≠ .padding n) → decodeFrameSlice (bytes ++ rest) = .ok (frame, bytes.length)) ∧
    (∀ (n : Nat) (bytes rest : Bytes), encodeFrame (.padding n) = .ok bytes → bytes.length = n ∧
      decodeFrameSlice (bytes ++ rest) = .ok (.padding (n + zeroRun rest), n + zeroRun rest)) ∧
    (∀ data, ¬ CutInToken data → decodeFrameSliceBorrowing data = decodeFrameSlice data) ∧
    (∀ data frame len, decodeFrameSlice data = .ok (frame, len) ∨ decodeFrameSliceBorrowing data = .ok (frame, len) →
      1 ≤ len ∧ len ≤ data.length) := by
  refine ⟨?_, ?_, fun data whole => decodeFrameSlice_borrow whole, ?_⟩
  · intro frame bytes rest sized encoded other
    obtain ⟨reads, first, body, shape, typed⟩ := encodeFrame_reads sized encoded other
    exact decodeFrameSlice_reads rest reads shape typed
  · intro n bytes rest encoded
    refine ⟨?_, decodeFrameSlice_padding rest encoded⟩
    simp only [encodeFrame, bind_ok, pure, Except.pure, Except.ok.injEq] at encoded
    obtain ⟨_, -, rfl⟩ := encoded
    simp
  · rintro data frame len (read | read)
    · exact decodeFrameSliceImpl_consumes read
    · exact decodeFrameSliceImpl_consumes read

/-- A STREAM frame before a PING, PADDING before a PING, and a whole NEW_CONNECTION_ID frame. -/
theorem frames_read_back_examples :
    decodeFrameSlice ([0x0f, 0x04, 0x01, 0x01, 0xaa] ++ [0x01]) = .ok (.stream ⟨4, 1, true, [0xaa]⟩, 5) ∧
    decodeFrameSlice ([0x00, 0x00] ++ [0x01]) = .ok (.padding 2, 2) ∧
    decodeFrameSliceBorrowing [0x01] = decodeFrameSlice [0x01] ∧ 1 ≤ 1 := by
  obtain ⟨others, padding, borrowing, taken⟩ := frames_read_back
  refine ⟨others (.stream ⟨4, 1, true, [0xaa]⟩) _ [0x01] trivial (by decide +kernel) nofun,
    (padding 2 _ [0x01] rfl).2, borrowing [0x01] ?_, (taken [0x01] .ping 1 (.inl (by decide +kernel))).1⟩
  rintro ⟨_, _, _, _, _, _, shape, -⟩
  exact absurd (cons.inj shape).1 (by decide)

/-- A PADDING byte before another zero byte is read as two. The borrowing decoder frees what it borrowed when
the reset token is cut off, where the copying decoder reports the end of the input. -/
theorem frames_read_otherwise :
    encodeFrame (.padding 1) = .ok [0x00] ∧ decodeFrameSlice ([0x00] ++ [0x00]) = .ok (.padding 2, 2) ∧
    decodeFrameSlice [0x18, 0x01, 0x00, 0x01, 0xaa] = .error .endOfStream ∧
    decodeFrameSliceBorrowing [0x18, 0x01, 0x00, 0x01, 0xaa] = .error .invalidFree := by
  decide +kernel

end Quicz
