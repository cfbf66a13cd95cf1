import Quicz.FrameCodec.RoundTrip

/-! Which frame types the decoder takes. The test for STREAM looks at the low eight bits of the type, so
every type whose low byte is one of 0x08 to 0x0f is read as a STREAM frame. -/
namespace Quicz

open Chunks Reader

def DefinedFrameType (frameType : Nat) : Prop := frameType ≤ 0x1e ∨ frameType = 0x30 ∨ frameType = 0x31

/-- Bytes that start with the fields of a STREAM frame, as the three low bits of the type announce them. -/
def StreamFields (frameType : Nat) (fields : Bytes) : Prop :=
  ∃ streamId offset len afterId afterOffset data, decodeVarInt fields = some (streamId, afterId) ∧
    (if frameType &&& 0x04 ≠ 0 then decodeVarInt afterId = some (offset, afterOffset)
      else offset = 0 ∧ afterOffset = afterId) ∧
    (if frameType &&& 0x02 ≠ 0 then decodeVarInt afterOffset = some (len, data)
      else len = afterOffset.length ∧ data = afterOffset) ∧
    offset + len ≤ maxQuicVarint ∧ len ≤ data.length

/-- A type that is not defined is an error, and a STREAM frame has one of the types 0x08 to 0x0f. -/
def KeepsToTypes (bytes : Bytes) : Prop :=
  ∀ frameType rest, decodeVarInt bytes = some (frameType, rest) →
    (¬ DefinedFrameType frameType → ∃ e, decodeFrame bytes = .error e) ∧
    (∀ frame left, decodeFrame bytes = .ok (.stream frame, left) → 0x08 ≤ frameType ∧ frameType ≤ 0x0f)

theorem decodeStreamOffset_ok {frameType offset : Nat} {bytes rest : Bytes} :
    decodeStreamOffset frameType bytes = .ok (offset, rest) ↔
      if frameType &&& 0x04 ≠ 0 then decodeVarInt bytes = some (offset, rest) else offset = 0 ∧ rest = bytes := by
  unfold decodeStreamOffset
  split
  case isTrue => exact readVarInt_ok
  case isFalse => simp [eq_comm]

theorem decodeStreamLen_ok {frameType len : Nat} {bytes rest : Bytes} :
    decodeStreamLen frameType bytes = .ok (len, rest) ↔
      if frameType &&& 0x02 ≠ 0 then decodeVarInt bytes = some (len, rest)
      else len = bytes.length ∧ rest = bytes := by
  unfold decodeStreamLen
  split
  case isTrue => exact readVarInt_ok
  case isFalse => simp [remainingLen, eq_comm]

variable {frameType : Nat}

theorem decodeStreamFrame_ok {fields : Bytes} :
    (∃ frame rest, decodeStreamFrame frameType fields = .ok (frame, rest)) ↔ StreamFields frameType fields := by
  constructor
  · rintro ⟨frame, rest, read⟩
    simp only [decodeStreamFrame, bind_eq_ok] at read
    obtain ⟨streamId, afterId, readId, offset, afterOffset, readOffset, len, data, readLen, ⟨⟩, _, checked,
      bytes, _, readData, -⟩ := read
    obtain ⟨valid, rfl⟩ := attempt_eq_ok checked
    simp only [validateFrameEndOffset, reject_ok, not_lt] at valid
    exact ⟨streamId, offset, len, afterId, afterOffset, data, readVarInt_ok.mp readId,
      decodeStreamOffset_ok.mp readOffset, decodeStreamLen_ok.mp readLen, valid, (readBytes_ok readData).1⟩
  · rintro ⟨streamId, offset, len, afterId, afterOffset, data, readId, readOffset, readLen, valid, enough⟩
    have bounded : validateFrameEndOffset offset len = .ok () := by
      rw [validateFrameEndOffset, reject_ok]
      omega
    refine ⟨_, _, bind_eq_ok.mpr ⟨streamId, afterId, readVarInt_ok.mpr readId, bind_eq_ok.mpr ⟨offset, afterOffset,
      decodeStreamOffset_ok.mpr readOffset, bind_eq_ok.mpr ⟨len, data, decodeStreamLen_ok.mpr readLen,
      bind_eq_ok.mpr ⟨(), data, by rw [bounded]; rfl, bind_eq_ok.mpr ⟨data.take len, data.drop len, ?_, rfl⟩⟩⟩⟩⟩⟩
    rw [readBytes, if_neg (not_lt.mpr enough)]

theorem decodeFrameFields_gives_stream {borrow : Bool} {fields rest : Bytes} {frame : StreamFrame}
    (read : decodeFrameFields borrow frameType fields = .ok (.stream frame, rest)) : frameType &&& 0xf8 = 0x08 := by
  by_contra other
  have gives : Gives (fun decoded => ∀ frame, decoded ≠ Frame.stream frame) (decodeFrameFields borrow frameType) := by
    unfold decodeFrameFields
    split
    case h_21 =>
      rw [if_neg other]
      refine .ite (fun _ => ?_) fun _ => .ite (fun _ => ?_) fun _ => .ite (fun _ => ?_) fun _ =>
        .ite (fun _ => ?_) fun _ => .fail _
      all_goals
        repeat refine .bind fun _ => ?_
        exact .pure (by simp)
    all_goals
      repeat refine .bind fun _ => ?_
      exact .pure (by simp)
  exact gives fields _ rest read frame rfl

theorem decodeFrameFields_undefined {borrow : Bool} (undefined : ¬ DefinedFrameType frameType)
    (other : frameType &&& 0xf8 ≠ 0x08) : decodeFrameFields borrow frameType = fail .unsupportedFrameType := by
  unfold DefinedFrameType at undefined
  have close : frameType ≠ 0x1c ∧ frameType ≠ 0x1d ∧ frameType ≠ 0x1e ∧ frameType ≠ 0x31 := by omega
  unfold decodeFrameFields
  split
  case h_21 => rw [if_neg other, if_neg close.1, if_neg close.2.1, if_neg close.2.2.1, if_neg close.2.2.2]
  all_goals exact absurd undefined (by decide)

theorem masked_small : ∀ frameType ≤ 0x31, frameType &&& 0xf8 = 0x08 → 0x08 ≤ frameType ∧ frameType ≤ 0x0f := by
  decide

/-- The grammar of frame types is kept on exactly the inputs that do not announce, in its shortest form, a type
above 0x0f whose low byte is that of a STREAM frame, before the fields of one. -/
theorem frame_types_kept (bytes : Bytes) : KeepsToTypes bytes ↔
    ¬ ∃ frameType rest, decodeVarInt bytes = some (frameType, rest) ∧
      minimalVarIntLen frameType = .ok (bytes.length - rest.length) ∧ 0x0f < frameType ∧
      frameType &&& 0xf8 = 0x08 ∧ StreamFields frameType rest := by
  constructor
  · rintro kept ⟨frameType, rest, read, shortest, above, masked, fields⟩
    obtain ⟨frame, left, decoded⟩ := decodeStreamFrame_ok.mpr fields
    have undefined : ¬ DefinedFrameType frameType := by
      intro defined
      have := masked_small frameType (by unfold DefinedFrameType at defined; omega) masked
      omega
    obtain ⟨e, failed⟩ := (kept frameType rest read).1 undefined
    have succeeds : decodeFrame bytes = .ok (frame, left) := by
      refine bind_eq_ok.mpr ⟨frameType, rest, decodeFrameType_ok.mpr ⟨read, shortest⟩, ?_⟩
      rw [decodeFrameFields_stream masked, decoded]
    rw [failed] at succeeds
    exact nomatch succeeds
  · intro never frameType rest read
    -- what the type reader gives is the integer at the front
    have typed : ∀ {t left}, decodeFrameType bytes = .ok (t, left) → t = frameType ∧ left = rest ∧
        minimalVarIntLen frameType = .ok (bytes.length - rest.length) := by
      intro t left here
      obtain ⟨found, shortest⟩ := decodeFrameType_ok.mp here
      rw [read, Option.some.injEq, Prod.mk.injEq] at found
      obtain ⟨rfl, rfl⟩ := found
      exact ⟨rfl, rfl, shortest⟩
    constructor
    · intro undefined
      cases outcome : decodeFrame bytes with
      | error e => exact ⟨e, rfl⟩
      | ok result =>
        exfalso
        obtain ⟨t, left, here, fields⟩ := bind_eq_ok.mp (show decodeFrame bytes = .ok (result.1, result.2) from outcome)
        obtain ⟨rfl, rfl, shortest⟩ := typed here
        by_cases masked : t &&& 0xf8 = 0x08
        · rw [decodeFrameFields_stream masked] at fields
          refine never ⟨t, left, read, shortest, ?_, masked, decodeStreamFrame_ok.mp ⟨_, _, fields⟩⟩
          unfold DefinedFrameType at undefined
          omega
        · rw [decodeFrameFields_undefined undefined masked] at fields
          exact nomatch fields
    · intro frame left decoded
      obtain ⟨t, fields, here, decodedFields⟩ := bind_eq_ok.mp decoded
      obtain ⟨rfl, rfl, shortest⟩ := typed here
      have masked := decodeFrameFields_gives_stream decodedFields
      rw [decodeFrameFields_stream masked] at decodedFields
      by_contra outside
      refine never ⟨t, fields, read, shortest, ?_, masked, decodeStreamFrame_ok.mp ⟨_, _, decodedFields⟩⟩
      by_contra small
      exact outside (masked_small t (by omega) masked)

/-- The two-byte type 0x108 before an empty STREAM frame's fields: a STREAM frame is read. -/
theorem frame_types_not_kept : decodeVarInt [0x41, 0x08, 0x00] = some (0x108, [0x00]) ∧ ¬ DefinedFrameType 0x108 ∧
    decodeFrame [0x41, 0x08, 0x00] = .ok (.stream ⟨0, 0, false, []⟩, []) := by
  refine ⟨by decide +kernel, ?_, by decide +kernel⟩
  unfold DefinedFrameType
  decide

end Quicz
