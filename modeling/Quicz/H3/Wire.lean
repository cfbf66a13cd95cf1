import Quicz.Varint
import Quicz.H3.Faults

/-! HTTP/3 frames: frame.zig, and the writer of request.zig. -/
namespace Quicz.H3

inductive FrameType
  | data | headers | cancelPush | settings | pushPromise | goaway | maxPushId
deriving DecidableEq

def FrameType.code : FrameType → Nat
  | .data => 0x00
  | .headers => 0x01
  | .cancelPush => 0x03
  | .settings => 0x04
  | .pushPromise => 0x05
  | .goaway => 0x07
  | .maxPushId => 0x0d

structure Frame where
  frameType : Nat
  payload : Bytes
deriving DecidableEq

variable (frameType : Nat)

def isGreaseFrameType : Bool := 0x21 ≤ frameType ∧ (frameType - 0x21) % 0x1f = 0

def isIgnorableHeaderPrefixFrame : Bool :=
  isGreaseFrameType frameType || frameType ∉ ([.data, .headers, .cancelPush, .settings, .pushPromise, .goaway,
    .maxPushId] : List FrameType).map FrameType.code

def maxFramePayloadSize : Nat := 16 * 1024 * 1024

/-- The frame in front and the number of bytes it takes. The declared length is checked before the
payload is there. -/
def decodeFrame (data : Bytes) : Except H3Error (Frame × Nat) :=
  match decodeVarInt data with
  | none => .error .incompleteFrame
  | some (frameType, afterType) =>
    match decodeVarInt afterType with
    | none => .error .incompleteFrame
    | some (payloadLen, rest) =>
      if payloadLen > maxFramePayloadSize then .error .frameTooLarge
      else if rest.length < payloadLen then .error .incompleteFrame
      else .ok (⟨frameType, rest.take payloadLen⟩, data.length - rest.length + payloadLen)

/- Values past the four-byte form are written as a zero byte. -/
def writeVarInt (value : Nat) : Bytes :=
  if value ≤ 63 then BigEndian.encode 1 value
  else if value ≤ 16383 then BigEndian.encode 2 (0x4000 + value)
  else if value ≤ 1073741823 then BigEndian.encode 4 (0x80000000 + value)
  else [0]

def writeFrame (payload : Bytes) : Bytes :=
  writeVarInt frameType ++ writeVarInt payload.length ++ payload

def encodeDataFrame (payload : Bytes) : Bytes := writeFrame FrameType.data.code payload

def takeDataFrame (data : Bytes) : Except H3Error (Bytes × Nat) :=
  match decodeFrame data with
  | .error e => .error e
  | .ok (frame, consumed) =>
    if frame.frameType ≠ FrameType.data.code then .error .expectedDataFrame else .ok (frame.payload, consumed)

theorem decodeVarInt_writeVarInt {value : Nat} (small : value ≤ 1073741823) (rest : Bytes) :
    decodeVarInt (writeVarInt value ++ rest) = some (value, rest) := by
  have written : encodeVarInt value = some (writeVarInt value) := by
    unfold encodeVarInt writeVarInt
    split_ifs
    all_goals rfl
  exact decodeVarInt_encodeVarInt written rest

theorem decodeFrame_writeFrame {frameType : Nat} {payload : Bytes} (known : frameType ≤ 1073741823)
    (small : payload.length ≤ maxFramePayloadSize) (rest : Bytes) :
    decodeFrame (writeFrame frameType payload ++ rest) =
      .ok (⟨frameType, payload⟩, (writeFrame frameType payload).length) := by
  have top : maxFramePayloadSize = 16777216 := rfl
  have type_read : decodeVarInt (writeFrame frameType payload ++ rest) =
      some (frameType, writeVarInt payload.length ++ (payload ++ rest)) := by
    rw [writeFrame, List.append_assoc, List.append_assoc]
    exact decodeVarInt_writeVarInt known _
  have length_read := decodeVarInt_writeVarInt (show payload.length ≤ 1073741823 by omega) (payload ++ rest)
  have whole : ¬ (payload ++ rest).length < payload.length := by
    rw [List.length_append]
    omega
  have size : (writeFrame frameType payload ++ rest).length - (payload ++ rest).length + payload.length =
      (writeFrame frameType payload).length := by
    simp only [writeFrame, List.length_append]
    omega
  simp only [decodeFrame, type_read, length_read, if_neg (Nat.not_lt.mpr small), if_neg whole, List.take_left, size]

theorem takeDataFrame_encodeDataFrame {payload : Bytes} (small : payload.length ≤ maxFramePayloadSize)
    (rest : Bytes) :
    takeDataFrame (encodeDataFrame payload ++ rest) = .ok (payload, (encodeDataFrame payload).length) := by
  rw [takeDataFrame, encodeDataFrame, decodeFrame_writeFrame (by decide) small]
  rfl

end Quicz.H3
