import Quicz.Lib.BigEndian
import Quicz.Protocol

/-! The variable-length integers of packet.zig (RFC 9000, section 16): the two highest bits of
the first byte give the number of bytes. -/
namespace Quicz

open Chunks BigEndian

/- The source sets the two bits with an OR on the first byte. The value leaves them clear, so this
is a sum. -/
def encodeVarInt (value : Nat) : Option Bytes :=
  if value ≤ 63 then some (encode 1 value)
  else if value ≤ 16383 then some (encode 2 (0x4000 + value))
  else if value ≤ 1073741823 then some (encode 4 (0x80000000 + value))
  else if value ≤ maxQuicVarint then some (encode 8 (0xc000000000000000 + value))
  else none

def decodeVarInt : Bytes → Option (Nat × Bytes)
  | [] => none
  | first :: rest =>
    let extra := 2 ^ (first.toNat / 64) - 1
    if rest.length < extra then none
    else some (decode (first.toNat % 64) (rest.take extra), rest.drop extra)

variable {value : Nat}

theorem length_decodeVarInt {bytes rest : Bytes}
    (read : decodeVarInt bytes = some (value, rest)) : rest.length < bytes.length := by
  cases bytes with
  | nil => exact absurd read (by simp [decodeVarInt])
  | cons first tail =>
    simp only [decodeVarInt] at read
    split_ifs at read with short
    obtain ⟨-, rfl⟩ := Prod.mk.inj (Option.some.inj read)
    rw [List.length_drop, List.length_cons]
    omega

theorem decodeVarInt_encode (size count value : Nat) (rest : Bytes)
    (announced : 2 ^ size = count + 1) (small : value < 64 * 256 ^ count) (sizes : size < 4) :
    decodeVarInt (encode (count + 1) (size * (64 * 256 ^ count) + value) ++ rest) = some (value, rest) := by
  set unit := 256 ^ count with unit_def
  have positive : 0 < unit := pow_pos (by decide) count
  have digit : (size * (64 * unit) + value) / unit = size * 64 + value / unit := by
    rw [← mul_assoc, mul_comm (size * 64), Nat.mul_add_div positive]
  have top : value / unit < 64 := by
    rwa [Nat.div_lt_iff_lt_mul positive]
  have first : (UInt8.ofNat ((size * (64 * unit) + value) / unit)).toNat = size * 64 + value / unit := by
    rw [UInt8.toNat_ofNat', digit, Nat.mod_eq_of_lt (by omega)]
  have high : (size * 64 + value / unit) / 64 = size := by
    rw [Nat.mul_comm, Nat.mul_add_div (by decide), Nat.div_eq_of_lt top, Nat.add_zero]
  have low : (size * 64 + value / unit) % 64 = value / unit := by
    rw [Nat.mul_add_mod_self_right, Nat.mod_eq_of_lt top]
  have extra : 2 ^ size - 1 = count := by omega
  have tail : (size * (64 * unit) + value) % unit = value % unit := by
    rw [← mul_assoc, Nat.mul_add_mod_self_right]
  rw [encode, List.cons_append, decodeVarInt, ← unit_def, first, high, low, extra,
    if_neg (by simp), List.take_left' (length_encode ..),
    List.drop_left' (length_encode ..), decode_encode, ← unit_def, tail,
    Nat.div_add_mod']

theorem decodeVarInt_encodeVarInt {bytes : Bytes} (encoded : encodeVarInt value = some bytes)
    (rest : Bytes) : decodeVarInt (bytes ++ rest) = some (value, rest) := by
  unfold encodeVarInt at encoded
  split_ifs at encoded with one two four eight
  · obtain rfl := Option.some.inj encoded
    simpa using decodeVarInt_encode 0 0 value rest rfl (by omega) (by decide)
  · obtain rfl := Option.some.inj encoded
    exact decodeVarInt_encode 1 1 value rest rfl (by omega) (by decide)
  · obtain rfl := Option.some.inj encoded
    exact decodeVarInt_encode 2 3 value rest rfl (by omega) (by decide)
  · obtain rfl := Option.some.inj encoded
    exact decodeVarInt_encode 3 7 value rest rfl (by simp only [maxQuicVarint] at eight; omega) (by decide)

theorem encodeVarInt_isSome (bound : value ≤ maxQuicVarint) : ∃ bytes, encodeVarInt value = some bytes := by
  unfold encodeVarInt
  split_ifs
  all_goals exact ⟨_, rfl⟩

end Quicz
