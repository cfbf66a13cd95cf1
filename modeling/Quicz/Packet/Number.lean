import Mathlib.Tactic.IntervalCases
import Quicz.WireLen

/-! Packet numbers in headers, from packet.zig: the sender keeps the low bytes that tell a number apart from
the unacknowledged ones before it, the receiver looks for the number next to the one it expects. -/
namespace Quicz

inductive PacketError
  | invalidHeaderForm | invalidFixedBit | invalidReservedBits | invalidConnectionIdLength | invalidPacketNumber
  | unsupportedPacketType | unexpectedToken | invalidLength | invalidVarInt | invalidVersionNegotiation
  | invalidVersionList | invalidRetryPacket
  | endOfStream | integerOverflow
deriving DecidableEq, Repr

def maxPacketNumber : Nat := 2 ^ 62 - 1

structure PacketNumberEncoding where
  len : Nat
  truncatedPacketNumber : Nat
deriving DecidableEq, Repr

def checkedSub (a b : Nat) : Except PacketError Nat := if b ≤ a then .ok (a - b) else .error .integerOverflow

def intCast (bits value : Nat) : Except PacketError Nat :=
  if value < 2 ^ bits then .ok value else .error .integerOverflow

theorem checkedSub_le {a b : Nat} (le : b ≤ a) : checkedSub a b = .ok (a - b) := if_pos le

theorem intCast_lt {bits value : Nat} (fits : value < 2 ^ bits) : intCast bits value = .ok value := if_pos fits

def packetNumberEncodingLenForUnacked (numUnackedPackets : Nat) : Except PacketError Nat :=
  if numUnackedPackets = 0 then .error .invalidPacketNumber
  else if numUnackedPackets ≤ 2 ^ 7 then .ok 1
  else if numUnackedPackets ≤ 2 ^ 15 then .ok 2
  else if numUnackedPackets ≤ 2 ^ 23 then .ok 3
  else if numUnackedPackets ≤ 2 ^ 31 then .ok 4
  else .error .invalidPacketNumber

variable (packetNumber : Nat)

def numUnackedPackets : Option Nat → Except PacketError Nat
  | some largest =>
    if largest > maxPacketNumber ∨ packetNumber ≤ largest then .error .invalidPacketNumber
    else checkedSub packetNumber largest
  | none => if packetNumber + 1 ≤ maxU64 then .ok (packetNumber + 1) else .error .invalidPacketNumber

variable (largestAcked : Option Nat)

/-- The mask of the source keeps the low bits of a number, which is a remainder. -/
def encodePacketNumberForHeader : Except PacketError PacketNumberEncoding := do
  if packetNumber > maxPacketNumber then throw .invalidPacketNumber
  let len ← packetNumberEncodingLenForUnacked (← numUnackedPackets packetNumber largestAcked)
  let bits ← intCast 6 (len * 8)
  return ⟨len, ← intCast 32 (packetNumber % 2 ^ bits)⟩

/-- The candidate has the high bits of the expected number and the low bits from the packet, or is one
window next to that. -/
def reconstructPacketNumber (expectedPacketNumber truncatedPacketNumber pnLen : Nat) : Except PacketError Nat := do
  if pnLen = 0 ∨ pnLen > 4 then throw .invalidPacketNumber
  if expectedPacketNumber > maxPacketNumber + 1 then throw .invalidPacketNumber
  let pnNbits ← intCast 6 (pnLen * 8)
  let pnWindow := 2 ^ pnNbits
  let pnHalfWindow := pnWindow / 2
  if truncatedPacketNumber > pnWindow - 1 then throw .invalidPacketNumber
  let candidate := expectedPacketNumber / pnWindow * pnWindow + truncatedPacketNumber
  let decoded ←
    if saturatingAddU64 candidate pnHalfWindow ≤ expectedPacketNumber then
      match addU64 candidate pnWindow with
      | some later => pure later
      | none => throw .invalidPacketNumber
    else if candidate > saturatingAddU64 expectedPacketNumber pnHalfWindow ∧ candidate ≥ pnWindow then
      checkedSub candidate pnWindow
    else pure candidate
  if decoded > maxPacketNumber then throw .invalidPacketNumber
  return decoded

/-- Where a number within half a window of the expected one lies: next to the candidate on the side the
source tests for. -/
theorem candidate_cases {packetNumber expected len : Nat} (long : 1 ≤ len) (short : len ≤ 4)
    (after : expected < packetNumber + 2 ^ (len * 8) / 2) (before : packetNumber ≤ expected + 2 ^ (len * 8) / 2) :
    let candidate := expected / 2 ^ (len * 8) * 2 ^ (len * 8) + packetNumber % 2 ^ (len * 8)
    (candidate + 2 ^ (len * 8) / 2 ≤ expected ∧ packetNumber = candidate + 2 ^ (len * 8)) ∨
    (expected < candidate + 2 ^ (len * 8) / 2 ∧
      if candidate > expected + 2 ^ (len * 8) / 2 ∧ candidate ≥ 2 ^ (len * 8)
      then packetNumber = candidate - 2 ^ (len * 8) else packetNumber = candidate) := by
  interval_cases len
  all_goals
    norm_num only at *
    split_ifs <;> omega

theorem reconstructPacketNumber_near {packetNumber expected len : Nat} (valid : packetNumber ≤ maxPacketNumber)
    (long : 1 ≤ len) (short : len ≤ 4) (after : expected < packetNumber + 2 ^ (len * 8) / 2)
    (before : packetNumber ≤ expected + 2 ^ (len * 8) / 2) (reached : expected ≤ maxPacketNumber + 1) :
    reconstructPacketNumber expected (packetNumber % 2 ^ (len * 8)) len = .ok packetNumber := by
  have window : 2 ^ (len * 8) ≤ 2 ^ 32 := Nat.pow_le_pow_right (by decide) (by omega)
  have low : packetNumber % 2 ^ (len * 8) < 2 ^ (len * 8) := Nat.mod_lt _ (Nat.two_pow_pos _)
  have high : expected / 2 ^ (len * 8) * 2 ^ (len * 8) ≤ expected := Nat.div_mul_le_self _ _
  have bits : intCast 6 (len * 8) = .ok (len * 8) := intCast_lt (by omega)
  have side := candidate_cases long short after before
  simp only [maxPacketNumber] at valid reached
  simp only [reconstructPacketNumber, if_neg (show ¬ (len = 0 ∨ len > 4) by omega), maxPacketNumber,
    if_neg (Nat.not_lt.mpr reached), bits, bind, Except.bind, pure, Except.pure,
    if_neg (show ¬ packetNumber % 2 ^ (len * 8) > 2 ^ (len * 8) - 1 by omega)]
  -- No sum saturates: the window is at most 2^32, and numbers stay below 2^62.
  generalize 2 ^ (len * 8) = size at *
  have bounded : expected / size * size + packetNumber % size ≤ expected + size := by omega
  generalize expected / size * size + packetNumber % size = candidate at *
  have sum : saturatingAddU64 candidate (size / 2) = candidate + size / 2 :=
    min_eq_left (by simp only [maxU64]; omega)
  have ahead : saturatingAddU64 expected (size / 2) = expected + size / 2 :=
    min_eq_left (by simp only [maxU64]; omega)
  have next : addU64 candidate size = some (candidate + size) := if_pos (by simp only [maxU64]; omega)
  rw [sum, ahead, next]
  obtain ⟨behind, rfl⟩ | ⟨within, choice⟩ := side
  · rw [if_pos behind]
    exact if_neg (Nat.not_lt.mpr valid)
  · rw [if_neg (Nat.not_le.mpr within)]
    by_cases beyond : candidate > expected + size / 2 ∧ candidate ≥ size
    · rw [if_pos beyond] at choice ⊢
      rw [checkedSub_le beyond.2, ← choice]
      exact if_neg (Nat.not_lt.mpr valid)
    · rw [if_neg beyond] at choice ⊢
      rw [← choice]
      exact if_neg (Nat.not_lt.mpr valid)

theorem packetNumberEncodingLenForUnacked_ok {unacked len : Nat}
    (chosen : packetNumberEncodingLenForUnacked unacked = .ok len) :
    1 ≤ len ∧ len ≤ 4 ∧ unacked ≤ 2 ^ (len * 8) / 2 := by
  unfold packetNumberEncodingLenForUnacked at chosen
  split_ifs at chosen
  all_goals
    obtain rfl := Except.ok.inj chosen
    omega

theorem numUnackedPackets_ok {packetNumber unacked : Nat} {largestAcked : Option Nat}
    (count : numUnackedPackets packetNumber largestAcked = .ok unacked) :
    match largestAcked with
    | some largest => packetNumber = largest + unacked
    | none => packetNumber + 1 = unacked := by
  cases largestAcked with
  | some largest =>
    simp only [numUnackedPackets] at count
    split_ifs at count with refused
    rw [checkedSub_le (by omega)] at count
    obtain rfl := Except.ok.inj count
    dsimp only
    omega
  | none =>
    simp only [numUnackedPackets] at count
    split_ifs at count
    exact Except.ok.inj count

/-- The encoding has the length chosen for the unacknowledged numbers; neither cast can trap. -/
theorem encodePacketNumberForHeader_eq : encodePacketNumberForHeader packetNumber largestAcked =
      if packetNumber > maxPacketNumber then .error .invalidPacketNumber
      else ((numUnackedPackets packetNumber largestAcked).bind packetNumberEncodingLenForUnacked).map
        fun len => ⟨len, packetNumber % 2 ^ (len * 8)⟩ := by
  unfold encodePacketNumberForHeader
  split_ifs
  case pos => rfl
  cases numUnackedPackets packetNumber largestAcked with
  | error e => rfl
  | ok unacked =>
    simp only [bind, Except.bind, pure, Except.pure]
    cases chosen : packetNumberEncodingLenForUnacked unacked with
    | error e => rfl
    | ok len =>
      obtain ⟨-, short, -⟩ := packetNumberEncodingLenForUnacked_ok chosen
      have low : packetNumber % 2 ^ (len * 8) < 2 ^ 32 :=
        (Nat.mod_lt _ (Nat.two_pow_pos _)).trans_le (Nat.pow_le_pow_right (by decide) (by omega))
      simp only [intCast_lt (show len * 8 < 2 ^ 6 by omega), intCast_lt low, Except.map]

/-- Whatever subset of the packets after the largest acknowledged one has arrived, the receiver finds the
number. Both computations are over checked integers, so neither traps. -/
theorem reconstructPacketNumber_encoded {packetNumber expected : Nat} {largestAcked : Option Nat}
    {encoding : PacketNumberEncoding} (encoded : encodePacketNumberForHeader packetNumber largestAcked = .ok encoding)
    (acked : ∀ largest ∈ largestAcked, largest + 1 ≤ expected) (arrived : expected ≤ packetNumber + 1) :
    reconstructPacketNumber expected encoding.truncatedPacketNumber encoding.len = .ok packetNumber := by
  rw [encodePacketNumberForHeader_eq] at encoded
  split_ifs at encoded with valid
  cases count : numUnackedPackets packetNumber largestAcked with
  | error e => rw [count] at encoded; exact nomatch encoded
  | ok unacked =>
  cases chosen : packetNumberEncodingLenForUnacked unacked with
  | error e => rw [count, Except.bind, chosen] at encoded; exact nomatch encoded
  | ok len =>
  rw [count, Except.bind, chosen] at encoded
  obtain rfl := Except.ok.inj encoded
  obtain ⟨long, short, covered⟩ := packetNumberEncodingLenForUnacked_ok chosen
  have half : 2 ^ 8 / 2 ≤ 2 ^ (len * 8) / 2 :=
    Nat.div_le_div_right (Nat.pow_le_pow_right (by decide) (by omega))
  have before : packetNumber ≤ expected + 2 ^ (len * 8) / 2 := by
    have number := numUnackedPackets_ok count
    cases largestAcked with
    | none =>
      dsimp only at number
      omega
    | some largest =>
      have := acked largest rfl
      dsimp only at number
      omega
  exact reconstructPacketNumber_near (Nat.not_lt.mp valid) long short (by omega) before (by omega)

theorem reconstructPacketNumber_last :
    (∃ encoding, encodePacketNumberForHeader maxPacketNumber (some (maxPacketNumber - 300)) = .ok encoding ∧
      reconstructPacketNumber (maxPacketNumber + 1) encoding.truncatedPacketNumber encoding.len =
        .ok maxPacketNumber) ∧ ∃ encoding, encodePacketNumberForHeader 0 none = .ok encoding ∧
      reconstructPacketNumber 0 encoding.truncatedPacketNumber encoding.len = .ok 0 :=
  ⟨⟨⟨2, 65535⟩, by decide, reconstructPacketNumber_encoded
      (show encodePacketNumberForHeader maxPacketNumber (some (maxPacketNumber - 300)) = .ok ⟨2, 65535⟩ by decide)
      (by decide) (by decide)⟩,
    ⟨1, 0⟩, by decide, reconstructPacketNumber_encoded
      (show encodePacketNumberForHeader 0 none = .ok ⟨1, 0⟩ by decide) (by decide) (by decide)⟩

end Quicz
