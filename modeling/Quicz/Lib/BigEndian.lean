import Mathlib.Tactic.Ring
import Mathlib.Algebra.Order.Ring.Nat

/-! Numbers as bytes, the most significant first. -/
namespace BigEndian

def encode : Nat → Nat → List UInt8
  | 0, _ => []
  | count + 1, value => UInt8.ofNat (value / 256 ^ count) :: encode count value

/-- The bytes read after the digits that `high` holds. -/
def decode (high : Nat) : List UInt8 → Nat
  | [] => high
  | byte :: rest => decode (high * 256 + byte.toNat) rest

@[simp] theorem length_encode (count value : Nat) : (encode count value).length = count := by
  induction count with
  | zero => rfl
  | succ count ih => rw [encode, List.length_cons, ih]

theorem decode_encode (count high value : Nat) :
    decode high (encode count value) = high * 256 ^ count + value % 256 ^ count := by
  induction count generalizing high with
  | zero => simp [encode, decode, Nat.mod_one]
  | succ count ih =>
    have digit : (UInt8.ofNat (value / 256 ^ count)).toNat = value / 256 ^ count % 256 :=
      UInt8.toNat_ofNat'
    have split : value % 256 ^ (count + 1) = value % 256 ^ count + 256 ^ count * (value / 256 ^ count % 256) := by
      rw [pow_succ, Nat.mod_mul]
    rw [encode, decode, ih, digit, split, pow_succ]
    ring

end BigEndian
