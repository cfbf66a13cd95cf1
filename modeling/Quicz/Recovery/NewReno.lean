import Quicz.Recovery

/-! The NewReno window over any sequence of the calls a connection makes: what each call leaves of the
window, the threshold and the bytes counted towards the next increase. -/
namespace Quicz

open Nat Recovery

variable {r : Recovery}

namespace Recovery

def checkedSub (a b : Nat) : Option Nat := if b ≤ a then some (a - b) else none

variable {maxDatagramSize acked window : Nat}

/-- What the loop leaves: each increase by a datagram took a window of the bytes, and less than a window is left. -/
theorem growNewReno_spec {rounds : Nat} (positive : 0 < window) (fits : window ≤ maxU64) (enough : acked < rounds) :
    let grown := growNewReno maxDatagramSize rounds acked window
    window ≤ grown.2 ∧ grown.2 ≤ maxU64 ∧ grown.1 < grown.2 ∧
      ∃ n, grown.2 ≤ window + n * maxDatagramSize ∧ grown.1 + n * window ≤ acked := by
  induction rounds generalizing acked window with
  | zero => omega
  | succ rounds ih =>
    rw [growNewReno]
    by_cases full : acked ≥ window
    · rw [if_pos full]
      by_cases top : min (window + maxDatagramSize) maxU64 = maxU64
      · rw [if_pos top]
        exact ⟨by omega, by omega, by omega, 1, by omega, by omega⟩
      · rw [if_neg top]
        obtain ⟨grows, below, left, n, size, used⟩ :=
          @ih (acked - window) (min (window + maxDatagramSize) maxU64) (by omega) (by omega) (by omega)
        have wider : n * window ≤ n * min (window + maxDatagramSize) maxU64 := mul_le_mul_left n (by omega)
        refine ⟨by omega, below, left, n + 1, ?_, ?_⟩
        · rw [succ_mul]
          omega
        · rw [succ_mul]
          omega
    · rw [if_neg full]
      exact ⟨le_refl _, fits, not_le.mp full, 0, le_add_right _ _, by rw [zero_mul, add_zero]⟩

inductive Event
  | sent (packetNumber : Nat) (bytes : UInt64)
  | acked (bytes : UInt64) (sentTimeNanos : Int) (sample : Option (Nat × Nat)) (utilized : Bool)
  | largestAcked (packetNumber : Nat)
  | lost (bytes : UInt64) (sentTimeNanos nowNanos : Int) (packetNumber : Option Nat)
  | congestion (sentTimeNanos nowNanos : Int)
  | persistentCongestion (latestRttNs : Option Nat)
  | maxDatagramSize (size : Nat)

def on (r : Recovery) : Event → Recovery
  | .sent packetNumber bytes => { r with largestSentPacketNumber := packetNumber }.onPacketSent bytes.toNat
  | .acked bytes sentTimeNanos (some (latestRttNs, ackDelayNs)) utilized =>
    r.onPacketAckedWithUtilization bytes.toNat sentTimeNanos latestRttNs ackDelayNs utilized
  | .acked bytes sentTimeNanos none utilized => r.onPacketAckedWithoutRttSample bytes.toNat sentTimeNanos utilized
  | .largestAcked packetNumber => r.notifyLargestAcked packetNumber
  | .lost bytes sentTimeNanos nowNanos packetNumber =>
    r.onPacketLostWithNumber bytes.toNat sentTimeNanos nowNanos packetNumber
  | .congestion sentTimeNanos nowNanos => r.onCongestionEvent sentTimeNanos nowNanos
  | .persistentCongestion latestRttNs => r.onPersistentCongestionWithRttSample latestRttNs
  | .maxDatagramSize size => r.updateMaxDatagramSize size

def after (r : Recovery) (events : List Event) : Recovery := events.foldl on r

structure Reno where
  maxDatagramSize : Nat
  window : Nat
  bytesAcked : Nat
  ssthresh : Nat

namespace Reno

variable {w next : Reno}

def avoid (w : Reno) (bytes : Nat) : Reno :=
  let acked := saturatingAddU64 w.bytesAcked bytes
  let grown := growNewReno w.maxDatagramSize (acked + 1) acked w.window
  { w with window := grown.2, bytesAcked := grown.1 }

structure Sound (w : Reno) : Prop where
  floor : minimumCongestionWindow w.maxDatagramSize ≤ w.window
  fits : w.window ≤ maxU64
  counted : w.bytesAcked < max w.window 1

inductive Step (w : Reno) : Reno → Prop
  | keep : Step w w
  | avoid (bytes : Nat) (positive : 0 < w.window) : Step w (w.avoid bytes)
  | restart (size window : Nat) (floor : minimumCongestionWindow size ≤ window) (fits : window ≤ maxU64) :
    Step w { w with maxDatagramSize := size, window := window, bytesAcked := 0 }
  | resize (size : Nat) (floor : minimumCongestionWindow size ≤ w.window) : Step w { w with maxDatagramSize := size }
  | cut : Step w
    { w with
      ssthresh := w.window / 2
      window := max (w.window / 2) (minimumCongestionWindow w.maxDatagramSize)
      bytesAcked := 0 }

theorem minimum_le (size : Nat) : minimumCongestionWindow size ≤ maxU64 := min_le_right _ _

theorem avoid_spec (sound : w.Sound) (positive : 0 < w.window) (bytes : Nat) :
    w.window ≤ (w.avoid bytes).window ∧ (w.avoid bytes).window ≤ maxU64 ∧
      (w.avoid bytes).bytesAcked < (w.avoid bytes).window ∧
      ∃ n, (w.avoid bytes).window ≤ w.window + n * w.maxDatagramSize ∧
        (w.avoid bytes).bytesAcked + n * w.window ≤ w.bytesAcked + bytes := by
  obtain ⟨grows, below, left, n, size, used⟩ := @growNewReno_spec w.maxDatagramSize _ _ _ positive sound.fits
    (lt_succ_self (saturatingAddU64 w.bytesAcked bytes))
  have carried : saturatingAddU64 w.bytesAcked bytes ≤ w.bytesAcked + bytes := min_le_left _ _
  exact ⟨grows, below, left, n, size, used.trans carried⟩

theorem Step.sound (step : w.Step next) (sound : w.Sound) : next.Sound := by
  cases step with
  | keep => exact sound
  | avoid bytes positive =>
    obtain ⟨grows, below, left, -⟩ := avoid_spec sound positive bytes
    exact ⟨sound.floor.trans grows, below, left.trans_le (le_max_left _ _)⟩
  | restart size window floor fits => exact ⟨floor, fits, lt_of_lt_of_le one_pos (le_max_right _ _)⟩
  | resize size floor => exact ⟨floor, sound.fits, sound.counted⟩
  | cut =>
    have fits := sound.fits
    refine ⟨Nat.le_max_right _ _, Nat.max_le.mpr ⟨by omega, minimum_le _⟩, ?_⟩
    exact lt_of_lt_of_le one_pos (le_max_right _ _)

theorem Step.ssthresh (step : w.Step next) : next.ssthresh = w.ssthresh ∨ next.ssthresh = w.window / 2 := by
  cases step with
  | cut => exact .inr rfl
  | keep | avoid | restart | resize => exact .inl rfl

end Reno

end Recovery

end Quicz
