import Quicz.Protocol

/-! Loss recovery and congestion control of one packet number space (recovery.zig) and the
pacer (pacer.zig). Clock values are integers, durations and byte counts natural numbers.
HyStart++, CUBIC and the timer jitter compute in floating point or at random: what they
return is a parameter of the model, a function of the calls made to them so far. -/
namespace Quicz

def maxI64 : Int := 2 ^ 63 - 1
def nsPerMs : Nat := 1000000
def timerGranularityNs : Nat := nsPerMs
def timeThresholdNumerator : Nat := 9
def timeThresholdDenominator : Nat := 8
def persistentCongestionThreshold : Nat := 3

def saturatingMulU64 (a b : Nat) : Nat := min (a * b) maxU64

def saturatingCeilMulDivU64 (value numerator denominator : Nat) : Nat :=
  let product := saturatingMulU64 value numerator
  if product = maxU64 then product
  else saturatingAddU64 product (denominator - 1) / denominator

def saturatingAdd (nowNanos : Int) (durationNanos : Nat) : Int :=
  if (durationNanos : Int) > maxI64 then maxI64 else min (nowNanos + durationNanos) maxI64

def elapsed (sentTimeNanos nowNanos : Int) : Nat :=
  if nowNanos ≤ sentTimeNanos then 0
  else if nowNanos - sentTimeNanos > maxI64 then maxU64
  else (nowNanos - sentTimeNanos).toNat

inductive CongestionAlgorithm
  | newReno | cubic
deriving DecidableEq, Repr

inductive CongestionState
  | slowStart | recovery | congestionAvoidance
deriving DecidableEq, Repr

inductive ControlCall
  | rttUpdate (congestionWindow : Nat) (sentTimeNanos : Int) (latestRttNs : Nat)
  | appLimited (sentTimeNanos : Int)
  | congestionEvent (congestionWindow maxDatagramSize : Nat) (nowNanos : Int)

structure FloatControl where
  /-- HyStart++ has found a threshold and the window has reached it. -/
  slowStartOver : List ControlCall → Nat → Bool := fun _ _ => false
  /-- Growth of the window in slow start for a number of acknowledged bytes. -/
  slowStartIncrement : List ControlCall → Nat → Nat := fun _ bytes => bytes
  /-- The window CUBIC leaves after a congestion event. -/
  cubicAfterEvent : List ControlCall → Nat := fun _ => 0
  /-- The window CUBIC leaves after acknowledged bytes, from the old one. -/
  cubicGrowth : List ControlCall → Nat → Nat → Int → Nat := fun _ window _ _ => window
  /-- The random draw with a given number, below or at a bound. -/
  jitter : Nat → Nat → Nat := fun _ _ => 0

structure Recovery where
  maxDatagramSize : Nat
  maxAckDelayNs : Nat
  latestRttNs : Option Nat := none
  minRttNs : Option Nat := none
  smoothedRttNs : Nat
  rttvarNs : Nat
  ptoCount : Nat := 0
  bytesInFlight : Nat := 0
  congestionWindow : Nat
  congestionAvoidanceBytesAcked : Nat := 0
  congestionState : CongestionState := .slowStart
  congestionRecoveryStartTimeNanos : Option Int := none
  largestSentPacketNumber : Nat := 0
  largestSentAtLastCutback : Option Nat := none
  largestAckedPacketNumber : Option Nat := none
  ssthresh : Nat := maxU64
  congestionAlgorithm : CongestionAlgorithm := .newReno
  ptoJitterPercentage : Nat := 0
  control : FloatControl := {}
  calls : List ControlCall := []
  jitterDraws : Nat := 0

variable (maxDatagramSize : Nat)

def initialCongestionWindow : Nat :=
  min (saturatingMulU64 10 maxDatagramSize) (max (saturatingMulU64 2 maxDatagramSize) 14720)

def minimumCongestionWindow : Nat := saturatingMulU64 2 maxDatagramSize

def timeThresholdLossDelayNs (latestRttNs : Option Nat) (smoothedRttNs : Nat) : Nat :=
  let rttBasis := match latestRttNs with
    | some latestRtt => max latestRtt smoothedRttNs
    | none => smoothedRttNs
  max (saturatingCeilMulDivU64 rttBasis timeThresholdNumerator timeThresholdDenominator)
    timerGranularityNs

namespace Recovery

def init (maxDatagramSize initialRttNs maxAckDelayNs : Nat) (algorithm : CongestionAlgorithm)
    (jitterPercentage : Nat) (control : FloatControl) : Recovery where
  maxDatagramSize := maxDatagramSize
  maxAckDelayNs := maxAckDelayNs
  smoothedRttNs := initialRttNs
  rttvarNs := initialRttNs / 2
  congestionWindow := initialCongestionWindow maxDatagramSize
  congestionAlgorithm := algorithm
  ptoJitterPercentage := jitterPercentage
  control := control

variable (r : Recovery) (bytes : Nat) (sentTimeNanos : Int)

def inSlowStart : Bool :=
  decide (r.congestionState = .slowStart) && decide (r.congestionWindow < r.ssthresh) &&
    !r.control.slowStartOver r.calls r.congestionWindow

def isCongestionWindowUtilized : Bool :=
  if r.bytesInFlight ≥ r.congestionWindow then true
  else if r.inSlowStart then decide (r.bytesInFlight ≥ r.congestionWindow / 2)
  else decide (r.congestionWindow - r.bytesInFlight ≤ r.maxDatagramSize * 3)

def onPacketSent : Recovery :=
  { r with bytesInFlight := saturatingAddU64 r.bytesInFlight bytes }

def notifyLargestAcked (pn : Nat) : Recovery :=
  let largest := match r.largestAckedPacketNumber with
    | some cur => max cur pn
    | none => pn
  let r := { r with largestAckedPacketNumber := some largest }
  match r.congestionState, r.largestSentAtLastCutback with
  | .recovery, some cutback =>
    if largest > cutback then { r with congestionState := .congestionAvoidance } else r
  | _, _ => r

def removeBytesInFlight : Recovery :=
  { r with bytesInFlight := r.bytesInFlight - bytes }

def inCongestionRecovery : Bool :=
  match r.congestionRecoveryStartTimeNanos with
  | some recoveryStart => decide (sentTimeNanos ≤ recoveryStart)
  | none => false

def wouldStartCongestionRecovery : Bool :=
  !r.inCongestionRecovery sentTimeNanos

/-- The additive increase loop: every round takes a whole window of acknowledged bytes. -/
def growNewReno (maxDatagramSize : Nat) : Nat → Nat → Nat → Nat × Nat
  | 0, acked, window => (acked, window)
  | rounds + 1, acked, window =>
    if acked ≥ window then
      let grown := min (window + maxDatagramSize) maxU64
      if grown = maxU64 then (0, grown)
      else growNewReno maxDatagramSize rounds (acked - window) grown
    else (acked, window)

def growCongestionAvoidance (nowNanos : Int) : Recovery :=
  match r.congestionAlgorithm with
  | .newReno =>
    let acked := saturatingAddU64 r.congestionAvoidanceBytesAcked bytes
    let grown := growNewReno r.maxDatagramSize (acked + 1) acked r.congestionWindow
    { r with congestionAvoidanceBytesAcked := grown.1, congestionWindow := grown.2 }
  | .cubic =>
    match r.congestionRecoveryStartTimeNanos with
    | none => r
    | some _ =>
      { r with congestionWindow := r.control.cubicGrowth r.calls r.congestionWindow bytes nowNanos }

def onAckedBytesForCongestion (utilized : Bool) : Recovery :=
  let r := { r with ptoCount := 0 }
  let r := if !utilized ∧ r.congestionAlgorithm = .cubic then
    { r with calls := r.calls ++ [.appLimited sentTimeNanos] } else r
  if !utilized ∧ r.congestionState ≠ .congestionAvoidance then r
  else if r.congestionState = .recovery ∧ r.inCongestionRecovery sentTimeNanos then r
  else
    let r := if r.congestionState = .recovery then
      { r with congestionState := .congestionAvoidance } else r
    if r.inSlowStart then
      { r with
        congestionWindow :=
          saturatingAddU64 r.congestionWindow (r.control.slowStartIncrement r.calls bytes)
        congestionAvoidanceBytesAcked := 0 }
    else if r.congestionWindow = 0 then
      { r with
        congestionWindow := max bytes (minimumCongestionWindow r.maxDatagramSize)
        congestionAvoidanceBytesAcked := 0 }
    else r.growCongestionAvoidance bytes sentTimeNanos

def minTrackableRttNs : Nat := 1000

def updateRtt (latestRttNs ackDelayNs : Nat) : Recovery :=
  let clampedRtt := max latestRttNs minTrackableRttNs
  let minRtt := match r.minRttNs with
    | some minRtt => min minRtt clampedRtt
    | none => clampedRtt
  let adjustedRtt :=
    if clampedRtt > saturatingAddU64 minRtt ackDelayNs then clampedRtt - ackDelayNs else clampedRtt
  let sampled := { r with latestRttNs := some clampedRtt, minRttNs := some minRtt }
  match r.latestRttNs with
  | none => { sampled with smoothedRttNs := adjustedRtt, rttvarNs := adjustedRtt / 2 }
  | some _ =>
    let rttDelta := if r.smoothedRttNs > adjustedRtt then r.smoothedRttNs - adjustedRtt
      else adjustedRtt - r.smoothedRttNs
    { sampled with
      rttvarNs := saturatingAddU64 (saturatingMulU64 3 r.rttvarNs) rttDelta / 4
      smoothedRttNs := saturatingAddU64 (saturatingMulU64 7 r.smoothedRttNs) adjustedRtt / 8 }

def onPacketAckedWithUtilization (latestRttNs ackDelayNs : Nat) (utilized : Bool) : Recovery :=
  let r := (r.removeBytesInFlight bytes).updateRtt latestRttNs ackDelayNs
  let r := if r.inSlowStart then
    { r with calls := r.calls ++ [.rttUpdate r.congestionWindow sentTimeNanos latestRttNs] } else r
  r.onAckedBytesForCongestion bytes sentTimeNanos utilized

def onPacketAckedWithoutRttSample (utilized : Bool) : Recovery :=
  (r.removeBytesInFlight bytes).onAckedBytesForCongestion bytes sentTimeNanos utilized

def coveredByLastCutback (lostPacketNumber : Option Nat) : Bool :=
  match lostPacketNumber with
  | some pn =>
    match r.largestSentAtLastCutback with
    | some lastCut => decide (pn ≤ lastCut)
    | none => false
  | none => r.inCongestionRecovery sentTimeNanos

def onCongestionEventWithPacketNumber (sentTimeNanos nowNanos : Int) (lostPacketNumber : Option Nat) : Recovery :=
  if r.congestionState = .recovery ∨ r.coveredByLastCutback sentTimeNanos lostPacketNumber then r
  else
    let calls := r.calls ++ [.congestionEvent r.congestionWindow r.maxDatagramSize nowNanos]
    let entered := { r with
      congestionState := .recovery
      congestionRecoveryStartTimeNanos := some nowNanos
      largestSentAtLastCutback := some r.largestSentPacketNumber
      congestionAvoidanceBytesAcked := 0
      calls := calls }
    match r.congestionAlgorithm with
    | .newReno =>
      let ssthresh := r.congestionWindow / 2
      { entered with
        ssthresh := ssthresh
        congestionWindow := max ssthresh (minimumCongestionWindow r.maxDatagramSize) }
    | .cubic =>
      let window := r.control.cubicAfterEvent calls
      { entered with ssthresh := window, congestionWindow := window }

def onCongestionEvent (sentTimeNanos nowNanos : Int) : Recovery :=
  r.onCongestionEventWithPacketNumber sentTimeNanos nowNanos none

def onPacketLostWithNumber (lostPacketSentTimeNanos nowNanos : Int) (lostPn : Option Nat) : Recovery :=
  (r.removeBytesInFlight bytes).onCongestionEventWithPacketNumber lostPacketSentTimeNanos nowNanos
    lostPn

def onPersistentCongestion : Recovery :=
  { r with
    congestionWindow := minimumCongestionWindow r.maxDatagramSize
    congestionState := .slowStart
    congestionAvoidanceBytesAcked := 0
    congestionRecoveryStartTimeNanos := none }

def onPersistentCongestionWithRttSample (latestRttNs : Option Nat) : Recovery :=
  let r := r.onPersistentCongestion
  match latestRttNs with
  | some latest => { r with minRttNs := some latest }
  | none => r

def updateMaxDatagramSize (newMaxDatagramSize : Nat) : Recovery :=
  if r.maxDatagramSize = newMaxDatagramSize then r
  else
    let resized := { r with maxDatagramSize := newMaxDatagramSize }
    if newMaxDatagramSize < r.maxDatagramSize then
      { resized with
        congestionWindow := initialCongestionWindow newMaxDatagramSize
        congestionAvoidanceBytesAcked := 0 }
    else if r.congestionWindow < minimumCongestionWindow newMaxDatagramSize then
      { resized with
        congestionWindow := minimumCongestionWindow newMaxDatagramSize
        congestionAvoidanceBytesAcked := 0 }
    else resized

variable (includeMaxAckDelay : Bool)

def basePtoNs : Nat :=
  let varianceDelay := max (saturatingMulU64 4 r.rttvarNs) timerGranularityNs
  let ackDelay := if includeMaxAckDelay then r.maxAckDelayNs else 0
  saturatingAddU64 (saturatingAddU64 r.smoothedRttNs varianceDelay) ackDelay

/-- The jittered timeout, with the generator moved on by the draw. -/
def basePtoWithJitterNs : Nat × Recovery :=
  let base := r.basePtoNs includeMaxAckDelay
  let maxJitter := base * min r.ptoJitterPercentage 50 / 100
  if r.ptoJitterPercentage = 0 ∨ maxJitter = 0 then (base, r)
  else
    let drawn := min (r.control.jitter r.jitterDraws (2 * maxJitter)) (2 * maxJitter)
    (max (base + drawn - maxJitter) timerGranularityNs, { r with jitterDraws := r.jitterDraws + 1 })

def backedOffPtoNs : Nat × Recovery :=
  let base := r.basePtoWithJitterNs includeMaxAckDelay
  ((List.range r.ptoCount).foldl (fun timeout _ => saturatingMulU64 timeout 2) base.1, base.2)

def ptoNs : Nat × Recovery := r.backedOffPtoNs true

def ptoNsWithoutMaxAckDelay : Nat × Recovery := r.backedOffPtoNs false

def persistentCongestionDuration : Nat :=
  saturatingMulU64 (r.basePtoNs true) persistentCongestionThreshold

def persistentCongestionDurationWithoutMaxAckDelay : Nat :=
  saturatingMulU64 (r.basePtoNs false) persistentCongestionThreshold

end Recovery

structure Pacer where
  budget : Nat
  lastSentNs : Option Int := none
  maxDatagramSize : Nat

namespace Pacer

def maxBurstPackets : Nat := 10

variable (p : Pacer)

def maxBurstSize : Nat := maxBurstPackets * p.maxDatagramSize

def init : Pacer :=
  { budget := maxBurstPackets * maxDatagramSize, maxDatagramSize }

def budgetAt (nowNs : Int) (cwnd smoothedRttNs : Nat) : Nat :=
  if smoothedRttNs = 0 then p.maxBurstSize
  else
    match p.lastSentNs with
    | none => p.maxBurstSize
    | some last =>
      let deltaNs := (nowNs - last).toNat
      if deltaNs = 0 then p.budget
      else
        let added := min (cwnd * 5 * deltaNs / (smoothedRttNs * 4)) maxU64
        min p.maxBurstSize (saturatingAddU64 p.budget added)

def canSend (nowNs : Int) (packetSize cwnd smoothedRttNs : Nat) : Bool :=
  decide (p.budgetAt nowNs cwnd smoothedRttNs ≥ packetSize)

def onPacketSent (nowNs : Int) (packetSize cwnd smoothedRttNs : Nat) : Pacer :=
  { p with budget := p.budgetAt nowNs cwnd smoothedRttNs - packetSize, lastSentNs := some nowNs }

end Pacer

end Quicz
