import Quicz.Run

/-! Loss detection against section 6.1 of RFC 9002, and persistent congestion. An ACK frame that
acknowledges new packets and a loss timer that is due both look for lost packets, with the same
loop: it removes those that are lost and says when the next one will be. -/
namespace Quicz

open Proc List Connection Function LossCheck

section Tally

structure EcnBooks where
  sentEct0 : Nat
  sentEct1 : Nat
  largest : Option Nat
  counts : EcnCounts
  state : EcnValidationState

structure SpaceTally where
  discarded : Bool
  sent : List SentPacket
  lossDeadline : Option Int
  largestAcknowledged : Option Nat
  ecn : EcnBooks

def PacketNumberSpaceState.ecn (s : PacketNumberSpaceState) : EcnBooks :=
  ⟨s.ecnSentEct0, s.ecnSentEct1, s.ecnLargestAcknowledged, s.ecnCounts, s.ecnValidationState⟩

def PacketNumberSpaceState.tally (s : PacketNumberSpaceState) : SpaceTally :=
  ⟨s.discarded, s.sentPackets, s.lossDeadlineNanos, s.largestAcknowledged, s.ecn⟩

def Connection.tally (c : Connection) (space : PacketNumberSpace) : SpaceTally := (c.packetNumberSpace space).tally

variable (c : Connection) (space : PacketNumberSpace)

theorem tally_modifySpace (f : PacketNumberSpaceState → PacketNumberSpaceState) :
    (c.modifySpace space f).tally = update c.tally space (f (c.packetNumberSpace space)).tally := by
  funext other
  cases space <;> cases other <;> rfl

variable {f : PacketNumberSpaceState → PacketNumberSpaceState} (keeps : ∀ s, (f s).tally = s.tally)
include keeps

theorem tally_modifySpace_same : (c.modifySpace space f).tally = c.tally := by
  rw [tally_modifySpace, keeps]
  exact update_eq_self space c.tally

theorem tally_modifySpaces : (c.modifySpaces f).tally = c.tally := by
  have each : ∀ s : PacketNumberSpaceState, (if s.discarded then s else f s).tally = s.tally := by
    intro s
    split
    · rfl
    · exact keeps s
  funext other
  cases other <;> exact each _

omit keeps

@[simp] theorem tally_modifyRecovery (g : Recovery → Recovery) : (c.modifyRecovery space g).tally = c.tally :=
  tally_modifySpace_same c space fun _ => rfl

@[simp] theorem tally_armCongestionProbeIfPendingData :
    (c.armCongestionProbeIfPendingData space).tally = c.tally := by
  unfold armCongestionProbeIfPendingData
  split
  · exact tally_modifySpace_same c space fun s => by split <;> rfl
  · rfl

@[simp] theorem tally_refreshAntiDeadlockPtoTimer (now : Int) :
    (c.refreshAntiDeadlockPtoTimer space now).tally = c.tally := by
  unfold refreshAntiDeadlockPtoTimer
  repeat' split
  all_goals rfl

@[simp] theorem tally_syncRttEstimatesFromSpace : (c.syncRttEstimatesFromSpace space).tally = c.tally :=
  tally_modifySpaces c fun _ => rfl

@[simp] theorem tally_resetConnectionPtoBackoff : c.resetConnectionPtoBackoff.tally = c.tally :=
  tally_modifySpaces (f := fun s => { s with recoveryState := { s.recoveryState with ptoCount := 0 } }) c fun _ => rfl

@[simp] theorem tally_restorePtoBackoff (snapshot : Connection) : (c.restorePtoBackoff snapshot).tally = c.tally := by
  funext other
  cases other <;> rfl

def Connection.largestWith (c : Connection) (space : PacketNumberSpace) (ack : AckFrame) : Nat :=
  max ((c.packetNumberSpace space).largestAcknowledged.getD ack.largestAcknowledged) ack.largestAcknowledged

variable (now : Int) (ack : AckFrame) (counts : Option EcnCounts) (packets : List SentPacket) (bytes : Nat)
  (largest : SentPacket) (utilized : Bool)

def Connection.checkedEcn : PacketNumberSpaceState :=
  ((c.packetNumberSpace space).validateEcnAck ack.largestAcknowledged (countEcn .ect0 packets)
    (countEcn .ect1 packets) counts).2

/-- What an ACK frame leaves of the space before losses are looked for. -/
def Connection.acknowledged : SpaceTally :=
  { c.tally space with
    largestAcknowledged := some (c.largestWith space ack)
    ecn := (c.checkedEcn space ack counts packets).ecn }

end Tally

variable {check : LossCheck} {packets : List SentPacket}

inductive LossEvent
  | ack (frame : AckFrame) (counts : Option EcnCounts)
  | timer

namespace LossEvent

variable (c : Connection) (space : PacketNumberSpace) (now : Int)

def apply : LossEvent → Connection
  | ack frame counts => c.applyAck space now frame counts
  | timer => c.expireLossDetectionTimeoutInSpace space now

def inFlight : LossEvent → List SentPacket
  | ack frame _ => (c.packetNumberSpace space).sentPackets.filter fun p => !ackFrameContains frame p.packetNumber
  | timer => (c.packetNumberSpace space).sentPackets

def largest : LossEvent → Option Nat
  | ack frame _ => some (c.largestWith space frame)
  | timer => (c.packetNumberSpace space).largestAcknowledged

def sample : LossEvent → Option Nat
  | ack frame _ => (largestPacket ((c.packetNumberSpace space).acknowledgedBy frame)).bind (frame.rttSample · now)
  | timer => none

variable (e : LossEvent)

/-- Section 6.1.2 takes the latest RTT: the event's own sample, or the last one recorded. -/
def timeThreshold : Nat :=
  timeThresholdLossDelayNs ((e.sample c space now).or (c.recoveryOf space).latestRttNs)
    (c.recoveryOf space).smoothedRttNs

/-- The threshold of the code, which takes the latest RTT for zero when the event gives no sample. -/
def lossDelay : Nat :=
  timeThresholdLossDelayNs (some ((e.sample c space now).getD 0)) (c.recoveryOf space).smoothedRttNs

def below (p : SentPacket) : Bool := (e.largest c space).any (p.packetNumber < ·)

/-- Lost in the words of section 6.1. -/
def lost (p : SentPacket) : Bool := (e.largest c space).any fun largest =>
  p.packetNumber < largest &&
    (p.packetNumber + packetThresholdLossGap ≤ largest || p.sentTimeNanos ≤ now - e.timeThreshold c space now)

structure Exact : Prop where
  removed : ((e.apply c space now).packetNumberSpace space).sentPackets =
    (e.inFlight c space).filter (!e.lost c space now ·)
  deadline : ((e.apply c space now).packetNumberSpace space).lossDeadlineNanos = none ↔
    ∀ p ∈ ((e.apply c space now).packetNumberSpace space).sentPackets, !e.below c space p
  later : ∀ deadline, ((e.apply c space now).packetNumberSpace space).lossDeadlineNanos = some deadline → now < deadline

/-- The code's threshold takes no packet that the latest RTT would have kept; and a packet with the
largest acknowledged number itself, which only a fresh start of the numbers leaves in flight, is not
late and not alone. -/
structure Agrees : Prop where
  time : ∀ p ∈ e.inFlight c space, e.below c space p → p.sentTimeNanos + e.lossDelay c space now ≤ now →
    e.lost c space now p
  own : ∀ p ∈ e.inFlight c space, e.largest c space = some p.packetNumber →
    now < p.sentTimeNanos + e.lossDelay c space now ∧
      ∃ q ∈ e.inFlight c space, e.below c space q ∧ !e.lost c space now q

structure Settled : Prop where
  none_lost : ∀ p ∈ e.inFlight c space, !e.lost c space now p
  deadline : (c.packetNumberSpace space).lossDeadlineNanos = none ↔ ∀ p ∈ e.inFlight c space, !e.below c space p
  later : ∀ deadline, (c.packetNumberSpace space).lossDeadlineNanos = some deadline → now < deadline

variable {c space now e}

variable {number : Nat} (known : e.largest c space = some number)
include known

variable (small : number ≤ maxQuicVarint)
include small

end LossEvent

variable {first : Option Int} {lost : List SentPacket} {r : LossDetectionResult}

structure LossSpan (first : Option Int) (lost : List SentPacket) (p q : SentPacket) : Prop where
  left : p ∈ lost
  right : q ∈ lost
  sampled : ∃ time, first = some time ∧ time < p.sentTimeNanos ∧ time < q.sentTimeNanos
  between : ∀ n, p.packetNumber ≤ n → n ≤ q.packetNumber → ∃ other ∈ lost, other.packetNumber = n

/-- The candidates so far, as long as their numbers follow one another. -/
def LossDetectionResult.Follows (first : Option Int) (lost : List SentPacket) (r : LossDetectionResult) : Prop :=
  r.pcContiguousPacketNumbers = true → r.pcCandidateCount ≠ 0 → ∃ p q, LossSpan first lost p q ∧
    p.sentTimeNanos = r.pcFirstSentTimeNanos ∧ q.sentTimeNanos = r.pcLastSentTimeNanos ∧
    q.packetNumber = r.pcLastPacketNumber

theorem LossDetectionResult.Follows.record (follows : r.Follows first lost) {packet : SentPacket} (mem : packet ∈ lost) :
    (r.recordLostPacket first packet).Follows first lost := by
  unfold recordLostPacket
  cases first with
  | none => exact follows
  | some time =>
    simp only
    split_ifs with early fresh
    · exact follows
    · have late := Int.not_le.mp early
      exact fun _ _ => ⟨packet, packet, ⟨mem, mem, ⟨time, rfl, late, late⟩, fun n low high =>
        ⟨packet, mem, Nat.le_antisymm low high⟩⟩, rfl, rfl, rfl⟩
    · intro contiguous _
      obtain ⟨before, next⟩ := Bool.and_eq_true_iff.mp contiguous
      obtain ⟨p, q, span, sent, -, number⟩ := follows before fresh
      obtain ⟨_, ⟨⟩, late, -⟩ := span.sampled
      refine ⟨p, packet, ⟨span.left, mem, ⟨time, rfl, late, Int.not_le.mp early⟩, fun n low high => ?_⟩, sent, rfl, rfl⟩
      have step : packet.packetNumber ≤ q.packetNumber + 1 := by
        rw [beq_iff_eq.mp next, number]
        exact min_le_left _ _
      rcases Nat.lt_or_ge q.packetNumber n with above | within
      · exact ⟨packet, mem, by omega⟩
      · exact span.between n low within

end Quicz
