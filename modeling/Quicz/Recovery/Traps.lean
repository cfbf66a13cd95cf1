import Mathlib.Order.Monotone.Basic
import Quicz.Run

/-! The arithmetic of the RTT estimate and of the timers with its machine integers. The rest of the model
computes these values without bounds; here a product, a sum or a cast that does not fit stops the program,
and nothing is returned. -/
namespace Quicz

open List Connection Option Recovery Nat

def checkedMulU64 (a b : Nat) : Option Nat := if a * b ≤ maxU64 then some (a * b) else none

def checkedI64 (x : Int) : Option Int := if -maxI64 - 1 ≤ x ∧ x ≤ maxI64 then some x else none

theorem checkedMulU64_fits {a b : Nat} (fits : a * b ≤ maxU64) : checkedMulU64 a b = some (a * b) := if_pos fits

theorem checkedI64_eq_some {x y : Int} : checkedI64 x = some y ↔ (-maxI64 - 1 ≤ x ∧ x ≤ maxI64) ∧ x = y := by
  unfold checkedI64
  split
  case isTrue fits => rw [some.injEq, and_iff_right fits]
  case isFalse no => exact ⟨nofun, fun ⟨fits, _⟩ => (no fits).elim⟩

theorem le_saturatingAdd {now : Int} (clock : now ≤ maxI64) (duration : Nat) : now ≤ saturatingAdd now duration := by
  unfold saturatingAdd
  split <;> omega

def Connection.checkedAckDelayForRtt (c : Connection) (space : PacketNumberSpace) (ackDelay : Nat) : Option Nat :=
  if space ≠ .application then some 0
  else do
    let scaledAckDelayNs ← checkedMulU64 (c.scaledPeerAckDelay ackDelay) 1000
    if !c.handshakeConfirmed then return scaledAckDelayNs
    return min scaledAckDelayNs c.applicationPacketSpace.recoveryState.maxAckDelayNs

theorem checkedAckDelayForRtt_fits {c : Connection} {space : PacketNumberSpace} {ackDelay : Nat}
    (fits : space = .application → c.scaledPeerAckDelay ackDelay * 1000 ≤ maxU64) :
    c.checkedAckDelayForRtt space ackDelay = some (c.ackDelayForRtt space ackDelay) := by
  unfold checkedAckDelayForRtt ackDelayForRtt
  by_cases other : space ≠ .application
  · rw [if_pos other, if_pos other]
  · rw [if_neg other, if_neg other, checkedMulU64_fits (fits (Decidable.not_not.mp other))]
    cases c.handshakeConfirmed <;> rfl

theorem ackDelayForRtt_le {c : Connection} (confirmed : c.handshakeConfirmed = true) (space : PacketNumberSpace)
    (ackDelay : Nat) : c.ackDelayForRtt space ackDelay ≤ c.applicationPacketSpace.recoveryState.maxAckDelayNs := by
  unfold ackDelayForRtt
  split
  · exact zero_le _
  · rw [confirmed]
    exact min_le_right _ _

namespace Recovery

def minRttWith (r : Recovery) (latestRttNs : Nat) : Nat :=
  match r.minRttNs with
  | some minRtt => min minRtt (max latestRttNs minTrackableRttNs)
  | none => max latestRttNs minTrackableRttNs

def adjustedRtt (r : Recovery) (latestRttNs ackDelayNs : Nat) : Nat :=
  let clampedRtt := max latestRttNs minTrackableRttNs
  if clampedRtt > saturatingAddU64 (r.minRttWith latestRttNs) ackDelayNs then clampedRtt - ackDelayNs else clampedRtt

def sampled (r : Recovery) (samples : List (Nat × Nat)) : Recovery :=
  samples.foldl (fun r sample => r.updateRtt sample.1 sample.2) r

def adjustedRtts : Recovery → List (Nat × Nat) → List Nat
  | _, [] => []
  | r, sample :: rest => r.adjustedRtt sample.1 sample.2 :: (r.updateRtt sample.1 sample.2).adjustedRtts rest

variable {r : Recovery} {latest : Nat} (delay : Nat)

theorem latestRttNs_updateRtt (latest : Nat) :
    (r.updateRtt latest delay).latestRttNs = some (max latest minTrackableRttNs) := by
  unfold updateRtt
  cases r.latestRttNs <;> rfl

theorem minRttNs_updateRtt (latest : Nat) : (r.updateRtt latest delay).minRttNs = some (r.minRttWith latest) := by
  unfold updateRtt
  cases r.latestRttNs <;> rfl

theorem smoothedRttNs_updateRtt (latest : Nat) (first : r.latestRttNs = none) :
    (r.updateRtt latest delay).smoothedRttNs = r.adjustedRtt latest delay := by
  simp only [updateRtt, first]
  rfl

theorem smoothedRttNs_updateRtt_again (latest : Nat) (again : r.latestRttNs.isSome) :
    (r.updateRtt latest delay).smoothedRttNs =
      saturatingAddU64 (saturatingMulU64 7 r.smoothedRttNs) (r.adjustedRtt latest delay) / 8 := by
  obtain ⟨_, known⟩ := isSome_iff_exists.mp again
  simp only [updateRtt, known]
  rfl

theorem minRttWith_le_adjustedRtt (sized : latest ≤ maxU64) : r.minRttWith latest ≤ r.adjustedRtt latest delay := by
  have clamped : r.minRttWith latest ≤ max latest minTrackableRttNs := by
    unfold minRttWith
    split <;> omega
  have bounded : max latest minTrackableRttNs ≤ maxU64 := Nat.max_le.mpr ⟨sized, by decide⟩
  unfold adjustedRtt saturatingAddU64
  dsimp only
  split <;> omega

theorem adjustedRtt_of_least (least : r.minRttWith latest = max latest minTrackableRttNs) (sized : latest ≤ maxU64) :
    r.adjustedRtt latest delay = max latest minTrackableRttNs := by
  have bounded : max latest minTrackableRttNs ≤ maxU64 := Nat.max_le.mpr ⟨sized, by decide⟩
  unfold adjustedRtt saturatingAddU64
  dsimp only
  rw [least]
  exact if_neg (by omega)

/-- The smoothed value stays below some counted sample, and above the least sample unless the sum it is
computed from is held at the largest u64. -/
structure Tracks (r : Recovery) (seen : List (Nat × Nat)) (counted : List Nat) (least : Nat) : Prop where
  sampled : r.latestRttNs.isSome
  known : r.minRttNs = some least
  le_seen : ∀ sample ∈ seen, least ≤ max sample.1 minTrackableRttNs
  least_counted : least ∈ counted
  above : ∃ rtt ∈ counted, r.smoothedRttNs ≤ rtt
  below : min least (2 ^ 61 - 1) ≤ r.smoothedRttNs

theorem Tracks.first (latestNone : r.latestRttNs = none) (minNone : r.minRttNs = none) (sized : latest ≤ maxU64) :
    (r.updateRtt latest delay).Tracks [(latest, delay)] [r.adjustedRtt latest delay] (max latest minTrackableRttNs) := by
  have least : r.minRttWith latest = max latest minTrackableRttNs := by simp only [minRttWith, minNone]
  have counts : r.adjustedRtt latest delay = max latest minTrackableRttNs := adjustedRtt_of_least delay least sized
  have smoothed := smoothedRttNs_updateRtt delay latest latestNone
  refine ⟨by simp [latestRttNs_updateRtt], by rw [minRttNs_updateRtt, least], ?_, ?_,
    ⟨_, mem_singleton_self _, smoothed.le⟩, ?_⟩
  · intro sample mem
    obtain rfl := mem_singleton.mp mem
    exact le_rfl
  · rw [counts]
    exact mem_singleton_self _
  · rw [smoothed, counts]
    exact min_le_left _ _

theorem Tracks.next {seen : List (Nat × Nat)} {counted : List Nat} {least : Nat} (tracks : r.Tracks seen counted least)
    (sized : latest ≤ maxU64) :
    (r.updateRtt latest delay).Tracks (seen ++ [(latest, delay)]) (counted ++ [r.adjustedRtt latest delay])
      (min least (max latest minTrackableRttNs)) := by
  have lowest : r.minRttWith latest = min least (max latest minTrackableRttNs) := by
    simp only [minRttWith, tracks.known]
  have low := minRttWith_le_adjustedRtt (r := r) delay sized
  have smoothed := smoothedRttNs_updateRtt_again delay latest tracks.sampled
  rw [lowest] at low
  set new := r.adjustedRtt latest delay with counts
  simp only [saturatingAddU64, saturatingMulU64, maxU64] at smoothed
  refine ⟨by simp [latestRttNs_updateRtt], by rw [minRttNs_updateRtt, lowest], ?_, ?_, ?_, ?_⟩
  · intro sample mem
    rcases mem_append.mp mem with old | here
    · exact (min_le_left _ _).trans (tracks.le_seen sample old)
    · obtain rfl := mem_singleton.mp here
      exact min_le_right _ _
  · rcases le_total least (max latest minTrackableRttNs) with kept | lower
    · rw [min_eq_left kept]
      exact mem_append_left _ tracks.least_counted
    · rw [min_eq_right lower] at lowest ⊢
      rw [counts, adjustedRtt_of_least delay lowest sized]
      exact mem_append_right _ (mem_singleton_self _)
  · obtain ⟨rtt, mem, le⟩ := tracks.above
    rcases le_total r.smoothedRttNs new with rises | falls
    · exact ⟨new, by simp, by omega⟩
    · exact ⟨rtt, by simp [mem], by omega⟩
  · have before := tracks.below
    rw [smoothed]
    simp only [min_def] at before low ⊢
    split_ifs at before low ⊢ <;> omega

theorem Tracks.run {samples : List (Nat × Nat)} (sized : ∀ sample ∈ samples, sample.1 ≤ maxU64) :
    ∀ {r : Recovery} {seen : List (Nat × Nat)} {counted : List Nat} {least : Nat}, r.Tracks seen counted least →
      ∃ least, (r.sampled samples).Tracks (seen ++ samples) (counted ++ r.adjustedRtts samples) least := by
  induction samples with
  | nil =>
    intro r seen counted least tracks
    exact ⟨least, by simpa [Recovery.sampled, adjustedRtts] using tracks⟩
  | cons sample rest ih =>
    intro r seen counted least tracks
    obtain ⟨first, others⟩ := forall_mem_cons.mp sized
    obtain ⟨final, done⟩ := ih others (tracks.next sample.2 first)
    exact ⟨final, by simpa [Recovery.sampled, adjustedRtts] using done⟩

end Recovery

/-- Acknowledgement delays of the peer neither stop the program, as long as the delay in nanoseconds fits, nor
spoil the estimate: whatever is taken off the samples, the least sample is known, and the smoothed value lies
between the least and the largest sample that was counted. -/
theorem peer_ack_delay_safe (c : Connection) (space : PacketNumberSpace) (ackDelay : Nat)
    (fits : space = .application → c.scaledPeerAckDelay ackDelay * 1000 ≤ maxU64) (r : Recovery)
    (fresh : r.latestRttNs = none ∧ r.minRttNs = none) (samples : List (Nat × Nat)) (taken : samples ≠ [])
    (sized : ∀ sample ∈ samples, sample.1 ≤ maxU64)
    (small : samples.length = 1 ∨ ∃ sample ∈ samples, sample.1 < 2 ^ 61) :
    (∃ delay, c.checkedAckDelayForRtt space ackDelay = some delay ∧
      (c.handshakeConfirmed = true → delay ≤ c.applicationPacketSpace.recoveryState.maxAckDelayNs)) ∧
    (∃ least, (r.sampled samples).minRttNs = some least ∧
      ∀ sample ∈ samples, least ≤ max sample.1 Recovery.minTrackableRttNs) ∧
    (∃ rtt ∈ r.adjustedRtts samples, rtt ≤ (r.sampled samples).smoothedRttNs) ∧
    ∃ rtt ∈ r.adjustedRtts samples, (r.sampled samples).smoothedRttNs ≤ rtt := by
  refine ⟨⟨_, checkedAckDelayForRtt_fits fits, fun confirmed => ackDelayForRtt_le confirmed space ackDelay⟩, ?_⟩
  obtain ⟨⟨latest, delay⟩, rest, rfl⟩ := exists_cons_of_ne_nil taken
  obtain ⟨first, others⟩ := forall_mem_cons.mp sized
  obtain ⟨least, tracks⟩ := Recovery.Tracks.run others (.first delay fresh.1 fresh.2 first)
  refine ⟨⟨least, tracks.known, tracks.le_seen⟩, ?_, tracks.above⟩
  rcases small with single | ⟨sample, mem, small⟩
  · -- the first sample is taken as it is
    obtain rfl : rest = [] := length_eq_zero_iff.mp (by simpa using single)
    exact ⟨_, mem_singleton_self _, (smoothedRttNs_updateRtt delay latest fresh.1).ge⟩
  · refine ⟨least, tracks.least_counted, ?_⟩
    have le := tracks.le_seen sample mem
    have below := tracks.below
    have tiny : minTrackableRttNs < 2 ^ 61 := by decide
    rwa [min_eq_left (by omega)] at below

theorem peer_ack_delay_two_samples :
    let c : Connection := { fresh .client {} with handshakeConfirmed := true }
    let r := c.recoveryOf .application
    (∃ delay, c.checkedAckDelayForRtt .application (2 ^ 40) = some delay ∧
      (c.handshakeConfirmed = true → delay ≤ c.applicationPacketSpace.recoveryState.maxAckDelayNs)) ∧
    r.adjustedRtts [(1000000000, 0), (2000000000, 25000000)] = [1000000000, 1975000000] ∧
    ∃ rtt ∈ r.adjustedRtts [(1000000000, 0), (2000000000, 25000000)],
      rtt ≤ (r.sampled [(1000000000, 0), (2000000000, 25000000)]).smoothedRttNs := by
  intro c r
  obtain ⟨delay, -, low, -⟩ := peer_ack_delay_safe c .application (2 ^ 40) (fun _ => by decide +kernel) r ⟨rfl, rfl⟩
    [(1000000000, 0), (2000000000, 25000000)] (by decide) (by decide) (Or.inr ⟨_, mem_cons_self, by decide⟩)
  exact ⟨delay, by decide +kernel, low⟩

/-- The largest delay a frame can carry stops the program; a sample below a microsecond counts as one; and two
samples of more than seventy years leave the smoothed value below both. -/
theorem peer_ack_delay_traps :
    let c := fresh .client {}
    let r := c.recoveryOf .application
    c.checkedAckDelayForRtt .application (2 ^ 62 - 1) = none ∧
    (r.sampled [(0, 0)]).minRttNs = some 1000 ∧
    (r.sampled [(2 ^ 61, 0), (2 ^ 61, 0)]).smoothedRttNs = 2 ^ 61 - 1 := by
  decide +kernel

/-- The second half of `basePtoWithJitterNs`: a draw from twice the largest jitter, moved below zero. -/
def checkedJitter (base maxJitter randVal : Nat) : Option Nat := do
  let randSigned ← checkedI64 randVal
  let maxSigned ← checkedI64 maxJitter
  let jitter ← checkedI64 (randSigned - maxSigned)
  let baseSigned ← checkedI64 base
  let result ← checkedI64 (baseSigned + jitter)
  return if result < timerGranularityNs then timerGranularityNs else result.toNat

theorem checkedJitter_eq {base maxJitter randVal : Nat} (drawn : randVal ≤ 2 * maxJitter)
    (signed : (2 * maxJitter : Int) ≤ maxI64) : checkedJitter base maxJitter randVal =
      if (base : Int) ≤ maxI64 ∧ (base : Int) + randVal ≤ maxI64 + maxJitter then
        some (max (base + randVal - maxJitter) timerGranularityNs) else none := by
  have draw : checkedI64 randVal = some (randVal : Int) := checkedI64_eq_some.mpr ⟨by omega, rfl⟩
  have most : checkedI64 maxJitter = some (maxJitter : Int) := checkedI64_eq_some.mpr ⟨by omega, rfl⟩
  have moved : checkedI64 ((randVal : Int) - maxJitter) = some ((randVal : Int) - maxJitter) :=
    checkedI64_eq_some.mpr ⟨by omega, rfl⟩
  simp only [checkedJitter, draw, most, moved, bind_eq_bind, bind_some]
  by_cases fits : (base : Int) ≤ maxI64 ∧ (base : Int) + randVal ≤ maxI64 + maxJitter
  · have positive : checkedI64 base = some (base : Int) := checkedI64_eq_some.mpr ⟨by omega, rfl⟩
    have sum : checkedI64 ((base : Int) + ((randVal : Int) - maxJitter)) = some ((base : Int) + (randVal - maxJitter)) :=
      checkedI64_eq_some.mpr ⟨by omega, rfl⟩
    simp only [positive, sum, bind_some, if_pos fits]
    congr 1
    split <;> omega
  · rw [if_neg fits]
    cases signed : checkedI64 base with
    | none => rfl
    | some baseSigned =>
      obtain ⟨⟨-, bounded⟩, rfl⟩ := checkedI64_eq_some.mp signed
      have exceeds : checkedI64 ((base : Int) + ((randVal : Int) - maxJitter)) = none := if_neg (by omega)
      simp only [bind_some, exceeds, bind_none]

namespace Recovery

def checkedBasePtoWithJitterNs (r : Recovery) (includeMaxAckDelay : Bool) : Option Nat := do
  let base := r.basePtoNs includeMaxAckDelay
  if r.ptoJitterPercentage = 0 then return base
  let scaled ← checkedMulU64 base (min r.ptoJitterPercentage 50)
  let maxJitter := scaled / 100
  if maxJitter = 0 then return base
  let range ← checkedMulU64 2 maxJitter
  checkedJitter base maxJitter (min (r.control.jitter r.jitterDraws range) range)

def checkedBackedOffPtoNs (r : Recovery) (includeMaxAckDelay : Bool) : Option Nat :=
  (r.checkedBasePtoWithJitterNs includeMaxAckDelay).map fun base =>
    (range r.ptoCount).foldl (fun timeout _ => saturatingMulU64 timeout 2) base

/-- The scaled timeout fits a u64, and the timeout with the jitter drawn for it an i64. -/
def JitterFits (r : Recovery) (includeMaxAckDelay : Bool) : Prop :=
  let base := r.basePtoNs includeMaxAckDelay
  let maxJitter := base * min r.ptoJitterPercentage 50 / 100
  base * min r.ptoJitterPercentage 50 ≤ maxU64 ∧ (maxJitter = 0 ∨ (base : Int) ≤ maxI64 ∧
    (base : Int) + (min (r.control.jitter r.jitterDraws (2 * maxJitter)) (2 * maxJitter) : Nat) ≤ maxI64 + maxJitter)

variable {r : Recovery} {includeMaxAckDelay : Bool}

theorem checkedBasePtoWithJitterNs_eq_some {timeout : Nat} :
    r.checkedBasePtoWithJitterNs includeMaxAckDelay = some timeout ↔
      r.JitterFits includeMaxAckDelay ∧ (r.basePtoWithJitterNs includeMaxAckDelay).1 = timeout := by
  unfold checkedBasePtoWithJitterNs basePtoWithJitterNs JitterFits
  set base := r.basePtoNs includeMaxAckDelay
  by_cases off : r.ptoJitterPercentage = 0
  · simp [off]
  by_cases scaled : base * min r.ptoJitterPercentage 50 ≤ maxU64
  · set maxJitter := base * min r.ptoJitterPercentage 50 / 100 with jitter_def
    have signed : (2 * maxJitter : Int) ≤ maxI64 ∧ 2 * maxJitter ≤ maxU64 := by
      simp only [maxI64, maxU64] at scaled ⊢
      omega
    simp only [off, if_false, checkedMulU64_fits scaled, bind_eq_bind, bind_some, ← jitter_def,
      scaled, true_and, false_or]
    by_cases small : maxJitter = 0
    · simp [small]
    · simp only [small, if_false, checkedMulU64_fits signed.2, bind_some, false_or,
        checkedJitter_eq (min_le_right _ _) signed.1]
      split
      case isTrue fits => exact ⟨fun same => ⟨fits, some.inj same⟩, fun h => congrArg some h.2⟩
      case isFalse no => exact ⟨by simp, fun h => absurd h.1 no⟩
  · have traps : checkedMulU64 base (min r.ptoJitterPercentage 50) = none := if_neg scaled
    simp [off, traps, scaled]

theorem basePtoWithJitterNs_le (fits : r.JitterFits includeMaxAckDelay) :
    (r.basePtoWithJitterNs includeMaxAckDelay).1 ≤ maxU64 := by
  obtain ⟨-, within⟩ := fits
  have base : r.basePtoNs includeMaxAckDelay ≤ maxU64 := min_le_right _ _
  unfold basePtoWithJitterNs
  dsimp only
  split
  · exact base
  · rename_i jitters
    obtain ⟨-, sum⟩ := within.resolve_left (not_or.mp jitters).2
    simp only [timerGranularityNs, nsPerMs, maxI64, maxU64] at sum ⊢
    omega

theorem doubled_monotone {base : Nat} (fits : base ≤ maxU64) :
    Monotone fun count => (range count).foldl (fun timeout _ => saturatingMulU64 timeout 2) base := by
  have bounded : ∀ count, (range count).foldl (fun timeout _ => saturatingMulU64 timeout 2) base ≤ maxU64 := by
    intro count
    cases count with
    | zero => exact fits
    | succ count =>
      rw [range_succ, foldl_append]
      exact min_le_right _ _
  refine monotone_nat_of_le_succ fun count => ?_
  have step := bounded count
  rw [range_succ, foldl_append]
  generalize (range count).foldl _ base = timeout at step ⊢
  simp only [foldl_cons, foldl_nil, saturatingMulU64]
  omega

theorem backedOffPtoNs_count (r : Recovery) (includeMaxAckDelay : Bool) (ptoCount : Nat) :
    ({ r with ptoCount }.backedOffPtoNs includeMaxAckDelay).1 =
      (range ptoCount).foldl (fun timeout _ => saturatingMulU64 timeout 2)
        (r.basePtoWithJitterNs includeMaxAckDelay).1 := by
  refine congrArg (fun base => (range ptoCount).foldl (fun timeout _ => saturatingMulU64 timeout 2) base) ?_
  -- the count is not read, only handed on
  have value : ∀ r : Recovery, (r.basePtoWithJitterNs includeMaxAckDelay).1 = _ := fun r => apply_ite Prod.fst _ _ _
  exact (value { r with ptoCount }).trans (value r).symm

/-- The timeout is computed for every count, and a larger count does not shorten it. -/
def BackoffSound (r : Recovery) (includeMaxAckDelay : Bool) : Prop :=
  r.checkedBasePtoWithJitterNs includeMaxAckDelay = some (r.basePtoWithJitterNs includeMaxAckDelay).1 ∧
  (∀ ptoCount, { r with ptoCount }.checkedBackedOffPtoNs includeMaxAckDelay =
    some ({ r with ptoCount }.backedOffPtoNs includeMaxAckDelay).1) ∧
  Monotone fun ptoCount => ({ r with ptoCount }.backedOffPtoNs includeMaxAckDelay).1

theorem backoffSound_iff : r.BackoffSound includeMaxAckDelay ↔ r.JitterFits includeMaxAckDelay := by
  constructor
  · rintro ⟨base, -, -⟩
    exact (checkedBasePtoWithJitterNs_eq_some.mp base).1
  · intro fits
    have base := checkedBasePtoWithJitterNs_eq_some.mpr ⟨fits, rfl⟩
    refine ⟨base, fun ptoCount => ?_, ?_⟩
    · rw [backedOffPtoNs_count]
      exact congrArg (Option.map fun base =>
        (range ptoCount).foldl (fun timeout _ => saturatingMulU64 timeout 2) base) base
    · simp only [backedOffPtoNs_count]
      exact doubled_monotone (basePtoWithJitterNs_le fits)

end Recovery

namespace Connection

variable (c : Connection)

def checkedIdleTimeoutDeadline : Option (Option Int) :=
  match c.effectiveIdleTimeout, c.lastPacketActivityNanos with
  | some idleTimeout, some lastActivity => do
    let millis ← checkedI64 idleTimeout
    let nanos ← checkedI64 (millis * nsPerMs)
    return some (saturatingAdd lastActivity nanos.toNat)
  | _, _ => some none

variable (space : PacketNumberSpace)

def ptoStart : Option Int :=
  if !c.ptoAllowedInSpace space then none
  else
    match space with
    | .application => c.applicationPacketSpace.latestSentTime
    | space => (c.packetNumberSpace space).latestSentTime.or
        (if c.antiDeadlockPtoSpace ≠ some space then none else c.antiDeadlockPtoStartNanos)

def checkedPtoDeadline : Option (Option Int) :=
  match c.ptoStart space with
  | none => some none
  | some start =>
    ({ c.recoveryOf space with ptoCount := c.connectionPtoBackoffCount }.checkedBackedOffPtoNs
      (decide (space = PacketNumberSpace.application))).map fun timeout => some (saturatingAdd start timeout)

theorem ptoDeadline_eq : c.ptoDeadline space = (c.ptoStart space).map fun start =>
      ptoDeadlineFromStart (c.recoveryOf space) start (decide (space = .application)) c.connectionPtoBackoffCount := by
  unfold ptoDeadline ptoStart
  by_cases barred : !c.ptoAllowedInSpace space
  · rw [if_pos barred, if_pos barred]
    rfl
  · rw [if_neg barred, if_neg barred]
    cases space with
    | application => rfl
    | initial | handshake =>
      simp only [ptoDeadlineFor, antiDeadlockPtoDeadline, map_or]
      split_ifs <;> rfl

def IdleTimeoutFits : Prop :=
  ∀ idleTimeout ∈ c.effectiveIdleTimeout, c.lastPacketActivityNanos.isSome → (idleTimeout * nsPerMs : Nat) ≤ maxI64

theorem checkedIdleTimeoutDeadline_iff :
    c.checkedIdleTimeoutDeadline = some c.idleTimeoutDeadline ↔ c.IdleTimeoutFits := by
  unfold checkedIdleTimeoutDeadline idleTimeoutDeadline IdleTimeoutFits
  cases c.effectiveIdleTimeout with
  | none => simp
  | some idleTimeout =>
    cases c.lastPacketActivityNanos with
    | none => simp
    | some lastActivity =>
      simp only [mem_some_iff, forall_eq', isSome_some, forall_const]
      constructor
      · intro computed
        obtain ⟨millis, first, computed⟩ := bind_eq_some_iff.mp computed
        obtain ⟨nanos, second, -⟩ := bind_eq_some_iff.mp computed
        obtain ⟨-, rfl⟩ := checkedI64_eq_some.mp first
        exact_mod_cast (checkedI64_eq_some.mp second).1.2
      · intro fits
        have low : -maxI64 - 1 ≤ 0 := by decide
        have less : idleTimeout ≤ idleTimeout * nsPerMs := Nat.le_mul_of_pos_right _ (by decide)
        have first : checkedI64 idleTimeout = some (idleTimeout : Int) := checkedI64_eq_some.mpr ⟨by omega, rfl⟩
        have second : checkedI64 ((idleTimeout : Int) * nsPerMs) = some ((idleTimeout * nsPerMs : Nat) : Int) := by
          rw [← Int.natCast_mul]
          exact checkedI64_eq_some.mpr ⟨by omega, rfl⟩
        rw [first, bind_eq_bind, bind_some, second, bind_eq_bind, bind_some, Int.toNat_natCast]
        rfl

theorem checkedPtoDeadline_iff : c.checkedPtoDeadline space = some (c.ptoDeadline space) ↔
      ((c.ptoStart space).isSome → (c.recoveryOf space).JitterFits (decide (space = .application))) := by
  rw [checkedPtoDeadline, ptoDeadline_eq]
  cases c.ptoStart space with
  | none => simp
  | some start =>
    simp only [isSome_some, forall_const, map_some]
    constructor
    · intro computed
      obtain ⟨timeout, backedOff, -⟩ := map_eq_some_iff.mp computed
      obtain ⟨base, first, -⟩ := map_eq_some_iff.mp backedOff
      exact (checkedBasePtoWithJitterNs_eq_some.mp first).1
    · intro fits
      obtain ⟨-, counted, -⟩ := backoffSound_iff.mpr fits
      rw [counted]
      rfl

end Connection

/-- The timers are computed without a trap, and lie no earlier than the time they count from, exactly when the
idle timeout and the jittered probe timeout fit their machine integers. -/
theorem timer_deadlines_total_iff (c : Connection) (space : PacketNumberSpace) (r : Recovery)
    (includeMaxAckDelay : Bool) (active : ∀ last ∈ c.lastPacketActivityNanos, last ≤ maxI64)
    (armed : ∀ start ∈ c.ptoStart space, start ≤ maxI64) :
    ((c.checkedIdleTimeoutDeadline = some c.idleTimeoutDeadline ∧
        ∀ deadline ∈ c.idleTimeoutDeadline, ∃ last ∈ c.lastPacketActivityNanos, last ≤ deadline) ↔
      c.IdleTimeoutFits) ∧ ((c.checkedPtoDeadline space = some (c.ptoDeadline space) ∧
        ∀ deadline ∈ c.ptoDeadline space, ∃ start ∈ c.ptoStart space, start ≤ deadline) ↔
      ((c.ptoStart space).isSome → (c.recoveryOf space).JitterFits (decide (space = .application)))) ∧
    (r.BackoffSound includeMaxAckDelay ↔ r.JitterFits includeMaxAckDelay) := by
  have idleLater : ∀ deadline ∈ c.idleTimeoutDeadline, ∃ last ∈ c.lastPacketActivityNanos, last ≤ deadline := by
    intro deadline here
    obtain ⟨timeout, -, here⟩ := bind_eq_some_iff.mp here
    obtain ⟨last, known, here⟩ := bind_eq_some_iff.mp here
    cases here
    exact ⟨last, known, le_saturatingAdd (active last known) _⟩
  have ptoLater : ∀ deadline ∈ c.ptoDeadline space, ∃ start ∈ c.ptoStart space, start ≤ deadline := by
    intro deadline here
    rw [ptoDeadline_eq] at here
    obtain ⟨start, known, rfl⟩ := map_eq_some_iff.mp here
    exact ⟨start, known, le_saturatingAdd (armed start known) _⟩
  refine ⟨?_, ?_, backoffSound_iff⟩
  · rw [and_iff_left idleLater]
    exact c.checkedIdleTimeoutDeadline_iff
  · rw [and_iff_left ptoLater]
    exact c.checkedPtoDeadline_iff space

theorem timer_deadlines_default :
    let c := run (.fresh .client { maxIdleTimeoutMs := 30000 }) [.recordPacketSentInSpace .initial 0 1200]
    (c.checkedIdleTimeoutDeadline = some c.idleTimeoutDeadline ∧
      ∀ deadline ∈ c.idleTimeoutDeadline, ∃ last ∈ c.lastPacketActivityNanos, last ≤ deadline) ∧
    c.idleTimeoutDeadline = some 30000000000 ∧ c.ptoDeadline .initial = some 999000000 ∧
    (c.recoveryOf .initial).BackoffSound false := by
  intro c
  have fits : (c.recoveryOf .initial).JitterFits false := ⟨by decide +kernel, Or.inl (by decide +kernel)⟩
  obtain ⟨idle, -, backoff⟩ := timer_deadlines_total_iff c .initial (c.recoveryOf .initial) false
    (by decide +kernel) (by decide +kernel)
  have effective : c.effectiveIdleTimeout = some 30000 := by decide +kernel
  refine ⟨idle.mpr fun timeout known _ => ?_, by decide +kernel, by decide +kernel, backoff.mpr fits⟩
  obtain rfl := some.inj (effective.symm.trans known)
  decide

/-- An idle timeout the configuration allows stops the program once a packet was sent, and so does the jitter on
an initial RTT of more than a hundred years. -/
theorem timer_deadlines_trap :
    let idle : Config := { maxIdleTimeoutMs := 2 ^ 62 - 1 }
    let jittered : Config := { initialRttNs := 2 ^ 62, ptoJitterPercentage := 50 }
    let calls : List Call := [.confirmHandshake, .recordPacketSentInSpace .application 0 1200]
    idle.check .client = .ok () ∧ jittered.check .client = .ok () ∧
    (run (.fresh .client idle) calls).checkedIdleTimeoutDeadline = none ∧
    (run (.fresh .client jittered) calls).checkedPtoDeadline .application = none := by
  decide +kernel

end Quicz
