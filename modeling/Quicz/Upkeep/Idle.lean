import Quicz.Upkeep.Life

/-! The idle timeout. Any packet that is sent, acknowledgements and repetitions among them, and any
packet that is taken in starts the timer again; the timeout is the shorter one of those the two sides
have, whatever the probe timeout is. -/
namespace Quicz

open Chunks Proc Connection

variable {c : Connection}

variable {rule : ActivityRule} {a b : Activity}

def Activity.Took (a b : Activity) (payload : ReceivedPayload) : Prop :=
  payload.malformed = none ∧ ∃ before, a.heard <+: before ∧ before ++ heardAs .active payload.frames <+: b.heard

/-- What the timer may be started again by. -/
def Activity.Stirred (rule : ActivityRule) (a b : Activity) : Prop :=
  a.sent < b.sent ∨ (∃ payload, rule.brings payload ∧ a.Took b payload) ∨ rule.admits

structure Activity.Moves (rule : ActivityRule) (a b : Activity) : Prop where
  own : b.own = a.own
  peer : b.peer = a.peer ∨ rule.tunes
  sent : a.sent ≤ b.sent
  heard : a.heard <+: b.heard
  last : b.last = a.last ∨ ∃ now, rule.clock now ∧ b.last = some now ∧ a.Stirred rule b

variable {d : Activity}

theorem Activity.Stirred.grow (h : a.Stirred rule b) (sent : b.sent ≤ d.sent)
    (heard : b.heard <+: d.heard) : a.Stirred rule d := by
  rcases h with more | ⟨payload, brings, whole, before, later, took⟩ | may
  · exact Or.inl (more.trans_le sent)
  · exact Or.inr (Or.inl ⟨payload, brings, whole, before, later, took.trans heard⟩)
  · exact Or.inr (Or.inr may)

namespace Activity.Moves

theorem refl (a : Activity) : a.Moves rule a := ⟨rfl, Or.inl rfl, le_rfl, List.prefix_rfl, Or.inl rfl⟩

theorem unstirred (h : a.Moves rule b) (own : d.own = b.own) (peer : d.peer = b.peer ∨ rule.tunes)
    (sent : b.sent ≤ d.sent) (heard : b.heard <+: d.heard) (last : d.last = b.last) : a.Moves rule d := by
  refine ⟨own.trans h.own, ?_, h.sent.trans sent, h.heard.trans heard, ?_⟩
  · rcases peer with same | tunes
    · rw [same]
      exact h.peer
    · exact Or.inr tunes
  · rw [last]
    refine h.last.imp_right ?_
    rintro ⟨now, clock, started, stirred⟩
    exact ⟨now, clock, started, stirred.grow sent heard⟩

theorem stirs {now : Int} (h : a.Moves rule b) (clock : rule.clock now) (own : d.own = b.own)
    (peer : d.peer = b.peer) (sent : b.sent ≤ d.sent) (heard : b.heard <+: d.heard)
    (last : d.last = (b.stir now).last) (stirred : a.Stirred rule d) : a.Moves rule d := by
  unfold Activity.stir at last
  split at last
  · exact h.unstirred own (Or.inl peer) sent heard last
  · refine ⟨own.trans h.own, ?_, h.sent.trans sent, h.heard.trans heard, Or.inr ⟨now, clock, last, stirred⟩⟩
    rw [peer]
    exact h.peer

theorem step (h : a.Moves rule b) (step : ActivityStep rule b d) : a.Moves rule d := by
  have kept (now : Int) : (b.stir now).own = b.own ∧ (b.stir now).peer = b.peer ∧ (b.stir now).sent = b.sent ∧
      (b.stir now).heard = b.heard := by
    unfold Activity.stir
    split <;> exact ⟨rfl, rfl, rfl, rfl⟩
  cases step with
  | hears frame clock => exact h.unstirred rfl (Or.inl rfl) le_rfl (List.prefix_append _ _) rfl
  | emits clock => exact h.unstirred rfl (Or.inl rfl) (Nat.le_succ _) List.prefix_rfl rfl
  | @sends now clock =>
    exact h.stirs clock (kept now).1 (kept now).2.1 (Nat.le_succ _) ((kept now).2.2.2.symm ▸ List.prefix_rfl) rfl
      (Or.inl (Nat.lt_succ_of_le h.sent))
  | @takes now payload clock brings whole =>
    exact h.stirs clock (kept now).1 (kept now).2.1 (kept now).2.2.1.ge (List.prefix_append _ _) rfl
      (Or.inr (Or.inl ⟨payload, brings, whole, _, h.heard, List.prefix_rfl⟩))
  | @admits now clock may =>
    exact h.stirs clock (kept now).1 (kept now).2.1 (kept now).2.2.1.ge ((kept now).2.2.2.symm ▸ List.prefix_rfl) rfl
      (Or.inr (Or.inr may))
  | tunes peer may => exact h.unstirred rfl (Or.inr may) le_rfl List.prefix_rfl rfl

end Activity.Moves

theorem ActivitySteps.moves (steps : ActivitySteps rule a b) : a.Moves rule b := by
  induction steps with
  | refl => exact .refl a
  | tail _ step ih => exact ih.step step

variable {call : Call}

def Call.activityRule (call : Call) : UpkeepRule :=
  { UpkeepRule.any with
    brings := (· ∈ call.payloads)
    clock := (call.time = some ·)
    admits := call.admits = true
    tunes := call.appliesParameters = true }

theorem Call.heeds_activity (call : Call) : call.Heeds call.activityRule :=
  { call.heeds_any with
    takes := fun _ mem => ⟨mem, fun _ _ => trivial⟩
    clock := fun _ time => time
    admits := by cases h : call.admits <;> simp [Call.activityRule, h]
    tunes := by cases h : call.appliesParameters <;> simp [Call.activityRule, h] }

theorem expired_activity (c : Connection) (now : Int) :
    ((c.expireIdleState now).expireCloseState now).activity = c.activity := by
  have same := fun c : Connection => c.expired_keeps now (f := activity) fun _ => rfl
  exact (same _).2.trans (same c).1

/-- A Retry, a Version Negotiation or a token that is not accepted does not start the timer. -/
theorem admits_fails (admits : call.admits = true) :
    wp (perform call) (fun _ _ => True) (fun _ t => t.activity = c.activity) c := by
  have expired := expired_activity c
  cases call <;> cases admits
  case validateAddressValidationToken now kind token authentic =>
    simp only [perform, quietly, validateAddressValidationToken, expireState, requireActive, wp_bind, wp_get,
      wp_modify, wp_failIf, wp_pure, expired, implies_true, and_self]
  case issueRetryDatagram now originalDcid clientScid retryScid token =>
    simp only [perform, quietly, issueRetryDatagram, issueRetryToken, expireState, requireActive, wp_bind, wp_get,
      wp_set, wp_modify, wp_failIf, wp_liftExcept, wp_pure, expired, implies_true, and_self]
  case processRetryDatagram now originalDcid retry =>
    simp only [perform, quietly, processRetryDatagram, expireState, requireActive, wp_bind, wp_get, wp_modify,
      wp_failIf, wp_liftExcept, wp_pure, expired, implies_true, and_self]
  case processVersionNegotiationDatagram now originalDcid localScid negotiation =>
    simp only [perform, quietly, processVersionNegotiationDatagram, expireState, requireActive, wp_bind, wp_get,
      wp_modify, wp_failIf, wp_ite, wp_orThrow, wp_pure, expired, implies_true, and_self]

/-- The call starts the timer again: a packet was sent, a payload was taken in, or a Retry, a Version
Negotiation or an address validation token was accepted. -/
def Call.Stirs (call : Call) (c : Connection) : Prop :=
  packetsSent c.history < packetsSent (call.next c).history ∨
    (∃ payload ∈ call.payloads, c.activity.Took (call.next c).activity payload) ∨
    call.admits = true ∧ ∃ datagram t, perform call c = .ok datagram t

theorem Call.moves (call : Call) (c : Connection) :
    c.activity.Moves call.activityRule.toActivityRule (call.next c).activity :=
  ((Call.tends call.heeds_activity).after c).activity.moves

theorem Call.last_moves (call : Call) (c : Connection) :
    (call.next c).lastPacketActivityNanos = c.lastPacketActivityNanos ∨
      ∃ now, call.time = some now ∧ (call.next c).lastPacketActivityNanos = some now ∧ call.Stirs c := by
  rcases (call.moves c).last with same | ⟨now, clock, started, stirred⟩
  · exact Or.inl same
  · rcases stirred with sent | took | admits
    · exact Or.inr ⟨now, clock, started, Or.inl sent⟩
    · exact Or.inr ⟨now, clock, started, Or.inr (Or.inl took)⟩
    · cases result : perform call c with
      | ok datagram t => exact Or.inr ⟨now, clock, started, Or.inr (Or.inr ⟨admits, datagram, t, result⟩)⟩
      | error e t =>
        have fails := admits_fails (c := c) admits
        rw [wp, result] at fails
        refine Or.inl ?_
        rw [Call.next, after, result]
        exact congrArg Activity.last fails

theorem Call.timeout_moves (call : Call) (c : Connection) :
    (call.next c).effectiveIdleTimeout = c.effectiveIdleTimeout ∨ call.appliesParameters = true := by
  refine (call.moves c).peer.imp_left fun peer => ?_
  have own : (call.next c).config.maxIdleTimeoutMs = c.config.maxIdleTimeoutMs := (call.moves c).own
  have same : (call.next c).peerMaxIdleTimeoutMs = c.peerMaxIdleTimeoutMs := peer
  rw [effectiveIdleTimeout, own, same, ← effectiveIdleTimeout]

/-- The deadline moves only when the timer is started again, and then it is the timeout away, or
when the timeout changes. -/
theorem Call.deadline_moves (call : Call) (c : Connection) :
    (call.next c).idleTimeoutDeadline = c.idleTimeoutDeadline ∨ call.appliesParameters = true ∨
      ∃ now timeout, call.time = some now ∧ c.effectiveIdleTimeout = some timeout ∧
        (call.next c).idleTimeoutDeadline = some (saturatingAdd now (timeout * nsPerMs)) ∧ call.Stirs c := by
  rcases call.timeout_moves c with timeout | applies
  · rcases call.last_moves c with last | ⟨now, time, started, stirs⟩
    · refine Or.inl ?_
      rw [idleTimeoutDeadline, timeout, last, ← idleTimeoutDeadline]
    · cases effective : c.effectiveIdleTimeout with
      | none =>
        refine Or.inl ?_
        rw [idleTimeoutDeadline, idleTimeoutDeadline, timeout, effective]
        rfl
      | some timeoutMs =>
        refine Or.inr (Or.inr ⟨now, timeoutMs, time, rfl, ?_, stirs⟩)
        rw [idleTimeoutDeadline, timeout, effective, started]
        rfl
  · exact Or.inr (Or.inl applies)

def Call.LeavesIdle (c : Connection) (call : Call) : Prop := ¬ call.Stirs c ∧ call.appliesParameters = false

theorem run_leaves_idle {calls : List Call} (idle : Throughout (fun c call => call.LeavesIdle c) c calls) :
    (run c calls).idleTimeoutDeadline = c.idleTimeoutDeadline := by
  induction calls generalizing c with
  | nil => rfl
  | cons call rest ih =>
    have kept : (call.next c).idleTimeoutDeadline = c.idleTimeoutDeadline := by
      rcases call.deadline_moves c with same | applies | ⟨_, _, _, _, _, stirs⟩
      · exact same
      · cases applies.symm.trans idle.1.2
      · exact absurd stirs idle.1.1
    exact (ih idle.2).trans kept

theorem Reachable.tidy (reached : Reachable c) : c.life.Tidy := by
  obtain ⟨side, config, -, tended⟩ := reached.tended
  exact (tended.life.forward (by intro pending; cases pending)).1

theorem Reachable.run (reached : Reachable c) (calls : List Call) : Reachable (Quicz.run c calls) := by
  obtain ⟨side, config, start, before, made, -, rfl⟩ := reached
  exact ⟨side, config, start, before ++ calls, made, throughout_true _ _, run_append _ _ _⟩

theorem next_checkIdleTimeouts (c : Connection) (now : Int) :
    (Call.checkIdleTimeouts now).next c = c.expireIdleState now := by
  refine wp_after (I := (· = c.expireIdleState now)) ?_
  simp only [perform, quietly, checkIdleTimeouts, wp_bind, wp_modify, wp_get, wp_failIf, wp_pure, implies_true,
    and_self]

theorem expireIdleState_ends (tidy : c.life.Tidy) (active : c.state = .active) {deadline now : Int}
    (armed : c.idleTimeoutDeadline = some deadline) (due : deadline ≤ now) : c.expireIdleState now = c.expire := by
  have going : ¬ (c.state ≠ .active ∨ c.pendingClose.isSome = true) := by
    rintro (other | pending)
    · exact other active
    · have closing : c.state = .closing := tidy pending
      cases active.symm.trans closing
  rw [expireIdleState, if_neg going]
  simp only [armed, if_neg (Int.not_lt.mpr due)]

theorem checkIdleTimeouts_ends (tidy : c.life.Tidy) {deadline now : Int}
    (armed : c.idleTimeoutDeadline = some deadline) (due : deadline ≤ now) :
    ((Call.checkIdleTimeouts now).next c).state ≠ .active := by
  rw [next_checkIdleTimeouts]
  by_cases active : c.state = .active
  · rw [expireIdleState_ends tidy active armed due]
    nofun
  · rwa [expireIdleState, if_pos (Or.inl active)]

/-- The deadline of the idle timer moves only by a call that sends a packet, takes in a payload or
accepts a Retry, a Version Negotiation or a token, and then to the timeout after that call; or by one
that applies the timeout of the peer. So a connection without such calls is not active at a check at
the deadline or later. The timeout is the smallest one that either side has. -/
theorem idle_deadline_of_activity (reached : Reachable c) :
    (∀ call : Call, (call.next c).idleTimeoutDeadline = c.idleTimeoutDeadline ∨ call.appliesParameters = true ∨
      ∃ now timeout, call.time = some now ∧ c.effectiveIdleTimeout = some timeout ∧
        (call.next c).idleTimeoutDeadline = some (saturatingAdd now (timeout * nsPerMs)) ∧ call.Stirs c) ∧
    (∀ deadline calls now, c.idleTimeoutDeadline = some deadline →
      Throughout (fun c call => call.LeavesIdle c) c calls → deadline ≤ now →
        ((Call.checkIdleTimeouts now).next (run c calls)).state ≠ .active) ∧
    c.effectiveIdleTimeout = ([c.config.maxIdleTimeoutMs, c.peerMaxIdleTimeoutMs].filter (0 < ·)).min? := by
  refine ⟨fun call => call.deadline_moves c, fun deadline calls now armed idle due => ?_, ?_⟩
  · exact checkIdleTimeouts_ends (reached.run calls).tidy ((run_leaves_idle idle).trans armed) due
  · unfold effectiveIdleTimeout
    cases c.config.maxIdleTimeoutMs <;> cases c.peerMaxIdleTimeoutMs <;> simp [List.min?]

def pingedOnce : List Call := [.sendPingInSpace .application, .pollTx 0 1200]

theorem idle_deadline_of_activity_ping :
    ((Call.checkIdleTimeouts 30_000_000).next (run (run (.fresh .client { maxIdleTimeoutMs := 30 }) pingedOnce)
      [.checkLossDetectionTimeouts 10_000_000])).state ≠ .active := by
  have reached : Reachable (run (.fresh .client { maxIdleTimeoutMs := 30 }) pingedOnce) :=
    ⟨.client, { maxIdleTimeoutMs := 30 }, _, pingedOnce, rfl, throughout_true _ _, rfl⟩
  refine (idle_deadline_of_activity reached).2.1 30_000_000 _ _ (by decide +kernel) ⟨⟨?_, rfl⟩, trivial⟩ (le_refl _)
  rintro (sent | ⟨payload, mem, -⟩ | ⟨admits, -⟩)
  · revert sent
    decide +kernel
  · cases mem
  · cases admits

/-- A second PING, with no packet of the peer in between, moves the deadline, so that the connection is
active later than the timeout after the first one; and the timeout is shorter than three times the
probe timeout. -/
theorem probes_move_idle_deadline :
    let start := fresh .client { maxIdleTimeoutMs := 30 }
    let once := run start pingedOnce
    let twice := run once [.sendPingInSpace .application, .pollTx 20_000_000 1200]
    once.idleTimeoutDeadline = some 30_000_000 ∧ twice.idleTimeoutDeadline = some 50_000_000 ∧
      twice.heard = [] ∧ ((Call.checkIdleTimeouts 40_000_000).next twice).state = .active ∧
      twice.effectiveIdleTimeout = some 30 ∧
      30 * nsPerMs < 3 * twice.applicationPacketSpace.recoveryState.ptoNs.1 := by
  decide +kernel

end Quicz
