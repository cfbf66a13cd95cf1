import Quicz.Upkeep.PeerIds

/-! Stateless resets. A reset is known by the token at its end; the tokens that are looked at are
those of the connection IDs the peer has supplied in NEW_CONNECTION_ID frames and not asked to
retire. -/
namespace Quicz

open Chunks Proc List Connection

variable {c : Connection}

variable {p q : PeerIds}

structure PeerIds.Accounted (p : PeerIds) : Prop where
  kept : ∀ frame ∈ p.supplied, p.largestRetirePriorTo ≤ frame.sequenceNumber → ∃ id ∈ p.ids, id.SuppliedBy frame
  retired : ∀ id ∈ p.ids, id.retired = true → id.sequenceNumber < p.largestRetirePriorTo
  supplied : ∀ id ∈ p.ids, ∃ frame ∈ p.supplied, id.SuppliedBy frame

variable {frame : NewConnectionIdFrame}

theorem ActiveConnectionId.SuppliedBy.retireBefore {id : ActiveConnectionId}
    (same : id.SuppliedBy frame) (n : Nat) : (id.retireBefore n).SuppliedBy frame := by
  obtain ⟨number, connectionId, token⟩ := retireBefore_keeps n id
  exact ⟨number.trans same.number, connectionId.trans same.connectionId, token.trans same.token⟩

instance : Std.Symm ActiveConnectionId.Apart :=
  ⟨fun _ _ apart => ⟨apart.1.symm, apart.2.1.symm, apart.2.2.symm⟩⟩

namespace PeerIds.Accounted

theorem retires (h : p.Accounted) (retirePriorTo : Nat) : PeerIds.Accounted { p with
      ids := p.ids.map (·.retireBefore retirePriorTo)
      largestRetirePriorTo := max p.largestRetirePriorTo retirePriorTo } := by
  refine ⟨fun frame mem current => ?_, fun id mem gone => ?_, fun id mem => ?_⟩
  · obtain ⟨id, stored, same⟩ := h.kept frame mem ((Nat.le_max_left _ _).trans current)
    exact ⟨_, mem_map_of_mem stored, same.retireBefore retirePriorTo⟩
  · obtain ⟨before, stored, rfl⟩ := mem_map.mp mem
    rw [(retireBefore_keeps retirePriorTo before).1]
    unfold ActiveConnectionId.retireBefore at gone
    split at gone
    · exact lt_max_of_lt_right ‹_›
    · exact lt_max_of_lt_left (h.retired before stored gone)
  · obtain ⟨before, stored, rfl⟩ := mem_map.mp mem
    obtain ⟨frame, mem, same⟩ := h.supplied before stored
    exact ⟨frame, mem, same.retireBefore retirePriorTo⟩

theorem accepts (h : p.Accounted) {ids : List ActiveConnectionId} (more : ∀ id ∈ p.ids, id ∈ ids)
    (stored : p.largestRetirePriorTo ≤ frame.sequenceNumber → ∃ id ∈ ids, id.SuppliedBy frame)
    (new : ∀ id ∈ ids, id ∈ p.ids ∨ id.retired = false ∧ id.SuppliedBy frame) :
    PeerIds.Accounted { p with ids, supplied := p.supplied ++ [frame] } := by
  refine ⟨fun other mem current => ?_, fun id mem gone => ?_, fun id mem => ?_⟩
  · rcases mem_append.mp mem with earlier | last
    · obtain ⟨id, mem, same⟩ := h.kept other earlier current
      exact ⟨id, more id mem, same⟩
    · obtain rfl := mem_singleton.mp last
      exact stored current
  · rcases new id mem with before | ⟨live, -⟩
    · exact h.retired id before gone
    · rw [live] at gone
      cases gone
  · rcases new id mem with before | ⟨-, same⟩
    · obtain ⟨other, mem, same⟩ := h.supplied id before
      exact ⟨other, mem_append_left _ mem, same⟩
    · exact ⟨frame, mem_append_right _ mem_cons_self, same⟩

theorem step (h : p.Accounted) (step : PeerIdStep p q) : q.Accounted := by
  cases step with
  | retires retirePriorTo => exact h.retires retirePriorTo
  | @adds id frame admits same =>
    refine h.accepts (fun _ => mem_append_left _) (fun _ => ⟨id, by simp, same⟩) fun other mem => ?_
    rcases mem_append.mp mem with before | new
    · exact Or.inl before
    · rw [mem_singleton.mp new]
      exact Or.inr ⟨admits.live, same⟩
  | @repeats id frame known same =>
    exact h.accepts (fun _ stored => stored) (fun _ => ⟨id, known, same⟩) fun _ => Or.inl
  | outdated late =>
    exact h.accepts (fun _ stored => stored) (fun current => absurd late (Nat.not_lt.mpr current)) fun _ => Or.inl

theorem steps (h : p.Accounted) (steps : PeerIdSteps p q) : q.Accounted := by
  induction steps with
  | refl => exact h
  | tail _ step ih => exact ih.step step

end PeerIds.Accounted

theorem Reachable.peerIds (reached : Reachable c) : c.peerIds.Consistent ∧ c.peerIds.Accounted := by
  obtain ⟨side, config, -, tended⟩ := reached.tended
  have consistent : (fresh side config).peerIds.Consistent := .fresh _
  have accounted : (fresh side config).peerIds.Accounted := ⟨nofun, nofun, nofun⟩
  exact ⟨consistent.steps tended.peerIds, accounted.steps tended.peerIds⟩

variable {now : Int} {datagram : Bytes}

def Connection.idsInUse (c : Connection) : List NewConnectionIdFrame :=
  c.suppliedIds.filter fun frame => decide (c.largestPeerRetirePriorTo ≤ frame.sequenceNumber)

theorem matchesStatelessReset_iff {token : Bytes} :
    matchesStatelessReset datagram token = true ↔ statelessResetTokenCandidate datagram = some token := by
  unfold matchesStatelessReset
  cases statelessResetTokenCandidate datagram <;> simp

theorem detectStatelessReset_of_token (consistent : c.peerIds.Consistent) (accounted : c.peerIds.Accounted)
    (used : frame ∈ c.idsInUse) (ends : statelessResetTokenCandidate datagram = some frame.statelessResetToken) :
    c.detectStatelessReset datagram = some frame.sequenceNumber := by
  obtain ⟨supplied, current⟩ := mem_filter.mp used
  obtain ⟨id, stored, same⟩ := accounted.kept frame supplied (of_decide_eq_true current)
  have live : id.retired = false := by
    rw [← Bool.not_eq_true]
    intro gone
    have below : id.sequenceNumber < c.largestPeerRetirePriorTo := accounted.retired id stored gone
    exact absurd below (Nat.not_lt.mpr (same.number ▸ of_decide_eq_true current))
  have matched : matchesStatelessReset datagram id.statelessResetToken = true :=
    matchesStatelessReset_iff.mpr (same.token ▸ ends)
  unfold detectStatelessReset
  cases found : c.activeConnectionIds.find? fun id =>
      !id.retired && matchesStatelessReset datagram id.statelessResetToken with
  | none =>
    have none := find?_eq_none.mp found id stored
    simp [live, matched] at none
  | some first =>
    -- no two stored identifiers share a token
    have first_matches := find?_some found
    simp only [Bool.and_eq_true, matchesStatelessReset_iff, ends, Option.some.injEq] at first_matches
    have one : first = id := by
      by_contra other
      have apart := consistent.apart.forall (mem_of_find?_eq_some found) stored other
      exact apart.2.2 (first_matches.2.symm.trans same.token.symm)
    rw [Option.map_some, one, same.number]

theorem detectStatelessReset_of_no_token (consistent : c.peerIds.Consistent) (accounted : c.peerIds.Accounted)
    (other : ∀ frame ∈ c.idsInUse, statelessResetTokenCandidate datagram ≠ some frame.statelessResetToken) :
    c.detectStatelessReset datagram = none := by
  have unmatched : ∀ id ∈ c.activeConnectionIds,
      ¬ (!id.retired && matchesStatelessReset datagram id.statelessResetToken) = true := by
    intro id stored matched
    simp only [Bool.and_eq_true, Bool.not_eq_true', matchesStatelessReset_iff] at matched
    obtain ⟨frame, supplied, same⟩ := accounted.supplied id stored
    have current : c.largestPeerRetirePriorTo ≤ frame.sequenceNumber :=
      same.number ▸ consistent.current id stored matched.1
    exact other frame (mem_filter.mpr ⟨supplied, decide_eq_true current⟩) (same.token ▸ matched.2)
  unfold detectStatelessReset
  rw [find?_eq_none.mpr unmatched, Option.map_none]

def Connection.expireTimers (c : Connection) (now : Int) : Connection := (c.expireCloseState now).expireIdleState now

theorem detectStatelessReset_expireTimers (c : Connection) (now : Int) (datagram : Bytes) :
    (c.expireTimers now).detectStatelessReset datagram = c.detectStatelessReset datagram := by
  have same := fun c : Connection => c.expired_keeps now (f := activeConnectionIds) fun _ => rfl
  unfold detectStatelessReset expireTimers
  rw [(same _).1, (same c).2]

theorem processStatelessResetDatagram_run (c : Connection) (now : Int) (datagram : Bytes) :
    processStatelessResetDatagram now datagram c =
      if (c.expireTimers now).state = .closed then .ok none (c.expireTimers now)
      else
        match c.detectStatelessReset datagram with
        | none => .ok none (c.expireTimers now)
        | some number =>
          .ok (some number) ({ c.expireTimers now with pendingClose := none }.enterDrainingState now) := by
  rw [← detectStatelessReset_expireTimers c now datagram]
  generalize expired : c.expireTimers now = t
  have read : processStatelessResetDatagram now datagram c = (if t.state = .closed then pure none
        else
          match t.detectStatelessReset datagram with
          | none => pure none
          | some number => do
            set ({ t with pendingClose := none }.enterDrainingState now)
            pure (some number) : ConnM (Option Nat)) t := by
    rw [← expired]
    rfl
  rw [read]
  split
  · rfl
  · cases t.detectStatelessReset datagram <;> rfl

/-- In every reachable state, a datagram of the least length of a stateless reset or more that ends
in the token of a connection ID in use makes a connection that the timers do not end drain, and the
sequence number of that connection ID is returned. A datagram that ends in no such token, which may be
one of a retired connection ID, one this side issued, or one the peer sent in its transport parameters,
changes nothing but what the timers do. -/
theorem stateless_resets_recognised (reached : Reachable c) (now : Int) (datagram : Bytes) :
    (∀ frame ∈ c.idsInUse, minStatelessResetDatagramLen ≤ datagram.length →
      datagram.drop (datagram.length - statelessResetTokenLen) = frame.statelessResetToken →
      (c.expireTimers now).state ≠ .closed →
        ∃ t, processStatelessResetDatagram now datagram c = .ok (some frame.sequenceNumber) t ∧
          t.state = .draining) ∧ ((∀ frame ∈ c.idsInUse, minStatelessResetDatagramLen ≤ datagram.length →
        datagram.drop (datagram.length - statelessResetTokenLen) ≠ frame.statelessResetToken) →
      processStatelessResetDatagram now datagram c = .ok none (c.expireTimers now)) := by
  obtain ⟨consistent, accounted⟩ := reached.peerIds
  refine ⟨fun frame used long ends going => ?_, fun other => ?_⟩
  · have candidate : statelessResetTokenCandidate datagram = some frame.statelessResetToken := by
      rw [statelessResetTokenCandidate, if_neg (Nat.not_lt.mpr long), ends]
    rw [processStatelessResetDatagram_run, if_neg going,
      detectStatelessReset_of_token consistent accounted used candidate]
    exact ⟨_, rfl, rfl⟩
  · have unmatched : ∀ frame ∈ c.idsInUse,
        statelessResetTokenCandidate datagram ≠ some frame.statelessResetToken := by
      intro frame used candidate
      unfold statelessResetTokenCandidate at candidate
      split at candidate
      · cases candidate
      · rename_i long
        exact other frame used (Nat.not_lt.mp long) (Option.some.inj candidate)
    rw [processStatelessResetDatagram_run, detectStatelessReset_of_no_token consistent accounted unmatched]
    simp only [ite_self]

def resetToken : Bytes := [1, 2, 3, 4, 5, 6, 7, 8, 9, 10, 11, 12, 13, 14, 15, 16]

def resetDatagram : Bytes := [0x40, 0, 0, 0, 0] ++ resetToken

def secondIdSupplied : List Call :=
  [.processDatagramForPacketType .oneRtt 0
    { wire := [⟨0x18, .newConnectionId ⟨1, 0, [0xd1], resetToken⟩⟩], len := 25 } false]

theorem stateless_resets_recognised_second :
    (∃ t, processStatelessResetDatagram 1 resetDatagram (run (.fresh .client {}) secondIdSupplied) = .ok (some 1) t ∧
      t.state = .draining) ∧
    processStatelessResetDatagram 1 (resetDatagram ++ [0]) (run (.fresh .client {}) secondIdSupplied) =
      .ok none ((run (.fresh .client {}) secondIdSupplied).expireTimers 1) := by
  have reached : Reachable (run (.fresh .client {}) secondIdSupplied) :=
    ⟨.client, {}, _, secondIdSupplied, rfl, throughout_true _ _, rfl⟩
  have used : (run (.fresh .client {}) secondIdSupplied).idsInUse = [⟨1, 0, [0xd1], resetToken⟩] := by rfl
  refine ⟨(stateless_resets_recognised reached 1 resetDatagram).1 ⟨1, 0, [0xd1], resetToken⟩
    (used ▸ mem_cons_self) (by decide) (by decide) (by decide +kernel), ?_⟩
  refine (stateless_resets_recognised reached 1 (resetDatagram ++ [0])).2 fun frame mem _ => ?_
  rw [used, mem_singleton] at mem
  subst mem
  decide

/-- The token of the transport parameters is kept, and a datagram that ends in it is not known as a
reset. -/
theorem handshake_token_not_recognised :
    let c := run (.fresh .client {}) [.applyPeerTransportParameters { statelessResetToken := some resetToken }]
    c.state = .active ∧ c.peerStatelessResetToken = some resetToken ∧
      minStatelessResetDatagramLen ≤ resetDatagram.length ∧
      resetDatagram.drop (resetDatagram.length - statelessResetTokenLen) = resetToken ∧
      ((Call.processStatelessResetDatagram 0 resetDatagram).next c).state = .active := by
  decide +kernel

end Quicz
