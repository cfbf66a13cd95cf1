import Quicz.Run

/-! The connection IDs of the peer. What is stored agrees with itself after any frames, accepted or
not; a frame that is refused late has already retired what it asked to retire. -/
namespace Quicz

open Chunks Proc List Connection

def ActiveConnectionId.Apart (id other : ActiveConnectionId) : Prop :=
  id.sequenceNumber ≠ other.sequenceNumber ∧ id.connectionId ≠ other.connectionId ∧
    id.statelessResetToken ≠ other.statelessResetToken

structure PeerIds.Consistent (p : PeerIds) : Prop where
  apart : p.ids.Pairwise ActiveConnectionId.Apart
  current : ∀ id ∈ p.ids, id.retired = false → p.largestRetirePriorTo ≤ id.sequenceNumber
  few : p.activeCount ≤ p.limit

theorem retireBefore_keeps (n : Nat) (id : ActiveConnectionId) :
    (id.retireBefore n).sequenceNumber = id.sequenceNumber ∧ (id.retireBefore n).connectionId = id.connectionId ∧
      (id.retireBefore n).statelessResetToken = id.statelessResetToken := by
  unfold ActiveConnectionId.retireBefore
  split <;> exact ⟨rfl, rfl, rfl⟩

namespace PeerIds.Consistent
variable {p q : PeerIds}

theorem fresh (limit : Nat) : PeerIds.Consistent ⟨limit, [], 0, []⟩ := ⟨.nil, nofun, Nat.zero_le _⟩

theorem retires (h : p.Consistent) (retirePriorTo : Nat) : PeerIds.Consistent { p with
      ids := p.ids.map (·.retireBefore retirePriorTo)
      largestRetirePriorTo := max p.largestRetirePriorTo retirePriorTo } := by
  have live : ∀ id : ActiveConnectionId, (id.retireBefore retirePriorTo).retired = false →
      id.retired = false ∧ retirePriorTo ≤ id.sequenceNumber := by
    intro id inUse
    unfold ActiveConnectionId.retireBefore at inUse
    split at inUse
    · cases inUse
    · exact ⟨inUse, Nat.le_of_not_lt ‹_›⟩
  refine ⟨?_, ?_, ?_⟩
  · refine pairwise_map.mpr (h.apart.imp fun {id other} apart => ?_)
    obtain ⟨number, connectionId, token⟩ := retireBefore_keeps retirePriorTo id
    obtain ⟨number', connectionId', token'⟩ := retireBefore_keeps retirePriorTo other
    simpa only [ActiveConnectionId.Apart, number, connectionId, token, number', connectionId', token'] using apart
  · intro id mem inUse
    obtain ⟨old, stored, rfl⟩ := mem_map.mp mem
    obtain ⟨was, late⟩ := live old inUse
    rw [(retireBefore_keeps retirePriorTo old).1]
    exact max_le (h.current old stored was) late
  · refine le_trans ?_ h.few
    simp only [PeerIds.activeCount, filter_map, length_map]
    refine List.Sublist.length_le (monotone_filter_right _ fun id inUse => ?_)
    simpa using (live id (by simpa using inUse)).1

theorem supplied (h : p.Consistent) (frames : List NewConnectionIdFrame) :
    PeerIds.Consistent { p with supplied := frames } := ⟨h.apart, h.current, h.few⟩

theorem adds (h : p.Consistent) {id : ActiveConnectionId} (admits : p.Admits id) :
    PeerIds.Consistent { p with ids := p.ids ++ [id] } := by
  refine ⟨pairwise_append.mpr ⟨h.apart, pairwise_singleton _ _, ?_⟩, ?_, ?_⟩
  · intro other stored new mem
    rw [mem_singleton.mp mem]
    exact ⟨admits.number other stored, admits.connectionId other stored, admits.token other stored⟩
  · intro other mem inUse
    rcases mem_append.mp mem with stored | new
    · exact h.current other stored inUse
    · rw [mem_singleton.mp new]
      exact admits.current
  · have room := admits.room
    simp only [PeerIds.activeCount] at room ⊢
    rw [filter_append, length_append]
    simp only [filter_cons, filter_nil, admits.live, Bool.not_false, if_true, length_singleton]
    omega

theorem step (h : p.Consistent) (step : PeerIdStep p q) : q.Consistent := by
  cases step with
  | retires retirePriorTo => exact h.retires retirePriorTo
  | adds admits => exact (h.adds admits).supplied _
  | repeats | outdated => exact h.supplied _

theorem steps (h : p.Consistent) (steps : PeerIdSteps p q) : q.Consistent := by
  induction steps with
  | refl => exact h
  | tail _ step ih => exact ih.step step

end PeerIds.Consistent

variable {c : Connection} {frame : NewConnectionIdFrame}

def afterNewConnectionIds (c : Connection) (frames : List NewConnectionIdFrame) : Connection :=
  frames.foldl (fun c frame => after (receiveNewConnectionIdFrame frame) c) c

theorem afterNewConnectionIds_peerIds (frames : List NewConnectionIdFrame) (c : Connection) :
    PeerIdSteps c.peerIds (afterNewConnectionIds c frames).peerIds := by
  induction frames generalizing c with
  | nil => exact .refl
  | cons frame rest ih =>
    have received : Serves Eq .any .any c _ := (receiveNewConnectionIdFrame_serves frame).after c
    exact received.tends.peerIds.trans (ih _)

/-- A frame that is refused changes none of what is kept about the identifiers of the peer. -/
def RejectionKeeps (c : Connection) (frame : NewConnectionIdFrame) : Prop :=
  ∀ e t, receiveNewConnectionIdFrame frame c = .error e t → t.activeConnectionIds = c.activeConnectionIds ∧
      t.pendingRetireConnectionIds = c.pendingRetireConnectionIds ∧
      t.largestPeerRetirePriorTo = c.largestPeerRetirePriorTo

/-- The frame is refused before it retires anything, has nothing to retire, or passes the checks of
the close-error classifier. -/
def RetiresSafely (c : Connection) (frame : NewConnectionIdFrame) : Prop :=
  c.sendsZeroLengthDestinationConnectionId = true ∨ frame.sequenceNumber < frame.retirePriorTo ∨
    frame.retirePriorTo ≤ c.largestPeerRetirePriorTo ∨
    c.classifyNewConnectionIdFrameProcessingCloseError frame 0x18 = none

def Connection.retiredBy (c : Connection) (frame : NewConnectionIdFrame) : Connection :=
  { c with largestPeerRetirePriorTo := max c.largestPeerRetirePriorTo frame.retirePriorTo }
    |>.retireConnectionIdsBefore frame.retirePriorTo

variable {Q : Unit → Connection → Prop}

theorem wp_receiveNewConnectionIdFrame {E : Error → Connection → Prop} :
    wp (receiveNewConnectionIdFrame frame) Q E c ↔
      (c.sendsZeroLengthDestinationConnectionId = true → E .invalidPacket c) ∧
      (¬ c.sendsZeroLengthDestinationConnectionId = true →
        (frame.retirePriorTo > frame.sequenceNumber → E .invalidPacket c) ∧
        (¬ frame.retirePriorTo > frame.sequenceNumber →
          wp (admitConnectionId frame) (fun u t => Q u { t with suppliedIds := t.suppliedIds ++ [frame] }) E
            (c.retiredBy frame))) := by
  simp only [receiveNewConnectionIdFrame, wp_bind, wp_get, wp_failIf, wp_modify]
  exact Iff.rfl

theorem queueRetireConnectionIds_keeps (numbers : List Nat) (t : Connection) :
    (numbers.foldl queueRetireConnectionId t).activeConnectionIds = t.activeConnectionIds ∧
      (numbers.foldl queueRetireConnectionId t).largestPeerRetirePriorTo = t.largestPeerRetirePriorTo ∧
      (numbers.foldl queueRetireConnectionId t).config = t.config := by
  induction numbers generalizing t with
  | nil => exact ⟨rfl, rfl, rfl⟩
  | cons number rest ih =>
    have first : (t.queueRetireConnectionId number).activeConnectionIds = t.activeConnectionIds ∧
        (t.queueRetireConnectionId number).largestPeerRetirePriorTo = t.largestPeerRetirePriorTo ∧
        (t.queueRetireConnectionId number).config = t.config := by
      unfold queueRetireConnectionId
      split <;> exact ⟨rfl, rfl, rfl⟩
    obtain ⟨ids, largest, config⟩ := ih (t.queueRetireConnectionId number)
    exact ⟨ids.trans first.1, largest.trans first.2.1, config.trans first.2.2⟩

theorem retiredBy_ids : (c.retiredBy frame).activeConnectionIds =
    c.activeConnectionIds.map (·.retireBefore frame.retirePriorTo) := (queueRetireConnectionIds_keeps _ _).1

theorem retiredBy_largest : (c.retiredBy frame).largestPeerRetirePriorTo =
    max c.largestPeerRetirePriorTo frame.retirePriorTo := (queueRetireConnectionIds_keeps _ _).2.1

theorem retiredBy_config : (c.retiredBy frame).config = c.config := (queueRetireConnectionIds_keeps _ _).2.2

theorem retiredBy_eq (consistent : c.peerIds.Consistent)
    (settled : frame.retirePriorTo ≤ c.largestPeerRetirePriorTo) : c.retiredBy frame = c := by
  have already : ∀ id ∈ c.activeConnectionIds, id.sequenceNumber < frame.retirePriorTo → id.retired = true := by
    intro id stored early
    by_contra inUse
    have := consistent.current id stored (by simpa using inUse)
    exact absurd (early.trans_le (settled.trans this)) (lt_irrefl _)
  have none : (c.activeConnectionIds.filter fun id =>
      decide (id.sequenceNumber < frame.retirePriorTo) && !id.retired) = [] := by
    refine filter_eq_nil_iff.mpr fun id stored => ?_
    simp only [Bool.and_eq_true, decide_eq_true_eq, Bool.not_eq_true', not_and, Bool.not_eq_false]
    exact already id stored
  have same : (c.activeConnectionIds.map fun id =>
      if id.sequenceNumber < frame.retirePriorTo then { id with retired := true } else id) =
      c.activeConnectionIds := by
    refine (map_congr_left fun id stored => ?_).trans (map_id _)
    split
    · have retired := already id stored ‹_›
      cases id
      cases retired
      rfl
    · rfl
  simp only [retiredBy, retireConnectionIdsBefore, none, same, max_eq_left settled, map_nil, foldl_nil]

theorem activeConnectionIdCount_retiredBy : (c.retiredBy frame).activeConnectionIdCount =
    c.activeConnectionIdCountAfterRetirePriorTo frame.retirePriorTo := by
  rw [activeConnectionIdCount, retiredBy_ids, filter_map, length_map]
  refine congrArg length (congrArg (filter · c.activeConnectionIds) (funext fun id => ?_))
  simp only [Function.comp_apply, ActiveConnectionId.retireBefore]
  split
  · have early : ¬ id.sequenceNumber ≥ frame.retirePriorTo := Nat.not_le.mpr ‹_›
    simp [early]
  · have late : id.sequenceNumber ≥ frame.retirePriorTo := Nat.le_of_not_lt ‹_›
    simp [late]

variable {p : ActiveConnectionId → Bool}

theorem any_retiredBy (keeps : ∀ n (id : ActiveConnectionId), p (id.retireBefore n) = p id) :
    (c.retiredBy frame).activeConnectionIds.any p = c.activeConnectionIds.any p := by
  rw [retiredBy_ids, any_map]
  exact congrArg (any c.activeConnectionIds) (funext fun id => keeps _ id)

theorem find_retiredBy (keeps : ∀ n (id : ActiveConnectionId), p (id.retireBefore n) = p id) :
    (c.retiredBy frame).activeConnectionIds.find? p =
      (c.activeConnectionIds.find? p).map (·.retireBefore frame.retirePriorTo) := by
  rw [retiredBy_ids, find?_map]
  exact congrArg (Option.map _) (congrArg (find? · c.activeConnectionIds) (funext fun id => keeps _ id))

/-- The handler of a frame that has something to retire refuses what the classifier refuses. -/
theorem receiveNewConnectionIdFrame_retires (open_ : c.sendsZeroLengthDestinationConnectionId = false)
    (ordered : frame.retirePriorTo ≤ frame.sequenceNumber)
    (more : c.largestPeerRetirePriorTo < frame.retirePriorTo) : wp (receiveNewConnectionIdFrame frame)
      (fun _ _ => c.classifyNewConnectionIdFrameProcessingCloseError frame 0x18 = none)
      (fun _ t => c.classifyNewConnectionIdFrameProcessingCloseError frame 0x18 ≠ none ∧
        t = c.retiredBy frame) c := by
  have late : ¬ frame.sequenceNumber < (c.retiredBy frame).largestPeerRetirePriorTo := by
    rw [retiredBy_largest]
    omega
  have numbers : (c.retiredBy frame).activeConnectionIds.find?
      (fun id => decide (id.sequenceNumber = frame.sequenceNumber)) =
      (c.activeConnectionIds.find? fun id => decide (id.sequenceNumber = frame.sequenceNumber)).map
        (·.retireBefore frame.retirePriorTo) :=
    find_retiredBy fun n id => by rw [(retireBefore_keeps n id).1]
  have ids : (c.retiredBy frame).activeConnectionIds.any (fun id => decide (id.connectionId = frame.connectionId)) =
      c.activeConnectionIds.any fun id => decide (id.connectionId = frame.connectionId) :=
    any_retiredBy fun n id => by rw [(retireBefore_keeps n id).2.1]
  have tokens : (c.retiredBy frame).activeConnectionIds.any
      (fun id => decide (id.statelessResetToken = frame.statelessResetToken)) =
      c.activeConnectionIds.any fun id => decide (id.statelessResetToken = frame.statelessResetToken) :=
    any_retiredBy fun n id => by rw [(retireBefore_keeps n id).2.2]
  rw [wp_receiveNewConnectionIdFrame]
  refine ⟨fun zero => ?_, fun _ => ⟨fun unordered => absurd unordered (Nat.not_lt.mpr ordered), fun _ => ?_⟩⟩
  · rw [open_] at zero
    cases zero
  rw [admitConnectionId, wp_bind, wp_get, numbers]
  simp only [classifyNewConnectionIdFrameProcessingCloseError, open_, Bool.false_eq_true, if_false]
  cases c.activeConnectionIds.find? fun id => decide (id.sequenceNumber = frame.sequenceNumber) with
  | some existing =>
    obtain ⟨-, id, token⟩ := retireBefore_keeps frame.retirePriorTo existing
    simp only [Option.map_some, wp_bind, wp_failIf, id, token]
    refine ⟨fun other => ?_, fun same => ⟨fun other => ?_, fun sameToken => ?_⟩⟩
    · exact ⟨by simp [other], trivial⟩
    · exact ⟨by simp [same, other], trivial⟩
    · simp [same, sameToken]
  | none =>
    have same : (c.retiredBy frame).config.activeConnectionIdLimit = c.config.activeConnectionIdLimit := by
      rw [retiredBy_config]
    simp only [Option.map_none, if_neg late, wp_bind, wp_failIf, wp_set, ids, tokens,
      activeConnectionIdCount_retiredBy, same]
    refine ⟨fun used => ?_, fun unused => ⟨fun used => ?_, fun fresh => ⟨fun full => ?_, fun room => ?_⟩⟩⟩
    · exact ⟨by simp [used], trivial⟩
    · exact ⟨by simp [unused, used], trivial⟩
    · exact ⟨by simp [unused, fresh, full], trivial⟩
    · simp [unused, fresh, room]

theorem receiveNewConnectionIdFrame_refused : wp (receiveNewConnectionIdFrame frame) (fun _ _ => True)
      (fun _ t => t = c.retiredBy frame ∨ t = c) c := by
  rw [wp_receiveNewConnectionIdFrame]
  refine ⟨fun _ => Or.inr rfl, fun _ => ⟨fun _ => Or.inr rfl, fun _ => ?_⟩⟩
  rw [admitConnectionId, wp_bind, wp_get]
  cases (c.retiredBy frame).activeConnectionIds.find? _ with
  | some existing =>
    simp only [wp_bind, wp_failIf]
    exact ⟨fun _ => Or.inl trivial, fun _ => ⟨fun _ => Or.inl trivial, fun _ => trivial⟩⟩
  | none =>
    simp only [wp_ite, wp_bind, wp_failIf, wp_set]
    exact ⟨fun _ => trivial, fun _ => ⟨fun _ => Or.inl trivial, fun _ => ⟨fun _ => Or.inl trivial, fun _ =>
      ⟨fun _ => Or.inl trivial, fun _ => trivial⟩⟩⟩⟩

theorem receiveNewConnectionIdFrame_early
    (early : c.sendsZeroLengthDestinationConnectionId = true ∨ frame.sequenceNumber < frame.retirePriorTo) :
    wp (receiveNewConnectionIdFrame frame) (fun _ _ => False) (fun _ t => t = c) c := by
  rw [wp_receiveNewConnectionIdFrame]
  refine ⟨fun _ => rfl, fun open_ => ⟨fun _ => rfl, fun ordered => ?_⟩⟩
  exact absurd early (not_or.mpr ⟨open_, ordered⟩)

theorem RejectionKeeps.of_wp (h : wp (receiveNewConnectionIdFrame frame) Q (fun _ t => t = c) c) :
    RejectionKeeps c frame := by
  intro e t refused
  rw [wp, refused] at h
  rw [h]
  exact ⟨rfl, rfl, rfl⟩

theorem rejectionKeeps_iff (consistent : c.peerIds.Consistent) : RejectionKeeps c frame ↔ RetiresSafely c frame := by
  constructor
  · intro keeps
    by_contra unsafe_
    simp only [RetiresSafely, not_or, Bool.not_eq_true, Nat.not_lt, Nat.not_le] at unsafe_
    obtain ⟨open_, ordered, more, refuses⟩ := unsafe_
    have refused := receiveNewConnectionIdFrame_retires open_ ordered more
    obtain ⟨e, t, failed, -, rfl⟩ := wp_fails (wp_mono refused (fun _ _ accepts => refuses accepts))
    have kept := (keeps e _ failed).2.2
    rw [retiredBy_largest] at kept
    omega
  · intro safe
    by_cases early : c.sendsZeroLengthDestinationConnectionId = true ∨ frame.sequenceNumber < frame.retirePriorTo
    · exact .of_wp (receiveNewConnectionIdFrame_early early)
    · by_cases settled : frame.retirePriorTo ≤ c.largestPeerRetirePriorTo
      · refine .of_wp (wp_mono receiveNewConnectionIdFrame_refused (fun _ _ h => h) fun _ t h => ?_)
        rwa [retiredBy_eq consistent settled, or_self] at h
      · rw [not_or, Bool.not_eq_true, Nat.not_lt] at early
        have accepts : c.classifyNewConnectionIdFrameProcessingCloseError frame 0x18 = none := by
          rcases safe with zero | unordered | settled' | accepts
          · exact absurd zero (by simp [early.1])
          · exact absurd unordered (Nat.not_lt.mpr early.2)
          · exact absurd settled' settled
          · exact accepts
        have handled := receiveNewConnectionIdFrame_retires early.1 early.2 (Nat.lt_of_not_le settled)
        exact .of_wp (wp_mono handled (fun _ _ h => h) fun _ _ h => absurd accepts h.1)

theorem peer_connection_ids_kept (reached : Reachable c) (frames : List NewConnectionIdFrame)
    (frame : NewConnectionIdFrame) :
    let t := afterNewConnectionIds c frames
    (t.peerIds.Consistent ∧ RejectionKeeps t frame) ↔ RetiresSafely t frame := by
  intro t
  obtain ⟨side, config, -, tended⟩ := reached.tended
  have new : (fresh side config).peerIds.Consistent := .fresh _
  have consistent : t.peerIds.Consistent :=
    new.steps (tended.peerIds.trans (afterNewConnectionIds_peerIds frames c))
  rw [rejectionKeeps_iff consistent]
  exact and_iff_right consistent

def firstId : NewConnectionIdFrame := ⟨0, 0, [0xd0], replicate 16 1⟩

/-- The peer asks to retire it, in a frame that uses its value again. -/
def reusedId : NewConnectionIdFrame := ⟨1, 1, [0xd0], replicate 16 2⟩

def oneId : Connection :=
  run (.fresh .client {})
    [.processDatagramForPacketType .oneRtt 0 { wire := [⟨0x18, .newConnectionId firstId⟩], len := 21 } false]

theorem refused_frame_retires :
    Reachable oneId ∧ ∃ t, receiveNewConnectionIdFrame reusedId oneId = .error .invalidPacket t ∧
      oneId.activeConnectionIds.map (·.retired) = [false] ∧ t.activeConnectionIds.map (·.retired) = [true] ∧
      oneId.pendingRetireConnectionIds = [] ∧ t.pendingRetireConnectionIds = [0] ∧
      oneId.largestPeerRetirePriorTo = 0 ∧ t.largestPeerRetirePriorTo = 1 :=
  ⟨⟨.client, {}, _, _, rfl, throughout_true _ _, rfl⟩, _, rfl, rfl, rfl, rfl, rfl, rfl, rfl⟩

theorem peer_connection_ids_kept_replaced :
    Reachable oneId ∧ oneId.peerIds.Consistent ∧ RejectionKeeps oneId ⟨1, 1, [0xd1], List.replicate 16 2⟩ := by
  have reached : Reachable oneId := ⟨.client, {}, _, _, rfl, throughout_true _ _, rfl⟩
  exact ⟨reached, (peer_connection_ids_kept reached [] _).mpr (Or.inr (Or.inr (Or.inr rfl)))⟩

end Quicz
