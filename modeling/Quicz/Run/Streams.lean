import Quicz.Recv.Delivery
import Quicz.Recv.Refunds
import Quicz.Run

/-! What holds of the streams in every state a connection can be in: the sender keeps all it was
given to deliver, and the receiver's books about bytes, final sizes and limits are right. -/
namespace Quicz

open Chunks Proc Resend List Connection Option

variable {c : Connection}

variable (side : ConnectionSide) (config : Config)

theorem fresh_clean : (fresh side config).sendView.Clean := by
  refine ⟨fun packet mem => by cases mem <;> contradiction, ?_, ?_, fun id mem => absurd mem not_mem_nil⟩
  · cases side with
    | client => exact (by decide : isLocalBidirectional .client 0 = true)
    | server => exact (by decide : isLocalBidirectional .server 1 = true)
  · cases side with
    | client => exact (by decide : isLocalUnidirectional .client 2 = true)
    | server => exact (by decide : isLocalUnidirectional .server 3 = true)

theorem fresh_sendInv : SendInv (fresh side config).sendPart :=
  ⟨nodup_nil, fun _ mem => absurd mem not_mem_nil, fun _ mem => absurd mem not_mem_nil,
    fun _ mem => absurd mem not_mem_nil, fun _ mem => absurd mem not_mem_nil⟩

theorem fresh_recvInv : RecvInv (fresh side config).recvPart :=
  ⟨nodup_nil, fun _ mem => absurd mem not_mem_nil, rfl, Nat.zero_le _⟩

theorem fresh_bounded : LimitsBounded (fresh side config).recvPart := by
  have start : ∀ (initial mark : Nat) (window : Option Nat),
      initial ≤ Credit.ceiling initial window mark + 0 := fun initial mark window => by
    cases window <;> simp [Credit.ceiling]
  exact ⟨start _ _ _, fun _ mem => absurd mem not_mem_nil, start _ _ _, start _ _ _, rfl⟩

theorem fresh_conserving : Conserving (fresh side config).recvPart :=
  ⟨fresh_recvInv side config, Nat.le_refl _, fun _ _ mem => absurd mem not_mem_nil⟩

theorem Reachable.sendInv (reached : Reachable c) : SendInv c.sendPart := by
  obtain ⟨side, config, -, evolved⟩ := reached.evolved
  exact (evolved.send (fresh_clean side config)).2.keeps (fresh_sendInv side config)

theorem oldestOffset_le_start (streamId : Nat) {n : Nat} (frames : List PendingStreamFrame) :
    ∃ m, oldestOffset streamId (some n) frames = some m ∧ m ≤ n := by
  induction frames generalizing n with
  | nil => exact ⟨n, rfl, le_rfl⟩
  | cons frame rest ih =>
    simp only [oldestOffset, foldl_cons]
    split
    · exact ih
    · obtain ⟨m, found, below⟩ := ih (n := min n frame.offset)
      exact ⟨m, found, below.trans (Nat.min_le_left _ _)⟩

theorem oldestOffset_le {streamId : Nat} {frames : List PendingStreamFrame} (oldest : Option Nat)
    (mem : frame ∈ frames) (same : frame.streamId = streamId) :
    ∃ m, oldestOffset streamId oldest frames = some m ∧ m ≤ frame.offset := by
  induction frames generalizing oldest with
  | nil => exact absurd mem not_mem_nil
  | cons head rest ih =>
    rcases mem_cons.mp mem with rfl | later
    · simp only [oldestOffset, foldl_cons, same, ne_eq, not_true_eq_false, if_false]
      obtain ⟨m, found, below⟩ := oldestOffset_le_start streamId
        (n := min (oldest.getD frame.offset) frame.offset) rest
      exact ⟨m, found, below.trans (Nat.min_le_right _ _)⟩
    · simp only [oldestOffset, foldl_cons]
      exact ih _ later

variable {progress : StreamSendProgress} {frame : PendingStreamFrame}

/-- Every frame of the stream that is queued or in flight starts at the oldest offset or later. -/
theorem oldestUnsettledOffset_le {streamId : Nat} (found : c.streamSendProgress streamId = some progress)
    (live : ∀ stream, c.findSendStream streamId = some stream → stream.resetSent = false)
    (held : frame ∈ c.sendQueue ∨ frame ∈ c.outstandingStreamFrames)
    (same : frame.streamId = streamId) : progress.oldestUnsettledOffset ≤ frame.offset := by
  unfold streamSendProgress at found
  cases known : c.findSendStream streamId with
  | none => simp [known] at found
  | some stream =>
    rw [known] at found
    simp only [live stream known, Bool.false_eq_true, if_false, some.injEq] at found
    subst found
    dsimp only
    rcases held with queued | flying
    · obtain ⟨m, first, below⟩ := oldestOffset_le none queued same
      obtain ⟨k, second, least⟩ := oldestOffset_le_start streamId (n := m)
        c.outstandingStreamFrames
      rw [first, second]
      exact least.trans below
    · obtain ⟨m, found, below⟩ := oldestOffset_le (oldestOffset streamId none c.sendQueue)
        flying same
      rw [found]
      exact below

theorem oldestUnsettledOffset_le_nextOffset (inv : SendInv c.sendPart) {stream : SendStreamState}
    (known : c.findSendStream stream.streamId = some stream) (live : stream.resetSent = false)
    (found : c.streamSendProgress stream.streamId = some progress) :
    progress.oldestUnsettledOffset ≤ stream.nextOffset := by
  have unreset : ∀ other, c.findSendStream stream.streamId = some other → other.resetSent = false := by
    intro other again
    rw [known] at again
    exact some.inj again ▸ live
  by_cases held : ∃ frame, (frame ∈ c.sendQueue ∨ frame ∈ c.outstandingStreamFrames) ∧
      frame.streamId = stream.streamId
  · obtain ⟨frame, held, same⟩ := held
    have first := oldestUnsettledOffset_le found unreset held same
    obtain ⟨owner, mem, id, stop, -⟩ := inv.bounded frame (Pool.mem_items.mpr (held.imp_right Or.inl))
    have owned : owner = stream :=
      inv.unique mem (Keyed.lookup_some known).2 (id.trans same)
    subst owned
    omega
  · have absent : ∀ frames, (∀ frame ∈ frames, frame ∈ c.sendQueue ∨ frame ∈ c.outstandingStreamFrames) →
        oldestOffset stream.streamId none frames = none := by
      intro frames inside
      induction frames with
      | nil => rfl
      | cons frame rest ih =>
        have other : frame.streamId ≠ stream.streamId := fun same =>
          held ⟨frame, inside frame mem_cons_self, same⟩
        simp only [oldestOffset, foldl_cons, ne_eq, other, not_false_eq_true, if_true]
        exact ih fun frame mem => inside frame (mem_cons_of_mem _ mem)
    unfold streamSendProgress at found
    simp only [known, live, Bool.false_eq_true, if_false, some.injEq] at found
    subst found
    dsimp only
    rw [absent c.sendQueue fun _ => Or.inl, absent c.outstandingStreamFrames fun _ => Or.inr]
    rfl

/-- No byte and no end of a stream that was not reset is lost by the sender: it is acknowledged,
queued, or in a packet in flight. So the oldest unsettled offset is at most the first offset that
is not acknowledged, and data counts as acknowledged only when all of it is. -/
theorem sender_loses_nothing (reached : Reachable c) {stream : SendStreamState}
    (known : c.findSendStream stream.streamId = some stream) (live : stream.resetSent = false) :
    (∀ cell, stream.owes cell → (∃ frame ∈ c.ackedStreamFrames, frame.carries cell) ∨
      (∃ frame ∈ c.sendQueue, frame.carries cell) ∨
      ∃ packet ∈ c.applicationPacketSpace.sentPackets, ∃ frame, packet.streamFrame = some frame ∧
        frame.carries cell) ∧ (∀ progress, c.streamSendProgress stream.streamId = some progress →
      ∀ i, ¬ c.sendPart.Acked (.byte stream.streamId i) → progress.oldestUnsettledOffset ≤ i) ∧
    (publicSendStreamState stream = .dataAcked →
      (∀ i < stream.nextOffset, c.sendPart.Acked (.byte stream.streamId i)) ∧
        c.sendPart.Acked (.fin stream.streamId)) := by
  have inv := reached.sendInv
  have mem : stream ∈ c.sendPart.streams := (Keyed.lookup_some known).2
  have unreset : ∀ other, c.findSendStream stream.streamId = some other → other.resetSent = false := by
    intro other again
    rw [known] at again
    exact some.inj again ▸ live
  refine ⟨fun cell owes => ?_, fun progress found i unacked => ?_, fun acked => ?_⟩
  · obtain ⟨frame, member, carried⟩ := inv.held stream mem live cell owes
    rcases Pool.mem_items.mp member with queued | flying | settled
    · exact Or.inr (Or.inl ⟨frame, queued, carried⟩)
    · obtain ⟨packet, sent, has⟩ := mem_filterMap.mp flying
      exact Or.inr (Or.inr ⟨packet, sent, frame, has, carried⟩)
    · exact Or.inl ⟨frame, settled, carried⟩
  · rcases Nat.lt_or_ge i stream.nextOffset with below | past
    · obtain ⟨frame, member, carried⟩ := inv.held stream mem live (.byte stream.streamId i) ⟨rfl, below⟩
      rcases Pool.mem_items.mp member with queued | flying | settled
      · exact (oldestUnsettledOffset_le found unreset (Or.inl queued) carried.1).trans carried.2.1
      · exact (oldestUnsettledOffset_le found unreset (Or.inr flying) carried.1).trans carried.2.1
      · exact absurd ⟨frame, settled, carried⟩ unacked
    · exact (oldestUnsettledOffset_le_nextOffset inv known live found).trans past
  · have marked : stream.dataAcked = true := by
      unfold publicSendStreamState at acked
      split_ifs at acked with _ _ marked
      exact marked
    obtain ⟨closed, all⟩ := inv.dataAcked stream mem marked
    exact ⟨fun i below => all _ ⟨rfl, below⟩, all _ ⟨rfl, closed⟩⟩

theorem sender_loses_nothing_polled :
    let c := run (.fresh .client {}) [.openStream, .sendOnStream 0 [1, 2, 3] true, .pollTx 0 1000]
    ∃ stream, c.findSendStream 0 = some stream ∧ stream.nextOffset = 3 ∧
      ((∃ frame ∈ c.ackedStreamFrames, frame.carries (.byte 0 1)) ∨
        (∃ frame ∈ c.sendQueue, frame.carries (.byte 0 1)) ∨
        ∃ packet ∈ c.applicationPacketSpace.sentPackets, ∃ frame, packet.streamFrame = some frame ∧
          frame.carries (.byte 0 1)) := by
  intro c
  have reached : Reachable c := ⟨.client, {}, _, _, rfl, throughout_true _ _, rfl⟩
  let stream : SendStreamState := { streamId := 0, nextOffset := 3, maxData := 65536, finSent := true }
  have settled := @sender_loses_nothing c reached stream rfl rfl
  exact ⟨stream, rfl, rfl, settled.1 (.byte 0 1) ⟨rfl, by decide⟩⟩

theorem Reachable.recvInv (reached : Reachable c) : RecvInv c.recvPart := by
  obtain ⟨side, config, -, evolved⟩ := reached.evolved
  exact (evolved.recv.accounted (fresh_recvInv side config)).1

/-- The byte counter of the connection is exact and within its limit. A final size stays, in every
later state of the stream, and nothing of the stream lies beyond it. -/
theorem receive_accounting_exact (reached : Reachable c) :
    c.recvDataBytes = (c.recvStreams.map charge).sum ∧ c.recvDataBytes ≤ c.recvMaxData ∧
    ∀ stream ∈ c.recvStreams, ∀ n, stream.finalSize = some n →
      stream.data.length ≤ n ∧ (∀ piece ∈ stream.pending, piece.stop ≤ n) ∧
      ∀ calls, ∃ later, (run c calls).findRecvStream stream.streamId = some later ∧ later.finalSize = some n := by
  have inv := reached.recvInv
  refine ⟨inv.exact, inv.within, fun stream mem n size => ?_⟩
  obtain ⟨data, pieces⟩ := highestOffset_le.mp ((inv.each stream mem).sized n size)
  refine ⟨data, pieces, fun calls => ?_⟩
  have known : c.recvPart.find stream.streamId = some stream := Keyed.lookup_of_mem inv.distinct mem
  have evolved : Evolves .any c (run c calls) := run_evolves trivial (fun _ _ => trivial)
    ((throughout_true c calls).imp fun c call _ => Call.meets_any c call)
  exact (evolved.recv.accounted inv).2 stream.streamId stream n known size

def gapPayload : ReceivedPayload :=
  { wire := [⟨0x0f, .stream { streamId := 0, offset := 2, data := [3], fin := true }⟩], len := 8 }

theorem receive_accounting_exact_gap :
    let c := run (.fresh .server {}) [.processDatagramForPacketType .oneRtt 0 gapPayload false]
    c.recvDataBytes = 1 ∧ c.recvDataBytes = (c.recvStreams.map charge).sum := by
  intro c
  have reached : Reachable c := ⟨.server, {}, _, _, rfl, throughout_true _ _, rfl⟩
  exact ⟨rfl, (receive_accounting_exact reached).1⟩

/-- Data that would take the counter past the limit is refused, unless the stream was reset. -/
theorem receiveStreamFrame_overrun (inv : RecvInv c.recvPart) (frame : StreamFrame)
    (live : (c.recvStreamOrFresh frame.streamId).resetErrorCode = none) (exceeds : c.recvMaxData <
      c.recvDataBytes + (frame.chunk.span \ received (c.recvStreamOrFresh frame.streamId)).card) :
    wp (receiveStreamFrame frame) (fun _ _ => False) (fun _ t => t.recvDataBytes = c.recvDataBytes) c := by
  have ok := recvStreamOrFresh_ok inv frame.streamId
  have store : ∀ stop, endOffset frame.offset frame.data.length = some stop →
      wp (storeStreamFrame frame stop) (fun _ _ => False)
        (fun _ t => t.recvDataBytes = c.recvDataBytes) c := by
    intro stop stopEq
    have bounded : frame.chunk.stop ≤ maxQuicVarint := (endOffset_some.mp stopEq).2
    simp only [storeStreamFrame, wp_bind, wp_liftExcept, wp_get, wp_orThrow, wp_failIf, wp_set]
    refine wp_mono (ensureRecvStreamState_spec frame.streamId c) ?_ (fun _ _ h => h.elim)
    rintro stream t ⟨opened, found, -⟩
    have same : stream = c.recvStreamOrFresh frame.streamId := by
      rw [← opened.recvStreamOrFresh, recvStreamOrFresh, found, getD_some]
    have bytes : t.recvDataBytes = c.recvDataBytes := by rw [opened.rest]
    have most : t.recvMaxData = c.recvMaxData := by rw [opened.rest]
    subst same
    refine ⟨fun segments new => ⟨fun total sum => ⟨fun _ => bytes, fun fits => fits ?_⟩, fun _ => bytes⟩,
      fun _ _ => bytes⟩
    obtain ⟨-, -, -, added⟩ := storeNew_spec ok.assembled frame.chunk bounded new
    rw [(endOffset_some.mp sum).1, added, bytes, most]
    exact exceeds
  simp only [receiveStreamFrame, wp_bind, wp_failIf, wp_get, wp_liftExcept, wp_orThrow]
  refine ⟨fun _ => trivial, fun _ => ⟨fun _ _ => ⟨fun stop stopEq => ?_, fun _ => trivial⟩, fun _ _ => trivial⟩⟩
  cases known : c.findRecvStream frame.streamId with
  | none =>
    simp only [wp_bind, wp_failIf]
    exact ⟨fun _ => trivial, fun _ => store stop stopEq⟩
  | some stream =>
    simp only [wp_bind, wp_failIf, wp_liftExcept, wp_ite, wp_pure]
    refine ⟨fun _ => trivial, fun _ => ⟨fun accepted taken => ⟨fun _ => store stop stopEq,
      fun ignored => ?_⟩, fun _ _ => trivial⟩⟩
    -- a frame is passed exceeds when all of it was received before
    have same : c.recvStreamOrFresh frame.streamId = stream := by
      rw [recvStreamOrFresh, known, getD_some]
    rw [same] at live exceeds
    unfold acceptsStreamFrame at taken
    cases size : stream.finalSize with simp only [size, live, isSome_none, Bool.false_eq_true, if_false] at taken
    | none =>
      split_ifs at taken
      · cases highest : highestReceivedStreamEndOffset stream with
        | error e => simp [highest] at taken
        | ok n =>
          rw [highest] at taken
          dsimp only at taken
          split_ifs at taken
          exact ignored (Except.ok.inj taken).symm
      · exact ignored (Except.ok.inj taken).symm
    | some finalSize =>
      by_cases past : stop > finalSize
      · simp [past] at taken
      by_cases differs : frame.fin ∧ stop ≠ finalSize
      · simp [past, differs] at taken
      rw [if_neg past, if_neg differs] at taken
      cases overlap : streamFrameHasConflictingOverlap stream frame.chunk with
      | error e => simp [overlap] at taken
      | ok conflict =>
        rw [overlap] at taken
        cases conflict with
        | true => simp at taken
        | false =>
          dsimp only at taken
          by_cases complete : stream.data.length ≥ finalSize
          · have all : frame.chunk.span \ received stream = ∅ := by
              rw [Finset.sdiff_eq_empty_iff_subset]
              intro i inside
              have stops := (endOffset_some.mp stopEq).1
              have range := Chunk.mem_span.mp inside
              have chunkStop : frame.chunk.stop = frame.offset + frame.data.length := rfl
              exact mem_received.mpr (Or.inl (by omega))
            have within := inv.within
            rw [all, Finset.card_empty, Nat.add_zero] at exceeds
            exact absurd within (Nat.not_le.mpr exceeds)
          · rw [if_neg complete] at taken
            exact ignored (Except.ok.inj taken).symm

theorem receiveResetStreamFrame_overrun (inv : RecvInv c.recvPart) (reset : ResetStreamFrame)
    (live : (c.recvStreamOrFresh reset.streamId).resetErrorCode = none) (exceeds : c.recvMaxData <
      c.recvDataBytes + (reset.finalSize - byteCount (c.recvStreamOrFresh reset.streamId))) :
    wp (receiveResetStreamFrame reset) (fun _ _ => False) (fun _ t => t.recvDataBytes = c.recvDataBytes) c := by
  simp only [receiveResetStreamFrame, wp_bind, wp_failIf, wp_get, wp_liftExcept]
  refine ⟨fun _ => trivial, fun _ => ⟨fun _ _ => ?_, fun _ _ => trivial⟩⟩
  refine wp_mono (ensureRecvStreamState_spec reset.streamId c) ?_ (fun _ _ h => h.elim)
  rintro stream t ⟨opened, found, -⟩
  have same : stream = c.recvStreamOrFresh reset.streamId := by
    rw [← opened.recvStreamOrFresh, recvStreamOrFresh, found, getD_some]
  have bytes : t.recvDataBytes = c.recvDataBytes := by rw [opened.rest]
  have most : t.recvMaxData = c.recvMaxData := by rw [opened.rest]
  rw [← same] at live exceeds
  have charge : wp (chargeReset stream reset) (fun _ _ => False)
      (fun _ t => t.recvDataBytes = c.recvDataBytes) t := by
    simp only [chargeReset, wp_bind, wp_liftExcept, wp_failIf, wp_get, wp_orThrow, wp_set]
    refine ⟨fun size counted => ⟨fun _ => bytes, fun _ => ⟨fun total sum => ⟨fun _ => bytes,
      fun fits => fits ?_⟩, fun _ => bytes⟩⟩, fun _ _ => bytes⟩
    obtain rfl := receivedStreamByteCount_ok counted
    rw [(addU64_some.mp sum).1, bytes, most]
    exact exceeds
  refine ⟨fun _ => bytes, fun _ => ⟨fun highest reached => ⟨fun _ => bytes, fun _ => ?_⟩, fun _ _ => bytes⟩⟩
  cases size : stream.finalSize with
  | none => exact charge
  | some finalSize =>
    simp only [wp_bind, wp_failIf, wp_ite, wp_pure, live, isSome_none, Bool.false_eq_true]
    refine ⟨fun _ => bytes, fun agrees => ⟨False.elim, fun _ => ⟨fun complete => ?_, fun _ => charge⟩⟩⟩
    -- a stream that is complete is charged for its final size already
    have within : c.recvDataBytes ≤ c.recvMaxData := inv.within
    have agree : finalSize = reset.finalSize := by simpa using agrees
    have counted : stream.data.length ≤ byteCount stream := Nat.le_add_right _ _
    omega

/-- The distinct bytes of all streams, with the final size of a stream that was reset, stay within
the connection's limit, and a frame that would take them past it is refused. -/
theorem distinct_bytes_within_limit (reached : Reachable c) : (c.recvStreams.map charge).sum ≤ c.recvMaxData ∧
    (∀ frame : StreamFrame, (c.recvStreamOrFresh frame.streamId).resetErrorCode = none →
      c.recvMaxData < (c.recvStreams.map charge).sum +
        (frame.chunk.span \ received (c.recvStreamOrFresh frame.streamId)).card →
      ∃ e t, receiveStreamFrame frame c = .error e t ∧ t.recvDataBytes = c.recvDataBytes) ∧
    ∀ reset : ResetStreamFrame, (c.recvStreamOrFresh reset.streamId).resetErrorCode = none →
      c.recvMaxData < (c.recvStreams.map charge).sum +
        (reset.finalSize - byteCount (c.recvStreamOrFresh reset.streamId)) →
      ∃ e t, receiveResetStreamFrame reset c = .error e t ∧ t.recvDataBytes = c.recvDataBytes := by
  have inv := reached.recvInv
  have exact : c.recvDataBytes = (c.recvStreams.map charge).sum := inv.exact
  rw [← exact]
  exact ⟨inv.within, fun frame live exceeds => wp_fails (receiveStreamFrame_overrun inv frame live exceeds),
    fun reset live exceeds => wp_fails (receiveResetStreamFrame_overrun inv reset live exceeds)⟩

theorem distinct_bytes_within_limit_gap :
    let c := run (.fresh .server {}) [.processDatagramForPacketType .oneRtt 0 gapPayload false]
    (c.recvStreams.map charge).sum = 1 ∧ (c.recvStreams.map charge).sum ≤ c.recvMaxData := by
  intro c
  have reached : Reachable c := ⟨.server, {}, _, _, rfl, throughout_true _ _, rfl⟩
  exact ⟨rfl, (distinct_bytes_within_limit reached).1⟩

/-- The last byte of the window on each of two streams: two bytes, but two whole windows of offsets. -/
theorem end_offsets_exceed_limit :
    let last (streamId : Nat) : WireFrame :=
      ⟨0x0e, .stream { streamId, offset := 9, data := [0], fin := false }⟩
    let c := run (.fresh .server { initialMaxData := 10 })
      [.processDatagramForPacketType .oneRtt 0 { wire := [last 0, last 4], len := 10 } false]
    Reachable c ∧ c.recvMaxData = 10 ∧ (c.recvStreams.map highestOffset).sum = 20 :=
  ⟨⟨.server, { initialMaxData := 10 }, _, _, rfl, throughout_true _ _, rfl⟩, rfl, rfl⟩

/-- Every receive limit is at most what the application gave back, above its initial value or
above the window past what was received or reported as blocked. -/
theorem receive_limits_bounded (reached : Reachable c) : LimitsBounded c.recvPart := by
  obtain ⟨side, config, -, evolved⟩ := reached.evolved
  refine (evolved.recv.keeps (I := fun r => RecvInv r ∧ LimitsBounded r) ?_
    ⟨fresh_recvInv side config, fresh_bounded side config⟩).2
  rintro a b ⟨inv, bounds⟩ step
  exact ⟨(step.accounted inv).1, step.bounded inv bounds⟩

def blockedPayload : ReceivedPayload := { wire := [⟨0x14, .dataBlocked 100⟩], len := 3 }

def windowedServer : Config := { initialMaxData := 100, receiveConnectionWindow := some 50 }

theorem receive_limits_bounded_blocked :
    let c := run (.fresh .server windowedServer)
      [.processDatagramForPacketType .oneRtt 0 blockedPayload false]
    c.recvMaxData = 150 ∧ LimitsBounded c.recvPart := by
  intro c
  have reached : Reachable c := ⟨.server, windowedServer, _, _, rfl, throughout_true _ _, rfl⟩
  exact ⟨rfl, receive_limits_bounded reached⟩

theorem blocked_peer_moves_limit :
    let c := run (.fresh .server windowedServer)
      [.processDatagramForPacketType .oneRtt 0 blockedPayload false]
    Reachable c ∧ max 100 (consumed c.recvPart + 50) < c.recvMaxData :=
  ⟨⟨.server, windowedServer, _, _, rfl, throughout_true _ _, rfl⟩, by decide⟩

/-- When every reset that took effect left nothing unread, draining all streams leaves the peer
its whole initial window. -/
theorem drained_window_whole (reached : Reachable c) (resets : ∀ met ∈ c.metResets, Refundable c.config met)
    (drained : ∀ stream ∈ c.recvStreams, Drained stream) :
    min c.config.initialMaxData (maxQuicVarint - c.recvDataBytes) ≤ c.recvMaxData - c.recvDataBytes := by
  obtain ⟨side, config, -, evolved⟩ := reached.evolved
  have window : c.config.initialMaxData + c.recvDataBytes ≤ c.recvMaxData :=
    ((fresh_conserving side config).steps evolved.recv).window resets drained
  omega

theorem drained_window_whole_read :
    let byte : ReceivedPayload :=
      { wire := [⟨0x0b, .stream { streamId := 0, offset := 0, data := [7], fin := true }⟩], len := 5 }
    let c := run (.fresh .server { initialMaxData := 10 })
      [.processDatagramForPacketType .oneRtt 0 byte false, .recvOnStream 0 10]
    c.recvDataBytes = 1 ∧
      min c.config.initialMaxData (maxQuicVarint - c.recvDataBytes) ≤ c.recvMaxData - c.recvDataBytes := by
  intro byte c
  have reached : Reachable c := ⟨.server, { initialMaxData := 10 }, _, _, rfl, throughout_true _ _, rfl⟩
  refine ⟨rfl, drained_window_whole reached (fun _ mem => absurd mem not_mem_nil) ?_⟩
  exact forall_mem_singleton.mpr (Or.inl ⟨1, rfl, rfl⟩)

/-- A reset at the whole window, reported to the application, leaves the peer no window at all. -/
theorem reset_keeps_credit :
    let reset : ReceivedPayload :=
      { wire := [⟨0x04, .resetStream { streamId := 0, applicationErrorCode := 0, finalSize := 10 }⟩], len := 4 }
    let c := run (.fresh .server { initialMaxData := 10 })
      [.processDatagramForPacketType .oneRtt 0 reset false, .recvOnStream 0 10]
    Reachable c ∧ (∀ stream ∈ c.recvStreams, Drained stream) ∧ c.recvMaxData - c.recvDataBytes = 0 ∧
      0 < min c.config.initialMaxData (maxQuicVarint - c.recvDataBytes) := by
  refine ⟨⟨.server, { initialMaxData := 10 }, _, _, rfl, throughout_true _ _, rfl⟩, ?_, rfl, by decide⟩
  exact forall_mem_singleton.mpr (Or.inr ⟨some_ne_none 0, rfl⟩)

end Quicz
