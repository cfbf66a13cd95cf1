import Quicz.Send.Views

/-! What the calls do to streams, queued frames and packets in flight, as steps of the send
machine: a packet is recorded, a frame is sent in part, packets are acknowledged or lost,
frames are queued again, streams are marked. -/
namespace Quicz

open Chunks Proc Resend List Connection Keyed SendView SendStreamState Pool SentPacket

def SendView.part (v : SendView) : SendPart where
  streams := v.streams
  pool := ⟨v.queue, v.applicationSent.filterMap streamFrame, v.acked⟩

structure StreamIds where
  side : ConnectionSide
  nextStreamId : Nat
  nextUniStreamId : Nat
  known : List Nat

def SendView.ids (v : SendView) : StreamIds :=
  ⟨v.side, v.nextStreamId, v.nextUniStreamId, v.streams.map streamId⟩

structure StreamIds.Opened (ids : StreamIds) : Prop where
  bidi : isLocalBidirectional ids.side ids.nextStreamId = true
  uni : isLocalUnidirectional ids.side ids.nextUniStreamId = true
  below : ∀ id ∈ ids.known, (isLocalBidirectional ids.side id = true → id < ids.nextStreamId) ∧
      (isLocalUnidirectional ids.side id = true → id < ids.nextUniStreamId)

structure SendView.Clean (v : SendView) : Prop where
  /-- Packets of the Initial and Handshake spaces carry no STREAM frame. -/
  levels : ∀ packet, packet ∈ v.initialSent ∨ packet ∈ v.handshakeSent → packet.streamFrame = none
  opened : v.ids.Opened

def SendView.Moves (v w : SendView) : Prop := v.Clean → w.Clean ∧ SendSteps v.part w.part

theorem SendView.Moves.refl (v : SendView) : v.Moves v := fun clean => ⟨clean, .refl _⟩

theorem SendView.Moves.trans {u v w : SendView} (h : u.Moves v) (k : v.Moves w) : u.Moves w :=
  fun clean =>
    have first := h clean
    have next := k first.1
    ⟨next.1, first.2.trans next.2⟩

variable {v w : SendView}

theorem SendView.Moves.of_part (clean : v.Clean → w.Clean) (same : w.part = v.part) :
    v.Moves w := fun h => ⟨clean h, same ▸ .refl _⟩

theorem SendView.Moves.of_step (initialSent : w.initialSent = v.initialSent)
    (handshakeSent : w.handshakeSent = v.handshakeSent) (ids : w.ids = v.ids)
    (step : SendStep v.part w.part) : v.Moves w := by
  intro clean
  refine ⟨⟨fun packet mem => clean.levels packet ?_, ids ▸ clean.opened⟩, .one step⟩
  rwa [initialSent, handshakeSent] at mem

theorem forall₂_marked_refl (t : SendPart) (streams : List SendStreamState) :
    List.Forall₂ (StreamMarked t) streams streams :=
  forall₂_same.mpr fun _ _ => StreamMarked.refl t _

theorem SendView.Moves.of_moved (initialSent : w.initialSent = v.initialSent)
    (handshakeSent : w.handshakeSent = v.handshakeSent) (ids : w.ids = v.ids)
    (streams : w.streams = v.streams) (acked : w.acked = v.acked)
    (moved : ∀ frame ∈ v.part.pool.items, frame ∉ w.part.pool.items →
      ∀ cell, frame.carries cell → ¬ v.part.Live cell)
    (old : ∀ frame ∈ w.part.pool.items, frame ∈ v.part.pool.items) : v.Moves w := by
  refine .of_step initialSent handshakeSent ids (.moves ?_ ?_)
  · simp only [part, streams]
    exact forall₂_marked_refl _ _
  · refine .of_moved StreamFrame.PartOf.refl ?_ (fun frame mem => ?_) old
    · intro frame mem gone cell carried
      have := moved frame mem gone cell carried
      simpa only [SendPart.Live, part, streams] using this
    · simpa only [part, acked] using mem

theorem SendView.Moves.of_marked {v : SendView} {streams : List SendStreamState}
    (marked : List.Forall₂ (StreamMarked { v.part with streams }) v.streams streams) : v.Moves { v with streams } :=
  have keys : streams.map streamId = v.streams.map streamId :=
    map_key_forall₂ (fun _ _ h => h.sameStream) marked
  .of_step rfl rfl (by simp [ids, keys]) (.moves marked (.refl StreamFrame.PartOf.refl _))

variable {v : SendView} {streamId : Nat}

theorem SendView.Moves.adjust {mark : SendStreamState → SendStreamState}
    (marked : ∀ stream, lookup SendStreamState.streamId streamId v.streams = some stream →
      ∀ t : SendPart, t.pool = v.part.pool → StreamMarked t stream (mark stream)) : v.Moves { v with
      streams := adjust SendStreamState.streamId streamId mark v.streams } :=
  .of_marked (forall₂_adjust (StreamMarked.refl _) fun stream found =>
    marked stream found _ rfl)

structure WriteCovers (streamId offset stop : Nat) (fin : Bool) (frames : List PendingStreamFrame) : Prop where
  within : ∀ frame ∈ frames, frame.streamId = streamId ∧ frame.offset + frame.data.length ≤ stop ∧
    (frame.fin = true → fin = true)
  filled : ∀ i, offset ≤ i → i < stop → ∃ frame ∈ frames, frame.carries (.byte streamId i)
  ended : fin = true → ∃ frame ∈ frames, frame.carries (.fin streamId)

theorem SendView.Moves.writes {stream : SendStreamState} {nextOffset : Nat} {fin : Bool}
    {frames : List PendingStreamFrame}
    (found : lookup SendStreamState.streamId stream.streamId v.streams = some stream)
    (isOpen : stream.finSent = false) (grows : stream.nextOffset ≤ nextOffset)
    (covers : WriteCovers stream.streamId stream.nextOffset nextOffset fin frames) :
    v.Moves { v with
      streams := Keyed.adjust SendStreamState.streamId stream.streamId
        (fun _ => { stream with nextOffset, finSent := fin }) v.streams
      queue := v.queue ++ frames } := by
  have keys : (v.part.put { stream with nextOffset, finSent := fin }).streams.map
      streamId = v.streams.map streamId :=
    map_key_adjust fun _ _ => rfl
  have step : SendStep v.part { v.part.put { stream with nextOffset, finSent := fin } with
      pool := { v.part.pool with queue := v.part.pool.queue ++ frames } } :=
    .writes found isOpen covers.within grows covers.filled covers.ended
  exact .of_step rfl rfl (congrArg (StreamIds.mk v.side v.nextStreamId v.nextUniStreamId) keys) step

theorem StreamIds.Opened.add {ids : StreamIds} (opened : ids.Opened) {streamId bidi uni : Nat}
    (isBidi : isLocalBidirectional ids.side bidi = true) (isUni : isLocalUnidirectional ids.side uni = true)
    (later : ids.nextStreamId ≤ bidi) (laterUni : ids.nextUniStreamId ≤ uni)
    (below : (isLocalBidirectional ids.side streamId = true → streamId < bidi) ∧
      (isLocalUnidirectional ids.side streamId = true → streamId < uni)) :
    StreamIds.Opened ⟨ids.side, bidi, uni, ids.known ++ [streamId]⟩ := by
  refine ⟨isBidi, isUni, fun id mem => ?_⟩
  rcases mem_append.mp mem with old | new
  · obtain ⟨ofBidi, ofUni⟩ := opened.below id old
    exact ⟨fun h => (ofBidi h).trans_le later, fun h => (ofUni h).trans_le laterUni⟩
  · rwa [mem_singleton.mp new]

theorem SendView.Moves.adds {streamId bidi uni : Nat} (maxData : Nat)
    (adds : v.ids.Opened → v.part.find streamId = none ∧
      StreamIds.Opened ⟨v.side, bidi, uni, v.ids.known ++ [streamId]⟩) : v.Moves { v with
      streams := v.streams ++ [{ streamId, maxData }], nextStreamId := bidi, nextUniStreamId := uni } := by
  intro clean
  obtain ⟨unknown, opened⟩ := adds clean.opened
  refine ⟨⟨clean.levels, ?_⟩, .one (.opens streamId maxData unknown)⟩
  rwa [ids, map_append]

theorem SendView.Moves.opens (maxData : Nat) (unknown : lookup SendStreamState.streamId streamId v.streams = none)
    (ofPeer : isLocalInitiator v.side streamId = false) :
    v.Moves { v with streams := v.streams ++ [{ streamId, maxData }] } := by
  refine .adds maxData fun opened => ⟨unknown, opened.add opened.bidi opened.uni le_rfl le_rfl ?_⟩
  simp [ids, isLocalBidirectional, isLocalUnidirectional, ofPeer]

theorem isLocal_next (side : ConnectionSide) (n : Nat) :
    isLocalBidirectional side (n + 4) = isLocalBidirectional side n ∧
      isLocalUnidirectional side (n + 4) = isLocalUnidirectional side n := by
  have pair : (n + 4) / 2 % 2 = n / 2 % 2 := by omega
  have parity : (n + 4) % 2 = n % 2 := by omega
  cases side <;> simp only [isLocalBidirectional, isLocalUnidirectional, isBidirectional, isLocalInitiator, pair,
    parity, and_self]

variable {n : Nat}

theorem isLocalUnidirectional_of_bidi {side : ConnectionSide}
    (bidi : isLocalBidirectional side n = true) : isLocalUnidirectional side n = false := by
  simp only [isLocalBidirectional, Bool.and_eq_true] at bidi
  simp [isLocalUnidirectional, bidi.1]

theorem SendView.find_none (new : streamId ∉ v.ids.known) : v.part.find streamId = none :=
  lookup_none.mpr fun _ mem same => new (same ▸ mem_map_of_mem mem)

theorem SendView.Moves.opensBidi (v : SendView) (maxData : Nat) : v.Moves { v with
      streams := v.streams ++ [{ streamId := v.nextStreamId, maxData }]
      nextStreamId := v.nextStreamId + 4 } := by
  refine .adds maxData fun opened => ⟨find_none fun old => ?_,
    opened.add ((isLocal_next _ _).1.trans opened.bidi) opened.uni (Nat.le_add_right _ _) le_rfl
      ⟨fun _ => Nat.lt_add_of_pos_right (by decide), fun uni => ?_⟩⟩
  · exact Nat.lt_irrefl _ ((opened.below _ old).1 opened.bidi)
  · cases uni.symm.trans (isLocalUnidirectional_of_bidi opened.bidi)

theorem SendView.Moves.opensUni (v : SendView) (maxData : Nat) : v.Moves { v with
      streams := v.streams ++ [{ streamId := v.nextUniStreamId, maxData }]
      nextUniStreamId := v.nextUniStreamId + 4 } := by
  refine .adds maxData fun opened => ⟨find_none fun old => ?_,
    opened.add opened.bidi ((isLocal_next _ _).2.trans opened.uni) le_rfl (Nat.le_add_right _ _)
      ⟨fun bidi => ?_, fun _ => Nat.lt_add_of_pos_right (by decide)⟩⟩
  · exact Nat.lt_irrefl _ ((opened.below _ old).2 opened.uni)
  · cases opened.uni.symm.trans (isLocalUnidirectional_of_bidi bidi)

def SendView.sent (v : SendView) : PacketNumberSpace → List SentPacket
  | .initial => v.initialSent
  | .handshake => v.handshakeSent
  | .application => v.applicationSent

variable {packet : SentPacket} {frame : PendingStreamFrame}

theorem SendView.Clean.flying (clean : v.Clean) (space : PacketNumberSpace)
    (mem : packet ∈ v.sent space) (carries : packet.streamFrame = some frame) : frame ∈ v.part.pool.inFlight := by
  cases space with
  | initial => exact absurd (clean.levels packet (Or.inl mem)) (by simp [carries])
  | handshake => exact absurd (clean.levels packet (Or.inr mem)) (by simp [carries])
  | application => exact mem_filterMap.mpr ⟨packet, mem, carries⟩

def SendView.retain (v : SendView) : PacketNumberSpace → (SentPacket → Bool) → SendView
  | .initial, keep => { v with initialSent := v.initialSent.filter keep }
  | .handshake, keep => { v with handshakeSent := v.handshakeSent.filter keep }
  | .application, keep => { v with applicationSent := v.applicationSent.filter keep }

theorem SendView.Clean.retain (clean : v.Clean) (space : PacketNumberSpace)
    (keep : SentPacket → Bool) : (v.retain space keep).Clean := by
  cases space with
  | initial => exact ⟨fun packet mem => clean.levels packet (mem.imp_left fun h =>
      (mem_filter.mp h).1), clean.opened⟩
  | handshake => exact ⟨fun packet mem => clean.levels packet (mem.imp_right fun h =>
      (mem_filter.mp h).1), clean.opened⟩
  | application => exact ⟨clean.levels, clean.opened⟩

def SendView.record (v : SendView) : PacketNumberSpace → SentPacket → SendView
  | .initial, packet => { v with initialSent := v.initialSent ++ [packet] }
  | .handshake, packet => { v with handshakeSent := v.handshakeSent ++ [packet] }
  | .application, packet => { v with applicationSent := v.applicationSent ++ [packet] }

theorem SendView.Moves.record (v : SendView) (space : PacketNumberSpace) (empty : packet.streamFrame = none) :
    v.Moves (v.record space packet) := by
  refine .of_part (fun clean => ?_) ?_
  · cases space with
    | initial =>
      refine ⟨fun p mem => ?_, clean.opened⟩
      rcases mem with mem | mem
      · rcases mem_append.mp mem with old | new
        · exact clean.levels p (Or.inl old)
        · rwa [mem_singleton.mp new]
      · exact clean.levels p (Or.inr mem)
    | handshake =>
      refine ⟨fun p mem => ?_, clean.opened⟩
      rcases mem with mem | mem
      · exact clean.levels p (Or.inl mem)
      · rcases mem_append.mp mem with old | new
        · exact clean.levels p (Or.inr old)
        · rwa [mem_singleton.mp new]
    | application => exact ⟨clean.levels, clean.opened⟩
  · cases space <;> simp [SendView.record, SendView.part, empty]

theorem sentPart_partOf (pending : PendingStreamFrame) (n : Nat) : (sentPart pending n).PartOf pending where
  sameStream := rfl
  within := by
    simp only [sentPart, length_take]
    omega
  closes h := by
    simp only [sentPart, Bool.and_eq_true] at h
    exact h.1

theorem queuedRemainder_partOf {pending rest : PendingStreamFrame}
    (h : rest ∈ (queuedRemainder pending n).toList) : rest.PartOf pending := by
  simp only [queuedRemainder, Option.mem_toList] at h
  split at h
  · obtain rfl := Option.some.inj h
    refine ⟨rfl, ?_, id⟩
    simp only [length_drop]
    omega
  · cases h

variable {pending : PendingStreamFrame} {cell : Cell}

theorem carries_split (short : n ≤ pending.data.length) (carried : pending.carries cell) :
    (sentPart pending n).carries cell ∨ ∃ rest ∈ (queuedRemainder pending n).toList, rest.carries cell := by
  rcases Nat.lt_or_ge n pending.data.length with cut | whole
  · have left : queuedRemainder pending n =
        some { pending with offset := pending.offset + n, data := pending.data.drop n } := if_pos cut
    simp only [left, Option.mem_toList, Option.some.injEq, exists_eq_left']
    cases cell with
    | byte streamId i =>
      obtain ⟨id, start, stop⟩ := carried
      rcases Nat.lt_or_ge i (pending.offset + n) with before | after
      · refine Or.inl ⟨id, start, ?_⟩
        simp only [sentPart, length_take]
        omega
      · refine Or.inr ⟨id, after, ?_⟩
        simp only [length_drop]
        omega
    | fin streamId => exact Or.inr carried
  · have same : sentPart pending n = pending := by
      have : n = pending.data.length := by omega
      simp [sentPart, this]
    exact Or.inl (same.symm ▸ carried)

theorem SendView.Moves.emit {rest : List PendingStreamFrame}
    (head : v.queue = pending :: rest) (short : n ≤ pending.data.length)
    (sent : packet.streamFrame = some (sentPart pending n)) : v.Moves { v.record .application packet with
      queue := (queuedRemainder pending n).toList ++ v.queue.tail } := by
  set w : SendView := { v.record .application packet with
    queue := (queuedRemainder pending n).toList ++ v.queue.tail }
  have pool : w.part.pool = { v.part.pool with
      queue := (queuedRemainder pending n).toList ++ rest
      inFlight := v.part.pool.inFlight ++ [sentPart pending n] } := by
    simp [w, SendView.part, SendView.record, sent, head]
  refine .of_step rfl rfl rfl (.moves (forall₂_marked_refl _ _) ?_)
  rw [pool]
  exact .emit StreamFrame.PartOf.refl head (sentPart_partOf pending n)
    (fun _ mem => queuedRemainder_partOf mem) fun _ carried => carries_split short carried

def SendView.streamIsReset (v : SendView) (streamId : Nat) : Bool :=
  (lookup SendStreamState.streamId streamId v.streams).any SendStreamState.resetSent

theorem SendView.not_live (reset : v.streamIsReset frame.streamId = true) (carried : frame.carries cell) :
    ¬ v.part.Live cell := by
  intro live
  obtain ⟨stream, found, isReset⟩ := (Option.any_eq_true _ _).mp reset
  obtain ⟨id, mem⟩ := lookup_some found
  have := live stream mem (id.trans (StreamFrame.carries_streamId carried))
  rw [isReset] at this
  cases this

theorem SendView.Moves.dropReset (v : SendView) :
    v.Moves { v with queue := v.queue.filter fun pending => !v.streamIsReset pending.streamId } := by
  refine .of_moved rfl rfl rfl rfl rfl ?_ ?_
  · intro frame mem gone cell carried
    refine not_live ?_ carried
    by_contra live
    refine gone (mem_items.mpr ?_)
    rcases mem_items.mp mem with queued | later
    · exact Or.inl (mem_filter.mpr ⟨queued, by simpa using live⟩)
    · exact Or.inr later
  · intro frame mem
    rcases mem_items.mp mem with queued | later
    · exact mem_items.mpr (Or.inl (mem_filter.mp queued).1)
    · exact mem_items.mpr (Or.inr later)

theorem SendView.Moves.retain {space : PacketNumberSpace} {keep : SentPacket → Bool}
    (gone : ∀ packet ∈ v.sent space, keep packet = false → ∀ frame, packet.streamFrame = some frame →
      frame ∈ v.queue ∨ frame ∈ v.acked ∨ v.streamIsReset frame.streamId = true) :
    v.Moves (v.retain space keep) := by
  cases space with
  | application =>
    refine .of_moved rfl rfl rfl rfl rfl ?_ ?_
    · intro frame mem left cell carried
      rcases mem_items.mp mem with queued | sent | acked
      · exact (left (mem_items.mpr (Or.inl queued))).elim
      · obtain ⟨packet, here, carries⟩ := mem_filterMap.mp sent
        have dropped : keep packet = false := by
          by_contra kept
          refine left (mem_items.mpr (Or.inr (Or.inl (mem_filterMap.mpr ⟨packet, ?_, carries⟩))))
          exact mem_filter.mpr ⟨here, by simpa using kept⟩
        rcases gone packet here dropped frame carries with queued | acked | reset
        · exact (left (mem_items.mpr (Or.inl queued))).elim
        · exact (left (mem_items.mpr (Or.inr (Or.inr acked)))).elim
        · exact not_live reset carried
      · exact (left (mem_items.mpr (Or.inr (Or.inr acked)))).elim
    · intro frame mem
      rcases mem_items.mp mem with queued | sent | acked
      · exact mem_items.mpr (Or.inl queued)
      · obtain ⟨packet, here, carries⟩ := mem_filterMap.mp sent
        exact mem_items.mpr (Or.inr (Or.inl (mem_filterMap.mpr ⟨packet, (mem_filter.mp here).1, carries⟩)))
      · exact mem_items.mpr (Or.inr (Or.inr acked))
  | _ => exact .of_part (fun clean => clean.retain _ keep) rfl

theorem SendView.Moves.copy {front back : List PendingStreamFrame}
    (flying : ∀ frame, frame ∈ front ∨ frame ∈ back → frame ∈ v.part.pool.inFlight) :
    v.Moves { v with queue := front ++ v.queue ++ back } := by
  refine .of_moved rfl rfl rfl rfl rfl ?_ ?_
  · intro frame mem left
    refine absurd (mem_items.mpr ?_) left
    rcases mem_items.mp mem with queued | later
    · exact Or.inl (mem_append_left _ (mem_append_right _ queued))
    · exact Or.inr later
  · intro frame mem
    rcases mem_items.mp mem with queued | later
    · simp only [part, mem_append] at queued
      rcases queued with (copied | queued) | copied
      · exact mem_items.mpr (Or.inr (Or.inl (flying frame (Or.inl copied))))
      · exact mem_items.mpr (Or.inl queued)
      · exact mem_items.mpr (Or.inr (Or.inl (flying frame (Or.inr copied))))
    · exact mem_items.mpr (Or.inr later)

/-- A frame in flight is noted as acknowledged, before its packet leaves the space. -/
theorem SendView.Moves.noteAcked
    (flying : frame ∈ v.part.pool.inFlight) : v.Moves { v with acked := v.acked ++ [frame] } := by
  refine .of_step rfl rfl rfl (.moves (forall₂_marked_refl _ _) (.of_moved StreamFrame.PartOf.refl ?_ ?_ ?_))
  · intro a mem gone
    refine absurd (mem_items.mpr ?_) gone
    rcases mem_items.mp mem with queued | sent | acked
    · exact Or.inl queued
    · exact Or.inr (Or.inl sent)
    · exact Or.inr (Or.inr (mem_append_left _ acked))
  · exact fun a acked => mem_append_left _ acked
  · intro a mem
    rcases mem_items.mp mem with queued | sent | acked
    · exact mem_items.mpr (Or.inl queued)
    · exact mem_items.mpr (Or.inr (Or.inl sent))
    · rcases mem_append.mp acked with old | new
      · exact mem_items.mpr (Or.inr (Or.inr old))
      · rw [mem_singleton.mp new]
        exact mem_items.mpr (Or.inr (Or.inl flying))

variable (packets : List SentPacket) (c : Connection) (space : PacketNumberSpace)
  (f : PacketNumberSpaceState → PacketNumberSpaceState) (packet : SentPacket)

theorem mark_modifySpace : (c.modifySpace space f).markSentPacketAckedOnStreams packet =
      (c.markSentPacketAckedOnStreams packet).modifySpace space f := by
  have frameMarked : ∀ pending : PendingStreamFrame, (c.modifySpace space f).markStreamFrameAcked pending =
        (c.markStreamFrameAcked pending).modifySpace space f := by
    intro pending
    unfold markStreamFrameAcked
    cases pending.fin <;> cases space <;> rfl
  unfold markSentPacketAckedOnStreams
  cases packet.streamFrame <;> cases packet.resetStreamFrame <;> simp only [frameMarked] <;>
    cases space <;> rfl

theorem markStreamFrameAcked_eq (pending : PendingStreamFrame) : ∃ streams, c.markStreamFrameAcked pending =
      { c with sendStreams := streams, ackedStreamFrames := c.ackedStreamFrames ++ [pending] } := by
  unfold markStreamFrameAcked
  cases pending.fin <;> exact ⟨_, rfl⟩

theorem markSentPacketAckedOnStreams_eq : ∃ streams, c.markSentPacketAckedOnStreams packet = { c with
        sendStreams := streams
        ackedStreamFrames := c.ackedStreamFrames ++ packet.streamFrame.toList } := by
  unfold markSentPacketAckedOnStreams
  cases packet.streamFrame with
  | none =>
    simp only [Option.toList_none, append_nil]
    cases packet.resetStreamFrame <;> exact ⟨_, rfl⟩
  | some pending =>
    obtain ⟨streams, eq⟩ := markStreamFrameAcked_eq c pending
    simp only [eq, Option.toList_some]
    cases packet.resetStreamFrame <;> exact ⟨_, rfl⟩

theorem markStreamFrameAcked_moves {c : Connection} (flying : pending ∈ c.sendView.part.pool.inFlight) :
    c.sendView.Moves (c.markStreamFrameAcked pending).sendView := by
  have noted := SendView.Moves.noteAcked flying
  unfold markStreamFrameAcked
  cases closes : pending.fin with
  | false => exact noted
  | true =>
    refine noted.trans (.adjust fun stream found t pool =>
      ⟨rfl, rfl, Or.inl rfl, id, fun _ => ?_, Or.inl⟩)
    -- the acknowledged frame carries the FIN
    refine Or.inr ⟨pending, by simp [pool, part], ?_, closes⟩
    exact (lookup_some found).1.symm

theorem mark_moves {c : Connection} {packet : SentPacket}
    (flying : ∀ frame, packet.streamFrame = some frame → frame ∈ c.sendView.part.pool.inFlight) :
    c.sendView.Moves (c.markSentPacketAckedOnStreams packet).sendView := by
  have resetMarked : ∀ (t : Connection) (streamId : Nat), t.sendView.Moves
      (t.markSendStream streamId fun stream => { stream with resetAcked := true }).sendView :=
    fun t streamId => .adjust fun stream _ t _ => ⟨rfl, rfl, Or.inl rfl, id, Or.inl, Or.inl⟩
  unfold markSentPacketAckedOnStreams
  cases carried : packet.streamFrame with
  | none =>
    cases packet.resetStreamFrame with
    | none => exact .refl _
    | some reset => exact resetMarked c reset.streamId
  | some pending =>
    have frameMarked := markStreamFrameAcked_moves (flying pending carried)
    cases packet.resetStreamFrame with
    | none => exact frameMarked
    | some reset => exact frameMarked.trans (resetMarked _ reset.streamId)

theorem marks_eq : ∃ streams, packets.foldl markSentPacketAckedOnStreams c = { c with
        sendStreams := streams
        ackedStreamFrames := c.ackedStreamFrames ++ packets.filterMap streamFrame } := by
  induction packets generalizing c with
  | nil => exact ⟨c.sendStreams, by simp⟩
  | cons packet packets ih =>
    obtain ⟨first, eq⟩ := markSentPacketAckedOnStreams_eq c packet
    obtain ⟨streams, rest⟩ := ih (c.markSentPacketAckedOnStreams packet)
    refine ⟨streams, ?_⟩
    rw [foldl_cons, rest, eq]
    cases carried : packet.streamFrame <;> simp [carried]

theorem marks_modifySpace : packets.foldl markSentPacketAckedOnStreams (c.modifySpace space f) =
      (packets.foldl markSentPacketAckedOnStreams c).modifySpace space f := by
  induction packets generalizing c with
  | nil => rfl
  | cons packet packets ih => rw [foldl_cons, mark_modifySpace, ih, foldl_cons]

theorem marks_moves (flying : ∀ packet ∈ packets, ∀ frame, packet.streamFrame = some frame →
      frame ∈ c.sendView.part.pool.inFlight) :
    c.sendView.Moves (packets.foldl markSentPacketAckedOnStreams c).sendView := by
  induction packets generalizing c with
  | nil => exact .refl _
  | cons packet packets ih =>
    obtain ⟨streams, eq⟩ := markSentPacketAckedOnStreams_eq c packet
    refine (mark_moves fun frame => flying packet mem_cons_self frame).trans (ih _ ?_)
    intro other mem frame carries
    rw [eq]
    exact flying other (mem_cons_of_mem _ mem) frame carries

theorem sendView_retain (keep : SentPacket → Bool) (f : PacketNumberSpaceState → PacketNumberSpaceState)
    (filtered : ∀ s, (f s).sentPackets = s.sentPackets.filter keep) :
    (c.modifySpace space f).sendView = c.sendView.retain space keep := by
  cases space <;> simp [modifySpace, sendView, retain, filtered]

theorem sent_sendView : c.sendView.sent space = (c.packetNumberSpace space).sentPackets := by
  cases space <;> rfl

theorem sendView_note (event : Event) : (c.note event).sendView = c.sendView := rfl

theorem settleAcked_eq (ack : AckFrame) : ∃ streams, c.settleAcked space ack =
      note { c.modifySpace space fun s => { s with
          sentPackets := s.sentPackets.filter fun p => !ackFrameContains ack p.packetNumber } with
        sendStreams := streams
        ackedStreamFrames := c.ackedStreamFrames ++
          ((c.packetNumberSpace space).acknowledgedBy ack).filterMap streamFrame }
        (.acknowledged space (((c.packetNumberSpace space).acknowledgedBy ack).map packetNumber)) := by
  obtain ⟨streams, eq⟩ := marks_eq ((c.packetNumberSpace space).acknowledgedBy ack) c
  refine ⟨streams, ?_⟩
  rw [settleAcked, marks_modifySpace, eq]
  cases space <;> rfl

theorem settleAcked_moves (ack : AckFrame) : c.sendView.Moves (c.settleAcked space ack).sendView := by
  intro clean
  have flying : ∀ packet ∈ (c.packetNumberSpace space).acknowledgedBy ack, ∀ frame,
      packet.streamFrame = some frame → frame ∈ c.sendView.part.pool.inFlight := by
    intro packet mem frame carries
    exact clean.flying space (by rw [sent_sendView]; exact (mem_filter.mp mem).1) carries
  refine SendView.Moves.trans (marks_moves _ c flying) ?_ clean
  obtain ⟨streams, eq⟩ := marks_eq ((c.packetNumberSpace space).acknowledgedBy ack) c
  rw [settleAcked, sendView_note, marks_modifySpace, eq,
    sendView_retain _ space (fun p => !ackFrameContains ack p.packetNumber) _ fun _ => rfl]
  refine .retain fun packet mem dropped frame carries => Or.inr (Or.inl ?_)
  refine mem_append_right _ (mem_filterMap.mpr ⟨packet, ?_, carries⟩)
  refine mem_filter.mpr ⟨?_, by simpa using dropped⟩
  rw [sent_sendView] at mem
  cases space <;> exact mem

theorem removeAckDrivenLosses_moves (largestAcknowledged : Nat) (rttSample : Option Nat) (now : Int) :
    c.sendView.Moves (c.removeAckDrivenLosses space largestAcknowledged rttSample now).2.sendView := by
  intro clean
  set check := c.lossCheck space largestAcknowledged rttSample now
  set lost := (c.packetNumberSpace space).sentPackets.filter check.declaresLost
  set data := lost.filter c.retransmits
  have requeued : c.sendView.Moves { c.sendView with
      queue := data.filterMap streamFrame ++ c.sendView.queue ++ [] } := by
    refine .copy fun frame copied => ?_
    simp only [not_mem_nil, or_false] at copied
    obtain ⟨packet, mem, carries⟩ := mem_filterMap.mp copied
    have here : packet ∈ (c.packetNumberSpace space).sentPackets :=
      (mem_filter.mp (mem_filter.mp mem).1).1
    exact clean.flying space (by rwa [sent_sendView]) carries
  have view : (c.removeAckDrivenLosses space largestAcknowledged rttSample now).2.sendView = retain { c.sendView with
        queue := data.filterMap streamFrame ++ c.sendView.queue ++ [] } space
        (!check.declaresLost ·) := by
    rw [append_nil, removeAckDrivenLosses, sendView_note,
      sendView_retain _ space (!check.declaresLost ·) _ fun _ => rfl]
    cases space <;> rfl
  rw [view]
  refine requeued.trans (.retain fun packet mem dropped frame carries => ?_) clean
  have isLost : packet ∈ lost := by
    refine mem_filter.mpr ⟨?_, by simpa using dropped⟩
    rw [← sent_sendView]
    cases space <;> exact mem
  by_cases kept : c.retransmits packet = true
  · refine Or.inl (mem_append_left _ (mem_append_left _ ?_))
    exact mem_filterMap.mpr ⟨packet, mem_filter.mpr ⟨isLost, kept⟩, carries⟩
  · refine Or.inr (Or.inr ?_)
    have reset : c.streamIsReset frame.streamId = true := by
      simpa [retransmits, carries] using kept
    exact reset

theorem refreshSendDataAckedStates_moves : c.sendView.Moves c.refreshSendDataAckedStates.sendView := by
  refine .of_marked (forall₂_map_right_iff.mpr (forall₂_same.mpr fun stream _ => ?_))
  split
  · exact StreamMarked.refl _ stream
  · rename_i open_
    simp only [Bool.or_eq_true, Bool.not_eq_true', not_or, Bool.not_eq_false, Bool.not_eq_true] at open_
    refine ⟨rfl, rfl, Or.inl rfl, id, Or.inl, fun idle => Or.inr ⟨open_.1, open_.2, ?_⟩⟩
    simp only [Bool.and_eq_true, Bool.not_eq_true', streamHasQueuedSendData,
      streamHasOutstandingSendData, streamHasFrame, any_eq_false, beq_iff_eq] at idle
    intro frame mem
    rcases mem with queued | sent
    · exact idle.1 frame queued
    · exact idle.2 frame sent

theorem queuePtoStreamRetransmission_moves {c t : Connection}
    (queued : c.queuePtoStreamRetransmission = some t) : c.sendView.Moves t.sendView := by
  obtain ⟨frame, found, rfl⟩ := Option.map_eq_some_iff.mp queued
  obtain ⟨packet, mem, carries⟩ := exists_of_findSome?_eq_some found
  have copied : c.sendView.Moves { c.sendView with queue := [] ++ c.sendView.queue ++ [frame] } := by
    refine .copy fun other copied => ?_
    simp only [not_mem_nil, mem_singleton, false_or] at copied
    rw [copied]
    exact mem_filterMap.mpr ⟨packet, mem, carries⟩
  exact copied

end Quicz
