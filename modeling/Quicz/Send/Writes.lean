import Quicz.Send.Refines
import Quicz.WireLen.Sizing

/-! Opening, writing and resetting refine the send machine. -/
namespace Quicz

open Chunks Proc Resend List

variable {rule : LedgerRule}

theorem WriteCovers.whole (streamId offset : Nat) (data : Bytes) (fin : Bool) :
    WriteCovers streamId offset (offset + data.length) fin [⟨streamId, offset, fin, data⟩] where
  within frame mem := by
    obtain rfl := mem_singleton.mp mem
    exact ⟨rfl, le_rfl, id⟩
  filled i start stop := ⟨_, mem_singleton_self _, rfl, start, stop⟩
  ended closes := ⟨_, mem_singleton_self _, rfl, closes⟩

theorem WriteCovers.cons {streamId offset stop : Nat} {fin : Bool} {part : Bytes}
    {rest : List PendingStreamFrame} (short : offset + part.length ≤ stop)
    (covers : WriteCovers streamId (offset + part.length) stop fin rest) :
    WriteCovers streamId offset stop fin (⟨streamId, offset, false, part⟩ :: rest) where
  within frame mem := by
    rcases mem_cons.mp mem with rfl | later
    · exact ⟨rfl, short, nofun⟩
    · exact covers.within frame later
  filled i start below := by
    rcases Nat.lt_or_ge i (offset + part.length) with here | after
    · exact ⟨_, mem_cons_self, rfl, start, here⟩
    · obtain ⟨frame, mem, carried⟩ := covers.filled i after below
      exact ⟨frame, mem_cons_of_mem _ mem, carried⟩
  ended closes := by
    obtain ⟨frame, mem, carried⟩ := covers.ended closes
    exact ⟨frame, mem_cons_of_mem _ mem, carried⟩

/-- The pieces of a write: each starts where the one before ended, is not empty and fits a frame, and together
they are the data. -/
def Fragments (fits : Nat → Nat → Prop) : Nat → Bytes → List (Nat × Bytes) → Prop
  | _, data, [] => data = []
  | offset, data, (start, part) :: rest => start = offset ∧ part ≠ [] ∧ fits offset part.length ∧
    ∃ later, data = part ++ later ∧ Fragments fits (offset + part.length) later rest

def FrameFits (wireLen : Nat → Nat → Except Error Nat) (size offset n : Nat) : Prop :=
  ∃ len, wireLen offset n = .ok len ∧ len ≤ size

/-- The STREAM frames of the pieces of a write; the end of the stream goes with the last. -/
def streamFrames (streamId : Nat) (fin : Bool) : List (Nat × Bytes) → List PendingStreamFrame
  | [] => []
  | (offset, data) :: rest => ⟨streamId, offset, fin && rest.isEmpty, data⟩ :: streamFrames streamId fin rest

variable {fits : Nat → Nat → Prop} {offset : Nat} {data : Bytes} {pieces : List (Nat × Bytes)}

theorem Fragments.isEmpty (h : Fragments fits offset data pieces) : pieces.isEmpty = data.isEmpty := by
  match pieces, h with
  | [], rfl => rfl
  | _ :: _, ⟨_, filled, _, later, whole, _⟩ => simp [whole, filled]

/-- One round of the loops: the next piece is as long as the sizing function says. -/
theorem Fragments.cut {wireLen : Nat → Nat → Except Error Nat} {size n : Nat} (nonempty : data ≠ [])
    (sized : n ∈ payloadSizes (wireLen offset) data.length size)
    (rest : Fragments (FrameFits wireLen size) (offset + n) (data.drop n) pieces) :
    Fragments (FrameFits wireLen size) offset data ((offset, data.take n) :: pieces) ∧
      (n == data.length) = pieces.isEmpty := by
  obtain ⟨inside, one, fits⟩ := sized
  have positive : 1 ≤ n := one.resolve_left fun zero => nonempty (length_eq_zero_iff.mp zero)
  have len : (data.take n).length = n := length_take_of_le inside
  refine ⟨⟨rfl, ?_, len.symm ▸ fits, data.drop n, (take_append_drop n data).symm, len.symm ▸ rest⟩, ?_⟩
  · intro empty
    rw [empty, length_nil] at len
    omega
  · rw [rest.isEmpty, Bool.eq_iff_iff, List.isEmpty_iff, List.drop_eq_nil_iff, beq_iff_eq]
    omega

theorem Fragments.covers (h : Fragments fits offset data pieces) (nonempty : data ≠ []) (streamId : Nat) (fin : Bool) :
    WriteCovers streamId offset (offset + data.length) fin (streamFrames streamId fin pieces) := by
  induction pieces generalizing offset data with
  | nil => exact absurd h nonempty
  | cons piece rest ih =>
    obtain ⟨start, part⟩ := piece
    obtain ⟨rfl, -, -, later, rfl, next⟩ := h
    rw [streamFrames]
    cases rest with
    | nil =>
      obtain rfl : later = [] := next
      rw [isEmpty_nil, Bool.and_true, append_nil]
      exact .whole streamId start part fin
    | cons second rest =>
      have left : later ≠ [] := by
        rintro rfl
        exact absurd next.isEmpty Bool.false_ne_true
      have covers := ih next left
      rw [isEmpty_cons, Bool.and_false, length_append]
      rw [Nat.add_assoc] at covers
      exact .cons (by omega) covers

theorem splitStreamData_fragments (streamId size : Nat) (fin : Bool) (rounds : Nat) :
    ∀ (offset : Nat) (data : Bytes), Returns (splitStreamData streamId size fin rounds offset data) fun frames =>
      ∃ pieces, Fragments (FrameFits (streamFrameWireLen streamId) size) offset data pieces ∧
        frames = streamFrames streamId fin pieces := by
  induction rounds with
  | zero => exact fun _ _ => nofun
  | succ rounds ih =>
    intro offset data frames cut
    rw [splitStreamData] at cut
    split at cut
    · cases cut
      exact ⟨[], ‹data = []›, rfl⟩
    rename_i nonempty
    split at cut
    · cases cut
    rename_i n sized
    split at cut
    · cases cut
    rename_i next ends
    split at cut
    · cases cut
    rename_i rest cutRest
    cases cut
    obtain ⟨rfl, _⟩ := endOffset_some.mp ends
    obtain ⟨pieces, fragments, rfl⟩ := ih _ _ rest cutRest
    have greatest := ((sizedBy_of_measured fun n => streamFrameWireLen_measured streamId offset n).1 n).mp sized
    obtain ⟨cut, last⟩ := fragments.cut nonempty greatest.1
    exact ⟨_, cut, by rw [streamFrames, last]⟩

theorem splitCryptoData_fragments (size rounds : Nat) :
    ∀ (offset : Nat) (data : Bytes), Returns (splitCryptoData size rounds offset data) fun frames =>
      ∃ pieces, Fragments (FrameFits cryptoFrameWireLen size) offset data pieces ∧
        frames = pieces.map fun piece => ⟨piece.1, piece.2⟩ := by
  induction rounds with
  | zero => exact fun _ _ => nofun
  | succ rounds ih =>
    intro offset data
    rw [splitCryptoData]
    refine .ite (fun empty => .pure ⟨[], empty, rfl⟩) fun nonempty => .bind (fun _ sized => sized) fun n sized => ?_
    cases ends : endOffset offset n with
    | none => exact nofun
    | some next =>
      obtain ⟨rfl, _⟩ := endOffset_some.mp ends
      refine .bind (ih _ _) fun rest ⟨pieces, fragments, same⟩ => .pure ?_
      have measured : ∀ n, Measured id (cryptoFrameWireLen offset n) (True ∧ offset + n ≤ maxQuicVarint) _ :=
        fun n => (cryptoFrameWireLen_measured offset n).congr (by simp) fun _ => rfl
      have greatest := ((sizedBy_of_measured measured).1 n).mp sized
      exact ⟨_, (fragments.cut nonempty greatest.1).1, by rw [same, map_cons]⟩

theorem streamFramesOfWrite_fragments (streamId size offset : Nat) (data : Bytes) (fin : Bool) :
    Returns (streamFramesOfWrite streamId size offset data fin) fun frames =>
      ∃ pieces, frames = streamFrames streamId fin pieces ∧ if data = [] then pieces = [(offset, [])]
        else Fragments (FrameFits (streamFrameWireLen streamId) size) offset data pieces := by
  unfold streamFramesOfWrite
  refine .ite (fun empty => .pure ⟨[(offset, [])], by simp [streamFrames], (if_pos empty).mpr rfl⟩) fun nonempty => ?_
  refine (splitStreamData_fragments streamId size fin _ offset data).mono fun frames ⟨pieces, fragments, same⟩ => ?_
  exact ⟨pieces, same, (if_neg nonempty).mpr fragments⟩

theorem streamFramesOfWrite_covers (streamId size offset : Nat) (data : Bytes) (fin : Bool) :
    Returns (streamFramesOfWrite streamId size offset data fin)
      (WriteCovers streamId offset (offset + data.length) fin) := by
  refine (streamFramesOfWrite_fragments streamId size offset data fin).mono fun frames ⟨pieces, same, cut⟩ => ?_
  subst same
  split at cut
  · subst cut
    subst data
    rw [streamFrames, streamFrames, isEmpty_nil, Bool.and_true]
    exact .whole streamId offset [] fin
  · exact cut.covers ‹data ≠ []› streamId fin

theorem maxStreamFrameDataLen_empty {streamId offset size n : Nat}
    (sized : maxStreamFrameDataLen streamId offset 0 size = .ok n) :
    FrameFits (streamFrameWireLen streamId) size offset 0 := by
  have greatest := ((sizedBy_of_measured fun n => streamFrameWireLen_measured streamId offset n).1 n).mp sized
  obtain ⟨empty, -, fits⟩ := greatest.1
  exact Nat.le_zero.mp empty ▸ fits

theorem queueBlockedFrame_blocks {c t : Connection} {frame : PendingBlockedFrame}
    (queued : t = if frame ∈ c.pendingBlockedFrames then c
      else { c with pendingBlockedFrames := c.pendingBlockedFrames ++ [frame] }) :
    ∃ blocked, blocked.length ≤ 1 ∧ t = { c with pendingBlockedFrames := c.pendingBlockedFrames ++ blocked } := by
  split at queued
  · exact ⟨[], Nat.zero_le _, queued.trans (by rw [append_nil])⟩
  · exact ⟨[frame], le_refl _, queued⟩

/-- A write that is accepted queues the data in pieces that follow one another, none empty and each in a frame
that fits, with the end of the stream on the last; an empty write queues one empty piece. A write that is
refused changes nothing but the queue of BLOCKED frames, by at most one. -/
theorem write_is_fragmented (c : Connection) (streamId : Nat) (data : Bytes) (fin : Bool)
    (space : PacketNumberSpace) :
    wp (sendOnStream streamId data fin)
      (fun _ t => ∃ stream pieces, c.writableSendStream streamId = .ok stream ∧
        (if data = [] then pieces = [(stream.nextOffset, [])] ∧
          FrameFits (streamFrameWireLen streamId) c.writeDatagramSize stream.nextOffset 0
        else Fragments (FrameFits (streamFrameWireLen streamId) c.writeDatagramSize) stream.nextOffset data pieces) ∧
        t = { c.storeSendStream { stream with
            nextOffset := stream.nextOffset + data.length, finSent := stream.finSent || fin } with
          sendQueue := c.sendQueue ++ streamFrames streamId fin pieces
          sentStreamDataBytes := c.sentStreamDataBytes + data.length })
      (fun _ t => ∃ blocked, blocked.length ≤ 1 ∧
        t = { c with pendingBlockedFrames := c.pendingBlockedFrames ++ blocked }) c ∧
    wp (sendCryptoInSpace space data)
      (fun _ t => if data = [] then t = c
        else ∃ pieces, Fragments (FrameFits cryptoFrameWireLen c.maxTxDatagramSize)
            (c.packetNumberSpace space).cryptoSendOffset data pieces ∧
          t = (c.modifySpace space fun s => { s with
            cryptoSendQueue := s.cryptoSendQueue ++ pieces.map fun piece => ⟨piece.1, piece.2⟩
            cryptoSendOffset := (c.packetNumberSpace space).cryptoSendOffset + data.length }).markHandshakeSpaceUsed
              space)
      (fun _ t => t = c) c := by
  have unblocked : ∃ blocked : List PendingBlockedFrame, blocked.length ≤ 1 ∧
      c = { c with pendingBlockedFrames := c.pendingBlockedFrames ++ blocked } :=
    ⟨[], Nat.zero_le _, by rw [append_nil]⟩
  constructor
  · unfold sendOnStream requireActive
    simp only [wp_bind, wp_get, wp_failIf, wp_liftExcept, wp_orThrow, wp_ite, wp_throw, wp_set, unblocked, implies_true,
      and_true, true_and]
    refine fun _ _ _ stream writable next ends => ⟨fun _ => queueBlockedFrame_blocks rfl, fun _ total sum =>
      ⟨fun _ => queueBlockedFrame_blocks rfl, fun _ n sized frames cut => ?_⟩⟩
    obtain ⟨rfl, _⟩ := endOffset_some.mp ends
    obtain ⟨rfl, _⟩ := endOffset_some.mp sum
    obtain ⟨pieces, rfl, whole⟩ := streamFramesOfWrite_fragments _ _ _ _ _ frames cut
    refine ⟨stream, pieces, writable, ?_, rfl⟩
    split
    · subst data
      exact ⟨whole, maxStreamFrameDataLen_empty sized⟩
    · exact (if_neg ‹_›).mp whole
  · unfold sendCryptoInSpace requireActive
    simp only [wp_bind, wp_get, wp_failIf, wp_liftExcept, wp_orThrow, wp_ite, wp_pure, wp_modify, implies_true,
      and_true, true_and]
    refine fun _ => ⟨fun empty => (if_pos empty).mpr trivial, fun nonempty _ next ends n _ frames cut => ?_⟩
    obtain ⟨rfl, _⟩ := endOffset_some.mp ends
    obtain ⟨pieces, fragments, rfl⟩ := splitCryptoData_fragments _ _ _ _ frames cut
    exact (if_neg nonempty).mpr ⟨pieces, fragments, rfl⟩

/-- A write of nothing that does not end the stream queues an empty frame too. -/
theorem empty_write_is_queued :
    ∃ c t : Connection, sendOnStream 0 [] false c = .ok () t ∧ t.sendQueue = c.sendQueue ++ [⟨0, 0, false, []⟩] :=
  ⟨after openStream (.fresh .client {}), _, rfl, rfl⟩

variable {stream : SendStreamState} {c : Connection} {streamId : Nat}

theorem writableSendStream_cases
    (side : isBidirectional streamId = true ∨ isLocalUnidirectional c.side streamId = true)
    (h : c.writableSendStream streamId = .ok stream) :
    stream.streamId = streamId ∧ stream.finSent = false ∧ (c.findSendStream streamId = some stream ∨
        c.findSendStream streamId = none ∧ isLocalInitiator c.side streamId = false ∧
          stream = c.freshSendStream streamId) := by
  unfold Connection.writableSendStream at h
  split at h
  · rename_i known found
    split at h
    · cases h
    · rename_i live
      cases h
      simp only [sendStreamClosed, Bool.or_eq_true, not_or, Bool.not_eq_true] at live
      exact ⟨(Keyed.lookup_some found).1, live.1, Or.inl found⟩
  · rename_i unknown
    split at h
    · cases h
    · rename_i ofPeer
      split at h
      · cases h
      · cases h
        refine ⟨rfl, rfl, Or.inr ⟨unknown, ?_, rfl⟩⟩
        simp only [isLocalBidirectional, isLocalUnidirectional] at ofPeer side
        grind

theorem storeWritten_sends
    (side : isBidirectional streamId = true ∨ isLocalUnidirectional c.side streamId = true)
    (writable : c.writableSendStream streamId = .ok stream) {nextOffset : Nat} {fin : Bool}
    {frames : List PendingStreamFrame} (grows : stream.nextOffset ≤ nextOffset)
    (covers : WriteCovers streamId stream.nextOffset nextOffset fin frames) (total : Nat) :
    Sends rule c { c.storeSendStream { stream with nextOffset, finSent := stream.finSent || fin } with
      sendQueue := c.sendQueue ++ frames
      sentStreamDataBytes := total } := by
  obtain ⟨rfl, isOpen, origin⟩ := writableSendStream_cases side writable
  simp only [isOpen, Bool.false_or, Connection.storeSendStream]
  rcases origin with found | ⟨unknown, ofPeer, fresh⟩
  · simp only [found, Option.isSome_some, if_true]
    have moves := SendView.Moves.writes (v := c.sendView) found isOpen grows covers
    exact ⟨⟨rfl, moves⟩, .refl _⟩
  · -- the stream is opened and written in one go
    simp only [unknown, Option.isSome_none, Bool.false_eq_true, if_false]
    refine ⟨⟨rfl, .trans (.opens (v := c.sendView) (c.initialPeerStreamDataLimit stream.streamId)
      unknown ofPeer) ?_⟩, .refl _⟩
    set opened : SendView := { c.sendView with
      streams := c.sendView.streams ++ [c.freshSendStream stream.streamId] }
    have found : Keyed.lookup SendStreamState.streamId stream.streamId opened.streams = some stream := by
      have missing : Keyed.lookup SendStreamState.streamId stream.streamId c.sendView.streams = none :=
        unknown
      rw [Keyed.lookup_append, missing, Option.none_or, ← fresh]
      simp [Keyed.lookup]
    have moves := SendView.Moves.writes found isOpen grows covers
    have added : Keyed.adjust SendStreamState.streamId stream.streamId
        (fun _ => { stream with nextOffset, finSent := fin }) opened.streams =
        c.sendStreams ++ [{ stream with nextOffset, finSent := fin }] :=
      Keyed.adjust_append_new unknown rfl
    rw [added] at moves
    exact moves

theorem putSendStream_sends (old new : SendStreamState) (found : c.findSendStream new.streamId = some old)
    (marked : ∀ t : SendPart, StreamMarked t old new) : Sends rule c (c.putSendStream new) := by
  refine ⟨⟨rfl, .adjust fun stream here t _ => ?_⟩, .refl _⟩
  have same : some old = some stream := found.symm.trans here
  cases same
  exact marked t

end Quicz
