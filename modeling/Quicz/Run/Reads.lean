import Quicz.Run.Streams

/-! Reads hand the application what the peer wrote, in order. The bytes a stream holds are pieces of
the peer's stream and the read offset counts what was handed over; only a read moves it. A read also
has to raise the limits and to queue the frames that say so, and it gives the bytes when there is
room for both. -/
namespace Quicz

open Chunks Proc Connection Keyed Call Option RecvPart

variable {streamId : Nat} {stream : RecvStreamState} {c : Connection} {n : Nat}

variable {rule : RecvRule} {side : ConnectionSide}

structure ReadMove (rule : RecvRule) (side : ConnectionSide) (old new : RecvStreamState) : Prop where
  key : new.streamId = old.streamId
  offset : rule.reads old.streamId ∨ new.readOffset = old.readOffset
  holds : ∀ f, (∀ frame, rule.stores frame → frame.streamId = old.streamId → frame.chunk.Agrees f) →
    Holds f old → Holds f new
  filled : byteCount new ≤ byteCount old ∨ Receivable side old.streamId

theorem ReadMove.of_same (key : new.streamId = old.streamId)
    (offset : new.readOffset = old.readOffset) (data : new.data = old.data)
    (pending : new.pending = old.pending) : ReadMove rule side old new := by
  refine ⟨key, Or.inr offset, fun f _ holds => ?_, Or.inl (by rw [byteCount, byteCount, data, pending])⟩
  rw [Holds, data, pending]
  exact holds

theorem ReadMove.refl (stream : RecvStreamState) : ReadMove rule side stream stream :=
  .of_same rfl rfl rfl rfl

structure Reshaped (rule : RecvRule) (r r' : RecvPart) : Prop where
  side : r'.side = r.side
  streams : ∃ moved new, r'.recvStreams = moved ++ new ∧ List.Forall₂ (ReadMove rule r.side) r.recvStreams moved ∧
    ∀ s ∈ new, s.data = [] ∧ s.pending = [] ∧ s.readOffset = 0

variable {r r' : RecvPart} {old new : RecvStreamState}

theorem Reshaped.of_same (side : r'.side = r.side) (streams : r'.recvStreams = r.recvStreams) : Reshaped rule r r' :=
  ⟨side, r.recvStreams, [], by rw [streams, List.append_nil],
    List.forall₂_same.mpr fun stream _ => .refl stream, nofun⟩

theorem Reshaped.of_put (side : r'.side = r.side)
    (streams : r'.recvStreams = (r.put new).recvStreams) (found : r.find new.streamId = some old)
    (moves : ReadMove rule r.side old new) : Reshaped rule r r' := by
  refine ⟨side, (r.put new).recvStreams, [], by rw [streams, List.append_nil], ?_, nofun⟩
  refine forall₂_adjust (fun stream => .refl stream) fun stream here => ?_
  cases found.symm.trans here
  exact moves

theorem storedStream_move {frame : StreamFrame} {segments : List (Chunk UInt8)}
    {stop : Nat} (ok : StreamOk stream) (key : stream.streamId = frame.streamId)
    (stopEq : endOffset frame.offset frame.data.length = some stop)
    (new : collectNewRecvStreamDataSegments stream frame.chunk = .ok segments)
    (may : rule.stores frame) (receives : Receivable side frame.streamId) :
    ReadMove rule side stream (storedStream stream frame.fin stop segments) := by
  obtain ⟨data, pending, finalSize, eq⟩ := storedStream_eq stream frame.fin stop segments
  refine ⟨by rw [eq], Or.inr (by rw [eq]), fun f pieces holds => ?_, Or.inr (key ▸ receives)⟩
  obtain ⟨segments', collected, agree⟩ := collectNewRecvStreamDataSegments_agrees ok.assembled holds
    (pieces frame may key.symm) (endOffset_some.mp stopEq).2
  cases new.symm.trans collected
  have stored := storeSegments_holds holds agree
  unfold storedStream
  split <;> exact stored

theorem RecvStep.reshapes (inv : RecvInv r) (step : RecvStep rule r r') : Reshaped rule r r' := by
  cases step with
  | opens streamId unknown =>
    refine ⟨rfl, r.recvStreams, _, rfl, List.forall₂_same.mpr fun stream _ => .refl stream, ?_⟩
    intro stream new
    rw [List.mem_singleton.mp new]
    exact ⟨rfl, rfl, rfl⟩
  | @stores stream frame stop segments found stopEq live credit sized closes new within may receives =>
    have key := (lookup_some found).1
    have move := storedStream_move (inv.ok found) key stopEq new may receives
    exact .of_put rfl rfl (by rw [move.key, key]; exact found) move
  | @drains stream drained before later here run =>
    obtain ⟨_, _, moved⟩ := drained_ok (inv.each stream (by simp [here])) run
    obtain ⟨eq, found⟩ := inv.drain_eq here moved.same
    have holds := moved.holds
    have count := moved.count
    rw [eq]
    obtain ⟨data, pending, rfl⟩ := moved.same
    exact .of_put rfl rfl found ⟨rfl, Or.inr rfl, fun f _ => holds f, Or.inl count.le⟩
  | @resets stream reset found =>
    have here := lookup_self found
    exact .of_put rfl rfl here (.of_same rfl rfl rfl rfl)
  | @reads stream n connectionLimit streamLimit found positive available delivers connection ofStream may =>
    exact .of_put rfl rfl found ⟨rfl, Or.inl may, fun f _ holds => holds, Or.inl le_rfl⟩
  | releases found =>
    rw [addStreamCredit_eq]
    exact .of_put rfl rfl found (.of_same rfl rfl rfl rfl)
  | observesData found | observesReset found | stops found | streamDataBlocked _ found =>
    exact .of_put rfl rfl found (.of_same rfl rfl rfl rfl)
  | dataBlocked | streamsBlockedBidi | streamsBlockedUni => exact .of_same rfl rfl

theorem Reshaped.origin (h : Reshaped rule r r') {s : RecvStreamState} (member : s ∈ r'.recvStreams) :
    (∃ old ∈ r.recvStreams, ReadMove rule r.side old s) ∨ (s.data = [] ∧ s.pending = []) := by
  obtain ⟨moved, new, streams, each, empty⟩ := h.streams
  rw [streams] at member
  rcases List.mem_append.mp member with old | added
  · exact .inl (related_old each old)
  · exact .inr ⟨(empty s added).1, (empty s added).2.1⟩

def RecvPart.readOffset (r : RecvPart) (streamId : Nat) : Nat :=
  ((r.find streamId).map RecvStreamState.readOffset).getD 0

theorem RecvPart.readOffset_of_find {r : RecvPart}
    (found : r.find streamId = some stream) : r.readOffset streamId = stream.readOffset := by
  rw [readOffset, found]
  rfl

theorem Reshaped.readOffset (h : Reshaped rule r r') (quiet : ¬ rule.reads streamId) :
    r'.readOffset streamId = r.readOffset streamId := by
  obtain ⟨moved, new, streams, each, empty⟩ := h.streams
  have keeps : ∀ x y, ReadMove rule r.side x y → y.streamId = x.streamId := fun _ _ move => move.key
  simp only [RecvPart.readOffset, RecvPart.find, streams, lookup_append]
  rcases lookup_forall₂ (k := streamId) keeps each with ⟨before, after⟩ | ⟨old, now, move, before, after⟩
  · rw [before, after, none_or]
    cases added : lookup RecvStreamState.streamId streamId new with
    | none => rfl
    | some stream => exact (empty stream (lookup_some added).2).2.2
  · rw [before, after, some_or]
    have key := (lookup_some before).1
    exact move.offset.resolve_left (key ▸ quiet)

theorem RecvSteps.reshaped {I : RecvPart → Prop} (keeps : ∀ a b, Reshaped rule a b → I a → I b)
    (steps : RecvSteps rule r r') (inv : RecvInv r) (start : I r) : I r' := by
  have kept : RecvInv r' ∧ I r' := by
    refine steps.keeps (I := fun x => RecvInv x ∧ I x) ?_ ⟨inv, start⟩
    rintro a b ⟨inv, here⟩ step
    exact ⟨(step.accounted inv).1, keeps a b (step.reshapes inv) here⟩
  exact kept.2

theorem RecvSteps.readOffset (steps : RecvSteps rule r r') (inv : RecvInv r)
    (quiet : ¬ rule.reads streamId) : r'.readOffset streamId = r.readOffset streamId :=
  steps.reshaped (I := fun x => x.readOffset streamId = r.readOffset streamId)
    (fun _ _ reshaped same => (reshaped.readOffset quiet).trans same) inv rfl

variable (script : Nat → Nat → UInt8)

def Pieces (r : RecvPart) : Prop :=
  ∀ s ∈ r.recvStreams, Holds (script s.streamId) s

/-- Frames that are pieces of the peer's streams may be stored, and everything may be read. -/
def RecvRule.pieces : RecvRule where
  stores frame := frame.chunk.Agrees (script frame.streamId)
  reads _ := True

theorem Pieces.reshaped {script : Nat → Nat → UInt8} (pieces : Pieces script r)
    (agree : ∀ frame, rule.stores frame → frame.chunk.Agrees (script frame.streamId)) (h : Reshaped rule r r') :
    Pieces script r' := by
  intro s member
  rcases h.origin member with ⟨before, known, move⟩ | ⟨data, pending⟩
  · rw [move.key]
    exact move.holds _ (fun frame may key => key ▸ agree frame may) (pieces before known)
  · rw [Holds, data, pending]
    exact ⟨rfl, nofun⟩

def HoldsReceivable (r : RecvPart) : Prop :=
  ∀ s ∈ r.recvStreams, 0 < byteCount s → Receivable r.side s.streamId

theorem HoldsReceivable.reshaped (holds : HoldsReceivable r) (h : Reshaped rule r r') : HoldsReceivable r' := by
  intro s member some
  rw [h.side]
  rcases h.origin member with ⟨before, known, move⟩ | ⟨data, pending⟩
  · rw [move.key]
    rcases move.filled with fewer | receives
    · exact holds before known (by omega)
    · exact receives
  · simp [byteCount, data, pending] at some

theorem find_put_isSome {r : RecvPart} (known : (r.find streamId).isSome = true)
    (new : RecvStreamState) : ((r.put new).find streamId).isSome = true := by
  obtain ⟨old, found⟩ := isSome_iff_exists.mp known
  by_cases same : streamId = new.streamId
  · subst same
    rw [find_put new known]
    rfl
  · rw [find, put, lookup_adjust_ne (fun _ _ => rfl) same]
    exact known

structure CreditedStream (stream stream' : RecvStreamState) (r : RecvPart) : Prop where
  key : stream'.streamId = stream.streamId
  offset : stream'.readOffset = stream.readOffset
  known : (r.find stream.streamId).isSome = true

variable {stream' : RecvStreamState}

theorem Credited.goesOn (credited : Credited r stream stream' r')
    (known : (r.find stream.streamId).isSome = true) : CreditedStream stream stream' r' := by
  rcases credited with ⟨rfl, rfl⟩ | ⟨-, -, rfl, rfl⟩
  · exact ⟨rfl, rfl, known⟩
  · exact ⟨rfl, rfl, find_put_isSome (by rw [addStreamCredit_eq]; exact known) _⟩

theorem queueReceiveFlowControlCredit_stream (found : c.findRecvStream stream.streamId = some stream) :
    wp (queueReceiveFlowControlCredit stream n) (fun stream' t => CreditedStream stream stream' t.recvPart)
      (fun _ t => t.recvPart = c.recvPart) c := by
  have known : (c.recvPart.find stream.streamId).isSome = true := by
    rw [show c.recvPart.find stream.streamId = some stream from found]
    rfl
  rcases Nat.eq_zero_or_pos n with rfl | positive
  · refine wp_mono (queueReceiveFlowControlCredit_zero .any found) ?_ fun _ _ h => h.1
    rintro stream' t ⟨_, key, offset, now⟩
    exact ⟨key, offset, by rw [← key, now]; rfl⟩
  · refine wp_mono (queueReceiveFlowControlCredit_spec found positive) ?_ fun _ _ h => h.1
    rintro stream' t ⟨-, connectionLimit, streamLimit, -, -, r, rfl, ⟨rfl, same⟩ | ⟨credited, -⟩⟩
    · exact ⟨rfl, rfl, by rw [same]; exact find_put_isSome known _⟩
    · have after := credited.goesOn (find_put_isSome known _)
      exact ⟨after.key, after.offset, after.known⟩

theorem queueClosedReceiveStreamCountCredit_stream (known : (c.recvPart.find stream.streamId).isSome = true) :
    wp (queueClosedReceiveStreamCountCredit stream)
      (fun stream' t => CreditedStream stream stream' t.recvPart) (fun _ t => t.recvPart = c.recvPart) c :=
  wp_mono (queueClosedReceiveStreamCountCredit_spec stream c) (fun _ _ h => h.1.goesOn known)
    fun _ _ same => same ▸ rfl

theorem CreditedStream.readOffset_put {r : RecvPart}
    (h : CreditedStream stream stream' r) (new : RecvStreamState) (key : new.streamId = stream'.streamId) :
    (r.put new).readOffset stream.streamId = new.readOffset := by
  have same : stream.streamId = new.streamId := (key.trans h.key).symm
  rw [same]
  exact readOffset_of_find (find_put new (same ▸ h.known))

theorem markReceiveDataReadIfComplete_readOffset (stream : RecvStreamState) :
    (markReceiveDataReadIfComplete stream).readOffset = stream.readOffset := by
  unfold markReceiveDataReadIfComplete
  split
  · rfl
  · split
    · rfl
    · split <;> rfl

/-- A read returns the bytes behind the read offset and moves the offset past them. -/
theorem recvOnStream_reads (streamId bufLen : Nat) (c : Connection) : wp (recvOnStream streamId bufLen)
      (fun bytes t =>
        t.recvPart.readOffset streamId = c.recvPart.readOffset streamId + (bytes.getD []).length ∧
          (bytes.getD [] ≠ [] → ∃ stream, c.findRecvStream streamId = some stream ∧
            bytes.getD [] = (stream.data.drop stream.readOffset).take (bytes.getD []).length))
      (fun _ t => t.recvPart.readOffset streamId = c.recvPart.readOffset streamId) c := by
  simp only [recvOnStream, wp_bind, wp_get, wp_failIf]
  refine ⟨fun _ => trivial, fun _ => ⟨fun _ => trivial, fun _ => ⟨fun _ => trivial, fun _ => ?_⟩⟩⟩
  cases known : c.findRecvStream streamId with
  | none => exact ⟨rfl, fun some => absurd rfl some⟩
  | some stream =>
    obtain rfl : stream.streamId = streamId := (lookup_some known).1
    have start : c.recvPart.readOffset stream.streamId = stream.readOffset :=
      readOffset_of_find known
    have length : ((stream.data.drop stream.readOffset).take
        (min bufLen (stream.data.drop stream.readOffset).length)).length =
        min bufLen (stream.data.drop stream.readOffset).length := by simp
    have credits : ∀ {n : Nat} {Q : RecvStreamState → Connection → Prop},
        (∀ stream' t, CreditedStream stream stream' t.recvPart → Q stream' t) →
        wp (queueReceiveFlowControlCredit stream n) Q
          (fun _ t => t.recvPart.readOffset stream.streamId = stream.readOffset) c := fun then_ =>
      wp_mono (queueReceiveFlowControlCredit_stream known) then_ fun _ t same => by rw [same, start]
    simp only [wp_ite, wp_bind, wp_modify, wp_pure, wp_throw, recvPart_putRecvStream, start]
    refine ⟨fun _ => ⟨fun _ => ?_, fun _ => ?_⟩, fun _ => ⟨fun _ => ?_, fun _ => ?_⟩⟩
    · refine credits fun stream' t credited => ?_
      refine ⟨?_, fun _ => ⟨stream, rfl, ?_⟩⟩
      · refine Eq.trans (credited.readOffset_put _ rfl) ?_
        rw [getD_some, length, credited.offset]
      · rw [getD_some, length]
    · refine wp_mono (queueClosedReceiveStreamCountCredit_stream ?_) (fun stream' t credited => ?_)
        fun _ t same => by rw [same, start]
      · rw [show c.recvPart.find stream.streamId = some stream from known]
        rfl
      · rw [credited.readOffset_put { stream' with resetReadObserved := true } rfl, credited.offset]
    · refine credits fun stream' t credited => ?_
      refine ⟨?_, fun some => absurd rfl some⟩
      rw [credited.readOffset_put _ (markReceiveDataReadIfComplete_streamId _),
        markReceiveDataReadIfComplete_readOffset, credited.offset]
      rfl
    · refine credits fun stream' t credited => ?_
      refine ⟨?_, fun _ => ⟨stream, rfl, ?_⟩⟩
      · refine Eq.trans (credited.readOffset_put _ (markReceiveDataReadIfComplete_streamId _)) ?_
        rw [markReceiveDataReadIfComplete_readOffset, getD_some, length, credited.offset]
      · rw [getD_some, length]

def dataLimitAfter (limit consumed received : Nat) (window : Option Nat) : Nat :=
  window.elim (limit + consumed) fun window => max (limit + consumed) (received + window)

theorem nextDataLimit_of_room {limit consumed received : Nat} {window : Option Nat}
    (room : dataLimitAfter limit consumed received window ≤ maxQuicVarint) :
    nextDataLimit limit consumed received window = .ok (dataLimitAfter limit consumed received window) := by
  have small : maxQuicVarint ≤ maxU64 := by decide
  cases window with
  | none =>
    rw [dataLimitAfter, elim_none] at room ⊢
    have sum : addU64 limit consumed = some (limit + consumed) := addU64_some.mpr ⟨rfl, by omega⟩
    simp only [nextDataLimit, sum, bind, Except.bind, if_neg (Nat.not_lt.mpr room)]
  | some window =>
    rw [dataLimitAfter, elim_some] at room ⊢
    have sum : addU64 limit consumed = some (limit + consumed) := addU64_some.mpr ⟨rfl, by omega⟩
    have target : addU64 received window = some (received + window) := addU64_some.mpr ⟨rfl, by omega⟩
    simp only [nextDataLimit, sum, target, bind, Except.bind, if_neg (Nat.not_lt.mpr room)]

theorem nextReceiveStreamDataLimit_of_room (ok : Assembled stream)
    (room : dataLimitAfter stream.maxData n (highestOffset stream) c.config.receiveStreamWindow ≤ maxQuicVarint) :
    c.nextReceiveStreamDataLimit stream n =
      .ok (dataLimitAfter stream.maxData n (highestOffset stream) c.config.receiveStreamWindow) := by
  have small : maxQuicVarint ≤ maxU64 := by decide
  have highest : highestReceivedStreamEndOffset stream = .ok (highestOffset stream) :=
    maxPendingEnd_of_bounded _ _ ok.bounded
  have next := nextDataLimit_of_room room
  unfold nextReceiveStreamDataLimit
  cases window : c.config.receiveStreamWindow with
  | none => rwa [window] at next
  | some window' =>
    rw [window] at next room
    rw [dataLimitAfter, elim_some] at room
    have sum : addU64 stream.maxData n = some (stream.maxData + n) := addU64_some.mpr ⟨rfl, by omega⟩
    simp only [sum, highest, next]

def Connection.Fits (c : Connection) (frame : PendingMaxFrame) : Prop :=
  ∃ len, maxFrameWireLen frame = .ok len ∧ len ≤ c.maxTxDatagramSize

def Connection.countFrame (c : Connection) (streamId : Nat) : PendingMaxFrame :=
  if isBidirectional streamId then .streamsBidi (c.recvMaxStreamsBidi + 1)
  else .streamsUni (c.recvMaxStreamsUni + 1)

/-- There is room to account for a read of n bytes: the raised limits can be represented, the frames
that tell them fit a datagram, and so does the one for a stream the read finishes. -/
structure Connection.ReadRoom (c : Connection) (stream : RecvStreamState) (n : Nat) : Prop where
  connection : dataLimitAfter c.recvMaxData n c.recvDataBytes c.config.receiveConnectionWindow ≤ maxQuicVarint
  ofStream : dataLimitAfter stream.maxData n (highestOffset stream) c.config.receiveStreamWindow ≤ maxQuicVarint
  maxData : c.Fits (.data (dataLimitAfter c.recvMaxData n c.recvDataBytes c.config.receiveConnectionWindow))
  maxStreamData : c.Fits (.streamData stream.streamId
    (dataLimitAfter stream.maxData n (highestOffset stream) c.config.receiveStreamWindow))
  count : ∀ size, stream.finalSize = some size → size ≤ stream.readOffset + n →
    stream.streamCountCreditReleased = false → isLocalInitiator c.side stream.streamId = false →
    c.Fits (c.countFrame stream.streamId)

theorem maxFrameWireLen_streams {count len : Nat}
    (encoded : maxFrameWireLen (.streamsBidi count) = .ok len ∨ maxFrameWireLen (.streamsUni count) = .ok len) :
    count ≤ maxStreamCount := by
  by_contra above
  have many : count > maxStreamCount := by omega
  rcases encoded with encoded | encoded <;>
  · simp only [maxFrameWireLen, validateStreamCountWireLen, if_pos many] at encoded
    cases encoded

/-- A count whose next frame fits a datagram is raised. -/
theorem Connection.Fits.raises {frame : Nat → PendingMaxFrame} {count : Nat} {P : Nat → Prop}
    (fits : c.Fits (frame (count + 1))) (few : count + 1 ≤ maxStreamCount) (raised : P (count + 1)) :
    (∀ limit, addU64 count 1 = some limit → (∀ len, maxFrameWireLen (frame limit) = .ok len →
        (len > c.maxTxDatagramSize → False) ∧ (¬ len > c.maxTxDatagramSize → P limit)) ∧
      ∀ e, maxFrameWireLen (frame limit) = .error e → False) ∧ (addU64 count 1 = none → False) := by
  have small : maxStreamCount ≤ maxU64 := by decide
  obtain ⟨len, encoded, short⟩ := fits
  rw [addU64_some.mpr ⟨rfl, by omega⟩]
  refine ⟨fun limit next => ?_, nofun⟩
  cases next
  rw [encoded]
  refine ⟨fun _ known => ?_, nofun⟩
  cases known
  exact ⟨fun long => by omega, fun _ => raised⟩

theorem queueClosedReceiveStreamCountCredit_returns
    (room : stream.streamCountCreditReleased = false → isLocalInitiator c.side stream.streamId = false →
      c.Fits (c.countFrame stream.streamId)) :
    wp (queueClosedReceiveStreamCountCredit stream) (fun _ _ => True) (fun _ _ => False) c := by
  simp only [queueClosedReceiveStreamCountCredit, wp_bind, wp_get, wp_ite, wp_pure, wp_orThrow,
    wp_liftExcept, wp_failIf, wp_modify]
  refine ⟨fun _ => trivial, fun unreleased => ⟨fun _ => trivial, fun peer => ?_⟩⟩
  have fits := room (by simpa using unreleased) (by simpa using peer)
  have queued : ∀ {queue : Nat → ConnM Unit} {n : Nat}, QueuesMax queue (fun n => maxStreamCount < n) →
      n ≤ maxStreamCount → wp (queue n) (fun _ _ => True) (fun _ _ => False) c := fun queues few =>
    wp_mono (queues _ c) (fun _ _ _ => trivial) fun _ _ above => absurd above.2 (Nat.not_lt.mpr few)
  unfold countFrame at fits
  split at fits
  · rename_i bidi
    have few := maxFrameWireLen_streams (Or.inl fits.choose_spec.1)
    exact ⟨fun _ => fits.raises few (queued queueMaxStreamsBidiFrame_queues few), fun other => absurd bidi other⟩
  · rename_i uni
    have few := maxFrameWireLen_streams (Or.inr fits.choose_spec.1)
    exact ⟨fun other => absurd other uni, fun _ => fits.raises few (queued queueMaxStreamsUniFrame_queues few)⟩

theorem queueReceiveStreamCountCredit_returns (bounded : stream.readOffset + n ≤ maxU64)
    (room : ∀ size, stream.finalSize = some size → size ≤ stream.readOffset + n →
      stream.streamCountCreditReleased = false → isLocalInitiator c.side stream.streamId = false →
      c.Fits (c.countFrame stream.streamId)) :
    wp (queueReceiveStreamCountCredit stream n) (fun _ _ => True) (fun _ _ => False) c := by
  unfold queueReceiveStreamCountCredit
  split
  · trivial
  · split
    · trivial
    · split
      · trivial
      · rename_i size sized
        split
        · trivial
        · have sum : addU64 stream.readOffset n = some (stream.readOffset + n) := addU64_some.mpr ⟨rfl, bounded⟩
          simp only [sum, wp_bind, wp_orThrow, wp_ite, wp_pure]
          refine ⟨fun total same => ⟨fun _ => trivial, fun finished => ?_⟩, by simp⟩
          cases same
          exact queueClosedReceiveStreamCountCredit_returns (room size sized (by omega))

theorem queueReceiveFlowControlCredit_returns (ok : Assembled stream) (positive : 0 < n)
    (bounded : stream.readOffset + n ≤ maxU64) (room : c.ReadRoom stream n) :
    wp (queueReceiveFlowControlCredit stream n) (fun _ _ => True) (fun _ _ => False) c := by
  obtain ⟨dataLen, dataEncoded, dataShort⟩ := room.maxData
  obtain ⟨streamLen, streamEncoded, streamShort⟩ := room.maxStreamData
  have connection := nextDataLimit_of_room room.connection
  have ofStream := nextReceiveStreamDataLimit_of_room ok room.ofStream
  simp only [queueReceiveFlowControlCredit, wp_ite, wp_bind, wp_get, wp_onError, wp_liftExcept, wp_failIf,
    wp_modify, nextReceiveConnectionDataLimit, connection, ofStream]
  refine ⟨fun zero => by omega, fun _ => ⟨fun connectionLimit same => ?_, by simp⟩⟩
  cases same
  refine ⟨fun streamLimit same => ?_, by simp⟩
  cases same
  rw [dataEncoded, streamEncoded]
  refine ⟨fun len same => ?_, by simp⟩
  cases same
  refine ⟨fun long => by omega, fun _ => ⟨fun len same => ?_, by simp⟩⟩
  cases same
  refine ⟨fun long => by omega, fun _ => ?_⟩
  refine wp_mono (queueMaxDataFrame_queues _ c) ?_ (fun _ _ h => h.2.elim)
  rintro _ t ⟨frames, rfl⟩
  refine wp_mono (queueMaxStreamDataFrame_queues stream.streamId _ _) ?_ (fun _ _ h => h.2.elim)
  rintro _ t ⟨frames', rfl⟩
  exact wp_mono (queueReceiveStreamCountCredit_returns bounded room.count) (fun _ _ h => h)

/-- A read of a stream with unread bytes returns as many as the buffer takes. -/
theorem recvOnStream_progress {streamId bufLen : Nat} (inv : RecvInv c.recvPart)
    (holds : HoldsReceivable c.recvPart) (active : c.isClosingOrClosed = false)
    (found : c.findRecvStream streamId = some stream) (live : stream.resetErrorCode = none)
    (unread : stream.readOffset < stream.data.length) (buffer : 0 < bufLen)
    (room : c.ReadRoom stream (min bufLen (stream.data.length - stream.readOffset))) :
    wp (recvOnStream streamId bufLen) (fun bytes _ => bytes = some ((stream.data.drop stream.readOffset).take
        (min bufLen (stream.data.length - stream.readOffset)))) (fun _ _ => False) c := by
  have small : maxQuicVarint ≤ maxU64 := by decide
  have ok := inv.ok found
  have short := ok.assembled.short
  obtain ⟨key, member⟩ := lookup_some found
  have receives := holds stream member (by unfold byteCount; omega)
  rw [key] at receives
  simp only [recvOnStream, wp_bind, wp_get, wp_failIf, active]
  refine ⟨by simp, fun _ => ⟨fun large => by have := receives.1; omega, fun _ => ⟨fun own => ?_, fun _ => ?_⟩⟩⟩
  · rw [show (!isBidirectional streamId && isLocalInitiator c.side streamId) = false from receives.2] at own
    cases own
  · simp only [found, wp_ite, wp_bind, wp_modify, wp_pure, live, List.length_drop]
    refine ⟨by simp, fun _ => ⟨fun empty => by omega, fun _ => ?_⟩⟩
    exact wp_mono (queueReceiveFlowControlCredit_returns ok.assembled (by omega) (by omega) room)
      (fun _ _ _ => trivial)

def Call.bytesRead (streamId : Nat) (c : Connection) : Call → Bytes
  | .recvOnStream source bufLen =>
    if source = streamId then
      match Quicz.recvOnStream source bufLen c with
      | .ok bytes _ => bytes.getD []
      | .error _ _ => []
    else []
  | _ => []

def readBy (streamId : Nat) (c : Connection) : List Call → Bytes
  | [] => []
  | call :: rest => call.bytesRead streamId c ++ readBy streamId (call.next c) rest

variable {script : Nat → Nat → UInt8} {call : Call}

theorem Call.readsFrom_some (reads : call.readsFrom = some streamId) :
    ∃ bufLen, call = .recvOnStream streamId bufLen := by
  unfold readsFrom at reads
  split at reads
  · cases reads
    exact ⟨_, rfl⟩
  · cases reads

theorem Call.bytesRead_other (other : call.readsFrom ≠ some streamId) : call.bytesRead streamId c = [] := by
  unfold bytesRead
  split
  · exact if_neg fun same => other (congrArg some same)
  · rfl

def LedgerRule.reading (call : Call) : LedgerRule :=
  { LedgerRule.any with recv := ⟨fun _ => True, fun streamId => call.readsFrom = some streamId⟩ }

def LedgerRule.pieces (script : Nat → Nat → UInt8) : LedgerRule :=
  { LedgerRule.any with recv := .pieces script }

theorem Call.readOffset_other (inv : RecvInv c.recvPart) (other : call.readsFrom ≠ some streamId) :
    (call.next c).recvPart.readOffset streamId = c.recvPart.readOffset streamId := by
  have meets : call.Meets (.reading call) c :=
    { meets_any c call with
      stored := call.storedBy_all fun _ => trivial
      read := fun _ same => same }
  exact (evolves trivial (fun _ _ => trivial) meets).recv.readOffset inv other

theorem Pieces.read {r : RecvPart} (pieces : Pieces script r)
    (member : stream ∈ r.recvStreams) (available : n ≤ (stream.data.drop stream.readOffset).length) :
    (stream.data.drop stream.readOffset).take n =
      slice (script stream.streamId) stream.readOffset (stream.readOffset + n) := by
  rw [List.length_drop] at available
  rcases Nat.eq_zero_or_pos n with rfl | positive
  · simp
  have contiguous : (⟨0, stream.data⟩ : Chunk UInt8).Agrees (script stream.streamId) := by
    simpa [Chunk.Agrees, Chunk.stop] using (pieces stream member).1
  have window := contiguous.window (a := stream.readOffset) (b := stream.readOffset + n) (Nat.zero_le _)
    (Nat.le_add_right _ _) (by simp only [Chunk.stop]; omega)
  simpa only [Chunk.window, Nat.sub_zero, Nat.add_sub_cancel_left] using window

/-- A call hands over the next bytes of the peer's stream, and the read offset counts them. -/
theorem Call.reads_next (inv : RecvInv c.recvPart) (pieces : Pieces script c.recvPart) (call : Call)
    (streamId : Nat) : c.recvPart.readOffset streamId ≤ (call.next c).recvPart.readOffset streamId ∧
      call.bytesRead streamId c =
        slice (script streamId) (c.recvPart.readOffset streamId) ((call.next c).recvPart.readOffset streamId) := by
  by_cases reads : call.readsFrom = some streamId
  · obtain ⟨bufLen, rfl⟩ := readsFrom_some reads
    have result := recvOnStream_reads streamId bufLen c
    simp only [wp] at result
    simp only [next, after, perform, quietly, bytesRead, if_true, bind, EStateM.bind]
    cases run : Quicz.recvOnStream streamId bufLen c with
    | error e t =>
      simp only [run] at result
      simp only [result, le_refl, slice_self, and_self]
    | ok bytes t =>
      simp only [run] at result
      obtain ⟨moved, handed⟩ := result
      simp only [pure, EStateM.pure, moved]
      refine ⟨Nat.le_add_right _ _, ?_⟩
      by_cases nothing : bytes.getD [] = []
      · simp [nothing]
      · obtain ⟨stream, found, window⟩ := handed nothing
        obtain ⟨key, member⟩ := lookup_some found
        rw [readOffset_of_find (show c.recvPart.find streamId = some stream from found), ← key, ← pieces.read member, ← window]
        rw [window]
        exact List.length_take_le' _ _
  · rw [readOffset_other inv reads, bytesRead_other reads, slice_self]
    exact ⟨le_rfl, rfl⟩

theorem Call.pieces (inv : RecvInv c.recvPart) (pieces : Pieces script c.recvPart)
    (stored : call.StoredBy (.pieces script)) : Pieces script (call.next c).recvPart := by
  have meets : call.Meets (.pieces script) c :=
    { meets_any c call with stored := stored, read := fun _ _ => trivial }
  exact (evolves trivial (fun _ _ => trivial) meets).recv.reshaped (I := Pieces script)
    (fun _ _ reshaped before => before.reshaped (fun _ agrees => agrees) reshaped) inv pieces

theorem Call.recvInv (inv : RecvInv c.recvPart) (call : Call) : RecvInv (call.next c).recvPart :=
  ((evolves trivial (fun _ _ => trivial) (meets_any c call)).recv.accounted inv).1

theorem readBy_eq (streamId : Nat) {calls : List Call} (stored : ∀ call ∈ calls, call.StoredBy (.pieces script))
    (inv : RecvInv c.recvPart) (pieces : Pieces script c.recvPart) :
    c.recvPart.readOffset streamId ≤ (run c calls).recvPart.readOffset streamId ∧
      readBy streamId c calls = slice (script streamId) (c.recvPart.readOffset streamId)
        ((run c calls).recvPart.readOffset streamId) := by
  induction calls generalizing c with
  | nil => exact ⟨le_rfl, (slice_self _ _).symm⟩
  | cons call rest ih =>
    obtain ⟨first, others⟩ := List.forall_mem_cons.mp stored
    obtain ⟨grows, head⟩ := reads_next inv pieces call streamId
    obtain ⟨further, tail⟩ := ih others (Call.recvInv inv call) (Call.pieces inv pieces first)
    exact ⟨grows.trans further, by rw [readBy, head, tail, slice_append _ grows further]; rfl⟩

theorem Reachable.holdsReceivable (reached : Reachable c) : HoldsReceivable c.recvPart := by
  obtain ⟨side, config, -, evolved⟩ := reached.evolved
  exact evolved.recv.reshaped (I := HoldsReceivable) (fun _ _ reshaped before => before.reshaped reshaped)
    (fresh_recvInv side config) nofun

/-- Reads make progress while there is room to account for them, and together they hand over a
part of the peer's stream that starts at its first byte. -/
theorem reads_make_progress {side : ConnectionSide} {config : Config} {start : Connection} (calls : List Call)
    (made : Connection.init side config = .ok start) :
    (∀ streamId bufLen stream, (run start calls).isClosingOrClosed = false →
      (run start calls).findRecvStream streamId = some stream → stream.resetErrorCode = none →
      stream.readOffset < stream.data.length → 0 < bufLen →
      (run start calls).ReadRoom stream (min bufLen (stream.data.length - stream.readOffset)) →
      ∃ after, recvOnStream streamId bufLen (run start calls) = .ok (some ((stream.data.drop stream.readOffset).take
          (min bufLen (stream.data.length - stream.readOffset)))) after) ∧
    ∀ script, (∀ call ∈ calls, call.StoredBy (.pieces script)) → ∀ streamId, readBy streamId start calls =
        slice (script streamId) 0 ((run start calls).recvPart.readOffset streamId) := by
  have reached : Reachable (run start calls) := ⟨side, config, start, calls, made, throughout_true _ _, rfl⟩
  constructor
  · intro streamId bufLen stream active found live unread buffer room
    obtain ⟨bytes, after, ran, rfl⟩ :=
      wp_exists (recvOnStream_progress reached.recvInv reached.holdsReceivable active found live unread buffer room)
    exact ⟨after, ran⟩
  · intro script stored streamId
    obtain ⟨-, rfl⟩ := init_ok made
    exact (readBy_eq streamId stored (fresh_recvInv side config) nofun).2

def lastByte : ReceivedPayload :=
  { wire := [⟨0x0b, .stream { streamId := 0, offset := 0, data := [7], fin := true }⟩], len := 5 }

theorem reads_make_progress_byte :
    let arrives : Call := .processDatagramForPacketType .oneRtt 0 lastByte false
    (∃ after, recvOnStream 0 10 (run (.fresh .server {}) [arrives]) = .ok (some [7]) after) ∧
      readBy 0 (.fresh .server {}) [arrives, .recvOnStream 0 10] = slice (fun _ => 7) 0 1 := by
  intro arrives
  have stored : ∀ call ∈ [arrives, .recvOnStream 0 10], call.StoredBy (.pieces fun _ _ => 7) := by
    refine List.forall_mem_cons.mpr ⟨?_, List.forall_mem_singleton.mpr trivial⟩
    intro frame mem
    obtain rfl : frame = { streamId := 0, offset := 0, data := [7], fin := true } := by
      simpa [lastByte, ReceivedPayload.frames] using mem
    rfl
  have room : (run (.fresh .server {}) [arrives]).ReadRoom
      { streamId := 0, maxData := 65536, data := [7], finalSize := some 1 } 1 :=
    ⟨by decide, by decide, ⟨5, rfl, by decide⟩, ⟨6, rfl, by decide⟩, fun _ _ _ _ _ => ⟨3, rfl, by decide⟩⟩
  have progress := (reads_make_progress [arrives] (init_default .server)).1 0 10 _ rfl rfl rfl (by decide) (by decide) room
  have inOrder := (reads_make_progress [arrives, .recvOnStream 0 10] (init_default .server)).2 _ stored 0
  exact ⟨progress, inOrder⟩

/-- A connection that is closing refuses the read, and so does one whose limit is already at the
largest value, although both hold an unread byte. -/
theorem read_refused :
    let arrives : Call := .processDatagramForPacketType .oneRtt 0 lastByte false
    let closing := run (.fresh .server {}) [arrives, .closeConnection 0 0 []]
    let full := run (.fresh .server { initialMaxData := maxQuicVarint }) [arrives]
    (Reachable closing ∧ (closing.findRecvStream 0).map (·.data) = some [7] ∧
      (∃ t, recvOnStream 0 10 closing = .error .connectionClosed t)) ∧
    (Reachable full ∧ (full.findRecvStream 0).map (·.data) = some [7] ∧
      (∃ t, recvOnStream 0 10 full = .error .internal t)) :=
  ⟨⟨⟨.server, {}, _, _, rfl, throughout_true _ _, rfl⟩, rfl, _, rfl⟩,
    ⟨.server, { initialMaxData := maxQuicVarint }, _, _, rfl, throughout_true _ _, rfl⟩, rfl, _, rfl⟩

end Quicz
