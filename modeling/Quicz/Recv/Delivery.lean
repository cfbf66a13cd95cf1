import Quicz.Recv.Accounting

/-! Reassembly of STREAM data. The peer's streams are a script: the bytes of every stream,
and its length once it ends. Frames that carry pieces of the script, within the limits of
the receiver, are delivered in batches, each batch followed by the drain. The state is
then a function of the set of delivered frames. -/
namespace Quicz

open Chunks Proc List Connection Option

variable {script : Script}

structure Script where
  bytes : Nat → Nat → UInt8
  length : Nat → Option Nat

structure Deliverable (script : Script) (c : Connection) (frame : StreamFrame) : Prop where
  agrees : frame.chunk.Agrees (script.bytes frame.streamId)
  identifier : frame.streamId ≤ maxQuicVarint
  count : c.validateIncomingStreamCount frame.streamId = .ok ()
  bounded : frame.chunk.stop ≤ maxQuicVarint
  credit : frame.chunk.stop ≤ c.recvMaxStreamData
  sized : ∀ n, script.length frame.streamId = some n → frame.chunk.stop ≤ n
  ends : frame.fin = true → script.length frame.streamId = some frame.chunk.stop

structure FreshReceiver (c : Connection) : Prop where
  streams : c.recvStreams = []
  bytes : c.recvDataBytes = 0
  limit : c.recvMaxData ≤ maxQuicVarint

def ranges (streamId : Nat) : List StreamFrame → Finset Nat
  | [] => ∅
  | frame :: rest =>
    if frame.streamId = streamId then frame.chunk.span ∪ ranges streamId rest else ranges streamId rest

def cells : List StreamFrame → Finset (Nat × Nat)
  | [] => ∅
  | frame :: rest => frame.chunk.span.image (Prod.mk frame.streamId) ∪ cells rest

variable {frames : List StreamFrame} {streamId i : Nat}

theorem mem_ranges :
    i ∈ ranges streamId frames ↔ ∃ frame ∈ frames, frame.streamId = streamId ∧ i ∈ frame.chunk.span := by
  induction frames with
  | nil => simp [ranges]
  | cons frame rest ih =>
    unfold ranges
    split
    · simp_all
    · simp_all

theorem mem_cells : (streamId, i) ∈ cells frames ↔ i ∈ ranges streamId frames := by
  induction frames with
  | nil => simp [cells, ranges]
  | cons frame rest ih =>
    simp only [cells, ranges, Finset.mem_union, Finset.mem_image, Prod.mk.injEq, ih]
    split
    · simp_all
    · simp_all

theorem cells_subset {frames more : List StreamFrame} (sub : ∀ frame ∈ frames, frame ∈ more) :
    cells frames ⊆ cells more := by
  rintro ⟨streamId, i⟩ h
  rw [mem_cells, mem_ranges] at h ⊢
  obtain ⟨frame, member, rest⟩ := h
  exact ⟨frame, sub frame member, rest⟩

theorem card_cells_cons (frame : StreamFrame) (frames : List StreamFrame) : (cells (frame :: frames)).card =
      (cells frames).card + (frame.chunk.span \ ranges frame.streamId frames).card := by
  have disjoint : cells (frame :: frames) =
      cells frames ∪ (frame.chunk.span \ ranges frame.streamId frames).image (Prod.mk frame.streamId) := by
    ext ⟨streamId, i⟩
    by_cases same : streamId = frame.streamId
    · subst same
      simp [cells, mem_cells]
      tauto
    · have other : frame.streamId ≠ streamId := fun h => same h.symm
      simp [cells, mem_cells, other]
  rw [disjoint, Finset.card_union_of_disjoint, Finset.card_image_of_injective]
  · exact fun a b h => (Prod.mk.inj h).2
  · rw [Finset.disjoint_left]
    rintro ⟨streamId, i⟩ old new
    obtain ⟨j, hj, eq⟩ := Finset.mem_image.mp new
    cases eq
    exact (Finset.mem_sdiff.mp hj).2 (mem_cells.mp old)

/- One stream after the frames in `seen`. -/
structure StreamReceived (script : Script) (c₀ : Connection) (seen : List StreamFrame) (streamId : Nat)
    (stream : RecvStreamState) : Prop where
  held : received stream = ranges streamId seen
  holds : Holds (script.bytes streamId) stream
  live : stream.resetErrorCode = none
  limit : stream.maxData = c₀.recvMaxStreamData
  ended : ∀ n, stream.finalSize = some n ↔
    ∃ frame ∈ seen, frame.streamId = streamId ∧ frame.fin = true ∧ frame.chunk.stop = n

structure Received (script : Script) (c₀ : Connection) (seen : List StreamFrame) (c : Connection) : Prop where
  rest : c = { c₀ with recvStreams := c.recvStreams, recvDataBytes := c.recvDataBytes }
  inv : RecvInv c.recvPart
  counted : c.recvDataBytes = (cells seen).card
  stream : ∀ streamId, StreamReceived script c₀ seen streamId (c.recvStreamOrFresh streamId)

theorem Opened.recvStreamOrFresh {c t : Connection} (opened : Opened c t)
    (streamId : Nat) : t.recvStreamOrFresh streamId = c.recvStreamOrFresh streamId := by
  have fresh : t.freshRecvStream = c.freshRecvStream := by rw [opened.rest]; rfl
  unfold Connection.recvStreamOrFresh
  rw [fresh]
  cases known : c.findRecvStream streamId with
  | some stream => rw [opened.find_old known]
  | none =>
    cases later : t.findRecvStream streamId with
    | none => rfl
    | some stream => exact opened.find_new known later

theorem recvStreamOrFresh_put {c : Connection} {old new : RecvStreamState}
    (found : c.findRecvStream new.streamId = some old) (bytes streamId : Nat) :
    recvStreamOrFresh { c.putRecvStream new with recvDataBytes := bytes } streamId =
      if streamId = new.streamId then new else c.recvStreamOrFresh streamId := by
  simp only [recvStreamOrFresh, findRecvStream, putRecvStream] at found ⊢
  split
  · rename_i same
    subst same
    rw [Keyed.lookup_adjust_self fun _ _ => rfl, found]
    rfl
  · rename_i other
    rw [Keyed.lookup_adjust_ne (fun _ _ => rfl) other]
    rfl

theorem recvStreamOrFresh_ok {c : Connection} (inv : RecvInv c.recvPart) (streamId : Nat) :
    StreamOk (c.recvStreamOrFresh streamId) := by
  unfold recvStreamOrFresh
  cases known : c.findRecvStream streamId with
  | some stream => exact inv.ok known
  | none => exact freshStream_ok streamId c.recvMaxStreamData

variable {stream : RecvStreamState}

theorem StreamReceived.stored {c₀ : Connection} {seen : List StreamFrame}
    {frame : StreamFrame} {segments : List (Chunk UInt8)}
    (h : StreamReceived script c₀ seen frame.streamId stream) (ok : StreamOk stream)
    (each : ∀ g ∈ frame :: seen, Deliverable script c₀ g)
    (new : collectNewRecvStreamDataSegments stream frame.chunk = .ok segments)
    (pieces : ∀ s ∈ segments, s.Agrees (script.bytes frame.streamId)) :
    StreamReceived script c₀ (frame :: seen) frame.streamId
      (storedStream stream frame.fin frame.chunk.stop segments) := by
  have here := each frame mem_cons_self
  obtain ⟨_, _, grown, _⟩ := storeNew_spec ok.assembled frame.chunk here.bounded new
  have holds := storeSegments_holds h.holds pieces
  obtain ⟨data, pending, same⟩ := storeSegments_same stream segments
  have ended : ∀ n, (storedStream stream frame.fin frame.chunk.stop segments).finalSize = some n ↔
      ∃ g ∈ frame :: seen, g.streamId = frame.streamId ∧ g.fin = true ∧ g.chunk.stop = n := by
    intro n
    cases fin : frame.fin with
    | false =>
      have size : (storedStream stream false frame.chunk.stop segments).finalSize = stream.finalSize := by
        simp [storedStream, same]
      rw [size, h.ended n]
      simp [fin]
    | true =>
      have size : (storedStream stream true frame.chunk.stop segments).finalSize =
          some frame.chunk.stop := by simp [storedStream]
      rw [size]
      constructor
      · rintro ⟨⟩
        exact ⟨frame, mem_cons_self, rfl, fin, rfl⟩
      · rintro ⟨g, member, key, fin', rfl⟩
        have both := (each g member).ends fin'
        rw [key, here.ends fin] at both
        exact both
  refine ⟨?_, ?_, ?_, ?_, ended⟩
  · have shape : received (storedStream stream frame.fin frame.chunk.stop segments) =
        received (segments.foldl storeSegment stream) := by
      unfold storedStream
      cases frame.fin <;> rfl
    rw [shape, grown, h.held, ranges, if_pos rfl, Finset.union_comm]
  · unfold storedStream
    cases frame.fin <;> exact holds
  · have := h.live
    cases frame.fin <;> simp [storedStream, same, this]
  · have := h.limit
    cases frame.fin <;> simp [storedStream, same, this]

theorem StreamReceived.other {c₀ : Connection} {seen : List StreamFrame} {frame : StreamFrame} {streamId : Nat}
    (h : StreamReceived script c₀ seen streamId stream) (other : frame.streamId ≠ streamId) :
    StreamReceived script c₀ (frame :: seen) streamId stream := by
  refine ⟨?_, h.holds, h.live, h.limit, fun n => ?_⟩
  · rw [h.held, ranges, if_neg other]
  · rw [h.ended n]
    simp [other]

variable {c₀ : Connection}

/- The state after a frame, apart from the invariant, which the receive machine keeps. -/
structure Extends (script : Script) (c₀ : Connection) (seen : List StreamFrame) (t : Connection) : Prop where
  rest : t = { c₀ with recvStreams := t.recvStreams, recvDataBytes := t.recvDataBytes }
  counted : t.recvDataBytes = (cells seen).card
  stream : ∀ streamId, StreamReceived script c₀ seen streamId (t.recvStreamOrFresh streamId)

variable {seen : List StreamFrame} {c : Connection} {frame : StreamFrame}

theorem storeStreamFrame_extends (h : Received script c₀ seen c)
    (each : ∀ g ∈ frame :: seen, Deliverable script c₀ g) (room : (cells (frame :: seen)).card ≤ c₀.recvMaxData)
    (limit : c₀.recvMaxData ≤ maxQuicVarint) : wp (storeStreamFrame frame frame.chunk.stop)
      (fun _ t => Extends script c₀ (frame :: seen) t) (fun _ _ => False) c := by
  have here := each frame mem_cons_self
  have ok := recvStreamOrFresh_ok h.inv frame.streamId
  have old := h.stream frame.streamId
  obtain ⟨segments, new, pieces⟩ :=
    collectNewRecvStreamDataSegments_agrees ok.assembled old.holds here.agrees here.bounded
  obtain ⟨_, _, _, added⟩ := storeNew_spec ok.assembled frame.chunk here.bounded new
  have total : c.recvDataBytes + size segments = (cells (frame :: seen)).card := by
    rw [card_cells_cons, h.counted, added, old.held]
  simp only [storeStreamFrame, wp_bind, wp_liftExcept, wp_get, wp_orThrow, wp_failIf, wp_set]
  refine wp_mono (ensureRecvStreamState_spec frame.streamId c) ?_
  rintro stream t ⟨opened, found, _⟩
  have same : stream = c.recvStreamOrFresh frame.streamId := by
    rw [← opened.recvStreamOrFresh, recvStreamOrFresh, found, getD_some]
  have bytes : t.recvDataBytes = c.recvDataBytes := by rw [opened.rest]
  have most : t.recvMaxData = c₀.recvMaxData := by rw [opened.rest, h.rest]
  have whole : t = { c₀ with recvStreams := t.recvStreams, recvDataBytes := t.recvDataBytes } := by
    conv_lhs => rw [opened.rest, h.rest]
    rw [bytes]
  subst same
  refine ⟨fun segments' new' => ?_, fun e failed => by rw [new] at failed; cases failed⟩
  cases new.symm.trans new'
  refine ⟨fun n sum => ⟨fun exceeds => ?_, fun _ => ?_⟩, fun exceeds => ?_⟩
  · have := (endOffset_some.mp sum).1
    omega
  · obtain ⟨rfl, _⟩ := endOffset_some.mp sum
    have stored := old.stored ok each new pieces
    have key : (storedStream (c.recvStreamOrFresh frame.streamId) frame.fin frame.chunk.stop
        segments).streamId = frame.streamId := by
      obtain ⟨data, pending, finalSize, eq⟩ := storedStream_eq (c.recvStreamOrFresh frame.streamId) frame.fin
        frame.chunk.stop segments
      rw [eq]
      exact (Keyed.lookup_some found).1
    refine ⟨?_, ?_, fun streamId => ?_⟩
    · rw [whole]
      rfl
    · exact (congrArg (· + size segments) bytes).trans total
    · have eq := recvStreamOrFresh_put (show t.findRecvStream (storedStream
        (c.recvStreamOrFresh frame.streamId) frame.fin frame.chunk.stop segments).streamId = _ from
        key ▸ found) (t.recvDataBytes + size segments) streamId
      refine eq ▸ ?_
      split
      · rename_i mine
        rw [mine, key]
        exact stored
      · rename_i other
        rw [opened.recvStreamOrFresh]
        exact (h.stream streamId).other fun same => other (by rw [key, same])
  · simp only [endOffset, ite_eq_right_iff, reduceCtorEq, imp_false] at exceeds
    omega

/-- A frame of the script passes the checks, unless the stream is complete already. -/
theorem acceptsStreamFrame_deliverable
    (h : StreamReceived script c₀ seen frame.streamId stream) (ok : StreamOk stream)
    (each : ∀ g ∈ frame :: seen, Deliverable script c₀ g) :
    acceptsStreamFrame stream frame frame.chunk.stop = .ok true ∨
      acceptsStreamFrame stream frame frame.chunk.stop = .ok false ∧
        frame.chunk.span ⊆ received stream ∧ stream.finalSize ≠ none := by
  have here := each frame mem_cons_self
  have live : stream.resetErrorCode.isSome = false := by rw [h.live]; rfl
  have conflict := streamFrameHasConflictingOverlap_agrees ok.assembled h.holds here.agrees here.bounded
  cases size : stream.finalSize with
  | some n =>
    obtain ⟨g, member, key, fin, rfl⟩ := (h.ended n).mp size
    have length : script.length frame.streamId = some g.chunk.stop := by
      rw [← key]
      exact (each g (mem_cons_of_mem _ member)).ends fin
    have below := here.sized _ length
    have same : ¬ (frame.fin = true ∧ frame.chunk.stop ≠ g.chunk.stop) := by
      rintro ⟨ends, differ⟩
      exact differ (some.inj ((here.ends ends).symm.trans length))
    simp only [acceptsStreamFrame, size, if_neg (Nat.not_lt.mpr below), if_neg same, conflict, live]
    split
    · rename_i complete
      refine Or.inr ⟨rfl, fun i hi => mem_received.mpr (Or.inl ?_), nofun⟩
      have := (Chunk.mem_span.mp hi).2
      omega
    · exact Or.inl rfl
  | none =>
    have highest : highestReceivedStreamEndOffset stream = .ok (highestOffset stream) :=
      maxPendingEnd_of_bounded _ _ ok.assembled.bounded
    simp only [acceptsStreamFrame, size, live, Bool.false_eq_true, if_false, highest]
    split
    · rename_i fin
      refine Or.inl (if_neg (Nat.not_lt.mpr ?_))
      rw [highestOffset_le_iff ok.assembled, h.held]
      intro i hi
      obtain ⟨g, member, key, inside⟩ := mem_ranges.mp hi
      have below := (each g (mem_cons_of_mem _ member)).sized frame.chunk.stop
        (by rw [key]; exact here.ends fin)
      have := (Chunk.mem_span.mp inside).2
      omega
    · exact Or.inl rfl

theorem Received.ignored (h : Received script c₀ seen c) (each : ∀ g ∈ frame :: seen, Deliverable script c₀ g)
    (inside : frame.chunk.span ⊆ received (c.recvStreamOrFresh frame.streamId))
    (sized : (c.recvStreamOrFresh frame.streamId).finalSize ≠ none) : Extends script c₀ (frame :: seen) c := by
  have old := h.stream frame.streamId
  have here := each frame mem_cons_self
  rw [old.held] at inside
  refine ⟨h.rest, ?_, fun streamId => ?_⟩
  · rw [card_cells_cons, Finset.sdiff_eq_empty_iff_subset.mpr inside, Finset.card_empty]
    exact h.counted
  · by_cases mine : frame.streamId = streamId
    · subst mine
      refine ⟨?_, old.holds, old.live, old.limit, fun n => ?_⟩
      · rw [old.held, ranges, if_pos rfl, Finset.union_eq_right.mpr inside]
      · rw [old.ended n]
        constructor
        · rintro ⟨g, member, rest⟩
          exact ⟨g, mem_cons_of_mem _ member, rest⟩
        · rintro ⟨g, member, key, fin, rfl⟩
          obtain ⟨m, known⟩ := ne_none_iff_exists'.mp sized
          obtain ⟨g', member', key', fin', rfl⟩ := (old.ended m).mp known
          have first := (each g member).ends fin
          have second := (each g' (mem_cons_of_mem _ member')).ends fin'
          rw [key] at first
          rw [key', first] at second
          exact ⟨g', member', key', fin', (some.inj second).symm⟩
    · exact (h.stream streamId).other mine

/-- One frame: never an error, and the state follows the set of frames. -/
theorem receiveStreamFrame_received (h : Received script c₀ seen c)
    (each : ∀ g ∈ frame :: seen, Deliverable script c₀ g) (room : (cells (frame :: seen)).card ≤ c₀.recvMaxData)
    (limit : c₀.recvMaxData ≤ maxQuicVarint) :
    wp (receiveStreamFrame frame) (fun _ t => Received script c₀ (frame :: seen) t) (fun _ _ => False) c := by
  have here := each frame mem_cons_self
  have accounted : Steps (Takes .any) (receiveStreamFrame frame) := receiveStreamFrame_receives trivial
  have direct : wp (receiveStreamFrame frame) (fun _ t => Extends script c₀ (frame :: seen) t)
      (fun _ _ => False) c := by
    simp only [receiveStreamFrame, wp_bind, wp_failIf, wp_get, wp_liftExcept, wp_orThrow]
    have stopEq : endOffset frame.offset frame.data.length = some frame.chunk.stop :=
      endOffset_some.mpr ⟨rfl, here.bounded⟩
    have count : c.validateIncomingStreamCount frame.streamId = .ok () := by
      rw [h.rest]
      exact here.count
    refine ⟨fun exceeds => absurd exceeds (Nat.not_lt.mpr here.identifier), fun _ => ⟨fun _ _ => ⟨?_, ?_⟩, ?_⟩⟩
    · intro stop eq
      cases stopEq.symm.trans eq
      have old := h.stream frame.streamId
      cases known : c.findRecvStream frame.streamId with
      | none =>
        have credit : frame.chunk.stop ≤ c.recvMaxStreamData := by
          rw [h.rest]
          exact here.credit
        simp only [wp_bind, wp_failIf]
        exact ⟨fun exceeds => by omega, fun _ => storeStreamFrame_extends h each room limit⟩
      | some stream =>
        simp only [recvStreamOrFresh, known, getD_some] at old
        have credit : frame.chunk.stop ≤ stream.maxData := by
          rw [old.limit]
          exact here.credit
        simp only [wp_bind, wp_failIf, wp_liftExcept, wp_ite, wp_pure]
        refine ⟨fun exceeds => by omega, fun _ => ?_⟩
        rcases acceptsStreamFrame_deliverable old (h.inv.ok known) each with yes | ⟨no, inside⟩
        · rw [yes]
          refine ⟨fun accepted ok => ⟨fun _ => storeStreamFrame_extends h each room limit, ?_⟩, by simp⟩
          cases ok
          exact fun h => absurd rfl h
        · rw [no]
          refine ⟨fun accepted ok => ⟨?_, fun _ => ?_⟩, by simp⟩
          · cases ok
            simp
          · refine h.ignored each ?_ ?_ <;>
              simp only [recvStreamOrFresh, known, getD_some]
            exacts [inside.1, inside.2]
    · rw [stopEq]
      simp
    · rw [count]
      simp
  refine wp_mono (wp_and direct (accounted c)) (fun _ t h => ?_) (fun _ _ h => h.1)
  obtain ⟨grown, takes⟩ := h
  exact ⟨grown.rest, (takes.steps.accounted h.inv).1, grown.counted, grown.stream⟩

theorem drainStreams_ok (streams : List RecvStreamState) (each : ∀ s ∈ streams, Assembled s) :
    (drainStreams streams).2 = .ok () ∧ List.Forall₂ (fun s d => DrainedFrom s d ∧
      ∀ p ∈ d.pending, p.offset ≠ d.data.length) streams (drainStreams streams).1 := by
  induction streams with
  | nil => exact ⟨rfl, .nil⟩
  | cons stream rest ih =>
    obtain ⟨drained, run, moved, stuck⟩ := drainStream_spec (each stream mem_cons_self)
    obtain ⟨ok, all⟩ := ih fun s hs => each s (mem_cons_of_mem _ hs)
    simp only [drainStreams, run]
    exact ⟨ok, .cons ⟨moved, stuck⟩ all⟩

theorem StreamReceived.drained {streamId : Nat} {stream drained : RecvStreamState}
    (h : StreamReceived script c₀ seen streamId stream) (moved : DrainedFrom stream drained) :
    StreamReceived script c₀ seen streamId drained := by
  have held := moved.held.trans h.held
  have holds := moved.holds _ h.holds
  obtain ⟨data, pending, rfl⟩ := moved.same
  exact ⟨held, holds, h.live, h.limit, h.ended⟩

def Settled (c : Connection) : Prop :=
  ∀ streamId, ∀ p ∈ (c.recvStreamOrFresh streamId).pending, p.offset ≠ (c.recvStreamOrFresh streamId).data.length

theorem drainPendingRecvStreams_received (h : Received script c₀ seen c) :
    wp drainPendingRecvStreams (fun _ t => Received script c₀ seen t ∧ Settled t) (fun _ _ => False) c := by
  have accounted : Steps (Takes .any) drainPendingRecvStreams := drainPendingRecvStreams_receives
  obtain ⟨ok, all⟩ := drainStreams_ok c.recvStreams fun s hs => (h.inv.each s hs).assembled
  have direct : wp drainPendingRecvStreams (fun _ t => t = { c with recvStreams := (drainStreams c.recvStreams).1 })
      (fun _ _ => False) c := by
    simp only [drainPendingRecvStreams, wp_bind, wp_get, wp_set, wp_liftExcept, ok]
    exact ⟨fun _ _ => trivial, by simp⟩
  refine wp_mono (wp_and direct (accounted c)) ?_ (fun _ _ h => h.1)
  rintro _ t ⟨rfl, steps⟩
  have each : ∀ streamId, StreamReceived script c₀ seen streamId
      (recvStreamOrFresh { c with recvStreams := (drainStreams c.recvStreams).1 } streamId) ∧
      ∀ p ∈ (recvStreamOrFresh { c with recvStreams := (drainStreams c.recvStreams).1 } streamId).pending,
      p.offset ≠ (recvStreamOrFresh
        { c with recvStreams := (drainStreams c.recvStreams).1 } streamId).data.length := by
    intro streamId
    have old := h.stream streamId
    simp only [recvStreamOrFresh, findRecvStream] at old ⊢
    have keeps : ∀ x y : RecvStreamState, (DrainedFrom x y ∧ ∀ p ∈ y.pending, p.offset ≠ y.data.length) →
        y.streamId = x.streamId := by
      rintro x y ⟨moved, _⟩
      obtain ⟨_, _, rfl⟩ := moved.same
      rfl
    rcases Keyed.lookup_forall₂ (k := streamId) keeps all with
      ⟨before, after⟩ | ⟨x, y, ⟨moved, stuck⟩, before, after⟩
    · rw [before] at old
      rw [after]
      exact ⟨old, by simp [freshRecvStream]⟩
    · rw [before] at old
      rw [after]
      exact ⟨old.drained moved, stuck⟩
  refine ⟨⟨?_, (steps.steps.accounted h.inv).1, h.counted, fun streamId => (each streamId).1⟩,
    fun streamId => (each streamId).2⟩
  conv_lhs => rw [h.rest]

/-- Batches of frames, each followed by the drain, as the datagrams that carry them are handled. -/
def deliver (batches : List (List StreamFrame)) : ConnM Unit :=
  batches.forM fun frames => do
    frames.forM receiveStreamFrame
    drainPendingRecvStreams

theorem frames_received (limit : c₀.recvMaxData ≤ maxQuicVarint) (frames seen : List StreamFrame)
    (h : Received script c₀ seen c) (each : ∀ g ∈ frames ++ seen, Deliverable script c₀ g)
    (room : (cells (frames ++ seen)).card ≤ c₀.recvMaxData) :
    wp (frames.forM receiveStreamFrame) (fun _ t => Received script c₀ (frames.reverse ++ seen) t)
      (fun _ _ => False) c := by
  induction frames generalizing seen c with
  | nil => exact h
  | cons frame rest ih =>
    rw [wp_forM_cons]
    have first : ∀ g ∈ frame :: seen, g ∈ (frame :: rest) ++ seen := by
      simp only [cons_append, mem_cons, mem_append]
      tauto
    have later : ∀ g ∈ rest ++ frame :: seen, g ∈ (frame :: rest) ++ seen := by
      simp only [cons_append, mem_cons, mem_append]
      tauto
    refine wp_mono (receiveStreamFrame_received h (fun g hg => each g (first g hg))
      ((Finset.card_le_card (cells_subset first)).trans room) limit) (fun _ t next => ?_)
    have tail := ih (frame :: seen) next (fun g hg => each g (later g hg))
      ((Finset.card_le_card (cells_subset later)).trans room)
    simpa using tail

theorem deliver_received (limit : c₀.recvMaxData ≤ maxQuicVarint) (batches : List (List StreamFrame))
    (seen : List StreamFrame) (h : Received script c₀ seen c) (settled : Settled c)
    (each : ∀ g ∈ batches.flatten ++ seen, Deliverable script c₀ g)
    (room : (cells (batches.flatten ++ seen)).card ≤ c₀.recvMaxData) :
    wp (deliver batches) (fun _ t => Received script c₀ (batches.flatten.reverse ++ seen) t ∧ Settled t)
      (fun _ _ => False) c := by
  induction batches generalizing seen c with
  | nil => exact ⟨h, settled⟩
  | cons frames rest ih =>
    have first : ∀ g ∈ frames ++ seen, g ∈ (frames :: rest).flatten ++ seen := by
      intro g
      simp only [flatten_cons, mem_append]
      tauto
    have later : ∀ g ∈ rest.flatten ++ (frames.reverse ++ seen), g ∈ (frames :: rest).flatten ++ seen := by
      intro g
      simp only [flatten_cons, mem_append, mem_reverse]
      tauto
    simp only [deliver, wp_forM_cons, wp_bind]
    refine wp_mono (frames_received limit frames seen h (fun g hg => each g (first g hg))
      ((Finset.card_le_card (cells_subset first)).trans room)) (fun _ t next => ?_)
    refine wp_mono (drainPendingRecvStreams_received next) (fun _ u h => ?_)
    obtain ⟨next, settled⟩ := h
    have tail := ih (frames.reverse ++ seen) next settled (fun g hg => each g (later g hg))
      ((Finset.card_le_card (cells_subset later)).trans room)
    simpa [deliver] using tail

def byteAt (stream : RecvStreamState) (i : Nat) : Option UInt8 :=
  if i < stream.data.length then stream.data[i]?
  else
    (stream.pending.find? fun p => p.offset ≤ i ∧ i < p.stop).bind fun p => p.data[i - p.offset]?

theorem byteAt_eq {f : Nat → UInt8} (holds : Holds f stream) (i : Nat) :
    byteAt stream i = if i ∈ received stream then some (f i) else none := by
  unfold byteAt
  split
  · rename_i inData
    rw [if_pos (mem_received.mpr (Or.inl inData)), holds.1, slice_get]
    simpa using inData
  · rename_i past
    cases found : stream.pending.find? fun p => p.offset ≤ i ∧ i < p.stop with
    | none =>
      have outside : i ∉ received stream := by
        rw [mem_received, mem_covered]
        rintro (inData | ⟨p, hp, inside⟩)
        · exact past inData
        · have := find?_eq_none.mp found p hp
          simp_all
      rw [if_neg outside, bind_none]
    | some p =>
      have inside : p.offset ≤ i ∧ i < p.stop := by simpa using find?_some found
      have member := mem_of_find?_eq_some found
      rw [if_pos (mem_received.mpr (Or.inr (mem_covered.mpr ⟨p, member, inside⟩))), bind_some,
        holds.2 p member, slice_get]
      have := inside.2
      simp only [show p.offset + (i - p.offset) = i by omega]
      rw [if_pos (by omega)]

structure Reassembled (script : Script) (frames : List StreamFrame) (streamId : Nat)
    (stream : RecvStreamState) : Prop where
  contiguous : stream.data = slice (script.bytes streamId) 0 stream.data.length
  longest : (∀ i < stream.data.length, i ∈ ranges streamId frames) ∧ stream.data.length ∉ ranges streamId frames
  pieces : ∀ p ∈ stream.pending, p.Agrees (script.bytes streamId)
  nonempty : ∀ p ∈ stream.pending, p.data ≠ []
  apart : stream.pending.Pairwise Apart
  beyond : ∀ p ∈ stream.pending, stream.data.length ≤ p.offset
  union : Finset.range stream.data.length ∪ covered stream.pending = ranges streamId frames

theorem FreshReceiver.received (fresh : FreshReceiver c) : Received script c [] c ∧ Settled c := by
  have none : ∀ streamId, c.recvStreamOrFresh streamId = c.freshRecvStream streamId := fun streamId => by
    simp [recvStreamOrFresh, findRecvStream, fresh.streams, Keyed.lookup]
  refine ⟨⟨rfl, ⟨?_, ?_, ?_, ?_⟩, fresh.bytes, fun streamId => ?_⟩, fun streamId => ?_⟩
  · simp [recvPart, fresh.streams]
  · simp [recvPart, fresh.streams]
  · simp [recvPart, fresh.streams, fresh.bytes]
  · simp [recvPart, fresh.bytes]
  · rw [none]
    exact ⟨rfl, ⟨rfl, by simp [freshRecvStream]⟩, rfl, rfl, by simp [freshRecvStream]⟩
  · rw [none]
    simp [freshRecvStream]

theorem Received.reassembled {c₀ c : Connection} {seen frames : List StreamFrame}
    (h : Received script c₀ seen c) (settled : Settled c) (same : ∀ g, g ∈ seen ↔ g ∈ frames)
    (streamId : Nat) : Reassembled script frames streamId (c.recvStreamOrFresh streamId) := by
  have stream := h.stream streamId
  have assembled := (recvStreamOrFresh_ok h.inv streamId).assembled
  have held : received (c.recvStreamOrFresh streamId) = ranges streamId frames := by
    rw [stream.held]
    ext i
    simp only [mem_ranges, same]
  refine ⟨stream.holds.1, ⟨fun i hi => ?_, ?_⟩, stream.holds.2, assembled.nonempty, assembled.apart,
    assembled.beyond, held⟩
  · rw [← held]
    exact mem_received.mpr (Or.inl hi)
  · rw [← held, mem_received]
    rintro (inData | buffered)
    · omega
    · obtain ⟨p, member, lo, _⟩ := mem_covered.mp buffered
      have := assembled.beyond p member
      exact settled streamId p member (by omega)

theorem Reassembled.data_eq {streamId : Nat} {a b : RecvStreamState}
    (ha : Reassembled script frames streamId a) (hb : Reassembled script frames streamId b) : b.data = a.data := by
  have length : b.data.length = a.data.length := by
    rcases Nat.lt_trichotomy b.data.length a.data.length with less | same | more
    · exact absurd (ha.longest.1 _ less) hb.longest.2
    · exact same
    · exact absurd (hb.longest.1 _ more) ha.longest.2
  rw [ha.contiguous, hb.contiguous, length]

theorem deliver_ok (fresh : FreshReceiver c) (batches : List (List StreamFrame)) (same : batches.flatten.Perm frames)
    (each : ∀ frame ∈ frames, Deliverable script c frame) (room : (cells frames).card ≤ c.recvMaxData) :
    ∃ seen t, (∀ g, g ∈ seen ↔ g ∈ frames) ∧ deliver batches c = .ok () t ∧
      Received script c seen t ∧ Settled t := by
  have start : Received script c [] c ∧ Settled c := fresh.received
  have inside : ∀ g ∈ batches.flatten ++ [], g ∈ frames := fun g hg =>
    same.mem_iff.mp (by simpa using hg)
  obtain ⟨_, t, run, received, settled⟩ := wp_exists (deliver_received fresh.limit batches [] start.1 start.2
    (fun g hg => each g (inside g hg)) ((Finset.card_le_card (cells_subset inside)).trans room))
  exact ⟨_, t, fun g => by rw [append_nil, mem_reverse]; exact same.mem_iff, run, received, settled⟩

/-- Frames of one script, delivered twice in any orders and batches: no error, the longest
prefix in order, and the same contents. -/
theorem deliver_reassembles {c : Connection} (fresh : FreshReceiver c)
    (batches batches' : List (List StreamFrame)) (same : batches'.flatten.Perm batches.flatten)
    (each : ∀ frame ∈ batches.flatten, Deliverable script c frame)
    (room : (cells batches.flatten).card ≤ c.recvMaxData) :
    ∃ t t', deliver batches c = .ok () t ∧ deliver batches' c = .ok () t' ∧
      t'.recvDataBytes = t.recvDataBytes ∧ ∀ streamId,
        let stream := t.recvStreamOrFresh streamId
        let stream' := t'.recvStreamOrFresh streamId
        Reassembled script batches.flatten streamId stream ∧
        Reassembled script batches.flatten streamId stream' ∧
        stream'.data = stream.data ∧ stream'.finalSize = stream.finalSize ∧
        ∀ i, byteAt stream' i = byteAt stream i := by
  obtain ⟨seen, t, mem, run, received, settled⟩ := deliver_ok fresh batches (.refl _) each room
  obtain ⟨seen', t', mem', run', received', settled'⟩ := deliver_ok fresh batches' same each room
  have both : ∀ g, g ∈ seen' ↔ g ∈ seen := fun g => (mem' g).trans (mem g).symm
  refine ⟨t, t', run, run', ?_, fun streamId => ?_⟩
  · rw [received.counted, received'.counted]
    exact congrArg Finset.card (Finset.Subset.antisymm (cells_subset fun g => (both g).mp)
      (cells_subset fun g => (both g).mpr))
  · have first := received.reassembled settled mem streamId
    have second := received'.reassembled settled' mem' streamId
    have old := received.stream streamId
    have new := received'.stream streamId
    refine ⟨first, second, first.data_eq second, ?_, fun i => ?_⟩
    · ext n
      rw [new.ended n, old.ended n]
      simp only [both]
    · have held : Quicz.received (t'.recvStreamOrFresh streamId) =
          Quicz.received (t.recvStreamOrFresh streamId) := second.union.trans first.union.symm
      rw [byteAt_eq new.holds, byteAt_eq old.holds, held]

theorem deliver_reassembles_overlap :
    let early : StreamFrame := { streamId := 0, offset := 0, data := [1, 2], fin := false }
    let late : StreamFrame := { streamId := 0, offset := 1, data := [2, 3], fin := true }
    ∃ t t', deliver [[late], [early]] (.fresh .server {}) = .ok () t ∧
      deliver [[early, late]] (.fresh .server {}) = .ok () t' ∧
      (t.recvStreamOrFresh 0).data = (t'.recvStreamOrFresh 0).data := by
  intro early late
  have count : (fresh .server {}).validateIncomingStreamCount 0 = .ok () := rfl
  have script : ∀ frame ∈ [[late], [early]].flatten,
      Deliverable ⟨fun _ i => UInt8.ofNat (i + 1), fun _ => some 3⟩ (.fresh .server {}) frame := by
    refine forall_mem_cons.mpr ⟨?_, forall_mem_singleton.mpr ?_⟩
    · exact ⟨rfl, by decide, count, by decide, by decide, by decide, by decide⟩
    · exact ⟨rfl, by decide, count, by decide, by decide, by decide, by decide⟩
  obtain ⟨t, t', first, second, -, streams⟩ := deliver_reassembles ⟨rfl, rfl, by decide⟩
    [[late], [early]] [[early, late]] (by decide) script (by decide)
  exact ⟨t, t', first, second, (streams 0).2.2.1.symm⟩

end Quicz
