import Quicz.Recv.Refines

/-! The receive accounting. One invariant ties the connection's byte counter to what the
streams hold, and a second relation says that a stream, once known, keeps its final size.
Both are proved step by step over the receive machine. -/
namespace Quicz

open Chunks Proc Keyed RecvPart

def charge (stream : RecvStreamState) : Nat :=
  if stream.resetErrorCode.isSome then stream.finalSize.getD 0 else byteCount stream

theorem charge_live {stream : RecvStreamState} (live : stream.resetErrorCode = none) :
    charge stream = byteCount stream := by simp [charge, live]

structure StreamOk (stream : RecvStreamState) : Prop where
  assembled : Assembled stream
  sized : ∀ n, stream.finalSize = some n → highestOffset stream ≤ n
  resetSized : stream.resetErrorCode ≠ none → stream.finalSize ≠ none
  credit : highestOffset stream ≤ stream.maxData
  finalCredit : ∀ n, stream.finalSize = some n → n ≤ stream.maxData
  read : stream.readOffset ≤ stream.data.length

structure RecvInv (r : RecvPart) : Prop where
  distinct : (r.recvStreams.map RecvStreamState.streamId).Nodup
  each : ∀ s ∈ r.recvStreams, StreamOk s
  exact : r.recvDataBytes = (r.recvStreams.map charge).sum
  within : r.recvDataBytes ≤ r.recvMaxData

theorem RecvInv.ok {r : RecvPart} (inv : RecvInv r) {streamId : Nat} {stream : RecvStreamState}
    (found : r.find streamId = some stream) : StreamOk stream :=
  inv.each stream (lookup_some found).2

variable {stream : RecvStreamState}

theorem highestOffset_le_iff (h : Assembled stream) {n : Nat} :
    highestOffset stream ≤ n ↔ ∀ i ∈ received stream, i < n := by
  rw [highestOffset_le]
  constructor
  · rintro ⟨inData, inPending⟩ i hi
    rcases mem_received.mp hi with below | held
    · omega
    · obtain ⟨p, hp, _, above⟩ := mem_covered.mp held
      exact lt_of_lt_of_le above (inPending p hp)
  · intro all
    constructor
    · by_contra long
      have := all n (mem_received.mpr (Or.inl (by omega)))
      omega
    · intro p hp
      have wide := Chunk.offset_lt_stop (h.nonempty p hp)
      have last : p.stop - 1 ∈ covered stream.pending :=
        mem_covered.mpr ⟨p, hp, by omega, by omega⟩
      have := all _ (mem_received.mpr (Or.inr last))
      omega

theorem freshStream_ok (streamId maxData : Nat) : StreamOk { streamId, maxData } :=
  ⟨⟨by simp, .nil, by simp, by simp, by simp⟩, by simp, by simp, by simp [highestOffset], by simp, by simp⟩

theorem StreamOk.of_same (h : StreamOk old) (data : new.data = old.data) (pending : new.pending = old.pending)
    (finalSize : new.finalSize = old.finalSize)
    (reset : new.resetErrorCode = old.resetErrorCode) (grows : old.maxData ≤ new.maxData)
    (read : new.readOffset ≤ new.data.length) : StreamOk new := by
  have highest : highestOffset new = highestOffset old := by
    unfold highestOffset
    rw [data, pending]
  refine ⟨⟨?_, ?_, ?_, ?_, ?_⟩, ?_, ?_, ?_, ?_, read⟩
  · rw [pending]; exact h.assembled.nonempty
  · rw [pending]; exact h.assembled.apart
  · rw [pending, data]; exact h.assembled.beyond
  · rw [pending]; exact h.assembled.bounded
  · rw [data]; exact h.assembled.short
  · rw [finalSize, highest]; exact h.sized
  · rw [reset, finalSize]; exact h.resetSized
  · rw [highest]; exact h.credit.trans grows
  · rw [finalSize]; exact fun n hn => (h.finalCredit n hn).trans grows

theorem charge_of_same (data : new.data = old.data)
    (pending : new.pending = old.pending) (finalSize : new.finalSize = old.finalSize)
    (reset : new.resetErrorCode = old.resetErrorCode) : charge new = charge old := by
  unfold charge byteCount
  rw [data, pending, finalSize, reset]

variable {segments : List (Chunk UInt8)} {old new : RecvStreamState}

/-- Storing the new segments of a range adds exactly that range, at the price of the part
of it that was missing. -/
theorem storeNew_spec (h : Assembled stream) (incoming : Chunk UInt8)
    (bounded : incoming.stop ≤ maxQuicVarint)
    (new : collectNewRecvStreamDataSegments stream incoming = .ok segments) :
    let stored := segments.foldl storeSegment stream
    Assembled stored ∧ byteCount stored = byteCount stream + size segments ∧
      received stored = received stream ∪ incoming.span ∧
      size segments = (incoming.span \ received stream).card := by
  have fresh := collectNewRecvStreamDataSegments_fresh h new
  have storable := fresh.storable bounded
  obtain ⟨assembled, count, grown⟩ := storeSegments_spec h storable
  have fills : received stream ∪ covered segments = received stream ∪ incoming.span := by
    ext i
    simp only [Finset.mem_union]
    constructor
    · rintro (old | hi)
      · exact Or.inl old
      · obtain ⟨s, hs, lo, hi⟩ := mem_covered.mp hi
        have inside := fresh.inside s hs
        have := Chunk.offset_lt_stop (fresh.nonempty s hs)
        exact Or.inr (Chunk.mem_span.mpr (by omega))
    · rintro (old | hi)
      · exact Or.inl old
      · have range := Chunk.mem_span.mp hi
        by_cases inData : i < stream.data.length
        · exact Or.inl (mem_received.mpr (Or.inl inData))
        · rcases fresh.complete i (by omega) range.2 with seg | held
          · exact Or.inr seg
          · exact Or.inl (mem_received.mpr (Or.inr held))
  refine ⟨assembled, count, grown.trans fills, ?_⟩
  have before := h.card_received
  have after := assembled.card_received
  rw [grown, fills, Finset.union_comm, ← Finset.card_sdiff_add_card] at after
  omega

theorem storedStream_eq (stream : RecvStreamState) (fin : Bool) (stop : Nat) (segments : List (Chunk UInt8)) :
    ∃ data pending finalSize, storedStream stream fin stop segments = { stream with data, pending, finalSize } := by
  obtain ⟨data, pending, same⟩ := storeSegments_same stream segments
  cases fin <;> exact ⟨data, pending, _, by simp [storedStream, same]; rfl⟩

theorem storedStream_ok (h : StreamOk stream) {frame : StreamFrame} {stop : Nat}
    (stopEq : endOffset frame.offset frame.data.length = some stop) (admits : Admits stream frame stop)
    (new : collectNewRecvStreamDataSegments stream frame.chunk = .ok segments) :
    StreamOk (storedStream stream frame.fin stop segments) ∧
      charge (storedStream stream frame.fin stop segments) = charge stream + size segments ∧
      ∀ n, stream.finalSize = some n → (storedStream stream frame.fin stop segments).finalSize = some n := by
  obtain ⟨rfl, bounded⟩ := endOffset_some.mp stopEq
  obtain ⟨assembled, count, grown, _⟩ := storeNew_spec h.assembled frame.chunk bounded new
  obtain ⟨data, pending, same⟩ := storeSegments_same stream segments
  have longer := storeSegments_longer stream segments
  unfold storedStream
  generalize segments.foldl storeSegment stream = stored at *
  have live : stored.resetErrorCode = none := by rw [same]; exact admits.live
  have size : stored.finalSize = stream.finalSize := by rw [same]
  have limit : stored.maxData = stream.maxData := by rw [same]
  have read : stored.readOffset ≤ stored.data.length := by
    have : stored.readOffset = stream.readOffset := by rw [same]
    have := h.read
    omega
  have highest : ∀ n, highestOffset stream ≤ n → frame.offset + frame.data.length ≤ n →
      highestOffset stored ≤ n := by
    intro n old new
    rw [highestOffset_le_iff assembled, grown]
    intro i hi
    rcases Finset.mem_union.mp hi with held | inFrame
    · exact (highestOffset_le_iff h.assembled).mp old i held
    · exact lt_of_lt_of_le (Chunk.mem_span.mp inFrame).2 new
  have ok : StreamOk stored := by
    refine ⟨assembled, fun n hn => ?_, fun reset => absurd live reset, ?_, ?_, read⟩
    · rw [size] at hn
      exact highest n (h.sized n hn) (admits.sized n hn).1
    · rw [limit]
      exact highest _ h.credit admits.credit
    · rw [size, limit]
      exact h.finalCredit
  have sum : charge stored = charge stream + Chunks.size segments := by
    rw [charge_live live, charge_live admits.live, count]
  cases fin : frame.fin with
  | false => exact ⟨ok, sum, fun n hn => size.trans hn⟩
  | true =>
    have closed : highestOffset stream ≤ frame.offset + frame.data.length := by
      cases known : stream.finalSize with
      | none => exact admits.closes fin known
      | some n => exact (h.sized n known).trans (by rw [(admits.sized n known).2 fin])
    refine ⟨⟨⟨assembled.nonempty, assembled.apart, assembled.beyond, assembled.bounded,
      assembled.short⟩, ?_, fun reset => absurd live reset, ok.credit, ?_, read⟩, ?_, ?_⟩
    · rintro n ⟨⟩
      exact highest _ closed le_rfl
    · rintro n ⟨⟩
      exact limit ▸ admits.credit
    · rw [charge_live live] at sum
      rw [← sum]
      exact charge_live live
    · intro n hn
      exact congrArg some ((admits.sized n hn).2 fin)

theorem drained_ok {stream drained : RecvStreamState} (h : StreamOk stream)
    (run : drainStream stream = .ok drained) :
    StreamOk drained ∧ charge drained = charge stream ∧ DrainedFrom stream drained := by
  obtain ⟨result, run', moved, _⟩ := drainStream_spec h.assembled
  cases run.symm.trans run'
  have highest : ∀ n, highestOffset stream ≤ n → highestOffset drained ≤ n := by
    intro n hn
    rw [highestOffset_le_iff moved.assembled, moved.held]
    exact (highestOffset_le_iff h.assembled).mp hn
  have longer := moved.longer
  have count := moved.count
  obtain ⟨data, pending, rfl⟩ := moved.same
  refine ⟨⟨moved.assembled, fun n hn => highest n (h.sized n hn), h.resetSized, highest _ h.credit,
    h.finalCredit, h.read.trans longer⟩, ?_, moved⟩
  simp only [charge, count]

theorem reset_ok (h : StreamOk stream) {reset : ResetStreamFrame} (credit : reset.finalSize ≤ stream.maxData)
    (highest : highestOffset stream ≤ reset.finalSize) : StreamOk { stream with
      finalSize := some reset.finalSize
      resetErrorCode := some reset.applicationErrorCode } := by
  have a := h.assembled
  refine ⟨⟨a.nonempty, a.apart, a.beyond, a.bounded, a.short⟩, ?_, fun _ => nofun, h.credit, ?_, h.read⟩
  · rintro n ⟨⟩
    exact highest
  · rintro n ⟨⟩
    exact credit

variable {limit consumed received next : Nat} {window : Option Nat}

theorem nextDataLimit_ok (h : nextDataLimit limit consumed received window = .ok next) :
    next = (window.elim (limit + consumed) fun w => max (limit + consumed) (received + w)) ∧
      next ≤ maxQuicVarint := by
  unfold nextDataLimit at h
  cases sum : addU64 limit consumed with
  | none =>
    rw [sum] at h
    cases h
  | some total =>
    obtain ⟨rfl, _⟩ := addU64_some.mp sum
    rw [sum] at h
    cases window with
    | none =>
      simp only [bind, Except.bind] at h
      split at h
      · cases h
      · cases h
        exact ⟨rfl, by omega⟩
    | some w =>
      cases target : addU64 received w with
      | none =>
        simp only [target] at h
        cases h
      | some target' =>
        obtain ⟨rfl, _⟩ := addU64_some.mp target
        simp only [target, bind, Except.bind] at h
        split at h
        · cases h
        · cases h
          exact ⟨rfl, by omega⟩

theorem nextDataLimit_grows (h : nextDataLimit limit consumed received window = .ok next) :
    limit + consumed ≤ next := by
  obtain ⟨rfl, _⟩ := nextDataLimit_ok h
  cases window <;> simp

theorem nextLimitAfterPeerBlocked_grows (maximum current reported : Nat) (window : Option Nat) :
    current ≤ (nextLimitAfterPeerBlocked maximum current reported window).getD current := by
  cases next : nextLimitAfterPeerBlocked maximum current reported window with
  | none => exact le_rfl
  | some limit =>
    obtain ⟨w, _, above, _⟩ := nextLimitAfterPeerBlocked_some next
    exact above.le

variable {rule : RecvRule}
def FinalSizesKept (r r' : RecvPart) : Prop :=
  ∀ streamId stream n, r.find streamId = some stream → stream.finalSize = some n →
    ∃ stream', r'.find streamId = some stream' ∧ stream'.finalSize = some n

variable {r r' : RecvPart}

theorem FinalSizesKept.of_same (same : r'.recvStreams = r.recvStreams) : FinalSizesKept r r' := by
  intro streamId stream n found size
  exact ⟨stream, by rw [find, same]; exact found, size⟩

theorem RecvInv.change (inv : RecvInv r) (ok : StreamOk new)
    (found : r.find new.streamId = some old) (streams : r'.recvStreams = (r.put new).recvStreams)
    (counted : r'.recvDataBytes + charge old = r.recvDataBytes + charge new)
    (within : r'.recvDataBytes ≤ r'.recvMaxData) (kept : ∀ n, old.finalSize = some n → new.finalSize = some n) :
    RecvInv r' ∧ FinalSizesKept r r' := by
  have known : r'.find new.streamId = some new := by
    rw [find, streams]
    exact find_put new (by rw [found]; rfl)
  refine ⟨⟨?_, ?_, ?_, within⟩, ?_⟩
  · rw [streams, put, map_key_adjust fun _ _ => rfl]
    exact inv.distinct
  · rw [streams]
    exact forall_adjust inv.each fun _ _ => ok
  · have sum := sum_adjust charge (g := fun _ => new) found
    have exact := inv.exact
    rw [streams]
    simp only [put]
    omega
  · intro streamId stream n here size
    by_cases same : streamId = new.streamId
    · subst same
      cases found.symm.trans here
      exact ⟨new, known, kept n size⟩
    · refine ⟨stream, ?_, size⟩
      rw [find, streams, put, lookup_adjust_ne (fun _ _ => rfl) same]
      exact here

theorem RecvInv.touch (inv : RecvInv r) {old : RecvStreamState} (new : RecvStreamState)
    (found : r.find new.streamId = some old) (streams : r'.recvStreams = (r.put new).recvStreams)
    (data : new.data = old.data) (pending : new.pending = old.pending)
    (finalSize : new.finalSize = old.finalSize) (reset : new.resetErrorCode = old.resetErrorCode)
    (limit : old.maxData ≤ new.maxData) (read : new.readOffset ≤ new.data.length)
    (counter : r'.recvDataBytes = r.recvDataBytes) (grows : r.recvMaxData ≤ r'.recvMaxData) :
    RecvInv r' ∧ FinalSizesKept r r' := by
  refine inv.change ((inv.ok found).of_same data pending finalSize reset limit read) found streams
    ?_ (by rw [counter]; exact inv.within.trans grows) (fun n hn => finalSize.trans hn)
  rw [counter, charge_of_same data pending finalSize reset]

theorem RecvInv.opened {r : RecvPart} (inv : RecvInv r) {streamId : Nat}
    (unknown : r.find streamId = none) :
    let r' := { r with recvStreams := r.recvStreams ++ [{ streamId, maxData := r.recvMaxStreamData }] }
    RecvInv r' ∧ FinalSizesKept r r' := by
  refine ⟨⟨?_, ?_, ?_, inv.within⟩, ?_⟩
  · have absent := lookup_none.mp unknown
    rw [List.map_append, List.nodup_append]
    refine ⟨inv.distinct, by simp, ?_⟩
    intro a ha b hb
    obtain ⟨s, hs, rfl⟩ := List.mem_map.mp ha
    rw [List.mem_singleton.mp hb]
    exact absent s hs
  · intro s hs
    rcases List.mem_append.mp hs with old | new
    · exact inv.each s old
    · rw [List.mem_singleton.mp new]
      exact freshStream_ok streamId r.recvMaxStreamData
  · simp [inv.exact, charge, byteCount]
  · intro id stream n found size
    refine ⟨stream, ?_, size⟩
    rw [find, lookup_append, show lookup _ _ r.recvStreams = _ from found, Option.some_or]

/-- With distinct identifiers, a drain is a change of the drained stream. -/
theorem RecvInv.drain_eq {r : RecvPart} (inv : RecvInv r) {stream drained : RecvStreamState}
    {before later : List RecvStreamState} (here : r.recvStreams = before ++ stream :: later)
    (same : SameStream stream drained) :
    { r with recvStreams := before ++ drained :: later } = r.put drained ∧
      r.find drained.streamId = some stream := by
  obtain ⟨data, pending, rfl⟩ := same
  have distinct := inv.distinct
  rw [here] at distinct
  have member : stream ∈ r.recvStreams := by simp [here]
  refine ⟨?_, lookup_of_mem inv.distinct member⟩
  rw [put, here]
  congr 1
  exact (adjust_middle distinct).symm

/-- A stream that a reset takes effect on was not reset before. -/
theorem RecvInv.reset_live {r : RecvPart} (inv : RecvInv r) {streamId finalSize : Nat}
    (found : r.find streamId = some stream) (incomplete : ∀ n, stream.finalSize = some n →
      stream.resetErrorCode = none ∧ n = finalSize ∧ stream.data.length < n) : stream.resetErrorCode = none := by
  by_contra gone
  obtain ⟨n, hn⟩ := Option.ne_none_iff_exists'.mp ((inv.ok found).resetSized gone)
  exact gone (incomplete n hn).1

theorem RecvStep.accounted (inv : RecvInv r) (step : RecvStep rule r r') : RecvInv r' ∧ FinalSizesKept r r' := by
  cases step with
  | opens streamId unknown => exact inv.opened unknown
  | @stores stream frame stop segments found stopEq live credit sized closes new within =>
    obtain ⟨ok, sum, kept⟩ := storedStream_ok (inv.ok found) stopEq ⟨live, credit, sized, closes⟩ new
    obtain ⟨data, pending, finalSize, eq⟩ := storedStream_eq stream frame.fin stop segments
    have here := lookup_self found
    rw [eq] at ok sum kept ⊢
    refine inv.change ok here rfl ?_ within kept
    simp only [sum]
    omega
  | @drains stream drained before later here run =>
    obtain ⟨ok, sum, moved⟩ := drained_ok (inv.each stream (by simp [here])) run
    obtain ⟨eq, found⟩ := inv.drain_eq here moved.same
    obtain ⟨data, pending, rfl⟩ := moved.same
    exact inv.change ok found (congrArg _ eq) (by rw [sum]) inv.within (fun _ hn => hn)
  | @resets stream reset found incomplete credit highest counted within =>
    have ok := reset_ok (inv.ok found) credit highest
    have live := inv.reset_live found incomplete
    have here := lookup_self found
    refine inv.change ok here rfl ?_ within fun n hn => ?_
    · rw [charge_live live]
      simp only [charge, Option.isSome_some, if_true, Option.getD_some]
      omega
    · exact congrArg some (incomplete n hn).2.1.symm
  | @reads stream n _ streamLimit found _ available _ connection ofStream =>
    have grows := nextDataLimit_grows connection
    have grows' := nextDataLimit_grows ofStream
    exact inv.touch { stream with readOffset := stream.readOffset + n, maxData := streamLimit } found
      rfl rfl rfl rfl rfl (Nat.le_of_add_right_le grows') available rfl (Nat.le_of_add_right_le grows)
  | @releases stream found _ _ _ =>
    rw [addStreamCredit_eq]
    exact inv.touch { stream with streamCountCreditReleased := true } found rfl rfl rfl rfl rfl le_rfl
      (inv.ok found).read rfl le_rfl
  | @observesData stream found _ =>
    exact inv.touch { stream with dataReadObserved := true } found rfl rfl rfl rfl rfl le_rfl (inv.ok found).read rfl le_rfl
  | @observesReset stream found _ _ =>
    exact inv.touch { stream with resetReadObserved := true } found rfl rfl rfl rfl rfl le_rfl (inv.ok found).read rfl le_rfl
  | @stops stream found =>
    exact inv.touch { stream with stopSendingSent := true } found rfl rfl rfl rfl rfl le_rfl (inv.ok found).read rfl le_rfl
  | dataBlocked maximumData =>
    exact ⟨⟨inv.distinct, inv.each, inv.exact,
      inv.within.trans (nextLimitAfterPeerBlocked_grows _ _ _ _)⟩, .of_same rfl⟩
  | @streamDataBlocked stream maximumStreamData found unsized =>
    let raised := (nextReceiveLimitAfterPeerBlocked stream.maxData maximumStreamData
      r.config.receiveStreamWindow).getD stream.maxData
    exact inv.touch { stream with maxData := raised } found rfl rfl rfl rfl rfl
      (nextLimitAfterPeerBlocked_grows _ _ _ _) (inv.ok found).read rfl le_rfl
  | streamsBlockedBidi maximumStreams | streamsBlockedUni maximumStreams =>
    exact ⟨⟨inv.distinct, inv.each, inv.exact, inv.within⟩, .of_same rfl⟩

theorem FinalSizesKept.trans {a b c : RecvPart} (h : FinalSizesKept a b) (k : FinalSizesKept b c) :
    FinalSizesKept a c := by
  intro streamId stream n found size
  obtain ⟨stream', found', size'⟩ := h streamId stream n found size
  exact k streamId stream' n found' size'

theorem RecvSteps.accounted (steps : RecvSteps rule r r') (inv : RecvInv r) : RecvInv r' ∧ FinalSizesKept r r' := by
  refine steps.keeps (I := fun x => RecvInv x ∧ FinalSizesKept r x) ?_ ⟨inv, .of_same rfl⟩
  rintro a b ⟨here, kept⟩ step
  obtain ⟨next, kept'⟩ := step.accounted here
  exact ⟨next, kept.trans kept'⟩

end Quicz
