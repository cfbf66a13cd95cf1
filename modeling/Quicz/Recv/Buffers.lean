import Quicz.Recv.Gaps

/-! Storing new segments and draining buffered ones. Both move bytes between the prefix
and the buffer and change nothing else of the stream. -/
namespace Quicz

open Chunks List Chunk

variable {stream : RecvStreamState}

/- Segments that may be stored one after the other. -/
structure Storable (stream : RecvStreamState) (segments : List (Chunk UInt8)) : Prop where
  nonempty : ∀ s ∈ segments, s.data ≠ []
  beyond : ∀ s ∈ segments, stream.data.length ≤ s.offset
  bounded : ∀ s ∈ segments, s.stop ≤ maxQuicVarint
  ordered : segments.Pairwise fun a b => a.stop ≤ b.offset
  apart : ∀ s ∈ segments, ∀ p ∈ stream.pending, Apart s p

variable {segments : List (Chunk UInt8)}

theorem Fresh.storable {incoming : Chunk UInt8}
    (h : Fresh stream (min (max incoming.offset stream.data.length) incoming.stop) incoming.stop segments)
    (bounded : incoming.stop ≤ maxQuicVarint) : Storable stream segments := by
  refine ⟨h.nonempty, fun s hs => ?_, fun s hs => (h.inside s hs).2.trans bounded, h.ordered, h.apart⟩
  have := offset_lt_stop (h.nonempty s hs)
  have := h.inside s hs
  omega

theorem storeSegment_assembled (h : Assembled stream) {s : Chunk UInt8} {rest : List (Chunk UInt8)}
    (storable : Storable stream (s :: rest)) :
    Assembled (storeSegment stream s) ∧ Storable (storeSegment stream s) rest := by
  have nonempty := storable.nonempty s mem_cons_self
  have bounded := storable.bounded s mem_cons_self
  have apart := storable.apart s mem_cons_self
  have order := pairwise_cons.mp storable.ordered
  unfold storeSegment
  split
  · rename_i contiguous
    have newLength : (stream.data ++ s.data).length = s.stop := by
      simp [stop, contiguous]
    constructor
    · refine ⟨h.nonempty, h.apart, fun p hp => ?_, h.bounded, ?_⟩
      · have := h.beyond p hp
        have := offset_lt_stop (h.nonempty p hp)
        have := apart p hp
        unfold Apart at this
        dsimp only
        rw [newLength]
        omega
      · dsimp only
        rw [newLength]
        exact bounded
    · refine ⟨fun t ht => storable.nonempty t (mem_cons_of_mem _ ht), fun t ht => ?_,
        fun t ht => storable.bounded t (mem_cons_of_mem _ ht), order.2,
        fun t ht => storable.apart t (mem_cons_of_mem _ ht)⟩
      dsimp only
      rw [newLength]
      exact order.1 t ht
  · constructor
    · refine ⟨?_, ?_, ?_, ?_, h.short⟩
      · intro p hp
        rcases mem_append.mp hp with old | new
        · exact h.nonempty p old
        · exact mem_singleton.mp new ▸ nonempty
      · refine pairwise_append.mpr ⟨h.apart, pairwise_singleton _ _, ?_⟩
        intro p hp t ht
        exact mem_singleton.mp ht ▸ (apart p hp).symm
      · intro p hp
        rcases mem_append.mp hp with old | new
        · exact h.beyond p old
        · exact mem_singleton.mp new ▸ storable.beyond s mem_cons_self
      · intro p hp
        rcases mem_append.mp hp with old | new
        · exact h.bounded p old
        · exact mem_singleton.mp new ▸ bounded
    · refine ⟨fun t ht => storable.nonempty t (mem_cons_of_mem _ ht),
        fun t ht => storable.beyond t (mem_cons_of_mem _ ht),
        fun t ht => storable.bounded t (mem_cons_of_mem _ ht), order.2, ?_⟩
      intro t ht p hp
      rcases mem_append.mp hp with old | new
      · exact storable.apart t (mem_cons_of_mem _ ht) p old
      · exact mem_singleton.mp new ▸ Or.inr (order.1 t ht)

theorem byteCount_storeSegment (stream : RecvStreamState) (s : Chunk UInt8) :
    byteCount (storeSegment stream s) = byteCount stream + s.data.length := by
  unfold storeSegment
  split <;> simp [byteCount] <;> omega

theorem received_storeSegment (stream : RecvStreamState) (s : Chunk UInt8) :
    received (storeSegment stream s) = received stream ∪ s.span := by
  ext i
  unfold storeSegment
  split
  · rename_i contiguous
    simp only [mem_received, length_append, Finset.mem_union, mem_span, stop, contiguous]
    by_cases buffered : i ∈ covered stream.pending
    · simp [buffered]
    · simp only [buffered, or_false]
      omega
  · simp only [mem_received, covered_append, covered_cons, covered_nil, Finset.union_empty,
      Finset.mem_union, or_assoc]

/-- Storing the new segments of a frame keeps the stream well formed, adds exactly their
bytes, and leaves everything but the buffers alone. -/
theorem storeSegments_spec (h : Assembled stream) (storable : Storable stream segments) :
    Assembled (segments.foldl storeSegment stream) ∧
    byteCount (segments.foldl storeSegment stream) = byteCount stream + size segments ∧
    received (segments.foldl storeSegment stream) = received stream ∪ covered segments := by
  induction segments generalizing stream with
  | nil => simp [h]
  | cons s rest ih =>
    obtain ⟨assembled, storableRest⟩ := storeSegment_assembled h storable
    obtain ⟨wf, count, offsets⟩ := ih assembled storableRest
    refine ⟨wf, ?_, ?_⟩
    · rw [foldl_cons, count, byteCount_storeSegment, size_cons]
      omega
    · rw [foldl_cons, offsets, received_storeSegment, covered_cons, Finset.union_assoc]

theorem storeSegments_holds {f : Nat → UInt8} (holds : Holds f stream) (agrees : ∀ s ∈ segments, s.Agrees f) :
    Holds f (segments.foldl storeSegment stream) := by
  induction segments generalizing stream with
  | nil => exact holds
  | cons s rest ih =>
    refine ih ?_ fun t ht => agrees t (mem_cons_of_mem _ ht)
    have head := agrees s mem_cons_self
    unfold storeSegment
    split
    · rename_i here
      exact ⟨Holds.extend holds.1 head here, holds.2⟩
    · refine ⟨holds.1, fun p hp => ?_⟩
      rcases mem_append.mp hp with old | new
      · exact holds.2 p old
      · exact mem_singleton.mp new ▸ head

def SameStream (a b : RecvStreamState) : Prop :=
  ∃ data pending, b = { a with data := data, pending := pending }

theorem SameStream.refl (a : RecvStreamState) : SameStream a a := ⟨a.data, a.pending, rfl⟩

theorem SameStream.trans {a b c : RecvStreamState} (h : SameStream a b) (k : SameStream b c) : SameStream a c := by
  obtain ⟨_, _, rfl⟩ := h
  obtain ⟨data, pending, rfl⟩ := k
  exact ⟨data, pending, rfl⟩

theorem storeSegments_same (stream : RecvStreamState) (segments : List (Chunk UInt8)) :
    SameStream stream (segments.foldl storeSegment stream) := by
  induction segments generalizing stream with
  | nil => exact .refl stream
  | cons s rest ih =>
    refine SameStream.trans ?_ (ih (storeSegment stream s))
    unfold storeSegment
    split
    · exact ⟨_, stream.pending, rfl⟩
    · exact ⟨stream.data, _, rfl⟩

theorem storeSegments_longer (stream : RecvStreamState) (segments : List (Chunk UInt8)) :
    stream.data.length ≤ (segments.foldl storeSegment stream).data.length := by
  induction segments generalizing stream with
  | nil => exact le_rfl
  | cons s rest ih =>
    refine le_trans ?_ (ih (storeSegment stream s))
    unfold storeSegment
    split <;> simp

variable {pending : List PendingRecvStreamFrame} {next : PendingRecvStreamFrame} {offset : Nat}

theorem pendingRecvFrameAt_some (found : pendingRecvFrameAt pending offset = some next) :
    next.offset = offset ∧ ∃ before later, pending = before ++ next :: later ∧
      (pending.eraseP fun p => p.offset = offset) = before ++ later := by
  obtain ⟨here, before, later, rfl, skipped⟩ := find?_eq_some_iff_append.mp found
  have at' : next.offset = offset := by simpa using here
  refine ⟨at', before, later, rfl, ?_⟩
  rw [eraseP_append_right _ (by simpa using skipped), eraseP_cons_of_pos (by simpa using at')]

theorem pendingRecvFrameAt_none : pendingRecvFrameAt pending offset = none ↔ ∀ p ∈ pending, p.offset ≠ offset := by
  simp [pendingRecvFrameAt]

/-- Moving the segment that continues the prefix is a storing of that segment. -/
theorem moveSegment_assembled (h : Assembled stream) {before later : List PendingRecvStreamFrame}
    (split : stream.pending = before ++ next :: later)
    (here : next.offset = stream.data.length) : let moved : RecvStreamState :=
      { stream with data := stream.data ++ next.data, pending := before ++ later }
    Assembled moved ∧ byteCount moved = byteCount stream ∧ received moved = received stream ∧
      (∀ f, Holds f stream → Holds f moved) ∧ moved.data.length = next.stop := by
  have member : next ∈ stream.pending := by simp [split]
  have sub : ∀ p ∈ before ++ later, p ∈ stream.pending := by
    intro p hp
    rw [split]
    simp only [mem_append, mem_cons] at hp ⊢
    tauto
  have newLength : (stream.data ++ next.data).length = next.stop := by simp [stop, here]
  have perm : stream.pending.Perm (next :: (before ++ later)) := by
    rw [split]
    exact perm_middle
  have apart := pairwise_cons.mp ((perm.pairwise_iff fun h => Apart.symm h).mp h.apart)
  refine ⟨⟨fun p hp => h.nonempty p (sub p hp), apart.2, fun p hp => ?_,
    fun p hp => h.bounded p (sub p hp), ?_⟩, ?_, ?_, fun f holds => ?_, newLength⟩
  · have := h.beyond p (sub p hp)
    have := offset_lt_stop (h.nonempty p (sub p hp))
    have := apart.1 p hp
    unfold Apart at this
    dsimp only
    rw [newLength]
    omega
  · dsimp only
    rw [newLength]
    exact h.bounded next member
  · simp only [byteCount, split, size_append, size_cons, length_append]
    omega
  · ext i
    simp only [mem_received, split, covered_append, covered_cons, Finset.mem_union, newLength, mem_span]
    by_cases first : i ∈ covered before
    · simp [first]
    · by_cases second : i ∈ covered later
      · simp [second]
      · have low : next.offset ≤ next.stop := by simp [stop]
        simp only [first, second, or_false, false_or]
        omega
  · exact ⟨Holds.extend holds.1 (holds.2 next member) here, fun p hp => holds.2 p (sub p hp)⟩

/- Draining moves bytes from the segments to the prefix and does nothing else. -/
structure DrainedFrom (stream drained : RecvStreamState) : Prop where
  assembled : Assembled drained
  same : SameStream stream drained
  count : byteCount drained = byteCount stream
  held : received drained = received stream
  holds : ∀ f, Holds f stream → Holds f drained
  longer : stream.data.length ≤ drained.data.length

theorem drainMove_spec (fuel : Nat) (h : Assembled stream) (enough : stream.pending.length < fuel) :
    ∃ drained, drainMove fuel stream.data.length stream = .ok drained ∧ DrainedFrom stream drained ∧
      ∀ p ∈ drained.pending, p.offset ≠ drained.data.length := by
  induction fuel generalizing stream with
  | zero => omega
  | succ fuel ih =>
    simp only [drainMove]
    cases found : pendingRecvFrameAt stream.pending stream.data.length with
    | none =>
      exact ⟨stream, rfl, ⟨h, .refl stream, rfl, rfl, fun _ holds => holds, le_rfl⟩,
        pendingRecvFrameAt_none.mp found⟩
    | some next =>
      obtain ⟨here, before, later, split, erased⟩ := pendingRecvFrameAt_some found
      obtain ⟨moved, count, offsets, keeps, newLength⟩ := moveSegment_assembled h split here
      have bounded := h.bounded next (by simp [split])
      have stopEq : endOffset stream.data.length next.data.length = some next.stop := by
        rw [← here]
        exact endOffset_some.mpr ⟨rfl, bounded⟩
      obtain ⟨drained, run, rest, stuck⟩ :=
        ih moved (by simp only [split, length_append, length_cons] at enough ⊢; omega)
      have longer := rest.longer
      simp only [stopEq, erased]
      rw [newLength] at run longer
      have first : stream.data.length ≤ next.stop := here ▸ Nat.le_add_right _ _
      exact ⟨drained, run, ⟨rest.assembled, SameStream.trans ⟨_, _, rfl⟩ rest.same,
        rest.count.trans count, rest.held.trans offsets, fun f holds => rest.holds f (keeps f holds),
        first.trans longer⟩, stuck⟩

/-- The measuring loop ends: each segment it meets starts before the place it looks next. -/
theorem drainLength_spec (fuel : Nat) (h : Assembled stream) (expected total : Nat)
    (here : stream.data.length + total = expected)
    (enough : (stream.pending.filter fun p => expected ≤ p.offset).length < fuel) :
    ∃ len, drainLength stream.pending fuel expected total = .ok len ∧ total ≤ len ∧
      (pendingRecvFrameAt stream.pending expected ≠ none → total < len) := by
  induction fuel generalizing expected total with
  | zero => omega
  | succ fuel ih =>
    simp only [drainLength]
    cases found : pendingRecvFrameAt stream.pending expected with
    | none => exact ⟨total, rfl, le_rfl, fun h => absurd rfl h⟩
    | some next =>
      obtain ⟨at', before, later, split, _⟩ := pendingRecvFrameAt_some found
      have member : next ∈ stream.pending := by simp [split]
      have bounded := h.bounded next member
      have proper := offset_lt_stop (h.nonempty next member)
      have stopEq : endOffset expected next.data.length = some next.stop := by
        rw [← at']
        exact endOffset_some.mpr ⟨rfl, bounded⟩
      have sumEq : addU64 total next.data.length = some (total + next.data.length) := by
        unfold addU64 maxU64
        unfold stop maxQuicVarint at bounded
        rw [if_pos (by omega)]
      have fewer : (stream.pending.filter fun p => next.stop ≤ p.offset).length <
          (stream.pending.filter fun p => expected ≤ p.offset).length := by
        have later' : ∀ l : List PendingRecvStreamFrame, (l.filter fun p => next.stop ≤ p.offset).length ≤
              (l.filter fun p => expected ≤ p.offset).length := by
          intro l
          apply List.Sublist.length_le
          apply monotone_filter_right
          intro p hp
          simp only [decide_eq_true_eq] at hp ⊢
          omega
        have head := later' before
        have tail := later' later
        have out : decide (next.stop ≤ next.offset) = false := by simpa using proper
        have inn : decide (expected ≤ next.offset) = true := by simp [at']
        simp only [split, filter_append, filter_cons, out, inn, length_append,
          Bool.false_eq_true, if_false, if_true, length_cons]
        omega
      obtain ⟨len, run, le, _⟩ := ih next.stop (total + next.data.length)
        (by rw [stop, at']; omega) (by omega)
      simp only [sumEq, stopEq]
      refine ⟨len, run, by omega, fun _ => ?_⟩
      unfold stop at proper
      omega

/-- Draining never fails on a well-formed stream. It moves bytes from the buffer to the
prefix until no buffered segment continues it. -/
theorem drainStream_spec (h : Assembled stream) :
    ∃ drained, drainStream stream = .ok drained ∧ DrainedFrom stream drained ∧
      ∀ p ∈ drained.pending, p.offset ≠ drained.data.length := by
  obtain ⟨len, run, _, positive⟩ := drainLength_spec (stream.pending.length + 1) h
    stream.data.length 0 rfl
    (Nat.lt_succ_of_le (length_filter_le _ _))
  simp only [drainStream, run]
  cases len with
  | zero =>
    have stuck : pendingRecvFrameAt stream.pending stream.data.length = none := by
      by_contra found
      exact absurd (positive found) (by omega)
    exact ⟨stream, rfl, ⟨h, .refl stream, rfl, rfl, fun _ holds => holds, le_rfl⟩, pendingRecvFrameAt_none.mp stuck⟩
  | succ len => exact drainMove_spec (stream.pending.length + 1) h (Nat.lt_succ_self _)

end Quicz
