import Quicz.Recv.Reassembly

/-! The gap-collection loop walks an unsorted list of segments and restarts its search
after each one. Its result is described without the walk: the segments it returns fill
the part of the frame that is not held yet. -/
namespace Quicz

open Chunks List Chunk

/- `o` is the overlap of [start, stop) with one of the segments. -/
structure IsOverlap (start stop : Nat) (ps : List PendingRecvStreamFrame) (o : PendingRecvOverlap) : Prop where
  mem : o.pending ∈ ps
  start_eq : o.start = max start o.pending.offset
  stop_eq : o.stop = min stop o.pending.stop
  proper : o.start < o.stop

variable {o : PendingRecvOverlap}

theorem IsOverlap.mono {start stop : Nat} {ps qs : List PendingRecvStreamFrame}
    (h : IsOverlap start stop ps o) (sub : ∀ p ∈ ps, p ∈ qs) : IsOverlap start stop qs o :=
  ⟨sub _ h.mem, h.start_eq, h.stop_eq, h.proper⟩

/-- What one turn keeps: the earlier of the old overlap and the segment's own. -/
theorem earlierOverlap_spec (start stop : Nat) (acc : Option PendingRecvOverlap)
    (p : PendingRecvStreamFrame) (bounded : p.stop ≤ maxQuicVarint) :
    ∃ r, earlierOverlap start stop acc p = .ok r ∧ (r = acc ∨ ∃ o, r = some o ∧ IsOverlap start stop [p] o) ∧
      (max start p.offset < min stop p.stop → ∃ o, r = some o ∧ o.start ≤ max start p.offset) ∧
      (∀ a, acc = some a → ∃ o, r = some o ∧ o.start ≤ a.start) := by
  have stopEq : endOffset p.offset p.data.length = some p.stop :=
    endOffset_some.mpr ⟨rfl, bounded⟩
  simp only [earlierOverlap, stopEq]
  split
  · rename_i none
    exact ⟨acc, rfl, Or.inl rfl, fun h => by omega, fun a ha => ⟨a, ha, le_rfl⟩⟩
  · rename_i overlaps
    have own : IsOverlap start stop [p] ⟨p, max start p.offset, min stop p.stop⟩ :=
      ⟨mem_singleton_self p, rfl, rfl, by dsimp only; omega⟩
    cases acc with
    | none => exact ⟨_, rfl, Or.inr ⟨_, rfl, own⟩, fun _ => ⟨_, rfl, le_rfl⟩, by simp⟩
    | some old =>
      dsimp only
      split
      · rename_i earlier
        refine ⟨_, rfl, Or.inr ⟨_, rfl, own⟩, fun _ => ⟨_, rfl, le_rfl⟩, ?_⟩
        intro a ha
        cases ha
        exact ⟨_, rfl, by dsimp only; omega⟩
      · rename_i later
        refine ⟨_, rfl, Or.inl rfl, fun _ => ⟨old, rfl, by omega⟩, ?_⟩
        intro a ha
        cases ha
        exact ⟨_, rfl, le_rfl⟩

theorem earliestFrom_spec (start stop : Nat) (ps : List PendingRecvStreamFrame)
    (bounded : ∀ p ∈ ps, p.stop ≤ maxQuicVarint) (acc : Option PendingRecvOverlap) :
    ∃ r, ps.foldlM (earlierOverlap start stop) acc = .ok r ∧
      (r = acc ∨ ∃ o, r = some o ∧ IsOverlap start stop ps o) ∧
      (∀ p ∈ ps, max start p.offset < min stop p.stop → ∃ o, r = some o ∧ o.start ≤ max start p.offset) ∧
      (∀ a, acc = some a → ∃ o, r = some o ∧ o.start ≤ a.start) := by
  induction ps generalizing acc with
  | nil => exact ⟨acc, rfl, Or.inl rfl, by simp, fun a ha => ⟨a, ha, le_rfl⟩⟩
  | cons p ps ih =>
    obtain ⟨mid, turn, origin, own, keeps⟩ :=
      earlierOverlap_spec start stop acc p (bounded p mem_cons_self)
    obtain ⟨r, rest, origin', own', keeps'⟩ :=
      ih (fun q hq => bounded q (mem_cons_of_mem _ hq)) mid
    refine ⟨r, ?_, ?_, ?_, ?_⟩
    · rw [foldlM_cons, turn]
      exact rest
    · rcases origin' with rfl | ⟨o, ho, isOverlap⟩
      · rcases origin with old | ⟨o, ho, isOverlap⟩
        · exact Or.inl old
        · exact Or.inr ⟨o, ho, isOverlap.mono (by simp)⟩
      · exact Or.inr ⟨o, ho, isOverlap.mono fun q hq => mem_cons_of_mem _ hq⟩
    · intro q hq overlaps
      rcases mem_cons.mp hq with rfl | tail
      · obtain ⟨o, ho, le⟩ := own overlaps
        obtain ⟨o', ho', le'⟩ := keeps' o ho
        exact ⟨o', ho', le'.trans le⟩
      · exact own' q tail overlaps
    · intro a ha
      obtain ⟨o, ho, le⟩ := keeps a ha
      obtain ⟨o', ho', le'⟩ := keeps' o ho
      exact ⟨o', ho', le'.trans le⟩

/-- The search never fails on a well-formed stream; it finds nothing only if nothing
overlaps, and otherwise an overlap that no other one precedes. -/
theorem earliestPendingRecvOverlap_spec {stream : RecvStreamState} (h : Assembled stream) (start stop : Nat) :
    (earliestPendingRecvOverlap stream start stop = .ok none ∧
      ∀ p ∈ stream.pending, min stop p.stop ≤ max start p.offset) ∨
    ∃ o, earliestPendingRecvOverlap stream start stop = .ok (some o) ∧ IsOverlap start stop stream.pending o ∧
      ∀ p ∈ stream.pending, max start p.offset < min stop p.stop → o.start ≤ max start p.offset := by
  obtain ⟨r, run, origin, own, _⟩ := earliestFrom_spec start stop stream.pending h.bounded none
  rcases origin with rfl | ⟨o, rfl, isOverlap⟩
  · refine Or.inl ⟨run, fun p hp => ?_⟩
    by_contra overlaps
    obtain ⟨o, ho, _⟩ := own p hp (by omega)
    cases ho
  · refine Or.inr ⟨o, run, isOverlap, fun p hp overlaps => ?_⟩
    obtain ⟨o', ho', le⟩ := own p hp overlaps
    cases ho'
    exact le

/- The segments fill [lo, hi) around the buffered ones. -/
structure Fresh (stream : RecvStreamState) (lo hi : Nat) (segments : List (Chunk UInt8)) : Prop where
  nonempty : ∀ s ∈ segments, s.data ≠ []
  inside : ∀ s ∈ segments, lo ≤ s.offset ∧ s.stop ≤ hi
  ordered : segments.Pairwise fun a b => a.stop ≤ b.offset
  apart : ∀ s ∈ segments, ∀ p ∈ stream.pending, Apart s p
  complete : ∀ i, lo ≤ i → i < hi → i ∈ covered segments ∨ i ∈ covered stream.pending

theorem fresh_empty (stream : RecvStreamState) (lo : Nat) : Fresh stream lo lo [] :=
  ⟨by simp, by simp, .nil, by simp, fun i hl hh => by omega⟩

variable {stream : RecvStreamState} {f : Nat → UInt8} {incoming : Chunk UInt8} {cursor stop : Nat}

theorem fresh_gap (h : Assembled stream) (lo : incoming.offset ≤ cursor)
    (top : stop = incoming.stop) (overlap : IsOverlap cursor stop stream.pending o)
    (earliest : ∀ p ∈ stream.pending, max cursor p.offset < min stop p.stop → o.start ≤ max cursor p.offset)
    {rest : List (Chunk UInt8)} (tail : Fresh stream o.stop stop rest) : Fresh stream cursor stop
      ((if o.start > cursor then [⟨cursor, incoming.window cursor o.start⟩] else []) ++ rest) := by
  have proper := overlap.proper
  have startEq := overlap.start_eq
  have stopEq := overlap.stop_eq
  by_cases gap : o.start > cursor
  · rw [if_pos gap]
    have len : (incoming.window cursor o.start).length = o.start - cursor :=
      window_length lo (by omega)
    have gapStop : (⟨cursor, incoming.window cursor o.start⟩ : Chunk UInt8).stop = o.start := by
      simp only [Chunk.stop, len]
      omega
    refine ⟨?_, ?_, ?_, ?_, ?_⟩
    · intro s hs
      rcases mem_cons.mp hs with rfl | ht
      · exact length_pos_iff.mp (by dsimp only; omega)
      · exact tail.nonempty s ht
    · intro s hs
      rcases mem_cons.mp hs with rfl | ht
      · exact ⟨le_rfl, by rw [gapStop]; omega⟩
      · exact ⟨by have := (tail.inside s ht).1; omega, (tail.inside s ht).2⟩
    · refine pairwise_cons.mpr ⟨fun s hs => ?_, tail.ordered⟩
      rw [gapStop]
      have := (tail.inside s hs).1
      omega
    · intro s hs p hp
      rcases mem_cons.mp hs with rfl | ht
      · have first := earliest p hp
        have := offset_lt_stop (h.nonempty p hp)
        unfold Apart
        rw [gapStop]
        dsimp only
        omega
      · exact tail.apart s ht p hp
    · intro i hl hh
      by_cases before : i < o.start
      · left
        rw [mem_covered]
        exact ⟨_, mem_cons_self, hl, by rw [gapStop]; exact before⟩
      · by_cases within : i < o.stop
        · right
          exact mem_covered.mpr ⟨o.pending, overlap.mem, by omega, by omega⟩
        · rcases tail.complete i (by omega) hh with new | old
          · left
            simp only [singleton_append, covered_cons, Finset.mem_union]
            exact Or.inr new
          · exact Or.inr old
  · rw [if_neg gap, nil_append]
    refine ⟨tail.nonempty, ?_, tail.ordered, tail.apart, ?_⟩
    · intro s hs
      exact ⟨by have := (tail.inside s hs).1; omega, (tail.inside s hs).2⟩
    · intro i hl hh
      by_cases within : i < o.stop
      · right
        exact mem_covered.mpr ⟨o.pending, overlap.mem, by omega, by omega⟩
      · exact tail.complete i (by omega) hh

theorem fresh_rest (h : Assembled stream) (lo : incoming.offset ≤ cursor)
    (top : stop = incoming.stop) (hi : cursor < stop)
    (none : ∀ p ∈ stream.pending, min stop p.stop ≤ max cursor p.offset) :
    Fresh stream cursor stop [⟨cursor, incoming.data.drop (cursor - incoming.offset)⟩] := by
  have restStop : (⟨cursor, incoming.data.drop (cursor - incoming.offset)⟩ : Chunk UInt8).stop = stop := by
    unfold Chunk.stop at top
    simp only [Chunk.stop, length_drop]
    omega
  refine ⟨?_, ?_, pairwise_singleton _ _, ?_, ?_⟩
  · intro s hs
    rw [mem_singleton.mp hs]
    apply length_pos_iff.mp
    unfold Chunk.stop at top
    simp only [length_drop]
    omega
  · intro s hs
    rw [mem_singleton.mp hs]
    exact ⟨le_rfl, restStop.le⟩
  · intro s hs p hp
    rw [mem_singleton.mp hs]
    have := none p hp
    have := offset_lt_stop (h.nonempty p hp)
    unfold Apart
    rw [restStop]
    dsimp only
    omega
  · intro i hl hh
    left
    rw [mem_covered]
    exact ⟨_, mem_singleton_self _, hl, by rw [restStop]; exact hh⟩

variable {segments : List (Chunk UInt8)}

theorem collectGaps_fresh (h : Assembled stream) {stop : Nat} (top : stop = incoming.stop) (fuel : Nat)
    {cursor : Nat} (lo : incoming.offset ≤ cursor) (hi : cursor ≤ stop)
    (collected : collectGaps stream incoming stop fuel cursor = .ok segments) :
    Fresh stream cursor stop segments := by
  induction fuel generalizing cursor segments with
  | zero => cases collected
  | succ fuel ih =>
    simp only [collectGaps] at collected
    split at collected
    · rename_i more
      rcases earliestPendingRecvOverlap_spec h cursor stop with ⟨run, none⟩ | ⟨o, run, overlap, first⟩
      · simp only [run, Except.ok.injEq] at collected
        subst collected
        exact fresh_rest h lo top more none
      · simp only [run] at collected
        split at collected
        · cases collected
        · cases rec : collectGaps stream incoming stop fuel o.stop with
          | error e => simp only [rec] at collected; cases collected
          | ok rest =>
            simp only [rec, Except.ok.injEq] at collected
            subst collected
            have := overlap.start_eq
            have := overlap.stop_eq
            have := overlap.proper
            exact fresh_gap h lo top overlap first (ih (by omega) (by omega) rec)
    · cases collected
      obtain rfl : cursor = stop := by omega
      exact fresh_empty stream cursor

/-- When frame and segments agree with one sequence, the loop neither fails nor stops
early, and what it collects agrees with the sequence too. -/
theorem collectGaps_agrees (h : Assembled stream) (buffered : ∀ p ∈ stream.pending, p.Agrees f)
    (agrees : incoming.Agrees f) {stop : Nat} (top : stop = incoming.stop) (fuel cursor : Nat)
    (lo : incoming.offset ≤ cursor) (hi : cursor ≤ stop) (enough : stop - cursor < fuel) :
    ∃ segments, collectGaps stream incoming stop fuel cursor = .ok segments ∧ ∀ s ∈ segments, s.Agrees f := by
  induction fuel generalizing cursor with
  | zero => omega
  | succ fuel ih =>
    simp only [collectGaps]
    split
    · rename_i more
      rcases earliestPendingRecvOverlap_spec h cursor stop with ⟨run, none⟩ | ⟨o, run, overlap, first⟩
      · simp only [run]
        refine ⟨_, rfl, fun s hs => ?_⟩
        rw [mem_singleton.mp hs, agrees.tail lo (by omega)]
        exact agrees_slice f (by omega)
      · have := overlap.start_eq
        have := overlap.stop_eq
        have := overlap.proper
        have same : incoming.window o.start o.stop = o.pending.window o.start o.stop := by
          rw [agrees.window (by omega) (by omega) (by omega),
            (buffered _ overlap.mem).window (by omega) (by omega) (by omega)]
        obtain ⟨rest, rec, restAgrees⟩ := ih o.stop (by omega) (by omega) (by omega)
        simp only [run, same, ne_eq, not_true_eq_false, if_false, rec]
        refine ⟨_, rfl, fun s hs => ?_⟩
        rcases mem_append.mp hs with gap | tail
        · split at gap
          · rw [mem_singleton.mp gap, agrees.window lo (by omega) (by omega)]
            exact agrees_slice f (by omega)
          · cases gap
        · exact restAgrees s tail
    · exact ⟨[], rfl, by simp⟩

/-- The segments found for a frame fill its new part: what lies beyond the contiguous
prefix and outside the buffered segments. -/
theorem collectNewRecvStreamDataSegments_fresh (h : Assembled stream)
    (collected : collectNewRecvStreamDataSegments stream incoming = .ok segments) :
    Fresh stream (min (max incoming.offset stream.data.length) incoming.stop) incoming.stop segments := by
  simp only [collectNewRecvStreamDataSegments] at collected
  split at collected
  · rename_i empty
    cases collected
    have : incoming.stop = incoming.offset := by simp [stop, empty]
    rw [show min (max incoming.offset stream.data.length) incoming.stop = incoming.stop by omega]
    exact fresh_empty stream _
  · split at collected
    · cases collected
    · rename_i stop stopEq
      have top : stop = incoming.stop := (endOffset_some.mp stopEq).1
      have low : incoming.offset ≤ incoming.stop := by simp [Chunk.stop]
      split at collected
      · rename_i duplicates
        split at collected
        · cases collected
        · split at collected
          · cases collected
            rw [show min (max incoming.offset stream.data.length) incoming.stop = incoming.stop by omega]
            exact fresh_empty stream _
          · have := collectGaps_fresh h top _ (by omega) (by omega) collected
            rwa [top, show min stream.data.length incoming.stop =
              min (max incoming.offset stream.data.length) incoming.stop by omega] at this
      · have := collectGaps_fresh h top _ (by omega) (by omega) collected
        rwa [top, show incoming.offset = min (max incoming.offset stream.data.length) incoming.stop by omega] at this

theorem collectNewRecvStreamDataSegments_agrees (h : Assembled stream) (holds : Holds f stream)
    (agrees : incoming.Agrees f) (bounded : incoming.stop ≤ maxQuicVarint) :
    ∃ segments, collectNewRecvStreamDataSegments stream incoming = .ok segments ∧ ∀ s ∈ segments, s.Agrees f := by
  have stopEq : endOffset incoming.offset incoming.data.length = some incoming.stop :=
    endOffset_some.mpr ⟨rfl, bounded⟩
  have contiguous : (⟨0, stream.data⟩ : Chunk UInt8).Agrees f := by
    simpa [Chunk.Agrees, stop] using holds.1
  have len : incoming.stop - incoming.offset = incoming.data.length := by simp [stop]
  have low : incoming.offset ≤ incoming.stop := by simp [stop]
  simp only [collectNewRecvStreamDataSegments, stopEq]
  split
  · exact ⟨[], rfl, by simp⟩
  · split
    · rename_i duplicates
      have same : (⟨0, stream.data⟩ : Chunk UInt8).window incoming.offset
          (min stream.data.length incoming.stop) =
          incoming.window incoming.offset (min stream.data.length incoming.stop) := by
        rw [contiguous.window (by simp) (by omega) (by simp [stop]), agrees.window le_rfl (by omega) (by omega)]
      simp only [same, ne_eq, not_true_eq_false, if_false]
      split
      · exact ⟨[], rfl, by simp⟩
      · exact collectGaps_agrees h holds.2 agrees rfl _ _ (by omega) (by omega) (by omega)
    · exact collectGaps_agrees h holds.2 agrees rfl _ _ le_rfl low (by omega)

theorem pendingConflict_agrees (agrees : incoming.Agrees f) (ps : List PendingRecvStreamFrame)
    (each : ∀ p ∈ ps, p.Agrees f) (bounded : ∀ p ∈ ps, p.stop ≤ maxQuicVarint) :
    pendingConflict incoming incoming.stop ps = .ok false := by
  induction ps with
  | nil => rfl
  | cons p ps ih =>
    have rest := ih (fun q hq => each q (mem_cons_of_mem _ hq))
      fun q hq => bounded q (mem_cons_of_mem _ hq)
    have stopEq : endOffset p.offset p.data.length = some p.stop :=
      endOffset_some.mpr ⟨rfl, bounded p mem_cons_self⟩
    simp only [pendingConflict, stopEq]
    split
    · exact rest
    · have same : p.window (max incoming.offset p.offset) (min incoming.stop p.stop) =
          incoming.window (max incoming.offset p.offset) (min incoming.stop p.stop) := by
        rw [(each p mem_cons_self).window (by omega) (by omega) (by omega),
          agrees.window (by omega) (by omega) (by omega)]
      simp only [same, ne_eq, not_true_eq_false, if_false]
      exact rest

/-- Pieces of one sequence never contradict each other. -/
theorem streamFrameHasConflictingOverlap_agrees (h : Assembled stream) (holds : Holds f stream)
    (agrees : incoming.Agrees f) (bounded : incoming.stop ≤ maxQuicVarint) :
    streamFrameHasConflictingOverlap stream incoming = .ok false := by
  have stopEq : endOffset incoming.offset incoming.data.length = some incoming.stop :=
    endOffset_some.mpr ⟨rfl, bounded⟩
  have contiguous : (⟨0, stream.data⟩ : Chunk UInt8).Agrees f := by
    simpa [Chunk.Agrees, stop] using holds.1
  simp only [streamFrameHasConflictingOverlap, stopEq]
  split
  · rfl
  · rw [if_neg]
    · exact pendingConflict_agrees agrees _ holds.2 h.bounded
    · rintro ⟨overlap, differ⟩
      apply differ
      rw [contiguous.window (by simp) (by omega) (by simp [stop]), agrees.window le_rfl (by omega) (by omega)]

end Quicz
