import Quicz.Connection

/-! Reassembly of one receive stream: which bytes of an incoming STREAM frame are new,
where they are stored, and how buffered segments join the contiguous prefix. -/
namespace Quicz

open Chunks

def addPendingLength (received : Nat) (pending : PendingRecvStreamFrame) : Except Error Nat :=
  match addU64 received pending.data.length with
  | some total => .ok total
  | none => .error .invalidPacket

def receivedStreamByteCount (stream : RecvStreamState) : Except Error Nat :=
  stream.pending.foldlM addPendingLength stream.data.length

def maxPendingEnd (highest : Nat) (pending : PendingRecvStreamFrame) : Except Error Nat :=
  match endOffset pending.offset pending.data.length with
  | some pendingEnd => .ok (max highest pendingEnd)
  | none => .error .invalidPacket

def highestReceivedStreamEndOffset (stream : RecvStreamState) : Except Error Nat :=
  stream.pending.foldlM maxPendingEnd stream.data.length

def pendingConflict (incoming : Chunk UInt8) (stop : Nat) : List PendingRecvStreamFrame → Except Error Bool
  | [] => .ok false
  | pending :: rest =>
    match endOffset pending.offset pending.data.length with
    | none => .error .invalidPacket
    | some pendingEnd =>
      let overlapStart := max incoming.offset pending.offset
      let overlapEnd := min stop pendingEnd
      if overlapStart ≥ overlapEnd then pendingConflict incoming stop rest
      else if pending.window overlapStart overlapEnd ≠ incoming.window overlapStart overlapEnd then
        .ok true
      else pendingConflict incoming stop rest

def streamFrameHasConflictingOverlap (stream : RecvStreamState) (incoming : Chunk UInt8) : Except Error Bool :=
  if incoming.data = [] then .ok false
  else
    match endOffset incoming.offset incoming.data.length with
    | none => .error .invalidPacket
    | some stop =>
      let overlapEnd := min stop stream.data.length
      if incoming.offset < overlapEnd ∧ (⟨0, stream.data⟩ : Chunk UInt8).window incoming.offset overlapEnd ≠
            incoming.window incoming.offset overlapEnd then .ok true
      else pendingConflict incoming stop stream.pending

structure PendingRecvOverlap where
  pending : PendingRecvStreamFrame
  start : Nat
  stop : Nat

def earlierOverlap (start stop : Nat) (earliest : Option PendingRecvOverlap)
    (pending : PendingRecvStreamFrame) : Except Error (Option PendingRecvOverlap) :=
  match endOffset pending.offset pending.data.length with
  | none => .error .invalidPacket
  | some pendingEnd =>
    let overlapStart := max start pending.offset
    let overlapEnd := min stop pendingEnd
    if overlapStart ≥ overlapEnd then .ok earliest
    else
      match earliest with
      | none => .ok (some ⟨pending, overlapStart, overlapEnd⟩)
      | some old =>
        if overlapStart < old.start then .ok (some ⟨pending, overlapStart, overlapEnd⟩)
        else .ok (some old)

def earliestPendingRecvOverlap (stream : RecvStreamState) (start stop : Nat) :
    Except Error (Option PendingRecvOverlap) :=
  stream.pending.foldlM (earlierOverlap start stop) none

/- The gap-collection loop, from `cursor` to the end of the frame. Every round moves the
cursor past a buffered segment, so the frame length bounds the rounds. -/
def collectGaps (stream : RecvStreamState) (incoming : Chunk UInt8) (stop : Nat) :
    Nat → Nat → Except Error (List (Chunk UInt8))
  | 0, _ => .error .internal
  | fuel + 1, cursor =>
    if cursor < stop then
      match earliestPendingRecvOverlap stream cursor stop with
      | .error e => .error e
      | .ok none => .ok [⟨cursor, incoming.data.drop (cursor - incoming.offset)⟩]
      | .ok (some overlap) =>
        let gap := if overlap.start > cursor then [⟨cursor, incoming.window cursor overlap.start⟩] else []
        if incoming.window overlap.start overlap.stop ≠
            overlap.pending.window overlap.start overlap.stop then .error .invalidPacket
        else
          match collectGaps stream incoming stop fuel overlap.stop with
          | .error e => .error e
          | .ok rest => .ok (gap ++ rest)
    else .ok []

/-- The new segments of a frame. The byte count the code returns beside them is their
total length. -/
def collectNewRecvStreamDataSegments (stream : RecvStreamState) (incoming : Chunk UInt8) :
    Except Error (List (Chunk UInt8)) :=
  if incoming.data = [] then .ok []
  else
    match endOffset incoming.offset incoming.data.length with
    | none => .error .invalidPacket
    | some stop =>
      if incoming.offset < stream.data.length then
        -- bytes below the contiguous length are duplicates and must be identical
        let duplicateEnd := min stream.data.length stop
        if (⟨0, stream.data⟩ : Chunk UInt8).window incoming.offset duplicateEnd ≠
            incoming.window incoming.offset duplicateEnd then .error .invalidPacket
        else if duplicateEnd = stop then .ok []
        else collectGaps stream incoming stop (incoming.data.length + 1) duplicateEnd
      else collectGaps stream incoming stop (incoming.data.length + 1) incoming.offset

def storeSegment (stream : RecvStreamState) (segment : Chunk UInt8) : RecvStreamState :=
  if segment.offset = stream.data.length then { stream with data := stream.data ++ segment.data }
  else { stream with pending := stream.pending ++ [segment] }

def pendingRecvFrameAt (pending : List PendingRecvStreamFrame) (offset : Nat) : Option PendingRecvStreamFrame :=
  pending.find? fun p => p.offset = offset

/- The first loop of the drain only measures: it walks from segment to segment without
removing them. A walk longer than the list would never end. -/
def drainLength (pending : List PendingRecvStreamFrame) : Nat → Nat → Nat → Except Error Nat
  | 0, _, _ => .error .internal
  | fuel + 1, expected, total =>
    match pendingRecvFrameAt pending expected with
    | none => .ok total
    | some next =>
      match addU64 total next.data.length, endOffset expected next.data.length with
      | some total, some expected => drainLength pending fuel expected total
      | _, _ => .error .invalidPacket

def drainMove : Nat → Nat → RecvStreamState → Except Error RecvStreamState
  | 0, _, _ => .error .internal
  | fuel + 1, expected, stream =>
    match pendingRecvFrameAt stream.pending expected with
    | none => .ok stream
    | some next =>
      match endOffset expected next.data.length with
      | none => .error .invalidPacket
      | some stop =>
        drainMove fuel stop { stream with
          data := stream.data ++ next.data
          pending := stream.pending.eraseP fun p => p.offset = expected }

def drainStream (stream : RecvStreamState) : Except Error RecvStreamState :=
  match drainLength stream.pending (stream.pending.length + 1) stream.data.length 0 with
  | .error e => .error e
  | .ok 0 => .ok stream
  | .ok _ => drainMove (stream.pending.length + 1) stream.data.length stream

structure Assembled (stream : RecvStreamState) : Prop where
  nonempty : ∀ p ∈ stream.pending, p.data ≠ []
  apart : stream.pending.Pairwise Apart
  beyond : ∀ p ∈ stream.pending, stream.data.length ≤ p.offset
  bounded : ∀ p ∈ stream.pending, p.stop ≤ maxQuicVarint
  short : stream.data.length ≤ maxQuicVarint

def received (stream : RecvStreamState) : Finset Nat :=
  Finset.range stream.data.length ∪ covered stream.pending

def byteCount (stream : RecvStreamState) : Nat := stream.data.length + size stream.pending

variable {stream : RecvStreamState} (ps : List PendingRecvStreamFrame)

theorem mem_received {i : Nat} : i ∈ received stream ↔ i < stream.data.length ∨ i ∈ covered stream.pending := by
  simp [received]

theorem Assembled.card_received (h : Assembled stream) : (received stream).card = byteCount stream := by
  have disjoint : Disjoint (Finset.range stream.data.length) (covered stream.pending) := by
    rw [Finset.disjoint_left]
    intro i hi hc
    obtain ⟨p, hp, lo, _⟩ := mem_covered.mp hc
    have := h.beyond p hp
    have := Finset.mem_range.mp hi
    omega
  rw [received, Finset.card_union_of_disjoint disjoint, Finset.card_range, card_covered h.apart, byteCount]

/-- Everything the stream holds is a piece of the sequence f. -/
def Holds (f : Nat → UInt8) (stream : RecvStreamState) : Prop :=
  stream.data = slice f 0 stream.data.length ∧ ∀ p ∈ stream.pending, p.Agrees f

/-- Appending a run of f that starts where the prefix ends extends the prefix of f. -/
theorem Holds.extend {f : Nat → UInt8} {data : Bytes} {next : Chunk UInt8}
    (prefixed : data = slice f 0 data.length) (agrees : next.Agrees f) (here : next.offset = data.length) :
    data ++ next.data = slice f 0 (data ++ next.data).length := by
  have newLength : (data ++ next.data).length = next.stop := by simp [Chunk.stop, here]
  rw [newLength]
  calc data ++ next.data = slice f 0 data.length ++ slice f data.length next.stop := by
        rw [← prefixed, ← here, ← agrees]
    _ = slice f 0 next.stop := slice_append f (by omega) (by simp [Chunk.stop, here])

theorem addPendingLength_ok {acc n : Nat} (h : ps.foldlM addPendingLength acc = .ok n) : n = acc + size ps := by
  induction ps generalizing acc with
  | nil =>
    cases h
    simp
  | cons p ps ih =>
    rw [List.foldlM_cons] at h
    unfold addPendingLength addU64 at h
    split at h
    · rename_i total sum
      split at sum
      · cases sum
        rw [ih h, size_cons]
        omega
      · cases sum
    · cases h

theorem receivedStreamByteCount_ok {n : Nat} (h : receivedStreamByteCount stream = .ok n) : n = byteCount stream :=
  addPendingLength_ok stream.pending h

def highestOffset (stream : RecvStreamState) : Nat :=
  stream.pending.foldl (fun highest pending => max highest pending.stop) stream.data.length

theorem maxPendingEnd_ok {acc n : Nat} (h : ps.foldlM maxPendingEnd acc = .ok n) :
    n = ps.foldl (fun highest pending => max highest pending.stop) acc := by
  induction ps generalizing acc with
  | nil =>
    cases h
    rfl
  | cons p ps ih =>
    rw [List.foldlM_cons] at h
    unfold maxPendingEnd at h
    split at h
    · rename_i pendingEnd found
      rw [(endOffset_some.mp found).1] at h
      exact ih h
    · cases h

theorem highestReceivedStreamEndOffset_ok {n : Nat} (h : highestReceivedStreamEndOffset stream = .ok n) :
    n = highestOffset stream :=
  maxPendingEnd_ok stream.pending h

theorem maxPendingEnd_of_bounded (acc : Nat) (bounded : ∀ p ∈ ps, p.stop ≤ maxQuicVarint) :
    ps.foldlM maxPendingEnd acc = .ok (ps.foldl (fun highest pending => max highest pending.stop) acc) := by
  induction ps generalizing acc with
  | nil => rfl
  | cons p ps ih =>
    have here : maxPendingEnd acc p = .ok (max acc p.stop) := by
      rw [maxPendingEnd, endOffset_some.mpr ⟨rfl, bounded p List.mem_cons_self⟩]
      rfl
    rw [List.foldlM_cons, here]
    exact ih _ fun q hq => bounded q (List.mem_cons_of_mem _ hq)

theorem foldl_max_stop_le (acc n : Nat) : ps.foldl (fun highest pending => max highest pending.stop) acc ≤ n ↔
      acc ≤ n ∧ ∀ p ∈ ps, p.stop ≤ n := by
  induction ps generalizing acc with
  | nil => simp
  | cons p ps ih =>
    rw [List.foldl_cons, ih]
    simp [and_assoc]

theorem highestOffset_le {n : Nat} :
    highestOffset stream ≤ n ↔ stream.data.length ≤ n ∧ ∀ p ∈ stream.pending, p.stop ≤ n :=
  foldl_max_stop_le stream.pending stream.data.length n

end Quicz
