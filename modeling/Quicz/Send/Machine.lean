import Mathlib.Logic.Relation
import Quicz.Lib.Resend
import Quicz.Send.Streams

/-! The send side of the streams as a machine of its own. Its state is the table of send
streams and the pool of STREAM frames: queued, in the packets in flight, and acknowledged.
A step opens a stream, writes to one, or moves frames and marks streams. The invariant says
that every byte and every FIN the application wrote on a stream that was not reset is still
held by some frame. -/
namespace Quicz

open Chunks Resend List Keyed SendStreamState

inductive Cell
  | byte (streamId offset : Nat)
  | fin (streamId : Nat)

def Cell.streamId : Cell → Nat
  | .byte streamId _ => streamId
  | .fin streamId => streamId

namespace StreamFrame

variable (frame : StreamFrame)

def carries : Cell → Prop
  | .byte streamId i =>
    frame.streamId = streamId ∧ frame.offset ≤ i ∧ i < frame.offset + frame.data.length
  | .fin streamId => frame.streamId = streamId ∧ frame.fin = true

structure PartOf (frame whole : StreamFrame) : Prop where
  sameStream : frame.streamId = whole.streamId
  within : frame.offset + frame.data.length ≤ whole.offset + whole.data.length
  closes : frame.fin = true → whole.fin = true

theorem PartOf.refl : PartOf frame frame := ⟨rfl, le_rfl, id⟩

theorem carries_streamId {frame : StreamFrame} {cell : Cell} (h : frame.carries cell) :
    frame.streamId = cell.streamId := by
  cases cell <;> exact h.1

end StreamFrame

structure SendPart where
  streams : List SendStreamState
  pool : Pool PendingStreamFrame

def Connection.sendPart (c : Connection) : SendPart where
  streams := c.sendStreams
  pool := ⟨c.sendQueue, c.outstandingStreamFrames, c.ackedStreamFrames⟩

def SendStreamState.owes (stream : SendStreamState) : Cell → Prop
  | .byte streamId i => streamId = stream.streamId ∧ i < stream.nextOffset
  | .fin streamId => streamId = stream.streamId ∧ stream.finSent = true

theorem SendStreamState.owes_streamId {stream : SendStreamState} {cell : Cell}
    (h : stream.owes cell) : cell.streamId = stream.streamId := by
  cases cell <;> exact h.1

namespace SendPart

variable (r : SendPart)

def find (streamId : Nat) : Option SendStreamState :=
  lookup SendStreamState.streamId streamId r.streams

def put (stream : SendStreamState) : SendPart :=
  { r with streams :=
      adjust streamId stream.streamId (fun _ => stream) r.streams }

def Live (cell : Cell) : Prop :=
  ∀ stream ∈ r.streams, stream.streamId = cell.streamId → stream.resetSent = false

def Acked (cell : Cell) : Prop := ∃ frame ∈ r.pool.settled, frame.carries cell

def Idle (streamId : Nat) : Prop :=
  ∀ frame, frame ∈ r.pool.queue ∨ frame ∈ r.pool.inFlight → frame.streamId ≠ streamId

end SendPart

structure StreamMarked (t : SendPart) (old new : SendStreamState) : Prop where
  sameStream : new.streamId = old.streamId
  sameOffset : new.nextOffset = old.nextOffset
  closes : new.finSent = old.finSent ∨ (new.finSent = true ∧ new.resetSent = true)
  staysReset : old.resetSent = true → new.resetSent = true
  finAcked : new.finAcked = true → old.finAcked = true ∨ t.Acked (.fin old.streamId)
  dataAcked : new.dataAcked = true → old.dataAcked = true ∨
      (new.finAcked = true ∧ new.resetSent = false ∧ t.Idle old.streamId)

theorem StreamMarked.refl (t : SendPart) (stream : SendStreamState) : StreamMarked t stream stream :=
  ⟨rfl, rfl, Or.inl rfl, id, Or.inl, Or.inl⟩

inductive SendStep : SendPart → SendPart → Prop
  | opens {r : SendPart} (streamId maxData : Nat) (unknown : r.find streamId = none) :
      SendStep r { r with streams := r.streams ++ [{ streamId, maxData }] }
  | writes {r : SendPart} {stream : SendStreamState} {nextOffset : Nat} {fin : Bool}
      {frames : List PendingStreamFrame}
      (found : r.find stream.streamId = some stream)
      (isOpen : stream.finSent = false)
      (within : ∀ frame ∈ frames, frame.streamId = stream.streamId ∧
        frame.offset + frame.data.length ≤ nextOffset ∧ (frame.fin = true → fin = true))
      (grows : stream.nextOffset ≤ nextOffset)
      (filled : ∀ i, stream.nextOffset ≤ i → i < nextOffset →
        ∃ frame ∈ frames, frame.carries (.byte stream.streamId i))
      (ended : fin = true → ∃ frame ∈ frames, frame.carries (.fin stream.streamId)) :
      SendStep r { r.put { stream with nextOffset, finSent := fin } with
        pool := { r.pool with queue := r.pool.queue ++ frames } }
  | moves {r t : SendPart} (marked : List.Forall₂ (StreamMarked t) r.streams t.streams)
      (pool : Transfers StreamFrame.carries StreamFrame.PartOf t.Live r.pool t.pool) :
      SendStep r t

def SendSteps : SendPart → SendPart → Prop := Relation.ReflTransGen SendStep

theorem SendSteps.refl (r : SendPart) : SendSteps r r := Relation.ReflTransGen.refl

theorem SendSteps.trans {a b c : SendPart} (h : SendSteps a b) (k : SendSteps b c) : SendSteps a c :=
  Relation.ReflTransGen.trans h k

theorem SendSteps.one {a b : SendPart} (h : SendStep a b) : SendSteps a b :=
  Relation.ReflTransGen.single h

structure SendInv (r : SendPart) : Prop where
  distinct : (r.streams.map streamId).Nodup
  bounded : ∀ frame ∈ r.pool.items, ∃ stream ∈ r.streams, stream.streamId = frame.streamId ∧
    frame.offset + frame.data.length ≤ stream.nextOffset ∧
    (frame.fin = true → stream.finSent = true)
  held : ∀ stream ∈ r.streams, stream.resetSent = false →
    ∀ cell, stream.owes cell → r.pool.Holds StreamFrame.carries cell
  finAcked : ∀ stream ∈ r.streams, stream.finAcked = true → r.Acked (.fin stream.streamId)
  dataAcked : ∀ stream ∈ r.streams, stream.dataAcked = true →
    stream.finSent = true ∧ ∀ cell, stream.owes cell → r.Acked cell

theorem SendInv.unique {r : SendPart} (inv : SendInv r) {a b : SendStreamState} (ha : a ∈ r.streams)
    (hb : b ∈ r.streams) (same : a.streamId = b.streamId) : a = b :=
  inj_on_of_nodup_map inv.distinct ha hb same

variable {r t : SendPart}

theorem SendInv.opened (inv : SendInv r) {streamId maxData : Nat} (unknown : r.find streamId = none) :
    SendInv { r with streams := r.streams ++ [{ streamId, maxData }] } where
  distinct := by
    have absent : ∀ s ∈ r.streams, s.streamId ≠ streamId := lookup_none.mp unknown
    rw [map_append, nodup_append]
    refine ⟨inv.distinct, by simp, ?_⟩
    intro a mem b other
    obtain ⟨s, hs, rfl⟩ := mem_map.mp mem
    simp only [map_cons, map_nil, mem_singleton] at other
    exact other ▸ absent s hs
  bounded frame mem := by
    obtain ⟨s, hs, rest⟩ := inv.bounded frame mem
    exact ⟨s, mem_append_left _ hs, rest⟩
  held s mem live cell owes := by
    rcases mem_append.mp mem with old | new
    · exact inv.held s old live cell owes
    · -- a new stream owes nothing
      obtain rfl := mem_singleton.mp new
      cases cell <;> simp [SendStreamState.owes] at owes
  finAcked s mem acked := by
    rcases mem_append.mp mem with old | new
    · exact inv.finAcked s old acked
    · obtain rfl := mem_singleton.mp new
      cases acked
  dataAcked s mem acked := by
    rcases mem_append.mp mem with old | new
    · exact inv.dataAcked s old acked
    · obtain rfl := mem_singleton.mp new
      cases acked

theorem SendPart.mem_put {stream : SendStreamState} (known : (r.find stream.streamId).isSome) :
    stream ∈ (r.put stream).streams := by
  obtain ⟨old, found⟩ := Option.isSome_iff_exists.mp known
  have adjusted : lookup SendStreamState.streamId stream.streamId (r.put stream).streams =
      (r.find stream.streamId).map fun _ => stream := lookup_adjust_self fun _ _ => rfl
  rw [found] at adjusted
  exact (lookup_some adjusted).2

theorem SendInv.written (inv : SendInv r) {stream : SendStreamState} {nextOffset : Nat} {fin : Bool}
    {frames : List PendingStreamFrame} (found : r.find stream.streamId = some stream)
    (isOpen : stream.finSent = false)
    (within : ∀ frame ∈ frames, frame.streamId = stream.streamId ∧
      frame.offset + frame.data.length ≤ nextOffset ∧ (frame.fin = true → fin = true))
    (grows : stream.nextOffset ≤ nextOffset)
    (filled : ∀ i, stream.nextOffset ≤ i → i < nextOffset →
      ∃ frame ∈ frames, frame.carries (.byte stream.streamId i))
    (ended : fin = true → ∃ frame ∈ frames, frame.carries (.fin stream.streamId)) :
    SendInv { r.put { stream with nextOffset, finSent := fin } with
      pool := { r.pool with queue := r.pool.queue ++ frames } } := by
  set new : SendStreamState := { stream with nextOffset, finSent := fin }
  have keys : (r.put new).streams.map SendStreamState.streamId =
      r.streams.map SendStreamState.streamId := map_key_adjust fun _ _ => rfl
  have here : stream ∈ r.streams := (lookup_some found).2
  have newMem : new ∈ (r.put new).streams :=
    SendPart.mem_put (Option.isSome_iff_exists.mpr ⟨stream, found⟩)
  have table : ∀ s ∈ (r.put new).streams, s = new ∨ (s ∈ r.streams ∧ s.streamId ≠ stream.streamId) := fun s mem =>
    mem_adjust_const inv.distinct rfl mem
  have added : ∀ {frame : PendingStreamFrame} {cell : Cell}, frame ∈ frames → frame.carries cell →
      ({ r.pool with queue := r.pool.queue ++ frames } : Pool PendingStreamFrame).Holds
        StreamFrame.carries cell := fun mem carried =>
    ⟨_, Pool.mem_items.mpr (Or.inl (mem_append_right _ mem)), carried⟩
  refine ⟨keys ▸ inv.distinct, ?_, ?_, ?_, ?_⟩
  · intro frame mem
    have cases : frame ∈ frames ∨ frame ∈ r.pool.items := by
      rcases Pool.mem_items.mp mem with queued | later
      · rcases mem_append.mp queued with old | new
        · exact Or.inr (Pool.mem_items.mpr (Or.inl old))
        · exact Or.inl new
      · exact Or.inr (Pool.mem_items.mpr (Or.inr later))
    rcases cases with written | old
    · obtain ⟨id, stop, closes⟩ := within frame written
      exact ⟨new, newMem, id.symm, stop, closes⟩
    · obtain ⟨s, hs, id, stop, closes⟩ := inv.bounded frame old
      by_cases same : s.streamId = stream.streamId
      · obtain rfl := inv.unique hs here same
        refine ⟨new, newMem, id, stop.trans grows, fun closed => ?_⟩
        -- no frame of an open stream carries a FIN
        have := closes closed
        rw [isOpen] at this
        cases this
      · exact ⟨s, mem_adjust_of_ne hs same, id, stop, closes⟩
  · intro s mem live cell owes
    rcases table s mem with rfl | ⟨old, _⟩
    · cases cell with
      | byte streamId i =>
        obtain ⟨rfl, below⟩ := owes
        rcases Nat.lt_or_ge i stream.nextOffset with before | after
        · have owed : stream.owes (.byte stream.streamId i) := ⟨rfl, before⟩
          exact (inv.held stream here live _ owed).enqueue frames
        · obtain ⟨frame, written, carried⟩ := filled i after below
          exact added written carried
      | fin streamId =>
        obtain ⟨rfl, closed⟩ := owes
        obtain ⟨frame, written, carried⟩ := ended closed
        exact added written carried
    · exact (inv.held s old live cell owes).enqueue frames
  · intro s mem acked
    rcases table s mem with rfl | ⟨old, _⟩
    · exact inv.finAcked stream here acked
    · exact inv.finAcked s old acked
  · intro s mem acked
    rcases table s mem with rfl | ⟨old, _⟩
    · -- a stream whose data is acknowledged was closed, and takes no more writes
      have closed := (inv.dataAcked stream here acked).1
      rw [isOpen] at closed
      cases closed
    · exact inv.dataAcked s old acked

variable {old new : SendStreamState}

theorem StreamMarked.owes_old (h : StreamMarked t old new)
    (settled : new.resetSent = false ∨ old.finSent = true) {cell : Cell} (owes : new.owes cell) : old.owes cell := by
  cases cell with
  | byte streamId i => exact ⟨h.sameStream ▸ owes.1, h.sameOffset ▸ owes.2⟩
  | fin streamId =>
    refine ⟨h.sameStream ▸ owes.1, ?_⟩
    rcases h.closes with same | ⟨_, reset⟩
    · exact same ▸ owes.2
    · rcases settled with live | closed
      · rw [reset] at live
        cases live
      · exact closed

theorem StreamMarked.finSent_mono (h : StreamMarked t old new)
    (closed : old.finSent = true) : new.finSent = true := by
  rcases h.closes with same | ⟨now, _⟩
  · rw [same, closed]
  · exact now

theorem SendInv.moved (inv : SendInv r) (marked : List.Forall₂ (StreamMarked t) r.streams t.streams)
    (pool : Transfers StreamFrame.carries StreamFrame.PartOf t.Live r.pool t.pool) : SendInv t := by
  have keys : t.streams.map streamId = r.streams.map streamId :=
    map_key_forall₂ (fun _ _ h => h.sameStream) marked
  have distinct : (t.streams.map streamId).Nodup := keys ▸ inv.distinct
  have unique : ∀ {a b : SendStreamState}, a ∈ t.streams → b ∈ t.streams →
      a.streamId = b.streamId → a = b := fun ha hb same =>
    inj_on_of_nodup_map distinct ha hb same
  have oldOf : ∀ new ∈ t.streams, ∃ old ∈ r.streams, StreamMarked t old new :=
    fun _ mem => related_old marked mem
  have newOf : ∀ old ∈ r.streams, ∃ new ∈ t.streams, StreamMarked t old new :=
    fun _ mem => related_new marked mem
  have ackedStays : ∀ {cell : Cell}, r.Acked cell → t.Acked cell := by
    rintro cell ⟨frame, mem, carried⟩
    exact ⟨frame, pool.settled frame mem, carried⟩
  have bounded : ∀ frame ∈ t.pool.items, ∃ stream ∈ t.streams, stream.streamId = frame.streamId ∧
      frame.offset + frame.data.length ≤ stream.nextOffset ∧
      (frame.fin = true → stream.finSent = true) := by
    intro frame mem
    obtain ⟨whole, old, piece⟩ := pool.origin frame mem
    obtain ⟨s, hs, id, stop, closes⟩ := inv.bounded whole old
    obtain ⟨new, hn, h⟩ := newOf s hs
    refine ⟨new, hn, ?_, ?_, fun closed => h.finSent_mono (closes (piece.closes closed))⟩
    · rw [h.sameStream, id, piece.sameStream]
    · rw [h.sameOffset]
      exact piece.within.trans stop
  have finAcked : ∀ new ∈ t.streams, new.finAcked = true → t.Acked (.fin new.streamId) := by
    intro new mem acked
    obtain ⟨old, ho, h⟩ := oldOf new mem
    rw [h.sameStream]
    rcases h.finAcked acked with before | now
    · exact ackedStays (inv.finAcked old ho before)
    · exact now
  have held : ∀ new ∈ t.streams, new.resetSent = false → ∀ cell, new.owes cell →
      t.pool.Holds StreamFrame.carries cell := by
    intro new mem live cell owes
    obtain ⟨old, ho, h⟩ := oldOf new mem
    have oldLive : old.resetSent = false := by
      cases was : old.resetSent with
      | false => rfl
      | true => rw [h.staysReset was] at live; cases live
    refine pool.keeps cell ?_ (inv.held old ho oldLive cell (h.owes_old (Or.inl live) owes))
    intro s hs same
    rw [unique hs mem (same.trans (owes_streamId owes))]
    exact live
  refine ⟨distinct, bounded, held, finAcked, ?_⟩
  intro new mem acked
  obtain ⟨old, ho, h⟩ := oldOf new mem
  rcases h.dataAcked acked with before | ⟨fin, live, idle⟩
  · obtain ⟨closed, all⟩ := inv.dataAcked old ho before
    exact ⟨h.finSent_mono closed, fun cell owes =>
      ackedStays (all cell (h.owes_old (Or.inr closed) owes))⟩
  · -- nothing of the stream is queued or in flight, so what it owes is acknowledged
    have finished : new.finSent = true := by
      obtain ⟨frame, settled, carried⟩ := finAcked new mem fin
      obtain ⟨s, hs, id, _, closes⟩ := bounded frame (Pool.mem_items.mpr (Or.inr (Or.inr settled)))
      rw [← unique hs mem (id.trans carried.1)]
      exact closes carried.2
    refine ⟨finished, fun cell owes => (held new mem live cell owes).settled ?_⟩
    intro frame waiting carried
    refine idle frame waiting ?_
    rw [StreamFrame.carries_streamId carried, owes_streamId owes, h.sameStream]

theorem SendStep.keeps (inv : SendInv r) (step : SendStep r t) : SendInv t := by
  cases step with
  | opens streamId maxData unknown => exact inv.opened unknown
  | writes found isOpen within grows filled ended =>
    exact inv.written found isOpen within grows filled ended
  | moves marked pool => exact inv.moved marked pool

theorem SendSteps.keeps (steps : SendSteps r t) (inv : SendInv r) : SendInv t := by
  induction steps with
  | refl => exact inv
  | tail _ last ih => exact last.keeps ih

end Quicz
