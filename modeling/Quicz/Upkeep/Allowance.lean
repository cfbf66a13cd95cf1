import Quicz.Run.Streams

/-! Send flow control. Until the transport parameters of the peer are applied the limits are those
of the own configuration; from then on they are limits the peer has set. -/
namespace Quicz

open Chunks Proc List Connection PeerLimit Allowance StreamAllowance

section Limits

/-- The largest of the limits of one kind; a limit of another kind counts as nothing. -/
def largest (limit : PeerLimit → Nat) (received : List PeerLimit) : Nat := (received.map limit).foldr max 0

namespace PeerLimit

def dataLimit : PeerLimit → Nat
  | initial limits => limits.maxData
  | data maximumData => maximumData
  | _ => 0

def streamLimit (side : ConnectionSide) (streamId : Nat) : PeerLimit → Nat
  | initial limits => limits.streamData side streamId
  | streamData other maximumStreamData => if other = streamId then maximumStreamData else 0
  | _ => 0

def bidiLimit : PeerLimit → Nat
  | initial limits => limits.maxStreamsBidi
  | streamsBidi maximumStreams => maximumStreams
  | _ => 0

def uniLimit : PeerLimit → Nat
  | initial limits => limits.maxStreamsUni
  | streamsUni maximumStreams => maximumStreams
  | _ => 0

def isInitial : PeerLimit → Bool
  | initial _ => true
  | _ => false

end PeerLimit

variable {limit : PeerLimit → Nat} {received : List PeerLimit}

theorem largest_concat (new : PeerLimit) :
    largest limit (received ++ [new]) = max (largest limit received) (limit new) := by
  induction received with
  | nil => simp [largest]
  | cons first rest ih =>
    simp only [largest, cons_append, map_cons, foldr_cons] at ih ⊢
    rw [ih, max_assoc]

theorem le_largest_concat {n : Nat} (new : PeerLimit) (h : n ≤ largest limit received) :
    n ≤ largest limit (received ++ [new]) := by
  rw [largest_concat]
  exact h.trans (le_max_left _ _)

theorem last_le_largest (limit : PeerLimit → Nat) (new : PeerLimit) : limit new ≤ largest limit (received ++ [new]) := by
  rw [largest_concat]
  exact le_max_right _ _

end Limits

section Invariant
variable {rule : AllowanceRule} {a b : Allowance}

def Informed (received : List PeerLimit) : Prop := received.any isInitial = true

structure Allowance.Current (a : Allowance) : Prop where
  data : a.limits.maxData ≤ largest dataLimit a.received
  initial : ∀ streamId, a.limits.streamData a.side streamId ≤
    largest (streamLimit a.side streamId) a.received
  stream : ∀ stream ∈ a.streams, stream.maxData ≤
    largest (streamLimit a.side stream.streamId) a.received
  bidi : a.limits.maxStreamsBidi ≤ largest bidiLimit a.received
  uni : a.limits.maxStreamsUni ≤ largest uniLimit a.received

structure Allowance.Written (a : Allowance) : Prop where
  total : (a.streams.map nextOffset).sum = a.sent
  within : a.sent ≤ largest dataLimit a.received
  each : ∀ stream ∈ a.streams, stream.nextOffset ≤
    largest (streamLimit a.side stream.streamId) a.received

structure Allowance.Counted (a : Allowance) : Prop where
  bidiId : isLocalBidirectional a.side a.nextBidi = true
  uniId : isLocalUnidirectional a.side a.nextUni = true
  bidi : a.streams.countP (fun stream => isLocalBidirectional a.side stream.streamId) = a.openedBidi
  uni : a.streams.countP (fun stream => isLocalUnidirectional a.side stream.streamId) = a.openedUni

structure Allowance.Opened (a : Allowance) : Prop where
  bidi : a.openedBidi ≤ largest bidiLimit a.received
  uni : a.openedUni ≤ largest uniLimit a.received

theorem AllowanceStep.received (step : AllowanceStep rule a b) : ∃ more, b.received = a.received ++ more := by
  cases step with
  | opensBidi | opensUni | meets | writes => exact ⟨[], (append_nil _).symm⟩
  | _ => exact ⟨_, rfl⟩

theorem Informed.grown {received more : List PeerLimit} (informed : Informed received) :
    Informed (received ++ more) := by
  rw [Informed, any_append, Bool.or_eq_true]
  exact Or.inl informed

variable {stream : StreamAllowance}

theorem Allowance.find_streamId {streamId : Nat} (found : a.find streamId = some stream) :
    stream.streamId = streamId ∧ stream ∈ a.streams :=
  Keyed.lookup_some found

theorem Allowance.map_streamId_put : (a.put stream).streams.map streamId = a.streams.map streamId :=
  Keyed.map_key_adjust fun _ _ => rfl

theorem Allowance.forall_put {P : StreamAllowance → Prop} (all : ∀ stream ∈ a.streams, P stream) (new : P stream) :
    ∀ other ∈ (a.put stream).streams, P other := by
  intro other mem
  rcases Keyed.mem_adjust mem with old | ⟨_, _, rfl⟩
  · exact all other old
  · exact new

theorem Allowance.Current.concat (current : a.Current) (new : PeerLimit) :
    Allowance.Current { a with received := a.received ++ [new] } :=
  ⟨le_largest_concat new current.data, fun id => le_largest_concat new (current.initial id),
    fun stream mem => le_largest_concat new (current.stream stream mem), le_largest_concat new current.bidi,
    le_largest_concat new current.uni⟩

theorem Allowance.Current.opens (current : a.Current) (streamId : Nat) : ∀ stream ∈ a.streams ++ [a.opened streamId],
      stream.maxData ≤ largest (streamLimit a.side stream.streamId) a.received := by
  intro stream mem
  rcases mem_append.mp mem with old | new
  · exact current.stream stream old
  · rw [mem_singleton.mp new]
    exact current.initial streamId

theorem AllowanceStep.current (step : AllowanceStep rule a b) (before : Informed a.received → a.Current)
    (informed : Informed b.received) : b.Current := by
  have still : ∀ {new : PeerLimit}, new.isInitial = false → Informed (a.received ++ [new]) →
      Informed a.received := by
    intro new other informed
    simpa [Informed, other] using informed
  cases step with
  | opensBidi may room | opensUni may room | meets ofPeer =>
    have current := before informed
    exact ⟨current.data, current.initial, current.opens _, current.bidi, current.uni⟩
  | @writes stream n may found within total =>
    have current := before informed
    have old := current.stream stream (find_streamId found).2
    exact ⟨current.data, current.initial, forall_put (a := a) current.stream old, current.bidi, current.uni⟩
  | raisesData n =>
    have current := (before (still rfl informed)).concat (.data n)
    exact ⟨max_le current.data (last_le_largest dataLimit (.data n)), current.initial, current.stream, current.bidi,
      current.uni⟩
  | @raisesStream stream n found =>
    have current := (before (still rfl informed)).concat (.streamData stream.streamId n)
    have old := current.stream stream (find_streamId found).2
    have new : n ≤ largest (streamLimit a.side stream.streamId)
        (a.received ++ [.streamData stream.streamId n]) := by
      refine le_trans (le_of_eq ?_) (last_le_largest _ _)
      exact (if_pos rfl).symm
    exact ⟨current.data, current.initial, forall_put (a := a) current.stream (max_le old new),
      current.bidi, current.uni⟩
  | raisesBidi n =>
    have current := (before (still rfl informed)).concat (.streamsBidi n)
    exact ⟨current.data, current.initial, current.stream,
      max_le current.bidi (last_le_largest bidiLimit (.streamsBidi n)), current.uni⟩
  | raisesUni n =>
    have current := (before (still rfl informed)).concat (.streamsUni n)
    exact ⟨current.data, current.initial, current.stream, current.bidi,
      max_le current.uni (last_le_largest uniLimit (.streamsUni n))⟩
  | applies limits =>
    have here : ∀ limit : PeerLimit → Nat, limit (.initial limits) ≤ largest limit (a.received ++ [.initial limits]) :=
      fun limit => last_le_largest limit _
    refine ⟨here dataLimit, fun id => here (streamLimit a.side id), fun stream mem => ?_,
      here bidiLimit, here uniLimit⟩
    obtain ⟨old, -, rfl⟩ := mem_map.mp mem
    exact here (streamLimit a.side old.streamId)

theorem Allowance.Written.opens (written : a.Written) (streamId : Nat) :
    Allowance.Written { a with streams := a.streams ++ [a.opened streamId] } := by
  refine ⟨?_, written.within, fun stream mem => ?_⟩
  · simp [written.total, opened]
  · rcases mem_append.mp mem with old | new
    · exact written.each stream old
    · rw [mem_singleton.mp new]
      exact Nat.zero_le _

theorem Allowance.Written.concat (written : a.Written) (new : PeerLimit) :
    Allowance.Written { a with received := a.received ++ [new] } :=
  ⟨written.total, le_largest_concat new written.within,
    fun stream mem => le_largest_concat new (written.each stream mem)⟩

theorem AllowanceStep.written (step : AllowanceStep rule a b) (before : a.Written)
    (current : rule.writes → a.Current) : b.Written := by
  cases step with
  | opensBidi may room =>
    obtain ⟨total, inside, each⟩ := before.opens a.nextBidi
    exact ⟨total, inside, each⟩
  | opensUni may room =>
    obtain ⟨total, inside, each⟩ := before.opens a.nextUni
    exact ⟨total, inside, each⟩
  | @meets streamId ofPeer => exact before.opens streamId
  | @writes stream n may found within total =>
    have limits := current may
    obtain ⟨-, mem⟩ := find_streamId found
    refine ⟨?_, total.trans limits.data, ?_⟩
    · have sum := Keyed.sum_adjust (g := fun _ => { stream with nextOffset := stream.nextOffset + n })
        nextOffset found
      have counted := before.total
      simp only [put] at sum ⊢
      omega
    · exact forall_put (a := a) before.each (within.trans (limits.stream stream mem))
  | raisesData n | raisesBidi n | raisesUni n =>
    obtain ⟨total, inside, each⟩ := before.concat _
    exact ⟨total, inside, each⟩
  | @raisesStream stream n found =>
    obtain ⟨total, inside, each⟩ := before.concat (.streamData stream.streamId n)
    obtain ⟨-, mem⟩ := find_streamId found
    refine ⟨?_, inside, forall_put (a := a) each (each stream mem)⟩
    have sum := Keyed.sum_adjust (g := fun _ => { stream with maxData := max stream.maxData n })
      nextOffset found
    simp only [put] at sum total ⊢
    omega
  | applies limits =>
    obtain ⟨total, inside, each⟩ := before.concat (.initial limits)
    refine ⟨?_, inside, fun stream mem => ?_⟩
    · rw [← total, map_map]
      rfl
    · obtain ⟨old, stored, rfl⟩ := mem_map.mp mem
      exact each old stored

theorem Allowance.countP_put (p : Nat → Bool) : (a.put stream).streams.countP (fun other => p other.streamId) =
      a.streams.countP fun other => p other.streamId := by
  have keys : ∀ streams : List StreamAllowance, streams.countP (fun other => p other.streamId) =
      (streams.map streamId).countP p := by
    intro streams
    rw [countP_map]
    rfl
  rw [keys, keys, map_streamId_put]

theorem AllowanceStep.counted (step : AllowanceStep rule a b) (before : a.Counted) : b.Counted := by
  obtain ⟨bidiId, uniId, bidi, uni⟩ := before
  cases step with
  | opensBidi may room =>
    have other := isLocalUnidirectional_of_bidi bidiId
    refine ⟨(isLocal_next _ _).1.trans bidiId, uniId, ?_, ?_⟩
    · simp [countP_append, bidi, opened, bidiId]
    · simp [countP_append, uni, opened, other]
  | opensUni may room =>
    have other : isLocalBidirectional a.side a.nextUni = false := by
      simp only [isLocalUnidirectional, Bool.and_eq_true, Bool.not_eq_true'] at uniId
      simp [isLocalBidirectional, uniId.1]
    refine ⟨bidiId, (isLocal_next _ _).2.trans uniId, ?_, ?_⟩
    · simp [countP_append, bidi, opened, other]
    · simp [countP_append, uni, opened, uniId]
  | @meets streamId ofPeer =>
    have notBidi : isLocalBidirectional a.side streamId = false := by simp [isLocalBidirectional, ofPeer]
    have notUni : isLocalUnidirectional a.side streamId = false := by simp [isLocalUnidirectional, ofPeer]
    refine ⟨bidiId, uniId, ?_, ?_⟩
    · simp [countP_append, bidi, opened, notBidi]
    · simp [countP_append, uni, opened, notUni]
  | writes n may found within total | raisesStream n found =>
    exact ⟨bidiId, uniId, (countP_put _).trans bidi, (countP_put _).trans uni⟩
  | raisesData n | raisesBidi n | raisesUni n => exact ⟨bidiId, uniId, bidi, uni⟩
  | applies limits =>
    refine ⟨bidiId, uniId, ?_, ?_⟩
    · rw [← bidi, countP_map]
      rfl
    · rw [← uni, countP_map]
      rfl

theorem AllowanceStep.opened (step : AllowanceStep rule a b) (before : a.Opened)
    (current : rule.opens → a.Current) : b.Opened := by
  obtain ⟨bidi, uni⟩ := before
  cases step with
  | opensBidi may room => exact ⟨Nat.le_trans room (current may).bidi, uni⟩
  | opensUni may room => exact ⟨bidi, Nat.le_trans room (current may).uni⟩
  | meets | writes => exact ⟨bidi, uni⟩
  | _ => exact ⟨le_largest_concat _ bidi, le_largest_concat _ uni⟩

structure Allowance.Sound (a : Allowance) : Prop where
  current : Informed a.received → a.Current
  counted : a.Counted

theorem AllowanceSteps.sound (steps : AllowanceSteps rule a b) (before : a.Sound) :
    b.Sound ∧ (Informed a.received → Informed b.received) := by
  induction steps with
  | refl => exact ⟨before, id⟩
  | tail _ step ih =>
    obtain ⟨sound, grown⟩ := ih
    obtain ⟨more, same⟩ := step.received
    refine ⟨⟨step.current sound.current, step.counted sound.counted⟩, fun informed => ?_⟩
    rw [same]
    exact (grown informed).grown

end Invariant

variable {side : ConnectionSide} {config : Config}

def Call.rule (call : Call) : UpkeepRule :=
  { UpkeepRule.any with opens := call.opensStream = true, writes := call.writesStream = true }

theorem Call.allowance (call : Call) (c : Connection) :
    AllowanceSteps call.rule.toAllowanceRule c.allowance (call.next c).allowance := by
  have heeds : call.Heeds call.rule := { call.heeds_any with
    takes := fun _ _ => ⟨trivial, fun _ _ => trivial⟩
    opens := Bool.eq_false_or_eq_true _
    writes := Bool.eq_false_or_eq_true _ }
  exact ((Call.tends heeds).after c).allowance

variable {c : Connection}

namespace Connection

end Connection

end Quicz
