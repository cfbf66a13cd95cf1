import Quicz.Lib.Credit
import Quicz.Recv.Accounting

/-! How far the receive limits can move. Each limit is kept in a ledger: what the
application has given back, and a mark made of the received amount and of the largest
value the peer has reported as blocking. Every step of the receive machine is a move in
each ledger. -/
namespace Quicz

open Chunks Proc Keyed RecvStreamState

variable {rule : RecvRule}

def consumed (r : RecvPart) : Nat := (r.recvStreams.map readOffset).sum

def connectionLedger (r : RecvPart) : Credit where
  limit := r.recvMaxData
  mark := max r.recvDataBytes (r.peerDataBlockedLimit.getD 0)
  given := consumed r

def reportedOn (r : RecvPart) (streamId : Nat) : Nat :=
  ((lookup PeerStreamDataBlockedState.streamId streamId
    r.peerStreamDataBlockedLimits).map PeerStreamDataBlockedState.maximumStreamData).getD 0

def streamLedger (r : RecvPart) (stream : RecvStreamState) : Credit where
  limit := stream.maxData
  mark := max (highestOffset stream) (reportedOn r stream.streamId)
  given := stream.readOffset

/-- One for a stream of the type whose place was given back to the peer. -/
def givenBack (bidi : Bool) (stream : RecvStreamState) : Nat :=
  (stream.streamCountCreditReleased && isBidirectional stream.streamId == bidi).toNat

def completed (r : RecvPart) (bidi : Bool) : Nat := (r.recvStreams.map (givenBack bidi)).sum

def bidiLedger (r : RecvPart) : Credit where
  limit := r.recvMaxStreamsBidi
  mark := r.peerStreamsBlockedBidiLimit.getD 0
  given := completed r true

def uniLedger (r : RecvPart) : Credit where
  limit := r.recvMaxStreamsUni
  mark := r.peerStreamsBlockedUniLimit.getD 0
  given := completed r false

variable {r r' : RecvPart} {old new : RecvStreamState}

theorem sum_put (w : RecvStreamState → Nat) {r : RecvPart} (found : r.find new.streamId = some old) :
    ((r.put new).recvStreams.map w).sum + w old = (r.recvStreams.map w).sum + w new :=
  sum_adjust w found

theorem sum_put_same {w : RecvStreamState → Nat} {r : RecvPart} (found : r.find new.streamId = some old)
    (same : w new = w old) : ((r.put new).recvStreams.map w).sum = (r.recvStreams.map w).sum := by
  have := sum_put w found
  omega

theorem raiseReported_grows (old : Option Nat) (reported : Nat) :
    old.getD 0 ≤ (raiseReported old reported).getD 0 ∧ reported ≤ (raiseReported old reported).getD 0 := by
  cases old <;> simp [raiseReported]

theorem nextDataLimit_bounds {limit consumed received next : Nat}
    (h : nextDataLimit limit consumed received window = .ok next) :
    limit + consumed ≤ next ∧ next ≤ window.elim (limit + consumed) fun w => max (limit + consumed) (received + w) := by
  obtain ⟨rfl, _⟩ := nextDataLimit_ok h
  cases window <;> simp

theorem nextLimitAfterPeerBlocked_bounds (maximum current reported : Nat) (window : Option Nat) :
    let next := (nextLimitAfterPeerBlocked maximum current reported window).getD current
    current ≤ next ∧ next ≤ window.elim current fun w => max current (reported + w) := by
  refine ⟨nextLimitAfterPeerBlocked_grows maximum current reported window, ?_⟩
  cases result : nextLimitAfterPeerBlocked maximum current reported window with
  | none => cases window <;> simp
  | some limit =>
    obtain ⟨w, rfl, _, _, past⟩ := nextLimitAfterPeerBlocked_some result
    exact past.trans (le_max_right _ _)

variable (stream : RecvStreamState) {window : Option Nat}

theorem connection_quiet (limit : r'.recvMaxData = r.recvMaxData)
    (bytes : r.recvDataBytes ≤ r'.recvDataBytes) (reported : r'.peerDataBlockedLimit = r.peerDataBlockedLimit)
    (reads : consumed r' = consumed r) : Credit.Move window (connectionLedger r) (connectionLedger r') :=
  .of_mark limit (max_le_max bytes (by rw [reported])) reads

theorem RecvStep.connection_move (inv : RecvInv r) (step : RecvStep rule r r') :
    Credit.Move r.config.receiveConnectionWindow (connectionLedger r) (connectionLedger r') := by
  cases step with
  | opens streamId unknown => exact connection_quiet rfl le_rfl rfl (by simp [consumed])
  | @stores stream frame stop segments found =>
    obtain ⟨data, pending, finalSize, eq⟩ := storedStream_eq stream frame.fin stop segments
    have here := lookup_self found
    rw [eq]
    exact connection_quiet rfl (Nat.le_add_right _ _) rfl (sum_put_same here rfl)
  | drains here run =>
    obtain ⟨_, _, moved⟩ := drained_ok (inv.each _ (by simp [here])) run
    obtain ⟨eq, found⟩ := inv.drain_eq here moved.same
    rw [eq]
    obtain ⟨data, pending, rfl⟩ := moved.same
    exact connection_quiet rfl le_rfl rfl (sum_put_same found rfl)
  | @resets stream reset found =>
    have here := lookup_self found
    exact connection_quiet rfl (Nat.le_add_right _ _) rfl (sum_put_same here rfl)
  | @reads stream n connectionLimit streamLimit found positive available delivers connection ofStream =>
    have total := sum_put readOffset
      (show r.find (streamId { stream with
        readOffset := stream.readOffset + n, maxData := streamLimit }) = some stream from found)
    refine .of_raise (n := n) (Nat.add_right_cancel (m := stream.readOffset) ?_) le_rfl
      (le_max_left _ _) (nextDataLimit_bounds connection)
    exact total.trans (by simp only [connectionLedger, consumed]; omega)
  | releases found =>
    rw [RecvPart.addStreamCredit_eq]
    exact connection_quiet rfl le_rfl rfl (sum_put_same found rfl)
  | observesData found | observesReset found | stops found | streamDataBlocked maximumStreamData found =>
    exact connection_quiet rfl le_rfl rfl (sum_put_same found rfl)
  | dataBlocked maximumData =>
    obtain ⟨grows, seen⟩ := raiseReported_grows r.peerDataBlockedLimit maximumData
    exact .of_raise (n := 0) rfl (max_le_max le_rfl grows) (seen.trans (le_max_right _ _))
      (nextLimitAfterPeerBlocked_bounds _ _ _ _)
  | streamsBlockedBidi maximumStreams | streamsBlockedUni maximumStreams =>
    exact connection_quiet rfl le_rfl rfl rfl

theorem RecvStep.constant (step : RecvStep rule r r') :
    r'.config = r.config ∧ r'.side = r.side ∧ r'.recvMaxStreamData = r.recvMaxStreamData := by
  cases step with
  | releases =>
    rw [RecvPart.addStreamCredit_eq]
    exact ⟨rfl, rfl, rfl⟩
  | _ => exact ⟨rfl, rfl, rfl⟩

variable {a b : RecvStreamState}

theorem highestOffset_mono (ha : Assembled a) (hb : Assembled b)
    (sub : received a ⊆ received b) : highestOffset a ≤ highestOffset b :=
  (highestOffset_le_iff ha).mpr fun i hi => (highestOffset_le_iff hb).mp le_rfl i (sub hi)

theorem highestOffset_same (data : b.data = a.data)
    (pending : b.pending = a.pending) : highestOffset b = highestOffset a := by
  unfold highestOffset
  rw [data, pending]

theorem storedStream_ranges (fin : Bool) (stop : Nat) (segments : List (Chunk UInt8)) :
    highestOffset (storedStream stream fin stop segments) = highestOffset (segments.foldl storeSegment stream) := by
  cases fin <;> exact highestOffset_same rfl rfl

theorem recordStreamDataBlocked_grows (r : RecvPart) (streamId maximumStreamData : Nat) :
    let r' := { r with peerStreamDataBlockedLimits :=
      recordStreamDataBlocked r.peerStreamDataBlockedLimits streamId maximumStreamData }
    (∀ id, reportedOn r id ≤ reportedOn r' id) ∧ maximumStreamData ≤ reportedOn r' streamId := by
  simp only [reportedOn, recordStreamDataBlocked]
  cases known : lookup PeerStreamDataBlockedState.streamId streamId r.peerStreamDataBlockedLimits with
  | some blocked =>
    have keeps : ∀ x : PeerStreamDataBlockedState, x.streamId = streamId → PeerStreamDataBlockedState.streamId
          { x with maximumStreamData := max x.maximumStreamData maximumStreamData } = streamId :=
      fun _ h => h
    simp only
    refine ⟨fun id => ?_, ?_⟩
    · by_cases same : id = streamId
      · subst same
        simp [lookup_adjust_self keeps, known]
      · rw [lookup_adjust_ne keeps same]
    · simp [lookup_adjust_self keeps, known]
  | none =>
    simp only
    refine ⟨fun id => ?_, ?_⟩
    · rw [lookup_append]
      cases lookup PeerStreamDataBlockedState.streamId id r.peerStreamDataBlockedLimits <;> simp
    · simp [lookup_append, known, lookup_cons]

/- Every stream after a step is fresh or a move of a stream before it. -/
def StreamMoves (r r' : RecvPart) : Prop :=
  ∀ s' ∈ r'.recvStreams, (s'.maxData = r.recvMaxStreamData) ∨
    ∃ s ∈ r.recvStreams, Credit.Move r.config.receiveStreamWindow (streamLedger r s) (streamLedger r' s')

theorem StreamMoves.of_put (streams : r'.recvStreams = (r.put new).recvStreams)
    (found : r.find new.streamId = some old) (reported : ∀ id, reportedOn r id ≤ reportedOn r' id)
    (move : Credit.Move r.config.receiveStreamWindow (streamLedger r old) (streamLedger r' new)) :
    StreamMoves r r' := by
  intro s' member
  rw [streams] at member
  rcases mem_adjust member with same | ⟨y, _, rfl⟩
  · exact Or.inr ⟨s', same, .of_mark rfl (max_le_max le_rfl (reported _)) rfl⟩
  · exact Or.inr ⟨old, (lookup_some found).2, move⟩

theorem StreamMoves.of_same (streams : r'.recvStreams = r.recvStreams)
    (limits : r'.peerStreamDataBlockedLimits = r.peerStreamDataBlockedLimits) : StreamMoves r r' := by
  intro s member
  refine Or.inr ⟨s, streams ▸ member, .of_mark rfl (max_le_max le_rfl ?_) rfl⟩
  simp only [reportedOn, limits, le_refl]

theorem StreamMoves.of_touch (streams : r'.recvStreams = (r.put new).recvStreams)
    (found : r.find new.streamId = some old)
    (limits : r'.peerStreamDataBlockedLimits = r.peerStreamDataBlockedLimits) (key : new.streamId = old.streamId)
    (limit : new.maxData = old.maxData) (ranges : highestOffset old ≤ highestOffset new)
    (read : new.readOffset = old.readOffset) : StreamMoves r r' := by
  have reported : ∀ id, reportedOn r id ≤ reportedOn r' id := fun id => by
    simp only [reportedOn, limits, le_refl]
  exact .of_put streams found reported (.of_mark limit (max_le_max ranges (key ▸ reported _)) read)

theorem RecvStep.stream_moves (inv : RecvInv r) (step : RecvStep rule r r') : StreamMoves r r' := by
  cases step with
  | opens streamId unknown =>
    intro s member
    rcases List.mem_append.mp member with old | new
    · exact Or.inr ⟨s, old, .of_mark rfl le_rfl rfl⟩
    · exact Or.inl (by rw [List.mem_singleton.mp new])
  | @stores stream frame stop segments found stopEq live credit sized closes new within =>
    have here := lookup_self found
    have bounded := (endOffset_some.mp stopEq).2
    obtain ⟨assembled, _, grown, _⟩ :=
      storeNew_spec (inv.ok found).assembled frame.chunk bounded new
    have ranges := storedStream_ranges stream frame.fin stop segments
    obtain ⟨data, pending, finalSize, eq⟩ := storedStream_eq stream frame.fin stop segments
    rw [eq] at ranges ⊢
    refine .of_touch rfl here rfl rfl rfl ?_ rfl
    rw [ranges]
    exact highestOffset_mono (inv.ok found).assembled assembled (by rw [grown]; exact Finset.subset_union_left)
  | @drains stream drained before later here run =>
    have ok := inv.each stream (by simp [here])
    obtain ⟨_, _, moved⟩ := drained_ok ok run
    obtain ⟨eq, found⟩ := inv.drain_eq here moved.same
    have ranges := highestOffset_mono ok.assembled moved.assembled moved.held.ge
    rw [eq]
    obtain ⟨data, pending, rfl⟩ := moved.same
    exact .of_touch rfl found rfl rfl rfl ranges rfl
  | @resets stream reset found =>
    have here := lookup_self found
    exact .of_touch rfl here rfl rfl rfl (highestOffset_same rfl rfl).ge rfl
  | @reads stream n connectionLimit streamLimit found positive available delivers connection ofStream =>
    refine .of_put rfl found (fun _ => le_rfl) (.of_raise rfl ?_ (le_max_left _ _) (nextDataLimit_bounds ofStream))
    exact (max_le_max (highestOffset_same rfl rfl).ge le_rfl)
  | releases found =>
    rw [RecvPart.addStreamCredit_eq]
    exact .of_touch rfl found rfl rfl rfl (highestOffset_same rfl rfl).ge rfl
  | observesData found | observesReset found | stops found =>
    exact .of_touch rfl found rfl rfl rfl (highestOffset_same rfl rfl).ge rfl
  | dataBlocked maximumData | streamsBlockedBidi maximumStreams | streamsBlockedUni maximumStreams =>
    exact .of_same rfl rfl
  | @streamDataBlocked stream maximumStreamData found unsized =>
    obtain ⟨grows, seen⟩ := recordStreamDataBlocked_grows r stream.streamId maximumStreamData
    exact .of_put rfl found grows (.of_raise (n := 0) rfl
      (max_le_max (highestOffset_same rfl rfl).ge (grows _)) (seen.trans (le_max_right _ _))
      (nextLimitAfterPeerBlocked_bounds _ _ _ _))

theorem givenBack_release {stream : RecvStreamState} (bidi : Bool)
    (unreleased : stream.streamCountCreditReleased = false) :
    givenBack bidi { stream with streamCountCreditReleased := true } =
      givenBack bidi stream + (isBidirectional stream.streamId == bidi).toNat := by
  simp [givenBack, unreleased]

/- The stream counts, with the places given back: what a step may do to both types. -/
structure CountMoves (r r' : RecvPart) : Prop where
  bidi : Credit.Move r.config.receiveStreamCountWindow (bidiLedger r) (bidiLedger r')
  uni : Credit.Move r.config.receiveStreamCountWindow (uniLedger r) (uniLedger r')

theorem CountMoves.of_same (limitBidi : r'.recvMaxStreamsBidi = r.recvMaxStreamsBidi)
    (limitUni : r'.recvMaxStreamsUni = r.recvMaxStreamsUni)
    (reportedBidi : r'.peerStreamsBlockedBidiLimit = r.peerStreamsBlockedBidiLimit)
    (reportedUni : r'.peerStreamsBlockedUniLimit = r.peerStreamsBlockedUniLimit)
    (given : ∀ bidi, completed r' bidi = completed r bidi) : CountMoves r r' :=
  ⟨.of_mark limitBidi (by simp only [bidiLedger, reportedBidi, le_refl]) (given true),
    .of_mark limitUni (by simp only [uniLedger, reportedUni, le_refl]) (given false)⟩

theorem RecvStep.count_moves (inv : RecvInv r) (step : RecvStep rule r r') : CountMoves r r' := by
  cases step with
  | opens streamId unknown =>
    exact .of_same rfl rfl rfl rfl fun bidi => by simp [completed, givenBack]
  | @stores stream frame stop segments found =>
    obtain ⟨data, pending, finalSize, eq⟩ := storedStream_eq stream frame.fin stop segments
    have here := lookup_self found
    rw [eq]
    exact .of_same rfl rfl rfl rfl fun bidi => sum_put_same here rfl
  | @drains stream drained before later here run =>
    obtain ⟨_, _, moved⟩ := drained_ok (inv.each stream (by simp [here])) run
    obtain ⟨eq, found⟩ := inv.drain_eq here moved.same
    rw [eq]
    obtain ⟨data, pending, rfl⟩ := moved.same
    exact .of_same rfl rfl rfl rfl fun bidi => sum_put_same found rfl
  | @resets stream reset found =>
    have here := lookup_self found
    exact .of_same rfl rfl rfl rfl fun bidi => sum_put_same here rfl
  | reads n found | observesData found | observesReset found | stops found
  | streamDataBlocked maximumStreamData found =>
    exact .of_same rfl rfl rfl rfl fun bidi => sum_put_same found rfl
  | @releases stream found peer unreleased done =>
    have total : ∀ bidi, completed (r.put { stream with streamCountCreditReleased := true }) bidi =
        completed r bidi + (isBidirectional stream.streamId == bidi).toNat := by
      intro bidi
      have sum := sum_put (givenBack bidi) (show r.find (streamId
        { stream with streamCountCreditReleased := true }) = some stream from found)
      rw [givenBack_release bidi unreleased] at sum
      simp only [completed]
      omega
    rw [RecvPart.addStreamCredit_eq]
    exact ⟨.of_gain rfl le_rfl (total true), .of_gain rfl le_rfl (total false)⟩
  | dataBlocked maximumData => exact .of_same rfl rfl rfl rfl fun _ => rfl
  | streamsBlockedBidi maximumStreams =>
    obtain ⟨grows, seen⟩ := raiseReported_grows r.peerStreamsBlockedBidiLimit maximumStreams
    exact ⟨.of_raise (n := 0) rfl grows seen (nextLimitAfterPeerBlocked_bounds _ _ _ _), .of_mark rfl le_rfl rfl⟩
  | streamsBlockedUni maximumStreams =>
    obtain ⟨grows, seen⟩ := raiseReported_grows r.peerStreamsBlockedUniLimit maximumStreams
    exact ⟨.of_mark rfl le_rfl rfl, .of_raise (n := 0) rfl grows seen (nextLimitAfterPeerBlocked_bounds _ _ _ _)⟩

/-- The bounds on the receive limits: what the application gave back, above the initial
limit or the window past what was received and reported. -/
structure LimitsBounded (r : RecvPart) : Prop where
  connection : r.recvMaxData ≤ Credit.ceiling r.config.initialMaxData r.config.receiveConnectionWindow
    (max r.recvDataBytes (r.peerDataBlockedLimit.getD 0)) + consumed r
  stream : ∀ s ∈ r.recvStreams, s.maxData ≤ Credit.ceiling r.config.initialMaxStreamData
    r.config.receiveStreamWindow (max (highestOffset s) (reportedOn r s.streamId)) + s.readOffset
  bidi : r.recvMaxStreamsBidi ≤ Credit.ceiling r.config.initialMaxStreamsBidi
    r.config.receiveStreamCountWindow (r.peerStreamsBlockedBidiLimit.getD 0) + completed r true
  uni : r.recvMaxStreamsUni ≤ Credit.ceiling r.config.initialMaxStreamsUni
    r.config.receiveStreamCountWindow (r.peerStreamsBlockedUniLimit.getD 0) + completed r false
  fresh : r.recvMaxStreamData = r.config.initialMaxStreamData

theorem RecvStep.bounded (inv : RecvInv r) (bounds : LimitsBounded r)
    (step : RecvStep rule r r') : LimitsBounded r' := by
  obtain ⟨config, _, fresh⟩ := step.constant
  have counts := step.count_moves inv
  refine ⟨?_, fun s hs => ?_, ?_, ?_, ?_⟩ <;> rw [config]
  · exact (step.connection_move inv).bounded bounds.connection
  · rcases step.stream_moves inv s hs with new | ⟨old, member, move⟩
    · rw [new, bounds.fresh]
      refine le_trans ?_ (Nat.le_add_right _ _)
      unfold Credit.ceiling
      cases r.config.receiveStreamWindow <;> simp
    · exact move.bounded (bounds.stream old member)
  · exact counts.bidi.bounded bounds.bidi
  · exact counts.uni.bounded bounds.uni
  · rw [fresh, bounds.fresh]

/-- A read only gives what it takes: the limit is never below the initial one and the bytes read. -/
theorem RecvStep.backed (inv : RecvInv r) (step : RecvStep rule r r')
    (h : r.config.initialMaxData + consumed r ≤ r.recvMaxData) :
    r'.config.initialMaxData + consumed r' ≤ r'.recvMaxData := by
  rw [step.constant.1]
  exact (step.connection_move inv).backed h

end Quicz
