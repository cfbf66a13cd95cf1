import Quicz.Serve

/-! Opening, writing and resetting streams moves the send machine and the allowance together; the limits of
the peer move the allowance alone. -/
namespace Quicz

open Chunks Proc Resend Connection Keyed StreamAllowance

variable {lives : Life → Life → Prop} [IsPreorder Life lives] {b : LedgerRule} {u : UpkeepRule}

variable {c : Connection} (streamId : Nat)

theorem allowance_find : c.allowance.find streamId = (c.findSendStream streamId).map SendStreamState.allowance := by
  simp only [Allowance.find, findSendStream, lookup, allowance, List.find?_map]
  rfl

theorem allowance_find_some {stream : SendStreamState} (found : c.findSendStream stream.streamId = some stream) :
    c.allowance.find stream.allowance.streamId = some stream.allowance := by
  have here := allowance_find (c := c) stream.streamId
  rw [found] at here
  exact here

variable (stream : SendStreamState)

theorem allowance_putSendStream : (c.putSendStream stream).allowance = c.allowance.put stream.allowance := by
  have streams : ∀ streams : List SendStreamState,
      (adjust SendStreamState.streamId stream.streamId (fun _ => stream) streams).map
        SendStreamState.allowance =
      adjust streamId stream.streamId (fun _ => stream.allowance)
        (streams.map SendStreamState.allowance) := by
    intro streams
    induction streams with
    | nil => rfl
    | cons first rest ih =>
      have keys : first.allowance.streamId = first.streamId := rfl
      simp only [adjust, List.map_cons, keys]
      split
      · rfl
      · rw [List.map_cons, ih]
  exact congrArg (fun streams => { c.allowance with streams }) (streams c.sendStreams)

theorem allowance_appendSendStream : (c.appendSendStream stream).allowance =
      { c.allowance with streams := c.allowance.streams ++ [stream.allowance] } := by
  simp [allowance, appendSendStream, peerLimitsNow]

theorem allowance_freshSendStream : (c.freshSendStream streamId).allowance = c.allowance.opened streamId := rfl

theorem appendFresh_tends {streamId : Nat} (ofPeer : isLocalInitiator c.side streamId = false) :
    Tends lives u c (c.appendSendStream (c.freshSendStream streamId)) := by
  have step : AllowanceStep u.toAllowanceRule c.allowance _ := .meets (a := c.allowance) ofPeer
  refine .of_allowance (.single ?_) rfl
  rw [allowance_appendSendStream]
  exact step

theorem putSendStream_tends {old new : SendStreamState} (found : c.findSendStream new.streamId = some old)
    (same : new.allowance = old.allowance) : (c.putSendStream new).upkeep = c.upkeep := by
  have here : c.allowance.find new.streamId = some new.allowance := by
    rw [allowance_find, found, same]
    rfl
  have kept : (c.putSendStream new).allowance = c.allowance := by
    rw [allowance_putSendStream]
    exact congrArg (fun streams => { c.allowance with streams }) (adjust_found here)
  exact congrArg (fun allowance => { c.upkeep with allowance }) kept

theorem queueBlockedFrame_serves (frame : PendingBlockedFrame) :
    Steps (Serves lives b u) (queueBlockedFrame frame) :=
  .modify fun _ => .of_rest (by split <;> rfl) (by split <;> rfl)

theorem openStream_serves (may : u.opens) : Steps (Serves lives b u) openStream := by
  refine .active <| .runs fun c => .read <| .failIf fun _ =>
    .ite (fun _ => queueBlockedFrame_serves _ c) fun room => ?_
  have step : AllowanceStep u.toAllowanceRule c.allowance _ := .opensBidi (a := c.allowance) may (Nat.lt_of_not_le room)
  refine ⟨⟨.refl _, .opensBidi c.sendView _, .refl _⟩, .of_allowance (.single ?_) rfl⟩
  simpa [allowance, appendSendStream, peerLimitsNow, allowance_freshSendStream] using step

theorem openUniStream_serves (may : u.opens) : Steps (Serves lives b u) openUniStream := by
  refine .active <| .runs fun c => .read <| .failIf fun _ =>
    .ite (fun _ => queueBlockedFrame_serves _ c) fun room => ?_
  have step : AllowanceStep u.toAllowanceRule c.allowance _ := .opensUni (a := c.allowance) may (Nat.lt_of_not_le room)
  refine ⟨⟨.refl _, .opensUni c.sendView _, .refl _⟩, .of_allowance (.single ?_) rfl⟩
  simpa [allowance, appendSendStream, peerLimitsNow, allowance_freshSendStream] using step

theorem storeWritten_tends (may : u.writes) {streamId n : Nat}
    {stream written : SendStreamState}
    (side : isBidirectional streamId = true ∨ isLocalUnidirectional c.side streamId = true)
    (writable : c.writableSendStream streamId = .ok stream)
    (grown : written.allowance = { stream.allowance with nextOffset := stream.nextOffset + n })
    (within : stream.nextOffset + n ≤ stream.maxData) (total : c.sentStreamDataBytes + n ≤ c.peerMaxData)
    (queue : List PendingStreamFrame) :
    Tends lives u c { c.storeSendStream written with
      sendQueue := queue, sentStreamDataBytes := c.sentStreamDataBytes + n } := by
  obtain ⟨rfl, -, origin⟩ := writableSendStream_cases side writable
  have sameId : written.streamId = stream.streamId := congrArg streamId grown
  rcases origin with found | ⟨unknown, ofPeer, fresh⟩
  · have step := AllowanceStep.writes n may (allowance_find_some found) within total
    have put : (c.putSendStream written).allowance =
        c.allowance.put { stream.allowance with nextOffset := stream.nextOffset + n } := by
      rw [allowance_putSendStream, grown]
    simp only [storeSendStream, sameId, found, Option.isSome_some, if_true]
    refine .of_allowance (.single (step.of_eq ?_)) rfl
    exact congrArg (fun a : Allowance => { a with sent := c.sentStreamDataBytes + n }) put
  · -- the stream is opened and written in one go
    set opened : Allowance := { c.allowance with streams := c.allowance.streams ++ [stream.allowance] }
    have first : AllowanceStep u.toAllowanceRule c.allowance opened := by
      have step := @AllowanceStep.meets u.toAllowanceRule c.allowance _ ofPeer
      rwa [← allowance_freshSendStream, ← fresh] at step
    have missing : lookup streamId stream.streamId c.allowance.streams = none := by
      have none_ := allowance_find (c := c) stream.streamId
      rwa [unknown] at none_
    have here : opened.find stream.allowance.streamId = some stream.allowance := by
      simp only [Allowance.find, opened]
      rw [lookup_append, show stream.allowance.streamId = stream.streamId from rfl, missing, Option.none_or]
      simp [lookup, SendStreamState.allowance]
    have second : AllowanceStep u.toAllowanceRule opened
        { opened.put written.allowance with sent := c.sentStreamDataBytes + n } := by
      rw [grown]
      exact .writes n may here within total
    have added : adjust streamId stream.streamId (fun _ => written.allowance)
        opened.streams = c.allowance.streams ++ [written.allowance] :=
      adjust_append_new missing rfl
    simp only [storeSendStream, sameId, unknown, Option.isSome_none, Bool.false_eq_true, if_false]
    refine .of_allowance (.tail (.single first) (second.of_eq ?_)) rfl
    have appended := allowance_appendSendStream (c := c) written
    rw [← added] at appended
    have keys : written.allowance.streamId = stream.streamId := sameId
    simp only [Allowance.put, keys]
    exact congrArg (fun a : Allowance => { a with sent := c.sentStreamDataBytes + n }) appended

theorem sendOnStream_serves (may : u.writes) (data : Bytes) (fin : Bool) :
    Steps (Serves lives b u) (sendOnStream streamId data fin) := by
  refine .active <| .guard <| .runs fun c => .read <| .failIf fun sides =>
    .value fun stream writable => .orThrow fun nextOffset ends =>
    .ite (fun _ => queueBlockedFrame_serves _ c) fun within => .orThrow fun total sum =>
    .ite (fun _ => queueBlockedFrame_serves _ c) fun fits => .value fun _ _ => .value fun frames cut => ?_
  obtain ⟨rfl, _⟩ := endOffset_some.mp ends
  obtain ⟨rfl, _⟩ := endOffset_some.mp sum
  have side : isBidirectional streamId = true ∨ isLocalUnidirectional c.side streamId = true := by
    simpa [or_iff_not_imp_left] using sides
  have covers := streamFramesOfWrite_covers _ _ _ _ _ frames cut
  exact ⟨(storeWritten_sends side writable (Nat.le_add_right _ _) covers _).evolves,
    storeWritten_tends may side writable rfl (Nat.le_of_not_lt within) (Nat.le_of_not_lt fits) _⟩

/-- What a routine does on a stream it was given; a failure changes nothing. -/
def ServesStream (lives : Life → Life → Prop) (b : LedgerRule) (u : UpkeepRule) (act : SendStreamState → ConnM Unit) :
    Prop :=
  ∀ (c : Connection) (stream : SendStreamState), c.findSendStream stream.streamId = some stream →
    wp (act stream) (fun _ t => Serves lives b u c t) (fun _ t => t = c) c

theorem queueResetStream_acts (code : Nat) : ServesStream lives b u fun stream => queueResetStream stream code := by
  intro c stream found
  simp only [queueResetStream, wp_ite, wp_pure, wp_bind, wp_failIf, wp_modify]
  refine ⟨fun _ => .refl c, fun _ => ⟨fun _ => trivial, fun _ => ?_⟩⟩
  have reset : Sends b c _ := putSendStream_sends stream
    { stream with finSent := true, resetSent := true, resetAcked := false } found
    fun t => ⟨rfl, rfl, Or.inr ⟨rfl, rfl⟩, fun _ => rfl, Or.inl, Or.inl⟩
  exact (reset.serves (putSendStream_tends found rfl)).rest rfl rfl

theorem applyMaxStreamDataToSendStream_acts (maximumStreamData : Nat) :
    ServesStream lives b u (applyMaxStreamDataToSendStream maximumStreamData) := by
  intro c stream found
  simp only [applyMaxStreamDataToSendStream, wp_ite, wp_pure, wp_modify]
  have step : AllowanceStep u.toAllowanceRule c.allowance _ :=
    AllowanceStep.raisesStream maximumStreamData (allowance_find_some found)
  have raised : Sends b c _ := putSendStream_sends stream
    { stream with maxData := max stream.maxData maximumStreamData } found
    fun t => ⟨rfl, rfl, Or.inl rfl, id, Or.inl, Or.inl⟩
  refine ⟨fun _ => .refl c, fun _ => ⟨raised.evolves.trans (.of_view rfl), .of_allowance (.single (step.of_eq ?_)) rfl⟩⟩
  have put := allowance_putSendStream (c := c)
    { stream with maxData := max stream.maxData maximumStreamData }
  exact congrArg (fun a : Allowance =>
    { a with received := c.peerLimits ++ [PeerLimit.streamData stream.streamId maximumStreamData] }) put

variable {act : SendStreamState → ConnM Unit}

theorem withSendStream_serves {streamId : Nat} (acts : ServesStream lives b u act)
    (known : c.findSendStream streamId = none → isLocalInitiator c.side streamId = false) :
    wp (withSendStream streamId act) (fun _ t => Serves lives b u c t) (fun _ t => Serves lives b u c t) c := by
  simp only [withSendStream, wp_bind, wp_get]
  cases found : c.findSendStream streamId with
  | some stream =>
    obtain rfl := (lookup_some found).1
    exact wp_mono (acts c stream found) (fun _ _ h => h) fun _ t same => same ▸ Serves.refl t
  | none =>
    simp only [wp_bind, wp_set, wp_onError]
    set opened := c.appendSendStream (c.freshSendStream streamId)
    have here : opened.findSendStream (c.freshSendStream streamId).streamId = some (c.freshSendStream streamId) := by
      have missing : lookup SendStreamState.streamId (c.freshSendStream streamId).streamId
          c.sendStreams = none := found
      have last : lookup SendStreamState.streamId (c.freshSendStream streamId).streamId
          (c.sendStreams ++ [c.freshSendStream streamId]) = some (c.freshSendStream streamId) := by
        rw [lookup_append, missing, Option.none_or]
        simp [lookup]
      exact last
    have opens : c.sendView.Moves opened.sendView :=
      .opens (v := c.sendView) (c.initialPeerStreamDataLimit streamId) found (known found)
    have serves : Serves lives b u c opened := ⟨⟨.refl _, opens, .refl _⟩, appendFresh_tends (known found)⟩
    refine wp_mono (acts opened _ here) (fun _ _ h => serves.trans h) fun _ t unchanged => ?_
    -- the new stream is the last one, and is taken back
    subst unchanged
    refine .of_rest ?_ ?_ <;> simp [opened, appendSendStream]

variable (streamId code : Nat)

theorem resetStream_serves : Steps (Serves lives b u) (resetStream streamId code) := by
  refine .active <| .guard <| .guard <| .runs fun c => .read <|
    .failIf fun sides => .failIf fun permitted => ?_
  refine withSendStream_serves (queueResetStream_acts code) fun unknown => ?_
  simp only [unknown, Option.isNone_none, true_and, not_or, Bool.not_eq_true] at permitted
  simp only [isLocalBidirectional, isLocalUnidirectional] at permitted sides
  grind

theorem onSendSideOfStream_serves (streamId : Nat) (acts : ServesStream lives b u act) :
    Steps (Serves lives b u) (onSendSideOfStream streamId act) := by
  refine .guard <| .runs fun c => .read <| .ite (fun ours => ?_) fun theirs => .failIf fun _ => .failIf fun _ => ?_
  · cases found : c.findSendStream streamId with
    | none => exact Serves.refl c
    | some stream =>
      obtain rfl := (lookup_some found).1
      exact wp_mono (acts c stream found) (fun _ _ h => h) fun _ t same => same ▸ .refl t
  · rw [RunsFrom, wp_bind]
    refine wp_mono (ensureRecvStreamState_spec streamId c) ?_ fun _ _ h => h.elim
    rintro stream t ⟨opened, _, _⟩
    have serves : Serves lives b u c t := opened.takes.serves
    have side : t.side = c.side := by rw [opened.rest]
    have known : t.findSendStream streamId = none → isLocalInitiator t.side streamId = false := fun _ =>
      side ▸ Bool.not_eq_true _ ▸ theirs
    exact wp_mono (withSendStream_serves acts known) (fun _ _ h => serves.trans h) fun _ _ h => serves.trans h

theorem queueStopSending_serves {stream : RecvStreamState} (code : Nat)
    (found : c.findRecvStream stream.streamId = some stream) :
    wp (queueStopSending stream code) (fun _ t => Serves lives b u c t) (fun _ t => t = c) c := by
  simp only [queueStopSending, wp_bind, wp_failIf, wp_ite, wp_pure, wp_modify]
  refine ⟨fun _ => trivial, fun _ => ⟨fun _ => .refl c, fun _ => ⟨fun _ => trivial, fun _ =>
    ⟨fun _ => trivial, fun _ => ⟨?_, .of_upkeep rfl⟩⟩⟩⟩⟩
  exact ⟨.one (.stops (r := c.recvPart) found), .refl _, .refl _⟩

theorem stopSending_serves : Steps (Serves lives b u) (stopSending streamId code) := by
  refine .active <| .guard <| .guard <| .runs fun c => .read <| .failIf fun _ => ?_
  cases found : c.findRecvStream streamId with
  | some stream =>
    obtain rfl := (lookup_some found).1
    exact wp_mono (queueStopSending_serves code found) (fun _ _ h => h) fun _ t same => same ▸ .refl t
  | none =>
    refine .failIf fun _ => .failIf fun _ => ?_
    simp only [RunsFrom, appendRecvStreamState, wp_bind, wp_modify, wp_onError]
    have opened : Opened c { c with recvStreams := c.recvStreams ++ [c.freshRecvStream streamId] } :=
      appendRecvStreamState_opened found
    have here : ({ c with recvStreams := c.recvStreams ++ [c.freshRecvStream streamId] } :
        Connection).findRecvStream (c.freshRecvStream streamId).streamId =
        some (c.freshRecvStream streamId) := by
      have missing : c.findRecvStream (c.freshRecvStream streamId).streamId = none := found
      rw [findRecvStream_append, missing, Option.none_or]
      simp [lookup]
    refine wp_mono (queueStopSending_serves code here) (fun _ _ h => opened.takes.serves.trans h) ?_
    -- the new stream is the last one, and is taken back
    rintro _ t rfl
    refine .of_rest ?_ rfl
    simp

theorem receiveMaxDataFrame_serves (maximumData : Nat) :
    Steps (Serves lives b u) (receiveMaxDataFrame maximumData) :=
  .modify fun c => ⟨.of_view rfl, .of_allowance (.single (.raisesData c.allowance maximumData)) rfl⟩

variable (maximumStreams : Nat)

theorem receiveMaxStreamsBidiFrame_serves : Steps (Serves lives b u) (receiveMaxStreamsBidiFrame maximumStreams) :=
  .guard <|
    .modify fun c => ⟨.of_view rfl, .of_allowance (.single (.raisesBidi c.allowance maximumStreams)) rfl⟩

theorem receiveMaxStreamsUniFrame_serves : Steps (Serves lives b u) (receiveMaxStreamsUniFrame maximumStreams) :=
  .guard <|
    .modify fun c => ⟨.of_view rfl, .of_allowance (.single (.raisesUni c.allowance maximumStreams)) rfl⟩

def TransportParameters.limits (params : TransportParameters) : InitialLimits :=
  ⟨params.initialMaxData, params.initialMaxStreamDataBidiLocal, params.initialMaxStreamDataBidiRemote,
    params.initialMaxStreamDataUni, params.initialMaxStreamsBidi, params.initialMaxStreamsUni⟩

theorem applyValidatedPeerTransportParameters_tends (may : u.tunes) (c : Connection)
    (params : TransportParameters) : Tends lives u c (c.applyValidatedPeerTransportParameters params) := by
  have tuned : Tends lives u c { c with peerMaxIdleTimeoutMs := params.maxIdleTimeout } :=
    .of_activity (.tunes c.activity params.maxIdleTimeout may) rfl
  have step := @AllowanceStep.applies u.toAllowanceRule c.allowance params.limits
  refine tuned.trans (.of_allowance (.single (step.of_eq ?_)) rfl)
  have streams : ∀ streams : List SendStreamState, (streams.map SendStreamState.allowance).map
        (fun stream => { stream with maxData := params.limits.streamData c.side stream.streamId }) =
      (streams.map fun stream =>
        { stream with maxData := params.limits.streamData c.side stream.streamId }).map
          SendStreamState.allowance := by
    intro streams
    simp only [List.map_map]
    rfl
  exact congrArg (fun streams => { c.allowance with
    limits := params.limits, streams, received := c.peerLimits ++ [PeerLimit.initial params.limits] })
    (streams c.sendStreams).symm

@[simp] theorem bytesInFlight_updateMaxDatagramSize (r : Recovery) (size : Nat) :
    (r.updateMaxDatagramSize size).bytesInFlight = r.bytesInFlight := by
  unfold Recovery.updateMaxDatagramSize
  split_ifs <;> rfl

theorem ledger_syncRecoveryMaxDatagramSize (c : Connection) : c.syncRecoveryMaxDatagramSize.ledger = c.ledger := by
  have spaces : (fun space => (c.syncRecoveryMaxDatagramSize.packetNumberSpace space).ledger) =
      fun space => (c.packetNumberSpace space).ledger := by
    funext space
    cases space <;> simp [syncRecoveryMaxDatagramSize, packetNumberSpace, PacketNumberSpaceState.ledger]
  exact congrArg (fun space => { c.ledger with space }) spaces

theorem applyValidatedPeerTransportParameters_sends (c : Connection) (params : TransportParameters) :
    Sends b c (c.applyValidatedPeerTransportParameters params) := by
  set limited := (c.setPeerLimits params).modifyRecovery .application
    fun r => { r with maxAckDelayNs := params.maxAckDelay * nsPerMs } with limited_def
  have recovers : limited.ledger = (c.setPeerLimits params).ledger :=
    (ledger_modifySpace (c.setPeerLimits params) .application (f := fun s => { s with
      recoveryState := { s.recoveryState with maxAckDelayNs := params.maxAckDelay * nsPerMs } })
      (g := id) fun _ => rfl).trans (Ledger.modify_id _ _)
  have books : limited.syncRecoveryMaxDatagramSize.ledger = c.ledger :=
    (ledger_syncRecoveryMaxDatagramSize limited).trans (recovers.trans rfl)
  refine ⟨⟨rfl, ?_⟩, ?_⟩
  · refine SendView.Moves.of_marked (v := c.sendView)
      (List.forall₂_map_right_iff.mpr (List.forall₂_same.mpr fun stream _ => ?_))
    exact ⟨rfl, rfl, Or.inl rfl, id, Or.inl, Or.inl⟩
  · exact books ▸ .refl _

theorem applyValidatedPeerTransportParameters_serves (may : u.tunes) (c : Connection) (params : TransportParameters) :
    Serves lives b u c (c.applyValidatedPeerTransportParameters params) :=
  ⟨(applyValidatedPeerTransportParameters_sends c params).evolves,
    applyValidatedPeerTransportParameters_tends may c params⟩

variable {α : Type}

theorem liftValidation_serves (x : Validation α) : Steps (Serves lives b u) (liftValidation x) := by
  cases x with
  | ok a => exact .pure a
  | error e => exact .throw _

theorem applyPeerTransportParameters_serves (may : u.tunes) (params : TransportParameters) :
    Steps (Serves lives b u) (applyPeerTransportParameters params) :=
  .active <| .read fun _ => .bind (liftValidation_serves _) fun _ =>
    .modify fun c => applyValidatedPeerTransportParameters_serves may c params

theorem applyPeerTransportParametersWithCompatibleVersion_serves (may : u.tunes)
    (params : TransportParameters) (compatibilities : List VersionCompatibility) :
    Steps (Serves lives b u) (applyPeerTransportParametersWithCompatibleVersion params compatibilities) :=
  .active <| .read fun _ => .bind (liftValidation_serves _) fun _ =>
    .bind (.modify fun c => applyValidatedPeerTransportParameters_serves may c params) fun _ => .pure _

theorem applyPeerTransportParameterBytes_serves (may : u.tunes) (data : Bytes) :
    Steps (Serves lives b u) (applyPeerTransportParameterBytes data) := by
  unfold applyPeerTransportParameterBytes
  split
  · exact .throw _
  · exact applyPeerTransportParameters_serves may _

theorem applyPeerTransportParameterBytesWithCompatibleVersion_serves (may : u.tunes) (data : Bytes)
    (compatibilities : List VersionCompatibility) :
    Steps (Serves lives b u) (applyPeerTransportParameterBytesWithCompatibleVersion data compatibilities) := by
  unfold applyPeerTransportParameterBytesWithCompatibleVersion
  split
  · exact .throw _
  · exact applyPeerTransportParametersWithCompatibleVersion_serves may _ compatibilities

theorem closeOnParameters_serves (error : PeerTransportParameterValidationError) :
    Steps (Serves LifeSteps b u) (closeOnParameters (α := α) error) := by
  cases error <;> exact .bind (closeWith_serves _) fun _ => .throw _

theorem applyParameterBytesOrClose_serves (may : u.tunes) (data : Bytes) {plain : ConnM α}
    (validate : Connection → TransportParameters → Validation α) (serves : Steps (Serves LifeSteps b u) plain) :
    Steps (Serves LifeSteps b u) (applyParameterBytesOrClose data plain validate) := by
  refine .read fun _ => .ite _ serves ?_
  cases TransportParameters.parse data with
  | error e => exact closeOnParameters_serves _
  | ok params =>
    refine .read fun c => ?_
    cases validate c params with
    | error e => exact closeOnParameters_serves e
    | ok result =>
      exact .bind (.modify fun c => applyValidatedPeerTransportParameters_serves may c params) fun _ => .pure _

end Quicz
