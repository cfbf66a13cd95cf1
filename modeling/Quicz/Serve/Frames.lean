import Quicz.Serve.Streams

/-! Received frames, payloads and packets move the whole connection along its machines. Only the close frames
of the peer touch its life; the frames after one are still handled, in the draining state. -/
namespace Quicz

open Chunks Proc Resend Connection LedgerEntry ReceivedPacketRanges

variable {now : Int}

variable {lives : Life → Life → Prop} [IsPreorder Life lives] {b : LedgerRule} {u : UpkeepRule} {frame : Frame}

theorem receiveFrame_serves (space : PacketNumberSpace) (now : Int)
    (stored : ∀ stream, frame = .stream stream → b.recv.stores stream)
    (hears : ∃ state, u.hears ⟨frame, state⟩) (other : frame.isClose = false) :
    Steps (Serves lives b u) (receiveFrame space now frame) := by
  cases frame with
  | padding | ping => exact .pure _
  | ack ack counts => exact receiveAckFrame_serves space now ack counts
  | maxData maximum => exact receiveMaxDataFrame_serves maximum
  | maxStreamData streamId maximum =>
    exact onSendSideOfStream_serves streamId (applyMaxStreamDataToSendStream_acts maximum)
  | maxStreamsBidi maximum => exact receiveMaxStreamsBidiFrame_serves maximum
  | maxStreamsUni maximum => exact receiveMaxStreamsUniFrame_serves maximum
  | dataBlocked maximum => exact serves_of_receives (receiveDataBlockedFrame_receives maximum)
  | streamDataBlocked streamId maximum =>
    exact serves_of_receives (receiveStreamDataBlockedFrame_receives streamId maximum)
  | streamsBlockedBidi maximum => exact serves_of_receives (receiveStreamsBlockedBidiFrame_receives maximum)
  | streamsBlockedUni maximum => exact serves_of_receives (receiveStreamsBlockedUniFrame_receives maximum)
  | pathChallenge data => exact receivePathChallengeFrame_serves data
  | pathResponse data => exact receivePathResponseFrame_serves hears
  | stopSending stop =>
    exact onSendSideOfStream_serves stop.streamId (queueResetStream_acts stop.applicationErrorCode)
  | resetStream reset => exact serves_of_receives (receiveResetStreamFrame_receives reset)
  | crypto crypto => exact receiveCryptoFrame_serves space crypto
  | stream frame => exact serves_of_receives (receiveStreamFrame_receives (stored frame rfl))
  | newConnectionId frame => exact receiveNewConnectionIdFrame_serves frame
  | retireConnectionId number => exact receiveRetireConnectionIdFrame_serves number
  | newToken token => exact receiveNewTokenFrame_serves token
  | handshakeDone => exact receiveHandshakeDoneFrame_serves
  | datagram data => exact receiveDatagramFrame_serves data
  | connectionClose close | applicationClose close => cases other

/-- A state in which the close frames of the peer are taken in. -/
def Life.Receptive (l : Life) : Prop := l.state ≠ .closed ∧ l.pendingClose = none

theorem receiveClose_serves {c : Connection} (receptive : c.life.Receptive) (now : Int) (close : PendingCloseFrame) :
    Serves LifeSteps b u c ({ c with peerClose := some (c.peerClose.getD close) }.enterDrainingState now) := by
  refine ⟨.of_view rfl, .of_life ((LifeStep.drains (c.closeStateDeadline now) receptive.1).of_eq ?_) rfl⟩
  exact congrArg (fun pending => (⟨.draining, pending, true, some (c.closeStateDeadline now)⟩ : Life)) receptive.2

theorem receiveFrame_close (space : PacketNumberSpace) (now : Int)
    (closes : frame.isClose = true) : ∃ close, receiveFrame space now frame = receiveClose now close := by
  cases frame with
  | connectionClose close => exact ⟨.connection close, rfl⟩
  | applicationClose close => exact ⟨.application close, rfl⟩
  | _ => cases closes

structure Attends (b : LedgerRule) (u : UpkeepRule) (c t : Connection) : Prop where
  serves : Serves LifeSteps b u c t
  receptive : t.life.Receptive

theorem hear_tends (c : Connection) (clock : u.clock now) (fits : u.hears ⟨frame, c.state⟩) :
    Tends lives u c (c.hear frame) :=
  ⟨refl_of lives _, .single (.hears _ _ clock), .refl, .refl, .refl, .refl, [⟨frame, c.state⟩], rfl,
    by simpa using fits⟩

def Activity.hearAll (a : Activity) (frames : List HeardFrame) : Activity := { a with heard := a.heard ++ frames }

def ReceivedPayload.StoredBy (rule : RecvRule) (payload : ReceivedPayload) : Prop :=
  ∀ frame, .stream frame ∈ payload.frames → rule.stores frame

def OpenedPacket.StoredBy (rule : RecvRule) (opened : OpenedPacket) : Prop :=
  opened.authentic = true → opened.plaintext.StoredBy rule

/-- The induction is on the frames; a close frame changes the state in which the rest is heard. -/
theorem receiveFrames_attends (space : PacketNumberSpace) (packetType : FramePacketType) (clock : u.clock now)
    (frames : List Frame) {c : Connection} (receptive : c.life.Receptive)
    (stored : ∀ stream, .stream stream ∈ frames → b.recv.stores stream)
    (hears : ∀ heard ∈ heardAs c.state frames, u.hears heard) : wp (receiveFrames space packetType now frames)
      (fun _ t => Attends b u c t ∧ t.activity = c.activity.hearAll (heardAs c.state frames))
      (fun _ t => Attends b u c t) c := by
  induction frames generalizing c with
  | nil => exact ⟨⟨.refl c, receptive⟩, by simp [Activity.hearAll, heardAs]⟩
  | cons frame rest ih =>
    rw [heardAs, List.forall_mem_cons] at hears
    rw [receiveFrames, wp_forM_cons]
    simp only [wp_bind, wp_failIf, wp_modify]
    refine ⟨fun _ => ⟨.refl c, receptive⟩, fun _ => ?_⟩
    have heard : Serves LifeSteps b u c (c.hear frame) := ⟨.of_view rfl, hear_tends c clock hears.1⟩
    -- the rest of the frames, from the state the handler leaves
    have onwards : ∀ t : Connection, Serves LifeSteps b u c t → t.life.Receptive →
        t.activity = c.activity.hearAll [⟨frame, c.state⟩] →
        t.state = (if frame.isClose then .draining else c.state) →
        wp (receiveFrames space packetType now rest)
          (fun _ v => Attends b u c v ∧ v.activity = c.activity.hearAll (heardAs c.state (frame :: rest)))
          (fun _ v => Attends b u c v) t := by
      intro t serves still activity state
      have storedRest := fun stream mem => stored stream (List.mem_cons_of_mem _ mem)
      refine wp_mono (ih still storedRest (state ▸ hears.2)) (fun _ _ h => ⟨?_, ?_⟩) fun _ _ h => ?_
      · exact ⟨serves.trans h.1.serves, h.1.receptive⟩
      · rw [h.2, activity, state]
        simp [Activity.hearAll, heardAs]
      · exact ⟨serves.trans h.serves, h.receptive⟩
    cases kind : frame.isClose with
    | true =>
      obtain ⟨close, receives⟩ := receiveFrame_close space now kind
      have drained : Serves LifeSteps b u (c.hear frame) _ :=
        receiveClose_serves (c := c.hear frame) receptive now close
      rw [receives, receiveClose, wp_modify]
      refine onwards _ (heard.trans drained) ⟨by rintro ⟨⟩, receptive.2⟩ rfl ?_
      rw [kind]
      rfl
    | false =>
      have serves : Steps (Serves Eq b u.still) (receiveFrame space now frame) :=
        receiveFrame_serves space now (fun stream same => stored stream (same ▸ List.mem_cons_self))
          ⟨c.state, hears.1⟩ kind
      refine wp_mono (serves (c.hear frame)) (fun _ t h => ?_) fun _ t h => ?_
      · have life : c.life = t.life := h.tends.life
        obtain ⟨quiet, activity⟩ := h.of_still
        refine onwards t (heard.trans quiet.lively) (life ▸ receptive) activity ?_
        rw [kind]
        exact (congrArg Life.state life).symm
      · have life : c.life = t.life := h.tends.life
        exact ⟨heard.trans h.of_still.1.lively, life ▸ receptive⟩

omit [IsPreorder Life lives] in
theorem Tends.takes {c t v : Connection} {payload : ReceivedPayload} (h : Tends lives u c t)
    (clock : u.clock now) (brings : u.brings payload) (whole : payload.malformed = none)
    (all : t.activity = c.activity.hearAll (heardAs .active payload.frames))
    (stirs : v.upkeep = t.upkeep.stir now) : Tends lives u c v := by
  have taken : v.activity = c.activity.take now payload := by
    have timeout : (c.activity.hearAll (heardAs .active payload.frames)).timeout = c.activity.timeout := rfl
    refine (congrArg Upkeep.activity stirs).trans ?_
    change t.activity.stir now = _
    rw [all]
    unfold Activity.take Activity.stir
    rw [timeout]
    cases c.activity.timeout <;> rfl
  have life : v.life = t.life := congrArg Upkeep.life stirs
  have peerIds : v.peerIds = t.peerIds := congrArg Upkeep.peerIds stirs
  have paths : v.paths = t.paths := congrArg Upkeep.paths stirs
  have allowance : v.allowance = t.allowance := congrArg Upkeep.allowance stirs
  have identity : v.identity = t.identity := congrArg Upkeep.identity stirs
  have heard : v.heard = t.heard := congrArg Upkeep.heard stirs
  exact ⟨life ▸ h.life, taken ▸ .single (.takes _ clock brings whole), peerIds ▸ h.peerIds, paths ▸ h.paths,
    allowance ▸ h.allowance, identity ▸ h.identity, heard ▸ h.heard⟩

theorem finishFrames_serves {space : PacketNumberSpace} (clock : u.clock now) {payload : ReceivedPayload}
    (brings : u.brings payload) (whole : payload.malformed = none) {packetNumber : Option Nat}
    (hears : ∀ n, packetNumber = none ∨ packetNumber = some n → b.hears space n) {c t : Connection}
    (serves : Serves LifeSteps b u c t) (all : t.activity = c.activity.hearAll (heardAs .active payload.frames)) :
    wp (finishFrames space now payload packetNumber) (fun _ v => Serves LifeSteps b u c v)
      (fun _ v => Serves LifeSteps b u c v) t := by
  have closing : Steps (Serves LifeSteps b u) (do
      if payload.frames.contains .handshakeDone && !(← get).isClosingOrClosed then
        discardPacketNumberSpace .handshake : ConnM Unit) :=
    .read fun _ => .ite _ (discardPacketNumberSpace_serves .handshake) (.pure _)
  have rest : ∀ v : Connection, Serves LifeSteps b u c v → v.activity = t.activity → wp (do
      modify fun c => c.markHandshakeSpaceUsed space
      drainPendingRecvStreams
      modify fun c => (c.recordPacketActivity now).maybeDiscardInitialAfterHandshakePacketReceived space
      if payload.frames.contains .handshakeDone && !(← get).isClosingOrClosed then
        discardPacketNumberSpace .handshake : ConnM Unit)
      (fun _ w => Serves LifeSteps b u c w) (fun _ w => Serves LifeSteps b u c w) v := by
    intro v reached same
    have marked := upkeep_markHandshakeSpaceUsed v space
    have before := reached.rest (view_markHandshakeSpaceUsed v space) marked
    have drains : Steps (Serves LifeSteps b u.still) drainPendingRecvStreams :=
      serves_of_receives drainPendingRecvStreams_receives
    rw [wp_bind, wp_modify, wp_bind]
    refine wp_mono (drains _) (fun _ w h => ?_) fun _ w h => before.trans h.of_still.1
    obtain ⟨drained, quiet⟩ := h.of_still
    have activity : w.activity = t.activity := quiet.trans ((congrArg Upkeep.activity marked).trans same)
    have stirred : Sends b w (w.recordPacketActivity now) := .of_view (view_recordPacketActivity w now)
    rw [wp_bind, wp_modify]
    refine closing.later ⟨?_, (before.trans drained).tends.takes clock brings whole (activity.trans all) ?_⟩
    · exact (before.trans drained).evolves.trans
        (stirred.trans (maybeDiscardInitialAfterHandshakePacketReceived_sends _ space)).evolves
    · rw [upkeep_maybeDiscardInitialAfterHandshakePacketReceived, upkeep_recordPacketActivity]
  have acks : Steps (Serves LifeSteps b u.still) (queueAckForReceivedPacket space packetNumber) :=
    queueAckForReceivedPacket_serves hears
  unfold finishFrames
  rw [wp_bind, wp_get]
  split
  · rw [wp_bind]
    refine wp_mono (acks t) (fun _ v h => ?_) fun _ v h => serves.trans h.of_still.1
    exact rest v (serves.trans h.of_still.1) h.of_still.2
  · exact rest t serves rfl

structure ReceivedPayload.Taken (rule : UpkeepRule) (payload : ReceivedPayload) : Prop where
  brings : rule.brings payload
  hears : ∀ heard ∈ heardAs .active payload.frames, rule.hears heard

structure ReceivedPayload.Welcome (b : LedgerRule) (u : UpkeepRule) (payload : ReceivedPayload) : Prop where
  stored : payload.StoredBy b.recv
  taken : payload.Taken u

structure Told (b : LedgerRule) (u : UpkeepRule) (now : Int) : Prop where
  books : b.clock now
  upkeep : u.clock now

section Payloads
variable (told : Told b u now) {payload : ReceivedPayload} (welcome : payload.Welcome b u) {space : PacketNumberSpace}
  {packetNumber : Option Nat} (hears : ∀ n, packetNumber = none ∨ packetNumber = some n → b.hears space n)

theorem closeOn_serves (close : CloseError) : Steps (Serves LifeSteps b u) (closeOn close) :=
  .bind (closeWith_serves _) fun _ => .throw _

variable (packetType : FramePacketType)

theorem closeOnFrameProcessingError_serves (payload : ReceivedPayload) (err : Error) :
    Steps (Serves LifeSteps b u) (closeOnFrameProcessingError packetType payload err) := by
  refine .ite _ (.read fun c => ?_) (.throw _)
  cases c.classifyFrameProcessingCloseError packetType payload.wire with
  | some close => exact closeOn_serves close
  | none => exact .throw _

include told welcome hears

theorem processFramesInSpaceNoSnapshot_serves :
    Steps (Serves LifeSteps b u) (processFramesInSpaceNoSnapshot space packetType now payload packetNumber) := by
  refine fun s => RunsFrom.bind (prepareInboundDatagramProcessing_serves told.books s) fun go c yields => ?_
  cases go with
  | false => exact .refl c
  | true =>
    obtain ⟨active, pending, -⟩ := not_isClosingOrClosed (Bool.not_eq_true _ ▸ yields rfl)
    have going : c.state ≠ .closed := by rw [active]; nofun
    have receptive : c.life.Receptive := ⟨going, pending⟩
    simp only [if_true, RunsFrom, wp_bind, wp_get, wp_failIf]
    refine ⟨fun _ => .refl c, fun _ => ⟨fun _ => .refl c, fun _ => ?_⟩⟩
    have heard : ∀ heard ∈ heardAs c.state payload.frames, u.hears heard := active ▸ welcome.taken.hears
    refine wp_mono (receiveFrames_attends space packetType told.upkeep payload.frames receptive welcome.stored heard)
      (fun _ t h => ?_) fun _ _ h => h.serves
    refine ⟨fun _ => h.1.serves, fun whole => ?_⟩
    rw [active] at h
    exact finishFrames_serves told.upkeep welcome.taken.brings (Option.not_isSome_iff_eq_none.mp whole) hears
      h.1.serves h.2

theorem processFramesOrClose_serves :
    Steps (Serves LifeSteps b u) (processFramesOrClose space packetType now payload packetNumber) := by
  unfold processFramesOrClose
  cases classifyFramePayloadCloseError packetType payload with
  | some close => exact closeOn_serves close
  | none =>
    exact .recover (processFramesInSpaceNoSnapshot_serves told welcome hears packetType)
      (closeOnFrameProcessingError_serves packetType payload)

theorem processDatagramInSpaceWithPacketTypeMaybeClose_serves (close : Bool) :
    Steps (Serves LifeSteps b u) (processDatagramInSpaceWithPacketTypeMaybeClose space packetType now payload
      close packetNumber) :=
  .ite _ (processFramesOrClose_serves told welcome hears packetType)
    (processFramesInSpaceNoSnapshot_serves told welcome hears packetType)

omit hears in
theorem processDatagramForPacketTypeOrClose_serves {packetType : FramePacketType}
    (hears : ∀ n, b.hears (packetNumberSpaceForFramePacketType packetType) n) :
    Steps (Serves LifeSteps b u) (processDatagramForPacketTypeOrClose packetType now payload) :=
  .read fun _ => .ite _ (processFramesInSpaceNoSnapshot_serves told welcome (fun n _ => hears n) packetType)
    (processFramesOrClose_serves told welcome (fun n _ => hears n) packetType)

end Payloads

section Packets

variable {packetNumber : Nat}

theorem ReceivedPacketRanges.record_refused {r : ReceivedPacketRanges}
    (refused : (r.record packetNumber).2 = false) : (r.record packetNumber).1 = r := by
  have insert : ∀ index range, (r.insertRange index range).2 = false → (r.insertRange index range).1 = r := by
    intro index range
    unfold insertRange
    split
    · exact fun _ => rfl
    · exact nofun
  have loop : ∀ ranges before, (r.recordIn packetNumber before ranges).2 = false →
      (r.recordIn packetNumber before ranges).1 = r := by
    intro ranges
    induction ranges with
    | nil => exact fun before => insert _ _
    | cons range rest ih =>
      intro before
      unfold recordIn
      split
      · split
        · split
          · split <;> exact nofun
          · exact nofun
        · exact insert _ _
      · split
        · exact fun _ => rfl
        · split
          · split
            · split <;> exact nofun
            · exact nofun
          · exact ih _
  unfold record at refused ⊢
  split
  · rename_i allowed
    rw [if_pos allowed] at refused
    exact loop _ _ refused
  · rfl

/-- A packet that was processed is recorded, and only then goes on record as such. -/
theorem recordProcessed_serves {space : PacketNumberSpace} (hears : b.hears space packetNumber)
    {rest : ConnM Unit} {R : Unit → Connection → Prop} {E : Error → Connection → Prop}
    (fails : ∀ e, E e c) (next : ∀ t, Serves LifeSteps b u c t → wp rest R E t) : wp (do
      let _ ← recordReceivedPacketNumber space packetNumber
      modify fun c => c.note (.processed space packetNumber)
      rest) R E c := by
  simp only [recordReceivedPacketNumber, wp_bind, wp_failIf, wp_get, wp_ite, wp_modify, wp_pure]
  refine ⟨fun _ => fails _, fun bound => ⟨fun _ => next _ ?_, fun refused => next _ ?_⟩⟩
  · refine .of_entry (.processes space packetNumber) ⟨hears, Nat.le_of_not_lt bound⟩ ?_ ?_
      ((upkeep_note _ rfl rfl).trans (upkeep_modifySpace c space _))
    · refine streamView_modifySpace c space _ ?_
      exact fun _ => rfl
    · rw [ledger_note, ledger_modifySpace_at c space (g := (·.hear packetNumber)) rfl]
      rfl
  · refine .of_entry (.processes space packetNumber) ⟨hears, Nat.le_of_not_lt bound⟩ rfl ?_ (upkeep_note c rfl rfl)
    have same : (c.ledger.space space).hear packetNumber = c.ledger.space space := by
      have kept := record_refused (Bool.not_eq_true _ ▸ refused)
      exact congrArg (fun received => { c.ledger.space space with received }) kept
    have quiet : c.ledger.modify space (·.hear packetNumber) = c.ledger :=
      (Ledger.modify_congr (g := id) same).trans (Ledger.modify_id _ space)
    rw [ledger_note]
    simp only [apply, quiet]

theorem applied_serves (space : PacketNumberSpace) (kept : ¬ (c.packetNumberSpace space).discarded = true)
    (fresh : (c.packetNumberSpace space).receivedPacketRanges.canRecord packetNumber = true)
    (applies : b.applies) : Serves lives b u c (c.note (.applied space packetNumber)) := by
  refine .of_entry (.applies space packetNumber) ⟨applies, ?_⟩ rfl rfl (upkeep_note c rfl rfl)
  rintro (discarded | seen)
  · exact kept discarded
  · exact absurd (fresh.symm.trans seen) nofun

theorem validateReceivedUdpDatagramSize_serves (len : Nat) :
    Steps (Serves lives b u) (validateReceivedUdpDatagramSize len) := .read fun _ => .failIf _ _

/-- What the first Initial packet of the peer fixes, when nothing was fixed while it was processed. -/
theorem recordPeerInitialIds_tends (may : u.identifies) {c before : Connection} {opened : OpenedLongPacket}
    (same : c.identity = before.identity) (valid : before.checkInitialHeader opened = true) :
    Tends LifeSteps u c (c.recordPeerInitialIds before opened) := by
  simp only [identity, Identity.mk.injEq] at same
  obtain ⟨side, original, -, -, peerInitial, -⟩ := same
  unfold recordPeerInitialIds
  split
  · exact .refl c
  · rename_i initial
    simp only [ne_eq, Decidable.not_not] at initial
    simp only [checkInitialHeader, initial, bne_self_eq_false, Bool.false_or, Bool.and_eq_true] at valid
    have step : IdentityStep u.identifies c.identity _ := .processesInitial opened.dcid
      (by rw [← peerInitial] at valid; exact valid.2) may
    refine .of_identity (step.of_eq ?_) rfl
    rw [← side, ← original, ← peerInitial]
    cases known : c.originalDestinationConnectionId <;> cases met : c.peerInitialSourceConnectionId <;>
      simp [identity, known, met]

variable (told : Told b u now) (applies : b.applies) (hears : ∀ space n, b.hears space n) {c : Connection}
include told applies hears

theorem processDecodedProtectedShortDatagram_serves
    (kept : ¬ c.applicationPacketSpace.discarded = true) {opened : OpenedPacket}
    (welcome : opened.plaintext.Welcome b u) (close : Bool) :
    wp (processDecodedProtectedShortDatagram now opened close) (fun _ t => Serves LifeSteps b u c t)
      (fun _ t => Serves LifeSteps b u c t) c := by
  rw [processDecodedProtectedShortDatagram, wp_bind, wp_get, wp_ite]
  refine ⟨fun _ => .refl c, fun fresh => ?_⟩
  rw [Bool.not_eq_true', Bool.not_eq_false] at fresh
  rw [wp_bind, wp_modify]
  refine Steps.later (.bind
    (processDatagramInSpaceWithPacketTypeMaybeClose_serves told welcome (fun n _ => hears _ n) _ close) fun _ => ?_)
    (applied_serves .application kept fresh applies)
  intro v
  refine recordProcessed_serves (hears _ _) (fun _ => .refl v) fun t (reached : Serves LifeSteps b u v t) => ?_
  rw [wp_modify]
  refine reached.trans ?_
  split
  · exact .of_rest rfl rfl
  · exact .refl t

theorem processProtectedShortDatagramWithFrameErrorPolicy_serves (len : Nat) {opened : OpenedPacket}
    (welcome : opened.authentic = true → opened.plaintext.Welcome b u) (close : Bool) :
    Steps (Serves LifeSteps b u) (processProtectedShortDatagramWithFrameErrorPolicy now len opened close) := by
  refine prepared_serves told.books
    (.bind (validateReceivedUdpDatagramSize_serves len) fun _ => .get fun c => ?_) (.pure _)
  simp only [wp_bind, wp_failIf]
  exact ⟨fun _ => .refl c, fun kept => ⟨fun _ => .refl c, fun shown =>
    processDecodedProtectedShortDatagram_serves told applies hears kept (welcome (by simpa using shown)) close⟩⟩

variable (may : u.identifies) (len : Nat) (close : Bool)
include may

theorem processProtectedLongDatagramWithRoute_serves {opened : OpenedLongPacket}
    (welcome : opened.authentic = true → opened.plaintext.Welcome b u) :
    Steps (Serves LifeSteps b u) (processProtectedLongDatagramWithRoute now len close opened) := by
  refine .get fun c => ?_
  have stay : Serves LifeSteps b u c c := .refl c
  simp only [wp_failIf_bind, wp_ite, wp_pure]
  refine ⟨fun _ => stay, fun kept => ⟨fun _ => stay, fun _ => ⟨fun _ => stay, fun shown =>
    ⟨fun _ => stay, fun _ => ⟨fun _ => stay, fun fresh => ⟨fun _ => stay, fun header => ?_⟩⟩⟩⟩⟩⟩
  rw [Bool.not_eq_true', Bool.not_eq_false] at fresh
  -- up to the last step nothing is fixed
  have brought := welcome (by simpa using shown)
  have times : Told b u.nameless now := ⟨told.books, told.upkeep⟩
  have nameless : opened.plaintext.Welcome b u.nameless := ⟨brought.stored, brought.taken.brings, brought.taken.hears⟩
  have begun : Serves LifeSteps b u.nameless c (c.note (.applied opened.space opened.packetNumber)) :=
    applied_serves opened.space kept fresh applies
  have payload : Steps (Serves LifeSteps b u.nameless) (processDatagramInSpaceWithPacketTypeMaybeClose
      opened.space opened.packetType now opened.plaintext close (some opened.packetNumber)) :=
    processDatagramInSpaceWithPacketTypeMaybeClose_serves times nameless (fun n _ => hears _ n) _ close
  rw [wp_bind, wp_modify, wp_bind]
  refine wp_mono (payload _) (fun _ t first => ?_) fun _ _ h => (begun.trans h).of_nameless.1
  refine recordProcessed_serves (hears _ _) (fun _ => (begun.trans first).of_nameless.1)
    fun v (second : Serves LifeSteps b u.nameless t v) => ?_
  obtain ⟨serves, same⟩ := (begun.trans (first.trans second)).of_nameless
  rw [wp_modify]
  refine serves.trans ⟨.of_view ?_, recordPeerInitialIds_tends may same (by simpa using header)⟩
  unfold recordPeerInitialIds
  split <;> rfl

theorem processProtectedLongDatagramWithFrameErrorPolicy_serves {packets : List OpenedLongPacket}
    (welcome : ∀ opened ∈ packets, opened.authentic = true → opened.plaintext.Welcome b u) :
    Steps (Serves LifeSteps b u) (processProtectedLongDatagramWithFrameErrorPolicy now len packets close) := by
  refine .guard <| prepared_serves told.books
    (.bind (validateReceivedUdpDatagramSize_serves len) fun _ => .read fun c => .guard <| ?_)
    (.pure _)
  have routed : ∀ opened ∈ packets.takeWhile c.routable, opened.authentic = true → opened.plaintext.Welcome b u :=
    fun opened mem => welcome opened ((List.takeWhile_sublist _).mem mem)
  generalize packets.takeWhile c.routable = route at routed
  induction route with
  | nil => exact .pure _
  | cons opened rest ih =>
    obtain ⟨first, others⟩ := List.forall_mem_cons.mp routed
    exact .bind (processProtectedLongDatagramWithRoute_serves told applies hears may len close first) fun _ => ih others

variable {opened : OpenedLongPacket} (welcome : opened.authentic = true → opened.plaintext.Welcome b u)
include welcome

theorem processProtectedLongDatagramInSpaceWithFrameErrorPolicy_serves (space : PacketNumberSpace) :
    Steps (Serves LifeSteps b u) (processProtectedLongDatagramInSpaceWithFrameErrorPolicy space now len opened
      close) :=
  prepared_serves told.books (.bind (validateReceivedUdpDatagramSize_serves len) fun _ => .guard <|
    .guard <| processProtectedLongDatagramWithRoute_serves told applies hears may len close welcome)
    (.pure _)

theorem processProtectedZeroRttDatagramWithFrameErrorPolicy_serves :
    Steps (Serves LifeSteps b u) (processProtectedZeroRttDatagramWithFrameErrorPolicy now len opened close) :=
  prepared_serves told.books (.read fun _ => .guard <|
    .bind (validateReceivedUdpDatagramSize_serves len) fun _ => .guard <|
    processProtectedLongDatagramWithRoute_serves told applies hears may len close welcome) (.pure _)

end Packets

omit [IsPreorder Life lives] in
theorem Serves.mono {wider : LedgerRule} (within : b.Within wider) {c t : Connection}
    (h : Serves lives b u c t) : Serves lives wider u c t :=
  ⟨⟨within.recv ▸ h.evolves.recv, h.evolves.send, h.evolves.ledger.mono within⟩, h.tends⟩

theorem followPeerKeyPhase_serves (c : Connection) (keyPhase : Option Bool) (now : Int) :
    Serves lives b u c (c.followPeerKeyPhase keyPhase now) := by
  unfold followPeerKeyPhase
  split
  · exact .refl c
  · rename_i state held
    split
    · exact .refl c
    · refine .of_entry (.follows (c.keyDiscardDeadline now)) trivial rfl ?_ (upkeep_note c rfl rfl)
      have keys : c.ledger.localKeys = some state := held
      simp only [apply, keys, Option.map_some]
      rfl

variable {state : Aes128KeyPhaseState} {datagram : ShortDatagram}

theorem holds_of_unprotect {packet : ShortPacketSeal} {keys : OneRttKeys} {next : Bool}
    (opened : unprotectShortPacketAes128WithKeyUpdate state packet = .ok (keys, next)) : state.holds keys := by
  have none : ∀ phase, unprotectShortPacketAes128WithKeyUpdate.discarded state phase ≠ .ok (keys, next) := by
    intro phase
    unfold unprotectShortPacketAes128WithKeyUpdate.discarded
    split <;> exact nofun
  unfold unprotectShortPacketAes128WithKeyUpdate at opened
  split at opened
  · cases opened
  · split at opened
    · split at opened
      · cases opened
        exact Or.inl rfl
      · cases opened
    · split at opened
      · cases opened
        exact Or.inr (Or.inl rfl)
      · split at opened
        · split at opened
          · split at opened
            · rename_i held _ _ _
              cases opened
              exact Or.inr (Or.inr held)
            · cases opened
          · exact absurd opened (none _)
        · exact absurd opened (none _)

/-- The peer's state as it was, or moved on by one generation. -/
def Aes128KeyPhaseState.Follows (old new : Aes128KeyPhaseState) : Prop :=
  new = old ∨ ∃ deadline, new = old.moveOn (some deadline)

theorem updateAfterReceiving_serves (c : Connection) (state : Aes128KeyPhaseState) (now : Int)
    (keyPhase : Option Bool) : wp (updateAfterReceiving state now keyPhase)
      (fun after t => Serves LifeSteps b u c t ∧ state.Follows after) (fun _ t => Serves LifeSteps b u c t) c := by
  unfold updateAfterReceiving
  split
  · rename_i advanced turned
    obtain ⟨phase, _, update⟩ := Option.map_eq_some_iff.mp turned
    have moved : advanced = state.advance := by
      unfold Aes128KeyPhaseState.updateAfterReceiving at update
      split at update
      · cases update
      · cases update
        rfl
    simp only [wp_bind, wp_get, wp_modify, wp_pure]
    refine ⟨followPeerKeyPhase_serves c keyPhase now, Or.inr ⟨c.keyDiscardDeadline now, ?_⟩⟩
    rw [moved]
    rfl
  · exact ⟨.refl c, Or.inl rfl⟩

/-- What a received packet alone may do: keys expire at the time given, and nothing else. -/
def LedgerRule.receiving (now : Int) (recv : RecvRule) : LedgerRule :=
  ⟨False, False, False, (· = now), False, False, True, fun _ _ => True, True, recv⟩

/-- Keys of the peer that are not past their time stay while a packet is processed. -/
theorem LedgerSteps.peerKeys_receiving {l m : Ledger} {recv : RecvRule}
    (steps : LedgerSteps (.receiving now recv) l m) (fresh : state.previousExpired now = false)
    (held : l.peerKeys = some state) : m.peerKeys = some state := by
  refine steps.preserves (P := fun l => l.peerKeys = some state) (fun l entry held allowed => ?_) held
  cases entry with
  | emits packet entry =>
    rw [apply, Ledger.emit_eq]
    exact held
  | expires time =>
    obtain rfl : time = now := allowed
    simp [apply, Ledger.expire, held, Aes128KeyPhaseState.discardExpiredPrevious, fresh]
  | installs own peer | advances deadline | rewrites state => exact allowed.elim
  | records space entry | spends bytes =>
    rw [apply, Ledger.spend_eq]
    exact held
  | _ => exact held

variable (told : Told b u now) (applies : b.applies) (hears : ∀ space n, b.hears space n)
include told applies hears

/-- The state a packet is opened with must be the installed one, unless anything goes. -/
theorem processProtectedShortDatagramWithKeyPhaseState_serves {c : Connection} {installed : Bool}
    (welcome : datagram.opened.plaintext.Welcome b u) (close : Bool)
    (current : installed = true → b.opens ∧ (b.rewrites ∨ ∀ l, LedgerSteps b c.ledger l → l.peerKeys = some state)) :
    wp (processProtectedShortDatagramWithKeyPhaseStateAndFrameErrorPolicy now state installed datagram close)
      (fun after t => Serves LifeSteps b u c t ∧ state.Follows after) (fun _ t => Serves LifeSteps b u c t) c := by
  rw [processProtectedShortDatagramWithKeyPhaseStateAndFrameErrorPolicy, wp_bind]
  refine wp_mono (prepareInboundDatagramProcessing_serves told.books c) (fun go t h => ?_)
  obtain ⟨before, -⟩ := h
  rw [wp_ite]
  refine ⟨fun _ => ?_, fun _ => ⟨before, Or.inl rfl⟩⟩
  rw [validateReceivedUdpDatagramSize, wp_bind, wp_bind, wp_get, wp_failIf]
  refine ⟨fun _ => before, fun _ => ?_⟩
  rw [wp_bind, wp_get, wp_failIf_bind]
  refine ⟨fun _ => before, fun kept => ?_⟩
  split
  · have closes : Steps (Serves LifeSteps b u) (recover (closeConnection (codeValue .keyUpdateError) 0
        (textBytes "packet protected with discarded key")) fun _ => pure ()) :=
      .recover (closeWith_serves _) fun _ => .pure _
    rw [wp_bind]
    exact closes.later before
  · exact before
  · rename_i keys turned opened
    -- what follows the opening, from the state it is noted in
    have rest : ∀ v : Connection, Serves LifeSteps b u c v → ¬ v.applicationPacketSpace.discarded = true → wp (do
          processDecodedProtectedShortDatagram now datagram.opened close
          if turned then updateAfterReceiving state now datagram.packet.keyPhase else pure state)
          (fun after t => Serves LifeSteps b u c t ∧ state.Follows after) (fun _ t => Serves LifeSteps b u c t) v := by
      intro v reached stays
      rw [wp_bind]
      refine wp_mono (processDecodedProtectedShortDatagram_serves told applies hears stays welcome close)
        (fun _ w h => ?_) fun _ _ h => reached.trans h
      rw [wp_ite]
      refine ⟨fun _ => ?_, fun _ => ⟨reached.trans h, Or.inl rfl⟩⟩
      exact wp_mono (updateAfterReceiving_serves w state now datagram.packet.keyPhase)
        (fun _ _ k => ⟨(reached.trans h).trans k.1, k.2⟩) fun _ _ k => (reached.trans h).trans k
    rw [wp_ite]
    refine ⟨fun isInstalled => ?_, fun _ => rest t before kept⟩
    rw [wp_bind, wp_modify]
    refine rest _ (before.trans (.of_entry (.opens keys) ?_ rfl rfl (upkeep_note t rfl rfl))) kept
    exact (current isInstalled).imp_right fun known => known.imp_right fun stored =>
      ⟨state, stored _ before.evolves.ledger, holds_of_unprotect opened⟩

theorem processProtectedShortDatagramWithOwnKeys_serves (state : Aes128KeyPhaseState)
    (welcome : datagram.opened.plaintext.Welcome b u) (close : Bool) :
    Steps (Serves LifeSteps b u) (processProtectedShortDatagramWithKeyPhaseStateAndFrameErrorPolicy now state
      false datagram close) := fun _ =>
  wp_mono (processProtectedShortDatagramWithKeyPhaseState_serves told applies hears welcome close nofun)
    (fun _ _ h => h.1)

/-- The installed state is copied, used and put back. A state that is past its time makes the
copy differ from what the connection holds. -/
theorem processProtectedShortDatagramWithInstalledKeys_serves {c : Connection} (opens : b.opens)
    (welcome : datagram.opened.plaintext.Welcome b u) (close : Bool)
    (fresh : b.rewrites ∨ b.turns ∧ ∀ state, c.peerOneRttKeyPhaseState = some state →
      state.previousExpired now = false) :
    wp (processProtectedShortDatagramWithInstalledKeysAndFrameErrorPolicy now datagram close)
      (fun _ t => Serves LifeSteps b u c t) (fun _ t => Serves LifeSteps b u c t) c := by
  rw [processProtectedShortDatagramWithInstalledKeysAndFrameErrorPolicy, wp_bind, wp_get, wp_bind, wp_orThrow]
  refine ⟨fun state held => ?_, fun _ => .refl c⟩
  rw [wp_bind]
  rcases fresh with rewrites | ⟨turns, unexpired⟩
  · refine wp_mono (processProtectedShortDatagramWithKeyPhaseState_serves told applies hears welcome close
      fun _ => ⟨opens, Or.inl rewrites⟩) (fun after t h => ?_)
    exact h.1.trans (.of_entry (.rewrites after) rewrites rfl rfl rfl)
  · have within : (LedgerRule.receiving now b.recv).Within b :=
      ⟨False.elim, False.elim, False.elim, fun _ same => same ▸ told.books, False.elim, False.elim,
        fun _ => applies, fun space n _ => hears space n, fun _ => opens, rfl⟩
    have installed : ∀ l, LedgerSteps (.receiving now b.recv) c.ledger l → l.peerKeys = some state := fun l steps =>
      steps.peerKeys_receiving (unexpired state held) held
    have brought : datagram.opened.plaintext.Welcome (.receiving now b.recv) u := ⟨welcome.stored, welcome.taken⟩
    refine wp_mono (processProtectedShortDatagramWithKeyPhaseState_serves ⟨rfl, told.upkeep⟩ trivial
      (fun _ _ => trivial) brought close fun _ => ⟨trivial, Or.inr installed⟩) (fun after t h => ?_)
      fun _ _ h => h.mono within
    have here : t.peerOneRttKeyPhaseState = some state := installed _ h.1.evolves.ledger
    refine (h.1.mono within).trans ?_
    rcases h.2 with rfl | ⟨deadline, rfl⟩
    · exact .of_rest (by simp only [← here]) rfl
    · refine .of_entry (.advances deadline) turns rfl ?_ rfl
      have keys : t.ledger.peerKeys = some state := here
      simp only [apply, keys, Option.map_some]
      rfl

end Quicz
