import Quicz.Run

/-! The life of a connection only goes forward, and a connection that is not active any more is
silent but for its CONNECTION_CLOSE frame. A payload that comes in then is dropped; only the frames
behind a CONNECTION_CLOSE frame of the same payload are still handled. -/
namespace Quicz

open Chunks Proc Connection List

def ConnectionState.rank : ConnectionState → Nat
  | .active => 0
  | .closing => 1
  | .draining => 2
  | .closed => 3

def Life.Tidy (l : Life) : Prop := l.pendingClose.isSome = true → l.state = .closing

theorem LifeStep.tidy {l m : Life} (step : LifeStep l m) : m.Tidy := by
  cases step with
  | closes close active | enters deadline pending => exact fun _ => rfl
  | drains deadline going => exact nofun
  | expires => exact nofun

theorem LifeStep.rank_le {l m : Life} (step : LifeStep l m) (tidy : l.Tidy) : l.state.rank ≤ m.state.rank := by
  cases step with
  | closes close active => rw [active]; exact Nat.zero_le _
  | enters deadline pending => rw [tidy pending]
  | drains deadline going => cases state : l.state <;> simp_all [ConnectionState.rank]
  | expires => cases l.state <;> simp [ConnectionState.rank]

theorem LifeSteps.forward {l m : Life} (steps : LifeSteps l m) (tidy : l.Tidy) :
    m.Tidy ∧ l.state.rank ≤ m.state.rank := by
  induction steps with
  | refl => exact ⟨tidy, le_rfl⟩
  | tail _ step ih => exact ⟨step.tidy, ih.2.trans (step.rank_le ih.1)⟩

variable {c : Connection} {now : Int}

/-- All that is handed out is the close frame that is to be sent. -/
def Connection.OnlyCloses (c : Connection) (datagram : Option Datagram) : Prop :=
  ∀ d, datagram = some d → ∃ close, c.pendingClose = some close ∧
    ∀ packet ∈ d.packets, packet.frames = [close.toFrame]

theorem onlyCloses_none : c.OnlyCloses none := nofun

/-- A call that hands out nothing but the close frame once the connection is not active. -/
def Silent (c : Connection) (m : ConnM (Option Datagram)) : Prop :=
  c.isClosingOrClosed = true → wp m (fun datagram _ => c.OnlyCloses datagram) (fun _ _ => True) c

theorem silent_quietly {α : Type} (m : ConnM α) : Silent c (quietly m) := by
  intro _
  rw [quietly, wp_bind, wp]
  cases m c with
  | ok => exact onlyCloses_none
  | error => trivial

theorem requireActive_fails {α : Type} {m : Unit → ConnM α} {Q : α → Connection → Prop}
    (gone : c.isClosingOrClosed = true) : wp (requireActive >>= m) Q (fun _ _ => True) c := by
  simp only [requireActive, wp_bind, wp_get, wp_failIf, gone, not_true_eq_false, false_implies, and_true]
  trivial

variable {m : Unit → ConnM (Option Datagram)}

theorem silent_requireActive : Silent c (requireActive >>= m) :=
  requireActive_fails

theorem expired_life (c : Connection) (now : Int) : ((c.expireIdleState now).expireCloseState now).life = c.life ∨
      ((c.expireIdleState now).expireCloseState now).life = ⟨.closed, none, true, none⟩ := by
  rcases (c.expireIdleState now).expireCloseState_cases now with same | ended
  · rw [same]
    rcases c.expireIdleState_cases now with same | ended
    · exact .inl (congrArg _ same)
    · exact .inr (congrArg _ ended)
  · exact .inr (congrArg _ ended)

theorem silent_expire (next : ∀ t, Silent t (m ())) : Silent c (expireState now >>= m) := by
  intro gone
  simp only [expireState, wp_bind, wp_modify]
  set t := (c.expireIdleState now).expireCloseState now
  rcases expired_life c now with same | ended
  · have pending : t.pendingClose = c.pendingClose := congrArg Life.pendingClose same
    have still : t.isClosingOrClosed = true := by
      have closed : t.closed = c.closed := congrArg Life.closed same
      have state : t.state = c.state := congrArg Life.state same
      rwa [isClosingOrClosed, pending, closed, state]
    refine wp_mono (next t still) (fun datagram _ closes => ?_)
    rwa [Connection.OnlyCloses, pending] at closes
  · have none : t.pendingClose = none := congrArg Life.pendingClose ended
    have state : t.state = .closed := congrArg Life.state ended
    refine wp_mono (next t ?_) (fun datagram _ closes d same => ?_)
    · simp [isClosingOrClosed, state]
    · obtain ⟨close, pending, -⟩ := closes d same
      cases none.symm.trans pending

theorem pollCloseFrame_silent (outLen : Nat) : Silent c (pollCloseFrame now outLen) := by
  intro _
  simp only [pollCloseFrame, wp_bind, wp_get]
  cases pending : c.pendingClose with
  | none => exact onlyCloses_none
  | some close =>
    simp only [wp_bind, wp_liftExcept, wp_failIf, wp_ite, wp_pure, wp_modify]
    refine ⟨fun _ _ => ⟨fun _ => trivial, fun _ => ⟨fun _ => onlyCloses_none, fun _ => ⟨fun _ => trivial,
      fun _ => ?_⟩⟩⟩, fun _ _ => trivial⟩
    rintro _ ⟨⟩
    exact ⟨close, pending, by simp⟩

theorem pollTx_silent (outLen : Nat) : Silent c (pollTx now outLen) := by
  refine silent_expire fun t gone => ?_
  rw [wp_bind, wp_get, wp_ite]
  exact ⟨fun _ => pollCloseFrame_silent outLen gone, fun _ => silent_requireActive gone⟩

variable (space : PacketNumberSpace)

theorem pollTxInSpace_silent (outLen : Nat) : Silent c (pollTxInSpace space now outLen) := by
  unfold pollTxInSpace
  split
  · exact pollTx_silent outLen
  · exact silent_expire fun _ => silent_requireActive

theorem pollProtectedShortDatagram_silent (dcidLen : Nat) : Silent c (pollProtectedShortDatagram now dcidLen) := by
  refine silent_expire fun t gone => ?_
  rw [wp_bind, wp_get, wp_ite]
  refine ⟨fun _ => ?_, fun _ => silent_requireActive gone⟩
  simp only [pollProtectedShortCloseDatagram, wp_bind, wp_get]
  cases pending : t.pendingClose with
  | none => trivial
  | some close =>
    simp only [wp_bind, wp_liftExcept, wp_failIf, wp_ite, wp_pure, wp_set]
    refine ⟨fun built made => ⟨fun _ => trivial, fun _ => ⟨fun _ => onlyCloses_none, fun _ => ?_⟩⟩,
      fun _ _ => trivial⟩
    obtain ⟨len, rfl⟩ := buildProtectedShortClosePacket_shape built made
    rintro _ ⟨⟩
    refine ⟨close, pending, ?_⟩
    simp [BuiltProtectedShortPacket.emitted, shortPacket, ackPayload]

structure BuiltProtectedLongPacket.Closes (c : Connection) (built : BuiltProtectedLongPacket) : Prop where
  closes : built.closePacket = true
  frames : ∃ close, c.pendingClose = some close ∧ built.frames = [close.toFrame]

variable {minDatagramLen : Nat}

theorem buildProtectedLongClosePacketInSpace_closes {space : PacketNumberSpace} {address : LongAddressing}
    : Returns (c.buildProtectedLongClosePacketInSpace space address minDatagramLen)
      (BuiltProtectedLongPacket.Closes c) := by
  refine buildProtectedLongClosePacketInSpace_shape.mono fun built shape => ?_
  obtain ⟨close, len, pending, rfl⟩ := shape
  exact ⟨rfl, .connection close, pending, rfl⟩

theorem commitAdmitted_silent (closes : built.Closes c) : Silent c (commitAdmitted built now) := by
  intro _
  simp only [commitAdmitted, wp_bind, wp_get, wp_failIf, wp_ite, wp_pure, wp_set]
  refine ⟨fun _ => trivial, fun _ => ⟨fun _ => onlyCloses_none, fun _ => ?_⟩⟩
  obtain ⟨close, pending, frames⟩ := closes.frames
  rintro _ ⟨⟩
  exact ⟨close, pending, by simp [BuiltProtectedLongPacket.emitted, frames]⟩

theorem pollProtectedZeroRttDatagram_silent (address : LongAddressing) :
    Silent c (pollProtectedZeroRttDatagram now address) := silent_expire fun _ => silent_requireActive

theorem pollProtectedLongCryptoDatagramInSpace_silent (address : LongAddressing) :
    Silent c (pollProtectedLongCryptoDatagramInSpace space now address) :=
  silent_expire fun _ => silent_requireActive

theorem pollProtectedHandshakeDatagramWithInstalledKeys_silent (dcid scid : Bytes) :
    Silent c (pollProtectedHandshakeDatagramWithInstalledKeys now dcid scid) := by
  refine silent_expire fun t gone => ?_
  rw [wp_bind, wp_get, wp_failIf_bind]
  refine ⟨fun _ => trivial, fun _ => ?_⟩
  rw [wp_bind, wp_get, wp_ite]
  refine ⟨fun _ => ?_, fun _ => silent_requireActive gone⟩
  rw [wp_bind, wp_liftExcept]
  refine ⟨fun built made => ?_, fun _ _ => trivial⟩
  exact commitAdmitted_silent (buildProtectedLongClosePacketInSpace_closes built made) gone

structure LongPackets.Close (packets : LongPackets) (c : Connection) : Prop where
  initial : ∀ built ∈ packets.initial, built.Closes c
  zeroRtt : ∀ built ∈ packets.zeroRtt, built.Closes c
  handshake : ∀ built ∈ packets.handshake, built.Closes c

namespace LongPackets.Close
variable {packets : LongPackets}

theorem each (close : packets.Close c) : ∀ built ∈ packets.toList, built.Closes c := by
  simp only [LongPackets.toList, mem_append, Option.mem_toList]
  rintro built ((first | second) | third)
  · exact close.initial built first
  · exact close.zeroRtt built second
  · exact close.handshake built third

theorem coalesce (close : packets.Close c) (maxLen : Nat) : (packets.coalesce maxLen).Close c where
  initial := close.initial
  zeroRtt built mem := close.zeroRtt built (Option.mem_filter_iff.mp mem).1
  handshake built mem := close.handshake built (Option.mem_filter_iff.mp mem).1

theorem of_initial (closes : built.Closes c) : LongPackets.Close { initial := some built } c :=
  ⟨by simpa using closes, by simp, by simp⟩

end LongPackets.Close

variable {address : LongAddressing} {keys : ProtectedLongDatagramKeys} {built : BuiltProtectedLongPacket}

theorem buildLongClosePackets_close : Returns (buildLongClosePackets c address keys) (LongPackets.Close · c) := by
  unfold buildLongClosePackets
  refine .ite (fun _ => .bind buildProtectedLongClosePacketInSpace_closes fun built closes => .pure ?_)
    fun _ => .ite (fun _ => .bind buildProtectedLongClosePacketInSpace_closes fun built closes => .pure ?_)
    fun _ => .throw _
  · exact ⟨by simp, by simp, by simpa using closes⟩
  · exact .of_initial closes

theorem rebuildInitial_closes :
    Returns (rebuildInitial c address true minDatagramLen) fun initial => ∃ built, initial = some built ∧
      built.Closes c := by
  unfold rebuildInitial
  exact .bind buildProtectedLongClosePacketInSpace_closes fun built closes => .pure ⟨built, rfl, closes⟩

theorem padInitial_close {packets : LongPackets} (close : packets.Close c) :
    Returns (padInitial c address packets) (LongPackets.Close · c) := by
  unfold padInitial
  cases first : packets.initial with
  | none => exact .pure close
  | some built =>
    simp only [(close.initial built first).closes]
    refine .ite (fun _ => .after fun _ => .bind rebuildInitial_closes fun initial shape => ?_) fun _ => .pure close
    obtain ⟨again, rfl, closes⟩ := shape
    refine .ite (fun _ => .bind rebuildInitial_closes fun initial shape => .pure ?_) fun _ => .pure ?_
    · obtain ⟨last, rfl, closes⟩ := shape
      exact .of_initial closes
    · exact ⟨by simpa using closes, close.zeroRtt, close.handshake⟩

theorem pollProtectedLongDatagram_silent : Silent c (pollProtectedLongDatagram now address keys) := by
  refine silent_expire fun t gone => ?_
  simp only [buildLongDatagram, wp_bind, wp_get, wp_ite, wp_liftExcept]
  refine ⟨fun pending => ⟨fun built made => ⟨fun packets padded => ?_, fun _ _ => trivial⟩, fun _ _ => trivial⟩,
    fun _ => requireActive_fails gone⟩
  have each := (padInitial_close ((buildLongClosePackets_close built made).coalesce _) packets padded).each
  simp only [wp_pure, wp_failIf, wp_set]
  refine ⟨fun _ => onlyCloses_none, fun _ => ⟨fun _ => trivial, fun _ => ⟨fun _ => onlyCloses_none, fun _ => ?_⟩⟩⟩
  obtain ⟨close, waits⟩ := Option.isSome_iff_exists.mp pending
  rintro _ ⟨⟩
  refine ⟨close, waits, fun packet mem => ?_⟩
  obtain ⟨built, inside, rfl⟩ := mem_map.mp mem
  obtain ⟨same, again, frames⟩ := (each built inside).frames
  obtain rfl := Option.some.inj (waits.symm.trans again)
  exact frames

theorem Call.silent (call : Call) (c : Connection) : Silent c (perform call) := by
  cases call with
  | pollTx now outLen => exact pollTx_silent outLen
  | pollTxInSpace space now outLen => exact pollTxInSpace_silent space outLen
  | pollProtectedShortDatagram now dcidLen => exact pollProtectedShortDatagram_silent dcidLen
  | pollProtectedZeroRttDatagram now address => exact pollProtectedZeroRttDatagram_silent address
  | pollProtectedHandshakeDatagramWithInstalledKeys now dcid scid =>
    exact pollProtectedHandshakeDatagramWithInstalledKeys_silent dcid scid
  | pollProtectedLongCryptoDatagramInSpace space now address =>
    exact pollProtectedLongCryptoDatagramInSpace_silent space address
  | pollProtectedLongDatagram now address keys => exact pollProtectedLongDatagram_silent
  | _ => exact silent_quietly _

theorem Call.returned_onlyCloses (call : Call) (gone : c.isClosingOrClosed = true) :
    c.OnlyCloses (call.returned c) := by
  have silent := Call.silent call c gone
  rw [wp] at silent
  rw [Call.returned]
  cases result : perform call c with
  | ok datagram t =>
    rw [result] at silent
    exact silent
  | error e t => exact onlyCloses_none

structure Transfer where
  sendStreams : List SendStreamState
  sendQueue : List PendingStreamFrame
  pendingResetStreams : List ResetStreamFrame
  pendingStopSending : List StopSendingFrame
  recv : RecvPart
  allowance : Allowance
  pendingMaxFrames : List PendingMaxFrame
  pendingBlockedFrames : List PendingBlockedFrame
  peerIds : PeerIds
  pendingRetireConnectionIds : List Nat
  localConnectionIds : List LocalConnectionId
  nextLocalConnectionIdSequence : Nat
  peerActiveConnectionIdLimit : Nat

def Connection.transfer (c : Connection) : Transfer where
  sendStreams := c.sendStreams
  sendQueue := c.sendQueue
  pendingResetStreams := c.pendingResetStreams
  pendingStopSending := c.pendingStopSending
  recv := c.recvPart
  allowance := c.allowance
  pendingMaxFrames := c.pendingMaxFrames
  pendingBlockedFrames := c.pendingBlockedFrames
  peerIds := c.peerIds
  pendingRetireConnectionIds := c.pendingRetireConnectionIds
  localConnectionIds := c.localConnectionIds
  nextLocalConnectionIdSequence := c.nextLocalConnectionIdSequence
  peerActiveConnectionIdLimit := c.peerActiveConnectionIdLimit

def SameTransfer (c t : Connection) : Prop := t.transfer = c.transfer

instance : IsPreorder Connection SameTransfer where
  refl _ := rfl
  trans _ _ _ first next := Eq.trans next first

/-- The frames about streams, flow control or connection IDs. An acknowledgement is about the
streams whose data it covers. -/
def Frame.aboutTransfer : Frame → Bool
  | .ack _ _ | .maxData _ | .maxStreamData _ _ | .maxStreamsBidi _ | .maxStreamsUni _ | .dataBlocked _
  | .streamDataBlocked _ _ | .streamsBlockedBidi _ | .streamsBlockedUni _ | .stopSending _ | .resetStream _
  | .stream _ | .newConnectionId _ | .retireConnectionId _ => true
  | _ => false

theorem transfer_modifySpace (c : Connection) (space : PacketNumberSpace)
    (f : PacketNumberSpaceState → PacketNumberSpaceState) : (c.modifySpace space f).transfer = c.transfer := by
  cases space <;> rfl

theorem receivePathResponseFrame_sameTransfer (data : Bytes) :
    Steps SameTransfer (receivePathResponseFrame data) := by
  refine .get fun c => ?_
  split
  · rfl
  · split
    · rfl
    · rw [wp_ite]
      exact ⟨fun _ => rfl, fun _ => rfl⟩

theorem receiveNewTokenFrame_sameTransfer (token : Bytes) : Steps SameTransfer (receiveNewTokenFrame token) := by
  refine .get fun c => ?_
  simp only [wp_bind, wp_failIf, wp_ite, wp_pure, wp_set]
  exact ⟨fun _ => rfl, fun _ => ⟨fun _ => rfl, fun _ => rfl⟩⟩

theorem receiveCryptoFrame_sameTransfer (crypto : PendingCryptoFrame) :
    Steps SameTransfer (receiveCryptoFrame space crypto) :=
  .read fun _ => .guard <| .bind (.orThrow _ _) fun _ => .guard <|
    .bind (Steps.liftExcept _) fun _ => .modify fun c => transfer_modifySpace c space _

theorem receiveFrame_sameTransfer (now : Int) {frame : Frame}
    (other : frame.aboutTransfer = false) : Steps SameTransfer (receiveFrame space now frame) := by
  cases frame with
  | padding | ping => exact .pure _
  | pathChallenge data => exact .modify fun c => by simp only; split <;> rfl
  | pathResponse data => exact receivePathResponseFrame_sameTransfer data
  | crypto crypto => exact receiveCryptoFrame_sameTransfer space crypto
  | newToken token => exact receiveNewTokenFrame_sameTransfer token
  | handshakeDone => exact .read fun _ => .guard <| .modify fun _ => rfl
  | connectionClose close | applicationClose close => exact .modify fun _ => rfl
  | datagram data => exact .modify fun c => by split <;> rfl
  | _ => cases other

variable {side : ConnectionSide} {config : Config}

/-- A payload has no frame about streams, flow control or connection IDs behind a CONNECTION_CLOSE
frame. -/
def ReceivedPayload.endsWithClose (payload : ReceivedPayload) : Bool :=
  ((payload.frames.dropWhile fun frame => !frame.isClose).drop 1).all fun frame => !frame.aboutTransfer

/-- The payloads a call brings end with the CONNECTION_CLOSE frame they have, if any. -/
def ClosesLast (_ : Connection) (call : Call) : Prop := ∀ payload ∈ call.payloads, payload.endsWithClose = true

variable {frames : List Frame}

theorem heardAs_draining (others : frames.all (fun frame => !frame.aboutTransfer) = true) :
    ∀ heard ∈ heardAs .draining frames, heard.frame.aboutTransfer = false := by
  induction frames with
  | nil => exact nofun
  | cons frame rest ih =>
    simp only [all_cons, Bool.and_eq_true, Bool.not_eq_true'] at others
    simp only [heardAs, ite_self, forall_mem_cons]
    exact ⟨others.1, ih others.2⟩

/-- The frames before the first CONNECTION_CLOSE frame are handled in the active state. -/
theorem heardAs_active (last :
    ((frames.dropWhile fun frame => !frame.isClose).drop 1).all (fun frame => !frame.aboutTransfer) = true) :
    ∀ heard ∈ heardAs .active frames, heard.state ≠ .active → heard.frame.aboutTransfer = false := by
  induction frames with
  | nil => exact nofun
  | cons frame rest ih =>
    rw [heardAs, forall_mem_cons]
    refine ⟨fun other => absurd rfl other, ?_⟩
    cases closes : frame.isClose with
    | true =>
      simp only [closes, dropWhile_cons, Bool.not_true, Bool.false_eq_true, if_false, drop_succ_cons,
        drop_zero] at last
      exact fun heard mem _ => heardAs_draining last heard mem
    | false =>
      simp only [closes, dropWhile_cons, Bool.not_false, if_true] at last
      exact ih last

theorem run_heard {start : Connection} {calls : List Call} (last : Throughout ClosesLast start calls)
    (new : start.heard = []) : ∀ heard ∈ (run start calls).heard, heard.state ≠ .active →
      heard.frame.aboutTransfer = false := by
  let rule : UpkeepRule := { UpkeepRule.any with
    hears := fun heard => heard.state ≠ .active → heard.frame.aboutTransfer = false }
  have heeds : Throughout (fun _ call => call.Heeds rule) start calls :=
    last.imp fun _ call last => call.heeds_hears fun payload mem => heardAs_active (last payload mem)
  obtain ⟨frames, grown, all⟩ := (run_tends heeds).heard
  rw [grown, new]
  exact all

theorem run_forward {start : Connection} (tidy : start.life.Tidy) (calls : List Call) :
    (run start calls).life.Tidy ∧ start.state.rank ≤ (run start calls).state.rank :=
  LifeSteps.forward (run_tends_any start calls).life tidy

/-- The life of a connection goes forward. Once it drains or is closed, no call returns a datagram;
while it is closing, all a datagram carries is the CONNECTION_CLOSE frame. A frame that is handled on
a connection that is not active changes nothing about streams, flow control and connection IDs. -/
theorem lifecycle_forward_and_silent {start : Connection} (made : Connection.init side config = .ok start)
    {calls : List Call} (last : Throughout ClosesLast start calls) :
    let c := run start calls
    (∀ earlier later, calls = earlier ++ later → (run start earlier).state.rank ≤ c.state.rank) ∧
    (c.state = .draining ∨ c.state = .closed → ∀ call : Call, call.returned c = none) ∧
    (c.state = .closing → ∀ (call : Call) datagram, call.returned c = some datagram →
      ∃ close, c.pendingClose = some close ∧ ∀ packet ∈ datagram.packets, packet.frames = [close.toFrame]) ∧
    ∀ heard ∈ c.heard, heard.state ≠ .active → ∀ d space now,
      (after (receiveFrame space now heard.frame) d).transfer = d.transfer := by
  intro c
  obtain ⟨-, rfl⟩ := init_ok made
  have new : (fresh side config).life.Tidy :=
    show (none : Option PendingCloseFrame).isSome = true → _ from by simp
  have tidy : ∀ calls, (run (.fresh side config) calls).life.Tidy := fun calls => (run_forward new calls).1
  have silent : c.state ≠ .active → ∀ call : Call, c.OnlyCloses (call.returned c) := by
    intro gone call
    refine Call.returned_onlyCloses call ?_
    simp [isClosingOrClosed, gone]
  refine ⟨fun earlier later split => ?_, fun ended call => ?_, fun closing call => ?_, fun heard mem gone d space now => ?_⟩
  · have here : c = run (run (.fresh side config) earlier) later := by
      simp only [c, split, run, foldl_append]
    rw [here]
    exact (run_forward (tidy earlier) later).2
  · have gone : c.state ≠ .active := by rcases ended with state | state <;> rw [state] <;> simp
    cases returned : call.returned c with
    | none => rfl
    | some datagram =>
      obtain ⟨close, pending, -⟩ := silent gone call datagram returned
      have closing : c.state = .closing := tidy calls (Option.isSome_iff_exists.mpr ⟨close, pending⟩)
      rcases ended with state | state <;> cases state.symm.trans closing
  · exact silent (by rw [closing]; simp) call
  · exact (receiveFrame_sameTransfer space now (run_heard last rfl heard mem gone)).after d

def closedByPeer : List Call :=
  [.processDatagramForPacketType .oneRtt 0
    { wire := [⟨0x10, .maxData 5000⟩, ⟨0x1c, .connectionClose ⟨0, 0, []⟩⟩], len := 7 } false]

theorem lifecycle_forward_and_silent_closedByPeer : (run (.fresh .client {}) closedByPeer).state = .draining ∧
      (Call.pollTx 1 1200).returned (run (.fresh .client {}) closedByPeer) = none := by
  have draining : (run (.fresh .client {}) closedByPeer).state = .draining := rfl
  have last : Throughout ClosesLast (.fresh .client {}) closedByPeer := by
    refine ⟨fun payload mem => ?_, trivial⟩
    obtain rfl := mem_singleton.mp mem
    decide
  exact ⟨draining, (lifecycle_forward_and_silent (init_default _) last).2.1 (Or.inl draining) _⟩

/-- The MAX_DATA frame behind the CONNECTION_CLOSE frame still raises the limit. -/
theorem frame_behind_close_is_applied : ∃ payload : ReceivedPayload,
    payload.frames = [.connectionClose ⟨0, 0, []⟩, .maxData 5000000] ∧
    let before : Connection := .fresh .client {}
    let c := run before [.processDatagramForPacketType .oneRtt 0 payload false]
    c.state = .draining ∧ c.heard = [⟨.connectionClose ⟨0, 0, []⟩, .active⟩, ⟨.maxData 5000000, .draining⟩] ∧
      before.peerMaxData < 5000000 ∧ c.peerMaxData = 5000000 :=
  ⟨{ wire := [⟨0x1c, .connectionClose ⟨0, 0, []⟩⟩, ⟨0x10, .maxData 5000000⟩], len := 8 },
    rfl, rfl, rfl, by decide, rfl⟩

end Quicz
