import Quicz.Send.Refines

/-! What a built packet carries, with the queue each part comes from. -/
namespace Quicz

open Chunks Proc Connection

variable {c : Connection} {T : Connection → Connection → Prop} {address : LongAddressing}

section Short

def Connection.shortPacket (c : Connection) (len : Nat) (ack : Option AckFrame) (frames : Payload)
    (ackEliciting : Bool) : BuiltProtectedShortPacket where
  packetNumber := c.applicationPacketSpace.nextPacketNumber
  datagramLen := len
  frames := ackPayload ack ++ frames
  ackEliciting := ackEliciting
  clearAck := ack.isSome

inductive ShortContent (c : Connection) : BuiltProtectedShortPacket → Prop
  | pathResponse {response : PendingPathResponse} (len : Nat) (ack : Option AckFrame)
      (head : c.pendingPathResponses.head? = some response) :
    ShortContent c { c.shortPacket len ack [.pathResponse response.data] true with
      consumePathResponse := true, emittedPath := response.path }
  | resetStream {reset : ResetStreamFrame} (len : Nat) (ack : Option AckFrame)
      (head : c.pendingResetStreams.head? = some reset) :
    ShortContent c { c.shortPacket len ack [.resetStream reset] true with
      sentResetStreamFrame := some reset, consumeResetStream := true }
  | stopSending {stop : StopSendingFrame} (len : Nat) (ack : Option AckFrame)
      (head : c.pendingStopSending.head? = some stop) :
    ShortContent c { c.shortPacket len ack [.stopSending stop] true with
      sentStopSendingFrame := some stop, consumeStopSending := true }
  | retireConnectionId {sequenceNumber : Nat} (len : Nat) (ack : Option AckFrame)
      (head : c.pendingRetireConnectionIds.head? = some sequenceNumber) :
    ShortContent c { c.shortPacket len ack [.retireConnectionId sequenceNumber] true with
      consumeRetireConnectionId := true }
  | handshakeDone (len : Nat) (ack : Option AckFrame) (pending : c.pendingHandshakeDone = true) :
    ShortContent c { c.shortPacket len ack [.handshakeDone] true with consumeHandshakeDone := true }
  | newConnectionId {index : Nat} {id : LocalConnectionId} (len : Nat) (ack : Option AckFrame)
      (next : c.nextUnsentLocalConnectionIdIndex = some index) (here : c.localConnectionIds[index]? = some id) :
    ShortContent c { c.shortPacket len ack [.newConnectionId id.toFrame] true with
      newConnectionIdIndex := some index }
  | newToken {token : Bytes} (len : Nat) (ack : Option AckFrame)
      (head : c.pendingNewTokens.head? = some token) :
    ShortContent c { c.shortPacket len ack [.newToken token] true with consumeNewToken := true }
  | pathChallenge {challenge : PendingPathChallenge} (len : Nat) (ack : Option AckFrame)
      (head : c.pendingPathChallenges.head? = some challenge) :
    ShortContent c { c.shortPacket len ack [.pathChallenge challenge.data] true with
      consumePathChallenge := true, emittedPath := challenge.path }
  | maxFrame {frame : PendingMaxFrame} (len : Nat) (ack : Option AckFrame)
      (head : c.pendingMaxFrames.head? = some frame) :
    ShortContent c { c.shortPacket len ack [frame.toFrame] true with consumeMaxFrame := true }
  | blockedFrame {frame : PendingBlockedFrame} (len : Nat) (ack : Option AckFrame)
      (head : c.pendingBlockedFrames.head? = some frame) :
    ShortContent c { c.shortPacket len ack [frame.toFrame] true with consumeBlockedFrame := true }
  | crypto {pending : PendingCryptoFrame} (len : Nat) (ack : Option AckFrame)
      (head : c.applicationPacketSpace.cryptoSendQueue.head? = some pending) :
    ShortContent c { c.shortPacket len ack [.crypto pending] true with consumeCrypto := true }
  | ping (len : Nat) (ack : Option AckFrame) :
    ShortContent c { c.shortPacket len ack [.ping] true with consumePing := true }
  | ack (len : Nat) (ack : AckFrame) : ShortContent c (c.shortPacket len (some ack) [] false)
  | datagram (len : Nat) (ack : Option AckFrame) (data : Bytes) :
    ShortContent c (c.shortPacket len ack [.datagram data] true)
  | stream {pending : PendingStreamFrame} (len : Nat) (ack : Option AckFrame) {n : Nat}
      (head : c.sendQueue.head? = some pending) (fits : n ≤ pending.data.length) :
    ShortContent c { c.shortPacket len ack [.stream (sentPart pending n)] true with
      sentStreamFrame := some (sentPart pending n)
      queuedStreamRemainder := queuedRemainder pending n
      consumeStream := true }
  | close {close : PendingCloseFrame} (len : Nat) (pending : c.pendingClose = some close) :
    ShortContent c { c.shortPacket len none [close.toFrame] false with closePacket := true }

variable {dcidLen : Nat} {ack : Option AckFrame}

theorem nextNumber_value (s : PacketNumberSpaceState) :
    Returns s.nextNumber fun number => number.value = s.nextPacketNumber := by
  intro number found
  unfold PacketNumberSpaceState.nextNumber at found
  split at found
  · cases found
  · split at found
    · cases found
    · cases found
      rfl

theorem sealShort_shape {number : NextPacketNumber} {plaintextLen : Nat} {frames : Payload} {eliciting : Bool}
    (value : number.value = c.applicationPacketSpace.nextPacketNumber) :
    Returns (c.sealShort dcidLen number plaintextLen (ackPayload ack ++ frames) eliciting ack.isSome)
      fun built => ∃ len, built = c.shortPacket len ack frames eliciting := by
  unfold sealShort
  refine .guard fun _ => .after fun len => .guard fun _ => .pure ⟨len, ?_⟩
  rw [value]
  rfl

variable {frameLen : Except Error Nat} {pathValidation : Bool} {frame : Frame}

theorem buildProtectedShort_shape : Returns (c.buildProtectedShort dcidLen ack frame frameLen pathValidation)
      fun built => ∃ len, built = c.shortPacket len ack [frame] true := by
  unfold buildProtectedShort
  refine .guard fun _ => .after fun _ => .after fun _ => .after fun _ =>
    .bind (nextNumber_value _) fun _ value => ?_
  cases pathValidation with
  | true | false => exact .after fun _ => sealShort_shape value

theorem buildMember_content
    {finish : BuiltProtectedShortPacket → BuiltProtectedShortPacket}
    (content : ∀ len, ShortContent c (finish (c.shortPacket len ack [frame] true))) :
    Returns (do return finish (← c.buildProtectedShort dcidLen ack frame frameLen pathValidation))
      fun built => ShortContent c built := by
  exact .shaped buildProtectedShort_shape fun len => content len

variable {encodedFrameLen : Nat}

theorem buildProtectedShortControlPacket_ping :
    Returns (c.buildProtectedShortControlPacket dcidLen encodedFrameLen ack true)
      fun built => ShortContent c built := by
  exact .bind (nextNumber_value _) fun _ value => .shaped (sealShort_shape value) fun len => .ping len ack

theorem buildProtectedShortControlPacket_ack {ack : AckFrame} :
    Returns (c.buildProtectedShortControlPacket dcidLen encodedFrameLen (some ack) false)
      fun built => ShortContent c built := by
  exact .bind (nextNumber_value _) fun _ value => .shaped (sealShort_shape value) fun len => .ack len ack

theorem buildProtectedShortDatagramFramePacket_shape {data : Bytes} :
    Returns (c.buildProtectedShortDatagramFramePacket dcidLen ack data)
      fun built => ∃ len, built = c.shortPacket len ack [.datagram data] true := by
  exact .bind (nextNumber_value _) fun _ value => .after fun _ => .after fun _ => .after fun _ =>
    .after fun _ => .guard fun _ => sealShort_shape value

theorem buildProtectedShortStreamPacket_content {pending : PendingStreamFrame}
    (head : c.sendQueue.head? = some pending) :
    Returns (c.buildProtectedShortStreamPacket dcidLen ack pending) fun built => ShortContent c built := by
  have instead : ∀ ackLen, Returns (c.buildAckInstead dcidLen ackLen ack) fun built => ShortContent c built := by
    intro ackLen
    cases ack with
    | some ack => exact buildProtectedShortControlPacket_ack
    | none => exact .throw _
  refine .bind (nextNumber_value _) fun _ value => .after fun _ => .guard fun _ => .after fun ackLen =>
    .ite (fun _ => instead ackLen) fun _ => .after fun _ => .ite (fun _ => instead ackLen) fun _ => ?_
  refine .bind (maxStreamFrameDataLen_le _ _ _ _) fun n fits => .after fun _ => .after fun _ =>
    .after fun len => .guard fun _ => .pure ?_
  rw [value]
  exact .stream len ack head fits

theorem buildProtectedShortClosePacket_shape {close : PendingCloseFrame} :
    Returns (c.buildProtectedShortClosePacket dcidLen close) fun built => ∃ len,
      built = { c.shortPacket len none [close.toFrame] false with closePacket := true } := by
  unfold buildProtectedShortClosePacket
  exact .guard fun _ => .after fun _ => .bind (nextNumber_value _) fun _ value =>
    .shaped (@sealShort_shape c dcidLen none _ _ _ _ value) fun len => ⟨len, rfl⟩

structure Trimming (T : Connection → Connection → Prop) : Prop where
  stopSending : ∀ c, T c c.dropObsoleteStopSendingFrames
  maxFrames : ∀ c, T c c.dropObsoleteMaxFrames
  blockedFrames : ∀ c, T c c.dropObsoleteBlockedFrames
  streams : ∀ c, T c c.dropResetClosedStreamFrames
  datagram : ∀ c, T c { c with pendingDatagrams := c.pendingDatagrams.tail }

theorem Trimming.pending [IsPreorder Connection T] (trims : Trimming T)
    (c : Connection) (space : PacketNumberSpace) : T c (c.hasPendingAckElicitingDataInSpace space).2 := by
  have stop : T c c.dropObsoleteStopSendingFrames := trims.stopSending c
  have max : T c c.dropObsoleteStopSendingFrames.dropObsoleteMaxFrames := trans_of T stop (trims.maxFrames _)
  have blocked : T c c.dropObsoleteStopSendingFrames.dropObsoleteMaxFrames.dropObsoleteBlockedFrames :=
    trans_of T max (trims.blockedFrames _)
  simp only [hasPendingAckElicitingDataInSpace]
  split
  · exact refl_of T c
  · split
    · exact refl_of T c
    · split
      · exact refl_of T c
      · split
        · exact stop
        · split
          · exact max
          · split
            · exact blocked
            · exact trans_of T blocked (trims.streams _)

theorem prepares_trimming {rule : LedgerRule} : Trimming (Prepares rule) :=
  ⟨fun _ => .of_view rfl, fun _ => .of_view rfl, fun _ => .of_view rfl, dropResetClosedStreamFrames_prepares,
    fun _ => .of_view rfl⟩

/-- A packet is built, if any, whose content comes from the state it is built in. -/
def Built {β : Type} (T : Connection → Connection → Prop) (content : Connection → β → Prop) (built : Option β)
    (c t : Connection) : Prop := T c t ∧ ∀ packet, built = some packet → content t packet

abbrev BuildsFrom {β : Type} (T : Connection → Connection → Prop) (content : Connection → β → Prop) :
    Connection → ConnM (Option β) → Prop := RunsFrom T (Built T content)

namespace BuildsFrom

variable {β : Type} [IsPreorder Connection T] {content : Connection → β → Prop}

instance : Leads T (Built T content) := ⟨fun first h => ⟨trans_of T first h.1, h.2⟩⟩

theorem none : BuildsFrom T content c (pure none) := ⟨refl_of T c, nofun⟩

theorem some {packet : β} (here : content c packet) : BuildsFrom T content c (pure (some packet)) :=
  ⟨refl_of T c, fun _ same => Option.some.inj same ▸ here⟩

variable {x : Except Error β}

theorem built (returns : Returns x (content c)) :
    BuildsFrom T content c (do let built ← liftExcept x; pure (Option.some built)) :=
  .value fun packet returned => some (returns packet returned)

theorem map (returns : Returns x (content c)) : BuildsFrom T content c (Option.some <$> liftExcept x) := by
  rw [← bind_pure_comp]
  exact built returns

end BuildsFrom

variable [IsPreorder Connection T]

theorem buildHead_from {α : Type} {queue : List α} {build : α → Except Error BuiltProtectedShortPacket}
    (returns : ∀ head, queue.head? = some head → Returns (build head) (ShortContent c)) :
    BuildsFrom T ShortContent c (buildHead queue build) := by
  cases queue with
  | nil => exact .throw _
  | cons head _ => exact BuildsFrom.built (returns head rfl)

theorem buildNextDataPacket_from (trims : Trimming T) (dcidLen : Nat) (ack : Option AckFrame) :
    BuildsFrom T ShortContent c (buildNextDataPacket dcidLen ack) := by
  refine .read (.ite (fun here => ?_) fun _ => .ite (fun here => ?_) fun _ => .ite (fun here => ?_) fun _ => ?_)
  · exact buildHead_from fun _ head => buildMember_content fun len => .crypto len ack head
  · exact .value fun _ _ => BuildsFrom.built buildProtectedShortControlPacket_ping
  · cases queued : c.pendingDatagrams with
    | nil => exact .throw _
    | cons data rest =>
      simp only [buildHead, bind_assoc, pure_bind]
      refine .value fun built returned => .step (trims.datagram c) (BuildsFrom.some ?_)
      obtain ⟨len, rfl⟩ := buildProtectedShortDatagramFramePacket_shape built returned
      exact .datagram len ack data
  · refine .step (trims.streams c) (.read (.ite (fun here => ?_) fun _ => ?_))
    · exact buildHead_from fun _ head => buildProtectedShortStreamPacket_content head
    · cases ack with
      | none => exact BuildsFrom.none
      | some ack => exact .value fun _ _ => BuildsFrom.built buildProtectedShortControlPacket_ack

theorem buildNextProtectedShortPacket_from (trims : Trimming T) (dcidLen : Nat) :
    BuildsFrom T ShortContent c (buildNextProtectedShortPacket dcidLen) := by
  refine .read (.failIf fun _ => .read (.read ?_))
  generalize c.applicationPacketSpace.pendingAckFrame = ack
  refine .ite (fun here => ?_) fun _ => .ite (fun here => ?_) fun _ => .step (trims.stopSending c) (.read
    (.ite (fun here => ?_) fun _ => .ite (fun here => ?_) fun _ => .ite (fun here => ?_) fun _ => ?_))
  · exact buildHead_from fun _ head => buildMember_content fun len => .pathResponse len ack head
  · exact buildHead_from fun _ head => buildMember_content fun len => .resetStream len ack head
  · exact buildHead_from fun _ head => buildMember_content fun len => .stopSending len ack head
  · exact buildHead_from fun _ head => buildMember_content fun len =>
      .retireConnectionId len ack head
  · exact BuildsFrom.built (buildMember_content fun len => .handshakeDone len ack here)
  · cases next : c.dropObsoleteStopSendingFrames.nextUnsentLocalConnectionIdIndex with
    | some index =>
      refine buildHead_from fun id head => buildMember_content fun len =>
        .newConnectionId len ack next ?_
      rwa [List.head?_drop] at head
    | none =>
      refine .ite (fun here => ?_) fun _ => .ite (fun here => ?_) fun _ => .step (trims.maxFrames _) (.read
        (.ite (fun here => ?_) fun _ => .step (trims.blockedFrames _) (.read
          (.ite (fun here => ?_) fun _ => buildNextDataPacket_from trims dcidLen ack))))
      · exact buildHead_from fun _ head => buildMember_content fun len => .newToken len ack head
      · exact buildHead_from fun _ head => buildMember_content fun len =>
          .pathChallenge len ack head
      · exact buildHead_from fun _ head => buildMember_content fun len => .maxFrame len ack head
      · exact buildHead_from fun _ head => buildMember_content fun len =>
          .blockedFrame len ack head

end Short

section Long

def Connection.longPacket (c : Connection) (space : PacketNumberSpace) (len : Nat) (frames : Payload)
    (ackEliciting : Bool) (address : LongAddressing) : BuiltProtectedLongPacket :=
  c.recordedIds address {
    space, dcid := address.dcid, packetNumber := (c.packetNumberSpace space).nextPacketNumber
    datagramLen := len, frames, ackEliciting }

def Connection.zeroRttPacket (c : Connection) (len : Nat) (frame : Frame) (dcid : Bytes) : BuiltProtectedLongPacket where
  space := .application
  dcid := dcid
  packetNumber := c.applicationPacketSpace.nextPacketNumber
  datagramLen := len
  frames := [frame]
  ackEliciting := true

inductive SpaceContent (c : Connection) (space : PacketNumberSpace) : BuiltProtectedLongPacket → Prop
  | crypto {pending : PendingCryptoFrame} (len : Nat) (address : LongAddressing)
      (head : (c.packetNumberSpace space).cryptoSendQueue.head? = some pending) :
    SpaceContent c space { c.longPacket space len [.crypto pending] true address with
      consumeCrypto := true }
  | ping (len : Nat) (ack : Option AckFrame) (address : LongAddressing) :
    SpaceContent c space { c.longPacket space len (ackPayload ack ++ [.ping]) true address with
      clearAck := ack.isSome, consumePing := true }
  | ack (len : Nat) (ack : AckFrame) (address : LongAddressing) :
    SpaceContent c space { c.longPacket space len [.ack ack none] false address with clearAck := true }
  | close {close : ConnectionCloseFrame} (len : Nat) (address : LongAddressing)
      (pending : c.pendingClose = some (.connection close)) :
    SpaceContent c space { c.longPacket space len [.connectionClose close] false address with
      closePacket := true }

inductive ZeroRttContent (c : Connection) : BuiltProtectedLongPacket → Prop
  | resetStream {reset : ResetStreamFrame} (len : Nat) (dcid : Bytes)
      (head : c.pendingResetStreams.head? = some reset) :
    ZeroRttContent c { c.zeroRttPacket len (.resetStream reset) dcid with
      sentResetStreamFrame := some reset, consumeResetStream := true }
  | stopSending {stop : StopSendingFrame} (len : Nat) (dcid : Bytes)
      (head : c.pendingStopSending.head? = some stop) :
    ZeroRttContent c { c.zeroRttPacket len (.stopSending stop) dcid with
      sentStopSendingFrame := some stop, consumeStopSending := true }
  | stream {pending : PendingStreamFrame} {n : Nat} (len : Nat) (dcid : Bytes)
      (head : c.sendQueue.head? = some pending) (fits : n ≤ pending.data.length) :
    ZeroRttContent c { c.zeroRttPacket len (.stream (sentPart pending n)) dcid with
      sentStreamFrame := some (sentPart pending n)
      queuedStreamRemainder := queuedRemainder pending n
      consumeStream := true }

variable {space : PacketNumberSpace} {minDatagramLen : Nat}

variable {number : NextPacketNumber} {encodedFrameLen : Nat}

theorem sealLong_shape {header : LongHeader} {frames : Payload} {eliciting : Bool}
    (value : number.value = (c.packetNumberSpace space).nextPacketNumber) :
    Returns (c.sealLong space address header number encodedFrameLen minDatagramLen frames eliciting)
      fun built => ∃ len, built = c.longPacket space len frames eliciting address := by
  refine .after fun _ => .guard fun _ => .after fun len => .guard fun _ => .pure ⟨len, ?_⟩
  rw [value]
  rfl

theorem buildProtectedLongClosePacketInSpace_shape :
    Returns (c.buildProtectedLongClosePacketInSpace space address minDatagramLen) fun built =>
      ∃ close len, c.pendingClose = some (.connection close) ∧
        built = { c.longPacket space len [.connectionClose close] false address with closePacket := true } := by
  unfold buildProtectedLongClosePacketInSpace
  refine .after fun _ => .guard fun _ => ?_
  cases pending : c.pendingClose with
  | none => exact .throw _
  | some close =>
    cases close with
    | application _ => exact .throw _
    | connection close =>
      exact .after fun _ => .bind (nextNumber_value _) fun _ value => .shaped (sealLong_shape value) fun len =>
        ⟨close, len, rfl, rfl⟩

theorem buildProtectedLongClosePacketInSpace_content :
    Returns (c.buildProtectedLongClosePacketInSpace space address minDatagramLen) (SpaceContent c space) := by
  refine buildProtectedLongClosePacketInSpace_shape.mono fun built shape => ?_
  obtain ⟨close, len, pending, rfl⟩ := shape
  exact .close len address pending

def spacePacket (c : Connection) (space : PacketNumberSpace) (built : Option BuiltProtectedLongPacket) : Prop :=
  ∀ packet, built = some packet → SpaceContent c space packet

theorem spacePacket_none : spacePacket c space none := fun _ same => absurd same (Option.some_ne_none _).symm

theorem spacePacket_some {built : BuiltProtectedLongPacket} (content : SpaceContent c space built) :
    spacePacket c space (some built) := fun _ same => Option.some.inj same ▸ content

theorem buildProtectedLongCryptoPacketInSpace_content :
    Returns (c.buildProtectedLongCryptoPacketInSpace space address minDatagramLen) (spacePacket c space) := by
  unfold buildProtectedLongCryptoPacketInSpace
  refine .after fun _ => ?_
  cases queued : (c.packetNumberSpace space).cryptoSendQueue with
  | nil => exact .pure spacePacket_none
  | cons pending rest =>
    exact .guard fun _ => .after fun _ => .bind (nextNumber_value _) fun _ value => .shaped (sealLong_shape value) fun len =>
      spacePacket_some (.crypto len address (by rw [queued]; rfl))

theorem buildProtectedLongControlPacketInSpace_ping {ack : Option AckFrame} :
    Returns (c.buildProtectedLongControlPacketInSpace space address encodedFrameLen ack true minDatagramLen)
      (SpaceContent c space) := by
  exact .after fun _ => .bind (nextNumber_value _) fun _ value => .shaped (sealLong_shape value) fun len =>
    .ping len ack address

theorem buildProtectedLongControlPacketInSpace_ack {ack : AckFrame} :
    Returns (c.buildProtectedLongControlPacketInSpace space address encodedFrameLen (some ack) false
      minDatagramLen) (SpaceContent c space) := by
  exact .after fun _ => .bind (nextNumber_value _) fun _ value => .shaped (sealLong_shape value) fun len =>
    .ack len ack address

theorem buildNextProtectedLongPacketInSpace_content :
    Returns (c.buildNextProtectedLongPacketInSpace space address minDatagramLen) (spacePacket c space) := by
  unfold buildNextProtectedLongPacketInSpace
  refine .guard fun _ => .ite (fun _ => buildProtectedLongCryptoPacketInSpace_content) fun _ =>
    .ite (fun _ => .after fun _ => .after fun _ => .bind buildProtectedLongControlPacketInSpace_ping
      fun _ content => .pure (spacePacket_some content)) fun _ => ?_
  cases (c.packetNumberSpace space).pendingAckFrame with
  | none => exact .pure spacePacket_none
  | some ack =>
    exact .after fun _ => .bind buildProtectedLongControlPacketInSpace_ack fun _ content =>
      .pure (spacePacket_some content)

theorem sealZeroRtt_shape {frameLen : Nat} {frame : Frame}
    (value : number.value = c.applicationPacketSpace.nextPacketNumber) :
    Returns (c.sealZeroRtt address number frameLen frame)
      fun built => ∃ len, built = c.zeroRttPacket len frame address.dcid := by
  refine .after fun len => .guard fun _ => .pure ⟨len, ?_⟩
  rw [value]
  rfl

theorem buildZeroRttResetStreamPacket_content {reset : ResetStreamFrame}
    (head : c.pendingResetStreams.head? = some reset) :
    Returns (c.buildZeroRttResetStreamPacket address reset) (ZeroRttContent c) := by
  exact .after fun _ => .bind (nextNumber_value _) fun _ value => .shaped (sealZeroRtt_shape value) fun len =>
    .resetStream len address.dcid head

theorem buildZeroRttStopSendingPacket_content {stop : StopSendingFrame}
    (head : c.pendingStopSending.head? = some stop) :
    Returns (c.buildZeroRttStopSendingPacket address stop) (ZeroRttContent c) := by
  exact .after fun _ => .bind (nextNumber_value _) fun _ value => .shaped (sealZeroRtt_shape value) fun len =>
    .stopSending len address.dcid head

theorem zeroRttStreamDataLen_le :
    Returns (c.zeroRttStreamDataLen address number pending) fun n => n ≤ pending.data.length := by
  unfold zeroRttStreamDataLen
  refine .ite (fun _ => .pure (Nat.zero_le _)) fun _ => ?_
  refine .bind (searchDataLen_le _ _ _ _) fun best within => .guard fun _ => .pure ?_
  omega

theorem buildZeroRttStreamPacket_content (head : c.sendQueue.head? = some pending) :
    Returns (c.buildZeroRttStreamPacket address pending) (ZeroRttContent c) := by
  exact .after fun _ => .bind (nextNumber_value _) fun _ value => .bind zeroRttStreamDataLen_le fun n fits =>
    .after fun _ => .shaped (sealZeroRtt_shape value) fun len => .stream len address.dcid head fits

variable [IsPreorder Connection T] {pending : PendingStreamFrame}

theorem buildNextProtectedZeroRttPacket_from (trims : Trimming T) :
    BuildsFrom T ZeroRttContent c (buildNextProtectedZeroRttPacket address) := by
  refine .read (.failIf fun _ => .read (.failIf fun _ => .step (trims.streams c) (.read ?_)))
  cases resets : c.dropResetClosedStreamFrames.pendingResetStreams with
  | cons reset _ => exact BuildsFrom.map (buildZeroRttResetStreamPacket_content (by rw [resets]; rfl))
  | nil =>
    refine .step (trims.stopSending _) (.read ?_)
    cases stops : c.dropResetClosedStreamFrames.dropObsoleteStopSendingFrames.pendingStopSending with
    | cons stop _ => exact BuildsFrom.map (buildZeroRttStopSendingPacket_content (by rw [stops]; rfl))
    | nil =>
      cases queued : c.dropResetClosedStreamFrames.dropObsoleteStopSendingFrames.sendQueue with
      | cons pending rest => exact BuildsFrom.map (buildZeroRttStreamPacket_content (by rw [queued]; rfl))
      | nil => exact BuildsFrom.none

end Long

structure SameSpaces (c t : Connection) : Prop where
  space : ∀ space, t.packetNumberSpace space = c.packetNumberSpace space
  pendingClose : t.pendingClose = c.pendingClose
  side : t.side = c.side
  original : t.originalDestinationConnectionId = c.originalDestinationConnectionId
  initialSource : t.localInitialSourceConnectionId = c.localInitialSourceConnectionId

theorem SameSpaces.longPacket {c t : Connection} (same : SameSpaces c t) (space : PacketNumberSpace)
    (len : Nat) (frames : Payload) (eliciting : Bool) (address : LongAddressing) :
    t.longPacket space len frames eliciting address = c.longPacket space len frames eliciting address := by
  simp only [Connection.longPacket, Connection.recordedIds, same.space, same.side, same.original, same.initialSource]

theorem SpaceContent.same {c t : Connection} {space : PacketNumberSpace} {built : BuiltProtectedLongPacket}
    (content : SpaceContent c space built) (same : SameSpaces c t) : SpaceContent t space built := by
  cases content with
  | crypto len address head =>
    rw [← same.longPacket]
    exact .crypto len address ((same.space space).symm ▸ head)
  | ping len ack address =>
    rw [← same.longPacket]
    exact .ping len ack address
  | ack len ack address =>
    rw [← same.longPacket]
    exact .ack len ack address
  | close len address pending =>
    rw [← same.longPacket]
    exact .close len address (same.pendingClose.trans pending)

structure LongPackets.From (packets : LongPackets) (c : Connection) : Prop where
  initial : spacePacket c .initial packets.initial
  zeroRtt : ∀ built, packets.zeroRtt = some built → ZeroRttContent c built
  handshake : spacePacket c .handshake packets.handshake

namespace LongPackets.From

variable {packets : LongPackets}

theorem coalesce (here : packets.From c) (maxLen : Nat) : (packets.coalesce maxLen).From c where
  initial := here.initial
  zeroRtt _ kept := here.zeroRtt _ (Option.filter_eq_some_iff.mp kept).1
  handshake _ kept := here.handshake _ (Option.filter_eq_some_iff.mp kept).1

variable {packet : Option BuiltProtectedLongPacket}

theorem of_initial (content : spacePacket c .initial packet) : LongPackets.From { initial := packet } c :=
  ⟨content, fun _ none => absurd none (Option.some_ne_none _).symm, spacePacket_none⟩

theorem of_handshake (content : spacePacket c .handshake packet) : LongPackets.From { handshake := packet } c :=
  ⟨spacePacket_none, fun _ none => absurd none (Option.some_ne_none _).symm, content⟩

end LongPackets.From

variable {keys : ProtectedLongDatagramKeys}

theorem rebuildInitial_content {wasClose : Bool} {minDatagramLen : Nat} :
    Returns (rebuildInitial c address wasClose minDatagramLen) (spacePacket c .initial) := by
  unfold rebuildInitial
  exact .ite (fun _ => .bind buildProtectedLongClosePacketInSpace_content fun _ content =>
    .pure (spacePacket_some content)) fun _ => buildNextProtectedLongPacketInSpace_content

theorem padInitial_from {packets : LongPackets} (here : packets.From c) :
    Returns (padInitial c address packets) (LongPackets.From · c) := by
  unfold padInitial
  cases packets.initial with
  | none => exact .pure here
  | some built =>
    refine .ite (fun _ => .after fun _ => .bind rebuildInitial_content fun initial content =>
      .ite (fun _ => ?_) fun _ => .pure ⟨content, here.zeroRtt, here.handshake⟩) fun _ => .pure here
    exact .bind rebuildInitial_content fun _ content => .pure (.of_initial content)

theorem buildLongClosePackets_from : Returns (buildLongClosePackets c address keys) (LongPackets.From · c) := by
  unfold buildLongClosePackets
  refine .ite (fun _ => .bind buildProtectedLongClosePacketInSpace_content fun _ content => .pure
    (.of_handshake (spacePacket_some content))) fun _ => .ite (fun _ => ?_) fun _ => .throw _
  exact .bind buildProtectedLongClosePacketInSpace_content fun _ content =>
    .pure (.of_initial (spacePacket_some content))

theorem buildLongPacketIfNeeded_content {space : PacketNumberSpace} {hasKeys : Bool} :
    Returns (c.buildLongPacketIfNeeded space address hasKeys) (spacePacket c space) :=
  .ite (fun _ => buildNextProtectedLongPacketInSpace_content) fun _ => .pure spacePacket_none

variable [IsPreorder Connection T]

theorem buildZeroRttPacketIfNeeded_from (trims : Trimming T) (hasKeys : Bool) :
    BuildsFrom T ZeroRttContent c (buildZeroRttPacketIfNeeded address hasKeys) :=
  .ite (fun _ => BuildsFrom.none) fun _ => .step (trims.stopSending c) (.read
    (.ite (fun _ => buildNextProtectedZeroRttPacket_from trims) fun _ => BuildsFrom.none))

instance : IsPreorder Connection SameSpaces where
  refl _ := ⟨fun _ => rfl, rfl, rfl, rfl, rfl⟩
  trans _ _ _ h k := ⟨fun space => (k.space space).trans (h.space space), k.pendingClose.trans h.pendingClose,
    k.side.trans h.side, k.original.trans h.original, k.initialSource.trans h.initialSource⟩

theorem sameSpaces_trimming : Trimming SameSpaces :=
  ⟨fun _ => ⟨fun space => by cases space <;> rfl, rfl, rfl, rfl, rfl⟩,
    fun _ => ⟨fun space => by cases space <;> rfl, rfl, rfl, rfl, rfl⟩,
    fun _ => ⟨fun space => by cases space <;> rfl, rfl, rfl, rfl, rfl⟩,
    fun _ => ⟨fun space => by cases space <;> rfl, rfl, rfl, rfl, rfl⟩,
    fun _ => ⟨fun space => by cases space <;> rfl, rfl, rfl, rfl, rfl⟩⟩

theorem buildLongDatagram_from (trims : Trimming T) :
    wp (buildLongDatagram address keys) (fun packets t => T c t ∧ packets.From t) (fun _ t => T c t) c := by
  have stay : T c c := refl_of T c
  simp only [buildLongDatagram, wp_bind, wp_get, wp_ite, wp_liftExcept]
  refine ⟨fun _ => ⟨fun packets returned => ⟨stay, buildLongClosePackets_from packets returned⟩,
    fun _ _ => stay⟩, fun _ => ?_⟩
  simp only [buildLongPackets, requireActive, wp_bind, wp_get, wp_failIf, wp_liftExcept]
  refine ⟨fun _ => stay, fun _ => ⟨fun initial returned => ?_, fun _ _ => stay⟩⟩
  refine wp_mono (wp_and (buildZeroRttPacketIfNeeded_from trims keys.zeroRtt)
    (buildZeroRttPacketIfNeeded_from sameSpaces_trimming keys.zeroRtt)) ?_ fun _ _ h => h.1
  rintro zeroRtt t ⟨⟨trimmed, content⟩, same, -⟩
  simp only [wp_pure]
  refine ⟨fun handshake made => ⟨trimmed, fun packet here => ?_, content,
    buildLongPacketIfNeeded_content handshake made⟩, fun _ _ => trimmed⟩
  exact (buildLongPacketIfNeeded_content initial returned packet here).same same

end Quicz
