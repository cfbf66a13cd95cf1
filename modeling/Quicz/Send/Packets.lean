import Quicz.Send.Contents

/-! Protected packets refine the send machine and the ledger: a built packet carries the next
packet number of its space and takes nothing from the send queue or its head, whole or in
part; committing it records exactly that. -/
namespace Quicz

open Chunks Proc Resend Connection Ledger PacketNumberSpaceState BuiltProtectedLongPacket

variable {c : Connection} {rule : LedgerRule} (now : Int) {built : BuiltProtectedLongPacket}

/-- What a built packet takes from the send queue: nothing, or the head, whole or in part. -/
def TakesStream (queue : List PendingStreamFrame) (consumeStream ackEliciting : Bool)
    (sentStreamFrame queuedStreamRemainder : Option PendingStreamFrame) : Prop :=
  consumeStream = false ∧ sentStreamFrame = none ∨
    consumeStream = true ∧ ackEliciting = true ∧ ∃ pending rest n, queue = pending :: rest ∧
      n ≤ pending.data.length ∧ sentStreamFrame = some (sentPart pending n) ∧
      queuedStreamRemainder = queuedRemainder pending n

structure Labelled (c : Connection) (packet : EmittedPacket) (ackEliciting : Bool) : Prop where
  number : packet.packetNumber = some (c.packetNumberSpace packet.space).nextPacketNumber
  eliciting : packet.ackEliciting = ackEliciting

theorem takesStream_of_head {pending : PendingStreamFrame} {n : Nat} (head : c.sendQueue.head? = some pending)
    (fits : n ≤ pending.data.length) :
    TakesStream c.sendQueue true true (some (sentPart pending n)) (queuedRemainder pending n) := by
  obtain ⟨rest, queue⟩ := List.head?_eq_some_iff.mp head
  exact Or.inr ⟨rfl, rfl, pending, rest, n, queue, fits, rfl, rfl⟩

theorem ackPayload_eliciting (ack : Option AckFrame) (frames : Payload) :
    (ackPayload ack ++ frames).any frameIsAckEliciting = frames.any frameIsAckEliciting := by
  cases ack <;> rfl

structure BuiltProtectedShortPacket.Fits (built : BuiltProtectedShortPacket) (c : Connection) : Prop where
  stream : TakesStream c.sendQueue built.consumeStream built.ackEliciting built.sentStreamFrame
    built.queuedStreamRemainder
  labelled : Labelled c built.emitted built.ackEliciting

theorem ShortContent.fits {built : BuiltProtectedShortPacket} (content : ShortContent c built) : built.Fits c := by
  cases content with
  | stream len ack head fits => exact ⟨takesStream_of_head head fits, rfl, ackPayload_eliciting ack _⟩
  | @maxFrame frame len ack | @blockedFrame frame len ack =>
    refine ⟨Or.inl ⟨rfl, rfl⟩, rfl, (ackPayload_eliciting ack _).trans ?_⟩
    cases frame <;> rfl
  | @close close =>
    refine ⟨Or.inl ⟨rfl, rfl⟩, rfl, ?_⟩
    cases close <;> rfl
  | _ => exact ⟨Or.inl ⟨rfl, rfl⟩, rfl, ackPayload_eliciting _ _⟩

section Commit
variable {built : BuiltProtectedShortPacket}

theorem view_consumeControlQueues : (c.consumeControlQueues built now).view = c.view := by
  have done : ∀ t : Connection, t.markHandshakeDoneSent.view = t.view := fun _ => rfl
  simp only [consumeControlQueues, apply_ite view, view_sendHeadPathChallenge, done, ite_self]
  cases built.newConnectionIdIndex <;> rfl

theorem ledger_consumeQueues : (c.consumeQueues built now).ledger = c.ledger := by
  have control : (c.consumeControlQueues built now).ledger = c.ledger :=
    ledger_of_view (view_consumeControlQueues now)
  unfold consumeQueues
  simp only
  split
  · exact control
  · exact control

def BuiltProtectedShortPacket.listed (built : BuiltProtectedShortPacket) (s : PacketNumberSpaceState)
    (now : Int) : Option SentPacket :=
  if built.ackEliciting then
    some (built.sentPacket now (if built.consumeCrypto then s.cryptoSendQueue.head? else none))
  else none

theorem commitShort_recorded (s : PacketNumberSpaceState) (eliciting : built.ackEliciting = true) :
    ∃ packet, (s.commitShort built now).sentPackets = s.sentPackets ++ [packet] ∧
      packet.streamFrame = built.sentStreamFrame := by
  simp only [commitShort, eliciting, if_true]
  exact ⟨_, rfl, rfl⟩

theorem commitBuiltProtectedShortPacket_streams (fits : built.Fits c) :
    Streams c (c.commitBuiltProtectedShortPacket built now) := by
  set recorded := c.modifySpace .application fun s => s.commitShort built now
  have consumed : Streams c (recorded.consumeQueues built now) := by
    have control : (recorded.consumeControlQueues built now).streamView = recorded.streamView :=
      streamView_of_view (view_consumeControlQueues now)
    rcases fits.stream with ⟨keeps, empty⟩ | ⟨takes, eliciting, pending, rest, n, head, short, sent, left⟩
    · simp only [consumeQueues, keeps, Bool.false_eq_true, if_false]
      refine Streams.view ?_ control
      cases eliciting : built.ackEliciting with
      | true =>
        obtain ⟨packet, commits, carries⟩ := commitShort_recorded now
          c.applicationPacketSpace eliciting
        exact recorded_streams commits (carries.trans empty)
      | false =>
        refine .of_view (streamView_modifySpace c .application _ fun s => ?_)
        simp [commitShort, eliciting]
    · simp only [consumeQueues, takes, if_true, left]
      obtain ⟨packet, commits, carries⟩ := commitShort_recorded now
        c.applicationPacketSpace eliciting
      refine consumeStream_streams ?_ ?_ head short (carries.trans sent)
      · exact (recvPart_of_view control).trans (recvPart_modifySpace c .application _)
      · exact (sendView_of_view control).trans (sendView_record commits)
  refine consumed.view ?_
  simp only [commitBuiltProtectedShortPacket, streamView_of_view (view_recordPacketActivity _ _),
    streamView_accountEmitted, apply_ite streamView,
    streamView_of_view (view_enterClosingState _ _), streamView_recordAckElicitingSendInSpace, ite_self]
  rfl

theorem ledger_commitShort (fits : built.Fits c) :
    (c.modifySpace .application fun s => s.commitShort built now).ledger = c.ledger.modify .application fun s =>
        match built.listed c.applicationPacketSpace now with
        | some sent => s.enlist sent
        | none => s.take := by
  refine ledger_modifySpace_at c .application ?_
  have number : built.packetNumber = c.applicationPacketSpace.nextPacketNumber :=
    Option.some.inj fits.labelled.number
  cases eliciting : built.ackEliciting <;>
    simp [PacketNumberSpaceState.ledger, PacketNumberSpaceState.commitShort, packetNumberSpace,
      BuiltProtectedShortPacket.listed, SpaceLedger.enlist, SpaceLedger.take, eliciting, number]

theorem ledger_commitBuiltProtectedShortPacket (fits : built.Fits c) :
    (c.commitBuiltProtectedShortPacket built now).ledger =
      c.ledger.emit built.emitted (built.listed c.applicationPacketSpace now) := by
  have closing : ∀ t : Connection, (if built.closePacket = true ∧ (!t.closed) = true then
      t.enterClosingState now else t).ledger = t.ledger := by
    intro t
    split <;> rfl
  rw [commitBuiltProtectedShortPacket, ledger_of_view (view_recordPacketActivity _ now),
    ledger_accountEmitted, closing]
  cases eliciting : built.ackEliciting with
  | true =>
    have listed : built.listed c.applicationPacketSpace now = some (built.sentPacket now
        (if built.consumeCrypto then c.applicationPacketSpace.cryptoSendQueue.head? else none)) :=
      if_pos eliciting
    rw [if_pos rfl, ledger_recordAckElicitingSendInSpace, ledger_consumeQueues, ledger_commitShort now fits,
      listed, emit_listed c.ledger rfl rfl]
    rfl
  | false =>
    have listed : built.listed c.applicationPacketSpace now = none := if_neg (by simp [eliciting])
    rw [if_neg (by simp), ledger_consumeQueues, ledger_commitShort now fits, listed, emit_unlisted c.ledger rfl]
    rfl

/-- The gates of a protected packet: room in the count of bytes in flight, and the budget. -/
theorem emittable_of_fits {packet : EmittedPacket} {ackEliciting : Bool} {entry : Option SentPacket}
    (labelled : Labelled c packet ackEliciting) (counted : entry.isSome = ackEliciting)
    (listed : ∀ sent, entry = some sent → packet.packetNumber = some sent.packetNumber ∧ sent.bytes = packet.len)
    (room : ackEliciting = true → rule.crowded ∨ c.ledger.totalBytesInFlight + packet.len ≤ maxU64)
    (budget : c.ledger.limited = true →
      packet.len ≤ saturatingMulU64 c.ledger.credit antiAmplificationMultiplier - c.ledger.spent) :
    LedgerEntry.Emittable rule c.ledger packet entry where
  numbered := Or.inr labelled.number
  counted eliciting := by rw [counted, ← labelled.eliciting, eliciting]
  listed sent here := by
    obtain ⟨number, bytes⟩ := listed sent here
    refine ⟨number, bytes, room ?_⟩
    rw [← counted, here]
    rfl
  affordable := budget

theorem listedShort (built : BuiltProtectedShortPacket) (s : PacketNumberSpaceState) (sent : SentPacket)
    (listed : built.listed s now = some sent) :
    built.emitted.packetNumber = some sent.packetNumber ∧ sent.bytes = built.emitted.len := by
  unfold BuiltProtectedShortPacket.listed at listed
  split at listed
  · cases listed
    exact ⟨rfl, rfl⟩
  · cases listed

theorem commitBuiltProtectedShortPacket_handsOut (fits : built.Fits c)
    (room : built.ackEliciting = true → rule.crowded ∨ c.ledger.totalBytesInFlight + built.datagramLen ≤ maxU64)
    (budget : c.canSendToPeerAddress built.datagramLen = true) :
    HandsOut rule [built.emitted] c (c.commitBuiltProtectedShortPacket built now) := by
  refine .of_emit (built.listed c.applicationPacketSpace now)
    (commitBuiltProtectedShortPacket_streams now fits) ?_ (ledger_commitBuiltProtectedShortPacket now fits)
  refine emittable_of_fits fits.labelled ?_ (listedShort now built _) room (affordable_of_canSend budget)
  cases eliciting : built.ackEliciting <;> simp [BuiltProtectedShortPacket.listed, eliciting]

end Commit

structure BuiltProtectedLongPacket.Fits (built : BuiltProtectedLongPacket) (c : Connection) : Prop where
  stream : TakesStream c.sendQueue built.consumeStream built.ackEliciting built.sentStreamFrame
    built.queuedStreamRemainder
  space : built.consumeStream = true → built.space = .application
  labelled : Labelled c built.emitted built.ackEliciting

variable {space : PacketNumberSpace}

theorem SpaceContent.fits (content : SpaceContent c space built) : built.Fits c := by
  cases content with
  | ping len ack => exact ⟨Or.inl ⟨rfl, rfl⟩, nofun, rfl, ackPayload_eliciting ack _⟩
  | _ => exact ⟨Or.inl ⟨rfl, rfl⟩, nofun, rfl, rfl⟩

theorem SpaceContent.inSpace (content : SpaceContent c space built) : built.space = space := by
  cases content <;> rfl

theorem ZeroRttContent.fits (content : ZeroRttContent c built) : built.Fits c := by
  cases content with
  | stream len dcid head fits => exact ⟨takesStream_of_head head fits, fun _ => rfl, rfl, rfl⟩
  | _ => exact ⟨Or.inl ⟨rfl, rfl⟩, nofun, rfl, rfl⟩

theorem ZeroRttContent.inSpace (content : ZeroRttContent c built) : built.space = .application := by
  cases content <;> rfl

theorem streamView_consumeLongQueues : (c.consumeLongQueues built).streamView =
      (if built.consumeStream then c.consumeStream built.queuedStreamRemainder else c).streamView := rfl

theorem ledger_consumeLongQueues : (c.consumeLongQueues built).ledger = c.ledger := by
  unfold consumeLongQueues
  simp only
  split <;> rfl

theorem commitLong_recorded (s : PacketNumberSpaceState) (eliciting : built.ackEliciting = true) :
    ∃ packet, (s.commitLong built now).sentPackets = s.sentPackets ++ [packet] ∧
      packet.streamFrame = built.sentStreamFrame := by
  simp only [commitLong, eliciting, if_true]
  exact ⟨_, rfl, rfl⟩

theorem recordLong_streams (fits : built.Fits c) :
    Streams c ((c.modifySpace built.space fun s => s.commitLong built now).consumeLongQueues built) := by
  refine Streams.view ?_ streamView_consumeLongQueues
  rcases fits.stream with ⟨keeps, empty⟩ |
    ⟨consumes, eliciting, pending, rest, n, head, short, sent, left⟩
  · simp only [keeps, Bool.false_eq_true, if_false]
    cases eliciting : built.ackEliciting with
    | true =>
      obtain ⟨packet, commits, carries⟩ := commitLong_recorded now
        (c.packetNumberSpace built.space) eliciting
      exact recorded_streams commits (carries.trans empty)
    | false =>
      refine .of_view (streamView_modifySpace c built.space _ fun s => ?_)
      simp [commitLong, eliciting]
  · simp only [consumes, if_true, left, fits.space consumes]
    obtain ⟨packet, commits, carries⟩ := commitLong_recorded now
      (c.packetNumberSpace .application) eliciting
    exact consumeStream_streams (recvPart_modifySpace c .application _) (sendView_record commits) head
      short (carries.trans sent)

/-- The commit up to the discarding of spaces. -/
def Connection.recordBuiltProtectedLongPacket (c : Connection) (built : BuiltProtectedLongPacket)
    (nowNanos : Int) : Connection :=
  let c := (c.modifySpace built.space fun s => s.commitLong built nowNanos).consumeLongQueues built
  let c := if built.ackEliciting then c.recordAckElicitingSendInSpace built.space built.datagramLen
    else c
  let c := if built.closePacket ∧ !c.closed then c.enterClosingState nowNanos else c
  (c.accountEmitted built.emitted).recordPacketActivity nowNanos

theorem commitBuiltProtectedLongPacket_eq : c.commitBuiltProtectedLongPacket built now =
      ((c.recordBuiltProtectedLongPacket built now).maybeDiscardInitialAfterHandshakePacketSent
        built.space).maybeDiscardHandshakeAfterConfirmedCryptoSent built.space := rfl

theorem streamView_recordBuiltProtectedLongPacket : (c.recordBuiltProtectedLongPacket built now).streamView =
    ((c.modifySpace built.space fun s => s.commitLong built now).consumeLongQueues built).streamView := by
  simp only [recordBuiltProtectedLongPacket, streamView_of_view (view_recordPacketActivity _ _),
    streamView_accountEmitted, apply_ite streamView,
    streamView_of_view (view_enterClosingState _ _), streamView_recordAckElicitingSendInSpace, ite_self]

theorem recordBuiltProtectedLongPacket_streams (fits : built.Fits c) :
    Streams c (c.recordBuiltProtectedLongPacket built now) :=
  (recordLong_streams now fits).view (streamView_recordBuiltProtectedLongPacket now)

def BuiltProtectedLongPacket.listed (built : BuiltProtectedLongPacket) (s : PacketNumberSpaceState)
    (now : Int) : Option SentPacket :=
  if built.ackEliciting then
    some (built.sentPacket now (if built.consumeCrypto then s.cryptoSendQueue.head? else none))
  else none

theorem ledger_commitLong (fits : built.Fits c) :
    (c.modifySpace built.space fun s => s.commitLong built now).ledger = c.ledger.modify built.space fun s =>
        match built.listed (c.packetNumberSpace built.space) now with
        | some sent => s.enlist sent
        | none => s.take := by
  refine ledger_modifySpace_at c built.space ?_
  have number : built.packetNumber = (c.packetNumberSpace built.space).nextPacketNumber :=
    Option.some.inj fits.labelled.number
  cases eliciting : built.ackEliciting <;>
    simp [PacketNumberSpaceState.ledger, PacketNumberSpaceState.commitLong,
      listed, SpaceLedger.enlist, SpaceLedger.take, eliciting, number]

theorem ledger_recordBuiltProtectedLongPacket (fits : built.Fits c) :
    (c.recordBuiltProtectedLongPacket built now).ledger =
      c.ledger.emit built.emitted (built.listed (c.packetNumberSpace built.space) now) := by
  have closing : ∀ t : Connection, (if built.closePacket = true ∧ (!t.closed) = true then
      t.enterClosingState now else t).ledger = t.ledger := by
    intro t
    split <;> rfl
  rw [recordBuiltProtectedLongPacket, ledger_of_view (view_recordPacketActivity _ now),
    ledger_accountEmitted, closing]
  cases eliciting : built.ackEliciting with
  | true =>
    have listed : built.listed (c.packetNumberSpace built.space) now = some (built.sentPacket now
        (if built.consumeCrypto then (c.packetNumberSpace built.space).cryptoSendQueue.head? else none)) :=
      if_pos eliciting
    rw [if_pos rfl, ledger_recordAckElicitingSendInSpace, ledger_consumeLongQueues,
      ledger_commitLong now fits, listed, emit_listed c.ledger rfl rfl]
    rfl
  | false =>
    have listed : built.listed (c.packetNumberSpace built.space) now = none := if_neg (by simp [eliciting])
    rw [if_neg (by simp), ledger_consumeLongQueues, ledger_commitLong now fits, listed, emit_unlisted c.ledger rfl]
    rfl

theorem listedLong (built : BuiltProtectedLongPacket) (s : PacketNumberSpaceState) (sent : SentPacket)
    (listed : built.listed s now = some sent) :
    built.emitted.packetNumber = some sent.packetNumber ∧ sent.bytes = built.emitted.len := by
  unfold BuiltProtectedLongPacket.listed at listed
  split at listed
  · cases listed
    exact ⟨rfl, rfl⟩
  · cases listed

/-- The packet is recorded, some bookkeeping follows, and spaces may be discarded. -/
theorem commitBuiltProtectedLongPacket_handsOut (fits : built.Fits c)
    (room : built.ackEliciting = true → rule.crowded ∨ c.ledger.totalBytesInFlight + built.datagramLen ≤ maxU64)
    (budget : c.ledger.limited = true → built.datagramLen ≤
      saturatingMulU64 c.ledger.credit antiAmplificationMultiplier - c.ledger.spent) :
    HandsOut rule [built.emitted] c (c.commitBuiltProtectedLongPacket built now) := by
  rw [commitBuiltProtectedLongPacket_eq]
  refine HandsOut.prepares ?_ ((maybeDiscardInitialAfterHandshakePacketSent_prepares _ built.space).trans
    (maybeDiscardHandshakeAfterConfirmedCryptoSent_prepares _ built.space))
  refine .of_emit (built.listed (c.packetNumberSpace built.space) now)
    (recordBuiltProtectedLongPacket_streams now fits) ?_ (ledger_recordBuiltProtectedLongPacket now fits)
  refine emittable_of_fits fits.labelled ?_ (listedLong now built _) room budget
  cases eliciting : built.ackEliciting <;> simp [listed, eliciting]

structure LongCommitted (c t : Connection) (built : BuiltProtectedLongPacket) : Prop where
  next : ∀ other, other ≠ built.space →
    (t.ledger.space other).nextPacketNumber = (c.ledger.space other).nextPacketNumber
  limited : t.ledger.limited = c.ledger.limited
  credit : t.ledger.credit = c.ledger.credit
  spent : t.ledger.spent ≤ c.ledger.spent + built.datagramLen
  inFlight : t.ledger.totalBytesInFlight ≤ c.ledger.totalBytesInFlight + built.datagramLen

theorem LongCommitted.trims {t u : Connection} (committed : LongCommitted c t built)
    (trims : t.ledger.Trims u.ledger) : LongCommitted c u built where
  next other apart := (trims.next other).trans (committed.next other apart)
  limited := trims.limited.trans committed.limited
  credit := trims.credit.trans committed.credit
  spent := by
    rw [trims.spent]
    exact committed.spent
  inFlight := trims.totalBytesInFlight_le.trans committed.inFlight

theorem commitBuiltProtectedLongPacket_committed (fits : built.Fits c) :
    LongCommitted c (c.commitBuiltProtectedLongPacket built now) built := by
  have books := ledger_recordBuiltProtectedLongPacket now fits
  have recorded : LongCommitted c (c.recordBuiltProtectedLongPacket built now) built := by
    have bytes : ∀ sent, built.listed (c.packetNumberSpace built.space) now = some sent →
        sent.bytes = built.datagramLen := fun sent listed => (listedLong now built _ sent listed).2
    refine ⟨fun other apart => ?_, ?_, ?_, ?_, ?_⟩ <;> rw [books]
    · rw [space_emit_ne _ _ apart]
    · exact limited_emit _ _ _
    · exact credit_emit _ _ _
    · exact spent_emit_le _ _ _
    · exact totalBytesInFlight_emit_le _ fun sent listed => bytes sent listed
  rw [commitBuiltProtectedLongPacket_eq]
  exact (recorded.trims (maybeDiscardInitialAfterHandshakePacketSent_trims _ built.space)).trims
    (maybeDiscardHandshakeAfterConfirmedCryptoSent_trims _ built.space)

theorem sendQueue_discardPacketNumberSpaceState (t : Connection) (space : PacketNumberSpace) :
    (t.discardPacketNumberSpaceState space).sendQueue = t.sendQueue := by
  unfold discardPacketNumberSpaceState
  split
  · rfl
  · cases space <;> rfl

theorem commitBuiltProtectedLongPacket_sendQueue (quiet : built.consumeStream = false) :
    (c.commitBuiltProtectedLongPacket built now).sendQueue = c.sendQueue := by
  have initial : ∀ (t : Connection) (space : PacketNumberSpace),
      (t.maybeDiscardInitialAfterHandshakePacketSent space).sendQueue = t.sendQueue := by
    intro t space
    unfold maybeDiscardInitialAfterHandshakePacketSent
    split
    · rfl
    · exact sendQueue_discardPacketNumberSpaceState t _
  have handshake : ∀ (t : Connection) (space : PacketNumberSpace),
      (t.maybeDiscardHandshakeAfterConfirmedCryptoSent space).sendQueue = t.sendQueue := by
    intro t space
    unfold maybeDiscardHandshakeAfterConfirmedCryptoSent
    split
    · rfl
    · split
      · rfl
      · exact sendQueue_discardPacketNumberSpaceState t _
  have queue : ∀ {t u : Connection}, t.streamView = u.streamView → t.sendQueue = u.sendQueue :=
    fun same => congrArg SendView.queue (sendView_of_view same)
  rw [commitBuiltProtectedLongPacket_eq, handshake, initial]
  rw [queue (streamView_recordBuiltProtectedLongPacket now), queue streamView_consumeLongQueues, quiet]
  cases built.space <;> rfl

theorem BuiltProtectedLongPacket.Fits.later {other : BuiltProtectedLongPacket} (fits : built.Fits c)
    (waits : other.Fits c) (apart : other.space ≠ built.space) :
    other.Fits (c.commitBuiltProtectedLongPacket built now) where
  stream := by
    rcases waits.stream with keeps | takes
    · exact Or.inl keeps
    · have quiet : built.consumeStream = false := by
        by_contra consumes
        rw [Bool.not_eq_false] at consumes
        exact apart ((waits.space takes.1).trans (fits.space consumes).symm)
      rw [commitBuiltProtectedLongPacket_sendQueue now quiet]
      exact Or.inr takes
  space := waits.space
  labelled := by
    refine ⟨waits.labelled.number.trans (congrArg some ?_), waits.labelled.eliciting⟩
    exact ((commitBuiltProtectedLongPacket_committed now fits).next other.space apart).symm

/-- The packets of one datagram are committed in turn; the induction is on those still to come. -/
theorem commitLongPackets_handsOut (packets : List BuiltProtectedLongPacket) :
    ∀ c : Connection, (∀ built ∈ packets, built.Fits c) →
      packets.Pairwise (fun built other => other.space ≠ built.space) →
      (rule.crowded ∨ c.ledger.totalBytesInFlight + (packets.map datagramLen).sum ≤ maxU64) →
      (c.ledger.limited = true → (packets.map datagramLen).sum ≤
        saturatingMulU64 c.ledger.credit antiAmplificationMultiplier - c.ledger.spent) →
      HandsOut rule (packets.map emitted) c
        (packets.foldl (fun c built => c.commitBuiltProtectedLongPacket built now) c) := by
  induction packets with
  | nil => exact fun c _ _ _ _ => (Prepares.refl c).handsOut
  | cons built packets ih =>
    intro c fits apart room budget
    rw [List.map_cons, List.sum_cons] at room budget
    rw [List.pairwise_cons] at apart
    have here := fits built List.mem_cons_self
    have committed := commitBuiltProtectedLongPacket_committed now here
    have first : HandsOut rule [built.emitted] c (c.commitBuiltProtectedLongPacket built now) := by
      refine commitBuiltProtectedLongPacket_handsOut now here (fun _ => room.imp_right fun h => ?_)
        fun limited => ?_
      · omega
      · have := budget limited
        omega
    refine first.append (ih _ (fun other mem => here.later now (fits other (List.mem_cons_of_mem _ mem))
      (apart.1 other mem)) apart.2 (room.imp_right fun h => ?_) fun limited => ?_)
    · have := committed.inFlight
      omega
    · rw [committed.limited] at limited
      have := budget limited
      have := committed.spent
      rw [committed.credit]
      omega

variable {packets : LongPackets}

theorem LongPackets.From.fits (here : packets.From c)
    (built : BuiltProtectedLongPacket) (mem : built ∈ packets.toList) : built.Fits c := by
  simp only [LongPackets.toList, List.mem_append, Option.mem_toList] at mem
  rcases mem with (initial | zeroRtt) | handshake
  · exact (here.initial built initial).fits
  · exact (here.zeroRtt built zeroRtt).fits
  · exact (here.handshake built handshake).fits

theorem LongPackets.From.apart (here : packets.From c) :
    packets.toList.Pairwise fun built other => other.space ≠ built.space := by
  have single : ∀ packet : Option BuiltProtectedLongPacket,
      packet.toList.Pairwise fun built other => other.space ≠ built.space := by
    intro packet
    cases packet <;> simp
  simp only [LongPackets.toList, List.pairwise_append, List.mem_append, Option.mem_toList]
  refine ⟨⟨single _, single _, fun built initial other zeroRtt => ?_⟩, single _,
    fun built early other handshake => ?_⟩
  · rw [(here.zeroRtt other zeroRtt).inSpace, (here.initial built initial).inSpace]
    nofun
  · rw [(here.handshake other handshake).inSpace]
    rcases early with initial | zeroRtt
    · rw [(here.initial built initial).inSpace]
      nofun
    · rw [(here.zeroRtt built zeroRtt).inSpace]
      nofun

end Quicz
