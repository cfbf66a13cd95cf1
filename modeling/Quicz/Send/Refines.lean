import Quicz.Send.Moves

/-! Every call that sends, or that hears about what was sent, moves the send side of the
streams along its machine and leaves the receive side alone. Here: the relations, the discarding
of spaces, and the packets of the unprotected polls. -/
namespace Proc

open Quicz

variable {T : Connection → Connection → Prop} {rule : LedgerRule}

variable {β : Type} [IsPreorder Connection T]

theorem RunsFrom.active {Q : β → Connection → Connection → Prop} {c : Connection} {f : Unit → ConnM β}
    (next : ¬ c.isClosingOrClosed = true → RunsFrom T Q c (f ())) : RunsFrom T Q c (requireActive >>= f) := by
  rw [requireActive, bind_assoc]
  exact .read (.failIf next)

theorem Steps.active {m : ConnM β} (next : Steps T m) : Steps T (requireActive >>= fun _ => m) :=
  .bind (.read fun _ => .failIf _ _) fun _ => next

end Proc

namespace Quicz

open Chunks Proc Resend Connection Ledger LedgerEntry

structure Streams (c t : Connection) : Prop where
  recvPart : t.recvPart = c.recvPart
  moves : c.sendView.Moves t.sendView

theorem Streams.refl (c : Connection) : Streams c c := ⟨rfl, .refl _⟩

theorem Streams.trans {a b c : Connection} (h : Streams a b) (k : Streams b c) : Streams a c :=
  ⟨k.recvPart.trans h.recvPart, h.moves.trans k.moves⟩

theorem Streams.of_view {c t : Connection} (h : t.streamView = c.streamView) : Streams c t :=
  ⟨recvPart_of_view h, sendView_of_view h ▸ .refl _⟩

theorem Streams.view {c t u : Connection} (h : Streams c t) (same : u.streamView = t.streamView) :
    Streams c u := h.trans (.of_view same)

structure Sends (rule : LedgerRule) (c t : Connection) : Prop where
  streams : Streams c t
  ledger : LedgerSteps rule c.ledger t.ledger

instance : IsPreorder Connection (Sends rule) where
  refl c := ⟨.refl c, .refl _⟩
  trans _ _ _ h k := ⟨h.streams.trans k.streams, h.ledger.trans k.ledger⟩

theorem Sends.refl (c : Connection) : Sends rule c c := refl_of (Sends rule) c

theorem Sends.trans {a b c : Connection} (h : Sends rule a b) (k : Sends rule b c) : Sends rule a c :=
  trans_of (Sends rule) h k

theorem Sends.of_view {c t : Connection} (h : t.view = c.view) : Sends rule c t :=
  ⟨.of_view (streamView_of_view h), ledger_of_view h ▸ .refl _⟩

theorem Sends.view {c t u : Connection} (h : Sends rule c t) (same : u.view = t.view) :
    Sends rule c u := h.trans (.of_view same)

theorem Sends.of_entry {c t : Connection} (entry : LedgerEntry) (allowed : entry.Allowed rule c.ledger)
    (streams : t.streamView = c.streamView) (ledger : t.ledger = entry.apply c.ledger) :
    Sends rule c t := ⟨.of_view streams, .of_eq entry allowed ledger⟩

structure Prepares (rule : LedgerRule) (c t : Connection) : Prop where
  sends : Sends rule c t
  emitted : t.ledger.emitted = c.ledger.emitted

instance : IsPreorder Connection (Prepares rule) where
  refl c := ⟨.refl c, rfl⟩
  trans _ _ _ h k := ⟨h.sends.trans k.sends, k.emitted.trans h.emitted⟩

theorem Prepares.of_view {c t : Connection} (h : t.view = c.view) : Prepares rule c t :=
  ⟨.of_view h, congrArg Ledger.emitted (ledger_of_view h)⟩

theorem Prepares.refl (c : Connection) : Prepares rule c c := refl_of (Prepares rule) c

variable {a b c : Connection}

theorem Prepares.trans (h : Prepares rule a b) (k : Prepares rule b c) :
    Prepares rule a c := trans_of (Prepares rule) h k

def handedOut (datagram : Option Datagram) : List EmittedPacket :=
  (datagram.map Datagram.packets).getD []

structure HandsOut (rule : LedgerRule) (packets : List EmittedPacket) (c t : Connection) : Prop where
  sends : Sends rule c t
  emitted : t.ledger.emitted = c.ledger.emitted ++ packets

theorem Prepares.handsOut {c t : Connection} (h : Prepares rule c t) : HandsOut rule [] c t :=
  ⟨h.sends, by rw [h.emitted, List.append_nil]⟩

variable {packets : List EmittedPacket}

theorem Prepares.then (h : Prepares rule a b) (k : HandsOut rule packets b c) : HandsOut rule packets a c :=
  ⟨h.sends.trans k.sends, by rw [k.emitted, h.emitted]⟩

theorem HandsOut.append {first second : List EmittedPacket} (h : HandsOut rule first a b)
    (k : HandsOut rule second b c) : HandsOut rule (first ++ second) a c :=
  ⟨h.sends.trans k.sends, by rw [k.emitted, h.emitted, List.append_assoc]⟩

theorem HandsOut.prepares (h : HandsOut rule packets a b) (k : Prepares rule b c) : HandsOut rule packets a c :=
  ⟨h.sends.trans k.sends, by rw [k.emitted, h.emitted]⟩

variable [IsPreorder Connection T]

theorem Steps.liftExcept {α : Type} (x : Except Error α) : Steps T (liftExcept x) := by
  cases x
  · exact .throw _
  · exact .pure _

variable (c : Connection) (space : PacketNumberSpace)

theorem ledger_discardPacketNumberSpaceState (kept : ¬ (c.packetNumberSpace space).discarded = true) :
    (c.discardPacketNumberSpaceState space).ledger = (clears space).apply c.ledger := by
  have cleared : ((c.modifySpace space PacketNumberSpaceState.discard).note (.cleared space)).ledger =
      (clears space).apply c.ledger := by
    rw [ledger_note, ledger_modifySpace c space (g := SpaceLedger.clear) fun _ => rfl]
    rfl
  rw [discardPacketNumberSpaceState, if_neg kept, ← cleared]
  refine (ledger_of_view (view_resetConnectionPtoBackoff _)).trans ?_
  split <;> rfl

theorem discardPacketNumberSpaceState_prepares {space : PacketNumberSpace} (early : space ≠ .application) :
    Prepares rule c (c.discardPacketNumberSpaceState space) := by
  by_cases kept : (c.packetNumberSpace space).discarded = true
  · rw [discardPacketNumberSpaceState, if_pos kept]
    exact .refl c
  have books := ledger_discardPacketNumberSpaceState c space kept
  refine ⟨⟨?_, .of_eq (.clears space) trivial books⟩, ?_⟩
  · rw [discardPacketNumberSpaceState, if_neg kept]
    refine Streams.view ?_ (streamView_of_view (view_resetConnectionPtoBackoff _))
    have emptied : Streams c ((c.modifySpace space PacketNumberSpaceState.discard).note (.cleared space)) := by
      refine ⟨recvPart_modifySpace c space _, ?_⟩
      rw [sendView_note, sendView_retain c space (fun _ => false) _ fun s => (List.filter_false _).symm]
      exact .of_part (fun clean => clean.retain space _) (by cases space <;> first | rfl | contradiction)
    refine emptied.view ?_
    split <;> rfl
  · rw [books]
    simp [apply, Ledger.emitted, emittedIn, Ledger.note]

theorem discardPacketNumberSpaceState_sends {space : PacketNumberSpace} (early : space ≠ .application) :
    Sends rule c (c.discardPacketNumberSpaceState space) :=
  (discardPacketNumberSpaceState_prepares c early).sends

theorem maybeDiscardInitialAfterHandshakePacketSent_prepares :
    Prepares rule c (c.maybeDiscardInitialAfterHandshakePacketSent space) := by
  unfold maybeDiscardInitialAfterHandshakePacketSent
  split
  · exact .refl c
  · exact discardPacketNumberSpaceState_prepares c nofun

theorem maybeDiscardInitialAfterHandshakePacketReceived_sends :
    Sends rule c (c.maybeDiscardInitialAfterHandshakePacketReceived space) := by
  unfold maybeDiscardInitialAfterHandshakePacketReceived
  split
  · exact .refl c
  · exact discardPacketNumberSpaceState_sends c nofun

theorem maybeDiscardHandshakeAfterConfirmedCryptoSent_prepares :
    Prepares rule c (c.maybeDiscardHandshakeAfterConfirmedCryptoSent space) := by
  unfold maybeDiscardHandshakeAfterConfirmedCryptoSent
  split
  · exact .refl c
  · split
    · exact .refl c
    · exact discardPacketNumberSpaceState_prepares c nofun

structure Ledger.Trims (l m : Ledger) : Prop where
  next : ∀ space, (m.space space).nextPacketNumber = (l.space space).nextPacketNumber
  inFlight : ∀ space, (m.space space).bytesInFlight ≤ (l.space space).bytesInFlight
  limited : m.limited = l.limited
  credit : m.credit = l.credit
  spent : m.spent = l.spent

theorem Ledger.Trims.refl (l : Ledger) : l.Trims l := ⟨fun _ => rfl, fun _ => le_rfl, rfl, rfl, rfl⟩

theorem Ledger.Trims.totalBytesInFlight_le {l m : Ledger} (trims : l.Trims m) :
    m.totalBytesInFlight ≤ l.totalBytesInFlight := by
  have initial := trims.inFlight .initial
  have handshake := trims.inFlight .handshake
  have application := trims.inFlight .application
  simp only [totalBytesInFlight, saturatingAddU64]
  omega

theorem discardPacketNumberSpaceState_trims : c.ledger.Trims (c.discardPacketNumberSpaceState space).ledger := by
  by_cases kept : (c.packetNumberSpace space).discarded = true
  · rw [discardPacketNumberSpaceState, if_pos kept]
    exact .refl _
  rw [ledger_discardPacketNumberSpaceState c space kept]
  refine ⟨fun other => ?_, fun other => ?_, rfl, rfl, rfl⟩
  all_goals
    by_cases same : other = space
    · subst same
      simp [apply, Ledger.note, Ledger.modify, SpaceLedger.clear]
    · simp [apply, Ledger.note, Ledger.modify, Function.update_of_ne same]

theorem maybeDiscardInitialAfterHandshakePacketSent_trims :
    c.ledger.Trims (c.maybeDiscardInitialAfterHandshakePacketSent space).ledger := by
  unfold maybeDiscardInitialAfterHandshakePacketSent
  split
  · exact .refl _
  · exact discardPacketNumberSpaceState_trims c _

theorem maybeDiscardHandshakeAfterConfirmedCryptoSent_trims :
    c.ledger.Trims (c.maybeDiscardHandshakeAfterConfirmedCryptoSent space).ledger := by
  unfold maybeDiscardHandshakeAfterConfirmedCryptoSent
  split
  · exact .refl _
  · split
    · exact .refl _
    · exact discardPacketNumberSpaceState_trims c _

variable {c : Connection} {bytes : Nat}

theorem affordable_of_canSend (admitted : c.canSendToPeerAddress bytes = true) : c.ledger.limited = true →
      bytes ≤ saturatingMulU64 c.ledger.credit antiAmplificationMultiplier - c.ledger.spent := by
  intro limited
  have limited : c.isAntiAmplificationLimited = true := limited
  simp only [canSendToPeerAddress, antiAmplificationLimitRemaining, limited,
    Bool.not_true, Bool.false_eq_true, if_false] at admitted
  exact of_decide_eq_true admitted

/-- Congestion control and probe credit alike leave room in the count of bytes in flight. -/
theorem fits_of_canSend {space : PacketNumberSpace} (admitted : c.canSendAckElicitingInSpace space bytes = true) :
    c.ledger.totalBytesInFlight + bytes ≤ maxU64 := by
  have same : c.ledger.totalBytesInFlight = c.totalBytesInFlight := rfl
  rw [same]
  by_contra exceeds
  simp [canSendAckElicitingInSpace, addU64, exceeds] at admitted

variable {space : PacketNumberSpace} {ack : Option AckFrame} {now : Int} {encodedLen outLen : Nat}

variable (l : Ledger) {packet : EmittedPacket} {f : PacketNumberSpaceState → PacketNumberSpaceState}

theorem sendView_record {packet : SentPacket}
    (recorded : (f (c.packetNumberSpace space)).sentPackets = (c.packetNumberSpace space).sentPackets ++ [packet]) :
    (c.modifySpace space f).sendView = c.sendView.record space packet := by
  cases space <;>
    simp only [packetNumberSpace] at recorded <;>
    simp [modifySpace, sendView, SendView.record, recorded]

theorem recorded_streams {packet : SentPacket} (recorded : (f (c.packetNumberSpace space)).sentPackets =
      (c.packetNumberSpace space).sentPackets ++ [packet]) (empty : packet.streamFrame = none) :
    Streams c (c.modifySpace space f) :=
  ⟨recvPart_modifySpace c space f, sendView_record recorded ▸ .record _ space empty⟩

def SpaceLedger.enlist (s : SpaceLedger) (sent : SentPacket) : SpaceLedger :=
  { s with nextPacketNumber := s.nextPacketNumber + 1, sent := s.sent ++ [sent] }

variable {sent : SentPacket}

theorem Ledger.emit_listed (numbered : packet.packetNumber.isSome = true)
    (bytes : sent.bytes = packet.len) : l.emit packet (some sent) =
      (((l.modify packet.space (·.enlist sent)).modify packet.space (·.charge packet.len)).spend
        packet.len).note (.emitted packet) := by
  simp only [emit, numbered, if_true, modify_modify, ← bytes]
  rfl

theorem Ledger.emit_unnumbered (unnumbered : packet.packetNumber = none) :
    l.emit packet none = (l.spend packet.len).note (.emitted packet) := by
  have same : (l.modify packet.space fun s => s) = l := modify_id l packet.space
  simp [emit, unnumbered, same]

theorem Ledger.emit_unlisted (numbered : packet.packetNumber.isSome = true) : l.emit packet none =
      ((l.modify packet.space SpaceLedger.take).spend packet.len).note (.emitted packet) := by
  simp only [emit, numbered, if_true]

theorem Ledger.emitted_note (packet : EmittedPacket) :
    (l.note (.emitted packet)).emitted = l.emitted ++ [packet] := by
  simp [emitted, emittedIn, note]

theorem Ledger.emitted_emit (packet : EmittedPacket) (entry : Option SentPacket) :
    (l.emit packet entry).emitted = l.emitted ++ [packet] := by
  unfold emit
  rw [emitted_note]
  cases entry <;> simp [emitted]

theorem HandsOut.of_emit {c t : Connection} (entry : Option SentPacket) (streams : Streams c t)
    (allowed : LedgerEntry.Emittable rule c.ledger packet entry) (ledger : t.ledger = c.ledger.emit packet entry) :
    HandsOut rule [packet] c t :=
  ⟨⟨streams, .of_eq (.emits packet entry) allowed ledger⟩, by rw [ledger, emitted_emit]⟩

structure OutgoingFrame.Quiet (next : OutgoingFrame) : Prop where
  attach : ∀ packet, (next.attach packet).streamFrame = packet.streamFrame := by exact fun _ => rfl
  number : ∀ packet, (next.attach packet).packetNumber = packet.packetNumber := by exact fun _ => rfl
  bytes : ∀ packet, (next.attach packet).bytes = packet.bytes := by exact fun _ => rfl
  consume : ∀ now c, (next.consume now c).view = c.view := by exact fun _ _ => rfl
  afterSend : ∀ rule c, Prepares rule c (next.afterSend c) := by exact fun _ => Prepares.refl

/-- The gates every ack-eliciting packet of a poll passes. -/
theorem emittable_of_admitted
    (number : packet.packetNumber = some (c.packetNumberSpace packet.space).nextPacketNumber)
    (same : sent.packetNumber = (c.packetNumberSpace packet.space).nextPacketNumber)
    (bytes : sent.bytes = packet.len) (window : c.canSendAckElicitingInSpace packet.space packet.len = true)
    (budget : c.canSendToPeerAddress packet.len = true) : LedgerEntry.Emittable rule c.ledger packet (some sent) where
  numbered := Or.inr number
  counted _ := rfl
  listed _ listed := by
    cases listed
    exact ⟨by rw [number, same], bytes, Or.inr (fits_of_canSend window)⟩
  affordable := affordable_of_canSend budget

def Connection.framePacket (c : Connection) (space : PacketNumberSpace) (ack : Option AckFrame) (next : OutgoingFrame)
    (encodedLen : Nat) : EmittedPacket :=
  ⟨space, some (c.packetNumberSpace space).nextPacketNumber, ackPayload ack ++ [next.frame], encodedLen⟩

def Connection.emitNext (c : Connection) (space : PacketNumberSpace) (ack : Option AckFrame) (next : OutgoingFrame)
    (encodedLen : Nat) (nowNanos : Int) : Connection :=
  next.afterSend ((next.consume nowNanos
    (c.modifySpace space fun s => s.commitPacket next.attach nowNanos encodedLen ack.isSome)).accountSend
      (c.framePacket space ack next encodedLen) nowNanos)

section Frames
variable {next : OutgoingFrame} (window : c.canSendAckElicitingInSpace space encodedLen = true)
  (budget : c.canSendToPeerAddress encodedLen = true)
include window budget

/-- The packet is listed, the frame leaves its queue, and what follows prepares the next poll. -/
theorem emitNext_handsOut {consumed : Connection} (consumes : consumed = next.consume now
      (c.modifySpace space fun s => s.commitPacket next.attach now encodedLen ack.isSome))
    (streams : Streams c consumed) (enlisted : consumed.ledger = c.ledger.modify space (·.enlist sent))
    (number : sent.packetNumber = (c.packetNumberSpace space).nextPacketNumber) (bytes : sent.bytes = encodedLen)
    (afterSend : ∀ t, Prepares rule t (next.afterSend t)) :
    HandsOut rule [c.framePacket space ack next encodedLen] c (c.emitNext space ack next encodedLen now) := by
  rw [emitNext, ← consumes]
  refine HandsOut.prepares (.of_emit (some sent) (streams.view (streamView_accountSend _ now _)) ?_ ?_) (afterSend _)
  · exact emittable_of_admitted rfl number bytes window budget
  · rw [ledger_accountSend, enlisted, emit_listed c.ledger rfl bytes]
    rfl

theorem OutgoingFrame.Quiet.handsOut (quiet : next.Quiet) :
    HandsOut rule [c.framePacket space ack next encodedLen] c (c.emitNext space ack next encodedLen now) := by
  have consumed := quiet.consume now (c.modifySpace space fun s => s.commitPacket next.attach now encodedLen ack.isSome)
  have streams : Streams c (c.modifySpace space fun s => s.commitPacket next.attach now encodedLen ack.isSome) :=
    recorded_streams rfl (quiet.attach _)
  exact emitNext_handsOut window budget rfl (streams.view (streamView_of_view consumed))
    ((ledger_of_view consumed).trans (ledger_modifySpace_at c space rfl)) (quiet.number _) (quiet.bytes _)
    (quiet.afterSend rule)

end Frames

variable {rest : List PendingStreamFrame} {pending : PendingStreamFrame}

theorem consumeStream_streams {c recorded : Connection} {packet : SentPacket} {n : Nat}
    (recvPart : recorded.recvPart = c.recvPart)
    (sendView : recorded.sendView = c.sendView.record .application packet)
    (head : c.sendQueue = pending :: rest) (short : n ≤ pending.data.length)
    (sent : packet.streamFrame = some (sentPart pending n)) :
    Streams c (recorded.consumeStream (queuedRemainder pending n)) := by
  have queue : recorded.sendQueue = c.sendQueue := congrArg SendView.queue sendView
  have view : (recorded.consumeStream (queuedRemainder pending n)).sendView =
      { c.sendView.record .application packet with
        queue := (queuedRemainder pending n).toList ++ c.sendView.queue.tail } := by
    rw [← sendView]
    simp only [Connection.sendView, Connection.consumeStream, queue]
  exact ⟨recvPart, view ▸ .emit (v := c.sendView) head short sent⟩

theorem streamOutgoing_handsOut {n : Nat} (head : c.sendQueue = pending :: rest) (short : n ≤ pending.data.length)
    (window : c.canSendAckElicitingInSpace .application encodedLen = true)
    (budget : c.canSendToPeerAddress encodedLen = true) :
    HandsOut rule [c.framePacket .application ack (streamOutgoing pending n) encodedLen] c
      (c.emitNext .application ack (streamOutgoing pending n) encodedLen now) := by
  set recorded := c.modifySpace .application fun s =>
    s.commitPacket (streamOutgoing pending n).attach now encodedLen ack.isSome
  have consumed : ((streamOutgoing pending n).consume now recorded).ledger = recorded.ledger := rfl
  exact emitNext_handsOut window budget rfl
    (consumeStream_streams (recvPart_modifySpace c .application _) (sendView_record rfl) head short rfl)
    (consumed.trans (ledger_modifySpace_at c .application rfl)) rfl rfl .refl

theorem view_sendHeadPathChallenge (c : Connection) (now : Int) : (c.sendHeadPathChallenge now).view = c.view := by
  unfold sendHeadPathChallenge
  split <;> rfl

theorem searchDataLen_le {wireLen : Nat → Except Error Nat} {maxLen : Nat} (fuel : Nat) : ∀ low high best : Nat,
      Returns (searchDataLen wireLen maxLen fuel low high best) fun n => n ≤ max high best := by
  induction fuel with
  | zero =>
    rintro low high best _ ⟨⟩
    exact le_max_right _ _
  | succ fuel ih =>
    intro low high best n found
    simp only [searchDataLen] at found
    split at found
    · set mid := low + (high - low) / 2 with hmid
      split at found
      · cases found
      · split at found
        · split at found
          · obtain rfl : mid = n := Except.ok.inj found
            omega
          · have := ih _ _ _ n found
            omega
        · split at found
          · cases found
            exact le_max_right _ _
          · have := ih _ _ _ n found
            omega
    · cases found
      exact le_max_right _ _

theorem maxStreamFrameDataLen_le (streamId offset remaining maxLen : Nat) :
    Returns (maxStreamFrameDataLen streamId offset remaining maxLen) fun n => n ≤ remaining := by
  refine .after fun headerLen => .guard fun _ => .ite (fun _ => .pure (Nat.zero_le _)) fun _ => ?_
  refine .bind (searchDataLen_le _ _ _ _) fun best within => .guard fun _ => .pure ?_
  omega

theorem dropResetClosedStreamFrames_prepares (c : Connection) : Prepares rule c c.dropResetClosedStreamFrames :=
  ⟨⟨⟨rfl, .dropReset c.sendView⟩, .refl _⟩, rfl⟩

end Quicz
