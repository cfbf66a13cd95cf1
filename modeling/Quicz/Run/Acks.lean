import Quicz.Ranges.Acks
import Quicz.Run.Once

/-! Acknowledgements between two connections: what one of them has received is what the other takes for delivered. -/
namespace Quicz

open Proc List ReceivedPacketRanges

/-- The tables of received numbers are in order, and hold numbers that fit in an ACK frame. -/
def Ledger.Heard (l : Ledger) : Prop :=
  ∀ space, (l.space space).received.Ok ∧ ∀ n, (l.space space).received.Retains n → n ≤ maxQuicVarint

theorem not_retains_empty (n : Nat) : ¬ Retains {} n := by
  rintro ⟨_, mem, -⟩
  exact absurd mem not_mem_nil

theorem Ledger.Heard.step {rule : LedgerRule} {l : Ledger} (entry : LedgerEntry) (heard : l.Heard)
    (allowed : entry.Allowed rule l) : (entry.apply l).Heard := by
  refine fun space => ⟨allowed.ok (fun space => (heard space).1) space, fun n retained => ?_⟩
  rcases entry.received_apply l space with ⟨same, -⟩ | ⟨m, which, hears⟩ | ⟨-, cleared⟩
  · exact (heard space).2 n (same ▸ retained)
  · have bound : m ≤ maxQuicVarint := by
      rcases which with rfl | rfl <;> exact allowed.2
    rw [hears, SpaceLedger.hear] at retained
    by_cases fresh : (l.space space).received.canRecord m = true
    · rcases (record_records (heard space).1 (bound.trans (by decide)) fresh).1.only n retained with old | rfl
      · exact (heard space).2 n old
      · exact bound
    · rw [record, if_neg fresh] at retained
      exact (heard space).2 n retained
  · rw [cleared] at retained
    exact absurd retained (not_retains_empty n)

theorem Reachable.heard {c : Connection} (reached : Reachable c) : c.ledger.Heard := by
  obtain ⟨side, config, -, evolves⟩ := reached.evolved
  refine evolves.ledger.preserves (fun _ entry heard => heard.step entry) fun space => ?_
  cases space <;> exact ⟨ok_empty, fun n retained => absurd retained (not_retains_empty n)⟩

theorem ReceivedPacketRanges.Ok.retains_largest {r : ReceivedPacketRanges} {ack : AckFrame} (ok : r.Ok)
    (built : r.ackFrame = some ack) : r.Retains ack.largestAcknowledged := by
  obtain ⟨ranges, _⟩ := r
  cases ranges with
  | nil => exact absurd built (by simp [ReceivedPacketRanges.ackFrame])
  | cons first rest =>
    obtain rfl := Option.some.inj built
    exact ⟨first, mem_cons_self, ok.ordered first mem_cons_self, le_rfl⟩

def Connection.Received (c : Connection) (space : PacketNumberSpace) (n : Nat) : Prop :=
  (c.packetNumberSpace space).receivedPacketRanges.Retains n

/-- The ACK frame of a connection in any run crosses the wire unchanged. A peer that has sent the numbers it names
accepts it, and takes for delivered exactly those of its packets that the connection has received. -/
theorem acknowledged_packets_received {receiver sender : Connection} (reached : Reachable receiver)
    {space : PacketNumberSpace} {ack : AckFrame}
    (built : (receiver.packetNumberSpace space).pendingAckFrame = some ack)
    (sent : ∀ n, receiver.Received space n → n < (sender.packetNumberSpace space).nextPacketNumber)
    (kept : (sender.packetNumberSpace space).discarded = false) (now : Int) :
    (∃ bytes, encodeFrame (.ack ack none) = .ok bytes ∧
      ∀ rest, decodeFrame (bytes ++ rest) = .ok (.ack ack none, rest)) ∧
    receiveAckFrame space now ack none sender = .ok () (sender.applyAck space now ack none) ∧
    ∀ packet, packet ∈ (sender.packetNumberSpace space).acknowledgedBy ack ↔
      packet ∈ (sender.packetNumberSpace space).sentPackets ∧ receiver.Received space packet.packetNumber := by
  obtain ⟨ok, bounded⟩ : (receiver.packetNumberSpace space).receivedPacketRanges.Ok ∧
      ∀ n, receiver.Received space n → n ≤ maxQuicVarint := by
    cases space <;> exact reached.heard _
  have built : (receiver.packetNumberSpace space).receivedPacketRanges.ackFrame = some ack := by
    rw [PacketNumberSpaceState.pendingAckFrame] at built
    split at built
    · exact absurd built (by simp)
    · exact built
  obtain ⟨contains, valid⟩ := ok.ackFrame built
  have valid := valid fun range mem => bounded _ ⟨range, mem, ok.ordered range mem, le_rfl⟩
  obtain ⟨bytes, encoded⟩ := encodeFrame_ack valid
  refine ⟨⟨bytes, encoded, (decodeFrame_ack encoded).1⟩, run_ok ?_, fun packet => ?_⟩
  · simp only [receiveAckFrame, wp_bind, wp_get, wp_failIf, wp_modify, kept, (validateAckFrame_iff.mp valid).1]
    have known := sent _ (ok.retains_largest built)
    simp [known]
  · rw [PacketNumberSpaceState.acknowledgedBy, mem_filter, contains]
    rfl

theorem acknowledged_packets_received_ping :
    let receiver := run (.fresh .server {}) [pingPacket]
    let sender := run (.fresh .client {}) (replicate 6 (.recordPacketSentInSpace .application 0 100))
    (receiver.packetNumberSpace .application).pendingAckFrame = some ⟨5, 0, 0, []⟩ ∧
    failsWith (receiveAckFrame .application 0 ⟨5, 0, 0, []⟩ none) sender = none := by
  intro receiver sender
  have built : (receiver.packetNumberSpace .application).pendingAckFrame = some ⟨5, 0, 0, []⟩ := rfl
  have reached : Reachable receiver :=
    ⟨_, _, _, _, Connection.init_default .server, throughout_true _ _, rfl⟩
  have sent : ∀ n, receiver.Received .application n →
      n < (sender.packetNumberSpace .application).nextPacketNumber := by
    rintro n ⟨range, mem, -, below⟩
    obtain rfl : range = ⟨5, 5⟩ := mem_singleton.mp mem
    exact Nat.lt_of_le_of_lt below (by decide +kernel)
  exact ⟨built, by rw [failsWith, (acknowledged_packets_received reached built sent rfl 0).2.1]⟩

end Quicz
