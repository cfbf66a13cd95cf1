import Quicz.Frames

/-! The packets of a coalesced long datagram are validated in one pass and processed in a second one, each in
the state the packets before it left. -/
namespace Quicz

open Proc Trace

variable (nowNanos : Int) (udpDatagramLen : Nat)

/-- The packet opens, and its header and frames are in order in the state it is processed in. Nothing is
asked of the frames of a packet number space that is gone by then. -/
structure OpenedLongPacket.Valid (c : Connection) (opened : OpenedLongPacket) : Prop where
  authentic : opened.authentic = true
  number : opened.packetNumber ≤ maxQuicVarint
  sized : ¬ (opened.space = .initial ∧ c.side = .server ∧ udpDatagramLen < minInitialUdpDatagramLen)
  header : c.checkInitialHeader opened = true
  frames : (c.packetNumberSpace opened.space).discarded = false →
    failsWith (processDatagramInSpaceWithPacketTypeMaybeClose opened.space opened.packetType nowNanos
      opened.plaintext false (some opened.packetNumber)) (c.note (.applied opened.space opened.packetNumber)) = none

variable {nowNanos udpDatagramLen} {c t : Connection} {opened : OpenedLongPacket} {packets : List OpenedLongPacket}

end Quicz
