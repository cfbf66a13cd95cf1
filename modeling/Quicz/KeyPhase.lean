import Quicz.Protocol

/-! The 1-RTT key phases of protection.zig: for one direction the current keys, the next
ones and the previous generation, which is retained for a while. Key derivation is
symbolic: keys are known by the traffic secret they were installed from and the number of
key updates since, and a packet opens under the keys that sealed it and no others. -/
namespace Quicz

/-- Key material is opaque: a traffic secret as the TLS backend hands it over. -/
abbrev TrafficSecret := Bytes

structure OneRttKeys where
  secret : TrafficSecret
  generation : Nat := 0
deriving DecidableEq, Repr

def OneRttKeys.update (keys : OneRttKeys) : OneRttKeys := { keys with generation := keys.generation + 1 }

structure Aes128KeyPhaseState where
  current : OneRttKeys
  next : OneRttKeys
  currentKeyPhase : Bool
  keyUpdateCount : Nat := 0
  previous : Option OneRttKeys := none
  previousKeyPhase : Option Bool := none
  previousDiscardDeadlineNanos : Option Int := none
  discardedPreviousKeyPhase : Option Bool := none
deriving DecidableEq, Repr

namespace Aes128KeyPhaseState

def init (current : OneRttKeys) (currentKeyPhase : Bool) : Aes128KeyPhaseState :=
  { current, next := current.update, currentKeyPhase }

variable (s : Aes128KeyPhaseState)

/-- The outgoing keys become the previous ones, over any that were still retained. -/
def advance : Aes128KeyPhaseState :=
  { s with
    previous := some s.current
    previousKeyPhase := some s.currentKeyPhase
    previousDiscardDeadlineNanos := none
    current := s.next
    next := s.next.update
    currentKeyPhase := !s.currentKeyPhase
    keyUpdateCount := saturatingAddU64 s.keyUpdateCount 1 }

def initiateKeyUpdate : Aes128KeyPhaseState := s.advance

def updateAfterReceiving (peerKeyPhase : Bool) : Bool × Aes128KeyPhaseState :=
  if peerKeyPhase = s.currentKeyPhase then (false, s) else (true, s.advance)

def schedulePreviousDiscard (deadlineNanos : Int) : Aes128KeyPhaseState :=
  if s.previous.isNone then s else { s with previousDiscardDeadlineNanos := some deadlineNanos }

def previousExpired (nowNanos : Int) : Bool :=
  s.previousDiscardDeadlineNanos.any (· ≤ nowNanos)

def discardExpiredPrevious (nowNanos : Int) : Aes128KeyPhaseState :=
  if s.previousExpired nowNanos then
    { s with
      discardedPreviousKeyPhase := s.previousKeyPhase
      previous := none
      previousKeyPhase := none
      previousDiscardDeadlineNanos := none }
  else s

def holds (keys : OneRttKeys) : Prop :=
  keys = s.current ∨ keys = s.next ∨ s.previous = some keys

end Aes128KeyPhaseState

inductive OpenError
  | keyUpdateError | invalid
deriving DecidableEq, Repr

/-- What the header of a short packet shows when it can be unmasked, and the keys that open
the payload, if any do. -/
structure ShortPacketSeal where
  keyPhase : Option Bool
  sealedWith : Option OneRttKeys

/-- The keys that open the packet, and whether they are those of the next generation. -/
def unprotectShortPacketAes128WithKeyUpdate (keys : Aes128KeyPhaseState) (packet : ShortPacketSeal) :
    Except OpenError (OneRttKeys × Bool) :=
  match packet.keyPhase with
  | none => .error .invalid
  | some keyPhase =>
    if keyPhase = keys.currentKeyPhase then
      if packet.sealedWith = some keys.current then .ok (keys.current, false) else .error .invalid
    else if packet.sealedWith = some keys.next then .ok (keys.next, true)
    else
      match keys.previous, keys.previousKeyPhase with
      | some previous, some previousKeyPhase =>
        if keyPhase = previousKeyPhase then
          if packet.sealedWith = some previous then .ok (previous, false) else .error .invalid
        else discarded keyPhase
      | _, _ => discarded keyPhase
where
  discarded (keyPhase : Bool) : Except OpenError (OneRttKeys × Bool) :=
    if keys.discardedPreviousKeyPhase = some keyPhase then .error .keyUpdateError else .error .invalid

end Quicz
