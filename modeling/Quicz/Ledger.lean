import Mathlib.Logic.Function.Basic
import Mathlib.Logic.Relation
import Quicz.Lifecycle
import Quicz.Recv.Machine

/-! The books of a connection: what is in flight, which packet numbers were received, what
the peer's address may still be sent, which 1-RTT keys are held, and the history of all that.
An entry is one change to the books; a rule says which doubtful entries are allowed. -/
namespace Quicz

variable (l : Ledger)

structure SpaceLedger where
  discarded : Bool
  nextPacketNumber : Nat
  received : ReceivedPacketRanges
  sent : List SentPacket
  bytesInFlight : Nat

structure Ledger where
  space : PacketNumberSpace → SpaceLedger
  /-- The peer's address is not validated yet. -/
  limited : Bool
  credit : Nat
  spent : Nat
  localKeys : Option Aes128KeyPhaseState
  peerKeys : Option Aes128KeyPhaseState
  threshold : Option Nat
  history : List Event

/-- The entries that are not always allowed: packets handed out past the books, sends that may
overrun the count of bytes in flight, new traffic secrets, expiry at a time, an advance of the
peer's keys, a key state put back from a copy, the frames of a numbered packet applied, a packet
number recorded as received, and a packet opened with installed keys. What the receive side may do
has a rule of its own. -/
structure LedgerRule where
  unaccounted : Prop
  crowded : Prop
  installs : Prop
  clock : Int → Prop
  turns : Prop
  rewrites : Prop
  applies : Prop
  hears : PacketNumberSpace → Nat → Prop
  opens : Prop
  recv : RecvRule

def LedgerRule.any : LedgerRule :=
  ⟨True, True, True, fun _ => True, True, True, True, fun _ _ => True, True, .any⟩

def countedBytes (packets : List SentPacket) : Nat :=
  packets.foldl (fun total packet => saturatingAddU64 total packet.bytes) 0

def emittedIn (events : List Event) : List EmittedPacket :=
  events.filterMap fun
    | .emitted packet => some packet
    | _ => none

namespace SpaceLedger

variable (s : SpaceLedger)

def take : SpaceLedger := { s with nextPacketNumber := s.nextPacketNumber + 1 }

def carry (packet : SentPacket) : SpaceLedger :=
  { s with
    sent := s.sent ++ [packet]
    bytesInFlight := saturatingAddU64 s.bytesInFlight packet.bytes }

variable (gone : SentPacket → Bool)

def leave : SpaceLedger :=
  { s with
    sent := s.sent.filter fun packet => !gone packet
    bytesInFlight := s.bytesInFlight - countedBytes (s.sent.filter gone) }

def leaving : List Nat :=
  (s.sent.filter gone).map SentPacket.packetNumber

def hear (packetNumber : Nat) : SpaceLedger :=
  { s with received := (s.received.record packetNumber).1 }

def clear : SpaceLedger :=
  { s with discarded := true, received := {}, sent := [], bytesInFlight := 0 }

def restart : SpaceLedger :=
  { s with nextPacketNumber := 0, sent := [], bytesInFlight := 0 }

def Blocks (packetNumber : Nat) : Prop :=
  s.discarded = true ∨ s.received.canRecord packetNumber = false

end SpaceLedger

namespace Ledger

def modify (space : PacketNumberSpace) (f : SpaceLedger → SpaceLedger) : Ledger :=
  { l with space := Function.update l.space space (f (l.space space)) }

def note (event : Event) : Ledger := { l with history := l.history ++ [event] }

def spend (bytes : Nat) : Ledger :=
  if l.limited then { l with spent := saturatingAddU64 l.spent bytes } else l

def totalBytesInFlight : Nat :=
  saturatingAddU64
    (saturatingAddU64 (l.space .initial).bytesInFlight (l.space .handshake).bytesInFlight)
    (l.space .application).bytesInFlight

def expire (nowNanos : Int) : Ledger :=
  { l with
    localKeys := l.localKeys.map (·.discardExpiredPrevious nowNanos)
    peerKeys := l.peerKeys.map (·.discardExpiredPrevious nowNanos) }

def emitted : List EmittedPacket := emittedIn l.history

def emit (packet : EmittedPacket) (entry : Option SentPacket) : Ledger :=
  let numbered := l.modify packet.space fun s => if packet.packetNumber.isSome then s.take else s
  let carried := match entry with
    | some sent => numbered.modify packet.space (·.carry sent)
    | none => numbered
  (carried.spend packet.len).note (.emitted packet)

end Ledger

inductive LedgerEntry
  | emits (packet : EmittedPacket) (entry : Option SentPacket)
  | handsOut (packet : EmittedPacket)
  | records (space : PacketNumberSpace) (entry : SentPacket)
  | acknowledges (space : PacketNumberSpace) (gone : SentPacket → Bool) (confirmed : Bool)
  | loses (space : PacketNumberSpace) (gone : SentPacket → Bool)
  | hears (space : PacketNumberSpace) (packetNumber : Nat)
  | applies (space : PacketNumberSpace) (packetNumber : Nat)
  | processes (space : PacketNumberSpace) (packetNumber : Nat)
  | clears (space : PacketNumberSpace)
  | restarts
  | credits (bytes : Nat)
  | validates
  | spends (bytes : Nat)
  | installs (own peer : TrafficSecret)
  | initiates (deadline : Option Int)
  | follows (deadline : Int)
  | expires (nowNanos : Int)
  | opens (keys : OneRttKeys)
  | advances (deadline : Int)
  | rewrites (state : Aes128KeyPhaseState)

/-- The local keys move on, with the time their predecessors go. -/
def Aes128KeyPhaseState.moveOn (s : Aes128KeyPhaseState) (deadline : Option Int) : Aes128KeyPhaseState :=
  match deadline with
  | none => s.advance
  | some time => s.advance.schedulePreviousDiscard time

def Ledger.confirms (l : Ledger) (space : PacketNumberSpace) (gone : SentPacket → Bool) : Bool :=
  space == .application && l.threshold.any fun threshold =>
    ((l.space space).leaving gone).any fun packetNumber => decide (packetNumber ≥ threshold)

namespace LedgerEntry

def apply (l : Ledger) : LedgerEntry → Ledger
  | emits packet entry => l.emit packet entry
  | handsOut packet => l.note (.emitted packet)
  | records space entry =>
    ((l.modify space fun s => s.take.carry entry).spend entry.bytes).note
      (.recorded space entry.packetNumber entry.bytes)
  | acknowledges space gone confirmed =>
    { (l.modify space (·.leave gone)).note (.acknowledged space ((l.space space).leaving gone)) with
      threshold := if confirmed && l.confirms space gone then none else l.threshold }
  | loses space gone =>
    (l.modify space (·.leave gone)).note (.lost space ((l.space space).leaving gone))
  | hears space packetNumber => l.modify space (·.hear packetNumber)
  | applies space packetNumber => l.note (.applied space packetNumber)
  | processes space packetNumber =>
    (l.modify space (·.hear packetNumber)).note (.processed space packetNumber)
  | clears space => (l.modify space SpaceLedger.clear).note (.cleared space)
  | restarts => (l.modify .initial SpaceLedger.restart).note .restarted
  | credits bytes => { l with credit := saturatingAddU64 l.credit bytes }
  | validates => { l with limited := false }
  | spends bytes => l.spend bytes
  | installs own peer =>
    { l.note .keysInstalled with
      localKeys := some (.init ⟨own, 0⟩ false)
      peerKeys := some (.init ⟨peer, 0⟩ false)
      threshold := none }
  | initiates deadline =>
    { l.note (.keyUpdate true) with
      localKeys := l.localKeys.map (·.moveOn deadline)
      threshold := some (l.space .application).nextPacketNumber }
  | follows deadline =>
    { l.note (.keyUpdate false) with localKeys := l.localKeys.map (·.moveOn (some deadline)) }
  | expires nowNanos => l.expire nowNanos
  | opens keys => l.note (.opened keys)
  | advances deadline => { l with peerKeys := l.peerKeys.map (·.moveOn (some deadline)) }
  | rewrites state => { l with peerKeys := some state }

def events (l : Ledger) : LedgerEntry → List Event
  | emits packet _ | handsOut packet => [.emitted packet]
  | records space entry => [.recorded space entry.packetNumber entry.bytes]
  | acknowledges space gone _ => [.acknowledged space ((l.space space).leaving gone)]
  | loses space gone => [.lost space ((l.space space).leaving gone)]
  | applies space packetNumber => [.applied space packetNumber]
  | processes space packetNumber => [.processed space packetNumber]
  | clears space => [.cleared space]
  | restarts => [.restarted]
  | installs _ _ => [.keysInstalled]
  | initiates _ => [.keyUpdate true]
  | follows _ => [.keyUpdate false]
  | opens keys => [.opened keys]
  | _ => []

structure Emittable (rule : LedgerRule) (l : Ledger) (packet : EmittedPacket)
    (entry : Option SentPacket) : Prop where
  numbered : packet.packetNumber = none ∨ packet.packetNumber = some (l.space packet.space).nextPacketNumber
  counted : packet.ackEliciting = true → entry.isSome = true
  listed : ∀ sent, entry = some sent → packet.packetNumber = some sent.packetNumber ∧ sent.bytes = packet.len ∧
      (rule.crowded ∨ l.totalBytesInFlight + packet.len ≤ maxU64)
  affordable : l.limited = true → packet.len ≤ saturatingMulU64 l.credit antiAmplificationMultiplier - l.spent

def Allowed (rule : LedgerRule) (l : Ledger) : LedgerEntry → Prop
  | emits packet entry => Emittable rule l packet entry
  | handsOut packet => rule.unaccounted ∧ packet.packetNumber = none
  | records space entry =>
    entry.packetNumber = (l.space space).nextPacketNumber ∧ l.totalBytesInFlight + entry.bytes ≤ maxU64
  | hears space packetNumber | processes space packetNumber =>
    rule.hears space packetNumber ∧ packetNumber ≤ maxQuicVarint
  | applies space packetNumber => rule.applies ∧ ¬ (l.space space).Blocks packetNumber
  | installs _ _ => rule.installs
  | initiates _ => l.threshold = none
  | expires nowNanos => rule.clock nowNanos
  | opens keys => rule.opens ∧ (rule.rewrites ∨ ∃ state, l.peerKeys = some state ∧ state.holds keys)
  | advances _ => rule.turns
  | rewrites _ => rule.rewrites
  | _ => True

end LedgerEntry

def LedgerStep (rule : LedgerRule) (l m : Ledger) : Prop :=
  ∃ entry : LedgerEntry, entry.Allowed rule l ∧ m = entry.apply l

def LedgerSteps (rule : LedgerRule) : Ledger → Ledger → Prop := Relation.ReflTransGen (LedgerStep rule)

namespace LedgerSteps

variable {rule : LedgerRule} {l m n : Ledger}

theorem refl (l : Ledger) : LedgerSteps rule l l := Relation.ReflTransGen.refl

theorem trans (first : LedgerSteps rule l m) (next : LedgerSteps rule m n) : LedgerSteps rule l n :=
  Relation.ReflTransGen.trans first next

variable (entry : LedgerEntry)

theorem one (allowed : entry.Allowed rule l) : LedgerSteps rule l (entry.apply l) :=
  Relation.ReflTransGen.single ⟨entry, allowed, rfl⟩

theorem of_eq (allowed : entry.Allowed rule l) (result : m = entry.apply l) :
    LedgerSteps rule l m := result ▸ one entry allowed

/-- An invariant of the entries holds after any number of them. -/
theorem preserves {P : Ledger → Prop} (step : ∀ l entry, P l → LedgerEntry.Allowed rule l entry → P (entry.apply l))
    (steps : LedgerSteps rule l m) (start : P l) : P m := by
  induction steps with
  | refl => exact start
  | tail _ last ih =>
    obtain ⟨entry, allowed, rfl⟩ := last
    exact step _ entry ih allowed

end LedgerSteps

structure LedgerRule.Within (rule wider : LedgerRule) : Prop where
  unaccounted : rule.unaccounted → wider.unaccounted
  crowded : rule.crowded → wider.crowded
  installs : rule.installs → wider.installs
  clock : ∀ nowNanos, rule.clock nowNanos → wider.clock nowNanos
  turns : rule.turns → wider.turns
  rewrites : rule.rewrites → wider.rewrites
  applies : rule.applies → wider.applies
  hears : ∀ space packetNumber, rule.hears space packetNumber → wider.hears space packetNumber
  opens : rule.opens → wider.opens
  recv : rule.recv = wider.recv

variable {rule wider : LedgerRule}

theorem LedgerEntry.Allowed.mono (within : rule.Within wider) {l : Ledger}
    {entry : LedgerEntry} (allowed : entry.Allowed rule l) : entry.Allowed wider l := by
  cases entry with
  | emits packet entry =>
    refine { allowed with listed := fun sent listed => ?_ }
    obtain ⟨number, bytes, fits⟩ := allowed.listed sent listed
    exact ⟨number, bytes, fits.imp_left within.crowded⟩
  | handsOut packet => exact allowed.imp_left within.unaccounted
  | installs own peer => exact within.installs allowed
  | expires nowNanos => exact within.clock nowNanos allowed
  | opens keys => exact allowed.imp within.opens fun held => held.imp_left within.rewrites
  | hears space packetNumber | processes space packetNumber =>
    exact allowed.imp_left (within.hears space packetNumber)
  | applies space packetNumber => exact allowed.imp_left within.applies
  | advances deadline => exact within.turns allowed
  | rewrites state => exact within.rewrites allowed
  | _ => exact allowed

theorem LedgerSteps.mono (within : rule.Within wider) {l m : Ledger}
    (steps : LedgerSteps rule l m) : LedgerSteps wider l m := by
  induction steps with
  | refl => exact .refl l
  | tail _ last ih =>
    obtain ⟨entry, allowed, rfl⟩ := last
    exact ih.trans (.one entry (allowed.mono within))

def PacketNumberSpaceState.ledger (s : PacketNumberSpaceState) : SpaceLedger :=
  ⟨s.discarded, s.nextPacketNumber, s.receivedPacketRanges, s.sentPackets, s.recoveryState.bytesInFlight⟩

def Connection.ledger (c : Connection) : Ledger where
  space space := (c.packetNumberSpace space).ledger
  limited := c.isAntiAmplificationLimited
  credit := c.peerAddressBytesReceived
  spent := c.peerAddressBytesSent
  localKeys := c.localOneRttKeyPhaseState
  peerKeys := c.peerOneRttKeyPhaseState
  threshold := c.localOneRttKeyUpdateAckThreshold
  history := c.history

variable {g : SpaceLedger → SpaceLedger} (c : Connection)

theorem ledger_modifySpace_at (space : PacketNumberSpace) {f : PacketNumberSpaceState → PacketNumberSpaceState}
    (same : (f (c.packetNumberSpace space)).ledger = g (c.packetNumberSpace space).ledger) :
    (c.modifySpace space f).ledger = c.ledger.modify space g := by
  have spaces : (fun other => ((c.modifySpace space f).packetNumberSpace other).ledger) =
      Function.update (fun other => (c.packetNumberSpace other).ledger) space
        (g (c.packetNumberSpace space).ledger) := by
    rw [← same]
    funext other
    cases space <;> cases other <;> rfl
  cases space <;> exact congrArg (fun space => { c.ledger with space }) spaces

theorem ledger_modifySpace (space : PacketNumberSpace) {f : PacketNumberSpaceState → PacketNumberSpaceState}
    (same : ∀ s, (f s).ledger = g s.ledger) : (c.modifySpace space f).ledger = c.ledger.modify space g :=
  ledger_modifySpace_at c space (same _)

variable (space : PacketNumberSpace) (bytes : Nat) (f : SpaceLedger → SpaceLedger)

@[simp] theorem Ledger.modify_id : l.modify space id = l := by
  simp [Ledger.modify]

theorem Ledger.modify_congr {l : Ledger} {space : PacketNumberSpace} {f g : SpaceLedger → SpaceLedger}
    (same : f (l.space space) = g (l.space space)) : l.modify space f = l.modify space g := by
  rw [Ledger.modify, Ledger.modify, same]

@[simp] theorem Ledger.modify_modify (f g : SpaceLedger → SpaceLedger) :
    (l.modify space f).modify space g = l.modify space (g ∘ f) := by
  simp [Ledger.modify]

@[simp] theorem Ledger.history_modify : (l.modify space f).history = l.history := rfl

theorem Ledger.spend_eq : l.spend bytes = { l with spent := (l.spend bytes).spent } := by
  unfold Ledger.spend
  split <;> rfl

@[simp] theorem Ledger.history_spend : (l.spend bytes).history = l.history := by
  unfold Ledger.spend
  split <;> rfl

theorem Ledger.space_modify_ne {space other : PacketNumberSpace} (apart : other ≠ space) :
    (l.modify space f).space other = l.space other := Function.update_of_ne apart _ _

@[simp] theorem Ledger.space_modify_self : (l.modify space f).space space = f (l.space space) :=
  Function.update_self space _ _

@[simp] theorem Ledger.space_spend : (l.spend bytes).space = l.space := by
  unfold Ledger.spend
  split <;> rfl

@[simp] theorem Ledger.limited_spend : (l.spend bytes).limited = l.limited := by
  unfold Ledger.spend
  split <;> rfl

@[simp] theorem Ledger.credit_spend : (l.spend bytes).credit = l.credit := by
  unfold Ledger.spend
  split <;> rfl

@[simp] theorem Ledger.spent_spend :
    (l.spend bytes).spent = if l.limited then saturatingAddU64 l.spent bytes else l.spent := by
  unfold Ledger.spend
  split <;> rfl

@[simp] theorem Ledger.limited_modify : (l.modify space f).limited = l.limited := rfl

@[simp] theorem Ledger.credit_modify : (l.modify space f).credit = l.credit := rfl

@[simp] theorem Ledger.spent_modify : (l.modify space f).spent = l.spent := rfl

@[simp] theorem ledger_note (event : Event) : (c.note event).ledger = c.ledger.note event := rfl

variable (packet : EmittedPacket) (entry : Option SentPacket)

theorem Ledger.space_emit : (l.emit packet entry).space packet.space =
    let numbered := if packet.packetNumber.isSome then (l.space packet.space).take else l.space packet.space
    match entry with
    | some sent => numbered.carry sent
    | none => numbered := by
  cases entry <;> simp [Ledger.emit, Ledger.note]

theorem Ledger.space_emit_ne {packet : EmittedPacket} {other : PacketNumberSpace} (apart : other ≠ packet.space) :
    (l.emit packet entry).space other = l.space other := by
  cases entry <;> simp [Ledger.emit, Ledger.note, Ledger.space_modify_ne _ _ apart]

theorem Ledger.emit_eq : l.emit packet entry = { l with
      space := (l.emit packet entry).space
      spent := (l.emit packet entry).spent
      history := l.history ++ [.emitted packet] } := by
  cases entry <;> simp only [Ledger.emit] <;> rw [Ledger.spend_eq] <;> rfl

theorem Ledger.limited_emit : (l.emit packet entry).limited = l.limited := by
  cases entry <;> simp [Ledger.emit, Ledger.note]

theorem Ledger.credit_emit : (l.emit packet entry).credit = l.credit := by
  cases entry <;> simp [Ledger.emit, Ledger.note]

theorem Ledger.spent_emit : (l.emit packet entry).spent =
    if l.limited then saturatingAddU64 l.spent packet.len else l.spent := by
  cases entry <;> simp only [Ledger.emit, Ledger.note, Ledger.spent_modify, Ledger.spent_spend] <;> rfl

theorem Ledger.spent_emit_le : (l.emit packet entry).spent ≤ l.spent + packet.len := by
  rw [Ledger.spent_emit]
  split
  · exact Nat.min_le_left _ _
  · exact Nat.le_add_right _ _

theorem Ledger.bytesInFlight_emit_le {packet : EmittedPacket} {entry : Option SentPacket}
    (bytes : ∀ sent, entry = some sent → sent.bytes = packet.len) :
    ((l.emit packet entry).space packet.space).bytesInFlight ≤
      (l.space packet.space).bytesInFlight + packet.len := by
  rw [Ledger.space_emit]
  cases entry with
  | none =>
    simp only
    split <;> exact Nat.le_add_right _ _
  | some sent =>
    simp only [SpaceLedger.carry, bytes sent rfl, saturatingAddU64]
    split
    · exact Nat.min_le_left _ _
    · exact Nat.min_le_left _ _

theorem Ledger.totalBytesInFlight_emit_le {packet : EmittedPacket} {entry : Option SentPacket}
    (bytes : ∀ sent, entry = some sent → sent.bytes = packet.len) :
    (l.emit packet entry).totalBytesInFlight ≤ l.totalBytesInFlight + packet.len := by
  have here := l.bytesInFlight_emit_le bytes
  have elsewhere : ∀ other, other ≠ packet.space →
      ((l.emit packet entry).space other).bytesInFlight = (l.space other).bytesInFlight :=
    fun other apart => by rw [l.space_emit_ne entry apart]
  simp only [Ledger.totalBytesInFlight, saturatingAddU64]
  cases space : packet.space with
  | initial =>
    rw [space] at here elsewhere
    rw [elsewhere .handshake nofun, elsewhere .application nofun]
    omega
  | handshake =>
    rw [space] at here elsewhere
    rw [elsewhere .initial nofun, elsewhere .application nofun]
    omega
  | application =>
    rw [space] at here elsewhere
    rw [elsewhere .initial nofun, elsewhere .handshake nofun]
    omega

theorem LedgerEntry.history_apply (entry : LedgerEntry) : (entry.apply l).history = l.history ++ entry.events l := by
  cases entry with
  | emits packet entry => rw [LedgerEntry.apply, Ledger.emit_eq]; rfl
  | records space entry => simp [LedgerEntry.apply, LedgerEntry.events, Ledger.note]
  | spends bytes => simp [LedgerEntry.apply, LedgerEntry.events]
  | hears | credits | validates | expires | advances | rewrites => exact (List.append_nil _).symm
  | _ => rfl

theorem LedgerSteps.history {rule : LedgerRule} {l m : Ledger} (steps : LedgerSteps rule l m) :
    ∃ events, m.history = l.history ++ events := by
  refine steps.preserves (P := fun m => ∃ events, m.history = l.history ++ events)
    (fun m entry grown _ => ?_) ⟨[], (List.append_nil _).symm⟩
  obtain ⟨events, grown⟩ := grown
  exact ⟨events ++ entry.events m, by rw [LedgerEntry.history_apply, grown, List.append_assoc]⟩

theorem LedgerSteps.emitted {rule : LedgerRule} {l m : Ledger} (steps : LedgerSteps rule l m) :
    ∃ packets, m.emitted = l.emitted ++ packets := by
  obtain ⟨events, grown⟩ := steps.history
  exact ⟨emittedIn events, by rw [Ledger.emitted, grown, emittedIn, List.filterMap_append]; rfl⟩

end Quicz
