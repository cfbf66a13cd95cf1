import Mathlib.Algebra.Order.BigOperators.Group.List
import Quicz.Run.Numbers

/-! Packets in flight. As long as nothing is handed out past the books, the bytes in flight of a
space are the bytes of its sent packets, each numbered packet takes the next number, and a packet
that asks for an acknowledgement is listed until it is acknowledged, lost or dropped with its
space. The same books bound what is sent to an address that is not validated. -/
namespace Quicz

open Chunks Proc Resend List Connection LedgerEntry SentPacket Nat Datagram

variable {rule : LedgerRule} {l m : Ledger}

namespace SpaceLedger

structure Exact (s : SpaceLedger) : Prop where
  bytes : s.bytesInFlight = (s.sent.map bytes).sum
  ascending : (s.sent.map packetNumber).Pairwise (· < ·)
  below : ∀ packet ∈ s.sent, packet.packetNumber < s.nextPacketNumber

variable {s : SpaceLedger}

theorem Exact.take (h : s.Exact) : s.take.Exact :=
  ⟨h.bytes, h.ascending, fun packet mem => lt_succ_of_lt (h.below packet mem)⟩

theorem Exact.carry (h : s.Exact) {packet : SentPacket} (next : packet.packetNumber = s.nextPacketNumber)
    (fits : s.bytesInFlight + packet.bytes ≤ maxU64) : (s.take.carry packet).Exact := by
  refine ⟨?_, ?_, fun other mem => ?_⟩
  · change saturatingAddU64 s.bytesInFlight packet.bytes = ((s.sent ++ [packet]).map SentPacket.bytes).sum
    rw [saturatingAddU64, min_eq_left fits, h.bytes]
    simp
  · change ((s.sent ++ [packet]).map packetNumber).Pairwise (· < ·)
    rw [map_append, pairwise_append]
    refine ⟨h.ascending, pairwise_singleton _ _, fun n mem m last => ?_⟩
    obtain ⟨other, inside, rfl⟩ := mem_map.mp mem
    obtain rfl : m = packet.packetNumber := by simpa using last
    exact next ▸ h.below other inside
  · change other.packetNumber < s.nextPacketNumber + 1
    rcases mem_append.mp mem with old | new
    · exact lt_succ_of_lt (h.below other old)
    · obtain rfl := mem_singleton.mp new
      omega

theorem countedBytes_eq {packets : List SentPacket} (fits : (packets.map bytes).sum ≤ maxU64) :
    countedBytes packets = (packets.map bytes).sum := by
  have fold : ∀ (packets : List SentPacket) (total : Nat), total + (packets.map bytes).sum ≤ maxU64 →
      packets.foldl (fun total packet => saturatingAddU64 total packet.bytes) total =
        total + (packets.map bytes).sum := by
    intro packets
    induction packets with
    | nil => exact fun total _ => rfl
    | cons packet rest ih =>
      intro total fits
      rw [map_cons, sum_cons] at fits ⊢
      have here : saturatingAddU64 total packet.bytes = total + packet.bytes :=
        min_eq_left (by omega)
      rw [foldl_cons, here, ih _ (by omega), add_assoc]
  rw [countedBytes, fold packets 0 (by omega), zero_add]

theorem sum_filter (packets : List SentPacket) (gone : SentPacket → Bool) : ((packets.filter gone).map bytes).sum +
      ((packets.filter fun packet => !gone packet).map bytes).sum = (packets.map bytes).sum := by
  induction packets with
  | nil => rfl
  | cons packet rest ih =>
    cases goes : gone packet <;> simp [goes] <;> omega

theorem Exact.leave (h : s.Exact) (fits : s.bytesInFlight ≤ maxU64) (gone : SentPacket → Bool) :
    (s.leave gone).Exact ∧ (s.leave gone).bytesInFlight ≤ s.bytesInFlight := by
  have parts := sum_filter s.sent gone
  have counted : countedBytes (s.sent.filter gone) = ((s.sent.filter gone).map SentPacket.bytes).sum := by
    refine countedBytes_eq ?_
    have := h.bytes
    omega
  refine ⟨⟨?_, ?_, fun packet mem => h.below packet (mem_filter.mp mem).1⟩, sub_le _ _⟩
  · change s.bytesInFlight - countedBytes (s.sent.filter gone) = _
    rw [counted, h.bytes]
    simp only [SpaceLedger.leave]
    omega
  · exact h.ascending.sublist (filter_sublist.map _)

theorem exact_nil (none : s.sent = []) (zero : s.bytesInFlight = 0) : s.Exact := by
  refine ⟨?_, ?_, ?_⟩ <;> simp [none, zero]

theorem Exact.of_same {t : SpaceLedger} (h : s.Exact) (sent : t.sent = s.sent)
    (bytes : t.bytesInFlight = s.bytesInFlight) (next : t.nextPacketNumber = s.nextPacketNumber) : t.Exact := by
  refine ⟨?_, ?_, ?_⟩ <;> rw [sent]
  · rw [bytes, h.bytes]
  · exact h.ascending
  · exact fun packet mem => next ▸ h.below packet mem

end SpaceLedger

section Entries

def Ledger.flying (l : Ledger) : Nat :=
  (l.space .initial).bytesInFlight + (l.space .handshake).bytesInFlight +
    (l.space .application).bytesInFlight

theorem Ledger.totalBytesInFlight_eq (fits : l.flying ≤ maxU64) : l.totalBytesInFlight = l.flying := by
  simp only [Ledger.flying] at fits
  simp only [Ledger.totalBytesInFlight, Ledger.flying, saturatingAddU64]
  omega

theorem Ledger.bytesInFlight_le_flying (l : Ledger) (space : PacketNumberSpace) :
    (l.space space).bytesInFlight ≤ l.flying := by
  simp only [Ledger.flying]
  cases space <;> omega

def LedgerEntry.weight (space : PacketNumberSpace) : LedgerEntry → Nat
  | .emits packet (some sent) => if packet.space = space then sent.bytes else 0
  | .records other sent => if other = space then sent.bytes else 0
  | _ => 0

theorem FlightChange.weight {entry : LedgerEntry} {s : SpaceLedger} (change : FlightChange l space entry s) :
    s.bytesInFlight ≤ (l.space space).bytesInFlight + entry.weight space := by
  cases change with
  | same sent bytes next still => rw [bytes]; exact le_add_right _ _
  | emits entry here number =>
    cases entry with
    | none => exact le_add_right _ _
    | some sent =>
      simp only [LedgerEntry.weight, here, if_true]
      exact min_le_left _ _
  | records sent =>
    simp only [LedgerEntry.weight, if_true]
    exact min_le_left _ _
  | acknowledges gone confirmed | loses gone => exact (sub_le _ _).trans (le_add_right _ _)
  | clears | restarts initial => exact zero_le _

theorem LedgerEntry.Allowed.room (roomy : ¬ rule.crowded) {entry : LedgerEntry}
    (allowed : entry.Allowed rule l) (fits : l.flying ≤ maxU64) :
    l.flying + (entry.weight .initial + entry.weight .handshake + entry.weight .application) ≤ maxU64 := by
  have total := l.totalBytesInFlight_eq fits
  cases entry with
  | emits packet entry =>
    cases entry with
    | none => simpa [weight] using fits
    | some sent =>
      obtain ⟨-, bytes, room⟩ := allowed.listed sent rfl
      have room := room.resolve_left roomy
      rw [total, ← bytes] at room
      cases here : packet.space <;> simp [weight, here] <;> omega
  | records space sent =>
    have room := allowed.2
    rw [total] at room
    cases space <;> simp [weight] <;> omega
  | _ => simpa [weight] using fits

structure Flight (l : Ledger) : Prop where
  exact_ : ∀ space, (l.space space).Exact
  fits : l.flying ≤ maxU64
  numbered : ∀ space, numbersTaken space l.history = range (l.space space).nextPacketNumber
  listed : ∀ before packet after, l.history = before ++ .emitted packet :: after →
    packet.ackEliciting = true → ∃ n, packet.packetNumber = some n ∧ numbersTaken packet.space before = range n ∧
      ((∃ event ∈ after, event.Releases packet.space n) ∨
        ∃ entry ∈ (l.space packet.space).sent, entry.packetNumber = n ∧ entry.bytes = packet.len)

variable (booked : ¬ rule.unaccounted) {entry : LedgerEntry} {space : PacketNumberSpace}
include booked

omit booked in
theorem Flight.exact_apply (roomy : ¬ rule.crowded) (h : Flight l) (allowed : entry.Allowed rule l)
    (space : PacketNumberSpace) : ((entry.apply l).space space).Exact := by
  have within := l.bytesInFlight_le_flying space
  have total := l.totalBytesInFlight_eq h.fits
  have old := h.exact_ space
  generalize result : (entry.apply l).space space = s
  have change := result ▸ allowed.flightChange space
  cases change with
  | same sent bytes next still => exact old.of_same sent bytes next
  | @emits packet n sent here number =>
    cases sent with
    | none => exact old.take
    | some sent =>
      obtain ⟨own, bytes, room⟩ := allowed.listed sent rfl
      have next := allowed.numbered.resolve_left (by rw [number]; exact nofun)
      have room := room.resolve_left roomy
      refine old.carry ?_ ?_
      · exact Option.some.inj (own.symm.trans (here ▸ next))
      · omega
  | records sent =>
    have room := allowed.2
    exact old.carry allowed.1 (by omega)
  | acknowledges gone confirmed | loses gone => exact (old.leave (within.trans h.fits) gone).1
  | clears | restarts initial => exact SpaceLedger.exact_nil rfl rfl

omit booked in
theorem Flight.fits_apply (roomy : ¬ rule.crowded) (h : Flight l) (allowed : entry.Allowed rule l) :
    (entry.apply l).flying ≤ maxU64 := by
  have room := allowed.room roomy h.fits
  have initial := (allowed.flightChange .initial).weight
  have handshake := (allowed.flightChange .handshake).weight
  have application := (allowed.flightChange .application).weight
  simp only [Ledger.flying] at room ⊢
  omega

omit booked in
theorem LedgerEntry.Allowed.keeps (allowed : entry.Allowed rule l)
    {packet : SentPacket} (mem : packet ∈ (l.space space).sent) : packet ∈ ((entry.apply l).space space).sent ∨
      ∃ event ∈ entry.events l, event.Releases space packet.packetNumber := by
  have released : ∀ gone : SentPacket → Bool, gone packet = true →
      packet.packetNumber ∈ (l.space space).leaving gone := fun gone goes =>
    mem_map_of_mem (mem_filter.mpr ⟨mem, goes⟩)
  have stays : ∀ gone : SentPacket → Bool, gone packet = false → packet ∈ ((l.space space).leave gone).sent :=
    fun gone stay => mem_filter.mpr ⟨mem, by simp [stay]⟩
  generalize result : (entry.apply l).space space = s
  have change := result ▸ allowed.flightChange space
  cases change with
  | same sent bytes next still => exact Or.inl (sent ▸ mem)
  | emits sent here number =>
    cases sent with
    | none => exact Or.inl mem
    | some sent => exact Or.inl (mem_append_left _ mem)
  | records sent => exact Or.inl (mem_append_left _ mem)
  | acknowledges gone confirmed | loses gone =>
    cases goes : gone packet with
    | false => exact Or.inl (stays gone goes)
    | true => exact Or.inr ⟨_, mem_cons_self, rfl, released gone goes⟩
  | clears => exact Or.inr ⟨_, mem_cons_self, rfl⟩
  | restarts initial => exact Or.inr ⟨_, mem_cons_self, initial⟩

omit booked in
theorem LedgerEntry.emitted_mem_events {packet : EmittedPacket} (mem : .emitted packet ∈ entry.events l) :
    (∃ sent, entry = .emits packet sent) ∨ entry = .handsOut packet := by
  cases entry <;> simp [events] at mem
  · subst mem
    exact Or.inl ⟨_, rfl⟩
  · subst mem
    exact Or.inr rfl

theorem Flight.step (roomy : ¬ rule.crowded) (entry : LedgerEntry) (h : Flight l)
    (allowed : entry.Allowed rule l) : Flight (entry.apply l) := by
  refine ⟨h.exact_apply roomy allowed, h.fits_apply roomy allowed,
    fun space => allowed.takes_next (h.numbered space), fun before packet after whole eliciting => ?_⟩
  rw [history_apply] at whole
  rcases split_append whole with ⟨rest, old, rfl⟩ | ⟨front, rfl, new⟩
  · obtain ⟨n, number, taken, state⟩ := h.listed before packet rest old eliciting
    refine ⟨n, number, taken, ?_⟩
    rcases state with ⟨event, mem, releases⟩ | ⟨sent, mem, rfl, bytes⟩
    · exact Or.inl ⟨event, mem_append_left _ mem, releases⟩
    · rcases allowed.keeps mem with stays | ⟨event, inside, releases⟩
      · exact Or.inr ⟨sent, stays, rfl, bytes⟩
      · exact Or.inl ⟨event, mem_append_right _ inside, releases⟩
  · -- the packet leaves now
    have mem : .emitted packet ∈ entry.events l := new ▸ mem_append_right _ mem_cons_self
    rcases emitted_mem_events mem with ⟨sent, rfl⟩ | rfl
    · obtain ⟨sent, rfl⟩ := Option.isSome_iff_exists.mp (allowed.counted eliciting)
      obtain ⟨number, bytes, -⟩ := allowed.listed sent rfl
      have next := allowed.numbered.resolve_left (by rw [number]; exact nofun)
      have same := Option.some.inj (number.symm.trans next)
      obtain ⟨rfl, rfl⟩ : front = [] ∧ after = [] := by
        have length := congrArg length new
        simp only [events, length_append, length_cons, length_nil] at length
        exact ⟨length_eq_zero_iff.mp (by omega), length_eq_zero_iff.mp (by omega)⟩
      refine ⟨sent.packetNumber, number, ?_, Or.inr ⟨sent, ?_, rfl, bytes⟩⟩
      · rw [append_nil, h.numbered, same]
      · rw [apply, Ledger.space_emit]
        exact mem_append_right _ mem_cons_self
    · exact absurd allowed.1 booked

end Entries

def Ledger.emittedBytes (l : Ledger) : Nat := (l.emitted.map EmittedPacket.len).sum

structure Frugal (l : Ledger) : Prop where
  credit : l.credit ≤ maxU64
  spent : l.spent ≤ maxU64
  paid : l.limited = true → l.emittedBytes ≤ l.spent ∧ l.emittedBytes ≤ 3 * l.credit

theorem LedgerEntry.emittedBytes_apply (entry : LedgerEntry) (l : Ledger) : (entry.apply l).emittedBytes =
    l.emittedBytes + ((emittedIn (entry.events l)).map EmittedPacket.len).sum := by
  rw [Ledger.emittedBytes, Ledger.emitted, history_apply, emittedIn, filterMap_append, map_append, List.sum_append]
  rfl

theorem Frugal.step (booked : ¬ rule.unaccounted) (entry : LedgerEntry) (h : Frugal l)
    (allowed : entry.Allowed rule l) : Frugal (entry.apply l) := by
  have grown := entry.emittedBytes_apply l
  cases entry with
  | emits packet sent =>
    have bytes : (apply l (.emits packet sent)).emittedBytes = l.emittedBytes + packet.len := by
      rw [grown]
      simp [events, emittedIn]
    have limited := l.limited_emit packet sent
    have credit := l.credit_emit packet sent
    have spent := l.spent_emit packet sent
    have room := h.spent
    refine ⟨credit ▸ h.credit, ?_, fun still => ?_⟩
    · simp only [apply, spent, saturatingAddU64]
      split <;> omega
    · have still : l.limited = true := limited ▸ still
      obtain ⟨paid, within⟩ := h.paid still
      have affordable := allowed.affordable still
      simp only [apply] at bytes ⊢
      rw [bytes, spent, credit, if_pos still]
      simp only [saturatingMulU64, antiAmplificationMultiplier, saturatingAddU64] at affordable ⊢
      omega
  | handsOut packet => exact absurd allowed.1 booked
  | records space sent =>
    refine ⟨by simpa [apply, Ledger.note] using h.credit, ?_, fun still => ?_⟩
    · simp only [apply, Ledger.note, Ledger.spent_spend, saturatingAddU64]
      split
      · exact min_le_right _ _
      · exact h.spent
    · have still : l.limited = true := by simpa [apply, Ledger.note] using still
      obtain ⟨paid, within⟩ := h.paid still
      have room := h.spent
      rw [grown]
      simp only [apply, Ledger.note, Ledger.spent_spend, Ledger.credit_spend, saturatingAddU64,
        Ledger.limited_modify, Ledger.spent_modify, Ledger.credit_modify, still, if_true]
      simp only [events, emittedIn, filterMap_cons, filterMap_nil, map_nil, sum_nil]
      omega
  | spends bytes =>
    refine ⟨by simpa [apply] using h.credit, ?_, fun still => ?_⟩
    · simp only [apply, Ledger.spent_spend, saturatingAddU64]
      split
      · exact min_le_right _ _
      · exact h.spent
    · have still : l.limited = true := by simpa [apply] using still
      obtain ⟨paid, within⟩ := h.paid still
      have room := h.spent
      rw [grown]
      simp only [apply, Ledger.spent_spend, Ledger.credit_spend, saturatingAddU64, still, if_true]
      simp only [events, emittedIn, filterMap_nil, map_nil, sum_nil]
      omega
  | credits bytes =>
    refine ⟨min_le_right _ _, h.spent, fun still => ?_⟩
    obtain ⟨paid, within⟩ := h.paid still
    have small := h.credit
    change l.emittedBytes ≤ l.spent ∧ l.emittedBytes ≤ 3 * saturatingAddU64 l.credit bytes
    simp only [saturatingAddU64]
    omega
  | validates => exact ⟨h.credit, h.spent, by rintro ⟨⟩⟩
  | _ => exact ⟨h.credit, h.spent, fun still => grown ▸ h.paid still⟩

variable {c : Connection}

/-- Nothing is handed out past the books, and what is in flight stays countable. -/
def LedgerRule.booked : LedgerRule := { LedgerRule.any with unaccounted := False, crowded := False }

def LedgerRule.accounted : LedgerRule := { LedgerRule.any with unaccounted := False }

/-- The call sends through the books, and what it may add to the flight fits the counter. -/
def Call.booked (c : Connection) (call : Call) : Prop :=
  call.skipsBooks c = false ∧ call.crowds c = false

theorem Call.booked.meets {call : Call} (booked : call.booked c) : call.Meets .booked c :=
  { Call.meets_any c call with booked := Or.inr booked.1, room := Or.inr booked.2 }

theorem Call.accounted_meets {call : Call} (accounted : call.skipsBooks c = false) : call.Meets .accounted c :=
  { Call.meets_any c call with booked := Or.inr accounted }

variable (side : ConnectionSide) (config : Config)

theorem fresh_flight : Flight (fresh side config).ledger := by
  have idle : ∀ space, ((fresh side config).ledger.space space).bytesInFlight = 0 := by
    have app : (applicationRecovery config).bytesInFlight = 0 := by
      unfold applicationRecovery
      split <;> rfl
    intro space
    cases space with
    | initial => rfl
    | handshake => rfl
    | application => exact app
  refine ⟨fun space => ?_, ?_, fun space => ?_, fun before packet after empty => ?_⟩
  · exact SpaceLedger.exact_nil (by cases space <;> rfl) (idle space)
  · simp [Ledger.flying, idle]
  · cases space <;> rfl
  · exact absurd empty.symm (by simp [ledger, fresh])

theorem fresh_frugal : Frugal (fresh side config).ledger :=
  ⟨zero_le _, zero_le _, fun _ => ⟨zero_le _, zero_le _⟩⟩

/-- What the calls returned was handed out, in this order. -/
theorem returnedBy_sublist (c : Connection) (calls : List Call) :
    (c.ledger.emitted ++ (returnedBy c calls).flatMap packets).Sublist (run c calls).ledger.emitted := by
  induction calls generalizing c with
  | nil => simp [returnedBy]
  | cons call rest ih =>
    obtain ⟨-, earlier, handed⟩ :=
      Call.hands trivial (fun _ _ => trivial) (Call.meets_any c call)
    have later := ih (call.next c)
    rw [handed] at later
    have packets : ((call.returned c).toList.flatMap packets) = handedOut (call.returned c) := by
      cases call.returned c <;> simp [handedOut]
    rw [returnedBy, flatMap_append, packets, run_cons]
    refine List.Sublist.trans ?_ later
    simp only [append_assoc]
    exact List.Sublist.append_left (sublist_append_right earlier _) _

/-- In a run that sends through the books, the flight of every space is counted exactly and listed
in order, and a packet that asks for an acknowledgement took the next number of its space and is
listed once until it is released. -/
theorem flight_accounting_exact {side : ConnectionSide} {config : Config} {start : Connection}
    {calls : List Call} (made : Connection.init side config = .ok start)
    (booked : Throughout (fun c call => call.booked c) start calls) :
    (∀ space, ((run start calls).packetNumberSpace space).recoveryState.bytesInFlight =
        (((run start calls).packetNumberSpace space).sentPackets.map SentPacket.bytes).sum ∧
      (((run start calls).packetNumberSpace space).sentPackets.map SentPacket.packetNumber).Pairwise (· < ·) ∧
      ∀ packet ∈ ((run start calls).packetNumberSpace space).sentPackets,
        packet.packetNumber < ((run start calls).packetNumberSpace space).nextPacketNumber) ∧
    (∀ datagram ∈ returnedBy start calls, ∀ packet ∈ datagram.packets, .emitted packet ∈ (run start calls).history) ∧
    ∀ before packet after, (run start calls).history = before ++ .emitted packet :: after →
      packet.ackEliciting = true → ∃ n, packet.packetNumber = some n ∧
        numbersTaken packet.space before = List.range n ∧ ((∃ event ∈ after, event.Releases packet.space n) ∨
          (((run start calls).packetNumberSpace packet.space).sentPackets.map
            SentPacket.packetNumber).count n = 1) := by
  obtain ⟨-, rfl⟩ := init_ok made
  have evolved : Evolves .booked (.fresh side config) (run (.fresh side config) calls) :=
    run_evolves trivial (fun _ _ => trivial) (booked.imp fun _ _ booked => booked.meets)
  have flight : Flight (run (.fresh side config) calls).ledger :=
    evolved.ledger.preserves (fun _ entry => Flight.step id id entry) (fresh_flight side config)
  refine ⟨fun space => ?_, fun datagram mem packet inside => ?_, fun before packet after whole eliciting => ?_⟩
  · exact ⟨(flight.exact_ space).bytes, (flight.exact_ space).ascending, (flight.exact_ space).below⟩
  · have handed : packet ∈ (run (.fresh side config) calls).ledger.emitted :=
      (returnedBy_sublist (.fresh side config) calls).subset
        (mem_append_right _ (mem_flatMap.mpr ⟨datagram, mem, inside⟩))
    obtain ⟨event, noted, same⟩ := mem_filterMap.mp handed
    cases event <;> simp at same
    subst same
    exact noted
  · obtain ⟨n, number, taken, state⟩ := flight.listed before packet after whole eliciting
    refine ⟨n, number, taken, state.imp_right ?_⟩
    rintro ⟨entry, mem, rfl, -⟩
    have distinct := (flight.exact_ packet.space).ascending.imp ne_of_lt
    exact count_eq_one_of_mem distinct (mem_map_of_mem mem)

theorem flight_accounting_exact_ping :
    let calls : List Call := [.sendPingInSpace .application, .pollTx 0 1000]
    let space := (run (.fresh .client {}) calls).applicationPacketSpace
    (run (.fresh .client {}) calls).history = [.emitted ⟨.application, some 0, [.ping], 1⟩] ∧
    space.recoveryState.bytesInFlight = (space.sentPackets.map bytes).sum := by
  have booked : Throughout (fun c call => call.booked c) (.fresh .client {})
      [.sendPingInSpace .application, .pollTx 0 1000] := ⟨⟨rfl, rfl⟩, ⟨rfl, rfl⟩, trivial⟩
  exact ⟨rfl, ((flight_accounting_exact (init_default _) booked).1 .application).1⟩

def datagramConfig : Config := { maxDatagramFrameSize := 100 }

/-- A DATAGRAM frame asks for an acknowledgement, but takes no number and is not listed. -/
theorem polled_datagram_unlisted :
    let start := fresh .client datagramConfig
    let calls : List Call := [.sendDatagram [1, 2], .pollTx 0 1000]
    init .client datagramConfig = .ok start ∧
    returnedBy start calls = [⟨[⟨.application, none, [.datagram [1, 2]], 4⟩]⟩] ∧
    (⟨.application, none, [.datagram [1, 2]], 4⟩ : EmittedPacket).ackEliciting = true ∧
    (run start calls).applicationPacketSpace.nextPacketNumber = 0 ∧
    (run start calls).applicationPacketSpace.sentPackets = [] ∧
    (run start calls).applicationPacketSpace.recoveryState.bytesInFlight = 0 :=
  ⟨rfl, rfl, rfl, rfl, rfl, rfl⟩

theorem emittedBytes_returned (c : Connection) (calls : List Call) :
    ((returnedBy c calls).map len).sum ≤ (run c calls).ledger.emittedBytes := by
  have packets : ((returnedBy c calls).map len).sum =
      (((returnedBy c calls).flatMap packets).map EmittedPacket.len).sum := by
    induction returnedBy c calls with
    | nil => rfl
    | cons datagram rest ih => simp [len, ih]
  rw [packets]
  have handed := (sublist_append_right _ _).trans (returnedBy_sublist c calls)
  exact (handed.map EmittedPacket.len).sum_le_sum fun _ _ => zero_le _

/-- In a run that sends through the books, a server returns at most three times the bytes it
recorded as received, for as long as the peer's address is not validated. -/
theorem sends_within_amplification_limit {config : Config} {start : Connection} {calls : List Call}
    (made : Connection.init .server config = .ok start)
    (accounted : Throughout (fun c call => call.skipsBooks c = false) start calls)
    (unvalidated : (run start calls).isAntiAmplificationLimited = true) :
    ((returnedBy start calls).map Datagram.len).sum ≤ 3 * (run start calls).peerAddressBytesReceived := by
  obtain ⟨-, rfl⟩ := init_ok made
  have evolved : Evolves .accounted (.fresh .server config) (run (.fresh .server config) calls) :=
    run_evolves trivial (fun _ _ => trivial) (accounted.imp fun _ _ => Call.accounted_meets)
  have frugal : Frugal (run (.fresh .server config) calls).ledger :=
    evolved.ledger.preserves (fun _ entry => Frugal.step id entry) (fresh_frugal .server config)
  exact (emittedBytes_returned _ calls).trans (frugal.paid unvalidated).2

theorem sends_within_amplification_limit_ping :
    let calls : List Call :=
      [.recordPeerAddressBytesReceived 10, .sendPingInSpace .application, .pollTx 0 1000]
    let sent := ((returnedBy (.fresh .server {}) calls).map len).sum
    sent = 1 ∧ sent ≤ 3 * (run (.fresh .server {}) calls).peerAddressBytesReceived := by
  exact ⟨rfl, sends_within_amplification_limit (init_default _) ⟨rfl, rfl, rfl, trivial⟩ rfl⟩

/-- Nothing came in, and a DATAGRAM frame leaves. -/
theorem polled_datagram_unpaid :
    let start := fresh .server datagramConfig
    let calls : List Call := [.sendDatagram [1, 2], .pollTx 0 1000]
    init .server datagramConfig = .ok start ∧
    (run start calls).isAntiAmplificationLimited = true ∧
    (run start calls).peerAddressBytesReceived = 0 ∧
    ((returnedBy start calls).map len).sum = 4 :=
  ⟨rfl, rfl, rfl, rfl⟩

end Quicz
