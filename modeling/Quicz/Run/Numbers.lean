import Quicz.Run

/-! Packet numbers. What an entry of the books does to the flight of a space; each numbered packet
takes the next number of its space, so numbers are not used twice until Retry starts the Initial
numbers again. -/
namespace Quicz

open Proc List LedgerEntry Ledger

variable (space : PacketNumberSpace)

def Event.takes : Event → Option Nat
  | .emitted packet => if packet.space = space then packet.packetNumber else none
  | .recorded other n _ => if other = space then some n else none
  | _ => none

def Event.restarts (event : Event) : Bool :=
  event == .restarted && space == .initial

variable (events : List Event)

/-- The numbers taken in a space since its numbering last started, in order. -/
def numbersTaken : List Nat :=
  events.foldl (fun taken event => if event.restarts space then [] else taken ++ (event.takes space).toList) []

def Event.Releases (n : Nat) : Event → Prop
  | .acknowledged other numbers | .lost other numbers => other = space ∧ n ∈ numbers
  | .cleared other => other = space
  | .restarted => space = .initial
  | _ => False

theorem numbersTaken_append (event : Event) : numbersTaken space (events ++ [event]) =
      if event.restarts space then [] else numbersTaken space events ++ (event.takes space).toList := by
  rw [numbersTaken, foldl_append]
  rfl

theorem split_append {history events before after : List Event} {event : Event}
    (same : history ++ events = before ++ event :: after) :
    (∃ rest, history = before ++ event :: rest ∧ after = rest ++ events) ∨
      ∃ front, before = history ++ front ∧ events = front ++ event :: after := by
  rcases append_eq_append_iff.mp same with ⟨front, rfl, rest⟩ | ⟨tail, rfl, rest⟩
  · exact Or.inr ⟨front, rfl, rest⟩
  · cases tail with
    | nil => exact Or.inr ⟨[], by simp, by simpa using rest.symm⟩
    | cons first tail =>
      obtain ⟨rfl, rfl⟩ := cons.inj rest
      exact Or.inl ⟨tail, rfl, rfl⟩

inductive FlightChange (l : Ledger) (space : PacketNumberSpace) : LedgerEntry → SpaceLedger → Prop
  | same {entry : LedgerEntry} {s : SpaceLedger} (sent : s.sent = (l.space space).sent)
      (bytes : s.bytesInFlight = (l.space space).bytesInFlight)
      (next : s.nextPacketNumber = (l.space space).nextPacketNumber)
      (still : ∀ event ∈ entry.events l, event.takes space = none ∧ event.restarts space = false) :
      FlightChange l space entry s
  | emits {packet : EmittedPacket} {n : Nat} (entry : Option SentPacket) (here : packet.space = space)
      (number : packet.packetNumber = some n) :
      FlightChange l space (.emits packet entry) (match entry with
        | some sent => (l.space space).take.carry sent
        | none => (l.space space).take)
  | records (sent : SentPacket) :
      FlightChange l space (.records space sent) ((l.space space).take.carry sent)
  | acknowledges (gone : SentPacket → Bool) (confirmed : Bool) :
      FlightChange l space (.acknowledges space gone confirmed) ((l.space space).leave gone)
  | loses (gone : SentPacket → Bool) : FlightChange l space (.loses space gone) ((l.space space).leave gone)
  | clears : FlightChange l space (.clears space) (l.space space).clear
  | restarts (initial : space = .initial) : FlightChange l space .restarts (l.space space).restart

variable {rule : LedgerRule} {l m : Ledger}

variable {entry : LedgerEntry}

/-- Each entry is one of these changes. -/
theorem LedgerEntry.Allowed.flightChange (allowed : entry.Allowed rule l) :
    FlightChange l space entry ((entry.apply l).space space) := by
  have away : ∀ {other : PacketNumberSpace} (f : SpaceLedger → SpaceLedger), space ≠ other →
      (l.modify other f).space space = l.space space := fun f apart => l.space_modify_ne f apart
  have change : ∀ {other : PacketNumberSpace} (f : SpaceLedger → SpaceLedger),
      (space = other → FlightChange l space entry (f (l.space space))) →
      (space ≠ other → ∀ event ∈ entry.events l, event.takes space = none ∧ event.restarts space = false) →
      FlightChange l space entry ((l.modify other f).space space) := by
    intro other f own apart
    by_cases here : space = other
    · subst here
      rw [space_modify_self]
      exact own rfl
    · rw [away f here]
      exact .same rfl rfl rfl (apart here)
  cases entry with
  | emits packet sent =>
    simp only [apply]
    by_cases here : space = packet.space
    · subst here
      rw [space_emit]
      cases number : packet.packetNumber with
      | some n =>
        have change := FlightChange.emits (l := l) sent rfl number
        cases sent <;> simpa using change
      | none =>
        have unlisted : sent = none := by
          cases sent with
          | none => rfl
          | some entry => exact absurd (number.symm.trans (allowed.listed entry rfl).1) (by simp)
        subst unlisted
        exact .same rfl rfl rfl (by simp [events, Event.takes, Event.restarts, number])
    · rw [l.space_emit_ne sent here]
      exact .same rfl rfl rfl (by simp [events, Event.takes, Event.restarts, Ne.symm here])
  | handsOut packet =>
    exact .same rfl rfl rfl (by simp [events, Event.takes, Event.restarts, allowed.2])
  | records other sent =>
    simp only [apply, note, space_spend]
    refine change _ (fun here => here ▸ .records sent) fun apart => ?_
    simp [events, Event.takes, Event.restarts, apart.symm]
  | acknowledges other gone confirmed =>
    simp only [apply, note]
    refine change _ (fun here => here ▸ .acknowledges gone confirmed) fun _ => ?_
    simp [events, Event.takes, Event.restarts]
  | loses other gone =>
    simp only [apply, note]
    refine change _ (fun here => here ▸ .loses gone) fun _ => ?_
    simp [events, Event.takes, Event.restarts]
  | hears other n =>
    refine .same ?_ ?_ ?_ (by rintro _ ⟨⟩) <;> by_cases here : space = other
    all_goals first
      | (subst here; simp only [apply, space_modify_self]; rfl)
      | simp only [apply, away _ here]
  | processes other n =>
    refine .same ?_ ?_ ?_ (by simp [events, Event.takes, Event.restarts]) <;>
      by_cases here : space = other
    all_goals first
      | (subst here; simp only [apply, note, space_modify_self]; rfl)
      | simp only [apply, note, away _ here]
  | clears other =>
    simp only [apply, note]
    refine change _ (fun here => here ▸ .clears) fun _ => ?_
    simp [events, Event.takes, Event.restarts]
  | restarts =>
    simp only [apply, note]
    refine change _ .restarts fun apart => ?_
    simp [events, Event.takes, Event.restarts, apart]
  | spends bytes =>
    simp only [apply, space_spend]
    exact .same rfl rfl rfl (by rintro _ ⟨⟩)
  | credits | validates | expires | advances | rewrites => exact .same rfl rfl rfl (by rintro _ ⟨⟩)
  | applies other n | installs own peer | initiates deadline | follows deadline | opens keys =>
    exact .same rfl rfl rfl (by simp [events, Event.takes, Event.restarts])

variable {space : PacketNumberSpace}

theorem LedgerEntry.Allowed.takes_next (allowed : entry.Allowed rule l)
    (old : numbersTaken space l.history = range (l.space space).nextPacketNumber) :
    numbersTaken space (entry.apply l).history = range ((entry.apply l).space space).nextPacketNumber := by
  rw [history_apply]
  generalize result : (entry.apply l).space space = s
  have change := result ▸ allowed.flightChange space
  cases change with
  | same sent bytes next still =>
    have quiet : ∀ events : List Event, (∀ event ∈ events, event.takes space = none ∧ event.restarts space = false) →
        numbersTaken space (l.history ++ events) = numbersTaken space l.history := by
      intro events
      induction events using reverseRecOn with
      | nil => simp
      | append_singleton front event ih =>
        intro still
        obtain ⟨earlier, last⟩ := forall_mem_append.mp still
        obtain ⟨takes, restarts⟩ := last event mem_cons_self
        rw [← append_assoc, numbersTaken_append, ih earlier, takes, restarts]
        simp
    rw [quiet _ still, next, old]
  | @emits packet n sent here number =>
    have next := allowed.numbered.resolve_left (by rw [number]; exact nofun)
    have same : n = (l.space space).nextPacketNumber := Option.some.inj (number.symm.trans (here ▸ next))
    have taken : numbersTaken space (l.history ++ [.emitted packet]) =
        range ((l.space space).nextPacketNumber + 1) := by
      rw [numbersTaken_append, old, range_succ]
      simp [Event.restarts, Event.takes, here, number, same]
    cases sent <;> exact taken
  | records sent =>
    change numbersTaken space (l.history ++ [.recorded space sent.packetNumber sent.bytes]) =
      range ((l.space space).nextPacketNumber + 1)
    rw [numbersTaken_append, old, range_succ]
    simp [Event.restarts, Event.takes, allowed.1]
  | acknowledges gone confirmed | loses gone =>
    rw [events, numbersTaken_append, old]
    simp [Event.restarts, Event.takes, SpaceLedger.leave]
  | clears =>
    rw [events, numbersTaken_append, old]
    simp [Event.restarts, Event.takes, SpaceLedger.clear]
  | restarts initial =>
    subst initial
    rw [events, numbersTaken_append]
    simp [Event.restarts, SpaceLedger.restart]

theorem LedgerEntry.Allowed.listed_or_taken (allowed : entry.Allowed rule l)
    {packet : SentPacket} (mem : packet ∈ ((entry.apply l).space space).sent) :
    packet ∈ (l.space space).sent ∨ packet.packetNumber = (l.space space).nextPacketNumber ∧
      ((entry.apply l).space space).nextPacketNumber = (l.space space).nextPacketNumber + 1 ∧
      ∃ event ∈ entry.events l, event.takes space = some packet.packetNumber := by
  generalize result : (entry.apply l).space space = s at mem ⊢
  have change := result ▸ allowed.flightChange space
  cases change with
  | same sent bytes next still => exact Or.inl (sent ▸ mem)
  | @emits emitted n sent here number =>
    cases sent with
    | none => exact Or.inl mem
    | some sent =>
      obtain ⟨own, -, -⟩ := allowed.listed sent rfl
      have next := allowed.numbered.resolve_left (by rw [number]; exact nofun)
      rcases mem_append.mp mem with old | new
      · exact Or.inl old
      · obtain rfl := mem_singleton.mp new
        refine Or.inr ⟨?_, rfl, _, mem_cons_self, ?_⟩
        · exact Option.some.inj (own.symm.trans (here ▸ next))
        · simp [Event.takes, here, own]
  | records sent =>
    rcases mem_append.mp mem with old | new
    · exact Or.inl old
    · obtain rfl := mem_singleton.mp new
      exact Or.inr ⟨allowed.1, rfl, _, mem_cons_self, by simp [Event.takes]⟩
  | acknowledges gone confirmed | loses gone => exact Or.inl (mem_filter.mp mem).1
  | clears | restarts initial => exact absurd mem not_mem_nil

def Ledger.Below (l : Ledger) : Prop :=
  ∀ space, ∀ packet ∈ (l.space space).sent, packet.packetNumber < (l.space space).nextPacketNumber

theorem Ledger.Below.step (entry : LedgerEntry) (h : l.Below) (allowed : entry.Allowed rule l) :
    (entry.apply l).Below := by
  intro space packet mem
  rcases allowed.listed_or_taken mem with old | ⟨number, next, -⟩
  · have below := h space packet old
    generalize result : (entry.apply l).space space = s at mem ⊢
    have change := result ▸ allowed.flightChange space
    cases change with
    | same sent bytes next still => exact next ▸ below
    | emits sent here number => cases sent <;> exact Nat.lt_succ_of_lt below
    | records sent => exact Nat.lt_succ_of_lt below
    | acknowledges gone confirmed | loses gone | clears => exact below
    | restarts initial => exact absurd mem not_mem_nil
  · omega

variable (side : ConnectionSide) (config : Config)

theorem fresh_below : (Connection.fresh side config).ledger.Below := by
  intro space packet mem
  cases space <;> exact absurd mem not_mem_nil

structure Numbered (l : Ledger) : Prop where
  taken : ∀ space, numbersTaken space l.history = range (l.space space).nextPacketNumber
  next : ∀ before event after space n, l.history = before ++ event :: after →
    event.takes space = some n → numbersTaken space before = range n

theorem Numbered.step {l : Ledger} (entry : LedgerEntry) (h : Numbered l)
    (allowed : entry.Allowed rule l) : Numbered (entry.apply l) := by
  refine ⟨fun space => allowed.takes_next (h.taken space), fun before event after space n whole takes => ?_⟩
  rw [history_apply] at whole
  rcases split_append whole with ⟨rest, old, rfl⟩ | ⟨front, rfl, new⟩
  · exact h.next before event rest space n old takes
  · have mem : event ∈ entry.events l := new ▸ mem_append_right _ mem_cons_self
    -- only a packet with a number takes one, and then it is the only event
    have single : entry.events l = [event] ∧ n = (l.space space).nextPacketNumber := by
      cases entry with
      | emits packet sent =>
        obtain rfl : event = .emitted packet := by simpa [events] using mem
        simp only [Event.takes] at takes
        split at takes
        · rename_i here
          have next := allowed.numbered.resolve_left (by rw [takes]; exact (by simp))
          exact ⟨rfl, Option.some.inj (takes.symm.trans (here ▸ next))⟩
        · exact absurd takes (by simp)
      | handsOut packet =>
        obtain rfl : event = .emitted packet := by simpa [events] using mem
        simp [Event.takes, allowed.2] at takes
      | records other sent =>
        obtain rfl : event = .recorded other sent.packetNumber sent.bytes := by
          simpa [events] using mem
        simp only [Event.takes] at takes
        split at takes
        · rename_i here
          subst here
          exact ⟨rfl, (Option.some.inj takes).symm.trans allowed.1⟩
        · exact absurd takes (by simp)
      | _ =>
        simp [events] at mem
        try (subst mem; simp [Event.takes] at takes)
    obtain rfl : front = [] := by
      have length := congrArg length (new.symm.trans single.1)
      simp only [length_append, length_cons, length_nil] at length
      exact length_eq_zero_iff.mp (by omega)
    rw [append_nil, h.taken, single.2]

theorem fresh_numbered : Numbered (Connection.fresh side config).ledger := by
  refine ⟨fun space => by cases space <;> rfl, fun before event after space n whole => ?_⟩
  exact absurd whole.symm (by simp [Connection.ledger, Connection.fresh])

theorem numbersTaken_mem {before between : List Event} {event : Event} {n : Nat}
    (takes : event.takes space = some n) (still : ∀ other ∈ between, other.restarts space = false) :
    n ∈ numbersTaken space (before ++ event :: between) := by
  induction between using reverseRecOn with
  | nil =>
    have going : event.restarts space = false := by
      cases event <;> first | rfl | simp [Event.takes] at takes
    rw [numbersTaken_append, going, takes]
    simp
  | append_singleton front last ih =>
    obtain ⟨earlier, now⟩ := forall_mem_append.mp still
    rw [← cons_append, ← append_assoc, numbersTaken_append, now last mem_cons_self]
    simp [ih earlier]

/-- Over every run the numbers that are taken in a space strictly increase, except that a Retry
reset starts the Initial numbers again. -/
theorem packet_numbers_increase {c : Connection} (reached : Reachable c) {before between after : List Event}
    {first second : Event} {space : PacketNumberSpace} {m n : Nat}
    (history : c.history = before ++ first :: (between ++ second :: after))
    (taken : first.takes space = some m) (later : second.takes space = some n)
    (still : space = .initial → .restarted ∉ between) : m < n := by
  obtain ⟨side, config, -, evolved⟩ := reached.evolved
  have numbered : Numbered c.ledger :=
    evolved.ledger.preserves (fun _ entry => Numbered.step entry) (fresh_numbered side config)
  have whole : c.history = (before ++ first :: between) ++ second :: after := by rw [history]; simp
  have earlier := numbered.next _ second after space n whole later
  have going : ∀ other ∈ between, other.restarts space = false := by
    intro other mem
    by_contra restarts
    simp only [Event.restarts, Bool.not_eq_false, Bool.and_eq_true, beq_iff_eq] at restarts
    exact still restarts.2 (restarts.1 ▸ mem)
  have mem : m ∈ numbersTaken space (before ++ first :: between) := numbersTaken_mem taken going
  rw [earlier] at mem
  exact mem_range.mp mem

theorem packet_numbers_increase_ping :
    let c := run (.fresh .client {}) [.sendPingInSpace .application, .pollTx 0 1000,
      .sendPingInSpace .application, .pollTx 0 1000]
    c.history = [.emitted ⟨.application, some 0, [.ping], 1⟩, .emitted ⟨.application, some 1, [.ping], 1⟩] ∧
    0 < 1 := by
  intro c
  have reached : Reachable c := ⟨.client, {}, .fresh .client {}, _, rfl, throughout_true _ _, rfl⟩
  have history : c.history = [] ++ .emitted ⟨.application, some 0, [.ping], 1⟩ ::
      ([] ++ .emitted ⟨.application, some 1, [.ping], 1⟩ :: []) := rfl
  have taken : (Event.emitted ⟨.application, some 0, [.ping], 1⟩).takes .application = some 0 := rfl
  exact ⟨rfl, packet_numbers_increase reached history taken rfl nofun⟩

/-- After a Retry reset number 0 of the Initial space is used again. -/
theorem retry_reset_reuses_number :
    let calls : List Call := [.sendPingInSpace .initial, .pollTxInSpace .initial 0 1000,
      .resetInitialCryptoSendForRetry, .sendPingInSpace .initial, .pollTxInSpace .initial 0 1000]
    Connection.init .client {} = .ok (.fresh .client {}) ∧
    (returnedBy (.fresh .client {}) calls).flatMap Datagram.packets =
      [⟨.initial, some 0, [.ping], 1⟩, ⟨.initial, some 0, [.ping], 1⟩] :=
  ⟨rfl, rfl⟩

end Quicz
