import Quicz.Endpoint.Routes
import Mathlib.Order.OrderIsoNat

/-! What an endpoint answers without a connection: Version Negotiation packets and stateless resets. -/
namespace Quicz

open Proc EndpointRouter

variable {r : EndpointRouter} {path : UdpTuple} {datagram unpredictable : Bytes} {outLen : Nat}

/-- The route a datagram names. A long header carries the connection ID and a short header begins with
it; an empty one is known by the path. -/
def Route.Named (route : Route) (path : UdpTuple) (datagram : Bytes) : Prop :=
  if isLongHeader (datagram.headD 0) then
    peekLongDestinationConnectionId datagram = .ok route.destinationConnectionId.bytes ∧
      (route.destinationConnectionId.bytes = [] → route.path = path)
  else matchesShort path datagram route = true

structure Resets (r : EndpointRouter) (path : UdpTuple) (datagram reset : Bytes) : Prop where
  unnamed : ∀ route ∈ r.routes, ¬ route.Named path datagram
  shorter : reset.length < datagram.length
  short : isLongHeader (reset.headD 0) = false

structure Negotiates (datagram : Bytes) (versions : List Version) (ids : LongHeaderConnectionIds)
    (response : Bytes) : Prop where
  long : isLongHeader (datagram.headD 0) = true
  peeked : peekLongHeaderConnectionIds datagram = .ok ids
  nonzero : peekVersion datagram ≠ 0
  unsupported : peekVersion datagram ∉ versions
  whole : 7 + ids.dcid.length + ids.scid.length ≤ datagram.length
  exchanged : response = encodeVersionNegotiationPacket ids.scid ids.dcid versions

theorem init_returns (value : Bytes) : Returns (ConnectionId.init value) fun cid => cid.bytes = value := by
  unfold ConnectionId.init
  split
  · exact .pure rfl
  · rintro _ ⟨⟩

theorem findRouteIndexForPath_isSome_false {route : Route} (mem : route ∈ r.routes)
    (none : ¬ (r.findRouteIndexForPath route.destinationConnectionId path).isSome = true) :
    ¬ (route.destinationConnectionId.bytes = [] → route.path = path) := by
  intro here
  unfold findRouteIndexForPath at none
  split at none
  · rename_i empty
    exact findZeroLengthRouteIndex_isSome_false none route mem empty (here empty)
  · exact findRouteIndex_isSome_false none route mem rfl

theorem findShortRouteIndex_none (searched : r.findShortRouteIndex path datagram = .ok none) :
    ∀ route ∈ r.routes, ¬ matchesShort path datagram route = true := by
  rw [findShortRouteIndex, Slots.unique_eq] at searched
  split at searched
  · rename_i empty
    exact List.filter_eq_nil_iff.mp empty
  · cases searched
  · cases searched

theorem statelessResetTokenForDatagramAddress_unnamed :
    Returns (r.statelessResetTokenForDatagramAddress path datagram) fun token =>
      token.isSome = true → ∀ route ∈ r.routes, ¬ route.Named path datagram := by
  cases datagram with
  | nil => exact nofun
  | cons first rest =>
    refine .ite (fun long => .after fun _ => .ite (fun _ => .pure nofun) fun _ => ?_) fun short =>
      .ite (fun _ => .pure nofun) fun _ => ?_
    · refine .bind (fun _ peeked => peeked) fun dcid peeked => .bind (init_returns dcid) fun cid same =>
        .ite (fun _ => .pure nofun) fun unknown => .pure fun _ route mem named => ?_
      rw [Route.Named, List.headD_cons, if_pos long, peeked, ← same] at named
      cases ConnectionId.ext (Except.ok.inj named.1)
      exact findRouteIndexForPath_isSome_false mem unknown named.2
    · refine .bind (fun _ searched => searched) fun found searched => .ite (fun _ => .pure nofun) fun unknown =>
        .after fun _ => .pure fun _ route mem named => ?_
      rw [Option.not_isSome_iff_eq_none.mp unknown] at searched
      rw [Route.Named, List.headD_cons, if_neg short] at named
      exact findShortRouteIndex_none searched route mem named

theorem isStatelessResetPrefix_short {first : UInt8} {rest : Bytes}
    (starts : isStatelessResetPrefix (first :: rest) = true) : isLongHeader first = false := by
  have high : first &&& 0xc0 = 0x40 := by simpa [isStatelessResetPrefix] using starts
  have bit : first &&& 0x80 = (first &&& 0xc0) &&& 0x80 := by
    rw [UInt8.and_assoc]
    rfl
  rw [isLongHeader, bit, high]
  rfl

theorem writeStatelessResetForDatagramAddress_resets :
    Returns (r.writeStatelessResetForDatagramAddress outLen path datagram unpredictable) fun reply =>
      ∀ reset, reply = some reset → Resets r path datagram reset := by
  refine .bind statelessResetTokenForDatagramAddress_unnamed fun token unnamed => ?_
  cases token with
  | none => exact .pure nofun
  | some token =>
    refine .guard fun enough => .guard fun shorter => .guard fun _ => .pure ?_
    rintro _ ⟨⟩
    refine ⟨unnamed rfl, Nat.not_le.mp shorter, ?_⟩
    cases unpredictable with
    | nil => exact absurd (Or.inr rfl) enough
    | cons first rest => exact isStatelessResetPrefix_short (by simpa using (not_or.mp enough).2)

variable {versions : List Version}

theorem peekLongHeaderConnectionIds_returns : Returns (peekLongHeaderConnectionIds datagram) fun ids =>
      ids.version = peekVersion datagram ∧ 7 + ids.dcid.length + ids.scid.length ≤ datagram.length := by
  unfold peekLongHeaderConnectionIds
  refine .guard fun _ => .after fun dcid => ?_
  split
  · exact .throw _
  · refine .guard fun _ => .guard fun whole => .pure ⟨rfl, ?_⟩
    simp only [List.length_take, List.length_drop]
    omega

theorem writeVersionNegotiationForUnsupportedVersion_negotiates :
    Returns (writeVersionNegotiationForUnsupportedVersion outLen datagram versions) fun reply =>
      ∀ response, reply = some response → ∃ ids, Negotiates datagram versions ids response := by
  cases datagram with
  | nil => exact nofun
  | cons first rest =>
    refine .ite (fun _ => .pure nofun) fun long => .after fun _ => .bind (fun _ peeked => peeked) fun ids peeked =>
      .ite (fun _ => .pure nofun) fun new => .guard fun _ => .pure ?_
    obtain ⟨same, whole⟩ := peekLongHeaderConnectionIds_returns ids peeked
    rw [same, not_or] at new
    rintro _ ⟨⟩
    exact ⟨ids, by simp_all, peeked, new.1, new.2, whole, rfl⟩

def Replies (r : EndpointRouter) (path : UdpTuple) (datagram : Bytes) (versions : List Version) : DatagramAction → Prop
  | .versionNegotiation response => ∃ ids, Negotiates datagram versions ids response
  | .statelessReset reset => Resets r path datagram reset
  | _ => True

theorem handleDatagramAddress_replies (versions : List Version) :
    Returns (r.handleDatagramAddress outLen path datagram unpredictable) (Replies r path datagram versions) := by
  cases datagram with
  | nil => rintro _ ⟨⟩
  | cons first rest =>
    have unrouted : Returns (r.resetOrDrop outLen path (first :: rest) unpredictable)
        (Replies r path (first :: rest) versions) := by
      refine .bind writeStatelessResetForDatagramAddress_resets fun reply resets => ?_
      cases reply with
      | none => exact .pure trivial
      | some reset => exact .pure (resets reset rfl)
    simp only [handleDatagramAddress]
    refine .ite (fun _ => .after fun _ => .ite (fun _ => .pure trivial) fun _ => ?_) fun _ =>
      .after fun _ => .ite (fun _ => .pure trivial) fun _ => ?_
    all_goals
      split
      · exact .pure trivial
      · exact unrouted
      · exact .throw _

theorem handleDatagramWithVersionNegotiationAddress_replies :
    Returns (r.handleDatagramWithVersionNegotiationAddress outLen path datagram unpredictable versions)
      (Replies r path datagram versions) := by
  refine .bind writeVersionNegotiationForUnsupportedVersion_negotiates fun reply negotiates => ?_
  cases reply with
  | some response => exact .pure (negotiates response rfl)
  | none =>
    refine .bind (handleDatagramAddress_replies versions) fun action replies => ?_
    split
    · refine .after fun accept => ?_
      cases accept with
      | none | some => exact .pure trivial
    · exact .pure replies

def DatagramAction.reply : DatagramAction → Option Bytes
  | .versionNegotiation response => some response
  | .statelessReset reset => some reset
  | _ => none

/-- One datagram is what some endpoint answers, without a connection, to another. -/
def Elicits (datagram reply : Bytes) : Prop :=
  ∃ (r : EndpointRouter) (outLen : Nat) (path : UdpTuple) (unpredictable : Bytes) (versions : List Version)
    (action : DatagramAction),
    r.handleDatagramWithVersionNegotiationAddress outLen path datagram unpredictable versions = .ok action ∧
      action.reply = some reply

def Last (datagram : Bytes) : Prop := isLongHeader (datagram.headD 0) = false ∨ peekVersion datagram = 0

theorem Elicits.last {reply : Bytes} (elicits : Elicits datagram reply) :
    Last reply ∧ (Last datagram → reply.length < datagram.length) := by
  obtain ⟨r, outLen, path, unpredictable, versions, action, handled, replied⟩ := elicits
  have replies := handleDatagramWithVersionNegotiationAddress_replies action handled
  cases action with
  | routed | acceptInitial | dropped => cases replied
  | versionNegotiation response =>
    cases replied
    obtain ⟨ids, negotiates⟩ := replies
    refine ⟨negotiates.exchanged ▸ Or.inr rfl, ?_⟩
    rintro (short | zero)
    · cases short.symm.trans negotiates.long
    · exact absurd zero negotiates.nonzero
  | statelessReset reset =>
    cases replied
    exact ⟨Or.inl replies.short, fun _ => replies.shorter⟩

theorem elicits_end : ¬ ∃ exchange : Nat → Bytes, ∀ n, Elicits (exchange n) (exchange (n + 1)) := by
  rintro ⟨exchange, elicits⟩
  -- from the second datagram on each is shorter than the one before
  refine not_strictAnti_of_wellFoundedLT (fun n => (exchange (n + 1)).length) (strictAnti_nat_of_succ_lt fun n => ?_)
  exact (elicits (n + 1)).last.2 (elicits n).last.1

/-- A stateless reset answers only what names no route, and is shorter. A Version Negotiation packet answers
only a long header whose version is neither 0 nor supported, with the connection IDs exchanged; it is at most
three times the datagram exactly when the list of versions leaves it so. Replies to replies come to an end. -/
theorem stateless_replies_bounded (r : EndpointRouter) (outLen : Nat) (path : UdpTuple)
    (datagram unpredictable : Bytes) (versions : List Version) :
    let handled := r.handleDatagramWithVersionNegotiationAddress outLen path datagram unpredictable versions
    (∀ reset, handled = .ok (.statelessReset reset) → Resets r path datagram reset) ∧
    (∀ response, handled = .ok (.versionNegotiation response) → ∃ ids, Negotiates datagram versions ids response ∧
      (response.length ≤ 3 * datagram.length ↔
        7 + ids.dcid.length + ids.scid.length + 4 * versions.length ≤ 3 * datagram.length)) ∧
    ¬ ∃ exchange : Nat → Bytes, ∀ n, Elicits (exchange n) (exchange (n + 1)) := by
  refine ⟨fun reset handled => ?_, fun response handled => ?_, elicits_end⟩
  · exact handleDatagramWithVersionNegotiationAddress_replies _ handled
  · obtain ⟨ids, negotiates⟩ := handleDatagramWithVersionNegotiationAddress_replies _ handled
    refine ⟨ids, negotiates, ?_⟩
    have length : response.length = 7 + ids.dcid.length + ids.scid.length + 4 * versions.length := by
      simp [negotiates.exchanged, encodeVersionNegotiationPacket]
      omega
    rw [length]

/-- Seven bytes are answered with 23 when four versions are supported. -/
theorem negotiation_amplifies :
    let datagram := [0xc0, 0, 0, 0, 9, 0, 0]
    let response := encodeVersionNegotiationPacket [] [] [1, 2, 3, 4]
    EndpointRouter.handleDatagramWithVersionNegotiationAddress {} 100 0 datagram [] [1, 2, 3, 4] =
      .ok (.versionNegotiation response) ∧ ¬ response.length ≤ 3 * datagram.length :=
  ⟨rfl, by decide⟩

end Quicz
