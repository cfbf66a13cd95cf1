import Quicz.Endpoint.Router

/-! What the routing table keeps: its entries are told apart by connection ID, path and sequence
number, and a call that fails changes nothing. -/
namespace Quicz

open Proc List

variable {r t : EndpointRouter} {route : Route}

structure Route.Apart (a b : Route) : Prop where
  connectionId : a.destinationConnectionId = b.destinationConnectionId →
    a.destinationConnectionId.bytes = [] ∧ a.path ≠ b.path
  sequenceNumber : a.connectionId = b.connectionId → ∀ n, a.sequenceNumber = some n → b.sequenceNumber ≠ some n

/-- No connection ID has two tokens, and no token two connection IDs. -/
def StatelessResetRoute.Apart (a b : StatelessResetRoute) : Prop :=
  a.destinationConnectionId ≠ b.destinationConnectionId ∧ a.token ≠ b.token

theorem Route.Apart.symm {a b : Route} (apart : a.Apart b) : b.Apart a := by
  refine ⟨fun same => ?_, fun same n here there => apart.sequenceNumber same.symm n there here⟩
  obtain ⟨empty, other⟩ := apart.connectionId same.symm
  exact ⟨same ▸ empty, other.symm⟩

instance : Std.Symm Route.Apart := ⟨fun _ _ => Route.Apart.symm⟩

namespace EndpointRouter

structure Consistent (r : EndpointRouter) : Prop where
  routes : r.routes.Pairwise Route.Apart
  tokens : r.resetTokens.Pairwise StatelessResetRoute.Apart
  routeRoom : r.routes.length ≤ r.maxRoutes
  tokenRoom : r.resetTokens.length ≤ r.maxStatelessResetTokens

def SameLimits (r t : EndpointRouter) : Prop :=
  t.maxRoutes = r.maxRoutes ∧ t.maxStatelessResetTokens = r.maxStatelessResetTokens

variable {cid : ConnectionId} {path : UdpTuple} {index : Nat}

theorem findRouteIndex_isSome_false (none : ¬ (r.findRouteIndex cid).isSome = true) :
    ∀ other ∈ r.routes, other.destinationConnectionId ≠ cid := by
  have free := Slots.locate_none.mp (Option.not_isSome_iff_eq_none.mp none)
  exact fun other mem same => by simpa [same] using free other mem

theorem findZeroLengthRouteIndex_isSome_false (none : ¬ (r.findZeroLengthRouteIndex path).isSome = true) :
    ∀ other ∈ r.routes, other.destinationConnectionId.bytes = [] → other.path ≠ path := by
  have free := Slots.locate_none.mp (Option.not_isSome_iff_eq_none.mp none)
  exact fun other mem empty same => by simpa [empty, same] using free other mem

theorem findRouteIndexForPath_some (found : r.findRouteIndexForPath cid path = some (index, route)) :
    (∃ front back, r.routes = front ++ route :: back ∧ index = front.length) ∧
      route.destinationConnectionId.bytes = cid.bytes ∧ (cid.bytes = [] → route.path = path) := by
  unfold findRouteIndexForPath at found
  split at found
  · rename_i empty
    obtain ⟨front, back, table, place, meets, -⟩ := Slots.locate_some found
    obtain ⟨bytes, same⟩ := of_decide_eq_true meets
    exact ⟨⟨front, back, table, place⟩, bytes.trans empty.symm, fun _ => same⟩
  · rename_i nonempty
    obtain ⟨front, back, table, place, meets, -⟩ := Slots.locate_some found
    exact ⟨⟨front, back, table, place⟩, congrArg _ (of_decide_eq_true meets), fun empty => absurd empty nonempty⟩

theorem findRouteIndexForPath_of_mem (consistent : r.Consistent) (mem : route ∈ r.routes) :
    ∃ index, r.findRouteIndexForPath route.destinationConnectionId route.path = some (index, route) := by
  have only : ∀ other ∈ r.routes, other.destinationConnectionId = route.destinationConnectionId →
      (route.destinationConnectionId.bytes = [] → other.path = route.path) → other = route := by
    intro other there same samePath
    by_contra differs
    obtain ⟨empty, otherPath⟩ := (consistent.routes.forall there mem differs).connectionId same
    exact otherPath (samePath (same ▸ empty))
  unfold findRouteIndexForPath
  split
  · rename_i empty
    refine Slots.locate_of_mem mem (by simp [empty]) fun other there meets => ?_
    obtain ⟨otherEmpty, samePath⟩ := of_decide_eq_true meets
    refine only other there ?_ fun _ => samePath
    cases h : other.destinationConnectionId
    cases k : route.destinationConnectionId
    simp_all
  · rename_i nonempty
    refine Slots.locate_of_mem mem (by simp) fun other there meets => ?_
    exact only other there (of_decide_eq_true meets) fun empty => absurd empty nonempty

theorem resultForRoute_path (route : Route) : resultForRoute route route.path =
    .ok ⟨route.connectionId, route.sequenceNumber, route.destinationConnectionId, false⟩ := by
  simp [resultForRoute]

theorem init_bytes (cid : ConnectionId) : ConnectionId.init cid.bytes = .ok cid := by
  simp [ConnectionId.init, cid.fits]

theorem routeConnectionIdAddress_of_mem (consistent : r.Consistent) (mem : route ∈ r.routes) :
    r.routeConnectionIdAddress route.destinationConnectionId.bytes route.path =
      .ok ⟨route.connectionId, route.sequenceNumber, route.destinationConnectionId, false⟩ := by
  obtain ⟨index, found⟩ := findRouteIndexForPath_of_mem consistent mem
  rw [routeConnectionIdAddress, init_bytes]
  simp only [bind, Except.bind, found]
  exact resultForRoute_path route

theorem Consistent.sublist (consistent : r.Consistent) {routes : List Route} (fewer : routes.Sublist r.routes) :
    Consistent { r with routes } :=
  ⟨consistent.routes.sublist fewer, consistent.tokens, fewer.length_le.trans consistent.routeRoom,
    consistent.tokenRoom⟩

theorem Consistent.replace (consistent : r.Consistent) {front back : List Route} {new : Route}
    (table : r.routes = front ++ route :: back) (apart : ∀ other ∈ front ++ back, new.Apart other) :
    Consistent { r with routes := r.routes.set front.length new } := by
  have routes := consistent.routes
  have room := consistent.routeRoom
  rw [table] at routes
  refine ⟨?_, consistent.tokens, by rwa [length_set], consistent.tokenRoom⟩
  rw [table, Slots.set_at]
  exact Slots.pairwise_set Route.Apart.symm routes apart

theorem Consistent.withToken (consistent : r.Consistent) {token : Bytes}
    (allowed : r.ensureTokenAllowed cid (some token) = .ok ()) : (r.withStatelessResetToken cid token).Consistent := by
  simp only [ensureTokenAllowed, bind, Except.bind, ensureStatelessResetTokenAllowed] at allowed
  split at allowed
  · cases allowed
  · rename_i distinct
    split at distinct
    · cases distinct
    · rename_i agree
      unfold withStatelessResetToken
      split
      · exact consistent
      · rename_i unknown
        have free := Slots.locate_none.mp (Option.not_isSome_iff_eq_none.mp unknown)
        refine ⟨consistent.routes, Slots.pairwise_concat consistent.tokens fun other mem => ?_,
          consistent.routeRoom, ?_⟩
        · have fresh : other.destinationConnectionId ≠ cid := of_decide_eq_false (free other mem)
          refine ⟨fresh, fun same => agree ?_⟩
          exact any_eq_true.mpr ⟨other, mem, by simp [fresh, same]⟩
        · unfold ensureStatelessResetTokenRoom at allowed
          split at allowed
          · cases allowed
          · rename_i room
            rw [Option.isNone_iff_eq_none, not_and, Nat.not_le] at room
            rw [length_append]
            exact room (Option.not_isSome_iff_eq_none.mp unknown)

structure Registers (r t : EndpointRouter) (route : Route) : Prop where
  consistent : t.Consistent
  limits : r.SameLimits t
  routes : t.routes = r.routes ++ [route]
  apart : ∀ other ∈ r.routes, other.Apart route

theorem Registers.mem (registers : r.Registers t route) : route ∈ t.routes := by
  rw [registers.routes]
  exact mem_append_right _ mem_cons_self

theorem Registers.mem_eraseIdx (registers : r.Registers t route) (inside : index < r.routes.length) :
    route ∈ t.routes.eraseIdx index := by
  rw [registers.routes, eraseIdx_append_of_lt_length inside]
  exact mem_append_right _ mem_cons_self

theorem ensured_apart {connectionId : Nat} {options : RouteOptions}
    (free : r.ensureConnectionIdAllowed cid path options = .ok ())
    (unused : r.ensureSequenceNumberAllowed connectionId options.sequenceNumber = .ok ()) : ∀ other ∈ r.routes,
      other.Apart ⟨connectionId, options.sequenceNumber, cid, path, options.activeMigrationDisabled⟩ := by
  intro other mem
  constructor
  · intro same
    unfold ensureConnectionIdAllowed at free
    split at free
    · rename_i empty
      have bytes : other.destinationConnectionId.bytes = [] := same ▸ empty
      split at free
      · cases free
      · split at free
        · cases free
        · rename_i unknown
          exact ⟨bytes, findZeroLengthRouteIndex_isSome_false unknown other mem bytes⟩
    · split at free
      · cases free
      · rename_i unknown
        exact absurd same (findRouteIndex_isSome_false unknown other mem)
  · intro same n has new
    have taken : options.sequenceNumber = some n := new
    rw [taken, ensureSequenceNumberAllowed] at unused
    split at unused
    · cases unused
    · rename_i unknown
      have none := Slots.locate_none.mp (Option.not_isSome_iff_eq_none.mp unknown) other mem
      simp [same, has] at none

/-- A registration adds the route, and its token if there is one; otherwise nothing changes. -/
theorem registerConnectionIdAddress_spec (consistent : r.Consistent) (connectionId : Nat)
    (destinationConnectionId : Bytes) (path : UdpTuple) (options : RouteOptions) :
    wp (registerConnectionIdAddress connectionId destinationConnectionId path options)
      (fun _ t => ∃ cid, ConnectionId.init destinationConnectionId = .ok cid ∧
        r.Registers t ⟨connectionId, options.sequenceNumber, cid, path, options.activeMigrationDisabled⟩ ∧
        (options.statelessResetToken = none → t.resetTokens = r.resetTokens)) (fun _ t => t = r) r := by
  simp only [registerConnectionIdAddress, wp_bind, wp_lift, wp_get, wp_failIf, wp_set, implies_true, true_and, and_true]
  intro cid named _ free _ unused _ allowed room
  have apart := ensured_apart free unused
  have added : Consistent { r with routes := r.routes ++
      [⟨connectionId, options.sequenceNumber, cid, path, options.activeMigrationDisabled⟩] } :=
    ⟨Slots.pairwise_concat consistent.routes apart, consistent.tokens, by
      rw [length_append]; exact Nat.not_le.mp room, consistent.tokenRoom⟩
  cases given : options.statelessResetToken with
  | none => exact ⟨cid, named, ⟨added, ⟨rfl, rfl⟩, rfl, apart⟩, fun _ => rfl⟩
  | some token =>
    rw [given] at allowed
    have kept : ∀ s : EndpointRouter, (s.withStatelessResetToken cid token).routes = s.routes ∧
        s.SameLimits (s.withStatelessResetToken cid token) := by
      intro s
      unfold withStatelessResetToken
      split <;> exact ⟨rfl, rfl, rfl⟩
    exact ⟨cid, named, ⟨added.withToken allowed, (kept _).2, (kept _).1, apart⟩, by simp⟩

variable {α β : Type} {m : RouterM α}

def Safe (m : RouterM α) : Prop :=
  ∀ r, r.Consistent → wp m (fun _ t => t.Consistent ∧ r.SameLimits t) (fun _ t => t = r) r

variable (connectionId : Nat) (destinationConnectionId : Bytes) (path : UdpTuple)

theorem registerConnectionIdAddress_safe (options : RouteOptions) :
    Safe (registerConnectionIdAddress connectionId destinationConnectionId path options) :=
  fun _ consistent => wp_mono (registerConnectionIdAddress_spec consistent _ _ _ _)
    (fun _ _ ⟨_, _, registers, _⟩ => ⟨registers.consistent, registers.limits⟩)

theorem registerClientInitialSourceConnectionIdAddress_safe (clientSourceConnectionId : Bytes)
    (activeMigrationDisabled : Bool) :
    Safe (registerClientInitialSourceConnectionIdAddress connectionId clientSourceConnectionId path
      activeMigrationDisabled) := by
  intro r consistent
  simp only [registerClientInitialSourceConnectionIdAddress, wp_bind, wp_get, wp_lift]
  refine wp_mono (registerConnectionIdAddress_spec consistent _ _ _ _) (fun _ t h => ?_)
  obtain ⟨cid, named, registers, -⟩ := h
  refine ⟨fun _ _ => ⟨registers.consistent, registers.limits⟩, fun e fails => ?_⟩
  -- the new route is found at once
  have found := routeConnectionIdAddress_of_mem registers.consistent registers.mem
  unfold ConnectionId.init at named
  split at named
  · cases named
    cases found.symm.trans fails
  · cases named

theorem registerStatelessResetToken_safe (destinationConnectionId token : Bytes) :
    Safe (registerStatelessResetToken destinationConnectionId token) := by
  intro r consistent
  simp only [registerStatelessResetToken, registerStatelessResetTokenForCid, wp_bind, wp_lift, wp_get, wp_failIf,
    wp_modify, implies_true, true_and, and_true]
  refine fun cid named _ _ allowed => ⟨consistent.withToken allowed, ?_⟩
  unfold withStatelessResetToken
  split <;> exact ⟨rfl, rfl⟩

theorem safe_erase {found : Option (Nat × Route)} : ∀ r : EndpointRouter, r.Consistent → wp (match found with
      | none => (pure false : RouterM Bool)
      | some (index, _) => do
        set { r with routes := r.routes.eraseIdx index }
        pure true)
      (fun _ t => t.Consistent ∧ r.SameLimits t) (fun _ t => t = r) r := by
  intro r consistent
  cases found with
  | none => exact ⟨consistent, rfl, rfl⟩
  | some entry => exact ⟨consistent.sublist (eraseIdx_sublist _ _), rfl, rfl⟩

theorem retireConnectionId_safe : Safe (retireConnectionId destinationConnectionId) := by
  intro r consistent
  simp only [retireConnectionId, wp_bind, wp_lift, wp_failIf, wp_get, implies_true, true_and, and_true]
  exact fun cid _ _ => safe_erase r consistent

theorem retireConnectionIdOnPathAddress_safe :
    Safe (retireConnectionIdOnPathAddress destinationConnectionId path) := by
  intro r consistent
  simp only [retireConnectionIdOnPathAddress, wp_bind, wp_lift, wp_get]
  exact ⟨fun cid _ => safe_erase r consistent, fun _ _ => trivial⟩

theorem retireConnectionIdSequence_safe (connectionId sequenceNumber : Nat) :
    Safe (retireConnectionIdSequence connectionId sequenceNumber) :=
  fun r consistent => safe_erase r consistent

theorem retireRoutesWhere_safe (retired : Route → Bool) : Safe (retireRoutesWhere retired) :=
  fun _ consistent => ⟨consistent.sublist filter_sublist, rfl, rfl⟩

variable {front back : List Route}

theorem Registers.last (registers : r.Registers t route)
    (table : t.routes = front ++ route :: back) : front = r.routes ∧ back = [] := by
  have new : route ∉ r.routes := fun mem => ((registers.apart route mem).connectionId rfl).2 rfl
  rw [registers.routes] at table
  rcases eq_nil_or_concat back with rfl | ⟨rest, last, rfl⟩
  · exact ⟨(append_inj' table rfl).1.symm, rfl⟩
  · have earlier : r.routes = front ++ route :: rest := by
      rw [concat_eq_append, ← cons_append, ← append_assoc] at table
      exact (append_inj' table rfl).1
    exact absurd (earlier ▸ mem_append_right _ mem_cons_self) new

theorem undo_registration (registers : r.Registers t route) (tokens : t.resetTokens = r.resetTokens) :
    after (retireConnectionIdOnPathAddress route.destinationConnectionId.bytes route.path) t = r := by
  obtain ⟨index, found⟩ := findRouteIndexForPath_of_mem registers.consistent registers.mem
  obtain ⟨⟨front, back, table, rfl⟩, -, -⟩ := findRouteIndexForPath_some found
  obtain ⟨rfl, rfl⟩ := registers.last table
  have removed : t.routes.eraseIdx r.routes.length = r.routes := by
    rw [table, Slots.eraseIdx_at, append_nil]
  obtain ⟨routeLimit, tokenLimit⟩ := registers.limits
  refine wp_after (I := (· = r)) ?_
  simp only [retireConnectionIdOnPathAddress, init_bytes, wp_bind, wp_lift, wp_get, Except.ok.injEq, forall_eq',
    found, wp_set, wp_pure, removed, tokens, routeLimit, tokenLimit]
  exact ⟨trivial, by simp⟩

theorem registerAcceptedInitialConnectionIds_safe (initialAccept : InitialAcceptResult)
    (serverSourceConnectionId : Bytes) (activeMigrationDisabled : Bool) (statelessResetToken : Option Bytes) :
    Safe (registerAcceptedInitialConnectionIds connectionId initialAccept serverSourceConnectionId
      activeMigrationDisabled statelessResetToken) := by
  intro r consistent
  simp only [registerAcceptedInitialConnectionIds, wp_bind, wp_lift, wp_failIf, wp_onError, wp_get, wp_pure, implies_true,
    true_and, and_true]
  refine fun original _ _ server _ => wp_mono (registerConnectionIdAddress_spec consistent _ _ _ _) (fun _ t h => ?_)
  obtain ⟨cid, named, first, tokens⟩ := h
  cases (init_bytes original).symm.trans named
  refine wp_mono (registerConnectionIdAddress_spec first.consistent _ _ _ _) (fun _ u h => ?_) fun _ u same => ?_
  · obtain ⟨cid, named, second, -⟩ := h
    cases (init_bytes server).symm.trans named
    -- both routes are in the table, so that neither lookup fails
    have kept : _ ∈ u.routes := second.routes ▸ mem_append_left _ first.mem
    have here := routeConnectionIdAddress_of_mem second.consistent kept
    have there := routeConnectionIdAddress_of_mem second.consistent second.mem
    refine ⟨fun _ _ => ⟨fun _ _ => ⟨second.consistent, ?_⟩, fun _ fails => ?_⟩, fun _ fails => ?_⟩
    · exact ⟨second.limits.1.trans first.limits.1, second.limits.2.trans first.limits.2⟩
    · cases there.symm.trans fails
    · cases here.symm.trans fails
  · subst same
    exact undo_registration first (tokens rfl)

theorem registerReplacementConnectionIdAddress_safe (sequenceNumber retirePriorTo : Nat)
    (activeMigrationDisabled : Bool) (statelessResetToken : Option Bytes) :
    Safe (registerReplacementConnectionIdAddress connectionId destinationConnectionId path sequenceNumber
      retirePriorTo activeMigrationDisabled statelessResetToken) := by
  intro r consistent
  simp only [registerReplacementConnectionIdAddress, wp_bind, wp_failIf, wp_pure, implies_true, true_and]
  exact fun _ => wp_mono (registerConnectionIdAddress_safe _ _ _ _ r consistent)
    (fun _ t h => ⟨h.1.sublist filter_sublist, h.2⟩)

theorem commitPreferredAddressMigrationAddress_safe (currentDestinationConnectionId : Bytes)
    (currentPath : UdpTuple) (preferredDestinationConnectionId : Bytes) (preferredPath : UdpTuple)
    (preferredStatelessResetToken : Bytes) :
    Safe (commitPreferredAddressMigrationAddress currentDestinationConnectionId currentPath
      preferredDestinationConnectionId preferredPath preferredStatelessResetToken) := by
  intro r consistent
  simp only [commitPreferredAddressMigrationAddress, wp_bind, wp_lift, wp_failIf, wp_get, wp_orThrow, wp_modify,
    implies_true, true_and, and_true]
  rintro current _ preferred _ _ ⟨index, route⟩ found _
  refine wp_mono (registerConnectionIdAddress_spec consistent _ _ _ _) (fun _ t h => ?_)
  obtain ⟨cid, named, registers, -⟩ := h
  cases (init_bytes preferred).symm.trans named
  obtain ⟨⟨front, back, table, rfl⟩, -, -⟩ := findRouteIndexForPath_some found
  have left : Consistent { t with routes := t.routes.eraseIdx front.length } :=
    registers.consistent.sublist (eraseIdx_sublist _ _)
  have inside : front.length < r.routes.length := by simp [table]
  obtain ⟨place, looked⟩ := findRouteIndexForPath_of_mem left (registers.mem_eraseIdx inside)
  refine ⟨fun entry again => ?_, fun lost => ?_⟩
  · cases looked.symm.trans again
    exact ⟨fun _ _ => ⟨left, registers.limits⟩, fun _ fails => by cases (resultForRoute_path _).symm.trans fails⟩
  · cases looked.symm.trans lost

theorem Consistent.middle_apart {r : EndpointRouter} (consistent : r.Consistent)
    (table : r.routes = front ++ route :: back) : ∀ other ∈ front ++ back, route.Apart other := by
  have routes := consistent.routes
  rw [table, pairwise_middle Route.Apart.symm, pairwise_cons] at routes
  exact routes.1

theorem others_apart {r : EndpointRouter} (consistent : r.Consistent) (table : r.routes = front ++ route :: back)
    {path : UdpTuple}
    (free : ¬ (r.findRouteIndexForPath cid path).any (fun entry => decide (entry.1 ≠ front.length)) = true) :
    ∀ other ∈ front ++ back, other.destinationConnectionId = cid → cid.bytes = [] ∧ other.path ≠ path := by
  intro other mem same
  have apart : route.Apart other := consistent.middle_apart table other mem
  have there : other ∈ r.routes := by
    rw [table]
    rcases mem_append.mp mem with before | behind
    · exact mem_append_left _ before
    · exact mem_append_right _ (mem_cons_of_mem _ behind)
  cases found : r.findRouteIndexForPath cid path with
  | none =>
    unfold findRouteIndexForPath at found
    split at found
    · rename_i empty
      have none := Slots.locate_none.mp found other there
      refine ⟨empty, fun here => ?_⟩
      simp [same, empty, here] at none
    · have none := Slots.locate_none.mp found other there
      simp [same] at none
  | some entry =>
    obtain ⟨index, first⟩ := entry
    obtain ⟨⟨front', back', table', rfl⟩, bytes, onPath⟩ := findRouteIndexForPath_some found
    have place : front'.length = front.length := by simpa [found] using free
    obtain ⟨-, rest⟩ := append_inj (table.symm.trans table') place.symm
    obtain ⟨rfl, -⟩ := cons.inj rest
    have own : route.destinationConnectionId = other.destinationConnectionId := by
      rw [same]
      exact ConnectionId.ext bytes
    obtain ⟨empty, otherPath⟩ := apart.connectionId own
    have none : cid.bytes = [] := bytes ▸ empty
    exact ⟨none, fun here => otherPath ((onPath none).trans here.symm)⟩

theorem switchInitialDestinationConnectionIdAfterRetryAddress_safe (originalDestinationConnectionId
    retrySourceConnectionId : Bytes) :
    Safe (switchInitialDestinationConnectionIdAfterRetryAddress originalDestinationConnectionId
      retrySourceConnectionId path) := by
  intro r consistent
  simp only [switchInitialDestinationConnectionIdAfterRetryAddress, wp_bind, wp_lift, wp_failIf, wp_get, wp_orThrow,
    wp_set, implies_true, true_and, and_true]
  rintro original _ retry _ ⟨index, route⟩ found onPath unnumbered free
  obtain ⟨⟨front, back, table, rfl⟩, -, -⟩ := findRouteIndexForPath_some found
  obtain rfl := Decidable.not_not.mp onPath
  have switched : Consistent { r with
      routes := r.routes.set front.length { route with destinationConnectionId := retry } } := by
    refine consistent.replace table fun other mem => ⟨fun same => ?_, fun _ n has => ?_⟩
    · obtain ⟨empty, otherPath⟩ := others_apart consistent table free other mem same.symm
      exact ⟨empty, otherPath.symm⟩
    · rw [Option.not_isSome_iff_eq_none.mp unnumbered] at has
      cases has
  refine ⟨fun _ _ => ⟨switched, rfl, rfl⟩, fun _ fails => ?_⟩
  cases (resultForRoute_path { route with destinationConnectionId := retry }).symm.trans fails

theorem updateRoutePathAddress_safe (currentPath newPath : UdpTuple) :
    Safe (updateRoutePathAddress destinationConnectionId currentPath newPath) := by
  intro r consistent
  simp only [updateRoutePathAddress, wp_bind, wp_lift, wp_failIf, wp_get, wp_orThrow, wp_set, implies_true, true_and,
    and_true]
  rintro cid _ ⟨index, route⟩ found _ _ free
  obtain ⟨⟨front, back, table, rfl⟩, bytes, -⟩ := findRouteIndexForPath_some found
  have moved : (r.moveRoute front.length route newPath).Consistent := by
    refine consistent.replace table fun other mem =>
      ⟨fun same => ?_, (consistent.middle_apart table other mem).sequenceNumber⟩
    obtain ⟨empty, otherPath⟩ := (consistent.middle_apart table other mem).connectionId same
    refine ⟨empty, fun here => ?_⟩
    have away : route.path ≠ newPath := fun stays => otherPath (stays.trans here)
    have unlisted : ¬ (r.findZeroLengthRouteIndex newPath).any (fun entry => decide (entry.1 ≠ front.length)) = true :=
      fun listed => free ⟨bytes ▸ empty, away, listed⟩
    have lookup : r.findRouteIndexForPath route.destinationConnectionId newPath = r.findZeroLengthRouteIndex newPath :=
      if_pos empty
    rw [← lookup] at unlisted
    exact (others_apart consistent table unlisted other mem same.symm).2 here.symm
  refine ⟨fun _ _ => ⟨moved, rfl, rfl⟩, fun _ fails => ?_⟩
  cases (resultForRoute_path { route with path := newPath }).symm.trans fails

theorem updateRoutePathFromValidatedDatagramAddress_safe (newPath : UdpTuple) :
    Safe (updateRoutePathFromValidatedDatagramAddress destinationConnectionId newPath) := by
  intro r consistent
  simp only [updateRoutePathFromValidatedDatagramAddress, wp_bind, wp_lift, wp_failIf, wp_get, wp_orThrow, wp_set,
    implies_true, true_and, and_true]
  rintro cid _ nonempty ⟨index, route⟩ found _
  obtain ⟨front, back, table, rfl, meets, -⟩ := Slots.locate_some found
  have own : route.destinationConnectionId = cid := of_decide_eq_true meets
  have apart := consistent.middle_apart table
  have moved : (r.moveRoute front.length route newPath).Consistent := by
    refine consistent.replace table fun other mem => ⟨fun same => ?_, (apart other mem).sequenceNumber⟩
    exact absurd (own ▸ ((apart other mem).connectionId same).1) nonempty
  refine ⟨fun _ _ => ⟨moved, rfl, rfl⟩, fun _ fails => ?_⟩
  cases (resultForRoute_path { route with path := newPath }).symm.trans fails

end EndpointRouter

inductive RouterCall
  | registerConnectionId (connectionId : Nat) (destinationConnectionId : Bytes) (path : UdpTuple)
      (options : RouteOptions)
  | registerClientInitialSourceConnectionId (connectionId : Nat) (clientSourceConnectionId : Bytes)
      (path : UdpTuple) (activeMigrationDisabled : Bool)
  | registerAcceptedInitialConnectionIds (connectionId : Nat) (initialAccept : InitialAcceptResult)
      (serverSourceConnectionId : Bytes) (activeMigrationDisabled : Bool) (statelessResetToken : Option Bytes)
  | registerStatelessResetToken (destinationConnectionId token : Bytes)
  | retireConnectionId (destinationConnectionId : Bytes)
  | retireConnectionIdOnPath (destinationConnectionId : Bytes) (path : UdpTuple)
  | retireConnectionIdSequence (connectionId sequenceNumber : Nat)
  | retireConnectionIdSequencesBefore (connectionId retirePriorTo : Nat)
  | retireConnectionRoutes (connectionId : Nat)
  | registerReplacementConnectionId (connectionId : Nat) (destinationConnectionId : Bytes) (path : UdpTuple)
      (sequenceNumber retirePriorTo : Nat) (activeMigrationDisabled : Bool) (statelessResetToken : Option Bytes)
  | switchInitialDestinationConnectionIdAfterRetry (originalDestinationConnectionId
      retrySourceConnectionId : Bytes) (path : UdpTuple)
  | commitPreferredAddressMigration (currentDestinationConnectionId : Bytes) (currentPath : UdpTuple)
      (preferredDestinationConnectionId : Bytes) (preferredPath : UdpTuple) (preferredStatelessResetToken : Bytes)
  | updateRoutePath (destinationConnectionId : Bytes) (currentPath newPath : UdpTuple)
  | updateRoutePathFromValidatedDatagram (destinationConnectionId : Bytes) (newPath : UdpTuple)

open EndpointRouter in
def RouterCall.perform : RouterCall → RouterM Unit
  | registerConnectionId connectionId dcid path options => registerConnectionIdAddress connectionId dcid path options
  | registerClientInitialSourceConnectionId connectionId scid path disabled => do
    let _ ← registerClientInitialSourceConnectionIdAddress connectionId scid path disabled
  | registerAcceptedInitialConnectionIds connectionId initial scid disabled token => do
    let _ ← EndpointRouter.registerAcceptedInitialConnectionIds connectionId initial scid disabled token
  | registerStatelessResetToken dcid token => EndpointRouter.registerStatelessResetToken dcid token
  | retireConnectionId dcid => do let _ ← EndpointRouter.retireConnectionId dcid
  | retireConnectionIdOnPath dcid path => do let _ ← retireConnectionIdOnPathAddress dcid path
  | retireConnectionIdSequence connectionId n => do let _ ← EndpointRouter.retireConnectionIdSequence connectionId n
  | retireConnectionIdSequencesBefore connectionId n => do
    let _ ← EndpointRouter.retireConnectionIdSequencesBefore connectionId n
  | retireConnectionRoutes connectionId => do let _ ← EndpointRouter.retireConnectionRoutes connectionId
  | registerReplacementConnectionId connectionId dcid path n retirePriorTo disabled token => do
    let _ ← registerReplacementConnectionIdAddress connectionId dcid path n retirePriorTo disabled token
  | switchInitialDestinationConnectionIdAfterRetry original retry path => do
    let _ ← switchInitialDestinationConnectionIdAfterRetryAddress original retry path
  | commitPreferredAddressMigration current currentPath preferred preferredPath token => do
    let _ ← commitPreferredAddressMigrationAddress current currentPath preferred preferredPath token
  | updateRoutePath dcid currentPath newPath => do let _ ← updateRoutePathAddress dcid currentPath newPath
  | updateRoutePathFromValidatedDatagram dcid newPath => do
    let _ ← updateRoutePathFromValidatedDatagramAddress dcid newPath

variable (call : RouterCall)

def RouterCall.next (r : EndpointRouter) : EndpointRouter := after call.perform r

def routeAll (r : EndpointRouter) (calls : List RouterCall) : EndpointRouter :=
  calls.foldl (fun r call => call.next r) r

namespace EndpointRouter

theorem Safe.discard {α : Type} {m : RouterM α} (safe : Safe m) : Safe (do let _ ← m) := by
  intro r consistent
  rw [wp_bind]
  exact safe r consistent

end EndpointRouter

open EndpointRouter in
theorem RouterCall.safe : Safe call.perform := by
  cases call with
  | registerConnectionId => exact registerConnectionIdAddress_safe _ _ _ _
  | registerClientInitialSourceConnectionId =>
    exact (registerClientInitialSourceConnectionIdAddress_safe _ _ _ _).discard
  | registerAcceptedInitialConnectionIds => exact (registerAcceptedInitialConnectionIds_safe _ _ _ _ _).discard
  | registerStatelessResetToken => exact registerStatelessResetToken_safe _ _
  | retireConnectionId => exact (retireConnectionId_safe _).discard
  | retireConnectionIdOnPath => exact (retireConnectionIdOnPathAddress_safe _ _).discard
  | retireConnectionIdSequence => exact (retireConnectionIdSequence_safe _ _).discard
  | retireConnectionIdSequencesBefore | retireConnectionRoutes => exact (retireRoutesWhere_safe _).discard
  | registerReplacementConnectionId => exact (registerReplacementConnectionIdAddress_safe _ _ _ _ _ _ _).discard
  | switchInitialDestinationConnectionIdAfterRetry =>
    exact (switchInitialDestinationConnectionIdAfterRetryAddress_safe _ _ _).discard
  | commitPreferredAddressMigration => exact (commitPreferredAddressMigrationAddress_safe _ _ _ _ _).discard
  | updateRoutePath => exact (updateRoutePathAddress_safe _ _ _).discard
  | updateRoutePathFromValidatedDatagram => exact (updateRoutePathFromValidatedDatagramAddress_safe _ _).discard

open EndpointRouter in
theorem RouterCall.next_consistent {r : EndpointRouter} (consistent : r.Consistent) :
    (call.next r).Consistent ∧ r.SameLimits (call.next r) := by
  refine wp_after (I := fun t => t.Consistent ∧ r.SameLimits t) (wp_mono (call.safe r consistent) (fun _ _ h => h) ?_)
  rintro _ _ rfl
  exact ⟨consistent, rfl, rfl⟩

theorem routeAll_consistent {r : EndpointRouter} (consistent : r.Consistent) (calls : List RouterCall) :
    (routeAll r calls).Consistent ∧ r.SameLimits (routeAll r calls) := by
  induction calls generalizing r with
  | nil => exact ⟨consistent, rfl, rfl⟩
  | cons call rest ih =>
    obtain ⟨next, limits⟩ := call.next_consistent consistent
    obtain ⟨last, more⟩ := ih next
    exact ⟨last, more.1.trans limits.1, more.2.trans limits.2⟩

theorem empty_consistent (maxRoutes maxStatelessResetTokens : Nat) :
    EndpointRouter.Consistent { maxRoutes, maxStatelessResetTokens } :=
  ⟨.nil, .nil, Nat.zero_le _, Nat.zero_le _⟩

/-- In every run the routes are told apart by connection ID, empty ones by path, and each connection's by
sequence number; tokens and connection IDs belong to each other one to one; both tables stay within their
limits; and a call that fails changes neither. -/
theorem routing_table_consistent (maxRoutes maxStatelessResetTokens : Nat) (calls : List RouterCall) :
    let r := routeAll { maxRoutes, maxStatelessResetTokens } calls
    r.Consistent ∧ r.routes.length ≤ maxRoutes ∧ r.resetTokens.length ≤ maxStatelessResetTokens ∧
      ∀ (call : RouterCall) e t, call.perform r = .error e t → t = r := by
  obtain ⟨consistent, routeLimit, tokenLimit⟩ :=
    routeAll_consistent (empty_consistent maxRoutes maxStatelessResetTokens) calls
  refine ⟨consistent, consistent.routeRoom.trans routeLimit.le, consistent.tokenRoom.trans tokenLimit.le, ?_⟩
  intro call e t failed
  have safe := call.safe _ consistent
  rwa [wp, failed] at safe

variable {r : EndpointRouter}

def RouterCall.registersFor : RouterCall → Option Nat
  | registerConnectionId connectionId _ _ _ | registerClientInitialSourceConnectionId connectionId _ _ _
  | registerAcceptedInitialConnectionIds connectionId _ _ _ _
  | registerReplacementConnectionId connectionId _ _ _ _ _ _ => some connectionId
  | _ => none

namespace EndpointRouter

def Leaves {α : Type} (route : Route) (m : RouterM α) : Prop :=
  ∀ r, r.Consistent → route ∈ r.routes → route ∈ (after m r).routes

theorem Leaves.of_wp {α : Type} {m : RouterM α}
    (h : ∀ r, r.Consistent → route ∈ r.routes → wp m (fun _ t => route ∈ t.routes) (fun _ t => t = r) r) :
    Leaves route m := by
  intro r consistent mem
  refine wp_after (I := fun t => route ∈ t.routes) (wp_mono (h r consistent mem) (fun _ _ h => h) ?_)
  rintro _ _ rfl
  exact mem

theorem registerConnectionIdAddress_leaves (consistent : r.Consistent) (mem : route ∈ r.routes)
    (connectionId : Nat) (destinationConnectionId : Bytes) (path : UdpTuple) (options : RouteOptions) :
    wp (registerConnectionIdAddress connectionId destinationConnectionId path options)
      (fun _ t => t.Consistent ∧ route ∈ t.routes) (fun _ _ => True) r := by
  refine wp_mono (registerConnectionIdAddress_spec consistent _ _ _ _) (fun _ t h => ?_) fun _ _ _ => trivial
  obtain ⟨_, _, registers, _⟩ := h
  exact ⟨registers.consistent, registers.routes ▸ mem_append_left _ mem⟩

end EndpointRouter

open EndpointRouter in
theorem RouterCall.leaves {call : RouterCall} {other : Nat} (registers : call.registersFor = some other)
    (differs : other ≠ route.connectionId) : Leaves route call.perform := by
  refine .of_wp fun r consistent mem => ?_
  suffices kept : wp call.perform (fun _ t => route ∈ t.routes) (fun _ _ => True) r from
    wp_mono (wp_and (call.safe r consistent) kept) (fun _ _ h => h.2) fun _ _ h => h.1
  have register : ∀ {s : EndpointRouter}, s.Consistent → route ∈ s.routes → ∀ id dcid path options,
      wp (registerConnectionIdAddress id dcid path options) (fun _ t => t.Consistent ∧ route ∈ t.routes)
        (fun _ _ => True) s := registerConnectionIdAddress_leaves
  cases call <;> cases registers
  case registerConnectionId => exact wp_mono (register consistent mem _ _ _ _) (fun _ _ h => h.2)
  case registerClientInitialSourceConnectionId =>
    simp only [perform, registerClientInitialSourceConnectionIdAddress, wp_bind, wp_get, wp_lift, implies_true,
      and_true]
    exact wp_mono (register consistent mem _ _ _ _) (fun _ _ h _ _ => h.2)
  case registerAcceptedInitialConnectionIds =>
    simp only [perform, EndpointRouter.registerAcceptedInitialConnectionIds, wp_bind, wp_get, wp_lift,
      wp_failIf, wp_onError, wp_pure, implies_true, true_and, and_true]
    refine fun _ _ _ _ _ => wp_mono (register consistent mem _ _ _ _) (fun _ t h => ?_)
    exact wp_mono (register h.1 h.2 _ _ _ _) (fun _ _ k _ _ _ _ => k.2)
  case registerReplacementConnectionId =>
    simp only [perform, registerReplacementConnectionIdAddress, EndpointRouter.retireConnectionIdSequencesBefore,
      retireRoutesWhere, wp_bind, wp_failIf, wp_get, wp_set, wp_pure, implies_true, true_and]
    refine fun _ => wp_mono (register consistent mem _ _ _ _) (fun _ t h => ?_)
    refine mem_filter.mpr ⟨h.2, ?_⟩
    simp [differs.symm]

open EndpointRouter in
theorem routeAll_leaves (consistent : r.Consistent) (mem : route ∈ r.routes) {later : List RouterCall}
    (others : ∀ call ∈ later, ∃ other, call.registersFor = some other ∧ other ≠ route.connectionId) :
    route ∈ (routeAll r later).routes := by
  induction later generalizing r with
  | nil => exact mem
  | cons call rest ih =>
    obtain ⟨other, registers, differs⟩ := others call mem_cons_self
    exact ih (call.next_consistent consistent).1 (RouterCall.leaves registers differs r consistent mem)
      fun call mem => others call (mem_cons_of_mem _ mem)

open EndpointRouter RouterCall UInt8

theorem routeDatagramAddress_long (consistent : r.Consistent) (mem : route ∈ r.routes) {first : UInt8}
    {version rest : Bytes} (long : isLongHeader first = true) (fixed : hasFixedBit first = true)
    (four : version.length = 4) :
    let cid := route.destinationConnectionId.bytes
    r.routeDatagramAddress route.path (first :: (version ++ ofNat cid.length :: (cid ++ rest))) =
      .ok ⟨route.connectionId, route.sequenceNumber, route.destinationConnectionId, false⟩ := by
  intro cid
  have bounded : cid.length ≤ 20 := route.destinationConnectionId.fits
  have len : (ofNat cid.length).toNat = cid.length := toNat_ofNat_of_lt' (lt_of_le_of_lt bounded (by decide))
  have peeked : peekLongDestinationConnectionId (first :: (version ++ ofNat cid.length :: (cid ++ rest))) =
      .ok cid := by
    have five : (first :: (version ++ ofNat cid.length :: (cid ++ rest))).drop 5 =
        ofNat cid.length :: (cid ++ rest) := by
      rw [drop_succ_cons, drop_left' four]
    have six : (first :: (version ++ ofNat cid.length :: (cid ++ rest))).drop 6 = cid ++ rest := by
      rw [← drop_drop (i := 1) (j := 5), five]
      rfl
    rw [peekLongDestinationConnectionId, five, head?_cons]
    simp only [len, six]
    have whole : 6 + cid.length ≤ (first :: (version ++ ofNat cid.length :: (cid ++ rest))).length := by
      simp only [length_cons, length_append, four]
      omega
    rw [if_neg (Nat.not_lt.mpr route.destinationConnectionId.fits), if_neg (Nat.not_lt.mpr whole), take_left' rfl]
  simp only [routeDatagramAddress, long, if_true, passedOver, fixed, bind, Except.bind, peeked,
    Bool.false_eq_true, if_false]
  exact routeConnectionIdAddress_of_mem consistent mem

theorem alone_or_other {routes : List Route} (apart : routes.Pairwise Route.Apart) (mem : route ∈ routes) :
    routes = [route] ∨ ∃ other ∈ routes, other ≠ route := by
  match routes with
  | [] => cases mem
  | [only] => exact Or.inl (by rw [mem_singleton.mp mem])
  | a :: b :: rest =>
    have differ : a ≠ b := by
      rintro rfl
      exact (((pairwise_cons.mp apart).1 a mem_cons_self).connectionId rfl).2 rfl
    refine Or.inr ?_
    by_cases here : a = route
    · exact ⟨b, by simp, fun same => differ (here.trans same.symm)⟩
    · exact ⟨a, by simp, here⟩

theorem routeDatagramAddress_short (consistent : r.Consistent) (mem : route ∈ r.routes)
    (named : route.destinationConnectionId.bytes ≠ []) {first : UInt8} {rest : Bytes}
    (short : isLongHeader first = false) (fixed : hasFixedBit first = true) :
    let datagram := first :: (route.destinationConnectionId.bytes ++ rest)
    r.routeDatagramAddress route.path datagram =
      if ∃ other ∈ r.routes, other ≠ route ∧ matchesShort route.path datagram other = true then
        .error .ambiguousConnectionId
      else .ok ⟨route.connectionId, route.sequenceNumber, route.destinationConnectionId, false⟩ := by
  intro datagram
  have own : matchesShort route.path datagram route = true := by
    simp [matchesShort, named, startsWith, datagram]
  have listed : route ∈ r.routes.filter (matchesShort route.path datagram) :=
    mem_filter.mpr ⟨mem, own⟩
  have read : r.routeDatagramAddress route.path datagram = r.routeShortDatagram route.path datagram := by
    simp [routeDatagramAddress, datagram, short, fixed]
  rw [read, routeShortDatagram, findShortRouteIndex, Slots.unique_eq]
  rcases alone_or_other (consistent.routes.sublist filter_sublist) listed with alone | ⟨other, there, differs⟩
  · have no : ¬ ∃ other ∈ r.routes, other ≠ route ∧ matchesShort route.path datagram other = true := by
      rintro ⟨other, there, differs, meets⟩
      have listed : other ∈ r.routes.filter (matchesShort route.path datagram) :=
        mem_filter.mpr ⟨there, meets⟩
      rw [alone] at listed
      exact differs (mem_singleton.mp listed)
    rw [if_neg no, alone]
    exact resultForRoute_path route
  · obtain ⟨here, meets⟩ := mem_filter.mp there
    rw [if_pos ⟨other, here, differs, meets⟩]
    cases matching : r.routes.filter (matchesShort route.path datagram) with
    | nil => simp [matching] at listed
    | cons a more =>
      cases more with
      | nil =>
        rw [matching, mem_singleton] at listed there
        exact absurd (there.trans listed.symm) differs
      | cons b more => rfl

/-- A datagram that carries the connection ID of a route and comes from its path, after anything was
registered for other connections, is never routed to another connection. With a long header it is
routed to the connection; with a short header too, unless another route matches its first bytes as
well, and then it is refused as ambiguous. -/
theorem datagrams_not_diverted (maxRoutes maxStatelessResetTokens : Nat) (calls : List RouterCall)
    (mem : route ∈ (routeAll { maxRoutes, maxStatelessResetTokens } calls).routes)
    (named : route.destinationConnectionId.bytes ≠ []) (later : List RouterCall)
    (others : ∀ call ∈ later, ∃ other, call.registersFor = some other ∧ other ≠ route.connectionId) :
    let cid := route.destinationConnectionId.bytes
    let r := routeAll (routeAll { maxRoutes, maxStatelessResetTokens } calls) later
    let result : RouteResult := ⟨route.connectionId, route.sequenceNumber, route.destinationConnectionId, false⟩
    (∀ (first : UInt8) (version rest : Bytes), isLongHeader first = true → hasFixedBit first = true →
      version.length = 4 →
      r.routeDatagramAddress route.path (first :: (version ++ ofNat cid.length :: (cid ++ rest))) = .ok result) ∧
    (∀ (first : UInt8) (rest : Bytes), isLongHeader first = false → hasFixedBit first = true →
      r.routeDatagramAddress route.path (first :: (cid ++ rest)) =
        if ∃ other ∈ r.routes, other ≠ route ∧
            EndpointRouter.matchesShort route.path (first :: (cid ++ rest)) other = true then
          .error .ambiguousConnectionId
        else .ok result) := by
  intro cid r result
  have before := (routeAll_consistent (empty_consistent maxRoutes maxStatelessResetTokens) calls).1
  have consistent : r.Consistent := (routeAll_consistent before later).1
  have there : route ∈ r.routes := routeAll_leaves before mem others
  exact ⟨fun first version rest long fixed four => routeDatagramAddress_long consistent there long fixed four,
    fun first rest short fixed => routeDatagramAddress_short consistent there named short fixed⟩

def eightBytes : Bytes := [1, 2, 3, 4, 5, 6, 7, 8]

def oneRoute : List RouterCall := [.registerConnectionId 1 eightBytes 0 {}]

def firstRoute : Route := ⟨1, none, ⟨eightBytes, by decide⟩, 0, false⟩

theorem datagrams_not_diverted_second :
    (routeAll (routeAll { maxRoutes := 4, maxStatelessResetTokens := 4 } oneRoute)
      [.registerConnectionId 2 [1, 2, 9] 0 {}]).routeDatagramAddress 0 (0x40 :: (eightBytes ++ [7])) =
        .ok ⟨1, none, ⟨eightBytes, by decide⟩, false⟩ := by
  have mem : firstRoute ∈ (routeAll { maxRoutes := 4, maxStatelessResetTokens := 4 } oneRoute).routes := by decide
  have others : ∀ call ∈ [registerConnectionId 2 [1, 2, 9] 0 {}],
      ∃ other, call.registersFor = some other ∧ other ≠ firstRoute.connectionId := by
    intro call mem
    rw [mem_singleton.mp mem]
    exact ⟨2, rfl, by decide⟩
  have routed := (datagrams_not_diverted 4 4 oneRoute mem (by decide) _ others).2 0x40 [7] rfl rfl
  rwa [if_neg (by decide)] at routed

/-- A client chooses an original destination connection ID that starts with the ID of another
connection, and datagrams of that connection are refused. -/
theorem short_header_made_ambiguous :
    let r := routeAll {} oneRoute
    let accepted := RouterCall.registerAcceptedInitialConnectionIds 2 ⟨5, 1, eightBytes ++ [9], [], []⟩ [0xee] false none
    let datagram : Bytes := 0x40 :: (eightBytes ++ [9, 9])
    r.routeDatagramAddress 0 datagram = .ok ⟨1, none, ⟨eightBytes, by decide⟩, false⟩ ∧
      outcome accepted.perform r = .ok () ∧
      (accepted.next r).routeDatagramAddress 0 datagram = .error .ambiguousConnectionId := by
  decide +kernel

end Quicz
