import Quicz.Run.Once

/-! The connection IDs the handshake authenticates. Each is recorded once, from the first event that
can fix it, and the transport parameters of the peer are applied only when they name the recorded
ones. What was recorded is told by the log of these events. -/
namespace Quicz

open Proc IdEvent TransportParameters

variable {c : Connection}

/-- What a client may learn its original destination from. -/
@[simp] def IdEvent.clientOriginal : IdEvent → Option Bytes
  | .sentInitial dcid => some dcid
  | .processedRetry originalDcid _ => some originalDcid
  | _ => none

@[simp] def IdEvent.serverOriginal : IdEvent → Option Bytes
  | .processedInitial dcid _ => some dcid
  | .issuedRetry originalDcid _ => some originalDcid
  | _ => none

def IdEvent.original : ConnectionSide → IdEvent → Option Bytes
  | .client => clientOriginal
  | .server => serverOriginal

@[simp] def IdEvent.processedRetrySource : IdEvent → Option Bytes
  | .processedRetry _ retryScid => some retryScid
  | _ => none

@[simp] def IdEvent.issuedRetrySource : IdEvent → Option Bytes
  | .issuedRetry _ retryScid => some retryScid
  | _ => none

def IdEvent.retrySource : ConnectionSide → IdEvent → Option Bytes
  | .client => processedRetrySource
  | .server => issuedRetrySource

structure Identity.Recorded (i : Identity) : Prop where
  original : i.original = i.log.findSome? (IdEvent.original i.side)
  retrySource : i.log.filterMap (IdEvent.retrySource i.side) = i.retrySource.toList
  token : i.side = .client → i.retryToken = none → i.retrySource = none
  met : ∀ dcid scid, .processedInitial dcid scid ∈ i.log → i.peerInitial = some scid

structure Identity.Keeps (i j : Identity) : Prop where
  original : ∀ id, i.original = some id → j.original = some id
  retrySource : ∀ id, i.retrySource = some id → j.retrySource = some id
  peerInitial : ∀ id, i.peerInitial = some id → j.peerInitial = some id

theorem Identity.Keeps.refl (i : Identity) : i.Keeps i := ⟨fun _ h => h, fun _ h => h, fun _ h => h⟩

theorem Identity.Keeps.trans {i j k : Identity} (h : i.Keeps j) (l : j.Keeps k) : i.Keeps k :=
  ⟨fun id known => l.original id (h.original id known), fun id known => l.retrySource id (h.retrySource id known),
    fun id known => l.peerInitial id (h.peerInitial id known)⟩

variable {allowed : Prop} {i j : Identity}

/-- An event is logged, and what it says is recorded unless something was. -/
theorem Identity.Recorded.logs (h : i.Recorded) {event : IdEvent} (side : j.side = i.side)
    (log : j.log = i.log ++ [event]) (original : j.original = i.original.or (IdEvent.original i.side event))
    (retrySource : j.retrySource.toList = i.retrySource.toList ++ (IdEvent.retrySource i.side event).toList)
    (token : j.side = .client → j.retryToken = none → j.retrySource = none)
    (peer : ∀ id, i.peerInitial = some id → j.peerInitial = some id)
    (met : ∀ dcid scid, event = .processedInitial dcid scid → j.peerInitial = some scid) :
    j.Recorded ∧ i.Keeps j := by
  refine ⟨⟨?_, ?_, token, fun dcid scid member => ?_⟩, fun id known => ?_, fun id known => ?_, peer⟩
  · rw [side, log, List.findSome?_append, List.findSome?_singleton, ← h.original, original]
  · rw [side, log, List.filterMap_append, h.retrySource, retrySource]
    cases said : IdEvent.retrySource i.side event <;> simp [said]
  · rw [log] at member
    rcases List.mem_append.mp member with old | new
    · exact peer scid (h.met dcid scid old)
    · exact met dcid scid (List.mem_singleton.mp new).symm
  · rw [original, known, Option.some_or]
  · rw [known] at retrySource
    cases held : j.retrySource with
    | none => simp [held] at retrySource
    | some other =>
      rw [held] at retrySource
      rw [(List.cons.inj retrySource).1]

theorem all_eq_some {known : Option Bytes} {id other : Bytes} (same : known.all (· == id) = true)
    (held : known = some other) : other = id := by
  simpa [held] using same

theorem IdentityStep.recorded (h : i.Recorded) (step : IdentityStep allowed i j) : j.Recorded ∧ i.Keeps j := by
  cases step with
  | sendsInitial dcid =>
    refine h.logs rfl rfl ?_ ?_ h.token (fun _ known => known) nofun
    · cases i.side <;> simp [IdEvent.original]
    · cases i.side <;> simp [IdEvent.retrySource]
  | @processesInitial dcid scid same =>
    refine h.logs rfl rfl ?_ ?_ h.token (fun id known => by simp [known]) ?_
    · cases i.side <;> simp [IdEvent.original]
    · cases i.side <;> simp [IdEvent.retrySource]
    · rintro _ _ ⟨⟩
      cases held : i.peerInitial with
      | none => rfl
      | some other => rw [all_eq_some same held, Option.some_or]
  | issuesRetry originalDcid retryScid server fresh first =>
    refine h.logs rfl rfl ?_ ?_ (fun client => ?_) (fun _ known => known) nofun
    · rw [fresh, server]
      rfl
    · rw [first, server]
      rfl
    · cases server.symm.trans client
  | @processesRetry originalDcid retryScid token client same first =>
    refine h.logs rfl rfl ?_ ?_ nofun (fun _ known => known) nofun
    · rw [client]
      rfl
    · rw [h.token client first, client]
      rfl
  | bindsPeer scid first =>
    refine h.logs rfl rfl ?_ ?_ h.token (fun id known => ?_) nofun
    · cases i.side <;> simp [IdEvent.original]
    · cases i.side <;> simp [IdEvent.retrySource]
    · cases first.symm.trans known

theorem IdentitySteps.recorded (steps : IdentitySteps allowed i j) (h : i.Recorded) : j.Recorded ∧ i.Keeps j := by
  induction steps with
  | refl => exact ⟨h, .refl i⟩
  | tail _ step ih =>
    obtain ⟨recorded, kept⟩ := ih
    obtain ⟨next, keeps⟩ := step.recorded recorded
    exact ⟨next, kept.trans keeps⟩

variable {params : TransportParameters}

structure Connection.Authenticates (c : Connection) (params : TransportParameters) : Prop where
  original : c.side = .client → params.originalDestinationConnectionId = c.originalDestinationConnectionId
  retrySource : c.side = .client → params.retrySourceConnectionId = c.retrySourceConnectionId
  source : ∀ scid, c.peerInitialSourceConnectionId = some scid → params.initialSourceConnectionId = some scid

theorem require_returns (holds : Bool) : Returns (require holds) fun _ => holds = true := by
  cases holds with
  | true => exact .pure rfl
  | false => exact nofun

theorem validateServerIdParameter_returns (expected cid : Option Bytes) :
    Returns (c.validateServerIdParameter expected cid) fun _ => c.side = .client → cid = expected :=
  (require_returns _).mono fun _ holds client => by simpa [client] using holds

theorem validateInitialSourceConnectionIdParameter_returns (cid : Option Bytes) :
    Returns (c.validateInitialSourceConnectionIdParameter cid) fun _ =>
      ∀ scid, c.peerInitialSourceConnectionId = some scid → cid = some scid :=
  (require_returns _).mono fun _ holds scid known => by simpa [known] using holds

theorem validatePeerTransportParameterValues_returns :
    Returns (c.validatePeerTransportParameterValues params) fun _ => c.Authenticates params :=
  .after fun _ => .after fun _ => .after fun _ => .after fun _ => .after fun _ => .after fun _ =>
    .after fun _ => .after fun _ => .after fun _ => .after fun _ =>
    .bind (validateInitialSourceConnectionIdParameter_returns _) fun _ source =>
    .bind (validateServerIdParameter_returns _ _) fun _ original =>
    .bind (validateServerIdParameter_returns _ _) fun _ retrySource =>
      fun _ _ => ⟨original, retrySource, source⟩

theorem validatePeerTransportParameters_returns :
    Returns (c.validatePeerTransportParameters params) fun _ => c.Authenticates params :=
  .bind validatePeerTransportParameterValues_returns fun _ holds _ _ => holds

variable (compatibilities : List VersionCompatibility)

theorem validatePeerTransportParametersWithCompatibleVersion_returns :
    Returns (c.validatePeerTransportParametersWithCompatibleVersion params compatibilities) fun _ =>
      c.Authenticates params :=
  .after fun _ => .bind validatePeerTransportParameterValues_returns fun _ holds _ _ => holds

variable {α : Type} (m : ConnM α) (given : Option TransportParameters)

/-- The set of parameters, if it can be read, names the recorded identifiers when the call succeeds;
otherwise nothing changes. -/
def Applies (c : Connection) : Prop :=
  wp m (fun _ _ => ∀ params, given = some params → c.Authenticates params) (fun _ t => t = c) c

variable {Q : α → Connection → Prop}

theorem wp_liftValidation (x : Validation α) {E : Error → Connection → Prop} :
    wp (liftValidation x) Q E c ↔ (∀ a, x = .ok a → Q a c) ∧ ∀ e, x = .error e → E .invalidPacket c := by
  cases x <;> simp [liftValidation]

theorem applyPeerTransportParameters_applies : Applies (applyPeerTransportParameters params) (some params) c := by
  simp only [Applies, applyPeerTransportParameters, requireActive, wp_bind, wp_get, wp_failIf, wp_liftValidation,
    wp_modify]
  refine ⟨fun _ => trivial, fun _ => ⟨fun result valid params' given => ?_, fun _ _ => trivial⟩⟩
  cases given
  exact validatePeerTransportParameters_returns result valid

theorem applyPeerTransportParametersWithCompatibleVersion_applies :
    Applies (applyPeerTransportParametersWithCompatibleVersion params compatibilities) (some params) c := by
  simp only [Applies, applyPeerTransportParametersWithCompatibleVersion, requireActive, wp_bind, wp_get, wp_failIf,
    wp_liftValidation, wp_modify, wp_pure]
  refine ⟨fun _ => trivial, fun _ => ⟨fun result valid params' given => ?_, fun _ _ => trivial⟩⟩
  cases given
  exact validatePeerTransportParametersWithCompatibleVersion_returns compatibilities result valid

variable (data : Bytes)

def readParameters : Option TransportParameters := (parse data).toOption

theorem applyPeerTransportParameterBytes_applies :
    Applies (applyPeerTransportParameterBytes data) (readParameters data) c := by
  unfold applyPeerTransportParameterBytes readParameters
  cases parse data with
  | error e => exact (wp_throw _).mpr rfl
  | ok params => exact applyPeerTransportParameters_applies

theorem applyPeerTransportParameterBytesWithCompatibleVersion_applies (compatibilities : List VersionCompatibility) :
    Applies (applyPeerTransportParameterBytesWithCompatibleVersion data compatibilities) (readParameters data) c := by
  unfold applyPeerTransportParameterBytesWithCompatibleVersion readParameters
  cases parse data with
  | error e => exact (wp_throw _).mpr rfl
  | ok params => exact applyPeerTransportParametersWithCompatibleVersion_applies compatibilities

/-- The state in which the close that a refusal causes leaves the connection. -/
def Connection.ClosedOnParameters (c t : Connection) : Prop :=
  ∃ code reason, t = after (closeConnection code cryptoFrameType reason) c

/-- The same of the entries that close the connection on a refusal. -/
def AppliesOrCloses (c : Connection) : Prop :=
  wp m (fun _ _ => ∀ params, given = some params → c.Authenticates params)
    (fun _ t => t = c ∨ c.ClosedOnParameters t) c

theorem closeOnParameters_closes (error : PeerTransportParameterValidationError) :
    wp (closeOnParameters error) Q (fun _ t => t = c ∨ c.ClosedOnParameters t) c := by
  have closed : ∀ code reason, wp (closeConnection code cryptoFrameType reason)
      (fun _ t => t = c ∨ c.ClosedOnParameters t) (fun _ t => t = c ∨ c.ClosedOnParameters t) c :=
    fun code reason => wp_mono (wp_self (closeConnection code cryptoFrameType reason) c)
      (fun _ _ same => Or.inr ⟨code, reason, same⟩) fun _ _ same => Or.inr ⟨code, reason, same⟩
  cases error <;>
  · simp only [closeOnParameters, wp_bind, wp_throw]
    exact closed _ _

theorem applyParameterBytesOrClose_applies {data : Bytes} {plain : ConnM α}
    {validate : Connection → TransportParameters → Validation α} (applies : Applies plain (readParameters data) c)
    (valid : ∀ params, Returns (validate c params) fun _ => c.Authenticates params) :
    AppliesOrCloses (applyParameterBytesOrClose data plain validate) (readParameters data) c := by
  simp only [AppliesOrCloses, applyParameterBytesOrClose, wp_bind, wp_get, wp_ite]
  refine ⟨fun _ => wp_mono applies (fun _ _ h => h) fun _ _ same => Or.inl same, fun _ => ?_⟩
  unfold readParameters
  cases parse data with
  | error e => exact closeOnParameters_closes _
  | ok params =>
    simp only [wp_bind, wp_get]
    cases checked : validate c params with
    | error e => exact closeOnParameters_closes e
    | ok result =>
      simp only [wp_bind, wp_modify, wp_pure]
      intro params' given
      cases given
      exact valid params result checked

namespace Call

def givesParameters : Call → Bool
  | applyPeerTransportParameters _ | applyPeerTransportParametersWithCompatibleVersion _ _
  | applyPeerTransportParameterBytes _ _ | applyPeerTransportParameterBytesWithCompatibleVersion _ _ _ => true
  | _ => false

def closesOnRefusal : Call → Bool
  | applyPeerTransportParameterBytes _ close | applyPeerTransportParameterBytesWithCompatibleVersion _ _ close => close
  | _ => false

def parameters : Call → Option TransportParameters
  | applyPeerTransportParameters params | applyPeerTransportParametersWithCompatibleVersion params _ => some params
  | applyPeerTransportParameterBytes data _ | applyPeerTransportParameterBytesWithCompatibleVersion data _ _ =>
    readParameters data
  | _ => none

end Call

theorem Call.gives (call : Call) (gives : call.givesParameters = true) :
    wp (perform call) (fun _ _ => ∀ params, call.parameters = some params → c.Authenticates params)
      (fun _ t => t = c ∨ call.closesOnRefusal = true ∧ c.ClosedOnParameters t) c := by
  have plain : ∀ {α : Type} {m : ConnM α} {given : Option TransportParameters} {closes : Prop},
      Applies m given c → wp (quietly m) (fun _ _ => ∀ params, given = some params → c.Authenticates params)
        (fun _ t => t = c ∨ closes ∧ c.ClosedOnParameters t) c := by
    intro α m given closes applies
    rw [quietly, wp_bind]
    exact wp_mono applies (fun _ _ h => h) fun _ _ same => Or.inl same
  have closing : ∀ {α : Type} {m : ConnM α} {given : Option TransportParameters},
      AppliesOrCloses m given c → wp (quietly m) (fun _ _ => ∀ params, given = some params → c.Authenticates params)
        (fun _ t => t = c ∨ true = true ∧ c.ClosedOnParameters t) c := by
    intro α m given applies
    rw [quietly, wp_bind]
    exact wp_mono applies (fun _ _ h => h) fun _ _ h => h.imp_right fun closed => ⟨rfl, closed⟩
  unfold Call.givesParameters at gives
  split at gives
  · exact plain applyPeerTransportParameters_applies
  · rename_i params compatibilities
    exact plain (applyPeerTransportParametersWithCompatibleVersion_applies compatibilities)
  · rename_i data close
    cases close with
    | false => exact plain (applyPeerTransportParameterBytes_applies data)
    | true => exact closing (applyParameterBytesOrClose_applies (applyPeerTransportParameterBytes_applies data)
        fun _ => validatePeerTransportParameters_returns)
  · rename_i data compatibilities close
    cases close with
    | false => exact plain (applyPeerTransportParameterBytesWithCompatibleVersion_applies data compatibilities)
    | true => exact closing (applyParameterBytesOrClose_applies
        (applyPeerTransportParameterBytesWithCompatibleVersion_applies data compatibilities)
        fun _ => validatePeerTransportParametersWithCompatibleVersion_returns compatibilities)
  · cases gives

theorem Call.gives_of_parameters {call : Call}
    (given : call.parameters = some params) : call.givesParameters = true := by
  unfold Call.parameters at given
  split at given
  case h_5 => cases given
  all_goals rfl

theorem Reachable.recorded (reached : Reachable c) : c.identity.Recorded := by
  obtain ⟨side, config, -, tends⟩ := reached.tended
  exact (tends.identity.recorded ⟨rfl, rfl, fun _ _ => rfl, nofun⟩).1

structure Connection.NamesHandshake (c : Connection) (params : TransportParameters) : Prop where
  original : c.side = .client → params.originalDestinationConnectionId = c.idLog.findSome? clientOriginal
  retrySource : c.side = .client → params.retrySourceConnectionId.toList = c.idLog.filterMap processedRetrySource
  source : ∀ dcid scid, .processedInitial dcid scid ∈ c.idLog → params.initialSourceConnectionId = some scid

theorem Connection.Authenticates.names (recorded : c.identity.Recorded)
    (h : c.Authenticates params) : c.NamesHandshake params := by
  refine ⟨fun client => ?_, fun client => ?_, fun dcid scid member => h.source scid (recorded.met dcid scid member)⟩
  · rw [h.original client, show c.originalDestinationConnectionId = _ from recorded.original,
      show c.identity.side = .client from client]
    rfl
  · have retried := recorded.retrySource
    rw [show c.identity.side = .client from client] at retried
    rw [h.retrySource client]
    exact retried.symm

/-- The parameters of the peer are applied only when they name the connection IDs of the handshake, a
refusal changes nothing but the close it may cause, and what is recorded stays recorded. -/
theorem connection_ids_authenticated (reached : Reachable c) :
    (∀ (call : Call) params, call.parameters = some params → call.succeeds c = true → c.NamesHandshake params) ∧
    (∀ call : Call, call.givesParameters = true → call.succeeds c = false →
      call.next c = c ∨ call.closesOnRefusal = true ∧ c.ClosedOnParameters (call.next c)) ∧
    ∀ calls, c.identity.Keeps (run c calls).identity := by
  refine ⟨fun call params given succeeded => ?_, fun call gives failed => ?_, fun calls => ?_⟩
  · have result := Call.gives (c := c) call (Call.gives_of_parameters given)
    simp only [wp] at result
    simp only [Call.succeeds] at succeeded
    cases run : perform call c with
    | error e t => simp [run] at succeeded
    | ok datagram t =>
      simp only [run] at result
      exact (result params given).names reached.recorded
  · have result := Call.gives (c := c) call gives
    simp only [wp] at result
    simp only [Call.succeeds] at failed
    simp only [Call.next, after]
    cases run : perform call c with
    | ok datagram t => simp [run] at failed
    | error e t =>
      simp only [run] at result
      exact result
  · exact ((run_tends_any c calls).identity.recorded reached.recorded).2

def helloSent : Connection :=
  run (.fresh .client {}) [.sendCryptoInSpace .initial [1],
    .pollProtectedLongCryptoDatagramInSpace .initial 0 { dcid := List.replicate 8 1, scid := [2] }]

theorem connection_ids_authenticated_hello :
    let params : TransportParameters := { originalDestinationConnectionId := some (List.replicate 8 1) }
    (Call.applyPeerTransportParameters params).succeeds helloSent = true ∧ helloSent.NamesHandshake params := by
  intro params
  have reached : Reachable helloSent := ⟨.client, {}, _, _, rfl, throughout_true _ _, rfl⟩
  have succeeded : (Call.applyPeerTransportParameters params).succeeds helloSent = true := by decide +kernel
  exact ⟨succeeded, (connection_ids_authenticated reached).1 _ params rfl succeeded⟩

/-- A client that processes a Retry before it sends anything takes the destination the caller names
for the original one, and sends its first Initial packet elsewhere. A client that has neither sent
nor processed an Initial packet takes parameters without the identifiers. A refusal that is to close
the connection changes it. -/
theorem ids_without_initial :
    let original : Bytes := List.replicate 8 1
    let retry : RetryPacket := { version := 1, scid := [3], token := [4] }
    let retried := run (.fresh .client {}) [.processRetryDatagram 0 original retry, .sendCryptoInSpace .initial [1],
      .pollProtectedLongCryptoDatagramInSpace .initial 0 { dcid := [3], scid := [2] }]
    let params : TransportParameters :=
      { originalDestinationConnectionId := some original, retrySourceConnectionId := some [3] }
    let refused := Call.applyPeerTransportParameterBytes [1] true
    (Reachable retried ∧ retried.idLog = [.processedRetry original [3], .sentInitial [3]] ∧
      (Call.applyPeerTransportParameters params).succeeds retried = true) ∧
    (Reachable (.fresh .client {}) ∧ (Call.applyPeerTransportParameters {}).succeeds (.fresh .client {}) = true) ∧
    refused.succeeds (.fresh .client {}) = false ∧ (refused.next (.fresh .client {})).state = .closing := by
  refine ⟨⟨⟨.client, {}, _, _, rfl, throughout_true _ _, rfl⟩, by decide +kernel, by decide +kernel⟩,
    ⟨⟨.client, {}, _, [], rfl, trivial, rfl⟩, by decide +kernel⟩, by decide +kernel, by decide +kernel⟩

end Quicz
