import Quicz.H3.Server

/-! The bytes a server keeps for its request streams, and the streams that wait for insertions. -/
namespace Quicz.H3

open Proc Trace H3Server List Keyed H3Server RequestStream Steps

variable (env : Env) {limit most : Nat} {consumed : Nat}

structure Untouched (s t : H3Server) : Prop where
  requests : t.requests = s.requests
  handled : t.handled = s.handled
  decTable : t.decTable = s.decTable
  fieldLimit : t.localMaxFieldSectionSize = s.localMaxFieldSectionSize
  bodyLimit : t.maxRequestBodySize = s.maxRequestBodySize
  blockedLimit : t.maxBlockedStreams = s.maxBlockedStreams
  buffered : t.blockedRequests = s.blockedRequests
  bodies : t.responses.bodies = s.responses.bodies

instance : IsPreorder H3Server Untouched where
  refl _ := ⟨rfl, rfl, rfl, rfl, rfl, rfl, rfl, rfl⟩
  trans _ _ _ h k := ⟨k.1.trans h.1, k.2.trans h.2, k.3.trans h.3, k.4.trans h.4, k.5.trans h.5, k.6.trans h.6,
    k.7.trans h.7, k.8.trans h.8⟩

variable (handler : DecodedRequest → Response)

def RequestStream.retained (rs : RequestStream) : Nat := rs.wire.length + rs.bodyWire.length + rs.body.length

def RequestStream.waits (rs : RequestStream) : Bool := rs.phase = .headers ∧ rs.blocked

def H3Server.waiting (s : H3Server) : Nat := s.requests.countP fun entry => entry.2.waits

/-- A stream within a limit. An error while the body is parsed leaves parsed frames in the buffer, so
the bytes that are not parsed yet count twice. -/
structure RequestStream.Tame (limit : Nat) (rs : RequestStream) : Prop where
  unparsed : rs.phase = .headers → rs.bodyWire = [] ∧ rs.body = [] ∧ 2 * rs.wire.length ≤ limit
  bytes : rs.retained ≤ limit

structure Calm (limit most : Nat) (s : H3Server) : Prop where
  tame : ∀ entry ∈ s.requests, entry.2.Tame limit
  few : s.waiting ≤ most

structure SameLimits (s t : H3Server) : Prop where
  fieldLimit : t.localMaxFieldSectionSize = s.localMaxFieldSectionSize
  bodyLimit : t.maxRequestBodySize = s.maxRequestBodySize
  blockedLimit : t.maxBlockedStreams = s.maxBlockedStreams

structure Calms (limit most : Nat) (s t : H3Server) : Prop where
  calm : Calm limit most s → Calm limit most t
  fieldLimit : t.localMaxFieldSectionSize = s.localMaxFieldSectionSize
  bodyLimit : t.maxRequestBodySize = s.maxRequestBodySize
  blockedLimit : t.maxBlockedStreams = s.maxBlockedStreams

instance (limit most : Nat) : IsPreorder H3Server (Calms limit most) where
  refl _ := ⟨fun h => h, rfl, rfl, rfl⟩
  trans _ _ _ h k := ⟨fun c => k.calm (h.calm c), k.2.trans h.2, k.3.trans h.3, k.4.trans h.4⟩

theorem Calms.limits {s t : H3Server} (h : Calms limit most s t) : SameLimits s t :=
  ⟨h.fieldLimit, h.bodyLimit, h.blockedLimit⟩

theorem Calm.fewer {s t : H3Server} (calm : Calm limit most s)
    (fewer : t.requests.Sublist s.requests) : Calm limit most t :=
  ⟨fun entry member => calm.tame entry (fewer.subset member), fewer.countP_le.trans calm.few⟩

def H3Server.Holds (s : H3Server) (streamId : Nat) (rs : RequestStream) : Prop :=
  lookup Prod.fst streamId s.requests = some (streamId, rs)

theorem Untouched.holds {s t : H3Server} {streamId : Nat} {rs : RequestStream} (same : Untouched s t)
    (found : s.Holds streamId rs) : t.Holds streamId rs := by
  rwa [H3Server.Holds, same.requests]

theorem Calm.onRequest {limit most streamId : Nat} (calm : Calm limit most s) (keeps : ∀ rs, s.Holds streamId rs →
      (f rs).Tame limit ∧ ((f rs).waits → rs.waits)) : Calm limit most (s.onRequest streamId f) := by
  cases found : lookup Prod.fst streamId s.requests with
  | none =>
    refine calm.fewer ?_
    rw [H3Server.onRequest, adjust_missing found]
  | some entry =>
    obtain ⟨id, rs⟩ := entry
    obtain rfl : id = streamId := (lookup_some found).1
    obtain ⟨tame, waits⟩ := keeps rs found
    refine ⟨forall_adjust calm.tame fun entry again => ?_, ?_⟩
    · cases found.symm.trans again
      exact tame
    · have count : (s.onRequest id f).waiting + rs.waits.toNat = s.waiting + (f rs).waits.toNat :=
        countP_adjust (fun entry : Nat × RequestStream => entry.2.waits) found
      have less : ((f rs).waits).toNat ≤ (rs.waits).toNat := by
        cases h : (f rs).waits
        · exact Nat.zero_le _
        · rw [waits h]
      have before := calm.few
      omega

theorem Calms.onRequest (streamId : Nat)
    (keeps : ∀ rs, rs.Tame limit → (f rs).Tame limit) (waits : ∀ rs, (f rs).waits → rs.waits) (s : H3Server) :
    Calms limit most s (s.onRequest streamId f) := by
  refine ⟨fun calm => calm.onRequest fun rs found => ⟨keeps rs ?_, waits rs⟩, rfl, rfl, rfl⟩
  exact calm.tame _ (lookup_some found).2

variable (handler : DecodedRequest → Response) (streamId : Nat) {s : H3Server}

variable (data : Bytes)

variable {rs : RequestStream} {f : RequestStream → RequestStream}

theorem H3Server.Holds.onRequest {streamId : Nat} (found : s.Holds streamId rs) (f : RequestStream → RequestStream) :
    (s.onRequest streamId f).Holds streamId (f rs) := by
  have changed : lookup Prod.fst streamId (s.onRequest streamId f).requests =
      (lookup Prod.fst streamId s.requests).map fun entry => (entry.1, f entry.2) :=
    lookup_adjust_self fun _ h => h
  rw [found] at changed
  exact changed

variable (s : H3Server) (streamId : Nat)

def H3Server.stream : RequestStream :=
  ((lookup Prod.fst streamId s.requests).map Prod.snd).getD {}

theorem Calms.openRequest : Calms limit most s (s.openRequest streamId) := by
  unfold H3Server.openRequest
  split_ifs
  · exact refl_of (Calms limit most) s
  · refine ⟨fun calm => ⟨fun entry member => ?_, ?_⟩, rfl, rfl, rfl⟩
    · rcases mem_append.mp member with old | new
      · exact calm.tame entry old
      · obtain rfl := mem_singleton.mp new
        exact ⟨fun _ => ⟨rfl, rfl, Nat.zero_le _⟩, Nat.zero_le _⟩
    · have idle : ({} : RequestStream).waits = false := rfl
      simpa [waiting, idle] using calm.few

theorem Calm.block {s : H3Server} (calm : Calm limit most s) {streamId : Nat} (found : s.Holds streamId rs)
    (room : s.waiting < most ∨ rs.waits) :
    Calm limit most (s.onRequest streamId fun rs => { rs with blocked := true }) := by
  have tame : rs.Tame limit := calm.tame _ (lookup_some found).2
  refine ⟨forall_adjust calm.tame fun entry again => ?_, ?_⟩
  · cases found.symm.trans again
    exact ⟨tame.unparsed, tame.bytes⟩
  · have count : (s.onRequest streamId fun rs => { rs with blocked := true }).waiting + rs.waits.toNat =
        s.waiting + ({ rs with blocked := true } : RequestStream).waits.toNat :=
      countP_adjust (fun entry : Nat × RequestStream => entry.2.waits) found
    have one := Bool.toNat_le ({ rs with blocked := true } : RequestStream).waits
    have before := calm.few
    rcases room with free | waits
    · omega
    · rw [waits] at count
      simp only [Bool.toNat_true] at count
      omega

inductive PeerEvent
  | feed (streamId : Nat) (data : Bytes) (fin : Bool)
  | insertions (data : Bytes)

variable (handler : DecodedRequest → Response)

def H3Server.step (s : H3Server) : PeerEvent → H3Server
  | .feed streamId data fin => after (feedRequestData env handler streamId data fin) s
  | .insertions data => after (processPeerEncoderStream env handler data) s

variable (overhead : Nat)

def H3Server.streamLimit (s : H3Server) : Nat :=
  s.localMaxFieldSectionSize + s.maxRequestBodySize + overhead

def plain : DecodedRequest → Response := fun _ => { status := 200 }

end Quicz.H3
