import Quicz.H3.Server

/-! What becomes of a body: the frames a stream accepts, what is left to send, and the end mark. -/
namespace Quicz.H3

open Proc Trace List OutgoingBody

variable {env : Env}

section Account

def Attempt.payload (t : Attempt) : Bytes :=
  if t.answer = none ∧ t.fin = false then
    match takeDataFrame t.data with
    | .ok (payload, _) => payload
    | .error _ => []
  else []

variable (streamId : Nat) (attempts : List Attempt)

def delivered : Bytes :=
  (attempts.filter fun t => t.streamId = streamId).flatMap Attempt.payload

def Attempt.Ends (t : Attempt) : Prop := t.streamId = streamId ∧ t.fin = true ∧ t.answer = none

instance (streamId : Nat) (t : Attempt) : Decidable (t.Ends streamId) :=
  inferInstanceAs (Decidable (_ ∧ _ ∧ _))

def ends : Nat := attempts.countP fun t => t.Ends streamId

def OutgoingBody.remaining (b : OutgoingBody) : Bytes := b.staticBody.drop b.staticOff ++ (b.body.getD []).flatten

variable (xs ys : List Attempt)

theorem delivered_append : delivered streamId (xs ++ ys) = delivered streamId xs ++ delivered streamId ys := by
  simp [delivered]

theorem ends_append : ends streamId (xs ++ ys) = ends streamId xs + ends streamId ys := by
  simp [ends]

theorem delivered_other {streamId : Nat} {attempts : List Attempt} (other : ∀ t ∈ attempts, t.streamId ≠ streamId) :
    delivered streamId attempts = [] := by
  have none : attempts.filter (fun t => t.streamId = streamId) = [] := by
    simpa [filter_eq_nil_iff] using other
  rw [delivered, none, flatMap_nil]

theorem ends_other {streamId : Nat} {attempts : List Attempt} (other : ∀ t ∈ attempts, t.streamId ≠ streamId) :
    ends streamId attempts = 0 := by
  rw [ends, countP_eq_zero]
  intro t member
  simp [Attempt.Ends, other t member]

theorem delivered_take (streamId n : Nat) (attempts : List Attempt) :
    delivered streamId (attempts.take n) <+: delivered streamId attempts := by
  conv => rhs; rw [← take_append_drop n attempts, delivered_append]
  exact prefix_append _ _

end Account

variable {streamId : Nat} {b b' : OutgoingBody}

structure OutgoingBody.Sound (b : OutgoingBody) : Prop where
  alive : b.deinited = false
  chunks : ∀ chunk ∈ b.body.getD [], chunk.length ≤ maxResponseChunkPayload

/-- The stream's sends are accepted, or the part of a static body is held back. -/
def Gentle (env : Env) (streamId : Nat) (b : OutgoingBody) : Prop :=
  ∀ n data fin e, env n streamId data fin = some e → e = .flowControlBlocked ∧ fin = false ∧ b.body = none

/-- What has been done in a stream's turn: it was ended, held back, or sent as much as it may. -/
def Tried (streamId chunks : Nat) (new : List Attempt) : Prop :=
  ends streamId new = 1 ∨
  (∃ t ∈ new, t.streamId = streamId ∧ t.answer = some .flowControlBlocked) ∨
  new.countP (fun t => t.streamId = streamId ∧ t.answer = none) = chunks

structure Advance (streamId chunks : Nat) (b : OutgoingBody) (new : List Attempt) (b' : OutgoingBody)
    (finished : Bool) : Prop where
  own : ∀ t ∈ new, t.streamId = streamId
  kept : delivered streamId new ++ b'.remaining = b.remaining
  ended : ends streamId new = if finished then 1 else 0
  whole : finished = true → b'.remaining = []
  sound : finished = false → b'.Sound
  kind : b'.body = none ↔ b.body = none
  tried : Tried streamId chunks new

theorem Gentle.mono (gentle : Gentle env streamId b) (kind : b'.body = none ↔ b.body = none) :
    Gentle env streamId b' := fun n data fin e answer =>
  ⟨(gentle n data fin e answer).1, (gentle n data fin e answer).2.1, kind.mpr (gentle n data fin e answer).2.2⟩

theorem Advance.cons {chunks : Nat} {t : Attempt} {b₁ : OutgoingBody} {new : List Attempt} {finished : Bool}
    (later : Advance streamId chunks b₁ new b' finished) (own : t.streamId = streamId)
    (accepted : t.answer = none) (unfinished : t.fin = false)
    (sent : t.payload ++ b₁.remaining = b.remaining) (kind : b₁.body = none ↔ b.body = none) :
    Advance streamId (chunks + 1) b (t :: new) b' finished := by
  have no_end : ¬ t.Ends streamId := fun ending => by
    have := ending.2.1
    simp_all
  have same_ends : ends streamId (t :: new) = ends streamId new := by
    rw [ends, ends, countP_cons_of_neg (by simpa using no_end)]
  refine ⟨?_, ?_, same_ends.trans later.ended, later.whole, later.sound, later.kind.trans kind, ?_⟩
  · rintro u member
    rcases mem_cons.mp member with rfl | member
    · exact own
    · exact later.own u member
  · rw [← sent, ← later.kept, ← append_assoc]
    simp [delivered, own]
  · rcases later.tried with ended | ⟨u, member, held⟩ | all
    · exact .inl (same_ends.trans ended)
    · exact .inr (.inl ⟨u, mem_cons_of_mem _ member, held⟩)
    · exact .inr (.inr (by rw [countP_cons_of_pos (by simp [own, accepted]), all]))

theorem Gentle.answer (gentle : Gentle env streamId b) (data : Bytes) (before : List Attempt) :
    (attempt env streamId data false before).answer = none ∨
      (attempt env streamId data false before).answer = some .flowControlBlocked ∧ b.body = none := by
  cases answer : (attempt env streamId data false before).answer with
  | none => exact .inl rfl
  | some e =>
    obtain ⟨rfl, -, static⟩ := gentle _ _ _ _ answer
    exact .inr ⟨rfl, static⟩

theorem Advance.held (sound : b.Sound) {chunks : Nat} {t : Attempt} (own : t.streamId = streamId)
    (held : t.answer = some .flowControlBlocked) : Advance streamId chunks b [t] b false := by
  have nothing : t.payload = [] := by simp [Attempt.payload, held]
  refine ⟨by simpa using own, by simp [delivered, own, nothing], ?_, nofun, fun _ => sound, Iff.rfl,
    .inr (.inl ⟨t, mem_singleton_self t, own, held⟩)⟩
  simp [ends, Attempt.Ends, held]

theorem endBody_spec (gentle : Gentle env streamId b) (empty : b.remaining = []) (before : List Attempt)
    (chunks : Nat) : ∃ new b', endBody env streamId b before = ⟨b', before ++ new, .ok true⟩ ∧
      Advance streamId chunks b new b' true := by
  have accepted : env before.length streamId [] true = none := by
    cases answer : env before.length streamId [] true with
    | none => rfl
    | some e => cases (gentle _ _ _ _ answer).2.1
  have one : ends streamId [attempt env streamId [] true before] = 1 := by
    simp [ends, Attempt.Ends, attempt, accepted]
  refine ⟨[attempt env streamId [] true before], { b with deinited := b.body.isSome }, ?_, ?_⟩
  · simp only [endBody, attempt, accepted]
  · refine ⟨by simp [attempt], ?_, one, fun _ => empty, nofun, Iff.rfl, .inl one⟩
    simp [delivered, Attempt.payload, attempt, accepted]
    rfl

theorem payload_accepted {payload : Bytes} {t : Attempt} (small : payload.length ≤ maxResponseChunkPayload)
    (data : t.data = encodeDataFrame payload) (accepted : t.answer = none) (unfinished : t.fin = false) :
    t.payload = payload := by
  have fits : payload.length ≤ maxFramePayloadSize := small.trans (by decide)
  have read := takeDataFrame_encodeDataFrame fits []
  rw [append_nil] at read
  simp [Attempt.payload, accepted, unfinished, data, read]

/-- A stream's turn, by induction on the chunks it may still send. -/
theorem pumpStream_spec (chunks : Nat) (sound : b.Sound) (gentle : Gentle env streamId b) (before : List Attempt) :
    ∃ new b' finished, pumpStream env streamId chunks b before = ⟨b', before ++ new, .ok finished⟩ ∧
      Advance streamId chunks b new b' finished := by
  induction chunks generalizing b before with
  | zero =>
    refine ⟨[], b, false, by rw [pumpStream, append_nil], nofun, rfl, rfl, nofun, fun _ => sound, Iff.rfl, ?_⟩
    exact .inr (.inr rfl)
  | succ chunks ih =>
    rw [pumpStream]
    by_cases unsent : b.staticOff < b.staticBody.length
    · -- the next part of a static body
      rw [if_pos unsent]
      simp only
      set take := min (b.staticBody.length - b.staticOff) maxResponseChunkPayload
      set part := (b.staticBody.drop b.staticOff).take take with part_eq
      rcases gentle.answer (encodeDataFrame part) before with accepted | ⟨held, -⟩
      · have small : part.length ≤ maxResponseChunkPayload := by
          rw [part_eq, length_take]
          omega
        have sent := payload_accepted small (t := attempt env streamId (encodeDataFrame part) false before) rfl
          accepted rfl
        have next : ({ b with staticOff := b.staticOff + take } : OutgoingBody).Sound := ⟨sound.alive, sound.chunks⟩
        obtain ⟨new, b', finished, run, later⟩ :=
          ih next gentle (before ++ [attempt env streamId (encodeDataFrame part) false before])
        refine ⟨_ :: new, b', finished, ?_, later.cons rfl accepted rfl ?_ Iff.rfl⟩
        · rw [accepted]
          simp only [run, append_assoc, singleton_append]
        · rw [sent, part_eq]
          simp only [remaining]
          rw [← append_assoc, ← drop_drop, take_append_drop]
      · rw [held]
        exact ⟨_, b, false, rfl, .held sound rfl held⟩
    · rw [if_neg unsent]
      have done : b.staticBody.drop b.staticOff = [] := drop_eq_nil_iff.mpr (Nat.not_lt.mp unsent)
      have ends := fun empty => endBody_spec gentle empty before (chunks + 1)
      cases lazy : b.body with
      | none =>
        obtain ⟨new, b', run, turn⟩ := ends (by simp [remaining, done, lazy])
        exact ⟨new, b', true, run, turn⟩
      | some produced =>
        simp only [sound.alive, Bool.false_eq_true, if_false]
        cases produced with
        | nil =>
          obtain ⟨new, b', run, turn⟩ := ends (by simp [remaining, done, lazy])
          exact ⟨new, b', true, run, turn⟩
        | cons chunk rest =>
          rcases gentle.answer (encodeDataFrame chunk) before with accepted | ⟨-, static⟩
          · have bounds : ∀ c ∈ chunk :: rest, c.length ≤ maxResponseChunkPayload := by
              have all := sound.chunks
              rwa [lazy] at all
            have sent := payload_accepted (bounds chunk mem_cons_self)
              (t := attempt env streamId (encodeDataFrame chunk) false before) rfl accepted rfl
            have kind : some rest = none ↔ b.body = none := by simp [lazy]
            have next : ({ b with body := some rest } : OutgoingBody).Sound :=
              ⟨sound.alive, fun c member => bounds c (mem_cons_of_mem _ member)⟩
            obtain ⟨new, b', finished, run, later⟩ := ih next (gentle.mono kind)
              (before ++ [attempt env streamId (encodeDataFrame chunk) false before])
            refine ⟨_ :: new, b', finished, ?_, later.cons rfl accepted rfl ?_ kind⟩
            · rw [sound.alive] at run
              simp only [accepted, run, append_assoc, singleton_append]
            · rw [sent]
              simp [remaining, done, lazy]
          · cases lazy.symm.trans static

section Call

def share (streamId : Nat) (attempts : List Attempt) : List Attempt :=
  attempts.filter fun t => t.streamId = streamId

variable {attempts : List Attempt}

theorem share_own (own : ∀ t ∈ attempts, t.streamId = streamId) : share streamId attempts = attempts := by
  simpa [share, filter_eq_self] using own

theorem share_other (other : ∀ t ∈ attempts, t.streamId ≠ streamId) : share streamId attempts = [] := by
  simpa [share, filter_eq_nil_iff] using other

theorem share_append (streamId : Nat) (xs ys : List Attempt) :
    share streamId (xs ++ ys) = share streamId xs ++ share streamId ys := filter_append ..

structure Pumped (entries entries' : List (Nat × OutgoingBody)) (new : List Attempt) (finished : List Nat) :
    Prop where
  keys : entries'.map Prod.fst = entries.map Prod.fst
  own : ∀ t ∈ new, t.streamId ∈ entries.map Prod.fst
  known : ∀ id ∈ finished, id ∈ entries.map Prod.fst
  turns : ∀ entry ∈ entries, ∃ b', (entry.1, b') ∈ entries' ∧
    Advance entry.1 maxChunksPerPump entry.2 (share entry.1 new) b' (entry.1 ∈ finished)

theorem Pumped.cons {rest rest' : List (Nat × OutgoingBody)}
    {first new : List Attempt} {finished : List Nat} {ended : Bool} (fresh : streamId ∉ rest.map Prod.fst)
    (turn : Advance streamId maxChunksPerPump b first b' ended) (later : Pumped rest rest' new finished) :
    Pumped ((streamId, b) :: rest) ((streamId, b') :: rest') (first ++ new)
      (if ended then streamId :: finished else finished) := by
  have not_later : streamId ∉ finished := fun member => fresh (later.known _ member)
  have new_other : ∀ t ∈ new, t.streamId ≠ streamId := fun t member same => fresh (same ▸ later.own t member)
  refine ⟨by rw [map_cons, map_cons, later.keys], ?_, ?_, ?_⟩
  · intro t member
    rcases mem_append.mp member with mine | theirs
    · exact turn.own t mine ▸ mem_cons_self
    · exact mem_cons_of_mem _ (later.own t theirs)
  · intro id member
    by_cases ends_now : ended = true
    · rw [if_pos ends_now] at member
      rcases mem_cons.mp member with rfl | member
      · exact mem_cons_self
      · exact mem_cons_of_mem _ (later.known id member)
    · rw [if_neg ends_now] at member
      exact mem_cons_of_mem _ (later.known id member)
  · intro entry member
    rcases mem_cons.mp member with rfl | member
    · refine ⟨b', mem_cons_self, ?_⟩
      rw [share_append, share_own turn.own, share_other new_other, append_nil]
      have same : (decide (streamId ∈ if ended = true then streamId :: finished else finished)) = ended := by
        cases ended <;> simp [not_later]
      rwa [same]
    · obtain ⟨c, stays, advance⟩ := later.turns entry member
      have other : entry.1 ≠ streamId := fun same => fresh (same ▸ mem_map_of_mem member)
      have first_other : ∀ t ∈ first, t.streamId ≠ entry.1 := fun t mine same =>
        other (same.symm.trans (turn.own t mine))
      refine ⟨c, mem_cons_of_mem _ stays, ?_⟩
      rw [share_append, share_other first_other, nil_append]
      have same : (decide (entry.1 ∈ if ended = true then streamId :: finished else finished)) =
          decide (entry.1 ∈ finished) := by
        cases ended <;> simp [other]
      rwa [same]

theorem pumpEntries_spec {entries : List (Nat × OutgoingBody)} (distinct : (entries.map Prod.fst).Nodup)
    (sound : ∀ entry ∈ entries, entry.2.Sound) (gentle : ∀ entry ∈ entries, Gentle env entry.1 entry.2)
    (before : List Attempt) :
    ∃ entries' new finished, pumpEntries env entries before = (entries', before ++ new, .ok finished) ∧
      Pumped entries entries' new finished := by
  induction entries generalizing before with
  | nil => exact ⟨[], [], [], by rw [pumpEntries, append_nil], rfl, nofun, nofun, nofun⟩
  | cons entry rest ih =>
    obtain ⟨streamId, b⟩ := entry
    rw [map_cons, nodup_cons] at distinct
    obtain ⟨first, b', ended, run, turn⟩ := pumpStream_spec maxChunksPerPump (sound _ mem_cons_self)
      (gentle _ mem_cons_self) before
    obtain ⟨rest', new, finished, later, pumped⟩ := ih distinct.2
      (fun e member => sound e (mem_cons_of_mem _ member))
      (fun e member => gentle e (mem_cons_of_mem _ member)) (before ++ first)
    refine ⟨_, first ++ new, _, ?_, .cons distinct.1 turn pumped⟩
    rw [pumpEntries, run]
    simp only [later, append_assoc]
    rfl

theorem pumpBodies_spec {s : Sender} (distinct : (s.bodies.map Prod.fst).Nodup)
    (sound : ∀ entry ∈ s.bodies, entry.2.Sound) (gentle : ∀ entry ∈ s.bodies, Gentle env entry.1 entry.2) :
    ∃ entries' new finished, pumpBodies env s = .ok finished
        ⟨entries'.filter fun entry => entry.1 ∉ finished, s.attempts ++ new⟩ ∧
      Pumped s.bodies entries' new finished := by
  obtain ⟨entries', new, finished, run, pumped⟩ := pumpEntries_spec distinct sound gentle s.attempts
  refine ⟨entries', new, finished, ?_, pumped⟩
  simp only [pumpBodies, run]

end Call

inductive Endpoint
  | client (s : Sender)
  | server (s : H3Server)

def Endpoint.sender : Endpoint → Sender
  | .client s => s
  | .server s => s.responses

def Endpoint.withSender (sender : Sender) : Endpoint → Endpoint
  | .client _ => .client sender
  | .server s => .server { s with responses := sender }

def Endpoint.pump (env : Env) : Endpoint → Option Failure × Endpoint
  | .client s => (failsWith (pumpSends env) s, .client (after (pumpSends env) s))
  | .server s => (failsWith (H3Server.pumpResponses env) s, .server (after (H3Server.pumpResponses env) s))

structure BodyRun where
  endpoint : Endpoint
  started : List (Nat × Bytes) := []

inductive BodyEvent
  | start (streamId : Nat) (body : OutgoingBody)
  | other (sent : Attempt)
  | reorder (bodies : List (Nat × OutgoingBody))
  | pump (env : Env)

namespace BodyRun

abbrev bodies (r : BodyRun) : List (Nat × OutgoingBody) := r.endpoint.sender.bodies

abbrev attempts (r : BodyRun) : List Attempt := r.endpoint.sender.attempts

def withSender (r : BodyRun) (sender : Sender) : BodyRun := { r with endpoint := r.endpoint.withSender sender }

variable (r : BodyRun)

/-- The order in which a hash table gives its entries is not known. -/
def step : BodyEvent → BodyRun
  | .start streamId body =>
    { r.withSender ⟨r.bodies ++ [(streamId, body)], r.attempts⟩ with
      started := r.started ++ [(streamId, body.remaining)] }
  | .other sent => r.withSender ⟨r.bodies, r.attempts ++ [sent]⟩
  | .reorder bodies => r.withSender ⟨bodies, r.attempts⟩
  | .pump env => { r with endpoint := (r.endpoint.pump env).2 }

/-- Of every body a front has been accepted at any moment. It is on its way, with nothing lost and no
end mark yet, or it is over: accepted as a whole, with one end mark. -/
def Intact : Prop :=
  ∀ streamId whole, (streamId, whole) ∈ r.started → (∀ n, delivered streamId (r.attempts.take n) <+: whole) ∧
    ((∃ b, (streamId, b) ∈ r.bodies ∧ delivered streamId r.attempts ++ b.remaining = whole ∧
        ends streamId r.attempts = 0) ∨
      (streamId ∉ r.bodies.map Prod.fst ∧ delivered streamId r.attempts = whole ∧ ends streamId r.attempts = 1))

/-- The bodies stay intact, and a call of the pump does not fail and gives every stream its turn. -/
def Delivers (event : BodyEvent) : Prop :=
  (r.step event).Intact ∧
  match event with
  | .pump env => (r.endpoint.pump env).1 = none ∧ ∀ entry ∈ r.bodies,
      Tried entry.1 maxChunksPerPump ((r.step event).attempts.drop r.attempts.length)
  | _ => True

/-- Flow control holds back static bodies only, and no end mark. -/
def Meets : BodyEvent → Prop
  | .start streamId body => streamId ∉ r.started.map Prod.fst ∧ delivered streamId r.attempts = [] ∧
      ends streamId r.attempts = 0 ∧ body.Sound
  | .other sent => sent.streamId ∉ r.started.map Prod.fst
  | .reorder bodies => bodies.Perm r.bodies
  | .pump env => ∀ n streamId data fin e, env n streamId data fin = some e →
      e = .flowControlBlocked ∧ fin = false ∧ ∀ b, (streamId, b) ∈ r.bodies → b.body = none

theorem sender_withSender (sender : Sender) : (r.withSender sender).endpoint.sender = sender := by
  obtain ⟨endpoint, started⟩ := r
  cases endpoint <;> rfl

end BodyRun

theorem Endpoint.pump_ok {endpoint : Endpoint} {finished : List Nat} {sender : Sender}
    (run : pumpBodies env endpoint.sender = .ok finished sender) :
    (endpoint.pump env).1 = none ∧ (endpoint.pump env).2.sender = sender := by
  cases endpoint with
  | client s =>
    have whole : pumpSends env s = .ok () sender := run_bind_ok run _
    simp only [Endpoint.pump, failsWith, after_ok whole, whole, Endpoint.sender, and_self]
  | server s =>
    have part : zoom H3Server.responses (fun responses s => { s with responses := responses }) (pumpBodies env) s =
        .ok finished { s with responses := sender } := by
      simp only [zoom]
      rw [show pumpBodies env s.responses = .ok finished sender from run]
    have whole : H3Server.pumpResponses env s = .ok () _ := run_bind_ok part _
    simp only [Endpoint.pump, failsWith, after_ok whole, whole]
    exact ⟨trivial, rfl⟩

theorem delivered_share (streamId : Nat) (attempts : List Attempt) :
    delivered streamId (share streamId attempts) = delivered streamId attempts := by
  rw [delivered, share, filter_filter]
  simp [delivered]

theorem ends_share (streamId : Nat) (attempts : List Attempt) :
    ends streamId (share streamId attempts) = ends streamId attempts := by
  rw [ends, share, countP_filter, ends]
  refine countP_congr fun t _ => ?_
  simp only [Bool.and_eq_true, decide_eq_true_eq]
  exact ⟨fun h => h.1, fun h => ⟨h, h.1⟩⟩

theorem Tried.of_share {streamId chunks : Nat} {attempts : List Attempt}
    (tried : Tried streamId chunks (share streamId attempts)) : Tried streamId chunks attempts := by
  rcases tried with ended | ⟨t, member, held⟩ | all
  · exact .inl ((ends_share _ _).symm.trans ended)
  · exact .inr (.inl ⟨t, (mem_filter.mp member).1, held⟩)
  · refine .inr (.inr ?_)
    rw [← all, share, countP_filter]
    refine countP_congr fun t _ => ?_
    simp only [Bool.and_eq_true, decide_eq_true_eq]
    exact ⟨fun h => ⟨h, h.1⟩, fun h => h.1⟩

structure BodiesInv (bodies : List (Nat × OutgoingBody)) (attempts : List Attempt)
    (started : List (Nat × Bytes)) : Prop where
  distinct : (bodies.map Prod.fst).Nodup
  once : (started.map Prod.fst).Nodup
  sound : ∀ entry ∈ bodies, entry.2.Sound
  underway : ∀ entry ∈ bodies, (entry.1, delivered entry.1 attempts ++ entry.2.remaining) ∈ started ∧
    ends entry.1 attempts = 0
  gone : ∀ body ∈ started, body.1 ∉ bodies.map Prod.fst →
    delivered body.1 attempts = body.2 ∧ ends body.1 attempts = 1

namespace BodiesInv

variable {bodies bodies' : List (Nat × OutgoingBody)} {attempts new : List Attempt} {started : List (Nat × Bytes)}

theorem start (inv : BodiesInv bodies attempts started) {body : OutgoingBody}
    (fresh : streamId ∉ started.map Prod.fst) (nothing : delivered streamId attempts = [])
    (unended : ends streamId attempts = 0) (sound : body.Sound) :
    BodiesInv (bodies ++ [(streamId, body)]) attempts (started ++ [(streamId, body.remaining)]) := by
  have absent : streamId ∉ bodies.map Prod.fst := by
    intro member
    obtain ⟨entry, there, rfl⟩ := mem_map.mp member
    exact fresh (mem_map_of_mem (inv.underway entry there).1)
  refine ⟨?_, ?_, ?_, ?_, ?_⟩
  · rw [map_append, nodup_append_comm]
    exact nodup_cons.mpr ⟨absent, inv.distinct⟩
  · rw [map_append, nodup_append_comm]
    exact nodup_cons.mpr ⟨fresh, inv.once⟩
  · intro entry member
    rcases mem_append.mp member with old | new
    · exact inv.sound entry old
    · exact mem_singleton.mp new ▸ sound
  · intro entry member
    rcases mem_append.mp member with old | new
    · exact ⟨mem_append_left _ (inv.underway entry old).1, (inv.underway entry old).2⟩
    · obtain rfl := mem_singleton.mp new
      refine ⟨mem_append_right _ ?_, unended⟩
      rw [nothing, nil_append]
      exact mem_singleton_self _
  · intro started_body member away
    rw [map_append, mem_append, not_or] at away
    rcases mem_append.mp member with old | new
    · exact inv.gone _ old away.1
    · obtain rfl := mem_singleton.mp new
      exact absurd (mem_singleton_self _) away.2

theorem other (inv : BodiesInv bodies attempts started) {sent : Attempt}
    (elsewhere : sent.streamId ∉ started.map Prod.fst) : BodiesInv bodies (attempts ++ [sent]) started := by
  have apart : ∀ streamId ∈ started.map Prod.fst, ∀ t ∈ [sent], t.streamId ≠ streamId := by
    rintro streamId known t member rfl
    exact elsewhere (mem_singleton.mp member ▸ known)
  have same : ∀ streamId ∈ started.map Prod.fst, delivered streamId (attempts ++ [sent]) = delivered streamId attempts ∧
      ends streamId (attempts ++ [sent]) = ends streamId attempts := fun streamId known =>
    ⟨by rw [delivered_append, delivered_other (apart streamId known), append_nil],
     by rw [ends_append, ends_other (apart streamId known), Nat.add_zero]⟩
  refine ⟨inv.distinct, inv.once, inv.sound, fun entry member => ?_, fun body member away => ?_⟩
  · obtain ⟨known, unended⟩ := inv.underway entry member
    obtain ⟨bytes, marks⟩ := same entry.1 (mem_map_of_mem known)
    rw [bytes, marks]
    exact ⟨known, unended⟩
  · obtain ⟨bytes, marks⟩ := same body.1 (mem_map_of_mem member)
    rw [bytes, marks]
    exact inv.gone body member away

theorem reorder (inv : BodiesInv bodies attempts started) (same : bodies'.Perm bodies) :
    BodiesInv bodies' attempts started where
  distinct := ((same.map _).nodup_iff).mpr inv.distinct
  once := inv.once
  sound entry member := inv.sound entry (same.mem_iff.mp member)
  underway entry member := inv.underway entry (same.mem_iff.mp member)
  gone body member away := inv.gone body member fun there => away ((same.map _).mem_iff.mpr there)

theorem pump (inv : BodiesInv bodies attempts started) {entries' : List (Nat × OutgoingBody)} {finished : List Nat}
    (pumped : Pumped bodies entries' new finished) :
    BodiesInv (entries'.filter fun entry => entry.1 ∉ finished) (attempts ++ new) started := by
  have distinct : (entries'.map Prod.fst).Nodup := pumped.keys ▸ inv.distinct
  -- the entry of a stream before and after its turn
  have turn : ∀ entry ∈ entries', ∃ b, (entry.1, b) ∈ bodies ∧
      Advance entry.1 maxChunksPerPump b (share entry.1 new) entry.2 (entry.1 ∈ finished) := by
    intro entry member
    have known : entry.1 ∈ bodies.map Prod.fst := pumped.keys ▸ mem_map_of_mem member
    obtain ⟨old, there, same⟩ := mem_map.mp known
    obtain ⟨b', stays, advance⟩ := pumped.turns old there
    have only := inj_on_of_nodup_map distinct stays member same
    subst only
    exact ⟨old.2, there, advance⟩
  have share_delivered : ∀ streamId, delivered streamId (attempts ++ new) =
      delivered streamId attempts ++ delivered streamId (share streamId new) := fun streamId => by
    rw [delivered_append, delivered_share]
  have share_ends : ∀ streamId, ends streamId (attempts ++ new) =
      ends streamId attempts + ends streamId (share streamId new) := fun streamId => by
    rw [ends_append, ends_share]
  refine ⟨?_, inv.once, ?_, ?_, ?_⟩
  · exact distinct.sublist (filter_sublist.map _)
  · intro entry member
    obtain ⟨there, unfinished⟩ := mem_filter.mp member
    obtain ⟨b, -, advance⟩ := turn entry there
    exact advance.sound (by simpa using unfinished)
  · intro entry member
    obtain ⟨there, unfinished⟩ := mem_filter.mp member
    obtain ⟨b, old, advance⟩ := turn entry there
    obtain ⟨known, unended⟩ := inv.underway _ old
    have kept := advance.kept
    have ended := advance.ended
    rw [if_neg (by simpa using unfinished)] at ended
    rw [share_delivered, share_ends, append_assoc, kept, unended, ended]
    exact ⟨known, rfl⟩
  · intro body member away
    by_cases there : body.1 ∈ entries'.map Prod.fst
    · obtain ⟨entry, there, same⟩ := mem_map.mp there
      have over_now : entry.1 ∈ finished := by
        by_contra unfinished
        refine away (same ▸ mem_map_of_mem (mem_filter.mpr ⟨there, by simpa using unfinished⟩))
      obtain ⟨b, old, advance⟩ := turn entry there
      obtain ⟨known, unended⟩ := inv.underway _ old
      have whole := inj_on_of_nodup_map inv.once known member same
      have kept := advance.kept
      have ended := advance.ended
      rw [advance.whole (by simpa using over_now), append_nil] at kept
      rw [if_pos (by simpa using over_now)] at ended
      rw [← same, share_delivered, share_ends, kept, unended, ended]
      exact ⟨congrArg Prod.snd whole, rfl⟩
    · have none_new : ∀ t ∈ new, t.streamId ≠ body.1 := by
        rintro t sent same
        exact there (pumped.keys ▸ same ▸ pumped.own t sent)
      rw [delivered_append, delivered_other none_new, append_nil, ends_append, ends_other none_new, Nat.add_zero]
      exact inv.gone body member (pumped.keys ▸ there)

end BodiesInv

namespace BodyRun

variable {r : BodyRun}

def Inv (r : BodyRun) : Prop := BodiesInv r.bodies r.attempts r.started

theorem Inv.intact (inv : r.Inv) : r.Intact := by
  intro streamId whole member
  have states : (∃ b, (streamId, b) ∈ r.bodies ∧ delivered streamId r.attempts ++ b.remaining = whole ∧
        ends streamId r.attempts = 0) ∨
      (streamId ∉ r.bodies.map Prod.fst ∧ delivered streamId r.attempts = whole ∧ ends streamId r.attempts = 1) := by
    by_cases on_its_way : streamId ∈ r.bodies.map Prod.fst
    · obtain ⟨⟨_, b⟩, there, rfl⟩ := mem_map.mp on_its_way
      obtain ⟨known, unended⟩ := inv.underway _ there
      have same := inj_on_of_nodup_map inv.once known member rfl
      exact .inl ⟨b, there, congrArg Prod.snd same, unended⟩
    · exact .inr ⟨on_its_way, inv.gone _ member on_its_way⟩
  refine ⟨fun n => (delivered_take streamId n _).trans ?_, states⟩
  rcases states with ⟨b, -, rfl, -⟩ | ⟨-, rfl, -⟩
  · exact prefix_append _ _
  · exact prefix_rfl

theorem Inv.withSender {sender : Sender} {started : List (Nat × Bytes)}
    (inv : BodiesInv sender.bodies sender.attempts started) :
    Inv { r.withSender sender with started := started } := by
  have same := sender_withSender r sender
  rw [Inv, bodies, attempts]
  rwa [show ({ r.withSender sender with started := started } : BodyRun).endpoint.sender = sender from same]

/-- A call of the pump when flow control holds back static bodies only. -/
theorem Inv.pump (inv : r.Inv) (meets : r.Meets (.pump env)) :
    (r.step (.pump env)).Inv ∧ (r.endpoint.pump env).1 = none ∧
      ∀ entry ∈ r.bodies, Tried entry.1 maxChunksPerPump ((r.step (.pump env)).attempts.drop r.attempts.length) := by
  have gentle : ∀ entry ∈ r.bodies, Gentle env entry.1 entry.2 := by
    intro entry member n data fin e answer
    obtain ⟨held, unended, static⟩ := meets n entry.1 data fin e answer
    exact ⟨held, unended, static entry.2 member⟩
  obtain ⟨entries', new, finished, run, pumped⟩ := pumpBodies_spec inv.distinct inv.sound gentle
  obtain ⟨fine, left⟩ := Endpoint.pump_ok run
  have bodies : (r.step (.pump env)).bodies = entries'.filter fun entry => entry.1 ∉ finished :=
    congrArg Sender.bodies left
  have attempts : (r.step (.pump env)).attempts = r.attempts ++ new := congrArg Sender.attempts left
  refine ⟨?_, fine, fun entry member => ?_⟩
  · rw [Inv, bodies, attempts]
    exact BodiesInv.pump inv pumped
  · rw [attempts, drop_left]
    obtain ⟨b', -, advance⟩ := pumped.turns entry member
    exact advance.tried.of_share

theorem Inv.step (inv : r.Inv) {event : BodyEvent} (meets : r.Meets event) : (r.step event).Inv := by
  cases event with
  | start streamId body =>
    obtain ⟨fresh, nothing, unended, sound⟩ := meets
    exact Inv.withSender (BodiesInv.start inv fresh nothing unended sound)
  | other sent => exact Inv.withSender (BodiesInv.other inv meets)
  | reorder bodies => exact Inv.withSender (BodiesInv.reorder inv meets)
  | pump env => exact (inv.pump meets).1

theorem Inv.delivers (inv : r.Inv) {event : BodyEvent} (meets : r.Meets event) : r.Delivers event := by
  refine ⟨(inv.step meets).intact, ?_⟩
  cases event with
  | pump env => exact (inv.pump meets).2
  | start _ _ | other _ | reorder _ => trivial

end BodyRun

/-- Along every run at either end in which flow control holds back static bodies only. -/
theorem bodies_delivered {endpoint : Endpoint} (idle : endpoint.sender.bodies = []) {events : List BodyEvent}
    (meets : Along BodyRun.step BodyRun.Meets ⟨endpoint, []⟩ events) :
    Along BodyRun.step BodyRun.Delivers ⟨endpoint, []⟩ events := by
  have first : BodyRun.Inv ⟨endpoint, []⟩ := by
    rw [BodyRun.Inv, BodyRun.bodies, idle]
    exact ⟨nodup_nil, nodup_nil, nofun, nofun, nofun⟩
  exact Along.of_invariant BodyRun.Inv (fun _ _ inv now => inv.step now) (fun _ _ inv now => inv.delivers now)
    first meets

def blockOnce : Env := fun n _ _ fin => if n = 0 ∧ fin = false then some .flowControlBlocked else none

def retry (body : OutgoingBody) : List BodyEvent := [.start 0 body, .pump blockOnce, .pump blockOnce]

theorem bodies_delivered_retry :
    Along BodyRun.step BodyRun.Meets ⟨.client {}, []⟩ (retry { staticBody := [1, 2, 3] }) ∧
      Along BodyRun.step BodyRun.Delivers ⟨.client {}, []⟩ (retry { staticBody := [1, 2, 3] }) := by
  have blocked : ∀ n streamId data fin e, blockOnce n streamId data fin = some e →
      e = .flowControlBlocked ∧ fin = false := by
    intro n streamId data fin e answer
    unfold blockOnce at answer
    split_ifs at answer with first
    exact ⟨(Option.some.inj answer).symm, first.2⟩
  have meets : Along BodyRun.step BodyRun.Meets ⟨.client {}, []⟩ (retry { staticBody := [1, 2, 3] }) := by
    refine ⟨⟨nofun, rfl, rfl, rfl, nofun⟩, ?_, ?_, trivial⟩
    all_goals
      intro n streamId data fin e answer
      refine ⟨(blocked _ _ _ _ _ answer).1, (blocked _ _ _ _ _ answer).2, fun b member => ?_⟩
      cases mem_singleton.mp member
      rfl
  exact ⟨meets, bodies_delivered rfl meets⟩

def blockAll : Env := fun _ _ _ _ => some .flowControlBlocked

theorem bodies_undelivered :
    -- the chunk that was held back is gone when the end mark is sent
    ¬ Along BodyRun.step BodyRun.Delivers ⟨.client {}, []⟩ (retry { body := some [[7]] }) ∧
    -- an end mark that is held back fails the call
    ¬ Along BodyRun.step BodyRun.Delivers ⟨.server { scratch := Scratch.fresh }, []⟩
      [.start 0 { body := some [] }, .pump blockAll] := by
  constructor
  · intro all
    obtain ⟨-, states⟩ := all.2.2.1.1 0 [7] (mem_singleton_self _)
    rcases states with ⟨b, member, -⟩ | ⟨-, whole, -⟩
    · exact absurd member not_mem_nil
    · exact absurd whole (by decide +kernel)
  · intro all
    exact absurd all.2.1.2.1 (by decide +kernel)

end Quicz.H3
