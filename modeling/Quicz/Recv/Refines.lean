import Quicz.Recv.Machine

/-! Every receive handler, and `recvOnStream`, moves the receive part along steps of the
receive machine. The handlers are walked through once, here; the properties of the
receive side are proved over the machine. -/
namespace Quicz

open Chunks Proc Connection Keyed Option RecvPart

variable {rule : RecvRule} {c : Connection} {stream : RecvStreamState}

/- `t` is `c` with streams opened at the end of the list. -/
structure Opened (c t : Connection) : Prop where
  rest : t = { c with recvStreams := t.recvStreams }
  added : ∃ new, t.recvStreams = c.recvStreams ++ new ∧ ∀ s ∈ new, s = c.freshRecvStream s.streamId
  moves : ∀ rule, RecvSteps rule c.recvPart t.recvPart

variable {c t : Connection} {streamId : Nat}

theorem Opened.takes (opened : Opened c t) : Takes rule c t :=
  ⟨opened.moves rule, by rw [opened.rest]; rfl⟩

theorem Opened.refl (c : Connection) : Opened c c := ⟨rfl, ⟨[], by simp⟩, fun _ => .refl _⟩

theorem Opened.trans {a b c : Connection} (h : Opened a b) (k : Opened b c) : Opened a c := by
  obtain ⟨new, hn, fresh⟩ := h.added
  obtain ⟨more, hm, fresh'⟩ := k.added
  have same : b.freshRecvStream = a.freshRecvStream := by rw [h.rest]; rfl
  refine ⟨by rw [k.rest, h.rest], ⟨new ++ more, ?_, ?_⟩, fun rule => (h.moves rule).trans (k.moves rule)⟩
  · rw [hm, hn, List.append_assoc]
  · intro s hs
    rcases List.mem_append.mp hs with old | late
    · exact fresh s old
    · exact same ▸ fresh' s late

theorem appendRecvStreamState_opened (unknown : c.findRecvStream streamId = none) :
    Opened c { c with recvStreams := c.recvStreams ++ [c.freshRecvStream streamId] } :=
  ⟨rfl, ⟨[c.freshRecvStream streamId], rfl, by simp [freshRecvStream]⟩,
    fun _ => .one (.opens (r := c.recvPart) streamId unknown)⟩

theorem findRecvStream_append (new : List RecvStreamState) (streamId : Nat) :
    findRecvStream { c with recvStreams := c.recvStreams ++ new } streamId =
      (c.findRecvStream streamId).or (lookup RecvStreamState.streamId streamId new) :=
  lookup_append new

theorem Opened.find_old (h : Opened c t)
    (found : c.findRecvStream streamId = some stream) : t.findRecvStream streamId = some stream := by
  obtain ⟨new, eq, _⟩ := h.added
  rw [h.rest, eq, findRecvStream_append, found, some_or]

theorem Opened.find_new (h : Opened c t) (unknown : c.findRecvStream streamId = none)
    (found : t.findRecvStream streamId = some stream) : stream = c.freshRecvStream streamId := by
  obtain ⟨new, eq, fresh⟩ := h.added
  rw [h.rest, eq, findRecvStream_append, unknown, none_or] at found
  obtain ⟨key, member⟩ := lookup_some found
  rw [fresh stream member, key]

theorem openMissing_spec (ids : List Nat) (c : Connection) : wp (ids.forM fun id => do
        if ((← get).findRecvStream id).isNone then appendRecvStreamState id else pure ())
      (fun _ t => Opened c t ∧ ∀ id ∈ ids, ∃ stream, t.findRecvStream id = some stream)
      (fun _ _ => False) c := by
  induction ids generalizing c with
  | nil => exact ⟨.refl c, by simp⟩
  | cons id ids ih =>
    have first : wp (do
        if ((← get).findRecvStream id).isNone then appendRecvStreamState id else pure () : ConnM Unit)
        (fun _ t => Opened c t ∧ ∃ stream, t.findRecvStream id = some stream)
        (fun _ _ => False) c := by
      simp only [wp_bind, wp_get, wp_ite, appendRecvStreamState, wp_modify, wp_pure, isNone_iff_eq_none]
      refine ⟨fun unknown => ⟨appendRecvStreamState_opened unknown, c.freshRecvStream id, ?_⟩,
        fun known => ⟨.refl c, ne_none_iff_exists'.mp known⟩⟩
      rw [findRecvStream_append, unknown, none_or, lookup_cons]
      simp [freshRecvStream]
    rw [wp_forM_cons]
    refine wp_mono first (fun _ t h => ?_)
    obtain ⟨opened, stream, found⟩ := h
    refine wp_mono (ih t) (fun _ u h => ⟨opened.trans h.1, ?_⟩)
    obtain ⟨opened', all⟩ := h
    intro j hj
    rcases List.mem_cons.mp hj with rfl | tail
    · exact ⟨stream, opened'.find_old found⟩
    · exact all j tail

theorem mem_streamIdsUpTo (streamId : Nat) : streamId ∈ streamIdsUpTo streamId := by
  simp only [streamIdsUpTo, countForId, List.mem_map, List.mem_range]
  exact ⟨streamId / 4, by omega, by omega⟩

/-- Opening never fails. It returns the stream as it stands in the table: the old one, or
a fresh one. -/
theorem ensureRecvStreamState_spec (streamId : Nat) (c : Connection) : wp (ensureRecvStreamState streamId)
      (fun stream t => Opened c t ∧ t.findRecvStream streamId = some stream ∧
        (c.findRecvStream streamId = some stream ∨
          c.findRecvStream streamId = none ∧ stream = c.freshRecvStream streamId)) (fun _ _ => False) c := by
  simp only [ensureRecvStreamState, wp_bind, wp_get]
  cases known : c.findRecvStream streamId with
  | some stream => exact ⟨.refl c, known, Or.inl rfl⟩
  | none =>
    simp only [wp_bind, wp_get, wp_orThrow]
    refine wp_mono (openMissing_spec (streamIdsUpTo streamId) c)
      (fun _ t h => ?_)
    obtain ⟨opened, all⟩ := h
    obtain ⟨stream, found⟩ := all streamId (mem_streamIdsUpTo streamId)
    refine ⟨fun s hs => ⟨opened, hs, Or.inr ⟨trivial, opened.find_new known hs⟩⟩, fun missing => ?_⟩
    rw [found] at missing
    cases missing

theorem ensureRecvStreamState_receives {f : RecvStreamState → ConnM Unit}
    (next : ∀ stream t, Opened c t → t.findRecvStream streamId = some stream →
      (c.findRecvStream streamId = some stream ∨
        c.findRecvStream streamId = none ∧ stream = c.freshRecvStream streamId) →
      RunsFrom (Takes rule) (fun _ => Takes rule) t (f stream)) :
    RunsFrom (Takes rule) (fun _ => Takes rule) c (ensureRecvStreamState streamId >>= f) := by
  rw [RunsFrom, wp_bind]
  refine wp_mono (ensureRecvStreamState_spec streamId c) ?_ fun _ _ h => h.elim
  rintro stream t ⟨opened, found, origin⟩
  exact (next stream t opened found origin).later opened.takes

/- What a STREAM frame must satisfy to be stored in a stream. -/
structure Admits (stream : RecvStreamState) (frame : StreamFrame) (stop : Nat) : Prop where
  live : stream.resetErrorCode = none
  credit : stop ≤ stream.maxData
  sized : ∀ n, stream.finalSize = some n → stop ≤ n ∧ (frame.fin → stop = n)
  closes : frame.fin → stream.finalSize = none → highestOffset stream ≤ stop

variable {frame : StreamFrame} {stop : Nat}

theorem acceptsStreamFrame_true (credit : stop ≤ stream.maxData)
    (accepted : acceptsStreamFrame stream frame stop = .ok true) : Admits stream frame stop := by
  unfold acceptsStreamFrame at accepted
  cases size : stream.finalSize with
  | some finalSize =>
    simp only [size] at accepted
    split at accepted
    · cases accepted
    · split at accepted
      · cases accepted
      · rename_i below same
        split at accepted
        · cases accepted
        · cases accepted
        · split at accepted
          · cases accepted
          · split at accepted
            · cases accepted
            · rename_i live
              refine ⟨by simpa using live, credit, fun n hn => ?_, fun _ none => ?_⟩
              · cases size.symm.trans hn
                exact ⟨by omega, fun fin => by by_contra ne; exact same ⟨fin, ne⟩⟩
              · rw [size] at none
                cases none
  | none =>
    simp only [size] at accepted
    split at accepted
    · cases accepted
    · rename_i live
      refine ⟨by simpa using live, credit, fun n hn => (by rw [size] at hn; cases hn), fun fin _ => ?_⟩
      rw [if_pos fin] at accepted
      split at accepted
      · cases accepted
      · rename_i highest known
        split at accepted
        · cases accepted
        · rw [← highestReceivedStreamEndOffset_ok known]
          omega

theorem freshRecvStream_admits (credit : stop ≤ c.recvMaxStreamData) :
    Admits (c.freshRecvStream streamId) frame stop :=
  ⟨rfl, credit, by simp [freshRecvStream], fun _ _ => by
    simp [highestOffset, freshRecvStream]⟩

theorem validateIncomingStreamCount_receives (counted : c.validateIncomingStreamCount streamId = .ok ()) :
    (!isBidirectional streamId && isLocalInitiator c.side streamId) = false := by
  unfold validateIncomingStreamCount at counted
  cases kind : isBidirectional streamId with
  | true => rfl
  | false =>
    cases own : isLocalInitiator c.side streamId with
    | false => rfl
    | true => simp [isLocalBidirectional, kind, own] at counted

theorem storeStreamFrame_receives (may : rule.stores frame)
    (receives : Receivable c.side frame.streamId) (stopEq : endOffset frame.offset frame.data.length = some stop)
    (known : ∀ stream, c.findRecvStream frame.streamId = some stream → Admits stream frame stop)
    (unknown : c.findRecvStream frame.streamId = none → stop ≤ c.recvMaxStreamData) :
    RunsFrom (Takes rule) (fun _ => Takes rule) c (storeStreamFrame frame stop) := by
  refine ensureRecvStreamState_receives fun stream t opened found origin => .value fun segments new => .read <|
    .orThrow fun total sum => .failIf fun within => ?_
  have admits : Admits stream frame stop := by
    rcases origin with old | ⟨missing, rfl⟩
    · exact known stream old
    · exact freshRecvStream_admits (unknown missing)
  obtain ⟨rfl, _⟩ := endOffset_some.mp sum
  exact ⟨.one (.stores (r := t.recvPart) frame found stopEq admits.live admits.credit admits.sized
    admits.closes new (by simpa [recvPart] using within) may (by rw [opened.rest]; exact receives)), rfl⟩

theorem receiveStreamFrame_receives (may : rule.stores frame) : Steps (Takes rule) (receiveStreamFrame frame) := by
  refine .runs fun c => .failIf fun known => .read <| .value fun _ counted => .orThrow fun stop stopEq => ?_
  have receives : Receivable c.side frame.streamId := ⟨by omega, validateIncomingStreamCount_receives counted⟩
  cases found : c.findRecvStream frame.streamId with
  | some stream =>
    refine .failIf fun credit => .value fun accepted run => .ite (fun yes => ?_) fun _ => Takes.refl c
    subst yes
    refine storeStreamFrame_receives may receives stopEq (fun s hs => ?_) (fun missing => ?_)
    · cases found.symm.trans hs
      exact acceptsStreamFrame_true (by omega) run
    · rw [found] at missing
      cases missing
  | none =>
    refine .failIf fun credit => storeStreamFrame_receives may receives stopEq (fun s hs => ?_) fun _ => by omega
    rw [found] at hs
    cases hs

theorem drainStreams_steps (streams : List RecvStreamState) (r : RecvPart)
    (before : List RecvStreamState) (here : r.recvStreams = before ++ streams) :
    RecvSteps rule r { r with recvStreams := before ++ (drainStreams streams).1 } := by
  induction streams generalizing r before with
  | nil =>
    simp only [drainStreams, ← here]
    exact .refl r
  | cons stream rest ih =>
    simp only [drainStreams]
    cases run : drainStream stream with
    | error e =>
      simp only [← here]
      exact .refl r
    | ok drained =>
      have first : RecvSteps rule r _ := .one (.drains here run)
      have next := ih { r with recvStreams := before ++ drained :: rest } (before ++ [drained]) (by simp)
      exact first.trans (by simpa using next)

theorem drainPendingRecvStreams_receives : Steps (Takes rule) drainPendingRecvStreams := by
  intro c
  have steps : RecvSteps rule c.recvPart _ := drainStreams_steps c.recvStreams c.recvPart [] rfl
  simp only [drainPendingRecvStreams, wp_bind, wp_get, wp_set, wp_liftExcept]
  exact ⟨fun _ _ => ⟨steps, rfl⟩, fun _ _ => ⟨steps, rfl⟩⟩

theorem chargeReset_receives {reset : ResetStreamFrame}
    (found : c.findRecvStream reset.streamId = some stream) (incomplete : ∀ n, stream.finalSize = some n →
      stream.resetErrorCode = none ∧ n = reset.finalSize ∧ stream.data.length < n)
    (credit : reset.finalSize ≤ stream.maxData) (highest : highestOffset stream ≤ reset.finalSize) :
    RunsFrom (Takes rule) (fun _ => Takes rule) c (chargeReset stream reset) := by
  refine .value fun received count => .failIf fun enough => .read <| .orThrow fun total sum => .failIf fun within => ?_
  obtain rfl := receivedStreamByteCount_ok count
  obtain ⟨rfl, _⟩ := addU64_some.mp sum
  exact ⟨.one (.resets (r := c.recvPart) reset found incomplete credit highest (by omega)
    (by simpa [recvPart] using within)), rfl⟩

theorem receiveResetStreamFrame_receives (reset : ResetStreamFrame) :
    Steps (Takes rule) (receiveResetStreamFrame reset) := by
  refine .runs fun c => .failIf fun _ => .read <| .value fun _ _ => ensureRecvStreamState_receives
    fun stream t opened found _ => .failIf fun credit => .value fun highest known => .failIf fun covers => ?_
  obtain rfl := highestReceivedStreamEndOffset_ok known
  cases size : stream.finalSize with
  | some finalSize =>
    refine .failIf fun same => .ite (fun _ => Takes.refl t) fun live => .ite (fun _ => Takes.refl t) fun incomplete =>
      chargeReset_receives found (fun n hn => ?_) (by omega) (by omega)
    cases size.symm.trans hn
    exact ⟨by simpa using live, by omega, by omega⟩
  | none => exact chargeReset_receives found (fun n hn => by rw [size] at hn; cases hn) (by omega) (by omega)

/- Queueing a MAX frame changes the queue only; it fails for the given values only. -/
def QueuesMax (queue : Nat → ConnM Unit) (fails : Nat → Prop) : Prop :=
  ∀ n c, wp (queue n) (fun _ t => ∃ frames, t = { c with pendingMaxFrames := frames })
    (fun _ t => t = c ∧ fails n) c

variable {fails : Nat → Prop}

theorem queueMaxFrame_queues (frame : Nat → PendingMaxFrame) :
    QueuesMax (fun n => queueMaxFrame (frame n)) fails := by
  intro n c
  simp only [queueMaxFrame, wp_modify]
  split
  · exact ⟨c.pendingMaxFrames, rfl⟩
  · exact ⟨_, rfl⟩

theorem queueMaxDataFrame_queues : QueuesMax queueMaxDataFrame fun _ => False :=
  queueMaxFrame_queues .data

theorem queueMaxStreamDataFrame_queues (streamId : Nat) :
    QueuesMax (queueMaxStreamDataFrame streamId) fun _ => False :=
  queueMaxFrame_queues (.streamData streamId)

theorem queueMaxStreamsBidiFrame_queues : QueuesMax queueMaxStreamsBidiFrame fun n => maxStreamCount < n := by
  intro n c
  simp only [queueMaxStreamsBidiFrame, wp_bind, wp_failIf]
  exact ⟨fun above => ⟨trivial, above⟩, fun _ => queueMaxFrame_queues .streamsBidi n c⟩

theorem queueMaxStreamsUniFrame_queues : QueuesMax queueMaxStreamsUniFrame fun n => maxStreamCount < n := by
  intro n c
  simp only [queueMaxStreamsUniFrame, wp_bind, wp_failIf]
  exact ⟨fun above => ⟨trivial, above⟩, fun _ => queueMaxFrame_queues .streamsUni n c⟩

theorem nextLimitAfterPeerBlocked_below {maximum current reported : Nat} (window : Option Nat)
    (below : reported < current) : nextLimitAfterPeerBlocked maximum current reported window = none := by
  cases window with
  | none => rfl
  | some window =>
    simp only [nextLimitAfterPeerBlocked]
    rw [if_pos (by omega)]

/-- The raised limit is above the old one, within the maximum, and at most one window past
the report. -/
theorem nextLimitAfterPeerBlocked_some {maximum current reported limit : Nat} {window : Option Nat}
    (h : nextLimitAfterPeerBlocked maximum current reported window = some limit) :
    ∃ w, window = some w ∧ current < limit ∧ limit ≤ maximum ∧ limit ≤ reported + w := by
  cases window with
  | none => cases h
  | some w =>
    simp only [nextLimitAfterPeerBlocked] at h
    split at h
    · cases h
    · split at h
      · cases h
      · cases h
        exact ⟨w, rfl, by omega, by omega, by omega⟩

/-- If the handler's effect without failure is a step, so is its effect with failure: the
queue can only fail when there was no limit to raise. -/
theorem answerBlocked_receives {report : Connection → Connection} {limit : Connection → Nat} {maximum : Nat}
    {window : Connection → Option Nat} {queue : Nat → ConnM Unit}
    {raise : Nat → Connection → Connection} {reported : Nat} (queues : QueuesMax queue fails)
    (safe : ∀ n ≤ maximum, ¬ fails n)
    (steps : ∀ frames, Takes rule c
      (match nextLimitAfterPeerBlocked maximum (limit (report c)) reported (window (report c)) with
        | some n => raise n { report c with pendingMaxFrames := frames }
        | none => { report c with pendingMaxFrames := frames })) :
    RunsFrom (Takes rule) (fun _ => Takes rule) c (answerBlocked report limit
      (fun c => nextLimitAfterPeerBlocked maximum (limit c) reported (window c)) queue raise reported) := by
  simp only [RunsFrom, answerBlocked, wp_bind, wp_modify, wp_get, wp_ite]
  refine ⟨fun under => ?_, fun _ => ?_⟩
  · rw [nextLimitAfterPeerBlocked_below _ under] at steps
    refine wp_mono (queues _ _) ?_ ?_
    · rintro _ t ⟨frames, rfl⟩
      exact steps frames
    · rintro _ t ⟨rfl, _⟩
      exact steps _
  · cases found : nextLimitAfterPeerBlocked maximum (limit (report c)) reported (window (report c)) with
    | none =>
      rw [found] at steps
      exact steps _
    | some n =>
      rw [found] at steps
      obtain ⟨_, _, _, capped, _⟩ := nextLimitAfterPeerBlocked_some found
      simp only [wp_bind, wp_modify]
      refine wp_mono (queues n (report c)) ?_ (fun _ _ h => (safe n capped h.2).elim)
      rintro _ t ⟨frames, rfl⟩
      exact steps frames

theorem receiveDataBlockedFrame_receives (maximumData : Nat) :
    Steps (Takes rule) (receiveDataBlockedFrame maximumData) := by
  intro c
  have step : RecvSteps rule c.recvPart _ := .one (.dataBlocked c.recvPart maximumData)
  refine answerBlocked_receives queueMaxDataFrame_queues (fun _ _ => id) fun frames => ?_
  cases found : nextLimitAfterPeerBlocked maxQuicVarint c.recvMaxData maximumData c.config.receiveConnectionWindow <;>
    exact ⟨by simpa [nextReceiveLimitAfterPeerBlocked, recvPart, found] using step, rfl⟩

variable (maximumStreams : Nat)

theorem receiveStreamsBlockedBidiFrame_receives :
    Steps (Takes rule) (receiveStreamsBlockedBidiFrame maximumStreams) := by
  intro c
  have step : RecvSteps rule c.recvPart _ := .one (.streamsBlockedBidi c.recvPart maximumStreams)
  refine answerBlocked_receives queueMaxStreamsBidiFrame_queues (fun _ => Nat.not_lt.mpr) fun frames => ?_
  cases found : nextLimitAfterPeerBlocked maxStreamCount c.recvMaxStreamsBidi maximumStreams
      c.config.receiveStreamCountWindow <;>
    exact ⟨by simpa [nextReceiveStreamCountLimitAfterPeerBlocked, recvPart, found] using step, rfl⟩

theorem receiveStreamsBlockedUniFrame_receives :
    Steps (Takes rule) (receiveStreamsBlockedUniFrame maximumStreams) := by
  intro c
  have step : RecvSteps rule c.recvPart _ := .one (.streamsBlockedUni c.recvPart maximumStreams)
  refine answerBlocked_receives queueMaxStreamsUniFrame_queues (fun _ => Nat.not_lt.mpr) fun frames => ?_
  cases found : nextLimitAfterPeerBlocked maxStreamCount c.recvMaxStreamsUni maximumStreams
      c.config.receiveStreamCountWindow <;>
    exact ⟨by simpa [nextReceiveStreamCountLimitAfterPeerBlocked, recvPart, found] using step, rfl⟩

theorem receiveStreamDataBlockedFrame_receives (streamId maximumStreamData : Nat) :
    Steps (Takes rule) (receiveStreamDataBlockedFrame streamId maximumStreamData) := by
  refine .runs fun c => .failIf fun _ => .read <| .value fun _ _ => ensureRecvStreamState_receives
    fun stream t opened found _ => .ite (fun _ => Takes.refl t) fun unsized => ?_
  obtain rfl : stream.streamId = streamId := (lookup_some found).1
  have step : RecvSteps rule t.recvPart _ :=
    .one (.streamDataBlocked (r := t.recvPart) maximumStreamData found (by simpa using unsized))
  refine answerBlocked_receives (queueMaxStreamDataFrame_queues _) (fun _ _ => id) fun frames => ?_
  rw [nextReceiveLimitAfterPeerBlocked] at step
  cases raised : nextLimitAfterPeerBlocked maxQuicVarint stream.maxData maximumStreamData
    t.config.receiveStreamWindow with
  | some n => exact ⟨by simpa [recvPart, putRecvStream, put, raised] using step, rfl⟩
  | none =>
    have same : put t.recvPart stream = t.recvPart := put_found found
    simp only [RecvPart.put, recvPart, RecvPart.mk.injEq] at same
    exact ⟨by simpa [recvPart, put, raised, same] using step, rfl⟩

/- The state after the stream-count credit: nothing, or one more stream and the mark. -/
def Credited (r : RecvPart) (stream : RecvStreamState) (stream' : RecvStreamState) (r' : RecvPart) : Prop :=
  (stream' = stream ∧ r' = r) ∨
  (isLocalInitiator r.side stream.streamId = false ∧ stream.streamCountCreditReleased = false ∧
    stream' = { stream with streamCountCreditReleased := true } ∧
    r' = (r.addStreamCredit stream.streamId).put stream')

theorem queueClosedReceiveStreamCountCredit_spec (stream : RecvStreamState) (c : Connection) :
    wp (queueClosedReceiveStreamCountCredit stream)
      (fun stream' t => Credited c.recvPart stream stream' t.recvPart ∧ OnlyRecv c t) (fun _ t => t = c) c := by
  simp only [queueClosedReceiveStreamCountCredit, wp_bind, wp_get, wp_ite, wp_pure, wp_orThrow,
    wp_liftExcept, wp_failIf, wp_modify, implies_true, true_and, and_true]
  refine ⟨fun _ => ⟨Or.inl ⟨rfl, rfl⟩, rfl⟩, fun unreleased => ⟨fun _ => ⟨Or.inl ⟨rfl, rfl⟩, rfl⟩, fun peer =>
    ⟨fun kind limit sum _ _ _ => wp_mono (queueMaxStreamsBidiFrame_queues limit c) ?_ (fun _ _ h => h.1),
      fun kind limit sum _ _ _ => wp_mono (queueMaxStreamsUniFrame_queues limit c) ?_ (fun _ _ h => h.1)⟩⟩⟩
  all_goals
    rintro _ t ⟨frames, rfl⟩
    obtain ⟨rfl, _⟩ := addU64_some.mp sum
    exact ⟨Or.inr ⟨by simpa [recvPart] using peer, by simpa using unreleased, rfl, by
      simp [addStreamCredit, kind, recvPart, putRecvStream, put]⟩, rfl⟩

/- When the credit is released, the read that is under way finishes the stream. -/
theorem queueReceiveStreamCountCredit_spec (stream : RecvStreamState) (consumed : Nat) (c : Connection) :
    wp (queueReceiveStreamCountCredit stream consumed)
      (fun stream' t => ((stream' = stream ∧ t.recvPart = c.recvPart) ∨
        (Credited c.recvPart stream stream' t.recvPart ∧
          ∃ n, stream.finalSize = some n ∧ n ≤ stream.readOffset + consumed)) ∧ OnlyRecv c t)
      (fun _ t => t = c) c := by
  unfold queueReceiveStreamCountCredit
  split
  · exact ⟨Or.inl ⟨rfl, rfl⟩, rfl⟩
  · split
    · exact ⟨Or.inl ⟨rfl, rfl⟩, rfl⟩
    · cases size : stream.finalSize with
      | none => exact ⟨Or.inl ⟨rfl, rfl⟩, rfl⟩
      | some n =>
        dsimp only
        split
        · exact ⟨Or.inl ⟨rfl, rfl⟩, rfl⟩
        · simp only [wp_bind, wp_orThrow, wp_ite, wp_pure]
          refine ⟨fun total sum => ⟨fun _ => ⟨Or.inl ⟨trivial, trivial⟩, rfl⟩, fun finished => ?_⟩, fun _ => trivial⟩
          obtain ⟨rfl, _⟩ := addU64_some.mp sum
          refine wp_mono (queueClosedReceiveStreamCountCredit_spec stream c) ?_
          exact fun _ _ credited => ⟨Or.inr ⟨credited.1, n, rfl, by omega⟩, credited.2⟩

theorem nextReceiveStreamDataLimit_ok {consumed limit : Nat}
    (h : c.nextReceiveStreamDataLimit stream consumed = .ok limit) :
    nextDataLimit stream.maxData consumed (highestOffset stream) c.config.receiveStreamWindow = .ok limit := by
  unfold nextReceiveStreamDataLimit at h
  cases window : c.config.receiveStreamWindow with
  | none => simpa only [window, nextDataLimit] using h
  | some w =>
    simp only [window] at h
    split at h
    · cases h
    · split at h
      · cases h
      · rename_i highest known
        rwa [highestReceivedStreamEndOffset_ok known] at h

theorem recvPart_restoreCredit (credited : RecvStreamState)
    (found : c.findRecvStream stream.streamId = some stream) (same : credited.streamId = stream.streamId)
    (after : t = c ∨ ∃ frames limit, t =
      { c with pendingMaxFrames := frames, recvMaxData := limit }.putRecvStream credited) :
    (restoreCredit c stream t).recvPart = c.recvPart := by
  have back : adjust RecvStreamState.streamId stream.streamId (fun _ => stream) c.recvStreams =
      c.recvStreams := adjust_found found
  rcases after with rfl | ⟨frames, limit, rfl⟩
  · simp [restoreCredit, putRecvStream, recvPart, back]
  · simp only [restoreCredit, putRecvStream, recvPart, same, adjust_const_const, back]

theorem onlyRecv_restoreCredit (only : OnlyRecv c t) : OnlyRecv c (restoreCredit c stream t) := only

/-- A read of n > 0 bytes raises both limits and may release the stream; a failure leaves
the receive part as it was. -/
theorem queueReceiveFlowControlCredit_spec {n : Nat} (found : c.findRecvStream stream.streamId = some stream)
    (positive : 0 < n) : wp (queueReceiveFlowControlCredit stream n)
      (fun stream' t => OnlyRecv c t ∧ ∃ connectionLimit streamLimit,
        nextDataLimit c.recvMaxData n c.recvDataBytes c.config.receiveConnectionWindow = .ok connectionLimit ∧
        nextDataLimit stream.maxData n (highestOffset stream) c.config.receiveStreamWindow = .ok streamLimit ∧
        ∃ r, r = { c.recvPart.put { stream with maxData := streamLimit } with recvMaxData := connectionLimit } ∧
          ((stream' = { stream with maxData := streamLimit } ∧ t.recvPart = r) ∨
            (Credited r { stream with maxData := streamLimit } stream' t.recvPart ∧
              ∃ size, stream.finalSize = some size ∧ size ≤ stream.readOffset + n)))
      (fun _ t => t.recvPart = c.recvPart ∧ OnlyRecv c t) c := by
  have undone : (restoreCredit c stream c).recvPart = c.recvPart ∧ OnlyRecv c (restoreCredit c stream c) :=
    ⟨recvPart_restoreCredit stream found rfl (Or.inl rfl), onlyRecv_restoreCredit rfl⟩
  simp only [queueReceiveFlowControlCredit, wp_ite, wp_bind, wp_get, wp_onError, wp_liftExcept,
    wp_failIf, wp_modify, undone, implies_true, and_true, true_and]
  refine ⟨fun zero => by omega, fun _ connectionLimit connection streamLimit ofStream _ _ _ _ _ _ => ?_⟩
  refine wp_mono (queueMaxDataFrame_queues connectionLimit c) ?_ (fun _ _ h => h.2.elim)
  rintro _ t ⟨frames, rfl⟩
  refine wp_mono (queueMaxStreamDataFrame_queues stream.streamId streamLimit _) ?_ (fun _ _ h => h.2.elim)
  rintro _ t ⟨frames, rfl⟩
  refine wp_mono (queueReceiveStreamCountCredit_spec _ n _) (fun stream' t credited => ?_) ?_
  · have only : OnlyRecv c t := by
      refine .trans ?_ credited.2
      rfl
    refine ⟨only, connectionLimit, streamLimit, connection, nextReceiveStreamDataLimit_ok ofStream, _, rfl, ?_⟩
    simpa [recvPart, putRecvStream, put] using credited.1
  · rintro _ t rfl
    exact ⟨recvPart_restoreCredit { stream with maxData := streamLimit } found rfl
      (Or.inr ⟨frames, connectionLimit, rfl⟩), onlyRecv_restoreCredit rfl⟩

theorem read_steps {r r' : RecvPart} {stream stream' : RecvStreamState} {n connectionLimit streamLimit : Nat}
    (may : rule.reads stream.streamId) (found : r.find stream.streamId = some stream) (positive : 0 < n)
    (available : stream.readOffset + n ≤ stream.data.length)
    (delivers : stream.resetErrorCode = none ∨ r.config.enableResetPartialDelivery = true)
    (connection : nextDataLimit r.recvMaxData n r.recvDataBytes
      r.config.receiveConnectionWindow = .ok connectionLimit)
    (ofStream : nextDataLimit stream.maxData n (highestOffset stream) r.config.receiveStreamWindow = .ok streamLimit)
    (credited : (stream' = { stream with maxData := streamLimit } ∧
        r' = { r.put { stream with maxData := streamLimit } with recvMaxData := connectionLimit }) ∨
      (Credited { r.put { stream with maxData := streamLimit } with recvMaxData := connectionLimit }
          { stream with maxData := streamLimit } stream' r' ∧
        ∃ size, stream.finalSize = some size ∧ size ≤ stream.readOffset + n)) :
    RecvSteps rule r (r'.put { stream' with readOffset := stream'.readOffset + n }) ∧
      (r'.put { stream' with readOffset := stream'.readOffset + n }).find stream'.streamId =
        some { stream' with readOffset := stream'.readOffset + n } := by
  let read : RecvStreamState :=
    { stream with readOffset := stream.readOffset + n, maxData := streamLimit }
  let r₁ : RecvPart := { r.put read with recvMaxData := connectionLimit }
  have step : RecvSteps rule r r₁ :=
    .one (.reads n found positive available delivers connection ofStream may)
  have known : (r.find read.streamId).isSome := by rw [show r.find read.streamId = _ from found]; rfl
  have after : r₁.find read.streamId = some read := find_put read known
  have plain : put { r.put { stream with maxData := streamLimit } with
      recvMaxData := connectionLimit } read = r₁ := by
    simp only [put, read, r₁, adjust_const_const]
  rcases credited with ⟨rfl, rfl⟩ | ⟨⟨rfl, rfl⟩ | ⟨peer, unreleased, rfl, rfl⟩, size, sized, finished⟩
  · exact ⟨plain ▸ step, plain ▸ after⟩
  · exact ⟨plain ▸ step, plain ▸ after⟩
  · let final : RecvStreamState := { read with streamCountCreditReleased := true }
    have release : RecvSteps rule r₁ ((r₁.addStreamCredit read.streamId).put final) :=
      .one (.releases after peer unreleased (Or.inr ⟨size, sized, finished⟩))
    have eq : put (put (addStreamCredit
          { r.put { stream with maxData := streamLimit } with recvMaxData := connectionLimit } stream.streamId)
          { stream with maxData := streamLimit, streamCountCreditReleased := true }) final =
        (r₁.addStreamCredit read.streamId).put final := by
      simp only [addStreamCredit_eq, put, read, final, r₁, adjust_const_const]
    have still : ((r₁.addStreamCredit read.streamId).find read.streamId).isSome := by
      rw [addStreamCredit_eq]
      exact congrArg isSome after
    exact ⟨eq ▸ step.trans release, eq ▸ find_put final still⟩

theorem markReceiveDataReadIfComplete_streamId (stream : RecvStreamState) :
    (markReceiveDataReadIfComplete stream).streamId = stream.streamId := by
  unfold markReceiveDataReadIfComplete
  split
  · rfl
  · split
    · rfl
    · split <;> rfl

theorem markReceiveDataReadIfComplete_steps {r : RecvPart} (stream : RecvStreamState)
    (found : r.find stream.streamId = some stream) :
    RecvSteps rule r (r.put (markReceiveDataReadIfComplete stream)) := by
  have stay : RecvSteps rule r (r.put stream) := by
    rw [put_found found]
    exact .refl r
  unfold markReceiveDataReadIfComplete
  split
  · exact stay
  · split
    · exact stay
    · rename_i n sized
      split
      · rename_i done
        exact .one (.observesData found ⟨n, sized, done.2⟩)
      · exact stay

/-- A read of nothing can still release a finished stream. -/
theorem queueReceiveFlowControlCredit_zero (rule : RecvRule)
    (found : c.findRecvStream stream.streamId = some stream) : wp (queueReceiveFlowControlCredit stream 0)
      (fun stream' t => Takes rule c t ∧ stream'.streamId = stream.streamId ∧
        stream'.readOffset = stream.readOffset ∧ t.recvPart.find stream'.streamId = some stream')
      (fun _ t => t.recvPart = c.recvPart ∧ OnlyRecv c t) c := by
  rw [queueReceiveFlowControlCredit, if_pos rfl]
  refine wp_mono (queueReceiveStreamCountCredit_spec stream 0 c) ?_ (fun _ _ h => h ▸ ⟨rfl, rfl⟩)
  rintro stream' t ⟨⟨rfl, eq⟩ | ⟨⟨rfl, eq⟩ | ⟨peer, unreleased, rfl, eq⟩, size, sized, finished⟩, only⟩
  · exact ⟨.same eq only, rfl, rfl, eq ▸ found⟩
  · exact ⟨.same eq only, rfl, rfl, eq ▸ found⟩
  · refine ⟨⟨eq ▸ .one (.releases found peer unreleased (Or.inr ⟨size, sized, finished⟩)), only⟩, rfl, rfl, ?_⟩
    rw [eq]
    apply find_put { stream with streamCountCreditReleased := true }
    rw [addStreamCredit_eq]
    exact congrArg isSome found

theorem recvPart_putRecvStream (c : Connection) (stream : RecvStreamState) :
    (c.putRecvStream stream).recvPart = c.recvPart.put stream := rfl

/- The body of a read that delivers data, with or without the completion mark. -/
theorem deliver_receives {n : Nat} (may : rule.reads stream.streamId)
    (found : c.findRecvStream stream.streamId = some stream)
    (available : stream.readOffset + n ≤ stream.data.length)
    (delivers : stream.resetErrorCode = none ∨ c.config.enableResetPartialDelivery = true) :
    wp (queueReceiveFlowControlCredit stream n)
      (fun stream' t =>
        let read := { stream' with readOffset := stream'.readOffset + n }
        Takes rule c (t.putRecvStream read) ∧ (t.putRecvStream read).recvPart.find stream'.streamId = some read)
      (fun _ t => Takes rule c t) c := by
  rcases Nat.eq_zero_or_pos n with rfl | positive
  · refine wp_mono (queueReceiveFlowControlCredit_zero rule found) ?_ fun _ _ h => .same h.1 h.2
    rintro stream' t ⟨takes, _, _, found'⟩
    have same : (t.putRecvStream stream').recvPart = t.recvPart := put_found found'
    exact ⟨⟨same ▸ takes.steps, takes.only⟩, same ▸ found'⟩
  · refine wp_mono (queueReceiveFlowControlCredit_spec found positive) ?_ fun _ _ h => .same h.1 h.2
    rintro stream' t ⟨only, connectionLimit, streamLimit, connection, ofStream, _, rfl, credited⟩
    obtain ⟨steps, found'⟩ :=
      read_steps (r := c.recvPart) may found positive available delivers connection ofStream credited
    exact ⟨⟨steps, only⟩, found'⟩

theorem reportReset_receives (found : c.findRecvStream stream.streamId = some stream)
    (reset : stream.resetErrorCode ≠ none)
    (rest : ¬ (c.config.enableResetPartialDelivery = true ∧ stream.readOffset < stream.data.length)) :
    wp (queueClosedReceiveStreamCountCredit stream)
      (fun stream' t => Takes rule c (t.putRecvStream { stream' with resetReadObserved := true }))
      (fun _ t => Takes rule c t) c := by
  refine wp_mono (queueClosedReceiveStreamCountCredit_spec stream c) ?_ (fun _ _ h => h ▸ .refl _)
  rintro stream' t ⟨credited, only⟩
  refine ⟨?_, only⟩
  rw [recvPart_putRecvStream]
  obtain ⟨rfl, eq⟩ | ⟨peer, unreleased, rfl, eq⟩ := credited
  · rw [eq]
    exact .one (.observesReset found reset rest)
  · rw [eq]
    have release : RecvSteps rule c.recvPart _ := .one (.releases found peer unreleased (Or.inl reset))
    refine release.trans (.one ?_)
    have still : ((c.recvPart.addStreamCredit stream.streamId).put
        { stream with streamCountCreditReleased := true }).find stream.streamId =
        some { stream with streamCountCreditReleased := true } := by
      apply find_put { stream with streamCountCreditReleased := true }
      rw [addStreamCredit_eq]
      exact congrArg isSome found
    refine RecvStep.observesReset still reset ?_
    rwa [addStreamCredit_eq]

theorem recvOnStream_receives (may : rule.reads streamId) (bufLen : Nat) :
    Steps (Takes rule) (recvOnStream streamId bufLen) := by
  refine .runs fun c => .read <| .failIf fun _ => .failIf fun _ => .failIf fun _ => ?_
  cases known : c.findRecvStream streamId with
  | none => exact Takes.refl c
  | some stream =>
    obtain rfl : stream.streamId = streamId := (lookup_some known).1
    have room : stream.readOffset < stream.data.length →
        stream.readOffset + min bufLen (stream.data.drop stream.readOffset).length ≤ stream.data.length := by
      rw [List.length_drop]
      omega
    simp only [RunsFrom, wp_ite, wp_bind, wp_modify, wp_pure, wp_throw]
    refine ⟨fun reset => ⟨fun buffered => ?_, fun rest => ?_⟩, fun live => ⟨fun _ => ?_, fun more => ?_⟩⟩
    · exact wp_mono (deliver_receives may known (room buffered.2) (Or.inr buffered.1)) (fun _ _ h => h.1)
    · exact reportReset_receives known (by rw [← isSome_iff_ne_none]; exact reset) rest
    · refine wp_mono (queueReceiveFlowControlCredit_zero rule known) ?_ fun _ _ h => .same h.1 h.2
      rintro stream' t ⟨takes, _, _, found⟩
      exact takes.trans ⟨markReceiveDataReadIfComplete_steps stream' found, rfl⟩
    · refine wp_mono (deliver_receives may known (room (by omega)) (Or.inl (by simpa using live))) ?_
      rintro stream' t ⟨takes, found⟩
      have marked := takes.steps.trans (markReceiveDataReadIfComplete_steps { stream' with
        readOffset := stream'.readOffset + min bufLen (stream.data.drop stream.readOffset).length } found)
      refine ⟨?_, takes.only⟩
      rwa [recvPart_putRecvStream, put_put _ (markReceiveDataReadIfComplete_streamId _).symm] at marked

end Quicz
