import Quicz.Recv.Handlers
import Quicz.Recv.Buffers
import Mathlib.Logic.Relation

/-! The receive side as a machine of its own. Its state is the part of the connection
that receiving and reading can change, and its steps are the atomic changes the handlers
are made of, each with the conditions the code has checked before it. Whatever the
connection does, its receive part moves along these steps, so an invariant of the
receive side is proved once, step by step. -/
namespace Quicz

open Chunks Proc

structure RecvPart where
  config : Config
  side : ConnectionSide
  recvStreams : List RecvStreamState
  recvMaxData : Nat
  recvMaxStreamData : Nat
  recvMaxStreamsBidi : Nat
  recvMaxStreamsUni : Nat
  recvDataBytes : Nat
  peerDataBlockedLimit : Option Nat
  peerStreamDataBlockedLimits : List PeerStreamDataBlockedState
  peerStreamsBlockedBidiLimit : Option Nat
  peerStreamsBlockedUniLimit : Option Nat
  metResets : List MetReset

def Connection.recvPart (c : Connection) : RecvPart where
  config := c.config
  side := c.side
  recvStreams := c.recvStreams
  recvMaxData := c.recvMaxData
  recvMaxStreamData := c.recvMaxStreamData
  recvMaxStreamsBidi := c.recvMaxStreamsBidi
  recvMaxStreamsUni := c.recvMaxStreamsUni
  recvDataBytes := c.recvDataBytes
  peerDataBlockedLimit := c.peerDataBlockedLimit
  peerStreamDataBlockedLimits := c.peerStreamDataBlockedLimits
  peerStreamsBlockedBidiLimit := c.peerStreamsBlockedBidiLimit
  peerStreamsBlockedUniLimit := c.peerStreamsBlockedUniLimit
  metResets := c.metResets

namespace RecvPart

variable (r : RecvPart) (streamId : Nat)

def find : Option RecvStreamState :=
  Keyed.lookup RecvStreamState.streamId streamId r.recvStreams

def put (stream : RecvStreamState) : RecvPart :=
  { r with recvStreams := Keyed.adjust RecvStreamState.streamId stream.streamId (fun _ => stream) r.recvStreams }

theorem put_put {a b : RecvStreamState} (same : a.streamId = b.streamId) : (r.put a).put b = r.put b := by
  simp only [put, same, Keyed.adjust_const_const]

theorem put_found {r : RecvPart} {stream : RecvStreamState}
    (found : r.find stream.streamId = some stream) : r.put stream = r := by
  simp only [put]
  rw [Keyed.adjust_found found]

theorem find_put {r : RecvPart} (stream : RecvStreamState)
    (known : (r.find stream.streamId).isSome) : (r.put stream).find stream.streamId = some stream := by
  obtain ⟨old, found⟩ := Option.isSome_iff_exists.mp known
  simp only [find, put] at found ⊢
  rw [Keyed.lookup_adjust_self fun _ _ => rfl, found, Option.map_some]

def addStreamCredit : RecvPart :=
  if isBidirectional streamId then { r with recvMaxStreamsBidi := r.recvMaxStreamsBidi + 1 }
  else { r with recvMaxStreamsUni := r.recvMaxStreamsUni + 1 }

theorem addStreamCredit_eq : r.addStreamCredit streamId = { r with
    recvMaxStreamsBidi := r.recvMaxStreamsBidi + (isBidirectional streamId == true).toNat
    recvMaxStreamsUni := r.recvMaxStreamsUni + (isBidirectional streamId == false).toNat } := by
  cases kind : isBidirectional streamId <;> simp [addStreamCredit, kind]

end RecvPart

def storedStream (stream : RecvStreamState) (fin : Bool) (stop : Nat)
    (segments : List (Chunk UInt8)) : RecvStreamState :=
  let stored := segments.foldl storeSegment stream
  if fin then { stored with finalSize := some stop } else stored

structure RecvRule where
  stores : StreamFrame → Prop
  reads : Nat → Prop

def RecvRule.any : RecvRule := ⟨fun _ => True, fun _ => True⟩

/-- Streams of this side carry data to it unless they are its own unidirectional ones. -/
def Receivable (side : ConnectionSide) (streamId : Nat) : Prop :=
  streamId ≤ maxQuicVarint ∧ (!isBidirectional streamId && isLocalInitiator side streamId) = false

inductive RecvStep (rule : RecvRule) : RecvPart → RecvPart → Prop
  | opens {r : RecvPart} (streamId : Nat) (unknown : r.find streamId = none) :
      RecvStep rule r { r with
        recvStreams := r.recvStreams ++ [{ streamId, maxData := r.recvMaxStreamData }] }
  | stores {r : RecvPart} {stream : RecvStreamState} (frame : StreamFrame) {stop : Nat}
      {segments : List (Chunk UInt8)}
      (found : r.find frame.streamId = some stream)
      (stopEq : endOffset frame.offset frame.data.length = some stop)
      (live : stream.resetErrorCode = none)
      (credit : stop ≤ stream.maxData)
      (sized : ∀ n, stream.finalSize = some n → stop ≤ n ∧ (frame.fin → stop = n))
      (closes : frame.fin → stream.finalSize = none → highestOffset stream ≤ stop)
      (new : collectNewRecvStreamDataSegments stream frame.chunk = .ok segments)
      (within : r.recvDataBytes + size segments ≤ r.recvMaxData)
      (may : rule.stores frame)
      (receives : Receivable r.side frame.streamId) :
      RecvStep rule r { r.put (storedStream stream frame.fin stop segments) with
        recvDataBytes := r.recvDataBytes + size segments }
  | drains {r : RecvPart} {stream drained : RecvStreamState} {before later : List RecvStreamState}
      (here : r.recvStreams = before ++ stream :: later) (run : drainStream stream = .ok drained) :
      RecvStep rule r { r with recvStreams := before ++ drained :: later }
  | resets {r : RecvPart} {stream : RecvStreamState} (reset : ResetStreamFrame)
      (found : r.find reset.streamId = some stream)
      (incomplete : ∀ n, stream.finalSize = some n →
        stream.resetErrorCode = none ∧ n = reset.finalSize ∧ stream.data.length < n)
      (credit : reset.finalSize ≤ stream.maxData)
      (highest : highestOffset stream ≤ reset.finalSize)
      (counted : byteCount stream ≤ reset.finalSize)
      (within : r.recvDataBytes + (reset.finalSize - byteCount stream) ≤ r.recvMaxData) :
      RecvStep rule r { r.put { stream with
          finalSize := some reset.finalSize
          resetErrorCode := some reset.applicationErrorCode } with
        recvDataBytes := r.recvDataBytes + (reset.finalSize - byteCount stream)
        metResets := r.metResets ++ [⟨stream, reset⟩] }
  | reads {r : RecvPart} {stream : RecvStreamState} (n : Nat) {connectionLimit streamLimit : Nat}
      (found : r.find stream.streamId = some stream)
      (positive : 0 < n)
      (available : stream.readOffset + n ≤ stream.data.length)
      (delivers : stream.resetErrorCode = none ∨ r.config.enableResetPartialDelivery = true)
      (connection : nextDataLimit r.recvMaxData n r.recvDataBytes
        r.config.receiveConnectionWindow = .ok connectionLimit)
      (ofStream : nextDataLimit stream.maxData n (highestOffset stream)
        r.config.receiveStreamWindow = .ok streamLimit)
      (may : rule.reads stream.streamId) :
      RecvStep rule r { r.put { stream with
          readOffset := stream.readOffset + n
          maxData := streamLimit } with
        recvMaxData := connectionLimit }
  | releases {r : RecvPart} {stream : RecvStreamState}
      (found : r.find stream.streamId = some stream)
      (peer : isLocalInitiator r.side stream.streamId = false)
      (unreleased : stream.streamCountCreditReleased = false)
      (done : stream.resetErrorCode ≠ none ∨ ∃ n, stream.finalSize = some n ∧ n ≤ stream.readOffset) :
      RecvStep rule r ((r.addStreamCredit stream.streamId).put { stream with streamCountCreditReleased := true })
  | observesData {r : RecvPart} {stream : RecvStreamState}
      (found : r.find stream.streamId = some stream)
      (done : ∃ n, stream.finalSize = some n ∧ n ≤ stream.readOffset) :
      RecvStep rule r (r.put { stream with dataReadObserved := true })
  | observesReset {r : RecvPart} {stream : RecvStreamState}
      (found : r.find stream.streamId = some stream)
      (reset : stream.resetErrorCode ≠ none)
      (rest : ¬ (r.config.enableResetPartialDelivery = true ∧ stream.readOffset < stream.data.length)) :
      RecvStep rule r (r.put { stream with resetReadObserved := true })
  | stops {r : RecvPart} {stream : RecvStreamState} (found : r.find stream.streamId = some stream) :
      RecvStep rule r (r.put { stream with stopSendingSent := true })
  | dataBlocked (r : RecvPart) (maximumData : Nat) :
      RecvStep rule r { r with
        peerDataBlockedLimit := raiseReported r.peerDataBlockedLimit maximumData
        recvMaxData := (nextReceiveLimitAfterPeerBlocked r.recvMaxData maximumData
          r.config.receiveConnectionWindow).getD r.recvMaxData }
  | streamDataBlocked {r : RecvPart} {stream : RecvStreamState} (maximumStreamData : Nat)
      (found : r.find stream.streamId = some stream) (unsized : stream.finalSize = none) :
      RecvStep rule r { r.put { stream with
          maxData := (nextReceiveLimitAfterPeerBlocked stream.maxData maximumStreamData
            r.config.receiveStreamWindow).getD stream.maxData } with
        peerStreamDataBlockedLimits := recordStreamDataBlocked r.peerStreamDataBlockedLimits
          stream.streamId maximumStreamData }
  | streamsBlockedBidi (r : RecvPart) (maximumStreams : Nat) :
      RecvStep rule r { r with
        peerStreamsBlockedBidiLimit := raiseReported r.peerStreamsBlockedBidiLimit maximumStreams
        recvMaxStreamsBidi := (nextReceiveStreamCountLimitAfterPeerBlocked r.recvMaxStreamsBidi
          maximumStreams r.config.receiveStreamCountWindow).getD r.recvMaxStreamsBidi }
  | streamsBlockedUni (r : RecvPart) (maximumStreams : Nat) :
      RecvStep rule r { r with
        peerStreamsBlockedUniLimit := raiseReported r.peerStreamsBlockedUniLimit maximumStreams
        recvMaxStreamsUni := (nextReceiveStreamCountLimitAfterPeerBlocked r.recvMaxStreamsUni
          maximumStreams r.config.receiveStreamCountWindow).getD r.recvMaxStreamsUni }

def RecvSteps (rule : RecvRule) : RecvPart → RecvPart → Prop := Relation.ReflTransGen (RecvStep rule)

variable {rule : RecvRule}

theorem RecvSteps.refl (r : RecvPart) : RecvSteps rule r r := Relation.ReflTransGen.refl

theorem RecvSteps.trans {a b c : RecvPart} (h : RecvSteps rule a b) (k : RecvSteps rule b c) :
    RecvSteps rule a c := Relation.ReflTransGen.trans h k

theorem RecvSteps.one {a b : RecvPart} (h : RecvStep rule a b) : RecvSteps rule a b :=
  Relation.ReflTransGen.single h

theorem RecvSteps.keeps {I : RecvPart → Prop} (step : ∀ a b, I a → RecvStep rule a b → I b)
    {a b : RecvPart} (h : RecvSteps rule a b) (start : I a) : I b := by
  induction h with
  | refl => exact start
  | tail _ last ih => exact step _ _ ih last

def Connection.recvStreamOrFresh (c : Connection) (streamId : Nat) : RecvStreamState :=
  (c.findRecvStream streamId).getD (c.freshRecvStream streamId)

def Connection.withRecvOf (t c : Connection) : Connection :=
  { t with
    recvStreams := c.recvStreams
    recvMaxData := c.recvMaxData
    recvMaxStreamData := c.recvMaxStreamData
    recvMaxStreamsBidi := c.recvMaxStreamsBidi
    recvMaxStreamsUni := c.recvMaxStreamsUni
    recvDataBytes := c.recvDataBytes
    peerDataBlockedLimit := c.peerDataBlockedLimit
    peerStreamDataBlockedLimits := c.peerStreamDataBlockedLimits
    peerStreamsBlockedBidiLimit := c.peerStreamsBlockedBidiLimit
    peerStreamsBlockedUniLimit := c.peerStreamsBlockedUniLimit
    metResets := c.metResets
    pendingMaxFrames := c.pendingMaxFrames }

/-- Only the receive side of the streams and the queue of MAX frames changed. -/
def OnlyRecv (c t : Connection) : Prop := t.withRecvOf c = c

theorem OnlyRecv.trans {a b c : Connection} (h : OnlyRecv a b) (k : OnlyRecv b c) : OnlyRecv a c := by
  have both : (c.withRecvOf b).withRecvOf a = a := by rw [k, h]
  exact both

structure Takes (rule : RecvRule) (c t : Connection) : Prop where
  steps : RecvSteps rule c.recvPart t.recvPart
  only : OnlyRecv c t

theorem Takes.same {c t : Connection} (part : t.recvPart = c.recvPart) (only : OnlyRecv c t) :
    Takes rule c t := ⟨part ▸ .refl _, only⟩

theorem Takes.refl (c : Connection) : Takes rule c c := .same rfl rfl

theorem Takes.trans {a b c : Connection} (h : Takes rule a b) (k : Takes rule b c) :
    Takes rule a c := ⟨h.steps.trans k.steps, h.only.trans k.only⟩

instance {rule : RecvRule} : IsPreorder Connection (Takes rule) where
  refl := .refl
  trans _ _ _ := .trans

end Quicz
