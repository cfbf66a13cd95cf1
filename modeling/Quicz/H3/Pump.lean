import Quicz.Lib.Trace
import Quicz.H3.Wire

/-! Sending message bodies: the loop that pumpResponses (server.zig) and pumpSends (client.zig)
share, and what the connection answers to it. -/
namespace Quicz.H3

open Proc

def maxResponseChunkPayload : Nat := 8192

def maxChunksPerPump : Nat := 8

/-- What the connection answers to a send: the number of sends before it, the stream, the bytes and
the end mark may all play a part. -/
abbrev Env : Type := Nat → Nat → Bytes → Bool → Option H3Error

structure Attempt where
  streamId : Nat
  data : Bytes
  fin : Bool
  answer : Option H3Error
deriving DecidableEq

variable (env : Env) (streamId : Nat)

def attempt (data : Bytes) (fin : Bool) (before : List Attempt) : Attempt :=
  ⟨streamId, data, fin, env before.length streamId data fin⟩

/-- ResponseStream of the server and PendingSend of the client. A lazy body is the list of the chunks
its producer has yet to give; `deinited` says that the producer's memory has been freed. -/
structure OutgoingBody where
  body : Option (List Bytes) := none
  staticBody : Bytes := []
  staticOff : Nat := 0
  deinited : Bool := false
deriving DecidableEq

structure Turn where
  entry : OutgoingBody
  attempts : List Attempt
  result : Except Failure Bool

def endBody (b : OutgoingBody) (before : List Attempt) : Turn :=
  let last := attempt env streamId [] true before
  match last.answer with
  | some e => ⟨b, before ++ [last], .error (.error e)⟩
  | none => ⟨{ b with deinited := b.body.isSome }, before ++ [last], .ok true⟩

def pumpStream (env : Env) (streamId : Nat) : Nat → OutgoingBody → List Attempt → Turn
  | 0, b, before => ⟨b, before, .ok false⟩
  | chunks + 1, b, before =>
    if b.staticOff < b.staticBody.length then
      let take := min (b.staticBody.length - b.staticOff) maxResponseChunkPayload
      let sent := attempt env streamId (encodeDataFrame ((b.staticBody.drop b.staticOff).take take)) false before
      match sent.answer with
      | some .flowControlBlocked => ⟨b, before ++ [sent], .ok false⟩
      | some e => ⟨b, before ++ [sent], .error (.error e)⟩
      | none => pumpStream env streamId chunks { b with staticOff := b.staticOff + take } (before ++ [sent])
    else
      match b.body with
      | none => endBody env streamId b before
      | some produced =>
        if b.deinited then ⟨b, before, .error (.panic .useAfterFree)⟩
        else
          match produced with
          | [] => endBody env streamId b before
          | chunk :: rest =>
            -- the producer has given the chunk away before it is known to be sent
            let pulled := { b with body := some rest }
            let sent := attempt env streamId (encodeDataFrame chunk) false before
            match sent.answer with
            | some .flowControlBlocked => ⟨pulled, before ++ [sent], .ok false⟩
            | some e => ⟨pulled, before ++ [sent], .error (.error e)⟩
            | none => pumpStream env streamId chunks pulled (before ++ [sent])

structure Sender where
  bodies : List (Nat × OutgoingBody) := []
  attempts : List Attempt := []

def pumpEntries (env : Env) : List (Nat × OutgoingBody) → List Attempt →
    List (Nat × OutgoingBody) × List Attempt × Except Failure (List Nat)
  | [], before => ([], before, .ok [])
  | (streamId, b) :: rest, before =>
    let turn := pumpStream env streamId maxChunksPerPump b before
    match turn.result with
    | .error e => ((streamId, turn.entry) :: rest, turn.attempts, .error e)
    | .ok finished =>
      let later := pumpEntries env rest turn.attempts
      ((streamId, turn.entry) :: later.1, later.2.1,
        later.2.2.map fun ids => if finished then streamId :: ids else ids)

def pumpBodies : EStateM Failure Sender (List Nat) := fun s =>
  let pumped := pumpEntries env s.bodies s.attempts
  match pumped.2.2 with
  | .error e => .error e { s with bodies := pumped.1, attempts := pumped.2.1 }
  | .ok finished => .ok finished
      { s with bodies := pumped.1.filter fun entry => entry.1 ∉ finished, attempts := pumped.2.1 }

def pumpSends : EStateM Failure Sender Unit := do
  let _ ← pumpBodies env
  return ()

end Quicz.H3
