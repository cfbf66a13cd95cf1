import Quicz.Lib.Keyed
import Quicz.H3.HeaderBlock
import Quicz.H3.Pump

/-! The HTTP/3 server of server.zig, with the request decoder of request.zig. -/
namespace Quicz.H3

open Proc

structure DecodedRequest where
  method : Bytes
  path : Bytes
  scheme : Bytes
  authority : Option Bytes
  body : Option Bytes
deriving DecidableEq

structure Response where
  status : Nat
  extraHeaders : List HeaderField := []
  body : Option Bytes := none
  bodyStream : Option (List Bytes) := none

def maxHeaderNameLen : Nat := 256

def maxHeaderValueLen : Nat := 8192

def validateHeaderField (field : HeaderField) : Except H3Error Unit :=
  if field.name.length = 0 then .error .emptyHeaderName
  else if field.name.length > maxHeaderNameLen then .error .headerNameTooLong
  else if field.value.length > maxHeaderValueLen then .error .headerValueTooLong
  else if field.name.any fun c => 65 ≤ c ∧ c ≤ 90 then .error .uppercaseHeaderName
  else .ok ()

structure Pseudo where
  method : Option Bytes := none
  path : Option Bytes := none
  scheme : Option Bytes := none
  authority : Option Bytes := none

def Pseudo.note (p : Pseudo) (field : HeaderField) : Pseudo :=
  if field.name = ascii ":method" then { p with method := some field.value }
  else if field.name = ascii ":path" then { p with path := some field.value }
  else if field.name = ascii ":scheme" then { p with scheme := some field.value }
  else if field.name = ascii ":authority" then { p with authority := some field.value }
  else p

def readFields (p : Pseudo) : List HeaderField → Except H3Error Pseudo
  | [] => .ok p
  | field :: rest =>
    match validateHeaderField field with
    | .error e => .error e
    | .ok () => readFields (p.note field) rest

def requestOf (fields : List HeaderField) : Except H3Error DecodedRequest :=
  match readFields {} fields with
  | .error e => .error e
  | .ok p =>
    match p.method, p.path with
    | none, _ => .error .missingMethod
    | some _, none => .error .missingPath
    | some method, some path => .ok
        { method := method, path := path, scheme := p.scheme.getD (ascii "https"), authority := p.authority,
          body := none }

/- Every frame takes two bytes at least, so as many rounds as bytes are enough. -/
/-- The payload of the first HEADERS frame and what follows it. Frames of unknown types are skipped. -/
def findHeaders : Nat → Bytes → Except H3Error (Bytes × Bytes)
  | 0, _ => .error .incompleteFrame
  | rounds + 1, data =>
    match decodeFrame data with
    | .error e => .error e
    | .ok (frame, consumed) =>
      if frame.frameType = FrameType.headers.code then .ok (frame.payload, data.drop consumed)
      else if isIgnorableHeaderPrefixFrame frame.frameType then findHeaders rounds (data.drop consumed)
      else .error .expectedHeadersFrame

def firstBody (rest : Bytes) : Option Bytes :=
  match takeDataFrame rest with
  | .ok (payload, _) => some payload
  | .error _ => none

def liftExcept {σ α : Type} : Except H3Error α → EStateM Failure σ α
  | .ok a => pure a
  | .error e => throw (.error e)

def fieldSlots : Nat := 32

def decodeRequestWithDynamic (t : DynamicTable) (data : Bytes) : EStateM Failure Scratch (DecodedRequest × Nat) := do
  let found ← liftExcept (findHeaders (data.length + 1) data)
  let block ← decodeHeaderBlockWithDynamicInfo decodeToScratch t found.1 fieldSlots
  let request ← liftExcept (requestOf block.1)
  return ({ request with body := firstBody found.2 }, block.2)

def decodeRequest (data : Bytes) : EStateM Failure Scratch DecodedRequest := do
  let found ← liftExcept (findHeaders (data.length + 1) data)
  let fields ← decodeHeaderBlock decodeToScratch found.1 fieldSlots
  let request ← liftExcept (requestOf fields)
  return { request with body := firstBody found.2 }

inductive Phase
  | headers | body
deriving DecidableEq

structure RequestStream where
  phase : Phase := .headers
  wire : Bytes := []
  bodyWire : Bytes := []
  body : Bytes := []
  bodyFin : Bool := false
  blocked : Bool := false
  decoded : Option DecodedRequest := none

structure H3Server where
  localMaxFieldSectionSize : Nat := 8192
  maxRequestBodySize : Nat := 1024 * 1024
  maxBlockedStreams : Nat := 0
  localQpackMaxTableCapacity : Nat := 0
  encoder : Option Encoder := none
  decTable : Option DynamicTable := none
  scratch : Scratch
  encStreamId : Option Nat := none
  decStreamId : Option Nat := none
  decoderKnownInsertCount : Nat := 0
  blockedRequests : List (Nat × Bytes) := []
  requests : List (Nat × RequestStream) := []
  responses : Sender := {}
  handled : List (Nat × DecodedRequest) := []

namespace H3Server

variable (env : Env) (streamId : Nat) (response : Response)

def sendOnStream (data : Bytes) (fin : Bool) : EStateM Failure H3Server Unit := do
  let s ← get
  let sent := attempt env streamId data fin s.responses.attempts
  set { s with responses := { s.responses with attempts := s.responses.attempts ++ [sent] } }
  match sent.answer with
  | none => pure ()
  | some e => throw (.error e)

def openRequest (s : H3Server) : H3Server :=
  if (Keyed.lookup Prod.fst streamId s.requests).isSome then s
  else { s with requests := s.requests ++ [(streamId, {})] }

def onRequest (f : RequestStream → RequestStream) (s : H3Server) : H3Server :=
  { s with requests := Keyed.adjust Prod.fst streamId (fun entry => (entry.1, f entry.2)) s.requests }

def request : EStateM Failure H3Server RequestStream := do
  let entry ← orThrow (Keyed.lookup Prod.fst streamId (← get).requests) (.panic .useAfterFree)
  return entry.2

def releaseRequest (s : H3Server) : H3Server :=
  { s with requests := s.requests.filter fun entry => entry.1 ≠ streamId }

def onScratch {α : Type} (m : EStateM Failure Scratch α) : EStateM Failure H3Server α :=
  zoom H3Server.scratch (fun scratch s => { s with scratch := scratch }) m

def decodeHeaders (wire : Bytes) : EStateM Failure H3Server (Option (DecodedRequest × Nat)) :=
  recover
    (do
      match (← get).decTable with
      | some t =>
        let decoded ← onScratch (decodeRequestWithDynamic t wire)
        return some decoded
      | none =>
        let request ← onScratch (decodeRequest wire)
        return some (request, 0))
    fun e => if e = .error .blockedByQpack then pure none else throw e

def sendSectionAcknowledgement (streamId requiredInsertCount : Nat) : EStateM Failure H3Server Unit := do
  match (← get).decStreamId with
  | none => return ()
  | some decStreamId =>
    let s ← get
    let acknowledgement := if requiredInsertCount > 0 then encodeDecoderInstruction (.sectionAck streamId) else []
    let insertCount := (s.decTable.map DynamicTable.insertCount).getD 0
    let increment := if insertCount > s.decoderKnownInsertCount then
        encodeDecoderInstruction (.insertCountIncrement (insertCount - s.decoderKnownInsertCount))
      else []
    set { s with decoderKnownInsertCount := max s.decoderKnownInsertCount insertCount }
    if (acknowledgement ++ increment).length > 0 then sendOnStream env decStreamId (acknowledgement ++ increment) false
    else return ()

def responseFields : List HeaderField :=
  (⟨ascii ":status", ascii (toString response.status)⟩ :: response.extraHeaders).take fieldSlots

/-- The instructions for the peer's decoder go out before the block that may refer to them. -/
def sendResponseHeaders (fin : Bool) : EStateM Failure H3Server Unit := do
  let s ← get
  match s.encoder with
  | none =>
    sendOnStream env streamId (writeFrame FrameType.headers.code (encodeHeaderBlock (responseFields response))) fin
  | some encoder =>
    match encodeHeaderBlockWithDynamicInserting (responseFields response) encoder.table with
    | .error e t => do
      set { s with encoder := some { encoder with table := t } }
      throw e
    | .ok r t => do
      let encoder := { encoder with table := t }
      set { s with encoder := some (if r.requiredInsertCount > 0 then
        encoder.addPending streamId r.requiredInsertCount else encoder) }
      let instructions := r.instructions.flatMap encodeEncoderInstruction
      if instructions.length > 0 then
        sendOnStream env (s.encStreamId.getD 0) instructions false
        sendOnStream env streamId (writeFrame FrameType.headers.code r.headerBlock) fin
      else sendOnStream env streamId (writeFrame FrameType.headers.code r.headerBlock) fin

def isHeadMethod (method : Bytes) : Bool := method = ascii "HEAD"

def responseBody (isHead : Bool) : Option OutgoingBody :=
  if isHead then none
  else
    match response.bodyStream with
    | some chunks => some { body := some chunks }
    | none => if (response.body.getD []).length > 0 then some { staticBody := response.body.getD [] } else none

def startResponse (isHead : Bool) : EStateM Failure H3Server Unit := do
  match responseBody response isHead with
  | some body =>
    sendResponseHeaders env streamId response false
    modify fun s => { s with responses := { s.responses with
      bodies := s.responses.bodies.filter (fun entry => entry.1 ≠ streamId) ++ [(streamId, body)] } }
  | none =>
    sendResponseHeaders env streamId response true
    modify (releaseRequest streamId)

end H3Server

variable (env : Env) (handler : DecodedRequest → Response)

namespace H3Server

def skipIgnorable : Nat → Bytes → Bytes × Except H3Error (Frame × Nat)
  | 0, wire => (wire, decodeFrame wire)
  | rounds + 1, wire =>
    match decodeFrame wire with
    | .error e => (wire, .error e)
    | .ok (frame, consumed) =>
      if isIgnorableHeaderPrefixFrame frame.frameType then skipIgnorable rounds (wire.drop consumed)
      else (wire, .ok (frame, consumed))

/-- The complete DATA frames in front: what is left, the body with their payloads, and an error. -/
def parseFrames (maxRequestBodySize : Nat) : Nat → Bytes → Bytes → Bytes × Bytes × Option H3Error
  | 0, wire, body => (wire, body, none)
  | rounds + 1, wire, body =>
    if wire.length = 0 then (wire, body, none)
    else
      match takeDataFrame wire with
      | .error .incompleteFrame => (wire, body, none)
      | .error e => (wire, body, some e)
      | .ok (payload, consumed) =>
        if body.length + payload.length > maxRequestBodySize then (wire, body, some .requestBodyTooLarge)
        else parseFrames maxRequestBodySize rounds (wire.drop consumed) (body ++ payload)

variable (streamId : Nat) (data : Bytes)

/- An error leaves the frames that were parsed in the buffer too. -/
def parseBody : EStateM Failure H3Server Unit := do
  let rs ← request streamId
  let parsed := parseFrames (← get).maxRequestBodySize rs.bodyWire.length rs.bodyWire rs.body
  match parsed.2.2 with
  | some e =>
    modify (onRequest streamId fun rs => { rs with body := parsed.2.1 })
    throw (.error e)
  | none => modify (onRequest streamId fun rs => { rs with bodyWire := parsed.1, body := parsed.2.1 })

def enterBody (consumed : Nat) (decoded : DecodedRequest) (rs : RequestStream) : RequestStream :=
  { rs with bodyWire := rs.bodyWire ++ rs.wire.drop consumed, wire := rs.wire.take consumed,
            decoded := some decoded, phase := .body }

def serve : EStateM Failure H3Server Unit := do
  let rs ← request streamId
  let decoded ← orThrow rs.decoded (.panic .nullUnwrapped)
  let whole := { decoded with body := if rs.body.length > 0 then some rs.body else none }
  modify (onRequest streamId fun rs => { rs with decoded := some whole })
  modify fun s => { s with handled := s.handled ++ [(streamId, whole)] }
  startResponse env streamId (handler whole) (isHeadMethod whole.method)

inductive FeedResult
  | processed | blocked | needMore
deriving DecidableEq

def feedBody (fin : Bool) : EStateM Failure H3Server FeedResult := do
  parseBody streamId
  modify (onRequest streamId fun rs => { rs with bodyFin := rs.bodyFin || fin })
  let rs ← request streamId
  if rs.bodyFin then
    serve env handler streamId
    return .processed
  else return .needMore

/-- The result, and the number of bytes the server has taken over. -/
def feedRequestData (fin : Bool) : EStateM Failure H3Server (FeedResult × Nat) := do
  modify (openRequest streamId)
  let rs ← request streamId
  match rs.phase with
  | .headers =>
    let scanned := skipIgnorable (rs.wire ++ data).length (rs.wire ++ data)
    modify (onRequest streamId fun rs => { rs with wire := scanned.1 })
    match scanned.2 with
    | .error e => if e = .incompleteFrame then return (.needMore, data.length) else throw (.error e)
    | .ok (frame, consumed) =>
      failIf (frame.frameType ≠ FrameType.headers.code) (.error .expectedHeadersFrame)
      failIf (frame.payload.length > (← get).localMaxFieldSectionSize) (.error .fieldSectionTooLarge)
      match ← decodeHeaders (scanned.1.take consumed) with
      | none =>
        -- an end mark in this call is forgotten
        modify (onRequest streamId fun rs => { rs with blocked := true })
        return (.blocked, data.length)
      | some (decoded, requiredInsertCount) =>
        sendSectionAcknowledgement env streamId requiredInsertCount
        modify (onRequest streamId (enterBody consumed decoded))
        return (← feedBody env handler streamId fin, data.length)
  | .body =>
    modify (onRequest streamId fun rs => { rs with bodyWire := rs.bodyWire ++ data })
    return (← feedBody env handler streamId fin, data.length)

/-- A request whose bytes are all there; nothing is done while it waits for insertions. -/
def tryProcessRequest : EStateM Failure H3Server Bool := do
  match ← decodeHeaders data with
  | none => return false
  | some (decoded, requiredInsertCount) =>
    sendSectionAcknowledgement env streamId requiredInsertCount
    modify fun s => { s with handled := s.handled ++ [(streamId, decoded)] }
    startResponse env streamId (handler decoded) (isHeadMethod decoded.method)
    return true

/-- The requests of feedRequestBytes that wait are limited in number. -/
def bufferBlockedRequest : EStateM Failure H3Server Unit := do
  let s ← get
  failIf (streamId ∉ s.blockedRequests.map Prod.fst ∧ s.blockedRequests.length ≥ s.maxBlockedStreams)
    (.error .blockedStreamLimitExceeded)
  let others := s.blockedRequests.filter fun entry => entry.1 ≠ streamId
  set { s with blockedRequests := others ++ [(streamId, data)] }

def feedRequestBytes : EStateM Failure H3Server FeedResult := do
  let frame ← liftExcept (decodeFrame data)
  failIf (frame.1.frameType ≠ FrameType.headers.code) (.error .expectedHeadersFrame)
  failIf (frame.1.payload.length > (← get).localMaxFieldSectionSize) (.error .fieldSectionTooLarge)
  if ← tryProcessRequest env handler streamId data then return .processed
  else
    bufferBlockedRequest streamId data
    return .blocked

def retryBuffered : EStateM Failure H3Server Unit := do
  match Keyed.lookup Prod.fst streamId (← get).blockedRequests with
  | none => return ()
  | some entry =>
    if ← tryProcessRequest env handler streamId entry.2 then
      modify fun s : H3Server => { s with blockedRequests := s.blockedRequests.filter fun entry => entry.1 ≠ streamId }
    else return ()

def retryRequest : EStateM Failure H3Server Unit := do
  let rs ← request streamId
  if rs.phase = .body ∨ !rs.blocked then return ()
  else
    match decodeFrame rs.wire with
    | .error _ => return ()
    | .ok (frame, consumed) =>
      if frame.frameType ≠ FrameType.headers.code then return ()
      else
        match ← decodeHeaders (rs.wire.take consumed) with
        | none => return ()
        | some (decoded, requiredInsertCount) =>
          modify (onRequest streamId fun rs => { rs with blocked := false })
          sendSectionAcknowledgement env streamId requiredInsertCount
          modify (onRequest streamId (enterBody consumed decoded))
          parseBody streamId
          let rs ← request streamId
          if rs.bodyFin then serve env handler streamId else return ()

def unblockBlockedRequests : EStateM Failure H3Server Unit := do
  ((← get).blockedRequests.map Prod.fst).forM (retryBuffered env handler)
  if (← get).decTable.isNone then return ()
  else ((← get).requests.map Prod.fst).forM (retryRequest env handler)

/-- The server's pump: a stream that is finished gives up its request as well. -/
def pumpResponses : EStateM Failure H3Server Unit := do
  let finished ← zoom H3Server.responses (fun responses s => { s with responses := responses }) (pumpBodies env)
  modify fun s : H3Server => { s with requests := s.requests.filter fun entry => entry.1 ∉ finished }

def applyInsertions : EStateM Failure H3Server Unit := do
  let s ← get
  match s.decTable with
  | none => return ()
  | some table =>
    zoom (fun s => ⟨s.scratch, (s.decTable.getD table)⟩)
      (fun d s => { s with scratch := d.scratch, decTable := some d.table })
      (applyPeerEncoderStream s.localQpackMaxTableCapacity data)

def processPeerEncoderStream : EStateM Failure H3Server Unit := do
  applyInsertions data
  unblockBlockedRequests env handler
  pumpResponses env

end H3Server

end Quicz.H3
