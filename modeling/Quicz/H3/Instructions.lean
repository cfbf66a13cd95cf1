import Quicz.H3.Table

/-! The instructions of the two QPACK streams of qpack.zig (RFC 9204, sections 4.3 and 4.4). -/
namespace Quicz.H3

open DynamicTable Proc

inductive EncoderInstruction
  | insertNameRef (isStatic : Bool) (nameIndex : Nat) (value : Bytes)
  | insertLiteral (name value : Bytes)
  | setCapacity (capacity : Nat)
  | duplicate (index : Nat)
deriving DecidableEq

def encodeEncoderInstruction : EncoderInstruction → Bytes
  | .insertNameRef isStatic nameIndex value =>
    encodeInteger (0x80 + if isStatic then 0x40 else 0x00) 6 nameIndex ++ encodeStringToBuf value
  | .insertLiteral name value => encodeInteger 0x40 5 name.length ++ name ++ encodeStringToBuf value
  | .setCapacity capacity => encodeInteger 0x20 5 capacity
  | .duplicate index => encodeInteger 0x00 5 index

def decodeEncoderInstruction {σ : Type} (unhuffman : Bytes → EStateM Failure σ Bytes) (data : Bytes) :
    EStateM Failure σ (EncoderInstruction × Nat) := do
  failIf (data.length = 0) (.error .incompleteString)
  let first ← byteAt data 0
  if first.toNat.testBit 7 then
    let nameIndex ← decodeInteger 6 data 0
    let value ← decodeString unhuffman data nameIndex.2
    return (.insertNameRef (first.toNat.testBit 6) nameIndex.1 value.1, value.2)
  else if first.toNat.testBit 6 then
    failIf (first.toNat.testBit 5) (.error .huffmanNotSupported)
    let nameLen ← decodeInteger 5 data 0
    let stop ← sumU64 nameLen.2 nameLen.1
    failIf (stop > data.length) (.error .incompleteString)
    let value ← decodeString unhuffman data stop
    return (.insertLiteral ((data.drop nameLen.2).take nameLen.1) value.1, value.2)
  else if first.toNat.testBit 5 then
    let capacity ← decodeInteger 5 data 0
    return (.setCapacity capacity.1, capacity.2)
  else
    let index ← decodeInteger 5 data 0
    return (.duplicate index.1, index.2)

/-- What one instruction does to the table. The index into the static table is not checked, and a
name taken from the dynamic table stays a slice of its entry. -/
def applyEncoderInstruction : EncoderInstruction → EStateM Failure DynamicTable Unit
  | .insertNameRef true nameIndex value => do
    let entry ← orThrow staticTable[nameIndex]? (.panic .indexOutOfBounds)
    insert none entry.name value
  | .insertNameRef false nameIndex value => do
    let entry ← (← get).lookup nameIndex
    insert (some nameIndex) entry.name value
  | .insertLiteral name value => insert none name value
  | .setCapacity capacity => modify (setCapacity capacity)
  | .duplicate index => duplicate index

structure Decoder where
  scratch : Scratch
  table : DynamicTable

variable {α : Type}

def Decoder.onScratch (m : EStateM Failure Scratch α) : EStateM Failure Decoder α :=
  zoom Decoder.scratch (fun scratch d => { d with scratch := scratch }) m

variable (m : EStateM Failure DynamicTable α)

def Decoder.onTable : EStateM Failure Decoder α :=
  zoom Decoder.table (fun table d => { d with table := table }) m

variable (data : Bytes)

def encoderStreamStep (pos : Nat) : EStateM Failure Decoder Nat := do
  let decoded ← Decoder.onScratch (decodeEncoderInstruction decodeToScratch (data.drop pos))
  Decoder.onTable (applyEncoderInstruction decoded.1)
  return decoded.2

/- Every instruction takes a byte at least, so as many rounds as bytes are enough. -/
def encoderStreamLoop (data : Bytes) : Nat → Nat → EStateM Failure Decoder Nat
  | 0, pos => pure pos
  | rounds + 1, pos =>
    if pos < data.length then do
      let consumed ← encoderStreamStep data pos
      if consumed = 0 then pure pos else encoderStreamLoop data rounds (pos + consumed)
    else pure pos

def decodeEncoderStreamInstructions : EStateM Failure Decoder Nat :=
  encoderStreamLoop data data.length 0

/-- The part of processPeerEncoderStream (server.zig) that concerns the table. The capacity the peer
has set is compared with the advertised one when all instructions have been applied. -/
def applyPeerEncoderStream (localQpackMaxTableCapacity : Nat) (data : Bytes) : EStateM Failure Decoder Unit := do
  let _ ← decodeEncoderStreamInstructions data
  let d ← get
  failIf (d.table.maxCapacity > localQpackMaxTableCapacity) (.error .qpackCapacityExceedsSettings)

inductive DecoderInstruction
  | sectionAck (streamId : Nat)
  | streamCancellation (streamId : Nat)
  | insertCountIncrement (increment : Nat)
deriving DecidableEq

def encodeDecoderInstruction : DecoderInstruction → Bytes
  | .sectionAck streamId => encodeInteger 0x80 7 streamId
  | .streamCancellation streamId => encodeInteger 0x40 6 streamId
  | .insertCountIncrement increment => encodeInteger 0x00 6 increment

def decodeDecoderInstruction {σ : Type} (data : Bytes) : EStateM Failure σ (DecoderInstruction × Nat) := do
  failIf (data.length = 0) (.error .incompleteString)
  let first ← byteAt data 0
  if first.toNat.testBit 7 then
    let streamId ← decodeInteger 7 data 0
    return (.sectionAck streamId.1, streamId.2)
  else if first.toNat.testBit 6 then
    let streamId ← decodeInteger 6 data 0
    return (.streamCancellation streamId.1, streamId.2)
  else
    let increment ← decodeInteger 6 data 0
    return (.insertCountIncrement increment.1, increment.2)

/-- What a QPACK encoder works on: its table, and the Required Insert Count of each section it has
sent and not seen acknowledged, by stream. -/
structure Encoder where
  table : DynamicTable
  pendingSections : List (Nat × Nat)

def Encoder.onTable : EStateM Failure Encoder α :=
  zoom Encoder.table (fun table e => { e with table := table }) m

def Encoder.removePending (streamId : Nat) (e : Encoder) : Encoder :=
  { e with pendingSections := e.pendingSections.filter fun pending => pending.1 ≠ streamId }

def Encoder.addPending (streamId requiredInsertCount : Nat) (e : Encoder) : Encoder :=
  { table := e.table.protectUpTo requiredInsertCount,
    pendingSections := (streamId, requiredInsertCount) :: (e.removePending streamId).pendingSections }

def recomputeProtectedEntries (e : Encoder) : Encoder :=
  { e with table := e.table.setProtectedEntries ((e.pendingSections.map Prod.snd).foldl max 0) }

def applyDecoderInstruction : DecoderInstruction → EStateM Failure Encoder Unit
  | .sectionAck streamId => do
    let pending ← orThrow ((← get).pendingSections.find? fun pending => pending.1 = streamId)
      (.error .duplicateSectionAck)
    modify (Encoder.removePending streamId)
    Encoder.onTable (acknowledgeReceived pending.2)
    modify recomputeProtectedEntries
  | .streamCancellation streamId =>
    modify fun e => recomputeProtectedEntries (e.removePending streamId)
  | .insertCountIncrement increment => do
    failIf (increment = 0) (.error .zeroInsertCountIncrement)
    let count ← sumU64 (← get).table.knownReceivedCount increment
    Encoder.onTable (acknowledgeReceived count)

def decoderStreamLoop (data : Bytes) : Nat → Nat → EStateM Failure Encoder Nat
  | 0, pos => pure pos
  | rounds + 1, pos =>
    if pos < data.length then do
      let decoded ← decodeDecoderInstruction (data.drop pos)
      applyDecoderInstruction decoded.1
      if decoded.2 = 0 then pure pos else decoderStreamLoop data rounds (pos + decoded.2)
    else pure pos

def decodeDecoderStreamInstructions : EStateM Failure Encoder Nat :=
  decoderStreamLoop data data.length 0

end Quicz.H3
