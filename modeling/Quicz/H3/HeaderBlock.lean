import Quicz.H3.Instructions

/-! Header blocks of qpack.zig (RFC 9204, section 4.5). The index of a dynamic reference counts from
the newest entry of the table at hand, on both sides. -/
namespace Quicz.H3

inductive FieldRepresentation
  | dynamicIndexed (relativeIndex : Nat)
  | staticIndexed (index : Nat)
  | dynamicNameRef (relativeIndex : Nat) (value : Bytes)
  | staticNameRef (nameIndex : Nat) (value : Bytes)
  | literal (name value : Bytes)
deriving DecidableEq

def DynamicTable.referenceable (t : DynamicTable) (found : Option Nat) : Option Nat :=
  found.filter fun index => t.isReferenceable index

variable (field : HeaderField)

def selectFieldRepresentation (t : DynamicTable) : FieldRepresentation :=
  match t.referenceable (t.findExact field.name field.value) with
  | some index => .dynamicIndexed index
  | none =>
    match findStaticIndex field.name field.value with
    | some index => .staticIndexed index
    | none =>
      match t.referenceable (t.findName field.name) with
      | some index => .dynamicNameRef index field.value
      | none =>
        match findStaticNameIndex field.name with
        | some index => .staticNameRef index field.value
        | none => .literal field.name field.value

def encodeFieldRepresentation : FieldRepresentation → Bytes
  | .dynamicIndexed relativeIndex => encodeInteger 0x80 6 relativeIndex
  | .staticIndexed index => encodeInteger 0xc0 6 index
  | .dynamicNameRef relativeIndex value => encodeInteger 0x40 4 relativeIndex ++ encodeStringToBuf value
  | .staticNameRef nameIndex value => encodeInteger 0x50 4 nameIndex ++ encodeStringToBuf value
  | .literal name value => encodeStringToBuf4 name ++ encodeStringToBuf value

def FieldRepresentation.dynamicIndex : FieldRepresentation → Option Nat
  | .dynamicIndexed relativeIndex => some relativeIndex
  | .dynamicNameRef relativeIndex _ => some relativeIndex
  | _ => none

def requiredInsertCount {σ : Type} (t : DynamicTable) : Nat → List FieldRepresentation → EStateM Failure σ Nat
  | count, [] => pure count
  | count, rep :: rest =>
    match rep.dynamicIndex with
    | none => requiredInsertCount t count rest
    | some index => do
      let absolute ← t.getAbsoluteIndex index
      requiredInsertCount t (max count (absolute + 1)) rest

/-- The block and its Required Insert Count. The Delta Base is always 0. -/
def encodeHeaderBlockWithDynamicInfo {σ : Type} (fields : List HeaderField) (t : DynamicTable) :
    EStateM Failure σ (Bytes × Nat) := do
  let reps := fields.map fun field => selectFieldRepresentation field t
  let count ← requiredInsertCount t 0 reps
  return (encodeInteger 0 8 count ++ [0x00] ++ reps.flatMap encodeFieldRepresentation, count)

structure DynamicEncodeResult where
  headerBlock : Bytes
  instructions : List EncoderInstruction
  requiredInsertCount : Nat

def insertInstruction (t : DynamicTable) : EncoderInstruction :=
  match t.findName field.name with
  | some index => .insertNameRef false index field.value
  | none =>
    match findStaticNameIndex field.name with
    | some index => .insertNameRef true index field.value
    | none => .insertLiteral field.name field.value

/-- Inserts the fields that no index stands for yet; the instructions for the peer. -/
def insertFields : List HeaderField → EStateM Failure DynamicTable (List EncoderInstruction)
  | [] => pure []
  | field :: rest => do
    let t ← get
    if (t.findExact field.name field.value).isSome then insertFields rest
    else if (findStaticIndex field.name field.value).isSome then insertFields rest
    else
      let inserted ← DynamicTable.tryInsertProtected field.name field.value
      let later ← insertFields rest
      return if inserted then insertInstruction field t :: later else later

variable (fields : List HeaderField)

def encodeHeaderBlockWithDynamicInserting : EStateM Failure DynamicTable DynamicEncodeResult := do
  let instructions ← insertFields fields
  let block ← encodeHeaderBlockWithDynamicInfo fields (← get)
  return ⟨block.1, instructions, block.2⟩

def selectStaticRepresentation : FieldRepresentation :=
  match findStaticIndex field.name field.value with
  | some index => .staticIndexed index
  | none =>
    match findStaticNameIndex field.name with
    | some index => .staticNameRef index field.value
    | none => .literal field.name field.value

def encodeHeaderBlock : Bytes :=
  [0x00, 0x00] ++ fields.flatMap fun field => encodeFieldRepresentation (selectStaticRepresentation field)

variable {σ : Type} (unhuffman : Bytes → EStateM Failure σ Bytes)

def staticEntry (index : Nat) : EStateM Failure σ HeaderField :=
  Proc.orThrow staticTable[index]? (.error .invalidStaticIndex)

def decodeFieldLine (data : Bytes) (pos : Nat) : EStateM Failure σ (HeaderField × Nat) := do
  let first ← byteAt data pos
  if first.toNat.testBit 7 then
    let index ← decodeInteger 6 data pos
    Proc.failIf (!first.toNat.testBit 6) (.error .dynamicTableUnsupported)
    return (← staticEntry index.1, index.2)
  else if first.toNat.testBit 6 then
    let nameIndex ← decodeInteger 4 data pos
    Proc.failIf (!first.toNat.testBit 4) (.error .dynamicTableUnsupported)
    let entry ← staticEntry nameIndex.1
    let value ← decodeString unhuffman data nameIndex.2
    return (⟨entry.name, value.1⟩, value.2)
  else if first.toNat.testBit 5 then
    let name ← decodeString4 unhuffman data pos
    let value ← decodeString unhuffman data name.2
    return (⟨name.1, value.1⟩, value.2)
  else throw (.error .unsupportedRepresentation)

/- Every line takes a byte at least, so as many rounds as bytes are enough. -/
def decodeFieldLines (data : Bytes) (outLen : Nat) :
    Nat → Nat → List HeaderField → EStateM Failure σ (List HeaderField)
  | 0, _, fields => pure fields
  | rounds + 1, pos, fields =>
    if pos < data.length then do
      Proc.failIf (fields.length ≥ outLen) (.error .tooManyFields)
      let line ← decodeFieldLine unhuffman data pos
      decodeFieldLines data outLen rounds line.2 (fields ++ [line.1])
    else pure fields

def decodeHeaderBlock (data : Bytes) (outLen : Nat) : EStateM Failure σ (List HeaderField) := do
  Proc.failIf (data.length < 2) (.error .invalidHeaderBlock)
  decodeFieldLines unhuffman data outLen data.length 2 []

def referencedEntry (isStatic : Bool) (index : Nat) (t : DynamicTable) : EStateM Failure σ HeaderField :=
  if isStatic then staticEntry index else t.lookup index

def decodeDynamicFieldLine (t : DynamicTable) (data : Bytes) (pos : Nat) :
    EStateM Failure σ (HeaderField × Nat) := do
  let first ← byteAt data pos
  if first.toNat.testBit 7 then
    let index ← decodeInteger 6 data pos
    let entry ← referencedEntry (first.toNat.testBit 6) index.1 t
    return (entry, index.2)
  else if first.toNat.testBit 6 then
    let nameIndex ← decodeInteger 4 data pos
    let entry ← referencedEntry (first.toNat.testBit 4) nameIndex.1 t
    let value ← decodeString unhuffman data nameIndex.2
    return (⟨entry.name, value.1⟩, value.2)
  else if first.toNat.testBit 5 then
    let name ← decodeString4 unhuffman data pos
    let value ← decodeString unhuffman data name.2
    return (⟨name.1, value.1⟩, value.2)
  else throw (.error .invalidHeaderBlock)

/- The lines after the last field that fits the output are left unread. -/
def decodeDynamicFieldLines (t : DynamicTable) (data : Bytes) (outLen : Nat) :
    Nat → Nat → List HeaderField → EStateM Failure σ (List HeaderField)
  | 0, _, fields => pure fields
  | rounds + 1, pos, fields =>
    if pos < data.length then do
      let line ← decodeDynamicFieldLine unhuffman t data pos
      Proc.failIf (fields.length ≥ outLen) (.panic .indexOutOfBounds)
      if (fields ++ [line.1]).length ≥ outLen then pure (fields ++ [line.1])
      else decodeDynamicFieldLines t data outLen rounds line.2 (fields ++ [line.1])
    else pure fields

def decodeHeaderBlockWithDynamicInfo (t : DynamicTable) (data : Bytes) (outLen : Nat) :
    EStateM Failure σ (List HeaderField × Nat) := do
  Proc.failIf (data.length < 2) (.error .invalidHeaderBlock)
  let required ← decodeInteger 8 data 0
  Proc.failIf (required.2 ≥ data.length) (.error .incompleteString)
  let base ← decodeInteger 7 data required.2
  Proc.failIf (required.1 > t.insertCount) (.error .blockedByQpack)
  let fields ← decodeDynamicFieldLines unhuffman t data outLen data.length base.2 []
  return (fields, required.1)

end Quicz.H3
