import Quicz.Lib.Proc
import Quicz.Protocol

/-! How the HTTP/3 code can stop: with one of its errors, or with a check of the language's safe
mode, which no handler catches. -/
namespace Quicz.H3

inductive H3Error
  | invalidHuffmanEncoding | outputBufferTooSmall | eosSymbolDecoded | invalidPadding
  | incompleteString | invalidVarint | invalidHeaderBlock | dynamicTableUnsupported
  | invalidStaticIndex | tooManyFields | unsupportedRepresentation | invalidDynamicIndex
  | huffmanNotSupported | knownReceivedCountBeyondSent | duplicateSectionAck
  | zeroInsertCountIncrement | blockedByQpack | qpackCapacityExceedsSettings
  | incompleteFrame | frameTooLarge | expectedHeadersFrame | expectedDataFrame
  | fieldSectionTooLarge | requestBodyTooLarge | blockedStreamLimitExceeded
  | emptyHeaderName | headerNameTooLong | headerValueTooLong | uppercaseHeaderName
  | missingMethod | missingPath
  | flowControlBlocked | streamClosed | connectionClosed
deriving DecidableEq, Repr

/-- Reading freed memory is undefined rather than checked; nothing after it can be relied on. -/
inductive Panic
  | integerOverflow | indexOutOfBounds | useAfterFree | nullUnwrapped
deriving DecidableEq, Repr

inductive Failure
  | error (e : H3Error)
  | panic (p : Panic)
deriving DecidableEq, Repr

def Failure.IsPanic : Failure → Prop
  | .error _ => False
  | .panic _ => True

instance : DecidablePred Failure.IsPanic := fun f => by
  cases f
  · exact .isFalse id
  · exact .isTrue trivial

variable {σ α β : Type}

def sumU64 (a b : Nat) : EStateM Failure σ Nat := Proc.orThrow (addU64 a b) (.panic .integerOverflow)

def byteAt (data : Bytes) (pos : Nat) : EStateM Failure σ UInt8 :=
  Proc.orThrow data[pos]? (.panic .indexOutOfBounds)

def ascii (text : String) : Bytes := text.toList.map fun c => UInt8.ofNat c.toNat

end Quicz.H3
