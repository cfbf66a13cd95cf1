import Quicz.H3.Strings

/-! The dynamic table of qpack.zig (RFC 9204, section 3): entries from the newest to the oldest,
evicted from the back. Sizes of what the table holds are natural numbers: they are bounded by the
memory that holds it. So is the count of insertions. -/
namespace Quicz.H3

def dynamicEntryOverhead : Nat := 32

variable (entry : HeaderField)

def HeaderField.size : Nat :=
  entry.name.length + entry.value.length + dynamicEntryOverhead

structure DynamicTable where
  entries : List HeaderField := []
  insertCount : Nat := 0
  knownReceivedCount : Nat := 0
  protectedEntries : Nat := 0
  maxCapacity : Nat := 0
  currentSize : Nat := 0
deriving DecidableEq

namespace DynamicTable

variable (t : DynamicTable)

def evictOldest : DynamicTable :=
  match t.entries.getLast? with
  | none => t
  | some entry => { t with entries := t.entries.dropLast, currentSize := t.currentSize - entry.size }

def oldestIsProtected : Bool :=
  t.entries.length ≠ 0 ∧ t.insertCount - 1 - (t.entries.length - 1) < t.protectedEntries

/-- Evicts until the size still needed fits, one round for each entry; stops with false at an entry
that must be kept. -/
def evictFor (need : Nat) (respectProtection : Bool) : Nat → DynamicTable → Bool × DynamicTable
  | 0, t => (true, t)
  | rounds + 1, t =>
    if t.currentSize + need > t.maxCapacity ∧ t.entries.length > 0 then
      if respectProtection ∧ t.oldestIsProtected then (false, t)
      else evictFor need respectProtection rounds t.evictOldest
    else (true, t)

def evictToCapacity : DynamicTable := (evictFor 0 false t.entries.length t).2

def setCapacity (newCapacity : Nat) (t : DynamicTable) : DynamicTable :=
  evictToCapacity { t with maxCapacity := newCapacity }

def protectUpTo (insertCountPrefix : Nat) (t : DynamicTable) : DynamicTable :=
  { t with protectedEntries := max t.protectedEntries insertCountPrefix }

def setProtectedEntries (count : Nat) (t : DynamicTable) : DynamicTable :=
  { t with protectedEntries := count }

def clearEntries : DynamicTable := { t with entries := [], currentSize := 0 }

def push (t : DynamicTable) : DynamicTable :=
  { t with entries := entry :: t.entries, currentSize := t.currentSize + entry.size,
           insertCount := t.insertCount + 1 }

/-- Whether the memory behind the name is still there: a name lent by an entry goes with it. The
index of an entry, from the newest, does not change when older ones go. -/
def holdsLender : Option Nat → Bool
  | none => true
  | some index => index < t.entries.length

variable (lender : Option Nat) (name value : Bytes)

/-- Inserts a copy of the name and the value. The lender is the entry whose memory the name is a
slice of, if any; copying happens after eviction. -/
def insertInternal (respectProtection : Bool) : EStateM Failure DynamicTable Bool := do
  let t ← get
  let entry : HeaderField := ⟨name, value⟩
  if entry.size > t.maxCapacity then
    set t.clearEntries
    return false
  else
    let room := t.evictFor entry.size respectProtection t.entries.length
    set room.2
    if room.1 then
      Proc.failIf (!room.2.holdsLender lender) (.panic .useAfterFree)
      set (room.2.push entry)
      return true
    else
      return false

def insert : EStateM Failure DynamicTable Unit := do
  let _ ← insertInternal lender name value false

def tryInsertProtected : EStateM Failure DynamicTable Bool :=
  insertInternal none name value true

def lookup {σ : Type} (relativeIndex : Nat) (t : DynamicTable) : EStateM Failure σ HeaderField :=
  Proc.orThrow t.entries[relativeIndex]? (.error .invalidDynamicIndex)

/- The name and the value are copied before the insertion. -/
variable (relativeIndex : Nat)

def duplicate : EStateM Failure DynamicTable Unit := do
  let entry ← (← get).lookup relativeIndex
  insert none entry.name entry.value

def getAbsoluteIndex {σ : Type} (relativeIndex : Nat) (t : DynamicTable) : EStateM Failure σ Nat := do
  Proc.failIf (relativeIndex ≥ t.entries.length) (.error .invalidDynamicIndex)
  return t.insertCount - 1 - relativeIndex

def acknowledgeReceived (count : Nat) : EStateM Failure DynamicTable Unit := do
  let t ← get
  Proc.failIf (count > t.insertCount) (.error .knownReceivedCountBeyondSent)
  set { t with knownReceivedCount := max t.knownReceivedCount count }

def isReferenceable (t : DynamicTable) : Bool :=
  let known := min t.knownReceivedCount t.insertCount
  known ≠ 0 ∧ relativeIndex < t.insertCount ∧ relativeIndex ≥ t.insertCount - known

def findExact (t : DynamicTable) : Option Nat :=
  t.entries.findIdx? fun entry => entry.name = name ∧ entry.value = value

def findName (name : Bytes) (t : DynamicTable) : Option Nat :=
  t.entries.findIdx? fun entry => entry.name = name

end DynamicTable

end Quicz.H3
