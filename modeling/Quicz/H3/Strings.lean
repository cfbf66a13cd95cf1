import Quicz.H3.Huffman

/-! Header fields, the static table, and the integers and strings of qpack.zig (RFC 9204,
appendix A and section 4.1). Output buffers are unbounded here; a writer that runs out of room is
the caller's concern. -/
namespace Quicz.H3

open UInt8

variable {σ : Type}

structure HeaderField where
  name : Bytes
  value : Bytes
deriving DecidableEq, Repr

def staticEntries : List (String × String) :=
  [(":authority", ""), (":path", "/"), ("age", "0"), ("content-disposition", ""),
  ("content-length", "0"), ("cookie", ""), ("date", ""), ("etag", ""), ("if-modified-since", ""),
  ("if-none-match", ""), ("last-modified", ""), ("link", ""), ("location", ""), ("referer", ""),
  ("set-cookie", ""), (":method", "CONNECT"), (":method", "DELETE"), (":method", "GET"),
  (":method", "HEAD"), (":method", "OPTIONS"), (":method", "POST"), (":method", "PUT"),
  (":scheme", "http"), (":scheme", "https"), (":status", "103"), (":status", "200"),
  (":status", "304"), (":status", "404"), (":status", "503"), ("accept", "*/*"),
  ("accept", "application/dns-message"), ("accept-encoding", "gzip, deflate, br"),
  ("accept-ranges", "bytes"), ("access-control-allow-headers", "cache-control"),
  ("access-control-allow-headers", "content-type"), ("access-control-allow-origin", "*"),
  ("cache-control", "max-age=0"), ("cache-control", "max-age=2592000"),
  ("cache-control", "max-age=604800"), ("cache-control", "no-cache"),
  ("cache-control", "no-store"), ("cache-control", "public, max-age=31536000"),
  ("content-encoding", "br"), ("content-encoding", "gzip"),
  ("content-type", "application/dns-message"), ("content-type", "application/javascript"),
  ("content-type", "application/json"), ("content-type", "application/x-www-form-urlencoded"),
  ("content-type", "image/gif"), ("content-type", "image/jpeg"), ("content-type", "image/png"),
  ("content-type", "text/css"), ("content-type", "text/html; charset=utf-8"),
  ("content-type", "text/plain"), ("content-type", "text/plain;charset=utf-8"),
  ("range", "bytes=0-"), ("strict-transport-security", "max-age=31536000"),
  ("strict-transport-security", "max-age=31536000; includesubdomains"),
  ("strict-transport-security", "max-age=31536000; includesubdomains; preload"),
  ("vary", "accept-encoding"), ("vary", "origin"), ("x-content-type-options", "nosniff"),
  ("x-xss-protection", "1; mode=block"), (":status", "100"), (":status", "204"),
  (":status", "206"), (":status", "302"), (":status", "400"), (":status", "403"),
  (":status", "421"), (":status", "425"), (":status", "500"), ("accept-language", ""),
  ("access-control-allow-credentials", "FALSE"), ("access-control-allow-credentials", "TRUE"),
  ("access-control-allow-headers", "*"), ("access-control-allow-methods", "get"),
  ("access-control-allow-methods", "get, post, options"),
  ("access-control-allow-methods", "options"),
  ("access-control-expose-headers", "content-length"),
  ("access-control-request-headers", "content-type"), ("access-control-request-method", "get"),
  ("access-control-request-method", "post"), ("alt-svc", "clear"), ("authorization", ""),
  ("content-security-policy", "script-src 'none'; object-src 'none'; base-uri 'none'"),
  ("early-data", "1"), ("expect-ct", ""), ("forwarded", ""), ("if-range", ""), ("origin", ""),
  ("purpose", "prefetch"), ("server", ""), ("timing-allow-origin", "*"),
  ("upgrade-insecure-requests", "1"), ("user-agent", ""), ("x-forwarded-for", ""),
  ("x-frame-options", "deny"), ("x-frame-options", "sameorigin")]

def staticTable : List HeaderField := staticEntries.map fun entry => ⟨ascii entry.1, ascii entry.2⟩

def findStaticIndex (name value : Bytes) : Option Nat :=
  staticTable.findIdx? fun entry => entry.name = name ∧ entry.value = value

def findStaticNameIndex (name : Bytes) : Option Nat :=
  staticTable.findIdx? fun entry => entry.name = name

/- A 64-bit value takes ten bytes at most. -/
def encodeVarintLoop : Nat → Nat → Bytes
  | 0, v => [ofNat v]
  | fuel + 1, v =>
    if v ≥ 128 then ofNat (128 + v % 128) :: encodeVarintLoop fuel (v / 128)
    else [ofNat v]

/-- The bytes after a prefix of all ones; the value is already reduced by that prefix. -/
def encodeVarintToBuf (value : Nat) : Bytes := encodeVarintLoop 9 value

def encodeInteger (flags bits value : Nat) : Bytes :=
  if value < 2 ^ bits - 1 then [ofNat (flags + value)]
  else ofNat (flags + (2 ^ bits - 1)) :: encodeVarintToBuf (value - (2 ^ bits - 1))

/- The shift register has six bits: after 56 comes 63, which is refused. -/
def decodeVarintLoop : Bytes → (p result shift : Nat) → EStateM Failure σ (Nat × Nat)
  | [], _, _, _ => throw (.error .incompleteString)
  | byte :: rest, p, result, shift =>
    let result := result ||| (byte.toNat % 128) <<< shift
    if byte.toNat < 128 then pure (result, p + 1)
    else if shift + 7 ≥ 63 then throw (.error .invalidVarint)
    else decodeVarintLoop rest (p + 1) result (shift + 7)

def decodeVarintFromBuf (data : Bytes) (pos : Nat) : EStateM Failure σ (Nat × Nat) :=
  decodeVarintLoop (data.drop pos) pos 0 0

def decodeInteger (bits : Nat) (data : Bytes) (pos : Nat) : EStateM Failure σ (Nat × Nat) := do
  let first ← byteAt data pos
  let low := first.toNat % 2 ^ bits
  if low = 2 ^ bits - 1 then
    let rest ← decodeVarintFromBuf data (pos + 1)
    return (← sumU64 (2 ^ bits - 1) rest.1, rest.2)
  else
    return (low, pos + 1)

/- The length after a full prefix is written in steps of 128, each as a byte of all ones. -/
def encodeLengthTail (remaining : Nat) : Bytes :=
  List.replicate (remaining / 128) 0xff ++ [ofNat (remaining % 128)]

variable (s : Bytes)

/-- The Huffman-coded string, or nothing when it does not fit the writer's buffer. -/
def huffmanCoded : Bytes :=
  match Huffman.encode 16384 s with
  | .ok coded => coded
  | .error _ => []

/-- A string behind the flag bits of its first byte, Huffman-coded when that is shorter and the
length fits the first byte. -/
def encodeString (flags bits : Nat) (s : Bytes) : Bytes :=
  let coded := huffmanCoded s
  if s.length < 2 ^ bits then
    if coded.length ≠ 0 ∧ coded.length < s.length then
      ofNat (flags + 2 ^ bits + coded.length) :: coded
    else ofNat (flags + s.length) :: s
  else
    ofNat (flags + (2 ^ bits - 1)) :: encodeLengthTail (s.length - (2 ^ bits - 1)) ++ s

def encodeStringToBuf4 : Bytes := encodeString 0x20 3 s

def encodeStringToBuf : Bytes := encodeString 0x00 7 s

/-- The buffer the process shares for Huffman-decoded strings. A string handed out is a slice of
it; the log of these slices, with what they held, is there to be reasoned about only. -/
structure Scratch where
  buf : Bytes
  pos : Nat
  handed : List (Nat × Bytes)

def huffmanScratchLen : Nat := 16384

def Scratch.fresh : Scratch := ⟨List.replicate huffmanScratchLen 0, 0, []⟩

def overwrite (buf : Bytes) (pos : Nat) (written : Bytes) : Bytes :=
  buf.take pos ++ written ++ buf.drop (pos + written.length)

/-- A Huffman-coded string, decoded to the end of the shared buffer. A failed decode leaves what
it wrote but does not move the position. -/
def decodeToScratch (raw : Bytes) : EStateM Failure Scratch Bytes := fun s =>
  if s.pos > s.buf.length then .error (.panic .indexOutOfBounds) s
  else match Huffman.decode (s.buf.length - s.pos) raw {} with
    | .ok _ w => .ok w.written
      { buf := overwrite s.buf s.pos w.written, pos := s.pos + w.written.length,
        handed := s.handed ++ [(s.pos, w.written)] }
    | .error e w => .error e { s with buf := overwrite s.buf s.pos w.written }

variable (unhuffman : Bytes → EStateM Failure σ Bytes)

/-- A string whose length stands in the lowest bits of its first byte and whose Huffman flag is
the bit above, and the position after it. -/
def decodeStringWith (bits : Nat) (data : Bytes) (start : Nat) : EStateM Failure σ (Bytes × Nat) := do
  Proc.failIf (start ≥ data.length) (.error .incompleteString)
  let first ← byteAt data start
  let len ← decodeInteger bits data start
  let stop ← sumU64 len.2 len.1
  Proc.failIf (stop > data.length) (.error .incompleteString)
  let raw := (data.drop len.2).take len.1
  if first.toNat.testBit bits then
    return (← unhuffman raw, stop)
  else
    return (raw, stop)

def decodeString4 (data : Bytes) (start : Nat) : EStateM Failure σ (Bytes × Nat) :=
  decodeStringWith unhuffman 3 data start

def decodeString (data : Bytes) (start : Nat) : EStateM Failure σ (Bytes × Nat) :=
  decodeStringWith unhuffman 7 data start

end Quicz.H3
