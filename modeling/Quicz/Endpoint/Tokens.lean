import Quicz.Control
import Quicz.Lib.BigEndian
import Quicz.Lib.Window

/-! Address-validation tokens, and the filter that refuses a token a second time. A token is
authenticated with the peer's address, which it does not carry; the HMAC is a parameter. -/
namespace Quicz

open Proc Window

variable (hmac : Secret → Bytes → Vector UInt8 32)

inductive TokenError
  | invalidToken | tokenReplay | tokenExpired | tokenNotYetValid | outOfMemory
deriving DecidableEq

inductive AddressFamily
  | ipv4 | ipv6
deriving DecidableEq

structure UdpAddress where
  family : AddressFamily
  port : UInt16
  v4 : Vector UInt8 4 := .replicate 4 0
  v6 : Vector UInt8 16 := .replicate 16 0
  scopeId : UInt32 := 0

def UdpAddress.addressValidationBinding (address : UdpAddress) : Bytes :=
  match address.family with
  | .ipv4 => 4 :: List.replicate 12 0 ++ address.v4.toList ++ BigEndian.encode 2 address.port.toNat ++
      List.replicate 4 0
  | .ipv6 => 6 :: address.v6.toList ++ BigEndian.encode 2 address.port.toNat ++
      BigEndian.encode 4 address.scopeId.toNat

abbrev Secret := Vector UInt8 32

structure TokenValidation where
  kind : AddressValidationTokenKind
  originatingVersion : Version
  issuedNanos : Int
  lifetimeNanos : Nat
  nonce : Bytes

def tokenMagic : Bytes := [0x71, 0x63, 0x7a, 0x2d, 0x61, 0x76, 0x32]

def tokenBodyLen : Nat := 44

def tokenLen : Nat := 76

def tokenKind : UInt8 → Option AddressValidationTokenKind
  | 0 => some .retry
  | 1 => some .newToken
  | _ => none

def tokenField (encoded : Bytes) (offset len : Nat) : Bytes := (encoded.drop offset).take len

def readField (encoded : Bytes) (offset len : Nat) : Nat := BigEndian.decode 0 (tokenField encoded offset len)

def invalidIf (c : Prop) [Decidable c] : Except TokenError Unit := if c then .error .invalidToken else .ok ()

def orInvalid {α : Type} (x : Option α) : Except TokenError α := x.elim (.error .invalidToken) .ok

def validateTokenVersion (version : Version) : Except TokenError Unit :=
  invalidIf (version = 0 ∨ isReservedVersion version)

def validateEnvelope (encoded : Bytes) : Except TokenError Unit := do
  invalidIf (encoded.length ≠ tokenLen ∨ encoded.take 7 ≠ tokenMagic)
  let _ ← orInvalid (tokenKind (encoded.getD 7 0))
  invalidIf (readField encoded 12 8 > maxI64)
  invalidIf (readField encoded 20 8 = 0)

def fingerprint (encoded : Bytes) : Except TokenError Bytes := do
  validateEnvelope encoded
  return tokenField encoded tokenBodyLen 32

def expiresAt (issuedNanos : Int) (lifetimeNanos : Nat) : Option Int :=
  if issuedNanos < 0 ∨ lifetimeNanos > maxI64 - issuedNanos then none else some (issuedNanos + lifetimeNanos)

def tokenMac (secret : Secret) (body peerAddress : Bytes) : Bytes :=
  (hmac secret (body ++ BigEndian.encode 2 peerAddress.length ++ peerAddress)).toList

variable (kind : AddressValidationTokenKind) (version : Version) (nowNanos : Int)
  (peerAddress encoded : Bytes)

def validateForVersion (secret : Secret) : Except TokenError TokenValidation := do
  invalidIf (nowNanos < 0 ∨ peerAddress.length = 0 ∨ peerAddress.length > 0xffff)
  validateTokenVersion version
  validateEnvelope encoded
  let found ← orInvalid (tokenKind (encoded.getD 7 0))
  invalidIf (found ≠ kind)
  let originatingVersion := readField encoded 8 4
  validateTokenVersion originatingVersion
  invalidIf (originatingVersion ≠ version)
  let issuedNanos : Int := readField encoded 12 8
  invalidIf (issuedNanos > maxI64)
  let lifetimeNanos := readField encoded 20 8
  invalidIf (lifetimeNanos = 0)
  invalidIf (tokenMac hmac secret (encoded.take tokenBodyLen) peerAddress ≠ tokenField encoded tokenBodyLen 32)
  if nowNanos < issuedNanos then throw .tokenNotYetValid
  let expires ← orInvalid (expiresAt issuedNanos lifetimeNanos)
  if nowNanos > expires then throw .tokenExpired
  return { kind := found, originatingVersion, issuedNanos, lifetimeNanos, nonce := tokenField encoded 28 16 }

/-- The first secret that validates wins; otherwise the first error of an authenticated token stays. -/
def validateAnySecretForVersion (authenticated : Option TokenError) : List Secret → Except TokenError TokenValidation
  | [] => .error (authenticated.getD .invalidToken)
  | secret :: rest =>
    match validateForVersion hmac kind version nowNanos peerAddress encoded secret with
    | .ok validation => .ok validation
    | .error .invalidToken => validateAnySecretForVersion authenticated rest
    | .error .tokenReplay => .error .tokenReplay
    | .error .outOfMemory => .error .outOfMemory
    | .error e => validateAnySecretForVersion (authenticated.or (some e)) rest

structure ReplayFilter where
  maxEntries : Nat
  fingerprints : List Bytes

/-- The duplicates of a snapshot count once, as the newest of them. -/
def ReplayFilter.initWithSnapshot (maxEntries : Nat) (snapshot : List Bytes) : ReplayFilter :=
  ⟨maxEntries, (newest maxEntries snapshot).reverse⟩

/-- Whether there is memory for one more entry is the allocator's word. -/
def ReplayFilter.rememberValidated (allocates : Bool) (encoded : Bytes) : EStateM TokenError ReplayFilter Unit := do
  let filter ← get
  failIf (filter.maxEntries = 0) .invalidToken
  let tokenFingerprint ← lift (fingerprint encoded)
  failIf (filter.fingerprints.contains tokenFingerprint) .tokenReplay
  failIf (!allocates) .outOfMemory
  set { filter with fingerprints := push filter.maxEntries filter.fingerprints tokenFingerprint }

structure AddressValidationPolicy where
  currentSecret : Secret
  previousSecrets : List Secret
  replayFilter : ReplayFilter

structure TokenCall where
  expectedKind : AddressValidationTokenKind
  expectedOriginatingVersion : Version
  nowNanos : Int
  peer : UdpAddress
  encoded : Bytes
  allocates : Bool

def TokenCall.tag (call : TokenCall) : Bytes := tokenField call.encoded tokenBodyLen 32

namespace AddressValidationPolicy

def initWithSecretSetAndReplayFilter (currentSecret : Secret) (previousSecrets : List Secret)
    (snapshot : List Bytes) (maxPreviousSecrets maxReplayEntries : Nat) : AddressValidationPolicy :=
  ⟨currentSecret, previousSecrets.rtake maxPreviousSecrets, .initWithSnapshot maxReplayEntries snapshot⟩

variable (p q : AddressValidationPolicy) (call : TokenCall)

def validateTokenForPathWithoutReplay : Except TokenError TokenValidation :=
  validateAnySecretForVersion hmac call.expectedKind call.expectedOriginatingVersion call.nowNanos
    call.peer.addressValidationBinding call.encoded none (p.currentSecret :: p.previousSecrets.reverse)

def validateTokenForPath : EStateM TokenError AddressValidationPolicy TokenValidation := do
  let validation ← lift ((← get).validateTokenForPathWithoutReplay hmac call)
  zoom replayFilter (fun replayFilter p => { p with replayFilter })
    (ReplayFilter.rememberValidated call.allocates call.encoded)
  return validation

/-- The fingerprints of the tokens that a run of calls accepts, in order, and the policy it leaves. -/
def accepts (p : AddressValidationPolicy) : List TokenCall → List Bytes × AddressValidationPolicy
  | [] => ([], p)
  | call :: rest =>
    match validateTokenForPath hmac call p with
    | .ok _ q => (call.tag :: (accepts q rest).1, (accepts q rest).2)
    | .error _ q => accepts q rest

/-- The token is never accepted, and it is refused as a replay when it passes every other check. -/
def Refuses (tag : Bytes) : Prop :=
  ∀ call : TokenCall, call.tag = tag → wp (validateTokenForPath hmac call) (fun _ _ => False)
    (fun e q => q = p ∧ ∀ v, p.validateTokenForPathWithoutReplay hmac call = .ok v → e = .tokenReplay) p

structure Remembers (n : Nat) (tags : List Bytes) (p : AddressValidationPolicy) : Prop where
  filter : p.replayFilter = ⟨n, tags.rtake n⟩
  distinct : (tags.rtake n).Nodup

theorem fingerprint_tag : Returns (fingerprint call.encoded) (· = call.tag) := .after fun _ => .pure rfl

/-- What a call does to the filter, and that it only fails before it changes anything. -/
theorem validateTokenForPath_filter : wp (validateTokenForPath hmac call)
    (fun _ q => p.replayFilter.maxEntries ≠ 0 ∧ call.tag ∉ p.replayFilter.fingerprints ∧
      q.replayFilter = ⟨p.replayFilter.maxEntries,
        push p.replayFilter.maxEntries p.replayFilter.fingerprints call.tag⟩) (fun _ q => q = p) p := by
  simp only [validateTokenForPath, ReplayFilter.rememberValidated, wp_bind, wp_get, wp_lift, wp_zoom, wp_failIf,
    wp_set, wp_pure, List.contains_iff_mem, implies_true, and_true, true_and]
  intro _ _ room tag tagged new _
  obtain rfl := fingerprint_tag call _ tagged
  exact ⟨room, new, rfl⟩

variable {hmac p call} {kind : AddressValidationTokenKind} {peerAddress encoded : Bytes} {version : Version}

theorem validateForVersion_envelope {nowNanos : Int} {secret : Secret} :
    Returns (validateForVersion hmac kind version nowNanos peerAddress encoded secret)
      fun _ => validateEnvelope encoded = .ok () :=
  .after fun _ => .after fun _ => .bind (fun _ whole => whole) fun _ whole => fun _ _ => whole

theorem validateAnySecretForVersion_envelope {nowNanos : Int}
    (secrets : List Secret) (authenticated : Option TokenError) :
    Returns (validateAnySecretForVersion hmac kind version nowNanos peerAddress encoded authenticated secrets)
      fun _ => validateEnvelope encoded = .ok () := by
  induction secrets generalizing authenticated with
  | nil => exact .throw _
  | cons secret rest ih =>
    rw [validateAnySecretForVersion]
    split
    · rename_i validated
      exact .pure (validateForVersion_envelope _ validated)
    · exact ih _
    · exact .throw _
    · exact .throw _
    · exact ih _

theorem Remembers.refuses {n : Nat} {tags : List Bytes} (h : Remembers n tags p) {tag : Bytes} (held : tag ∈ tags.rtake n) :
    p.Refuses hmac tag := by
  rintro call rfl
  have room : n ≠ 0 := by
    rintro rfl
    simp [List.rtake] at held
  simp only [validateTokenForPath, ReplayFilter.rememberValidated, wp_bind, wp_get, wp_lift, wp_zoom, wp_failIf,
    wp_set, wp_pure, List.contains_iff_mem, h.filter, room, true_and, false_imp_iff, not_false_eq_true, true_imp_iff]
  refine ⟨fun v validated => ⟨fun tag tagged => ?_, fun e untagged => ?_⟩, fun e invalid => ?_⟩
  · obtain rfl := fingerprint_tag call _ tagged
    exact ⟨fun _ => ⟨by rw [← h.filter], fun _ _ => trivial⟩, fun new => absurd held new⟩
  · rw [fingerprint, validateAnySecretForVersion_envelope _ _ _ validated] at untagged
    cases untagged
  · intro v valid
    rw [valid] at invalid
    cases invalid

theorem Remembers.accepts {n : Nat} {tags : List Bytes} (h : Remembers n tags p) (calls : List TokenCall) :
    Remembers n (tags ++ (p.accepts hmac calls).1) (p.accepts hmac calls).2 := by
  induction calls generalizing p tags with
  | nil => simpa [AddressValidationPolicy.accepts] using h
  | cons call calls ih =>
    have step := validateTokenForPath_filter hmac p call
    rw [AddressValidationPolicy.accepts]
    cases run : validateTokenForPath hmac call p with
    | error e q =>
      rw [wp, run] at step
      exact step ▸ ih h
    | ok v q =>
      rw [wp, run, h.filter] at step
      obtain ⟨room, new, filter⟩ := step
      rw [push_eq length_rtake_le room, rtake_rtake_append] at filter
      rw [List.append_cons]
      refine ih ⟨filter, ?_⟩
      rw [← rtake_rtake_append]
      refine List.Nodup.sublist (List.drop_sublist _ _) ?_
      exact List.concat_eq_append ▸ h.distinct.concat new

theorem initWithSecretSetAndReplayFilter_remembers (current : Secret) (previous : List Secret) (snapshot : List Bytes)
    (maxPrevious n : Nat) :
    Remembers n snapshot.dedup (initWithSecretSetAndReplayFilter current previous snapshot maxPrevious n) where
  filter := by
    rw [List.rtake_eq_reverse_take_reverse, ← newest_eq]
    rfl
  distinct := (List.nodup_dedup snapshot).sublist (List.drop_sublist _ _)

/-- The filter holds the newest tags of accepted tokens, whatever snapshot it started from: a token is refused until
so many others were accepted, a failing call changes nothing, and a restored filter keeps the newest tags. -/
theorem replay_filter_holds_newest (hmac : Secret → Bytes → Vector UInt8 32) (current : Secret)
    (previous : List Secret) (snapshot : List Bytes) (maxPrevious n : Nat) (calls : List TokenCall) :
    let start := initWithSecretSetAndReplayFilter current previous snapshot maxPrevious n
    let tags := (start.accepts hmac calls).1
    let p := (start.accepts hmac calls).2
    let held := p.replayFilter.fingerprints
    held = (snapshot.dedup ++ tags).rtake n ∧ held.Nodup ∧ (∀ tag ∈ held, p.Refuses hmac tag) ∧
    (∀ before tag later, tags = before ++ tag :: later → later.length < n → tag ∈ held) ∧
    (∀ call e q, validateTokenForPath hmac call p = .error e q → q = p) ∧
    ∀ current previous maxPrevious m,
      let restored := initWithSecretSetAndReplayFilter current previous held maxPrevious m
      restored.replayFilter.fingerprints = held.rtake m ∧
      ∀ tag ∈ held.rtake m, restored.Refuses hmac tag ∧ p.Refuses hmac tag := by
  intro start tags p held
  have holds : Remembers n (snapshot.dedup ++ tags) p :=
    (initWithSecretSetAndReplayFilter_remembers current previous snapshot maxPrevious n).accepts calls
  have kept : held = (snapshot.dedup ++ tags).rtake n := congrArg ReplayFilter.fingerprints holds.filter
  have refuses : ∀ tag ∈ held, p.Refuses hmac tag := fun tag mem => holds.refuses (kept ▸ mem)
  have distinct : held.Nodup := kept ▸ holds.distinct
  refine ⟨kept, distinct, refuses, fun before tag later split few => ?_, fun call e q failed => ?_,
    fun current previous maxPrevious m => ?_⟩
  · rw [kept, split, ← List.append_assoc]
    exact Window.mem_rtake_append few
  · have step := validateTokenForPath_filter hmac p call
    rwa [wp, failed] at step
  · have again := initWithSecretSetAndReplayFilter_remembers current previous held maxPrevious m
    rw [distinct.dedup] at again
    exact ⟨congrArg ReplayFilter.fingerprints again.filter, fun tag newest =>
      ⟨again.refuses newest, refuses tag (List.mem_of_mem_drop newest)⟩⟩

end AddressValidationPolicy

end Quicz
