import Branch.Lib.Table
import Branch.Wss.Handler

/-!
The relay's cache of identity contacts and the frames that bring it records. Times are
seconds since 1970.
-/

namespace Branch.Wss

open Branch.Lib Branch.Protocol

def maxIdentityContactSourceBytes : Nat := 512

structure IdentityContactObservation where
  branchID : String
  sequence : Nat
  expiresAtUnix : Int
  issuedAtUnix : Int
  lastObservedUnix : Int
  source : List UInt8
  wrapper : String
  senderPublicKey : List UInt8
  protocolVersions : List String
  profileMultihashes : List String
  routeHints : List IdentityContactRouteHint
  deriving DecidableEq

/-- A cache made by `NewIdentityContactCache`, which puts a default in the place of a bound of
zero. -/
structure IdentityContactCache where
  maxEntries : Nat
  maxEntries_pos : 0 < maxEntries
  entries : Table String IdentityContactObservation := .empty

inductive CacheRefusal where
  | invalid (reason : ValidationReason)
  | equivocation
  deriving DecidableEq

/-- The parser of URLs and the check of signatures, and the order in which a loop goes through
a map. -/
structure IdentityContactConfig where
  urlParse : String → Option ParsedURL
  verify : List UInt8 → List UInt8 → List UInt8 → Bool
  order : List (String × IdentityContactObservation) → List (String × IdentityContactObservation)
  perm : ∀ entries, (order entries).Perm entries

def boundedIdentityContactSource (source : String) : List UInt8 :=
  (Utf8.bytes (String.ofList (Text.strip isSpace source.toList))).take
    maxIdentityContactSourceBytes

section Cache

variable (config : IdentityContactConfig)

/-- What a record says when the clock of the cache reads `cacheNow`. -/
def readContact (nowUnix cacheNow : Int) (wrapper : String) :
    Except ValidationReason (SignedEvent (IdentityContactPayload String)) :=
  validateBranchTextIdentityContact config.urlParse config.verify cacheNow (Utf8.bytes wrapper)
    { nowUnix }

def observe (wrapper source : String) (cacheNow : Int)
    (contact : SignedEvent (IdentityContactPayload String)) : IdentityContactObservation where
  branchID := contact.payload.branchID
  sequence := contact.payload.sequence
  expiresAtUnix := contact.payload.expiresAt
  issuedAtUnix := contact.payload.issuedAt
  lastObservedUnix := cacheNow
  source := boundedIdentityContactSource source
  wrapper
  senderPublicKey := contact.envelope.sender.publicKey
  protocolVersions := contact.payload.protocolVersions
  profileMultihashes := contact.payload.profileMultihashes
  routeHints := contact.payload.routeHints

namespace IdentityContactCache

def pruneExpiredLocked (cache : IdentityContactCache) (nowUnix : Int) : IdentityContactCache :=
  { cache with entries := cache.entries.filter fun _ entry => nowUnix < entry.expiresAtUnix }

def evictOldestLocked (cache : IdentityContactCache) : IdentityContactCache :=
  let oldest := (config.order cache.entries.toList).foldl (fun (oldest : String × Int) entry =>
    if oldest.1 = "" ∨ entry.2.lastObservedUnix < oldest.2 then
      (entry.1, entry.2.lastObservedUnix)
    else oldest) ("", 0)
  if oldest.1 ≠ "" then { cache with entries := cache.entries.erase oldest.1 } else cache

def store (cache : IdentityContactCache) (observation : IdentityContactObservation) :
    IdentityContactCache × Except CacheRefusal IdentityContactObservation :=
  let branchID := observation.branchID
  let known := (cache.entries.get? branchID).isSome
  if ¬ known ∧ cache.maxEntries = 0 then (cache, .error (.invalid .payloadInvalid))
  else
    let cache :=
      if ¬ known ∧ cache.maxEntries ≤ cache.entries.size then cache.evictOldestLocked config
      else cache
    ({ cache with entries := cache.entries.insert branchID observation }, .ok observation)

def accept (cache : IdentityContactCache) (nowUnix cacheNow : Int) (wrapper source : String) :
    IdentityContactCache × Except CacheRefusal IdentityContactObservation :=
  match readContact config nowUnix cacheNow wrapper with
  | .error reason => (cache, .error (.invalid reason))
  | .ok contact =>
    let cache := cache.pruneExpiredLocked cacheNow
    let observation := observe wrapper source cacheNow contact
    match cache.entries.get? contact.payload.branchID with
    | none => cache.store config observation
    | some existing =>
      if contact.payload.sequence < existing.sequence then
        (cache, .error (.invalid .lowerSequence))
      else if contact.payload.sequence = existing.sequence ∧ wrapper ≠ existing.wrapper then
        (cache, .error .equivocation)
      else if contact.payload.sequence = existing.sequence then (cache, .ok existing)
      else cache.store config observation

end IdentityContactCache

end Cache

section Have

variable (config : IdentityContactConfig)

/-- What comes of the records of a frame: the cache behind them, the records that the cache was
offered and an error. -/
structure HaveOutcome where
  cache : IdentityContactCache
  offered : List String
  result : Except Fault Unit

/-- The loop over the records of a frame. Each comes with what the clock of the cache reads as
the loop gets to it. -/
def acceptRecords (nowUnix : Int) (branchID : String) :
    IdentityContactCache → List String → List (String × Int) → HaveOutcome
  | cache, offered, [] => ⟨cache, offered, .ok ()⟩
  | cache, offered, (record, cacheNow) :: records =>
    match readContact config nowUnix cacheNow record with
    | .error _ => ⟨cache, offered, fail .invalidFrame⟩
    | .ok contact =>
      if contact.payload.branchID ≠ branchID then ⟨cache, offered, fail .invalidFrame⟩
      else
        match cache.accept config nowUnix cacheNow record "wss.identity_have" with
        | (cache, .error _) => ⟨cache, offered ++ [record], fail .invalidFrame⟩
        | (cache, .ok _) => acceptRecords nowUnix branchID cache (offered ++ [record]) records

def clocked (clock : Nat → Int) (records : List String) : List (String × Int) :=
  records.zipIdx.map fun entry => (entry.1, clock entry.2)

/-- `handleIdentityHave` of a relay with a cache. The clock of the handler is read once, the
clock of the cache with every record. -/
def handleIdentityHaveCached (nowUnix : Int) (clock : Nat → Int) (cache : IdentityContactCache)
    (frame : TypedFrame) : HaveOutcome :=
  match assertString (frame.get? "branch_id") with
  | .error fault => ⟨cache, [], .error fault⟩
  | .ok branchID =>
    match identityRecordStringsFromFrame frame with
    | .error err => ⟨cache, [], fail err⟩
    | .ok records => acceptRecords config nowUnix branchID cache [] (clocked clock records)

end Have

end Branch.Wss
