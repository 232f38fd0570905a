import Branch.Lib.Trace
import Branch.Wss.DiscoveredFederation

/-!
The calls that go to the discovered relays: lookups of peers and of identities, and the
refreshes on the relay's own account. The parts of different calls interleave. Times are
nanoseconds.
-/

namespace Branch.Wss

open Branch.Lib

inductive LookupPurpose where
  | peer | identity | refresh
  deriving DecidableEq

inductive ProbeOutcome where
  | cancelled | unreachable | peerUnavailable | lookupFailed | found
  deriving DecidableEq

inductive LookupPhase where
  | discover
  | refresh (force : Bool)
  | refreshing
  | probing (candidates eligible : List FederationCandidate) (found : Bool)
  | probed (candidates : List FederationCandidate)
  | exhausted
  | returned
  deriving DecidableEq

namespace LookupPhase

def isRefresh : LookupPhase → Bool
  | refresh _ => true
  | refreshing => true
  | _ => false

/-- Whether a call that asks for the lock of the refreshes passes over the view there is. -/
def refresh? : LookupPhase → Option Bool
  | refresh force => some force
  | _ => none

end LookupPhase

namespace Refreshing

def locked? : Refreshing → Option (Int × Bool)
  | locked now force => some (now, force)
  | _ => none

def looking? : Refreshing → Option Int
  | looking now => some now
  | _ => none

end Refreshing

structure FederatedLookup where
  purpose : LookupPurpose
  now : Int
  phase : LookupPhase
  refilled : Bool := false
  deriving DecidableEq

abbrev Backoff : Type := Table String Int

namespace Backoff

def active (backoff : Backoff) (identityKey : String) (now : Int) : Backoff × Bool :=
  match backoff.get? identityKey with
  | none => (backoff, false)
  | some ends => if now < ends then (backoff, true) else (backoff.erase identityKey, false)

/-- A full map loses the entry that a loop over it meets first. -/
def record (backoff : Backoff) (first : String) (candidate : FederationCandidate) (now : Int) :
    Backoff :=
  let ends := now + 30 * 10 ^ 9
  let ends := if candidate.expiresAt < ends then candidate.expiresAt else ends
  let backoff := if maxFederationPeers ≤ backoff.size then backoff.erase first else backoff
  backoff.insert candidate.identityKey ends

/-- The candidates that a lookup of a peer goes on to probe. -/
def eligible (backoff : Backoff) (now : Int) :
    List FederationCandidate → Backoff × List FederationCandidate
  | [] => (backoff, [])
  | candidate :: candidates =>
    let (backoff, active) := backoff.active candidate.identityKey now
    let (backoff, rest) := eligible backoff now candidates
    (backoff, if active then rest else candidate :: rest)

def candidatesExhausted (backoff : Backoff) (now : Int) :
    List FederationCandidate → Backoff × Bool
  | [] => (backoff, true)
  | candidate :: candidates =>
    let (backoff, active) := backoff.active candidate.identityKey now
    if active then candidatesExhausted backoff now candidates else (backoff, false)

/-- A lookup of an identity asks only as it comes to a candidate. -/
def passedOver (backoff : Backoff) (purpose : LookupPurpose) (candidate : FederationCandidate)
    (now : Int) : Backoff × Bool :=
  if purpose = .identity then backoff.active candidate.identityKey now else (backoff, false)

/-- A relay that answers is forgiven, a relay that fails is left alone. That it does not know
the peer counts as a failure only where the records of an identity were asked for. -/
def probed (backoff : Backoff) (purpose : LookupPurpose) (outcome : ProbeOutcome)
    (first : String) (candidate : FederationCandidate) (now : Int) : Backoff :=
  match outcome with
  | .cancelled => backoff
  | .unreachable | .lookupFailed => backoff.record first candidate now
  | .peerUnavailable =>
    if purpose = .identity then backoff.record first candidate now else backoff
  | .found => backoff.erase candidate.identityKey

end Backoff

namespace FederationDiscoveryView

def HoldsAt (view : FederationDiscoveryView) (clock : Int) : Prop :=
  ∃ candidate ∈ view.candidates, clock < candidate.expiresAt

instance (view : FederationDiscoveryView) (clock : Int) : Decidable (view.HoldsAt clock) :=
  inferInstanceAs (Decidable (∃ candidate ∈ view.candidates, clock < candidate.expiresAt))

/-- `storeDiscoveryView` takes the view. -/
def Usable (view : FederationDiscoveryView) : Prop :=
  ¬ (view.localBeacon = [] ∨ view.candidates = [] ∨
    maxFederationPeers < view.candidates.length)

instance (view : FederationDiscoveryView) : Decidable view.Usable :=
  inferInstanceAs (Decidable (¬ (view.localBeacon = [] ∨ view.candidates = [] ∨
    maxFederationPeers < view.candidates.length)))

end FederationDiscoveryView

/-- What the calls share, and the calls. `holder` has the lock of the refreshes while it is
taken. `obtained` is the view that was stored last, and `dropper` the call that dropped it
while a candidate of it was not expired. -/
structure FederatedLookups where
  clock : Int
  router : DiscoveredPeerRouter := {}
  backoff : Backoff := .empty
  calls : Table Nat FederatedLookup := .empty
  holder : Nat := 0
  obtained : FederationDiscoveryView := {}
  dropper : Option Nat := none

/-- A part of a call, or the passing of time. The loop over an overfull map of failures comes
first upon `first`. -/
inductive LookupEvent where
  | tick (elapsed : Nat)
  | start (id : Nat) (purpose : LookupPurpose) (now : Int)
  | work (id : Nat)
  | startPass
  | endPass (reply : Option CarrierReply)
  | probe (id : Nat) (candidate : FederationCandidate) (outcome : ProbeOutcome)
      (first : String)
  | endProbes (id : Nat)

def passView? (config : DiscoveredPeerRouterConfig) (now : Int) (reply : Option CarrierReply) :
    Option FederationDiscoveryView :=
  match reply with
  | none => none
  | some reply =>
    let view := computedView config (validatedBeacons config now reply)
    if view.Usable then some view else none

namespace FederatedLookups

variable (config : DiscoveredPeerRouterConfig)

def put (s : FederatedLookups) (id : Nat) (call : FederatedLookup) : FederatedLookups :=
  { s with calls := s.calls.insert id call }

/-- A part of a call leaves the router like this and stores no view. -/
def look (s : FederatedLookups) (id : Nat) (router : DiscoveredPeerRouter) :
    FederatedLookups :=
  { s with
    router
    dropper :=
      if s.router.view.HoldsAt s.clock ∧ router.view.candidates = [] then some id
      else s.dropper }

/-- What a call does with what `discover` or `refresh` returned to it. -/
def discovered (s : FederatedLookups) (id : Nat) (call : FederatedLookup)
    (found : Discovery) : FederatedLookups :=
  if found.1 = [] then s.put id { call with phase := .returned }
  else
    match call.purpose with
    | .refresh => s.put id { call with phase := .returned }
    | .identity => s.put id { call with phase := .probing found.2 found.2 false }
    | .peer =>
      let (backoff, eligible) := s.backoff.eligible call.now found.2
      { s with backoff }.put id { call with phase := .probing found.2 eligible false }

def work (s : FederatedLookups) (id : Nat) (call : FederatedLookup) : FederatedLookups :=
  match call.phase with
  | .discover =>
    let (router, found) := s.router.cachedDiscovery call.now
    if found.1 = [] then (s.look id router).put id { call with phase := .refresh false }
    else (s.look id router).discovered id call found
  | .refresh force =>
    match s.router.refreshing with
    | .idle =>
      let router := (step config (validatedBeacons config) s.router
        (.refresh call.now force)).1
      { s with router, holder := id }.put id { call with phase := .refreshing }
    | _ =>
      let (router, found) := s.router.cachedDiscovery call.now
      (s.look id router).discovered id call found
  | .probed candidates =>
    let (backoff, exhausted) := s.backoff.candidatesExhausted call.now candidates
    { s with backoff }.put id
      { call with phase := if exhausted then .exhausted else .returned }
  | .exhausted =>
    (s.look id s.router.clearDiscoveryView).put id
      { call with phase := .refresh false, refilled := true }
  | _ => s

def startPass (s : FederatedLookups) (call : FederatedLookup) : FederatedLookups :=
  match s.router.refreshing with
  | .locked _ _ =>
    let (router, found) := step config (validatedBeacons config) s.router .startPass
    match found with
    | some found => (s.look s.holder router).discovered s.holder call found
    | none => (s.look s.holder router).put s.holder { call with phase := .refreshing }
  | _ => s

def endPass (s : FederatedLookups) (call : FederatedLookup) (reply : Option CarrierReply) :
    FederatedLookups :=
  match s.router.refreshing with
  | .looking now =>
    let (router, found) := step config (validatedBeacons config) s.router (.endPass reply)
    let found := found.getD ([], [])
    match passView? config now reply with
    | some view =>
      { s with router, obtained := view, dropper := none }.discovered s.holder call found
    | none => { s with router }.discovered s.holder call found
  | _ => s

def probe (s : FederatedLookups) (id : Nat) (call : FederatedLookup)
    (candidate : FederationCandidate) (outcome : ProbeOutcome) (first : String) :
    FederatedLookups :=
  match call.phase with
  | .probing candidates eligible found =>
    let (backoff, active) := s.backoff.passedOver call.purpose candidate call.now
    let rest := eligible.erase candidate
    if candidate ∉ eligible ∨ (maxFederationPeers ≤ backoff.size ∧ first ∉ backoff.keys) then s
    else if active then
      { s with backoff }.put id { call with phase := .probing candidates rest found }
    else
      let backoff := backoff.probed call.purpose outcome first candidate call.now
      { s with backoff }.put id
        { call with phase := .probing candidates rest (found || outcome = ProbeOutcome.found) }
  | _ => s

/-- The probes end when one of them found the peer, when none is left, or when the caller
gives up. -/
def endProbes (s : FederatedLookups) (id : Nat) (call : FederatedLookup) : FederatedLookups :=
  match call.phase with
  | .probing candidates _ found =>
    if call.purpose = .identity ∨ found ∨ call.refilled then
      s.put id { call with phase := .returned }
    else s.put id { call with phase := .probed candidates }
  | _ => s

def start (s : FederatedLookups) (id : Nat) (purpose : LookupPurpose) (now : Int) :
    FederatedLookups :=
  if now ≤ s.clock then
    s.put id
      { purpose, now, phase := if purpose = .refresh then .refresh true else .discover }
  else s

end FederatedLookups

def lookupStep (config : DiscoveredPeerRouterConfig) (s : FederatedLookups) :
    LookupEvent → FederatedLookups
  | .tick elapsed => { s with clock := s.clock + elapsed }
  | .start id purpose now =>
    match s.calls.get? id with
    | some _ => s
    | none => s.start id purpose now
  | .work id =>
    match s.calls.get? id with
    | none => s
    | some call => s.work config id call
  | .startPass =>
    match s.calls.get? s.holder with
    | none => s
    | some call => s.startPass config call
  | .endPass reply =>
    match s.calls.get? s.holder with
    | none => s
    | some call => s.endPass config call reply
  | .probe id candidate outcome first =>
    match s.calls.get? id with
    | none => s
    | some call => s.probe id call candidate outcome first
  | .endProbes id =>
    match s.calls.get? id with
    | none => s
    | some call => s.endProbes id call

end Branch.Wss
