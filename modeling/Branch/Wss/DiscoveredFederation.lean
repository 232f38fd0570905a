import Branch.Lib.Table
import Branch.Protocol.BootstrapBeacon
import Branch.Wss.FederationEndpoint

/-!
The view of other relays that a relay makes from the beacons of a carrier pass, and the
passes that refresh it. Times are nanoseconds since 1970.
-/

namespace Branch.Wss

open Branch.Lib Branch.Protocol

def maxFederationPeers : Nat := 8
def relayFederationLiveRole : String := "relay.federate.live/0.draft"

/-- `time.Time{}`. -/
def zeroTime : Int := -62135596800 * 10 ^ 9

/-- `time.Unix(seconds, 0)`. -/
def unix (seconds : Nat) : Int := seconds * 10 ^ 9

structure SignedBootstrapBeacon where
  wrapper : List UInt8
  event : SignedEvent BootstrapBeaconPayload

namespace SignedBootstrapBeacon

def publicKey (beacon : SignedBootstrapBeacon) : List UInt8 :=
  beacon.event.envelope.sender.publicKey

def sequence (beacon : SignedBootstrapBeacon) : Nat := beacon.event.payload.sequence

def identityKey (beacon : SignedBootstrapBeacon) : String := Base64.encode beacon.publicKey

end SignedBootstrapBeacon

structure FederationCandidate where
  endpoint : String
  relayPublicKey : List UInt8
  profileMultihash : String
  priority : Nat
  identityKey : String
  expiresAt : Int
  deriving DecidableEq

structure FederationDiscoveryView where
  localBeacon : List UInt8 := []
  localExpires : Int := zeroTime
  candidates : List FederationCandidate := []
  deriving DecidableEq

/-- What a router is made with, the parsers of URLs and addresses and the check of
signatures. -/
structure DiscoveredPeerRouterConfig where
  localKey : List UInt8
  endpointPolicy : FederationEndpointPolicy
  carrierPassMinInterval : Int
  urlParse : String → Option FederationURL
  parseAddr : String → Option Addr
  verify : List UInt8 → List UInt8 → List UInt8 → Bool

section Pass

variable (config : DiscoveredPeerRouterConfig)

/-- The beacon of an observation that a pass at `now` goes on with. -/
def acceptedBeacon (now clock : Int) (wrapper : List UInt8) : Option SignedBootstrapBeacon :=
  match validateBranchTextBootstrapBeacon
      (fun s => (config.urlParse s).map FederationURL.toParsedURL)
      config.verify clock wrapper { nowUnix := now / 10 ^ 9 } with
  | .error _ => none
  | .ok event =>
    if relayFederationLiveRole ∈ event.payload.relayCapabilities then some ⟨wrapper, event⟩
    else none

structure MergedBeacons where
  validated : Table String SignedBootstrapBeacon := .empty
  equivocating : List String := []

def MergedBeacons.observe (merged : MergedBeacons) (beacon : SignedBootstrapBeacon) :
    MergedBeacons :=
  let identityKey := beacon.identityKey
  if identityKey ∈ merged.equivocating then merged
  else
    match merged.validated.get? identityKey with
    | none => { merged with validated := merged.validated.insert identityKey beacon }
    | some current =>
      if current.sequence < beacon.sequence then
        { merged with validated := merged.validated.insert identityKey beacon }
      else if beacon.sequence = current.sequence ∧ beacon.wrapper ≠ current.wrapper then
        { validated := merged.validated.erase identityKey
          equivocating := identityKey :: merged.equivocating }
      else merged

def mergeObservations (now clock : Int) (observations : List (List UInt8)) : MergedBeacons :=
  observations.foldl (fun merged wrapper =>
    match acceptedBeacon config now clock wrapper with
    | none => merged
    | some beacon => merged.observe beacon) {}

def firstSupportedProfile (profiles : List String) : String :=
  if developmentProfileMultihash ∈ profiles then developmentProfileMultihash else ""

def federationCandidate (identityKey : String) (beacon : SignedBootstrapBeacon) :
    Option FederationCandidate :=
  let profile := firstSupportedProfile beacon.event.payload.profileMultihashes
  if profile = "" then none
  else
    beacon.event.payload.relayEndpoints.findSome? fun endpoint =>
      if endpoint.transport ≠ "wss" then none
      else
        match cleanFederationEndpoint config.urlParse config.parseAddr endpoint.uri
            config.endpointPolicy with
        | .error _ => none
        | .ok cleaned =>
          some { endpoint := cleaned, relayPublicKey := beacon.publicKey
                 profileMultihash := profile, priority := endpoint.priority
                 identityKey, expiresAt := unix beacon.event.payload.expiresAt }

def collectBeacons : List (String × SignedBootstrapBeacon) → FederationDiscoveryView →
    FederationDiscoveryView
  | [], view => view
  | (identityKey, beacon) :: entries, view =>
    if beacon.publicKey = config.localKey then
      collectBeacons entries
        { view with
          localBeacon := beacon.wrapper
          localExpires := unix beacon.event.payload.expiresAt }
    else
      match federationCandidate config identityKey beacon with
      | none => collectBeacons entries view
      | some candidate =>
        collectBeacons entries { view with candidates := view.candidates ++ [candidate] }

def FederationCandidate.before (left right : FederationCandidate) : Prop :=
  left.priority < right.priority ∨
    (left.priority = right.priority ∧ left.identityKey ≤ right.identityKey)

instance : DecidableRel FederationCandidate.before := fun left right =>
  inferInstanceAs (Decidable (left.priority < right.priority ∨
    (left.priority = right.priority ∧ left.identityKey ≤ right.identityKey)))

def computedView (entries : List (String × SignedBootstrapBeacon)) : FederationDiscoveryView :=
  let view := collectBeacons config entries {}
  { view with
    candidates :=
      (view.candidates.insertionSort FederationCandidate.before).take maxFederationPeers }

end Pass

/-- Who holds the lock of the refreshes: nobody, a call that was made at `now`, or the
carrier pass of that call. -/
inductive Refreshing where
  | idle
  | locked (now : Int) (force : Bool)
  | looking (now : Int)
  deriving DecidableEq

structure DiscoveredPeerRouter where
  view : FederationDiscoveryView := {}
  nextCarrierPass : Int := zeroTime
  refreshing : Refreshing := .idle
  deriving DecidableEq

/-- What a call returns: the beacon of the relay itself and the candidates. -/
abbrev Discovery : Type := List UInt8 × List FederationCandidate

namespace DiscoveredPeerRouter

def clearDiscoveryView (router : DiscoveredPeerRouter) : DiscoveredPeerRouter :=
  { router with view := {} }

def cachedDiscovery (router : DiscoveredPeerRouter) (now : Int) :
    DiscoveredPeerRouter × Discovery :=
  if router.view.localBeacon = [] ∨ ¬ now < router.view.localExpires then
    (router.clearDiscoveryView, ([], []))
  else
    let candidates := router.view.candidates.filter fun candidate => now < candidate.expiresAt
    if candidates = [] then (router.clearDiscoveryView, ([], []))
    else
      ({ router with view := { router.view with candidates } },
        (router.view.localBeacon, candidates))

def reserveCarrierPass (config : DiscoveredPeerRouterConfig) (router : DiscoveredPeerRouter)
    (now : Int) : Option DiscoveredPeerRouter :=
  if config.carrierPassMinInterval = 0 then some router
  else if now < router.nextCarrierPass then none
  else some { router with nextCarrierPass := now + config.carrierPassMinInterval }

def storeDiscoveryView (router : DiscoveredPeerRouter) (view : FederationDiscoveryView) :
    DiscoveredPeerRouter :=
  if view.localBeacon = [] ∨ view.candidates = [] ∨
      maxFederationPeers < view.candidates.length then router
  else { router with view }

end DiscoveredPeerRouter

structure IterationOrder where
  order : List (String × SignedBootstrapBeacon) → List (String × SignedBootstrapBeacon)
  perm : ∀ entries, (order entries).Perm entries

/-- What the carrier returned to a pass, with the time by the system clock and the order in
which the pass goes through the beacons that it kept. -/
structure CarrierReply where
  clock : Int
  order : IterationOrder
  observations : List (List UInt8)

/-- The atomic parts of the calls that come in at a router. A call of `refresh` that finds
the lock taken, and the first part of `discover`, are calls of `cachedDiscovery`. -/
inductive RouterEvent where
  | cachedDiscovery (now : Int)
  | clearDiscoveryView
  | refresh (now : Int) (force : Bool)
  | startPass
  | endPass (reply : Option CarrierReply)

section Step

variable (config : DiscoveredPeerRouterConfig)

/-- The entries of the map that a pass at `now` goes through in the end. -/
def validatedBeacons (now : Int) (reply : CarrierReply) :
    List (String × SignedBootstrapBeacon) :=
  reply.order.order (mergeObservations config now reply.clock reply.observations).validated.toList

open DiscoveredPeerRouter

/-- One part of a call and what the call returns where that part is its last one. How a pass
chooses the beacons that its view is made of is left to `select`. -/
def step (select : Int → CarrierReply → List (String × SignedBootstrapBeacon))
    (router : DiscoveredPeerRouter) : RouterEvent → DiscoveredPeerRouter × Option Discovery
  | .cachedDiscovery now =>
    let (router, found) := router.cachedDiscovery now
    (router, some found)
  | .clearDiscoveryView => (router.clearDiscoveryView, none)
  | .refresh now force =>
    match router.refreshing with
    | .idle => ({ router with refreshing := .locked now force }, none)
    | _ => (router, none)
  | .startPass =>
    match router.refreshing with
    | .locked now force =>
      let (seen, found) := if force then (router, ([], [])) else router.cachedDiscovery now
      if found.1 ≠ [] then ({ seen with refreshing := .idle }, some found)
      else
        match seen.reserveCarrierPass config now with
        | none => ({ seen with refreshing := .idle }, some ([], []))
        | some reserved => ({ reserved with refreshing := .looking now }, none)
    | _ => (router, none)
  | .endPass reply =>
    match router.refreshing with
    | .looking now =>
      match reply with
      | none => ({ router with refreshing := .idle }, some ([], []))
      | some reply =>
        let view := computedView config (select now reply)
        ({ router.storeDiscoveryView view with refreshing := .idle },
          some (view.localBeacon, view.candidates))
    | _ => (router, none)

def discoveries (select : Int → CarrierReply → List (String × SignedBootstrapBeacon)) :
    DiscoveredPeerRouter → List RouterEvent → List (Option Discovery)
  | _, [] => []
  | router, event :: events =>
    (step config select router event).2 ::
      discoveries select (step config select router event).1 events

end Step

end Branch.Wss
