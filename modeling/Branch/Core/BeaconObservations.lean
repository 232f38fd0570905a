import Branch.Core.SignedEvent
import Branch.Lib.FirstWins
import Branch.Lib.Text

/-!
Bootstrap beacons as carriers return them to the client: the observations that a search keeps,
and the snapshot of the routes that they name.
-/

namespace Branch.Core

open Branch.Lib

inductive BeaconObservationValidation where
  | accepted
  | rejected
  deriving DecidableEq, Repr

def BeaconObservationValidation.text : BeaconObservationValidation → String
  | accepted => "accepted"
  | rejected => "rejected"

structure CarrierEvidence where
  carrier : String
  recordUrl : String
  deriving DecidableEq, Repr

structure BeaconObservation where
  validation : BeaconObservationValidation
  reason : String
  wrapperPreview : String
  evidence : CarrierEvidence
  expiresAt : Option Nat
  relayEndpoint : Option String
  profileMultihash : Option String
  senderPublicKey : Option String
  beaconId : Option String
  sequence : Option Nat
  deriving DecidableEq, Repr

section Discovery

def maxClientDiscoveryObservations : Nat := 64

namespace BeaconObservation

variable (observation : BeaconObservation)

def dedupeKey : String :=
  match observation.validation, observation.senderPublicKey, observation.beaconId,
    observation.sequence with
  | .accepted, some senderPublicKey, some beaconId, some sequence =>
    "accepted:" ++ senderPublicKey ++ ":" ++ beaconId ++ ":" ++ toString sequence
  | _, _, _, _ =>
    "candidate:" ++ observation.evidence.carrier ++ ":" ++ observation.evidence.recordUrl ++
      ":" ++ observation.wrapperPreview ++ ":" ++ observation.validation.text ++ ":" ++
      observation.reason

/-- The carriers give the sender, the identifier and the sequence of each beacon that they
accept. -/
def Carried : Prop :=
  observation.validation = .accepted →
    observation.senderPublicKey.isSome ∧ observation.beaconId.isSome ∧
      observation.sequence.isSome

instance : Decidable observation.Carried :=
  inferInstanceAs (Decidable (_ → _))

end BeaconObservation

/-- What a search keeps of the observations of its passes, one behind the other. -/
def dedupeObservations (observations : List BeaconObservation) : List BeaconObservation :=
  keepFirst BeaconObservation.dedupeKey maxClientDiscoveryObservations [] [] observations

end Discovery

section Endpoint

/-- The characters that `trim` takes away. -/
def isWhiteSpace (c : Char) : Bool :=
  c.val = 0x9 || c.val = 0xA || c.val = 0xB || c.val = 0xC || c.val = 0xD || c.val = 0x20 ||
    c.val = 0xA0 || c.val = 0x1680 || (0x2000 ≤ c.val && c.val ≤ 0x200A) || c.val = 0x2028 ||
    c.val = 0x2029 || c.val = 0x202F || c.val = 0x205F || c.val = 0x3000 || c.val = 0xFEFF

/-- The address of a descriptor with the transport `wss`. -/
def parseRelayEndpointDescriptor (value : String) : Option String :=
  match value.toList.splitOn ' ' with
  | transport :: uri :: _ =>
    if transport ≠ "wss".toList ∨ Text.strip isWhiteSpace uri = [] then none
    else some (String.ofList uri)
  | _ => none

end Endpoint

section Routes

variable (newURL : String → Option URLParts)

structure RelayRouteMaterial where
  endpointUri : String
  relayPublicKey : String
  profileMultihash : String
  deriving DecidableEq, Repr

/-- `newURL` is the constructor of `URL`, which throws where there is none. -/
def validateRouteMaterial (route : RelayRouteMaterial) : Except String RelayRouteMaterial :=
  if route.profileMultihash ≠ developmentProfileMultihash then .error "unsupported relay profile"
  else
    match decodeBase64URL route.relayPublicKey.toList with
    | .error message => .error message
    | .ok key =>
      if key.length ≠ 32 then .error "invalid relay public key"
      else
        match newURL route.endpointUri with
        | none => .error "Invalid URL"
        | some endpoint =>
          if endpoint.protocol ≠ "wss:" ∨ endpoint.username ≠ "" ∨ endpoint.password ≠ "" ∨
              endpoint.hash ≠ "" then
            .error "invalid relay endpoint"
          else .ok route

def routeMaterialFromValidatedBootstrapBeacon (route : RelayRouteMaterial) :
    Except String RelayRouteMaterial :=
  validateRouteMaterial newURL route

def maxRouteSnapshot : Nat := 4

structure VerifiedRelayRouteSnapshot extends RelayRouteMaterial where
  expiresAt : Nat
  deriving DecidableEq, Repr

def VerifiedRelayRouteSnapshot.dedupeKey (route : VerifiedRelayRouteSnapshot) : String :=
  route.endpointUri ++ "\n" ++ route.relayPublicKey ++ "\n" ++ route.profileMultihash

/-- The route that an observation names, where it names all of one. -/
def BeaconObservation.route (observation : BeaconObservation) :
    Option VerifiedRelayRouteSnapshot :=
  match observation.validation, observation.relayEndpoint, observation.senderPublicKey,
    observation.profileMultihash, observation.expiresAt with
  | .accepted, some relayEndpoint, some senderPublicKey, some profileMultihash,
    some expiresAt =>
    (parseRelayEndpointDescriptor relayEndpoint).map fun uri =>
      { endpointUri := uri
        relayPublicKey := senderPublicKey
        profileMultihash
        expiresAt }
  | _, _, _, _, _ => none

/-- The loop behind `verifiedRoutesFromBeaconObservations`, with the keys seen and the routes
so far. -/
def collectRoutes : List String → List VerifiedRelayRouteSnapshot → List BeaconObservation →
    Except String (List VerifiedRelayRouteSnapshot)
  | _, routes, [] => .ok routes
  | seen, routes, observation :: observations =>
    match observation.route with
    | none => collectRoutes seen routes observations
    | some route =>
      if route.dedupeKey ∈ seen then collectRoutes seen routes observations
      else
        match routeMaterialFromValidatedBootstrapBeacon newURL route.toRelayRouteMaterial with
        | .error message => .error message
        | .ok material =>
          let kept := routes ++ [{ material with expiresAt := route.expiresAt }]
          if maxRouteSnapshot ≤ kept.length then .ok kept
          else collectRoutes (route.dedupeKey :: seen) kept observations

def verifiedRoutesFromBeaconObservations (observations : List BeaconObservation) :
    Except String (List VerifiedRelayRouteSnapshot) :=
  collectRoutes newURL [] [] observations

def routeSnapshot (observations : List BeaconObservation) :
    Except String (List VerifiedRelayRouteSnapshot) :=
  verifiedRoutesFromBeaconObservations newURL (dedupeObservations observations)

end Routes

end Branch.Core
