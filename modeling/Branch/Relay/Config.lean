import Branch.Lib.BoundedQueue
import Branch.Lib.ReplayWindow

/-!
Identifiers, errors, limits and messages of the in-memory relay hub.
-/

namespace Branch.Relay

abbrev SessionID := String
abbrev RouteID := String
abbrev PeerID := String
abbrev Bytes := List UInt8

abbrev Time := Int
abbrev Duration := Int

abbrev Digest := Vector UInt8 32

/-- Which session object a pointer refers to. An identifier can be attached
again after a close; the object is then a different one. -/
abbrev SessionRef := Nat

abbrev ForwarderRef := Nat

/-- The error values that hub operations return. `canceled` and
`deadlineExceeded` are the context errors; `other` is an error of a forwarder
that is none of the named ones. -/
inductive Err
  | backpressure
  | closed
  | deliveryConflict
  | duplicateDelivery
  | frameTooLarge
  | invalidConfig
  | invalidID
  | noRoute
  | peerUnavailable
  | quotaExceeded
  | routeExists
  | sessionClosed
  | sessionExists
  | sessionLimit
  | sessionNotFound
  | canceled
  | deadlineExceeded
  | other
  deriving DecidableEq, Repr

def maxIDBytes : Nat := 128

/-- A nil error is `none`. -/
def validateID (id : String) : Option Err :=
  if id = "" ∨ maxIDBytes < id.utf8ByteSize then some .invalidID else none

structure Config where
  maxSessions : Int
  maxQueueDepth : Int
  maxFrameBytes : Int
  maxFramesPerSession : UInt64
  maxBytesPerSession : UInt64
  presenceTTL : Duration
  maxReplayEntriesPerSession : Int
  deriving DecidableEq, Repr

def defaultConfig : Config where
  maxSessions := 1024
  maxQueueDepth := 32
  maxFrameBytes := 49152
  maxFramesPerSession := 1048576
  maxBytesPerSession := 1073741824
  presenceTTL := 30000000000
  maxReplayEntriesPerSession := 4096

def validateConfig (config : Config) : Option Err :=
  if config.maxSessions ≤ 0 ∨ config.maxQueueDepth ≤ 0 ∨ config.maxFrameBytes ≤ 0 ∨
      config.maxFramesPerSession = 0 ∨ config.maxBytesPerSession = 0 ∨
      config.presenceTTL ≤ 0 ∨ config.maxReplayEntriesPerSession ≤ 0 then
    some .invalidConfig
  else none

theorem validateConfig_eq_none_iff {config : Config} :
    validateConfig config = none ↔
      0 < config.maxSessions ∧ 0 < config.maxQueueDepth ∧ 0 < config.maxFrameBytes ∧
      config.maxFramesPerSession ≠ 0 ∧ config.maxBytesPerSession ≠ 0 ∧
      0 < config.presenceTTL ∧ 0 < config.maxReplayEntriesPerSession := by
  simp only [validateConfig, ite_eq_right_iff, reduceCtorEq, imp_false, not_or,
    Int.not_le, ne_eq]

theorem validateConfig_defaultConfig : validateConfig defaultConfig = none := by
  decide

structure ValidConfig extends Config where
  valid : validateConfig toConfig = none

def defaultValidConfig : ValidConfig := ⟨defaultConfig, validateConfig_defaultConfig⟩

/-- The opaque payload of one frame with its live route hint. -/
structure Frame where
  routeID : RouteID
  senderPeerID : PeerID
  payload : Bytes
  deriving DecidableEq

structure Delivery where
  streamID : UInt64
  id : String
  digest : Digest
  deriving DecidableEq

structure DeliveryKey where
  senderPeerID : PeerID
  streamID : UInt64
  id : String
  deriving DecidableEq

def Delivery.key (delivery : Delivery) (senderPeerID : PeerID) : DeliveryKey :=
  ⟨senderPeerID, delivery.streamID, delivery.id⟩

structure Presence where
  peerID : PeerID
  sessionID : SessionID
  expiresAt : Time
  federated : Bool
  deriving DecidableEq

end Branch.Relay
