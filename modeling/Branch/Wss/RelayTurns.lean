import Branch.Wss.FederationBridge
import Branch.Wss.IdentityContactCache

/-!
The attachments of a relay, each with its turns of reading and writing, in the middle of
everything else that goes on. Beside each turn stands the turn that the same frame would have
got if every other party had done its part.
-/

namespace Branch.Wss

open Branch.Lib
open Branch.Relay (Bytes Delivery Err Hub PeerID RouteID SessionID Time)

/-- What a turn meets: the hub at its first and at its second call, the answer of a bridge that
the hub forwards to, the cache of identity contacts, where there is one, and, of `env`, the
connection of the attachment, the clock and the discovery of peers. -/
structure RelayWorld where
  env : Environment
  hub : Hub
  later : Hub
  onward : Option Err
  cache : Option IdentityContactCache
  contacts : IdentityContactConfig
  clock : Nat → Int

section Own

variable (hub : Hub) (source : SessionID)

/-- Why a hub refuses an envelope for the sake of the sender alone. -/
def ownRefusal (payload : Bytes) (delivery : Delivery) : Option Err :=
  match Relay.sendEntryError hub.config.toConfig (some delivery) none payload with
  | some err => some err
  | none =>
    if hub.closed then some .closed
    else
      match hub.sessions.get? source with
      | none => some .sessionClosed
      | some state =>
        if hub.isClosed state.ref then some .sessionClosed
        else
          match state.replayed (some delivery) with
          | some err => some err
          | none =>
            if state.overQuota hub.config.toConfig payload.length then some .quotaExceeded
            else none

def routeRefusal (routeID : RouteID) (peerID : PeerID) : Option Err :=
  match Relay.validateID routeID with
  | some err => some err
  | none =>
    match Relay.validateID peerID with
    | some err => some err
    | none =>
      if hub.closed then some .closed
      else if (hub.sessions.get? source).isNone then some .sessionClosed
      else none

end Own

namespace RelayWorld

variable (w : RelayWorld) (attached : Attached) (raw : Bytes)

/-- Whether the records of a frame are accepted by this cache. -/
def acceptsRecords (cache : IdentityContactCache) : Bool :=
  match decodeTypedFrame raw with
  | .error _ => false
  | .ok frame =>
    match (handleIdentityHaveCached w.contacts (w.env.now / 1000000000) w.clock cache frame).result with
    | .ok () => true
    | .error _ => false

/-- What the relay answers to the handler while it handles this frame. -/
def environment : Environment :=
  { w.env with
    announcePresence := fun peerID =>
      (w.hub.announcePresence attached.sessionID peerID w.env.now).value
    heartbeat := (w.hub.heartbeat attached.sessionID w.env.now).value
    lookup := fun peerID => (w.hub.lookup peerID w.env.now).value.isSome
    lookupLocal := fun peerID => (w.hub.lookupLocal peerID w.env.now).value.isSome
    rendezvous := fun routeID peerID =>
      ((if attached.federationAttachment then w.later else w.hub).rendezvous attached.sessionID
        routeID peerID w.env.now).value
    rendezvousAgain := fun routeID peerID =>
      (w.later.rendezvous attached.sessionID routeID peerID w.env.now).value
    sendDelivery := sendDelivery w.hub attached.sessionID w.env.now w.onward
    identityContacts := w.cache.isSome
    acceptRecord := fun _ _ => w.cache.any fun cache => w.acceptsRecords raw cache }

/-- The same where every peer is there, has room and gets its frames, and the cache holds
nothing that another session brought. -/
def ownEnvironment : Environment :=
  { w.environment attached raw with
    lookup := fun _ => true
    lookupLocal := fun _ => true
    rendezvous := fun routeID peerID =>
      (routeRefusal w.hub attached.sessionID routeID peerID).or
        (routeRefusal w.later attached.sessionID routeID peerID)
    rendezvousAgain := fun routeID peerID =>
      routeRefusal w.later attached.sessionID routeID peerID
    sendDelivery := fun _ payload delivery =>
      ownRefusal w.hub attached.sessionID payload delivery
    acceptRecord := fun _ _ =>
      w.cache.any fun cache => w.acceptsRecords raw { cache with entries := .empty } }

def turn (sequences : SequenceTracker) : SequenceTracker × Turn :=
  readTurn (w.environment attached raw) attached sequences raw

def ownTurn (sequences : SequenceTracker) : SequenceTracker × Turn :=
  readTurn (w.ownEnvironment attached raw) attached sequences raw

end RelayWorld

/-- Whether the writer of an attachment ends over a frame of its inbox. An inbox holds the texts
of envelopes. -/
def writerEnds (envelope : EnvelopeText) (senderPeerID : PeerID) (writeFails : Bool) : Bool :=
  match deliveryPayload ⟨"", senderPeerID, envelope.raw⟩ with
  | .error _ => true
  | .ok _ => writeFails

structure RelayAttachment where
  attached : Attached
  sequences : SequenceTracker := {}

abbrev RelayAttachments := Table SessionID RelayAttachment

inductive AttachmentEvent where
  | attach (attached : Attached)
  | frame (id : SessionID) (raw : Bytes) (world : RelayWorld)
  | write (id : SessionID) (envelope : EnvelopeText) (senderPeerID : PeerID) (writeFails : Bool)
  | leave (id : SessionID)

namespace RelayAttachments

def step (s : RelayAttachments) : AttachmentEvent → RelayAttachments
  | .attach attached => s.insert attached.sessionID { attached }
  | .frame id raw world =>
    match s.get? id with
    | none => s
    | some attachment =>
      let (sequences, turn) := world.turn attachment.attached raw attachment.sequences
      if turn.closes then s.erase id else s.insert id { attachment with sequences }
  | .write id envelope senderPeerID writeFails =>
    if writerEnds envelope senderPeerID writeFails then s.erase id else s
  | .leave id => s.erase id

end RelayAttachments

end Branch.Wss
