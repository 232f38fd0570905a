import Branch.Lib.InsertionMap
import Branch.Pwa.MessageOutbox

/-!
A tab of the app: its store and its database, the session with a relay, the drain that brings
one message of the outbox after the other on its way, and the tables from which a delivery on
its way comes back to the drain.
-/

namespace Branch.Pwa

open Branch.Lib

structure Contact where
  contactId : String
  peerId : Option String
  hpkePublicKey : Option String
deriving DecidableEq

structure StoredMessageDeliveryTarget where
  messageId : String
  contactId : String
  deliveryIds : List String
  createdAt : Nat
deriving DecidableEq

/-- The one live session. A client gets its number when it is made. -/
structure RelaySession where
  client : Nat
  attached : Bool
deriving DecidableEq

structure OutboxRuntime where
  client : Nat
  running : Bool := false
  activeDeliveryId : Option String := none
  activeContactId : Option String := none
  preferredContactId : Option String := none
  pausedUntilByContactId : InsertionMap String Nat := .empty
  awaitingReceiptRetryAtByMessageId : InsertionMap String Nat := .empty

/-- What the end of a delivery needs to know: the client whose drain it belongs to, and the
message. -/
structure DrainDelivery where
  client : Nat
  contactId : String
  messageId : String
  attempts : Nat
deriving DecidableEq

/-- Where a drain waits: for the database, or for the sealed payload, which goes over the client
that there was when the sealing began. -/
inductive AttemptPhase where
  | savingTarget
  | sealing (client : Nat)
deriving DecidableEq

structure Attempt where
  deliveryId : String
  delivery : DrainDelivery
  recipientPeerId : String
  phase : AttemptPhase
deriving DecidableEq

/-- An attempt on a direct channel. Only a message of the drain is tracked afterwards. -/
structure RTCDirectPending where
  peerId : String
  deliveryId : String
  delivery : Option DrainDelivery
deriving DecidableEq

structure LiveRTCDataSender where
  rtcSessionId : String
  expiresAt : Nat
deriving DecidableEq

structure Tab where
  contacts : List Contact := []
  conversations : Conversations := {}
  outbox : MessageOutbox := {}
  storedContacts : List Contact := []
  targets : Table String StoredMessageDeliveryTarget := .empty
  /-- The contacts whose rows are still to be deleted, and whether the contact is to go too. -/
  cleanups : List (String × Bool) := []
  session : Option RelaySession := none
  clients : Nat := 0
  runtime : Option OutboxRuntime := none
  attempts : List Attempt := []
  trackedDeliveries : InsertionMap String DrainDelivery := .empty
  senders : Table String LiveRTCDataSender := .empty
  direct : List RTCDirectPending := []

def outboxRetryInitialDelayMs : Nat := 1000

def outboxRetryMaximumDelayMs : Nat := 60000

def outboxUnavailableRetryDelayMs : Nat := 5000

def outboxMaximumAgeMs : Nat := 7 * 24 * 60 * 60 * 1000

def maxOutboxEntriesExaminedPerRun : Nat := 128

def maxPausedDrainContacts : Nat := 128

def maxTrackedDeliveries : Nat := 64

def maxRTCDataInFlight : Nat := 32

def maxStoredMessageDeliveryTargets : Nat := 128

def maxDeliveryTargetsPerMessage : Nat := 8

def outboxRetryDelay (attempts : Nat) : Nat :=
  min outboxRetryMaximumDelayMs (outboxRetryInitialDelayMs * 2 ^ min (attempts - 1) 6)

namespace StoredOutboxEntry

def cursor (entry : StoredOutboxEntry) : Nat × String := (entry.createdAt, entry.messageId)

def aged (entry : StoredOutboxEntry) (now : Nat) : Bool :=
  outboxMaximumAgeMs ≤ now - entry.createdAt

end StoredOutboxEntry

def orderOutboxEntries (entries : List StoredOutboxEntry) : List StoredOutboxEntry :=
  entries.insertionSort fun left right => chronological left.cursor right.cursor

/-- The oldest entry of each contact, apart from the entries that were advanced. -/
def contactOutboxHeads (entries : List StoredOutboxEntry)
    (temporarilyAdvancedMessageIds : List String) : List StoredOutboxEntry :=
  orderOutboxEntries <| (orderOutboxEntries entries).foldl (fun heads entry =>
    if entry.messageId ∈ temporarilyAdvancedMessageIds ∨
        heads.any fun head => head.contactId = entry.contactId then heads
    else heads ++ [entry]) []

namespace OutboxRuntime

def isContactDrainPaused (r : OutboxRuntime) (contactId : String) (now : Nat) : Bool :=
  (r.pausedUntilByContactId.get? contactId).any fun pausedUntil => now < pausedUntil

def isAwaitingReceiptRetry (r : OutboxRuntime) (messageId : String) (now : Nat) : Bool :=
  (r.awaitingReceiptRetryAtByMessageId.get? messageId).any fun retryAt => now < retryAt

/-- A new key takes the place of the oldest one when there are as many as there may be. -/
def remember (m : InsertionMap String Nat) (limit : Nat) (key : String) (time : Nat) :
    InsertionMap String Nat :=
  if ¬ m.has key ∧ limit ≤ m.size then
    match m.oldest? with
    | none => m.set key time
    | some oldest => (m.delete oldest).set key time
  else m.set key time

def pauseContactDrain (r : OutboxRuntime) (contactId : String) (retryAt : Nat) : OutboxRuntime :=
  { r with
    pausedUntilByContactId :=
      remember r.pausedUntilByContactId maxPausedDrainContacts contactId retryAt }

def rememberAwaitingReceiptRetry (r : OutboxRuntime) (messageId : String) (retryAt : Nat) :
    OutboxRuntime :=
  { r with
    awaitingReceiptRetryAtByMessageId :=
      remember r.awaitingReceiptRetryAtByMessageId maxOutboxEntriesExaminedPerRun messageId
        retryAt }

def pruneAwaitingReceiptRetries (r : OutboxRuntime) (entries : List StoredOutboxEntry) :
    OutboxRuntime :=
  { r with
    awaitingReceiptRetryAtByMessageId :=
      r.awaitingReceiptRetryAtByMessageId.filter fun messageId _ =>
        entries.any fun entry => entry.messageId = messageId }

def advancedOutboxMessageIds (r : OutboxRuntime) (entries : List StoredOutboxEntry)
    (now : Nat) : List String :=
  (entries.filter fun entry =>
    entry.deliveredAt.isSome ∨ r.isAwaitingReceiptRetry entry.messageId now).map
      StoredOutboxEntry.messageId

/-- What the checks for the next entry leave: a time that has come is forgotten by the check
that finds it. -/
def dropElapsed (r : OutboxRuntime) (entries heads : List StoredOutboxEntry) (now : Nat) :
    OutboxRuntime :=
  { r with
    awaitingReceiptRetryAtByMessageId :=
      r.awaitingReceiptRetryAtByMessageId.filter fun messageId retryAt =>
        now < retryAt ∨ ¬ entries.any fun entry =>
          entry.messageId = messageId ∧ entry.deliveredAt = none
    pausedUntilByContactId :=
      r.pausedUntilByContactId.filter fun contactId pausedUntil =>
        now < pausedUntil ∨ ¬ heads.any fun entry =>
          entry.contactId = contactId ∧ entry.nextAttemptAt ≤ now }

/-- The next entry, and the runtime as the choice leaves it. -/
def nextEligibleEntry (r : OutboxRuntime) (entries : List StoredOutboxEntry) (now : Nat) :
    OutboxRuntime × Option StoredOutboxEntry :=
  let heads := contactOutboxHeads entries (r.advancedOutboxMessageIds entries now)
  let eligible := heads.filter fun entry =>
    entry.nextAttemptAt ≤ now ∧ ¬ r.isContactDrainPaused entry.contactId now ∧
      ¬ r.isAwaitingReceiptRetry entry.messageId now
  let r := r.dropElapsed entries heads now
  match r.preferredContactId with
  | none => (r, eligible.head?)
  | some contactId =>
    match eligible.find? fun entry => entry.contactId = contactId with
    | some preferred => (r, some preferred)
    | none => ({ r with preferredContactId := none }, eligible.head?)

def release (r : OutboxRuntime) (preferredContactId : Option String) : OutboxRuntime :=
  { r with activeDeliveryId := none, activeContactId := none, preferredContactId }

end OutboxRuntime

namespace Tab

section Store

def setMessageDeliveryState (s : Tab) (contactId messageId : String)
    (deliveryState : MessageDeliveryState) : Tab :=
  { s with
    conversations := s.conversations.setMessageDeliveryState contactId messageId deliveryState }

def queueMessage (s : Tab) (entry : StoredOutboxEntry) : Tab :=
  { s with outbox := s.outbox.queueMessage entry }

def settleOutboxMessage (s : Tab) (messageId : String) : Tab :=
  { s with outbox := s.outbox.settleOutboxMessage messageId }

def contact? (s : Tab) (contactId : String) : Option Contact :=
  s.contacts.find? fun contact => contact.contactId = contactId

def message? (s : Tab) (contactId messageId : String) : Option MessageSummary :=
  (s.conversations.window contactId).find? fun message => message.messageId = messageId

def saveStoredMessageDeliveryTarget (s : Tab) (delivery : DrainDelivery) (deliveryId : String)
    (createdAt : Nat) : Tab :=
  let previous := (s.targets.get? delivery.messageId).elim []
    StoredMessageDeliveryTarget.deliveryIds
  let targets := s.targets.insert delivery.messageId
    { messageId := delivery.messageId
      contactId := delivery.contactId
      deliveryIds := (deliveryId :: previous.filter (· ≠ deliveryId)).take
        maxDeliveryTargetsPerMessage
      createdAt }
  { s with
    targets := targets.filter fun messageId target =>
      targets.toList.countP (fun older =>
        ¬ chronological (target.createdAt, messageId) (older.2.createdAt, older.1)) <
          maxStoredMessageDeliveryTargets }

def findStoredMessageDeliveryTarget (s : Tab) (contactId deliveryId : String) :
    Option StoredMessageDeliveryTarget :=
  let rows := (s.targets.toList.map Prod.snd).filter fun target =>
    deliveryId ∈ target.deliveryIds
  let ordered := rows.insertionSort fun left right =>
    ¬ Utf16.units right.messageId < Utf16.units left.messageId
  ordered.head?.filter fun target => target.contactId = contactId

end Store

section Release

/-- The attempt is over: the entry waits, and the slot is free. A stopped drain is not
concerned. -/
def stopActiveDrain (s : Tab) (deliveryId : String) (delivery : DrainDelivery) (now : Nat) :
    Tab :=
  match s.runtime with
  | none => s
  | some r =>
    if r.client ≠ delivery.client ∨ r.activeDeliveryId ≠ some deliveryId then s
    else
      let retryAt := now + outboxRetryDelay delivery.attempts
      { s with
        outbox :=
          match s.outbox.find? delivery.messageId with
          | none => s.outbox
          | some entry => s.outbox.queueMessage
              { entry with nextAttemptAt := max entry.nextAttemptAt retryAt }
        runtime := some ((r.release none).pauseContactDrain delivery.contactId retryAt) }

def clearDelivery (s : Tab) (deliveryId : String) : Tab :=
  { s with trackedDeliveries := s.trackedDeliveries.delete deliveryId }

/-- The time of a tracked delivery is over, or its place is needed. -/
def expireDelivery (s : Tab) (deliveryId : String) (now : Nat) : Tab :=
  match s.trackedDeliveries.get? deliveryId with
  | none => s
  | some delivery => (s.clearDelivery deliveryId).stopActiveDrain deliveryId delivery now

def evictOldestDelivery (s : Tab) (now : Nat) : Tab :=
  if s.trackedDeliveries.size = maxTrackedDeliveries then
    match s.trackedDeliveries.oldest? with
    | none => s
    | some oldestDeliveryId => s.expireDelivery oldestDeliveryId now
  else s

def trackDelivery (s : Tab) (deliveryId : String) (delivery : DrainDelivery) (now : Nat) :
    Tab :=
  let s := (s.clearDelivery deliveryId).evictOldestDelivery now
  { s with trackedDeliveries := s.trackedDeliveries.set deliveryId delivery }

def takeTrackedDeliveries (s : Tab) : Tab :=
  s.trackedDeliveries.entries.foldl
    (fun s tracked => s.setMessageDeliveryState tracked.2.contactId tracked.2.messageId
      .unavailable)
    { s with trackedDeliveries := .empty }

/-- The forwarded message waits for its receipt, and the next one of its contact may go. -/
def advanceMessageOutboxDrainAfterRelayForwarded (s : Tab) (deliveryId : String) : Tab :=
  match s.runtime with
  | none => s
  | some r =>
    if r.activeDeliveryId ≠ some deliveryId then s
    else
      let r' :=
        match s.outbox.entries.find? fun entry => entry.lastDeliveryId = some deliveryId with
        | none => r
        | some entry => r.rememberAwaitingReceiptRetry entry.messageId entry.nextAttemptAt
      { s with runtime := some (r'.release r.activeContactId) }

def restartMessageOutboxDrainAfterPresencePong (s : Tab) (contactId : String) (visible : Bool)
    (now : Nat) : Tab :=
  match s.runtime with
  | none => s
  | some r =>
    match r.activeDeliveryId with
    | none => s
    | some deliveryId =>
      if visible = false ∨ r.activeContactId ≠ some contactId then s
      else
        let s :=
          match s.outbox.entries.find? fun entry => entry.lastDeliveryId = some deliveryId with
          | none => s
          | some entry => s.queueMessage { entry with nextAttemptAt := now }
        let r := r.release (some contactId)
        { s.clearDelivery deliveryId with
          runtime :=
            some { r with pausedUntilByContactId := r.pausedUntilByContactId.delete contactId } }

end Release

section Direct

/-- The message goes over the relay after all. Whether the relay's client takes it or not, its
timer runs. -/
def fallbackToWSS (s : Tab) (pending : RTCDirectPending) (now : Nat) : Tab :=
  match pending.delivery with
  | none => s
  | some delivery => s.trackDelivery pending.deliveryId delivery now

def fallbackWhere (s : Tab) (p : RTCDirectPending → Bool) (now : Nat) : Tab :=
  (s.direct.filter p).foldl (fun s pending => s.fallbackToWSS pending now)
    { s with direct := s.direct.filter fun pending => ¬ p pending }

def resetSender (s : Tab) (peerId : String) (now : Nat) : Tab :=
  s.fallbackWhere (fun pending => pending.peerId = peerId) now

def installLiveRTCDataSender (s : Tab) (peerId : String) (sender : LiveRTCDataSender)
    (now : Nat) : Tab :=
  let s := s.resetSender peerId now
  { s with senders := s.senders.insert peerId sender }

inductive ChannelSend where
  | unencodable
  | failed
  | sent
deriving DecidableEq

/-- The attempt, and whether the direct channel has taken charge of it. A channel that fails at
once falls back at once. -/
def sendLiveRTCData (s : Tab) (pending : RTCDirectPending) (channel : ChannelSend) (now : Nat) :
    Tab × Bool :=
  match s.senders.get? pending.peerId with
  | none => (s, false)
  | some sender =>
    if sender.expiresAt ≤ now then
      ({ s with senders := s.senders.erase pending.peerId }.resetSender pending.peerId now, false)
    else if (s.direct.any fun other =>
          other.peerId = pending.peerId ∧ other.deliveryId = pending.deliveryId) ∨
        maxRTCDataInFlight ≤ s.direct.countP fun other => other.peerId = pending.peerId then
      (s, false)
    else
      match channel with
      | .unencodable => (s, false)
      | .failed => (s.fallbackToWSS pending now, true)
      | .sent => ({ s with direct := s.direct ++ [pending] }, true)

def isPending (peerId deliveryId : String) (pending : RTCDirectPending) : Bool :=
  pending.peerId = peerId ∧ pending.deliveryId = deliveryId

/-- The peer has the message: nothing is left of the attempt. -/
def admitDelivery (s : Tab) (peerId rtcSessionId deliveryId : String) : Tab :=
  match s.senders.get? peerId with
  | none => s
  | some sender =>
    if sender.rtcSessionId ≠ rtcSessionId then s
    else { s with direct := s.direct.filter fun pending => ¬ isPending peerId deliveryId pending }

def rtcTimeout (s : Tab) (peerId deliveryId : String) (now : Nat) : Tab :=
  s.fallbackWhere (isPending peerId deliveryId) now

end Direct

section Drain

structure RunEnvironment where
  now : Nat
  visible : Bool
  /-- There is an identity, and the store shows the tab as attached. -/
  attached : Bool
  available : String → Bool
  peerSupportsChatText : String → Bool
  /-- The fresh identifier of the attempt. -/
  deliveryId : String

/-- The check for the attached session is about the client, not about what is shown. -/
def attachedTo (s : Tab) (client : Nat) : Bool := s.session = some { client, attached := true }

def defer (s : Tab) (entry : StoredOutboxEntry) (now : Nat) : Tab :=
  let nextAttemptAt := max entry.nextAttemptAt (now + outboxUnavailableRetryDelayMs)
  if nextAttemptAt ≠ entry.nextAttemptAt then s.queueMessage { entry with nextAttemptAt } else s

def startAttempt (s : Tab) (r : OutboxRuntime) (due : StoredOutboxEntry) (peerId : String)
    (env : RunEnvironment) : Tab :=
  let next :=
    { due with
      attempts := due.attempts + 1
      lastDeliveryId := some env.deliveryId
      nextAttemptAt := env.now + outboxRetryDelay (due.attempts + 1) }
  { s.queueMessage next with
    runtime := some { r with
      running := true
      activeDeliveryId := some env.deliveryId
      activeContactId := some due.contactId }
    attempts := s.attempts ++ [{
      deliveryId := env.deliveryId
      delivery :=
        { client := r.client
          contactId := due.contactId
          messageId := due.messageId
          attempts := next.attempts }
      recipientPeerId := peerId
      phase := .savingTarget }] }

def drainEntry (s : Tab) (r : OutboxRuntime) (due : StoredOutboxEntry) (env : RunEnvironment) :
    Tab :=
  match s.contact? due.contactId, s.message? due.contactId due.messageId with
  | some contact, some message =>
    if message.direction ≠ .outgoing then s.settleOutboxMessage due.messageId
    else if due.aged env.now then
      (s.setMessageDeliveryState due.contactId due.messageId .unavailable).settleOutboxMessage
        due.messageId
    else
      match contact.peerId, contact.hpkePublicKey with
      | some peerId, some _ =>
        if env.available contact.contactId = false ∨ env.peerSupportsChatText peerId = false then
          s.defer due env.now
        else s.startAttempt r due peerId env
      | _, _ => s.defer due env.now
  -- There is nothing to be sent, or nobody to send it to.
  | _, _ => s.settleOutboxMessage due.messageId

def examined (s : Tab) : List StoredOutboxEntry :=
  (orderOutboxEntries s.outbox.entries).take maxOutboxEntriesExaminedPerRun

def expiredDelivered (s : Tab) (now : Nat) : List StoredOutboxEntry :=
  s.examined.filter fun entry => entry.deliveredAt.isSome ∧ entry.aged now

/-- The entry whose turn it is, and the runtime as the choice leaves it. -/
def next (s : Tab) (r : OutboxRuntime) (now : Nat) : OutboxRuntime × Option StoredOutboxEntry :=
  (r.pruneAwaitingReceiptRetries s.examined).nextEligibleEntry s.examined now

def mayRun (s : Tab) (r : OutboxRuntime) (env : RunEnvironment) : Bool :=
  r.running = false ∧ r.activeDeliveryId = none ∧ env.visible ∧ s.attachedTo r.client ∧
    env.attached

/-- A run of the drain up to the point where it waits. Every change of the store makes one
come, and so do the timers. -/
def run (s : Tab) (env : RunEnvironment) : Tab :=
  match s.runtime with
  | none => s
  | some r =>
    if s.mayRun r env = false then s
    else if s.expiredDelivered env.now ≠ [] then
      (s.expiredDelivered env.now).foldl
        (fun s entry => s.settleOutboxMessage entry.messageId)
        { s with runtime := some (r.pruneAwaitingReceiptRetries s.examined) }
    else
      match s.next r env.now with
      | (r, none) => { s with runtime := some r }
      | (r, some due) => { s with runtime := some r }.drainEntry r due env

def finishAttempt (s : Tab) (attempt : Attempt) : Tab :=
  { s with
    attempts := s.attempts.erase attempt
    runtime := s.runtime.map fun r =>
      if r.client = attempt.delivery.client then { r with running := false } else r }

def failAttempt (s : Tab) (attempt : Attempt) (now : Nat) : Tab :=
  (s.stopActiveDrain attempt.deliveryId attempt.delivery now).finishAttempt attempt

def waiting (deliveryId : String) (attempt : Attempt) : Bool :=
  attempt.deliveryId = deliveryId ∧ attempt.phase = .savingTarget

/-- The drain goes on after the database has answered: the payload is handed over to be
sealed. -/
def targetSaved (s : Tab) (deliveryId : String) (saved encodes : Bool) (now : Nat) : Tab :=
  match s.attempts.find? (waiting deliveryId) with
  | none => s
  | some attempt =>
    if saved = false then s.failAttempt attempt now
    else
      let s := s.saveStoredMessageDeliveryTarget attempt.delivery deliveryId now
      match s.session with
      | some { client, attached := true } =>
        if encodes = false then s.failAttempt attempt now
        else
          { s with
            attempts := s.attempts.erase attempt ++ [{ attempt with phase := .sealing client }] }
      | _ => s.failAttempt attempt now

structure SealOutcome where
  succeeds : Bool
  rendezvous : Bool
  channel : ChannelSend
  sends : Bool
  now : Nat
deriving DecidableEq

def sealingOver (deliveryId : String) (attempt : Attempt) : Option Nat :=
  match attempt.phase with
  | .savingTarget => none
  | .sealing client => if attempt.deliveryId = deliveryId then some client else none

/-- The sealed payload is sent, on a direct channel or over the relay. -/
def sealed (s : Tab) (deliveryId : String) (outcome : SealOutcome) : Tab :=
  match s.attempts.find? fun attempt => (sealingOver deliveryId attempt).isSome with
  | none => s
  | some attempt =>
    if outcome.succeeds = false ∨
        (sealingOver deliveryId attempt).all (fun client => s.attachedTo client = false) ∨
        outcome.rendezvous = false then
      s.failAttempt attempt outcome.now
    else
      let pending :=
        { peerId := attempt.recipientPeerId, deliveryId, delivery := some attempt.delivery }
      match s.sendLiveRTCData pending outcome.channel outcome.now with
      | (s, true) => s.finishAttempt attempt
      | (s, false) =>
        let s := s.trackDelivery deliveryId attempt.delivery outcome.now
        if outcome.sends then s.finishAttempt attempt
        else (s.clearDelivery deliveryId).failAttempt attempt outcome.now

end Drain

section Session

inductive AckType where
  | accepted
  | forwarded
deriving DecidableEq

def relayAck (s : Tab) (deliveryId : String) (ackType : AckType) : Tab :=
  let s :=
    match s.trackedDeliveries.get? deliveryId with
    | none => s
    | some delivery =>
      (s.setMessageDeliveryState delivery.contactId delivery.messageId .relayed).clearDelivery
        deliveryId
  match ackType with
  | .accepted => s
  | .forwarded => s.advanceMessageOutboxDrainAfterRelayForwarded deliveryId

def attachRelaySession (s : Tab) : Tab :=
  { s with
    session := some { client := s.clients, attached := false }
    clients := s.clients + 1
    trackedDeliveries := .empty }

def disconnectRelaySession (s : Tab) : Tab :=
  { s with session := none, trackedDeliveries := .empty }

def attached (s : Tab) : Tab :=
  match s.session with
  | some { client, attached := false } =>
    { s with session := some { client, attached := true }, runtime := some { client } }
  | _ => s

def disconnected (s : Tab) : Tab :=
  { s with runtime := none }.takeTrackedDeliveries.disconnectRelaySession

inductive ReceiptKind where
  | delivered
  | read
deriving DecidableEq

def receiptMessage (s : Tab) (contactId targetDeliveryId : String) : Option String :=
  let outboxEntry := s.outbox.entries.find? fun entry =>
    entry.contactId = contactId ∧ entry.lastDeliveryId = some targetDeliveryId
  match outboxEntry with
  | some entry => some entry.messageId
  | none => (s.findStoredMessageDeliveryTarget contactId targetDeliveryId).map
      StoredMessageDeliveryTarget.messageId

def receipt (s : Tab) (contactId : String) (kind : ReceiptKind) (targetDeliveryId : String)
    (now : Nat) : Tab :=
  match s.receiptMessage contactId targetDeliveryId with
  | none => s
  | some messageId =>
    match kind with
    | .delivered =>
      let s := s.setMessageDeliveryState contactId messageId .delivered
      { s with outbox := s.outbox.markOutboxMessageDelivered messageId now }
    | .read =>
      let s := (s.setMessageDeliveryState contactId messageId .read).settleOutboxMessage messageId
      { s with targets := s.targets.erase messageId }

end Session

section Local

/-- A text that the user sends, or sends again in place of a message that was unavailable. -/
structure Composition where
  contactId : String
  messageId : String
  applicationMessageId : String
  body : String
  createdAt : Nat
  replyToMessageId : Option String := none
  previousUnavailableMessage : Option MessageSummary := none
deriving DecidableEq

namespace Composition

def message (composition : Composition) : MessageSummary where
  messageId := composition.messageId
  contactId := composition.contactId
  direction := .outgoing
  body := composition.body
  sentAt := composition.previousUnavailableMessage.elim composition.createdAt
    MessageSummary.sentAt
  deliveryState := .pending
  applicationMessageId := some composition.applicationMessageId
  replyToMessageId := composition.replyToMessageId

def entry (composition : Composition) : StoredOutboxEntry where
  messageId := composition.messageId
  contactId := composition.contactId
  applicationMessageId := composition.applicationMessageId
  createdAt := composition.createdAt
  nextAttemptAt := composition.createdAt
  attempts := 0
  lastDeliveryId := none
  deliveredAt := none

def valid (composition : Composition) : Bool :=
  composition.body ≠ "" ∧ composition.messageId ≠ "" ∧ composition.applicationMessageId ≠ "" ∧
    composition.messageId ≠ composition.applicationMessageId

end Composition

/-- The conversations with the new message, if it comes to be shown. -/
def projected (s : Tab) (composition : Composition) : Option Conversations :=
  match composition.previousUnavailableMessage with
  | none => some (s.conversations.appendMessage composition.message)
  | some previous => s.conversations.retryUnavailableMessage composition.contactId
      previous.messageId composition.message

def sendBody (s : Tab) (composition : Composition) : Tab :=
  match s.contact? composition.contactId with
  | none => s
  | some contact =>
    if composition.valid = false then s
    else
      match s.projected composition with
      | none => s
      | some conversations =>
        let s := { s with conversations }
        if contact.peerId.isSome ∧ contact.hpkePublicKey.isSome then
          s.queueMessage composition.entry
        else s

def deleteMessagesLocally (s : Tab) (contactId : String) (messageIds : List String) : Tab :=
  if s.conversations.deletable contactId messageIds = [] then s
  else
    { s with
      conversations := s.conversations.deleteMessagesLocally contactId messageIds
      outbox := s.outbox.dropMessages (Conversations.wanted messageIds) }

def clearLocalConversation (s : Tab) (contactId : String) : Tab :=
  { s with
    conversations := s.conversations.clearWindow contactId
    outbox := s.outbox.dropContact contactId
    cleanups := s.cleanups ++ [(contactId, false)] }

def withoutContact (contacts : List Contact) (contactId : String) : List Contact :=
  contacts.filter fun contact => contact.contactId ≠ contactId

def forgetContact (s : Tab) (contactId : String) : Tab :=
  { s with
    contacts := withoutContact s.contacts contactId
    conversations := s.conversations.clearWindow contactId
    outbox := s.outbox.dropContact contactId
    cleanups := s.cleanups ++ [(contactId, true)] }

def upsertContact (s : Tab) (contact : Contact) : Tab :=
  { s with
    contacts := withoutContact s.contacts contact.contactId ++ [contact]
    storedContacts := withoutContact s.storedContacts contact.contactId ++ [contact] }

/-- A deletion of messages takes the rows of their outbox entries and delivery targets along. -/
def settleMessageWrite (s : Tab) (position : Nat) (completes : Bool) (now : Nat) : Tab :=
  let s' := { s with conversations := s.conversations.settleWrite position completes now }
  match s.conversations.writes[position]? with
  | some (.delete messageIds) =>
    if completes = false ∨ s.conversations.hasTurn position (.delete messageIds) = false then s'
    else
      { s' with
        outbox := s.outbox.deleteStoredRows messageIds
        targets := s.targets.filter fun messageId _ => messageId ∉ messageIds }
  | _ => s'

def settleCleanup (s : Tab) (position : Nat) (now : Nat) : Tab :=
  match s.cleanups[position]? with
  | none => s
  | some (contactId, contactToo) =>
    { s with
      cleanups := s.cleanups.eraseIdx position
      conversations := s.conversations.deleteStoredMessagesForContact contactId now
      outbox := s.outbox.deleteStoredOutboxForContact contactId
      targets := s.targets.filter fun _ target => target.contactId ≠ contactId
      storedContacts :=
        if contactToo then withoutContact s.storedContacts contactId else s.storedContacts }

def reload (s : Tab) : Tab where
  contacts := s.storedContacts
  conversations := s.conversations.reload (s.storedContacts.map Contact.contactId)
  outbox := s.outbox.reload
  storedContacts := s.storedContacts
  targets := s.targets
  clients := s.clients

end Local

end Tab

/-- What happens in a tab, in any order: the user, the database, the relay, the peers and the
timers. -/
inductive TabEvent where
  | sendBody (composition : Tab.Composition)
  | appendMessage (message : MessageSummary)
  | replaceConversationWindow (contactId : String) (messages : List MessageSummary)
  | deleteMessagesLocally (contactId : String) (messageIds : List String)
  | clearLocalConversation (contactId : String)
  | upsertContact (contact : Contact)
  | forgetContact (contactId : String)
  | storeImage (projection : ImageMessageProjection)
  | settleMessageWrite (position : Nat) (completes : Bool) (now : Nat)
  | settleOutboxWrite (position : Nat) (completes : Bool)
  | settleCleanup (position : Nat) (now : Nat)
  | reload
  /-- The route of the session is none of those to be used any more. -/
  | leaveRoute
  | attachRelaySession
  | attachFailed
  | attached
  | disconnected
  | relayAck (deliveryId : String) (ackType : Tab.AckType)
  | deliveryTimeout (deliveryId : String) (now : Nat)
  | run (env : Tab.RunEnvironment)
  | targetSaved (deliveryId : String) (saved encodes : Bool) (now : Nat)
  | sealed (deliveryId : String) (outcome : Tab.SealOutcome)
  | installSender (peerId : String) (sender : LiveRTCDataSender) (now : Nat)
  | rtcAdmit (peerId rtcSessionId deliveryId : String)
  | rtcTimeout (peerId deliveryId : String) (now : Nat)
  | sendControl (peerId deliveryId : String) (channel : Tab.ChannelSend) (now : Nat)
  | receipt (contactId : String) (kind : Tab.ReceiptKind) (targetDeliveryId : String) (now : Nat)
  | presencePong (contactId : String) (visible : Bool) (now : Nat)

namespace Tab

def step (s : Tab) : TabEvent → Tab
  | .sendBody composition => s.sendBody composition
  | .appendMessage message =>
    { s with conversations := s.conversations.appendMessage message }
  | .replaceConversationWindow contactId messages =>
    { s with conversations := s.conversations.replaceConversationWindow contactId messages }
  | .deleteMessagesLocally contactId messageIds => s.deleteMessagesLocally contactId messageIds
  | .clearLocalConversation contactId => s.clearLocalConversation contactId
  | .upsertContact contact => s.upsertContact contact
  | .forgetContact contactId => s.forgetContact contactId
  | .storeImage projection =>
    { s with conversations := s.conversations.storeVerifiedImageMessage projection }
  | .settleMessageWrite position completes now => s.settleMessageWrite position completes now
  | .settleOutboxWrite position completes =>
    { s with outbox := s.outbox.settleWrite position completes }
  | .settleCleanup position now => s.settleCleanup position now
  | .reload => s.reload
  | .leaveRoute => s.takeTrackedDeliveries
  | .attachRelaySession => s.attachRelaySession
  | .attachFailed => s.disconnectRelaySession
  | .attached => s.attached
  | .disconnected => s.disconnected
  | .relayAck deliveryId ackType => s.relayAck deliveryId ackType
  | .deliveryTimeout deliveryId now => s.expireDelivery deliveryId now
  | .run env => s.run env
  | .targetSaved deliveryId saved encodes now => s.targetSaved deliveryId saved encodes now
  | .sealed deliveryId outcome => s.sealed deliveryId outcome
  | .installSender peerId sender now => s.installLiveRTCDataSender peerId sender now
  | .rtcAdmit peerId rtcSessionId deliveryId => s.admitDelivery peerId rtcSessionId deliveryId
  | .rtcTimeout peerId deliveryId now => s.rtcTimeout peerId deliveryId now
  | .sendControl peerId deliveryId channel now =>
    (s.sendLiveRTCData { peerId, deliveryId, delivery := none } channel now).1
  | .receipt contactId kind targetDeliveryId now => s.receipt contactId kind targetDeliveryId now
  | .presencePong contactId visible now =>
    s.restartMessageOutboxDrainAfterPresencePong contactId visible now

section Frame

variable {α : Type*} {f : Tab → α}

def Unaffected (f : Tab → α) : Prop :=
  ∀ (s : Tab) outbox runtime trackedDeliveries direct senders,
    f { s with outbox, runtime, trackedDeliveries, direct, senders } = f s

theorem unaffected_conversations : Unaffected conversations := fun _ _ _ _ _ _ => rfl

theorem unaffected_attempts : Unaffected attempts := fun _ _ _ _ _ _ => rfl

namespace Unaffected

variable (hf : Unaffected f) (s : Tab) (deliveryId : String) (delivery : DrainDelivery)
  (now : Nat)

include hf

theorem queueMessage (entry : StoredOutboxEntry) : f (s.queueMessage entry) = f s := by
  unfold Tab.queueMessage
  exact hf s _ s.runtime s.trackedDeliveries s.direct s.senders

theorem clearDelivery : f (s.clearDelivery deliveryId) = f s :=
  hf s s.outbox s.runtime _ s.direct s.senders

theorem stopActiveDrain : f (s.stopActiveDrain deliveryId delivery now) = f s := by
  unfold Tab.stopActiveDrain
  split
  · rfl
  · split
    · rfl
    · exact hf s _ _ s.trackedDeliveries s.direct s.senders

theorem expireDelivery : f (s.expireDelivery deliveryId now) = f s := by
  unfold Tab.expireDelivery
  split
  · rfl
  · rw [stopActiveDrain hf, clearDelivery hf]

theorem evictOldestDelivery : f (s.evictOldestDelivery now) = f s := by
  unfold Tab.evictOldestDelivery
  split
  · split
    · rfl
    · exact expireDelivery hf s _ now
  · rfl

theorem trackDelivery : f (s.trackDelivery deliveryId delivery now) = f s := by
  unfold Tab.trackDelivery
  have hset := hf ((s.clearDelivery deliveryId).evictOldestDelivery now)
    ((s.clearDelivery deliveryId).evictOldestDelivery now).outbox
    ((s.clearDelivery deliveryId).evictOldestDelivery now).runtime
    (((s.clearDelivery deliveryId).evictOldestDelivery now).trackedDeliveries.set deliveryId
      delivery)
    ((s.clearDelivery deliveryId).evictOldestDelivery now).direct
    ((s.clearDelivery deliveryId).evictOldestDelivery now).senders
  rw [evictOldestDelivery hf, clearDelivery hf] at hset
  exact hset

theorem fallbackToWSS (pending : RTCDirectPending) : f (s.fallbackToWSS pending now) = f s := by
  unfold Tab.fallbackToWSS
  split
  · rfl
  · exact trackDelivery hf s _ _ now

theorem foldl_fallbackToWSS (l : List RTCDirectPending) :
    f (l.foldl (fun s pending => s.fallbackToWSS pending now) s) = f s := by
  induction l generalizing s with
  | nil => rfl
  | cons pending l ih => rw [List.foldl_cons, ih, fallbackToWSS hf]

theorem fallbackWhere (p : RTCDirectPending → Bool) : f (s.fallbackWhere p now) = f s := by
  unfold Tab.fallbackWhere
  rw [foldl_fallbackToWSS hf]
  exact hf s s.outbox s.runtime s.trackedDeliveries _ s.senders

theorem sendLiveRTCData (pending : RTCDirectPending) (channel : ChannelSend) :
    f (s.sendLiveRTCData pending channel now).1 = f s := by
  unfold Tab.sendLiveRTCData
  split
  · rfl
  · split
    · refine (fallbackWhere hf _ now _).trans ?_
      exact hf s s.outbox s.runtime s.trackedDeliveries s.direct _
    · split
      · rfl
      · cases channel with
        | unencodable => rfl
        | failed => exact fallbackToWSS hf s now pending
        | sent => exact hf s s.outbox s.runtime s.trackedDeliveries _ s.senders

theorem advance : f (s.advanceMessageOutboxDrainAfterRelayForwarded deliveryId) = f s := by
  unfold advanceMessageOutboxDrainAfterRelayForwarded
  split
  · rfl
  · split
    · rfl
    · exact hf s s.outbox _ s.trackedDeliveries s.direct s.senders

theorem restart (contactId : String) (visible : Bool) :
    f (s.restartMessageOutboxDrainAfterPresencePong contactId visible now) = f s := by
  unfold restartMessageOutboxDrainAfterPresencePong
  split
  · rfl
  · split
    · rfl
    · split
      · rfl
      · dsimp only
        split
        · exact hf s s.outbox _ _ s.direct s.senders
        · rename_i deliveryId _ _ _ entry _
          generalize { entry with nextAttemptAt := now } = entry
          have hruntime := hf ((s.queueMessage entry).clearDelivery deliveryId)
            ((s.queueMessage entry).clearDelivery deliveryId).outbox
          rw [clearDelivery hf, queueMessage hf] at hruntime
          exact hruntime _ _ _ _

theorem defer (entry : StoredOutboxEntry) : f (s.defer entry now) = f s := by
  unfold Tab.defer
  dsimp only
  split
  · exact queueMessage hf s _
  · rfl

end Unaffected

end Frame

section Run

variable {s : Tab}

inductive Drained (s : Tab) (r : OutboxRuntime) (due : StoredOutboxEntry)
    (env : RunEnvironment) : Tab → Prop
  | orphan
      (nothing : ∀ contact message, s.contact? due.contactId = some contact →
        s.message? due.contactId due.messageId = some message → message.direction ≠ .outgoing) :
      Drained s r due env (s.settleOutboxMessage due.messageId)
  | expired (aged : due.aged env.now = true) :
      Drained s r due env ((s.setMessageDeliveryState due.contactId due.messageId
        .unavailable).settleOutboxMessage due.messageId)
  | deferred : Drained s r due env (s.defer due env.now)
  | started (peerId : String) : Drained s r due env (s.startAttempt r due peerId env)

theorem drained_drainEntry (s : Tab) (r : OutboxRuntime) (due : StoredOutboxEntry)
    (env : RunEnvironment) : Drained s r due env (s.drainEntry r due env) := by
  unfold drainEntry
  split
  · rename_i contact message hcontact hmessage
    split
    · rename_i hdirection
      refine .orphan fun contact' message' _ hmessage' => ?_
      rw [hmessage] at hmessage'
      exact Option.some.inj hmessage' ▸ hdirection
    · split
      · rename_i haged
        exact .expired haged
      · split
        · split
          · exact .deferred
          · exact .started _
        · exact .deferred
  · rename_i hnothing
    exact .orphan fun contact message hcontact hmessage =>
      absurd hmessage (hnothing contact message hcontact)

inductive Ran (s : Tab) (env : RunEnvironment) : Tab → Prop
  | idle : Ran s env s
  | expired {r r' : OutboxRuntime} (runtime_eq : s.runtime = some r)
      (inactive : r.activeDeliveryId = none) (inactive' : r'.activeDeliveryId = none) :
      Ran s env ((s.expiredDelivered env.now).foldl
        (fun s entry => s.settleOutboxMessage entry.messageId) { s with runtime := some r' })
  | waiting {r r' : OutboxRuntime} (runtime_eq : s.runtime = some r)
      (inactive : r.activeDeliveryId = none) (inactive' : r'.activeDeliveryId = none) :
      Ran s env { s with runtime := some r' }
  | drained {r r' : OutboxRuntime} {due : StoredOutboxEntry} {s' : Tab}
      (runtime_eq : s.runtime = some r) (may_run : s.mayRun r env = true)
      (inactive : r.activeDeliveryId = none) (inactive' : r'.activeDeliveryId = none)
      (none_expired : s.expiredDelivered env.now = [])
      (next_eq : s.next r env.now = (r', some due))
      (outcome : Drained { s with runtime := some r' } r' due env s') :
      Ran s env s'

theorem nextEligibleEntry_fst (r : OutboxRuntime) (entries : List StoredOutboxEntry)
    (now : Nat) :
    (r.nextEligibleEntry entries now).1.activeDeliveryId = r.activeDeliveryId := by
  unfold OutboxRuntime.nextEligibleEntry
  dsimp only
  split
  · rfl
  · split
    · rfl
    · rfl

variable {entries : List StoredOutboxEntry}

theorem mem_orderOutboxEntries {entry : StoredOutboxEntry} :
    entry ∈ orderOutboxEntries entries ↔ entry ∈ entries :=
  List.mem_insertionSort _

theorem mem_contactOutboxHeads {advanced : List String}
    {entry : StoredOutboxEntry} (h : entry ∈ contactOutboxHeads entries advanced) :
    entry ∈ entries ∧ entry.messageId ∉ advanced := by
  have hfold : ∀ (l heads : List StoredOutboxEntry),
      (∀ head ∈ heads, head ∈ entries ∧ head.messageId ∉ advanced) → (∀ e ∈ l, e ∈ entries) →
        ∀ head ∈ l.foldl (fun heads entry =>
          if entry.messageId ∈ advanced ∨
              heads.any fun head => head.contactId = entry.contactId then heads
          else heads ++ [entry]) heads,
          head ∈ entries ∧ head.messageId ∉ advanced := by
    intro l
    induction l with
    | nil => exact fun heads hheads _ => hheads
    | cons e l ih =>
      intro heads hheads hl
      refine ih _ ?_ fun e' he' => hl e' (List.mem_cons_of_mem _ he')
      dsimp only
      split
      · exact hheads
      · rename_i hnot
        intro head hhead
        rcases List.mem_append.mp hhead with hhead | hhead
        · exact hheads head hhead
        · rw [List.mem_singleton.mp hhead]
          exact ⟨hl e List.mem_cons_self, fun hadvanced => hnot (.inl hadvanced)⟩
  refine hfold _ [] (by simp) ?_ entry (mem_orderOutboxEntries.mp h)
  exact fun e he => mem_orderOutboxEntries.mp he

theorem mem_of_nextEligibleEntry {r : OutboxRuntime}
    {now : Nat} {due : StoredOutboxEntry} (h : (r.nextEligibleEntry entries now).2 = some due) :
    due ∈ contactOutboxHeads entries (r.advancedOutboxMessageIds entries now) := by
  unfold OutboxRuntime.nextEligibleEntry at h
  dsimp only at h
  split at h
  · exact List.mem_of_mem_filter (List.mem_of_mem_head? h)
  · split at h
    · rename_i hfind
      rw [← Option.some.inj h]
      exact List.mem_of_mem_filter (List.mem_of_find?_eq_some hfind)
    · exact List.mem_of_mem_filter (List.mem_of_mem_head? h)

theorem mem_of_next {r r' : OutboxRuntime} {now : Nat} {due : StoredOutboxEntry}
    (h : s.next r now = (r', some due)) :
    due ∈ s.outbox.entries ∧ due.deliveredAt = none := by
  have hnext : ((r.pruneAwaitingReceiptRetries s.examined).nextEligibleEntry s.examined now).2 =
      some due := congrArg Prod.snd h
  obtain ⟨hexamined, hadvanced⟩ := mem_contactOutboxHeads (mem_of_nextEligibleEntry hnext)
  refine ⟨mem_orderOutboxEntries.mp (List.mem_of_mem_take hexamined), ?_⟩
  by_contra hdelivered
  refine hadvanced (List.mem_map.mpr ⟨due, List.mem_filter.mpr ⟨hexamined, ?_⟩, rfl⟩)
  exact decide_eq_true (.inl (Option.isSome_iff_ne_none.mpr hdelivered))

theorem ran_run (s : Tab) (env : RunEnvironment) : Ran s env (s.run env) := by
  unfold run
  split
  · exact .idle
  · rename_i r hr
    split
    · exact .idle
    · rename_i hmay
      rw [Bool.not_eq_false] at hmay
      obtain ⟨-, hinactive, -⟩ := of_decide_eq_true hmay
      split
      · exact .expired hr hinactive hinactive
      · rename_i hnone
        rw [ne_eq, not_not] at hnone
        have hfst := nextEligibleEntry_fst (r.pruneAwaitingReceiptRetries s.examined) s.examined
          env.now
        change (s.next r env.now).1.activeDeliveryId = r.activeDeliveryId at hfst
        split
        · rename_i r' heq
          rw [heq] at hfst
          exact .waiting hr hinactive (hfst.trans hinactive)
        · rename_i r' due heq
          rw [heq] at hfst
          exact .drained hr hmay hinactive (hfst.trans hinactive) hnone heq
            (drained_drainEntry _ r' due env)

end Run

section Spec

variable (s : Tab)

theorem deliveryId_of_sealingOver {attempt : Attempt} {deliveryId : String}
    (h : (sealingOver deliveryId attempt).isSome = true) : attempt.deliveryId = deliveryId := by
  unfold sealingOver at h
  split at h
  · cases h
  · split at h
    · assumption
    · cases h

def Queues (composition : Composition) : Prop :=
  ∃ contact, s.contact? composition.contactId = some contact ∧
    contact.peerId.isSome = true ∧ contact.hpkePublicKey.isSome = true ∧
      composition.valid = true ∧ (s.projected composition).isSome = true

theorem sendBody_cases (composition : Composition) :
    (∃ conversations, s.sendBody composition = { s with conversations }) ∨
      (s.Queues composition ∧ ∃ conversations, s.projected composition = some conversations ∧
        s.sendBody composition =
          Tab.queueMessage { s with conversations } composition.entry) := by
  unfold sendBody
  split
  · exact .inl ⟨s.conversations, rfl⟩
  · rename_i contact hcontact
    split
    · exact .inl ⟨s.conversations, rfl⟩
    · rename_i hvalid
      split
      · exact .inl ⟨s.conversations, rfl⟩
      · rename_i conversations hprojected
        dsimp only
        split
        · rename_i hkeys
          refine .inr ⟨⟨contact, hcontact, hkeys.1, hkeys.2, ?_, ?_⟩, conversations, hprojected,
            rfl⟩
          · simpa using hvalid
          · rw [hprojected]
            rfl
        · exact .inl ⟨conversations, rfl⟩

theorem takeTrackedDeliveries_eq : ∃ conversations,
    s.takeTrackedDeliveries = { s with conversations, trackedDeliveries := .empty } := by
  have hfold : ∀ (l : List (String × DrainDelivery)) (s : Tab), ∃ conversations,
      l.foldl (fun s tracked => s.setMessageDeliveryState tracked.2.contactId
        tracked.2.messageId .unavailable) s = { s with conversations } := by
    intro l
    induction l with
    | nil => exact fun s => ⟨s.conversations, rfl⟩
    | cons tracked l ih =>
      intro s
      obtain ⟨conversations, heq⟩ := ih (s.setMessageDeliveryState tracked.2.contactId
        tracked.2.messageId .unavailable)
      exact ⟨conversations, heq⟩
  obtain ⟨conversations, heq⟩ := hfold s.trackedDeliveries.entries
    { s with trackedDeliveries := .empty }
  exact ⟨conversations, heq⟩

end Spec

section Conversations

variable (s : Tab) (deliveryId : String) (now : Nat)

theorem conversations_failAttempt (attempt : Attempt) :
    (s.failAttempt attempt now).conversations = s.conversations :=
  unaffected_conversations.stopActiveDrain s _ _ now

theorem conversations_targetSaved (saved encodes : Bool) :
    (s.targetSaved deliveryId saved encodes now).conversations = s.conversations := by
  unfold targetSaved
  split
  · rfl
  · split
    · rw [conversations_failAttempt]
    · dsimp only
      split
      · split
        · rw [conversations_failAttempt]
          rfl
        · rfl
      · rw [conversations_failAttempt]
        rfl

theorem conversations_sealed (outcome : SealOutcome) :
    (s.sealed deliveryId outcome).conversations = s.conversations := by
  unfold sealed
  split
  · rfl
  · rename_i attempt _
    split
    · rw [conversations_failAttempt]
    · have hsend := unaffected_conversations.sendLiveRTCData s outcome.now
        { peerId := attempt.recipientPeerId, deliveryId, delivery := some attempt.delivery }
        outcome.channel
      dsimp only
      split
      · rename_i heq
        rw [heq] at hsend
        exact hsend
      · rename_i heq
        rw [heq] at hsend
        split
        · rw [← hsend]
          exact unaffected_conversations.trackDelivery _ deliveryId attempt.delivery outcome.now
        · rw [conversations_failAttempt, ← hsend]
          exact unaffected_conversations.trackDelivery _ deliveryId attempt.delivery outcome.now

end Conversations

section Sample

def alice : Contact := { contactId := "alice", peerId := some "peer", hpkePublicKey := some "key" }

def greeting : Composition where
  contactId := "alice"
  messageId := "m1"
  applicationMessageId := "a1"
  body := "Hello"
  createdAt := 1

def written : List TabEvent := [.upsertContact alice, .sendBody greeting]

def foregroundRun (now : Nat) (deliveryId : String) : TabEvent :=
  .run {
    now
    visible := true
    attached := true
    available := fun _ => true
    peerSupportsChatText := fun _ => true
    deliveryId }

def smoothly (now : Nat) : SealOutcome :=
  { succeeds := true, rendezvous := true, channel := .sent, sends := true, now }

def firstDelivery : List TabEvent :=
  [.attachRelaySession, .attached, foregroundRun 2 "d1", .targetSaved "d1" true true 2,
    .sealed "d1" (smoothly 2)]

end Sample

end Tab

end Branch.Pwa
