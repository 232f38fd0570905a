import Branch.Lib.Table
import Branch.Lib.Utf16
import Mathlib.Algebra.Ring.Nat
import Mathlib.Data.List.Sort
import Mathlib.Data.List.Dedup

/-!
The conversations of the app: the window of messages that a chat shows, and the rows in the
browser's database that the writes of the tab bring up to date, one after the other for each
message.
-/

namespace Branch.Pwa

open Branch.Lib

inductive MessageDeliveryState where
  | pending
  | relayed
  | delivered
  | read
  | received
  | unavailable
deriving DecidableEq, Repr

inductive MessageDirection where
  | outgoing
  | incoming
  | service
deriving DecidableEq, Repr

structure MessageSummary where
  messageId : String
  contactId : String
  direction : MessageDirection
  body : String
  sentAt : Nat
  deliveryState : MessageDeliveryState
  applicationMessageId : Option String := none
  replyToMessageId : Option String := none
deriving DecidableEq

structure ImageMessageProjection where
  messageId : String
  contactId : String
  direction : MessageDirection
  sentAt : Nat
  caption : Option String := none
  replyToMessageId : Option String := none
deriving DecidableEq

inductive ConversationTimelineEntry where
  | text (message : MessageSummary)
  | image (projection : ImageMessageProjection)
deriving DecidableEq

def maxConversationTimelineEntries : Nat := 192

def maxPendingMessagePersists : Nat := 128

def maxLocalMessageActionCount : Nat := 128

def maxStoredLocalDeletionTombstones : Nat := 256

/-- The order of times, and for equal times the order of the texts. -/
def chronological (left right : Nat × String) : Prop :=
  left.1 < right.1 ∨ left.1 = right.1 ∧ ¬ Utf16.units right.2 < Utf16.units left.2

instance : DecidableRel chronological := fun left right => by
  unfold chronological
  infer_instance

namespace MessageSummary

def cursor (message : MessageSummary) : Nat × String := (message.sentAt, message.messageId)

end MessageSummary

def orderConversationMessages (messages : List MessageSummary) : List MessageSummary :=
  messages.insertionSort fun left right => chronological left.cursor right.cursor

def canAdvanceDeliveryState : MessageDeliveryState → MessageDeliveryState → Bool
  | .pending, next => next = .relayed ∨ next = .unavailable
  | .relayed, next => next = .delivered
  | .unavailable, next => next = .delivered
  | .delivered, next => next = .read
  | .read, _ => false
  | .received, _ => false

namespace ConversationTimelineEntry

def messageId : ConversationTimelineEntry → String
  | .text message => message.messageId
  | .image projection => projection.messageId

def contactId : ConversationTimelineEntry → String
  | .text message => message.contactId
  | .image projection => projection.contactId

def sentAt : ConversationTimelineEntry → Nat
  | .text message => message.sentAt
  | .image projection => projection.sentAt

def cursor (entry : ConversationTimelineEntry) : Nat × String := (entry.sentAt, entry.messageId)

def sidebarPreview : ConversationTimelineEntry → MessageSummary
  | .text message => message
  | .image projection =>
    { messageId := projection.messageId
      contactId := projection.contactId
      direction := projection.direction
      body := if projection.caption.getD "" = "" then "Photo" else projection.caption.getD ""
      sentAt := projection.sentAt
      deliveryState := if projection.direction = .incoming then .received else .relayed
      applicationMessageId := some projection.messageId
      replyToMessageId := projection.replyToMessageId }

def validText (text : String) : Bool :=
  0 < (Utf16.units text).length ∧ (Utf16.units text).length ≤ 128

def valid (entry : ConversationTimelineEntry) : Bool :=
  validText entry.messageId ∧ validText entry.contactId ∧ entry.sentAt < 2 ^ 53

end ConversationTimelineEntry

/-- A write of the tab that waits for the earlier writes of its messages. -/
inductive MessageWrite where
  | save (message : MessageSummary)
  | replaceForRetry (previousMessageId : String) (replacement : MessageSummary)
  | delete (messageIds : List String)
deriving DecidableEq

namespace MessageWrite

def messageIds : MessageWrite → List String
  | save message => [message.messageId]
  | replaceForRetry previousMessageId replacement => [previousMessageId, replacement.messageId]
  | delete messageIds => messageIds

end MessageWrite

structure Conversations where
  messagesByContactId : Table String (List MessageSummary) := .empty
  writes : List MessageWrite := []
  timeline : Table String ConversationTimelineEntry := .empty
  tombstones : Table String Nat := .empty

namespace Conversations

def window (c : Conversations) (contactId : String) : List MessageSummary :=
  (c.messagesByContactId.get? contactId).getD []

def messagePersistenceChains (c : Conversations) : List String :=
  (c.writes.flatMap MessageWrite.messageIds).dedup

def setWindow (c : Conversations) (contactId : String) (messages : List MessageSummary) :
    Conversations :=
  { c with messagesByContactId := c.messagesByContactId.insert contactId messages }

section Database

def saveStoredMessage (c : Conversations) (message : MessageSummary) : Conversations :=
  match c.tombstones.get? message.messageId with
  | some _ => c
  | none => { c with timeline := c.timeline.insert message.messageId (.text message) }

def replaceStoredMessageForRetry (c : Conversations) (previousMessageId : String)
    (replacement : MessageSummary) : Conversations :=
  { c with
    timeline :=
      (c.timeline.erase previousMessageId).insert replacement.messageId (.text replacement) }

def trimTombstones (tombstones : Table String Nat) : Table String Nat :=
  tombstones.filter fun messageId deletedAt =>
    tombstones.toList.countP (fun newer =>
      ¬ chronological (newer.2, newer.1) (deletedAt, messageId)) <
        maxStoredLocalDeletionTombstones

def deleteStoredMessages (c : Conversations) (messageIds : List String) (deletedAt : Nat) :
    Conversations :=
  { c with
    timeline := c.timeline.filter fun messageId _ => messageId ∉ messageIds
    tombstones := trimTombstones <|
      messageIds.foldl (fun tombstones messageId => tombstones.insert messageId deletedAt)
        c.tombstones }

def deleteStoredMessagesForContact (c : Conversations) (contactId : String) (deletedAt : Nat) :
    Conversations :=
  c.deleteStoredMessages
    ((c.timeline.toList.filter fun row => row.2.contactId = contactId).map Prod.fst) deletedAt

def storeVerifiedImageMessage (c : Conversations) (image : ImageMessageProjection) :
    Conversations :=
  { c with timeline := c.timeline.insert image.messageId (.image image) }

def perform (c : Conversations) (now : Nat) : MessageWrite → Conversations
  | .save message => c.saveStoredMessage message
  | .replaceForRetry previousMessageId replacement =>
    c.replaceStoredMessageForRetry previousMessageId replacement
  | .delete messageIds => c.deleteStoredMessages messageIds now

/-- A write has its turn when no earlier one is about one of its messages. -/
def hasTurn (c : Conversations) (position : Nat) (write : MessageWrite) : Bool :=
  (c.writes.take position).all fun earlier =>
    earlier.messageIds.all fun messageId => messageId ∉ write.messageIds

def settleWrite (c : Conversations) (position : Nat) (completes : Bool) (now : Nat) :
    Conversations :=
  match c.writes[position]? with
  | none => c
  | some write =>
    if c.hasTurn position write = false then c
    else
      let rest := { c with writes := c.writes.eraseIdx position }
      if completes then rest.perform now write else rest

end Database

section Slice

def persistMessageInOrder (c : Conversations) (message : MessageSummary) : Conversations :=
  if message.messageId ∉ c.messagePersistenceChains ∧
      maxPendingMessagePersists ≤ c.messagePersistenceChains.length then c
  else { c with writes := c.writes ++ [.save message] }

def persistRetriedMessageInOrder (c : Conversations) (previousMessageId : String)
    (replacement : MessageSummary) : Conversations :=
  if previousMessageId ∉ c.messagePersistenceChains ∧
      replacement.messageId ∉ c.messagePersistenceChains ∧
      maxPendingMessagePersists < c.messagePersistenceChains.length + 2 then c
  else { c with writes := c.writes ++ [.replaceForRetry previousMessageId replacement] }

def persistMessageDeletionInOrder (c : Conversations) (messageIds : List String) :
    Conversations :=
  { c with
    writes := c.writes ++ [.delete (messageIds.dedup.take maxLocalMessageActionCount)] }

def bounded (messages : List MessageSummary) : List MessageSummary :=
  messages.drop (messages.length - maxConversationTimelineEntries)

def appendMessage (c : Conversations) (message : MessageSummary) : Conversations :=
  (c.setWindow message.contactId <| bounded <| orderConversationMessages <|
    (c.window message.contactId).filter (fun existing => existing.messageId ≠ message.messageId)
      ++ [message]).persistMessageInOrder message

def replaceConversationWindow (c : Conversations) (contactId : String)
    (messages : List MessageSummary) : Conversations :=
  c.setWindow contactId <| bounded <|
    (orderConversationMessages messages).filter fun message => message.contactId = contactId

def retryable (previousMessageId : String) (message : MessageSummary) : Bool :=
  message.messageId = previousMessageId ∧ message.direction = .outgoing ∧
    message.deliveryState = .unavailable

/-- The replacement, when the message was there to be replaced. -/
def retryUnavailableMessage (c : Conversations) (contactId previousMessageId : String)
    (replacement : MessageSummary) : Option Conversations :=
  if replacement.messageId = previousMessageId ∨ replacement.contactId ≠ contactId ∨
      replacement.direction ≠ .outgoing ∨ replacement.deliveryState ≠ .pending then none
  else if (c.window contactId).any (retryable previousMessageId) then
    some <| (c.setWindow contactId <| orderConversationMessages <|
      (c.window contactId).map fun message =>
        if retryable previousMessageId message then replacement else message)
          |>.persistRetriedMessageInOrder previousMessageId replacement
  else none

def advances (messageId : String) (deliveryState : MessageDeliveryState)
    (message : MessageSummary) : Bool :=
  message.messageId = messageId ∧ message.direction = .outgoing ∧
    canAdvanceDeliveryState message.deliveryState deliveryState

def setMessageDeliveryState (c : Conversations) (contactId messageId : String)
    (deliveryState : MessageDeliveryState) : Conversations :=
  -- The write is about the last of the messages that changed.
  match (c.window contactId).reverse.find? (advances messageId deliveryState) with
  | none => c
  | some message =>
    (c.setWindow contactId <| (c.window contactId).map fun message =>
      if advances messageId deliveryState message then { message with deliveryState } else message)
        |>.persistMessageInOrder { message with deliveryState }

def wanted (messageIds : List String) : List String :=
  (messageIds.filter fun messageId => messageId ≠ "").take maxLocalMessageActionCount

def deletable (c : Conversations) (contactId : String) (messageIds : List String) :
    List MessageSummary :=
  (c.window contactId).filter fun message => message.messageId ∈ wanted messageIds

def deleteMessagesLocally (c : Conversations) (contactId : String) (messageIds : List String) :
    Conversations :=
  if c.deletable contactId messageIds = [] then c
  else
    (c.setWindow contactId <| (c.window contactId).filter fun message =>
      message.messageId ∉ wanted messageIds).persistMessageDeletionInOrder
        ((c.deletable contactId messageIds).map MessageSummary.messageId)

def clearWindow (c : Conversations) (contactId : String) : Conversations :=
  { c with messagesByContactId := c.messagesByContactId.erase contactId }

def preview (c : Conversations) (contactId : String) : Option MessageSummary :=
  let rows := (c.timeline.toList.map Prod.snd).filter fun entry =>
    entry.contactId = contactId ∧ entry.valid
  let ordered := rows.insertionSort fun left right => chronological left.cursor right.cursor
  ordered.getLast?.map ConversationTimelineEntry.sidebarPreview

def reload (c : Conversations) (contactIds : List String) : Conversations :=
  { c with
    writes := []
    messagesByContactId := contactIds.foldl (fun previews contactId =>
      match c.preview contactId with
      | none => previews
      | some message => previews.insert contactId [message]) .empty }

end Slice

end Conversations

end Branch.Pwa
