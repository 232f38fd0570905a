import Branch.Lib.PendingWrites
import Branch.Pwa.DeliveryStates
import Branch.Lib.Trace

/-!
The rows of the messages when the writes of a tab have come to an end. A transaction writes the
same to the messages and to the timeline, and here the timeline stands for both.
-/

namespace Branch.Pwa

open Branch.Lib

def MessageWrite.effect : WriteEffect MessageWrite String ConversationTimelineEntry
  | .save message, messageId =>
    if message.messageId = messageId then some (some (.text message)) else none
  | .replaceForRetry previousMessageId replacement, messageId =>
    if replacement.messageId = messageId then some (some (.text replacement))
    else if previousMessageId = messageId then some none
    else none
  | .delete messageIds, messageId => if messageId ∈ messageIds then some none else none

inductive ConversationCall where
  | appendMessage (message : MessageSummary)
  | setMessageDeliveryState (contactId messageId : String) (deliveryState : MessageDeliveryState)
  | retryUnavailableMessage (contactId previousMessageId : String) (replacement : MessageSummary)
  | deleteMessagesLocally (contactId : String) (messageIds : List String)
  /-- The write at a position of those on their way is performed, when it has its turn. -/
  | written (position now : Nat)

namespace Conversations

def next (c : Conversations) : ConversationCall → Conversations
  | .appendMessage message => c.appendMessage message
  | .setMessageDeliveryState contactId messageId deliveryState =>
    c.setMessageDeliveryState contactId messageId deliveryState
  | .retryUnavailableMessage contactId previousMessageId replacement =>
    (c.retryUnavailableMessage contactId previousMessageId replacement).getD c
  | .deleteMessagesLocally contactId messageIds => c.deleteMessagesLocally contactId messageIds
  | .written position now => c.settleWrite position true now

/-- The write that brings the change of a call to the database. -/
def asks (c : Conversations) : ConversationCall → Option MessageWrite
  | .appendMessage message => some (.save message)
  | .setMessageDeliveryState contactId messageId deliveryState =>
    ((c.window contactId).reverse.find? (advances messageId deliveryState)).map fun message =>
      .save { message with deliveryState }
  | .retryUnavailableMessage contactId previousMessageId replacement =>
    (c.retryUnavailableMessage contactId previousMessageId replacement).map fun _ =>
      .replaceForRetry previousMessageId replacement
  | .deleteMessagesLocally contactId messageIds =>
    if c.deletable contactId messageIds = [] then none
    else some (.delete (((c.deletable contactId messageIds).map
      MessageSummary.messageId).dedup.take maxLocalMessageActionCount))
  | .written _ _ => none

/-- The write is left out: too many messages have a write on its way, and these do not. -/
def skips (c : Conversations) : MessageWrite → Bool
  | .save message => message.messageId ∉ c.messagePersistenceChains ∧
      maxPendingMessagePersists ≤ c.messagePersistenceChains.length
  | .replaceForRetry previousMessageId replacement =>
    previousMessageId ∉ c.messagePersistenceChains ∧
      replacement.messageId ∉ c.messagePersistenceChains ∧
      maxPendingMessagePersists < c.messagePersistenceChains.length + 2
  | .delete _ => false

/-- The last write of the message that is on its way is not one that a mark of its deletion keeps
from being saved. -/
def Unmarked (messageId : String) (c : Conversations) : ConversationCall → Prop
  | .written position _ => ∀ message, c.writes[position]? = some (.save message) →
      message.messageId = messageId →
      WriteEffect.latest MessageWrite.effect (c.writes.eraseIdx position) messageId = none →
      c.tombstones.get? messageId = none
  | _ => True

def Leaves (messageId : String) (c : Conversations) (call : ConversationCall) : Prop :=
  ∀ write ∈ c.asks call, write.effect messageId = none

section Step

variable {c c' : Conversations} {call : ConversationCall} {write : MessageWrite}
  {messageId : String}

def enqueue (c : Conversations) (write : MessageWrite) : Conversations :=
  if c.skips write then c else { c with writes := c.writes ++ [write] }

theorem persistMessageInOrder_eq (c : Conversations) (message : MessageSummary) :
    c.persistMessageInOrder message = c.enqueue (.save message) := by
  unfold persistMessageInOrder enqueue
  exact if_congr decide_eq_true_iff.symm rfl rfl

theorem persistRetriedMessageInOrder_eq (c : Conversations) (previousMessageId : String)
    (replacement : MessageSummary) :
    c.persistRetriedMessageInOrder previousMessageId replacement =
      c.enqueue (.replaceForRetry previousMessageId replacement) := by
  unfold persistRetriedMessageInOrder enqueue
  exact if_congr decide_eq_true_iff.symm rfl rfl

theorem persistMessageDeletionInOrder_eq (c : Conversations) (messageIds : List String) :
    c.persistMessageDeletionInOrder messageIds =
      c.enqueue (.delete (messageIds.dedup.take maxLocalMessageActionCount)) := rfl

theorem next_of_asks_none (h : c.asks call = none) (hcall : ∀ position now,
    call ≠ .written position now) : c.next call = c := by
  cases call with
  | appendMessage message => cases h
  | setMessageDeliveryState contactId messageId deliveryState =>
    have hnone := Option.map_eq_none_iff.mp h
    change c.setMessageDeliveryState contactId messageId deliveryState = c
    unfold setMessageDeliveryState
    rw [hnone]
  | retryUnavailableMessage contactId previousMessageId replacement =>
    have hnone := Option.map_eq_none_iff.mp h
    change (c.retryUnavailableMessage contactId previousMessageId replacement).getD c = c
    rw [hnone]
    rfl
  | deleteMessagesLocally contactId messageIds =>
    change c.deleteMessagesLocally contactId messageIds = c
    unfold deleteMessagesLocally
    split
    · rfl
    · rename_i hne
      simp [asks, hne] at h
  | written position now => exact absurd rfl (hcall position now)

theorem next_of_asks (h : c.asks call = some write) :
    ∃ contactId messages, c.next call = (c.setWindow contactId messages).enqueue write := by
  cases call with
  | appendMessage message =>
    obtain rfl := Option.some.inj h
    exact ⟨message.contactId, _, persistMessageInOrder_eq _ message⟩
  | setMessageDeliveryState contactId messageId deliveryState =>
    obtain ⟨message, hfind, rfl⟩ := Option.map_eq_some_iff.mp h
    refine ⟨contactId, (c.window contactId).map fun message =>
      if advances messageId deliveryState message then { message with deliveryState }
      else message, ?_⟩
    change c.setMessageDeliveryState contactId messageId deliveryState = _
    unfold setMessageDeliveryState
    rw [hfind, ← persistMessageInOrder_eq]
  | retryUnavailableMessage contactId previousMessageId replacement =>
    obtain ⟨c', hretry, rfl⟩ := Option.map_eq_some_iff.mp h
    refine ⟨contactId, orderConversationMessages ((c.window contactId).map fun message =>
      if retryable previousMessageId message then replacement else message), ?_⟩
    change (c.retryUnavailableMessage contactId previousMessageId replacement).getD c = _
    rw [hretry, Option.getD_some, ← persistRetriedMessageInOrder_eq]
    unfold retryUnavailableMessage at hretry
    split at hretry
    · cases hretry
    · split at hretry
      · exact (Option.some.inj hretry).symm
      · cases hretry
  | deleteMessagesLocally contactId messageIds =>
    by_cases hnone : c.deletable contactId messageIds = []
    · simp [asks, hnone] at h
    · rw [asks, if_neg hnone] at h
      obtain rfl := Option.some.inj h
      refine ⟨contactId, (c.window contactId).filter fun message =>
        message.messageId ∉ wanted messageIds, ?_⟩
      change c.deleteMessagesLocally contactId messageIds = _
      rw [deleteMessagesLocally, if_neg hnone, persistMessageDeletionInOrder_eq]
  | written position now => cases h

@[simp] theorem timeline_enqueue (c : Conversations) (write : MessageWrite) :
    (c.enqueue write).timeline = c.timeline := by
  unfold enqueue
  split
  · rfl
  · rfl

@[simp] theorem tombstones_enqueue (c : Conversations) (write : MessageWrite) :
    (c.enqueue write).tombstones = c.tombstones := by
  unfold enqueue
  split
  · rfl
  · rfl

theorem skips_setWindow (contactId : String) (messages : List MessageSummary)
    (write : MessageWrite) : (c.setWindow contactId messages).skips write = c.skips write := by
  cases write with
  | save message => rfl
  | replaceForRetry previousMessageId replacement => rfl
  | delete messageIds => rfl

theorem spec_of_asks (h : c.asks call = some write) :
    (c.next call).timeline = c.timeline ∧ (c.next call).tombstones = c.tombstones ∧
      (c.next call).writes = if c.skips write then c.writes else c.writes ++ [write] := by
  obtain ⟨contactId, messages, heq⟩ := next_of_asks h
  rw [heq]
  refine ⟨timeline_enqueue _ _, tombstones_enqueue _ _, ?_⟩
  rw [enqueue, skips_setWindow]
  split
  · rfl
  · rfl

end Step

section Rows

variable {c : Conversations} {write : MessageWrite} {messageId : String} {position : Nat}

theorem timeline_perform (now : Nat)
    (h : ∀ message, write = .save message → message.messageId = messageId →
      c.tombstones.get? messageId = none) :
    (c.perform now write).timeline.get? messageId =
      (write.effect messageId).getD (c.timeline.get? messageId) := by
  cases write with
  | save message =>
    change (c.saveStoredMessage message).timeline.get? messageId = _
    unfold saveStoredMessage
    rw [MessageWrite.effect]
    by_cases hid : message.messageId = messageId
    · rw [if_pos hid, hid, h message rfl hid]
      exact Table.get?_insert_self _ _ _
    · rw [if_neg hid]
      split
      · rfl
      · exact Table.get?_insert_of_ne _ _ (Ne.symm hid)
  | replaceForRetry previousMessageId replacement =>
    change ((c.timeline.erase previousMessageId).insert replacement.messageId
      (.text replacement)).get? messageId = _
    rw [Table.get?_insert, Table.get?_erase, MessageWrite.effect]
    by_cases hid : replacement.messageId = messageId
    · rw [if_pos hid.symm, if_pos hid]
      rfl
    · rw [if_neg (Ne.symm hid), if_neg hid]
      by_cases hprevious : previousMessageId = messageId
      · rw [if_pos hprevious.symm, if_pos hprevious]
        rfl
      · rw [if_neg (Ne.symm hprevious), if_neg hprevious]
        rfl
  | delete messageIds =>
    change (c.timeline.filter fun messageId _ => messageId ∉ messageIds).get? messageId = _
    rw [Table.get?_filter, MessageWrite.effect]
    by_cases hmem : messageId ∈ messageIds
    · rw [if_pos hmem]
      cases c.timeline.get? messageId <;> simp [Option.filter, hmem]
    · rw [if_neg hmem]
      cases c.timeline.get? messageId <;> simp [Option.filter, hmem]

theorem mem_messageIds_of_effect (h : write.effect messageId ≠ none) :
    messageId ∈ write.messageIds := by
  cases write with
  | save message =>
    rw [MessageWrite.effect] at h
    split at h
    · rename_i hid
      exact List.mem_singleton.mpr hid.symm
    · exact absurd rfl h
  | replaceForRetry previousMessageId replacement =>
    rw [MessageWrite.effect] at h
    split at h
    · rename_i hid
      exact List.mem_pair.mpr (.inr hid.symm)
    · split at h
      · rename_i hid
        exact List.mem_pair.mpr (.inl hid.symm)
      · exact absurd rfl h
  | delete messageIds =>
    rw [MessageWrite.effect] at h
    split at h
    · rename_i hmem
      exact hmem
    · exact absurd rfl h

theorem first_of_hasTurn (hwrite : c.writes[position]? = some write)
    (hturn : c.hasTurn position write = true) (messageId : String) :
    WriteEffect.First MessageWrite.effect c.writes position messageId := by
  intro write' hwrite'
  obtain rfl := Option.some.inj (hwrite.symm.trans hwrite')
  by_cases htouch : write.effect messageId = none
  · exact .inl htouch
  · refine .inr fun earlier hearlier => ?_
    by_contra hne
    have hall := List.all_eq_true.mp (List.all_eq_true.mp hturn earlier hearlier) messageId
      (mem_messageIds_of_effect hne)
    exact of_decide_eq_true hall (mem_messageIds_of_effect htouch)

end Rows

section Run

variable {c : Conversations} {call : ConversationCall} {write : MessageWrite}
  {messageId : String} {value : Option ConversationTimelineEntry}

/-- The last write of the message that is on its way brings the row to the value, or it came
there. -/
def Comes (messageId : String) (value : Option ConversationTimelineEntry) (c : Conversations) :
    Prop :=
  WriteEffect.latest MessageWrite.effect c.writes messageId = some value ∨
    WriteEffect.latest MessageWrite.effect c.writes messageId = none ∧
      c.timeline.get? messageId = value

theorem Comes.settleWrite (h : c.Comes messageId value) {position now : Nat}
    (hunmarked : value ≠ none → c.Unmarked messageId (.written position now)) :
    (c.settleWrite position true now).Comes messageId value := by
  unfold Conversations.settleWrite
  split
  · exact h
  · rename_i write hwrite
    split
    · exact h
    · rename_i hturn
      have hlatest := WriteEffect.latest_eraseIdx hwrite
        (first_of_hasTurn hwrite (Bool.not_eq_false _ ▸ hturn) messageId)
      rw [Comes, hlatest] at h
      rw [if_pos rfl, Comes, writes_perform]
      cases hrest : WriteEffect.latest MessageWrite.effect (c.writes.eraseIdx position)
          messageId with
      | some row =>
        -- a later write of the message is still on its way
        rw [hrest] at h
        exact .inl (h.resolve_right fun hnone => by cases hnone.1)
      | none =>
        rw [hrest, Option.none_or] at h
        refine .inr ⟨rfl, ?_⟩
        rw [timeline_perform]
        · rcases h with hsome | ⟨hnone, hrow⟩
          · rw [hsome]
            rfl
          · rw [hnone]
            exact hrow
        · rintro message rfl hid
          have heffect : MessageWrite.effect (.save message) messageId =
              some (some (.text message)) := if_pos hid
          rw [heffect] at h
          refine hunmarked ?_ message hwrite hid hrest
          rcases h with hsome | ⟨hnone, -⟩
          · rw [← Option.some.inj hsome]
            exact Option.some_ne_none _
          · cases hnone

theorem Comes.next (h : c.Comes messageId value) (hleaves : c.Leaves messageId call)
    (hunmarked : value ≠ none → c.Unmarked messageId call) :
    (c.next call).Comes messageId value := by
  by_cases hcall : ∃ position now, call = .written position now
  · obtain ⟨position, now, rfl⟩ := hcall
    exact h.settleWrite hunmarked
  · cases hasks : c.asks call with
    | none =>
      rw [next_of_asks_none hasks fun position now heq => hcall ⟨position, now, heq⟩]
      exact h
    | some write =>
      obtain ⟨htimeline, -, hwrites⟩ := spec_of_asks hasks
      have hsame : WriteEffect.latest MessageWrite.effect (c.next call).writes messageId =
          WriteEffect.latest MessageWrite.effect c.writes messageId := by
        rw [hwrites]
        split
        · rfl
        · rw [WriteEffect.latest_append, WriteEffect.latest_singleton, hleaves write hasks]
          rfl
      rw [Comes, hsame, htimeline]
      exact h

end Run

/-- A message as the last call that changed it left it, once nothing is on its way. -/
def LastChange (start : Conversations) (before after : List ConversationCall)
    (call : ConversationCall) (messageId : String) (write : MessageWrite)
    (value : Option ConversationTimelineEntry) : Prop :=
  (Trace.run next start before).asks call = some write ∧
    write.effect messageId = some value ∧
    Trace.Meets next (Leaves messageId) (Trace.run next start (before ++ [call])) after ∧
    (Trace.run next start (before ++ [call] ++ after)).writes = []

/-- Once nothing is on its way, the row of each message is as the last call that changed the
message left it. -/
def MessagesStored : Prop :=
  ∀ start before after call messageId write value,
    LastChange start before after call messageId write value →
      (Trace.run next start (before ++ [call] ++ after)).timeline.get? messageId = value

section Sample

variable {c : Conversations}

def sampleMessage (serial : Nat) : MessageSummary where
  messageId := String.ofList (List.replicate serial 'm')
  contactId := "alice"
  direction := .incoming
  body := "hello"
  sentAt := serial
  deliveryState := .received

def appended (count : Nat) : List ConversationCall :=
  (List.range count).map fun serial => .appendMessage (sampleMessage serial)

def written (count : Nat) : List ConversationCall := List.replicate count (.written 0 0)

def saves (count : Nat) : List MessageWrite :=
  (List.range count).map fun serial => .save (sampleMessage serial)

def deletedBefore : List ConversationCall :=
  [.appendMessage (sampleMessage 1), .deleteMessagesLocally "alice" ["m"], .written 0 1,
    .written 0 1]

end Sample

end Conversations

end Branch.Pwa
