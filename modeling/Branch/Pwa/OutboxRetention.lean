import Branch.Lib.Trace
import Branch.Pwa.DeliveryStates
import Branch.Pwa.Tab

/-!
What becomes of an entry of the outbox: it stays until its message is read, deleted or too old.
-/

namespace Branch.Pwa

open Branch.Lib

/-- The time at which an event happens, as far as the event looks at the clock. -/
def TabEvent.time : TabEvent → Option Nat
  | .sendBody composition => some composition.createdAt
  | .run env => some env.now
  | .settleMessageWrite _ _ now | .settleCleanup _ now | .deliveryTimeout _ now
  | .targetSaved _ _ _ now | .installSender _ _ now | .rtcTimeout _ _ now
  | .sendControl _ _ _ now | .receipt _ _ _ now | .presencePong _ _ now => some now
  | .sealed _ outcome => some outcome.now
  | _ => none

namespace Tab

/-- The message was marked read, in its window or in its row. -/
def MarkedRead (s : Tab) (entry : StoredOutboxEntry) : Prop :=
  (∃ message, s.message? entry.contactId entry.messageId = some message ∧
    message.deliveryState = .read) ∨
  ∃ message, s.conversations.timeline.get? entry.messageId = some (.text message) ∧
    message.deliveryState = .read

/-- The user deletes the message, or all that there is of its contact. -/
def Deletes (s : Tab) (entry : StoredOutboxEntry) : TabEvent → Prop
  | .deleteMessagesLocally contactId messageIds =>
    s.conversations.deletable contactId messageIds ≠ [] ∧
      entry.messageId ∈ Conversations.wanted messageIds
  | .clearLocalConversation contactId => entry.contactId = contactId
  | .forgetContact contactId => entry.contactId = contactId
  | _ => False

def AgedAt (entry : StoredOutboxEntry) (e : TabEvent) : Prop :=
  ∃ now, e.time = some now ∧ entry.aged now = true

/-- The message of the entry was read or deleted in the course of the events. -/
def Gone (start : Tab) (past : List TabEvent) (entry : StoredOutboxEntry) : Prop :=
  (∃ xs, xs <+: past ∧ (Trace.run step start xs).MarkedRead entry) ∨
    ∃ xs e, xs ++ [e] <+: past ∧ (Trace.run step start xs).Deletes entry e

def DiscardsGone (start : Tab) (past : List TabEvent) (e : TabEvent) : Prop :=
  ∀ messageId, (Trace.run step start past).outbox.Has messageId →
    (Trace.run step start (past ++ [e])).outbox.Has messageId ∨
      ∃ entry ∈ (Trace.run step start past).outbox.entries, entry.messageId = messageId ∧
        (Gone start (past ++ [e]) entry ∨ AgedAt entry e)

section Keeps

variable (s : Tab) (deliveryId : String) (delivery : DrainDelivery) (now : Nat)

theorem keepsEntries_stopActiveDrain :
    s.outbox.Keeps (s.stopActiveDrain deliveryId delivery now).outbox := by
  unfold stopActiveDrain
  split
  · exact .refl _
  · split
    · exact .refl _
    · dsimp only
      split
      · exact .refl _
      · rename_i entry hfind
        exact MessageOutbox.keeps_queueMessage ⟨entry, List.mem_of_find?_eq_some hfind, rfl⟩

theorem keepsEntries_expireDelivery :
    s.outbox.Keeps (s.expireDelivery deliveryId now).outbox := by
  unfold expireDelivery
  split
  · exact .refl _
  · exact keepsEntries_stopActiveDrain (s.clearDelivery deliveryId) deliveryId _ now

theorem keepsEntries_trackDelivery :
    s.outbox.Keeps (s.trackDelivery deliveryId delivery now).outbox := by
  change s.outbox.Keeps ((s.clearDelivery deliveryId).evictOldestDelivery now).outbox
  unfold evictOldestDelivery
  split
  · split
    · exact .refl _
    · exact keepsEntries_expireDelivery (s.clearDelivery deliveryId) _ now
  · exact .refl _

theorem keepsEntries_fallbackToWSS (pending : RTCDirectPending) :
    s.outbox.Keeps (s.fallbackToWSS pending now).outbox := by
  unfold fallbackToWSS
  split
  · exact .refl _
  · exact keepsEntries_trackDelivery s _ _ now

theorem keepsEntries_fallbackWhere (p : RTCDirectPending → Bool) :
    s.outbox.Keeps (s.fallbackWhere p now).outbox := by
  have hfold : ∀ (l : List RTCDirectPending) (s : Tab),
      s.outbox.Keeps (l.foldl (fun s pending => s.fallbackToWSS pending now) s).outbox := by
    intro l
    induction l with
    | nil => exact fun s => .refl _
    | cons pending l ih => exact fun s => (keepsEntries_fallbackToWSS s now pending).trans (ih _)
  exact hfold _ { s with direct := s.direct.filter fun pending => ¬ p pending }

theorem keepsEntries_sendLiveRTCData (pending : RTCDirectPending) (channel : ChannelSend) :
    s.outbox.Keeps (s.sendLiveRTCData pending channel now).1.outbox := by
  unfold sendLiveRTCData
  split
  · exact .refl _
  · split
    · exact keepsEntries_fallbackWhere { s with senders := s.senders.erase pending.peerId } now _
    · split
      · exact .refl _
      · cases channel with
        | unencodable => exact .refl _
        | failed => exact keepsEntries_fallbackToWSS s now pending
        | sent => exact .refl _

theorem keepsEntries_failAttempt (attempt : Attempt) :
    s.outbox.Keeps (s.failAttempt attempt now).outbox :=
  keepsEntries_stopActiveDrain s attempt.deliveryId attempt.delivery now

theorem keepsEntries_targetSaved (saved encodes : Bool) :
    s.outbox.Keeps (s.targetSaved deliveryId saved encodes now).outbox := by
  unfold targetSaved
  split
  · exact .refl _
  · split
    · exact keepsEntries_failAttempt s now _
    · dsimp only
      split
      · split
        · exact keepsEntries_failAttempt (s.saveStoredMessageDeliveryTarget _ _ _) now _
        · exact .refl _
      · exact keepsEntries_failAttempt (s.saveStoredMessageDeliveryTarget _ _ _) now _

theorem keepsEntries_sealed (outcome : SealOutcome) :
    s.outbox.Keeps (s.sealed deliveryId outcome).outbox := by
  unfold sealed
  split
  · exact .refl _
  · rename_i attempt _
    split
    · exact keepsEntries_failAttempt s outcome.now attempt
    · have hsend := keepsEntries_sendLiveRTCData s outcome.now
        { peerId := attempt.recipientPeerId, deliveryId, delivery := some attempt.delivery }
        outcome.channel
      dsimp only
      split
      · rename_i s' heq
        rw [heq] at hsend
        exact hsend
      · rename_i s' heq
        rw [heq] at hsend
        have htrack := hsend.trans
          (keepsEntries_trackDelivery s' deliveryId attempt.delivery outcome.now)
        split
        · exact htrack
        · exact htrack.trans (keepsEntries_failAttempt
            ((s'.trackDelivery deliveryId attempt.delivery outcome.now).clearDelivery deliveryId)
            outcome.now attempt)

theorem keepsEntries_relayAck (ackType : AckType) :
    s.outbox.Keeps (s.relayAck deliveryId ackType).outbox := by
  have hadvance : ∀ s : Tab,
      (s.advanceMessageOutboxDrainAfterRelayForwarded deliveryId).outbox = s.outbox := by
    intro s
    unfold advanceMessageOutboxDrainAfterRelayForwarded
    split
    · rfl
    · split
      · rfl
      · rfl
  unfold relayAck
  cases ackType with
  | accepted =>
    dsimp only
    split
    · exact .refl _
    · exact .refl _
  | forwarded =>
    dsimp only
    rw [hadvance]
    split
    · exact .refl _
    · exact .refl _

theorem keepsEntries_restart (contactId : String) (visible : Bool) :
    s.outbox.Keeps (s.restartMessageOutboxDrainAfterPresencePong contactId visible now).outbox := by
  unfold restartMessageOutboxDrainAfterPresencePong
  split
  · exact .refl _
  · split
    · exact .refl _
    · split
      · exact .refl _
      · dsimp only
        split
        · exact .refl _
        · rename_i entry hfind
          exact MessageOutbox.keeps_queueMessage
            ⟨entry, List.mem_of_find?_eq_some hfind, rfl⟩

theorem keepsEntries_defer {entry : StoredOutboxEntry} (h : entry ∈ s.outbox.entries) :
    s.outbox.Keeps (s.defer entry now).outbox := by
  unfold defer
  dsimp only
  split
  · exact MessageOutbox.keeps_queueMessage ⟨entry, h, rfl⟩
  · exact .refl _

end Keeps

/-- The contact is known, and its window has the outgoing message of the entry. -/
def InWindow (s : Tab) (entry : StoredOutboxEntry) : Prop :=
  ∃ contact message, s.contact? entry.contactId = some contact ∧
    s.message? entry.contactId entry.messageId = some message ∧ message.direction = .outgoing

/-- No entry goes before its time. A run that takes an entry finds its message in the window, a
new message pushes out none that still counts, a Read is about a message that is shown as
delivered, and a new tab finds the row of each entry among the last ones. -/
def SparesEntries (gone : StoredOutboxEntry → Prop) (s : Tab) : TabEvent → Prop
  | .run env => ∀ r r' due, s.runtime = some r → s.mayRun r env = true →
      s.expiredDelivered env.now = [] → s.next r env.now = (r', some due) →
        gone due ∨ due.aged env.now = true ∨ s.InWindow due
  | .sendBody composition => s.Queues composition →
      ∀ entry ∈ MessageOutbox.overflow
        (without s.outbox.entries composition.messageId ++ [composition.entry]),
        gone entry ∨ entry.aged composition.createdAt = true
  | .receipt contactId .read targetDeliveryId now => ∀ messageId,
      s.receiptMessage contactId targetDeliveryId = some messageId →
        s.outbox.Has messageId → ∃ entry ∈ s.outbox.entries, entry.messageId = messageId ∧
          (gone entry ∨ entry.aged now = true ∨ entry.contactId = contactId ∧
            ∃ message, s.message? contactId messageId = some message ∧
              message.direction = .outgoing ∧ message.deliveryState = .delivered)
  | .reload => ∀ entry ∈ s.outbox.entries, gone entry ∨
      ∃ row ∈ s.outbox.stored, row.messageId = entry.messageId ∧
        s.outbox.stored.countP (fun later =>
          ¬ Utf16.units later.messageId < Utf16.units row.messageId) ≤ maxStoredOutboxEntries
  | _ => True

/-- The entries are as many as there may be, and each one that went is accounted for. -/
structure Accounted (gone : StoredOutboxEntry → Prop) (s : Tab) (e : TabEvent) (s' : Tab) :
    Prop where
  bounded : s'.outbox.entries.length ≤ maxStoredOutboxEntries
  kept : ∀ messageId, s.outbox.Has messageId → s'.outbox.Has messageId ∨
    ∃ entry ∈ s.outbox.entries, entry.messageId = messageId ∧
      (gone entry ∨ s'.MarkedRead entry ∨ s.Deletes entry e ∨ AgedAt entry e)

section Step

variable {gone : StoredOutboxEntry → Prop} {s s' : Tab} {e : TabEvent}

theorem accounted_of_keeps (hs : s.outbox.entries.length ≤ maxStoredOutboxEntries)
    (h : s.outbox.Keeps s'.outbox) : Accounted gone s e s' :=
  ⟨(h hs).1, fun messageId hhas => .inl ((h hs).2 messageId hhas)⟩

theorem accounted_of_entries_eq (hs : s.outbox.entries.length ≤ maxStoredOutboxEntries)
    (h : s'.outbox.entries = s.outbox.entries) : Accounted gone s e s' :=
  accounted_of_keeps hs (.of_entries_eq h)

theorem accounted_of_without {messageId : String}
    (hs : s.outbox.entries.length ≤ maxStoredOutboxEntries)
    (hentries : s'.outbox.entries = without s.outbox.entries messageId)
    (hreason : s.outbox.Has messageId → ∃ entry ∈ s.outbox.entries, entry.messageId = messageId ∧
      (gone entry ∨ s'.MarkedRead entry ∨ s.Deletes entry e ∨ AgedAt entry e)) :
    Accounted gone s e s' := by
  constructor
  · rw [hentries]
    exact (List.length_filter_le _ _).trans hs
  · rintro other hhas
    by_cases hid : other = messageId
    · rw [hid] at hhas ⊢
      exact .inr (hreason hhas)
    · obtain ⟨entry, hmem, rfl⟩ := hhas
      refine .inl ⟨entry, ?_, rfl⟩
      rw [hentries]
      exact MessageOutbox.mem_without.mpr ⟨hmem, hid⟩

theorem accounted_sendBody (hs : s.outbox.entries.length ≤ maxStoredOutboxEntries)
    (composition : Composition) (hallowed : SparesEntries gone s (.sendBody composition)) :
    Accounted gone s (.sendBody composition) (s.sendBody composition) := by
  rcases sendBody_cases s composition with ⟨conversations, heq⟩ | ⟨hqueues, conversations, -, heq⟩
  · rw [heq]
    exact accounted_of_entries_eq hs rfl
  · rw [heq]
    refine ⟨MessageOutbox.length_entries_queueMessage_le _ _, ?_⟩
    rintro _ ⟨entry, hmem, rfl⟩
    by_cases hid : entry.messageId = composition.messageId
    · exact .inl ⟨composition.entry, MessageOutbox.mem_entries_queueMessage_self _ _, hid.symm⟩
    · have hnext : entry ∈ without s.outbox.entries composition.messageId ++ [composition.entry] :=
        List.mem_append_left _ (MessageOutbox.mem_without.mpr ⟨hmem, hid⟩)
      by_cases hover : entry ∈ MessageOutbox.overflow
          (without s.outbox.entries composition.messageId ++ [composition.entry])
      · refine .inr ⟨entry, hmem, rfl, ?_⟩
        rcases hallowed hqueues entry hover with hgone | haged
        · exact .inl hgone
        · exact .inr (.inr (.inr ⟨_, rfl, haged⟩))
      · exact .inl ⟨entry, MessageOutbox.mem_entries_queueMessage hnext hover, rfl⟩

theorem message?_of_delivered {contactId messageId : String} {message : MessageSummary}
    (h : s.message? contactId messageId = some message) (houtgoing : message.direction = .outgoing)
    (hdelivered : message.deliveryState = .delivered) :
    (s.setMessageDeliveryState contactId messageId .read).message? contactId messageId =
      some { message with deliveryState := .read } := by
  have hid : message.messageId = messageId := by
    simpa using List.find?_some h
  have hadvances : Conversations.advances messageId .read message = true := by
    unfold Conversations.advances
    rw [houtgoing, hdelivered]
    exact decide_eq_true ⟨hid, rfl, rfl⟩
  change ((s.conversations.setMessageDeliveryState contactId messageId .read).window
    contactId).find? _ = _
  unfold Conversations.setMessageDeliveryState
  split
  · rename_i hnone
    rw [List.find?_eq_none] at hnone
    exact absurd hadvances (hnone message (List.mem_reverse.mpr (List.mem_of_find?_eq_some h)))
  · rw [Conversations.window_persist, Conversations.window_setWindow, if_pos rfl, List.find?_map]
    have hsame : ((fun message : MessageSummary => decide (message.messageId = messageId)) ∘
        fun message => if Conversations.advances messageId .read message then
          { message with deliveryState := .read } else message) =
        fun message => decide (message.messageId = messageId) := by
      funext other
      dsimp only [Function.comp]
      split
      · rfl
      · rfl
    rw [hsame]
    change Option.map _ (s.message? contactId messageId) = _
    rw [h, Option.map_some, if_pos hadvances]

theorem accounted_receipt (hs : s.outbox.entries.length ≤ maxStoredOutboxEntries)
    (contactId : String) (kind : ReceiptKind) (targetDeliveryId : String) (now : Nat)
    (hallowed : SparesEntries gone s (.receipt contactId kind targetDeliveryId now)) :
    Accounted gone s (.receipt contactId kind targetDeliveryId now)
      (s.receipt contactId kind targetDeliveryId now) := by
  unfold receipt
  split
  · exact accounted_of_entries_eq hs rfl
  · rename_i messageId hfound
    cases kind with
    | delivered =>
      exact accounted_of_keeps hs
        (MessageOutbox.keeps_markOutboxMessageDelivered s.outbox messageId now)
    | read =>
      refine accounted_of_without hs rfl fun hhas => ?_
      obtain ⟨entry, hmem, hid, hreason⟩ := hallowed messageId hfound hhas
      refine ⟨entry, hmem, hid, ?_⟩
      rcases hreason with hgone | haged | ⟨hcontact, message, hmessage, houtgoing, hdelivered⟩
      · exact .inl hgone
      · exact .inr (.inr (.inr ⟨now, rfl, haged⟩))
      · refine .inr (.inl (.inl ⟨{ message with deliveryState := .read }, ?_, rfl⟩))
        rw [hcontact, hid]
        exact message?_of_delivered hmessage houtgoing hdelivered

theorem accounted_of_filter {p : StoredOutboxEntry → Bool}
    (hs : s.outbox.entries.length ≤ maxStoredOutboxEntries)
    (hentries : s'.outbox.entries = s.outbox.entries.filter p)
    (hdeletes : ∀ entry ∈ s.outbox.entries, p entry = false → s.Deletes entry e) :
    Accounted gone s e s' := by
  constructor
  · rw [hentries]
    exact (List.length_filter_le _ _).trans hs
  · rintro _ ⟨entry, hmem, rfl⟩
    by_cases hp : p entry = true
    · refine .inl ⟨entry, ?_, rfl⟩
      rw [hentries]
      exact List.mem_filter.mpr ⟨hmem, hp⟩
    · rw [Bool.not_eq_true] at hp
      exact .inr ⟨entry, hmem, rfl, .inr (.inr (.inl (hdeletes entry hmem hp)))⟩

theorem accounted_reload (hallowed : SparesEntries gone s .reload) :
    Accounted gone s .reload s.reload := by
  refine ⟨MessageOutbox.length_entries_reload_le s.outbox, ?_⟩
  rintro _ ⟨entry, hmem, rfl⟩
  rcases hallowed entry hmem with hgone | ⟨row, hrow, hid, hcount⟩
  · exact .inr ⟨entry, hmem, rfl, .inl hgone⟩
  · exact .inl ⟨row, MessageOutbox.mem_entries_reload hrow hcount, hid⟩

theorem foldl_settle_spec (l : List StoredOutboxEntry) (s : Tab) :
    (l.foldl (fun s entry => s.settleOutboxMessage entry.messageId) s).outbox.entries.length ≤
        s.outbox.entries.length ∧
      ∀ entry ∈ s.outbox.entries, (∀ settled ∈ l, settled.messageId ≠ entry.messageId) →
        entry ∈ (l.foldl (fun s entry => s.settleOutboxMessage entry.messageId) s).outbox.entries := by
  induction l generalizing s with
  | nil => exact ⟨Nat.le_refl _, fun entry hmem _ => hmem⟩
  | cons settled l ih =>
    obtain ⟨hlength, hkept⟩ := ih (s.settleOutboxMessage settled.messageId)
    refine ⟨hlength.trans (List.length_filter_le _ _), fun entry hmem hother => ?_⟩
    refine hkept entry ?_ fun settled' hsettled' =>
      hother settled' (List.mem_cons_of_mem _ hsettled')
    exact MessageOutbox.mem_without.mpr ⟨hmem, (hother settled List.mem_cons_self).symm⟩

theorem accounted_run (hs : s.outbox.entries.length ≤ maxStoredOutboxEntries)
    (env : RunEnvironment) (hallowed : SparesEntries gone s (.run env)) :
    Accounted gone s (.run env) (s.run env) := by
  generalize hran : s.run env = s'
  have hcases := ran_run s env
  rw [hran] at hcases
  cases hcases with
  | idle => exact accounted_of_entries_eq hs rfl
  | expired _ _ _ =>
    obtain ⟨hlength, hkept⟩ := foldl_settle_spec (s.expiredDelivered env.now)
      { s with runtime := _ }
    refine ⟨hlength.trans hs, ?_⟩
    rintro _ ⟨entry, hmem, rfl⟩
    by_cases hsettled : ∃ settled ∈ s.expiredDelivered env.now,
        settled.messageId = entry.messageId
    · obtain ⟨settled, hsettled, hid⟩ := hsettled
      obtain ⟨hexamined, hdue⟩ := List.mem_filter.mp hsettled
      refine .inr ⟨settled, ?_, hid, .inr (.inr (.inr ⟨env.now, rfl, ?_⟩))⟩
      · exact mem_orderOutboxEntries.mp (List.mem_of_mem_take hexamined)
      · exact (of_decide_eq_true hdue).2
    · refine .inl ⟨entry, hkept entry hmem fun settled hmem' hid => ?_, rfl⟩
      exact hsettled ⟨settled, hmem', hid⟩
  | waiting _ _ _ => exact accounted_of_entries_eq hs rfl
  | @drained r r' due _ hr hmay _ _ hnone hnext houtcome =>
    have hdue := (mem_of_next hnext).1
    cases houtcome with
    | orphan hnothing =>
      refine accounted_of_without hs rfl fun _ => ⟨due, hdue, rfl, ?_⟩
      rcases hallowed r r' due hr hmay hnone hnext with hgone | haged | hwindow
      · exact .inl hgone
      · exact .inr (.inr (.inr ⟨env.now, rfl, haged⟩))
      · obtain ⟨contact, message, hcontact, hmessage, houtgoing⟩ := hwindow
        exact absurd houtgoing (hnothing contact message hcontact hmessage)
    | expired haged =>
      exact accounted_of_without hs rfl fun _ =>
        ⟨due, hdue, rfl, .inr (.inr (.inr ⟨env.now, rfl, haged⟩))⟩
    | deferred =>
      exact accounted_of_keeps hs (keepsEntries_defer { s with runtime := some r' } env.now hdue)
    | started peerId =>
      exact accounted_of_keeps hs (MessageOutbox.keeps_queueMessage ⟨due, hdue, rfl⟩)

theorem accounted_step (hs : s.outbox.entries.length ≤ maxStoredOutboxEntries) (e : TabEvent)
    (hallowed : SparesEntries gone s e) : Accounted gone s e (s.step e) := by
  cases e with
  | sendBody composition => exact accounted_sendBody hs composition hallowed
  | appendMessage message => exact accounted_of_entries_eq hs rfl
  | replaceConversationWindow contactId messages => exact accounted_of_entries_eq hs rfl
  | deleteMessagesLocally contactId messageIds =>
    change Accounted gone s _ (s.deleteMessagesLocally contactId messageIds)
    unfold Tab.deleteMessagesLocally
    split
    · exact accounted_of_entries_eq hs rfl
    · rename_i hdeletable
      refine accounted_of_filter hs rfl fun entry _ hdropped => ⟨hdeletable, ?_⟩
      simpa using hdropped
  | clearLocalConversation contactId =>
    refine accounted_of_filter hs rfl fun entry _ hdropped => ?_
    change entry.contactId = contactId
    simpa using hdropped
  | upsertContact contact => exact accounted_of_entries_eq hs rfl
  | forgetContact contactId =>
    refine accounted_of_filter hs rfl fun entry _ hdropped => ?_
    change entry.contactId = contactId
    simpa using hdropped
  | storeImage projection => exact accounted_of_entries_eq hs rfl
  | settleMessageWrite position completes now =>
    refine accounted_of_entries_eq hs ?_
    change (s.settleMessageWrite position completes now).outbox.entries = _
    unfold settleMessageWrite
    dsimp only
    split
    · split
      · rfl
      · rfl
    · rfl
  | settleOutboxWrite position completes =>
    exact accounted_of_entries_eq hs (s.outbox.entries_settleWrite position completes)
  | settleCleanup position now =>
    refine accounted_of_entries_eq hs ?_
    change (s.settleCleanup position now).outbox.entries = _
    unfold settleCleanup
    split
    · rfl
    · rfl
  | reload => exact accounted_reload hallowed
  | leaveRoute =>
    refine accounted_of_entries_eq hs ?_
    change s.takeTrackedDeliveries.outbox.entries = _
    obtain ⟨conversations, heq⟩ := takeTrackedDeliveries_eq s
    rw [heq]
  | attachRelaySession => exact accounted_of_entries_eq hs rfl
  | attachFailed => exact accounted_of_entries_eq hs rfl
  | attached =>
    refine accounted_of_entries_eq hs ?_
    change s.attached.outbox.entries = _
    unfold Tab.attached
    split
    · rfl
    · rfl
  | disconnected =>
    refine accounted_of_entries_eq hs ?_
    change (Tab.takeTrackedDeliveries { s with runtime := none }).outbox.entries = _
    obtain ⟨conversations, heq⟩ := takeTrackedDeliveries_eq { s with runtime := none }
    rw [heq]
  | relayAck deliveryId ackType =>
    exact accounted_of_keeps hs (keepsEntries_relayAck s deliveryId ackType)
  | deliveryTimeout deliveryId now =>
    exact accounted_of_keeps hs (keepsEntries_expireDelivery s deliveryId now)
  | run env => exact accounted_run hs env hallowed
  | targetSaved deliveryId saved encodes now =>
    exact accounted_of_keeps hs (keepsEntries_targetSaved s deliveryId now saved encodes)
  | sealed deliveryId outcome =>
    exact accounted_of_keeps hs (keepsEntries_sealed s deliveryId outcome)
  | installSender peerId sender now =>
    exact accounted_of_keeps hs (keepsEntries_fallbackWhere s now _)
  | rtcAdmit peerId rtcSessionId deliveryId =>
    refine accounted_of_entries_eq hs ?_
    change (s.admitDelivery peerId rtcSessionId deliveryId).outbox.entries = _
    unfold admitDelivery
    split
    · rfl
    · split
      · rfl
      · rfl
  | rtcTimeout peerId deliveryId now =>
    exact accounted_of_keeps hs (keepsEntries_fallbackWhere s now _)
  | sendControl peerId deliveryId channel now =>
    exact accounted_of_keeps hs (keepsEntries_sendLiveRTCData s now _ channel)
  | receipt contactId kind targetDeliveryId now =>
    exact accounted_receipt hs contactId kind targetDeliveryId now hallowed
  | presencePong contactId visible now =>
    exact accounted_of_keeps hs (keepsEntries_restart s now contactId visible)

end Step

def SparesOutbox (start : Tab) (past : List TabEvent) (e : TabEvent) : Prop :=
  SparesEntries (Gone start past) (Trace.run step start past) e

/-- From the load of a page with any database on, in a run that spares the outbox, an entry is
discarded only when its message was marked read or deleted, or at the maximum age. -/
theorem outbox_retained (s : Tab) {events : List TabEvent}
    (h : Trace.Meets Trace.record (SparesOutbox s.reload) [] events) :
    Trace.Meets Trace.record (DiscardsGone s.reload) [] events := by
  refine Trace.meets_of_meets
    (P := fun past => (Trace.run step s.reload past).outbox.entries.length ≤
      maxStoredOutboxEntries) ?_ (MessageOutbox.length_entries_reload_le s.outbox) h
  intro past e hbounded hallowed
  have haccounted := accounted_step hbounded e hallowed
  rw [← Trace.run_snoc step s.reload past e] at haccounted
  refine ⟨haccounted.bounded, fun messageId hhas => ?_⟩
  rcases haccounted.kept messageId hhas with hkept | ⟨entry, hmem, hid, hreason⟩
  · exact .inl hkept
  · refine .inr ⟨entry, hmem, hid, ?_⟩
    have hpast : past <+: past ++ [e] := List.prefix_append past [e]
    rcases hreason with (⟨xs, hxs, hread⟩ | ⟨xs, e', hxs, hdeletes⟩) | hread | hdeletes | haged
    · exact .inl (.inl ⟨xs, hxs.trans hpast, hread⟩)
    · exact .inl (.inr ⟨xs, e', hxs.trans hpast, hdeletes⟩)
    · exact .inl (.inl ⟨past ++ [e], List.prefix_refl _, hread⟩)
    · exact .inl (.inr ⟨past, e, List.prefix_refl _, hdeletes⟩)
    · exact .inr haged

theorem outbox_retained_firstDelivery :
    Trace.Meets Trace.record (DiscardsGone ({} : Tab).reload) [] (written ++ firstDelivery) := by
  refine outbox_retained {} ⟨trivial, ?_, trivial, trivial, ?_, trivial, trivial, trivial⟩
  · intro _ entry hmem
    have hnone : MessageOutbox.overflow (without
        (Trace.run step ({} : Tab).reload [.upsertContact alice]).outbox.entries "m1" ++
          [greeting.entry]) = [] := by
      decide +kernel
    change entry ∈ MessageOutbox.overflow (without
      (Trace.run step ({} : Tab).reload [.upsertContact alice]).outbox.entries "m1" ++
        [greeting.entry]) at hmem
    rw [hnone] at hmem
    cases hmem
  · intro r r' due _ _ _ hnext
    have hentries : (Trace.run step ({} : Tab).reload
        (written ++ [.attachRelaySession, .attached])).outbox.entries = [greeting.entry] := by
      decide +kernel
    have hdue := (mem_of_next hnext).1
    change due ∈ (Trace.run step ({} : Tab).reload
      (written ++ [.attachRelaySession, .attached])).outbox.entries at hdue
    rw [hentries, List.mem_singleton] at hdue
    rw [hdue]
    exact .inr (.inr ⟨alice, greeting.message, by decide +kernel, by decide +kernel, rfl⟩)

/-- Two messages that wait are written to the database, and the page is loaded again. -/
def reloaded : List TabEvent :=
  written ++ [
    .sendBody { greeting with messageId := "m2", applicationMessageId := "a2", createdAt := 2 },
    .settleMessageWrite 0 true 3, .settleMessageWrite 0 true 3, .settleOutboxWrite 0 true,
    .settleOutboxWrite 0 true, .reload, .attachRelaySession, .attached]

/-- The window shows the newer message only, and the entry of the older one is settled. -/
theorem not_outbox_retained :
    ¬ ∀ (s : Tab) (events : List TabEvent),
      Trace.Meets Trace.record (DiscardsGone s.reload) [] events := by
  intro h
  have hlast := ((Trace.meets_snoc Trace.record (DiscardsGone ({} : Tab).reload) [] reloaded
    (foregroundRun 4 "d1")).mp (h {} (reloaded ++ [foregroundRun 4 "d1"]))).2
  have hbefore : (Trace.run step ({} : Tab).reload reloaded).outbox.entries =
      [greeting.entry, { greeting with
        messageId := "m2", applicationMessageId := "a2", createdAt := 2 }.entry] := by
    decide +kernel
  have hafter : (Trace.run step ({} : Tab).reload
      (reloaded ++ [foregroundRun 4 "d1"])).outbox.entries =
      [{ greeting with
        messageId := "m2", applicationMessageId := "a2", createdAt := 2 }.entry] := by
    decide +kernel
  rcases hlast "m1" ⟨greeting.entry, hbefore ▸ List.mem_cons_self, rfl⟩ with
    ⟨entry, hmem, hid⟩ | ⟨entry, hmem, hid, (⟨xs, hxs, hread⟩ | ⟨xs, e, hxs, hdeletes⟩) | haged⟩
  · change entry ∈ (Trace.run step ({} : Tab).reload
      (reloaded ++ [foregroundRun 4 "d1"])).outbox.entries at hmem
    rw [hafter, List.mem_singleton] at hmem
    rw [hmem] at hid
    exact absurd hid (by decide)
  · change entry ∈ (Trace.run step ({} : Tab).reload reloaded).outbox.entries at hmem
    have hentry : entry = greeting.entry := by
      rw [hbefore, List.mem_pair] at hmem
      rcases hmem with rfl | rfl
      · rfl
      · exact absurd hid (by decide)
    have hnever : ∀ xs ∈ (reloaded ++ [foregroundRun 4 "d1"]).inits,
        ((Trace.run step ({} : Tab).reload xs).message? "alice" "m1").all
            (fun message => message.deliveryState ≠ .read) = true ∧
          ((Trace.run step ({} : Tab).reload xs).conversations.timeline.get? "m1").all
            (fun row => row.sidebarPreview.deliveryState ≠ .read) = true := by
      decide +kernel
    obtain ⟨hwindow, hrow⟩ := hnever xs ((List.mem_inits _ _).mpr hxs)
    rw [hentry] at hread
    rcases hread with ⟨message, hmessage, hstate⟩ | ⟨message, hmessage, hstate⟩
    · change Tab.message? _ "alice" "m1" = _ at hmessage
      rw [hmessage] at hwindow
      exact of_decide_eq_true hwindow hstate
    · change Table.get? _ "m1" = _ at hmessage
      rw [hmessage] at hrow
      exact of_decide_eq_true hrow hstate
  · have hmem : e ∈ reloaded ++ [foregroundRun 4 "d1"] :=
      hxs.subset (List.mem_append_right xs (List.mem_singleton.mpr rfl))
    simp only [reloaded, written, List.cons_append, List.nil_append, List.mem_cons,
      List.not_mem_nil, or_false] at hmem
    rcases hmem with rfl | rfl | rfl | rfl | rfl | rfl | rfl | rfl | rfl | rfl | rfl
    all_goals exact hdeletes
  · change entry ∈ (Trace.run step ({} : Tab).reload reloaded).outbox.entries at hmem
    obtain ⟨now, hnow, haged⟩ := haged
    rw [← Option.some.inj hnow] at haged
    have hyoung : ∀ entry ∈ (Trace.run step ({} : Tab).reload reloaded).outbox.entries,
        entry.aged 4 = false := by
      decide +kernel
    exact absurd haged (by rw [hyoung entry hmem]; exact Bool.false_ne_true)

end Tab

end Branch.Pwa
