import Branch.Lib.Trace
import Branch.Pwa.DeliveryStates
import Branch.Pwa.Tab

/-!
The evidence about an outgoing message in a tab: the acknowledgements of the relay, the
outcomes of the tab's own timers, and the receipts of the peer, in whatever order they come.
-/

namespace Branch.Pwa

open Branch.Lib

namespace Tab

def ReceiptKind.state : ReceiptKind → MessageDeliveryState
  | .delivered => .delivered
  | .read => .read

def about (contactId messageId : String) (delivery : DrainDelivery) : Bool :=
  delivery.contactId = contactId ∧ delivery.messageId = messageId

def expiring (s : Tab) (env : RunEnvironment) : Option StoredOutboxEntry :=
  match s.runtime with
  | none => none
  | some r =>
    if s.mayRun r env = false ∨ s.expiredDelivered env.now ≠ [] then none
    else (s.next r env.now).2.filter fun due =>
      (s.contact? due.contactId).isSome ∧
        ((s.message? due.contactId due.messageId).any fun message =>
          message.direction = .outgoing) ∧
        due.aged env.now

def evidenceOf (contactId messageId : String) (s : Tab) : TabEvent → List MessageDeliveryState
  | .relayAck deliveryId _ =>
    if (s.trackedDeliveries.get? deliveryId).any (about contactId messageId) then [.relayed]
    else []
  | .leaveRoute | .disconnected =>
    (s.trackedDeliveries.entries.filter fun tracked =>
      about contactId messageId tracked.2).map fun _ => .unavailable
  | .run env =>
    if (s.expiring env).any fun due =>
      due.contactId = contactId ∧ due.messageId = messageId then [.unavailable]
    else []
  | .receipt sender kind targetDeliveryId _ =>
    if sender = contactId ∧ s.receiptMessage sender targetDeliveryId = some messageId then
      [kind.state]
    else []
  | _ => []

def evidence (contactId messageId : String) : Tab → List TabEvent → List MessageDeliveryState
  | _, [] => []
  | s, e :: events =>
    evidenceOf contactId messageId s e ++ evidence contactId messageId (s.step e) events

theorem evidence_append (contactId messageId : String) (s : Tab) (xs ys : List TabEvent) :
    evidence contactId messageId s (xs ++ ys) =
      evidence contactId messageId s xs ++
        evidence contactId messageId (Trace.run step s xs) ys := by
  induction xs generalizing s with
  | nil => rfl
  | cons e xs ih =>
    rw [List.cons_append, evidence, ih, ← List.append_assoc]
    rfl

def Stays (contactId messageId : String) (s : Tab) (e : TabEvent) : Prop :=
  ∀ shown : MessageSummary, shown.contactId = contactId → shown.messageId = messageId →
    s.conversations.Shows shown → (s.step e).conversations.Shows shown

/-- The message stays in its window, and its writes are neither lost nor refused. -/
def Spares (contactId messageId : String) (s : Tab) (e : TabEvent) : Prop :=
  match e with
  | .sendBody composition =>
    composition.messageId ≠ messageId ∧
      (∀ previous, composition.previousUnavailableMessage = some previous →
        previous.messageId ≠ messageId) ∧
      Stays contactId messageId s e
  | .appendMessage message => message.messageId ≠ messageId ∧ Stays contactId messageId s e
  | .replaceConversationWindow _ _ => Stays contactId messageId s e
  | .deleteMessagesLocally _ messageIds => messageId ∉ messageIds
  | .clearLocalConversation other | .forgetContact other => other ≠ contactId
  | .storeImage projection => projection.messageId ≠ messageId
  | .settleMessageWrite position completes _ =>
    completes = true ∨ ∀ write, s.conversations.writes[position]? = some write →
      messageId ∉ write.messageIds
  | .settleCleanup position _ =>
    ∀ cleanup, s.cleanups[position]? = some cleanup →
      ∀ entry, s.conversations.timeline.get? messageId = some entry →
        entry.contactId ≠ cleanup.1
  | .reload => False
  | .leaveRoute | .disconnected =>
    s.conversations.HasRoom messageId s.trackedDeliveries.size
  | .relayAck _ _ | .run _ | .receipt _ _ _ _ => s.conversations.HasRoom messageId 1
  | _ => True

section Step

variable {s : Tab} {shown : MessageSummary} {contactId messageId : String}

theorem keeps_setMessageDeliveryState {c : Conversations} {p : Prop} [Decidable p]
    (hp : p ↔ contactId = shown.contactId ∧ messageId = shown.messageId) (h : c.Keeps shown)
    (houtgoing : shown.direction = .outgoing) (hreceived : shown.deliveryState ≠ .received)
    (hroom : c.HasRoom shown.messageId 1) (state : MessageDeliveryState) :
    (c.setMessageDeliveryState contactId messageId state).Keeps
      { shown with
        deliveryState := (if p then [state] else []).foldl advance shown.deliveryState } := by
  split
  · rename_i heq
    obtain ⟨rfl, rfl⟩ := hp.mp heq
    exact h.setMessageDeliveryState_self (n := 0) houtgoing hreceived hroom state
  · rename_i hne
    exact h.setMessageDeliveryState_of_ne (fun heq => hne (hp.mpr heq)) state

theorem keeps_foldl_unavailable (l : List (String × DrainDelivery)) {s : Tab}
    {shown : MessageSummary} (h : s.conversations.Keeps shown)
    (houtgoing : shown.direction = .outgoing) (hreceived : shown.deliveryState ≠ .received)
    (hroom : s.conversations.HasRoom shown.messageId l.length) :
    (l.foldl (fun s tracked => s.setMessageDeliveryState tracked.2.contactId tracked.2.messageId
        .unavailable) s).conversations.Keeps
      { shown with
        deliveryState :=
          ((l.filter fun tracked => about shown.contactId shown.messageId tracked.2).map
            fun _ => MessageDeliveryState.unavailable).foldl advance shown.deliveryState } := by
  induction l generalizing s shown with
  | nil => exact h
  | cons tracked l ih =>
    have hone : s.conversations.HasRoom shown.messageId 1 := by
      rcases hroom with hroom | hroom
      · exact .inl hroom
      · rw [List.length_cons] at hroom
        exact .inr (by omega)
    have hstep := keeps_setMessageDeliveryState (decide_eq_true_iff :
      about shown.contactId shown.messageId tracked.2 = true ↔ _) h houtgoing hreceived hone
        .unavailable
    change (s.setMessageDeliveryState tracked.2.contactId tracked.2.messageId
      .unavailable).conversations.Keeps _ at hstep
    have hnext := hroom.setMessageDeliveryState tracked.2.contactId tracked.2.messageId
      .unavailable
    rw [List.foldl_cons, List.filter_cons]
    split at hstep
    · rename_i habout
      change about shown.contactId shown.messageId tracked.2 = true at habout
      rw [if_pos habout, List.map_cons, List.foldl_cons]
      exact ih hstep houtgoing (advance_ne_received _ hreceived) hnext
    · rename_i habout
      change ¬about shown.contactId shown.messageId tracked.2 = true at habout
      rw [if_neg habout]
      exact ih hstep houtgoing hreceived hnext

theorem keeps_takeTrackedDeliveries (h : s.conversations.Keeps shown)
    (houtgoing : shown.direction = .outgoing) (hreceived : shown.deliveryState ≠ .received)
    (hroom : s.conversations.HasRoom shown.messageId s.trackedDeliveries.size) :
    s.takeTrackedDeliveries.conversations.Keeps
      { shown with
        deliveryState :=
          ((s.trackedDeliveries.entries.filter fun tracked =>
            about shown.contactId shown.messageId tracked.2).map
              fun _ => MessageDeliveryState.unavailable).foldl advance shown.deliveryState } :=
  keeps_foldl_unavailable s.trackedDeliveries.entries
    (s := { s with trackedDeliveries := .empty }) h houtgoing hreceived hroom

theorem conversations_relayAck (deliveryId : String) (ackType : AckType) :
    (s.relayAck deliveryId ackType).conversations =
      match s.trackedDeliveries.get? deliveryId with
      | none => s.conversations
      | some delivery => s.conversations.setMessageDeliveryState delivery.contactId
          delivery.messageId .relayed := by
  unfold relayAck
  cases s.trackedDeliveries.get? deliveryId with
  | none =>
    cases ackType with
    | accepted => rfl
    | forwarded => exact unaffected_conversations.advance s deliveryId
  | some delivery =>
    cases ackType with
    | accepted => rfl
    | forwarded => exact unaffected_conversations.advance _ deliveryId

theorem conversations_receipt (kind : ReceiptKind) (targetDeliveryId : String) (now : Nat) :
    (s.receipt contactId kind targetDeliveryId now).conversations =
      match s.receiptMessage contactId targetDeliveryId with
      | none => s.conversations
      | some messageId =>
        s.conversations.setMessageDeliveryState contactId messageId kind.state := by
  unfold receipt
  cases s.receiptMessage contactId targetDeliveryId with
  | none => rfl
  | some messageId =>
    cases kind with
    | delivered => rfl
    | read => rfl

theorem conversations_foldl_settle (l : List StoredOutboxEntry) (s : Tab) :
    (l.foldl (fun s entry => s.settleOutboxMessage entry.messageId) s).conversations =
      s.conversations := by
  induction l generalizing s with
  | nil => rfl
  | cons entry l ih => exact ih _

theorem conversations_startAttempt (r : OutboxRuntime) (due : StoredOutboxEntry)
    (peerId : String) (env : RunEnvironment) :
    (s.startAttempt r due peerId env).conversations = s.conversations := by
  simp only [startAttempt, queueMessage]

theorem conversations_drainEntry (r : OutboxRuntime) (due : StoredOutboxEntry)
    (env : RunEnvironment) :
    (s.drainEntry r due env).conversations =
      if (s.contact? due.contactId).isSome ∧
          ((s.message? due.contactId due.messageId).any fun message =>
            message.direction = .outgoing) ∧
          due.aged env.now then
        s.conversations.setMessageDeliveryState due.contactId due.messageId .unavailable
      else s.conversations := by
  unfold drainEntry
  split
  · rename_i contact message hcontact hmessage
    rw [hcontact, hmessage]
    split
    · rename_i hdirection
      simp [hdirection, settleOutboxMessage]
    · rename_i hdirection
      rw [not_not] at hdirection
      split
      · rename_i haged
        simp [hdirection, haged, settleOutboxMessage, setMessageDeliveryState]
      · rename_i haged
        rw [if_neg fun h => haged h.2.2]
        split
        · split
          · exact unaffected_conversations.defer _ _ _
          · exact conversations_startAttempt _ _ _ _
        · exact unaffected_conversations.defer _ _ _
  · rename_i hnone
    rw [if_neg]
    · rfl
    · rintro ⟨hcontact, hmessage, -⟩
      obtain ⟨contact, hcontact⟩ := Option.isSome_iff_exists.mp hcontact
      obtain ⟨message, hmessage, -⟩ := (Option.any_eq_true _ _).mp hmessage
      exact hnone contact message hcontact hmessage

theorem conversations_run (env : RunEnvironment) :
    (s.run env).conversations =
      match s.expiring env with
      | none => s.conversations
      | some due =>
        s.conversations.setMessageDeliveryState due.contactId due.messageId .unavailable := by
  unfold run expiring
  cases s.runtime with
  | none => rfl
  | some r =>
    dsimp only
    by_cases hrun : s.mayRun r env = false
    · rw [if_pos hrun, if_pos (.inl hrun)]
    · rw [if_neg hrun]
      by_cases hexpired : s.expiredDelivered env.now ≠ []
      · rw [if_pos hexpired, if_pos (.inr hexpired), conversations_foldl_settle]
      · rw [if_neg hexpired, if_neg (not_or.mpr ⟨hrun, hexpired⟩)]
        generalize hnext : s.next r env.now = next
        obtain ⟨r', due⟩ := next
        cases due with
        | none => rfl
        | some due =>
          dsimp only
          rw [conversations_drainEntry]
          change (if (s.contact? due.contactId).isSome ∧
            ((s.message? due.contactId due.messageId).any fun message =>
              message.direction = .outgoing) ∧ due.aged env.now then _ else _) = _
          rw [Option.filter_some]
          split
          · rename_i h
            simp only [h]
            rfl
          · rename_i h
            simp only [h, decide_false, Bool.false_eq_true, if_false]

def inState (message : MessageSummary) (state : MessageDeliveryState) : MessageSummary :=
  { message with deliveryState := state }

theorem inState_self (message : MessageSummary) :
    inState message message.deliveryState = message := rfl

theorem conversations_attached : s.attached.conversations = s.conversations := by
  unfold attached
  split <;> rfl

theorem conversations_admitDelivery (peerId rtcSessionId deliveryId : String) :
    (s.admitDelivery peerId rtcSessionId deliveryId).conversations = s.conversations := by
  unfold admitDelivery
  split
  · rfl
  · split <;> rfl

theorem keeps_of_conversations_eq {s' : Tab} (h : s.conversations.Keeps shown)
    (heq : s'.conversations = s.conversations) : s'.conversations.Keeps shown := heq ▸ h

theorem keeps_step (h : s.conversations.Keeps shown) (houtgoing : shown.direction = .outgoing)
    (hreceived : shown.deliveryState ≠ .received) (e : TabEvent)
    (hspares : Spares shown.contactId shown.messageId s e) :
    (s.step e).conversations.Keeps
      (inState shown ((evidenceOf shown.contactId shown.messageId s e).foldl advance
        shown.deliveryState)) := by
  cases e with
  | sendBody composition =>
    obtain ⟨hnew, hprevious, hstays⟩ := hspares
    refine ⟨hstays shown rfl rfl h.shows, ?_⟩
    change (s.sendBody composition).conversations.Records shown
    unfold sendBody
    split
    · exact h.records
    · split
      · exact h.records
      · split
        · exact h.records
        · rename_i conversations hprojected
          have hrecords : conversations.Records shown := by
            unfold projected at hprojected
            split at hprojected
            · rw [← Option.some.inj hprojected]
              exact h.records.appendMessage hnew
            · rename_i previous heq
              exact h.records.retryUnavailableMessage hprojected (hprevious previous heq) hnew
          dsimp only
          split
          · rw [unaffected_conversations.queueMessage]
            exact hrecords
          · exact hrecords
  | appendMessage message =>
    exact ⟨hspares.2 shown rfl rfl h.shows, h.records.appendMessage hspares.1⟩
  | replaceConversationWindow contactId messages =>
    exact ⟨hspares shown rfl rfl h.shows, h.records.setWindow _ _⟩
  | deleteMessagesLocally contactId messageIds =>
    change (s.deleteMessagesLocally contactId messageIds).conversations.Keeps shown
    unfold deleteMessagesLocally
    split
    · exact h
    · exact h.deleteMessagesLocally hspares
  | clearLocalConversation contactId => exact h.clearWindow hspares
  | upsertContact contact => exact h
  | forgetContact contactId => exact h.clearWindow hspares
  | storeImage projection => exact h.storeVerifiedImageMessage hspares
  | settleMessageWrite position completes now =>
    change (s.settleMessageWrite position completes now).conversations.Keeps shown
    have hwrite := h.settleWrite now hspares
    unfold settleMessageWrite
    dsimp only
    split
    · split
      · exact hwrite
      · exact hwrite
    · exact hwrite
  | settleOutboxWrite position completes => exact h
  | settleCleanup position now =>
    change (s.settleCleanup position now).conversations.Keeps shown
    unfold settleCleanup
    split
    · exact h
    · rename_i contactId contactToo hcleanup
      exact h.deleteStoredMessagesForContact now (hspares _ hcleanup)
  | reload => exact absurd hspares not_false
  | leaveRoute => exact keeps_takeTrackedDeliveries h houtgoing hreceived hspares
  | attachRelaySession => exact h
  | attachFailed => exact h
  | attached => exact keeps_of_conversations_eq h conversations_attached
  | disconnected =>
    exact keeps_takeTrackedDeliveries (s := { s with runtime := none }) h houtgoing hreceived
      hspares
  | relayAck deliveryId ackType =>
    change (s.relayAck deliveryId ackType).conversations.Keeps _
    rw [conversations_relayAck, evidenceOf]
    cases s.trackedDeliveries.get? deliveryId with
    | none => exact h
    | some delivery =>
      exact keeps_setMessageDeliveryState decide_eq_true_iff h houtgoing hreceived hspares .relayed
  | deliveryTimeout deliveryId now =>
    exact keeps_of_conversations_eq h (unaffected_conversations.expireDelivery s deliveryId now)
  | run env =>
    change (s.run env).conversations.Keeps _
    rw [conversations_run, evidenceOf]
    cases s.expiring env with
    | none => exact h
    | some due =>
      exact keeps_setMessageDeliveryState decide_eq_true_iff h houtgoing hreceived hspares
        .unavailable
  | targetSaved deliveryId saved encodes now =>
    exact keeps_of_conversations_eq h (conversations_targetSaved s deliveryId now saved encodes)
  | sealed deliveryId outcome =>
    exact keeps_of_conversations_eq h (conversations_sealed s deliveryId outcome)
  | installSender peerId sender now =>
    exact keeps_of_conversations_eq h (unaffected_conversations.fallbackWhere s now _)
  | rtcAdmit peerId rtcSessionId deliveryId =>
    exact keeps_of_conversations_eq h (conversations_admitDelivery peerId rtcSessionId deliveryId)
  | rtcTimeout peerId deliveryId now =>
    exact keeps_of_conversations_eq h (unaffected_conversations.fallbackWhere s now _)
  | sendControl peerId deliveryId channel now =>
    exact keeps_of_conversations_eq h (unaffected_conversations.sendLiveRTCData s now _ channel)
  | receipt contactId kind targetDeliveryId now =>
    change (s.receipt contactId kind targetDeliveryId now).conversations.Keeps _
    rw [conversations_receipt, evidenceOf]
    cases s.receiptMessage contactId targetDeliveryId with
    | none =>
      rw [if_neg fun hboth => nomatch hboth.2]
      exact h
    | some messageId =>
      exact keeps_setMessageDeliveryState (and_congr_right fun _ => Option.some_inj) h houtgoing
        hreceived hspares kind.state
  | presencePong contactId visible now =>
    exact keeps_of_conversations_eq h (unaffected_conversations.restart s now contactId visible)

theorem timeline_foldl_unavailable (l : List (String × DrainDelivery)) (s : Tab) :
    (l.foldl (fun s tracked => s.setMessageDeliveryState tracked.2.contactId tracked.2.messageId
        .unavailable) s).conversations.timeline = s.conversations.timeline := by
  induction l generalizing s with
  | nil => rfl
  | cons tracked l ih =>
    rw [List.foldl_cons, ih]
    exact Conversations.timeline_setMessageDeliveryState _ _ _ _

theorem timeline_takeTrackedDeliveries :
    s.takeTrackedDeliveries.conversations.timeline = s.conversations.timeline :=
  timeline_foldl_unavailable _ _

theorem timeline_sendBody (composition : Composition) :
    (s.sendBody composition).conversations.timeline = s.conversations.timeline := by
  unfold sendBody
  split
  · rfl
  · split
    · rfl
    · split
      · rfl
      · rename_i conversations hprojected
        have htimeline : conversations.timeline = s.conversations.timeline := by
          unfold projected at hprojected
          split at hprojected
          · rw [← Option.some.inj hprojected]
            exact Conversations.timeline_appendMessage _ _
          · exact Conversations.timeline_retryUnavailableMessage hprojected
        dsimp only
        split
        · rw [unaffected_conversations.queueMessage]
          exact htimeline
        · exact htimeline

theorem retains_of_conversations_eq {s' : Tab} (h : s'.conversations = s.conversations) :
    s.conversations.Retains s'.conversations messageId :=
  Conversations.retains_of_timeline_eq (congrArg Conversations.timeline h) messageId

theorem retains_step (h : s.conversations.Keeps shown) (e : TabEvent)
    (hspares : Spares shown.contactId shown.messageId s e) :
    s.conversations.Retains (s.step e).conversations shown.messageId := by
  cases e with
  | storeImage projection =>
    refine Conversations.retains_of_row_eq ?_
    change (s.conversations.storeVerifiedImageMessage projection).row shown.messageId = _
    unfold Conversations.storeVerifiedImageMessage Conversations.row
    rw [Table.get?_insert_of_ne _ _ (Ne.symm hspares)]
  | settleMessageWrite position completes now =>
    have hretains := h.records.retains_settleWrite position completes now
    change s.conversations.Retains (s.settleMessageWrite position completes now).conversations _
    unfold settleMessageWrite
    dsimp only
    split
    · split
      · exact hretains
      · exact hretains
    · exact hretains
  | settleCleanup position now =>
    change s.conversations.Retains (s.settleCleanup position now).conversations _
    unfold settleCleanup
    split
    · exact Conversations.retains_of_row_eq rfl
    · rename_i contactId contactToo hcleanup
      refine Conversations.retains_of_row_eq ?_
      exact Conversations.row_deleteStoredMessagesForContact now (hspares _ hcleanup)
        h.records.kept
  | reload => exact absurd hspares not_false
  | sendBody composition =>
    exact Conversations.retains_of_timeline_eq (timeline_sendBody composition) _
  | deleteMessagesLocally contactId messageIds =>
    refine Conversations.retains_of_timeline_eq ?_ _
    change (s.deleteMessagesLocally contactId messageIds).conversations.timeline = _
    unfold deleteMessagesLocally
    split
    · rfl
    · exact Conversations.timeline_deleteMessagesLocally _ _ _
  | leaveRoute =>
    exact Conversations.retains_of_timeline_eq timeline_takeTrackedDeliveries _
  | disconnected =>
    exact Conversations.retains_of_timeline_eq
      (timeline_takeTrackedDeliveries (s := { s with runtime := none })) _
  | attached => exact retains_of_conversations_eq conversations_attached
  | relayAck deliveryId ackType =>
    refine Conversations.retains_of_timeline_eq ?_ _
    change (s.relayAck deliveryId ackType).conversations.timeline = _
    rw [conversations_relayAck]
    split
    · rfl
    · rw [Conversations.timeline_setMessageDeliveryState]
  | run env =>
    refine Conversations.retains_of_timeline_eq ?_ _
    change (s.run env).conversations.timeline = _
    rw [conversations_run]
    split
    · rfl
    · rw [Conversations.timeline_setMessageDeliveryState]
  | receipt contactId kind targetDeliveryId now =>
    refine Conversations.retains_of_timeline_eq ?_ _
    change (s.receipt contactId kind targetDeliveryId now).conversations.timeline = _
    rw [conversations_receipt]
    split
    · rfl
    · rw [Conversations.timeline_setMessageDeliveryState]
  | deliveryTimeout deliveryId now =>
    exact retains_of_conversations_eq (unaffected_conversations.expireDelivery s deliveryId now)
  | targetSaved deliveryId saved encodes now =>
    exact retains_of_conversations_eq (conversations_targetSaved s deliveryId now saved encodes)
  | sealed deliveryId outcome =>
    exact retains_of_conversations_eq (conversations_sealed s deliveryId outcome)
  | installSender peerId sender now =>
    exact retains_of_conversations_eq (unaffected_conversations.fallbackWhere s now _)
  | rtcAdmit peerId rtcSessionId deliveryId =>
    exact retains_of_conversations_eq (conversations_admitDelivery peerId rtcSessionId deliveryId)
  | rtcTimeout peerId deliveryId now =>
    exact retains_of_conversations_eq (unaffected_conversations.fallbackWhere s now _)
  | sendControl peerId deliveryId channel now =>
    exact retains_of_conversations_eq
      (unaffected_conversations.sendLiveRTCData s now _ channel)
  | presencePong contactId visible now =>
    exact retains_of_conversations_eq
      (unaffected_conversations.restart s now contactId visible)
  | appendMessage message =>
    exact Conversations.retains_of_timeline_eq
      (Conversations.timeline_appendMessage s.conversations message) _
  | _ => exact Conversations.retains_of_row_eq rfl

end Step

section Run

variable {s : Tab} {message : MessageSummary} {events : List TabEvent}

theorem keeps_run (h : s.conversations.Keeps message) (houtgoing : message.direction = .outgoing)
    (hpending : message.deliveryState = .pending)
    (hrun : Trace.Meets step (Spares message.contactId message.messageId) s events) :
    (Trace.run step s events).conversations.Keeps
      (inState message
        (standing (evidence message.contactId message.messageId s events))) := by
  induction events using List.reverseRecOn with
  | nil =>
    have hstanding : inState message (standing []) = message := by
      rw [← inState_self message, hpending]
      rfl
    exact hstanding ▸ h
  | append_singleton events e ih =>
    obtain ⟨hevents, hspares⟩ := (Trace.meets_snoc _ _ _ _ _).mp hrun
    have hstep := keeps_step (ih hevents) houtgoing (standing_ne_received _) e hspares
    rw [Trace.run_snoc, evidence_append]
    have hstanding : standing (evidence message.contactId message.messageId s events ++
        evidence message.contactId message.messageId (Trace.run step s events) [e]) =
        (evidenceOf message.contactId message.messageId (Trace.run step s events) e).foldl
          advance (standing (evidence message.contactId message.messageId s events)) := by
      unfold standing
      rw [List.foldl_append]
      simp [evidence]
    rw [hstanding]
    exact hstep

theorem retains_run (h : s.conversations.Keeps message)
    (houtgoing : message.direction = .outgoing) (hpending : message.deliveryState = .pending)
    {xs ys : List TabEvent}
    (hrun : Trace.Meets step (Spares message.contactId message.messageId) s (xs ++ ys)) :
    (Trace.run step s xs).conversations.Retains (Trace.run step s (xs ++ ys)).conversations
      message.messageId := by
  induction ys using List.reverseRecOn with
  | nil =>
    rw [List.append_nil]
    exact Conversations.retains_of_row_eq rfl
  | append_singleton ys e ih =>
    rw [← List.append_assoc] at hrun ⊢
    obtain ⟨hevents, hspares⟩ := (Trace.meets_snoc _ _ _ _ _).mp hrun
    rw [Trace.run_snoc]
    exact (ih hevents).trans (retains_step (keeps_run h houtgoing hpending hevents) e hspares)

/-- The state in which a message is shown, and the state in which it is stored once its writes
are through, is the strongest that the evidence speaks for, and neither becomes weaker. -/
theorem shows_strongest_evidence (s : Tab) (message : MessageSummary) (events : List TabEvent)
    (hkeeps : s.conversations.Keeps message) (houtgoing : message.direction = .outgoing)
    (hpending : message.deliveryState = .pending)
    (hrun : Trace.Meets step (Spares message.contactId message.messageId) s events) :
    ∃ state,
      IsStrongest (evidence message.contactId message.messageId s events) state ∧
      (Trace.run step s events).conversations.Shows (inState message state) ∧
      (message.messageId ∉ (Trace.run step s events).conversations.messagePersistenceChains →
        (Trace.run step s events).conversations.row message.messageId =
          some (inState message state)) ∧
      ∀ xs ys, events = xs ++ ys →
        (∃ earlier, (Trace.run step s xs).conversations.Shows (inState message earlier) ∧
          strength earlier ≤ strength state) ∧
        (Trace.run step s xs).conversations.Retains (Trace.run step s events).conversations
          message.messageId := by
  have hend := keeps_run hkeeps houtgoing hpending hrun
  refine ⟨_, isStrongest_standing _, hend.shows, hend.records.row_eq, ?_⟩
  rintro xs ys rfl
  refine ⟨⟨_, (keeps_run hkeeps houtgoing hpending ?_).shows, ?_⟩,
    retains_run hkeeps houtgoing hpending hrun⟩
  · exact ((Trace.meets_append _ _ _ _ _).mp hrun).1
  · rw [evidence_append]
    exact strength_standing_mono (List.prefix_append _ _)

def greeted : Tab := step { contacts := [alice] } (.sendBody greeting)

theorem keeps_greeted : greeted.conversations.Keeps greeting.message := by
  have hwindow : ∀ contactId, ({} : Conversations).window contactId = [] := fun contactId => by
    unfold Conversations.window
    rw [Table.get?_empty]
    rfl
  have hkeeps : (Conversations.appendMessage {} greeting.message).Keeps greeting.message :=
    Conversations.Keeps.of_appendMessage (fun contactId other hother => by
      rw [hwindow] at hother
      cases hother)
    (by decide +kernel) (by decide +kernel) (fun write hwrite => nomatch hwrite)
    (.inr (by decide +kernel)) (by decide +kernel)
  exact hkeeps

def greetingRead : List TabEvent :=
  firstDelivery ++ [.relayAck "d1" .forwarded, .receipt "alice" .delivered "d1" 3,
    .receipt "alice" .read "d1" 4]

theorem shows_strongest_evidence_greetingRead :
    ∃ state,
      IsStrongest (evidence "alice" "m1" greeted greetingRead) state ∧
      (Trace.run step greeted greetingRead).conversations.Shows
        (inState greeting.message state) := by
  obtain ⟨state, hstrongest, hshows, -⟩ :=
    shows_strongest_evidence greeted greeting.message greetingRead keeps_greeted rfl rfl
      ⟨trivial, trivial, .inl (by decide +kernel), trivial, trivial, .inl (by decide +kernel),
        .inl (by decide +kernel), .inl (by decide +kernel), trivial⟩
  exact ⟨state, hstrongest, hshows⟩

/-- A receipt that comes before the acknowledgement of the relay is lost. -/
theorem not_shows_read_receiptFirst :
    evidence "alice" "m1" greeted (firstDelivery ++ [.receipt "alice" .read "d1" 3]) = [.read] ∧
      ((Trace.run step greeted (firstDelivery ++ [.receipt "alice" .read "d1" 3])).message?
        "alice" "m1").map MessageSummary.deliveryState = some .pending := by
  decide +kernel

end Run

end Tab

end Branch.Pwa
