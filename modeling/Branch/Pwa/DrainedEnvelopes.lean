import Branch.Lib.Trace
import Branch.Pwa.Tab

/-!
The envelopes of the drain: at most one is outstanding at a time, and what is sealed is still in
the outbox.
-/

namespace Branch.Pwa

open Branch.Lib

namespace Tab

/-- The deliveries of the drain among the attempts on direct channels. -/
def drained (pendings : List RTCDirectPending) : List String :=
  (pendings.filter fun pending => pending.delivery.isSome).map RTCDirectPending.deliveryId

/-- The deliveries whose envelope was sent, and which come back to the drain. -/
def sent (s : Tab) (falling : List RTCDirectPending) : List String :=
  drained (s.direct ++ falling) ++ s.trackedDeliveries.keys

def inFlight (s : Tab) : List String := s.attempts.map Attempt.deliveryId ++ s.sent []

def sealing (s : Tab) : List String :=
  (s.attempts.filter fun attempt => attempt.phase ≠ .savingTarget).map Attempt.deliveryId

/-- The drained envelopes that are being sealed, or that were sealed and neither forwarded nor
timed out nor abandoned. One that the relay has accepted still holds the slot of the drain. -/
def outstanding (s : Tab) : List String :=
  s.sealing ++ s.sent [] ++
    ((s.runtime.bind OutboxRuntime.activeDeliveryId).filter (· ∉ s.inFlight)).toList

/-- The message waits in the outbox and was not delivered. -/
def Undelivered (s : Tab) (messageId : String) : Prop :=
  ∃ entry ∈ s.outbox.entries, entry.messageId = messageId ∧ entry.deliveredAt = none

/-- The deliveries are one at most, and it has the slot of the drain. -/
structure Carries (s : Tab) (deliveryIds : List String) : Prop where
  length_le : deliveryIds.length ≤ 1
  active : ∀ r, s.runtime = some r → ∀ deliveryId ∈ deliveryIds,
    r.activeDeliveryId = some deliveryId

/-- What is sealed next is backed by the outbox, and nothing else is in flight. -/
structure Orderly (s : Tab) : Prop where
  carries : s.Carries s.inFlight
  backed : ∀ attempt ∈ s.attempts, attempt.phase = .savingTarget →
    s.Undelivered attempt.delivery.messageId

section Carries

variable {s s' : Tab} {deliveryIds deliveryIds' : List String}

theorem carries_nil (s : Tab) : s.Carries [] :=
  ⟨Nat.zero_le 1, fun _ _ _ h => absurd h List.not_mem_nil⟩

theorem Carries.of_subperm (h : s.Carries deliveryIds) (hruntime : s'.runtime = s.runtime)
    (hsub : List.Subperm deliveryIds' deliveryIds) : s'.Carries deliveryIds' :=
  ⟨hsub.length_le.trans h.length_le, fun r hr deliveryId hmem =>
    h.active r (hruntime ▸ hr) deliveryId (hsub.subset hmem)⟩

theorem drained_append (l l' : List RTCDirectPending) :
    drained (l ++ l') = drained l ++ drained l' := by
  rw [drained, List.filter_append, List.map_append]
  rfl

theorem drained_cons_none {pending : RTCDirectPending} (h : pending.delivery = none)
    (l : List RTCDirectPending) : drained (pending :: l) = drained l := by
  unfold drained
  rw [List.filter_cons_of_neg (by rw [h]; exact Bool.false_ne_true)]

theorem drained_cons_some {pending : RTCDirectPending} {delivery : DrainDelivery}
    (h : pending.delivery = some delivery) (l : List RTCDirectPending) :
    drained (pending :: l) = pending.deliveryId :: drained l := by
  unfold drained
  rw [List.filter_cons_of_pos (by rw [h]; rfl), List.map_cons]

theorem drained_perm {l l' : List RTCDirectPending} (h : l.Perm l') :
    (drained l).Perm (drained l') := (h.filter _).map _

end Carries

section Fallback

variable {s : Tab} {falling : List RTCDirectPending} {pending : RTCDirectPending}
  {delivery : DrainDelivery}

theorem trackDelivery_of_empty (h : s.trackedDeliveries.keys = []) (deliveryId : String)
    (delivery : DrainDelivery) (now : Nat) :
    ∃ trackedDeliveries, s.trackDelivery deliveryId delivery now = { s with trackedDeliveries } ∧
      trackedDeliveries.keys = [deliveryId] := by
  have hcleared : (s.clearDelivery deliveryId).trackedDeliveries.keys = [] := by
    change (s.trackedDeliveries.delete deliveryId).keys = []
    rw [InsertionMap.keys_delete, h]
    rfl
  have hevict : (s.clearDelivery deliveryId).evictOldestDelivery now =
      s.clearDelivery deliveryId := by
    unfold evictOldestDelivery
    rw [if_neg]
    rw [← InsertionMap.length_keys, hcleared]
    exact Nat.zero_ne_add_one 63
  refine ⟨(s.trackedDeliveries.delete deliveryId).set deliveryId delivery, ?_, ?_⟩
  · unfold trackDelivery
    rw [hevict]
    rfl
  · rw [InsertionMap.keys_set]
    change (s.trackedDeliveries.delete deliveryId).keys = [] at hcleared
    rw [hcleared]
    rfl

theorem fallbackToWSS_eq (h : (s.sent (pending :: falling)).length ≤ 1) (now : Nat) :
    ∃ trackedDeliveries, s.fallbackToWSS pending now = { s with trackedDeliveries } ∧
      List.Subperm (sent { s with trackedDeliveries } falling) (s.sent (pending :: falling)) := by
  unfold Tab.fallbackToWSS
  split
  · rename_i hnone
    refine ⟨s.trackedDeliveries, rfl, ?_⟩
    unfold sent
    rw [drained_append, drained_append, drained_cons_none hnone]
  · rename_i delivery hsome
    unfold sent at h ⊢
    rw [drained_append, drained_cons_some hsome] at h ⊢
    simp only [List.length_append, List.length_cons] at h
    have hdirect : drained s.direct = [] := List.eq_nil_of_length_eq_zero (by omega)
    have hfalling : drained falling = [] := List.eq_nil_of_length_eq_zero (by omega)
    have htracked : s.trackedDeliveries.keys = [] := List.eq_nil_of_length_eq_zero (by omega)
    obtain ⟨trackedDeliveries, heq, hkeys⟩ :=
      trackDelivery_of_empty htracked pending.deliveryId delivery now
    refine ⟨trackedDeliveries, heq, ?_⟩
    rw [drained_append, hdirect, hfalling, htracked, hkeys]
    exact List.Subperm.refl _

theorem foldl_fallbackToWSS_eq (l : List RTCDirectPending) {s : Tab}
    (h : (s.sent (l ++ falling)).length ≤ 1) (now : Nat) :
    ∃ trackedDeliveries, l.foldl (fun s pending => s.fallbackToWSS pending now) s =
        { s with trackedDeliveries } ∧
      List.Subperm (sent { s with trackedDeliveries } falling) (s.sent (l ++ falling)) := by
  induction l generalizing s with
  | nil => exact ⟨s.trackedDeliveries, rfl, List.Subperm.refl _⟩
  | cons pending l ih =>
    obtain ⟨trackedDeliveries, heq, hnext⟩ := fallbackToWSS_eq h now
    obtain ⟨trackedDeliveries', heq', hlast⟩ := ih (hnext.length_le.trans h)
    refine ⟨trackedDeliveries', ?_, hlast.trans hnext⟩
    rw [List.foldl_cons, heq, heq']

theorem fallbackWhere_eq (h : (s.sent falling).length ≤ 1) (p : RTCDirectPending → Bool)
    (now : Nat) :
    ∃ trackedDeliveries direct, s.fallbackWhere p now = { s with trackedDeliveries, direct } ∧
      List.Subperm (sent { s with trackedDeliveries, direct } falling) (s.sent falling) := by
  have hmoved : List.Perm (sent { s with
      direct := s.direct.filter fun pending => ¬ p pending } (s.direct.filter p ++ falling))
      (s.sent falling) := by
    refine List.Perm.append_right _ (drained_perm ?_)
    rw [← List.append_assoc]
    refine List.Perm.append_right _ (List.perm_append_comm.trans ?_)
    have hfilter := List.filter_append_perm p s.direct
    simpa using hfilter
  obtain ⟨trackedDeliveries, heq, hsub⟩ :=
    foldl_fallbackToWSS_eq _ (hmoved.length_eq.trans_le h) now
  exact ⟨trackedDeliveries, _, heq, hsub.trans hmoved.subperm⟩

theorem sendLiveRTCData_eq (h : (s.sent (pending :: falling)).length ≤ 1)
    (channel : ChannelSend) (now : Nat) :
    ∃ trackedDeliveries direct senders,
      (s.sendLiveRTCData pending channel now).1 =
        { s with trackedDeliveries, direct, senders } ∧
      List.Subperm (sent { s with trackedDeliveries, direct, senders }
        (if (s.sendLiveRTCData pending channel now).2 then falling else pending :: falling))
        (s.sent (pending :: falling)) := by
  unfold Tab.sendLiveRTCData
  split
  · exact ⟨s.trackedDeliveries, s.direct, s.senders, rfl, List.Subperm.refl _⟩
  · split
    · obtain ⟨trackedDeliveries, direct, heq, hsub⟩ := fallbackWhere_eq
        (s := { s with senders := s.senders.erase pending.peerId }) h
        (fun other => other.peerId = pending.peerId) now
      exact ⟨trackedDeliveries, direct, _, heq, hsub⟩
    · split
      · exact ⟨s.trackedDeliveries, s.direct, s.senders, rfl, List.Subperm.refl _⟩
      · cases channel with
        | unencodable =>
          exact ⟨s.trackedDeliveries, s.direct, s.senders, rfl, List.Subperm.refl _⟩
        | failed =>
          obtain ⟨trackedDeliveries, heq, hsub⟩ := fallbackToWSS_eq h now
          exact ⟨trackedDeliveries, s.direct, s.senders, heq, hsub⟩
        | sent =>
          refine ⟨s.trackedDeliveries, s.direct ++ [pending], s.senders, rfl, ?_⟩
          unfold Tab.sent
          change List.Subperm (drained (s.direct ++ [pending] ++ falling) ++ _) _
          rw [List.append_assoc, List.singleton_append]

end Fallback

section Attempts

variable {s : Tab} {attempt : Attempt}

theorem orderly_of_inFlight_eq_nil (h : s.inFlight = []) : Orderly s := by
  refine ⟨h ▸ carries_nil s, fun attempt hmem => ?_⟩
  have hattempts := (List.append_eq_nil_iff.mp h).1
  rw [List.map_eq_nil_iff.mp hattempts] at hmem
  cases hmem

theorem Orderly.inFlight_eq_nil (h : Orderly s) {r : OutboxRuntime} (hr : s.runtime = some r)
    (hfree : r.activeDeliveryId = none) : s.inFlight = [] := by
  refine List.eq_nil_iff_forall_not_mem.mpr fun deliveryId hmem => ?_
  have hactive := h.carries.active r hr deliveryId hmem
  rw [hfree] at hactive
  cases hactive

theorem Orderly.attempts_eq (h : Orderly s) (hmem : attempt ∈ s.attempts) :
    s.attempts = [attempt] ∧ s.sent [] = [] := by
  have hlength := h.carries.length_le
  rw [inFlight, List.length_append, List.length_map] at hlength
  have hpos : 0 < s.attempts.length := List.length_pos_of_mem hmem
  constructor
  · obtain ⟨other, hother⟩ := List.length_eq_one_iff.mp (by omega : s.attempts.length = 1)
    rw [hother] at hmem ⊢
    rw [List.mem_singleton.mp hmem]
  · exact List.eq_nil_of_length_eq_zero (by omega)

theorem Orderly.length_sent_le (h : Orderly s) : (s.sent []).length ≤ 1 :=
  (List.sublist_append_right _ _).length_le.trans h.carries.length_le

theorem Orderly.attempts_eq_nil (h : Orderly s) (hsent : s.sent [] ≠ []) : s.attempts = [] := by
  refine List.eq_nil_iff_forall_not_mem.mpr fun attempt hmem => ?_
  exact hsent (h.attempts_eq hmem).2

theorem sent_stopActiveDrain (s : Tab) (deliveryId : String) (delivery : DrainDelivery)
    (now : Nat) : (s.stopActiveDrain deliveryId delivery now).sent [] = s.sent [] := by
  unfold stopActiveDrain
  split
  · rfl
  · split
    · rfl
    · rfl

theorem inFlight_failAttempt (hattempts : s.attempts = [attempt]) (hsent : s.sent [] = [])
    (now : Nat) : (s.failAttempt attempt now).inFlight = [] := by
  have hleft : (s.failAttempt attempt now).attempts = [] := by
    change (s.stopActiveDrain attempt.deliveryId attempt.delivery now).attempts.erase attempt = []
    rw [unaffected_attempts.stopActiveDrain, hattempts, List.erase_cons_head]
  have hsent' : (s.failAttempt attempt now).sent [] = [] :=
    (sent_stopActiveDrain s _ _ now).trans hsent
  rw [inFlight, hleft, hsent']
  rfl

theorem Orderly.failAttempt (h : Orderly s) (hmem : attempt ∈ s.attempts) (now : Nat) :
    Orderly (s.failAttempt attempt now) := by
  obtain ⟨hattempts, hsent⟩ := h.attempts_eq hmem
  exact orderly_of_inFlight_eq_nil (inFlight_failAttempt hattempts hsent now)

theorem Orderly.congr {s' : Tab} (h : Orderly s) (hruntime : s'.runtime = s.runtime)
    (houtbox : s'.outbox.entries = s.outbox.entries) (hattempts : s'.attempts = s.attempts)
    (hsent : List.Subperm (s'.sent []) (s.sent [])) : Orderly s' := by
  constructor
  · refine h.carries.of_subperm hruntime ?_
    unfold inFlight
    rw [hattempts]
    exact (List.subperm_append_left _).mpr hsent
  · intro attempt hmem hphase
    obtain ⟨entry, hentry, hrest⟩ := h.backed attempt (hattempts ▸ hmem) hphase
    exact ⟨entry, houtbox ▸ hentry, hrest⟩

theorem Orderly.targetSaved (h : Orderly s) (deliveryId : String) (saved encodes : Bool)
    (now : Nat) : Orderly (s.targetSaved deliveryId saved encodes now) := by
  unfold Tab.targetSaved
  split
  · exact h
  · rename_i attempt hfind
    have hmem := List.mem_of_find?_eq_some hfind
    split
    · exact h.failAttempt hmem now
    · have hsaved : Orderly (s.saveStoredMessageDeliveryTarget attempt.delivery deliveryId now) :=
        h.congr rfl rfl rfl (List.Subperm.refl _)
      dsimp only
      split
      · split
        · exact hsaved.failAttempt hmem now
        · obtain ⟨hattempts, hsent⟩ := h.attempts_eq hmem
          constructor
          · refine h.carries.of_subperm rfl (List.Perm.subperm ?_)
            unfold inFlight
            refine List.Perm.append_right _ ?_
            change List.Perm (List.map _ (s.attempts.erase attempt ++ _)) _
            rw [hattempts, List.erase_cons_head]
            exact List.Perm.refl _
          · intro other hother hphase
            change other ∈ s.attempts.erase attempt ++ _ at hother
            rw [hattempts, List.erase_cons_head, List.nil_append, List.mem_singleton] at hother
            rw [hother] at hphase
            cases hphase
      · exact hsaved.failAttempt hmem now

theorem orderly_finishAttempt {s' : Tab} (hattempts : s'.attempts = [attempt])
    (hsent : s'.Carries (s'.sent [])) : Orderly (s'.finishAttempt attempt) := by
  have hleft : (s'.finishAttempt attempt).attempts = [] := by
    change s'.attempts.erase attempt = []
    rw [hattempts, List.erase_cons_head]
  constructor
  · have hinFlight : (s'.finishAttempt attempt).inFlight = s'.sent [] := by
      unfold inFlight
      rw [hleft]
      rfl
    rw [hinFlight]
    refine ⟨hsent.length_le, fun r hr deliveryId hmem => ?_⟩
    obtain ⟨r', hr', heq⟩ := Option.map_eq_some_iff.mp hr
    rw [← hsent.active r' hr' deliveryId hmem, ← heq]
    split
    · rfl
    · rfl
  · rw [hleft]
    exact fun other hother => absurd hother List.not_mem_nil

theorem sent_clearDelivery {deliveryId : String} (h : s.Carries (s.sent []))
    (hmem : deliveryId ∈ s.trackedDeliveries.keys) :
    (s.clearDelivery deliveryId).sent [] = [] := by
  have hlength := h.length_le
  unfold sent at hlength ⊢
  rw [List.length_append] at hlength
  have hpos : 0 < s.trackedDeliveries.keys.length := List.length_pos_of_mem hmem
  have hdirect : drained (s.direct ++ []) = [] := List.eq_nil_of_length_eq_zero (by omega)
  obtain ⟨key, hkey⟩ := List.length_eq_one_iff.mp
    (by omega : s.trackedDeliveries.keys.length = 1)
  change drained (s.direct ++ []) ++ (s.trackedDeliveries.delete deliveryId).keys = []
  rw [hkey] at hmem
  rw [hdirect, InsertionMap.keys_delete, hkey, List.mem_singleton.mp hmem, List.nil_append,
    List.filter_cons_of_neg (by simp), List.filter_nil]

theorem Orderly.sealed (h : Orderly s) (deliveryId : String) (outcome : SealOutcome) :
    Orderly (s.sealed deliveryId outcome) := by
  unfold Tab.sealed
  split
  · exact h
  · rename_i attempt hfind
    have hmem := List.mem_of_find?_eq_some hfind
    have hsome : (sealingOver deliveryId attempt).isSome = true := by
      simpa using List.find?_some hfind
    obtain rfl := deliveryId_of_sealingOver hsome
    obtain ⟨hattempts, hsent⟩ := h.attempts_eq hmem
    split
    · exact h.failAttempt hmem outcome.now
    · have hfalling : s.Carries (s.sent [{
          peerId := attempt.recipientPeerId
          deliveryId := attempt.deliveryId
          delivery := some attempt.delivery }]) := by
        refine h.carries.of_subperm rfl (List.Perm.subperm ?_)
        unfold sent at hsent
        rw [List.append_nil] at hsent
        obtain ⟨hdirect, htracked⟩ := List.append_eq_nil_iff.mp hsent
        unfold inFlight Tab.sent
        rw [drained_append, List.append_nil, hdirect, htracked, hattempts]
        exact List.Perm.refl _
      obtain ⟨trackedDeliveries, direct, senders, heq, hsub⟩ :=
        sendLiveRTCData_eq hfalling.length_le outcome.channel outcome.now
      dsimp only
      split
      · rename_i s' hsend
        rw [hsend] at heq hsub
        subst heq
        exact orderly_finishAttempt hattempts (hfalling.of_subperm rfl hsub)
      · rename_i s' hsend
        rw [hsend] at heq hsub
        subst heq
        obtain ⟨trackedDeliveries', heq', hsub'⟩ :=
          fallbackToWSS_eq (hsub.length_le.trans hfalling.length_le) outcome.now
        change Tab.trackDelivery _ attempt.deliveryId attempt.delivery outcome.now = _ at heq'
        have hcarries' : Carries { s with
            trackedDeliveries := trackedDeliveries', direct, senders } _ :=
          hfalling.of_subperm rfl (hsub'.trans hsub)
        rw [heq']
        split
        · exact orderly_finishAttempt hattempts hcarries'
        · have hkey : attempt.deliveryId ∈ trackedDeliveries'.keys := by
            have htracked := congrArg Tab.trackedDeliveries heq'
            change _ = trackedDeliveries' at htracked
            rw [← htracked]
            exact InsertionMap.mem_keys_set.mpr (.inl rfl)
          refine orderly_of_inFlight_eq_nil (inFlight_failAttempt ?_ ?_ outcome.now)
          · exact hattempts
          · exact sent_clearDelivery hcarries' hkey

end Attempts

section Step

variable {s : Tab}

/-- The delivery is in the hands of a call, or of a direct channel. -/
def suspended (s : Tab) : List String := s.attempts.map Attempt.deliveryId ++ drained s.direct

/-- The attempts that wait for the database, before their payload is sealed. -/
def waits (s : Tab) : List Attempt :=
  s.attempts.filter fun attempt => attempt.phase = .savingTarget

/-- Nothing takes the entry of a message away, or marks it as delivered, while the message is
about to be sealed. Nothing frees the slot while the delivery that has it is with a call or with
a direct channel, and a new drain does not begin before everything has come back. -/
def LeavesDrain (s : Tab) : TabEvent → Prop
  | .sendBody composition =>
    s.Queues composition → ∀ attempt ∈ s.waits,
      ∃ entry ∈ without s.outbox.entries composition.messageId ++ [composition.entry],
        (entry.messageId = attempt.delivery.messageId ∧ entry.deliveredAt = none) ∧
          entry ∉ MessageOutbox.overflow
            (without s.outbox.entries composition.messageId ++ [composition.entry])
  | .deleteMessagesLocally contactId messageIds =>
    s.conversations.deletable contactId messageIds ≠ [] → ∀ attempt ∈ s.waits,
      attempt.delivery.messageId ∉ Conversations.wanted messageIds
  | .clearLocalConversation contactId => ∀ attempt ∈ s.waits, ∃ entry ∈ s.outbox.entries,
      (entry.messageId = attempt.delivery.messageId ∧ entry.deliveredAt = none) ∧
        entry.contactId ≠ contactId
  | .forgetContact contactId => ∀ attempt ∈ s.waits, ∃ entry ∈ s.outbox.entries,
      (entry.messageId = attempt.delivery.messageId ∧ entry.deliveredAt = none) ∧
        entry.contactId ≠ contactId
  | .receipt contactId _ targetDeliveryId _ => ∀ attempt ∈ s.waits,
      s.receiptMessage contactId targetDeliveryId ≠ some attempt.delivery.messageId
  | .relayAck deliveryId .forwarded => ∀ r, s.runtime = some r →
      r.activeDeliveryId = some deliveryId → deliveryId ∉ s.suspended
  | .presencePong contactId visible _ => ∀ r deliveryId, s.runtime = some r →
      r.activeDeliveryId = some deliveryId → r.activeContactId = some contactId →
        visible = true → deliveryId ∉ s.suspended
  | .attached => ∀ client, s.session = some { client, attached := false } → s.inFlight = []
  | _ => True

theorem Orderly.fallbackWhere (h : Orderly s) (p : RTCDirectPending → Bool) (now : Nat) :
    Orderly (s.fallbackWhere p now) := by
  obtain ⟨trackedDeliveries, direct, heq, hsub⟩ := fallbackWhere_eq h.length_sent_le p now
  rw [heq]
  exact h.congr rfl rfl rfl hsub

theorem mem_waits {attempt : Attempt} :
    attempt ∈ s.waits ↔ attempt ∈ s.attempts ∧ attempt.phase = .savingTarget := by
  rw [waits, List.mem_filter, decide_eq_true_eq]

theorem Orderly.of_backed {s' : Tab} (h : Orderly s) (hruntime : s'.runtime = s.runtime)
    (hinFlight : s'.inFlight = s.inFlight) (hattempts : s'.attempts = s.attempts)
    (hbacked : ∀ attempt ∈ s.waits, s'.Undelivered attempt.delivery.messageId) :
    Orderly s' := by
  constructor
  · rw [hinFlight]
    exact h.carries.of_subperm hruntime (List.Subperm.refl _)
  · intro attempt hmem hphase
    exact hbacked attempt (mem_waits.mpr ⟨hattempts ▸ hmem, hphase⟩)

theorem Orderly.undelivered (h : Orderly s) {attempt : Attempt} (hmem : attempt ∈ s.waits) :
    s.Undelivered attempt.delivery.messageId := by
  obtain ⟨hattempt, hphase⟩ := mem_waits.mp hmem
  exact h.backed attempt hattempt hphase

theorem Orderly.sendBody (h : Orderly s) (composition : Composition)
    (hallowed : LeavesDrain s (.sendBody composition)) : Orderly (s.sendBody composition) := by
  rcases sendBody_cases s composition with ⟨conversations, heq⟩ | ⟨hqueues, conversations, -, heq⟩
  · rw [heq]
    exact h.congr rfl rfl rfl (List.Subperm.refl _)
  · rw [heq]
    refine h.of_backed rfl rfl rfl fun attempt hmem => ?_
    obtain ⟨entry, hentry, hundelivered, hnot⟩ := hallowed hqueues attempt hmem
    exact ⟨entry, MessageOutbox.mem_entries_queueMessage hentry hnot, hundelivered⟩

theorem Orderly.deleteMessagesLocally (h : Orderly s) (contactId : String)
    (messageIds : List String)
    (hallowed : LeavesDrain s (.deleteMessagesLocally contactId messageIds)) :
    Orderly (s.deleteMessagesLocally contactId messageIds) := by
  unfold Tab.deleteMessagesLocally
  split
  · exact h
  · rename_i hdeletable
    refine h.of_backed rfl rfl rfl fun attempt hmem => ?_
    obtain ⟨entry, hentry, hid, hdelivered⟩ := h.undelivered hmem
    refine ⟨entry, List.mem_filter.mpr ⟨hentry, decide_eq_true ?_⟩, hid, hdelivered⟩
    rw [hid]
    exact hallowed hdeletable attempt hmem

theorem undelivered_dropContact {conversations : Conversations} {contacts : List Contact}
    {cleanups : List (String × Bool)} {contactId messageId : String}
    (h : ∃ entry ∈ s.outbox.entries,
      (entry.messageId = messageId ∧ entry.deliveredAt = none) ∧ entry.contactId ≠ contactId) :
    Undelivered { s with
      contacts, conversations, cleanups, outbox := s.outbox.dropContact contactId } messageId := by
  obtain ⟨entry, hentry, hundelivered, hcontact⟩ := h
  exact ⟨entry, List.mem_filter.mpr ⟨hentry, decide_eq_true hcontact⟩, hundelivered⟩

theorem undelivered_of_receipt {contactId targetDeliveryId messageId : String}
    (h : s.Undelivered messageId) (kind : ReceiptKind) (now : Nat)
    (hother : s.receiptMessage contactId targetDeliveryId ≠ some messageId) :
    (s.receipt contactId kind targetDeliveryId now).Undelivered messageId := by
  obtain ⟨entry, hentry, rfl, hdelivered⟩ := h
  unfold receipt
  split
  · exact ⟨entry, hentry, rfl, hdelivered⟩
  · rename_i found hfound
    have hne : entry.messageId ≠ found := fun heq => hother (heq ▸ hfound)
    cases kind with
    | delivered =>
      refine ⟨entry, ?_, rfl, hdelivered⟩
      change entry ∈ (s.outbox.markOutboxMessageDelivered found now).entries
      unfold MessageOutbox.markOutboxMessageDelivered
      split
      · exact hentry
      · refine List.mem_map.mpr ⟨entry, hentry, ?_⟩
        rw [if_neg hne]
    | read => exact ⟨entry, MessageOutbox.mem_without.mpr ⟨hentry, hne⟩, rfl, hdelivered⟩

theorem Orderly.receipt (h : Orderly s) (contactId : String) (kind : ReceiptKind)
    (targetDeliveryId : String) (now : Nat)
    (hallowed : LeavesDrain s (.receipt contactId kind targetDeliveryId now)) :
    Orderly (s.receipt contactId kind targetDeliveryId now) := by
  have hsame : (s.receipt contactId kind targetDeliveryId now).runtime = s.runtime ∧
      (s.receipt contactId kind targetDeliveryId now).inFlight = s.inFlight ∧
        (s.receipt contactId kind targetDeliveryId now).attempts = s.attempts := by
    unfold Tab.receipt
    split
    · exact ⟨rfl, rfl, rfl⟩
    · cases kind with
      | delivered => exact ⟨rfl, rfl, rfl⟩
      | read => exact ⟨rfl, rfl, rfl⟩
  refine h.of_backed hsame.1 hsame.2.1 hsame.2.2 fun attempt hmem => ?_
  exact undelivered_of_receipt (h.undelivered hmem) kind now (hallowed attempt hmem)

theorem Orderly.inFlight_clearDelivery (h : Orderly s) {r : OutboxRuntime} {deliveryId : String}
    (hr : s.runtime = some r) (hactive : r.activeDeliveryId = some deliveryId)
    (hnot : deliveryId ∉ s.suspended) : (s.clearDelivery deliveryId).inFlight = [] := by
  have honly : ∀ other ∈ s.inFlight, other = deliveryId := by
    intro other hmem
    have hother := h.carries.active r hr other hmem
    rw [hactive] at hother
    exact (Option.some.inj hother).symm
  refine List.eq_nil_iff_forall_not_mem.mpr fun other hmem => ?_
  unfold suspended at hnot
  unfold inFlight sent at hmem honly
  rw [List.append_nil] at hmem honly
  rcases List.mem_append.mp hmem with hmem | hmem
  · obtain rfl := honly other (List.mem_append_left _ hmem)
    exact hnot (List.mem_append_left _ hmem)
  · rcases List.mem_append.mp hmem with hmem | hmem
    · obtain rfl := honly other (List.mem_append_right _ (List.mem_append_left _ hmem))
      exact hnot (List.mem_append_right _ hmem)
    · obtain ⟨hkey, hne⟩ := InsertionMap.mem_keys_delete.mp hmem
      exact hne (honly other (List.mem_append_right _ (List.mem_append_right _ hkey)))

theorem subperm_sent_clearDelivery (s : Tab) (deliveryId : String) :
    List.Subperm ((s.clearDelivery deliveryId).sent []) (s.sent []) := by
  unfold sent
  refine (List.subperm_append_left _).mpr ?_
  exact (InsertionMap.keys_filter_sublist _ _).subperm

theorem Orderly.clearDelivery (h : Orderly s) (deliveryId : String) :
    Orderly (s.clearDelivery deliveryId) :=
  h.congr rfl rfl rfl (subperm_sent_clearDelivery s deliveryId)

theorem clearDelivery_eq_self {deliveryId : String}
    (h : s.trackedDeliveries.get? deliveryId = none) :
    (s.clearDelivery deliveryId).inFlight = s.inFlight := by
  have hkey : deliveryId ∉ s.trackedDeliveries.keys := by
    rw [InsertionMap.mem_keys_iff, InsertionMap.has, h]
    exact Bool.false_ne_true
  unfold inFlight sent
  change _ ++ (_ ++ (s.trackedDeliveries.delete deliveryId).keys) = _
  rw [InsertionMap.keys_delete, List.filter_eq_self.mpr]
  · rfl
  · intro other hother
    refine decide_eq_true ?_
    rintro rfl
    exact hkey hother

theorem Orderly.advance {deliveryId : String} (h : Orderly s)
    (hlast : ∀ r, s.runtime = some r → r.activeDeliveryId = some deliveryId → s.inFlight = []) :
    Orderly (s.advanceMessageOutboxDrainAfterRelayForwarded deliveryId) := by
  unfold advanceMessageOutboxDrainAfterRelayForwarded
  split
  · exact h
  · rename_i r hr
    split
    · exact h
    · rename_i hactive
      rw [ne_eq, not_not] at hactive
      have hnil := hlast r hr hactive
      exact orderly_of_inFlight_eq_nil hnil

theorem Orderly.relayAck (h : Orderly s) (deliveryId : String) (ackType : AckType)
    (hallowed : LeavesDrain s (.relayAck deliveryId ackType)) :
    Orderly (s.relayAck deliveryId ackType) := by
  have hrelayed : ∀ delivery : DrainDelivery, Orderly ((s.setMessageDeliveryState
      delivery.contactId delivery.messageId .relayed).clearDelivery deliveryId) := by
    intro delivery
    have hset : Orderly (s.setMessageDeliveryState delivery.contactId delivery.messageId
      .relayed) := h.congr rfl rfl rfl (List.Subperm.refl _)
    exact hset.clearDelivery deliveryId
  unfold Tab.relayAck
  cases ackType with
  | accepted =>
    dsimp only
    split
    · exact h
    · exact hrelayed _
  | forwarded =>
    dsimp only
    split
    · rename_i hnone
      refine h.advance fun r hr hactive => ?_
      rw [← clearDelivery_eq_self hnone]
      exact h.inFlight_clearDelivery hr hactive (hallowed r hr hactive)
    · exact (hrelayed _).advance fun r hr hactive =>
        h.inFlight_clearDelivery hr hactive (hallowed r hr hactive)

theorem Orderly.restart (h : Orderly s) (contactId : String) (visible : Bool) (now : Nat)
    (hallowed : LeavesDrain s (.presencePong contactId visible now)) :
    Orderly (s.restartMessageOutboxDrainAfterPresencePong contactId visible now) := by
  unfold restartMessageOutboxDrainAfterPresencePong
  split
  · exact h
  · rename_i r hr
    split
    · exact h
    · rename_i deliveryId hactive
      split
      · exact h
      · rename_i hother
        rw [not_or, ne_eq, not_not, Bool.not_eq_false] at hother
        have hnil := h.inFlight_clearDelivery hr hactive
          (hallowed r deliveryId hr hactive hother.2 hother.1)
        refine orderly_of_inFlight_eq_nil ?_
        rw [← hnil]
        dsimp only
        split
        · rfl
        · rfl

theorem inFlight_foldl_settle (l : List StoredOutboxEntry) (s : Tab) :
    (l.foldl (fun s entry => s.settleOutboxMessage entry.messageId) s).inFlight = s.inFlight := by
  induction l generalizing s with
  | nil => rfl
  | cons entry l ih => exact ih (s.settleOutboxMessage entry.messageId)

theorem Orderly.run (h : Orderly s) (env : RunEnvironment) : Orderly (s.run env) := by
  generalize hran : s.run env = s'
  have hcases := ran_run s env
  rw [hran] at hcases
  cases hcases with
  | idle => exact h
  | expired hr hfree _ =>
    refine orderly_of_inFlight_eq_nil ?_
    rw [inFlight_foldl_settle]
    exact h.inFlight_eq_nil hr hfree
  | waiting hr hfree _ => exact orderly_of_inFlight_eq_nil (h.inFlight_eq_nil hr hfree)
  | @drained r r' due _ hr _ hfree _ _ hnext houtcome =>
    have hnil := h.inFlight_eq_nil hr hfree
    cases houtcome with
    | orphan _ => exact orderly_of_inFlight_eq_nil hnil
    | expired _ => exact orderly_of_inFlight_eq_nil hnil
    | deferred =>
      refine orderly_of_inFlight_eq_nil ?_
      rw [← hnil]
      unfold defer
      dsimp only
      split
      · rfl
      · rfl
    | started peerId =>
      obtain ⟨hattempts, hsent⟩ := List.append_eq_nil_iff.mp hnil
      rw [List.map_eq_nil_iff] at hattempts
      constructor
      · have hinFlight : (startAttempt { s with runtime := some r' } r' due peerId
            env).inFlight = [env.deliveryId] := by
          unfold inFlight
          change List.map _ (s.attempts ++ _) ++ s.sent [] = _
          rw [hattempts, hsent]
          rfl
        rw [hinFlight]
        refine ⟨Nat.le_refl 1, fun r₁ hr₁ deliveryId hmem => ?_⟩
        rw [List.mem_singleton.mp hmem]
        unfold startAttempt at hr₁
        rw [← Option.some.inj hr₁]
      · intro attempt hmem _
        change attempt ∈ s.attempts ++ _ at hmem
        rw [hattempts, List.nil_append, List.mem_singleton] at hmem
        rw [hmem]
        refine ⟨_, MessageOutbox.mem_entries_queueMessage_self _ _, rfl, ?_⟩
        exact (mem_of_next hnext).2

theorem subperm_sent_of_direct {direct : List RTCDirectPending}
    (h : List.Sublist direct s.direct) :
    List.Subperm (sent { s with direct } []) (s.sent []) := by
  unfold sent
  refine (List.subperm_append_right _).mpr (List.Sublist.subperm ?_)
  rw [List.append_nil, List.append_nil]
  exact (h.filter _).map _

theorem sent_control (s : Tab) (peerId deliveryId : String) :
    s.sent [{ peerId, deliveryId, delivery := none }] = s.sent [] := by
  unfold sent
  rw [drained_append, drained_append, drained_cons_none rfl]

theorem orderly_step (h : Orderly s) (e : TabEvent) (hallowed : LeavesDrain s e) :
    Orderly (s.step e) := by
  cases e with
  | sendBody composition => exact h.sendBody composition hallowed
  | appendMessage message => exact h.congr rfl rfl rfl (List.Subperm.refl _)
  | replaceConversationWindow contactId messages =>
    exact h.congr rfl rfl rfl (List.Subperm.refl _)
  | deleteMessagesLocally contactId messageIds =>
    exact h.deleteMessagesLocally contactId messageIds hallowed
  | clearLocalConversation contactId =>
    exact h.of_backed rfl rfl rfl fun attempt hmem =>
      undelivered_dropContact (hallowed attempt hmem)
  | upsertContact contact => exact h.congr rfl rfl rfl (List.Subperm.refl _)
  | forgetContact contactId =>
    exact h.of_backed rfl rfl rfl fun attempt hmem =>
      undelivered_dropContact (hallowed attempt hmem)
  | storeImage projection => exact h.congr rfl rfl rfl (List.Subperm.refl _)
  | settleMessageWrite position completes now =>
    change Orderly (s.settleMessageWrite position completes now)
    unfold settleMessageWrite
    dsimp only
    split
    · split
      · exact h.congr rfl rfl rfl (List.Subperm.refl _)
      · exact h.congr rfl rfl rfl (List.Subperm.refl _)
    · exact h.congr rfl rfl rfl (List.Subperm.refl _)
  | settleOutboxWrite position completes =>
    refine h.congr rfl ?_ rfl (List.Subperm.refl _)
    exact s.outbox.entries_settleWrite position completes
  | settleCleanup position now =>
    change Orderly (s.settleCleanup position now)
    unfold settleCleanup
    split
    · exact h
    · exact h.congr rfl rfl rfl (List.Subperm.refl _)
  | reload => exact orderly_of_inFlight_eq_nil rfl
  | leaveRoute =>
    change Orderly s.takeTrackedDeliveries
    obtain ⟨conversations, heq⟩ := takeTrackedDeliveries_eq s
    rw [heq]
    refine h.congr rfl rfl rfl ((List.subperm_append_left _).mpr ?_)
    exact List.nil_subperm
  | attachRelaySession =>
    exact h.congr rfl rfl rfl ((List.subperm_append_left _).mpr List.nil_subperm)
  | attachFailed =>
    exact h.congr rfl rfl rfl ((List.subperm_append_left _).mpr List.nil_subperm)
  | attached =>
    change Orderly s.attached
    unfold Tab.attached
    split
    · rename_i client hsession
      exact orderly_of_inFlight_eq_nil (hallowed client hsession)
    · exact h
  | disconnected =>
    change Orderly s.disconnected
    unfold Tab.disconnected
    obtain ⟨conversations, heq⟩ := takeTrackedDeliveries_eq { s with runtime := none }
    rw [heq]
    constructor
    · refine ⟨?_, fun r hr => absurd hr (by simp [disconnectRelaySession])⟩
      refine List.Subperm.length_le ?_ |>.trans h.carries.length_le
      exact (List.subperm_append_left _).mpr
        ((List.subperm_append_left _).mpr List.nil_subperm)
    · exact h.backed
  | relayAck deliveryId ackType => exact h.relayAck deliveryId ackType hallowed
  | deliveryTimeout deliveryId now =>
    change Orderly (s.expireDelivery deliveryId now)
    unfold expireDelivery
    split
    · exact h
    · rename_i delivery hget
      have hkey : deliveryId ∈ s.trackedDeliveries.keys := by
        rw [InsertionMap.mem_keys_iff, InsertionMap.has, hget]
        rfl
      have hsent : s.Carries (s.sent []) :=
        h.carries.of_subperm rfl (List.sublist_append_right _ _).subperm
      have hattempts := h.attempts_eq_nil
        (List.ne_nil_of_mem (List.mem_append_right _ hkey))
      refine orderly_of_inFlight_eq_nil ?_
      unfold inFlight
      rw [unaffected_attempts.stopActiveDrain, sent_stopActiveDrain,
        sent_clearDelivery hsent hkey]
      change s.attempts.map _ ++ [] = []
      rw [hattempts]
      rfl
  | run env => exact h.run env
  | targetSaved deliveryId saved encodes now => exact h.targetSaved deliveryId saved encodes now
  | sealed deliveryId outcome => exact h.sealed deliveryId outcome
  | installSender peerId sender now =>
    have hfallback := h.fallbackWhere (fun pending => pending.peerId = peerId) now
    exact hfallback.congr rfl rfl rfl (List.Subperm.refl _)
  | rtcAdmit peerId rtcSessionId deliveryId =>
    change Orderly (s.admitDelivery peerId rtcSessionId deliveryId)
    unfold admitDelivery
    split
    · exact h
    · split
      · exact h
      · exact h.congr rfl rfl rfl (subperm_sent_of_direct List.filter_sublist)
  | rtcTimeout peerId deliveryId now => exact h.fallbackWhere _ now
  | sendControl peerId deliveryId channel now =>
    have hlength := h.length_sent_le
    rw [← sent_control s peerId deliveryId] at hlength
    obtain ⟨trackedDeliveries, direct, senders, heq, hsub⟩ :=
      sendLiveRTCData_eq hlength channel now
    change Orderly (s.sendLiveRTCData { peerId, deliveryId, delivery := none } channel now).1
    rw [heq]
    refine h.congr rfl rfl rfl ?_
    rw [← sent_control s peerId deliveryId]
    split at hsub
    · exact hsub
    · rw [sent_control] at hsub
      exact hsub
  | receipt contactId kind targetDeliveryId now =>
    exact h.receipt contactId kind targetDeliveryId now hallowed
  | presencePong contactId visible now => exact h.restart contactId visible now hallowed

theorem length_outstanding_le (h : Orderly s) : s.outstanding.length ≤ 1 := by
  have hsub : List.Sublist (s.sealing ++ s.sent []) s.inFlight :=
    List.Sublist.append_right (List.filter_sublist.map _) _
  have hle := hsub.length_le.trans h.carries.length_le
  unfold outstanding
  rw [List.length_append]
  cases hactive : s.runtime.bind OutboxRuntime.activeDeliveryId with
  | none => simpa using hle
  | some deliveryId =>
    by_cases hmem : deliveryId ∈ s.inFlight
    · simpa [Option.filter, hmem] using hle
    · obtain ⟨r, hr, hd⟩ := Option.bind_eq_some_iff.mp hactive
      have hnil : s.inFlight = [] := by
        refine List.eq_nil_iff_forall_not_mem.mpr fun other hother => hmem ?_
        have hother' := h.carries.active r hr other hother
        rw [hd] at hother'
        rw [Option.some.inj hother']
        exact hother
      rw [hnil] at hsub
      rw [List.sublist_nil.mp hsub]
      simp [hnil]

def Seals (s : Tab) (e : TabEvent) (attempt : Attempt) : Prop :=
  attempt ∈ s.waits ∧ ∃ client, { attempt with phase := .sealing client } ∈ (s.step e).attempts

/-- The message whose payload is sealed is in the outbox and was not delivered. -/
def SealsUndelivered (s : Tab) (e : TabEvent) : Prop :=
  ∀ attempt, s.Seals e attempt → s.Undelivered attempt.delivery.messageId

end Step

/-- In a run in which nothing comes between the drain and its entry, what is sealed is in the
outbox and was not delivered, and one envelope of the drain is outstanding at most. -/
theorem drained_envelopes {s : Tab} {events : List TabEvent} (hs : s.inFlight = [])
    (h : Trace.Meets step LeavesDrain s events) :
    Trace.Meets step SealsUndelivered s events ∧
      ∀ xs, xs <+: events → (Trace.run step s xs).outstanding.length ≤ 1 := by
  have hstep : ∀ s e, Orderly s → LeavesDrain s e → Orderly (s.step e) ∧ SealsUndelivered s e :=
    fun s e horderly hallowed =>
      ⟨orderly_step horderly e hallowed, fun _ hseals => horderly.undelivered hseals.1⟩
  have horderly := orderly_of_inFlight_eq_nil hs
  refine ⟨Trace.meets_of_meets hstep horderly h, ?_⟩
  rintro xs ⟨ys, rfl⟩
  have hinit := ((Trace.meets_append step LeavesDrain s xs ys).mp h).1
  exact length_outstanding_le (Trace.invariant_of_meets
    (fun s e horderly hallowed => (hstep s e horderly hallowed).1) horderly hinit)

theorem drained_envelopes_firstDelivery :
    (Trace.run step {} (written ++ firstDelivery)).outstanding = ["d1"] ∧
      Trace.Meets step SealsUndelivered {} (written ++ firstDelivery) ∧
        ∀ xs, xs <+: written ++ firstDelivery →
          (Trace.run step {} xs).outstanding.length ≤ 1 := by
  refine ⟨by decide +kernel, drained_envelopes rfl ?_⟩
  refine ⟨trivial, fun _ attempt hmem => ?_, trivial, fun _ _ => ?_, trivial, trivial, trivial,
    trivial⟩
  · cases hmem
  · decide +kernel

/-- The user deletes the message while the drain waits for the database. -/
def deletedMeanwhile : List TabEvent :=
  written ++ [.attachRelaySession, .attached, foregroundRun 2 "d1",
    .deleteMessagesLocally "alice" ["m1"], .targetSaved "d1" true true 3]

/-- The contact shows up while the drain waits for the database, so that another run begins. -/
def pongMeanwhile : List TabEvent :=
  written ++ [.attachRelaySession, .attached, foregroundRun 2 "d1",
    .presencePong "alice" true 3, .targetSaved "d1" true true 3, .sealed "d1" (smoothly 3),
    foregroundRun 3 "d2", .targetSaved "d2" true true 3]

theorem not_drained_envelopes :
    (¬ ∀ (s : Tab) (events : List TabEvent), s.inFlight = [] →
      Trace.Meets step SealsUndelivered s events) ∧
    ¬ ∀ (s : Tab) (events : List TabEvent), s.inFlight = [] →
      (Trace.run step s events).outstanding.length ≤ 1 := by
  constructor
  · intro h
    have hlast := ((Trace.meets_snoc step SealsUndelivered {} (deletedMeanwhile.dropLast)
      (.targetSaved "d1" true true 3)).mp (h {} deletedMeanwhile rfl)).2
    have hempty : (Trace.run step {} deletedMeanwhile.dropLast).outbox.entries = [] := by
      decide +kernel
    obtain ⟨entry, hentry, -⟩ := hlast {
      deliveryId := "d1"
      delivery := { client := 0, contactId := "alice", messageId := "m1", attempts := 1 }
      recipientPeerId := "peer"
      phase := .savingTarget } ⟨by decide +kernel, 0, by decide +kernel⟩
    rw [hempty] at hentry
    cases hentry
  · intro h
    have hlength := h {} pongMeanwhile rfl
    revert hlength
    decide +kernel

end Tab

end Branch.Pwa
