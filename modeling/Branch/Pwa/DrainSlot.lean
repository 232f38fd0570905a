import Branch.Lib.Trace
import Branch.Pwa.Tab

/-!
The slot of the drain: while a delivery holds it, something is on its way that gives it back.
-/

namespace Branch.Pwa

open Branch.Lib

namespace Tab

/-- Something is on its way for the delivery: its timer, an attempt on a direct channel, which
falls back to the relay, or the sealing of its payload. -/
def Armed (s : Tab) (pendings : List RTCDirectPending) (deliveryId : String) : Prop :=
  deliveryId ∈ s.trackedDeliveries.keys ∨
    (∃ pending ∈ pendings, pending.deliveryId = deliveryId ∧ pending.delivery.isSome = true) ∨
    ∃ attempt ∈ s.attempts, attempt.deliveryId = deliveryId

def slot (s : Tab) : Option String :=
  match s.runtime with
  | none => none
  | some r => if s.attachedTo r.client then r.activeDeliveryId else none

theorem slot_eq_some_iff {s : Tab} {deliveryId : String} :
    s.slot = some deliveryId ↔ ∃ r, s.runtime = some r ∧
      r.activeDeliveryId = some deliveryId ∧ s.attachedTo r.client = true := by
  unfold slot
  cases s.runtime with
  | none => simp
  | some r =>
    by_cases h : s.attachedTo r.client = true
    · simp [h]
    · simp [h]

/-- What is on its way for the delivery belongs to the drain of one client. -/
structure Owned (s : Tab) (pendings : List RTCDirectPending) (client : Nat)
    (deliveryId : String) : Prop where
  tracked : ∀ delivery, s.trackedDeliveries.get? deliveryId = some delivery →
    delivery.client = client
  direct : ∀ pending ∈ pendings, pending.deliveryId = deliveryId →
    ∀ delivery, pending.delivery = some delivery → delivery.client = client
  attempts : ∀ attempt ∈ s.attempts, attempt.deliveryId = deliveryId →
    attempt.delivery.client = client

/-- The slot of an attached drain is held for what is on its way. Some attempts may be about to
fall back. -/
def Held (s : Tab) (falling : List RTCDirectPending) : Prop :=
  ∀ r deliveryId, s.runtime = some r → r.activeDeliveryId = some deliveryId →
    s.attachedTo r.client = true →
      Armed s (s.direct ++ falling) deliveryId ∧
        Owned s (s.direct ++ falling) r.client deliveryId

section Release

variable {s : Tab} {falling : List RTCDirectPending} {deliveryId : String}
  {delivery : DrainDelivery} {pending : RTCDirectPending} {attempt : Attempt}

theorem Held.congr {s' : Tab} (h : Held s falling) (hruntime : s'.runtime = s.runtime)
    (hsession : s'.session = s.session) (htracked : s'.trackedDeliveries = s.trackedDeliveries)
    (hdirect : s'.direct = s.direct) (hattempts : s'.attempts = s.attempts) :
    Held s' falling := by
  intro r d hr hd hattached
  rw [hruntime] at hr
  have hattached : s.attachedTo r.client = true := by
    unfold attachedTo at hattached ⊢
    rw [← hsession]
    exact hattached
  obtain ⟨harmed, howned⟩ := h r d hr hd hattached
  unfold Armed
  rw [hdirect, htracked, hattempts]
  refine ⟨harmed, ?_, ?_, ?_⟩
  · rw [htracked]
    exact howned.tracked
  · exact howned.direct
  · rw [hattempts]
    exact howned.attempts

theorem held_of_runtime_eq_none (h : s.runtime = none) : Held s falling := by
  intro r d hr
  rw [h] at hr
  cases hr

theorem held_of_released {r : OutboxRuntime} (h : s.runtime = some r)
    (hreleased : r.activeDeliveryId = none) : Held s falling := by
  intro r' d hr hd
  rw [h] at hr
  rw [← Option.some.inj hr, hreleased] at hd
  cases hd

theorem stopActiveDrain_cases (s : Tab) (deliveryId : String) (delivery : DrainDelivery)
    (now : Nat) :
    (s.stopActiveDrain deliveryId delivery now = s ∧
      ∀ r, s.runtime = some r → r.client = delivery.client →
        r.activeDeliveryId ≠ some deliveryId) ∨
      ∃ outbox r, s.stopActiveDrain deliveryId delivery now =
        { s with outbox, runtime := some r } ∧ r.activeDeliveryId = none := by
  unfold stopActiveDrain
  split
  · rename_i hnone
    refine .inl ⟨rfl, fun r hr => ?_⟩
    rw [hnone] at hr
    cases hr
  · rename_i r hsome
    split
    · rename_i hother
      refine .inl ⟨rfl, fun r' hr hclient hactive => ?_⟩
      rw [hsome] at hr
      obtain rfl := Option.some.inj hr
      rcases hother with hother | hother
      · exact hother hclient
      · exact hother hactive
    · exact .inr ⟨_, _, rfl, rfl⟩

theorem Held.stopActiveDrain (h : Held s falling) (deliveryId : String)
    (delivery : DrainDelivery) (now : Nat) :
    Held (s.stopActiveDrain deliveryId delivery now) falling := by
  rcases stopActiveDrain_cases s deliveryId delivery now with ⟨heq, -⟩ | ⟨outbox, r, heq, hr⟩
  · rw [heq]
    exact h
  · rw [heq]
    exact held_of_released rfl hr

theorem Armed.clearDelivery_of_ne {pendings : List RTCDirectPending} {other : String}
    (h : Armed s pendings deliveryId) (hne : deliveryId ≠ other) :
    Armed (s.clearDelivery other) pendings deliveryId := by
  rcases h with h | h
  · exact .inl (InsertionMap.mem_keys_delete.mpr ⟨h, hne⟩)
  · exact .inr h

theorem Owned.clearDelivery {pendings : List RTCDirectPending} {client : Nat} (other : String)
    (h : Owned s pendings client deliveryId) :
    Owned (s.clearDelivery other) pendings client deliveryId :=
  ⟨fun delivery hget => h.tracked delivery (InsertionMap.get?_delete_eq_some_iff.mp hget).2,
    h.direct, h.attempts⟩

theorem Held.expireDelivery (h : Held s falling) (deliveryId : String) (now : Nat) :
    Held (s.expireDelivery deliveryId now) falling := by
  unfold Tab.expireDelivery
  split
  · exact h
  · rename_i delivery hget
    rcases stopActiveDrain_cases (s.clearDelivery deliveryId) deliveryId delivery now with
      ⟨heq, hother⟩ | ⟨outbox, r, heq, hr⟩
    · rw [heq]
      intro r d hr hd hattached
      obtain ⟨harmed, howned⟩ := h r d hr hd hattached
      refine ⟨harmed.clearDelivery_of_ne ?_, howned.clearDelivery deliveryId⟩
      rintro rfl
      exact hother r hr (howned.tracked delivery hget).symm hd
    · rw [heq]
      exact held_of_released rfl hr

theorem Held.evictOldestDelivery (h : Held s falling) (now : Nat) :
    Held (s.evictOldestDelivery now) falling := by
  unfold Tab.evictOldestDelivery
  split
  · split
    · exact h
    · exact h.expireDelivery _ now
  · exact h

end Release

section Falling

variable {s : Tab} {falling : List RTCDirectPending} {pending : RTCDirectPending}
  {delivery : DrainDelivery}

/-- An attempt that falls back is tracked instead. -/
theorem Held.trackDelivery (h : Held s (pending :: falling))
    (hpending : pending.delivery = some delivery) (now : Nat) :
    Held (s.trackDelivery pending.deliveryId delivery now) falling := by
  have hcleared : Held (s.clearDelivery pending.deliveryId) (pending :: falling) := by
    intro r d hr hd hattached
    obtain ⟨harmed, howned⟩ := h r d hr hd hattached
    refine ⟨?_, howned.clearDelivery _⟩
    by_cases hid : d = pending.deliveryId
    · refine .inr (.inl ⟨pending, ?_, hid.symm, ?_⟩)
      · exact List.mem_append_right _ List.mem_cons_self
      · rw [hpending]
        rfl
    · exact harmed.clearDelivery_of_ne hid
  have hevicted := hcleared.evictOldestDelivery now
  intro r d hr hd hattached
  obtain ⟨harmed, howned⟩ := hevicted r d hr hd hattached
  have hsub : ∀ other, other ∈ (s.trackDelivery pending.deliveryId delivery now).direct ++ falling →
      other ∈ ((s.clearDelivery pending.deliveryId).evictOldestDelivery now).direct ++
        pending :: falling := by
    intro other hother
    rcases List.mem_append.mp hother with hother | hother
    · exact List.mem_append_left _ hother
    · exact List.mem_append_right _ (List.mem_cons_of_mem _ hother)
  refine ⟨?_, ?_, fun other hother => howned.direct other (hsub other hother), howned.attempts⟩
  · by_cases hid : d = pending.deliveryId
    · exact .inl (InsertionMap.mem_keys_set.mpr (.inl hid))
    · rcases harmed with htracked | ⟨other, hother, hotherid, hsome⟩ | hattempt
      · exact .inl (InsertionMap.mem_keys_set.mpr (.inr htracked))
      · refine .inr (.inl ⟨other, ?_, hotherid, hsome⟩)
        rcases List.mem_append.mp hother with hother | hother
        · exact List.mem_append_left _ hother
        · rcases List.mem_cons.mp hother with rfl | hother
          · exact absurd hotherid.symm hid
          · exact List.mem_append_right _ hother
      · exact .inr (.inr hattempt)
  · intro found hfound
    rcases InsertionMap.mem_entries_set (InsertionMap.get?_eq_some_iff.mp hfound) with
      ⟨hid, rfl⟩ | hold
    · exact howned.direct pending (List.mem_append_right _ List.mem_cons_self) hid.symm _ hpending
    · exact howned.tracked found (InsertionMap.get?_eq_some_iff.mpr hold)

theorem mem_keys_trackDelivery (s : Tab) (deliveryId : String) (delivery : DrainDelivery)
    (now : Nat) : deliveryId ∈ (s.trackDelivery deliveryId delivery now).trackedDeliveries.keys :=
  InsertionMap.mem_keys_set.mpr (.inl rfl)

theorem Held.of_control (h : Held s (pending :: falling)) (hpending : pending.delivery = none) :
    Held s falling := by
  intro r d hr hd hattached
  obtain ⟨harmed, howned⟩ := h r d hr hd hattached
  have hsub : ∀ other, other ∈ s.direct ++ falling → other ∈ s.direct ++ pending :: falling := by
    intro other hother
    rcases List.mem_append.mp hother with hother | hother
    · exact List.mem_append_left _ hother
    · exact List.mem_append_right _ (List.mem_cons_of_mem _ hother)
  refine ⟨?_, howned.tracked, fun other hother => howned.direct other (hsub other hother),
    howned.attempts⟩
  rcases harmed with htracked | ⟨other, hother, hotherid, hsome⟩ | hattempt
  · exact .inl htracked
  · refine .inr (.inl ⟨other, ?_, hotherid, hsome⟩)
    rcases List.mem_append.mp hother with hother | hother
    · exact List.mem_append_left _ hother
    · rcases List.mem_cons.mp hother with rfl | hother
      · rw [hpending] at hsome
        cases hsome
      · exact List.mem_append_right _ hother
  · exact .inr (.inr hattempt)

theorem Held.fallbackToWSS (h : Held s (pending :: falling)) (now : Nat) :
    Held (s.fallbackToWSS pending now) falling := by
  unfold Tab.fallbackToWSS
  split
  · rename_i hnone
    exact h.of_control hnone
  · rename_i delivery hsome
    exact h.trackDelivery hsome now

theorem Held.foldl_fallbackToWSS (l : List RTCDirectPending) {s : Tab}
    (h : Held s (l ++ falling)) (now : Nat) :
    Held (l.foldl (fun s pending => s.fallbackToWSS pending now) s) falling := by
  induction l generalizing s with
  | nil => exact h
  | cons pending l ih => exact ih (h.fallbackToWSS now)

theorem Held.moveFalling (h : Held s falling) (p : RTCDirectPending → Bool) :
    Held { s with direct := s.direct.filter fun pending => ¬ p pending }
      (s.direct.filter p ++ falling) := by
  have hmem : ∀ pending, pending ∈ (s.direct.filter fun pending => ¬ p pending) ++
      (s.direct.filter p ++ falling) ↔ pending ∈ s.direct ++ falling := by
    intro pending
    simp only [List.mem_append, List.mem_filter, decide_eq_true_eq]
    by_cases hp : p pending = true
    · simp [hp]
    · simp [hp]
  intro r d hr hd hattached
  obtain ⟨harmed, howned⟩ := h r d hr hd hattached
  refine ⟨?_, howned.tracked, fun pending hpending =>
    howned.direct pending ((hmem pending).mp hpending), howned.attempts⟩
  rcases harmed with htracked | ⟨pending, hpending, hrest⟩ | hattempt
  · exact .inl htracked
  · exact .inr (.inl ⟨pending, (hmem pending).mpr hpending, hrest⟩)
  · exact .inr (.inr hattempt)

theorem Held.fallbackWhere (h : Held s falling) (p : RTCDirectPending → Bool) (now : Nat) :
    Held (s.fallbackWhere p now) falling :=
  Held.foldl_fallbackToWSS _ (h.moveFalling p) now

theorem Held.sendLiveRTCData (h : Held s (pending :: falling)) (channel : ChannelSend)
    (now : Nat) :
    Held (s.sendLiveRTCData pending channel now).1
      (if (s.sendLiveRTCData pending channel now).2 then falling else pending :: falling) := by
  unfold Tab.sendLiveRTCData
  split
  · exact h
  · split
    · refine Held.fallbackWhere (s := { s with senders := _ }) ?_ _ now
      exact h.congr rfl rfl rfl rfl rfl
    · split
      · exact h
      · cases channel with
        | unencodable => exact h
        | failed => exact h.fallbackToWSS now
        | sent =>
          intro r d hr hd hattached
          obtain ⟨harmed, howned⟩ := h r d hr hd hattached
          have hassoc : s.direct ++ pending :: falling = s.direct ++ [pending] ++ falling := by
            rw [List.append_assoc, List.singleton_append]
          rw [hassoc] at harmed howned
          exact ⟨harmed, howned.tracked, howned.direct, howned.attempts⟩

theorem armed_sendLiveRTCData (s : Tab) (pending : RTCDirectPending)
    (hpending : pending.delivery = some delivery) (channel : ChannelSend) (now : Nat)
    (h : (s.sendLiveRTCData pending channel now).2 = true) :
    pending.deliveryId ∈ (s.sendLiveRTCData pending channel now).1.trackedDeliveries.keys ∨
      pending ∈ (s.sendLiveRTCData pending channel now).1.direct := by
  unfold Tab.sendLiveRTCData at h ⊢
  split
  · rename_i hnone
    simp [hnone] at h
  · rename_i sender hsender
    rw [hsender] at h
    dsimp only at h ⊢
    split
    · rename_i hexpired
      simp [hexpired] at h
    · rename_i hexpired
      rw [if_neg hexpired] at h
      split
      · rename_i hfull
        rw [if_pos hfull] at h
        cases h
      · rename_i hfull
        rw [if_neg hfull] at h
        cases channel with
        | unencodable => cases h
        | failed =>
          refine .inl ?_
          change pending.deliveryId ∈ (s.fallbackToWSS pending now).trackedDeliveries.keys
          unfold Tab.fallbackToWSS
          rw [hpending]
          exact mem_keys_trackDelivery s pending.deliveryId delivery now
        | sent => exact .inr (List.mem_append_right _ (List.mem_singleton.mpr rfl))

end Falling

section Attempts

variable {s : Tab} {attempt : Attempt}

theorem runtime_finishAttempt {r : OutboxRuntime}
    (h : (s.finishAttempt attempt).runtime = some r) :
    ∃ r', s.runtime = some r' ∧ r.activeDeliveryId = r'.activeDeliveryId ∧
      r.client = r'.client := by
  obtain ⟨r', hr', heq⟩ := Option.map_eq_some_iff.mp h
  refine ⟨r', hr', ?_⟩
  split at heq
  · rw [← heq]
    exact ⟨rfl, rfl⟩
  · rw [← heq]
    exact ⟨rfl, rfl⟩

theorem Held.finishAttempt (h : Held s [])
    (hother : ∀ r, s.runtime = some r → r.client = attempt.delivery.client →
      r.activeDeliveryId = some attempt.deliveryId →
        attempt.deliveryId ∈ s.trackedDeliveries.keys ∨
          ∃ pending ∈ s.direct, pending.deliveryId = attempt.deliveryId ∧
            pending.delivery.isSome = true) :
    Held (s.finishAttempt attempt) [] := by
  intro r d hr hd hattached
  obtain ⟨r', hr', hactive, hclient⟩ := runtime_finishAttempt hr
  rw [hactive] at hd
  rw [hclient] at hattached ⊢
  obtain ⟨harmed, howned⟩ := h r' d hr' hd hattached
  refine ⟨?_, howned.tracked, howned.direct, fun other hmem =>
    howned.attempts other (List.mem_of_mem_erase hmem)⟩
  rcases harmed with htracked | hpending | ⟨other, hmem, hid⟩
  · exact .inl htracked
  · exact .inr (.inl hpending)
  · by_cases heq : other = attempt
    · subst heq
      subst hid
      rcases hother r' hr' (howned.attempts other hmem rfl).symm hd with htracked | hpending
      · exact .inl htracked
      · refine .inr (.inl ?_)
        obtain ⟨pending, hpending, hrest⟩ := hpending
        exact ⟨pending, List.mem_append_left _ hpending, hrest⟩
    · exact .inr (.inr ⟨other, (List.mem_erase_of_ne heq).mpr hmem, hid⟩)

theorem Held.failAttempt (h : Held s []) (attempt : Attempt) (now : Nat) :
    Held (s.failAttempt attempt now) [] := by
  refine (h.stopActiveDrain attempt.deliveryId attempt.delivery now).finishAttempt ?_
  intro r hr hclient hactive
  rcases stopActiveDrain_cases s attempt.deliveryId attempt.delivery now with
    ⟨heq, hother⟩ | ⟨outbox, r', heq, hreleased⟩
  · rw [heq] at hr
    exact absurd hactive (hother r hr hclient)
  · rw [heq] at hr
    rw [← Option.some.inj hr, hreleased] at hactive
    cases hactive

theorem Held.targetSaved (h : Held s []) (deliveryId : String) (saved encodes : Bool)
    (now : Nat) : Held (s.targetSaved deliveryId saved encodes now) [] := by
  unfold Tab.targetSaved
  split
  · exact h
  · rename_i attempt hfind
    split
    · exact h.failAttempt attempt now
    · have hsaved : Held (s.saveStoredMessageDeliveryTarget attempt.delivery deliveryId now) [] :=
        h.congr rfl rfl rfl rfl rfl
      dsimp only
      split
      · split
        · exact hsaved.failAttempt attempt now
        · have hmem := List.mem_of_find?_eq_some hfind
          intro r d hr hd hattached
          obtain ⟨harmed, howned⟩ := h r d hr hd hattached
          refine ⟨?_, howned.tracked, howned.direct, ?_⟩
          · rcases harmed with htracked | hpending | ⟨other, hother, hid⟩
            · exact .inl htracked
            · exact .inr (.inl hpending)
            · refine .inr (.inr ?_)
              by_cases heq : other = attempt
              · exact ⟨_, List.mem_append_right _ (List.mem_singleton.mpr rfl), heq ▸ hid⟩
              · exact ⟨other, List.mem_append_left _ ((List.mem_erase_of_ne heq).mpr hother), hid⟩
          · intro other hother hid
            rcases List.mem_append.mp hother with hother | hother
            · exact howned.attempts other (List.mem_of_mem_erase hother) hid
            · rw [List.mem_singleton.mp hother] at hid ⊢
              exact howned.attempts attempt hmem hid
      · exact hsaved.failAttempt attempt now

theorem Held.addFalling (h : Held s [])
    (howned : ∀ delivery, pending.delivery = some delivery →
      ∃ attempt ∈ s.attempts, attempt.deliveryId = pending.deliveryId ∧
        attempt.delivery = delivery) : Held s [pending] := by
  intro r d hr hd hattached
  obtain ⟨harmed, hheld⟩ := h r d hr hd hattached
  rw [List.append_nil] at harmed hheld
  refine ⟨?_, hheld.tracked, ?_, hheld.attempts⟩
  · rcases harmed with htracked | ⟨other, hother, hrest⟩ | hattempt
    · exact .inl htracked
    · exact .inr (.inl ⟨other, List.mem_append_left _ hother, hrest⟩)
    · exact .inr (.inr hattempt)
  · intro other hother hid delivery hdelivery
    rcases List.mem_append.mp hother with hother | hother
    · exact hheld.direct other hother hid delivery hdelivery
    · obtain rfl := List.mem_singleton.mp hother
      obtain ⟨attempt, hmem, hsame, rfl⟩ := howned delivery hdelivery
      exact hheld.attempts attempt hmem (hsame.trans hid)

theorem Held.sealed (h : Held s []) (deliveryId : String) (outcome : SealOutcome) :
    Held (s.sealed deliveryId outcome) [] := by
  unfold Tab.sealed
  split
  · exact h
  · rename_i attempt hfind
    have hmem := List.mem_of_find?_eq_some hfind
    have hsome : (sealingOver deliveryId attempt).isSome = true := by
      simpa using List.find?_some hfind
    obtain rfl := deliveryId_of_sealingOver hsome
    split
    · exact h.failAttempt attempt outcome.now
    · have hfalling : Held s
          [{ peerId := attempt.recipientPeerId
             deliveryId := attempt.deliveryId
             delivery := some attempt.delivery }] :=
        h.addFalling fun _ heq => ⟨attempt, hmem, rfl, Option.some.inj heq⟩
      have hsend := hfalling.sendLiveRTCData outcome.channel outcome.now
      have harmed := armed_sendLiveRTCData s
        { peerId := attempt.recipientPeerId
          deliveryId := attempt.deliveryId
          delivery := some attempt.delivery }
        rfl outcome.channel outcome.now
      have hattempts := unaffected_attempts.sendLiveRTCData s outcome.now
        { peerId := attempt.recipientPeerId
          deliveryId := attempt.deliveryId
          delivery := some attempt.delivery } outcome.channel
      dsimp only
      split
      · rename_i s' heq
        rw [heq] at hsend harmed
        refine Held.finishAttempt hsend fun _ _ _ _ => ?_
        rcases harmed rfl with htracked | hpending
        · exact .inl htracked
        · exact .inr ⟨_, hpending, rfl, rfl⟩
      · rename_i s' heq
        rw [heq] at hsend hattempts
        have htracked := Held.trackDelivery hsend rfl outcome.now
        split
        · exact htracked.finishAttempt fun _ _ _ _ => .inl (mem_keys_trackDelivery _ _ _ _)
        · refine Held.failAttempt (s := Tab.clearDelivery _ _) ?_ attempt outcome.now
          intro r d hr hd hattached
          obtain ⟨harmed, howned⟩ := htracked r d hr hd hattached
          refine ⟨?_, howned.clearDelivery attempt.deliveryId⟩
          by_cases hid : d = attempt.deliveryId
          · refine .inr (.inr ⟨attempt, ?_, hid.symm⟩)
            change attempt ∈
              (s'.trackDelivery attempt.deliveryId attempt.delivery outcome.now).attempts
            rw [unaffected_attempts.trackDelivery s' attempt.deliveryId attempt.delivery
              outcome.now, hattempts]
            exact hmem
          · exact harmed.clearDelivery_of_ne hid

end Attempts

section Step

variable {s : Tab}

/-- The identifier of a new attempt is one that nothing on its way has. -/
def Fresh (s : Tab) (deliveryId : String) : Prop :=
  deliveryId ∉ s.trackedDeliveries.keys ∧
    (∀ pending ∈ s.direct, pending.deliveryId ≠ deliveryId) ∧
    ∀ attempt ∈ s.attempts, attempt.deliveryId ≠ deliveryId

/-- Nothing takes the delivery that holds the slot off its way without giving the slot back: the
peer does not admit it on a direct channel, the relay does not acknowledge it as accepted only,
and the tab does not leave its route while the delivery is tracked. -/
def ReleasesSlot (s : Tab) : TabEvent → Prop
  | .rtcAdmit peerId rtcSessionId deliveryId =>
    s.slot = some deliveryId →
      ∀ sender, s.senders.get? peerId = some sender → sender.rtcSessionId = rtcSessionId →
        ∀ pending ∈ s.direct, pending.delivery.isSome = true →
          isPending peerId deliveryId pending = false
  | .relayAck deliveryId .accepted =>
    s.slot = some deliveryId → deliveryId ∉ s.trackedDeliveries.keys
  | .leaveRoute =>
    ∀ deliveryId, s.slot = some deliveryId → deliveryId ∉ s.trackedDeliveries.keys
  | .run env => Fresh s env.deliveryId
  | _ => True

theorem Held.clearDelivery_of_notMem {falling : List RTCDirectPending} (h : Held s falling)
    {deliveryId : String}
    (hother : s.slot = some deliveryId → deliveryId ∉ s.trackedDeliveries.keys) :
    Held (s.clearDelivery deliveryId) falling := by
  intro r d hr hd hattached
  obtain ⟨harmed, howned⟩ := h r d hr hd hattached
  refine ⟨?_, howned.clearDelivery deliveryId⟩
  rcases harmed with htracked | hrest
  · refine .inl (InsertionMap.mem_keys_delete.mpr ⟨htracked, ?_⟩)
    rintro rfl
    exact hother (slot_eq_some_iff.mpr ⟨r, hr, hd, hattached⟩) htracked
  · exact .inr hrest

theorem held_advance {deliveryId : String}
    (h : (∀ r, s.runtime = some r → r.activeDeliveryId ≠ some deliveryId) → Held s []) :
    Held (s.advanceMessageOutboxDrainAfterRelayForwarded deliveryId) [] := by
  unfold advanceMessageOutboxDrainAfterRelayForwarded
  split
  · rename_i hnone
    exact held_of_runtime_eq_none hnone
  · rename_i r hr
    split
    · rename_i hactive
      refine h fun r' hr' => ?_
      have heq : some r' = some r := hr'.symm.trans hr
      rw [Option.some.inj heq]
      exact hactive
    · exact held_of_released rfl rfl

theorem held_relayAck (h : Held s []) (deliveryId : String) (ackType : AckType)
    (hallowed : ReleasesSlot s (.relayAck deliveryId ackType)) :
    Held (s.relayAck deliveryId ackType) [] := by
  have hset : ∀ delivery : DrainDelivery, Held (s.setMessageDeliveryState delivery.contactId
      delivery.messageId .relayed) [] := fun delivery => h.congr rfl rfl rfl rfl rfl
  unfold relayAck
  cases ackType with
  | accepted =>
    dsimp only
    split
    · exact h
    · exact (hset _).clearDelivery_of_notMem hallowed
  | forwarded =>
    refine held_advance fun hactive => ?_
    revert hactive
    split
    · exact fun _ => h
    · intro hactive
      refine (hset _).clearDelivery_of_notMem fun hslot => ?_
      obtain ⟨r, hr, hd, -⟩ := slot_eq_some_iff.mp hslot
      exact absurd hd (hactive r hr)

theorem held_takeTrackedDeliveries (h : Held s [])
    (hother : ∀ deliveryId, s.slot = some deliveryId →
      deliveryId ∉ s.trackedDeliveries.keys) : Held s.takeTrackedDeliveries [] := by
  obtain ⟨conversations, heq⟩ := takeTrackedDeliveries_eq s
  rw [heq]
  intro r d hr hd hattached
  obtain ⟨harmed, howned⟩ := h r d hr hd hattached
  refine ⟨?_, fun delivery hget => ?_, howned.direct, howned.attempts⟩
  · rcases harmed with htracked | hrest
    · exact absurd htracked (hother d (slot_eq_some_iff.mpr ⟨r, hr, hd, hattached⟩))
    · exact .inr hrest
  · cases hget

theorem held_startAttempt {r : OutboxRuntime} (due : StoredOutboxEntry) (peerId : String)
    {env : RunEnvironment} (hfresh : Fresh s env.deliveryId) :
    Held (s.startAttempt r due peerId env) [] := by
  obtain ⟨htracked, hdirect, hattempts⟩ := hfresh
  intro r' d hr hd hattached
  unfold startAttempt at hr
  rw [← Option.some.inj hr] at hd ⊢
  obtain rfl := Option.some.inj hd
  refine ⟨.inr (.inr ⟨_, List.mem_append_right _ (List.mem_singleton.mpr rfl), rfl⟩),
    fun delivery hget => ?_, fun pending hpending hid => ?_, fun attempt hattempt hid => ?_⟩
  · refine absurd (InsertionMap.mem_keys_iff.mpr ?_) htracked
    exact Option.isSome_iff_exists.mpr ⟨delivery, hget⟩
  · rw [List.append_nil] at hpending
    exact absurd hid (hdirect pending hpending)
  · rcases List.mem_append.mp hattempt with hattempt | hattempt
    · exact absurd hid (hattempts attempt hattempt)
    · rw [List.mem_singleton.mp hattempt]

theorem held_foldl_settle (h : Held s []) (l : List StoredOutboxEntry) :
    Held (l.foldl (fun s entry => s.settleOutboxMessage entry.messageId) s) [] := by
  induction l generalizing s with
  | nil => exact h
  | cons entry l ih => exact ih (h.congr rfl rfl rfl rfl rfl)

theorem held_run (h : Held s []) (env : RunEnvironment) (hfresh : Fresh s env.deliveryId) :
    Held (s.run env) [] := by
  generalize hran : s.run env = s'
  have hcases := ran_run s env
  rw [hran] at hcases
  cases hcases with
  | idle => exact h
  | expired _ _ hinactive => exact held_foldl_settle (held_of_released rfl hinactive) _
  | waiting _ _ hinactive => exact held_of_released rfl hinactive
  | drained _ _ _ hinactive _ _ houtcome =>
    cases houtcome with
    | orphan _ => exact held_of_released rfl hinactive
    | expired _ => exact held_of_released rfl hinactive
    | deferred =>
      refine held_of_released ?_ hinactive
      unfold defer
      dsimp only
      split
      · rfl
      · rfl
    | started peerId => exact held_startAttempt _ peerId hfresh

theorem held_admitDelivery (h : Held s []) (peerId rtcSessionId deliveryId : String)
    (hallowed : ReleasesSlot s (.rtcAdmit peerId rtcSessionId deliveryId)) :
    Held (s.admitDelivery peerId rtcSessionId deliveryId) [] := by
  unfold admitDelivery
  split
  · exact h
  · rename_i sender hsender
    split
    · exact h
    · rename_i hsession
      rw [Ne, not_not] at hsession
      intro r d hr hd hattached
      obtain ⟨harmed, howned⟩ := h r d hr hd hattached
      rw [List.append_nil] at harmed howned ⊢
      refine ⟨?_, howned.tracked, fun pending hpending =>
        howned.direct pending (List.mem_of_mem_filter hpending), howned.attempts⟩
      rcases harmed with htracked | ⟨pending, hpending, hid, hsome⟩ | hattempt
      · exact .inl htracked
      · refine .inr (.inl ⟨pending, List.mem_filter.mpr ⟨hpending, ?_⟩, hid, hsome⟩)
        rw [decide_eq_true_eq, Bool.not_eq_true]
        by_cases hpeer : d = deliveryId
        · have hslot := slot_eq_some_iff.mpr ⟨r, hr, hd, hattached⟩
          rw [hpeer] at hslot
          exact hallowed hslot sender hsender hsession pending hpending hsome
        · refine decide_eq_false fun hboth => hpeer ?_
          rw [← hid]
          exact hboth.2
      · exact .inr (.inr hattempt)

theorem held_restart (h : Held s []) (contactId : String) (visible : Bool) (now : Nat) :
    Held (s.restartMessageOutboxDrainAfterPresencePong contactId visible now) [] := by
  unfold restartMessageOutboxDrainAfterPresencePong
  split
  · exact h
  · split
    · exact h
    · split
      · exact h
      · exact held_of_released rfl rfl

theorem held_of_not_attached (h : ∀ client, s.attachedTo client = false) : Held s [] := by
  intro r d _ _ hattached
  rw [h] at hattached
  cases hattached

theorem held_sendControl (h : Held s []) (peerId deliveryId : String) (channel : ChannelSend)
    (now : Nat) :
    Held (s.sendLiveRTCData { peerId, deliveryId, delivery := none } channel now).1 [] := by
  have hfalling : Held s [{ peerId, deliveryId, delivery := none }] :=
    h.addFalling fun _ hnone => by cases hnone
  have hsend := hfalling.sendLiveRTCData channel now
  split at hsend
  · exact hsend
  · exact hsend.of_control rfl

theorem held_step (h : Held s []) (e : TabEvent) (hallowed : ReleasesSlot s e) :
    Held (s.step e) [] := by
  cases e with
  | sendBody composition =>
    change Held (s.sendBody composition) []
    unfold sendBody
    split
    · exact h
    · split
      · exact h
      · split
        · exact h
        · dsimp only
          split
          · exact h.congr rfl rfl rfl rfl rfl
          · exact h.congr rfl rfl rfl rfl rfl
  | appendMessage message => exact h.congr rfl rfl rfl rfl rfl
  | replaceConversationWindow contactId messages => exact h.congr rfl rfl rfl rfl rfl
  | deleteMessagesLocally contactId messageIds =>
    change Held (s.deleteMessagesLocally contactId messageIds) []
    unfold Tab.deleteMessagesLocally
    split
    · exact h
    · exact h.congr rfl rfl rfl rfl rfl
  | clearLocalConversation contactId => exact h.congr rfl rfl rfl rfl rfl
  | upsertContact contact => exact h.congr rfl rfl rfl rfl rfl
  | forgetContact contactId => exact h.congr rfl rfl rfl rfl rfl
  | storeImage projection => exact h.congr rfl rfl rfl rfl rfl
  | settleMessageWrite position completes now =>
    change Held (s.settleMessageWrite position completes now) []
    unfold settleMessageWrite
    dsimp only
    split
    · split
      · exact h.congr rfl rfl rfl rfl rfl
      · exact h.congr rfl rfl rfl rfl rfl
    · exact h.congr rfl rfl rfl rfl rfl
  | settleOutboxWrite position completes => exact h.congr rfl rfl rfl rfl rfl
  | settleCleanup position now =>
    change Held (s.settleCleanup position now) []
    unfold settleCleanup
    split
    · exact h
    · exact h.congr rfl rfl rfl rfl rfl
  | reload => exact held_of_runtime_eq_none rfl
  | leaveRoute => exact held_takeTrackedDeliveries h hallowed
  | attachRelaySession =>
    refine held_of_not_attached fun client => ?_
    change decide (some _ = some _) = false
    simp
  | attachFailed => exact held_of_not_attached fun client => rfl
  | attached =>
    change Held s.attached []
    unfold Tab.attached
    split
    · exact held_of_released rfl rfl
    · exact h
  | disconnected => exact held_of_not_attached fun client => rfl
  | relayAck deliveryId ackType => exact held_relayAck h deliveryId ackType hallowed
  | deliveryTimeout deliveryId now => exact h.expireDelivery deliveryId now
  | run env => exact held_run h env hallowed
  | targetSaved deliveryId saved encodes now => exact h.targetSaved deliveryId saved encodes now
  | sealed deliveryId outcome => exact h.sealed deliveryId outcome
  | installSender peerId sender now =>
    exact (h.fallbackWhere _ now).congr rfl rfl rfl rfl rfl
  | rtcAdmit peerId rtcSessionId deliveryId =>
    exact held_admitDelivery h peerId rtcSessionId deliveryId hallowed
  | rtcTimeout peerId deliveryId now => exact h.fallbackWhere _ now
  | sendControl peerId deliveryId channel now => exact held_sendControl h peerId deliveryId _ now
  | receipt contactId kind targetDeliveryId now =>
    change Held (s.receipt contactId kind targetDeliveryId now) []
    unfold receipt
    split
    · exact h
    · cases kind with
      | delivered => exact h.congr rfl rfl rfl rfl rfl
      | read => exact h.congr rfl rfl rfl rfl rfl
  | presencePong contactId visible now => exact held_restart h contactId visible now

end Step

/-- In a run in which nothing takes the active delivery off its way, something is on its way for
the delivery that holds the slot of the attached drain. -/
theorem armed_of_slot {s : Tab} {events : List TabEvent} (hs : s.runtime = none)
    (h : Trace.Meets step ReleasesSlot s events) :
    ∀ deliveryId, (Trace.run step s events).slot = some deliveryId →
      Armed (Trace.run step s events) (Trace.run step s events).direct deliveryId := by
  intro deliveryId hslot
  have hheld : Held (Trace.run step s events) [] :=
    Trace.invariant_of_meets (P := fun s => Held s [])
      (fun s e hs hallowed => held_step hs e hallowed) (held_of_runtime_eq_none hs) h
  obtain ⟨r, hr, hd, hattached⟩ := slot_eq_some_iff.mp hslot
  have harmed := (hheld r deliveryId hr hd hattached).1
  rw [List.append_nil] at harmed
  exact harmed

theorem armed_of_slot_firstDelivery :
    (Trace.run step {} (written ++ firstDelivery)).slot = some "d1" ∧
      Armed (Trace.run step {} (written ++ firstDelivery))
        (Trace.run step {} (written ++ firstDelivery)).direct "d1" := by
  have hslot : (Trace.run step {} (written ++ firstDelivery)).slot = some "d1" := by
    decide +kernel
  refine ⟨hslot, armed_of_slot rfl ?_ "d1" hslot⟩
  refine ⟨trivial, trivial, trivial, trivial, ⟨?_, ?_, ?_⟩, trivial, trivial, trivial⟩
  · decide +kernel
  · decide +kernel
  · decide +kernel

/-- The peer admits the message on the direct channel: nothing is left that frees the slot. -/
def admitted : List TabEvent :=
  written ++ .installSender "peer" { rtcSessionId := "rtc", expiresAt := 100 } 1 ::
    firstDelivery ++ [.rtcAdmit "peer" "rtc" "d1"]

theorem not_armed_of_slot_admitted :
    ¬ ∀ (s : Tab) (events : List TabEvent), s.runtime = none →
      ∀ deliveryId, (Trace.run step s events).slot = some deliveryId →
        Armed (Trace.run step s events) (Trace.run step s events).direct deliveryId := by
  intro h
  have hslot : (Trace.run step {} admitted).slot = some "d1" := by
    decide +kernel
  rcases h {} admitted rfl "d1" hslot with htracked | ⟨pending, hpending, -⟩ | ⟨attempt, hmem, -⟩
  · revert htracked
    decide +kernel
  · have hnone : (Trace.run step {} admitted).direct = [] := by
      decide +kernel
    rw [hnone] at hpending
    cases hpending
  · have hnone : (Trace.run step {} admitted).attempts = [] := by
      decide +kernel
    rw [hnone] at hmem
    cases hmem

end Tab

end Branch.Pwa
