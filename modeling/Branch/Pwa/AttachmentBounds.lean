import Branch.Core.TransferCompletion
import Branch.Pwa.AttachmentChanges

/-!
How many attachments are under way at a time, and what the controller knows of the deliveries
that wait for an acknowledgement.
-/

namespace Branch.Pwa

open Branch.Core Branch.Lib

def AttachmentOperation.prepares : AttachmentOperation → Bool
  | .hashingFile .. | .signingManifest .. => true
  | _ => false

theorem AttachmentOperation.offering_of_prepares {operation : AttachmentOperation}
    (h : operation.prepares = true) : operation.offering.isSome = true := by
  cases operation <;> first | rfl | cases h

def LiveTransfer.deliveries (t : LiveTransfer) :
    String × String × Bool × InsertionMap String Nat :=
  (t.peerId, t.manifestDeliveryId, t.manifestForwardTimeout, t.window.outstanding)

namespace AttachmentController

variable {s s' s'' : AttachmentController} {direction : AttachmentDirection}
  {peerId deliveryId : String} {r r' g i now : Nat} {t t' : LiveTransfer}
  {f : LiveTransfer → LiveTransfer} {operation operation' : AttachmentOperation}

def preparing (s : AttachmentController) : Nat :=
  s.operations.countP AttachmentOperation.prepares

def offers (s : AttachmentController) : Nat :=
  s.operations.countP fun operation => operation.offering.isSome

structure Outbound (s : AttachmentController) (r : Nat) (t : LiveTransfer) : Prop where
  live : s.live[r]? = some t
  listed : s.outbound.get? t.peerId = some r

/-- The manifest of an outbound transfer is not acknowledged. -/
def AwaitsManifest (s : AttachmentController) (r : Nat) (deliveryId : String) : Prop :=
  ∃ t, s.Outbound r t ∧ t.manifestForwardTimeout = true ∧ t.manifestDeliveryId = deliveryId

/-- A chunk of an outbound transfer is handed over and not acknowledged. -/
def AwaitsChunk (s : AttachmentController) (r : Nat) (deliveryId : String) : Prop :=
  ∃ t, s.Outbound r t ∧ t.window.outstanding.has deliveryId = true

/-- The two indexes have the deliveries of outbound transfers that are not acknowledged. -/
structure Indexed (s : AttachmentController) : Prop where
  manifests : ∀ {deliveryId r},
    s.manifestDeliveryToOutbound.get? deliveryId = some r ↔ s.AwaitsManifest r deliveryId
  chunks : ∀ {deliveryId r},
    s.deliveryToOutbound.get? deliveryId = some r ↔ s.AwaitsChunk r deliveryId

structure Deliveries (s : AttachmentController) : Prop extends Indexed s where
  distinct : ∀ {r r' t t'}, s.Outbound r t → s.Outbound r' t' →
    t.manifestDeliveryId = t'.manifestDeliveryId → r = r'

section Deliveries

theorem exists_live_of_map (hlive : s'.live.map LiveTransfer.deliveries =
      s.live.map LiveTransfer.deliveries) (hget : s'.live[r]? = some t') :
    ∃ t, s.live[r]? = some t ∧ t'.deliveries = t.deliveries := by
  have hmap : (s.live.map LiveTransfer.deliveries)[r]? = some t'.deliveries := by
    rw [← hlive, List.getElem?_map, hget]
    rfl
  rw [List.getElem?_map] at hmap
  obtain ⟨t, hget, hsame⟩ := Option.map_eq_some_iff.mp hmap
  exact ⟨t, hget, hsame.symm⟩

/-- The outbound transfers of the second controller are ones of the first, with the same
deliveries. -/
def Resembles (s s' : AttachmentController) : Prop :=
  ∀ {r t'}, s'.Outbound r t' → ∃ t, s.Outbound r t ∧ t'.deliveries = t.deliveries

theorem resembles_of_eq (hlive : s'.live.map LiveTransfer.deliveries =
      s.live.map LiveTransfer.deliveries) (houtbound : s'.outbound = s.outbound) :
    Resembles s s' := by
  intro r t' h
  obtain ⟨t, hget, hsame⟩ := exists_live_of_map hlive h.live
  have hpeerId : t'.peerId = t.peerId := congrArg Prod.fst hsame
  refine ⟨t, ⟨hget, ?_⟩, hsame⟩
  rw [← hpeerId, ← houtbound]
  exact h.listed

theorem Resembles.awaitsManifest (hback : Resembles s s')
    (h : s'.AwaitsManifest r deliveryId) : s.AwaitsManifest r deliveryId := by
  obtain ⟨t', hout', htimeout, hid⟩ := h
  obtain ⟨t, hout, hsame⟩ := hback hout'
  unfold LiveTransfer.deliveries at hsame
  simp only [Prod.mk.injEq] at hsame
  exact ⟨t, hout, hsame.2.2.1 ▸ htimeout, hsame.2.1 ▸ hid⟩

theorem Resembles.awaitsChunk (hback : Resembles s s') (h : s'.AwaitsChunk r deliveryId) :
    s.AwaitsChunk r deliveryId := by
  obtain ⟨t', hout', hhas⟩ := h
  obtain ⟨t, hout, hsame⟩ := hback hout'
  unfold LiveTransfer.deliveries at hsame
  simp only [Prod.mk.injEq] at hsame
  exact ⟨t, hout, hsame.2.2.2 ▸ hhas⟩

theorem Deliveries.of_resembles (h : s.Deliveries) (hback : Resembles s s')
    (hforth : Resembles s' s)
    (hmanifests : s'.manifestDeliveryToOutbound = s.manifestDeliveryToOutbound)
    (hchunks : s'.deliveryToOutbound = s.deliveryToOutbound) : s'.Deliveries := by
  constructor
  · constructor
    · intro deliveryId r
      rw [hmanifests, h.manifests]
      exact ⟨hforth.awaitsManifest, hback.awaitsManifest⟩
    · intro deliveryId r
      rw [hchunks, h.chunks]
      exact ⟨hforth.awaitsChunk, hback.awaitsChunk⟩
  · intro r r' t t' hout hout' heq
    obtain ⟨t₁, hout₁, hsame⟩ := hback hout
    obtain ⟨t₂, hout₂, hsame'⟩ := hback hout'
    refine h.distinct hout₁ hout₂ ?_
    have hid : t.manifestDeliveryId = t₁.manifestDeliveryId := congrArg (fun d => d.2.1) hsame
    have hid' : t'.manifestDeliveryId = t₂.manifestDeliveryId :=
      congrArg (fun d => d.2.1) hsame'
    exact hid.symm.trans (heq.trans hid')

theorem Deliveries.of_eq (h : s.Deliveries) (hlive : s'.live.map LiveTransfer.deliveries =
      s.live.map LiveTransfer.deliveries) (houtbound : s'.outbound = s.outbound)
    (hmanifests : s'.manifestDeliveryToOutbound = s.manifestDeliveryToOutbound)
    (hchunks : s'.deliveryToOutbound = s.deliveryToOutbound) : s'.Deliveries :=
  h.of_resembles (resembles_of_eq hlive houtbound) (resembles_of_eq hlive.symm houtbound.symm)
    hmanifests hchunks

theorem deliveries_init : ({} : AttachmentController).Deliveries := by
  have hnone : ∀ r t, ¬ ({} : AttachmentController).Outbound r t := by
    intro r t h
    cases h.live
  constructor
  · constructor
    · intro deliveryId r
      refine iff_of_false (fun h => by cases h) ?_
      rintro ⟨t, hout, -⟩
      exact hnone r t hout
    · intro deliveryId r
      refine iff_of_false (fun h => by cases h) ?_
      rintro ⟨t, hout, -⟩
      exact hnone r t hout
  · intro r r' t t' hout
    exact absurd hout (hnone r t)

theorem Deliveries.close (h : s.Deliveries) (hlisted : s.outbound.get? peerId = some r)
    (hget : s.live[r]? = some t) (hpeerId : t.peerId = peerId) :
    Deliveries { (s.forget t).update r .endedOutbound with
      outbound := s.outbound.delete peerId } := by
  have hout : s.Outbound r t := ⟨hget, hpeerId ▸ hlisted⟩
  -- What is in the table now are the others, as they were.
  have hrest : ∀ {r' t'}, Outbound { (s.forget t).update r .endedOutbound with
      outbound := s.outbound.delete peerId } r' t' ↔ s.Outbound r' t' ∧ r' ≠ r := by
    intro r' t'
    constructor
    · rintro ⟨hlive, hlisted'⟩
      have hlive : ((s.forget t).update r .endedOutbound).live[r']? = some t' := hlive
      have hlisted' : (s.outbound.delete peerId).get? t'.peerId = some r' := hlisted'
      rw [InsertionMap.get?_delete_eq_some_iff] at hlisted'
      obtain ⟨t'', hlive', ⟨rfl, rfl⟩ | ⟨hne, rfl⟩⟩ := getElem?_update hlive
      · have hlive' : s.live[r]? = some t'' := hlive'
        rw [hget] at hlive'
        obtain rfl := Option.some.inj hlive'
        exact absurd hpeerId hlisted'.1
      · exact ⟨⟨hlive', hlisted'.2⟩, hne.symm⟩
    · rintro ⟨⟨hlive, hlisted'⟩, hne⟩
      refine ⟨?_, ?_⟩
      · change (s.live.modify r .endedOutbound)[r']? = some t'
        rw [List.getElem?_modify_ne _ _ hne.symm]
        exact hlive
      · change (s.outbound.delete peerId).get? t'.peerId = some r'
        rw [InsertionMap.get?_delete_eq_some_iff]
        refine ⟨?_, hlisted'⟩
        rintro rfl
        exact hne (Option.some.inj (hlisted'.symm.trans hlisted))
  constructor
  · constructor
    · intro deliveryId r'
      change (s.manifestDeliveryToOutbound.delete t.manifestDeliveryId).get? deliveryId =
        some r' ↔ _
      rw [InsertionMap.get?_delete_eq_some_iff, h.manifests]
      constructor
      · rintro ⟨hne, t', hout', htimeout, rfl⟩
        refine ⟨t', hrest.mpr ⟨hout', ?_⟩, htimeout, rfl⟩
        rintro rfl
        obtain rfl := Option.some.inj (hget.symm.trans hout'.live)
        exact hne rfl
      · rintro ⟨t', hout', htimeout, rfl⟩
        obtain ⟨hout', hne⟩ := hrest.mp hout'
        exact ⟨fun heq => hne (h.distinct hout' hout heq), t', hout', htimeout, rfl⟩
    · intro deliveryId r'
      change (s.deliveryToOutbound.filter fun deliveryId _ =>
        ¬ t.window.outstanding.has deliveryId).get? deliveryId = some r' ↔ _
      rw [InsertionMap.get?_filter_eq_some_iff, h.chunks]
      constructor
      · rintro ⟨⟨t', hout', hhas⟩, hnot⟩
        refine ⟨t', hrest.mpr ⟨hout', ?_⟩, hhas⟩
        rintro rfl
        obtain rfl := Option.some.inj (hget.symm.trans hout'.live)
        simp [hhas] at hnot
      · rintro ⟨t', hout', hhas⟩
        obtain ⟨hout', hne⟩ := hrest.mp hout'
        refine ⟨⟨t', hout', hhas⟩, ?_⟩
        simp only [Bool.not_eq_true, decide_eq_true_eq]
        by_contra hhas'
        have hown : s.AwaitsChunk r deliveryId := ⟨t, hout, by simpa using hhas'⟩
        have hother : s.AwaitsChunk r' deliveryId := ⟨t', hout', hhas⟩
        exact hne (Option.some.inj ((h.chunks.mpr hother).symm.trans (h.chunks.mpr hown)))
  · intro r₁ r₂ t₁ t₂ hout₁ hout₂
    exact h.distinct (hrest.mp hout₁).1 (hrest.mp hout₂).1

theorem outbound_modify_iff (hlive : s'.live = s.live.modify r f)
    (houtbound : s'.outbound = s.outbound) (hf : ∀ t, (f t).peerId = t.peerId) :
    s'.Outbound r' t' ↔
      ∃ t, s.Outbound r' t ∧ (r = r' ∧ t' = f t ∨ r ≠ r' ∧ t' = t) := by
  constructor
  · rintro ⟨hget, hlisted⟩
    rw [hlive] at hget
    rw [houtbound] at hlisted
    obtain ⟨t, hget, hcases⟩ := of_getElem?_modify hget
    refine ⟨t, ⟨hget, ?_⟩, hcases⟩
    rcases hcases with ⟨-, rfl⟩ | ⟨-, rfl⟩
    · rw [← hf]
      exact hlisted
    · exact hlisted
  · rintro ⟨t, hout, ⟨rfl, rfl⟩ | ⟨hne, rfl⟩⟩
    · refine ⟨?_, ?_⟩
      · rw [hlive, List.getElem?_modify_eq, hout.live]
        rfl
      · rw [houtbound, hf]
        exact hout.listed
    · refine ⟨?_, ?_⟩
      · rw [hlive, List.getElem?_modify_ne _ _ hne]
        exact hout.live
      · rw [houtbound]
        exact hout.listed

theorem Deliveries.update_over (h : s.Deliveries) (hf : ∀ t, (f t).peerId = t.peerId)
    (hover : ∀ t, ¬ s.Outbound r t) : (s.update r f).Deliveries := by
  have hmodify {r' : Nat} {t' : LiveTransfer} :=
    @outbound_modify_iff s (s.update r f) r r' t' f rfl rfl hf
  have hback : Resembles s (s.update r f) := by
    intro r' t' hout'
    obtain ⟨t, hout, ⟨rfl, -⟩ | ⟨-, rfl⟩⟩ := hmodify.mp hout'
    · exact absurd hout (hover t)
    · exact ⟨t', hout, rfl⟩
  have hforth : Resembles (s.update r f) s := by
    intro r' t hout
    refine ⟨t, hmodify.mpr ⟨t, hout, .inr ⟨?_, rfl⟩⟩, rfl⟩
    rintro rfl
    exact hover t hout
  exact h.of_resembles hback hforth rfl rfl

theorem Outbound.unique (h : s.Outbound r t) (h' : s.Outbound r t') : t = t' :=
  Option.some.inj (h.live.symm.trans h'.live)

theorem Deliveries.manifests_cases (h : s.Deliveries) (hout : s.Outbound r t) :
    s.manifestDeliveryToOutbound.get? deliveryId = some r' ↔
      r' ≠ r ∧ s.manifestDeliveryToOutbound.get? deliveryId = some r' ∨
        r' = r ∧ t.manifestForwardTimeout = true ∧ t.manifestDeliveryId = deliveryId := by
  by_cases heq : r' = r
  · subst heq
    simp only [ne_eq, not_true, false_and, true_and, false_or]
    rw [h.manifests]
    constructor
    · rintro ⟨t', hout', htimeout⟩
      exact hout'.unique hout ▸ htimeout
    · exact fun htimeout => ⟨t, hout, htimeout⟩
  · simp [heq]

theorem Deliveries.chunks_cases (h : s.Deliveries) (hout : s.Outbound r t) :
    s.deliveryToOutbound.get? deliveryId = some r' ↔
      r' ≠ r ∧ s.deliveryToOutbound.get? deliveryId = some r' ∨
        r' = r ∧ t.window.outstanding.has deliveryId = true := by
  by_cases heq : r' = r
  · subst heq
    simp only [ne_eq, not_true, false_and, true_and, false_or]
    rw [h.chunks]
    constructor
    · rintro ⟨t', hout', hhas⟩
      exact hout'.unique hout ▸ hhas
    · exact fun hhas => ⟨t, hout, hhas⟩
  · simp [heq]

theorem Deliveries.modify (h : s.Deliveries) (hout : s.Outbound r t)
    (hlive : s'.live = s.live.modify r f) (houtbound : s'.outbound = s.outbound)
    (hpeerId : ∀ t, (f t).peerId = t.peerId)
    (hid : ∀ t, (f t).manifestDeliveryId = t.manifestDeliveryId)
    (hmanifests : ∀ {deliveryId r'},
      s'.manifestDeliveryToOutbound.get? deliveryId = some r' ↔
        r' ≠ r ∧ s.manifestDeliveryToOutbound.get? deliveryId = some r' ∨
          r' = r ∧ (f t).manifestForwardTimeout = true ∧ t.manifestDeliveryId = deliveryId)
    (hchunks : ∀ {deliveryId r'}, s'.deliveryToOutbound.get? deliveryId = some r' ↔
        r' ≠ r ∧ s.deliveryToOutbound.get? deliveryId = some r' ∨
          r' = r ∧ (f t).window.outstanding.has deliveryId = true) : s'.Deliveries := by
  have hmodify {r' : Nat} {t' : LiveTransfer} :=
    @outbound_modify_iff s s' r r' t' f hlive houtbound hpeerId
  have hself : s'.Outbound r (f t) := hmodify.mpr ⟨t, hout, .inl ⟨rfl, rfl⟩⟩
  have hother : ∀ {r' t'}, r' ≠ r → (s'.Outbound r' t' ↔ s.Outbound r' t') := by
    intro r' t' hne
    rw [hmodify]
    constructor
    · rintro ⟨t'', hout', ⟨rfl, -⟩ | ⟨-, rfl⟩⟩
      · exact absurd rfl hne
      · exact hout'
    · exact fun hout' => ⟨t', hout', .inr ⟨hne.symm, rfl⟩⟩
  have hmanifestId : ∀ {r' t'}, s'.Outbound r' t' →
      ∃ t'', s.Outbound r' t'' ∧ t''.manifestDeliveryId = t'.manifestDeliveryId := by
    intro r' t' hout'
    obtain ⟨t'', hout'', ⟨-, rfl⟩ | ⟨-, rfl⟩⟩ := hmodify.mp hout'
    · exact ⟨t'', hout'', (hid t'').symm⟩
    · exact ⟨t', hout'', rfl⟩
  constructor
  · constructor
    · intro deliveryId r'
      rw [hmanifests, h.manifests]
      by_cases heq : r' = r
      · subst heq
        simp only [ne_eq, not_true, false_and, true_and, false_or]
        constructor
        · rintro ⟨htimeout, hdelivery⟩
          exact ⟨f t, hself, htimeout, (hid t).trans hdelivery⟩
        · rintro ⟨t', hout', htimeout, hdelivery⟩
          obtain rfl := hout'.unique hself
          exact ⟨htimeout, (hid t).symm.trans hdelivery⟩
      · simp only [ne_eq, heq, not_false_iff, true_and, false_and, or_false]
        constructor
        · rintro ⟨t', hout', hdelivery⟩
          exact ⟨t', (hother heq).mpr hout', hdelivery⟩
        · rintro ⟨t', hout', hdelivery⟩
          exact ⟨t', (hother heq).mp hout', hdelivery⟩
    · intro deliveryId r'
      rw [hchunks, h.chunks]
      by_cases heq : r' = r
      · subst heq
        simp only [ne_eq, not_true, false_and, true_and, false_or]
        constructor
        · exact fun hhas => ⟨f t, hself, hhas⟩
        · rintro ⟨t', hout', hhas⟩
          exact hout'.unique hself ▸ hhas
      · simp only [ne_eq, heq, not_false_iff, true_and, false_and, or_false]
        constructor
        · rintro ⟨t', hout', hhas⟩
          exact ⟨t', (hother heq).mpr hout', hhas⟩
        · rintro ⟨t', hout', hhas⟩
          exact ⟨t', (hother heq).mp hout', hhas⟩
  · intro r₁ r₂ t₁ t₂ hout₁ hout₂ heq
    obtain ⟨t₁', hout₁', hid₁⟩ := hmanifestId hout₁
    obtain ⟨t₂', hout₂', hid₂⟩ := hmanifestId hout₂
    exact h.distinct hout₁' hout₂' (hid₁.trans (heq.trans hid₂.symm))

theorem Deliveries.acknowledgeManifest (h : s.Deliveries)
    (hget : s.manifestDeliveryToOutbound.get? deliveryId = some r) :
    Deliveries { s.update r fun t => { t with manifestForwardTimeout := false } with
      manifestDeliveryToOutbound := s.manifestDeliveryToOutbound.delete deliveryId } := by
  obtain ⟨t, hout, -, rfl⟩ := h.manifests.mp hget
  refine h.modify hout rfl rfl (fun _ => rfl) (fun _ => rfl) (fun {deliveryId r'} => ?_)
    fun {deliveryId r'} => h.chunks_cases (t := t) hout
  change (s.manifestDeliveryToOutbound.delete t.manifestDeliveryId).get? deliveryId = some r' ↔ _
  rw [InsertionMap.get?_delete_eq_some_iff]
  constructor
  · rintro ⟨hne, hget'⟩
    rcases (h.manifests_cases hout).mp hget' with hother | ⟨-, -, hsame⟩
    · exact .inl hother
    · exact absurd hsame.symm hne
  · rintro (⟨hne, hget'⟩ | ⟨-, htimeout, -⟩)
    · refine ⟨?_, hget'⟩
      rintro rfl
      exact hne (Option.some.inj (hget'.symm.trans hget))
    · cases htimeout

theorem Deliveries.acknowledgeChunk (h : s.Deliveries)
    (hget : s.deliveryToOutbound.get? deliveryId = some r) :
    Deliveries { s.updateWindow r (·.acknowledge deliveryId) with
      deliveryToOutbound := s.deliveryToOutbound.delete deliveryId } := by
  obtain ⟨t, hout, hhas⟩ := h.chunks.mp hget
  refine h.modify hout rfl rfl (fun _ => rfl) (fun _ => rfl)
    (fun {deliveryId' r'} => h.manifests_cases (t := t) hout) (fun {deliveryId' r'} => ?_)
  change (s.deliveryToOutbound.delete deliveryId).get? deliveryId' = some r' ↔
    r' ≠ r ∧ _ ∨ r' = r ∧ (t.window.outstanding.delete deliveryId).has deliveryId' = true
  rw [InsertionMap.get?_delete_eq_some_iff, InsertionMap.has_delete]
  constructor
  · rintro ⟨hne, hget'⟩
    rcases (h.chunks_cases hout).mp hget' with hother | ⟨heq, hhas⟩
    · exact .inl hother
    · exact .inr ⟨heq, hhas, hne⟩
  · rintro (⟨hne, hget'⟩ | ⟨heq, hhas, hne⟩)
    · refine ⟨?_, hget'⟩
      rintro rfl
      exact hne (Option.some.inj (hget'.symm.trans hget))
    · exact ⟨hne, (h.chunks_cases hout).mpr (.inr ⟨heq, hhas⟩)⟩

theorem Deliveries.hand {index : Nat} (h : s.Deliveries) (hout : s.Outbound r t)
    (hfresh : ∀ r', s.deliveryToOutbound.get? deliveryId = some r' → r' = r) :
    Deliveries { s.updateWindow r (·.hand index deliveryId) with
      deliveryToOutbound := s.deliveryToOutbound.set deliveryId r } := by
  refine h.modify hout rfl rfl (fun _ => rfl) (fun _ => rfl)
    (fun {deliveryId' r'} => h.manifests_cases (t := t) hout) (fun {deliveryId' r'} => ?_)
  change (s.deliveryToOutbound.set deliveryId r).get? deliveryId' = some r' ↔
    r' ≠ r ∧ _ ∨ r' = r ∧ (t.window.outstanding.set deliveryId index).has deliveryId' = true
  rw [InsertionMap.has_set]
  by_cases heq : deliveryId' = deliveryId
  · subst heq
    rw [InsertionMap.get?_set_self, Option.some_inj]
    constructor
    · rintro rfl
      exact .inr ⟨rfl, .inl rfl⟩
    · rintro (⟨hne, hget⟩ | ⟨heq, -⟩)
      · exact absurd (hfresh r' hget) hne
      · exact heq.symm
  · rw [InsertionMap.get?_set_of_ne heq]
    simpa only [heq, false_or] using h.chunks_cases hout

theorem Deliveries.launch {transfer : AttachmentTransferState} {manifestDeliveryId : String}
    (h : s.Deliveries) (hnone : s.outbound.get? peerId = none)
    (hfresh : ∀ r t, s.Outbound r t → t.manifestDeliveryId ≠ manifestDeliveryId) :
    (s.launch i peerId g transfer manifestDeliveryId).Deliveries := by
  have hlaunched {r : Nat} {t : LiveTransfer} :
      (s.launch i peerId g transfer manifestDeliveryId).Outbound r t ↔
        s.Outbound r t ∨ r = s.live.length ∧
          t = { peerId, registry := g, transfer, manifestDeliveryId
                manifestForwardTimeout := true } := by
    constructor
    · rintro ⟨hlive, hlisted⟩
      rcases getElem?_concat_eq_some_iff.mp hlive with hlive | ⟨rfl, rfl⟩
      · have hlisted : (s.outbound.set peerId s.live.length).get? t.peerId = some r := hlisted
        by_cases heq : t.peerId = peerId
        · rw [heq, InsertionMap.get?_set_self] at hlisted
          have hlt := (List.getElem?_eq_some_iff.mp hlive).1
          exact absurd (Option.some.inj hlisted) (Nat.ne_of_gt hlt)
        · rw [InsertionMap.get?_set_of_ne heq] at hlisted
          exact .inl ⟨hlive, hlisted⟩
      · exact .inr ⟨rfl, rfl⟩
    · rintro (⟨hlive, hlisted⟩ | ⟨rfl, rfl⟩)
      · refine ⟨getElem?_concat_eq_some_iff.mpr (.inl hlive), ?_⟩
        change (s.outbound.set peerId s.live.length).get? t.peerId = some r
        rw [InsertionMap.get?_set_of_ne ?_]
        · exact hlisted
        · rintro rfl
          rw [hnone] at hlisted
          cases hlisted
      · exact ⟨getElem?_concat_eq_some_iff.mpr (.inr ⟨rfl, rfl⟩), InsertionMap.get?_set_self _ _ _⟩
  constructor
  · constructor
    · intro deliveryId r
      change (s.manifestDeliveryToOutbound.set manifestDeliveryId s.live.length).get? deliveryId =
        some r ↔ _
      by_cases heq : deliveryId = manifestDeliveryId
      · subst heq
        rw [InsertionMap.get?_set_self, Option.some_inj]
        constructor
        · rintro rfl
          exact ⟨_, hlaunched.mpr (.inr ⟨rfl, rfl⟩), rfl, rfl⟩
        · rintro ⟨t, hout, -, hid⟩
          rcases hlaunched.mp hout with hout | ⟨rfl, -⟩
          · exact absurd hid (hfresh r t hout)
          · rfl
      · rw [InsertionMap.get?_set_of_ne heq, h.manifests]
        constructor
        · rintro ⟨t, hout, hdelivery⟩
          exact ⟨t, hlaunched.mpr (.inl hout), hdelivery⟩
        · rintro ⟨t, hout, htimeout, rfl⟩
          rcases hlaunched.mp hout with hout | ⟨-, rfl⟩
          · exact ⟨t, hout, htimeout, rfl⟩
          · exact absurd rfl heq
    · intro deliveryId r
      change s.deliveryToOutbound.get? deliveryId = some r ↔ _
      rw [h.chunks]
      constructor
      · rintro ⟨t, hout, hhas⟩
        exact ⟨t, hlaunched.mpr (.inl hout), hhas⟩
      · rintro ⟨t, hout, hhas⟩
        rcases hlaunched.mp hout with hout | ⟨-, rfl⟩
        · exact ⟨t, hout, hhas⟩
        · cases hhas
  · intro r r' t t' hout hout' heq
    rcases hlaunched.mp hout with hout | ⟨rfl, rfl⟩
    · rcases hlaunched.mp hout' with hout' | ⟨rfl, rfl⟩
      · exact h.distinct hout hout' heq
      · exact absurd heq (hfresh r t hout)
    · rcases hlaunched.mp hout' with hout' | ⟨rfl, rfl⟩
      · exact absurd heq.symm (hfresh r' t' hout')
      · rfl

end Deliveries

/-- A step that takes no room, and leaves the indexes as they should be. -/
structure Within (s s' : AttachmentController) : Prop where
  room : s'.activeDirectionCount + s'.preparing ≤ s.activeDirectionCount + s.preparing
  offers : s'.offers + s.offeringPeers.length ≤ s.offers + s'.offeringPeers.length
  deliveries : s.Deliveries → s'.Deliveries

section Within

theorem Within.rfl : Within s s := ⟨Nat.le_refl _, Nat.le_refl _, id⟩

theorem Within.trans (h : Within s s') (h' : Within s' s'') : Within s s'' where
  room := h'.room.trans h.room
  offers := by
    have hfirst := h.offers
    have hsecond := h'.offers
    omega
  deliveries hs := h'.deliveries (h.deliveries hs)

theorem within_of_eq (hlive : s'.live.map LiveTransfer.deliveries =
      s.live.map LiveTransfer.deliveries) (htable : s'.table = s.table)
    (hmanifests : s'.manifestDeliveryToOutbound = s.manifestDeliveryToOutbound)
    (hchunks : s'.deliveryToOutbound = s.deliveryToOutbound)
    (hpreparing : s'.preparing ≤ s.preparing)
    (hoffers : s'.offers + s.offeringPeers.length ≤ s.offers + s'.offeringPeers.length) :
    Within s s' where
  room := by
    have hinbound : s'.inbound = s.inbound := congrFun htable .inbound
    have houtbound : s'.outbound = s.outbound := congrFun htable .outbound
    unfold activeDirectionCount
    rw [hinbound, houtbound]
    omega
  offers := hoffers
  deliveries h := h.of_eq hlive (congrFun htable .outbound) hmanifests hchunks

theorem within_update (hf : ∀ t, s.live[r]? = some t → (f t).deliveries = t.deliveries) :
    Within s (s.update r f) :=
  within_of_eq (map_modify_eq_map hf) rfl rfl rfl (Nat.le_refl _) (Nat.le_refl _)

theorem countP_concat (p : AttachmentOperation → Bool) (operations : List AttachmentOperation)
    (hp : p operation = false) : (operations ++ [operation]).countP p = operations.countP p := by
  simp [List.countP_append, hp]

theorem prepares_of_offering (h : operation.offering = none) : operation.prepares = false := by
  cases operation <;> first | rfl | cases h

theorem within_start (hnone : operation.offering = none) : Within s (s.start operation) :=
  within_of_eq rfl rfl rfl rfl
    (Nat.le_of_eq (countP_concat _ _ (prepares_of_offering hnone)))
    (Nat.add_le_add_right (Nat.le_of_eq (countP_concat _ _ (by simp [hnone]))) _)

theorem countP_set_le (p : AttachmentOperation → Bool) (operations : List AttachmentOperation)
    (i : Nat) (hp : p operation = false) :
    (operations.set i operation).countP p ≤ operations.countP p := by
  by_cases hlt : i < operations.length
  · rw [List.countP_set hlt, hp]
    simp
  · rw [List.set_eq_of_length_le (Nat.le_of_not_lt hlt)]

theorem countP_set_add (p : AttachmentOperation → Bool) (operation' : AttachmentOperation)
    {operations : List AttachmentOperation} (hget : operations[i]? = some operation) :
    (operations.set i operation').countP p + (if p operation then 1 else 0) =
      operations.countP p + if p operation' then 1 else 0 := by
  obtain ⟨hlt, hat⟩ := List.getElem?_eq_some_iff.mp hget
  have hpos : p operation = true → 0 < operations.countP p := fun hp =>
    List.countP_pos_iff.mpr ⟨operation, hat ▸ List.getElem_mem hlt, hp⟩
  rw [List.countP_set hlt, hat]
  cases hp : p operation with
  | false => simp
  | true =>
    have := hpos hp
    simp only [if_true]
    omega

theorem countP_set_eq {p : AttachmentOperation → Bool} {operations : List AttachmentOperation}
    (hget : operations[i]? = some operation) (hp : p operation' = p operation) :
    (operations.set i operation').countP p = operations.countP p := by
  have hcount := countP_set_add p operation' hget
  rw [hp] at hcount
  omega

theorem within_resume (i : Nat) (hnone : operation.offering = none) :
    Within s (s.resume i operation) :=
  within_of_eq rfl rfl rfl rfl (countP_set_le _ _ i (prepares_of_offering hnone))
    (Nat.add_le_add_right (countP_set_le _ _ i (by simp [hnone])) _)

theorem within_resume_same (hget : s.operations[i]? = some operation)
    (hprepares : operation'.prepares = operation.prepares)
    (hoffering : operation'.offering = operation.offering) :
    Within s (s.resume i operation') := by
  have hoffers : (s.operations.set i operation').countP (fun operation =>
      operation.offering.isSome) = s.operations.countP fun operation => operation.offering.isSome :=
    countP_set_eq hget (by rw [hoffering])
  exact within_of_eq rfl rfl rfl rfl (Nat.le_of_eq (countP_set_eq hget hprepares))
    (Nat.add_le_add_right (Nat.le_of_eq hoffers) _)

theorem live_expireRegistry (s : AttachmentController) (g now : Nat) :
    (s.expireRegistry g now).live.map LiveTransfer.deliveries =
      s.live.map LiveTransfer.deliveries := by
  unfold expireRegistry
  split
  · rfl
  · exact map_modify_eq_map fun _ _ => rfl

theorem within_expireRegistry : Within s (s.expireRegistry g now) := by
  refine within_of_eq (live_expireRegistry s g now) table_expireRegistry ?_ ?_ ?_ ?_
  · unfold expireRegistry
    split <;> rfl
  · unfold expireRegistry
    split <;> rfl
  · unfold preparing
    rw [operations_expireRegistry]
  · unfold offers
    rw [operations_expireRegistry, offeringPeers_expireRegistry]

variable {reason : AttachmentControllerReason}

theorem within_endInbound :
    Within s (s.endInbound peerId reason now).1 := by
  unfold endInbound
  split
  · exact .rfl
  · split
    · exact .rfl
    · rename_i r _ _ t _
      have haborted : Within s (s.update r .endedInbound) := within_update fun _ _ => rfl
      have hended : Within s ((s.update r .endedInbound).expireRegistry t.registry now) :=
        haborted.trans within_expireRegistry
      refine ⟨?_, hended.offers, fun h => (hended.deliveries h).of_eq rfl rfl rfl rfl⟩
      have hroom := hended.room
      have hsize := ((s.update r .endedInbound).expireRegistry t.registry now).inbound.size_delete_le
        peerId
      unfold activeDirectionCount at hroom ⊢
      dsimp only at hroom ⊢
      exact (Nat.add_le_add_right (Nat.add_le_add_right hsize _) _).trans hroom

theorem within_endOutbound (h : s.Sound) :
    Within s (s.endOutbound peerId reason now).1 := by
  unfold endOutbound
  split
  · exact .rfl
  · rename_i r hlisted
    obtain ⟨t, hget, -, hpeerId⟩ := @Sound.listed s h .outbound peerId r hlisted
    simp only [hget]
    have hexpired : Within ((s.forget t).update r .endedOutbound)
        (((s.forget t).update r .endedOutbound).expireRegistry t.registry now) :=
      within_expireRegistry
    refine ⟨?_, hexpired.offers, fun hs => ?_⟩
    · have hroom := hexpired.room
      have hsize := (((s.forget t).update r .endedOutbound).expireRegistry t.registry
        now).outbound.size_delete_le peerId
      exact (Nat.add_le_add_right (Nat.add_le_add_left hsize _) _).trans hroom
    · have houtbound : (((s.forget t).update r .endedOutbound).expireRegistry t.registry
          now).outbound = s.outbound := congrFun table_expireRegistry .outbound
      refine (hs.close hlisted hget hpeerId).of_eq (live_expireRegistry _ _ _) ?_ ?_ ?_
      · exact congrArg (·.delete peerId) houtbound
      · unfold expireRegistry
        split <;> rfl
      · unfold expireRegistry
        split <;> rfl

theorem within_registryOf (s : AttachmentController) (peerId : String)
    (direction : AttachmentDirection) : Within s (s.registryOf peerId direction).1 := by
  unfold registryOf
  split
  · split
    · exact .rfl
    · exact within_of_eq rfl rfl rfl rfl (Nat.le_refl _) (Nat.le_refl _)
  · split
    · exact .rfl
    · exact within_of_eq rfl rfl rfl rfl (Nat.le_refl _) (Nat.le_refl _)

theorem within_openRegistry (s : AttachmentController) (g : Nat) (manifest : AttachmentManifest)
    (now : Nat) : Within s (s.openRegistry g manifest now).1 := by
  have hswept : ∀ s : AttachmentController, Within s (s.sweep g now) :=
    fun s => within_of_eq rfl rfl rfl rfl (Nat.le_refl _) (Nat.le_refl _)
  unfold openRegistry
  dsimp only
  split
  · exact hswept s
  · split
    · exact hswept s
    · split
      · split
        · exact hswept s
        · exact hswept s
      · split
        · exact hswept s
        · split
          · exact hswept s
          · split
            · exact hswept s
            · rename_i r _ _ _ _ _ _
              have haborted : Within (s.sweep g now) ((s.sweep g now).update r fun t =>
                  { t with transfer := t.transfer.abort.1 }) := within_update fun _ _ => rfl
              exact ((hswept s).trans haborted).trans (hswept _)

theorem within_opening {manifest : AttachmentManifest} {opened : RegistryOpened}
    (hof : s.registryOf peerId direction = (s', g))
    (hopen : s'.openRegistry g manifest now = (s'', opened)) : Within s s'' := by
  have hfirst := within_registryOf s peerId direction
  have hsecond := within_openRegistry s' g manifest now
  rw [hof] at hfirst
  rw [hopen] at hsecond
  exact hfirst.trans hsecond

theorem within_endTransfer (h : s.Sound) :
    Within s (s.endTransfer direction peerId reason now).1 := by
  cases direction with
  | inbound => exact within_endInbound
  | outbound => exact within_endOutbound h

theorem within_offerOver (hget : s.operations[i]? = some operation)
    (hoffering : operation.offering = some peerId) : Within s (s.offerOver i peerId) := by
  have hfinished : AttachmentOperation.offering .finished = none := rfl
  refine within_of_eq rfl rfl rfl rfl (countP_set_le _ _ i rfl) ?_
  have hcount := countP_set_add (fun operation => operation.offering.isSome) .finished hget
  rw [hoffering, hfinished] at hcount
  have hlength : s.offeringPeers.length - 1 ≤ (s.offeringPeers.erase peerId).length :=
    List.le_length_erase
  change (s.operations.set i .finished).countP _ + _ ≤
    s.operations.countP _ + (s.offeringPeers.erase peerId).length
  simp only [Option.isSome_some, Option.isSome_none, if_true, Bool.false_eq_true, if_false]
    at hcount
  omega

theorem within_launch {transfer : AttachmentTransferState} {unsigned : AttachmentManifest}
    {manifestDeliveryId : String} (hget : s.operations[i]? = some (.signingManifest peerId unsigned))
    (hnone : s.outbound.get? peerId = none)
    (hfresh : ∀ r t, s.Outbound r t → t.manifestDeliveryId ≠ manifestDeliveryId) :
    Within s (s.launch i peerId g transfer manifestDeliveryId) := by
  refine ⟨?_, ?_, fun h => h.launch hnone hfresh⟩
  · have hcount := countP_set_add AttachmentOperation.prepares
      (.sendingOffer peerId s.live.length) hget
    have hsize := s.outbound.size_set_le peerId s.live.length
    change s.inbound.size + (s.outbound.set peerId s.live.length).size +
      (s.operations.set i (.sendingOffer peerId s.live.length)).countP _ ≤
        s.inbound.size + s.outbound.size + s.operations.countP _
    simp only [AttachmentOperation.prepares, if_true, Bool.false_eq_true, if_false] at hcount
    omega
  · have hcount : (s.operations.set i (.sendingOffer peerId s.live.length)).countP
        (fun operation => operation.offering.isSome) =
          s.operations.countP fun operation => operation.offering.isSome :=
      countP_set_eq hget rfl
    exact Nat.add_le_add_right (Nat.le_of_eq hcount) _

theorem within_hand {index : Nat} (hout : s.Outbound r t)
    (hfresh : ∀ r', s.deliveryToOutbound.get? deliveryId = some r' → r' = r) :
    Within s { s.updateWindow r (·.hand index deliveryId) with
      deliveryToOutbound := s.deliveryToOutbound.set deliveryId r } :=
  ⟨Nat.le_refl _, Nat.le_refl _, fun hs => hs.hand hout hfresh⟩

theorem endOutbound_update
    (hlisted : s.outbound.get? peerId = some r) (hget : s.live[r]? = some t) :
    (s.update r fun t => { t with manifestForwardTimeout := false }).endOutbound peerId reason now =
      s.endOutbound peerId reason now := by
  have hget' : (s.update r fun t => { t with manifestForwardTimeout := false }).live[r]? =
      some { t with manifestForwardTimeout := false } := by
    change (s.live.modify r _)[r]? = _
    rw [List.getElem?_modify_eq, hget]
    rfl
  have hstate : ((s.update r fun t => { t with manifestForwardTimeout := false }).forget
      { t with manifestForwardTimeout := false }).update r .endedOutbound =
        (s.forget t).update r .endedOutbound := by
    simp only [forget, update, List.modify_modify_eq]
    rfl
  have hlisted' : (s.update r fun t => { t with manifestForwardTimeout := false }).outbound.get?
      peerId = some r := hlisted
  simp only [endOutbound, hlisted, hlisted', hget, hget', hstate]

theorem within_overdue (h : s.Settled) (hlive : s.live[r]? = some t) :
    Within s ((s.update r fun t => { t with manifestForwardTimeout := false }).endTransfer
      .outbound t.peerId .ackTimeout now).1 := by
  change Within s ((s.update r fun t => { t with manifestForwardTimeout := false }).endOutbound
    t.peerId .ackTimeout now).1
  by_cases hlisted : s.outbound.get? t.peerId = some r
  · rw [endOutbound_update hlisted hlive]
    exact within_endOutbound h.sound
  · have hover : ∀ t', ¬ s.Outbound r t' := by
      intro t' hout
      obtain rfl := Option.some.inj (hlive.symm.trans hout.live)
      exact hlisted hout.listed
    have hstopped : Within s (s.update r fun t => { t with manifestForwardTimeout := false }) :=
      ⟨Nat.le_refl _, Nat.le_refl _, fun hs => hs.update_over (fun _ => rfl) hover⟩
    exact hstopped.trans (within_endOutbound (h.stopWaiting r).sound)

theorem within_change {filling : Prop} {clock : Nat} (h : s.Settled)
    (hchange : Change filling clock s s') : Within s s' := by
  cases hchange with
  | start hoffering => exact within_start hoffering
  | resume hoffering => exact within_resume _ hoffering
  | sign unsigned hget => exact within_resume_same hget rfl rfl
  | offerOver hget hoffering => exact within_offerOver hget hoffering
  | update hf =>
    refine within_update fun t hlive => ?_
    obtain ⟨transfer, expiry, heq, -, -⟩ := hf t hlive
    rw [heq]
    rfl
  | endTransfer => exact within_endTransfer h.sound
  | overdue hlive => exact within_overdue h hlive
  | opening _ hof hopen => exact within_opening hof hopen
  | window _ hf =>
    refine within_update fun t _ => ?_
    unfold LiveTransfer.deliveries
    rw [hf]
  | acknowledgeManifest _ hget =>
    exact ⟨Nat.le_refl _, Nat.le_refl _, fun hs => hs.acknowledgeManifest hget⟩
  | acknowledgeChunk _ hget =>
    exact ⟨Nat.le_refl _, Nat.le_refl _, fun hs => hs.acknowledgeChunk hget⟩

theorem within_reaches {filling : Prop} {clock : Nat}
    {answer : AttachmentController × List AttachmentControllerEvent} (h : s.Settled)
    (hreaches : Reaches filling clock s answer) : Within s answer.1 := by
  induction hreaches with
  | done => exact .rfl
  | change hchange _ ih => exact (within_change h hchange).trans (ih (h.change hchange))

theorem within_launched {unsigned manifest : AttachmentManifest} {manifestDeliveryId : String}
    {transfer : AttachmentTransferState} (h : s.Settled)
    (hget : s.operations[i]? = some (.signingManifest peerId unsigned))
    (hof : s.registryOf peerId .outbound = (s', g))
    (hopen : s'.openRegistry g manifest now = (s'', .opened transfer))
    (hfresh : ∀ r t, s.Outbound r t → t.manifestDeliveryId ≠ manifestDeliveryId) :
    Within s (s''.launch i peerId g transfer manifestDeliveryId) := by
  have hnone := get?_outbound_of_signing h hget
  obtain ⟨-, hsame, -, -⟩ := opening h hnone hof hopen
  rw [← hsame.operations] at hget
  have houtbound : s''.outbound = s.outbound := congrFun hsame.table .outbound
  refine (within_opening hof hopen).trans (within_launch hget ?_ fun r t hout => hfresh r t ?_)
  · rw [houtbound]
    exact hnone
  · refine ⟨?_, ?_⟩
    · rw [← hsame.live]
      exact hout.live
    · rw [← houtbound]
      exact hout.listed

theorem within_handed {index : Nat} {chunk : AttachmentChunk} (h : s.Settled)
    (hlive : s.live[r]? = some t)
    (hstored : (t.transfer.admitOutboundChunk chunk (some now)).2.status = .chunkStored)
    (hfresh : ∀ r', s.deliveryToOutbound.get? deliveryId = some r' → r' = r) :
    Within s (resume { (s.update r fun t' => { t' with
      transfer := (t.transfer.admitOutboundChunk chunk (some now)).1 }).updateWindow r
        (·.hand index deliveryId) with
      deliveryToOutbound := s.deliveryToOutbound.set deliveryId r } i (.sendingChunk r)) := by
  have hmoved : Within s (s.update r fun t' => { t' with
      transfer := (t.transfer.admitOutboundChunk chunk (some now)).1 }) :=
    within_update fun _ _ => rfl
  -- A transfer that admits a chunk is not over, and so it is in its table.
  obtain ⟨hdirection, hterminal⟩ := AttachmentTransferState.live_of_chunkStored hstored
  have hlisted : s.outbound.get? t.peerId = some r := by
    have hlisted := (h.sound.ended hlive).resolve_right (by rw [hterminal]; simp)
    rw [LiveTransfer.direction, hdirection] at hlisted
    exact hlisted
  have hout : Outbound (s.update r fun t' => { t' with
      transfer := (t.transfer.admitOutboundChunk chunk (some now)).1 }) r
      { t with transfer := (t.transfer.admitOutboundChunk chunk (some now)).1 } := by
    refine ⟨?_, hlisted⟩
    change (s.live.modify r _)[r]? = _
    rw [List.getElem?_modify_eq, hlive]
    rfl
  exact hmoved.trans ((within_hand hout hfresh).trans (within_resume i rfl))

end Within

theorem activeDirectionCount_lt_of_canOffer {ports : AttachmentPorts} {maximumBytes : Nat}
    (h : s.canOffer peerId ports = .ok maximumBytes) :
    s.activeDirectionCount + s.offeringPeers.length < maximumActiveDirections := by
  unfold canOffer at h
  split at h
  · cases h
  · split at h
    · cases h
    · split at h
      · cases h
      · rename_i hfree
        rw [not_or, not_or] at hfree
        exact Nat.lt_of_not_le hfree.2.2

section Inbound

theorem Deliveries.inbound {transfer : AttachmentTransferState} (h : s.Deliveries)
    (hsound : s.Sound) : (s.admitInbound peerId g transfer).Deliveries := by
  have hback : Resembles s (s.admitInbound peerId g transfer) := by
    rintro r t ⟨hlive, hlisted⟩
    rcases getElem?_concat_eq_some_iff.mp hlive with hlive | ⟨rfl, rfl⟩
    · exact ⟨t, ⟨hlive, hlisted⟩, rfl⟩
    · obtain ⟨t, hget, -⟩ := @Sound.listed s hsound .outbound peerId _ hlisted
      exact absurd (List.getElem?_eq_some_iff.mp hget).1 (Nat.lt_irrefl _)
  have hforth : Resembles (s.admitInbound peerId g transfer) s := by
    rintro r t ⟨hlive, hlisted⟩
    exact ⟨t, ⟨getElem?_concat_eq_some_iff.mpr (.inl hlive), hlisted⟩, rfl⟩
  exact h.of_resembles hback hforth rfl rfl

theorem within_refused {transfer : AttachmentTransferState} {reason : AttachmentControllerReason}
    (hsound : s.Sound) :
    Within s ((s.admitInbound peerId g transfer).endInbound peerId reason now).1 := by
  have hended : Within (s.admitInbound peerId g transfer)
      ((s.admitInbound peerId g transfer).endInbound peerId reason now).1 := within_endInbound
  refine ⟨?_, hended.offers, fun h => hended.deliveries (h.inbound hsound)⟩
  have hget : (s.admitInbound peerId g transfer).inbound.get? peerId = some s.live.length :=
    InsertionMap.get?_set_self _ _ _
  have hlive : (s.admitInbound peerId g transfer).live[s.live.length]? =
      some { peerId, registry := g, transfer } :=
    getElem?_concat_eq_some_iff.mpr (.inr ⟨rfl, rfl⟩)
  simp only [endInbound, hget, hlive]
  have hinbound : ∀ s : AttachmentController, (s.expireRegistry g now).inbound = s.inbound :=
    fun _ => congrFun table_expireRegistry .inbound
  have houtbound : ∀ s : AttachmentController, (s.expireRegistry g now).outbound = s.outbound :=
    fun _ => congrFun table_expireRegistry .outbound
  have hsize := s.inbound.size_delete_set_le peerId s.live.length
  simp only [activeDirectionCount, preparing, operations_expireRegistry]
  rw [hinbound, houtbound]
  exact Nat.add_le_add_right (Nat.add_le_add_right hsize _) _

end Inbound

section Run

/-- As many transfers and offers as may be under way, and the indexes as they should be. -/
def WithinBounds (s : AttachmentController) : Prop :=
  s.activeDirectionCount + s.preparing ≤ maximumActiveDirections ∧ s.Indexed

/-- What keeps the bounds: the offer of a peer that is shown leaves room for the offers in
preparation, and no delivery id is drawn that an outbound transfer has for its manifest, or that
is awaited by another one for a chunk. -/
def Admissible (s : AttachmentController) : AttachmentEvent → Prop
  | .signed i _ manifestDeliveryId _ => ∀ peerId unsigned,
      s.operations[i]? = some (.signingManifest peerId unsigned) →
        ∀ r t, s.Outbound r t → t.manifestDeliveryId ≠ manifestDeliveryId
  | .manifestVerified i verified _ shown => ∀ peerId manifest,
      s.operations[i]? = some (.verifyingManifest peerId manifest) →
        verified = true → shown = some true → s.inbound.has peerId = false →
          s.activeDirectionCount < maximumActiveDirections →
            s.activeDirectionCount + s.preparing < maximumActiveDirections
  | .chunkRead i bytes deliveryId _ => ∀ r index,
      s.operations[i]? = some (.readingChunk r index) → bytes.isSome = true →
        ∀ r', s.deliveryToOutbound.get? deliveryId = some r' → r' = r
  | _ => True

/-- What holds between the steps. The peers of the offers are at least as many as the offers. -/
structure Bounded (s : AttachmentController) : Prop where
  settled : s.Settled
  room : s.activeDirectionCount + s.preparing ≤ maximumActiveDirections
  offers : s.offers ≤ s.offeringPeers.length
  deliveries : s.Deliveries

theorem bounded_init : ({} : AttachmentController).Bounded :=
  ⟨settled_init, Nat.zero_le _, Nat.le_refl _, deliveries_init⟩

theorem Bounded.within (h : s.Bounded) (hsettled : s'.Settled) (hwithin : Within s s') :
    s'.Bounded where
  settled := hsettled
  room := hwithin.room.trans h.room
  offers := by
    have hoffers := hwithin.offers
    have hbefore := h.offers
    omega
  deliveries := hwithin.deliveries h.deliveries

theorem preparing_le_offers (s : AttachmentController) : s.preparing ≤ s.offers :=
  List.countP_mono_left fun _ _ => AttachmentOperation.offering_of_prepares

theorem bounded_offered {draft : AttachmentManifest} {ports : AttachmentPorts}
    {maximumBytes : Nat} (h : s.Bounded) (hok : s.canOffer peerId ports = .ok maximumBytes) :
    (start { s with offeringPeers := s.offeringPeers ++ [peerId] }
      (.hashingFile peerId draft)).Bounded := by
  have hfree := activeDirectionCount_lt_of_canOffer hok
  have hpreparing := s.preparing_le_offers
  have hoffers := h.offers
  refine ⟨settled_offered h.settled hok, ?_, ?_, h.deliveries.of_eq rfl rfl rfl rfl⟩
  · change s.activeDirectionCount + (s.operations ++ [_]).countP _ ≤ _
    rw [List.countP_append]
    change s.activeDirectionCount + (s.preparing + 1) ≤ _
    omega
  · change (s.operations ++ [_]).countP _ ≤ (s.offeringPeers ++ [peerId]).length
    rw [List.countP_append, List.length_append]
    change s.offers + 1 ≤ _ + 1
    omega

theorem bounded_admitted {transfer : AttachmentTransferState} (h : s.Bounded)
    (hroom : s.activeDirectionCount + s.preparing < maximumActiveDirections)
    (hwithin : Within s s') (hsound : s'.Sound)
    (hadmitted : (s'.admitInbound peerId g transfer).Settled) :
    (s'.admitInbound peerId g transfer).Bounded := by
  have hwithin' := hwithin.room
  have hsize := s'.inbound.size_set_le peerId s'.live.length
  refine ⟨hadmitted, ?_, ?_, (hwithin.deliveries h.deliveries).inbound hsound⟩
  · change (s'.inbound.set peerId s'.live.length).size + s'.outbound.size + s'.preparing ≤ _
    unfold activeDirectionCount at hwithin'
    unfold activeDirectionCount at hroom
    omega
  · have hoffers := hwithin.offers
    have hpeers := h.offers
    change s'.offers ≤ s'.offeringPeers.length
    omega

theorem bounded_next (h : s.Bounded) (e : AttachmentEvent) (hadmissible : s.Admissible e) :
    (s.next e).Bounded := by
  have hsettled : (s.next e).Settled := settled_next h.settled e
  obtain ⟨clock, hby⟩ := e.exists_by
  unfold next at hsettled ⊢
  have hcourse := course_step h.settled e hby
  generalize s.step e = answer at hcourse hsettled ⊢
  cases hcourse with
  | changes hreaches => exact h.within hsettled (within_reaches h.settled hreaches)
  | offered draft hok => exact bounded_offered h hok
  | launched hget hof hopen =>
    exact h.within hsettled
      (within_launched h.settled hget hof hopen (hadmissible _ _ hget))
  | @admitted i g now shown peerId manifest s' s'' transfer _ hget hfree hof hopen _ hanswer =>
    obtain ⟨hopened, -, hadmitted⟩ :=
      opening_inbound h.settled (fun hhas => hfree (.inl hhas)) hof hopen
    have hwithin : Within s s'' := (within_resume i rfl).trans (within_opening hof hopen)
    rcases hanswer with ⟨rfl, rfl⟩ | ⟨reason, rfl⟩
    · have hroom := hadmissible peerId manifest hget rfl rfl
        (Bool.eq_false_iff.mpr fun hhas => hfree (.inl hhas))
        (Nat.lt_of_not_le fun hfull => hfree (.inr hfull))
      exact bounded_admitted h hroom hwithin hopened.sound hadmitted
    · exact h.within hsettled (hwithin.trans (within_refused hopened.sound))
  | handed hget hlive hstored =>
    exact h.within hsettled
      (within_handed h.settled hlive hstored (hadmissible _ _ hget rfl))

/-- The bounds are kept in every state of a run in which each event is admissible. -/
theorem withinBounds_of_admissible (events : List AttachmentEvent)
    (h : Trace.Meets next Admissible {} events) : (Trace.run next {} events).WithinBounds := by
  have hbounded : (Trace.run next {} events).Bounded :=
    Trace.invariant_of_meets (P := Bounded)
      (fun _ e hbounded he => bounded_next hbounded e he) bounded_init h
  exact ⟨hbounded.room, hbounded.deliveries.toIndexed⟩

/-- Files are offered to the peers, and bob offers one while they are read. -/
def offersAndManifest (peers : List String) : List AttachmentEvent :=
  (peers.map fun peerId => .offer peerId (sampleFile 1) samplePorts
    sampleDecision.transferId sampleDecision.manifestId) ++
    [.receiveManifest "bob" sampleManifest true,
      .manifestVerified peers.length true 0 (some true)]

theorem withinBounds_threeOffers :
    (Trace.run next {} (offersAndManifest ["p1", "p2", "p3"])).WithinBounds :=
  withinBounds_of_admissible _
    ⟨trivial, trivial, trivial, trivial, fun _ _ _ _ _ _ _ => by decide +kernel, trivial⟩

theorem not_withinBounds_fourOffers :
    ¬ ∀ events, (Trace.run next {} events).WithinBounds := by
  intro h
  have hroom := (h (offersAndManifest ["p1", "p2", "p3", "p4"])).1
  revert hroom
  decide +kernel

end Run

end AttachmentController

end Branch.Pwa
