import Branch.Pwa.AttachmentTables

/-!
What an attachment controller keeps from one step to the next.
-/

namespace Branch.Pwa

open Branch.Core Branch.Lib

namespace AttachmentOperation

/-- The transfer that an operation is for. A manifest and a decision that came in are for none
before they are verified. -/
def transfer : AttachmentOperation → Option Nat
  | .sendingOffer _ r | .digesting r _ | .receivingChunk r _ | .signingDecision r _
  | .sendingDecision r _ | .readingChunk r _ | .sendingChunk r => some r
  | _ => none

def offering : AttachmentOperation → Option String
  | .hashingFile peerId _ | .signingManifest peerId _ | .sendingOffer peerId _ => some peerId
  | _ => none

def fills : AttachmentOperation → Option Nat
  | .readingChunk r _ | .sendingChunk r => some r
  | _ => none

end AttachmentOperation

namespace AttachmentController

variable {s s' s'' : AttachmentController} {own : Option Nat} {direction : AttachmentDirection}
  {peerId : String} {r g i now : Nat} {t : LiveTransfer} {f : LiveTransfer → LiveTransfer}
  {operation operation' : AttachmentOperation}

/-- Two offers are to different peers, and an offer finds no transfer of its peer but its
own. -/
structure Offering (s : AttachmentController) : Prop where
  peers : ∀ {i : Nat} {operation : AttachmentOperation} {peerId : String},
    s.operations[i]? = some operation → operation.offering = some peerId →
      peerId ∈ s.offeringPeers
  distinct : ∀ {i j : Nat} {operation operation' : AttachmentOperation} {peerId : String},
    s.operations[i]? = some operation → s.operations[j]? = some operation' →
      operation.offering = some peerId → operation'.offering = some peerId → i = j
  own : ∀ {i r : Nat} {operation : AttachmentOperation} {peerId : String},
    s.operations[i]? = some operation → operation.offering = some peerId →
      s.outbound.get? peerId = some r → operation.transfer = some r

section Offering

theorem offering_init : ({} : AttachmentController).Offering := by
  constructor
  · rintro i operation peerId ⟨⟩
  · rintro i j operation operation' peerId ⟨⟩
  · rintro i r operation peerId ⟨⟩

theorem Offering.of_old (h : s.Offering) (hpeers : s'.offeringPeers = s.offeringPeers)
    (houtbound : ∀ {peerId r}, s'.outbound.get? peerId = some r →
      s.outbound.get? peerId = some r)
    (hold : ∀ {i : Nat} {operation : AttachmentOperation} {peerId : String},
      s'.operations[i]? = some operation → operation.offering = some peerId →
        s.operations[i]? = some operation) : s'.Offering := by
  constructor
  · rw [hpeers]
    exact fun hget hoffering => h.peers (hold hget hoffering) hoffering
  · exact fun hget hget' hoffering hoffering' =>
      h.distinct (hold hget hoffering) (hold hget' hoffering') hoffering hoffering'
  · exact fun hget hoffering hlisted => h.own (hold hget hoffering) hoffering (houtbound hlisted)

theorem Offering.of_eq (h : s.Offering) (hoperations : s'.operations = s.operations)
    (hpeers : s'.offeringPeers = s.offeringPeers)
    (houtbound : ∀ {peerId r}, s'.outbound.get? peerId = some r →
      s.outbound.get? peerId = some r) : s'.Offering :=
  h.of_old hpeers houtbound fun hget _ => hoperations ▸ hget

theorem Offering.start (h : s.Offering) (hnone : operation.offering = none) :
    (s.start operation).Offering := by
  refine h.of_old rfl id fun hget hoffering => ?_
  rcases getElem?_concat_eq_some_iff.mp hget with hget | ⟨-, rfl⟩
  · exact hget
  · rw [hnone] at hoffering
    cases hoffering

theorem of_getElem?_set {l : List AttachmentOperation} {i j : Nat}
    {a b : AttachmentOperation} (h : (l.set i a)[j]? = some b) :
    (i = j ∧ b = a) ∨ (i ≠ j ∧ l[j]? = some b) := by
  by_cases heq : i = j
  · rw [List.getElem?_set, if_pos heq] at h
    split at h
    · exact .inl ⟨heq, (Option.some.inj h).symm⟩
    · cases h
  · rw [List.getElem?_set_ne heq] at h
    exact .inr ⟨heq, h⟩

theorem Offering.resume_none (h : s.Offering) (hnone : operation.offering = none) :
    (s.resume i operation).Offering := by
  refine h.of_old rfl id fun hget hoffering => ?_
  rcases of_getElem?_set hget with ⟨-, rfl⟩ | ⟨-, hget⟩
  · rw [hnone] at hoffering
    cases hoffering
  · exact hget

theorem Offering.resume (h : s.Offering) (hget : s.operations[i]? = some operation)
    (hoffering : operation'.offering = operation.offering)
    (htransfer : operation'.transfer = operation.transfer) :
    (s.resume i operation').Offering := by
  have hold : ∀ {j : Nat} {a : AttachmentOperation},
      (s.operations.set i operation')[j]? = some a → ∃ b, s.operations[j]? = some b ∧
        a.offering = AttachmentOperation.offering b ∧
        a.transfer = AttachmentOperation.transfer b := by
    intro j a hget'
    rcases of_getElem?_set hget' with ⟨rfl, rfl⟩ | ⟨-, hget'⟩
    · exact ⟨operation, hget, hoffering, htransfer⟩
    · exact ⟨a, hget', rfl, rfl⟩
  constructor
  · intro j a peerId hget hoffering
    obtain ⟨b, hget, hsame, -⟩ := hold hget
    exact h.peers hget (hsame ▸ hoffering)
  · intro j k a a' peerId hget hget' hoffering hoffering'
    obtain ⟨b, hget, hsame, -⟩ := hold hget
    obtain ⟨b', hget', hsame', -⟩ := hold hget'
    exact h.distinct hget hget' (hsame ▸ hoffering) (hsame' ▸ hoffering')
  · intro j r a peerId hget hoffering hlisted
    obtain ⟨b, hget, hsame, htransfer⟩ := hold hget
    rw [htransfer]
    exact h.own hget (hsame ▸ hoffering) hlisted

theorem Offering.offerOver (h : s.Offering) (hget : s.operations[i]? = some operation)
    (hoffering : operation.offering = some peerId) : (s.offerOver i peerId).Offering := by
  have hfinished : (s.resume i .finished).Offering := h.resume_none rfl
  constructor
  · intro j operation' peerId' hget' hoffering'
    have hmem : peerId' ∈ s.offeringPeers := hfinished.peers hget' hoffering'
    refine (List.mem_erase_of_ne ?_).mpr hmem
    rintro rfl
    rcases of_getElem?_set hget' with ⟨-, rfl⟩ | ⟨hne, hget'⟩
    · cases hoffering'
    · exact hne (h.distinct hget hget' hoffering hoffering')
  · exact hfinished.distinct
  · exact hfinished.own

end Offering

structure Settled (s : AttachmentController) : Prop where
  sound : s.Sound
  offering : s.Offering

section Settled

theorem settled_init : ({} : AttachmentController).Settled := ⟨sound_init, offering_init⟩

theorem Settled.start (h : s.Settled) (hnone : operation.offering = none) :
    (s.start operation).Settled :=
  ⟨h.sound.start operation, h.offering.start hnone⟩

theorem Settled.resume (h : s.Settled) (hnone : operation.offering = none) :
    (s.resume i operation).Settled :=
  ⟨h.sound.resume i operation, h.offering.resume_none hnone⟩

theorem Settled.update (h : s.Settled) (hf : ∀ t, s.live[r]? = some t → t.Keeps (f t)) :
    (s.update r f).Settled :=
  ⟨h.sound.update hf, h.offering.of_eq rfl rfl id⟩

theorem Settled.updateWindow (h : s.Settled) (r : Nat) (f : OutboundWindow → OutboundWindow) :
    (s.updateWindow r f).Settled :=
  h.update fun _ _ => LiveTransfer.keeps_of_transfer rfl rfl rfl

theorem Settled.endTransfer (h : s.Settled) (direction : AttachmentDirection) (peerId : String)
    (reason : AttachmentControllerReason) (now : Nat) :
    (s.endTransfer direction peerId reason now).1.Settled := by
  obtain ⟨hended, -⟩ := ended_endTransfer h.sound direction peerId reason now
  refine ⟨hended.sound, h.offering.of_eq hended.operations hended.offeringPeers ?_⟩
  intro peerId' r hget
  have hget : ((s.endTransfer direction peerId reason now).1.table .outbound).get? peerId' =
    some r := hget
  exact (hended.table.mp hget).2

theorem canOffer_eq_ok {ports : AttachmentPorts} {maximumBytes : Nat}
    (h : s.canOffer peerId ports = .ok maximumBytes) :
    s.outbound.get? peerId = none ∧ peerId ∉ s.offeringPeers := by
  unfold canOffer at h
  split at h
  · cases h
  · split at h
    · cases h
    · split at h
      · cases h
      · rename_i hfree
        rw [not_or, not_or] at hfree
        refine ⟨?_, hfree.2.1⟩
        simpa [InsertionMap.has] using hfree.1

theorem settled_offered {draft : AttachmentManifest} {ports : AttachmentPorts}
    {maximumBytes : Nat} (h : s.Settled) (hok : s.canOffer peerId ports = .ok maximumBytes) :
    (start { s with offeringPeers := s.offeringPeers ++ [peerId] }
      (.hashingFile peerId draft)).Settled := by
  obtain ⟨hnone, hfree⟩ := canOffer_eq_ok hok
  refine ⟨h.sound.of_eq rfl rfl rfl rfl, ?_⟩
  have hcases : ∀ {i : Nat} {a b : AttachmentOperation} {peerId' : String},
      (s.operations ++ [a])[i]? = some b → b.offering = some peerId' →
        s.operations[i]? = some b ∨ i = s.operations.length ∧ a = b :=
    fun hget _ => getElem?_concat_eq_some_iff.mp hget
  constructor
  · intro i operation peerId' hget hoffering
    rcases hcases hget hoffering with hget | ⟨-, rfl⟩
    · exact List.mem_append_left _ (h.offering.peers hget hoffering)
    · obtain rfl := Option.some.inj hoffering
      exact List.mem_append_right _ (List.mem_singleton.mpr rfl)
  · intro i j operation operation' peerId' hget hget' hoffering hoffering'
    rcases hcases hget hoffering with hget | ⟨hi, rfl⟩
    · rcases hcases hget' hoffering' with hget' | ⟨-, rfl⟩
      · exact h.offering.distinct hget hget' hoffering hoffering'
      · obtain rfl := Option.some.inj hoffering'
        exact absurd (h.offering.peers hget hoffering) hfree
    · rcases hcases hget' hoffering' with hget' | ⟨hj, rfl⟩
      · obtain rfl := Option.some.inj hoffering
        exact absurd (h.offering.peers hget' hoffering') hfree
      · rw [hi, hj]
  · intro i r operation peerId' hget hoffering hlisted
    rcases hcases hget hoffering with hget | ⟨-, rfl⟩
    · exact h.offering.own hget hoffering hlisted
    · obtain rfl := Option.some.inj hoffering
      have hlisted : s.outbound.get? peerId = some r := hlisted
      rw [hnone] at hlisted
      cases hlisted

section Offer

variable (h : s.Settled) (hget : s.operations[i]? = some operation)
  (hoffering : operation.offering = some peerId)

include h hget hoffering

theorem settled_offerOver : (s.offerOver i peerId).Settled :=
  ⟨h.sound.of_eq rfl rfl rfl rfl, h.offering.offerOver hget hoffering⟩

theorem frame_endOutbound_of_offering (reason : AttachmentControllerReason) (now : Nat) :
    Frame s (s.endOutbound peerId reason now).1 operation.transfer := by
  have hframe : Frame s (s.endOutbound peerId reason now).1 (s.outbound.get? peerId) :=
    (ended_endTransfer h.sound .outbound peerId reason now).2
  cases hlisted : s.outbound.get? peerId with
  | none =>
    rw [hlisted] at hframe
    exact hframe.of_none
  | some r =>
    rw [hlisted] at hframe
    rw [h.offering.own hget hoffering hlisted]
    exact hframe

theorem frame_offerThrew : Frame s (s.offerThrew i peerId now).1 operation.transfer := by
  refine (frame_endOutbound_of_offering h hget hoffering .sendFailed now).trans ?_
  exact .of_eq rfl rfl

end Offer

theorem frame_hashed {draft : AttachmentManifest} {sha256 : Option String} (h : s.Settled)
    (hget : s.operations[i]? = some (.hashingFile peerId draft)) :
    Frame s (s.hashed i peerId draft sha256 now).1 none := by
  unfold hashed
  split
  · exact frame_offerThrew h hget rfl
  · dsimp only
    split
    · exact frame_offerThrew h hget rfl
    · exact .of_eq rfl rfl

theorem SameTransfers.offering (h : SameTransfers s s') (hoffering : s.Offering) :
    s'.Offering := by
  refine hoffering.of_eq h.operations h.offeringPeers fun {peerId r} hget => ?_
  have hget : (s'.table .outbound).get? peerId = some r := hget
  rw [h.table] at hget
  exact hget

theorem sameTransfers_sweep : SameTransfers s (s.sweep g now) := ⟨rfl, rfl, rfl, rfl⟩

theorem SameTransfers.trans (h : SameTransfers s s') (h' : SameTransfers s' s'') :
    SameTransfers s s'' :=
  ⟨h'.live.trans h.live, h'.table.trans h.table, h'.operations.trans h.operations,
    h'.offeringPeers.trans h.offeringPeers⟩

/-- What `openRegistry` leaves behind where the peer has no transfer. -/
theorem opening {manifest : AttachmentManifest} {opened : RegistryOpened} {g' : Nat}
    (h : s.Settled) (hnone : (s.table direction).get? peerId = none)
    (hregistryOf : s.registryOf peerId direction = (s', g'))
    (hopen : s'.openRegistry g' manifest now = (s'', opened)) :
    s''.Settled ∧ SameTransfers s s'' ∧
      (∀ transfer, opened = .opened transfer → transfer.direction = direction) ∧
      ∃ registry, s''.registries[g']? = some registry ∧ registry.direction = direction ∧
        registry.peerId = peerId := by
  obtain ⟨hsound, hsame, registry, hregistry, rfl, rfl⟩ := registryOf_spec h.sound peerId direction
  rw [hregistryOf] at hsound hsame hregistry
  rw [← hsame.table] at hnone
  obtain ⟨hsweep, hdirection⟩ :=
    openRegistry_of_none manifest now hsound hregistry hnone
  rw [hopen] at hsweep hdirection
  obtain rfl : s'' = s'.sweep g' now := hsweep
  have hsame' : SameTransfers s (s'.sweep g' now) := hsame.trans sameTransfers_sweep
  refine ⟨⟨hsound.sweep, hsame'.offering h.offering⟩, hsame', hdirection, ?_⟩
  obtain ⟨hpeerId, hdirection, -⟩ := swept_cases s' now registry
  refine ⟨s'.swept now registry, ?_, hdirection, hpeerId⟩
  change (s'.registries.modify g' (s'.swept now))[g']? = _
  rw [List.getElem?_modify_eq, hregistry]
  rfl

section Opened

variable {transfer : AttachmentTransferState} (h : s.Settled)
  (hnone : (s.table direction).get? peerId = none)
  (hregistry : ∃ registry, s.registries[g]? = some registry ∧ registry.direction = direction ∧
    registry.peerId = peerId)
  (hdirection : transfer.direction = direction)

include h hnone hregistry hdirection

theorem settled_admitInbound (hinbound : direction = .inbound) :
    (s.admitInbound peerId g transfer).Settled := by
  subst hinbound
  have htable : ∀ {direction' peerId' r},
      ((s.admitInbound peerId g transfer).table direction').get? peerId' = some r ↔
        if direction' = transfer.direction ∧ peerId' = peerId then r = s.live.length
        else (s.table direction').get? peerId' = some r := by
    rw [hdirection]
    refine get?_table_set rfl ?_
    rintro (_ | _) hne
    · exact absurd rfl hne
    · rfl
  refine ⟨h.sound.opened rfl rfl htable rfl ?_ ?_, h.offering.of_eq rfl rfl id⟩
  · simpa only [LiveTransfer.direction, hdirection] using hregistry
  · change (s.table transfer.direction).get? peerId = none
    rw [hdirection]
    exact hnone

theorem settled_launch {unsigned : AttachmentManifest} {manifestDeliveryId : String}
    (houtbound : direction = .outbound)
    (hget : s.operations[i]? = some (.signingManifest peerId unsigned)) :
    (s.launch i peerId g transfer manifestDeliveryId).Settled ∧
      Frame s (s.launch i peerId g transfer manifestDeliveryId) none := by
  subst houtbound
  have htable : ∀ {direction' peerId' r},
      ((s.launch i peerId g transfer manifestDeliveryId).table direction').get? peerId' = some r ↔
        if direction' = transfer.direction ∧ peerId' = peerId then r = s.live.length
        else (s.table direction').get? peerId' = some r := by
    rw [hdirection]
    refine get?_table_set rfl ?_
    rintro (_ | _) hne
    · rfl
    · exact absurd rfl hne
  have hnone : (s.table transfer.direction).get? peerId = none := by
    rw [hdirection]
    exact hnone
  refine ⟨⟨h.sound.opened rfl rfl htable rfl ?_ hnone, ?_⟩, frame_opened rfl htable hnone⟩
  · simpa only [LiveTransfer.direction, hdirection] using hregistry
  · -- Only the operation itself is an offer to this peer, and it knows the new transfer.
    have hold : ∀ {j : Nat} {a : AttachmentOperation},
        (s.operations.set i (.sendingOffer peerId s.live.length))[j]? = some a →
          ∃ b, s.operations[j]? = some b ∧ a.offering = AttachmentOperation.offering b ∧
            (i = j ∧ a.transfer = some s.live.length ∨ i ≠ j ∧ a = b) := by
      intro j a hget'
      rcases of_getElem?_set hget' with ⟨rfl, rfl⟩ | ⟨hne, hget'⟩
      · exact ⟨_, hget, rfl, .inl ⟨rfl, rfl⟩⟩
      · exact ⟨a, hget', rfl, .inr ⟨hne, rfl⟩⟩
    constructor
    · intro j a peerId' hget' hoffering
      obtain ⟨b, hget', hsame, -⟩ := hold hget'
      exact h.offering.peers hget' (hsame ▸ hoffering)
    · intro j k a a' peerId' hget' hget'' hoffering hoffering'
      obtain ⟨b, hget', hsame, -⟩ := hold hget'
      obtain ⟨b', hget'', hsame', -⟩ := hold hget''
      exact h.offering.distinct hget' hget'' (hsame ▸ hoffering) (hsame' ▸ hoffering')
    · intro j r a peerId' hget' hoffering hlisted
      obtain ⟨b, hold', hsame, ⟨rfl, htransfer⟩ | ⟨hne, rfl⟩⟩ := hold hget'
      · rw [hget] at hold'
        obtain rfl := Option.some.inj hold'
        rw [hsame] at hoffering
        obtain rfl : peerId = peerId' := Option.some.inj hoffering
        have hlisted : ((s.launch i peerId g transfer manifestDeliveryId).table
          .outbound).get? peerId = some r := hlisted
        rw [htable, if_pos ⟨hdirection.symm, rfl⟩] at hlisted
        rw [hlisted]
        exact htransfer
      · have hother : peerId' ≠ peerId := by
          rintro rfl
          exact hne (h.offering.distinct hget hold' rfl hoffering)
        have hlisted : ((s.launch i peerId g transfer manifestDeliveryId).table
          .outbound).get? peerId' = some r := hlisted
        rw [htable, if_neg fun h => hother h.2] at hlisted
        exact h.offering.own hold' hoffering hlisted

end Opened

theorem get?_outbound_of_signing {unsigned : AttachmentManifest} (h : s.Settled)
    (hget : s.operations[i]? = some (.signingManifest peerId unsigned)) :
    (s.table .outbound).get? peerId = none := by
  cases hlisted : (s.table .outbound).get? peerId with
  | none => rfl
  | some r => cases h.offering.own hget rfl hlisted

theorem frame_signed {unsigned : AttachmentManifest} {signature : Option (List UInt8)}
    {manifestDeliveryId : String} (h : s.Settled)
    (hget : s.operations[i]? = some (.signingManifest peerId unsigned)) :
    Frame s (s.signed i peerId unsigned signature manifestDeliveryId now).1 none := by
  have hnone := get?_outbound_of_signing h hget
  unfold signed
  split
  · exact frame_offerThrew h hget rfl
  · dsimp only
    split
    · exact .of_eq rfl rfl
    · rcases hregistryOf : s.registryOf peerId .outbound with ⟨s', g'⟩
      dsimp only
      split
      all_goals
        rename_i hopen
        obtain ⟨hsettled, hsame, hdirection, hregistry⟩ := opening h hnone hregistryOf hopen
        have hget' := hget
        rw [← hsame.operations] at hget'
      · rename_i s'' transfer
        rw [← hsame.table] at hnone
        exact hsame.frame.trans
          (settled_launch hsettled hnone hregistry (hdirection transfer rfl) rfl hget').2
      · exact hsame.frame.trans (.of_eq rfl rfl)
      · exact hsame.frame.trans (frame_offerThrew hsettled hget' rfl)
      · exact hsame.frame.trans (.of_eq rfl rfl)

theorem frame_offerSent {ok : Bool} (h : s.Settled)
    (hget : s.operations[i]? = some operation) (hoffering : operation.offering = some peerId) :
    Frame s (s.offerSent i peerId ok now).1 operation.transfer := by
  unfold offerSent
  split
  · exact .of_eq rfl rfl
  · exact frame_offerThrew h hget hoffering

theorem get?_eq_none_of_not_has {m : InsertionMap String Nat} (h : ¬ m.has peerId = true) :
    m.get? peerId = none := by
  simpa [InsertionMap.has] using h

theorem Settled.deliveries (h : s.Settled) (deliveries : InsertionMap String Nat) :
    { s with deliveryToOutbound := deliveries }.Settled :=
  ⟨h.sound.of_eq rfl rfl rfl rfl, h.offering.of_eq rfl rfl id⟩

theorem Settled.transition {transfer : AttachmentTransferState} (h : s.Settled)
    (hget : s.live[r]? = some t) (event : AttachmentTransferEvent)
    (htransfer : transfer = (t.transfer.step event).1) :
    (s.update r fun t => { t with transfer }).Settled := by
  refine h.update fun t' hget' => ?_
  rw [hget] at hget'
  obtain rfl := Option.some.inj hget'
  rw [htransfer]
  have hkeeps := t.keeps_step event
  exact ⟨rfl, rfl, hkeeps.direction, hkeeps.terminal⟩

theorem keeps_carryOut (decision : AttachmentDecision) (t : LiveTransfer) :
    t.Keeps { t with transfer := carryOut decision t.transfer } := by
  unfold carryOut
  cases decision.kind with
  | accept => exact t.keeps_step (.accept decision (some decision.issuedAt))
  | reject => exact LiveTransfer.keeps_of_transfer rfl rfl rfl
  | cancel => exact t.keeps_step (.cancel decision (some decision.issuedAt))

end Settled

end AttachmentController

end Branch.Pwa
