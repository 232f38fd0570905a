import Branch.Pwa.ContactPresence
import Branch.Pwa.Tab

/-!
What a pong does at an endpoint. Before it is known to be one, it is traffic of a contact like
any other.
-/

namespace Branch.Pwa.Presence

open Branch.Lib

section Model

structure CapabilityRenewal where
  senderPeerId : String
  recipientPeerId : String
  recipientHpkePublicKey : String
  deriving DecidableEq

structure Endpoint where
  tab : Tab
  identity : Option String
  /-- The store shows the tab as attached. -/
  attached : Bool
  visible : Bool
  presence : ContactPresenceById
  /-- The peers that have said that they take texts. -/
  chatTextPeers : List String
  renewals : List CapabilityRenewal
  transportTrace : List String

namespace Endpoint

def recordTransportTrace (s : Endpoint) (detail : String) : Endpoint :=
  { s with transportTrace := s.transportTrace ++ [detail] }

def hasAttachedRelaySession (s : Endpoint) : Bool := s.tab.session.any RelaySession.attached

def needsQueuedTextCapabilityRenewal (s : Endpoint) (contactId peerId : String) : Bool :=
  s.tab.outbox.entries.any (fun entry => entry.contactId = contactId) &&
    !s.chatTextPeers.contains peerId

/-- The announcement that a queued text of a contact waits for. -/
def queuedRenewal? (s : Endpoint) (contactId : String) : Option CapabilityRenewal :=
  if s.visible = false ∨ s.hasAttachedRelaySession = false ∨ s.attached = false then none
  else
    match s.identity, s.tab.contact? contactId with
    | some senderPeerId, some { contactId, peerId := some peerId, hpkePublicKey := some key } =>
      if s.needsQueuedTextCapabilityRenewal contactId peerId then
        some { senderPeerId, recipientPeerId := peerId, recipientHpkePublicKey := key }
      else none
    | _, _ => none

def renewQueuedTextCapabilityAfterPresencePong (s : Endpoint) (contactId : String) : Endpoint :=
  { s with renewals := s.renewals ++ (s.queuedRenewal? contactId).toList }

def restartMessageOutboxDrainAfterPresencePong (s : Endpoint) (contactId : String) (now : Nat) :
    Endpoint :=
  { s with tab := s.tab.restartMessageOutboxDrainAfterPresencePong contactId s.visible now }

/-- What the classification of a pong makes the endpoint do. -/
def handlePong (s : Endpoint) (contactId pingId : String) (now : Nat) : Endpoint :=
  let s := s.recordTransportTrace "incoming envelope: presence_pong"
  let s := { s with presence := acceptContactPresencePong s.presence contactId pingId now }
  (s.restartMessageOutboxDrainAfterPresencePong contactId now).renewQueuedTextCapabilityAfterPresencePong
    contactId

/-- An envelope with a pong, from where it has been opened. A pong of somebody else than a contact
is dropped. -/
def handleIncomingPong (s : Endpoint) (senderPeerId pingId : String) (now : Nat) : Endpoint :=
  let s := s.recordTransportTrace "incoming envelope: opened"
  match s.tab.contacts.find? fun contact => contact.peerId = some senderPeerId with
  | none => s
  | some contact =>
    let s := { s with
      presence := confirmContactPresenceFromLiveTraffic s.presence contact.contactId now }
    s.handlePong contact.contactId pingId now

end Endpoint

end Model

section Pong

variable {s : Endpoint} {contact : Contact} {senderPeerId : String}

/-- The drain of a visible tab waits for a message of the contact. -/
def DrainHeld (s : Endpoint) (contactId : String) : Prop :=
  s.visible = true ∧ ∃ r, s.tab.runtime = some r ∧ r.activeDeliveryId.isSome = true ∧
    r.activeContactId = some contactId

/-- A pong does what it is for, and only if it answers the ping that is outstanding: it shows that
the contact is available, frees the drain that the contact holds, and has a queued text's
capability renewed. -/
structure Answered (s s' : Endpoint) (contactId pingId : String) : Prop where
  shown : ShownByPong s'.presence contactId ↔ Outstanding s.presence contactId pingId
  freed : DrainHeld s contactId →
    (¬ DrainHeld s' contactId ↔ Outstanding s.presence contactId pingId)
  renewed : ∀ renewal, s.queuedRenewal? contactId = some renewal →
    (s'.renewals = s.renewals ++ [renewal] ↔ Outstanding s.presence contactId pingId)
  /-- Nothing is restarted where nothing is outstanding. -/
  kept : ¬ Outstanding s.presence contactId pingId → s'.tab = s.tab ∧ s'.renewals = s.renewals

theorem handleIncomingPong_eq (pingId : String) (now : Nat)
    (hknown : s.tab.contacts.find? (fun contact => contact.peerId = some senderPeerId) =
      some contact) :
    ∃ transportTrace, s.handleIncomingPong senderPeerId pingId now =
      ({ s with
        presence := confirmContactPresenceFromLiveTraffic s.presence contact.contactId now
        tab := s.tab.restartMessageOutboxDrainAfterPresencePong contact.contactId s.visible now
        transportTrace } : Endpoint).renewQueuedTextCapabilityAfterPresencePong
          contact.contactId := by
  refine ⟨s.transportTrace ++ ["incoming envelope: opened"] ++
    ["incoming envelope: presence_pong"], ?_⟩
  unfold Endpoint.handleIncomingPong
  dsimp only [Endpoint.recordTransportTrace]
  rw [hknown]
  dsimp only [Endpoint.handlePong, Endpoint.recordTransportTrace,
    Endpoint.restartMessageOutboxDrainAfterPresencePong]
  rw [acceptContactPresencePong_confirm]

theorem restart_of_not_drainHeld (now : Nat) (h : ¬ DrainHeld s contact.contactId) :
    s.tab.restartMessageOutboxDrainAfterPresencePong contact.contactId s.visible now = s.tab := by
  unfold Tab.restartMessageOutboxDrainAfterPresencePong
  split
  · rfl
  · rename_i r hr
    split
    · rfl
    · rename_i deliveryId hactive
      rw [if_pos]
      by_contra hheld
      rw [not_or, Bool.not_eq_false, not_not] at hheld
      exact h ⟨hheld.1, r, hr, by rw [hactive]; rfl, hheld.2⟩

theorem activeDeliveryId_of_drainHeld (now : Nat) (h : DrainHeld s contact.contactId) :
    ∃ r, (s.tab.restartMessageOutboxDrainAfterPresencePong contact.contactId s.visible
      now).runtime = some r ∧ r.activeDeliveryId = none := by
  obtain ⟨hvisible, r, hr, hactive, hcontact⟩ := h
  obtain ⟨deliveryId, hdelivery⟩ := Option.isSome_iff_exists.mp hactive
  unfold Tab.restartMessageOutboxDrainAfterPresencePong
  rw [hr]
  dsimp only
  rw [hdelivery]
  dsimp only
  rw [if_neg (by simp [hvisible, hcontact])]
  exact ⟨_, rfl, rfl⟩

theorem not_outstanding_of_answered {pingId : String} {now : Nat}
    (hknown : s.tab.contacts.find? (fun contact => contact.peerId = some senderPeerId) =
      some contact)
    (h : Answered s (s.handleIncomingPong senderPeerId pingId now) contact.contactId pingId) :
    ¬ Outstanding s.presence contact.contactId pingId := by
  obtain ⟨transportTrace, heq⟩ := handleIncomingPong_eq pingId now hknown
  rw [heq] at h
  exact fun houtstanding => not_shownByPong_confirm now (h.shown.mpr houtstanding)

/-- A pong does what it is for exactly where there is nothing to do: it answers no ping, since
what comes first has forgotten the ping that it answers, and it restarts whatever it finds. -/
theorem answered_iff (s : Endpoint) (contact : Contact) (senderPeerId pingId : String) (now : Nat)
    (hknown : s.tab.contacts.find? (fun contact => contact.peerId = some senderPeerId) =
      some contact) :
    Answered s (s.handleIncomingPong senderPeerId pingId now) contact.contactId pingId ↔
      ¬ Outstanding s.presence contact.contactId pingId ∧ ¬ DrainHeld s contact.contactId ∧
        s.queuedRenewal? contact.contactId = none := by
  have hanswers := @not_outstanding_of_answered s contact senderPeerId pingId now hknown
  obtain ⟨transportTrace, heq⟩ := handleIncomingPong_eq pingId now hknown
  rw [heq] at hanswers ⊢
  constructor
  · intro h
    have hnot := hanswers h
    obtain ⟨-, hfreed, hrenewed, -⟩ := h
    have hheld : ¬ DrainHeld s contact.contactId := by
      intro hheld
      refine hnot ((hfreed hheld).mp ?_)
      rintro ⟨-, r, hr, hactive, -⟩
      obtain ⟨r', hr', hfree⟩ := activeDeliveryId_of_drainHeld now hheld
      obtain rfl := Option.some.inj (hr.symm.trans hr')
      rw [hfree] at hactive
      cases hactive
    refine ⟨hnot, hheld, ?_⟩
    cases hrenewal : s.queuedRenewal? contact.contactId with
    | none => rfl
    | some renewal =>
      refine absurd ((hrenewed renewal hrenewal).mp ?_) hnot
      rw [restart_of_not_drainHeld now hheld]
      exact congrArg (fun renewal => s.renewals ++ Option.toList renewal) hrenewal
  · rintro ⟨hnot, hheld, hnone⟩
    have htab := restart_of_not_drainHeld now hheld
    have hrenewals : s.renewals ++ (s.queuedRenewal? contact.contactId).toList = s.renewals := by
      rw [hnone]
      exact List.append_nil _
    rw [htab]
    exact
      { shown := iff_of_false (not_shownByPong_confirm now) hnot
        freed := fun h => absurd h hheld
        renewed := fun renewal h => absurd (hnone.symm.trans h) (Option.some_ne_none renewal).symm
        kept := fun _ => ⟨rfl, hrenewals⟩ }

def pingedContact : Contact where
  contactId := "contact"
  peerId := some "peer"
  hpkePublicKey := some "key"

def pinged : Endpoint where
  tab := { contacts := [pingedContact] }
  identity := some "self"
  attached := true
  visible := true
  presence := beginContactPresencePing .empty "contact" "ping" 1000
  chatTextPeers := []
  renewals := []
  transportTrace := []

theorem answered_unsolicited :
    Answered pinged (pinged.handleIncomingPong "peer" "other" 2000) "contact" "other" := by
  refine (answered_iff pinged pingedContact "peer" "other" 2000 rfl).mpr ⟨?_, ?_, rfl⟩
  · rintro ⟨current, hget, hpending⟩
    obtain rfl : current = begun none "ping" 1000 := (Option.some.inj hget).symm
    exact absurd hpending (by decide)
  · rintro ⟨-, r, hr, -⟩
    cases hr

theorem not_answered_matching :
    ¬ Answered pinged (pinged.handleIncomingPong "peer" "ping" 2000) "contact" "ping" := by
  have hknown : pinged.tab.contacts.find? (fun contact => contact.peerId = some "peer") =
      some pingedContact := rfl
  exact fun h => not_outstanding_of_answered hknown h ⟨begun none "ping" 1000, rfl, rfl⟩

end Pong

end Branch.Pwa.Presence
