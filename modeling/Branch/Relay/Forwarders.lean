import Branch.Relay.Routes

/-!
Which forwarders the hub refers to, and what becomes of those that it gives up.
-/

namespace Branch.Relay

open Branch.Lib
open Branch.Wss

namespace Hub

/-- A route or a federated presence entry refers to the forwarder. -/
def Holds (hub : Hub) (f : ForwarderRef) : Prop :=
  (∃ r route, hub.routes.get? r = some route ∧ f ∈ route.federatedForwarders) ∨
    ∃ p entry, hub.federatedPresence.get? p = some entry ∧ entry.forwarder = some f

theorem holds_iff_lists {hub : Hub} {f : ForwarderRef} :
    hub.Holds f ↔ (∃ e ∈ hub.routes.toList, f ∈ e.2.federatedForwarders) ∨
      ∃ e ∈ hub.federatedPresence.toList, e.2.forwarder = some f := by
  refine or_congr ?_ ?_
  · constructor
    · rintro ⟨r, route, hroute, hf⟩
      exact ⟨(r, route), Table.mem_toList_iff.mpr hroute, hf⟩
    · rintro ⟨⟨r, route⟩, hroute, hf⟩
      exact ⟨r, route, Table.mem_toList_iff.mp hroute, hf⟩
  · constructor
    · rintro ⟨p, entry, hentry, hf⟩
      exact ⟨(p, entry), Table.mem_toList_iff.mpr hentry, hf⟩
    · rintro ⟨⟨p, entry⟩, hentry, hf⟩
      exact ⟨p, entry, Table.mem_toList_iff.mp hentry, hf⟩

instance (hub : Hub) (f : ForwarderRef) : Decidable (hub.Holds f) :=
  decidable_of_iff _ holds_iff_lists.symm

/-- `Holds`, but for the federated entry of one peer. -/
def HoldsBeside (hub : Hub) (p : PeerID) (f : ForwarderRef) : Prop :=
  (∃ r route, hub.routes.get? r = some route ∧ f ∈ route.federatedForwarders) ∨
    ∃ q entry, q ≠ p ∧ hub.federatedPresence.get? q = some entry ∧
      entry.forwarder = some f

section FederatedPresence

theorem attach_federatedPresence (hub : Hub) (id : SessionID) :
    (hub.attach id).hub.federatedPresence = hub.federatedPresence := by
  unfold attach
  repeat' split
  all_goals rfl

theorem pair_federatedPresence (hub : Hub) (routeID : RouteID) (left right : SessionID) :
    (hub.pair routeID left right).hub.federatedPresence = hub.federatedPresence := by
  unfold pair
  repeat' split
  all_goals rfl

theorem announcePresence_federatedPresence (hub : Hub) (id : SessionID) (peerID : PeerID)
    (now : Time) :
    (hub.announcePresence id peerID now).hub.federatedPresence = hub.federatedPresence := by
  unfold announcePresence
  repeat' split
  all_goals rfl

theorem heartbeat_federatedPresence (hub : Hub) (id : SessionID) (now : Time) :
    (hub.heartbeat id now).hub.federatedPresence = hub.federatedPresence := by
  unfold heartbeat
  repeat' split
  all_goals rfl

theorem lookupLocalLocked_federatedPresence (hub : Hub) (peerID : PeerID) (now : Time) :
    (hub.lookupLocalLocked peerID now).1.federatedPresence = hub.federatedPresence := by
  unfold lookupLocalLocked
  simp only
  repeat' split
  all_goals rfl

theorem detach_federatedPresence (hub : Hub) (id : SessionID) :
    (hub.detach id).hub.federatedPresence = hub.federatedPresence := by
  unfold detach
  repeat' split
  all_goals rfl

theorem forwardLocked_federatedPresence (hub : Hub) (ctxErr : Option Err)
    (source : SessionID) (routeID : RouteID) (payload : Bytes) (now : Time)
    (delivery : Option Delivery) :
    (hub.forwardLocked ctxErr source routeID payload now delivery).hub.federatedPresence =
      hub.federatedPresence := by
  have hspec := forwardLocked_spec hub ctxErr source routeID payload now delivery
  generalize hub.forwardLocked ctxErr source routeID payload now delivery = o at hspec ⊢
  cases hspec
  all_goals rfl

theorem forwardCompleted_federatedPresence (hub : Hub) (pending : PendingForward)
    (err : Option Err) :
    (hub.forwardCompleted pending err).hub.federatedPresence = hub.federatedPresence := by
  unfold forwardCompleted rollbackUsageLocked rememberForwarded
  simp only
  repeat' split
  all_goals rfl

theorem deliverFromFederated_federatedPresence (hub : Hub) (ctxErr : Option Err)
    (routeID : RouteID) (payload : Bytes) (senderPeerID : PeerID) :
    (hub.deliverFromFederated ctxErr routeID payload senderPeerID).hub.federatedPresence =
      hub.federatedPresence := by
  have hspec := deliverFromFederated_spec hub ctxErr routeID payload senderPeerID
  generalize hub.deliverFromFederated ctxErr routeID payload senderPeerID = o at hspec ⊢
  cases hspec
  all_goals rfl

def LocalMiss (hub : Hub) (p : PeerID) (now : Time) : Prop :=
  ∀ entry, hub.presence.get? p = some entry → ¬now < entry.expiresAt

theorem localMiss_of_lookup {hub hub' : Hub} (hi : hub.Invariant) {p : PeerID}
    {now : Time} (h : hub.lookupLocalLocked p now = (hub', none)) : hub.LocalMiss p now := by
  intro entry hentry
  rcases lookupLocalLocked_eq_none h with ⟨_, hnone⟩ | ⟨_, entry', hentry', hstale⟩
  · rw [hnone] at hentry
    cases hentry
  · rw [hentry'] at hentry
    cases hentry
    exact (hi.presenceStale_iff hentry' now).mp hstale

theorem lookup_of_localMiss {hub : Hub} {p : PeerID} {now : Time}
    (h : hub.LocalMiss p now) : (hub.lookupLocalLocked p now).2 = none := by
  unfold lookupLocalLocked
  cases hentry : hub.presence.get? p with
  | none => rfl
  | some entry => simp [h entry hentry]

theorem lookupFederatedLocked_federatedPresence (hub : Hub) (p : PeerID) (now : Time)
    (hsome : ∀ entry, hub.federatedPresence.get? p = some entry → entry.forwarder.isSome) :
    (hub.lookupFederatedLocked p now).1.federatedPresence =
      match hub.federatedPresence.get? p with
      | none => hub.federatedPresence
      | some entry =>
        if now < entry.expiresAt then hub.federatedPresence
        else hub.federatedPresence.erase p := by
  unfold lookupFederatedLocked
  cases hentry : hub.federatedPresence.get? p with
  | none => rfl
  | some entry =>
    have hforwarder := hsome entry hentry
    by_cases hnow : now < entry.expiresAt
    · simp [hnow, Option.isNone_iff_eq_none, Option.ne_none_iff_isSome.mpr hforwarder]
    · simp [hnow]

end FederatedPresence

end Hub

namespace System

/-- The object has a `Close` method. -/
def Closable (w : System) (f : ForwarderRef) : Prop :=
  ∃ object, w.forwarders[f]? = some object ∧ object.closable = true

/-- The forwarder is closed, or an operation that has given it up is about to call
its `Close`. -/
def Released (w : System) (f : ForwarderRef) : Prop :=
  f ∈ w.closing ∨ ∃ object, w.forwarders[f]? = some object ∧ object.isClosed = true

instance (w : System) (f : ForwarderRef) : Decidable (w.Released f) :=
  decidable_of_iff (f ∈ w.closing ∨ w.forwarders[f]?.any ForwarderObject.isClosed = true) (by
    rw [Released, Option.any_eq_true])

/-- The objects are never replaced, never reopened, and closed where they are due. -/
structure ForwardersKept (w w' : System) : Prop where
  length : w.forwarders.length ≤ w'.forwarders.length
  closable : ∀ f, f < w.forwarders.length → (w'.Closable f ↔ w.Closable f)
  released : ∀ f, w.Closable f → w.Released f → w'.Released f

theorem ForwardersKept.closable_of {w w' : System} (h : ForwardersKept w w')
    (f : ForwarderRef) (hclosable : w.Closable f) : w'.Closable f := by
  have hlt : f < w.forwarders.length := by
    obtain ⟨object, hobject, _⟩ := hclosable
    exact (List.getElem?_eq_some_iff.mp hobject).1
  exact (h.closable f hlt).mpr hclosable

theorem ForwardersKept.of_eq {w w' : System} (hforwarders : w'.forwarders = w.forwarders)
    (hclosing : ∀ f ∈ w.closing, f ∈ w'.closing) : ForwardersKept w w' := by
  refine ⟨by rw [hforwarders], ?_, ?_⟩
  · intro f _
    rw [Closable, hforwarders]
    exact Iff.rfl
  · rintro f - (h | h)
    · exact .inl (hclosing f h)
    · right
      rwa [hforwarders]

theorem ForwardersKept.settled {α : Type} {w w' : System} {o : Outcome α}
    (hforwarders : w'.forwarders = w.forwarders)
    (hclosing : w'.closing = o.closers ++ w.closing) : ForwardersKept w w' := by
  refine .of_eq hforwarders ?_
  intro f h
  rw [hclosing]
  exact List.mem_append_right _ h

theorem newForwarder_kept (w : System) (object : ForwarderObject) :
    ForwardersKept w { w with forwarders := w.forwarders ++ [object] } := by
  have hkeep : ∀ f, f < w.forwarders.length →
      (w.forwarders ++ [object])[f]? = w.forwarders[f]? :=
    fun f h => List.getElem?_append_left h
  refine ⟨by simp, ?_, ?_⟩
  · intro f hlt
    rw [Closable, hkeep f hlt]
    exact Iff.rfl
  · rintro f - (h | ⟨o, ho, hclosed⟩)
    · exact .inl h
    · refine .inr ⟨o, ?_, hclosed⟩
      rw [hkeep f (List.getElem?_eq_some_iff.mp ho).1]
      exact ho

theorem closeForwarder_kept (w : System) (forwarder : ForwarderRef) :
    ForwardersKept w (w.closeForwarder forwarder) := by
  unfold closeForwarder
  split
  · have hget : ∀ (f : Nat) o, w.forwarders[f]? = some o →
        (w.forwarders.modify forwarder ForwarderObject.close)[f]? =
          some (if forwarder = f then o.close else o) := by
      intro f o h
      rw [List.getElem?_modify, h]
      split
      · simp
      · simp
    have hclosable : ∀ o : ForwarderObject, ∀ f : ForwarderRef,
        (if forwarder = f then o.close else o).closable = o.closable := by
      intro o f
      split
      · exact ForwarderObject.close_closable o
      · rfl
    refine ⟨by simp, ?_, ?_⟩
    · intro f hlt
      have ho := hget f _ (List.getElem?_eq_getElem hlt)
      constructor
      · rintro ⟨o', ho', h⟩
        rw [ho] at ho'
        cases ho'
        exact ⟨_, List.getElem?_eq_getElem hlt, hclosable _ f ▸ h⟩
      · rintro ⟨o', ho', h⟩
        rw [List.getElem?_eq_getElem hlt] at ho'
        cases ho'
        exact ⟨_, ho, (hclosable _ f).trans h⟩
    · rintro f ⟨o, ho, hclosable⟩ hreleased
      by_cases hf : forwarder = f
      · right
        refine ⟨_, hget f o ho, ?_⟩
        rw [if_pos hf]
        exact ForwarderObject.isClosed_close hclosable
      · rcases hreleased with h | ⟨o', ho', hclosed⟩
        · left
          exact (List.mem_erase_of_ne (Ne.symm hf)).mpr h
        · right
          refine ⟨_, hget f o' ho', ?_⟩
          rw [if_neg hf]
          exact hclosed
  · exact .of_eq rfl (fun _ h => h)

theorem setForwarder_kept {w w' : System} {f : ForwarderRef} {object : ForwarderObject}
    (hobject : w.forwarders[f]? = some object) {routeID : RouteID} {reply : ForwardReply}
    (hforwarders : w'.forwarders = w.forwarders.set f (object.forward routeID reply).1)
    (hclosing : w'.closing = w.closing) : ForwardersKept w w' := by
  have hget : ∀ (g : Nat) o, w.forwarders[g]? = some o →
      ∃ o', w'.forwarders[g]? = some o' ∧ o'.closable = o.closable ∧
        (o.isClosed = true → o'.isClosed = true) := by
    intro g o h
    rw [hforwarders]
    by_cases hg : f = g
    · subst hg
      rw [hobject] at h
      cases h
      refine ⟨_, ?_, ForwarderObject.forward_closable _ _ _, fun hclosed =>
        ForwarderObject.isClosed_forward_of_isClosed hclosed routeID reply⟩
      rw [List.getElem?_set_self (List.getElem?_eq_some_iff.mp hobject).1]
    · exact ⟨o, by rw [List.getElem?_set_ne hg, h], rfl, id⟩
  refine ⟨by simp [hforwarders], ?_, ?_⟩
  · intro g hlt
    obtain ⟨o', ho', hsame, _⟩ := hget g _ (List.getElem?_eq_getElem hlt)
    constructor
    · rintro ⟨o, ho, hclosable⟩
      rw [ho'] at ho
      cases ho
      exact ⟨_, List.getElem?_eq_getElem hlt, hsame.symm.trans hclosable⟩
    · rintro ⟨o, ho, hclosable⟩
      rw [List.getElem?_eq_getElem hlt] at ho
      cases ho
      exact ⟨o', ho', hsame.trans hclosable⟩
  · rintro g - (h | ⟨o, ho, hclosed⟩)
    · exact .inl (hclosing ▸ h)
    · obtain ⟨o', ho', _, hkept⟩ := hget g o ho
      exact .inr ⟨o', ho', hkept hclosed⟩

theorem forwardReturns_forwarders (w : System) (call : Nat) (reply : ForwardReply) :
    ForwardersKept w (w.forwardReturns call reply) := by
  unfold forwardReturns
  split
  · exact .of_eq rfl (fun _ h => h)
  · split
    · rename_i pending serial _
      split
      · exact .of_eq rfl (fun _ h => h)
      · rename_i object hobject
        exact setForwarder_kept hobject rfl rfl
    · exact .of_eq rfl (fun _ h => h)

theorem attach_forwarders (w : System) (id : SessionID) :
    ForwardersKept w (w.attach id) := by
  unfold attach
  simp only
  split
  · exact .settled rfl rfl
  · exact .settled rfl rfl

theorem sendLocked_forwarders (w : System) (call : Nat) (ctxErr : Option Err) :
    ForwardersKept w (w.sendLocked call ctxErr) := by
  unfold sendLocked
  split
  · exact .of_eq rfl (fun _ h => h)
  · split
    · simp only
      split
      · exact .settled rfl rfl
      · exact .settled rfl rfl
      · exact .settled rfl rfl
    · exact .of_eq rfl (fun _ h => h)

theorem sendCompleted_forwarders (w : System) (call : Nat) :
    ForwardersKept w (w.sendCompleted call) := by
  unfold sendCompleted
  split
  · exact .of_eq rfl (fun _ h => h)
  · split
    · simp only
      split
      · exact .settled rfl rfl
      · exact .settled rfl rfl
    · exact .of_eq rfl (fun _ h => h)

theorem deliverFromFederated_forwarders (w : System) (ctxErr : Option Err)
    (routeID : RouteID) (payload : Bytes) (senderPeerID : PeerID) :
    ForwardersKept w (w.deliverFromFederated ctxErr routeID payload senderPeerID) := by
  unfold deliverFromFederated
  simp only
  split
  · exact .settled rfl rfl
  · exact .settled rfl rfl

theorem receive_forwarders (w : System) (e : Event)
    (he : (∃ handle, e = .receive handle) ∨ (∃ call, e = .receiveLookup call) ∨
      (∃ call arm, e = .receiveSelect call arm) ∨ ∃ call, e = .receiveReturns call) :
    (w.step e).forwarders = w.forwarders ∧ (w.step e).closing = w.closing ∧
      (w.step e).hub.federatedPresence = w.hub.federatedPresence := by
  rcases he with ⟨handle, rfl⟩ | ⟨call, rfl⟩ | ⟨call, arm, rfl⟩ | ⟨call, rfl⟩
  · simp only [step, receive]
    repeat' split
    all_goals exact ⟨rfl, rfl, rfl⟩
  · simp only [step, receiveLookup]
    repeat' split
    all_goals exact ⟨rfl, rfl, rfl⟩
  · simp only [step, receiveSelect]
    repeat' split
    any_goals exact ⟨rfl, rfl, rfl⟩
    rename_i frame hub htake
    rcases Hub.takeFrame_eq_some htake with ⟨state, inbox, _, _, _, _, rfl⟩
    exact ⟨rfl, rfl, rfl⟩
  · simp only [step, receiveReturns]
    repeat' split
    all_goals exact ⟨rfl, rfl, rfl⟩

theorem step_forwarders (w : System) (e : Event) : ForwardersKept w (w.step e) := by
  have hreceive := receive_forwarders w e
  cases e with
  | write buffer bytes => exact .of_eq rfl (fun _ h => h)
  | newForwarder object => exact newForwarder_kept w object
  | closeForwarder forwarder => exact closeForwarder_kept w forwarder
  | tick now => exact .of_eq rfl (fun _ h => h)
  | attach id => exact attach_forwarders w id
  | pair routeID left right =>
    exact .settled (settleBinding_forwarders _ _ _) (settleBinding_closing _ _ _)
  | announceFederatedPresence peerID forwarder now => exact .settled rfl rfl
  | announcePresence id peerID now => exact .settled rfl rfl
  | heartbeat id now => exact .settled rfl rfl
  | lookup peerID now => exact .settled rfl rfl
  | lookupLocal peerID now => exact .settled rfl rfl
  | rendezvous source routeID peerID now =>
    exact .settled (settleBinding_forwarders _ _ _) (settleBinding_closing _ _ _)
  | sweepExpired now => exact .settled rfl rfl
  | closeSession id => exact .settled rfl rfl
  | closeHub => exact .settled rfl rfl
  | deliverFromFederated ctxErr routeID payload senderPeerID =>
    exact deliverFromFederated_forwarders w ctxErr routeID payload senderPeerID
  | send source routeID buffer delivery now ctxErr => exact .of_eq rfl (fun _ h => h)
  | sendLocked call ctxErr => exact sendLocked_forwarders w call ctxErr
  | forwardReturns call reply => exact forwardReturns_forwarders w call reply
  | sendCompleted call => exact sendCompleted_forwarders w call
  | receive handle =>
    obtain ⟨hforwarders, hclosing, _⟩ := hreceive (.inl ⟨handle, rfl⟩)
    exact .of_eq hforwarders (fun _ h => hclosing ▸ h)
  | receiveLookup call =>
    obtain ⟨hforwarders, hclosing, _⟩ := hreceive (.inr (.inl ⟨call, rfl⟩))
    exact .of_eq hforwarders (fun _ h => hclosing ▸ h)
  | receiveSelect call arm =>
    obtain ⟨hforwarders, hclosing, _⟩ := hreceive (.inr (.inr (.inl ⟨call, arm, rfl⟩)))
    exact .of_eq hforwarders (fun _ h => hclosing ▸ h)
  | receiveReturns call =>
    obtain ⟨hforwarders, hclosing, _⟩ := hreceive (.inr (.inr (.inr ⟨call, rfl⟩)))
    exact .of_eq hforwarders (fun _ h => hclosing ▸ h)

/-- The event deletes or overwrites the federated entry of a peer without closing
its forwarder. -/
def DropsEntry (w : System) (p : PeerID) (entry : FederatedPresenceState) : Event → Prop
  | .announceFederatedPresence peerID forwarder _ =>
    p = peerID ∧ validateID peerID = none ∧ forwarder.isSome ∧ forwarder ≠ entry.forwarder
  | .lookup peerID now => p = peerID ∧ w.hub.LocalMiss p now ∧ ¬now < entry.expiresAt
  | .rendezvous source routeID peerID now =>
    p = peerID ∧ validateID routeID = none ∧ validateID peerID = none ∧
      (w.hub.sessions.get? source).isSome ∧ w.hub.routes.get? routeID = none ∧
      w.hub.LocalMiss p now ∧ ¬now < entry.expiresAt
  | _ => False

/-- No event of these two kinds drops the last reference to an open forwarder: the
announcement of another bridge for a peer, and a lookup of an expired entry. -/
def LeakGuard (w : System) (e : Event) : Prop :=
  ∀ p entry f, w.hub.federatedPresence.get? p = some entry → entry.forwarder = some f →
    DropsEntry w p entry e → w.Closable f → w.hub.HoldsBeside p f ∨ w.Released f

/-- Every forwarder that the hub refers to before the event is still referred to
after it, or released. -/
def NoLeak (w : System) (e : Event) : Prop :=
  ∀ f, w.Closable f → w.hub.Holds f → (w.step e).hub.Holds f ∨ (w.step e).Released f

/-- The entry stays, or its forwarder is about to be closed. -/
def EntryKept (p : PeerID) (f : ForwarderRef) (w' : System) : Prop :=
  (∃ entry', w'.hub.federatedPresence.get? p = some entry' ∧ entry'.forwarder = some f) ∨
    f ∈ w'.closing

section Entries

variable {w : System} {p : PeerID} {entry : FederatedPresenceState} {f : ForwarderRef}

theorem EntryKept.of_eq {w' : System} (h : w.hub.federatedPresence.get? p = some entry)
    (hf : entry.forwarder = some f)
    (hsame : w'.hub.federatedPresence = w.hub.federatedPresence) : EntryKept p f w' :=
  .inl ⟨entry, by rw [hsame, h], hf⟩

theorem announceFederatedPresence_entry (h : w.hub.federatedPresence.get? p = some entry)
    (hf : entry.forwarder = some f) (peerID : PeerID) (forwarder : Option ForwarderRef)
    (now : Time) :
    EntryKept p f (w.step (.announceFederatedPresence peerID forwarder now)) ∨
      DropsEntry w p entry (.announceFederatedPresence peerID forwarder now) := by
  by_cases hdrop : p = peerID ∧ validateID peerID = none ∧ forwarder.isSome ∧
      forwarder ≠ entry.forwarder
  · exact .inr hdrop
  · left
    simp only [step, EntryKept, observe, settle, Hub.announceFederatedPresence]
    split
    · exact .inl ⟨entry, h, hf⟩
    · rename_i hvalid
      split
      · exact .inl ⟨entry, h, hf⟩
      · rename_i hsome
        split
        · exact .inl ⟨entry, h, hf⟩
        · left
          simp only [Table.get?_insert]
          by_cases hp : p = peerID
          · refine ⟨_, by rw [if_pos hp], ?_⟩
            by_contra hne
            apply hdrop
            refine ⟨hp, hvalid, by simpa [Option.isSome_iff_ne_none] using hsome, ?_⟩
            rw [hf]
            exact hne
          · exact ⟨entry, by rw [if_neg hp, h], hf⟩

theorem lookupFederated_entry {hub : Hub} (hhub : hub.federatedPresence.get? p = some entry)
    (hsome : ∀ entry, hub.federatedPresence.get? p = some entry → entry.forwarder.isSome)
    (peerID : PeerID) (now : Time) (hlive : p = peerID → now < entry.expiresAt) :
    (hub.lookupFederatedLocked peerID now).1.federatedPresence.get? p = some entry := by
  by_cases hp : p = peerID
  · subst hp
    rw [hub.lookupFederatedLocked_federatedPresence p now hsome, hhub]
    simp only [if_pos (hlive rfl), hhub]
  · unfold Hub.lookupFederatedLocked
    simp only
    repeat' split
    all_goals simp [Table.get?_erase_of_ne _ hp, hhub]

theorem lookup_entry (hi : w.hub.Invariant)
    (h : w.hub.federatedPresence.get? p = some entry) (hf : entry.forwarder = some f)
    (peerID : PeerID) (now : Time) :
    EntryKept p f (w.step (.lookup peerID now)) ∨
      DropsEntry w p entry (.lookup peerID now) := by
  by_cases hdrop : p = peerID ∧ w.hub.LocalMiss p now ∧ ¬now < entry.expiresAt
  · exact .inr hdrop
  · left
    left
    refine ⟨entry, ?_, hf⟩
    change (w.hub.lookupLocked peerID now).1.federatedPresence.get? p = some entry
    have hfed := w.hub.lookupLocalLocked_federatedPresence peerID now
    unfold Hub.lookupLocked
    split
    · rename_i hlocal
      rw [hlocal] at hfed
      exact hfed ▸ h
    · rename_i hub' hlocal
      rw [hlocal] at hfed
      have hentry : hub'.federatedPresence.get? p = some entry := hfed ▸ h
      have hkept := lookupFederated_entry hentry
        (fun e he => hi.federated p e (hfed ▸ he)) peerID now (by
          intro hp
          by_contra hexpired
          exact hdrop ⟨hp, hp ▸ Hub.localMiss_of_lookup hi hlocal, hexpired⟩)
      split
      · rename_i hfound
        rwa [hfound] at hkept
      · rename_i hfound
        rwa [hfound] at hkept

theorem rendezvous_entry (hi : w.hub.Invariant)
    (h : w.hub.federatedPresence.get? p = some entry) (hf : entry.forwarder = some f)
    (source : SessionID) (routeID : RouteID) (peerID : PeerID) (now : Time) :
    EntryKept p f (w.step (.rendezvous source routeID peerID now)) ∨
      DropsEntry w p entry (.rendezvous source routeID peerID now) := by
  by_cases hdrop : DropsEntry w p entry (.rendezvous source routeID peerID now)
  · exact .inr hdrop
  · left
    left
    refine ⟨entry, ?_, hf⟩
    simp only [step, observe_hub, settleBinding_hub]
    have hspec := w.hub.rendezvous_spec source routeID peerID now
    generalize w.hub.rendezvous source routeID peerID now = o at hspec ⊢
    have hfed := w.hub.lookupLocalLocked_federatedPresence peerID now
    cases hspec with
    | refused err => exact h
    | repeated => exact h
    | @missed hub₁ hub₂ hrouteID hpeer hsource hnew hlocal hfederated =>
      rw [hlocal] at hfed
      have hentry : hub₁.federatedPresence.get? p = some entry := hfed ▸ h
      have hkept := lookupFederated_entry hentry
        (fun e he => hi.federated p e (hfed ▸ he)) peerID now (by
          intro hp
          by_contra hexpired
          exact hdrop ⟨hp, hrouteID, hpeer, hsource, hnew,
            hp ▸ Hub.localMiss_of_lookup hi hlocal, hexpired⟩)
      rwa [hfederated] at hkept
    | boundLocal => exact h
    | boundFederated _ _ _ _ hlocal =>
      rw [hlocal] at hfed
      exact hfed ▸ h

theorem sweepExpired_entry (hi : w.hub.Invariant)
    (h : w.hub.federatedPresence.get? p = some entry) (hf : entry.forwarder = some f)
    (now : Time) : EntryKept p f (w.step (.sweepExpired now)) := by
  cases hstale : Hub.federatedPresenceStale entry now with
  | true =>
    right
    apply List.mem_append_left
    apply List.mem_append_left
    apply List.mem_flatMap.mpr
    refine ⟨(p, entry), List.mem_filter.mpr ⟨Table.mem_toList_iff.mpr h, hstale⟩, ?_⟩
    simp [hf]
  | false =>
    left
    refine ⟨entry, Table.get?_filter_eq_some.mpr ⟨h, ?_⟩, hf⟩
    rw [hstale]
    rfl

theorem close_entry (h : w.hub.federatedPresence.get? p = some entry)
    (hf : entry.forwarder = some f) : EntryKept p f (w.step .closeHub) := by
  simp only [step, EntryKept, settle, Hub.close]
  split
  · exact .inl ⟨entry, h, hf⟩
  · right
    apply List.mem_append_left
    apply List.mem_append_right
    apply List.mem_flatMap.mpr
    refine ⟨(p, entry), Table.mem_toList_iff.mpr h, ?_⟩
    simp [hf]

theorem step_entries (hi : w.hub.Invariant)
    (h : w.hub.federatedPresence.get? p = some entry) (hf : entry.forwarder = some f)
    (e : Event) : EntryKept p f (w.step e) ∨ DropsEntry w p entry e := by
  have hreceive := receive_forwarders w e
  cases e with
  | write buffer bytes => exact .inl (.of_eq h hf rfl)
  | newForwarder object => exact .inl (.of_eq h hf rfl)
  | closeForwarder forwarder =>
    left
    apply EntryKept.of_eq h hf
    simp only [step, closeForwarder]
    split
    · rfl
    · rfl
  | tick now => exact .inl (.of_eq h hf rfl)
  | attach id =>
    left
    apply EntryKept.of_eq h hf
    have hfed := w.hub.attach_federatedPresence id
    simp only [step, attach]
    split
    · exact hfed
    · exact hfed
  | pair routeID left right =>
    left
    apply EntryKept.of_eq h hf
    simpa [step] using w.hub.pair_federatedPresence routeID left right
  | announceFederatedPresence peerID forwarder now =>
    exact announceFederatedPresence_entry h hf peerID forwarder now
  | announcePresence id peerID now =>
    exact .inl (.of_eq h hf (w.hub.announcePresence_federatedPresence id peerID now))
  | heartbeat id now =>
    exact .inl (.of_eq h hf (w.hub.heartbeat_federatedPresence id now))
  | lookup peerID now => exact lookup_entry hi h hf peerID now
  | lookupLocal peerID now =>
    exact .inl (.of_eq h hf (w.hub.lookupLocalLocked_federatedPresence peerID now))
  | rendezvous source routeID peerID now =>
    exact rendezvous_entry hi h hf source routeID peerID now
  | sweepExpired now => exact .inl (sweepExpired_entry hi h hf now)
  | closeSession id => exact .inl (.of_eq h hf (w.hub.detach_federatedPresence id))
  | closeHub => exact .inl (close_entry h hf)
  | deliverFromFederated ctxErr routeID payload senderPeerID =>
    left
    apply EntryKept.of_eq h hf
    have hfed :=
      w.hub.deliverFromFederated_federatedPresence ctxErr routeID payload senderPeerID
    simp only [step, deliverFromFederated]
    split
    · exact hfed
    · exact hfed
  | send source routeID buffer delivery now ctxErr => exact .inl (.of_eq h hf rfl)
  | sendLocked call ctxErr =>
    left
    apply EntryKept.of_eq h hf
    simp only [step, sendLocked]
    split
    · rfl
    · rename_i c _
      have hfed := w.hub.forwardLocked_federatedPresence ctxErr c.source c.routeID c.payload
        c.now c.delivery
      repeat' split
      any_goals exact hfed
      rfl
  | forwardReturns call reply =>
    left
    apply EntryKept.of_eq h hf
    simp only [step, forwardReturns]
    repeat' split
    all_goals rfl
  | sendCompleted call =>
    left
    apply EntryKept.of_eq h hf
    simp only [step, sendCompleted]
    split
    · rfl
    · split
      · rename_i pending serial err _
        have hfed := w.hub.forwardCompleted_federatedPresence pending err
        repeat' split
        all_goals exact hfed
      · rfl
  | receive handle => exact .inl (.of_eq h hf (hreceive (.inl ⟨handle, rfl⟩)).2.2)
  | receiveLookup call => exact .inl (.of_eq h hf (hreceive (.inr (.inl ⟨call, rfl⟩))).2.2)
  | receiveSelect call arm =>
    exact .inl (.of_eq h hf (hreceive (.inr (.inr (.inl ⟨call, arm, rfl⟩)))).2.2)
  | receiveReturns call =>
    exact .inl (.of_eq h hf (hreceive (.inr (.inr (.inr ⟨call, rfl⟩)))).2.2)

end Entries

section Leaks

variable {w : System} {p : PeerID} {entry : FederatedPresenceState} {f : ForwarderRef}

theorem dropsEntry_peer {q : PeerID} {entry' : FederatedPresenceState} {e : Event}
    (h : DropsEntry w p entry e) (h' : DropsEntry w q entry' e) : q = p := by
  cases e with
  | announceFederatedPresence => exact h'.1.trans h.1.symm
  | lookup => exact h'.1.trans h.1.symm
  | rendezvous => exact h'.1.trans h.1.symm
  | _ => cases h

theorem step_route_held (hi : w.hub.Invariant) (e : Event) {r : RouteID}
    {route : RouteState} (hroute : w.hub.routes.get? r = some route)
    (hf : f ∈ route.federatedForwarders) :
    (w.step e).hub.Holds f ∨ (w.step e).Released f := by
  cases step_routes hi e with
  | shrunk closers hhub hclosing =>
    rcases hhub.dropped r route hroute with hkept | hdropped
    · exact .inl (.inl ⟨r, route, hkept, hf⟩)
    · exact .inr (.inl (hclosing f (hdropped f hf)))
  | bound routeID route' hnew hroutes =>
    left
    left
    refine ⟨r, route, ?_, hf⟩
    rw [hroutes, Table.get?_insert_of_ne, hroute]
    rintro rfl
    rw [hnew] at hroute
    cases hroute

theorem entryKept_held {w' : System} (h : EntryKept p f w') :
    w'.hub.Holds f ∨ w'.Released f := by
  rcases h with ⟨entry', hentry', hf⟩ | hclosing
  · exact .inl (.inr ⟨p, entry', hentry', hf⟩)
  · exact .inr (.inl hclosing)

theorem noLeak_of_guard (hi : w.hub.Invariant) {e : Event} (hguard : LeakGuard w e) :
    NoLeak w e := by
  rintro f hclosable (⟨r, route, hroute, hf⟩ | ⟨p, entry, hentry, hf⟩)
  · exact step_route_held hi e hroute hf
  · rcases step_entries hi hentry hf e with hkept | hdrops
    · exact entryKept_held hkept
    · rcases hguard p entry f hentry hf hdrops hclosable with hbeside | hreleased
      · rcases hbeside with ⟨r, route, hroute, hf'⟩ | ⟨q, entry', hq, hentry', hf'⟩
        · exact step_route_held hi e hroute hf'
        · rcases step_entries hi hentry' hf' e with hkept | hdrops'
          · exact entryKept_held hkept
          · exact absurd (dropsEntry_peer hdrops hdrops') hq
      · exact .inr ((step_forwarders w e).released f hclosable hreleased)

theorem lookupFederatedLocked_expired {hub : Hub}
    (h : hub.federatedPresence.get? p = some entry) {now : Time}
    (hexpired : ¬now < entry.expiresAt) :
    hub.lookupFederatedLocked p now =
      ({ hub with federatedPresence := hub.federatedPresence.erase p }, none) := by
  simp [Hub.lookupFederatedLocked, h, hexpired]

theorem open_of_federated (hi : w.hub.Invariant)
    (h : w.hub.federatedPresence.get? p = some entry) : w.hub.closed = false := by
  apply Bool.eq_false_iff.mpr
  intro hclosed
  rw [(hi.closed_empty hclosed).2.2.2] at h
  cases h

/-- The tables after an event that drops the entry: nothing else has gone. -/
structure Dropped (w w' : System) (p : PeerID) (f : ForwarderRef) : Prop where
  routes : w'.hub.routes = w.hub.routes
  others : ∀ q, q ≠ p → w'.hub.federatedPresence.get? q = w.hub.federatedPresence.get? q
  gone : ∀ entry', w'.hub.federatedPresence.get? p = some entry' →
    entry'.forwarder ≠ some f
  forwarders : w'.forwarders = w.forwarders
  closing : w'.closing = w.closing

theorem lookup_dropped (hi : w.hub.Invariant)
    (hentry : w.hub.federatedPresence.get? p = some entry) {now : Time}
    (hmiss : w.hub.LocalMiss p now) (hexpired : ¬now < entry.expiresAt) :
    ∃ hub₁ hub₂, w.hub.lookupLocalLocked p now = (hub₁, none) ∧
      hub₁.lookupFederatedLocked p now = (hub₂, none) ∧ hub₂.routes = w.hub.routes ∧
      hub₂.federatedPresence = w.hub.federatedPresence.erase p := by
  have hfed := w.hub.lookupLocalLocked_federatedPresence p now
  have hroutes := w.hub.lookupLocalLocked_routes p now
  have hnone := Hub.lookup_of_localMiss hmiss
  generalize w.hub.lookupLocalLocked p now = found at hfed hroutes hnone
  rcases found with ⟨hub₁, result⟩
  obtain rfl : result = none := hnone
  refine ⟨hub₁, { hub₁ with federatedPresence := hub₁.federatedPresence.erase p }, rfl,
    lookupFederatedLocked_expired (hfed ▸ hentry) hexpired, hroutes, ?_⟩
  simp only at hfed
  simp only [hfed]

theorem step_dropped (hi : w.hub.Invariant)
    (hentry : w.hub.federatedPresence.get? p = some entry) (hf : entry.forwarder = some f)
    {e : Event} (hdrops : DropsEntry w p entry e) : Dropped w (w.step e) p f := by
  have hopen := open_of_federated hi hentry
  cases e with
  | announceFederatedPresence peerID forwarder now =>
    rcases hdrops with ⟨rfl, hvalid, hsome, hne⟩
    have ho : w.hub.announceFederatedPresence p forwarder now =
        ⟨{ w.hub with
          federatedPresence := w.hub.federatedPresence.insert p
            ⟨forwarder, now + w.hub.config.presenceTTL⟩ }, [], none⟩ := by
      simp [Hub.announceFederatedPresence, hvalid, Option.isNone_iff_eq_none,
        Option.ne_none_iff_isSome.mpr hsome, hopen]
    refine ⟨?_, ?_, ?_, rfl, ?_⟩
    · simp only [step, observe, settle, ho]
    · intro q hq
      simp only [step, observe, settle, ho]
      exact Table.get?_insert_of_ne _ _ hq
    · intro entry' hentry'
      simp only [step, observe, settle, ho, Table.get?_insert_self] at hentry'
      cases hentry'
      rw [← hf]
      exact hne
    · simp only [step, observe, settle, ho]
      rfl
  | lookup peerID now =>
    rcases hdrops with ⟨rfl, hmiss, hexpired⟩
    rcases lookup_dropped hi hentry hmiss hexpired with
      ⟨hub₁, hub₂, hlocal, hfederated, hroutes, hfed⟩
    have ho : w.hub.lookupLocked p now = (hub₂, none) := by
      simp only [Hub.lookupLocked, hlocal, hfederated]
    refine ⟨?_, ?_, ?_, rfl, rfl⟩
    · simp only [step, observe, settle, Hub.lookup, ho, hroutes]
    · intro q hq
      simp only [step, observe, settle, Hub.lookup, ho, hfed]
      exact Table.get?_erase_of_ne _ hq
    · intro entry' hentry'
      simp [step, Hub.lookup, ho, hfed] at hentry'
  | rendezvous source routeID peerID now =>
    rcases hdrops with ⟨rfl, hrouteID, hpeer, hsource, hnew, hmiss, hexpired⟩
    rcases lookup_dropped hi hentry hmiss hexpired with
      ⟨hub₁, hub₂, hlocal, hfederated, hroutes, hfed⟩
    have ho : w.hub.rendezvous source routeID p now =
        hub₂.returns (some .peerUnavailable) := by
      simp [Hub.rendezvous, hrouteID, hpeer, hopen, hnew, hlocal, hfederated,
        Option.isNone_iff_eq_none, Option.ne_none_iff_isSome.mpr hsource]
    refine ⟨?_, ?_, ?_, ?_, ?_⟩
    · simp [step, ho, Hub.returns, hroutes]
    · intro q hq
      simp [step, ho, Hub.returns, hfed, Table.get?_erase_of_ne _ hq]
    · intro entry' hentry'
      simp [step, ho, Hub.returns, hfed] at hentry'
    · simp [step]
    · simp [step, ho, Hub.returns]
  | _ => cases hdrops

theorem guard_of_noLeak (hi : w.hub.Invariant) {e : Event} (hleak : NoLeak w e) :
    LeakGuard w e := by
  intro p entry f hentry hf hdrops hclosable
  have hstep := step_dropped hi hentry hf hdrops
  rcases hleak f hclosable (.inr ⟨p, entry, hentry, hf⟩) with hheld | hreleased
  · left
    rcases hheld with ⟨r, route, hroute, hmem⟩ | ⟨q, entry', hentry', hf'⟩
    · exact .inl ⟨r, route, hstep.routes ▸ hroute, hmem⟩
    · right
      by_cases hq : q = p
      · rw [hq] at hentry'
        exact absurd hf' (hstep.gone entry' hentry')
      · exact ⟨q, entry', hq, hstep.others q hq ▸ hentry', hf'⟩
  · right
    rwa [Released, hstep.closing, hstep.forwarders] at hreleased

theorem noLeak_iff (hi : w.hub.Invariant) (e : Event) : NoLeak w e ↔ LeakGuard w e :=
  ⟨guard_of_noLeak hi, noLeak_of_guard hi⟩

end Leaks

/-- Every forwarder object that the hub refers to at some point of the run is
referred to at every later point, or has been released by then. -/
def NeverLeaks (config : ValidConfig) (events : List Event) : Prop :=
  ∀ es₁ es₂ es₃, events = es₁ ++ (es₂ ++ es₃) →
    ∀ f, (after config es₁).Closable f → (after config es₁).hub.Holds f →
      (after config (es₁ ++ es₂)).hub.Holds f ∨ (after config (es₁ ++ es₂)).Released f

theorem held_run {w : System} {events : List Event} (hrun : Trace.Meets step NoLeak w events)
    {f : ForwarderRef} (hclosable : w.Closable f) (h : w.hub.Holds f ∨ w.Released f) :
    (Trace.run step w events).hub.Holds f ∨ (Trace.run step w events).Released f := by
  induction events generalizing w with
  | nil => exact h
  | cons e events ih =>
    apply ih hrun.2 ((step_forwarders w e).closable_of f hclosable)
    rcases h with hheld | hreleased
    · exact hrun.1 f hclosable hheld
    · exact .inr ((step_forwarders w e).released f hclosable hreleased)

theorem neverLeaks_iff_noLeak (config : ValidConfig) (events : List Event) :
    NeverLeaks config events ↔ Trace.Meets step NoLeak (start config) events := by
  constructor
  · intro h
    rw [Trace.meets_iff_prefixes]
    rintro xs e ys rfl f hclosable hheld
    have hstep := h xs [e] ys rfl f hclosable hheld
    rwa [after, Trace.run_snoc] at hstep
  · rintro h es₁ es₂ es₃ rfl f hclosable hheld
    have hrest := ((Trace.meets_append _ _ _ _ _).mp h).2
    have hmiddle := ((Trace.meets_append _ _ _ _ _).mp hrest).1
    rw [after, Trace.run_append]
    exact held_run hmiddle hclosable (.inl hheld)

/-- A run leaks no open forwarder exactly when it neither announces over the last
reference to one nor looks an expired one up. -/
theorem never_leaks_iff (config : ValidConfig) (events : List Event) :
    NeverLeaks config events ↔ Trace.Meets step LeakGuard (start config) events :=
  (neverLeaks_iff_noLeak config events).trans
    (Trace.meets_congr (P := fun w : System => w.hub.Invariant)
      (fun _ e hi => invariant_step hi e) (fun _ e hi => noLeak_iff hi e)
      (Hub.invariant_start config) events)

/-- The second announcement for a peer drops the first bridge while it is open. -/
theorem overwritten_forwarder_leaks :
    ¬∀ (config : ValidConfig) (events : List Event), NeverLeaks config events := by
  intro h
  have hrun := (neverLeaks_iff_noLeak _ _).mp (h defaultValidConfig
    ([.newForwarder (.wss .fresh), .newForwarder (.wss .fresh),
      .announceFederatedPresence "p" (some 0) 0] ++
      [.announceFederatedPresence "p" (some 1) 1]))
  have hlast := ((Trace.meets_snoc _ _ _ _ _).mp hrun).2
  have hheld : (after defaultValidConfig [.newForwarder (.wss .fresh),
      .newForwarder (.wss .fresh), .announceFederatedPresence "p" (some 0) 0]).hub.Holds 0 := by
    decide
  exact absurd (hlast 0 ⟨.wss .fresh, rfl, rfl⟩ hheld) (by decide)

end System

end Branch.Relay
