import Branch.Relay.Cleanup
import Branch.Relay.Forwarders

/-!
Forwarders that several routes and presence entries share.
-/

namespace Branch.Relay

open Branch.Lib
open Branch.Wss

namespace Hub

structure TablesShrunk (hub hub' : Hub) : Prop where
  sessions : ∀ id s', hub'.sessions.get? id = some s' →
    ∃ s, hub.sessions.get? id = some s ∧ s'.ref = s.ref ∧ s'.peerID = s.peerID
  done : ∀ ref, hub'.isClosed ref = false → hub.isClosed ref = false
  presence : ∀ p entry, hub'.presence.get? p = some entry → hub.presence.get? p = some entry
  federated : ∀ p entry, hub'.federatedPresence.get? p = some entry →
    hub.federatedPresence.get? p = some entry

theorem TablesShrunk.endpointLive {hub hub' : Hub} (h : TablesShrunk hub hub')
    {endpoint : RouteEndpoint} {t : Time} (hlive : hub'.endpointLiveLocked endpoint t = true) :
    hub.endpointLiveLocked endpoint t = true := by
  by_cases hlocal : endpoint.sessionID = ""
  · rw [endpointLiveLocked_federated_iff hlocal] at hlive ⊢
    rcases hlive with ⟨hforwarder, hpeer, entry, hentry, hrest⟩
    exact ⟨hforwarder, hpeer, entry, h.federated _ _ hentry, hrest⟩
  · rw [endpointLiveLocked_local_iff hlocal] at hlive ⊢
    rcases hlive with ⟨s', hs', hopen, hpresence⟩
    obtain ⟨s, hs, href, hpeer⟩ := h.sessions _ _ hs'
    refine ⟨s, hs, h.done _ (href ▸ hopen), ?_⟩
    rcases hpresence with hempty | ⟨entry, hentry, hsession, ht, hid⟩
    · exact .inl hempty
    · exact .inr ⟨entry, h.presence _ _ hentry, hsession, ht, hpeer ▸ hid⟩

theorem TablesShrunk.routeLive {hub hub' : Hub} (h : TablesShrunk hub hub')
    {route : RouteState} {t : Time} (hlive : hub'.routeLiveLocked route t = true) :
    hub.routeLiveLocked route t = true := by
  rcases Bool.and_eq_true_iff.mp hlive with ⟨hleft, hright⟩
  exact Bool.and_eq_true_iff.mpr ⟨h.endpointLive hleft, h.endpointLive hright⟩

theorem TablesShrunk.of_eq {hub hub' : Hub} (hsessions : hub'.sessions = hub.sessions)
    (hdone : hub'.done = hub.done) (hpresence : hub'.presence = hub.presence)
    (hfederated : hub'.federatedPresence = hub.federatedPresence) :
    TablesShrunk hub hub' := by
  refine ⟨?_, ?_, ?_, ?_⟩
  · intro id s' h
    exact ⟨s', hsessions ▸ h, rfl, rfl⟩
  · intro ref h
    rwa [isClosed, hdone] at h
  · intro p entry h
    rwa [hpresence] at h
  · intro p entry h
    rwa [hfederated] at h

theorem detach_shrunk (hub : Hub) (id : SessionID) :
    TablesShrunk hub (hub.detach id).hub := by
  unfold detach
  split
  · exact .of_eq rfl rfl rfl rfl
  · rename_i state hstate
    refine ⟨?_, ?_, ?_, fun _ _ h => h⟩
    · intro id' s' h
      exact ⟨s', (Table.get?_eq_some_of_get?_erase h).2, rfl, rfl⟩
    · intro ref h
      simp only [isClosed, List.contains_cons, Bool.or_eq_false_iff] at h
      exact h.2
    · intro p entry h
      simp only at h
      split at h
      · exact (Table.get?_eq_some_of_get?_erase h).2
      · exact h

theorem sweepPresence_shrunk (hub : Hub) (now : Time) :
    TablesShrunk hub (hub.sweepPresence now) where
  sessions := fun _ s' h => ⟨s', h, rfl, rfl⟩
  done := fun _ h => h
  presence := fun _ _ h => (Table.get?_filter_eq_some.mp h).1
  federated := fun _ _ h => (Table.get?_filter_eq_some.mp h).1

theorem sweepPresence_endpointLive {hub : Hub} {endpoint : RouteEndpoint} {now : Time}
    (hlive : hub.endpointLiveLocked endpoint now = true) :
    (hub.sweepPresence now).endpointLiveLocked endpoint now = true := by
  by_cases hlocal : endpoint.sessionID = ""
  · rw [endpointLiveLocked_federated_iff hlocal] at hlive ⊢
    rcases hlive with ⟨hforwarder, hpeer, entry, hentry, hsome, hnow⟩
    refine ⟨hforwarder, hpeer, entry, Table.get?_filter_eq_some.mpr ⟨hentry, ?_⟩, hsome, hnow⟩
    simpa [federatedPresenceStale, hnow] using hsome
  · rw [endpointLiveLocked_local_iff hlocal] at hlive ⊢
    rcases hlive with ⟨s, hs, hopen, hpresence⟩
    refine ⟨s, hs, hopen, ?_⟩
    rcases hpresence with hempty | ⟨entry, hentry, hsession, hnow, hid⟩
    · exact .inl hempty
    · refine .inr ⟨entry, Table.get?_filter_eq_some.mpr ⟨hentry, ?_⟩, hsession, hnow, hid⟩
      rw [← hsession] at hs
      simp [presenceStale, hs, hopen, hnow]

theorem sweepPresence_routeLive {hub : Hub} {route : RouteState} {now : Time} :
    (hub.sweepPresence now).routeLiveLocked route now = hub.routeLiveLocked route now := by
  apply Bool.eq_iff_iff.mpr
  constructor
  · exact (hub.sweepPresence_shrunk now).routeLive
  · intro hlive
    rcases Bool.and_eq_true_iff.mp hlive with ⟨hleft, hright⟩
    exact Bool.and_eq_true_iff.mpr
      ⟨sweepPresence_endpointLive hleft, sweepPresence_endpointLive hright⟩

theorem rollbackUsageLocked_shrunk (hub : Hub) (sessionID : SessionID)
    (expected : SessionRef) (payloadBytes : Nat) :
    TablesShrunk hub (hub.rollbackUsageLocked sessionID expected payloadBytes) := by
  unfold rollbackUsageLocked
  split
  · exact .of_eq rfl rfl rfl rfl
  · rename_i state hstate
    split
    · exact .of_eq rfl rfl rfl rfl
    · refine ⟨?_, fun _ h => h, fun _ _ h => h, fun _ _ h => h⟩
      intro id s' h
      rw [Table.get?_insert] at h
      split at h
      · rename_i hid
        cases h
        exact ⟨state, hid ▸ hstate, rfl, rfl⟩
      · exact ⟨s', h, rfl, rfl⟩

theorem forwardCompleted_shrunk (hub : Hub) (pending : PendingForward) (err : Err) :
    TablesShrunk hub (hub.forwardCompleted pending (some err)).hub := by
  have hrolled := hub.rollbackUsageLocked_shrunk pending.source pending.sourceRef
    pending.payload.length
  unfold forwardCompleted
  simp only
  split
  · split
    · exact hrolled
    · rcases hrolled with ⟨hsessions, hdone, hpresence, hfederated⟩
      exact ⟨hsessions, hdone, hpresence, hfederated⟩
  · exact hrolled

end Hub

namespace System

/-- The route is torn down by the event: its session closes, or it is found dead, or
a forward on its id has failed. -/
def DropsRoute (w : System) (r : RouteID) (route : RouteState) : Event → Prop
  | .closeSession id => route.containsSession id = true
  | .sweepExpired now => w.hub.routeLiveLocked route now = false
  | .sendLocked call ctxErr => ∃ c, w.sends[call]? = some c ∧ c.stage = .entered ∧
      ctxErr = none ∧ (w.hub.sessions.get? c.source).isSome ∧
      (route.peer c.source).isSome ∧ c.routeID = r ∧
      w.hub.routeLiveLocked route c.now = false
  | .sendCompleted call => ∃ c pending serial err, w.sends[call]? = some c ∧
      c.stage = .answered pending serial (some err) ∧ pending.routeID = r ∧
      isRouteFailure err = true
  | _ => False

/-- The forward of the call is answered with an error by this forwarder. -/
def FailsForward (w : System) (f : ForwarderRef) (r : RouteID) (e : Event) : Prop :=
  ∃ call reply c pending serial object, e = .forwardReturns call reply ∧
    w.sends[call]? = some c ∧ c.stage = .forwarding pending serial ∧
    pending.routeID = r ∧ pending.forwarder = f ∧ w.forwarders[f]? = some object ∧
    object.accepts pending.routeID reply = false

/-- The event closes the forwarder, or makes its operation close it. -/
def GivesUp (w : System) (f : ForwarderRef) (e : Event) : Prop :=
  (∃ r route, w.hub.routes.get? r = some route ∧ DropsRoute w r route e ∧
    f ∈ route.federatedForwarders) ∨
  (∃ p entry now, e = .sweepExpired now ∧ w.hub.federatedPresence.get? p = some entry ∧
    ¬now < entry.expiresAt ∧ entry.forwarder = some f) ∨
  ∃ r, FailsForward w f r e

/-- No live route but those that the event tears down or fails on, and no unexpired
federated entry, refers to the forwarder. -/
structure Unshared (w : System) (f : ForwarderRef) (e : Event) (t : Time) : Prop where
  routes : ∀ r route, w.hub.routes.get? r = some route → ¬DropsRoute w r route e →
    ¬FailsForward w f r e → w.hub.routeLiveLocked route t = true →
    f ∉ route.federatedForwarders
  entries : ∀ p entry, w.hub.federatedPresence.get? p = some entry →
    t < entry.expiresAt → entry.forwarder ≠ some f

/-- An event gives up open forwarders only where they are not shared; announcements
hand over open forwarders; and a rendezvous with a federated peer takes no entry for
live that an earlier clock reading had found expired. -/
structure SharingGuard (w : System) (e : Event) : Prop where
  unshared : ∀ f, GivesUp w f e → w.Closable f → ¬w.Released f →
    Unshared w f e (w.step e).clock
  announced : ∀ peerID f now, e = .announceFederatedPresence peerID (some f) now →
    f < w.forwarders.length ∧ (w.Closable f → ¬w.Released f)
  current : ∀ source routeID peerID now entry, e = .rendezvous source routeID peerID now →
    w.hub.federatedPresence.get? peerID = some entry → now < entry.expiresAt →
    w.clock < entry.expiresAt

/-- The event closes no forwarder that another live route or an unexpired federated
entry still refers to, and binds no closed one. -/
structure SharingKept (w : System) (e : Event) : Prop where
  routes : ∀ f, w.Closable f → ¬w.Released f → (w.step e).Released f →
    ∀ r route, (w.step e).hub.routes.get? r = some route → ¬FailsForward w f r e →
      (w.step e).hub.routeLiveLocked route (w.step e).clock = true →
      f ∉ route.federatedForwarders
  entries : ∀ f, w.Closable f → ¬w.Released f → (w.step e).Released f →
    ∀ p entry, (w.step e).hub.federatedPresence.get? p = some entry →
      (w.step e).clock < entry.expiresAt → entry.forwarder ≠ some f
  bound : ∀ source routeID peerID now route f, e = .rendezvous source routeID peerID now →
    w.hub.routes.get? routeID = none →
    (w.step e).hub.routes.get? routeID = some route → f ∈ route.federatedForwarders →
    (w.step e).Closable f → ¬(w.step e).Released f

/-- What an event that newly releases a forwarder does to the tables. -/
structure GaveUp (w : System) (f : ForwarderRef) (e : Event) : Prop where
  gives : GivesUp w f e
  routes : ∀ r route, (w.step e).hub.routes.get? r = some route → ¬FailsForward w f r e →
    w.hub.routes.get? r = some route ∧ ¬DropsRoute w r route e
  tables : Hub.TablesShrunk w.hub (w.step e).hub

theorem released_settled {α : Type} {w w' : System} {o : Outcome α} {f : ForwarderRef}
    (hopen : ¬w.Released f) (hforwarders : w'.forwarders = w.forwarders)
    (hclosing : w'.closing = o.closers ++ w.closing) (h : w'.Released f) :
    f ∈ o.closers := by
  rcases h with h | ⟨object, hobject, hclosed⟩
  · rw [hclosing] at h
    rcases List.mem_append.mp h with hnew | hold
    · exact hnew
    · exact absurd (.inl hold) hopen
  · rw [hforwarders] at hobject
    exact absurd (.inr ⟨object, hobject, hclosed⟩) hopen

theorem not_released_of_eq {w w' : System} {f : ForwarderRef} (hopen : ¬w.Released f)
    (hforwarders : w'.forwarders = w.forwarders) (hclosing : w'.closing = w.closing) :
    ¬w'.Released f := by
  rwa [Released, hforwarders, hclosing]

section Closers

variable {hub : Hub} {f : ForwarderRef}

theorem detach_closers {id : SessionID} (h : f ∈ (hub.detach id).closers) :
    (hub.sessions.get? id).isSome ∧ ∃ r route, hub.routes.get? r = some route ∧
      route.containsSession id = true ∧ f ∈ route.federatedForwarders := by
  unfold Hub.detach at h
  split at h
  · cases h
  · rename_i state hstate
    obtain ⟨⟨r, route⟩, hmem, hf⟩ := List.mem_flatMap.mp h
    rcases List.mem_filter.mp hmem with ⟨hroute, hnames⟩
    exact ⟨by simp [hstate], r, route, Table.mem_toList_iff.mp hroute, hnames, hf⟩

theorem sweepExpired_closers (hi : hub.Invariant) {now : Time}
    (h : f ∈ (hub.sweepExpired now).closers) :
    (∃ r route, hub.routes.get? r = some route ∧ hub.routeLiveLocked route now = false ∧
      f ∈ route.federatedForwarders) ∨
    ∃ p entry, hub.federatedPresence.get? p = some entry ∧ ¬now < entry.expiresAt ∧
      entry.forwarder = some f := by
  rcases List.mem_append.mp h with hentry | hroute
  · right
    obtain ⟨⟨p, entry⟩, hmem, hf⟩ := List.mem_flatMap.mp hentry
    rcases List.mem_filter.mp hmem with ⟨hget, hstale⟩
    have hget := Table.mem_toList_iff.mp hget
    refine ⟨p, entry, hget, ?_, by simpa using hf⟩
    have hsome := hi.federated p entry hget
    simpa [Hub.federatedPresenceStale, Option.isNone_iff_eq_none,
      Option.ne_none_iff_isSome.mpr hsome] using hstale
  · left
    obtain ⟨⟨r, route⟩, hmem, hf⟩ := List.mem_flatMap.mp hroute
    rcases List.mem_filter.mp hmem with ⟨hget, hdead⟩
    rw [Hub.sweepPresence_routeLive] at hdead
    exact ⟨r, route, Table.mem_toList_iff.mp hget, by simpa using hdead, hf⟩

theorem forwardLocked_closers {ctxErr : Option Err}
    {source : SessionID} {routeID : RouteID} {payload : Bytes} {now : Time}
    {delivery : Option Delivery}
    (h : f ∈ (hub.forwardLocked ctxErr source routeID payload now delivery).closers) :
    ctxErr = none ∧ (hub.sessions.get? source).isSome ∧
      ∃ route, hub.routes.get? routeID = some route ∧ (route.peer source).isSome ∧
        hub.routeLiveLocked route now = false ∧ f ∈ route.federatedForwarders ∧
        (hub.forwardLocked ctxErr source routeID payload now delivery).hub =
          { hub with routes := hub.routes.erase routeID } := by
  have hctx : ctxErr = none := by
    cases ctxErr with
    | none => rfl
    | some err => cases h
  have hspec := Hub.forwardLocked_spec hub ctxErr source routeID payload now delivery
  generalize hub.forwardLocked ctxErr source routeID payload now delivery = o at hspec h ⊢
  refine ⟨hctx, ?_⟩
  cases hspec with
  | refused err => cases h
  | dead hroute hdead hsource hpeer =>
    exact ⟨by simp [hsource], _, hroute, by simp [hpeer], hdead, h, rfl⟩
  | orphaned hroute hpeer hlocal hgone => cases h
  | full => cases h
  | enqueued => cases h
  | forwarding => cases h

theorem deliverFromFederated_closers (hi : hub.Invariant) (ctxErr : Option Err)
    (routeID : RouteID) (payload : Bytes) (senderPeerID : PeerID) :
    (hub.deliverFromFederated ctxErr routeID payload senderPeerID).closers = [] := by
  have hspec := Hub.deliverFromFederated_spec hub ctxErr routeID payload senderPeerID
  generalize hub.deliverFromFederated ctxErr routeID payload senderPeerID = o at hspec ⊢
  cases hspec with
  | refused err => rfl
  | @orphaned route target hroute hlocal hgone =>
    have hok := hi.route _ _ hroute
    have htarget : target = route.left.sessionID := by
      unfold RouteState.localPeerOfFederated at hlocal
      simp only [hok.left_local, Option.isSome_none, Bool.false_eq_true, false_and, if_false]
        at hlocal
      split at hlocal
      · exact (Option.some.inj hlocal).symm
      · cases hlocal
    obtain ⟨state, hstate⟩ := Option.isSome_iff_exists.mp hok.left_attached
    rw [← htarget] at hstate
    have hopen := (hi.session _ _ hstate).not_done
    rw [hgone state hstate] at hopen
    cases hopen
  | full => rfl
  | enqueued => rfl

theorem attach_closers (id : SessionID) : (hub.attach id).closers = [] := by
  unfold Hub.attach
  repeat' split
  all_goals rfl

theorem pair_closers (routeID : RouteID) (left right : SessionID) :
    (hub.pair routeID left right).closers = [] := by
  unfold Hub.pair
  repeat' split
  all_goals rfl

theorem announceFederatedPresence_closers (peerID : PeerID)
    (forwarder : Option ForwarderRef) (now : Time) :
    (hub.announceFederatedPresence peerID forwarder now).closers = [] := by
  unfold Hub.announceFederatedPresence
  repeat' split
  all_goals rfl

theorem announcePresence_closers (id : SessionID) (peerID : PeerID) (now : Time) :
    (hub.announcePresence id peerID now).closers = [] := by
  unfold Hub.announcePresence
  repeat' split
  all_goals rfl

theorem heartbeat_closers (id : SessionID) (now : Time) :
    (hub.heartbeat id now).closers = [] := by
  unfold Hub.heartbeat
  repeat' split
  all_goals rfl

theorem rendezvous_closers (source : SessionID) (routeID : RouteID) (peerID : PeerID)
    (now : Time) : (hub.rendezvous source routeID peerID now).closers = [] := by
  have hspec := hub.rendezvous_spec source routeID peerID now
  generalize hub.rendezvous source routeID peerID now = o at hspec ⊢
  cases hspec
  all_goals rfl

end Closers

section GaveUp

variable {w : System} {f : ForwarderRef}

theorem closeForwarder_open (hopen : ¬w.Released f) (forwarder : ForwarderRef) :
    ¬(w.closeForwarder forwarder).Released f := by
  unfold closeForwarder
  split
  · rename_i hmem
    have hne : forwarder ≠ f := by
      rintro rfl
      exact hopen (.inl hmem)
    rintro (h | ⟨object, hobject, hclosed⟩)
    · exact hopen (.inl (List.mem_of_mem_erase h))
    · simp only [List.getElem?_modify, if_neg hne] at hobject
      obtain ⟨object', hobject', rfl⟩ := Option.map_eq_some_iff.mp hobject
      exact hopen (.inr ⟨object', hobject', hclosed⟩)
  · exact hopen

theorem newForwarder_open (hclosable : w.Closable f) (hopen : ¬w.Released f)
    (object : ForwarderObject) :
    ¬Released { w with forwarders := w.forwarders ++ [object] } f := by
  have hlt : f < w.forwarders.length := by
    obtain ⟨o, ho, _⟩ := hclosable
    exact (List.getElem?_eq_some_iff.mp ho).1
  rintro (h | ⟨o, ho, hclosed⟩)
  · exact hopen (.inl h)
  · rw [List.getElem?_append_left hlt] at ho
    exact hopen (.inr ⟨o, ho, hclosed⟩)

theorem closeSession_gaveUp {id : SessionID} (hopen : ¬w.Released f)
    (h : (w.step (.closeSession id)).Released f) : GaveUp w f (.closeSession id) := by
  have hmem : f ∈ (w.hub.detach id).closers := released_settled hopen (by rfl) (by rfl) h
  obtain ⟨hattached, r, route, hroute, hnames, hf⟩ := detach_closers hmem
  refine ⟨.inl ⟨r, route, hroute, hnames, hf⟩, ?_, w.hub.detach_shrunk id⟩
  intro r' route' hroute' _
  obtain ⟨state, hstate⟩ := Option.isSome_iff_exists.mp hattached
  simp only [step, settle, Hub.detach, hstate] at hroute'
  rcases Table.get?_filter_eq_some.mp hroute' with ⟨hold, hother⟩
  refine ⟨hold, ?_⟩
  simpa [DropsRoute] using hother

theorem sweepExpired_gaveUp (hi : w.hub.Invariant) {now : Time} (hopen : ¬w.Released f)
    (h : (w.step (.sweepExpired now)).Released f) : GaveUp w f (.sweepExpired now) := by
  have hmem : f ∈ (w.hub.sweepExpired now).closers :=
    released_settled hopen (by rfl) (by rfl) h
  refine ⟨?_, ?_, ?_⟩
  · rcases sweepExpired_closers hi hmem with ⟨r, route, hroute, hdead, hf⟩ |
      ⟨p, entry, hentry, hexpired, hf⟩
    · exact .inl ⟨r, route, hroute, hdead, hf⟩
    · exact .inr (.inl ⟨p, entry, now, rfl, hentry, hexpired, hf⟩)
  · intro r route hroute _
    rcases Table.get?_filter_eq_some.mp hroute with ⟨hold, hlive⟩
    rw [Hub.sweepPresence_routeLive] at hlive
    refine ⟨hold, ?_⟩
    simp [DropsRoute, hlive]
  · rcases w.hub.sweepPresence_shrunk now with ⟨h1, h2, h3, h4⟩
    exact ⟨h1, h2, h3, h4⟩

theorem sendLocked_gaveUp {call : Nat} {ctxErr : Option Err}
    (hopen : ¬w.Released f) (h : (w.step (.sendLocked call ctxErr)).Released f) :
    GaveUp w f (.sendLocked call ctxErr) := by
  obtain ⟨c, hcall, hstage⟩ : ∃ c, w.sends[call]? = some c ∧ c.stage = .entered := by
    by_contra hnone
    have hself : w.step (.sendLocked call ctxErr) = w :=
      sendLocked_eq_self fun c hc hstage => hnone ⟨c, hc, hstage⟩
    exact hopen (hself ▸ h)
  obtain ⟨hforwarders, hclosing, hhub⟩ :
      (w.step (.sendLocked call ctxErr)).forwarders = w.forwarders ∧
      (w.step (.sendLocked call ctxErr)).closing =
        (w.hub.forwardLocked ctxErr c.source c.routeID c.payload c.now
          c.delivery).closers ++ w.closing ∧
      (w.step (.sendLocked call ctxErr)).hub =
        (w.hub.forwardLocked ctxErr c.source c.routeID c.payload c.now c.delivery).hub := by
    simp only [step, sendLocked, hcall, hstage]
    split
    all_goals exact ⟨rfl, rfl, rfl⟩
  obtain ⟨hctx, hsource, route, hroute, hpeer, hdead, hf, hhub'⟩ :=
    forwardLocked_closers (released_settled hopen hforwarders hclosing h)
  rw [hhub'] at hhub
  refine ⟨.inl ⟨c.routeID, route, hroute, ⟨c, hcall, hstage, hctx, hsource, hpeer, rfl,
    hdead⟩, hf⟩, ?_, ?_⟩
  · intro r route' hroute' _
    rw [hhub] at hroute'
    rcases Table.get?_eq_some_of_get?_erase hroute' with ⟨hne, hold⟩
    refine ⟨hold, ?_⟩
    rintro ⟨c', hc', _, _, _, _, hid, _⟩
    rw [hcall] at hc'
    cases hc'
    exact hne hid.symm
  · rw [hhub]
    exact .of_eq rfl rfl rfl rfl

theorem forwardReturns_gaveUp {call : Nat} {reply : ForwardReply}
    (hclosable : w.Closable f) (hopen : ¬w.Released f)
    (h : (w.step (.forwardReturns call reply)).Released f) :
    GaveUp w f (.forwardReturns call reply) := by
  obtain ⟨c, pending, serial, hcall, hstage⟩ : ∃ c pending serial,
      w.sends[call]? = some c ∧ c.stage = .forwarding pending serial := by
    by_contra hnone
    have hself : w.step (.forwardReturns call reply) = w :=
      forwardReturns_eq_self fun c pending serial hc hstage =>
        hnone ⟨c, pending, serial, hc, hstage⟩
    exact hopen (hself ▸ h)
  cases hobject : w.forwarders[pending.forwarder]? with
  | none =>
    have hself : w.step (.forwardReturns call reply) = w := by
      simp only [step, forwardReturns, hcall, hstage, hobject]
    exact absurd (hself ▸ h) hopen
  | some object =>
    obtain ⟨hforwarders, hclosing, hhub⟩ :
        (w.step (.forwardReturns call reply)).forwarders =
          w.forwarders.set pending.forwarder (object.forward pending.routeID reply).1 ∧
        (w.step (.forwardReturns call reply)).closing = w.closing ∧
        (w.step (.forwardReturns call reply)).hub = w.hub := by
      simp only [step, forwardReturns, hcall, hstage, hobject]
      exact ⟨rfl, rfl, rfl⟩
    -- Only the forward's own bridge can have been closed by it.
    obtain ⟨rfl, haccepts⟩ : pending.forwarder = f ∧
        object.accepts pending.routeID reply = false := by
      rcases h with h | ⟨o, ho, hclosed⟩
      · rw [hclosing] at h
        exact absurd (.inl h) hopen
      · rw [hforwarders] at ho
        by_cases hf : pending.forwarder = f
        · subst hf
          rw [List.getElem?_set_self (List.getElem?_eq_some_iff.mp hobject).1] at ho
          cases ho
          refine ⟨rfl, ForwarderObject.accepts_eq_false ?_ hclosed⟩
          apply Bool.eq_false_iff.mpr
          intro hold
          exact hopen (.inr ⟨object, hobject, hold⟩)
        · rw [List.getElem?_set_ne hf] at ho
          exact absurd (.inr ⟨o, ho, hclosed⟩) hopen
    refine ⟨.inr (.inr ⟨pending.routeID, call, reply, c, pending, serial, object, rfl, hcall,
      hstage, rfl, rfl, hobject, haccepts⟩), ?_, ?_⟩
    · intro r route hroute _
      rw [hhub] at hroute
      exact ⟨hroute, id⟩
    · rw [hhub]
      exact .of_eq rfl rfl rfl rfl

theorem sendCompleted_gaveUp {call : Nat} (hopen : ¬w.Released f)
    (h : (w.step (.sendCompleted call)).Released f) : GaveUp w f (.sendCompleted call) := by
  obtain ⟨c, pending, serial, err, hcall, hstage⟩ : ∃ c pending serial err,
      w.sends[call]? = some c ∧ c.stage = .answered pending serial err := by
    by_contra hnone
    have hself : w.step (.sendCompleted call) = w :=
      sendCompleted_eq_self fun c pending serial err hc hstage =>
        hnone ⟨c, pending, serial, err, hc, hstage⟩
    exact hopen (hself ▸ h)
  cases err with
  | none =>
    have hmem : f ∈ (w.hub.forwardCompleted pending none).closers := by
      refine released_settled hopen ?_ ?_ h
      · simp only [step, sendCompleted, hcall, hstage]
        rfl
      · simp only [step, sendCompleted, hcall, hstage]
        rfl
    cases hmem
  | some err =>
    have hstep := sendCompleted_failed hcall hstage
    have hmem : f ∈ (w.hub.forwardCompleted pending (some err)).closers :=
      released_settled hopen (by rw [hstep]; rfl) (by rw [hstep]; rfl) h
    cases forwardCompleted_failed w.hub pending err with
    | kept _ _ hclosers =>
      rw [hclosers] at hmem
      cases hmem
    | removed route hfailure hroute hroutes hclosers =>
      rw [hclosers] at hmem
      refine ⟨.inl ⟨pending.routeID, route, hroute,
        ⟨c, pending, serial, err, hcall, hstage, rfl, hfailure⟩, hmem⟩, ?_, ?_⟩
      · intro r route' hroute' _
        rw [hstep] at hroute'
        change (w.hub.forwardCompleted pending (some err)).hub.routes.get? r = _ at hroute'
        rw [hroutes] at hroute'
        rcases Table.get?_eq_some_of_get?_erase hroute' with ⟨hne, hold⟩
        refine ⟨hold, ?_⟩
        rintro ⟨c', pending', serial', err', hc', hstage', hid, _⟩
        rw [hcall] at hc'
        cases hc'
        rw [hstage] at hstage'
        cases hstage'
        exact hne hid.symm
      · rw [hstep]
        exact w.hub.forwardCompleted_shrunk pending err

theorem step_gaveUp (hi : w.hub.Invariant) {e : Event} (hhub : e ≠ .closeHub)
    (hclosable : w.Closable f) (hopen : ¬w.Released f) (h : (w.step e).Released f) :
    GaveUp w f e := by
  have hreceive := receive_forwarders w e
  -- An event that closes nothing releases nothing.
  have hquiet : (w.step e).forwarders = w.forwarders → (w.step e).closing = w.closing →
      GaveUp w f e := fun hforwarders hclosing =>
    absurd h (not_released_of_eq hopen hforwarders hclosing)
  cases e with
  | write buffer bytes => exact hquiet rfl rfl
  | newForwarder object => exact absurd h (newForwarder_open hclosable hopen object)
  | closeForwarder forwarder => exact absurd h (closeForwarder_open hopen forwarder)
  | tick now => exact hquiet rfl rfl
  | attach id =>
    have hclosers : (w.hub.attach id).closers = [] := attach_closers id
    apply hquiet
    · simp only [step, attach]
      split
      · rfl
      · rfl
    · simp only [step, attach]
      split
      · rw [settle_closing, hclosers, List.nil_append]
      · simp only [settle_closing, hclosers, List.nil_append]
  | pair routeID left right =>
    exact hquiet (by simp [step]) (by simp [step, pair_closers])
  | announceFederatedPresence peerID forwarder now =>
    exact hquiet rfl (by simp [step, announceFederatedPresence_closers])
  | announcePresence id peerID now =>
    exact hquiet rfl (by simp [step, announcePresence_closers])
  | heartbeat id now => exact hquiet rfl (by simp [step, heartbeat_closers])
  | lookup peerID now => exact hquiet rfl rfl
  | lookupLocal peerID now => exact hquiet rfl rfl
  | rendezvous source routeID peerID now =>
    exact hquiet (by simp [step]) (by simp [step, rendezvous_closers])
  | sweepExpired now => exact sweepExpired_gaveUp hi hopen h
  | closeSession id => exact closeSession_gaveUp hopen h
  | closeHub => exact absurd rfl hhub
  | deliverFromFederated ctxErr routeID payload senderPeerID =>
    have hclosers := deliverFromFederated_closers hi ctxErr routeID payload senderPeerID
    apply hquiet
    · simp only [step, deliverFromFederated]
      split
      · rfl
      · rfl
    · simp only [step, deliverFromFederated]
      split
      · rw [settle_closing, hclosers, List.nil_append]
      · rw [record_closing, settle_closing, hclosers, List.nil_append]
  | send source routeID buffer delivery now ctxErr => exact hquiet rfl rfl
  | sendLocked call ctxErr => exact sendLocked_gaveUp hopen h
  | forwardReturns call reply => exact forwardReturns_gaveUp hclosable hopen h
  | sendCompleted call => exact sendCompleted_gaveUp hopen h
  | receive handle =>
    obtain ⟨hforwarders, hclosing, _⟩ := hreceive (.inl ⟨handle, rfl⟩)
    exact hquiet hforwarders hclosing
  | receiveLookup call =>
    obtain ⟨hforwarders, hclosing, _⟩ := hreceive (.inr (.inl ⟨call, rfl⟩))
    exact hquiet hforwarders hclosing
  | receiveSelect call arm =>
    obtain ⟨hforwarders, hclosing, _⟩ := hreceive (.inr (.inr (.inl ⟨call, arm, rfl⟩)))
    exact hquiet hforwarders hclosing
  | receiveReturns call =>
    obtain ⟨hforwarders, hclosing, _⟩ := hreceive (.inr (.inr (.inr ⟨call, rfl⟩)))
    exact hquiet hforwarders hclosing

theorem closeHub_empty (hi : w.hub.Invariant) :
    (∀ r, (w.step .closeHub).hub.routes.get? r = none) ∧
      ∀ p, (w.step .closeHub).hub.federatedPresence.get? p = none := by
  have hclosed : (w.step .closeHub).hub.closed = true := by
    simp only [step, settle, Hub.close]
    split
    · assumption
    · rfl
  have hempty := (invariant_step hi .closeHub).closed_empty hclosed
  exact ⟨hempty.2.1, hempty.2.2.2⟩

theorem released_unshared (hi : w.hub.Invariant) {e : Event} (hguard : SharingGuard w e)
    (hclosable : w.Closable f) (hopen : ¬w.Released f) (h : (w.step e).Released f) :
    (∀ r route, (w.step e).hub.routes.get? r = some route → ¬FailsForward w f r e →
      (w.step e).hub.routeLiveLocked route (w.step e).clock = true →
      f ∉ route.federatedForwarders) ∧
    ∀ p entry, (w.step e).hub.federatedPresence.get? p = some entry →
      (w.step e).clock < entry.expiresAt → entry.forwarder ≠ some f := by
  by_cases hhub : e = .closeHub
  · subst hhub
    obtain ⟨hroutes, hentries⟩ := closeHub_empty hi
    refine ⟨?_, ?_⟩
    · intro r route hroute
      rw [hroutes r] at hroute
      cases hroute
    · intro p entry hentry
      rw [hentries p] at hentry
      cases hentry
  · have hgave := step_gaveUp hi hhub hclosable hopen h
    have hunshared := hguard.unshared f hgave.gives hclosable hopen
    refine ⟨?_, ?_⟩
    · intro r route hroute hother hlive
      obtain ⟨hold, hkept⟩ := hgave.routes r route hroute hother
      exact hunshared.routes r route hold hkept hother (hgave.tables.routeLive hlive)
    · intro p entry hentry
      exact hunshared.entries p entry (hgave.tables.federated p entry hentry)

end GaveUp

theorem clock_settleBinding_observe (w : System) (routeID : RouteID)
    (o : Outcome (Option Err)) (now : Time) :
    w.clock ≤ ((w.settleBinding routeID o).observe now).clock := by
  rw [observe_clock, settleBinding_clock]
  exact Int.le_max_left _ _

theorem clock_le_step (w : System) (e : Event) : w.clock ≤ (w.step e).clock := by
  cases e with
  | tick now => exact Int.le_max_left _ _
  | announceFederatedPresence peerID forwarder now => exact Int.le_max_left _ _
  | announcePresence id peerID now => exact Int.le_max_left _ _
  | heartbeat id now => exact Int.le_max_left _ _
  | lookup peerID now => exact Int.le_max_left _ _
  | lookupLocal peerID now => exact Int.le_max_left _ _
  | rendezvous source routeID peerID now => exact clock_settleBinding_observe _ _ _ _
  | sweepExpired now => exact Int.le_max_left _ _
  | send source routeID buffer delivery now ctxErr => exact Int.le_max_left _ _
  | pair routeID left right => exact Int.le_of_eq (by rw [step, settleBinding_clock])
  | write buffer bytes => exact Int.le_refl _
  | newForwarder object => exact Int.le_refl _
  | closeSession id => exact Int.le_refl _
  | closeHub => exact Int.le_refl _
  | closeForwarder forwarder =>
    simp only [step, closeForwarder]
    split
    all_goals exact Int.le_refl _
  | attach id =>
    simp only [step, attach]
    split
    all_goals exact Int.le_refl _
  | deliverFromFederated ctxErr routeID payload senderPeerID =>
    simp only [step, deliverFromFederated]
    split
    all_goals exact Int.le_refl _
  | sendLocked call ctxErr =>
    simp only [step, sendLocked]
    repeat' split
    all_goals exact Int.le_refl _
  | forwardReturns call reply =>
    simp only [step, forwardReturns]
    repeat' split
    all_goals exact Int.le_refl _
  | sendCompleted call =>
    simp only [step, sendCompleted]
    repeat' split
    all_goals exact Int.le_refl _
  | receive handle =>
    simp only [step, receive]
    repeat' split
    all_goals exact Int.le_refl _
  | receiveLookup call =>
    simp only [step, receiveLookup]
    repeat' split
    all_goals exact Int.le_refl _
  | receiveSelect call arm =>
    simp only [step, receiveSelect]
    repeat' split
    all_goals exact Int.le_refl _
  | receiveReturns call =>
    simp only [step, receiveReturns]
    repeat' split
    all_goals exact Int.le_refl _

def OpenEntries (w : System) : Prop :=
  ∀ p entry f, w.hub.federatedPresence.get? p = some entry → entry.forwarder = some f →
    w.clock < entry.expiresAt → f < w.forwarders.length ∧ (w.Closable f → ¬w.Released f)

theorem openEntries_start (config : ValidConfig) : (start config).OpenEntries := by
  intro p entry f h
  simp [start, Hub.start] at h

section Entries

variable {w : System} {p : PeerID} {entry : FederatedPresenceState}

theorem lookupFederatedLocked_sub {hub : Hub} {q : PeerID} {now : Time}
    (h : (hub.lookupFederatedLocked q now).1.federatedPresence.get? p = some entry) :
    hub.federatedPresence.get? p = some entry := by
  unfold Hub.lookupFederatedLocked at h
  simp only at h
  repeat' split at h
  any_goals exact h
  all_goals exact (Table.get?_eq_some_of_get?_erase h).2

theorem lookupLocked_sub {hub : Hub} {q : PeerID} {now : Time}
    (h : (hub.lookupLocked q now).1.federatedPresence.get? p = some entry) :
    hub.federatedPresence.get? p = some entry := by
  have hlocal := hub.lookupLocalLocked_federatedPresence q now
  unfold Hub.lookupLocked at h
  split at h
  · rename_i hfound
    rw [hfound] at hlocal
    exact hlocal ▸ h
  · rename_i hub' hfound
    rw [hfound] at hlocal
    rw [← hlocal]
    apply lookupFederatedLocked_sub (q := q)
    split at h
    · rename_i hfound'
      rw [hfound']
      exact h
    · rename_i hfound'
      rw [hfound']
      exact h

theorem rendezvous_sub {hub : Hub} {source : SessionID} {routeID : RouteID} {q : PeerID}
    {now : Time}
    (h : (hub.rendezvous source routeID q now).hub.federatedPresence.get? p = some entry) :
    hub.federatedPresence.get? p = some entry := by
  have hlookup := hub.lookupLocalLocked_federatedPresence q now
  have hspec := hub.rendezvous_spec source routeID q now
  generalize hub.rendezvous source routeID q now = o at hspec h
  cases hspec with
  | refused err => exact h
  | repeated => exact h
  | missed _ _ _ _ hlocal hfederated =>
    rw [hlocal] at hlookup
    rw [← hlookup]
    apply lookupFederatedLocked_sub (q := q)
    rw [hfederated]
    exact h
  | boundLocal => exact h
  | boundFederated _ _ _ _ hlocal =>
    rw [hlocal] at hlookup
    exact hlookup ▸ h

theorem entry_origin (e : Event)
    (h : (w.step e).hub.federatedPresence.get? p = some entry) :
    w.hub.federatedPresence.get? p = some entry ∨
      ∃ now, e = .announceFederatedPresence p entry.forwarder now := by
  have hreceive := receive_forwarders w e
  cases e with
  | write buffer bytes => exact .inl h
  | newForwarder object => exact .inl h
  | closeForwarder forwarder =>
    simp only [step, closeForwarder] at h
    split at h
    · exact .inl h
    · exact .inl h
  | tick now => exact .inl h
  | attach id =>
    left
    rw [← w.hub.attach_federatedPresence id]
    simp only [step, attach] at h
    split at h
    · exact h
    · exact h
  | pair routeID left right =>
    left
    rw [← w.hub.pair_federatedPresence routeID left right]
    simpa [step] using h
  | announceFederatedPresence peerID forwarder now =>
    simp only [step, observe, settle, Hub.announceFederatedPresence] at h
    split at h
    · exact .inl h
    · split at h
      · exact .inl h
      · split at h
        · exact .inl h
        · simp only [Table.get?_insert] at h
          split at h
          · rename_i hp
            cases h
            exact .inr ⟨now, by rw [hp]⟩
          · exact .inl h
  | announcePresence id peerID now =>
    left
    rw [← w.hub.announcePresence_federatedPresence id peerID now]
    exact h
  | heartbeat id now =>
    left
    rw [← w.hub.heartbeat_federatedPresence id now]
    exact h
  | lookup peerID now => exact .inl (lookupLocked_sub h)
  | lookupLocal peerID now =>
    left
    rw [← w.hub.lookupLocalLocked_federatedPresence peerID now]
    exact h
  | rendezvous source routeID peerID now =>
    left
    apply rendezvous_sub (q := peerID)
    simpa [step] using h
  | sweepExpired now => exact .inl (Table.get?_filter_eq_some.mp h).1
  | closeSession id =>
    left
    rw [← w.hub.detach_federatedPresence id]
    exact h
  | closeHub =>
    simp only [step, settle, Hub.close] at h
    split at h
    · exact .inl h
    · simp at h
  | deliverFromFederated ctxErr routeID payload senderPeerID =>
    left
    rw [← w.hub.deliverFromFederated_federatedPresence ctxErr routeID payload senderPeerID]
    simp only [step, deliverFromFederated] at h
    split at h
    · exact h
    · exact h
  | send source routeID buffer delivery now ctxErr => exact .inl h
  | sendLocked call ctxErr =>
    left
    simp only [step, sendLocked] at h
    split at h
    · exact h
    · rename_i c _
      split at h
      · rw [← w.hub.forwardLocked_federatedPresence ctxErr c.source c.routeID c.payload c.now
          c.delivery]
        split at h
        · exact h
        · exact h
        · exact h
      · exact h
  | forwardReturns call reply =>
    left
    simp only [step, forwardReturns] at h
    repeat' split at h
    all_goals exact h
  | sendCompleted call =>
    left
    simp only [step, sendCompleted] at h
    split at h
    · exact h
    · split at h
      · rename_i pending serial err _
        rw [← w.hub.forwardCompleted_federatedPresence pending err]
        split at h
        · exact h
        · exact h
      · exact h
  | receive handle =>
    rw [(hreceive (.inl ⟨handle, rfl⟩)).2.2] at h
    exact .inl h
  | receiveLookup call =>
    rw [(hreceive (.inr (.inl ⟨call, rfl⟩))).2.2] at h
    exact .inl h
  | receiveSelect call arm =>
    rw [(hreceive (.inr (.inr (.inl ⟨call, arm, rfl⟩)))).2.2] at h
    exact .inl h
  | receiveReturns call =>
    rw [(hreceive (.inr (.inr (.inr ⟨call, rfl⟩)))).2.2] at h
    exact .inl h

end Entries

theorem step_openEntries {w : System} (hi : w.hub.Invariant) (hopen : w.OpenEntries)
    {e : Event} (hguard : SharingGuard w e) : (w.step e).OpenEntries := by
  intro p entry f hentry hf hlive
  have hkept := step_forwarders w e
  have horigin : f < w.forwarders.length ∧ (w.Closable f → ¬w.Released f) := by
    rcases entry_origin e hentry with hold | ⟨now, rfl⟩
    · exact hopen p entry f hold hf (Int.lt_of_le_of_lt (clock_le_step w e) hlive)
    · rw [hf] at hguard
      exact hguard.announced p f now rfl
  refine ⟨Nat.lt_of_lt_of_le horigin.1 hkept.length, ?_⟩
  intro hclosable hreleased
  have hold := (hkept.closable f horigin.1).mp hclosable
  exact (released_unshared hi hguard hold (horigin.2 hold) hreleased).2 p entry hentry hlive hf

theorem rendezvous_forwarder {w : System} (hi : w.hub.Invariant) {source : SessionID}
    {routeID : RouteID} {peerID : PeerID} {now : Time} {route : RouteState}
    {f : ForwarderRef} (hnew : w.hub.routes.get? routeID = none)
    (hroute : (w.hub.rendezvous source routeID peerID now).hub.routes.get? routeID =
      some route) (hf : f ∈ route.federatedForwarders) :
    ∃ entry, w.hub.federatedPresence.get? peerID = some entry ∧
      entry.forwarder = some f ∧ now < entry.expiresAt := by
  have hhub := hi.rendezvous source routeID peerID now
  have hspec := w.hub.rendezvous_spec source routeID peerID now
  generalize w.hub.rendezvous source routeID peerID now = o at hspec hroute hhub
  have hlookup := w.hub.lookupLocalLocked_federatedPresence peerID now
  have hroutes := w.hub.lookupLocalLocked_routes peerID now
  have hleft := (hhub.route routeID route hroute).left_local
  rw [RouteState.mem_federatedForwarders, hleft] at hf
  have hright : route.right.forwarder = some f := by
    rcases hf with hf | hf
    · cases hf
    · exact hf
  cases hspec with
  | refused err =>
    rw [Hub.returns, hnew] at hroute
    cases hroute
  | repeated _ hold =>
    rw [hold] at hnew
    cases hnew
  | @missed hub₁ hub₂ _ _ _ _ hlocal hfederated =>
    have hroutes' := hub₁.lookupFederatedLocked_routes peerID now
    rw [hfederated] at hroutes'
    rw [hlocal] at hroutes
    change hub₂.routes.get? routeID = some route at hroute
    rw [show hub₂.routes = w.hub.routes from hroutes'.trans hroutes, hnew] at hroute
    cases hroute
  | boundLocal =>
    simp only [Hub.bindRoute, Table.get?_insert_self, Option.some.injEq] at hroute
    rw [← hroute] at hright
    cases hright
  | boundFederated _ _ _ _ hlocal hfederated =>
    simp only [Hub.bindRoute, Table.get?_insert_self, Option.some.injEq] at hroute
    rw [← hroute] at hright
    rcases Hub.lookupFederatedLocked_eq_some hfederated with ⟨_, hentry, hnow, _⟩
    rw [hlocal] at hlookup
    exact ⟨_, hlookup ▸ hentry, hright, hnow⟩

theorem step_sharingKept {w : System} (hi : w.hub.Invariant) (hopen : w.OpenEntries)
    {e : Event} (hguard : SharingGuard w e) : SharingKept w e where
  routes := fun _ hclosable hold hreleased =>
    (released_unshared hi hguard hclosable hold hreleased).1
  entries := fun _ hclosable hold hreleased =>
    (released_unshared hi hguard hclosable hold hreleased).2
  bound := by
    rintro source routeID peerID now route f rfl hnew hroute hf hclosable
    simp only [step, observe_hub, settleBinding_hub] at hroute
    obtain ⟨entry, hentry, hforwarder, hnow⟩ := rendezvous_forwarder hi hnew hroute hf
    have hcurrent := hguard.current source routeID peerID now entry rfl hentry hnow
    obtain ⟨hlt, hsound⟩ := hopen peerID entry f hentry hforwarder hcurrent
    have hold := ((step_forwarders w _).closable f hlt).mp hclosable
    exact not_released_of_eq (hsound hold) (by simp [step])
      (by simp [step, rendezvous_closers])

/-- In every run whose events meet the guard, no operation closes a forwarder that
another live route or an unexpired federated entry refers to, and every rendezvous
that binds a federated route binds an open forwarder. -/
theorem shared_forwarders_kept (config : ValidConfig) (events : List Event)
    (h : Trace.Meets step SharingGuard (start config) events) :
    Trace.Meets step SharingKept (start config) events :=
  Trace.meets_of_meets (P := fun w => w.hub.Invariant ∧ w.OpenEntries)
    (fun _ e hi hguard => ⟨⟨invariant_step hi.1 e, step_openEntries hi.1 hi.2 hguard⟩,
      step_sharingKept hi.1 hi.2 hguard⟩)
    ⟨Hub.invariant_start config, openEntries_start config⟩ h

theorem not_givesUp {w : System} {f : ForwarderRef} {e : Event}
    (hroute : ∀ r route, ¬DropsRoute w r route e) (hsweep : ∀ now, e ≠ .sweepExpired now)
    (hforward : ∀ call reply, e ≠ .forwardReturns call reply) : ¬GivesUp w f e := by
  rintro (⟨r, route, _, hdrops, _⟩ | ⟨_, _, now, rfl, _⟩ |
    ⟨_, call, reply, _, _, _, _, rfl, _⟩)
  · exact hroute r route hdrops
  · exact hsweep now rfl
  · exact hforward call reply rfl

theorem fresh_route_unshared :
    Trace.Meets step SharingKept (start defaultValidConfig)
      [.newForwarder (.wss .fresh), .attach "a", .announceFederatedPresence "p" (some 0) 0,
        .rendezvous "a" "r" "p" 0] := by
  apply shared_forwarders_kept
  refine ⟨⟨?_, ?_, ?_⟩, ⟨?_, ?_, ?_⟩, ⟨?_, ?_, ?_⟩, ⟨?_, ?_, ?_⟩, trivial⟩
  · exact fun f h => absurd h (not_givesUp (fun _ _ h => h) (by simp) (by simp))
  · intro _ _ _ h
    cases h
  · intro _ _ _ _ _ h
    cases h
  · exact fun f h => absurd h (not_givesUp (fun _ _ h => h) (by simp) (by simp))
  · intro _ _ _ h
    cases h
  · intro _ _ _ _ _ h
    cases h
  · exact fun f h => absurd h (not_givesUp (fun _ _ h => h) (by simp) (by simp))
  · intro _ _ _ h
    cases h
    exact ⟨by decide, fun _ => by decide⟩
  · intro _ _ _ _ _ h
    cases h
  · exact fun f h => absurd h (not_givesUp (fun _ _ h => h) (by simp) (by simp))
  · intro _ _ _ h
    cases h
  · intro _ _ _ _ entry h _ hnow
    cases h
    exact hnow

/-- The close of one session closes the bridge behind a peer that is still announced,
and the next rendezvous with the peer binds it. -/
theorem closed_forwarder_bound :
    ¬∀ (config : ValidConfig) (events : List Event),
      Trace.Meets step SharingKept (start config) events := by
  intro h
  have hrun := h defaultValidConfig
    ([.newForwarder (.wss .fresh), .attach "a", .attach "b",
      .announceFederatedPresence "p" (some 0) 0, .rendezvous "a" "r" "p" 0,
      .closeSession "a", .closeForwarder 0] ++ [.rendezvous "b" "s" "p" 1])
  have hlast := ((Trace.meets_snoc _ _ _ _ _).mp hrun).2
  have hopen := hlast.bound "b" "s" "p" 1 ⟨⟨"b", none, ""⟩, ⟨"", some 0, "p"⟩⟩ 0 rfl
    (by decide) (by decide) (by decide) ⟨.wss ⟨true, none⟩, by decide, rfl⟩
  exact absurd hopen (by decide)

end System

end Branch.Relay
