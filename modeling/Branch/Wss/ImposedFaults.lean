import Branch.Wss.Assertions
import Branch.Wss.RelayTurns

/-!
Which attachments a relay closes for what others did. The errors that are not fatal are a list
of their own, apart from the places that the errors come from.
-/

namespace Branch.Wss

open Branch.Lib
open Branch.Relay (Bytes Delivery Err Hub PeerID RouteID SessionID SessionState RouteEndpoint Time)

section Hub

variable {hub : Hub} {source : SessionID} {routeID : RouteID} {payload : Bytes} {now : Time}
  {delivery : Delivery}

/-- The session at the other end of a route has no room in its inbox. -/
def Crowded (hub : Hub) (target : RouteEndpoint) : Prop :=
  target.sessionID ≠ "" ∧ ∃ destination, hub.sessions.get? target.sessionID = some destination ∧
    destination.inbox.capacity ≤ destination.inbox.items.length

/-- The bridge at the other end of a route answers that the frame is too large, a quota is used
up or the rate is too high. -/
def Rebuffed (onward : Option Err) (target : RouteEndpoint) : Prop :=
  target.sessionID = "" ∧ target.forwarder.isSome = true ∧
    ∃ err ∈ onward, normalizeFederationError err ≠ .peerUnavailable

/-- An envelope that passes every check of the sender finds an end of its live route that does
not take it. -/
def Refused (hub : Hub) (source : SessionID) (now : Time) (onward : Option Err)
    (routeID : RouteID) (payload : Bytes) (delivery : Delivery) : Prop :=
  Relay.sendEntryError hub.config.toConfig (some delivery) none payload = none ∧
    ∃ state target, hub.Admits source routeID payload now (some delivery) state target ∧
      (Crowded hub target ∨ Rebuffed onward target)

theorem live_of_admits {state : SessionState} {target : RouteEndpoint}
    (h : hub.Admits source routeID payload now (some delivery) state target) :
    hub.endpointLiveLocked target now = true := by
  obtain ⟨route, _, hpeer, hlive⟩ := h.route
  obtain ⟨hleft, hright⟩ := (Bool.and_eq_true _ _).mp hlive
  unfold Relay.RouteState.peer at hpeer
  split at hpeer
  · rwa [← Option.some.inj hpeer]
  split at hpeer
  · rwa [← Option.some.inj hpeer]
  · cases hpeer

theorem ownRefusal_of_admits {state : SessionState} {target : RouteEndpoint}
    (hentry : Relay.sendEntryError hub.config.toConfig (some delivery) none payload = none)
    (h : hub.Admits source routeID payload now (some delivery) state target) :
    ownRefusal hub source payload delivery = none := by
  simp [ownRefusal, hentry, h.opened, h.session, h.attached, h.fresh, h.quota]

/-- A hub that does not accept an envelope refuses it for the sender's own sake, has no live
route for it, or finds no room in the inbox at the other end of the route. -/
theorem forwardLocked_failed {err : Err}
    (hentry : Relay.sendEntryError hub.config.toConfig (some delivery) none payload = none)
    (h : (hub.forwardLocked none source routeID payload now (some delivery)).value =
      .failed err) :
    ownRefusal hub source payload delivery = some err ∨ isFatal (.relay err) = false ∨
      ∃ state target, hub.Admits source routeID payload now (some delivery) state target ∧
        Crowded hub target := by
  unfold Hub.forwardLocked at h
  simp only at h
  split at h
  · rename_i hclosed
    obtain rfl := Relay.ForwardStep.failed.inj h
    exact .inl (by simp [ownRefusal, hentry, hclosed])
  rename_i hopen
  split at h
  · rename_i hnone
    obtain rfl := Relay.ForwardStep.failed.inj h
    exact .inl (by simp [ownRefusal, hentry, hopen, hnone])
  rename_i state hstate
  split at h
  · rename_i hclosed
    obtain rfl := Relay.ForwardStep.failed.inj h
    exact .inl (by simp [ownRefusal, hentry, hopen, hstate, hclosed])
  rename_i hattached
  split at h
  · obtain rfl := Relay.ForwardStep.failed.inj h
    exact .inr (.inl rfl)
  rename_i route hroute
  split at h
  · obtain rfl := Relay.ForwardStep.failed.inj h
    exact .inr (.inl rfl)
  rename_i target hpeer
  split at h
  · obtain rfl := Relay.ForwardStep.failed.inj h
    exact .inr (.inl rfl)
  rename_i hlive
  split at h
  · rename_i hreplayed
    obtain rfl := Relay.ForwardStep.failed.inj h
    exact .inl (by simp [ownRefusal, hentry, hopen, hstate, hattached, hreplayed])
  rename_i hfresh
  split at h
  · rename_i hquota
    obtain rfl := Relay.ForwardStep.failed.inj h
    exact .inl (by simp [ownRefusal, hentry, hopen, hstate, hattached, hfresh, hquota])
  rename_i hquota
  have hadmits : hub.Admits source routeID payload now (some delivery) state target :=
    ⟨Bool.eq_false_iff.mpr hopen, hstate, Bool.eq_false_iff.mpr hattached,
      ⟨route, hroute, hpeer, by simpa using hlive⟩, hfresh, Bool.eq_false_iff.mpr hquota⟩
  split at h
  · rename_i hlocal
    obtain ⟨destination, hdestination, hopen', -⟩ :=
      (Relay.Hub.endpointLiveLocked_local_iff hlocal).mp (live_of_admits hadmits)
    rw [hdestination] at h
    simp only [hopen', Bool.false_eq_true, if_false] at h
    split at h
    · cases h
    · rename_i hfull
      refine .inr (.inr ⟨state, target, hadmits, hlocal, destination, hdestination, ?_⟩)
      rw [← Nat.not_lt, ← BoundedQueue.push?_isSome_iff, hfull]
      exact Bool.false_ne_true
  · split at h
    · obtain rfl := Relay.ForwardStep.failed.inj h
      exact .inr (.inl rfl)
    · cases h

/-- An error of a send that ends the attachment of the sender is the sender's own or comes from
the other end of the route. -/
theorem refused_of_fatal {onward : Option Err} {err : Err}
    (h : sendDelivery hub source now onward routeID payload delivery = some err)
    (hfatal : isFatal (.relay err) = true) :
    ownRefusal hub source payload delivery = some err ∨
      Refused hub source now onward routeID payload delivery := by
  unfold sendDelivery at h
  split at h
  · rename_i hentry
    rw [← h]
    exact .inl (by simp [ownRefusal, hentry])
  rename_i hentry
  split at h
  · rename_i hvalue
    obtain rfl := Option.some.inj h
    rcases forwardLocked_failed hentry hvalue with hown | hmild | ⟨state, target, hadmits, hfull⟩
    · exact .inl hown
    · rw [hmild] at hfatal
      cases hfatal
    · exact .inr ⟨hentry, state, target, hadmits, .inl hfull⟩
  · cases h
  · rename_i pending hvalue
    obtain ⟨err', honward, rfl⟩ := Option.map_eq_some_iff.mp h
    have hspec := hub.forwardLocked_spec none source routeID payload now (some delivery)
    generalize hub.forwardLocked none source routeID payload now (some delivery) = o
      at hspec hvalue
    cases hspec with
    | forwarding hadmits hremote hforwarder =>
      refine .inr ⟨hentry, _, _, hadmits, .inr ⟨hremote, ?_, err', honward, ?_⟩⟩
      · rw [hforwarder]
        rfl
      · intro hmild
        rw [hmild] at hfatal
        cases hfatal
    | _ => cases hvalue

/-- What `normalizeFederationError` lets through is fatal. -/
theorem isFatal_normalizeFederationError {err : Err}
    (h : normalizeFederationError err ≠ .peerUnavailable) :
    isFatal (.relay (normalizeFederationError err)) = true ∧
      normalizeFederationError err ≠ .duplicateDelivery := by
  cases err <;> first | exact absurd rfl h | exact ⟨rfl, by decide⟩

theorem fatal_of_refused {onward : Option Err}
    (h : Refused hub source now onward routeID payload delivery) :
    ownRefusal hub source payload delivery = none ∧
      ∃ err, sendDelivery hub source now onward routeID payload delivery = some err ∧
        isFatal (.relay err) = true ∧ err ≠ .duplicateDelivery := by
  obtain ⟨hentry, state, target, hadmits, hend⟩ := h
  refine ⟨ownRefusal_of_admits hentry hadmits, ?_⟩
  rcases hend with ⟨hlocal, destination, hdestination, hfull⟩ | ⟨hremote, hforwarder, err, honward, hsevere⟩
  · obtain ⟨destination', hdestination', hopen, -⟩ :=
      (Relay.Hub.endpointLiveLocked_local_iff hlocal).mp (live_of_admits hadmits)
    obtain rfl := Option.some.inj (hdestination.symm.trans hdestination')
    have hpush : destination.inbox.push? ⟨routeID, state.peerID, payload⟩ = none := by
      rw [← Option.not_isSome_iff_eq_none, BoundedQueue.push?_isSome_iff]
      exact Nat.not_lt.mpr hfull
    refine ⟨.backpressure, ?_, rfl, by decide⟩
    rw [sendDelivery, hentry, hadmits.full hlocal hdestination hopen hpush]
    rfl
  · obtain ⟨forwarder, hforwarder⟩ := Option.isSome_iff_exists.mp hforwarder
    obtain ⟨hfatal, hne⟩ := isFatal_normalizeFederationError hsevere
    refine ⟨normalizeFederationError err, ?_, hfatal, hne⟩
    rw [sendDelivery, hentry, hadmits.forwarding hremote hforwarder, Option.mem_def.mp honward]
    rfl

theorem routeRefusal_of_fatal {peerID : PeerID} {err : Err}
    (h : (hub.rendezvous source routeID peerID now).value = some err)
    (hfatal : isFatal (.relay err) = true) : routeRefusal hub source routeID peerID = some err := by
  rw [Hub.rendezvous] at h
  rw [routeRefusal]
  cases hrouteID : Relay.validateID routeID with
  | some refused =>
    rw [hrouteID] at h
    exact h
  | none =>
  rw [hrouteID] at h
  cases hpeerID : Relay.validateID peerID with
  | some refused =>
    rw [hpeerID] at h
    exact h
  | none =>
  rw [hpeerID] at h
  dsimp only at h ⊢
  split at h
  · rename_i hclosed
    rw [if_pos hclosed]
    exact h
  rename_i hopen
  rw [if_neg hopen]
  split at h
  · rename_i hnone
    rw [if_pos hnone]
    exact h
  exfalso
  split at h
  · split at h
    · cases h
    · obtain rfl := Option.some.inj h
      cases hfatal
  · split at h
    · cases h
    · split at h
      · obtain rfl := Option.some.inj h
        cases hfatal
      · cases h

end Hub

section Turns

def Fatal (result : Except Fault (List Written)) : Prop :=
  ∃ err, result = .error (.failed err) ∧ isFatal err = true

theorem fatal_bind {α : Type} {x : Except Fault α} {f g : α → Except Fault (List Written)}
    (hfg : ∀ a, x = .ok a → Fatal (f a) → Fatal (g a)) (h : Fatal (x >>= f)) :
    Fatal (x >>= g) := by
  cases hx : x with
  | error fault =>
    rw [hx] at h
    exact h
  | ok a =>
    rw [hx] at h
    exact hfg a hx h

theorem not_fatal_ok {frames : List Written} : ¬ Fatal (.ok frames) := by
  rintro ⟨err, h, _⟩
  cases h

theorem fatal_fail {err : HandlerErr} : Fatal (fail err) ↔ isFatal err = true := by
  constructor
  · rintro ⟨err', h, hfatal⟩
    cases h
    exact hfatal
  · exact fun h => ⟨err, rfl, h⟩

theorem fatal_relayError {err : Option Err} :
    Fatal (relayError err >>= fun _ => pure []) ↔ ∃ err' ∈ err, isFatal (.relay err') = true := by
  cases err with
  | none => exact iff_of_false not_fatal_ok (by simp)
  | some err =>
    have hfail : Fatal (relayError (some err) >>= fun _ => pure []) ↔
        isFatal (.relay err) = true := fatal_fail
    simpa using hfail

variable {w : RelayWorld} {attached : Attached} {raw : Bytes} {frame : TypedFrame}

theorem fatal_handleLookup
    (h : Fatal (handleLookup (w.environment attached raw) attached frame)) :
    Fatal (handleLookup (w.ownEnvironment attached raw) attached frame) := by
  refine fatal_bind (fun peerID _ h => ?_) h
  have hown : (if attached.federationAttachment then
      (w.ownEnvironment attached raw).lookupLocal
    else (w.ownEnvironment attached raw).lookup) peerID = true := by
    split <;> rfl
  rw [if_pos hown]
  by_cases hfound : (if attached.federationAttachment then
      (w.environment attached raw).lookupLocal
    else (w.environment attached raw).lookup) peerID = true
  · rw [if_pos hfound] at h
    exact h
  · exfalso
    rw [if_neg hfound] at h
    split at h
    · exact not_fatal_ok h
    · exact absurd (fatal_fail.mp h) (by decide)

theorem isFatal_of_routeRefusal {hub : Hub} {source : SessionID} {routeID : RouteID}
    {peerID : PeerID} {err : Err} (h : routeRefusal hub source routeID peerID = some err) :
    isFatal (.relay err) = true := by
  have hinvalid : ∀ {id : String} {err : Err}, Relay.validateID id = some err →
      isFatal (.relay err) = true := by
    intro id err h
    obtain rfl := Option.some.inj (Option.ite_none_right_eq_some.mp h).2
    rfl
  unfold routeRefusal at h
  split at h
  · rename_i hrefused
    obtain rfl := Option.some.inj h
    exact hinvalid hrefused
  split at h
  · rename_i hrefused
    obtain rfl := Option.some.inj h
    exact hinvalid hrefused
  split at h
  · obtain rfl := Option.some.inj h
    rfl
  split at h
  · obtain rfl := Option.some.inj h
    rfl
  · cases h

theorem ownEnvironment_rendezvous (raw : Bytes) {routeID : RouteID} {peerID : PeerID}
    (h : (routeRefusal w.hub attached.sessionID routeID peerID).isSome = true ∨
      (routeRefusal w.later attached.sessionID routeID peerID).isSome = true) :
    ∃ err, (w.ownEnvironment attached raw).rendezvous routeID peerID = some err ∧
      isFatal (.relay err) = true := by
  show ∃ err, (routeRefusal w.hub attached.sessionID routeID peerID).or
    (routeRefusal w.later attached.sessionID routeID peerID) = some err ∧ _
  cases hhub : routeRefusal w.hub attached.sessionID routeID peerID with
  | some err => exact ⟨err, rfl, isFatal_of_routeRefusal hhub⟩
  | none =>
    rw [hhub] at h
    obtain ⟨err, herr⟩ := Option.isSome_iff_exists.mp (h.resolve_left Bool.false_ne_true)
    exact ⟨err, herr, isFatal_of_routeRefusal herr⟩

theorem fatal_handleRendezvous
    (h : Fatal (handleRendezvous (w.environment attached raw) attached frame)) :
    Fatal (handleRendezvous (w.ownEnvironment attached raw) attached frame) := by
  refine fatal_bind (fun routeID _ h => fatal_bind (fun peerID _ h => ?_) h) h
  split at h
  · rename_i hhints
    rw [if_pos hhints]
    exact h
  rename_i hhints
  rw [if_neg hhints]
  split at h
  · rename_i hfed
    rw [if_pos hfed]
    split at h
    · exact absurd (fatal_fail.mp h) (by decide)
    · obtain ⟨err, hvalue, hfatal⟩ := fatal_relayError.mp h
      have hlater : ((if attached.federationAttachment then w.later else w.hub).rendezvous
          attached.sessionID routeID peerID w.env.now).value = some err := hvalue
      rw [if_pos hfed] at hlater
      have hrefused := routeRefusal_of_fatal hlater hfatal
      obtain ⟨err', herr', hfatal'⟩ := ownEnvironment_rendezvous raw
        (.inr (Option.isSome_iff_exists.mpr ⟨err, hrefused⟩))
      have hlocal : (w.ownEnvironment attached raw).lookupLocal peerID = true := rfl
      rw [if_neg (not_not.mpr hlocal)]
      exact fatal_relayError.mpr ⟨err', herr', hfatal'⟩
  · rename_i hfed
    rw [if_neg hfed]
    have hown : (routeRefusal w.hub attached.sessionID routeID peerID).isSome = true ∨
        (routeRefusal w.later attached.sessionID routeID peerID).isSome = true := by
      split at h
      · exact absurd h not_fatal_ok
      · split at h
        · exact absurd (fatal_fail.mp h) (by decide)
        · obtain ⟨err, hvalue, hfatal⟩ := fatal_relayError.mp h
          exact .inr (Option.isSome_iff_exists.mpr ⟨err, routeRefusal_of_fatal hvalue hfatal⟩)
      · rename_i err _ hvalue
        have hhub : ((if attached.federationAttachment then w.later else w.hub).rendezvous
            attached.sessionID routeID peerID w.env.now).value = some err := hvalue
        rw [if_neg hfed] at hhub
        exact .inl (Option.isSome_iff_exists.mpr
          ⟨err, routeRefusal_of_fatal hhub (fatal_fail.mp h)⟩)
    obtain ⟨err, herr, hfatal⟩ := ownEnvironment_rendezvous raw hown
    rw [herr]
    split
    · rename_i heq
      cases heq
    · rename_i heq
      obtain rfl := Option.some.inj heq
      cases hfatal
    · rename_i heq
      obtain rfl := Option.some.inj heq
      exact fatal_fail.mpr hfatal

/-- The frame is an envelope that the handler submits to the hub. -/
structure Submits (frame : TypedFrame) (routeID : RouteID) (delivery : Delivery) : Prop where
  type_eq : frameType frame = some .envelope
  route : assertString (frame.get? "route_id") = .ok routeID
  delivery_eq : deliveryFromFrame frame = .ok delivery

/-- What others impose upon a frame that the handler gets to read: its envelope is refused by
the other end of its route, or its records, which are in order, contradict what the cache has
from elsewhere. -/
inductive Imposes (w : RelayWorld) (attached : Attached) (raw : Bytes) (frame : TypedFrame) :
    Prop
  | refused {routeID : RouteID} {delivery : Delivery} (hsubmits : Submits frame routeID delivery)
      (hrefused : Refused w.hub attached.sessionID w.env.now w.onward routeID raw delivery)
  | outdated {cache : IdentityContactCache} (htype : frameType frame = some .identityHave)
      (hcache : w.cache = some cache)
      (hown : w.acceptsRecords raw { cache with entries := .empty } = true)
      (hrefused : w.acceptsRecords raw cache = false)

theorem not_fatal_assertString {v : Option Json} {f : String → Except Fault (List Written)}
    (hf : ∀ s, ¬ Fatal (f s)) : ¬ Fatal (assertString v >>= f) := by
  unfold assertString
  split
  · exact hf _
  · rintro ⟨err, h, _⟩
    cases h

theorem not_fatal_writeFrame {env : Environment} (hwrites : env.writeFails = false)
    (frame : TypedFrame) : ¬ Fatal (writeFrame env attached frame) := by
  rw [writeFrame, if_neg (Bool.eq_false_iff.mp hwrites)]
  exact not_fatal_ok

/-- Whatever ends an attachment over an envelope is the attachment's own, or the other end of
the route refuses it. -/
theorem fatal_handleEnvelope (hwrites : w.env.writeFails = false)
    (htype : frameType frame = some .envelope)
    (h : Fatal (handleEnvelope (w.environment attached raw) attached raw frame)) :
    Fatal (handleEnvelope (w.ownEnvironment attached raw) attached raw frame) ∨
      Imposes w attached raw frame := by
  by_contra hneither
  obtain ⟨hown, hnot⟩ := not_or.mp hneither
  refine hown (fatal_bind (fun routeID hroute h => ?_) h)
  split at h
  · exact h
  rename_i delivery hdelivery
  show Fatal (if _ then _ else _)
  change Fatal (if _ then _ else _) at h
  split at h
  · rename_i hsent
    obtain ⟨err, hvalue, hfatal⟩ := fatal_relayError.mp h
    rcases refused_of_fatal hvalue hfatal with hrefusal | hrefused
    · have hsame : (w.ownEnvironment attached raw).sendDelivery routeID raw delivery =
          (w.environment attached raw).sendDelivery routeID raw delivery := hrefusal.trans hvalue.symm
      rw [hsame, if_pos hsent]
      exact h
    · exact absurd (.refused ⟨htype, hroute, hdelivery⟩ hrefused) hnot
  · exfalso
    split at h
    · exact not_fatal_assertString (fun _ => not_fatal_writeFrame hwrites _) h
    · exact not_fatal_ok h

theorem all_const_eq_false {records : List String} {p : Bool} :
    records.all (fun _ => p) = false ↔ records ≠ [] ∧ p = false := by
  cases records with
  | nil => simp
  | cons record records => cases p <;> simp

theorem fatal_handleIdentityHave (htype : frameType frame = some .identityHave)
    (h : Fatal (handleIdentityHave (w.environment attached raw) frame)) :
    Fatal (handleIdentityHave (w.ownEnvironment attached raw) frame) ∨
      Imposes w attached raw frame := by
  by_contra hneither
  obtain ⟨hown, hnot⟩ := not_or.mp hneither
  refine hown ?_
  unfold handleIdentityHave at h ⊢
  split at h
  · exact absurd h not_fatal_ok
  rename_i hcontacts
  have hcontacts' : ¬¬(w.ownEnvironment attached raw).identityContacts = true := hcontacts
  rw [if_neg hcontacts']
  refine fatal_bind (fun branchID _ h => ?_) h
  split at h
  · exact h
  rename_i records hrecords
  split at h
  · exact absurd h not_fatal_ok
  rename_i hrefused
  obtain ⟨cache, hcache⟩ := Option.isSome_iff_exists.mp (not_not.mp hcontacts)
  have hall : (records.all fun _ =>
      w.cache.any fun cache => w.acceptsRecords raw cache) = false := Bool.eq_false_iff.mpr hrefused
  obtain ⟨hne, hcached⟩ := all_const_eq_false.mp hall
  rw [hcache, Option.any_some] at hcached
  have hempty : w.acceptsRecords raw { cache with entries := .empty } = false :=
    Bool.eq_false_iff.mpr fun hempty => hnot (.outdated htype hcache hempty hcached)
  have hallOwn : (records.all fun _ => w.cache.any fun cache =>
      w.acceptsRecords raw { cache with entries := .empty }) = false := by
    rw [hcache]
    exact all_const_eq_false.mpr ⟨hne, hempty⟩
  have hrefused' : ¬(records.all fun record =>
      (w.ownEnvironment attached raw).acceptRecord record branchID) = true :=
    Bool.eq_false_iff.mp hallOwn
  rw [if_neg hrefused']
  exact h

/-- Whatever ends an attachment over a frame that the handler gets to read is the attachment's
own or imposed upon it. -/
theorem fatal_dispatch (hwrites : w.env.writeFails = false)
    (h : Fatal (dispatch (w.environment attached raw) attached raw frame)) :
    Fatal (dispatch (w.ownEnvironment attached raw) attached raw frame) ∨
      Imposes w attached raw frame := by
  unfold dispatch at h ⊢
  cases htype : frameType frame with
  | none => exact absurd (htype ▸ h) not_fatal_ok
  | some t =>
    rw [htype] at h
    cases t with
    | lookup => exact .inl (fatal_handleLookup h)
    | rendezvous => exact .inl (fatal_handleRendezvous h)
    | envelope => exact fatal_handleEnvelope hwrites htype h
    | identityHave => exact fatal_handleIdentityHave htype h
    | _ => exact .inl h

theorem handleEnvelope_refused {env : Environment} {routeID : RouteID} {delivery : Delivery}
    {err : Err} (hsubmits : Submits frame routeID delivery)
    (hsent : env.sendDelivery routeID raw delivery = some err) (hne : err ≠ .duplicateDelivery) :
    handleEnvelope env attached raw frame = fail (.relay err) := by
  simp only [handleEnvelope, hsubmits.route, hsubmits.delivery_eq, hsent, relayError, fail,
    bind, Except.bind]
  rw [if_pos (by simpa using hne)]

theorem not_fatal_handleEnvelope {env : Environment} (hwrites : env.writeFails = false)
    {routeID : RouteID} {delivery : Delivery} (hsubmits : Submits frame routeID delivery)
    (hsent : env.sendDelivery routeID raw delivery = none) :
    ¬ Fatal (handleEnvelope env attached raw frame) := by
  intro h
  simp only [handleEnvelope, hsubmits.route, hsubmits.delivery_eq, hsent, bind, Except.bind] at h
  rw [if_neg (by simp)] at h
  split at h
  · exact not_fatal_assertString (fun _ => not_fatal_writeFrame hwrites _) h
  · exact not_fatal_ok h

theorem handleIdentityHave_const {env : Environment} {p : Bool} {branchID : String}
    {records : List String} (hcontacts : env.identityContacts = true)
    (haccept : env.acceptRecord = fun _ _ => p)
    (hbranch : assertString (frame.get? "branch_id") = .ok branchID)
    (hrecords : identityRecordStringsFromFrame frame = .ok records) (hne : records ≠ []) :
    handleIdentityHave env frame = if p then .ok [] else fail .invalidFrame := by
  cases records with
  | nil => exact absurd rfl hne
  | cons record records =>
    cases p <;>
      simp [handleIdentityHave, hcontacts, haccept, hbranch, hrecords, bind, Except.bind, pure,
        Except.pure]

theorem records_of_acceptsRecords {cache cache' : IdentityContactCache}
    (hdecode : decodeTypedFrame raw = .ok frame) (hown : w.acceptsRecords raw cache = true)
    (hrefused : w.acceptsRecords raw cache' = false) :
    ∃ branchID records, assertString (frame.get? "branch_id") = .ok branchID ∧
      identityRecordStringsFromFrame frame = .ok records ∧ records ≠ [] := by
  unfold RelayWorld.acceptsRecords handleIdentityHaveCached at hown hrefused
  rw [hdecode] at hown hrefused
  dsimp only at hown hrefused
  cases hbranch : assertString (frame.get? "branch_id") with
  | error fault =>
    rw [hbranch] at hown
    cases hown
  | ok branchID =>
    rw [hbranch] at hown hrefused
    dsimp only at hown hrefused
    cases hrecords : identityRecordStringsFromFrame frame with
    | error err =>
      rw [hrecords] at hown
      cases hown
    | ok records =>
      refine ⟨branchID, records, rfl, rfl, ?_⟩
      rintro rfl
      rw [hrecords] at hrefused
      cases hrefused

theorem Imposes.fatal (hwrites : w.env.writeFails = false)
    (hdecode : decodeTypedFrame raw = .ok frame) (h : Imposes w attached raw frame) :
    Fatal (dispatch (w.environment attached raw) attached raw frame) ∧
      ¬ Fatal (dispatch (w.ownEnvironment attached raw) attached raw frame) := by
  unfold dispatch
  cases h with
  | refused hsubmits hrefused =>
    obtain ⟨hown, err, hsent, hfatal, hne⟩ := fatal_of_refused hrefused
    rw [hsubmits.type_eq]
    refine ⟨?_, not_fatal_handleEnvelope hwrites hsubmits hown⟩
    show Fatal (handleEnvelope (w.environment attached raw) attached raw frame)
    rw [handleEnvelope_refused hsubmits hsent hne]
    exact fatal_fail.mpr hfatal
  | @outdated cache htype hcache hown hrefused =>
    rw [htype]
    obtain ⟨branchID, records, hbranch, hrecords, hne⟩ :=
      records_of_acceptsRecords hdecode hown hrefused
    have hcontacts : (w.environment attached raw).identityContacts = true :=
      Option.isSome_iff_exists.mpr ⟨cache, hcache⟩
    have haccept : (w.environment attached raw).acceptRecord = fun _ _ => false := by
      simp [RelayWorld.environment, hcache, hrefused]
    have hacceptOwn : (w.ownEnvironment attached raw).acceptRecord = fun _ _ => true := by
      simp [RelayWorld.ownEnvironment, hcache, hown]
    have hreal := handleIdentityHave_const hcontacts haccept hbranch hrecords hne
    have hcontactsOwn : (w.ownEnvironment attached raw).identityContacts = true := hcontacts
    have hrealOwn := handleIdentityHave_const hcontactsOwn hacceptOwn hbranch hrecords hne
    constructor
    · show Fatal (handleIdentityHave (w.environment attached raw) frame)
      rw [hreal]
      exact fatal_fail.mpr rfl
    · show ¬ Fatal (handleIdentityHave (w.ownEnvironment attached raw) frame)
      rw [hrealOwn]
      exact not_fatal_ok

end Turns

section Attachments

variable {w : RelayWorld} {attached : Attached} {raw : Bytes} {sequences : SequenceTracker}

theorem closes_readTurn {env : Environment} (hwrites : env.writeFails = false) :
    (readTurn env attached sequences raw).2.closes = true ↔
      Fatal (handleFrame env attached sequences raw).2 := by
  have hsafe : (handleFrame env attached sequences raw).2 ≠ .error .panic := safe_handleFrame
  unfold readTurn
  generalize handleFrame env attached sequences raw = result at hsafe ⊢
  obtain ⟨sequences', result⟩ := result
  cases result with
  | ok frames => exact iff_of_false Bool.false_ne_true not_fatal_ok
  | error fault =>
    cases fault with
    | panic => exact absurd rfl hsafe
    | failed err =>
      show (env.writeFails || isFatal err) = true ↔ Fatal (fail err)
      rw [hwrites, Bool.false_or, fatal_fail]

/-- The handler gets to read the frame: it is well formed, of this session and of a new
sequence. -/
def Reached (attachment : RelayAttachment) (raw : Bytes) (frame : TypedFrame) : Prop :=
  decodeTypedFrame raw = .ok frame ∧ otherSession attachment.attached frame = false ∧
    ∃ sequences, attachment.sequences.accept frame = .ok sequences

/-- A frame that is reached, with what others impose upon it, on a connection that takes what
is written. -/
def Imposed (w : RelayWorld) (attachment : RelayAttachment) (raw : Bytes) : Prop :=
  w.env.writeFails = false ∧ ∃ frame, Reached attachment raw frame ∧
    Imposes w attachment.attached raw frame

theorem handleFrame_of_reached {attachment : RelayAttachment} {frame : TypedFrame}
    (h : Reached attachment raw frame) (env : Environment) :
    (handleFrame env attachment.attached attachment.sequences raw).2 =
      dispatch env attachment.attached raw frame := by
  obtain ⟨hdecode, hsession, sequences, haccept⟩ := h
  simp [handleFrame, hdecode, hsession, haccept]

theorem handleFrame_of_not_reached {attachment : RelayAttachment}
    (h : ¬ ∃ frame, Reached attachment raw frame) (env env' : Environment) :
    (handleFrame env attachment.attached attachment.sequences raw).2 =
      (handleFrame env' attachment.attached attachment.sequences raw).2 := by
  unfold handleFrame
  cases hdecode : decodeTypedFrame raw with
  | error err => rfl
  | ok frame =>
    dsimp only
    split
    · rfl
    · rename_i hsession
      cases haccept : attachment.sequences.accept frame with
      | error err => rfl
      | ok sequences =>
        exact absurd ⟨frame, hdecode, Bool.eq_false_iff.mpr hsession, sequences, haccept⟩ h

theorem imposed_iff (w : RelayWorld) (attachment : RelayAttachment) (raw : Bytes) :
    ((w.turn attachment.attached raw attachment.sequences).2.closes = true →
      w.env.writeFails = true ∨
        (w.ownTurn attachment.attached raw attachment.sequences).2.closes = true) ↔
      ¬ Imposed w attachment raw := by
  cases hwrites : w.env.writeFails with
  | true =>
    exact iff_of_true (fun _ => .inl rfl) fun h => absurd (hwrites.symm.trans h.1) (by decide)
  | false =>
    have hreal : (w.environment attachment.attached raw).writeFails = false := hwrites
    have hown : (w.ownEnvironment attachment.attached raw).writeFails = false := hwrites
    rw [RelayWorld.turn, RelayWorld.ownTurn, closes_readTurn hreal, closes_readTurn hown]
    by_cases hreached : ∃ frame, Reached attachment raw frame
    · obtain ⟨frame, hreached⟩ := hreached
      rw [handleFrame_of_reached hreached, handleFrame_of_reached hreached]
      constructor
      · rintro h ⟨_, frame', hreached', himposes⟩
        obtain rfl := Except.ok.inj (hreached.1.symm.trans hreached'.1)
        obtain ⟨hfatal, hnot⟩ := himposes.fatal hwrites hreached.1
        exact hnot ((h hfatal).resolve_left Bool.false_ne_true)
      · intro hnot hfatal
        rcases fatal_dispatch hwrites hfatal with h | himposes
        · exact .inr h
        · exact absurd ⟨hwrites, frame, hreached, himposes⟩ hnot
    · rw [handleFrame_of_not_reached hreached _ (w.ownEnvironment attachment.attached raw)]
      exact iff_of_true .inr fun h => hreached ⟨h.2.choose, h.2.choose_spec.1⟩

theorem writerEnds_iff (envelope : EnvelopeText) (senderPeerID : PeerID) (writeFails : Bool) :
    writerEnds envelope senderPeerID writeFails = true ↔ writeFails = true := by
  unfold writerEnds
  split
  · rename_i err herror
    exfalso
    unfold deliveryPayload at herror
    split at herror
    · cases herror
    split at herror
    · rename_i hnone
      exact absurd (envelope.unmarshal.symm.trans hnone) nofun
    · split at herror
      · cases herror
      · cases herror
  · exact Iff.rfl

namespace RelayAttachments

/-- The attachment of an event does not end, or ends for the sake of its own frames or its own
connection. -/
def EndsByItself (s : RelayAttachments) : AttachmentEvent → Prop
  | .frame id raw w => ∀ attachment ∈ s.get? id,
      (w.turn attachment.attached raw attachment.sequences).2.closes = true →
        w.env.writeFails = true ∨
          (w.ownTurn attachment.attached raw attachment.sequences).2.closes = true
  | .write id envelope senderPeerID writeFails => ∀ _attachment ∈ s.get? id,
      writerEnds envelope senderPeerID writeFails = true → writeFails = true
  | _ => True

def Unimposed (s : RelayAttachments) : AttachmentEvent → Prop
  | .frame id raw w => ∀ attachment ∈ s.get? id, ¬ Imposed w attachment raw
  | _ => True

/-- In a run the attachments end by themselves if and only if no end is imposed upon one. -/
theorem endsByItself_iff (events : List AttachmentEvent) :
    Trace.Meets step EndsByItself .empty events ↔ Trace.Meets step Unimposed .empty events := by
  refine Trace.meets_congr (P := fun _ => True) (fun _ _ _ => trivial) (fun s e _ => ?_) trivial
    events
  cases e with
  | attach attached => exact Iff.rfl
  | frame id raw w => exact forall₂_congr fun attachment _ => imposed_iff w attachment raw
  | write id envelope senderPeerID writeFails =>
    exact iff_of_true (fun _ _ => (writerEnds_iff _ _ _).mp) trivial
  | leave id => exact Iff.rfl

end RelayAttachments

end Attachments

section SlowRecipient

theorem validateConfig_shortQueue :
    Relay.validateConfig { Relay.defaultConfig with maxQueueDepth := 1 } = none := by
  decide

/-- Alice has a route to Bob, whose inbox of one frame is full. -/
def slowRecipientHub : Hub :=
  let hub := Hub.start ⟨{ Relay.defaultConfig with maxQueueDepth := 1 }, validateConfig_shortQueue⟩
  let hub := (hub.attach SequenceLog.zeroID).hub
  let hub := (hub.attach "bob").hub
  let hub := (hub.pair SubmittedEnvelope.oldRoute SequenceLog.zeroID "bob").hub
  (hub.forwardLocked none SequenceLog.zeroID SubmittedEnvelope.oldRoute [] 0 none).hub

def slowRecipient : RelayWorld where
  env := SequenceLog.quietEnvironment
  hub := slowRecipientHub
  later := slowRecipientHub
  onward := none
  cache := none
  contacts := ⟨fun _ => none, fun _ _ _ => false, id, fun _ => .refl _⟩
  clock := fun _ => 0

def sentToSlowRecipient : List AttachmentEvent :=
  [.attach SequenceLog.discoveryAttachment,
    .frame SequenceLog.zeroID SubmittedEnvelope.onOldRoute.raw slowRecipient]

/-- The attachment of the sender ends over the full inbox of the recipient. -/
theorem not_endsByItself_slowRecipient : ¬ ∀ events : List AttachmentEvent,
    Trace.Meets RelayAttachments.step RelayAttachments.EndsByItself .empty events := by
  intro h
  have hends := (h sentToSlowRecipient).2.1 ⟨SequenceLog.discoveryAttachment, {}⟩ rfl
  have hcloses : (slowRecipient.turn SequenceLog.discoveryAttachment
      SubmittedEnvelope.onOldRoute.raw {}).2.closes = true := by decide +kernel
  have hown : (slowRecipient.ownTurn SequenceLog.discoveryAttachment
      SubmittedEnvelope.onOldRoute.raw {}).2.closes = false := by decide +kernel
  rcases hends hcloses with h | h
  · cases h
  · rw [hown] at h
    cases h

end SlowRecipient

end Branch.Wss
