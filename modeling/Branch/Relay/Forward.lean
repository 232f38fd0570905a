import Branch.Relay.Hub
import Mathlib.Tactic.Simps.Basic

/-!
Forwarding. A send to a federated endpoint gives up the lock for the network
call, so the source's `forward` is split at that point: `forwardLocked` is its
part before the call and `forwardCompleted` its part after it.
-/

namespace Branch.Relay

open Branch.Lib

/-- A federated send whose frame has been handed to the forwarder. -/
structure PendingForward where
  source : SessionID
  sourceRef : SessionRef
  routeID : RouteID
  forwarder : ForwarderRef
  payload : Bytes
  senderPeerID : PeerID
  delivery : Option Delivery
  deriving DecidableEq

/-- How the locked part of a send ends: with an error, with the frame in the
inbox of an attached session, or with a call to a forwarder still to be made. -/
inductive ForwardStep
  | failed (err : Err)
  | enqueued (source destination : SessionRef) (frame : Frame)
  | forwarding (pending : PendingForward)
  deriving DecidableEq

def isRouteFailure (err : Err) : Bool :=
  err = .peerUnavailable || err = .noRoute || err = .sessionClosed ||
    err = .sessionNotFound

namespace SessionState

def overQuota (state : SessionState) (config : Config) (payloadBytes : Nat) : Bool :=
  decide (config.maxFramesPerSession < state.frames + 1) ||
    decide (config.maxBytesPerSession < state.bytes + UInt64.ofNat payloadBytes)

@[simps]
def charge (state : SessionState) (payloadBytes : Nat) : SessionState :=
  { state with
    frames := state.frames + 1
    bytes := state.bytes + UInt64.ofNat payloadBytes }

@[simps]
def uncharge (state : SessionState) (payloadBytes : Nat) : SessionState :=
  { state with
    frames := if 0 < state.frames then state.frames - 1 else state.frames
    bytes :=
      if UInt64.ofNat payloadBytes ≤ state.bytes then
        state.bytes - UInt64.ofNat payloadBytes
      else 0 }

def rememberDelivery (state : SessionState) (senderPeerID : PeerID)
    (delivery : Option Delivery) : SessionState :=
  match delivery with
  | none => state
  | some d =>
    { state with deliveries := state.deliveries.remember (d.key senderPeerID) d.digest }

section RememberDelivery

variable (state : SessionState) (senderPeerID : PeerID) (delivery : Option Delivery)

@[simp] theorem rememberDelivery_ref :
    (state.rememberDelivery senderPeerID delivery).ref = state.ref := by
  cases delivery <;> rfl

@[simp] theorem rememberDelivery_peerID :
    (state.rememberDelivery senderPeerID delivery).peerID = state.peerID := by
  cases delivery <;> rfl

@[simp] theorem rememberDelivery_inbox :
    (state.rememberDelivery senderPeerID delivery).inbox = state.inbox := by
  cases delivery <;> rfl

@[simp] theorem rememberDelivery_frames :
    (state.rememberDelivery senderPeerID delivery).frames = state.frames := by
  cases delivery <;> rfl

@[simp] theorem rememberDelivery_bytes :
    (state.rememberDelivery senderPeerID delivery).bytes = state.bytes := by
  cases delivery <;> rfl

end RememberDelivery

/-- The replay check: the error of a key that the window already holds. -/
def replayed (state : SessionState) (delivery : Option Delivery) : Option Err :=
  match delivery with
  | none => none
  | some d =>
    match state.deliveries.entries.get? (d.key state.peerID) with
    | none => none
    | some existing =>
      if existing = d.digest then some .duplicateDelivery else some .deliveryConflict

end SessionState

namespace Hub

def countForwarded (hub : Hub) (payloadBytes : Nat) : Hub :=
  { hub with
    stats :=
      { hub.stats with
        forwardedFrames := hub.stats.forwardedFrames + 1
        forwardedBytes := hub.stats.forwardedBytes + UInt64.ofNat payloadBytes } }

def countDropped (hub : Hub) : Hub :=
  { hub with stats := { hub.stats with droppedFrames := hub.stats.droppedFrames + 1 } }

/-- The last part of a local send, once the destination's inbox took the frame. -/
def settleLocal (hub : Hub) (source : SessionID) (destination : SessionID)
    (inbox : BoundedQueue Frame) (frame : Frame) (delivery : Option Delivery) : Hub :=
  let sessions := hub.sessions.modify destination fun s => { s with inbox := inbox }
  let sessions := sessions.modify source fun s =>
    (s.rememberDelivery frame.senderPeerID delivery).charge frame.payload.length
  { hub with sessions := sessions }.countForwarded frame.payload.length

/-- The part of `forward` that runs under the lock, with the copy of the payload
that the caller made before taking it. -/
def forwardLocked (hub : Hub) (ctxErr : Option Err) (source : SessionID)
    (routeID : RouteID) (framePayload : Bytes) (now : Time)
    (delivery : Option Delivery) : Outcome ForwardStep :=
  match ctxErr with
  | some err => hub.returns (.failed err)
  | none =>
  if hub.closed then hub.returns (.failed .closed)
  else
  match hub.sessions.get? source with
  | none => hub.returns (.failed .sessionClosed)
  | some state =>
  if hub.isClosed state.ref then hub.returns (.failed .sessionClosed)
  else
  match hub.routes.get? routeID with
  | none => hub.returns (.failed .noRoute)
  | some route =>
  match route.peer source with
  | none => hub.returns (.failed .noRoute)
  | some target =>
  let unrouted : Hub := { hub with routes := hub.routes.erase routeID }
  if !hub.routeLiveLocked route now then
    ⟨unrouted, route.federatedForwarders, .failed .peerUnavailable⟩
  else
  match state.replayed delivery with
  | some err => hub.returns (.failed err)
  | none =>
  if state.overQuota hub.config.toConfig framePayload.length then
    hub.returns (.failed .quotaExceeded)
  else
  let frame : Frame := ⟨routeID, state.peerID, framePayload⟩
  if target.sessionID ≠ "" then
    match hub.sessions.get? target.sessionID with
    | none => unrouted.returns (.failed .sessionClosed)
    | some destination =>
    if hub.isClosed destination.ref then unrouted.returns (.failed .sessionClosed)
    else
    match destination.inbox.push? frame with
    | some inbox =>
      (hub.settleLocal source target.sessionID inbox frame delivery).returns
        (.enqueued state.ref destination.ref frame)
    | none => hub.countDropped.returns (.failed .backpressure)
  else
  match target.forwarder with
  | none => hub.returns (.failed .noRoute)
  | some forwarder =>
    { hub with
      sessions := hub.sessions.insert source (state.charge framePayload.length) }.returns
      (.forwarding
        { source := source
          sourceRef := state.ref
          routeID := routeID
          forwarder := forwarder
          payload := framePayload
          senderPeerID := state.peerID
          delivery := delivery })

def rollbackUsageLocked (hub : Hub) (sessionID : SessionID) (expected : SessionRef)
    (payloadBytes : Nat) : Hub :=
  match hub.sessions.get? sessionID with
  | none => hub
  | some state =>
    if state.ref ≠ expected then hub
    else
      { hub with sessions := hub.sessions.insert sessionID (state.uncharge payloadBytes) }

def rememberForwarded (hub : Hub) (pending : PendingForward) : Hub :=
  match hub.sessions.get? pending.source with
  | none => hub
  | some state =>
    if state.ref ≠ pending.sourceRef then hub
    else
      { hub with
        sessions := hub.sessions.insert pending.source
          (state.rememberDelivery pending.senderPeerID pending.delivery) }

/-- The part of `forward` after the network call. A route failure drops whatever
route is filed under the id by then. -/
def forwardCompleted (hub : Hub) (pending : PendingForward) (err : Option Err) :
    Outcome (Option Err) :=
  match err with
  | none =>
    ((hub.rememberForwarded pending).countForwarded pending.payload.length).returns none
  | some err =>
    let hub :=
      hub.rollbackUsageLocked pending.source pending.sourceRef pending.payload.length
    if isRouteFailure err then
      match hub.routes.get? pending.routeID with
      | none => hub.returns (some err)
      | some failedRoute =>
        ⟨{ hub with routes := hub.routes.erase pending.routeID },
          failedRoute.federatedForwarders, some err⟩
    else hub.returns (some err)

inductive DeliverStep
  | failed (err : Err)
  | enqueued (destination : SessionRef) (frame : Frame)
  deriving DecidableEq

def deliverFromFederated (hub : Hub) (ctxErr : Option Err) (routeID : RouteID)
    (payload : Bytes) (senderPeerID : PeerID) : Outcome DeliverStep :=
  match ctxErr with
  | some err => hub.returns (.failed err)
  | none =>
  if hub.config.maxFrameBytes < payload.length then hub.returns (.failed .frameTooLarge)
  else if hub.closed then hub.returns (.failed .closed)
  else
  match hub.routes.get? routeID with
  | none => hub.returns (.failed .noRoute)
  | some route =>
  match route.localPeerOfFederated with
  | none => hub.returns (.failed .noRoute)
  | some target =>
  let gone : Outcome DeliverStep :=
    ⟨{ hub with routes := hub.routes.erase routeID }, route.federatedForwarders,
      .failed .sessionClosed⟩
  match hub.sessions.get? target with
  | none => gone
  | some destination =>
  if hub.isClosed destination.ref then gone
  else
  let frame : Frame := ⟨routeID, senderPeerID, payload⟩
  match destination.inbox.push? frame with
  | some inbox =>
    ({ hub with
      sessions :=
        hub.sessions.insert target
          { destination with inbox := inbox } }.countForwarded payload.length).returns
      (.enqueued destination.ref frame)
  | none => hub.countDropped.returns (.failed .backpressure)

/-- Taking the oldest frame out of the inbox of the session object `ref`. An
object that has left the table is only reachable from receive calls whose own
session is closed, and these return an error whatever they take. -/
def takeFrame (hub : Hub) (id : SessionID) (ref : SessionRef) : Option (Frame × Hub) :=
  match hub.sessions.get? id with
  | none => none
  | some state =>
    if state.ref ≠ ref then none
    else
      match state.inbox.pop? with
      | none => none
      | some (frame, inbox) =>
        some (frame,
          { hub with sessions := hub.sessions.insert id { state with inbox := inbox } })

/-- Every check that comes before a frame is handed on lets the send pass. -/
structure Admits (hub : Hub) (source : SessionID) (routeID : RouteID) (payload : Bytes)
    (now : Time) (delivery : Option Delivery) (state : SessionState)
    (target : RouteEndpoint) : Prop where
  opened : hub.closed = false
  session : hub.sessions.get? source = some state
  attached : hub.isClosed state.ref = false
  route : ∃ route, hub.routes.get? routeID = some route ∧ route.peer source = some target ∧
    hub.routeLiveLocked route now = true
  fresh : state.replayed delivery = none
  quota : state.overQuota hub.config.toConfig payload.length = false

inductive ForwardLocked (hub : Hub) (source : SessionID) (routeID : RouteID)
    (payload : Bytes) (now : Time) (delivery : Option Delivery) :
    Outcome ForwardStep → Prop
  | refused (err : Err) :
      ForwardLocked hub source routeID payload now delivery (hub.returns (.failed err))
  | dead {state : SessionState} {route : RouteState} {target : RouteEndpoint}
      (hroute : hub.routes.get? routeID = some route)
      (hdead : hub.routeLiveLocked route now = false)
      (hsource : hub.sessions.get? source = some state)
      (hpeer : route.peer source = some target) :
      ForwardLocked hub source routeID payload now delivery
        ⟨{ hub with routes := hub.routes.erase routeID }, route.federatedForwarders,
          .failed .peerUnavailable⟩
  | orphaned {route : RouteState} {target : RouteEndpoint}
      (hroute : hub.routes.get? routeID = some route)
      (hpeer : route.peer source = some target) (hlocal : target.sessionID ≠ "")
      (hgone : ∀ destination, hub.sessions.get? target.sessionID = some destination →
        hub.isClosed destination.ref = true) :
      ForwardLocked hub source routeID payload now delivery
        ⟨{ hub with routes := hub.routes.erase routeID }, [], .failed .sessionClosed⟩
  | full : ForwardLocked hub source routeID payload now delivery
      (hub.countDropped.returns (.failed .backpressure))
  | enqueued {state destination : SessionState} {target : RouteEndpoint}
      {inbox : BoundedQueue Frame}
      (hadmits : hub.Admits source routeID payload now delivery state target)
      (hdestination : hub.sessions.get? target.sessionID = some destination)
      (hpush : destination.inbox.push? ⟨routeID, state.peerID, payload⟩ = some inbox) :
      ForwardLocked hub source routeID payload now delivery
        ((hub.settleLocal source target.sessionID inbox
          ⟨routeID, state.peerID, payload⟩ delivery).returns
            (.enqueued state.ref destination.ref ⟨routeID, state.peerID, payload⟩))
  | forwarding {state : SessionState} {target : RouteEndpoint} {forwarder : ForwarderRef}
      (hadmits : hub.Admits source routeID payload now delivery state target)
      (hremote : target.sessionID = "") (hforwarder : target.forwarder = some forwarder) :
      ForwardLocked hub source routeID payload now delivery
        ({ hub with
          sessions := hub.sessions.insert source (state.charge payload.length) }.returns
          (.forwarding
            ⟨source, state.ref, routeID, forwarder, payload, state.peerID, delivery⟩))

theorem forwardLocked_spec (hub : Hub) (ctxErr : Option Err) (source : SessionID)
    (routeID : RouteID) (payload : Bytes) (now : Time) (delivery : Option Delivery) :
    ForwardLocked hub source routeID payload now delivery
      (hub.forwardLocked ctxErr source routeID payload now delivery) := by
  cases ctxErr with
  | some err => exact .refused err
  | none =>
    unfold forwardLocked
    simp only
    split
    · exact .refused _
    · rename_i hopened
      split
      · exact .refused _
      · rename_i state hsource
        split
        · exact .refused _
        · rename_i hattached
          split
          · exact .refused _
          · rename_i route hroute
            split
            · exact .refused _
            · rename_i target hpeer
              split
              · rename_i hdead
                exact .dead hroute (by simpa using hdead) hsource hpeer
              · rename_i hlive
                have hlive : hub.routeLiveLocked route now = true := by simpa using hlive
                split
                · exact .refused _
                · rename_i hreplay
                  split
                  · exact .refused _
                  · rename_i hquota
                    have hadmits : hub.Admits source routeID payload now delivery state target :=
                      ⟨Bool.eq_false_iff.mpr hopened, hsource, Bool.eq_false_iff.mpr hattached,
                        ⟨route, hroute, hpeer, hlive⟩, hreplay, Bool.eq_false_iff.mpr hquota⟩
                    split
                    · rename_i hlocal
                      split
                      · rename_i hnone
                        exact .orphaned hroute hpeer hlocal fun d hd => by
                          rw [hnone] at hd
                          cases hd
                      · rename_i destination hdestination
                        split
                        · rename_i hclosed
                          exact .orphaned hroute hpeer hlocal fun d hd => by
                            rw [hdestination] at hd
                            cases hd
                            exact hclosed
                        · split
                          · rename_i inbox hpush
                            exact .enqueued hadmits hdestination hpush
                          · exact .full
                    · rename_i hremote
                      split
                      · exact .refused _
                      · rename_i forwarder hforwarder
                        exact .forwarding hadmits (not_not.mp hremote) hforwarder

section Admits

variable {hub : Hub} {source : SessionID} {routeID : RouteID} {payload : Bytes}
  {now : Time} {delivery : Option Delivery} {state : SessionState} {target : RouteEndpoint}

theorem Admits.enqueued (h : hub.Admits source routeID payload now delivery state target)
    (hlocal : target.sessionID ≠ "") {destination : SessionState}
    (hdestination : hub.sessions.get? target.sessionID = some destination)
    (hopen : hub.isClosed destination.ref = false) {inbox : BoundedQueue Frame}
    (hpush : destination.inbox.push? ⟨routeID, state.peerID, payload⟩ = some inbox) :
    hub.forwardLocked none source routeID payload now delivery =
      (hub.settleLocal source target.sessionID inbox ⟨routeID, state.peerID, payload⟩
        delivery).returns (.enqueued state.ref destination.ref
          ⟨routeID, state.peerID, payload⟩) := by
  obtain ⟨route, hroute, hpeer, hlive⟩ := h.route
  simp [forwardLocked, h.opened, h.session, h.attached, hroute, hpeer, hlive, h.fresh, h.quota,
    hlocal, hdestination, hopen, hpush]

theorem Admits.full (h : hub.Admits source routeID payload now delivery state target)
    (hlocal : target.sessionID ≠ "") {destination : SessionState}
    (hdestination : hub.sessions.get? target.sessionID = some destination)
    (hopen : hub.isClosed destination.ref = false)
    (hpush : destination.inbox.push? ⟨routeID, state.peerID, payload⟩ = none) :
    hub.forwardLocked none source routeID payload now delivery =
      hub.countDropped.returns (.failed .backpressure) := by
  obtain ⟨route, hroute, hpeer, hlive⟩ := h.route
  simp [forwardLocked, h.opened, h.session, h.attached, hroute, hpeer, hlive, h.fresh, h.quota,
    hlocal, hdestination, hopen, hpush]

theorem Admits.forwarding (h : hub.Admits source routeID payload now delivery state target)
    (hremote : target.sessionID = "") {forwarder : ForwarderRef}
    (hforwarder : target.forwarder = some forwarder) :
    hub.forwardLocked none source routeID payload now delivery =
      { hub with
        sessions := hub.sessions.insert source (state.charge payload.length) }.returns
        (.forwarding
          ⟨source, state.ref, routeID, forwarder, payload, state.peerID, delivery⟩) := by
  obtain ⟨route, hroute, hpeer, hlive⟩ := h.route
  simp [forwardLocked, h.opened, h.session, h.attached, hroute, hpeer, hlive, h.fresh, h.quota,
    hremote, hforwarder]

theorem not_admits_of_replayed {replayErr : Err} {state' : SessionState}
    (hsource : hub.sessions.get? source = some state)
    (hreplayed : state.replayed delivery = some replayErr) (target : RouteEndpoint) :
    ¬hub.Admits source routeID payload now delivery state' target := by
  intro h
  have hsame := h.session
  rw [hsource] at hsame
  cases hsame
  have hfresh := h.fresh
  rw [hreplayed] at hfresh
  cases hfresh

end Admits

/-- A send whose key is remembered fails, and with the error of the replay check if
nothing before that check stops it. -/
theorem forwardLocked_replayed {hub : Hub} {source : SessionID} {state : SessionState}
    {delivery : Option Delivery} {replayErr : Err}
    (hsource : hub.sessions.get? source = some state)
    (hreplayed : state.replayed delivery = some replayErr) (ctxErr : Option Err)
    (routeID : RouteID) (payload : Bytes) (now : Time) :
    ∃ err, (hub.forwardLocked ctxErr source routeID payload now delivery).value =
        .failed err ∧
      (ctxErr = none → hub.closed = false → hub.isClosed state.ref = false →
        ∀ route target, hub.routes.get? routeID = some route →
          route.peer source = some target → hub.routeLiveLocked route now = true →
          err = replayErr) := by
  have hspec := forwardLocked_spec hub ctxErr source routeID payload now delivery
  have hreport : ctxErr = none → hub.closed = false → hub.isClosed state.ref = false →
      ∀ route target, hub.routes.get? routeID = some route →
        route.peer source = some target → hub.routeLiveLocked route now = true →
        (hub.forwardLocked ctxErr source routeID payload now delivery).value =
          .failed replayErr := by
    rintro rfl hopen hsession route target hroute hpeer hlive
    simp [forwardLocked, hopen, hsource, hsession, hroute, hpeer, hlive, hreplayed, returns]
  generalize hub.forwardLocked ctxErr source routeID payload now delivery = o
    at hspec hreport ⊢
  -- Whichever way the send fails, a send that reaches the check fails with its error.
  have hfailed : ∀ err, o.value = .failed err → ∃ err, o.value = .failed err ∧
      (ctxErr = none → hub.closed = false → hub.isClosed state.ref = false →
        ∀ route target, hub.routes.get? routeID = some route →
          route.peer source = some target → hub.routeLiveLocked route now = true →
          err = replayErr) := by
    intro err hvalue
    refine ⟨err, hvalue, ?_⟩
    intro hctx hopen hsession route target hroute hpeer hlive
    have hsame := hreport hctx hopen hsession route target hroute hpeer hlive
    rw [hvalue] at hsame
    exact ForwardStep.failed.inj hsame
  cases hspec with
  | refused err => exact hfailed err rfl
  | dead => exact hfailed _ rfl
  | orphaned => exact hfailed _ rfl
  | full => exact hfailed _ rfl
  | enqueued hadmits => exact absurd hadmits (not_admits_of_replayed hsource hreplayed _)
  | forwarding hadmits => exact absurd hadmits (not_admits_of_replayed hsource hreplayed _)

inductive DeliverFromFederated (hub : Hub) (routeID : RouteID) (payload : Bytes)
    (senderPeerID : PeerID) : Outcome DeliverStep → Prop
  | refused (err : Err) :
      DeliverFromFederated hub routeID payload senderPeerID (hub.returns (.failed err))
  | orphaned {route : RouteState} {target : SessionID}
      (hroute : hub.routes.get? routeID = some route)
      (hlocal : route.localPeerOfFederated = some target)
      (hgone : ∀ destination, hub.sessions.get? target = some destination →
        hub.isClosed destination.ref = true) :
      DeliverFromFederated hub routeID payload senderPeerID
        ⟨{ hub with routes := hub.routes.erase routeID }, route.federatedForwarders,
          .failed .sessionClosed⟩
  | full : DeliverFromFederated hub routeID payload senderPeerID
      (hub.countDropped.returns (.failed .backpressure))
  | enqueued {route : RouteState} {target : SessionID} {destination : SessionState}
      {inbox : BoundedQueue Frame}
      (hroute : hub.routes.get? routeID = some route)
      (hlocal : route.localPeerOfFederated = some target)
      (hdestination : hub.sessions.get? target = some destination)
      (hpush : destination.inbox.push? ⟨routeID, senderPeerID, payload⟩ = some inbox) :
      DeliverFromFederated hub routeID payload senderPeerID
        (({ hub with
          sessions :=
            hub.sessions.insert target
              { destination with inbox := inbox } }.countForwarded payload.length).returns
          (.enqueued destination.ref ⟨routeID, senderPeerID, payload⟩))

theorem deliverFromFederated_spec (hub : Hub) (ctxErr : Option Err) (routeID : RouteID)
    (payload : Bytes) (senderPeerID : PeerID) :
    DeliverFromFederated hub routeID payload senderPeerID
      (hub.deliverFromFederated ctxErr routeID payload senderPeerID) := by
  cases ctxErr with
  | some err => exact .refused err
  | none =>
    unfold deliverFromFederated
    simp only
    split
    · exact .refused _
    · split
      · exact .refused _
      · split
        · exact .refused _
        · rename_i route hroute
          split
          · exact .refused _
          · rename_i target hlocal
            split
            · rename_i hnone
              exact .orphaned hroute hlocal fun d hd => by
                rw [hnone] at hd
                cases hd
            · rename_i destination hdestination
              split
              · rename_i hclosed
                exact .orphaned hroute hlocal fun d hd => by
                  rw [hdestination] at hd
                  cases hd
                  exact hclosed
              · split
                · rename_i inbox hpush
                  exact .enqueued hroute hlocal hdestination hpush
                · exact .full

theorem takeFrame_eq_some {hub hub' : Hub} {id : SessionID} {ref : SessionRef}
    {frame : Frame} (h : hub.takeFrame id ref = some (frame, hub')) :
    ∃ state inbox, hub.sessions.get? id = some state ∧ state.ref = ref ∧
      inbox.capacity = state.inbox.capacity ∧ state.inbox.items = frame :: inbox.items ∧
      hub' = { hub with sessions := hub.sessions.insert id { state with inbox := inbox } } := by
  unfold takeFrame at h
  split at h
  · cases h
  · rename_i state hstate
    split at h
    · cases h
    · rename_i href
      split at h
      · cases h
      · rename_i frame' inbox hpop
        cases h
        rcases BoundedQueue.pop?_eq_some hpop with ⟨hcapacity, hitems⟩
        exact ⟨state, inbox, hstate, not_not.mp href, hcapacity, hitems, rfl⟩

end Hub

end Branch.Relay
