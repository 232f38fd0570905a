import Branch.Relay.System
import Branch.Wss.FederationBridge

/-!
When the read loop of a bridge outlives what it reads.
-/

namespace Branch.Wss

open Branch.Lib
open Branch.Relay (Bytes ForwarderRef Hub PeerID RouteID)

section Hub

variable (hub : Hub) (routeID : RouteID) (payload : Bytes)

/-- A frame from the other relay has a live local session that it can go to, with room in its
inbox. -/
def HasRoom : Prop :=
  ¬ hub.config.maxFrameBytes < payload.length ∧ hub.closed = false ∧
    ∃ route target destination, hub.routes.get? routeID = some route ∧
      route.localPeerOfFederated = some target ∧ hub.sessions.get? target = some destination ∧
      hub.isClosed destination.ref = false ∧
      destination.inbox.items.length < destination.inbox.capacity

/-- The local session of the route is gone, so that the hub gives up the route together with
this forwarder. -/
def GivesUpRoute (forwarder : ForwarderRef) : Prop :=
  ¬ hub.config.maxFrameBytes < payload.length ∧ hub.closed = false ∧
    ∃ route target, hub.routes.get? routeID = some route ∧
      route.localPeerOfFederated = some target ∧
      (∀ destination, hub.sessions.get? target = some destination →
        hub.isClosed destination.ref = true) ∧
      forwarder ∈ route.federatedForwarders

variable {hub routeID payload}

theorem hasRoom_iff (senderPeerID : PeerID) :
    HasRoom hub routeID payload ↔
      ∃ destination frame, (hub.deliverFromFederated none routeID payload senderPeerID).value =
        .enqueued destination frame := by
  constructor
  · rintro ⟨hsize, hopen, route, target, destination, hroute, htarget, hsession, hlive, hroom⟩
    obtain ⟨inbox, hpush⟩ := Option.isSome_iff_exists.mp
      (BoundedQueue.push?_isSome_iff (a := ⟨routeID, senderPeerID, payload⟩) |>.mpr hroom)
    refine ⟨destination.ref, ⟨routeID, senderPeerID, payload⟩, ?_⟩
    simp [Hub.deliverFromFederated, hsize, hopen, hroute, htarget, hsession, hlive, hpush,
      Hub.returns]
  · rintro ⟨ref, frame, h⟩
    unfold Hub.deliverFromFederated at h
    simp only at h
    split at h
    · cases h
    rename_i hsize
    split at h
    · cases h
    rename_i hopen
    split at h
    · cases h
    rename_i route hroute
    split at h
    · cases h
    rename_i target htarget
    split at h
    · cases h
    rename_i destination hsession
    split at h
    · cases h
    rename_i hlive
    split at h
    · rename_i inbox hpush
      refine ⟨hsize, by simpa using hopen, route, target, destination, hroute, htarget, hsession,
        by simpa using hlive, ?_⟩
      exact BoundedQueue.push?_isSome_iff.mp (Option.isSome_iff_exists.mpr ⟨inbox, hpush⟩)
    · cases h

theorem givesUpRoute_iff (senderPeerID : PeerID) {forwarder : ForwarderRef} :
    GivesUpRoute hub routeID payload forwarder ↔
      forwarder ∈ (hub.deliverFromFederated none routeID payload senderPeerID).closers := by
  constructor
  · rintro ⟨hsize, hopen, route, target, hroute, htarget, hgone, hmem⟩
    cases hsession : hub.sessions.get? target with
    | none => simpa [Hub.deliverFromFederated, hsize, hopen, hroute, htarget, hsession] using hmem
    | some destination =>
      have hclosed := hgone destination hsession
      simpa [Hub.deliverFromFederated, hsize, hopen, hroute, htarget, hsession, hclosed]
        using hmem
  · intro h
    unfold Hub.deliverFromFederated at h
    simp only at h
    split at h
    · cases h
    rename_i hsize
    split at h
    · cases h
    rename_i hopen
    rw [Bool.not_eq_true] at hopen
    split at h
    · cases h
    rename_i route hroute
    split at h
    · cases h
    rename_i target htarget
    refine ⟨hsize, hopen, route, target, hroute, htarget, ?_⟩
    split at h
    · rename_i hsession
      refine ⟨fun destination hdestination => ?_, h⟩
      rw [hsession] at hdestination
      cases hdestination
    rename_i destination hsession
    split at h
    · rename_i hclosed
      refine ⟨fun destination' hdestination => ?_, h⟩
      obtain rfl := Option.some.inj (hsession.symm.trans hdestination)
      exact hclosed
    split at h
    · cases h
    · cases h

end Hub

namespace BridgeClient

variable {config : BridgeConfig} {hub : Hub} {client : BridgeClient} {raw : Bytes}

/-- The client can do with a frame what the frame asks for: a response finds room, an envelope
finds room in an inbox of the hub or makes the hub close this bridge. -/
def Takes (config : BridgeConfig) (hub : Hub) (client : BridgeClient) (raw : Bytes) : Prop :=
  ∃ frame, decodeTypedFrame raw = .ok frame ∧
    ((frameType frame = some .ack ∨ frameType frame = some .error) ∧
        client.responses.items.length < client.responses.capacity ∨
      frameType frame = some .envelope ∧
        (HasRoom hub client.routeID raw ∨
          GivesUpRoute hub client.routeID raw config.forwarder))

theorem loop_handOn (hreading : client.loop = .reading) (response : BridgeResponse) :
    (client.handOn response).loop ≠ .ended ↔
      client.responses.items.length < client.responses.capacity := by
  rw [← BoundedQueue.push?_isSome_iff (a := response), handOn]
  cases client.responses.push? response with
  | none => simp
  | some responses => simp [hreading]

theorem loop_deliver (hreading : client.loop = .reading) :
    (client.deliver config hub raw).loop ≠ .ended ↔
      HasRoom hub client.routeID raw ∨ GivesUpRoute hub client.routeID raw config.forwarder := by
  rw [hasRoom_iff (senderPeerIDFromFrame raw),
    givesUpRoute_iff (senderPeerIDFromFrame raw), deliver]
  cases hvalue : (hub.deliverFromFederated none client.routeID raw
      (senderPeerIDFromFrame raw)).value with
  | enqueued destination frame => simp [hreading]
  | failed err =>
    simp only [reduceCtorEq, exists_false, false_or]
    split
    · rename_i hmem
      exact iff_of_true (by decide) hmem
    · rename_i hmem
      exact iff_of_false (by decide) hmem

/-- The loop goes on behind a frame, or is about to close the forwarder, if and only if the
client takes the frame. -/
theorem loop_take (hreading : client.loop = .reading) (answers : Option Nat) :
    (client.take config hub answers raw).loop ≠ .ended ↔ client.Takes config hub raw := by
  unfold take Takes
  cases hdecode : decodeTypedFrame raw with
  | error err => simp
  | ok frame =>
    simp only [Except.ok.injEq, exists_eq_left']
    cases htype : frameType frame with
    | none => simp
    | some t =>
      cases t with
      | ack => simpa using loop_handOn hreading _
      | error => simpa using loop_handOn hreading _
      | envelope => simpa using loop_deliver hreading
      | _ => simp

end BridgeClient

namespace Bridge

variable {config : BridgeConfig} {s : Bridge}

def Serving (s : Bridge) : Prop := s.closed = false → ∀ client ∈ s.client, client.loop ≠ .ended

/-- While the forwarder is open, its client reads without an error and takes what it reads. -/
def KeepsReading (config : BridgeConfig) (s : Bridge) : BridgeEvent → Prop
  | .read hub => s.closed = false → ∀ client ∈ s.client, client.loop = .reading →
      ∀ entry ∈ s.inbound.head?, client.Takes config hub entry.2
  | .readFails => s.closed = false → ∀ client ∈ s.client, client.loop ≠ .reading
  | _ => True

theorem serving_fails : s.fails.Serving := fun h => absurd h (by simp [fails, closeLocked])

theorem serving_closeLocked : s.closeLocked.Serving := fun h => absurd h (by simp [closeLocked])

theorem Serving.of_eq {s' : Bridge} (h : s.Serving) (hclosed : s'.closed = s.closed)
    (hclient : s'.client = s.client) : s'.Serving := by
  unfold Serving
  rw [hclosed, hclient]
  exact h

theorem Serving.startForward (h : s.Serving) (routeID : RouteID) (envelope : EnvelopeText)
    (senderPeerID : PeerID) : (s.startForward routeID envelope senderPeerID).Serving := by
  unfold Bridge.startForward
  split
  · exact h
  split
  · exact h.of_eq rfl rfl
  split
  · exact serving_closeLocked
  · exact h.of_eq rfl rfl

theorem Serving.dialed (h : s.Serving) (call : ForwardCall) (attached : Bool) :
    (s.dialed call attached).Serving := by
  unfold Bridge.dialed
  split
  · split
    · exact h.of_eq rfl rfl
    · exact serving_fails
  · exact h

theorem Serving.wrote (h : s.Serving) (call : ForwardCall) (number : Nat) :
    (s.wrote config call number).Serving := by
  unfold Bridge.wrote
  split
  · exact h.of_eq rfl rfl
  · rintro _ client hclient
    obtain rfl := Option.some.inj hclient
    exact ReadLoop.noConfusion
  · exact h.of_eq rfl rfl
  · exact h

theorem Serving.write (h : s.Serving) (call : ForwardCall) (result : WriteResult) :
    (s.write config call result).Serving := by
  unfold Bridge.write
  split
  · exact h
  · rename_i frame _
    split
    · exact serving_fails
    · have hput : (s.put frame).Serving := h.of_eq rfl rfl
      exact hput.wrote call s.written

theorem Serving.readLookupAck (h : s.Serving) (call : ForwardCall) :
    (s.readLookupAck call).Serving := by
  unfold Bridge.readLookupAck
  split
  · split
    · exact serving_fails
    · split
      · exact h.of_eq rfl rfl
      · exact serving_fails
  · exact h

theorem Serving.respond {client : BridgeClient} (h : s.Serving) (hclient : s.client = some client)
    (call : ForwardCall) : (s.respond call client).Serving := by
  unfold Bridge.respond
  split
  · split
    · exact h
    · split
      · rintro hopen client' hclient'
        obtain rfl := Option.some.inj hclient'
        exact h hopen client hclient
      · exact serving_fails
  · exact h

theorem Serving.read_iff {client : BridgeClient} {hub : Hub} (h : s.Serving)
    (hclient : s.client = some client) :
    (s.read config client hub).Serving ↔ KeepsReading config s (.read hub) := by
  have hkeeps : KeepsReading config s (.read hub) ↔ (s.closed = false →
      client.loop = .reading → ∀ entry ∈ s.inbound.head?, client.Takes config hub entry.2) := by
    simp [KeepsReading, hclient]
  rw [hkeeps]
  unfold Bridge.read
  split
  · rename_i answers raw inbound hloop hinbound
    simp [Serving, hloop, hinbound, ← BridgeClient.loop_take hloop answers]
  · rename_i hother
    refine iff_of_true h fun _ hloop entry hentry => ?_
    cases hinbound : s.inbound with
    | nil =>
      rw [hinbound] at hentry
      cases hentry
    | cons entry' inbound => exact absurd hinbound (hother entry'.1 entry'.2 inbound hloop)

theorem Serving.readFails_iff {client : BridgeClient} (h : s.Serving)
    (hclient : s.client = some client) :
    (s.readFails client).Serving ↔ KeepsReading config s .readFails := by
  have hkeeps : KeepsReading config s .readFails ↔ (s.closed = false →
      client.loop ≠ .reading) := by
    simp [KeepsReading, hclient]
  rw [hkeeps]
  unfold Bridge.readFails
  split
  · rename_i hloop
    simp [Serving, hloop]
  · rename_i hloop
    exact iff_of_true h fun _ => hloop

theorem Serving.remoteRead (h : s.Serving) {hub : Hub} {now : Relay.Time}
    {onward : Option Relay.Err} {env : Environment} :
    (s.remoteRead config hub now onward env).Serving := by
  unfold Bridge.remoteRead
  split
  · exact h
  · split
    · exact h.of_eq rfl rfl
    · exact h.of_eq rfl rfl

theorem Serving.remotePush (h : s.Serving) (envelope : EnvelopeText) (senderPeerID : PeerID) :
    (s.remotePush envelope senderPeerID).Serving := by
  unfold Bridge.remotePush
  split
  · exact h.of_eq rfl rfl
  · split
    · exact h.of_eq rfl rfl
    · exact h

/-- A step leaves an open forwarder with a read loop if and only if it keeps the loop reading. -/
theorem Serving.step_iff (h : s.Serving) (e : BridgeEvent) :
    (s.step config e).Serving ↔ KeepsReading config s e := by
  cases e with
  | read hub =>
    simp only [Bridge.step]
    cases hclient : s.client with
    | none => exact iff_of_true h fun _ client hmem => absurd (hclient.symm.trans hmem) nofun
    | some client => exact h.read_iff hclient
  | readFails =>
    simp only [Bridge.step]
    cases hclient : s.client with
    | none => exact iff_of_true h fun _ client hmem => absurd (hclient.symm.trans hmem) nofun
    | some client => exact h.readFails_iff hclient
  | forward routeID envelope senderPeerID =>
    refine iff_of_true ?_ trivial
    simp only [Bridge.step]
    split
    · exact h.startForward routeID envelope senderPeerID
    · exact h
  | dialed attached =>
    refine iff_of_true ?_ trivial
    simp only [Bridge.step]
    split
    · exact h
    · exact h.dialed _ attached
  | write result =>
    refine iff_of_true ?_ trivial
    simp only [Bridge.step]
    split
    · exact h
    · exact h.write _ result
  | readLookupAck =>
    refine iff_of_true ?_ trivial
    simp only [Bridge.step]
    split
    · exact h
    · exact h.readLookupAck _
  | respond =>
    refine iff_of_true ?_ trivial
    simp only [Bridge.step]
    split
    · rename_i call client _ hclient
      exact h.respond hclient call
    · exact h
  | giveUp =>
    refine iff_of_true ?_ trivial
    simp only [Bridge.step]
    split
    · exact h
    · exact serving_fails
  | close =>
    refine iff_of_true ?_ trivial
    simp only [Bridge.step]
    split
    · exact serving_closeLocked
    · exact h
  | loopCloses =>
    refine iff_of_true ?_ trivial
    simp only [Bridge.step]
    split
    · split
      · exact serving_closeLocked
      · exact h
    · exact h
  | remoteRead hub now onward env => exact iff_of_true h.remoteRead trivial
  | remotePush envelope senderPeerID =>
    exact iff_of_true (h.remotePush envelope senderPeerID) trivial
  | remoteCloses =>
    have hsame : ({ s with remoteOpen := false } : Bridge).Serving := h.of_eq rfl rfl
    exact iff_of_true hsame trivial

/-- In every state of a run an open forwarder with a client has a read loop, if and only if the
loop reads without an error, and takes what it reads, while the forwarder is open. -/
theorem serving_iff (config : BridgeConfig) (events : List BridgeEvent) :
    (∀ past, past <+: events → (run config past).Serving) ↔
      Trace.Meets (Bridge.step config) (KeepsReading config) {} events := by
  have hstart : ({} : Bridge).Serving := fun _ client hclient => absurd hclient nofun
  refine (Trace.forall_prefix_iff_meets hstart events).trans ?_
  exact Trace.meets_congr_of_meets (fun s e h hkeeps => (h.step_iff e).mpr hkeeps)
    (fun s e h => h.step_iff e) hstart events

end Bridge

section FullInbox

/-- Alice has a route to a peer of the other relay, and her inbox of one frame is full. -/
def fullHub : Hub :=
  let hub := Hub.start ⟨{ Relay.defaultConfig with maxQueueDepth := 1 }, by decide⟩
  let hub := (hub.attach "alice").hub
  let hub := (hub.announceFederatedPresence SequenceLog.zeroID (some 0) 0).hub
  let hub := (hub.rendezvous "alice" SubmittedEnvelope.oldRoute SequenceLog.zeroID 0).hub
  (hub.deliverFromFederated none SubmittedEnvelope.oldRoute [] SequenceLog.zeroID).hub

/-- The other relay sends an envelope while the inbox that it goes to is full. -/
def refusedReverse : List BridgeEvent :=
  [.forward SubmittedEnvelope.oldRoute sampleEnvelope SequenceLog.zeroID, .dialed true,
    .write .sent, .write .sent, .write .sent, .remotePush sampleEnvelope SequenceLog.zeroID,
    .read fullHub]

/-- The forwarder stays open with a client that reads nothing any more. -/
theorem not_serving_refusedReverse : ¬ ∀ (config : BridgeConfig) (events : List BridgeEvent),
    ∀ past, past <+: events → (Bridge.run config past).Serving := by
  intro h
  have hserving := h sampleBridge refusedReverse refusedReverse List.prefix_rfl
  have hended : (Bridge.run sampleBridge refusedReverse).client.map BridgeClient.loop =
      some .ended := by decide +kernel
  have hopen : (Bridge.run sampleBridge refusedReverse).closed = false := by decide +kernel
  obtain ⟨client, hclient, hloop⟩ := Option.map_eq_some_iff.mp hended
  exact hserving hopen client hclient hloop

end FullInbox

end Branch.Wss
