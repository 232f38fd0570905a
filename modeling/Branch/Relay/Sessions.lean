import Branch.Lib.ListModify
import Branch.Relay.Invariant

/-!
What one step does to the session objects, and the invariant that ties them to
the calls in progress.
-/

namespace Branch.Relay

open Branch.Lib
open Branch.Wss

namespace Hub

variable {announced : SessionID → PeerID → Prop}

/-- No session object is new, and the ones that stay have at most another peer id, one that was
announced. -/
structure SessionsKept (announced : SessionID → PeerID → Prop) (hub hub' : Hub) : Prop where
  config : hub'.config = hub.config
  refs : hub'.refs = hub.refs
  done : ∀ ref ∈ hub.done, ref ∈ hub'.done
  kept : ∀ id s', hub'.sessions.get? id = some s' →
    ∃ s, hub.sessions.get? id = some s ∧ s' = { s with peerID := s'.peerID } ∧
      (s'.peerID = s.peerID ∨ announced id s'.peerID)
  gone : ∀ id s, hub.sessions.get? id = some s →
    (hub'.sessions.get? id).isSome ∨ hub'.isClosed s.ref = true

theorem SessionsKept.of_eq {hub hub' : Hub} (hconfig : hub'.config = hub.config)
    (hrefs : hub'.refs = hub.refs) (hdone : hub'.done = hub.done)
    (hsessions : hub'.sessions = hub.sessions) : SessionsKept announced hub hub' where
  config := hconfig
  refs := hrefs
  done := by
    intro ref h
    rw [hdone]
    exact h
  kept := by
    intro id s' h
    rw [hsessions] at h
    exact ⟨s', h, rfl, .inl rfl⟩
  gone := by
    intro id s h
    rw [hsessions, h]
    exact .inl rfl

theorem SessionsKept.refl (hub : Hub) : SessionsKept announced hub hub :=
  .of_eq rfl rfl rfl rfl

theorem pair_kept (hub : Hub) (routeID : RouteID) (left right : SessionID) :
    SessionsKept announced hub (hub.pair routeID left right).hub := by
  unfold pair
  repeat' split
  all_goals exact .of_eq rfl rfl rfl rfl

theorem announceFederatedPresence_kept (hub : Hub) (peerID : PeerID)
    (forwarder : Option ForwarderRef) (now : Time) :
    SessionsKept announced hub (hub.announceFederatedPresence peerID forwarder now).hub := by
  unfold announceFederatedPresence
  repeat' split
  all_goals exact .of_eq rfl rfl rfl rfl

theorem announcePresence_kept (hub : Hub) {id : SessionID} {peerID : PeerID}
    (hannounced : announced id peerID) (now : Time) :
    SessionsKept announced hub (hub.announcePresence id peerID now).hub := by
  unfold announcePresence
  split
  · exact .refl hub
  · split
    · exact .refl hub
    · split
      · exact .refl hub
      · rename_i state hstate
        split
        · exact .refl hub
        · refine ⟨rfl, rfl, fun _ h => h, ?_, ?_⟩
          · intro id' s' h
            simp only [Table.get?_insert] at h
            split at h
            · rename_i hid
              cases h
              exact ⟨state, hid ▸ hstate, rfl, .inr (hid ▸ hannounced)⟩
            · exact ⟨s', h, rfl, .inl rfl⟩
          · intro id' s h
            left
            simp only [Table.get?_insert]
            split
            · rfl
            · rw [h]
              rfl

theorem heartbeat_kept (hub : Hub) (id : SessionID) (now : Time) :
    SessionsKept announced hub (hub.heartbeat id now).hub := by
  unfold heartbeat
  repeat' split
  all_goals exact .of_eq rfl rfl rfl rfl

theorem lookupLocalLocked_kept (hub : Hub) (peerID : PeerID) (now : Time) :
    SessionsKept announced hub (hub.lookupLocalLocked peerID now).1 := by
  unfold lookupLocalLocked
  simp only
  repeat' split
  all_goals exact .of_eq rfl rfl rfl rfl

theorem lookupLocked_kept (hub : Hub) (peerID : PeerID) (now : Time) :
    SessionsKept announced hub (hub.lookupLocked peerID now).1 := by
  unfold lookupLocked
  split
  · rename_i h
    rw [(lookupLocalLocked_eq_some h).1]
    exact .refl hub
  · rename_i h
    rcases lookupLocalLocked_eq_none h with ⟨rfl, _⟩ | ⟨rfl, _⟩
    all_goals
      split
      · rename_i h'
        rcases lookupFederatedLocked_eq_none h' with ⟨rfl, _⟩ | ⟨rfl, _⟩
        all_goals exact .of_eq rfl rfl rfl rfl
      · rename_i h'
        rw [(lookupFederatedLocked_eq_some h').1]
        exact .of_eq rfl rfl rfl rfl

theorem rendezvous_kept (hub : Hub) (source : SessionID) (routeID : RouteID)
    (peerID : PeerID) (now : Time) :
    SessionsKept announced hub (hub.rendezvous source routeID peerID now).hub := by
  have hspec := rendezvous_spec hub source routeID peerID now
  generalize hub.rendezvous source routeID peerID now = o at hspec ⊢
  cases hspec with
  | refused err => exact .refl hub
  | repeated => exact .refl hub
  | missed _ _ _ _ hlocal hfederated =>
    rcases lookupLocalLocked_eq_none hlocal with ⟨rfl, _⟩ | ⟨rfl, _⟩
    all_goals
      rcases lookupFederatedLocked_eq_none hfederated with ⟨rfl, _⟩ | ⟨rfl, _⟩
      all_goals exact .of_eq rfl rfl rfl rfl
  | boundLocal => exact .of_eq rfl rfl rfl rfl
  | boundFederated _ _ _ _ hlocal =>
    rcases lookupLocalLocked_eq_none hlocal with ⟨rfl, _⟩ | ⟨rfl, _⟩
    all_goals exact .of_eq rfl rfl rfl rfl

theorem sweepExpired_kept (hub : Hub) (now : Time) :
    SessionsKept announced hub (hub.sweepExpired now).hub :=
  .of_eq rfl rfl rfl rfl

theorem detach_kept (hub : Hub) (id : SessionID) :
    SessionsKept announced hub (hub.detach id).hub := by
  unfold detach
  split
  · exact .refl hub
  · rename_i state hstate
    refine ⟨rfl, rfl, fun ref h => List.mem_cons_of_mem _ h, ?_, ?_⟩
    · intro id' s' h
      exact ⟨s', (Table.get?_eq_some_of_get?_erase h).2, rfl, .inl rfl⟩
    · intro id' s h
      by_cases hid : id' = id
      · rw [hid, hstate] at h
        cases h
        right
        simp [isClosed]
      · left
        simp only
        rw [Table.get?_erase_of_ne _ hid, h]
        rfl

theorem close_kept (hub : Hub) : SessionsKept announced hub hub.close.hub := by
  unfold close
  split
  · exact .refl hub
  · refine ⟨rfl, rfl, fun ref h => List.mem_append_right _ h, ?_, ?_⟩
    · intro id s' h
      simp at h
    · intro id s h
      right
      apply List.contains_iff_mem.mpr
      apply List.mem_append_left
      exact List.mem_map.mpr ⟨(id, s), Table.mem_toList_iff.mpr h, rfl⟩

end Hub

/-- The event announces this peer id for this session. -/
def Event.Announces : Event → SessionID → PeerID → Prop
  | .announcePresence id peerID _ => fun id' peerID' => id' = id ∧ peerID' = peerID
  | _ => fun _ _ => False

namespace System

/-- The receive calls stay on their handles, and new ones are on known handles. -/
def ReceivesKept (w w' : System) : Prop :=
  ∀ (call : Nat) c', w'.receives[call]? = some c' →
    (∃ c, w.receives[call]? = some c ∧ c'.handle = c.handle ∧
      c'.sessionID = c.sessionID) ∨
    w.handles[c'.handle]? = some c'.sessionID

variable {w w' : System}

theorem ReceivesKept.of_eq (h : w'.receives = w.receives) :
    ReceivesKept w w' := by
  intro call c' hc'
  rw [h] at hc'
  exact .inl ⟨c', hc', rfl, rfl⟩

theorem setReceive_kept (w : System) (call : Nat) (stage : ReceiveStage) :
    ReceivesKept w (w.setReceive call stage) := by
  intro call' c' hc'
  obtain ⟨c, hc, hcase⟩ := of_getElem?_modify hc'
  rcases hcase with ⟨_, rfl⟩ | ⟨_, rfl⟩
  · exact .inl ⟨c, hc, rfl, rfl⟩
  · exact .inl ⟨_, hc, rfl, rfl⟩

inductive SendsKept (w w' : System) : Prop
  | same (hsends : w'.sends = w.sends)
  | entered {c : SendCall} (hsends : w'.sends = w.sends ++ [c])
      (hcharged : c.stage.chargedTo = none)
      (hsize : c.stage = .entered → (c.payload.length : Int) ≤ w.hub.config.maxFrameBytes)
  | restaged {call : Nat} {c : SendCall} {stage : SendStage}
      (hcall : w.sends[call]? = some c)
      (hcharged : stage.chargedTo = c.stage.chargedTo)
      (hticket : ∀ t, stage.ticket = some t → c.stage.ticket = some t)
      (hstage : stage ≠ .entered)
      (hsends : w'.sends = w.sends.modify call fun c => { c with stage := stage })

/-- Everything a step can do to the session objects, with what it does to the
handles, the send calls and the history at the same time. -/
inductive SessionsStep (w : System) (e : Event) : System → Prop
  | kept {w' : System} (hhub : Hub.SessionsKept e.Announces w.hub w'.hub)
      (hhandles : w'.handles = w.handles) (hhistory : w'.history = w.history)
      (hreceives : ReceivesKept w w')
      (hsends : SendsKept w w') :
      SessionsStep w e w'
  | attached (id : SessionID) (hfresh : w.hub.sessions.get? id = none) :
      SessionsStep w e
        { w with
          hub :=
            { w.hub with
              sessions := w.hub.sessions.insert id
                { ref := w.hub.refs
                  inbox := BoundedQueue.empty w.hub.config.maxQueueDepth.toNat
                  frames := 0
                  bytes := 0
                  peerID := ""
                  deliveries := newDeliveryWindow w.hub.config.maxReplayEntriesPerSession }
              refs := w.hub.refs + 1 }
          handles := w.handles ++ [id] }
  | sent {call : Nat} {c : SendCall} {state destination : SessionState}
      {target : RouteEndpoint} {inbox : BoundedQueue Frame}
      (hcall : w.sends[call]? = some c) (hstage : c.stage = .entered)
      (hadmits : w.hub.Admits c.source c.routeID c.payload c.now c.delivery state target)
      (hdestination : w.hub.sessions.get? target.sessionID = some destination)
      (hpush : destination.inbox.push? ⟨c.routeID, state.peerID, c.payload⟩ = some inbox)
      (hevent : e = .sendLocked call none) :
      SessionsStep w e
        (({ w with
          hub := w.hub.settleLocal c.source target.sessionID inbox
            ⟨c.routeID, state.peerID, c.payload⟩ c.delivery }.setSend call
              (.sent state.ref)).record
          (.enqueued destination.ref ⟨c.routeID, state.peerID, c.payload⟩ (.send call) ::
            deliveredEntry state.ref state.peerID c.delivery))
  | forwarding {call : Nat} {c : SendCall} {state : SessionState}
      {target : RouteEndpoint} {forwarder : ForwarderRef}
      (hcall : w.sends[call]? = some c) (hstage : c.stage = .entered)
      (hadmits : w.hub.Admits c.source c.routeID c.payload c.now c.delivery state target)
      (hremote : target.sessionID = "") (hforwarder : target.forwarder = some forwarder)
      (hevent : e = .sendLocked call none) :
      SessionsStep w e
        ({ w with
          hub :=
            { w.hub with
              sessions := w.hub.sessions.insert c.source
                (state.charge c.payload.length) } }.setSend call
          (.forwarding ⟨c.source, state.ref, c.routeID, forwarder, c.payload,
            state.peerID, c.delivery⟩ ((w.routeSerials.get? c.routeID).getD 0)))
  | completed {call : Nat} {c : SendCall} {pending : PendingForward} {serial : Nat}
      (hcall : w.sends[call]? = some c)
      (hstage : c.stage = .answered pending serial none)
      (hevent : e = .sendCompleted call) :
      SessionsStep w e
        (({ w with
          hub := (w.hub.rememberForwarded pending).countForwarded
            pending.payload.length }.setSend call (.sent pending.sourceRef)).record
          (deliveredEntry pending.sourceRef pending.senderPeerID pending.delivery))
  | rolledBack {w' : System} {call : Nat} {c : SendCall} {pending : PendingForward}
      {serial : Nat} {err : Err}
      (hcall : w.sends[call]? = some c)
      (hstage : c.stage = .answered pending serial (some err))
      (hsessions : w'.hub.sessions =
        (w.hub.rollbackUsageLocked pending.source pending.sourceRef
          pending.payload.length).sessions)
      (hconfig : w'.hub.config = w.hub.config) (hrefs : w'.hub.refs = w.hub.refs)
      (hdone : w'.hub.done = w.hub.done)
      (hhandles : w'.handles = w.handles) (hhistory : w'.history = w.history)
      (hreceives : w'.receives = w.receives)
      (hsends : w'.sends = w.sends.modify call fun c => { c with stage := .failed err })
      (hevent : e = .sendCompleted call) :
      SessionsStep w e w'
  | delivered {target : SessionID} {destination : SessionState}
      {inbox : BoundedQueue Frame} {frame : Frame}
      (hdestination : w.hub.sessions.get? target = some destination)
      (hpush : destination.inbox.push? frame = some inbox) :
      SessionsStep w e
        ({ w with
          hub :=
            { w.hub with
              sessions := w.hub.sessions.insert target
                { destination with inbox := inbox } }.countForwarded
              frame.payload.length }.record
          [.enqueued destination.ref frame .federated])
  | took {call : Nat} {c : ReceiveCall} {state : SessionState}
      {inbox : BoundedQueue Frame} {frame : Frame}
      (hcall : w.receives[call]? = some c) (hstage : c.stage = .waiting state.ref)
      (hstate : w.hub.sessions.get? c.sessionID = some state)
      (hitems : state.inbox.items = frame :: inbox.items)
      (hcapacity : inbox.capacity = state.inbox.capacity)
      (hevent : e = .receiveSelect call .inbox) :
      SessionsStep w e
        (({ w with
          hub :=
            { w.hub with
              sessions := w.hub.sessions.insert c.sessionID
                { state with inbox := inbox } } }.setReceive call (.took frame)).record
          [.taken c.handle call frame])

theorem SessionsStep.settled {e : Event}
    (hhub : Hub.SessionsKept e.Announces w.hub w'.hub)
    (hhandles : w'.handles = w.handles) (hhistory : w'.history = w.history)
    (hsends : w'.sends = w.sends) (hreceives : w'.receives = w.receives) :
    SessionsStep w e w' :=
  .kept hhub hhandles hhistory (.of_eq hreceives) (.same hsends)

theorem SessionsStep.received {w : System} {e : Event} {call : Nat} {stage : ReceiveStage}
    (hreceives : ReceivesKept w (w.setReceive call stage)) :
    SessionsStep w e (w.setReceive call stage) :=
  .kept (.refl _) rfl rfl hreceives (.same rfl)

theorem attach_sessions (w : System) (id : SessionID) :
    SessionsStep w (.attach id) (w.attach id) := by
  unfold attach Hub.attach
  split
  · exact .settled (.refl _) rfl rfl rfl rfl
  · split
    · exact .settled (.refl _) rfl rfl rfl rfl
    · split
      · exact .settled (.refl _) rfl rfl rfl rfl
      · rename_i hfree
        split
        · exact .settled (.refl _) rfl rfl rfl rfl
        · exact .attached id (Option.not_isSome_iff_eq_none.mp hfree)

theorem sendLocked_sessions (w : System) (call : Nat) (ctxErr : Option Err) :
    SessionsStep w (.sendLocked call ctxErr) (w.sendLocked call ctxErr) := by
  unfold sendLocked
  split
  · exact .settled (.refl _) rfl rfl rfl rfl
  · rename_i c hcall
    split
    · rename_i hstage
      -- A refused send only changes its own call.
      have hfailed : ∀ (o : Outcome ForwardStep) (err : Err),
          Hub.SessionsKept (Event.Announces (.sendLocked call ctxErr)) w.hub o.hub →
          SessionsStep w (.sendLocked call ctxErr)
            ((w.settle o).setSend call (.failed err)) := by
        intro o err hkept
        refine .kept hkept rfl rfl (.of_eq rfl)
          (.restaged (by exact hcall) ?_ ?_ ?_ (by rfl))
        · rw [hstage]
          rfl
        · intro p hp
          cases hp
        · intro h
          cases h
      cases ctxErr with
      | some err => exact hfailed _ err (.refl _)
      | none =>
        have hspec :=
          Hub.forwardLocked_spec w.hub none c.source c.routeID c.payload c.now c.delivery
        generalize w.hub.forwardLocked none c.source c.routeID c.payload c.now c.delivery =
          o at hspec ⊢
        cases hspec with
        | refused err => exact hfailed _ _ (.refl _)
        | dead => exact hfailed _ _ (.of_eq rfl rfl rfl rfl)
        | orphaned => exact hfailed _ _ (.of_eq rfl rfl rfl rfl)
        | full => exact hfailed _ _ (.of_eq rfl rfl rfl rfl)
        | enqueued hadmits hdestination hpush =>
          exact .sent hcall hstage hadmits hdestination hpush rfl
        | forwarding hadmits hremote hforwarder =>
          exact .forwarding hcall hstage hadmits hremote hforwarder rfl
    · exact .settled (.refl _) rfl rfl rfl rfl

theorem forwardReturns_sessions (w : System) (call : Nat) (reply : ForwardReply) :
    SessionsStep w (.forwardReturns call reply) (w.forwardReturns call reply) := by
  unfold forwardReturns
  split
  · exact .settled (.refl _) rfl rfl rfl rfl
  · rename_i c hcall
    split
    · rename_i pending serial hstage
      split
      · exact .settled (.refl _) rfl rfl rfl rfl
      · rename_i object hobject
        refine .kept (.refl _) rfl rfl (.of_eq rfl) (.restaged hcall ?_ ?_ ?_ (by rfl))
        · rw [hstage]
          rfl
        · intro p hp
          rw [hstage]
          exact hp
        · intro h
          cases h
    · exact .settled (.refl _) rfl rfl rfl rfl

theorem sendCompleted_sessions (w : System) (call : Nat) :
    SessionsStep w (.sendCompleted call) (w.sendCompleted call) := by
  unfold sendCompleted
  split
  · exact .settled (.refl _) rfl rfl rfl rfl
  · rename_i c hcall
    split
    · rename_i pending serial err hstage
      cases err with
      | none => exact .completed hcall hstage rfl
      | some err =>
        have hrolled : ∀ hub : Hub, (hub.rollbackUsageLocked pending.source
            pending.sourceRef pending.payload.length).config = hub.config ∧
            (hub.rollbackUsageLocked pending.source
              pending.sourceRef pending.payload.length).refs = hub.refs ∧
            (hub.rollbackUsageLocked pending.source
              pending.sourceRef pending.payload.length).done = hub.done := by
          intro hub
          unfold Hub.rollbackUsageLocked
          repeat' split
          all_goals exact ⟨rfl, rfl, rfl⟩
        rcases hrolled w.hub with ⟨hconfig, hrefs, hdone⟩
        simp only [Hub.forwardCompleted]
        split
        · split
          · exact .rolledBack hcall hstage rfl hconfig hrefs hdone rfl rfl rfl rfl rfl
          · exact .rolledBack hcall hstage rfl hconfig hrefs hdone rfl rfl rfl rfl rfl
        · exact .rolledBack hcall hstage rfl hconfig hrefs hdone rfl rfl rfl rfl rfl
    · exact .settled (.refl _) rfl rfl rfl rfl

theorem deliverFromFederated_sessions (w : System) (ctxErr : Option Err)
    (routeID : RouteID) (payload : Bytes) (senderPeerID : PeerID) :
    SessionsStep w (.deliverFromFederated ctxErr routeID payload senderPeerID)
      (w.deliverFromFederated ctxErr routeID payload senderPeerID) := by
  unfold deliverFromFederated
  have hspec := Hub.deliverFromFederated_spec w.hub ctxErr routeID payload senderPeerID
  generalize w.hub.deliverFromFederated ctxErr routeID payload senderPeerID = o at hspec ⊢
  cases hspec with
  | refused err => exact .settled (.refl _) rfl rfl rfl rfl
  | orphaned => exact .settled (.of_eq rfl rfl rfl rfl) rfl rfl rfl rfl
  | full => exact .settled (.of_eq rfl rfl rfl rfl) rfl rfl rfl rfl
  | enqueued _ _ hdestination hpush => exact .delivered hdestination hpush

theorem receiveSelect_sessions (w : System) (call : Nat) (arm : SelectArm) :
    SessionsStep w (.receiveSelect call arm) (w.receiveSelect call arm) := by
  unfold receiveSelect
  split
  · exact .settled (.refl _) rfl rfl rfl rfl
  · rename_i c hcall
    split
    · rename_i ref hstage
      split
      · exact .received (setReceive_kept w call _)
      · split
        · exact .received (setReceive_kept w call _)
        · exact .settled (.refl _) rfl rfl rfl rfl
      · split
        · exact .settled (.refl _) rfl rfl rfl rfl
        · rename_i frame hub htake
          rcases Hub.takeFrame_eq_some htake with
            ⟨state, inbox, hstate, rfl, hcapacity, hitems, rfl⟩
          exact .took hcall hstage hstate hitems hcapacity rfl
    · exact .settled (.refl _) rfl rfl rfl rfl

theorem length_le_of_entry {config : Config} {delivery : Option Delivery}
    {ctxErr : Option Err} {payload : Bytes}
    (h : sendEntryError config delivery ctxErr payload = none) :
    (payload.length : Int) ≤ config.maxFrameBytes := by
  unfold sendEntryError at h
  split at h
  · cases h
  · split at h
    · cases h
    · split at h
      · cases h
      · rename_i hsize
        exact Int.not_lt.mp hsize

theorem step_sessions (w : System) (e : Event) : SessionsStep w e (w.step e) := by
  cases e with
  | write buffer bytes => exact .settled (.refl _) rfl rfl rfl rfl
  | newForwarder object => exact .settled (.refl _) rfl rfl rfl rfl
  | closeForwarder forwarder =>
    simp only [step, closeForwarder]
    split
    · exact .settled (.refl _) rfl rfl rfl rfl
    · exact .settled (.refl _) rfl rfl rfl rfl
  | tick now => exact .settled (.refl _) rfl rfl rfl rfl
  | attach id => exact attach_sessions w id
  | pair routeID left right =>
    exact .settled (by simpa [step] using w.hub.pair_kept routeID left right)
      (by simp [step]) (by simp [step]) (by simp [step]) (by simp [step])
  | announceFederatedPresence peerID forwarder now =>
    exact .settled (w.hub.announceFederatedPresence_kept peerID forwarder now) rfl rfl rfl rfl
  | announcePresence id peerID now =>
    exact .settled (w.hub.announcePresence_kept (by exact ⟨rfl, rfl⟩) now) rfl rfl rfl rfl
  | heartbeat id now => exact .settled (w.hub.heartbeat_kept id now) rfl rfl rfl rfl
  | lookup peerID now => exact .settled (w.hub.lookupLocked_kept peerID now) rfl rfl rfl rfl
  | lookupLocal peerID now =>
    exact .settled (w.hub.lookupLocalLocked_kept peerID now) rfl rfl rfl rfl
  | rendezvous source routeID peerID now =>
    exact .settled (by simpa [step] using w.hub.rendezvous_kept source routeID peerID now)
      (by simp [step]) (by simp [step]) (by simp [step]) (by simp [step])
  | sweepExpired now => exact .settled (w.hub.sweepExpired_kept now) rfl rfl rfl rfl
  | closeSession id => exact .settled (w.hub.detach_kept id) rfl rfl rfl rfl
  | closeHub => exact .settled w.hub.close_kept rfl rfl rfl rfl
  | deliverFromFederated ctxErr routeID payload senderPeerID =>
    exact deliverFromFederated_sessions w ctxErr routeID payload senderPeerID
  | send source routeID buffer delivery now ctxErr =>
    refine .kept (.refl _) rfl rfl (.of_eq rfl) (.entered rfl ?_ ?_)
    · simp only
      split <;> rfl
    · intro hentered
      simp only at hentered
      split at hentered
      · cases hentered
      · rename_i hentry
        exact length_le_of_entry hentry
  | sendLocked call ctxErr => exact sendLocked_sessions w call ctxErr
  | forwardReturns call reply => exact forwardReturns_sessions w call reply
  | sendCompleted call => exact sendCompleted_sessions w call
  | receive handle =>
    simp only [step, receive]
    split
    · exact .settled (.refl _) rfl rfl rfl rfl
    · rename_i id hid
      refine .kept (.refl _) rfl rfl ?_ (.same rfl)
      intro call c' h
      rcases Nat.lt_or_ge call w.receives.length with hlt | hge
      · rw [List.getElem?_append_left hlt] at h
        exact .inl ⟨c', h, rfl, rfl⟩
      · rw [List.getElem?_append_right hge] at h
        obtain rfl := List.mem_singleton.mp (List.mem_of_getElem? h)
        exact .inr hid
  | receiveLookup call =>
    simp only [step, receiveLookup]
    split
    · exact .settled (.refl _) rfl rfl rfl rfl
    · split
      · split
        · exact .received (setReceive_kept w call _)
        · exact .received (setReceive_kept w call _)
      · exact .settled (.refl _) rfl rfl rfl rfl
  | receiveSelect call arm => exact receiveSelect_sessions w call arm
  | receiveReturns call =>
    simp only [step, receiveReturns]
    split
    · exact .settled (.refl _) rfl rfl rfl rfl
    · split
      · split
        · exact .received (setReceive_kept w call _)
        · exact .received (setReceive_kept w call _)
      · exact .settled (.refl _) rfl rfl rfl rfl

structure CallOk (w : System) (c : SendCall) : Prop where
  ticket : ∀ p serial, c.stage.ticket = some (p, serial) →
    p.source = c.source ∧ p.routeID = c.routeID ∧ p.payload = c.payload ∧
      p.delivery = c.delivery ∧ w.handles[p.sourceRef]? = some p.source
  charged : ∀ ref, c.stage.chargedTo = some ref → ref < w.hub.refs

structure Invariant (w : System) : Prop where
  hub : w.hub.Invariant
  handles_length : w.handles.length = w.hub.refs
  handle : ∀ id s, w.hub.sessions.get? id = some s → w.handles[s.ref]? = some id
  attached : ∀ ref, ref < w.hub.refs → w.hub.isClosed ref = false →
    ∃ id s, w.hub.sessions.get? id = some s ∧ s.ref = ref
  call : ∀ (call : Nat) c, w.sends[call]? = some c → CallOk w c
  receive : ∀ (call : Nat) c, w.receives[call]? = some c →
    w.handles[c.handle]? = some c.sessionID
  history : ∀ entry ∈ w.history, entry.session < w.hub.refs

theorem invariant_start (config : ValidConfig) : (start config).Invariant where
  hub := Hub.invariant_start config
  handles_length := rfl
  handle := by
    intro id s h
    simp [start, Hub.start] at h
  attached := by
    intro ref h
    simp [start, Hub.start] at h
  call := by
    intro call c h
    simp [start] at h
  receive := by
    intro call c h
    simp [start] at h
  history := by
    intro entry h
    simp [start] at h

/-- The step keeps every session object under its identifier or closes it. -/
structure SameObjects (w w' : System) : Prop where
  refs : w'.hub.refs = w.hub.refs
  handles : w'.handles = w.handles
  done : ∀ ref ∈ w.hub.done, ref ∈ w'.hub.done
  kept : ∀ id s', w'.hub.sessions.get? id = some s' →
    ∃ s, w.hub.sessions.get? id = some s ∧ s'.ref = s.ref
  gone : ∀ id s, w.hub.sessions.get? id = some s →
    (w'.hub.sessions.get? id).isSome ∨ w'.hub.isClosed s.ref = true

theorem SameObjects.of_kept {announced : SessionID → PeerID → Prop}
    (hhub : Hub.SessionsKept announced w.hub w'.hub) (hhandles : w'.handles = w.handles) : SameObjects w w' where
  refs := hhub.refs
  handles := hhandles
  done := hhub.done
  kept := by
    intro id s' h
    obtain ⟨s, hs, heq, _⟩ := hhub.kept id s' h
    exact ⟨s, hs, by rw [heq]⟩
  gone := hhub.gone

theorem SameObjects.of_map_ref (hrefs : w'.hub.refs = w.hub.refs)
    (hdone : w'.hub.done = w.hub.done) (hhandles : w'.handles = w.handles)
    (hsessions : ∀ id, (w'.hub.sessions.get? id).map SessionState.ref =
      (w.hub.sessions.get? id).map SessionState.ref) : SameObjects w w' where
  refs := hrefs
  handles := hhandles
  done := by
    intro ref h
    rw [hdone]
    exact h
  kept := by
    intro id s' h
    have hs := hsessions id
    rw [h] at hs
    obtain ⟨s, hs, href⟩ := Option.map_eq_some_iff.mp hs.symm
    exact ⟨s, hs, href.symm⟩
  gone := by
    intro id s h
    left
    have hs := congrArg Option.isSome (hsessions id)
    rw [h] at hs
    simpa using hs

theorem Invariant.of_sameObjects (hi : w.Invariant)
    (hhub : w'.hub.Invariant) (hsame : SameObjects w w')
    (hsends : ∀ (call : Nat) c', w'.sends[call]? = some c' →
      w.sends[call]? = some c' ∨ CallOk w c')
    (hreceives : ReceivesKept w w')
    (hhistory : ∀ entry ∈ w'.history, entry ∈ w.history ∨ entry.session < w.hub.refs) :
    w'.Invariant where
  hub := hhub
  handles_length := by rw [hsame.handles, hsame.refs, hi.handles_length]
  handle := by
    intro id s' h
    obtain ⟨s, hs, href⟩ := hsame.kept id s' h
    rw [hsame.handles, href]
    exact hi.handle id s hs
  attached := by
    intro ref hlt hopen
    rw [hsame.refs] at hlt
    have hopen₀ : w.hub.isClosed ref = false := by
      apply Bool.eq_false_iff.mpr
      intro hclosed
      have hdone := hsame.done ref (List.contains_iff_mem.mp hclosed)
      rw [Hub.isClosed, List.contains_iff_mem.mpr hdone] at hopen
      cases hopen
    rcases hi.attached ref hlt hopen₀ with ⟨id, s, hs, rfl⟩
    rcases hsame.gone id s hs with hstays | hclosed
    · obtain ⟨s', hs'⟩ := Option.isSome_iff_exists.mp hstays
      obtain ⟨s₁, hs₁, href⟩ := hsame.kept id s' hs'
      rw [hs] at hs₁
      cases hs₁
      exact ⟨id, s', hs', href⟩
    · rw [hclosed] at hopen
      cases hopen
  call := by
    intro call c' h
    have hok : CallOk w c' := by
      rcases hsends call c' h with hold | hnew
      · exact hi.call call c' hold
      · exact hnew
    refine ⟨?_, ?_⟩
    · intro p serial hp
      rw [hsame.handles]
      exact hok.ticket p serial hp
    · intro ref href
      rw [hsame.refs]
      exact hok.charged ref href
  receive := by
    intro call c' h
    rw [hsame.handles]
    rcases hreceives call c' h with ⟨c, hc, hhandle, hid⟩ | hnew
    · rw [hhandle, hid]
      exact hi.receive call c hc
    · exact hnew
  history := by
    intro entry h
    rw [hsame.refs]
    rcases hhistory entry h with hold | hnew
    · exact hi.history entry hold
    · exact hnew

section MapRef

theorem map_ref_insert {sessions : Table SessionID SessionState} {id : SessionID}
    {state state' : SessionState} (hstate : sessions.get? id = some state)
    (href : state'.ref = state.ref) (id' : SessionID) :
    ((sessions.insert id state').get? id').map SessionState.ref =
      (sessions.get? id').map SessionState.ref := by
  rw [Table.get?_insert]
  split
  · rename_i hid
    rw [hid, hstate]
    exact congrArg some href
  · rfl

theorem map_ref_modify (sessions : Table SessionID SessionState) (id : SessionID)
    {f : SessionState → SessionState} (href : ∀ s, (f s).ref = s.ref) (id' : SessionID) :
    ((sessions.modify id f).get? id').map SessionState.ref =
      (sessions.get? id').map SessionState.ref := by
  rw [Table.get?_modify]
  split
  · rename_i hid
    rw [hid, Option.map_map]
    congr 1
    funext s
    exact href s
  · rfl

theorem map_ref_rollback (hub : Hub) (sessionID : SessionID) (expected : SessionRef)
    (payloadBytes : Nat) (id : SessionID) :
    ((hub.rollbackUsageLocked sessionID expected payloadBytes).sessions.get? id).map
      SessionState.ref = (hub.sessions.get? id).map SessionState.ref := by
  unfold Hub.rollbackUsageLocked
  split
  · rfl
  · rename_i state hstate
    split
    · rfl
    · exact map_ref_insert hstate (by rfl) id

theorem map_ref_remember (hub : Hub) (pending : PendingForward) (id : SessionID) :
    ((hub.rememberForwarded pending).sessions.get? id).map SessionState.ref =
      (hub.sessions.get? id).map SessionState.ref := by
  unfold Hub.rememberForwarded
  split
  · rfl
  · rename_i state hstate
    split
    · rfl
    · exact map_ref_insert hstate (by exact state.rememberDelivery_ref _ _) id

theorem map_ref_settleLocal (hub : Hub) (source target : SessionID)
    (inbox : BoundedQueue Frame) (frame : Frame) (delivery : Option Delivery)
    (id : SessionID) :
    ((hub.settleLocal source target inbox frame delivery).sessions.get? id).map
      SessionState.ref = (hub.sessions.get? id).map SessionState.ref := by
  calc ((hub.settleLocal source target inbox frame delivery).sessions.get? id).map
        SessionState.ref
      = ((hub.sessions.modify target fun s => { s with inbox := inbox }).get? id).map
          SessionState.ref :=
        map_ref_modify _ source (by exact fun s => s.rememberDelivery_ref _ _) id
    _ = (hub.sessions.get? id).map SessionState.ref :=
        map_ref_modify _ target (by exact fun _ => rfl) id

end MapRef

theorem rememberForwarded_frame (hub : Hub) (pending : PendingForward) :
    (hub.rememberForwarded pending).config = hub.config ∧
      (hub.rememberForwarded pending).refs = hub.refs ∧
      (hub.rememberForwarded pending).done = hub.done := by
  unfold Hub.rememberForwarded
  repeat' split
  all_goals exact ⟨rfl, rfl, rfl⟩

section SessionAfter

theorem settleLocal_eq_some {hub : Hub} {source target id : SessionID}
    {inbox : BoundedQueue Frame} {frame : Frame} {delivery : Option Delivery}
    {s' : SessionState}
    (h : (hub.settleLocal source target inbox frame delivery).sessions.get? id = some s') :
    ∃ s s₁, hub.sessions.get? id = some s ∧
      ((id = target ∧ s₁ = { s with inbox := inbox }) ∨ (id ≠ target ∧ s₁ = s)) ∧
      ((id = source ∧ s' = (s₁.rememberDelivery frame.senderPeerID delivery).charge
        frame.payload.length) ∨ (id ≠ source ∧ s' = s₁)) := by
  obtain ⟨s₁, hs₁, hsource⟩ := Table.get?_modify_eq_some h
  obtain ⟨s, hs, htarget⟩ := Table.get?_modify_eq_some hs₁
  exact ⟨s, s₁, hs, htarget, hsource⟩

theorem rememberForwarded_eq_some {hub : Hub} {pending : PendingForward} {id : SessionID}
    {s' : SessionState}
    (h : (hub.rememberForwarded pending).sessions.get? id = some s') :
    ∃ s, hub.sessions.get? id = some s ∧
      ((id = pending.source ∧ s.ref = pending.sourceRef ∧
        s' = s.rememberDelivery pending.senderPeerID pending.delivery) ∨
      (¬(id = pending.source ∧ s.ref = pending.sourceRef) ∧ s' = s)) := by
  unfold Hub.rememberForwarded at h
  split at h
  · rename_i hnone
    refine ⟨s', h, .inr ⟨?_, rfl⟩⟩
    rintro ⟨rfl, _⟩
    rw [hnone] at h
    cases h
  · rename_i state hstate
    split at h
    · rename_i href
      refine ⟨s', h, .inr ⟨?_, rfl⟩⟩
      rintro ⟨rfl, href'⟩
      rw [hstate] at h
      cases h
      exact href href'
    · rename_i href
      rcases Table.get?_insert_eq_some h with ⟨rfl, rfl⟩ | ⟨hid, hs⟩
      · exact ⟨state, hstate, .inl ⟨rfl, not_not.mp href, rfl⟩⟩
      · exact ⟨s', hs, .inr ⟨fun hboth => hid hboth.1, rfl⟩⟩

theorem rollbackUsageLocked_eq_some {hub : Hub} {sessionID id : SessionID}
    {expected : SessionRef} {payloadBytes : Nat} {s' : SessionState}
    (h : (hub.rollbackUsageLocked sessionID expected payloadBytes).sessions.get? id =
      some s') :
    ∃ s, hub.sessions.get? id = some s ∧
      ((id = sessionID ∧ s.ref = expected ∧ s' = s.uncharge payloadBytes) ∨
      (¬(id = sessionID ∧ s.ref = expected) ∧ s' = s)) := by
  unfold Hub.rollbackUsageLocked at h
  split at h
  · rename_i hnone
    refine ⟨s', h, .inr ⟨?_, rfl⟩⟩
    rintro ⟨rfl, _⟩
    rw [hnone] at h
    cases h
  · rename_i state hstate
    split at h
    · rename_i href
      refine ⟨s', h, .inr ⟨?_, rfl⟩⟩
      rintro ⟨rfl, href'⟩
      rw [hstate] at h
      cases h
      exact href href'
    · rename_i href
      rcases Table.get?_insert_eq_some h with ⟨rfl, rfl⟩ | ⟨hid, hs⟩
      · exact ⟨state, hstate, .inl ⟨rfl, not_not.mp href, rfl⟩⟩
      · exact ⟨s', hs, .inr ⟨fun hboth => hid hboth.1, rfl⟩⟩

end SessionAfter

theorem callOk_setStage {w : System} {call : Nat} {stage : SendStage}
    (hstage : ∀ c, w.sends[call]? = some c → CallOk w { c with stage := stage })
    {call' : Nat} {c' : SendCall}
    (h : (w.sends.modify call fun c => { c with stage := stage })[call']? = some c') :
    w.sends[call']? = some c' ∨ CallOk w c' := by
  obtain ⟨c, hc, ⟨rfl, rfl⟩ | ⟨_, rfl⟩⟩ := of_getElem?_modify h
  · exact .inr (hstage c hc)
  · exact .inl hc

theorem restaged_call {sends : List SendCall} {call call' : Nat} {c c' : SendCall}
    {stage : SendStage} (hcall : sends[call]? = some c)
    (h : (sends.modify call fun c => { c with stage := stage })[call']? = some c')
    (hchanged : sends[call']? ≠ some c') : call' = call ∧ c' = { c with stage := stage } := by
  obtain ⟨c₁, hc₁, ⟨rfl, rfl⟩ | ⟨_, rfl⟩⟩ := of_getElem?_modify h
  · rw [hcall] at hc₁
    cases hc₁
    exact ⟨rfl, rfl⟩
  · exact absurd hc₁ hchanged

theorem callOk_of_settled {w : System} {c : SendCall}
    (hticket : c.stage.ticket = none) (hcharged : ∀ ref, c.stage.chargedTo = some ref →
      ref < w.hub.refs) : CallOk w c := by
  refine ⟨?_, hcharged⟩
  intro p serial hp
  rw [hticket] at hp
  cases hp

theorem invariant_attached {w : System} (hi : w.Invariant) {w' : System}
    (hhub : w'.hub.Invariant) (id : SessionID) {state : SessionState}
    (hfresh : w.hub.sessions.get? id = none) (href : state.ref = w.hub.refs)
    (hsessions : w'.hub.sessions = w.hub.sessions.insert id state)
    (hrefs : w'.hub.refs = w.hub.refs + 1) (hdone : w'.hub.done = w.hub.done)
    (hhandles : w'.handles = w.handles ++ [id]) (hsends : w'.sends = w.sends)
    (hreceives : w'.receives = w.receives) (hhistory : w'.history = w.history) :
    w'.Invariant where
  hub := hhub
  handles_length := by
    rw [hhandles, hrefs, List.length_append, hi.handles_length]
    rfl
  handle := by
    intro id' s h
    rw [hsessions, Table.get?_insert] at h
    rw [hhandles]
    split at h
    · rename_i hid
      cases h
      rw [href, ← hi.handles_length, hid]
      simp
    · have hold := hi.handle id' s h
      rw [List.getElem?_append_left (List.getElem?_eq_some_iff.mp hold).1]
      exact hold
  attached := by
    intro ref hlt hopen
    rw [hrefs] at hlt
    rw [Hub.isClosed, hdone] at hopen
    rw [hsessions]
    rcases Nat.lt_succ_iff_lt_or_eq.mp hlt with hlt | rfl
    · rcases hi.attached ref hlt hopen with ⟨id', s, hs, rfl⟩
      refine ⟨id', s, ?_, rfl⟩
      rw [Table.get?_insert_of_ne, hs]
      rintro rfl
      rw [hfresh] at hs
      cases hs
    · exact ⟨id, state, by simp, href⟩
  call := by
    intro call c h
    rw [hsends] at h
    rcases hi.call call c h with ⟨hticket, hcharged⟩
    refine ⟨?_, ?_⟩
    · intro p serial hp
      rcases hticket p serial hp with ⟨h1, h2, h3, h4, hold⟩
      refine ⟨h1, h2, h3, h4, ?_⟩
      rw [hhandles, List.getElem?_append_left (List.getElem?_eq_some_iff.mp hold).1]
      exact hold
    · intro ref hc
      rw [hrefs]
      exact Nat.lt_succ_of_lt (hcharged ref hc)
  receive := by
    intro call c h
    rw [hreceives] at h
    have hold := hi.receive call c h
    rw [hhandles, List.getElem?_append_left (List.getElem?_eq_some_iff.mp hold).1]
    exact hold
  history := by
    intro entry h
    rw [hhistory] at h
    rw [hrefs]
    exact Nat.lt_succ_of_lt (hi.history entry h)

theorem Invariant.pending_source {w : System} (hi : w.Invariant) {call : Nat} {c : SendCall}
    {pending : PendingForward} {serial : Nat} (hcall : w.sends[call]? = some c)
    (hticket : c.stage.ticket = some (pending, serial)) {id : SessionID}
    {s : SessionState} (hs : w.hub.sessions.get? id = some s)
    (href : s.ref = pending.sourceRef) : id = pending.source := by
  obtain ⟨_, _, _, _, hhandle⟩ := (hi.call call c hcall).ticket pending serial hticket
  have hid := hi.handle id s hs
  rw [href, hhandle] at hid
  exact (Option.some.inj hid).symm

theorem Invariant.of_step (hi : w.Invariant) (hhub : w'.hub.Invariant)
    {e : Event}
    (hstep : SessionsStep w e w') : w'.Invariant := by
  have hlt : ∀ id s, w.hub.sessions.get? id = some s → s.ref < w.hub.refs :=
    fun id s h => (hi.hub.session id s h).ref_lt
  cases hstep with
  | kept hkept hhandles hhistory hreceives hsends =>
    refine hi.of_sameObjects hhub (.of_kept hkept hhandles) ?_ hreceives ?_
    · intro call' c' h
      cases hsends with
      | same hsends =>
        rw [hsends] at h
        exact .inl h
      | @entered c hsends hcharged =>
        rw [hsends] at h
        rcases Nat.lt_or_ge call' w.sends.length with hlt' | hge
        · rw [List.getElem?_append_left hlt'] at h
          exact .inl h
        · right
          rw [List.getElem?_append_right hge] at h
          obtain rfl : c = c' := by
            have hmem := List.mem_of_getElem? h
            exact (List.mem_singleton.mp hmem).symm
          have hnone := SendStage.ticket_eq_none_of_chargedTo hcharged
          refine callOk_of_settled hnone ?_
          intro ref href
          rw [hcharged] at href
          cases href
      | @restaged call c stage hc hcharged hticket _ hsends =>
        rw [hsends] at h
        apply callOk_setStage (w := w) ?_ h
        intro c₁ hc₁
        rw [hc] at hc₁
        cases hc₁
        rcases hi.call call c hc with ⟨hold, hchargedOld⟩
        exact ⟨fun p serial hp => hold p serial (hticket _ hp),
          fun ref href => hchargedOld ref (hcharged ▸ href)⟩
    · intro entry h
      rw [hhistory] at h
      exact .inl h
  | attached id hfresh =>
    exact invariant_attached hi hhub id hfresh rfl rfl rfl rfl rfl rfl rfl rfl
  | sent hcall hstage hadmits hdestination hpush =>
    have hsource := hadmits.session
    refine hi.of_sameObjects hhub (.of_map_ref rfl rfl rfl
      (map_ref_settleLocal _ _ _ _ _ _)) ?_ (.of_eq rfl) ?_
    · intro call' c' h
      apply callOk_setStage (w := w) ?_ h
      intro c₁ _
      refine callOk_of_settled rfl ?_
      rintro ref ⟨⟩
      exact hlt _ _ hsource
    · intro entry h
      rcases List.mem_append.mp h with hold | hnew
      · exact .inl hold
      · right
        rcases List.mem_cons.mp hnew with rfl | hnew
        · exact hlt _ _ hdestination
        · rw [deliveredEntry_session hnew]
          exact hlt _ _ hsource
  | forwarding hcall hstage hadmits =>
    have hsource := hadmits.session
    refine hi.of_sameObjects hhub (.of_map_ref rfl rfl rfl
      (map_ref_insert hsource (by rfl))) ?_ (.of_eq rfl) (fun entry h => .inl h)
    intro call' c' h
    apply callOk_setStage (w := w) ?_ h
    intro c₁ hc₁
    rw [hcall] at hc₁
    cases hc₁
    refine ⟨?_, ?_⟩
    · rintro p serial ⟨⟩
      exact ⟨rfl, rfl, rfl, rfl, hi.handle _ _ hsource⟩
    · rintro ref ⟨⟩
      exact hlt _ _ hsource
  | completed hcall hstage hevent =>
    rename_i call c pending serial
    rcases rememberForwarded_frame w.hub pending with ⟨_, hrefs, hdone⟩
    have hsource : pending.sourceRef < w.hub.refs :=
      (hi.call _ _ hcall).charged _ (by rw [hstage]; rfl)
    refine hi.of_sameObjects hhub (.of_map_ref hrefs hdone rfl
      (map_ref_remember _ _)) ?_ (.of_eq rfl) ?_
    · intro call' c' h
      apply callOk_setStage (w := w) ?_ h
      intro c₁ _
      refine callOk_of_settled rfl ?_
      rintro ref ⟨⟩
      exact hsource
    · intro entry h
      rcases List.mem_append.mp h with hold | hnew
      · exact .inl hold
      · right
        rw [deliveredEntry_session hnew]
        exact hsource
  | rolledBack hcall hstage hsessions hconfig hrefs hdone hhandles hhistory hreceives hsends =>
    refine hi.of_sameObjects hhub (.of_map_ref hrefs hdone hhandles ?_) ?_
      (.of_eq hreceives) ?_
    · intro id
      rw [hsessions]
      exact map_ref_rollback _ _ _ _ id
    · intro call' c' h
      rw [hsends] at h
      apply callOk_setStage (w := w) ?_ h
      intro c₁ _
      refine callOk_of_settled rfl ?_
      rintro ref ⟨⟩
    · intro entry h
      rw [hhistory] at h
      exact .inl h
  | delivered hdestination hpush =>
    refine hi.of_sameObjects hhub (.of_map_ref rfl rfl rfl
      (map_ref_insert hdestination (by rfl))) (fun call' c' h => .inl h) (.of_eq rfl) ?_
    intro entry h
    rcases List.mem_append.mp h with hold | hnew
    · exact .inl hold
    · right
      obtain rfl := List.mem_singleton.mp hnew
      exact hlt _ _ hdestination
  | took hcall hstage hstate hitems hcapacity =>
    refine hi.of_sameObjects hhub (.of_map_ref rfl rfl rfl
      (map_ref_insert hstate (by rfl))) (fun call' c' h => .inl h)
      (setReceive_kept w _ _) ?_
    intro entry h
    rcases List.mem_append.mp h with hold | hnew
    · exact .inl hold
    · right
      obtain rfl := List.mem_singleton.mp hnew
      have hhandle := hi.receive _ _ hcall
      rw [← hi.handles_length]
      exact (List.getElem?_eq_some_iff.mp hhandle).1

theorem step_invariant {w : System} (hi : w.Invariant) (e : Event) :
    (w.step e).Invariant :=
  hi.of_step (invariant_step hi.hub e) (step_sessions w e)

theorem after_invariant (config : ValidConfig) (events : List Event) :
    (after config events).Invariant :=
  Trace.invariant (P := Invariant) (fun _ e hi => step_invariant hi e)
    (invariant_start config) events

end System

end Branch.Relay
