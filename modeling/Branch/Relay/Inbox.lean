import Branch.Relay.Sessions

/-!
The frames that receive calls return against the frames that were forwarded.
-/

namespace Branch.Relay

open Branch.Lib
open Branch.Wss

namespace System

/-- The frames put into the inbox of one session object, in order. -/
def enqueuedFrames (ref : SessionRef) (history : List HistoryEntry) : List Frame :=
  history.filterMap fun
    | .enqueued destination frame _ => if destination = ref then some frame else none
    | _ => none

/-- The frames that receive calls took, with the handle and the call of each. -/
def takenEntries (history : List HistoryEntry) : List (SessionRef × Nat × Frame) :=
  history.filterMap fun
    | .taken handle call frame => some (handle, call, frame)
    | _ => none

/-- The frames that receive calls on one handle took, in order. -/
def takenFrames (ref : SessionRef) (history : List HistoryEntry) : List Frame :=
  ((takenEntries history).filter fun t => t.1 = ref).map fun t => t.2.2

theorem enqueuedFrames_append (ref : SessionRef) (xs ys : List HistoryEntry) :
    enqueuedFrames ref (xs ++ ys) = enqueuedFrames ref xs ++ enqueuedFrames ref ys :=
  List.filterMap_append

theorem enqueuedFrames_cons (ref destination : SessionRef) (frame : Frame) (origin : Origin)
    (rest : List HistoryEntry) :
    enqueuedFrames ref (.enqueued destination frame origin :: rest) =
      (if destination = ref then [frame] else []) ++ enqueuedFrames ref rest := by
  rw [enqueuedFrames, List.filterMap_cons]
  by_cases h : destination = ref
  · simp [h, enqueuedFrames]
  · simp [h, enqueuedFrames]

theorem takenEntries_append (xs ys : List HistoryEntry) :
    takenEntries (xs ++ ys) = takenEntries xs ++ takenEntries ys :=
  List.filterMap_append

theorem takenFrames_append (ref : SessionRef) (xs ys : List HistoryEntry) :
    takenFrames ref (xs ++ ys) = takenFrames ref xs ++ takenFrames ref ys := by
  simp [takenFrames, takenEntries_append]

theorem mem_takenEntries {history : List HistoryEntry} {handle : SessionRef} {call : Nat}
    {frame : Frame} :
    (handle, call, frame) ∈ takenEntries history ↔ .taken handle call frame ∈ history := by
  rw [takenEntries, List.mem_filterMap]
  constructor
  · rintro ⟨entry, hentry, hsome⟩
    cases entry with
    | enqueued => cases hsome
    | delivered => cases hsome
    | taken =>
      cases hsome
      exact hentry
  · intro h
    exact ⟨_, h, rfl⟩

theorem enqueuedFrames_deliveredEntry (ref source : SessionRef) (senderPeerID : PeerID)
    (delivery : Option Delivery) :
    enqueuedFrames ref (deliveredEntry source senderPeerID delivery) = [] := by
  cases delivery <;> rfl

theorem takenEntries_deliveredEntry (source : SessionRef) (senderPeerID : PeerID)
    (delivery : Option Delivery) :
    takenEntries (deliveredEntry source senderPeerID delivery) = [] := by
  cases delivery <;> rfl

theorem frames_eq_nil (ref : SessionRef) {history : List HistoryEntry}
    (h : ∀ entry ∈ history, entry.session ≠ ref) :
    enqueuedFrames ref history = [] ∧ takenFrames ref history = [] := by
  constructor
  · apply List.filterMap_eq_nil_iff.mpr
    intro entry hentry
    have hne := h entry hentry
    cases entry with
    | enqueued => exact if_neg hne
    | delivered => rfl
    | taken => rfl
  · rw [takenFrames, List.map_eq_nil_iff, List.filter_eq_nil_iff]
    rintro ⟨handle, call, frame⟩ htaken href
    exact h _ (mem_takenEntries.mp htaken) (of_decide_eq_true href)

/-- What receive calls return is what was forwarded. A call that took a frame returns
it, unless its own session has been closed in between. -/
structure ReceivedInOrder (w : System) : Prop where
  attached : ∀ id s, w.hub.sessions.get? id = some s →
    s.inbox.Accounts (enqueuedFrames s.ref w.history) (takenFrames s.ref w.history)
  any : ∀ ref, takenFrames ref w.history <+: enqueuedFrames ref w.history
  once : ((takenEntries w.history).map fun t => t.2.1).Nodup
  taken : ∀ handle call frame, .taken handle call frame ∈ w.history →
    ∃ c, w.receives[call]? = some c ∧ c.handle = handle ∧
      (c.stage = .took frame ∨ c.stage = .returned frame ∨
        (w.hub.isClosed handle = true ∧ c.stage = .failed .sessionClosed))
  returned : ∀ (call : Nat) c frame, w.receives[call]? = some c →
    c.stage = .took frame ∨ c.stage = .returned frame →
    .taken c.handle call frame ∈ w.history

/-- A send call keeps the payload that was copied when it was entered, and a frame in
an inbox is that payload under the sender's peer id at the time of the send. -/
structure SnapshotKept (w : System) (e : Event) : Prop where
  copied : ∀ source routeID buffer delivery now ctxErr,
    e = .send source routeID buffer delivery now ctxErr →
    ∃ c, (w.step e).sends = w.sends ++ [c] ∧ c.source = source ∧ c.routeID = routeID ∧
      c.payload = (w.buffers.get? buffer).getD []
  frozen : ∀ (call : Nat) c, w.sends[call]? = some c →
    ∃ stage, (w.step e).sends[call]? = some { c with stage := stage }
  recorded : ∃ entries, (w.step e).history = w.history ++ entries ∧
    ∀ destination frame call, .enqueued destination frame (.send call) ∈ entries →
      ∃ c state target d, w.sends[call]? = some c ∧
        w.hub.Admits c.source c.routeID c.payload c.now c.delivery state target ∧
        w.hub.sessions.get? target.sessionID = some d ∧ d.ref = destination ∧
        frame = ⟨c.routeID, state.peerID, c.payload⟩ ∧
        (w.step e).sends[call]? = some { c with stage := .sent state.ref }
  forwarded : ∀ (call : Nat) c ref, w.sends[call]? = some c → c.stage = .entered →
    (w.step e).sends[call]? = some { c with stage := .sent ref } →
    ∃ destination frame rest,
      (w.step e).history = w.history ++ .enqueued destination frame (.send call) :: rest ∧
      ∀ entry ∈ rest, ∀ d f origin, entry ≠ .enqueued d f origin

def FramesKept (w : System) (e : Event) : Prop :=
  (w.step e).ReceivedInOrder ∧ SnapshotKept w e

/-- A receive call that takes a frame takes it from the inbox of its own session. -/
def ReceiveGuard (w : System) (e : Event) : Prop :=
  ∀ call c state s, e = .receiveSelect call .inbox → w.receives[call]? = some c →
    c.stage = .waiting state → w.hub.sessions.get? c.sessionID = some s → s.ref = state →
    s.inbox.items ≠ [] → state = c.handle

theorem receivedInOrder_start (config : ValidConfig) : (start config).ReceivedInOrder where
  attached := by
    intro id s h
    simp [start, Hub.start] at h
  any := fun ref => List.nil_prefix
  once := List.nodup_nil
  taken := by
    intro handle call frame h
    cases h
  returned := by
    intro call c frame h
    cases h

section Snapshot

variable {w : System}

theorem deliveredEntry_ne_enqueued {source : SessionRef} {senderPeerID : PeerID}
    {delivery : Option Delivery} {entry : HistoryEntry}
    (h : entry ∈ deliveredEntry source senderPeerID delivery) (d : SessionRef) (f : Frame)
    (origin : Origin) : entry ≠ .enqueued d f origin := by
  cases delivery with
  | none => cases h
  | some delivery =>
    obtain rfl := List.mem_singleton.mp h
    rintro ⟨⟩

theorem frozen_modify {sends : List SendCall} {call call' : Nat} {c : SendCall}
    {stage : SendStage} (h : sends[call']? = some c) :
    ∃ stage', (sends.modify call fun c => { c with stage := stage })[call']? =
      some { c with stage := stage' } := by
  rw [List.getElem?_modify, h]
  by_cases hcall : call = call'
  · exact ⟨stage, by simp [hcall]⟩
  · exact ⟨c.stage, by simp [hcall]⟩

theorem SessionsStep.frozen {w' : System} {e : Event} (hstep : SessionsStep w e w')
    {call : Nat} {c : SendCall} (h : w.sends[call]? = some c) :
    ∃ stage, w'.sends[call]? = some { c with stage := stage } := by
  cases hstep with
  | kept _ _ _ _ hsends =>
    cases hsends with
    | same hsends => exact ⟨c.stage, hsends ▸ h⟩
    | entered hsends =>
      refine ⟨c.stage, ?_⟩
      rw [hsends, List.getElem?_append_left (List.getElem?_eq_some_iff.mp h).1]
      exact h
    | restaged _ _ _ _ hsends =>
      rw [hsends]
      exact frozen_modify h
  | attached => exact ⟨c.stage, h⟩
  | sent => exact frozen_modify h
  | forwarding => exact frozen_modify h
  | completed => exact frozen_modify h
  | rolledBack _ _ _ _ _ _ _ _ _ hsends =>
    rw [hsends]
    exact frozen_modify h
  | delivered => exact ⟨c.stage, h⟩
  | took => exact ⟨c.stage, h⟩

/-- What a step adds to the history comes from a call that takes its lock in this step. -/
theorem SessionsStep.enqueued {w' : System} {e : Event} (hstep : SessionsStep w e w') :
    ∃ entries, w'.history = w.history ++ entries ∧
      ∀ destination frame call, .enqueued destination frame (.send call) ∈ entries →
        ∃ c state target d, e = .sendLocked call none ∧ w.sends[call]? = some c ∧
          c.stage = .entered ∧
          w.hub.Admits c.source c.routeID c.payload c.now c.delivery state target ∧
          w.hub.sessions.get? target.sessionID = some d ∧ d.ref = destination ∧
          (d.inbox.push? frame).isSome ∧ frame = ⟨c.routeID, state.peerID, c.payload⟩ ∧
          w'.sends[call]? = some { c with stage := .sent state.ref } := by
  have hnone : ∀ destination frame call, .enqueued destination frame (.send call) ∉
      ([] : List HistoryEntry) := fun _ _ _ h => nomatch h
  cases hstep with
  | kept _ _ hhistory =>
    exact ⟨[], by rw [hhistory, List.append_nil], fun _ _ _ h => absurd h (hnone _ _ _)⟩
  | attached => exact ⟨[], by simp, fun _ _ _ h => absurd h (hnone _ _ _)⟩
  | sent hcall hstage hadmits hdestination hpush hevent =>
    refine ⟨_, rfl, ?_⟩
    intro destination frame call h
    rcases List.mem_cons.mp h with h | h
    · cases h
      exact ⟨_, _, _, _, hevent, hcall, hstage, hadmits, hdestination, rfl,
        Option.isSome_of_eq_some hpush, rfl, getElem?_setSend hcall _⟩
    · exact absurd rfl (deliveredEntry_ne_enqueued h _ _ _)
  | forwarding => exact ⟨[], by simp, fun _ _ _ h => absurd h (hnone _ _ _)⟩
  | completed =>
    refine ⟨_, rfl, ?_⟩
    intro destination frame call h
    exact absurd rfl (deliveredEntry_ne_enqueued h _ _ _)
  | rolledBack _ _ _ _ _ _ _ hhistory =>
    exact ⟨[], by rw [hhistory, List.append_nil], fun _ _ _ h => absurd h (hnone _ _ _)⟩
  | delivered =>
    refine ⟨_, rfl, ?_⟩
    intro destination frame call h
    cases List.mem_singleton.mp h
  | took =>
    refine ⟨_, rfl, ?_⟩
    intro destination frame call h
    cases List.mem_singleton.mp h

theorem SessionsStep.recorded {w' : System} {e : Event} (hstep : SessionsStep w e w') :
    ∃ entries, w'.history = w.history ++ entries ∧
      ∀ destination frame call, .enqueued destination frame (.send call) ∈ entries →
        ∃ c state target d, w.sends[call]? = some c ∧
          w.hub.Admits c.source c.routeID c.payload c.now c.delivery state target ∧
          w.hub.sessions.get? target.sessionID = some d ∧ d.ref = destination ∧
          frame = ⟨c.routeID, state.peerID, c.payload⟩ ∧
          w'.sends[call]? = some { c with stage := .sent state.ref } := by
  obtain ⟨entries, hhistory, hentries⟩ := hstep.enqueued
  refine ⟨entries, hhistory, fun destination frame call h => ?_⟩
  obtain ⟨c, state, target, d, _, hc, _, hadmits, hd, href, _, hframe, hsent⟩ := hentries _ _ _ h
  exact ⟨c, state, target, d, hc, hadmits, hd, href, hframe, hsent⟩

theorem SessionsStep.forwarded {w' : System} {e : Event} (hstep : SessionsStep w e w')
    {call : Nat} {c : SendCall} {ref : SessionRef} (hc : w.sends[call]? = some c)
    (hentered : c.stage = .entered)
    (hsent : w'.sends[call]? = some { c with stage := .sent ref }) :
    ∃ destination frame rest,
      w'.history = w.history ++ .enqueued destination frame (.send call) :: rest ∧
      ∀ entry ∈ rest, ∀ d f origin, entry ≠ .enqueued d f origin := by
  have hsame : w.sends[call]? ≠ some { c with stage := .sent ref } := by
    intro h
    rw [hc] at h
    have hstage := congrArg SendCall.stage (Option.some.inj h)
    rw [hentered] at hstage
    cases hstage
  -- The call that a step restages is this one, and it was in its entry stage.
  have hmoved : ∀ {call' : Nat} {c' : SendCall} {stage : SendStage},
      w.sends[call']? = some c' →
      (w.sends.modify call' fun c => { c with stage := stage })[call]? =
        some { c with stage := .sent ref } →
      call = call' ∧ c' = c ∧ stage = .sent ref := by
    intro call' c' stage hc' h
    obtain ⟨rfl, heq⟩ := restaged_call hc' h hsame
    rw [hc] at hc'
    cases hc'
    exact ⟨rfl, rfl, (congrArg SendCall.stage heq).symm⟩
  cases hstep with
  | kept _ _ _ _ hsends =>
    cases hsends with
    | same hsends => exact absurd (hsends ▸ hsent) hsame
    | entered hsends =>
      rw [hsends, List.getElem?_append_left (List.getElem?_eq_some_iff.mp hc).1] at hsent
      exact absurd hsent hsame
    | restaged hcall hcharged _ _ hsends =>
      obtain ⟨rfl, rfl, rfl⟩ := hmoved hcall (hsends ▸ hsent)
      rw [hentered] at hcharged
      cases hcharged
  | attached => exact absurd hsent hsame
  | sent hcall =>
    obtain ⟨rfl, rfl, _⟩ := hmoved hcall hsent
    exact ⟨_, _, _, rfl, fun _ h => deliveredEntry_ne_enqueued h⟩
  | forwarding hcall =>
    obtain ⟨_, _, hstage⟩ := hmoved hcall hsent
    cases hstage
  | completed hcall hstage =>
    obtain ⟨rfl, rfl, _⟩ := hmoved hcall hsent
    rw [hentered] at hstage
    cases hstage
  | rolledBack hcall _ _ _ _ _ _ _ _ hsends =>
    obtain ⟨_, _, hstage⟩ := hmoved hcall (hsends ▸ hsent)
    cases hstage
  | delivered => exact absurd hsent hsame
  | took => exact absurd hsent hsame

theorem snapshotKept (e : Event) : SnapshotKept w e where
  copied := by
    rintro source routeID buffer delivery now ctxErr rfl
    exact ⟨_, rfl, rfl, rfl, rfl⟩
  frozen := fun _ _ h => (step_sessions w e).frozen h
  recorded := (step_sessions w e).recorded
  forwarded := fun _ _ _ hc hentered hsent => (step_sessions w e).forwarded hc hentered hsent

end Snapshot

section Receives

inductive ReceivesStep (w w' : System) : Prop
  | same (hreceives : w'.receives = w.receives)
      (htaken : takenEntries w'.history = takenEntries w.history)
  | entered {c : ReceiveCall} (hreceives : w'.receives = w.receives ++ [c])
      (hstage : c.stage = .checked ∨ c.stage = .failed .sessionClosed)
      (htaken : takenEntries w'.history = takenEntries w.history)
  | early {call : Nat} {c : ReceiveCall} {stage : ReceiveStage}
      (hcall : w.receives[call]? = some c)
      (hbefore : c.stage = .checked ∨ ∃ state, c.stage = .waiting state)
      (hstage : (∃ state, stage = .waiting state) ∨ ∃ err, stage = .failed err)
      (hreceives : w'.receives = w.receives.modify call fun c => { c with stage := stage })
      (htaken : takenEntries w'.history = takenEntries w.history)
  | took {call : Nat} {c : ReceiveCall} {state : SessionRef} {frame : Frame}
      (hcall : w.receives[call]? = some c) (hbefore : c.stage = .waiting state)
      (hreceives : w'.receives = w.receives.modify call fun c =>
        { c with stage := .took frame })
      (htaken : takenEntries w'.history =
        takenEntries w.history ++ [(c.handle, call, frame)])
  | finished {call : Nat} {c : ReceiveCall} {frame : Frame} {stage : ReceiveStage}
      (hcall : w.receives[call]? = some c) (hbefore : c.stage = .took frame)
      (hstage : stage = .returned frame ∨
        (w.hub.isClosed c.handle = true ∧ stage = .failed .sessionClosed))
      (hreceives : w'.receives = w.receives.modify call fun c => { c with stage := stage })
      (htaken : takenEntries w'.history = takenEntries w.history)

theorem receives_sendLocked (w : System) (call : Nat) (ctxErr : Option Err) :
    ReceivesStep w (w.sendLocked call ctxErr) := by
  unfold sendLocked
  split
  · exact .same rfl rfl
  · split
    · simp only
      split
      · exact .same rfl rfl
      · refine .same rfl ?_
        rw [record_history, takenEntries_append]
        simp only [setSend_history, settle_history]
        exact List.append_right_eq_self.mpr (takenEntries_deliveredEntry _ _ _)
      · exact .same rfl rfl
    · exact .same rfl rfl

theorem receives_sendCompleted (w : System) (call : Nat) :
    ReceivesStep w (w.sendCompleted call) := by
  unfold sendCompleted
  split
  · exact .same rfl rfl
  · split
    · simp only
      split
      · exact .same rfl rfl
      · refine .same rfl ?_
        rw [record_history, takenEntries_append]
        simp only [setSend_history, settle_history]
        exact List.append_right_eq_self.mpr (takenEntries_deliveredEntry _ _ _)
    · exact .same rfl rfl

theorem receives_forwardReturns (w : System) (call : Nat) (reply : ForwardReply) :
    ReceivesStep w (w.forwardReturns call reply) := by
  unfold forwardReturns
  split
  · exact .same rfl rfl
  · split
    · split
      · exact .same rfl rfl
      · exact .same rfl rfl
    · exact .same rfl rfl

theorem receives_deliverFromFederated (w : System) (ctxErr : Option Err) (routeID : RouteID)
    (payload : Bytes) (senderPeerID : PeerID) :
    ReceivesStep w (w.deliverFromFederated ctxErr routeID payload senderPeerID) := by
  unfold deliverFromFederated
  simp only
  split
  · exact .same rfl rfl
  · refine .same rfl ?_
    rw [record_history, takenEntries_append]
    exact List.append_nil _

theorem receives_receiveLookup (w : System) (call : Nat) :
    ReceivesStep w (w.receiveLookup call) := by
  unfold receiveLookup
  split
  · exact .same rfl rfl
  · rename_i c hcall
    split
    · rename_i hstage
      split
      · exact .early hcall (.inl hstage) (.inr ⟨_, rfl⟩) rfl rfl
      · exact .early hcall (.inl hstage) (.inl ⟨_, rfl⟩) rfl rfl
    · exact .same rfl rfl

theorem receives_receiveSelect (w : System) (call : Nat) (arm : SelectArm) :
    ReceivesStep w (w.receiveSelect call arm) := by
  unfold receiveSelect
  split
  · exact .same rfl rfl
  · rename_i c hcall
    split
    · rename_i state hstage
      split
      · exact .early hcall (.inr ⟨state, hstage⟩) (.inr ⟨_, rfl⟩) rfl rfl
      · split
        · exact .early hcall (.inr ⟨state, hstage⟩) (.inr ⟨_, rfl⟩) rfl rfl
        · exact .same rfl rfl
      · split
        · exact .same rfl rfl
        · refine .took hcall hstage rfl ?_
          rw [record_history, takenEntries_append]
          rfl
    · exact .same rfl rfl

theorem receives_receiveReturns (w : System) (call : Nat) :
    ReceivesStep w (w.receiveReturns call) := by
  unfold receiveReturns
  split
  · exact .same rfl rfl
  · rename_i c hcall
    split
    · rename_i frame hstage
      split
      · rename_i hclosed
        exact .finished hcall hstage (.inr ⟨hclosed, rfl⟩) rfl rfl
      · exact .finished hcall hstage (.inl rfl) rfl rfl
    · exact .same rfl rfl

theorem step_receives (w : System) (e : Event) : ReceivesStep w (w.step e) := by
  cases e with
  | write buffer bytes => exact .same rfl rfl
  | newForwarder object => exact .same rfl rfl
  | closeForwarder forwarder =>
    simp only [step, closeForwarder]
    split
    · exact .same rfl rfl
    · exact .same rfl rfl
  | tick now => exact .same rfl rfl
  | attach id =>
    simp only [step, attach]
    split
    · exact .same rfl rfl
    · exact .same rfl rfl
  | pair routeID left right => exact .same (by simp [step]) (by simp [step])
  | announceFederatedPresence peerID forwarder now => exact .same rfl rfl
  | announcePresence id peerID now => exact .same rfl rfl
  | heartbeat id now => exact .same rfl rfl
  | lookup peerID now => exact .same rfl rfl
  | lookupLocal peerID now => exact .same rfl rfl
  | rendezvous source routeID peerID now => exact .same (by simp [step]) (by simp [step])
  | sweepExpired now => exact .same rfl rfl
  | closeSession id => exact .same rfl rfl
  | closeHub => exact .same rfl rfl
  | deliverFromFederated ctxErr routeID payload senderPeerID =>
    exact receives_deliverFromFederated w ctxErr routeID payload senderPeerID
  | send source routeID buffer delivery now ctxErr => exact .same rfl rfl
  | sendLocked call ctxErr => exact receives_sendLocked w call ctxErr
  | forwardReturns call reply => exact receives_forwardReturns w call reply
  | sendCompleted call => exact receives_sendCompleted w call
  | receive handle =>
    simp only [step, receive]
    split
    · exact .same rfl rfl
    · refine .entered rfl ?_ rfl
      simp only
      split
      · exact .inr rfl
      · exact .inl rfl
  | receiveLookup call => exact receives_receiveLookup w call
  | receiveSelect call arm => exact receives_receiveSelect w call arm
  | receiveReturns call => exact receives_receiveReturns w call

variable {w w' : System}

theorem getElem?_restage {receives : List ReceiveCall} {call call' : Nat} {c : ReceiveCall}
    (stage : ReceiveStage) (h : receives[call']? = some c) :
    (receives.modify call fun c => { c with stage := stage })[call']? =
      some (if call = call' then { c with stage := stage } else c) := by
  rw [List.getElem?_modify, h]
  split
  · rfl
  · rfl

theorem not_taken_of_early (hr : w.ReceivedInOrder) {call : Nat} {c : ReceiveCall}
    (hcall : w.receives[call]? = some c)
    (hbefore : c.stage = .checked ∨ ∃ state, c.stage = .waiting state) (handle : SessionRef)
    (frame : Frame) : .taken handle call frame ∉ w.history := by
  intro htaken
  obtain ⟨c', hc', _, hstage⟩ := hr.taken handle call frame htaken
  rw [hcall] at hc'
  cases hc'
  rcases hbefore with hbefore | ⟨state, hbefore⟩
  all_goals
    rw [hbefore] at hstage
    rcases hstage with hstage | hstage | ⟨_, hstage⟩
    all_goals cases hstage

theorem step_once (hr : w.ReceivedInOrder) (hstep : ReceivesStep w w') :
    ((takenEntries w'.history).map fun t => t.2.1).Nodup := by
  cases hstep with
  | same _ htaken => exact htaken ▸ hr.once
  | entered _ _ htaken => exact htaken ▸ hr.once
  | early _ _ _ _ htaken => exact htaken ▸ hr.once
  | finished _ _ _ _ htaken => exact htaken ▸ hr.once
  | took hcall hbefore _ htaken =>
    rw [htaken, List.map_append, List.nodup_append]
    refine ⟨hr.once, List.nodup_singleton _, ?_⟩
    intro n hn m hm
    obtain ⟨⟨handle, call, frame⟩, hentry, rfl⟩ := List.mem_map.mp hn
    obtain rfl := List.mem_singleton.mp hm
    rintro rfl
    exact not_taken_of_early hr hcall (.inr ⟨_, hbefore⟩) handle frame
      (mem_takenEntries.mp hentry)

theorem step_taken (hr : w.ReceivedInOrder) (hstep : ReceivesStep w w')
    (hdone : ∀ ref, w.hub.isClosed ref = true → w'.hub.isClosed ref = true)
    {handle : SessionRef} {call : Nat} {frame : Frame}
    (h : .taken handle call frame ∈ w'.history) :
    ∃ c, w'.receives[call]? = some c ∧ c.handle = handle ∧
      (c.stage = .took frame ∨ c.stage = .returned frame ∨
        (w'.hub.isClosed handle = true ∧ c.stage = .failed .sessionClosed)) := by
  -- An entry that was there before belongs to a call that only another one can follow.
  have hold : .taken handle call frame ∈ w.history → ∃ c, w.receives[call]? = some c ∧
      c.handle = handle ∧ (c.stage = .took frame ∨ c.stage = .returned frame ∨
        (w'.hub.isClosed handle = true ∧ c.stage = .failed .sessionClosed)) := by
    intro htaken
    obtain ⟨c, hc, hhandle, hstage⟩ := hr.taken handle call frame htaken
    refine ⟨c, hc, hhandle, ?_⟩
    rcases hstage with hstage | hstage | ⟨hclosed, hstage⟩
    · exact .inl hstage
    · exact .inr (.inl hstage)
    · exact .inr (.inr ⟨hdone _ hclosed, hstage⟩)
  have hmem := mem_takenEntries.mpr h
  cases hstep with
  | same hreceives htaken =>
    rw [hreceives]
    exact hold (mem_takenEntries.mp (htaken ▸ hmem))
  | entered hreceives _ htaken =>
    obtain ⟨c, hc, hrest⟩ := hold (mem_takenEntries.mp (htaken ▸ hmem))
    refine ⟨c, ?_, hrest⟩
    rw [hreceives, List.getElem?_append_left (List.getElem?_eq_some_iff.mp hc).1]
    exact hc
  | @early call' c' stage hcall hbefore _ hreceives htaken =>
    have htakenOld := mem_takenEntries.mp (htaken ▸ hmem)
    obtain ⟨c, hc, hrest⟩ := hold htakenOld
    refine ⟨c, ?_, hrest⟩
    rw [hreceives, getElem?_restage stage hc, if_neg]
    rintro rfl
    exact not_taken_of_early hr hcall hbefore handle frame htakenOld
  | @took call' c' state frame' hcall hbefore hreceives htaken =>
    rw [htaken, List.mem_append, List.mem_singleton] at hmem
    rcases hmem with hmem | hmem
    · have htakenOld := mem_takenEntries.mp hmem
      obtain ⟨c, hc, hrest⟩ := hold htakenOld
      refine ⟨c, ?_, hrest⟩
      rw [hreceives, getElem?_restage _ hc, if_neg]
      rintro rfl
      exact not_taken_of_early hr hcall (.inr ⟨_, hbefore⟩) handle frame htakenOld
    · cases hmem
      refine ⟨{ c' with stage := .took frame }, ?_, rfl, .inl rfl⟩
      rw [hreceives, getElem?_restage _ hcall, if_pos rfl]
  | @finished call' c' frame' stage hcall hbefore hstage hreceives htaken =>
    obtain ⟨c, hc, hhandle, hrest⟩ := hold (mem_takenEntries.mp (htaken ▸ hmem))
    rw [hreceives, getElem?_restage _ hc]
    by_cases hsame : call' = call
    · subst hsame
      rw [hcall] at hc
      cases hc
      rw [hbefore] at hrest
      have hframe : frame' = frame := by
        rcases hrest with hrest | hrest | ⟨_, hrest⟩
        · exact ReceiveStage.took.inj hrest
        · cases hrest
        · cases hrest
      subst hframe
      refine ⟨{ c' with stage := stage }, by rw [if_pos rfl], hhandle, ?_⟩
      rcases hstage with rfl | ⟨hclosed, rfl⟩
      · exact .inr (.inl rfl)
      · exact .inr (.inr ⟨hdone _ (hhandle ▸ hclosed), rfl⟩)
    · exact ⟨c, by rw [if_neg hsame], hhandle, hrest⟩

theorem step_returned (hr : w.ReceivedInOrder) (hstep : ReceivesStep w w') {call : Nat}
    {c : ReceiveCall} {frame : Frame} (hc : w'.receives[call]? = some c)
    (h : c.stage = .took frame ∨ c.stage = .returned frame) :
    .taken c.handle call frame ∈ w'.history := by
  apply mem_takenEntries.mp
  have hold : ∀ {c₁ : ReceiveCall}, w.receives[call]? = some c₁ →
      c₁.stage = .took frame ∨ c₁.stage = .returned frame →
      (c₁.handle, call, frame) ∈ takenEntries w.history :=
    fun hc₁ h₁ => mem_takenEntries.mpr (hr.returned call _ frame hc₁ h₁)
  cases hstep with
  | same hreceives htaken =>
    rw [htaken]
    exact hold (hreceives ▸ hc) h
  | entered hreceives hstage htaken =>
    rw [htaken]
    rw [hreceives] at hc
    rcases Nat.lt_or_ge call w.receives.length with hlt | hge
    · rw [List.getElem?_append_left hlt] at hc
      exact hold hc h
    · rw [List.getElem?_append_right hge] at hc
      obtain rfl := List.mem_singleton.mp (List.mem_of_getElem? hc)
      rcases hstage with hstage | hstage
      all_goals
        rw [hstage] at h
        rcases h with h | h
        all_goals cases h
  | early hcall _ hstage hreceives htaken =>
    rw [htaken]
    rw [hreceives] at hc
    obtain ⟨c₁, hc₁, ⟨_, rfl⟩ | ⟨_, rfl⟩⟩ := of_getElem?_modify hc
    · rcases hstage with ⟨state, rfl⟩ | ⟨err, rfl⟩
      all_goals
        rcases h with h | h
        all_goals cases h
    · exact hold hc₁ h
  | took hcall _ hreceives htaken =>
    rw [htaken, List.mem_append, List.mem_singleton]
    rw [hreceives] at hc
    obtain ⟨c₁, hc₁, ⟨rfl, rfl⟩ | ⟨_, rfl⟩⟩ := of_getElem?_modify hc
    · rw [hcall] at hc₁
      cases hc₁
      rcases h with h | h
      · cases h
        exact .inr rfl
      · cases h
    · exact .inl (hold hc₁ h)
  | finished hcall hbefore hstage hreceives htaken =>
    rw [htaken]
    rw [hreceives] at hc
    obtain ⟨c₁, hc₁, ⟨rfl, rfl⟩ | ⟨_, rfl⟩⟩ := of_getElem?_modify hc
    · rw [hcall] at hc₁
      cases hc₁
      rcases hstage with rfl | ⟨_, rfl⟩
      · rcases h with h | h
        · cases h
        · cases h
          have hentry := hold hcall (.inl hbefore)
          exact hentry
      · rcases h with h | h
        all_goals cases h
    · exact hold hc₁ h

end Receives

section Inboxes

variable {w w' : System}

/-- What was put into an inbox and not taken is still in it, in order. -/
def InboxesOk (w : System) : Prop :=
  (∀ id s, w.hub.sessions.get? id = some s →
    s.inbox.Accounts (enqueuedFrames s.ref w.history) (takenFrames s.ref w.history)) ∧
  ∀ ref, takenFrames ref w.history <+: enqueuedFrames ref w.history

theorem inboxes_of_same (hr : w.ReceivedInOrder)
    (hsessions : ∀ id s', w'.hub.sessions.get? id = some s' →
      ∃ s, w.hub.sessions.get? id = some s ∧ s'.ref = s.ref ∧ s'.inbox = s.inbox)
    (henqueued : ∀ ref, enqueuedFrames ref w'.history = enqueuedFrames ref w.history)
    (htaken : takenEntries w'.history = takenEntries w.history) :
    w'.InboxesOk := by
  have htakenFrames : ∀ ref, takenFrames ref w'.history = takenFrames ref w.history := by
    intro ref
    rw [takenFrames, htaken, takenFrames]
  refine ⟨?_, ?_⟩
  · intro id s' h
    obtain ⟨s, hs, href, hinbox⟩ := hsessions id s' h
    rw [href, hinbox, henqueued, htakenFrames]
    exact hr.attached id s hs
  · intro ref
    rw [henqueued, htakenFrames]
    exact hr.any ref

variable {inbox : BoundedQueue Frame}

theorem inboxes_of_push (hi : w.hub.Invariant) (hr : w.ReceivedInOrder) {target : SessionID}
    {destination : SessionState} {frame : Frame}
    (hdestination : w.hub.sessions.get? target = some destination)
    (hpush : destination.inbox.push? frame = some inbox)
    (hsessions : ∀ id s', w'.hub.sessions.get? id = some s' →
      ∃ s, w.hub.sessions.get? id = some s ∧ s'.ref = s.ref ∧
        ((id = target ∧ s'.inbox = inbox) ∨ (id ≠ target ∧ s'.inbox = s.inbox)))
    (henqueued : ∀ ref, enqueuedFrames ref w'.history = enqueuedFrames ref w.history ++
      if destination.ref = ref then [frame] else [])
    (htaken : takenEntries w'.history = takenEntries w.history) :
    w'.InboxesOk := by
  have htakenFrames : ∀ ref, takenFrames ref w'.history = takenFrames ref w.history := by
    intro ref
    rw [takenFrames, htaken, takenFrames]
  refine ⟨?_, ?_⟩
  · intro id s' h
    obtain ⟨s, hs, href, ⟨rfl, hinbox⟩ | ⟨hne, hinbox⟩⟩ := hsessions id s' h
    · rw [hdestination] at hs
      cases hs
      rw [href, hinbox, henqueued, htakenFrames, if_pos rfl]
      exact (hr.attached id destination hdestination).push hpush
    · have hother : destination.ref ≠ s.ref := fun hsame =>
        hne (hi.ref_unique _ _ _ _ hs hdestination hsame.symm)
      rw [href, hinbox, henqueued, htakenFrames, if_neg hother, List.append_nil]
      exact hr.attached id s hs
  · intro ref
    rw [henqueued, htakenFrames]
    exact (hr.any ref).trans (List.prefix_append _ _)

/-- What the taking of a frame from a session leaves of the lists of its object. -/
structure TookFrom (w w' : System) (id : SessionID) (state : SessionState)
    (inbox : BoundedQueue Frame) (handle : SessionRef) (call : Nat) (frame : Frame) :
    Prop where
  found : w.hub.sessions.get? id = some state
  items : state.inbox.items = frame :: inbox.items
  sessions : w'.hub.sessions = w.hub.sessions.insert id { state with inbox := inbox }
  history : w'.history = w.history ++ [.taken handle call frame]

theorem TookFrom.enqueuedFrames {id : SessionID} {state : SessionState}
    {handle : SessionRef} {call : Nat} {frame : Frame}
    (h : TookFrom w w' id state inbox handle call frame) (ref : SessionRef) :
    enqueuedFrames ref w'.history = enqueuedFrames ref w.history := by
  rw [h.history, enqueuedFrames_append]
  exact List.append_nil _

theorem TookFrom.takenFrames {id : SessionID} {state : SessionState}
    {handle : SessionRef} {call : Nat} {frame : Frame}
    (h : TookFrom w w' id state inbox handle call frame) (ref : SessionRef) :
    takenFrames ref w'.history =
      takenFrames ref w.history ++ if handle = ref then [frame] else [] := by
  rw [h.history, takenFrames_append]
  congr 1
  by_cases hhandle : handle = ref
  · simp [System.takenFrames, takenEntries, hhandle]
  · simp [System.takenFrames, takenEntries, hhandle]

theorem TookFrom.inboxes {id : SessionID} {state : SessionState}
    {handle : SessionRef} {call : Nat} {frame : Frame}
    (h : TookFrom w w' id state inbox handle call frame) (hi : w.hub.Invariant)
    (hr : w.ReceivedInOrder) (hown : state.ref = handle) :
    w'.InboxesOk := by
  have hpopped : inbox.Accounts (System.enqueuedFrames state.ref w.history)
      (System.takenFrames state.ref w.history ++ [frame]) :=
    (BoundedQueue.accounts_pop_iff h.items).mpr (hr.attached id state h.found)
  refine ⟨?_, ?_⟩
  · intro id' s' hs'
    rw [h.enqueuedFrames, h.takenFrames]
    rw [h.sessions] at hs'
    rcases Table.get?_insert_eq_some hs' with ⟨_, rfl⟩ | ⟨hne, hs⟩
    · rw [if_pos hown.symm]
      exact hpopped
    · have hother : handle ≠ s'.ref := fun hsame =>
        hne (hi.ref_unique _ _ _ _ hs h.found (hsame.symm.trans hown.symm))
      rw [if_neg hother, List.append_nil]
      exact hr.attached id' s' hs
  · intro ref
    rw [h.enqueuedFrames, h.takenFrames]
    by_cases hhandle : handle = ref
    · subst hhandle
      rw [if_pos rfl, ← hown]
      exact hpopped.isPrefix
    · rw [if_neg hhandle, List.append_nil]
      exact hr.any ref

theorem step_inboxes (hi : w.Invariant) (hr : w.ReceivedInOrder) {e : Event}
    (hstep : SessionsStep w e w') (hguard : ReceiveGuard w e) :
    w'.InboxesOk := by
  cases hstep with
  | kept hkept _ hhistory =>
    refine inboxes_of_same hr ?_ (fun _ => by rw [hhistory]) (by rw [hhistory])
    intro id s' h
    obtain ⟨s, hs, heq, _⟩ := hkept.kept id s' h
    exact ⟨s, hs, by rw [heq], by rw [heq]⟩
  | attached id =>
    refine ⟨?_, hr.any⟩
    intro id' s' h
    rcases Table.get?_insert_eq_some h with ⟨_, rfl⟩ | ⟨_, hs⟩
    · obtain ⟨henqueued, htaken⟩ := frames_eq_nil w.hub.refs fun entry hentry =>
        Nat.ne_of_lt (hi.history entry hentry)
      simp only [henqueued, htaken]
      exact BoundedQueue.accounts_empty _
    · exact hr.attached id' s' hs
  | sent hcall hstage hadmits hdestination hpush =>
    refine inboxes_of_push hi.hub hr hdestination hpush ?_ ?_ ?_
    · intro id s' h
      obtain ⟨s, s₁, hs, htarget, hcase⟩ := settleLocal_eq_some h
      have hs₁ : s'.ref = s₁.ref ∧ s'.inbox = s₁.inbox := by
        rcases hcase with ⟨_, rfl⟩ | ⟨_, rfl⟩
        · exact ⟨by simp, by simp⟩
        · exact ⟨rfl, rfl⟩
      refine ⟨s, hs, ?_⟩
      rcases htarget with ⟨hid, rfl⟩ | ⟨hid, rfl⟩
      · exact ⟨hs₁.1, .inl ⟨hid, hs₁.2⟩⟩
      · exact ⟨hs₁.1, .inr ⟨hid, hs₁.2⟩⟩
    · intro ref
      rw [record_history, enqueuedFrames_append, enqueuedFrames_cons,
        enqueuedFrames_deliveredEntry, List.append_nil]
      rfl
    · rw [record_history, takenEntries_append]
      exact List.append_right_eq_self.mpr (takenEntries_deliveredEntry _ _ _)
  | forwarding _ _ hadmits =>
    refine inboxes_of_same hr ?_ (fun _ => rfl) rfl
    intro id s' h
    rcases Table.get?_insert_eq_some h with ⟨rfl, rfl⟩ | ⟨_, hs⟩
    · exact ⟨_, hadmits.session, rfl, rfl⟩
    · exact ⟨s', hs, rfl, rfl⟩
  | completed =>
    refine inboxes_of_same hr ?_ ?_ ?_
    · intro id s' h
      obtain ⟨s, hs, ⟨_, _, rfl⟩ | ⟨_, rfl⟩⟩ := rememberForwarded_eq_some h
      · exact ⟨s, hs, by simp, by simp⟩
      · exact ⟨_, hs, rfl, rfl⟩
    · intro ref
      rw [record_history, enqueuedFrames_append]
      exact List.append_right_eq_self.mpr (enqueuedFrames_deliveredEntry _ _ _ _)
    · rw [record_history, takenEntries_append]
      exact List.append_right_eq_self.mpr (takenEntries_deliveredEntry _ _ _)
  | rolledBack _ _ hsessions _ _ _ _ hhistory =>
    refine inboxes_of_same hr ?_ (fun _ => by rw [hhistory]) (by rw [hhistory])
    intro id s' h
    rw [hsessions] at h
    obtain ⟨s, hs, ⟨_, _, rfl⟩ | ⟨_, rfl⟩⟩ := rollbackUsageLocked_eq_some h
    · exact ⟨s, hs, rfl, rfl⟩
    · exact ⟨_, hs, rfl, rfl⟩
  | delivered hdestination hpush =>
    refine inboxes_of_push hi.hub hr hdestination hpush ?_ ?_ ?_
    · intro id s' h
      rcases Table.get?_insert_eq_some h with ⟨rfl, rfl⟩ | ⟨hne, hs⟩
      · exact ⟨_, hdestination, rfl, .inl ⟨rfl, rfl⟩⟩
      · exact ⟨s', hs, rfl, .inr ⟨hne, rfl⟩⟩
    · intro ref
      rw [record_history, enqueuedFrames_append, enqueuedFrames_cons]
      exact congrArg _ (List.append_nil _)
    · rw [record_history, takenEntries_append]
      exact List.append_nil _
  | took hcall hstage hstate hitems _ hevent =>
    refine TookFrom.inboxes ⟨hstate, hitems, rfl, rfl⟩ hi.hub hr ?_
    exact hguard _ _ _ _ hevent hcall hstage hstate rfl (by rw [hitems]; simp)

end Inboxes

theorem SessionsStep.closed {w w' : System} {e : Event} (hstep : SessionsStep w e w')
    {ref : SessionRef} (h : w.hub.isClosed ref = true) : w'.hub.isClosed ref = true := by
  have hmem := List.contains_iff_mem.mp h
  apply List.contains_iff_mem.mpr
  cases hstep with
  | kept hkept => exact hkept.done ref hmem
  | attached => exact hmem
  | sent => exact hmem
  | forwarding => exact hmem
  | completed =>
    change ref ∈ (w.hub.rememberForwarded _).done
    rw [(rememberForwarded_frame w.hub _).2.2]
    exact hmem
  | rolledBack _ _ _ _ _ hdone => exact hdone ▸ hmem
  | delivered => exact hmem
  | took => exact hmem

theorem SessionsStep.unreached {w w' : System} {e : Event} (hstep : SessionsStep w e w')
    {ref : SessionRef} (hgone : ∀ id s, w.hub.sessions.get? id = some s → s.ref ≠ ref) :
    enqueuedFrames ref w'.history = enqueuedFrames ref w.history := by
  cases hstep with
  | kept _ _ hhistory => rw [hhistory]
  | attached => rfl
  | sent _ _ _ hdestination =>
    rw [record_history, enqueuedFrames_append, enqueuedFrames_cons, enqueuedFrames_deliveredEntry,
      if_neg (hgone _ _ hdestination)]
    exact List.append_nil _
  | forwarding => rfl
  | completed =>
    rw [record_history, enqueuedFrames_append]
    exact List.append_right_eq_self.mpr (enqueuedFrames_deliveredEntry _ _ _ _)
  | rolledBack _ _ _ _ _ _ _ hhistory => rw [hhistory]
  | delivered hdestination =>
    rw [record_history, enqueuedFrames_append, enqueuedFrames_cons,
      if_neg (hgone _ _ hdestination)]
    exact List.append_nil _
  | took =>
    rw [record_history, enqueuedFrames_append]
    exact List.append_nil _

theorem step_received {w : System} (hi : w.Invariant) (hr : w.ReceivedInOrder) {e : Event}
    (hguard : ReceiveGuard w e) : (w.step e).ReceivedInOrder := by
  have hsessions := step_sessions w e
  have hreceives := step_receives w e
  obtain ⟨hattached, hany⟩ := step_inboxes hi hr hsessions hguard
  exact ⟨hattached, hany, step_once hr hreceives,
    fun _ _ _ => step_taken hr hreceives fun _ => hsessions.closed,
    fun _ _ _ hc h => step_returned hr hreceives hc h⟩

theorem receiveSelect_took {w : System} {call : Nat} {c : ReceiveCall} {state : SessionRef}
    {s : SessionState} (hcall : w.receives[call]? = some c)
    (hstage : c.stage = .waiting state) (hs : w.hub.sessions.get? c.sessionID = some s)
    (href : s.ref = state) (hitems : s.inbox.items ≠ []) :
    ∃ frame inbox, TookFrom w (w.step (.receiveSelect call .inbox)) c.sessionID s inbox
      c.handle call frame := by
  obtain ⟨⟨frame, inbox⟩, hpop⟩ : ∃ popped, s.inbox.pop? = some popped := by
    apply Option.ne_none_iff_exists'.mp
    intro hnone
    exact hitems (BoundedQueue.pop?_eq_none hnone)
  have htake : w.hub.takeFrame c.sessionID state = some (frame,
      { w.hub with
        sessions := w.hub.sessions.insert c.sessionID { s with inbox := inbox } }) := by
    simp [Hub.takeFrame, hs, href, hpop]
  refine ⟨frame, inbox, hs, (BoundedQueue.pop?_eq_some hpop).2, ?_, ?_⟩
  · simp only [step, receiveSelect, hcall, hstage, htake]
    rfl
  · simp only [step, receiveSelect, hcall, hstage, htake]
    rfl

theorem framesKept_iff {w : System} (hi : w.Invariant) (hr : w.ReceivedInOrder) (e : Event) :
    FramesKept w e ↔ ReceiveGuard w e := by
  constructor
  · rintro ⟨hr', _⟩ call c state s rfl hcall hstage hs href hitems
    by_contra hother
    obtain ⟨frame, inbox, htook⟩ := receiveSelect_took hcall hstage hs href hitems
    have haccounts := hr'.attached c.sessionID { s with inbox := inbox } (by
      rw [htook.sessions, Table.get?_insert_self])
    -- The frame has left the inbox, and no call of the session has taken it.
    have hne : c.handle ≠ s.ref := fun h => hother (href.symm.trans h.symm)
    rw [htook.enqueuedFrames, htook.takenFrames, if_neg hne, List.append_nil] at haccounts
    exact BoundedQueue.not_accounts_pop (hr.attached _ s hs) htook.items haccounts
  · intro hguard
    exact ⟨step_received hi hr hguard, snapshotKept e⟩

/-- In a run, every session's receive calls return what was forwarded to it, in order,
exactly when no call takes a frame out of the inbox of another session. -/
theorem frames_kept_iff (config : ValidConfig) (events : List Event) :
    Trace.Meets step FramesKept (start config) events ↔
      Trace.Meets step ReceiveGuard (start config) events :=
  Trace.meets_congr_of_meets (P := fun w => w.Invariant ∧ w.ReceivedInOrder)
    (fun _ e hi hguard => ⟨step_invariant hi.1 e, step_received hi.1 hi.2 hguard⟩)
    (fun _ e hi => framesKept_iff hi.1 hi.2 e)
    ⟨invariant_start config, receivedInOrder_start config⟩ events

/-- Session b is closed and attached again between the two looks that a receive call
takes at it. -/
def strayRun : List Event :=
  [.attach "a", .attach "b", .receive 1, .closeSession "b", .attach "b", .pair "r" "a" "b",
    .receiveLookup 0, .send "a" "r" 0 none 0 none, .sendLocked 0 none]

/-- The call takes the frame of the new session and returns an error. -/
theorem stray_receive_takes_frame :
    ¬∀ (config : ValidConfig) (events : List Event),
      Trace.Meets step FramesKept (start config) events := by
  intro h
  have hrun := h defaultValidConfig (strayRun ++ [.receiveSelect 0 .inbox])
  have hlast := ((Trace.meets_snoc _ _ _ _ _).mp hrun).2.1
  have hinbox : (((after defaultValidConfig strayRun).step
      (.receiveSelect 0 .inbox)).hub.sessions.get? "b").map
        (fun s => (s.ref, s.inbox.items)) = some (2, []) := by
    decide
  obtain ⟨s, hs, heq⟩ := Option.map_eq_some_iff.mp hinbox
  obtain ⟨href, hitems⟩ := Prod.mk.inj heq
  have haccounts := hlast.attached "b" s hs
  rw [BoundedQueue.Accounts, href, hitems] at haccounts
  exact absurd haccounts (by decide)

/-- The session is open behind this end, and has announced the peer that the end names. -/
def Stands (hub : Hub) (endpoint : RouteEndpoint) (now : Time) (state : SessionState) : Prop :=
  hub.sessions.get? endpoint.sessionID = some state ∧ hub.isClosed state.ref = false ∧
    (endpoint.peerID = "" ∨ ∃ entry, hub.presence.get? endpoint.peerID = some entry ∧
      entry.sessionID = endpoint.sessionID ∧ now < entry.expiresAt ∧
      state.peerID = endpoint.peerID)

/-- A frame that the event puts into an inbox for a send call went from one end of a filed route
to the other, and both ends stand at the time of the call. -/
def Isolated (w : System) (e : Event) : Prop :=
  ∃ entries, (w.step e).history = w.history ++ entries ∧
    ∀ ref frame call, .enqueued ref frame (.send call) ∈ entries →
      ∃ c route sender receiver target source, w.sends[call]? = some c ∧
        w.hub.routes.get? c.routeID = some route ∧
        ((source, target) = (route.left, route.right) ∨
          (source, target) = (route.right, route.left)) ∧
        source.sessionID = c.source ∧ receiver.ref = ref ∧
        frame = ⟨c.routeID, sender.peerID, c.payload⟩ ∧
        Stands w.hub source c.now sender ∧ Stands w.hub target c.now receiver

theorem ends_of_peer {route : RouteState} {id : SessionID} {target : RouteEndpoint}
    (h : route.peer id = some target) :
    ∃ source : RouteEndpoint, source.sessionID = id ∧
      ((source, target) = (route.left, route.right) ∨
        (source, target) = (route.right, route.left)) := by
  unfold RouteState.peer at h
  split at h
  · rename_i hleft
    cases h
    exact ⟨route.left, hleft.symm, .inl rfl⟩
  · split at h
    · rename_i hright
      cases h
      exact ⟨route.right, hright.symm, .inr rfl⟩
    · cases h

theorem stands_of_live {hub : Hub} (hi : hub.Invariant) {endpoint : RouteEndpoint} {now : Time}
    {state : SessionState} (hstate : hub.sessions.get? endpoint.sessionID = some state)
    (hlive : hub.endpointLiveLocked endpoint now = true) : Stands hub endpoint now state := by
  have hlocal : endpoint.sessionID ≠ "" := (hi.session _ _ hstate).id_ne
  obtain ⟨state', hstate', hstands⟩ := (Hub.endpointLiveLocked_local_iff hlocal).mp hlive
  cases hstate.symm.trans hstate'
  exact ⟨hstate, hstands⟩

/-- No run puts a frame of a send call into the inbox of a session off the call's route. -/
theorem runs_isolated (config : ValidConfig) (events : List Event) :
    Trace.Meets step Isolated (start config) events := by
  apply (Trace.meets_iff_prefixes _ _ _ _).mpr
  intro xs e ys _
  have hi : (Trace.run step (start config) xs).hub.Invariant := invariant_after config xs
  obtain ⟨entries, hhistory, hentries⟩ := (step_sessions _ e).enqueued
  refine ⟨entries, hhistory, fun ref frame call hmem => ?_⟩
  obtain ⟨c, sender, target, receiver, _, hc, _, hadmits, hreceiver, href, _, hframe, _⟩ :=
    hentries ref frame call hmem
  obtain ⟨route, hroute, hpeer, hlive⟩ := hadmits.route
  obtain ⟨source, hsource, hends⟩ := ends_of_peer hpeer
  have hsender := hadmits.session
  rw [← hsource] at hsender
  rw [Hub.routeLiveLocked, Bool.and_eq_true] at hlive
  have hboth : (Trace.run step (start config) xs).hub.endpointLiveLocked source c.now = true ∧
      (Trace.run step (start config) xs).hub.endpointLiveLocked target c.now = true := by
    rcases hends with h | h
    · cases h
      exact hlive
    · cases h
      exact hlive.symm
  exact ⟨c, route, sender, receiver, target, source, hc, hroute, hends, hsource, href, hframe,
    stands_of_live hi hsender hboth.1, stands_of_live hi hreceiver hboth.2⟩

/-- The sessions that are closed stay so, and nothing is put into their inboxes. -/
def Silenced (w : System) (e : Event) : Prop :=
  ∀ ref, w.hub.isClosed ref = true → (w.step e).hub.isClosed ref = true ∧
    enqueuedFrames ref (w.step e).history = enqueuedFrames ref w.history

theorem closed_sessions_silenced (config : ValidConfig) (events : List Event) :
    Trace.Meets step Silenced (start config) events := by
  apply (Trace.meets_iff_prefixes _ _ _ _).mpr
  intro xs e ys _ ref hclosed
  have hi : (Trace.run step (start config) xs).hub.Invariant := invariant_after config xs
  have hstep := step_sessions (Trace.run step (start config) xs) e
  refine ⟨hstep.closed hclosed, hstep.unreached fun id s hs href => ?_⟩
  have hopen := (hi.session id s hs).not_done
  rw [href, hclosed] at hopen
  cases hopen

end System

end Branch.Relay
