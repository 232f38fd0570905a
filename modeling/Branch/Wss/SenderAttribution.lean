import Branch.Relay.Inbox
import Branch.Wss.FederationBridge

/-!
The sender that an envelope names when the writer of an attachment passes it on. The relay fills
in the peer id that the sending attachment has announced, if it has announced one.
-/

namespace Branch.Wss

open Branch.Lib
open Branch.Relay

/-- The sender that a frame names once it is written. -/
def writtenSender (frame : Frame) : Option PeerID :=
  match deliveryPayload frame with
  | .error _ => none
  | .ok payload => some (senderPeerIDFromFrame payload)

theorem ofName_eq_envelope {name : String}
    (h : Protocol.RelayFrameType.ofName name = some .envelope) : name = "ENVELOPE" := by
  unfold Protocol.RelayFrameType.ofName at h
  split at h
  case h_14 => rfl
  all_goals cases h

theorem writtenSender_envelope (envelope : EnvelopeText) (routeID : RouteID)
    (senderPeerID : PeerID) :
    writtenSender ⟨routeID, senderPeerID, envelope.raw⟩ =
      some (if senderPeerID = "" then senderPeerIDFromFrame envelope.raw else senderPeerID) := by
  by_cases hsender : senderPeerID = ""
  · rw [writtenSender, deliveryPayload, if_pos hsender, if_pos hsender]
  · obtain ⟨name, hname, henvelope⟩ := Option.bind_eq_some_iff.mp envelope.type_eq
    have htype : asString (envelope.frame.get? "type") = some "ENVELOPE" :=
      ofName_eq_envelope henvelope ▸ hname
    have hflat := (flat_envelope envelope.decoded envelope.type_eq).insert "sender_peer_id"
      (.string senderPeerID)
    rw [writtenSender, deliveryPayload, if_neg hsender, if_neg hsender]
    simp only [envelope.unmarshal, htype, ne_eq, not_true_eq_false, if_false]
    rw [senderPeerIDFromFrame, Json.unmarshal_marshal hflat.canonical, Option.bind_some,
      Fields.get?_insert_self]
    rfl

/-- `authenticated` is the peer id with which an attachment has passed the handshake. -/
def Served (authenticated : SessionRef → PeerID) (w : System) (e : Event) : Prop :=
  ∀ id peerID state, e.Announces id peerID → w.hub.sessions.get? id = some state →
    peerID = authenticated state.ref

/-- Every envelope that is put into the inbox of an attachment at this event by a send is written
with the peer id that its sender has authenticated. -/
def Attributed (authenticated : SessionRef → PeerID) (w : System) (e : Event) : Prop :=
  ∀ destination routeID senderPeerID (envelope : EnvelopeText) call,
    .enqueued destination ⟨routeID, senderPeerID, envelope.raw⟩ (.send call) ∈
      (w.step e).history.drop w.history.length →
    ∃ c ref, (w.step e).sends[call]? = some c ∧ c.stage = .sent ref ∧
      writtenSender ⟨routeID, senderPeerID, envelope.raw⟩ = some (authenticated ref)

/-- The call takes the lock at this event, passes all checks, and its frame fits into the inbox at
the other end of a local route. -/
structure Delivers (w : System) (e : Event) (call : Nat) (c : SendCall) (state : SessionState) :
    Prop where
  event : e = .sendLocked call none
  call : w.sends[call]? = some c
  entered : c.stage = .entered
  admitted : ∃ target destination,
    w.hub.Admits c.source c.routeID c.payload c.now c.delivery state target ∧
      w.hub.sessions.get? target.sessionID = some destination ∧
      (destination.inbox.push? ⟨c.routeID, state.peerID, c.payload⟩).isSome

/-- An envelope of an attachment that has not announced itself names its sender by itself. -/
def NamesItself (authenticated : SessionRef → PeerID) (w : System) (e : Event) : Prop :=
  ∀ call c state (envelope : EnvelopeText), Delivers w e call c state →
    c.payload = envelope.raw → state.peerID = "" →
    senderPeerIDFromFrame c.payload = authenticated state.ref

variable {authenticated : SessionRef → PeerID} {w : System} {e : Event}

def Recorded (authenticated : SessionRef → PeerID) (w : System) : Prop :=
  ∀ id s, w.hub.sessions.get? id = some s → s.peerID = "" ∨ s.peerID = authenticated s.ref

theorem Recorded.of_same {w' : System} (h : Recorded authenticated w)
    (hsame : ∀ id s', w'.hub.sessions.get? id = some s' →
      ∃ s, w.hub.sessions.get? id = some s ∧ s'.ref = s.ref ∧ s'.peerID = s.peerID) :
    Recorded authenticated w' := by
  intro id s' hs'
  obtain ⟨s, hs, href, hpeer⟩ := hsame id s' hs'
  rw [href, hpeer]
  exact h id s hs

theorem Recorded.insert {w' : System} {id : SessionID} {state state' : SessionState}
    (h : Recorded authenticated w) (hstate : w.hub.sessions.get? id = some state)
    (hsessions : w'.hub.sessions = w.hub.sessions.insert id state') (href : state'.ref = state.ref)
    (hpeer : state'.peerID = state.peerID) : Recorded authenticated w' := by
  refine h.of_same fun id' s' hs' => ?_
  rw [hsessions] at hs'
  rcases Table.get?_insert_eq_some hs' with ⟨rfl, rfl⟩ | ⟨_, hs⟩
  · exact ⟨state, hstate, href, hpeer⟩
  · exact ⟨s', hs, rfl, rfl⟩

theorem step_recorded (h : Recorded authenticated w) (hserved : Served authenticated w e) :
    Recorded authenticated (w.step e) := by
  have hstep := System.step_sessions w e
  generalize w.step e = w' at hstep ⊢
  cases hstep with
  | kept hkept =>
    intro id s' hs'
    obtain ⟨s, hs, heq, hpeer | hannounces⟩ := hkept.kept id s' hs'
    · rw [heq, hpeer]
      exact h id s hs
    · rw [heq]
      exact .inr (hserved id _ s hannounces hs)
  | attached id =>
    intro id' s' hs'
    rcases Table.get?_insert_eq_some hs' with ⟨_, rfl⟩ | ⟨_, hs⟩
    · exact .inl rfl
    · exact h id' s' hs
  | sent =>
    refine h.of_same fun id s' hs' => ?_
    obtain ⟨s, s₁, hs, htarget, hsource⟩ := System.settleLocal_eq_some hs'
    refine ⟨s, hs, ?_⟩
    rcases htarget with ⟨_, rfl⟩ | ⟨_, rfl⟩ <;> rcases hsource with ⟨_, rfl⟩ | ⟨_, rfl⟩ <;>
      simp [SessionState.charge]
  | forwarding _ _ hadmits => exact h.insert hadmits.session rfl rfl rfl
  | completed =>
    refine h.of_same fun id s' hs' => ?_
    obtain ⟨s, hs, ⟨_, _, rfl⟩ | ⟨_, rfl⟩⟩ := System.rememberForwarded_eq_some hs'
    · exact ⟨s, hs, by simp, by simp⟩
    · exact ⟨s', hs, rfl, rfl⟩
  | rolledBack _ _ hsessions =>
    refine h.of_same fun id s' hs' => ?_
    rw [hsessions] at hs'
    obtain ⟨s, hs, ⟨_, _, rfl⟩ | ⟨_, rfl⟩⟩ := System.rollbackUsageLocked_eq_some hs'
    · exact ⟨s, hs, rfl, rfl⟩
    · exact ⟨s', hs, rfl, rfl⟩
  | delivered hdestination => exact h.insert hdestination rfl rfl rfl
  | took _ _ hstate => exact h.insert hstate rfl rfl rfl

theorem Delivers.history (hi : w.hub.Invariant) {call : Nat} {c : SendCall} {state : SessionState}
    (h : Delivers w e call c state) :
    ∃ destination rest,
      (w.step e).history = w.history ++
        .enqueued destination ⟨c.routeID, state.peerID, c.payload⟩ (.send call) :: rest ∧
      (w.step e).sends[call]? = some { c with stage := .sent state.ref } := by
  obtain ⟨target, destination, hadmits, hdestination, hpush⟩ := h.admitted
  obtain ⟨inbox, hpush⟩ := Option.isSome_iff_exists.mp hpush
  have hok := hi.session _ _ hdestination
  have hvalue := hadmits.enqueued hok.id_ne hdestination hok.not_done hpush
  rw [h.event]
  simp only [System.step, System.sendLocked, h.call, h.entered, hvalue]
  exact ⟨_, _, rfl, System.getElem?_setSend h.call _⟩

theorem attributed_iff (hi : w.hub.Invariant) (hrecorded : Recorded authenticated w) :
    Attributed authenticated w e ↔ NamesItself authenticated w e := by
  constructor
  · intro h call c state envelope hdelivers hpayload hsilent
    obtain ⟨destination, rest, hhistory, hsent⟩ := hdelivers.history hi
    obtain ⟨c', ref, hc', hstage, hsender⟩ := h destination c.routeID state.peerID envelope call
      (by rw [hhistory, List.drop_left, hpayload]; exact List.mem_cons_self)
    obtain rfl := Option.some.inj (hsent.symm.trans hc')
    obtain rfl := SendStage.sent.inj hstage
    rw [writtenSender_envelope, if_pos hsilent] at hsender
    rw [hpayload]
    exact Option.some.inj hsender
  · intro h destination routeID senderPeerID envelope call hmem
    obtain ⟨entries, hhistory, hentries⟩ := (System.step_sessions w e).enqueued
    rw [hhistory, List.drop_left] at hmem
    obtain ⟨c, state, target, d, hevent, hc, hstage, hadmits, hd, _, hpush, hframe, hsent⟩ :=
      hentries _ _ _ hmem
    obtain ⟨rfl, rfl, hpayload⟩ := Frame.mk.inj hframe
    refine ⟨_, _, hsent, rfl, ?_⟩
    rw [writtenSender_envelope]
    split
    · rename_i hsilent
      rw [hpayload] at hpush ⊢
      rw [h call c state envelope ⟨hevent, hc, hstage, target, d, hadmits, hd, hpush⟩ hpayload.symm
        hsilent]
    · rename_i hannounced
      rw [(hrecorded _ _ hadmits.session).resolve_left hannounced]

/-- In a run whose attachments announce nothing but what they authenticated, every envelope is
written with the peer id of its sender if and only if those that have not announced themselves put
it into their envelopes. -/
theorem envelopes_attributed_iff (authenticated : SessionRef → PeerID) (config : ValidConfig)
    (events : List Event)
    (hserved : Trace.Meets System.step (Served authenticated) (System.start config) events) :
    Trace.Meets System.step (Attributed authenticated) (System.start config) events ↔
      Trace.Meets System.step (NamesItself authenticated) (System.start config) events := by
  have hiff : Trace.Meets System.step
      (fun w e => Served authenticated w e ∧ Attributed authenticated w e) (System.start config)
        events ↔
      Trace.Meets System.step
        (fun w e => Served authenticated w e ∧ NamesItself authenticated w e)
          (System.start config) events :=
    Trace.meets_congr_of_meets (P := fun w => w.Invariant ∧ Recorded authenticated w)
      (fun _ e hi h => ⟨System.step_invariant hi.1 e, step_recorded hi.2 h.1⟩)
      (fun _ _ hi => and_congr_right fun _ => attributed_iff hi.1.hub hi.2)
      ⟨System.invariant_start config, fun _ _ h => by simp [System.start, Hub.start] at h⟩ events
  simpa [Trace.meets_and, hserved] using hiff

section Silent

def aliceID : PeerID := SequenceLog.zeroID
def bobID : PeerID := "AQAAAAAAAAAAAAAAAAAAAAAAAAAAAAAAAAAAAAAAAAA"
def carolID : PeerID := "AgAAAAAAAAAAAAAAAAAAAAAAAAAAAAAAAAAAAAAAAAA"

def sampleIDs (ref : SessionRef) : PeerID := if ref = 0 then aliceID else bobID

def forgedFrame : TypedFrame := sampleEnvelope.frame.insert "sender_peer_id" (.string carolID)

def forgedEnvelope : EnvelopeText where
  raw := Json.marshal forgedFrame
  frame := forgedFrame
  decoded := by
    have hflat := flat_envelope sampleEnvelope.decoded sampleEnvelope.type_eq
    have hdecode : Protocol.decodeDraftRelayAttachmentFrame (Json.marshal forgedFrame) =
        .ok .envelope := by
      decide +kernel
    exact decodeTypedFrame_marshal (hflat.insert "sender_peer_id" (.string carolID)).canonical
      hdecode
  type_eq := by
    rw [forgedFrame, frameType, Fields.get?_insert, if_neg (by decide)]
    exact sampleEnvelope.type_eq

def forgedDelivery : Delivery :=
  { SubmittedEnvelope.onOldRoute.delivery with
    digest := Sha256.sum256 (Json.marshal forgedFrame) }

/-- Alice asks for a route to Bob and sends him an envelope without announcing herself. -/
def silentRun : List Event :=
  [.attach SequenceLog.zeroID, .attach "bob", .announcePresence "bob" bobID 0,
    .rendezvous SequenceLog.zeroID SubmittedEnvelope.oldRoute bobID 0,
    .write 0 forgedEnvelope.raw,
    .send SequenceLog.zeroID SubmittedEnvelope.oldRoute 0 (some forgedDelivery) 0 none,
    .sendLocked 0 none]

theorem served_silentRun :
    Trace.Meets System.step (Served sampleIDs) (System.start defaultValidConfig) silentRun := by
  refine ⟨nofun, nofun, ?_, nofun, nofun, nofun, nofun, trivial⟩
  rintro id peerID state ⟨rfl, rfl⟩ hstate
  have href : ((System.after defaultValidConfig (silentRun.take 2)).hub.sessions.get? "bob").map
      SessionState.ref = some 1 := by decide
  obtain ⟨state', hstate', href⟩ := Option.map_eq_some_iff.mp href
  obtain rfl := Option.some.inj (hstate'.symm.trans hstate)
  rw [href]
  rfl

theorem silentRun_attributed_iff :
    Trace.Meets System.step (Attributed sampleIDs) (System.start defaultValidConfig) silentRun ↔
      Trace.Meets System.step (NamesItself sampleIDs) (System.start defaultValidConfig)
        silentRun :=
  envelopes_attributed_iff sampleIDs defaultValidConfig silentRun served_silentRun

end Silent

end Branch.Wss
