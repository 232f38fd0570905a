import Branch.Wss.FederationBridge

/-!
Which frame the response of a bridge answers. Responses carry no mark of their request, so that
all depends on at most one envelope being under way.
-/

namespace Branch.Wss

open Branch.Lib
open Branch.Protocol (RelayFrameType)
open Branch.Relay (Bytes Delivery Err Hub PeerID RouteID SessionID SessionState Time)

section Frames

variable {frame : TypedFrame}

theorem frameType_insert {name : String} {v : Json} (h : "type" ≠ name) :
    frameType (frame.insert name v) = frameType frame := by
  rw [frameType, Fields.get?_insert, if_neg h, frameType]

theorem flat_lookupFrame (sessionID : SessionID) (peerID : PeerID) :
    Flat (lookupFrame sessionID peerID) := by
  refine flat_ofList fun entry hmem => ?_
  simp only [List.mem_cons, List.not_mem_nil, or_false] at hmem
  rcases hmem with rfl | rfl | rfl | rfl
  all_goals first
    | exact .string _
    | exact .number rfl (by decide)

theorem flat_rendezvousFrame (sessionID : SessionID) (routeID : RouteID) (peerID : PeerID) :
    Flat (rendezvousFrame sessionID routeID peerID) := by
  refine flat_ofList fun entry hmem => ?_
  simp only [List.mem_cons, List.not_mem_nil, or_false] at hmem
  rcases hmem with rfl | rfl | rfl | rfl | rfl
  all_goals first
    | exact .string _
    | exact .number rfl (by decide)

theorem flat_ackFrame (sessionID deliveryID ackType : String) :
    Flat (ackFrame sessionID deliveryID ackType) := by
  refine flat_ofList fun entry hmem => ?_
  simp only [List.mem_cons, List.not_mem_nil, or_false] at hmem
  rcases hmem with rfl | rfl | rfl | rfl | rfl
  all_goals first
    | exact .string _
    | exact .bool _

theorem flat_errorFrame (code : String) : Flat (errorFrame code) := by
  refine flat_ofList fun entry hmem => ?_
  simp only [List.mem_cons, List.not_mem_nil, or_false] at hmem
  rcases hmem with rfl | rfl | rfl | rfl
  all_goals first
    | exact .string _
    | exact .bool _

theorem frameType_lookupFrame (sessionID : SessionID) (peerID : PeerID) :
    frameType (lookupFrame sessionID peerID) = some .lookup := by
  have htype : (lookupFrame sessionID peerID).get? "type" = some (.string "LOOKUP") := by
    simp [lookupFrame, Fields.ofList, Fields.get?_insert]
  rw [frameType, htype]
  rfl

theorem frameType_rendezvousFrame (sessionID : SessionID) (routeID : RouteID) (peerID : PeerID) :
    frameType (rendezvousFrame sessionID routeID peerID) = some .rendezvous := by
  have htype : (rendezvousFrame sessionID routeID peerID).get? "type" =
      some (.string "RENDEZVOUS") := by
    simp [rendezvousFrame, Fields.ofList, Fields.get?_insert]
  rw [frameType, htype]
  rfl

theorem frameType_errorFrame (code : String) : frameType (errorFrame code) = some .error := by
  have htype : (errorFrame code).get? "type" = some (.string "ERROR") := by
    simp [errorFrame, Fields.ofList, Fields.get?_insert]
  rw [frameType, htype]
  rfl

theorem ackType_ackFrame (sessionID deliveryID ackType : String) :
    (ackFrame sessionID deliveryID ackType).get? "ack_type" = some (.string ackType) := by
  simp [ackFrame, Fields.ofList, Fields.get?_insert]

theorem frameType_of_isAck {ackType : String} (h : isAck ackType frame = true) :
    frameType frame = some .ack ∧ asString (frame.get? "ack_type") = some ackType := by
  unfold isAck at h
  split at h
  · simp only [Bool.and_eq_true, decide_eq_true_eq] at h
    exact h.1
  · cases h

variable {envelope : EnvelopeText}

theorem flat_forwardedFrame (sessionID : SessionID) (envelope : EnvelopeText) (routeID : RouteID)
    (senderPeerID : PeerID) :
    Flat (forwardedFrame sessionID envelope.frame routeID senderPeerID) := by
  have hflat := flat_envelope envelope.decoded envelope.type_eq
  have hrewritten := ((hflat.insert "session_id" (.string sessionID)).insert "route_id"
    (.string routeID)).insert "ack_requested" (.bool true)
  unfold forwardedFrame
  split
  · exact hrewritten
  · exact hrewritten.insert "sender_peer_id" (.string senderPeerID)

theorem frameType_forwardedFrame (sessionID : SessionID) (routeID : RouteID)
    (senderPeerID : PeerID) :
    frameType (forwardedFrame sessionID frame routeID senderPeerID) = frameType frame := by
  unfold forwardedFrame
  split
  · simp [frameType_insert]
  · simp [frameType_insert]

theorem deliveryID_forwardedFrame (sessionID : SessionID) (routeID : RouteID)
    (senderPeerID : PeerID) :
    (forwardedFrame sessionID frame routeID senderPeerID).get? "delivery_id" =
      frame.get? "delivery_id" := by
  unfold forwardedFrame
  split
  · simp [Fields.get?_insert]
  · simp [Fields.get?_insert]

theorem frameType_deliveryPayload {senderPeerID : PeerID} {payload : Bytes}
    (h : deliveryPayload ⟨"", senderPeerID, envelope.raw⟩ = .ok payload)
    (hdecode : decodeTypedFrame payload = .ok frame) : frameType frame = some .envelope := by
  unfold deliveryPayload at h
  split at h
  · cases h
    obtain rfl := Except.ok.inj (envelope.decoded.symm.trans hdecode)
    exact envelope.type_eq
  split at h
  · cases h
  rename_i object hobject
  have hsame : object = envelope.frame := Option.some.inj (hobject.symm.trans envelope.unmarshal)
  subst hsame
  split at h
  · cases h
    obtain rfl := Except.ok.inj (envelope.decoded.symm.trans hdecode)
    exact envelope.type_eq
  · cases h
    have hflat := (flat_envelope envelope.decoded envelope.type_eq).insert "sender_peer_id"
      (.string senderPeerID)
    rw [hflat.eq_of_decode hdecode, frameType_insert (by decide)]
    exact envelope.type_eq

end Frames

section Handler

variable {env : Environment} {attached : Attached} {raw : Bytes}

/-- The frame asks for nothing that the handler would answer with more than an acknowledgement
or an error. -/
def Bridged (raw : Bytes) : Prop :=
  ∀ frame, decodeTypedFrame raw = .ok frame → frameType frame = some .lookup ∨
    frameType frame = some .rendezvous ∨ frameType frame = some .envelope

inductive Answered (env : Environment) (attached : Attached) (raw : Bytes) : Turn → Prop
  | nothing : Answered env attached raw (.written [])
  | crashed : Answered env attached raw .crashed
  | refused (code : String) (closes : Bool) :
      Answered env attached raw (.error (errorFrame code) closes)
  | found (token : String) :
      Answered env attached raw
        (.written [⟨attached.sessionID, ackFrame attached.sessionID token "relay.accepted"⟩])
  | forwarded {delivery : Delivery} (deliveryID : String)
      (haccepted : acceptedDelivery env attached raw = some delivery) :
      Answered env attached raw
        (.written [⟨attached.sessionID, ackFrame attached.sessionID deliveryID "relay.forwarded"⟩])

/-- The results of handling a frame that end in such a turn. -/
inductive Handled (env : Environment) (attached : Attached) (raw : Bytes) :
    Except Fault (List Written) → Prop
  | nothing : Handled env attached raw (.ok [])
  | fault (fault : Fault) : Handled env attached raw (.error fault)
  | found (token : String) :
      Handled env attached raw
        (.ok [⟨attached.sessionID, ackFrame attached.sessionID token "relay.accepted"⟩])
  | forwarded {delivery : Delivery} (deliveryID : String)
      (haccepted : acceptedDelivery env attached raw = some delivery) :
      Handled env attached raw
        (.ok [⟨attached.sessionID, ackFrame attached.sessionID deliveryID "relay.forwarded"⟩])

theorem handled_bind {α : Type} {x : Except Fault α} {f : α → Except Fault (List Written)}
    (hf : ∀ a, x = .ok a → Handled env attached raw (f a)) :
    Handled env attached raw (x >>= f) := by
  cases hx : x with
  | error fault => exact .fault fault
  | ok a => exact hf a hx

theorem handled_writeFederationLookupAck :
    Handled env attached raw (writeFederationLookupAck env attached) := by
  unfold writeFederationLookupAck writeFrame
  split
  · exact .fault _
  · split
    · exact .fault _
    · exact .found _

theorem handled_handleLookup {frame : TypedFrame} :
    Handled env attached raw (handleLookup env attached frame) := by
  refine handled_bind fun peerID _ => ?_
  repeat' split
  all_goals first
    | exact handled_writeFederationLookupAck
    | exact .nothing
    | exact .fault _

theorem handled_handleRendezvous {frame : TypedFrame} :
    Handled env attached raw (handleRendezvous env attached frame) := by
  refine handled_bind fun routeID _ => ?_
  refine handled_bind fun peerID _ => ?_
  split
  · exact .fault _
  split
  · split
    · exact .fault _
    · exact handled_bind fun _ _ => .nothing
  · split
    · exact .nothing
    · split
      · exact .fault _
      · exact handled_bind fun _ _ => .nothing
    · exact .fault _

theorem handled_handleEnvelope {frame : TypedFrame} (hdecode : decodeTypedFrame raw = .ok frame)
    (hsession : otherSession attached frame = false) (htype : frameType frame = some .envelope) :
    Handled env attached raw (handleEnvelope env attached raw frame) := by
  refine handled_bind fun routeID hroute => ?_
  split
  · exact .fault _
  rename_i delivery hdelivery
  show Handled env attached raw (if _ then _ else _)
  split
  · exact handled_bind fun _ _ => .nothing
  rename_i hsent
  have haccepted : acceptedDelivery env attached raw = some delivery := by
    simp only [acceptedDelivery, hdecode, hsession, htype, hroute, hdelivery]
    rw [if_neg (by simp), if_neg hsent]
  split
  · refine handled_bind fun deliveryID _ => ?_
    unfold writeFrame
    split
    · exact .fault _
    · exact .forwarded deliveryID haccepted
  · exact .nothing

/-- A frame of a bridge is answered by at most one frame, and by an acknowledgement of its
forwarding only once its delivery is accepted. -/
theorem answered_readTurn (hbridged : Bridged raw) (sequences : SequenceTracker) :
    Answered env attached raw (readTurn env attached sequences raw).2 := by
  have hhandled : Handled env attached raw (handleFrame env attached sequences raw).2 := by
    unfold handleFrame
    split
    · exact .fault _
    rename_i frame hdecode
    split
    · exact .fault _
    rename_i hsession
    rw [Bool.not_eq_true] at hsession
    split
    · exact .fault _
    unfold dispatch
    rcases hbridged frame hdecode with htype | htype | htype
    · rw [htype]
      exact handled_handleLookup
    · rw [htype]
      exact handled_handleRendezvous
    · rw [htype]
      exact handled_handleEnvelope hdecode hsession htype
  unfold readTurn
  generalize handleFrame env attached sequences raw = result at hhandled
  obtain ⟨sequences', result⟩ := result
  cases hhandled with
  | nothing => exact .nothing
  | fault fault =>
    cases fault with
    | panic => exact .crashed
    | failed err => exact .refused _ _
  | found token => exact .found token
  | forwarded deliveryID haccepted => exact .forwarded deliveryID haccepted

end Handler

section Pipe

/-- The frame that a response acknowledges the forwarding of, if it does. -/
def forwardedTags (answers : Option Nat) (frame : TypedFrame) : List (Option Nat) :=
  if isAck "relay.forwarded" frame then [answers] else []

def inboundTags (entry : Option Nat × Bytes) : List (Option Nat) :=
  match decodeTypedFrame entry.2 with
  | .ok frame => forwardedTags entry.1 frame
  | .error _ => []

/-- The frame that the handler may yet acknowledge the forwarding of. -/
def outboundTags (entry : Nat × Bytes) : List (Option Nat) :=
  match decodeTypedFrame entry.2 with
  | .ok frame => if frameType frame = some .envelope then [some entry.1] else []
  | .error _ => []

theorem inboundTags_eq_nil {answers : Option Nat} {raw : Bytes}
    (h : ∀ frame, decodeTypedFrame raw = .ok frame → isAck "relay.forwarded" frame = false) :
    inboundTags (answers, raw) = [] := by
  unfold inboundTags
  split
  · rename_i frame hdecode
    rw [forwardedTags, h frame hdecode]
    rfl
  · rfl

theorem inboundTags_sublist (answers : Option Nat) (raw : Bytes) :
    (inboundTags (answers, raw)).Sublist [answers] := by
  unfold inboundTags forwardedTags
  split
  · split
    · exact List.Sublist.refl _
    · exact List.nil_sublist _
  · exact List.nil_sublist _

theorem outboundTags_marshal {frame : TypedFrame} (hflat : Flat frame)
    (htype : frameType frame ≠ some .envelope) (number : Nat) :
    outboundTags (number, Json.marshal frame) = [] := by
  unfold outboundTags
  split
  · rename_i frame' hdecode
    rw [hflat.eq_of_decode hdecode, if_neg htype]
  · rfl

theorem outboundTags_sublist (number : Nat) (raw : Bytes) :
    (outboundTags (number, raw)).Sublist [some number] := by
  unfold outboundTags
  split
  · split
    · exact List.Sublist.refl _
    · exact List.nil_sublist _
  · exact List.nil_sublist _

theorem outboundTags_of_accepted {env : Environment} {attached : Attached} {raw : Bytes}
    {delivery : Delivery} (h : acceptedDelivery env attached raw = some delivery) (number : Nat) :
    outboundTags (number, raw) = [some number] := by
  unfold acceptedDelivery at h
  split at h
  · cases h
  rename_i frame hdecode
  split at h
  · cases h
  rename_i hframe
  rw [outboundTags, hdecode]
  exact if_pos (not_not.mp (not_or.mp hframe).2)

theorem not_isAck_of_frameType {frame : TypedFrame} {ackType : String} {t : RelayFrameType}
    (htype : frameType frame = some t) (hne : t ≠ .ack) : isAck ackType frame = false := by
  rw [Bool.eq_false_iff]
  intro h
  exact hne (Option.some.inj (htype.symm.trans (frameType_of_isAck h).1))

/-- What the handler writes in answer to a frame of a bridge acknowledges no more than that
frame, and that only once its delivery is accepted. -/
theorem tags_answers {env : Environment} {attached : Attached} {raw : Bytes} {turn : Turn}
    (h : Answered env attached raw turn) (writeFails : Bool) (number : Nat) :
    let tags := ((turn.answers attached.sessionID writeFails).map
      fun frame => (some number, Json.marshal frame)).flatMap inboundTags
    tags.Sublist (outboundTags (number, raw)) ∧
      (tags = [] ∨ ∃ delivery, acceptedDelivery env attached raw = some delivery) := by
  cases h with
  | nothing => exact ⟨List.nil_sublist _, .inl rfl⟩
  | crashed => exact ⟨List.nil_sublist _, .inl rfl⟩
  | refused code closes =>
    have htags : inboundTags (some number, Json.marshal (errorFrame code)) = [] := by
      refine inboundTags_eq_nil fun frame hdecode => ?_
      rw [(flat_errorFrame code).eq_of_decode hdecode]
      exact not_isAck_of_frameType (frameType_errorFrame code) (by decide)
    cases writeFails with
    | true => exact ⟨List.nil_sublist _, .inl rfl⟩
    | false => simp [Turn.answers, htags]
  | found token =>
    have htags : inboundTags (some number,
        Json.marshal (ackFrame attached.sessionID token "relay.accepted")) = [] := by
      refine inboundTags_eq_nil fun frame hdecode => ?_
      rw [(flat_ackFrame _ _ _).eq_of_decode hdecode, Bool.eq_false_iff]
      intro hack
      have htype := (frameType_of_isAck hack).2
      rw [ackType_ackFrame] at htype
      exact absurd (Option.some.inj htype) (by decide)
    simp [Turn.answers, htags]
  | forwarded deliveryID haccepted =>
    rw [outboundTags_of_accepted haccepted]
    refine ⟨?_, .inr ⟨_, haccepted⟩⟩
    simpa [Turn.answers] using inboundTags_sublist _ _

end Pipe

namespace Bridge

variable {config : BridgeConfig} {s s' : Bridge}

def responses (s : Bridge) : List BridgeResponse :=
  match s.client with
  | none => []
  | some client => client.responses.items

def responseTags (s : Bridge) : List (Option Nat) :=
  s.responses.flatMap fun response => forwardedTags response.answers response.frame

/-- The acknowledgements of forwardings that are on their way to a call. -/
def acks (s : Bridge) : List (Option Nat) := s.responseTags ++ s.inbound.flatMap inboundTags

def pending (s : Bridge) : List (Option Nat) := s.acks ++ s.outbound.flatMap outboundTags

def awaited (s : Bridge) : List (Option Nat) :=
  match s.call with
  | none => []
  | some call =>
    match call.stage with
    | .response number => [some number]
    | _ => []

/-- A call that awaits a response has written its envelope under that number, and the other
relay accepts no other delivery under it. -/
def Sent (config : BridgeConfig) (s : Bridge) (call : ForwardCall) (number : Nat) : Prop :=
  (∀ entry ∈ s.outbound, entry.1 = number → entry.2 = Json.marshal
    (forwardedFrame config.attached.sessionID call.envelope.frame call.routeID
      call.senderPeerID)) ∧
  ∀ entry ∈ s.accepted, entry.1 = number → call.envelope.deliveryID = some entry.2.id

/-- The invariant of a bridge: while it is open, nothing but the envelope whose response is
awaited can be acknowledged, and that once. -/
structure Matched (config : BridgeConfig) (s : Bridge) : Prop where
  retired : s.closed = true → s.client = none ∧ s.call = none
  pending : s.closed = false → s.pending.Sublist s.awaited
  accepted : ∀ tag ∈ s.acks, ∃ entry ∈ s.accepted, tag = some entry.1
  bridged : ∀ entry ∈ s.outbound, Bridged entry.2
  numbered : (∀ entry ∈ s.outbound, entry.1 < s.written) ∧
    ∀ entry ∈ s.accepted, entry.1 < s.written
  sent : ∀ call number, s.call = some call → call.stage = .response number →
    s.Sent config call number
  returned : ∀ r ∈ s.returned, r.answers = some r.number ∧
    ∃ entry ∈ s.accepted, entry.1 = r.number ∧ r.envelope.deliveryID = some entry.2.id

theorem matched_start (config : BridgeConfig) : Matched config {} where
  retired := nofun
  pending _ := List.Sublist.refl _
  accepted _ h := absurd h List.not_mem_nil
  bridged _ h := absurd h List.not_mem_nil
  numbered := ⟨fun _ h => absurd h List.not_mem_nil, fun _ h => absurd h List.not_mem_nil⟩
  sent := nofun
  returned _ h := absurd h List.not_mem_nil

theorem Matched.quiet (h : Matched config s) (hacks : s'.acks.Sublist s.acks)
    (houtbound : s'.outbound = s.outbound) (hwritten : s'.written = s.written)
    (haccepted : s'.accepted = s.accepted) (hreturned : s'.returned = s.returned)
    (hretired : s'.closed = true → s'.client = none ∧ s'.call = none)
    (hopen : s'.closed = false → s.closed = false ∧ s'.awaited = s.awaited)
    (hcall : ∀ call number, s'.call = some call → call.stage = .response number →
      s.call = some call) : Matched config s' := by
  refine ⟨hretired, ?_, ?_, ?_, ?_, ?_, ?_⟩
  · intro hclosed
    obtain ⟨hclosed, hawaited⟩ := hopen hclosed
    rw [hawaited, Bridge.pending, houtbound]
    exact (hacks.append (List.Sublist.refl _)).trans (h.pending hclosed)
  · intro tag htag
    rw [haccepted]
    exact h.accepted tag (hacks.subset htag)
  · rw [houtbound]
    exact h.bridged
  · rw [houtbound, haccepted, hwritten]
    exact h.numbered
  · intro call number hsome hstage
    have hsent := h.sent call number (hcall call number hsome hstage) hstage
    rw [Sent, houtbound, haccepted]
    exact hsent
  · rw [hreturned, haccepted]
    exact h.returned

theorem Matched.put (h : Matched config s) {frame : TypedFrame}
    (hbridged : Bridged (Json.marshal frame)) (hacks : s'.acks.Sublist s.acks)
    (houtbound : s'.outbound = s.outbound ++ [(s.written, Json.marshal frame)])
    (hwritten : s'.written = s.written + 1) (haccepted : s'.accepted = s.accepted)
    (hreturned : s'.returned = s.returned)
    (hretired : s'.closed = true → s'.client = none ∧ s'.call = none)
    (hopen : s'.closed = false → s.closed = false ∧
      (s.awaited ++ outboundTags (s.written, Json.marshal frame)).Sublist s'.awaited)
    (hcall : ∀ call number, s'.call = some call → call.stage = .response number →
      number = s.written ∧ frame = forwardedFrame config.attached.sessionID call.envelope.frame
        call.routeID call.senderPeerID) : Matched config s' := by
  refine ⟨hretired, ?_, ?_, ?_, ?_, ?_, ?_⟩
  · intro hclosed
    obtain ⟨hclosed, hawaited⟩ := hopen hclosed
    refine List.Sublist.trans ?_ hawaited
    rw [Bridge.pending, houtbound, List.flatMap_append, List.flatMap_singleton,
      ← List.append_assoc]
    have hpending := (hacks.append (List.Sublist.refl _)).trans (h.pending hclosed)
    exact hpending.append (List.Sublist.refl _)
  · intro tag htag
    rw [haccepted]
    exact h.accepted tag (hacks.subset htag)
  · rw [houtbound]
    intro entry hentry
    rcases List.mem_append.mp hentry with hentry | hentry
    · exact h.bridged entry hentry
    · obtain rfl := List.mem_singleton.mp hentry
      exact hbridged
  · rw [houtbound, haccepted, hwritten]
    refine ⟨?_, fun entry hentry => Nat.lt_succ_of_lt (h.numbered.2 entry hentry)⟩
    intro entry hentry
    rcases List.mem_append.mp hentry with hentry | hentry
    · exact Nat.lt_succ_of_lt (h.numbered.1 entry hentry)
    · obtain rfl := List.mem_singleton.mp hentry
      exact Nat.lt_succ_self _
  · intro call number hsome hstage
    obtain ⟨rfl, rfl⟩ := hcall call number hsome hstage
    rw [Sent, houtbound, haccepted]
    refine ⟨?_, fun entry hentry heq => absurd heq (h.numbered.2 entry hentry).ne⟩
    intro entry hentry heq
    rcases List.mem_append.mp hentry with hentry | hentry
    · exact absurd heq (h.numbered.1 entry hentry).ne
    · obtain rfl := List.mem_singleton.mp hentry
      rfl
  · rw [hreturned, haccepted]
    exact h.returned

theorem acks_sublist_of_client_eq_none (hclient : s'.client = none)
    (hinbound : s'.inbound = s.inbound) : s'.acks.Sublist s.acks := by
  rw [acks, acks, responseTags, responses, hclient, hinbound]
  exact List.sublist_append_right _ _

theorem acks_eq (hclient : s'.client = s.client) (hinbound : s'.inbound = s.inbound) :
    s'.acks = s.acks := by
  rw [acks, acks, responseTags, responseTags, responses, responses, hclient, hinbound]

theorem Matched.fails (h : Matched config s) : Matched config s.fails :=
  h.quiet (acks_sublist_of_client_eq_none rfl rfl) rfl rfl rfl rfl (fun _ => ⟨rfl, rfl⟩)
    (fun hopen => nomatch hopen) nofun

theorem Matched.closeLocked (h : Matched config s) (hcall : s.call = none) :
    Matched config s.closeLocked :=
  h.quiet (acks_sublist_of_client_eq_none rfl rfl) rfl rfl rfl rfl (fun _ => ⟨rfl, hcall⟩)
    (fun hopen => nomatch hopen) fun _ _ hsome _ => hsome

variable {call : ForwardCall}

theorem Matched.opened (h : Matched config s) (hcall : s.call = some call) :
    s.closed = false := by
  rw [← Bool.not_eq_true]
  intro hclosed
  exact absurd ((h.retired hclosed).2.symm.trans hcall) nofun

theorem awaited_eq_nil (hcall : s.call = none) : s.awaited = [] := by
  rw [awaited, hcall]

theorem awaited_of_stage (hcall : s.call = some call)
    (hstage : ∀ number, call.stage ≠ .response number) : s.awaited = [] := by
  rw [awaited, hcall]
  dsimp only
  split
  · exact absurd ‹_› (hstage _)
  · rfl

theorem awaited_of_response {number : Nat} (hcall : s.call = some call)
    (hstage : call.stage = .response number) : s.awaited = [some number] := by
  rw [awaited, hcall]
  dsimp only
  rw [hstage]

theorem Matched.setCall (h : Matched config s) (hopen : s.closed = false)
    (hawaited : s.awaited = []) (hstage : ∀ number, call.stage ≠ .response number) :
    Matched config { s with call := some call } := by
  refine h.quiet (acks_eq rfl rfl ▸ List.Sublist.refl _) rfl rfl rfl rfl (fun hclosed => ?_)
    (fun _ => ⟨hopen, ?_⟩) ?_
  · exact absurd (hopen.symm.trans hclosed) (by decide)
  · rw [hawaited, awaited_of_stage rfl hstage]
  · intro call' number hsome hresponse
    obtain rfl := Option.some.inj hsome
    exact absurd hresponse (hstage number)

theorem Matched.startForward (h : Matched config s) (hcall : s.call = none) (routeID : RouteID)
    (envelope : EnvelopeText) (senderPeerID : PeerID) :
    Matched config (s.startForward routeID envelope senderPeerID) := by
  unfold Bridge.startForward
  split
  · exact h
  rename_i hopen
  rw [Bool.not_eq_true] at hopen
  split
  · exact h.setCall hopen (awaited_eq_nil hcall) nofun
  split
  · exact h.closeLocked hcall
  · exact h.setCall hopen (awaited_eq_nil hcall) nofun

theorem Matched.dialed (h : Matched config s) (hcall : s.call = some call)
    (attached : Bool) : Matched config (s.dialed call attached) := by
  unfold Bridge.dialed
  split
  · rename_i hstage
    split
    · exact h.setCall (h.opened hcall) (awaited_of_stage hcall (by simp [hstage])) nofun
    · exact h.fails
  · exact h

theorem bridged_nextFrame {frame : TypedFrame}
    (h : call.nextFrame config = some frame) :
    Flat frame ∧ Bridged (Json.marshal frame) := by
  have hbridged : ∀ {frame : TypedFrame}, Flat frame →
      (frameType frame = some .lookup ∨ frameType frame = some .rendezvous ∨
        frameType frame = some .envelope) → Flat frame ∧ Bridged (Json.marshal frame) := by
    intro frame hflat htype
    refine ⟨hflat, fun frame' hdecode => ?_⟩
    rw [hflat.eq_of_decode hdecode]
    exact htype
  unfold ForwardCall.nextFrame at h
  split at h
  · cases h
    exact hbridged (flat_lookupFrame _ _) (.inl (frameType_lookupFrame _ _))
  · cases h
    exact hbridged (flat_rendezvousFrame _ _ _) (.inr (.inl (frameType_rendezvousFrame _ _ _)))
  · cases h
    refine hbridged (flat_forwardedFrame _ _ _ _) (.inr (.inr ?_))
    rw [frameType_forwardedFrame, call.envelope.type_eq]
  · cases h

theorem Matched.write_failed (h : Matched config s) {frame : TypedFrame}
    (hbridged : Bridged (Json.marshal frame)) (delivered : Bool) :
    Matched config (if delivered then s.put frame else s).fails := by
  split
  · exact h.put hbridged (acks_sublist_of_client_eq_none rfl rfl) rfl rfl rfl rfl
      (fun _ => ⟨rfl, rfl⟩) (fun hopen => nomatch hopen) nofun
  · exact h.fails

theorem Matched.write (h : Matched config s) (hcall : s.call = some call)
    (result : WriteResult) : Matched config (s.write config call result) := by
  have hopen := h.opened hcall
  unfold Bridge.write
  split
  · exact h
  rename_i frame hframe
  obtain ⟨hflat, hbridged⟩ := bridged_nextFrame hframe
  split
  · exact h.write_failed hbridged _
  unfold Bridge.wrote
  unfold ForwardCall.nextFrame at hframe
  split
  · rename_i hstage
    rw [hstage] at hframe
    obtain rfl := Option.some.inj hframe
    have hnext : ∀ number, (if config.live then ForwardStage.lookupAck else .rendezvous) ≠
        .response number := by
      intro number
      split <;> exact nofun
    refine h.put hbridged (acks_eq rfl rfl ▸ List.Sublist.refl _) rfl rfl rfl rfl
      (fun hclosed => absurd (hopen.symm.trans hclosed) (by decide)) (fun _ => ⟨hopen, ?_⟩) ?_
    · rw [outboundTags_marshal hflat (by simp [frameType_lookupFrame]),
        awaited_of_stage hcall (by simp [hstage])]
      exact List.nil_sublist _
    · intro call' number hsome hresponse
      obtain rfl := Option.some.inj hsome
      exact absurd hresponse (hnext number)
  · rename_i hstage
    rw [hstage] at hframe
    obtain rfl := Option.some.inj hframe
    refine h.put hbridged ?_ rfl rfl rfl rfl
      (fun hclosed => absurd (hopen.symm.trans hclosed) (by decide)) (fun _ => ⟨hopen, ?_⟩) ?_
    · exact List.sublist_append_right _ _
    · rw [outboundTags_marshal hflat (by simp [frameType_rendezvousFrame]),
        awaited_of_stage hcall (by simp [hstage])]
      exact List.nil_sublist _
    · intro call' number hsome hresponse
      obtain rfl := Option.some.inj hsome
      cases hresponse
  · rename_i hstage
    rw [hstage] at hframe
    obtain rfl := Option.some.inj hframe
    refine h.put hbridged (acks_eq rfl rfl ▸ List.Sublist.refl _) rfl rfl rfl rfl
      (fun hclosed => absurd (hopen.symm.trans hclosed) (by decide)) (fun _ => ⟨hopen, ?_⟩) ?_
    · rw [awaited_of_stage hcall (by simp [hstage]), awaited_of_response rfl rfl]
      exact outboundTags_sublist _ _
    · intro call' number hsome hresponse
      obtain rfl := Option.some.inj hsome
      exact ⟨(ForwardStage.response.inj hresponse).symm, rfl⟩
  · rename_i hlookup hrendezvous henvelope
    exfalso
    split at hframe
    · exact hlookup ‹_›
    · exact hrendezvous ‹_›
    · exact henvelope ‹_›
    · cases hframe

theorem Matched.readLookupAck (h : Matched config s)
    (hcall : s.call = some call) : Matched config (s.readLookupAck call) := by
  unfold Bridge.readLookupAck
  split
  · rename_i entry raw inbound hstage hinbound
    have hread : Matched config { s with inbound } := by
      refine h.quiet ?_ rfl rfl rfl rfl h.retired (fun hopen => ⟨hopen, rfl⟩) fun _ _ hsome _ => hsome
      rw [acks, acks, hinbound]
      exact (List.Sublist.refl _).append (List.sublist_append_right _ _)
    split
    · exact hread.fails
    split
    · exact hread.setCall (h.opened hcall) (awaited_of_stage hcall (by simp [hstage])) nofun
    · exact hread.fails
  · exact h

end Bridge

namespace BridgeClient

variable (client : BridgeClient)

def tags : List (Option Nat) :=
  client.responses.items.flatMap fun response => forwardedTags response.answers response.frame

theorem tags_handOn (response : BridgeResponse) :
    (client.handOn response).tags.Sublist
      (client.tags ++ forwardedTags response.answers response.frame) := by
  unfold handOn
  split
  · rename_i responses hpush
    rw [tags, (BoundedQueue.push?_eq_some hpush).2, List.flatMap_append, List.flatMap_singleton]
    exact List.Sublist.refl _
  · exact List.sublist_append_left _ _

theorem tags_deliver (config : BridgeConfig) (hub : Hub) (raw : Bytes) :
    (client.deliver config hub raw).tags = client.tags := by
  unfold deliver
  dsimp only
  split <;> rfl

theorem tags_take (config : BridgeConfig) (hub : Hub) (answers : Option Nat) (raw : Bytes) :
    (client.take config hub answers raw).tags.Sublist
      (client.tags ++ inboundTags (answers, raw)) := by
  cases hdecode : decodeTypedFrame raw with
  | error err =>
    simp only [take, hdecode]
    exact List.sublist_append_left _ _
  | ok frame =>
    simp only [take, inboundTags, hdecode]
    split
    · exact client.tags_handOn ⟨frame, answers⟩
    · exact client.tags_handOn ⟨frame, answers⟩
    · rw [tags_deliver]
      exact List.sublist_append_left _ _
    · exact List.sublist_append_left _ _

end BridgeClient

namespace Bridge

variable {config : BridgeConfig} {s s' : Bridge}

theorem responseTags_of_client {client : BridgeClient} (h : s.client = some client) :
    s.responseTags = client.tags := by
  rw [responseTags, responses, h]
  rfl

theorem Matched.read (h : Matched config s) {client : BridgeClient}
    (hclient : s.client = some client) (hub : Hub) : Matched config (s.read config client hub) := by
  unfold Bridge.read
  split
  · rename_i answers raw inbound hloop hinbound
    refine h.quiet ?_ rfl rfl rfl rfl (fun hclosed => ?_) (fun hopen => ⟨hopen, rfl⟩)
      fun _ _ hsome _ => hsome
    · rw [acks, acks, responseTags_of_client rfl, responseTags_of_client hclient, hinbound,
        List.flatMap_cons, ← List.append_assoc]
      exact (client.tags_take config hub answers raw).append (List.Sublist.refl _)
    · exact absurd (hclient.symm.trans (h.retired hclosed).1) nofun
  · exact h

theorem Matched.readFails (h : Matched config s) {client : BridgeClient}
    (hclient : s.client = some client) : Matched config (s.readFails client) := by
  unfold Bridge.readFails
  split
  · refine h.quiet ?_ rfl rfl rfl rfl (fun hclosed => ?_) (fun hopen => ⟨hopen, rfl⟩)
      fun _ _ hsome _ => hsome
    · rw [acks, acks, responseTags_of_client rfl, responseTags_of_client hclient]
      exact List.Sublist.refl _
    · exact absurd (hclient.symm.trans (h.retired hclosed).1) nofun
  · exact h

theorem Matched.respond (h : Matched config s) {call : ForwardCall} {client : BridgeClient}
    (hcall : s.call = some call) (hclient : s.client = some client) :
    Matched config (s.respond call client) := by
  have hopen := h.opened hcall
  unfold Bridge.respond
  split
  · rename_i number hstage
    split
    · exact h
    rename_i response responses hpop
    split
    · rename_i hack
      have htags : s.acks = response.answers :: (responses.items.flatMap
          (fun response => forwardedTags response.answers response.frame) ++
            s.inbound.flatMap inboundTags) := by
        rw [acks, responseTags_of_client hclient, BridgeClient.tags,
          (BoundedQueue.pop?_eq_some hpop).2, List.flatMap_cons, forwardedTags, if_pos hack]
        rfl
      have hpending := h.pending hopen
      rw [Bridge.pending, htags, awaited_of_response hcall hstage, List.cons_append] at hpending
      have hanswers : response.answers = some number :=
        List.mem_singleton.mp (hpending.subset List.mem_cons_self)
      have hlength := hpending.length_le
      rw [List.length_cons, List.length_singleton] at hlength
      have hrest := List.eq_nil_of_length_eq_zero (Nat.le_zero.mp (Nat.le_of_succ_le_succ hlength))
      obtain ⟨hacks, houtbound⟩ := List.append_eq_nil_iff.mp hrest
      refine ⟨fun hclosed => absurd (hopen.symm.trans hclosed) (by decide), fun _ => ?_, ?_,
        h.bridged, h.numbered, nofun, ?_⟩
      · have hnone : ({ s with
            client := some { client with responses }
            call := none
            returned := s.returned ++ [⟨call.envelope, number, response.answers⟩] } :
              Bridge).pending = [] := hrest
        rw [hnone]
        exact List.nil_sublist _
      · intro tag htag
        have hmem := List.mem_append_left (s.outbound.flatMap outboundTags) htag
        exact absurd (hrest ▸ hmem) List.not_mem_nil
      · intro r hr
        rcases List.mem_append.mp hr with hr | hr
        · exact h.returned r hr
        · obtain rfl := List.mem_singleton.mp hr
          obtain ⟨entry, hentry, htag⟩ :=
            h.accepted response.answers (htags ▸ List.mem_cons_self)
          have hnumber := Option.some.inj (htag.symm.trans hanswers)
          exact ⟨hanswers, entry, hentry, hnumber,
            (h.sent call number hcall hstage).2 entry hentry hnumber⟩
    · exact h.fails
  · exact h

theorem deliveryID_of_accepted {env : Environment} {attached : Attached} {frame : TypedFrame}
    {delivery : Delivery} (hflat : Flat frame)
    (h : acceptedDelivery env attached (Json.marshal frame) = some delivery) :
    asString (frame.get? "delivery_id") = some delivery.id := by
  unfold acceptedDelivery at h
  split at h
  · cases h
  rename_i frame' hdecode
  obtain rfl := hflat.eq_of_decode hdecode
  split at h
  · cases h
  split at h
  · rename_i routeID delivery' _ hdelivery
    dsimp only at h
    split at h
    · cases h
    · obtain rfl := Option.some.inj h
      unfold deliveryFromFrame at hdelivery
      split at hdelivery
      · cases hdelivery
      split at hdelivery
      · cases hdelivery
      rename_i deliveryID hid
      split at hdelivery
      · cases hdelivery
      · rw [hid, ← Except.ok.inj hdelivery]
  · cases h

theorem Matched.lost (h : Matched config s) {number : Nat} {raw : Bytes}
    {outbound : List (Nat × Bytes)} (houtbound : s.outbound = (number, raw) :: outbound) :
    Matched config { s with outbound } := by
  have hsub : ∀ entry ∈ outbound, entry ∈ s.outbound := fun entry hentry =>
    houtbound ▸ List.mem_cons_of_mem _ hentry
  refine ⟨h.retired, fun hclosed => ?_, h.accepted, fun entry hentry =>
    h.bridged entry (hsub entry hentry), ⟨fun entry hentry =>
      h.numbered.1 entry (hsub entry hentry), h.numbered.2⟩, ?_, h.returned⟩
  · refine List.Sublist.trans ?_ (h.pending hclosed)
    rw [Bridge.pending, Bridge.pending, houtbound, List.flatMap_cons]
    exact (List.Sublist.refl _).append (List.sublist_append_right _ _)
  · intro call number' hcall hstage
    have hsent := h.sent call number' hcall hstage
    exact ⟨fun entry hentry => hsent.1 entry (hsub entry hentry), hsent.2⟩

/-- A frame leaves the one direction, its answers enter the other and make room for no other
acknowledgement, and what the hub accepts is the delivery of the frame. -/
theorem Matched.answered (h : Matched config s) {number : Nat} {raw : Bytes}
    {outbound : List (Nat × Bytes)} (houtbound : s.outbound = (number, raw) :: outbound)
    {env : Environment} {answers : List (Option Nat × Bytes)} {sequences : SequenceTracker}
    {remoteOpen : Bool}
    (htags : (answers.flatMap inboundTags).Sublist (outboundTags (number, raw)))
    (haccepted : answers.flatMap inboundTags = [] ∨
      ∃ delivery, acceptedDelivery env config.attached raw = some delivery) :
    Matched config { s with
      outbound, sequences, remoteOpen
      inbound := s.inbound ++ answers
      accepted := s.accepted ++ (acceptedDelivery env config.attached raw).toList.map
        fun delivery => (number, delivery) } := by
  have hhead : (number, raw) ∈ s.outbound := houtbound ▸ List.mem_cons_self
  have hsub : ∀ entry ∈ outbound, entry ∈ s.outbound := fun entry hentry =>
    houtbound ▸ List.mem_cons_of_mem _ hentry
  have hmem : ∀ entry ∈ s.accepted ++ (acceptedDelivery env config.attached raw).toList.map
      (fun delivery => (number, delivery)), entry ∈ s.accepted ∨ ∃ delivery,
        acceptedDelivery env config.attached raw = some delivery ∧ entry = (number, delivery) := by
    intro entry hentry
    refine (List.mem_append.mp hentry).imp_right fun hentry => ?_
    obtain ⟨delivery, hdelivery, rfl⟩ := List.mem_map.mp hentry
    exact ⟨delivery, Option.mem_toList.mp hdelivery, rfl⟩
  refine ⟨h.retired, fun hclosed => ?_, ?_, fun entry hentry =>
    h.bridged entry (hsub entry hentry), ⟨fun entry hentry =>
      h.numbered.1 entry (hsub entry hentry), ?_⟩, ?_, ?_⟩
  · refine List.Sublist.trans ?_ (h.pending hclosed)
    rw [Bridge.pending, Bridge.pending, houtbound, List.flatMap_cons, acks, List.flatMap_append,
      ← List.append_assoc, List.append_assoc]
    exact (List.Sublist.refl _).append (htags.append (List.Sublist.refl _))
  · intro tag htag
    rw [acks, List.flatMap_append, ← List.append_assoc] at htag
    rcases List.mem_append.mp htag with htag | htag
    · obtain ⟨entry, hentry, heq⟩ := h.accepted tag htag
      exact ⟨entry, List.mem_append_left _ hentry, heq⟩
    · rcases haccepted with hnone | ⟨delivery, hdelivery⟩
      · rw [hnone] at htag
        exact absurd htag List.not_mem_nil
      · have heq := List.mem_singleton.mp ((outboundTags_sublist number raw).subset
          (htags.subset htag))
        refine ⟨(number, delivery), List.mem_append_right _ ?_, heq⟩
        rw [hdelivery]
        exact List.mem_cons_self
  · intro entry hentry
    rcases hmem entry hentry with hentry | ⟨delivery, _, rfl⟩
    · exact h.numbered.2 entry hentry
    · exact h.numbered.1 _ hhead
  · intro call number' hcall hstage
    have hsent := h.sent call number' hcall hstage
    refine ⟨fun entry hentry => hsent.1 entry (hsub entry hentry), fun entry hentry heq => ?_⟩
    rcases hmem entry hentry with hentry | ⟨delivery, hdelivery, rfl⟩
    · exact hsent.2 entry hentry heq
    · have hraw : raw = Json.marshal _ := hsent.1 _ hhead heq
      rw [hraw] at hdelivery
      have hid := deliveryID_of_accepted (flat_forwardedFrame _ _ _ _) hdelivery
      rw [deliveryID_forwardedFrame] at hid
      exact hid
  · intro r hr
    obtain ⟨hanswers, entry, hentry, hrest⟩ := h.returned r hr
    exact ⟨hanswers, entry, List.mem_append_left _ hentry, hrest⟩

theorem Matched.remoteRead (h : Matched config s) (hub : Hub) (now : Time) (onward : Option Err)
    (env : Environment) : Matched config (s.remoteRead config hub now onward env) := by
  unfold Bridge.remoteRead
  split
  · exact h
  rename_i number raw outbound houtbound
  split
  · exact h.lost houtbound
  · have hhead : (number, raw) ∈ s.outbound := houtbound ▸ List.mem_cons_self
    let env' : Environment :=
      { env with sendDelivery := sendDelivery hub config.attached.sessionID now onward }
    have hbridged : Bridged raw := h.bridged _ hhead
    have hturn : Answered env' config.attached raw
        (readTurn env' config.attached s.sequences raw).2 := answered_readTurn hbridged s.sequences
    obtain ⟨htags, haccepted⟩ := tags_answers hturn env.writeFails number
    exact h.answered houtbound htags haccepted

theorem Matched.remotePush (h : Matched config s) (envelope : EnvelopeText)
    (senderPeerID : PeerID) : Matched config (s.remotePush envelope senderPeerID) := by
  unfold Bridge.remotePush
  split
  · exact h.quiet (acks_eq rfl rfl ▸ List.Sublist.refl _) rfl rfl rfl rfl h.retired
      (fun hopen => ⟨hopen, rfl⟩) fun _ _ hsome _ => hsome
  rename_i payload hpayload
  split
  · refine h.quiet ?_ rfl rfl rfl rfl h.retired (fun hopen => ⟨hopen, rfl⟩)
      fun _ _ hsome _ => hsome
    have htags : inboundTags (none, payload) = [] := by
      refine inboundTags_eq_nil fun frame hdecode => ?_
      exact not_isAck_of_frameType (frameType_deliveryPayload hpayload hdecode) (by decide)
    rw [acks, acks, List.flatMap_append, List.flatMap_singleton, htags, List.append_nil]
    exact List.Sublist.refl _
  · exact h

theorem Matched.step (h : Matched config s) (e : BridgeEvent) : Matched config (s.step config e) := by
  cases e with
  | forward routeID envelope senderPeerID =>
    simp only [Bridge.step]
    split
    · rename_i hcall
      exact h.startForward hcall routeID envelope senderPeerID
    · exact h
  | dialed attached =>
    simp only [Bridge.step]
    split
    · exact h
    · rename_i hcall
      exact h.dialed hcall attached
  | write result =>
    simp only [Bridge.step]
    split
    · exact h
    · rename_i hcall
      exact h.write hcall result
  | readLookupAck =>
    simp only [Bridge.step]
    split
    · exact h
    · rename_i hcall
      exact h.readLookupAck hcall
  | respond =>
    simp only [Bridge.step]
    split
    · rename_i hcall hclient
      exact h.respond hcall hclient
    · exact h
  | giveUp =>
    simp only [Bridge.step]
    split
    · exact h
    · exact h.fails
  | close =>
    simp only [Bridge.step]
    split
    · rename_i hcall
      exact h.closeLocked hcall
    · exact h
  | read hub =>
    simp only [Bridge.step]
    split
    · exact h
    · rename_i hclient
      exact h.read hclient hub
  | readFails =>
    simp only [Bridge.step]
    split
    · exact h
    · rename_i hclient
      exact h.readFails hclient
  | loopCloses =>
    simp only [Bridge.step]
    split
    · rename_i hcall _
      split
      · exact h.closeLocked hcall
      · exact h
    · exact h
  | remoteRead hub now onward env => exact h.remoteRead hub now onward env
  | remotePush envelope senderPeerID => exact h.remotePush envelope senderPeerID
  | remoteCloses =>
    exact h.quiet (acks_eq rfl rfl ▸ List.Sublist.refl _) rfl rfl rfl rfl h.retired
      (fun hopen => ⟨hopen, rfl⟩) fun _ _ hsome _ => hsome

/-- A call that returns without an error took the response to its own envelope, and the hub of
the other relay accepted the delivery of that envelope. -/
theorem returned_accepted (config : BridgeConfig) (events : List BridgeEvent) :
    ∀ r ∈ (run config events).returned, r.answers = some r.number ∧
      ∃ entry ∈ (run config events).accepted, entry.1 = r.number ∧
        r.envelope.deliveryID = some entry.2.id :=
  (Trace.invariant (fun _ e h => h.step e) (matched_start config) events : Matched config _).returned

def sampleRemoteHub : Hub :=
  let hub := ((Hub.start Relay.defaultValidConfig).attach SequenceLog.zeroID).hub
  let hub := (hub.attach "bob").hub
  (hub.pair SubmittedEnvelope.oldRoute SequenceLog.zeroID "bob").hub

/-- Nothing disturbs a forward: the bridge attaches, the other relay reads its three frames,
and the response comes back. -/
def undisturbed : List BridgeEvent :=
  [.forward SubmittedEnvelope.oldRoute sampleEnvelope SequenceLog.zeroID, .dialed true,
    .write .sent, .write .sent, .write .sent] ++
    List.replicate 3 (.remoteRead sampleRemoteHub 0 none
      { SequenceLog.quietEnvironment with lookup := fun _ => true }) ++
    [.read sampleRemoteHub, .respond]

theorem returned_accepted_undisturbed :
    ∃ r ∈ (run sampleBridge undisturbed).returned, r.answers = some r.number ∧
      ∃ entry ∈ (run sampleBridge undisturbed).accepted, entry.1 = r.number ∧
        r.envelope.deliveryID = some entry.2.id := by
  have hpos : 0 < (run sampleBridge undisturbed).returned.length := by decide +kernel
  obtain ⟨r, hr⟩ := List.exists_mem_of_length_pos hpos
  exact ⟨r, hr, returned_accepted sampleBridge undisturbed r hr⟩

end Bridge

end Branch.Wss
