import Branch.Lib.Base64
import Branch.Relay.Forward
import Branch.Wss.Sequences

/-!
An envelope that is sent again on another route. The hub tells a repetition from a conflict by
the digest of the whole frame, which names its route.
-/

namespace Branch.Wss

open Branch.Lib
open Branch.Relay (Bytes Delivery Err Hub RouteID SessionID SessionState Time)

structure SubmittedEnvelope where
  raw : Bytes
  frame : TypedFrame
  delivery : Delivery
  decoded : decodeTypedFrame raw = .ok frame
  type_eq : frameType frame = some .envelope
  delivery_eq : deliveryFromFrame frame = .ok delivery

section Digest

theorem flat_envelope {raw : Bytes} {frame : TypedFrame}
    (hframe : decodeTypedFrame raw = .ok frame) (htype : frameType frame = some .envelope) :
    Flat frame := by
  obtain ⟨fields, t, hreads, ht, hvalid⟩ := decodeTypedFrame_eq_ok hframe
  obtain rfl : t = .envelope := Option.some.inj ((hreads.frameType ht).symm.trans htype)
  obtain ⟨value, hvalue, _⟩ := bind_eq_ok.mp ht
  have hflat := Protocol.scalar_of_validateEnvelopeFrame
    (Protocol.scalar_of_readStringField hvalue) hvalid
  have hsame : frame.entries = fields.entries :=
    Json.eq_of_readAs hreads fun entry hentry => Json.toAny_of_canonical (hflat entry hentry)
  rw [Flat, hsame]
  exact hflat

theorem unmarshal_envelope {raw : Bytes} {frame : TypedFrame}
    (hframe : decodeTypedFrame raw = .ok frame) (htype : frameType frame = some .envelope) :
    Json.unmarshal (Json.marshal frame) = some frame :=
  Json.unmarshal_marshal (flat_envelope hframe htype).canonical

end Digest

namespace SubmittedEnvelope

variable (envelope first second : SubmittedEnvelope)

def routeID : RouteID := (asString (envelope.frame.get? "route_id")).getD ""

def ciphertext : Option Bytes := (asString (envelope.frame.get? "ciphertext")).bind Base64.decode

/-- The two frames have different digests unless their canonical texts are the same. -/
def NoCollision : Prop :=
  Sha256.sum256 (Json.marshal first.frame) = Sha256.sum256 (Json.marshal second.frame) →
    Json.marshal first.frame = Json.marshal second.frame

/-- An attached session submits the second envelope, on a route that is live, under the
delivery id of the first one, and nothing but the first was forwarded under that id. -/
structure Resubmits (hub : Hub) (source : SessionID) (state : SessionState) (now : Time) :
    Prop where
  hub_open : hub.closed = false
  session : hub.sessions.get? source = some state
  session_open : hub.isClosed state.ref = false
  route : ∃ route target, hub.routes.get? second.routeID = some route ∧
    route.peer source = some target ∧ hub.routeLiveLocked route now = true
  same_stream : second.delivery.streamID = first.delivery.streamID
  same_id : second.delivery.id = first.delivery.id
  remembered : ∀ digest, state.deliveries.entries.get? (first.delivery.key state.peerID) =
    some digest → digest = first.delivery.digest

/-- The hub answers by the ciphertexts alone and forwards nothing. -/
def ClassifiedByCiphertext (hub : Hub) (source : SessionID) (now : Time) : Prop :=
  hub.forwardLocked none source second.routeID second.raw now (some second.delivery) =
    hub.returns (.failed (if first.ciphertext = second.ciphertext then .duplicateDelivery
      else .deliveryConflict))

variable {first second : SubmittedEnvelope}

theorem digest_eq (envelope : SubmittedEnvelope) :
    envelope.delivery.digest = Sha256.sum256 (Json.marshal envelope.frame) := by
  have h := envelope.delivery_eq
  unfold deliveryFromFrame at h
  split at h
  · cases h
  · split at h
    · cases h
    · split at h
      · cases h
      · rw [← Except.ok.inj h]

theorem digest_eq_iff (hcollision : NoCollision first second) :
    first.delivery.digest = second.delivery.digest ↔ first.frame = second.frame := by
  rw [digest_eq, digest_eq]
  constructor
  · intro h
    have hfirst := unmarshal_envelope first.decoded first.type_eq
    have hsecond := unmarshal_envelope second.decoded second.type_eq
    rw [hcollision h, hsecond] at hfirst
    exact (Option.some.inj hfirst).symm
  · intro h
    rw [h]

section Submission

variable {hub : Hub} {source : SessionID} {state : SessionState} {now : Time}

theorem Resubmits.key_eq (h : Resubmits first second hub source state now) :
    second.delivery.key state.peerID = first.delivery.key state.peerID := by
  rw [Delivery.key, Delivery.key, h.same_stream, h.same_id]

theorem Resubmits.forwardLocked_remembered (h : Resubmits first second hub source state now)
    {digest : Relay.Digest}
    (hheld : state.deliveries.entries.get? (first.delivery.key state.peerID) = some digest) :
    hub.forwardLocked none source second.routeID second.raw now (some second.delivery) =
      hub.returns (.failed (if first.delivery.digest = second.delivery.digest then
        .duplicateDelivery else .deliveryConflict)) := by
  obtain ⟨route, target, hroute, hpeer, hlive⟩ := h.route
  have hreplayed : state.replayed (some second.delivery) =
      some (if first.delivery.digest = second.delivery.digest then .duplicateDelivery
        else .deliveryConflict) := by
    rw [SessionState.replayed, h.key_eq, hheld]
    obtain rfl := h.remembered digest hheld
    dsimp only
    split
    · rfl
    · rfl
  simp [Hub.forwardLocked, h.hub_open, h.session, h.session_open, hroute, hpeer, hlive, hreplayed]

theorem Resubmits.forwardLocked_forgotten (h : Resubmits first second hub source state now)
    (hheld : state.deliveries.entries.get? (first.delivery.key state.peerID) = none) :
    (hub.forwardLocked none source second.routeID second.raw now (some second.delivery)).value ≠
        .failed .duplicateDelivery ∧
      (hub.forwardLocked none source second.routeID second.raw now (some second.delivery)).value ≠
        .failed .deliveryConflict := by
  obtain ⟨route, target, hroute, hpeer, hlive⟩ := h.route
  have hreplayed : state.replayed (some second.delivery) = none := by
    rw [SessionState.replayed, h.key_eq, hheld]
  simp only [Hub.forwardLocked, h.hub_open, h.session, h.session_open, hroute, hpeer, hlive,
    hreplayed]
  repeat' split
  all_goals constructor <;> rintro ⟨⟩

/-- For an envelope that is submitted again, on whatever route, the answer of the hub is that of
the ciphertexts if and only if the first one is remembered and, when the ciphertexts agree,
every other field does, the route among them. -/
theorem classifiedByCiphertext_iff (h : Resubmits first second hub source state now)
    (hcollision : NoCollision first second) :
    ClassifiedByCiphertext first second hub source now ↔
      (state.deliveries.entries.get? (first.delivery.key state.peerID)).isSome = true ∧
        (first.ciphertext = second.ciphertext → first.frame = second.frame) := by
  cases hheld : state.deliveries.entries.get? (first.delivery.key state.peerID) with
  | none =>
    obtain ⟨hduplicate, hconflict⟩ := h.forwardLocked_forgotten hheld
    refine iff_of_false (fun hclassified => ?_) (by rintro ⟨⟨⟩, _⟩)
    rw [hclassified] at hduplicate hconflict
    by_cases hsame : first.ciphertext = second.ciphertext
    · exact hduplicate (by rw [if_pos hsame]; rfl)
    · exact hconflict (by rw [if_neg hsame]; rfl)
  | some digest =>
    rw [ClassifiedByCiphertext, h.forwardLocked_remembered hheld]
    have hframes : first.frame = second.frame → first.ciphertext = second.ciphertext := by
      intro heq
      rw [ciphertext, ciphertext, heq]
    constructor
    · intro hanswer
      refine ⟨rfl, fun hsame => (digest_eq_iff hcollision).mp ?_⟩
      by_contra hne
      rw [if_pos hsame, if_neg hne] at hanswer
      exact absurd (congrArg Relay.Outcome.value hanswer) (by rintro ⟨⟩)
    · rintro ⟨_, hsame⟩
      have hiff : first.delivery.digest = second.delivery.digest ↔
          first.ciphertext = second.ciphertext :=
        ⟨fun hdigest => hframes ((digest_eq_iff hcollision).mp hdigest),
          fun hciphertext => (digest_eq_iff hcollision).mpr (hsame hciphertext)⟩
      simp only [hiff]

end Submission

section Migration

def oldRoute : RouteID := "AAAAAAAAAAAAAAAAAAAAAA"
def newRoute : RouteID := "AQAAAAAAAAAAAAAAAAAAAA"

def envelopeFrame (routeID : RouteID) (ciphertext : String) : TypedFrame :=
  Fields.ofList [("type", .string "ENVELOPE"), ("session_id", .string SequenceLog.zeroID),
    ("route_id", .string routeID), ("origin_route_id", .string oldRoute),
    ("path_epoch", jsonNat 0), ("stream_id", jsonNat 7),
    ("delivery_id", .string "AAAAAAAAAAAAAAAAAAAAAA"), ("ciphertext", .string ciphertext),
    ("ack_requested", .bool true)]

theorem canonical_envelopeFrame (routeID : RouteID) (ciphertext : String) :
    Json.Canonical Json.maxNestingDepth (.object (envelopeFrame routeID ciphertext).entries) := by
  refine Flat.canonical (flat_ofList fun entry hmem => ?_)
  simp only [List.mem_cons, List.not_mem_nil, or_false] at hmem
  rcases hmem with rfl | rfl | rfl | rfl | rfl | rfl | rfl | rfl | rfl
  all_goals first
    | exact .string _
    | exact .number rfl (by decide)
    | exact .bool _

def ofFrame (routeID : RouteID) (ciphertext : String)
    (h : Protocol.decodeDraftRelayAttachmentFrame
      (Json.marshal (envelopeFrame routeID ciphertext)) = .ok .envelope) :
    SubmittedEnvelope where
  raw := Json.marshal (envelopeFrame routeID ciphertext)
  frame := envelopeFrame routeID ciphertext
  delivery :=
    { streamID := 7
      id := "AAAAAAAAAAAAAAAAAAAAAA"
      digest := Sha256.sum256 (Json.marshal (envelopeFrame routeID ciphertext)) }
  decoded := decodeTypedFrame_marshal (canonical_envelopeFrame routeID ciphertext) h
  type_eq := by
    have htype : (envelopeFrame routeID ciphertext).get? "type" = some (.string "ENVELOPE") := by
      simp [envelopeFrame, Fields.ofList, Fields.get?_insert]
    rw [frameType, htype]
    rfl
  delivery_eq := by
    have hstream : (envelopeFrame routeID ciphertext).get? "stream_id" = some (jsonNat 7) := by
      simp [envelopeFrame, Fields.ofList, Fields.get?_insert]
    have hdelivery : (envelopeFrame routeID ciphertext).get? "delivery_id" =
        some (.string "AAAAAAAAAAAAAAAAAAAAAA") := by
      simp [envelopeFrame, Fields.ofList, Fields.get?_insert]
    rw [deliveryFromFrame, hstream, hdelivery]
    rfl

theorem ofFrame_delivery {routeID : RouteID} {ciphertext : String}
    (h : Protocol.decodeDraftRelayAttachmentFrame
      (Json.marshal (envelopeFrame routeID ciphertext)) = .ok .envelope) :
    (ofFrame routeID ciphertext h).delivery.streamID = 7 ∧
      (ofFrame routeID ciphertext h).delivery.id = "AAAAAAAAAAAAAAAAAAAAAA" := ⟨rfl, rfl⟩

def onOldRoute : SubmittedEnvelope := ofFrame oldRoute "AAAA" (by decide +kernel)
def onNewRoute : SubmittedEnvelope := ofFrame newRoute "AAAA" (by decide +kernel)

def pairedHub : Hub :=
  let hub := ((Hub.start Relay.defaultValidConfig).attach "alice").hub
  let hub := (hub.attach "bob").hub
  let hub := (hub.pair oldRoute "alice" "bob").hub
  (hub.pair newRoute "alice" "bob").hub

/-- The hub once it has forwarded the envelope on the old route. -/
def migratingHub : Hub :=
  (pairedHub.forwardLocked none "alice" oldRoute onOldRoute.raw 0 (some onOldRoute.delivery)).hub

theorem migratingHub_open : migratingHub.closed = false := by decide +kernel

theorem exists_resubmits_onNewRoute :
    ∃ state, Resubmits onOldRoute onNewRoute migratingHub "alice" state 0 ∧
      state.deliveries.entries.get? (onOldRoute.delivery.key state.peerID) =
        some onOldRoute.delivery.digest := by
  have hsession : (migratingHub.sessions.get? "alice").any (fun state =>
      !migratingHub.isClosed state.ref &&
        state.deliveries.entries.get? (onOldRoute.delivery.key state.peerID) ==
          some onOldRoute.delivery.digest) = true := by decide +kernel
  have hroute : (migratingHub.routes.get? onNewRoute.routeID).any (fun route =>
      (route.peer "alice").isSome && migratingHub.routeLiveLocked route 0) = true := by
    decide +kernel
  obtain ⟨state, hstate, hsession⟩ := (Option.any_eq_true _ _).mp hsession
  obtain ⟨route, hroute, hlive⟩ := (Option.any_eq_true _ _).mp hroute
  rw [Bool.and_eq_true] at hsession hlive
  obtain ⟨target, htarget⟩ := Option.isSome_iff_exists.mp hlive.1
  have hheld := beq_iff_eq.mp hsession.2
  refine ⟨state, ⟨migratingHub_open, hstate, ?_, ⟨route, target, hroute, htarget, hlive.2⟩,
    ?_, ?_, ?_⟩, hheld⟩
  · exact Bool.not_eq_true' _ |>.mp hsession.1
  · rw [onOldRoute, onNewRoute, (ofFrame_delivery _).1, (ofFrame_delivery _).1]
  · rw [onOldRoute, onNewRoute, (ofFrame_delivery _).2, (ofFrame_delivery _).2]
  · intro digest hdigest
    exact Option.some.inj (hdigest.symm.trans hheld)

theorem digest_onNewRoute_ne : onOldRoute.delivery.digest ≠ onNewRoute.delivery.digest := by
  decide +kernel

theorem classifiedByCiphertext_iff_onNewRoute :
    ∃ state, migratingHub.sessions.get? "alice" = some state ∧
      (ClassifiedByCiphertext onOldRoute onNewRoute migratingHub "alice" 0 ↔
        (state.deliveries.entries.get? (onOldRoute.delivery.key state.peerID)).isSome = true ∧
          (onOldRoute.ciphertext = onNewRoute.ciphertext →
            onOldRoute.frame = onNewRoute.frame)) := by
  obtain ⟨state, hresubmits, _⟩ := exists_resubmits_onNewRoute
  have hcollision : NoCollision onOldRoute onNewRoute := by
    intro heq
    rw [← digest_eq, ← digest_eq] at heq
    exact absurd heq digest_onNewRoute_ne
  exact ⟨state, hresubmits.session, classifiedByCiphertext_iff hresubmits hcollision⟩

/-- The same ciphertext on the other route is a conflict. -/
theorem not_classifiedByCiphertext_onNewRoute :
    ¬ ∀ (first second : SubmittedEnvelope) (hub : Hub) (source : SessionID)
      (state : SessionState) (now : Time), Resubmits first second hub source state now →
        (state.deliveries.entries.get? (first.delivery.key state.peerID)).isSome = true →
          ClassifiedByCiphertext first second hub source now := by
  intro h
  obtain ⟨state, hresubmits, hheld⟩ := exists_resubmits_onNewRoute
  have hclassified := h onOldRoute onNewRoute migratingHub "alice" state 0 hresubmits
    (by rw [hheld]; rfl)
  have hsame : onOldRoute.ciphertext = onNewRoute.ciphertext := by decide +kernel
  rw [ClassifiedByCiphertext, hresubmits.forwardLocked_remembered hheld,
    if_neg digest_onNewRoute_ne, if_pos hsame] at hclassified
  exact absurd (congrArg Relay.Outcome.value hclassified) (by rintro ⟨⟩)

end Migration

end SubmittedEnvelope

end Branch.Wss
