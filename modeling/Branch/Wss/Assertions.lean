import Branch.Protocol.FrameFields
import Branch.Wss.Handler

/-!
The type assertions of the handler hold of every frame that the decoder accepts.
-/

namespace Branch.Wss

open Branch.Lib
open Branch.Protocol (RawFrame RelayFrameType)
open Branch.Relay (Bytes)

section Safe

def Safe {α : Type} (result : Except Fault α) : Prop := result ≠ .error .panic

variable {α β : Type} {x : Except Fault α} {f : α → Except Fault β}

theorem safe_ok (a : α) : Safe (.ok a : Except Fault α) := by
  rintro ⟨⟩

theorem safe_fail (err : HandlerErr) : Safe (fail err : Except Fault α) := by
  rintro ⟨⟩

theorem safe_bind (hx : Safe x) (hf : ∀ a, x = .ok a → Safe (f a)) : Safe (x >>= f) := by
  cases x with
  | error fault => exact fun h => hx (congrArg Except.error (Except.error.inj h))
  | ok a => exact hf a rfl

theorem safe_assertString {v : Option Json} (h : ∃ s, v = some (.string s)) :
    Safe (assertString v) := by
  obtain ⟨s, rfl⟩ := h
  exact safe_ok s

theorem safe_relayError (err : Option Relay.Err) : Safe (relayError err) := by
  cases err with
  | none => exact safe_ok ()
  | some err => exact safe_fail (.relay err)

end Safe

section Fields

/-- The fields that the handler takes for strings without a check. -/
def stringFields : RelayFrameType → List String
  | .hello => ["client_nonce"]
  | .challenge =>
    ["client_nonce", "relay_nonce", "relay_public_key", "transcript_hash", "relay_proof"]
  | .auth =>
    ["client_nonce", "relay_nonce", "transcript_hash", "client_public_key", "client_proof"]
  | .presence => ["peer_id"]
  | .lookup => ["peer_id"]
  | .identityWant => ["branch_id", "session_id"]
  | .identityHave => ["branch_id"]
  | .contactLookup => ["request_id", "branch_id"]
  | .rendezvous => ["route_id", "peer_id"]
  | .envelope => ["route_id", "delivery_id"]
  | _ => []

def IsString (v : Option Json) : Prop := ∃ s, v = some (.string s)

variable {raw : RawFrame} {frame : TypedFrame} {key : String}

theorem Reads.isString {size : Nat} {u : Unit} (h : Reads raw frame)
    (hfield : Protocol.readBase64Field raw key size = .ok u) : IsString (frame.get? key) := by
  obtain ⟨s, hs, _⟩ := h.base64 hfield
  exact ⟨s, hs⟩

theorem Reads.isString_branchID {u : Unit} (h : Reads raw frame)
    (hfield : Protocol.readBranchIDField raw = .ok u) : IsString (frame.get? "branch_id") := by
  obtain ⟨s, hs, _⟩ := h.branchID hfield
  exact ⟨s, hs⟩

open Protocol in
theorem isString_of_validated {t : RelayFrameType} (h : Reads raw frame)
    (hvalid : validateRelayFrame raw t = .ok ()) :
    ∀ key ∈ stringFields t, IsString (frame.get? key) := by
  cases t <;> simp only [stringFields, List.forall_mem_cons, List.not_mem_nil, false_imp_iff,
    implies_true, and_true]
  case hello =>
      have hfields := validateHelloFrame_iff.mp hvalid
      exact h.isString hfields.1
  case challenge =>
      obtain ⟨_, hclient, hrelay, hhash, _, hkey, hproof, _⟩ :=
        validateChallengeFrame_iff.mp hvalid
      exact ⟨h.isString hclient, h.isString hrelay, h.isString hkey, h.isString hhash,
        h.isString hproof⟩
  case auth =>
      obtain ⟨_, hkey, hclient, hrelay, hhash, hproof⟩ := validateAuthFrame_iff.mp hvalid
      exact ⟨h.isString hclient, h.isString hrelay, h.isString hhash, h.isString hkey,
        h.isString hproof⟩
  case presence =>
      obtain ⟨_, _, _, hpeer, _⟩ := validatePresenceFrame_iff.mp hvalid
      exact h.isString hpeer
  case lookup =>
      obtain ⟨_, _, hpeer, _⟩ := validateLookupFrame_iff.mp hvalid
      exact h.isString hpeer
  case identityWant =>
      obtain ⟨_, _, hsession, hbranch, _⟩ := validateIdentityWantFrame_iff.mp hvalid
      exact ⟨h.isString_branchID hbranch, h.isString hsession⟩
  case identityHave =>
      obtain ⟨_, _, hbranch, _⟩ := validateIdentityHaveFrame_iff.mp hvalid
      exact h.isString_branchID hbranch
  case contactLookup =>
      obtain ⟨_, _, hrequest, hbranch, _⟩ := validateContactLookupFrame_iff.mp hvalid
      exact ⟨h.isString hrequest, h.isString_branchID hbranch⟩
  case rendezvous =>
      obtain ⟨_, _, hroute, hpeer, _⟩ := validateRendezvousFrame_iff.mp hvalid
      exact ⟨h.isString hroute, h.isString hpeer⟩
  case envelope =>
      obtain ⟨_, _, hroute, _, _, _, hdelivery, _⟩ := validateEnvelopeFrame_iff.mp hvalid
      exact ⟨h.isString hroute, h.isString hdelivery⟩

theorem isString_of_decoded {text : List UInt8} {t : RelayFrameType}
    (h : decodeTypedFrame text = .ok frame) (htype : Wss.frameType frame = some t) :
    ∀ key ∈ stringFields t, IsString (frame.get? key) := by
  obtain ⟨raw, t', hreads, htype', hvalid⟩ := decodeTypedFrame_eq_ok h
  obtain rfl : t' = t := Option.some.inj ((hreads.frameType htype').symm.trans htype)
  exact isString_of_validated hreads hvalid

end Fields

section Dispatch

variable {env : Environment} {attached : Attached} {raw : Bytes} {frame : TypedFrame}

theorem safe_writeFrame : Safe (writeFrame env attached frame) := by
  unfold writeFrame
  split
  · exact safe_fail _
  · exact safe_ok _

theorem safe_handleContactAnnounce : Safe (handleContactAnnounce attached frame) := by
  unfold handleContactAnnounce
  repeat' split
  all_goals first | exact safe_fail _ | exact safe_ok _

theorem safe_handleContactLookup (hrequest : IsString (frame.get? "request_id"))
    (hbranch : IsString (frame.get? "branch_id")) :
    Safe (handleContactLookup env attached frame) := by
  unfold handleContactLookup
  split
  · exact safe_fail _
  · split
    · exact safe_fail _
    · split
      · exact safe_fail _
      · split
        · exact safe_fail _
        · refine safe_bind (safe_assertString hrequest) fun requestID _ => ?_
          refine safe_bind (safe_assertString hbranch) fun branchID _ => ?_
          repeat' split
          all_goals exact safe_ok _

theorem safe_handlePresence (hpeer : IsString (frame.get? "peer_id")) :
    Safe (handlePresence env attached frame) := by
  refine safe_bind (safe_assertString hpeer) fun peerID _ => ?_
  split
  · exact safe_fail _
  · exact safe_bind (safe_relayError _) fun _ _ => safe_ok _

theorem safe_handleHeartbeat : Safe (handleHeartbeat env) :=
  safe_bind (safe_relayError _) fun _ _ => safe_ok _

theorem safe_handleLookup (hpeer : IsString (frame.get? "peer_id")) :
    Safe (handleLookup env attached frame) := by
  have hack : Safe (writeFederationLookupAck env attached) := by
    unfold writeFederationLookupAck
    split
    · exact safe_fail _
    · exact safe_writeFrame
  refine safe_bind (safe_assertString hpeer) fun peerID _ => ?_
  repeat' split
  all_goals first | exact hack | exact safe_fail _ | exact safe_ok _

theorem safe_acceptedHopLimit {hopLimit : Nat} :
    Safe (acceptedHopLimit env attached frame hopLimit) := by
  unfold acceptedHopLimit
  repeat' split
  all_goals first | exact safe_fail _ | exact safe_ok _

theorem safe_handleIdentityWant (hbranch : IsString (frame.get? "branch_id"))
    (hsession : IsString (frame.get? "session_id")) :
    Safe (handleIdentityWant env attached frame) := by
  refine safe_bind (safe_assertString hbranch) fun branchID _ => ?_
  split
  · exact safe_fail _
  · split
    · exact safe_fail _
    · refine safe_bind safe_acceptedHopLimit fun hopLimit _ => ?_
      exact safe_bind (safe_assertString hsession) fun _ _ => safe_writeFrame

theorem safe_handleIdentityHave (hbranch : IsString (frame.get? "branch_id")) :
    Safe (handleIdentityHave env frame) := by
  unfold handleIdentityHave
  split
  · exact safe_ok _
  · refine safe_bind (safe_assertString hbranch) fun branchID _ => ?_
    split
    · exact safe_fail _
    · split
      · exact safe_ok _
      · exact safe_fail _

theorem safe_handleRendezvous (hroute : IsString (frame.get? "route_id"))
    (hpeer : IsString (frame.get? "peer_id")) : Safe (handleRendezvous env attached frame) := by
  refine safe_bind (safe_assertString hroute) fun routeID _ => ?_
  refine safe_bind (safe_assertString hpeer) fun peerID _ => ?_
  split
  · exact safe_fail _
  · split
    · split
      · exact safe_fail _
      · exact safe_bind (safe_relayError _) fun _ _ => safe_ok _
    · split
      · exact safe_ok _
      · split
        · exact safe_fail _
        · exact safe_bind (safe_relayError _) fun _ _ => safe_ok _
      · exact safe_fail _

theorem safe_handleEnvelope (hroute : IsString (frame.get? "route_id"))
    (hdelivery : IsString (frame.get? "delivery_id")) :
    Safe (handleEnvelope env attached raw frame) := by
  refine safe_bind (safe_assertString hroute) fun routeID _ => ?_
  split
  · exact safe_fail _
  · rename_i delivery _
    show Safe (if _ then _ else _)
    split
    · exact safe_bind (safe_relayError _) fun _ _ => safe_ok _
    · split
      · exact safe_bind (safe_assertString hdelivery) fun _ _ => safe_writeFrame
      · exact safe_ok _

theorem safe_dispatch (hstrings : ∀ t, frameType frame = some t →
      ∀ key ∈ stringFields t, IsString (frame.get? key)) :
    Safe (dispatch env attached raw frame) := by
  unfold dispatch
  split
  · exact safe_handleContactAnnounce
  · rename_i htype
    exact safe_handleContactLookup (hstrings _ htype _ (by decide)) (hstrings _ htype _ (by decide))
  · exact safe_fail _
  · rename_i htype
    exact safe_handlePresence (hstrings _ htype _ (by decide))
  · exact safe_handleHeartbeat
  · rename_i htype
    exact safe_handleLookup (hstrings _ htype _ (by decide))
  · rename_i htype
    exact safe_handleIdentityWant (hstrings _ htype _ (by decide)) (hstrings _ htype _ (by decide))
  · rename_i htype
    exact safe_handleIdentityHave (hstrings _ htype _ (by decide))
  · rename_i htype
    exact safe_handleRendezvous (hstrings _ htype _ (by decide)) (hstrings _ htype _ (by decide))
  · rename_i htype
    exact safe_handleEnvelope (hstrings _ htype _ (by decide)) (hstrings _ htype _ (by decide))
  · exact safe_ok _

theorem safe_handleFrame {sequences : SequenceTracker} :
    Safe (handleFrame env attached sequences raw).2 := by
  unfold handleFrame
  split
  · exact safe_fail _
  · rename_i frame hframe
    split
    · exact safe_fail _
    · split
      · exact safe_fail _
      · exact safe_dispatch fun t htype => isString_of_decoded hframe htype

end Dispatch

section Handshake

variable {env : HandshakeEnvironment} {raw : Bytes} {frame : TypedFrame} {key : String}

theorem safe_federationKey {beaconWrapper : String} : Safe (federationKey env beaconWrapper) := by
  unfold federationKey
  repeat' split
  all_goals first | exact safe_fail _ | exact safe_ok _

theorem safe_expectedFederationKey : Safe (expectedFederationKey env frame) := by
  unfold expectedFederationKey
  repeat' split
  all_goals first | exact safe_fail _ | exact safe_ok _ | exact safe_federationKey

theorem safe_decodeHello : Safe (decodeHello env raw) := by
  unfold decodeHello
  split
  · exact safe_fail _
  · rename_i frame hframe
    split
    · exact safe_fail _
    · rename_i htype
      have hstrings := isString_of_decoded hframe (not_not.mp htype)
      refine safe_bind (safe_assertString (hstrings _ (by decide))) fun nonce _ => ?_
      split
      · exact safe_fail _
      · split
        · split
          · exact safe_fail _
          · exact safe_bind safe_expectedFederationKey fun _ _ => safe_ok _
        · exact safe_fail _

theorem safe_checkEcho {expected : Bytes} (h : IsString (frame.get? key)) :
    Safe (checkEcho frame key expected) := by
  refine safe_bind (safe_assertString h) fun value _ => ?_
  repeat' split
  all_goals first | exact safe_fail _ | exact safe_ok _

theorem safe_authBytes {size : Nat} (h : IsString (frame.get? key)) :
    Safe (authBytes frame key size) := by
  refine safe_bind (safe_assertString h) fun value _ => ?_
  split
  · exact safe_fail _
  · exact safe_ok _

theorem safe_validateAuth {clientNonce relayNonce transcriptHash expectedKey : Bytes} :
    Safe (validateAuth env raw clientNonce relayNonce transcriptHash expectedKey) := by
  unfold validateAuth
  split
  · exact safe_fail _
  · rename_i frame hframe
    split
    · exact safe_fail _
    · rename_i htype
      have hstrings := isString_of_decoded hframe (not_not.mp htype)
      refine safe_bind (safe_checkEcho (hstrings _ (by decide))) fun _ _ => ?_
      refine safe_bind (safe_checkEcho (hstrings _ (by decide))) fun _ _ => ?_
      refine safe_bind (safe_checkEcho (hstrings _ (by decide))) fun _ _ => ?_
      refine safe_bind (safe_authBytes (hstrings _ (by decide))) fun clientPublicKey _ => ?_
      refine safe_bind (safe_authBytes (hstrings _ (by decide))) fun clientProof _ => ?_
      split
      · exact safe_fail _
      · split
        · exact safe_fail _
        · exact safe_ok _

theorem safe_challengeBytes {size : Nat} (h : IsString (frame.get? key)) :
    Safe (challengeBytes frame key size) := by
  refine safe_bind (safe_assertString h) fun value _ => ?_
  split
  · exact safe_fail _
  · exact safe_ok _

/-- A challenge that is read has passed the check that it selects an offer, which a frame of
another type does not. -/
theorem frameType_of_selected (hframe : decodeTypedFrame raw = .ok frame)
    (hselected : frame.get? "selected" ≠ none) : frameType frame = some .challenge := by
  obtain ⟨fields, t, hreads, htype, hvalid⟩ := decodeTypedFrame_eq_ok hframe
  obtain rfl := Protocol.eq_challenge_of_selected hvalid fun hnone =>
    hselected (hreads.get?_eq_none hnone)
  exact hreads.frameType htype

theorem safe_readChallenge {helloRaw expectedKey : Bytes} {expectedProfile : String} :
    Safe (readChallenge env helloRaw raw expectedKey expectedProfile) := by
  unfold readChallenge
  split
  · exact safe_fail _
  · rename_i challenge hchallenge
    have hstrings (hselected : challenge.get? "selected" ≠ none) :=
      isString_of_decoded hchallenge (frameType_of_selected hchallenge hselected)
    cases hselected : challenge.get? "selected" with
    | none =>
      rw [verifyFederationChallenge, hselected]
      refine safe_bind ?_ fun _ h => ?_
      · split
        · exact safe_fail _
        · exact safe_fail _
      · split at h
        · cases h
        · cases h
    | some selected =>
      have hstrings := hstrings (by rw [hselected]; rintro ⟨⟩)
      refine safe_bind ?_ fun _ _ => safe_challengeBytes (hstrings _ (by decide))
      unfold verifyFederationChallenge
      split
      · exact safe_fail _
      · split
        · exact safe_fail _
        · refine safe_bind (safe_challengeBytes (hstrings _ (by decide))) fun _ _ => ?_
          refine safe_bind (safe_challengeBytes (hstrings _ (by decide))) fun _ _ => ?_
          refine safe_bind (safe_challengeBytes (hstrings _ (by decide))) fun relayKey _ => ?_
          split
          · exact safe_fail _
          · split
            · exact safe_fail _
            · show Safe (if _ then _ else _)
              split
              · exact safe_fail _
              · refine safe_bind (safe_challengeBytes (hstrings _ (by decide))) fun _ _ => ?_
                split
                · exact safe_fail _
                · exact safe_ok _

end Handshake

/-- Whatever is received in whatever state of an attachment, no assertion fails: the handler
writes frames, or answers with an error frame, or closes. -/
theorem never_crashes :
    (∀ env attached sequences raw, (readTurn env attached sequences raw).2 ≠ .crashed) ∧
    (∀ env raw, decodeHello env raw ≠ .error .panic) ∧
    (∀ env raw clientNonce relayNonce transcriptHash expectedKey,
      validateAuth env raw clientNonce relayNonce transcriptHash expectedKey ≠ .error .panic) ∧
    ∀ env helloRaw raw expectedKey expectedProfile,
      readChallenge env helloRaw raw expectedKey expectedProfile ≠ .error .panic := by
  refine ⟨?_, fun _ _ => safe_decodeHello, fun _ _ _ _ _ _ => safe_validateAuth,
    fun _ _ _ _ _ => safe_readChallenge⟩
  intro env attached sequences raw
  have hsafe : Safe (handleFrame env attached sequences raw).2 := safe_handleFrame
  unfold readTurn
  split
  · rintro ⟨⟩
  · rintro ⟨⟩
  · rename_i hresult
    rw [hresult] at hsafe
    exact absurd rfl hsafe

end Branch.Wss
