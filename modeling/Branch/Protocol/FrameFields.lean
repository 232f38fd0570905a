import Branch.Protocol.RelayAttachment

/-!
What each validator checks of the frames of its type, as a conjunction.
-/

namespace Branch.Protocol

open Branch.Lib

def HasUint (frame : RawFrame) (key : String) (minValue maxValue : Int) : Prop :=
  ∃ n, readBoundedUintField frame key minValue maxValue = .ok n

def HasTimestamp (frame : RawFrame) (key : String) : Prop := HasUint frame key 0 maxDraftTimestamp

def HasBase64 (frame : RawFrame) (key : String) (size : Nat) : Prop :=
  readBase64Field frame key size = .ok ()

def HasBranchID (frame : RawFrame) : Prop := readBranchIDField frame = .ok ()

def HasBool (frame : RawFrame) (key : String) : Prop := ∃ b, readBoolField frame key = .ok b

def OnlyKeys (frame : RawFrame) (keys : List String) : Prop :=
  rejectUnknownRawKeys frame keys = .ok ()

/-- Two timestamps, the second one at most `most` behind the first. -/
def HasLifetime (frame : RawFrame) (most : Int) : Prop :=
  ∃ issuedAt expiresAt, readTimestampField frame "issued_at" = .ok issuedAt ∧
    readTimestampField frame "expires_at" = .ok expiresAt ∧
      ¬ (expiresAt ≤ issuedAt ∨ most < expiresAt - issuedAt)

variable {frame : RawFrame} {key : String}

theorem bounds_of_readBoundedUintField {minValue maxValue n : Int}
    (h : readBoundedUintField frame key minValue maxValue = .ok n) :
    minValue ≤ n ∧ n ≤ maxValue := by
  unfold readBoundedUintField at h
  split at h
  · cases h
  · split at h
    · cases h
    · split at h
      · cases h
      · rename_i hbound
        obtain rfl := Except.ok.inj h
        omega

theorem isSome_of_onlyKeys {keys : List String} (h : OnlyKeys frame keys)
    (hkey : key ∈ keys) : (frame.get? key).isSome = true := by
  unfold OnlyKeys rejectUnknownRawKeys rejectUnknownRawKeysOptional at h
  split at h
  · cases h
  · rename_i hfind
    have hsome := List.find?_eq_none.mp hfind key hkey
    simpa [Option.isNone_iff_eq_none, Option.isSome_iff_ne_none] using hsome

theorem get?_eq_none_of_rejectUnknown {required optional : List String}
    (h : rejectUnknownRawKeysOptional frame required optional = .ok ())
    (hkey : key ∉ required ++ optional) : frame.get? key = none := by
  unfold rejectUnknownRawKeysOptional at h
  split at h
  · cases h
  · split at h
    · cases h
    · rename_i hfind
      refine Option.eq_none_iff_forall_ne_some.mpr fun v hv => ?_
      have hknown := List.find?_eq_none.mp hfind (key, v) (Fields.get?_eq_some_iff.mp hv)
      simp only [decide_eq_true_eq, not_not] at hknown
      exact hkey hknown

theorem get?_eq_none_of_onlyKeys {keys : List String} (h : OnlyKeys frame keys)
    (hkey : key ∉ keys) : frame.get? key = none :=
  get?_eq_none_of_rejectUnknown h (by rwa [List.append_nil])

theorem validateHelloFrame_iff :
    validateHelloFrame frame = .ok () ↔
      HasBase64 frame "client_nonce" 32 ∧ HasTimestamp frame "client_time" ∧
      ((readStringField frame "requested_role" = .ok relayForwardLiveRole ∧
          OnlyKeys frame ["type", "client_nonce", "client_time", "requested_role",
            "max_frame_bytes", "offers"]) ∨
        (readStringField frame "requested_role" = .ok relayFederationLiveRole ∧
          OnlyKeys frame ["type", "client_nonce", "client_time", "requested_role",
            "relay_beacon", "max_frame_bytes", "offers"] ∧
          readBootstrapWrapperField frame "relay_beacon" = .ok ())) ∧
      HasUint frame "max_frame_bytes" 1 49152 ∧
      validateVersionOffers frame "offers" = .ok () := by
  simp only [validateHelloFrame, bind_eq_ok, exists_unit, ite_eq_ok, throw_eq_ok, false_and,
    and_false, false_or, or_false, exists_and_right, OnlyKeys, HasBase64, HasUint, HasTimestamp,
    readTimestampField]
  constructor
  · rintro ⟨hnonce, htime, role, hrole, hrest⟩
    refine ⟨hnonce, htime, ?_⟩
    rcases hrest with ⟨rfl, hkeys, n, hn, _, hoffers⟩ |
      ⟨_, rfl, hkeys, hbeacon, n, hn, _, hoffers⟩
    · exact ⟨.inl ⟨hrole, hkeys⟩, ⟨n, hn⟩, hoffers⟩
    · exact ⟨.inr ⟨hrole, hkeys, hbeacon⟩, ⟨n, hn⟩, hoffers⟩
  · rintro ⟨hnonce, htime, hrole, ⟨n, hn⟩, hoffers⟩
    have hne : n ≠ 0 := by
      have hbounds := bounds_of_readBoundedUintField hn
      omega
    refine ⟨hnonce, htime, ?_⟩
    rcases hrole with ⟨hrole, hkeys⟩ | ⟨hrole, hkeys, hbeacon⟩
    · exact ⟨_, hrole, .inl ⟨rfl, hkeys, n, hn, hne, hoffers⟩⟩
    · exact ⟨_, hrole, .inr ⟨by decide, rfl, hkeys, hbeacon, n, hn, hne, hoffers⟩⟩

theorem validateChallengeFrame_iff :
    validateChallengeFrame frame = .ok () ↔
      OnlyKeys frame ["type", "client_nonce", "relay_nonce", "issued_at", "expires_at",
        "relay_public_key", "selected", "transcript_hash", "relay_proof"] ∧
      HasBase64 frame "client_nonce" 32 ∧ HasBase64 frame "relay_nonce" 32 ∧
      HasBase64 frame "transcript_hash" 32 ∧ HasLifetime frame 60 ∧
      HasBase64 frame "relay_public_key" 32 ∧ HasBase64 frame "relay_proof" 64 ∧
      validateVersionOffer (readObjectField frame "selected") = .ok () := by
  simp only [validateChallengeFrame, bind_eq_ok, exists_unit, ite_eq_ok, throw_eq_ok, false_and,
    and_false, false_or, OnlyKeys, HasBase64, HasLifetime]
  constructor
  · rintro ⟨hkeys, hclient, hrelay, hhash, issuedAt, hissued, expiresAt, hexpires, hlife, hrest⟩
    exact ⟨hkeys, hclient, hrelay, hhash, ⟨issuedAt, expiresAt, hissued, hexpires, hlife⟩, hrest⟩
  · rintro ⟨hkeys, hclient, hrelay, hhash, ⟨issuedAt, expiresAt, hissued, hexpires, hlife⟩, hrest⟩
    exact ⟨hkeys, hclient, hrelay, hhash, issuedAt, hissued, expiresAt, hexpires, hlife, hrest⟩

theorem validateIdentityWantFrame_iff :
    validateIdentityWantFrame frame = .ok () ↔
      ((frame.get? "request_id").isSome = (frame.get? "origin_relay_key").isSome) ∧
      (((frame.get? "request_id").isSome = true ∧
          OnlyKeys frame ["type", "session_id", "branch_id", "sequence", "request_id",
            "origin_relay_key", "hop_limit"] ∧
          HasBase64 frame "request_id" 16 ∧ HasBase64 frame "origin_relay_key" 32) ∨
        ((frame.get? "request_id").isSome = false ∧
          OnlyKeys frame ["type", "session_id", "branch_id", "sequence", "hop_limit"])) ∧
      HasBase64 frame "session_id" 32 ∧ HasBranchID frame ∧
      HasUint frame "sequence" 0 maxDraftTimestamp ∧
      HasUint frame "hop_limit" 0 (if (frame.get? "request_id").isSome then 1 else 4) := by
  simp only [validateIdentityWantFrame, bind_eq_ok, exists_unit, ite_eq_ok, throw_eq_ok,
    false_and, and_false, false_or, exists_and_right, pure_eq_ok, and_true, Bool.not_eq_true,
    ne_eq, not_not]
  constructor
  · rintro ⟨hcontext, ⟨hsome, hkeys, hrequest, horigin, hrest⟩ | ⟨hnone, hkeys, hrest⟩⟩
    · exact ⟨hcontext, .inl ⟨hsome, hkeys, hrequest, horigin⟩, hrest⟩
    · exact ⟨hcontext, .inr ⟨hnone, hkeys⟩, hrest⟩
  · rintro ⟨hcontext, ⟨hsome, hkeys, hrequest, horigin⟩ | ⟨hnone, hkeys⟩, hrest⟩
    · exact ⟨hcontext, .inl ⟨hsome, hkeys, hrequest, horigin, hrest⟩⟩
    · exact ⟨hcontext, .inr ⟨hnone, hkeys, hrest⟩⟩

theorem validateAuthFrame_iff :
    validateAuthFrame frame = .ok () ↔
      OnlyKeys frame ["type", "client_public_key", "client_nonce", "relay_nonce",
        "transcript_hash", "client_proof"] ∧
      HasBase64 frame "client_public_key" 32 ∧ HasBase64 frame "client_nonce" 32 ∧
      HasBase64 frame "relay_nonce" 32 ∧ HasBase64 frame "transcript_hash" 32 ∧
      HasBase64 frame "client_proof" 64 := by
  simp only [validateAuthFrame, bind_eq_ok, exists_unit, OnlyKeys, HasBase64]

theorem validateReadyFrame_iff :
    validateReadyFrame frame = .ok () ↔
      OnlyKeys frame ["type", "session_id", "route_id", "presence_ttl_seconds",
        "heartbeat_interval_seconds", "accepted_limits"] ∧
      HasBase64 frame "session_id" 32 ∧ HasBase64 frame "route_id" 16 ∧
      HasUint frame "presence_ttl_seconds" 1 300 ∧
      HasUint frame "heartbeat_interval_seconds" 1 60 ∧
      validateAcceptedLimits (readObjectField frame "accepted_limits") = .ok () := by
  simp only [validateReadyFrame, bind_eq_ok, exists_unit, exists_and_right, OnlyKeys, HasBase64,
    HasUint]

theorem validatePresenceFrame_iff :
    validatePresenceFrame frame = .ok () ↔
      OnlyKeys frame ["type", "session_id", "route_id", "peer_id", "sequence", "ttl_seconds",
        "sent_at"] ∧
      HasBase64 frame "session_id" 32 ∧ HasBase64 frame "route_id" 16 ∧
      HasBase64 frame "peer_id" 32 ∧ HasUint frame "sequence" 0 maxDraftTimestamp ∧
      HasUint frame "ttl_seconds" 1 300 ∧ HasTimestamp frame "sent_at" := by
  simp only [validatePresenceFrame, bind_eq_ok, exists_unit, exists_and_right, pure_eq_ok, and_true,
    OnlyKeys, HasBase64, HasUint, HasTimestamp, readTimestampField]

theorem validateHeartbeatFrame_iff :
    validateHeartbeatFrame frame = .ok () ↔
      OnlyKeys frame ["type", "session_id", "sequence", "sent_at"] ∧
      HasBase64 frame "session_id" 32 ∧ HasUint frame "sequence" 0 maxDraftTimestamp ∧
      HasTimestamp frame "sent_at" := by
  simp only [validateHeartbeatFrame, bind_eq_ok, exists_unit, exists_and_right, pure_eq_ok,
    and_true, OnlyKeys, HasBase64, HasUint, HasTimestamp, readTimestampField]

theorem validateLookupFrame_iff :
    validateLookupFrame frame = .ok () ↔
      OnlyKeys frame ["type", "session_id", "peer_id", "sequence"] ∧
      HasBase64 frame "session_id" 32 ∧ HasBase64 frame "peer_id" 32 ∧
      HasUint frame "sequence" 0 maxDraftTimestamp := by
  simp only [validateLookupFrame, bind_eq_ok, exists_unit, pure_eq_ok, and_true, OnlyKeys,
    HasBase64, HasUint]

theorem validateIdentityHaveFrame_iff :
    validateIdentityHaveFrame frame = .ok () ↔
      OnlyKeys frame ["type", "session_id", "branch_id", "sequence", "records"] ∧
      HasBase64 frame "session_id" 32 ∧ HasBranchID frame ∧
      HasUint frame "sequence" 0 maxDraftTimestamp ∧
      readIdentityRecordsField frame "records" = .ok () := by
  simp only [validateIdentityHaveFrame, bind_eq_ok, exists_unit, exists_and_right, OnlyKeys,
    HasBase64, HasUint, HasBranchID]

theorem validateContactAnnounceFrame_iff :
    validateContactAnnounceFrame frame = .ok () ↔
      OnlyKeys frame ["type", "session_id", "discoverable", "sequence"] ∧
      HasBase64 frame "session_id" 32 ∧ HasBool frame "discoverable" ∧
      HasUint frame "sequence" 0 maxDraftTimestamp := by
  simp only [validateContactAnnounceFrame, bind_eq_ok, exists_unit, exists_and_right, pure_eq_ok,
    and_true, OnlyKeys, HasBase64, HasUint, HasBool]

theorem validateContactDiscoveryLifetime_iff :
    validateContactDiscoveryLifetime frame = .ok () ↔ HasLifetime frame 60000 := by
  simp only [validateContactDiscoveryLifetime, bind_eq_ok, ite_eq_ok, throw_eq_ok, and_false,
    false_or, pure_eq_ok, and_true, HasLifetime, exists_and_left]

theorem validateContactLookupFrame_iff :
    validateContactLookupFrame frame = .ok () ↔
      OnlyKeys frame ["type", "session_id", "request_id", "branch_id",
        "requester_hpke_public_key", "issued_at", "expires_at"] ∧
      HasBase64 frame "session_id" 32 ∧ HasBase64 frame "request_id" 16 ∧ HasBranchID frame ∧
      HasBase64 frame "requester_hpke_public_key" 32 ∧ HasLifetime frame 60000 := by
  simp only [validateContactLookupFrame, bind_eq_ok, exists_unit,
    validateContactDiscoveryLifetime_iff, OnlyKeys, HasBase64, HasBranchID]

theorem validateContactProbeFrame_iff :
    validateContactProbeFrame frame = .ok () ↔
      OnlyKeys frame ["type", "session_id", "request_id", "branch_id", "requester_peer_id",
        "requester_hpke_public_key", "issued_at", "expires_at"] ∧
      HasBase64 frame "session_id" 32 ∧ HasBase64 frame "request_id" 16 ∧ HasBranchID frame ∧
      HasBase64 frame "requester_peer_id" 32 ∧
      HasBase64 frame "requester_hpke_public_key" 32 ∧ HasLifetime frame 60000 := by
  simp only [validateContactProbeFrame, bind_eq_ok, exists_unit,
    validateContactDiscoveryLifetime_iff, OnlyKeys, HasBase64, HasBranchID]

theorem validateRendezvousFrame_iff :
    validateRendezvousFrame frame = .ok () ↔
      OnlyKeys frame ["type", "session_id", "route_id", "peer_id", "sequence"] ∧
      HasBase64 frame "session_id" 32 ∧ HasBase64 frame "route_id" 16 ∧
      HasBase64 frame "peer_id" 32 ∧ HasUint frame "sequence" 0 maxDraftTimestamp := by
  simp only [validateRendezvousFrame, bind_eq_ok, exists_unit, pure_eq_ok, and_true, OnlyKeys,
    HasBase64, HasUint]

theorem validateEnvelopeFrame_iff :
    validateEnvelopeFrame frame = .ok () ↔
      rejectUnknownRawKeysOptional frame ["type", "session_id", "route_id", "origin_route_id",
        "path_epoch", "stream_id", "delivery_id", "ciphertext", "ack_requested"]
        ["sender_peer_id"] = .ok () ∧
      HasBase64 frame "session_id" 32 ∧ HasBase64 frame "route_id" 16 ∧
      HasBase64 frame "origin_route_id" 16 ∧ HasUint frame "path_epoch" 0 maxDraftTimestamp ∧
      HasUint frame "stream_id" 0 maxDraftTimestamp ∧ HasBase64 frame "delivery_id" 16 ∧
      readBase64StringFieldBounded frame "ciphertext" maxDraftRelayCiphertextBytes = .ok () ∧
      ((frame.get? "sender_peer_id").isSome = true → HasBase64 frame "sender_peer_id" 32) ∧
      HasBool frame "ack_requested" := by
  simp only [validateEnvelopeFrame, bind_eq_ok, exists_unit, exists_and_right, ite_eq_ok, pure_eq_ok,
    and_true, HasBase64, HasUint, HasBool]
  refine and_congr_right fun _ => and_congr_right fun _ => and_congr_right fun _ =>
    and_congr_right fun _ => and_congr_right fun _ => and_congr_right fun _ =>
      and_congr_right fun _ => and_congr_right fun _ => ?_
  constructor
  · rintro (⟨_, hsender, hack⟩ | ⟨hnone, hack⟩)
    · exact ⟨fun _ => hsender, hack⟩
    · exact ⟨fun hsome => absurd hsome hnone, hack⟩
  · rintro ⟨hsender, hack⟩
    rcases em ((Fields.get? frame "sender_peer_id").isSome = true) with hsome | hnone
    · exact .inl ⟨hsome, hsender hsome, hack⟩
    · exact .inr ⟨hnone, hack⟩

theorem validateAckFrame_iff :
    validateAckFrame frame = .ok () ↔
      OnlyKeys frame ["type", "session_id", "delivery_id", "ack_type", "durable"] ∧
      HasBase64 frame "session_id" 32 ∧ HasBase64 frame "delivery_id" 16 ∧
      (∃ ackType, readStringField frame "ack_type" = .ok ackType ∧
        ackType ∈ ["relay.accepted", "relay.forwarded", "peer.received"]) ∧
      readBoolField frame "durable" = .ok false := by
  simp only [validateAckFrame, bind_eq_ok, exists_unit, ite_eq_ok, throw_eq_ok, and_false,
    false_or, false_and, pure_eq_ok, and_true, not_not, OnlyKeys, HasBase64]
  constructor
  · rintro ⟨hkeys, hsession, hdelivery, ackType, hack, hmem, durable, hdurable, hfalse⟩
    rw [Bool.not_eq_true] at hfalse
    subst hfalse
    exact ⟨hkeys, hsession, hdelivery, ⟨ackType, hack, hmem⟩, hdurable⟩
  · rintro ⟨hkeys, hsession, hdelivery, ⟨ackType, hack, hmem⟩, hdurable⟩
    exact ⟨hkeys, hsession, hdelivery, ackType, hack, hmem, false, hdurable, Bool.false_ne_true⟩

theorem validateErrorFrame_iff :
    validateErrorFrame frame = .ok () ↔
      OnlyKeys frame ["type", "code", "retryable", "detail"] ∧
      (∃ code, readStringField frame "code" = .ok code ∧ knownProtocolErrorCode code = true) ∧
      HasBool frame "retryable" ∧
      ∃ detail, readStringField frame "detail" = .ok detail ∧ detail.utf8ByteSize ≤ 256 := by
  simp only [validateErrorFrame, bind_eq_ok, exists_unit, ite_eq_ok, throw_eq_ok, and_false,
    false_or, false_and, pure_eq_ok, and_true, not_not, OnlyKeys, HasBool]
  constructor
  · rintro ⟨hkeys, code, hcode, hknown, retryable, hretryable, hdetail⟩
    have hsome : (frame.get? "detail").isSome = true := isSome_of_onlyKeys hkeys (by decide)
    refine ⟨hkeys, ⟨code, hcode, hknown⟩, ⟨retryable, hretryable⟩, ?_⟩
    rcases hdetail with ⟨_, detail, hdetail, hsize⟩ | hnone
    · exact ⟨detail, hdetail, by omega⟩
    · exact absurd hsome hnone
  · rintro ⟨hkeys, ⟨code, hcode, hknown⟩, ⟨retryable, hretryable⟩, detail, hdetail, hsize⟩
    have hsome : (frame.get? "detail").isSome = true := isSome_of_onlyKeys hkeys (by decide)
    exact ⟨hkeys, code, hcode, hknown, retryable, hretryable,
      .inl ⟨hsome, detail, hdetail, by omega⟩⟩

def allowedKeys : RelayFrameType → List String
  | .hello => ["type", "client_nonce", "client_time", "requested_role", "relay_beacon",
      "max_frame_bytes", "offers"]
  | .challenge => ["type", "client_nonce", "relay_nonce", "issued_at", "expires_at",
      "relay_public_key", "selected", "transcript_hash", "relay_proof"]
  | .auth => ["type", "client_public_key", "client_nonce", "relay_nonce", "transcript_hash",
      "client_proof"]
  | .ready => ["type", "session_id", "route_id", "presence_ttl_seconds",
      "heartbeat_interval_seconds", "accepted_limits"]
  | .presence => ["type", "session_id", "route_id", "peer_id", "sequence", "ttl_seconds",
      "sent_at"]
  | .heartbeat => ["type", "session_id", "sequence", "sent_at"]
  | .lookup => ["type", "session_id", "peer_id", "sequence"]
  | .identityWant => ["type", "session_id", "branch_id", "sequence", "request_id",
      "origin_relay_key", "hop_limit"]
  | .identityHave => ["type", "session_id", "branch_id", "sequence", "records"]
  | .contactAnnounce => ["type", "session_id", "discoverable", "sequence"]
  | .contactLookup => ["type", "session_id", "request_id", "branch_id",
      "requester_hpke_public_key", "issued_at", "expires_at"]
  | .contactProbe => ["type", "session_id", "request_id", "branch_id", "requester_peer_id",
      "requester_hpke_public_key", "issued_at", "expires_at"]
  | .rendezvous => ["type", "session_id", "route_id", "peer_id", "sequence"]
  | .envelope => ["type", "session_id", "route_id", "origin_route_id", "path_epoch",
      "stream_id", "delivery_id", "ciphertext", "ack_requested", "sender_peer_id"]
  | .ack => ["type", "session_id", "delivery_id", "ack_type", "durable"]
  | .error => ["type", "code", "retryable", "detail"]

theorem mem_of_onlyKeys {keys allowed : List String} (h : OnlyKeys frame keys)
    (hsub : keys ⊆ allowed) (hsome : frame.get? key ≠ none) : key ∈ allowed := by
  by_contra hmem
  exact hsome (get?_eq_none_of_onlyKeys h fun hkey => hmem (hsub hkey))

theorem mem_allowedKeys {t : RelayFrameType}
    (hvalid : validateRelayFrame frame t = .ok ()) (hsome : frame.get? key ≠ none) :
    key ∈ allowedKeys t := by
  have hkeys : ∀ keys, OnlyKeys frame keys → keys ⊆ allowedKeys t → key ∈ allowedKeys t :=
    fun keys h hsub => mem_of_onlyKeys h hsub hsome
  cases t
  case hello =>
      obtain ⟨_, _, ⟨_, h⟩ | ⟨_, h, _⟩, _⟩ := validateHelloFrame_iff.mp hvalid
      · exact hkeys _ h (by decide)
      · exact hkeys _ h (by decide)
  case identityWant =>
      obtain ⟨_, ⟨_, h, _⟩ | ⟨_, h⟩, _⟩ := validateIdentityWantFrame_iff.mp hvalid
      · exact hkeys _ h (by decide)
      · exact hkeys _ h (by decide)
  case envelope =>
      have h := (validateEnvelopeFrame_iff.mp hvalid).1
      by_contra hmem
      exact hsome (get?_eq_none_of_rejectUnknown h hmem)
  case challenge => exact hkeys _ (validateChallengeFrame_iff.mp hvalid).1 (by decide)
  case auth => exact hkeys _ (validateAuthFrame_iff.mp hvalid).1 (by decide)
  case ready => exact hkeys _ (validateReadyFrame_iff.mp hvalid).1 (by decide)
  case presence => exact hkeys _ (validatePresenceFrame_iff.mp hvalid).1 (by decide)
  case heartbeat => exact hkeys _ (validateHeartbeatFrame_iff.mp hvalid).1 (by decide)
  case lookup => exact hkeys _ (validateLookupFrame_iff.mp hvalid).1 (by decide)
  case identityHave => exact hkeys _ (validateIdentityHaveFrame_iff.mp hvalid).1 (by decide)
  case contactAnnounce => exact hkeys _ (validateContactAnnounceFrame_iff.mp hvalid).1 (by decide)
  case contactLookup => exact hkeys _ (validateContactLookupFrame_iff.mp hvalid).1 (by decide)
  case contactProbe => exact hkeys _ (validateContactProbeFrame_iff.mp hvalid).1 (by decide)
  case rendezvous => exact hkeys _ (validateRendezvousFrame_iff.mp hvalid).1 (by decide)
  case ack => exact hkeys _ (validateAckFrame_iff.mp hvalid).1 (by decide)
  case error => exact hkeys _ (validateErrorFrame_iff.mp hvalid).1 (by decide)

theorem eq_challenge_of_selected {t : RelayFrameType}
    (hvalid : validateRelayFrame frame t = .ok ()) (hselected : frame.get? "selected" ≠ none) :
    t = .challenge := by
  have hkey := mem_allowedKeys hvalid hselected
  cases t <;> first | rfl | exact absurd hkey (by decide)

end Branch.Protocol
