import Branch.Lib.Base64
import Branch.Lib.Except
import Branch.Lib.JsonMarshal
import Mathlib.Algebra.Ring.Int.Defs

/-!
The draft JSON frames of a relay attachment and the checks that a decoder makes before
it accepts one.
-/

namespace Branch.Protocol

open Branch.Lib

def maxDraftRelayAttachmentFrameBytes : Nat := 64 * 1024
def maxDraftRelayCiphertextBytes : Nat := 8 * 1024
def maxDraftIdentityRecords : Nat := 4
def maxDraftIdentityWrapper : Nat := 8192
def maxDraftStringBytes : Nat := 1024
def maxDraftTimestamp : Int := 2 ^ 53 - 1

def protocolID : String := "branch/connectivity/0"
def developmentProfileMultihash : String := "uEiCaVLmVxHgth49YdSwXKM201oM4W6PHc61z_1rz-J_xVw"
def relayForwardLiveRole : String := "relay.forward.live/0"
def relayFederationLiveRole : String := "relay.federate.live/0.draft"
def branchIDPrefix : String := "br1."
def branchTextWrapperPrefix : String := "BRANCH0."

inductive RelayFrameType
  | hello
  | challenge
  | auth
  | ready
  | presence
  | heartbeat
  | lookup
  | identityWant
  | identityHave
  | contactAnnounce
  | contactLookup
  | contactProbe
  | rendezvous
  | envelope
  | ack
  | error
  deriving DecidableEq, Repr

/-- The names that `KnownRelayFrameType` lists. -/
def RelayFrameType.ofName : String → Option RelayFrameType
  | "HELLO" => some .hello
  | "CHALLENGE" => some .challenge
  | "AUTH" => some .auth
  | "READY" => some .ready
  | "PRESENCE" => some .presence
  | "HEARTBEAT" => some .heartbeat
  | "LOOKUP" => some .lookup
  | "IDENTITY_WANT" => some .identityWant
  | "IDENTITY_HAVE" => some .identityHave
  | "CONTACT_ANNOUNCE" => some .contactAnnounce
  | "CONTACT_LOOKUP" => some .contactLookup
  | "CONTACT_PROBE" => some .contactProbe
  | "RENDEZVOUS" => some .rendezvous
  | "ENVELOPE" => some .envelope
  | "ACK" => some .ack
  | "ERROR" => some .error
  | _ => none

/-- Why a frame is not accepted. Every case but `oversized` is an
`ErrInvalidRelayAttachmentFrame`; `malformed` is a text that is not one JSON object. -/
inductive DecodeErr
  | oversized
  | malformed
  | missingFrame
  | missing (key : String)
  | unknown (key : String)
  | invalid (key : String)
  | duplicate (key : String)
  | unordered (key : String)
  | unsupportedFrameType
  | unsupportedRequestedRole
  | frameReplayed
  | incompleteFederationRequestContext
  | missingVersionOffer
  | unsupportedVersion
  | unsupportedProtocol
  | profileHashMismatch
  | capabilityRequired
  | missingAcceptedLimits
  | durableAckForbidden
  | unknownErrorCode
  | detailTooLarge
  deriving DecidableEq, Repr

abbrev RawFrame := Fields Json

section Readers

variable (frame : RawFrame) (key : String)

def readStringField : Except DecodeErr String :=
  match frame.get? key with
  | none => .error (.missing key)
  | some (.string s) =>
    if s = "" ∨ maxDraftStringBytes < s.utf8ByteSize then .error (.invalid key) else .ok s
  | some _ => .error (.invalid key)

/-- `null` leaves the zero value in place. -/
def readBoolField : Except DecodeErr Bool :=
  match frame.get? key with
  | none => .error (.missing key)
  | some (.bool b) => .ok b
  | some .null => .ok false
  | some _ => .error (.invalid key)

/-- A value that can be stored in an `int64`. -/
def int64Value : Json → Option Int
  | .null => some 0
  | .number d =>
    let n : Int := if d.negative then -d.integer else d.integer
    if d.isInteger ∧ -2 ^ 63 ≤ n ∧ n < 2 ^ 63 then some n else none
  | _ => none

def readBoundedUintField (minValue maxValue : Int) : Except DecodeErr Int :=
  match frame.get? key with
  | none => .error (.missing key)
  | some v =>
    match int64Value v with
    | none => .error (.invalid key)
    | some n => if n < minValue ∨ maxValue < n then .error (.invalid key) else .ok n

def readTimestampField : Except DecodeErr Int :=
  readBoundedUintField frame key 0 maxDraftTimestamp

def validBase64URLBytes (value : String) (size : Nat) : Bool :=
  value ≠ "" && value.utf8ByteSize ≤ maxDraftStringBytes &&
    match Base64.decode value with
    | some data => data.length = size
    | none => false

def readBase64Field (size : Nat) : Except DecodeErr Unit := do
  let value ← readStringField frame key
  if validBase64URLBytes value size then .ok () else .error (.invalid key)

def readBase64StringFieldBounded (maxBytes : Nat) : Except DecodeErr Unit :=
  match frame.get? key with
  | none => .error (.missing key)
  | some (.string s) =>
    if s = "" ∨ maxBytes < s.utf8ByteSize ∨ (Base64.decode s).isNone then
      .error (.invalid key)
    else .ok ()
  | some _ => .error (.invalid key)

/-- A nil map is `none`. -/
def readObjectField : Option RawFrame :=
  match frame.get? key with
  | some (.object members) => some (Fields.ofList members)
  | _ => none

/-- A value as a slice of strings, in which `null` is the empty string. -/
def stringItems : Json → Option (List String)
  | .null => some []
  | .array items => items.mapM fun
    | .string s => some s
    | .null => some ""
    | _ => none
  | _ => none

def readIdentityRecordsField : Except DecodeErr Unit :=
  match frame.get? key with
  | none => .error (.missing key)
  | some v =>
    match stringItems v with
    | none => .error (.invalid key)
    | some records =>
      if maxDraftIdentityRecords < records.length ∨
          ∃ record ∈ records, record = "" ∨ maxDraftIdentityWrapper < record.utf8ByteSize ∨
            ¬ branchTextWrapperPrefix.toList <+: record.toList then
        .error (.invalid key)
      else .ok ()

def readBootstrapWrapperField : Except DecodeErr Unit := do
  let value ← readStringField frame key
  if maxDraftIdentityWrapper < value.utf8ByteSize ∨
      ¬ branchTextWrapperPrefix.toList <+: value.toList then
    .error (.invalid key)
  else .ok ()

/-- The loop over the items, after `seen` in this order. -/
def checkOrderedUnique : List String → List String → Except DecodeErr Unit
  | _, [] => .ok ()
  | seen, value :: values =>
    if value = "" ∨ maxDraftStringBytes < value.utf8ByteSize then .error (.invalid key)
    else if value ∈ seen then .error (.duplicate key)
    else if value < seen.getLast?.getD "" then .error (.unordered key)
    else checkOrderedUnique (seen ++ [value]) values

def readOrderedUniqueStringArray (maxItems : Nat) : Except DecodeErr (List String) :=
  match frame.get? key with
  | none => .error (.missing key)
  | some v =>
    match stringItems v with
    | none => .error (.invalid key)
    | some values =>
      if maxItems < values.length then .error (.invalid key)
      else do
        checkOrderedUnique key [] values
        return values

end Readers

/-- Of several unknown keys the source reports any one; here it is the first. -/
def rejectUnknownRawKeysOptional (frame : RawFrame) (required optional : List String) :
    Except DecodeErr Unit :=
  match required.find? fun key => (frame.get? key).isNone with
  | some key => .error (.missing key)
  | none =>
    match frame.entries.find? fun entry => entry.1 ∉ required ++ optional with
    | some entry => .error (.unknown entry.1)
    | none => .ok ()

def rejectUnknownRawKeys (frame : RawFrame) (keys : List String) : Except DecodeErr Unit :=
  rejectUnknownRawKeysOptional frame keys []

def parseBranchID (value : String) : Bool :=
  branchIDPrefix.toList <+: value.toList &&
    match Base64.decodeChars (value.toList.drop branchIDPrefix.toList.length) with
    | some (a :: b :: digest) => a = 0x12 && b = 0x20 && digest.length = 32
    | _ => false

def readBranchIDField (frame : RawFrame) : Except DecodeErr Unit := do
  let branchID ← readStringField frame "branch_id"
  if parseBranchID branchID then .ok () else .error (.invalid "branch_id")

def knownProtocolErrorCode (code : String) : Bool :=
  code ∈ ["unsupported_version", "unsupported_profile", "profile_hash_mismatch",
    "required_capability_missing", "required_extension_missing", "malformed_envelope",
    "signature_invalid", "payload_decrypt_failed", "frame_too_large", "frame_malformed",
    "frame_replayed", "authentication_failed", "capability_required", "capability_expired",
    "capability_revoked", "quota_exceeded", "peer_unavailable", "route_unavailable",
    "migration_rejected", "rate_limited", "timeout", "internal_unavailable"]

section Validators

def validateVersionOffer (offer : Option RawFrame) : Except DecodeErr Unit :=
  match offer with
  | none => .error .missingVersionOffer
  | some offer => do
    rejectUnknownRawKeys offer ["wire_version", "protocol", "profile_multihash",
      "capabilities", "required_capabilities", "extensions", "required_extensions"]
    let version ← readBoundedUintField offer "wire_version" 0 maxDraftTimestamp
    if version ≠ 0 then throw .unsupportedVersion
    let protocol ← readStringField offer "protocol"
    if protocol ≠ protocolID then throw .unsupportedProtocol
    let profileMultihash ← readStringField offer "profile_multihash"
    if profileMultihash ≠ developmentProfileMultihash then throw .profileHashMismatch
    let capabilities ← readOrderedUniqueStringArray offer "capabilities" 32
    if relayForwardLiveRole ∉ capabilities then throw .capabilityRequired
    let _ ← readOrderedUniqueStringArray offer "required_capabilities" 32
    let _ ← readOrderedUniqueStringArray offer "extensions" 32
    let _ ← readOrderedUniqueStringArray offer "required_extensions" 32

/-- A value as a slice of maps, in which `null` is a nil map. -/
def objectItems : Json → Option (List (Option RawFrame))
  | .null => some []
  | .array items => items.mapM fun
    | .object members => some (some (Fields.ofList members))
    | .null => some none
    | _ => none
  | _ => none

def validateVersionOffers (frame : RawFrame) (key : String) : Except DecodeErr Unit :=
  match frame.get? key with
  | none => .error (.missing key)
  | some v =>
    match objectItems v with
    | none => .error (.invalid key)
    | some values =>
      if values.length = 0 ∨ 8 < values.length then .error (.invalid key)
      else values.forM validateVersionOffer

def validateAcceptedLimits (limits : Option RawFrame) : Except DecodeErr Unit :=
  match limits with
  | none => .error .missingAcceptedLimits
  | some limits => do
    rejectUnknownRawKeys limits ["max_frame_bytes", "max_queue_depth",
      "max_frames_per_session", "max_bytes_per_session"]
    let _ ← readBoundedUintField limits "max_frame_bytes" 1 49152
    let _ ← readBoundedUintField limits "max_queue_depth" 1 1024
    let _ ← readBoundedUintField limits "max_frames_per_session" 1 maxDraftTimestamp
    let _ ← readBoundedUintField limits "max_bytes_per_session" 1 maxDraftTimestamp

variable (frame : RawFrame)

def validateHelloFrame : Except DecodeErr Unit := do
  readBase64Field frame "client_nonce" 32
  let _ ← readTimestampField frame "client_time"
  let role ← readStringField frame "requested_role"
  if role = relayForwardLiveRole then
    rejectUnknownRawKeys frame ["type", "client_nonce", "client_time", "requested_role",
      "max_frame_bytes", "offers"]
  else if role = relayFederationLiveRole then
    rejectUnknownRawKeys frame ["type", "client_nonce", "client_time", "requested_role",
      "relay_beacon", "max_frame_bytes", "offers"]
    readBootstrapWrapperField frame "relay_beacon"
  else throw .unsupportedRequestedRole
  let maxFrameBytes ← readBoundedUintField frame "max_frame_bytes" 1 49152
  if maxFrameBytes = 0 then throw (.invalid "max_frame_bytes")
  validateVersionOffers frame "offers"

def validateChallengeFrame : Except DecodeErr Unit := do
  rejectUnknownRawKeys frame ["type", "client_nonce", "relay_nonce", "issued_at",
    "expires_at", "relay_public_key", "selected", "transcript_hash", "relay_proof"]
  readBase64Field frame "client_nonce" 32
  readBase64Field frame "relay_nonce" 32
  readBase64Field frame "transcript_hash" 32
  let issuedAt ← readTimestampField frame "issued_at"
  let expiresAt ← readTimestampField frame "expires_at"
  if expiresAt ≤ issuedAt ∨ 60 < expiresAt - issuedAt then throw .frameReplayed
  readBase64Field frame "relay_public_key" 32
  readBase64Field frame "relay_proof" 64
  validateVersionOffer (readObjectField frame "selected")

def validateAuthFrame : Except DecodeErr Unit := do
  rejectUnknownRawKeys frame ["type", "client_public_key", "client_nonce", "relay_nonce",
    "transcript_hash", "client_proof"]
  readBase64Field frame "client_public_key" 32
  readBase64Field frame "client_nonce" 32
  readBase64Field frame "relay_nonce" 32
  readBase64Field frame "transcript_hash" 32
  readBase64Field frame "client_proof" 64

def validateReadyFrame : Except DecodeErr Unit := do
  rejectUnknownRawKeys frame ["type", "session_id", "route_id", "presence_ttl_seconds",
    "heartbeat_interval_seconds", "accepted_limits"]
  readBase64Field frame "session_id" 32
  readBase64Field frame "route_id" 16
  let _ ← readBoundedUintField frame "presence_ttl_seconds" 1 300
  let _ ← readBoundedUintField frame "heartbeat_interval_seconds" 1 60
  validateAcceptedLimits (readObjectField frame "accepted_limits")

def validatePresenceFrame : Except DecodeErr Unit := do
  rejectUnknownRawKeys frame ["type", "session_id", "route_id", "peer_id", "sequence",
    "ttl_seconds", "sent_at"]
  readBase64Field frame "session_id" 32
  readBase64Field frame "route_id" 16
  readBase64Field frame "peer_id" 32
  let _ ← readBoundedUintField frame "sequence" 0 maxDraftTimestamp
  let _ ← readBoundedUintField frame "ttl_seconds" 1 300
  let _ ← readTimestampField frame "sent_at"

def validateHeartbeatFrame : Except DecodeErr Unit := do
  rejectUnknownRawKeys frame ["type", "session_id", "sequence", "sent_at"]
  readBase64Field frame "session_id" 32
  let _ ← readBoundedUintField frame "sequence" 0 maxDraftTimestamp
  let _ ← readTimestampField frame "sent_at"

def validateLookupFrame : Except DecodeErr Unit := do
  rejectUnknownRawKeys frame ["type", "session_id", "peer_id", "sequence"]
  readBase64Field frame "session_id" 32
  readBase64Field frame "peer_id" 32
  let _ ← readBoundedUintField frame "sequence" 0 maxDraftTimestamp

def validateIdentityWantFrame : Except DecodeErr Unit := do
  let hasRequestID := (frame.get? "request_id").isSome
  let hasOriginKey := (frame.get? "origin_relay_key").isSome
  if hasRequestID ≠ hasOriginKey then throw .incompleteFederationRequestContext
  if hasRequestID then
    rejectUnknownRawKeys frame ["type", "session_id", "branch_id", "sequence", "request_id",
      "origin_relay_key", "hop_limit"]
    readBase64Field frame "request_id" 16
    readBase64Field frame "origin_relay_key" 32
  else
    rejectUnknownRawKeys frame ["type", "session_id", "branch_id", "sequence", "hop_limit"]
  readBase64Field frame "session_id" 32
  readBranchIDField frame
  let _ ← readBoundedUintField frame "sequence" 0 maxDraftTimestamp
  let _ ← readBoundedUintField frame "hop_limit" 0 (if hasRequestID then 1 else 4)

def validateIdentityHaveFrame : Except DecodeErr Unit := do
  rejectUnknownRawKeys frame ["type", "session_id", "branch_id", "sequence", "records"]
  readBase64Field frame "session_id" 32
  readBranchIDField frame
  let _ ← readBoundedUintField frame "sequence" 0 maxDraftTimestamp
  readIdentityRecordsField frame "records"

def validateContactAnnounceFrame : Except DecodeErr Unit := do
  rejectUnknownRawKeys frame ["type", "session_id", "discoverable", "sequence"]
  readBase64Field frame "session_id" 32
  let _ ← readBoolField frame "discoverable"
  let _ ← readBoundedUintField frame "sequence" 0 maxDraftTimestamp

def validateContactDiscoveryLifetime : Except DecodeErr Unit := do
  let issuedAt ← readTimestampField frame "issued_at"
  let expiresAt ← readTimestampField frame "expires_at"
  if expiresAt ≤ issuedAt ∨ 60000 < expiresAt - issuedAt then throw .frameReplayed

def validateContactLookupFrame : Except DecodeErr Unit := do
  rejectUnknownRawKeys frame ["type", "session_id", "request_id", "branch_id",
    "requester_hpke_public_key", "issued_at", "expires_at"]
  readBase64Field frame "session_id" 32
  readBase64Field frame "request_id" 16
  readBranchIDField frame
  readBase64Field frame "requester_hpke_public_key" 32
  validateContactDiscoveryLifetime frame

def validateContactProbeFrame : Except DecodeErr Unit := do
  rejectUnknownRawKeys frame ["type", "session_id", "request_id", "branch_id",
    "requester_peer_id", "requester_hpke_public_key", "issued_at", "expires_at"]
  readBase64Field frame "session_id" 32
  readBase64Field frame "request_id" 16
  readBranchIDField frame
  readBase64Field frame "requester_peer_id" 32
  readBase64Field frame "requester_hpke_public_key" 32
  validateContactDiscoveryLifetime frame

def validateRendezvousFrame : Except DecodeErr Unit := do
  rejectUnknownRawKeys frame ["type", "session_id", "route_id", "peer_id", "sequence"]
  readBase64Field frame "session_id" 32
  readBase64Field frame "route_id" 16
  readBase64Field frame "peer_id" 32
  let _ ← readBoundedUintField frame "sequence" 0 maxDraftTimestamp

def validateEnvelopeFrame : Except DecodeErr Unit := do
  rejectUnknownRawKeysOptional frame ["type", "session_id", "route_id", "origin_route_id",
    "path_epoch", "stream_id", "delivery_id", "ciphertext", "ack_requested"]
    ["sender_peer_id"]
  readBase64Field frame "session_id" 32
  readBase64Field frame "route_id" 16
  readBase64Field frame "origin_route_id" 16
  let _ ← readBoundedUintField frame "path_epoch" 0 maxDraftTimestamp
  let _ ← readBoundedUintField frame "stream_id" 0 maxDraftTimestamp
  readBase64Field frame "delivery_id" 16
  readBase64StringFieldBounded frame "ciphertext" maxDraftRelayCiphertextBytes
  if (frame.get? "sender_peer_id").isSome then readBase64Field frame "sender_peer_id" 32
  let _ ← readBoolField frame "ack_requested"

def validateAckFrame : Except DecodeErr Unit := do
  rejectUnknownRawKeys frame ["type", "session_id", "delivery_id", "ack_type", "durable"]
  readBase64Field frame "session_id" 32
  readBase64Field frame "delivery_id" 16
  let ackType ← readStringField frame "ack_type"
  if ackType ∉ ["relay.accepted", "relay.forwarded", "peer.received"] then
    throw (.invalid "ack_type")
  let durable ← readBoolField frame "durable"
  if durable then throw .durableAckForbidden

def validateErrorFrame : Except DecodeErr Unit := do
  rejectUnknownRawKeys frame ["type", "code", "retryable", "detail"]
  let code ← readStringField frame "code"
  if ¬ knownProtocolErrorCode code then throw .unknownErrorCode
  let _ ← readBoolField frame "retryable"
  if (frame.get? "detail").isSome then
    let detail ← readStringField frame "detail"
    if 256 < detail.utf8ByteSize then throw .detailTooLarge

def validateRelayFrame : RelayFrameType → Except DecodeErr Unit
  | .hello => validateHelloFrame frame
  | .challenge => validateChallengeFrame frame
  | .auth => validateAuthFrame frame
  | .ready => validateReadyFrame frame
  | .presence => validatePresenceFrame frame
  | .heartbeat => validateHeartbeatFrame frame
  | .lookup => validateLookupFrame frame
  | .identityWant => validateIdentityWantFrame frame
  | .identityHave => validateIdentityHaveFrame frame
  | .contactAnnounce => validateContactAnnounceFrame frame
  | .contactLookup => validateContactLookupFrame frame
  | .contactProbe => validateContactProbeFrame frame
  | .rendezvous => validateRendezvousFrame frame
  | .envelope => validateEnvelopeFrame frame
  | .ack => validateAckFrame frame
  | .error => validateErrorFrame frame

end Validators

def readFrameType (frame : RawFrame) : Except DecodeErr RelayFrameType := do
  let value ← readStringField frame "type"
  match RelayFrameType.ofName value with
  | some frameType => .ok frameType
  | none => .error .unsupportedFrameType

def decodeRawObject (data : List UInt8) : Except DecodeErr RawFrame :=
  match Json.decode data with
  | some (.object members) => .ok (Fields.ofList members)
  | some .null => .error .missingFrame
  | _ => .error .malformed

def decodeDraftRelayAttachmentFrame (data : List UInt8) : Except DecodeErr RelayFrameType :=
  if maxDraftRelayAttachmentFrameBytes < data.length then .error .oversized
  else do
    let frame ← decodeRawObject data
    let frameType ← readFrameType frame
    validateRelayFrame frame frameType
    return frameType

section Envelope

variable {frame : RawFrame} {key : String}

theorem get?_of_readStringField {s : String} (h : readStringField frame key = .ok s) :
    frame.get? key = some (.string s) := by
  unfold readStringField at h
  split at h
  · cases h
  · rename_i heq
    split at h
    · cases h
    · cases h
      exact heq
  · cases h

/-- The field, if there is one, is a string, a truth value, `null` or an integer that a
double holds. -/
def Scalar (frame : RawFrame) (key : String) : Prop :=
  ∀ v, frame.get? key = some v → Json.Canonical 0 v

theorem scalar_of_readStringField {s : String} (h : readStringField frame key = .ok s) :
    Scalar frame key := by
  intro v hv
  rw [get?_of_readStringField h] at hv
  cases hv
  exact .string s

theorem scalar_of_readBase64Field {size : Nat} {u : Unit}
    (h : readBase64Field frame key size = .ok u) : Scalar frame key := by
  obtain ⟨value, hvalue, _⟩ := bind_eq_ok.mp h
  exact scalar_of_readStringField hvalue

theorem scalar_of_readBase64StringFieldBounded {maxBytes : Nat} {u : Unit}
    (h : readBase64StringFieldBounded frame key maxBytes = .ok u) : Scalar frame key := by
  intro v hv
  rw [readBase64StringFieldBounded, hv] at h
  cases v with
  | string s => exact .string s
  | _ => cases h

theorem scalar_of_readBoolField {b : Bool} (h : readBoolField frame key = .ok b) :
    Scalar frame key := by
  intro v hv
  rw [readBoolField, hv] at h
  cases v with
  | bool b => exact .bool b
  | null => exact .null
  | _ => cases h

theorem int64Value_number {d : Decimal} {n : Int} (h : int64Value (.number d) = some n) :
    d.isInteger = true ∧ d.integer = n.natAbs := by
  simp only [int64Value, Option.ite_none_right_eq_some] at h
  obtain ⟨⟨hinteger, _⟩, hn⟩ := h
  obtain rfl := Option.some.inj hn
  refine ⟨hinteger, ?_⟩
  split <;> omega

theorem scalar_of_readTimestampField {n : Int} (h : readTimestampField frame key = .ok n) :
    Scalar frame key := by
  intro v hv
  rw [readTimestampField, readBoundedUintField, hv] at h
  cases v with
  | null => exact .null
  | number d =>
    simp only at h
    split at h
    · cases h
    · rename_i m hm
      obtain ⟨hinteger, habs⟩ := int64Value_number hm
      split at h
      · cases h
      · rename_i hbound
        simp only [maxDraftTimestamp] at hbound
        exact .number hinteger (by omega)
  | _ => cases h

theorem known_of_rejectUnknownRawKeysOptional {required optional : List String} {u : Unit}
    (h : rejectUnknownRawKeysOptional frame required optional = .ok u) :
    ∀ entry ∈ frame.entries, entry.1 ∈ required ++ optional := by
  unfold rejectUnknownRawKeysOptional at h
  split at h
  · cases h
  · split at h
    · cases h
    · rename_i hnone
      intro entry hentry
      exact not_not.mp (by simpa only [decide_eq_true_eq] using
        List.find?_eq_none.mp hnone entry hentry)

theorem scalar_of_validateEnvelopeFrame (htype : Scalar frame "type")
    (h : validateEnvelopeFrame frame = .ok ()) :
    ∀ entry ∈ frame.entries, Json.Canonical 0 entry.2 := by
  simp only [validateEnvelopeFrame, bind_eq_ok] at h
  obtain ⟨_, hkeys, _, hsession, _, hroute, _, horigin, _, hepoch, _, hstream, _, hdelivery,
    _, hciphertext, h⟩ := h
  have hrest : Scalar frame "sender_peer_id" ∧ Scalar frame "ack_requested" := by
    split at h
    · simp only [bind_eq_ok] at h
      obtain ⟨_, hsender, _, hack, _⟩ := h
      exact ⟨scalar_of_readBase64Field hsender, scalar_of_readBoolField hack⟩
    · rename_i hnone
      simp only [bind_eq_ok] at h
      obtain ⟨_, hack, _⟩ := h
      refine ⟨?_, scalar_of_readBoolField hack⟩
      intro v hv
      exact absurd (by rw [hv]; rfl) hnone
  rintro ⟨name, v⟩ hentry
  have hvalue := Fields.get?_eq_some_iff.mpr hentry
  have hknown := known_of_rejectUnknownRawKeysOptional hkeys _ hentry
  simp only [List.cons_append, List.nil_append, List.mem_cons, List.not_mem_nil,
    or_false] at hknown
  rcases hknown with rfl | rfl | rfl | rfl | rfl | rfl | rfl | rfl | rfl | rfl
  · exact htype v hvalue
  · exact scalar_of_readBase64Field hsession v hvalue
  · exact scalar_of_readBase64Field hroute v hvalue
  · exact scalar_of_readBase64Field horigin v hvalue
  · exact scalar_of_readTimestampField hepoch v hvalue
  · exact scalar_of_readTimestampField hstream v hvalue
  · exact scalar_of_readBase64Field hdelivery v hvalue
  · exact scalar_of_readBase64StringFieldBounded hciphertext v hvalue
  · exact hrest.2 v hvalue
  · exact hrest.1 v hvalue

end Envelope

end Branch.Protocol
