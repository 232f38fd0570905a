import Branch.Agreement.Cbor
import Branch.Core.SignedEvent

/-!
The envelopes that the relay and the client accept.
-/

namespace Branch.Agreement

open Branch.Lib
open Branch.Protocol (Sender Envelope SignedEvent ValidationReason CborMap)

section Fields

structure SenderFields (m : CborMap) (sender : Sender) : Prop where
  known : ∀ entry ∈ m, entry.1 ∈ Protocol.senderKeys
  keyAlg : m.lookup "key_alg" = some (.text sender.keyAlg)
  keyAlg_eq : sender.keyAlg = "ed25519"
  publicKey : m.lookup "public_key" = some (.bytes sender.publicKey)
  publicKey_length : sender.publicKey.length = 32

structure EnvelopeFields (eventType : String) (m : CborMap) (envelope : Envelope) : Prop where
  known : ∀ entry ∈ m, entry.1 ∈ Protocol.envelopeKeys
  recipientTag : m.lookup "recipient_tag" = none
  protocol : m.lookup "protocol" = some (.text envelope.protocol)
  protocol_eq : envelope.protocol = Protocol.protocolID
  type : m.lookup "type" = some (.text envelope.eventType)
  type_eq : envelope.eventType = eventType
  payloadMode : m.lookup "payload_mode" = some (.text envelope.payloadMode)
  payloadMode_eq : envelope.payloadMode = "public"
  signatureAlg : m.lookup "signature_alg" = some (.text envelope.signatureAlg)
  signatureAlg_eq : envelope.signatureAlg = "ed25519"
  sender : ∃ senderMap, m.lookup "sender" = some (.map senderMap) ∧
    SenderFields senderMap envelope.sender
  createdAt : m.lookup "created_at" = some (.uint envelope.createdAt)
  createdAt_le : envelope.createdAt ≤ Core.maxSafeInteger
  expiresAt : m.lookup "expires_at" = some (.uint envelope.expiresAt)
  expiresAt_le : envelope.expiresAt ≤ Core.maxSafeInteger
  lifetime : envelope.createdAt < envelope.expiresAt
  eventID : m.lookup "event_id" = some (.bytes envelope.eventID)
  eventID_length : envelope.eventID.length = 32
  payload : m.lookup "payload" = some (.bytes envelope.payloadBytes)
  payload_ne : envelope.payloadBytes.length ≠ 0
  payload_le : envelope.payloadBytes.length ≤ Protocol.maxDecodedCBORBytes
  signature : m.lookup "signature" = some (.bytes envelope.signature)
  signature_length : envelope.signature.length = 64

def ShortText (s : String) : Prop := s ≠ "" ∧ s.utf8ByteSize ≤ Protocol.maxDraftStringBytes

theorem timestamp_le_iff {n : Nat} :
    (n : Int) ≤ Protocol.maxDraftTimestamp ↔ n ≤ Core.maxSafeInteger := by
  unfold Protocol.maxDraftTimestamp Core.maxSafeInteger
  omega

variable {m : CborMap}

theorem relay_readSender_eq_ok_iff {reasons : Protocol.EnvelopeReasons}
    {sender : Sender} :
    Protocol.readSender reasons m = .ok sender ↔ SenderFields m sender := by
  simp only [Protocol.readSender, bind_eq_ok, throwIf_eq_ok, mapError_eq_ok, not_not,
    Protocol.cborRejectUnknown_eq_ok_iff, Protocol.cborText_eq_ok_iff,
    Protocol.cborBytes_eq_ok_iff]
  constructor
  · rintro ⟨_, hknown, keyAlg, ⟨hkeyAlg, _⟩, _, hed, publicKey, ⟨hkey, _, hlength⟩, heq⟩
    obtain rfl := Except.ok.inj heq
    exact ⟨hknown, hkeyAlg, hed, hkey, hlength (by omega)⟩
  · intro h
    have hshort : ShortText sender.keyAlg := by
      rw [h.keyAlg_eq]
      exact ⟨by decide, by decide⟩
    have hlength := h.publicKey_length
    exact ⟨(), h.known, sender.keyAlg, ⟨h.keyAlg, hshort⟩, (), h.keyAlg_eq,
      sender.publicKey, ⟨h.publicKey, ⟨by omega, by rw [hlength]; decide⟩, fun _ => hlength⟩,
      rfl⟩

theorem client_requiredBytes_eq_ok_iff {key : String} {size : Option Nat}
    (hsize : ∀ n ∈ size, 0 < n) {data : List UInt8} :
    Core.requiredBytes m key size = .ok data ↔
      Protocol.cborBytes m key (size.getD 0) = .ok data := by
  rw [Core.requiredBytes_eq_ok_iff, Protocol.cborBytes_eq_ok_iff]
  cases size with
  | none => simp [Core.maxCborBytes, Protocol.maxDecodedCBORBytes]
  | some n => simp [Core.maxCborBytes, Protocol.maxDecodedCBORBytes, hsize n rfl]

def noReasons : Protocol.EnvelopeReasons :=
  ⟨fun _ => .unknownField, fun _ _ => .invalidCBOR, fun _ => .unknownField⟩

theorem client_readSender_eq_ok_iff {sender : Sender} :
    Core.readSender m = .ok sender ↔ SenderFields m sender := by
  rw [← @relay_readSender_eq_ok_iff m noReasons, Core.readSender, Protocol.readSender]
  simp only [bind_eq_ok, throwIf_eq_ok, mapError_eq_ok, pure_eq_ok,
    Core.rejectUnknownEntries_eq_ok_iff, Protocol.cborRejectUnknown_eq_ok_iff,
    Core.requiredText_eq_ok_iff, Protocol.cborText_eq_ok_iff, client_requiredBytes_eq_ok_iff,
    Option.mem_def, Option.some.injEq, forall_eq', Nat.succ_pos]
  rfl

theorem shortText_protocolID : ShortText Protocol.protocolID := ⟨by decide, by decide⟩

theorem shortText_public : ShortText "public" := ⟨by decide, by decide⟩

theorem shortText_ed25519 : ShortText "ed25519" := ⟨by decide, by decide⟩

theorem relay_readEnvelope_eq_ok_iff {reasons : Protocol.EnvelopeReasons} {eventType : String}
    (htype : ShortText eventType) {envelope : Envelope} :
    Protocol.readEnvelope reasons eventType m = .ok envelope ↔
      EnvelopeFields eventType m envelope := by
  simp only [Protocol.readEnvelope, bind_eq_ok, throwIf_eq_ok, mapError_eq_ok, not_not,
    Protocol.cborRejectUnknown_eq_ok_iff, Protocol.cborText_eq_ok_iff,
    Protocol.cborBytes_eq_ok_iff, Protocol.cborUint_eq_ok_iff, Bool.not_eq_true,
    Protocol.cborHas_eq_false_iff, Protocol.cborRequired_eq_ok_iff,
    Protocol.cborMap_eq_ok_iff, relay_readSender_eq_ok_iff, timestamp_le_iff, Nat.not_le]
  constructor
  · rintro ⟨_, hknown, _, hrecipient, protocol, ⟨hprotocol, _⟩, _, hprotocolID, type,
      ⟨htext, _⟩, _, htypeEq, mode, ⟨hmode, _⟩, _, hpublic, alg, ⟨halg, _⟩, _, hed, _, hsender,
      senderMap, rfl, sender, hfields, created, ⟨hcreated, hcreatedLe⟩, expires,
      ⟨hexpires, hexpiresLe⟩, _, hlifetime, eventID, ⟨heventID, _, hlength⟩, payload,
      ⟨hpayload, hpayloadLe, _⟩, signature, ⟨hsignature, _, hsignatureLength⟩, heq⟩
    obtain rfl := Except.ok.inj heq
    exact {
      known := hknown, recipientTag := hrecipient,
      protocol := hprotocol, protocol_eq := hprotocolID,
      type := htext, type_eq := htypeEq,
      payloadMode := hmode, payloadMode_eq := hpublic,
      signatureAlg := halg, signatureAlg_eq := hed,
      sender := ⟨senderMap, hsender, hfields⟩,
      createdAt := hcreated, createdAt_le := hcreatedLe,
      expiresAt := hexpires, expiresAt_le := hexpiresLe, lifetime := hlifetime,
      eventID := heventID, eventID_length := hlength (by omega),
      payload := hpayload, payload_ne := hpayloadLe.1, payload_le := hpayloadLe.2,
      signature := hsignature, signature_length := hsignatureLength (by omega) }
  · intro h
    obtain ⟨senderMap, hsender, hfields⟩ := h.sender
    have hid := h.eventID_length
    have hsignature := h.signature_length
    have hmax : Protocol.maxDecodedCBORBytes = 49152 := rfl
    refine ⟨(), h.known, (), h.recipientTag, _, ⟨h.protocol, ?_⟩, (), h.protocol_eq, _,
      ⟨h.type, ?_⟩, (), h.type_eq, _, ⟨h.payloadMode, ?_⟩, (), h.payloadMode_eq, _,
      ⟨h.signatureAlg, ?_⟩, (), h.signatureAlg_eq, _, hsender, senderMap, rfl, _, hfields, _,
      ⟨h.createdAt, h.createdAt_le⟩, _, ⟨h.expiresAt, h.expiresAt_le⟩, (), h.lifetime, _,
      ⟨h.eventID, ⟨by omega, by omega⟩, fun _ => hid⟩, _,
      ⟨h.payload, ⟨h.payload_ne, h.payload_le⟩, fun hzero => absurd hzero (by omega)⟩, _,
      ⟨h.signature, ⟨by omega, by omega⟩, fun _ => hsignature⟩, rfl⟩
    · exact h.protocol_eq ▸ shortText_protocolID
    · exact h.type_eq ▸ htype
    · exact h.payloadMode_eq ▸ shortText_public
    · exact h.signatureAlg_eq ▸ shortText_ed25519

theorem client_requiredTimestamp_eq_ok_iff {key : String} {n : Nat} :
    Core.requiredTimestamp m key = .ok n ↔
      m.lookup key = some (.uint n) ∧ n ≤ Core.maxSafeInteger := by
  simp only [Core.requiredTimestamp, Core.requiredUint, bind_eq_ok, throwIf_eq_ok,
    Core.getRequiredEntry_eq_ok_iff, Core.readUint_eq_ok_iff, Nat.not_lt]
  constructor
  · rintro ⟨timestamp, ⟨_, hlookup, rfl, _⟩, _, hbound, heq⟩
    obtain rfl := Except.ok.inj heq
    exact ⟨hlookup, hbound⟩
  · rintro ⟨hlookup, hbound⟩
    exact ⟨n, ⟨_, hlookup, rfl, hbound⟩, (), hbound, rfl⟩

theorem client_requiredText_eq_ok_iff {key s : String} :
    Core.requiredText m key = .ok s ↔ m.lookup key = some (.text s) ∧ ShortText s :=
  Core.requiredText_eq_ok_iff

theorem relay_cborBytes_size {key : String} {data : List UInt8} :
    Protocol.cborBytes m key 32 = .ok data ↔
      m.lookup key = some (.bytes data) ∧ data.length = 32 := by
  rw [Protocol.cborBytes_eq_ok_iff]
  have hmax : Protocol.maxDecodedCBORBytes = 49152 := rfl
  constructor
  · exact fun ⟨hlookup, _, hlength⟩ => ⟨hlookup, hlength (by omega)⟩
  · exact fun ⟨hlookup, hlength⟩ => ⟨hlookup, ⟨by omega, by omega⟩, fun _ => hlength⟩

theorem client_requiredBytes_size {key : String} {data : List UInt8} :
    Core.requiredBytes m key (some 32) = .ok data ↔
      m.lookup key = some (.bytes data) ∧ data.length = 32 :=
  (client_requiredBytes_eq_ok_iff (by simp)).trans relay_cborBytes_size

theorem optional_eq_ok_iff {ε α β : Type} {found : Option Cbor} {wrap : β → Cbor}
    {admits : β → Prop} (make : Option β → α) {read : Except ε α} {value : α}
    (hread : read = .ok value ↔
      ∃ data, found = some (wrap data) ∧ admits data ∧ make (some data) = value) :
    (if found.isSome then read else .ok (make none)) = .ok value ↔
      ∃ data?, found = Option.map wrap data? ∧ (∀ data ∈ data?, admits data) ∧
        make data? = value := by
  cases found with
  | none =>
    constructor
    · exact fun h => ⟨none, rfl, nofun, Except.ok.inj h⟩
    · rintro ⟨data?, hnone, _, rfl⟩
      rw [Option.map_eq_none_iff.mp hnone.symm]
      rfl
  | some v =>
    rw [Option.isSome_some, if_pos rfl, hread]
    constructor
    · rintro ⟨data, hdata, hadmits, rfl⟩
      exact ⟨some data, hdata, fun _ hmem => Option.some.inj hmem ▸ hadmits, rfl⟩
    · rintro ⟨data?, hdata, hadmits, rfl⟩
      obtain ⟨data, rfl, heq⟩ := Option.map_eq_some_iff.mp hdata.symm
      exact ⟨data, congrArg some heq.symm, hadmits data rfl, rfl⟩

/-- The client makes the checks of the relay in the relay's order. -/
theorem client_readEnvelope_eq_ok_iff {eventType : String} (htype : ShortText eventType)
    {envelope : Envelope} :
    Core.readEnvelope m eventType = .ok envelope ↔ EnvelopeFields eventType m envelope := by
  rw [← @relay_readEnvelope_eq_ok_iff m noReasons eventType htype envelope, Core.readEnvelope,
    Protocol.readEnvelope]
  simp only [bind_eq_ok, throwIf_eq_ok, mapError_eq_ok, pure_eq_ok,
    Core.rejectUnknownEntries_eq_ok_iff, Protocol.cborRejectUnknown_eq_ok_iff,
    client_requiredText_eq_ok_iff, Protocol.cborText_eq_ok_iff,
    client_requiredTimestamp_eq_ok_iff, Protocol.cborUint_eq_ok_iff, timestamp_le_iff,
    Bool.not_eq_true, Core.hasEntry_eq_false_iff, Protocol.cborHas_eq_false_iff,
    Core.getRequiredEntry_eq_ok_iff, Protocol.cborRequired_eq_ok_iff,
    Core.readCborMap_eq_ok_iff, Protocol.cborMap_eq_ok_iff, client_readSender_eq_ok_iff,
    relay_readSender_eq_ok_iff, client_requiredBytes_eq_ok_iff, Option.mem_def,
    Option.some.injEq, forall_eq', Nat.succ_pos, reduceCtorEq, false_implies, implies_true]
  rfl

end Fields

section Bytes

theorem nodup_keys {r : Cbor.Rules} {m : CborMap} (h : Cbor.Wire r (.map m)) :
    (m.map Prod.fst).Nodup := by
  cases h with
  | map hlength hkeys hsorted hdistinct hvalues => exact Cbor.nodup_of_sorted hsorted

theorem value_of_lookup {m : CborMap} (hnodup : (m.map Prod.fst).Nodup) {key : String}
    {v w : Cbor} (hentry : (key, v) ∈ m) (hlookup : m.lookup key = some w) : v = w := by
  have hv := (Cbor.lookup_eq_some_iff hnodup).mpr hentry
  rw [hlookup] at hv
  exact (Option.some.inj hv).symm

def envelopeTexts (eventType : String) : List String :=
  eventType :: (Protocol.envelopeKeys ++ Protocol.senderKeys ++
    [Protocol.protocolID, "public", "ed25519"])

theorem SenderFields.plain {m : CborMap} {sender : Sender} (h : SenderFields m sender)
    (hwire : Cbor.Wire sharedRules (.map m)) {admits : String → Prop} {eventType : String}
    (hadmits : ∀ s ∈ envelopeTexts eventType, admits s) :
    Cbor.Plain admits 1 Core.maxSafeInteger (.map m) := by
  have hnodup := nodup_keys hwire
  rw [Cbor.plain_map]
  rintro ⟨key, v⟩ hentry
  have hknown := h.known _ hentry
  refine ⟨hadmits key (by simp [envelopeTexts, hknown]), ?_⟩
  simp only [Protocol.senderKeys, List.mem_cons, List.not_mem_nil, or_false] at hknown
  rcases hknown with rfl | rfl
  · obtain rfl := value_of_lookup hnodup hentry h.keyAlg
    rw [Cbor.plain_text, h.keyAlg_eq]
    exact hadmits _ (by simp [envelopeTexts])
  · obtain rfl := value_of_lookup hnodup hentry h.publicKey
    exact Cbor.plain_bytes

theorem wire_of_lookup {m : CborMap} (hwire : Cbor.Wire sharedRules (.map m)) {key : String}
    {v : Cbor} (hlookup : m.lookup key = some v) : Cbor.Wire sharedRules v := by
  have hentry := (Cbor.lookup_eq_some_iff (nodup_keys hwire)).mp hlookup
  cases hwire with
  | map hlength hkeys hsorted hdistinct hvalues => exact hvalues _ hentry

theorem EnvelopeFields.plain {eventType : String} {m : CborMap} {envelope : Envelope}
    (h : EnvelopeFields eventType m envelope) (hwire : Cbor.Wire sharedRules (.map m))
    {admits : String → Prop} (hadmits : ∀ s ∈ envelopeTexts eventType, admits s) :
    Cbor.Plain admits 2 Core.maxSafeInteger (.map m) := by
  have hnodup := nodup_keys hwire
  rw [Cbor.plain_map]
  rintro ⟨key, v⟩ hentry
  have hknown := h.known _ hentry
  refine ⟨hadmits key (by simp [envelopeTexts, hknown]), ?_⟩
  simp only [Protocol.envelopeKeys, List.mem_cons, List.not_mem_nil, or_false] at hknown
  rcases hknown with rfl | rfl | rfl | rfl | rfl | rfl | rfl | rfl | rfl | rfl | rfl
  · obtain rfl := value_of_lookup hnodup hentry h.protocol
    rw [Cbor.plain_text, h.protocol_eq]
    exact hadmits _ (by simp [envelopeTexts])
  · obtain rfl := value_of_lookup hnodup hentry h.eventID
    exact Cbor.plain_bytes
  · obtain rfl := value_of_lookup hnodup hentry h.type
    rw [Cbor.plain_text, h.type_eq]
    exact hadmits _ (by simp [envelopeTexts])
  · obtain ⟨senderMap, hsender, hfields⟩ := h.sender
    obtain rfl := value_of_lookup hnodup hentry hsender
    exact hfields.plain (wire_of_lookup hwire hsender) hadmits
  · have := (Cbor.lookup_eq_some_iff hnodup).mpr hentry
    rw [h.recipientTag] at this
    cases this
  · obtain rfl := value_of_lookup hnodup hentry h.createdAt
    exact Cbor.plain_uint.mpr h.createdAt_le
  · obtain rfl := value_of_lookup hnodup hentry h.expiresAt
    exact Cbor.plain_uint.mpr h.expiresAt_le
  · obtain rfl := value_of_lookup hnodup hentry h.payloadMode
    rw [Cbor.plain_text, h.payloadMode_eq]
    exact hadmits _ (by simp [envelopeTexts])
  · obtain rfl := value_of_lookup hnodup hentry h.payload
    exact Cbor.plain_bytes
  · obtain rfl := value_of_lookup hnodup hentry h.signatureAlg
    rw [Cbor.plain_text, h.signatureAlg_eq]
    exact hadmits _ (by simp [envelopeTexts])
  · obtain rfl := value_of_lookup hnodup hentry h.signature
    exact Cbor.plain_bytes

theorem relay_decodes_plain {input : List UInt8} {v : Cbor}
    (h : Cbor.Plain (· ≠ "") 8 Core.maxSafeInteger v) :
    Protocol.decodeDeterministicCBOR input = .ok v ↔ Canonical input v := by
  rw [relay_accepts_iff]
  constructor
  · exact fun hv => hv.1
  · exact fun hv => ⟨hv, h.1, fun hempty => h.2.2 "" hempty rfl⟩

theorem client_decodes_plain {input : List UInt8} {v : Cbor} {levels : Nat}
    (h : Cbor.Plain (fun s => ¬ Utf8.Marked s) levels Core.maxSafeInteger v) :
    Core.decodeDeterministicCbor input Core.maxDraftEnvelopeBytes = .ok v ↔
      Canonical input v := by
  rw [show Core.maxDraftEnvelopeBytes = Protocol.maxDraftEnvelopeBytes from rfl,
    client_accepts_iff]
  constructor
  · exact fun hv => hv.1
  · exact fun hv => ⟨hv, h.2.1, h.2.2⟩

end Bytes

section Opened

theorem wire_short {s : String} (h : ShortText s) : Cbor.Wire Core.tsRules (.text s) :=
  .text ⟨rfl, h.2⟩

theorem EnvelopeFields.wire_values {eventType : String} (htype : ShortText eventType)
    {m : CborMap} {envelope : Envelope} (h : EnvelopeFields eventType m envelope) :
    ∀ entry ∈ Protocol.signedEnvelopeEntries envelope, Cbor.Wire Core.tsRules entry.2 := by
  obtain ⟨senderMap, _, hsender⟩ := h.sender
  have hbytes : ∀ {data : List UInt8} {size : Nat}, data.length = size → size ≤ 64 →
      Cbor.Wire Core.tsRules (.bytes data) := by
    intro data size hlength hsize
    exact .bytes (hlength ▸ hsize.trans (by decide))
  have hsenderMap : Cbor.Wire Core.tsRules (.map [("key_alg", .text envelope.sender.keyAlg),
      ("public_key", .bytes envelope.sender.publicKey)]) := by
    refine .map (by simp [Core.tsRules, Core.maxCborCollectionEntries]) ?_ ?_ ?_ ?_
    · simp only [List.forall_mem_cons]
      exact ⟨⟨rfl, by decide⟩, ⟨rfl, by decide⟩, by simp⟩
    · show [Cbor.encodeText "key_alg", Cbor.encodeText "public_key"].Pairwise (· < ·)
      decide +kernel
    · rw [show Core.tsRules.text = Utf8.dropByteOrderMark from rfl]
      show [Utf8.dropByteOrderMark "key_alg", Utf8.dropByteOrderMark "public_key"].Nodup
      decide +kernel
    · simp only [List.forall_mem_cons]
      exact ⟨wire_short (hsender.keyAlg_eq ▸ shortText_ed25519),
        hbytes hsender.publicKey_length (by omega), by simp⟩
  simp only [Protocol.signedEnvelopeEntries, Protocol.unsignedEnvelopeEntries,
    List.cons_append, List.nil_append, List.forall_mem_cons]
  exact ⟨wire_short (h.protocol_eq ▸ shortText_protocolID),
    hbytes h.eventID_length (by omega), wire_short (h.type_eq ▸ htype), hsenderMap,
    .uint h.createdAt_le, .uint h.expiresAt_le, wire_short (h.payloadMode_eq ▸ shortText_public),
    .bytes h.payload_le, wire_short (h.signatureAlg_eq ▸ shortText_ed25519),
    hbytes h.signature_length (by omega), by simp⟩

theorem relay_encodes {entries : CborMap} (hdistinct : (entries.map Prod.fst).Nodup)
    (hvalues : ∀ entry ∈ entries, Cbor.Wire Core.tsRules entry.2) :
    Protocol.encodeCborMap entries = .ok (Cbor.sortedMap entries) :=
  Cbor.write_map rfl
    (fun entry hentry => Cbor.write_of_wire (hvalues entry hentry) (fun _ _ => rfl)
      (fun _ _ => rfl)) hdistinct

theorem client_encodes {entries : CborMap} (hdistinct : (entries.map Prod.fst).Nodup)
    (hcount : entries.length ≤ Core.maxCborCollectionEntries)
    (hvalues : ∀ entry ∈ entries, Cbor.Wire Core.tsRules entry.2) :
    Core.encodeForValidation entries = .ok (Cbor.sortedMap entries) := by
  rw [Core.encodeForValidation, mapError_eq_ok]
  refine Cbor.write_map (throwIf_eq_ok.mpr (Nat.not_lt.mpr hcount)) ?_ hdistinct
  exact fun entry hentry => Core.encodeDeterministicCbor_of_wire (hvalues entry hentry)

variable (verify : List UInt8 → List UInt8 → List UInt8 → Bool)

/-- The bytes hold an envelope with its signature over the input. -/
def Opened (eventType : String) (signed : List UInt8) (envelope : Envelope)
    (signatureInput : List UInt8) : Prop :=
  ∃ m, Canonical signed (.map m) ∧ EnvelopeFields eventType m envelope ∧
    Cbor.sortedMap (Protocol.signedEnvelopeEntries envelope) = signed ∧
    signatureInput = Utf8.bytes Protocol.bootstrapSignatureDomain ++
      Cbor.sortedMap (Protocol.unsignedEnvelopeEntries envelope) ∧
    verify envelope.sender.publicKey signatureInput envelope.signature = true

/-- The envelope has not expired and was not created too far ahead. -/
def Timely (now skew : Int) (envelope : Envelope) : Prop :=
  now < envelope.expiresAt ∧ envelope.createdAt ≤ now + skew

theorem Opened.payload_le {verify : List UInt8 → List UInt8 → List UInt8 → Bool}
    {eventType : String} {signed signatureInput : List UInt8} {envelope : Envelope}
    (h : Opened verify eventType signed envelope signatureInput) :
    envelope.payloadBytes.length ≤ Protocol.maxDecodedCBORBytes := by
  obtain ⟨m, _, hfields, _⟩ := h
  exact hfields.payload_le

theorem Opened.publicKey_length {verify : List UInt8 → List UInt8 → List UInt8 → Bool}
    {eventType : String} {signed signatureInput : List UInt8} {envelope : Envelope}
    (h : Opened verify eventType signed envelope signatureInput) :
    envelope.sender.publicKey.length = 32 := by
  obtain ⟨m, _, hfields, _⟩ := h
  obtain ⟨senderMap, _, hsender⟩ := hfields.sender
  exact hsender.publicKey_length

variable {verify} {eventType : String} {now skew : Int} {signed signatureInput : List UInt8}
  {envelope : Envelope}

theorem EnvelopeFields.relay_decodes (htype : ShortText eventType) {m : CborMap}
    (h : EnvelopeFields eventType m envelope) :
    Protocol.decodeDeterministicCBOR signed = .ok (.map m) ↔ Canonical signed (.map m) := by
  have hne : ∀ s ∈ envelopeTexts eventType, s ≠ "" :=
    List.forall_mem_cons.mpr ⟨htype.1, by decide⟩
  constructor
  · exact fun hdecode => (relay_accepts_iff.mp hdecode).1
  · intro hcanonical
    have hplain := (h.plain hcanonical.2.1 hne).mono (by omega : 2 ≤ 8)
    exact (relay_decodes_plain hplain).mpr hcanonical

theorem EnvelopeFields.client_decodes (htype : ¬ Utf8.Marked eventType) {m : CborMap}
    (h : EnvelopeFields eventType m envelope) :
    Core.decodeCborForValidation signed = .ok (.map m) ↔ Canonical signed (.map m) := by
  have hunmarked : ∀ s ∈ envelopeTexts eventType, ¬ Utf8.Marked s :=
    List.forall_mem_cons.mpr ⟨htype, by decide⟩
  rw [Core.decodeCborForValidation, mapError_eq_ok]
  constructor
  · exact fun hdecode => (client_accepts_iff.mp hdecode).1
  · exact fun hcanonical => (client_decodes_plain (h.plain hcanonical.2.1 hunmarked)).mpr hcanonical

theorem nodup_signedEnvelopeEntries (envelope : Envelope) :
    ((Protocol.signedEnvelopeEntries envelope).map Prod.fst).Nodup := by
  show ["protocol", "event_id", "type", "sender", "created_at", "expires_at", "payload_mode",
    "payload", "signature_alg", "signature"].Nodup
  decide

theorem nodup_unsignedEnvelopeEntries (envelope : Envelope) :
    ((Protocol.unsignedEnvelopeEntries envelope).map Prod.fst).Nodup := by
  have hnodup := nodup_signedEnvelopeEntries envelope
  rw [Protocol.signedEnvelopeEntries, List.map_append] at hnodup
  exact (List.nodup_append.mp hnodup).1

theorem EnvelopeFields.relay_encodes (htype : ShortText eventType) {m : CborMap}
    (h : EnvelopeFields eventType m envelope) :
    Protocol.encodeCborMap (Protocol.signedEnvelopeEntries envelope) =
        .ok (Cbor.sortedMap (Protocol.signedEnvelopeEntries envelope)) ∧
      Protocol.encodeCborMap (Protocol.unsignedEnvelopeEntries envelope) =
        .ok (Cbor.sortedMap (Protocol.unsignedEnvelopeEntries envelope)) := by
  have hvalues := h.wire_values htype
  constructor
  · exact Agreement.relay_encodes (nodup_signedEnvelopeEntries envelope) hvalues
  · exact Agreement.relay_encodes (nodup_unsignedEnvelopeEntries envelope)
      fun entry hentry => hvalues entry (List.mem_append_left _ hentry)

theorem EnvelopeFields.client_encodes (htype : ShortText eventType) {m : CborMap}
    (h : EnvelopeFields eventType m envelope) :
    Core.encodeForValidation (Core.signedEnvelopeEntries envelope) =
        .ok (Cbor.sortedMap (Protocol.signedEnvelopeEntries envelope)) ∧
      Core.encodeForValidation (Core.unsignedEnvelopeEntries envelope) =
        .ok (Cbor.sortedMap (Protocol.unsignedEnvelopeEntries envelope)) := by
  have hvalues := h.wire_values htype
  have hten : 10 ≤ Core.maxCborCollectionEntries := by decide
  constructor
  · exact Agreement.client_encodes (nodup_signedEnvelopeEntries envelope) hten hvalues
  · exact Agreement.client_encodes (nodup_unsignedEnvelopeEntries envelope)
      ((by decide : 9 ≤ 10).trans hten)
      fun entry hentry => hvalues entry (List.mem_append_left _ hentry)

theorem relay_openSignedEvent_eq_ok_iff (htype : ShortText eventType)
    {reasons : Protocol.EnvelopeReasons} :
    Protocol.openSignedEvent verify reasons eventType now skew signed =
        .ok (envelope, signatureInput) ↔
      Opened verify eventType signed envelope signatureInput ∧ Timely now skew envelope := by
  simp only [Protocol.openSignedEvent, bind_eq_ok, throwIf_eq_ok, mapError_eq_ok, not_not,
    Protocol.cborMap_eq_ok_iff, relay_readEnvelope_eq_ok_iff htype]
  constructor
  · rintro ⟨_, hsize, v, hdecode, m, rfl, envelope', hfields, canonical, hcanonical, _, rfl,
      unsigned, hunsigned, _, hverify, _, hexpired, _, hcreated, heq⟩
    obtain ⟨rfl, rfl⟩ := Prod.mk.inj (Except.ok.inj heq)
    obtain ⟨hsigned, hplain⟩ := hfields.relay_encodes htype
    rw [hsigned] at hcanonical
    rw [hplain] at hunsigned
    obtain rfl := Except.ok.inj hunsigned
    exact ⟨⟨m, (hfields.relay_decodes htype).mp hdecode, hfields, Except.ok.inj hcanonical, rfl,
      hverify⟩, by omega, by omega⟩
  · rintro ⟨⟨m, hcanonical, hfields, hsigned, rfl, hverify⟩, hexpired, hcreated⟩
    obtain ⟨hencoded, hplain⟩ := hfields.relay_encodes htype
    exact ⟨(), Nat.not_lt.mpr hcanonical.1.2, .map m,
      (hfields.relay_decodes htype).mpr hcanonical, m, rfl, envelope, hfields, _, hencoded, (),
      hsigned, _, hplain, (), hverify, (), by omega, (), by omega, rfl⟩

theorem client_openSignedEvent_eq_ok_iff (htype : ShortText eventType)
    (hmark : ¬ Utf8.Marked eventType) :
    Core.openSignedEvent verify eventType now skew signed = .ok (envelope, signatureInput) ↔
      Opened verify eventType signed envelope signatureInput ∧ Timely now skew envelope := by
  simp only [Core.openSignedEvent, bind_eq_ok, throwIf_eq_ok, not_not,
    Core.readCborMap_eq_ok_iff, client_readEnvelope_eq_ok_iff htype]
  constructor
  · rintro ⟨_, hsize, v, hdecode, m, rfl, envelope', hfields, canonical, hcanonical, _, rfl,
      unsigned, hunsigned, _, hverify, _, hexpired, _, hcreated, heq⟩
    obtain ⟨rfl, rfl⟩ := Prod.mk.inj (Except.ok.inj heq)
    obtain ⟨hsigned, hplain⟩ := hfields.client_encodes htype
    rw [hsigned] at hcanonical
    rw [hplain] at hunsigned
    obtain rfl := Except.ok.inj hunsigned
    exact ⟨⟨m, (hfields.client_decodes hmark).mp hdecode, hfields, Except.ok.inj hcanonical, rfl,
      hverify⟩, by omega, by omega⟩
  · rintro ⟨⟨m, hcanonical, hfields, hsigned, rfl, hverify⟩, hexpired, hcreated⟩
    obtain ⟨hencoded, hplain⟩ := hfields.client_encodes htype
    exact ⟨(), Nat.not_lt.mpr hcanonical.1.2, .map m,
      (hfields.client_decodes hmark).mpr hcanonical, m, rfl, envelope, hfields, _, hencoded, (),
      hsigned, _, hplain, (), hverify, (), by omega, (), by omega, rfl⟩

end Opened

section Wrapper

/-- The wrapper is the prefix with the characters behind it. -/
def Wrapping (input : List UInt8) (body : List Char) : Prop :=
  input = Utf8.bytes Protocol.branchTextWrapperPrefix ++ Utf8.encode body

theorem not_inAlphabet_replacement : ¬ Base64.InAlphabet Utf8.replacement := by
  simp only [Base64.InAlphabet]
  decide

theorem replacement_not_mem {body : List Char} {signed : List UInt8}
    (h : Base64.decodeChars body = some signed) : Utf8.replacement ∉ body := by
  intro hmem
  rcases Base64.inAlphabet_or_lineBreak h _ hmem with halphabet | hbreak
  · exact not_inAlphabet_replacement halphabet
  · rcases hbreak with heq | heq
    · exact absurd heq (by decide)
    · exact absurd heq (by decide)

theorem Wrapping.wrapperBody {input : List UInt8} {body : List Char} (h : Wrapping input body) :
    Protocol.wrapperBody input = body := by
  have hdrop : input.drop (Utf8.bytes Protocol.branchTextWrapperPrefix).length =
      Utf8.encode body := by
    rw [h, List.drop_left]
  rw [Protocol.wrapperBody, hdrop, Utf8.decode_encode]

theorem relay_wrapping_iff {input signed : List UInt8} {body : List Char} :
    (Utf8.bytes Protocol.branchTextWrapperPrefix <+: input ∧
        Protocol.wrapperBody input = body ∧ Base64.decodeChars body = some signed) ↔
      Wrapping input body ∧ Base64.decodeChars body = some signed := by
  constructor
  · rintro ⟨⟨rest, rfl⟩, rfl, hdecode⟩
    refine ⟨?_, hdecode⟩
    have hrest : Protocol.wrapperBody (Utf8.bytes Protocol.branchTextWrapperPrefix ++ rest) =
        Utf8.decode rest := by
      rw [Protocol.wrapperBody, List.drop_left]
    rw [hrest] at hdecode ⊢
    rw [Wrapping, Utf8.encode_decode (replacement_not_mem hdecode)]
  · rintro ⟨hwrapping, hdecode⟩
    exact ⟨⟨_, hwrapping.symm⟩, hwrapping.wrapperBody, hdecode⟩

theorem client_wrapping_iff {input : List UInt8} {s : String} {body : List Char} :
    (Utf8.text? input = some s ∧ Core.branchTextWrapperPrefix.toList <+: s.toList ∧
        s.toList.drop Core.branchTextWrapperPrefix.length = body) ↔
      Wrapping input body ∧
        s = String.ofList (Core.branchTextWrapperPrefix.toList ++ body) := by
  rw [Utf8.text?_eq_some_iff]
  have hlength : Core.branchTextWrapperPrefix.length =
      Core.branchTextWrapperPrefix.toList.length := rfl
  have hbytes : ∀ cs, Utf8.bytes (String.ofList (Core.branchTextWrapperPrefix.toList ++ cs)) =
      Utf8.bytes Protocol.branchTextWrapperPrefix ++ Utf8.encode cs := by
    intro cs
    rw [Utf8.bytes, String.toList_ofList, Utf8.encode, List.flatMap_append]
    rfl
  constructor
  · rintro ⟨rfl, ⟨rest, hrest⟩, hbody⟩
    rw [← hrest, hlength, List.drop_left] at hbody
    subst hbody
    have hs : s = String.ofList (Core.branchTextWrapperPrefix.toList ++ rest) := by
      rw [hrest, String.ofList_toList]
    refine ⟨?_, hs⟩
    rw [Wrapping, ← hbytes, ← hs]
  · rintro ⟨hwrapping, rfl⟩
    refine ⟨(hbytes body).trans hwrapping.symm, ?_, ?_⟩
    · rw [String.toList_ofList]
      exact List.prefix_append _ _
    · rw [String.toList_ofList, hlength, List.drop_left]

/-- A wrapper that both sides decode, with its signed event. -/
def Wrapped (input signed : List UInt8) : Prop :=
  ∃ body, body ≠ [] ∧ Wrapping input body ∧ Base64.decodeStrict body = some signed

def Spelled (input signed : List UInt8) : Prop :=
  ∃ body, Wrapping input body ∧ Base64.decodeChars body = some signed

theorem Wrapping.unique {input : List UInt8} {body body' : List Char} (h : Wrapping input body)
    (h' : Wrapping input body') : body = body' :=
  Utf8.encode_injective (List.append_cancel_left (h.symm.trans h'))

theorem Spelled.unique {input signed signed' : List UInt8} (h : Spelled input signed)
    (h' : Spelled input signed') : signed = signed' := by
  obtain ⟨body, hwrapping, hdecode⟩ := h
  obtain ⟨body', hwrapping', hdecode'⟩ := h'
  obtain rfl := hwrapping.unique hwrapping'
  exact Option.some.inj (hdecode.symm.trans hdecode')

theorem Wrapped.spelled {input signed : List UInt8} (h : Wrapped input signed) :
    Spelled input signed := by
  obtain ⟨body, _, hwrapping, hdecode⟩ := h
  exact ⟨body, hwrapping, (Base64.decodeStrict_eq_some_iff_decodeChars.mp hdecode).1⟩

theorem Wrapped.text {input signed : List UInt8} (h : Wrapped input signed) :
    ∃ s, Utf8.text? input = some s := by
  obtain ⟨body, _, hwrapping, _⟩ := h
  exact ⟨_, (client_wrapping_iff.mpr ⟨hwrapping, rfl⟩).1⟩

theorem Wrapped.unique {input signed signed' : List UInt8} (h : Wrapped input signed)
    (h' : Wrapped input signed') : signed = signed' :=
  h.spelled.unique h'.spelled

theorem client_wrapped_iff {input signed : List UInt8} {s : String}
    (htext : Utf8.text? input = some s) :
    (Core.isBranchTextWrapper s = true ∧
        Core.decodeBase64URL (s.toList.drop Core.branchTextWrapperPrefix.length) = .ok signed) ↔
      Wrapped input signed ∧ input.length ≤ Core.maxTextCarrierRecordBytes := by
  have hlength : input.length = s.utf8ByteSize := by
    rw [← Utf8.text?_eq_some_iff.mp htext, Utf8.length_bytes]
  simp only [Core.isBranchTextWrapper, Bool.and_eq_true, decide_eq_true_eq,
    Core.decodeBase64URL_eq_ok_iff, hlength]
  constructor
  · rintro ⟨⟨⟨hinit, _⟩, hsize⟩, hne, hdecode⟩
    exact ⟨⟨_, hne, (client_wrapping_iff.mp ⟨htext, hinit, rfl⟩).1, hdecode⟩, hsize⟩
  · rintro ⟨⟨body, hne, hwrapping, hdecode⟩, hsize⟩
    have hs : s = String.ofList (Core.branchTextWrapperPrefix.toList ++ body) := by
      obtain ⟨hother, _, _⟩ := client_wrapping_iff.mpr ⟨hwrapping, rfl⟩
      exact Option.some.inj (htext.symm.trans hother)
    obtain ⟨_, hinit, hbody⟩ := client_wrapping_iff.mpr ⟨hwrapping, hs⟩
    rw [hbody]
    exact ⟨⟨⟨hinit, Core.validBase64URL_of_decodeStrict hne hdecode⟩, hsize⟩, hne, hdecode⟩

theorem client_wrapped_bind_iff {α : Type} {input : List UInt8}
    {read : List UInt8 → Except String α} {result : α} :
    (∃ s, Utf8.text? input = some s ∧ Core.isBranchTextWrapper s = true ∧
        (Core.decodeBase64URL (s.toList.drop Core.branchTextWrapperPrefix.length) >>= read) =
          .ok result) ↔
      ∃ signed, Wrapped input signed ∧ input.length ≤ Core.maxTextCarrierRecordBytes ∧
        read signed = .ok result := by
  constructor
  · rintro ⟨s, htext, hvalid, h⟩
    obtain ⟨signed, hdecode, h⟩ := bind_eq_ok.mp h
    obtain ⟨hwrapped, hsize⟩ := (client_wrapped_iff htext).mp ⟨hvalid, hdecode⟩
    exact ⟨signed, hwrapped, hsize, h⟩
  · rintro ⟨signed, hwrapped, hsize, h⟩
    obtain ⟨s, htext⟩ := hwrapped.text
    obtain ⟨hvalid, hdecode⟩ := (client_wrapped_iff htext).mpr ⟨hwrapped, hsize⟩
    exact ⟨s, htext, hvalid, bind_eq_ok.mpr ⟨signed, hdecode, h⟩⟩

end Wrapper

section Sequence

/-- No entry has the key of one before it or of `seen`, and no priority is below the one
before it or `floor`. -/
def InSequence : List String → Int → List (String × Nat) → Prop
  | _, _, [] => True
  | seen, floor, (key, priority) :: entries =>
    key ∉ seen ∧ floor ≤ priority ∧ InSequence (key :: seen) priority entries

theorem nil_eq_ok_iff {α ε : Type} {fields : Cbor → α → Prop} {rank : α → String × Nat}
    {admits : α → Prop} {seen : List String} {floor : Int} {entries : List α} :
    (.ok [] : Except ε (List α)) = .ok entries ↔ List.Forall₂ fields [] entries ∧
      InSequence seen floor (entries.map rank) ∧ ∀ entry ∈ entries, admits entry := by
  rw [List.forall₂_nil_left_iff]
  constructor
  · intro h
    obtain rfl := Except.ok.inj h
    simp [InSequence]
  · rintro ⟨rfl, _⟩
    rfl

end Sequence

section TextSet

/-- The field is a list of texts, none of which occurs twice. -/
structure TextSet (m : CborMap) (key : String) (maxItems : Nat) (items : List String) :
    Prop where
  value : m.lookup key = some (.array (items.map .text))
  count_ne : items.length ≠ 0
  count_le : items.length ≤ maxItems
  short : ∀ s ∈ items, s ≠ "" ∧ s.utf8ByteSize ≤ 128
  nodup : items.Nodup

variable {items : List String}

theorem TextSet.plain {m : CborMap} {key : String} {maxItems : Nat}
    (h : TextSet m key maxItems items) {maxUint : Nat} :
    Cbor.Plain (· ≠ "") 1 maxUint (.array (items.map .text)) := by
  rw [Cbor.plain_array]
  intro v hv
  obtain ⟨s, hs, rfl⟩ := List.mem_map.mp hv
  exact Cbor.plain_text.mpr (h.short s hs).1

def ByteOrdered (items : List String) : Prop :=
  items.IsChain fun a b => ¬ Utf8.bytes b < Utf8.bytes a

def UnitOrdered (items : List String) : Prop :=
  items.IsChain fun a b => ¬ Utf16.units b < Utf16.units a

theorem relay_readOrderedTexts_eq_ok_iff {normalize : String → String}
    {valid : String → Bool} {seen : List String} {previous : String} {values : List Cbor}
    :
    Protocol.readOrderedTexts normalize valid seen previous values = .ok items ↔
      ∃ texts : List String, values = texts.map .text ∧ items = texts.map normalize ∧
        (∀ s ∈ items, valid s = true) ∧ (∀ s ∈ items, s ∉ seen) ∧ items.Nodup ∧
        ByteOrdered (previous :: items) := by
  induction values generalizing seen previous items with
  | nil =>
    constructor
    · intro h
      obtain rfl := Except.ok.inj h
      exact ⟨[], rfl, rfl, by simp, by simp, List.nodup_nil, by simp [ByteOrdered]⟩
    · rintro ⟨texts, hvalues, hitems, _⟩
      obtain rfl : texts = [] := by simpa using hvalues.symm
      obtain rfl := hitems
      rfl
  | cons v values ih =>
    cases v with
    | text s =>
      simp only [Protocol.readOrderedTexts, bind_eq_ok, throwIf_eq_ok, not_not, ih]
      push Not
      constructor
      · rintro ⟨_, hvalid, _, ⟨hseen, horder⟩, rest,
          ⟨texts, rfl, hrest, hvalids, hfresh, hnodup, hchain⟩, heq⟩
        obtain rfl := Except.ok.inj heq
        refine ⟨s :: texts, rfl, by rw [hrest]; rfl,
          List.forall_mem_cons.mpr ⟨hvalid, hvalids⟩,
          List.forall_mem_cons.mpr ⟨hseen, fun t ht hmem => hfresh t ht
            (List.mem_cons_of_mem _ hmem)⟩, ?_, List.isChain_cons_cons.mpr ⟨horder, hchain⟩⟩
        exact List.nodup_cons.mpr ⟨fun hmem => hfresh _ hmem List.mem_cons_self, hnodup⟩
      · rintro ⟨texts, hvalues, rfl, hvalid, hfresh, hnodup, hchain⟩
        cases texts with
        | nil => simp at hvalues
        | cons t texts =>
          simp only [List.map_cons, List.cons.injEq, Cbor.text.injEq] at hvalues
          obtain ⟨rfl, rfl⟩ := hvalues
          rw [List.map_cons] at hvalid hfresh hnodup hchain
          rw [List.forall_mem_cons] at hvalid hfresh
          rw [List.nodup_cons] at hnodup
          obtain ⟨horder, hchain⟩ := List.isChain_cons_cons.mp hchain
          refine ⟨(), hvalid.1, (), ⟨hfresh.1, horder⟩, texts.map normalize,
            ⟨texts, rfl, rfl, hvalid.2, ?_, hnodup.2, hchain⟩, rfl⟩
          intro u hu hmem
          rcases List.mem_cons.mp hmem with rfl | hmem
          · exact hnodup.1 hu
          · exact hfresh.2 u hu hmem
    | _ =>
      constructor
      · rintro ⟨⟩
      · rintro ⟨texts, hvalues, _⟩
        cases texts <;> simp at hvalues

theorem validName_iff {s : String} :
    Protocol.validName s = true ↔ s ≠ "" ∧ s.utf8ByteSize ≤ 128 := by
  simp [Protocol.validName]

theorem byteOrdered_cons_empty :
    ByteOrdered ("" :: items) ↔ ByteOrdered items := by
  cases items with
  | nil => simp [ByteOrdered]
  | cons s items =>
    have hleast : ¬ Utf8.bytes s < Utf8.bytes "" := List.not_lt_nil _
    exact List.isChain_cons_cons.trans (and_iff_right hleast)

theorem unitOrdered_cons_empty :
    UnitOrdered ("" :: items) ↔ UnitOrdered items := by
  cases items with
  | nil => simp [UnitOrdered]
  | cons s items =>
    have hleast : ¬ Utf16.units s < Utf16.units "" := List.not_lt_nil _
    exact List.isChain_cons_cons.trans (and_iff_right hleast)

theorem relay_readOrderedTextSet_eq_ok_iff {m : CborMap} {key : String} {maxItems : Nat}
    :
    Protocol.readOrderedTextSet m key maxItems = .ok items ↔
      TextSet m key maxItems items ∧ ByteOrdered items := by
  simp only [Protocol.readOrderedTextSet, bind_eq_ok, mapError_eq_ok,
    Protocol.cborRequired_eq_ok_iff]
  constructor
  · rintro ⟨v, hlookup, h⟩
    cases v with
    | array values =>
      obtain ⟨hcount, h⟩ := throwIf_bind_eq_ok.mp h
      obtain ⟨texts, rfl, hitems, hvalid, _, hnodup, horder⟩ :=
        relay_readOrderedTexts_eq_ok_iff.mp h
      rw [List.map_id] at hitems
      subst hitems
      rw [List.length_map] at hcount
      push Not at hcount
      exact ⟨⟨hlookup, hcount.1, hcount.2, fun s hs => validName_iff.mp (hvalid s hs), hnodup⟩,
        byteOrdered_cons_empty.mp horder⟩
    | _ => cases h
  · rintro ⟨h, horder⟩
    refine ⟨_, h.value, throwIf_bind_eq_ok.mpr ⟨?_, ?_⟩⟩
    · rw [List.length_map]
      push Not
      exact ⟨h.count_ne, h.count_le⟩
    · exact relay_readOrderedTexts_eq_ok_iff.mpr ⟨items, rfl, (List.map_id items).symm,
        fun s hs => validName_iff.mpr (h.short s hs), by simp, h.nodup,
        byteOrdered_cons_empty.mpr horder⟩

theorem client_checkOrderedTexts_eq_ok_iff {maxNameBytes : Nat} {seen : List String}
    {previous : String} {u : Unit} :
    Core.checkOrderedTexts maxNameBytes seen previous items = .ok u ↔
      (∀ s ∈ items, s.utf8ByteSize ≤ maxNameBytes) ∧ (∀ s ∈ items, s ∉ seen) ∧
        items.Nodup ∧ UnitOrdered (previous :: items) := by
  induction items generalizing seen previous with
  | nil => simp [Core.checkOrderedTexts, UnitOrdered]
  | cons s items ih =>
    simp only [Core.checkOrderedTexts, throwIf_bind_eq_ok, ih]
    push Not
    rw [List.forall_mem_cons, List.forall_mem_cons, List.nodup_cons]
    constructor
    · rintro ⟨hshort, ⟨hseen, horder⟩, hshorts, hfresh, hnodup, hchain⟩
      refine ⟨⟨hshort, hshorts⟩, ⟨hseen, fun t ht hmem => hfresh t ht
        (List.mem_cons_of_mem _ hmem)⟩,
        ⟨fun hmem => hfresh s hmem List.mem_cons_self, hnodup⟩,
        List.isChain_cons_cons.mpr ⟨horder, hchain⟩⟩
    · rintro ⟨⟨hshort, hshorts⟩, ⟨hseen, hfresh⟩, ⟨hother, hnodup⟩, hchain⟩
      obtain ⟨horder, hchain⟩ := List.isChain_cons_cons.mp hchain
      refine ⟨hshort, ⟨hseen, horder⟩, hshorts, ?_, hnodup, hchain⟩
      intro t ht hmem
      rcases List.mem_cons.mp hmem with rfl | hmem
      · exact hother ht
      · exact hfresh t ht hmem

theorem client_readOrderedUniqueTextArray_eq_ok_iff {maxNameBytes : Nat}
    (hname : maxNameBytes ≤ 128) {m : CborMap} {key : String} {maxItems : Nat}
    :
    Core.readOrderedUniqueTextArray maxNameBytes m key maxItems = .ok items ↔
      TextSet m key maxItems items ∧ UnitOrdered items ∧
        ∀ s ∈ items, s.utf8ByteSize ≤ maxNameBytes := by
  simp only [Core.readOrderedUniqueTextArray, bind_eq_ok, Core.getRequiredEntry_eq_ok_iff,
    Core.readTextArray_eq_ok_iff, client_checkOrderedTexts_eq_ok_iff, unitOrdered_cons_empty]
  constructor
  · rintro ⟨_, hlookup, items', ⟨rfl, hcount, hshort⟩, _, ⟨hbound, _, hnodup, horder⟩, heq⟩
    obtain rfl := Except.ok.inj heq
    exact ⟨⟨hlookup, hcount.1, hcount.2,
      fun s hs => ⟨(hshort s hs).1, (hbound s hs).trans hname⟩, hnodup⟩, horder, hbound⟩
  · rintro ⟨h, horder, hbound⟩
    have hmax : Core.maxCborTextBytes = 1024 := rfl
    refine ⟨_, h.value, items, ⟨rfl, ⟨h.count_ne, h.count_le⟩, fun s hs => ⟨(h.short s hs).1, ?_⟩⟩,
      (), ⟨hbound, by simp, h.nodup, horder⟩, rfl⟩
    have := (h.short s hs).2
    omega

end TextSet

section Sample

/-- An event with a payload, in the order of its encoding, under an empty signature. -/
def sampleEvent (eventType : String) (payload : Cbor) : Cbor :=
  .map [("type", .text eventType),
    ("sender", .map [("key_alg", .text "ed25519"), ("public_key", .bytes (.replicate 32 0))]),
    ("payload", .bytes (Cbor.encode payload)), ("event_id", .bytes (.replicate 32 0)),
    ("protocol", .text Protocol.protocolID), ("signature", .bytes (.replicate 64 0)),
    ("created_at", .uint 100), ("expires_at", .uint 200), ("payload_mode", .text "public"),
    ("signature_alg", .text "ed25519")]

def wrapperOf (event : Cbor) : List UInt8 :=
  Utf8.bytes Protocol.branchTextWrapperPrefix ++
    Utf8.encode (Base64.encodeBytes (Cbor.encode event))

theorem wrapped_wrapperOf (event : Cbor) : Wrapped (wrapperOf event) (Cbor.encode event) := by
  have hne : Cbor.encode event ≠ [] := List.ne_nil_of_length_pos (Cbor.one_le_length_encode event)
  exact ⟨_, Base64.encodeBytes_ne_nil hne, rfl, Base64.decodeStrict_encodeBytes _⟩

end Sample

end Branch.Agreement
