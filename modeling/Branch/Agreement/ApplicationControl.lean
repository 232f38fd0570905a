import Branch.Agreement.Cbor
import Branch.Core.ApplicationControl
import Branch.Core.Attachment
import Branch.Protocol.ApplicationControl

/-!
The controls of an application in the codecs of relay and client. The client keeps ids as texts,
and its strings need not be text.
-/

namespace Branch.Agreement

open Branch.Lib
open Branch.Core (ApplicationControlEnvelope)
open Branch.Protocol (ApplicationControl ControlRecord)

section Fields

def clientEnvelope (c : ControlRecord) : ApplicationControlEnvelope where
  version := Protocol.applicationControlVersion
  kind := c.kind
  controlId := Base64.encode c.controlID
  issuedAt := c.issuedAt
  expiresAt := c.expiresAt
  senderPeerId := Base64.encode c.senderPeerID
  recipientPeerId := Base64.encode c.recipientPeerID
  body := c.body
  signature := c.signature

/-- The ids of the envelope are spellings of those of the control. -/
structure SpellsControl (envelope : ApplicationControlEnvelope) (c : ControlRecord) : Prop where
  version : envelope.version = Protocol.applicationControlVersion
  kind : envelope.kind = c.kind
  controlId : Core.decodeBase64URL envelope.controlId.toList = .ok c.controlID
  issuedAt : envelope.issuedAt = c.issuedAt
  expiresAt : envelope.expiresAt = c.expiresAt
  senderPeerId : Core.decodeBase64URL envelope.senderPeerId.toList = .ok c.senderPeerID
  recipientPeerId : Core.decodeBase64URL envelope.recipientPeerId.toList = .ok c.recipientPeerID
  body : envelope.body = c.body
  signature : envelope.signature = c.signature

variable {envelope : ApplicationControlEnvelope} {c : ControlRecord}

theorem requireBase64URLBytes_eq_ok_iff {value label : String} {size : Nat} :
    Core.requireBase64URLBytes value size label = .ok () ↔
      ∃ bytes, Core.decodeBase64URL value.toList = .ok bytes ∧ bytes.length = size := by
  rw [Core.requireBase64URLBytes, throwIf_eq_ok, not_not]
  unfold Core.isBase64URLBytes
  cases Core.decodeBase64URL value.toList <;> simp

theorem boundedBody_eq_ok_iff {body body' : List UInt8} :
    Core.boundedBody body = .ok body' ↔
      body = body' ∧ body'.length ≠ 0 ∧ body'.length ≤ Protocol.maxApplicationControlBodyBytes := by
  have hmax : Core.maxControlBodyBytes = Protocol.maxApplicationControlBodyBytes := rfl
  simp only [Core.boundedBody, bind_eq_ok, exists_unit, throwIf_eq_ok, pure_eq_ok, not_or,
    Nat.not_lt, hmax]
  constructor
  · rintro ⟨hbound, rfl⟩
    exact ⟨rfl, hbound⟩
  · rintro ⟨rfl, hbound⟩
    exact ⟨hbound, rfl⟩

theorem validateEnvelope_iff :
    (Core.validateEnvelope envelope = .ok () ∧ envelope.expiresAt ≤ Core.maxSafeInteger) ↔
      ∃ c, SpellsControl envelope c ∧ c.Valid := by
  have hversion : Core.applicationControlWireVersion = Protocol.applicationControlVersion := rfl
  have hkindMax : Core.maxControlKindBytes = Protocol.maxApplicationControlKindBytes := rfl
  simp only [Core.validateEnvelope, bind_eq_ok, exists_unit, throwIf_eq_ok,
    requireBase64URLBytes_eq_ok_iff, boundedBody_eq_ok_iff, not_or, not_and_or, not_not,
    Nat.not_lt, Nat.not_le, ne_eq, hversion, hkindMax]
  constructor
  · rintro ⟨⟨⟨hversion, hkind, hkindLe, hlifetime⟩, ⟨id, hid, hidLength⟩, ⟨sender, hsender,
      hsenderLength⟩, ⟨recipient, hrecipient, hrecipientLength⟩, _, ⟨rfl, hbody, hbodyLe⟩,
      hsignature⟩, hexpires⟩
    refine ⟨⟨envelope.kind, id, envelope.issuedAt, envelope.expiresAt, sender, recipient,
      envelope.body, envelope.signature⟩, ⟨hversion, rfl, hid, rfl, rfl, hsender, hrecipient, rfl,
      rfl⟩, ⟨rfl, ?_, ?_, hidLength, hlifetime, hexpires, hsenderLength, hrecipientLength, hbody,
      hbodyLe, hsignature⟩⟩
    · rw [ControlRecord.control, Utf8.length_bytes]
      exact hkind
    · rw [ControlRecord.control, Utf8.length_bytes]
      exact hkindLe
  · rintro ⟨c, ⟨hversion, hkind, hid, hissued, hexpires, hsender, hrecipient, hbody, hsignature⟩,
      ⟨_, hkindNe, hkindLe, hidLength, hlifetime, hexpiresLe, hsenderLength, hrecipientLength,
      hbodyNe, hbodyLe, hsignatureLength⟩⟩
    simp only [ControlRecord.control, Utf8.length_bytes] at hkindNe hkindLe
    rw [hkind, hissued, hexpires, hbody, hsignature]
    exact ⟨⟨⟨hversion, hkindNe, hkindLe, hlifetime⟩, ⟨_, hid, hidLength⟩,
      ⟨_, hsender, hsenderLength⟩, ⟨_, hrecipient, hrecipientLength⟩, _,
      ⟨rfl, hbodyNe, hbodyLe⟩, hsignatureLength⟩, hexpiresLe⟩

theorem spellsControl_clientEnvelope (h : c.Valid) : SpellsControl (clientEnvelope c) c := by
  have hid : c.controlID.length = 16 := h.controlID
  have hsender : c.senderPeerID.length = 32 := h.senderPeerID
  have hrecipient : c.recipientPeerID.length = 32 := h.recipientPeerID
  exact ⟨rfl, rfl, Core.decodeBase64URL_encode (by omega), rfl, rfl,
    Core.decodeBase64URL_encode (by omega), Core.decodeBase64URL_encode (by omega), rfl, rfl⟩

theorem SpellsControl.unique {c' : ControlRecord} (h : SpellsControl envelope c)
    (h' : SpellsControl envelope c') : c = c' := by
  obtain ⟨_, hkind, hid, hissued, hexpires, hsender, hrecipient, hbody, hsignature⟩ := h
  obtain ⟨_, hkind', hid', hissued', hexpires', hsender', hrecipient', hbody', hsignature'⟩ := h'
  cases c
  cases c'
  simp_all

end Fields

section Client

variable {envelope : ApplicationControlEnvelope} {c : ControlRecord} {map : Core.CborMap}
  {bytes : List UInt8}

theorem unmarked_entries_iff :
    (∀ s ∈ (Cbor.map c.entries).texts, ¬ Utf8.Marked s) ↔ ¬ Utf8.Marked c.kind := by
  have htexts : (Cbor.map c.entries).texts =
      ["version", Protocol.applicationControlVersion, "kind", c.kind, "control_id", "issued_at",
        "expires_at", "sender_peer_id", "recipient_peer_id", "body", "signature"] := rfl
  have hconst : ∀ s ∈ ["version", Protocol.applicationControlVersion, "kind", "control_id",
      "issued_at", "expires_at", "sender_peer_id", "recipient_peer_id", "body", "signature"],
      s.toList.head? ≠ some Utf8.byteOrderMark := by
    decide
  rw [htexts]
  constructor
  · exact fun hall => hall _ (by simp)
  · intro hkind s hs
    by_cases heq : s = c.kind
    · rwa [heq]
    · exact hconst s (by simp_all)

theorem readVersion_control_iff {version : String} :
    Core.readVersion map = .ok version ↔
      map.lookup "version" = some (.text version) ∧
        version = Protocol.applicationControlVersion := by
  have hversion : Core.applicationControlWireVersion = Protocol.applicationControlVersion := rfl
  simp only [Core.readVersion, bind_eq_ok, exists_unit, throwIf_eq_ok, not_not, pure_eq_ok,
    Core.requiredText_eq_ok_iff, hversion]
  constructor
  · rintro ⟨_, ⟨hlookup, _⟩, rfl, rfl⟩
    exact ⟨hlookup, rfl⟩
  · rintro ⟨hlookup, rfl⟩
    exact ⟨_, ⟨hlookup, by decide⟩, rfl, rfl⟩

theorem readKind_control_iff {kind : String} :
    Core.readKind map = .ok kind ↔
      map.lookup "kind" = some (.text kind) ∧ kind ≠ "" ∧
        kind.utf8ByteSize ≤ Protocol.maxApplicationControlKindBytes := by
  have hmax : Core.maxControlKindBytes = Protocol.maxApplicationControlKindBytes := rfl
  have hle : Protocol.maxApplicationControlKindBytes ≤ Core.maxCborTextBytes := by decide
  simp only [Core.readKind, bind_eq_ok, exists_unit, throwIf_eq_ok, Nat.not_lt, pure_eq_ok,
    Core.requiredText_eq_ok_iff, hmax]
  constructor
  · rintro ⟨_, ⟨hlookup, hne, _⟩, hsize, rfl⟩
    exact ⟨hlookup, hne, hsize⟩
  · rintro ⟨hlookup, hne, hsize⟩
    exact ⟨_, ⟨hlookup, hne, hsize.trans hle⟩, hsize, rfl⟩

theorem readBytesOrEmpty_eq_ok_iff {value : Cbor} {label : String} {data : List UInt8} :
    Core.readBytesOrEmpty value label = .ok data ↔ value = .bytes data ∧ data.length ≤ 64 := by
  cases value with
  | bytes data' =>
    rw [Core.readBytesOrEmpty, ite_error_eq_ok, Except.ok.injEq, Cbor.bytes.injEq, Nat.not_lt]
    constructor
    · rintro ⟨hsize, rfl⟩
      exact ⟨rfl, hsize⟩
    · rintro ⟨rfl, hsize⟩
      exact ⟨hsize, rfl⟩
  | _ => simp [Core.readBytesOrEmpty]

theorem requiredBytes_size_iff {key : String} {size : Nat} {data : List UInt8} (hpos : 0 < size)
    (hsize : size ≤ Core.maxCborBytes) :
    Core.requiredBytes map key (some size) = .ok data ↔
      map.lookup key = some (.bytes data) ∧ data.length = size := by
  rw [Core.requiredBytes_eq_ok_iff]
  constructor
  · rintro ⟨hlookup, _, hlength⟩
    exact ⟨hlookup, hlength _ rfl⟩
  · rintro ⟨hlookup, hlength⟩
    refine ⟨hlookup, ⟨by omega, by omega⟩, fun n hn => ?_⟩
    rw [← Option.some.inj hn]
    exact hlength

theorem requiredBytes_any_iff {key : String} {data : List UInt8} :
    Core.requiredBytes map key none = .ok data ↔
      map.lookup key = some (.bytes data) ∧ data.length ≠ 0 ∧
        data.length ≤ Core.maxCborBytes := by
  simp only [Core.requiredBytes_eq_ok_iff, Option.mem_def, reduceCtorEq, false_imp_iff,
    implies_true, and_true]

/-- The client reads the entries of a control that the relay accepts, if its decoder of CBOR
returns them. -/
theorem decodeApplicationControl_reads_iff :
    Core.decodeApplicationControl bytes = .ok envelope ↔
      ∃ c : ControlRecord, c.Valid ∧ clientEnvelope c = envelope ∧ ∃ map,
        Core.decodeDeterministicCbor bytes Core.maxControlBytes = .ok (.map map) ∧
          Cbor.Reads map c.entries := by
  have hbodyMax : Protocol.maxApplicationControlBodyBytes ≤ Core.maxCborBytes := by decide
  simp only [Core.decodeApplicationControl, bind_eq_ok, mapError_eq_ok, exists_unit, throwIf_eq_ok,
    Core.readCborMap_eq_ok_iff, Core.rejectUnknownEntries_eq_ok_iff, readVersion_control_iff,
    readKind_control_iff, requiredBytes_size_iff (by decide : 0 < 16) (by decide),
    requiredBytes_size_iff (by decide : 0 < 32) (by decide), requiredBytes_any_iff,
    Core.requiredUint_eq_ok_iff,
    Core.getRequiredEntry_eq_ok_iff, readBytesOrEmpty_eq_ok_iff, boundedBody_eq_ok_iff, pure_eq_ok]
  constructor
  · rintro ⟨_, _, hdecode, map, rfl, hknown, version, ⟨hversion, rfl⟩, kind, ⟨hkind, _⟩, id,
      ⟨hid, hidLength⟩, issuedAt, ⟨hissued, _⟩, expiresAt, ⟨hexpires, hexpiresLe⟩, sender,
      ⟨hsender, hsenderLength⟩, recipient, ⟨hrecipient, hrecipientLength⟩, body, ⟨hbody, _⟩, _,
      ⟨rfl, _⟩, _, hsignature, signature, ⟨rfl, _⟩, hvalidate, rfl⟩
    obtain ⟨c, hspells, hvalid⟩ := validateEnvelope_iff.mp ⟨hvalidate, hexpiresLe⟩
    obtain rfl : c = ⟨kind, id, issuedAt, expiresAt, sender, recipient, body, signature⟩ :=
      hspells.unique ⟨rfl, rfl, Core.decodeBase64URL_encode (by omega), rfl, rfl,
        Core.decodeBase64URL_encode (by omega), Core.decodeBase64URL_encode (by omega), rfl, rfl⟩
    refine ⟨_, hvalid, rfl, map, hdecode, hknown, ?_⟩
    simp only [ControlRecord.entries, List.forall_mem_cons, forall_mem_nil, and_true]
    exact ⟨hversion, hkind, hid, hissued, hexpires, hsender, hrecipient, hbody, hsignature⟩
  · rintro ⟨c, hvalid, rfl, map, hdecode, hknown, hlookup⟩
    simp only [ControlRecord.entries, List.forall_mem_cons, forall_mem_nil, and_true] at hlookup
    obtain ⟨hversion, hkind, hid, hissued, hexpires, hsender, hrecipient, hbody, hsignature⟩ :=
      hlookup
    obtain ⟨⟨hne, hsize⟩, _⟩ := Core.decodeDeterministicCbor_eq_ok_iff.mp hdecode
    obtain ⟨hvalidate, hexpiresLe⟩ :=
      validateEnvelope_iff.mpr ⟨c, spellsControl_clientEnvelope hvalid, hvalid⟩
    have hkindLe : c.kind.utf8ByteSize ≤ Protocol.maxApplicationControlKindBytes := by
      have hkindLe := ApplicationControl.Valid.kind_le hvalid
      rwa [ControlRecord.control, Utf8.length_bytes] at hkindLe
    have hissuedLe : c.issuedAt ≤ Core.maxSafeInteger :=
      (Nat.le_of_lt (ApplicationControl.Valid.lifetime hvalid)).trans hexpiresLe
    have hsignatureLe : c.signature.length ≤ 64 := by
      have hlength := ApplicationControl.Valid.signature hvalid
      simp only [ControlRecord.control] at hlength
      omega
    exact ⟨by omega, _, hdecode, map, rfl, hknown, _, ⟨hversion, rfl⟩,
      _, ⟨hkind, hvalid.kind_ne.1, hkindLe⟩, _, ⟨hid, ApplicationControl.Valid.controlID hvalid⟩,
      _, ⟨hissued, hissuedLe⟩, _, ⟨hexpires, hexpiresLe⟩,
      _, ⟨hsender, ApplicationControl.Valid.senderPeerID hvalid⟩,
      _, ⟨hrecipient, ApplicationControl.Valid.recipientPeerID hvalid⟩,
      _, ⟨hbody, ApplicationControl.Valid.body hvalid,
        (ApplicationControl.Valid.body_le hvalid).trans hbodyMax⟩,
      _, ⟨rfl, ApplicationControl.Valid.body hvalid, ApplicationControl.Valid.body_le hvalid⟩,
      _, hsignature, _, ⟨rfl, hsignatureLe⟩, hvalidate, rfl⟩

theorem client_decodeApplicationControl_eq_ok_iff :
    Core.decodeApplicationControl bytes = .ok envelope ↔
      ∃ c : ControlRecord, c.Valid ∧ ¬ Utf8.Marked c.kind ∧ bytes = c.encoding ∧
        clientEnvelope c = envelope := by
  have hreads : ∀ {c : ControlRecord}, c.Valid →
      ((∃ map, Core.decodeDeterministicCbor bytes Core.maxControlBytes = .ok (.map map) ∧
          Cbor.Reads map c.entries) ↔ ¬ Utf8.Marked c.kind ∧ bytes = c.encoding) := by
    intro c hvalid
    rw [Core.decode_reads_iff (hvalid.fits roomy_tsRules) c.flat_entries, unmarked_entries_iff]
    refine and_iff_right_of_imp fun ⟨_, hbytes⟩ => ?_
    rw [← ControlRecord.encoding] at hbytes
    exact hbytes ▸ hvalid.length_encoding
  rw [decodeApplicationControl_reads_iff]
  constructor
  · rintro ⟨c, hvalid, heq, hread⟩
    obtain ⟨hunmarked, hbytes⟩ := (hreads hvalid).mp hread
    exact ⟨c, hvalid, hunmarked, hbytes, heq⟩
  · rintro ⟨c, hvalid, hunmarked, hbytes, heq⟩
    exact ⟨c, hvalid, heq, (hreads hvalid).mpr ⟨hunmarked, hbytes⟩⟩

theorem client_encodeApplicationControl_eq_ok_iff :
    Core.encodeApplicationControl envelope = .ok bytes ↔
      ∃ c : ControlRecord, SpellsControl envelope c ∧ c.Valid ∧ bytes = c.encoding := by
  have hentries : ∀ {c : ControlRecord}, SpellsControl envelope c →
      Core.envelopeMap envelope true = .ok c.entries := by
    intro c h
    rw [Core.envelopeMap, h.controlId, h.senderPeerId, h.recipientPeerId, h.version, h.kind,
      h.issuedAt, h.expiresAt, h.body, h.signature]
    rfl
  have hencode : ∀ {c : ControlRecord}, c.Valid →
      Core.encodeDeterministicCbor (.map c.entries) = .ok c.encoding := by
    intro c hvalid
    rw [ControlRecord.encoding, ← Cbor.sortKeys_record c.flat_entries]
    exact Core.encodeDeterministicCbor_of_fits (Core.fits_encoderRules (hvalid.fits roomy_tsRules))
  simp only [Core.encodeApplicationControl, bind_eq_ok, exists_unit, mapError_eq_ok]
  constructor
  · rintro ⟨hvalidate, entries, hmap, hwrite⟩
    have hexpires : envelope.expiresAt ≤ Core.maxSafeInteger := by
      have hentry : ("expires_at", Cbor.uint envelope.expiresAt) ∈ entries := by
        simp only [Core.envelopeMap, bind_eq_ok, pure_eq_ok] at hmap
        obtain ⟨_, _, _, _, _, _, rfl⟩ := hmap
        simp
      have hcheck := Cbor.uint_of_write_map hwrite hentry
      exact Nat.not_lt.mp (throwIf_eq_ok.mp hcheck)
    obtain ⟨c, hspells, hvalid⟩ := validateEnvelope_iff.mp ⟨hvalidate, hexpires⟩
    have hsame : c.entries = entries := Except.ok.inj ((hentries hspells).symm.trans hmap)
    rw [← hsame] at hwrite
    exact ⟨c, hspells, hvalid, Except.ok.inj (hwrite.symm.trans (hencode hvalid))⟩
  · rintro ⟨c, hspells, hvalid, hbytes⟩
    rw [hbytes]
    exact ⟨(validateEnvelope_iff.mpr ⟨c, hspells, hvalid⟩).1, _, hentries hspells, hencode hvalid⟩

theorem client_applicationControlSigningBytes (h : SpellsControl envelope c) (hvalid : c.Valid) :
    ∃ input, Core.applicationControlSigningBytes envelope = .ok input := by
  have hentries : Core.envelopeMap envelope false = .ok c.entries.dropLast := by
    rw [Core.envelopeMap, h.controlId, h.senderPeerId, h.recipientPeerId, h.version, h.kind,
      h.issuedAt, h.expiresAt, h.body]
    rfl
  have hsub : c.entries.dropLast.Sublist c.entries := List.dropLast_sublist _
  have hfits : Cbor.Fits Core.encoderRules (.map c.entries.dropLast) := by
    cases Core.fits_encoderRules (hvalid.fits roomy_tsRules) with
    | map hlength hkeys hdistinct hvalues =>
      exact .map (hsub.length_le.trans hlength) (fun entry hentry => hkeys _ (hsub.subset hentry))
        ((hsub.map Prod.fst).nodup hdistinct) (fun entry hentry => hvalues _ (hsub.subset hentry))
  have hwrite := Core.encodeDeterministicCbor_of_fits hfits
  unfold Core.applicationControlSigningBytes
  rw [hentries]
  simp only [bind_eq_ok, mapError_eq_ok, pure_eq_ok]
  exact ⟨_, _, rfl, _, hwrite, rfl⟩

end Client

section Strings

/-- An envelope as the encoder of the client gets it. Its kind may have surrogates without their
other half. -/
structure ClientControl where
  version : String
  kind : Core.JsString
  controlId : String
  issuedAt : Nat
  expiresAt : Nat
  senderPeerId : String
  recipientPeerId : String
  body : List UInt8
  signature : List UInt8
  deriving DecidableEq

/-- Whatever the encoder does with the kind, it does with what `TextEncoder` makes of it. -/
def ClientControl.wellFormed (value : ClientControl) : ApplicationControlEnvelope where
  version := value.version
  kind := Utf16.text value.kind
  controlId := value.controlId
  issuedAt := value.issuedAt
  expiresAt := value.expiresAt
  senderPeerId := value.senderPeerId
  recipientPeerId := value.recipientPeerId
  body := value.body
  signature := value.signature

def encodeClientControl (value : ClientControl) : Except String (List UInt8) :=
  Core.encodeApplicationControl value.wellFormed

def clientControl (envelope : ApplicationControlEnvelope) : ClientControl where
  version := envelope.version
  kind := Utf16.units envelope.kind
  controlId := envelope.controlId
  issuedAt := envelope.issuedAt
  expiresAt := envelope.expiresAt
  senderPeerId := envelope.senderPeerId
  recipientPeerId := envelope.recipientPeerId
  body := envelope.body
  signature := envelope.signature

/-- Every half of a pair in the kind has its other half, the kind does not begin with U+FEFF, and
the ids are spelled canonically. -/
structure ClientControl.Returns (value : ClientControl) : Prop where
  paired : Utf16.paired value.kind = true
  unmarked : ¬ Utf8.Marked (Utf16.text value.kind)
  controlId : Core.CanonicalToken value.controlId
  senderPeerId : Core.CanonicalToken value.senderPeerId
  recipientPeerId : Core.CanonicalToken value.recipientPeerId

theorem encoding_injective {c c' : ControlRecord} (h : c.Valid) (h' : c'.Valid)
    (heq : c.encoding = c'.encoding) : c = c' := by
  have hdecode := Protocol.decodeApplicationControl_eq_ok_iff.mpr ⟨c, h, rfl, rfl⟩
  have hdecode' := Protocol.decodeApplicationControl_eq_ok_iff.mpr ⟨c', h', heq, rfl⟩
  have hcontrol := Except.ok.inj (hdecode.symm.trans hdecode')
  cases c
  cases c'
  simp only [ControlRecord.control, ApplicationControl.mk.injEq, true_and] at hcontrol
  obtain ⟨hkind, rfl, rfl, rfl, rfl, rfl, rfl, rfl⟩ := hcontrol
  rw [Utf8.bytes_injective hkind]

variable {value : ClientControl} {c : ControlRecord} {bytes : List UInt8}

theorem clientControl_clientEnvelope_eq_iff (h : SpellsControl value.wellFormed c) :
    clientControl (clientEnvelope c) = value ↔
      Utf16.paired value.kind = true ∧ Core.CanonicalToken value.controlId ∧
        Core.CanonicalToken value.senderPeerId ∧ Core.CanonicalToken value.recipientPeerId := by
  constructor
  · intro hvalue
    rw [← hvalue]
    exact ⟨Utf16.paired_units c.kind, ⟨_, rfl⟩, ⟨_, rfl⟩, ⟨_, rfl⟩⟩
  · rintro ⟨hpaired, hid, hsender, hrecipient⟩
    have hkind : Utf16.units c.kind = value.kind := by
      rw [← h.kind]
      exact Utf16.units_text_eq_iff.mpr hpaired
    have hid := (Core.encode_eq_iff_canonical h.controlId).mpr hid
    have hsender := (Core.encode_eq_iff_canonical h.senderPeerId).mpr hsender
    have hrecipient := (Core.encode_eq_iff_canonical h.recipientPeerId).mpr hrecipient
    rw [clientControl, clientEnvelope, hkind, hid, hsender, hrecipient, ← h.version, ← h.issuedAt,
      ← h.expiresAt, ← h.body, ← h.signature]
    rfl

theorem decode_encodeClientControl_iff (h : encodeClientControl value = .ok bytes) :
    (Core.decodeApplicationControl bytes).map clientControl = .ok value ↔ value.Returns := by
  obtain ⟨c, hspells, hvalid, hbytes⟩ := client_encodeApplicationControl_eq_ok_iff.mp h
  have hkind : c.kind = Utf16.text value.kind := hspells.kind.symm
  rw [hbytes]
  simp only [map_eq_ok, client_decodeApplicationControl_eq_ok_iff]
  constructor
  · rintro ⟨_, ⟨c', hvalid', hunmarked, heq, rfl⟩, hvalue⟩
    obtain rfl := encoding_injective hvalid hvalid' heq
    obtain ⟨hpaired, hid, hsender, hrecipient⟩ :=
      (clientControl_clientEnvelope_eq_iff hspells).mp hvalue
    exact ⟨hpaired, hkind ▸ hunmarked, hid, hsender, hrecipient⟩
  · rintro ⟨hpaired, hunmarked, hid, hsender, hrecipient⟩
    exact ⟨_, ⟨c, hvalid, hkind ▸ hunmarked, rfl, rfl⟩,
      (clientControl_clientEnvelope_eq_iff hspells).mpr ⟨hpaired, hid, hsender, hrecipient⟩⟩

end Strings

section Codecs

/-- The fields that an envelope of the client and a control of the relay have in common. -/
structure SameControl (envelope : ApplicationControlEnvelope) (control : ApplicationControl) :
    Prop where
  version : Utf8.bytes envelope.version = control.version
  kind : Utf8.bytes envelope.kind = control.kind
  controlId : envelope.controlId = Base64.encode control.controlID
  issuedAt : envelope.issuedAt = control.issuedAt
  expiresAt : envelope.expiresAt = control.expiresAt
  senderPeerId : envelope.senderPeerId = Base64.encode control.senderPeerID
  recipientPeerId : envelope.recipientPeerId = Base64.encode control.recipientPeerID
  body : envelope.body = control.body
  signature : envelope.signature = control.signature

theorem sameControl_record (c : ControlRecord) : SameControl (clientEnvelope c) c.control :=
  ⟨rfl, rfl, rfl, rfl, rfl, rfl, rfl, rfl, rfl⟩

/-- Both decoders reject the input, or both return the same control. -/
structure ControlDecodersAgree (bytes : List UInt8) : Prop where
  relay : ∀ control, Protocol.decodeApplicationControl bytes = .ok control →
    ∃ envelope, Core.decodeApplicationControl bytes = .ok envelope ∧ SameControl envelope control
  client : ∀ envelope, Core.decodeApplicationControl bytes = .ok envelope →
    ∃ control, Protocol.decodeApplicationControl bytes = .ok control ∧ SameControl envelope control

theorem controlDecodersAgree_iff {bytes : List UInt8} :
    ControlDecodersAgree bytes ↔
      ∀ c : ControlRecord, c.Valid → bytes = c.encoding → ¬ Utf8.Marked c.kind := by
  constructor
  · intro hagree c hvalid hbytes
    obtain ⟨envelope, hclient, _⟩ := hagree.relay c.control
      (Protocol.decodeApplicationControl_eq_ok_iff.mpr ⟨c, hvalid, hbytes, rfl⟩)
    obtain ⟨c', hvalid', hunmarked, hbytes', _⟩ :=
      client_decodeApplicationControl_eq_ok_iff.mp hclient
    rwa [encoding_injective hvalid hvalid' (hbytes.symm.trans hbytes')]
  · intro hunmarked
    constructor
    · intro control hrelay
      obtain ⟨c, hvalid, hbytes, rfl⟩ := Protocol.decodeApplicationControl_eq_ok_iff.mp hrelay
      exact ⟨clientEnvelope c, client_decodeApplicationControl_eq_ok_iff.mpr
        ⟨c, hvalid, hunmarked c hvalid hbytes, hbytes, rfl⟩, sameControl_record c⟩
    · intro envelope hclient
      obtain ⟨c, hvalid, _, hbytes, rfl⟩ := client_decodeApplicationControl_eq_ok_iff.mp hclient
      exact ⟨c.control, Protocol.decodeApplicationControl_eq_ok_iff.mpr
        ⟨c, hvalid, hbytes, rfl⟩, sameControl_record c⟩

/-- When the decoders agree on some bytes, and when the control that was encoded as them comes
back. -/
structure ControlCodecs (bytes : List UInt8) : Prop where
  agree : ControlDecodersAgree bytes ↔
    ∀ c : ControlRecord, c.Valid → bytes = c.encoding → ¬ Utf8.Marked c.kind
  relay : ∀ control, Protocol.encodeApplicationControl control = .ok bytes →
    (Protocol.decodeApplicationControl bytes = .ok control ↔
      ∃ kind, Utf8.bytes kind = control.kind)
  client : ∀ value, encodeClientControl value = .ok bytes →
    ((Core.decodeApplicationControl bytes).map clientControl = .ok value ↔ value.Returns)

theorem controlCodecs (bytes : List UInt8) : ControlCodecs bytes where
  agree := controlDecodersAgree_iff
  relay := fun _ => Protocol.decode_encode_control_iff
  client := fun _ => decode_encodeClientControl_iff

def markedControl : ControlRecord where
  kind := "\uFEFFtyping"
  controlID := List.replicate 16 0
  issuedAt := 1
  expiresAt := 2
  senderPeerID := List.replicate 32 0
  recipientPeerID := List.replicate 32 0
  body := [0]
  signature := []

theorem valid_markedControl : markedControl.Valid where
  version := rfl
  kind := (by decide : (Utf8.bytes "\uFEFFtyping").length ≠ 0)
  kind_le := (by decide : (Utf8.bytes "\uFEFFtyping").length ≤ 96)
  controlID := List.length_replicate
  lifetime := (by decide : 1 < 2)
  expiresAt := (by decide : 2 ≤ 2 ^ 53 - 1)
  senderPeerID := List.length_replicate
  recipientPeerID := List.length_replicate
  body := (by decide : 1 ≠ 0)
  body_le := (by decide : 1 ≤ 2048)
  signature := .inl rfl

/-- The relay accepts it and returns what was encoded, the client rejects it. -/
theorem not_controlDecodersAgree_markedControl :
    Protocol.encodeApplicationControl markedControl.control = .ok markedControl.encoding ∧
      ¬ ControlDecodersAgree markedControl.encoding := by
  refine ⟨Protocol.encodeApplicationControl_record valid_markedControl, fun hagree => ?_⟩
  have hunmarked := controlDecodersAgree_iff.mp hagree markedControl valid_markedControl rfl
  exact hunmarked (by decide : "\uFEFFtyping".toList.head? = some Utf8.byteOrderMark)

end Codecs

end Branch.Agreement
