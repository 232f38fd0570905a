import Branch.Lib.RawCbor
import Branch.Protocol.CborDecode

/-!
The controls of an application inside of an encrypted envelope, as Go writes and reads them.
Version and kind are strings of the relay's language: any bytes.
-/

namespace Branch.Protocol

open Branch.Lib

def applicationControlVersion : String := "branch.application-control/0.draft"
def maxApplicationControlBytes : Nat := 4096
def maxApplicationControlKindBytes : Nat := 96
def maxApplicationControlBodyBytes : Nat := 2048

structure ApplicationControl where
  version : List UInt8
  kind : List UInt8
  controlID : List UInt8
  issuedAt : Nat
  expiresAt : Nat
  senderPeerID : List UInt8
  recipientPeerID : List UInt8
  body : List UInt8
  signature : List UInt8
  deriving DecidableEq

def invalidApplicationControl : String := "invalid application control"

def applicationControlError (err : String) : String := invalidApplicationControl ++ ": " ++ err

def ApplicationControl.validate (control : ApplicationControl) : Except String Unit :=
  throwIf (control.version ≠ Utf8.bytes applicationControlVersion ∨ control.kind.length = 0 ∨
    maxApplicationControlKindBytes < control.kind.length ∨ control.controlID.length ≠ 16 ∨
    control.expiresAt ≤ control.issuedAt ∨ maxDraftTimestamp < control.expiresAt ∨
    control.senderPeerID.length ≠ 32 ∨ control.recipientPeerID.length ≠ 32 ∨
    control.body.length = 0 ∨ maxApplicationControlBodyBytes < control.body.length ∨
    (control.signature.length ≠ 0 ∧ control.signature.length ≠ 64)) invalidApplicationControl

def applicationControlMap (control : ApplicationControl) : List (List UInt8 × RawCbor) :=
  [(Utf8.bytes "version", .text control.version), (Utf8.bytes "kind", .text control.kind),
    (Utf8.bytes "control_id", .bytes control.controlID),
    (Utf8.bytes "issued_at", .uint control.issuedAt),
    (Utf8.bytes "expires_at", .uint control.expiresAt),
    (Utf8.bytes "sender_peer_id", .bytes control.senderPeerID),
    (Utf8.bytes "recipient_peer_id", .bytes control.recipientPeerID),
    (Utf8.bytes "body", .bytes control.body), (Utf8.bytes "signature", .bytes control.signature)]

def encodeApplicationControl (control : ApplicationControl) : Except String (List UInt8) := do
  control.validate
  let encoded ← (RawCbor.write CborErr.duplicateKey.message
    (.map (applicationControlMap control))).mapError applicationControlError
  throwIf (maxApplicationControlBytes < encoded.length) invalidApplicationControl
  return encoded

section Decoder

def applicationControlSignature (m : CborMap) : Except String (List UInt8) := do
  let value ← cborRequired m "signature"
  match value with
  | .bytes signature =>
    throwIf (signature.length ≠ 0 ∧ signature.length ≠ 64) "invalid_signature"
    return signature
  | _ => throw "invalid_signature"

def applicationControlKeys : List String :=
  ["version", "kind", "control_id", "issued_at", "expires_at", "sender_peer_id",
    "recipient_peer_id", "body", "signature"]

def decodeApplicationControl (data : List UInt8) : Except String ApplicationControl := do
  throwIf (data.length = 0 ∨ maxApplicationControlBytes < data.length) invalidApplicationControl
  let value ← (decodeDeterministicCBOR data).mapError fun err =>
    applicationControlError err.message
  let m ← (cborMap value "application_control").mapError applicationControlError
  (cborRejectUnknown m applicationControlKeys).mapError applicationControlError
  let version ← (cborText m "version").mapError applicationControlError
  let kind ← (cborText m "kind").mapError applicationControlError
  let controlID ← (cborBytes m "control_id" 16).mapError applicationControlError
  let issuedAt ← (cborUint m "issued_at").mapError applicationControlError
  let expiresAt ← (cborUint m "expires_at").mapError applicationControlError
  let senderPeerID ← (cborBytes m "sender_peer_id" 32).mapError applicationControlError
  let recipientPeerID ← (cborBytes m "recipient_peer_id" 32).mapError applicationControlError
  let body ← (cborBytes m "body" 0).mapError applicationControlError
  let signature ← (applicationControlSignature m).mapError applicationControlError
  let control : ApplicationControl :=
    { version := Utf8.bytes version, kind := Utf8.bytes kind, controlID, issuedAt, expiresAt
      senderPeerID, recipientPeerID, body, signature }
  control.validate
  return control

end Decoder

section Valid

structure ApplicationControl.Valid (control : ApplicationControl) : Prop where
  version : control.version = Utf8.bytes applicationControlVersion
  kind : control.kind.length ≠ 0
  kind_le : control.kind.length ≤ maxApplicationControlKindBytes
  controlID : control.controlID.length = 16
  lifetime : control.issuedAt < control.expiresAt
  expiresAt : control.expiresAt ≤ 2 ^ 53 - 1
  senderPeerID : control.senderPeerID.length = 32
  recipientPeerID : control.recipientPeerID.length = 32
  body : control.body.length ≠ 0
  body_le : control.body.length ≤ maxApplicationControlBodyBytes
  signature : control.signature.length = 0 ∨ control.signature.length = 64

theorem ApplicationControl.validate_eq_ok_iff {control : ApplicationControl} :
    control.validate = .ok () ↔ control.Valid := by
  rw [ApplicationControl.validate, throwIf_eq_ok]
  simp only [not_or, not_and_or, not_not, Nat.not_lt, Nat.not_le, Int.not_lt,
    le_maxDraftTimestamp_iff, ne_eq]
  constructor
  · rintro ⟨hversion, hkind, hkindLe, hid, hlifetime, hexpires, hsender, hrecipient, hbody,
      hbodyLe, hsignature⟩
    exact ⟨hversion, hkind, hkindLe, hid, hlifetime, hexpires, hsender, hrecipient, hbody,
      hbodyLe, hsignature⟩
  · rintro ⟨hversion, hkind, hkindLe, hid, hlifetime, hexpires, hsender, hrecipient, hbody,
      hbodyLe, hsignature⟩
    exact ⟨hversion, hkind, hkindLe, hid, hlifetime, hexpires, hsender, hrecipient, hbody,
      hbodyLe, hsignature⟩

/-- A control whose version is right and whose kind is text. -/
structure ControlRecord where
  kind : String
  controlID : List UInt8
  issuedAt : Nat
  expiresAt : Nat
  senderPeerID : List UInt8
  recipientPeerID : List UInt8
  body : List UInt8
  signature : List UInt8
  deriving DecidableEq

namespace ControlRecord

def control (c : ControlRecord) : ApplicationControl where
  version := Utf8.bytes applicationControlVersion
  kind := Utf8.bytes c.kind
  controlID := c.controlID
  issuedAt := c.issuedAt
  expiresAt := c.expiresAt
  senderPeerID := c.senderPeerID
  recipientPeerID := c.recipientPeerID
  body := c.body
  signature := c.signature

def entries (c : ControlRecord) : CborMap :=
  [("version", .text applicationControlVersion), ("kind", .text c.kind),
    ("control_id", .bytes c.controlID), ("issued_at", .uint c.issuedAt),
    ("expires_at", .uint c.expiresAt), ("sender_peer_id", .bytes c.senderPeerID),
    ("recipient_peer_id", .bytes c.recipientPeerID), ("body", .bytes c.body),
    ("signature", .bytes c.signature)]

def Valid (c : ControlRecord) : Prop := c.control.Valid

def encoding (c : ControlRecord) : List UInt8 := Cbor.encode (.map (Cbor.inKeyOrder c.entries))

variable {c : ControlRecord} {r : Cbor.Rules}

theorem keys_entries (c : ControlRecord) : c.entries.map Prod.fst = applicationControlKeys := rfl

theorem Valid.kind_ne (h : c.Valid) :
    c.kind ≠ "" ∧ c.kind.utf8ByteSize ≤ maxDraftStringBytes := by
  have hkind := ApplicationControl.Valid.kind h
  have hkindLe := ApplicationControl.Valid.kind_le h
  have hbytes : c.control.kind.length = c.kind.utf8ByteSize := Utf8.length_bytes c.kind
  rw [hbytes] at hkind hkindLe
  constructor
  · intro hempty
    rw [hempty] at hkind
    exact hkind rfl
  · exact hkindLe.trans (by decide)

theorem Valid.fits (h : c.Valid) (hr : Roomy r) : Cbor.Fits r (.map c.entries) := by
  obtain ⟨hkind, hkindLe⟩ := Valid.kind_ne h
  obtain ⟨_, _, _, hid, hlifetime, hexpires, hsender, hrecipient, _, hbody, hsignature⟩ := h
  have hargument := hr.argument
  have hbytes : 49152 ≤ r.maxBytes := hr.bytes
  have hmax : maxApplicationControlBodyBytes = 2048 := rfl
  have hentries : 9 ≤ r.maxEntries := le_trans (by decide) hr.entries
  have htexts : ∀ s ∈ applicationControlVersion :: applicationControlKeys,
      s ≠ "" ∧ s.utf8ByteSize ≤ maxDraftStringBytes := by
    decide
  simp only [control] at hid hlifetime hexpires hsender hrecipient hbody hsignature
  refine .map hentries ?_ (by rw [keys_entries]; decide) ?_
  · intro entry hentry
    have hkey : entry.1 ∈ applicationControlKeys :=
      keys_entries c ▸ List.mem_map_of_mem hentry
    obtain ⟨hne, hsize⟩ := htexts entry.1 (List.mem_cons_of_mem _ hkey)
    exact hr.texts _ hne hsize
  · obtain ⟨hversion, hversionLe⟩ := htexts _ List.mem_cons_self
    simp only [entries, List.forall_mem_cons, forall_mem_nil, and_true]
    exact ⟨.text (hr.texts _ hversion hversionLe), .text (hr.texts _ hkind hkindLe),
      .bytes (by omega), .uint (by omega), .uint (by omega), .bytes (by omega),
      .bytes (by omega), .bytes (by omega), .bytes (by omega)⟩

theorem flat_entries (c : ControlRecord) : ∀ entry ∈ c.entries, entry.2.sortKeys = entry.2 := by
  simp [entries, Cbor.sortKeys]

theorem depth_entries (c : ControlRecord) :
    (Cbor.map c.entries).depth ≤ maxDeterministicCBORNestingDepth := by
  rw [Cbor.depth, entries]
  simp [Cbor.depthEntries, Cbor.depth, maxDeterministicCBORNestingDepth]

theorem Valid.length_encoding (h : c.Valid) : c.encoding.length ≤ maxApplicationControlBytes := by
  have hfits := Valid.fits h roomy_goRules
  obtain ⟨_, _, hkind, hid, hlifetime, hexpires, hsender, hrecipient, _, hbody, hsignature⟩ := h
  simp only [control, Utf8.length_bytes] at hkind hid hlifetime hexpires hsender hrecipient
  simp only [control] at hbody hsignature
  have hmax : maxApplicationControlBodyBytes = 2048 := rfl
  have hmax' : maxApplicationControlKindBytes = 96 := rfl
  have hissued := Cbor.length_head_mono 0 (hlifetime.le.trans hexpires)
  have hexpires := Cbor.length_head_mono 0 hexpires
  have hbodyHead := Cbor.length_head_mono 2 hbody
  have hkindHead := Cbor.length_head_mono 3 hkind
  have hsignatureHead : (Cbor.head 2 c.signature.length).length ≤ (Cbor.head 2 64).length :=
    Cbor.length_head_mono 2 (by omega)
  have hinteger : (Cbor.head 0 (2 ^ 53 - 1)).length = 9 := by decide
  have hbytes : (Cbor.head 2 maxApplicationControlBodyBytes).length = 3 := by decide
  have htext : (Cbor.head 3 maxApplicationControlKindBytes).length = 2 := by decide
  have hsixtyfour : (Cbor.head 2 64).length = 2 := by decide
  have hsixteen : (Cbor.head 2 16).length = 1 := by decide
  have hthirtytwo : (Cbor.head 2 32).length = 2 := by decide
  have hcount : (Cbor.head 5 9).length = 1 := by decide
  have hversion : (Cbor.encodeText applicationControlVersion).length = 36 := by decide
  have hkeys : (applicationControlKeys.map fun s => (Cbor.encodeText s).length) =
      [8, 5, 11, 10, 11, 15, 18, 5, 10] := by decide
  simp only [applicationControlKeys, List.map_cons, List.map_nil, List.cons.injEq, and_true]
    at hkeys
  obtain ⟨hkey, hkey', hkey'', hkey₃, hkey₄, hkey₅, hkey₆, hkey₇, hkey₈⟩ := hkeys
  rw [encoding, ← Cbor.sortKeys_record (flat_entries c),
    Cbor.length_encode_sortKeys hfits]
  simp only [entries, Cbor.encode, Cbor.encodeEntries, List.length_append, List.length_cons,
    List.length_nil, hid, hsender, hrecipient, hsixteen, hthirtytwo, hcount, hversion, hkey,
    hkey', hkey'', hkey₃, hkey₄, hkey₅, hkey₆, hkey₇, hkey₈, Nat.zero_add, Nat.reduceAdd,
    maxApplicationControlBytes]
  simp only [Cbor.encodeText, List.length_append, Utf8.length_bytes]
  omega

end ControlRecord

end Valid

section Exact

variable {m : CborMap} {data : List UInt8} {control : ApplicationControl}

theorem applicationControlSignature_eq_ok_iff {signature : List UInt8} :
    applicationControlSignature m = .ok signature ↔
      m.lookup "signature" = some (.bytes signature) ∧
        (signature.length = 0 ∨ signature.length = 64) := by
  simp only [applicationControlSignature, bind_eq_ok, cborRequired_eq_ok_iff]
  constructor
  · rintro ⟨value, hlookup, h⟩
    cases value with
    | bytes signature' =>
      obtain ⟨hsize, heq⟩ := throwIf_bind_eq_ok.mp h
      obtain rfl := Except.ok.inj heq
      exact ⟨hlookup, by omega⟩
    | _ => cases h
  · rintro ⟨hlookup, hsize⟩
    exact ⟨_, hlookup, throwIf_bind_eq_ok.mpr ⟨by omega, rfl⟩⟩

theorem decodeApplicationControl_eq_ok_iff :
    decodeApplicationControl data = .ok control ↔
      ∃ c : ControlRecord, c.Valid ∧ data = c.encoding ∧ c.control = control := by
  have hreads : ∀ {c : ControlRecord}, c.Valid →
      ((∃ m, decodeDeterministicCBOR data = .ok (.map m) ∧ Cbor.Reads m c.entries) ↔
        data = c.encoding) := by
    intro c hvalid
    rw [decode_reads_iff (hvalid.fits roomy_goRules) c.depth_entries c.flat_entries]
    refine and_iff_right_of_imp fun hdata => ?_
    have hlength := hvalid.length_encoding
    rw [← ControlRecord.encoding] at hdata
    exact hdata ▸ hlength.trans (by decide)
  have hmax : maxApplicationControlBytes ≤ maxDraftEnvelopeBytes := by decide
  have hbodyMax : maxApplicationControlBodyBytes ≤ maxDecodedCBORBytes := by decide
  simp only [decodeApplicationControl, bind_eq_ok, mapError_eq_ok, exists_unit, throwIf_eq_ok,
    cborMap_eq_ok_iff, cborRejectUnknown_eq_ok_iff, cborText_eq_ok_iff, cborUint_eq_ok_iff,
    cborBytes_size_iff (by decide : 0 < 16) (by decide),
    cborBytes_size_iff (by decide : 0 < 32) (by decide), cborBytes_any_iff,
    applicationControlSignature_eq_ok_iff, ApplicationControl.validate_eq_ok_iff, pure_eq_ok]
  constructor
  · rintro ⟨hsize, _, hdecode, m, rfl, hknown, version, ⟨hversion, _⟩, kind, ⟨hkind, _⟩, id,
      ⟨hid, _⟩, issuedAt, ⟨hissued, _⟩, expiresAt, ⟨hexpires, _⟩, sender, ⟨hsender, _⟩, recipient,
      ⟨hrecipient, _⟩, body, ⟨hbody, _⟩, signature, ⟨hsignature, _⟩, hvalid, rfl⟩
    have hversionEq : version = applicationControlVersion :=
      Utf8.bytes_injective hvalid.version
    subst hversionEq
    let c : ControlRecord := ⟨kind, id, issuedAt, expiresAt, sender, recipient, body, signature⟩
    have hc : c.Valid := hvalid
    refine ⟨c, hc, (hreads hc).mp ⟨m, hdecode, hknown, ?_⟩, rfl⟩
    simp only [ControlRecord.entries, List.forall_mem_cons, forall_mem_nil, and_true]
    exact ⟨hversion, hkind, hid, hissued, hexpires, hsender, hrecipient, hbody, hsignature⟩
  · rintro ⟨c, hvalid, hdata, rfl⟩
    obtain ⟨m, hdecode, hknown, hlookup⟩ := (hreads hvalid).mpr hdata
    simp only [ControlRecord.entries, List.forall_mem_cons, forall_mem_nil, and_true] at hlookup
    obtain ⟨hversion, hkind, hid, hissued, hexpires, hsender, hrecipient, hbody, hsignature⟩ :=
      hlookup
    have hsize : data.length ≤ maxApplicationControlBytes := hdata ▸ hvalid.length_encoding
    have hne := ((decodeDeterministicCBORWithTextLimit_eq_ok_iff (by decide)
      maxDraftStringBytes_le_decoded).mp hdecode).1.1
    have hissuedLe := le_maxDraftTimestamp_iff.mpr
      (Nat.le_of_lt hvalid.lifetime |>.trans hvalid.expiresAt)
    have hexpiresLe := le_maxDraftTimestamp_iff.mpr hvalid.expiresAt
    exact ⟨by omega, _, hdecode, m, rfl, hknown, _, ⟨hversion, by decide⟩,
      _, ⟨hkind, hvalid.kind_ne⟩, _, ⟨hid, hvalid.controlID⟩, _, ⟨hissued, hissuedLe⟩,
      _, ⟨hexpires, hexpiresLe⟩, _, ⟨hsender, hvalid.senderPeerID⟩,
      _, ⟨hrecipient, hvalid.recipientPeerID⟩,
      _, ⟨hbody, hvalid.body, hvalid.body_le.trans hbodyMax⟩,
      _, ⟨hsignature, hvalid.signature⟩, hvalid, rfl⟩

theorem encodeApplicationControl_record {c : ControlRecord} (h : c.Valid) :
    encodeApplicationControl c.control = .ok c.encoding := by
  have hmap : RawCbor.map (applicationControlMap c.control) =
      RawCbor.ofCbor (.map c.entries) := rfl
  have hwrite : RawCbor.write CborErr.duplicateKey.message
      (.map (applicationControlMap c.control)) = .ok c.encoding := by
    rw [hmap, RawCbor.write_ofCbor (h.fits roomy_goRules), Cbor.sortKeys_record c.flat_entries]
    rfl
  refine bind_eq_ok.mpr ⟨(), ApplicationControl.validate_eq_ok_iff.mpr h, ?_⟩
  refine bind_eq_ok.mpr ⟨_, mapError_eq_ok.mpr hwrite, ?_⟩
  exact throwIf_bind_eq_ok.mpr ⟨Nat.not_lt.mpr h.length_encoding, rfl⟩

/-- A control that is encoded comes back if and only if its kind is text. -/
theorem decode_encode_control_iff (h : encodeApplicationControl control = .ok data) :
    decodeApplicationControl data = .ok control ↔ ∃ kind, Utf8.bytes kind = control.kind := by
  obtain ⟨_, hvalid, _⟩ := bind_eq_ok.mp h
  have hvalid := ApplicationControl.validate_eq_ok_iff.mp hvalid
  rw [decodeApplicationControl_eq_ok_iff]
  constructor
  · rintro ⟨c, _, _, rfl⟩
    exact ⟨c.kind, rfl⟩
  · rintro ⟨kind, hkind⟩
    let c : ControlRecord := ⟨kind, control.controlID, control.issuedAt, control.expiresAt,
      control.senderPeerID, control.recipientPeerID, control.body, control.signature⟩
    have hc : c.control = control := by
      rw [ControlRecord.control, hkind, ← hvalid.version]
    have hcValid : c.Valid := by
      rw [ControlRecord.Valid, hc]
      exact hvalid
    refine ⟨c, hcValid, ?_, hc⟩
    have hencode := encodeApplicationControl_record hcValid
    rw [hc] at hencode
    exact Except.ok.inj (h.symm.trans hencode)

end Exact

end Branch.Protocol
