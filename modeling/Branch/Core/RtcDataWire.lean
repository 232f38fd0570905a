import Branch.Core.RtcData
import Branch.Core.RtcWire

/-!
How the frames of a direct data channel are written and read by the client. Its tokens are read
as those of the signals.
-/

namespace Branch.Core.RtcDataWire

open Branch.Lib
open Branch.Core.RtcWire (decodeToken tokenFromMap)

def maxRtcDataFrameBytes : Nat := 8 * 1024
def maxRtcAdmitFrameBytes : Nat := 256

def dataKeys : List String :=
  ["kind", "version", "rtc_session_id", "origin_route_id", "path_epoch", "stream_id",
    "delivery_id", "ack_requested", "ciphertext"]

def admitKeys : List String := ["kind", "version", "rtc_session_id", "delivery_id"]

section Encoder

def encodeBounded (entries : CborMap) (maximumBytes : Nat) (label : String) :
    Except String (List UInt8) := do
  let bytes ← (encodeDeterministicCbor (.map entries)).mapError CborError.message
  throwIf (maximumBytes < bytes.length) (label ++ " too large")
  return bytes

def decodeCiphertext (value : String) : Except String (List UInt8) :=
  match decodeBase64URL value.toList with
  | .error _ => .error "invalid ciphertext"
  | .ok bytes =>
    if maxRtcDataCiphertextBytes < bytes.length then .error "invalid ciphertext" else .ok bytes

def dataMap (value : RtcData) : Except String CborMap := do
  let rtcSessionId ← decodeToken value.rtcSessionId 16 "rtc session id"
  let originRouteId ← decodeToken value.originRouteId 16 "origin route id"
  let deliveryId ← decodeToken value.deliveryId 16 "delivery id"
  let ciphertext ← decodeCiphertext value.ciphertext
  return [("kind", .text "data"), ("version", .text value.version),
    ("rtc_session_id", .bytes rtcSessionId), ("origin_route_id", .bytes originRouteId),
    ("path_epoch", .uint value.pathEpoch), ("stream_id", .uint value.streamId),
    ("delivery_id", .bytes deliveryId), ("ack_requested", .bool value.ackRequested),
    ("ciphertext", .bytes ciphertext)]

def encodeRtcData (value : RtcData) : Except String (List UInt8) := do
  throwIf (¬ validateRtcData value) "invalid rtc data"
  let entries ← dataMap value
  encodeBounded entries maxRtcDataFrameBytes "rtc data"

def encodeRtcAdmit (value : RtcAdmit) : Except String (List UInt8) := do
  throwIf (¬ validateRtcAdmit value) "invalid rtc admit"
  let rtcSessionId ← decodeToken value.rtcSessionId 16 "rtc session id"
  let deliveryId ← decodeToken value.deliveryId 16 "delivery id"
  encodeBounded [("kind", .text "admit"), ("version", .text value.version),
    ("rtc_session_id", .bytes rtcSessionId), ("delivery_id", .bytes deliveryId)]
    maxRtcAdmitFrameBytes "rtc admit"

end Encoder

section Decoder

def strictMap (bytes : List UInt8) (label : String) (maximumBytes : Nat)
    (admitKeys : Option (List String)) : Except String CborMap := do
  throwIf (bytes.length = 0 ∨ maximumBytes < bytes.length) ("invalid " ++ label ++ " size")
  let decoded ← (decodeDeterministicCbor bytes maximumBytes).mapError CborError.message
  let map ← readCborMap decoded (label.map fun c => if c = ' ' then '_' else c)
  let kind ← requiredText map "kind"
  if kind = "data" then rejectUnknownEntries map dataKeys
  else if kind = "admit" then
    match admitKeys with
    | some keys => rejectUnknownEntries map keys
    | none => throw "invalid rtc data kind"
  else throw "unknown rtc data kind"
  return map

variable (map : CborMap)

def readKind (expected : String) : Except String Unit := do
  let kind ← requiredText map "kind"
  throwIf (kind ≠ expected) "invalid rtc data kind"

def readVersion : Except String String := do
  let version ← requiredText map "version"
  throwIf (version ≠ rtcDataVersion) "unsupported rtc data version"
  return rtcDataVersion

def boundedCiphertextFromMap : Except String String := do
  let ciphertext ← requiredBytes map "ciphertext" none
  throwIf (maxRtcDataCiphertextBytes < ciphertext.length) "invalid ciphertext"
  return Base64.encode ciphertext

/-- `readUint` has checked what `validSequence` checks. -/
def readSequence (key : String) : Except String Nat := do
  let value ← requiredUint map key
  throwIf (maxSafeInteger < value) ("invalid " ++ key)
  return value

variable (bytes : List UInt8)

def decodeRtcData : Except String RtcData := do
  let map ← strictMap bytes "rtc data" maxRtcDataFrameBytes none
  readKind map "data"
  let version ← readVersion map
  let rtcSessionId ← tokenFromMap map "rtc_session_id" 16
  let originRouteId ← tokenFromMap map "origin_route_id" 16
  let pathEpoch ← readSequence map "path_epoch"
  let streamId ← readSequence map "stream_id"
  let deliveryId ← tokenFromMap map "delivery_id" 16
  let ackValue ← getRequiredEntry map "ack_requested"
  let ackRequested ← readBoolean ackValue "ack_requested"
  let ciphertext ← boundedCiphertextFromMap map
  let value : RtcData := { version, rtcSessionId, originRouteId, pathEpoch, streamId, deliveryId
                           ackRequested, ciphertext }
  throwIf (¬ validateRtcData value) "invalid rtc data"
  return value

def decodeRtcAdmit : Except String RtcAdmit := do
  let map ← strictMap bytes "rtc admit" maxRtcAdmitFrameBytes (some admitKeys)
  readKind map "admit"
  let version ← readVersion map
  let rtcSessionId ← tokenFromMap map "rtc_session_id" 16
  let deliveryId ← tokenFromMap map "delivery_id" 16
  let value : RtcAdmit := { version, rtcSessionId, deliveryId }
  throwIf (¬ validateRtcAdmit value) "invalid rtc admit"
  return value

def decodeRtcDataFrame : Except String RtcDataFrame := do
  let map ← strictMap bytes "rtc data frame" maxRtcDataFrameBytes (some admitKeys)
  let kind ← requiredText map "kind"
  if kind = "data" then
    let value ← decodeRtcData bytes
    return .data value
  else if kind = "admit" then
    let value ← decodeRtcAdmit bytes
    return .admission value
  else throw "unknown rtc data kind"

end Decoder

end Branch.Core.RtcDataWire
