import Branch.Core.OutboundControl
import Branch.Lib.ExpiringMemory

/-!
The signed controls that tell a sender that its message was delivered or read, and that a read
was applied. Both receivers share one memory of the controls that were accepted.
-/

namespace Branch.Pwa

open Branch.Core Branch.Lib

def deliveryReceiptControlKind : String := "branch.pwa.receipt/0.draft"
def readAcceptedControlKind : String := "branch.pwa.read-accepted/0.draft"
def deliveryReceiptControlTTLms : Nat := 5 * 60000
def maxReplayEntries : Nat := 128
def maxBodyBytes : Nat := 64

inductive DeliveryReceiptKind where
  | delivered
  | read
  deriving DecidableEq

def DeliveryReceiptKind.text : DeliveryReceiptKind → String
  | .delivered => "delivered"
  | .read => "read"

structure DeliveryReceiptBody where
  kind : DeliveryReceiptKind
  targetDeliveryId : String
  deriving DecidableEq

structure ReadAcceptedBody where
  targetDeliveryId : String
  deriving DecidableEq

inductive ReceiptBody where
  | receipt (body : DeliveryReceiptBody)
  | readAccepted (body : ReadAcceptedBody)
  deriving DecidableEq

section Bodies

def validDeliveryId (value : String) : Bool := isBase64URLBytes value 16

def encodeReceiptBody (value : DeliveryReceiptBody) : Except String (List UInt8) := do
  throwIf (¬ validDeliveryId value.targetDeliveryId) "invalid receipt body"
  let target ← decodeBase64URL value.targetDeliveryId.toList
  (encodeDeterministicCbor (.map [("receipt_kind", .text value.kind.text),
    ("target_delivery_id", .bytes target)])).mapError CborError.message

def decodeReceiptBody (bytes : List UInt8) : Except String DeliveryReceiptBody := do
  throwIf (bytes.length = 0 ∨ maxBodyBytes < bytes.length) "invalid receipt body"
  let decoded ← (decodeDeterministicCbor bytes maxBodyBytes).mapError CborError.message
  let map ← readCborMap decoded "receipt"
  rejectUnknownEntries map ["receipt_kind", "target_delivery_id"]
  let kindEntry ← getRequiredEntry map "receipt_kind"
  let kind ← readText kindEntry "receipt kind"
  let targetEntry ← getRequiredEntry map "target_delivery_id"
  let target ← readBytes targetEntry "target delivery id" (some 16)
  if kind = "delivered" then return ⟨.delivered, Base64.encode target⟩
  else if kind = "read" then return ⟨.read, Base64.encode target⟩
  else throw "invalid receipt kind"

def encodeReadAcceptedBody (value : ReadAcceptedBody) : Except String (List UInt8) := do
  throwIf (¬ validDeliveryId value.targetDeliveryId) "invalid read accepted body"
  let target ← decodeBase64URL value.targetDeliveryId.toList
  (encodeDeterministicCbor (.map [("target_delivery_id", .bytes target)])).mapError
    CborError.message

def decodeReadAcceptedBody (bytes : List UInt8) : Except String ReadAcceptedBody := do
  throwIf (bytes.length = 0 ∨ maxBodyBytes < bytes.length) "invalid read accepted body"
  let decoded ← (decodeDeterministicCbor bytes maxBodyBytes).mapError CborError.message
  let map ← readCborMap decoded "read accepted"
  rejectUnknownEntries map ["target_delivery_id"]
  let targetEntry ← getRequiredEntry map "target_delivery_id"
  let target ← readBytes targetEntry "target delivery id" (some 16)
  return ⟨Base64.encode target⟩

def encodeBody : ReceiptBody → Except String (List UInt8)
  | .receipt body => encodeReceiptBody body
  | .readAccepted body => encodeReadAcceptedBody body

end Bodies

section Descriptors

def metadataDescriptor (kind : String) (decodeBody : List UInt8 → Option ReceiptBody)
    (metadata : ReceiptBody → ApplicationControlEffect) :
    ApplicationControlDescriptor ReceiptBody where
  kind := kind
  authentication := .ed25519
  maximumTTLms := deliveryReceiptControlTTLms
  allowedEffects := [.messageMetadata]
  decodeBody := decodeBody
  reduce control := some [metadata control.body]

def messageMetadata : ReceiptBody → ApplicationControlEffect
  | .receipt body => .messageMetadata body.targetDeliveryId body.kind.text
  | .readAccepted body => .messageMetadata body.targetDeliveryId "read_accepted"

def deliveryReceiptControlDescriptor : ApplicationControlDescriptor ReceiptBody :=
  metadataDescriptor deliveryReceiptControlKind
    (fun bytes => (decodeReceiptBody bytes).toOption.map .receipt) messageMetadata

def readAcceptedControlDescriptor : ApplicationControlDescriptor ReceiptBody :=
  metadataDescriptor readAcceptedControlKind
    (fun bytes => (decodeReadAcceptedBody bytes).toOption.map .readAccepted) messageMetadata

def receiptRegistry : ApplicationControlRegistry ReceiptBody :=
  Table.empty.insert deliveryReceiptControlKind deliveryReceiptControlDescriptor

def readAcceptedRegistry : ApplicationControlRegistry ReceiptBody :=
  Table.empty.insert readAcceptedControlKind readAcceptedControlDescriptor

theorem create_receiptRegistry :
    createApplicationControlRegistry [deliveryReceiptControlDescriptor] = .ok receiptRegistry :=
  rfl

theorem create_readAcceptedRegistry :
    createApplicationControlRegistry [readAcceptedControlDescriptor] = .ok readAcceptedRegistry :=
  rfl

end Descriptors

structure ReceiptTarget where
  kind : DeliveryReceiptKind
  recipientPeerId : String
  targetDeliveryId : String
  deriving DecidableEq

def ReceiptTarget.emittedKey (target : ReceiptTarget) : String :=
  target.kind.text ++ "\n" ++ target.recipientPeerId ++ "\n" ++ target.targetDeliveryId

/-- `call` tells which call took the entry, and nothing reads it. -/
structure EmittedReceipt where
  expiresAt : Nat
  call : Nat
  deriving DecidableEq

/-- A call of `sendDeliveryReceipt` that waits: for its signature, or, once it is signed, for the
envelope to be sent. -/
structure ReceiptSend where
  call : Nat
  target : ReceiptTarget
  unsigned : ApplicationControlEnvelope
  signed : Bool := false
  deriving DecidableEq

/-- The state of the module, and the calls that wait. `calls` is how many calls there were. -/
structure ReceiptControls where
  replayControlIds : ExpiringMemory String Nat := {}
  emittedReceiptTargets : InsertionMap String EmittedReceipt := .empty
  verifying : List (VerifyingControl ReceiptBody) := []
  sending : List ReceiptSend := []
  calls : Nat := 0

inductive ReceivedControl where
  | unhandled
  | sourceMismatch
  | answered (answer : ControlAnswer)
  deriving DecidableEq

inductive DeliveryReceiptSendResult where
  | sent
  | skipped
  deriving DecidableEq

/-- What a part of a call of `sendDeliveryReceipt` comes to. -/
inductive ReceiptSendAnswer where
  | waiting
  | returned (result : DeliveryReceiptSendResult)
  | thrown
  deriving DecidableEq

structure ReceiveOptions where
  plaintext : List UInt8
  localPeerId : String
  senderPeerId : String
  knownContactId : Option String

/-- `signingKey` says whether the identity keys are there. -/
structure SendOptions where
  target : ReceiptTarget
  senderPeerId : String
  attached : Bool
  signingKey : Bool
  allowTargetRetry : Bool
  controlId : String

namespace ReceiptControls

variable (controls : ReceiptControls)

def prune (now : Nat) : ReceiptControls :=
  { controls with
    replayControlIds := (controls.replayControlIds.forget now).evict maxReplayEntries
    emittedReceiptTargets :=
      controls.emittedReceiptTargets.filter fun _ emitted => now < emitted.expiresAt }

@[simp] theorem sending_prune (now : Nat) : (controls.prune now).sending = controls.sending := by
  unfold prune
  rfl

@[simp] theorem calls_prune (now : Nat) : (controls.prune now).calls = controls.calls := by
  unfold prune
  rfl

section Receive

/-- The memory and the waiting calls as `processApplicationControl` sees them. -/
def runtime : ControlRuntime ReceiptBody where
  replay := controls.replayControlIds.held.toTable
  verifying := controls.verifying

/-- What a part of a call of `processApplicationControl` leaves behind. -/
def settle (envelope : ApplicationControlEnvelope)
    (result : ControlRuntime ReceiptBody × ControlAnswer) : ReceiptControls × ReceivedControl :=
  let controls := { controls with verifying := result.1.verifying }
  match result.2 with
  | .returned (.accepted effects) =>
    ({ controls with
        replayControlIds :=
          controls.replayControlIds.remember envelope.controlId envelope.expiresAt },
      .answered (.returned (.accepted effects)))
  | answer => (controls, .answered answer)

def ports (options : ReceiveOptions) (now : Nat) : ApplicationControlPorts where
  now := now
  localPeerId := options.localPeerId
  isKnownContact peerId := options.knownContactId.isSome && peerId = options.senderPeerId
  isAllowed _ _ := true
  maxClockSkewMs := 1000

/-- A control of one kind, as far as it goes before it waits for the verification. -/
def receive (kind : String) (registry : ApplicationControlRegistry ReceiptBody)
    (before : ReceiptControls → ReceiptControls) (options : ReceiveOptions) (now : Nat) :
    ReceiptControls × ReceivedControl :=
  match decodeApplicationControl options.plaintext with
  | .error _ => (controls, .unhandled)
  | .ok envelope =>
    if envelope.kind ≠ kind then (controls, .unhandled)
    else if envelope.senderPeerId ≠ options.senderPeerId then (controls, .sourceMismatch)
    else
      let controls := before controls
      controls.settle envelope
        (controls.runtime.processApplicationControl options.plaintext registry
          (ports options now))

def receiveDeliveryReceipt (options : ReceiveOptions) (now : Nat) :
    ReceiptControls × ReceivedControl :=
  controls.receive deliveryReceiptControlKind receiptRegistry (fun controls => controls.prune now)
    options now

def receiveReadAccepted (options : ReceiveOptions) (now : Nat) :
    ReceiptControls × ReceivedControl :=
  controls.receive readAcceptedControlKind readAcceptedRegistry id options now

/-- The verification came back for which the call at `position` waits. -/
def verified (position : Nat) (valid : Bool) : ReceiptControls × ReceivedControl :=
  match controls.verifying[position]? with
  | none => (controls, .unhandled)
  | some call =>
    let controls := { controls with verifying := controls.verifying.eraseIdx position }
    controls.settle call.envelope (controls.runtime.resume call (some valid))

end Receive

section Send

def consumeRateLimit (options : SendOptions) (call now : Nat)
    (emitted : InsertionMap String EmittedReceipt) : InsertionMap String EmittedReceipt × Bool :=
  let emittedKey := options.target.emittedKey
  if ¬ options.allowTargetRetry ∧ emitted.has emittedKey then (emitted, false)
  else
    let emitted :=
      if maxReplayEntries ≤ emitted.size then emitted.oldest?.elim emitted emitted.delete
      else emitted
    (emitted.set emittedKey ⟨now + deliveryReceiptControlTTLms, call⟩, true)

def outboundReceipt (options : SendOptions) (now : Nat) :
    OutboundApplicationControl ReceiptBody where
  kind := deliveryReceiptControlKind
  controlId := options.controlId
  issuedAt := now
  expiresAt := now + deliveryReceiptControlTTLms
  senderPeerId := options.senderPeerId
  recipientPeerId := options.target.recipientPeerId
  body := .receipt ⟨options.target.kind, options.target.targetDeliveryId⟩

def outboundPorts (options : SendOptions) (call now : Nat) :
    OutboundApplicationControlPorts (InsertionMap String EmittedReceipt) where
  now := now
  localPeerId := options.senderPeerId
  isKnownContact peerId := peerId = options.target.recipientPeerId
  isAllowed _ _ := true
  consumeRateLimit _ _ _ := consumeRateLimit options call now
  maxClockSkewMs := 1000

/-- As far as the call goes before it waits for its signature. -/
def sendDeliveryReceipt (options : SendOptions) (now : Nat) :
    ReceiptControls × ReceiptSendAnswer :=
  if ¬ options.attached ∨ ¬ validDeliveryId options.target.targetDeliveryId then
    (controls, .returned .skipped)
  else if ¬ options.signingKey then (controls, .returned .skipped)
  else
    let controls := controls.prune now
    if ¬ options.allowTargetRetry ∧
        controls.emittedReceiptTargets.has options.target.emittedKey then
      (controls, .returned .skipped)
    else
      match prepareOutboundApplicationControl (outboundReceipt options now)
          deliveryReceiptControlDescriptor encodeBody (outboundPorts options controls.calls now)
          controls.emittedReceiptTargets with
      | (emitted, .error _) =>
        ({ controls with emittedReceiptTargets := emitted }, .returned .skipped)
      | (emitted, .ok unsigned) =>
        ({ controls with
            emittedReceiptTargets := emitted
            sending := controls.sending ++ [⟨controls.calls, options.target, unsigned, false⟩]
            calls := controls.calls + 1 }, .waiting)

/-- The signature came back for which the call at `position` waits, or there is none: the call
throws, and its entry stays. -/
def signed (position : Nat) (valid : Bool) : ReceiptControls × ReceiptSendAnswer :=
  match controls.sending[position]? with
  | some ⟨call, target, unsigned, false⟩ =>
    if valid then
      ({ controls with sending := controls.sending.set position ⟨call, target, unsigned, true⟩ },
        .waiting)
    else ({ controls with sending := controls.sending.eraseIdx position }, .thrown)
  | _ => (controls, .waiting)

/-- The envelope of the call at `position` was sent, or not: then the call throws, and gives its
entry back. -/
def forwarded (position : Nat) (accepted : Bool) : ReceiptControls × ReceiptSendAnswer :=
  match controls.sending[position]? with
  | some ⟨_, target, _, true⟩ =>
    let controls := { controls with sending := controls.sending.eraseIdx position }
    if accepted then (controls, .returned .sent)
    else
      ({ controls with
          emittedReceiptTargets := controls.emittedReceiptTargets.delete target.emittedKey },
        .thrown)
  | _ => (controls, .waiting)

end Send

end ReceiptControls

inductive ReceiptEvent where
  | receiveDeliveryReceipt (options : ReceiveOptions)
  | receiveReadAccepted (options : ReceiveOptions)
  | verified (position : Nat) (valid : Bool)
  | sendDeliveryReceipt (options : SendOptions)
  | signed (position : Nat) (valid : Bool)
  | forwarded (position : Nat) (accepted : Bool)

structure ReceiptTurn where
  now : Nat
  event : ReceiptEvent

namespace ReceiptControls

def next (controls : ReceiptControls) (turn : ReceiptTurn) : ReceiptControls :=
  match turn.event with
  | .receiveDeliveryReceipt options => (controls.receiveDeliveryReceipt options turn.now).1
  | .receiveReadAccepted options => (controls.receiveReadAccepted options turn.now).1
  | .verified position valid => (controls.verified position valid).1
  | .sendDeliveryReceipt options => (controls.sendDeliveryReceipt options turn.now).1
  | .signed position valid => (controls.signed position valid).1
  | .forwarded position accepted => (controls.forwarded position accepted).1

end ReceiptControls

end Branch.Pwa
