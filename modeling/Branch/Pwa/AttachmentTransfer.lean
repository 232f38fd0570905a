import Branch.Core.TransferState
import Branch.Lib.InsertionMap
import Branch.Lib.ListModify
import Branch.Lib.Trace

/-!
The attachments of a tab: what is offered to a peer and what a peer offers, one at a time in
each direction. Nearly every operation waits in between: for a file, a signature, a digest or
the relay, while others go on.
-/

namespace Branch.Pwa

open Branch.Core Branch.Lib

def attachmentManifestKind : String := "branch.attachment.manifest/0.draft"
def attachmentDecisionKind : String := "branch.attachment.decision/0.draft"
def attachmentChunkKind : String := "branch.attachment.chunk/0.draft"
def attachmentApplicationVersion : String := "branch.application-payload/0.draft"
def attachmentKinds : List String :=
  [attachmentManifestKind, attachmentDecisionKind, attachmentChunkKind]
def maximumActiveDirections : Nat := 4
def maximumRememberedPeers : Nat := 16
def maximumRememberedTransfers : Nat := 16
def outboundWindowSize : Nat := 4
def maxRelayAttachmentBytes : Nat := 4 * 1024 * 1024

abbrev AttachmentDirection := AttachmentTransferDirection

inductive AttachmentControllerReason where
  | accepted
  | rejected
  | cancelled
  | expired
  | integrityFailed
  | invalidPayload
  | unknownPeer
  | unsupported
  | busy
  | unavailable
  | disconnected
  | ackTimeout
  | sendFailed
  deriving DecidableEq

/-- What is reported. The end of a transfer says which transfer it was, unless none was
opened. -/
inductive AttachmentControllerEvent where
  | offerSent (peerId : String)
  | offerReceived (peerId : String)
  | accepted (peerId : String) (direction : AttachmentDirection)
  | ended (peerId : String) (direction : AttachmentDirection)
      (reason : AttachmentControllerReason) (transfer : Option Nat)
  deriving DecidableEq

structure ApplicationCapabilities where
  applicationVersions : List String
  kinds : List String
  attachmentMode : String
  maxRelayAttachmentBytes : Nat

structure AttachmentPorts where
  now : Nat
  localPeerId : String
  signingKey : Bool
  isKnownPeer : Bool
  capabilities : Option ApplicationCapabilities

structure OfferedFile where
  name : JsString
  type : JsString
  size : Nat

/-- The chunks of an outbound transfer. A delivery is outstanding from when its chunk is handed
to the relay until it is acknowledged. `handed` and `forwarded` have all chunks that were handed
over, with their deliveries, and all deliveries that were acknowledged. -/
structure OutboundWindow where
  outstanding : InsertionMap String Nat := .empty
  nextChunkIndex : Nat := 0
  filling : Bool := false
  handed : List (Nat × String) := []
  forwarded : List String := []

namespace OutboundWindow

/-- The next index is counted and its part of the file read. -/
def take (w : OutboundWindow) : OutboundWindow := { w with nextChunkIndex := w.nextChunkIndex + 1 }

def hand (w : OutboundWindow) (index : Nat) (deliveryId : String) : OutboundWindow :=
  { w with
    outstanding := w.outstanding.set deliveryId index
    handed := w.handed ++ [(index, deliveryId)] }

def acknowledge (w : OutboundWindow) (deliveryId : String) : OutboundWindow :=
  { w with
    outstanding := w.outstanding.delete deliveryId
    forwarded := w.forwarded ++ [deliveryId] }

end OutboundWindow

structure LiveTransfer where
  peerId : String
  registry : Nat
  transfer : AttachmentTransferState
  expiry : Bool := true
  manifestDeliveryId : String := ""
  manifestForwardTimeout : Bool := false
  window : OutboundWindow := {}

namespace LiveTransfer

def manifest (t : LiveTransfer) : AttachmentManifest := t.transfer.manifest.1

def direction (t : LiveTransfer) : AttachmentDirection := t.transfer.direction

def endedInbound (t : LiveTransfer) : LiveTransfer :=
  { t with expiry := false, transfer := t.transfer.abort.1 }

def endedOutbound (t : LiveTransfer) : LiveTransfer :=
  { t with
    expiry := false
    manifestForwardTimeout := false
    window := { t.window with outstanding := .empty }
    transfer := t.transfer.abort.1 }

end LiveTransfer

structure AttachmentTransferRegistry where
  peerId : String
  direction : AttachmentDirection
  closed : InsertionMap String Nat := .empty
  active : Option Nat := none

inductive AttachmentOperation where
  | hashingFile (peerId : String) (draft : AttachmentManifest)
  | signingManifest (peerId : String) (unsigned : AttachmentManifest)
  | sendingOffer (peerId : String) (r : Nat)
  | verifyingManifest (peerId : String) (manifest : AttachmentManifest)
  | verifyingDecision (peerId : String) (decision : AttachmentDecision)
  | digesting (r : Nat) (position : Nat)
  | receivingChunk (r : Nat) (result : AttachmentTransferResult)
  | signingDecision (r : Nat) (unsigned : AttachmentDecision)
  | sendingDecision (r : Nat) (kind : AttachmentDecisionKind)
  | readingChunk (r : Nat) (index : Nat)
  | sendingChunk (r : Nat)
  | finished

/-- Transfers and registries are never forgotten: they are referred to by their place. -/
structure AttachmentController where
  live : List LiveTransfer := []
  registries : List AttachmentTransferRegistry := []
  operations : List AttachmentOperation := []
  inbound : InsertionMap String Nat := .empty
  outbound : InsertionMap String Nat := .empty
  deliveryToOutbound : InsertionMap String Nat := .empty
  manifestDeliveryToOutbound : InsertionMap String Nat := .empty
  offeringPeers : List String := []
  inboundRegistries : InsertionMap String Nat := .empty
  outboundRegistries : InsertionMap String Nat := .empty

inductive AttachmentTimer where
  | expiry (r : Nat)
  | manifestForward (r : Nat)
  | chunkForward (r : Nat) (deliveryId : String)

/-- An operation begins, or what it waits for is there. What could not be had is `none`. -/
inductive AttachmentEvent where
  | offer (peerId : String) (file : OfferedFile) (ports : AttachmentPorts)
      (transferId manifestId : String)
  | hashed (operation : Nat) (sha256 : Option String) (now : Nat)
  | signed (operation : Nat) (signature : Option (List UInt8)) (manifestDeliveryId : String)
      (now : Nat)
  | offerSent (operation : Nat) (ok : Bool) (now : Nat)
  | receiveManifest (peerId : String) (manifest : AttachmentManifest) (known : Bool)
  | manifestVerified (operation : Nat) (verified : Bool) (now : Nat) (shown : Option Bool)
  | receiveDecision (peerId : String) (decision : AttachmentDecision) (known : Bool)
  | decisionVerified (operation : Nat) (verified : Bool) (now : Nat)
  | receiveChunk (peerId : String) (chunk : AttachmentChunk) (known : Bool) (now : Nat)
  | digested (operation : Nat) (digest : Option String)
  | chunkReceived (operation : Nat) (now : Nat)
  | accept (peerId : String) (ports : AttachmentPorts)
  | reject (peerId : String) (ports : AttachmentPorts)
  | cancel (peerId : String) (direction : AttachmentDirection) (ports : AttachmentPorts)
  | decisionSigned (operation : Nat) (signature : Option (List UInt8)) (now : Nat)
  | decisionSent (operation : Nat) (ok : Bool) (now : Nat)
  | relayForwarded (deliveryId : String) (now : Nat)
  | chunkRead (operation : Nat) (bytes : Option (List UInt8)) (deliveryId : String) (now : Nat)
  | chunkSent (operation : Nat) (ok : Bool) (now : Nat)
  | timeout (timer : AttachmentTimer) (now : Nat)
  | unavailable (peerId : Option String) (now : Nat)

def transferKey (manifest : AttachmentManifest) : String :=
  manifest.transferId ++ ":" ++ manifest.manifestId

def maximumOfferBytes (capabilities : Option ApplicationCapabilities) : Option Nat :=
  match capabilities with
  | none => none
  | some c =>
    if c.attachmentMode = "receiver-accept" ∧
        attachmentApplicationVersion ∈ c.applicationVersions ∧
        (∀ kind ∈ attachmentKinds, kind ∈ c.kinds) ∧
        c.maxRelayAttachmentBytes ≤ maxSafeInteger ∧ 0 < c.maxRelayAttachmentBytes then
      some (min c.maxRelayAttachmentBytes maxRelayAttachmentBytes)
    else none

namespace AttachmentController

variable (s : AttachmentController)

def table : AttachmentDirection → InsertionMap String Nat
  | .inbound => s.inbound
  | .outbound => s.outbound

def update (r : Nat) (f : LiveTransfer → LiveTransfer) : AttachmentController :=
  { s with live := s.live.modify r f }

def updateWindow (r : Nat) (f : OutboundWindow → OutboundWindow) : AttachmentController :=
  s.update r fun t => { t with window := f t.window }

def start (operation : AttachmentOperation) : AttachmentController :=
  { s with operations := s.operations ++ [operation] }

def resume (i : Nat) (operation : AttachmentOperation) : AttachmentController :=
  { s with operations := s.operations.set i operation }

section Registry

def swept (now : Nat) (registry : AttachmentTransferRegistry) : AttachmentTransferRegistry :=
  let closed := registry.closed.filter fun _ expiresAt => now < expiresAt
  let registry : AttachmentTransferRegistry :=
    match registry.active.bind (s.live[·]?) with
    | none => { registry with closed }
    | some t =>
      if t.transfer.phase.terminal then
        { registry with
          closed := closed.set (transferKey t.manifest) t.manifest.expiresAt, active := none }
      else { registry with closed }
  { registry with closed := registry.closed.shrink (maximumRememberedTransfers + 1) }

def sweep (g now : Nat) : AttachmentController :=
  { s with registries := s.registries.modify g (s.swept now) }

def expireRegistry (g now : Nat) : AttachmentController :=
  match s.registries[g]?.bind (·.active) with
  | none => s.sweep g now
  | some r =>
    sweep (s.update r fun t => { t with transfer := (t.transfer.expire (some now)).1 }) g now

inductive RegistryOpened where
  | opened (transfer : AttachmentTransferState)
  | duplicate
  | busy
  | replayed
  | aborted
  | threw

def openRegistry (g : Nat) (manifest : AttachmentManifest) (now : Nat) :
    AttachmentController × RegistryOpened :=
  let s := s.sweep g now
  match s.registries[g]? with
  | none => (s, .threw)
  | some registry =>
    if registry.closed.has (transferKey manifest) then (s, .replayed)
    else
      match registry.active with
      | none =>
        match AttachmentTransferState.open registry.direction manifest
            { maximumTransferBytes := some maxRelayAttachmentBytes
              maximumReorderChunks := some 64 } (some now) with
        | .error _ => (s, .threw)
        | .ok transfer => (s, .opened transfer)
      | some r =>
        match s.live[r]? with
        | none => (s, .threw)
        | some t =>
          if transferKey t.manifest ≠ transferKey manifest then (s, .busy)
          else if (attachmentManifestSigningBytes t.manifest).toOption =
              (attachmentManifestSigningBytes manifest).toOption then (s, .duplicate)
          else
            (sweep (s.update r fun t => { t with transfer := t.transfer.abort.1 }) g now,
              .aborted)

/-- The registry of a peer. A new one takes the place of the oldest. -/
def registryOf (peerId : String) (direction : AttachmentDirection) :
    AttachmentController × Nat :=
  match direction with
  | .inbound =>
    match s.inboundRegistries.get? peerId with
    | some g => (s, g)
    | none =>
      ({ s with
        registries := s.registries ++ [{ peerId, direction }]
        inboundRegistries := (s.inboundRegistries.shrink maximumRememberedPeers).set peerId
          s.registries.length }, s.registries.length)
  | .outbound =>
    match s.outboundRegistries.get? peerId with
    | some g => (s, g)
    | none =>
      ({ s with
        registries := s.registries ++ [{ peerId, direction }]
        outboundRegistries := (s.outboundRegistries.shrink maximumRememberedPeers).set peerId
          s.registries.length }, s.registries.length)

def activate (g r : Nat) : AttachmentController :=
  { s with registries := s.registries.modify g fun registry => { registry with active := some r } }

end Registry

section End

def endInbound (peerId : String) (reason : AttachmentControllerReason) (now : Nat) :
    AttachmentController × List AttachmentControllerEvent :=
  match s.inbound.get? peerId with
  | none => (s, [])
  | some r =>
    match s.live[r]? with
    | none => (s, [])
    | some t =>
      let s := s.update r .endedInbound
      let s := s.expireRegistry t.registry now
      ({ s with inbound := s.inbound.delete peerId }, [.ended peerId .inbound reason (some r)])

def forget (t : LiveTransfer) : AttachmentController :=
  { s with
    manifestDeliveryToOutbound := s.manifestDeliveryToOutbound.delete t.manifestDeliveryId
    deliveryToOutbound :=
      s.deliveryToOutbound.filter fun deliveryId _ => ¬ t.window.outstanding.has deliveryId }

def endOutbound (peerId : String) (reason : AttachmentControllerReason) (now : Nat) :
    AttachmentController × List AttachmentControllerEvent :=
  match s.outbound.get? peerId with
  | none => (s, [])
  | some r =>
    match s.live[r]? with
    | none => (s, [])
    | some t =>
      let s := (s.forget t).update r .endedOutbound
      let s := s.expireRegistry t.registry now
      ({ s with outbound := s.outbound.delete peerId },
        [.ended peerId .outbound reason (some r)])

def endTransfer (direction : AttachmentDirection) (peerId : String)
    (reason : AttachmentControllerReason) (now : Nat) :
    AttachmentController × List AttachmentControllerEvent :=
  match direction with
  | .inbound => s.endInbound peerId reason now
  | .outbound => s.endOutbound peerId reason now

end End

section Offer

def activeDirectionCount : Nat := s.inbound.size + s.outbound.size

def canOffer (peerId : String) (ports : AttachmentPorts) :
    Except AttachmentControllerReason Nat :=
  if ¬ ports.isKnownPeer then .error .unknownPeer
  else
    match maximumOfferBytes ports.capabilities with
    | none => .error .unsupported
    | some maximumBytes =>
      if s.outbound.has peerId ∨ peerId ∈ s.offeringPeers ∨
          maximumActiveDirections ≤ s.activeDirectionCount + s.offeringPeers.length then
        .error .busy
      else if ¬ ports.signingKey ∨ ports.localPeerId = "" then .error .unavailable
      else .ok maximumBytes

def offerRejected (peerId : String) (reason : AttachmentControllerReason) :
    List AttachmentControllerEvent :=
  [.ended peerId .outbound reason none]

/-- `offer` before it waits for the file and its digest. -/
def offer (peerId : String) (file : OfferedFile) (ports : AttachmentPorts)
    (transferId manifestId : String) : AttachmentController × List AttachmentControllerEvent :=
  match s.canOffer peerId ports with
  | .error reason => (s, offerRejected peerId reason)
  | .ok maximumBytes =>
    if file.size = 0 ∨ maximumBytes < file.size then (s, offerRejected peerId .unsupported)
    else
      let draft : AttachmentManifest :=
        { version := attachmentVersion, transferId, manifestId, issuedAt := ports.now
          expiresAt := ports.now + maxAttachmentTTLms, fileName := file.name
          mediaType :=
            if file.type = [] then Utf16.units "application/octet-stream" else file.type
          byteCount := file.size, chunkBytes := maxAttachmentChunkBytes
          chunkCount := ceilDiv file.size maxAttachmentChunkBytes, sha256 := ""
          signature := List.replicate 64 0 }
      (start { s with offeringPeers := s.offeringPeers ++ [peerId] } (.hashingFile peerId draft),
        [])

def offerOver (i : Nat) (peerId : String) : AttachmentController :=
  { s.resume i .finished with offeringPeers := s.offeringPeers.erase peerId }

def offerThrew (i : Nat) (peerId : String) (now : Nat) :
    AttachmentController × List AttachmentControllerEvent :=
  let hadLiveOffer := s.outbound.has peerId
  let (s, events) := s.endOutbound peerId .sendFailed now
  (s.offerOver i peerId, if hadLiveOffer then events else offerRejected peerId .sendFailed)

def hashed (i : Nat) (peerId : String) (draft : AttachmentManifest) (sha256 : Option String)
    (now : Nat) : AttachmentController × List AttachmentControllerEvent :=
  match sha256 with
  | none => s.offerThrew i peerId now
  | some sha256 =>
    let unsigned := { draft with sha256 }
    match attachmentManifestSigningBytes unsigned with
    | .error _ => s.offerThrew i peerId now
    | .ok _ => (s.resume i (.signingManifest peerId unsigned), [])

def launch (i : Nat) (peerId : String) (g : Nat) (transfer : AttachmentTransferState)
    (manifestDeliveryId : String) : AttachmentController :=
  let r := s.live.length
  let t : LiveTransfer :=
    { peerId, registry := g, transfer, manifestDeliveryId, manifestForwardTimeout := true }
  let s := s.activate g r
  let s := { s with
    live := s.live ++ [t]
    outbound := s.outbound.set peerId r
    manifestDeliveryToOutbound := s.manifestDeliveryToOutbound.set manifestDeliveryId r }
  s.resume i (.sendingOffer peerId r)

/-- The manifest is signed: the transfer is opened and the manifest handed to the relay. -/
def signed (i : Nat) (peerId : String) (unsigned : AttachmentManifest)
    (signature : Option (List UInt8)) (manifestDeliveryId : String) (now : Nat) :
    AttachmentController × List AttachmentControllerEvent :=
  match signature with
  | none => s.offerThrew i peerId now
  | some signature =>
    let manifest := { unsigned with signature }
    if maxRelayAttachmentBytes < manifest.byteCount then
      (s.offerOver i peerId, offerRejected peerId .unsupported)
    else
      let (s, g) := s.registryOf peerId .outbound
      match s.openRegistry g manifest manifest.issuedAt with
      | (s, .opened transfer) => (s.launch i peerId g transfer manifestDeliveryId, [])
      | (s, .busy) => (s.offerOver i peerId, offerRejected peerId .busy)
      | (s, .threw) => s.offerThrew i peerId now
      | (s, _) => (s.offerOver i peerId, offerRejected peerId .unsupported)

def offerSent (i : Nat) (peerId : String) (ok : Bool) (now : Nat) :
    AttachmentController × List AttachmentControllerEvent :=
  if ok then (s.offerOver i peerId, [.offerSent peerId]) else s.offerThrew i peerId now

end Offer

section Receive

def admitInbound (peerId : String) (g : Nat) (transfer : AttachmentTransferState) :
    AttachmentController :=
  let r := s.live.length
  let s := s.activate g r
  { s with
    live := s.live ++ [{ peerId, registry := g, transfer }]
    inbound := s.inbound.set peerId r }

/-- `shown` is what the receiver of offers returns, if it does not throw. -/
def manifestVerified (i : Nat) (peerId : String) (manifest : AttachmentManifest)
    (verified : Bool) (now : Nat) (shown : Option Bool) :
    AttachmentController × List AttachmentControllerEvent :=
  let s := s.resume i .finished
  if ¬ verified then (s, [])
  else if s.inbound.has peerId ∨ maximumActiveDirections ≤ s.activeDirectionCount then (s, [])
  else
    let (s, g) := s.registryOf peerId .inbound
    match s.openRegistry g manifest now with
    | (s, .opened transfer) =>
      let s := s.admitInbound peerId g transfer
      match shown with
      | some true => (s, [.offerReceived peerId])
      | some false => s.endInbound peerId .busy now
      | none => s.endInbound peerId .sendFailed now
    | (s, _) => (s, [])

/-- `fillWindow` is over. -/
def stopFilling (i r : Nat) : AttachmentController :=
  (s.updateWindow r fun w => { w with filling := false }).resume i .finished

/-- `fillWindow` up to the next part of the file that it waits for. -/
def fillLoop (i r : Nat) : AttachmentController :=
  match s.live[r]? with
  | none => s.resume i .finished
  | some t =>
    if t.window.outstanding.size < outboundWindowSize ∧
        t.window.nextChunkIndex < t.manifest.chunkCount then
      (s.updateWindow r .take).resume i (.readingChunk r t.window.nextChunkIndex)
    else s.stopFilling i r

def fillWindow (r : Nat) : AttachmentController :=
  match s.live[r]? with
  | none => s
  | some t =>
    if t.window.filling ∨ s.outbound.get? t.peerId ≠ some r then s
    else
      fillLoop ((s.updateWindow r fun w => { w with filling := true }).start .finished)
        s.operations.length r

def decisionVerified (i : Nat) (peerId : String) (decision : AttachmentDecision)
    (verified : Bool) (now : Nat) : AttachmentController × List AttachmentControllerEvent :=
  let s := s.resume i .finished
  if ¬ verified then (s, [])
  else
    match s.outbound.get? peerId with
    | some r =>
      match s.live[r]? with
      | none => (s, [])
      | some t =>
        let (transfer, result) := t.transfer.receiveDecision decision (some now)
        let s := s.update r fun t => { t with transfer }
        match result.status with
        | .accepted => (s.fillWindow r, [.accepted peerId .outbound])
        | .rejected => s.endOutbound peerId .rejected now
        | .cancelled => s.endOutbound peerId .cancelled now
        | .expired | .aborted => s.endOutbound peerId .invalidPayload now
        | _ => (s, [])
    | none =>
      match s.inbound.get? peerId with
      | none => (s, [])
      | some r =>
        if decision.kind ≠ .cancel then (s, [])
        else
          match s.live[r]? with
          | none => (s, [])
          | some t =>
            let (transfer, result) := t.transfer.cancel decision (some now)
            let s := s.update r fun t => { t with transfer }
            if result.status = .cancelled then s.endInbound peerId .cancelled now else (s, [])

def receiveChunk (peerId : String) (chunk : AttachmentChunk) (now : Nat) :
    AttachmentController :=
  match s.inbound.get? peerId with
  | none => s
  | some r =>
    match s.live[r]? with
    | none => s
    | some t =>
      let (transfer, result) := t.transfer.receiveChunk chunk (some now)
      let s := s.update r fun t => { t with transfer }
      match result with
      | none => s.start (.digesting r t.transfer.digesting.length)
      | some result => s.start (.receivingChunk r result)

def digested (i r position : Nat) (digest : Option String) : AttachmentController :=
  match s.live[r]? with
  | none => s
  | some t =>
    let (transfer, result) := t.transfer.resume position digest
    let s := s.update r fun t => { t with transfer }
    match result with
    | none => s.resume i .finished
    | some result => s.resume i (.receivingChunk r result)

def chunkReceived (i r : Nat) (result : AttachmentTransferResult) (now : Nat) :
    AttachmentController × List AttachmentControllerEvent :=
  let s := s.resume i .finished
  match s.live[r]? with
  | none => (s, [])
  | some t =>
    match result.status with
    | .completed => s.endInbound t.peerId .accepted now
    | .aborted | .expired =>
      s.endInbound t.peerId
        (if result.reason = some .integrityFailed then .integrityFailed else .invalidPayload) now
    | _ => (s, [])

end Receive

section Decide

def sendLocalDecision (r : Nat) (kind : AttachmentDecisionKind) (ports : AttachmentPorts) :
    AttachmentController × List AttachmentControllerEvent :=
  match s.live[r]? with
  | none => (s, [])
  | some t =>
    if ¬ ports.isKnownPeer ∨ ¬ ports.signingKey then (s, [])
    else
      let unsigned : AttachmentDecision :=
        { version := attachmentVersion, kind, transferId := t.manifest.transferId
          manifestId := t.manifest.manifestId, issuedAt := ports.now
          expiresAt := min t.manifest.expiresAt (ports.now + maxAttachmentTTLms)
          signature := List.replicate 64 0 }
      match attachmentDecisionSigningBytes unsigned with
      | .error _ => s.endTransfer t.direction t.peerId .sendFailed ports.now
      | .ok _ => (s.start (.signingDecision r unsigned), [])

def decide (direction : AttachmentDirection) (peerId : String) (kind : AttachmentDecisionKind)
    (ports : AttachmentPorts) : AttachmentController × List AttachmentControllerEvent :=
  match (s.table direction).get? peerId with
  | none => (s, [])
  | some r => s.sendLocalDecision r kind ports

def accept (peerId : String) (ports : AttachmentPorts) :
    AttachmentController × List AttachmentControllerEvent :=
  s.decide .inbound peerId .accept ports

def reject (peerId : String) (ports : AttachmentPorts) :
    AttachmentController × List AttachmentControllerEvent :=
  s.decide .inbound peerId .reject ports

def cancel (peerId : String) (direction : AttachmentDirection) (ports : AttachmentPorts) :
    AttachmentController × List AttachmentControllerEvent :=
  s.decide direction peerId .cancel ports

/-- What a decision of this endpoint does to its transfer. A refusal is left to the end of the
transfer. -/
def carryOut (decision : AttachmentDecision) (transfer : AttachmentTransferState) :
    AttachmentTransferState :=
  match decision.kind with
  | .accept => (transfer.accept decision (some decision.issuedAt)).1
  | .reject => transfer
  | .cancel => (transfer.cancel decision (some decision.issuedAt)).1

/-- The decision is signed: it is carried out and handed to the relay. -/
def decisionSigned (i r : Nat) (unsigned : AttachmentDecision)
    (signature : Option (List UInt8)) (now : Nat) :
    AttachmentController × List AttachmentControllerEvent :=
  match s.live[r]? with
  | none => (s, [])
  | some t =>
    match signature with
    | none => (s.resume i .finished).endTransfer t.direction t.peerId .sendFailed now
    | some signature =>
      let decision := { unsigned with signature }
      let s := s.update r fun t => { t with transfer := carryOut decision t.transfer }
      if ¬ validateDecision decision then
        (s.resume i .finished).endTransfer t.direction t.peerId .sendFailed now
      else (s.resume i (.sendingDecision r decision.kind), [])

def decisionSent (i r : Nat) (kind : AttachmentDecisionKind) (ok : Bool) (now : Nat) :
    AttachmentController × List AttachmentControllerEvent :=
  let s := s.resume i .finished
  match s.live[r]? with
  | none => (s, [])
  | some t =>
    if ¬ ok then s.endTransfer t.direction t.peerId .sendFailed now
    else
      match kind, t.direction with
      | .accept, _ => (s, [.accepted t.peerId t.direction])
      | .reject, .inbound => s.endInbound t.peerId .rejected now
      | .cancel, .inbound => s.endInbound t.peerId .cancelled now
      | _, .outbound => s.endOutbound t.peerId .cancelled now

end Decide

section Window

def onRelayForwarded (deliveryId : String) (now : Nat) :
    AttachmentController × List AttachmentControllerEvent :=
  match s.manifestDeliveryToOutbound.get? deliveryId with
  | some r =>
    ({ s.update r fun t => { t with manifestForwardTimeout := false } with
      manifestDeliveryToOutbound := s.manifestDeliveryToOutbound.delete deliveryId }, [])
  | none =>
    match s.deliveryToOutbound.get? deliveryId with
    | none => (s, [])
    | some r =>
      match s.live[r]? with
      | none => (s, [])
      | some t =>
        if ¬ t.window.outstanding.has deliveryId then (s, [])
        else
          let window := t.window.acknowledge deliveryId
          let s := { s.updateWindow r (·.acknowledge deliveryId) with
            deliveryToOutbound := s.deliveryToOutbound.delete deliveryId }
          if t.manifest.chunkCount ≤ window.nextChunkIndex ∧ window.outstanding.size = 0 then
            s.endOutbound t.peerId .accepted now
          else (s.fillWindow r, [])

/-- The bytes of a chunk are there. A read that fails ends `fillWindow`. -/
def chunkRead (i r index : Nat) (bytes : Option (List UInt8)) (deliveryId : String)
    (now : Nat) : AttachmentController × List AttachmentControllerEvent :=
  match s.live[r]? with
  | none => (s, [])
  | some t =>
    match bytes with
    | none => (s.stopFilling i r, [])
    | some bytes =>
      let chunk : AttachmentChunk :=
        { version := attachmentVersion, transferId := t.manifest.transferId
          manifestId := t.manifest.manifestId, index, bytes }
      let (transfer, admitted) := t.transfer.admitOutboundChunk chunk (some now)
      let s := s.update r fun t => { t with transfer }
      if admitted.status ≠ .chunkStored then
        let (s, events) := s.endOutbound t.peerId .invalidPayload now
        (s.stopFilling i r, events)
      else
        let s := { s.updateWindow r (·.hand index deliveryId) with
          deliveryToOutbound := s.deliveryToOutbound.set deliveryId r }
        (s.resume i (.sendingChunk r), [])

def chunkSent (i r : Nat) (ok : Bool) (now : Nat) :
    AttachmentController × List AttachmentControllerEvent :=
  if ok then (s.fillLoop i r, [])
  else
    match s.live[r]? with
    | none => (s, [])
    | some t =>
      let (s, events) := s.endOutbound t.peerId .sendFailed now
      (s.stopFilling i r, events)

end Window

def timeout (timer : AttachmentTimer) (now : Nat) :
    AttachmentController × List AttachmentControllerEvent :=
  match timer with
  | .expiry r =>
    match s.live[r]? with
    | none => (s, [])
    | some t =>
      if ¬ t.expiry then (s, [])
      else (s.update r fun t => { t with expiry := false }).endTransfer t.direction t.peerId
        .expired now
  | .manifestForward r =>
    match s.live[r]? with
    | none => (s, [])
    | some t =>
      if ¬ t.manifestForwardTimeout then (s, [])
      else (s.update r fun t => { t with manifestForwardTimeout := false }).endOutbound t.peerId
        .ackTimeout now
  | .chunkForward r deliveryId =>
    match s.live[r]? with
    | none => (s, [])
    | some t =>
      if ¬ t.window.outstanding.has deliveryId then (s, [])
      else s.endOutbound t.peerId .ackTimeout now

def alsoEnd (direction : AttachmentDirection) (reason : AttachmentControllerReason) (now : Nat)
    (ended : AttachmentController × List AttachmentControllerEvent) (peerId : String) :
    AttachmentController × List AttachmentControllerEvent :=
  let next := ended.1.endTransfer direction peerId reason now
  (next.1, ended.2 ++ next.2)

def unavailable (peerId : Option String) (now : Nat) :
    AttachmentController × List AttachmentControllerEvent :=
  match peerId with
  | some peerId =>
    alsoEnd .outbound .unavailable now (alsoEnd .inbound .unavailable now (s, []) peerId) peerId
  | none =>
    let ended := s.inbound.keys.foldl (alsoEnd .inbound .disconnected now) (s, [])
    ended.1.outbound.keys.foldl (alsoEnd .outbound .disconnected now) ended

/-- An operation goes on with what it waits for, and with nothing else. -/
def step : AttachmentEvent → AttachmentController × List AttachmentControllerEvent
  | .offer peerId file ports transferId manifestId =>
    s.offer peerId file ports transferId manifestId
  | .hashed i sha256 now =>
    match s.operations[i]? with
    | some (.hashingFile peerId draft) => s.hashed i peerId draft sha256 now
    | _ => (s, [])
  | .signed i signature manifestDeliveryId now =>
    match s.operations[i]? with
    | some (.signingManifest peerId unsigned) =>
      s.signed i peerId unsigned signature manifestDeliveryId now
    | _ => (s, [])
  | .offerSent i ok now =>
    match s.operations[i]? with
    | some (.sendingOffer peerId _) => s.offerSent i peerId ok now
    | _ => (s, [])
  | .receiveManifest peerId manifest known =>
    (if known then s.start (.verifyingManifest peerId manifest) else s, [])
  | .manifestVerified i verified now shown =>
    match s.operations[i]? with
    | some (.verifyingManifest peerId manifest) =>
      s.manifestVerified i peerId manifest verified now shown
    | _ => (s, [])
  | .receiveDecision peerId decision known =>
    (if known then s.start (.verifyingDecision peerId decision) else s, [])
  | .decisionVerified i verified now =>
    match s.operations[i]? with
    | some (.verifyingDecision peerId decision) =>
      s.decisionVerified i peerId decision verified now
    | _ => (s, [])
  | .receiveChunk peerId chunk known now =>
    (if known then s.receiveChunk peerId chunk now else s, [])
  | .digested i digest =>
    match s.operations[i]? with
    | some (.digesting r position) => (s.digested i r position digest, [])
    | _ => (s, [])
  | .chunkReceived i now =>
    match s.operations[i]? with
    | some (.receivingChunk r result) => s.chunkReceived i r result now
    | _ => (s, [])
  | .accept peerId ports => s.accept peerId ports
  | .reject peerId ports => s.reject peerId ports
  | .cancel peerId direction ports => s.cancel peerId direction ports
  | .decisionSigned i signature now =>
    match s.operations[i]? with
    | some (.signingDecision r unsigned) => s.decisionSigned i r unsigned signature now
    | _ => (s, [])
  | .decisionSent i ok now =>
    match s.operations[i]? with
    | some (.sendingDecision r kind) => s.decisionSent i r kind ok now
    | _ => (s, [])
  | .relayForwarded deliveryId now => s.onRelayForwarded deliveryId now
  | .chunkRead i bytes deliveryId now =>
    match s.operations[i]? with
    | some (.readingChunk r index) => s.chunkRead i r index bytes deliveryId now
    | _ => (s, [])
  | .chunkSent i ok now =>
    match s.operations[i]? with
    | some (.sendingChunk r) => s.chunkSent i r ok now
    | _ => (s, [])
  | .timeout timer now => s.timeout timer now
  | .unavailable peerId now => s.unavailable peerId now

def next (s : AttachmentController) (e : AttachmentEvent) : AttachmentController := (s.step e).1

section Sample

def sampleCapabilities : ApplicationCapabilities where
  applicationVersions := [attachmentApplicationVersion]
  kinds := attachmentKinds
  attachmentMode := "receiver-accept"
  maxRelayAttachmentBytes := maxRelayAttachmentBytes

def samplePorts : AttachmentPorts where
  now := 0
  localPeerId := "alice"
  signingKey := true
  isKnownPeer := true
  capabilities := some sampleCapabilities

def sampleDecision : AttachmentDecision where
  version := attachmentVersion
  kind := .accept
  transferId := "AAAAAAAAAAAAAAAAAAAAAA"
  manifestId := "AAAAAAAAAAAAAAAAAAAAAAAAAAAAAAAAAAAAAAAAAAA"
  issuedAt := 0
  expiresAt := 100
  signature := .replicate 64 0

def sampleFile (size : Nat) : OfferedFile where
  name := Utf16.units "a"
  type := Utf16.units "a"
  size := size

/-- An offer of a file goes out. It is the `i`-th operation. -/
def sampleOffer (i size : Nat) (manifestId : String) : List AttachmentEvent :=
  [.offer "bob" (sampleFile size) samplePorts sampleDecision.transferId manifestId,
    .hashed i (some sampleDecision.manifestId) 0, .signed i (some (.replicate 64 0)) "manifest" 0,
    .offerSent i true 0]

/-- The peer accepts a file, and its first chunk is read by the third operation. -/
def sampleAccepted (size : Nat) : List AttachmentEvent :=
  sampleOffer 0 size sampleDecision.manifestId ++
    [.receiveDecision "bob" sampleDecision true, .decisionVerified 1 true 0]

end Sample

end AttachmentController

end Branch.Pwa
