import Branch.Core.Attachment
import Branch.Core.ReceivedChunks

/-!
The transfer of one attachment between two peers. A call of `receiveChunk` that brings the last
chunk waits for a digest: the rest of it runs when the digest comes back.
-/

namespace Branch.Core

open Branch.Lib

/-- What a caller gives as the time, if it is a safe integer. -/
abbrev CallTime := Option Int

inductive AttachmentTransferDirection where
  | inbound
  | outbound
  deriving DecidableEq

inductive AttachmentTransferPhase where
  | offered
  | accepted
  | completed
  | rejected
  | cancelled
  | expired
  | aborted
  deriving DecidableEq

def AttachmentTransferPhase.terminal : AttachmentTransferPhase → Bool
  | .offered | .accepted => false
  | .completed | .rejected | .cancelled | .expired | .aborted => true

inductive AttachmentTransferFailure where
  | notAccepted
  | expired
  | rejected
  | cancelled
  | wrongDirection
  | wrongTransfer
  | invalidDecision
  | invalidChunk
  | reorderLimit
  | conflictingDuplicate
  | integrityFailed
  | digestFailed
  deriving DecidableEq

inductive AttachmentTransferStatus where
  | accepted
  | duplicate
  | chunkStored
  | completed
  | rejected
  | cancelled
  | expired
  | aborted
  | ignored
  deriving DecidableEq

structure AttachmentTransferResult where
  status : AttachmentTransferStatus
  phase : AttachmentTransferPhase
  reason : Option AttachmentTransferFailure := none
  bytes : Option (List UInt8) := none
  deriving DecidableEq

structure AttachmentTransferOptions where
  maximumTransferBytes : Option Nat := none
  maximumReorderChunks : Option Nat := none

/-- `digesting` are the files of the calls that wait for a digest. -/
structure AttachmentTransferState where
  direction : AttachmentTransferDirection
  manifest : ValidManifest
  maximumReorderChunks : Nat
  received : ReceivedChunks := {}
  phase : AttachmentTransferPhase := .offered
  digesting : List (List UInt8) := []

def validateOpenOptions (options : AttachmentTransferOptions) : Bool :=
  let maximumTransferBytes := options.maximumTransferBytes.getD maxDirectAttachmentBytes
  let maximumReorderChunks := options.maximumReorderChunks.getD 64
  1 ≤ maximumTransferBytes && maximumTransferBytes ≤ maxDirectAttachmentBytes &&
    maximumReorderChunks < maxAttachmentChunks

namespace AttachmentTransferState

def «open» (direction : AttachmentTransferDirection) (manifest : AttachmentManifest)
    (options : AttachmentTransferOptions) (now : CallTime) :
    Except String AttachmentTransferState := do
  let _ ← attachmentManifestSigningBytes manifest
  throwIf (¬ validateOpenOptions options) "invalid attachment transfer options"
  throwIf (∀ time ∈ now, (manifest.expiresAt : Int) ≤ time) "attachment transfer is expired"
  throwIf (options.maximumTransferBytes.getD maxDirectAttachmentBytes < manifest.byteCount)
    "attachment transfer exceeds local limit"
  if hvalid : validateManifest manifest = true then
    return { direction, manifest := ⟨manifest, hvalid⟩
             maximumReorderChunks := options.maximumReorderChunks.getD 64 }
  else throw "invalid attachment manifest"

variable (transfer : AttachmentTransferState)

def clearChunks : AttachmentTransferState :=
  { transfer with received := transfer.received.clearChunks }

def close (phase : AttachmentTransferPhase) : AttachmentTransferState :=
  { transfer.clearChunks with phase }

def ok (status : AttachmentTransferStatus) : AttachmentTransferResult :=
  { status, phase := transfer.phase }

def terminal (reason : AttachmentTransferFailure) : AttachmentTransferResult :=
  { status :=
      match transfer.phase with
      | .rejected => .rejected
      | .cancelled => .cancelled
      | .expired => .expired
      | _ => .aborted
    phase := transfer.phase, reason := some reason }

def ignore (reason : AttachmentTransferFailure) : AttachmentTransferResult :=
  { status := .ignored, phase := transfer.phase, reason := some reason }

def abortWith (reason : AttachmentTransferFailure) :
    AttachmentTransferState × AttachmentTransferResult :=
  let next := if transfer.phase.terminal then transfer else transfer.close .aborted
  (next, next.terminal reason)

def conflict : AttachmentTransferState × AttachmentTransferResult :=
  transfer.abortWith .conflictingDuplicate

/-- Whether a call at this time finds the transfer expired. A time that is no safe integer
leaves it as it is. -/
def expireAt (now : CallTime) : AttachmentTransferState × Bool :=
  match now with
  | none => (transfer, true)
  | some time =>
    if ¬ transfer.phase.terminal ∧ (transfer.manifest.1.expiresAt : Int) ≤ time then
      (transfer.close .expired, true)
    else (transfer, transfer.phase = .expired)

/-- The beginning of the calls: an expired transfer answers that it is. -/
def unlessExpired {α : Type} (now : CallTime) (answer : AttachmentTransferResult → α)
    (rest : AttachmentTransferState → AttachmentTransferState × α) :
    AttachmentTransferState × α :=
  let (transfer, expired) := transfer.expireAt now
  if expired then (transfer, answer (transfer.terminal .expired)) else rest transfer

def matchesDecision (decision : AttachmentDecision) (requiredKind : Option AttachmentDecisionKind)
    (now : CallTime) : Bool :=
  match attachmentDecisionSigningBytes decision with
  | .error _ => false
  | .ok _ =>
    decision.transferId = transfer.manifest.1.transferId &&
      decision.manifestId = transfer.manifest.1.manifestId &&
      (requiredKind = none || requiredKind = some decision.kind) &&
      match now with
      | none => false
      | some time => time < decision.expiresAt && time < transfer.manifest.1.expiresAt

def cancelWith : AttachmentTransferState × AttachmentTransferResult :=
  if transfer.phase = .cancelled then (transfer, transfer.ok .duplicate)
  else if transfer.phase.terminal then transfer.conflict
  else
    let next := transfer.close .cancelled
    (next, next.terminal .cancelled)

def accept (decision : AttachmentDecision) (now : CallTime) :
    AttachmentTransferState × AttachmentTransferResult :=
  if transfer.direction ≠ .inbound then (transfer, transfer.ignore .wrongDirection)
  else
    transfer.unlessExpired now id fun transfer =>
      if ¬ transfer.matchesDecision decision (some .accept) now then
        transfer.abortWith .invalidDecision
      else
        match transfer.phase with
        | .accepted => (transfer, transfer.ok .duplicate)
        | .offered =>
          let next := { transfer with phase := .accepted }
          (next, next.ok .accepted)
        | _ => transfer.conflict

def receiveDecision (decision : AttachmentDecision) (now : CallTime) :
    AttachmentTransferState × AttachmentTransferResult :=
  if transfer.direction ≠ .outbound then (transfer, transfer.ignore .wrongDirection)
  else
    transfer.unlessExpired now id fun transfer =>
      if ¬ transfer.matchesDecision decision none now then transfer.abortWith .invalidDecision
      else
        match decision.kind, transfer.phase with
        | .cancel, _ => transfer.cancelWith
        | .accept, .offered =>
          let next := { transfer with phase := .accepted }
          (next, next.ok .accepted)
        | .reject, .offered =>
          let next := { transfer with phase := .rejected }
          (next, next.terminal .rejected)
        | .accept, .accepted => (transfer, transfer.ok .duplicate)
        | _, _ => transfer.conflict

def cancel (decision : AttachmentDecision) (now : CallTime) :
    AttachmentTransferState × AttachmentTransferResult :=
  transfer.unlessExpired now id fun transfer =>
    if ¬ transfer.matchesDecision decision (some .cancel) now then
      transfer.abortWith .invalidDecision
    else transfer.cancelWith

def admitOutboundChunk (chunk : AttachmentChunk) (now : CallTime) :
    AttachmentTransferState × AttachmentTransferResult :=
  if transfer.direction ≠ .outbound then (transfer, transfer.ignore .wrongDirection)
  else
    transfer.unlessExpired now id fun transfer =>
      if transfer.phase ≠ .accepted then (transfer, transfer.ignore .notAccepted)
      else if ¬ validateChunkForManifest chunk transfer.manifest.1 then
        transfer.abortWith .invalidChunk
      else (transfer, transfer.ok .chunkStored)

def returned (answer : AttachmentTransferState × AttachmentTransferResult) :
    AttachmentTransferState × Option AttachmentTransferResult :=
  (answer.1, some answer.2)

/-- As far as the call goes before it waits for the digest of the file. -/
def receiveChunk (chunk : AttachmentChunk) (now : CallTime) :
    AttachmentTransferState × Option AttachmentTransferResult :=
  if transfer.direction ≠ .inbound then (transfer, some (transfer.ignore .wrongDirection))
  else
    transfer.unlessExpired now some fun transfer =>
      if transfer.phase ≠ .accepted then (transfer, some (transfer.ignore .notAccepted))
      else if ¬ validateChunkForManifest chunk transfer.manifest.1 then
        returned (transfer.abortWith .invalidChunk)
      else
        match transfer.received.receive transfer.maximumReorderChunks
            transfer.manifest.1.chunkCount transfer.manifest.1.byteCount chunk.index
            chunk.bytes with
        | .duplicate => (transfer, some (transfer.ok .duplicate))
        | .conflicting => returned (transfer.abortWith .conflictingDuplicate)
        | .beyondReorder => returned (transfer.abortWith .reorderLimit)
        | .stored received =>
          let next := { transfer with received }
          (next, some (next.ok .chunkStored))
        | .miscounted received => returned ({ transfer with received }.abortWith .invalidChunk)
        | .full received file =>
          ({ transfer with received, digesting := transfer.digesting ++ [file] }, none)

/-- The rest of the call that waits at `position`: the digest came back, or failed. -/
def resume (position : Nat) (digest : Option String) :
    AttachmentTransferState × Option AttachmentTransferResult :=
  match transfer.digesting[position]? with
  | none => (transfer, none)
  | some file =>
    let transfer := { transfer with digesting := transfer.digesting.eraseIdx position }
    match digest with
    | none => returned (transfer.abortWith .digestFailed)
    | some sha256 =>
      if sha256 ≠ transfer.manifest.1.sha256 then returned (transfer.abortWith .integrityFailed)
      else
        let next := transfer.close .completed
        (next, some { status := .completed, phase := .completed, bytes := some file })

def expire (now : CallTime) : AttachmentTransferState × AttachmentTransferResult :=
  transfer.unlessExpired now id fun transfer => (transfer, transfer.ok .duplicate)

def abort : AttachmentTransferState × AttachmentTransferResult := transfer.conflict

end AttachmentTransferState

inductive AttachmentTransferEvent where
  | accept (decision : AttachmentDecision) (now : CallTime)
  | receiveDecision (decision : AttachmentDecision) (now : CallTime)
  | cancel (decision : AttachmentDecision) (now : CallTime)
  | admitOutboundChunk (chunk : AttachmentChunk) (now : CallTime)
  | receiveChunk (chunk : AttachmentChunk) (now : CallTime)
  | resume (position : Nat) (digest : Option String)
  | expire (now : CallTime)
  | abort

namespace AttachmentTransferState

/-- One call, or the rest of one, and what it returns if it is over. -/
def step (transfer : AttachmentTransferState) :
    AttachmentTransferEvent → AttachmentTransferState × Option AttachmentTransferResult
  | .accept decision now => returned (transfer.accept decision now)
  | .receiveDecision decision now => returned (transfer.receiveDecision decision now)
  | .cancel decision now => returned (transfer.cancel decision now)
  | .admitOutboundChunk chunk now => returned (transfer.admitOutboundChunk chunk now)
  | .receiveChunk chunk now => transfer.receiveChunk chunk now
  | .resume position digest => transfer.resume position digest
  | .expire now => returned (transfer.expire now)
  | .abort => returned transfer.abort

end AttachmentTransferState

end Branch.Core
