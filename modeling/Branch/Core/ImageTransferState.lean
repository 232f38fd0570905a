import Branch.Core.Image
import Branch.Core.TransferState

/-!
The reassembly of one image from its chunks.
-/

namespace Branch.Core

open Branch.Lib

inductive ImageTransferReassemblyFailure where
  | expired
  | invalidManifest
  | noTransfer
  | invalidChunk
  | reorderLimit
  | conflictingDuplicate
  | integrityFailed
  | digestFailed
  deriving DecidableEq

inductive ImageTransferReassemblyResult where
  | chunkStored
  | duplicateChunk
  | completed (bytes : List UInt8) (manifest : ImageTransferManifest)
  | aborted (reason : ImageTransferReassemblyFailure)
  | expired
  deriving DecidableEq

inductive ImageTransferPhase where
  | active
  | aborted
  | expired
  | completed
  deriving DecidableEq

structure ImageTransferReassemblyOptions where
  maximumTransferBytes : Option Nat := none
  maximumReorderChunks : Option Nat := none
  maximumActiveTransfers : Option Nat := none
  maximumRememberedTransfers : Option Nat := none

def validateOptions (options : ImageTransferReassemblyOptions) : Bool :=
  let maximumTransferBytes := options.maximumTransferBytes.getD maxImageDirectBytes
  let maximumReorderChunks := options.maximumReorderChunks.getD 64
  let maximumActiveTransfers := options.maximumActiveTransfers.getD 16
  let maximumRememberedTransfers := options.maximumRememberedTransfers.getD 16
  1 ≤ maximumTransferBytes && maximumTransferBytes ≤ maxImageDirectBytes &&
    maximumReorderChunks < maxImageTransferChunks &&
    1 ≤ maximumActiveTransfers && maximumActiveTransfers ≤ 16 &&
    1 ≤ maximumRememberedTransfers && maximumRememberedTransfers ≤ 64

def validPeerId (value : String) : Bool :=
  0 < (Utf16.units value).length && (Utf16.units value).length ≤ 128

/-- `digesting` are the files of the calls that wait for a digest. -/
structure ImageTransferReassembly where
  peerId : String
  manifest : ValidImageManifest
  maximumReorderChunks : Nat
  received : ReceivedChunks := {}
  phase : ImageTransferPhase := .active
  digesting : List (List UInt8) := []

namespace ImageTransferReassembly

def «open» (peerId : String) (manifest : ImageTransferManifest)
    (options : ImageTransferReassemblyOptions) (now : CallTime) :
    Except String ImageTransferReassembly := do
  throwIf (¬ validateOptions options) "invalid image transfer reassembly options"
  if hvalid : validateImageTransferManifest manifest = true then
    throwIf (¬ validPeerId peerId) "invalid image transfer peer"
    throwIf (∀ time ∈ now, (manifest.expiresAt : Int) ≤ time) "image transfer is expired"
    throwIf (options.maximumTransferBytes.getD maxImageDirectBytes < manifest.byteCount)
      "image transfer exceeds local limit"
    return { peerId, manifest := ⟨manifest, hvalid⟩
             maximumReorderChunks := options.maximumReorderChunks.getD 64 }
  else throw "invalid image transfer manifest"

variable (transfer : ImageTransferReassembly)

def terminal : Bool := transfer.phase ≠ .active

def close (phase : ImageTransferPhase) : ImageTransferReassembly :=
  { transfer with received := transfer.received.clearChunks, phase }

def abortWith (reason : ImageTransferReassemblyFailure) :
    ImageTransferReassembly × ImageTransferReassemblyResult :=
  (if transfer.terminal then transfer else transfer.close .aborted, .aborted reason)

def expireAt (now : CallTime) : ImageTransferReassembly × Bool :=
  if ∀ time ∈ now, (transfer.manifest.1.expiresAt : Int) ≤ time then
    (if transfer.terminal then transfer else transfer.close .expired, true)
  else (transfer, transfer.phase = .expired)

def returned (answer : ImageTransferReassembly × ImageTransferReassemblyResult) :
    ImageTransferReassembly × Option ImageTransferReassemblyResult :=
  (answer.1, some answer.2)

/-- As far as the call goes before it waits for the digest of the image. -/
def receiveChunk (chunk : ImageTransferChunk) (now : CallTime) :
    ImageTransferReassembly × Option ImageTransferReassemblyResult :=
  let (transfer, expired) := transfer.expireAt now
  if expired then (transfer, some .expired)
  else if ¬ validateImageTransferChunkForManifest chunk transfer.manifest.1 then
    returned (transfer.abortWith .invalidChunk)
  else
    match transfer.received.receive transfer.maximumReorderChunks
        transfer.manifest.1.chunkCount transfer.manifest.1.byteCount chunk.index chunk.bytes with
    | .duplicate => (transfer, some .duplicateChunk)
    | .conflicting => returned (transfer.abortWith .conflictingDuplicate)
    | .beyondReorder => returned (transfer.abortWith .reorderLimit)
    | .stored received => ({ transfer with received }, some .chunkStored)
    | .miscounted received => returned ({ transfer with received }.abortWith .invalidChunk)
    | .full received file =>
      ({ transfer with received, digesting := transfer.digesting ++ [file] }, none)

/-- The rest of the call that waits at `position`: the digest came back, or failed. -/
def resume (position : Nat) (digest : Option String) :
    ImageTransferReassembly × Option ImageTransferReassemblyResult :=
  match transfer.digesting[position]? with
  | none => (transfer, none)
  | some file =>
    let transfer := { transfer with digesting := transfer.digesting.eraseIdx position }
    match digest with
    | none => returned (transfer.abortWith .digestFailed)
    | some sha256 =>
      if sha256 ≠ transfer.manifest.1.sha256 then returned (transfer.abortWith .integrityFailed)
      else (transfer.close .completed, some (.completed file transfer.manifest.1))

def expire (now : CallTime) : ImageTransferReassembly × Option ImageTransferReassemblyResult :=
  let (transfer, expired) := transfer.expireAt now
  (transfer, if expired then some .expired else none)

end ImageTransferReassembly

inductive ImageTransferEvent where
  | receiveChunk (chunk : ImageTransferChunk) (now : CallTime)
  | resume (position : Nat) (digest : Option String)
  | expire (now : CallTime)

namespace ImageTransferReassembly

/-- One call, or the rest of one, and what it returns if it is over. -/
def step (transfer : ImageTransferReassembly) :
    ImageTransferEvent → ImageTransferReassembly × Option ImageTransferReassemblyResult
  | .receiveChunk chunk now => transfer.receiveChunk chunk now
  | .resume position digest => transfer.resume position digest
  | .expire now => transfer.expire now

end ImageTransferReassembly

end Branch.Core
