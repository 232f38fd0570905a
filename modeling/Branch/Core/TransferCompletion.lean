import Branch.Core.TransferPhases

/-!
The arrival of the chunks of a file, in any order and as often as they come.
-/

namespace Branch.Core

open Branch.Lib

section Geometry

structure Geometry (byteCount chunkBytes chunkCount : Nat) : Prop where
  pos : 0 < chunkBytes
  covers : byteCount ≤ chunkCount * chunkBytes
  needed : (chunkCount - 1) * chunkBytes < byteCount

theorem geometry_ceilDiv {byteCount chunkBytes : Nat} (hpos : 0 < chunkBytes)
    (hbytes : 1 ≤ byteCount) :
    Geometry byteCount chunkBytes (ceilDiv byteCount chunkBytes) := by
  have hdiv := Nat.div_add_mod (byteCount + chunkBytes - 1) chunkBytes
  have hmod := Nat.mod_lt (byteCount + chunkBytes - 1) hpos
  refine ⟨hpos, ?_, ?_⟩
  · rw [ceilDiv, Nat.mul_comm]
    omega
  · rw [ceilDiv, Nat.sub_mul, Nat.mul_comm]
    omega

variable {byteCount chunkBytes chunkCount index : Nat} {file : List UInt8}

theorem Geometry.chunkCount_pos (h : Geometry byteCount chunkBytes chunkCount)
    (hbytes : 1 ≤ byteCount) : 0 < chunkCount := by
  rcases Nat.eq_zero_or_pos chunkCount with rfl | hpos
  · have hcovers := h.covers
    omega
  · exact hpos

theorem Geometry.empty_ne_range (h : Geometry byteCount chunkBytes chunkCount)
    (hbytes : 0 < byteCount) : ∅ ≠ Finset.range chunkCount := by
  intro hempty
  have hmem := Finset.mem_range.mpr (h.chunkCount_pos hbytes)
  rw [← hempty] at hmem
  exact absurd hmem (Finset.notMem_empty 0)

theorem Geometry.piece_fits (h : Geometry byteCount chunkBytes chunkCount)
    (hfile : file.length = byteCount) (hindex : index < chunkCount) :
    (Pieces.piece chunkBytes file index).length ≤ chunkBytes ∧
      Pieces.piece chunkBytes file index ≠ [] ∧
        (chunkCount ≤ index + 1 ∨ (Pieces.piece chunkBytes file index).length = chunkBytes) := by
  have hneeded := h.needed
  have hpos := h.pos
  rw [← List.length_pos_iff, Pieces.length_piece]
  refine ⟨Nat.min_le_left _ _, ?_, ?_⟩
  · have hle : index * chunkBytes ≤ (chunkCount - 1) * chunkBytes :=
      Nat.mul_le_mul_right chunkBytes (by omega)
    omega
  · rcases Nat.lt_or_ge (index + 1) chunkCount with hlt | hge
    · have hle : (index + 1) * chunkBytes ≤ (chunkCount - 1) * chunkBytes :=
        Nat.mul_le_mul_right chunkBytes (by omega)
      rw [Nat.succ_mul] at hle
      omega
    · exact .inl hge

end Geometry

section Progress

structure TransferView where
  receiving : Bool
  completed : Bool
  received : ReceivedChunks
  digesting : List (List UInt8)

/-- How far the transfer of a file is after the chunks with these indices arrived: some are
missing, all are there and the digest of the file is awaited, or the file was completed, once. -/
inductive Progress (file : List UInt8) (chunkBytes chunkCount : Nat) (view : TransferView)
    (arrived : Finset Nat) (completions : List (List UInt8)) : Prop where
  | gathering (receiving : view.receiving = true) (missing : arrived ≠ Finset.range chunkCount)
      (receivedBytes : view.received.receivedBytes =
        arrived.sum fun i => (Pieces.piece chunkBytes file i).length)
      (nextMissingIndex : Pieces.FirstMissing (· ∈ arrived) view.received.nextMissingIndex)
      (digesting : view.digesting = []) (completions : completions = [])
  | digesting (receiving : view.receiving = true) (arrived : arrived = Finset.range chunkCount)
      (digesting : view.digesting = [file]) (completions : completions = [])
  | completed (completed : view.completed = true) (arrived : arrived = Finset.range chunkCount)
      (digesting : view.digesting = []) (completions : completions = [file])

/-- A transfer with the indices that arrived and the files that it completed. -/
structure Watched (State : Type) where
  state : State
  arrived : Finset Nat := ∅
  completions : List (List UInt8) := []

def Watched.next {State Event Result : Type} (step : State → Event → State × Option Result)
    (index? : Event → Option Nat) (file? : Result → Option (List UInt8))
    (watched : Watched State) (event : Event) : Watched State where
  state := (step watched.state event).1
  arrived := (index? event).elim watched.arrived fun i => insert i watched.arrived
  completions := watched.completions ++ ((step watched.state event).2.bind file?).toList

end Progress

namespace AttachmentTransferState

def chunkOf (manifest : AttachmentManifest) (file : List UInt8) (index : Nat) :
    AttachmentChunk where
  version := attachmentVersion
  transferId := manifest.transferId
  manifestId := manifest.manifestId
  index := index
  bytes := Pieces.piece manifest.chunkBytes file index

theorem sizes (manifest : ValidManifest) :
    1 ≤ manifest.1.byteCount ∧ 256 ≤ manifest.1.chunkBytes ∧
      manifest.1.chunkBytes ≤ maxAttachmentChunkBytes ∧
      manifest.1.chunkCount ≤ maxAttachmentChunks ∧
      manifest.1.chunkCount = ceilDiv manifest.1.byteCount manifest.1.chunkBytes := by
  have h := manifest.2
  simp only [validateManifest, Bool.and_eq_true, decide_eq_true_eq] at h
  tauto

theorem tokens (manifest : ValidManifest) :
    validToken manifest.1.transferId 16 = true ∧ validToken manifest.1.manifestId 32 = true := by
  have h := manifest.2
  simp only [validateManifest, Bool.and_eq_true, decide_eq_true_eq] at h
  tauto

theorem geometry (manifest : ValidManifest) :
    Geometry manifest.1.byteCount manifest.1.chunkBytes manifest.1.chunkCount := by
  obtain ⟨hbytes, hchunk, _, _, hcount⟩ := sizes manifest
  rw [hcount]
  exact geometry_ceilDiv (by omega) hbytes

variable {file : List UInt8}

theorem validate_chunkOf {manifest : ValidManifest} {index : Nat}
    (hfile : file.length = manifest.1.byteCount) (hindex : index < manifest.1.chunkCount) :
    validateChunkForManifest (chunkOf manifest.1 file index) manifest.1 = true := by
  obtain ⟨_, _, hchunk, hcount, _⟩ := sizes manifest
  obtain ⟨htransfer, hmanifest⟩ := tokens manifest
  obtain ⟨hle, hnonempty, hlast⟩ := (geometry manifest).piece_fits hfile hindex
  have hmax := hle.trans hchunk
  have hsafe : index ≤ maxSafeInteger := by
    unfold maxAttachmentChunks at hcount
    unfold maxSafeInteger
    omega
  simp [validateChunkForManifest, validateChunk, chunkOf, htransfer, hmanifest, manifest.2, hsafe,
    hindex, hle, hmax, hnonempty]
  exact hlast.imp decide_eq_true decide_eq_true

def view (transfer : AttachmentTransferState) : TransferView where
  receiving := transfer.phase = .accepted
  completed := transfer.phase = .completed
  received := transfer.received
  digesting := transfer.digesting

def indexOf : AttachmentTransferEvent → Option Nat
  | .receiveChunk chunk _ => some chunk.index
  | _ => none

def completedFile (result : AttachmentTransferResult) : Option (List UInt8) :=
  if result.status = .completed then result.bytes else none

def watch : Watched AttachmentTransferState → AttachmentTransferEvent →
    Watched AttachmentTransferState :=
  Watched.next step indexOf completedFile

/-- The chunks of a file arrive in time and within the reorder window, and its digests come
back. -/
def Delivers (file : List UInt8) (sha256 : List UInt8 → String) (transfer : AttachmentTransferState) :
    AttachmentTransferEvent → Prop
  | .receiveChunk chunk now =>
    ∃ index time, index < transfer.manifest.1.chunkCount ∧
      index ≤ transfer.received.nextMissingIndex + transfer.maximumReorderChunks ∧
      chunk = chunkOf transfer.manifest.1 file index ∧ now = some time ∧
      time < transfer.manifest.1.expiresAt
  | .resume position digest =>
    ∀ bytes ∈ transfer.digesting[position]?, digest = some (sha256 bytes)
  | _ => False

inductive Receives (manifest : ValidManifest) (file : List UInt8)
    (watched : Watched AttachmentTransferState) : Prop where
  | gathering (phase : watched.state.phase = .accepted)
      (missing : watched.arrived ≠ Finset.range manifest.1.chunkCount)
      (holds : watched.state.received.Holds file manifest.1.chunkBytes manifest.1.chunkCount
        watched.arrived)
      (next : watched.state.received.Next watched.arrived)
      (digesting : watched.state.digesting = []) (completions : watched.completions = [])
  | digesting (phase : watched.state.phase = .accepted)
      (arrived : watched.arrived = Finset.range manifest.1.chunkCount)
      (holds : watched.state.received.Holds file manifest.1.chunkBytes manifest.1.chunkCount
        watched.arrived)
      (digesting : watched.state.digesting = [file]) (completions : watched.completions = [])
  | completed (phase : watched.state.phase = .completed)
      (arrived : watched.arrived = Finset.range manifest.1.chunkCount)
      (digesting : watched.state.digesting = []) (completions : watched.completions = [file])

variable {transfer : AttachmentTransferState}

theorem receiveChunk_accepted {chunk : AttachmentChunk}
    {time : Int} (hdirection : transfer.direction = .inbound) (hphase : transfer.phase = .accepted)
    (htime : time < transfer.manifest.1.expiresAt)
    (hvalid : validateChunkForManifest chunk transfer.manifest.1 = true) :
    transfer.receiveChunk chunk (some time) =
      match transfer.received.receive transfer.maximumReorderChunks
          transfer.manifest.1.chunkCount transfer.manifest.1.byteCount chunk.index
          chunk.bytes with
      | .duplicate => (transfer, some (transfer.ok .duplicate))
      | .conflicting => returned (transfer.abortWith .conflictingDuplicate)
      | .beyondReorder => returned (transfer.abortWith .reorderLimit)
      | .stored received =>
        ({ transfer with received }, some (ok { transfer with received } .chunkStored))
      | .miscounted received => returned (abortWith { transfer with received } .invalidChunk)
      | .full received file =>
        ({ transfer with received, digesting := transfer.digesting ++ [file] }, none) := by
  have hlive : ¬ (¬ transfer.phase.terminal = true ∧
      (transfer.manifest.1.expiresAt : Int) ≤ time) := fun h => absurd h.2 (by omega)
  have hexpire : transfer.expireAt (some time) = (transfer, false) := by
    unfold expireAt
    simp only [if_neg hlive]
    rw [hphase]
    rfl
  rw [receiveChunk, if_neg (not_not.mpr hdirection), unlessExpired, hexpire]
  simp only [Bool.false_eq_true, if_false]
  refine (if_neg (not_not.mpr hphase)).trans ((if_neg (not_not.mpr hvalid)).trans ?_)
  rfl

theorem step_chunkOf {arrived : Finset Nat} {index : Nat}
    {time : Int} (hdirection : transfer.direction = .inbound) (hphase : transfer.phase = .accepted)
    (hholds : transfer.received.Holds file transfer.manifest.1.chunkBytes
      transfer.manifest.1.chunkCount arrived)
    (hfile : file.length = transfer.manifest.1.byteCount)
    (hindex : index < transfer.manifest.1.chunkCount)
    (hwindow : index ≤ transfer.received.nextMissingIndex + transfer.maximumReorderChunks)
    (htime : time < transfer.manifest.1.expiresAt) :
    transfer.step (.receiveChunk (chunkOf transfer.manifest.1 file index) (some time)) =
      if index ∈ arrived then (transfer, some (transfer.ok .duplicate))
      else if insert index arrived = Finset.range transfer.manifest.1.chunkCount then
        ({ transfer with
            received := transfer.received.set index
              (Pieces.piece transfer.manifest.1.chunkBytes file index)
            digesting := transfer.digesting ++ [file] }, none)
      else
        ({ transfer with
            received := transfer.received.set index
              (Pieces.piece transfer.manifest.1.chunkBytes file index) },
          some { status := .chunkStored, phase := transfer.phase }) := by
  have hcovers : file.length ≤ transfer.manifest.1.chunkCount * transfer.manifest.1.chunkBytes := by
    rw [hfile]
    exact (geometry transfer.manifest).covers
  rw [step, receiveChunk_accepted hdirection hphase htime (validate_chunkOf hfile hindex)]
  rw [show (chunkOf transfer.manifest.1 file index).index = index from rfl,
    show (chunkOf transfer.manifest.1 file index).bytes =
      Pieces.piece transfer.manifest.1.chunkBytes file index from rfl,
    hholds.receive_eq hcovers hfile hindex hwindow]
  by_cases hold : index ∈ arrived
  · rw [if_pos hold, if_pos hold]
  · rw [if_neg hold, if_neg hold]
    by_cases hfull : insert index arrived = Finset.range transfer.manifest.1.chunkCount
    · rw [if_pos hfull, if_pos hfull]
    · rw [if_neg hfull, if_neg hfull]
      rfl

theorem step_receiveChunk_completed
    {chunk : AttachmentChunk} {now : CallTime} (hphase : transfer.phase = .completed) :
    (transfer.step (.receiveChunk chunk now)).1 = transfer ∧
      (transfer.step (.receiveChunk chunk now)).2.bind completedFile = none := by
  have hignore : ∀ reason, completedFile (transfer.ignore reason) = none := by
    simp [completedFile, ignore]
  have hterminal : ∀ reason, completedFile (transfer.terminal reason) = none := by
    intro reason
    rw [completedFile, if_neg (status_terminal_ne reason)]
  rw [step, receiveChunk]
  split
  · exact ⟨rfl, hignore _⟩
  · rw [unlessExpired]
    rcases expireAt_cases transfer now with ⟨hlive, _⟩ | ⟨expired, heq, _⟩
    · rw [hphase] at hlive
      cases hlive
    · rw [heq]
      cases expired with
      | true => exact ⟨rfl, hterminal _⟩
      | false =>
        simp only [Bool.false_eq_true, if_false]
        rw [if_pos (by simp [hphase])]
        exact ⟨rfl, hignore _⟩

/-- What does not change while chunks arrive, and how far they are. -/
structure Watching (manifest : ValidManifest) (file : List UInt8)
    (watched : Watched AttachmentTransferState) : Prop where
  direction : watched.state.direction = .inbound
  manifest_eq : watched.state.manifest = manifest
  receives : Receives manifest file watched

variable {manifest : ValidManifest} {sha256 : List UInt8 → String}
  {watched : Watched AttachmentTransferState} {event : AttachmentTransferEvent}

theorem Watching.receiveChunk (h : Watching manifest file watched)
    (hfile : file.length = manifest.1.byteCount) {index : Nat} {time : Int}
    (hindex : index < manifest.1.chunkCount)
    (hwindow : index ≤
      watched.state.received.nextMissingIndex + watched.state.maximumReorderChunks)
    (htime : time < manifest.1.expiresAt) :
    Watching manifest file
      (watch watched (.receiveChunk (chunkOf manifest.1 file index) (some time))) := by
  obtain ⟨hdirection, rfl, hreceives⟩ := h
  unfold watch Watched.next
  cases hreceives with
  | gathering hphase hmissing hholds hnext hdigesting hcompletions =>
    rw [step_chunkOf hdirection hphase hholds hfile hindex hwindow htime]
    by_cases hold : index ∈ watched.arrived
    · rw [if_pos hold]
      refine ⟨hdirection, rfl, .gathering hphase ?_ ?_ ?_ hdigesting ?_⟩
      · simpa [indexOf, chunkOf, Finset.insert_eq_of_mem hold] using hmissing
      · simpa [indexOf, chunkOf, Finset.insert_eq_of_mem hold] using hholds
      · simpa [indexOf, chunkOf, Finset.insert_eq_of_mem hold] using hnext
      · simp [hcompletions, completedFile, ok]
    · rw [if_neg hold]
      by_cases hfull : insert index watched.arrived =
          Finset.range watched.state.manifest.1.chunkCount
      · rw [if_pos hfull]
        refine ⟨hdirection, rfl, .digesting hphase hfull (hholds.set hindex hold) ?_ ?_⟩
        · simp [hdigesting]
        · simp [hcompletions]
      · rw [if_neg hfull]
        refine ⟨hdirection, rfl, .gathering hphase hfull (hholds.set hindex hold)
          (hnext.set hholds hindex hold) hdigesting ?_⟩
        simp [hcompletions, completedFile]
  | digesting hphase harrived hholds hdigesting hcompletions =>
    have hold : index ∈ watched.arrived := by
      rw [harrived]
      exact Finset.mem_range.mpr hindex
    rw [step_chunkOf hdirection hphase hholds hfile hindex hwindow htime, if_pos hold]
    refine ⟨hdirection, rfl, .digesting hphase ?_ ?_ hdigesting ?_⟩
    · simpa [indexOf, chunkOf, Finset.insert_eq_of_mem hold] using harrived
    · simpa [indexOf, chunkOf, Finset.insert_eq_of_mem hold] using hholds
    · simp [hcompletions, completedFile, ok]
  | completed hphase harrived hdigesting hcompletions =>
    have hold : index ∈ watched.arrived := by
      rw [harrived]
      exact Finset.mem_range.mpr hindex
    have hstep : (watched.state.step (.receiveChunk (chunkOf watched.state.manifest.1 file index)
        (some time))).1 = watched.state ∧
        (watched.state.step (.receiveChunk (chunkOf watched.state.manifest.1 file index)
          (some time))).2.bind completedFile = none := step_receiveChunk_completed hphase
    rw [hstep.1, hstep.2]
    refine ⟨hdirection, rfl, .completed hphase ?_ hdigesting ?_⟩
    · simpa [indexOf, chunkOf, Finset.insert_eq_of_mem hold] using harrived
    · simp [hcompletions]

theorem Watching.resume (h : Watching manifest file watched)
    (hsha256 : manifest.1.sha256 = sha256 file) {position : Nat} {digest : Option String}
    (hdigest : ∀ bytes ∈ watched.state.digesting[position]?, digest = some (sha256 bytes)) :
    Watching manifest file (watch watched (.resume position digest)) := by
  obtain ⟨hdirection, rfl, hreceives⟩ := h
  unfold watch Watched.next
  cases hwaiting : watched.state.digesting[position]? with
  | none =>
    have hstep : watched.state.step (.resume position digest) = (watched.state, none) := by
      rw [step, AttachmentTransferState.resume, hwaiting]
    rw [hstep]
    simpa [indexOf] using (⟨hdirection, rfl, hreceives⟩ : Watching _ file watched)
  | some bytes =>
    cases hreceives with
    | gathering hphase hmissing hholds hnext hdigesting hcompletions =>
      rw [hdigesting] at hwaiting
      cases hwaiting
    | digesting hphase harrived hholds hdigesting hcompletions =>
      have hposition := hwaiting
      rw [hdigesting, List.getElem?_singleton, Option.ite_none_right_eq_some] at hposition
      obtain ⟨rfl, ⟨⟩⟩ := hposition
      have hcompletes : watched.state.Completes 0 digest := by
        refine ⟨by rw [hwaiting]; rfl, ?_⟩
        rw [hdigest file hwaiting, hsha256]
      obtain ⟨bytes, hbytes, hstep⟩ := resume_completes hcompletes
      obtain rfl := Option.some.inj (hwaiting.symm.trans hbytes)
      rw [step, hstep]
      refine ⟨hdirection, rfl, .completed rfl harrived ?_ ?_⟩
      · simp [close, clearChunks, hdigesting]
      · simp [hcompletions, completedFile]
    | completed hphase harrived hdigesting hcompletions =>
      rw [hdigesting] at hwaiting
      cases hwaiting

theorem Watching.watch (h : Watching manifest file watched)
    (hfile : file.length = manifest.1.byteCount) (hsha256 : manifest.1.sha256 = sha256 file)
    (hdelivers : Delivers file sha256 watched.state event) :
    Watching manifest file (watch watched event) := by
  have hmanifest := h.manifest_eq
  cases event with
  | receiveChunk chunk now =>
    obtain ⟨index, time, hindex, hwindow, rfl, rfl, htime⟩ := hdelivers
    rw [hmanifest] at hindex htime ⊢
    exact h.receiveChunk hfile hindex hwindow htime
  | resume position digest => exact h.resume hsha256 hdelivers
  | accept decision now => exact hdelivers.elim
  | receiveDecision decision now => exact hdelivers.elim
  | cancel decision now => exact hdelivers.elim
  | admitOutboundChunk chunk now => exact hdelivers.elim
  | expire now => exact hdelivers.elim
  | abort => exact hdelivers.elim

theorem Watching.progress (h : Watching manifest file watched) :
    Progress file manifest.1.chunkBytes manifest.1.chunkCount watched.state.view watched.arrived
      watched.completions := by
  cases h.receives with
  | gathering hphase hmissing hholds hnext hdigesting hcompletions =>
    exact .gathering (decide_eq_true hphase) hmissing hholds.receivedBytes_eq hnext hdigesting
      hcompletions
  | digesting hphase harrived hholds hdigesting hcompletions =>
    exact .digesting (decide_eq_true hphase) harrived hdigesting hcompletions
  | completed hphase harrived hdigesting hcompletions =>
    exact .completed (decide_eq_true hphase) harrived hdigesting hcompletions

theorem open_eq_ok {direction : AttachmentTransferDirection} {manifest : AttachmentManifest}
    {options : AttachmentTransferOptions} {now : CallTime}
    (h : AttachmentTransferState.open direction manifest options now = .ok transfer) :
    transfer.direction = direction ∧ transfer.manifest.1 = manifest ∧ transfer.received = {} ∧
      transfer.phase = .offered ∧ transfer.digesting = [] := by
  obtain ⟨_, _, h⟩ := bind_eq_ok.mp h
  obtain ⟨_, h⟩ := throwIf_bind_eq_ok.mp h
  obtain ⟨_, h⟩ := throwIf_bind_eq_ok.mp h
  obtain ⟨_, h⟩ := throwIf_bind_eq_ok.mp h
  split at h
  · obtain rfl := Except.ok.inj h
    exact ⟨rfl, rfl, rfl, rfl, rfl⟩
  · cases h

theorem accept_accepted {decision : AttachmentDecision}
    {now : CallTime} (h : (transfer.accept decision now).2.status = .accepted) :
    (transfer.accept decision now).1 = { transfer with phase := .accepted } := by
  have hterminal : ∀ (transfer : AttachmentTransferState) reason,
      (transfer.terminal reason).status ≠ .accepted := by
    intro transfer reason
    unfold terminal
    cases transfer.phase <;> simp
  have habort : ∀ (transfer : AttachmentTransferState) reason,
      (transfer.abortWith reason).2.status ≠ .accepted :=
    fun transfer reason => hterminal (transfer.abortWith reason).1 reason
  unfold accept at h ⊢
  split at h
  · cases h
  · rename_i hdirection
    rw [if_neg hdirection]
    unfold unlessExpired at h ⊢
    rcases expireAt_cases transfer now with ⟨_, heq⟩ | ⟨expired, heq, _⟩
    · rw [heq] at h
      have hstatus : ((transfer.close .expired).terminal .expired).status = .accepted := h
      exact absurd hstatus (hterminal _ _)
    · rw [heq] at h ⊢
      cases expired with
      | true =>
        have hstatus : (transfer.terminal .expired).status = .accepted := h
        exact absurd hstatus (hterminal _ _)
      | false =>
        simp only [Bool.false_eq_true, if_false] at h ⊢
        split at h
        · exact absurd h (habort _ _)
        · rename_i hmatches
          rw [if_neg hmatches]
          split at h
          · cases h
          · rfl
          · exact absurd h (habort _ _)

theorem watching_accept {options : AttachmentTransferOptions} {now time : CallTime}
    {decision : AttachmentDecision}
    (hopen : AttachmentTransferState.open .inbound manifest.1 options now = .ok transfer)
    (haccept : (transfer.accept decision time).2.status = .accepted) :
    Watching manifest file { state := (transfer.accept decision time).1 } := by
  obtain ⟨hdirection, hmanifest, hreceived, _, hdigesting⟩ := open_eq_ok hopen
  obtain ⟨hbytes, _⟩ := sizes manifest
  rw [accept_accepted haccept]
  refine ⟨hdirection, Subtype.ext hmanifest, .gathering rfl ?_ ?_ ?_ hdigesting rfl⟩
  · exact (geometry manifest).empty_ne_range hbytes
  · simp only [hreceived]
    exact ReceivedChunks.holds_empty
  · simp only [hreceived]
    exact ReceivedChunks.next_empty

end AttachmentTransferState

namespace ImageTransferReassembly

def chunkOf (manifest : ImageTransferManifest) (file : List UInt8) (index : Nat) :
    ImageTransferChunk where
  version := imageTransferVersion
  transferId := manifest.transferId
  manifestId := manifest.manifestId
  index := index
  bytes := Pieces.piece manifest.chunkBytes file index

theorem sizes (manifest : ValidImageManifest) :
    1 ≤ manifest.1.byteCount ∧ 256 ≤ manifest.1.chunkBytes ∧
      manifest.1.chunkBytes ≤ maxImageTransferChunkBytes ∧
      manifest.1.chunkCount ≤ maxImageTransferChunks ∧
      manifest.1.chunkCount = ceilDiv manifest.1.byteCount manifest.1.chunkBytes := by
  have h := manifest.2
  simp only [validateImageTransferManifest, Bool.and_eq_true, decide_eq_true_eq] at h
  tauto

theorem tokens (manifest : ValidImageManifest) :
    validToken manifest.1.transferId 16 = true ∧ validToken manifest.1.manifestId 32 = true := by
  have h := manifest.2
  simp only [validateImageTransferManifest, Bool.and_eq_true, decide_eq_true_eq] at h
  tauto

theorem geometry (manifest : ValidImageManifest) :
    Geometry manifest.1.byteCount manifest.1.chunkBytes manifest.1.chunkCount := by
  obtain ⟨hbytes, hchunk, _, _, hcount⟩ := sizes manifest
  rw [hcount]
  exact geometry_ceilDiv (by omega) hbytes

variable {file : List UInt8}

theorem validate_chunkOf {manifest : ValidImageManifest} {index : Nat}
    (hfile : file.length = manifest.1.byteCount) (hindex : index < manifest.1.chunkCount) :
    validateImageTransferChunkForManifest (chunkOf manifest.1 file index) manifest.1 = true := by
  obtain ⟨_, _, hchunk, hcount, _⟩ := sizes manifest
  obtain ⟨htransfer, hmanifest⟩ := tokens manifest
  obtain ⟨hle, hnonempty, hlast⟩ := (geometry manifest).piece_fits hfile hindex
  have hmax := hle.trans hchunk
  have hsafe : index ≤ maxSafeInteger := by
    unfold maxImageTransferChunks at hcount
    unfold maxSafeInteger
    omega
  simp [validateImageTransferChunkForManifest, validateImageTransferChunk, chunkOf, htransfer,
    hmanifest, manifest.2, hsafe, hindex, hle, hmax, hnonempty]
  exact hlast.imp decide_eq_true decide_eq_true

def view (transfer : ImageTransferReassembly) : TransferView where
  receiving := transfer.phase = .active
  completed := transfer.phase = .completed
  received := transfer.received
  digesting := transfer.digesting

def indexOf : ImageTransferEvent → Option Nat
  | .receiveChunk chunk _ => some chunk.index
  | _ => none

def completedFile : ImageTransferReassemblyResult → Option (List UInt8)
  | .completed bytes _ => some bytes
  | _ => none

def watch : Watched ImageTransferReassembly → ImageTransferEvent →
    Watched ImageTransferReassembly :=
  Watched.next step indexOf completedFile

/-- The chunks of an image arrive in time and within the reorder window, and its digests come
back. -/
def Delivers (file : List UInt8) (sha256 : List UInt8 → String)
    (transfer : ImageTransferReassembly) : ImageTransferEvent → Prop
  | .receiveChunk chunk now =>
    ∃ index time, index < transfer.manifest.1.chunkCount ∧
      index ≤ transfer.received.nextMissingIndex + transfer.maximumReorderChunks ∧
      chunk = chunkOf transfer.manifest.1 file index ∧ now = some time ∧
      time < transfer.manifest.1.expiresAt
  | .resume position digest =>
    ∀ bytes ∈ transfer.digesting[position]?, digest = some (sha256 bytes)
  | _ => False

/-- No chunk that comes to a completed image is the last one of a second full set. -/
def NotAgain (transfer : ImageTransferReassembly) : ImageTransferEvent → Prop
  | .receiveChunk chunk _ =>
    transfer.phase = .completed → transfer.received.chunks.get? chunk.index = none →
      transfer.received.chunks.size + 1 ≠ transfer.manifest.1.chunkCount
  | _ => True

variable {transfer : ImageTransferReassembly}

theorem step_chunkOf {arrived : Finset Nat} {index : Nat}
    {time : Int} (hphase : transfer.phase ≠ .expired)
    (hholds : transfer.received.Holds file transfer.manifest.1.chunkBytes
      transfer.manifest.1.chunkCount arrived)
    (hfile : file.length = transfer.manifest.1.byteCount)
    (hindex : index < transfer.manifest.1.chunkCount)
    (hwindow : index ≤ transfer.received.nextMissingIndex + transfer.maximumReorderChunks)
    (htime : time < transfer.manifest.1.expiresAt) :
    transfer.step (.receiveChunk (chunkOf transfer.manifest.1 file index) (some time)) =
      if index ∈ arrived then (transfer, some .duplicateChunk)
      else if insert index arrived = Finset.range transfer.manifest.1.chunkCount then
        ({ transfer with
            received := transfer.received.set index
              (Pieces.piece transfer.manifest.1.chunkBytes file index)
            digesting := transfer.digesting ++ [file] }, none)
      else
        ({ transfer with
            received := transfer.received.set index
              (Pieces.piece transfer.manifest.1.chunkBytes file index) },
          some .chunkStored) := by
  have hcovers : file.length ≤ transfer.manifest.1.chunkCount * transfer.manifest.1.chunkBytes := by
    rw [hfile]
    exact (geometry transfer.manifest).covers
  have hexpire : transfer.expireAt (some time) = (transfer, false) := by
    have hlive : ¬ ∀ t ∈ some time, (transfer.manifest.1.expiresAt : Int) ≤ t := by
      intro h
      exact absurd (h time rfl) (by omega)
    rw [expireAt, if_neg hlive, decide_eq_false hphase]
  rw [step, receiveChunk, hexpire]
  simp only [Bool.false_eq_true, if_false]
  rw [if_neg (not_not.mpr (validate_chunkOf hfile hindex)),
    show (chunkOf transfer.manifest.1 file index).index = index from rfl,
    show (chunkOf transfer.manifest.1 file index).bytes =
      Pieces.piece transfer.manifest.1.chunkBytes file index from rfl,
    hholds.receive_eq hcovers hfile hindex hwindow]
  by_cases hold : index ∈ arrived
  · rw [if_pos hold, if_pos hold]
  · rw [if_neg hold, if_neg hold]
    by_cases hfull : insert index arrived = Finset.range transfer.manifest.1.chunkCount
    · rw [if_pos hfull, if_pos hfull]
    · rw [if_neg hfull, if_neg hfull]

/-- What carries the progress of an image. After its completion chunks are kept again. -/
inductive Receives (manifest : ValidImageManifest) (file : List UInt8)
    (watched : Watched ImageTransferReassembly) : Prop where
  | gathering (phase : watched.state.phase = .active)
      (missing : watched.arrived ≠ Finset.range manifest.1.chunkCount)
      (holds : watched.state.received.Holds file manifest.1.chunkBytes manifest.1.chunkCount
        watched.arrived)
      (next : watched.state.received.Next watched.arrived)
      (digesting : watched.state.digesting = []) (completions : watched.completions = [])
  | digesting (phase : watched.state.phase = .active)
      (arrived : watched.arrived = Finset.range manifest.1.chunkCount)
      (holds : watched.state.received.Holds file manifest.1.chunkBytes manifest.1.chunkCount
        watched.arrived)
      (digesting : watched.state.digesting = [file]) (completions : watched.completions = [])
  | completed (phase : watched.state.phase = .completed)
      (arrived : watched.arrived = Finset.range manifest.1.chunkCount)
      (again : Finset Nat) (missing : again ≠ Finset.range manifest.1.chunkCount)
      (holds : watched.state.received.Holds file manifest.1.chunkBytes manifest.1.chunkCount
        again)
      (digesting : watched.state.digesting = []) (completions : watched.completions = [file])

/-- What does not change while chunks arrive, and how far they are. -/
structure Watching (manifest : ValidImageManifest) (file : List UInt8)
    (watched : Watched ImageTransferReassembly) : Prop where
  manifest_eq : watched.state.manifest = manifest
  receives : Receives manifest file watched

variable {manifest : ValidImageManifest} {sha256 : List UInt8 → String}
  {watched : Watched ImageTransferReassembly} {event : ImageTransferEvent}

theorem insert_eq_range_iff {again : Finset Nat} {index : Nat}
    (hholds : transfer.received.Holds file transfer.manifest.1.chunkBytes
      transfer.manifest.1.chunkCount again)
    (hindex : index < transfer.manifest.1.chunkCount) (hnew : index ∉ again) :
    insert index again = Finset.range transfer.manifest.1.chunkCount ↔
      transfer.received.chunks.size + 1 = transfer.manifest.1.chunkCount := by
  rw [hholds.size_eq, ← Finset.card_insert_of_notMem hnew]
  constructor
  · intro h
    rw [h, Finset.card_range]
  · intro h
    refine Finset.eq_of_subset_of_card_le ?_ (by rw [Finset.card_range, h])
    exact Finset.insert_subset (Finset.mem_range.mpr hindex) hholds.subset

theorem Watching.receiveChunk (h : Watching manifest file watched)
    (hfile : file.length = manifest.1.byteCount) {index : Nat} {time : Int}
    (hindex : index < manifest.1.chunkCount)
    (hwindow : index ≤
      watched.state.received.nextMissingIndex + watched.state.maximumReorderChunks)
    (htime : time < manifest.1.expiresAt)
    (hagain : watched.state.NotAgain
      (.receiveChunk (chunkOf manifest.1 file index) (some time))) :
    Watching manifest file
      (watch watched (.receiveChunk (chunkOf manifest.1 file index) (some time))) := by
  obtain ⟨rfl, hreceives⟩ := h
  unfold watch Watched.next
  cases hreceives with
  | gathering hphase hmissing hholds hnext hdigesting hcompletions =>
    rw [step_chunkOf (by rw [hphase]; simp) hholds hfile hindex hwindow htime]
    by_cases hold : index ∈ watched.arrived
    · rw [if_pos hold]
      refine ⟨rfl, .gathering hphase ?_ ?_ ?_ hdigesting ?_⟩
      · simpa [indexOf, chunkOf, Finset.insert_eq_of_mem hold] using hmissing
      · simpa [indexOf, chunkOf, Finset.insert_eq_of_mem hold] using hholds
      · simpa [indexOf, chunkOf, Finset.insert_eq_of_mem hold] using hnext
      · simp [hcompletions, completedFile]
    · rw [if_neg hold]
      by_cases hfull : insert index watched.arrived =
          Finset.range watched.state.manifest.1.chunkCount
      · rw [if_pos hfull]
        refine ⟨rfl, .digesting hphase hfull (hholds.set hindex hold) ?_ ?_⟩
        · simp [hdigesting]
        · simp [hcompletions]
      · rw [if_neg hfull]
        refine ⟨rfl, .gathering hphase hfull (hholds.set hindex hold)
          (hnext.set hholds hindex hold) hdigesting ?_⟩
        simp [hcompletions, completedFile]
  | digesting hphase harrived hholds hdigesting hcompletions =>
    have hold : index ∈ watched.arrived := by
      rw [harrived]
      exact Finset.mem_range.mpr hindex
    rw [step_chunkOf (by rw [hphase]; simp) hholds hfile hindex hwindow htime, if_pos hold]
    refine ⟨rfl, .digesting hphase ?_ ?_ hdigesting ?_⟩
    · simpa [indexOf, chunkOf, Finset.insert_eq_of_mem hold] using harrived
    · simpa [indexOf, chunkOf, Finset.insert_eq_of_mem hold] using hholds
    · simp [hcompletions, completedFile]
  | completed hphase harrived again hmissing hholds hdigesting hcompletions =>
    have hold : index ∈ watched.arrived := by
      rw [harrived]
      exact Finset.mem_range.mpr hindex
    have harrived' : insert index watched.arrived =
        Finset.range watched.state.manifest.1.chunkCount := by
      rw [Finset.insert_eq_of_mem hold, harrived]
    rw [step_chunkOf (by rw [hphase]; simp) hholds hfile hindex hwindow htime]
    by_cases hcame : index ∈ again
    · rw [if_pos hcame]
      refine ⟨rfl, .completed hphase harrived' again hmissing hholds hdigesting ?_⟩
      simp [hcompletions, completedFile]
    · have hfull : insert index again ≠ Finset.range watched.state.manifest.1.chunkCount := by
        intro hfull
        refine hagain hphase ?_ ((insert_eq_range_iff hholds hindex hcame).mp hfull)
        rw [hholds.get?_eq]
        exact if_neg hcame
      rw [if_neg hcame, if_neg hfull]
      refine ⟨rfl, .completed hphase harrived' (insert index again) hfull
        (hholds.set hindex hcame) hdigesting ?_⟩
      simp [hcompletions, completedFile]

theorem Watching.resume (h : Watching manifest file watched)
    (hsha256 : manifest.1.sha256 = sha256 file) {position : Nat} {digest : Option String}
    (hdigest : ∀ bytes ∈ watched.state.digesting[position]?, digest = some (sha256 bytes)) :
    Watching manifest file (watch watched (.resume position digest)) := by
  obtain ⟨rfl, hreceives⟩ := h
  unfold watch Watched.next
  cases hwaiting : watched.state.digesting[position]? with
  | none =>
    have hstep : watched.state.step (.resume position digest) = (watched.state, none) := by
      rw [step, ImageTransferReassembly.resume, hwaiting]
    rw [hstep]
    simpa [indexOf] using (⟨rfl, hreceives⟩ : Watching _ file watched)
  | some bytes =>
    cases hreceives with
    | gathering hphase hmissing hholds hnext hdigesting hcompletions =>
      rw [hdigesting] at hwaiting
      cases hwaiting
    | digesting hphase harrived hholds hdigesting hcompletions =>
      have hposition := hwaiting
      rw [hdigesting, List.getElem?_singleton, Option.ite_none_right_eq_some] at hposition
      obtain ⟨rfl, ⟨⟩⟩ := hposition
      have hcompletes : watched.state.Completes 0 digest := by
        refine ⟨by rw [hwaiting]; rfl, ?_⟩
        rw [hdigest file hwaiting, hsha256]
      obtain ⟨bytes, hbytes, hstep⟩ := resume_completes hcompletes
      obtain rfl := Option.some.inj (hwaiting.symm.trans hbytes)
      obtain ⟨hbytes, _⟩ := sizes watched.state.manifest
      rw [step, hstep]
      refine ⟨rfl, .completed rfl harrived ∅ ?_ (ReceivedChunks.holds_clearChunks _) ?_ ?_⟩
      · exact (geometry watched.state.manifest).empty_ne_range hbytes
      · simp [close, hdigesting]
      · simp [hcompletions, completedFile]
    | completed hphase harrived again hmissing hholds hdigesting hcompletions =>
      rw [hdigesting] at hwaiting
      cases hwaiting

theorem Watching.watch (h : Watching manifest file watched)
    (hfile : file.length = manifest.1.byteCount) (hsha256 : manifest.1.sha256 = sha256 file)
    (hdelivers : Delivers file sha256 watched.state event)
    (hagain : watched.state.NotAgain event) : Watching manifest file (watch watched event) := by
  have hmanifest := h.manifest_eq
  cases event with
  | receiveChunk chunk now =>
    obtain ⟨index, time, hindex, hwindow, rfl, rfl, htime⟩ := hdelivers
    rw [hmanifest] at hindex htime hagain ⊢
    exact h.receiveChunk hfile hindex hwindow htime hagain
  | resume position digest => exact h.resume hsha256 hdelivers
  | expire now => exact hdelivers.elim

theorem Watching.progress (h : Watching manifest file watched) :
    Progress file manifest.1.chunkBytes manifest.1.chunkCount watched.state.view watched.arrived
      watched.completions := by
  cases h.receives with
  | gathering hphase hmissing hholds hnext hdigesting hcompletions =>
    exact .gathering (decide_eq_true hphase) hmissing hholds.receivedBytes_eq hnext hdigesting
      hcompletions
  | digesting hphase harrived hholds hdigesting hcompletions =>
    exact .digesting (decide_eq_true hphase) harrived hdigesting hcompletions
  | completed hphase harrived again hmissing hholds hdigesting hcompletions =>
    exact .completed (decide_eq_true hphase) harrived hdigesting hcompletions

theorem Watching.notAgain (h : Watching manifest file watched)
    (hfile : file.length = manifest.1.byteCount)
    (hdelivers : Delivers file sha256 watched.state event)
    (hprogress : Progress file manifest.1.chunkBytes manifest.1.chunkCount
      (ImageTransferReassembly.watch watched event).state.view
      (ImageTransferReassembly.watch watched event).arrived
      (ImageTransferReassembly.watch watched event).completions) :
    watched.state.NotAgain event := by
  cases event with
  | resume position digest => trivial
  | expire now => trivial
  | receiveChunk chunk now =>
    intro hphase hnone hsize
    obtain ⟨rfl, hreceives⟩ := h
    obtain ⟨index, time, hindex, hwindow, rfl, rfl, htime⟩ := hdelivers
    cases hreceives with
    | gathering hactive => rw [hphase] at hactive; cases hactive
    | digesting hactive => rw [hphase] at hactive; cases hactive
    | completed _ harrived again hmissing hholds hdigesting hcompletions =>
      have hcame : index ∉ again := by
        intro hcame
        rw [hholds.get?_eq] at hnone
        simp [chunkOf, hcame] at hnone
      have hfull := (insert_eq_range_iff hholds hindex hcame).mpr hsize
      have hstep := step_chunkOf (by rw [hphase]; simp) hholds hfile hindex hwindow htime
      rw [if_neg hcame, if_pos hfull] at hstep
      unfold ImageTransferReassembly.watch Watched.next at hprogress
      rw [hstep] at hprogress
      cases hprogress with
      | gathering hreceiving => simp [view, hphase] at hreceiving
      | digesting hreceiving => simp [view, hphase] at hreceiving
      | completed _ _ hnodigest => simp [view] at hnodigest

theorem open_eq_ok {peerId : String} {manifest : ImageTransferManifest}
    {options : ImageTransferReassemblyOptions} {now : CallTime}
    (h : ImageTransferReassembly.open peerId manifest options now = .ok transfer) :
    transfer.manifest.1 = manifest ∧ transfer.received = {} ∧ transfer.phase = .active ∧
      transfer.digesting = [] := by
  obtain ⟨_, h⟩ := throwIf_bind_eq_ok.mp h
  split at h
  · obtain ⟨_, h⟩ := throwIf_bind_eq_ok.mp h
    obtain ⟨_, h⟩ := throwIf_bind_eq_ok.mp h
    obtain ⟨_, h⟩ := throwIf_bind_eq_ok.mp h
    obtain rfl := Except.ok.inj h
    exact ⟨rfl, rfl, rfl, rfl⟩
  · cases h

theorem watching_open {peerId : String} {options : ImageTransferReassemblyOptions}
    {now : CallTime}
    (hopen : ImageTransferReassembly.open peerId manifest.1 options now = .ok transfer) :
    Watching manifest file { state := transfer } := by
  obtain ⟨hmanifest, hreceived, hphase, hdigesting⟩ := open_eq_ok hopen
  obtain ⟨hbytes, _⟩ := sizes manifest
  refine ⟨Subtype.ext hmanifest, .gathering hphase ?_ ?_ ?_ hdigesting rfl⟩
  · exact (geometry manifest).empty_ne_range hbytes
  · simp only [hreceived]
    exact ReceivedChunks.holds_empty
  · simp only [hreceived]
    exact ReceivedChunks.next_empty

end ImageTransferReassembly

namespace AttachmentTransferState

variable {file : List UInt8} {sha256 : List UInt8 → String}

/-- Nothing comes to the transfer but the chunks of the file and its digests. -/
def Delivered (file : List UInt8) (sha256 : List UInt8 → String)
    (transfer : AttachmentTransferState) (events : List AttachmentTransferEvent) : Prop :=
  Trace.Meets watch (fun watched event => watched.state.Delivers file sha256 event)
    { state := transfer } events

/-- Every event leaves the transfer with the progress that the chunks so far make. -/
def Progresses (file : List UInt8) (transfer : AttachmentTransferState)
    (events : List AttachmentTransferEvent) : Prop :=
  Trace.Meets watch (fun watched event =>
    Progress file transfer.manifest.1.chunkBytes transfer.manifest.1.chunkCount
      (watch watched event).state.view (watch watched event).arrived
      (watch watched event).completions) { state := transfer } events

theorem progresses_of_delivered {options : AttachmentTransferOptions} {now time : CallTime}
    {manifest : AttachmentManifest} {transfer : AttachmentTransferState}
    {decision : AttachmentDecision} {events : List AttachmentTransferEvent}
    (hopen : AttachmentTransferState.open .inbound manifest options now = .ok transfer)
    (haccept : (transfer.accept decision time).2.status = .accepted)
    (hfile : file.length = manifest.byteCount) (hsha256 : manifest.sha256 = sha256 file)
    (hdelivered : (transfer.accept decision time).1.Delivered file sha256 events) :
    (transfer.accept decision time).1.Progresses file events := by
  obtain ⟨_, rfl, _⟩ := open_eq_ok hopen
  have hmanifest : (transfer.accept decision time).1.manifest = transfer.manifest := by
    rw [accept_accepted haccept]
  unfold Progresses
  rw [hmanifest]
  have hstep : ∀ watched event, Watching transfer.manifest file watched →
      watched.state.Delivers file sha256 event →
        Watching transfer.manifest file (watch watched event) ∧
          Progress file transfer.manifest.1.chunkBytes transfer.manifest.1.chunkCount
            (watch watched event).state.view (watch watched event).arrived
            (watch watched event).completions := by
    intro watched event hwatching hdelivers
    have hnext := hwatching.watch hfile hsha256 hdelivers
    exact ⟨hnext, hnext.progress⟩
  exact Trace.meets_of_meets hstep (watching_accept hopen haccept) hdelivered

end AttachmentTransferState

namespace ImageTransferReassembly

variable {file : List UInt8} {sha256 : List UInt8 → String}

/-- Nothing comes to the transfer but the chunks of the image and its digests. -/
def Delivered (file : List UInt8) (sha256 : List UInt8 → String)
    (transfer : ImageTransferReassembly) (events : List ImageTransferEvent) : Prop :=
  Trace.Meets watch (fun watched event => watched.state.Delivers file sha256 event)
    { state := transfer } events

/-- Every event leaves the transfer with the progress that the chunks so far make. -/
def Progresses (file : List UInt8) (transfer : ImageTransferReassembly)
    (events : List ImageTransferEvent) : Prop :=
  Trace.Meets watch (fun watched event =>
    Progress file transfer.manifest.1.chunkBytes transfer.manifest.1.chunkCount
      (watch watched event).state.view (watch watched event).arrived
      (watch watched event).completions) { state := transfer } events

/-- No second full set of chunks comes behind the completion. -/
def NeverAgain (transfer : ImageTransferReassembly) (events : List ImageTransferEvent) : Prop :=
  Trace.Meets watch (fun watched event => watched.state.NotAgain event) { state := transfer } events

theorem progresses_iff_neverAgain {peerId : String} {options : ImageTransferReassemblyOptions}
    {now : CallTime} {manifest : ImageTransferManifest} {transfer : ImageTransferReassembly}
    {events : List ImageTransferEvent}
    (hopen : ImageTransferReassembly.open peerId manifest options now = .ok transfer)
    (hfile : file.length = manifest.byteCount) (hsha256 : manifest.sha256 = sha256 file)
    (hdelivered : transfer.Delivered file sha256 events) :
    transfer.Progresses file events ↔ transfer.NeverAgain events := by
  obtain ⟨rfl, _⟩ := open_eq_ok hopen
  have hstep : ∀ watched event, Watching transfer.manifest file watched →
      (watched.state.Delivers file sha256 event ∧ watched.state.NotAgain event) →
        Watching transfer.manifest file (watch watched event) :=
    fun watched event hwatching hevent => hwatching.watch hfile hsha256 hevent.1 hevent.2
  have hguard : ∀ watched event, Watching transfer.manifest file watched →
      ((watched.state.Delivers file sha256 event ∧
        Progress file transfer.manifest.1.chunkBytes transfer.manifest.1.chunkCount
          (watch watched event).state.view (watch watched event).arrived
          (watch watched event).completions) ↔
        (watched.state.Delivers file sha256 event ∧ watched.state.NotAgain event)) := by
    intro watched event hwatching
    constructor
    · rintro ⟨hdelivers, hprogress⟩
      exact ⟨hdelivers, hwatching.notAgain hfile hdelivers hprogress⟩
    · rintro ⟨hdelivers, hagain⟩
      exact ⟨hdelivers, (hstep watched event hwatching ⟨hdelivers, hagain⟩).progress⟩
  have hmeets := Trace.meets_congr_of_meets hstep hguard (watching_open hopen) events
  rw [Trace.meets_and, Trace.meets_and] at hmeets
  constructor
  · exact fun hprogresses => (hmeets.mp ⟨hdelivered, hprogresses⟩).2
  · exact fun hnever => (hmeets.mpr ⟨hdelivered, hnever⟩).2

end ImageTransferReassembly

/-- An accepted attachment is completed once, whatever the order of its chunks; an image that
is opened is, as long as no second full set of its chunks comes. -/
theorem chunks_complete_once (file : List UInt8) (sha256 : List UInt8 → String) :
    (∀ manifest options now transfer decision time,
      AttachmentTransferState.open .inbound manifest options now = .ok transfer →
      (transfer.accept decision time).2.status = .accepted →
      file.length = manifest.byteCount → manifest.sha256 = sha256 file →
      ∀ events, (transfer.accept decision time).1.Delivered file sha256 events →
        (transfer.accept decision time).1.Progresses file events) ∧
    ∀ peerId manifest options now transfer,
      ImageTransferReassembly.open peerId manifest options now = .ok transfer →
      file.length = manifest.byteCount → manifest.sha256 = sha256 file →
      ∀ events, transfer.Delivered file sha256 events →
        (transfer.Progresses file events ↔ transfer.NeverAgain events) := by
  constructor
  · intro manifest options now transfer decision time hopen haccept hfile hsha256 events hdelivered
    exact AttachmentTransferState.progresses_of_delivered hopen haccept hfile hsha256 hdelivered
  · intro peerId manifest options now transfer hopen hfile hsha256 events hdelivered
    exact ImageTransferReassembly.progresses_iff_neverAgain hopen hfile hsha256 hdelivered

/-- The chunks of an image complete it once, in any order and as often as they come. -/
def ImagesCompleteOnce : Prop :=
  ∀ (file : List UInt8) (sha256 : List UInt8 → String) peerId manifest options now transfer,
    ImageTransferReassembly.open peerId manifest options now = .ok transfer →
    file.length = manifest.byteCount → manifest.sha256 = sha256 file →
    ∀ events, transfer.Delivered file sha256 events → transfer.Progresses file events

section Sample

/-- The only chunk of the image, its digest, and the chunk again. -/
def chunkAgain : List ImageTransferEvent :=
  [.receiveChunk sampleImageChunk (some 2), .resume 0 (some sampleImageManifest.sha256),
    .receiveChunk sampleImageChunk (some 3)]

def sampleSha256 (_ : List UInt8) : String := sampleImageManifest.sha256

theorem phases_chunkAgain :
    (sampleImage.map fun image =>
      ((Trace.run ImageTransferReassembly.next image chunkAgain).phase,
        (Trace.run ImageTransferReassembly.next image chunkAgain).digesting)).toOption =
      some (.completed, [[0]]) := by
  decide +kernel

theorem manifests_chunkAgain :
    (sampleImage.map fun image => (image.manifest.1,
      (Trace.run ImageTransferReassembly.next image (chunkAgain.take 2)).manifest.1)).toOption =
      some (sampleImageManifest, sampleImageManifest) := by
  decide +kernel

theorem delivers_sampleImageChunk {transfer : ImageTransferReassembly} {time : Int}
    (hmanifest : transfer.manifest.1 = sampleImageManifest) (htime : time < 100) :
    transfer.Delivers [0] sampleSha256 (.receiveChunk sampleImageChunk (some time)) := by
  refine ⟨0, time, ?_, Nat.zero_le _, ?_, rfl, ?_⟩
  · rw [hmanifest]
    decide
  · rw [hmanifest]
    decide
  · rw [hmanifest]
    exact htime

theorem delivered_chunkAgain {image : ImageTransferReassembly} (hopen : sampleImage = .ok image) :
    image.Delivered [0] sampleSha256 chunkAgain := by
  have hmanifests := manifests_chunkAgain
  rw [hopen] at hmanifests
  obtain ⟨hfirst, hthird⟩ := Prod.mk.inj (Option.some.inj hmanifests)
  exact ⟨delivers_sampleImageChunk hfirst (by decide), fun _ _ => rfl,
    delivers_sampleImageChunk hthird (by decide), trivial⟩

theorem not_imagesCompleteOnce_chunkAgain : ¬ ImagesCompleteOnce := by
  intro h
  obtain ⟨image, hopen⟩ := exists_sampleImage
  have hprogresses := h [0] sampleSha256 _ _ _ _ image hopen rfl rfl chunkAgain
    (delivered_chunkAgain hopen)
  have hphases := phases_chunkAgain
  rw [hopen] at hphases
  obtain ⟨hphase, hdigesting⟩ := Prod.mk.inj (Option.some.inj hphases)
  cases hprogresses.2.2.1 with
  | gathering hreceiving =>
    have hactive := of_decide_eq_true hreceiving
    rw [show (Trace.run ImageTransferReassembly.next image chunkAgain).phase = .active from
      hactive] at hphase
    cases hphase
  | digesting hreceiving =>
    have hactive := of_decide_eq_true hreceiving
    rw [show (Trace.run ImageTransferReassembly.next image chunkAgain).phase = .active from
      hactive] at hphase
    cases hphase
  | completed _ _ hnone =>
    rw [show (Trace.run ImageTransferReassembly.next image chunkAgain).digesting = [] from
      hnone] at hdigesting
    cases hdigesting

/-- The same of an attachment, which takes no chunk behind its completion. -/
def attachmentChunkAgain : List AttachmentTransferEvent :=
  [.receiveChunk sampleChunk (some 3), .resume 0 (some sampleManifest.sha256),
    .receiveChunk sampleChunk (some 4)]

theorem states_attachmentChunkAgain :
    (sampleTransfer.map fun transfer =>
      ((transfer.accept sampleDecision (some 2)).2.status,
        (transfer.accept sampleDecision (some 2)).1.manifest.1,
        (Trace.run AttachmentTransferState.next (transfer.accept sampleDecision (some 2)).1
          (attachmentChunkAgain.take 2)).manifest.1)).toOption =
      some (.accepted, sampleManifest, sampleManifest) := by
  decide +kernel

theorem delivers_sampleChunk {transfer : AttachmentTransferState} {time : Int}
    (hmanifest : transfer.manifest.1 = sampleManifest) (htime : time < 100) :
    transfer.Delivers [0] sampleSha256 (.receiveChunk sampleChunk (some time)) := by
  refine ⟨0, time, ?_, Nat.zero_le _, ?_, rfl, ?_⟩
  · rw [hmanifest]
    decide
  · rw [hmanifest]
    decide
  · rw [hmanifest]
    exact htime

theorem chunks_complete_once_chunkAgain :
    ∃ transfer image, sampleTransfer = .ok transfer ∧ sampleImage = .ok image ∧
      (transfer.accept sampleDecision (some 2)).1.Progresses [0] attachmentChunkAgain ∧
      (image.Progresses [0] chunkAgain ↔ image.NeverAgain chunkAgain) := by
  obtain ⟨transfer, hopen⟩ := exists_sampleTransfer
  obtain ⟨image, hopenImage⟩ := exists_sampleImage
  have hstates := states_attachmentChunkAgain
  rw [hopen] at hstates
  obtain ⟨haccept, hmanifests⟩ := Prod.mk.inj (Option.some.inj hstates)
  obtain ⟨hfirst, hthird⟩ := Prod.mk.inj hmanifests
  refine ⟨transfer, image, hopen, hopenImage, ?_, ?_⟩
  · refine (chunks_complete_once [0] sampleSha256).1 _ _ _ transfer sampleDecision (some 2) hopen
      haccept rfl rfl attachmentChunkAgain ?_
    exact ⟨delivers_sampleChunk hfirst (by decide), fun _ _ => rfl,
      delivers_sampleChunk hthird (by decide), trivial⟩
  · exact (chunks_complete_once [0] sampleSha256).2 _ _ _ _ image hopenImage rfl rfl chunkAgain
      (delivered_chunkAgain hopenImage)

end Sample

end Branch.Core
