import Branch.Core.TransferRegistry

/-!
The images that arrive from all peers. A bounded number is active, one of each peer, and those
that are over are remembered for a while.
-/

namespace Branch.Core

open Branch.Lib

inductive ImageTransferRegistryResult where
  | opened
  | duplicateManifest
  | busy (reason : ImageTransferReassemblyFailure)
  | replayed (reason : ImageTransferReassemblyFailure)
  | ignored (reason : ImageTransferReassemblyFailure)
  deriving DecidableEq

def imageTransferKey (peerId : String) (manifest : ImageTransferManifest) : String :=
  peerId ++ ":" ++ manifest.transferId ++ ":" ++ manifest.manifestId

namespace ImageTransferReassembly

variable (transfer : ImageTransferReassembly)

def key : String := imageTransferKey transfer.peerId transfer.manifest.1

def matchesManifest (manifest : ImageTransferManifest) : Bool :=
  validateImageTransferManifest manifest &&
    manifest.transferId = transfer.manifest.1.transferId &&
    manifest.manifestId = transfer.manifest.1.manifestId &&
    manifest.signature = transfer.manifest.1.signature &&
    manifest.messageId = transfer.manifest.1.messageId &&
    manifest.issuedAt = transfer.manifest.1.issuedAt &&
    manifest.expiresAt = transfer.manifest.1.expiresAt &&
    manifest.mediaType = transfer.manifest.1.mediaType &&
    manifest.width = transfer.manifest.1.width && manifest.height = transfer.manifest.1.height &&
    manifest.byteCount = transfer.manifest.1.byteCount &&
    manifest.chunkBytes = transfer.manifest.1.chunkBytes &&
    manifest.chunkCount = transfer.manifest.1.chunkCount &&
    manifest.sha256 = transfer.manifest.1.sha256 &&
    manifest.caption = transfer.manifest.1.caption &&
    manifest.replyToMessageId = transfer.manifest.1.replyToMessageId

end ImageTransferReassembly

/-- A call of `receiveChunk` that has not returned: without a result it waits for a digest. -/
structure ImageChunkCall where
  place : Nat
  time : Int
  result : Option ImageTransferReassemblyResult

/-- `opened` are all transfers, and `active` has the places of those that are active among them,
by their peers. -/
structure ImageTransferReassemblyRegistry where
  options : ImageTransferReassemblyOptions
  opened : List ImageTransferReassembly := []
  active : InsertionMap String Nat := .empty
  closed : ExpiringMemory String Int := {}
  calls : List ImageChunkCall := []

inductive ImageTransferRegistryEvent where
  | open (peerId : String) (manifest : ImageTransferManifest) (now : CallTime)
  | receiveChunk (peerId : String) (chunk : ImageTransferChunk) (now : CallTime)
  | resume (position : Nat) (digest : Option String)
  | finish (position : Nat)
  | expire (now : CallTime)
  | clear

namespace ImageTransferReassemblyRegistry

def new (options : ImageTransferReassemblyOptions) :
    Except String ImageTransferReassemblyRegistry := do
  throwIf (¬ validateOptions options) "invalid image transfer reassembly options"
  return { options }

variable (registry : ImageTransferReassemblyRegistry)

def maximumActiveTransfers : Nat := registry.options.maximumActiveTransfers.getD 16

def maximumRememberedTransfers : Nat := registry.options.maximumRememberedTransfers.getD 16

def sweepActive (time : Int) (registry : ImageTransferReassemblyRegistry)
    (entry : String × Nat) : ImageTransferReassemblyRegistry :=
  match registry.opened[entry.2]? with
  | none => registry
  | some transfer =>
    let transfer := (transfer.expire (some time)).1
    let registry := { registry with opened := registry.opened.set entry.2 transfer }
    if transfer.terminal then
      { registry with
        active := registry.active.delete entry.1
        closed := registry.closed.remember transfer.key transfer.manifest.1.expiresAt }
    else registry

def sweep (time : Int) : ImageTransferReassemblyRegistry :=
  let registry := registry.active.entries.foldl (sweepActive time)
    { registry with closed := registry.closed.forget time }
  { registry with closed := registry.closed.evict registry.maximumRememberedTransfers }

/-- The rest of `open`, once the registry was swept. -/
def openSwept (peerId : String) (manifest : ImageTransferManifest) (time : Int) :
    ImageTransferReassemblyRegistry × ImageTransferRegistryResult :=
  if ¬ validateImageTransferManifest manifest ∨ ¬ validPeerId peerId then
    (registry, .ignored .invalidManifest)
  else if registry.closed.has (imageTransferKey peerId manifest) then
    (registry, .replayed .noTransfer)
  else
    match registry.active.get? peerId with
    | some place =>
      if registry.opened[place]?.any fun transfer => transfer.matchesManifest manifest then
        (registry, .duplicateManifest)
      else (registry, .busy .noTransfer)
    | none =>
      if registry.maximumActiveTransfers ≤ registry.active.size then (registry, .busy .noTransfer)
      else
        match ImageTransferReassembly.open peerId manifest registry.options (some time) with
        | .error _ => (registry, .ignored .expired)
        | .ok transfer =>
          ({ registry with
              opened := registry.opened ++ [transfer]
              active := registry.active.set peerId registry.opened.length }, .opened)

def «open» (peerId : String) (manifest : ImageTransferManifest) (now : CallTime) :
    ImageTransferReassemblyRegistry × Except String ImageTransferRegistryResult :=
  match now with
  | none => (registry, .error "invalid image transfer time")
  | some time =>
    let (registry, result) := (registry.sweep time).openSwept peerId manifest time
    (registry, .ok result)

/-- The rest of `receiveChunk`, once the registry was swept, as far as it goes before it waits.
It returns at once when there is no transfer. -/
def receiveSwept (peerId : String) (chunk : ImageTransferChunk) (time : Int) :
    ImageTransferReassemblyRegistry × Option ImageTransferRegistryResult :=
  match registry.active.get? peerId with
  | none => (registry, some (.ignored .noTransfer))
  | some place =>
    match registry.opened[place]? with
    | none => (registry, some (.ignored .noTransfer))
    | some transfer =>
      let (transfer, result) := transfer.receiveChunk chunk (some time)
      ({ registry with
          opened := registry.opened.set place transfer
          calls := registry.calls ++ [{ place, time, result }] }, none)

def receiveChunk (peerId : String) (chunk : ImageTransferChunk) (now : CallTime) :
    ImageTransferReassemblyRegistry × Option (Except String ImageTransferRegistryResult) :=
  match now with
  | none => (registry, some (.error "invalid image transfer time"))
  | some time =>
    let (registry, result) := (registry.sweep time).receiveSwept peerId chunk time
    (registry, result.map .ok)

/-- The digest came back for which the call at `position` waits, or it failed. -/
def resume (position : Nat) (digest : Option String) : ImageTransferReassemblyRegistry :=
  match registry.calls[position]? with
  | some { place, time, result := none } =>
    match registry.opened[place]? with
    | none => registry
    | some transfer =>
      -- the digests of a transfer are awaited in the order of the calls
      let awaited := (registry.calls.take position).countP fun call =>
        call.place = place ∧ call.result = none
      let (transfer, result) := transfer.resume awaited digest
      { registry with
        opened := registry.opened.set place transfer
        calls := registry.calls.set position { place, time, result } }
  | _ => registry

/-- The call at `position` has its result, and returns it. -/
def finish (position : Nat) :
    ImageTransferReassemblyRegistry × Option ImageTransferReassemblyResult :=
  match registry.calls[position]? with
  | some { time, result := some result, .. } =>
    (sweep { registry with calls := registry.calls.eraseIdx position } time, some result)
  | _ => (registry, none)

def expire (now : CallTime) : ImageTransferReassemblyRegistry × Except String Unit :=
  match now with
  | none => (registry, .error "invalid image transfer time")
  | some time => (registry.sweep time, .ok ())

/-- Nothing is left of what was remembered, so that its history begins again. -/
def clear : ImageTransferReassemblyRegistry :=
  { registry with active := .empty, closed := {} }

def next : ImageTransferRegistryEvent → ImageTransferReassemblyRegistry
  | .open peerId manifest now => (registry.open peerId manifest now).1
  | .receiveChunk peerId chunk now => (registry.receiveChunk peerId chunk now).1
  | .resume position digest => registry.resume position digest
  | .finish position => (registry.finish position).1
  | .expire now => (registry.expire now).1
  | .clear => registry.clear

end ImageTransferReassemblyRegistry

def ImageTransferRegistryEvent.By (clock : Int) : ImageTransferRegistryEvent → Prop
  | .open _ _ now | .receiveChunk _ _ now | .expire now => ∀ time ∈ now, time ≤ clock
  | .resume _ _ | .finish _ | .clear => True

section Key

theorem length_of_validToken {token : String} {size : Nat} (h : validToken token size = true) :
    size = token.toList.length * 3 / 4 := by
  obtain ⟨bytes, hdecode, rfl⟩ := validToken_iff.mp h
  exact Base64.length_bytes_of_decodeStrict (decodeBase64URL_eq_ok_iff.mp hdecode).2

theorem tokens_of_valid {manifest : ImageTransferManifest}
    (h : validateImageTransferManifest manifest = true) :
    validToken manifest.transferId 16 = true ∧ validToken manifest.manifestId 32 = true := by
  simp only [validateImageTransferManifest, Bool.and_eq_true] at h
  simp only [h, and_self]

/-- The identifiers of a valid manifest are of known lengths, so that the key tells the peer. -/
theorem peerId_eq_of_imageTransferKey_eq {peerId peerId' : String}
    {manifest manifest' : ImageTransferManifest}
    (hvalid : validateImageTransferManifest manifest = true)
    (hvalid' : validateImageTransferManifest manifest' = true)
    (h : imageTransferKey peerId manifest = imageTransferKey peerId' manifest') :
    peerId = peerId' := by
  obtain ⟨htransfer, hmanifest⟩ := tokens_of_valid hvalid
  obtain ⟨htransfer', hmanifest'⟩ := tokens_of_valid hvalid'
  have htransfer := length_of_validToken htransfer
  have hmanifest := length_of_validToken hmanifest
  have htransfer' := length_of_validToken htransfer'
  have hmanifest' := length_of_validToken hmanifest'
  have hchars := congrArg String.toList h
  simp only [imageTransferKey, String.toList_append, List.append_assoc] at hchars
  have hlength : (":".toList ++ (manifest.transferId.toList ++
        (":".toList ++ manifest.manifestId.toList))).length =
      (":".toList ++ (manifest'.transferId.toList ++
        (":".toList ++ manifest'.manifestId.toList))).length := by
    simp only [List.length_append]
    omega
  exact String.toList_injective (List.append_inj' hchars hlength).1

end Key

namespace ImageTransferReassembly

variable {transfer transfer' : ImageTransferReassembly}

structure Same (transfer transfer' : ImageTransferReassembly) : Prop where
  peerId : transfer'.peerId = transfer.peerId
  manifest : transfer'.manifest = transfer.manifest

theorem Same.key (h : Same transfer transfer') : transfer'.key = transfer.key := by
  rw [ImageTransferReassembly.key, ImageTransferReassembly.key, h.peerId, h.manifest]

theorem same_abortWith (reason : ImageTransferReassemblyFailure) :
    Same transfer (transfer.abortWith reason).1 := by
  unfold abortWith
  dsimp only
  split
  · exact ⟨rfl, rfl⟩
  · exact ⟨rfl, rfl⟩

theorem same_expireAt (now : CallTime) : Same transfer (transfer.expireAt now).1 := by
  unfold expireAt
  split
  · dsimp only
    split
    · exact ⟨rfl, rfl⟩
    · exact ⟨rfl, rfl⟩
  · exact ⟨rfl, rfl⟩

theorem same_expire (now : CallTime) : Same transfer (transfer.expire now).1 := same_expireAt now

theorem same_receiveChunk (chunk : ImageTransferChunk) (now : CallTime) :
    Same transfer (transfer.receiveChunk chunk now).1 := by
  unfold receiveChunk
  rcases heq : transfer.expireAt now with ⟨next, expired⟩
  have hexpire : Same transfer next := by
    have h := @same_expireAt transfer now
    rw [heq] at h
    exact h
  have hsame : ∀ {transfer' : ImageTransferReassembly}, Same next transfer' →
      Same transfer transfer' :=
    fun h => ⟨h.peerId.trans hexpire.peerId, h.manifest.trans hexpire.manifest⟩
  dsimp only
  split
  · exact hexpire
  · split
    · exact hsame (same_abortWith .invalidChunk)
    · split
      · exact hexpire
      · exact hsame (same_abortWith .conflictingDuplicate)
      · exact hsame (same_abortWith .reorderLimit)
      · exact ⟨hexpire.peerId, hexpire.manifest⟩
      · rename_i received _
        have haborted : Same { next with received } _ := same_abortWith .invalidChunk
        exact hsame ⟨haborted.peerId, haborted.manifest⟩
      · exact ⟨hexpire.peerId, hexpire.manifest⟩

theorem same_resume (position : Nat) (digest : Option String) :
    Same transfer (transfer.resume position digest).1 := by
  unfold resume
  split
  · exact ⟨rfl, rfl⟩
  · have haborted : ∀ reason, Same transfer (returned (abortWith
        { transfer with digesting := transfer.digesting.eraseIdx position } reason)).1 := by
      intro reason
      have h : Same { transfer with digesting := transfer.digesting.eraseIdx position } _ :=
        same_abortWith reason
      exact ⟨h.peerId, h.manifest⟩
    split
    · exact haborted _
    · dsimp only
      split
      · exact haborted _
      · exact ⟨rfl, rfl⟩

theorem peerId_open {peerId : String} {manifest : ImageTransferManifest}
    {options : ImageTransferReassemblyOptions} {now : CallTime}
    (h : ImageTransferReassembly.open peerId manifest options now = .ok transfer) :
    transfer.peerId = peerId := by
  obtain ⟨-, h⟩ := throwIf_bind_eq_ok.mp h
  split at h
  · simp only [throwIf_bind_eq_ok] at h
    obtain ⟨-, -, -, h⟩ := h
    cases h
    rfl
  · cases h

end ImageTransferReassembly

namespace ImageTransferReassemblyRegistry

variable {registry : ImageTransferReassemblyRegistry} {clock time : Int}

/-- What holds of a registry whose clock has not gone beyond a time. -/
structure Sound (clock : Int) (registry : ImageTransferReassemblyRegistry) : Prop where
  active : ∀ peerId place, registry.active.get? peerId = some place →
    ∃ transfer, registry.opened[place]? = some transfer ∧ transfer.peerId = peerId ∧
      ¬ registry.closed.has transfer.key = true
  size : registry.active.size ≤ registry.maximumActiveTransfers
  recalls : registry.closed.Recalls registry.maximumRememberedTransfers clock
  calls : ∀ call ∈ registry.calls, call.time ≤ clock

theorem sound_new {options : ImageTransferReassemblyOptions} (clock : Int)
    (h : new options = .ok registry) : registry.Sound clock := by
  obtain ⟨-, h⟩ := throwIf_bind_eq_ok.mp h
  cases h
  exact ⟨fun _ _ h => (by cases h), Nat.zero_le _, ExpiringMemory.recalls_empty _ _, by simp⟩

theorem Sound.set {place : Nat} {transfer transfer' : ImageTransferReassembly}
    (h : registry.Sound clock) (hget : registry.opened[place]? = some transfer)
    (hsame : ImageTransferReassembly.Same transfer transfer') :
    Sound clock { registry with opened := registry.opened.set place transfer' } where
  active peerId place' hactive := by
    obtain ⟨other, hother, hpeer, hclosed⟩ := h.active peerId place' hactive
    by_cases hplace : place = place'
    · subst hplace
      obtain rfl : transfer = other := Option.some.inj (hget.symm.trans hother)
      refine ⟨transfer', ?_, hsame.peerId.trans hpeer, ?_⟩
      · exact List.getElem?_set_self (List.getElem?_eq_some_iff.mp hget).1
      · rw [hsame.key]
        exact hclosed
    · exact ⟨other, (List.getElem?_set_ne hplace).trans hother, hpeer, hclosed⟩
  size := h.size
  recalls := h.recalls
  calls := h.calls

theorem Sound.close {peerId : String} {place : Nat} {transfer : ImageTransferReassembly}
    (h : registry.Sound clock) (hactive : registry.active.get? peerId = some place)
    (hget : registry.opened[place]? = some transfer) (expiresAt : Int) :
    Sound clock { registry with
      active := registry.active.delete peerId
      closed := registry.closed.remember transfer.key expiresAt } := by
  obtain ⟨_, hget', hpeer, hclosed⟩ := h.active peerId place hactive
  obtain rfl := Option.some.inj (hget.symm.trans hget')
  refine ⟨?_, (InsertionMap.size_delete_le _ _).trans h.size,
    ExpiringMemory.recalls_remember h.recalls hclosed expiresAt, h.calls⟩
  intro peerId' place' hactive'
  obtain ⟨hne, hactive'⟩ := InsertionMap.get?_delete_eq_some_iff.mp hactive'
  obtain ⟨other, hother, hpeer', hclosed'⟩ := h.active peerId' place' hactive'
  refine ⟨other, hother, hpeer', fun hhas => ?_⟩
  rcases ExpiringMemory.has_remember.mp hhas with hkey | hhas
  · have hpeers := peerId_eq_of_imageTransferKey_eq other.manifest.2 transfer.manifest.2 hkey
    rw [hpeer, hpeer'] at hpeers
    exact hne hpeers
  · exact hclosed' hhas

theorem Sound.sweepActive {entry : String × Nat} (h : registry.Sound clock)
    (hactive : registry.active.get? entry.1 = some entry.2) :
    (sweepActive time registry entry).Sound clock := by
  obtain ⟨transfer, hget, -, -⟩ := h.active entry.1 entry.2 hactive
  unfold ImageTransferReassemblyRegistry.sweepActive
  rw [hget]
  have hset := h.set hget (ImageTransferReassembly.same_expire (some time))
  dsimp only
  split
  · exact hset.close hactive
      (List.getElem?_set_self (List.getElem?_eq_some_iff.mp hget).1) _
  · exact hset

theorem get?_active_sweepActive {entry : String × Nat} {peerId : String} (h : peerId ≠ entry.1) :
    (sweepActive time registry entry).active.get? peerId = registry.active.get? peerId := by
  unfold sweepActive
  split
  · rfl
  · dsimp only
    split
    · refine Option.ext fun place => ?_
      rw [InsertionMap.get?_delete_eq_some_iff]
      exact and_iff_right h
    · rfl

theorem Sound.foldl_sweepActive {entries : List (String × Nat)} (h : registry.Sound clock)
    (hnodup : (entries.map Prod.fst).Nodup)
    (hactive : ∀ entry ∈ entries, registry.active.get? entry.1 = some entry.2) :
    (entries.foldl (ImageTransferReassemblyRegistry.sweepActive time) registry).Sound clock := by
  induction entries generalizing registry with
  | nil => exact h
  | cons entry entries ih =>
    rw [List.map_cons, List.nodup_cons] at hnodup
    refine ih (h.sweepActive (hactive entry List.mem_cons_self)) hnodup.2 ?_
    intro other hother
    have hne : other.1 ≠ entry.1 := fun heq => hnodup.1 (heq ▸ List.mem_map_of_mem hother)
    rw [get?_active_sweepActive hne]
    exact hactive other (List.mem_cons_of_mem entry hother)

theorem Sound.sweep (h : registry.Sound clock) (htime : time ≤ clock) :
    (registry.sweep time).Sound clock := by
  have hforget : Sound clock { registry with closed := registry.closed.forget time } := by
    refine ⟨fun peerId place hactive => ?_, h.size, ExpiringMemory.recalls_forget h.recalls htime,
      h.calls⟩
    obtain ⟨transfer, hget, hpeer, hclosed⟩ := h.active peerId place hactive
    exact ⟨transfer, hget, hpeer, ExpiringMemory.not_has_forget hclosed⟩
  have hfold := @foldl_sweepActive _ clock time registry.active.entries hforget
    registry.active.nodup fun entry hentry => InsertionMap.get?_eq_some_iff.mpr hentry
  refine ⟨fun peerId place hactive => ?_, hfold.size, ExpiringMemory.recalls_evict hfold.recalls,
    hfold.calls⟩
  obtain ⟨transfer, hget, hpeer, hclosed⟩ := hfold.active peerId place hactive
  exact ⟨transfer, hget, hpeer, ExpiringMemory.not_has_evict hclosed⟩

/-- What `open` does to a registry that was swept: nothing, or a transfer is opened. -/
theorem openSwept_cases (registry : ImageTransferReassemblyRegistry) (peerId : String)
    (manifest : ImageTransferManifest) (time : Int) :
    (∃ result, registry.openSwept peerId manifest time = (registry, result) ∧
      result ≠ .opened) ∨
    ∃ transfer, ¬ registry.closed.has transfer.key = true ∧
      transfer.peerId = peerId ∧ transfer.manifest.1 = manifest ∧
      registry.active.get? peerId = none ∧
      registry.active.size < registry.maximumActiveTransfers ∧
      registry.openSwept peerId manifest time =
        ({ registry with
            opened := registry.opened ++ [transfer]
            active := registry.active.set peerId registry.opened.length }, .opened) := by
  unfold openSwept
  split
  · exact .inl ⟨_, rfl, by simp⟩
  · split
    · exact .inl ⟨_, rfl, by simp⟩
    · rename_i hclosed
      split
      · split
        · exact .inl ⟨_, rfl, by simp⟩
        · exact .inl ⟨_, rfl, by simp⟩
      · rename_i hnone
        split
        · exact .inl ⟨_, rfl, by simp⟩
        · rename_i hsize
          split
          · exact .inl ⟨_, rfl, by simp⟩
          · rename_i transfer hopen
            obtain rfl := ImageTransferReassembly.peerId_open hopen
            obtain ⟨rfl, -⟩ := ImageTransferReassembly.open_eq_ok hopen
            exact .inr ⟨transfer, hclosed, rfl, rfl, hnone, Nat.lt_of_not_le hsize, rfl⟩

theorem Sound.openSwept (h : registry.Sound clock) (peerId : String)
    (manifest : ImageTransferManifest) (time : Int) :
    (registry.openSwept peerId manifest time).1.Sound clock := by
  rcases openSwept_cases registry peerId manifest time with
    ⟨result, heq, -⟩ | ⟨transfer, hclosed, hpeer, -, -, hsize, heq⟩
  · rw [heq]
    exact h
  · rw [heq]
    refine ⟨?_, (InsertionMap.size_set_le _ _ _).trans hsize, h.recalls, h.calls⟩
    intro peerId' place hactive
    rw [InsertionMap.get?_eq_some_iff] at hactive
    rcases InsertionMap.mem_entries_set hactive with ⟨rfl, rfl⟩ | hactive
    · exact ⟨transfer, List.getElem?_concat_length, hpeer, hclosed⟩
    · obtain ⟨other, hget, hrest⟩ :=
        h.active peerId' place (InsertionMap.get?_eq_some_iff.mpr hactive)
      have hlt := (List.getElem?_eq_some_iff.mp hget).1
      exact ⟨other, (List.getElem?_append_left hlt).trans hget, hrest⟩

theorem Sound.receiveSwept (h : registry.Sound clock) (peerId : String)
    (chunk : ImageTransferChunk) (htime : time ≤ clock) :
    (registry.receiveSwept peerId chunk time).1.Sound clock := by
  unfold ImageTransferReassemblyRegistry.receiveSwept
  split
  · exact h
  · split
    · exact h
    · rename_i transfer hget
      have hset := h.set hget (ImageTransferReassembly.same_receiveChunk chunk (some time))
      refine ⟨hset.active, hset.size, hset.recalls, ?_⟩
      intro call hcall
      rcases List.mem_append.mp hcall with hcall | hcall
      · exact h.calls call hcall
      · rw [List.mem_singleton.mp hcall]
        exact htime

theorem Sound.resume (h : registry.Sound clock) (position : Nat) (digest : Option String) :
    (registry.resume position digest).Sound clock := by
  unfold ImageTransferReassemblyRegistry.resume
  split
  · rename_i place time hcall
    split
    · exact h
    · rename_i transfer hget
      have hset := fun awaited => h.set hget (ImageTransferReassembly.same_resume awaited digest)
      refine ⟨(hset _).active, h.size, h.recalls, ?_⟩
      have htime := h.calls _ (List.mem_of_getElem? hcall)
      intro call hmem
      rcases List.mem_or_eq_of_mem_set hmem with hmem | rfl
      · exact h.calls call hmem
      · exact htime
  · exact h

theorem Sound.finish (h : registry.Sound clock) (position : Nat) :
    (registry.finish position).1.Sound clock := by
  unfold ImageTransferReassemblyRegistry.finish
  split
  · rename_i time result hcall
    have herase : Sound clock { registry with calls := registry.calls.eraseIdx position } :=
      ⟨h.active, h.size, h.recalls, fun call hmem => h.calls call (List.mem_of_mem_eraseIdx hmem)⟩
    exact herase.sweep (h.calls _ (List.mem_of_getElem? hcall))
  · exact h

theorem Sound.next {event : ImageTransferRegistryEvent} (h : registry.Sound clock)
    (hby : event.By clock) : (registry.next event).Sound clock := by
  cases event with
  | «open» peerId manifest now =>
    cases now with
    | none => exact h
    | some time => exact (h.sweep (hby time rfl)).openSwept peerId manifest time
  | receiveChunk peerId chunk now =>
    cases now with
    | none => exact h
    | some time => exact (h.sweep (hby time rfl)).receiveSwept peerId chunk (hby time rfl)
  | resume position digest => exact h.resume position digest
  | finish position => exact h.finish position
  | expire now =>
    cases now with
    | none => exact h
    | some time => exact h.sweep (hby time rfl)
  | clear =>
    exact ⟨fun _ _ h => (by cases h), Nat.zero_le _, ExpiringMemory.recalls_empty _ _, h.calls⟩

/-- A registry that calls lead to before the clock goes beyond a time. -/
def ReachedBy (clock : Int) (registry : ImageTransferReassemblyRegistry) : Prop :=
  ∃ options start events, new options = .ok start ∧
    Trace.Meets next (fun _ event => event.By clock) start events ∧
    Trace.run next start events = registry

theorem sound_of_reachedBy (h : registry.ReachedBy clock) : registry.Sound clock := by
  obtain ⟨options, start, events, hnew, hby, rfl⟩ := h
  exact Trace.invariant_of_meets (fun _ _ h hby => Sound.next h hby) (sound_new clock hnew) hby

/-- A key that was closed is opened again when its offer expired or many keys were closed since. -/
theorem recalls_open {peerId : String} {manifest : ImageTransferManifest}
    {registry' : ImageTransferReassemblyRegistry} {past since : List (String × Int)}
    {expiresAt : Int} (h : registry.Sound time)
    (hopen : registry.open peerId manifest (some time) = (registry', .ok .opened))
    (hhistory : registry'.closed.history =
      past ++ (imageTransferKey peerId manifest, expiresAt) :: since) :
    expiresAt ≤ time ∨ registry'.maximumRememberedTransfers ≤ ExpiringMemory.distinct since := by
  have hswept := h.sweep le_rfl
  have hunfold : registry.open peerId manifest (some time) =
      (((registry.sweep time).openSwept peerId manifest time).1,
        .ok ((registry.sweep time).openSwept peerId manifest time).2) := rfl
  rw [hunfold] at hopen
  rcases openSwept_cases (registry.sweep time) peerId manifest time with
    ⟨result, heq, hne⟩ | ⟨transfer, hclosed, rfl, rfl, -, -, heq⟩
  · rw [heq] at hopen
    exact absurd (Except.ok.inj (Prod.mk.inj hopen).2) hne
  · rw [heq] at hopen
    obtain ⟨rfl, -⟩ := Prod.mk.inj hopen
    exact ExpiringMemory.Recalls.of_not_has hswept.recalls hclosed hhistory

end ImageTransferReassemblyRegistry

/-- No more than one transfer is live, and a key that was closed is opened again before its
offer expires only when `enough` keys were closed since, for what the registry remembers. -/
structure AttachmentTransferRegistry.Bounded (enough : Nat → Nat → Prop) (clock : Int)
    (registry : AttachmentTransferRegistry) : Prop where
  live : (registry.transfers.filter fun transfer => ¬ transfer.phase.terminal).length ≤ 1
  reopened : ∀ manifest registry' handle,
    registry.open manifest (some clock) = (registry', .ok (.opened handle)) →
      ∀ past expiresAt since,
        registry'.closed.history = past ++ (transferKey manifest, expiresAt) :: since →
          expiresAt ≤ clock ∨
            enough registry'.maximumRememberedTransfers (ExpiringMemory.distinct since)

/-- The same for images, as many of which are live as the registry allows. -/
structure ImageTransferReassemblyRegistry.Bounded (enough : Nat → Nat → Prop) (clock : Int)
    (registry : ImageTransferReassemblyRegistry) : Prop where
  live : registry.active.size ≤ registry.maximumActiveTransfers
  reopened : ∀ peerId manifest registry',
    registry.open peerId manifest (some clock) = (registry', .ok .opened) →
      ∀ past expiresAt since,
        registry'.closed.history = past ++ (imageTransferKey peerId manifest, expiresAt) :: since →
          expiresAt ≤ clock ∨
            enough registry'.maximumRememberedTransfers (ExpiringMemory.distinct since)

/-- Whatever calls lead to a registry before the clock goes beyond a time, it is bounded at that
time. -/
def TransferRegistriesBounded (enough : Nat → Nat → Prop) : Prop :=
  (∀ clock registry, AttachmentTransferRegistry.ReachedBy clock registry →
    registry.Bounded enough clock) ∧
  ∀ clock registry, ImageTransferReassemblyRegistry.ReachedBy clock registry →
    registry.Bounded enough clock

theorem transferRegistriesBounded_le : TransferRegistriesBounded fun maximum closed =>
    maximum ≤ closed := by
  constructor
  · intro clock registry h
    have hsound := AttachmentTransferRegistry.sound_of_reachedBy h
    exact ⟨AttachmentTransferRegistry.length_live_le_one hsound,
      fun _ _ _ hopen _ _ _ => AttachmentTransferRegistry.recalls_open hsound hopen⟩
  · intro clock registry h
    have hsound := ImageTransferReassemblyRegistry.sound_of_reachedBy h
    exact ⟨hsound.size,
      fun _ _ _ hopen _ _ _ => ImageTransferReassemblyRegistry.recalls_open hsound hopen⟩

section Sample

def otherManifest : AttachmentManifest :=
  { sampleManifest with transferId := "BAAAAAAAAAAAAAAAAAAAAA" }

def forgetful : AttachmentTransferRegistry where
  direction := .inbound
  options := { maximumRememberedTransfers := some 1 }

def abortedInTurn : List AttachmentTransferRegistryEvent :=
  [.open sampleManifest (some 1), .call 0 .abort, .open otherManifest (some 2), .call 1 .abort]

theorem new_forgetful : AttachmentTransferRegistry.new .inbound
    { maximumRememberedTransfers := some 1 } = .ok forgetful := rfl

theorem meets_abortedInTurn : Trace.Meets AttachmentTransferRegistry.next
    (fun _ event => event.By 3) forgetful abortedInTurn := by
  refine ⟨?_, trivial, ?_, trivial, trivial⟩ <;> rintro time ⟨⟩ <;> decide

theorem open_abortedInTurn :
    let answer := (Trace.run AttachmentTransferRegistry.next forgetful abortedInTurn).open
      sampleManifest (some 3)
    answer.2.toOption = some (.opened 2) ∧ answer.1.maximumRememberedTransfers = 1 ∧
      answer.1.closed.history =
        [(transferKey sampleManifest, 100), (transferKey otherManifest, 100)] := by
  decide +kernel

theorem not_bounded_of_displaced {registry : AttachmentTransferRegistry}
    {manifest : AttachmentManifest} {clock expiresAt : Int} {handle : Nat}
    {since : List (String × Int)}
    (hopened : (registry.open manifest (some clock)).2.toOption = some (.opened handle))
    (hhistory : (registry.open manifest (some clock)).1.closed.history =
      (transferKey manifest, expiresAt) :: since)
    (hmany : ExpiringMemory.distinct since ≤
      (registry.open manifest (some clock)).1.maximumRememberedTransfers)
    (hlive : clock < expiresAt) :
    ¬ registry.Bounded (fun maximum closed => maximum < closed) clock := by
  intro h
  rcases hanswer : registry.open manifest (some clock) with ⟨registry', result⟩
  rw [hanswer] at hopened hhistory hmany
  have hresult : result = .ok (.opened handle) := toOption_eq_some_iff.mp hopened
  rw [hresult] at hanswer
  rcases h.reopened manifest registry' handle hanswer [] expiresAt since hhistory with hle | hlt
  · omega
  · exact absurd hlt (Nat.not_lt_of_le hmany)

theorem not_transferRegistriesBounded_lt : ¬ TransferRegistriesBounded fun maximum closed =>
    maximum < closed := by
  intro h
  obtain ⟨hopened, hmaximum, hhistory⟩ := open_abortedInTurn
  refine not_bounded_of_displaced hopened hhistory ?_ (by decide) (h.1 3 _
    ⟨_, _, forgetful, abortedInTurn, new_forgetful, meets_abortedInTurn, rfl⟩)
  rw [hmaximum]
  decide +kernel

end Sample

end Branch.Core
