import Branch.Core.TransferCompletion
import Branch.Lib.ExpiringMemory
import Branch.Lib.ListModify

/-!
The transfers of attachments with one peer in one direction. One at a time is active, and those
that are over are remembered for a while.
-/

namespace Branch.Core

open Branch.Lib

structure AttachmentTransferRegistryOptions extends AttachmentTransferOptions where
  maximumRememberedTransfers : Option Nat := none

inductive AttachmentTransferOpenResult where
  | opened (handle : Nat)
  | duplicate (handle : Nat)
  | busy
  | replayed
  | aborted
  deriving DecidableEq

def transferKey (manifest : AttachmentManifest) : String :=
  manifest.transferId ++ ":" ++ manifest.manifestId

/-- `ended` are the transfers that were active before: whoever opened one still has it. -/
structure AttachmentTransferRegistry where
  direction : AttachmentTransferDirection
  options : AttachmentTransferRegistryOptions
  closed : ExpiringMemory String Int := {}
  active : Option AttachmentTransferState := none
  ended : List AttachmentTransferState := []

inductive AttachmentTransferRegistryEvent where
  | open (manifest : AttachmentManifest) (now : CallTime)
  | expire (now : CallTime)
  | call (handle : Nat) (event : AttachmentTransferEvent)

namespace AttachmentTransferRegistry

def new (direction : AttachmentTransferDirection) (options : AttachmentTransferRegistryOptions) :
    Except String AttachmentTransferRegistry := do
  throwIf (¬ validateOpenOptions options.toAttachmentTransferOptions)
    "invalid attachment transfer options"
  let maximumRememberedTransfers := options.maximumRememberedTransfers.getD 16
  throwIf (maximumRememberedTransfers < 1 ∨ 64 < maximumRememberedTransfers)
    "invalid attachment transfer registry options"
  return { direction, options }

variable (registry : AttachmentTransferRegistry)

def maximumRememberedTransfers : Nat := registry.options.maximumRememberedTransfers.getD 16

def close : AttachmentTransferRegistry :=
  match registry.active with
  | none => registry
  | some transfer =>
    if transfer.phase.terminal then
      { registry with
        closed := registry.closed.remember (transferKey transfer.manifest.1)
          transfer.manifest.1.expiresAt
        active := none
        ended := registry.ended ++ [transfer] }
    else registry

def sweep (time : Int) : AttachmentTransferRegistry :=
  let registry := close { registry with closed := registry.closed.forget time }
  { registry with closed := registry.closed.evict registry.maximumRememberedTransfers }

/-- The rest of `open`, once the registry was swept. The handle of a transfer is its place among
all that were opened. -/
def openSwept (manifest : AttachmentManifest) (time : Int) :
    AttachmentTransferRegistry × Except String AttachmentTransferOpenResult :=
  if registry.closed.has (transferKey manifest) then (registry, .ok .replayed)
  else
    match registry.active with
    | some transfer =>
      if transferKey transfer.manifest.1 ≠ transferKey manifest then (registry, .ok .busy)
      else
        match attachmentManifestSigningBytes transfer.manifest.1,
            attachmentManifestSigningBytes manifest with
        | .error message, _ => (registry, .error message)
        | .ok _, .error message => (registry, .error message)
        | .ok opened, .ok offered =>
          if opened = offered then (registry, .ok (.duplicate registry.ended.length))
          else (sweep { registry with active := some transfer.abort.1 } time, .ok .aborted)
    | none =>
      match AttachmentTransferState.open registry.direction manifest
          registry.options.toAttachmentTransferOptions (some time) with
      | .error message => (registry, .error message)
      | .ok transfer =>
        ({ registry with active := some transfer }, .ok (.opened registry.ended.length))

def «open» (manifest : AttachmentManifest) (now : CallTime) :
    AttachmentTransferRegistry × Except String AttachmentTransferOpenResult :=
  match now with
  | none => (registry, .error "invalid attachment transfer time")
  | some time => (registry.sweep time).openSwept manifest time

def expire (now : CallTime) : AttachmentTransferRegistry × Except String Unit :=
  let registry := { registry with active := registry.active.map fun t => (t.expire now).1 }
  match now with
  | none => (registry, .error "invalid attachment transfer time")
  | some time => (registry.sweep time, .ok ())

def call (handle : Nat) (event : AttachmentTransferEvent) : AttachmentTransferRegistry :=
  if handle = registry.ended.length then
    { registry with active := registry.active.map fun t => (t.step event).1 }
  else { registry with ended := registry.ended.modify handle fun t => (t.step event).1 }

def next : AttachmentTransferRegistryEvent → AttachmentTransferRegistry
  | .open manifest now => (registry.open manifest now).1
  | .expire now => (registry.expire now).1
  | .call handle event => registry.call handle event

def transfers : List AttachmentTransferState := registry.ended ++ registry.active.toList

end AttachmentTransferRegistry

def AttachmentTransferRegistryEvent.By (clock : Int) : AttachmentTransferRegistryEvent → Prop
  | .open _ now | .expire now => ∀ time ∈ now, time ≤ clock
  | .call _ _ => True

namespace AttachmentTransferRegistry

variable {registry : AttachmentTransferRegistry} {clock time : Int}

/-- What holds of a registry whose clock has not gone beyond a time. -/
structure Sound (clock : Int) (registry : AttachmentTransferRegistry) : Prop where
  ended : ∀ transfer ∈ registry.ended, transfer.phase.terminal = true
  unclosed : ∀ transfer ∈ registry.active,
    ¬ registry.closed.has (transferKey transfer.manifest.1) = true
  recalls : registry.closed.Recalls registry.maximumRememberedTransfers clock

theorem sound_new {direction : AttachmentTransferDirection}
    {options : AttachmentTransferRegistryOptions} (clock : Int)
    (h : new direction options = .ok registry) : registry.Sound clock := by
  obtain ⟨-, h⟩ := throwIf_bind_eq_ok.mp h
  obtain ⟨-, h⟩ := throwIf_bind_eq_ok.mp h
  cases h
  exact ⟨by simp, by simp, ExpiringMemory.recalls_empty _ _⟩

theorem Sound.forget (h : registry.Sound clock) (htime : time ≤ clock) :
    Sound clock { registry with closed := registry.closed.forget time } where
  ended := h.ended
  unclosed transfer htransfer := ExpiringMemory.not_has_forget (h.unclosed transfer htransfer)
  recalls := ExpiringMemory.recalls_forget h.recalls htime

theorem Sound.close (h : registry.Sound clock) : registry.close.Sound clock := by
  unfold AttachmentTransferRegistry.close
  split
  · exact h
  · rename_i transfer hactive
    split
    · rename_i hterminal
      refine ⟨?_, by simp, ?_⟩
      · intro other hother
        rcases List.mem_append.mp hother with hother | hother
        · exact h.ended other hother
        · rw [List.mem_singleton.mp hother]
          exact hterminal
      · exact ExpiringMemory.recalls_remember h.recalls (h.unclosed transfer hactive) _
    · exact h

theorem Sound.evict (h : registry.Sound clock) :
    Sound clock { registry with
      closed := registry.closed.evict registry.maximumRememberedTransfers } where
  ended := h.ended
  unclosed transfer htransfer := ExpiringMemory.not_has_evict (h.unclosed transfer htransfer)
  recalls := ExpiringMemory.recalls_evict h.recalls

theorem Sound.sweep (h : registry.Sound clock) (htime : time ≤ clock) :
    (registry.sweep time).Sound clock :=
  (h.forget htime).close.evict

theorem Sound.activate (h : registry.Sound clock) {transfer transfer' : AttachmentTransferState}
    (hactive : registry.active = some transfer)
    (hsame : AttachmentTransferState.Same transfer transfer') :
    Sound clock { registry with active := some transfer' } where
  ended := h.ended
  unclosed := by
    rintro other ⟨⟩
    rw [hsame.manifest]
    exact h.unclosed transfer hactive
  recalls := h.recalls

theorem Sound.step_active (h : registry.Sound clock) (event : AttachmentTransferEvent) :
    Sound clock { registry with active := registry.active.map fun t => (t.step event).1 } := by
  cases hactive : registry.active with
  | none =>
    rw [Option.map_none]
    exact ⟨h.ended, by simp, h.recalls⟩
  | some transfer => exact h.activate hactive (AttachmentTransferState.same_step event)

/-- What `open` does to a registry that was swept: nothing, or the active transfer is aborted, or
one is opened. -/
theorem openSwept_cases (registry : AttachmentTransferRegistry) (manifest : AttachmentManifest)
    (time : Int) :
    (∃ result, registry.openSwept manifest time = (registry, result) ∧
      ∀ handle, result ≠ .ok (.opened handle)) ∨
    (∃ transfer, registry.active = some transfer ∧
      registry.openSwept manifest time =
        (sweep { registry with active := some transfer.abort.1 } time, .ok .aborted)) ∨
    ∃ transfer, registry.active = none ∧ ¬ registry.closed.has (transferKey manifest) = true ∧
      transfer.manifest.1 = manifest ∧
      registry.openSwept manifest time = ({ registry with active := some transfer },
        .ok (.opened registry.ended.length)) := by
  unfold openSwept
  split
  · exact .inl ⟨_, rfl, by simp⟩
  · rename_i hclosed
    split
    · rename_i transfer hactive
      split
      · exact .inl ⟨_, rfl, by simp⟩
      · split
        · exact .inl ⟨_, rfl, by simp⟩
        · exact .inl ⟨_, rfl, by simp⟩
        · split
          · exact .inl ⟨_, rfl, by simp⟩
          · exact .inr (.inl ⟨transfer, hactive, rfl⟩)
    · rename_i hactive
      split
      · exact .inl ⟨_, rfl, by simp⟩
      · rename_i transfer hopen
        exact .inr (.inr ⟨transfer, hactive, hclosed, (AttachmentTransferState.open_eq_ok hopen).2.1, rfl⟩)

theorem Sound.openSwept (h : registry.Sound clock) (manifest : AttachmentManifest)
    (htime : time ≤ clock) : (registry.openSwept manifest time).1.Sound clock := by
  rcases openSwept_cases registry manifest time with
    ⟨result, heq, -⟩ | ⟨transfer, hactive, heq⟩ | ⟨transfer, hactive, hclosed, rfl, heq⟩
  · rw [heq]
    exact h
  · rw [heq]
    exact (h.activate hactive (AttachmentTransferState.same_step .abort)).sweep htime
  · rw [heq]
    refine ⟨h.ended, ?_, h.recalls⟩
    rintro other ⟨⟩
    exact hclosed

theorem Sound.next {event : AttachmentTransferRegistryEvent} (h : registry.Sound clock)
    (hby : event.By clock) : (registry.next event).Sound clock := by
  cases event with
  | «open» manifest now =>
    cases now with
    | none => exact h
    | some time => exact (h.sweep (hby time rfl)).openSwept manifest (hby time rfl)
  | expire now =>
    have hactive := h.step_active (.expire now)
    cases now with
    | none => exact hactive
    | some time => exact hactive.sweep (hby time rfl)
  | call handle event =>
    change (registry.call handle event).Sound clock
    unfold call
    split
    · exact h.step_active event
    · refine ⟨?_, h.unclosed, h.recalls⟩
      intro transfer htransfer
      obtain ⟨i, hi⟩ := List.mem_iff_getElem?.mp htransfer
      obtain ⟨other, hother, ⟨-, rfl⟩ | ⟨-, rfl⟩⟩ := of_getElem?_modify hi
      · exact AttachmentTransferState.terminal_step (h.ended other (List.mem_of_getElem? hother))
      · exact h.ended transfer (List.mem_of_getElem? hother)

/-- A registry that calls lead to before the clock goes beyond a time. -/
def ReachedBy (clock : Int) (registry : AttachmentTransferRegistry) : Prop :=
  ∃ direction options start events, new direction options = .ok start ∧
    Trace.Meets next (fun _ event => event.By clock) start events ∧
    Trace.run next start events = registry

theorem sound_of_reachedBy (h : registry.ReachedBy clock) : registry.Sound clock := by
  obtain ⟨direction, options, start, events, hnew, hby, rfl⟩ := h
  exact Trace.invariant_of_meets (fun _ _ h hby => Sound.next h hby) (sound_new clock hnew) hby

theorem length_live_le_one (h : registry.Sound clock) :
    (registry.transfers.filter fun transfer => ¬ transfer.phase.terminal).length ≤ 1 := by
  have hended : registry.ended.filter (fun transfer => ¬ transfer.phase.terminal) = [] := by
    rw [List.filter_eq_nil_iff]
    exact fun transfer htransfer => by simp [h.ended transfer htransfer]
  rw [transfers, List.filter_append, hended, List.nil_append]
  refine (List.length_filter_le _ _).trans ?_
  cases registry.active <;> simp

/-- A key that was closed is opened again when its offer expired or many keys were closed since. -/
theorem recalls_open {manifest : AttachmentManifest} {registry' : AttachmentTransferRegistry}
    {handle : Nat} {past since : List (String × Int)} {expiresAt : Int}
    (h : registry.Sound time)
    (hopen : registry.open manifest (some time) = (registry', .ok (.opened handle)))
    (hhistory : registry'.closed.history = past ++ (transferKey manifest, expiresAt) :: since) :
    expiresAt ≤ time ∨ registry'.maximumRememberedTransfers ≤ ExpiringMemory.distinct since := by
  have hswept := h.sweep le_rfl
  change (registry.sweep time).openSwept manifest time = _ at hopen
  rcases openSwept_cases (registry.sweep time) manifest time with
    ⟨result, heq, hresult⟩ | ⟨transfer, hactive, heq⟩ | ⟨transfer, hactive, hclosed, rfl, heq⟩
  · rw [heq] at hopen
    exact absurd (Prod.mk.inj hopen).2 (hresult handle)
  · rw [heq] at hopen
    cases (Prod.mk.inj hopen).2
  · rw [heq] at hopen
    obtain ⟨rfl, -⟩ := Prod.mk.inj hopen
    exact ExpiringMemory.Recalls.of_not_has hswept.recalls hclosed hhistory

end AttachmentTransferRegistry

end Branch.Core
