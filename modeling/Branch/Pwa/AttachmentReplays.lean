import Branch.Core.TransferCompletion
import Branch.Lib.ExpiringMemory
import Branch.Pwa.AttachmentChanges

/-!
What a controller remembers of the transfers that peers offered. A registry remembers those that
are over, and a registry is itself forgotten for newer ones.
-/

namespace Branch.Pwa

open Branch.Core Branch.Lib

def LiveTransfer.entry (t : LiveTransfer) : String × Nat :=
  (transferKey t.manifest, t.manifest.expiresAt)

def LiveTransfer.filing (t : LiveTransfer) : Nat × String × Nat := (t.registry, t.entry)

def AttachmentTransferRegistry.owner (registry : AttachmentTransferRegistry) :
    String × AttachmentDirection :=
  (registry.peerId, registry.direction)

def AttachmentTransferRegistry.memory (registry : AttachmentTransferRegistry)
    (history : List (String × Nat)) : ExpiringMemory String Nat where
  held := registry.closed
  history := history

namespace AttachmentController

section Property

/-- The offer that a step hands to the receiver of offers, its peer and the time. -/
def presented (s : AttachmentController) :
    AttachmentEvent → Option (String × AttachmentManifest × Nat)
  | .manifestVerified i verified now _ =>
    match s.operations[i]? with
    | some (.verifyingManifest peerId manifest) =>
      if ¬ verified ∨ s.inbound.has peerId ∨ maximumActiveDirections ≤ s.activeDirectionCount then
        none
      else
        let (s, g) := (s.resume i .finished).registryOf peerId .inbound
        match s.openRegistry g manifest now with
        | (_, .opened transfer) => some (peerId, transfer.manifest.1, now)
        | _ => none
    | _ => none
  | _ => none

/-- The transfers from a peer that were opened after this one. -/
def laterTransfers (s : AttachmentController) (r : Nat) (peerId : String) : Nat :=
  ((s.live.drop (r + 1)).filter fun t => t.direction = .inbound ∧ t.peerId = peerId).length

/-- The registries of inbound transfers that were made after this one. -/
def laterRegistries (s : AttachmentController) (g : Nat) : Nat :=
  ((s.registries.drop (g + 1)).filter fun registry => registry.direction = .inbound).length

end Property

section Invariant

/-- The transfers of a registry, from the first to the last. -/
def entries (filings : List (Nat × String × Nat)) (g : Nat) : List (String × Nat) :=
  (filings.filter fun filing => filing.1 = g).map Prod.snd

/-- A registry remembers all its transfers but the active one, which is the last. -/
def Filed (clock : Nat) (filings : List (Nat × String × Nat)) (g : Nat)
    (registry : AttachmentTransferRegistry) : Prop :=
  match registry.active with
  | none => (registry.memory (entries filings g)).Recalls maximumRememberedTransfers clock
  | some r => ∃ past entry, filings[r]? = some (g, entry) ∧
      entries filings g = past ++ [entry] ∧ ¬ registry.closed.has entry.1 = true ∧
      (registry.memory past).Recalls maximumRememberedTransfers clock

/-- The inbound registries in the order in which they were made, from the `k`-th on. -/
def inbounds (k : Nat) (owners : List (String × AttachmentDirection)) : List (String × Nat) :=
  (owners.zipIdx k).filterMap fun e => if e.1.2 = .inbound then some (e.1.1, e.2) else none

def registryMemory (s : AttachmentController) : ExpiringMemory String Nat where
  held := s.inboundRegistries
  history := inbounds 0 (s.registries.map AttachmentTransferRegistry.owner)

/-- What is remembered of the transfers from peers, and which registries are. -/
structure Replays (clock : Nat) (s : AttachmentController) : Prop where
  filed : ∀ {g : Nat} {registry : AttachmentTransferRegistry}, s.registries[g]? = some registry →
    registry.direction = .inbound → Filed clock (s.live.map LiveTransfer.filing) g registry
  known : s.registryMemory.RecallsUnless maximumRememberedPeers fun _ => False

variable {s s' s'' : AttachmentController} {clock now g r i : Nat} {peerId : String}
  {direction : AttachmentDirection} {t : LiveTransfer} {f : LiveTransfer → LiveTransfer}
  {registry : AttachmentTransferRegistry}

theorem replays_init (clock : Nat) : Replays clock {} where
  filed hget := by cases hget
  known := ExpiringMemory.recallsUnless_empty _ _

theorem Replays.of_eq (h : Replays clock s)
    (hlive : s'.live.map LiveTransfer.filing = s.live.map LiveTransfer.filing)
    (hregistries : s'.registries = s.registries)
    (hinbound : s'.inboundRegistries = s.inboundRegistries) : Replays clock s' where
  filed := by
    intro g registry hget hdirection
    rw [hregistries] at hget
    rw [hlive]
    exact h.filed hget hdirection
  known := by
    unfold registryMemory
    rw [hinbound, hregistries]
    exact h.known

theorem Replays.start (h : Replays clock s) (operation : AttachmentOperation) :
    Replays clock (s.start operation) :=
  h.of_eq rfl rfl rfl

theorem Replays.resume (h : Replays clock s) (i : Nat) (operation : AttachmentOperation) :
    Replays clock (s.resume i operation) :=
  h.of_eq rfl rfl rfl

theorem Replays.update (h : Replays clock s)
    (hf : ∀ t, s.live[r]? = some t → (f t).filing = t.filing) : Replays clock (s.update r f) :=
  h.of_eq (map_modify_eq_map hf) rfl rfl

theorem Replays.updateWindow (h : Replays clock s) (r : Nat)
    (f : OutboundWindow → OutboundWindow) : Replays clock (s.updateWindow r f) :=
  h.update fun _ _ => rfl

theorem filing_of_same {transfer : AttachmentTransferState}
    (hsame : AttachmentTransferState.Same t.transfer transfer) :
    ({ t with transfer } : LiveTransfer).filing = t.filing := by
  unfold LiveTransfer.filing LiveTransfer.entry LiveTransfer.manifest
  rw [hsame.manifest]

end Invariant

section Sweep

variable {s s' : AttachmentController} {clock now g r : Nat} {t : LiveTransfer}
  {registry : AttachmentTransferRegistry}

theorem filed_swept (h : Filed clock (s.live.map LiveTransfer.filing) g registry)
    (hnow : now ≤ clock) :
    Filed clock (s.live.map LiveTransfer.filing) g (s.swept now registry) := by
  unfold Filed at h
  cases hactive : registry.active with
  | none =>
    rw [hactive] at h
    have hforget := ExpiringMemory.recalls_forget h hnow
    have hevict := ExpiringMemory.recalls_evict hforget
    unfold swept
    simp only [hactive, Option.bind_none]
    exact hevict
  | some r =>
    rw [hactive] at h
    obtain ⟨past, entry, hfiling, hentries, hnew, hrecalls⟩ := h
    have hforget := ExpiringMemory.recalls_forget hrecalls hnow
    have hnew' : ¬ ((registry.memory past).forget now).has entry.1 = true :=
      ExpiringMemory.not_has_forget hnew
    rw [List.getElem?_map] at hfiling
    obtain ⟨t, hget, hfiling⟩ := Option.map_eq_some_iff.mp hfiling
    obtain ⟨-, rfl⟩ := Prod.mk.inj hfiling
    unfold swept
    simp only [hactive, Option.bind_some, hget]
    split
    · -- the active transfer is over and is remembered behind the others
      have hremember := ExpiringMemory.recalls_remember hforget hnew' t.manifest.expiresAt
      have hevict := ExpiringMemory.recalls_evict hremember
      unfold Filed
      dsimp only
      rw [hentries]
      exact hevict
    · have hevict : (((registry.memory past).forget now).evict
          maximumRememberedTransfers).Recalls maximumRememberedTransfers clock :=
        ExpiringMemory.recalls_evict hforget
      unfold Filed
      dsimp only
      have hfiling' : (s.live.map LiveTransfer.filing)[r]? = some (g, t.entry) := by
        rw [List.getElem?_map, hget, Option.map_some, hfiling]
      have hnew'' : ¬ (((registry.memory past).forget now).evict
          maximumRememberedTransfers).has t.entry.1 = true := ExpiringMemory.not_has_evict hnew'
      exact ⟨past, t.entry, hfiling', hentries, hnew'', hevict⟩

theorem owner_swept (s : AttachmentController) (now : Nat) (registry : AttachmentTransferRegistry) :
    (s.swept now registry).owner = registry.owner := by
  obtain ⟨hpeerId, hdirection, -⟩ := swept_cases s now registry
  unfold AttachmentTransferRegistry.owner
  rw [hpeerId, hdirection]

theorem Replays.sweep (h : Replays clock s)
    (hnow : ∀ registry, s.registries[g]? = some registry → registry.direction = .inbound →
      now ≤ clock) : Replays clock (s.sweep g now) where
  filed := by
    intro i registry hget hdirection
    obtain ⟨registry', hget', ⟨rfl, rfl⟩ | ⟨-, rfl⟩⟩ := of_getElem?_modify hget
    · obtain ⟨-, hsame, -⟩ := swept_cases s now registry'
      rw [hsame] at hdirection
      exact filed_swept (h.filed hget' hdirection) (hnow registry' hget' hdirection)
    · exact h.filed hget' hdirection
  known := by
    have howners : (s.sweep g now).registries.map AttachmentTransferRegistry.owner =
        s.registries.map AttachmentTransferRegistry.owner :=
      map_modify_eq_map fun registry _ => owner_swept s now registry
    unfold registryMemory
    rw [howners]
    exact h.known

theorem Replays.expireRegistry (h : Replays clock s) (hnow : now ≤ clock) :
    Replays clock (s.expireRegistry g now) := by
  unfold AttachmentController.expireRegistry
  split
  · exact h.sweep fun _ _ _ => hnow
  · refine Replays.sweep (h.update fun t _ => ?_) fun _ _ _ => hnow
    exact filing_of_same (AttachmentTransferState.same_step (.expire (some now)))

theorem Replays.endTransfer (h : Replays clock s) (direction : AttachmentDirection)
    (peerId : String) (reason : AttachmentControllerReason) (hnow : now ≤ clock) :
    Replays clock (s.endTransfer direction peerId reason now).1 := by
  cases direction with
  | inbound =>
    change Replays clock (s.endInbound peerId reason now).1
    unfold endInbound
    split
    · exact h
    · split
      · exact h
      · rename_i r _ _ t _
        have hended : Replays clock (s.update r .endedInbound) :=
          h.update fun t _ => filing_of_same (AttachmentTransferState.same_step .abort)
        exact (hended.expireRegistry (g := t.registry) hnow).of_eq rfl rfl rfl
  | outbound =>
    change Replays clock (s.endOutbound peerId reason now).1
    unfold endOutbound
    split
    · exact h
    · split
      · exact h
      · rename_i r _ _ t _
        have hforgotten : Replays clock (s.forget t) := h.of_eq rfl rfl rfl
        have hended : Replays clock ((s.forget t).update r .endedOutbound) :=
          hforgotten.update fun t _ => filing_of_same (AttachmentTransferState.same_step .abort)
        exact (hended.expireRegistry (g := t.registry) hnow).of_eq rfl rfl rfl

end Sweep

section Registries

variable {s s' : AttachmentController} {clock now g r : Nat} {peerId : String}
  {direction : AttachmentDirection} {registry : AttachmentTransferRegistry}

theorem inbounds_concat (owners : List (String × AttachmentDirection)) (peerId : String)
    (direction : AttachmentDirection) :
    inbounds 0 (owners ++ [(peerId, direction)]) =
      inbounds 0 owners ++ if direction = .inbound then [(peerId, owners.length)] else [] := by
  unfold inbounds
  rw [List.zipIdx_append, List.filterMap_append, Nat.zero_add]
  cases direction <;> rfl

theorem Replays.registries_concat (h : Replays clock s) (hsound : s.Sound)
    (hlive : s'.live = s.live)
    (hregistries : s'.registries =
      s.registries ++ [({ peerId, direction } : AttachmentTransferRegistry)])
    (hknown : s'.registryMemory.RecallsUnless maximumRememberedPeers fun _ => False) :
    Replays clock s' where
  filed := by
    intro i registry hget hdirection
    rw [hlive]
    rw [hregistries] at hget
    rcases getElem?_concat_eq_some_iff.mp hget with hget | ⟨rfl, rfl⟩
    · exact h.filed hget hdirection
    · have hnone : entries (s.live.map LiveTransfer.filing) s.registries.length = [] := by
        unfold entries
        rw [List.map_eq_nil_iff, List.filter_eq_nil_iff]
        intro filing hfiling
        obtain ⟨t, hmem, rfl⟩ := List.mem_map.mp hfiling
        obtain ⟨r, hget⟩ := List.mem_iff_getElem?.mp hmem
        obtain ⟨registry, hregistry, -⟩ := hsound.owned hget
        have hlt := (List.getElem?_eq_some_iff.mp hregistry).1
        rw [decide_eq_true_eq]
        exact Nat.ne_of_lt hlt
      unfold Filed
      dsimp only
      rw [hnone]
      exact ExpiringMemory.recalls_empty _ _
  known := hknown

theorem Replays.registryOf (h : Replays clock s) (hsound : s.Sound) (peerId : String)
    (direction : AttachmentDirection) : Replays clock (s.registryOf peerId direction).1 := by
  cases direction with
  | outbound =>
    unfold AttachmentController.registryOf
    dsimp only
    split
    · exact h
    · refine h.registries_concat hsound rfl rfl ?_
      unfold registryMemory
      dsimp only
      rw [List.map_append, List.map_singleton]
      unfold AttachmentTransferRegistry.owner
      rw [inbounds_concat, if_neg nofun, List.append_nil]
      exact h.known
  | inbound =>
    unfold AttachmentController.registryOf
    dsimp only
    split
    · exact h
    · rename_i hnone
      refine h.registries_concat hsound rfl rfl ?_
      have hnew : ¬ s.registryMemory.has peerId = true := by
        rw [ExpiringMemory.has, InsertionMap.has]
        change ¬ (s.inboundRegistries.get? peerId).isSome = true
        rw [hnone]
        exact Bool.false_ne_true
      have hmade := h.known.makeRoom (by decide) hnew s.registries.length
      unfold registryMemory
      dsimp only
      rw [List.map_append, List.map_singleton]
      unfold AttachmentTransferRegistry.owner
      rw [inbounds_concat, if_pos rfl, List.length_map]
      exact hmade

theorem direction_registryOf (hsound : s.Sound) (peerId : String)
    (direction : AttachmentDirection) :
    ∀ registry, (s.registryOf peerId direction).1.registries[(s.registryOf peerId direction).2]? =
      some registry → registry.direction = direction := by
  intro registry hget
  obtain ⟨-, -, registry', hget', hdirection, -⟩ := registryOf_spec hsound peerId direction
  rw [hget'] at hget
  rw [← Option.some.inj hget, hdirection]

theorem Replays.openRegistry (h : Replays clock s) (manifest : AttachmentManifest) (now : Nat)
    (hnow : ∀ registry, s.registries[g]? = some registry → registry.direction = .inbound →
      now ≤ clock) : Replays clock (s.openRegistry g manifest now).1 := by
  have hswept := h.sweep hnow
  unfold AttachmentController.openRegistry
  dsimp only
  split
  · exact hswept
  · split
    · exact hswept
    · split
      · split
        · exact hswept
        · exact hswept
      · split
        · exact hswept
        · split
          · exact hswept
          · split
            · exact hswept
            · refine Replays.sweep (hswept.update fun t _ => ?_) ?_
              · exact filing_of_same (AttachmentTransferState.same_step .abort)
              · intro registry hget hdirection
                obtain ⟨registry', hget', ⟨-, rfl⟩ | ⟨hne, -⟩⟩ := of_getElem?_modify hget
                · obtain ⟨-, hsame, -⟩ := swept_cases s now registry'
                  exact hnow registry' hget' (hsame.symm.trans hdirection)
                · exact absurd rfl hne

/-- A transfer is opened only if its registry has no other and does not remember it. -/
theorem openRegistry_eq_opened {manifest : AttachmentManifest}
    {transfer : AttachmentTransferState}
    (h : s.openRegistry g manifest now = (s', .opened transfer)) :
    s' = s.sweep g now ∧ transfer.manifest.1 = manifest ∧
      ∃ registry, s'.registries[g]? = some registry ∧ registry.active = none ∧
        ¬ registry.closed.has (transferKey transfer.manifest.1) = true := by
  unfold AttachmentController.openRegistry at h
  dsimp only at h
  split at h
  · cases (Prod.mk.inj h).2
  · rename_i registry hget
    split at h
    · cases (Prod.mk.inj h).2
    · rename_i hclosed
      split at h
      · rename_i hactive
        split at h
        · cases (Prod.mk.inj h).2
        · rename_i transfer' hopen
          obtain ⟨rfl, hopened⟩ := Prod.mk.inj h
          cases hopened
          have hmanifest := (AttachmentTransferState.open_eq_ok hopen).2.1
          exact ⟨rfl, hmanifest, registry, hget, hactive, hmanifest ▸ hclosed⟩
      · split at h
        · cases (Prod.mk.inj h).2
        · split at h
          · cases (Prod.mk.inj h).2
          · split at h
            · cases (Prod.mk.inj h).2
            · cases (Prod.mk.inj h).2

theorem entries_concat (filings : List (Nat × String × Nat)) (g : Nat) (t : LiveTransfer) :
    entries (filings ++ [t.filing]) g =
      entries filings g ++ if t.registry = g then [t.entry] else [] := by
  unfold entries
  rw [List.filter_append, List.map_append]
  by_cases heq : t.registry = g
  · have hfiling : t.filing.1 = g := heq
    rw [if_pos heq, List.filter_cons_of_pos (by simpa using hfiling)]
    rfl
  · have hfiling : ¬ t.filing.1 = g := heq
    rw [if_neg heq, List.filter_cons_of_neg (by simpa using hfiling)]
    rfl

theorem Replays.opened (h : Replays clock s) {t : LiveTransfer}
    (hregistry : s.registries[t.registry]? = some registry) (hactive : registry.active = none)
    (hnew : ¬ registry.closed.has (transferKey t.manifest) = true)
    (hlive : s'.live.map LiveTransfer.filing = s.live.map LiveTransfer.filing ++ [t.filing])
    (hregistries : s'.registries = s.registries.modify t.registry fun registry =>
      { registry with active := some s.live.length })
    (hinbound : s'.inboundRegistries = s.inboundRegistries) : Replays clock s' where
  filed := by
    intro g registry' hget hdirection
    rw [hregistries] at hget
    rw [hlive]
    obtain ⟨old, hold, ⟨rfl, rfl⟩ | ⟨hne, rfl⟩⟩ := of_getElem?_modify hget
    · rw [hregistry] at hold
      obtain rfl := Option.some.inj hold
      have hfiled := h.filed hregistry hdirection
      unfold Filed at hfiled
      rw [hactive] at hfiled
      refine ⟨entries (s.live.map LiveTransfer.filing) t.registry, t.entry, ?_, ?_, hnew, hfiled⟩
      · have hlength : s.live.length = (s.live.map LiveTransfer.filing).length :=
          (List.length_map _).symm
        rw [hlength, List.getElem?_concat_length]
        rfl
      · rw [entries_concat, if_pos rfl]
    · have hfiled := h.filed hold hdirection
      unfold Filed at hfiled ⊢
      have hentries : entries (s.live.map LiveTransfer.filing ++ [t.filing]) g =
          entries (s.live.map LiveTransfer.filing) g := by
        rw [entries_concat, if_neg hne, List.append_nil]
      split at hfiled
      · rw [hentries]
        exact hfiled
      · obtain ⟨past, entry, hfiling, hlast, hfiled⟩ := hfiled
        refine ⟨past, entry, ?_, hentries.trans hlast, hfiled⟩
        rw [List.getElem?_append_left (List.getElem?_eq_some_iff.mp hfiling).1]
        exact hfiling
  known := by
    have howners : s'.registries.map AttachmentTransferRegistry.owner =
        s.registries.map AttachmentTransferRegistry.owner := by
      rw [hregistries]
      exact map_modify_eq_map fun _ _ => rfl
    unfold registryMemory
    rw [howners, hinbound]
    exact h.known

end Registries

section Step

variable {s s' s'' : AttachmentController} {filling : Prop} {clock now g i : Nat}
  {peerId : String} {answer : AttachmentController × List AttachmentControllerEvent}

theorem Replays.opening (h : Replays clock s) (hsound : s.Sound) {direction : AttachmentDirection}
    {manifest : AttachmentManifest} {opened : RegistryOpened}
    (hof : s.registryOf peerId direction = (s', g))
    (hopen : s'.openRegistry g manifest now = (s'', opened))
    (hnow : direction = .inbound → now ≤ clock) : Replays clock s'' := by
  have hregistry := h.registryOf hsound peerId direction
  have hdirection := direction_registryOf hsound peerId direction
  rw [hof] at hregistry hdirection
  have hopened := hregistry.openRegistry (g := g) manifest now fun registry hget hinbound =>
    hnow ((hdirection registry hget).symm.trans hinbound)
  rw [hopen] at hopened
  exact hopened

theorem Replays.change (h : Replays clock s) (hsettled : s.Settled)
    (hchange : Change filling clock s s') : Replays clock s' := by
  cases hchange with
  | start => exact h.start _
  | resume => exact h.resume _ _
  | sign => exact h.resume _ _
  | offerOver => exact h.of_eq rfl rfl rfl
  | update hf =>
    refine h.update fun t hlive => ?_
    obtain ⟨transfer, expiry, heq, hsame, -⟩ := hf t hlive
    rw [heq]
    exact (filing_of_same hsame : ({ t with transfer } : LiveTransfer).filing = t.filing)
  | endTransfer direction peerId reason hnow => exact h.endTransfer direction peerId reason hnow
  | @overdue r _ _ _ hnow =>
    have hstopped : Replays clock
        (s.update r fun t => { t with manifestForwardTimeout := false }) :=
      h.update fun _ _ => rfl
    exact hstopped.endTransfer .outbound _ .ackTimeout hnow
  | opening hnone hof hopen hnow => exact h.opening hsettled.sound hof hopen hnow
  | window => exact h.updateWindow _ _
  | @acknowledgeManifest r =>
    have hstopped : Replays clock
        (s.update r fun t => { t with manifestForwardTimeout := false }) :=
      h.update fun _ _ => rfl
    exact hstopped.of_eq rfl rfl rfl
  | @acknowledgeChunk r deliveryId =>
    exact (h.updateWindow r (·.acknowledge deliveryId)).of_eq rfl rfl rfl

theorem Replays.reaches (h : Replays clock s) (hsettled : s.Settled)
    (hreaches : Reaches filling clock s answer) : Replays clock answer.1 := by
  induction hreaches with
  | done => exact h
  | change hchange _ ih => exact ih (h.change hsettled hchange) (hsettled.change hchange)

theorem Replays.next (h : Replays clock s) (hsettled : s.Settled) (e : AttachmentEvent)
    (hby : e.By clock) : Replays clock (s.next e) := by
  unfold AttachmentController.next
  have hcourse := course_step hsettled e hby
  generalize s.step e = answer at hcourse ⊢
  cases hcourse with
  | changes hreaches => exact h.reaches hsettled hreaches
  | offered => exact h.of_eq rfl rfl rfl
  | @launched i peerId _ _ _ manifestDeliveryId _ g _ s' s'' transfer _ hof hopen =>
    obtain ⟨-, -, registry, hget, hactive, hnew⟩ := openRegistry_eq_opened hopen
    have hopened := h.opening hsettled.sound hof hopen nofun
    exact hopened.opened
      (t :=
        { peerId, registry := g, transfer, manifestDeliveryId
          manifestForwardTimeout := true })
      hget hactive hnew List.map_append rfl rfl
  | @admitted i g now shown peerId manifest s' s'' transfer _ _ _ hof hopen hnow hanswer =>
    obtain ⟨-, -, registry, hget, hactive, hnew⟩ := openRegistry_eq_opened hopen
    have hfinished : Replays clock (s.resume i .finished) := h.resume i _
    have hopened := hfinished.opening (hsettled.sound.resume i .finished) hof hopen fun _ => hnow
    have hadmitted : Replays clock (s''.admitInbound peerId g transfer) :=
      hopened.opened (t := { peerId, registry := g, transfer }) hget hactive hnew
        List.map_append rfl rfl
    rcases hanswer with ⟨-, rfl⟩ | ⟨reason, rfl⟩
    · exact hadmitted
    · exact hadmitted.endTransfer .inbound _ reason hnow
  | @handed i r index now bytes deliveryId t chunk _ hlive _ =>
    have hmoved : Replays clock (s.update r fun t' => { t' with
        transfer := (t.transfer.admitOutboundChunk chunk (some now)).1 }) := by
      refine h.update fun t' hlive' => ?_
      rw [hlive] at hlive'
      obtain rfl := Option.some.inj hlive'
      exact filing_of_same (AttachmentTransferState.same_step
        (.admitOutboundChunk chunk (some now)))
    exact (hmoved.updateWindow r (·.hand index deliveryId)).of_eq rfl rfl rfl

end Step

section Run

variable {s : AttachmentController} {now g r : Nat} {peerId : String}
  {manifest : AttachmentManifest} {e : AttachmentEvent} {t : LiveTransfer}

theorem length_inbounds (owners : List (String × AttachmentDirection)) (k : Nat) :
    (inbounds k owners).length = (owners.filter fun owner => owner.2 = .inbound).length := by
  induction owners generalizing k with
  | nil => rfl
  | cons owner owners ih =>
    rcases owner with ⟨peerId, direction⟩
    cases direction with
    | inbound => exact congrArg (· + 1) (ih (k + 1))
    | outbound => exact ih (k + 1)

theorem inbounds_split {registry : AttachmentTransferRegistry}
    (hget : s.registries[g]? = some registry) (hdirection : registry.direction = .inbound) :
    ∃ past since, s.registryMemory.history = past ++ (registry.peerId, g) :: since ∧
      since.length = s.laterRegistries g := by
  obtain ⟨hlt, hget⟩ := List.getElem?_eq_some_iff.mp hget
  have hsplit : s.registries = s.registries.take g ++ registry :: s.registries.drop (g + 1) := by
    rw [← hget, ← List.drop_eq_getElem_cons hlt, List.take_append_drop]
  have howner : registry.owner = (registry.peerId, .inbound) := by
    rw [AttachmentTransferRegistry.owner, hdirection]
  have hlength : ((s.registries.take g).map AttachmentTransferRegistry.owner).length = g := by
    rw [List.length_map, List.length_take, Nat.min_eq_left hlt.le]
  refine ⟨inbounds 0 ((s.registries.take g).map AttachmentTransferRegistry.owner),
    inbounds (g + 1) ((s.registries.drop (g + 1)).map AttachmentTransferRegistry.owner), ?_, ?_⟩
  · unfold registryMemory
    dsimp only
    conv_lhs => rw [hsplit]
    rw [List.map_append, List.map_cons, howner, inbounds, List.zipIdx_append, List.zipIdx_cons,
      List.filterMap_append, Nat.zero_add, hlength]
    rfl
  · rw [length_inbounds, laterRegistries, List.filter_map, List.length_map]
    rfl

theorem entries_split (hget : s.live[r]? = some t) :
    ∃ past, entries (s.live.map LiveTransfer.filing) t.registry =
      past ++ t.entry :: entries ((s.live.drop (r + 1)).map LiveTransfer.filing) t.registry := by
  obtain ⟨hlt, hget⟩ := List.getElem?_eq_some_iff.mp hget
  have hsplit : s.live = s.live.take r ++ t :: s.live.drop (r + 1) := by
    rw [← hget, ← List.drop_eq_getElem_cons hlt, List.take_append_drop]
  refine ⟨entries ((s.live.take r).map LiveTransfer.filing) t.registry, ?_⟩
  conv_lhs => rw [hsplit]
  have hfiling : t.filing.1 = t.registry := rfl
  unfold entries
  rw [List.map_append, List.map_cons, List.filter_append, List.map_append,
    List.filter_cons_of_pos (by simpa using hfiling)]
  rfl

theorem length_entries_le (h : s.Sound) (hget : s.live[r]? = some t)
    (hdirection : t.direction = .inbound) :
    (entries ((s.live.drop (r + 1)).map LiveTransfer.filing) t.registry).length ≤
      s.laterTransfers r t.peerId := by
  obtain ⟨registry, hregistry, howner⟩ := h.owned hget
  unfold entries laterTransfers
  rw [List.length_map, List.filter_map, List.length_map, ← List.countP_eq_length_filter,
    ← List.countP_eq_length_filter]
  refine List.countP_mono_left fun t' hmem hsame => ?_
  obtain ⟨r', hget'⟩ := List.mem_iff_getElem?.mp (List.mem_of_mem_drop hmem)
  obtain ⟨registry', hregistry', howner'⟩ := h.owned hget'
  have hsame : t'.registry = t.registry := of_decide_eq_true hsame
  rw [hsame, hregistry] at hregistry'
  obtain rfl := Option.some.inj hregistry'
  rw [decide_eq_true_eq, ← howner'.1, ← howner'.2, howner.1, howner.2]
  exact ⟨hdirection, rfl⟩

theorem of_presented (he : s.presented e = some (peerId, manifest, now)) :
    ∃ i verified shown s' g s'' transfer,
      e = .manifestVerified i verified now shown ∧
      (s.resume i .finished).registryOf peerId .inbound = (s', g) ∧
      s'.openRegistry g manifest now = (s'', .opened transfer) := by
  unfold presented at he
  split at he
  · rename_i i verified now' shown
    split at he
    · rename_i peerId' manifest' _
      split at he
      · cases he
      · rcases hof : (s.resume i .finished).registryOf peerId' .inbound with ⟨s', g⟩
        rw [hof] at he
        dsimp only at he
        split at he
        · rename_i s'' transfer hopen
          obtain ⟨rfl, heq⟩ := Prod.mk.inj (Option.some.inj he)
          obtain ⟨hmanifest, rfl⟩ := Prod.mk.inj heq
          obtain ⟨-, hsame, -⟩ := openRegistry_eq_opened hopen
          rw [hmanifest] at hsame
          exact ⟨i, verified, shown, s', g, s'', transfer, rfl, hof, hsame ▸ hopen⟩
        · cases he
    · cases he
  · cases he

theorem not_presented_before (hreplays : Replays now s) (hsettled : s.Settled)
    (he : s.presented e = some (peerId, manifest, now)) (hget : s.live[r]? = some t)
    (hdirection : t.direction = .inbound) (hpeerId : t.peerId = peerId)
    (hkey : transferKey t.manifest = transferKey manifest) :
    t.manifest.expiresAt ≤ now ∨ maximumRememberedTransfers ≤ s.laterTransfers r peerId ∨
      maximumRememberedPeers ≤ s.laterRegistries t.registry := by
  subst hpeerId
  obtain ⟨i, verified, shown, s', g, s'', transfer, rfl, hof, hopen⟩ := of_presented he
  obtain ⟨registry, hregistry, hregistryDirection, hregistryPeerId⟩ := hsettled.sound.owned hget
  by_cases hcurrent : s.inboundRegistries.get? t.peerId = some t.registry
  · -- the registry of the transfer is still that of the peer
    have hsame : (s.resume i .finished).registryOf t.peerId .inbound =
        (s.resume i .finished, t.registry) := by
      have hget : (s.resume i .finished).inboundRegistries.get? t.peerId = some t.registry :=
        hcurrent
      unfold registryOf
      simp only [hget]
    rw [hsame] at hof
    obtain ⟨rfl, rfl⟩ := Prod.mk.inj hof
    obtain ⟨rfl, hmanifest, registry', hregistry', hactive, hnew⟩ := openRegistry_eq_opened hopen
    have hswept : Replays now ((s.resume i .finished).sweep t.registry now) :=
      (hreplays.resume i .finished).sweep fun _ _ _ => Nat.le_refl _
    have hswept' : registry'.direction = .inbound := by
      obtain ⟨old, hold, ⟨-, rfl⟩ | ⟨hne, -⟩⟩ := of_getElem?_modify hregistry'
      · have hold : s.registries[t.registry]? = some old := hold
        rw [hregistry] at hold
        obtain rfl := Option.some.inj hold
        exact (swept_cases _ now registry).2.1.trans (hregistryDirection.trans hdirection)
      · exact absurd rfl hne
    have hfiled := hswept.filed hregistry' hswept'
    unfold Filed at hfiled
    rw [hactive] at hfiled
    obtain ⟨past, hentries⟩ := entries_split hget
    rw [hmanifest, ← hkey] at hnew
    rcases hfiled.of_not_has hnew hentries with hexpired | hmany
    · exact .inl hexpired
    · exact .inr (.inl (hmany.trans ((ExpiringMemory.distinct_le_length _).trans
        (length_entries_le hsettled.sound hget hdirection))))
  · -- another registry was made for the peer since
    obtain ⟨past, since, hhistory, hlength⟩ :=
      inbounds_split hregistry (hregistryDirection.trans hdirection)
    rw [hregistryPeerId] at hhistory
    rcases hreplays.known past t.peerId t.registry since hhistory with hfalse | hmany | hheld
    · exact hfalse.elim
    · rw [← hlength]
      exact .inr (.inr (hmany.trans (ExpiringMemory.distinct_le_length _)))
    · exact absurd (ExpiringMemory.get?_of_heldBefore hheld) hcurrent

/-- An offer that was presented before is presented again only if it expired, or sixteen later
transfers came from its peer, or sixteen inbound registries were made since its own one. -/
theorem presented_again (events : List AttachmentEvent)
    (hby : Trace.Meets next (fun _ e => e.By now) {} events)
    (he : (Trace.run next {} events).presented e = some (peerId, manifest, now))
    (hget : (Trace.run next {} events).live[r]? = some t) (hdirection : t.direction = .inbound)
    (hpeerId : t.peerId = peerId) (hkey : transferKey t.manifest = transferKey manifest) :
    t.manifest.expiresAt ≤ now ∨
      maximumRememberedTransfers ≤ (Trace.run next {} events).laterTransfers r peerId ∨
        maximumRememberedPeers ≤ (Trace.run next {} events).laterRegistries t.registry := by
  have hinv : Replays now (Trace.run next {} events) ∧ (Trace.run next {} events).Settled :=
    Trace.invariant_of_meets (P := fun s => Replays now s ∧ s.Settled)
      (fun s e h hby => ⟨h.1.next h.2 e hby, settled_next h.2 e⟩)
      ⟨replays_init now, settled_init⟩ hby
  exact not_presented_before hinv.1 hinv.2 he hget hdirection hpeerId hkey

section Sample

/-- A peer offers a file, and its offer is not taken. -/
def refusedOffer (i : Nat) (peerId : String) (manifest : AttachmentManifest) :
    List AttachmentEvent :=
  [.receiveManifest peerId manifest true, .manifestVerified i true 0 (some false)]

def renewedManifest : AttachmentManifest :=
  { sampleManifest with issuedAt := 100, expiresAt := 200 }

/-- A file is offered, and again under its name when the offer has expired. -/
def renewedOffer : List AttachmentEvent :=
  refusedOffer 0 "bob" sampleManifest ++ [.receiveManifest "bob" renewedManifest true]

theorem presented_again_renewed :
    (Trace.run next {} renewedOffer).presented (.manifestVerified 1 true 100 none) =
        some ("bob", renewedManifest, 100) ∧
      (sampleManifest.expiresAt ≤ 100 ∨
        maximumRememberedTransfers ≤ (Trace.run next {} renewedOffer).laterTransfers 0 "bob" ∨
          maximumRememberedPeers ≤ (Trace.run next {} renewedOffer).laterRegistries 0) := by
  have hby : Trace.Meets next (fun _ e => e.By 100) {} renewedOffer := by
    decide +kernel
  have he : (Trace.run next {} renewedOffer).presented (.manifestVerified 1 true 100 none) =
      some ("bob", renewedManifest, 100) := by
    decide +kernel
  have hlive : ((Trace.run next {} renewedOffer).live[0]?).map (fun t =>
      (t.direction, t.peerId, t.manifest, t.registry)) =
        some (.inbound, "bob", sampleManifest, 0) := by
    decide +kernel
  obtain ⟨t, hget, hfacts⟩ := Option.map_eq_some_iff.mp hlive
  obtain ⟨hdirection, hfacts⟩ := Prod.mk.inj hfacts
  obtain ⟨hpeerId, hfacts⟩ := Prod.mk.inj hfacts
  obtain ⟨hmanifest, hregistry⟩ := Prod.mk.inj hfacts
  have hagain := presented_again renewedOffer hby he hget hdirection hpeerId
    (by rw [hmanifest]; rfl)
  rw [hmanifest, hregistry] at hagain
  exact ⟨he, hagain⟩

/-- The user rejects the file that a peer offers. Sixteen other peers offer files, and then the
first one comes with the same offer. -/
def crowdedOffer : List AttachmentEvent :=
  [.receiveManifest "bob" sampleManifest true, .manifestVerified 0 true 0 (some true),
    .reject "bob" samplePorts, .decisionSigned 1 (some (.replicate 64 0)) 0,
    .decisionSent 1 true 0] ++
  (List.range 16).flatMap (fun k => refusedOffer (k + 2) (toString k) sampleManifest) ++
  [.receiveManifest "bob" sampleManifest true]

theorem not_presented_once :
    ¬ ∀ (events : List AttachmentEvent) (e : AttachmentEvent) (peerId : String)
        (manifest : AttachmentManifest) (now r : Nat) (t : LiveTransfer),
      Trace.Meets next (fun _ e => e.By now) {} events →
      (Trace.run next {} events).presented e = some (peerId, manifest, now) →
      (Trace.run next {} events).live[r]? = some t → t.direction = .inbound →
      t.peerId = peerId → t.manifest = manifest → t.transfer.phase.terminal = true →
      (Trace.run next {} events).laterTransfers r peerId ≤ maximumRememberedTransfers →
      manifest.expiresAt ≤ now := by
  intro h
  have hby : Trace.Meets next (fun _ e => e.By 0) {} crowdedOffer := by
    decide +kernel
  have he : (Trace.run next {} crowdedOffer).presented (.manifestVerified 18 true 0 none) =
      some ("bob", sampleManifest, 0) := by
    decide +kernel
  have hlive : ((Trace.run next {} crowdedOffer).live[0]?).map (fun t =>
      (t.direction, t.peerId, t.manifest, t.transfer.phase.terminal)) =
        some (.inbound, "bob", sampleManifest, true) := by
    decide +kernel
  have hlater : (Trace.run next {} crowdedOffer).laterTransfers 0 "bob" ≤
      maximumRememberedTransfers := by
    decide +kernel
  obtain ⟨t, hget, hfacts⟩ := Option.map_eq_some_iff.mp hlive
  obtain ⟨hdirection, hfacts⟩ := Prod.mk.inj hfacts
  obtain ⟨hpeerId, hfacts⟩ := Prod.mk.inj hfacts
  obtain ⟨hmanifest, hterminal⟩ := Prod.mk.inj hfacts
  have hexpired := h crowdedOffer _ _ _ _ _ t hby he hget hdirection hpeerId hmanifest hterminal
    hlater
  exact absurd hexpired (by decide)

end Sample

end Run

end AttachmentController

end Branch.Pwa
