import Branch.Core.TransferPhases
import Branch.Pwa.AttachmentTransfer

/-!
What the tables and the registries of a controller have of the transfers that were opened.
-/

namespace Branch.Pwa

open Branch.Core Branch.Lib

namespace LiveTransfer

variable {t t' : LiveTransfer}

/-- The same transfer, which is not over if it was before. -/
structure Keeps (t t' : LiveTransfer) : Prop where
  peerId : t'.peerId = t.peerId
  registry : t'.registry = t.registry
  direction : t'.direction = t.direction
  terminal : t.transfer.phase.terminal = true → t'.transfer.phase.terminal = true

theorem keeps_step (event : AttachmentTransferEvent) (t : LiveTransfer) :
    t.Keeps { t with transfer := (t.transfer.step event).1 } :=
  ⟨rfl, rfl, (AttachmentTransferState.same_step event).direction,
    AttachmentTransferState.terminal_step⟩

theorem keeps_of_transfer (hpeerId : t'.peerId = t.peerId) (hregistry : t'.registry = t.registry)
    (htransfer : t'.transfer = t.transfer) : t.Keeps t' := by
  refine ⟨hpeerId, hregistry, ?_, ?_⟩
  · unfold direction
    rw [htransfer]
  · rw [htransfer]
    exact id

end LiveTransfer

namespace AttachmentController

variable {s s' s'' : AttachmentController} {own : Option Nat} {direction : AttachmentDirection}
  {peerId : String} {r g i now : Nat} {t : LiveTransfer} {f : LiveTransfer → LiveTransfer}
  {operation operation' : AttachmentOperation}

def registryTable (s : AttachmentController) : AttachmentDirection → InsertionMap String Nat
  | .inbound => s.inboundRegistries
  | .outbound => s.outboundRegistries

section Frame

/-- Every transfer but one stays in the phase that it is in, and in its table. -/
structure Frame (s s' : AttachmentController) (own : Option Nat) : Prop where
  phase : ∀ {r t}, own ≠ some r → s.live[r]? = some t →
    ∃ t', s'.live[r]? = some t' ∧ t'.transfer.phase = t.transfer.phase
  listed : ∀ {direction peerId r}, own ≠ some r → (s.table direction).get? peerId = some r →
    (s'.table direction).get? peerId = some r

theorem Frame.of_eq (hlive : s'.live = s.live) (htable : s'.table = s.table) :
    Frame s s' own := by
  constructor
  · intro r t _ hget
    rw [hlive]
    exact ⟨t, hget, rfl⟩
  · intro direction peerId r _ hget
    rw [htable]
    exact hget

theorem Frame.rfl : Frame s s own := .of_eq (Eq.refl _) (Eq.refl _)

theorem Frame.trans (h : Frame s s' own) (h' : Frame s' s'' own) : Frame s s'' own := by
  constructor
  · intro r t hne hget
    obtain ⟨t', hget', hphase⟩ := h.phase hne hget
    obtain ⟨t'', hget'', hphase'⟩ := h'.phase hne hget'
    exact ⟨t'', hget'', hphase'.trans hphase⟩
  · exact fun hne hget => h'.listed hne (h.listed hne hget)

theorem Frame.of_none (h : Frame s s' none) : Frame s s' own :=
  ⟨fun _ => h.phase (Option.some_ne_none _).symm, fun _ => h.listed (Option.some_ne_none _).symm⟩

theorem frame_update (hf : ∀ t, own ≠ some r → s.live[r]? = some t →
      (f t).transfer.phase = t.transfer.phase) : Frame s (s.update r f) own := by
  constructor
  · intro r' t hne hget
    by_cases heq : r = r'
    · subst heq
      refine ⟨f t, ?_, hf t hne hget⟩
      change (s.live.modify r f)[r]? = _
      rw [List.getElem?_modify_eq, hget]
      rfl
    · refine ⟨t, ?_, rfl⟩
      change (s.live.modify r f)[r']? = _
      rw [List.getElem?_modify_ne f _ heq]
      exact hget
  · exact fun _ hget => hget

end Frame

/-- What the tables and the registries have. A transfer that is in no table is over; a registry
has the transfers of one peer in one direction. -/
structure Sound (s : AttachmentController) : Prop where
  listed : ∀ {direction : AttachmentDirection} {peerId : String} {r : Nat},
    (s.table direction).get? peerId = some r →
    ∃ t, s.live[r]? = some t ∧ t.direction = direction ∧ t.peerId = peerId
  ended : ∀ {r : Nat} {t : LiveTransfer}, s.live[r]? = some t →
    (s.table t.direction).get? t.peerId = some r ∨ t.transfer.phase.terminal = true
  owned : ∀ {r : Nat} {t : LiveTransfer}, s.live[r]? = some t →
    ∃ registry, s.registries[t.registry]? = some registry ∧
    registry.direction = t.direction ∧ registry.peerId = t.peerId
  active : ∀ {g r : Nat} {registry : AttachmentTransferRegistry}, s.registries[g]? = some registry → registry.active = some r →
    ∃ t, s.live[r]? = some t ∧ t.registry = g
  registered : ∀ {direction : AttachmentDirection} {peerId : String} {g : Nat}, (s.registryTable direction).get? peerId = some g →
    ∃ registry, s.registries[g]? = some registry ∧ registry.direction = direction ∧
      registry.peerId = peerId

section Sound

theorem sound_init : ({} : AttachmentController).Sound := by
  constructor
  · rintro (_ | _) peerId r ⟨⟩
  · rintro r t ⟨⟩
  · rintro r t ⟨⟩
  · rintro g registry r ⟨⟩
  · rintro (_ | _) peerId g ⟨⟩

theorem Sound.of_eq (h : s.Sound) (hlive : s'.live = s.live)
    (hregistries : s'.registries = s.registries) (htable : s'.table = s.table)
    (hregistryTable : s'.registryTable = s.registryTable) : s'.Sound := by
  constructor
  · rw [htable, hlive]
    exact h.listed
  · rw [htable, hlive]
    exact h.ended
  · rw [hlive, hregistries]
    exact h.owned
  · rw [hlive, hregistries]
    exact h.active
  · rw [hregistries, hregistryTable]
    exact h.registered

theorem Sound.start (h : s.Sound) (operation : AttachmentOperation) : (s.start operation).Sound :=
  h.of_eq rfl rfl rfl rfl

theorem Sound.resume (h : s.Sound) (i : Nat) (operation : AttachmentOperation) :
    (s.resume i operation).Sound :=
  h.of_eq rfl rfl rfl rfl

theorem getElem?_update (hget : (s.update r f).live[i]? = some t) :
    ∃ t', s.live[i]? = some t' ∧ (r = i ∧ t = f t' ∨ r ≠ i ∧ t = t') :=
  of_getElem?_modify hget

theorem exists_update (hget : s.live[i]? = some t)
    (hf : ∀ t, s.live[r]? = some t → t.Keeps (f t)) :
    ∃ t', (s.update r f).live[i]? = some t' ∧ t.Keeps t' := by
  by_cases heq : r = i
  · subst heq
    refine ⟨f t, ?_, hf t hget⟩
    change (s.live.modify r f)[r]? = _
    rw [List.getElem?_modify_eq, hget]
    rfl
  · refine ⟨t, ?_, LiveTransfer.keeps_of_transfer rfl rfl rfl⟩
    change (s.live.modify r f)[i]? = _
    rw [List.getElem?_modify_ne f _ heq]
    exact hget

theorem Sound.update (h : s.Sound) (hf : ∀ t, s.live[r]? = some t → t.Keeps (f t)) :
    (s.update r f).Sound := by
  have hback : ∀ {i : Nat} {t : LiveTransfer}, (s.update r f).live[i]? = some t →
      ∃ t', s.live[i]? = some t' ∧ LiveTransfer.Keeps t' t := by
    intro i t hget
    obtain ⟨t', hget', ⟨rfl, rfl⟩ | ⟨-, rfl⟩⟩ := getElem?_update hget
    · exact ⟨t', hget', hf t' hget'⟩
    · exact ⟨t, hget', LiveTransfer.keeps_of_transfer rfl rfl rfl⟩
  constructor
  · intro direction peerId i hget
    obtain ⟨t, hlive, rfl, rfl⟩ := h.listed hget
    obtain ⟨t', hlive', hkeeps⟩ := exists_update hlive hf
    exact ⟨t', hlive', hkeeps.direction, hkeeps.peerId⟩
  · intro i t hget
    obtain ⟨t', hget', hkeeps⟩ := hback hget
    rw [hkeeps.direction, hkeeps.peerId]
    exact (h.ended hget').imp_right hkeeps.terminal
  · intro i t hget
    obtain ⟨t', hget', hkeeps⟩ := hback hget
    rw [hkeeps.direction, hkeeps.peerId, hkeeps.registry]
    exact h.owned hget'
  · intro g i registry hregistry hactive
    obtain ⟨t, hlive, rfl⟩ := h.active hregistry hactive
    obtain ⟨t', hlive', hkeeps⟩ := exists_update hlive hf
    exact ⟨t', hlive', hkeeps.registry⟩
  · exact h.registered

theorem swept_cases (s : AttachmentController) (now : Nat) (registry : AttachmentTransferRegistry) :
    (s.swept now registry).peerId = registry.peerId ∧
      (s.swept now registry).direction = registry.direction ∧
      ((s.swept now registry).active = none ∨
        (s.swept now registry).active = registry.active ∧
          ∀ r t, registry.active = some r → s.live[r]? = some t →
            t.transfer.phase.terminal = false) := by
  unfold swept
  dsimp only
  cases hactive : registry.active with
  | none => exact ⟨rfl, rfl, .inl rfl⟩
  | some r =>
    cases hlive : s.live[r]? with
    | none =>
      refine ⟨by simp [hlive], by simp [hlive], .inr ⟨by simp [hlive], ?_⟩⟩
      rintro r' t ⟨⟩ hget
      rw [hlive] at hget
      cases hget
    | some t =>
      simp only [Option.bind_some, hlive]
      split
      · exact ⟨rfl, rfl, .inl rfl⟩
      · rename_i hterminal
        refine ⟨rfl, rfl, .inr ⟨rfl, ?_⟩⟩
        rintro r' t' ⟨⟩ hget
        rw [hlive] at hget
        cases hget
        exact Bool.eq_false_of_not_eq_true hterminal

theorem Sound.sweep (h : s.Sound) : (s.sweep g now).Sound := by
  have hback : ∀ {i : Nat} {registry : AttachmentTransferRegistry},
      (s.sweep g now).registries[i]? = some registry → ∃ registry', s.registries[i]? = some registry' ∧
        ∀ r, registry.active = some r → AttachmentTransferRegistry.active registry' = some r := by
    intro i registry hget
    obtain ⟨registry', hget', ⟨rfl, rfl⟩ | ⟨-, rfl⟩⟩ := of_getElem?_modify hget
    · refine ⟨registry', hget', fun r hactive => ?_⟩
      obtain ⟨-, -, hnone | ⟨hsame, -⟩⟩ := swept_cases s now registry'
      · rw [hnone] at hactive
        cases hactive
      · rw [← hsame, hactive]
    · exact ⟨registry, hget', fun r hactive => hactive⟩
  have hforth : ∀ {i : Nat} {registry : AttachmentTransferRegistry}, s.registries[i]? = some registry →
      ∃ registry', (s.sweep g now).registries[i]? = some registry' ∧
        AttachmentTransferRegistry.direction registry' = registry.direction ∧
        AttachmentTransferRegistry.peerId registry' = registry.peerId := by
    intro i registry hget
    change ∃ registry', (s.registries.modify g (s.swept now))[i]? = some registry' ∧ _ ∧ _
    rw [List.getElem?_modify, hget]
    by_cases heq : g = i
    · obtain ⟨hpeerId, hdirection, -⟩ := swept_cases s now registry
      exact ⟨s.swept now registry, by simp [heq], hdirection, hpeerId⟩
    · exact ⟨registry, by simp [heq], rfl, rfl⟩
  constructor
  · exact h.listed
  · exact h.ended
  · intro r t hget
    obtain ⟨registry, hregistry, hdirection, hpeerId⟩ := h.owned hget
    obtain ⟨registry', hregistry', hdirection', hpeerId'⟩ := hforth hregistry
    exact ⟨registry', hregistry', hdirection'.trans hdirection, hpeerId'.trans hpeerId⟩
  · intro i r registry hget hactive
    obtain ⟨registry', hget', hback⟩ := hback hget
    exact h.active hget' (hback r hactive)
  · intro direction peerId i hget
    obtain ⟨registry, hregistry, rfl, rfl⟩ := h.registered hget
    exact hforth hregistry

theorem keeps_expire (now : Nat) (t : LiveTransfer) :
    t.Keeps { t with transfer := (t.transfer.expire (some now)).1 } :=
  t.keeps_step (.expire (some now))

theorem Sound.expireRegistry (h : s.Sound) : (s.expireRegistry g now).Sound := by
  unfold AttachmentController.expireRegistry
  split
  · exact h.sweep
  · exact Sound.sweep (h.update fun t _ => keeps_expire now t)

theorem table_expireRegistry : (s.expireRegistry g now).table = s.table := by
  unfold expireRegistry
  split <;> rfl

theorem frame_expireRegistry (h : s.Sound) (hget : (s.table direction).get? peerId = some r)
    (hlive : s.live[r]? = some t) : Frame s (s.expireRegistry t.registry now) (some r) := by
  unfold expireRegistry
  split
  · exact .of_eq rfl rfl
  · rename_i r' hactive
    obtain ⟨registry, hregistry, hactive⟩ := Option.bind_eq_some_iff.mp hactive
    suffices hframe : Frame s (s.update r' fun t =>
        { t with transfer := (t.transfer.expire (some now)).1 }) (some r) from
      hframe.trans (.of_eq rfl rfl)
    refine frame_update ?_
    intro t' hne hlive'
    obtain ⟨_, hlive'', hsame⟩ := h.active hregistry hactive
    rw [hlive'] at hlive''
    obtain rfl := Option.some.inj hlive''
    obtain ⟨t'', hlive'', rfl, rfl⟩ := h.listed hget
    rw [hlive] at hlive''
    obtain rfl := Option.some.inj hlive''
    obtain ⟨registry', hregistry', hdirection, hpeerId⟩ := h.owned hlive'
    obtain ⟨registry'', hregistry'', hdirection', hpeerId'⟩ := h.owned hlive
    rw [hsame, hregistry''] at hregistry'
    obtain rfl := Option.some.inj hregistry'
    refine AttachmentTransferState.phase_expire_of_terminal ((h.ended hlive').resolve_left ?_)
    rw [← hdirection, ← hpeerId, hdirection', hpeerId', hget]
    exact hne

end Sound

section End

def drop (s : AttachmentController) (direction : AttachmentDirection) (peerId : String) :
    AttachmentController :=
  match direction with
  | .inbound => { s with inbound := s.inbound.delete peerId }
  | .outbound => { s with outbound := s.outbound.delete peerId }

theorem get?_drop_eq_some_iff {direction' : AttachmentDirection} {peerId' : String} :
    ((s.drop direction peerId).table direction').get? peerId' = some r ↔
      ¬ (direction' = direction ∧ peerId' = peerId) ∧
        (s.table direction').get? peerId' = some r := by
  cases direction <;> cases direction' <;>
    simp [drop, table, InsertionMap.get?_delete_eq_some_iff]

theorem Sound.drop (h : s.Sound)
    (hover : ∀ r t, (s.table direction).get? peerId = some r → s.live[r]? = some t →
      t.transfer.phase.terminal = true) : (s.drop direction peerId).Sound := by
  have hlive : (s.drop direction peerId).live = s.live := by
    cases direction <;> rfl
  have hregistries : (s.drop direction peerId).registries = s.registries := by
    cases direction <;> rfl
  have htable : (s.drop direction peerId).registryTable = s.registryTable := by
    cases direction <;> rfl
  constructor
  · intro direction' peerId' r hget
    rw [hlive]
    exact h.listed (get?_drop_eq_some_iff.mp hget).2
  · intro r t hget
    rw [hlive] at hget
    rw [get?_drop_eq_some_iff]
    rcases h.ended hget with hcurrent | hterminal
    · by_cases hsame : t.direction = direction ∧ t.peerId = peerId
      · obtain ⟨rfl, rfl⟩ := hsame
        exact .inr (hover r t hcurrent hget)
      · exact .inl ⟨hsame, hcurrent⟩
    · exact .inr hterminal
  · intro r t hget
    rw [hlive] at hget
    rw [hregistries]
    exact h.owned hget
  · rw [hlive, hregistries]
    exact h.active
  · rw [hregistries, htable]
    exact h.registered

structure Ended (s s' : AttachmentController) (direction : AttachmentDirection)
    (peerId : String) : Prop where
  sound : s'.Sound
  operations : s'.operations = s.operations
  offeringPeers : s'.offeringPeers = s.offeringPeers
  table : ∀ {direction' peerId' r}, (s'.table direction').get? peerId' = some r ↔
    ¬ (direction' = direction ∧ peerId' = peerId) ∧ (s.table direction').get? peerId' = some r

theorem operations_expireRegistry : (s.expireRegistry g now).operations = s.operations := by
  unfold expireRegistry
  split <;> rfl

theorem offeringPeers_expireRegistry :
    (s.expireRegistry g now).offeringPeers = s.offeringPeers := by
  unfold expireRegistry
  split <;> rfl

theorem terminal_expireRegistry (g now : Nat) (hget : s.live[r]? = some t)
    (hterminal : t.transfer.phase.terminal = true) :
    ∃ t', (s.expireRegistry g now).live[r]? = some t' ∧ t'.transfer.phase.terminal = true := by
  unfold expireRegistry
  split
  · exact ⟨t, hget, hterminal⟩
  · obtain ⟨t', hget', hkeeps⟩ := exists_update hget fun t _ => keeps_expire now t
    exact ⟨t', hget', hkeeps.terminal hterminal⟩

theorem ended_drop (direction : AttachmentDirection) (now : Nat) (h : s.Sound)
    (hget : (s.table direction).get? peerId = some r)
    (hlive : s.live[r]? = some t) (hf : t.Keeps (f t))
    (hterminal : (f t).transfer.phase.terminal = true) :
    Ended s (((s.update r f).expireRegistry t.registry now).drop direction peerId) direction
        peerId ∧
      Frame s (((s.update r f).expireRegistry t.registry now).drop direction peerId)
        (some r) := by
  have hkeeps : ∀ t, s.live[r]? = some t → t.Keeps (f t) := by
    intro t' hlive'
    rw [hlive] at hlive'
    obtain rfl := Option.some.inj hlive'
    exact hf
  have hupdate : (s.update r f).Sound := h.update hkeeps
  have hlive' : (s.update r f).live[r]? = some (f t) := by
    change (s.live.modify r f)[r]? = _
    rw [List.getElem?_modify_eq, hlive]
    rfl
  have htable : ((s.update r f).expireRegistry t.registry now).table = s.table :=
    table_expireRegistry
  have hdrop : ∀ {direction' peerId' r'},
      ((((s.update r f).expireRegistry t.registry now).drop direction peerId).table
          direction').get? peerId' = some r' ↔
        ¬ (direction' = direction ∧ peerId' = peerId) ∧
          (s.table direction').get? peerId' = some r' := by
    intro direction' peerId' r'
    rw [get?_drop_eq_some_iff, htable]
  refine ⟨⟨hupdate.expireRegistry.drop ?_, ?_, ?_, hdrop⟩, ?_⟩
  · intro r' t' hget' hlive''
    rw [htable, hget] at hget'
    obtain rfl := Option.some.inj hget'
    obtain ⟨t'', hlive, hterminal⟩ := terminal_expireRegistry t.registry now hlive' hterminal
    rw [hlive''] at hlive
    obtain rfl := Option.some.inj hlive
    exact hterminal
  · cases direction <;> exact operations_expireRegistry
  · cases direction <;> exact offeringPeers_expireRegistry
  · have hframe : Frame s ((s.update r f).expireRegistry t.registry now) (some r) := by
      refine (frame_update (f := f) fun t hne => absurd rfl hne).trans ?_
      rw [← hf.registry]
      exact frame_expireRegistry hupdate hget hlive'
    refine ⟨fun hne hlive => ?_, fun hne hget' => ?_⟩
    · obtain ⟨t', hget', hphase⟩ := hframe.phase hne hlive
      refine ⟨t', ?_, hphase⟩
      cases direction <;> exact hget'
    · refine hdrop.mpr ⟨?_, hget'⟩
      rintro ⟨rfl, rfl⟩
      exact hne (hget.symm.trans hget')

theorem endTransfer_of_none {reason : AttachmentControllerReason}
    (hget : (s.table direction).get? peerId = none) :
    s.endTransfer direction peerId reason now = (s, []) := by
  cases direction with
  | inbound =>
    change s.inbound.get? peerId = none at hget
    simp [endTransfer, endInbound, hget]
  | outbound =>
    change s.outbound.get? peerId = none at hget
    simp [endTransfer, endOutbound, hget]

theorem Ended.of_none (h : s.Sound) (hget : (s.table direction).get? peerId = none) :
    Ended s s direction peerId := by
  refine ⟨h, rfl, rfl, fun {direction' peerId' r} => ?_⟩
  constructor
  · intro hget'
    refine ⟨?_, hget'⟩
    rintro ⟨rfl, rfl⟩
    rw [hget] at hget'
    cases hget'
  · exact And.right

theorem keeps_abort (t : LiveTransfer) : t.Keeps { t with transfer := t.transfer.abort.1 } :=
  t.keeps_step .abort

theorem ended_endTransfer (h : s.Sound) (direction : AttachmentDirection) (peerId : String)
    (reason : AttachmentControllerReason) (now : Nat) :
    Ended s (s.endTransfer direction peerId reason now).1 direction peerId ∧
      Frame s (s.endTransfer direction peerId reason now).1
        ((s.table direction).get? peerId) := by
  cases hget : (s.table direction).get? peerId with
  | none =>
    rw [endTransfer_of_none hget]
    exact ⟨.of_none h hget, .rfl⟩
  | some r =>
    obtain ⟨t, hlive, rfl, rfl⟩ := h.listed hget
    have hkeeps := keeps_abort t
    cases hdirection : t.direction with
    | inbound =>
      rw [hdirection] at hget
      have hinbound : s.inbound.get? t.peerId = some r := hget
      simp only [endTransfer, endInbound, hinbound, hlive]
      refine ended_drop .inbound now h hget hlive ?_ ?_
      · exact ⟨hkeeps.peerId, hkeeps.registry, hkeeps.direction, hkeeps.terminal⟩
      · exact AttachmentTransferState.terminal_abort
    | outbound =>
      rw [hdirection] at hget
      have houtbound : s.outbound.get? t.peerId = some r := hget
      simp only [endTransfer, endOutbound, houtbound, hlive]
      have hs : (s.forget t).Sound := h.of_eq rfl rfl rfl rfl
      obtain ⟨hended, hframe⟩ := ended_drop .outbound now hs hget hlive
        (f := LiveTransfer.endedOutbound)
        ⟨hkeeps.peerId, hkeeps.registry, hkeeps.direction, hkeeps.terminal⟩
        AttachmentTransferState.terminal_abort
      exact ⟨⟨hended.sound, hended.operations, hended.offeringPeers, hended.table⟩,
        ⟨hframe.phase, hframe.listed⟩⟩

end End

section Open

structure SameTransfers (s s' : AttachmentController) : Prop where
  live : s'.live = s.live
  table : s'.table = s.table
  operations : s'.operations = s.operations
  offeringPeers : s'.offeringPeers = s.offeringPeers

theorem SameTransfers.frame (h : SameTransfers s s') : Frame s s' own := .of_eq h.live h.table

theorem Sound.registries_concat {limit : Nat} (direction : AttachmentDirection) (h : s.Sound)
    (hlive : s'.live = s.live) (htable : s'.table = s.table)
    (hregistries : s'.registries =
      s.registries ++ [{ peerId := peerId, direction := direction }])
    (hself : s'.registryTable direction =
      ((s.registryTable direction).shrink limit).set peerId s.registries.length)
    (hother : ∀ direction', direction' ≠ direction →
      s'.registryTable direction' = s.registryTable direction') : s'.Sound := by
  have hforth : ∀ {i : Nat} {registry : AttachmentTransferRegistry},
      s.registries[i]? = some registry → s'.registries[i]? = some registry := by
    intro i registry hget
    rw [hregistries]
    exact getElem?_concat_eq_some_iff.mpr (.inl hget)
  constructor
  · rw [htable, hlive]
    exact h.listed
  · rw [htable, hlive]
    exact h.ended
  · rw [hlive]
    intro r t hget
    obtain ⟨registry, hregistry, howner⟩ := h.owned hget
    exact ⟨registry, hforth hregistry, howner⟩
  · intro i r registry hget hactive
    rw [hlive]
    rw [hregistries] at hget
    rcases getElem?_concat_eq_some_iff.mp hget with hget | ⟨rfl, rfl⟩
    · exact h.active hget hactive
    · cases hactive
  · intro direction' peerId' i hget
    have hold : (s.registryTable direction').get? peerId' = some i →
        ∃ registry, s'.registries[i]? = some registry ∧ registry.direction = direction' ∧
          registry.peerId = peerId' := by
      intro hget
      obtain ⟨registry, hregistry, howner⟩ := h.registered hget
      exact ⟨registry, hforth hregistry, howner⟩
    by_cases hdirection : direction' = direction
    · subst hdirection
      rw [hself] at hget
      by_cases hpeerId : peerId' = peerId
      · subst hpeerId
        rw [InsertionMap.get?_set_self] at hget
        obtain rfl := Option.some.inj hget
        refine ⟨{ peerId := peerId', direction := direction' }, ?_, rfl, rfl⟩
        rw [hregistries]
        exact getElem?_concat_eq_some_iff.mpr (.inr ⟨rfl, rfl⟩)
      · rw [InsertionMap.get?_set_of_ne hpeerId] at hget
        exact hold (InsertionMap.get?_shrink hget)
    · rw [hother direction' hdirection] at hget
      exact hold hget

theorem registryOf_spec (h : s.Sound) (peerId : String) (direction : AttachmentDirection) :
    (s.registryOf peerId direction).1.Sound ∧
      SameTransfers s (s.registryOf peerId direction).1 ∧
      ∃ registry, (s.registryOf peerId direction).1.registries[
          (s.registryOf peerId direction).2]? = some registry ∧
        registry.direction = direction ∧ registry.peerId = peerId := by
  have hlisted : ∀ g, (s.registryTable direction).get? peerId = some g →
      s.Sound ∧ SameTransfers s s ∧ ∃ registry, s.registries[g]? = some registry ∧
        registry.direction = direction ∧ registry.peerId = peerId :=
    fun g hget => ⟨h, ⟨rfl, rfl, rfl, rfl⟩, h.registered hget⟩
  cases direction with
  | inbound =>
    unfold registryOf
    cases hget : s.inboundRegistries.get? peerId with
    | some g => exact hlisted g hget
    | none =>
      refine ⟨Sound.registries_concat .inbound h rfl rfl rfl rfl ?_,
        ⟨rfl, rfl, rfl, rfl⟩, { peerId, direction := .inbound }, by simp, rfl, rfl⟩
      rintro (_ | _) hne
      · exact absurd rfl hne
      · rfl
  | outbound =>
    unfold registryOf
    cases hget : s.outboundRegistries.get? peerId with
    | some g => exact hlisted g hget
    | none =>
      refine ⟨Sound.registries_concat .outbound h rfl rfl rfl rfl ?_,
        ⟨rfl, rfl, rfl, rfl⟩, { peerId, direction := .outbound }, by simp, rfl, rfl⟩
      rintro (_ | _) hne
      · rfl
      · exact absurd rfl hne

theorem openRegistry_of_none {registry : AttachmentTransferRegistry}
    (manifest : AttachmentManifest) (now : Nat) (h : s.Sound) (hregistry : s.registries[g]? = some registry)
    (hnone : (s.table registry.direction).get? registry.peerId = none) :
    (s.openRegistry g manifest now).1 = s.sweep g now ∧
      ∀ transfer, (s.openRegistry g manifest now).2 = .opened transfer →
        transfer.direction = registry.direction := by
  have hswept : (s.sweep g now).registries[g]? = some (s.swept now registry) := by
    change (s.registries.modify g (s.swept now))[g]? = _
    rw [List.getElem?_modify_eq, hregistry]
    rfl
  obtain ⟨-, hdirection, hactive⟩ := swept_cases s now registry
  have hnone : (s.swept now registry).active = none := by
    rcases hactive with hactive | ⟨hactive, hlive⟩
    · exact hactive
    · cases hsome : registry.active with
      | none => rw [hactive, hsome]
      | some r =>
        obtain ⟨t, hget, rfl⟩ := h.active hregistry hsome
        obtain ⟨registry', hregistry', hdirection', hpeerId'⟩ := h.owned hget
        rw [hregistry] at hregistry'
        obtain rfl := Option.some.inj hregistry'
        rcases h.ended hget with hlisted | hterminal
        · rw [← hdirection', ← hpeerId', hnone] at hlisted
          cases hlisted
        · rw [hlive r t hsome hget] at hterminal
          cases hterminal
  unfold openRegistry
  simp only [hswept, hnone]
  split
  · exact ⟨rfl, fun transfer hopened => by cases hopened⟩
  · split
    · exact ⟨rfl, fun transfer hopened => by cases hopened⟩
    · rename_i hopen
      refine ⟨rfl, fun transfer hopened => ?_⟩
      cases hopened
      rw [AttachmentTransferState.direction_open hopen, hdirection]

theorem get?_table_set {direction' : AttachmentDirection} {peerId' : String} {v : Nat}
    (hself : s'.table direction = (s.table direction).set peerId v)
    (hother : ∀ direction', direction' ≠ direction → s'.table direction' = s.table direction') :
    (s'.table direction').get? peerId' = some r ↔
      if direction' = direction ∧ peerId' = peerId then r = v
      else (s.table direction').get? peerId' = some r := by
  by_cases hdirection : direction' = direction
  · subst hdirection
    rw [hself]
    by_cases hpeerId : peerId' = peerId
    · subst hpeerId
      rw [InsertionMap.get?_set_self, if_pos ⟨rfl, rfl⟩, Option.some_inj, eq_comm]
    · rw [InsertionMap.get?_set_of_ne hpeerId, if_neg fun h => hpeerId h.2]
  · rw [hother direction' hdirection, if_neg fun h => hdirection h.1]

theorem Sound.opened (h : s.Sound) (hlive : s'.live = s.live ++ [t])
    (hregistries : s'.registries = s.registries.modify t.registry fun registry =>
      { registry with active := some s.live.length })
    (htable : ∀ {direction peerId r}, (s'.table direction).get? peerId = some r ↔
      if direction = t.direction ∧ peerId = t.peerId then r = s.live.length
      else (s.table direction).get? peerId = some r)
    (hregistryTable : s'.registryTable = s.registryTable)
    (howned : ∃ registry, s.registries[t.registry]? = some registry ∧
      registry.direction = t.direction ∧ registry.peerId = t.peerId)
    (hnone : (s.table t.direction).get? t.peerId = none) : s'.Sound := by
  have hforth : ∀ {i : Nat} {registry : AttachmentTransferRegistry},
      s.registries[i]? = some registry → ∃ registry', s'.registries[i]? = some registry' ∧
        AttachmentTransferRegistry.direction registry' = registry.direction ∧
        AttachmentTransferRegistry.peerId registry' = registry.peerId := by
    intro i registry hget
    rw [hregistries, List.getElem?_modify, hget]
    by_cases heq : t.registry = i
    · exact ⟨{ registry with active := some s.live.length }, by simp [heq], rfl, rfl⟩
    · exact ⟨registry, by simp [heq], rfl, rfl⟩
  have howned : ∀ {direction : AttachmentDirection} {peerId : String} {i : Nat},
      (∃ registry, s.registries[i]? = some registry ∧
        registry.direction = direction ∧ registry.peerId = peerId) →
      ∃ registry, s'.registries[i]? = some registry ∧
        registry.direction = direction ∧ registry.peerId = peerId := by
    rintro direction peerId i ⟨registry, hget, rfl, rfl⟩
    exact hforth hget
  constructor
  · intro direction peerId r hget
    rw [hlive]
    rw [htable] at hget
    split at hget
    · rename_i hsame
      obtain ⟨rfl, rfl⟩ := hsame
      subst hget
      exact ⟨t, getElem?_concat_eq_some_iff.mpr (.inr ⟨rfl, rfl⟩), rfl, rfl⟩
    · obtain ⟨t', hget', howner⟩ := h.listed hget
      exact ⟨t', getElem?_concat_eq_some_iff.mpr (.inl hget'), howner⟩
  · intro r t' hget
    rw [hlive] at hget
    rw [htable]
    rcases getElem?_concat_eq_some_iff.mp hget with hget | ⟨rfl, rfl⟩
    · split
      · rename_i hsame
        rcases h.ended hget with hlisted | hterminal
        · rw [hsame.1, hsame.2, hnone] at hlisted
          cases hlisted
        · exact .inr hterminal
      · exact h.ended hget
    · exact .inl (by simp)
  · intro r t' hget
    rw [hlive] at hget
    rcases getElem?_concat_eq_some_iff.mp hget with hget | ⟨-, rfl⟩
    · exact howned (h.owned hget)
    · exact howned ‹_›
  · intro i r registry hget hactive
    rw [hlive]
    rw [hregistries] at hget
    obtain ⟨registry', hget', ⟨rfl, rfl⟩ | ⟨-, rfl⟩⟩ := of_getElem?_modify hget
    · obtain rfl := Option.some.inj hactive
      exact ⟨t, getElem?_concat_eq_some_iff.mpr (.inr ⟨rfl, rfl⟩), rfl⟩
    · obtain ⟨t', hlive', hsame⟩ := h.active hget' hactive
      exact ⟨t', getElem?_concat_eq_some_iff.mpr (.inl hlive'), hsame⟩
  · intro direction peerId i hget
    rw [hregistryTable] at hget
    exact howned (h.registered hget)

theorem frame_opened (hlive : s'.live = s.live ++ [t])
    (htable : ∀ {direction peerId r}, (s'.table direction).get? peerId = some r ↔
      if direction = t.direction ∧ peerId = t.peerId then r = s.live.length
      else (s.table direction).get? peerId = some r)
    (hnone : (s.table t.direction).get? t.peerId = none) : Frame s s' own := by
  constructor
  · intro r t' _ hget
    rw [hlive]
    exact ⟨t', getElem?_concat_eq_some_iff.mpr (.inl hget), rfl⟩
  · intro direction peerId r _ hget
    rw [htable]
    split
    · rename_i hsame
      rw [hsame.1, hsame.2, hnone] at hget
      cases hget
    · exact hget

end Open

end AttachmentController

end Branch.Pwa
