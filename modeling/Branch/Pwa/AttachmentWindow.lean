import Branch.Pwa.AttachmentChanges

/-!
The chunks of an outbound transfer. The next index is counted up before its part of the file
is read, and an acknowledgement may come in between.
-/

namespace Branch.Pwa

open Branch.Core Branch.Lib

namespace OutboundWindow

variable {w : OutboundWindow} {count index : Nat} {reading : Nat → Prop} {current : Prop}
  {deliveryId : String}

/-- What holds of a window whatever is read and sent. `reading` are the indices whose part of
the file is awaited, and `current` says that the transfer is in its table. -/
structure Sound (w : OutboundWindow) (count : Nat) (reading : Nat → Prop) (current : Prop) :
    Prop where
  next_le : w.nextChunkIndex ≤ count
  handed_lt : ∀ index ∈ w.handed.map Prod.fst, index < w.nextChunkIndex
  once : (w.handed.map Prod.fst).Nodup
  unhanded : ∀ index, reading index → index < w.nextChunkIndex ∧
    index ∉ w.handed.map Prod.fst ∧ w.outstanding.size < outboundWindowSize
  room : w.outstanding.size ≤ outboundWindowSize
  listed : w.outstanding.size ≠ 0 → current
  awaited : current → ∀ p ∈ w.handed, w.outstanding.has p.2 = true ∨ p.2 ∈ w.forwarded

/-- Every index that was counted is handed to the relay or being read. -/
def Covered (w : OutboundWindow) (_count : Nat) (reading : Nat → Prop) (current : Prop) : Prop :=
  current → ∀ index, index < w.nextChunkIndex → index ∈ w.handed.map Prod.fst ∨ reading index

theorem map_fst_hand (w : OutboundWindow) (index : Nat) (deliveryId : String) :
    (w.hand index deliveryId).handed.map Prod.fst = w.handed.map Prod.fst ++ [index] := by
  simp [hand]

theorem Sound.take (h : w.Sound count (fun _ => False) current)
    (hroom : w.outstanding.size < outboundWindowSize) (hnext : w.nextChunkIndex < count) :
    w.take.Sound count (fun index => index = w.nextChunkIndex) current := by
  refine ⟨hnext, fun index hmem => Nat.lt_succ_of_lt (h.handed_lt index hmem), h.once, ?_,
    h.room, h.listed, h.awaited⟩
  rintro index rfl
  refine ⟨Nat.lt_succ_self _, fun hmem => ?_, hroom⟩
  exact Nat.lt_irrefl _ (h.handed_lt _ hmem)

theorem Covered.take (h : w.Covered count (fun _ => False) current) :
    w.take.Covered count (fun index => index = w.nextChunkIndex) current := by
  intro hcurrent index hlt
  rcases Nat.lt_succ_iff_lt_or_eq.mp hlt with hlt | heq
  · exact .inl ((h hcurrent index hlt).resolve_right id)
  · exact .inr heq

theorem Sound.hand (h : w.Sound count (fun i => i = index) current) (hcurrent : current) :
    (w.hand index deliveryId).Sound count (fun _ => False) current := by
  obtain ⟨hlt, hnew, hroom⟩ := h.unhanded index rfl
  have hsize := w.outstanding.size_set_le deliveryId index
  refine ⟨h.next_le, ?_, ?_, fun _ hfalse => hfalse.elim, by
    change (w.outstanding.set deliveryId index).size ≤ _
    omega, fun _ => hcurrent, ?_⟩
  · intro i hmem
    rw [map_fst_hand, List.mem_append, List.mem_singleton] at hmem
    rcases hmem with hmem | rfl
    · exact h.handed_lt i hmem
    · exact hlt
  · rw [map_fst_hand, ← List.concat_eq_append]
    exact h.once.concat hnew
  · intro _ p hmem
    change (w.outstanding.set deliveryId index).has p.2 = true ∨ _
    rw [InsertionMap.has_set]
    rcases List.mem_append.mp hmem with hmem | hmem
    · exact (h.awaited hcurrent p hmem).imp_left .inr
    · rw [List.mem_singleton.mp hmem]
      exact .inl (.inl rfl)

theorem Covered.hand (h : w.Covered count (fun i => i = index) current) :
    (w.hand index deliveryId).Covered count (fun _ => False) current := by
  intro hcurrent i hlt
  refine .inl ?_
  rw [map_fst_hand, List.mem_append, List.mem_singleton]
  exact h hcurrent i hlt

theorem Sound.acknowledge (h : w.Sound count reading current) (deliveryId : String) :
    (w.acknowledge deliveryId).Sound count reading current := by
  have hsize := w.outstanding.size_delete_le deliveryId
  have hroom := h.room
  refine ⟨h.next_le, h.handed_lt, h.once, fun index hreading => ?_, hsize.trans hroom,
    fun hne => h.listed fun hzero => hne ?_, ?_⟩
  · obtain ⟨hlt, hnew, hroom⟩ := h.unhanded index hreading
    exact ⟨hlt, hnew, Nat.lt_of_le_of_lt hsize hroom⟩
  · exact Nat.le_zero.mp (hzero ▸ hsize)
  · intro hcurrent p hmem
    change (w.outstanding.delete deliveryId).has p.2 = true ∨ p.2 ∈ w.forwarded ++ [deliveryId]
    rw [InsertionMap.has_delete, List.mem_append, List.mem_singleton]
    by_cases heq : p.2 = deliveryId
    · exact .inr (.inr heq)
    · exact (h.awaited hcurrent p hmem).imp (fun hhas => ⟨hhas, heq⟩) .inl

theorem Sound.complete (h : w.Sound count reading current) (hcovered : w.Covered count reading current)
    (hcurrent : current) (hnext : count ≤ w.nextChunkIndex) (hreading : ∀ index, ¬ reading index)
    (hnone : w.outstanding.size = 0) :
    (w.handed.map Prod.fst).Perm (List.range count) ∧ ∀ p ∈ w.handed, p.2 ∈ w.forwarded := by
  have heq : w.nextChunkIndex = count := Nat.le_antisymm h.next_le hnext
  refine ⟨(List.perm_ext_iff_of_nodup h.once List.nodup_range).mpr fun index => ?_, ?_⟩
  · rw [List.mem_range, ← heq]
    constructor
    · exact h.handed_lt index
    · exact fun hlt => (hcovered hcurrent index hlt).resolve_right (hreading index)
  · intro p hmem
    exact (h.awaited hcurrent p hmem).resolve_left (InsertionMap.size_eq_zero_iff.mp hnone p.2)

/-- What is kept when chunks are read, handed over and acknowledged. A part of the file that
could not be read counts as read only when the transfer is no longer in its table. -/
structure Stable (Q : OutboundWindow → Nat → (Nat → Prop) → Prop → Prop) : Prop where
  empty : ∀ {count current}, Q {} count (fun _ => False) current
  clear : ∀ {w count reading current}, Q w count reading current →
    Q { w with outstanding := .empty } count reading False
  flag : ∀ {w count reading current} (filling : Bool), Q w count reading current →
    Q { w with filling } count reading current
  take : ∀ {w : OutboundWindow} {count : Nat} {current : Prop},
    Q w count (fun _ => False) current → w.outstanding.size < outboundWindowSize →
      w.nextChunkIndex < count → Q w.take count (fun index => index = w.nextChunkIndex) current
  hand : ∀ {w : OutboundWindow} {count index : Nat} {current : Prop} (deliveryId : String),
    Q w count (fun i => i = index) current → current →
      Q (w.hand index deliveryId) count (fun _ => False) current
  acknowledge : ∀ {w : OutboundWindow} {count : Nat} {reading : Nat → Prop} {current : Prop}
    (deliveryId : String), Q w count reading current →
      Q (w.acknowledge deliveryId) count reading current
  stop : ∀ {w count reading current}, Q w count reading current →
    (current → ∀ index, ¬ reading index) → Q w count (fun _ => False) current

theorem Sound.drop (h : w.Sound count reading current) :
    w.Sound count (fun _ => False) current :=
  ⟨h.next_le, h.handed_lt, h.once, fun _ hfalse => hfalse.elim, h.room, h.listed, h.awaited⟩

theorem stable_sound : Stable Sound where
  empty :=
    ⟨Nat.zero_le _, fun _ hmem => absurd hmem List.not_mem_nil, List.nodup_nil,
      fun _ hfalse => hfalse.elim, Nat.zero_le _, fun hne => absurd rfl hne,
      fun _ _ hmem => absurd hmem List.not_mem_nil⟩
  clear h :=
    ⟨h.next_le, h.handed_lt, h.once,
      fun index hreading => ⟨(h.unhanded index hreading).1, (h.unhanded index hreading).2.1,
        Nat.zero_lt_succ 3⟩,
      Nat.zero_le _, fun hne => absurd rfl hne, fun hfalse => hfalse.elim⟩
  flag _ h := ⟨h.next_le, h.handed_lt, h.once, h.unhanded, h.room, h.listed, h.awaited⟩
  take h hroom hnext := h.take hroom hnext
  hand _ h hcurrent := h.hand hcurrent
  acknowledge deliveryId h := h.acknowledge deliveryId
  stop h _ := h.drop

theorem stable_covered : Stable Covered where
  empty _ _ hlt := absurd hlt (Nat.not_lt_zero _)
  clear _ hfalse := hfalse.elim
  flag _ h := h
  take h _ _ := h.take
  hand _ h _ := h.hand
  acknowledge _ h := h
  stop h hnone hcurrent index hlt :=
    .inl ((h hcurrent index hlt).resolve_right (hnone hcurrent index))

end OutboundWindow

namespace AttachmentController

variable {s s' s'' : AttachmentController} {direction : AttachmentDirection}
  {peerId : String} {r g i now : Nat} {t t' : LiveTransfer} {f : LiveTransfer → LiveTransfer}
  {operation operation' : AttachmentOperation}

def Listed (s : AttachmentController) (r : Nat) (t : LiveTransfer) : Prop :=
  s.outbound.get? t.peerId = some r

/-- A window stays as it is, or is cleared when its transfer ends. -/
def KeepsWindow (s s' : AttachmentController) (r : Nat) (t t' : LiveTransfer) : Prop :=
  t'.window = t.window ∧ (s'.Listed r t' ↔ s.Listed r t) ∨
    t'.window = { t.window with outstanding := .empty } ∧ ¬ s'.Listed r t'

structure Quiet (s s' : AttachmentController) : Prop where
  operations : ∀ {i : Nat} {operation : AttachmentOperation}, operation.fills.isSome = true →
    (s'.operations[i]? = some operation ↔ s.operations[i]? = some operation)
  live : ∀ {r : Nat} {t' : LiveTransfer}, s'.live[r]? = some t' →
    s.live[r]? = none ∧ t'.window = {} ∨
      ∃ t, s.live[r]? = some t ∧ t'.manifest = t.manifest ∧ KeepsWindow s s' r t t'
  kept : ∀ {r : Nat} {t : LiveTransfer}, s.live[r]? = some t → ∃ t', s'.live[r]? = some t'

section Quiet

theorem quiet_of_eq (hoperations : ∀ {i : Nat} {operation : AttachmentOperation},
      operation.fills.isSome = true →
      (s'.operations[i]? = some operation ↔ s.operations[i]? = some operation))
    (hlive : s'.live = s.live) (houtbound : s'.outbound = s.outbound) : Quiet s s' := by
  refine ⟨hoperations, ?_, ?_⟩
  · intro r t' hget
    rw [hlive] at hget
    refine .inr ⟨t', hget, rfl, .inl ⟨rfl, ?_⟩⟩
    unfold Listed
    rw [houtbound]
  · intro r t hget
    rw [hlive]
    exact ⟨t, hget⟩

theorem Quiet.rfl : Quiet s s := quiet_of_eq (fun _ => Iff.rfl) (Eq.refl _) (Eq.refl _)

theorem KeepsWindow.trans {t'' : LiveTransfer} (h : KeepsWindow s s' r t t')
    (h' : KeepsWindow s' s'' r t' t'') : KeepsWindow s s'' r t t'' := by
  rcases h' with ⟨hsame', hlisted'⟩ | ⟨hclear', hnot'⟩
  · rcases h with ⟨hsame, hlisted⟩ | ⟨hclear, hnot⟩
    · exact .inl ⟨hsame'.trans hsame, hlisted'.trans hlisted⟩
    · exact .inr ⟨hsame'.trans hclear, fun h => hnot (hlisted'.mp h)⟩
  · refine .inr ⟨?_, hnot'⟩
    rcases h with ⟨hsame, -⟩ | ⟨hclear, -⟩
    · rw [hclear', hsame]
    · rw [hclear', hclear]

theorem Quiet.trans (h : Quiet s s') (h' : Quiet s' s'') : Quiet s s'' := by
  refine ⟨fun hfills => (h'.operations hfills).trans (h.operations hfills), ?_, ?_⟩
  · intro r t'' hget
    rcases h'.live hget with ⟨hnone, hempty⟩ | ⟨t', hget', hmanifest', hkeeps'⟩
    · refine .inl ⟨?_, hempty⟩
      by_contra hsome
      obtain ⟨t, hget'⟩ := Option.ne_none_iff_exists'.mp hsome
      obtain ⟨t', hget'⟩ := h.kept hget'
      rw [hnone] at hget'
      cases hget'
    · rcases h.live hget' with ⟨hnone, hempty⟩ | ⟨t, hget, hmanifest, hkeeps⟩
      · refine .inl ⟨hnone, ?_⟩
        rcases hkeeps' with ⟨hsame, -⟩ | ⟨hclear, -⟩
        · rw [hsame, hempty]
        · rw [hclear, hempty]
      · exact .inr ⟨t, hget, hmanifest'.trans hmanifest, hkeeps.trans hkeeps'⟩
  · intro r t hget
    obtain ⟨t', hget'⟩ := h.kept hget
    exact h'.kept hget'

theorem quiet_start (hnone : operation.fills = none) : Quiet s (s.start operation) := by
  refine quiet_of_eq (fun {i operation'} hfills => ?_) rfl rfl
  change (s.operations ++ [operation])[i]? = some operation' ↔ _
  rw [getElem?_concat_eq_some_iff]
  constructor
  · rintro (hget | ⟨-, rfl⟩)
    · exact hget
    · rw [hnone] at hfills
      cases hfills
  · exact .inl

theorem quiet_resume (hnone : operation.fills = none)
    (hget : s.operations[i]? = some operation') (hnone' : operation'.fills = none) :
    Quiet s (s.resume i operation) := by
  refine quiet_of_eq (fun {j a} hfills => ?_) rfl rfl
  change (s.operations.set i operation)[j]? = some a ↔ _
  by_cases heq : i = j
  · subst heq
    have hne : ∀ {a : AttachmentOperation}, a.fills = none → a.fills.isSome = true → False := by
      intro a hnone hsome
      rw [hnone] at hsome
      cases hsome
    constructor
    · intro hset
      rcases of_getElem?_set hset with ⟨-, rfl⟩ | ⟨hne, -⟩
      · exact (hne hnone hfills).elim
      · exact absurd rfl hne
    · intro hget'
      rw [hget] at hget'
      cases hget'
      exact (hne hnone' hfills).elim
  · rw [List.getElem?_set_ne heq]

theorem quiet_update (hmanifest : ∀ t, s.live[r]? = some t → (f t).manifest = t.manifest)
    (hpeerId : ∀ t, s.live[r]? = some t → (f t).peerId = t.peerId)
    (hwindow : ∀ t, s.live[r]? = some t → (f t).window = t.window) : Quiet s (s.update r f) := by
  refine ⟨fun _ => Iff.rfl, ?_, ?_⟩
  · intro r' t' hget
    obtain ⟨t, hget', ⟨rfl, rfl⟩ | ⟨-, rfl⟩⟩ := getElem?_update hget
    · refine .inr ⟨t, hget', hmanifest t hget', .inl ⟨hwindow t hget', ?_⟩⟩
      unfold Listed
      rw [hpeerId t hget']
      exact Iff.rfl
    · exact .inr ⟨t', hget', rfl, .inl ⟨rfl, Iff.rfl⟩⟩
  · intro r' t hget
    change ∃ t', (s.live.modify r f)[r']? = some t'
    rw [List.getElem?_modify, hget]
    exact ⟨_, rfl⟩

theorem manifest_step (event : AttachmentTransferEvent) (t : LiveTransfer) :
    LiveTransfer.manifest { t with transfer := (t.transfer.step event).1 } = t.manifest := by
  unfold LiveTransfer.manifest
  rw [(AttachmentTransferState.same_step event).manifest]

theorem quiet_transition {transfer : AttachmentTransferState} (hget : s.live[r]? = some t)
    (event : AttachmentTransferEvent) (htransfer : transfer = (t.transfer.step event).1) :
    Quiet s (s.update r fun t => { t with transfer }) := by
  refine quiet_update (fun t' hget' => ?_) (fun _ _ => rfl) (fun _ _ => rfl)
  rw [hget] at hget'
  obtain rfl := Option.some.inj hget'
  rw [htransfer]
  exact manifest_step event t

theorem quiet_expireRegistry : Quiet s (s.expireRegistry g now) := by
  unfold expireRegistry
  split
  · exact quiet_of_eq (fun _ => Iff.rfl) rfl rfl
  · rename_i r _
    have hexpired : Quiet s (s.update r fun t =>
        { t with transfer := (t.transfer.expire (some now)).1 }) :=
      quiet_update (fun t _ => manifest_step (.expire (some now)) t) (fun _ _ => rfl) (fun _ _ => rfl)
    exact hexpired.trans (quiet_of_eq (fun _ => Iff.rfl) rfl rfl)

theorem outbound_expireRegistry : (s.expireRegistry g now).outbound = s.outbound :=
  congrFun table_expireRegistry .outbound

theorem expireRegistry_outbound (m : InsertionMap String Nat) :
    { s.expireRegistry g now with outbound := m } =
      expireRegistry { s with outbound := m } g now := by
  unfold expireRegistry
  dsimp only
  split <;> rfl

theorem quiet_close (hlisted : s.outbound.get? peerId = some r) (hget : s.live[r]? = some t)
    (hpeerId : t.peerId = peerId) :
    Quiet s { s.update r .endedOutbound with outbound := s.outbound.delete peerId } := by
  refine ⟨fun _ => Iff.rfl, ?_, ?_⟩
  · intro r' t' hget'
    obtain ⟨t'', hget'', ⟨rfl, rfl⟩ | ⟨hne, rfl⟩⟩ := getElem?_update hget'
    · rw [hget] at hget''
      obtain rfl := Option.some.inj hget''
      refine .inr ⟨t, hget, manifest_step .abort t, .inr ⟨rfl, fun hlisted' => ?_⟩⟩
      have hlisted' : (s.outbound.delete peerId).get? t.peerId = some r := hlisted'
      rw [InsertionMap.get?_delete_eq_some_iff] at hlisted'
      exact hlisted'.1 hpeerId
    · refine .inr ⟨t', hget'', rfl, .inl ⟨rfl, ?_⟩⟩
      change (s.outbound.delete peerId).get? t'.peerId = some r' ↔ _
      rw [InsertionMap.get?_delete_eq_some_iff]
      constructor
      · exact And.right
      · intro hlisted'
        refine ⟨?_, hlisted'⟩
        rintro rfl
        exact hne (Option.some.inj (hlisted.symm.trans hlisted'))
  · intro r' t' hget'
    change ∃ t'', (s.live.modify r .endedOutbound)[r']? = some t''
    rw [List.getElem?_modify, hget']
    exact ⟨_, rfl⟩

theorem quiet_endTransfer (h : s.Sound) (direction : AttachmentDirection) (peerId : String)
    (reason : AttachmentControllerReason) (now : Nat) :
    Quiet s (s.endTransfer direction peerId reason now).1 := by
  cases hlisted : (s.table direction).get? peerId with
  | none =>
    rw [endTransfer_of_none hlisted]
    exact .rfl
  | some r =>
    obtain ⟨t, hget, -, hpeerId⟩ := h.listed hlisted
    cases direction with
    | inbound =>
      have hlisted : s.inbound.get? peerId = some r := hlisted
      simp only [endTransfer, endInbound, hlisted, hget]
      have haborted : Quiet s (s.update r .endedInbound) :=
        quiet_update (fun t _ => manifest_step .abort t) (fun _ _ => rfl) (fun _ _ => rfl)
      exact (haborted.trans quiet_expireRegistry).trans
        (quiet_of_eq (fun _ => Iff.rfl) rfl rfl)
    | outbound =>
      have hlisted : s.outbound.get? peerId = some r := hlisted
      simp only [endTransfer, endOutbound, hlisted, hget]
      have hforget : Quiet s (s.forget t) := quiet_of_eq (fun _ => Iff.rfl) rfl rfl
      have hclosed : Quiet (s.forget t) _ := quiet_close hlisted hget hpeerId
      rw [outbound_expireRegistry, expireRegistry_outbound]
      exact (hforget.trans hclosed).trans quiet_expireRegistry

end Quiet

/-- One operation at a time fills a window, which has a mark that it is being filled. -/
structure Fillers (s : AttachmentController) : Prop where
  filling : ∀ {i r : Nat} {operation : AttachmentOperation}, s.operations[i]? = some operation →
    operation.fills = some r → ∃ t, s.live[r]? = some t ∧ t.window.filling = true
  alone : ∀ {i j r : Nat} {operation operation' : AttachmentOperation},
    s.operations[i]? = some operation → s.operations[j]? = some operation' →
      operation.fills = some r → operation'.fills = some r → i = j

def Reading (s : AttachmentController) (r index : Nat) : Prop :=
  .readingChunk r index ∈ s.operations

structure Windowed (Q : OutboundWindow → Nat → (Nat → Prop) → Prop → Prop)
    (s : AttachmentController) : Prop where
  fillers : s.Fillers
  windows : ∀ {r : Nat} {t : LiveTransfer}, s.live[r]? = some t →
    Q t.window t.manifest.chunkCount (s.Reading r) (s.Listed r t)

section Windowed

variable {Q : OutboundWindow → Nat → (Nat → Prop) → Prop → Prop}

theorem windowed_init : Windowed Q {} := by
  refine ⟨⟨?_, ?_⟩, ?_⟩
  · rintro i r operation ⟨⟩
  · rintro i j r operation operation' ⟨⟩
  · rintro r t ⟨⟩

theorem Quiet.reading (h : Quiet s s') : s'.Reading r = s.Reading r := by
  funext index
  unfold Reading
  rw [List.mem_iff_getElem?, List.mem_iff_getElem?]
  exact propext (exists_congr fun i => h.operations (by rfl))

theorem Windowed.quiet (h : s.Windowed Q) (hQ : OutboundWindow.Stable Q) (hquiet : Quiet s s') :
    s'.Windowed Q := by
  have hfills : ∀ {i r : Nat} {operation : AttachmentOperation},
      s'.operations[i]? = some operation → operation.fills = some r →
        s.operations[i]? = some operation := by
    intro i r operation hget hfills
    exact (hquiet.operations (by rw [hfills]; rfl)).mp hget
  refine ⟨⟨?_, ?_⟩, ?_⟩
  · intro i r operation hget hr
    obtain ⟨t, hlive, hfilling⟩ := h.fillers.filling (hfills hget hr) hr
    obtain ⟨t', hlive'⟩ := hquiet.kept hlive
    refine ⟨t', hlive', ?_⟩
    rcases hquiet.live hlive' with ⟨hnone, -⟩ | ⟨t'', hlive'', -, hkeeps⟩
    · rw [hlive] at hnone
      cases hnone
    · rw [hlive] at hlive''
      obtain rfl := Option.some.inj hlive''
      rcases hkeeps with ⟨hsame, -⟩ | ⟨hclear, -⟩
      · rw [hsame, hfilling]
      · rw [hclear, hfilling]
  · intro i j r operation operation' hget hget' hr hr'
    exact h.fillers.alone (hfills hget hr) (hfills hget' hr') hr hr'
  · intro r t' hlive'
    rw [hquiet.reading]
    rcases hquiet.live hlive' with ⟨hnone, hempty⟩ | ⟨t, hlive, hmanifest, hkeeps⟩
    · have hreading : s.Reading r = fun _ => False := by
        funext index
        refine propext (iff_false_intro fun hmem => ?_)
        obtain ⟨i, hget⟩ := List.mem_iff_getElem?.mp hmem
        obtain ⟨t, hlive, -⟩ := h.fillers.filling hget rfl
        rw [hnone] at hlive
        cases hlive
      rw [hempty, hreading]
      exact hQ.empty
    · have hwindow := h.windows hlive
      rw [hmanifest]
      rcases hkeeps with ⟨hsame, hlisted⟩ | ⟨hclear, hnot⟩
      · rw [hsame, propext hlisted]
        exact hwindow
      · rw [hclear, propext (iff_false_intro hnot)]
        exact hQ.clear hwindow

structure Slot (s : AttachmentController) (i r : Nat) : Prop where
  here : ∃ operation, s.operations[i]? = some operation ∧
    ∀ r', operation.fills = some r' → r' = r
  alone : ∀ {j : Nat} {operation : AttachmentOperation}, s.operations[j]? = some operation →
    operation.fills = some r → j = i

theorem Fillers.slot (h : s.Fillers) (hget : s.operations[i]? = some operation)
    (hfills : operation.fills = some r) : s.Slot i r := by
  refine ⟨⟨operation, hget, fun r' hfills' => ?_⟩, fun hget' hfills' => ?_⟩
  · rw [hfills] at hfills'
    exact (Option.some.inj hfills').symm
  · exact h.alone hget' hget hfills' hfills

theorem Slot.reading (h : s.Slot i r) (hget : s.operations[i]? = some operation) :
    s.Reading r = fun index => operation = .readingChunk r index := by
  funext index
  refine propext ⟨fun hmem => ?_, fun heq => ?_⟩
  · obtain ⟨j, hget'⟩ := List.mem_iff_getElem?.mp hmem
    obtain rfl := h.alone hget' rfl
    rw [hget] at hget'
    exact Option.some.inj hget'
  · exact List.mem_iff_getElem?.mpr ⟨i, heq ▸ hget⟩

theorem Slot.resume (h : s.Slot i r) (hfills : ∀ r', operation.fills = some r' → r' = r) :
    (s.resume i operation).Slot i r := by
  obtain ⟨old, hget, -⟩ := h.here
  refine ⟨⟨operation, ?_, hfills⟩, fun hget' hfills' => ?_⟩
  · change (s.operations.set i operation)[i]? = _
    rw [List.getElem?_set_self' , hget]
    rfl
  · rcases of_getElem?_set hget' with ⟨rfl, -⟩ | ⟨-, hget'⟩
    · rfl
    · exact h.alone hget' hfills'

theorem Slot.reading_other {r' : Nat} (h : s.Slot i r)
    (hfills : ∀ r', operation.fills = some r' → r' = r) (hne : r' ≠ r) :
    (s.resume i operation).Reading r' = s.Reading r' := by
  obtain ⟨old, hget, hold⟩ := h.here
  funext index
  refine propext ⟨fun hmem => ?_, fun hmem => ?_⟩
  · obtain ⟨j, hget'⟩ := List.mem_iff_getElem?.mp hmem
    rcases of_getElem?_set hget' with ⟨-, heq⟩ | ⟨-, hget'⟩
    · exact absurd (hfills r' (by rw [← heq]; rfl)) hne
    · exact List.mem_iff_getElem?.mpr ⟨j, hget'⟩
  · obtain ⟨j, hget'⟩ := List.mem_iff_getElem?.mp hmem
    refine List.mem_iff_getElem?.mpr ⟨j, ?_⟩
    change (s.operations.set i operation)[j]? = _
    rw [List.getElem?_set_ne, hget']
    rintro rfl
    rw [hget] at hget'
    obtain rfl := Option.some.inj hget'
    exact hne (hold r' rfl)

theorem Windowed.change {w : OutboundWindow → OutboundWindow} (h : s.Windowed Q)
    (hslot : s.Slot i r) (hget : s.live[r]? = some t)
    (hfills : ∀ r', operation.fills = some r' → r' = r ∧ (w t.window).filling = true)
    (hwindow : Q (w t.window) t.manifest.chunkCount
      (fun index => operation = .readingChunk r index) (s.Listed r t)) :
    ((s.updateWindow r w).resume i operation).Windowed Q := by
  have hself : (s.updateWindow r w).live[r]? = some { t with window := w t.window } := by
    change (s.live.modify r _)[r]? = _
    rw [List.getElem?_modify_eq, hget]
    rfl
  obtain hslot' : (s.updateWindow r w).Slot i r := ⟨hslot.here, hslot.alone⟩
  have hsame := fun r' hr' => (hfills r' hr').1
  have hresumed := hslot'.resume hsame
  refine ⟨⟨?_, ?_⟩, ?_⟩
  · intro j r' a hget' hr'
    rcases of_getElem?_set hget' with ⟨rfl, rfl⟩ | ⟨hne, hget'⟩
    · obtain ⟨rfl, hfilling⟩ := hfills r' hr'
      exact ⟨_, hself, hfilling⟩
    · obtain ⟨t', hlive, hfilling⟩ := h.fillers.filling hget' hr'
      refine ⟨t', ?_, hfilling⟩
      change (s.live.modify r _)[r']? = _
      rw [List.getElem?_modify_ne _ _ ?_, hlive]
      rintro rfl
      exact hne (hslot.alone hget' hr').symm
  · intro j k r' a a' hget' hget'' hr' hr''
    rcases of_getElem?_set hget' with ⟨rfl, rfl⟩ | ⟨hne, hold⟩
    · rw [hsame r' hr'] at hr''
      exact (hresumed.alone hget'' hr'').symm
    · rcases of_getElem?_set hget'' with ⟨rfl, rfl⟩ | ⟨hne', hold'⟩
      · rw [hsame r' hr''] at hr'
        exact hresumed.alone hget' hr'
      · exact h.fillers.alone hold hold' hr' hr''
  · intro r' t' hget'
    obtain ⟨t'', hlive, ⟨rfl, rfl⟩ | ⟨hne, rfl⟩⟩ := getElem?_update hget'
    · rw [hget] at hlive
      obtain rfl := Option.some.inj hlive
      have hnow : ((s.updateWindow r w).resume i operation).operations[i]? = some operation := by
        obtain ⟨old, hold, -⟩ := hslot.here
        change (s.operations.set i operation)[i]? = _
        rw [List.getElem?_set_self', hold]
        rfl
      rw [hresumed.reading hnow]
      exact hwindow
    · rw [hslot'.reading_other hsame (Ne.symm hne)]
      exact h.windows hlive

theorem Windowed.updateWindow {w : OutboundWindow → OutboundWindow} (h : s.Windowed Q)
    (hfilling : ∀ t, s.live[r]? = some t → t.window.filling = true →
      (w t.window).filling = true)
    (hwindow : ∀ t, s.live[r]? = some t →
      Q (w t.window) t.manifest.chunkCount (s.Reading r) (s.Listed r t)) :
    (s.updateWindow r w).Windowed Q := by
  refine ⟨⟨?_, h.fillers.alone⟩, ?_⟩
  · intro i r' operation hget hr'
    obtain ⟨t, hlive, hflag⟩ := h.fillers.filling hget hr'
    by_cases heq : r = r'
    · subst heq
      refine ⟨{ t with window := w t.window }, ?_, hfilling t hlive hflag⟩
      change (s.live.modify r _)[r]? = _
      rw [List.getElem?_modify_eq, hlive]
      rfl
    · refine ⟨t, ?_, hflag⟩
      change (s.live.modify r _)[r']? = _
      rw [List.getElem?_modify_ne _ _ heq, hlive]
  · intro r' t' hget'
    obtain ⟨t, hlive, ⟨rfl, rfl⟩ | ⟨-, rfl⟩⟩ := getElem?_update hget'
    · exact hwindow t hlive
    · exact h.windows hlive

theorem Windowed.stopFilling (h : s.Windowed Q) (hQ : OutboundWindow.Stable Q)
    (hslot : s.Slot i r) (hget : s.live[r]? = some t)
    (hstop : Q t.window t.manifest.chunkCount (fun _ => False) (s.Listed r t)) :
    (s.stopFilling i r).Windowed Q := by
  refine h.change hslot hget (fun r' hr' => by cases hr') ?_
  have hnone : (fun index => AttachmentOperation.finished = .readingChunk r index) =
      fun _ => False := by
    funext index
    exact propext (iff_false_intro fun heq => by cases heq)
  rw [hnone]
  exact hQ.flag false hstop

theorem Windowed.fillLoop (h : s.Windowed Q) (hQ : OutboundWindow.Stable Q) (hslot : s.Slot i r)
    (hget : s.live[r]? = some t) (hfilling : t.window.filling = true)
    (hnone : s.Reading r = fun _ => False) : (s.fillLoop i r).Windowed Q := by
  have hwindow := h.windows hget
  rw [hnone] at hwindow
  unfold AttachmentController.fillLoop
  simp only [hget]
  split
  · rename_i hroom
    refine h.change hslot hget ?_ ?_
    · intro r' hr'
      cases hr'
      exact ⟨rfl, hfilling⟩
    · have hindex : (fun index => AttachmentOperation.readingChunk r t.window.nextChunkIndex =
          .readingChunk r index) = fun index => index = t.window.nextChunkIndex := by
        funext index
        rw [AttachmentOperation.readingChunk.injEq]
        exact propext ⟨fun heq => heq.2.symm, fun heq => ⟨rfl, heq.symm⟩⟩
      rw [hindex]
      exact hQ.take hwindow hroom.1 hroom.2
  · exact h.stopFilling hQ hslot hget hwindow

theorem Windowed.fillWindow (h : s.Windowed Q) (hQ : OutboundWindow.Stable Q) (r : Nat) :
    (s.fillWindow r).Windowed Q := by
  unfold AttachmentController.fillWindow
  split
  · exact h
  · rename_i t hget
    split
    · exact h
    · rename_i hfree
      -- No operation fills the window: such a one would have left its mark.
      have hidle : ∀ {j : Nat} {operation : AttachmentOperation},
          s.operations[j]? = some operation → operation.fills ≠ some r := by
        intro j operation hget' hfills
        obtain ⟨t', hlive, hflag⟩ := h.fillers.filling hget' hfills
        rw [hget] at hlive
        obtain rfl := Option.some.inj hlive
        exact hfree (.inl hflag)
      have hmarked : (s.updateWindow r fun w => { w with filling := true }).Windowed Q :=
        h.updateWindow (fun _ _ _ => rfl) fun t' hget' => hQ.flag true (h.windows hget')
      have hstarted : ((s.updateWindow r fun w => { w with filling := true }).start
          .finished).Windowed Q := hmarked.quiet hQ (quiet_start rfl)
      have hlive : ((s.updateWindow r fun w => { w with filling := true }).start
          .finished).live[r]? = some { t with window := { t.window with filling := true } } := by
        change (s.live.modify r _)[r]? = _
        rw [List.getElem?_modify_eq, hget]
        rfl
      refine hstarted.fillLoop hQ ?_ hlive rfl ?_
      · refine ⟨⟨.finished, ?_, fun r' hr' => by cases hr'⟩, ?_⟩
        · exact getElem?_concat_eq_some_iff.mpr (.inr ⟨rfl, rfl⟩)
        · intro j operation hget' hfills
          rcases getElem?_concat_eq_some_iff.mp hget' with hget' | ⟨hj, -⟩
          · exact absurd hfills (hidle hget')
          · exact hj
      · funext index
        refine propext (iff_false_intro fun hmem => ?_)
        obtain ⟨j, hget'⟩ := List.mem_iff_getElem?.mp hmem
        rcases getElem?_concat_eq_some_iff.mp hget' with hget' | ⟨-, heq⟩
        · exact hidle hget' rfl
        · cases heq

theorem Windowed.hand {index : Nat} {deliveryId : String} (h : s.Windowed Q)
    (hQ : OutboundWindow.Stable Q) (hget : s.operations[i]? = some (.readingChunk r index))
    (hlive : s.live[r]? = some t) (hlisted : s.Listed r t) :
    ((s.updateWindow r (·.hand index deliveryId)).resume i (.sendingChunk r)).Windowed Q := by
  have hslot : s.Slot i r := h.fillers.slot hget rfl
  have hreading : s.Reading r = fun i => i = index := by
    rw [hslot.reading hget]
    funext i
    rw [AttachmentOperation.readingChunk.injEq]
    exact propext ⟨fun heq => heq.2.symm, fun heq => ⟨rfl, heq.symm⟩⟩
  have hwindow := h.windows hlive
  rw [hreading] at hwindow
  refine h.change hslot hlive ?_ ?_
  · intro r' hr'
    cases hr'
    obtain ⟨t', hlive', hfilling⟩ := h.fillers.filling hget rfl
    rw [hlive] at hlive'
    obtain rfl := Option.some.inj hlive'
    exact ⟨rfl, hfilling⟩
  · have hnone : (fun i => AttachmentOperation.sendingChunk r = .readingChunk r i) =
        fun _ => False := by
      funext i
      exact propext (iff_false_intro fun heq => by cases heq)
    rw [hnone]
    exact hQ.hand deliveryId hwindow hlisted

theorem Windowed.acknowledge (h : s.Windowed Q) (hQ : OutboundWindow.Stable Q) (r : Nat)
    (deliveryId : String) : (s.updateWindow r (·.acknowledge deliveryId)).Windowed Q :=
  h.updateWindow (fun _ _ hflag => hflag) fun _ hget => hQ.acknowledge deliveryId (h.windows hget)

end Windowed

/-- A step with no chunk, and with no outbound transfer that is complete. -/
structure Uneventful (s : AttachmentController)
    (answer : AttachmentController × List AttachmentControllerEvent) : Prop where
  quiet : Quiet s answer.1
  unaccepted : Unaccepted answer.2

section Uneventful

variable {answer : AttachmentController × List AttachmentControllerEvent}

theorem Quiet.silent (h : Quiet s s') : Uneventful s (s', []) := ⟨h, unaccepted_nil⟩

theorem Quiet.uneventful (h : Quiet s s') (h' : Uneventful s' answer) : Uneventful s answer :=
  ⟨h.trans h'.quiet, h'.unaccepted⟩

variable {reason : AttachmentControllerReason}

theorem uneventful_endTransfer (h : s.Settled)
    (hreason : direction = .inbound ∨ reason ≠ .accepted) :
    Uneventful s (s.endTransfer direction peerId reason now) :=
  ⟨quiet_endTransfer h.sound direction peerId reason now, unaccepted_endTransfer hreason⟩

theorem uneventful_endInbound (h : s.Settled) :
    Uneventful s (s.endInbound peerId reason now) :=
  show Uneventful s (s.endTransfer .inbound peerId reason now) from
    uneventful_endTransfer h (.inl rfl)

theorem uneventful_endOutbound (h : s.Settled)
    (hreason : reason ≠ .accepted) : Uneventful s (s.endOutbound peerId reason now) :=
  show Uneventful s (s.endTransfer .outbound peerId reason now) from
    uneventful_endTransfer h (.inr hreason)

theorem fills_of_offering (h : operation.offering = some peerId) : operation.fills = none := by
  cases operation <;> first | rfl | cases h

theorem quiet_offerOver (hget : s.operations[i]? = some operation)
    (hoffering : operation.offering = some peerId) : Quiet s (s.offerOver i peerId) := by
  have hfinished : Quiet s (s.resume i .finished) :=
    quiet_resume rfl hget (fills_of_offering hoffering)
  exact hfinished.trans (quiet_of_eq (fun _ => Iff.rfl) rfl rfl)

theorem SameTransfers.quiet (h : SameTransfers s s') : Quiet s s' := by
  refine quiet_of_eq (fun {i operation} _ => ?_) h.live (congrFun h.table .outbound)
  rw [h.operations]

theorem quiet_opened (hoperations : ∀ {i : Nat} {operation : AttachmentOperation},
      operation.fills.isSome = true →
        (s'.operations[i]? = some operation ↔ s.operations[i]? = some operation))
    (hlive : s'.live = s.live ++ [t]) (hwindow : t.window = {})
    (houtbound : ∀ {r t}, s.live[r]? = some t → (s'.Listed r t ↔ s.Listed r t)) : Quiet s s' := by
  refine ⟨hoperations, ?_, ?_⟩
  · intro r t' hget
    rw [hlive] at hget
    rcases getElem?_concat_eq_some_iff.mp hget with hget | ⟨rfl, rfl⟩
    · exact .inr ⟨t', hget, rfl, .inl ⟨rfl, houtbound hget⟩⟩
    · exact .inl ⟨List.getElem?_eq_none (Nat.le_refl _), hwindow⟩
  · intro r t' hget
    rw [hlive]
    exact ⟨t', getElem?_concat_eq_some_iff.mpr (.inl hget)⟩

theorem quiet_launch {transfer : AttachmentTransferState} {unsigned : AttachmentManifest}
    {manifestDeliveryId : String} (hnone : (s.table .outbound).get? peerId = none)
    (hget : s.operations[i]? = some (.signingManifest peerId unsigned)) :
    Quiet s (s.launch i peerId g transfer manifestDeliveryId) := by
  refine quiet_opened (quiet_resume rfl hget rfl).operations rfl rfl fun {r t} hlive => ?_
  change (s.outbound.set peerId s.live.length).get? t.peerId = some r ↔
    s.outbound.get? t.peerId = some r
  by_cases heq : t.peerId = peerId
  · rw [heq, InsertionMap.get?_set_self]
    have hnone : s.outbound.get? peerId = none := hnone
    rw [hnone]
    refine iff_of_false (fun hsome => ?_) (fun hsome => by cases hsome)
    have hlt := (List.getElem?_eq_some_iff.mp hlive).1
    exact absurd (Option.some.inj hsome) (Nat.ne_of_gt hlt)
  · rw [InsertionMap.get?_set_of_ne heq]

theorem quiet_admitInbound {transfer : AttachmentTransferState} :
    Quiet s (s.admitInbound peerId g transfer) :=
  quiet_opened (fun _ => Iff.rfl) rfl rfl fun _ => Iff.rfl

theorem quiet_change {clock : Nat} (h : s.Settled) (hchange : Change False clock s s') :
    Quiet s s' := by
  cases hchange with
  | start _ hfills => exact quiet_start (hfills.resolve_left id)
  | resume _ hfills =>
    obtain ⟨hnone, old, hget, hnone'⟩ := hfills.resolve_left id
    exact quiet_resume hnone hget hnone'
  | sign unsigned hget => exact quiet_resume rfl hget rfl
  | offerOver hget hoffering => exact quiet_offerOver hget hoffering
  | @update r f hf =>
    have hsame : ∀ t, s.live[r]? = some t → (f t).manifest = t.manifest ∧
        (f t).peerId = t.peerId ∧ (f t).window = t.window := by
      intro t hlive
      obtain ⟨transfer, expiry, heq, hsame, -⟩ := hf t hlive
      rw [heq]
      exact ⟨congrArg Subtype.val hsame.manifest, rfl, rfl⟩
    exact quiet_update (fun t hlive => (hsame t hlive).1) (fun t hlive => (hsame t hlive).2.1)
      fun t hlive => (hsame t hlive).2.2
  | endTransfer direction peerId reason => exact quiet_endTransfer h.sound direction peerId reason _
  | @overdue r t now =>
    have hstopped : Quiet s (s.update r fun t => { t with manifestForwardTimeout := false }) :=
      quiet_update (fun _ _ => rfl) (fun _ _ => rfl) (fun _ _ => rfl)
    exact hstopped.trans (quiet_endTransfer (h.stopWaiting r).sound .outbound _ _ now)
  | opening hnone hof hopen => exact (opening h hnone hof hopen).2.1.quiet
  | window hfilling => exact hfilling.elim
  | acknowledgeManifest hfilling => exact hfilling.elim
  | acknowledgeChunk hfilling => exact hfilling.elim

theorem uneventful_reaches {clock : Nat} (h : s.Settled) (hreaches : Reaches False clock s answer) :
    Uneventful s answer := by
  induction hreaches with
  | done hevents => exact ⟨.rfl, hevents.resolve_left id⟩
  | change hchange _ ih => exact (quiet_change h hchange).uneventful (ih (h.change hchange))

theorem uneventful_step (h : s.Settled) (e : AttachmentEvent) (hfills : ¬ e.Fills) :
    Uneventful s (s.step e) := by
  obtain ⟨clock, hby⟩ := e.exists_by
  have hcourse := course_step h e hby
  generalize s.step e = answer at hcourse ⊢
  cases hcourse with
  | changes hreaches =>
    rw [eq_false hfills] at hreaches
    exact uneventful_reaches h hreaches
  | @offered peerId =>
    have hpeers : Quiet s { s with offeringPeers := s.offeringPeers ++ [peerId] } :=
      quiet_of_eq (fun _ => Iff.rfl) rfl rfl
    exact (hpeers.trans (quiet_start rfl)).silent
  | launched hget hof hopen =>
    have hnone := get?_outbound_of_signing h hget
    obtain ⟨-, hsame, -, -⟩ := opening h hnone hof hopen
    rw [← hsame.operations] at hget
    rw [← hsame.table] at hnone
    exact (hsame.quiet.trans (quiet_launch hnone hget)).silent
  | @admitted i g now shown peerId manifest s' s'' transfer _ hget hfree hof hopen _ hanswer =>
    obtain ⟨-, hsame, hadmitted⟩ := opening_inbound h (fun hhas => hfree (.inl hhas)) hof hopen
    have hquiet : Quiet s (s''.admitInbound peerId g transfer) :=
      ((quiet_resume rfl hget rfl).trans hsame.quiet).trans quiet_admitInbound
    rcases hanswer with ⟨-, rfl⟩ | ⟨reason, rfl⟩
    · exact ⟨hquiet, unaccepted_singleton nofun⟩
    · exact hquiet.uneventful (uneventful_endInbound hadmitted)
  | handed => exact absurd trivial hfills

end Uneventful

section Window

variable {Q : OutboundWindow → Nat → (Nat → Prop) → Prop → Prop} {index : Nat}
  {deliveryId : String}

/-- A part of the file that cannot be read is one of a transfer that is not in its table. -/
def Readable (s : AttachmentController) : AttachmentEvent → Prop
  | .chunkRead i none _ _ => ∀ r index t, s.operations[i]? = some (.readingChunk r index) →
      s.live[r]? = some t → ¬ s.Listed r t
  | _ => True

/-- The acknowledgement that leaves nothing outstanding behind the last index comes when no part
of the file is awaited. -/
def Timely (s : AttachmentController) : AttachmentEvent → Prop
  | .relayForwarded deliveryId _ => ∀ r t, s.deliveryToOutbound.get? deliveryId = some r →
      s.live[r]? = some t → t.manifest.chunkCount ≤ t.window.nextChunkIndex →
        (t.window.outstanding.delete deliveryId).size = 0 → ∀ index, ¬ s.Reading r index
  | _ => True

theorem windowed_onRelayForwarded (hQ : OutboundWindow.Stable Q) (h : s.Settled)
    (hwindowed : s.Windowed Q) : (s.onRelayForwarded deliveryId now).1.Windowed Q := by
  unfold onRelayForwarded
  split
  · rename_i r _
    have hcancelled : Quiet s (s.update r fun t => { t with manifestForwardTimeout := false }) :=
      quiet_update (fun _ _ => rfl) (fun _ _ => rfl) (fun _ _ => rfl)
    exact hwindowed.quiet hQ (hcancelled.trans (quiet_of_eq (fun _ => Iff.rfl) rfl rfl))
  · split
    · exact hwindowed
    · rename_i r _
      split
      · exact hwindowed
      · split
        · exact hwindowed
        · have hacknowledged : Windowed Q { s.updateWindow r (·.acknowledge deliveryId) with
              deliveryToOutbound := s.deliveryToOutbound.delete deliveryId } :=
            (hwindowed.acknowledge hQ r deliveryId).quiet hQ
              (quiet_of_eq (fun _ => Iff.rfl) rfl rfl)
          have hsettled := (h.updateWindow r (·.acknowledge deliveryId)).deliveries
            (s.deliveryToOutbound.delete deliveryId)
          dsimp only
          split
          · exact hacknowledged.quiet hQ (quiet_endTransfer hsettled.sound .outbound _ _ _)
          · exact hacknowledged.fillWindow hQ r

theorem windowed_decisionVerified {decision : AttachmentDecision} {verified : Bool}
    (hQ : OutboundWindow.Stable Q) (h : s.Settled) (hwindowed : s.Windowed Q)
    (hget : s.operations[i]? = some operation) (hfills : operation.fills = none) :
    (s.decisionVerified i peerId decision verified now).1.Windowed Q ∧
      Unaccepted (s.decisionVerified i peerId decision verified now).2 := by
  have hresumed : Quiet s (s.resume i .finished) := quiet_resume rfl hget hfills
  have hfinished : (s.resume i .finished).Settled := h.resume rfl
  have hdone {answer : AttachmentController × List AttachmentControllerEvent}
      (hanswer : Uneventful s answer) : answer.1.Windowed Q ∧ Unaccepted answer.2 :=
    ⟨hwindowed.quiet hQ hanswer.quiet, hanswer.unaccepted⟩
  unfold decisionVerified
  dsimp only
  split
  · exact hdone hresumed.silent
  · split
    · rename_i r _
      split
      · exact hdone hresumed.silent
      · rename_i t hlive
        have hmoved := hresumed.trans
          (quiet_transition hlive (.receiveDecision decision (some now)) rfl)
        have hsettled := hfinished.transition hlive (.receiveDecision decision (some now)) rfl
        split
        · refine ⟨(hwindowed.quiet hQ hmoved).fillWindow hQ r, fun _ _ hmem => ?_⟩
          cases List.mem_singleton.mp hmem
        · exact hdone (hmoved.uneventful (uneventful_endOutbound hsettled (by decide)))
        · exact hdone (hmoved.uneventful (uneventful_endOutbound hsettled (by decide)))
        · exact hdone (hmoved.uneventful (uneventful_endOutbound hsettled (by decide)))
        · exact hdone (hmoved.uneventful (uneventful_endOutbound hsettled (by decide)))
        · exact hdone hmoved.silent
    · split
      · exact hdone hresumed.silent
      · split
        · exact hdone hresumed.silent
        · split
          · exact hdone hresumed.silent
          · rename_i t hlive
            have hmoved := hresumed.trans
              (quiet_transition hlive (.cancel decision (some now)) rfl)
            have hsettled := hfinished.transition hlive (.cancel decision (some now)) rfl
            split
            · exact hdone (hmoved.uneventful (uneventful_endInbound hsettled))
            · exact hdone hmoved.silent

variable {reason : AttachmentControllerReason}

theorem not_listed_endOutbound (h : s.Settled)
    (hget : s.live[r]? = some t) (hpeerId : t.peerId = peerId) :
    ¬ (s.endOutbound peerId reason now).1.Listed r t' := by
  intro hlisted
  have hlisted : ((s.endTransfer .outbound peerId reason now).1.table .outbound).get?
    t'.peerId = some r := hlisted
  have hended := (ended_endTransfer h.sound .outbound peerId reason now).1
  obtain ⟨hne, hlisted⟩ := hended.table.mp hlisted
  obtain ⟨t'', hget', -, hpeerId'⟩ := h.sound.listed hlisted
  rw [hget] at hget'
  obtain rfl := Option.some.inj hget'
  exact hne ⟨rfl, hpeerId'.symm.trans hpeerId⟩

theorem windowed_endOutbound_stopFilling
    (hQ : OutboundWindow.Stable Q) (h : s.Settled) (hwindowed : s.Windowed Q)
    (hget : s.operations[i]? = some operation) (hfills : operation.fills = some r)
    (hlive : s.live[r]? = some t) (hpeerId : t.peerId = peerId) :
    ((s.endOutbound peerId reason now).1.stopFilling i r).Windowed Q := by
  have hquiet : Quiet s (s.endOutbound peerId reason now).1 :=
    quiet_endTransfer h.sound .outbound peerId reason now
  have hended : (s.endOutbound peerId reason now).1.Windowed Q := hwindowed.quiet hQ hquiet
  obtain ⟨t', hlive'⟩ := hquiet.kept hlive
  have hget' := (hquiet.operations (by rw [hfills]; rfl)).mpr hget
  refine hended.stopFilling hQ (hended.fillers.slot hget' hfills) hlive' ?_
  exact hQ.stop (hended.windows hlive') fun hlisted =>
    absurd hlisted (not_listed_endOutbound h hlive hpeerId)

theorem windowed_chunkRead {bytes : Option (List UInt8)} (hQ : OutboundWindow.Stable Q)
    (h : s.Settled) (hwindowed : s.Windowed Q)
    (hget : s.operations[i]? = some (.readingChunk r index))
    (hread : (∀ {w count reading current}, Q w count reading current →
      Q w count (fun _ => False) current) ∨ s.Readable (.chunkRead i bytes deliveryId now)) :
    (s.chunkRead i r index bytes deliveryId now).1.Windowed Q ∧
      Unaccepted (s.chunkRead i r index bytes deliveryId now).2 := by
  have hslot : s.Slot i r := hwindowed.fillers.slot hget rfl
  unfold chunkRead
  split
  · exact ⟨hwindowed, unaccepted_nil⟩
  · rename_i t hlive
    cases bytes with
    | none =>
      refine ⟨hwindowed.stopFilling hQ hslot hlive ?_, unaccepted_nil⟩
      rcases hread with hdrop | hreadable
      · exact hdrop (hwindowed.windows hlive)
      · exact hQ.stop (hwindowed.windows hlive)
          fun hlisted => absurd hlisted (hreadable r index t hget hlive)
    | some bytes =>
      have hmoved := fun chunk =>
        quiet_transition hlive (.admitOutboundChunk chunk (some now)) rfl
      have hlive' : ∀ transfer, (s.update r fun t => { t with transfer }).live[r]? =
          some { t with transfer } := by
        intro transfer
        change (s.live.modify r _)[r]? = _
        rw [List.getElem?_modify_eq, hlive]
        rfl
      dsimp only
      split
      · have hsettled := fun chunk =>
          h.transition hlive (.admitOutboundChunk chunk (some now)) rfl
        refine ⟨windowed_endOutbound_stopFilling hQ (hsettled _)
          (hwindowed.quiet hQ (hmoved _)) hget rfl (hlive' _) rfl, ?_⟩
        exact unaccepted_endOutbound (by decide)
      · rename_i hstored
        refine ⟨?_, unaccepted_nil⟩
        obtain ⟨hdirection, hterminal⟩ :=
          AttachmentTransferState.live_of_chunkStored (not_not.mp hstored)
        have hlisted : s.Listed r t := by
          have hlisted := (h.sound.ended hlive).resolve_right (by rw [hterminal]; simp)
          rw [LiveTransfer.direction, hdirection] at hlisted
          exact hlisted
        exact ((hwindowed.quiet hQ (hmoved _)).hand hQ hget (hlive' _) hlisted).quiet hQ
          (quiet_of_eq (fun _ => Iff.rfl) rfl rfl)

theorem windowed_chunkSent {ok : Bool} (hQ : OutboundWindow.Stable Q) (h : s.Settled)
    (hwindowed : s.Windowed Q) (hget : s.operations[i]? = some (.sendingChunk r)) :
    (s.chunkSent i r ok now).1.Windowed Q ∧ Unaccepted (s.chunkSent i r ok now).2 := by
  have hslot : s.Slot i r := hwindowed.fillers.slot hget rfl
  obtain ⟨t, hlive, hfilling⟩ := hwindowed.fillers.filling hget rfl
  unfold chunkSent
  split
  · refine ⟨hwindowed.fillLoop hQ hslot hlive hfilling ?_, unaccepted_nil⟩
    rw [hslot.reading hget]
    funext index
    exact propext (iff_false_intro fun heq => by cases heq)
  · simp only [hlive]
    refine ⟨windowed_endOutbound_stopFilling hQ h hwindowed hget rfl hlive rfl, ?_⟩
    exact unaccepted_endOutbound (by decide)

theorem windowed_next (hQ : OutboundWindow.Stable Q) (h : s.Settled) (hwindowed : s.Windowed Q)
    (e : AttachmentEvent)
    (hread : (∀ {w count reading current}, Q w count reading current →
      Q w count (fun _ => False) current) ∨ s.Readable e) :
    (s.next e).Windowed Q ∧
      ((∃ deliveryId now, e = .relayForwarded deliveryId now) ∨ Unaccepted (s.step e).2) := by
  have hdone {answer : AttachmentController × List AttachmentControllerEvent}
      (hanswer : Uneventful s answer) : answer.1.Windowed Q ∧
        ((∃ deliveryId now, e = .relayForwarded deliveryId now) ∨ Unaccepted answer.2) :=
    ⟨hwindowed.quiet hQ hanswer.quiet, .inr hanswer.unaccepted⟩
  cases e with
  | decisionVerified i verified now =>
    unfold next step
    dsimp only
    split
    · rename_i hget
      obtain ⟨hnext, hevents⟩ := windowed_decisionVerified hQ h hwindowed hget rfl
      exact ⟨hnext, .inr hevents⟩
    · exact hdone Quiet.rfl.silent
  | relayForwarded deliveryId now =>
    exact ⟨windowed_onRelayForwarded hQ h hwindowed, .inl ⟨deliveryId, now, rfl⟩⟩
  | chunkRead i bytes deliveryId now =>
    unfold next step
    dsimp only
    split
    · rename_i hget
      obtain ⟨hnext, hevents⟩ := windowed_chunkRead hQ h hwindowed hget hread
      exact ⟨hnext, .inr hevents⟩
    · exact hdone Quiet.rfl.silent
  | chunkSent i ok now =>
    unfold next step
    dsimp only
    split
    · rename_i hget
      obtain ⟨hnext, hevents⟩ := windowed_chunkSent hQ h hwindowed hget
      exact ⟨hnext, .inr hevents⟩
    · exact hdone Quiet.rfl.silent
  | _ => exact hdone (uneventful_step h _ id)

/-- All chunks of a transfer were handed to the relay once, and all of their deliveries were
forwarded. -/
def Forwarded (t : LiveTransfer) : Prop :=
  (t.window.handed.map Prod.fst).Perm (List.range t.manifest.chunkCount) ∧
    ∀ p ∈ t.window.handed, p.2 ∈ t.window.forwarded

def ReportsForwarded (s : AttachmentController) (e : AttachmentEvent) : Prop :=
  ∀ peerId r, .ended peerId .outbound .accepted (some r) ∈ (s.step e).2 →
    ∃ t, (s.next e).live[r]? = some t ∧ Forwarded t

theorem mem_endOutbound {peerId' : String}
    {direction' : AttachmentDirection} {reason' : AttachmentControllerReason} {own : Option Nat}
    (hmem : .ended peerId' direction' reason' own ∈ (s.endOutbound peerId reason now).2) :
    own = s.outbound.get? peerId := by
  unfold endOutbound at hmem
  cases hlisted : s.outbound.get? peerId with
  | none =>
    simp only [hlisted] at hmem
    cases hmem
  | some r =>
    simp only [hlisted] at hmem
    split at hmem
    · cases hmem
    · cases List.mem_singleton.mp hmem
      rfl

theorem reportsForwarded_relayForwarded (h : s.Settled) (hsound : s.Windowed OutboundWindow.Sound)
    (hcovered : s.Windowed OutboundWindow.Covered) (htimely : s.Timely (.relayForwarded deliveryId now)) :
    s.ReportsForwarded (.relayForwarded deliveryId now) := by
  intro peerId r' hmem
  change _ ∈ (s.onRelayForwarded deliveryId now).2 at hmem
  change ∃ t, (s.onRelayForwarded deliveryId now).1.live[r']? = some t ∧ _
  unfold onRelayForwarded at hmem ⊢
  split at hmem
  · cases hmem
  · split at hmem
    · cases hmem
    · rename_i r hdelivery
      split at hmem
      · cases hmem
      · rename_i t hlive
        split at hmem
        · cases hmem
        · rename_i hhas
          simp only [if_neg hhas]
          dsimp only at hmem ⊢
          split at hmem
          · rename_i hlast
            rw [if_pos hlast]
            have hwindow := (hsound.windows hlive)
            have hlisted : s.Listed r t := by
              refine hwindow.listed fun hzero => hhas ?_
              exact InsertionMap.size_eq_zero_iff.mp hzero deliveryId
            obtain rfl : r' = r := by
              have hown := mem_endOutbound hmem
              change some r' = s.outbound.get? t.peerId at hown
              rw [hlisted] at hown
              exact Option.some.inj hown
            obtain ⟨hperm, hforwarded⟩ := (hwindow.acknowledge deliveryId).complete
              (hcovered.windows hlive) hlisted hlast.1
              (htimely r' t hdelivery hlive hlast.1 hlast.2) hlast.2
            have hsettled := (h.updateWindow r' (·.acknowledge deliveryId)).deliveries
              (s.deliveryToOutbound.delete deliveryId)
            have hquiet := quiet_endTransfer hsettled.sound .outbound t.peerId .accepted now
            have hacknowledged : (s.updateWindow r' (·.acknowledge deliveryId)).live[r']? =
                some { t with window := t.window.acknowledge deliveryId } := by
              change (s.live.modify r' _)[r']? = _
              rw [List.getElem?_modify_eq, hlive]
              rfl
            obtain ⟨t', hlive'⟩ := hquiet.kept hacknowledged
            refine ⟨t', hlive', ?_⟩
            rcases hquiet.live hlive' with ⟨hnone, -⟩ | ⟨t'', hlive'', hmanifest, hkeeps⟩
            · rw [hacknowledged] at hnone
              cases hnone
            · rw [hacknowledged] at hlive''
              obtain rfl := Option.some.inj hlive''
              unfold Forwarded
              rw [hmanifest]
              rcases hkeeps with ⟨hsame, -⟩ | ⟨hclear, -⟩
              · rw [hsame]
                exact ⟨hperm, hforwarded⟩
              · rw [hclear]
                exact ⟨hperm, hforwarded⟩
          · cases hmem

/-- No more than four chunks are ever outstanding. When every part of the file can be read and
no acknowledgement overtakes one, a transfer is reported as complete only if it is. -/
theorem chunks_forwarded (events : List AttachmentEvent) :
    (∀ (r : Nat) (t : LiveTransfer), (Trace.run next {} events).live[r]? = some t →
        t.window.outstanding.size ≤ outboundWindowSize) ∧
      (Trace.Meets next (fun s e => s.Readable e ∧ s.Timely e) {} events →
        Trace.Meets next ReportsForwarded {} events) := by
  have hsound : ∀ (s : AttachmentController) (e : AttachmentEvent),
      s.Settled ∧ s.Windowed OutboundWindow.Sound →
      (s.next e).Settled ∧ (s.next e).Windowed OutboundWindow.Sound := by
    rintro s e ⟨hsettled, hwindowed⟩
    exact ⟨settled_next hsettled e, (windowed_next OutboundWindow.stable_sound hsettled hwindowed e
      (.inl OutboundWindow.Sound.drop)).1⟩
  refine ⟨fun r t hget => ?_, fun hmeets => ?_⟩
  · have hrun := Trace.invariant hsound ⟨settled_init, windowed_init⟩ events
    exact (hrun.2.windows hget).room
  · refine Trace.meets_of_meets (P := fun (s : AttachmentController) =>
      (s.Settled ∧ s.Windowed OutboundWindow.Sound) ∧
      s.Windowed OutboundWindow.Covered) ?_ ⟨⟨settled_init, windowed_init⟩, windowed_init⟩ hmeets
    rintro s e ⟨h, hcovered⟩ ⟨hreadable, htimely⟩
    obtain ⟨hnext, hevents⟩ :=
      windowed_next OutboundWindow.stable_covered h.1 hcovered e (.inr hreadable)
    refine ⟨⟨hsound s e h, hnext⟩, ?_⟩
    rcases hevents with ⟨deliveryId, now, rfl⟩ | hunaccepted
    · exact reportsForwarded_relayForwarded h.1 h.2 hcovered htimely
    · exact fun peerId r hmem => absurd hmem (hunaccepted peerId r)

section Sample

def sampleSent : List AttachmentEvent :=
  sampleAccepted 1 ++ [.chunkRead 2 (some [0]) "chunk" 0, .chunkSent 2 true 0]

theorem chunks_forwarded_sampleSent :
    Trace.Meets next ReportsForwarded {} (sampleSent ++ [.relayForwarded "chunk" 0]) ∧
      ((Trace.run next {} sampleSent).step (.relayForwarded "chunk" 0)).2 =
        [.ended "bob" .outbound .accepted (some 0)] := by
  refine ⟨(chunks_forwarded _).2 ?_, by decide +kernel⟩
  rw [Trace.meets_snoc]
  refine ⟨?_, trivial, fun r t _ _ _ _ index hmem => ?_⟩
  · simp [sampleSent, sampleAccepted, sampleOffer, Trace.Meets, Readable, Timely]
  · have hidle : ∀ operation ∈ (Trace.run next {} sampleSent).operations,
        operation.fills = none := by
      decide +kernel
    cases hidle _ hmem

/-- The first of two chunks is acknowledged while the second one is read. -/
def sampleOvertaken : List AttachmentEvent :=
  sampleAccepted 3073 ++ [.chunkRead 2 (some (.replicate 3072 0)) "chunk" 0, .chunkSent 2 true 0]

/-- The transfer is reported as complete, with one chunk of two. -/
theorem not_reportsForwarded_overtaken :
    ¬ Trace.Meets next ReportsForwarded {} (sampleOvertaken ++ [.relayForwarded "chunk" 0]) := by
  intro hmeets
  rw [Trace.meets_snoc] at hmeets
  have hended : .ended "bob" .outbound .accepted (some 0) ∈
      ((Trace.run next {} sampleOvertaken).step (.relayForwarded "chunk" 0)).2 := by
    decide +kernel
  obtain ⟨t, hget, hperm, -⟩ := hmeets.2 "bob" 0 hended
  have hwindow : (((Trace.run next {} sampleOvertaken).next
      (.relayForwarded "chunk" 0)).live[0]?.map fun t =>
        (t.window.handed.length, t.manifest.chunkCount)) = some (1, 2) := by
    decide +kernel
  rw [hget, Option.map_some, Option.some_inj, Prod.mk.injEq] at hwindow
  have hlength := hperm.length_eq
  rw [List.length_map, List.length_range, hwindow.1, hwindow.2] at hlength
  cases hlength

end Sample

end Window

end AttachmentController

end Branch.Pwa
