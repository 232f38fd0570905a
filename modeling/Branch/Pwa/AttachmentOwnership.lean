import Branch.Pwa.AttachmentChanges

/-!
Whose transfer an operation ends. What an operation waits for may come when another transfer
of the same peer is under way.
-/

namespace Branch.Pwa

open Branch.Core Branch.Lib

/-- The operation that goes on. A manifest and a decision of the peer are not among them. -/
def AttachmentEvent.resumes : AttachmentEvent → Option Nat
  | .hashed i .. | .signed i .. | .offerSent i .. | .digested i _ | .chunkReceived i _
  | .decisionSigned i .. | .decisionSent i .. | .chunkRead i .. | .chunkSent i .. => some i
  | _ => none

namespace AttachmentController

variable {s s' s'' : AttachmentController} {own : Option Nat} {direction : AttachmentDirection}
  {peerId : String} {r g i now : Nat} {t : LiveTransfer}
  {operation : AttachmentOperation}

section Own

/-- The transfer and the direction of the operation that goes on, if it goes on to end what the
peer of the transfer has in this direction. Whether the bytes of a chunk lead to that depends
on the transfer. -/
def ends (s : AttachmentController) : AttachmentEvent → Option (Nat × AttachmentDirection)
  | .chunkReceived i _ =>
    match s.operations[i]? with
    | some (.receivingChunk r result) =>
      if result.status ∈ [.completed, .aborted, .expired] then some (r, .inbound) else none
    | _ => none
  | .decisionSigned i signature _ =>
    match s.operations[i]? with
    | some (.signingDecision r unsigned) =>
      if ∀ bytes ∈ signature, validateDecision { unsigned with signature := bytes } = false then
        s.live[r]?.map fun t => (r, t.direction)
      else none
    | _ => none
  | .decisionSent i ok _ =>
    match s.operations[i]? with
    | some (.sendingDecision r kind) =>
      if ok = true ∧ kind = .accept then none else s.live[r]?.map fun t => (r, t.direction)
    | _ => none
  | .chunkRead i bytes _ _ =>
    match s.operations[i]? with
    | some (.readingChunk r _) => if bytes.isSome then some (r, .outbound) else none
    | _ => none
  | .chunkSent i ok _ =>
    match s.operations[i]? with
    | some (.sendingChunk r) => if ok then none else some (r, .outbound)
    | _ => none
  | _ => none

/-- The operation that is about to end a transfer finds its own one, or none. -/
def Undisplaced (s : AttachmentController) (e : AttachmentEvent) : Prop :=
  ∀ r direction t, s.ends e = some (r, direction) → s.live[r]? = some t →
    ∀ r', (s.table direction).get? t.peerId = some r' → r' = r

def EndsOwn (s : AttachmentController) (e : AttachmentEvent) : Prop :=
  ∀ i operation, e.resumes = some i → s.operations[i]? = some operation →
    Frame s (s.next e) operation.transfer

theorem frame_self (s : AttachmentController) (r : Nat) (f : LiveTransfer → LiveTransfer) :
    Frame s (s.update r f) (some r) :=
  frame_update fun _ hne => absurd rfl hne

/-- An end that an operation makes leaves the other transfers alone if it finds the one of the
operation, or none. -/
theorem frame_end_iff (direction : AttachmentDirection) {reason : AttachmentControllerReason}
    (hsound : s'.Sound)
    (hbefore : Frame s s' (some r)) (htable : s'.table = s.table)
    (hafter : Frame (s'.endTransfer direction peerId reason now).1 s'' (some r))
    (htable' : s''.table = (s'.endTransfer direction peerId reason now).1.table) :
    Frame s s'' (some r) ↔ ∀ r', (s.table direction).get? peerId = some r' → r' = r := by
  obtain ⟨hended, hframe⟩ := ended_endTransfer hsound direction peerId reason now
  constructor
  · intro hall r' hlisted
    by_contra hne
    have hstays := hall.listed (fun heq => hne (Option.some.inj heq).symm) hlisted
    rw [htable'] at hstays
    exact (hended.table.mp hstays).1 ⟨rfl, rfl⟩
  · intro hown
    refine (hbefore.trans ?_).trans hafter
    rw [htable] at hframe
    cases hlisted : (s.table direction).get? peerId with
    | none =>
      rw [hlisted] at hframe
      exact hframe.of_none
    | some r' =>
      rw [hlisted, hown r' hlisted] at hframe
      exact hframe

variable {e : AttachmentEvent}

theorem undisplaced_of_none (h : s.ends e = none) : s.Undisplaced e := by
  intro r direction t hends
  rw [h] at hends
  cases hends

theorem undisplaced_iff (hends : s.ends e = some (r, direction))
    (hlive : s.live[r]? = some t) :
    s.Undisplaced e ↔ ∀ r', (s.table direction).get? t.peerId = some r' → r' = r := by
  constructor
  · exact fun h => h r direction t hends hlive
  · intro h r' direction' t' hends' hlive'
    rw [hends] at hends'
    obtain ⟨rfl, rfl⟩ := Prod.mk.inj (Option.some.inj hends')
    rw [hlive] at hlive'
    obtain rfl := Option.some.inj hlive'
    exact h

theorem undisplaced_of_gone
    (hends : ∀ r' direction, s.ends e = some (r', direction) → r' = r)
    (hlive : s.live[r]? = none) : s.Undisplaced e := by
  intro r' direction t hends' hlive'
  rw [hends r' direction hends', hlive] at hlive'
  cases hlive'

theorem endsOwn_iff (hresumes : e.resumes = some i)
    (hget : s.operations[i]? = some operation) :
    s.EndsOwn e ↔ Frame s (s.next e) operation.transfer := by
  constructor
  · exact fun h => h i operation hresumes hget
  · intro h i' operation' hresumes' hget'
    rw [hresumes] at hresumes'
    obtain rfl := Option.some.inj hresumes'
    rw [hget] at hget'
    obtain rfl := Option.some.inj hget'
    exact h

theorem endsOwn_of_same (h : s.next e = s) : s.EndsOwn e := by
  intro i operation _ _
  rw [h]
  exact .rfl

section Chunk

variable {result : AttachmentTransferResult} {index : Nat} {deliveryId : String}

theorem endsOwn_iff_chunkReceived (h : s.Settled)
    (hget : s.operations[i]? = some (.receivingChunk r result)) :
    s.EndsOwn (.chunkReceived i now) ↔ s.Undisplaced (.chunkReceived i now) := by
  have hnext : s.next (.chunkReceived i now) = (s.chunkReceived i r result now).1 := by
    simp only [next, step, hget]
  have hends : s.ends (.chunkReceived i now) =
      if result.status ∈ [.completed, .aborted, .expired] then some (r, .inbound) else none := by
    simp only [ends, hget]
  rw [endsOwn_iff rfl hget, hnext]
  have hresumed : Frame s (s.resume i .finished) (some r) := .of_eq rfl rfl
  change Frame s _ (some r) ↔ _
  unfold chunkReceived
  cases hlive : s.live[r]? with
  | none =>
    refine iff_of_true ?_ (undisplaced_of_gone ?_ hlive)
    · simpa only [resume, hlive] using hresumed
    · intro r' direction heq
      rw [hends] at heq
      split at heq
      · cases heq
        rfl
      · cases heq
  | some t =>
    have hended (hmem : result.status ∈
        [.completed, .aborted, .expired]) (reason : AttachmentControllerReason) :
        Frame s ((s.resume i .finished).endInbound t.peerId reason now).1 (some r) ↔
          s.Undisplaced (.chunkReceived i now) := by
      rw [if_pos hmem] at hends
      rw [undisplaced_iff hends hlive]
      exact frame_end_iff .inbound (h.sound.resume i .finished) hresumed rfl .rfl rfl
    simp only [resume, hlive]
    split
    · rename_i hstatus
      exact hended (by simp [hstatus]) _
    · rename_i hstatus
      exact hended (by simp [hstatus]) _
    · rename_i hstatus
      exact hended (by simp [hstatus]) _
    · rename_i hcompleted haborted hexpired
      refine iff_of_true hresumed (undisplaced_of_none ?_)
      rw [hends, if_neg]
      simp only [List.mem_cons, List.not_mem_nil, or_false]
      rintro (hstatus | hstatus | hstatus)
      · exact hcompleted hstatus
      · exact haborted hstatus
      · exact hexpired hstatus

theorem endsOwn_iff_chunkRead {bytes : Option (List UInt8)} (h : s.Settled)
    (hget : s.operations[i]? = some (.readingChunk r index)) :
    s.EndsOwn (.chunkRead i bytes deliveryId now) ↔
      s.Undisplaced (.chunkRead i bytes deliveryId now) := by
  have hnext : s.next (.chunkRead i bytes deliveryId now) =
      (s.chunkRead i r index bytes deliveryId now).1 := by
    simp only [next, step, hget]
  have hends : s.ends (.chunkRead i bytes deliveryId now) =
      if bytes.isSome then some (r, .outbound) else none := by
    simp only [ends, hget]
  rw [endsOwn_iff rfl hget, hnext]
  unfold chunkRead
  cases hlive : s.live[r]? with
  | none =>
    refine iff_of_true .rfl (undisplaced_of_gone ?_ hlive)
    intro r' direction heq
    rw [hends] at heq
    split at heq
    · cases heq
      rfl
    · cases heq
  | some t =>
    cases bytes with
    | none =>
      refine iff_of_true ?_ (undisplaced_of_none hends)
      exact (frame_self s r _).trans (.of_eq rfl rfl)
    | some bytes =>
      rw [undisplaced_iff hends hlive]
      have hmoved := fun chunk =>
        h.transition hlive (.admitOutboundChunk chunk (some now)) rfl
      dsimp only
      split
      · refine frame_end_iff .outbound (hmoved _).sound (frame_self s r _) rfl
          ?_ rfl
        exact (frame_self _ r _).trans (.of_eq rfl rfl)
      · rename_i hstored
        obtain ⟨hdirection, hlive'⟩ :=
          AttachmentTransferState.live_of_chunkStored (not_not.mp hstored)
        have hlisted := (h.sound.ended hlive).resolve_right (by rw [hlive']; simp)
        refine iff_of_true ?_ fun r' hlisted' => ?_
        · exact ((frame_self s r _).trans (frame_self _ r _)).trans (.of_eq rfl rfl)
        · rw [LiveTransfer.direction, hdirection, hlisted'] at hlisted
          exact Option.some.inj hlisted

theorem frame_fillLoop : Frame s (s.fillLoop i r) (some r) := by
  unfold fillLoop
  split
  · exact .of_eq rfl rfl
  · split
    · exact (frame_self s r _).trans (.of_eq rfl rfl)
    · exact (frame_self s r _).trans (.of_eq rfl rfl)

theorem frame_digested {position : Nat} {digest : Option String} :
    Frame s (s.digested i r position digest) (some r) := by
  unfold digested
  split
  · exact .rfl
  · dsimp only
    split
    · exact (frame_self s r _).trans (.of_eq rfl rfl)
    · exact (frame_self s r _).trans (.of_eq rfl rfl)

theorem endsOwn_iff_chunkSent {ok : Bool} (h : s.Settled)
    (hget : s.operations[i]? = some (.sendingChunk r)) :
    s.EndsOwn (.chunkSent i ok now) ↔ s.Undisplaced (.chunkSent i ok now) := by
  have hnext : s.next (.chunkSent i ok now) = (s.chunkSent i r ok now).1 := by
    simp only [next, step, hget]
  have hends : s.ends (.chunkSent i ok now) = if ok then none else some (r, .outbound) := by
    simp only [ends, hget]
  rw [endsOwn_iff rfl hget, hnext]
  unfold chunkSent
  cases ok with
  | true => exact iff_of_true frame_fillLoop (undisplaced_of_none hends)
  | false =>
    cases hlive : s.live[r]? with
    | none =>
      refine iff_of_true .rfl (undisplaced_of_gone ?_ hlive)
      intro r' direction heq
      rw [hends] at heq
      cases heq
      rfl
    | some t =>
      rw [undisplaced_iff hends hlive]
      refine frame_end_iff .outbound h.sound .rfl rfl ?_ rfl
      exact (frame_self _ r _).trans (.of_eq rfl rfl)

end Chunk

section Decision

theorem endsOwn_iff_decisionSigned {unsigned : AttachmentDecision}
    {signature : Option (List UInt8)} (h : s.Settled)
    (hget : s.operations[i]? = some (.signingDecision r unsigned)) :
    s.EndsOwn (.decisionSigned i signature now) ↔
      s.Undisplaced (.decisionSigned i signature now) := by
  have hnext : s.next (.decisionSigned i signature now) =
      (s.decisionSigned i r unsigned signature now).1 := by
    simp only [next, step, hget]
  have hends : s.ends (.decisionSigned i signature now) =
      if ∀ bytes ∈ signature, validateDecision { unsigned with signature := bytes } = false then
        s.live[r]?.map fun t => (r, t.direction)
      else none := by
    simp only [ends, hget]
  rw [endsOwn_iff rfl hget, hnext]
  change Frame s _ (some r) ↔ _
  unfold decisionSigned
  cases hlive : s.live[r]? with
  | none =>
    refine iff_of_true .rfl (undisplaced_of_none ?_)
    rw [hends, hlive]
    split <;> rfl
  | some t =>
    rw [hlive] at hends
    cases signature with
    | none =>
      rw [if_pos (by simp)] at hends
      rw [undisplaced_iff hends hlive]
      exact frame_end_iff t.direction (h.sound.resume i .finished) (.of_eq rfl rfl) rfl .rfl rfl
    | some signature =>
      have hmoved := h.update (r := r) fun t _ =>
        keeps_carryOut { unsigned with signature := signature } t
      dsimp only
      split
      · rename_i hinvalid
        rw [if_pos (by simpa using hinvalid)] at hends
        rw [undisplaced_iff hends hlive]
        exact frame_end_iff t.direction (hmoved.sound.resume i .finished)
          ((frame_self s r _).trans (.of_eq rfl rfl)) rfl .rfl rfl
      · rename_i hvalid
        rw [if_neg (by simpa using hvalid)] at hends
        exact iff_of_true ((frame_self s r _).trans (.of_eq rfl rfl))
          (undisplaced_of_none hends)

theorem endsOwn_iff_decisionSent {kind : AttachmentDecisionKind} {ok : Bool} (h : s.Settled)
    (hget : s.operations[i]? = some (.sendingDecision r kind)) :
    s.EndsOwn (.decisionSent i ok now) ↔ s.Undisplaced (.decisionSent i ok now) := by
  have hnext : s.next (.decisionSent i ok now) = (s.decisionSent i r kind ok now).1 := by
    simp only [next, step, hget]
  have hends : s.ends (.decisionSent i ok now) =
      if ok = true ∧ kind = .accept then none else s.live[r]?.map fun t => (r, t.direction) := by
    simp only [ends, hget]
  have hresumed : Frame s (s.resume i .finished) (some r) := .of_eq rfl rfl
  rw [endsOwn_iff rfl hget, hnext]
  change Frame s _ (some r) ↔ _
  unfold decisionSent
  cases hlive : s.live[r]? with
  | none =>
    refine iff_of_true ?_ (undisplaced_of_none ?_)
    · simpa only [resume, hlive] using hresumed
    · rw [hends, hlive]
      split <;> rfl
  | some t =>
    rw [hlive] at hends
    have hended (hnot : ¬ (ok = true ∧ kind = .accept)) (reason : AttachmentControllerReason) :
        Frame s ((s.resume i .finished).endTransfer t.direction t.peerId reason now).1
            (some r) ↔ s.Undisplaced (.decisionSent i ok now) := by
      rw [if_neg hnot] at hends
      rw [undisplaced_iff hends hlive]
      exact frame_end_iff t.direction (h.sound.resume i .finished) hresumed rfl .rfl rfl
    simp only [resume, hlive]
    cases ok with
    | false => exact hended (by simp) .sendFailed
    | true =>
      cases hdirection : t.direction with
      | inbound =>
        rw [hdirection] at hended
        cases kind with
        | accept => exact iff_of_true hresumed (undisplaced_of_none hends)
        | reject => exact hended (by simp) .rejected
        | cancel => exact hended (by simp) .cancelled
      | outbound =>
        rw [hdirection] at hended
        cases kind with
        | accept => exact iff_of_true hresumed (undisplaced_of_none hends)
        | reject => exact hended (by simp) .cancelled
        | cancel => exact hended (by simp) .cancelled

end Decision

/-- An event that carries on an operation finds one that waits for it. -/
def Awaited (s : AttachmentController) : AttachmentEvent → Prop
  | .hashed i _ _ => ∃ peerId draft, s.operations[i]? = some (.hashingFile peerId draft)
  | .signed i _ _ _ => ∃ peerId unsigned, s.operations[i]? = some (.signingManifest peerId unsigned)
  | .offerSent i _ _ => ∃ peerId r, s.operations[i]? = some (.sendingOffer peerId r)
  | .digested i _ => ∃ r position, s.operations[i]? = some (.digesting r position)
  | .chunkReceived i _ => ∃ r result, s.operations[i]? = some (.receivingChunk r result)
  | .decisionSigned i _ _ => ∃ r unsigned, s.operations[i]? = some (.signingDecision r unsigned)
  | .decisionSent i _ _ => ∃ r kind, s.operations[i]? = some (.sendingDecision r kind)
  | .chunkRead i _ _ _ => ∃ r index, s.operations[i]? = some (.readingChunk r index)
  | .chunkSent i _ _ => ∃ r, s.operations[i]? = some (.sendingChunk r)
  | _ => True

theorem endsOwn_iff_of_not_awaited (h : ¬ s.Awaited e) : s.EndsOwn e ↔ s.Undisplaced e := by
  have hsame : s.next e = s ∧ s.ends e = none := by
    unfold next step ends
    cases e <;> try exact absurd trivial h
    all_goals
      dsimp only
      constructor
      all_goals first
        | rfl
        | split
          · rename_i hget
            first | exact (h ⟨_, _, hget⟩).elim | exact (h ⟨_, hget⟩).elim
          · rfl
  exact iff_of_true (endsOwn_of_same hsame.1) (undisplaced_of_none hsame.2)

theorem endsOwn_iff_of_frame (hresumes : e.resumes = some i)
    (hget : s.operations[i]? = some operation) (hends : s.ends e = none)
    (hframe : Frame s (s.next e) operation.transfer) : s.EndsOwn e ↔ s.Undisplaced e :=
  iff_of_true ((endsOwn_iff hresumes hget).mpr hframe) (undisplaced_of_none hends)

theorem endsOwn_iff_undisplaced (h : s.Settled) (e : AttachmentEvent) :
    s.EndsOwn e ↔ s.Undisplaced e := by
  have hother {e : AttachmentEvent} (hresumes : e.resumes = none) (hends : s.ends e = none) :
      s.EndsOwn e ↔ s.Undisplaced e := by
    refine iff_of_true (fun i operation hresumes' => ?_) (undisplaced_of_none hends)
    rw [hresumes] at hresumes'
    cases hresumes'
  by_cases hawaited : s.Awaited e
  · cases e with
    | hashed i sha256 now =>
      obtain ⟨peerId, draft, hget⟩ := hawaited
      refine endsOwn_iff_of_frame rfl hget rfl ?_
      simp only [next, step, hget]
      exact frame_hashed h hget
    | signed i signature manifestDeliveryId now =>
      obtain ⟨peerId, unsigned, hget⟩ := hawaited
      refine endsOwn_iff_of_frame rfl hget rfl ?_
      simp only [next, step, hget]
      exact frame_signed h hget
    | offerSent i ok now =>
      obtain ⟨peerId, r, hget⟩ := hawaited
      refine endsOwn_iff_of_frame rfl hget rfl ?_
      simp only [next, step, hget]
      exact frame_offerSent h hget rfl
    | digested i digest =>
      obtain ⟨r, position, hget⟩ := hawaited
      refine endsOwn_iff_of_frame rfl hget rfl ?_
      simp only [next, step, hget]
      exact frame_digested
    | chunkReceived i now =>
      obtain ⟨r, result, hget⟩ := hawaited
      exact endsOwn_iff_chunkReceived h hget
    | decisionSigned i signature now =>
      obtain ⟨r, unsigned, hget⟩ := hawaited
      exact endsOwn_iff_decisionSigned h hget
    | decisionSent i ok now =>
      obtain ⟨r, kind, hget⟩ := hawaited
      exact endsOwn_iff_decisionSent h hget
    | chunkRead i bytes deliveryId now =>
      obtain ⟨r, index, hget⟩ := hawaited
      exact endsOwn_iff_chunkRead h hget
    | chunkSent i ok now =>
      obtain ⟨r, hget⟩ := hawaited
      exact endsOwn_iff_chunkSent h hget
    | _ => exact hother rfl rfl
  · exact endsOwn_iff_of_not_awaited hawaited

/-- The operations of a run leave every other transfer as it is exactly when those that are
about to end one find their own one, or none. -/
theorem meets_endsOwn_iff (events : List AttachmentEvent) :
    Trace.Meets next EndsOwn {} events ↔ Trace.Meets next Undisplaced {} events :=
  Trace.meets_congr (P := Settled) (fun _ e h => settled_next h e)
    (fun _ e h => endsOwn_iff_undisplaced h e) settled_init events

section Sample

/-- While the first chunk of an accepted file is read, the peer becomes unavailable and is
offered another file. -/
def sampleReplaced : List AttachmentEvent :=
  sampleAccepted 1 ++ [.unavailable (some "bob") 0] ++
    sampleOffer 3 1 "AQAAAAAAAAAAAAAAAAAAAAAAAAAAAAAAAAAAAAAAAAA"

/-- The chunk of the first file ends the transfer of the second one. -/
theorem not_endsOwn_replacedWhileReading :
    ¬ Trace.Meets next EndsOwn {} (sampleReplaced ++ [.chunkRead 2 (some [0]) "chunk" 0]) := by
  intro hmeets
  rw [Trace.meets_snoc] at hmeets
  have hreading : (Trace.run next {} sampleReplaced).operations[2]?.bind
      AttachmentOperation.transfer = some 0 := by
    decide +kernel
  obtain ⟨operation, hget, htransfer⟩ := Option.bind_eq_some_iff.mp hreading
  have hframe := hmeets.2 2 operation rfl hget
  rw [htransfer] at hframe
  have hlisted : ((Trace.run next {} sampleReplaced).table .outbound).get? "bob" = some 1 := by
    decide +kernel
  have hended : (((Trace.run next {} sampleReplaced).next
      (.chunkRead 2 (some [0]) "chunk" 0)).table .outbound).get? "bob" = none := by
    decide +kernel
  have hstays := hframe.listed (by decide) hlisted
  rw [hended] at hstays
  cases hstays

end Sample

end Own

end AttachmentController

end Branch.Pwa
