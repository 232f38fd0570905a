import Branch.Core.ImageTransferState
import Branch.Lib.Trace

/-!
The phases that a transfer does not leave.
-/

namespace Branch.Core

open Branch.Lib

def AttachmentTransferStatus.failed : AttachmentTransferStatus → Bool
  | rejected | cancelled | expired | aborted => true
  | _ => false

namespace AttachmentTransferState

variable {transfer : AttachmentTransferState} {now : CallTime}
  {answer : AttachmentTransferState × Option AttachmentTransferResult}

/-- What holds of a call that does not end with a digest: a terminal phase stays, a failure
leaves a terminal phase behind, and the file is not complete. -/
structure Settles (transfer : AttachmentTransferState)
    (answer : AttachmentTransferState × Option AttachmentTransferResult) : Prop where
  stays : transfer.phase.terminal = true → answer.1.phase = transfer.phase
  failed : ∀ result ∈ answer.2, result.status.failed = true → answer.1.phase.terminal = true
  not_completed : ∀ result ∈ answer.2, result.status ≠ .completed

theorem settles_returned {answer : AttachmentTransferState × AttachmentTransferResult}
    (hstays : transfer.phase.terminal = true → answer.1.phase = transfer.phase)
    (hfailed : answer.2.status.failed = true → answer.1.phase.terminal = true)
    (hne : answer.2.status ≠ .completed) : Settles transfer (returned answer) := by
  refine ⟨hstays, ?_, ?_⟩
  · rintro result hresult
    cases hresult
    exact hfailed
  · rintro result hresult
    cases hresult
    exact hne

theorem Settles.of_live {transfer' : AttachmentTransferState} (h : Settles transfer' answer)
    (hlive : transfer.phase.terminal = false) : Settles transfer answer :=
  ⟨fun hterminal => by simp [hlive] at hterminal, h.failed, h.not_completed⟩

theorem settles_ok {status : AttachmentTransferStatus} (hfailed : status.failed = false)
    (hne : status ≠ .completed) : Settles transfer (returned (transfer, transfer.ok status)) :=
  settles_returned (fun _ => rfl) (fun h => by simp [ok, hfailed] at h) hne

variable {reason : AttachmentTransferFailure} {event : AttachmentTransferEvent}
  {events : List AttachmentTransferEvent}

theorem settles_ignore :
    Settles transfer (returned (transfer, transfer.ignore reason)) :=
  settles_returned (fun _ => rfl) (fun h => by simp [ignore, AttachmentTransferStatus.failed] at h)
    (by simp [ignore])

theorem status_terminal_ne (reason : AttachmentTransferFailure) :
    (transfer.terminal reason).status ≠ .completed := by
  unfold terminal
  cases transfer.phase <;> simp

theorem settles_terminal (h : transfer.phase.terminal = true) :
    Settles transfer (returned (transfer, transfer.terminal reason)) :=
  settles_returned (fun _ => rfl) (fun _ => h) (status_terminal_ne reason)

theorem settles_end {next : AttachmentTransferState}
    (h : transfer.phase.terminal = false) (hphase : next.phase.terminal = true) :
    Settles transfer (returned (next, next.terminal reason)) :=
  settles_returned (fun hterminal => by simp [h] at hterminal) (fun _ => hphase)
    (status_terminal_ne reason)

theorem settles_abortWith :
    Settles transfer (returned (transfer.abortWith reason)) := by
  unfold abortWith
  cases h : transfer.phase.terminal with
  | true =>
    rw [if_pos rfl]
    exact settles_terminal h
  | false =>
    rw [if_neg (by simp)]
    exact settles_end h rfl

theorem settles_accepted (h : transfer.phase.terminal = false) :
    Settles transfer (returned ({ transfer with phase := .accepted },
      ok { transfer with phase := .accepted } .accepted)) :=
  settles_returned (fun hterminal => by simp [h] at hterminal)
    (fun hfailed => by simp [ok, AttachmentTransferStatus.failed] at hfailed) (by simp [ok])

theorem settles_cancelWith : Settles transfer (returned transfer.cancelWith) := by
  unfold cancelWith
  split
  · exact settles_ok rfl (by simp)
  · split
    · exact settles_abortWith
    · rename_i h
      exact settles_end (Bool.eq_false_of_not_eq_true h) rfl

/-- A live transfer expires at a time behind its end; otherwise the call finds it as it is, and
sees an end only where there is one or where the time is none. -/
theorem expireAt_cases (transfer : AttachmentTransferState) (now : CallTime) :
    (transfer.phase.terminal = false ∧ transfer.expireAt now = (transfer.close .expired, true)) ∨
    (∃ expired, transfer.expireAt now = (transfer, expired) ∧
      (expired = true → now = none ∨ transfer.phase = .expired)) := by
  unfold expireAt
  cases now with
  | none => exact .inr ⟨true, rfl, fun _ => .inl rfl⟩
  | some time =>
    by_cases h : ¬ transfer.phase.terminal ∧ (transfer.manifest.1.expiresAt : Int) ≤ time
    · simp only [if_pos h]
      exact .inl ⟨by simpa using h.1, trivial⟩
    · simp only [if_neg h]
      exact .inr ⟨_, rfl, fun hexpired => .inr (by simpa using hexpired)⟩

theorem settles_unlessExpired
    {rest : AttachmentTransferState → AttachmentTransferState × Option AttachmentTransferResult}
    (hnow : now = none → transfer.phase.terminal = true) (hrest : Settles transfer (rest transfer)) :
    Settles transfer (transfer.unlessExpired now some rest) := by
  unfold unlessExpired
  rcases expireAt_cases transfer now with ⟨hlive, heq⟩ | ⟨expired, heq, hexpired⟩
  · rw [heq]
    exact settles_end hlive rfl
  · rw [heq]
    cases expired with
    | false => exact hrest
    | true =>
      refine settles_terminal ?_
      rcases hexpired rfl with h | h
      · exact hnow h
      · rw [h]
        rfl

theorem returned_unlessExpired
    (rest : AttachmentTransferState → AttachmentTransferState × AttachmentTransferResult) :
    returned (transfer.unlessExpired now id rest) =
      transfer.unlessExpired now some fun transfer => returned (rest transfer) := by
  unfold unlessExpired
  rcases transfer.expireAt now with ⟨next, expired⟩
  cases expired <;> rfl

theorem settles_accept {decision : AttachmentDecision}
    (hnow : transfer.direction = .inbound → now = none → transfer.phase.terminal = true) :
    Settles transfer (returned (transfer.accept decision now)) := by
  unfold accept
  split
  · exact settles_ignore
  · rename_i hdirection
    rw [returned_unlessExpired]
    refine settles_unlessExpired (hnow (not_not.mp hdirection)) ?_
    split
    · exact settles_abortWith
    · split
      · exact settles_ok rfl (by simp)
      · rename_i hphase
        exact settles_accepted (by rw [hphase]; rfl)
      · exact settles_abortWith

theorem settles_receiveDecision {decision : AttachmentDecision}
    (hnow : transfer.direction = .outbound → now = none → transfer.phase.terminal = true) :
    Settles transfer (returned (transfer.receiveDecision decision now)) := by
  unfold receiveDecision
  split
  · exact settles_ignore
  · rename_i hdirection
    rw [returned_unlessExpired]
    refine settles_unlessExpired (hnow (not_not.mp hdirection)) ?_
    split
    · exact settles_abortWith
    · split
      · exact settles_cancelWith
      · rename_i hphase
        exact settles_accepted (by rw [hphase]; rfl)
      · rename_i hphase
        exact settles_end (by rw [hphase]; rfl) rfl
      · exact settles_ok rfl (by simp)
      · exact settles_abortWith

theorem settles_cancel {decision : AttachmentDecision}
    (hnow : now = none → transfer.phase.terminal = true) :
    Settles transfer (returned (transfer.cancel decision now)) := by
  unfold cancel
  rw [returned_unlessExpired]
  refine settles_unlessExpired hnow ?_
  split
  · exact settles_abortWith
  · exact settles_cancelWith

theorem settles_admitOutboundChunk {chunk : AttachmentChunk}
    (hnow : transfer.direction = .outbound → now = none → transfer.phase.terminal = true) :
    Settles transfer (returned (transfer.admitOutboundChunk chunk now)) := by
  unfold admitOutboundChunk
  split
  · exact settles_ignore
  · rename_i hdirection
    rw [returned_unlessExpired]
    refine settles_unlessExpired (hnow (not_not.mp hdirection)) ?_
    split
    · exact settles_ignore
    · split
      · exact settles_abortWith
      · exact settles_ok rfl (by simp)

theorem settles_expire (hnow : now = none → transfer.phase.terminal = true) :
    Settles transfer (returned (transfer.expire now)) := by
  unfold expire
  rw [returned_unlessExpired]
  exact settles_unlessExpired hnow (settles_ok rfl (by simp))

theorem settles_receiveChunk {chunk : AttachmentChunk}
    (hnow : transfer.direction = .inbound → now = none → transfer.phase.terminal = true) :
    Settles transfer (transfer.receiveChunk chunk now) := by
  unfold receiveChunk
  split
  · exact settles_ignore
  · rename_i hdirection
    refine settles_unlessExpired (hnow (not_not.mp hdirection)) ?_
    split
    · exact settles_ignore
    · rename_i hphase
      have hlive : transfer.phase.terminal = false := by
        rw [not_not.mp hphase]
        rfl
      split
      · exact settles_abortWith
      · split
        · exact settles_ok rfl (by simp)
        · exact settles_abortWith
        · exact settles_abortWith
        · exact (settles_ok rfl (by simp)).of_live hlive
        · exact settles_abortWith.of_live hlive
        · exact ⟨fun h => by simp [hlive] at h, by simp, by simp⟩

def Completes (transfer : AttachmentTransferState) (position : Nat) (digest : Option String) :
    Prop :=
  transfer.digesting[position]?.isSome = true ∧ digest = some transfer.manifest.1.sha256

theorem settles_resume {position : Nat} {digest : Option String}
    (h : ¬ transfer.Completes position digest) :
    Settles transfer (transfer.resume position digest) := by
  unfold resume
  split
  · exact ⟨fun _ => rfl, by simp, by simp⟩
  · rename_i file hfile
    have haborted : ∀ reason, Settles transfer (returned (abortWith
        { transfer with digesting := transfer.digesting.eraseIdx position } reason)) := by
      intro reason
      have h : Settles { transfer with digesting := transfer.digesting.eraseIdx position }
        (returned (abortWith _ reason)) := settles_abortWith
      exact ⟨h.stays, h.failed, h.not_completed⟩
    split
    · exact haborted _
    · dsimp only
      split
      · exact haborted _
      · rename_i hsame
        refine absurd ⟨by simp [hfile], ?_⟩ h
        rw [not_not.mp hsame]

theorem resume_completes {position : Nat} {digest : Option String}
    (h : transfer.Completes position digest) :
    ∃ file, transfer.digesting[position]? = some file ∧
      transfer.resume position digest =
        (close { transfer with digesting := transfer.digesting.eraseIdx position } .completed,
          some { status := .completed, phase := .completed, bytes := some file }) := by
  obtain ⟨hfile, rfl⟩ := h
  obtain ⟨file, hfile⟩ := Option.isSome_iff_exists.mp hfile
  refine ⟨file, hfile, ?_⟩
  unfold resume
  rw [hfile]
  simp

/-- A call on a live transfer has a time, and a file whose digest comes back right is still
awaited. -/
def Undisturbed (transfer : AttachmentTransferState) : AttachmentTransferEvent → Prop
  | .accept _ now | .receiveChunk _ now =>
    transfer.direction = .inbound → now = none → transfer.phase.terminal = true
  | .receiveDecision _ now | .admitOutboundChunk _ now =>
    transfer.direction = .outbound → now = none → transfer.phase.terminal = true
  | .cancel _ now | .expire now => now = none → transfer.phase.terminal = true
  | .resume position digest => transfer.Completes position digest → transfer.phase = .accepted
  | .abort => True

theorem settles_step (h : transfer.Undisturbed event)
    (hresume : ∀ position digest, event = .resume position digest →
      ¬ transfer.Completes position digest) : Settles transfer (transfer.step event) := by
  cases event with
  | accept decision now => exact settles_accept h
  | receiveDecision decision now => exact settles_receiveDecision h
  | cancel decision now => exact settles_cancel h
  | admitOutboundChunk chunk now => exact settles_admitOutboundChunk h
  | receiveChunk chunk now => exact settles_receiveChunk h
  | resume position digest => exact settles_resume (hresume position digest rfl)
  | expire now => exact settles_expire h
  | abort => exact settles_abortWith

theorem undisturbed_of_terminal (h : transfer.phase.terminal = true)
    (hresume : ∀ position digest, event = .resume position digest →
      ¬ transfer.Completes position digest) : transfer.Undisturbed event := by
  cases event with
  | resume position digest => exact fun hcompletes => absurd hcompletes (hresume _ _ rfl)
  | accept decision now => exact fun _ _ => h
  | receiveDecision decision now => exact fun _ _ => h
  | cancel decision now => exact fun _ => h
  | admitOutboundChunk chunk now => exact fun _ _ => h
  | receiveChunk chunk now => exact fun _ _ => h
  | expire now => exact fun _ => h
  | abort => trivial

theorem phase_step_cases (event : AttachmentTransferEvent) (h : transfer.phase.terminal = true) :
    (transfer.step event).1.phase = transfer.phase ∨
      (transfer.step event).1.phase = .completed := by
  by_cases hresume : ∃ position digest, event = .resume position digest ∧
      transfer.Completes position digest
  · obtain ⟨position, digest, rfl, hcompletes⟩ := hresume
    obtain ⟨file, _, heq⟩ := resume_completes hcompletes
    refine .inr ?_
    rw [step, heq]
    rfl
  · have hnot : ∀ position digest, event = .resume position digest →
        ¬ transfer.Completes position digest :=
      fun position digest heq hcompletes => hresume ⟨position, digest, heq, hcompletes⟩
    exact .inl ((settles_step (undisturbed_of_terminal h hnot) hnot).stays h)

theorem terminal_step (h : transfer.phase.terminal = true) :
    (transfer.step event).1.phase.terminal = true := by
  rcases phase_step_cases event h with hphase | hphase
  · rw [hphase, h]
  · rw [hphase]
    rfl

theorem phase_step_of_completed
    (h : transfer.phase = .completed) : (transfer.step event).1.phase = .completed := by
  have hterminal : transfer.phase.terminal = true := by
    rw [h]
    rfl
  rcases phase_step_cases event hterminal with hphase | hphase
  · rw [hphase, h]
  · exact hphase

structure Same (transfer transfer' : AttachmentTransferState) : Prop where
  direction : transfer'.direction = transfer.direction
  manifest : transfer'.manifest = transfer.manifest

theorem Same.rfl : Same transfer transfer := ⟨Eq.refl _, Eq.refl _⟩

theorem same_abortWith (reason : AttachmentTransferFailure) :
    Same transfer (transfer.abortWith reason).1 := by
  unfold abortWith
  dsimp only
  split
  · exact .rfl
  · exact ⟨rfl, rfl⟩

theorem same_unlessExpired {α : Type} {now : CallTime} {answer : AttachmentTransferResult → α}
    {rest : AttachmentTransferState → AttachmentTransferState × α}
    (hrest : Same transfer (rest transfer).1) :
    Same transfer (transfer.unlessExpired now answer rest).1 := by
  unfold unlessExpired
  rcases expireAt_cases transfer now with ⟨-, heq⟩ | ⟨expired, heq, -⟩
  · rw [heq]
    exact ⟨rfl, rfl⟩
  · rw [heq]
    cases expired with
    | true => exact .rfl
    | false => exact hrest

theorem same_cancelWith : Same transfer transfer.cancelWith.1 := by
  unfold cancelWith
  split
  · exact .rfl
  · split
    · exact same_abortWith _
    · exact ⟨rfl, rfl⟩

theorem same_step (event : AttachmentTransferEvent) :
    Same transfer (transfer.step event).1 := by
  cases event with
  | accept decision now =>
    change Same transfer (transfer.accept decision now).1
    unfold accept
    split
    · exact .rfl
    · refine same_unlessExpired ?_
      split
      · exact same_abortWith _
      · split
        · exact .rfl
        · exact ⟨rfl, rfl⟩
        · exact same_abortWith _
  | receiveDecision decision now =>
    change Same transfer (transfer.receiveDecision decision now).1
    unfold receiveDecision
    split
    · exact .rfl
    · refine same_unlessExpired ?_
      split
      · exact same_abortWith _
      · split
        · exact same_cancelWith
        · exact ⟨rfl, rfl⟩
        · exact ⟨rfl, rfl⟩
        · exact .rfl
        · exact same_abortWith _
  | cancel decision now =>
    change Same transfer (transfer.cancel decision now).1
    refine same_unlessExpired ?_
    split
    · exact same_abortWith _
    · exact same_cancelWith
  | admitOutboundChunk chunk now =>
    change Same transfer (transfer.admitOutboundChunk chunk now).1
    unfold admitOutboundChunk
    split
    · exact .rfl
    · refine same_unlessExpired ?_
      split
      · exact .rfl
      · split
        · exact same_abortWith _
        · exact .rfl
  | receiveChunk chunk now =>
    change Same transfer (transfer.receiveChunk chunk now).1
    unfold receiveChunk
    split
    · exact .rfl
    · refine same_unlessExpired ?_
      split
      · exact .rfl
      · split
        · exact same_abortWith .invalidChunk
        · split
          · exact .rfl
          · exact same_abortWith .conflictingDuplicate
          · exact same_abortWith .reorderLimit
          · exact ⟨rfl, rfl⟩
          · rename_i received _
            have hsame : Same { transfer with received } (abortWith _ .invalidChunk).1 :=
              same_abortWith _
            exact ⟨hsame.direction, hsame.manifest⟩
          · exact ⟨rfl, rfl⟩
  | resume position digest =>
    change Same transfer (transfer.resume position digest).1
    unfold resume
    split
    · exact .rfl
    · have hsame (reason : AttachmentTransferFailure) : Same transfer
          (abortWith { transfer with digesting := transfer.digesting.eraseIdx position }
            reason).1 := by
        have hsame : Same { transfer with digesting := transfer.digesting.eraseIdx position }
          (abortWith _ reason).1 := same_abortWith reason
        exact ⟨hsame.direction, hsame.manifest⟩
      dsimp only
      split
      · exact hsame .digestFailed
      · split
        · exact hsame .integrityFailed
        · exact ⟨rfl, rfl⟩
  | expire now =>
    change Same transfer (transfer.expire now).1
    refine same_unlessExpired ?_
    exact .rfl
  | abort => exact same_abortWith .conflictingDuplicate

theorem terminal_abort : transfer.abort.1.phase.terminal = true := by
  change (transfer.abortWith .conflictingDuplicate).1.phase.terminal = true
  unfold abortWith
  cases h : transfer.phase.terminal with
  | true => simpa using h
  | false => rfl

theorem phase_expire_of_terminal (h : transfer.phase.terminal = true) :
    (transfer.expire now).1.phase = transfer.phase :=
  (settles_expire fun _ => h).stays h

theorem live_of_chunkStored {chunk : AttachmentChunk}
    (h : (transfer.admitOutboundChunk chunk now).2.status = .chunkStored) :
    transfer.direction = .outbound ∧ transfer.phase.terminal = false := by
  unfold admitOutboundChunk at h
  split at h
  · simp [ignore] at h
  · rename_i hdirection
    refine ⟨not_not.mp hdirection, ?_⟩
    unfold unlessExpired at h
    rcases expireAt_cases transfer now with ⟨hlive, -⟩ | ⟨expired, heq, -⟩
    · exact hlive
    · rw [heq] at h
      cases expired with
      | true =>
        simp only [if_true, id, terminal] at h
        cases hphase : transfer.phase <;> simp [hphase] at h
      | false =>
        simp only [Bool.false_eq_true, if_false] at h
        split at h
        · simp [ignore] at h
        · rename_i hphase
          rw [not_not.mp hphase]
          rfl

theorem direction_open {direction : AttachmentTransferDirection} {manifest : AttachmentManifest}
    {options : AttachmentTransferOptions}
    (h : AttachmentTransferState.open direction manifest options now = .ok transfer) :
    transfer.direction = direction := by
  unfold AttachmentTransferState.open at h
  obtain ⟨-, -, h⟩ := bind_eq_ok.mp h
  simp only [throwIf_bind_eq_ok] at h
  obtain ⟨-, -, -, h⟩ := h
  split at h
  · cases h
    rfl
  · cases h

def Failed (result : Option AttachmentTransferResult) : Prop :=
  ∃ answer ∈ result, answer.status.failed = true

def Completed (result : Option AttachmentTransferResult) : Prop :=
  ∃ answer ∈ result, answer.status = .completed

theorem not_completes_of_terminal {position : Nat} {digest : Option String}
    (h : transfer.Undisturbed (.resume position digest)) (hterminal : transfer.phase.terminal = true) :
    ¬ transfer.Completes position digest := by
  intro hcompletes
  rw [h hcompletes] at hterminal
  cases hterminal

theorem settles_of_terminal (h : transfer.Undisturbed event)
    (hterminal : transfer.phase.terminal = true) : Settles transfer (transfer.step event) := by
  refine settles_step h fun position digest heq => ?_
  subst heq
  exact not_completes_of_terminal h hterminal

theorem terminal_of_failed (h : transfer.Undisturbed event)
    (hfailed : Failed (transfer.step event).2) : (transfer.step event).1.phase.terminal = true := by
  obtain ⟨answer, hanswer, hstatus⟩ := hfailed
  by_cases hresume : ∃ position digest, event = .resume position digest ∧
      transfer.Completes position digest
  · obtain ⟨position, digest, rfl, hcompletes⟩ := hresume
    obtain ⟨file, _, heq⟩ := resume_completes hcompletes
    rw [step, heq] at hanswer
    cases hanswer
    cases hstatus
  · refine (settles_step h fun position digest heq hcompletes => ?_).failed answer hanswer hstatus
    exact hresume ⟨position, digest, heq, hcompletes⟩

def next (transfer : AttachmentTransferState) (event : AttachmentTransferEvent) :
    AttachmentTransferState := (transfer.step event).1

/-- Terminal phases stay, and no file is completed behind an end without one. -/
def Absorbs (transfer : AttachmentTransferState) (events : List AttachmentTransferEvent) : Prop :=
  (∀ xs ys, events = xs ++ ys → (Trace.run next transfer xs).phase.terminal = true →
    (Trace.run next transfer events).phase = (Trace.run next transfer xs).phase) ∧
  (Trace.outputs step transfer events).Pairwise fun result result' =>
    Failed result → ¬ Completed result'

theorem absorbs_of_undisturbed
    (h : Trace.Meets next Undisturbed transfer events) : transfer.Absorbs events := by
  refine Trace.absorbs_of_meets (R := fun s => s.phase.terminal = true) (p := Completed)
    (q := Failed) (fun s s' hphase hterminal => ?_)
    (fun s e hterminal hundisturbed => ?_) (fun _ _ => terminal_of_failed) h
  · rw [hphase, hterminal]
  · have hsettles := settles_of_terminal hundisturbed hterminal
    exact ⟨hsettles.stays hterminal, fun ⟨answer, hanswer, hstatus⟩ =>
      hsettles.not_completed answer hanswer hstatus⟩

theorem phase_run_of_completed
    (h : transfer.phase = .completed) : (Trace.run next transfer events).phase = .completed := by
  have hstep : ∀ (state : AttachmentTransferState) (event : AttachmentTransferEvent),
      state.phase = .completed → (state.next event).phase = .completed :=
    fun _ _ => phase_step_of_completed
  exact Trace.invariant hstep h events

end AttachmentTransferState

namespace ImageTransferReassembly

variable {transfer : ImageTransferReassembly} {now : CallTime}
  {answer : ImageTransferReassembly × Option ImageTransferReassemblyResult}

def Failed : Option ImageTransferReassemblyResult → Prop
  | some (.aborted _) | some .expired => True
  | _ => False

def Completed : Option ImageTransferReassemblyResult → Prop
  | some (.completed _ _) => True
  | _ => False

/-- What holds of a call that does not end with a digest: a terminal phase stays, a failure
leaves a terminal phase behind, and the image is not complete. -/
structure Settles (transfer : ImageTransferReassembly)
    (answer : ImageTransferReassembly × Option ImageTransferReassemblyResult) : Prop where
  stays : transfer.terminal = true → answer.1.phase = transfer.phase
  failed : Failed answer.2 → answer.1.terminal = true
  not_completed : ¬ Completed answer.2

theorem settles_abortWith {reason : ImageTransferReassemblyFailure} :
    Settles transfer (returned (transfer.abortWith reason)) := by
  unfold abortWith
  cases h : transfer.terminal with
  | true => exact ⟨fun _ => rfl, fun _ => h, id⟩
  | false => exact ⟨fun hterminal => by simp [h] at hterminal, fun _ => rfl, id⟩

theorem expireAt_settles (transfer : ImageTransferReassembly) (now : CallTime) :
    (∃ next, transfer.expireAt now = (next, true) ∧ Settles transfer (next, some .expired)) ∨
      transfer.expireAt now = (transfer, false) := by
  unfold expireAt
  split
  · refine .inl ⟨_, rfl, ?_⟩
    cases h : transfer.terminal with
    | true => exact ⟨fun _ => rfl, fun _ => h, id⟩
    | false => exact ⟨fun hterminal => by simp [h] at hterminal, fun _ => rfl, id⟩
  · by_cases hphase : transfer.phase = .expired
    · simp only [hphase, decide_true]
      exact .inl ⟨_, rfl, fun _ => rfl, fun _ => by simp [terminal, hphase], id⟩
    · simp only [hphase, decide_false]
      exact .inr trivial

theorem settles_same {result : ImageTransferReassemblyResult} (hfailed : ¬ Failed (some result))
    (hcompleted : ¬ Completed (some result)) : Settles transfer (transfer, some result) :=
  ⟨fun _ => rfl, fun h => absurd h hfailed, hcompleted⟩

theorem settles_receiveChunk {chunk : ImageTransferChunk} :
    Settles transfer (transfer.receiveChunk chunk now) := by
  unfold receiveChunk
  rcases transfer.expireAt_settles now with ⟨next, heq, hsettles⟩ | heq
  · rw [heq]
    exact hsettles
  · rw [heq]
    simp only [Bool.false_eq_true, if_false]
    split
    · exact settles_abortWith
    · split
      · exact settles_same id id
      · exact settles_abortWith
      · exact settles_abortWith
      · exact ⟨fun _ => rfl, fun h => h.elim, id⟩
      · rename_i received _
        have haborted : Settles { transfer with received }
            (returned (abortWith { transfer with received } .invalidChunk)) := settles_abortWith
        exact ⟨haborted.stays, haborted.failed, haborted.not_completed⟩
      · exact ⟨fun _ => rfl, fun h => h.elim, id⟩

theorem settles_expire : Settles transfer (transfer.expire now) := by
  unfold expire
  rcases transfer.expireAt_settles now with ⟨next, heq, hsettles⟩ | heq
  · rw [heq]
    exact hsettles
  · rw [heq]
    exact ⟨fun _ => rfl, fun h => h.elim, id⟩

def Completes (transfer : ImageTransferReassembly) (position : Nat) (digest : Option String) :
    Prop :=
  transfer.digesting[position]?.isSome = true ∧ digest = some transfer.manifest.1.sha256

theorem settles_resume {position : Nat} {digest : Option String}
    (h : ¬ transfer.Completes position digest) :
    Settles transfer (transfer.resume position digest) := by
  unfold resume
  split
  · exact ⟨fun _ => rfl, fun h => h.elim, id⟩
  · rename_i file hfile
    have haborted : ∀ reason, Settles transfer (returned (abortWith
        { transfer with digesting := transfer.digesting.eraseIdx position } reason)) := by
      intro reason
      have h : Settles { transfer with digesting := transfer.digesting.eraseIdx position }
        (returned (abortWith _ reason)) := settles_abortWith
      exact ⟨h.stays, h.failed, h.not_completed⟩
    split
    · exact haborted _
    · dsimp only
      split
      · exact haborted _
      · rename_i hsame
        refine absurd ⟨by simp [hfile], ?_⟩ h
        rw [not_not.mp hsame]

theorem resume_completes {position : Nat} {digest : Option String}
    (h : transfer.Completes position digest) :
    ∃ file, transfer.digesting[position]? = some file ∧
      transfer.resume position digest =
        (close { transfer with digesting := transfer.digesting.eraseIdx position } .completed,
          some (.completed file transfer.manifest.1)) := by
  obtain ⟨hfile, rfl⟩ := h
  obtain ⟨file, hfile⟩ := Option.isSome_iff_exists.mp hfile
  refine ⟨file, hfile, ?_⟩
  unfold resume
  rw [hfile]
  simp

/-- An image whose digest comes back right is still awaited. -/
def Undisturbed (transfer : ImageTransferReassembly) : ImageTransferEvent → Prop
  | .resume position digest => transfer.Completes position digest → transfer.phase = .active
  | _ => True

variable {event : ImageTransferEvent} {events : List ImageTransferEvent}

theorem settles_step (hresume : ∀ position digest, event = .resume position digest →
      ¬ transfer.Completes position digest) : Settles transfer (transfer.step event) := by
  cases event with
  | receiveChunk chunk now => exact settles_receiveChunk
  | resume position digest => exact settles_resume (hresume position digest rfl)
  | expire now => exact settles_expire

theorem phase_step_of_completed
    (h : transfer.phase = .completed) : (transfer.step event).1.phase = .completed := by
  by_cases hresume : ∃ position digest, event = .resume position digest ∧
      transfer.Completes position digest
  · obtain ⟨position, digest, rfl, hcompletes⟩ := hresume
    obtain ⟨file, _, heq⟩ := resume_completes hcompletes
    rw [step, heq]
    rfl
  · have hsettles := settles_step fun position digest heq hcompletes =>
      hresume ⟨position, digest, heq, hcompletes⟩
    rw [hsettles.stays (by simp [terminal, h]), h]

theorem settles_of_terminal (h : transfer.Undisturbed event)
    (hterminal : transfer.terminal = true) : Settles transfer (transfer.step event) := by
  refine settles_step fun position digest heq hcompletes => ?_
  subst heq
  have hactive := h hcompletes
  simp [terminal, hactive] at hterminal

theorem terminal_of_failed
    (hfailed : Failed (transfer.step event).2) : (transfer.step event).1.terminal = true := by
  by_cases hresume : ∃ position digest, event = .resume position digest ∧
      transfer.Completes position digest
  · obtain ⟨position, digest, rfl, hcompletes⟩ := hresume
    obtain ⟨file, _, heq⟩ := resume_completes hcompletes
    rw [step, heq] at hfailed
    exact hfailed.elim
  · exact (settles_step fun position digest heq hcompletes =>
      hresume ⟨position, digest, heq, hcompletes⟩).failed hfailed

def next (transfer : ImageTransferReassembly) (event : ImageTransferEvent) :
    ImageTransferReassembly := (transfer.step event).1

/-- Terminal phases stay, and no image is completed behind an end without one. -/
def Absorbs (transfer : ImageTransferReassembly) (events : List ImageTransferEvent) : Prop :=
  (∀ xs ys, events = xs ++ ys → (Trace.run next transfer xs).terminal = true →
    (Trace.run next transfer events).phase = (Trace.run next transfer xs).phase) ∧
  (Trace.outputs step transfer events).Pairwise fun result result' =>
    Failed result → ¬ Completed result'

theorem absorbs_of_undisturbed
    (h : Trace.Meets next Undisturbed transfer events) : transfer.Absorbs events := by
  refine Trace.absorbs_of_meets (R := fun s => s.terminal = true) (p := Completed)
    (q := Failed) (fun s s' hphase hterminal => ?_)
    (fun s e hterminal hundisturbed => ?_) (fun _ _ _ => terminal_of_failed) h
  · unfold terminal at hterminal ⊢
    rwa [hphase]
  · have hsettles := settles_of_terminal hundisturbed hterminal
    exact ⟨hsettles.stays hterminal, hsettles.not_completed⟩

theorem phase_run_of_completed
    (h : transfer.phase = .completed) : (Trace.run next transfer events).phase = .completed := by
  have hstep : ∀ (state : ImageTransferReassembly) (event : ImageTransferEvent),
      state.phase = .completed → (state.next event).phase = .completed :=
    fun _ _ => phase_step_of_completed
  exact Trace.invariant hstep h events

end ImageTransferReassembly

/-- The terminal phases of the transfers that are opened absorb whatever is done with them. -/
def TransfersAbsorb : Prop :=
  (∀ direction manifest options now transfer,
    AttachmentTransferState.open direction manifest options now = .ok transfer →
      ∀ events, transfer.Absorbs events) ∧
  ∀ peerId manifest options now transfer,
    ImageTransferReassembly.open peerId manifest options now = .ok transfer →
      ∀ events, transfer.Absorbs events

/-- Transfers that are not disturbed absorb, and a completed one is never left. -/
theorem transfers_absorb_of_undisturbed
    (transfer : AttachmentTransferState) (events : List AttachmentTransferEvent)
    (image : ImageTransferReassembly) (imageEvents : List ImageTransferEvent) :
    ((Trace.Meets AttachmentTransferState.next AttachmentTransferState.Undisturbed transfer
        events →
      transfer.Absorbs events) ∧
      (transfer.phase = .completed →
        (Trace.run AttachmentTransferState.next transfer events).phase = .completed)) ∧
    (Trace.Meets ImageTransferReassembly.next ImageTransferReassembly.Undisturbed image
        imageEvents →
      image.Absorbs imageEvents) ∧
      (image.phase = .completed →
        (Trace.run ImageTransferReassembly.next image imageEvents).phase = .completed) :=
  ⟨⟨AttachmentTransferState.absorbs_of_undisturbed,
      AttachmentTransferState.phase_run_of_completed⟩,
    ImageTransferReassembly.absorbs_of_undisturbed,
    ImageTransferReassembly.phase_run_of_completed⟩

section Sample

def sampleManifest : AttachmentManifest where
  version := attachmentVersion
  transferId := "AAAAAAAAAAAAAAAAAAAAAA"
  manifestId := "AAAAAAAAAAAAAAAAAAAAAAAAAAAAAAAAAAAAAAAAAAA"
  issuedAt := 0
  expiresAt := 100
  fileName := Utf16.units "a"
  mediaType := Utf16.units "a"
  byteCount := 1
  chunkBytes := 256
  chunkCount := 1
  sha256 := "AAAAAAAAAAAAAAAAAAAAAAAAAAAAAAAAAAAAAAAAAAA"
  signature := .replicate 64 0

def sampleChunk : AttachmentChunk where
  version := attachmentVersion
  transferId := sampleManifest.transferId
  manifestId := sampleManifest.manifestId
  index := 0
  bytes := [0]

def sampleDecision : AttachmentDecision where
  version := attachmentVersion
  kind := .accept
  transferId := sampleManifest.transferId
  manifestId := sampleManifest.manifestId
  issuedAt := 0
  expiresAt := 100
  signature := .replicate 64 0

def sampleTransfer : Except String AttachmentTransferState :=
  AttachmentTransferState.open .inbound sampleManifest {} (some 1)

/-- The transfer is aborted while the digest of its file is awaited. -/
def abortedWhileDigesting : List AttachmentTransferEvent :=
  [.accept sampleDecision (some 2), .receiveChunk sampleChunk (some 3), .abort,
    .resume 0 (some sampleManifest.sha256)]

theorem outputs_abortedWhileDigesting :
    (sampleTransfer.map fun transfer =>
      Trace.outputs AttachmentTransferState.step transfer abortedWhileDigesting).toOption =
      some [some { status := .accepted, phase := .accepted }, none,
        some { status := .aborted, phase := .aborted, reason := some .conflictingDuplicate },
        some { status := .completed, phase := .completed, bytes := some [0] }] := by
  decide +kernel

theorem phase_beforeDigest :
    (sampleTransfer.map fun transfer => (Trace.run AttachmentTransferState.next transfer
      [.accept sampleDecision (some 2), .receiveChunk sampleChunk (some 3)]).phase).toOption =
      some .accepted := by
  decide +kernel

theorem exists_sampleTransfer : ∃ transfer, sampleTransfer = .ok transfer := by
  have houtputs := outputs_abortedWhileDigesting
  cases hopen : sampleTransfer with
  | error message =>
    rw [hopen] at houtputs
    cases houtputs
  | ok transfer => exact ⟨transfer, rfl⟩

theorem not_transfersAbsorb_abortedWhileDigesting : ¬ TransfersAbsorb := by
  intro h
  obtain ⟨transfer, hopen⟩ := exists_sampleTransfer
  have houtputs := outputs_abortedWhileDigesting
  rw [hopen] at houtputs
  have hpairwise := (h.1 _ _ _ _ transfer hopen abortedWhileDigesting).2
  rw [show Trace.outputs AttachmentTransferState.step transfer abortedWhileDigesting = _ from
    Option.some.inj houtputs] at hpairwise
  simp [AttachmentTransferState.Failed, AttachmentTransferState.Completed,
    AttachmentTransferStatus.failed] at hpairwise

def sampleImageManifest : ImageTransferManifest where
  version := imageTransferVersion
  transferId := sampleManifest.transferId
  manifestId := sampleManifest.manifestId
  messageId := sampleManifest.transferId
  issuedAt := 0
  expiresAt := 100
  mediaType := "image/png"
  width := 1
  height := 1
  byteCount := 1
  chunkBytes := 256
  chunkCount := 1
  sha256 := sampleManifest.sha256
  signature := .replicate 64 0

def sampleImageChunk : ImageTransferChunk where
  version := imageTransferVersion
  transferId := sampleManifest.transferId
  manifestId := sampleManifest.manifestId
  index := 0
  bytes := [0]

def sampleImage : Except String ImageTransferReassembly :=
  ImageTransferReassembly.open "peer" sampleImageManifest {} (some 1)

theorem phase_image_beforeDigest :
    (sampleImage.map fun image => (Trace.run ImageTransferReassembly.next image
      [.receiveChunk sampleImageChunk (some 2)]).phase).toOption = some .active := by
  decide +kernel

theorem exists_sampleImage : ∃ image, sampleImage = .ok image := by
  have hphase := phase_image_beforeDigest
  cases hopen : sampleImage with
  | error message =>
    rw [hopen] at hphase
    cases hphase
  | ok image => exact ⟨image, rfl⟩

/-- The same transfer without the abort, and one of an image. -/
theorem transfers_absorb_undisturbedDigest :
    ∃ transfer image, sampleTransfer = .ok transfer ∧ sampleImage = .ok image ∧
      transfer.Absorbs [.accept sampleDecision (some 2), .receiveChunk sampleChunk (some 3),
        .resume 0 (some sampleManifest.sha256)] ∧
      image.Absorbs [.receiveChunk sampleImageChunk (some 2),
        .resume 0 (some sampleImageManifest.sha256)] := by
  obtain ⟨transfer, hopen⟩ := exists_sampleTransfer
  obtain ⟨image, hopenImage⟩ := exists_sampleImage
  have hphase := phase_beforeDigest
  have hphaseImage := phase_image_beforeDigest
  rw [hopen] at hphase
  rw [hopenImage] at hphaseImage
  have habsorb := transfers_absorb_of_undisturbed transfer
    [.accept sampleDecision (some 2), .receiveChunk sampleChunk (some 3),
      .resume 0 (some sampleManifest.sha256)]
    image [.receiveChunk sampleImageChunk (some 2), .resume 0 (some sampleImageManifest.sha256)]
  refine ⟨transfer, image, hopen, hopenImage, ?_, ?_⟩
  · refine habsorb.1.1 ⟨?_, ?_, ?_, trivial⟩
    · exact fun _ hnow => nomatch hnow
    · exact fun _ hnow => nomatch hnow
    · exact fun _ => Option.some.inj hphase
  · refine habsorb.2.1 ⟨trivial, ?_, trivial⟩
    exact fun _ => Option.some.inj hphaseImage

end Sample

end Branch.Core
