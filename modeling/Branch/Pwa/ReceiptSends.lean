import Branch.Lib.Trace
import Branch.Pwa.ReceiptControls

/-!
The receipts that are sent: one for each target as long as its entry is held, and no entry is left
behind by a call that fails.
-/

namespace Branch.Pwa

open Branch.Core Branch.Lib

namespace ReceiptControls

variable {controls controls' : ReceiptControls} {turn : ReceiptTurn}

section Step

/-- The entries of the second state are entries of the first. -/
def Keeps (controls controls' : ReceiptControls) : Prop :=
  ∀ key emitted, controls'.emittedReceiptTargets.get? key = some emitted →
    controls.emittedReceiptTargets.get? key = some emitted

/-- What one event does to the calls that send and to their entries. -/
inductive SendStep (controls : ReceiptControls) (controls' : ReceiptControls) : Prop
  | idle (keeps : controls.Keeps controls') (sending : controls'.sending = controls.sending)
      (calls : controls'.calls = controls.calls)
  | taken (target : ReceiptTarget) (unsigned : ApplicationControlEnvelope)
      (entries : ∀ key emitted, controls'.emittedReceiptTargets.get? key = some emitted →
        (key = target.emittedKey ∧ emitted.call = controls.calls) ∨
          controls.emittedReceiptTargets.get? key = some emitted)
      (sending : controls'.sending =
        controls.sending ++ [⟨controls.calls, target, unsigned, false⟩])
      (calls : controls'.calls = controls.calls + 1)
  | signed (position : Nat) (send : ReceiptSend)
      (waiting : controls.sending[position]? = some send)
      (keeps : controls.Keeps controls')
      (sending : controls'.sending = controls.sending.set position { send with signed := true })
      (calls : controls'.calls = controls.calls)
  | ended (position : Nat) (keeps : controls.Keeps controls')
      (sending : controls'.sending = controls.sending.eraseIdx position)
      (calls : controls'.calls = controls.calls)

end Step

section Invariant

/-- What holds of the calls that wait and of the entries that are held. -/
structure SendsSound (controls : ReceiptControls) : Prop where
  emitted : ∀ key emitted, controls.emittedReceiptTargets.get? key = some emitted →
    emitted.call < controls.calls
  sending : ∀ send ∈ controls.sending, send.call < controls.calls
  unique : (controls.sending.map ReceiptSend.call).Nodup
  keyed : ∀ send ∈ controls.sending, ∀ key emitted,
    controls.emittedReceiptTargets.get? key = some emitted → emitted.call = send.call →
      key = send.target.emittedKey

theorem SendsSound.of_keeps (h : controls.SendsSound) (hkeeps : controls.Keeps controls')
    (hcalls : controls'.calls = controls.calls)
    (hunique : (controls'.sending.map ReceiptSend.call).Nodup)
    (hsending : ∀ send' ∈ controls'.sending, ∃ send ∈ controls.sending,
      send'.call = send.call ∧ send'.target = send.target) :
    controls'.SendsSound where
  emitted key emitted hget := by
    rw [hcalls]
    exact h.emitted key emitted (hkeeps key emitted hget)
  sending send' hmem := by
    obtain ⟨send, hsend, hcall, -⟩ := hsending send' hmem
    rw [hcalls, hcall]
    exact h.sending send hsend
  unique := hunique
  keyed send' hmem key emitted hget hcall' := by
    obtain ⟨send, hsend, hcall, htarget⟩ := hsending send' hmem
    rw [htarget]
    exact h.keyed send hsend key emitted (hkeeps key emitted hget) (hcall'.trans hcall)

theorem SendsSound.step (h : controls.SendsSound) (hstep : SendStep controls controls') :
    controls'.SendsSound := by
  cases hstep with
  | idle hkeeps hsending hcalls =>
    refine h.of_keeps hkeeps hcalls ?_ ?_
    · rw [hsending]
      exact h.unique
    · rw [hsending]
      exact fun send hmem => ⟨send, hmem, rfl, rfl⟩
  | taken target unsigned hentries hsending hcalls =>
    refine ⟨?_, ?_, ?_, ?_⟩
    · intro key emitted hget
      rw [hcalls]
      rcases hentries key emitted hget with ⟨-, hcall⟩ | hold
      · omega
      · exact Nat.lt_succ_of_lt (h.emitted key emitted hold)
    · intro send hmem
      rw [hsending] at hmem
      rw [hcalls]
      rcases List.mem_append.mp hmem with hmem | hmem
      · exact Nat.lt_succ_of_lt (h.sending send hmem)
      · rw [List.mem_singleton.mp hmem]
        exact Nat.lt_succ_self _
    · rw [hsending, List.map_append, List.map_singleton, ← List.concat_eq_append]
      refine h.unique.concat fun hmem => ?_
      obtain ⟨send, hsend, heq⟩ := List.mem_map.mp hmem
      have hlt := h.sending send hsend
      rw [heq] at hlt
      exact Nat.lt_irrefl _ hlt
    · intro send hmem key emitted hget hcall
      rw [hsending] at hmem
      rcases List.mem_append.mp hmem with hmem | hmem
      · rcases hentries key emitted hget with ⟨-, hnew⟩ | hold
        · have hlt := h.sending send hmem
          omega
        · exact h.keyed send hmem key emitted hold hcall
      · rw [List.mem_singleton.mp hmem] at hcall ⊢
        rcases hentries key emitted hget with ⟨hkey, -⟩ | hold
        · exact hkey
        · have hlt := h.emitted key emitted hold
          rw [hcall] at hlt
          exact absurd hlt (Nat.lt_irrefl _)
  | signed position send hwaiting hkeeps hsending hcalls =>
    have hmem : send ∈ controls.sending := List.mem_of_getElem? hwaiting
    obtain ⟨hlt, hget⟩ := List.getElem?_eq_some_iff.mp hwaiting
    refine h.of_keeps hkeeps hcalls ?_ ?_
    · rw [hsending, List.map_set]
      have hself : (controls.sending.map ReceiptSend.call).set position send.call =
          controls.sending.map ReceiptSend.call := by
        have hbound : position < (controls.sending.map ReceiptSend.call).length := by
          rw [List.length_map]
          exact hlt
        rw [← hget, ← List.getElem_map ReceiptSend.call (h := hbound)]
        exact List.set_getElem_self hbound
      rw [hself]
      exact h.unique
    · intro send' hmem'
      rw [hsending] at hmem'
      rcases List.mem_or_eq_of_mem_set hmem' with hold | rfl
      · exact ⟨send', hold, rfl, rfl⟩
      · exact ⟨send, hmem, rfl, rfl⟩
  | ended position hkeeps hsending hcalls =>
    refine h.of_keeps hkeeps hcalls ?_ ?_
    · rw [hsending, ← List.eraseIdx_map]
      exact h.unique.sublist (List.eraseIdx_sublist _ _)
    · rw [hsending]
      exact fun send hmem => ⟨send, List.mem_of_mem_eraseIdx hmem, rfl, rfl⟩

end Invariant

section Answer

/-- The call of `sendDeliveryReceipt` that an event is about, with its target, and what comes of
the call. -/
def sendTurn (controls : ReceiptControls) (turn : ReceiptTurn) :
    Option (Nat × ReceiptTarget × ReceiptSendAnswer) :=
  match turn.event with
  | .sendDeliveryReceipt options =>
    some (controls.calls, options.target, (controls.sendDeliveryReceipt options turn.now).2)
  | .signed position valid =>
    controls.sending[position]?.map fun send =>
      (send.call, send.target, (controls.signed position valid).2)
  | .forwarded position accepted =>
    controls.sending[position]?.map fun send =>
      (send.call, send.target, (controls.forwarded position accepted).2)
  | _ => none

def ReportsSent (target : ReceiptTarget) (controls : ReceiptControls) (turn : ReceiptTurn) :
    Prop :=
  ∃ call, controls.sendTurn turn = some (call, target, .returned .sent)

def Holds (target : ReceiptTarget) (entry : EmittedReceipt) (controls : ReceiptControls) : Prop :=
  controls.emittedReceiptTargets.get? target.emittedKey = some entry

/-- A call that is skipped or throws leaves no entry that it took. -/
def LeavesNoEntry (controls : ReceiptControls) (turn : ReceiptTurn) : Prop :=
  ∀ call target answer, controls.sendTurn turn = some (call, target, answer) →
    answer = .returned .skipped ∨ answer = .thrown →
      ∀ key entry, (controls.next turn).emittedReceiptTargets.get? key = some entry →
        entry.call ≠ call

/-- The entry of a call is not held any more when its signature fails. -/
def RollsBack (controls : ReceiptControls) (turn : ReceiptTurn) : Prop :=
  match turn.event with
  | .signed position false =>
    ∀ send ∈ controls.sending[position]?, send.signed = false →
      ∀ entry, controls.Holds send.target entry → entry.call ≠ send.call
  | _ => True

/-- When an envelope was sent, an entry that is held for its target is that of its call. -/
def OwnsEntry (controls : ReceiptControls) (turn : ReceiptTurn) : Prop :=
  match turn.event with
  | .forwarded position true =>
    ∀ send ∈ controls.sending[position]?, send.signed = true →
      ∀ entry, controls.Holds send.target entry → entry.call = send.call
  | _ => True

end Answer

section Run

def Over (call : Nat) (controls : ReceiptControls) : Prop :=
  call < controls.calls ∧ ∀ send ∈ controls.sending, send.call ≠ call

theorem Over.step {call : Nat} (h : controls.Over call) (hstep : SendStep controls controls') :
    controls'.Over call := by
  obtain ⟨hlt, hover⟩ := h
  cases hstep with
  | idle hkeeps hsending hcalls =>
    rw [Over, hsending, hcalls]
    exact ⟨hlt, hover⟩
  | taken target unsigned hentries hsending hcalls =>
    rw [Over, hsending, hcalls]
    refine ⟨Nat.lt_succ_of_lt hlt, fun send hmem => ?_⟩
    rcases List.mem_append.mp hmem with hmem | hmem
    · exact hover send hmem
    · rw [List.mem_singleton.mp hmem]
      exact hlt.ne'
  | signed position send hwaiting hkeeps hsending hcalls =>
    rw [Over, hsending, hcalls]
    refine ⟨hlt, fun send' hmem => ?_⟩
    rcases List.mem_or_eq_of_mem_set hmem with hmem | rfl
    · exact hover send' hmem
    · exact hover send (List.mem_of_getElem? hwaiting)
  | ended position hkeeps hsending hcalls =>
    rw [Over, hsending, hcalls]
    exact ⟨hlt, fun send hmem => hover send (List.mem_of_mem_eraseIdx hmem)⟩

/-- While an entry is held, one call at most reports that the receipt for its target was sent,
and no call that is skipped or throws leaves an entry that it took. -/
def SentOnce (turns : List ReceiptTurn) : Prop :=
  (∀ target entry, Trace.OnceWhile next (ReportsSent target) (Holds target entry) {} turns) ∧
    Trace.Meets next LeavesNoEntry {} turns

end Run

end ReceiptControls

def ReceiptTurn.WithoutRetry (turn : ReceiptTurn) : Prop :=
  match turn.event with
  | .sendDeliveryReceipt options => options.allowTargetRetry = false
  | _ => True

/-- Whatever calls are made that retry no target, and however they overlap. -/
def ReceiptsSentOnce : Prop :=
  ∀ turns, (∀ turn ∈ turns, ReceiptTurn.WithoutRetry turn) → ReceiptControls.SentOnce turns

section Sample

def sampleTarget : ReceiptTarget where
  kind := .delivered
  recipientPeerId := "AQAAAAAAAAAAAAAAAAAAAAAAAAAAAAAAAAAAAAAAAAA"
  targetDeliveryId := "AAAAAAAAAAAAAAAAAAAAAA"

def sampleSend : ReceiptTurn where
  now := 1000
  event := .sendDeliveryReceipt
    { target := sampleTarget
      senderPeerId := "AAAAAAAAAAAAAAAAAAAAAAAAAAAAAAAAAAAAAAAAAAA"
      attached := true, signingKey := true, allowTargetRetry := false
      controlId := "AQAAAAAAAAAAAAAAAAAAAA" }

def unsignedReceipt : List ReceiptTurn := [sampleSend, ⟨1001, .signed 0 false⟩]

def sentReceipt : List ReceiptTurn :=
  [sampleSend, ⟨1001, .signed 0 true⟩, ⟨1002, .forwarded 0 true⟩]

end Sample

end Branch.Pwa
