import Branch.Pwa.AttachmentSettled

/-!
What a step of an attachment controller does: changes of a few kinds, one after the other.
-/

namespace Branch.Pwa

open Branch.Core Branch.Lib

/-- A transfer goes on or its timer is stopped. Nothing else of it changes. -/
def LiveTransfer.Proceeds (t t' : LiveTransfer) : Prop :=
  ∃ transfer expiry, t' = { t with transfer, expiry } ∧ t.transfer.Same transfer ∧
    (t.transfer.phase.terminal = true → transfer.phase.terminal = true)

/-- What the clock says when something happens, if it is read. -/
def AttachmentEvent.time? : AttachmentEvent → Option Nat
  | offer _ _ ports _ _ | accept _ ports | reject _ ports | cancel _ _ ports => some ports.now
  | hashed _ _ now | signed _ _ _ now | offerSent _ _ now => some now
  | manifestVerified _ _ now _ | decisionVerified _ _ now => some now
  | receiveChunk _ _ _ now | chunkReceived _ now => some now
  | decisionSigned _ _ now | decisionSent _ _ now | relayForwarded _ now => some now
  | chunkRead _ _ _ now | chunkSent _ _ now => some now
  | timeout _ now | unavailable _ now => some now
  | receiveManifest _ _ _ | receiveDecision _ _ _ | digested _ _ => none

def AttachmentEvent.By (clock : Nat) (e : AttachmentEvent) : Prop :=
  ∀ time ∈ e.time?, time ≤ clock

instance (clock : Nat) (e : AttachmentEvent) : Decidable (e.By clock) :=
  inferInstanceAs (Decidable (∀ time ∈ e.time?, time ≤ clock))

theorem AttachmentEvent.exists_by (e : AttachmentEvent) : ∃ clock, e.By clock :=
  ⟨e.time?.getD 0, fun time hmem => by rw [hmem]; exact Nat.le_refl _⟩

def AttachmentEvent.Fills : AttachmentEvent → Prop
  | decisionVerified .. | relayForwarded .. | chunkRead .. | chunkSent .. => True
  | _ => False

namespace AttachmentController

variable {s s' s'' : AttachmentController} {filling : Prop} {clock : Nat}
  {direction : AttachmentDirection} {peerId deliveryId : String} {r g i now : Nat}
  {t : LiveTransfer} {operation : AttachmentOperation} {reason : AttachmentControllerReason}
  {events : List AttachmentControllerEvent}
  {answer : AttachmentController × List AttachmentControllerEvent}

def Unaccepted (events : List AttachmentControllerEvent) : Prop :=
  ∀ peerId r, .ended peerId .outbound .accepted (some r) ∉ events

section Unaccepted

theorem unaccepted_nil : Unaccepted [] := fun _ _ hmem => by cases hmem

theorem unaccepted_singleton {event : AttachmentControllerEvent}
    (h : ∀ peerId r, event ≠ .ended peerId .outbound .accepted (some r)) :
    Unaccepted [event] :=
  fun peerId r hmem => h peerId r (List.mem_singleton.mp hmem).symm

theorem Unaccepted.append {events' : List AttachmentControllerEvent}
    (h : Unaccepted events) (h' : Unaccepted events') : Unaccepted (events ++ events') := by
  intro peerId r hmem
  rcases List.mem_append.mp hmem with hmem | hmem
  · exact h peerId r hmem
  · exact h' peerId r hmem

theorem unaccepted_offerRejected (peerId : String) (reason : AttachmentControllerReason) :
    Unaccepted (offerRejected peerId reason) :=
  unaccepted_singleton nofun

theorem unaccepted_endTransfer (hreason : direction = .inbound ∨ reason ≠ .accepted) :
    Unaccepted (s.endTransfer direction peerId reason now).2 := by
  cases direction with
  | inbound =>
    unfold endTransfer endInbound
    dsimp only
    split
    · exact unaccepted_nil
    · split
      · exact unaccepted_nil
      · exact unaccepted_singleton nofun
  | outbound =>
    unfold endTransfer endOutbound
    dsimp only
    split
    · exact unaccepted_nil
    · split
      · exact unaccepted_nil
      · refine unaccepted_singleton fun peerId' r' heq => ?_
        cases heq
        rcases hreason with hinbound | haccepted
        · cases hinbound
        · exact haccepted rfl

theorem unaccepted_endOutbound (h : reason ≠ .accepted) :
    Unaccepted (s.endOutbound peerId reason now).2 :=
  show Unaccepted (s.endTransfer .outbound peerId reason now).2 from
    unaccepted_endTransfer (.inr h)

end Unaccepted

/-- One change of a controller. What fills windows is a change only where it is allowed to. -/
inductive Change (filling : Prop) (clock : Nat) :
    AttachmentController → AttachmentController → Prop where
  | start {s : AttachmentController} {operation : AttachmentOperation}
      (hoffering : operation.offering = none) (hfills : filling ∨ operation.fills = none) :
      Change filling clock s (s.start operation)
  | resume {s : AttachmentController} {i : Nat} {operation : AttachmentOperation}
      (hoffering : operation.offering = none)
      (hfills : filling ∨ operation.fills = none ∧
        ∃ old, s.operations[i]? = some old ∧ AttachmentOperation.fills old = none) :
      Change filling clock s (s.resume i operation)
  | sign {s : AttachmentController} {i : Nat} {peerId : String} {draft : AttachmentManifest}
      (unsigned : AttachmentManifest)
      (hget : s.operations[i]? = some (.hashingFile peerId draft)) :
      Change filling clock s (s.resume i (.signingManifest peerId unsigned))
  | offerOver {s : AttachmentController} {i : Nat} {operation : AttachmentOperation}
      {peerId : String} (hget : s.operations[i]? = some operation)
      (hoffering : operation.offering = some peerId) :
      Change filling clock s (s.offerOver i peerId)
  | update {s : AttachmentController} {r : Nat} {f : LiveTransfer → LiveTransfer}
      (hf : ∀ t, s.live[r]? = some t → t.Proceeds (f t)) :
      Change filling clock s (s.update r f)
  | endTransfer {s : AttachmentController} (direction : AttachmentDirection) (peerId : String)
      (reason : AttachmentControllerReason) {now : Nat} (hnow : now ≤ clock) :
      Change filling clock s (s.endTransfer direction peerId reason now).1
  | overdue {s : AttachmentController} {r : Nat} {t : LiveTransfer} {now : Nat}
      (hlive : s.live[r]? = some t) (hnow : now ≤ clock) :
      Change filling clock s ((s.update r fun t =>
        { t with manifestForwardTimeout := false }).endTransfer .outbound t.peerId
          .ackTimeout now).1
  | opening {s s' s'' : AttachmentController} {direction : AttachmentDirection}
      {peerId : String} {g now : Nat} {manifest : AttachmentManifest} {opened : RegistryOpened}
      (hnone : (s.table direction).get? peerId = none)
      (hof : s.registryOf peerId direction = (s', g))
      (hopen : s'.openRegistry g manifest now = (s'', opened))
      (hnow : direction = .inbound → now ≤ clock) : Change filling clock s s''
  | window {s : AttachmentController} {r : Nat} {f : OutboundWindow → OutboundWindow}
      (hfilling : filling) (hf : ∀ w, (f w).outstanding = w.outstanding) :
      Change filling clock s (s.updateWindow r f)
  | acknowledgeManifest {s : AttachmentController} {r : Nat} {deliveryId : String}
      (hfilling : filling) (hget : s.manifestDeliveryToOutbound.get? deliveryId = some r) :
      Change filling clock s
        { s.update r fun t => { t with manifestForwardTimeout := false } with
          manifestDeliveryToOutbound := s.manifestDeliveryToOutbound.delete deliveryId }
  | acknowledgeChunk {s : AttachmentController} {r : Nat} {deliveryId : String}
      (hfilling : filling) (hget : s.deliveryToOutbound.get? deliveryId = some r) :
      Change filling clock s { s.updateWindow r (·.acknowledge deliveryId) with
        deliveryToOutbound := s.deliveryToOutbound.delete deliveryId }

inductive Reaches (filling : Prop) (clock : Nat) :
    AttachmentController → AttachmentController × List AttachmentControllerEvent → Prop where
  | done {s : AttachmentController} {events : List AttachmentControllerEvent}
      (hevents : filling ∨ Unaccepted events) : Reaches filling clock s (s, events)
  | change {s s' : AttachmentController}
      {answer : AttachmentController × List AttachmentControllerEvent}
      (hchange : Change filling clock s s') (hreaches : Reaches filling clock s' answer) :
      Reaches filling clock s answer

section Reaches

theorem Reaches.silent : Reaches filling clock s (s, []) := .done (.inr unaccepted_nil)

theorem Change.silent (h : Change filling clock s s') : Reaches filling clock s (s', []) :=
  .change h .silent

theorem reaches_endTransfer (direction : AttachmentDirection) (peerId : String)
    (reason : AttachmentControllerReason) (hnow : now ≤ clock)
    (hreason : filling ∨ direction = .inbound ∨ reason ≠ .accepted) :
    Reaches filling clock s (s.endTransfer direction peerId reason now) :=
  .change (.endTransfer direction peerId reason hnow)
    (.done (hreason.imp_right unaccepted_endTransfer))

theorem reaches_endInbound (peerId : String) (reason : AttachmentControllerReason)
    (hnow : now ≤ clock) : Reaches filling clock s (s.endInbound peerId reason now) :=
  reaches_endTransfer .inbound peerId reason hnow (.inr (.inl rfl))

theorem reaches_endOutbound (peerId : String) (reason : AttachmentControllerReason)
    (hnow : now ≤ clock) (hreason : filling ∨ reason ≠ .accepted) :
    Reaches filling clock s (s.endOutbound peerId reason now) :=
  reaches_endTransfer .outbound peerId reason hnow (hreason.imp_right .inr)

theorem change_transition {transfer : AttachmentTransferState} (hget : s.live[r]? = some t)
    (event : AttachmentTransferEvent) (htransfer : transfer = (t.transfer.step event).1) :
    Change filling clock s (s.update r fun t => { t with transfer }) := by
  refine .update fun t' hget' => ?_
  rw [hget] at hget'
  obtain rfl := Option.some.inj hget'
  exact ⟨transfer, t.expiry, rfl, htransfer ▸ AttachmentTransferState.same_step event,
    htransfer ▸ AttachmentTransferState.terminal_step⟩

theorem proceeds_carryOut (decision : AttachmentDecision) (t : LiveTransfer) :
    t.Proceeds { t with transfer := carryOut decision t.transfer } := by
  refine ⟨carryOut decision t.transfer, t.expiry, rfl, ?_⟩
  unfold carryOut
  cases decision.kind with
  | accept =>
    exact ⟨AttachmentTransferState.same_step (.accept decision (some decision.issuedAt)),
      (t.keeps_step (.accept decision (some decision.issuedAt))).terminal⟩
  | reject => exact ⟨.rfl, id⟩
  | cancel =>
    exact ⟨AttachmentTransferState.same_step (.cancel decision (some decision.issuedAt)),
      (t.keeps_step (.cancel decision (some decision.issuedAt))).terminal⟩

theorem change_finish (hget : s.operations[i]? = some operation)
    (hfills : operation.fills = none) : Change filling clock s (s.resume i .finished) :=
  .resume rfl (.inr ⟨rfl, operation, hget, hfills⟩)

section Offer

theorem reaches_offerOver (hget : s.operations[i]? = some operation)
    (hoffering : operation.offering = some peerId) (hevents : Unaccepted events) :
    Reaches filling clock s (s.offerOver i peerId, events) :=
  .change (.offerOver hget hoffering) (.done (.inr hevents))

theorem reaches_offerThrew (h : s.Settled) (hget : s.operations[i]? = some operation)
    (hoffering : operation.offering = some peerId) (hnow : now ≤ clock) :
    Reaches filling clock s (s.offerThrew i peerId now) := by
  have hoperations := (ended_endTransfer h.sound .outbound peerId .sendFailed now).1.operations
  have hget' : (s.endTransfer .outbound peerId .sendFailed now).1.operations[i]? =
      some operation := by
    rw [← hget]
    exact congrArg (·[i]?) hoperations
  refine .change (.endTransfer .outbound peerId .sendFailed hnow)
    (reaches_offerOver hget' hoffering ?_)
  split
  · exact unaccepted_endOutbound (by decide)
  · exact unaccepted_offerRejected peerId .sendFailed

theorem reaches_hashed {draft : AttachmentManifest} {sha256 : Option String} (h : s.Settled)
    (hget : s.operations[i]? = some (.hashingFile peerId draft)) (hnow : now ≤ clock) :
    Reaches filling clock s (s.hashed i peerId draft sha256 now) := by
  unfold hashed
  split
  · exact reaches_offerThrew h hget rfl hnow
  · dsimp only
    split
    · exact reaches_offerThrew h hget rfl hnow
    · exact (Change.sign _ hget).silent

theorem reaches_offerSent {ok : Bool} (h : s.Settled)
    (hget : s.operations[i]? = some operation) (hoffering : operation.offering = some peerId)
    (hnow : now ≤ clock) : Reaches filling clock s (s.offerSent i peerId ok now) := by
  unfold offerSent
  split
  · exact reaches_offerOver hget hoffering (unaccepted_singleton nofun)
  · exact reaches_offerThrew h hget hoffering hnow

end Offer

section Receive

theorem reaches_receiveChunk {chunk : AttachmentChunk} :
    Reaches filling clock s (s.receiveChunk peerId chunk now, []) := by
  unfold receiveChunk
  split
  · exact .silent
  · split
    · exact .silent
    · rename_i t hget
      have hmoved := @change_transition s filling clock _ t _ hget
        (.receiveChunk chunk (some now)) rfl
      dsimp only
      split
      · exact .change hmoved (Change.start rfl (.inr rfl)).silent
      · exact .change hmoved (Change.start rfl (.inr rfl)).silent

theorem reaches_digested {position : Nat} {digest : Option String}
    (hget : s.operations[i]? = some (.digesting r position)) :
    Reaches filling clock s (s.digested i r position digest, []) := by
  unfold digested
  split
  · exact .silent
  · rename_i t hlive
    have hmoved := @change_transition s filling clock _ t _ hlive (.resume position digest) rfl
    dsimp only
    split
    · exact .change hmoved (.change (change_finish hget rfl) .silent)
    · exact .change hmoved (.change (.resume rfl (.inr ⟨rfl, _, hget, rfl⟩)) .silent)

theorem reaches_chunkReceived {result : AttachmentTransferResult}
    (hget : s.operations[i]? = some (.receivingChunk r result)) (hnow : now ≤ clock) :
    Reaches filling clock s (s.chunkReceived i r result now) := by
  refine .change (change_finish hget rfl) ?_
  unfold chunkReceived
  dsimp only
  split
  · exact .silent
  · split
    · exact reaches_endInbound _ _ hnow
    · exact reaches_endInbound _ _ hnow
    · exact reaches_endInbound _ _ hnow
    · exact .silent

end Receive

section Decide

theorem reaches_decide {kind : AttachmentDecisionKind} {ports : AttachmentPorts}
    (hnow : ports.now ≤ clock) :
    Reaches filling clock s (s.decide direction peerId kind ports) := by
  unfold decide
  split
  · exact .silent
  · unfold sendLocalDecision
    split
    · exact .silent
    · split
      · exact .silent
      · dsimp only
        split
        · exact reaches_endTransfer _ _ _ hnow (.inr (.inr (by decide)))
        · exact (Change.start rfl (.inr rfl)).silent

theorem reaches_decisionSigned {unsigned : AttachmentDecision}
    {signature : Option (List UInt8)}
    (hget : s.operations[i]? = some (.signingDecision r unsigned)) (hnow : now ≤ clock) :
    Reaches filling clock s (s.decisionSigned i r unsigned signature now) := by
  unfold decisionSigned
  split
  · exact .silent
  · split
    · refine .change (change_finish hget rfl) ?_
      exact reaches_endTransfer _ _ _ hnow (.inr (.inr (by decide)))
    · rename_i signature
      have hcarried : Change filling clock s (s.update r fun t => { t with
          transfer := carryOut { unsigned with signature } t.transfer }) :=
        .update fun t _ => proceeds_carryOut _ t
      refine .change hcarried ?_
      dsimp only
      split
      · refine .change (change_finish hget rfl) ?_
        exact reaches_endTransfer _ _ _ hnow (.inr (.inr (by decide)))
      · exact .change (.resume rfl (.inr ⟨rfl, _, hget, rfl⟩)) .silent

theorem reaches_decisionSent {kind : AttachmentDecisionKind} {ok : Bool}
    (hget : s.operations[i]? = some (.sendingDecision r kind)) (hnow : now ≤ clock) :
    Reaches filling clock s (s.decisionSent i r kind ok now) := by
  refine .change (change_finish hget rfl) ?_
  unfold decisionSent
  dsimp only
  split
  · exact .silent
  · split
    · exact reaches_endTransfer _ _ _ hnow (.inr (.inr (by decide)))
    · split
      · exact .done (.inr (unaccepted_singleton nofun))
      · exact reaches_endInbound _ _ hnow
      · exact reaches_endInbound _ _ hnow
      · exact reaches_endOutbound _ _ hnow (.inr (by decide))

end Decide

section Window

variable (hfilling : filling)

include hfilling

theorem change_resume (i : Nat) (hoffering : operation.offering = none) :
    Change filling clock s (s.resume i operation) :=
  .resume hoffering (.inl hfilling)

theorem reaches_stopFilling (i r : Nat) (events : List AttachmentControllerEvent) :
    Reaches filling clock s (s.stopFilling i r, events) := by
  have hstopped : Change filling clock s
      (s.updateWindow r fun w => { w with filling := false }) := .window hfilling fun _ => rfl
  exact .change hstopped (.change (change_resume hfilling i rfl) (.done (.inl hfilling)))

theorem reaches_fillLoop (i r : Nat) (events : List AttachmentControllerEvent) :
    Reaches filling clock s (s.fillLoop i r, events) := by
  unfold fillLoop
  split
  · exact .change (change_resume hfilling i rfl) (.done (.inl hfilling))
  · split
    · have htaken : Change filling clock s (s.updateWindow r .take) :=
        .window hfilling fun _ => rfl
      exact .change htaken (.change (change_resume hfilling i rfl) (.done (.inl hfilling)))
    · exact reaches_stopFilling hfilling i r events

theorem reaches_fillWindow (r : Nat) (events : List AttachmentControllerEvent) :
    Reaches filling clock s (s.fillWindow r, events) := by
  unfold fillWindow
  split
  · exact .done (.inl hfilling)
  · split
    · exact .done (.inl hfilling)
    · have hmarked : Change filling clock s
          (s.updateWindow r fun w => { w with filling := true }) := .window hfilling fun _ => rfl
      exact .change hmarked
        (.change (.start rfl (.inr rfl)) (reaches_fillLoop hfilling _ r events))

theorem reaches_decisionVerified {decision : AttachmentDecision} {verified : Bool}
    (hnow : now ≤ clock) :
    Reaches filling clock s (s.decisionVerified i peerId decision verified now) := by
  have hfinished : Change filling clock s (s.resume i .finished) := change_resume hfilling i rfl
  refine .change hfinished ?_
  unfold decisionVerified
  dsimp only
  split
  · exact .silent
  · split
    · rename_i r _
      split
      · exact .silent
      · rename_i t hget
        refine .change (change_transition hget (.receiveDecision decision (some now)) rfl) ?_
        split
        · exact reaches_fillWindow hfilling r _
        · exact reaches_endOutbound _ _ hnow (.inl hfilling)
        · exact reaches_endOutbound _ _ hnow (.inl hfilling)
        · exact reaches_endOutbound _ _ hnow (.inl hfilling)
        · exact reaches_endOutbound _ _ hnow (.inl hfilling)
        · exact .silent
    · split
      · exact .silent
      · split
        · exact .silent
        · split
          · exact .silent
          · rename_i t hget
            refine .change (change_transition hget (.cancel decision (some now)) rfl) ?_
            split
            · exact reaches_endInbound _ _ hnow
            · exact .silent

theorem reaches_onRelayForwarded (hnow : now ≤ clock) :
    Reaches filling clock s (s.onRelayForwarded deliveryId now) := by
  unfold onRelayForwarded
  split
  · rename_i hget
    exact (Change.acknowledgeManifest hfilling hget).silent
  · split
    · exact .silent
    · rename_i r hget
      split
      · exact .silent
      · split
        · exact .silent
        · refine .change (.acknowledgeChunk hfilling hget) ?_
          dsimp only
          split
          · exact reaches_endOutbound _ _ hnow (.inl hfilling)
          · exact reaches_fillWindow hfilling r _

theorem reaches_endOutbound_stopFilling (peerId : String) (reason : AttachmentControllerReason)
    (i r : Nat) (hnow : now ≤ clock) :
    Reaches filling clock s ((s.endOutbound peerId reason now).1.stopFilling i r,
      (s.endOutbound peerId reason now).2) :=
  .change (.endTransfer .outbound peerId reason hnow) (reaches_stopFilling hfilling i r _)

theorem reaches_chunkSent {ok : Bool} (hnow : now ≤ clock) :
    Reaches filling clock s (s.chunkSent i r ok now) := by
  unfold chunkSent
  split
  · exact reaches_fillLoop hfilling i r _
  · split
    · exact .silent
    · exact reaches_endOutbound_stopFilling hfilling _ _ i r hnow

end Window

section Timeout

theorem reaches_timeout {timer : AttachmentTimer} (hnow : now ≤ clock) :
    Reaches filling clock s (s.timeout timer now) := by
  unfold timeout
  split
  · split
    · exact .silent
    · split
      · exact .silent
      · rename_i r _ t _ _
        have hstopped : Change filling clock s (s.update r fun t => { t with expiry := false }) :=
          .update fun t _ => ⟨t.transfer, false, rfl, .rfl, id⟩
        refine .change hstopped ?_
        exact reaches_endTransfer _ _ _ hnow (.inr (.inr (by decide)))
  · split
    · exact .silent
    · rename_i hlive
      split
      · exact .silent
      · exact .change (.overdue hlive hnow) (.done (.inr (unaccepted_endOutbound (by decide))))
  · split
    · exact .silent
    · split
      · exact .silent
      · exact reaches_endOutbound _ _ hnow (.inr (by decide))

theorem Reaches.alsoEnd (hanswer : Reaches filling clock s answer)
    (hreason : reason ≠ .accepted) (hnow : now ≤ clock) :
    Reaches filling clock s (alsoEnd direction reason now answer peerId) := by
  induction hanswer with
  | done hevents =>
    exact .change (.endTransfer direction peerId reason hnow)
      (.done (hevents.imp_right fun h => h.append (unaccepted_endTransfer (.inr hreason))))
  | change hchange _ ih => exact .change hchange ih

theorem Reaches.alsoEnd_all (hanswer : Reaches filling clock s answer) (peers : List String)
    (hreason : reason ≠ .accepted) (hnow : now ≤ clock) :
    Reaches filling clock s
      (peers.foldl (AttachmentController.alsoEnd direction reason now) answer) := by
  induction peers generalizing answer with
  | nil => exact hanswer
  | cons peerId peers ih =>
    rw [List.foldl_cons]
    exact ih (hanswer.alsoEnd hreason hnow)

theorem reaches_unavailable {peerId : Option String} (hnow : now ≤ clock) :
    Reaches filling clock s (s.unavailable peerId now) := by
  cases peerId with
  | some peerId =>
    exact (Reaches.silent.alsoEnd (by decide) hnow).alsoEnd (by decide) hnow
  | none =>
    exact (Reaches.silent.alsoEnd_all _ (by decide) hnow).alsoEnd_all _ (by decide) hnow

end Timeout

end Reaches

/-- What a step comes to. The beginnings of transfers and offers, and the chunk that is handed
over, stand for themselves. -/
inductive Course (clock : Nat) (s : AttachmentController) : AttachmentEvent →
    AttachmentController × List AttachmentControllerEvent → Prop where
  | changes {e : AttachmentEvent}
      {answer : AttachmentController × List AttachmentControllerEvent}
      (hreaches : Reaches e.Fills clock s answer) : Course clock s e answer
  | offered {peerId : String} {file : OfferedFile} {ports : AttachmentPorts}
      {transferId manifestId : String} {maximumBytes : Nat} (draft : AttachmentManifest)
      (hok : s.canOffer peerId ports = .ok maximumBytes) :
      Course clock s (.offer peerId file ports transferId manifestId)
        (start { s with offeringPeers := s.offeringPeers ++ [peerId] }
          (.hashingFile peerId draft), [])
  | launched {i : Nat} {peerId : String} {unsigned manifest : AttachmentManifest}
      {signature : Option (List UInt8)} {manifestDeliveryId : String} {now g openedAt : Nat}
      {s' s'' : AttachmentController} {transfer : AttachmentTransferState}
      (hget : s.operations[i]? = some (.signingManifest peerId unsigned))
      (hof : s.registryOf peerId .outbound = (s', g))
      (hopen : s'.openRegistry g manifest openedAt = (s'', .opened transfer)) :
      Course clock s (.signed i signature manifestDeliveryId now)
        (s''.launch i peerId g transfer manifestDeliveryId, [])
  | admitted {i g now : Nat} {shown : Option Bool} {peerId : String}
      {manifest : AttachmentManifest} {s' s'' : AttachmentController}
      {transfer : AttachmentTransferState}
      {answer : AttachmentController × List AttachmentControllerEvent}
      (hget : s.operations[i]? = some (.verifyingManifest peerId manifest))
      (hfree : ¬ (s.inbound.has peerId = true ∨
        maximumActiveDirections ≤ s.activeDirectionCount))
      (hof : (s.resume i .finished).registryOf peerId .inbound = (s', g))
      (hopen : s'.openRegistry g manifest now = (s'', .opened transfer)) (hnow : now ≤ clock)
      (hanswer : shown = some true ∧
          answer = (s''.admitInbound peerId g transfer, [.offerReceived peerId]) ∨
        ∃ reason, answer = (s''.admitInbound peerId g transfer).endInbound peerId reason now) :
      Course clock s (.manifestVerified i true now shown) answer
  | handed {i r index now : Nat} {bytes : List UInt8} {deliveryId : String} {t : LiveTransfer}
      {chunk : AttachmentChunk}
      (hget : s.operations[i]? = some (.readingChunk r index)) (hlive : s.live[r]? = some t)
      (hstored :
        (t.transfer.admitOutboundChunk chunk (some now)).2.status = .chunkStored) :
      Course clock s (.chunkRead i (some bytes) deliveryId now)
        (resume { (s.update r fun t' => { t' with
            transfer := (t.transfer.admitOutboundChunk chunk (some now)).1 }).updateWindow r
              (·.hand index deliveryId) with
            deliveryToOutbound := s.deliveryToOutbound.set deliveryId r } i (.sendingChunk r), [])

section Course

theorem course_offer {file : OfferedFile} {ports : AttachmentPorts}
    {transferId manifestId : String} :
    Course clock s (.offer peerId file ports transferId manifestId)
      (s.offer peerId file ports transferId manifestId) := by
  unfold offer
  split
  · exact .changes (.done (.inr (unaccepted_offerRejected _ _)))
  · rename_i hok
    split
    · exact .changes (.done (.inr (unaccepted_offerRejected _ _)))
    · exact .offered _ hok

theorem course_signed {unsigned : AttachmentManifest} {signature : Option (List UInt8)}
    {manifestDeliveryId : String} (h : s.Settled)
    (hget : s.operations[i]? = some (.signingManifest peerId unsigned)) (hnow : now ≤ clock) :
    Course clock s (.signed i signature manifestDeliveryId now)
      (s.signed i peerId unsigned signature manifestDeliveryId now) := by
  have hnone := get?_outbound_of_signing h hget
  unfold signed
  split
  · exact .changes (reaches_offerThrew h hget rfl hnow)
  · dsimp only
    split
    · exact .changes (reaches_offerOver hget rfl (unaccepted_offerRejected _ _))
    · rcases hof : s.registryOf peerId .outbound with ⟨s', g⟩
      dsimp only
      split
      all_goals
        rename_i hopen
        obtain ⟨hsettled, hsame, -, -⟩ := opening h hnone hof hopen
        have hget' := hget
        rw [← hsame.operations] at hget'
      · exact .launched hget hof hopen
      all_goals refine .changes (.change (.opening hnone hof hopen nofun) ?_)
      · exact reaches_offerOver hget' rfl (unaccepted_offerRejected _ _)
      · exact reaches_offerThrew hsettled hget' rfl hnow
      · exact reaches_offerOver hget' rfl (unaccepted_offerRejected _ _)

theorem course_manifestVerified {manifest : AttachmentManifest} {verified : Bool}
    {shown : Option Bool}
    (hget : s.operations[i]? = some (.verifyingManifest peerId manifest)) (hnow : now ≤ clock) :
    Course clock s (.manifestVerified i verified now shown)
      (s.manifestVerified i peerId manifest verified now shown) := by
  have hfinished : Change (AttachmentEvent.Fills (.manifestVerified i verified now shown)) clock
      s (s.resume i .finished) := change_finish hget rfl
  unfold manifestVerified
  dsimp only
  split
  · exact .changes hfinished.silent
  · rename_i hverified
    obtain rfl := not_not.mp hverified
    split
    · exact .changes hfinished.silent
    · rename_i hfree
      have hnone : ((s.resume i .finished).table .inbound).get? peerId = none :=
        get?_eq_none_of_not_has fun hhas => hfree (.inl hhas)
      rcases hof : (s.resume i .finished).registryOf peerId .inbound with ⟨s', g⟩
      dsimp only
      split
      · rename_i hopen
        split
        · exact .admitted hget hfree hof hopen hnow (.inl ⟨rfl, rfl⟩)
        · exact .admitted hget hfree hof hopen hnow (.inr ⟨.busy, rfl⟩)
        · exact .admitted hget hfree hof hopen hnow (.inr ⟨.sendFailed, rfl⟩)
      · rename_i hopen
        exact .changes (.change hfinished (Change.opening hnone hof hopen fun _ => hnow).silent)

theorem course_chunkRead {index : Nat} {bytes : Option (List UInt8)}
    (hget : s.operations[i]? = some (.readingChunk r index)) (hnow : now ≤ clock) :
    Course clock s (.chunkRead i bytes deliveryId now)
      (s.chunkRead i r index bytes deliveryId now) := by
  unfold chunkRead
  split
  · exact .changes .silent
  · rename_i t hlive
    split
    · exact .changes (reaches_stopFilling trivial i r _)
    · rename_i bytes
      dsimp only
      generalize AttachmentChunk.mk attachmentVersion t.manifest.transferId
        t.manifest.manifestId index bytes = chunk
      split
      · have hmoved := @change_transition s True clock _ t _ hlive
          (.admitOutboundChunk chunk (some now)) rfl
        exact .changes (.change hmoved
          (reaches_endOutbound_stopFilling trivial _ _ i r hnow))
      · rename_i hstored
        exact .handed hget hlive (not_not.mp hstored)

theorem course_step (h : s.Settled) (e : AttachmentEvent) (hby : e.By clock) :
    Course clock s e (s.step e) := by
  unfold step
  cases e with
  | offer peerId file ports transferId manifestId => exact course_offer
  | hashed i sha256 now =>
    dsimp only
    split
    · rename_i hget
      exact .changes (reaches_hashed h hget (hby _ rfl))
    · exact .changes .silent
  | signed i signature manifestDeliveryId now =>
    dsimp only
    split
    · rename_i hget
      exact course_signed h hget (hby _ rfl)
    · exact .changes .silent
  | offerSent i ok now =>
    dsimp only
    split
    · rename_i hget
      exact .changes (reaches_offerSent h hget rfl (hby _ rfl))
    · exact .changes .silent
  | receiveManifest peerId manifest known =>
    cases known with
    | false => exact .changes .silent
    | true => exact .changes (Change.start rfl (.inr rfl)).silent
  | manifestVerified i verified now shown =>
    dsimp only
    split
    · rename_i hget
      exact course_manifestVerified hget (hby _ rfl)
    · exact .changes .silent
  | receiveDecision peerId decision known =>
    cases known with
    | false => exact .changes .silent
    | true => exact .changes (Change.start rfl (.inr rfl)).silent
  | decisionVerified i verified now =>
    dsimp only
    split
    · exact .changes (reaches_decisionVerified trivial (hby _ rfl))
    · exact .changes .silent
  | receiveChunk peerId chunk known now =>
    cases known with
    | false => exact .changes .silent
    | true => exact .changes reaches_receiveChunk
  | digested i digest =>
    dsimp only
    split
    · rename_i hget
      exact .changes (reaches_digested hget)
    · exact .changes .silent
  | chunkReceived i now =>
    dsimp only
    split
    · rename_i hget
      exact .changes (reaches_chunkReceived hget (hby _ rfl))
    · exact .changes .silent
  | accept peerId ports => exact .changes (reaches_decide (hby _ rfl))
  | reject peerId ports => exact .changes (reaches_decide (hby _ rfl))
  | cancel peerId direction ports => exact .changes (reaches_decide (hby _ rfl))
  | decisionSigned i signature now =>
    dsimp only
    split
    · rename_i hget
      exact .changes (reaches_decisionSigned hget (hby _ rfl))
    · exact .changes .silent
  | decisionSent i ok now =>
    dsimp only
    split
    · rename_i hget
      exact .changes (reaches_decisionSent hget (hby _ rfl))
    · exact .changes .silent
  | relayForwarded deliveryId now => exact .changes (reaches_onRelayForwarded trivial (hby _ rfl))
  | chunkRead i bytes deliveryId now =>
    dsimp only
    split
    · rename_i hget
      exact course_chunkRead hget (hby _ rfl)
    · exact .changes .silent
  | chunkSent i ok now =>
    dsimp only
    split
    · exact .changes (reaches_chunkSent trivial (hby _ rfl))
    · exact .changes .silent
  | timeout timer now => exact .changes (reaches_timeout (hby _ rfl))
  | unavailable peerId now => exact .changes (reaches_unavailable (hby _ rfl))

end Course

section Settled

theorem Settled.stopWaiting (h : s.Settled) (r : Nat) :
    (s.update r fun t => { t with manifestForwardTimeout := false }).Settled :=
  h.update fun _ _ => LiveTransfer.keeps_of_transfer rfl rfl rfl

theorem Settled.change (h : s.Settled) (hchange : Change filling clock s s') : s'.Settled := by
  cases hchange with
  | start hoffering => exact h.start hoffering
  | resume hoffering => exact h.resume hoffering
  | sign unsigned hget => exact ⟨h.sound.resume _ _, h.offering.resume hget rfl rfl⟩
  | offerOver hget hoffering => exact settled_offerOver h hget hoffering
  | update hf =>
    refine h.update fun t hlive => ?_
    obtain ⟨transfer, expiry, heq, hsame, hterminal⟩ := hf t hlive
    rw [heq]
    exact ⟨rfl, rfl, hsame.direction, hterminal⟩
  | endTransfer direction peerId reason _ => exact h.endTransfer direction peerId reason _
  | overdue => exact (h.stopWaiting _).endTransfer .outbound _ .ackTimeout _
  | opening hnone hof hopen => exact (opening h hnone hof hopen).1
  | window => exact h.updateWindow _ _
  | @acknowledgeManifest r =>
    have hstopped := h.stopWaiting r
    exact ⟨hstopped.sound.of_eq rfl rfl rfl rfl, hstopped.offering.of_eq rfl rfl id⟩
  | acknowledgeChunk => exact (h.updateWindow _ _).deliveries _

theorem Settled.reaches (h : s.Settled) (hreaches : Reaches filling clock s answer) :
    answer.1.Settled := by
  induction hreaches with
  | done => exact h
  | change hchange _ ih => exact ih (h.change hchange)

theorem settled_launched {unsigned manifest : AttachmentManifest} {manifestDeliveryId : String}
    {transfer : AttachmentTransferState} (h : s.Settled)
    (hget : s.operations[i]? = some (.signingManifest peerId unsigned))
    (hof : s.registryOf peerId .outbound = (s', g))
    (hopen : s'.openRegistry g manifest now = (s'', .opened transfer)) :
    (s''.launch i peerId g transfer manifestDeliveryId).Settled := by
  have hnone := get?_outbound_of_signing h hget
  obtain ⟨hsettled, hsame, hdirection, hregistry⟩ := opening h hnone hof hopen
  rw [← hsame.operations] at hget
  rw [← hsame.table] at hnone
  exact (settled_launch hsettled hnone hregistry (hdirection transfer rfl) rfl hget).1

/-- What is there when the offer of a peer that has none is opened. -/
theorem opening_inbound {manifest : AttachmentManifest} {transfer : AttachmentTransferState}
    (h : s.Settled) (hhas : ¬ s.inbound.has peerId = true)
    (hof : (s.resume i .finished).registryOf peerId .inbound = (s', g))
    (hopen : s'.openRegistry g manifest now = (s'', .opened transfer)) :
    s''.Settled ∧ SameTransfers (s.resume i .finished) s'' ∧
      (s''.admitInbound peerId g transfer).Settled := by
  have hnone : ((s.resume i .finished).table .inbound).get? peerId = none :=
    get?_eq_none_of_not_has hhas
  obtain ⟨hsettled, hsame, hdirection, hregistry⟩ := opening (h.resume rfl) hnone hof hopen
  rw [← hsame.table] at hnone
  exact ⟨hsettled, hsame,
    settled_admitInbound hsettled hnone hregistry (hdirection transfer rfl) rfl⟩

theorem settled_next (h : s.Settled) (e : AttachmentEvent) : (s.next e).Settled := by
  obtain ⟨clock, hby⟩ := e.exists_by
  unfold next
  have hcourse := course_step h e hby
  generalize s.step e = answer at hcourse ⊢
  cases hcourse with
  | changes hreaches => exact h.reaches hreaches
  | offered draft hok => exact settled_offered h hok
  | launched hget hof hopen => exact settled_launched h hget hof hopen
  | admitted hget hfree hof hopen hnow hanswer =>
    obtain ⟨-, -, hadmitted⟩ := opening_inbound h (fun hhas => hfree (.inl hhas)) hof hopen
    rcases hanswer with ⟨-, rfl⟩ | ⟨reason, rfl⟩
    · exact hadmitted
    · exact hadmitted.endTransfer .inbound _ reason _
  | @handed i r index now bytes deliveryId t chunk _ hlive _ =>
    have hmoved := h.transition hlive (.admitOutboundChunk chunk (some now)) rfl
    exact ((hmoved.updateWindow _ _).deliveries _).resume rfl

end Settled

end AttachmentController

end Branch.Pwa
