import Branch.Agreement.ApplicationControl
import Branch.Core.ControlReplay
import Branch.Pwa.ReceiptControls

/-!
The memory of the controls that were accepted. It is cut to its bound when a receipt comes, and
grows in between.
-/

namespace Branch.Pwa

open Branch.Core Branch.Lib

namespace ReceiptControls

variable {controls : ReceiptControls} {turn : ReceiptTurn} {options : ReceiveOptions}
  {kind : String} {registry : ApplicationControlRegistry ReceiptBody} {now : Nat}

section Receive

def Signed (registry : ApplicationControlRegistry ReceiptBody) : Prop :=
  ∀ kind descriptor, registry.get? kind = some descriptor → descriptor.authentication = .ed25519

theorem signed_singleton {descriptor : ApplicationControlDescriptor ReceiptBody}
    (h : descriptor.authentication = .ed25519) :
    Signed (Table.empty.insert kind descriptor) := by
  intro kind' descriptor' hget
  rw [Table.get?_insert] at hget
  split at hget
  · obtain rfl := Option.some.inj hget
    exact h
  · rw [Table.get?_empty] at hget
    cases hget

theorem process_ne_accepted {runtime : ControlRuntime ReceiptBody} {bytes : List UInt8}
    {ports : ApplicationControlPorts} (h : Signed registry)
    (effects : List ApplicationControlEffect) :
    (runtime.processApplicationControl bytes registry ports).2 ≠
      .returned (.accepted effects) := by
  unfold ControlRuntime.processApplicationControl
  split
  · simp
  · rename_i envelope descriptor hcheck
    unfold ControlRuntime.checkControl at hcheck
    obtain ⟨decoded, -, hcheck⟩ := bind_eq_ok.mp hcheck
    split at hcheck
    · cases hcheck
    · rename_i found hfound
      simp only [throwIf_bind_eq_ok] at hcheck
      obtain ⟨-, -, -, -, -, -, -, hcheck⟩ := hcheck
      obtain ⟨-, rfl⟩ := Prod.mk.inj (Except.ok.inj hcheck)
      rw [h _ _ hfound]
      dsimp only
      split
      · simp
      · simp

variable {envelope : ApplicationControlEnvelope}
  {result : ControlRuntime ReceiptBody × ControlAnswer}

theorem settle_of_ne_accepted (h : ∀ effects, result.2 ≠ .returned (.accepted effects)) :
    controls.settle envelope result =
      ({ controls with verifying := result.1.verifying }, .answered result.2) := by
  unfold settle
  dsimp only
  split
  · rename_i effects heq
    exact absurd heq (h effects)
  · rfl

/-- What comes is not handled and changes nothing, or it waits or is rejected behind what is done
before it is looked at. -/
theorem receive_cases (hsigned : Signed registry) (before : ReceiptControls → ReceiptControls) :
    ((controls.receive kind registry before options now).1 = controls ∧
      ∀ answer, (controls.receive kind registry before options now).2 ≠ .answered answer) ∨
    ((controls.receive kind registry before options now).1.replayControlIds =
        (before controls).replayControlIds ∧
      ∀ effects, (controls.receive kind registry before options now).2 ≠
        .answered (.returned (.accepted effects))) := by
  unfold receive
  split
  · exact .inl ⟨rfl, by simp⟩
  · split
    · exact .inl ⟨rfl, by simp⟩
    · split
      · exact .inl ⟨rfl, by simp⟩
      · right
        dsimp only
        rw [settle_of_ne_accepted (process_ne_accepted hsigned)]
        refine ⟨rfl, fun effects heq => ?_⟩
        exact process_ne_accepted hsigned effects (ReceivedControl.answered.inj heq)

theorem settle_of_accepted
    {effects : List ApplicationControlEffect} (h : result.2 = .returned (.accepted effects)) :
    (controls.settle envelope result).1.replayControlIds =
        controls.replayControlIds.remember envelope.controlId envelope.expiresAt ∧
      (controls.settle envelope result).2 = .answered (.returned (.accepted effects)) := by
  unfold settle
  rw [h]
  exact ⟨rfl, rfl⟩

theorem verified_of_passes {position : Nat} {call : VerifyingControl ReceiptBody}
    (hcall : controls.verifying[position]? = some call)
    (hpasses : call.descriptor.Passes call.envelope) :
    (controls.verified position true).1.replayControlIds =
        controls.replayControlIds.remember call.envelope.controlId call.envelope.expiresAt ∧
      ∃ effects, (controls.verified position true).2 =
        .answered (.returned (.accepted effects)) := by
  unfold verified
  rw [hcall]
  dsimp only
  generalize hwaiting : ({ controls with verifying := controls.verifying.eraseIdx position } :
    ReceiptControls) = waiting
  have hreplay : waiting.replayControlIds = controls.replayControlIds := by rw [← hwaiting]
  rw [← hreplay]
  obtain ⟨effects, haccepted⟩ := ControlRuntime.reduceControl_accepted_iff.mpr hpasses
  obtain ⟨hremember, hanswer⟩ := @settle_of_accepted waiting call.envelope _ _ haccepted
  exact ⟨hremember, effects, hanswer⟩

theorem verified_cases (controls : ReceiptControls) (position : Nat) (valid : Bool) :
    ((controls.verified position valid).1.replayControlIds = controls.replayControlIds ∧
      ∀ effects, (controls.verified position valid).2 ≠
        .answered (.returned (.accepted effects))) ∨
    ∃ call, valid = true ∧ controls.verifying[position]? = some call ∧
      call.descriptor.Passes call.envelope ∧
      (controls.verified position valid).1.replayControlIds =
        controls.replayControlIds.remember call.envelope.controlId call.envelope.expiresAt ∧
      ∃ effects, (controls.verified position valid).2 =
        .answered (.returned (.accepted effects)) := by
  by_cases hpasses : valid = true ∧ ∃ call, controls.verifying[position]? = some call ∧
      call.descriptor.Passes call.envelope
  · obtain ⟨rfl, call, hcall, hpasses⟩ := hpasses
    exact .inr ⟨call, rfl, hcall, hpasses, verified_of_passes hcall hpasses⟩
  · left
    unfold verified
    split
    · exact ⟨rfl, by simp⟩
    · rename_i call hcall
      dsimp only
      generalize hwaiting : ({ controls with verifying := controls.verifying.eraseIdx position } :
        ReceiptControls) = waiting
      have hreplay : waiting.replayControlIds = controls.replayControlIds := by rw [← hwaiting]
      have hne : ∀ effects, (waiting.runtime.resume call (some valid)).2 ≠
          .returned (.accepted effects) := by
        intro effects heq
        cases valid with
        | false => simp [ControlRuntime.resume] at heq
        | true =>
          exact hpasses ⟨rfl, call, hcall,
            ControlRuntime.reduceControl_accepted_iff.mp ⟨effects, heq⟩⟩
      rw [settle_of_ne_accepted hne]
      exact ⟨hreplay, fun effects heq => hne effects (ReceivedControl.answered.inj heq)⟩

@[simp] theorem verifying_settle :
    (controls.settle envelope result).1.verifying = result.1.verifying := by
  unfold settle
  dsimp only
  split
  · rfl
  · rfl

theorem verifying_resume (runtime : ControlRuntime ReceiptBody)
    (call : VerifyingControl ReceiptBody) (valid : Bool) :
    (runtime.resume call (some valid)).1.verifying = runtime.verifying := by
  cases valid with
  | false => rfl
  | true =>
    unfold ControlRuntime.resume ControlRuntime.reduceControl
    dsimp only
    split
    · rfl
    · split
      · rfl
      · split
        · rfl
        · rfl

theorem verifying_verified (controls : ReceiptControls) (position : Nat) (valid : Bool) :
    (controls.verified position valid).1.verifying = controls.verifying.eraseIdx position := by
  unfold verified
  split
  · rename_i hnone
    exact (List.eraseIdx_of_length_le (List.getElem?_eq_none_iff.mp hnone)).symm
  · rw [verifying_settle, verifying_resume]
    rfl

theorem receive_waits
    {descriptor : ApplicationControlDescriptor ReceiptBody} {signatureInput : List UInt8}
    (before : ReceiptControls → ReceiptControls)
    (hdecode : decodeApplicationControl options.plaintext = .ok envelope)
    (hkind : envelope.kind = kind) (hsender : envelope.senderPeerId = options.senderPeerId)
    (hget : registry.get? kind = some descriptor) (hsigned : descriptor.authentication = .ed25519)
    (hlocal : envelope.recipientPeerId = options.localPeerId)
    (hknown : options.knownContactId.isSome = true) (hlive : now < envelope.expiresAt)
    (hissued : envelope.issuedAt ≤ now + 1000)
    (httl : (envelope.expiresAt : Int) - envelope.issuedAt ≤ descriptor.maximumTTLms)
    (hfresh : ¬ (before controls).replayControlIds.has envelope.controlId = true)
    (hinput : applicationControlSigningBytes envelope = .ok signatureInput) :
    (controls.receive kind registry before options now).1 =
      { before controls with
        verifying := (before controls).verifying ++ [⟨envelope, descriptor, signatureInput⟩] } := by
  have hreplay : ((before controls).runtime.replay.get? envelope.controlId).isSome = false := by
    rw [runtime, InsertionMap.get?_toTable]
    exact Bool.not_eq_true _ ▸ hfresh
  have hcheck : (before controls).runtime.checkControl options.plaintext registry
      (ports options now) = .ok (envelope, descriptor) := by
    refine bind_eq_ok.mpr ⟨envelope, mapError_eq_ok.mpr hdecode, ?_⟩
    rw [hkind, hget]
    simp only [throwIf_bind_eq_ok]
    have hcontact : (ports options now).isKnownContact envelope.senderPeerId = true := by
      simp [ports, hknown, hsender]
    refine ⟨not_not.mpr hlocal, not_not.mpr hcontact, ?_, ?_, not_lt.mpr httl, ?_, ?_, rfl⟩
    · exact not_le.mpr (Int.ofNat_lt.mpr hlive)
    · exact not_lt.mpr (Int.ofNat_le.mpr hissued)
    · exact Bool.eq_false_iff.mp hreplay
    · exact not_not.mpr rfl
  unfold receive
  rw [hdecode]
  dsimp only
  rw [if_neg (not_not.mpr hkind), if_neg (not_not.mpr hsender)]
  unfold ControlRuntime.processApplicationControl
  rw [hcheck]
  dsimp only
  rw [hsigned]
  dsimp only
  rw [hinput]
  rfl

end Receive

section Turn

def control (controls : ReceiptControls) (turn : ReceiptTurn) :
    Option ApplicationControlEnvelope :=
  match turn.event with
  | .receiveDeliveryReceipt options | .receiveReadAccepted options =>
    (decodeApplicationControl options.plaintext).toOption
  | .verified position _ => controls.verifying[position]?.map VerifyingControl.envelope
  | _ => none

def received (controls : ReceiptControls) (turn : ReceiptTurn) : Option ReceivedControl :=
  match turn.event with
  | .receiveDeliveryReceipt options => some (controls.receiveDeliveryReceipt options turn.now).2
  | .receiveReadAccepted options => some (controls.receiveReadAccepted options turn.now).2
  | .verified position valid => some (controls.verified position valid).2
  | _ => none

def Accepts (envelope : ApplicationControlEnvelope) (controls : ReceiptControls)
    (turn : ReceiptTurn) : Prop :=
  controls.control turn = some envelope ∧
    ∃ effects, controls.received turn = some (.answered (.returned (.accepted effects)))

/-- No other call accepted the control while its signature was verified, unless a later check
rejects it. -/
def Fresh (controls : ReceiptControls) (turn : ReceiptTurn) : Prop :=
  match turn.event with
  | .verified position true =>
    ∀ call ∈ controls.verifying[position]?, call.descriptor.Passes call.envelope →
      ¬ controls.replayControlIds.has call.envelope.controlId = true
  | _ => True

def pruned (controls : ReceiptControls) (now : Nat) : ExpiringMemory String Nat :=
  (controls.replayControlIds.forget now).evict maxReplayEntries

theorem replayControlIds_prune (controls : ReceiptControls) (now : Nat) :
    (controls.prune now).replayControlIds = controls.pruned now := by
  unfold prune
  rfl

theorem replayControlIds_sendDeliveryReceipt (controls : ReceiptControls) (options : SendOptions)
    (now : Nat) :
    (controls.sendDeliveryReceipt options now).1.replayControlIds = controls.replayControlIds ∨
      (controls.sendDeliveryReceipt options now).1.replayControlIds = controls.pruned now := by
  have hprune := replayControlIds_prune controls now
  unfold sendDeliveryReceipt
  generalize controls.prune now = after at hprune ⊢
  split
  · exact .inl rfl
  · split
    · exact .inl rfl
    · dsimp only
      split
      · exact .inr hprune
      · split
        · exact .inr hprune
        · exact .inr hprune

theorem replay_cases (controls : ReceiptControls) (turn : ReceiptTurn) :
    ((∀ envelope, ¬ controls.Accepts envelope turn) ∧
      ((controls.next turn).replayControlIds = controls.replayControlIds ∨
        (controls.next turn).replayControlIds = controls.pruned turn.now)) ∨
    ∃ position call, turn.event = .verified position true ∧
      controls.verifying[position]? = some call ∧ call.descriptor.Passes call.envelope ∧
      (∀ envelope, controls.Accepts envelope turn ↔ envelope = call.envelope) ∧
      (controls.next turn).replayControlIds =
        controls.replayControlIds.remember call.envelope.controlId call.envelope.expiresAt := by
  obtain ⟨now, event⟩ := turn
  have hreceive : ∀ {kind : String} {registry : ApplicationControlRegistry ReceiptBody}
      {before : ReceiptControls → ReceiptControls} {options : ReceiveOptions}, Signed registry →
      (∀ effects, (controls.receive kind registry before options now).2 ≠
        .answered (.returned (.accepted effects))) ∧
      ((controls.receive kind registry before options now).1.replayControlIds =
          controls.replayControlIds ∨
        (controls.receive kind registry before options now).1.replayControlIds =
          (before controls).replayControlIds) := by
    intro kind registry before options hsigned
    rcases receive_cases hsigned before with ⟨hsame, hnone⟩ | ⟨hbefore, hnot⟩
    · exact ⟨fun effects => hnone _, .inl (by rw [hsame])⟩
    · exact ⟨hnot, .inr hbefore⟩
  cases event with
  | receiveDeliveryReceipt options =>
    obtain ⟨hnot, hreplay⟩ := @hreceive deliveryReceiptControlKind receiptRegistry
      (fun controls => controls.prune now) options (signed_singleton rfl)
    rw [replayControlIds_prune] at hreplay
    exact .inl ⟨fun envelope haccepts => haccepts.2.elim fun effects heq =>
      hnot effects (Option.some.inj heq), hreplay⟩
  | receiveReadAccepted options =>
    obtain ⟨hnot, hreplay⟩ := @hreceive readAcceptedControlKind readAcceptedRegistry id options
      (signed_singleton rfl)
    exact .inl ⟨fun envelope haccepts => haccepts.2.elim fun effects heq =>
      hnot effects (Option.some.inj heq), .inl (hreplay.elim id id)⟩
  | verified position valid =>
    rcases verified_cases controls position valid with
      ⟨hreplay, hnot⟩ | ⟨call, rfl, hcall, hpasses, hreplay, effects, hanswer⟩
    · exact .inl ⟨fun envelope haccepts => haccepts.2.elim fun effects heq =>
        hnot effects (Option.some.inj heq), .inl hreplay⟩
    · refine .inr ⟨position, call, rfl, hcall, hpasses, ?_, hreplay⟩
      intro envelope
      constructor
      · rintro ⟨hcontrol, -⟩
        change controls.verifying[position]?.map _ = _ at hcontrol
        rw [hcall] at hcontrol
        exact (Option.some.inj hcontrol).symm
      · rintro rfl
        refine ⟨?_, effects, congrArg some hanswer⟩
        change controls.verifying[position]?.map _ = _
        rw [hcall]
        rfl
  | sendDeliveryReceipt options =>
    refine .inl ⟨fun envelope haccepts => (by cases haccepts.1), ?_⟩
    exact replayControlIds_sendDeliveryReceipt controls options now
  | signed position valid =>
    refine .inl ⟨fun envelope haccepts => (by cases haccepts.1), .inl ?_⟩
    change (controls.signed position valid).1.replayControlIds = _
    unfold ReceiptControls.signed
    split
    · split
      · rfl
      · rfl
    · rfl
  | forwarded position accepted =>
    refine .inl ⟨fun envelope haccepts => (by cases haccepts.1), .inl ?_⟩
    change (controls.forwarded position accepted).1.replayControlIds = _
    unfold ReceiptControls.forwarded
    split
    · split
      · rfl
      · rfl
    · rfl

def Remembers (clock : Nat) (controls : ReceiptControls) : Prop :=
  controls.replayControlIds.Recalls maxReplayEntries clock

/-- A control whose id was accepted before is accepted again when it expired, or enough others
were accepted since. -/
def NotAgain (enough : Nat → Prop) (controls : ReceiptControls) (turn : ReceiptTurn) : Prop :=
  ∀ envelope, controls.Accepts envelope turn → ∀ past expiresAt since,
    controls.replayControlIds.history = past ++ (envelope.controlId, expiresAt) :: since →
      expiresAt ≤ turn.now ∨ enough (ExpiringMemory.distinct since)

/-- A receipt that is looked at cuts the memory, and only the acceptance of a control adds to
it. -/
def Cuts (controls : ReceiptControls) (turn : ReceiptTurn) : Prop :=
  (∀ options answer, turn.event = .receiveDeliveryReceipt options →
    controls.received turn = some (.answered answer) →
      (controls.next turn).replayControlIds.held.size ≤ maxReplayEntries) ∧
  ((controls.next turn).replayControlIds.held.size ≤ controls.replayControlIds.held.size ∨
    (∃ envelope, controls.Accepts envelope turn) ∧
      (controls.next turn).replayControlIds.held.size ≤
        controls.replayControlIds.held.size + 1)

theorem size_forget_evict_le (m : ExpiringMemory String Nat) (now limit : Nat) :
    ((m.forget now).evict limit).held.size ≤ m.held.size :=
  (List.drop_sublist _ _).length_le.trans (List.length_filter_le _ _)

theorem cuts (controls : ReceiptControls) (turn : ReceiptTurn) : controls.Cuts turn := by
  refine ⟨?_, ?_⟩
  · rintro options answer hevent hanswer
    obtain ⟨now, event⟩ := turn
    obtain rfl : event = .receiveDeliveryReceipt options := hevent
    have hsigned : Signed receiptRegistry := signed_singleton rfl
    change (controls.receiveDeliveryReceipt options now).1.replayControlIds.held.size ≤ _
    change some (controls.receiveDeliveryReceipt options now).2 = _ at hanswer
    unfold receiveDeliveryReceipt at hanswer ⊢
    rcases @receive_cases controls options deliveryReceiptControlKind receiptRegistry now hsigned
        (fun controls => controls.prune now) with ⟨-, hnone⟩ | ⟨hreplay, -⟩
    · exact absurd (Option.some.inj hanswer) (hnone answer)
    · rw [hreplay, replayControlIds_prune]
      exact ExpiringMemory.size_evict_le _ _
  · rcases replay_cases controls turn with
      ⟨-, hsame | hpruned⟩ | ⟨position, call, hevent, hcall, hpasses, hunique, hremember⟩
    · exact .inl (by rw [hsame])
    · refine .inl ?_
      rw [hpruned]
      exact size_forget_evict_le _ _ _
    · refine .inr ⟨⟨call.envelope, (hunique _).mpr rfl⟩, ?_⟩
      rw [hremember]
      exact InsertionMap.size_set_le _ _ _

end Turn

section Run

def timed (state : ReceiptControls × Nat) (turn : ReceiptTurn) : ReceiptControls × Nat :=
  (state.1.next turn, turn.now)

theorem fst_run_timed (controls : ReceiptControls) (clock : Nat) (turns : List ReceiptTurn) :
    (Trace.run timed (controls, clock) turns).1 = Trace.run next controls turns := by
  induction turns generalizing controls clock with
  | nil => rfl
  | cons turn turns ih => exact ih _ _

def InTime (state : ReceiptControls × Nat) (turn : ReceiptTurn) : Prop := state.2 ≤ turn.now

end Run

end ReceiptControls

/-- A control that was accepted is not accepted again until it expires, and the memory of all of
them holds one more than its bound at most. -/
def ReceiptsNotReplayed : Prop :=
  ∀ turns, Trace.Meets ReceiptControls.timed ReceiptControls.InTime ({}, 0) turns →
    Trace.Meets ReceiptControls.next (ReceiptControls.NotAgain fun _ => False) {} turns ∧
      (Trace.run ReceiptControls.next {} turns).replayControlIds.held.size ≤ maxReplayEntries + 1

section Sample

/-- The control number `serial` of the contact whose peer serial is all ones. -/
def sampleControl (kind : String) (body : List UInt8) (serial : Nat) : Protocol.ControlRecord where
  kind := kind
  controlID := UInt8.ofNat serial :: List.replicate 15 0
  issuedAt := 1000
  expiresAt := 300000
  senderPeerID := List.replicate 32 1
  recipientPeerID := List.replicate 32 0
  body := body
  signature := List.replicate 64 0

def sampleId (serial : Nat) : String := Base64.encode (UInt8.ofNat serial :: List.replicate 15 0)

def sampleOptions (control : Protocol.ControlRecord) : ReceiveOptions where
  plaintext := control.encoding
  localPeerId := Base64.encode (List.replicate 32 0)
  senderPeerId := Base64.encode (List.replicate 32 1)
  knownContactId := some "contact"

def acceptedBody : List UInt8 :=
  Cbor.encode (.map [("target_delivery_id", .bytes (List.replicate 16 0))])

/-- What the receivers do not read of a receipt before they wait. -/
def receiptBody : List UInt8 := [0]

def acceptedControl (serial : Nat) : Protocol.ControlRecord :=
  sampleControl readAcceptedControlKind acceptedBody serial

def waitingControl (serial : Nat) (signatureInput : List UInt8) : VerifyingControl ReceiptBody where
  envelope := Agreement.clientEnvelope (acceptedControl serial)
  descriptor := readAcceptedControlDescriptor
  signatureInput := signatureInput

/-- The control comes, and the verification at `position` succeeds. -/
def accepting (position serial : Nat) : List ReceiptTurn :=
  [⟨1000, .receiveReadAccepted (sampleOptions (acceptedControl serial))⟩,
    ⟨1000, .verified position true⟩]

def receiptTurn : ReceiptTurn where
  now := 1000
  event := .receiveDeliveryReceipt
    (sampleOptions (sampleControl deliveryReceiptControlKind receiptBody 255))

variable {kind : String} {body : List UInt8} {controls : ReceiptControls} {position : Nat}
  {waiting : List (VerifyingControl ReceiptBody)}

theorem valid_sampleControl (hkind : (Utf8.bytes kind).length ≠ 0)
    (hkindLe : (Utf8.bytes kind).length ≤ 96) (hbody : body.length ≠ 0)
    (hbodyLe : body.length ≤ 2048) (serial : Nat) : (sampleControl kind body serial).Valid where
  version := rfl
  kind := hkind
  kind_le := hkindLe
  controlID := (by simp [sampleControl] : (sampleControl kind body serial).controlID.length = 16)
  lifetime := (by decide : 1000 < 300000)
  expiresAt := (by decide : 300000 ≤ 2 ^ 53 - 1)
  senderPeerID := List.length_replicate
  recipientPeerID := List.length_replicate
  body := hbody
  body_le := hbodyLe
  signature := .inr List.length_replicate

theorem receive_sampleControl {registry : ApplicationControlRegistry ReceiptBody}
    {descriptor : ApplicationControlDescriptor ReceiptBody}
    (before : ReceiptControls → ReceiptControls) {serial : Nat}
    (hvalid : (sampleControl kind body serial).Valid) (hmark : ¬ Utf8.Marked kind)
    (hget : registry.get? kind = some descriptor) (hsigned : descriptor.authentication = .ed25519)
    (httl : descriptor.maximumTTLms = 300000)
    (hfresh : ¬ (before controls).replayControlIds.has (sampleId serial) = true) :
    ∃ signatureInput,
      (controls.receive kind registry before (sampleOptions (sampleControl kind body serial))
          1000).1 =
        { before controls with
          verifying := (before controls).verifying ++
            [⟨Agreement.clientEnvelope (sampleControl kind body serial), descriptor,
              signatureInput⟩] } := by
  obtain ⟨signatureInput, hinput⟩ := Agreement.client_applicationControlSigningBytes
    (Agreement.spellsControl_clientEnvelope hvalid) hvalid
  refine ⟨signatureInput, ReceiptControls.receive_waits before ?_ rfl rfl hget hsigned rfl rfl
    (by decide : 1000 < 300000) (by decide : 1000 ≤ 1000 + 1000) ?_ hfresh hinput⟩
  · exact Agreement.client_decodeApplicationControl_eq_ok_iff.mpr
      ⟨_, hvalid, hmark, rfl, rfl⟩
  · rw [httl]
    exact (by decide : (300000 : Int) - 1000 ≤ 300000)

theorem passes_acceptedControl (serial : Nat) :
    readAcceptedControlDescriptor.Passes (Agreement.clientEnvelope (acceptedControl serial)) := by
  have hbody : (decodeReadAcceptedBody acceptedBody).toOption =
      some ⟨"AAAAAAAAAAAAAAAAAAAAAA"⟩ := by
    decide +kernel
  refine ⟨.readAccepted ⟨"AAAAAAAAAAAAAAAAAAAAAA"⟩, _, congrArg (Option.map _) hbody, rfl, ?_, ?_⟩
  · exact (by decide : ∀ effect ∈
      [ApplicationControlEffect.messageMetadata "AAAAAAAAAAAAAAAAAAAAAA" "read_accepted"],
      effect.kind ∈ [ApplicationControlEffectKind.messageMetadata])
  · exact (by decide +kernel : effectsAreBounded
      [.messageMetadata "AAAAAAAAAAAAAAAAAAAAAA" "read_accepted"] 300000 = true)

theorem valid_acceptedControl (serial : Nat) : (acceptedControl serial).Valid :=
  valid_sampleControl (by decide +kernel) (by decide +kernel) (by decide +kernel)
    (by decide +kernel) serial

theorem next_verified_last {call : VerifyingControl ReceiptBody}
    (hwaiting : controls.verifying = waiting ++ [call]) (hposition : waiting.length = position)
    (hpasses : call.descriptor.Passes call.envelope) {now : Nat} :
    (controls.next ⟨now, .verified position true⟩).verifying = waiting ∧
      (controls.next ⟨now, .verified position true⟩).replayControlIds =
        controls.replayControlIds.remember call.envelope.controlId call.envelope.expiresAt := by
  have hget : controls.verifying[position]? = some call := by
    rw [hwaiting, ← hposition, List.getElem?_concat_length]
  constructor
  · refine (ReceiptControls.verifying_verified controls position true).trans ?_
    rw [hwaiting, ← hposition, List.eraseIdx_append_of_length_le le_rfl]
    simp
  · exact (ReceiptControls.verified_of_passes hget hpasses).1

theorem get?_readAccepted :
    readAcceptedRegistry.get? readAcceptedControlKind = some readAcceptedControlDescriptor := by
  rw [readAcceptedRegistry, Table.get?_insert, if_pos rfl]

theorem get?_receipt :
    receiptRegistry.get? deliveryReceiptControlKind = some deliveryReceiptControlDescriptor := by
  rw [receiptRegistry, Table.get?_insert, if_pos rfl]

theorem waits_accepting {serial : Nat}
    (hfresh : ¬ controls.replayControlIds.has (sampleId serial) = true) :
    ∃ signatureInput,
      controls.next ⟨1000, .receiveReadAccepted (sampleOptions (acceptedControl serial))⟩ =
        { controls with
          verifying := controls.verifying ++ [waitingControl serial signatureInput] } :=
  receive_sampleControl id (valid_acceptedControl serial) (by decide +kernel) get?_readAccepted rfl
    rfl hfresh

theorem run_accepting {serial : Nat} (hposition : controls.verifying.length = position)
    (hfresh : ¬ controls.replayControlIds.has (sampleId serial) = true) :
    (Trace.run ReceiptControls.next controls (accepting position serial)).verifying =
        controls.verifying ∧
      (Trace.run ReceiptControls.next controls (accepting position serial)).replayControlIds =
        controls.replayControlIds.remember (sampleId serial) 300000 := by
  obtain ⟨signatureInput, hwaits⟩ := waits_accepting hfresh
  have hpasses : (waitingControl serial signatureInput).descriptor.Passes
      (waitingControl serial signatureInput).envelope := passes_acceptedControl serial
  rw [accepting, Trace.run_cons, hwaits, Trace.run_cons, Trace.run_nil]
  exact next_verified_last rfl hposition hpasses

theorem meets_accepting {serial clock : Nat} (hclock : clock ≤ 1000)
    (hposition : controls.verifying.length = position)
    (hfresh : ¬ controls.replayControlIds.has (sampleId serial) = true) :
    Trace.Meets ReceiptControls.timed
      (fun state turn => ReceiptControls.InTime state turn ∧ state.1.Fresh turn)
      (controls, clock) (accepting position serial) := by
  obtain ⟨signatureInput, hwaits⟩ := waits_accepting hfresh
  refine ⟨⟨hclock, trivial⟩, ⟨le_rfl, ?_⟩, trivial⟩
  rw [ReceiptControls.timed, hwaits]
  intro call hcall _
  change (controls.verifying ++ [_])[position]? = some call at hcall
  rw [← hposition, List.getElem?_concat_length] at hcall
  obtain rfl := Option.some.inj hcall
  exact hfresh

def acceptances (count : Nat) : List ReceiptTurn :=
  (List.range count).flatMap (accepting 0)

theorem sampleId_injective {serial serial' : Nat} (h : serial < 256) (h' : serial' < 256)
    (heq : sampleId serial = sampleId serial') : serial = serial' := by
  have hdecode : ∀ serial, decodeBase64URL (sampleId serial).toList =
      .ok (UInt8.ofNat serial :: List.replicate 15 0) := by
    intro serial
    exact decodeBase64URL_encode (by simp)
  have hbytes := hdecode serial
  rw [heq, hdecode serial'] at hbytes
  have hbyte := congrArg UInt8.toNat (List.cons.inj (Except.ok.inj hbytes)).1.symm
  simpa [Nat.mod_eq_of_lt h, Nat.mod_eq_of_lt h'] using hbyte

structure Accepted (count : Nat) (controls : ReceiptControls) : Prop where
  held : controls.replayControlIds.held.entries =
    (List.range count).map fun serial => (sampleId serial, 300000)
  history : controls.replayControlIds.history =
    (List.range count).map fun serial => (sampleId serial, 300000)
  verifying : controls.verifying = []

variable {count : Nat}

theorem Accepted.not_has (h : Accepted count controls) (hcount : count < 256) :
    ¬ controls.replayControlIds.has (sampleId count) = true := by
  intro hhas
  rw [ExpiringMemory.has, ← InsertionMap.mem_keys_iff, InsertionMap.keys, h.held, List.map_map]
    at hhas
  obtain ⟨serial, hserial, heq⟩ := List.mem_map.mp hhas
  have hlt := List.mem_range.mp hserial
  exact hlt.ne (sampleId_injective (hlt.trans hcount) hcount heq)

theorem accepted_acceptances (hcount : count ≤ 256) :
    Accepted count (Trace.run ReceiptControls.next {} (acceptances count)) ∧
      (Trace.run ReceiptControls.timed ({}, 0) (acceptances count)).2 ≤ 1000 ∧
      Trace.Meets ReceiptControls.timed
        (fun state turn => ReceiptControls.InTime state turn ∧ state.1.Fresh turn)
        ({}, 0) (acceptances count) := by
  induction count with
  | zero => exact ⟨⟨rfl, rfl, rfl⟩, Nat.zero_le _, trivial⟩
  | succ count ih =>
    obtain ⟨haccepted, hclock, hmeets⟩ := ih (by omega)
    have hfresh := haccepted.not_has hcount
    have hnone : (Trace.run ReceiptControls.next {} (acceptances count)).verifying.length = 0 :=
      congrArg List.length haccepted.verifying
    have hsplit : acceptances (count + 1) = acceptances count ++ accepting 0 count := by
      simp [acceptances, List.range_succ]
    have hfst := ReceiptControls.fst_run_timed {} 0 (acceptances count)
    obtain ⟨hverifying, hreplay⟩ := run_accepting hnone hfresh
    rw [hsplit, Trace.run_append, Trace.run_append, Trace.meets_append]
    refine ⟨⟨?_, ?_, ?_⟩, le_rfl, hmeets, ?_⟩
    · rw [hreplay, ExpiringMemory.entries_remember hfresh, haccepted.held, List.range_succ,
        List.map_append]
      rfl
    · rw [hreplay, List.range_succ, List.map_append, ← haccepted.history]
      rfl
    · rw [hverifying, haccepted.verifying]
    · generalize Trace.run ReceiptControls.timed ({}, 0) (acceptances count) = state at *
      obtain ⟨controls, clock⟩ := state
      obtain rfl : controls = _ := hfst
      exact meets_accepting hclock hnone hfresh

theorem Accepted.entries_pruned (h : Accepted count controls) :
    (controls.pruned 1000).held.entries =
      ((List.range count).drop (count - maxReplayEntries)).map
        fun serial => (sampleId serial, 300000) := by
  have hlive : controls.replayControlIds.held.entries.filter (fun entry => 1000 < entry.2) =
      controls.replayControlIds.held.entries := by
    refine List.filter_eq_self.mpr fun entry hentry => ?_
    rw [h.held] at hentry
    obtain ⟨serial, -, rfl⟩ := List.mem_map.mp hentry
    exact decide_eq_true (by decide : 1000 < 300000)
  have hsize : (controls.replayControlIds.forget 1000).held.size = count := by
    change (controls.replayControlIds.held.entries.filter (fun entry => 1000 < entry.2)).length = _
    rw [hlive, h.held, List.length_map, List.length_range]
  have hentries : (controls.replayControlIds.forget 1000).held.entries =
      (List.range count).map fun serial => (sampleId serial, 300000) :=
    hlive.trans h.held
  rw [ReceiptControls.pruned, ExpiringMemory.entries_evict, hsize, hentries, List.map_drop]

theorem Accepted.not_has_pruned {count serial : Nat} (h : Accepted count controls)
    (hcount : count ≤ 256) (hserial : serial < 256)
    (hout : serial ∉ (List.range count).drop (count - maxReplayEntries)) :
    ¬ (controls.pruned 1000).has (sampleId serial) = true := by
  intro hhas
  rw [ExpiringMemory.has, ← InsertionMap.mem_keys_iff, InsertionMap.keys, h.entries_pruned,
    List.map_map] at hhas
  obtain ⟨serial', hmem, heq⟩ := List.mem_map.mp hhas
  have hlt := List.mem_range.mp (List.mem_of_mem_drop hmem)
  obtain rfl := sampleId_injective (hlt.trans_le hcount) hserial heq
  exact hout hmem

theorem next_receiptTurn (h : Accepted count controls) (hcount : count ≤ 255) :
    (controls.next receiptTurn).verifying.length = 1 ∧
      (controls.next receiptTurn).replayControlIds = controls.pruned 1000 := by
  have hvalid : (sampleControl deliveryReceiptControlKind receiptBody 255).Valid :=
    valid_sampleControl (by decide +kernel) (by decide +kernel) (by decide +kernel)
      (by decide +kernel) 255
  have hfresh : ¬ (controls.pruned 1000).has (sampleId 255) = true := by
    refine h.not_has_pruned (by omega) (by decide) fun hmem => ?_
    have hlt := List.mem_range.mp (List.mem_of_mem_drop hmem)
    omega
  rw [← ReceiptControls.replayControlIds_prune] at hfresh
  obtain ⟨signatureInput, hwaits⟩ := receive_sampleControl (fun controls => controls.prune 1000)
    hvalid (by decide +kernel) get?_receipt rfl rfl hfresh
  have hnext : controls.next receiptTurn = _ := hwaits
  rw [hnext, ← ReceiptControls.replayControlIds_prune]
  refine ⟨?_, rfl⟩
  have hnone : (controls.prune 1000).verifying = [] := by
    rw [← h.verifying]
    unfold ReceiptControls.prune
    rfl
  rw [hnone]
  rfl

theorem Accepted.displaces (h : Accepted (count + 1) controls)
    (hcount : count < 255) (hmany : maxReplayEntries ≤ count) :
    ¬ (controls.pruned 1000).has (sampleId 0) = true := by
  refine h.not_has_pruned (Nat.succ_le_of_lt (hcount.trans (by decide))) (by decide) ?_
  intro hmem
  obtain ⟨position, hlt, hzero⟩ := List.mem_drop_iff_getElem.mp hmem
  rw [List.getElem_range] at hzero
  omega

/-- One more sample than given, a receipt that cuts the memory, and the first sample once more. -/
def displaced (count : Nat) : List ReceiptTurn :=
  acceptances (count + 1) ++ receiptTurn :: accepting 1 0

theorem meets_displaced (hcount : count < 255) (hmany : maxReplayEntries ≤ count) :
    Trace.Meets ReceiptControls.timed
      (fun state turn => ReceiptControls.InTime state turn ∧ state.1.Fresh turn) ({}, 0)
      (displaced count) := by
  obtain ⟨haccepted, hclock, hmeets⟩ :=
    accepted_acceptances (Nat.succ_le_of_lt (hcount.trans (by decide : 255 < 256)))
  obtain ⟨hwaiting, hpruned⟩ := next_receiptTurn haccepted hcount
  have hforgotten := haccepted.displaces hcount hmany
  rw [← hpruned] at hforgotten
  have hfst := ReceiptControls.fst_run_timed {} 0 (acceptances (count + 1))
  rw [displaced, Trace.meets_append]
  refine ⟨hmeets, ⟨⟨hclock, trivial⟩, ?_⟩⟩
  rw [ReceiptControls.timed, hfst]
  generalize ReceiptControls.next _ receiptTurn = cut at hwaiting hforgotten ⊢
  exact meets_accepting le_rfl hwaiting hforgotten

end Sample

end Branch.Pwa
