import Branch.Core.ApplicationControl

/-!
Controls that go out. The host says to whom they may go, and how many.
-/

namespace Branch.Core

open Branch.Lib

structure OutboundApplicationControl (Body : Type) where
  kind : String
  controlId : String
  issuedAt : Nat
  expiresAt : Nat
  senderPeerId : String
  recipientPeerId : String
  body : Body

structure OutboundApplicationControlPorts (State : Type) where
  now : Int
  localPeerId : String
  isKnownContact : String → Bool
  isAllowed : String → String → Bool
  consumeRateLimit : String → String → Int → State → State × Bool
  maxClockSkewMs : Int

variable {Body State : Type}

/-- What `prepareOutboundApplicationControl` makes of a control before it asks for the rate
limit. Nothing is signed yet. -/
def outboundEnvelope (control : OutboundApplicationControl Body)
    (descriptor : ApplicationControlDescriptor Body)
    (encodeBody : Body → Except String (List UInt8)) (ports : OutboundApplicationControlPorts State) :
    Except String ApplicationControlEnvelope := do
  validateDescriptor descriptor
  throwIf (control.kind ≠ descriptor.kind ∨ control.senderPeerId ≠ ports.localPeerId ∨
      ¬ ports.isKnownContact control.recipientPeerId ∨
      ¬ ports.isAllowed descriptor.kind control.recipientPeerId)
    "application control outbound policy denied"
  requireBase64URLBytes control.controlId 16 "control id"
  requireBase64URLBytes control.senderPeerId 32 "sender peer id"
  requireBase64URLBytes control.recipientPeerId 32 "recipient peer id"
  let encoded ← encodeBody control.body
  let body ← boundedBody encoded
  throwIf (ports.now + ports.maxClockSkewMs < control.issuedAt ∨
      (control.expiresAt : Int) ≤ ports.now ∨
      descriptor.maximumTTLms < (control.expiresAt : Int) - control.issuedAt)
    "invalid application control lifetime"
  return { version := applicationControlWireVersion, kind := descriptor.kind
           controlId := control.controlId, issuedAt := control.issuedAt
           expiresAt := control.expiresAt, senderPeerId := control.senderPeerId
           recipientPeerId := control.recipientPeerId, body, signature := [] }

def prepareOutboundApplicationControl (control : OutboundApplicationControl Body)
    (descriptor : ApplicationControlDescriptor Body)
    (encodeBody : Body → Except String (List UInt8))
    (ports : OutboundApplicationControlPorts State) (state : State) :
    State × Except String ApplicationControlEnvelope :=
  match outboundEnvelope control descriptor encodeBody ports with
  | .error message => (state, .error message)
  | .ok envelope =>
    match ports.consumeRateLimit descriptor.kind envelope.recipientPeerId ports.now state with
    | (state, false) => (state, .error "application control rate limited")
    | (state, true) => (state, .ok envelope)

variable {control : OutboundApplicationControl Body}
  {descriptor : ApplicationControlDescriptor Body}
  {encodeBody : Body → Except String (List UInt8)}
  {ports : OutboundApplicationControlPorts State} {state : State}

theorem recipientPeerId_outboundEnvelope {envelope : ApplicationControlEnvelope}
    (h : outboundEnvelope control descriptor encodeBody ports = .ok envelope) :
    envelope.recipientPeerId = control.recipientPeerId := by
  simp only [outboundEnvelope, bind_eq_ok] at h
  obtain ⟨_, _, _, _, _, _, _, _, _, _, _, _, _, _, _, _, h⟩ := h
  obtain rfl := Except.ok.inj h
  rfl

theorem prepareOutboundApplicationControl_cases :
    (∃ message, prepareOutboundApplicationControl control descriptor encodeBody ports state =
      (state, .error message)) ∨
    ∃ next granted, ports.consumeRateLimit descriptor.kind control.recipientPeerId ports.now
        state = (next, granted) ∧
      ∃ envelope, prepareOutboundApplicationControl control descriptor encodeBody ports state =
        (next, if granted then .ok envelope else .error "application control rate limited") := by
  unfold prepareOutboundApplicationControl
  cases henvelope : outboundEnvelope control descriptor encodeBody ports with
  | error message => exact .inl ⟨message, rfl⟩
  | ok envelope =>
    dsimp only
    rw [recipientPeerId_outboundEnvelope henvelope]
    rcases hconsume : ports.consumeRateLimit descriptor.kind control.recipientPeerId ports.now
      state with ⟨next, _ | _⟩
    · exact .inr ⟨next, false, rfl, envelope, rfl⟩
    · exact .inr ⟨next, true, rfl, envelope, rfl⟩

end Branch.Core
