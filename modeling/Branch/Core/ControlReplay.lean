import Branch.Core.ApplicationControl
import Branch.Lib.Trace

/-!
What the replay memory does for controls that are received at the same time.
-/

namespace Branch.Core

open Branch.Lib

variable {Body : Type}

/-- The checks behind the signature let the control through. -/
def ApplicationControlDescriptor.Passes (descriptor : ApplicationControlDescriptor Body)
    (envelope : ApplicationControlEnvelope) : Prop :=
  ∃ body effects, descriptor.decodeBody envelope.body = some body ∧
    descriptor.reduce { envelope, body } = some effects ∧
    (∀ effect ∈ effects, effect.kind ∈ descriptor.allowedEffects) ∧
    effectsAreBounded effects envelope.expiresAt = true

namespace ControlRuntime

variable {runtime : ControlRuntime Body} {event : ControlEvent Body}
  {envelope : ApplicationControlEnvelope} {descriptor : ApplicationControlDescriptor Body}

def Remembers (controlId : String) (runtime : ControlRuntime Body) : Prop :=
  (runtime.replay.get? controlId).isSome = true

/-- What a part of a call does to the memory: a control that is accepted is remembered, and
nothing else is. -/
inductive Outcome (replay : Table String Nat) (envelope : ApplicationControlEnvelope) :
    ControlRuntime Body × ControlAnswer → Prop
  | accepted {next : ControlRuntime Body} {effects : List ApplicationControlEffect}
      (remembered : next.replay = replay.insert envelope.controlId envelope.expiresAt) :
      Outcome replay envelope (next, .returned (.accepted effects))
  | other {next : ControlRuntime Body} {answer : ControlAnswer}
      (unchanged : next.replay = replay)
      (answer_ne : ∀ effects, answer ≠ .returned (.accepted effects)) :
      Outcome replay envelope (next, answer)

section Call

theorem reduceControl_accepted_iff :
    (∃ effects, (runtime.reduceControl envelope descriptor).2 = .returned (.accepted effects)) ↔
      descriptor.Passes envelope := by
  constructor
  · rintro ⟨effects, h⟩
    unfold reduceControl at h
    split at h
    · cases h
    · rename_i body hbody
      split at h
      · cases h
      · rename_i effects hreduce
        split at h
        · cases h
        · rename_i hallowed
          rw [not_not, Bool.and_eq_true, List.all_eq_true] at hallowed
          exact ⟨body, effects, hbody, hreduce,
            fun effect heffect => of_decide_eq_true (hallowed.1 effect heffect), hallowed.2⟩
  · rintro ⟨body, effects, hbody, hreduce, hallowed, hbounded⟩
    have hall : effects.all (fun effect => effect.kind ∈ descriptor.allowedEffects) = true :=
      List.all_eq_true.mpr fun effect heffect => decide_eq_true (hallowed effect heffect)
    refine ⟨effects, ?_⟩
    simp only [reduceControl, hbody, hreduce, hall, hbounded]
    rfl

end Call

section Step

def control (runtime : ControlRuntime Body) :
    ControlEvent Body → Option ApplicationControlEnvelope
  | .receive bytes _ _ => (decodeApplicationControl bytes).toOption
  | .resume position _ => runtime.verifying[position]?.map VerifyingControl.envelope
  | .forget _ => none

def accepted (answer : Option ControlAnswer) : Prop :=
  ∃ effects, answer = some (.returned (.accepted effects))

def Accepts (p : ApplicationControlEnvelope → Prop) (runtime : ControlRuntime Body)
    (event : ControlEvent Body) : Prop :=
  (∃ envelope, runtime.control event = some envelope ∧ p envelope) ∧
    accepted (runtime.step event).2

/-- A call, or a part of one, that does not accept leaves the memory as it is. -/
def KeepsMemory (runtime : ControlRuntime Body) (event : ControlEvent Body) : Prop :=
  ∀ answer, (runtime.step event).2 = some answer → ¬ accepted (some answer) →
    (runtime.next event).replay = runtime.replay

/-- A verification that comes back true finds the control not remembered, unless a later
check rejects the control. -/
def Fresh (runtime : ControlRuntime Body) : ControlEvent Body → Prop
  | .resume position verified =>
    ∀ call ∈ runtime.verifying[position]?, verified = some true →
      call.descriptor.Passes call.envelope → ¬ runtime.Remembers call.envelope.controlId
  | _ => True

end Step

section Run

/-- A control is accepted at most once as long as it is remembered, whoever sends it. -/
def IdsAcceptedOnce (events : List (ControlEvent Body)) : Prop :=
  ∀ controlId, Trace.OnceWhile next
    (Accepts fun envelope => envelope.controlId = controlId) (Remembers controlId) {} events

/-- A control of one sender is accepted at most once as long as it is remembered. -/
def AcceptedOnce (events : List (ControlEvent Body)) : Prop :=
  ∀ senderPeerId controlId, Trace.OnceWhile next
    (Accepts fun envelope =>
      envelope.senderPeerId = senderPeerId ∧ envelope.controlId = controlId)
    (Remembers controlId) {} events

end Run

end ControlRuntime

/-- Whatever calls are made, and however they overlap, a control of one sender is accepted at
most once as long as it is remembered, and only its acceptance changes the memory. -/
def ControlsAcceptedOnce (Body : Type) : Prop :=
  ∀ events : List (ControlEvent Body), ControlRuntime.AcceptedOnce events ∧
    Trace.Meets ControlRuntime.next ControlRuntime.KeepsMemory {} events

section Sample

/-- The control that tells a contact that its user is typing. -/
def sampleControl : ApplicationControlEnvelope where
  version := applicationControlWireVersion
  kind := "branch.pwa.typing/0.draft"
  controlId := "AAAAAAAAAAAAAAAAAAAAAA"
  issuedAt := 1000
  expiresAt := 6000
  senderPeerId := "AAAAAAAAAAAAAAAAAAAAAAAAAAAAAAAAAAAAAAAAAAA"
  recipientPeerId := "AQAAAAAAAAAAAAAAAAAAAAAAAAAAAAAAAAAAAAAAAAA"
  body := [1]
  signature := .replicate 64 0

def sampleControlBytes : List UInt8 :=
  (encodeApplicationControl sampleControl).toOption.getD []

def sampleControlDescriptor : ApplicationControlDescriptor Unit where
  kind := sampleControl.kind
  authentication := .ed25519
  maximumTTLms := 8000
  allowedEffects := [.ephemeralProjection]
  decodeBody := fun _ => some ()
  reduce := fun control =>
    some [.ephemeralProjection "typing" [1] control.envelope.expiresAt]

def sampleControlPorts : ApplicationControlPorts where
  now := 2000
  localPeerId := sampleControl.recipientPeerId
  isKnownContact := fun _ => true
  isAllowed := fun _ _ => true
  maxClockSkewMs := 1000

def sampleReceive : ControlEvent Unit :=
  .receive sampleControlBytes
    (Table.empty.insert sampleControlDescriptor.kind sampleControlDescriptor) sampleControlPorts

def sampleSignatureInput : List UInt8 :=
  (applicationControlSigningBytes sampleControl).toOption.getD []

def sampleCall : VerifyingControl Unit where
  envelope := sampleControl
  descriptor := sampleControlDescriptor
  signatureInput := sampleSignatureInput

def sampleEffects : List ApplicationControlEffect := [.ephemeralProjection "typing" [1] 6000]

namespace ControlRuntime

variable {runtime : ControlRuntime Unit}

/-- The same control is received twice before it is verified. -/
def receivedTwice : List (ControlEvent Unit) :=
  [sampleReceive, sampleReceive, .resume 0 (some true), .resume 0 (some true)]

end ControlRuntime

end Sample

end Branch.Core
