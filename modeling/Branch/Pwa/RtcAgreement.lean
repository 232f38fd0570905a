import Branch.Pwa.RtcSessionSteps
import Mathlib.Logic.Function.Basic

/-!
Two controllers that exchange signals over a channel which delays, reorders and loses them:
when both have the other's description, it is for one session.
-/

namespace Branch.Pwa

open Branch.Core Branch.Lib

inductive Side where
  | first
  | second
  deriving DecidableEq

def Side.other : Side → Side
  | first => second
  | second => first

@[simp] theorem Side.other_other (side : Side) : side.other.other = side := by
  cases side <;> rfl

theorem Side.other_ne (side : Side) : side.other ≠ side := by
  cases side <;> nofun

theorem Side.eq_or_eq_other (side side' : Side) : side' = side ∨ side' = side.other := by
  cases side <;> cases side' <;> simp [Side.other]

/-- Two controllers, and the signals on their way to each of them from the other. -/
structure RTCPair where
  controller : Side → RTCSessionController
  inFlight : Side → List RTCSent

/-- Either controller does something other than receive a signal of the other one, or such a
signal arrives or is lost. -/
inductive PairEvent where
  | act (side : Side) (e : RTCEvent)
  | deliver (side : Side) (k now : Nat)
  | lose (side : Side) (k : Nat)

namespace RTCPair

section Model

def init (localPeerId : Side → String) : RTCPair where
  controller side := { localPeerId := localPeerId side }
  inFlight _ := []

def peerId (p : RTCPair) (side : Side) : String := (p.controller side).localPeerId

def become (p : RTCPair) (side : Side) (s : RTCSessionController) : RTCPair :=
  { p with controller := Function.update p.controller side s }

def carry (p : RTCPair) (side : Side) (signals : List RTCSent) : RTCPair :=
  { p with inFlight := Function.update p.inFlight side signals }

/-- A signal sent from a side is on its way if it is for the other. -/
def send (p : RTCPair) (side : Side) (sent : Option RTCSent) : RTCPair :=
  p.carry side.other
    (p.inFlight side.other ++ sent.toList.filter fun sent => sent.peerId = p.peerId side.other)

/-- The signals of the other controller come through the channel only. -/
def comesFrom (peerId : String) : RTCEvent → Bool
  | .receive sender _ _ _ => sender = peerId
  | _ => false

def next (p : RTCPair) : PairEvent → RTCPair
  | .act side e =>
    if comesFrom (p.peerId side.other) e then p
    else (p.become side ((p.controller side).next e)).send side ((p.controller side).step e).2
  | .deliver side k now =>
    match (p.inFlight side)[k]? with
    | none => p
    | some sent =>
      (p.become side ((p.controller side).next
        (.receive (p.peerId side.other) sent.signal now sent.session))).carry side
        ((p.inFlight side).eraseIdx k)
  | .lose side k => p.carry side ((p.inFlight side).eraseIdx k)

end Model

section Property

def sessionOf (p : RTCPair) (side : Side) : Option RTCSession :=
  (p.controller side).session? (p.peerId side.other)

structure Agree (session session' : RTCSession) : Prop where
  id : session.id = session'.id
  generation : session.generation = session'.generation
  role : session.role ≠ session'.role
  remote : session.remoteDescriptionSHA256 = some session'.localDescriptionSHA256
  remote' : session'.remoteDescriptionSHA256 = some session.localDescriptionSHA256

/-- If both sides hold a session for the other that has a remote description, these are the
two ends of one session. -/
def Agreed (p : RTCPair) : Prop :=
  ∀ side session session', p.sessionOf side = some session →
    p.sessionOf side.other = some session' → session.remoteDescriptionSHA256 ≠ none →
      session'.remoteDescriptionSHA256 ≠ none → Agree session session'

/-- The failure of a send takes no session from the table but the one it was for. -/
def CleansOwn (p : RTCPair) : PairEvent → Prop
  | .act side (.sent i false) => ∀ peerId r,
      (p.controller side).calls[i]? = some (.sending peerId r) → ∀ peerId' r', r' ≠ r →
        (p.controller side).sessions.get? peerId' = some r' →
          ((p.next (.act side (.sent i false))).controller side).sessions.get? peerId' = some r'
  | _ => True

def Consistent (p : RTCPair) (e : PairEvent) : Prop := (p.next e).Agreed ∧ p.CleansOwn e

end Property

section Guard

/-- The session that a side holds for the other has a remote description. -/
def installed (p : RTCPair) (side : Side) : Bool :=
  (p.sessionOf side).any fun session => session.remoteDescriptionSHA256.isSome

/-- The call is about to store a session that answers an offer of the peer. -/
def answers (peerId : String) : RTCCall → Bool
  | .settingUp setup (.applyingOwn _ _ _) => setup.offer.isSome && setup.peerId = peerId
  | _ => false

/-- Where an answer is about to be installed, and the session that it comes from. -/
def installing? : RTCCall → Option (Nat × Nat)
  | .applyingAnswer r _ _ origin => some (r, origin)
  | _ => none

def sending? : RTCCall → Option (String × Nat)
  | .sending peerId r => some (peerId, r)
  | _ => none

def localApplied? : PairEvent → Option (Side × Nat)
  | .act side (.localApplied i true _) => some (side, i)
  | _ => none

def remoteApplied? : PairEvent → Option (Side × Nat)
  | .act side (.remoteApplied i true) => some (side, i)
  | _ => none

def failed? : PairEvent → Option (Side × Nat)
  | .act side (.sent i false) => some (side, i)
  | _ => none

/-- An answerer's session is stored while the other side has none with a remote description. -/
def AnswersAlone (p : RTCPair) (e : PairEvent) : Prop :=
  ∀ c ∈ localApplied? e,
    ((p.controller c.1).calls[c.2]?).any (answers (p.peerId c.1.other)) = true →
      p.installed c.1.other = false

/-- An answer is installed in the session of the table while the other side holds the session
that it comes from, or none with a remote description. -/
def InstallsCurrent (p : RTCPair) (e : PairEvent) : Prop :=
  ∀ c ∈ remoteApplied? e, ∀ a ∈ ((p.controller c.1).calls[c.2]?).bind installing?,
    (p.controller c.1).sessions.get? (p.peerId c.1.other) = some a.1 →
      p.installed c.1.other = true →
        (p.controller c.1.other).sessions.get? (p.peerId c.1) = some a.2

/-- When a send fails, the table has the session that it was for, or none for the peer. -/
def FailsCurrent (p : RTCPair) (e : PairEvent) : Prop :=
  ∀ c ∈ failed? e, ∀ a ∈ ((p.controller c.1).calls[c.2]?).bind sending?,
    ∀ r ∈ (p.controller c.1).sessions.get? a.1, r = a.2

instance (p : RTCPair) (e : PairEvent) : Decidable (p.AnswersAlone e) :=
  inferInstanceAs (Decidable (∀ c ∈ localApplied? e, _ → _))

instance (p : RTCPair) (e : PairEvent) : Decidable (p.InstallsCurrent e) :=
  inferInstanceAs (Decidable (∀ c ∈ remoteApplied? e, ∀ a ∈ Option.bind _ installing?, _ → _ → _))

instance (p : RTCPair) (e : PairEvent) : Decidable (p.FailsCurrent e) :=
  inferInstanceAs (Decidable (∀ c ∈ failed? e, ∀ a ∈ Option.bind _ sending?, ∀ r ∈ _, r = a.2))

def Orderly (p : RTCPair) (e : PairEvent) : Prop :=
  p.AnswersAlone e ∧ p.InstallsCurrent e ∧ p.FailsCurrent e

instance (p : RTCPair) (e : PairEvent) : Decidable (p.Orderly e) :=
  inferInstanceAs (Decidable (_ ∧ _ ∧ _))

end Guard

variable {p p' : RTCPair} {side : Side} {e : RTCEvent}

section Invariant

/-- An answer on its way, or being handled, is that of the session it is said to come from. -/
structure Inv (p : RTCPair) : Prop where
  sound : ∀ side, (p.controller side).Sound
  flying : ∀ {side : Side} {sent : RTCSent} {answer : RtcAnswer}, sent ∈ p.inFlight side →
    sent.signal = .answer answer →
      (p.controller side.other).Answered sent.session answer
  validating : ∀ {side : Side} {i now origin : Nat} {answer : RtcAnswer},
    (p.controller side).calls[i]? =
        some (.validatingAnswer (p.peerId side.other) answer now origin) →
      (p.controller side.other).Answered origin answer
  applying : ∀ {side : Side} {i r now origin : Nat} {answer : RtcAnswer} {session : RTCSession},
    (p.controller side).calls[i]? = some (.applyingAnswer r answer now origin) →
      (p.controller side).stored[r]? = some session → session.peerId = p.peerId side.other →
        (p.controller side.other).Answered origin answer
  agreed : p.Agreed

theorem inv_init (localPeerId : Side → String) : Inv (init localPeerId) where
  sound side := RTCSessionController.sound_init (localPeerId side)
  flying hmem := absurd hmem List.not_mem_nil
  validating hget := nomatch hget
  applying hget := nomatch hget
  agreed _ _ _ hsession := nomatch hsession

/-- One side makes a step. An answer that it receives is that of the session it is said to
come from. -/
structure Moves (p p' : RTCPair) (side : Side) (e : RTCEvent) : Prop where
  does : RTCSessionController.Does (p.controller side) e (p'.controller side)
  other : p'.controller side.other = p.controller side.other
  arrives : ∀ answer now origin,
    e = .receive (p.peerId side.other) (.answer answer) now origin →
      (p.controller side.other).Answered origin answer

theorem Moves.peerId_eq (h : Moves p p' side e) (side' : Side) :
    p'.peerId side' = p.peerId side' := by
  rcases side.eq_or_eq_other side' with rfl | rfl
  · exact RTCSessionController.localPeerId_of_does h.does
  · exact congrArg RTCSessionController.localPeerId h.other

theorem Moves.sound (h : Moves p p' side e) (hinv : p.Inv) (side' : Side) :
    (p'.controller side').Sound := by
  rcases side.eq_or_eq_other side' with rfl | rfl
  · exact (hinv.sound side').does h.does
  · rw [h.other]
    exact hinv.sound side.other

theorem Moves.answered (h : Moves p p' side e) (hinv : p.Inv) {side' : Side} {origin : Nat}
    {answer : RtcAnswer} (hanswered : (p.controller side').Answered origin answer) :
    (p'.controller side').Answered origin answer := by
  rcases side.eq_or_eq_other side' with rfl | rfl
  · exact hanswered.does (hinv.sound side') h.does
  · rw [h.other]
    exact hanswered

theorem Moves.validating (h : Moves p p' side e) (hinv : p.Inv) {side' : Side} {i now : Nat}
    {origin : Nat} {answer : RtcAnswer}
    (hget : (p'.controller side').calls[i]? =
      some (.validatingAnswer (p'.peerId side'.other) answer now origin)) :
    (p'.controller side'.other).Answered origin answer := by
  apply h.answered hinv
  rw [h.peerId_eq] at hget
  rcases side.eq_or_eq_other side' with rfl | rfl
  · rcases RTCSessionController.calls_of_does h.does hget rfl with
      hget | ⟨_, _, _, _, he, heq⟩ | ⟨_, _, _, _, _, _, _, heq, _⟩
    · exact hinv.validating hget
    · cases heq
      exact h.arrives answer now origin he
    · cases heq
  · rw [h.other] at hget
    exact hinv.validating hget

theorem Moves.applying (h : Moves p p' side e) (hinv : p.Inv) {side' : Side} {i r now : Nat}
    {origin : Nat} {answer : RtcAnswer} {session : RTCSession}
    (hget : (p'.controller side').calls[i]? = some (.applyingAnswer r answer now origin))
    (hsession : (p'.controller side').stored[r]? = some session)
    (hpeer : session.peerId = p'.peerId side'.other) :
    (p'.controller side'.other).Answered origin answer := by
  apply h.answered hinv
  rw [h.peerId_eq] at hpeer
  rcases side.eq_or_eq_other side' with rfl | rfl
  · rcases RTCSessionController.calls_of_does h.does hget rfl with
      hget | ⟨_, _, _, _, _, heq⟩ | ⟨peerId, _, _, _, _, old, hcall, heq, hr, hold, hnew, _⟩
    · obtain ⟨old, hold, _⟩ := (hinv.sound side').offered hget
      obtain ⟨_, hsession', hkept⟩ := (hinv.sound side').kept_of_does h.does hold
      rw [hsession] at hsession'
      cases hsession'
      exact hinv.applying hget hold (hkept.samePeer.symm.trans hpeer)
    · cases heq
    · cases heq
      obtain ⟨_, hold', rfl⟩ := (hinv.sound side').listed hr
      rw [hold] at hold'
      cases hold'
      rw [hnew] at hsession
      cases hsession
      rw [hpeer] at hcall
      exact hinv.validating hcall
  · rw [h.other] at hget hsession
    exact hinv.applying hget hsession hpeer

end Invariant

section Agreement

theorem Agree.symm {session session' : RTCSession} (h : Agree session session') :
    Agree session' session :=
  ⟨h.id.symm, h.generation.symm, h.role.symm, h.remote', h.remote⟩

theorem Agree.of_same {session session' session'' : RTCSession} (h : Agree session session'')
    (hsame : session.Same session') : Agree session' session'' where
  id := hsame.id.trans h.id
  generation := hsame.generation.trans h.generation
  role := hsame.role ▸ h.role
  remote := hsame.remoteDescription.trans h.remote
  remote' := by rw [hsame.localDescription, h.remote']

theorem agree_of_answers {session session' session'' : RTCSession} {answer : RtcAnswer}
    (hoffered : RTCSessionController.Offered session answer)
    (hanswers : RTCSessionController.Answers session'' answer)
    (hsame : (RTCSessionController.install answer session).Same session') :
    Agree session' session'' := by
  have hrole : session'.role = .offerer := hsame.role.trans hoffered.role
  constructor
  · exact (hsame.id.trans hoffered.id).trans hanswers.id.symm
  · exact (hsame.generation.trans hoffered.generation).trans hanswers.generation.symm
  · rw [hrole, hanswers.role]
    exact nofun
  · rw [hanswers.localDescription]
    exact hsame.remoteDescription
  · have hlocal : session'.localDescriptionSHA256 = answer.offerDescriptionSHA256 :=
      hsame.localDescription.trans hoffered.localDescription
    rw [hlocal]
    exact hanswers.remoteDescription

theorem sessionOf_eq_some_iff {session : RTCSession} :
    p.sessionOf side = some session ↔
      ∃ r, (p.controller side).sessions.get? (p.peerId side.other) = some r ∧
        (p.controller side).stored[r]? = some session :=
  Option.bind_eq_some_iff

theorem installed_of_sessionOf {session : RTCSession} (hsession : p.sessionOf side = some session)
    (hremote : session.remoteDescriptionSHA256 ≠ none) : p.installed side = true := by
  rw [installed, hsession]
  exact Option.isSome_iff_ne_none.mpr hremote

theorem Moves.sessionOf_other (h : Moves p p' side e) :
    p'.sessionOf side.other = p.sessionOf side.other := by
  rw [sessionOf, sessionOf, h.peerId_eq, h.other]

theorem Moves.agree (h : Moves p p' side e) (hinv : p.Inv)
    (hanswers : p.AnswersAlone (.act side e)) (hinstalls : p.InstallsCurrent (.act side e))
    {session session' : RTCSession} (hsession : p'.sessionOf side = some session)
    (hsession' : p'.sessionOf side.other = some session')
    (hremote : session.remoteDescriptionSHA256 ≠ none)
    (hremote' : session'.remoteDescriptionSHA256 ≠ none) : Agree session session' := by
  rw [h.sessionOf_other] at hsession'
  have hinstalled : p.installed side.other = true := installed_of_sessionOf hsession' hremote'
  obtain ⟨r, hr, hstored⟩ := sessionOf_eq_some_iff.mp hsession
  rw [h.peerId_eq] at hr
  rcases RTCSessionController.sessions_of_does h.does hr with
    hr | ⟨rfl, i, setup, newSessionId, description, digest, fingerprint, hcall, rfl, hpeer, hnew⟩
  · obtain ⟨old, hold, hpeer⟩ := (hinv.sound side).listed hr
    obtain ⟨_, hstored', hsame | ⟨i, answer, now, origin, rfl, hcall, hsame⟩⟩ :=
      RTCSessionController.stored_of_does h.does hold
    · rw [hstored] at hstored'
      cases hstored'
      have hold : p.sessionOf side = some old := sessionOf_eq_some_iff.mpr ⟨r, hr, hold⟩
      rw [hsame.remoteDescription] at hremote
      exact (hinv.agreed side old session' hold hsession' hremote hremote').of_same hsame
    · -- the answer is installed in the session of the table
      rw [hstored] at hstored'
      cases hstored'
      obtain ⟨_, hold', hoffered⟩ := (hinv.sound side).offered hcall
      rw [hold] at hold'
      cases hold'
      have hbind : ((p.controller side).calls[i]?).bind installing? = some (r, origin) := by
        rw [hcall]
        rfl
      have horigin := hinstalls (side, i) rfl (r, origin) hbind hr hinstalled
      obtain ⟨_, hget, hanswered⟩ := hinv.applying hcall hold hpeer
      obtain ⟨r', hr', hsession'⟩ := sessionOf_eq_some_iff.mp hsession'
      rw [Side.other_other, horigin] at hr'
      cases hr'
      rw [hget] at hsession'
      cases hsession'
      exact agree_of_answers hoffered hanswered hsame
  · -- an answerer's session is stored alone, and an offerer's has no remote description
    rw [hnew] at hstored
    cases hstored
    have hoffer : setup.offer.isSome = true := by
      cases hsetup : setup.offer with
      | none =>
        refine absurd ?_ hremote
        rw [RTCSessionController.newSession, hsetup]
        rfl
      | some _ => rfl
    have hstores : ((p.controller side).calls[i]?).any (answers (p.peerId side.other)) =
        true := by
      rw [hcall, Option.any_some, answers, hoffer, hpeer, Bool.true_and]
      exact decide_eq_true rfl
    have halone := hanswers (side, i) rfl hstores
    rw [hinstalled] at halone
    cases halone

theorem Moves.agreed (h : Moves p p' side e) (hinv : p.Inv)
    (hanswers : p.AnswersAlone (.act side e)) (hinstalls : p.InstallsCurrent (.act side e)) :
    p'.Agreed := by
  intro side' session session' hsession hsession' hremote hremote'
  rcases side.eq_or_eq_other side' with rfl | rfl
  · exact h.agree hinv hanswers hinstalls hsession hsession' hremote hremote'
  · rw [Side.other_other] at hsession'
    exact (h.agree hinv hanswers hinstalls hsession' hsession hremote' hremote).symm

theorem Moves.inv (h : Moves p p' side e) (hinv : p.Inv)
    (hanswers : p.AnswersAlone (.act side e)) (hinstalls : p.InstallsCurrent (.act side e))
    (hflying : ∀ {side' : Side} {sent : RTCSent} {answer : RtcAnswer},
      sent ∈ p'.inFlight side' → sent.signal = .answer answer →
        (p'.controller side'.other).Answered sent.session answer) : p'.Inv where
  sound := h.sound hinv
  flying := hflying
  validating := h.validating hinv
  applying := h.applying hinv
  agreed := h.agreed hinv hanswers hinstalls

end Agreement

section Step

@[simp] theorem controller_become_self (p : RTCPair) (side : Side) (s : RTCSessionController) :
    (p.become side s).controller side = s := by
  simp [become]

@[simp] theorem controller_become_other (p : RTCPair) (side : Side) (s : RTCSessionController) :
    (p.become side s).controller side.other = p.controller side.other := by
  simp [become, Function.update_of_ne side.other_ne]

@[simp] theorem inFlight_carry_self (p : RTCPair) (side : Side) (signals : List RTCSent) :
    (p.carry side signals).inFlight side = signals := by
  simp [carry]

theorem mem_inFlight_carry {side' : Side} {signals : List RTCSent} {sent : RTCSent}
    (h : sent ∈ (p.carry side signals).inFlight side') :
    (side' = side ∧ sent ∈ signals) ∨ sent ∈ p.inFlight side' := by
  by_cases hside : side' = side
  · subst hside
    rw [inFlight_carry_self] at h
    exact .inl ⟨rfl, h⟩
  · change sent ∈ Function.update p.inFlight side signals side' at h
    rw [Function.update_of_ne hside] at h
    exact .inr h

theorem inv_act (h : p.Inv) (hfrom : comesFrom (p.peerId side.other) e = false)
    (hanswers : p.AnswersAlone (.act side e)) (hinstalls : p.InstallsCurrent (.act side e)) :
    ((p.become side ((p.controller side).next e)).send side
      ((p.controller side).step e).2).Inv := by
  have hmoves : Moves p ((p.become side ((p.controller side).next e)).send side
      ((p.controller side).step e).2) side e := by
    constructor
    · change RTCSessionController.Does _ e ((p.become side _).controller side)
      rw [controller_become_self]
      exact RTCSessionController.does_next (p.controller side) e
    · exact controller_become_other p side _
    · rintro answer now origin rfl
      rw [comesFrom, decide_eq_true rfl] at hfrom
      cases hfrom
  refine hmoves.inv h hanswers hinstalls ?_
  intro side' sent answer hmem hsignal
  rcases mem_inFlight_carry hmem with ⟨rfl, hsent⟩ | hmem
  · rcases List.mem_append.mp hsent with hmem | hmem
    · exact hmoves.answered h (h.flying hmem hsignal)
    · have hsent : ((p.controller side).step e).2 = some sent :=
        Option.mem_toList.mp (List.mem_filter.mp hmem).1
      rw [Side.other_other]
      change ((p.become side _).controller side).Answered sent.session answer
      rw [controller_become_self]
      exact RTCSessionController.answered_step hsent hsignal
  · exact hmoves.answered h (h.flying hmem hsignal)

theorem inv_deliver (h : p.Inv) {k now : Nat} {sent : RTCSent}
    (hget : (p.inFlight side)[k]? = some sent) :
    ((p.become side ((p.controller side).next
      (.receive (p.peerId side.other) sent.signal now sent.session))).carry side
        ((p.inFlight side).eraseIdx k)).Inv := by
  have hmoves : Moves p ((p.become side ((p.controller side).next
      (.receive (p.peerId side.other) sent.signal now sent.session))).carry side
        ((p.inFlight side).eraseIdx k)) side
      (.receive (p.peerId side.other) sent.signal now sent.session) := by
    constructor
    · change RTCSessionController.Does _ _ ((p.become side _).controller side)
      rw [controller_become_self]
      exact RTCSessionController.does_next (p.controller side) _
    · exact controller_become_other p side _
    · intro answer _ origin heq
      obtain ⟨-, hsignal, -, rfl⟩ := RTCEvent.receive.inj heq
      exact h.flying (List.mem_of_getElem? hget) hsignal
  refine hmoves.inv h nofun nofun ?_
  intro side' sent' answer hmem hsignal
  apply hmoves.answered h
  rcases mem_inFlight_carry hmem with ⟨rfl, hmem⟩ | hmem
  · exact h.flying (List.mem_of_mem_eraseIdx hmem) hsignal
  · exact h.flying hmem hsignal

theorem inv_lose (h : p.Inv) (side : Side) (k : Nat) :
    (p.carry side ((p.inFlight side).eraseIdx k)).Inv where
  sound := h.sound
  flying hmem hsignal := by
    rcases mem_inFlight_carry hmem with ⟨rfl, hmem⟩ | hmem
    · exact h.flying (List.mem_of_mem_eraseIdx hmem) hsignal
    · exact h.flying hmem hsignal
  validating := h.validating
  applying := h.applying
  agreed := h.agreed

theorem inv_next (h : p.Inv) {e : PairEvent} (hanswers : p.AnswersAlone e)
    (hinstalls : p.InstallsCurrent e) : (p.next e).Inv := by
  cases e with
  | act side e =>
    rw [next]
    split
    · exact h
    · rename_i hfrom
      exact inv_act h (Bool.eq_false_iff.mpr hfrom) hanswers hinstalls
  | deliver side k now =>
    rw [next]
    split
    · exact h
    · rename_i hget
      exact inv_deliver h hget
  | lose side k => exact inv_lose h side k

end Step

section Sample

def sampleDescription (side : Side) : String :=
  "a=fingerprint:sha-256 " ++ (if side = .first then "00" else "ff") ++
    ":00:00:00:00:00:00:00:00:00:00:00:00:00:00:00" ++
    ":00:00:00:00:00:00:00:00:00:00:00:00:00:00:00:00"

def samplePeerId : Side → String
  | .first => "a"
  | .second => "b"

/-- The steps of a call that sets a connection up, from where it is described. -/
def setUp (side : Side) (i : Nat) (newSessionId : String) : List PairEvent :=
  [.act side (.described i (some (sampleDescription side))), .act side (.hashed i),
    .act side (.localApplied i true newSessionId)]

def startCall (side : Side) : List PairEvent :=
  [.act side (.acceptCapabilities (samplePeerId side.other) 0 1000),
    .act side (.start (samplePeerId side.other) 0
      (some (some RTCSessionController.sampleDataChannel)))]

def answerCall (side : Side) (i : Nat) : List PairEvent :=
  [.act side (.validated i true), .act side (.remoteApplied i true)]

def exchange : List PairEvent :=
  startCall .first ++ setUp .first 0 "AQEBAQEBAQEBAQEBAQEBAQ" ++ [.deliver .second 0 0] ++
    answerCall .second 0 ++ setUp .second 0 "" ++ [.deliver .first 0 0] ++ answerCall .first 1

/-- The offer of the second side arrives while the first is still making its own. -/
def crossed : List PairEvent :=
  startCall .first ++ startCall .second ++ setUp .second 0 "AgICAgICAgICAgICAgICAg" ++
    [.deliver .first 0 0, .act .first (.validated 1 true)] ++
    setUp .first 0 "AQEBAQEBAQEBAQEBAQEBAQ" ++ [.act .first (.remoteApplied 1 true)] ++
    setUp .first 1 "" ++ [.deliver .second 0 0] ++ answerCall .second 1 ++ setUp .second 1 ""

end Sample

end RTCPair

end Branch.Pwa
