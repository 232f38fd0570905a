import Branch.Pwa.RtcConnections

/-!
What a step of a controller does to its sessions, and to the answers that it handles.
-/

namespace Branch.Pwa

open Branch.Core Branch.Lib

/-- The two differ in their candidates and their expiry at most. -/
structure RTCSession.Same (session session' : RTCSession) : Prop where
  peerId : session'.peerId = session.peerId
  id : session'.id = session.id
  generation : session'.generation = session.generation
  role : session'.role = session.role
  localDescription : session'.localDescriptionSHA256 = session.localDescriptionSHA256
  remoteDescription : session'.remoteDescriptionSHA256 = session.remoteDescriptionSHA256

theorem RTCSession.Same.refl (session : RTCSession) : session.Same session :=
  ⟨rfl, rfl, rfl, rfl, rfl, rfl⟩

theorem RTCSession.Same.trans {session session' session'' : RTCSession}
    (h : session.Same session') (h' : session'.Same session'') : session.Same session'' where
  peerId := h'.peerId.trans h.peerId
  id := h'.id.trans h.id
  generation := h'.generation.trans h.generation
  role := h'.role.trans h.role
  localDescription := h'.localDescription.trans h.localDescription
  remoteDescription := h'.remoteDescription.trans h.remoteDescription

def RTCCall.ofAnswer : RTCCall → Bool
  | validatingAnswer _ _ _ _ => true
  | applyingAnswer _ _ _ _ => true
  | _ => false

namespace RTCSessionController

variable {s s' s'' : RTCSessionController} {i r : Nat} {peerId : String} {call : RTCCall}
  {session : RTCSession} {answer : RtcAnswer} {origin now : Nat} {e : RTCEvent}

section Frame

/-- Sessions go from the table at most, and no call comes to handle an answer. -/
structure Frame (s s' : RTCSessionController) : Prop where
  localPeerId : s'.localPeerId = s.localPeerId
  stored : ∀ {r : Nat} {session : RTCSession}, s.stored[r]? = some session →
    ∃ session', s'.stored[r]? = some session' ∧ session.Same session'
  sessions : ∀ {peerId : String} {r : Nat}, s'.sessions.get? peerId = some r →
    s.sessions.get? peerId = some r
  calls : ∀ {i : Nat} {call : RTCCall}, s'.calls[i]? = some call → call.ofAnswer = true →
    s.calls[i]? = some call

theorem Frame.of_eq (hlocalPeerId : s'.localPeerId = s.localPeerId)
    (hstored : s'.stored = s.stored)
    (hsessions : ∀ {peerId : String} {r : Nat}, s'.sessions.get? peerId = some r →
      s.sessions.get? peerId = some r) (hcalls : s'.calls = s.calls) : Frame s s' where
  localPeerId := hlocalPeerId
  stored {_ session} hget := ⟨session, hstored ▸ hget, .refl session⟩
  sessions := hsessions
  calls hget _ := hcalls ▸ hget

theorem Frame.refl (s : RTCSessionController) : Frame s s := .of_eq rfl rfl id rfl

theorem Frame.trans (h : Frame s s') (h' : Frame s' s'') : Frame s s'' where
  localPeerId := h'.localPeerId.trans h.localPeerId
  stored hget := by
    obtain ⟨_, hget', hsame⟩ := h.stored hget
    obtain ⟨session'', hget'', hsame'⟩ := h'.stored hget'
    exact ⟨session'', hget'', hsame.trans hsame'⟩
  sessions hget := h.sessions (h'.sessions hget)
  calls hget hanswer := h.calls (h'.calls hget hanswer) hanswer

theorem Frame.begin (h : Frame s s') (hcall : call.ofAnswer = false) :
    Frame s (s'.begin call) := by
  refine h.trans ⟨rfl, fun {_ session} hget => ⟨session, hget, .refl session⟩, id, ?_⟩
  intro j call' hget hanswer
  rcases getElem?_concat_eq_some_iff.mp hget with hget | ⟨_, rfl⟩
  · exact hget
  · rw [hcall] at hanswer
    cases hanswer

theorem Frame.resume (h : Frame s s') (hcall : call.ofAnswer = false) (i : Nat) :
    Frame s (s'.resume i call) := by
  refine h.trans ⟨rfl, fun {_ session} hget => ⟨session, hget, .refl session⟩, id, ?_⟩
  intro j call' hget hanswer
  have hget : (s'.calls.set i call)[j]? = some call' := hget
  by_cases hij : i = j
  · subst hij
    rw [List.getElem?_set_self'] at hget
    obtain ⟨_, _, rfl⟩ := Option.map_eq_some_iff.mp hget
    change call.ofAnswer = true at hanswer
    rw [hcall] at hanswer
    cases hanswer
  · rw [List.getElem?_set_ne hij] at hget
    exact hget

theorem Frame.finish (h : Frame s s') (i : Nat) (result : RTCResult) :
    Frame s (s'.finish i result) :=
  h.resume rfl i

theorem Frame.update (h : Frame s s') {f : RTCSession → RTCSession} (r : Nat)
    (hf : ∀ session : RTCSession, session.Same (f session)) : Frame s (s'.update r f) := by
  refine h.trans ⟨rfl, ?_, id, fun hget _ => hget⟩
  intro r' session hget
  change ∃ session', (s'.stored.modify r f)[r']? = some session' ∧ _
  rw [List.getElem?_modify, hget]
  by_cases hr : r = r'
  · exact ⟨f session, by simp [hr], hf session⟩
  · exact ⟨session, by simp [hr], .refl session⟩

theorem localPeerId_closeOf (s : RTCSessionController) (existing : Option RTCSession) :
    (s.closeOf existing).localPeerId = s.localPeerId := by
  cases existing <;> rfl

theorem Frame.drop (h : Frame s s') (peerId : String) : Frame s (s'.drop peerId) :=
  h.trans <| .of_eq (localPeerId_closeOf s' _) (stored_drop s' peerId)
    (fun hget => (InsertionMap.get?_delete_eq_some_iff.mp hget).2) (calls_drop s' peerId)

theorem Frame.foldl_dropExpired (h : Frame s s') (now : Nat) (peerIds : List String) :
    Frame s (peerIds.foldl (RTCSessionController.dropExpired now) s') := by
  induction peerIds generalizing s' with
  | nil => exact h
  | cons peerId peerIds ih =>
    refine ih ?_
    unfold RTCSessionController.dropExpired
    split
    · exact h.drop peerId
    · exact h

theorem Frame.prune (h : Frame s s') (now : Nat) : Frame s (s'.prune now) := by
  apply Frame.foldl_dropExpired
  exact h.trans (.of_eq rfl rfl id rfl)

theorem Frame.makeRoom (h : Frame s s') : Frame s s'.makeRoom.1 := by
  rcases makeRoom_fst s' with heq | ⟨peerId, heq⟩
  · rw [heq]
    exact h
  · rw [heq]
    exact h.drop peerId

theorem Frame.foldl_closeSession (h : Frame s s') (peerIds : List String) :
    Frame s (peerIds.foldl closeSession s') := by
  induction peerIds generalizing s' with
  | nil => exact h
  | cons peerId peerIds ih =>
    refine ih (h.trans (.of_eq (localPeerId_closeOf s' _) (stored_closeOf s' _) ?_
      (calls_closeOf s' _)))
    unfold closeSession closeOf
    intro peerId' r hget
    split at hget
    · exact hget
    · exact hget

theorem Frame.reset (h : Frame s s') : Frame s s'.reset := by
  have hclosed : Frame s' (s'.sessions.keys.foldl closeSession s') :=
    (Frame.refl s').foldl_closeSession _
  refine h.trans ⟨hclosed.localPeerId, hclosed.stored, ?_, hclosed.calls⟩
  intro peerId r hget
  cases hget

end Frame

section Operations

theorem Frame.acceptCapabilities (h : Frame s s') (peerId : String) (now expiresAt : Nat) :
    Frame s (s'.acceptCapabilities peerId now expiresAt) := by
  unfold RTCSessionController.acceptCapabilities
  dsimp only
  split
  · exact h.prune now
  · exact (h.prune now).trans (.of_eq rfl rfl id rfl)

theorem Frame.startConnection (h : Frame s s') (peerId : String) (now : Nat)
    (created : Option (Option RTCDataChannel)) :
    Frame s (s'.startConnection peerId now created) := by
  have hcreate : Frame s (s'.createConnection peerId) :=
    h.trans (.of_eq rfl rfl id rfl)
  unfold RTCSessionController.startConnection
  split
  · exact h.begin rfl
  · dsimp only
    split
    · exact hcreate.begin rfl
    · split
      · exact hcreate.begin rfl
      · have hclose : Frame s ((s'.createConnection peerId).close s'.connections.length) :=
          hcreate.trans (.of_eq rfl rfl id rfl)
        exact hclose.begin rfl

theorem Frame.start (h : Frame s s') (peerId : String) (now : Nat)
    (created : Option (Option RTCDataChannel)) : Frame s (s'.start peerId now created) := by
  rw [start_eq]
  split
  · exact (h.prune now).makeRoom.startConnection peerId now created
  · exact (h.prune now).begin rfl

theorem Frame.receiveCandidate (h : Frame s s') (peerId : String) (candidate : RtcCandidate)
    (now : Nat) : Frame s (s'.receiveCandidate peerId candidate now) := by
  have hreturned (result : RTCResult) : Frame s (s'.begin (.returned result)) :=
    h.begin rfl
  unfold RTCSessionController.receiveCandidate
  dsimp only
  split
  · exact hreturned _
  split
  · split
    · exact hreturned _
    split
    · exact hreturned _
    split
    · exact hreturned _
    split
    · exact hreturned _
    split
    · split
      · exact hreturned _
      · refine (h.update _ ?_).begin rfl
        exact fun _ => ⟨rfl, rfl, rfl, rfl, rfl, rfl⟩
    split
    · exact hreturned _
    · exact h.begin rfl
  · exact hreturned _

theorem Frame.receiveCancel (h : Frame s s') (peerId : String) (cancel : RtcCancel) :
    Frame s (s'.receiveCancel peerId cancel) := by
  unfold RTCSessionController.receiveCancel
  split
  · exact h.begin rfl
  · split
    · exact h.begin rfl
    · exact (h.drop peerId).begin rfl

theorem Frame.acceptOffer (h : Frame s s') (i : Nat) (peerId : String) (offer : RtcOffer)
    (now : Nat) (created : Bool) : Frame s (s'.acceptOffer i peerId offer now created) := by
  unfold RTCSessionController.acceptOffer
  dsimp only
  split
  · exact h.makeRoom.finish i _
  · split
    · exact h.makeRoom.finish i _
    · have hcreate : Frame s (s'.makeRoom.1.createConnection peerId) :=
        h.makeRoom.trans (.of_eq rfl rfl id rfl)
      exact hcreate.resume rfl i

theorem Frame.receiveOffer (h : Frame s s') (i : Nat) (peerId : String) (offer : RtcOffer)
    (now : Nat) (created : Bool) : Frame s (s'.receiveOffer i peerId offer now created) := by
  unfold RTCSessionController.receiveOffer
  split
  · exact h.finish i _
  · split
    · exact h.acceptOffer i peerId offer now created
    · split
      · split
        · exact h.finish i _
        · exact (h.drop peerId).acceptOffer i peerId offer now created
      · split
        · exact h.finish i _
        · exact h.finish i _

theorem Frame.applyPending (h : Frame s s') (i r now : Nat) :
    Frame s (s'.applyPending i r now) := by
  unfold RTCSessionController.applyPending
  split
  · refine (h.update r ?_).resume rfl i
    exact fun _ => ⟨rfl, rfl, rfl, rfl, rfl, rfl⟩
  · refine (h.update r ?_).finish i _
    exact fun _ => ⟨rfl, rfl, rfl, rfl, rfl, rfl⟩

theorem Frame.described (h : Frame s s') (i : Nat) (description : Option String) :
    Frame s (s'.described i description) := by
  unfold RTCSessionController.described
  split
  · split
    · exact h.resume rfl i
    · exact h.finish i _
  · exact h

theorem Frame.hashed (h : Frame s s') (i : Nat) : Frame s (s'.hashed i) := by
  unfold RTCSessionController.hashed
  split
  · split
    · exact h.resume rfl i
    · exact h.finish i _
  · exact h

theorem Frame.sent (h : Frame s s') (i : Nat) (ok : Bool) : Frame s (s'.sent i ok) := by
  unfold RTCSessionController.sent
  split
  · rename_i peerId r _
    cases ok with
    | true => exact h.finish i _
    | false => exact (h.drop peerId).finish i _
  · exact h

theorem Frame.candidateAdded (h : Frame s s') (i : Nat) (ok : Bool) :
    Frame s (s'.candidateAdded i ok) := by
  unfold RTCSessionController.candidateAdded
  split
  · rename_i r key now _
    cases ok with
    | true =>
      have hadd : Frame s (s'.update r (addReceived key)) :=
        h.update r fun _ => ⟨rfl, rfl, rfl, rfl, rfl, rfl⟩
      exact hadd.applyPending i r now
    | false => exact h.applyPending i r now
  · rename_i r key now _
    split
    · refine (h.update r ?_).finish i _
      exact fun _ => ⟨rfl, rfl, rfl, rfl, rfl, rfl⟩
    · exact h.finish i _
  · exact h

theorem Frame.localCandidate (h : Frame s s') (r : Nat) (candidate : String) :
    Frame s (s'.localCandidate r candidate).1 := by
  unfold RTCSessionController.localCandidate
  split
  · exact h
  · split
    · exact h
    · exact h.update r fun _ => ⟨rfl, rfl, rfl, rfl, rfl, rfl⟩

end Operations

section Step

def install (answer : RtcAnswer) (session : RTCSession) : RTCSession :=
  { session with remoteDescriptionSHA256 := some answer.descriptionSHA256 }

structure Offered (session : RTCSession) (answer : RtcAnswer) : Prop where
  role : session.role = .offerer
  id : session.id = answer.rtcSessionId
  generation : session.generation = answer.generation
  localDescription : session.localDescriptionSHA256 = answer.offerDescriptionSHA256

/-- What a step does to the sessions, and to the calls that handle an answer: mostly nothing. -/
inductive Does (s : RTCSessionController) : RTCEvent → RTCSessionController → Prop
  | quiet {e : RTCEvent} {s' : RTCSessionController} : Frame s s' → Does s e s'
  | arrive {s' : RTCSessionController} {peerId : String} {answer : RtcAnswer}
      {now origin : Nat} : Frame s s' →
        Does s (.receive peerId (.answer answer) now origin)
          (s'.begin (.validatingAnswer peerId answer now origin))
  | check {i r now origin : Nat} {created : Bool} {peerId : String} {answer : RtcAnswer}
      {session : RTCSession} :
      s.calls[i]? = some (.validatingAnswer peerId answer now origin) →
        s.sessions.get? peerId = some r → s.stored[r]? = some session →
          Offered session answer →
            Does s (.validated i created) (s.resume i (.applyingAnswer r answer now origin))
  | install {i r now origin : Nat} {answer : RtcAnswer} {s' : RTCSessionController} :
      s.calls[i]? = some (.applyingAnswer r answer now origin) →
        Frame (s.update r (install answer)) s' → Does s (.remoteApplied i true) s'
  | store {i : Nat} {setup : RTCSetup}
      {newSessionId description digest fingerprint : String} :
      s.calls[i]? = some (.settingUp setup (.applyingOwn description digest fingerprint)) →
        Does s (.localApplied i true newSessionId)
          (s.store i (newSession setup newSessionId digest))

theorem does_receive (s : RTCSessionController) (peerId : String) (signal : RTCSignal)
    (now origin : Nat) :
    Does s (.receive peerId signal now origin) (s.receive peerId signal now origin) := by
  have hprune := (Frame.refl s).prune now
  cases signal with
  | offer offer => exact .quiet (hprune.begin rfl)
  | answer answer => exact .arrive hprune
  | candidate candidate => exact .quiet (hprune.receiveCandidate peerId candidate now)
  | cancel cancel => exact .quiet (hprune.receiveCancel peerId cancel)

theorem does_validated (s : RTCSessionController) (i : Nat) (created : Bool) :
    Does s (.validated i created) (s.validated i created) := by
  have hrefl := Frame.refl s
  unfold validated
  split
  · rename_i peerId offer now _
    exact .quiet (hrefl.receiveOffer i peerId offer now created)
  · rename_i peerId answer now origin hget
    unfold receiveAnswer
    split
    · exact .quiet (hrefl.finish i _)
    · split
      · rename_i r session hr hsession
        rw [session?, hr, Option.bind_some] at hsession
        split
        · exact .quiet (hrefl.finish i _)
        · rename_i hoffered
          simp only [not_or, not_not] at hoffered
          split
          · exact .quiet (hrefl.finish i _)
          · split
            · exact .quiet (hrefl.finish i _)
            · exact .check hget hr hsession
                ⟨hoffered.1, hoffered.2.1, hoffered.2.2.1, hoffered.2.2.2⟩
      · exact .quiet (hrefl.finish i _)
  · exact .quiet hrefl

theorem does_remoteApplied (s : RTCSessionController) (i : Nat) (ok : Bool) :
    Does s (.remoteApplied i ok) (s.remoteApplied i ok) := by
  have hrefl := Frame.refl s
  unfold remoteApplied
  split
  · cases ok with
    | true => exact .quiet (hrefl.resume rfl i)
    | false => exact .quiet (hrefl.finish i _)
  · rename_i r answer now origin hget
    cases ok with
    | true => exact .install hget ((Frame.refl _).applyPending i r now)
    | false => exact .quiet (hrefl.finish i _)
  · exact .quiet hrefl

theorem does_localApplied (s : RTCSessionController) (i : Nat) (ok : Bool)
    (newSessionId : String) :
    Does s (.localApplied i ok newSessionId) (s.localApplied i ok newSessionId).1 := by
  unfold localApplied
  split
  · rename_i hget
    cases ok with
    | true => exact .store hget
    | false => exact .quiet ((Frame.refl s).finish i _)
  · exact .quiet (Frame.refl s)

theorem does_next (s : RTCSessionController) (e : RTCEvent) : Does s e (s.next e) := by
  have hrefl := Frame.refl s
  cases e with
  | acceptCapabilities peerId now expiresAt =>
    exact .quiet (hrefl.acceptCapabilities peerId now expiresAt)
  | start peerId now created => exact .quiet (hrefl.start peerId now created)
  | receive peerId signal now origin => exact does_receive s peerId signal now origin
  | validated i created => exact does_validated s i created
  | remoteApplied i ok => exact does_remoteApplied s i ok
  | described i description => exact .quiet (hrefl.described i description)
  | hashed i => exact .quiet (hrefl.hashed i)
  | localApplied i ok newSessionId => exact does_localApplied s i ok newSessionId
  | sent i ok => exact .quiet (hrefl.sent i ok)
  | candidateAdded i ok => exact .quiet (hrefl.candidateAdded i ok)
  | localCandidate r candidate => exact .quiet (hrefl.localCandidate r candidate)
  | prune now => exact .quiet (hrefl.prune now)
  | reset => exact .quiet hrefl.reset

end Step

section Sound

/-- The table lists sessions under their peers, and an answer is installed in a session that
made the offer. -/
structure Sound (s : RTCSessionController) : Prop where
  listed : ∀ {peerId : String} {r : Nat}, s.sessions.get? peerId = some r →
    ∃ session, s.stored[r]? = some session ∧ session.peerId = peerId
  offered : ∀ {i r now origin : Nat} {answer : RtcAnswer},
    s.calls[i]? = some (.applyingAnswer r answer now origin) →
      ∃ session, s.stored[r]? = some session ∧ Offered session answer

theorem sound_init (localPeerId : String) : Sound { localPeerId } where
  listed h := nomatch h
  offered h := nomatch h

theorem stored_of_does (hdoes : Does s e s') (hget : s.stored[r]? = some session) :
    ∃ session', s'.stored[r]? = some session' ∧
      (session.Same session' ∨ ∃ i answer now origin, e = .remoteApplied i true ∧
        s.calls[i]? = some (.applyingAnswer r answer now origin) ∧
          (install answer session).Same session') := by
  cases hdoes with
  | quiet hframe =>
    obtain ⟨session', hget', hsame⟩ := hframe.stored hget
    exact ⟨session', hget', .inl hsame⟩
  | arrive hframe =>
    obtain ⟨session', hget', hsame⟩ := hframe.stored hget
    exact ⟨session', hget', .inl hsame⟩
  | check _ _ _ _ => exact ⟨session, hget, .inl (.refl session)⟩
  | @install i r' now origin answer _ hcall hframe =>
    by_cases hr : r' = r
    · subst hr
      have hupdate : (s.update r' (RTCSessionController.install answer)).stored[r']? =
          some (RTCSessionController.install answer session) := by
        change (s.stored.modify r' _)[r']? = _
        rw [List.getElem?_modify_eq, hget]
        rfl
      obtain ⟨session', hget', hsame⟩ := hframe.stored hupdate
      exact ⟨session', hget', .inr ⟨i, answer, now, origin, rfl, hcall, hsame⟩⟩
    · have hupdate : (s.update r' (RTCSessionController.install answer)).stored[r]? =
          some session :=
        (List.getElem?_modify_ne _ _ hr).trans hget
      obtain ⟨session', hget', hsame⟩ := hframe.stored hupdate
      exact ⟨session', hget', .inl hsame⟩
  | store _ =>
    exact ⟨session, getElem?_concat_eq_some_iff.mpr (.inl hget), .inl (.refl session)⟩

def Kept (session session' : RTCSession) : Prop :=
  (session.role = .offerer ∧ ∃ answer, (install answer session).Same session') ∨
    session.Same session'

theorem Sound.kept_of_does (h : s.Sound) (hdoes : Does s e s')
    (hget : s.stored[r]? = some session) :
    ∃ session', s'.stored[r]? = some session' ∧ Kept session session' := by
  obtain ⟨session', hget', hsame | ⟨_, answer, _, _, _, hcall, hsame⟩⟩ :=
    stored_of_does hdoes hget
  · exact ⟨session', hget', .inr hsame⟩
  · obtain ⟨_, hsession, hoffered⟩ := h.offered hcall
    rw [hget] at hsession
    cases hsession
    exact ⟨session', hget', .inl ⟨hoffered.role, answer, hsame⟩⟩

theorem localPeerId_of_does (hdoes : Does s e s') : s'.localPeerId = s.localPeerId := by
  cases hdoes with
  | quiet hframe => exact hframe.localPeerId
  | arrive hframe => exact hframe.localPeerId
  | check _ _ _ _ => rfl
  | install _ hframe => exact hframe.localPeerId
  | store _ => rfl

theorem Kept.samePeer {session' : RTCSession} (h : Kept session session') :
    session'.peerId = session.peerId := by
  rcases h with ⟨_, _, hsame⟩ | hsame
  · exact hsame.peerId
  · exact hsame.peerId

theorem Kept.offered {session' : RTCSession} (h : Kept session session')
    (hoffered : Offered session answer) : Offered session' answer := by
  rcases h with ⟨_, _, hsame⟩ | hsame
  · exact ⟨hsame.role.trans hoffered.role, hsame.id.trans hoffered.id,
      hsame.generation.trans hoffered.generation,
      hsame.localDescription.trans hoffered.localDescription⟩
  · exact ⟨hsame.role.trans hoffered.role, hsame.id.trans hoffered.id,
      hsame.generation.trans hoffered.generation,
      hsame.localDescription.trans hoffered.localDescription⟩

theorem sessions_of_does (hdoes : Does s e s') (hget : s'.sessions.get? peerId = some r) :
    s.sessions.get? peerId = some r ∨
      (r = s.stored.length ∧ ∃ i setup newSessionId description digest fingerprint,
        s.calls[i]? = some (.settingUp setup (.applyingOwn description digest fingerprint)) ∧
          e = .localApplied i true newSessionId ∧ setup.peerId = peerId ∧
            s'.stored[r]? = some (newSession setup newSessionId digest)) := by
  cases hdoes with
  | quiet hframe => exact .inl (hframe.sessions hget)
  | arrive hframe => exact .inl (hframe.sessions hget)
  | check _ _ _ _ => exact .inl hget
  | install _ hframe => exact .inl (hframe.sessions hget)
  | @store i setup newSessionId description digest fingerprint hcall =>
    have hget : (s.sessions.set setup.peerId s.stored.length).get? peerId = some r := hget
    by_cases heq : peerId = setup.peerId
    · subst heq
      rw [InsertionMap.get?_set_self] at hget
      obtain rfl := Option.some.inj hget
      exact .inr ⟨rfl, i, setup, newSessionId, description, digest, fingerprint, hcall, rfl,
        rfl, List.getElem?_concat_length⟩
    · rw [InsertionMap.get?_set_of_ne heq] at hget
      exact .inl hget

/-- The calls that handle an answer were there before, or handle one that arrives or is found
to answer an offer. -/
theorem calls_of_does (hdoes : Does s e s') (hget : s'.calls[i]? = some call)
    (hanswer : call.ofAnswer = true) :
    s.calls[i]? = some call ∨
      (∃ peerId answer now origin, e = .receive peerId (.answer answer) now origin ∧
        call = .validatingAnswer peerId answer now origin) ∨
      ∃ peerId answer now origin r session,
        s.calls[i]? = some (.validatingAnswer peerId answer now origin) ∧
          call = .applyingAnswer r answer now origin ∧ s.sessions.get? peerId = some r ∧
            s.stored[r]? = some session ∧ s'.stored[r]? = some session ∧
              Offered session answer := by
  cases hdoes with
  | quiet hframe => exact .inl (hframe.calls hget hanswer)
  | @arrive _ peerId answer now origin hframe =>
    rcases getElem?_concat_eq_some_iff.mp hget with hget | ⟨_, rfl⟩
    · exact .inl (hframe.calls hget hanswer)
    · exact .inr (.inl ⟨peerId, answer, now, origin, rfl, rfl⟩)
  | @check j r now origin _ peerId answer session hcall hr hsession hoffered =>
    have hget : (s.calls.set j (.applyingAnswer r answer now origin))[i]? = some call := hget
    by_cases hij : j = i
    · subst hij
      rw [List.getElem?_set_self (List.getElem?_eq_some_iff.mp hcall).1] at hget
      obtain rfl := Option.some.inj hget
      exact .inr (.inr ⟨peerId, answer, now, origin, r, session, hcall, rfl, hr, hsession,
        hsession, hoffered⟩)
    · rw [List.getElem?_set_ne hij] at hget
      exact .inl hget
  | install _ hframe => exact .inl (hframe.calls hget hanswer)
  | @store j setup _ _ _ _ _ =>
    have hget : (s.calls.set j (.sending setup.peerId s.stored.length))[i]? = some call := hget
    by_cases hij : j = i
    · subst hij
      rw [List.getElem?_set_self'] at hget
      obtain ⟨_, _, rfl⟩ := Option.map_eq_some_iff.mp hget
      cases hanswer
    · rw [List.getElem?_set_ne hij] at hget
      exact .inl hget

theorem Sound.does (h : s.Sound) (hdoes : Does s e s') : s'.Sound where
  listed {peerId r} hget := by
    rcases sessions_of_does hdoes hget with
      hget | ⟨_, _, setup, newSessionId, _, digest, _, _, _, hpeer, hstored⟩
    · obtain ⟨session, hsession, rfl⟩ := h.listed hget
      obtain ⟨session', hsession', hkept⟩ := h.kept_of_does hdoes hsession
      exact ⟨session', hsession', hkept.samePeer⟩
    · exact ⟨newSession setup newSessionId digest, hstored, hpeer⟩
  offered {i r now origin answer} hget := by
    rcases calls_of_does hdoes hget rfl with
      hget | ⟨_, _, _, _, _, heq⟩ | ⟨_, _, _, _, _, session, _, heq, _, _, hsession, hoffered⟩
    · obtain ⟨session, hsession, hoffered⟩ := h.offered hget
      obtain ⟨session', hsession', hkept⟩ := h.kept_of_does hdoes hsession
      exact ⟨session', hsession', hkept.offered hoffered⟩
    · cases heq
    · cases heq
      exact ⟨session, hsession, hoffered⟩

/-- Sessions are listed under their peers, and a session that was made changes by taking in an
answer to its own offer, or not at all but for its candidates and its expiry. -/
def KeepsSessions (s : RTCSessionController) (e : RTCEvent) : Prop :=
  (∀ peerId r, (s.next e).sessions.get? peerId = some r →
    ∃ session, (s.next e).stored[r]? = some session ∧ session.peerId = peerId) ∧
  ∀ (r : Nat) session, s.stored[r]? = some session →
    ∃ session', (s.next e).stored[r]? = some session' ∧ (session.Same session' ∨
      ∃ answer, Offered session answer ∧ (install answer session).Same session')

theorem sessions_kept (localPeerId : String) (events : List RTCEvent) :
    Trace.Meets next KeepsSessions { localPeerId } events := by
  apply (Trace.meets_iff_prefixes _ _ _ _).mpr
  intro xs e ys _
  have h : Sound (Trace.run next { localPeerId } xs) :=
    Trace.invariant (fun s e h => h.does (does_next s e)) (sound_init localPeerId) xs
  refine ⟨fun _ _ hlisted => (h.does (does_next _ e)).listed hlisted, fun r session hget => ?_⟩
  obtain ⟨session', hget', hsame | ⟨_, answer, _, _, _, hcall, hsame⟩⟩ :=
    stored_of_does (does_next _ e) hget
  · exact ⟨session', hget', .inl hsame⟩
  · obtain ⟨offerer, hofferer, hoffered⟩ := h.offered hcall
    cases hget.symm.trans hofferer
    exact ⟨session', hget', .inr ⟨answer, hoffered, hsame⟩⟩

end Sound

section Answered

structure Answers (session : RTCSession) (answer : RtcAnswer) : Prop where
  role : session.role = .answerer
  id : session.id = answer.rtcSessionId
  generation : session.generation = answer.generation
  localDescription : session.localDescriptionSHA256 = answer.descriptionSHA256
  remoteDescription : session.remoteDescriptionSHA256 = some answer.offerDescriptionSHA256

def Answered (s : RTCSessionController) (origin : Nat) (answer : RtcAnswer) : Prop :=
  ∃ session, s.stored[origin]? = some session ∧ Answers session answer

theorem Answered.does (h : s.Sound) (hdoes : Does s e s') (hanswered : s.Answered origin answer) :
    s'.Answered origin answer := by
  obtain ⟨session, hget, hanswers⟩ := hanswered
  obtain ⟨session', hget', ⟨hrole, _⟩ | hsame⟩ := h.kept_of_does hdoes hget
  · rw [hanswers.role] at hrole
    cases hrole
  · exact ⟨session', hget', hsame.role.trans hanswers.role, hsame.id.trans hanswers.id,
      hsame.generation.trans hanswers.generation,
      hsame.localDescription.trans hanswers.localDescription,
      hsame.remoteDescription.trans hanswers.remoteDescription⟩

theorem answered_localApplied {newSessionId : String} {ok : Bool} {sent : RTCSent}
    (hsent : (s.localApplied i ok newSessionId).2 = some sent)
    (hsignal : sent.signal = .answer answer) :
    (s.localApplied i ok newSessionId).1.Answered sent.session answer := by
  unfold localApplied at hsent ⊢
  split at hsent
  · rename_i setup description digest fingerprint hget
    split at hsent
    · rename_i hok
      obtain rfl := Option.some.inj hsent
      rw [if_pos hok]
      refine ⟨_, List.getElem?_concat_length, ?_⟩
      unfold signalOf at hsignal
      dsimp only at hsignal
      split at hsignal
      · cases hsignal
      · rename_i remote hremote
        obtain ⟨offer, hoffer, -⟩ := Option.map_eq_some_iff.mp hremote
        have hrole : (newSession setup newSessionId digest).role = .answerer := by
          rw [newSession, hoffer]
          rfl
        cases hsignal
        exact ⟨hrole, rfl, rfl, rfl, hremote⟩
    · cases hsent
  · cases hsent

theorem answered_step {sent : RTCSent} (hsent : (s.step e).2 = some sent)
    (hsignal : sent.signal = .answer answer) : (s.next e).Answered sent.session answer := by
  cases e with
  | localApplied i ok newSessionId => exact answered_localApplied hsent hsignal
  | localCandidate r candidate =>
    change (s.localCandidate r candidate).2 = some sent at hsent
    unfold localCandidate at hsent
    split at hsent
    · cases hsent
    · split at hsent
      · cases hsent
      · obtain rfl := Option.some.inj hsent
        cases hsignal
  | acceptCapabilities _ _ _ | start _ _ _ | receive _ _ _ _ | validated _ _
  | remoteApplied _ _ | described _ _ | hashed _ | sent _ _ | candidateAdded _ _ | prune _
  | reset => cases hsent

end Answered

end RTCSessionController

end Branch.Pwa
