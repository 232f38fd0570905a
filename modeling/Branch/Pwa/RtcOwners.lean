import Branch.Pwa.RtcConnections

/-!
Whatever fails, no two sessions or calls have the same connection.
-/

namespace Branch.Pwa

open Branch.Core Branch.Lib

namespace RTCSessionController

variable {s s' : RTCSessionController} {i r c : Nat} {peerId : String} {call call' : RTCCall}

/-- A connection belongs to one session or call at most, and is one of those created. -/
structure Owning (s : RTCSessionController) : Prop where
  unique : ∀ o o' c, s.ofOwner o = some c → s.ofOwner o' = some c → o = o'
  created : ∀ o c, s.ofOwner o = some c → c < s.connections.length

theorem owning_init (localPeerId : String) : Owning { localPeerId } where
  unique := (inv_init localPeerId).unique
  created := (inv_init localPeerId).created

section Operations

theorem Owning.of_owner (h : Owning s) (hlength : s.connections.length ≤ s'.connections.length)
    (howner : ∀ o c, s'.ofOwner o = some c → s.ofOwner o = some c) : Owning s' where
  unique o o' c ho ho' := h.unique o o' c (howner o c ho) (howner o' c ho')
  created o c ho := Nat.lt_of_lt_of_le (h.created o c (howner o c ho)) hlength

theorem Owning.of_eq (h : Owning s) (hlength : s.connections.length ≤ s'.connections.length)
    (hstored : s'.stored = s.stored) (hcalls : s'.calls = s.calls) : Owning s' :=
  h.of_owner hlength fun o _ ho => (ofOwner_of_eq hstored hcalls o).symm.trans ho

theorem Owning.begin (h : Owning s) (hcall : call.connection? = none) :
    Owning (s.begin call) := by
  refine h.of_owner (Nat.le_refl _) fun o c ho => ?_
  rw [ofOwner_begin, hcall] at ho
  split at ho
  · cases ho
  · exact ho

theorem Owning.resume (h : Owning s) (hget : s.calls[i]? = some call)
    (hcall : ∀ c, call'.connection? = some c → call.connection? = some c) :
    Owning (s.resume i call') := by
  refine h.of_owner (Nat.le_refl _) fun o c ho => ?_
  rw [ofOwner_resume hget] at ho
  split at ho
  · rename_i heq
    rw [heq, ofOwner_call hget]
    exact hcall c ho
  · exact ho

theorem Owning.finish (h : Owning s) (hget : s.calls[i]? = some call) (result : RTCResult) :
    Owning (s.finish i result) :=
  h.resume hget fun _ hnone => absurd hnone (Option.some_ne_none _).symm

theorem Owning.update (h : Owning s) {f : RTCSession → RTCSession}
    (hconnection : ∀ session, (f session).connection = session.connection) (r : Nat) :
    Owning (s.update r f) := by
  refine h.of_owner (Nat.le_refl _) fun o c ho => ?_
  cases o with
  | call i => exact ho
  | session r' =>
    obtain ⟨session', hget', rfl⟩ := Option.map_eq_some_iff.mp ho
    obtain ⟨session, hget, ⟨-, rfl⟩ | ⟨-, rfl⟩⟩ := of_getElem?_modify hget'
    · rw [ofOwner, hget, Option.map_some, hconnection]
    · rw [ofOwner, hget, Option.map_some]

theorem Owning.create (h : Owning s)
    (hconnections : s'.connections.length = s.connections.length + 1)
    (howner : ∀ o, s'.ofOwner o =
      if o = .call i then some s.connections.length else s.ofOwner o) : Owning s' := by
  have hcases {o : Owner} {c : Nat} (ho : s'.ofOwner o = some c) :
      (o = .call i ∧ c = s.connections.length) ∨ s.ofOwner o = some c := by
    rw [howner] at ho
    split at ho
    · rename_i heq
      exact .inl ⟨heq, (Option.some.inj ho).symm⟩
    · exact .inr ho
  constructor
  · intro o o' c ho ho'
    rcases hcases ho with ⟨rfl, rfl⟩ | ho
    · rcases hcases ho' with ⟨rfl, _⟩ | ho'
      · rfl
      · exact absurd (h.created o' _ ho') (Nat.lt_irrefl _)
    · rcases hcases ho' with ⟨rfl, rfl⟩ | ho'
      · exact absurd (h.created o _ ho) (Nat.lt_irrefl _)
      · exact h.unique o o' c ho ho'
  · intro o c ho
    rw [hconnections]
    rcases hcases ho with ⟨_, rfl⟩ | ho
    · exact Nat.lt_succ_self _
    · exact Nat.lt_succ_of_lt (h.created o c ho)

theorem length_connections_closeOf (s : RTCSessionController) (existing : Option RTCSession) :
    (s.closeOf existing).connections.length = s.connections.length := by
  cases existing with
  | none => rfl
  | some session => exact List.length_modify _ _ _

theorem Owning.drop (h : Owning s) (peerId : String) : Owning (s.drop peerId) :=
  h.of_eq (length_connections_closeOf s _).ge (stored_drop s peerId) (calls_drop s peerId)

theorem Owning.closeSession (h : Owning s) (peerId : String) : Owning (s.closeSession peerId) :=
  h.of_eq (length_connections_closeOf s _).ge (stored_closeOf s _) (calls_closeOf s _)

theorem Owning.foldl {f : RTCSessionController → String → RTCSessionController}
    (hf : ∀ {s : RTCSessionController}, Owning s → ∀ peerId, Owning (f s peerId))
    (peerIds : List String) (h : Owning s) : Owning (peerIds.foldl f s) := by
  induction peerIds generalizing s with
  | nil => exact h
  | cons peerId peerIds ih => exact ih (hf h peerId)

theorem Owning.prune (h : Owning s) (now : Nat) : Owning (s.prune now) := by
  refine Owning.foldl (fun h peerId => ?_) _ (h.of_eq (Nat.le_refl _) rfl rfl)
  unfold dropExpired
  split
  · exact h.drop peerId
  · exact h

theorem Owning.reset (h : Owning s) : Owning s.reset := by
  have hclosed : Owning (s.sessions.keys.foldl RTCSessionController.closeSession s) :=
    Owning.foldl (fun h peerId => h.closeSession peerId) _ h
  exact hclosed.of_eq (Nat.le_refl _) rfl rfl

theorem Owning.makeRoom (h : Owning s) : Owning s.makeRoom.1 := by
  rcases makeRoom_fst s with heq | ⟨peerId, heq⟩
  · rw [heq]
    exact h
  · rw [heq]
    exact h.drop peerId

theorem Owning.createConnection (h : Owning s) (peerId : String) :
    Owning (s.createConnection peerId) :=
  h.of_eq (by rw [RTCSessionController.createConnection, List.length_append]; omega) rfl rfl

end Operations

section Calls

theorem Owning.start (h : Owning s) (peerId : String) (now : Nat)
    (created : Option (Option RTCDataChannel)) : Owning (s.start peerId now created) := by
  have hroom := (h.prune now).makeRoom
  rw [start_eq]
  split
  · unfold startConnection
    split
    · exact hroom.begin rfl
    · dsimp only
      split
      · exact (hroom.createConnection peerId).begin rfl
      · split
        · exact hroom.create (List.length_append ..) (ofOwner_begin _ _)
        · refine Owning.begin ?_ rfl
          exact (hroom.createConnection peerId).of_eq (List.length_modify ..).ge rfl rfl
  · exact (h.prune now).begin rfl

theorem Owning.receiveCandidate (h : Owning s) (peerId : String) (candidate : RtcCandidate)
    (now : Nat) : Owning (s.receiveCandidate peerId candidate now) := by
  unfold RTCSessionController.receiveCandidate
  dsimp only
  split
  · exact h.begin rfl
  split
  · split
    · exact h.begin rfl
    split
    · exact h.begin rfl
    split
    · exact h.begin rfl
    split
    · exact h.begin rfl
    split
    · split
      · exact h.begin rfl
      · refine (h.update ?_ _).begin rfl
        exact fun _ => rfl
    split
    · exact h.begin rfl
    · exact h.begin rfl
  · exact h.begin rfl

theorem Owning.receive (h : Owning s) (peerId : String) (signal : RTCSignal) (now origin : Nat) :
    Owning (s.receive peerId signal now origin) := by
  unfold RTCSessionController.receive
  dsimp only
  split
  · exact (h.prune now).begin rfl
  · exact (h.prune now).begin rfl
  · exact (h.prune now).receiveCandidate peerId _ now
  · unfold receiveCancel
    split
    · exact (h.prune now).begin rfl
    · split
      · exact (h.prune now).begin rfl
      · exact ((h.prune now).drop peerId).begin rfl

theorem Owning.acceptOffer (h : Owning s) (hget : s.calls[i]? = some call) (peerId : String)
    (offer : RtcOffer) (now : Nat) (created : Bool) :
    Owning (s.acceptOffer i peerId offer now created) := by
  have hget' : s.makeRoom.1.calls[i]? = some call := by rw [calls_makeRoom, hget]
  unfold RTCSessionController.acceptOffer
  dsimp only
  split
  · exact h.makeRoom.finish hget' _
  · split
    · exact h.makeRoom.finish hget' _
    · exact h.makeRoom.create (List.length_append ..)
        (ofOwner_resume (s := s.makeRoom.1.createConnection peerId) hget' _)

theorem Owning.receiveOffer (h : Owning s) (hget : s.calls[i]? = some call) (peerId : String)
    (offer : RtcOffer) (now : Nat) (created : Bool) :
    Owning (s.receiveOffer i peerId offer now created) := by
  unfold RTCSessionController.receiveOffer
  split
  · exact h.finish hget _
  · split
    · exact h.acceptOffer hget peerId offer now created
    · split
      · split
        · exact h.finish hget _
        · have hget' : (s.drop peerId).calls[i]? = some call := by rw [calls_drop, hget]
          exact (h.drop peerId).acceptOffer hget' peerId offer now created
      · split
        · exact h.finish hget _
        · exact h.finish hget _

theorem Owning.validated (h : Owning s) (i : Nat) (created : Bool) :
    Owning (s.validated i created) := by
  unfold RTCSessionController.validated
  split
  · rename_i hget
    exact h.receiveOffer hget _ _ _ created
  · rename_i hget
    unfold receiveAnswer
    split
    · exact h.finish hget _
    · split
      · split
        · exact h.finish hget _
        · split
          · exact h.finish hget _
          · split
            · exact h.finish hget _
            · exact h.resume hget fun _ hnone => absurd hnone (Option.some_ne_none _).symm
      · exact h.finish hget _
  · exact h

theorem Owning.applyPending (h : Owning s) (hget : s.calls[i]? = some call) (r now : Nat) :
    Owning (s.applyPending i r now) := by
  unfold RTCSessionController.applyPending
  split
  · refine (h.update ?_ r).resume hget ?_
    · exact fun _ => rfl
    · exact fun _ hnone => absurd hnone (Option.some_ne_none _).symm
  · refine (h.update ?_ r).finish hget _
    exact fun _ => rfl

theorem Owning.remoteApplied (h : Owning s) (i : Nat) (ok : Bool) :
    Owning (s.remoteApplied i ok) := by
  unfold RTCSessionController.remoteApplied
  split
  · rename_i hget
    split
    · exact h.resume hget fun _ hsome => hsome
    · exact h.finish hget _
  · rename_i hget
    split
    · refine (h.update ?_ _).applyPending hget _ _
      exact fun _ => rfl
    · exact h.finish hget _
  · exact h

theorem Owning.candidateAdded (h : Owning s) (i : Nat) (ok : Bool) :
    Owning (s.candidateAdded i ok) := by
  unfold RTCSessionController.candidateAdded
  split
  · rename_i r key now hget
    cases ok with
    | true => exact (h.update (f := addReceived key) (fun _ => rfl) r).applyPending hget r now
    | false => exact h.applyPending hget r now
  · rename_i hget
    split
    · refine (h.update ?_ _).finish hget _
      exact fun _ => rfl
    · exact h.finish hget _
  · exact h

theorem Owning.described (h : Owning s) (i : Nat) (description : Option String) :
    Owning (s.described i description) := by
  unfold RTCSessionController.described
  split
  · rename_i hget
    split
    · exact h.resume hget fun _ hsome => hsome
    · exact h.finish hget _
  · exact h

theorem Owning.hashed (h : Owning s) (i : Nat) : Owning (s.hashed i) := by
  unfold RTCSessionController.hashed
  split
  · rename_i hget
    split
    · exact h.resume hget fun _ hsome => hsome
    · exact h.finish hget _
  · exact h

theorem Owning.sent (h : Owning s) (i : Nat) (ok : Bool) : Owning (s.sent i ok) := by
  unfold RTCSessionController.sent
  split
  · rename_i peerId r hget
    cases ok with
    | true => exact h.finish hget _
    | false =>
      have hget' : (s.drop peerId).calls[i]? = some (.sending peerId r) := by
        rw [calls_drop, hget]
      exact (h.drop peerId).finish hget' _
  · exact h

theorem Owning.localCandidate (h : Owning s) (r : Nat) (candidate : String) :
    Owning (s.localCandidate r candidate).1 := by
  unfold RTCSessionController.localCandidate
  split
  · exact h
  · split
    · exact h
    · exact h.update
        (f := fun session => { session with sentCandidates := session.sentCandidates + 1 })
        (fun _ => rfl) r

theorem Owning.store (h : Owning s) {setup : RTCSetup} {stage : RTCSetupStage}
    (hget : s.calls[i]? = some (.settingUp setup stage)) {session : RTCSession}
    (hconnection : session.connection = setup.connection) : Owning (s.store i session) := by
  have hown : s.ofOwner (.call i) = some setup.connection := ofOwner_call hget
  have hcases {o : Owner} {c : Nat} (ho : (s.store i session).ofOwner o = some c) :
      (o = .session s.stored.length ∧ c = setup.connection) ∨
        (o ≠ .call i ∧ s.ofOwner o = some c) := by
    rw [ofOwner_store hget] at ho
    split at ho
    · cases ho
    · rename_i hcall
      split at ho
      · rename_i hsession
        exact .inl ⟨hsession, (Option.some.inj ho).symm.trans hconnection⟩
      · exact .inr ⟨hcall, ho⟩
  constructor
  · intro o o' c ho ho'
    rcases hcases ho with ⟨rfl, rfl⟩ | ⟨hcall, ho⟩
    · rcases hcases ho' with ⟨rfl, _⟩ | ⟨hcall', ho'⟩
      · rfl
      · exact absurd (h.unique _ _ _ ho' hown) hcall'
    · rcases hcases ho' with ⟨rfl, rfl⟩ | ⟨_, ho'⟩
      · exact absurd (h.unique _ _ _ ho hown) hcall
      · exact h.unique o o' c ho ho'
  · intro o c ho
    rcases hcases ho with ⟨_, rfl⟩ | ⟨_, ho⟩
    · exact h.created _ _ hown
    · exact h.created o c ho

end Calls

theorem Owning.next (h : Owning s) (e : RTCEvent) : Owning (s.next e) := by
  cases e with
  | acceptCapabilities peerId now expiresAt =>
    change Owning (s.acceptCapabilities peerId now expiresAt)
    unfold acceptCapabilities
    dsimp only
    split
    · exact h.prune now
    · exact (h.prune now).of_eq (Nat.le_refl _) rfl rfl
  | start peerId now created => exact h.start peerId now created
  | receive peerId signal now origin => exact h.receive peerId signal now origin
  | validated i created => exact h.validated i created
  | remoteApplied i ok => exact h.remoteApplied i ok
  | described i description => exact h.described i description
  | hashed i => exact h.hashed i
  | localApplied i ok newSessionId =>
    change Owning (s.localApplied i ok newSessionId).1
    unfold localApplied
    split
    · rename_i hget
      cases ok with
      | true => exact h.store hget rfl
      | false => exact h.finish hget _
    · exact h
  | sent i ok => exact h.sent i ok
  | candidateAdded i ok => exact h.candidateAdded i ok
  | localCandidate r candidate => exact h.localCandidate r candidate
  | prune now => exact h.prune now
  | reset => exact h.reset

theorem Owning.session_inj (h : Owning s) {r' : Nat} {session session' : RTCSession}
    (hget : s.stored[r]? = some session) (hget' : s.stored[r']? = some session')
    (hconnection : session.connection = session'.connection) : r = r' := by
  have hown : s.ofOwner (.session r) = some session.connection := by
    rw [ofOwner, hget, Option.map_some]
  have hown' : s.ofOwner (.session r') = some session.connection := by
    rw [ofOwner, hget', Option.map_some, hconnection]
  exact Owner.session.inj (h.unique _ _ _ hown hown')

end RTCSessionController

end Branch.Pwa
