import Branch.Pwa.RtcDataIngress
import Mathlib.Data.List.Pairwise

/-!
The deliveries of a direct channel: which of them are dispatched, which are admitted, and which
can still be.
-/

namespace Branch.Pwa

open Branch.Core Branch.Lib

/-- The fingerprint under which the ciphertext of a frame is recorded. -/
def frameSHA256 (frame : RtcData) : Option String :=
  (decodeBase64URL frame.ciphertext.toList).toOption.map ciphertextSHA256

namespace IngressCall

/-- The frame whose dispatch is ahead, is under way or returned true. -/
def held : IngressCall → Option RtcData
  | reserved frame _ .first => some frame
  | dispatching frame _ => some frame
  | dispatched frame (some true) _ => some frame
  | _ => none

def succeeded : IngressCall → Option RtcData
  | dispatched frame (some true) _ => some frame
  | _ => none

def failed : IngressCall → Option RtcData
  | dispatched _ (some true) _ => none
  | dispatched frame _ _ => some frame
  | _ => none

theorem held_of_succeeded {call : IngressCall} {frame : RtcData}
    (h : call.succeeded = some frame) : call.held = some frame := by
  unfold succeeded at h
  split at h
  · exact h
  · cases h

end IngressCall

namespace RTCDataIngress

variable {options : RTCDataIngressOptions} {s : RTCDataIngress} {e : IngressEvent}

section Property

def DispatchedOnce (s : RTCDataIngress) : Prop :=
  s.calls.Pairwise fun call call' => ∀ frame frame', call.succeeded = some frame →
    call'.succeeded = some frame' → frame.deliveryId ≠ frame'.deliveryId

/-- The dispatch of a ciphertext returned true, and under the delivery nothing else is
recorded. -/
def DispatchedAsRecorded (options : RTCDataIngressOptions) (s : RTCDataIngress)
    (deliveryId : String) : Prop :=
  ∃ call ∈ s.calls, ∃ frame, call.succeeded = some frame ∧ frame.deliveryId = deliveryId ∧
    ∀ key entry, admissionKey options.remotePeerId frame.streamId deliveryId = some key →
      s.ledger.entries.get? key = some entry →
        frameSHA256 frame = some entry.ciphertextSHA256

/-- The event sends an admission only for a delivery that was dispatched. -/
def AdmitsDispatched (options : RTCDataIngressOptions) (s : RTCDataIngress)
    (e : IngressEvent) : Prop :=
  ∀ frame, (s.step options e).2 = some (.send frame) →
    DispatchedAsRecorded options (s.step options e).1 frame.deliveryId

/-- A frame that arrives now, is opened and is dispatched with success. -/
def resend (s : RTCDataIngress) (frame : RtcData) (now : Nat) (plaintext : List UInt8) :
    List IngressEvent :=
  let i := s.calls.length
  [.receive now (some (.data frame)) true, .opened i (some plaintext), .hashed i,
    .resumed i true, .dispatched i (some true) now true]

def CanAdmit (options : RTCDataIngressOptions) (s : RTCDataIngress) (frame : RtcData) : Prop :=
  ∃ now plaintext,
    (Trace.run (next options) s (s.resend frame now plaintext)).calls.getLast? =
      some (.dispatched frame (some true) (some .admitted))

/-- A delivery whose dispatches all failed can still be admitted. -/
def Readmittable (options : RTCDataIngressOptions) (s : RTCDataIngress) : Prop :=
  ∀ call ∈ s.calls, ∀ frame, call.failed = some frame →
    (∀ call' ∈ s.calls, ∀ frame', call'.held = some frame' →
      frame'.deliveryId ≠ frame.deliveryId) →
    CanAdmit options s frame

end Property

section Guard

def entryOf (options : RTCDataIngressOptions) (s : RTCDataIngress) (frame : RtcData) :
    Option AdmissionEntry :=
  (admissionKey options.remotePeerId frame.streamId frame.deliveryId).bind
    s.ledger.entries.get?

/-- A delivery of which the ledger has no entry is reserved only when no dispatch of it is
ahead, is under way or returned true, and a dispatch fails only when the ledger has no entry of
its delivery any more. -/
def Undisturbed (options : RTCDataIngressOptions) (s : RTCDataIngress) : IngressEvent → Prop
  | .hashed i =>
    ∀ frame plaintext key fingerprint,
      s.calls[i]? = some (.hashing frame plaintext key fingerprint) →
        entryOf options s frame = none →
          ∀ call ∈ s.calls, ∀ frame', call.held = some frame' →
            frame'.deliveryId ≠ frame.deliveryId
  | .dispatched i result _ _ =>
    result ≠ some true →
      ∀ frame plaintext, s.calls[i]? = some (.dispatching frame plaintext) →
        entryOf options s frame = none
  | _ => True

end Guard

section Invariant

/-- A frame that passes every check on the way to its opening. -/
structure Receivable (options : RTCDataIngressOptions) (frame : RtcData) : Prop where
  valid : validateRtcData frame = true
  session : frame.rtcSessionId = options.rtcSessionId
  path : frame.pathEpoch = fixedPathEpoch
  stream : frame.streamId = fixedStreamId
  ack : frame.ackRequested = fixedAckRequested
  live : 0 < options.expiresAt

/-- A frame that passes every check on the way to its reservation. -/
structure Reservable (options : RTCDataIngressOptions) (frame : RtcData) : Prop
    extends Receivable options frame where
  safe : options.expiresAt ≤ maxSafeInteger
  key : ∃ key, admissionKey options.remotePeerId frame.streamId frame.deliveryId = some key

def Sound (options : RTCDataIngressOptions) : IngressCall → Prop
  | .opening frame now => Receivable options frame ∧ now < options.expiresAt
  | .hashing frame _ key fingerprint => Reservable options frame ∧
      admissionKey options.remotePeerId frame.streamId frame.deliveryId = some key ∧
        frameSHA256 frame = some fingerprint
  | .reserved frame _ _ => Reservable options frame
  | .dispatching frame _ => Reservable options frame
  | .dispatched frame _ _ => Reservable options frame
  | .returned _ => True

def Apart (call call' : IngressCall) : Prop :=
  ∀ frame frame', call.held = some frame → call'.held = some frame' →
    frame.deliveryId ≠ frame'.deliveryId

instance : Std.Symm Apart where
  symm _ _ h frame frame' hheld hheld' := (h frame' frame hheld' hheld).symm

/-- An entry belongs to a call that holds its delivery, and an admitted one to a call whose
dispatch returned true. -/
def Recorded (options : RTCDataIngressOptions) (calls : List IngressCall) (key : String)
    (entry : AdmissionEntry) : Prop :=
  ∃ call ∈ calls, ∃ frame, call.held = some frame ∧
    admissionKey options.remotePeerId frame.streamId frame.deliveryId = some key ∧
      frameSHA256 frame = some entry.ciphertextSHA256 ∧
        (entry.admitted = true → call.succeeded = some frame)

/-- What is a duplicate of an admitted delivery has its ciphertext. -/
def Repeats (calls : List IngressCall) (frame : RtcData) : Prop :=
  ∃ call ∈ calls, ∃ frame', call.succeeded = some frame' ∧
    frame'.deliveryId = frame.deliveryId ∧ frameSHA256 frame' = frameSHA256 frame

structure Inv (options : RTCDataIngressOptions) (s : RTCDataIngress) : Prop where
  sound : ∀ call ∈ s.calls, Sound options call
  distinct : s.calls.Pairwise Apart
  recorded : ∀ key entry, s.ledger.entries.get? key = some entry →
    Recorded options s.calls key entry
  repeats : ∀ frame plaintext, .reserved frame plaintext .duplicateAdmitted ∈ s.calls →
    Repeats s.calls frame

theorem inv_init : Inv options {} where
  sound _ h := absurd h List.not_mem_nil
  distinct := List.Pairwise.nil
  recorded _ _ h := nomatch h
  repeats _ _ h := absurd h List.not_mem_nil

theorem Inv.ledger (h : Inv options s) {ledger : RTCAdmissionLedger}
    (hledger : ∀ key entry, ledger.entries.get? key = some entry →
      Recorded options s.calls key entry) : Inv options { s with ledger } :=
  ⟨h.sound, h.distinct, hledger, h.repeats⟩

theorem Inv.forget (h : Inv options s) {ledger : RTCAdmissionLedger}
    (hledger : ∀ key entry, ledger.entries.get? key = some entry →
      s.ledger.entries.get? key = some entry) : Inv options { s with ledger } :=
  h.ledger fun key entry hget => h.recorded key entry (hledger key entry hget)

theorem Inv.start (h : Inv options s) {call : IngressCall} (hsound : Sound options call)
    (hheld : call.held = none)
    (hnew : ∀ frame plaintext, call ≠ .reserved frame plaintext .duplicateAdmitted) :
    Inv options (s.start call) where
  sound := by
    intro call' hmem
    rcases List.mem_append.mp hmem with hmem | hmem
    · exact h.sound call' hmem
    · exact List.mem_singleton.mp hmem ▸ hsound
  distinct := by
    refine List.pairwise_append.mpr ⟨h.distinct, List.pairwise_singleton _ _, ?_⟩
    intro call' _ call'' hmem frame frame' _ hheld'
    rw [List.mem_singleton.mp hmem, hheld] at hheld'
    cases hheld'
  recorded := by
    intro key entry hget
    obtain ⟨call', hmem, hrecorded⟩ := h.recorded key entry hget
    exact ⟨call', List.mem_append_left _ hmem, hrecorded⟩
  repeats := by
    intro frame plaintext hmem
    rcases List.mem_append.mp hmem with hmem | hmem
    · obtain ⟨call', hmem, hrepeats⟩ := h.repeats frame plaintext hmem
      exact ⟨call', List.mem_append_left _ hmem, hrepeats⟩
    · exact absurd (List.mem_singleton.mp hmem).symm (hnew frame plaintext)

theorem exists_mem_set {i : Nat} {call call' : IngressCall} {calls : List IngressCall}
    {P : IngressCall → Prop} (hget : calls[i]? = some call) (hkeep : P call → P call')
    (h : ∃ c ∈ calls, P c) : ∃ c ∈ calls.set i call', P c := by
  obtain ⟨c, hmem, hP⟩ := h
  obtain ⟨j, hj⟩ := List.getElem?_of_mem hmem
  by_cases hij : i = j
  · subst hij
    rw [hget] at hj
    obtain rfl := Option.some.inj hj
    refine ⟨call', List.mem_of_getElem? (i := i) ?_, hkeep hP⟩
    rw [List.getElem?_set_self (List.getElem?_eq_some_iff.mp hget).1]
  · refine ⟨c, List.mem_of_getElem? (i := j) ?_, hP⟩
    rw [List.getElem?_set_ne hij, hj]

theorem Recorded.set {i : Nat} {call call' : IngressCall} {calls : List IngressCall}
    {key : String} {entry : AdmissionEntry} (h : Recorded options calls key entry)
    (hget : calls[i]? = some call)
    (hheld : ∀ frame, call.held = some frame →
      admissionKey options.remotePeerId frame.streamId frame.deliveryId = some key →
        call'.held = some frame)
    (hsucceeded : ∀ frame, call.succeeded = some frame → call'.succeeded = some frame) :
    Recorded options (calls.set i call') key entry := by
  refine exists_mem_set hget ?_ h
  rintro ⟨frame, hframe, hkey, hsha, hadmitted⟩
  exact ⟨frame, hheld frame hframe hkey, hkey, hsha,
    fun htrue => hsucceeded frame (hadmitted htrue)⟩

/-- A call goes on. It may let go of a delivery of which the ledger has no entry. -/
theorem Inv.resume (h : Inv options s) {i : Nat} {call call' : IngressCall}
    (hget : s.calls[i]? = some call) (hsound : Sound options call')
    (hheld : ∀ frame, call'.held = some frame → call.held = some frame)
    (hkept : ∀ frame, call.held = some frame →
      call'.held = some frame ∨ entryOf options s frame = none)
    (hsucceeded : ∀ frame, call.succeeded = some frame → call'.succeeded = some frame)
    (hrepeats : ∀ frame plaintext, call' = .reserved frame plaintext .duplicateAdmitted →
      Repeats s.calls frame) : Inv options (s.resume i call') where
  sound := by
    intro c hmem
    rcases List.mem_or_eq_of_mem_set hmem with hmem | rfl
    · exact h.sound c hmem
    · exact hsound
  distinct := by
    refine pairwise_set h.distinct hget fun c _ => ⟨?_, ?_⟩
    · exact fun hapart frame frame' hc hc' => hapart frame frame' hc (hheld frame' hc')
    · exact fun hapart frame frame' hc hc' => hapart frame frame' (hheld frame hc) hc'
  recorded := by
    intro key entry hentry
    refine (h.recorded key entry hentry).set hget ?_ hsucceeded
    intro frame hframe hkey
    rcases hkept frame hframe with hkept | hnone
    · exact hkept
    · rw [entryOf, hkey, Option.bind_some] at hnone
      change s.ledger.entries.get? key = some entry at hentry
      rw [hnone] at hentry
      cases hentry
  repeats := by
    have hset {frame : RtcData} (hrepeats : Repeats s.calls frame) :
        Repeats (s.calls.set i call') frame := by
      refine exists_mem_set hget ?_ hrepeats
      rintro ⟨frame', hframe', hrest⟩
      exact ⟨frame', hsucceeded frame' hframe', hrest⟩
    intro frame plaintext hmem
    rcases List.mem_or_eq_of_mem_set hmem with hmem | heq
    · exact hset (h.repeats frame plaintext hmem)
    · exact hset (hrepeats frame plaintext heq.symm)

theorem Inv.take (h : Inv options s) {i : Nat} {call : IngressCall} {frame : RtcData}
    (plaintext : List UInt8) (hget : s.calls[i]? = some call) (hfree : call.held = none)
    (hsound : Reservable options frame)
    (hnobody : ∀ c ∈ s.calls, ∀ frame', c.held = some frame' →
      frame'.deliveryId ≠ frame.deliveryId) :
    Inv options (s.resume i (.reserved frame plaintext .first)) where
  sound := by
    intro c hmem
    rcases List.mem_or_eq_of_mem_set hmem with hmem | rfl
    · exact h.sound c hmem
    · exact hsound
  distinct := by
    refine pairwise_set h.distinct hget fun c hmem => ⟨?_, ?_⟩
    · intro _ frame' frame'' hc hc'
      obtain rfl := Option.some.inj hc'
      exact hnobody c hmem frame' hc
    · intro _ frame' frame'' hc hc'
      obtain rfl := Option.some.inj hc
      exact (hnobody c hmem frame'' hc').symm
  recorded := by
    intro key entry hentry
    refine (h.recorded key entry hentry).set hget ?_ ?_
    · intro frame' hframe'
      rw [hfree] at hframe'
      cases hframe'
    · intro frame' hframe'
      rw [IngressCall.held_of_succeeded hframe'] at hfree
      cases hfree
  repeats := by
    intro frame' plaintext' hmem
    rcases List.mem_or_eq_of_mem_set hmem with hmem | heq
    · refine exists_mem_set hget ?_ (h.repeats frame' plaintext' hmem)
      rintro ⟨frame'', hframe'', -⟩
      rw [IngressCall.held_of_succeeded hframe''] at hfree
      cases hfree
    · cases heq

end Invariant

section Step

theorem receivable_of_valid {frame : RtcData} {raw : Option RtcDataFrame} {now : Nat}
    (hraw : raw.filter RtcDataFrame.valid = some (.data frame))
    (hsession : ¬ frame.rtcSessionId ≠ options.rtcSessionId) (hnow : now < options.expiresAt)
    (hfields : ¬ (frame.pathEpoch ≠ fixedPathEpoch ∨ frame.streamId ≠ fixedStreamId ∨
      frame.ackRequested ≠ fixedAckRequested)) : Receivable options frame := by
  simp only [not_or, not_not] at hfields
  exact ⟨(Option.filter_eq_some_iff.mp hraw).2, not_not.mp hsession, hfields.1, hfields.2.1,
    hfields.2.2, by omega⟩

theorem inv_receive (h : Inv options s) (now : Nat) (raw : Option RtcDataFrame)
    (keys : Bool) : Inv options (s.receive options now raw keys) := by
  have hreturned {s : RTCDataIngress} (h : Inv options s)
      (outcome : Option RTCDataIngressOutcome) : Inv options (s.start (.returned outcome)) :=
    h.start trivial rfl fun _ _ heq => nomatch heq
  unfold receive
  split
  · refine hreturned (h.forget fun key entry hget => ?_) _
    rw [RTCAdmissionLedger.get?_reset] at hget
    cases hget
  · rename_i hnow
    split
    · exact hreturned h _
    · split
      · exact hreturned h _
      · exact hreturned h _
    · rename_i frame hraw
      split
      · exact hreturned h _
      · rename_i hsession
        unfold receiveData
        split
        · exact hreturned h _
        · rename_i hfields
          split
          · exact hreturned h _
          · have hnow : now < options.expiresAt := by omega
            exact h.start ⟨receivable_of_valid hraw hsession hnow hfields, hnow⟩ rfl
              fun _ _ heq => nomatch heq

/-- What `reserve` gives a key passed its checks. -/
theorem reserve_eq_some {l : RTCAdmissionLedger} {input : ReservationInput} {key : String}
    (h : (l.reserve input).2 = some key) : input.expiresAt ≤ maxSafeInteger ∧
      admissionKey input.senderPeerId input.streamId input.deliveryId = some key := by
  unfold RTCAdmissionLedger.reserve at h
  split at h
  · cases h
  · rename_i hchecks
    simp only [not_or, Nat.not_lt] at hchecks
    exact ⟨hchecks.2.1, h⟩

theorem of_get?_reserve (l : RTCAdmissionLedger) (input : ReservationInput) (key : String)
    (entry : AdmissionEntry) (h : (l.reserve input).1.entries.get? key = some entry) :
    l.entries.get? key = some entry := by
  unfold RTCAdmissionLedger.reserve at h
  split at h
  · exact h
  · exact (RTCAdmissionLedger.get?_prune_eq_some_iff.mp h).1

theorem Inv.finish (h : Inv options s) {i : Nat} {call : IngressCall}
    (hget : s.calls[i]? = some call) (hheld : call.held = none)
    (outcome : Option RTCDataIngressOutcome) :
    Inv options (s.resume i (.returned outcome)) := by
  refine h.resume hget trivial ?_ ?_ ?_ ?_
  · exact fun _ hframe => nomatch hframe
  · intro frame hframe
    rw [hheld] at hframe
    cases hframe
  · intro frame hframe
    rw [IngressCall.held_of_succeeded hframe] at hheld
    cases hheld
  · exact fun _ _ heq => nomatch heq

theorem inv_opened (h : Inv options s) {i : Nat} {frame : RtcData} {now : Nat}
    (hget : s.calls[i]? = some (.opening frame now)) (plaintext : Option (List UInt8)) :
    Inv options (s.opened options i frame now plaintext) := by
  have hsound : Receivable options frame ∧ now < options.expiresAt :=
    h.sound _ (List.mem_of_getElem? hget)
  unfold opened
  split
  · exact h.finish hget rfl _
  · split
    · exact h.finish hget rfl _
    · rename_i plaintext ciphertext hdecode
      dsimp only
      have hforget := h.forget fun key entry hentry => of_get?_reserve s.ledger
        { senderPeerId := options.remotePeerId, streamId := frame.streamId,
          deliveryId := frame.deliveryId, ciphertext, expiresAt := options.expiresAt, now }
        key entry hentry
      split
      · exact hforget.finish hget rfl _
      · rename_i key hkey
        obtain ⟨hsafe, hkey⟩ := reserve_eq_some hkey
        have hfingerprint : frameSHA256 frame = some (ciphertextSHA256 ciphertext) := by
          rw [frameSHA256, hdecode]
          rfl
        refine hforget.resume hget ⟨⟨hsound.1, hsafe, key, hkey⟩, hkey, hfingerprint⟩ ?_ ?_ ?_ ?_
        · exact fun _ hframe => nomatch hframe
        · exact fun _ hframe => nomatch hframe
        · exact fun _ hframe => nomatch hframe
        · exact fun _ _ heq => nomatch heq

theorem Inv.reservable (h : Inv options s) {call : IngressCall} {frame : RtcData}
    (hmem : call ∈ s.calls) (hheld : call.held = some frame) : Reservable options frame := by
  have hsound := h.sound call hmem
  unfold IngressCall.held at hheld
  split at hheld
  · exact Option.some.inj hheld ▸ hsound
  · exact Option.some.inj hheld ▸ hsound
  · exact Option.some.inj hheld ▸ hsound
  · cases hheld

theorem deliveryId_of_key {frame frame' : RtcData} {key : String}
    (h : Reservable options frame) (h' : Reservable options frame')
    (hkey : admissionKey options.remotePeerId frame.streamId frame.deliveryId = some key)
    (hkey' : admissionKey options.remotePeerId frame'.streamId frame'.deliveryId = some key) :
    frame.deliveryId = frame'.deliveryId := by
  rw [h.stream] at hkey
  rw [h'.stream] at hkey'
  exact deliveryId_of_admissionKey hkey hkey'

theorem Inv.eq_of_held (h : Inv options s) {call call' : IngressCall} {frame frame' : RtcData}
    (hmem : call ∈ s.calls) (hmem' : call' ∈ s.calls) (hheld : call.held = some frame)
    (hheld' : call'.held = some frame') (hdelivery : frame.deliveryId = frame'.deliveryId) :
    call = call' := by
  by_contra hne
  exact h.distinct.forall hmem hmem' hne frame frame' hheld hheld' hdelivery

variable {plaintext : List UInt8}

theorem inv_hashed (h : Inv options s) {i : Nat} {frame : RtcData}
    {key fingerprint : String}
    (hget : s.calls[i]? = some (.hashing frame plaintext key fingerprint))
    (hguard : entryOf options s frame = none → ∀ call ∈ s.calls, ∀ frame',
      call.held = some frame' → frame'.deliveryId ≠ frame.deliveryId) :
    Inv options (s.hashed options i frame plaintext key fingerprint) := by
  obtain ⟨hsound, hkey, hfingerprint⟩ : Reservable options frame ∧ _ ∧ _ :=
    h.sound _ (List.mem_of_getElem? hget)
  unfold hashed
  dsimp only
  rcases RTCAdmissionLedger.reserveAs_cases s.ledger key fingerprint options.expiresAt with
    ⟨existing, hexisting, heq⟩ | ⟨hnone, hfirst, hnew, hold⟩
  · rw [heq]
    refine h.resume hget hsound ?_ ?_ ?_ ?_
    · intro frame' hframe'
      dsimp only at hframe'
      split at hframe'
      · cases hframe'
      · split at hframe'
        · cases hframe'
        · cases hframe'
    · exact fun _ hframe => nomatch hframe
    · exact fun _ hframe => nomatch hframe
    · intro frame' plaintext' hdup
      dsimp only at hdup
      split at hdup
      · cases hdup
      · rename_i hsame
        split at hdup
        · rename_i hadmitted
          obtain ⟨rfl, rfl, -⟩ := IngressCall.reserved.inj hdup
          obtain ⟨call, hmem, frame', -, hkey', hsha, hsucceeded⟩ :=
            h.recorded key existing hexisting
          have hreservable :=
            h.reservable hmem (IngressCall.held_of_succeeded (hsucceeded hadmitted))
          refine ⟨call, hmem, frame', hsucceeded hadmitted, ?_, ?_⟩
          · exact deliveryId_of_key hreservable hsound hkey' hkey
          · rw [hsha, hfingerprint, not_not.mp hsame]
        · cases hdup
  · rw [hfirst]
    have hentry : entryOf options s frame = none := by
      rw [entryOf, hkey]
      exact hnone
    refine (h.take plaintext hget rfl hsound (hguard hentry)).ledger ?_
    intro key' entry hget'
    by_cases heq : key' = key
    · subst heq
      rw [hnew] at hget'
      obtain rfl := Option.some.inj hget'
      refine ⟨.reserved frame plaintext .first, ?_, frame, rfl, hkey, hfingerprint, ?_⟩
      · exact List.mem_set (List.getElem?_eq_some_iff.mp hget).1 _
      · exact fun hfalse => nomatch hfalse
    · exact (h.take plaintext hget rfl hsound (hguard hentry)).recorded key'
        entry (hold key' entry heq hget')

theorem inv_resumed (h : Inv options s) {i : Nat} {frame : RtcData}
    {reservation : RTCAdmissionReservation}
    (hget : s.calls[i]? = some (.reserved frame plaintext reservation)) (sends : Bool) :
    Inv options (s.resumed options i frame plaintext sends reservation).1 := by
  have hsound : Reservable options frame := h.sound _ (List.mem_of_getElem? hget)
  cases reservation with
  | first =>
    refine h.resume hget hsound ?_ ?_ ?_ ?_
    · exact fun _ hframe => hframe
    · exact fun _ hframe => .inl hframe
    · exact fun _ hframe => nomatch hframe
    · exact fun _ _ heq => nomatch heq
  | duplicateAdmitted => exact h.finish hget rfl _
  | duplicatePending => exact h.finish hget rfl _
  | conflict => exact h.finish hget rfl _

theorem Inv.succeed (h : Inv options s) {i : Nat} {frame : RtcData}
    (hget : s.calls[i]? = some (.dispatching frame plaintext))
    (outcome : Option RTCDataIngressOutcome) (now : Nat) :
    Inv options ({ s with
      ledger := (s.ledger.admitEntry options.remotePeerId frame.streamId frame.deliveryId now).1
      }.resume i (.dispatched frame (some true) outcome)) := by
  have hsound : Reservable options frame := h.sound _ (List.mem_of_getElem? hget)
  have hsucceeded : Inv options (s.resume i (.dispatched frame (some true) outcome)) := by
    refine h.resume hget hsound ?_ ?_ ?_ ?_
    · exact fun _ hframe => hframe
    · exact fun _ hframe => .inl hframe
    · exact fun _ hframe => nomatch hframe
    · exact fun _ _ heq => nomatch heq
  have hself : IngressCall.dispatched frame (some true) outcome ∈
      (s.resume i (.dispatched frame (some true) outcome)).calls :=
    List.mem_set (List.getElem?_eq_some_iff.mp hget).1 _
  refine hsucceeded.ledger ?_
  intro key entry hentry
  obtain ⟨before, hbefore, hsha, hsame⟩ := RTCAdmissionLedger.of_get?_admit hentry
  obtain ⟨call, hmem, frame', hheld, hkey, hsha', hadmitted⟩ :=
    hsucceeded.recorded key before hbefore
  refine ⟨call, hmem, frame', hheld, hkey, hsha' ▸ congrArg some hsha, ?_⟩
  intro htrue
  rcases hsame with rfl | hadmits
  · exact hadmitted htrue
  · have hdelivery := deliveryId_of_key (hsucceeded.reservable hmem hheld) hsound hkey hadmits
    obtain rfl := hsucceeded.eq_of_held hmem hself hheld rfl hdelivery
    exact hheld

theorem inv_dispatched (h : Inv options s) {i : Nat} {frame : RtcData}
    (hget : s.calls[i]? = some (.dispatching frame plaintext))
    (now : Nat) (sends : Bool) (result : Option Bool)
    (hguard : result ≠ some true → entryOf options s frame = none) :
    Inv options (s.dispatched options i frame now sends result).1 := by
  have hsound : Reservable options frame := h.sound _ (List.mem_of_getElem? hget)
  unfold dispatched
  split
  · dsimp only
    split
    · exact h.succeed hget _ now
    · exact h.succeed hget _ now
    · exact h.succeed hget _ now
  · rename_i hfailed
    have hnone := hguard fun htrue => hfailed htrue
    refine h.resume hget hsound ?_ ?_ ?_ ?_
    · intro frame' hframe'
      unfold IngressCall.held at hframe'
      split at hframe'
      · rename_i heq
        cases heq
      · rename_i heq
        cases heq
      · rename_i heq
        exact absurd (IngressCall.dispatched.inj heq).2.1 hfailed
      · cases hframe'
    · intro frame' hframe'
      obtain rfl := Option.some.inj hframe'
      exact .inr hnone
    · exact fun _ hframe => nomatch hframe
    · exact fun _ _ heq => nomatch heq

theorem inv_next (h : Inv options s) (hguard : Undisturbed options s e) :
    Inv options (s.next options e) := by
  unfold next step
  cases e with
  | receive now raw keys => exact inv_receive h now raw keys
  | opened i plaintext =>
    dsimp only
    split
    · rename_i hget
      exact inv_opened h hget plaintext
    · exact h
  | hashed i =>
    dsimp only
    split
    · rename_i hget
      exact inv_hashed h hget (hguard _ _ _ _ hget)
    · exact h
  | resumed i sends =>
    dsimp only
    split
    · rename_i hget
      exact inv_resumed h hget sends
    · exact h
  | dispatched i result now sends =>
    dsimp only
    split
    · rename_i hget
      exact inv_dispatched h hget now sends result fun hfailed => hguard hfailed _ _ hget
    · exact h
  | reset =>
    refine h.forget fun key entry hget => ?_
    rw [RTCAdmissionLedger.get?_reset] at hget
    cases hget

theorem Inv.dispatchedOnce (h : Inv options s) : DispatchedOnce s := by
  refine h.distinct.imp ?_
  intro call call' hapart frame frame' hsucceeded hsucceeded'
  exact hapart frame frame' (IngressCall.held_of_succeeded hsucceeded)
    (IngressCall.held_of_succeeded hsucceeded')

theorem Inv.dispatchedAsRecorded (h : Inv options s) {call : IngressCall} {frame : RtcData}
    (hmem : call ∈ s.calls) (hsucceeded : call.succeeded = some frame) :
    DispatchedAsRecorded options s frame.deliveryId := by
  have hheld := IngressCall.held_of_succeeded hsucceeded
  refine ⟨call, hmem, frame, hsucceeded, rfl, ?_⟩
  intro key entry hkey hentry
  obtain ⟨call', hmem', frame', hheld', hkey', hsha, -⟩ := h.recorded key entry hentry
  have hdelivery := deliveryId_of_key (h.reservable hmem hheld) (h.reservable hmem' hheld') hkey
    hkey'
  obtain rfl := h.eq_of_held hmem hmem' hheld hheld' hdelivery
  rw [hheld] at hheld'
  obtain rfl := Option.some.inj hheld'
  exact hsha

theorem deliveryId_of_sendAdmit {deliveryId : String} {sends : Bool} {frame : RtcAdmit}
    (h : sendAdmit options deliveryId sends = some (.send frame)) :
    frame.deliveryId = deliveryId := by
  unfold sendAdmit at h
  split at h
  · exact IngressEffect.send.inj (Option.some.inj h) ▸ rfl
  · cases h

theorem exists_succeeded_of_send (h : Inv options s) {frame : RtcAdmit}
    (hsend : (s.step options e).2 = some (.send frame)) :
    ∃ call ∈ (s.step options e).1.calls, ∃ frame', call.succeeded = some frame' ∧
      frame'.deliveryId = frame.deliveryId := by
  cases e with
  | receive now raw keys => cases hsend
  | reset => cases hsend
  | opened i plaintext =>
    simp only [step] at hsend
    split at hsend
    · cases hsend
    · cases hsend
  | hashed i =>
    simp only [step] at hsend
    split at hsend
    · cases hsend
    · cases hsend
  | resumed i sends =>
    simp only [step] at hsend ⊢
    split at hsend
    · rename_i frame' plaintext reservation hget
      cases reservation with
      | first => cases hsend
      | conflict => cases hsend
      | duplicatePending => cases hsend
      | duplicateAdmitted =>
        obtain ⟨call, hmem, frame'', hsucceeded, hdelivery, -⟩ :=
          h.repeats frame' plaintext (List.mem_of_getElem? hget)
        refine exists_mem_set hget (fun hnot => ?_) ⟨call, hmem, frame'', hsucceeded, ?_⟩
        · obtain ⟨_, hnot, -⟩ := hnot
          cases hnot
        · rw [hdelivery, deliveryId_of_sendAdmit hsend]
    · cases hsend
  | dispatched i result now sends =>
    simp only [step] at hsend ⊢
    split at hsend
    · rename_i frame' plaintext hget
      unfold dispatched at hsend ⊢
      split at hsend
      · dsimp only at hsend ⊢
        split at hsend
        · cases hsend
        · cases hsend
        · refine ⟨_, List.mem_set (List.getElem?_eq_some_iff.mp hget).1 _, frame', rfl, ?_⟩
          exact (deliveryId_of_sendAdmit hsend).symm
      · cases hsend
    · cases hsend

theorem admitsDispatched (h : Inv options s) (hguard : Undisturbed options s e) :
    AdmitsDispatched options s e := by
  intro frame hsend
  obtain ⟨call, hmem, frame', hsucceeded, hdelivery⟩ := exists_succeeded_of_send h hsend
  have hnext : Inv options (s.step options e).1 := inv_next h hguard
  exact hdelivery ▸ hnext.dispatchedAsRecorded hmem hsucceeded

end Step

section Readmission

variable {frame : RtcData}

@[simp] theorem calls_start (call : IngressCall) :
    (s.start call).calls[s.calls.length]? = some call :=
  List.getElem?_concat_length

@[simp] theorem resume_start (call call' : IngressCall) :
    (s.start call).resume s.calls.length call' = s.start call' := by
  simp [start, resume]

theorem next_receive (h : Receivable options frame) :
    s.next options (.receive 0 (some (.data frame)) true) = s.start (.opening frame 0) := by
  have hvalid : (some (RtcDataFrame.data frame)).filter RtcDataFrame.valid =
      some (.data frame) :=
    Option.filter_eq_some_iff.mpr ⟨rfl, h.valid⟩
  have hlive := h.live
  have hfields : receiveData frame 0 true = .opening frame 0 := by
    simp [receiveData, h.path, h.stream, h.ack]
  simp only [next, step, receive, hvalid]
  rw [if_neg (by omega), if_neg (not_not.mpr h.session), hfields]

theorem next_opened (h : Reservable options frame) {key : String} {ciphertext : List UInt8}
    (hkey : admissionKey options.remotePeerId frame.streamId frame.deliveryId = some key)
    (hdecode : decodeBase64URL frame.ciphertext.toList = .ok ciphertext)
    (hne : ciphertext ≠ []) (plaintext : List UInt8) :
    (s.start (.opening frame 0)).next options (.opened s.calls.length (some plaintext)) =
      start { s with ledger := s.ledger.prune 0 }
        (.hashing frame plaintext key (ciphertextSHA256 ciphertext)) := by
  have hchecks : ¬ (maxSafeInteger < frame.streamId ∨ maxSafeInteger < options.expiresAt ∨
      options.expiresAt ≤ 0 ∨ ciphertext = []) := by
    have hlive := h.live
    have hsafe := h.safe
    simp only [not_or]
    refine ⟨?_, by omega, by omega, hne⟩
    rw [h.stream]
    decide
  simp only [next, step, calls_start, opened, hdecode, RTCAdmissionLedger.reserve,
    if_neg hchecks, hkey]
  exact resume_start (s := { s with ledger := s.ledger.prune 0 }) _ _

theorem next_hashed {key fingerprint : String} {plaintext : List UInt8} :
    (s.start (.hashing frame plaintext key fingerprint)).next options
        (.hashed s.calls.length) =
      start { s with ledger := (s.ledger.reserveAs key fingerprint options.expiresAt).1 }
        (.reserved frame plaintext
          (s.ledger.reserveAs key fingerprint options.expiresAt).2) := by
  simp only [next, step, calls_start, hashed]
  exact resume_start
    (s := { s with ledger := (s.ledger.reserveAs key fingerprint options.expiresAt).1 }) _ _

theorem next_resumed {plaintext : List UInt8} :
    (s.start (.reserved frame plaintext .first)).next options (.resumed s.calls.length true) =
      s.start (.dispatching frame plaintext) := by
  simp only [next, step, calls_start, resumed]
  exact resume_start _ _

theorem next_dispatched {key : String} {entry : AdmissionEntry} {plaintext : List UInt8}
    (hkey : admissionKey options.remotePeerId frame.streamId frame.deliveryId = some key)
    (hentry : s.ledger.entries.get? key = some entry) (hlive : 0 < entry.expiresAt) :
    ((s.start (.dispatching frame plaintext)).next options
        (.dispatched s.calls.length (some true) 0 true)).calls.getLast? =
      some (.dispatched frame (some true) (some .admitted)) := by
  have hadmit := RTCAdmissionLedger.admit_eq_true hkey hentry hlive
  simp only [next, step, calls_start, dispatched]
  rw [show (s.start (.dispatching frame plaintext)).ledger = s.ledger from rfl, hadmit]
  simp [start, resume]

theorem canAdmit_of_entryOf_eq_none (h : Reservable options frame)
    (hnone : entryOf options s frame = none) : CanAdmit options s frame := by
  obtain ⟨key, hkey⟩ := h.key
  obtain ⟨ciphertext, hdecode, hne⟩ := ciphertext_of_validateRtcData h.valid
  have hfree : (s.ledger.prune 0).entries.get? key = none := by
    rw [entryOf, hkey, Option.bind_some] at hnone
    rw [Option.eq_none_iff_forall_ne_some]
    intro entry hentry
    have hbefore := (RTCAdmissionLedger.get?_prune_eq_some_iff.mp hentry).1
    rw [hnone] at hbefore
    cases hbefore
  rcases RTCAdmissionLedger.reserveAs_cases (s.ledger.prune 0) key
      (ciphertextSHA256 ciphertext) options.expiresAt with
    ⟨existing, hexisting, -⟩ | ⟨-, hfirst, hentry, -⟩
  · rw [hfree] at hexisting
    cases hexisting
  refine ⟨0, [], ?_⟩
  simp only [resend, Trace.run_cons, Trace.run_nil]
  rw [next_receive h.toReceivable, next_opened h hkey hdecode hne, next_hashed, hfirst]
  rw [next_resumed]
  exact next_dispatched hkey hentry h.live

theorem Inv.readmittable (h : Inv options s) : Readmittable options s := by
  intro call hmem frame hfailed hnobody
  have hsound : Reservable options frame := by
    have hsound := h.sound call hmem
    unfold IngressCall.failed at hfailed
    split at hfailed
    · cases hfailed
    · exact Option.some.inj hfailed ▸ hsound
    · cases hfailed
  refine canAdmit_of_entryOf_eq_none hsound ?_
  obtain ⟨key, hkey⟩ := hsound.key
  rw [entryOf, hkey, Option.bind_some, Option.eq_none_iff_forall_ne_some]
  intro entry hentry
  obtain ⟨call', hmem', frame', hheld', hkey', -⟩ := h.recorded key entry hentry
  exact hnobody call' hmem' frame' hheld'
    (deliveryId_of_key (h.reservable hmem' hheld') hsound hkey' hkey)

end Readmission

/-- A delivery is dispatched with success at most once, what failed can still be admitted, and
nothing but what was dispatched is admitted. -/
def Admission (options : RTCDataIngressOptions) (events : List IngressEvent) : Prop :=
  DispatchedOnce (Trace.run (next options) {} events) ∧
    Readmittable options (Trace.run (next options) {} events) ∧
      Trace.Meets (next options) (AdmitsDispatched options) {} events

theorem admission_of_undisturbed (options : RTCDataIngressOptions) (events : List IngressEvent)
    (h : Trace.Meets (next options) (Undisturbed options) {} events) :
    Admission options events := by
  have hinv : Inv options (Trace.run (next options) {} events) :=
    Trace.invariant_of_meets (fun _ _ hinv hguard => inv_next hinv hguard) inv_init h
  refine ⟨hinv.dispatchedOnce, hinv.readmittable, ?_⟩
  exact Trace.meets_of_meets
    (fun _ _ hinv hguard => ⟨inv_next hinv hguard, admitsDispatched hinv hguard⟩) inv_init h

section Sample

def sampleSession : RTCDataIngressOptions where
  remotePeerId := "remote"
  rtcSessionId := "AQEBAQEBAQEBAQEBAQEBAQ"
  expiresAt := 10

def sampleFrame : RtcData where
  rtcSessionId := "AQEBAQEBAQEBAQEBAQEBAQ"
  originRouteId := "AgICAgICAgICAgICAgICAg"
  pathEpoch := fixedPathEpoch
  streamId := fixedStreamId
  deliveryId := "AwMDAwMDAwMDAwMDAwMDAw"
  ackRequested := fixedAckRequested
  ciphertext := "AQID"

def sampleArrival : List IngressEvent :=
  [.receive 1 (some (.data sampleFrame)) true, .opened 0 (some []), .hashed 0,
    .resumed 0 true, .dispatched 0 (some true) 3 true]

theorem admission_sampleArrival : Admission sampleSession sampleArrival := by
  refine admission_of_undisturbed sampleSession sampleArrival ⟨trivial, trivial, ?_, trivial,
    ?_, trivial⟩
  · have hfree : ∀ call ∈ (Trace.run (next sampleSession) {} (sampleArrival.take 2)).calls,
        call.held = none := by decide +kernel
    intro frame plaintext key fingerprint _ _ call hmem frame' hheld
    rw [hfree call hmem] at hheld
    cases hheld
  · exact fun hfailed => absurd rfl hfailed

/-- The same frame comes a second time, and something else comes when the session is over,
before the second one is opened. -/
def sampleReplay : List IngressEvent :=
  [.receive 1 (some (.data sampleFrame)) true, .receive 2 (some (.data sampleFrame)) true,
    .opened 0 (some []), .hashed 0, .resumed 0 true, .dispatched 0 (some true) 3 true,
    .receive 10 none true, .opened 1 (some []), .hashed 1, .resumed 1 true,
    .dispatched 1 (some true) 11 true]

theorem not_admission_sampleReplay : ¬ Admission sampleSession sampleReplay := by
  rintro ⟨honce, -⟩
  have hcalls : (Trace.run (next sampleSession) {} sampleReplay).calls =
      [.dispatched sampleFrame (some true) (some .admitted),
        .dispatched sampleFrame (some true) (some .rejected), .returned (some .rejected)] := by
    decide +kernel
  rw [DispatchedOnce, hcalls, List.pairwise_cons] at honce
  exact honce.1 _ List.mem_cons_self sampleFrame sampleFrame rfl rfl rfl

end Sample

end RTCDataIngress

end Branch.Pwa
