import Branch.Core.RtcData
import Branch.Lib.InsertionMap
import Branch.Lib.Sha256

/-!
The ledger of the deliveries that came over a direct channel: which ciphertext stands for a
delivery, and whether it was admitted.
-/

namespace Branch.Pwa

open Branch.Core Branch.Lib

inductive RTCAdmissionReservation where
  | first
  | duplicateAdmitted
  | duplicatePending
  | conflict
  deriving DecidableEq

structure AdmissionEntry where
  ciphertextSHA256 : String
  expiresAt : Nat
  admitted : Bool
  deriving DecidableEq

def maxRTCAdmissionEntries : Nat := 32

structure RTCAdmissionLedger where
  maximumEntries : Nat := maxRTCAdmissionEntries
  entries : InsertionMap String AdmissionEntry := .empty

/-- The part of a key that all deliveries of one stream have in common. -/
def admissionScope (senderPeerId : String) (streamId : Nat) : String :=
  senderPeerId ++ "\x00" ++ toString streamId ++ "\x00"

def admissionKey (senderPeerId : String) (streamId : Nat) (deliveryId : String) :
    Option String :=
  if senderPeerId = "" ∨ deliveryId = "" then none
  else some (admissionScope senderPeerId streamId ++ deliveryId)

def ciphertextSHA256 (ciphertext : List UInt8) : String :=
  Base64.encode (Sha256.sum256 ciphertext).toList

structure ReservationInput where
  senderPeerId : String
  streamId : Nat
  deliveryId : String
  ciphertext : List UInt8
  expiresAt : Nat
  now : Nat

namespace RTCAdmissionLedger

def prune (l : RTCAdmissionLedger) (now : Nat) : RTCAdmissionLedger :=
  { l with entries := l.entries.filter fun _ entry => now < entry.expiresAt }

/-- `reserve` before it waits for the digest. There is no key for what it refuses. -/
def reserve (l : RTCAdmissionLedger) (input : ReservationInput) :
    RTCAdmissionLedger × Option String :=
  if maxSafeInteger < input.streamId ∨ maxSafeInteger < input.expiresAt ∨
      input.expiresAt ≤ input.now ∨ input.ciphertext = [] then (l, none)
  else (l.prune input.now, admissionKey input.senderPeerId input.streamId input.deliveryId)

/-- `reserve` after the digest. -/
def reserveAs (l : RTCAdmissionLedger) (key fingerprint : String) (expiresAt : Nat) :
    RTCAdmissionLedger × RTCAdmissionReservation :=
  match l.entries.get? key with
  | some existing =>
    (l,
      if existing.ciphertextSHA256 ≠ fingerprint then .conflict
      else if existing.admitted then .duplicateAdmitted
      else .duplicatePending)
  | none =>
    ({ l with
      entries := (l.entries.shrink l.maximumEntries).set key
        { ciphertextSHA256 := fingerprint, expiresAt, admitted := false } }, .first)

def admitEntry (l : RTCAdmissionLedger) (senderPeerId : String) (streamId : Nat)
    (deliveryId : String) (now : Nat) : RTCAdmissionLedger × Option Bool :=
  let l := l.prune now
  match admissionKey senderPeerId streamId deliveryId with
  | none => (l, none)
  | some key =>
    match l.entries.get? key with
    | none => (l, some false)
    | some entry =>
      if entry.expiresAt ≤ now then (l, some false)
      else ({ l with entries := l.entries.set key { entry with admitted := true } }, some true)

def reset (l : RTCAdmissionLedger) : RTCAdmissionLedger := { l with entries := .empty }

end RTCAdmissionLedger

theorem admissionKey_eq_some_iff {senderPeerId deliveryId key : String} {streamId : Nat} :
    admissionKey senderPeerId streamId deliveryId = some key ↔
      senderPeerId ≠ "" ∧ deliveryId ≠ "" ∧
        key = admissionScope senderPeerId streamId ++ deliveryId := by
  unfold admissionKey
  split
  · rename_i h
    constructor
    · intro hnone
      cases hnone
    · rintro ⟨hsender, hdelivery, -⟩
      exact absurd h (by simp [hsender, hdelivery])
  · rename_i h
    rw [not_or] at h
    constructor
    · intro hkey
      exact ⟨h.1, h.2, (Option.some.inj hkey).symm⟩
    · rintro ⟨-, -, rfl⟩
      rfl

theorem deliveryId_of_admissionKey {senderPeerId deliveryId deliveryId' key : String}
    {streamId : Nat} (h : admissionKey senderPeerId streamId deliveryId = some key)
    (h' : admissionKey senderPeerId streamId deliveryId' = some key) :
    deliveryId = deliveryId' := by
  obtain ⟨-, -, rfl⟩ := admissionKey_eq_some_iff.mp h
  obtain ⟨-, -, heq⟩ := admissionKey_eq_some_iff.mp h'
  rw [String.ext_iff, String.toList_append, String.toList_append] at heq
  exact String.ext (List.append_cancel_left heq)

namespace RTCAdmissionLedger

variable {l : RTCAdmissionLedger} {key key' : String} {entry : AdmissionEntry}

theorem get?_prune_eq_some_iff {now : Nat} :
    (l.prune now).entries.get? key = some entry ↔
      l.entries.get? key = some entry ∧ now < entry.expiresAt := by
  rw [InsertionMap.get?_eq_some_iff, InsertionMap.get?_eq_some_iff]
  change _ ∈ l.entries.entries.filter _ ↔ _
  rw [List.mem_filter, decide_eq_true_eq]

theorem get?_reset : (l.reset).entries.get? key = none := rfl

theorem reserveAs_cases (l : RTCAdmissionLedger) (key fingerprint : String) (expiresAt : Nat) :
    (∃ existing, l.entries.get? key = some existing ∧
      l.reserveAs key fingerprint expiresAt = (l,
        if existing.ciphertextSHA256 ≠ fingerprint then .conflict
        else if existing.admitted then .duplicateAdmitted
        else .duplicatePending)) ∨
      (l.entries.get? key = none ∧ (l.reserveAs key fingerprint expiresAt).2 = .first ∧
        (l.reserveAs key fingerprint expiresAt).1.entries.get? key =
          some { ciphertextSHA256 := fingerprint, expiresAt, admitted := false } ∧
        ∀ key' entry, key' ≠ key →
          (l.reserveAs key fingerprint expiresAt).1.entries.get? key' = some entry →
            l.entries.get? key' = some entry) := by
  unfold reserveAs
  split
  · rename_i existing heq
    exact .inl ⟨existing, heq, rfl⟩
  · rename_i hnone
    refine .inr ⟨hnone, rfl, InsertionMap.get?_set_self _ _ _, ?_⟩
    intro key' entry hne hget
    rw [InsertionMap.get?_set_of_ne hne] at hget
    exact InsertionMap.get?_shrink hget

/-- What the ledger has after an admission was there before it. Only the entry of an admitted
delivery is different. -/
theorem of_get?_admit {senderPeerId deliveryId : String} {streamId now : Nat}
    (h : (l.admitEntry senderPeerId streamId deliveryId now).1.entries.get? key = some entry) :
    ∃ before, l.entries.get? key = some before ∧
      before.ciphertextSHA256 = entry.ciphertextSHA256 ∧
        (before = entry ∨ admissionKey senderPeerId streamId deliveryId = some key) := by
  have hprune {entry : AdmissionEntry} (h : (l.prune now).entries.get? key = some entry) :
      ∃ before, l.entries.get? key = some before ∧
        before.ciphertextSHA256 = entry.ciphertextSHA256 ∧
          (before = entry ∨ admissionKey senderPeerId streamId deliveryId = some key) :=
    ⟨entry, (get?_prune_eq_some_iff.mp h).1, rfl, .inl rfl⟩
  unfold admitEntry at h
  split at h
  · exact hprune h
  · rename_i key' hkey
    dsimp only at h
    split at h
    · exact hprune h
    · rename_i before hbefore
      split at h
      · exact hprune h
      · by_cases heq : key = key'
        · subst heq
          change ((l.prune now).entries.set _ _).get? _ = _ at h
          rw [InsertionMap.get?_set_self] at h
          obtain rfl := Option.some.inj h
          exact ⟨before, (get?_prune_eq_some_iff.mp hbefore).1, rfl, .inr hkey⟩
        · change ((l.prune now).entries.set _ _).get? _ = _ at h
          rw [InsertionMap.get?_set_of_ne heq] at h
          exact hprune h

theorem admit_eq_true {senderPeerId deliveryId : String} {streamId now : Nat}
    (hkey : admissionKey senderPeerId streamId deliveryId = some key)
    (hentry : l.entries.get? key = some entry) (hnow : now < entry.expiresAt) :
    (l.admitEntry senderPeerId streamId deliveryId now).2 = some true := by
  have hget : (l.prune now).entries.get? key = some entry :=
    get?_prune_eq_some_iff.mpr ⟨hentry, hnow⟩
  simp only [admitEntry, hkey, hget]
  rw [if_neg (by omega)]

end RTCAdmissionLedger

end Branch.Pwa
