import Branch.Lib.Ladder
import Branch.Pwa.Conversations
import Mathlib.Data.Finset.Card
import Mathlib.Data.List.Induction

/-!
What the states of an outgoing message are evidence of, and how the conversations keep a
message: the bubble in its window, and the versions of it in the database and on their way
there.
-/

namespace Branch.Pwa

open Branch.Lib

section Evidence

/-- A state that is still open, the outcomes of a delivery, and the receipts of the peer. -/
def strength : MessageDeliveryState → Nat
  | .pending => 0
  | .received => 0
  | .relayed => 1
  | .unavailable => 1
  | .delivered => 2
  | .read => 3

def isOutcome : MessageDeliveryState → Bool
  | .relayed => true
  | .unavailable => true
  | _ => false

/-- The evidence that speaks for a state: a first outcome, a receipt after an outcome, and a
receipt after that. -/
def Supports (evidence : List MessageDeliveryState) : MessageDeliveryState → Prop
  | .pending => True
  | .relayed => evidence.find? isOutcome = some .relayed
  | .unavailable => evidence.find? isOutcome = some .unavailable
  | .delivered => ∃ outcome, isOutcome outcome = true ∧ [outcome, .delivered].Sublist evidence
  | .read => ∃ outcome, isOutcome outcome = true ∧ [outcome, .delivered, .read].Sublist evidence
  | .received => False

structure IsStrongest (evidence : List MessageDeliveryState) (state : MessageDeliveryState) :
    Prop where
  supported : Supports evidence state
  strongest : ∀ other, Supports evidence other → strength other ≤ strength state

def advance (current next : MessageDeliveryState) : MessageDeliveryState :=
  if canAdvanceDeliveryState current next then next else current

/-- The state to which the evidence brings a pending message. -/
def standing (evidence : List MessageDeliveryState) : MessageDeliveryState :=
  evidence.foldl advance .pending

theorem standing_snoc (evidence : List MessageDeliveryState) (next : MessageDeliveryState) :
    standing (evidence ++ [next]) = advance (standing evidence) next :=
  List.foldl_concat advance .pending next evidence

def rungs : List (MessageDeliveryState → Bool) := [isOutcome, (· = .delivered), (· = .read)]

theorem canAdvance_eq (current next : MessageDeliveryState) (h : current ≠ .received) :
    canAdvanceDeliveryState current next = rungs[strength current]?.any fun rung => rung next := by
  cases current with
  | received => exact absurd rfl h
  | _ => cases next <;> rfl

theorem strength_advance (current next : MessageDeliveryState) (h : current ≠ .received) :
    strength (advance current next) =
      if canAdvanceDeliveryState current next then strength current + 1 else strength current := by
  cases current with
  | received => exact absurd rfl h
  | _ => cases next <;> rfl

theorem advance_ne_received {current : MessageDeliveryState} (next : MessageDeliveryState)
    (h : current ≠ .received) : advance current next ≠ .received := by
  cases current with
  | received => exact absurd rfl h
  | _ => cases next <;> decide

theorem standing_ne_received (evidence : List MessageDeliveryState) :
    standing evidence ≠ .received := by
  induction evidence using List.reverseRecOn with
  | nil => decide
  | append_singleton evidence next ih =>
    rw [standing_snoc]
    exact advance_ne_received next ih

theorem strength_standing (evidence : List MessageDeliveryState) :
    strength (standing evidence) = Ladder.climbed rungs evidence := by
  induction evidence using List.reverseRecOn with
  | nil => rfl
  | append_singleton evidence next ih =>
    have hne := standing_ne_received evidence
    rw [standing_snoc, strength_advance _ _ hne, canAdvance_eq _ _ hne,
      Ladder.climbed_snoc, ih]

theorem le_strength_standing_iff {evidence : List MessageDeliveryState} {k : Nat} (hk : k ≤ 3) :
    k ≤ strength (standing evidence) ↔ Ladder.Reaches (rungs.take k) evidence := by
  rw [strength_standing]
  exact Ladder.le_climbed_iff hk

theorem supports_delivered_iff (evidence : List MessageDeliveryState) :
    Supports evidence .delivered ↔ Ladder.Reaches (rungs.take 2) evidence := by
  constructor
  · rintro ⟨outcome, houtcome, hl⟩
    exact ⟨_, hl, .cons houtcome (.cons rfl .nil)⟩
  · rintro ⟨l, hl, hall⟩
    rcases hall with _ | ⟨houtcome, _ | ⟨hdelivered, _ | _⟩⟩
    rw [of_decide_eq_true hdelivered] at hl
    exact ⟨_, houtcome, hl⟩

theorem supports_read_iff (evidence : List MessageDeliveryState) :
    Supports evidence .read ↔ Ladder.Reaches (rungs.take 3) evidence := by
  constructor
  · rintro ⟨outcome, houtcome, hl⟩
    exact ⟨_, hl, .cons houtcome (.cons rfl (.cons rfl .nil))⟩
  · rintro ⟨l, hl, hall⟩
    rcases hall with _ | ⟨houtcome, _ | ⟨hdelivered, _ | ⟨hread, _ | _⟩⟩⟩
    rw [of_decide_eq_true hdelivered, of_decide_eq_true hread] at hl
    exact ⟨_, houtcome, hl⟩

theorem reaches_one_iff (evidence : List MessageDeliveryState) :
    Ladder.Reaches (rungs.take 1) evidence ↔ ∃ outcome ∈ evidence, isOutcome outcome = true := by
  constructor
  · rintro ⟨l, hl, hall⟩
    rcases hall with _ | ⟨houtcome, _ | _⟩
    exact ⟨_, List.singleton_sublist.mp hl, houtcome⟩
  · rintro ⟨outcome, hmem, houtcome⟩
    exact ⟨[outcome], List.singleton_sublist.mpr hmem, .cons houtcome .nil⟩

theorem supports_standing_of_outcome (evidence : List MessageDeliveryState) :
    (standing evidence = .pending → evidence.find? isOutcome = none) ∧
      (isOutcome (standing evidence) = true →
        evidence.find? isOutcome = some (standing evidence)) := by
  induction evidence using List.reverseRecOn with
  | nil => exact ⟨fun _ => rfl, fun h => absurd h Bool.false_ne_true⟩
  | append_singleton evidence next ih =>
    rw [standing_snoc, List.find?_append]
    generalize standing evidence = current at ih
    cases current with
    | pending =>
      rw [ih.1 rfl]
      cases next <;> simp [advance, canAdvanceDeliveryState, isOutcome]
    | relayed =>
      rw [ih.2 rfl]
      cases next <;> simp [advance, canAdvanceDeliveryState, isOutcome]
    | unavailable =>
      rw [ih.2 rfl]
      cases next <;> simp [advance, canAdvanceDeliveryState, isOutcome]
    | _ => cases next <;> simp [advance, canAdvanceDeliveryState, isOutcome]

theorem supports_standing (evidence : List MessageDeliveryState) :
    Supports evidence (standing evidence) := by
  have houtcome := (supports_standing_of_outcome evidence).2
  have hle : strength (standing evidence) ≤ 3 := by
    cases standing evidence <;> decide
  have hreaches := (le_strength_standing_iff hle).mp (Nat.le_refl _)
  generalize hstate : standing evidence = state at houtcome hreaches
  cases state with
  | pending => trivial
  | relayed => exact houtcome rfl
  | unavailable => exact houtcome rfl
  | delivered => exact (supports_delivered_iff evidence).mpr hreaches
  | read => exact (supports_read_iff evidence).mpr hreaches
  | received => exact standing_ne_received evidence hstate

theorem isStrongest_standing (evidence : List MessageDeliveryState) :
    IsStrongest evidence (standing evidence) := by
  refine ⟨supports_standing evidence, fun other hother => ?_⟩
  have hfirst : ∀ outcome, evidence.find? isOutcome = some outcome →
      1 ≤ strength (standing evidence) := by
    intro outcome hfind
    rw [le_strength_standing_iff (by decide), reaches_one_iff]
    exact ⟨outcome, List.mem_of_find?_eq_some hfind, List.find?_some hfind⟩
  cases other with
  | pending => exact Nat.zero_le _
  | relayed => exact hfirst _ hother
  | unavailable => exact hfirst _ hother
  | delivered =>
    exact (le_strength_standing_iff (by decide)).mpr ((supports_delivered_iff evidence).mp hother)
  | read =>
    exact (le_strength_standing_iff (by decide)).mpr ((supports_read_iff evidence).mp hother)
  | received => exact absurd hother not_false

theorem strength_standing_mono {evidence evidence' : List MessageDeliveryState}
    (h : evidence <+: evidence') :
    strength (standing evidence) ≤ strength (standing evidence') := by
  have hle : strength (standing evidence) ≤ 3 := by
    cases standing evidence <;> decide
  rw [le_strength_standing_iff hle]
  exact ((le_strength_standing_iff hle).mp (Nat.le_refl _)).mono h.sublist

end Evidence

def MessageWrite.erases : MessageWrite → List String
  | .save _ => []
  | .replaceForRetry previousMessageId replacement =>
    if previousMessageId = replacement.messageId then [] else [previousMessageId]
  | .delete messageIds => messageIds

/-- The version of a message that a write brings to its row. -/
def MessageWrite.saves (messageId : String) : MessageWrite → Option MessageSummary
  | .save message => if message.messageId = messageId then some message else none
  | .replaceForRetry _ replacement =>
    if replacement.messageId = messageId then some replacement else none
  | .delete _ => none

namespace Conversations

def row (c : Conversations) (messageId : String) : Option MessageSummary :=
  match c.timeline.get? messageId with
  | some (.text message) => some message
  | _ => none

/-- The versions of a message in the database and on their way there. -/
def versions (c : Conversations) (messageId : String) : List MessageSummary :=
  (c.row messageId).toList ++ c.writes.filterMap (MessageWrite.saves messageId)

structure Shows (c : Conversations) (message : MessageSummary) : Prop where
  mem : message ∈ c.window message.contactId
  unique : ∀ contactId, ∀ other ∈ c.window contactId, other.messageId = message.messageId →
    contactId = message.contactId ∧ other = message

/-- The last version of the message is the one that is shown, and no version is behind an
earlier one. -/
structure Records (c : Conversations) (message : MessageSummary) : Prop where
  kept : c.tombstones.get? message.messageId = none
  spared : ∀ write ∈ c.writes, message.messageId ∉ write.erases
  same : ∀ version ∈ c.versions message.messageId,
    version = { message with deliveryState := version.deliveryState }
  ordered : (c.versions message.messageId).Pairwise fun earlier later =>
    strength earlier.deliveryState ≤ strength later.deliveryState
  last : (c.versions message.messageId).getLast? = some message

/-- The message is shown, and the database comes to know it as it is shown. -/
structure Keeps (c : Conversations) (message : MessageSummary) : Prop where
  shows : c.Shows message
  records : c.Records message

/-- So many messages may still come to have a write on its way. -/
def HasRoom (c : Conversations) (messageId : String) (n : Nat) : Prop :=
  messageId ∈ c.messagePersistenceChains ∨
    c.messagePersistenceChains.length + n ≤ maxPendingMessagePersists

section Window

variable {c : Conversations} {message shown : MessageSummary} {contactId contactId' : String}
  {messages : List MessageSummary}

theorem window_setWindow :
    (c.setWindow contactId messages).window contactId' =
      if contactId' = contactId then messages else c.window contactId' := by
  unfold window setWindow
  rw [Table.get?_insert]
  split
  · rfl
  · rfl

@[simp] theorem window_persist (contactId : String) :
    (c.persistMessageInOrder message).window contactId = c.window contactId := by
  unfold persistMessageInOrder
  split
  · rfl
  · rfl

theorem Shows.congr {c' : Conversations} (h : c.Shows shown)
    (heq : ∀ contactId, c'.window contactId = c.window contactId) : c'.Shows shown := by
  refine ⟨?_, fun contactId => ?_⟩
  · rw [heq]
    exact h.mem
  · rw [heq]
    exact h.unique contactId

end Window

section Record

variable {c : Conversations} {message shown : MessageSummary} {messageId : String}

theorem versions_persist_of_ne (h : message.messageId ≠ messageId) :
    (c.persistMessageInOrder message).versions messageId = c.versions messageId := by
  unfold persistMessageInOrder
  split
  · rfl
  · simp [versions, row, List.filterMap_append, MessageWrite.saves, h]

theorem versions_persist_self {n : Nat} (h : c.HasRoom message.messageId (n + 1)) :
    (c.persistMessageInOrder message).versions message.messageId =
      c.versions message.messageId ++ [message] := by
  have hroom : ¬ (message.messageId ∉ c.messagePersistenceChains ∧
      maxPendingMessagePersists ≤ c.messagePersistenceChains.length) := by
    rintro ⟨hnot, hfull⟩
    rcases h with h | h
    · exact hnot h
    · omega
  unfold persistMessageInOrder
  rw [if_neg hroom]
  simp [versions, row, List.filterMap_append, MessageWrite.saves]

theorem Records.persist (h : c.Records shown) (message : MessageSummary) :
    (c.persistMessageInOrder message).tombstones.get? shown.messageId = none ∧
      ∀ write ∈ (c.persistMessageInOrder message).writes, shown.messageId ∉ write.erases := by
  unfold persistMessageInOrder
  split
  · exact ⟨h.kept, h.spared⟩
  · refine ⟨h.kept, fun write hwrite => ?_⟩
    rcases List.mem_append.mp hwrite with hwrite | hwrite
    · exact h.spared write hwrite
    · rw [List.mem_singleton.mp hwrite]
      exact List.not_mem_nil

theorem Records.persist_of_ne (h : c.Records shown) (hne : message.messageId ≠ shown.messageId) :
    (c.persistMessageInOrder message).Records shown := by
  have hversions := versions_persist_of_ne (c := c) hne
  refine ⟨(h.persist _).1, (h.persist _).2, ?_, ?_, ?_⟩
  · rw [hversions]
    exact h.same
  · rw [hversions]
    exact h.ordered
  · rw [hversions]
    exact h.last

theorem Records.persist_self {n : Nat} (h : c.Records shown) {state : MessageDeliveryState}
    (hroom : c.HasRoom shown.messageId (n + 1))
    (hle : strength shown.deliveryState ≤ strength state) :
    (c.persistMessageInOrder { shown with deliveryState := state }).Records
      { shown with deliveryState := state } := by
  have hversions : (c.persistMessageInOrder { shown with deliveryState := state }).versions
      shown.messageId = c.versions shown.messageId ++ [{ shown with deliveryState := state }] :=
    versions_persist_self hroom
  have hbelow : ∀ version ∈ c.versions shown.messageId,
      strength version.deliveryState ≤ strength shown.deliveryState := by
    intro version hversion
    obtain ⟨l, hl⟩ := List.getLast?_eq_some_iff.mp h.last
    have hordered := h.ordered
    rw [hl] at hordered hversion
    rcases List.mem_append.mp hversion with hversion | hversion
    · exact (List.pairwise_append.mp hordered).2.2 version hversion shown (by simp)
    · rw [List.mem_singleton.mp hversion]
  refine ⟨(h.persist _).1, (h.persist _).2, ?_, ?_, ?_⟩
  · intro version hversion
    rw [hversions] at hversion
    rcases List.mem_append.mp hversion with hversion | hversion
    · exact h.same version hversion
    · rw [List.mem_singleton.mp hversion]
  · rw [hversions, List.pairwise_append]
    refine ⟨h.ordered, List.pairwise_singleton _ _, fun version hversion later hlater => ?_⟩
    rw [List.mem_singleton.mp hlater]
    exact (hbelow version hversion).trans hle
  · rw [hversions, List.getLast?_concat]

theorem Records.of_suffix {c' : Conversations} (h : c.Records shown)
    (hkept : c'.tombstones.get? shown.messageId = none)
    (hspared : ∀ write ∈ c'.writes, write ∈ c.writes)
    (hsuffix : c'.versions shown.messageId <:+ c.versions shown.messageId)
    (hne : c'.versions shown.messageId ≠ []) : c'.Records shown := by
  refine ⟨hkept, fun write hwrite => h.spared write (hspared write hwrite), ?_, ?_, ?_⟩
  · exact fun version hversion => h.same version (hsuffix.subset hversion)
  · exact h.ordered.sublist hsuffix.sublist
  · obtain ⟨l, hl⟩ := hsuffix
    rw [← h.last, ← hl, List.getLast?_append_of_ne_nil l hne]

end Record

section Operations

variable {c : Conversations} {shown : MessageSummary} {contactId messageId : String}
  {messages : List MessageSummary} {n : Nat}

theorem messagePersistenceChains_persist (c : Conversations) (message : MessageSummary) :
    (c.persistMessageInOrder message).messagePersistenceChains = c.messagePersistenceChains ∨
      (c.persistMessageInOrder message).messagePersistenceChains =
        (c.writes.flatMap MessageWrite.messageIds ++ [message.messageId]).dedup := by
  unfold persistMessageInOrder
  split
  · exact .inl rfl
  · refine .inr ?_
    simp [messagePersistenceChains, MessageWrite.messageIds]

theorem HasRoom.persist (h : c.HasRoom messageId (n + 1)) (message : MessageSummary) :
    (c.persistMessageInOrder message).HasRoom messageId n := by
  rcases messagePersistenceChains_persist c message with heq | heq
  · unfold HasRoom
    rw [heq]
    rcases h with h | h
    · exact .inl h
    · exact .inr (by omega)
  · unfold HasRoom
    rw [heq]
    rcases h with h | h
    · refine .inl ?_
      rw [List.mem_dedup, List.mem_append]
      exact .inl (List.mem_dedup.mp h)
    · have hle : (c.writes.flatMap MessageWrite.messageIds ++ [message.messageId]).dedup.length ≤
          c.messagePersistenceChains.length + 1 := by
        have hunion := Finset.card_union_le (c.writes.flatMap MessageWrite.messageIds).toFinset
          [message.messageId].toFinset
        rw [← List.toFinset_append, List.card_toFinset, List.card_toFinset,
          List.card_toFinset] at hunion
        exact hunion
      exact .inr (by omega)

theorem HasRoom.setMessageDeliveryState (h : c.HasRoom messageId (n + 1))
    (contactId other : String) (deliveryState : MessageDeliveryState) :
    (c.setMessageDeliveryState contactId other deliveryState).HasRoom messageId n := by
  unfold Conversations.setMessageDeliveryState
  split
  · rcases h with h | h
    · exact .inl h
    · exact .inr (by omega)
  · exact HasRoom.persist (c := c.setWindow _ _) h _

theorem Records.setWindow (h : c.Records shown) (contactId : String)
    (messages : List MessageSummary) : (c.setWindow contactId messages).Records shown :=
  ⟨h.kept, h.spared, h.same, h.ordered, h.last⟩

theorem Keeps.setMessageDeliveryState_of_ne (h : c.Keeps shown)
    (hne : ¬ (contactId = shown.contactId ∧ messageId = shown.messageId))
    (deliveryState : MessageDeliveryState) :
    (c.setMessageDeliveryState contactId messageId deliveryState).Keeps shown := by
  unfold Conversations.setMessageDeliveryState
  split
  · exact h
  · rename_i message hfind
    have hmem : message ∈ c.window contactId :=
      List.mem_reverse.mp (List.mem_of_find?_eq_some hfind)
    have hadvances : advances messageId deliveryState message = true := List.find?_some hfind
    replace hadvances := of_decide_eq_true hadvances
    have hmessage : message.messageId ≠ shown.messageId := by
      intro heq
      exact hne ⟨(h.shows.unique contactId message hmem heq).1, hadvances.1 ▸ heq⟩
    refine ⟨Shows.congr ?_ window_persist, (h.records.setWindow _ _).persist_of_ne hmessage⟩
    refine ⟨?_, ?_⟩
    · rw [window_setWindow]
      split
      · rename_i heq
        refine List.mem_map.mpr ⟨shown, heq ▸ h.shows.mem, if_neg fun hshown => ?_⟩
        exact hne ⟨heq.symm, (of_decide_eq_true hshown).1.symm⟩
      · exact h.shows.mem
    · intro contactId' other hother hid
      rw [window_setWindow] at hother
      split at hother
      · rename_i heq
        subst heq
        obtain ⟨before, hbefore, rfl⟩ := List.mem_map.mp hother
        have hbeforeid : before.messageId = shown.messageId := by
          rw [← hid]
          split
          · rfl
          · rfl
        obtain ⟨hcontact, rfl⟩ := h.shows.unique contactId' before hbefore hbeforeid
        refine ⟨hcontact, if_neg fun hshown => ?_⟩
        exact hne ⟨hcontact, (of_decide_eq_true hshown).1.symm⟩
      · exact h.shows.unique contactId' other hother hid

theorem advances_self_iff (houtgoing : shown.direction = .outgoing)
    (deliveryState : MessageDeliveryState) :
    advances shown.messageId deliveryState shown = true ↔
      canAdvanceDeliveryState shown.deliveryState deliveryState = true := by
  simp [advances, houtgoing]

theorem Keeps.setMessageDeliveryState_self (h : c.Keeps shown)
    (houtgoing : shown.direction = .outgoing) (hreceived : shown.deliveryState ≠ .received)
    (hroom : c.HasRoom shown.messageId (n + 1)) (deliveryState : MessageDeliveryState) :
    (c.setMessageDeliveryState shown.contactId shown.messageId deliveryState).Keeps
      { shown with deliveryState := advance shown.deliveryState deliveryState } := by
  have honly : ∀ message ∈ c.window shown.contactId,
      advances shown.messageId deliveryState message = true → message = shown :=
    fun message hmem hadvances =>
      (h.shows.unique _ message hmem (of_decide_eq_true hadvances).1).2
  cases hadvance : canAdvanceDeliveryState shown.deliveryState deliveryState with
  | false =>
    have hnone : (c.window shown.contactId).reverse.find?
        (advances shown.messageId deliveryState) = none := by
      rw [List.find?_eq_none]
      intro message hmem hadvances
      rw [honly message (List.mem_reverse.mp hmem) hadvances,
        advances_self_iff houtgoing, hadvance] at hadvances
      cases hadvances
    have hsame : advance shown.deliveryState deliveryState = shown.deliveryState := by
      rw [advance, hadvance]
      rfl
    unfold Conversations.setMessageDeliveryState
    rw [hnone, hsame]
    exact h
  | true =>
    have hshown := (advances_self_iff houtgoing deliveryState).mpr hadvance
    have hnext : advance shown.deliveryState deliveryState = deliveryState := by
      rw [advance, hadvance]
      rfl
    have hsome : ((c.window shown.contactId).reverse.find?
        (advances shown.messageId deliveryState)).isSome = true := by
      rw [List.find?_isSome]
      exact ⟨shown, List.mem_reverse.mpr h.shows.mem, hshown⟩
    obtain ⟨message, hfind⟩ := Option.isSome_iff_exists.mp hsome
    obtain rfl : message = shown :=
      honly message (List.mem_reverse.mp (List.mem_of_find?_eq_some hfind))
        (List.find?_some hfind)
    unfold Conversations.setMessageDeliveryState
    rw [hfind, hnext]
    have hle : strength message.deliveryState ≤ strength deliveryState := by
      have hstrength := strength_advance message.deliveryState deliveryState hreceived
      rw [hnext, hadvance] at hstrength
      exact hstrength ▸ Nat.le_succ _
    refine ⟨Shows.congr ?_ window_persist,
      (h.records.setWindow _ _).persist_self (n := n) hroom hle⟩
    refine ⟨?_, ?_⟩
    · rw [window_setWindow, if_pos rfl]
      exact List.mem_map.mpr ⟨message, h.shows.mem, if_pos hshown⟩
    · intro contactId other hother hid
      rw [window_setWindow] at hother
      split at hother
      · rename_i heq
        obtain ⟨before, hbefore, rfl⟩ := List.mem_map.mp hother
        have hbeforeid : before.messageId = message.messageId := by
          rw [← show _ = message.messageId from hid]
          split
          · rfl
          · rfl
        obtain ⟨_, rfl⟩ := h.shows.unique _ before hbefore hbeforeid
        exact ⟨heq, if_pos hshown⟩
      · rename_i hcontact
        exact absurd (h.shows.unique contactId other hother hid).1 hcontact

variable {write : MessageWrite}

theorem messageId_mem_of_saves {message : MessageSummary}
    (h : write.saves messageId = some message) :
    messageId ∈ write.messageIds ∧ message.messageId = messageId := by
  cases write with
  | save saved =>
    obtain ⟨hid, heq⟩ := Option.ite_none_right_eq_some.mp h
    obtain rfl := Option.some.inj heq
    exact ⟨by simp [MessageWrite.messageIds, hid], hid⟩
  | replaceForRetry previousMessageId replacement =>
    obtain ⟨hid, heq⟩ := Option.ite_none_right_eq_some.mp h
    obtain rfl := Option.some.inj heq
    exact ⟨by simp [MessageWrite.messageIds, hid], hid⟩
  | delete messageIds => cases h

theorem messageId_mem_of_erases (h : messageId ∈ write.erases) :
    messageId ∈ write.messageIds := by
  cases write with
  | save message => cases h
  | replaceForRetry previousMessageId replacement =>
    change messageId ∈ (if _ then _ else _) at h
    split at h
    · cases h
    · rw [List.mem_singleton.mp h]
      exact List.mem_cons_self
  | delete messageIds => exact h

theorem get?_insertAll (messageIds : List String) (deletedAt : Nat)
    {tombstones : Table String Nat} (h : messageId ∉ messageIds) :
    (messageIds.foldl (fun tombstones messageId => tombstones.insert messageId deletedAt)
      tombstones).get? messageId = tombstones.get? messageId := by
  induction messageIds generalizing tombstones with
  | nil => rfl
  | cons other messageIds ih =>
    rw [List.mem_cons, not_or] at h
    rw [List.foldl_cons, ih h.2, Table.get?_insert_of_ne _ _ h.1]

theorem deleteStoredMessages_of_notMem {messageIds : List String} (deletedAt : Nat)
    (h : messageId ∉ messageIds) (hkept : c.tombstones.get? messageId = none) :
    (c.deleteStoredMessages messageIds deletedAt).row messageId = c.row messageId ∧
      (c.deleteStoredMessages messageIds deletedAt).tombstones.get? messageId = none := by
  constructor
  · unfold row deleteStoredMessages
    rw [Table.get?_filter]
    cases c.timeline.get? messageId with
    | none => rfl
    | some entry => simp [Option.filter, h]
  · unfold deleteStoredMessages trimTombstones
    rw [Table.get?_filter, get?_insertAll messageIds deletedAt h, hkept]
    rfl

theorem perform_of_other (now : Nat)
    (hsaves : write.saves messageId = none) (herases : messageId ∉ write.erases)
    (hkept : c.tombstones.get? messageId = none) :
    (c.perform now write).row messageId = c.row messageId ∧
      (c.perform now write).tombstones.get? messageId = none := by
  cases write with
  | save message =>
    have hne : messageId ≠ message.messageId := by
      rintro rfl
      simp [MessageWrite.saves] at hsaves
    change (c.saveStoredMessage message).row messageId = _ ∧
      (c.saveStoredMessage message).tombstones.get? messageId = _
    unfold saveStoredMessage
    split
    · exact ⟨rfl, hkept⟩
    · refine ⟨?_, hkept⟩
      unfold row
      rw [Table.get?_insert_of_ne _ _ hne]
  | replaceForRetry previousMessageId replacement =>
    have hne : messageId ≠ replacement.messageId := by
      rintro rfl
      simp [MessageWrite.saves] at hsaves
    have hprevious : messageId ≠ previousMessageId := by
      rintro rfl
      simp [MessageWrite.erases, hne] at herases
    refine ⟨?_, hkept⟩
    change (c.replaceStoredMessageForRetry previousMessageId replacement).row messageId = _
    unfold replaceStoredMessageForRetry row
    rw [Table.get?_insert_of_ne _ _ hne, Table.get?_erase_of_ne _ hprevious]
  | delete messageIds => exact deleteStoredMessages_of_notMem now herases hkept

theorem perform_of_saves {message : MessageSummary} (now : Nat)
    (hsaves : write.saves messageId = some message)
    (hkept : c.tombstones.get? messageId = none) :
    (c.perform now write).row messageId = some message ∧
      (c.perform now write).tombstones.get? messageId = none := by
  cases write with
  | save saved =>
    obtain ⟨rfl, heq⟩ := Option.ite_none_right_eq_some.mp hsaves
    obtain rfl := Option.some.inj heq
    change (c.saveStoredMessage saved).row saved.messageId = _ ∧
      (c.saveStoredMessage saved).tombstones.get? saved.messageId = _
    unfold saveStoredMessage
    rw [hkept]
    refine ⟨?_, hkept⟩
    unfold row
    rw [Table.get?_insert_self]
  | replaceForRetry previousMessageId replacement =>
    obtain ⟨rfl, heq⟩ := Option.ite_none_right_eq_some.mp hsaves
    obtain rfl := Option.some.inj heq
    refine ⟨?_, hkept⟩
    change (c.replaceStoredMessageForRetry previousMessageId replacement).row
      replacement.messageId = _
    unfold replaceStoredMessageForRetry row
    rw [Table.get?_insert_self]
  | delete messageIds => cases hsaves

@[simp] theorem writes_perform (c : Conversations) (now : Nat) (write : MessageWrite) :
    (c.perform now write).writes = c.writes := by
  cases write with
  | save message =>
    change (c.saveStoredMessage message).writes = _
    unfold saveStoredMessage
    split
    · rfl
    · rfl
  | replaceForRetry previousMessageId replacement => rfl
  | delete messageIds => rfl

@[simp] theorem window_perform (c : Conversations) (now : Nat) (write : MessageWrite)
    (contactId : String) : (c.perform now write).window contactId = c.window contactId := by
  cases write with
  | save message =>
    change (c.saveStoredMessage message).window contactId = _
    unfold saveStoredMessage
    split
    · rfl
    · rfl
  | replaceForRetry previousMessageId replacement => rfl
  | delete messageIds => rfl

theorem window_settleWrite (c : Conversations) (position : Nat) (completes : Bool) (now : Nat)
    (contactId : String) :
    (c.settleWrite position completes now).window contactId = c.window contactId := by
  unfold settleWrite
  split
  · rfl
  · split
    · rfl
    · dsimp only
      split
      · rw [window_perform]
        rfl
      · rfl

theorem filterMap_eraseIdx_of_turn {position : Nat}
    (hwrite : c.writes[position]? = some write) (hturn : c.hasTurn position write = true)
    (messageId : String) :
    c.writes.filterMap (MessageWrite.saves messageId) =
      (write.saves messageId).toList ++
        (c.writes.eraseIdx position).filterMap (MessageWrite.saves messageId) := by
  obtain ⟨hlt, hget⟩ := List.getElem?_eq_some_iff.mp hwrite
  have hsplit : c.writes = c.writes.take position ++ write :: c.writes.drop (position + 1) := by
    rw [← hget, ← List.drop_eq_getElem_cons hlt, List.take_append_drop]
  rw [List.eraseIdx_eq_take_drop_succ, List.filterMap_append]
  conv_lhs => rw [hsplit, List.filterMap_append, List.filterMap_cons]
  cases hsaves : write.saves messageId with
  | none => rfl
  | some message =>
    have hnone : (c.writes.take position).filterMap (MessageWrite.saves messageId) = [] := by
      rw [List.filterMap_eq_nil_iff]
      intro earlier hearlier
      by_contra hne
      obtain ⟨saved, hsaved⟩ := Option.ne_none_iff_exists'.mp hne
      have hall := List.all_eq_true.mp (List.all_eq_true.mp hturn earlier hearlier) messageId
        (messageId_mem_of_saves hsaved).1
      exact of_decide_eq_true hall (messageId_mem_of_saves hsaves).1
    rw [hnone]
    rfl

theorem Records.settleWrite (h : c.Records shown) {position : Nat} {completes : Bool} (now : Nat)
    (hdone : completes = true ∨ ∀ write, c.writes[position]? = some write →
      shown.messageId ∉ write.messageIds) :
    (c.settleWrite position completes now).Records shown := by
  unfold Conversations.settleWrite
  split
  · exact h
  · rename_i write hwrite
    split
    · exact h
    · rename_i hturn
      rw [Bool.not_eq_false] at hturn
      have hwrites := filterMap_eraseIdx_of_turn hwrite hturn shown.messageId
      have hversions : c.versions shown.messageId = (c.row shown.messageId).toList ++
          ((write.saves shown.messageId).toList ++
            (c.writes.eraseIdx position).filterMap (MessageWrite.saves shown.messageId)) := by
        rw [← hwrites]
        rfl
      have hne : c.versions shown.messageId ≠ [] := by
        intro hnil
        have hlast := h.last
        rw [hnil] at hlast
        cases hlast
      have hmem := List.mem_of_getElem? hwrite
      have hsub : ∀ w ∈ c.writes.eraseIdx position, w ∈ c.writes :=
        fun w hw => List.mem_of_mem_eraseIdx hw
      dsimp only
      split
      · cases hsaves : write.saves shown.messageId with
        | none =>
          obtain ⟨hrow, hkept⟩ := perform_of_other
            (c := { c with writes := c.writes.eraseIdx position }) now hsaves
            (h.spared write hmem) h.kept
          have hsame : ({ c with writes := c.writes.eraseIdx position }.perform now
              write).versions shown.messageId = c.versions shown.messageId := by
            rw [hversions, hsaves]
            unfold versions
            rw [hrow, writes_perform]
            rfl
          refine h.of_suffix hkept ?_ ?_ ?_
          · rw [writes_perform]
            exact hsub
          · rw [hsame]
          · rw [hsame]
            exact hne
        | some message =>
          obtain ⟨hrow, hkept⟩ := perform_of_saves
            (c := { c with writes := c.writes.eraseIdx position }) now hsaves h.kept
          have hsame : ({ c with writes := c.writes.eraseIdx position }.perform now
              write).versions shown.messageId = message ::
                (c.writes.eraseIdx position).filterMap (MessageWrite.saves shown.messageId) := by
            unfold versions
            rw [hrow, writes_perform]
            rfl
          refine h.of_suffix hkept ?_ ?_ ?_
          · rw [writes_perform]
            exact hsub
          · rw [hsame, hversions, hsaves]
            exact List.suffix_append _ _
          · rw [hsame]
            exact List.cons_ne_nil _ _
      · rename_i hfails
        have hother := hdone.resolve_left hfails write hwrite
        have hsaves : write.saves shown.messageId = none := by
          by_contra hsome
          obtain ⟨message, hsaved⟩ := Option.ne_none_iff_exists'.mp hsome
          exact hother (messageId_mem_of_saves hsaved).1
        have hsame : ({ c with writes := c.writes.eraseIdx position }).versions
            shown.messageId = c.versions shown.messageId := by
          rw [hversions, hsaves]
          rfl
        refine h.of_suffix h.kept hsub ?_ ?_
        · rw [hsame]
        · rw [hsame]
          exact hne

theorem Keeps.settleWrite (h : c.Keeps shown) {position : Nat} {completes : Bool} (now : Nat)
    (hdone : completes = true ∨ ∀ write, c.writes[position]? = some write →
      shown.messageId ∉ write.messageIds) :
    (c.settleWrite position completes now).Keeps shown :=
  ⟨h.shows.congr (window_settleWrite c position completes now), h.records.settleWrite now hdone⟩

theorem Records.appendMessage (h : c.Records shown) {message : MessageSummary}
    (hne : message.messageId ≠ shown.messageId) : (c.appendMessage message).Records shown :=
  (h.setWindow _ _).persist_of_ne hne

theorem Keeps.of_appendMessage {message : MessageSummary}
    (hunknown : ∀ contactId, ∀ other ∈ c.window contactId, other.messageId ≠ message.messageId)
    (hrow : c.row message.messageId = none)
    (hkept : c.tombstones.get? message.messageId = none)
    (hwrites : ∀ write ∈ c.writes, message.messageId ∉ write.messageIds)
    (hroom : c.HasRoom message.messageId 1)
    (hmem : message ∈ (c.appendMessage message).window message.contactId) :
    (c.appendMessage message).Keeps message := by
  have hnone : c.versions message.messageId = [] := by
    unfold versions
    rw [hrow, Option.toList_none, List.nil_append, List.filterMap_eq_nil_iff]
    intro write hwrite
    by_contra hsome
    obtain ⟨saved, hsaved⟩ := Option.ne_none_iff_exists'.mp hsome
    exact hwrites write hwrite (messageId_mem_of_saves hsaved).1
  have hversions : (c.appendMessage message).versions message.messageId = [message] := by
    have hpersist := versions_persist_self (c := c.setWindow message.contactId <| bounded <|
      orderConversationMessages <| (c.window message.contactId).filter
        (fun existing => existing.messageId ≠ message.messageId) ++ [message]) (n := 0) hroom
    change _ = c.versions message.messageId ++ [message] at hpersist
    rw [hnone] at hpersist
    exact hpersist
  refine ⟨⟨hmem, ?_⟩, ?_, ?_, ?_, ?_, ?_⟩
  · intro contactId other hother hid
    unfold Conversations.appendMessage at hother
    rw [window_persist, window_setWindow] at hother
    split at hother
    · rename_i heq
      refine ⟨heq, ?_⟩
      have hother := (List.mem_insertionSort _).mp (List.mem_of_mem_drop hother)
      rcases List.mem_append.mp hother with hother | hother
      · exact absurd hid (of_decide_eq_true (List.mem_filter.mp hother).2)
      · exact List.mem_singleton.mp hother
    · exact absurd hid (hunknown contactId other hother)
  · unfold Conversations.appendMessage persistMessageInOrder
    split
    · exact hkept
    · exact hkept
  · intro write hwrite herases
    unfold Conversations.appendMessage persistMessageInOrder at hwrite
    split at hwrite
    · exact hwrites write hwrite (messageId_mem_of_erases herases)
    · rcases List.mem_append.mp hwrite with hwrite | hwrite
      · exact hwrites write hwrite (messageId_mem_of_erases herases)
      · rw [List.mem_singleton.mp hwrite] at herases
        exact List.not_mem_nil herases
  · intro version hversion
    rw [hversions] at hversion
    rw [List.mem_singleton.mp hversion]
  · rw [hversions]
    exact List.pairwise_singleton _ _
  · rw [hversions]
    rfl

theorem Records.snoc (h : c.Records shown)
    (hother : shown.messageId ∉ write.messageIds) :
    { c with writes := c.writes ++ [write] }.Records shown := by
  have hsaves : write.saves shown.messageId = none := by
    by_contra hsome
    obtain ⟨message, hsaved⟩ := Option.ne_none_iff_exists'.mp hsome
    exact hother (messageId_mem_of_saves hsaved).1
  have hversions : { c with writes := c.writes ++ [write] }.versions shown.messageId =
      c.versions shown.messageId := by
    simp [versions, row, List.filterMap_append, hsaves]
  refine ⟨h.kept, ?_, ?_, ?_, ?_⟩
  · intro other hmem herases
    rcases List.mem_append.mp hmem with hmem | hmem
    · exact h.spared other hmem herases
    · rw [List.mem_singleton.mp hmem] at herases
      exact hother (messageId_mem_of_erases herases)
  · rw [hversions]
    exact h.same
  · rw [hversions]
    exact h.ordered
  · rw [hversions]
    exact h.last

theorem Records.retryUnavailableMessage (h : c.Records shown) {previousMessageId : String}
    {replacement : MessageSummary} {c' : Conversations}
    (hretry : c.retryUnavailableMessage contactId previousMessageId replacement = some c')
    (hprevious : previousMessageId ≠ shown.messageId)
    (hreplacement : replacement.messageId ≠ shown.messageId) : c'.Records shown := by
  unfold Conversations.retryUnavailableMessage at hretry
  split at hretry
  · cases hretry
  · split at hretry
    · rw [← Option.some.inj hretry]
      unfold persistRetriedMessageInOrder
      split
      · exact h.setWindow _ _
      · refine (h.setWindow _ _).snoc ?_
        simp [MessageWrite.messageIds, hprevious.symm, hreplacement.symm]
    · cases hretry

theorem Keeps.deleteMessagesLocally (h : c.Keeps shown) {messageIds : List String}
    (hother : shown.messageId ∉ messageIds) :
    (c.deleteMessagesLocally contactId messageIds).Keeps shown := by
  have hwanted : shown.messageId ∉ wanted messageIds :=
    fun hmem => hother (List.mem_of_mem_filter (List.mem_of_mem_take hmem))
  unfold Conversations.deleteMessagesLocally
  split
  · exact h
  · refine ⟨Shows.congr (c := c.setWindow contactId _) ?_ fun _ => rfl,
      (h.records.setWindow contactId _).snoc ?_⟩
    · refine ⟨?_, ?_⟩
      · rw [window_setWindow]
        split
        · rename_i heq
          exact List.mem_filter.mpr ⟨heq ▸ h.shows.mem, decide_eq_true hwanted⟩
        · exact h.shows.mem
      · intro contactId' other hmem hid
        rw [window_setWindow] at hmem
        split at hmem
        · rename_i heq
          exact h.shows.unique contactId' other (heq ▸ List.mem_of_mem_filter hmem) hid
        · exact h.shows.unique contactId' other hmem hid
    · intro hmem
      have hmem := List.mem_dedup.mp (List.mem_of_mem_take hmem)
      obtain ⟨message, hmessage, hid⟩ := List.mem_map.mp hmem
      have hwant : decide (message.messageId ∈ wanted messageIds) = true :=
        (List.mem_filter.mp hmessage).2
      rw [hid] at hwant
      exact hwanted (of_decide_eq_true hwant)

theorem window_clearWindow (contactId' : String) :
    (c.clearWindow contactId).window contactId' =
      if contactId' = contactId then [] else c.window contactId' := by
  unfold window clearWindow
  rw [Table.get?_erase]
  split
  · rfl
  · rfl

theorem Keeps.clearWindow (h : c.Keeps shown) (hother : contactId ≠ shown.contactId) :
    (c.clearWindow contactId).Keeps shown := by
  refine ⟨⟨?_, fun contactId' other hmem hid => ?_⟩, ⟨h.records.kept, h.records.spared,
    h.records.same, h.records.ordered, h.records.last⟩⟩
  · rw [window_clearWindow, if_neg hother.symm]
    exact h.shows.mem
  · rw [window_clearWindow] at hmem
    split at hmem
    · cases hmem
    · exact h.shows.unique contactId' other hmem hid

theorem Keeps.of_rows (h : c.Keeps shown) {c' : Conversations}
    (hwindow : ∀ contactId, c'.window contactId = c.window contactId)
    (hwrites : c'.writes = c.writes) (hrow : c'.row shown.messageId = c.row shown.messageId)
    (hkept : c'.tombstones.get? shown.messageId = none) : c'.Keeps shown := by
  have hversions : c'.versions shown.messageId = c.versions shown.messageId := by
    unfold versions
    rw [hrow, hwrites]
  refine ⟨h.shows.congr hwindow, hkept, ?_, ?_, ?_, ?_⟩
  · rw [hwrites]
    exact h.records.spared
  · rw [hversions]
    exact h.records.same
  · rw [hversions]
    exact h.records.ordered
  · rw [hversions]
    exact h.records.last

theorem Keeps.storeVerifiedImageMessage (h : c.Keeps shown) {image : ImageMessageProjection}
    (hne : image.messageId ≠ shown.messageId) :
    (c.storeVerifiedImageMessage image).Keeps shown := by
  refine h.of_rows (fun _ => rfl) rfl ?_ h.records.kept
  unfold Conversations.storeVerifiedImageMessage row
  rw [Table.get?_insert_of_ne _ _ hne.symm]

theorem notMem_contactRows
    (hother : ∀ entry, c.timeline.get? messageId = some entry → entry.contactId ≠ contactId) :
    messageId ∉ (c.timeline.toList.filter fun row =>
      row.2.contactId = contactId).map Prod.fst := by
  intro hmem
  obtain ⟨⟨messageId, entry⟩, hentry, rfl⟩ := List.mem_map.mp hmem
  obtain ⟨hmem, hcontact⟩ := List.mem_filter.mp hentry
  rw [Table.mem_toList_iff] at hmem
  exact hother entry hmem (of_decide_eq_true hcontact)

theorem row_deleteStoredMessagesForContact (deletedAt : Nat)
    (hother : ∀ entry, c.timeline.get? messageId = some entry → entry.contactId ≠ contactId)
    (hkept : c.tombstones.get? messageId = none) :
    (c.deleteStoredMessagesForContact contactId deletedAt).row messageId = c.row messageId :=
  (deleteStoredMessages_of_notMem deletedAt (notMem_contactRows hother) hkept).1

theorem Keeps.deleteStoredMessagesForContact (h : c.Keeps shown) (deletedAt : Nat)
    (hother : ∀ entry, c.timeline.get? shown.messageId = some entry →
      entry.contactId ≠ contactId) :
    (c.deleteStoredMessagesForContact contactId deletedAt).Keeps shown := by
  obtain ⟨hsame, hkept⟩ := deleteStoredMessages_of_notMem deletedAt (notMem_contactRows hother)
    h.records.kept
  exact h.of_rows (fun _ => rfl) rfl hsame hkept

end Operations

section Rows

variable {c : Conversations} {shown : MessageSummary} {messageId : String}

@[simp] theorem timeline_persist (c : Conversations) (message : MessageSummary) :
    (c.persistMessageInOrder message).timeline = c.timeline := by
  unfold persistMessageInOrder
  split
  · rfl
  · rfl

@[simp] theorem timeline_setMessageDeliveryState (c : Conversations)
    (contactId messageId : String) (state : MessageDeliveryState) :
    (c.setMessageDeliveryState contactId messageId state).timeline = c.timeline := by
  unfold Conversations.setMessageDeliveryState
  split
  · rfl
  · rw [timeline_persist]
    rfl

@[simp] theorem timeline_appendMessage (c : Conversations) (message : MessageSummary) :
    (c.appendMessage message).timeline = c.timeline :=
  timeline_persist (c.setWindow _ _) message

theorem timeline_retryUnavailableMessage {contactId previousMessageId : String}
    {replacement : MessageSummary} {c' : Conversations}
    (h : c.retryUnavailableMessage contactId previousMessageId replacement = some c') :
    c'.timeline = c.timeline := by
  unfold Conversations.retryUnavailableMessage at h
  split at h
  · cases h
  · split at h
    · rw [← Option.some.inj h]
      unfold persistRetriedMessageInOrder
      split
      · rfl
      · rfl
    · cases h

@[simp] theorem timeline_deleteMessagesLocally (c : Conversations) (contactId : String)
    (messageIds : List String) :
    (c.deleteMessagesLocally contactId messageIds).timeline = c.timeline := by
  unfold Conversations.deleteMessagesLocally
  split
  · rfl
  · rfl

/-- The database has the message in a state that is no weaker than before. -/
def Retains (c c' : Conversations) (messageId : String) : Prop :=
  ∀ version, c.row messageId = some version → ∃ version', c'.row messageId = some version' ∧
    strength version.deliveryState ≤ strength version'.deliveryState

theorem retains_of_row_eq {c' : Conversations} (h : c'.row messageId = c.row messageId) :
    c.Retains c' messageId :=
  fun version hversion => ⟨version, h.trans hversion, Nat.le_refl _⟩

theorem retains_of_timeline_eq {c' : Conversations} (h : c'.timeline = c.timeline)
    (messageId : String) : c.Retains c' messageId := by
  apply retains_of_row_eq
  unfold row
  rw [h]

theorem Retains.trans {c' c'' : Conversations} (h : c.Retains c' messageId)
    (h' : c'.Retains c'' messageId) : c.Retains c'' messageId := by
  intro version hversion
  obtain ⟨version', hversion', hle⟩ := h version hversion
  obtain ⟨version'', hversion'', hle'⟩ := h' version' hversion'
  exact ⟨version'', hversion'', hle.trans hle'⟩

theorem Records.retains_settleWrite (h : c.Records shown) (position : Nat) (completes : Bool)
    (now : Nat) : c.Retains (c.settleWrite position completes now) shown.messageId := by
  unfold Conversations.settleWrite
  split
  · exact retains_of_row_eq rfl
  · rename_i write hwrite
    split
    · exact retains_of_row_eq rfl
    · dsimp only
      split
      · have hmem := List.mem_of_getElem? hwrite
        cases hsaves : write.saves shown.messageId with
        | none =>
          exact retains_of_row_eq (perform_of_other
            (c := { c with writes := c.writes.eraseIdx position }) now hsaves
            (h.spared write hmem) h.kept).1
        | some message =>
          intro version hversion
          refine ⟨message, (perform_of_saves
            (c := { c with writes := c.writes.eraseIdx position }) now hsaves h.kept).1, ?_⟩
          have hordered := h.ordered
          unfold versions at hordered
          rw [hversion] at hordered
          refine List.rel_of_pairwise_cons hordered ?_
          exact List.mem_filterMap.mpr ⟨write, hmem, hsaves⟩
      · exact retains_of_row_eq rfl

theorem Records.row_eq (h : c.Records shown)
    (hdone : shown.messageId ∉ c.messagePersistenceChains) :
    c.row shown.messageId = some shown := by
  have hnone : c.writes.filterMap (MessageWrite.saves shown.messageId) = [] := by
    rw [List.filterMap_eq_nil_iff]
    intro write hwrite
    by_contra hsome
    obtain ⟨message, hsaved⟩ := Option.ne_none_iff_exists'.mp hsome
    refine hdone (List.mem_dedup.mpr (List.mem_flatMap.mpr ⟨write, hwrite, ?_⟩))
    exact (messageId_mem_of_saves hsaved).1
  have hlast := h.last
  unfold versions at hlast
  rw [hnone, List.append_nil] at hlast
  cases hrow : c.row shown.messageId with
  | none =>
    rw [hrow] at hlast
    cases hlast
  | some version =>
    rw [hrow] at hlast
    exact hlast

end Rows

end Conversations

end Branch.Pwa
