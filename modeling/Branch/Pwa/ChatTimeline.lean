import Branch.Lib.KeysetPages
import Branch.Lib.Utf16
import Mathlib.Data.List.Lex
import Mathlib.Data.Prod.Lex
import Mathlib.Data.Rat.Init
import Mathlib.Algebra.Order.Ring.Rat
import Mathlib.Data.Sum.Order

/-!
The timeline of a chat as the browser's database has it, and how it is read in pages. What is
stored need not be what was meant to be.
-/

namespace Branch.Pwa.Timeline

open Branch.Lib

def initialConversationTimelineEntries : Nat := 64

def maxSafeInteger : Nat := 2 ^ 53 - 1

section Stored

/-- What a record may have in an index. Dates, bytes and lists, which an index takes as well, are
left out. -/
inductive StoredKey where
  | number (value : ℚ)
  | text (value : String)
  deriving DecidableEq

inductive StoredValue where
  | absent
  | key (value : StoredKey)
  | other
  deriving DecidableEq

abbrev StoredValue.number (value : ℚ) : StoredValue := .key (.number value)

abbrev StoredValue.text (value : String) : StoredValue := .key (.text value)

structure StoredMessage where
  messageId : StoredValue
  contactId : StoredValue
  body : StoredValue
  sentAt : StoredValue
  direction : StoredValue
  deliveryState : StoredValue
  deriving DecidableEq

structure StoredImage where
  messageId : StoredValue
  contactId : StoredValue
  direction : StoredValue
  sentAt : StoredValue
  mediaType : StoredValue
  byteCount : StoredValue
  width : StoredValue
  height : StoredValue
  replyToMessageId : StoredValue
  deriving DecidableEq

structure TimelineRecord where
  contactId : StoredKey
  sentAt : StoredKey
  messageId : StoredKey
  kind : StoredValue
  message : Option StoredMessage
  image : Option StoredImage
  deriving DecidableEq

/-- Numbers come before texts, and texts are in the order of their 16-bit units. -/
def StoredKey.order : StoredKey → ℚ ⊕ₗ List Nat
  | number value => toLex (.inl value)
  | text value => toLex (.inr ((Utf16.units value).map UInt16.toNat))

abbrev ChronologyKey := (ℚ ⊕ₗ List Nat) ×ₗ (ℚ ⊕ₗ List Nat) ×ₗ (ℚ ⊕ₗ List Nat)

def chronologyKey (contactId sentAt messageId : StoredKey) : ChronologyKey :=
  toLex (contactId.order, toLex (sentAt.order, messageId.order))

def TimelineRecord.key (record : TimelineRecord) : ChronologyKey :=
  chronologyKey record.contactId record.sentAt record.messageId

/-- The records of the index `byContactChronology`, in its order. -/
structure ChatTimeline where
  records : List TimelineRecord
  sorted : records.Pairwise fun left right => left.key < right.key

end Stored

section Valid

def validMessageId : StoredValue → Bool
  | .key (.text value) => 0 < (Utf16.units value).length && (Utf16.units value).length ≤ 128
  | _ => false

def validContactId (value : StoredValue) : Bool := validMessageId value

def isSafeInteger (value : ℚ) : Bool :=
  value.den = 1 && -(maxSafeInteger : ℤ) ≤ value.num && value.num ≤ maxSafeInteger

def validTimestamp : StoredValue → Bool
  | .key (.number value) => isSafeInteger value && 0 ≤ value
  | _ => false

def isText : StoredValue → Bool
  | .key (.text _) => true
  | _ => false

def validMessageSummary (message : StoredMessage) : Bool :=
  validMessageId message.messageId && validContactId message.contactId && isText message.body &&
    validTimestamp message.sentAt &&
    (message.direction = .text "incoming" || message.direction = .text "outgoing" ||
      message.direction = .text "service") &&
    (message.deliveryState = .text "pending" || message.deliveryState = .text "relayed" ||
      message.deliveryState = .text "delivered" || message.deliveryState = .text "read" ||
      message.deliveryState = .text "received" || message.deliveryState = .text "unavailable")

def boundedText (value : StoredValue) (maximumBytes : Nat) : Bool :=
  match value with
  | .key (.text value) => value.utf8ByteSize ≠ 0 && value.utf8ByteSize ≤ maximumBytes
  | _ => false

def validImageMessageMediaType (value : StoredValue) : Bool :=
  value = .text "image/jpeg" || value = .text "image/png" || value = .text "image/webp"

def positiveSafeInteger : StoredValue → Bool
  | .key (.number value) => isSafeInteger value && 0 < value
  | _ => false

/-- `[A-Za-z0-9_-]` -/
def tokenChar (c : Char) : Bool := c.isAlphanum || c = '_' || c = '-'

def optionalMessageId : StoredValue → Bool
  | .absent => true
  | .key (.text value) => value.toList.length = 22 && value.toList.all tokenChar
  | _ => false

/-- `width <= Number.MAX_SAFE_INTEGER / height`, of two positive safe integers. -/
def safeArea : StoredValue → StoredValue → Bool
  | .key (.number width), .key (.number height) => width * height ≤ maxSafeInteger
  | _, _ => false

def validImageMessageProjection (image : StoredImage) : Bool :=
  boundedText image.messageId 128 && boundedText image.contactId 128 &&
    (image.direction = .text "incoming" || image.direction = .text "outgoing") &&
    validTimestamp image.sentAt && validImageMessageMediaType image.mediaType &&
    positiveSafeInteger image.byteCount && positiveSafeInteger image.width &&
    positiveSafeInteger image.height && optionalMessageId image.replyToMessageId &&
    safeArea image.width image.height

def validTimelineLimit (value : Nat) : Bool :=
  0 < value && value ≤ initialConversationTimelineEntries

end Valid

section Pages

inductive TimelineContent where
  | text (message : StoredMessage)
  | image (image : StoredImage)
  deriving DecidableEq

structure ConversationTimelineEntry where
  content : TimelineContent
  messageId : String
  sentAt : ℚ
  deriving DecidableEq

structure ConversationTimelineCursor where
  sentAt : ℚ
  messageId : String

abbrev ConversationTimelinePage := KeysetPages.Page ConversationTimelineEntry

/-- The message or the image of a record, if it is what the record says. -/
def timelineContent (record : TimelineRecord) : Option TimelineContent :=
  if record.kind = .text "text" then
    (record.message.filter fun message =>
      validMessageSummary message && message.messageId = .key record.messageId &&
        message.sentAt = .key record.sentAt).map .text
  else if record.kind = .text "image" then
    (record.image.filter fun image =>
      validImageMessageProjection image && image.messageId = .key record.messageId &&
        image.sentAt = .key record.sentAt).map .image
  else none

def timelineEntry (record : TimelineRecord) : Option ConversationTimelineEntry :=
  match record.messageId, record.sentAt with
  | .text messageId, .number sentAt =>
    if validMessageId (.text messageId) ∧ validTimestamp (.number sentAt) then
      (timelineContent record).map fun content => { content, messageId, sentAt }
    else none
  | _, _ => none

/-- The callback of the cursor over the records, with the entries so far. -/
def readPage (limit : Nat) :
    List TimelineRecord → List ConversationTimelineEntry → ConversationTimelinePage
  | [], entries => { entries := (entries.take limit).reverse, hasOlder := limit < entries.length }
  | record :: rest, entries =>
    if limit + 1 ≤ entries.length then
      { entries := (entries.take limit).reverse, hasOlder := limit < entries.length }
    else readPage limit rest (entries ++ (timelineEntry record).toList)

def lowerBound (contactId : String) : ChronologyKey :=
  chronologyKey (.text contactId) (.number 0) (.text "")

def upperBound (contactId : String) : Option ConversationTimelineCursor → ChronologyKey
  | none => chronologyKey (.text contactId) (.number maxSafeInteger) (.text "\uFFFF")
  | some before => chronologyKey (.text contactId) (.number before.sentAt) (.text before.messageId)

def inRange (contactId : String) (before : Option ConversationTimelineCursor)
    (key : ChronologyKey) : Bool :=
  lowerBound contactId ≤ key &&
    if before.isSome then key < upperBound contactId before else key ≤ upperBound contactId before

def loadStoredTimelinePage (timeline : ChatTimeline) (contactId : String)
    (before : Option ConversationTimelineCursor) (limit : Nat) :
    Except String ConversationTimelinePage :=
  if ¬ validContactId (.text contactId) ∨ ¬ validTimelineLimit limit then
    .ok { entries := [], hasOlder := false }
  else if before.isSome ∧ upperBound contactId before ≤ lowerBound contactId then
    .error "DataError"
  else
    .ok (readPage limit
      (timeline.records.filter fun record => inRange contactId before record.key).reverse [])

def ConversationTimelineEntry.cursor (entry : ConversationTimelineEntry) :
    ConversationTimelineCursor where
  sentAt := entry.sentAt
  messageId := entry.messageId

/-- All valid entries of a contact, in the order of the index. -/
def ChatTimeline.entriesOf (timeline : ChatTimeline) (contactId : String) :
    List ConversationTimelineEntry :=
  (timeline.records.filter fun record => record.contactId = .text contactId).filterMap timelineEntry

end Pages

section Order

variable {contactId : String} {before : Option ConversationTimelineCursor}
  {record : TimelineRecord} {entry : ConversationTimelineEntry}

/-- Entries are in the order of their times, and those of one time in that of their ids. -/
def ConversationTimelineCursor.order (cursor : ConversationTimelineCursor) : ℚ ×ₗ List Nat :=
  toLex (cursor.sentAt, (Utf16.units cursor.messageId).map UInt16.toNat)

def lastCursor : ConversationTimelineCursor where
  sentAt := maxSafeInteger
  messageId := "\uFFFF"

theorem StoredKey.order_injective : Function.Injective StoredKey.order := by
  rintro (value | value) (value' | value') h
  · rw [Sum.inl.inj (toLex.injective h)]
  · exact absurd (toLex.injective h) Sum.inl_ne_inr
  · exact absurd (toLex.injective h) Sum.inr_ne_inl
  · have hunits := List.map_injective_iff.mpr
      (fun _ _ => UInt16.toNat_inj.mp) (Sum.inr.inj (toLex.injective h))
    rw [Utf16.units_injective hunits]

theorem upperBound_lt_iff {left right : ConversationTimelineCursor} :
    upperBound contactId (some left) < upperBound contactId (some right) ↔
      left.order < right.order := by
  simp only [upperBound, chronologyKey, StoredKey.order, ConversationTimelineCursor.order,
    Prod.Lex.toLex_lt_toLex, Sum.Lex.inl_lt_inl_iff, Sum.Lex.inr_lt_inr_iff, lt_irrefl, false_or,
    true_and, toLex_inj, Sum.inl.injEq]

theorem upperBound_le_iff {left right : ConversationTimelineCursor} :
    upperBound contactId (some left) ≤ upperBound contactId (some right) ↔
      left.order ≤ right.order := by
  rw [← not_lt, ← not_lt, upperBound_lt_iff]

theorem contactId_of_inRange (h : inRange contactId before record.key = true) :
    record.contactId = .text contactId := by
  simp only [inRange, Bool.and_eq_true, decide_eq_true_eq] at h
  obtain ⟨hlower, hupper⟩ := h
  have hle : record.key ≤ upperBound contactId before := by
    split at hupper
    · exact le_of_lt (of_decide_eq_true hupper)
    · exact of_decide_eq_true hupper
  have hfirst : ∀ {a b : ChronologyKey}, a ≤ b → (ofLex a).1 ≤ (ofLex b).1 := by
    intro a b hab
    rcases Prod.Lex.le_iff.mp hab with hlt | ⟨heq, -⟩
    · exact le_of_lt hlt
    · exact le_of_eq heq
  have hcontact : (ofLex (upperBound contactId before)).1 = (StoredKey.text contactId).order := by
    cases before <;> rfl
  apply StoredKey.order_injective
  exact le_antisymm (hcontact ▸ hfirst hle) (hfirst hlower)

theorem of_timelineEntry (h : timelineEntry record = some entry) :
    record.messageId = .text entry.messageId ∧ record.sentAt = .number entry.sentAt ∧
      validMessageId (.text entry.messageId) = true ∧
      validTimestamp (.number entry.sentAt) = true := by
  unfold timelineEntry at h
  split at h
  next messageId sentAt hmessageId hsentAt =>
    split at h
    next hvalid =>
      obtain ⟨content, -, rfl⟩ := Option.map_eq_some_iff.mp h
      exact ⟨hmessageId, hsentAt, hvalid⟩
    next => cases h
  next => cases h

theorem key_of_timelineEntry (h : timelineEntry record = some entry)
    (hcontact : record.contactId = .text contactId) :
    record.key = upperBound contactId (some entry.cursor) := by
  obtain ⟨hmessageId, hsentAt, -⟩ := of_timelineEntry h
  rw [TimelineRecord.key, hcontact, hmessageId, hsentAt]
  rfl

theorem timestamp_bounds {value : ℚ} (h : validTimestamp (.number value) = true) :
    0 ≤ value ∧ value ≤ maxSafeInteger := by
  simp only [validTimestamp, isSafeInteger, Bool.and_eq_true, decide_eq_true_eq] at h
  obtain ⟨⟨⟨hden, -⟩, hmax⟩, hnonneg⟩ := h
  refine ⟨hnonneg, ?_⟩
  rw [← (Rat.den_eq_one_iff value).mp hden]
  exact_mod_cast hmax

theorem lowerBound_lt (hmessageId : validMessageId (.text entry.messageId) = true)
    (hsentAt : validTimestamp (.number entry.sentAt) = true) :
    lowerBound contactId < upperBound contactId (some entry.cursor) := by
  change upperBound contactId (some ⟨0, ""⟩) < _
  rw [upperBound_lt_iff]
  simp only [ConversationTimelineCursor.order, ConversationTimelineEntry.cursor,
    Prod.Lex.toLex_lt_toLex]
  rcases lt_or_eq_of_le (timestamp_bounds hsentAt).1 with hlt | heq
  · exact .inl hlt
  · refine .inr ⟨heq, ?_⟩
    simp only [validMessageId, Bool.and_eq_true, decide_eq_true_eq] at hmessageId
    cases hunits : Utf16.units entry.messageId with
    | nil => simp [hunits] at hmessageId
    | cons unit rest => exact List.nil_lt_cons _ _

/-- Whether an entry comes before a cursor, or before the end where there is none. -/
def within (before : Option ConversationTimelineCursor) (entry : ConversationTimelineEntry) :
    Bool :=
  if before.isSome then before.all fun cursor => entry.cursor.order < cursor.order
  else entry.cursor.order ≤ lastCursor.order

theorem inRange_eq (h : timelineEntry record = some entry) :
    inRange contactId before record.key =
      (decide (record.contactId = .text contactId) && within before entry) := by
  by_cases hcontact : record.contactId = .text contactId
  · obtain ⟨-, -, hmessageId, hsentAt⟩ := of_timelineEntry h
    have hlower : lowerBound contactId ≤ upperBound contactId (some entry.cursor) :=
      le_of_lt (lowerBound_lt hmessageId hsentAt)
    rw [decide_eq_true hcontact, Bool.true_and, inRange, key_of_timelineEntry h hcontact,
      decide_eq_true hlower, Bool.true_and, within]
    cases before with
    | none => exact decide_eq_decide.mpr (@upperBound_le_iff contactId entry.cursor lastCursor)
    | some cursor => exact decide_eq_decide.mpr upperBound_lt_iff
  · rw [decide_eq_false hcontact, Bool.false_and]
    exact Bool.eq_false_iff.mpr fun hrange => hcontact (contactId_of_inRange hrange)

theorem order_le_lastCursor_iff (hsentAt : validTimestamp (.number entry.sentAt) = true) :
    entry.cursor.order ≤ lastCursor.order ↔ (entry.sentAt = maxSafeInteger →
      (Utf16.units entry.messageId).map UInt16.toNat ≤
        (Utf16.units "\uFFFF").map UInt16.toNat) := by
  simp only [ConversationTimelineCursor.order, ConversationTimelineEntry.cursor, lastCursor,
    Prod.Lex.toLex_le_toLex]
  rcases lt_or_eq_of_le (timestamp_bounds hsentAt).2 with hlt | heq
  · exact iff_of_true (.inl hlt) fun heq => absurd heq (ne_of_lt hlt)
  · simp only [heq, lt_irrefl, false_or, true_and, true_implies]

end Order

section Reading

variable {timeline : ChatTimeline} {contactId : String} {limit : Nat}
  {before : Option ConversationTimelineCursor}

theorem readPage_eq (limit : Nat) (records : List TimelineRecord)
    (entries : List ConversationTimelineEntry) :
    readPage limit records entries =
      { entries := ((entries ++ records.filterMap timelineEntry).take limit).reverse
        hasOlder := limit < (entries ++ records.filterMap timelineEntry).length } := by
  induction records generalizing entries with
  | nil => rw [readPage, List.filterMap_nil, List.append_nil]
  | cons record rest ih =>
    rw [readPage]
    split
    next hfull =>
      rw [List.take_append_of_le_length (by omega), List.length_append,
        decide_eq_true (show limit < entries.length by omega), decide_eq_true (by omega)]
    next =>
      have hcons : (record :: rest).filterMap timelineEntry =
          (timelineEntry record).toList ++ rest.filterMap timelineEntry := by
        cases hentry : timelineEntry record with
        | none => rw [List.filterMap_cons_none hentry]; rfl
        | some entry => rw [List.filterMap_cons_some hentry]; rfl
      rw [ih, hcons, List.append_assoc]

theorem filterMap_filter_eq {α β : Type} {f : α → Option β} {p r : α → Bool} {q : β → Bool}
    (h : ∀ a b, f a = some b → p a = (r a && q b)) (list : List α) :
    (list.filter p).filterMap f = ((list.filter r).filterMap f).filter q := by
  induction list with
  | nil => rfl
  | cons a list ih =>
    cases hf : f a with
    | none => simp only [List.filter_cons]; split <;> split <;> simp [hf, ih]
    | some b =>
      have hp := h a b hf
      simp only [List.filter_cons, hp]
      cases hr : r a <;> cases hq : q b <;> simp [hf, hq, ih]

theorem loadStoredTimelinePage_eq (hcontact : validContactId (.text contactId) = true)
    (hlimit : validTimelineLimit limit = true)
    (hbefore : ∀ cursor ∈ before, ∃ entry ∈ timeline.entriesOf contactId,
      cursor = entry.cursor) :
    loadStoredTimelinePage timeline contactId before limit =
      .ok (KeysetPages.lastPage limit ((timeline.entriesOf contactId).filter (within before))) := by
  have hrange : ¬ (before.isSome ∧ upperBound contactId before ≤ lowerBound contactId) := by
    rintro ⟨hsome, hle⟩
    obtain ⟨cursor, rfl⟩ := Option.isSome_iff_exists.mp hsome
    obtain ⟨entry, hmem, rfl⟩ := hbefore cursor rfl
    obtain ⟨record, -, hentry⟩ := List.mem_filterMap.mp hmem
    obtain ⟨-, -, hmessageId, hsentAt⟩ := of_timelineEntry hentry
    exact absurd (lowerBound_lt hmessageId hsentAt) (not_lt_of_ge hle)
  rw [loadStoredTimelinePage, if_neg (by simp [hcontact, hlimit]), if_neg hrange, readPage_eq,
    List.nil_append, List.filterMap_reverse,
    filterMap_filter_eq (fun _ _ h => inRange_eq h) timeline.records]
  rw [KeysetPages.lastPage, List.take_reverse, List.reverse_reverse, List.length_reverse]
  rfl

theorem pairwise_entriesOf (timeline : ChatTimeline) (contactId : String) :
    (timeline.entriesOf contactId).Pairwise fun left right =>
      left.cursor.order < right.cursor.order := by
  rw [ChatTimeline.entriesOf, List.pairwise_filterMap]
  refine List.Pairwise.imp_of_mem ?_ (timeline.sorted.filter _)
  intro left right hleft hright hlt leftEntry hleftEntry rightEntry hrightEntry
  have hleftContact := of_decide_eq_true (List.mem_filter.mp hleft).2
  have hrightContact := of_decide_eq_true (List.mem_filter.mp hright).2
  rw [key_of_timelineEntry hleftEntry hleftContact,
    key_of_timelineEntry hrightEntry hrightContact, upperBound_lt_iff] at hlt
  exact hlt

end Reading

section Through

variable {timeline : ChatTimeline} {contactId : String} {limit : Nat}

/-- A page says that there are older entries exactly when there are. -/
def KnowsOlder (timeline : ChatTimeline) (contactId : String)
    (visit : Option ConversationTimelineCursor × ConversationTimelinePage) : Prop :=
  visit.2.hasOlder = true ↔ ∃ entry ∈ timeline.entriesOf contactId,
    (∀ cursor ∈ visit.1, entry.cursor.order < cursor.order) ∧
      ∀ newer ∈ visit.2.entries, entry.cursor.order < newer.cursor.order

/-- The pages of a chat, each read from the oldest entry of the last one, end, have every valid
entry once and in order, and know whether older ones remain. -/
def ReadsThrough (timeline : ChatTimeline) (contactId : String) (limit : Nat) : Prop :=
  ∃ pages, KeysetPages.Paging (loadStoredTimelinePage timeline contactId · limit)
      ConversationTimelineEntry.cursor none pages ∧
    KeysetPages.entriesOf pages = timeline.entriesOf contactId ∧
    (KeysetPages.entriesOf pages).Pairwise
      (fun left right => left.cursor.order < right.cursor.order) ∧
    ∀ visit ∈ pages, KnowsOlder timeline contactId visit

/-- No entry of a contact comes after the cursor from which a chat is read. -/
def WithinLastCursor (timeline : ChatTimeline) (contactId : String) : Prop :=
  ∀ entry ∈ timeline.entriesOf contactId, entry.sentAt = maxSafeInteger →
    (Utf16.units entry.messageId).map UInt16.toNat ≤ (Utf16.units "\uFFFF").map UInt16.toNat

theorem sentAt_of_mem_entriesOf {entry : ConversationTimelineEntry}
    (h : entry ∈ timeline.entriesOf contactId) :
    validTimestamp (.number entry.sentAt) = true := by
  obtain ⟨record, -, hentry⟩ := List.mem_filterMap.mp h
  exact (of_timelineEntry hentry).2.2.2

theorem withinLastCursor_iff : WithinLastCursor timeline contactId ↔
    ∀ entry ∈ timeline.entriesOf contactId, entry.cursor.order ≤ lastCursor.order :=
  forall₂_congr fun _ hmem => (order_le_lastCursor_iff (sentAt_of_mem_entriesOf hmem)).symm

abbrev olderThan (timeline : ChatTimeline) (contactId : String) :
    Option ConversationTimelineCursor → List ConversationTimelineEntry :=
  KeysetPages.olderThan ConversationTimelineCursor.order ConversationTimelineEntry.cursor
    (timeline.entriesOf contactId)

theorem knowsOlder_lastPage {before : Option ConversationTimelineCursor} (hlimit : 0 < limit) :
    KnowsOlder timeline contactId
      (before, KeysetPages.lastPage limit (olderThan timeline contactId before)) := by
  have hsorted : (olderThan timeline contactId before).Pairwise fun left right =>
      left.cursor.order < right.cursor.order :=
    (pairwise_entriesOf timeline contactId).filter _
  rw [KnowsOlder, KeysetPages.hasOlder_lastPage_iff hlimit hsorted]
  simp only [KeysetPages.mem_olderThan, and_assoc]

theorem within_eq_olderThan (h : WithinLastCursor timeline contactId)
    (before : Option ConversationTimelineCursor) :
    (timeline.entriesOf contactId).filter (within before) =
      olderThan timeline contactId before := by
  refine List.filter_congr fun entry hmem => ?_
  cases before with
  | none => exact decide_eq_true (withinLastCursor_iff.mp h entry hmem)
  | some cursor => rfl

theorem readsThrough_of_withinLastCursor (hcontact : validContactId (.text contactId) = true)
    (hlimit : validTimelineLimit limit = true) (hwithin : WithinLastCursor timeline contactId) :
    ReadsThrough timeline contactId limit := by
  have hpos : 0 < limit := by
    simp only [validTimelineLimit, Bool.and_eq_true, decide_eq_true_eq] at hlimit
    exact hlimit.1
  obtain ⟨pages, hpaging, hentries, hvisits⟩ := KeysetPages.exists_paging hpos
    (pairwise_entriesOf timeline contactId)
    (fun before hbefore => (loadStoredTimelinePage_eq hcontact hlimit hbefore).trans
      (by rw [within_eq_olderThan hwithin]))
    none (fun _ h => absurd h (Option.not_mem_none _))
  rw [KeysetPages.olderThan_none] at hentries
  refine ⟨pages, hpaging, hentries, hentries ▸ pairwise_entriesOf timeline contactId, ?_⟩
  rintro ⟨before, page⟩ hvisit
  rw [show page = _ from (hvisits _ hvisit).2]
  exact knowsOlder_lastPage hpos

theorem order_le_of_paging {before : Option ConversationTimelineCursor}
    {pages : List (Option ConversationTimelineCursor × ConversationTimelinePage)}
    (hcontact : validContactId (.text contactId) = true)
    (hlimit : validTimelineLimit limit = true)
    (hbefore : ∀ cursor ∈ before, cursor.order ≤ lastCursor.order ∧
      ∃ entry ∈ timeline.entriesOf contactId, cursor = entry.cursor)
    (h : KeysetPages.Paging (loadStoredTimelinePage timeline contactId · limit)
      ConversationTimelineEntry.cursor before pages) :
    ∀ entry ∈ KeysetPages.entriesOf pages, entry.cursor.order ≤ lastCursor.order := by
  have hpage : ∀ {before : Option ConversationTimelineCursor} {page : ConversationTimelinePage},
      (∀ cursor ∈ before, cursor.order ≤ lastCursor.order ∧
        ∃ entry ∈ timeline.entriesOf contactId, cursor = entry.cursor) →
      loadStoredTimelinePage timeline contactId before limit = .ok page →
      ∀ entry ∈ page.entries, entry ∈ timeline.entriesOf contactId ∧
        entry.cursor.order ≤ lastCursor.order := by
    intro before page hbefore hloaded entry hentry
    rw [loadStoredTimelinePage_eq hcontact hlimit fun cursor hcursor =>
      (hbefore cursor hcursor).2] at hloaded
    rw [← Except.ok.inj hloaded] at hentry
    obtain ⟨hmem, hin⟩ := List.mem_filter.mp (List.mem_of_mem_drop hentry)
    refine ⟨hmem, ?_⟩
    cases before with
    | none => exact of_decide_eq_true hin
    | some cursor =>
      exact le_of_lt (lt_of_lt_of_le (of_decide_eq_true hin) (hbefore cursor rfl).1)
  induction h with
  | last loaded isLast =>
    intro entry hentry
    rw [KeysetPages.entriesOf, List.reverse_singleton, List.flatMap_singleton] at hentry
    exact (hpage hbefore loaded entry hentry).2
  | more loaded hasOlder isOldest rest ih =>
    intro entry hentry
    rw [KeysetPages.entriesOf, List.reverse_cons, List.flatMap_append, List.mem_append,
      List.flatMap_singleton] at hentry
    have holdest := hpage hbefore loaded _ (List.mem_of_mem_head? isOldest)
    rcases hentry with hentry | hentry
    · refine ih ?_ entry hentry
      rintro cursor ⟨⟩
      exact ⟨holdest.2, _, holdest.1, rfl⟩
    · exact (hpage hbefore loaded entry hentry).2

theorem withinLastCursor_of_readsThrough (hcontact : validContactId (.text contactId) = true)
    (hlimit : validTimelineLimit limit = true) (h : ReadsThrough timeline contactId limit) :
    WithinLastCursor timeline contactId := by
  obtain ⟨pages, hpaging, hentries, -⟩ := h
  rw [withinLastCursor_iff, ← hentries]
  exact order_le_of_paging hcontact hlimit
    (fun _ h => absurd h (Option.not_mem_none _)) hpaging

theorem paging_of_invalid
    (h : ¬ (validContactId (.text contactId) = true ∧ validTimelineLimit limit = true)) :
    KeysetPages.Paging (loadStoredTimelinePage timeline contactId · limit)
      ConversationTimelineEntry.cursor none [(none, { entries := [], hasOlder := false })] := by
  refine .last ?_ rfl
  rw [loadStoredTimelinePage, if_pos]
  exact not_and_or.mp h

theorem readsThrough_iff_of_invalid
    (h : ¬ (validContactId (.text contactId) = true ∧ validTimelineLimit limit = true)) :
    ReadsThrough timeline contactId limit ↔ timeline.entriesOf contactId = [] := by
  constructor
  · rintro ⟨pages, hpaging, hentries, -⟩
    rw [← hentries, hpaging.unique (paging_of_invalid h)]
    rfl
  · intro hempty
    refine ⟨_, paging_of_invalid h, hempty.symm, .nil, ?_⟩
    intro visit hvisit
    rw [List.mem_singleton.mp hvisit, KnowsOlder, hempty]
    simp

/-- A chat is read through exactly if it is empty, or its contact and the limit are valid and no
entry of the last of all times has an id that comes after the last of all units. -/
theorem readsThrough_iff (timeline : ChatTimeline) (contactId : String) (limit : Nat) :
    ReadsThrough timeline contactId limit ↔ timeline.entriesOf contactId = [] ∨
      (validContactId (.text contactId) = true ∧ validTimelineLimit limit = true) ∧
        WithinLastCursor timeline contactId := by
  by_cases hvalid : validContactId (.text contactId) = true ∧ validTimelineLimit limit = true
  · constructor
    · exact fun h => .inr ⟨hvalid, withinLastCursor_of_readsThrough hvalid.1 hvalid.2 h⟩
    · rintro (hempty | ⟨-, hwithin⟩)
      · refine readsThrough_of_withinLastCursor hvalid.1 hvalid.2 fun entry hmem => ?_
        rw [hempty] at hmem
        cases hmem
      · exact readsThrough_of_withinLastCursor hvalid.1 hvalid.2 hwithin
  · rw [readsThrough_iff_of_invalid hvalid]
    exact ⟨.inl, fun h => h.resolve_right fun hr => hvalid hr.1⟩

def beyondMessage : StoredMessage where
  messageId := .text "\uFFFFa"
  contactId := .text "contact"
  body := .text "hello"
  sentAt := .number maxSafeInteger
  direction := .text "incoming"
  deliveryState := .text "received"

def beyondTimeline : ChatTimeline where
  records :=
    [{ contactId := .text "contact", sentAt := .number maxSafeInteger, messageId := .text "\uFFFFa"
       kind := .text "text", message := some beyondMessage, image := none }]
  sorted := List.pairwise_singleton _ _

theorem not_readsThrough_beyond : ¬ ReadsThrough beyondTimeline "contact" 64 := by
  intro h
  have hwithin := withinLastCursor_of_readsThrough (by decide +kernel) (by decide +kernel) h
  have hentry : ConversationTimelineEntry.mk (.text beyondMessage) "\uFFFFa" maxSafeInteger ∈
      beyondTimeline.entriesOf "contact" := by decide +kernel
  exact absurd (hwithin _ hentry rfl) (by decide +kernel)

end Through

end Branch.Pwa.Timeline
