import Branch.Lib.TableUnion
import Branch.Lib.Trace
import Branch.Pwa.Conversations

/-!
The stores of messages and images in the browser's database, and the store of the timeline that
is written beside them. The other stores that the same transactions write are not part of it.
Times are milliseconds, and numbers that are not natural ones are left out.
-/

namespace Branch.Pwa.TimelineStore

open Branch.Lib

section Records

inductive ImageMessageMediaType where
  | jpeg
  | png
  | webp
  deriving DecidableEq

inductive ImageDirection where
  | incoming
  | outgoing
  deriving DecidableEq

structure ImageMessageProjection where
  messageId : String
  contactId : String
  direction : ImageDirection
  sentAt : Nat
  mediaType : ImageMessageMediaType
  byteCount : Nat
  width : Nat
  height : Nat
  caption : Option String := none
  replyToMessageId : Option String := none
  deriving DecidableEq

structure StoredProjection extends ImageMessageProjection where
  storedAt : Nat
  deriving DecidableEq

structure StoredImageMedia where
  messageId : String
  mediaType : ImageMessageMediaType
  bytes : List UInt8
  deriving DecidableEq

inductive TimelineContent where
  | text (message : MessageSummary)
  | image (image : ImageMessageProjection)
  deriving DecidableEq

structure TimelineRecord where
  messageId : String
  applicationMessageId : Option String := none
  contactId : String
  sentAt : Nat
  content : TimelineContent
  deriving DecidableEq

def TimelineRecord.isImage (record : TimelineRecord) : Bool :=
  match record.content with
  | .text _ => false
  | .image _ => true

structure Database where
  messages : Table String MessageSummary := .empty
  timeline : Table String TimelineRecord := .empty
  tombstones : Table String Nat := .empty
  projections : Table String StoredProjection := .empty
  media : Table String StoredImageMedia := .empty

end Records

section Upgrade

/-- The record that the upgrade of the schema builds for a stored message. -/
def upgradedMessage (message : MessageSummary) : TimelineRecord where
  messageId := message.messageId
  applicationMessageId := some (message.applicationMessageId.getD message.messageId)
  contactId := message.contactId
  sentAt := message.sentAt
  content := .text message

/-- The record that the upgrade builds for a stored image, without the time of its storage. -/
def upgradedImage (image : StoredProjection) : TimelineRecord where
  messageId := image.messageId
  applicationMessageId := some image.messageId
  contactId := image.contactId
  sentAt := image.sentAt
  content := .image image.toImageMessageProjection

/-- The timeline has a record for each message and each image, as the upgrade would build it, and
no other one. -/
def Mirrored (db : Database) : Prop :=
  IsUnion upgradedMessage upgradedImage db.messages db.projections db.timeline

def upgradedRows (db : Database) : List (String × TimelineRecord) :=
  (db.messages.toList.map fun row => (row.1, upgradedMessage row.2)) ++
    db.projections.toList.map fun row => (row.1, upgradedImage row.2)

/-- The upgrade of a database without a timeline, whose cursors come to the rows in some order. -/
def upgrade (db : Database) (rows : List (String × TimelineRecord)) : Database :=
  { db with timeline := Table.empty.insertAll rows }

end Upgrade

section Messages

def timelineRecordForMessage (message : MessageSummary) : TimelineRecord where
  messageId := message.messageId
  applicationMessageId := some (message.applicationMessageId.getD message.messageId)
  contactId := message.contactId
  sentAt := message.sentAt
  content := .text message

def saveStoredMessage (db : Database) (message : MessageSummary) : Database :=
  match db.tombstones.get? message.messageId with
  | some _ => db
  | none =>
    { db with
      messages := db.messages.insert message.messageId message
      timeline := db.timeline.insert message.messageId (timelineRecordForMessage message) }

def uniqueMessageIds (messageIds : List String) : List String :=
  (messageIds.eraseDups.filter fun messageId => messageId ≠ "").take
    maxStoredLocalDeletionTombstones

/-- The tombstones after a cursor from the newest one on has gone through them from a place on,
when `retained` ones were in front of the place. -/
def trimTombstones (place : Option (Nat × String)) (retained : Nat)
    (tombstones : Table String Nat) : Table String Nat :=
  tombstones.filter fun messageId deletedAt =>
    let comes := fun tombstone : Nat × String => place.all fun place =>
      ¬ chronological place tombstone
    ¬ comes (deletedAt, messageId) ||
      retained + tombstones.toList.countP (fun newer => comes (newer.2, newer.1) &&
        ¬ chronological (newer.2, newer.1) (deletedAt, messageId)) <
          maxStoredLocalDeletionTombstones

def deleteStoredMessagesLocally (db : Database) (messageIds : List String) (deletedAt : Nat) :
    Database :=
  let messageIds := uniqueMessageIds messageIds
  if messageIds = [] then db else
  { db with
    messages := db.messages.eraseAll messageIds
    timeline := db.timeline.eraseAll messageIds
    tombstones := trimTombstones none 0
      (db.tombstones.insertAll (messageIds.map fun messageId => (messageId, deletedAt))) }

def replaceStoredMessageForRetry (db : Database) (previousMessageId : String)
    (replacement : MessageSummary) : Database :=
  { db with
    messages := (db.messages.erase previousMessageId).insert replacement.messageId replacement
    timeline := (db.timeline.erase previousMessageId).insert replacement.messageId
      (timelineRecordForMessage replacement) }

def nextTombstone (place : Option (Nat × String)) (tombstones : Table String Nat) :
    Option (Nat × String) :=
  (((tombstones.toList.map fun tombstone => (tombstone.2, tombstone.1)).filter fun tombstone =>
    place.all fun place => ¬ chronological place tombstone).insertionSort fun left right =>
      chronological right left).head?

/-- The cursor through the messages and the one through the tombstones take turns, and the second
one is ahead of the tombstone that is put for the message of its turn. -/
def buryMessages (deletedAt : Nat) :
    List String → Option (Nat × String) → Nat → Table String Nat → Table String Nat
  | [], place, retained, tombstones => trimTombstones place retained tombstones
  | messageId :: messageIds, place, retained, tombstones =>
    match nextTombstone place tombstones with
    | none =>
      -- The second cursor is at its end, and what is put from now on stays.
      (tombstones.insertAll ((messageId :: messageIds).map fun messageId =>
        (messageId, deletedAt)))
    | some tombstone =>
      let retained := retained + 1
      let buried := tombstones.insert messageId deletedAt
      buryMessages deletedAt messageIds (some tombstone) retained
        (if maxStoredLocalDeletionTombstones < retained then buried.erase tombstone.2 else buried)

/-- The messages of a contact, in the order of the index `byContactId`. -/
def messageIdsOfContact (db : Database) (contactId : String) : List String :=
  ((db.messages.toList.filter fun row => row.2.contactId = contactId).map Prod.fst).insertionSort
    fun left right => ¬ Utf16.units right < Utf16.units left

def deleteStoredMessagesForContact (db : Database) (contactId : String) (deletedAt : Nat) :
    Database :=
  let messageIds := messageIdsOfContact db contactId
  { db with
    messages := db.messages.eraseAll messageIds
    timeline := db.timeline.eraseAll messageIds
    tombstones := buryMessages deletedAt messageIds none 0 db.tombstones }

end Messages

section Images

def maxStoredImageMediaBytes : Nat := 64 * 1024 * 1024

def maxImageMessageProjections : Nat := 256

def maxSafeInteger : Nat := 2 ^ 53 - 1

inductive StoreVerifiedImageMessageResult where
  | stored
  | already_stored
  | capacity_exceeded
  | conflict
  | invalid
  deriving DecidableEq

def boundedText (value : String) (maximumBytes : Nat) : Bool :=
  0 < value.length && value.utf8ByteSize ≤ maximumBytes

def validTimestamp (value : Nat) : Bool := value ≤ maxSafeInteger

def positiveSafeInteger (value : Nat) : Bool := value ≤ maxSafeInteger && 0 < value

/-- `[A-Za-z0-9_-]` -/
def tokenChar (c : Char) : Bool := c.isAlphanum || c = '_' || c = '-'

def optionalMessageId (value : Option String) : Bool :=
  value.all fun value => value.length = 22 && value.toList.all tokenChar

def validImageMessageProjection (value : ImageMessageProjection) : Bool :=
  boundedText value.messageId 128 && boundedText value.contactId 128 &&
    validTimestamp value.sentAt && positiveSafeInteger value.byteCount &&
    positiveSafeInteger value.width && positiveSafeInteger value.height &&
    optionalMessageId value.replyToMessageId && value.width ≤ maxSafeInteger / value.height

def storedProjection (value : StoredProjection) : Option StoredProjection :=
  if validImageMessageProjection value.toImageMessageProjection && validTimestamp value.storedAt
    then some value else none

def sameProjection (left right : ImageMessageProjection) : Bool :=
  left.messageId = right.messageId && left.contactId = right.contactId &&
    left.direction = right.direction && left.sentAt = right.sentAt &&
    left.mediaType = right.mediaType && left.byteCount = right.byteCount &&
    left.width = right.width && left.height = right.height

def currentProjections (db : Database) : List StoredProjection :=
  db.projections.toList.filterMap fun row => storedProjection row.2

def storedBytes (db : Database) : Nat := ((currentProjections db).map (·.byteCount)).sum

def storeVerifiedResult (db : Database) (projection : ImageMessageProjection)
    (bytes : List UInt8) : StoreVerifiedImageMessageResult :=
  if ¬ validImageMessageProjection projection || bytes.length ≠ projection.byteCount ||
      maxStoredImageMediaBytes < projection.byteCount then .invalid
  else
    match (db.projections.get? projection.messageId).bind storedProjection with
    | some existing =>
      if sameProjection existing.toImageMessageProjection projection then .already_stored
      else .conflict
    | none =>
      if maxImageMessageProjections ≤ (currentProjections db).length ||
          maxStoredImageMediaBytes < storedBytes db + projection.byteCount then .capacity_exceeded
      else .stored

def storeVerifiedImageMessage (db : Database) (projection : ImageMessageProjection)
    (bytes : List UInt8) (now : Nat) : Database × StoreVerifiedImageMessageResult :=
  match storeVerifiedResult db projection bytes with
  | .stored =>
    ({ db with
      projections := db.projections.insert projection.messageId
        { toImageMessageProjection := projection, storedAt := now }
      media := db.media.insert projection.messageId
        { messageId := projection.messageId, mediaType := projection.mediaType, bytes }
      timeline := db.timeline.insert projection.messageId
        { messageId := projection.messageId
          contactId := projection.contactId
          sentAt := projection.sentAt
          content := .image projection } }, .stored)
  | result => (db, result)

def deleteProjections (db : Database) (messageIds : List String) : Database :=
  { db with
    projections := db.projections.eraseAll messageIds
    media := db.media.eraseAll messageIds
    timeline := db.timeline.eraseAll messageIds }

def uniqueImageIds (messageIds : List String) : List String :=
  ((messageIds.filter fun messageId => boundedText messageId 128).eraseDups).take
    maxImageMessageProjections

def deleteStoredImageMessages (db : Database) (messageIds : List String) : Database :=
  let unique := uniqueImageIds messageIds
  if unique = [] then db else deleteProjections db unique

def deleteStoredImageMessagesForContact (db : Database) (contactId : String) : Database :=
  if boundedText contactId 128 then
    deleteProjections db
      ((db.projections.toList.filter fun row => row.2.contactId = contactId).map Prod.fst)
  else db

def clearStoredImageMessages (db : Database) : Database :=
  { db with
    projections := .empty
    media := .empty
    timeline := db.timeline.filter fun _ record => ¬ record.isImage }

end Images

/-- The messages of an imported profile take the place of all messages and images. -/
def replacePortableProfileSnapshot (db : Database) (messages : List MessageSummary) : Database :=
  { db with
    messages := Table.empty.insertAll (messages.map fun message => (message.messageId, message))
    timeline := Table.empty.insertAll (messages.map fun message => (message.messageId,
      { messageId := message.messageId
        contactId := message.contactId
        sentAt := message.sentAt
        content := .text message }))
    projections := .empty
    media := .empty }

inductive Operation where
  | save (message : MessageSummary)
  | deleteLocally (messageIds : List String) (deletedAt : Nat)
  | replaceForRetry (previousMessageId : String) (replacement : MessageSummary)
  | deleteForContact (contactId : String) (deletedAt : Nat)
  | storeImage (projection : ImageMessageProjection) (bytes : List UInt8) (now : Nat)
  | deleteImages (messageIds : List String)
  | deleteImagesForContact (contactId : String)
  | clearImages
  | importProfile (messages : List MessageSummary)

def step (db : Database) : Operation → Database
  | .save message => saveStoredMessage db message
  | .deleteLocally messageIds deletedAt => deleteStoredMessagesLocally db messageIds deletedAt
  | .replaceForRetry previousMessageId replacement =>
    replaceStoredMessageForRetry db previousMessageId replacement
  | .deleteForContact contactId deletedAt => deleteStoredMessagesForContact db contactId deletedAt
  | .storeImage projection bytes now => (storeVerifiedImageMessage db projection bytes now).1
  | .deleteImages messageIds => deleteStoredImageMessages db messageIds
  | .deleteImagesForContact contactId => deleteStoredImageMessagesForContact db contactId
  | .clearImages => clearStoredImageMessages db
  | .importProfile messages => replacePortableProfileSnapshot db messages

section Mirror

variable {db : Database}

theorem mirrored_empty : Mirrored {} := IsUnion.empty upgradedMessage upgradedImage

def Accepted (db : Database) (projection : ImageMessageProjection) (bytes : List UInt8) : Prop :=
  validImageMessageProjection projection = true ∧ bytes.length = projection.byteCount ∧
    projection.byteCount ≤ maxStoredImageMediaBytes ∧
    (∀ stored ∈ db.projections.get? projection.messageId, storedProjection stored = none) ∧
    (currentProjections db).length < maxImageMessageProjections ∧
    storedBytes db + projection.byteCount ≤ maxStoredImageMediaBytes

/-- What may be written: messages that are not stored images, deletions of messages that name no
stored image and of images that name no stored message, no image and no imported message. -/
def Faithful (db : Database) : Operation → Prop
  | .save message => (db.tombstones.get? message.messageId).isSome ∨
      db.projections.get? message.messageId = none
  | .deleteLocally messageIds _ => ∀ messageId ∈ uniqueMessageIds messageIds,
      db.projections.get? messageId = none
  | .replaceForRetry previousMessageId replacement =>
    db.projections.get? previousMessageId = none ∧
      db.projections.get? replacement.messageId = none
  | .storeImage projection bytes _ => ¬ Accepted db projection bytes
  | .deleteImages messageIds => ∀ messageId ∈ uniqueImageIds messageIds,
      db.messages.get? messageId = none
  | .importProfile messages => messages = []
  | _ => True

theorem storeVerifiedResult_eq_stored_iff {projection : ImageMessageProjection}
    {bytes : List UInt8} :
    storeVerifiedResult db projection bytes = .stored ↔ Accepted db projection bytes := by
  unfold storeVerifiedResult Accepted
  split
  next hinvalid =>
    simp only [Bool.or_eq_true, decide_eq_true_eq, reduceCtorEq, false_iff] at hinvalid ⊢
    rintro ⟨hvalid, hlength, hbytes, -⟩
    rcases hinvalid with (hinvalid | hinvalid) | hinvalid
    · exact hinvalid hvalid
    · exact hinvalid hlength
    · omega
  next hvalid =>
    simp only [Bool.or_eq_true, decide_eq_true_eq, not_or, not_not, not_lt] at hvalid
    obtain ⟨⟨hprojection, hlength⟩, hbytes⟩ := hvalid
    split
    next existing hexisting =>
      obtain ⟨stored, hstored, hread⟩ := Option.bind_eq_some_iff.mp hexisting
      have hnot : ¬ ∀ stored ∈ db.projections.get? projection.messageId,
          storedProjection stored = none := fun hnone => by
        rw [hnone stored hstored] at hread
        cases hread
      refine iff_of_false (by split <;> simp) ?_
      rintro ⟨-, -, -, hnone, -⟩
      exact hnot hnone
    next hexisting =>
      have hnone := Option.bind_eq_none_iff.mp hexisting
      split
      next hfull =>
        simp only [Bool.or_eq_true, decide_eq_true_eq] at hfull
        refine iff_of_false (by simp) ?_
        rintro ⟨-, -, -, -, hlength, hbytes⟩
        omega
      next hroom =>
        simp only [Bool.or_eq_true, decide_eq_true_eq, not_or, not_le, not_lt] at hroom
        exact iff_of_true rfl ⟨hprojection, hlength, hbytes, hnone, hroom.1, hroom.2⟩

theorem mirrored_saveStoredMessage_iff (h : Mirrored db) (message : MessageSummary) :
    Mirrored (saveStoredMessage db message) ↔ Faithful db (.save message) := by
  rw [saveStoredMessage, Faithful]
  cases htombstone : db.tombstones.get? message.messageId with
  | some deletedAt => simp [h]
  | none =>
    rw [Option.isSome_none, Bool.false_eq_true, false_or]
    exact (IsUnion.insert_iff h).trans (and_iff_right rfl)

theorem mirrored_deleteStoredMessagesLocally_iff (h : Mirrored db) (messageIds : List String)
    (deletedAt : Nat) :
    Mirrored (deleteStoredMessagesLocally db messageIds deletedAt) ↔
      Faithful db (.deleteLocally messageIds deletedAt) := by
  rw [Faithful]
  by_cases hnone : uniqueMessageIds messageIds = []
  · simp [deleteStoredMessagesLocally, h, hnone]
  · simp only [deleteStoredMessagesLocally, if_neg hnone]
    exact IsUnion.eraseAll_iff h

theorem isSome_of_mem_filter_keys {V : Type} {t : Table String V} {p : String × V → Bool}
    {key : String} (h : key ∈ (t.toList.filter p).map Prod.fst) : (t.get? key).isSome := by
  obtain ⟨⟨_, value⟩, hmem, rfl⟩ := List.mem_map.mp h
  rw [Table.mem_toList_iff.mp (List.mem_of_mem_filter hmem)]
  rfl

theorem mirrored_deleteStoredMessagesForContact (h : Mirrored db) (contactId : String)
    (deletedAt : Nat) : Mirrored (deleteStoredMessagesForContact db contactId deletedAt) := by
  refine IsUnion.eraseAll_own h fun messageId hmem => ?_
  rw [messageIdsOfContact, List.mem_insertionSort] at hmem
  exact isSome_of_mem_filter_keys hmem

theorem mirrored_storeVerifiedImageMessage_iff (h : Mirrored db)
    (projection : ImageMessageProjection) (bytes : List UInt8) (now : Nat) :
    Mirrored (storeVerifiedImageMessage db projection bytes now).1 ↔
      Faithful db (.storeImage projection bytes now) := by
  show _ ↔ ¬ Accepted db projection bytes
  rw [← storeVerifiedResult_eq_stored_iff]
  unfold storeVerifiedImageMessage
  split
  next hstored =>
    -- The record of an image comes without the id that replies go by.
    refine iff_of_false (fun hmirrored => ?_) (fun hnot => hnot hstored)
    have hread := hmirrored.get?_eq projection.messageId
    have hmessage := (hmirrored.apart projection.messageId).resolve_right (by simp)
    rw [hmessage, Table.get?_insert_self, Table.get?_insert_self, Option.map_none,
      Option.none_or, Option.map_some, Option.some_inj] at hread
    exact Option.some_ne_none _ (congrArg TimelineRecord.applicationMessageId hread).symm
  next hstored => exact iff_of_true h hstored

theorem mirrored_deleteProjections_iff (h : Mirrored db) (messageIds : List String) :
    Mirrored (deleteProjections db messageIds) ↔
      ∀ messageId ∈ messageIds, db.messages.get? messageId = none :=
  ⟨fun hmirrored => (IsUnion.eraseAll_iff (IsUnion.symm h)).mp (IsUnion.symm hmirrored),
    fun hmessages => IsUnion.symm ((IsUnion.eraseAll_iff (IsUnion.symm h)).mpr hmessages)⟩

theorem mirrored_deleteStoredImageMessages_iff (h : Mirrored db) (messageIds : List String) :
    Mirrored (deleteStoredImageMessages db messageIds) ↔
      Faithful db (.deleteImages messageIds) := by
  rw [Faithful]
  by_cases hnone : uniqueImageIds messageIds = []
  · simp [deleteStoredImageMessages, h, hnone]
  · simp only [deleteStoredImageMessages, if_neg hnone]
    exact mirrored_deleteProjections_iff h _

theorem mirrored_deleteStoredImageMessagesForContact (h : Mirrored db) (contactId : String) :
    Mirrored (deleteStoredImageMessagesForContact db contactId) := by
  unfold deleteStoredImageMessagesForContact
  split
  · exact IsUnion.symm (IsUnion.eraseAll_own (IsUnion.symm h) fun _ => isSome_of_mem_filter_keys)
  · exact h

theorem mirrored_clearStoredImageMessages (h : Mirrored db) :
    Mirrored (clearStoredImageMessages db) := by
  have hclear : IsUnion upgradedMessage upgradedImage db.messages Table.empty
      (db.timeline.filter fun _ record => ¬ record.isImage) :=
    IsUnion.clear_right h (fun _ => by simp [upgradedMessage, TimelineRecord.isImage])
      fun _ => by simp [upgradedImage, TimelineRecord.isImage]
  exact hclear

theorem mirrored_replacePortableProfileSnapshot_iff (messages : List MessageSummary) :
    Mirrored (replacePortableProfileSnapshot db messages) ↔
      Faithful db (.importProfile messages) := by
  constructor
  · intro h
    -- The record of the last message is not the one of the upgrade.
    rcases List.eq_nil_or_concat messages with hnil | ⟨earlier, message, rfl⟩
    · exact hnil
    · have hread := h.get?_eq message.messageId
      simp only [replacePortableProfileSnapshot, List.concat_eq_append, List.map_append,
        List.map_cons, List.map_nil, Table.insertAll_append, Table.get?_insert_self,
        Table.get?_empty, Option.map_some, Option.map_none, Option.or_none] at hread
      have hid := congrArg TimelineRecord.applicationMessageId (Option.some_inj.mp hread)
      exact absurd hid.symm (Option.some_ne_none _)
  · rintro rfl
    exact IsUnion.empty upgradedMessage upgradedImage

theorem mirrored_step_iff (h : Mirrored db) (operation : Operation) :
    Mirrored (step db operation) ↔ Faithful db operation := by
  cases operation with
  | save message => exact mirrored_saveStoredMessage_iff h message
  | deleteLocally messageIds deletedAt =>
    exact mirrored_deleteStoredMessagesLocally_iff h messageIds deletedAt
  | replaceForRetry previousMessageId replacement => exact IsUnion.erase_insert_iff h
  | deleteForContact contactId deletedAt =>
    exact iff_of_true (mirrored_deleteStoredMessagesForContact h contactId deletedAt) trivial
  | storeImage projection bytes now =>
    exact mirrored_storeVerifiedImageMessage_iff h projection bytes now
  | deleteImages messageIds => exact mirrored_deleteStoredImageMessages_iff h messageIds
  | deleteImagesForContact contactId =>
    exact iff_of_true (mirrored_deleteStoredImageMessagesForContact h contactId) trivial
  | clearImages => exact iff_of_true (mirrored_clearStoredImageMessages h) trivial
  | importProfile messages => exact mirrored_replacePortableProfileSnapshot_iff messages

/-- The timeline is a mirror after each transaction of a run if and only if each of them writes
what it may. -/
theorem mirrored_along_iff (h : Mirrored db) (operations : List Operation) :
    Trace.Meets step (fun db operation => Mirrored (step db operation)) db operations ↔
      Trace.Meets step Faithful db operations :=
  Trace.meets_congr_of_meets (P := Mirrored)
    (fun _ operation hmirrored hfaithful => (mirrored_step_iff hmirrored operation).mpr hfaithful)
    (fun _ operation hmirrored => mirrored_step_iff hmirrored operation) h operations

def sentMessage : MessageSummary where
  messageId := "m1"
  contactId := "alice"
  direction := .outgoing
  body := "hello"
  sentAt := 1
  deliveryState := .unavailable

theorem mirrored_along_retry :
    Trace.Meets step (fun db operation => Mirrored (step db operation)) {}
      [.save sentMessage, .replaceForRetry "m1" { sentMessage with messageId := "m2" },
        .deleteForContact "alice" 5, .clearImages] :=
  (mirrored_along_iff mirrored_empty _).mpr
    ⟨.inr rfl, ⟨rfl, rfl⟩, trivial, trivial, trivial⟩

def sentImage : ImageMessageProjection where
  messageId := "i1"
  contactId := "alice"
  direction := .outgoing
  sentAt := 1
  mediaType := .png
  byteCount := 1
  width := 1
  height := 1

/-- The first image that is stored has no record like the one of the upgrade. -/
theorem not_mirrored_sentImage :
    ¬ ∀ operations, Mirrored (Trace.run step {} operations) := by
  intro h
  have hread := (h [.storeImage sentImage [0] 5]).get?_eq "i1"
  revert hread
  decide +kernel

end Mirror

end Branch.Pwa.TimelineStore
