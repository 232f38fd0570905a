import Branch.Lib.Trace
import Branch.Pwa.TimelineStore
import Mathlib.Data.Finset.Card

/-!
The images that a tab shows, by their message. The record of them is a plain object, which
answers also for what it inherits.
-/

namespace Branch.Pwa.ImageProjections

open Branch.Lib TimelineStore

section Slice

abbrev ImageMessageProjection := TimelineStore.ImageMessageProjection

/-- The properties of `Object.prototype`. -/
def objectProperties : List String :=
  ["__defineGetter__", "__defineSetter__", "__lookupGetter__", "__lookupSetter__", "__proto__",
    "constructor", "hasOwnProperty", "isPrototypeOf", "propertyIsEnumerable", "toLocaleString",
    "toString", "valueOf"]

/-- The own properties of an object, and what an assignment to its `__proto__` made of the
prototype. The order of the properties is never looked at. -/
structure ProjectionRecord where
  own : Table String ImageMessageProjection := .empty
  prototype : Option ImageMessageProjection := none

inductive PropertyValue where
  | projection (value : ImageMessageProjection)
  | other

/-- The properties of a projection that are not `undefined`. -/
def fieldNames (value : ImageMessageProjection) : List String :=
  ["messageId", "contactId", "direction", "sentAt", "mediaType", "byteCount", "width", "height"] ++
    (value.caption.map fun _ => "caption").toList ++
    (value.replyToMessageId.map fun _ => "replyToMessageId").toList

namespace ProjectionRecord

def inherits (r : ProjectionRecord) (key : String) : Bool :=
  objectProperties.contains key || r.prototype.any fun value => (fieldNames value).contains key

def read (r : ProjectionRecord) (key : String) : Option PropertyValue :=
  match r.own.get? key with
  | some value => some (.projection value)
  | none =>
    if key = "__proto__" then some (r.prototype.elim .other .projection)
    else if r.inherits key then some .other
    else none

/-- `next[projection.messageId] = projection` -/
def assign (r : ProjectionRecord) (value : ImageMessageProjection) : ProjectionRecord :=
  if value.messageId = "__proto__" then { r with prototype := some value }
  else { r with own := r.own.insert value.messageId value }

end ProjectionRecord

def sameImageProjection (left right : ImageMessageProjection) : Bool :=
  sameProjection left right && left.caption = right.caption &&
    left.replyToMessageId = right.replyToMessageId

def hydrateLoop : List ImageMessageProjection → ProjectionRecord → ProjectionRecord
  | [], next => next
  | projection :: projections, next =>
    if ¬ validImageMessageProjection projection || (next.read projection.messageId).isSome then
      hydrateLoop projections next
    else if maxImageMessageProjections ≤ next.own.size then next
    else hydrateLoop projections (next.assign projection)

/-- By the time, and by the identifier where the times are equal. -/
def sentBefore (localeCompare : String → String → Int) (left right : ImageMessageProjection) :
    Bool :=
  left.sentAt < right.sentAt ||
    left.sentAt = right.sentAt && localeCompare left.messageId right.messageId ≤ 0

/-- The newest valid images of a contact among those that are given. -/
def newestOf (localeCompare : String → String → Int) (contactId : String)
    (projections : List ImageMessageProjection) : List ImageMessageProjection :=
  let sorted := (projections.filter fun candidate =>
    candidate.contactId = contactId && validImageMessageProjection candidate).mergeSort
      (sentBefore localeCompare)
  sorted.drop (sorted.length - maxConversationTimelineEntries)

def withoutContact (r : ProjectionRecord) (contactId : String) :
    Table String ImageMessageProjection :=
  r.own.filter fun _ projection => projection.contactId ≠ contactId

/-- The record with the window of a contact in place of what it had of the contact. -/
def withWindow (localeCompare : String → String → Int) (r : ProjectionRecord)
    (contactId : String) (projections : List ImageMessageProjection) : ProjectionRecord :=
  (newestOf localeCompare contactId projections).foldl ProjectionRecord.assign
    { own := withoutContact r contactId }

def stageImageMessageProjection (r : ProjectionRecord) (projection : ImageMessageProjection) :
    ProjectionRecord × Bool :=
  if ¬ validImageMessageProjection projection then (r, false)
  else
    match r.read projection.messageId with
    | some (.projection existing) => (r, sameImageProjection existing projection)
    | some .other => (r, false)
    | none =>
      if maxImageMessageProjections ≤ r.own.size then (r, false)
      else ({ own := r.own.insert projection.messageId projection }, true)

inductive ProjectionsEvent where
  | hydrate (projections : List ImageMessageProjection)
  | replaceWindow (contactId : String) (projections : List ImageMessageProjection)
  | stage (projection : ImageMessageProjection)
  | remove (messageIds : List String)
  | clearForContact (contactId : String)
  | clear

/-- The entries without those that `gone` names; the object itself stays when there are none. -/
def dropEntries (r : ProjectionRecord) (gone : String → ImageMessageProjection → Bool) :
    ProjectionRecord :=
  if r.own.toList.any fun entry => gone entry.1 entry.2 then
    { own := r.own.filter fun messageId projection => ¬ gone messageId projection }
  else r

def next (localeCompare : String → String → Int) (r : ProjectionRecord) :
    ProjectionsEvent → ProjectionRecord
  | .hydrate projections => hydrateLoop projections {}
  | .replaceWindow contactId projections =>
    if boundedText contactId 128 then withWindow localeCompare r contactId projections else r
  | .stage projection => (stageImageMessageProjection r projection).1
  | .remove messageIds =>
    let wanted := (messageIds.filter fun messageId => boundedText messageId 128).take
      maxImageMessageProjections
    dropEntries r fun messageId _ => wanted.contains messageId
  | .clearForContact contactId =>
    if boundedText contactId 128 then
      dropEntries r fun _ projection => projection.contactId = contactId
    else r
  | .clear => {}

end Slice

section Property

variable (localeCompare : String → String → Int)

structure Holds (r : ProjectionRecord) (event : ProjectionsEvent) : Prop where
  bounded : (next localeCompare r event).own.size ≤ maxImageMessageProjections
  named : ∀ messageId projection, (next localeCompare r event).own.get? messageId =
    some projection → projection.messageId = messageId
  others : ∀ contactId projections, event = .replaceWindow contactId projections →
    ∀ messageId projection, projection.contactId ≠ contactId →
      ((next localeCompare r event).own.get? messageId = some projection ↔
        r.own.get? messageId = some projection)
  stages : ∀ projection, event = .stage projection →
    validImageMessageProjection projection = true → r.own.get? projection.messageId = none →
    (stageImageMessageProjection r projection).2 = false →
      maxImageMessageProjections ≤ r.own.size

def assignedIds (contactId : String) (projections : List ImageMessageProjection) : List String :=
  ((newestOf localeCompare contactId projections).map (·.messageId)).filter (· ≠ "__proto__")

/-- A window has none of the identifiers of other contacts and makes no more entries with
theirs than there may be; what is staged while there is room has no name that the record
inherits, or is what a window made of the prototype. -/
def Fits (r : ProjectionRecord) : ProjectionsEvent → Prop
  | .replaceWindow contactId projections => boundedText contactId 128 = true →
    (∀ messageId ∈ assignedIds localeCompare contactId projections,
      (withoutContact r contactId).get? messageId = none) ∧
    ((withoutContact r contactId).keys ++
      assignedIds localeCompare contactId projections).toFinset.card ≤ maxImageMessageProjections
  | .stage projection => validImageMessageProjection projection = true →
    r.own.get? projection.messageId = none → r.own.size < maxImageMessageProjections →
      r.inherits projection.messageId = false ∨ projection.messageId = "__proto__" ∧
        ∃ value ∈ r.prototype, sameImageProjection value projection = true
  | _ => True

/-- The record holds every entry under the identifier of its message, and not too many. -/
structure Sound (r : ProjectionRecord) : Prop where
  bounded : r.own.size ≤ maxImageMessageProjections
  named : ∀ messageId projection, r.own.get? messageId = some projection →
    projection.messageId = messageId

variable {localeCompare} {r : ProjectionRecord} {projection : ImageMessageProjection}
  {projections : List ImageMessageProjection} {contactId messageId : String}

theorem size_eq_card (t : Table String ImageMessageProjection) :
    t.size = t.keys.toFinset.card := by
  rw [List.toFinset_card_of_nodup t.keys_nodup, Table.length_keys]

theorem sound_empty : Sound {} := by
  refine ⟨Nat.zero_le _, fun messageId projection h => ?_⟩
  rw [show ({} : ProjectionRecord).own.get? messageId = none from Table.get?_empty _] at h
  cases h

theorem Sound.insert (h : Sound r) (hroom : r.own.size < maxImageMessageProjections)
    (prototype : Option ImageMessageProjection) :
    Sound { own := r.own.insert projection.messageId projection, prototype } := by
  constructor
  · cases hold : r.own.get? projection.messageId with
    | none =>
      rw [Table.size_insert_of_get?_eq_none _ hold]
      exact hroom
    | some existing =>
      rw [Table.size_insert_of_get?_isSome _ (by rw [hold]; rfl)]
      exact h.bounded
  · intro messageId value hget
    rcases Table.get?_insert_eq_some hget with ⟨rfl, rfl⟩ | ⟨_, hget⟩
    · rfl
    · exact h.named _ _ hget

theorem Sound.filter (h : Sound r) (keep : String → ImageMessageProjection → Bool) :
    Sound { own := r.own.filter keep } :=
  ⟨(Table.size_filter_le _ _).trans h.bounded,
    fun _ _ hget => h.named _ _ (Table.get?_filter_eq_some.mp hget).1⟩

theorem Sound.dropEntries (h : Sound r) (gone : String → ImageMessageProjection → Bool) :
    Sound (dropEntries r gone) := by
  unfold ImageProjections.dropEntries
  split
  · exact h.filter _
  · exact h

theorem Sound.hydrateLoop (h : Sound r) : Sound (hydrateLoop projections r) := by
  induction projections generalizing r with
  | nil => exact h
  | cons projection projections ih =>
    unfold ImageProjections.hydrateLoop
    split
    · exact ih h
    · split
      · exact h
      · rename_i hroom
        refine ih ?_
        unfold ProjectionRecord.assign
        split
        · exact ⟨h.bounded, h.named⟩
        · exact h.insert (not_le.mp hroom) _

theorem Sound.stage (h : Sound r) : Sound (stageImageMessageProjection r projection).1 := by
  unfold stageImageMessageProjection
  split
  · exact h
  · split
    · exact h
    · exact h
    · split
      · exact h
      · rename_i hroom
        exact h.insert (not_le.mp hroom) none

section Window

theorem get?_foldl_of_notMem {r : ProjectionRecord}
    (h : messageId ∉ (projections.map (·.messageId)).filter (· ≠ "__proto__")) :
    (projections.foldl .assign r).own.get? messageId = r.own.get? messageId := by
  induction projections generalizing r with
  | nil => rfl
  | cons projection projections ih =>
    rw [List.map_cons, List.filter_cons] at h
    rw [List.foldl_cons, ProjectionRecord.assign]
    split
    · rename_i hproto
      rw [if_neg (by simpa using hproto)] at h
      exact ih h
    · rename_i hproto
      rw [if_pos (by simpa using hproto), List.mem_cons, not_or] at h
      rw [ih h.2]
      exact Table.get?_insert_of_ne _ _ h.1

theorem get?_foldl_of_mem
    (h : messageId ∈ (projections.map (·.messageId)).filter (· ≠ "__proto__")) :
    ∃ projection ∈ projections, projection.messageId = messageId ∧
      (projections.foldl .assign r).own.get? messageId = some projection := by
  induction projections generalizing r with
  | nil => cases h
  | cons projection projections ih =>
    rw [List.foldl_cons]
    by_cases hlater : messageId ∈ (projections.map (·.messageId)).filter (· ≠ "__proto__")
    · obtain ⟨value, hmem, heq⟩ := ih (r := r.assign projection) hlater
      exact ⟨value, List.mem_cons_of_mem _ hmem, heq⟩
    · rw [get?_foldl_of_notMem hlater, ProjectionRecord.assign]
      rw [List.map_cons, List.filter_cons] at h
      split at h
      · rename_i hproto
        obtain rfl := (List.mem_cons.mp h).resolve_right hlater
        rw [if_neg (by simpa using hproto)]
        exact ⟨projection, List.mem_cons_self, rfl, Table.get?_insert_self _ _ _⟩
      · exact absurd h hlater

theorem card_window :
    (projections.foldl .assign r).own.size = (r.own.keys ++
      (projections.map (·.messageId)).filter (· ≠ "__proto__")).toFinset.card := by
  rw [size_eq_card]
  congr 1
  ext messageId
  rw [List.mem_toFinset, List.mem_toFinset, List.mem_append, Table.mem_keys_iff,
    Table.mem_keys_iff]
  by_cases h : messageId ∈ (projections.map (·.messageId)).filter (· ≠ "__proto__")
  · obtain ⟨projection, _, _, hget⟩ := get?_foldl_of_mem (r := r) h
    simp only [hget, Option.isSome_some, h, or_true]
  · rw [get?_foldl_of_notMem h]
    simp only [h, or_false]

theorem contactId_of_mem_newestOf (h : projection ∈ newestOf localeCompare contactId projections) :
    projection.contactId = contactId := by
  have hmem := List.mem_mergeSort.mp (List.mem_of_mem_drop h)
  simpa using (Bool.and_eq_true_iff.mp (List.mem_filter.mp hmem).2).1

theorem get?_withoutContact {value : ImageMessageProjection} :
    (withoutContact r contactId).get? messageId = some value ↔
      r.own.get? messageId = some value ∧ value.contactId ≠ contactId := by
  rw [withoutContact, Table.get?_filter_eq_some, decide_eq_true_eq]

/-- A window that shares no identifier with other contacts, and no other one, leaves their
entries as they are. -/
theorem others_iff :
    (∀ messageId projection, projection.contactId ≠ contactId →
      ((withWindow localeCompare r contactId projections).own.get? messageId = some projection ↔
        r.own.get? messageId = some projection)) ↔
      ∀ messageId ∈ assignedIds localeCompare contactId projections,
        (withoutContact r contactId).get? messageId = none := by
  unfold withWindow
  constructor
  · intro hothers messageId hmem
    rw [Option.eq_none_iff_forall_ne_some]
    intro value hvalue
    obtain ⟨hget, hcontact⟩ := get?_withoutContact.mp hvalue
    obtain ⟨projection, hprojection, _, hassigned⟩ := get?_foldl_of_mem
      (r := { own := withoutContact r contactId }) hmem
    obtain rfl := Option.some.inj (hassigned.symm.trans ((hothers _ _ hcontact).mpr hget))
    exact hcontact (contactId_of_mem_newestOf hprojection)
  · intro hseparate messageId projection hcontact
    by_cases hmem : messageId ∈ assignedIds localeCompare contactId projections
    · obtain ⟨value, hvalue, _, hassigned⟩ := get?_foldl_of_mem
        (r := { own := withoutContact r contactId }) hmem
      rw [hassigned]
      constructor
      · rintro heq
        obtain rfl := Option.some.inj heq
        exact absurd (contactId_of_mem_newestOf hvalue) hcontact
      · intro hget
        have hnone := hseparate _ hmem
        rw [get?_withoutContact.mpr ⟨hget, hcontact⟩] at hnone
        cases hnone
    · rw [get?_foldl_of_notMem hmem]
      exact get?_withoutContact.trans (and_iff_left hcontact)

theorem named_window (h : Sound r)
    (hget : (withWindow localeCompare r contactId projections).own.get? messageId =
      some projection) : projection.messageId = messageId := by
  rw [withWindow] at hget
  by_cases hmem : messageId ∈ assignedIds localeCompare contactId projections
  · obtain ⟨value, _, hnamed, hassigned⟩ := get?_foldl_of_mem
      (r := { own := withoutContact r contactId }) hmem
    obtain rfl := Option.some.inj (hassigned.symm.trans hget)
    exact hnamed
  · rw [get?_foldl_of_notMem hmem] at hget
    exact h.named _ _ (get?_withoutContact.mp hget).1

end Window

/-- A stage is refused for want of room, or because of something that the record inherits. -/
theorem stage_refused_iff (hvalid : validImageMessageProjection projection = true)
    (hnew : r.own.get? projection.messageId = none) :
    ((stageImageMessageProjection r projection).2 = false →
      maxImageMessageProjections ≤ r.own.size) ↔
    (r.own.size < maxImageMessageProjections → r.inherits projection.messageId = false ∨
      projection.messageId = "__proto__" ∧
        ∃ value ∈ r.prototype, sameImageProjection value projection = true) := by
  unfold stageImageMessageProjection ProjectionRecord.read
  rw [if_neg (not_not.mpr hvalid), hnew]
  by_cases hproto : projection.messageId = "__proto__"
  · have hinherits : r.inherits "__proto__" = true := rfl
    cases hprototype : r.prototype with
    | none => simp [hproto, hinherits]
    | some value =>
      simp only [hproto, hinherits, if_true, Option.elim_some, Option.mem_some_iff, true_and,
        exists_eq_left', Bool.true_eq_false, false_or]
      rw [← Bool.not_eq_true, ← not_le, not_imp_comm]
  · cases hinherits : r.inherits projection.messageId with
    | true => simp [hproto]
    | false =>
      by_cases hfull : maxImageMessageProjections ≤ r.own.size
      · simp [hproto, hfull]
      · simp [hproto, hfull]

theorem Holds.sound {event : ProjectionsEvent} (h : Holds localeCompare r event) :
    Sound (next localeCompare r event) := ⟨h.bounded, h.named⟩

theorem holds_of_sound {event : ProjectionsEvent} (h : Sound (next localeCompare r event))
    (hwindow : ∀ contactId projections, event ≠ .replaceWindow contactId projections)
    (hstage : ∀ projection, event ≠ .stage projection) : Holds localeCompare r event :=
  ⟨h.bounded, h.named, fun _ _ heq => absurd heq (hwindow _ _),
    fun _ heq => absurd heq (hstage _)⟩

theorem holds_iff {event : ProjectionsEvent} (h : Sound r) :
    Holds localeCompare r event ↔ Fits localeCompare r event := by
  cases event with
  | hydrate projections =>
    exact iff_of_true (holds_of_sound sound_empty.hydrateLoop nofun nofun) trivial
  | remove messageIds =>
    have hnext : Sound (next localeCompare r (.remove messageIds)) := by
      rw [next]
      exact h.dropEntries _
    exact iff_of_true (holds_of_sound hnext nofun nofun) trivial
  | clear => exact iff_of_true (holds_of_sound sound_empty nofun nofun) trivial
  | clearForContact contactId =>
    have hnext : Sound (next localeCompare r (.clearForContact contactId)) := by
      rw [next]
      split
      · exact h.dropEntries _
      · exact h
    exact iff_of_true (holds_of_sound hnext nofun nofun) trivial
  | stage projection =>
    constructor
    · intro hholds hvalid hnew
      exact (stage_refused_iff hvalid hnew).mp (hholds.stages _ rfl hvalid hnew)
    · intro hfits
      refine ⟨h.stage.bounded, h.stage.named, nofun, ?_⟩
      rintro _ ⟨⟩ hvalid hnew
      exact (stage_refused_iff hvalid hnew).mpr (hfits hvalid hnew)
  | replaceWindow contactId projections =>
    by_cases hcontact : boundedText contactId 128 = true
    · have hnext : next localeCompare r (.replaceWindow contactId projections) =
          withWindow localeCompare r contactId projections := if_pos hcontact
      constructor
      · rintro ⟨hbounded, -, hothers, -⟩ -
        have hothers := hothers _ _ rfl
        rw [hnext] at hbounded hothers
        rw [withWindow, card_window] at hbounded
        exact ⟨others_iff.mp hothers, hbounded⟩
      · intro hfits
        obtain ⟨hseparate, hroom⟩ := hfits hcontact
        refine ⟨?_, ?_, ?_, nofun⟩
        · rw [hnext, withWindow, card_window]
          exact hroom
        · intro messageId projection hget
          rw [hnext] at hget
          exact named_window h hget
        · rintro _ _ ⟨⟩
          rw [hnext]
          exact others_iff.mpr hseparate
    · have hnext : next localeCompare r (.replaceWindow contactId projections) = r :=
        if_neg hcontact
      refine iff_of_true ⟨?_, ?_, ?_, nofun⟩ fun hbounded => absurd hbounded hcontact
      · rw [hnext]
        exact h.bounded
      · rw [hnext]
        exact h.named
      · rintro _ _ _ _ _ _
        rw [hnext]

/-- What is asked of every step holds in a run exactly if every step of it fits. -/
theorem projections_hold_iff (localeCompare : String → String → Int)
    (events : List ProjectionsEvent) :
    Trace.Meets (next localeCompare) (Holds localeCompare) {} events ↔
      Trace.Meets (next localeCompare) (Fits localeCompare) {} events := by
  have hstep : ∀ r event, Sound r → Fits localeCompare r event →
      Sound (next localeCompare r event) :=
    fun r event hr hfits => ((holds_iff hr).mpr hfits).sound
  exact Trace.meets_congr_of_meets hstep (fun r event hr => holds_iff hr) sound_empty events

def ProjectionsHold : Prop :=
  ∀ localeCompare events, Trace.Meets (next localeCompare) (Holds localeCompare) {} events

end Property

section Sample

/-- An image of a contact, under the identifier that the other one uses as well. -/
def sampleProjection (contactId : String) : ImageMessageProjection where
  messageId := "AAAAAAAAAAAAAAAAAAAAAA"
  contactId := contactId
  direction := .incoming
  sentAt := 1
  mediaType := .png
  byteCount := 1
  width := 1
  height := 1

theorem not_projectionsHold : ¬ ProjectionsHold := by
  intro h
  have hmeets := h (fun _ _ => 0) [.replaceWindow "a" [sampleProjection "a"],
    .replaceWindow "b" [sampleProjection "b"]]
  have hothers := hmeets.2.1.others "b" _ rfl "AAAAAAAAAAAAAAAAAAAAAA" (sampleProjection "a")
    (by decide)
  have hnewest : ∀ contactId, validImageMessageProjection (sampleProjection contactId) = true →
      newestOf (fun _ _ => 0) contactId [sampleProjection contactId] =
        [sampleProjection contactId] := by
    intro contactId hvalid
    have hown : (sampleProjection contactId).contactId = contactId := rfl
    rw [newestOf, List.filter_cons_of_pos (by simp [hvalid, hown]), List.filter_nil,
      List.mergeSort_singleton]
    simp only [List.length_singleton, show 1 - maxConversationTimelineEntries = 0 by decide,
      List.drop_zero]
  simp only [next, show boundedText "a" 128 = true by decide,
    show boundedText "b" 128 = true by decide, if_true, withWindow, hnewest "a" (by decide),
    hnewest "b" (by decide)] at hothers
  exact absurd (hothers.mpr (by decide)) (by decide)

end Sample

end Branch.Pwa.ImageProjections
