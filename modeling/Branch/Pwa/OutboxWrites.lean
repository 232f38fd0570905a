import Branch.Lib.PendingWrites
import Branch.Lib.Trace
import Branch.Pwa.MessageOutbox
import Mathlib.Data.List.Perm.Basic

/-!
The rows of the outbox beside its memory. Each write opens the database on its own, and none waits
for another.
-/

namespace Branch.Pwa

open Branch.Lib

def entryOf (entries : List StoredOutboxEntry) (messageId : String) : Option StoredOutboxEntry :=
  entries.find? fun entry => entry.messageId = messageId

def OutboxWrite.effect : WriteEffect OutboxWrite String StoredOutboxEntry
  | .save entry, messageId => if entry.messageId = messageId then some (some entry) else none
  | .delete deleted, messageId => if deleted = messageId then some none else none

inductive OutboxCall where
  | queueMessage (entry : StoredOutboxEntry)
  | markOutboxMessageDelivered (messageId : String) (deliveredAt : Nat)
  | settleOutboxMessage (messageId : String)
  /-- The write at a position of those on their way is performed. -/
  | written (position : Nat)

/-- An outbox with its writes in the order in which they were issued, and in the order in which
they were performed. Nothing reads the two. -/
structure WatchedOutbox where
  outbox : MessageOutbox
  issued : List OutboxWrite := []
  performed : List OutboxWrite := []

namespace MessageOutbox

def next (o : MessageOutbox) : OutboxCall → MessageOutbox
  | .queueMessage entry => o.queueMessage entry
  | .markOutboxMessageDelivered messageId deliveredAt =>
    o.markOutboxMessageDelivered messageId deliveredAt
  | .settleOutboxMessage messageId => o.settleOutboxMessage messageId
  | .written position => o.settleWrite position true

def Stored (o : MessageOutbox) : Prop :=
  ∀ messageId, entryOf o.stored messageId = entryOf o.entries messageId

/-- Nothing is on its way to the database, and the two agree. -/
structure Settled (o : MessageOutbox) : Prop where
  writes : o.writes = []
  nodup : (o.entries.map StoredOutboxEntry.messageId).Nodup
  stored : o.Stored

end MessageOutbox

namespace WatchedOutbox

def next (w : WatchedOutbox) (call : OutboxCall) : WatchedOutbox where
  outbox := w.outbox.next call
  issued :=
    match call with
    | .written _ => w.issued
    | _ => w.issued ++ (w.outbox.next call).writes.drop w.outbox.writes.length
  performed :=
    match call with
    | .written position => w.performed ++ w.outbox.writes[position]?.toList
    | _ => w.performed

/-- No write is performed while an older one of its message is on its way. -/
def InTurn (w : WatchedOutbox) (call : OutboxCall) : Prop :=
  match call with
  | .written position =>
    ∀ messageId, WriteEffect.First OutboxWrite.effect w.outbox.writes position messageId
  | _ => True

end WatchedOutbox

section Rows

variable {entries : List StoredOutboxEntry} {entry : StoredOutboxEntry} {messageId : String}
  {write : OutboxWrite} {o : MessageOutbox}

theorem entryOf_append (left right : List StoredOutboxEntry) (messageId : String) :
    entryOf (left ++ right) messageId = (entryOf left messageId).or (entryOf right messageId) :=
  List.find?_append

theorem entryOf_singleton (entry : StoredOutboxEntry) (messageId : String) :
    entryOf [entry] messageId = if entry.messageId = messageId then some entry else none := by
  rw [entryOf, List.find?_singleton]
  simp only [decide_eq_true_eq]

theorem entryOf_eq_none_iff :
    entryOf entries messageId = none ↔ messageId ∉ entries.map StoredOutboxEntry.messageId := by
  simp [entryOf, List.find?_eq_none]

theorem entryOf_without (entries : List StoredOutboxEntry) (gone messageId : String) :
    entryOf (without entries gone) messageId =
      if gone = messageId then none else entryOf entries messageId := by
  split
  · rename_i heq
    subst heq
    rw [entryOf_eq_none_iff]
    intro hmem
    obtain ⟨entry, hentry, hid⟩ := List.mem_map.mp hmem
    exact (MessageOutbox.mem_without.mp hentry).2 hid
  · rename_i hne
    rw [entryOf, without, List.find?_filter]
    congr 1
    funext entry
    by_cases hid : entry.messageId = messageId
    · simp [hid, Ne.symm hne]
    · simp [hid]

theorem entryOf_perform (stored : List StoredOutboxEntry) (write : OutboxWrite)
    (messageId : String) :
    entryOf (MessageOutbox.perform stored write) messageId =
      (write.effect messageId).getD (entryOf stored messageId) := by
  cases write with
  | save entry =>
    rw [MessageOutbox.perform, entryOf_append, entryOf_without, entryOf_singleton,
      OutboxWrite.effect]
    split
    · rfl
    · exact Option.or_none
  | delete deleted =>
    rw [MessageOutbox.perform, entryOf_without, OutboxWrite.effect]
    split
    · rfl
    · rfl

theorem latest_deletes (entries : List StoredOutboxEntry) (messageId : String) :
    WriteEffect.latest OutboxWrite.effect (entries.map fun removed => .delete removed.messageId)
      messageId = if messageId ∈ entries.map StoredOutboxEntry.messageId then some none else none := by
  induction entries with
  | nil => rfl
  | cons entry entries ih =>
    rw [List.map_cons, ← List.singleton_append, WriteEffect.latest_append, ih,
      WriteEffect.latest_singleton, OutboxWrite.effect, List.map_cons]
    by_cases hrest : messageId ∈ entries.map StoredOutboxEntry.messageId
    · rw [if_pos hrest, if_pos (List.mem_cons_of_mem _ hrest)]
      rfl
    · rw [if_neg hrest, Option.none_or]
      refine if_congr ?_ rfl rfl
      rw [List.mem_cons]
      exact ⟨fun hid => .inl hid.symm, fun h => (h.resolve_right hrest).symm⟩

theorem entryOf_drop (hnodup : (entries.map StoredOutboxEntry.messageId).Nodup) (count : Nat)
    (messageId : String) :
    entryOf (entries.drop count) messageId =
      if messageId ∈ (entries.take count).map StoredOutboxEntry.messageId then none
      else entryOf entries messageId := by
  have hsplit := List.take_append_drop count entries
  rw [← hsplit, List.map_append] at hnodup
  split
  · rename_i hmem
    rw [entryOf_eq_none_iff]
    exact fun hdrop => (List.nodup_append.mp hnodup).2.2 _ hmem _ hdrop rfl
  · rename_i hnot
    conv_rhs => rw [← hsplit]
    rw [entryOf_append, entryOf_eq_none_iff.mpr hnot, Option.none_or]

theorem nodup_without (hnodup : (entries.map StoredOutboxEntry.messageId).Nodup)
    (messageId : String) : ((without entries messageId).map StoredOutboxEntry.messageId).Nodup :=
  hnodup.sublist (List.filter_sublist.map _)

theorem nodup_queueMessage (hnodup : (o.entries.map StoredOutboxEntry.messageId).Nodup)
    (entry : StoredOutboxEntry) :
    ((without o.entries entry.messageId ++ [entry]).map StoredOutboxEntry.messageId).Nodup := by
  rw [List.map_append, List.nodup_append]
  refine ⟨nodup_without hnodup _, List.nodup_singleton _, ?_⟩
  intro messageId hmem other hother heq
  obtain ⟨kept, hkept, rfl⟩ := List.mem_map.mp hmem
  rw [List.map_singleton, List.mem_singleton] at hother
  exact (MessageOutbox.mem_without.mp hkept).2 (heq.trans hother)

theorem entryOf_queueMessage (hnodup : (o.entries.map StoredOutboxEntry.messageId).Nodup)
    (entry : StoredOutboxEntry) (messageId : String) :
    entryOf (o.queueMessage entry).entries messageId =
      WriteEffect.due OutboxWrite.effect ([.save entry] ++
        (MessageOutbox.overflow (without o.entries entry.messageId ++ [entry])).map
          fun removed => .delete removed.messageId) (entryOf o.entries messageId) messageId := by
  change entryOf ((without o.entries entry.messageId ++ [entry]).drop _) messageId = _
  rw [entryOf_drop (nodup_queueMessage hnodup entry), WriteEffect.due_append,
    WriteEffect.due_singleton, WriteEffect.due, latest_deletes, MessageOutbox.overflow]
  split
  · rfl
  · rw [entryOf_append, entryOf_without, entryOf_singleton, OutboxWrite.effect]
    split
    · rfl
    · exact Option.or_none

theorem entryOf_replace {existing retained : StoredOutboxEntry}
    (hfind : entryOf entries retained.messageId = some existing) (messageId : String) :
    entryOf (entries.map fun entry =>
        if entry.messageId = retained.messageId then retained else entry) messageId =
      if retained.messageId = messageId then some retained else entryOf entries messageId := by
  have hid : ∀ entry : StoredOutboxEntry,
      (if entry.messageId = retained.messageId then retained else entry).messageId =
        entry.messageId := by
    intro entry
    split
    · rename_i heq
      exact heq.symm
    · rfl
  have hmap : entryOf (entries.map fun entry =>
      if entry.messageId = retained.messageId then retained else entry) messageId =
        (entryOf entries messageId).map fun entry =>
          if entry.messageId = retained.messageId then retained else entry := by
    rw [entryOf, List.find?_map]
    simp only [Function.comp_def, hid]
    rfl
  rw [hmap]
  split
  · rename_i heq
    subst heq
    have hexisting : existing.messageId = retained.messageId := by
      simpa using List.find?_some hfind
    rw [hfind, Option.map_some, if_pos hexisting]
  · rename_i hne
    cases hentry : entryOf entries messageId with
    | none => rfl
    | some entry =>
      have hentryId : entry.messageId = messageId := by
        simpa using List.find?_some hentry
      rw [Option.map_some, if_neg (fun heq => hne (heq.symm.trans hentryId))]

end Rows

section Track

variable {start : MessageOutbox} {w : WatchedOutbox} {call : OutboxCall}

/-- What memory and rows are by the writes that were issued and performed. -/
structure WatchedOutbox.Tracks (start : MessageOutbox) (w : WatchedOutbox) : Prop where
  nodup : (w.outbox.entries.map StoredOutboxEntry.messageId).Nodup
  perm : (w.performed ++ w.outbox.writes).Perm w.issued
  entries : ∀ messageId, entryOf w.outbox.entries messageId =
    WriteEffect.due OutboxWrite.effect w.issued (entryOf start.entries messageId) messageId
  stored : ∀ messageId, entryOf w.outbox.stored messageId =
    WriteEffect.due OutboxWrite.effect w.performed (entryOf start.stored messageId) messageId

/-- A call issues writes, and they say what it does to the memory. -/
structure Issues (o o' : MessageOutbox) (fresh : List OutboxWrite) : Prop where
  nodup : (o.entries.map StoredOutboxEntry.messageId).Nodup →
    (o'.entries.map StoredOutboxEntry.messageId).Nodup
  writes : o'.writes = o.writes ++ fresh
  entries : (o.entries.map StoredOutboxEntry.messageId).Nodup → ∀ messageId,
    entryOf o'.entries messageId =
      WriteEffect.due OutboxWrite.effect fresh (entryOf o.entries messageId) messageId
  stored : o'.stored = o.stored

theorem issues_queueMessage (o : MessageOutbox) (entry : StoredOutboxEntry) :
    Issues o (o.queueMessage entry) ([.save entry] ++
      (MessageOutbox.overflow (without o.entries entry.messageId ++ [entry])).map
        fun removed => .delete removed.messageId) where
  nodup := fun hnodup =>
    (nodup_queueMessage hnodup entry).sublist ((List.drop_sublist _ _).map _)
  writes := rfl
  entries := fun hnodup messageId => entryOf_queueMessage hnodup entry messageId
  stored := rfl

theorem issues_settleOutboxMessage (o : MessageOutbox) (messageId : String) :
    Issues o (o.settleOutboxMessage messageId) [.delete messageId] where
  nodup := fun hnodup => nodup_without hnodup messageId
  writes := rfl
  entries := by
    intro _ other
    change entryOf (without o.entries messageId) other = _
    rw [entryOf_without, WriteEffect.due_singleton, OutboxWrite.effect]
    split
    · rfl
    · rfl
  stored := rfl

theorem issues_markOutboxMessageDelivered (o : MessageOutbox) (messageId : String)
    (deliveredAt : Nat) :
    ∃ fresh, Issues o (o.markOutboxMessageDelivered messageId deliveredAt) fresh := by
  unfold MessageOutbox.markOutboxMessageDelivered
  split
  · exact ⟨[], id, (List.append_nil _).symm, fun _ _ => rfl, rfl⟩
  · rename_i existing hfind
    obtain rfl : existing.messageId = messageId := by simpa using List.find?_some hfind
    let retained : StoredOutboxEntry := { existing with deliveredAt := some deliveredAt }
    refine ⟨[.save retained], ?_, rfl, ?_, rfl⟩
    · intro hnodup
      have hids : (o.entries.map fun entry =>
          if entry.messageId = existing.messageId then retained else entry).map
            StoredOutboxEntry.messageId = o.entries.map StoredOutboxEntry.messageId := by
        rw [List.map_map]
        refine List.map_congr_left fun entry _ => ?_
        change (if entry.messageId = existing.messageId then retained else entry).messageId = _
        split
        · rename_i heq
          exact heq.symm
        · rfl
      change ((o.entries.map fun entry =>
        if entry.messageId = existing.messageId then retained else entry).map
          StoredOutboxEntry.messageId).Nodup
      rw [hids]
      exact hnodup
    · intro _ other
      have hreplace := @entryOf_replace o.entries existing retained hfind other
      refine hreplace.trans ?_
      rw [WriteEffect.due_singleton, OutboxWrite.effect]
      split
      · rfl
      · rfl

/-- A call issues writes, or one of those on their way is performed. -/
inductive WatchStep (w : WatchedOutbox) (call : OutboxCall) (w' : WatchedOutbox) : Prop
  | idle (same : w' = w)
  | issued (fresh : List OutboxWrite) (issues : Issues w.outbox w'.outbox fresh)
      (issued : w'.issued = w.issued ++ fresh) (performed : w'.performed = w.performed)
  | performed (position : Nat) (write : OutboxWrite) (written : call = .written position)
      (waiting : w.outbox.writes[position]? = some write)
      (entries : w'.outbox.entries = w.outbox.entries)
      (writes : w'.outbox.writes = w.outbox.writes.eraseIdx position)
      (stored : w'.outbox.stored = MessageOutbox.perform w.outbox.stored write)
      (issued : w'.issued = w.issued) (performed : w'.performed = w.performed ++ [write])

theorem watchStep_of_issues {fresh : List OutboxWrite} (h : Issues w.outbox (w.outbox.next call) fresh)
    (hcall : ∀ position, call ≠ .written position) : WatchStep w call (w.next call) := by
  have hdrop : (w.outbox.next call).writes.drop w.outbox.writes.length = fresh := by
    rw [h.writes, List.drop_left]
  cases call with
  | written position => exact absurd rfl (hcall position)
  | queueMessage entry => exact .issued fresh h (congrArg (w.issued ++ ·) hdrop) rfl
  | markOutboxMessageDelivered messageId deliveredAt =>
    exact .issued fresh h (congrArg (w.issued ++ ·) hdrop) rfl
  | settleOutboxMessage messageId => exact .issued fresh h (congrArg (w.issued ++ ·) hdrop) rfl

theorem watchStep_next (w : WatchedOutbox) (call : OutboxCall) : WatchStep w call (w.next call) := by
  cases call with
  | queueMessage entry =>
    exact watchStep_of_issues (issues_queueMessage w.outbox entry) (by simp)
  | markOutboxMessageDelivered messageId deliveredAt =>
    obtain ⟨fresh, hissues⟩ := issues_markOutboxMessageDelivered w.outbox messageId deliveredAt
    exact watchStep_of_issues hissues (by simp)
  | settleOutboxMessage messageId =>
    exact watchStep_of_issues (issues_settleOutboxMessage w.outbox messageId) (by simp)
  | written position =>
    cases hwrite : w.outbox.writes[position]? with
    | none =>
      refine .idle ?_
      simp [WatchedOutbox.next, MessageOutbox.next, MessageOutbox.settleWrite, hwrite]
    | some write =>
      have hsettle : w.outbox.settleWrite position true =
          { w.outbox with
            writes := w.outbox.writes.eraseIdx position
            stored := MessageOutbox.perform w.outbox.stored write } := by
        rw [MessageOutbox.settleWrite, hwrite]
        rfl
      have houtbox : (w.next (.written position)).outbox = _ := hsettle
      refine .performed position write rfl hwrite ?_ ?_ ?_ rfl ?_
      · rw [houtbox]
      · rw [houtbox]
      · rw [houtbox]
      · change w.performed ++ w.outbox.writes[position]?.toList = _
        rw [hwrite]
        rfl

namespace WatchedOutbox

theorem Tracks.step {w' : WatchedOutbox} (h : w.Tracks start) (hstep : WatchStep w call w') :
    w'.Tracks start := by
  cases hstep with
  | idle hsame => exact hsame ▸ h
  | issued fresh hissues hissued hperformed =>
    refine ⟨hissues.nodup h.nodup, ?_, fun messageId => ?_, fun messageId => ?_⟩
    · rw [hissues.writes, hissued, hperformed, ← List.append_assoc]
      exact h.perm.append_right fresh
    · rw [hissues.entries h.nodup, h.entries, hissued, WriteEffect.due_append]
    · rw [hissues.stored, h.stored, hperformed]
  | performed position write _ hwaiting hentries hwrites hstored hissued hperformed =>
    refine ⟨hentries ▸ h.nodup, ?_, fun messageId => ?_, fun messageId => ?_⟩
    · rw [hwrites, hissued, hperformed, List.append_assoc, List.singleton_append]
      refine (List.Perm.append_left _ ?_).trans h.perm
      obtain ⟨hlt, hget⟩ := List.getElem?_eq_some_iff.mp hwaiting
      rw [← hget]
      exact List.getElem_cons_eraseIdx_perm hlt
    · rw [hentries, h.entries, hissued]
    · rw [hstored, entryOf_perform, h.stored, hperformed, WriteEffect.due_append,
        WriteEffect.due_singleton]

def Catches (w : WatchedOutbox) : Prop :=
  ∀ messageId, WriteEffect.due OutboxWrite.effect w.outbox.writes
    (entryOf w.outbox.stored messageId) messageId = entryOf w.outbox.entries messageId

theorem Catches.next (h : w.Catches) (hnodup : (w.outbox.entries.map StoredOutboxEntry.messageId).Nodup)
    (hturn : w.InTurn call) : (w.next call).Catches := by
  cases watchStep_next w call with
  | idle hsame =>
    rw [hsame]
    exact h
  | issued fresh hissues _ _ =>
    intro messageId
    rw [hissues.writes, hissues.stored, WriteEffect.due_append, h messageId,
      hissues.entries hnodup]
  | performed position write hcall hwaiting hentries hwrites hstored _ _ =>
    intro messageId
    subst hcall
    rw [hwrites, hstored, hentries, entryOf_perform,
      WriteEffect.due_eraseIdx hwaiting (hturn messageId), h messageId]

end WatchedOutbox

end Track

/-- Once nothing is on its way, the stored outbox is the one in memory. -/
def OutboxStored : Prop :=
  ∀ start : MessageOutbox, start.Settled → ∀ calls,
    (Trace.run WatchedOutbox.next ⟨start, [], []⟩ calls).outbox.writes = [] →
      (Trace.run WatchedOutbox.next ⟨start, [], []⟩ calls).outbox.Stored

section Run

variable {start : MessageOutbox}

theorem tracks_start (h : start.Settled) : WatchedOutbox.Tracks start ⟨start, [], []⟩ where
  nodup := h.nodup
  perm := by simp [h.writes]
  entries := fun _ => rfl
  stored := fun _ => rfl

theorem tracks_run (h : start.Settled) (calls : List OutboxCall) :
    WatchedOutbox.Tracks start (Trace.run WatchedOutbox.next ⟨start, [], []⟩ calls) :=
  Trace.invariant (fun w call hw => hw.step (watchStep_next w call)) (tracks_start h) calls

theorem stored_of_catches {w : WatchedOutbox} (h : w.Catches) (hwrites : w.outbox.writes = []) :
    w.outbox.Stored := by
  intro messageId
  have hcatches := h messageId
  rw [hwrites, WriteEffect.due_nil] at hcatches
  exact hcatches

theorem stored_iff_of_tracks (h : start.Settled) {w : WatchedOutbox} (hw : w.Tracks start)
    (hwrites : w.outbox.writes = []) :
    w.outbox.Stored ↔ ∀ messageId, WriteEffect.latest OutboxWrite.effect w.performed messageId =
      WriteEffect.latest OutboxWrite.effect w.issued messageId := by
  have hperm : w.performed.Perm w.issued := by
    have hall := hw.perm
    rwa [hwrites, List.append_nil] at hall
  refine forall_congr' fun messageId => ?_
  rw [hw.stored, hw.entries, h.stored messageId, WriteEffect.due, WriteEffect.due]
  have hnone : WriteEffect.latest OutboxWrite.effect w.performed messageId = none ↔
      WriteEffect.latest OutboxWrite.effect w.issued messageId = none := by
    rw [WriteEffect.latest_eq_none_iff, WriteEffect.latest_eq_none_iff]
    exact forall_congr' fun write => imp_congr_left hperm.mem_iff
  cases hperformed : WriteEffect.latest OutboxWrite.effect w.performed messageId with
  | none =>
    rw [hnone.mp hperformed]
    exact iff_of_true rfl rfl
  | some row =>
    cases hissued : WriteEffect.latest OutboxWrite.effect w.issued messageId with
    | none => simp [hnone.mpr hissued] at hperformed
    | some row' => rw [Option.getD_some, Option.getD_some, Option.some.injEq]

end Run

/-- The stored outbox is the one in memory when no write of a message overtakes an older one, and
in general just when the write of each message that was performed last makes the same of its row
as the one that was issued last. -/
theorem outbox_stored (start : MessageOutbox) (h : start.Settled) (calls : List OutboxCall)
    (hwrites : (Trace.run WatchedOutbox.next ⟨start, [], []⟩ calls).outbox.writes = []) :
    (Trace.Meets WatchedOutbox.next WatchedOutbox.InTurn ⟨start, [], []⟩ calls →
      (Trace.run WatchedOutbox.next ⟨start, [], []⟩ calls).outbox.Stored) ∧
    ((Trace.run WatchedOutbox.next ⟨start, [], []⟩ calls).outbox.Stored ↔ ∀ messageId,
      WriteEffect.latest OutboxWrite.effect
          (Trace.run WatchedOutbox.next ⟨start, [], []⟩ calls).performed messageId =
        WriteEffect.latest OutboxWrite.effect
          (Trace.run WatchedOutbox.next ⟨start, [], []⟩ calls).issued messageId) := by
  refine ⟨fun hturns => ?_, stored_iff_of_tracks h (tracks_run h calls) hwrites⟩
  have hcatches : WatchedOutbox.Tracks start (Trace.run WatchedOutbox.next ⟨start, [], []⟩ calls) ∧
      (Trace.run WatchedOutbox.next ⟨start, [], []⟩ calls).Catches := by
    refine Trace.invariant_of_meets (P := fun w => w.Tracks start ∧ w.Catches)
      (fun w call hw hturn => ?_) ⟨tracks_start h, fun messageId => ?_⟩ hturns
    · exact ⟨hw.1.step (watchStep_next w call), hw.2.next hw.1.nodup hturn⟩
    · rw [h.writes, WriteEffect.due_nil]
      exact h.stored messageId
  exact stored_of_catches hcatches.2 hwrites

section Sample

def sampleEntry : StoredOutboxEntry where
  messageId := "m1"
  contactId := "alice"
  applicationMessageId := "a1"
  createdAt := 1
  nextAttemptAt := 1
  attempts := 0
  lastDeliveryId := none
  deliveredAt := none

theorem settled_empty : MessageOutbox.Settled {} where
  writes := rfl
  nodup := List.nodup_nil
  stored := fun _ => rfl

/-- The deletion of an entry that was settled is performed before the write that saves it. -/
theorem not_outboxStored_overtaken : ¬ OutboxStored := by
  intro h
  have hstored := h {} settled_empty
    [.queueMessage sampleEntry, .settleOutboxMessage "m1", .written 1, .written 0]
    (by decide +kernel) "m1"
  exact absurd hstored (by decide +kernel)

/-- The two writes are performed in the order in which they were issued. -/
theorem outbox_stored_inOrder :
    let calls := [OutboxCall.queueMessage sampleEntry, .settleOutboxMessage "m1", .written 0,
      .written 0]
    (Trace.Meets WatchedOutbox.next WatchedOutbox.InTurn ⟨{}, [], []⟩ calls →
      (Trace.run WatchedOutbox.next ⟨{}, [], []⟩ calls).outbox.Stored) ∧
    ((Trace.run WatchedOutbox.next ⟨{}, [], []⟩ calls).outbox.Stored ↔ ∀ messageId,
      WriteEffect.latest OutboxWrite.effect
          (Trace.run WatchedOutbox.next ⟨{}, [], []⟩ calls).performed messageId =
        WriteEffect.latest OutboxWrite.effect
          (Trace.run WatchedOutbox.next ⟨{}, [], []⟩ calls).issued messageId) :=
  outbox_stored {} settled_empty _ (by decide +kernel)

end Sample

end Branch.Pwa
