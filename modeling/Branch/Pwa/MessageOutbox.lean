import Branch.Pwa.Conversations

/-!
The outbox: the messages that the app still has to bring to their recipients, in the memory of
the tab and in the rows of the browser's database.
-/

namespace Branch.Pwa

open Branch.Lib

structure StoredOutboxEntry where
  messageId : String
  contactId : String
  applicationMessageId : String
  createdAt : Nat
  nextAttemptAt : Nat
  attempts : Nat
  lastDeliveryId : Option String
  deliveredAt : Option Nat
deriving DecidableEq

@[irreducible] def maxStoredOutboxEntries : Nat := 128

inductive OutboxWrite where
  | save (entry : StoredOutboxEntry)
  | delete (messageId : String)
deriving DecidableEq

structure MessageOutbox where
  entries : List StoredOutboxEntry := []
  /-- The writes on their way to the database, the oldest first. -/
  writes : List OutboxWrite := []
  stored : List StoredOutboxEntry := []

def without (entries : List StoredOutboxEntry) (messageId : String) : List StoredOutboxEntry :=
  entries.filter fun entry => entry.messageId ≠ messageId

namespace MessageOutbox

def find? (o : MessageOutbox) (messageId : String) : Option StoredOutboxEntry :=
  o.entries.find? fun entry => entry.messageId = messageId

/-- The entries that go when there are too many: those that were queued first. -/
def overflow (entries : List StoredOutboxEntry) : List StoredOutboxEntry :=
  entries.take (entries.length - maxStoredOutboxEntries)

def queueMessage (o : MessageOutbox) (entry : StoredOutboxEntry) : MessageOutbox :=
  let next := without o.entries entry.messageId ++ [entry]
  { o with
    entries := next.drop (next.length - maxStoredOutboxEntries)
    writes := o.writes ++ .save entry ::
      (overflow next).map fun removed => .delete removed.messageId }

def markOutboxMessageDelivered (o : MessageOutbox) (messageId : String) (deliveredAt : Nat) :
    MessageOutbox :=
  match o.find? messageId with
  | none => o
  | some existing =>
    let retained := { existing with deliveredAt := some deliveredAt }
    { o with
      entries := o.entries.map fun entry =>
        if entry.messageId = messageId then retained else entry
      writes := o.writes ++ [.save retained] }

def settleOutboxMessage (o : MessageOutbox) (messageId : String) : MessageOutbox :=
  { o with
    entries := without o.entries messageId
    writes := o.writes ++ [.delete messageId] }

/-- The entries of the messages leave the memory; the rows go with the messages' own rows. -/
def dropMessages (o : MessageOutbox) (messageIds : List String) : MessageOutbox :=
  { o with entries := o.entries.filter fun entry => entry.messageId ∉ messageIds }

def dropContact (o : MessageOutbox) (contactId : String) : MessageOutbox :=
  { o with entries := o.entries.filter fun entry => entry.contactId ≠ contactId }

def deleteStoredRows (o : MessageOutbox) (messageIds : List String) : MessageOutbox :=
  { o with stored := o.stored.filter fun entry => entry.messageId ∉ messageIds }

def deleteStoredOutboxForContact (o : MessageOutbox) (contactId : String) : MessageOutbox :=
  { o with stored := o.stored.filter fun entry => entry.contactId ≠ contactId }

def perform (stored : List StoredOutboxEntry) : OutboxWrite → List StoredOutboxEntry
  | .save entry => without stored entry.messageId ++ [entry]
  | .delete messageId => without stored messageId

/-- The write at a position ends, in success or not: none waits for another. -/
def settleWrite (o : MessageOutbox) (position : Nat) (completes : Bool) : MessageOutbox :=
  match o.writes[position]? with
  | none => o
  | some write =>
    { o with
      writes := o.writes.eraseIdx position
      stored := if completes then perform o.stored write else o.stored }

/-- The database returns its rows in the order of their keys. -/
def loadStoredOutbox (o : MessageOutbox) : List StoredOutboxEntry :=
  o.stored.insertionSort fun left right =>
    ¬ Utf16.units right.messageId < Utf16.units left.messageId

def reload (o : MessageOutbox) : MessageOutbox :=
  { o with
    writes := []
    entries := o.loadStoredOutbox.drop (o.stored.length - maxStoredOutboxEntries) }

section Spec

variable {o : MessageOutbox} {entry other : StoredOutboxEntry} {messageId : String}

theorem mem_without {entries : List StoredOutboxEntry} :
    other ∈ without entries messageId ↔ other ∈ entries ∧ other.messageId ≠ messageId := by
  rw [without, List.mem_filter, decide_eq_true_eq]

theorem maxStoredOutboxEntries_pos : 0 < maxStoredOutboxEntries := by
  unfold maxStoredOutboxEntries
  decide

theorem mem_entries_queueMessage (hmem : other ∈ without o.entries entry.messageId ++ [entry])
    (hnot : other ∉ overflow (without o.entries entry.messageId ++ [entry])) :
    other ∈ (o.queueMessage entry).entries := by
  unfold overflow at hnot
  rw [← List.take_append_drop ((without o.entries entry.messageId ++ [entry]).length -
    maxStoredOutboxEntries) (without o.entries entry.messageId ++ [entry])] at hmem
  rcases List.mem_append.mp hmem with hmem | hmem
  · exact absurd hmem hnot
  · exact hmem

theorem mem_entries_queueMessage_self (o : MessageOutbox) (entry : StoredOutboxEntry) :
    entry ∈ (o.queueMessage entry).entries := by
  have hpos := maxStoredOutboxEntries_pos
  change entry ∈ List.drop _ (without o.entries entry.messageId ++ [entry])
  rw [List.drop_append_of_le_length]
  · exact List.mem_append_right _ (List.mem_singleton.mpr rfl)
  · rw [List.length_append, List.length_singleton]
    omega

theorem length_entries_queueMessage_le (o : MessageOutbox) (entry : StoredOutboxEntry) :
    (o.queueMessage entry).entries.length ≤ maxStoredOutboxEntries := by
  change (List.drop _ (without o.entries entry.messageId ++ [entry])).length ≤ _
  rw [List.length_drop]
  omega

def Has (o : MessageOutbox) (messageId : String) : Prop :=
  ∃ entry ∈ o.entries, entry.messageId = messageId

/-- Only messages without an entry come to have none, while the entries are as many as there may
be. -/
def Keeps (o o' : MessageOutbox) : Prop :=
  o.entries.length ≤ maxStoredOutboxEntries →
    o'.entries.length ≤ maxStoredOutboxEntries ∧ ∀ messageId, o.Has messageId → o'.Has messageId

theorem Keeps.refl (o : MessageOutbox) : o.Keeps o := fun h => ⟨h, fun _ hhas => hhas⟩

theorem Keeps.trans {o o' o'' : MessageOutbox} (h : o.Keeps o') (h' : o'.Keeps o'') :
    o.Keeps o'' := by
  intro hlength
  obtain ⟨hlength', hhas⟩ := h hlength
  obtain ⟨hlength'', hhas'⟩ := h' hlength'
  exact ⟨hlength'', fun messageId hmem => hhas' messageId (hhas messageId hmem)⟩

theorem keeps_queueMessage (h : o.Has entry.messageId) : o.Keeps (o.queueMessage entry) := by
  intro hlength
  refine ⟨length_entries_queueMessage_le o entry, ?_⟩
  rintro messageId ⟨other, hother, rfl⟩
  by_cases hid : other.messageId = entry.messageId
  · exact ⟨entry, mem_entries_queueMessage_self o entry, hid.symm⟩
  · refine ⟨other, mem_entries_queueMessage ?_ ?_, rfl⟩
    · exact List.mem_append_left _ (mem_without.mpr ⟨hother, hid⟩)
    · obtain ⟨previous, hprevious, hprevious'⟩ := h
      have hshorter : (without o.entries entry.messageId).length < o.entries.length := by
        refine List.length_filter_lt_length_iff_exists.mpr ⟨previous, hprevious, ?_⟩
        simpa using hprevious'
      have hnone : overflow (without o.entries entry.messageId ++ [entry]) = [] := by
        unfold overflow
        rw [List.length_append, List.length_singleton, Nat.sub_eq_zero_of_le (by omega),
          List.take_zero]
      rw [hnone]
      exact List.not_mem_nil

theorem Keeps.of_entries_eq {o' : MessageOutbox} (h : o'.entries = o.entries) : o.Keeps o' := by
  intro hlength
  refine ⟨h ▸ hlength, ?_⟩
  rintro messageId ⟨entry, hmem, hid⟩
  exact ⟨entry, h ▸ hmem, hid⟩

theorem entries_settleWrite (o : MessageOutbox) (position : Nat) (completes : Bool) :
    (o.settleWrite position completes).entries = o.entries := by
  unfold settleWrite
  split
  · rfl
  · rfl

theorem keeps_markOutboxMessageDelivered (o : MessageOutbox) (messageId : String)
    (deliveredAt : Nat) : o.Keeps (o.markOutboxMessageDelivered messageId deliveredAt) := by
  unfold markOutboxMessageDelivered
  split
  · exact .refl o
  · rename_i existing hfind
    have hexisting : existing.messageId = messageId := by
      simpa using List.find?_some hfind
    intro hlength
    refine ⟨(List.length_map _).trans_le hlength, ?_⟩
    rintro _ ⟨entry, hmem, rfl⟩
    refine ⟨_, List.mem_map.mpr ⟨entry, hmem, rfl⟩, ?_⟩
    split
    · rename_i hid
      exact hexisting.trans hid.symm
    · rfl

theorem length_entries_reload_le (o : MessageOutbox) :
    o.reload.entries.length ≤ maxStoredOutboxEntries := by
  change (o.loadStoredOutbox.drop _).length ≤ _
  rw [List.length_drop, loadStoredOutbox, List.length_insertionSort]
  omega

theorem mem_drop_of_countP_le {α : Type*} {r : α → α → Prop} [DecidableRel r] {l : List α} {a : α}
    {n : Nat} (hl : l.Pairwise r) (ha : a ∈ l) (hrefl : r a a)
    (hcount : l.countP (fun b => r a b) ≤ n) : a ∈ l.drop (l.length - n) := by
  rw [← List.take_append_drop (l.length - n) l] at hl ha hcount
  rcases List.mem_append.mp ha with hbefore | hlast
  · exfalso
    have hpos : 0 < (l.take (l.length - n)).countP fun b => r a b :=
      List.countP_pos_iff.mpr ⟨a, hbefore, decide_eq_true hrefl⟩
    have hall : (l.drop (l.length - n)).countP (fun b => r a b) =
        (l.drop (l.length - n)).length :=
      List.countP_eq_length.mpr fun b hb =>
        decide_eq_true ((List.pairwise_append.mp hl).2.2 a hbefore b hb)
    have htake := List.length_pos_of_mem hbefore
    rw [List.countP_append, hall, List.length_drop] at hcount
    rw [List.length_take] at htake
    omega
  · exact hlast

theorem mem_entries_reload {row : StoredOutboxEntry} (hmem : row ∈ o.stored)
    (hcount : o.stored.countP (fun later =>
      ¬ Utf16.units later.messageId < Utf16.units row.messageId) ≤ maxStoredOutboxEntries) :
    row ∈ o.reload.entries := by
  let inOrder : StoredOutboxEntry → StoredOutboxEntry → Prop := fun left right =>
    ¬ Utf16.units right.messageId < Utf16.units left.messageId
  have htotal : Std.Total inOrder :=
    ⟨fun left right => List.le_total (Utf16.units left.messageId) (Utf16.units right.messageId)⟩
  have htrans : IsTrans StoredOutboxEntry inOrder :=
    ⟨fun _ _ _ hfirst hsecond => List.le_trans hfirst hsecond⟩
  have hperm : List.Perm o.loadStoredOutbox o.stored := List.perm_insertionSort _ _
  have hlast := mem_drop_of_countP_le (List.pairwise_insertionSort inOrder o.stored)
    ((List.mem_insertionSort inOrder).mpr hmem) (List.lt_irrefl _)
    ((hperm.countP_eq _).trans_le hcount)
  rw [List.length_insertionSort] at hlast
  exact hlast

end Spec

end MessageOutbox

end Branch.Pwa
