import Branch.Lib.IndexedStore
import Branch.Lib.Trace
import Branch.Pwa.Tab
import Mathlib.Data.String.Basic

/-!
The deliveries that a device remembers, so that later receipts find their messages: of sent
messages, and of messages that were read already. Ids are plain tokens, whose characters the
database compares. Times are milliseconds.
-/

namespace Branch.Pwa

open Branch.Lib

def maxStoredTerminalReadTargets : Nat := 128

structure NewMessageDeliveryTarget where
  messageId : String
  contactId : String
  deliveryId : String
  createdAt : Nat
  deriving DecidableEq

structure StoredTerminalReadTarget where
  targetDeliveryId : String
  contactId : String
  expiresAt : Int
  deriving DecidableEq

def rememberedDeliveryIds (previous : List String) (next : String) : List String :=
  (next :: previous.filter fun candidate => candidate ≠ next).take maxDeliveryTargetsPerMessage

/-- `MESSAGE_DELIVERY_TARGETS_STORE` with its index `byCreatedAt`. -/
abbrev MessageDeliveryTargets : Type :=
  IndexedStore StoredMessageDeliveryTarget.messageId StoredMessageDeliveryTarget.createdAt

/-- `TERMINAL_READ_TARGETS_STORE` with its index `byExpiresAt`. -/
abbrev TerminalReadTargets : Type :=
  IndexedStore StoredTerminalReadTarget.targetDeliveryId StoredTerminalReadTarget.expiresAt

namespace MessageDeliveryTargets

inductive Event where
  | save (entry : NewMessageDeliveryTarget)
  | delete (messageId : String)
  | deleteForContact (contactId : String)

def written (store : MessageDeliveryTargets) (entry : NewMessageDeliveryTarget) :
    StoredMessageDeliveryTarget where
  messageId := entry.messageId
  contactId := entry.contactId
  deliveryIds := rememberedDeliveryIds
    (((store.get? entry.messageId).map (·.deliveryIds)).getD []) entry.deliveryId
  createdAt := entry.createdAt

def trimStoredTargets (store : MessageDeliveryTargets) : MessageDeliveryTargets :=
  store.trim maxStoredMessageDeliveryTargets

def saveStoredMessageDeliveryTarget (store : MessageDeliveryTargets)
    (entry : NewMessageDeliveryTarget) : MessageDeliveryTargets :=
  trimStoredTargets (store.put (written store entry))

def step (store : MessageDeliveryTargets) : Event → MessageDeliveryTargets
  | .save entry => saveStoredMessageDeliveryTarget store entry
  | .delete messageId => IndexedStore.delete store messageId
  | .deleteForContact contactId => store.filter fun target => target.contactId ≠ contactId

/-- A save leaves the target that was saved and, up to the bound, the newest of the others. -/
def SavesNewest (store : MessageDeliveryTargets) : Event → Prop
  | .save entry => IndexedStore.KeepsNewest maxStoredMessageDeliveryTargets store
      (written store entry) (saveStoredMessageDeliveryTarget store entry)
  | _ => True

/-- A save finds room, or nothing but targets of one time, one of them behind the new one. -/
def FitsOrTied (store : MessageDeliveryTargets) : Event → Prop
  | .save entry => IndexedStore.Room maxStoredMessageDeliveryTargets store (written store entry) ∨
      IndexedStore.Tied store (written store entry)
  | _ => True

theorem length_step_le {store : MessageDeliveryTargets}
    (h : store.records.length ≤ maxStoredMessageDeliveryTargets) (e : Event) :
    (step store e).records.length ≤ maxStoredMessageDeliveryTargets := by
  cases e with
  | save entry => exact IndexedStore.length_trim_le _ _
  | delete messageId => exact (IndexedStore.length_filter_le store _).trans h
  | deleteForContact contactId => exact (IndexedStore.length_filter_le store _).trans h

theorem savesNewest_iff {store : MessageDeliveryTargets}
    (h : store.records.length ≤ maxStoredMessageDeliveryTargets) (e : Event) :
    SavesNewest store e ↔ FitsOrTied store e := by
  cases e with
  | save entry => exact IndexedStore.keepsNewest_trim_iff h
  | delete messageId => exact Iff.rfl
  | deleteForContact contactId => exact Iff.rfl

theorem meets_savesNewest_iff (events : List Event) :
    Trace.Meets step SavesNewest IndexedStore.empty events ↔
      Trace.Meets step FitsOrTied IndexedStore.empty events :=
  Trace.meets_congr (P := fun store => store.records.length ≤ maxStoredMessageDeliveryTargets)
    (fun _ e h => length_step_le h e) (fun _ e h => savesNewest_iff h e) (Nat.zero_le _) events

end MessageDeliveryTargets

namespace TerminalReadTargets

/-- The transactions of the store that write. A search deletes what it finds expired. -/
inductive Event where
  | remember (entry : StoredTerminalReadTarget)
  | find (contactId targetDeliveryId : String) (now : Int)
  | deleteForContact (contactId : String)

def rememberTerminalReadTarget (store : TerminalReadTargets) (entry : StoredTerminalReadTarget) :
    TerminalReadTargets :=
  (store.put entry).trim maxStoredTerminalReadTargets

def findTerminalReadTarget (store : TerminalReadTargets) (contactId targetDeliveryId : String)
    (now : Int) : TerminalReadTargets × Option StoredTerminalReadTarget :=
  match store.get? targetDeliveryId with
  | none => (store, none)
  | some entry =>
    if entry.expiresAt ≤ now then (store.delete targetDeliveryId, none)
    else if entry.contactId ≠ contactId then (store, none)
    else (store, some entry)

def step (store : TerminalReadTargets) : Event → TerminalReadTargets
  | .remember entry => rememberTerminalReadTarget store entry
  | .find contactId targetDeliveryId now =>
    (findTerminalReadTarget store contactId targetDeliveryId now).1
  | .deleteForContact contactId => store.filter fun target => target.contactId ≠ contactId

/-- What is remembered stays and, up to the bound, what expires last of the others. -/
def RemembersNewest (store : TerminalReadTargets) : Event → Prop
  | .remember entry => IndexedStore.KeepsNewest maxStoredTerminalReadTargets store entry
      (rememberTerminalReadTarget store entry)
  | _ => True

def FitsOrTied (store : TerminalReadTargets) : Event → Prop
  | .remember entry => IndexedStore.Room maxStoredTerminalReadTargets store entry ∨
      IndexedStore.Tied store entry
  | _ => True

theorem length_step_le {store : TerminalReadTargets}
    (h : store.records.length ≤ maxStoredTerminalReadTargets) (e : Event) :
    (step store e).records.length ≤ maxStoredTerminalReadTargets := by
  cases e with
  | remember entry => exact IndexedStore.length_trim_le _ _
  | find contactId targetDeliveryId now =>
    rw [step, findTerminalReadTarget]
    split
    · exact h
    · split
      · exact (IndexedStore.length_filter_le store _).trans h
      · split
        · exact h
        · exact h
  | deleteForContact contactId => exact (IndexedStore.length_filter_le store _).trans h

theorem remembersNewest_iff {store : TerminalReadTargets}
    (h : store.records.length ≤ maxStoredTerminalReadTargets) (e : Event) :
    RemembersNewest store e ↔ FitsOrTied store e := by
  cases e with
  | remember entry => exact IndexedStore.keepsNewest_trim_iff h
  | find contactId targetDeliveryId now => exact Iff.rfl
  | deleteForContact contactId => exact Iff.rfl

theorem meets_remembersNewest_iff (events : List Event) :
    Trace.Meets step RemembersNewest IndexedStore.empty events ↔
      Trace.Meets step FitsOrTied IndexedStore.empty events :=
  Trace.meets_congr (P := fun store => store.records.length ≤ maxStoredTerminalReadTargets)
    (fun _ e h => length_step_le h e) (fun _ e h => remembersNewest_iff h e) (Nat.zero_le _) events

end TerminalReadTargets

/-- Both stores keep the newest targets in a run if and only if every target that is saved finds
room, or nothing but targets of one time. -/
theorem targets_newest_iff (saves : List MessageDeliveryTargets.Event)
    (reads : List TerminalReadTargets.Event) :
    (Trace.Meets MessageDeliveryTargets.step MessageDeliveryTargets.SavesNewest
        IndexedStore.empty saves ↔
      Trace.Meets MessageDeliveryTargets.step MessageDeliveryTargets.FitsOrTied
        IndexedStore.empty saves) ∧
    (Trace.Meets TerminalReadTargets.step TerminalReadTargets.RemembersNewest
        IndexedStore.empty reads ↔
      Trace.Meets TerminalReadTargets.step TerminalReadTargets.FitsOrTied
        IndexedStore.empty reads) :=
  ⟨MessageDeliveryTargets.meets_savesNewest_iff saves,
    TerminalReadTargets.meets_remembersNewest_iff reads⟩

/-- The message with this number, a millisecond behind the one before it. -/
def numbered (i : Nat) : NewMessageDeliveryTarget :=
  ⟨String.ofList (List.replicate i 'a'), "alice", "delivery", i⟩

def numberedTarget (i : Nat) : StoredMessageDeliveryTarget :=
  ⟨String.ofList (List.replicate i 'a'), "alice", ["delivery"], i⟩

theorem messageId_not_mem_numbered (n : Nat) :
    (numberedTarget n).messageId ∉
      ((List.range n).map numberedTarget).map StoredMessageDeliveryTarget.messageId := by
  simp only [numberedTarget, List.map_map, List.mem_map, List.mem_range, Function.comp_apply,
    not_exists, not_and]
  intro i hi heq
  have hlist := congrArg (fun s => s.toList.length) heq
  simp only [String.toList_ofList, List.length_replicate] at hlist
  omega

theorem records_run_numbered {n : Nat} (h : n ≤ maxStoredMessageDeliveryTargets) :
    (Trace.run MessageDeliveryTargets.step IndexedStore.empty
      ((List.range n).map fun i => .save (numbered i))).records =
      (List.range n).map numberedTarget := by
  induction n with
  | zero => rfl
  | succ n ih =>
    rw [List.range_succ, List.map_append, List.map_append, List.map_singleton,
      List.map_singleton, Trace.run_snoc]
    generalize hstore : Trace.run MessageDeliveryTargets.step IndexedStore.empty
      ((List.range n).map fun i => .save (numbered i)) = store
    have hrecords : store.records = (List.range n).map numberedTarget :=
      hstore ▸ ih (Nat.le_of_succ_le h)
    have hkey := messageId_not_mem_numbered n
    rw [← hrecords] at hkey
    have hnone : store.get? (numbered n).messageId = none :=
      List.find?_eq_none.mpr fun q hq heq => hkey
        (List.mem_map.mpr ⟨q, hq, of_decide_eq_true heq⟩)
    have hwritten : MessageDeliveryTargets.written store (numbered n) = numberedTarget n := by
      rw [MessageDeliveryTargets.written, hnone]
      rfl
    have hput : (store.put (numberedTarget n)).records =
        store.records ++ [numberedTarget n] := by
      refine IndexedStore.records_put_of_lt hkey fun q hq => ?_
      rw [hrecords] at hq
      obtain ⟨i, hi, rfl⟩ := List.mem_map.mp hq
      exact List.mem_range.mp hi
    show (IndexedStore.trim (store.put (MessageDeliveryTargets.written store (numbered n)))
      maxStoredMessageDeliveryTargets).records = _
    rw [IndexedStore.records_trim, hwritten, hput, hrecords, List.take_of_length_le]
    simpa using h

/-- The newest of 129 messages is lost at once. -/
theorem not_targets_newest :
    ¬ ∀ events, Trace.Meets MessageDeliveryTargets.step MessageDeliveryTargets.SavesNewest
      IndexedStore.empty events := by
  intro h
  have hmeets := (MessageDeliveryTargets.meets_savesNewest_iff _).mp
    (h ((List.range 128).map (fun i => .save (numbered i)) ++ [.save (numbered 128)]))
  have hfits := ((Trace.meets_snoc _ _ _ _ _).mp hmeets).2
  have hrecords := @records_run_numbered 128 (Nat.le_refl _)
  generalize Trace.run MessageDeliveryTargets.step IndexedStore.empty
    ((List.range 128).map fun i => .save (numbered i)) = store at hfits hrecords
  rcases hfits with (hroom | hroom) | htied
  · rw [hrecords, List.length_map, List.length_range] at hroom
    exact absurd hroom (by decide)
  · rw [hrecords] at hroom
    exact messageId_not_mem_numbered 128 hroom
  · have hmem (i : Nat) (hi : i < 128) : numberedTarget i ∈ store.records :=
      hrecords ▸ List.mem_map_of_mem (List.mem_range.mpr hi)
    have hsame := htied.1 _ (hmem 0 (by decide)) _ (hmem 1 (by decide))
    exact absurd hsame (by decide)

end Branch.Pwa
