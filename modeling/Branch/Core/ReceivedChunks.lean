import Branch.Lib.Pieces
import Branch.Lib.Table

/-!
The chunks that a transfer has received, as the transfers of attachments and of images keep
them.
-/

namespace Branch.Core

open Branch.Lib

structure ReceivedChunks where
  chunks : Table Nat (List UInt8) := .empty
  receivedBytes : Nat := 0
  nextMissingIndex : Nat := 0

inductive ChunkArrival where
  | duplicate
  | conflicting
  | beyondReorder
  | stored (received : ReceivedChunks)
  | miscounted (received : ReceivedChunks)
  | full (received : ReceivedChunks) (file : List UInt8)

theorem mapM_eq_some_map {α β : Type} {f : α → Option β} {g : α → β} {l : List α}
    (h : ∀ a ∈ l, f a = some (g a)) : l.mapM f = some (l.map g) := by
  induction l with
  | nil => rfl
  | cons a l ih =>
    rw [List.mapM_cons, h a List.mem_cons_self, ih fun b hb => h b (List.mem_cons_of_mem a hb)]
    rfl

namespace ReceivedChunks

def clearChunks (received : ReceivedChunks) : ReceivedChunks :=
  { received with chunks := .empty, receivedBytes := 0 }

def set (received : ReceivedChunks) (index : Nat) (bytes : List UInt8) : ReceivedChunks :=
  let chunks := received.chunks.insert index bytes
  { chunks
    receivedBytes := received.receivedBytes + bytes.length
    nextMissingIndex :=
      Pieces.advance (fun i => (chunks.get? i).isSome) chunks.size received.nextMissingIndex }

/-- The file is as long as the bytes that were counted, and the chunks fill it. -/
def receive (received : ReceivedChunks) (maximumReorderChunks chunkCount byteCount index : Nat)
    (bytes : List UInt8) : ChunkArrival :=
  match received.chunks.get? index with
  | some existing => if existing = bytes then .duplicate else .conflicting
  | none =>
    if received.nextMissingIndex + maximumReorderChunks < index then .beyondReorder
    else
      let received := received.set index bytes
      if received.chunks.size ≠ chunkCount then .stored received
      else if received.receivedBytes ≠ byteCount then .miscounted received
      else
        match (List.range chunkCount).mapM received.chunks.get? with
        | none => .miscounted received
        | some pieces => .full received pieces.flatten

section Spec

variable {file : List UInt8} {chunkBytes chunkCount : Nat} {received : ReceivedChunks}
  {arrived : Finset Nat} {index : Nat}

/-- The chunks with these indices of a file are there, and their bytes are counted. -/
structure Holds (file : List UInt8) (chunkBytes chunkCount : Nat) (received : ReceivedChunks)
    (arrived : Finset Nat) : Prop where
  subset : arrived ⊆ Finset.range chunkCount
  get?_eq : ∀ i, received.chunks.get? i =
    if i ∈ arrived then some (Pieces.piece chunkBytes file i) else none
  receivedBytes_eq :
    received.receivedBytes = arrived.sum fun i => (Pieces.piece chunkBytes file i).length

def Next (received : ReceivedChunks) (arrived : Finset Nat) : Prop :=
  Pieces.FirstMissing (· ∈ arrived) received.nextMissingIndex

theorem Holds.size_eq (h : Holds file chunkBytes chunkCount received arrived) :
    received.chunks.size = arrived.card := by
  have hkeys : received.chunks.keys.toFinset = arrived := by
    ext i
    rw [List.mem_toFinset, Table.mem_keys_iff, h.get?_eq]
    split <;> simp_all
  rw [← Table.length_keys, ← List.toFinset_card_of_nodup (Table.keys_nodup _), hkeys]

theorem holds_empty : Holds file chunkBytes chunkCount {} ∅ := by
  refine ⟨Finset.empty_subset _, fun i => ?_, rfl⟩
  rw [if_neg (Finset.notMem_empty i)]
  exact Table.get?_empty i

theorem next_empty : Next {} ∅ :=
  ⟨Finset.notMem_empty 0, fun m hm => absurd hm (Nat.not_lt_zero m)⟩

theorem holds_clearChunks (received : ReceivedChunks) :
    Holds file chunkBytes chunkCount received.clearChunks ∅ := by
  refine ⟨Finset.empty_subset _, fun i => ?_, rfl⟩
  rw [if_neg (Finset.notMem_empty i)]
  exact Table.get?_empty i

theorem Holds.set (h : Holds file chunkBytes chunkCount received arrived)
    (hindex : index < chunkCount) (hnew : index ∉ arrived) :
    Holds file chunkBytes chunkCount (received.set index (Pieces.piece chunkBytes file index))
      (insert index arrived) := by
  refine ⟨?_, fun i => ?_, ?_⟩
  · exact Finset.insert_subset (Finset.mem_range.mpr hindex) h.subset
  · simp only [ReceivedChunks.set, Table.get?_insert, h.get?_eq, Finset.mem_insert]
    by_cases hi : i = index
    · simp [hi]
    · simp [hi]
  · rw [Finset.sum_insert hnew, ← h.receivedBytes_eq]
    exact Nat.add_comm _ _

theorem Next.set (h : Holds file chunkBytes chunkCount received arrived)
    (hnext : Next received arrived) (hindex : index < chunkCount) (hnew : index ∉ arrived) :
    Next (received.set index (Pieces.piece chunkBytes file index)) (insert index arrived) := by
  have hset := h.set hindex hnew
  have hhas : ∀ i, ((received.set index (Pieces.piece chunkBytes file index)).chunks.get?
      i).isSome = decide (i ∈ insert index arrived) := by
    intro i
    rw [hset.get?_eq]
    split <;> simp_all
  obtain ⟨k, hk, hle⟩ : ∃ k, k ∉ insert index arrived ∧
      k ≤ received.nextMissingIndex + (insert index arrived).card := by
    by_contra hall
    push Not at hall
    have hsubset : Finset.range (received.nextMissingIndex + (insert index arrived).card + 1) ⊆
        insert index arrived := by
      intro k hk
      by_contra hnot
      have hlt := hall k hnot
      have hle := Finset.mem_range.mp hk
      omega
    have hcard := Finset.card_le_card hsubset
    rw [Finset.card_range] at hcard
    omega
  have hfirst : Pieces.FirstMissing (fun i => decide (i ∈ insert index arrived) = true)
      (Pieces.advance (fun i => decide (i ∈ insert index arrived)) (insert index arrived).card
        received.nextMissingIndex) := by
    refine Pieces.firstMissing_advance (fun m hm => ?_) (decide_eq_false hk) hle
    exact decide_eq_true (Finset.mem_insert_of_mem (hnext.2 m hm))
  have hnextIndex :
      (received.set index (Pieces.piece chunkBytes file index)).nextMissingIndex =
        Pieces.advance (fun i => decide (i ∈ insert index arrived)) (insert index arrived).card
          received.nextMissingIndex := by
    rw [← hset.size_eq, ← funext hhas]
    rfl
  unfold Next
  rw [hnextIndex]
  simpa using hfirst

theorem Holds.receive_eq {maximumReorderChunks byteCount : Nat}
    (h : Holds file chunkBytes chunkCount received arrived)
    (hfile : file.length ≤ chunkCount * chunkBytes) (hbyteCount : file.length = byteCount)
    (hindex : index < chunkCount)
    (hwindow : index ≤ received.nextMissingIndex + maximumReorderChunks) :
    received.receive maximumReorderChunks chunkCount byteCount index
        (Pieces.piece chunkBytes file index) =
      if index ∈ arrived then .duplicate
      else if insert index arrived = Finset.range chunkCount then
        .full (received.set index (Pieces.piece chunkBytes file index)) file
      else .stored (received.set index (Pieces.piece chunkBytes file index)) := by
  unfold receive
  rw [h.get?_eq]
  by_cases hold : index ∈ arrived
  · simp [hold]
  have hset := h.set hindex hold
  have hsize := hset.size_eq
  rw [if_neg hold, if_neg hold]
  simp only [if_neg (Nat.not_lt.mpr hwindow)]
  by_cases hfull : insert index arrived = Finset.range chunkCount
  · have hcount : (received.set index (Pieces.piece chunkBytes file index)).chunks.size =
        chunkCount := by
      rw [hsize, hfull, Finset.card_range]
    have hbytes : (received.set index (Pieces.piece chunkBytes file index)).receivedBytes =
        byteCount := by
      rw [hset.receivedBytes_eq, hfull, Pieces.sum_length_piece chunkBytes file hfile, hbyteCount]
    have hpieces : (List.range chunkCount).mapM
        (received.set index (Pieces.piece chunkBytes file index)).chunks.get? =
          some ((List.range chunkCount).map (Pieces.piece chunkBytes file)) := by
      refine mapM_eq_some_map fun i hi => ?_
      rw [hset.get?_eq, if_pos (hfull ▸ Finset.mem_range.mpr (List.mem_range.mp hi))]
    rw [if_neg (not_not.mpr hcount), if_neg (not_not.mpr hbytes), hpieces, if_pos hfull]
    simp only
    rw [← List.flatMap_def, Pieces.flatMap_piece chunkBytes file hfile]
  · have hcount : (received.set index (Pieces.piece chunkBytes file index)).chunks.size ≠
        chunkCount := by
      intro hcount
      apply hfull
      refine Finset.eq_of_subset_of_card_le hset.subset ?_
      rw [Finset.card_range, ← hsize, hcount]
    rw [if_pos hcount, if_neg hfull]

end Spec

end ReceivedChunks

end Branch.Core
