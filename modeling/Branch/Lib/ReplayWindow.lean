import Branch.Lib.Table
import Mathlib.Data.List.Rotate

/-!
A fixed-capacity replay window: a map from keys to digests together with a ring
of the keys in the order in which they were remembered. A full ring evicts its
oldest key.
-/

namespace Branch.Lib

universe u v

structure ReplayWindow (K : Type u) (D : Type v) where
  capacity : Nat
  entries : Table K D
  order : List K
  next : Nat
  bounded : order.length ≤ capacity

namespace ReplayWindow

variable {K : Type u} {D : Type v} [DecidableEq K]

def empty (capacity : Nat) : ReplayWindow K D :=
  ⟨capacity, Table.empty, [], 0, Nat.zero_le _⟩

/-- The map with the key in the slot that is about to be overwritten removed. -/
def evicted (w : ReplayWindow K D) : Table K D :=
  match w.order[w.next]? with
  | none => w.entries
  | some old => w.entries.erase old

variable {w : ReplayWindow K D} {log : List (K × D)}

omit [DecidableEq K] in
theorem length_concat_le (key : K)
    (h : w.order.length < w.capacity) : (w.order ++ [key]).length ≤ w.capacity := by
  rw [List.length_append, List.length_singleton]
  omega

omit [DecidableEq K] in
theorem length_set_le (w : ReplayWindow K D) (key : K) :
    (w.order.set w.next key).length ≤ w.capacity := by
  rw [List.length_set]
  exact w.bounded

/-- Record a key. The window does not look whether the key is already there. -/
def remember (w : ReplayWindow K D) (key : K) (digest : D) : ReplayWindow K D :=
  if h : w.order.length < w.capacity then
    { w with
      entries := w.entries.insert key digest
      order := w.order ++ [key]
      bounded := length_concat_le key h }
  else
    { w with
      entries := w.evicted.insert key digest
      order := w.order.set w.next key
      next := (w.next + 1) % w.order.length
      bounded := w.length_set_le key }

@[simp] theorem remember_capacity (w : ReplayWindow K D) (key : K) (digest : D) :
    (w.remember key digest).capacity = w.capacity := by
  unfold remember
  split <;> rfl

/-- The ring position is where the next eviction happens, and stays at zero
until the ring is full. -/
structure Wf (w : ReplayWindow K D) : Prop where
  filling : w.order.length < w.capacity → w.next = 0
  full : w.order.length = w.capacity → w.next < w.capacity

omit [DecidableEq K] in
theorem wf_empty {capacity : Nat} (h : 0 < capacity) :
    (empty capacity : ReplayWindow K D).Wf :=
  ⟨fun _ => rfl, fun _ => h⟩

theorem Wf.remember (hw : w.Wf) (hpos : 0 < w.capacity)
    (key : K) (digest : D) : (w.remember key digest).Wf := by
  unfold ReplayWindow.remember
  split
  · rename_i hlt
    exact ⟨fun _ => hw.filling hlt, fun _ => by rw [hw.filling hlt]; exact hpos⟩
  · rename_i hge
    have hlen : w.order.length = w.capacity := by
      have := w.bounded
      omega
    refine ⟨?_, ?_⟩
    · intro h
      simp only [List.length_set] at h
      omega
    · intro _
      simp only [hlen]
      exact Nat.mod_lt _ hpos

def Covered (w : ReplayWindow K D) : Prop :=
  ∀ k, (w.entries.get? k).isSome → k ∈ w.order

theorem covered_empty (capacity : Nat) :
    (empty capacity : ReplayWindow K D).Covered := by
  intro k h
  simp [empty] at h

theorem Covered.remember (hc : w.Covered) (hw : w.Wf)
    (key : K) (digest : D) :
    (w.remember key digest).Covered := by
  intro k hk
  unfold ReplayWindow.remember at hk ⊢
  split at hk
  · rename_i hlt
    rw [dif_pos hlt]
    rw [Table.get?_insert] at hk
    by_cases hkey : k = key
    · simp [hkey]
    · rw [if_neg hkey] at hk
      exact List.mem_append_left _ (hc k hk)
  · rename_i hge
    rw [dif_neg hge]
    have hlen : w.order.length = w.capacity := by
      have := w.bounded
      omega
    have hnext : w.next < w.order.length := hlen ▸ hw.full hlen
    simp only [Table.get?_insert] at hk
    by_cases hkey : k = key
    · subst hkey
      exact List.mem_set hnext k
    · rw [if_neg hkey] at hk
      -- A key other than the evicted one keeps its own slot.
      have hslot : w.order[w.next]? = some w.order[w.next] :=
        List.getElem?_eq_getElem hnext
      simp only [evicted, hslot, Table.get?_erase] at hk
      split at hk
      · simp at hk
      · rename_i hne
        obtain ⟨i, hi, hget⟩ := List.mem_iff_getElem.mp (hc k hk)
        have hi' : i ≠ w.next := by
          rintro rfl
          exact hne hget.symm
        refine List.mem_iff_getElem.mpr ⟨i, by simpa using hi, ?_⟩
        rw [List.getElem_set_ne (Ne.symm hi')]
        exact hget

theorem Covered.size_le (hc : w.Covered) :
    w.entries.size ≤ w.capacity :=
  (Table.size_le_of_keys_subset hc).trans w.bounded

def oldestFirst (w : ReplayWindow K D) : List K := w.order.rotate w.next

theorem oldestFirst_remember_of_lt (hw : w.Wf)
    (hlt : w.order.length < w.capacity) (key : K) (digest : D) :
    (w.remember key digest).oldestFirst = w.oldestFirst ++ [key] := by
  simp only [oldestFirst, remember, dif_pos hlt, hw.filling hlt, List.rotate_zero]

omit [DecidableEq K] in
theorem rotate_set_succ {l : List K} {n : Nat} (hn : n < l.length) (key : K) :
    (l.set n key).rotate ((n + 1) % l.length) = (l.rotate n).tail ++ [key] := by
  have hrot : l.rotate n = l.drop n ++ l.take n :=
    List.rotate_eq_drop_append_take hn.le
  have htail : (l.rotate n).tail = l.drop (n + 1) ++ l.take n := by
    rw [hrot, List.drop_eq_getElem_cons hn]
    rfl
  have hdrop : (l.set n key).drop (n + 1) = l.drop (n + 1) :=
    List.drop_set_of_lt (Nat.lt_succ_self n)
  have htake : (l.set n key).take (n + 1) = l.take n ++ [key] := by
    rw [List.set_eq_take_append_cons_drop, if_pos hn]
    simp [List.take_append, List.length_take, Nat.min_eq_left hn.le]
  have hlen : l.length = (l.set n key).length := (List.length_set).symm
  rw [hlen, List.rotate_mod, List.rotate_eq_drop_append_take (by rw [List.length_set]; omega),
    hdrop, htake, htail, List.append_assoc]

theorem oldestFirst_remember_of_eq (hw : w.Wf)
    (hlen : w.order.length = w.capacity) (key : K) (digest : D) :
    (w.remember key digest).oldestFirst = w.oldestFirst.tail ++ [key] := by
  have hnext : w.next < w.order.length := hlen ▸ hw.full hlen
  simp only [oldestFirst, remember, dif_neg (show ¬w.order.length < w.capacity by omega)]
  exact rotate_set_succ hnext key

/-- The last `capacity` items of a log. -/
def recent {α : Type*} (capacity : Nat) (log : List α) : List α :=
  log.drop (log.length - capacity)

theorem recent_append_of_lt {α : Type*} {capacity : Nat} {log : List α} (a : α)
    (h : log.length < capacity) : recent capacity (log ++ [a]) = log ++ [a] := by
  simp [recent, show log.length + 1 - capacity = 0 by omega]

theorem recent_append_of_le {α : Type*} {capacity : Nat} {log : List α} (a : α)
    (hpos : 0 < capacity) (h : capacity ≤ log.length) :
    recent capacity (log ++ [a]) = (recent capacity log).tail ++ [a] := by
  have hdrop : log.length + 1 - capacity = (log.length - capacity) + 1 := by omega
  rw [recent, recent, List.length_append, List.length_singleton, hdrop,
    List.drop_append_of_le_length (by omega), List.tail_drop]

theorem length_recent {α : Type*} (capacity : Nat) (log : List α) :
    (recent capacity log).length = min capacity log.length := by
  simp only [recent, List.length_drop]
  omega

/-- Two entries of the log under one key have at least `capacity` others between
them. -/
def Spaced (capacity : Nat) (log : List (K × D)) : Prop :=
  ∀ (i j : Nat) a b, i < j → log[i]? = some a → log[j]? = some b → a.1 = b.1 →
    i + capacity < j

omit [DecidableEq K] in
theorem spaced_nil (capacity : Nat) : Spaced capacity ([] : List (K × D)) := by
  intro i j a b _ ha
  cases ha

omit [DecidableEq K] in
theorem spaced_snoc_iff {capacity : Nat} {e : K × D} :
    Spaced capacity (log ++ [e]) ↔
      Spaced capacity log ∧ e.1 ∉ (recent capacity log).map Prod.fst := by
  constructor
  · intro h
    refine ⟨?_, ?_⟩
    · intro i j a b hij ha hb hkey
      have hi := (List.getElem?_eq_some_iff.mp ha).1
      have hj := (List.getElem?_eq_some_iff.mp hb).1
      exact h i j a b hij (by rw [List.getElem?_append_left hi, ha])
        (by rw [List.getElem?_append_left hj, hb]) hkey
    · intro hmem
      obtain ⟨a, ha, hkey⟩ := List.mem_map.mp hmem
      obtain ⟨m, hm⟩ := List.mem_iff_getElem?.mp ha
      rw [recent, List.getElem?_drop] at hm
      have hlt := (List.getElem?_eq_some_iff.mp hm).1
      have hgap := h _ log.length a e hlt (by rw [List.getElem?_append_left hlt, hm])
        (by simp) hkey
      omega
  · rintro ⟨h, hfresh⟩ i j a b hij ha hb hkey
    have hj := (List.getElem?_eq_some_iff.mp hb).1
    rw [List.length_append, List.length_singleton] at hj
    have hi : i < log.length := by omega
    rw [List.getElem?_append_left hi] at ha
    rcases Nat.lt_or_ge j log.length with hlt | hge
    · rw [List.getElem?_append_left hlt] at hb
      exact h i j a b hij ha hb hkey
    · obtain rfl : j = log.length := by omega
      obtain rfl : e = b := by simpa using hb
      by_contra hgap
      apply hfresh
      refine List.mem_map.mpr ⟨a, List.mem_iff_getElem?.mpr ⟨i - (log.length - capacity), ?_⟩,
        hkey⟩
      rw [recent, List.getElem?_drop,
        show log.length - capacity + (i - (log.length - capacity)) = i by omega, ha]

/-- The window holds exactly the last `capacity` entries of the log, under
pairwise distinct keys. -/
structure Tracks (w : ReplayWindow K D) (log : List (K × D)) : Prop where
  wf : w.Wf
  order : w.oldestFirst = (recent w.capacity log).map Prod.fst
  entries : ∀ k d, w.entries.get? k = some d ↔ (k, d) ∈ recent w.capacity log
  distinct : ((recent w.capacity log).map Prod.fst).Nodup

theorem tracks_empty {capacity : Nat} (h : 0 < capacity) :
    (empty capacity : ReplayWindow K D).Tracks [] where
  wf := wf_empty h
  order := by simp [oldestFirst, empty, recent]
  entries := by simp [empty, recent]
  distinct := by simp [recent]

theorem Tracks.length_order (h : w.Tracks log) : w.order.length = min w.capacity log.length := by
  have hlen := congrArg List.length h.order
  simpa [oldestFirst, length_recent] using hlen

theorem Tracks.mem_order_iff (h : w.Tracks log) (k : K) :
    k ∈ w.order ↔ (w.entries.get? k).isSome := by
  rw [← List.mem_rotate (n := w.next)]
  change k ∈ w.oldestFirst ↔ _
  rw [h.order, List.mem_map, Option.isSome_iff_exists]
  constructor
  · rintro ⟨⟨k', d⟩, hmem, rfl⟩
    exact ⟨d, (h.entries k' d).mpr hmem⟩
  · rintro ⟨d, hd⟩
    exact ⟨(k, d), (h.entries k d).mp hd, rfl⟩

theorem Tracks.nodup_order (h : w.Tracks log) : w.order.Nodup := by
  rw [← List.nodup_rotate (n := w.next)]
  change w.oldestFirst.Nodup
  rw [h.order]
  exact h.distinct

theorem Tracks.not_mem_recent (h : w.Tracks log) {key : K} (hfresh : w.entries.get? key = none) :
    key ∉ (recent w.capacity log).map Prod.fst := by
  intro hmem
  obtain ⟨⟨k, d⟩, hkd, rfl⟩ := List.mem_map.mp hmem
  have := (h.entries k d).mpr hkd
  rw [hfresh] at this
  cases this

theorem Tracks.remember (h : w.Tracks log) (hpos : 0 < w.capacity) {key : K} (digest : D)
    (hfresh : w.entries.get? key = none) :
    (w.remember key digest).Tracks (log ++ [(key, digest)]) := by
  have hnotin := h.not_mem_recent hfresh
  have hlenOrder := h.length_order
  by_cases hlt : w.order.length < w.capacity
  · have hlog : log.length < w.capacity := by omega
    have hrecent : recent w.capacity log = log := by
      simp [recent, show log.length - w.capacity = 0 by omega]
    have happend := recent_append_of_lt (key, digest) hlog
    rw [hrecent] at hnotin
    refine ⟨h.wf.remember hpos key digest, ?_, ?_, ?_⟩
    · rw [oldestFirst_remember_of_lt h.wf hlt, remember_capacity, happend, h.order,
        hrecent]
      simp
    · intro k d
      rw [remember_capacity, happend]
      simp only [ReplayWindow.remember, dif_pos hlt, Table.get?_insert,
        List.mem_append, List.mem_singleton, Prod.mk.injEq]
      rw [← hrecent, ← h.entries k d]
      by_cases hk : k = key
      · subst hk
        simp [hfresh, eq_comm]
      · simp [hk]
    · rw [remember_capacity, happend, List.map_append, List.nodup_append]
      refine ⟨hrecent ▸ h.distinct, by simp, ?_⟩
      intro a ha b hb
      simp only [List.map_cons, List.map_nil, List.mem_singleton] at hb
      subst hb
      rintro rfl
      exact hnotin ha
  · have hlen : w.order.length = w.capacity := by
      have := w.bounded
      omega
    have hlog : w.capacity ≤ log.length := by omega
    have happend := recent_append_of_le (key, digest) hpos hlog
    have hnext : w.next < w.order.length := hlen ▸ h.wf.full hlen
    -- The slot about to be overwritten holds the oldest key of the log window.
    obtain ⟨⟨old, oldDigest⟩, rest, hcons⟩ :
        ∃ e rest, recent w.capacity log = e :: rest := by
      apply List.exists_cons_of_length_pos
      rw [length_recent]
      omega
    have hslot : w.order[w.next]? = some old := by
      have horder := h.order
      rw [hcons, oldestFirst, List.rotate_eq_drop_append_take hnext.le,
        List.drop_eq_getElem_cons hnext] at horder
      simp only [List.cons_append, List.map_cons, List.cons.injEq] at horder
      rw [List.getElem?_eq_getElem hnext, horder.1]
    have hdistinct := h.distinct
    rw [hcons, List.map_cons, List.nodup_cons] at hdistinct
    rw [hcons, List.tail_cons] at happend
    rw [hcons, List.map_cons, List.mem_cons, not_or] at hnotin
    refine ⟨h.wf.remember hpos key digest, ?_, ?_, ?_⟩
    · rw [oldestFirst_remember_of_eq h.wf hlen, remember_capacity, happend, h.order,
        hcons]
      simp
    · intro k d
      rw [remember_capacity, happend]
      simp only [ReplayWindow.remember, dif_neg hlt, Table.get?_insert, evicted,
        hslot, Table.get?_erase, List.mem_append, List.mem_singleton,
        Prod.mk.injEq]
      by_cases hk : k = key
      · subst hk
        have hrest : (k, d) ∉ rest := fun hmem =>
          hnotin.2 (List.mem_map.mpr ⟨(k, d), hmem, rfl⟩)
        simp [hrest, eq_comm]
      · rw [if_neg hk]
        by_cases hold : k = old
        · subst hold
          have hrest : (k, d) ∉ rest := fun hmem =>
            hdistinct.1 (List.mem_map.mpr ⟨(k, d), hmem, rfl⟩)
          simp [hrest, hk]
        · rw [if_neg hold, h.entries k d, hcons]
          simp [hold, hk]
    · rw [remember_capacity, happend, List.map_append, List.nodup_append]
      refine ⟨hdistinct.2, by simp, ?_⟩
      intro a ha b hb
      simp only [List.map_cons, List.map_nil, List.mem_singleton] at hb
      subst hb
      rintro rfl
      exact hnotin.2 ha

end ReplayWindow

end Branch.Lib
