import Mathlib.Data.Finset.Card

/-!
The first entries of a list under distinct keys, up to a number of them: what is kept depends
on the order of the list, and what is kept in every order is told from the keys alone.
-/

namespace Branch.Lib

universe u v

variable {α : Type u} {κ : Type v} [DecidableEq κ]

/-- The first entries under keys not seen, at most `n` of them. -/
def firstWins (key : α → κ) : Nat → List κ → List α → List α
  | 0, _, _ => []
  | _, _, [] => []
  | n + 1, seen, x :: xs =>
    if key x ∈ seen then firstWins key (n + 1) seen xs
    else x :: firstWins key n (key x :: seen) xs

def keysOf (key : α → κ) (xs : List α) : Finset κ := (xs.map key).toFinset

/-- The first run through a list that keeps entries at its end. -/
def keepFirst (key : α → κ) (limit : Nat) : List κ → List α → List α → List α
  | _, kept, [] => kept
  | seen, kept, x :: xs =>
    if key x ∈ seen then keepFirst key limit seen kept xs
    else if limit ≤ (kept ++ [x]).length then kept ++ [x]
    else keepFirst key limit (key x :: seen) (kept ++ [x]) xs

section Basic

variable {key : α → κ} {n : Nat} {seen : List κ} {x y : α} {xs ys zs : List α}

@[simp] theorem mem_keysOf {k : κ} : k ∈ keysOf key xs ↔ ∃ x ∈ xs, key x = k := by
  simp [keysOf]

theorem mem_keysOf_of_mem (h : x ∈ xs) : key x ∈ keysOf key xs :=
  mem_keysOf.mpr ⟨x, h, rfl⟩

theorem keysOf_subset (h : ∀ x ∈ xs, ∃ y ∈ ys, key y = key x) :
    keysOf key xs ⊆ keysOf key ys := by
  intro k hk
  obtain ⟨x, hx, rfl⟩ := mem_keysOf.mp hk
  exact mem_keysOf.mpr (h x hx)

theorem keysOf_perm (h : xs.Perm ys) : keysOf key xs = keysOf key ys :=
  List.toFinset_eq_of_perm _ _ (h.map key)

@[simp] theorem firstWins_zero : firstWins key 0 seen xs = [] := by
  cases xs <;> rfl

@[simp] theorem firstWins_nil : firstWins key n seen [] = [] := by
  cases n <;> rfl

theorem firstWins_cons_seen (h : key x ∈ seen) :
    firstWins key n seen (x :: xs) = firstWins key n seen xs := by
  cases n with
  | zero => simp
  | succ n => rw [firstWins, if_pos h]

theorem firstWins_cons_new (h : key x ∉ seen) :
    firstWins key (n + 1) seen (x :: xs) = x :: firstWins key n (key x :: seen) xs := by
  rw [firstWins, if_neg h]

theorem keepFirst_eq {limit : Nat} {kept : List α} (h : kept.length < limit) :
    keepFirst key limit seen kept xs =
      kept ++ firstWins key (limit - kept.length) seen xs := by
  induction xs generalizing seen kept with
  | nil => simp [keepFirst]
  | cons x xs ih =>
    rw [keepFirst]
    by_cases hseen : key x ∈ seen
    · rw [if_pos hseen, firstWins_cons_seen hseen, ih h]
    · have hsucc : limit - kept.length = limit - (kept.length + 1) + 1 := by omega
      rw [if_neg hseen, hsucc, firstWins_cons_new hseen]
      by_cases hfull : limit ≤ (kept ++ [x]).length
      · have hzero : limit - (kept.length + 1) = 0 := by
          rw [List.length_append, List.length_singleton] at hfull
          omega
        rw [if_pos hfull, hzero, firstWins_zero]
      · rw [if_neg hfull, ih (by omega), List.length_append, List.length_singleton,
          List.append_assoc, List.singleton_append]

@[simp] theorem keysOf_nil : keysOf key [] = ∅ := rfl

@[simp] theorem keysOf_cons : keysOf key (x :: xs) = insert (key x) (keysOf key xs) :=
  List.toFinset_cons

@[simp] theorem keysOf_append : keysOf key (xs ++ ys) = keysOf key xs ∪ keysOf key ys := by
  rw [keysOf, List.map_append, List.toFinset_append]
  rfl

theorem keysOf_filter_subset {p : α → Prop} [DecidablePred p] :
    keysOf key (xs.filter fun x => p x) ⊆ keysOf key xs :=
  keysOf_subset fun x hx => ⟨x, List.mem_of_mem_filter hx, rfl⟩

private theorem new_of_seen {ks : Finset κ} {k : κ} (h : k ∈ seen) :
    insert k ks \ seen.toFinset = ks \ seen.toFinset :=
  Finset.insert_sdiff_of_mem _ (List.mem_toFinset.mpr h)

private theorem card_new_of_new {ks : Finset κ} {k : κ} (h : k ∉ seen) :
    (insert k ks \ seen.toFinset).card = (ks \ (k :: seen).toFinset).card + 1 := by
  have hsplit : insert k ks \ seen.toFinset = insert k (ks \ (k :: seen).toFinset) := by
    ext a
    simp only [Finset.mem_sdiff, Finset.mem_insert, List.mem_toFinset, List.mem_cons]
    by_cases ha : a = k
    · simp [ha, h]
    · simp [ha]
  rw [hsplit, Finset.card_insert_of_notMem (by simp)]

/-- An entry is kept where fewer than `n` new keys stand before it, and not its own. -/
theorem mem_firstWins_iff :
    x ∈ firstWins key n seen xs ↔
      ∃ ys zs, xs = ys ++ x :: zs ∧ key x ∉ seen ∧ key x ∉ keysOf key ys ∧
        (keysOf key ys \ seen.toFinset).card < n := by
  induction xs generalizing n seen with
  | nil => simp
  | cons y xs ih =>
    by_cases hseen : key y ∈ seen
    · rw [firstWins_cons_seen hseen, ih]
      constructor
      · rintro ⟨ys, zs, rfl, hx, hys, hcard⟩
        have hne : key x ≠ key y := fun h => hx (h ▸ hseen)
        refine ⟨y :: ys, zs, rfl, hx, ?_, ?_⟩
        · simp only [keysOf_cons, Finset.mem_insert, not_or]
          exact ⟨hne, hys⟩
        · rw [keysOf_cons, new_of_seen hseen]
          exact hcard
      · rintro ⟨ys, zs, hxs, hx, hys, hcard⟩
        cases ys with
        | nil =>
          obtain ⟨rfl, rfl⟩ := List.cons.inj hxs
          exact absurd hseen hx
        | cons y' ys =>
          obtain ⟨rfl, rfl⟩ := List.cons.inj hxs
          rw [keysOf_cons, new_of_seen hseen] at hcard
          exact ⟨ys, zs, rfl, hx, fun h => hys (by simp [h]), hcard⟩
    · cases n with
      | zero => simp
      | succ n =>
        rw [firstWins_cons_new hseen, List.mem_cons, ih]
        constructor
        · rintro (rfl | ⟨ys, zs, rfl, hx, hys, hcard⟩)
          · exact ⟨[], xs, rfl, hseen, by simp, by simp⟩
          · obtain ⟨hne, hx⟩ := not_or.mp (List.mem_cons.not.mp hx)
            refine ⟨y :: ys, zs, rfl, hx, ?_, ?_⟩
            · simp only [keysOf_cons, Finset.mem_insert, not_or]
              exact ⟨hne, hys⟩
            · rw [keysOf_cons, card_new_of_new hseen]
              omega
        · rintro ⟨ys, zs, hxs, hx, hys, hcard⟩
          cases ys with
          | nil =>
            obtain ⟨rfl, rfl⟩ := List.cons.inj hxs
            exact .inl rfl
          | cons y' ys =>
            obtain ⟨rfl, rfl⟩ := List.cons.inj hxs
            simp only [keysOf_cons, Finset.mem_insert, not_or] at hys
            rw [keysOf_cons, card_new_of_new hseen] at hcard
            exact .inr ⟨ys, zs, rfl, List.mem_cons.not.mpr (not_or.mpr ⟨hys.1, hx⟩), hys.2, by omega⟩

theorem mem_firstWins :
    x ∈ firstWins key n [] xs ↔
      ∃ ys zs, xs = ys ++ x :: zs ∧ key x ∉ keysOf key ys ∧ (keysOf key ys).card < n := by
  rw [mem_firstWins_iff]
  simp

theorem mem_of_firstWins (h : x ∈ firstWins key n seen xs) : x ∈ xs := by
  obtain ⟨ys, zs, rfl, _⟩ := mem_firstWins_iff.mp h
  exact List.mem_append_right _ List.mem_cons_self

theorem mem_firstWins_head : x ∈ firstWins key (n + 1) [] (x :: xs) :=
  mem_firstWins.mpr ⟨[], xs, rfl, by simp, by simp⟩

theorem firstWins_inj (hx : x ∈ firstWins key n [] xs) (hy : y ∈ firstWins key n [] xs)
    (h : key x = key y) : x = y := by
  obtain ⟨as, bs, rfl, hx, _⟩ := mem_firstWins.mp hx
  obtain ⟨cs, ds, hxs, hy, _⟩ := mem_firstWins.mp hy
  rcases List.append_eq_append_iff.mp hxs with ⟨es, rfl, hes⟩ | ⟨es, rfl, hes⟩
  · cases es with
    | nil => exact (List.cons.inj hes).1
    | cons e es =>
      obtain ⟨rfl, _⟩ := List.cons.inj hes
      exact absurd (mem_keysOf_of_mem (List.mem_append_right _ List.mem_cons_self)) (h ▸ hy)
  · cases es with
    | nil => exact (List.cons.inj hes).1.symm
    | cons e es =>
      obtain ⟨rfl, _⟩ := List.cons.inj hes
      exact absurd (mem_keysOf_of_mem (List.mem_append_right _ List.mem_cons_self)) (h ▸ hx)

/-- Behind a list that it is not in, an entry is kept only where the keys of that list leave
room for it. -/
theorem room_of_mem_firstWins (h : x ∈ firstWins key n [] (xs ++ ys)) (hx : x ∉ xs) :
    key x ∉ keysOf key xs ∧ (keysOf key xs).card < n := by
  obtain ⟨as, bs, hsplit, hkey, hcard⟩ := mem_firstWins.mp h
  have hsub : ∃ cs, as = xs ++ cs := by
    rcases List.append_eq_append_iff.mp hsplit with ⟨cs, rfl, _⟩ | ⟨cs, rfl, hcs⟩
    · exact ⟨cs, rfl⟩
    · cases cs with
      | nil => exact ⟨[], by simp⟩
      | cons c cs =>
        obtain ⟨rfl, _⟩ := List.cons.inj hcs
        exact absurd (List.mem_append_right _ List.mem_cons_self) hx
  obtain ⟨cs, rfl⟩ := hsub
  rw [keysOf_append, Finset.notMem_union] at hkey
  refine ⟨hkey.1, lt_of_le_of_lt (Finset.card_le_card ?_) hcard⟩
  rw [keysOf_append]
  exact Finset.subset_union_left

end Basic

section Orders

variable {key : α → κ} {n : Nat} {x y : α} {xs ys : List α} {p : α → Prop} [DecidablePred p]

private theorem split_at_first (hx : x ∈ xs) (hp : p x) :
    ∃ y ys zs, xs = ys ++ y :: zs ∧ p y ∧ ∀ z ∈ ys, ¬ p z := by
  have hfind : ∃ y, xs.find? (fun z => p z) = some y := by
    rw [← Option.isSome_iff_exists, List.find?_isSome]
    exact ⟨x, hx, by simpa using hp⟩
  obtain ⟨y, hy⟩ := hfind
  obtain ⟨hpy, ys, zs, hxs, hys⟩ := List.find?_eq_some_iff_append.mp hy
  exact ⟨y, ys, zs, hxs, by simpa using hpy, fun z hz => by simpa using hys z hz⟩

/-- Where the other entries have fewer than `n` keys, and do not have the key of an entry that
`p` names, an entry that `p` names is kept. -/
theorem exists_mem_firstWins (hx : x ∈ xs) (hp : p x)
    (hkey : key x ∉ keysOf key (xs.filter fun y => ¬ p y))
    (hcard : (keysOf key (xs.filter fun y => ¬ p y)).card < n) :
    ∃ y ∈ firstWins key n [] xs, p y := by
  obtain ⟨y, ys, zs, hxs, ⟨hpy, hy⟩, hys⟩ :=
    split_at_first (p := fun y => p y ∧ key y ∉ keysOf key (xs.filter fun y => ¬ p y)) hx
      ⟨hp, hkey⟩
  have hsub : keysOf key ys ⊆ keysOf key (xs.filter fun y => ¬ p y) := by
    intro k hk
    obtain ⟨z, hz, rfl⟩ := mem_keysOf.mp hk
    by_cases hpz : p z
    · by_contra hout
      exact hys z hz ⟨hpz, hout⟩
    · have hmem : z ∈ xs := hxs ▸ List.mem_append_left _ hz
      exact mem_keysOf_of_mem (List.mem_filter.mpr ⟨hmem, by simpa using hpz⟩)
  exact ⟨y, mem_firstWins.mpr ⟨ys, zs, hxs, fun h => hy (hsub h),
    lt_of_le_of_lt (Finset.card_le_card hsub) hcard⟩, hpy⟩

theorem filter_append_filter_not_perm :
    (xs.filter (fun y => p y) ++ xs.filter fun y => ¬ p y).Perm xs := by
  have h := List.filter_append_perm (fun y => decide (p y)) xs
  simpa using h

/-- An entry that `p` names is kept in every order. -/
theorem forall_perm_mem_firstWins_iff :
    (∀ ys : List α, ys.Perm xs → ∃ y ∈ firstWins key n [] ys, p y) ↔
      (∃ x ∈ xs, p x ∧ key x ∉ keysOf key (xs.filter fun y => ¬ p y)) ∧
        (keysOf key (xs.filter fun y => ¬ p y)).card < n := by
  constructor
  · intro h
    have hperm : (xs.filter (fun y => ¬ p y) ++ xs.filter fun y => p y).Perm xs :=
      List.perm_append_comm.trans filter_append_filter_not_perm
    obtain ⟨y, hy, hp⟩ := h _ hperm
    have hout : y ∉ xs.filter fun y => ¬ p y := by
      simp [List.mem_filter, hp]
    obtain ⟨hkey, hcard⟩ := room_of_mem_firstWins hy hout
    have hmem : y ∈ xs := hperm.mem_iff.mp (mem_of_firstWins hy)
    exact ⟨⟨y, hmem, hp, hkey⟩, hcard⟩
  · rintro ⟨⟨x, hx, hp, hkey⟩, hcard⟩ ys hperm
    have hkeys : keysOf key (ys.filter fun y => ¬ p y) =
        keysOf key (xs.filter fun y => ¬ p y) :=
      keysOf_perm (hperm.filter _)
    rw [← hkeys] at hkey hcard
    exact exists_mem_firstWins (hperm.mem_iff.mpr hx) hp hkey hcard

/-- Up to `n` keys, an entry is kept for each. -/
theorem exists_key_mem_firstWins (hcard : (keysOf key xs).card ≤ n) (hx : x ∈ xs) :
    ∃ y ∈ firstWins key n [] xs, key y = key x := by
  have hsub : keysOf key (xs.filter fun y => ¬ key y = key x) ⊆ (keysOf key xs).erase (key x) := by
    intro k hk
    obtain ⟨z, hz, rfl⟩ := mem_keysOf.mp hk
    obtain ⟨hz, hne⟩ := List.mem_filter.mp hz
    exact Finset.mem_erase.mpr ⟨by simpa using hne, mem_keysOf_of_mem hz⟩
  have hlt : ((keysOf key xs).erase (key x)).card < (keysOf key xs).card :=
    Finset.card_erase_lt_of_mem (mem_keysOf_of_mem hx)
  refine exists_mem_firstWins (p := fun y => key y = key x) hx rfl
    (fun h => (Finset.mem_erase.mp (hsub h)).1 rfl) ?_
  have := Finset.card_le_card hsub
  omega

end Orders

section Admitted

variable {key : α → κ} {n : Nat} {x y : α} {xs ys : List α}
  {a p : α → Prop} [DecidablePred a] [DecidablePred p]

/-- The keys that can stand before an entry which is kept when only the entries that `a`
names are there. -/
def foreKeys (key : α → κ) (a p : α → Prop) [DecidablePred a] [DecidablePred p]
    (xs : List α) (y : α) : Finset κ :=
  keysOf key (xs.filter fun z => ¬ a z) ∪
    keysOf key (xs.filter fun z => a z ∧ ¬ p z ∧ key z ≠ key y)

theorem foreKeys_perm (h : xs.Perm ys) : foreKeys key a p xs y = foreKeys key a p ys y := by
  rw [foreKeys, foreKeys, keysOf_perm (h.filter _),
    keysOf_perm (h.filter fun z => a z ∧ ¬ p z ∧ key z ≠ key y)]

/-- An entry that is kept when only the entries that `a` names are there has one before it
or at its place that is kept among all, where there is room for what can stand before it. -/
theorem exists_mem_firstWins_of_filter (hpa : ∀ z ∈ xs, p z → a z)
    (hdisjoint : ∀ z ∈ xs, ∀ w ∈ xs, a z → ¬ a w → key z ≠ key w)
    (hroom : ∀ y ∈ xs, p y → (foreKeys key a p xs y).card < n)
    (hx : x ∈ firstWins key n [] (xs.filter fun z => a z)) (hp : p x) :
    ∃ y ∈ firstWins key n [] xs, p y := by
  obtain ⟨as, bs, hsplit, hkey, _⟩ := mem_firstWins.mp hx
  have hmem : x ∈ xs := List.mem_of_mem_filter (mem_of_firstWins hx)
  -- the first entry named by `p` that none of the others before `x` shadows
  obtain ⟨y, ys, zs, hxs, ⟨hpy, hy⟩, hys⟩ :=
    split_at_first (p := fun z => p z ∧ key z ∉ keysOf key (as.filter fun w => ¬ p w)) hmem
      ⟨hp, fun h => hkey (keysOf_filter_subset h)⟩
  have hmemy : y ∈ xs := hxs ▸ List.mem_append_right _ List.mem_cons_self
  have hay : a y := hpa y hmemy hpy
  have hbefore : ∀ z ∈ ys, a z → z ∈ as := by
    have hfilter : (ys.filter fun z => a z) ++ y :: (zs.filter fun z => a z) = as ++ x :: bs := by
      rw [← hsplit, hxs, List.filter_append, List.filter_cons_of_pos (by simpa using hay)]
    intro z hz haz
    have hzs : z ∈ ys.filter fun z => a z := List.mem_filter.mpr ⟨hz, by simpa using haz⟩
    rcases List.append_eq_append_iff.mp hfilter with ⟨cs, rfl, _⟩ | ⟨cs, hcs, hrest⟩
    · exact List.mem_append_left _ hzs
    · cases cs with
      | nil => rwa [hcs, List.append_nil] at hzs
      | cons c cs =>
        obtain ⟨rfl, _⟩ := List.cons.inj hrest
        have hxys : x ∈ ys.filter fun z => a z :=
          hcs ▸ List.mem_append_right _ List.mem_cons_self
        exact absurd ⟨hp, fun h => hkey (keysOf_filter_subset h)⟩
          (hys x (List.mem_of_mem_filter hxys))
  have hsub : keysOf key ys ⊆ foreKeys key a p xs y := by
    intro k hk
    obtain ⟨z, hz, rfl⟩ := mem_keysOf.mp hk
    have hmemz : z ∈ xs := hxs ▸ List.mem_append_left _ hz
    by_cases haz : a z
    · have hshadow : key z ∈ keysOf key (as.filter fun w => ¬ p w) := by
        by_cases hpz : p z
        · by_contra hout
          exact hys z hz ⟨hpz, hout⟩
        · exact mem_keysOf_of_mem
            (List.mem_filter.mpr ⟨hbefore z hz haz, by simpa using hpz⟩)
      obtain ⟨w, hw, hwz⟩ := mem_keysOf.mp hshadow
      obtain ⟨hwas, hpw⟩ := List.mem_filter.mp hw
      have hwxs : w ∈ xs.filter fun z => a z :=
        hsplit ▸ List.mem_append_left _ hwas
      have hne : key w ≠ key y := fun h => hy (h ▸ mem_keysOf_of_mem hw)
      refine Finset.mem_union_right _ (mem_keysOf.mpr ⟨w, List.mem_filter.mpr ⟨?_, ?_⟩, hwz⟩)
      · exact List.mem_of_mem_filter hwxs
      · simpa using ⟨by simpa using (List.mem_filter.mp hwxs).2, by simpa using hpw, hne⟩
    · exact Finset.mem_union_left _
        (mem_keysOf_of_mem (List.mem_filter.mpr ⟨hmemz, by simpa using haz⟩))
  have hnew : key y ∉ keysOf key ys := by
    intro h
    rcases Finset.mem_union.mp (hsub h) with hout | hin
    · obtain ⟨w, hw, hwy⟩ := mem_keysOf.mp hout
      obtain ⟨hw, haw⟩ := List.mem_filter.mp hw
      exact hdisjoint y hmemy w hw hay (by simpa using haw) hwy.symm
    · obtain ⟨w, hw, hwy⟩ := mem_keysOf.mp hin
      obtain ⟨_, hne⟩ := List.mem_filter.mp hw
      simp only [decide_eq_true_eq] at hne
      exact hne.2.2 hwy
  exact ⟨y, mem_firstWins.mpr ⟨ys, zs, hxs, hnew,
    lt_of_le_of_lt (Finset.card_le_card hsub) (hroom y hmemy hpy)⟩, hpy⟩

private theorem exists_filling {R N : Finset κ} (hR : R.Nonempty) (hn : 0 < n)
    (hfull : n ≤ (R ∪ N).card) : ∃ S ⊆ N, S.card < n ∧ n ≤ (R ∪ S).card := by
  have hunion : (R ∪ N).card = R.card + (N \ R).card := by
    rw [← Finset.union_sdiff_self_eq_union, Finset.card_union_of_disjoint Finset.disjoint_sdiff]
  obtain ⟨S, hS, hcard⟩ := Finset.exists_subset_card_eq (s := N \ R) (n := n - R.card) (by omega)
  have hdisjoint : Disjoint R S := Finset.disjoint_of_subset_right hS Finset.disjoint_sdiff
  have hpos : 0 < R.card := hR.card_pos
  refine ⟨S, hS.trans Finset.sdiff_subset, by omega, ?_⟩
  rw [Finset.card_union_of_disjoint hdisjoint]
  omega

/-- Whatever the order, the entries that `a` does not name do not push out all those that `p`
names. -/
theorem forall_perm_not_pushed_out_iff (hn : 0 < n) (hpa : ∀ z ∈ xs, p z → a z)
    (hdisjoint : ∀ z ∈ xs, ∀ w ∈ xs, a z → ¬ a w → key z ≠ key w) :
    (∀ ys : List α, ys.Perm xs →
        (∃ x ∈ firstWins key n [] (ys.filter fun z => a z), p x) →
          ∃ y ∈ firstWins key n [] ys, p y) ↔
      (∀ z ∈ xs, a z) ∨ ∀ y ∈ xs, p y → (foreKeys key a p xs y).card < n := by
  constructor
  · intro h
    by_contra hcon
    push Not at hcon
    obtain ⟨⟨r, hr, har⟩, y, hy, hpy, hfull⟩ := hcon
    have hay : a y := hpa y hy hpy
    have hrkey : key r ∈ keysOf key (xs.filter fun z => ¬ a z) :=
      mem_keysOf_of_mem (List.mem_filter.mpr ⟨hr, by simpa using har⟩)
    obtain ⟨S, hS, hcard, hover⟩ := exists_filling ⟨_, hrkey⟩ hn hfull
    -- those that `a` does not name and as many others as leave no room, then the entry
    have hleft : y ∈ xs.filter fun z => ¬ (¬ a z ∨ ¬ p z ∧ key z ∈ S) :=
      List.mem_filter.mpr ⟨hy, by simp [hay, hpy]⟩
    obtain ⟨ls, ms, hrest⟩ := List.append_of_mem hleft
    have hperm : ((xs.filter fun z => ¬ a z ∨ ¬ p z ∧ key z ∈ S) ++ y :: (ls ++ ms)).Perm xs := by
      refine (List.Perm.append_left _ ?_).trans
        (filter_append_filter_not_perm (p := fun z => ¬ a z ∨ ¬ p z ∧ key z ∈ S))
      rw [hrest]
      exact List.perm_middle.symm
    have hkept : y ∈ firstWins key n []
        (((xs.filter fun z => ¬ a z ∨ ¬ p z ∧ key z ∈ S) ++ y :: (ls ++ ms)).filter
          fun z => a z) := by
      have hsub : keysOf key ((xs.filter fun z => ¬ a z ∨ ¬ p z ∧ key z ∈ S).filter
          fun z => a z) ⊆ S := by
        intro k hk
        obtain ⟨z, hz, rfl⟩ := mem_keysOf.mp hk
        simp only [List.mem_filter, decide_eq_true_eq] at hz
        exact (hz.1.2.resolve_left (not_not.mpr hz.2)).2
      rw [List.filter_append, List.filter_cons_of_pos (by simpa using hay)]
      refine mem_firstWins.mpr ⟨_, _, rfl, fun hkey => ?_,
        lt_of_le_of_lt (Finset.card_le_card hsub) hcard⟩
      obtain ⟨w, hw, hwy⟩ := mem_keysOf.mp (hS (hsub hkey))
      simp only [List.mem_filter, decide_eq_true_eq] at hw
      exact hw.2.2.2 hwy
    obtain ⟨x, hx, hpx⟩ := h _ hperm ⟨y, hkept, hpy⟩
    have hmem : x ∈ xs := hperm.mem_iff.mp (mem_of_firstWins hx)
    have hout : x ∉ xs.filter fun z => ¬ a z ∨ ¬ p z ∧ key z ∈ S := by
      simp [hpx, hpa x hmem hpx]
    have hsub : keysOf key (xs.filter fun z => ¬ a z) ∪ S ⊆
        keysOf key (xs.filter fun z => ¬ a z ∨ ¬ p z ∧ key z ∈ S) := by
      refine Finset.union_subset (keysOf_subset fun z hz => ⟨z, ?_, rfl⟩) fun k hk => ?_
      · obtain ⟨hz, haz⟩ := List.mem_filter.mp hz
        exact List.mem_filter.mpr ⟨hz, by simpa using .inl (by simpa using haz)⟩
      · obtain ⟨z, hz, rfl⟩ := mem_keysOf.mp (hS hk)
        simp only [List.mem_filter, decide_eq_true_eq] at hz
        exact mem_keysOf_of_mem (List.mem_filter.mpr ⟨hz.1, by simp [hz.2.2.1, hk]⟩)
    have hroom := (room_of_mem_firstWins hx hout).2
    have := Finset.card_le_card hsub
    omega
  · rintro (hall | hroom) ys hperm ⟨x, hx, hp⟩
    · have hself : (ys.filter fun z => a z) = ys :=
        List.filter_eq_self.mpr fun z hz => by simpa using hall z (hperm.mem_iff.mp hz)
      rw [hself] at hx
      exact ⟨x, hx, hp⟩
    · refine exists_mem_firstWins_of_filter (fun z hz => hpa z (hperm.mem_iff.mp hz))
        (fun z hz w hw => hdisjoint z (hperm.mem_iff.mp hz) w (hperm.mem_iff.mp hw))
        (fun y hy hpy => ?_) hx hp
      rw [foreKeys_perm hperm]
      exact hroom y (hperm.mem_iff.mp hy) hpy

end Admitted

end Branch.Lib
