import Branch.Lib.Table
import Mathlib.Data.Finset.Card

/-!
Leases of keys, each for the same time. A lease that runs out first can be given up for a new
one, and then as many other keys were leased meanwhile as there is room for.
-/

namespace Branch.Lib

universe u

/-- `granted` are all leases that were ever granted, and nothing reads it. -/
structure LeaseWindow (K : Type u) where
  leases : Table K Int := .empty
  granted : List (K × Int) := []

namespace LeaseWindow

variable {K : Type u}

def expire (window : LeaseWindow K) (now : Int) : LeaseWindow K :=
  { window with leases := window.leases.filter fun _ expiresAt => decide (now < expiresAt) }

variable [DecidableEq K]

def giveUp (window : LeaseWindow K) (key : K) : LeaseWindow K :=
  { window with leases := window.leases.erase key }

def grant (window : LeaseWindow K) (lifetime : Int) (key : K) (now : Int) : LeaseWindow K where
  leases := window.leases.insert key (now + lifetime)
  granted := window.granted ++ [(key, now)]

def others (granted : List (K × Int)) (key : K) (time : Int) : Nat :=
  ((granted.filter fun lease => lease.1 ≠ key ∧ time ≤ lease.2).map Prod.fst).toFinset.card

/-- A key is granted again when its lease ran out, or enough others were granted since. -/
inductive Spaced (lifetime : Int) (enough : Nat → Prop) : List (K × Int) → Prop
  | nil : Spaced lifetime enough []
  | snoc {granted : List (K × Int)} {key : K} {now : Int}
      (hgranted : Spaced lifetime enough granted)
      (hagain : ∀ time, (key, time) ∈ granted →
        time + lifetime ≤ now ∨ enough (others granted key time)) :
      Spaced lifetime enough (granted ++ [(key, now)])

variable {lifetime : Int} {limit : Nat} {clock now time : Int} {key victim : K}
  {window : LeaseWindow K} {granted granted' : List (K × Int)}

theorem Spaced.again {enough : Nat → Prop} (h : Spaced lifetime enough (granted ++ [(key, now)]))
    (time : Int) (hmem : (key, time) ∈ granted) :
    time + lifetime ≤ now ∨ enough (others granted key time) := by
  generalize hlog : granted ++ [(key, now)] = log at h
  cases h with
  | nil => exact absurd hlog (by simp)
  | snoc _ hagain =>
    obtain ⟨rfl, hlast⟩ := List.append_inj' hlog rfl
    obtain ⟨rfl, rfl⟩ := Prod.mk.inj (List.cons.inj hlast).1
    exact hagain time hmem

theorem card_le_others {keys : List K} (hnodup : keys.Nodup)
    (h : ∀ k ∈ keys, k ≠ key ∧ ∃ t, (k, t) ∈ granted ∧ time ≤ t) :
    keys.length ≤ others granted key time := by
  rw [← List.toFinset_card_of_nodup hnodup]
  refine Finset.card_le_card fun k hk => ?_
  obtain ⟨hne, t, hmem, ht⟩ := h k (List.mem_toFinset.mp hk)
  rw [List.mem_toFinset]
  exact List.mem_map.mpr ⟨(k, t), List.mem_filter.mpr ⟨hmem, decide_eq_true ⟨hne, ht⟩⟩, rfl⟩

theorem others_append_le : others granted key time ≤ others (granted ++ granted') key time := by
  unfold others
  rw [List.filter_append, List.map_append, List.toFinset_append]
  exact Finset.card_le_card Finset.subset_union_left

/-- What is known of a window at a time: a lease is kept until it runs out, unless enough others
were granted since. -/
structure Lasting (lifetime : Int) (limit : Nat) (clock : Int) (window : LeaseWindow K) : Prop where
  kept : ∀ lease ∈ window.granted, lease.2 + lifetime ≤ clock ∨
    limit ≤ others window.granted lease.1 lease.2 ∨
    ∃ expiresAt, window.leases.get? lease.1 = some expiresAt ∧ lease.2 + lifetime ≤ expiresAt
  known : ∀ k expiresAt, window.leases.get? k = some expiresAt →
    (k, expiresAt - lifetime) ∈ window.granted
  past : ∀ lease ∈ window.granted, lease.2 ≤ clock

theorem lasting_empty (lifetime : Int) (limit : Nat) (clock : Int) :
    Lasting lifetime limit clock ({} : LeaseWindow K) where
  kept lease hmem := absurd hmem List.not_mem_nil
  known k expiresAt hget := by
    rw [show ({} : LeaseWindow K).leases.get? k = none from Table.get?_empty k] at hget
    cases hget
  past lease hmem := absurd hmem List.not_mem_nil

theorem Lasting.expire (h : window.Lasting lifetime limit clock) (hnow : clock ≤ now) :
    (window.expire now).Lasting lifetime limit now := by
  refine ⟨?_, ?_, fun lease hmem => (h.past lease hmem).trans hnow⟩
  · intro lease hmem
    rcases h.kept lease hmem with hout | henough | ⟨expiresAt, hget, hle⟩
    · exact .inl (hout.trans hnow)
    · exact .inr (.inl henough)
    · by_cases hlive : now < expiresAt
      · exact .inr (.inr ⟨expiresAt, Table.get?_filter_eq_some.mpr ⟨hget, decide_eq_true hlive⟩,
          hle⟩)
      · exact .inl (by omega)
  · intro k expiresAt hget
    exact h.known k expiresAt (Table.get?_filter_eq_some.mp hget).1

/-- When a key without a lease was leased before, that lease ran out or enough others were
granted since. -/
theorem Lasting.again (h : window.Lasting lifetime limit now)
    (hnone : window.leases.get? key = none) (hmem : (key, time) ∈ window.granted) :
    time + lifetime ≤ now ∨ limit ≤ others window.granted key time := by
  rcases h.kept (key, time) hmem with hout | henough | ⟨expiresAt, hget, -⟩
  · exact .inl hout
  · exact .inr henough
  · rw [hnone] at hget
    cases hget

/-- A key is granted behind all others. What is known of them stays, wherever a lease is kept
for them or enough others were granted. -/
theorem Lasting.grant_of_kept {rest : LeaseWindow K} (h : window.Lasting lifetime limit now)
    (hgranted : rest.granted = window.granted)
    (hrest : ∀ k expiresAt, rest.leases.get? k = some expiresAt →
      window.leases.get? k = some expiresAt)
    (hkept : ∀ lease ∈ window.granted, ∀ expiresAt,
      window.leases.get? lease.1 = some expiresAt → lease.2 + lifetime ≤ expiresAt →
        rest.leases.get? lease.1 = some expiresAt ∨
          limit ≤ others (window.granted ++ [(key, now)]) lease.1 lease.2) :
    (rest.grant lifetime key now).Lasting lifetime limit now := by
  have hlog : (rest.grant lifetime key now).granted = window.granted ++ [(key, now)] := by
    rw [grant, hgranted]
  refine ⟨?_, ?_, ?_⟩
  · intro lease hmem
    rw [hlog] at hmem ⊢
    change _ ∨ _ ∨ ∃ expiresAt, (rest.leases.insert key (now + lifetime)).get? lease.1 = _ ∧ _
    by_cases hkey : lease.1 = key
    · have hle : lease.2 ≤ now := by
        rcases List.mem_append.mp hmem with hmem | hmem
        · exact h.past lease hmem
        · rw [List.mem_singleton.mp hmem]
      exact .inr (.inr ⟨now + lifetime, by rw [hkey, Table.get?_insert_self], by omega⟩)
    · have hold : lease ∈ window.granted := by
        rcases List.mem_append.mp hmem with hmem | hmem
        · exact hmem
        · exact absurd (congrArg Prod.fst (List.mem_singleton.mp hmem)) hkey
      rcases h.kept lease hold with hout | henough | ⟨expiresAt, hget, hle⟩
      · exact .inl hout
      · exact .inr (.inl (henough.trans others_append_le))
      · rcases hkept lease hold expiresAt hget hle with hget | henough
        · exact .inr (.inr ⟨expiresAt, by rw [Table.get?_insert_of_ne _ _ hkey, hget], hle⟩)
        · exact .inr (.inl henough)
  · intro k expiresAt hget
    rw [hlog]
    change (rest.leases.insert key (now + lifetime)).get? k = some expiresAt at hget
    by_cases hkey : k = key
    · subst hkey
      rw [Table.get?_insert_self] at hget
      obtain rfl := Option.some.inj hget
      exact List.mem_append_right _ (by simp)
    · rw [Table.get?_insert_of_ne _ _ hkey] at hget
      exact List.mem_append_left _ (h.known k expiresAt (hrest k expiresAt hget))
  · intro lease hmem
    rw [hlog] at hmem
    rcases List.mem_append.mp hmem with hmem | hmem
    · exact h.past lease hmem
    · rw [List.mem_singleton.mp hmem]

theorem Lasting.grant (h : window.Lasting lifetime limit now) :
    (window.grant lifetime key now).Lasting lifetime limit now :=
  h.grant_of_kept rfl (fun _ _ hget => hget) fun _ _ _ hget _ => .inl hget

theorem Lasting.replace {runsOut : Int} (h : window.Lasting lifetime limit now)
    (hnone : window.leases.get? key = none) (hvictim : window.leases.get? victim = some runsOut)
    (hfirst : ∀ k expiresAt, window.leases.get? k = some expiresAt → runsOut ≤ expiresAt)
    (hfull : limit ≤ window.leases.size) :
    ((window.giveUp victim).grant lifetime key now).Lasting lifetime limit now := by
  refine h.grant_of_kept rfl (fun k expiresAt hget => ?_) ?_
  · exact (Table.get?_eq_some_of_get?_erase hget).2
  · intro lease hmem expiresAt hget hle
    by_cases hlease : lease.1 = victim
    · -- the keys that are left and the new one were all granted since
      right
      have hne : key ≠ victim := by
        rintro rfl
        rw [hnone] at hvictim
        cases hvictim
      obtain rfl : runsOut = expiresAt := by
        rw [hlease, hvictim] at hget
        exact Option.some.inj hget
      have hmemVictim : victim ∈ window.leases.keys := by
        rw [Table.mem_keys_iff, hvictim]
        rfl
      have hlength : (key :: (window.leases.erase victim).keys).length = window.leases.size := by
        rw [List.length_cons, Table.length_keys]
        have hsize := Table.size_erase_of_mem hmemVictim
        omega
      rw [← hlength] at hfull
      refine hfull.trans (card_le_others ?_ ?_)
      · refine List.nodup_cons.mpr ⟨fun hkey => ?_, Table.keys_nodup _⟩
        rw [Table.mem_keys_iff, Table.get?_erase, if_neg hne, hnone] at hkey
        cases hkey
      · intro k hk
        rcases List.mem_cons.mp hk with rfl | hk
        · exact ⟨by rw [hlease]; exact hne, now, by simp, h.past lease hmem⟩
        · rw [Table.mem_keys_iff, Option.isSome_iff_exists] at hk
          obtain ⟨expiresAt', hget'⟩ := hk
          have hkne : k ≠ victim := by
            rintro rfl
            rw [Table.get?_erase_self] at hget'
            cases hget'
          rw [Table.get?_erase_of_ne _ hkne] at hget'
          have hle' := hfirst k expiresAt' hget'
          refine ⟨by rw [hlease]; exact hkne, expiresAt' - lifetime, ?_, by omega⟩
          exact List.mem_append_left _ (h.known k expiresAt' hget')
    · exact .inl (by
        change (window.leases.erase victim).get? lease.1 = _
        rw [Table.get?_erase_of_ne _ hlease, hget])

end LeaseWindow

end Branch.Lib
