import Mathlib.Combinatorics.Enumerative.DoubleCounting
import Mathlib.Data.Finset.Card
import Mathlib.Data.List.Count
import Mathlib.Order.Defs.LinearOrder
import Mathlib.Tactic.Common

/-!
# Groups of equal keys

An ordered map counts how often each key occurs.  A counter has an upper limit,
which fewer keys than the limit never reach.

Main results:

- Definition {lit}`Grouping.tally`: count the keys of a list.
- Theorem {lit}`Grouping.exists_tally`: fewer keys than the limit are counted.
- Theorem {lit}`Grouping.Counts.sum_eq`: the counters add up to the number of
  keys.
- Theorems {lit}`Grouping.Counts.smallest_le`, {lit}`Grouping.Counts.countP_le`
  and {lit}`Grouping.Counts.length_le`: merging keys leaves no smaller group and
  no more groups.
-/

namespace Grouping

universe u

variable {κ : Type u}

section Tally

variable [LinearOrder κ]

/-- Count one more occurrence of a key, in an ordered list of keys with
counters; nothing when the counter is at its limit. -/
def bump (limit : Nat) (key : κ) : List (κ × Nat) → Option (List (κ × Nat))
  | [] => some [(key, 1)]
  | (k, n) :: groups =>
      if key < k then some ((key, 1) :: (k, n) :: groups)
      else if key = k then
        if n + 1 < limit then some ((k, n + 1) :: groups) else none
      else (bump limit key groups).map ((k, n) :: ·)

/-- Count the keys of a list. -/
def tally (limit : Nat) (keys : List κ) : Option (List (κ × Nat)) :=
  keys.foldlM (fun groups key => bump limit key groups) []

/-- The counter of a key. -/
def counter : List (κ × Nat) → κ → Nat
  | [], _ => 0
  | (k, n) :: groups, key => if key = k then n else counter groups key

/-- The groups are those of the keys: in order, and counting something. -/
structure Counts (groups : List (κ × Nat)) (keys : List κ) : Prop where
  ordered : groups.Pairwise fun g g' => g.1 < g'.1
  positive : ∀ g ∈ groups, 0 < g.2
  counter_eq : ∀ k, counter groups k = keys.count k

theorem counts_nil : Counts ([] : List (κ × Nat)) [] :=
  ⟨.nil, by simp, fun _ => rfl⟩

variable {limit : Nat} {key : κ} {groups groups' : List (κ × Nat)} {keys : List κ}

/-- A key in front of all groups is not counted. -/
theorem counter_eq_zero (hfront : ∀ g ∈ groups, key < g.1) : counter groups key = 0 := by
  induction groups with
  | nil => rfl
  | cons g groups ih =>
      rw [List.forall_mem_cons] at hfront
      rw [counter, if_neg (ne_of_lt hfront.1), ih hfront.2]

/-- The keys after one more occurrence of a key. -/
theorem key_of_mem_bump (hbump : bump limit key groups = some groups') :
    ∀ g' ∈ groups', g'.1 = key ∨ ∃ g ∈ groups, g.1 = g'.1 := by
  induction groups generalizing groups' with
  | nil =>
      obtain rfl := Option.some.inj hbump
      simp
  | cons g groups ih =>
      rcases g with ⟨k, n⟩
      simp only [bump] at hbump
      split at hbump
      · obtain rfl := Option.some.inj hbump
        intro g' hg'
        rcases List.mem_cons.mp hg' with rfl | hmem
        · exact .inl rfl
        · exact .inr ⟨g', hmem, rfl⟩
      · split at hbump
        · rcases Option.ite_none_right_eq_some.mp hbump with ⟨-, hsame⟩
          obtain rfl := Option.some.inj hsame
          intro g' hg'
          rcases List.mem_cons.mp hg' with rfl | hmem
          · exact .inr ⟨(k, n), List.mem_cons_self, rfl⟩
          · exact .inr ⟨g', List.mem_cons_of_mem _ hmem, rfl⟩
        · rcases Option.map_eq_some_iff.mp hbump with ⟨rest, hrest, rfl⟩
          intro g' hg'
          rcases List.mem_cons.mp hg' with rfl | hmem
          · exact .inr ⟨(k, n), List.mem_cons_self, rfl⟩
          · rcases ih hrest g' hmem with hkey | ⟨g, hg, hsame⟩
            · exact .inl hkey
            · exact .inr ⟨g, List.mem_cons_of_mem _ hg, hsame⟩

/-- One more occurrence of a key is counted, in order. -/
theorem bump_spec (hordered : groups.Pairwise fun g g' => g.1 < g'.1)
    (hpositive : ∀ g ∈ groups, 0 < g.2) (hbump : bump limit key groups = some groups') :
    groups'.Pairwise (fun g g' => g.1 < g'.1) ∧ (∀ g ∈ groups', 0 < g.2) ∧
      ∀ k, counter groups' k = counter groups k + if k = key then 1 else 0 := by
  induction groups generalizing groups' with
  | nil =>
      obtain rfl := Option.some.inj hbump
      exact ⟨List.pairwise_singleton .., by simp, fun k => by simp [counter]⟩
  | cons g groups ih =>
      rcases g with ⟨k, n⟩
      rcases List.pairwise_cons.mp hordered with ⟨hfirst, hlater⟩
      rw [List.forall_mem_cons] at hpositive
      simp only [bump] at hbump
      split at hbump
      · rename_i hlt
        obtain rfl := Option.some.inj hbump
        have hfront : ∀ g ∈ (k, n) :: groups, key < g.1 := by
          rw [List.forall_mem_cons]
          exact ⟨hlt, fun g hg => hlt.trans (hfirst g hg)⟩
        refine ⟨List.pairwise_cons.mpr ⟨hfront, hordered⟩, ?_, fun k' => ?_⟩
        · rw [List.forall_mem_cons, List.forall_mem_cons]
          exact ⟨Nat.one_pos, hpositive⟩
        · rw [counter]
          split
          · rename_i hkey
            rw [hkey, counter_eq_zero hfront]
          · rw [Nat.add_zero]
      · rename_i hnlt
        split at hbump
        · rename_i hkey
          rcases Option.ite_none_right_eq_some.mp hbump with ⟨-, hsame⟩
          obtain rfl := Option.some.inj hsame
          refine ⟨List.pairwise_cons.mpr ⟨hfirst, hlater⟩, ?_, fun k' => ?_⟩
          · rw [List.forall_mem_cons]
            exact ⟨Nat.succ_pos n, hpositive.2⟩
          · simp only [counter, hkey]
            split <;> simp
        · rename_i hkey
          rcases Option.map_eq_some_iff.mp hbump with ⟨rest, hrest, rfl⟩
          rcases ih hlater hpositive.2 hrest with ⟨hrestOrdered, hrestPositive, hcounter⟩
          have hbehind : k < key := lt_of_le_of_ne (not_lt.mp hnlt) (Ne.symm hkey)
          refine ⟨List.pairwise_cons.mpr ⟨fun g' hg' => ?_, hrestOrdered⟩, ?_, fun k' => ?_⟩
          · rcases key_of_mem_bump hrest g' hg' with hsame | ⟨g, hg, hsame⟩
            · exact hsame ▸ hbehind
            · exact hsame ▸ hfirst g hg
          · rw [List.forall_mem_cons]
            exact ⟨hpositive.1, hrestPositive⟩
          · rw [counter, counter]
            split
            · rename_i hk'
              rw [if_neg (hk' ▸ Ne.symm hkey), Nat.add_zero]
            · exact hcounter k'

/-- A key is counted unless its counter is at the limit. -/
theorem exists_bump (hroom : counter groups key + 1 < limit) :
    ∃ groups', bump limit key groups = some groups' := by
  induction groups with
  | nil => exact ⟨_, rfl⟩
  | cons g groups ih =>
      rcases g with ⟨k, n⟩
      simp only [bump]
      split
      · exact ⟨_, rfl⟩
      · split
        · rename_i hkey
          rw [counter, if_pos hkey] at hroom
          rw [if_pos hroom]
          exact ⟨_, rfl⟩
        · rename_i hkey
          rw [counter, if_neg hkey] at hroom
          rcases ih hroom with ⟨groups', hrest⟩
          rw [hrest]
          exact ⟨_, rfl⟩

theorem Counts.bump (hcounts : Counts groups keys) (hbump : bump limit key groups = some groups') :
    Counts groups' (keys ++ [key]) := by
  rcases bump_spec hcounts.ordered hcounts.positive hbump with ⟨hordered, hpositive, hcounter⟩
  refine ⟨hordered, hpositive, fun k => ?_⟩
  rw [hcounter, hcounts.counter_eq, List.count_append, List.count_singleton]
  simp only [beq_iff_eq, @eq_comm κ key k]

/-- Fewer keys than the limit are counted. -/
theorem exists_tally (hlimit : keys.length < limit) :
    ∃ groups, tally limit keys = some groups ∧ Counts groups keys := by
  induction keys using List.reverseRecOn with
  | nil => exact ⟨[], rfl, counts_nil⟩
  | append_singleton keys key ih =>
      rw [List.length_append, List.length_singleton] at hlimit
      rcases ih (by omega) with ⟨groups, htally, hcounts⟩
      have hroom : counter groups key + 1 < limit := by
        rw [hcounts.counter_eq]
        exact lt_of_le_of_lt (Nat.add_le_add_right List.count_le_length 1) hlimit
      rcases exists_bump hroom with ⟨groups', hbump⟩
      refine ⟨groups', ?_, hcounts.bump hbump⟩
      rw [tally, List.foldlM_append, ← tally, htally]
      simpa using hbump

/-- The group of a key holds its counter. -/
theorem counter_of_mem (hordered : groups.Pairwise fun g g' => g.1 < g'.1) {g : κ × Nat}
    (hg : g ∈ groups) : counter groups g.1 = g.2 := by
  induction groups with
  | nil => cases hg
  | cons first groups ih =>
      rcases List.pairwise_cons.mp hordered with ⟨hfirst, hlater⟩
      rcases List.mem_cons.mp hg with rfl | hmem
      · rw [counter, if_pos rfl]
      · rw [counter, if_neg (ne_of_gt (hfirst g hmem)), ih hlater hmem]

/-- A counted key has a group. -/
theorem mem_of_counter_pos (hcounter : 0 < counter groups key) :
    (key, counter groups key) ∈ groups := by
  induction groups with
  | nil => exact absurd hcounter (by simp [counter])
  | cons g groups ih =>
      rcases g with ⟨k, n⟩
      rw [counter] at hcounter ⊢
      split
      · rename_i hkey
        rw [hkey]
        exact List.mem_cons_self
      · rename_i hkey
        rw [if_neg hkey] at hcounter
        exact List.mem_cons_of_mem _ (ih hcounter)

/-- The groups are the keys with their numbers of occurrences. -/
theorem Counts.mem_iff (hcounts : Counts groups keys) {g : κ × Nat} :
    g ∈ groups ↔ g.1 ∈ keys ∧ g.2 = keys.count g.1 := by
  constructor
  · intro hg
    have hcount : g.2 = keys.count g.1 := by
      rw [← hcounts.counter_eq, counter_of_mem hcounts.ordered hg]
    have hpos := hcounts.positive g hg
    rw [hcount, List.count_pos_iff] at hpos
    exact ⟨hpos, hcount⟩
  · rintro ⟨hkey, hcount⟩
    have hcounter : counter groups g.1 = g.2 := by
      rw [hcounts.counter_eq, hcount]
    have hgroup : (g.1, counter groups g.1) ∈ groups := by
      apply mem_of_counter_pos
      rw [hcounts.counter_eq]
      exact List.count_pos_iff.mpr hkey
    rwa [hcounter] at hgroup

/-- There are no groups of no keys. -/
theorem Counts.eq_nil (hcounts : Counts groups []) : groups = [] := by
  rw [List.eq_nil_iff_forall_not_mem]
  intro g hg
  exact absurd (hcounts.mem_iff.mp hg).1 List.not_mem_nil

theorem Counts.nodup (hcounts : Counts groups keys) : groups.Nodup :=
  hcounts.ordered.imp fun hlt heq => absurd (heq ▸ hlt) (lt_irrefl _)

/-- The keys of the groups are the keys that occur, each once. -/
theorem Counts.map_fst_perm (hcounts : Counts groups keys) :
    (groups.map Prod.fst).Perm keys.dedup := by
  have hnodup : (groups.map Prod.fst).Nodup := by
    rw [List.Nodup, List.pairwise_map]
    exact hcounts.ordered.imp fun hlt => ne_of_lt hlt
  rw [List.perm_ext_iff_of_nodup hnodup keys.nodup_dedup]
  intro k
  rw [List.mem_dedup, List.mem_map]
  constructor
  · rintro ⟨g, hg, rfl⟩
    exact (hcounts.mem_iff.mp hg).1
  · intro hk
    exact ⟨(k, keys.count k), hcounts.mem_iff.mpr ⟨hk, rfl⟩, rfl⟩

/-- The counters add up to the number of keys. -/
theorem Counts.sum_eq (hcounts : Counts groups keys) :
    (groups.map Prod.snd).sum = keys.length := by
  have hcounters : groups.map Prod.snd = (groups.map Prod.fst).map (keys.count ·) := by
    rw [List.map_map]
    exact List.map_congr_left fun g hg => (hcounts.mem_iff.mp hg).2
  rw [hcounters, (hcounts.map_fst_perm.map _).sum_eq, List.sum_map_count_dedup_eq_length]

end Tally

/-! ## Coarser keys -/

/-- The smallest counter, or zero when there is none. -/
def smallest (groups : List (κ × Nat)) : Nat :=
  (groups.map Prod.snd).min?.getD 0

theorem smallest_le {groups : List (κ × Nat)} {g : κ × Nat} (hg : g ∈ groups) :
    smallest groups ≤ g.2 :=
  List.min?_getD_le_of_mem (List.mem_map_of_mem hg)

/-- The smallest counter is that of a group. -/
theorem exists_smallest {groups : List (κ × Nat)} (hne : groups ≠ []) :
    ∃ g ∈ groups, g.2 = smallest groups := by
  cases hmin : (groups.map Prod.snd).min? with
  | none => exact absurd (List.map_eq_nil_iff.mp (List.min?_eq_none_iff.mp hmin)) hne
  | some n =>
      rcases List.mem_map.mp (List.min?_mem hmin) with ⟨g, hg, hn⟩
      exact ⟨g, hg, by rw [smallest, hmin, hn, Option.getD_some]⟩

section Coarsening

variable {κ' : Type u} [LinearOrder κ] [LinearOrder κ'] {pairs : List (κ × κ')}
  {groups : List (κ × Nat)} {groups' : List (κ' × Nat)}

/-- Items with equal first keys have equal second keys. -/
def Merges (pairs : List (κ × κ')) : Prop :=
  ∀ x ∈ pairs, ∀ y ∈ pairs, x.1 = y.1 → x.2 = y.2

/-- Merging does not make a group smaller. -/
theorem Merges.count_le (hmerges : Merges pairs) {x : κ × κ'} (hx : x ∈ pairs) :
    (pairs.map Prod.fst).count x.1 ≤ (pairs.map Prod.snd).count x.2 := by
  rw [List.count_eq_countP, List.count_eq_countP, List.countP_map, List.countP_map]
  apply List.countP_mono_left
  intro y hy hsame
  simp only [Function.comp_apply, beq_iff_eq] at hsame ⊢
  exact hmerges y hy x hx hsame

/-- Every merged group holds a group that it came from. -/
theorem Counts.exists_part (hcounts : Counts groups (pairs.map Prod.fst))
    (hcounts' : Counts groups' (pairs.map Prod.snd)) (hmerges : Merges pairs) {g' : κ' × Nat}
    (hg' : g' ∈ groups') :
    ∃ x ∈ pairs, x.2 = g'.1 ∧ ∃ g ∈ groups, g.1 = x.1 ∧ g.2 ≤ g'.2 := by
  rcases hcounts'.mem_iff.mp hg' with ⟨hkey, hcount⟩
  rcases List.mem_map.mp hkey with ⟨x, hx, hsame⟩
  refine ⟨x, hx, hsame, (x.1, (pairs.map Prod.fst).count x.1), ?_, rfl, ?_⟩
  · exact hcounts.mem_iff.mpr ⟨List.mem_map_of_mem hx, rfl⟩
  · rw [hcount, ← hsame]
    exact hmerges.count_le hx

/-- Merging does not lower the smallest counter. -/
theorem Counts.smallest_le (hcounts : Counts groups (pairs.map Prod.fst))
    (hcounts' : Counts groups' (pairs.map Prod.snd)) (hmerges : Merges pairs) :
    smallest groups ≤ smallest groups' := by
  by_cases hne : groups' = []
  · have hpairs : pairs = [] := by
      rw [List.eq_nil_iff_forall_not_mem]
      intro x hx
      have hg : (x.2, (pairs.map Prod.snd).count x.2) ∈ groups' :=
        hcounts'.mem_iff.mpr ⟨List.mem_map_of_mem hx, rfl⟩
      rw [hne] at hg
      cases hg
    have hgroups : groups = [] := by
      rw [List.eq_nil_iff_forall_not_mem]
      intro g hg
      have hkey := (hcounts.mem_iff.mp hg).1
      rw [hpairs] at hkey
      cases hkey
    rw [hne, hgroups]
    exact le_refl _
  · rcases exists_smallest hne with ⟨g', hg', hsmallest⟩
    rcases hcounts.exists_part hcounts' hmerges hg' with ⟨-, -, -, g, hg, -, hle⟩
    rw [← hsmallest]
    exact (Grouping.smallest_le hg).trans hle

/-- Merging leaves no more groups of a kind that smaller groups also have. -/
theorem Counts.countP_le (hcounts : Counts groups (pairs.map Prod.fst))
    (hcounts' : Counts groups' (pairs.map Prod.snd)) (hmerges : Merges pairs) {P : Nat → Bool}
    (hP : ∀ m n, 0 < m → m ≤ n → P n = true → P m = true) :
    groups'.countP (fun g => P g.2) ≤ groups.countP (fun g => P g.2) := by
  rw [List.countP_eq_length_filter, List.countP_eq_length_filter,
    ← List.toFinset_card_of_nodup (hcounts'.nodup.filter _),
    ← List.toFinset_card_of_nodup (hcounts.nodup.filter _)]
  -- a merged group is related to the groups that it came from, of which no
  -- other merged group has one
  refine Finset.card_le_card_of_forall_subsingleton
    (fun g' g => ∃ x ∈ pairs, x.2 = g'.1 ∧ g.1 = x.1) ?_ ?_
  · intro g' hg'
    rw [List.mem_toFinset, List.mem_filter] at hg'
    rcases hcounts.exists_part hcounts' hmerges hg'.1 with ⟨x, hx, hsame, g, hg, hkey, hle⟩
    refine ⟨g, ?_, x, hx, hsame, hkey⟩
    rw [List.mem_toFinset, List.mem_filter]
    exact ⟨hg, hP _ _ (hcounts.positive g hg) hle hg'.2⟩
  · rintro g - g₁ ⟨hg₁, x, hx, hx₁, hgx⟩ g₂ ⟨hg₂, y, hy, hy₂, hgy⟩
    rw [List.mem_toFinset, List.mem_filter] at hg₁ hg₂
    have hkey : g₁.1 = g₂.1 := by
      rw [← hx₁, ← hy₂]
      exact hmerges x hx y hy (hgx.symm.trans hgy)
    have hcount : g₁.2 = g₂.2 := by
      rw [(hcounts'.mem_iff.mp hg₁.1).2, (hcounts'.mem_iff.mp hg₂.1).2, hkey]
    exact Prod.ext hkey hcount

/-- Merging leaves no more groups. -/
theorem Counts.length_le (hcounts : Counts groups (pairs.map Prod.fst))
    (hcounts' : Counts groups' (pairs.map Prod.snd)) (hmerges : Merges pairs) :
    groups'.length ≤ groups.length := by
  have hle := hcounts.countP_le hcounts' hmerges (P := fun _ => true) fun _ _ _ _ h => h
  rwa [List.countP_true, List.countP_true] at hle

end Coarsening

end Grouping
