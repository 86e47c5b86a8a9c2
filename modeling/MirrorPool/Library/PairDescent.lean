import Mathlib.Algebra.Group.Nat.Defs
import MirrorPool.Library.PairTree

/-!
# Walking down a tree of paired levels

Under an injective combination a walk up a tree can be read downwards: from the
root, the binary digits of the index choose the children, and where a right
child is missing both digits choose the left one.  A walk of any length that
ends in the root is therefore the sibling path of a node of the tree, but the
index tells the position of this node only when it lies in the level.

Main results:

- Definition {lit}`landing`: the position to which the digits of an index lead.
- Theorem {lit}`climb_eq_root_iff`: a walk as long as the tree is high ends in
  the root exactly when it is the sibling path of the node at that position.
- Theorem {lit}`landing_of_lt`: an index in the level leads to itself.
-/

namespace PairTree

universe u

variable {α : Type u} {f : α → α → α} {level : List α} {root node : α} {index : Nat}

/-- The child of a position that the last digit of an index chooses in a level
of the given length.  Where the right child is missing, it is the left one. -/
def childAt (length index position : Nat) : Nat :=
  if index % 2 = 1 ∧ 2 * position + 1 < length then 2 * position + 1 else 2 * position

/-- The position in the lowest level to which the digits of an index lead from
the root. -/
def landing : List (List α) → Nat → Nat
  | level :: next :: above, index =>
      childAt level.length index (landing (next :: above) (index / 2))
  | _, _ => 0

/-- The list is the sibling path of the node to which an index leads in some
levels. -/
def PathOf (levels : List (List α)) (node : α) (index : Nat) (path : List α) : Prop :=
  ∃ level, levels.head? = some level ∧ level[landing levels index]? = some node ∧
    siblingPath levels.dropLast (landing levels index) = some path

theorem head?_levels (f : α → α → α) (level : List α) : (levels f level).head? = some level := by
  unfold levels
  split <;> rfl

theorem landing_of_length_le (hlength : level.length ≤ 1) (index : Nat) :
    landing (levels f level) index = 0 := by
  rw [levels_of_length_le hlength, landing]
  simp

theorem landing_of_one_lt (hlength : 1 < level.length) (index : Nat) :
    landing (levels f level) index =
      childAt level.length index (landing (levels f (pairUp f level)) (index / 2)) := by
  rcases List.exists_cons_of_ne_nil (levels_ne_nil f (pairUp f level)) with ⟨next, above, habove⟩
  rw [levels_of_one_lt hlength, habove, landing]

/-- An index in the level leads to itself. -/
theorem landing_of_lt (hindex : index < level.length) :
    landing (levels f level) index = index := by
  induction level using levels.induct f generalizing index with
  | case1 level hlength ih =>
      have hhalf : index / 2 < (pairUp f level).length := by
        rw [length_pairUp]
        omega
      rw [landing_of_one_lt hlength, ih hhalf, childAt]
      split <;> omega
  | case2 level hlength =>
      rw [landing_of_length_le (by omega)]
      omega

/-- The sibling path of a node in several levels. -/
theorem siblingPath_levels_eq_some (hlength : 1 < level.length) {path : List α} :
    siblingPath (levels f level).dropLast index = some path ↔
      ∃ node rest, level[index]? = some node ∧
        siblingPath (levels f (pairUp f level)).dropLast (index / 2) = some rest ∧
        path = level[siblingIndex index]?.getD node :: rest := by
  rw [levels_of_one_lt hlength, List.dropLast_cons_of_ne_nil (levels_ne_nil f _), siblingPath]
  simp only [Option.bind_eq_bind, Option.pure_def, Option.bind_eq_some_iff, Option.some.injEq]
  constructor
  · rintro ⟨node, hnode, rest, hrest, rfl⟩
    exact ⟨node, rest, hnode, hrest, rfl⟩
  · rintro ⟨node, rest, hnode, hrest, rfl⟩
    exact ⟨node, hnode, rest, hrest, rfl⟩

/-- A node of the level above combines its left child with the right one, or
with itself. -/
theorem getElem?_pairUp_position (f : α → α → α) (level : List α) (position : Nat) :
    (pairUp f level)[position]? =
      level[2 * position]?.map fun left => f left (level[2 * position + 1]?.getD left) := by
  induction level using pairUp.induct generalizing position with
  | case1 => simp [pairUp]
  | case2 a =>
      cases position with
      | zero => simp [pairUp]
      | succ position => simp [pairUp, Nat.mul_succ]
  | case3 a b rest ih =>
      cases position with
      | zero => simp [pairUp]
      | succ position => simp [pairUp, Nat.mul_succ, ih]

/-- A chosen child lies below its parent. -/
theorem childAt_div_two (length index position : Nat) :
    childAt length index position / 2 = position := by
  unfold childAt
  split <;> omega

section Injective

variable (hinj : ∀ a b c d, f a b = f c d → a = c ∧ b = d)

include hinj

/-- A node of the level above determines its children: the digit of the index
chooses one of them, and the sibling is the other one. -/
theorem getElem?_pairUp_eq_some {position : Nat} {sibling : α} :
    (pairUp f level)[position]? = some (combineAt f index node sibling) ↔
      level[childAt level.length index position]? = some node ∧
        sibling = level[siblingIndex (childAt level.length index position)]?.getD node := by
  rw [getElem?_pairUp_position, Option.map_eq_some_iff]
  have heven : siblingIndex (2 * position) = 2 * position + 1 := by
    unfold siblingIndex
    split <;> omega
  have hodd : siblingIndex (2 * position + 1) = 2 * position := by
    unfold siblingIndex
    split <;> omega
  unfold combineAt childAt
  rcases Nat.mod_two_eq_zero_or_one index with hdigit | hdigit
  · rw [if_pos hdigit, if_neg (by omega), heven]
    constructor
    · rintro ⟨left, hleft, hnode⟩
      rcases hinj _ _ _ _ hnode with ⟨rfl, rfl⟩
      exact ⟨hleft, rfl⟩
    · rintro ⟨hnode, rfl⟩
      exact ⟨node, hnode, rfl⟩
  · rw [if_neg (by omega)]
    by_cases hright : 2 * position + 1 < level.length
    · have hleft : 2 * position < level.length := by omega
      rw [if_pos ⟨hdigit, hright⟩, hodd, List.getElem?_eq_getElem hright,
        List.getElem?_eq_getElem hleft]
      simp only [Option.some.injEq, Option.getD_some, exists_eq_left']
      constructor
      · intro hnode
        rcases hinj _ _ _ _ hnode with ⟨hleft, hright⟩
        exact ⟨hright, hleft.symm⟩
      · rintro ⟨rfl, rfl⟩
        rfl
    · have hnone : level[2 * position + 1]? = none := List.getElem?_eq_none (by omega)
      rw [if_neg (by omega), heven, hnone]
      simp only [Option.getD_none]
      constructor
      · rintro ⟨left, hleft, hnode⟩
        rcases hinj _ _ _ _ hnode with ⟨rfl, rfl⟩
        exact ⟨hleft, rfl⟩
      · rintro ⟨hnode, hsibling⟩
        exact ⟨node, hnode, by rw [hsibling]⟩

/-- A walk as long as the tree is high ends in the root exactly when it is the
sibling path of the node to which the index leads. -/
theorem climb_eq_root_iff {path : List α} (hroot : (levels f level).getLast? = some [root])
    (hlength : path.length + 1 = (levels f level).length) :
    climb f node index path = root ↔ PathOf (levels f level) node index path := by
  unfold PathOf
  simp only [head?_levels, Option.some.injEq, exists_eq_left']
  induction level using levels.induct f generalizing node index path with
  | case1 level hlevel ih =>
      rw [levels_of_one_lt hlevel, List.getLast?_cons_of_ne_nil (levels_ne_nil f _)] at hroot
      rw [levels_of_one_lt hlevel, List.length_cons, Nat.add_right_cancel_iff] at hlength
      have hpos := List.length_pos_of_ne_nil (levels_ne_nil f (pairUp f level))
      rcases path with _ | ⟨sibling, path⟩
      · simp only [List.length_nil] at hlength
        omega
      · rw [climb, ih hroot hlength, getElem?_pairUp_eq_some hinj,
          siblingPath_levels_eq_some hlevel, landing_of_one_lt hlevel, childAt_div_two]
        constructor
        · rintro ⟨⟨hnode, rfl⟩, hrest⟩
          exact ⟨hnode, node, path, hnode, hrest, rfl⟩
        · rintro ⟨hnode, node', rest, hnode', hrest, hpath⟩
          rcases Option.some.inj (hnode.symm.trans hnode') with rfl
          rcases List.cons_eq_cons.mp hpath with ⟨rfl, rfl⟩
          exact ⟨⟨hnode, rfl⟩, hrest⟩
  | case2 level hlevel =>
      rw [levels_of_length_le (by omega)] at hroot hlength ⊢
      simp only [List.getLast?_singleton, Option.some.injEq] at hroot
      subst hroot
      simp only [List.length_singleton, Nat.add_eq_right, List.length_eq_zero_iff] at hlength
      subst hlength
      simp only [climb, landing, List.dropLast_singleton, siblingPath, List.getElem?_cons_zero,
        Option.some.injEq, and_true]
      exact eq_comm

end Injective

/-! ## Parts of a tree -/

/-- The levels from some level upwards are the levels over its nodes. -/
theorem exists_drop_levels (f : α → α → α) (level : List α) {height : Nat}
    (hheight : height < (levels f level).length) :
    ∃ upper, (levels f level).drop height = levels f upper := by
  induction height generalizing level with
  | zero => exact ⟨level, rfl⟩
  | succ height ih =>
      by_cases hlength : 1 < level.length
      · rw [levels_of_one_lt hlength, List.length_cons] at hheight
        rcases ih (pairUp f level) (by omega) with ⟨upper, hupper⟩
        exact ⟨upper, by rw [levels_of_one_lt hlength, List.drop_succ_cons, hupper]⟩
      · rw [levels_of_length_le (by omega), List.length_singleton] at hheight
        omega

/-- A walk along two lists is two walks in a row. -/
theorem climb_append (f : α → α → α) (node : α) (index : Nat) (lower upper : List α) :
    climb f node index (lower ++ upper) =
      climb f (climb f node index lower) (index / 2 ^ lower.length) upper := by
  induction lower generalizing node index with
  | nil => simp [climb]
  | cons sibling lower ih =>
      rw [List.cons_append, climb, ih, climb, List.length_cons, Nat.pow_succ',
        Nat.div_div_eq_div_mul]

end PairTree
