import Mathlib.Data.List.Basic
import Mathlib.Tactic.Common

/-!
# Trees of paired levels

A level is folded into the next one by combining its nodes in pairs; a last node
without a partner is combined with itself.  Repeating this leads to a single
root.  A node is bound to the root by the list of its siblings on the way up.

The combination is an arbitrary function.  The results on membership assume
that it is injective and that no leaf is a combination.

Main results:

- Theorem {lit}`exists_root`: the levels of a non-empty list end in one root.
- Theorem {lit}`climb_siblingPath`: the sibling path of a node leads from the
  node to the root.
- Theorem {lit}`within_root`: every leaf lies within the root.
- Theorem {lit}`mem_of_within_root`: a node within the tree that is not a
  combination is a leaf.
-/

namespace PairTree

universe u

variable {α : Type u}

/-! ## Levels -/

/-- Combine the nodes of a level in pairs, an odd last one with itself. -/
def pairUp (f : α → α → α) : List α → List α
  | [] => []
  | [a] => [f a a]
  | a :: b :: rest => f a b :: pairUp f rest

/-- A level halves, rounded up. -/
@[simp] theorem length_pairUp (f : α → α → α) (level : List α) :
    (pairUp f level).length = (level.length + 1) / 2 := by
  induction level using pairUp.induct with
  | case1 => simp [pairUp]
  | case2 a => simp [pairUp]
  | case3 a b rest ih =>
      simp only [pairUp, List.length_cons, ih]
      omega

/-- The given level and all levels above it, up to the root. -/
def levels (f : α → α → α) (level : List α) : List (List α) :=
  if 1 < level.length then level :: levels f (pairUp f level) else [level]
termination_by level.length
decreasing_by
  simp only [length_pairUp]
  omega

theorem levels_of_length_le {f : α → α → α} {level : List α} (hlength : level.length ≤ 1) :
    levels f level = [level] := by
  rw [levels, if_neg (by omega)]

theorem levels_of_one_lt {f : α → α → α} {level : List α} (hlength : 1 < level.length) :
    levels f level = level :: levels f (pairUp f level) := by
  rw [levels, if_pos hlength]

theorem levels_ne_nil (f : α → α → α) (level : List α) : levels f level ≠ [] := by
  unfold levels
  split <;> simp

/-- There is a level above a level with several nodes. -/
theorem pairUp_ne_nil {f : α → α → α} {level : List α} (hlength : 1 < level.length) :
    pairUp f level ≠ [] := by
  intro hnil
  have hhalf := length_pairUp f level
  simp only [hnil, List.length_nil] at hhalf
  omega

/-- The levels of a non-empty list end in one root. -/
theorem exists_root (f : α → α → α) {level : List α} (hlevel : level ≠ []) :
    ∃ root, (levels f level).getLast? = some [root] := by
  induction level using levels.induct f with
  | case1 level hlength ih =>
      rw [levels_of_one_lt hlength, List.getLast?_cons_of_ne_nil (levels_ne_nil f _)]
      exact ih (pairUp_ne_nil hlength)
  | case2 level hlength =>
      rw [levels_of_length_le (by omega)]
      match level, hlevel with
      | [root], _ => exact ⟨root, rfl⟩
      | _ :: _ :: _, _ => simp at hlength

/-! ## Sibling paths -/

/-- The index of the partner of a node in its level. -/
def siblingIndex (index : Nat) : Nat :=
  if index % 2 = 0 then index + 1 else index - 1

/-- A node combined with its sibling, in the order of their indices. -/
def combineAt (f : α → α → α) (index : Nat) (node sibling : α) : α :=
  if index % 2 = 0 then f node sibling else f sibling node

/-- The siblings of a node in a list of levels, from its own level upwards; a
missing sibling is the node itself.  There is no path when an index leaves its
level. -/
def siblingPath : List (List α) → Nat → Option (List α)
  | [], _ => some []
  | level :: above, index => do
      let node ← level[index]?
      let path ← siblingPath above (index / 2)
      return level[siblingIndex index]?.getD node :: path

/-- Walk up from a node along a list of siblings. -/
def climb (f : α → α → α) : α → Nat → List α → α
  | node, _, [] => node
  | node, index, sibling :: path => climb f (combineAt f index node sibling) (index / 2) path

theorem siblingIndex_add_two (index : Nat) :
    siblingIndex (index + 2) = siblingIndex index + 2 := by
  unfold siblingIndex
  split <;> split <;> omega

/-- The parent of a node is the node combined with its sibling. -/
theorem getElem?_pairUp (f : α → α → α) {level : List α} {index : Nat} {node : α}
    (hnode : level[index]? = some node) :
    (pairUp f level)[index / 2]? =
      some (combineAt f index node (level[siblingIndex index]?.getD node)) := by
  induction level using pairUp.induct generalizing index with
  | case1 => simp at hnode
  | case2 a =>
      match index with
      | 0 => simp_all [pairUp, combineAt, siblingIndex]
      | index + 1 => simp at hnode
  | case3 a b rest ih =>
      match index with
      | 0 => simp_all [pairUp, combineAt, siblingIndex]
      | 1 => simp_all [pairUp, combineAt, siblingIndex]
      | index + 2 =>
          have hhalf : (index + 2) / 2 = index / 2 + 1 := by omega
          have hparity : (index + 2) % 2 = index % 2 := by omega
          simp only [List.getElem?_cons_succ] at hnode
          simp only [pairUp, hhalf, siblingIndex_add_two, List.getElem?_cons_succ, ih hnode,
            combineAt, hparity]

/-- The sibling path of a node has one entry for each level below the root and
leads from the node to the root. -/
theorem climb_siblingPath (f : α → α → α) {level : List α} {index : Nat} {node : α}
    (hnode : level[index]? = some node) :
    ∃ path root, siblingPath (levels f level).dropLast index = some path ∧
      path.length + 1 = (levels f level).length ∧
      (levels f level).getLast? = some [root] ∧ climb f node index path = root := by
  induction level using levels.induct f generalizing index node with
  | case1 level hlength ih =>
      have hparent := getElem?_pairUp f hnode
      rcases ih hparent with ⟨path, root, hpath, hcount, hroot, hclimb⟩
      have habove := levels_ne_nil f (pairUp f level)
      refine ⟨level[siblingIndex index]?.getD node :: path, root, ?_, ?_, ?_, hclimb⟩
      · rw [levels_of_one_lt hlength, List.dropLast_cons_of_ne_nil habove]
        simp [siblingPath, hnode, hpath]
      · rw [levels_of_one_lt hlength, List.length_cons, List.length_cons, hcount]
      · rw [levels_of_one_lt hlength, List.getLast?_cons_of_ne_nil habove, hroot]
  | case2 level hlength =>
      rw [levels_of_length_le (by omega)]
      match level, index with
      | [root], 0 => exact ⟨[], root, rfl, rfl, rfl, (Option.some.inj hnode).symm⟩
      | _ :: _ :: _, _ => simp at hlength

/-! ## Nodes within a tree -/

/-- The first node lies on or below the second one. -/
inductive Within (f : α → α → α) (x : α) : α → Prop where
  | refl : Within f x x
  | left {l r : α} (within : Within f x l) : Within f x (f l r)
  | right {l r : α} (within : Within f x r) : Within f x (f l r)

theorem Within.trans {f : α → α → α} {x y z : α} (hxy : Within f x y) (hyz : Within f y z) :
    Within f x z := by
  induction hyz with
  | refl => exact hxy
  | left _ ih => exact ih.left
  | right _ ih => exact ih.right

/-- The start of a walk lies within its end. -/
theorem within_climb (f : α → α → α) (node : α) (index : Nat) (path : List α) :
    Within f node (climb f node index path) := by
  induction path generalizing node index with
  | nil => exact .refl
  | cons sibling path ih =>
      refine Within.trans ?_ (ih (combineAt f index node sibling) (index / 2))
      unfold combineAt
      split
      · exact Within.refl.left
      · exact Within.refl.right

/-- Every node of the first level lies within the root. -/
theorem within_root (f : α → α → α) {level : List α} {root x : α}
    (hroot : (levels f level).getLast? = some [root]) (hx : x ∈ level) : Within f x root := by
  rcases List.getElem?_of_mem hx with ⟨index, hnode⟩
  rcases climb_siblingPath f hnode with ⟨path, root', -, -, hroot', rfl⟩
  rw [hroot'] at hroot
  cases hroot
  exact within_climb f x index path

/-- A node built from leaves by combinations. -/
inductive Built (f : α → α → α) (leaves : List α) : α → Prop where
  | leaf {x : α} (mem : x ∈ leaves) : Built f leaves x
  | node {l r : α} (left : Built f leaves l) (right : Built f leaves r) : Built f leaves (f l r)

/-- Pairing up keeps nodes built from the leaves. -/
theorem Built.pairUp {f : α → α → α} {leaves level : List α}
    (hbuilt : ∀ x ∈ level, Built f leaves x) : ∀ x ∈ pairUp f level, Built f leaves x := by
  induction level using PairTree.pairUp.induct with
  | case1 => simp [PairTree.pairUp]
  | case2 a =>
      intro x hx
      have ha := hbuilt a (by simp)
      simp only [PairTree.pairUp, List.mem_singleton] at hx
      rw [hx]
      exact .node ha ha
  | case3 a b rest ih =>
      intro x hx
      simp only [PairTree.pairUp, List.mem_cons] at hx
      rcases hx with rfl | hx
      · exact .node (hbuilt a (by simp)) (hbuilt b (by simp))
      · exact ih (fun y hy => hbuilt y (by simp [hy])) x hx

/-- The root is built from the leaves. -/
theorem Built.root {f : α → α → α} {leaves level : List α} {root : α}
    (hbuilt : ∀ x ∈ level, Built f leaves x)
    (hroot : (levels f level).getLast? = some [root]) : Built f leaves root := by
  induction level using levels.induct f with
  | case1 level hlength ih =>
      rw [levels_of_one_lt hlength, List.getLast?_cons_of_ne_nil (levels_ne_nil f _)] at hroot
      exact ih (Built.pairUp hbuilt) hroot
  | case2 level hlength =>
      rw [levels_of_length_le (by omega)] at hroot
      simp only [List.getLast?_singleton, Option.some.injEq] at hroot
      exact hbuilt root (by simp [hroot])

section Injective

variable {f : α → α → α}
variable (hinj : ∀ a b c d, f a b = f c d → a = c ∧ b = d)

include hinj

/-- Under an injective combination, a combination that is no leaf was built from
its own two parts. -/
theorem Built.parts {leaves : List α} {l r : α} (hleaves : ∀ leaf ∈ leaves, ∀ a b, leaf ≠ f a b)
    (hbuilt : Built f leaves (f l r)) : Built f leaves l ∧ Built f leaves r := by
  generalize hnode : f l r = node at hbuilt
  cases hbuilt with
  | leaf mem => exact absurd hnode.symm (hleaves _ mem l r)
  | node left right =>
      rcases hinj _ _ _ _ hnode with ⟨rfl, rfl⟩
      exact ⟨left, right⟩

/-- Under an injective combination, a node within a built one that is no
combination itself is a leaf. -/
theorem Built.mem_of_within {leaves : List α} {x y : α}
    (hleaves : ∀ leaf ∈ leaves, ∀ a b, leaf ≠ f a b) (hx : ∀ a b, x ≠ f a b)
    (hwithin : Within f x y) (hbuilt : Built f leaves y) : x ∈ leaves := by
  induction hwithin with
  | refl =>
      cases hbuilt with
      | leaf mem => exact mem
      | node => exact absurd rfl (hx _ _)
  | left _ ih => exact ih (Built.parts hinj hleaves hbuilt).1
  | right _ ih => exact ih (Built.parts hinj hleaves hbuilt).2

/-- A node within the tree of some leaves that is no combination is one of the
leaves. -/
theorem mem_of_within_root {leaves : List α} {x root : α}
    (hleaves : ∀ leaf ∈ leaves, ∀ a b, leaf ≠ f a b) (hx : ∀ a b, x ≠ f a b)
    (hroot : (levels f leaves).getLast? = some [root]) (hwithin : Within f x root) :
    x ∈ leaves :=
  Built.mem_of_within hinj hleaves hx hwithin (Built.root (fun _ hmem => .leaf hmem) hroot)

end Injective

end PairTree
