import Mathlib.Data.List.Basic
import Mathlib.Data.List.Induction

/-!
# Linked trees

Nodes that lead on to other nodes by labelled edges, and the node that a path of labels leads to.
Where every node is reached by one path only, a new edge to a node that is not reached yet adds one
path and leaves the others as they are (`walk_grow`).
-/

namespace InitialSetups.Text

variable {ν α : Type} {child child' : ν → α → Option ν} {root n r a : ν} {p q pre : List α} {x : α}

/-- The node that a path leads to. -/
def walk (child : ν → α → Option ν) : ν → List α → Option ν
  | n, [] => some n
  | n, x :: p => (child n x).bind fun c => walk child c p

/-- No node is reached by two paths. -/
def IsTree (child : ν → α → Option ν) (root : ν) : Prop :=
  ∀ p q a, walk child root p = some a → walk child root q = some a → p = q

@[simp] lemma walk_nil : walk child n [] = some n := rfl

lemma walk_append : walk child n (p ++ q) = (walk child n p).bind fun c => walk child c q := by
  induction p generalizing n with
  | nil => rfl
  | cons x p ih =>
      rw [List.cons_append, walk, walk]
      cases child n x with
      | none => rfl
      | some c => exact ih

lemma walk_concat : walk child n (p ++ [x]) = (walk child n p).bind fun c => child c x := by
  rw [walk_append]
  congr 1
  ext c
  simp [walk]

lemma walk_ne_none (hpq : p <+: q) (hq : walk child n q ≠ none) : walk child n p ≠ none := by
  obtain ⟨t, rfl⟩ := hpq
  intro hp
  rw [walk_append, hp] at hq
  exact hq rfl

/-- `child'` has one edge more than `child`: from the node at `pre` to `r`, which was not reached
before and leads nowhere yet. -/
structure Grows (child child' : ν → α → Option ν) (root : ν) (pre : List α) (x : α) (n r : ν) :
    Prop where
  start : walk child root pre = some n
  free : child n x = none
  edge : child' n x = some r
  unreached : ∀ p, walk child root p ≠ some r
  leaf : ∀ y, child' r y = none
  same : ∀ p a y, walk child root p = some a → (a = n → y ≠ x) → child' a y = child a y

lemma walk_grow (htree : IsTree child root) (h : Grows child child' root pre x n r) [DecidableEq α]
    (q : List α) :
    walk child' root q = if q = pre ++ [x] then some r else walk child root q := by
  induction q using List.reverseRecOn with
  | nil => rw [if_neg (by simp), walk_nil, walk_nil]
  | append_singleton q y ih =>
      rw [walk_concat, ih]
      by_cases hq : q = pre ++ [x]
      · -- beyond the new node
        rw [if_pos hq, if_neg (fun h' => by simpa [hq] using congrArg List.length h'), hq]
        show child' r y = _
        rw [h.leaf, walk_concat (p := pre ++ [x]), walk_concat, h.start]
        show none = (child n x).bind _
        rw [h.free]
        rfl
      · rw [if_neg hq, walk_concat]
        cases hwalk : walk child root q with
        | none =>
            rw [if_neg]
            · rfl
            · intro h'
              rw [(List.append_inj' h' rfl).1, h.start] at hwalk
              cases hwalk
        | some a =>
            show child' a y = if _ then _ else child a y
            split_ifs with h'
            · obtain ⟨rfl, hyx⟩ := List.append_inj' h' rfl
              rw [h.start] at hwalk
              rw [← Option.some.inj hwalk, List.singleton_inj.1 hyx, h.edge]
            · refine h.same q a y hwalk ?_
              rintro rfl rfl
              exact h' (by rw [htree q pre _ hwalk h.start])

lemma IsTree.grow (htree : IsTree child root) (h : Grows child child' root pre x n r)
    [DecidableEq α] : IsTree child' root := by
  intro p q a hp hq
  rw [walk_grow htree h] at hp hq
  split_ifs at hp hq with h1 h2 h2
  · rw [h1, h2]
  · rw [← Option.some.inj hp] at hq
    exact absurd hq (h.unreached q)
  · rw [← Option.some.inj hq] at hp
    exact absurd hp (h.unreached p)
  · exact htree p q a hp hq

end InitialSetups.Text
