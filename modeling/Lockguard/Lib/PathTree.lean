import Mathlib.Data.List.Infix
import Mathlib.Logic.Function.Basic
/-!
# Trees of named nodes

A tree gives for each path what the node there holds, if there is one. Nodes are created below an
existing one, changed, removed when they have no children, and renamed: a rename takes the whole
subtree along and wants its new name free. All of it keeps a tree `Rooted`.
-/
namespace PathTree

abbrev Tree (κ ν : Type) := List κ → Option ν

section
variable {κ ν : Type} {t : Tree κ ν}

/-- Every node's parent is there. -/
def Rooted (t : Tree κ ν) : Prop := ∀ p c, (t (p ++ [c])).isSome → (t p).isSome

theorem Rooted.none_below (h : Rooted t) {p : List κ} (hp : t p = none) (r : List κ) : t (p ++ r) = none := by
  induction r using List.reverseRecOn with
  | nil => simpa using hp
  | append_singleton r c ih =>
    rw [← List.append_assoc]
    by_contra hne
    have := h (p ++ r) c (Option.isSome_iff_ne_none.2 hne)
    rw [ih] at this
    cases this

def Childless (t : Tree κ ν) (p : List κ) : Prop := ∀ c, t (p ++ [c]) = none

/-- Neither path lies at or below the other. -/
def Apart (p q : List κ) : Prop := ¬ p <+: q ∧ ¬ q <+: p

instance [DecidableEq κ] (p q : List κ) : Decidable (Apart p q) := inferInstanceAs (Decidable (_ ∧ _))

/-- Nothing lies below both of two paths apart. -/
theorem Apart.not_prefix {p q r : List κ} (h : Apart p q) (hp : p <+: r) : ¬ q <+: r := fun hq =>
  (List.prefix_or_prefix_of_prefix hp hq).elim h.1 h.2

/-- The path of a node renamed to `c`. -/
def sibling (p : List κ) (c : κ) : List κ := p.dropLast ++ [c]

variable [DecidableEq κ]

def create (t : Tree κ ν) (p : List κ) (c : κ) (v : ν) : Tree κ ν :=
  if (t p).isSome ∧ (t (p ++ [c])).isNone then Function.update t (p ++ [c]) (some v) else t

def modify (t : Tree κ ν) (p : List κ) (f : ν → ν) : Tree κ ν := Function.update t p ((t p).map f)

open Classical in
noncomputable def remove (t : Tree κ ν) (p : List κ) : Tree κ ν :=
  if Childless t p then Function.update t p none else t

/-- What was at and below `p` is now at and below `q`. -/
def move (t : Tree κ ν) (p q : List κ) : Tree κ ν := fun r =>
  if q <+: r then t (p ++ r.drop q.length) else if p <+: r then none else t r

/-- A rename to `c` can go ahead: the node is there and no node has the new name. -/
def CanRename (t : Tree κ ν) (p : List κ) (c : κ) : Prop :=
  p ≠ [] ∧ (t p).isSome ∧ (t (sibling p c)).isNone

instance (t : Tree κ ν) (p : List κ) (c : κ) : Decidable (CanRename t p c) :=
  inferInstanceAs (Decidable (_ ∧ _))

def rename (t : Tree κ ν) (p : List κ) (c : κ) : Tree κ ν :=
  if CanRename t p c then move t p (sibling p c) else t

/-! ## What each operation changes -/

@[simp] theorem modify_of_ne {p r : List κ} (f : ν → ν) (h : r ≠ p) : modify t p f r = t r :=
  Function.update_of_ne h _ _

theorem create_of_ne {p r : List κ} {c : κ} (v : ν) (h : r ≠ p ++ [c]) : create t p c v r = t r := by
  unfold create
  split
  · exact Function.update_of_ne h _ _
  · rfl

theorem remove_of_ne {p r : List κ} (h : r ≠ p) : remove t p r = t r := by
  unfold remove
  split
  · exact Function.update_of_ne h _ _
  · rfl

theorem remove_self {p : List κ} (h : Childless t p) : remove t p p = none := by
  rw [remove, if_pos h, Function.update_self]

theorem remove_of_children {p : List κ} (h : ¬ Childless t p) : remove t p = t := if_neg h

theorem rename_eq {p : List κ} {c : κ} (h : CanRename t p c) : rename t p c = move t p (sibling p c) := if_pos h

theorem rename_of_not {p : List κ} {c : κ} (h : ¬ CanRename t p c) : rename t p c = t := if_neg h

theorem move_target (p q s : List κ) : move t p q (q ++ s) = t (p ++ s) := by
  simp [move]

theorem move_outside {p q r : List κ} (hq : ¬ q <+: r) (hp : ¬ p <+: r) : move t p q r = t r := by
  simp [move, hq, hp]

theorem move_source {p q r : List κ} (hq : ¬ q <+: r) (hp : p <+: r) : move t p q r = none := by
  simp [move, hq, hp]

omit [DecidableEq κ] in
/-- Old and new name of a renamed node are names of different subtrees. -/
theorem not_prefix_of_sibling {p r : List κ} {c : κ} (h : CanRename t p c) (hp : p <+: r) :
    ¬ sibling p c <+: r := by
  intro hq
  obtain ⟨hne, hsome, hnone⟩ := h
  have hlen : (sibling p c).length = p.length := by
    have := List.length_pos_iff.2 hne
    simp only [sibling, List.length_append, List.length_dropLast, List.length_singleton]
    omega
  have heq : p = sibling p c :=
    (List.prefix_of_prefix_length_le hp hq (by omega)).eq_of_length (by omega)
  rw [← heq] at hnone
  cases hv : t p <;> simp [hv] at hsome hnone

/-! ## Rooted trees stay rooted -/

theorem Rooted.modify (h : Rooted t) (p : List κ) (f : ν → ν) : Rooted (modify t p f) := by
  have hsome : ∀ r, (PathTree.modify t p f r).isSome = (t r).isSome := by
    intro r
    by_cases hr : r = p
    · subst hr; simp [PathTree.modify]
    · rw [modify_of_ne f hr]
  intro r c hrc
  rw [hsome] at hrc ⊢
  exact h r c hrc

theorem Rooted.create (h : Rooted t) (p : List κ) (c : κ) (v : ν) : Rooted (create t p c v) := by
  unfold PathTree.create
  split
  · rename_i hcan
    intro r d hrd
    have hmono : (t r).isSome → (Function.update t (p ++ [c]) (some v) r).isSome := by
      intro hr
      by_cases hrp : r = p ++ [c]
      · subst hrp; simp
      · rwa [Function.update_of_ne hrp]
    by_cases hrp : r ++ [d] = p ++ [c]
    · obtain ⟨rfl, -⟩ := List.append_inj' hrp rfl
      exact hmono hcan.1
    · rw [Function.update_of_ne hrp] at hrd
      exact hmono (h r d hrd)
  · exact h

theorem Rooted.remove (h : Rooted t) (p : List κ) : Rooted (remove t p) := by
  unfold PathTree.remove
  split
  · rename_i hchild
    intro r c hrc
    by_cases hrp : r ++ [c] = p
    · rw [hrp, Function.update_self] at hrc
      cases hrc
    · rw [Function.update_of_ne hrp] at hrc
      have hr : r ≠ p := by
        rintro rfl
        rw [hchild c] at hrc
        cases hrc
      rw [Function.update_of_ne hr]
      exact h r c hrc
  · exact h

theorem Rooted.rename (h : Rooted t) (p : List κ) (c : κ) : Rooted (rename t p c) := by
  unfold PathTree.rename
  split
  · rename_i hcan
    intro r d hrd
    by_cases hq : sibling p c <+: r ++ [d]
    · rcases List.prefix_concat_iff.1 hq with heq | hqr
      · -- the renamed node itself: its parent is the old one's, and stays
        obtain ⟨rfl, -⟩ := List.append_inj' heq rfl
        have hlt : ¬ sibling p c <+: p.dropLast := fun hp => by
          have := hp.length_le
          simp only [sibling, List.length_append, List.length_singleton] at this
          omega
        have hlt' : ¬ p <+: p.dropLast := fun hp => by
          have := hp.length_le
          have := List.length_pos_iff.2 hcan.1
          simp only [List.length_dropLast] at *
          omega
        rw [move_outside hlt hlt']
        refine h p.dropLast (p.getLast hcan.1) ?_
        rw [List.dropLast_append_getLast]
        exact hcan.2.1
      · obtain ⟨s, rfl⟩ := hqr
        rw [List.append_assoc, move_target, ← List.append_assoc] at hrd
        rw [move_target]
        exact h _ d hrd
    · have hqr : ¬ sibling p c <+: r := fun hqr => hq (hqr.trans (List.prefix_append _ _))
      by_cases hp : p <+: r ++ [d]
      · rw [move_source hq hp] at hrd
        cases hrd
      · have hpr : ¬ p <+: r := fun hpr => hp (hpr.trans (List.prefix_append _ _))
        rw [move_outside hq hp] at hrd
        rw [move_outside hqr hpr]
        exact h r d hrd
  · exact h

end

end PathTree
