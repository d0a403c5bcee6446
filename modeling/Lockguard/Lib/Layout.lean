import Mathlib.Data.List.Basic
import Mathlib.Data.Nat.Basic
/-!
# The layout of a struct

Fields one after another, each at the next multiple of its alignment, and room at the end up to a
multiple of the largest. Fields keep apart (`offsetsFrom_apart`) and inside the struct
(`offsets_inside`).
-/
namespace Layout

/-- A field's size and alignment. -/
structure Field where
  size : Nat
  align : Nat

/-- A scalar is aligned to its own size. -/
def Field.scalar (n : Nat) : Field := ⟨n, n⟩

def Field.bytes (n : Nat) : Field := ⟨n, 1⟩

def roundUp (n a : Nat) : Nat := (n + (a - 1)) / a * a

theorem le_roundUp {a : Nat} (ha : 0 < a) (n : Nat) : n ≤ roundUp n a := by
  have hdiv := Nat.div_add_mod (n + (a - 1)) a
  have hmod := Nat.mod_lt (n + (a - 1)) ha
  rw [roundUp, Nat.mul_comm]
  omega

/-- The offsets of fields laid out from a position on, and the position after the last. -/
def offsetsFrom : Nat → List Field → List Nat × Nat
  | pos, [] => ([], pos)
  | pos, f :: fs =>
    let off := roundUp pos f.align
    let rest := offsetsFrom (off + f.size) fs
    (off :: rest.1, rest.2)

def offsets (fs : List Field) : List Nat := (offsetsFrom 0 fs).1

def structSize (fs : List Field) : Nat := roundUp (offsetsFrom 0 fs).2 ((fs.map Field.align).foldl max 1)

section
variable {fs : List Field} (h : ∀ f ∈ fs, 0 < f.align)
include h

theorem offsetsFrom_inside (pos : Nat) : pos ≤ (offsetsFrom pos fs).2 ∧
    ∀ p ∈ (offsetsFrom pos fs).1.zip (fs.map Field.size), pos ≤ p.1 ∧ p.1 + p.2 ≤ (offsetsFrom pos fs).2 := by
  induction fs generalizing pos with
  | nil => simp [offsetsFrom]
  | cons f fs ih =>
    have hle := le_roundUp (h f List.mem_cons_self) pos
    obtain ⟨hend, hrest⟩ := ih (fun g hg => h g (List.mem_cons_of_mem _ hg)) (roundUp pos f.align + f.size)
    simp only [offsetsFrom, List.map_cons, List.zip_cons_cons, List.mem_cons]
    refine ⟨by omega, ?_⟩
    rintro p (rfl | hp)
    · exact ⟨hle, hend⟩
    · obtain ⟨hlow, hhigh⟩ := hrest p hp
      exact ⟨by omega, hhigh⟩

/-- Each field ends before the next begins. -/
theorem offsetsFrom_apart (pos : Nat) :
    ((offsetsFrom pos fs).1.zip (fs.map Field.size)).Pairwise fun p q => p.1 + p.2 ≤ q.1 := by
  induction fs generalizing pos with
  | nil => exact .nil
  | cons f fs ih =>
    have hrest : ∀ g ∈ fs, 0 < g.align := fun g hg => h g (List.mem_cons_of_mem _ hg)
    simp only [offsetsFrom, List.map_cons, List.zip_cons_cons]
    refine .cons ?_ (ih hrest _)
    intro q hq
    exact ((offsetsFrom_inside hrest _).2 q hq).1

theorem offsets_inside {p : Nat × Nat} (hp : p ∈ (offsets fs).zip (fs.map Field.size)) :
    p.1 + p.2 ≤ structSize fs := by
  have halign : 0 < (fs.map Field.align).foldl max 1 := by
    have hmono : ∀ (l : List Nat) (m : Nat), m ≤ l.foldl max m := by
      intro l
      induction l with
      | nil => exact fun m => Nat.le_refl m
      | cons a l ih => exact fun m => Nat.le_trans (Nat.le_max_left m a) (ih (max m a))
    exact hmono _ 1
  exact Nat.le_trans ((offsetsFrom_inside h 0).2 p hp).2 (le_roundUp halign _)

end

end Layout
