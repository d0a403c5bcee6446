import Mathlib.Logic.Function.Basic
import Lockguard.Lib.Wp
/-!
# Programs that refine programs

Two levels of one program: the finer one has a state with a part of its own, such as the table of what
it holds open, and a view of it is the state of the coarser one. `Refines` says that the finer program
makes each call when it may, leaves its own part as it was, and comes to what the coarser one may come
to. Its rules follow how a program is put together; `refines_lift` is the one for programs that are the
same at both levels.
-/
namespace Calls

namespace Prog

section
variable {Op : Type} {Ret : Op → Type} {α β σ : Type} {C : Contract Op Ret σ}

theorem gives_bind {x : Prog Op Ret α} {f : α → Prog Op Ret β} {s u s' : σ} {a : α} {b : β} (hx : x.Gives C s a u)
    (hf : (f a).Gives C u b s') : (x >>= f).Gives C s b s' := by
  show (x.bind f).Gives C s b s'
  induction x generalizing s with
  | done c =>
    obtain ⟨rfl, rfl⟩ := hx
    exact hf
  | call op next ih =>
    obtain ⟨r, v, hpost, hrest⟩ := hx
    exact ⟨r, v, hpost, ih r hrest⟩

/-- The program with each call made as one of another kind that answers alike. -/
def lift {Op' : Type} {Ret' : Op' → Type} (f : Op → Op') (back : (op : Op) → Ret' (f op) → Ret op) :
    Prog Op Ret α → Prog Op' Ret' α
  | .done a => .done a
  | .call op next => .call (f op) fun r => (next (back op r)).lift f back

end

end Prog

/-- A finer and a coarser level. -/
structure Levels (Op : Type) (Ret : Op → Type) (Op' : Type) (Ret' : Op' → Type) (σ τ κ : Type) where
  fine : Contract Op Ret σ
  coarse : Contract Op' Ret' τ
  view : σ → τ
  own : σ → κ

namespace Levels

open Prog

variable {Op Op' σ τ κ α β : Type} {Ret : Op → Type} {Ret' : Op' → Type}

def Refines (L : Levels Op Ret Op' Ret' σ τ κ) (P : κ → Prop) (x : Prog Op Ret α) (y : Prog Op' Ret' α) : Prop :=
  ∀ s, P (L.own s) → x.wp L.fine (fun a s' => L.own s' = L.own s ∧ y.Gives L.coarse (L.view s) a (L.view s')) s

variable {L : Levels Op Ret Op' Ret' σ τ κ} {P : κ → Prop}

theorem refines_pure (a : α) : L.Refines P (pure a) (pure a) := fun _ _ => ⟨rfl, rfl, rfl⟩

theorem refines_bind {x : Prog Op Ret α} {y : Prog Op' Ret' α} {f : α → Prog Op Ret β} {g : α → Prog Op' Ret' β}
    (hx : L.Refines P x y) (hf : ∀ a, L.Refines P (f a) (g a)) : L.Refines P (x >>= f) (y >>= g) := by
  intro s hs
  refine wp_seq (hx s hs) ?_
  rintro a u ⟨hown, hgives⟩
  refine wp_mono (hf a u (hown ▸ hs)) ?_
  rintro b s' ⟨hown', hgives'⟩
  exact ⟨hown'.trans hown, gives_bind hgives hgives'⟩

theorem refines_ite {p : Prop} [Decidable p] {x x' : Prog Op Ret α} {y y' : Prog Op' Ret' α} (h : L.Refines P x y)
    (h' : L.Refines P x' y') : L.Refines P (if p then x else x') (if p then y else y') := by
  split
  · exact h
  · exact h'

/-- **The same program at both levels**, when each of its calls is one at either. -/
theorem refines_lift {f : Op' → Op} {back : (op : Op') → Ret (f op) → Ret' op}
    (hpre : ∀ op s, L.fine.pre (f op) s)
    (hpost : ∀ op s r s', L.fine.post (f op) s r s' →
      L.own s' = L.own s ∧ L.coarse.post op (L.view s) (back op r) (L.view s')) (x : Prog Op' Ret' α) :
    L.Refines P (x.lift f back) x := by
  induction x with
  | done a => exact refines_pure a
  | call op next ih =>
    intro s hs
    refine ⟨hpre op s, fun r u hp => ?_⟩
    obtain ⟨hown, hcoarse⟩ := hpost op s r u hp
    refine wp_mono (ih (back op r) u (hown ▸ hs)) ?_
    rintro a s' ⟨hown', hgives⟩
    exact ⟨hown'.trans hown, _, _, hcoarse, hgives⟩

end Levels

end Calls
