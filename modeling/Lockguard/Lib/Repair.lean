import Mathlib.Init
/-!
# Repairs

A repair brings every state to one that is right and leaves alone a state that is right. One after
another, repairs of which the later keep what the earlier are for are a repair, `Repairs.comp`.
-/
namespace Repair

variable {σ : Type} {f g : σ → σ} {P Q : σ → Prop}

structure Repairs (f : σ → σ) (P : σ → Prop) : Prop where
  mends : ∀ s, P (f s)
  quiet : ∀ s, P s → f s = s

/-- **One repair after another.** -/
theorem Repairs.comp (hf : Repairs f P) (hg : Repairs g Q) (hkeeps : ∀ s, P s → P (g s)) :
    Repairs (fun s => g (f s)) fun s => P s ∧ Q s where
  mends s := ⟨hkeeps _ (hf.mends s), hg.mends _⟩
  quiet s h := by rw [hf.quiet s h.1, hg.quiet s h.2]

end Repair
