import Mathlib.Data.Nat.Basic
/-!
# Loops that can fault

A body takes the state to the next one (`inl`) or out of the loop with a result (`inr`), and `none`
is a fault. `iterate` allows so many rounds and faults when they are used up, so that a result says
three things at once: the loop ends, within its rounds, and no round faults. `iterate_total` is the
rule for it, an invariant and a measure that falls; a search over a list faults only where the test
of an element does (`anyM_eq`).
-/
namespace Loops

section
variable {σ ρ : Type} (body : σ → Option (σ ⊕ ρ))

def iterate : Nat → σ → Option ρ
  | 0, _ => none
  | n + 1, s => match body s with
    | none => none
    | some (.inl s') => iterate n s'
    | some (.inr r) => some r

variable {body}

theorem iterate_next {s s' : σ} (h : body s = some (.inl s')) (n : Nat) :
    iterate body (n + 1) s = iterate body n s' := by
  simp only [iterate, h]

theorem iterate_return {s : σ} {r : ρ} (h : body s = some (.inr r)) (n : Nat) :
    iterate body (n + 1) s = some r := by
  simp only [iterate, h]

/-- **Total correctness.** Where every round keeps the invariant and lowers the measure, or ends with a
result that is wanted, the loop gives one that is, in any number of rounds above the measure. -/
theorem iterate_total {I : σ → Prop} {Q : ρ → Prop} {m : σ → Nat}
    (hbody : ∀ s, I s → (∃ s', body s = some (.inl s') ∧ I s' ∧ m s' < m s) ∨
      ∃ r, body s = some (.inr r) ∧ Q r) (n : Nat) {s : σ} (hs : I s) (hn : m s < n) :
    ∃ r, iterate body n s = some r ∧ Q r := by
  induction n generalizing s with
  | zero => omega
  | succ n ih =>
    rcases hbody s hs with ⟨s', hnext, hs', hlt⟩ | ⟨r, hreturn, hr⟩
    · rw [iterate_next hnext]
      exact ih hs' (by omega)
    · exact ⟨r, iterate_return hreturn n, hr⟩

/-- The same for a result that is known. -/
theorem iterate_eq {I : σ → Prop} {m : σ → Nat} {r : ρ}
    (hbody : ∀ s, I s → (∃ s', body s = some (.inl s') ∧ I s' ∧ m s' < m s) ∨ body s = some (.inr r))
    (n : Nat) {s : σ} (hs : I s) (hn : m s < n) : iterate body n s = some r := by
  obtain ⟨r', hrun, rfl⟩ := iterate_total (Q := fun r' => r' = r)
    (fun s hs => (hbody s hs).imp_right fun hreturn => ⟨r, hreturn, rfl⟩) n hs hn
  exact hrun

end

/-- A search whose tests do not fault is the search with their answers. -/
theorem anyM_eq {α : Type} {test : α → Option Bool} {answer : α → Bool} {l : List α}
    (h : ∀ a ∈ l, test a = some (answer a)) : l.anyM test = some (l.any answer) := by
  induction l with
  | nil => rfl
  | cons a l ih =>
    obtain ⟨ha, hl⟩ := List.forall_mem_cons.1 h
    rw [List.anyM, ha, List.any_cons]
    cases answer a with
    | true => rfl
    | false => exact ih hl

end Loops
