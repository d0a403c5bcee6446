import Lockguard.Lib.Prog
/-!
# Runs cut off and started again

`Always` is what holds wherever a run is cut off, with a rule for each way a program is put together.
`after_view` is the rule for starting again: if a view of the state is the same before and after each call
of a program, say of what a later run will make of the state, a run cut off anywhere leaves it as it was.
`after_forget` takes a run to one that keeps less of the state. `stopping` is a handler under which the first call
that fails ends the run: what it leaves is what some cut leaves (`after_stopping`), and it goes on to the end where the
program `Passes`.
-/
namespace Calls

namespace Prog

variable {Op : Type} {Ret : Op → Type} {α β σ : Type} {h : Handler Op Ret σ} {I J : σ → Prop} {P : Op → Prop}

/-- The state satisfies `I` at the start and after every call. -/
def Always (h : Handler Op Ret σ) (I : σ → Prop) : Prog Op Ret α → σ → Prop
  | .done _, s => I s
  | .call op next, s => I s ∧ (next (h op s).1).Always h I (h op s).2

theorem Always.start {x : Prog Op Ret α} {s : σ} (hx : x.Always h I s) : I s := by
  cases x with
  | done a => exact hx
  | call op next => exact hx.1

theorem Always.run {x : Prog Op Ret α} {s : σ} (hx : x.Always h I s) : I (x.run h s).2 := by
  induction x generalizing s with
  | done a => exact hx
  | call op next ih => exact ih _ hx.2

theorem Always.after {x : Prog Op Ret α} {s : σ} (hx : x.Always h I s) (n : Nat) : I (x.after h n s) := by
  induction n generalizing x s with
  | zero => exact hx.start
  | succ n ih =>
    cases x with
    | done a => exact hx
    | call op next => exact ih hx.2

theorem always_call {op : Op} {f : Ret op → Prog Op Ret α} {s : σ} (hs : I s) (hf : (f (h op s).1).Always h I (h op s).2) :
    ((perform op : Prog Op Ret (Ret op)) >>= f).Always h I s :=
  ⟨hs, hf⟩

theorem always_bind {x : Prog Op Ret α} {f : α → Prog Op Ret β} {s : σ} (hx : x.Always h I s)
    (hf : (f (x.run h s).1).Always h I (x.run h s).2) : (x >>= f).Always h I s := by
  show (x.bind f).Always h I s
  induction x generalizing s with
  | done a => exact hf
  | call op next ih => exact ⟨hx.1, ih _ hx.2 hf⟩

/-- An invariant of every call the program makes. -/
theorem always_of_makes (hop : ∀ op s, P op → I s → I (h op s).2) {x : Prog Op Ret α} (hx : x.Makes P) {s : σ} (hs : I s) :
    x.Always h I s := by
  induction x generalizing s with
  | done a => exact hs
  | call op next ih => exact ⟨hs, ih _ (hx.2 _) (hop op s hx.1 hs)⟩

/-! ## A state with more in it -/

section
variable {τ : Type} {g : Handler Op Ret τ} {f : σ → τ}

/-- What no answer depends on may be left out of the state. -/
theorem run_forget (hop : ∀ op s, g op (f s) = ((h op s).1, f (h op s).2)) (x : Prog Op Ret α) (s : σ) :
    x.run g (f s) = ((x.run h s).1, f (x.run h s).2) := by
  induction x generalizing s with
  | done a => rfl
  | call op next ih =>
    simp only [run, hop]
    exact ih _ _

theorem after_forget (hop : ∀ op s, g op (f s) = ((h op s).1, f (h op s).2)) (x : Prog Op Ret α) (n : Nat) (s : σ) :
    x.after g n (f s) = f (x.after h n s) := by
  induction n generalizing x s with
  | zero => rfl
  | succ n ih =>
    cases x with
    | done a => rfl
    | call op next =>
      simp only [Prog.after, hop]
      exact ih _ _

end

/-- **The rule for starting again.** -/
theorem after_view {γ : Type} {f : σ → γ} (hop : ∀ op s, P op → f (h op s).2 = f s) {x : Prog Op Ret α} (hx : x.Makes P)
    (n : Nat) (s : σ) : f (x.after h n s) = f s :=
  Always.after (I := fun u => f u = f s) (always_of_makes (fun op u hP hu => (hop op u hP).trans hu) hx rfl) n

/-! ## Calls that fail -/

section
variable {fails : Op → σ → Bool}

/-- The first call that fails does nothing, and nor does any after it. -/
def stopping (h : Handler Op Ret σ) (fails : Op → σ → Bool) : Handler Op Ret (σ × Bool) := fun op s =>
  ((h op s.1).1, if s.2 then s else if fails op s.1 then (s.1, true) else ((h op s.1).2, false))

/-- No call of the run fails. -/
def Passes (h : Handler Op Ret σ) (fails : Op → σ → Bool) : Prog Op Ret α → σ → Prop
  | .done _, _ => True
  | .call op next, s => fails op s = false ∧ (next (h op s).1).Passes h fails (h op s).2

theorem after_stopped (x : Prog Op Ret α) (n : Nat) (s : σ) : x.after (stopping h fails) n (s, true) = (s, true) := by
  induction n generalizing x with
  | zero => rfl
  | succ n ih =>
    cases x with
    | done a => rfl
    | call op next => exact ih _

theorem run_stopped (x : Prog Op Ret α) (s : σ) : (x.run (stopping h fails) (s, true)).2 = (s, true) := by
  induction x with
  | done a => rfl
  | call op next ih => exact ih _

/-- **A run that stops is a run cut off.** -/
theorem after_stopping (x : Prog Op Ret α) (n : Nat) (s : σ) :
    ∃ k, (x.after (stopping h fails) n (s, false)).1 = x.after h k s := by
  induction n generalizing x s with
  | zero => exact ⟨0, rfl⟩
  | succ n ih =>
    cases x with
    | done a => exact ⟨0, rfl⟩
    | call op next =>
      cases hop : fails op s with
      | true =>
        refine ⟨0, ?_⟩
        simp only [Prog.after, stopping, hop, Bool.false_eq_true, if_false, if_true]
        exact congrArg Prod.fst (after_stopped _ n s)
      | false =>
        obtain ⟨k, hk⟩ := ih (next (h op s).1) (h op s).2
        refine ⟨k + 1, ?_⟩
        simp only [Prog.after, stopping, hop, Bool.false_eq_true, if_false]
        exact hk

/-- It is not stopped where no call fails, and then it is the run without failures. -/
theorem run_stopping (x : Prog Op Ret α) (s : σ) :
    ((x.run (stopping h fails) (s, false)).2.2 = false ↔ x.Passes h fails s) ∧
      (x.Passes h fails s → (x.run (stopping h fails) (s, false)).2 = ((x.run h s).2, false)) := by
  induction x generalizing s with
  | done a => exact ⟨iff_of_true rfl trivial, fun _ => rfl⟩
  | call op next ih =>
    simp only [run, stopping, Passes, Bool.false_eq_true, if_false]
    cases hop : fails op s with
    | true =>
      have hstopped : ((next (h op s).1).run (stopping h fails) (s, true)).2.2 = true := congrArg Prod.snd (run_stopped _ s)
      refine ⟨iff_of_false ?_ (by simp), fun hpasses => absurd hpasses.1 (by simp)⟩
      simpa using hstopped
    | false =>
      simp only [Bool.false_eq_true, if_false, true_and]
      exact ih _ _

theorem passes_bind {x : Prog Op Ret α} {f : α → Prog Op Ret β} {s : σ} :
    (x >>= f).Passes h fails s ↔ x.Passes h fails s ∧ (f (x.run h s).1).Passes h fails (x.run h s).2 := by
  show (x.bind f).Passes h fails s ↔ _
  induction x generalizing s with
  | done a => exact ⟨fun hf => ⟨trivial, hf⟩, fun hf => hf.2⟩
  | call op next ih =>
    simp only [bind, Passes, run, ih, and_assoc]

/-- An invariant under which no call the program makes fails. -/
theorem passes_of_makes (hop : ∀ op s, P op → I s → fails op s = false ∧ I (h op s).2) {x : Prog Op Ret α} (hx : x.Makes P)
    {s : σ} (hs : I s) : x.Passes h fails s := by
  induction x generalizing s with
  | done a => trivial
  | call op next ih => exact ⟨(hop op s hx.1 hs).1, ih _ (hx.2 _) (hop op s hx.1 hs).2⟩

end

end Prog

end Calls
