import Mathlib.Init
/-!
# Programs that call their environment

A program is the tree of the calls it makes: a node is a call, with what the program goes on with for
each answer. A handler gives the calls a meaning over a state. `run_bind` takes a run apart,
`Makes` says what calls a program consists of whatever it is answered, `run_rel` is the rule for what
holds between the states before and after a run, and `run_sim` the one for runs under two handlers.
`Seen` is the view of an observer to whom each call shows something of itself, and `after` the state a
run has come to when it is cut off.
-/
namespace Calls

inductive Prog (Op : Type) (Ret : Op → Type) (α : Type) where
  | done (a : α)
  | call (op : Op) (next : Ret op → Prog Op Ret α)

/-- What each call answers in a state, and the state it leaves. -/
abbrev Handler (Op : Type) (Ret : Op → Type) (σ : Type) := (op : Op) → σ → Ret op × σ

namespace Prog

variable {Op : Type} {Ret : Op → Type} {α β σ : Type}

def bind : Prog Op Ret α → (α → Prog Op Ret β) → Prog Op Ret β
  | .done a, f => f a
  | .call op next, f => .call op fun r => (next r).bind f

instance : Monad (Prog Op Ret) where
  pure := .done
  bind := bind

/-- The program of one call. -/
def perform (op : Op) : Prog Op Ret (Ret op) := .call op .done

def run (h : Handler Op Ret σ) : Prog Op Ret α → σ → α × σ
  | .done a, s => (a, s)
  | .call op next, s => (next (h op s).1).run h (h op s).2

variable {h : Handler Op Ret σ}

@[simp] theorem run_pure (a : α) (s : σ) : (pure a : Prog Op Ret α).run h s = (a, s) := rfl

@[simp] theorem run_perform (op : Op) (s : σ) : (perform op : Prog Op Ret (Ret op)).run h s = h op s := rfl

@[simp] theorem run_bind (x : Prog Op Ret α) (f : α → Prog Op Ret β) (s : σ) :
    (x >>= f).run h s = (f (x.run h s).1).run h (x.run h s).2 := by
  show (x.bind f).run h s = _
  induction x generalizing s with
  | done a => rfl
  | call op next ih => exact ih _ _

/-! ## The calls of a program -/

/-- Whatever it is answered, every call the program makes is one of `P`. -/
def Makes (P : Op → Prop) : Prog Op Ret α → Prop
  | .done _ => True
  | .call op next => P op ∧ ∀ r, (next r).Makes P

variable {P Q : Op → Prop}

@[simp] theorem makes_pure (a : α) : (pure a : Prog Op Ret α).Makes P := trivial

theorem makes_perform {op : Op} (h : P op) : (perform op : Prog Op Ret (Ret op)).Makes P :=
  ⟨h, fun _ => trivial⟩

theorem makes_bind {x : Prog Op Ret α} {f : α → Prog Op Ret β} (hx : x.Makes P) (hf : ∀ a, (f a).Makes P) :
    (x >>= f).Makes P := by
  show (x.bind f).Makes P
  induction x with
  | done a => exact hf a
  | call op next ih => exact ⟨hx.1, fun r => ih r (hx.2 r)⟩

theorem Makes.mono {x : Prog Op Ret α} (hx : x.Makes P) (himp : ∀ op, P op → Q op) : x.Makes Q := by
  induction x with
  | done a => trivial
  | call op next ih => exact ⟨himp op hx.1, fun r => ih r (hx.2 r)⟩

/-- **The rule for runs**: what relates each state to itself, goes through a chain of states, and
relates the states before and after each call the program makes, relates those before and after
the run. -/
theorem run_rel {R : σ → σ → Prop} (hrefl : ∀ s, R s s) (htrans : ∀ s₁ s₂ s₃, R s₁ s₂ → R s₂ s₃ → R s₁ s₃)
    (hop : ∀ op s, P op → R s (h op s).2) {x : Prog Op Ret α} (hx : x.Makes P) (s : σ) : R s (x.run h s).2 := by
  induction x generalizing s with
  | done a => exact hrefl s
  | call op next ih => exact htrans _ _ _ (hop op s hx.1) (ih _ (hx.2 _) _)

/-- A part of the state that no call of the program touches is as it was. -/
theorem run_frame {γ : Type} {f : σ → γ} (hop : ∀ op s, P op → f (h op s).2 = f s) {x : Prog Op Ret α}
    (hx : x.Makes P) (s : σ) : f (x.run h s).2 = f s :=
  run_rel (R := fun s s' => f s' = f s) (fun _ => rfl) (fun _ _ _ h₁ h₂ => h₂.trans h₁) hop hx s

/-- **The rule for two handlers**: what relates their states before a run, and is kept by every call
the program makes while both answer it alike, relates them after the run, which ends alike. -/
theorem run_sim {τ : Type} {g : Handler Op Ret τ} {R : σ → τ → Prop}
    (hop : ∀ op s u, P op → R s u → (h op s).1 = (g op u).1 ∧ R (h op s).2 (g op u).2) {x : Prog Op Ret α}
    (hx : x.Makes P) {s : σ} {u : τ} (hs : R s u) :
    (x.run h s).1 = (x.run g u).1 ∧ R (x.run h s).2 (x.run g u).2 := by
  induction x generalizing s u with
  | done a => exact ⟨rfl, hs⟩
  | call op next ih =>
    obtain ⟨hret, hnext⟩ := hop op s u hx.1 hs
    simp only [run, hret]
    exact ih _ (hx.2 _) hnext

/-! ## What may be seen of a run -/

variable {ε : Type} {shows : Op → List ε → Prop}

/-- Call by call, each answered somehow, `es` is something `shows` allows of the program. -/
def Seen (shows : Op → List ε → Prop) : Prog Op Ret α → List ε → Prop
  | .done _, es => es = []
  | .call op next, es => ∃ r own rest, shows op own ∧ (next r).Seen shows rest ∧ es = own ++ rest

theorem seen_all {Q : ε → Prop} (hshows : ∀ op own, P op → shows op own → ∀ e ∈ own, Q e) {x : Prog Op Ret α}
    (hx : x.Makes P) {es : List ε} (h : x.Seen shows es) : ∀ e ∈ es, Q e := by
  induction x generalizing es with
  | done a =>
    obtain rfl : es = [] := h
    simp
  | call op next ih =>
    obtain ⟨r, own, rest, hown, hrest, rfl⟩ := h
    rw [List.forall_mem_append]
    exact ⟨hshows op own hx.1 hown, ih r (hx.2 r) hrest⟩

/-- What is seen of a program whose calls are answered by `answer` and shown by `shown`. -/
def log (answer : (op : Op) → Ret op) (shown : Op → List ε) : Prog Op Ret α → List ε
  | .done _ => []
  | .call op next => shown op ++ (next (answer op)).log answer shown

theorem seen_log {answer : (op : Op) → Ret op} {shown : Op → List ε} (hshown : ∀ op, P op → shows op (shown op))
    {x : Prog Op Ret α} (hx : x.Makes P) : x.Seen shows (x.log answer shown) := by
  induction x with
  | done a => rfl
  | call op next ih => exact ⟨_, _, _, hshown op hx.1, ih _ (hx.2 _), rfl⟩

/-! ## Runs that are cut off -/

/-- The calls a run makes. -/
def calls (h : Handler Op Ret σ) : Prog Op Ret α → σ → List Op
  | .done _, _ => []
  | .call op next, s => op :: (next (h op s).1).calls h (h op s).2

/-- The state after the first `n` calls of a run, or after all of them. -/
def after (h : Handler Op Ret σ) : Nat → Prog Op Ret α → σ → σ
  | 0, _, s => s
  | _ + 1, .done _, s => s
  | n + 1, .call op next, s => (next (h op s).1).after h n (h op s).2

theorem Makes.calls {x : Prog Op Ret α} (hx : x.Makes P) (s : σ) : ∀ op ∈ x.calls h s, P op := by
  induction x generalizing s with
  | done a => simp [Prog.calls]
  | call op next ih =>
    rw [Prog.calls, List.forall_mem_cons]
    exact ⟨hx.1, ih _ (hx.2 _) _⟩

/-- What none of the calls made so far touches is as it was. -/
theorem after_frame {γ : Type} {f : σ → γ} {x : Prog Op Ret α} {n : Nat} {s : σ}
    (hkeeps : ∀ op ∈ (x.calls h s).take n, ∀ s, f (h op s).2 = f s) : f (x.after h n s) = f s := by
  induction n generalizing x s with
  | zero => rfl
  | succ n ih =>
    cases x with
    | done a => rfl
    | call op next =>
      rw [Prog.calls, List.take_succ_cons, List.forall_mem_cons] at hkeeps
      rw [Prog.after, ih hkeeps.2, hkeeps.1]

end Prog

end Calls
