import Lockguard.Lib.Prog
/-!
# Weakest preconditions

A contract says when each call may be made and what may come of it: the answer, and the state after it.
`wp` is what a program needs of the state it starts in, so that every call is made when it may be and,
whatever comes of the calls, the program ends as wanted. `Gives` are the executions of a program under
a contract, and `wp_sound` is what ties the two.
-/
namespace Calls

structure Contract (Op : Type) (Ret : Op → Type) (σ : Type) where
  pre : Op → σ → Prop
  post : (op : Op) → σ → Ret op → σ → Prop

namespace Prog

variable {Op : Type} {Ret : Op → Type} {α β σ : Type} {C : Contract Op Ret σ}

def wp (C : Contract Op Ret σ) (Q : α → σ → Prop) : Prog Op Ret α → σ → Prop
  | .done a, s => Q a s
  | .call op next, s => C.pre op s ∧ ∀ r s', C.post op s r s' → (next r).wp C Q s'

/-- From `s`, the calls answered as the contract allows, the program may end with `a` in `s'`. -/
def Gives (C : Contract Op Ret σ) : Prog Op Ret α → σ → α → σ → Prop
  | .done b, s, a, s' => a = b ∧ s' = s
  | .call op next, s, a, s' => ∃ r u, C.post op s r u ∧ (next r).Gives C u a s'

/-- Every call is made when it may be. -/
def Safe (C : Contract Op Ret σ) (x : Prog Op Ret α) (s : σ) : Prop := x.wp C (fun _ _ => True) s

variable {Q Q' : α → σ → Prop}

@[simp] theorem wp_pure (a : α) (s : σ) : (pure a : Prog Op Ret α).wp C Q s ↔ Q a s := Iff.rfl

@[simp] theorem wp_perform (op : Op) (s : σ) {Q : Ret op → σ → Prop} :
    (perform op : Prog Op Ret (Ret op)).wp C Q s ↔ C.pre op s ∧ ∀ r s', C.post op s r s' → Q r s' := Iff.rfl

/-- **The rule of consequence.** -/
theorem wp_mono {x : Prog Op Ret α} {s : σ} (h : x.wp C Q s) (himp : ∀ a s', Q a s' → Q' a s') : x.wp C Q' s := by
  induction x generalizing s with
  | done a => exact himp a s h
  | call op next ih => exact ⟨h.1, fun r s' hpost => ih r (h.2 r s' hpost)⟩

/-- **The rule of composition.** -/
theorem wp_bind (x : Prog Op Ret α) (f : α → Prog Op Ret β) (s : σ) {R : β → σ → Prop} :
    (x >>= f).wp C R s ↔ x.wp C (fun a s' => (f a).wp C R s') s := by
  show (x.bind f).wp C R s ↔ _
  induction x generalizing s with
  | done a => exact Iff.rfl
  | call op next ih =>
    simp only [bind, wp]
    exact and_congr_right fun _ => forall_congr' fun r => forall_congr' fun s' => imp_congr_right fun _ => ih r s'

/-- One call, then the rest. -/
theorem wp_call {op : Op} {f : Ret op → Prog Op Ret α} {s : σ} :
    ((perform op : Prog Op Ret (Ret op)) >>= f).wp C Q s ↔
      C.pre op s ∧ ∀ r s', C.post op s r s' → (f r).wp C Q s' := by
  rw [wp_bind, wp_perform]

theorem wp_ite {p : Prop} [Decidable p] {x y : Prog Op Ret α} {s : σ} (hx : p → x.wp C Q s) (hy : ¬ p → y.wp C Q s) :
    (if p then x else y).wp C Q s := by
  split
  · exact hx ‹_›
  · exact hy ‹_›

/-- What is known of a part, used for the whole. -/
theorem wp_seq {x : Prog Op Ret α} {f : α → Prog Op Ret β} {s : σ} {R : β → σ → Prop} (hx : x.wp C Q s)
    (hf : ∀ a s', Q a s' → (f a).wp C R s') : (x >>= f).wp C R s :=
  (wp_bind x f s).2 (wp_mono hx hf)

/-- A search whose tests leave the state alone is the search with their answers. -/
theorem anyM_wp {s : σ} {test : β → Prog Op Ret Bool} {answer : β → Bool} {l : List β}
    (htest : ∀ b ∈ l, (test b).wp C (fun r s' => s' = s ∧ r = answer b) s) :
    (l.anyM test).wp C (fun r s' => s' = s ∧ r = l.any answer) s := by
  induction l with
  | nil => exact ⟨rfl, rfl⟩
  | cons b l ih =>
    obtain ⟨hb, hl⟩ := List.forall_mem_cons.1 htest
    refine wp_seq hb ?_
    rintro r s ⟨rfl, rfl⟩
    rw [List.any_cons]
    cases answer b with
    | true => exact ⟨rfl, rfl⟩
    | false => exact ih hl

/-- What a program may come to depends on what comes of its calls, not on when they may be made. -/
theorem gives_congr {D : Contract Op Ret σ} (h : C.post = D.post) {x : Prog Op Ret α} {s s' : σ} {a : α} :
    x.Gives C s a s' ↔ x.Gives D s a s' := by
  induction x generalizing s with
  | done b => exact Iff.rfl
  | call op next ih =>
    simp only [Gives, h]
    exact exists_congr fun r => exists_congr fun u => and_congr_right fun _ => ih r

/-- **Soundness**: every execution ends as the weakest precondition promises. -/
theorem wp_sound {x : Prog Op Ret α} {s s' : σ} {a : α} (h : x.wp C Q s) (hgives : x.Gives C s a s') : Q a s' := by
  induction x generalizing s with
  | done b =>
    obtain ⟨rfl, rfl⟩ := hgives
    exact h
  | call op next ih =>
    obtain ⟨r, u, hpost, hrest⟩ := hgives
    exact ih r (h.2 r u hpost) hrest

theorem Safe.of_wp {x : Prog Op Ret α} {s : σ} (h : x.wp C Q s) : x.Safe C s := wp_mono h fun _ _ _ => trivial

/-! ## Handlers -/

/-- What a handler does, as a contract that allows every call. -/
def ofHandler (h : Handler Op Ret σ) : Contract Op Ret σ where
  pre _ _ := True
  post op s r s' := r = (h op s).1 ∧ s' = (h op s).2

/-- The run under a handler that keeps to a contract is an execution under it. -/
theorem run_gives {h : Handler Op Ret σ} (hC : ∀ op s, C.post op s (h op s).1 (h op s).2) (x : Prog Op Ret α) (s : σ) :
    x.Gives C s (x.run h s).1 (x.run h s).2 := by
  induction x generalizing s with
  | done a => exact ⟨rfl, rfl⟩
  | call op next ih => exact ⟨_, _, hC op s, ih _ _⟩

theorem run_of_wp {h : Handler Op Ret σ} {x : Prog Op Ret α} {s : σ} (hx : x.wp (ofHandler h) Q s) :
    Q (x.run h s).1 (x.run h s).2 :=
  wp_sound hx (run_gives (C := ofHandler h) (fun _ _ => ⟨rfl, rfl⟩) x s)

theorem wp_performed {h : Handler Op Ret σ} {op : Op} {Q : Ret op → σ → Prop} {s : σ} (hQ : Q (h op s).1 (h op s).2) :
    (perform op : Prog Op Ret (Ret op)).wp (ofHandler h) Q s := by
  refine ⟨trivial, ?_⟩
  rintro r s' ⟨rfl, rfl⟩
  exact hQ

/-- One call under a handler, then the rest. -/
theorem wp_handle {h : Handler Op Ret σ} {op : Op} {f : Ret op → Prog Op Ret α} {s : σ}
    (hf : (f (h op s).1).wp (ofHandler h) Q (h op s).2) :
    ((perform op : Prog Op Ret (Ret op)) >>= f).wp (ofHandler h) Q s :=
  (wp_bind _ _ _).2 (wp_performed hf)

end Prog

end Calls
