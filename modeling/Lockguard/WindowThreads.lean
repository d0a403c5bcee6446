import Lockguard.Window
import Lockguard.Lib.Interleave
/-!
# The window under concurrent calls (`lockguard.c:70-118`)

`LgIsPermissive` reads `gPermissive` without the lock, then the clock, then enters its section;
`LgEnterPermissiveWindow` reads the clock and enters its section. Each of these is one atomic step
here, so a clock reading may be stale by the time its section runs. `windowThreads_atomic` says that
only the last step of a call matters, be it a section or the fast reject; the rest is the library's.
-/
namespace Lockguard

open Interleave

inductive WindowPhase where
  | read
  | clock
  | lock
deriving DecidableEq

/-- The next step of a call, whose reading is the one it is called with. -/
def windowCallStep : WindowOp → WindowPhase → Window → (WindowPhase ⊕ Option Bool) × Window
  | .ask _, .read, w => if !w.gPermissive then (.inr (some false), w) else (.inl .clock, w)
  -- `LgEnterPermissiveWindow` starts at its clock
  | .enter _, .read, w => (.inl .clock, w)
  | _, .clock, w => (.inl .lock, w)
  | .ask now, .lock, w => (.inr (some (permissiveSection now w).1), (permissiveSection now w).2)
  | .enter now, .lock, w => (.inr none, lgEnterPermissiveWindow now w)

def windowThreads : Program Window WindowOp WindowPhase (Option Bool) where
  start
    | .ask _ => .read
    | .enter _ => .clock
  step := windowCallStep

/-- What a call run alone answers. -/
def windowAnswer (w : Window) : WindowOp → Option Bool
  | .enter _ => none
  | .ask now => some (lgIsPermissive now w).1

def windowAnswers : Window → List WindowOp → List (Option Bool)
  | _, [] => []
  | w, o :: ops => windowAnswer w o :: windowAnswers (windowStep w o) ops

theorem outcomes_eq_answers (w : Window) (ops : List WindowOp) :
    outcomes (fun o w => (windowAnswer w o, windowStep w o)) w ops = windowAnswers w ops := by
  induction ops generalizing w with
  | nil => rfl
  | cons o ops ih =>
    have := ih (windowStep w o)
    simp only [outcomes] at this ⊢
    simp only [Runs.turns, List.map_cons, windowAnswers, this]

/-- **Only the last step of a call counts**, and it does what the call run alone would do there. -/
theorem windowThreads_atomic :
    Atomic windowThreads fun o w => (windowAnswer w o, windowStep w o) where
  quiet o p w p' w' h := by
    cases o with
    | enter now =>
      cases p <;> simp only [windowThreads, windowCallStep] at h <;> cases h
      · rfl
      · rfl
    | ask now =>
      cases p with
      | read =>
        simp only [windowThreads, windowCallStep] at h
        split at h
        · cases h
        · cases h; rfl
      | clock => simp only [windowThreads, windowCallStep] at h; cases h; rfl
      | lock => simp only [windowThreads, windowCallStep] at h; cases h
  commit o p w r w' h := by
    cases o with
    | enter now =>
      cases p <;> simp only [windowThreads, windowCallStep] at h <;> cases h
      rfl
    | ask now =>
      cases p with
      | read =>
        -- the fast reject answers at its own read
        simp only [windowThreads, windowCallStep] at h
        split at h
        · rename_i hp
          have hclosed : w.gPermissive = false := by simpa using hp
          cases h
          simp only [windowAnswer, windowStep, lgIsPermissive_closed hclosed]
        · cases h
      | clock => simp only [windowThreads, windowCallStep] at h; cases h
      | lock =>
        simp only [windowThreads, windowCallStep] at h
        cases h
        simp only [windowAnswer, windowStep, lgIsPermissive_eq_section]

/-- **The unsynchronised fast reject is safe.** Whatever the interleaving and the readings, the
calls that have returned answer as they would one at a time in some order, which leaves the same
window and keeps a call before every other that started after it had returned. -/
theorem isPermissive_linearizable {ι : Type} [DecidableEq ι] (op : ι → WindowOp) (w : Window)
    (sch : List ι) : ∃ order : List ι, order.Nodup ∧
      (∀ i, i ∈ order ↔ ∃ r, (after windowThreads op w sch).phase i = .inr r) ∧
      windowRun w (order.map op) = (after windowThreads op w sch).shared ∧
      order.map (after windowThreads op w sch).phase = (windowAnswers w (order.map op)).map .inr ∧
      ∀ sch₁ sch₂ i j, sch = sch₁ ++ sch₂ → (∃ r, (after windowThreads op w sch₁).phase i = .inr r) →
        j ∉ sch₁ → j ∈ order → ∃ l₁ l₂, order = l₁ ++ i :: l₂ ∧ j ∈ l₂ := by
  have hdone : ∀ (sch : List ι) (i : ι), i ∈ (returns windowThreads op w sch).map Prod.fst ↔
      ∃ r, (after windowThreads op w sch).phase i = .inr r := by
    intro sch i
    simp only [List.mem_map, Prod.exists, exists_and_right, exists_eq_right, mem_returns_iff]
  obtain ⟨hstate, hout⟩ := linearized op w windowThreads_atomic sch
  refine ⟨(returns windowThreads op w sch).map Prod.fst, nodup_returns sch, hdone sch, hstate, ?_, ?_⟩
  · rw [← outcomes_eq_answers, hout, List.map_map, List.map_map]
    apply List.map_congr_left
    intro x hx
    exact (mem_returns_iff sch x.1 x.2).1 hx
  · rintro sch₁ sch₂ i j rfl hi hj hj'
    exact returned_before ((hdone sch₁ i).2 hi) hj hj'

end Lockguard
