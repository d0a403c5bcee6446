import Lockguard.Status
import Lockguard.Lib.Interleave
/-!
# The window and the clock under concurrent calls (`lockguard.c:70-118`, `:373-387`)

The calls of `WindowThreads` with their clock: it is part of the shared state, never goes back, and is
read by each call at a step of its own, so a section may run long after the reading it works with.
`LgHandleStatus` is the check of `LgIsPermissive` and, a step later, an unlocked read of
`gPermissiveExpires` (`:382`).

| here | there |
| --- | --- |
| `ClockedOp.enter`   | `LgEnterPermissiveWindow` |
| `ClockedOp.ask`     | `LgIsPermissive`, from a callback |
| `ClockedOp.status`  | `LgIsPermissive` and the expiry read of `LgHandleStatus` |
| `ClockedOp.tick`    | the system clock goes on, to `now` at least |
| `Check`             | the answer of an `LgIsPermissive`, and its reading unless it was the fast reject's |
-/
namespace Lockguard

open Interleave Runs

structure Clocked where
  window : Window
  clock : SysTime

inductive ClockedOp where
  | enter
  | ask
  | status
  | tick (now : SysTime)
deriving DecidableEq

structure Check where
  answer : Bool
  reading : Option SysTime
deriving DecidableEq

inductive ClockedPhase where
  | read
  | clock
  | lock (now : SysTime)
  | expires (k : Check)
deriving DecidableEq

inductive ClockedResult where
  | entered
  | asked (k : Check)
  | status (k : Check) (expires : Int)
  | ticked
deriving DecidableEq

/-- The later of two readings. -/
def SysTime.later (a b : SysTime) : SysTime := if a.quadPart ≤ b.quadPart then b else a

theorem SysTime.le_later (a b : SysTime) : a.quadPart ≤ (a.later b).quadPart := by
  unfold SysTime.later
  split <;> omega

/-- How a call goes on from the answer of its `LgIsPermissive`. -/
def ClockedOp.answered (o : ClockedOp) (k : Check) : ClockedPhase ⊕ ClockedResult :=
  if o = .status then .inl (.expires k) else .inr (.asked k)

def clockedStep : ClockedOp → ClockedPhase → Clocked → (ClockedPhase ⊕ ClockedResult) × Clocked
  | .tick now, _, s => (.inr .ticked, { s with clock := s.clock.later now })
  | .enter, .lock now, s => (.inr .entered, { s with window := lgEnterPermissiveWindow now s.window })
  | o, .read, s => if !s.window.gPermissive then (o.answered ⟨false, none⟩, s) else (.inl .clock, s)
  | _, .clock, s => (.inl (.lock s.clock), s)
  | o, .lock now, s =>
    let (active, w) := permissiveSection now s.window
    (o.answered ⟨active, some now⟩, { s with window := w })
  | _, .expires k, s => (.inr (.status k s.window.gPermissiveExpires), s)

def clocked : Program Clocked ClockedOp ClockedPhase ClockedResult where
  start
    | .enter | .tick _ => .clock
    | .ask | .status => .read
  step := clockedStep

/-! ## What one step does -/

/-- The section of `LgIsPermissive`: closed, still open, or expired by its reading. -/
theorem permissiveSection_cases (now : SysTime) (w : Window) :
    (w.gPermissive = false ∧ permissiveSection now w = (false, w)) ∨
    (w.gPermissive = true ∧ now.quadPart < w.gPermissiveExpires ∧ permissiveSection now w =
      (true, ⟨true, max w.gPermissiveExpires (long64 (now.quadPart + ticks lgPermissiveGraceSeconds))⟩)) ∨
    (w.gPermissive = true ∧ w.gPermissiveExpires ≤ now.quadPart ∧ permissiveSection now w = (false, ⟨false, 0⟩)) := by
  rw [← lgIsPermissive_eq_section]
  cases hp : w.gPermissive with
  | false => exact Or.inl ⟨rfl, lgIsPermissive_closed hp⟩
  | true =>
    by_cases ht : now.quadPart < w.gPermissiveExpires
    · exact Or.inr (Or.inl ⟨rfl, ht, lgIsPermissive_active hp ht⟩)
    · exact Or.inr (Or.inr ⟨rfl, by omega, lgIsPermissive_expired hp ht⟩)

/-- The steps of a call that touch or read what others share. -/
inductive ClockedCases (o : ClockedOp) (s : Clocked) : ClockedPhase → (ClockedPhase ⊕ ClockedResult) × Clocked → Prop
  | goOn (p : ClockedPhase) : ClockedCases o s p (.inl .clock, s)
  | reading (p : ClockedPhase) : ClockedCases o s p (.inl (.lock s.clock), s)
  | tick (p : ClockedPhase) (now : SysTime) : ClockedCases o s p (.inr .ticked, { s with clock := s.clock.later now })
  | reject : s.window.gPermissive = false → ClockedCases o s .read (o.answered ⟨false, none⟩, s)
  | enter (now : SysTime) : o = .enter →
      ClockedCases o s (.lock now) (.inr .entered, { s with window := lgEnterPermissiveWindow now s.window })
  | check (now : SysTime) : o ≠ .enter → ClockedCases o s (.lock now)
      (o.answered ⟨(permissiveSection now s.window).1, some now⟩, { s with window := (permissiveSection now s.window).2 })
  | reply (k : Check) : ClockedCases o s (.expires k) (.inr (.status k s.window.gPermissiveExpires), s)

theorem clockedStep_cases (o : ClockedOp) (p : ClockedPhase) (s : Clocked) :
    ClockedCases o s p (clockedStep o p s) := by
  have hread : ∀ o : ClockedOp, ClockedCases o s .read
      (if !s.window.gPermissive then (o.answered ⟨false, none⟩, s) else (.inl .clock, s)) := by
    intro o
    split
    · rename_i hp
      exact .reject (by simpa using hp)
    · exact .goOn _
  cases o with
  | tick now => exact .tick p now
  | enter =>
    cases p with
    | read => exact hread .enter
    | clock => exact .reading _
    | lock now => exact .enter now rfl
    | expires k => exact .reply k
  | ask =>
    cases p with
    | read => exact hread .ask
    | clock => exact .reading _
    | lock now => exact .check now (by decide)
    | expires k => exact .reply k
  | status =>
    cases p with
    | read => exact hread .status
    | clock => exact .reading _
    | lock now => exact .check now (by decide)
    | expires k => exact .reply k

/-- **A `STATUS` that nothing comes between** replies what `LgHandleStatus` does. -/
theorem status_alone (k : Kernel) (d : Driver) :
    ∃ r, (after clocked (fun _ : Unit => .status) ⟨d.window, k.now⟩ [(), (), (), ()]).phase () =
        .inr (.status ⟨(lgIsPermissive k.now d.window).1, r⟩ (lgIsPermissive k.now d.window).2.gPermissiveExpires) ∧
      (after clocked (fun _ : Unit => .status) ⟨d.window, k.now⟩ [(), (), (), ()]).shared =
        ⟨(lgIsPermissive k.now d.window).2, k.now⟩ := by
  cases hp : d.window.gPermissive with
  | false =>
    refine ⟨none, ?_, ?_⟩
    · simp [after, final, init, advance, clocked, clockedStep, ClockedOp.answered, hp, lgIsPermissive_closed hp]
    · simp [after, final, init, advance, clocked, clockedStep, ClockedOp.answered, hp, lgIsPermissive_closed hp]
  | true =>
    rw [lgIsPermissive_eq_section]
    refine ⟨some k.now, ?_, ?_⟩
    · simp [after, final, init, advance, clocked, clockedStep, ClockedOp.answered, hp]
    · simp [after, final, init, advance, clocked, clockedStep, ClockedOp.answered, hp]

end Lockguard
