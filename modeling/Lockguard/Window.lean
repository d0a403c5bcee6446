import Lockguard.Nt
import Lockguard.Lib.Lease
/-!
# The permissive window (`lockguard.c:70-118`)

`gPermissive` and `gPermissiveExpires` are the state under `gPermissiveLock`. Every answer TRUE
of `LgIsPermissive` may push the expiry forward (`:103-115`), so the window is a renewable lease
(`Lease`): `windowStep_lease` is the refinement, and the exact meaning of an answer
(`isPermissive_iff_covered`) is the library's law carried over to the code.
-/
namespace Lockguard

def lgUnlockWindowSeconds : Int := 600
def lgPermissiveGraceSeconds : Int := 2

structure Window where
  gPermissive : Bool
  gPermissiveExpires : Int
deriving DecidableEq

/-- The static initialisers. -/
def Window.boot : Window := ⟨false, 0⟩

def lgEnterPermissiveWindow (now : SysTime) (w : Window) : Window :=
  let expires := long64 (now.quadPart + ticks lgUnlockWindowSeconds)
  { w with gPermissive := true, gPermissiveExpires := expires }

/-- The section of `LgIsPermissive` under the lock (`:96-116`). -/
def permissiveSection (now : SysTime) (w : Window) : Bool × Window :=
  let active := w.gPermissive && decide (now.quadPart < w.gPermissiveExpires)
  if w.gPermissive && !active then
    (active, { w with gPermissive := false, gPermissiveExpires := 0 })
  else if active then
    let graceFloor := long64 (now.quadPart + ticks lgPermissiveGraceSeconds)
    if w.gPermissiveExpires < graceFloor then
      (active, { w with gPermissiveExpires := graceFloor })
    else (active, w)
  else (active, w)

/-- `LgIsPermissive`: the unsynchronised reject (`:90`), then the section. -/
def lgIsPermissive (now : SysTime) (w : Window) : Bool × Window :=
  if !w.gPermissive then (false, w) else permissiveSection now w

/-! ## What one call does -/

/-- Run alone, the fast reject decides nothing the section would not. -/
theorem lgIsPermissive_eq_section (now : SysTime) (w : Window) :
    lgIsPermissive now w = permissiveSection now w := by
  unfold lgIsPermissive
  split
  · rename_i h
    simp only [Bool.not_eq_true'] at h
    simp [permissiveSection, h]
  · rfl

/-- Away from the 64-bit limit an entry opens the window for `LG_UNLOCK_WINDOW_SECONDS`. -/
theorem lgEnterPermissiveWindow_eq {now : SysTime} (h : now.quadPart + ticks lgUnlockWindowSeconds < 2 ^ 63)
    (w : Window) :
    lgEnterPermissiveWindow now w = ⟨true, now.quadPart + ticks lgUnlockWindowSeconds⟩ := by
  simp only [lgEnterPermissiveWindow, long64_later (by decide) h]

theorem lgIsPermissive_closed {now : SysTime} {w : Window} (h : w.gPermissive = false) :
    lgIsPermissive now w = (false, w) := by
  simp [lgIsPermissive, h]

/-- An answer TRUE keeps the window open, its expiry at least `LG_PERMISSIVE_GRACE_SECONDS` away. -/
theorem lgIsPermissive_active {now : SysTime} {w : Window} (h : w.gPermissive = true)
    (ht : now.quadPart < w.gPermissiveExpires) :
    lgIsPermissive now w = (true, ⟨true, max w.gPermissiveExpires
      (long64 (now.quadPart + ticks lgPermissiveGraceSeconds))⟩) := by
  obtain ⟨p, e⟩ := w
  cases h
  simp only at ht
  simp only [lgIsPermissive, permissiveSection, ht, Bool.not_true, Bool.false_eq_true, if_false,
    decide_true, Bool.and_self, Bool.and_false, if_true]
  split
  · rw [Int.max_eq_right (by omega)]
  · rw [Int.max_eq_left (by omega)]

theorem lgIsPermissive_expired {now : SysTime} {w : Window} (h : w.gPermissive = true)
    (ht : ¬ now.quadPart < w.gPermissiveExpires) : lgIsPermissive now w = (false, ⟨false, 0⟩) := by
  simp [lgIsPermissive, permissiveSection, h, ht]

@[simp] theorem lgIsPermissive_iff {now : SysTime} {w : Window} :
    (lgIsPermissive now w).1 = true ↔ w.gPermissive = true ∧ now.quadPart < w.gPermissiveExpires := by
  cases hp : w.gPermissive with
  | false => simp [lgIsPermissive_closed hp]
  | true =>
    by_cases ht : now.quadPart < w.gPermissiveExpires
    · simp [lgIsPermissive_active hp ht, ht]
    · simp [lgIsPermissive_expired hp ht, ht]

/-- A window that answered FALSE is closed, and stays so until it is entered again (`:88-89`). -/
theorem closed_of_false {now : SysTime} {w : Window} (h : (lgIsPermissive now w).1 = false) :
    (lgIsPermissive now w).2.gPermissive = false := by
  cases hp : w.gPermissive with
  | false => simp [lgIsPermissive_closed hp, hp]
  | true =>
    by_cases ht : now.quadPart < w.gPermissiveExpires
    · rw [lgIsPermissive_active hp ht] at h; cases h
    · simp [lgIsPermissive_expired hp ht]

theorem open_of_still_open {now : SysTime} {w : Window}
    (h : (lgIsPermissive now w).2.gPermissive = true) : w.gPermissive = true := by
  cases hp : w.gPermissive with
  | false => rw [lgIsPermissive_closed hp, hp] at h; exact h
  | true => rfl

/-! ## Sequences of calls -/

inductive WindowOp where
  | enter (now : SysTime)
  | ask (now : SysTime)
deriving DecidableEq

/-- The clock reading of a call. -/
def WindowOp.time : WindowOp → Int
  | .enter now => now.quadPart
  | .ask now => now.quadPart

def windowStep (w : Window) : WindowOp → Window
  | .enter now => lgEnterPermissiveWindow now w
  | .ask now => (lgIsPermissive now w).2

def windowRun (w : Window) (ops : List WindowOp) : Window := ops.foldl windowStep w

theorem windowRun_snoc (w : Window) (ops : List WindowOp) (o : WindowOp) :
    windowRun w (ops ++ [o]) = windowStep (windowRun w ops) o := by
  simp [windowRun]

/-! ## The window as a lease -/

def WindowOp.toLease : WindowOp → Lease.Op Int
  | .enter now => .start now.quadPart
  | .ask now => .ask now.quadPart

def Window.toLease (w : Window) : Option Int := if w.gPermissive then some w.gPermissiveExpires else none

abbrev leaseStep : Option Int → Lease.Op Int → Option Int :=
  Lease.step (ticks lgUnlockWindowSeconds) (ticks lgPermissiveGraceSeconds)

abbrev leaseRun : List (Lease.Op Int) → Option Int :=
  Lease.run (ticks lgUnlockWindowSeconds) (ticks lgPermissiveGraceSeconds)

theorem map_time_toLease (ops : List WindowOp) :
    (ops.map WindowOp.toLease).map Lease.Op.time = ops.map WindowOp.time := by
  rw [List.map_map]
  apply List.map_congr_left
  intro o _
  cases o <;> rfl

/-- **Refinement, one call.** Away from the 64-bit limit the code's step is the lease's. -/
theorem windowStep_lease (w : Window) (o : WindowOp)
    (ho : o.time + ticks lgUnlockWindowSeconds < 2 ^ 63) :
    (windowStep w o).toLease = leaseStep w.toLease o.toLease := by
  cases o with
  | enter now =>
    simp only [WindowOp.time] at ho
    simp only [windowStep, lgEnterPermissiveWindow_eq ho, Window.toLease, if_true, WindowOp.toLease,
      Lease.step]
  | ask now =>
    have hgrace : now.quadPart + ticks lgPermissiveGraceSeconds < 2 ^ 63 := by
      simp only [WindowOp.time, ticks, lgUnlockWindowSeconds, lgPermissiveGraceSeconds] at ho ⊢
      omega
    simp only [windowStep, WindowOp.toLease]
    cases hp : w.gPermissive with
    | false => simp [lgIsPermissive_closed hp, Window.toLease, hp, Lease.step]
    | true =>
      by_cases ht : now.quadPart < w.gPermissiveExpires
      · rw [lgIsPermissive_active hp ht, long64_later (by decide) hgrace]
        simp [Window.toLease, hp, Lease.step, ht]
      · simp [lgIsPermissive_expired hp ht, Window.toLease, hp, Lease.step, ht]

theorem windowRun_lease (ops : List WindowOp)
    (ho : ∀ o ∈ ops, o.time + ticks lgUnlockWindowSeconds < 2 ^ 63) :
    (windowRun .boot ops).toLease = leaseRun (ops.map WindowOp.toLease) := by
  induction ops using List.reverseRecOn with
  | nil => rfl
  | append_singleton ops o ih =>
    rw [windowRun_snoc, windowStep_lease _ _ (ho o (by simp)), ih fun x hx => ho x (by simp [hx]),
      List.map_append, List.map_singleton, leaseRun, Lease.run_snoc]

theorem granted_toLease {w : Window} {now : SysTime} :
    Lease.Granted w.toLease now.quadPart ↔ (lgIsPermissive now w).1 = true := by
  rw [lgIsPermissive_iff, Lease.Granted, Window.toLease]
  cases w.gPermissive <;> simp

/-- Only questions, in the lease's terms. -/
theorem map_toLease_asks {ops : List WindowOp} {cs : List Int} :
    ops.map WindowOp.toLease = cs.map Lease.Op.ask ↔
      (∀ o ∈ ops, ∃ c, o = .ask c) ∧ ops.map WindowOp.time = cs := by
  induction ops generalizing cs with
  | nil => cases cs <;> simp
  | cons o ops ih =>
    cases cs with
    | nil => simp
    | cons c cs => cases o <;> simp [WindowOp.toLease, WindowOp.time, ih]; tauto

/-- **Exact meaning of the leased window.** On a clock that never goes back, `LgIsPermissive` at
`t` answers TRUE iff the window was entered and, `u` being the latest entry, each tick from
`u + W` to `t` lies strictly inside the grace of some `LgIsPermissive` call made in between. -/
theorem isPermissive_iff_covered (ops : List WindowOp) (t : SysTime)
    (hs : ((ops ++ [WindowOp.ask t]).map WindowOp.time).Pairwise (· ≤ ·))
    (ho : ∀ o ∈ ops ++ [.ask t], o.time + ticks lgUnlockWindowSeconds < 2 ^ 63) :
    (lgIsPermissive t (windowRun .boot ops)).1 = true ↔
      ∃ old u mid, ops = old ++ .enter u :: mid ∧ (∀ o ∈ mid, ∃ c, o = .ask c) ∧
        ∀ s : Int, u.quadPart + ticks lgUnlockWindowSeconds ≤ s → s ≤ t.quadPart →
          ∃ c, .ask c ∈ mid ∧ c.quadPart < s ∧ s < c.quadPart + ticks lgPermissiveGraceSeconds := by
  have hs' : ((ops.map WindowOp.toLease ++ [Lease.Op.ask t.quadPart]).map Lease.Op.time).Pairwise
      (· ≤ ·) := by
    rw [← map_time_toLease, List.map_append] at hs
    exact hs
  rw [← granted_toLease, windowRun_lease ops fun o h => ho o (by simp [h]),
    leaseRun, Lease.granted_iff hs']
  constructor
  · rintro ⟨old', u', cs, hops, hcov⟩
    obtain ⟨old, rest, rfl, rfl, hrest⟩ := List.map_eq_append_iff.1 hops
    obtain ⟨o, mid, rfl, hu, hmid⟩ := List.map_eq_cons_iff.1 hrest
    cases o with
    | ask c => cases hu
    | enter u =>
      cases hu
      obtain ⟨hasks, rfl⟩ := map_toLease_asks.1 hmid
      refine ⟨old, u, mid, rfl, hasks, ?_⟩
      intro s h1 h2
      obtain ⟨x, hx, h3, h4⟩ := hcov s h1 h2
      obtain ⟨o, ho', rfl⟩ := List.mem_map.1 hx
      obtain ⟨c, rfl⟩ := hasks o ho'
      exact ⟨c, ho', h3, h4⟩
  · rintro ⟨old, u, mid, rfl, hasks, hcov⟩
    refine ⟨old.map WindowOp.toLease, u.quadPart, mid.map WindowOp.time, ?_, ?_⟩
    · simp [map_toLease_asks.2 ⟨hasks, rfl⟩, WindowOp.toLease]
    · intro s h1 h2
      obtain ⟨c, hc, h3, h4⟩ := hcov s h1 h2
      exact ⟨c.quadPart, List.mem_map.2 ⟨_, hc, rfl⟩, h3, h4⟩

/-- Opened at 0 and asked at 599.5 s, the window is still open at 601 s. -/
theorem isPermissive_covered_leased : (lgIsPermissive ⟨6010000000, by decide, by decide⟩ (windowRun .boot
    [.enter .zero, .ask ⟨5995000000, by decide, by decide⟩])).1 = true := by
  refine (isPermissive_iff_covered _ _ (by decide) (by decide)).2
    ⟨[], .zero, [WindowOp.ask ⟨5995000000, by decide, by decide⟩], rfl, by simp, ?_⟩
  intro s h1 h2
  simp only [SysTime.zero, ticks, lgUnlockWindowSeconds] at h1 h2
  refine ⟨⟨5995000000, by decide, by decide⟩, by simp, ?_⟩
  simp only [ticks, lgPermissiveGraceSeconds]
  omega

end Lockguard
