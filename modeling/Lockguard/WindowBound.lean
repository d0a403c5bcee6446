import Lockguard.Driver
/-!
# How far a window can be drawn out

`lockguard.h:43-51` has the window end ten minutes after the unlock, give or take one grace lease:
a sensitive operation then still asking is let finish. But the lease is renewed by every answer
TRUE, and so also by one that itself lives on the lease. A request `STATUS` every two seconds, which
any process may send, keeps the window open for good (`permissive_not_bounded`).

`Prolongs` is the call that goes wrong, one that finds the window open past its ten minutes and
moves the expiry again. Without it the bound holds (`permissive_bounded`), with it the bound is
broken by the next request (`prolonged_not_bounded`).
-/
namespace Lockguard

open Runs

/-! ## The clock -/

/-- The readings an event makes the driver take, in their order. -/
def Event.clock : Event → List SysTime
  | .ioctl code _ k =>
    if code = lgIoctlGetNonce then [k.retryTime, k.now]
    else if code = lgIoctlUnlock then [k.now, k.windowTime]
    else [k.now]
  | e => [e.now]

/-- The system clock never goes back. -/
def ClockForward (es : List Event) : Prop :=
  (es.flatMap Event.clock).Pairwise fun a b => a.quadPart ≤ b.quadPart

/-- The run opened the window at `u`: an `UNLOCK` that was granted entered it with this reading. -/
def OpenedAt (hmac : Hmac) (x : DriverTurn) (u : SysTime) : Prop :=
  ∃ irp k, GrantedBy hmac x.before x.event irp k ∧ u = k.windowTime

theorem now_mem_clock (e : Event) : e.now ∈ e.clock := by
  cases e with
  | ioctl code irp k =>
    simp only [Event.clock]
    split
    · simp [Event.now]
    · split <;> simp [Event.now]
  | _ => simp [Event.clock]

theorem opened_mem_clock {hmac : Hmac} {x : DriverTurn} {u : SysTime} (h : OpenedAt hmac x u) :
    u ∈ x.event.clock := by
  obtain ⟨irp, k, ⟨he, -⟩, rfl⟩ := h
  have hne : lgIoctlUnlock ≠ lgIoctlGetNonce := by decide
  simp [he, Event.clock, hne]

/-- In a run on such a clock the readings of an earlier turn are not later ones. -/
theorem clock_le {hmac : Hmac} {t : CaseTables} {boot : RecoveryReads} {es : List Event}
    (hc : ClockForward es) {pre post : List DriverTurn} {x y : DriverTurn}
    (hrun : driverTurns hmac t boot es = pre ++ x :: post) (hy : y ∈ pre) {a b : SysTime}
    (ha : a ∈ y.event.clock) (hb : b ∈ x.event.clock) : a.quadPart ≤ b.quadPart := by
  obtain ⟨old, mid, rfl⟩ := List.append_of_mem hy
  obtain ⟨es₁, es₂, rfl, hpre, -, -⟩ := turns_split _ hrun
  obtain ⟨es₃, es₄, rfl, -, -, -⟩ := turns_split _ hpre.symm
  rw [ClockForward, List.flatMap_append, List.pairwise_append] at hc
  exact hc.2.2 a (by simp [ha]) b (by simp [hb])

/-! ## The bound -/

/-- Every answer TRUE, at `t` say, follows an unlock at some `u` with `u ≤ t < u + 602 s`. -/
def Bounded (hmac : Hmac) (t : CaseTables) (tr : List DriverTurn) : Prop :=
  ∀ pre x post, tr = pre ++ x :: post → ∀ now, .asked now true ∈ (handle hmac t x.before x.event).calls →
    ∃ y ∈ pre, ∃ u, OpenedAt hmac y u ∧ u.quadPart ≤ now.quadPart ∧
      now.quadPart < u.quadPart + ticks (lgUnlockWindowSeconds + lgPermissiveGraceSeconds)

/-- The latest opening was at `u`. -/
def LatestOpening (hmac : Hmac) (u : SysTime) (tr : List DriverTurn) : Prop :=
  Since (fun _ x => OpenedAt hmac x u) (fun x => ∀ u', ¬ OpenedAt hmac x u') tr

/-- The event asks whether the window is open, more than ten minutes after its latest opening; it
is, and has less than the grace left. -/
def Prolongs (hmac : Hmac) (t : CaseTables) (past : List DriverTurn) (x : DriverTurn) : Prop :=
  ∃ u, LatestOpening hmac u past ∧ (∃ a, .asked x.event.now a ∈ (handle hmac t x.before x.event).calls) ∧
    x.before.window.gPermissive = true ∧
    u.quadPart + ticks lgUnlockWindowSeconds < x.event.now.quadPart ∧
    x.event.now.quadPart < x.before.window.gPermissiveExpires ∧
    x.before.window.gPermissiveExpires < x.event.now.quadPart + ticks lgPermissiveGraceSeconds

/-- An open window ends within the bound of its latest opening. -/
def EndsInTime (hmac : Hmac) (tr : List DriverTurn) (d : Driver) : Prop :=
  d.window.gPermissive = true → ∃ u, LatestOpening hmac u tr ∧ d.window.gPermissiveExpires ≤
    u.quadPart + ticks (lgUnlockWindowSeconds + lgPermissiveGraceSeconds)

theorem not_opened_of_calls {hmac : Hmac} {t : CaseTables} {d : Driver} {e : Event}
    (h : ∀ now, .entered now ∉ (handle hmac t d e).calls) (u : SysTime) : ¬ OpenedAt hmac ⟨d, e⟩ u := by
  rintro ⟨irp, k, ⟨he, hlen, hx⟩, -⟩
  have hlen' : ¬ irp.inputBufferLength < sizeofUnlockRequest := by omega
  simp only at he hx
  refine h k.windowTime ?_
  simp [he, handle, Reply.map, lgHandleUnlock, hlen', hx, unlockFinish]

theorem endsInTime_step {hmac : Hmac} {t : CaseTables} {tr : List DriverTurn} {d : Driver} {e : Event}
    (h : EndsInTime hmac tr d) (hp : ¬ Prolongs hmac t tr ⟨d, e⟩) :
    EndsInTime hmac (tr ++ [⟨d, e⟩]) (driverStep hmac t d e) := by
  intro hopen
  unfold driverStep at *
  rcases handle_window hmac t d e with (⟨hc, hw⟩ | ⟨hc, hw⟩) | ⟨irp, k, hg, hc, hw⟩
  · rw [hw] at hopen ⊢
    obtain ⟨u, hu, hle⟩ := h hopen
    have hquiet : ∀ now, .entered now ∉ (handle hmac t d e).calls := by simp [hc]
    exact ⟨u, hu.keep (not_opened_of_calls hquiet), hle⟩
  · rw [hw] at hopen ⊢
    have hd := open_of_still_open hopen
    obtain ⟨u, hu, hle⟩ := h hd
    have hquiet : ∀ now, .entered now ∉ (handle hmac t d e).calls := by simp [hc]
    refine ⟨u, hu.keep (not_opened_of_calls hquiet), ?_⟩
    by_cases ht : e.now.quadPart < d.window.gPermissiveExpires
    · have hgrace := long64_later_le e.now (s := lgPermissiveGraceSeconds) (by decide)
      have hno : ¬ (u.quadPart + ticks lgUnlockWindowSeconds < e.now.quadPart ∧
          d.window.gPermissiveExpires < e.now.quadPart + ticks lgPermissiveGraceSeconds) := by
        rintro ⟨h1, h2⟩
        exact hp ⟨u, hu, ⟨_, by rw [hc]; exact List.mem_singleton.2 rfl⟩, hd, h1, ht, h2⟩
      rw [lgIsPermissive_active hd ht]
      simp only [ticks, lgUnlockWindowSeconds, lgPermissiveGraceSeconds] at *
      omega
    · rw [lgIsPermissive_expired hd ht] at hopen
      cases hopen
  · rw [hw]
    refine ⟨k.windowTime, since_now ⟨irp, k, hg, rfl⟩, ?_⟩
    have hwin := long64_later_le k.windowTime (s := lgUnlockWindowSeconds) (by decide)
    simp only [lgEnterPermissiveWindow, ticks, lgUnlockWindowSeconds, lgPermissiveGraceSeconds] at *
    omega

/-- An answer TRUE is given before the expiry of an open window. -/
theorem asked_true {hmac : Hmac} {t : CaseTables} {d : Driver} {e : Event} {now : SysTime}
    (h : .asked now true ∈ (handle hmac t d e).calls) :
    now = e.now ∧ d.window.gPermissive = true ∧ now.quadPart < d.window.gPermissiveExpires := by
  rcases handle_window hmac t d e with (⟨hc, -⟩ | ⟨hc, -⟩) | ⟨irp, k, -, hc, -⟩
  · simp [hc] at h
  · rw [hc, List.mem_singleton] at h
    obtain ⟨rfl, ha⟩ := WindowCall.asked.inj h
    exact ⟨rfl, lgIsPermissive_iff.1 ha.symm⟩
  · simp [hc] at h

/-- **The bound, where it holds.** On a clock that never goes back, in a run with no call that
prolongs, every answer TRUE comes less than 602 s after a successful unlock. -/
theorem permissive_bounded (hmac : Hmac) (t : CaseTables) (boot : RecoveryReads) (es : List Event)
    (hc : ClockForward es)
    (hp : ∀ pre x post, driverTurns hmac t boot es = pre ++ x :: post → ¬ Prolongs hmac t pre x) :
    Bounded hmac t (driverTurns hmac t boot es) := by
  intro pre x post hrun now hasked
  obtain ⟨es₁, es₂, rfl, hpre, hb, -⟩ := turns_split _ hrun
  have hends : EndsInTime hmac pre x.before := by
    rw [hpre, hb]
    refine inv_of _ (A := fun past y => ¬ Prolongs hmac t past y) ?_
      (fun _ _ _ h hq => endsInTime_step h hq) es₁ fun pre' y post' h => ?_
    · intro hboot; cases hboot
    · refine hp pre' y (post' ++ x :: post) ?_
      rw [hrun, hpre, h]
      simp
  obtain ⟨rfl, hopen, hlt⟩ := asked_true hasked
  obtain ⟨u, ⟨old, y, mid, hsplit, hu, -⟩, hle⟩ := hends hopen
  have hy : y ∈ pre := by rw [hsplit]; simp
  exact ⟨y, hy, u, hu, clock_le hc hrun hy (opened_mem_clock hu) (now_mem_clock _),
    Int.lt_of_lt_of_le hlt hle⟩

namespace Worked

def statusAt (tenths : UInt16) : Event := .ioctl lgIoctlStatus nonceIrp (kernel (time tenths))

/-- One unlock, then a `STATUS` at each of the times given. -/
def statusRun (ts : List UInt16) : List Event :=
  .ioctl lgIoctlGetNonce nonceIrp (kernel (time 0)) :: .ioctl lgIoctlUnlock unlockIrp (kernel (time 0)) ::
    ts.map statusAt

theorem opened_statusRun {ts : List UInt16} {y : DriverTurn} {u : SysTime}
    (hy : y.event ∈ statusRun ts) (hu : OpenedAt hmac y u) : u = time 0 := by
  obtain ⟨irp, k, ⟨he, -⟩, rfl⟩ := hu
  simp only [he, statusRun, List.mem_cons, List.mem_map, statusAt, Event.ioctl.injEq] at hy
  rcases hy with ⟨hcode, -⟩ | ⟨-, -, rfl⟩ | ⟨_, -, hcode, -⟩
  · exact absurd hcode (by decide)
  · rfl
  · exact absurd hcode (by decide)

end Worked

/-- A `STATUS` 599.5 s after the unlock and one 600 s after it stay within the bound. -/
theorem permissive_bounded_status : Bounded Worked.hmac .ascii
    (driverTurns Worked.hmac .ascii Worked.reads (Worked.statusRun [5995, 6000])) := by
  refine permissive_bounded _ _ _ _ (by unfold ClockForward; decide +kernel) ?_
  rintro pre x post hrun ⟨u, ⟨old, y, mid, rfl, hu, -⟩, -, -, hlate, -⟩
  have hevents := congrArg (List.map Turn.event) hrun
  rw [driverTurns, map_event_turns] at hevents
  have hx : x.event ∈ Worked.statusRun [5995, 6000] := by rw [hevents]; simp
  have hy : y.event ∈ Worked.statusRun [5995, 6000] := by rw [hevents]; simp
  rw [Worked.opened_statusRun hy hu] at hlate
  have hnow : ∀ e ∈ Worked.statusRun [5995, 6000], ¬ (Worked.time 0).quadPart +
      ticks lgUnlockWindowSeconds < e.now.quadPart := by decide +kernel
  exact hnow _ hx hlate

/-- **The window outlasts its bound.** `STATUS` at 599.5 s, at 601 s and at 602.5 s after the only
unlock are all answered TRUE. -/
theorem permissive_not_bounded : ClockForward (Worked.statusRun [5995, 6010, 6025]) ∧
    ¬ Bounded Worked.hmac .ascii
      (driverTurns Worked.hmac .ascii Worked.reads (Worked.statusRun [5995, 6010, 6025])) := by
  refine ⟨by unfold ClockForward; decide +kernel, ?_⟩
  intro h
  obtain ⟨y, hy, u, hu, -, hlt⟩ := h _ _ [] (turns_snoc _ _ (Worked.statusRun [5995, 6010]) _)
    (Worked.time 6025) (by decide +kernel)
  have hmem := List.mem_map_of_mem (f := Turn.event) hy
  rw [map_event_turns] at hmem
  rw [Worked.opened_statusRun hmem hu] at hlt
  exact absurd hlt (by decide)

/-! ## A prolonged window breaks the bound -/

/-- An event that asks takes no other reading. -/
theorem asked_clock {hmac : Hmac} {t : CaseTables} {d : Driver} {e : Event} {now : SysTime} {a : Bool}
    (h : .asked now a ∈ (handle hmac t d e).calls) : e.clock = [e.now] := by
  cases e with
  | ioctl code irp k =>
    by_cases hg : code = lgIoctlGetNonce
    · subst hg
      rw [handle, Reply.map, dispatch_getNonce, (handleGetNonce_window irp k d).1] at h
      cases h
    by_cases hu : code = lgIoctlUnlock
    · subst hu
      simp only [handle, Reply.map, dispatch_unlock, lgHandleUnlock] at h
      split at h
      · cases h
      · cases hx : unlockExit hmac (nonceTake d.nonce).1 d.recovery irp.unlockRequest k <;>
          simp [hx, unlockFinish] at h
    simp [Event.clock, hg, hu, Event.now]
  | _ => rfl

theorem asked_not_opened {hmac : Hmac} {t : CaseTables} {d : Driver} {e : Event} {now : SysTime} {a : Bool}
    (h : .asked now a ∈ (handle hmac t d e).calls) (u : SysTime) : ¬ OpenedAt hmac ⟨d, e⟩ u := by
  have hquiet : ∀ n, .entered n ∉ (handle hmac t d e).calls := by
    intro n hent
    rcases handle_window hmac t d e with (⟨hc, -⟩ | ⟨hc, -⟩) | ⟨irp, k, -, hc, -⟩
    · simp [hc] at hent
    · simp [hc] at hent
    · simp [hc] at h
  exact not_opened_of_calls hquiet u

/-- No opening of the run is later than the latest. -/
theorem opened_le_latest {hmac : Hmac} {t : CaseTables} {boot : RecoveryReads} {es : List Event}
    (hc : ClockForward es) {u u' : SysTime} (hu : LatestOpening hmac u (driverTurns hmac t boot es))
    {y : DriverTurn} (hy : y ∈ driverTurns hmac t boot es) (hy' : OpenedAt hmac y u') :
    u'.quadPart ≤ u.quadPart := by
  obtain ⟨old, z, mid, hrun, hz, hmid⟩ := hu
  rw [hrun] at hy
  rcases List.mem_append.1 hy with hold | hrest
  · exact clock_le hc hrun hold (opened_mem_clock hy') (opened_mem_clock hz)
  rcases List.mem_cons.1 hrest with rfl | hm
  · obtain ⟨irp, k, ⟨he, -⟩, rfl⟩ := hz
    obtain ⟨irp', k', ⟨he', -⟩, rfl⟩ := hy'
    rw [he] at he'
    cases he'
    exact le_refl _
  · exact absurd hy' (hmid y hm u')

/-- A prolonging call leaves the window open for the whole grace from its own reading on. -/
theorem prolonged_window {hmac : Hmac} {t : CaseTables} {past : List DriverTurn} {d : Driver} {e : Event}
    (hp : Prolongs hmac t past ⟨d, e⟩)
    (ho : e.now.quadPart + ticks lgPermissiveGraceSeconds < 2 ^ 63) :
    (driverStep hmac t d e).window = ⟨true, e.now.quadPart + ticks lgPermissiveGraceSeconds⟩ := by
  obtain ⟨u, -, ⟨a, hask⟩, hopen, -, hlt, hshort⟩ := hp
  simp only at hask hopen hlt hshort
  rcases handle_window hmac t d e with (⟨hc, -⟩ | ⟨-, hw⟩) | ⟨irp, k, -, hc, -⟩
  · simp [hc] at hask
  · rw [driverStep, hw, lgIsPermissive_active hopen hlt, long64_later (by decide) ho, Int.max_eq_right (by omega)]
  · simp [hc] at hask

theorem clockForward_append {es fs : List Event} : ClockForward (es ++ fs) ↔
    ClockForward es ∧ ClockForward fs ∧
      ∀ a ∈ es.flatMap Event.clock, ∀ b ∈ fs.flatMap Event.clock, a.quadPart ≤ b.quadPart := by
  rw [ClockForward, List.flatMap_append, List.pairwise_append]
  exact Iff.rfl

/-- A run whose last event takes one reading may go on with any later one. -/
theorem clockForward_unload {es : List Event} {e : Event} (hc : ClockForward (es ++ [e]))
    (he : e.clock = [e.now]) {now : SysTime} (hle : e.now.quadPart ≤ now.quadPart) :
    ClockForward (es ++ [e] ++ [.filterUnload now]) := by
  refine clockForward_append.2 ⟨hc, List.pairwise_singleton _ _, ?_⟩
  intro a ha b hb
  have hbnow : b = now := List.mem_singleton.1 hb
  have hae : a.quadPart ≤ e.now.quadPart := by
    rw [List.flatMap_append] at ha
    rcases List.mem_append.1 ha with hold | hlast
    · exact (clockForward_append.1 hc).2.2 a hold e.now (by simpa using now_mem_clock e)
    · simp only [List.flatMap_cons, List.flatMap_nil, List.append_nil, he, List.mem_singleton] at hlast
      rw [hlast]
  rw [hbnow]
  exact Int.le_trans hae hle

/-- A filter unload asks, and is answered TRUE while the window is open. -/
theorem filterUnload_asked {hmac : Hmac} {t : CaseTables} {d : Driver} {now : SysTime}
    (hopen : d.window.gPermissive = true) (hlt : now.quadPart < d.window.gPermissiveExpires) :
    .asked now true ∈ (handle hmac t d (.filterUnload now)).calls := by
  have htrue : (lgIsPermissive now d.window).1 = true := lgIsPermissive_iff.2 ⟨hopen, hlt⟩
  simp only [handle, Reply.map, lgUnloadGuard, unlessPermissive, htrue, if_true]
  exact List.mem_singleton.2 rfl

/-- **One prolonging call is enough**: away from the 64-bit limit, a question asked in time after
it is answered TRUE past the bound. -/
theorem prolonged_not_bounded {hmac : Hmac} {t : CaseTables} {boot : RecoveryReads} {es : List Event}
    {e : Event} (hc : ClockForward (es ++ [e]))
    (hp : Prolongs hmac t (driverTurns hmac t boot es) ⟨final (driverStep hmac t) (driverEntry boot) es, e⟩)
    (ho : e.now.quadPart + ticks lgPermissiveGraceSeconds < 2 ^ 63) :
    ∃ now, ClockForward (es ++ [e] ++ [.filterUnload now]) ∧
      ¬ Bounded hmac t (driverTurns hmac t boot (es ++ [e] ++ [.filterUnload now])) := by
  have hwin := prolonged_window hp ho
  obtain ⟨u, hu, ⟨a, hask⟩, -, hlate, -, -⟩ := hp
  simp only at hask hlate
  have hn := e.now.nonneg
  have hsum : ticks (lgUnlockWindowSeconds + lgPermissiveGraceSeconds) =
      ticks lgUnlockWindowSeconds + ticks lgPermissiveGraceSeconds := by decide
  have hgrace : 0 < ticks lgPermissiveGraceSeconds := by decide
  -- the first moment past the bound that is not before the call's own
  let now : SysTime := ⟨max e.now.quadPart
    (u.quadPart + ticks (lgUnlockWindowSeconds + lgPermissiveGraceSeconds)), by omega, by omega⟩
  have hnow : e.now.quadPart ≤ now.quadPart := Int.le_max_left _ _
  have hpast : u.quadPart + ticks (lgUnlockWindowSeconds + lgPermissiveGraceSeconds) ≤ now.quadPart :=
    Int.le_max_right _ _
  have hlt : now.quadPart < e.now.quadPart + ticks lgPermissiveGraceSeconds := by
    show max _ _ < _
    omega
  refine ⟨now, clockForward_unload hc (asked_clock hask) hnow, ?_⟩
  intro hb
  have hasked : .asked now true ∈ (handle hmac t (final (driverStep hmac t) (driverEntry boot)
      (es ++ [e])) (.filterUnload now)).calls := by
    apply filterUnload_asked
    · rw [final_snoc, hwin]
    · rw [final_snoc, hwin]
      exact hlt
  obtain ⟨y, hy, u', hu', -, hbound⟩ := hb _ _ [] (turns_snoc _ _ (es ++ [e]) _) now hasked
  have hle : u'.quadPart ≤ u.quadPart := by
    rw [turns_snoc] at hy
    rcases List.mem_append.1 hy with hold | hlast
    · exact opened_le_latest (clockForward_append.1 hc).1 hu hold hu'
    · rw [List.mem_singleton.1 hlast] at hu'
      exact absurd hu' (asked_not_opened hask u')
  omega

end Lockguard
