import Lockguard.WindowBound
import Lockguard.UnlockOrigin
/-!
# The two limits in elapsed time

`LG_NONCE_TTL_SECONDS` and `LG_UNLOCK_WINDOW_SECONDS` (`lockguard.h:43-44`) are held against
differences of `KeQuerySystemTime` readings (`lockguard.c:331-333`, `:73-74`, `:93-97`). That is the
system time, which an administrator may set, and not the time since boot.

| here         | there                                                              |
| ------------ | ------------------------------------------------------------------ |
| `WallClock`  | what `KeQuerySystemTime` reads at each tick since boot             |
| `TimedEvent` | an event with the ticks at which the driver reads the clock for it |
| `TimedRun`   | a run in the order of elapsed time                                 |

`timeLimits_iff`: the limits hold in elapsed time, in every run, on just the clocks that are `Steady`.
One that is never set back is (`steady_of_forward`); one that is set back by an hour every hour is not
(`timeLimits_set_back`).
-/
namespace Lockguard

open Runs

/-- The clock from boot on for `span` ticks, however often it is set, and whereto. -/
structure WallClock where
  span : Nat
  reading : Nat → SysTime

/-- An event and the moments of the three readings it may make the driver take. -/
structure TimedEvent (c : WallClock) where
  event : Event
  retryAt : Nat
  nowAt : Nat
  windowAt : Nat
  now_read : event.now = c.reading nowAt
  kernel_read : ∀ code irp k, event = .ioctl code irp k →
    k.retryTime = c.reading retryAt ∧ k.windowTime = c.reading windowAt

def TimedEvent.moments {c : WallClock} (e : TimedEvent c) : List Nat := [e.retryAt, e.nowAt, e.windowAt]

structure TimedRun (c : WallClock) where
  events : List (TimedEvent c)
  ordered : (events.flatMap TimedEvent.moments).Pairwise (· ≤ ·)
  spanned : ∀ e ∈ events, ∀ a ∈ e.moments, a ≤ c.span

abbrev TimedTurn (c : WallClock) := Turn Driver (TimedEvent c)

/-- The turn without its moments. -/
def untimed {c : WallClock} (x : TimedTurn c) : DriverTurn := ⟨x.before, x.event.event⟩

section
variable (hmac : Hmac) (t : CaseTables) {c : WallClock}

def TimedRun.turns (boot : RecoveryReads) (r : TimedRun c) : List (TimedTurn c) :=
  Runs.turns (fun d e => driverStep hmac t d e.event) (driverEntry boot) r.events

/-- An `UNLOCK` is granted at most 60 s after the `GET_NONCE` that issued what it takes. -/
def UnlockInTime (tr : List (TimedTurn c)) : Prop :=
  ∀ pre u post, tr = pre ++ u :: post → ∀ irp k, GrantedBy hmac u.before u.event.event irp k →
    ∃ old g gap nonce issuedAt, pre = old ++ g :: gap ∧
      Consumes (untimed g) (gap.map untimed) (untimed u) nonce issuedAt ∧
      (u.event.nowAt : Int) ≤ g.event.nowAt + ticks lgNonceTtlSeconds

/-- The first call of `LgIsPermissive` after the latest unlock returns TRUE less than 600 s after it. -/
def FirstAskInTime (tr : List (TimedTurn c)) : Prop :=
  ∀ old u mid x post, tr = old ++ u :: (mid ++ x :: post) → ∀ irp k, GrantedBy hmac u.before u.event.event irp k →
    (∀ y ∈ mid, (handle hmac t y.before y.event.event).calls = []) →
      ∀ now, .asked now true ∈ (handle hmac t x.before x.event.event).calls →
        (x.event.nowAt : Int) < u.event.windowAt + ticks lgUnlockWindowSeconds

end

/-! ## Clocks -/

/-- Moments a limit apart have readings as far apart. -/
structure WallClock.Steady (c : WallClock) : Prop where
  nonce : ∀ a b : Nat, b ≤ c.span → (a : Int) + ticks lgNonceTtlSeconds < b →
    (c.reading a).quadPart + ticks lgNonceTtlSeconds < (c.reading b).quadPart
  window : ∀ a b : Nat, b ≤ c.span → (a : Int) + ticks lgUnlockWindowSeconds ≤ b →
    long64 ((c.reading a).quadPart + ticks lgUnlockWindowSeconds) ≤ (c.reading b).quadPart

/-- A clock that is set forward only. -/
theorem steady_of_forward {c : WallClock} (h : ∀ a b : Nat, a ≤ b → b ≤ c.span →
    (b : Int) - a ≤ (c.reading b).quadPart - (c.reading a).quadPart) : c.Steady := by
  constructor
  · intro a b hb hab
    have hle := h a b (by simp only [ticks, lgNonceTtlSeconds] at hab; omega) hb
    omega
  · intro a b hb hab
    have hle := h a b (by simp only [ticks, lgUnlockWindowSeconds] at hab; omega) hb
    have hexpires := long64_later_le (c.reading a) (s := lgUnlockWindowSeconds) (by decide)
    omega

/-! ## On a steady clock -/

section
variable {hmac : Hmac} {t : CaseTables} {boot : RecoveryReads}

/-- The time stored with a nonce is the reading of the request that issued it. -/
theorem issues_now {x : DriverTurn} {nonce : Bytes32} {issuedAt : SysTime} (h : Issues x nonce issuedAt) :
    issuedAt = x.event.now := by
  obtain ⟨irp, k, he, hok⟩ := h
  rw [he]
  unfold getNoncePrepare at hok
  split at hok
  · cases hok
  · simp only at hok
    split at hok
    · cases hok
    · cases hok
      rfl

theorem window_of_no_calls {d : Driver} {e : Event} (h : (handle hmac t d e).calls = []) :
    (driverStep hmac t d e).window = d.window := by
  rcases handle_window hmac t d e with (⟨-, hw⟩ | ⟨hc, -⟩) | ⟨irp, k, -, hc, -⟩
  · exact hw
  · rw [h] at hc
    cases hc
  · rw [h] at hc
    cases hc

theorem granted_window {d : Driver} {e : Event} {irp : Irp} {k : Kernel} (h : GrantedBy hmac d e irp k) :
    (driverStep hmac t d e).window = lgEnterPermissiveWindow k.windowTime d.window := by
  obtain ⟨rfl, hlen, hx⟩ := h
  rw [driverStep, handle, dispatch_unlock, lgHandleUnlock_long hlen, hx]
  rfl

/-- Turns that make no call leave the window as it was. -/
theorem window_final {d : Driver} {es : List Event}
    (hq : ∀ y ∈ turns (driverStep hmac t) d es, (handle hmac t y.before y.event).calls = []) :
    (final (driverStep hmac t) d es).window = d.window := by
  induction es generalizing d with
  | nil => rfl
  | cons e es ih =>
    rw [turns, List.forall_mem_cons] at hq
    rw [final_cons, ih hq.2, window_of_no_calls hq.1]

theorem window_before {es : List Event} {old mid post : List DriverTurn} {u x : DriverTurn}
    (hrun : driverTurns hmac t boot es = old ++ u :: (mid ++ x :: post))
    (hq : ∀ y ∈ mid, (handle hmac t y.before y.event).calls = []) :
    x.before.window = (driverStep hmac t u.before u.event).window := by
  obtain ⟨-, es₂, -, -, -, hrest⟩ := turns_split _ hrun
  obtain ⟨es₃, -, -, rfl, hx, -⟩ := turns_split _ hrest.symm
  rw [hx]
  exact window_final hq

variable {c : WallClock} {r : TimedRun c}

theorem map_untimed : (r.turns hmac t boot).map untimed =
    driverTurns hmac t boot (r.events.map TimedEvent.event) :=
  map_turns (driverStep hmac t) TimedEvent.event (driverEntry boot) r.events

theorem event_mem {x : TimedTurn c} (hx : x ∈ r.turns hmac t boot) : x.event ∈ r.events := by
  have hmap : (r.turns hmac t boot).map Turn.event = r.events := map_event_turns _ _ _
  rw [← hmap]
  exact List.mem_map_of_mem hx

/-- The run keeps to the first limit if the readings of its own moments do. -/
theorem unlockInTime_run (hc : ∀ g ∈ r.events, ∀ u ∈ r.events, (g.nowAt : Int) + ticks lgNonceTtlSeconds < u.nowAt →
    (c.reading g.nowAt).quadPart + ticks lgNonceTtlSeconds < (c.reading u.nowAt).quadPart) :
    UnlockInTime hmac (r.turns hmac t boot) := by
  intro pre u post hrun irp k hg
  obtain ⟨he, hlen, hx⟩ := hg
  obtain ⟨nonce, issuedAt, htake, hage, -, -⟩ := unlockExit_granted hx
  have hrun' : driverTurns hmac t boot (r.events.map TimedEvent.event) =
      pre.map untimed ++ untimed u :: post.map untimed := by
    rw [← map_untimed, hrun, List.map_append, List.map_cons]
  obtain ⟨old', g', gap', hpre, hconsumes⟩ := taken_consumes hrun' ⟨irp, k, he, hlen⟩ htake
  obtain ⟨old, rest, rfl, rfl, hrest⟩ := List.map_eq_append_iff.1 hpre
  obtain ⟨g, gap, rfl, rfl, rfl⟩ := List.map_eq_cons_iff.1 hrest
  refine ⟨old, g, gap, nonce, issuedAt, rfl, hconsumes, ?_⟩
  have hissued : issuedAt = c.reading g.event.nowAt := (issues_now hconsumes.issues).trans g.event.now_read
  have hnow : k.now = c.reading u.event.nowAt := by
    rw [← u.event.now_read, he]
    rfl
  rw [hissued, hnow] at hage
  by_contra hlate
  have hgmem : g ∈ r.turns hmac t boot := by
    rw [hrun]
    simp
  have humem : u ∈ r.turns hmac t boot := by
    rw [hrun]
    simp
  have hreadings := hc g.event (event_mem hgmem) u.event (event_mem humem) (by omega)
  omega

/-- Likewise for the second. -/
theorem firstAskInTime_run (hc : ∀ u ∈ r.events, ∀ x ∈ r.events,
    (u.windowAt : Int) + ticks lgUnlockWindowSeconds ≤ x.nowAt →
      long64 ((c.reading u.windowAt).quadPart + ticks lgUnlockWindowSeconds) ≤ (c.reading x.nowAt).quadPart) :
    FirstAskInTime hmac t (r.turns hmac t boot) := by
  intro old u mid x post hrun irp k hg hquiet now hasked
  have hrun' : driverTurns hmac t boot (r.events.map TimedEvent.event) =
      old.map untimed ++ untimed u :: (mid.map untimed ++ untimed x :: post.map untimed) := by
    rw [← map_untimed, hrun]
    simp
  have hquiet' : ∀ y ∈ mid.map untimed, (handle hmac t y.before y.event).calls = [] := by
    rw [List.forall_mem_map]
    exact hquiet
  have hentered : (untimed x).before.window = lgEnterPermissiveWindow k.windowTime u.before.window :=
    (window_before hrun' hquiet').trans (granted_window hg)
  obtain ⟨rfl, -, hlt⟩ := asked_true hasked
  have hbefore : x.before.window.gPermissiveExpires =
      long64 ((c.reading u.event.windowAt).quadPart + ticks lgUnlockWindowSeconds) := by
    rw [← (u.event.kernel_read _ irp k hg.1).2]
    exact congrArg Window.gPermissiveExpires hentered
  rw [hbefore, x.event.now_read] at hlt
  by_contra hlate
  have humem : u ∈ r.turns hmac t boot := by
    rw [hrun]
    simp
  have hxmem : x ∈ r.turns hmac t boot := by
    rw [hrun]
    simp
  have hreadings := hc u.event (event_mem humem) x.event (event_mem hxmem) (by omega)
  omega

end

/-! ## On any other -/

namespace Worked

variable (c : WallClock)

/-- A request all of whose readings are taken at once. -/
def ioctlAt (code : ULONG) (irp : Irp) (a : Nat) : TimedEvent c where
  event := .ioctl code irp (kernel (c.reading a))
  retryAt := a
  nowAt := a
  windowAt := a
  now_read := rfl
  kernel_read := by
    rintro _ _ _ h
    cases h
    exact ⟨rfl, rfl⟩

def unloadAt (a : Nat) : TimedEvent c where
  event := .filterUnload (c.reading a)
  retryAt := a
  nowAt := a
  windowAt := a
  now_read := rfl
  kernel_read := by
    intro _ _ _ h
    cases h

variable {c} {a b : Nat}

/-- A nonce at `a`, and its unlock at `b`. -/
def lateUnlock (hab : a ≤ b) (hb : b ≤ c.span) : TimedRun c where
  events := [ioctlAt c lgIoctlGetNonce nonceIrp a, ioctlAt c lgIoctlUnlock unlockIrp b]
  ordered := by simp [TimedEvent.moments, ioctlAt, hab]
  spanned := by simp [TimedEvent.moments, ioctlAt, hb, Nat.le_trans hab hb]

/-- An exchange at `a`, and the first question at `b`. -/
def lateAsk (hab : a ≤ b) (hb : b ≤ c.span) : TimedRun c where
  events := [ioctlAt c lgIoctlGetNonce nonceIrp a, ioctlAt c lgIoctlUnlock unlockIrp a, unloadAt c b]
  ordered := by simp [TimedEvent.moments, ioctlAt, unloadAt, hab]
  spanned := by simp [TimedEvent.moments, ioctlAt, unloadAt, hb, Nat.le_trans hab hb]

/-- The driver once the nonce is issued. -/
def issued (now : SysTime) : Driver :=
  driverStep hmac .ascii (driverEntry reads) (.ioctl lgIoctlGetNonce nonceIrp (kernel now))

theorem granted_issued {issuedAt now : SysTime} (hage : now.quadPart - issuedAt.quadPart ≤ ticks lgNonceTtlSeconds) :
    GrantedBy hmac (issued issuedAt) (.ioctl lgIoctlUnlock unlockIrp (kernel now)) unlockIrp (kernel now) := by
  have hnonce : (nonceTake (issued issuedAt).nonce).1 = some (nonce, issuedAt) := by
    rw [issued, driverStep, handle, dispatch_getNonce]
    rfl
  have hloaded : (issued issuedAt).recovery.loadedVerifier = some verifier :=
    handle_verifier hmac .ascii (by decide +kernel) _
  have hk : (kernel now).BcryptSucceeds := by
    show (kernel (time 0)).BcryptSucceeds
    decide
  refine ⟨rfl, by decide, (unlockExit_granted_iff hk).2 ⟨nonce, issuedAt, hnonce, hage, ?_, ?_⟩⟩
  · rw [hloaded]
    decide +kernel
  · decide +kernel

end Worked

section
variable {c : WallClock} {a b : Nat}

theorem lateUnlock_late (hb : b ≤ c.span) (hab : (a : Int) + ticks lgNonceTtlSeconds < b)
    (hback : (c.reading b).quadPart - (c.reading a).quadPart ≤ ticks lgNonceTtlSeconds) (hle : a ≤ b) :
    ¬ UnlockInTime Worked.hmac ((Worked.lateUnlock hle hb).turns Worked.hmac .ascii Worked.reads) := by
  intro hall
  obtain ⟨old, g, gap, nonce, issuedAt, hpre, -, hintime⟩ := hall [⟨_, _⟩] ⟨_, _⟩ [] rfl _ _
    (Worked.granted_issued hback)
  cases old with
  | nil =>
    obtain ⟨rfl, -⟩ := List.cons.inj hpre
    simp only [Worked.ioctlAt] at hintime
    omega
  | cons z old => simp at hpre

theorem lateAsk_late (hb : b ≤ c.span) (hab : (a : Int) + ticks lgUnlockWindowSeconds ≤ b)
    (hback : (c.reading b).quadPart < long64 ((c.reading a).quadPart + ticks lgUnlockWindowSeconds)) (hle : a ≤ b) :
    ¬ FirstAskInTime Worked.hmac .ascii ((Worked.lateAsk hle hb).turns Worked.hmac .ascii Worked.reads) := by
  intro hall
  have hgranted : GrantedBy Worked.hmac (Worked.issued (c.reading a))
      (.ioctl lgIoctlUnlock Worked.unlockIrp (Worked.kernel (c.reading a))) Worked.unlockIrp
      (Worked.kernel (c.reading a)) :=
    Worked.granted_issued (by simp only [ticks, lgNonceTtlSeconds]; omega)
  have hwindow := granted_window (t := .ascii) hgranted
  have hasked : .asked (c.reading b) true ∈ (handle Worked.hmac .ascii (driverStep Worked.hmac .ascii
      (Worked.issued (c.reading a)) (.ioctl lgIoctlUnlock Worked.unlockIrp (Worked.kernel (c.reading a))))
        (.filterUnload (c.reading b))).calls :=
    filterUnload_asked (congrArg Window.gPermissive hwindow)
      (hback.trans_eq (congrArg Window.gPermissiveExpires hwindow).symm)
  have hintime := hall [⟨_, _⟩] ⟨_, _⟩ [] ⟨_, _⟩ [] rfl _ _ hgranted (by simp) (c.reading b) hasked
  simp only [Worked.ioctlAt, Worked.unloadAt] at hintime
  omega

end

/-! ## The limits -/

/-- **On which clocks the limits hold in elapsed time**: in every run on the clock an `UNLOCK` is
granted at most 60 s after its nonce was issued, and the first `LgIsPermissive` after an unlock
returns TRUE less than 600 s after it, if and only if the clock is steady. -/
theorem timeLimits_iff (c : WallClock) :
    (∀ (hmac : Hmac) (t : CaseTables) (boot : RecoveryReads) (r : TimedRun c),
      UnlockInTime hmac (r.turns hmac t boot) ∧ FirstAskInTime hmac t (r.turns hmac t boot)) ↔ c.Steady := by
  constructor
  · intro hall
    constructor
    · intro a b hb hab
      have hle : a ≤ b := by
        simp only [ticks, lgNonceTtlSeconds] at hab
        omega
      by_contra hback
      exact lateUnlock_late hb hab (by omega) hle
        (hall Worked.hmac .ascii Worked.reads (Worked.lateUnlock hle hb)).1
    · intro a b hb hab
      have hle : a ≤ b := by
        simp only [ticks, lgUnlockWindowSeconds] at hab
        omega
      by_contra hback
      exact lateAsk_late hb hab (by omega) hle
        (hall Worked.hmac .ascii Worked.reads (Worked.lateAsk hle hb)).2
  · intro hsteady hmac t boot r
    constructor
    · apply unlockInTime_run
      intro g _ u hu
      exact hsteady.nonce _ _ (r.spanned u hu _ (by simp [TimedEvent.moments]))
    · apply firstAskInTime_run
      intro u _ x hx
      exact hsteady.window _ _ (r.spanned x hx _ (by simp [TimedEvent.moments]))

/-- Set back by an hour every hour, for two hours. -/
def hourlySetBack : WallClock where
  span := 2 * 36000000000
  reading := fun a => ⟨133500000000000000 + a % 36000000000, by omega, by omega⟩

/-- An unlock is granted an hour after its nonce was issued, and the first question an hour after the
unlock is answered TRUE. -/
theorem timeLimits_set_back :
    (¬ ∀ (c : WallClock) (hmac : Hmac) (t : CaseTables) (boot : RecoveryReads) (r : TimedRun c),
      UnlockInTime hmac (r.turns hmac t boot)) ∧
    ¬ ∀ (c : WallClock) (hmac : Hmac) (t : CaseTables) (boot : RecoveryReads) (r : TimedRun c),
      FirstAskInTime hmac t (r.turns hmac t boot) := by
  have hb : 36000000000 ≤ hourlySetBack.span := by decide
  constructor
  · intro hall
    exact lateUnlock_late (a := 0) hb (by decide) (by decide) (by decide)
      (hall _ Worked.hmac .ascii Worked.reads (Worked.lateUnlock (by decide) hb))
  · intro hall
    exact lateAsk_late (a := 0) hb (by decide) (by decide) (by decide)
      (hall _ Worked.hmac .ascii Worked.reads (Worked.lateAsk (by decide) hb))

end Lockguard
