import Lockguard.Driver
/-!
# Open handles to the protected processes (`obcallback.c:51-75`)

The driver with the handles that came of the operations it was asked about. `LgPreProcessHandle` sees a
handle once, before it is created or duplicated, and lets every right pass while the window is open;
nothing looks at an open handle again. So a closed window says nothing of the handles that are open
(`handle_outlives_window`), but each right of `PROC_DENIED_MASK` among them was let through by an
`LgIsPermissive` of its own that answered TRUE (`handle_permitted`).
-/
namespace Lockguard

open Runs

structure OpenHandle where
  id : Nat
  info : PreHandleInformation
  access : ACCESS_MASK

/-- A user-mode handle to a process the driver protects, made by a creation or a duplication. -/
def OpenHandle.OfProtected (t : CaseTables) (h : OpenHandle) : Prop :=
  h.info.isProcess = true ∧ h.info.kernelHandle = false ∧ h.info.operation ≠ .other ∧
    lgPidIsProtected t h.info.target = true

structure Session where
  driver : Driver
  handles : List OpenHandle

inductive SessionEvent where
  /-- Anything the driver handles, of which no handle comes. -/
  | driver (e : Event)
  /-- The operation `info` announces goes through: a handle with `access`, as far as the callback left it. -/
  | opened (id : Nat) (info : PreHandleInformation) (now : SysTime) (access : ACCESS_MASK)
  | closed (id : Nat)

/-- What the driver is asked at the event. -/
def SessionEvent.driverEvent : SessionEvent → Option Event
  | .driver e => some e
  | .opened _ info now _ => some (.processHandle info now)
  | .closed _ => none

section
variable (hmac : Hmac) (t : CaseTables)

def sessionStep (s : Session) : SessionEvent → Session
  | .driver e => { s with driver := driverStep hmac t s.driver e }
  | .opened id info now access =>
    let r := lgPreProcessHandle t info now s.driver
    ⟨r.driver, ⟨id, info, access &&& r.value⟩ :: s.handles⟩
  | .closed id => { s with handles := s.handles.filter fun h => h.id != id }

def Session.start (boot : RecoveryReads) : Session := ⟨driverEntry boot, []⟩

abbrev SessionTurn := Turn Session SessionEvent

def sessionTurns (boot : RecoveryReads) (es : List SessionEvent) : List SessionTurn :=
  turns (sessionStep hmac t) (.start boot) es

/-- The calls of the turn to the permissive window. -/
def SessionTurn.calls (x : SessionTurn) : List WindowCall :=
  match x.event.driverEvent with
  | some e => (handle hmac t x.before.driver e).calls
  | none => []

/-- The turn made the handle `h`, and its `LgIsPermissive` answered TRUE. -/
def OpenedPermitted (h : OpenHandle) (x : SessionTurn) : Prop :=
  ∃ now access, x.event = .opened h.id h.info now access ∧ SessionTurn.calls hmac t x = [.asked now true]

/-- No protected process is open with a right of `PROC_DENIED_MASK`. -/
def Session.Revoked (s : Session) : Prop :=
  ∀ h ∈ s.handles, h.OfProtected t → h.access &&& procDeniedMask = 0

end

section
variable {hmac : Hmac} {t : CaseTables}

/-- The callback adds no right. -/
theorem preProcessHandle_within {info : PreHandleInformation} {now : SysTime} {d : Driver} {m : ACCESS_MASK}
    (h : info.desiredAccess &&& m = 0) : (lgPreProcessHandle t info now d).value &&& m = 0 := by
  have hj := preProcessHandle_judged t info now d
  by_cases hr : (Event.processHandle info now).Guarded t ∧ (lgIsPermissive now d.window).1 = false
  · rw [hj.value_of_refused hr.1 hr.2, UInt32.and_assoc, UInt32.and_comm _ m, ← UInt32.and_assoc, h]
    simp
  · rw [hj.value_of_passed hr]
    exact h

/-- A handle with a denied right comes of a callback that found the window open. -/
theorem opened_permitted {s : Session} {id : Nat} {info : PreHandleInformation} {now : SysTime} {access : ACCESS_MASK}
    (hprot : OpenHandle.OfProtected t ⟨id, info, access &&& (lgPreProcessHandle t info now s.driver).value⟩)
    (hright : access &&& (lgPreProcessHandle t info now s.driver).value &&& procDeniedMask ≠ 0) :
    SessionTurn.calls hmac t ⟨s, .opened id info now access⟩ = [.asked now true] := by
  have hleft : (lgPreProcessHandle t info now s.driver).value &&& procDeniedMask ≠ 0 := by
    intro h
    apply hright
    rw [UInt32.and_assoc, h]
    simp
  have hwanted : info.desiredAccess &&& procDeniedMask ≠ 0 := fun h => hleft (preProcessHandle_within h)
  obtain ⟨hprocess, huser, hop, htarget⟩ := hprot
  have hguarded : (Event.processHandle info now).Guarded t := ⟨hprocess, huser, hop, htarget, hwanted⟩
  exact letThrough_asked (e := .processHandle info now) hguarded hleft

/-- **Every denied right of an open handle was let through while the window was open.** In every run
from driver load. -/
theorem handle_permitted (hmac : Hmac) (t : CaseTables) (boot : RecoveryReads) (es : List SessionEvent)
    {h : OpenHandle} (hopen : h ∈ (final (sessionStep hmac t) (.start boot) es).handles) (hprot : h.OfProtected t)
    (hright : h.access &&& procDeniedMask ≠ 0) :
    ∃ old x mid, sessionTurns hmac t boot es = old ++ x :: mid ∧ OpenedPermitted hmac t h x := by
  have hinv := inv (sessionStep hmac t) (s := Session.start boot)
    (I := fun tr s => ∀ h ∈ s.handles, h.OfProtected t → h.access &&& procDeniedMask ≠ 0 →
      ∃ old x mid, tr = old ++ x :: mid ∧ OpenedPermitted hmac t h x) (by simp [Session.start]) ?_ es
  · exact hinv h hopen hprot hright
  intro tr s e ih h hmem hprot hright
  have hkeep : h ∈ s.handles → ∃ old x mid, tr ++ [⟨s, e⟩] = old ++ x :: mid ∧ OpenedPermitted hmac t h x := by
    intro hold
    obtain ⟨old, x, mid, rfl, hx⟩ := ih h hold hprot hright
    exact ⟨old, x, mid ++ [⟨s, e⟩], by simp, hx⟩
  cases e with
  | driver e => exact hkeep hmem
  | opened id info now access =>
    rcases List.mem_cons.1 hmem with rfl | hold
    · exact ⟨tr, _, [], rfl, now, access, rfl, opened_permitted hprot hright⟩
    · exact hkeep hold
  | closed id => exact hkeep (List.mem_of_mem_filter hmem)

end

namespace Worked

/-- A request to open the watchdog for termination. -/
def openWatchdog : PreHandleInformation where
  isProcess := true
  kernelHandle := false
  operation := .handleCreate
  target := ⟨statusSuccess, statusSuccess, some (rtlInitUnicodeString (wide "\\lockguard-svc.exe"))⟩
  desiredAccess := processTerminate

/-- A nonce, an unlock, and the watchdog opened in the window. -/
def openRun : List SessionEvent :=
  [.driver (.ioctl lgIoctlGetNonce nonceIrp (kernel (time 0))), .driver (.ioctl lgIoctlUnlock unlockIrp (kernel (time 20))),
    .opened 1 openWatchdog (time 30) processTerminate]

/-- The session after it, and the question that closes the window ten minutes later. -/
def openSession : Session := final (sessionStep hmac .ascii) (.start reads) openRun
def expiry : SessionEvent := .driver (.filterUnload (time 6100))

end Worked

theorem handle_permitted_watchdog : ∃ h ∈ Worked.openSession.handles, ∃ old x mid,
    sessionTurns Worked.hmac .ascii Worked.reads Worked.openRun = old ++ x :: mid ∧
      OpenedPermitted Worked.hmac .ascii h x :=
  ⟨_, List.mem_cons_self, handle_permitted Worked.hmac .ascii Worked.reads Worked.openRun List.mem_cons_self
    ⟨rfl, rfl, by decide, by decide +kernel⟩ (by decide +kernel)⟩

/-- **A handle outlives the window.** The last question was answered FALSE and the window is closed; the
handle to the watchdog that the open window let through still carries `PROCESS_TERMINATE`. -/
theorem handle_outlives_window :
    SessionTurn.calls Worked.hmac .ascii ⟨Worked.openSession, Worked.expiry⟩ = [.asked (Worked.time 6100) false] ∧
    (sessionStep Worked.hmac .ascii Worked.openSession Worked.expiry).driver.window.gPermissive = false ∧
    ¬ (sessionStep Worked.hmac .ascii Worked.openSession Worked.expiry).Revoked .ascii := by
  refine ⟨by decide +kernel, by decide +kernel, fun h => ?_⟩
  have hnone := h _ List.mem_cons_self ⟨rfl, rfl, by decide, by decide +kernel⟩
  exact absurd hnone (by decide +kernel)

end Lockguard
