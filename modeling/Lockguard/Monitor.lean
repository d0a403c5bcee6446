import Lockguard.Driver
/-!
# The driver as a reference monitor that holds no secret

`Monitor` is what the driver is for: a window that may be open, a challenge that may be pending, two
counters. It has no copy of the record; of each `UNLOCK` that gets as far as its key it is told whether
the key fits. `driver_refines_monitor` is the refinement, over runs: the driver's answers are the
monitor's. So what the callers of the driver see of the record is one bit for each such `UNLOCK`
(`verifier_not_disclosed`).
-/
namespace Lockguard

open Runs

structure Monitor where
  window : Option Int
  challenge : Option (Bytes32 × SysTime)
  denials : ULONG
  heartbeat : Int

namespace Monitor

def boot : Monitor := ⟨none, none, 0, 0⟩

/-- A question of the window: an answer TRUE leaves at least the grace. -/
def ask (now : SysTime) (m : Monitor) : Bool × Monitor :=
  match m.window with
  | none => (false, m)
  | some expires =>
    if now.quadPart < expires then
      (true, { m with window := some (max expires (long64 (now.quadPart + ticks lgPermissiveGraceSeconds))) })
    else (false, { m with window := none })

def deny (m : Monitor) : Monitor := { m with denials := m.denials + 1 }

/-- An operation is let through, unless it is guarded and the window is closed. -/
def judge (asks guarded : Bool) (now : SysTime) (ok denied : Answer) (m : Monitor) : Answer × Monitor :=
  if !asks then (ok, m)
  else
    let (permissive, m) := m.ask now
    if permissive || !guarded then (ok, m) else (denied, m.deny)

/-! ## The recovery channel -/

def getNonce (irp : Irp) (random : RandomCall) (now : SysTime) (m : Monitor) : (NTSTATUS × Irp) × Monitor :=
  if irp.outputBufferLength < lgNonceLen then ((statusBufferTooSmall, irp), m)
  else match lgGenerateRandom random with
  | .error s => ((s, irp), m)
  | .ok nonce => ((statusSuccess, getNonceReply nonce irp), { m with challenge := some (nonce, now) })

/-- The challenge is there and is not too old. -/
def fresh (now : SysTime) : Option (Bytes32 × SysTime) → Bool
  | none => false
  | some (_, issuedAt) => !decide (long64 (now.quadPart - issuedAt.quadPart) > ticks lgNonceTtlSeconds)

/-- What becomes of an `UNLOCK`, by whether its key fits. -/
def judgeUnlock (hmac : Hmac) (fits : Bool) (req : UnlockRequest) (c : HmacCalls) (now : SysTime) (m : Monitor) : UnlockExit :=
  match m.challenge with
  | none => .noNonce
  | some (nonce, _) =>
    if !fresh now m.challenge then .staleNonce
    else if !fits then .wrongKey
    else match lgHmacSha256 hmac c req.derivedKey.toList nonce.toList with
    | .error s => .hmacFailed s
    | .ok expected => if !lgConstantTimeEqual req.response expected then .mismatch else .granted

def unlockAnswer (irp : Irp) : UnlockExit → NTSTATUS × Irp
  | .noNonce => (statusAccessDenied, irp)
  | .staleNonce => (statusTimeout, irp)
  | .wrongKey => (statusAccessDenied, irp.zeroRequest)
  | .hmacFailed s => (s, irp.zeroRequest)
  | .mismatch => (statusAccessDenied, irp.zeroRequest)
  | .granted => (statusSuccess, { irp.zeroRequest with information := 0 })

/-- A challenge is good for one `UNLOCK`, whatever becomes of it. -/
def leave (windowTime : SysTime) (m : Monitor) : UnlockExit → Monitor
  | .granted => { m with challenge := none, window := some (long64 (windowTime.quadPart + ticks lgUnlockWindowSeconds)) }
  | .hmacFailed _ => { m with challenge := none }
  | _ => deny { m with challenge := none }

def unlock (hmac : Hmac) (fits : Bool) (irp : Irp) (k : Kernel) (m : Monitor) : (NTSTATUS × Irp) × Monitor :=
  if irp.inputBufferLength < sizeofUnlockRequest then ((statusBufferTooSmall, irp), m)
  else
    let x := m.judgeUnlock hmac fits irp.unlockRequest k.responseHmac k.now
    (unlockAnswer irp x, m.leave k.windowTime x)

/-- A window that is closed expires at 0. -/
def status (irp : Irp) (now : SysTime) (m : Monitor) : (NTSTATUS × Irp) × Monitor :=
  if irp.outputBufferLength < sizeofStatusReply then ((statusBufferTooSmall, irp), m)
  else
    let irp := irp.store 0 (leBytes 4 1)
    let (permissive, m) := m.ask now
    let irp := irp.store 4 [if permissive then 1 else 0]
    let irp := irp.store 8 (leBytes 8 (m.window.getD 0))
    let irp := irp.store 16 (leBytes 4 m.denials.toNat)
    let irp := irp.store 24 (leBytes 8 m.heartbeat)
    ((statusSuccess, { irp with information := sizeofStatusReply }), m)

def ioctl (hmac : Hmac) (fits : Bool) (code : ULONG) (irp : Irp) (k : Kernel) (m : Monitor) : (NTSTATUS × Irp) × Monitor :=
  if code = lgIoctlGetNonce then m.getNonce irp k.random k.now
  else if code = lgIoctlUnlock then m.unlock hmac fits irp k
  else if code = lgIoctlHeartbeat then
    ((statusSuccess, { irp with information := 0 }), { m with heartbeat := k.now.quadPart })
  else if code = lgIoctlStatus then m.status irp k.now
  else ((statusInvalidDeviceRequest, irp), m)

end Monitor

/-! ## The callbacks -/

/-- A write, a value deletion or a renaming of a key with a protected name. -/
def RegNotification.writesProtected (t : CaseTables) (n : RegNotification) : Bool :=
  (n.argument1 == regNtPreSetValueKey || n.argument1 == regNtPreDeleteValueKey || n.argument1 == regNtPreRenameKey) &&
    (n.argument2.bind RegKeyInformation.object).any fun obj => ntSuccess obj.status && lgKeyNameMatchesAny t obj.name

theorem writesProtected_iff {t : CaseTables} {n : RegNotification} : n.writesProtected t = true ↔ n.Guarded t := by
  simp only [RegNotification.writesProtected, RegNotification.Guarded, Bool.and_eq_true, Bool.or_eq_true, beq_iff_eq,
    Option.any_eq_true, or_assoc]

/-- The callback asks whether the window is open. -/
def Event.asks (t : CaseTables) : Event → Bool
  | .ioctl _ _ _ => false
  | .registry n _ => n.writesProtected t
  | .create p q _ => (p.wantsDelete || p.wantsWrite) && lgPathMatches t q
  | .setInformation klass q _ => dangerousClass klass && lgPathMatches t q
  | .write q _ => lgPathMatches t q
  | .process info _ => (info.bind CreateNotifyInfo.imageFileName).isSome
  | .processHandle info _ => info.isProcess && !info.kernelHandle
  | .filterUnload _ => true

/-- And refuses the operation when it is not. -/
def Event.refusable (t : CaseTables) : Event → Bool
  | .process info _ => (info.bind CreateNotifyInfo.imageFileName).any (imageBlocked t)
  | .processHandle info _ => lgPidIsProtected t info.target && info.operation != .other &&
      info.desiredAccess &&& procDeniedMask != 0
  | _ => true

def Event.granted : Event → Answer
  | .ioctl _ irp _ => .ioctl (statusSuccess, irp)
  | .registry _ _ => .registry statusSuccess
  | .create _ _ _ | .setInformation _ _ _ | .write _ _ => .file .successNoCallback
  | .process info _ => .process (info.map CreateNotifyInfo.creationStatus)
  | .processHandle info _ => .processHandle info.desiredAccess
  | .filterUnload _ => .filterUnload statusSuccess

def Event.refused : Event → Answer
  | .ioctl _ irp _ => .ioctl (statusAccessDenied, irp)
  | .registry _ _ => .registry statusAccessDenied
  | .create _ _ _ | .setInformation _ _ _ | .write _ _ => .file (.complete statusAccessDenied)
  | .process _ _ => .process (some statusAccessDenied)
  | .processHandle info _ => .processHandle (info.desiredAccess &&& ~~~procDeniedMask)
  | .filterUnload _ => .filterUnload statusFltDoNotDetach

def Monitor.serve (hmac : Hmac) (t : CaseTables) (fits : Bool) (m : Monitor) (e : Event) : Answer × Monitor :=
  match e with
  | .ioctl code irp k => let r := m.ioctl hmac fits code irp k; (.ioctl r.1, r.2)
  | e => m.judge (e.asks t) (e.refusable t) e.now e.granted e.refused

/-! ## What the driver is to the monitor -/

def Driver.monitor (d : Driver) : Monitor where
  window := d.window.toLease
  challenge := (nonceTake d.nonce).1
  denials := d.gTamperCount
  heartbeat := d.gLastHeartbeat

/-- A closed window expires at 0. -/
def Window.Settled (w : Window) : Prop := w.gPermissive = false → w.gPermissiveExpires = 0

/-- **A question is the monitor's question.** -/
theorem ask_monitor (now : SysTime) (d : Driver) : d.monitor.ask now =
    ((lgIsPermissive now d.window).1, (d.asked now).monitor) := by
  obtain ⟨nonce, w, recovery, count, heartbeat⟩ := d
  cases hp : w.gPermissive with
  | false => simp [Monitor.ask, Driver.monitor, Driver.asked, Window.toLease, hp, lgIsPermissive_closed hp]
  | true =>
    by_cases ht : now.quadPart < w.gPermissiveExpires
    · simp [Monitor.ask, Driver.monitor, Driver.asked, Window.toLease, hp, ht, lgIsPermissive_active hp ht]
    · simp [Monitor.ask, Driver.monitor, Driver.asked, Window.toLease, hp, ht, lgIsPermissive_expired hp ht]

theorem settled_asked {w : Window} (h : w.Settled) (now : SysTime) : (lgIsPermissive now w).2.Settled := by
  cases hp : w.gPermissive with
  | false => rwa [lgIsPermissive_closed hp]
  | true =>
    by_cases ht : now.quadPart < w.gPermissiveExpires
    · rw [lgIsPermissive_active hp ht]
      exact nofun
    · rw [lgIsPermissive_expired hp ht]
      exact fun _ => rfl

/-! ## One event -/

/-- The reply of a callback that asks, or does not, and refuses what it may. -/
def judgeReply {α : Type} (asks refusable : Bool) (now : SysTime) (ok denied : α) (d : Driver) : Reply α :=
  if !asks then ⟨ok, d, []⟩
  else if (lgIsPermissive now d.window).1 || !refusable then ⟨ok, d.asked now, [.asked now (lgIsPermissive now d.window).1]⟩
  else ⟨denied, lgRecordTamperEvent (d.asked now), [.asked now false]⟩

section
variable {α : Type} (now : SysTime) (ok denied : α) (d : Driver)

theorem unlessPermissive_eq : unlessPermissive now ok denied d = judgeReply true true now ok denied d := by
  simp only [unlessPermissive, judgeReply]
  cases hopen : (lgIsPermissive now d.window).1 <;> simp [Driver.asked]

theorem judgeReply_map {β : Type} (f : α → β) (asks refusable : Bool) :
    (judgeReply asks refusable now ok denied d).map f = judgeReply asks refusable now (f ok) (f denied) d := by
  simp only [judgeReply]
  split
  · rfl
  · split <;> rfl

end

theorem guardFile_eq (t : CaseTables) (wanted : Bool) (q : FileNameQuery) (now : SysTime) (d : Driver) :
    (if !wanted then ⟨.successNoCallback, d, []⟩ else guardFile t q now d) =
      judgeReply (wanted && lgPathMatches t q) true now .successNoCallback (.complete statusAccessDenied) d := by
  rw [guardFile, unlessPermissive_eq]
  cases wanted <;> cases lgPathMatches t q <;> rfl

theorem processNotify_eq (t : CaseTables) (info : Option CreateNotifyInfo) (now : SysTime) (d : Driver) :
    lgProcessNotifyEx t info now d = judgeReply (info.bind CreateNotifyInfo.imageFileName).isSome
      ((info.bind CreateNotifyInfo.imageFileName).any (imageBlocked t)) now (info.map CreateNotifyInfo.creationStatus)
      (some statusAccessDenied) d := by
  cases info with
  | none => rfl
  | some i =>
    obtain ⟨imageFileName, status⟩ := i
    cases imageFileName with
    | none => rfl
    | some path =>
      simp only [lgProcessNotifyEx, judgeReply, Option.bind_some, Option.isSome_some, Option.any_some, Option.map_some,
        Bool.not_true, Bool.false_eq_true, if_false]
      cases (lgIsPermissive now d.window).1 <;> cases imageBlocked t path <;> rfl

theorem preProcessHandle_eq (t : CaseTables) (info : PreHandleInformation) (now : SysTime) (d : Driver) :
    lgPreProcessHandle t info now d = judgeReply (info.isProcess && !info.kernelHandle)
      (lgPidIsProtected t info.target && info.operation != .other && info.desiredAccess &&& procDeniedMask != 0) now
      info.desiredAccess (info.desiredAccess &&& ~~~procDeniedMask) d := by
  obtain ⟨isProcess, kernelHandle, operation, target, desiredAccess⟩ := info
  simp only [lgPreProcessHandle, judgeReply]
  cases isProcess with
  | false => rfl
  | true =>
    cases kernelHandle with
    | true => rfl
    | false =>
      simp only [Bool.not_true, Bool.not_false, Bool.and_self, Bool.false_eq_true, if_false]
      cases hopen : (lgIsPermissive now d.window).1 with
      | true => simp [Driver.asked]
      | false =>
        cases hprotected : lgPidIsProtected t target with
        | false => simp [Driver.asked]
        | true =>
          by_cases hop : operation = .other
          · simp [hop, Driver.asked]
          by_cases hrights : desiredAccess &&& procDeniedMask = 0
          · simp [hop, hrights, and_not_of_and_eq_zero hrights, Driver.asked]
          · simp [hop, hrights, Driver.asked]

/-- **Every callback is one judgement.** -/
theorem callback_eq (hmac : Hmac) (t : CaseTables) (d : Driver) {e : Event} (he : ∀ code irp k, e ≠ .ioctl code irp k) :
    handle hmac t d e = judgeReply (e.asks t) (e.refusable t) e.now e.granted e.refused d := by
  cases e with
  | ioctl code irp k => exact absurd rfl (he code irp k)
  | registry n now =>
    rw [handle]
    by_cases hg : n.Guarded t
    · rw [registryCallback_guarded hg, unlessPermissive_eq, judgeReply_map]
      simp only [Event.asks, writesProtected_iff.2 hg, Event.refusable, Event.now, Event.granted, Event.refused]
    · have hfree : n.writesProtected t = false := Bool.eq_false_iff.2 fun h => hg (writesProtected_iff.1 h)
      rw [registryCallback_unguarded hg]
      simp only [Event.asks, hfree, judgeReply, Bool.not_false, if_true]
      rfl
  | create p q now =>
    have heq := guardFile_eq t (p.wantsDelete || p.wantsWrite) q now d
    rw [Bool.not_or] at heq
    rw [handle, lgPreCreate, heq, judgeReply_map]
    rfl
  | setInformation klass q now =>
    rw [handle, lgPreSetInformation, guardFile_eq, judgeReply_map]
    rfl
  | write q now =>
    have heq := guardFile_eq t true q now d
    rw [Bool.true_and] at heq
    rw [handle, lgPreWrite, show guardFile t q now d = _ from heq, judgeReply_map]
    rfl
  | process info now =>
    rw [handle, processNotify_eq, judgeReply_map]
    rfl
  | processHandle info now =>
    rw [handle, preProcessHandle_eq, judgeReply_map]
    rfl
  | filterUnload now =>
    rw [handle, lgUnloadGuard, unlessPermissive_eq, judgeReply_map]
    rfl

/-- A judgement is the monitor's. -/
theorem judge_monitor (asks refusable : Bool) (now : SysTime) (ok denied : Answer) (d : Driver) :
    d.monitor.judge asks refusable now ok denied =
      ((judgeReply asks refusable now ok denied d).value, (judgeReply asks refusable now ok denied d).driver.monitor) := by
  simp only [Monitor.judge, judgeReply, ask_monitor]
  split
  · rfl
  · split <;> rfl

/-- Whether the key of an `UNLOCK` fits, when the driver gets as far as to look. -/
def keyChecked (hmac : Hmac) (d : Driver) : Event → Option Bool
  | .ioctl code irp k =>
    if code = lgIoctlUnlock ∧ sizeofUnlockRequest ≤ irp.inputBufferLength ∧ Monitor.fresh k.now (nonceTake d.nonce).1 = true then
      some (lgRecoveryCheckKey hmac d.recovery k.checkHmac irp.unlockRequest.derivedKey).toBool
    else none
  | _ => none

section
variable {hmac : Hmac} {d : Driver} {irp : Irp} {k : Kernel}

theorem getNonce_monitor : d.monitor.getNonce irp k.random k.now =
    ((lgHandleGetNonce irp k d).value, (lgHandleGetNonce irp k d).driver.monitor) := by
  by_cases hshort : irp.outputBufferLength < lgNonceLen
  · simp only [Monitor.getNonce, lgHandleGetNonce, getNoncePrepare, if_pos hshort]
  · cases hrandom : lgGenerateRandom k.random with
    | error s => simp only [Monitor.getNonce, lgHandleGetNonce, getNoncePrepare, if_neg hshort, hrandom, Driver.monitor]
    | ok nonce =>
      simp only [Monitor.getNonce, lgHandleGetNonce, getNoncePrepare, if_neg hshort, hrandom, Driver.monitor, nonceIssue,
        nonceTake, if_true]

/-- The judgement needs of the record no more than whether the key fits. -/
theorem judgeUnlock_eq {fits : Bool} (hfits : Monitor.fresh k.now (nonceTake d.nonce).1 = true →
    fits = (lgRecoveryCheckKey hmac d.recovery k.checkHmac irp.unlockRequest.derivedKey).toBool) :
    d.monitor.judgeUnlock hmac fits irp.unlockRequest k.responseHmac k.now =
      unlockExit hmac (nonceTake d.nonce).1 d.recovery irp.unlockRequest k := by
  obtain ⟨taken, htaken⟩ : ∃ taken, (nonceTake d.nonce).1 = taken := ⟨_, rfl⟩
  simp only [Monitor.judgeUnlock, Driver.monitor, unlockExit, htaken] at hfits ⊢
  cases taken with
  | none => rfl
  | some p =>
    obtain ⟨nonce, issuedAt⟩ := p
    by_cases hstale : long64 (k.now.quadPart - issuedAt.quadPart) > ticks lgNonceTtlSeconds
    · simp [Monitor.fresh, hstale]
    · have hfresh : Monitor.fresh k.now (some (nonce, issuedAt)) = true := by simpa [Monitor.fresh] using hstale
      simp only [hfresh, if_neg hstale, hfits hfresh, Bool.not_true, Bool.false_eq_true, if_false]
      cases hkey : lgRecoveryCheckKey hmac d.recovery k.checkHmac irp.unlockRequest.derivedKey with
      | error s => rfl
      | ok u => rfl

theorem unlockFinish_monitor (irp : Irp) (k : Kernel) {slot : NonceSlot} (hslot : (nonceTake slot).1 = none) (x : UnlockExit) :
    (unlockFinish irp k { d with nonce := slot } x).value = Monitor.unlockAnswer irp x ∧
      (unlockFinish irp k { d with nonce := slot } x).driver.monitor = d.monitor.leave k.windowTime x := by
  refine ⟨by cases x <;> rfl, ?_⟩
  cases x with
  | granted =>
    simp only [unlockFinish, Monitor.leave, Driver.monitor, hslot, Window.toLease, lgEnterPermissiveWindow, if_true]
  | _ => simp only [unlockFinish, Monitor.leave, Monitor.deny, Driver.monitor, hslot, lgRecordTamperEvent]

/-- A slot whose nonce has been taken has none. -/
theorem nonceTake_twice (slot : NonceSlot) : (nonceTake (nonceTake slot).2).1 = none := by
  cases hvalid : slot.gNonceValid <;> simp [nonceTake, hvalid]

theorem unlock_monitor {fits : Bool} (hfits : sizeofUnlockRequest ≤ irp.inputBufferLength →
      Monitor.fresh k.now (nonceTake d.nonce).1 = true →
        fits = (lgRecoveryCheckKey hmac d.recovery k.checkHmac irp.unlockRequest.derivedKey).toBool) :
    d.monitor.unlock hmac fits irp k = ((lgHandleUnlock hmac irp k d).value, (lgHandleUnlock hmac irp k d).driver.monitor) := by
  by_cases hlong : sizeofUnlockRequest ≤ irp.inputBufferLength
  · obtain ⟨hvalue, hdriver⟩ := unlockFinish_monitor (d := d) irp k (nonceTake_twice d.nonce)
      (unlockExit hmac (nonceTake d.nonce).1 d.recovery irp.unlockRequest k)
    rw [lgHandleUnlock_long hlong, Monitor.unlock, if_neg (by omega), judgeUnlock_eq (hfits hlong), hvalue, hdriver]
  · rw [Monitor.unlock, if_pos (by omega), lgHandleUnlock, if_pos (by omega)]

theorem toLease_getD {w : Window} (h : w.Settled) : w.toLease.getD 0 = w.gPermissiveExpires := by
  cases hp : w.gPermissive with
  | true => simp [Window.toLease, hp]
  | false => simp [Window.toLease, hp, h hp]

theorem status_monitor (hsettled : d.window.Settled) : d.monitor.status irp k.now =
    ((lgHandleStatus irp k d).value, (lgHandleStatus irp k d).driver.monitor) := by
  by_cases hshort : irp.outputBufferLength < sizeofStatusReply
  · simp only [Monitor.status, lgHandleStatus, if_pos hshort]
  · have hexpires := toLease_getD (settled_asked hsettled k.now)
    simp only [Monitor.status, if_neg hshort, ask_monitor]
    simp only [lgHandleStatus, if_neg hshort, Driver.asked, Driver.monitor, hexpires]

theorem ioctl_monitor (hsettled : d.window.Settled) (code : ULONG) {fits : Bool}
    (hfits : ∀ b, keyChecked hmac d (.ioctl code irp k) = some b → fits = b) :
    d.monitor.ioctl hmac fits code irp k = ((lgDispatchDeviceControl hmac code irp k d).value,
      (lgDispatchDeviceControl hmac code irp k d).driver.monitor) := by
  unfold Monitor.ioctl lgDispatchDeviceControl
  split
  · exact getNonce_monitor
  split
  · rename_i hunlock
    refine unlock_monitor fun hlong hfresh => hfits _ ?_
    rw [keyChecked, if_pos ⟨hunlock, hlong, hfresh⟩]
  split
  · rfl
  split
  · exact status_monitor hsettled
  · rfl

end

/-- **One event**: the driver answers as the monitor does, and stays what it is to it. -/
theorem handle_monitor {hmac : Hmac} {t : CaseTables} {d : Driver} (hsettled : d.window.Settled) {e : Event} {fits : Bool}
    (hfits : ∀ b, keyChecked hmac d e = some b → fits = b) :
    d.monitor.serve hmac t fits e = ((handle hmac t d e).value, (handle hmac t d e).driver.monitor) := by
  rcases e.ioctl_or_callback with ⟨code, irp, k, rfl⟩ | he
  · simp only [Monitor.serve, handle, Reply.map, ioctl_monitor hsettled code hfits]
  · rw [callback_eq hmac t d he, ← judge_monitor]
    cases e with
    | ioctl code irp k => exact absurd rfl (he code irp k)
    | _ => rfl

theorem handle_settled (hmac : Hmac) (t : CaseTables) {d : Driver} (h : d.window.Settled) (e : Event) :
    (handle hmac t d e).driver.window.Settled := by
  rcases handle_window hmac t d e with (⟨-, hw⟩ | ⟨-, hw⟩) | ⟨irp, k, -, -, hw⟩
  · rwa [hw]
  · rw [hw]
    exact settled_asked h e.now
  · rw [hw]
    exact nofun

/-! ## Runs -/

/-- The bit of the record that a turn gives away. -/
def fitted (hmac : Hmac) (x : DriverTurn) : Bool := (keyChecked hmac x.before x.event).getD false

section
variable (hmac : Hmac) (t : CaseTables)

def driverAnswer (x : DriverTurn) : Answer := (handle hmac t x.before x.event).value

/-- A step of the monitor: the event, and what it is told of the key. -/
def monitorStep (m : Monitor) (e : Event × Bool) : Monitor := (m.serve hmac t e.2 e.1).2

def monitorAnswer (x : Turn Monitor (Event × Bool)) : Answer := (x.before.serve hmac t x.event.2 x.event.1).1

/-- What the monitor answers to the events of a run, told the bits of the run. -/
def monitorTurns (es : List (Event × Bool)) : List (Turn Monitor (Event × Bool)) :=
  turns (monitorStep hmac t) Monitor.boot es

end

/-- What the monitor is told of a run. -/
def told (hmac : Hmac) (xs : List DriverTurn) : List (Event × Bool) := xs.map fun x => (x.event, fitted hmac x)

theorem run_monitor (hmac : Hmac) (t : CaseTables) {d : Driver} (hsettled : d.window.Settled) (es : List Event) :
    let xs := turns (driverStep hmac t) d es
    xs.map (driverAnswer hmac t) = (turns (monitorStep hmac t) d.monitor (told hmac xs)).map (monitorAnswer hmac t) ∧
      (final (driverStep hmac t) d es).monitor = final (monitorStep hmac t) d.monitor (told hmac xs) := by
  induction es generalizing d with
  | nil => exact ⟨rfl, rfl⟩
  | cons e es ih =>
    have hfits : ∀ b, keyChecked hmac d e = some b → fitted hmac ⟨d, e⟩ = b := by
      intro b hb
      rw [fitted, hb]
      rfl
    have hserve := handle_monitor (t := t) hsettled hfits
    have hstep : monitorStep hmac t d.monitor (e, fitted hmac ⟨d, e⟩) = (driverStep hmac t d e).monitor :=
      congrArg Prod.snd hserve
    obtain ⟨hanswers, hfinal⟩ := ih (handle_settled hmac t hsettled e)
    simp only [told, turns, List.map_cons, final_cons, hstep] at hanswers hfinal ⊢
    exact ⟨List.cons_eq_cons.2 ⟨(congrArg Prod.fst hserve).symm, hanswers⟩, hfinal⟩

theorem settled_boot (boot : RecoveryReads) : (driverEntry boot).window.Settled := fun _ => rfl

/-- **The refinement.** In every run from driver load the driver answers as the monitor that has no
record and is told, of each `UNLOCK` that gets as far as its key, whether the key fits. -/
theorem driver_refines_monitor (hmac : Hmac) (t : CaseTables) (boot : RecoveryReads) (es : List Event) :
    let xs := driverTurns hmac t boot es
    xs.map (driverAnswer hmac t) = (monitorTurns hmac t (told hmac xs)).map (monitorAnswer hmac t) ∧
      (final (driverStep hmac t) (driverEntry boot) es).monitor = final (monitorStep hmac t) Monitor.boot (told hmac xs) :=
  run_monitor hmac t (settled_boot boot) es

/-! ## What a caller learns of the record -/

/-- The callers, and the clocks and the random numbers they can watch, are the same; the record read and
what the check of a key goes through need not be. -/
def Kernel.Alike (k k' : Kernel) : Prop :=
  k.random = k'.random ∧ k.now = k'.now ∧ k.responseHmac = k'.responseHmac ∧ k.windowTime = k'.windowTime

inductive Event.Alike : Event → Event → Prop
  | ioctl {code : ULONG} {irp : Irp} {k k' : Kernel} : k.Alike k' → Alike (.ioctl code irp k) (.ioctl code irp k')
  | same (e : Event) : Alike e e

/-- The monitor cannot tell such events from each other. -/
theorem serve_alike {e e' : Event} (h : e.Alike e') (hmac : Hmac) (t : CaseTables) (fits : Bool) (m : Monitor) :
    m.serve hmac t fits e = m.serve hmac t fits e' := by
  cases h with
  | same => rfl
  | ioctl hk =>
    obtain ⟨hrandom, hnow, hresponse, hwindow⟩ := hk
    simp only [Monitor.serve, Monitor.ioctl, Monitor.unlock, hrandom, hnow, hresponse, hwindow]

theorem monitorTurns_alike {hmac : Hmac} {t : CaseTables} {es es' : List (Event × Bool)}
    (h : List.Forall₂ (fun e e' => e.1.Alike e'.1 ∧ e.2 = e'.2) es es') (m : Monitor) :
    (turns (monitorStep hmac t) m es).map (monitorAnswer hmac t) =
      (turns (monitorStep hmac t) m es').map (monitorAnswer hmac t) := by
  induction h generalizing m with
  | nil => rfl
  | @cons e e' es es' he hes ih =>
    obtain ⟨halike, hbit⟩ := he
    have hserve := serve_alike halike hmac t e.2 m
    simp only [turns, List.map_cons, monitorAnswer, monitorStep, ← hbit, hserve, ih]

theorem told_alike {hmac : Hmac} (xs xs' : List DriverTurn)
    (hevents : List.Forall₂ Event.Alike (xs.map Turn.event) (xs'.map Turn.event))
    (hbits : xs.map (fitted hmac) = xs'.map (fitted hmac)) :
    List.Forall₂ (fun e e' : Event × Bool => e.1.Alike e'.1 ∧ e.2 = e'.2) (told hmac xs) (told hmac xs') := by
  induction xs generalizing xs' with
  | nil =>
    cases xs' with
    | nil => exact .nil
    | cons x' xs' => cases hevents
  | cons x xs ih =>
    cases xs' with
    | nil => cases hevents
    | cons x' xs' =>
      obtain ⟨hhead, htail⟩ := List.forall₂_cons.1 hevents
      obtain ⟨hbit, hrest⟩ := List.cons_eq_cons.1 hbits
      exact .cons ⟨hhead, hbit⟩ (ih xs' htail hrest)

/-- **What a caller learns of the record** is one bit for each `UNLOCK` that gets as far as its key: two
runs that differ in nothing but the record read, and in which the same keys fit, answer the same. -/
theorem verifier_not_disclosed (hmac : Hmac) (t : CaseTables) {boot boot' : RecoveryReads} {es es' : List Event}
    (hevents : List.Forall₂ Event.Alike es es')
    (hbits : (driverTurns hmac t boot es).map (fitted hmac) = (driverTurns hmac t boot' es').map (fitted hmac)) :
    (driverTurns hmac t boot es).map (driverAnswer hmac t) = (driverTurns hmac t boot' es').map (driverAnswer hmac t) := by
  have htold := told_alike (driverTurns hmac t boot es) (driverTurns hmac t boot' es')
    (by simpa only [driverTurns, map_event_turns] using hevents) hbits
  have hrun := (run_monitor hmac t (settled_boot boot) es).1
  have hrun' := (run_monitor hmac t (settled_boot boot') es').1
  exact hrun.trans ((monitorTurns_alike htold Monitor.boot).trans hrun'.symm)

namespace Worked

/-- No record can be read. -/
def lostReads : RecoveryReads := { reads with openKey := statusAccessDenied }

/-- A request with a key that fits no record. -/
def guessIrp : Irp := ⟨64, 0, response.toList ++ nonce.toList, 0, by decide⟩

/-- A nonce, and a guess. -/
def guess (reads : RecoveryReads) : List Event :=
  [.ioctl lgIoctlGetNonce nonceIrp { kernel (time 0) with reads := reads },
    .ioctl lgIoctlUnlock guessIrp { kernel (time 20) with reads := reads }]

end Worked

theorem verifier_not_disclosed_guess :
    (driverTurns Worked.hmac .ascii Worked.reads (Worked.guess Worked.reads)).map (driverAnswer Worked.hmac .ascii) =
      (driverTurns Worked.hmac .ascii Worked.lostReads (Worked.guess Worked.lostReads)).map
        (driverAnswer Worked.hmac .ascii) := by
  refine verifier_not_disclosed Worked.hmac .ascii ?_ ?_
  · exact .cons (.ioctl ⟨rfl, rfl, rfl, rfl⟩) (.cons (.ioctl ⟨rfl, rfl, rfl, rfl⟩) .nil)
  · decide +kernel

end Lockguard
