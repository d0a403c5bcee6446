import Lockguard.Ioctl
import Lockguard.RegCb
import Lockguard.ObCallback
import Lockguard.Lib.Runs
/-!
# The whole driver as a state machine

An `Event` is one request or notification with everything the kernel hands the driver while it is
handled. `handle` sends it to its handler or callback; a run is a `Runs` run of `driverStep` from
`driverEntry`. `callback_judged` says once what a callback can do, `handle_window`, `handle_nonce` and
`handle_recovery` what one event can do to the window, the pending nonce and the copy of the record;
`letThrough_asked` what letting a guarded operation through takes.
-/
namespace Lockguard

open Runs

inductive Event where
  | ioctl (code : ULONG) (irp : Irp) (k : Kernel)
  | registry (n : RegNotification) (now : SysTime)
  | create (p : CreateParameters) (q : FileNameQuery) (now : SysTime)
  | setInformation (klass : Nat) (q : FileNameQuery) (now : SysTime)
  | write (q : FileNameQuery) (now : SysTime)
  | process (info : Option CreateNotifyInfo) (now : SysTime)
  | processHandle (info : PreHandleInformation) (now : SysTime)
  | filterUnload (now : SysTime)

inductive Answer where
  | ioctl (r : NTSTATUS × Irp)
  | registry (status : NTSTATUS)
  | file (r : PreOp)
  | process (creationStatus : Option NTSTATUS)
  | processHandle (access : ACCESS_MASK)
  | filterUnload (status : NTSTATUS)

def Reply.map {α β : Type} (f : α → β) (r : Reply α) : Reply β := ⟨f r.value, r.driver, r.calls⟩

section
variable (hmac : Hmac) (t : CaseTables)

def handle (d : Driver) : Event → Reply Answer
  | .ioctl code irp k => (lgDispatchDeviceControl hmac code irp k d).map .ioctl
  | .registry n now => (lgRegistryCallback t n now d).map .registry
  | .create p q now => (lgPreCreate t p q now d).map .file
  | .setInformation klass q now => (lgPreSetInformation t klass q now d).map .file
  | .write q now => (lgPreWrite t q now d).map .file
  | .process info now => (lgProcessNotifyEx t info now d).map .process
  | .processHandle info now => (lgPreProcessHandle t info now d).map .processHandle
  | .filterUnload now => (lgUnloadGuard now d).map .filterUnload

def driverStep (d : Driver) (e : Event) : Driver := (handle hmac t d e).driver

end

abbrev DriverTurn := Turn Driver Event

/-- The turns of a run from driver load. -/
def driverTurns (hmac : Hmac) (t : CaseTables) (boot : RecoveryReads) (es : List Event) :
    List DriverTurn :=
  turns (driverStep hmac t) (driverEntry boot) es

/-! ## Guarded operations -/

/-- The operations a callback refuses while the window is closed. -/
def Event.Guarded (t : CaseTables) : Event → Prop
  | .ioctl _ _ _ => False
  | .registry n _ => n.Guarded t
  | .create p q _ => (p.wantsDelete = true ∨ p.wantsWrite = true) ∧ lgPathMatches t q = true
  | .setInformation klass q _ => dangerousClass klass = true ∧ lgPathMatches t q = true
  | .write q _ => lgPathMatches t q = true
  | .process info _ => ∃ i path, info = some i ∧ i.imageFileName = some path ∧ imageBlocked t path = true
  | .processHandle info _ => info.isProcess = true ∧ info.kernelHandle = false ∧
      info.operation ≠ .other ∧ lgPidIsProtected t info.target = true ∧
      info.desiredAccess &&& procDeniedMask ≠ 0
  | .filterUnload _ => True

/-- The operation goes ahead; for a process handle, with a right of `PROC_DENIED_MASK`. -/
def Answer.LetsThrough : Answer → Prop
  | .ioctl _ => True
  | .registry s => s = statusSuccess
  | .file r => r = .successNoCallback
  | .process s => s ≠ some statusAccessDenied
  | .processHandle a => a &&& procDeniedMask ≠ 0
  | .filterUnload s => s = statusSuccess

instance : DecidablePred Answer.LetsThrough
  | .ioctl _ => .isTrue trivial
  | .registry s => inferInstanceAs (Decidable (s = statusSuccess))
  | .file r => inferInstanceAs (Decidable (r = .successNoCallback))
  | .process s => inferInstanceAs (Decidable (s ≠ some statusAccessDenied))
  | .processHandle a => inferInstanceAs (Decidable (a &&& procDeniedMask ≠ 0))
  | .filterUnload s => inferInstanceAs (Decidable (s = statusSuccess))

/-- The reading a question of the event would carry. -/
def Event.now : Event → SysTime
  | .ioctl _ _ k => k.now
  | .registry _ now => now
  | .create _ _ now => now
  | .setInformation _ _ now => now
  | .write _ now => now
  | .process _ now => now
  | .processHandle _ now => now
  | .filterUnload now => now

/-- What a program does that a callback may refuse: it writes to the registry or to a file, or
launches an image, which no one has refused before. -/
def Event.IsDeed : Event → Prop
  | .registry _ _ | .create _ _ _ | .setInformation _ _ _ | .write _ _ => True
  | .process info _ => ∀ i, info = some i → i.creationStatus ≠ statusAccessDenied
  | .ioctl _ _ _ | .processHandle _ _ | .filterUnload _ => False

theorem Event.ioctl_or_callback (e : Event) :
    (∃ code irp k, e = .ioctl code irp k) ∨ ∀ code irp k, e ≠ .ioctl code irp k := by
  cases e with
  | ioctl code irp k => exact Or.inl ⟨code, irp, k, rfl⟩
  | _ => exact Or.inr fun _ _ _ => nofun

theorem deed_not_ioctl {e : Event} (he : e.IsDeed) (code : ULONG) (irp : Irp) (k : Kernel) :
    e ≠ .ioctl code irp k := by
  rintro rfl
  exact he

/-! ## What a callback does -/

/-- The driver after one question of the window. -/
def Driver.asked (now : SysTime) (d : Driver) : Driver := { d with window := (lgIsPermissive now d.window).2 }

/-- The replies of a callback that answers `ok` or `denied`. -/
inductive Judged {α : Type} (now : SysTime) (guarded : Prop) (ok denied : α) (d : Driver) : Reply α → Prop
  | quiet : ¬ guarded → Judged now guarded ok denied d ⟨ok, d, []⟩
  | passed {b : Bool} : (lgIsPermissive now d.window).1 = b → (guarded → b = true) →
      Judged now guarded ok denied d ⟨ok, d.asked now, [.asked now b]⟩
  | refused : guarded → (lgIsPermissive now d.window).1 = false →
      Judged now guarded ok denied d ⟨denied, lgRecordTamperEvent (d.asked now), [.asked now false]⟩

theorem Judged.map {α β : Type} {now : SysTime} {guarded : Prop} {ok denied : α} {d : Driver} {r : Reply α}
    (h : Judged now guarded ok denied d r) (f : α → β) : Judged now guarded (f ok) (f denied) d (r.map f) := by
  cases h with
  | quiet hg => exact .quiet hg
  | passed hb hg => exact .passed hb hg
  | refused hg hb => exact .refused hg hb

section
variable {α : Type} {now : SysTime} {guarded : Prop} {ok denied : α} {d : Driver} {r : Reply α}

theorem Judged.value_of_passed (h : Judged now guarded ok denied d r)
    (hr : ¬ (guarded ∧ (lgIsPermissive now d.window).1 = false)) : r.value = ok := by
  cases h with
  | quiet | passed => rfl
  | refused hg hb => exact absurd ⟨hg, hb⟩ hr

theorem Judged.value_of_refused (h : Judged now guarded ok denied d r) (hg : guarded)
    (hclosed : (lgIsPermissive now d.window).1 = false) : r.value = denied := by
  cases h with
  | quiet hfree => exact absurd hg hfree
  | passed hb hopen => cases (hopen hg).symm.trans (hb.symm.trans hclosed)
  | refused => rfl

theorem Judged.calls_of_value (h : Judged now guarded ok denied d r) (hg : guarded) (hv : r.value ≠ denied) :
    r.calls = [.asked now true] := by
  cases h with
  | quiet hfree => exact absurd hg hfree
  | passed hb hopen => rw [hopen hg]
  | refused => exact absurd rfl hv

/-- What is recorded is what is refused. -/
theorem Judged.tamper (h : Judged now guarded ok denied d r) :
    (guarded ∧ (lgIsPermissive now d.window).1 = false → r.driver.gTamperCount = d.gTamperCount + 1) ∧
    (¬ (guarded ∧ (lgIsPermissive now d.window).1 = false) → r.driver.gTamperCount = d.gTamperCount) := by
  cases h with
  | quiet hfree => exact ⟨fun hr => absurd hr.1 hfree, fun _ => rfl⟩
  | passed hb hopen =>
    refine ⟨fun hr => ?_, fun _ => rfl⟩
    cases (hopen hr.1).symm.trans (hb.symm.trans hr.2)
  | refused hg hb => exact ⟨fun _ => rfl, fun hr => absurd ⟨hg, hb⟩ hr⟩

end

theorem unlessPermissive_judged {α : Type} {guarded : Prop} (hg : guarded) (now : SysTime) (ok denied : α)
    (d : Driver) : Judged now guarded ok denied d (unlessPermissive now ok denied d) := by
  unfold unlessPermissive
  simp only
  split
  · rename_i hopen
    exact .passed hopen fun _ => rfl
  · rename_i hclosed
    exact .refused hg (Bool.eq_false_iff.2 hclosed)

theorem registryCallback_judged (t : CaseTables) (n : RegNotification) (now : SysTime) (d : Driver) :
    Judged now (n.Guarded t) statusSuccess statusAccessDenied d (lgRegistryCallback t n now d) := by
  by_cases hg : n.Guarded t
  · rw [registryCallback_guarded hg]
    exact unlessPermissive_judged hg _ _ _ _
  · rw [registryCallback_unguarded hg]
    exact .quiet hg

/-- The file callbacks look at the name of some requests only. -/
theorem guardFile_judged (t : CaseTables) (q : FileNameQuery) (wanted : Bool) (now : SysTime) (d : Driver) :
    Judged now (wanted = true ∧ lgPathMatches t q = true) .successNoCallback (.complete statusAccessDenied) d
      (if !wanted then ⟨.successNoCallback, d, []⟩ else guardFile t q now d) := by
  unfold guardFile
  cases hw : wanted with
  | false => exact .quiet fun hg => absurd hg.1 (by simp)
  | true =>
    cases hm : lgPathMatches t q with
    | false => exact .quiet fun hg => absurd hg.2 (by simp)
    | true => exact unlessPermissive_judged ⟨rfl, rfl⟩ _ _ _ _

theorem preCreate_judged (t : CaseTables) (p : CreateParameters) (q : FileNameQuery) (now : SysTime) (d : Driver) :
    Judged now ((Event.create p q now).Guarded t) .successNoCallback (.complete statusAccessDenied) d
      (lgPreCreate t p q now d) := by
  have hj := guardFile_judged t q (p.wantsDelete || p.wantsWrite) now d
  rw [Bool.not_or, Bool.or_eq_true] at hj
  exact hj

theorem preWrite_judged (t : CaseTables) (q : FileNameQuery) (now : SysTime) (d : Driver) :
    Judged now ((Event.write q now).Guarded t) .successNoCallback (.complete statusAccessDenied) d
      (lgPreWrite t q now d) := by
  have hj := guardFile_judged t q true now d
  rw [eq_self_iff_true, true_and] at hj
  exact hj

theorem processNotify_judged (t : CaseTables) (info : Option CreateNotifyInfo) (now : SysTime) (d : Driver) :
    Judged now ((Event.process info now).Guarded t) (info.map CreateNotifyInfo.creationStatus)
      (some statusAccessDenied) d (lgProcessNotifyEx t info now d) := by
  cases info with
  | none => exact .quiet fun ⟨i, path, hi, _⟩ => by cases hi
  | some i =>
    cases hp : i.imageFileName with
    | none =>
      simp only [lgProcessNotifyEx, hp]
      refine .quiet ?_
      rintro ⟨_, path, heq, hpath, -⟩
      cases heq
      cases hp.symm.trans hpath
    | some path =>
      simp only [lgProcessNotifyEx, hp]
      split
      · rename_i hopen
        exact .passed hopen fun _ => rfl
      · rename_i hclosed
        have hclosed := Bool.eq_false_iff.2 hclosed
        split
        · rename_i hb
          exact .refused ⟨i, path, rfl, hp, hb⟩ hclosed
        · rename_i hb
          refine .passed hclosed ?_
          rintro ⟨_, path', heq, hpath, hb'⟩
          cases heq
          cases hp.symm.trans hpath
          exact absurd hb' hb

/-- Rights that are not held are not taken away. -/
theorem and_not_of_and_eq_zero {a m : UInt32} (h : a &&& m = 0) : a &&& ~~~m = a := by
  apply UInt32.toBitVec_inj.1
  have hbits : a.toBitVec &&& m.toBitVec = 0 := by
    simpa using congrArg UInt32.toBitVec h
  ext i hi
  have hbit := congrArg (fun b => b.getLsbD i) hbits
  simp at hbit ⊢
  grind

theorem preProcessHandle_judged (t : CaseTables) (info : PreHandleInformation) (now : SysTime) (d : Driver) :
    Judged now ((Event.processHandle info now).Guarded t) info.desiredAccess
      (info.desiredAccess &&& ~~~procDeniedMask) d (lgPreProcessHandle t info now d) := by
  unfold lgPreProcessHandle
  split
  · rename_i hprocess
    exact .quiet fun hg => by simp [hg.1] at hprocess
  rename_i hprocess
  split
  · rename_i hkernel
    exact .quiet fun hg => by simp [hg.2.1] at hkernel
  rename_i hkernel
  simp only
  split
  · rename_i hopen
    exact .passed hopen fun _ => rfl
  rename_i hclosed
  have hclosed := Bool.eq_false_iff.2 hclosed
  split
  · rename_i htarget
    exact .passed hclosed fun hg => by simp [hg.2.2.2.1] at htarget
  rename_i htarget
  by_cases hop : info.operation = .other
  · simp only [hop, if_true]
    exact .passed hclosed fun hg => absurd hop hg.2.2.1
  by_cases hrights : info.desiredAccess &&& procDeniedMask = 0
  · simp only [if_neg hop, hrights, if_true, and_not_of_and_eq_zero hrights]
    exact .passed hclosed fun hg => absurd hrights hg.2.2.2.2
  · simp only [if_neg hop, if_neg hrights]
    refine .refused ⟨?_, ?_, hop, ?_, hrights⟩ hclosed
    · simpa using hprocess
    · simpa using hkernel
    · simpa using htarget

/-- **What a callback does with an operation**: it lets it through, or asks and, the window being
closed, refuses and records it. Its two answers do not depend on the driver's state. -/
theorem callback_judged (t : CaseTables) {e : Event} (he : ∀ code irp k, e ≠ .ioctl code irp k) :
    ∃ ok denied : Answer, (e.IsDeed → ok.LetsThrough) ∧ ¬ denied.LetsThrough ∧
      ∀ hmac d, Judged e.now (e.Guarded t) ok denied d (handle hmac t d e) := by
  have hfile : (Answer.file .successNoCallback).LetsThrough ∧
      ¬ (Answer.file (.complete statusAccessDenied)).LetsThrough := by decide
  cases e with
  | ioctl code irp k => exact absurd rfl (he code irp k)
  | registry n now =>
    refine ⟨.registry statusSuccess, .registry statusAccessDenied, fun _ => rfl, by decide, fun _ d => ?_⟩
    exact (registryCallback_judged t n now d).map Answer.registry
  | create p q now =>
    refine ⟨_, _, fun _ => hfile.1, hfile.2, fun _ d => ?_⟩
    exact (preCreate_judged t p q now d).map Answer.file
  | setInformation klass q now =>
    refine ⟨_, _, fun _ => hfile.1, hfile.2, fun _ d => ?_⟩
    exact (guardFile_judged t q (dangerousClass klass) now d).map Answer.file
  | write q now =>
    refine ⟨_, _, fun _ => hfile.1, hfile.2, fun _ d => ?_⟩
    exact (preWrite_judged t q now d).map Answer.file
  | process info now =>
    refine ⟨.process (info.map CreateNotifyInfo.creationStatus), .process (some statusAccessDenied),
      fun hi hs => ?_, fun hl => hl rfl, fun _ d => (processNotify_judged t info now d).map Answer.process⟩
    obtain ⟨i, hinfo, hs⟩ := Option.map_eq_some_iff.1 hs
    exact hi i hinfo hs
  | processHandle info now =>
    refine ⟨.processHandle info.desiredAccess, .processHandle (info.desiredAccess &&& ~~~procDeniedMask),
      fun hi => absurd hi id, fun hl => hl ?_,
      fun _ d => (preProcessHandle_judged t info now d).map Answer.processHandle⟩
    simp [UInt32.and_assoc]
  | filterUnload now =>
    refine ⟨.filterUnload statusSuccess, .filterUnload statusFltDoNotDetach, fun hi => absurd hi id, by decide,
      fun _ d => ?_⟩
    exact (unlessPermissive_judged trivial now statusSuccess statusFltDoNotDetach d).map Answer.filterUnload

/-- **Letting a guarded operation through takes an answer TRUE of `LgIsPermissive`.** -/
theorem letThrough_asked {hmac : Hmac} {t : CaseTables} {d : Driver} {e : Event} (hg : e.Guarded t)
    (hl : (handle hmac t d e).value.LetsThrough) :
    (handle hmac t d e).calls = [.asked e.now true] := by
  have he : ∀ code irp k, e ≠ .ioctl code irp k := by
    rintro code irp k rfl
    exact hg
  obtain ⟨ok, denied, -, hdenied, hjudged⟩ := callback_judged t he
  refine (hjudged hmac d).calls_of_value hg fun hv => ?_
  rw [hv] at hl
  exact hdenied hl

/-! ## What one event does to the window -/

/-- At most one question, at `now`, and no entry. -/
def Reply.OnlyAsks {α : Type} (now : SysTime) (w : Window) (r : Reply α) : Prop :=
  (r.calls = [] ∧ r.driver.window = w) ∨
    (r.calls = [.asked now (lgIsPermissive now w).1] ∧ r.driver.window = (lgIsPermissive now w).2)

/-- Nothing but the window and the counters is touched. -/
def Reply.Keeps {α : Type} (d : Driver) (r : Reply α) : Prop :=
  r.driver.nonce = d.nonce ∧ r.driver.recovery = d.recovery

section
variable {α : Type} {now : SysTime} {guarded : Prop} {ok denied : α} {d : Driver} {r : Reply α}

theorem Judged.asks (h : Judged now guarded ok denied d r) : r.OnlyAsks now d.window := by
  cases h with
  | quiet => exact Or.inl ⟨rfl, rfl⟩
  | passed hb => exact Or.inr ⟨by rw [hb], rfl⟩
  | refused _ hb => exact Or.inr ⟨by rw [hb], rfl⟩

theorem Judged.keeps (h : Judged now guarded ok denied d r) : r.Keeps d := by
  cases h <;> exact ⟨rfl, rfl⟩

end

/-- The other requests ask at most, and record nothing. -/
theorem dispatch_other {code : ULONG} (hg : code ≠ lgIoctlGetNonce) (hu : code ≠ lgIoctlUnlock) (hmac : Hmac)
    (irp : Irp) (k : Kernel) (d : Driver) :
    let r := lgDispatchDeviceControl hmac code irp k d
    r.OnlyAsks k.now d.window ∧ r.Keeps d ∧ r.driver.gTamperCount = d.gTamperCount := by
  simp only [lgDispatchDeviceControl, if_neg hg, if_neg hu]
  split
  · exact ⟨Or.inl ⟨rfl, rfl⟩, ⟨rfl, rfl⟩, rfl⟩
  · split
    · unfold lgHandleStatus
      split
      · exact ⟨Or.inl ⟨rfl, rfl⟩, ⟨rfl, rfl⟩, rfl⟩
      · exact ⟨Or.inr ⟨rfl, rfl⟩, ⟨rfl, rfl⟩, rfl⟩
    · exact ⟨Or.inl ⟨rfl, rfl⟩, ⟨rfl, rfl⟩, rfl⟩

/-- All that a `GET_NONCE` does to the driver before it takes the lock is one attempt to load the record. -/
theorem getNoncePrepare_driver (irp : Irp) (k : Kernel) (d : Driver) :
    ∃ r, (getNoncePrepare irp k d).2 = { d with recovery := r } ∧
      (r = d.recovery ∨ r = lgRecoveryTryReload k.irql k.retryTime k.reads d.recovery) := by
  unfold getNoncePrepare
  split
  · exact ⟨_, rfl, Or.inl rfl⟩
  · simp only
    split <;> exact ⟨_, rfl, Or.inr rfl⟩

theorem getNoncePrepare_window (irp : Irp) (k : Kernel) (d : Driver) :
    (getNoncePrepare irp k d).2.window = d.window ∧ (getNoncePrepare irp k d).2.nonce = d.nonce := by
  obtain ⟨r, hd, -⟩ := getNoncePrepare_driver irp k d
  rw [hd]
  exact ⟨rfl, rfl⟩

/-- All that a `GET_NONCE` does to the driver besides is under the nonce lock. -/
theorem handleGetNonce_driver (irp : Irp) (k : Kernel) (d : Driver) :
    (lgHandleGetNonce irp k d).calls = [] ∧ ∃ slot r, (lgHandleGetNonce irp k d).driver =
      { d with nonce := slot, recovery := r } ∧
      (r = d.recovery ∨ r = lgRecoveryTryReload k.irql k.retryTime k.reads d.recovery) := by
  obtain ⟨r, hd, hr⟩ := getNoncePrepare_driver irp k d
  unfold lgHandleGetNonce
  split <;> rename_i heq <;> rw [heq] at hd <;> cases hd <;> exact ⟨rfl, _, r, rfl, hr⟩

theorem handleGetNonce_window (irp : Irp) (k : Kernel) (d : Driver) :
    (lgHandleGetNonce irp k d).calls = [] ∧ (lgHandleGetNonce irp k d).driver.window = d.window := by
  obtain ⟨hcalls, slot, r, hd, -⟩ := handleGetNonce_driver irp k d
  rw [hd]
  exact ⟨hcalls, rfl⟩

/-- The window is entered by a granted unlock and by nothing else. -/
def GrantedBy (hmac : Hmac) (d : Driver) (e : Event) (irp : Irp) (k : Kernel) : Prop :=
  e = .ioctl lgIoctlUnlock irp k ∧ sizeofUnlockRequest ≤ irp.inputBufferLength ∧
    unlockExit hmac (nonceTake d.nonce).1 d.recovery irp.unlockRequest k = .granted

theorem handleUnlock_window (hmac : Hmac) (irp : Irp) (k : Kernel) (d : Driver) :
    (lgHandleUnlock hmac irp k d).OnlyAsks k.now d.window ∨
      (GrantedBy hmac d (.ioctl lgIoctlUnlock irp k) irp k ∧
        (lgHandleUnlock hmac irp k d).calls = [.entered k.windowTime] ∧
        (lgHandleUnlock hmac irp k d).driver.window = lgEnterPermissiveWindow k.windowTime d.window) := by
  unfold lgHandleUnlock
  split
  · exact Or.inl (Or.inl ⟨rfl, rfl⟩)
  · rename_i hlen
    simp only
    cases he : unlockExit hmac (nonceTake d.nonce).1 d.recovery irp.unlockRequest k with
    | granted => exact Or.inr ⟨⟨rfl, by omega, he⟩, rfl, rfl⟩
    | _ => exact Or.inl (Or.inl ⟨rfl, rfl⟩)

/-- **What one event does to the window**: nothing, one question, or the entry of a granted
unlock; `calls` records which. -/
theorem handle_window (hmac : Hmac) (t : CaseTables) (d : Driver) (e : Event) :
    (handle hmac t d e).OnlyAsks e.now d.window ∨ ∃ irp k, GrantedBy hmac d e irp k ∧
      (handle hmac t d e).calls = [.entered k.windowTime] ∧
      (handle hmac t d e).driver.window = lgEnterPermissiveWindow k.windowTime d.window := by
  rcases e.ioctl_or_callback with ⟨code, irp, k, rfl⟩ | he
  · by_cases hg : code = lgIoctlGetNonce
    · subst hg
      simp only [handle, dispatch_getNonce, Reply.map]
      exact Or.inl (Or.inl (handleGetNonce_window irp k d))
    · by_cases hu : code = lgIoctlUnlock
      · subst hu
        simp only [handle, dispatch_unlock, Reply.map]
        exact (handleUnlock_window hmac irp k d).imp_right fun h => ⟨irp, k, h⟩
      · exact Or.inl (dispatch_other hg hu hmac irp k d).1
  · obtain ⟨ok, denied, -, -, hjudged⟩ := callback_judged t he
    exact Or.inl (hjudged hmac d).asks

/-! ## What one event does to the pending nonce and the verifier -/

/-- A `GET_NONCE` whose section under the nonce lock stores `nonce` and `issuedAt`. -/
def Issues (x : DriverTurn) (nonce : Bytes32) (issuedAt : SysTime) : Prop :=
  ∃ irp k, x.event = .ioctl lgIoctlGetNonce irp k ∧
    (getNoncePrepare irp k x.before).1 = .ok (nonce, issuedAt)

/-- An `UNLOCK` that passes its length check, so takes whatever nonce is pending. -/
def TakesNonce (x : DriverTurn) : Prop :=
  ∃ irp k, x.event = .ioctl lgIoctlUnlock irp k ∧ sizeofUnlockRequest ≤ irp.inputBufferLength

/-- The turn runs a section under the nonce lock. -/
def NonceSection (x : DriverTurn) : Prop := (∃ nonce issuedAt, Issues x nonce issuedAt) ∨ TakesNonce x

theorem unlockFinish_keeps (irp : Irp) (k : Kernel) (d : Driver) (x : UnlockExit) :
    (unlockFinish irp k d x).Keeps d := by
  cases x <;> exact ⟨rfl, rfl⟩

theorem not_section_of_event {x : DriverTurn}
    (h : ∀ code irp k, x.event = .ioctl code irp k → code ≠ lgIoctlGetNonce ∧ code ≠ lgIoctlUnlock) :
    ¬ NonceSection x := by
  rintro (⟨_, _, irp, k, he, -⟩ | ⟨irp, k, he, -⟩)
  · exact (h _ _ _ he).1 rfl
  · exact (h _ _ _ he).2 rfl

/-- **What one event does to the pending nonce**: it is issued, taken or left alone. -/
theorem handle_nonce (hmac : Hmac) (t : CaseTables) (d : Driver) (e : Event) :
    (∃ nonce issuedAt, Issues ⟨d, e⟩ nonce issuedAt ∧
      (handle hmac t d e).driver.nonce = nonceIssue nonce issuedAt d.nonce) ∨
    (TakesNonce ⟨d, e⟩ ∧ (handle hmac t d e).driver.nonce = (nonceTake d.nonce).2) ∨
    (¬ NonceSection ⟨d, e⟩ ∧ (handle hmac t d e).driver.nonce = d.nonce) := by
  rcases e.ioctl_or_callback with ⟨code, irp, k, rfl⟩ | he
  · by_cases hg : code = lgIoctlGetNonce
    · subst hg
      have hw := (getNoncePrepare_window irp k d).2
      simp only [handle, dispatch_getNonce, Reply.map, lgHandleGetNonce]
      split
      · rename_i s d' heq
        rw [heq] at hw
        refine Or.inr (Or.inr ⟨?_, hw⟩)
        rintro (⟨_, _, irp', k', he, hok⟩ | ⟨irp', k', he, -⟩)
        · cases he; rw [heq] at hok; cases hok
        · cases he
      · rename_i nonce issuedAt d' heq
        rw [heq] at hw
        exact Or.inl ⟨nonce, issuedAt, ⟨irp, k, rfl, by rw [heq]⟩, by simp only [nonceIssue]⟩
    · by_cases hu : code = lgIoctlUnlock
      · subst hu
        refine Or.inr ?_
        simp only [handle, dispatch_unlock, Reply.map, lgHandleUnlock]
        split
        · rename_i hlen
          refine Or.inr ⟨?_, rfl⟩
          rintro (⟨_, _, irp', k', he, -⟩ | ⟨irp', k', he, hl⟩)
          · cases he
          · cases he; omega
        · rename_i hlen
          exact Or.inl ⟨⟨irp, k, rfl, by omega⟩, (unlockFinish_keeps _ _ _ _).1⟩
      · refine Or.inr (Or.inr ⟨not_section_of_event fun c i k' h => ?_, (dispatch_other hg hu hmac irp k d).2.1.1⟩)
        cases h
        exact ⟨hg, hu⟩
  · obtain ⟨ok, denied, -, -, hjudged⟩ := callback_judged t he
    exact Or.inr (Or.inr ⟨not_section_of_event fun c i k h => absurd h (he c i k), (hjudged hmac d).keeps.1⟩)

/-- **What one event does to the driver's copy of the record**: nothing, or one attempt to load it. -/
theorem handle_recovery (hmac : Hmac) (t : CaseTables) (d : Driver) (e : Event) :
    (handle hmac t d e).driver.recovery = d.recovery ∨ ∃ irql now reads,
      (handle hmac t d e).driver.recovery = lgRecoveryTryReload irql now reads d.recovery := by
  rcases e.ioctl_or_callback with ⟨code, irp, k, rfl⟩ | he
  · by_cases hg : code = lgIoctlGetNonce
    · subst hg
      obtain ⟨-, slot, r, hd, hr⟩ := handleGetNonce_driver irp k d
      rw [handle, dispatch_getNonce, Reply.map, hd]
      exact hr.imp_right fun h => ⟨_, _, _, h⟩
    · refine Or.inl ?_
      by_cases hu : code = lgIoctlUnlock
      · subst hu
        rw [handle, dispatch_unlock, Reply.map, lgHandleUnlock]
        split
        · rfl
        · exact (unlockFinish_keeps _ _ _ _).2
      · exact (dispatch_other hg hu hmac irp k d).2.1.2
  · obtain ⟨ok, denied, -, -, hjudged⟩ := callback_judged t he
    exact Or.inl (hjudged hmac d).keeps.2

/-- **A loaded verifier stays loaded and the same** whatever happens. -/
theorem handle_verifier (hmac : Hmac) (t : CaseTables) {d : Driver} {v : Bytes32}
    (h : d.recovery.loadedVerifier = some v) (e : Event) :
    (handle hmac t d e).driver.recovery.loadedVerifier = some v := by
  rcases handle_recovery hmac t d e with hsame | ⟨irql, now, reads, hload⟩
  · rw [hsame]; exact h
  · rw [hload]; exact tryReload_keeps h irql now reads

/-! ## What is refused, and what is recorded -/

/-- A guarded operation met by a closed window. -/
def Event.IsRefused (t : CaseTables) (w : Window) (e : Event) : Prop :=
  e.Guarded t ∧ (lgIsPermissive e.now w).1 = false

/-- The ways out of an unlock that record a tamper event. -/
def UnlockExit.Recorded : UnlockExit → Prop
  | .noNonce | .staleNonce | .wrongKey | .mismatch => True
  | .hmacFailed _ | .granted => False

def Event.IsBadUnlock (hmac : Hmac) (d : Driver) : Event → Prop
  | .ioctl code irp k => code = lgIoctlUnlock ∧ sizeofUnlockRequest ≤ irp.inputBufferLength ∧
      (unlockExit hmac (nonceTake d.nonce).1 d.recovery irp.unlockRequest k).Recorded
  | _ => False

section
variable {hmac : Hmac} {t : CaseTables} {d : Driver} {e : Event}

/-- **When a deed goes through**: when it is not guarded, or finds the window open. -/
theorem deed_letsThrough_iff (hmac : Hmac) (d : Driver) (he : e.IsDeed) :
    (handle hmac t d e).value.LetsThrough ↔ ¬ e.IsRefused t d.window := by
  obtain ⟨ok, denied, hok, hdenied, hjudged⟩ := callback_judged t (deed_not_ioctl he)
  by_cases hr : e.IsRefused t d.window
  · rw [(hjudged hmac d).value_of_refused hr.1 hr.2]
    exact iff_of_false hdenied (not_not_intro hr)
  · rw [(hjudged hmac d).value_of_passed hr]
    exact iff_of_true (hok he) hr

theorem unlockFinish_tamper (irp : Irp) (k : Kernel) (x : UnlockExit) :
    (x.Recorded → (unlockFinish irp k d x).driver.gTamperCount = d.gTamperCount + 1) ∧
    (¬ x.Recorded → (unlockFinish irp k d x).driver.gTamperCount = d.gTamperCount) := by
  cases x <;> simp [UnlockExit.Recorded, unlockFinish, lgRecordTamperEvent]

/-- A bad unlock is recorded. -/
theorem badUnlock_recorded (h : e.IsBadUnlock hmac d) :
    (handle hmac t d e).driver.gTamperCount = d.gTamperCount + 1 := by
  cases e with
  | ioctl code irp k =>
    obtain ⟨rfl, hlen, hrecorded⟩ := h
    rw [handle, dispatch_unlock, lgHandleUnlock_long hlen]
    exact (unlockFinish_tamper irp k _).1 hrecorded
  | _ => exact absurd h id

theorem deed_not_badUnlock (he : e.IsDeed) : ¬ e.IsBadUnlock hmac d := by
  cases e with
  | ioctl code irp k => exact absurd he id
  | _ => exact id

/-- What is neither refused nor a bad unlock is not recorded. -/
theorem nothing_recorded (hr : ¬ e.IsRefused t d.window) (hu : ¬ e.IsBadUnlock hmac d) :
    (handle hmac t d e).driver.gTamperCount = d.gTamperCount := by
  rcases e.ioctl_or_callback with ⟨code, irp, k, rfl⟩ | he
  · by_cases hg : code = lgIoctlGetNonce
    · subst hg
      obtain ⟨-, slot, r, hd, -⟩ := handleGetNonce_driver irp k d
      rw [handle, dispatch_getNonce, Reply.map, hd]
    · by_cases hcode : code = lgIoctlUnlock
      · subst hcode
        rw [handle, dispatch_unlock]
        by_cases hlen : sizeofUnlockRequest ≤ irp.inputBufferLength
        · rw [lgHandleUnlock_long hlen]
          exact (unlockFinish_tamper irp k _).2 fun hrecorded => hu ⟨rfl, hlen, hrecorded⟩
        · rw [lgHandleUnlock, if_pos (by omega), Reply.map]
      · exact (dispatch_other hg hcode hmac irp k d).2.2
  · obtain ⟨ok, denied, -, -, hjudged⟩ := callback_judged t he
    exact (hjudged hmac d).tamper.2 hr

end

end Lockguard
