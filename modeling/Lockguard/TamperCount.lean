import Lockguard.Driver
import Lockguard.Status
/-!
# Tamper accounting (`lockguard.c:122-131`)

Every callback and the unlock handler call `LgRecordTamperEvent` on their own ways out. `Denial`
looks at the answers alone, `denial_iff` finds them where the record is made, and so the count a
`STATUS` reports is the number of denials before it (`status_counts_denials`). It is a 32-bit
count: the one that is recorded at `2^32 - 1` starts it again (`status_count_monotonic`).
-/
namespace Lockguard

open Runs

/-! ## Denials -/

/-- The launch as the kernel announces it: no driver has spoken on it yet. -/
def Event.unjudged : Event → Event
  | .process info now => .process (info.map fun i => { i with creationStatus := statusSuccess }) now
  | e => e

/-- The answer denies what the event asks for. -/
def Answer.denies : Event → Answer → Bool
  | .ioctl code _ _, .ioctl r => code == lgIoctlUnlock && (r.1 == statusAccessDenied || r.1 == statusTimeout)
  | .registry _ _, .registry s => s == statusAccessDenied
  | .create _ _ _, .file r | .setInformation _ _ _, .file r | .write _ _, .file r =>
    r == .complete statusAccessDenied
  | .process _ _, .process s => s == some statusAccessDenied
  | .processHandle info _, .processHandle access => access != info.desiredAccess
  | .filterUnload _, .filterUnload s => s != statusSuccess
  | _, _ => false

section
variable (hmac : Hmac) (t : CaseTables)

/-- The turn answers with a denial of the driver's own. -/
def denial (x : DriverTurn) : Bool := (handle hmac t x.before x.event.unjudged).value.denies x.event

/-- The denials of a run so far. -/
def denials (tr : List DriverTurn) : Nat := tr.countP (denial hmac t)

end

/-- BCrypt's failures are told apart from the driver's two refusals of an unlock. -/
def HmacCalls.Apart (c : HmacCalls) : Prop :=
  ∀ s ∈ [c.openAlgorithmProvider, c.createHash, c.hashData, c.finishHash],
    ntSuccess s = false → s ≠ statusAccessDenied ∧ s ≠ statusTimeout

def Event.BcryptApart : Event → Prop
  | .ioctl _ _ k => k.responseHmac.Apart
  | _ => True

/-! ## Where a denial is recorded -/

section
variable {α : Type} {now : SysTime} {guarded : Prop} {ok denied : α} {d : Driver} {r : Reply α}

/-- What tells the two answers of a callback apart tells what was refused. -/
theorem Judged.denies_iff (h : Judged now guarded ok denied d r) {p : α → Bool} (hok : p ok = false)
    (hdenied : guarded → p denied = true) :
    p r.value = true ↔ guarded ∧ (lgIsPermissive now d.window).1 = false := by
  by_cases hr : guarded ∧ (lgIsPermissive now d.window).1 = false
  · rw [h.value_of_refused hr.1 hr.2]
    exact iff_of_true (hdenied hr.1) hr
  · rw [h.value_of_passed hr, hok]
    exact iff_of_false Bool.false_ne_true hr

end

section
variable {hmac : Hmac} {t : CaseTables} {d : Driver} {e : Event}

/-- What has been said of a launch before does not matter to whether it is guarded. -/
theorem unjudged_guarded (info : Option CreateNotifyInfo) (now : SysTime) :
    (Event.process info now).unjudged.Guarded t ↔ (Event.process info now).Guarded t := by
  cases info with
  | none => simp [Event.unjudged, Event.Guarded]
  | some i => simp [Event.unjudged, Event.Guarded]

/-- A right that is asked for and denied is missing from what is granted. -/
theorem stripped_ne {a m : UInt32} (h : a &&& m ≠ 0) : a &&& ~~~m ≠ a := by
  intro heq
  apply h
  rw [← heq]
  simp [UInt32.and_assoc]

theorem lgHmacSha256_apart {c : HmacCalls} (hc : c.Apart) {key data : Bytes} {s : NTSTATUS}
    (h : lgHmacSha256 hmac c key data = .error s) : s ≠ statusAccessDenied ∧ s ≠ statusTimeout := by
  have hcall : ∀ s', s' ∈ [c.openAlgorithmProvider, c.createHash, c.hashData, c.finishHash] →
      ¬ ntSuccess s' = true → s' ≠ statusAccessDenied ∧ s' ≠ statusTimeout :=
    fun s' hmem hs' => hc s' hmem (Bool.eq_false_iff.2 hs')
  unfold lgHmacSha256 checked at h
  by_cases h1 : ntSuccess c.openAlgorithmProvider = true
  · by_cases h2 : ntSuccess c.createHash = true
    · by_cases h3 : ntSuccess c.hashData = true
      · by_cases h4 : ntSuccess c.finishHash = true
        · simp [h1, h2, h3, h4, bind, Except.bind, pure, Except.pure] at h
        · simp [h1, h2, h3, h4, bind, Except.bind] at h
          exact h ▸ hcall _ (by simp) h4
      · simp [h1, h2, h3, bind, Except.bind] at h
        exact h ▸ hcall _ (by simp) h3
    · simp [h1, h2, bind, Except.bind] at h
      exact h ▸ hcall _ (by simp) h2
  · simp [h1, bind, Except.bind] at h
    exact h ▸ hcall _ (by simp) h1

theorem unlockExit_apart {taken : Option (Bytes32 × SysTime)} {r : Recovery} {req : UnlockRequest} {k : Kernel}
    (hk : k.responseHmac.Apart) {s : NTSTATUS} (h : unlockExit hmac taken r req k = .hmacFailed s) :
    s ≠ statusAccessDenied ∧ s ≠ statusTimeout := by
  unfold unlockExit at h
  split at h
  · cases h
  · simp only at h
    split at h
    · cases h
    · split at h
      · cases h
      · split at h
        · rename_i hmacError
          cases h
          exact lgHmacSha256_apart hk hmacError
        · split at h <;> cases h

theorem unlockFinish_denies {x : UnlockExit} (hx : ∀ s, x = .hmacFailed s → s ≠ statusAccessDenied ∧ s ≠ statusTimeout)
    (irp : Irp) (k : Kernel) (d : Driver) :
    ((unlockFinish irp k d x).value.1 == statusAccessDenied || (unlockFinish irp k d x).value.1 == statusTimeout) = true ↔
      x.Recorded := by
  cases x with
  | hmacFailed s =>
    have hs := hx s rfl
    simp [unlockFinish, UnlockExit.Recorded, hs.1, hs.2]
  | granted => simp [unlockFinish, UnlockExit.Recorded, statusSuccess, statusAccessDenied, statusTimeout]
  | _ => simp [unlockFinish, UnlockExit.Recorded]

theorem unlock_denial_iff {irp : Irp} {k : Kernel} (hk : k.responseHmac.Apart) :
    ((lgHandleUnlock hmac irp k d).value.1 == statusAccessDenied ||
      (lgHandleUnlock hmac irp k d).value.1 == statusTimeout) = true ↔
      (Event.ioctl lgIoctlUnlock irp k).IsBadUnlock hmac d := by
  by_cases hlen : sizeofUnlockRequest ≤ irp.inputBufferLength
  · rw [lgHandleUnlock_long hlen, unlockFinish_denies fun s hs => unlockExit_apart hk hs]
    simp [Event.IsBadUnlock, hlen]
  · rw [lgHandleUnlock, if_pos (by omega)]
    simp [Event.IsBadUnlock, hlen, statusBufferTooSmall, statusAccessDenied, statusTimeout]

/-- **What is denied is what is recorded**: the guarded operations a closed window meets, and the
unlocks that fail. -/
theorem denial_iff (he : e.BcryptApart) :
    denial hmac t ⟨d, e⟩ = true ↔ e.IsRefused t d.window ∨ e.IsBadUnlock hmac d := by
  cases e with
  | ioctl code irp k =>
    have hcode : denial hmac t ⟨d, .ioctl code irp k⟩ = true ↔
        code = lgIoctlUnlock ∧ ((lgDispatchDeviceControl hmac code irp k d).value.1 == statusAccessDenied ||
          (lgDispatchDeviceControl hmac code irp k d).value.1 == statusTimeout) = true := by
      simp [denial, Event.unjudged, handle, Reply.map, Answer.denies]
    rw [hcode]
    by_cases hu : code = lgIoctlUnlock
    · subst hu
      rw [dispatch_unlock, unlock_denial_iff he]
      simp [Event.IsRefused, Event.Guarded]
    · simp [hu, Event.IsRefused, Event.Guarded, Event.IsBadUnlock]
  | registry n now =>
    rw [or_iff_left (show ¬ Event.IsBadUnlock _ _ _ from id)]
    exact (registryCallback_judged t n now d).denies_iff (p := fun s => s == statusAccessDenied) (by decide)
      fun _ => by decide
  | create p q now =>
    rw [or_iff_left (show ¬ Event.IsBadUnlock _ _ _ from id)]
    exact (preCreate_judged t p q now d).denies_iff (p := fun r => r == .complete statusAccessDenied) (by decide)
      fun _ => by decide
  | setInformation klass q now =>
    rw [or_iff_left (show ¬ Event.IsBadUnlock _ _ _ from id)]
    exact (guardFile_judged t q _ now d).denies_iff (p := fun r => r == .complete statusAccessDenied) (by decide)
      fun _ => by decide
  | write q now =>
    rw [or_iff_left (show ¬ Event.IsBadUnlock _ _ _ from id)]
    exact (preWrite_judged t q now d).denies_iff (p := fun r => r == .complete statusAccessDenied) (by decide)
      fun _ => by decide
  | process info now =>
    rw [or_iff_left (show ¬ Event.IsBadUnlock _ _ _ from id)]
    have hj := processNotify_judged t (info.map fun i => { i with creationStatus := statusSuccess }) now d
    refine (hj.denies_iff (p := fun s => s == some statusAccessDenied) ?_ fun _ => by decide).trans ?_
    · cases info <;> rfl
    · exact and_congr_left' (unjudged_guarded info now)
  | processHandle info now =>
    rw [or_iff_left (show ¬ Event.IsBadUnlock _ _ _ from id)]
    refine (preProcessHandle_judged t info now d).denies_iff (p := fun access => access != info.desiredAccess)
      (by simp) fun hg => ?_
    simpa using stripped_ne hg.2.2.2.2
  | filterUnload now =>
    rw [or_iff_left (show ¬ Event.IsBadUnlock _ _ _ from id)]
    have hj : Judged now True statusSuccess statusFltDoNotDetach d (lgUnloadGuard now d) :=
      unlessPermissive_judged trivial now _ _ d
    exact hj.denies_iff (p := fun s => s != statusSuccess) (by decide) fun _ => by decide

end

/-! ## The count of a run -/

/-- The turn calls `LgRecordTamperEvent`. -/
def Records (hmac : Hmac) (t : CaseTables) (x : DriverTurn) : Prop :=
  x.event.IsRefused t x.before.window ∨ x.event.IsBadUnlock hmac x.before

section
variable {hmac : Hmac} {t : CaseTables} {d : Driver} {e : Event}

theorem refused_recorded (h : e.IsRefused t d.window) :
    (driverStep hmac t d e).gTamperCount = d.gTamperCount + 1 := by
  rcases e.ioctl_or_callback with ⟨code, irp, k, rfl⟩ | he
  · exact absurd h.1 id
  · obtain ⟨ok, denied, -, -, hjudged⟩ := callback_judged t he
    exact (hjudged hmac d).tamper.1 h

/-- **What one event does to the count.** -/
theorem records_step (hmac : Hmac) (t : CaseTables) (d : Driver) (e : Event) :
    (Records hmac t ⟨d, e⟩ → (driverStep hmac t d e).gTamperCount = d.gTamperCount + 1) ∧
    (¬ Records hmac t ⟨d, e⟩ → (driverStep hmac t d e).gTamperCount = d.gTamperCount) := by
  constructor
  · rintro (hr | hu)
    · exact refused_recorded hr
    · exact badUnlock_recorded hu
  · intro h
    obtain ⟨hr, hu⟩ := not_or.1 h
    exact nothing_recorded hr hu

theorem denials_snoc (tr : List DriverTurn) (x : DriverTurn) :
    denials hmac t (tr ++ [x]) = denials hmac t tr + if denial hmac t x then 1 else 0 := by
  simp [denials, List.countP_append, List.countP_singleton]

/-- **The counter holds the number of denials**, in 32 bits. -/
theorem count_run (hmac : Hmac) (t : CaseTables) (boot : RecoveryReads) {es : List Event}
    (he : ∀ e ∈ es, e.BcryptApart) :
    (final (driverStep hmac t) (driverEntry boot) es).gTamperCount =
      UInt32.ofNat (denials hmac t (driverTurns hmac t boot es)) := by
  refine inv_of (driverStep hmac t) (A := fun _ x => x.event.BcryptApart)
    (I := fun tr d => d.gTamperCount = UInt32.ofNat (denials hmac t tr)) rfl ?_ es ?_
  · intro tr d e ih happ
    have hiff : denial hmac t ⟨d, e⟩ = true ↔ Records hmac t ⟨d, e⟩ := denial_iff happ
    rw [denials_snoc]
    by_cases hr : Records hmac t ⟨d, e⟩
    · rw [(records_step hmac t d e).1 hr, if_pos (hiff.2 hr), ih, UInt32.ofNat_add]
      rfl
    · rw [(records_step hmac t d e).2 hr, if_neg fun hd => hr (hiff.1 hd), ih, Nat.add_zero]
  · intro pre x post hsplit
    have hmem := List.mem_map_of_mem (f := Turn.event) (show x ∈ turns _ _ es by rw [hsplit]; simp)
    rw [map_event_turns] at hmem
    exact he _ hmem

end

/-- The turn is a `STATUS` that reports the count `c`. -/
def ReportsCount (hmac : Hmac) (t : CaseTables) (x : DriverTurn) (c : ULONG) : Prop :=
  ∃ irp k irp', x.event = .ioctl lgIoctlStatus irp k ∧
    (handle hmac t x.before x.event).value = .ioctl (statusSuccess, irp') ∧
    irp'.statusReply.tamperEventCount = c

theorem reportsCount_iff {hmac : Hmac} {t : CaseTables} {x : DriverTurn} {c : ULONG} :
    ReportsCount hmac t x c ↔ c = x.before.gTamperCount ∧ ∃ irp k, x.event = .ioctl lgIoctlStatus irp k ∧
      sizeofStatusReply ≤ irp.outputBufferLength := by
  constructor
  · rintro ⟨irp, k, irp', hx, hanswer, rfl⟩
    have hv : (lgHandleStatus irp k x.before).value = (statusSuccess, irp') := by
      rw [hx, handle, dispatch_status, Reply.map] at hanswer
      exact Answer.ioctl.inj hanswer
    have hlen := status_success.1 (congrArg Prod.fst hv)
    have hreply := status_reply hlen k x.before
    rw [hv] at hreply
    exact ⟨by rw [hreply], irp, k, hx, hlen⟩
  · rintro ⟨rfl, irp, k, hx, hlen⟩
    refine ⟨irp, k, _, hx, ?_, congrArg StatusReply.tamperEventCount (status_reply hlen k x.before)⟩
    rw [hx, handle, dispatch_status, Reply.map, ← (lgHandleStatus_long hlen k x.before).1]

/-- **Tamper accounting.** In every run from driver load, what a `STATUS` reports is the number of
denials before it, modulo `2^32`. -/
theorem status_counts_denials (hmac : Hmac) (t : CaseTables) (boot : RecoveryReads) {es : List Event}
    (he : ∀ e ∈ es, e.BcryptApart) {pre post : List DriverTurn} {x : DriverTurn} {c : ULONG}
    (hrun : driverTurns hmac t boot es = pre ++ x :: post) (hx : ReportsCount hmac t x c) :
    c.toNat = denials hmac t pre % 2 ^ 32 := by
  obtain ⟨es₁, es₂, rfl, rfl, hb, -⟩ := turns_split _ hrun
  have hcount := count_run hmac t boot fun e hmem => he e (List.mem_append_left _ hmem)
  obtain ⟨rfl, -⟩ := reportsCount_iff.1 hx
  rw [hb, hcount, UInt32.toNat_ofNat']
  rfl

namespace Worked

/-- An `UNLOCK` nobody asked a nonce for. -/
def badUnlock : Event := .ioctl lgIoctlUnlock unlockIrp (kernel (time 0))

def status : Event := .ioctl lgIoctlStatus (statusIrp 0) (kernel (time 0))

end Worked

/-- A bad unlock, a permitted request and a refused unload of the filter: two denials. -/
theorem status_counts_two : ReportsCount Worked.hmac .ascii
      ⟨final (driverStep Worked.hmac .ascii) (driverEntry Worked.reads)
        [Worked.badUnlock, Worked.status, .filterUnload (Worked.time 0)], Worked.status⟩ 2 ∧
    (2 : ULONG).toNat = denials Worked.hmac .ascii (driverTurns Worked.hmac .ascii Worked.reads
      [Worked.badUnlock, Worked.status, .filterUnload (Worked.time 0)]) % 2 ^ 32 := by
  have hx : ReportsCount Worked.hmac .ascii
      ⟨final (driverStep Worked.hmac .ascii) (driverEntry Worked.reads)
        [Worked.badUnlock, Worked.status, .filterUnload (Worked.time 0)], Worked.status⟩ 2 :=
    reportsCount_iff.2 ⟨by decide +kernel, _, _, rfl, by decide⟩
  refine ⟨hx, status_counts_denials Worked.hmac .ascii Worked.reads ?_ (turns_snoc _ _ [_, _, _] _) hx⟩
  intro e he
  simp only [List.cons_append, List.nil_append, List.mem_cons, List.not_mem_nil, or_false] at he
  rcases he with rfl | rfl | rfl | rfl
  · simp [Worked.badUnlock, Event.BcryptApart, HmacCalls.Apart, Worked.kernel, Worked.hmacCalls]
  · simp [Worked.status, Event.BcryptApart, HmacCalls.Apart, Worked.kernel, Worked.hmacCalls]
  · trivial
  · simp [Worked.status, Event.BcryptApart, HmacCalls.Apart, Worked.kernel, Worked.hmacCalls]

/-! ## The wrap -/

/-- The event is recorded by a counter that is at its end. -/
def Wraps (hmac : Hmac) (t : CaseTables) (x : DriverTurn) : Prop :=
  x.before.gTamperCount = 0xFFFFFFFF ∧ Records hmac t x

/-- No later `STATUS` reports less than an earlier one. -/
def CountMonotonic (hmac : Hmac) (t : CaseTables) (tr : List DriverTurn) : Prop :=
  ∀ pre x mid y post c c', tr = pre ++ x :: mid ++ y :: post →
    ReportsCount hmac t x c → ReportsCount hmac t y c' → c ≤ c'

section
variable {hmac : Hmac} {t : CaseTables}

theorem count_le_step {d : Driver} {e : Event} (h : ¬ Wraps hmac t ⟨d, e⟩) :
    d.gTamperCount ≤ (driverStep hmac t d e).gTamperCount := by
  by_cases hr : Records hmac t ⟨d, e⟩
  · have hend : d.gTamperCount ≠ 0xFFFFFFFF := fun hend => h ⟨hend, hr⟩
    have hlt := d.gTamperCount.toNat_lt
    have hne : d.gTamperCount.toNat ≠ 4294967295 := fun heq => hend (UInt32.toNat_inj.1 heq)
    rw [(records_step hmac t d e).1 hr, UInt32.le_iff_toNat_le, UInt32.toNat_add]
    simp only [UInt32.reduceToNat]
    omega
  · rw [(records_step hmac t d e).2 hr]
    exact UInt32.le_refl _

theorem count_le_run {es : List Event} {d : Driver} (h : ∀ x ∈ turns (driverStep hmac t) d es, ¬ Wraps hmac t x) :
    d.gTamperCount ≤ (final (driverStep hmac t) d es).gTamperCount := by
  induction es generalizing d with
  | nil => exact UInt32.le_refl _
  | cons e es ih =>
    have hstep := count_le_step (h ⟨d, e⟩ (by simp [turns]))
    have htail := ih (d := driverStep hmac t d e) fun x hx => h x (by simp [turns, hx])
    exact UInt32.le_trans hstep htail

end

/-- **The reported count is monotonic as far as it does not wrap.** In every run from driver load in
which no denial is recorded at `2^32 - 1`, no later `STATUS` reports less than an earlier one. -/
theorem status_count_monotonic (hmac : Hmac) (t : CaseTables) (boot : RecoveryReads) (es : List Event)
    (h : ∀ x ∈ driverTurns hmac t boot es, ¬ Wraps hmac t x) :
    CountMonotonic hmac t (driverTurns hmac t boot es) := by
  intro pre x mid y post c c' hrun hx hy
  obtain ⟨rfl, -⟩ := reportsCount_iff.1 hx
  obtain ⟨rfl, -⟩ := reportsCount_iff.1 hy
  have hsplit : driverTurns hmac t boot es = pre ++ x :: (mid ++ y :: post) := by simpa using hrun
  obtain ⟨es₁, es₂, -, -, -, hrest⟩ := turns_split _ hsplit
  obtain ⟨es₃, es₄, -, hmid, hb, -⟩ := turns_split _ hrest.symm
  have hle : x.before.gTamperCount ≤ (final (driverStep hmac t) x.before (x.event :: es₃)).gTamperCount := by
    apply count_le_run
    intro z hz
    have hz' : z ∈ x :: mid := by rw [hmid]; exact hz
    exact h z (by rw [hrun]; simp at hz' ⊢; tauto)
  rw [hb]
  exact hle

/-- A bad unlock and a `STATUS` before it wrap nothing yet. -/
theorem status_count_grows :
    CountMonotonic Worked.hmac .ascii (driverTurns Worked.hmac .ascii Worked.reads
      [Worked.badUnlock, Worked.status, Worked.badUnlock, Worked.status]) := by
  apply status_count_monotonic
  have hsmall : (driverTurns Worked.hmac .ascii Worked.reads
      [Worked.badUnlock, Worked.status, Worked.badUnlock, Worked.status]).all
      (fun x => x.before.gTamperCount != 0xFFFFFFFF) = true := by decide +kernel
  rintro x hx ⟨hend, -⟩
  have hne := List.all_eq_true.1 hsmall x hx
  simp [hend] at hne

namespace Worked

/-- A denial, a `STATUS`, `n` more denials and another `STATUS`. -/
def wrapRun (n : Nat) : List Event := badUnlock :: status :: List.replicate n badUnlock ++ [status]

/-- With no nonce pending, a bad unlock does nothing but count. -/
theorem badUnlock_step {d : Driver} (h : d.nonce.gNonceValid = false) :
    driverStep hmac .ascii d badUnlock = lgRecordTamperEvent d := by
  have hlen : sizeofUnlockRequest ≤ unlockIrp.inputBufferLength := by decide
  rw [driverStep, badUnlock, handle, dispatch_unlock, lgHandleUnlock_long hlen]
  simp [nonceTake, h, unlockExit, unlockFinish, Reply.map]

theorem badUnlocks_count {d : Driver} (h : d.nonce.gNonceValid = false) (n : Nat) :
    (final (driverStep hmac .ascii) d (List.replicate n badUnlock)).gTamperCount =
      d.gTamperCount + UInt32.ofNat n := by
  induction n generalizing d with
  | zero => simp
  | succ n ih =>
    rw [List.replicate_succ, final_cons, badUnlock_step h, ih (d := lgRecordTamperEvent d) h, lgRecordTamperEvent,
      UInt32.ofNat_add, UInt32.add_assoc, UInt32.add_comm 1]
    rfl

/-- The driver at the two requests of the run. -/
def wrapFirst : Driver := final (driverStep hmac .ascii) (driverEntry reads) [badUnlock]
def wrapLast (n : Nat) : Driver :=
  final (driverStep hmac .ascii) (driverStep hmac .ascii wrapFirst status) (List.replicate n badUnlock)

theorem wrapRun_turns (n : Nat) : driverTurns hmac .ascii reads (wrapRun n) =
    [⟨driverEntry reads, badUnlock⟩] ++ ⟨wrapFirst, status⟩ ::
      turns (driverStep hmac .ascii) (driverStep hmac .ascii wrapFirst status) (List.replicate n badUnlock) ++
      [⟨wrapLast n, status⟩] := by
  have hrun : wrapRun n = [badUnlock] ++ ([status] ++ (List.replicate n badUnlock ++ [status])) := by simp [wrapRun]
  rw [driverTurns, hrun, turns_append, turns_append, turns_append]
  simp [turns, wrapFirst, wrapLast, final_cons]

theorem wrapRun_first : ReportsCount hmac .ascii ⟨wrapFirst, status⟩ 1 :=
  reportsCount_iff.2 ⟨by decide +kernel, _, _, rfl, by decide⟩

theorem wrapRun_last (n : Nat) : ReportsCount hmac .ascii ⟨wrapLast n, status⟩ (1 + UInt32.ofNat n) := by
  have hquiet : (driverStep hmac .ascii wrapFirst status).nonce.gNonceValid = false := by decide +kernel
  have hone : (driverStep hmac .ascii wrapFirst status).gTamperCount = 1 := by decide +kernel
  have hcount := badUnlocks_count hquiet n
  rw [hone] at hcount
  exact reportsCount_iff.2 ⟨hcount.symm, _, _, rfl, by decide⟩

end Worked

/-- **The count is not monotonic**: of two `STATUS` replies around `2^32 - 1` denials the later reports 0. -/
theorem status_count_wraps : ¬ CountMonotonic Worked.hmac .ascii
    (driverTurns Worked.hmac .ascii Worked.reads (Worked.wrapRun (2 ^ 32 - 1))) := by
  intro h
  have hle := h _ _ _ _ [] _ _ (Worked.wrapRun_turns (2 ^ 32 - 1)) Worked.wrapRun_first (Worked.wrapRun_last _)
  exact absurd hle (by decide)

end Lockguard
