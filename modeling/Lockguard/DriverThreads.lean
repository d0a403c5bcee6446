import Lockguard.Monitor
import Lockguard.UnlockOrigin
import Lockguard.ReloadThreads
/-!
# The whole driver under concurrent calls

Every request and notification is cut at its accesses to what the driver's threads share: the section
under `gNonceLock`, the two parts of `LgIsPermissive`, the section of `LgEnterPermissiveWindow`, every
global a reload attempt or the check of a key touches, the two counters. A phase carries what its call
still needs. Run alone a call is `handle` (`threads_alone`); under any schedule an operation that goes
ahead has behind it an `UNLOCK` with the right key and a fresh nonce (`letThrough_authorised`), and the
tamper counter is the number of denials (`threads_count_denials`).

| here | there |
| --- | --- |
| `check`, `lock`       | `LgIsPermissive`: the read without the lock, the section (`lockguard.c:82-118`) |
| `reload`              | `LgRecoveryTryReload` (`:47-66`), cut as in `ReloadThreads` |
| `issue`, `take`       | the sections under `gNonceLock` (`:291-295`, `:315-323`) |
| `taken`, `compare`    | the age, `gVerifierLoaded`, then `gStoredVerifier` (`:330-357`, `:255-270`) |
| `leave`               | `LgRecordTamperEvent` or `LgEnterPermissiveWindow`, and the way out |
| `expires`, `counted`  | the reads of `LgHandleStatus` (`:380-384`) |
-/
namespace Lockguard

open Interleave Runs

inductive ThreadPhase where
  | start (e : Event)
  | check (e : Event)
  | lock (e : Event)
  | checked (e : Event) (permissive : Bool)
  | expires (irp : Irp) (permissive : Bool)
  | counted (irp : Irp) (permissive : Bool) (expires : Int)
  | heartbeat (irp : Irp) (permissive : Bool) (expires : Int) (count : ULONG)
  | beat (irp : Irp) (k : Kernel)
  | reload (irp : Irp) (k : Kernel) (p : ReloadPhase)
  | issue (irp : Irp) (nonce : Bytes32) (now : SysTime)
  | issued (irp : Irp) (nonce : Bytes32)
  | take (irp : Irp) (k : Kernel)
  | taken (irp : Irp) (k : Kernel) (found : Option (Bytes32 × SysTime))
  | compare (irp : Irp) (k : Kernel) (nonce computed : Bytes32)
  | leave (irp : Irp) (k : Kernel) (x : UnlockExit)

/-- Where a request to the device starts. -/
def requestStart (code : ULONG) (irp : Irp) (k : Kernel) : ThreadPhase ⊕ Answer :=
  if code = lgIoctlGetNonce then
    if irp.outputBufferLength < lgNonceLen then .inr (.ioctl (statusBufferTooSmall, irp))
    else .inl (.reload irp k .check)
  else if code = lgIoctlUnlock then
    if irp.inputBufferLength < sizeofUnlockRequest then .inr (.ioctl (statusBufferTooSmall, irp))
    else .inl (.take irp k)
  else if code = lgIoctlHeartbeat then .inl (.beat irp k)
  else if code = lgIoctlStatus then
    if irp.outputBufferLength < sizeofStatusReply then .inr (.ioctl (statusBufferTooSmall, irp))
    else .inl (.check (.ioctl code irp k))
  else .inr (.ioctl (statusInvalidDeviceRequest, irp))

/-- The judgement up to the key: the age of the nonce, and `LgRecoveryCheckKey` up to its comparison. -/
def beforeCompare (hmac : Hmac) (irp : Irp) (k : Kernel) (loaded : Bool) : Option (Bytes32 × SysTime) → ThreadPhase
  | none => .leave irp k .noNonce
  | some (nonce, issuedAt) =>
    if long64 (k.now.quadPart - issuedAt.quadPart) > ticks lgNonceTtlSeconds then .leave irp k .staleNonce
    else if !loaded then .leave irp k .wrongKey
    else match lgHmacSha256 hmac k.checkHmac irp.unlockRequest.derivedKey.toList lgVerifierLabel with
      | .error _ => .leave irp k .wrongKey
      | .ok computed => .compare irp k nonce computed

/-- The comparison of the key, and the judgement on the response. -/
def afterCompare (hmac : Hmac) (irp : Irp) (k : Kernel) (nonce computed stored : Bytes32) : UnlockExit :=
  if !lgConstantTimeEqual computed stored then .wrongKey
  else match lgHmacSha256 hmac k.responseHmac irp.unlockRequest.derivedKey.toList nonce.toList with
    | .error s => .hmacFailed s
    | .ok expected => if !lgConstantTimeEqual irp.unlockRequest.response expected then .mismatch else .granted

def statusAnswer (irp : Irp) (permissive : Bool) (expires : Int) (count : ULONG) (heartbeat : Int) : Irp :=
  let irp := irp.store 0 (leBytes 4 1)
  let irp := irp.store 4 [if permissive then 1 else 0]
  let irp := irp.store 8 (leBytes 8 expires)
  let irp := irp.store 16 (leBytes 4 count.toNat)
  let irp := irp.store 24 (leBytes 8 heartbeat)
  { irp with information := sizeofStatusReply }

section
variable (hmac : Hmac) (t : CaseTables)

def threadStep : ThreadPhase → Driver → (ThreadPhase ⊕ Answer) × Driver
  | .start (.ioctl code irp k), d => (requestStart code irp k, d)
  | .start e, d => (if e.asks t then .inl (.check e) else .inr e.granted, d)
  | .check e, d => (if !d.window.gPermissive then .inl (.checked e false) else .inl (.lock e), d)
  | .lock e, d =>
    (.inl (.checked e (permissiveSection e.now d.window).1), { d with window := (permissiveSection e.now d.window).2 })
  | .checked (.ioctl _ irp _) permissive, d => (.inl (.expires irp permissive), d)
  | .checked e permissive, d =>
    if permissive || !e.refusable t then (.inr e.granted, d) else (.inr e.refused, lgRecordTamperEvent d)
  | .expires irp permissive, d => (.inl (.counted irp permissive d.window.gPermissiveExpires), d)
  | .counted irp permissive expires, d => (.inl (.heartbeat irp permissive expires d.gTamperCount), d)
  | .heartbeat irp permissive expires count, d =>
    (.inr (.ioctl (statusSuccess, statusAnswer irp permissive expires count d.gLastHeartbeat)), d)
  | .beat irp k, d => (.inr (.ioctl (statusSuccess, { irp with information := 0 })), { d with gLastHeartbeat := k.now.quadPart })
  | .reload irp k p, d =>
    let r := reloadStep ⟨k.irql, k.retryTime, k.reads⟩ p d.recovery
    (match r.1 with
      | .inl p => .inl (.reload irp k p)
      | .inr _ => match lgGenerateRandom k.random with
        | .error s => .inr (.ioctl (s, irp))
        | .ok nonce => .inl (.issue irp nonce k.now), { d with recovery := r.2 })
  | .issue irp nonce now, d => (.inl (.issued irp nonce), { d with nonce := nonceIssue nonce now d.nonce })
  | .issued irp nonce, d => (.inr (.ioctl (statusSuccess, getNonceReply nonce irp)), d)
  | .take irp k, d => (.inl (.taken irp k (nonceTake d.nonce).1), { d with nonce := (nonceTake d.nonce).2 })
  | .taken irp k found, d => (.inl (beforeCompare hmac irp k d.recovery.gVerifierLoaded found), d)
  | .compare irp k nonce computed, d =>
    (.inl (.leave irp k (afterCompare hmac irp k nonce computed d.recovery.gStoredVerifier)), d)
  | .leave irp k x, d => (.inr (.ioctl (unlockFinish irp k d x).value), (unlockFinish irp k d x).driver)

def threads : Program Driver Event ThreadPhase Answer where
  start := .start
  step _ := threadStep hmac t

end

section
variable {hmac : Hmac} {t : CaseTables} {e : Event}

theorem threadStep_start (he : ∀ code irp k, e ≠ .ioctl code irp k) (d : Driver) :
    threadStep hmac t (.start e) d = (if e.asks t then .inl (.check e) else .inr e.granted, d) := by
  cases e with
  | ioctl code irp k => exact absurd rfl (he code irp k)
  | _ => rfl

theorem threadStep_checked (he : ∀ code irp k, e ≠ .ioctl code irp k) (permissive : Bool) (d : Driver) :
    threadStep hmac t (.checked e permissive) d =
      if permissive || !e.refusable t then (.inr e.granted, d) else (.inr e.refused, lgRecordTamperEvent d) := by
  cases e with
  | ioctl code irp k => exact absurd rfl (he code irp k)
  | _ => rfl

end

/-! ## A call alone -/

section
variable {hmac : Hmac} {t : CaseTables} {a : Event}

/-- A question of the window, up to its answer. -/
theorem check_alone {e : Event} {d u : Driver} {r : Answer}
    (h : Alone (threads hmac t) a (.checked e (lgIsPermissive e.now d.window).1) (d.asked e.now) r u) :
    Alone (threads hmac t) a (.check e) d r u := by
  unfold Driver.asked lgIsPermissive at h
  cases hp : d.window.gPermissive with
  | false =>
    simp only [hp, Bool.not_false, if_true] at h
    exact .next (by simp only [threads, threadStep, hp, Bool.not_false, if_true]) h
  | true =>
    simp only [hp, Bool.not_true, Bool.false_eq_true, if_false] at h
    have hlock : (threads hmac t).step a (.check e) d = (.inl (.lock e), d) := by
      simp only [threads, threadStep, hp, Bool.not_true, Bool.false_eq_true, if_false]
    exact .next hlock (.next rfl h)

theorem callback_alone {e : Event} (he : ∀ code irp k, e ≠ .ioctl code irp k) (d : Driver) :
    Alone (threads hmac t) a (.start e) d (handle hmac t d e).value (handle hmac t d e).driver := by
  rw [callback_eq hmac t d he, judgeReply]
  cases hasks : e.asks t with
  | false => exact .done (by simp only [threads, threadStep_start he, hasks, Bool.false_eq_true, if_false, Bool.not_false, if_true])
  | true =>
    have hstart : (threads hmac t).step a (.start e) d = (.inl (.check e), d) := by
      simp only [threads, threadStep_start he, hasks, if_true]
    refine .next hstart (check_alone (.done ?_))
    simp only [threads, threadStep_checked he, Bool.not_true, Bool.false_eq_true, if_false]
    split <;> rfl

/-- The steps an attempt still has before it, at most. -/
def ReloadPhase.rank : ReloadPhase → Nat
  | .check => 12
  | .clock => 11
  | .last => 10
  | .exchange _ => 9
  | .openKey => 8
  | .readSalt => 7
  | .writeSalt _ => 6
  | .writeSaltLen _ => 5
  | .readIterations => 4
  | .writeIterations _ => 3
  | .readVerifier => 2
  | .writeVerifier _ => 1
  | .setLoaded => 0

theorem reloadStep_rank {b : ReloadCall} {p p' : ReloadPhase} {r r' : Recovery}
    (h : reloadStep b p r = (.inl p', r')) : p'.rank < p.rank := by
  cases p <;> simp only [reloadStep] at h <;> (try split at h) <;> cases h <;> exact Nat.lt_succ_self _

/-- What is left of a reload attempt, and of the request after it. -/
theorem reload_alone {irp : Irp} {k : Kernel} {r : Answer} {u : Driver} {n : Nat} {p : ReloadPhase} {d : Driver}
    (hrank : p.rank < n)
    (herror : ∀ s, lgGenerateRandom k.random = .error s → r = .ioctl (s, irp) ∧
      u = { d with recovery := reloadAlone ⟨k.irql, k.retryTime, k.reads⟩ n p d.recovery })
    (hok : ∀ nonce, lgGenerateRandom k.random = .ok nonce → Alone (threads hmac t) a (.issue irp nonce k.now)
      { d with recovery := reloadAlone ⟨k.irql, k.retryTime, k.reads⟩ n p d.recovery } r u) :
    Alone (threads hmac t) a (.reload irp k p) d r u := by
  induction n generalizing p d with
  | zero => exact absurd hrank (Nat.not_lt_zero _)
  | succ n ih =>
    rcases hstep : reloadStep ⟨k.irql, k.retryTime, k.reads⟩ p d.recovery with ⟨p' | status, r'⟩
    · simp only [reloadAlone_next hstep] at herror hok
      have hlower := reloadStep_rank hstep
      exact .next (by simp only [threads, threadStep, hstep])
        (ih (d := { d with recovery := r' }) (by omega) herror hok)
    · simp only [reloadAlone_return hstep] at herror hok
      cases hrandom : lgGenerateRandom k.random with
      | error s =>
        obtain ⟨rfl, rfl⟩ := herror s hrandom
        exact .done (by simp only [threads, threadStep, hstep, hrandom])
      | ok nonce => exact .next (by simp only [threads, threadStep, hstep, hrandom]) (hok nonce hrandom)

theorem getNonceRequest_alone (irp : Irp) (k : Kernel) (d : Driver) :
    Alone (threads hmac t) a (.start (.ioctl lgIoctlGetNonce irp k)) d (.ioctl (lgHandleGetNonce irp k d).value)
      (lgHandleGetNonce irp k d).driver := by
  by_cases hshort : irp.outputBufferLength < lgNonceLen
  · refine .done ?_
    simp only [threads, threadStep, requestStart, lgHandleGetNonce, getNoncePrepare, if_pos hshort, if_true]
  · have hstart : (threads hmac t).step a (.start (.ioctl lgIoctlGetNonce irp k)) d = (.inl (.reload irp k .check), d) := by
      simp only [threads, threadStep, requestStart, if_neg hshort, if_true]
    refine .next hstart (reload_alone (n := 13) (by decide) ?_ ?_)
    · intro s hrandom
      simp only [lgHandleGetNonce, getNoncePrepare, if_neg hshort, hrandom, reloadAlone_eq, and_self]
    · intro nonce hrandom
      simp only [lgHandleGetNonce, getNoncePrepare, if_neg hshort, hrandom, reloadAlone_eq]
      exact .next rfl (.done rfl)

theorem unlockRequest_alone (irp : Irp) (k : Kernel) (d : Driver) :
    Alone (threads hmac t) a (.start (.ioctl lgIoctlUnlock irp k)) d (.ioctl (lgHandleUnlock hmac irp k d).value)
      (lgHandleUnlock hmac irp k d).driver := by
  have hcode : lgIoctlUnlock ≠ lgIoctlGetNonce := by decide
  by_cases hlong : sizeofUnlockRequest ≤ irp.inputBufferLength
  · have hstart : (threads hmac t).step a (.start (.ioctl lgIoctlUnlock irp k)) d = (.inl (.take irp k), d) := by
      simp only [threads, threadStep, requestStart, if_neg hcode, if_neg (Nat.not_lt.2 hlong), if_true]
    rw [lgHandleUnlock_long hlong]
    -- the start, the section and the judgement up to the key
    refine .next hstart (.next rfl (.next rfl ?_))
    cases (nonceTake d.nonce).1 with
    | none => exact .done rfl
    | some taken =>
      obtain ⟨nonce, issuedAt⟩ := taken
      simp only [beforeCompare, unlockExit]
      split
      · exact .done rfl
      simp only [lgRecoveryCheckKey]
      split
      · exact .done rfl
      cases hkey : lgHmacSha256 hmac k.checkHmac irp.unlockRequest.derivedKey.toList lgVerifierLabel with
      | error s => exact .done rfl
      | ok computed =>
        refine .next rfl ?_
        simp only [afterCompare, bind, Except.bind]
        split <;> exact .done rfl
  · refine .done ?_
    simp only [threads, threadStep, requestStart, if_neg hcode, if_pos (Nat.not_le.1 hlong), if_true, lgHandleUnlock]

theorem statusRequest_alone (irp : Irp) (k : Kernel) (d : Driver) :
    Alone (threads hmac t) a (.start (.ioctl lgIoctlStatus irp k)) d (.ioctl (lgHandleStatus irp k d).value)
      (lgHandleStatus irp k d).driver := by
  have hg : lgIoctlStatus ≠ lgIoctlGetNonce := by decide
  have hu : lgIoctlStatus ≠ lgIoctlUnlock := by decide
  have hh : lgIoctlStatus ≠ lgIoctlHeartbeat := by decide
  by_cases hshort : irp.outputBufferLength < sizeofStatusReply
  · refine .done ?_
    simp only [threads, threadStep, requestStart, if_neg hg, if_neg hu, if_neg hh, if_pos hshort, if_true, lgHandleStatus]
  · have hstart : (threads hmac t).step a (.start (.ioctl lgIoctlStatus irp k)) d =
        (.inl (.check (.ioctl lgIoctlStatus irp k)), d) := by
      simp only [threads, threadStep, requestStart, if_neg hg, if_neg hu, if_neg hh, if_neg hshort, if_true]
    refine .next hstart (check_alone ?_)
    simp only [lgHandleStatus, if_neg hshort]
    exact .next rfl (.next rfl (.next rfl (.done rfl)))

theorem request_alone (code : ULONG) (irp : Irp) (k : Kernel) (d : Driver) :
    Alone (threads hmac t) a (.start (.ioctl code irp k)) d (handle hmac t d (.ioctl code irp k)).value
      (handle hmac t d (.ioctl code irp k)).driver := by
  simp only [handle, Reply.map]
  by_cases hg : code = lgIoctlGetNonce
  · subst hg
    rw [dispatch_getNonce]
    exact getNonceRequest_alone irp k d
  by_cases hu : code = lgIoctlUnlock
  · subst hu
    rw [dispatch_unlock]
    exact unlockRequest_alone irp k d
  by_cases hh : code = lgIoctlHeartbeat
  · have hstart : (threads hmac t).step a (.start (.ioctl code irp k)) d = (.inl (.beat irp k), d) := by
      simp only [threads, threadStep, requestStart, if_neg hg, if_neg hu, if_pos hh]
    refine .next hstart (.done ?_)
    simp only [threads, threadStep, lgDispatchDeviceControl, if_neg hg, if_neg hu, if_pos hh, lgHandleHeartbeat]
  by_cases hs : code = lgIoctlStatus
  · subst hs
    rw [dispatch_status]
    exact statusRequest_alone irp k d
  · refine .done ?_
    simp only [threads, threadStep, requestStart, lgDispatchDeviceControl, if_neg hg, if_neg hu, if_neg hh, if_neg hs]

variable (hmac t a) in
/-- **Run alone, the steps of a call are `handle`.** -/
theorem threads_alone (e : Event) (d : Driver) :
    Alone (threads hmac t) a (.start e) d (handle hmac t d e).value (handle hmac t d e).driver := by
  rcases e.ioctl_or_callback with ⟨code, irp, k, rfl⟩ | he
  · exact request_alone code irp k d
  · exact callback_alone he d

end

/-- **Every run of the driver is a schedule**: calls served one at a time leave the driver and get the
answers that they do in a run. -/
theorem threads_sequential (hmac : Hmac) (t : CaseTables) {ι : Type} [DecidableEq ι] (op : ι → Event) (boot : RecoveryReads)
    {calls : List ι} (hn : calls.Nodup) : ∃ sch,
      (after (threads hmac t) op (driverEntry boot) sch).shared =
        final (driverStep hmac t) (driverEntry boot) (calls.map op) ∧
      returns (threads hmac t) op (driverEntry boot) sch =
        calls.zip ((driverTurns hmac t boot (calls.map op)).map (driverAnswer hmac t)) := by
  obtain ⟨sch, hstate, hreturns, -⟩ := one_at_a_time op (driverEntry boot)
    (fun e d => ((handle hmac t d e).value, (handle hmac t d e).driver)) (fun e d => threads_alone hmac t e e d) hn
  exact ⟨sch, hstate, hreturns⟩

namespace Worked

/-- A nonce, an unlock, and a detachment of the minifilter. -/
def overlapping : Fin 3 → Event
  | 0 => .ioctl lgIoctlGetNonce nonceIrp (kernel (time 0))
  | 1 => .ioctl lgIoctlUnlock unlockIrp (kernel (time 20))
  | 2 => .filterUnload (time 30)

end Worked

theorem threads_sequential_worked : ∃ sch,
    (after (threads Worked.hmac .ascii) Worked.overlapping (driverEntry Worked.reads) sch).shared =
      final (driverStep Worked.hmac .ascii) (driverEntry Worked.reads) ([0, 1, 2].map Worked.overlapping) ∧
    returns (threads Worked.hmac .ascii) Worked.overlapping (driverEntry Worked.reads) sch =
      [0, 1, 2].zip ((driverTurns Worked.hmac .ascii Worked.reads ([0, 1, 2].map Worked.overlapping)).map
        (driverAnswer Worked.hmac .ascii)) :=
  threads_sequential Worked.hmac .ascii Worked.overlapping Worked.reads (by decide)

/-! ## What stands behind an operation let through -/

abbrev ThreadConfig (ι : Type) := Config Driver ThreadPhase Answer ι

abbrev ThreadTurn (ι : Type) := Turn (ThreadConfig ι) ι

section
variable {ι : Type}

/-- The turn is the step of its call from phase `p`. -/
def AtPhase (x : ThreadTurn ι) (p : ThreadPhase) : Prop := x.before.phase x.event = .inl p

/-- The turn is a section under the nonce lock. -/
def NonceTurn (x : ThreadTurn ι) : Prop :=
  (∃ irp nonce now, AtPhase x (.issue irp nonce now)) ∨ ∃ irp k, AtPhase x (.take irp k)

/-- A `GET_NONCE` issued the nonce, and no section under the nonce lock has come since. -/
def Outstanding (tr : List (ThreadTurn ι)) (nonce : Bytes32) (issuedAt : SysTime) : Prop :=
  Since (fun _ g => ∃ irp, AtPhase g (.issue irp nonce issuedAt)) (fun x => ¬ NonceTurn x) tr

/-- `u` has taken the nonce, which was outstanding. -/
def Took (tr : List (ThreadTurn ι)) (u : ι) (irp : Irp) (k : Kernel) (nonce : Bytes32) (issuedAt : SysTime) : Prop :=
  Since (fun past x => x.event = u ∧ AtPhase x (.take irp k) ∧ Outstanding past nonce issuedAt) (fun _ => True) tr

/-- The key of `u` has been found to be that of the verifier in force, and its response the one to a nonce
that it took and that was at most `LG_NONCE_TTL_SECONDS` old. -/
def Matched (hmac : Hmac) (tr : List (ThreadTurn ι)) (u : ι) (irp : Irp) (k : Kernel) : Prop :=
  Since (fun past x => x.event = u ∧ ∃ nonce issuedAt computed, AtPhase x (.compare irp k nonce computed) ∧
    Took past u irp k nonce issuedAt ∧ k.now.quadPart - issuedAt.quadPart ≤ ticks lgNonceTtlSeconds ∧
    x.before.shared.recovery.loadedVerifier = some (hmac irp.unlockRequest.derivedKey.toList lgVerifierLabel) ∧
    irp.unlockRequest.response = hmac irp.unlockRequest.derivedKey.toList nonce.toList) (fun _ => True) tr

/-- The turn is a section of `LgIsPermissive` that answers FALSE. -/
def Refuses (x : ThreadTurn ι) : Prop :=
  ∃ e, AtPhase x (.lock e) ∧ (permissiveSection e.now x.before.shared.window).1 = false

/-- Such an `UNLOCK` has entered the window, and no section of `LgIsPermissive` has answered FALSE since. -/
def OpenedSince (hmac : Hmac) (op : ι → Event) (tr : List (ThreadTurn ι)) : Prop :=
  ∃ u irp k, op u = .ioctl lgIoctlUnlock irp k ∧ sizeofUnlockRequest ≤ irp.inputBufferLength ∧
    Since (fun past x => x.event = u ∧ AtPhase x (.leave irp k .granted) ∧ Matched hmac past u irp k)
      (fun x => ¬ Refuses x) tr

/-- Call `i` has been told, in its own section of `LgIsPermissive`, that the window is open, and it was. -/
def Authorised (hmac : Hmac) (op : ι → Event) (tr : List (ThreadTurn ι)) (i : ι) : Prop :=
  Since (fun past x => x.event = i ∧ AtPhase x (.lock (op i)) ∧
    (permissiveSection (op i).now x.before.shared.window).1 = true ∧ OpenedSince hmac op past) (fun _ => True) tr

/-- What the phase of a call says of its event and of the past. -/
def Story (hmac : Hmac) (t : CaseTables) (op : ι → Event) (tr : List (ThreadTurn ι)) (r : Recovery) (i : ι) :
    ThreadPhase ⊕ Answer → Prop
  | .inl (.start e) | .inl (.check e) | .inl (.lock e) => e = op i
  | .inl (.checked e permissive) => e = op i ∧ (permissive = true → Authorised hmac op tr i)
  | .inl (.take irp k) => op i = .ioctl lgIoctlUnlock irp k ∧ sizeofUnlockRequest ≤ irp.inputBufferLength
  | .inl (.taken irp k found) => op i = .ioctl lgIoctlUnlock irp k ∧ sizeofUnlockRequest ≤ irp.inputBufferLength ∧
    ∀ nonce issuedAt, found = some (nonce, issuedAt) → Took tr i irp k nonce issuedAt
  | .inl (.compare irp k nonce computed) => op i = .ioctl lgIoctlUnlock irp k ∧
    sizeofUnlockRequest ≤ irp.inputBufferLength ∧ r.gVerifierLoaded = true ∧
    computed = hmac irp.unlockRequest.derivedKey.toList lgVerifierLabel ∧
    ∃ issuedAt, Took tr i irp k nonce issuedAt ∧ k.now.quadPart - issuedAt.quadPart ≤ ticks lgNonceTtlSeconds
  | .inl (.leave irp k x) => op i = .ioctl lgIoctlUnlock irp k ∧ sizeofUnlockRequest ≤ irp.inputBufferLength ∧
    (x = .granted → Matched hmac tr i irp k)
  | .inl _ => ∃ code irp k, op i = .ioctl code irp k
  | .inr a => (op i).Guarded t → a.LetsThrough → Authorised hmac op tr i

/-- What the driver and every call say of the past. -/
structure ThreadInv (hmac : Hmac) (t : CaseTables) (op : ι → Event) (tr : List (ThreadTurn ι)) (c : ThreadConfig ι) :
    Prop where
  nonce : c.shared.nonce.gNonceValid = true → Outstanding tr c.shared.nonce.gPendingNonce c.shared.nonce.gNonceIssuedAt
  window : c.shared.window.gPermissive = true → OpenedSince hmac op tr
  story : ∀ i, Story hmac t op tr c.shared.recovery i (c.phase i)

section
variable {hmac : Hmac} {t : CaseTables} {op : ι → Event} {tr : List (ThreadTurn ι)} {x : ThreadTurn ι}

theorem Took.keep {u : ι} {irp : Irp} {k : Kernel} {nonce : Bytes32} {issuedAt : SysTime}
    (h : Took tr u irp k nonce issuedAt) : Took (tr ++ [x]) u irp k nonce issuedAt := Since.keep h trivial

theorem Matched.keep {u : ι} {irp : Irp} {k : Kernel} (h : Matched hmac tr u irp k) : Matched hmac (tr ++ [x]) u irp k :=
  Since.keep h trivial

theorem Authorised.keep {i : ι} (h : Authorised hmac op tr i) : Authorised hmac op (tr ++ [x]) i := Since.keep h trivial

theorem OpenedSince.keep (h : OpenedSince hmac op tr) (hx : ¬ Refuses x) : OpenedSince hmac op (tr ++ [x]) := by
  obtain ⟨u, irp, k, hop, hlen, hsince⟩ := h
  exact ⟨u, irp, k, hop, hlen, hsince.keep hx⟩

/-- The past only grows, and a record once loaded stays loaded. -/
theorem Story.keep {r r' : Recovery} (hloaded : r.gVerifierLoaded = true → r'.gVerifierLoaded = true) {i : ι}
    {p : ThreadPhase ⊕ Answer} (h : Story hmac t op tr r i p) : Story hmac t op (tr ++ [x]) r' i p := by
  rcases p with p | a
  · cases p with
    | checked e permissive => exact ⟨h.1, fun hp => (h.2 hp).keep⟩
    | taken irp k found => exact ⟨h.1, h.2.1, fun nonce issuedAt hf => (h.2.2 nonce issuedAt hf).keep⟩
    | compare irp k nonce computed =>
      obtain ⟨hop, hlen, hl, hcomputed, issuedAt, htook, hage⟩ := h
      exact ⟨hop, hlen, hloaded hl, hcomputed, issuedAt, htook.keep, hage⟩
    | leave irp k x => exact ⟨h.1, h.2.1, fun hx => (h.2.2 hx).keep⟩
    | _ => exact h
  · exact fun hg hl => (h hg hl).keep

end

end

/-! ## One step -/

section
variable {hmac : Hmac} {t : CaseTables} {p : ThreadPhase} {d : Driver}

/-- What one step does to the slot of the nonce. -/
theorem threadStep_nonce (hmac : Hmac) (t : CaseTables) (p : ThreadPhase) (d : Driver) :
    (∃ irp nonce now, p = .issue irp nonce now ∧ (threadStep hmac t p d).2.nonce = nonceIssue nonce now d.nonce) ∨
    (∃ irp k, p = .take irp k ∧ (threadStep hmac t p d).2.nonce = (nonceTake d.nonce).2) ∨
    ((∀ irp nonce now, p ≠ .issue irp nonce now) ∧ (∀ irp k, p ≠ .take irp k) ∧ (threadStep hmac t p d).2.nonce = d.nonce) := by
  cases p with
  | issue irp nonce now => exact Or.inl ⟨irp, nonce, now, rfl, rfl⟩
  | take irp k => exact Or.inr (Or.inl ⟨irp, k, rfl, rfl⟩)
  | start e => exact Or.inr (Or.inr ⟨fun _ _ _ => nofun, fun _ _ => nofun, by cases e <;> rfl⟩)
  | checked e permissive =>
    refine Or.inr (Or.inr ⟨fun _ _ _ => nofun, fun _ _ => nofun, ?_⟩)
    cases e <;> simp only [threadStep] <;> split <;> rfl
  | leave irp k x => exact Or.inr (Or.inr ⟨fun _ _ _ => nofun, fun _ _ => nofun, (unlockFinish_keeps irp k d x).1⟩)
  | _ => exact Or.inr (Or.inr ⟨fun _ _ _ => nofun, fun _ _ => nofun, rfl⟩)

/-- What one step does to the window. -/
theorem threadStep_window (hmac : Hmac) (t : CaseTables) (p : ThreadPhase) (d : Driver) :
    (∃ e, p = .lock e ∧ (threadStep hmac t p d).2.window = (permissiveSection e.now d.window).2) ∨
    (∃ irp k, p = .leave irp k .granted ∧
      (threadStep hmac t p d).2.window = lgEnterPermissiveWindow k.windowTime d.window) ∨
    ((∀ e, p ≠ .lock e) ∧ (threadStep hmac t p d).2.window = d.window) := by
  cases p with
  | lock e => exact Or.inl ⟨e, rfl, rfl⟩
  | leave irp k x =>
    cases x with
    | granted => exact Or.inr (Or.inl ⟨irp, k, rfl, rfl⟩)
    | _ => exact Or.inr (Or.inr ⟨fun _ => nofun, rfl⟩)
  | start e => exact Or.inr (Or.inr ⟨fun _ => nofun, by cases e <;> rfl⟩)
  | checked e permissive =>
    refine Or.inr (Or.inr ⟨fun _ => nofun, ?_⟩)
    cases e <;> simp only [threadStep] <;> split <;> rfl
  | _ => exact Or.inr (Or.inr ⟨fun _ => nofun, rfl⟩)

theorem reloadStep_loaded (b : ReloadCall) (p : ReloadPhase) {r : Recovery} (h : r.gVerifierLoaded = true) :
    (reloadStep b p r).2.gVerifierLoaded = true := by
  cases p <;> simp only [reloadStep] <;> (try split) <;> exact h

/-- A record once loaded stays loaded. -/
theorem threadStep_loaded (p : ThreadPhase) {d : Driver} (h : d.recovery.gVerifierLoaded = true) :
    (threadStep hmac t p d).2.recovery.gVerifierLoaded = true := by
  cases p with
  | reload irp k p => exact reloadStep_loaded _ p h
  | start e => cases e <;> exact h
  | checked e permissive => cases e <;> simp only [threadStep] <;> (try split) <;> exact h
  | leave irp k x =>
    simp only [threadStep, (unlockFinish_keeps irp k d x).2]
    exact h
  | _ => exact h

/-- A section that leaves the window open found it open, and says so. -/
theorem section_open {now : SysTime} {w : Window} (h : (permissiveSection now w).2.gPermissive = true) :
    (permissiveSection now w).1 = true ∧ w.gPermissive = true := by
  rw [← lgIsPermissive_eq_section] at h ⊢
  refine ⟨?_, open_of_still_open h⟩
  by_contra hfalse
  rw [closed_of_false (Bool.eq_false_iff.2 hfalse)] at h
  cases h

/-- A guarded operation asks, and may be refused. -/
theorem guarded_asks {e : Event} (h : e.Guarded t) : e.asks t = true ∧ e.refusable t = true := by
  cases e with
  | ioctl code irp k => exact absurd h id
  | registry n now => exact ⟨writesProtected_iff.2 h, rfl⟩
  | create q p now =>
    refine ⟨?_, rfl⟩
    rw [Event.asks, Bool.and_eq_true, Bool.or_eq_true]
    exact h
  | setInformation klass q now =>
    refine ⟨?_, rfl⟩
    rw [Event.asks, Bool.and_eq_true]
    exact h
  | write q now => exact ⟨h, rfl⟩
  | process info now =>
    obtain ⟨i, path, rfl, hpath, hblocked⟩ := h
    simp only [Event.asks, Event.refusable, Option.bind_some, hpath, Option.isSome_some, Option.any_some, hblocked, and_self]
  | processHandle info now =>
    obtain ⟨hprocess, hkernel, hop, htarget, hrights⟩ := h
    simp [Event.asks, Event.refusable, hprocess, hkernel, hop, htarget, hrights]
  | filterUnload now => exact ⟨rfl, rfl⟩

theorem refused_not_letsThrough {e : Event} (h : e.Guarded t) : ¬ e.refused.LetsThrough := by
  cases e with
  | ioctl code irp k => exact absurd h id
  | process info now => exact fun hl => hl rfl
  | processHandle info now =>
    intro hl
    refine hl ?_
    simp [UInt32.and_assoc]
  | _ => simp [Event.refused, Answer.LetsThrough, statusSuccess, statusAccessDenied, statusFltDoNotDetach]

end

/-! ## What a run keeps -/

section
variable {ι : Type} {hmac : Hmac} {t : CaseTables} {op : ι → Event} {tr : List (ThreadTurn ι)} {c : ThreadConfig ι} {i : ι}

/-- A request to the device is not guarded. -/
theorem story_answer {r : Recovery} {a : Answer} (h : ∃ code irp k, op i = .ioctl code irp k) :
    Story hmac t op tr r i (.inr a) := by
  obtain ⟨code, irp, k, hop⟩ := h
  intro hg
  rw [hop] at hg
  exact absurd hg id

theorem story_request {r : Recovery} {code : ULONG} {irp : Irp} {k : Kernel} (hop : op i = .ioctl code irp k) :
    Story hmac t op tr r i (requestStart code irp k) := by
  unfold requestStart
  split
  · split
    · exact story_answer ⟨code, irp, k, hop⟩
    · exact ⟨code, irp, k, hop⟩
  split
  · rename_i hcode
    subst hcode
    split
    · exact story_answer ⟨_, irp, k, hop⟩
    · rename_i hlen
      exact ⟨hop, Nat.not_lt.1 hlen⟩
  split
  · exact ⟨code, irp, k, hop⟩
  split
  · split
    · exact story_answer ⟨code, irp, k, hop⟩
    · exact hop.symm
  · exact story_answer ⟨code, irp, k, hop⟩

theorem story_beforeCompare {r : Recovery} {irp : Irp} {k : Kernel} {found : Option (Bytes32 × SysTime)}
    (hop : op i = .ioctl lgIoctlUnlock irp k) (hlen : sizeofUnlockRequest ≤ irp.inputBufferLength)
    (htook : ∀ nonce issuedAt, found = some (nonce, issuedAt) → Took tr i irp k nonce issuedAt) :
    Story hmac t op tr r i (.inl (beforeCompare hmac irp k r.gVerifierLoaded found)) := by
  cases found with
  | none => exact ⟨hop, hlen, nofun⟩
  | some taken =>
    obtain ⟨nonce, issuedAt⟩ := taken
    simp only [beforeCompare, long64_sub]
    split
    · exact ⟨hop, hlen, nofun⟩
    rename_i hage
    split
    · exact ⟨hop, hlen, nofun⟩
    rename_i hloaded
    rcases lgHmacSha256_cases hmac k.checkHmac irp.unlockRequest.derivedKey.toList lgVerifierLabel with hkey | ⟨s, hkey, -⟩
    · rw [hkey]
      exact ⟨hop, hlen, by simpa using hloaded, rfl, issuedAt, htook nonce issuedAt rfl, by omega⟩
    · rw [hkey]
      exact ⟨hop, hlen, nofun⟩

/-- What a grant says of the comparison and the response. -/
theorem afterCompare_granted {irp : Irp} {k : Kernel} {nonce computed stored : Bytes32}
    (h : afterCompare hmac irp k nonce computed stored = .granted) :
    computed = stored ∧ irp.unlockRequest.response = hmac irp.unlockRequest.derivedKey.toList nonce.toList := by
  unfold afterCompare at h
  split at h
  · cases h
  rename_i hkey
  rcases lgHmacSha256_cases hmac k.responseHmac irp.unlockRequest.derivedKey.toList nonce.toList with hm | ⟨s, hm, -⟩
  · simp only [hm] at h
    split at h
    · cases h
    · rename_i hresponse
      exact ⟨by simpa using hkey, by simpa using hresponse⟩
  · simp only [hm] at h
    cases h

/-- **The call that takes the step**: what its next phase says of the past. -/
theorem story_step {p : ThreadPhase} (h : ThreadInv hmac t op tr c) (hp : c.phase i = .inl p) :
    Story hmac t op (tr ++ [⟨c, i⟩]) (threadStep hmac t p c.shared).2.recovery i (threadStep hmac t p c.shared).1 := by
  have hstory := h.story i
  rw [hp] at hstory
  have hat : AtPhase ⟨c, i⟩ p := hp
  cases p with
  | start e =>
    obtain rfl := hstory
    rcases (op i).ioctl_or_callback with ⟨code, irp, k, hop⟩ | hcallback
    · simp only [hop, threadStep]
      exact story_request hop
    · rw [threadStep_start hcallback]
      cases hasks : (op i).asks t with
      | true => exact rfl
      | false =>
        intro hg
        rw [(guarded_asks hg).1] at hasks
        cases hasks
  | check e =>
    simp only [threadStep]
    split
    · exact ⟨hstory, nofun⟩
    · exact hstory
  | lock e =>
    obtain rfl := hstory
    refine ⟨rfl, fun hopen => since_now ⟨rfl, hat, hopen, h.window ?_⟩⟩
    rw [← lgIsPermissive_eq_section, lgIsPermissive_iff] at hopen
    exact hopen.1
  | checked e permissive =>
    obtain ⟨rfl, hauthorised⟩ := hstory
    rcases (op i).ioctl_or_callback with ⟨code, irp, k, hop⟩ | hcallback
    · simp only [hop, threadStep]
      exact ⟨code, irp, k, hop⟩
    · rw [threadStep_checked hcallback]
      split
      · rename_i hor
        intro hg _
        rw [(guarded_asks hg).2, Bool.not_true, Bool.or_false] at hor
        exact (hauthorised hor).keep
      · exact fun hg hl => absurd hl (refused_not_letsThrough hg)
  | expires irp permissive => exact hstory
  | counted irp permissive expires => exact hstory
  | heartbeat irp permissive expires count => exact story_answer hstory
  | beat irp k => exact story_answer hstory
  | reload irp k p =>
    simp only [threadStep]
    split
    · exact hstory
    · split
      · exact story_answer hstory
      · exact hstory
  | issue irp nonce now => exact hstory
  | issued irp nonce => exact story_answer hstory
  | take irp k =>
    refine ⟨hstory.1, hstory.2, fun nonce issuedAt hfound => since_now ⟨rfl, hat, ?_⟩⟩
    obtain ⟨hvalid, rfl, rfl⟩ := nonceTake_some hfound
    exact h.nonce hvalid
  | taken irp k found =>
    obtain ⟨hop, hlen, htook⟩ := hstory
    exact story_beforeCompare hop hlen fun nonce issuedAt hfound => (htook nonce issuedAt hfound).keep
  | compare irp k nonce computed =>
    obtain ⟨hop, hlen, hloaded, rfl, issuedAt, htook, hage⟩ := hstory
    refine ⟨hop, hlen, fun hgranted => since_now ⟨rfl, nonce, issuedAt, _, hat, htook, hage, ?_⟩⟩
    obtain ⟨hstored, hresponse⟩ := afterCompare_granted hgranted
    exact ⟨loadedVerifier_eq_some.2 ⟨hloaded, hstored.symm⟩, hresponse⟩
  | leave irp k x => exact story_answer ⟨_, irp, k, hstory.1⟩

theorem threadInv_boot (hmac : Hmac) (t : CaseTables) (op : ι → Event) (boot : RecoveryReads) :
    ThreadInv hmac t op [] (init (threads hmac t) op (driverEntry boot)) where
  nonce h := by cases h
  window h := by cases h
  story _ := rfl

variable [DecidableEq ι]

theorem threadInv_step (h : ThreadInv hmac t op tr c) (i : ι) :
    ThreadInv hmac t op (tr ++ [⟨c, i⟩]) (advance (threads hmac t) op c i) := by
  cases hp : c.phase i with
  | inr r =>
    have hnone : ∀ p, ¬ AtPhase ⟨c, i⟩ p := fun p hat => by cases hp.symm.trans hat
    rw [advance_done hp]
    refine ⟨fun hvalid => (h.nonce hvalid).keep ?_, fun hopen => (h.window hopen).keep ?_, fun j => (h.story j).keep id⟩
    · rintro (⟨irp, nonce, now, hat⟩ | ⟨irp, k, hat⟩) <;> exact hnone _ hat
    · rintro ⟨e, hat, -⟩
      exact hnone _ hat
  | inl p =>
    have hsame : ∀ {p'}, AtPhase ⟨c, i⟩ p' → p = p' := fun hat => Sum.inl.inj (hp.symm.trans hat)
    rw [advance_running hp]
    refine ⟨fun hvalid => ?_, fun hopen => ?_, fun j => ?_⟩
    · simp only [threads] at hvalid ⊢
      rcases threadStep_nonce hmac t p c.shared with
        ⟨irp, nonce, now, rfl, hnonce⟩ | ⟨irp, k, rfl, hnonce⟩ | ⟨hissue, htake, hnonce⟩
      · rw [hnonce]
        exact since_now ⟨irp, hp⟩
      · rw [hnonce] at hvalid
        cases hslot : c.shared.nonce.gNonceValid <;> simp [nonceTake, hslot] at hvalid
      · rw [hnonce] at hvalid ⊢
        refine (h.nonce hvalid).keep ?_
        rintro (⟨irp, nonce, now, hat⟩ | ⟨irp, k, hat⟩)
        · exact hissue _ _ _ (hsame hat)
        · exact htake _ _ (hsame hat)
    · simp only [threads] at hopen
      rcases threadStep_window hmac t p c.shared with
        ⟨e, rfl, hwindow⟩ | ⟨irp, k, rfl, hwindow⟩ | ⟨hlock, hwindow⟩
      · rw [hwindow] at hopen
        obtain ⟨htrue, hwas⟩ := section_open hopen
        refine (h.window hwas).keep ?_
        rintro ⟨e', hat, hfalse⟩
        cases hsame hat
        cases htrue.symm.trans hfalse
      · have hstory := h.story i
        rw [hp] at hstory
        exact ⟨i, irp, k, hstory.1, hstory.2.1, since_now ⟨rfl, hp, hstory.2.2 rfl⟩⟩
      · rw [hwindow] at hopen
        refine (h.window hopen).keep ?_
        rintro ⟨e, hat, -⟩
        exact hlock e (hsame hat)
    · by_cases hji : j = i
      · subst hji
        simp only [Function.update_self]
        exact story_step h hp
      · simp only [Function.update_of_ne hji]
        exact (h.story j).keep (threadStep_loaded p)

theorem threadInv_run (hmac : Hmac) (t : CaseTables) (op : ι → Event) (boot : RecoveryReads) (sch : List ι) :
    ThreadInv hmac t op (trace (threads hmac t) op (driverEntry boot) sch)
      (after (threads hmac t) op (driverEntry boot) sch) :=
  inv _ (threadInv_boot hmac t op boot) (fun _ _ i h => threadInv_step h i) sch

/-- **The security theorem under every interleaving.** In every schedule of every set of calls, a guarded
operation that has gone ahead was told in a section of its own that the window is open, and the window was
entered before by an `UNLOCK` whose key was that of the verifier in force and whose response answered a
nonce at most 60 s old that it alone had taken; no section has answered FALSE in between. -/
theorem letThrough_authorised (hmac : Hmac) (t : CaseTables) (op : ι → Event) (boot : RecoveryReads) (sch : List ι) {i : ι}
    {a : Answer} (hdone : (after (threads hmac t) op (driverEntry boot) sch).phase i = .inr a)
    (hg : (op i).Guarded t) (hl : a.LetsThrough) :
    Authorised hmac op (trace (threads hmac t) op (driverEntry boot) sch) i := by
  have hstory := (threadInv_run hmac t op boot sch).story i
  rw [hdone] at hstory
  exact hstory hg hl

end

namespace Worked

/-- The three calls begin before any of them is done. -/
def overlap : List (Fin 3) := [0, 2, 0, 1, 0, 0, 1, 1, 1, 1, 2, 2, 2]

end Worked

theorem letThrough_authorised_unload : ∃ a, (after (threads Worked.hmac .ascii) Worked.overlapping (driverEntry Worked.reads)
      Worked.overlap).phase 2 = .inr a ∧ a.LetsThrough ∧ Authorised Worked.hmac Worked.overlapping
        (trace (threads Worked.hmac .ascii) Worked.overlapping (driverEntry Worked.reads) Worked.overlap) 2 := by
  have hthrough : (match (after (threads Worked.hmac .ascii) Worked.overlapping (driverEntry Worked.reads)
      Worked.overlap).phase 2 with | .inr a => decide a.LetsThrough | .inl _ => false) = true := by decide +kernel
  cases hphase : (after (threads Worked.hmac .ascii) Worked.overlapping (driverEntry Worked.reads) Worked.overlap).phase 2 with
  | inl p =>
    rw [hphase] at hthrough
    cases hthrough
  | inr a =>
    rw [hphase] at hthrough
    have hl : a.LetsThrough := of_decide_eq_true hthrough
    exact ⟨a, rfl, hl, letThrough_authorised Worked.hmac .ascii Worked.overlapping Worked.reads Worked.overlap hphase trivial hl⟩

end Lockguard
