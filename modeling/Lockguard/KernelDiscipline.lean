import Lockguard.KernelCalls
import Lockguard.Driver
/-!
# What the driver asks of the kernel, and what it gives back

Each routine of `KernelCalls` is proved against `contract`: from a machine with no lock held, at an IRQL
its callers respect, every call it makes is one it may make, the machine ends as it was but for the
driver's globals, and these and the answer are what the function of `Recovery`, `Ioctl` or one of the
callback modules gives for some answers of the kernel. So the state machine of `Driver` leaves no
execution out, and no execution leaves anything behind, but that a registry notification leaves a name.
-/
namespace Lockguard.Ke

open Calls Prog

section
variable (s : Machine) (o : Object) (d : Driver)

@[simp] theorem gets_irql : (s.gets o).irql = s.irql := rfl
@[simp] theorem gets_held : (s.gets o).held = s.held := rfl
@[simp] theorem gets_driver : (s.gets o).driver = s.driver := rfl
@[simp] theorem gets_head : (s.gets o).objects.head? = some o := rfl
@[simp] theorem givesBack_gets : (s.gets o).givesBack = s := rfl
@[simp] theorem gets_runs : (s.gets o).runs d = (s.runs d).gets o := rfl
@[simp] theorem hashes_gets (h : Nat) (key data more : Bytes) :
    (s.gets (.hash h key data)).hashes more = s.gets (.hash h key (data ++ more)) := rfl

@[simp] theorem runs_irql : (s.runs d).irql = s.irql := rfl
@[simp] theorem runs_held : (s.runs d).held = s.held := rfl
@[simp] theorem runs_objects : (s.runs d).objects = s.objects := rfl
@[simp] theorem runs_driver : (s.runs d).driver = d := rfl
@[simp] theorem runs_runs (d' : Driver) : (s.runs d).runs d' = s.runs d' := rfl
@[simp] theorem runs_self : s.runs s.driver = s := rfl

@[simp] theorem acquires_irql (lock : SpinLock) : (s.acquires lock).irql = dispatchLevel := rfl
@[simp] theorem acquires_held (lock : SpinLock) : (s.acquires lock).held = some (lock, s.irql) := rfl
@[simp] theorem acquires_driver (lock : SpinLock) : (s.acquires lock).driver = s.driver := rfl

end

/-- With no lock held, releasing a lock undoes its acquisition. -/
theorem releases_acquires {s : Machine} (h : s.held = none) (lock : SpinLock) (d : Driver) :
    ((s.acquires lock).runs d).releases s.irql = s.runs d := by
  simp only [Machine.acquires, Machine.releases, Machine.runs, ← h]

theorem handsOut_cases {s s' : Machine} {o : Nat → Object} {r : NTSTATUS × Nat} (h : handsOut s o r s') :
    (∃ status, ntSuccess status = false ∧ r = (status, 0) ∧ s' = s) ∨
      ∃ status x, ntSuccess status = true ∧ x ≠ 0 ∧ r = (status, x) ∧ s' = s.gets (o x) := by
  obtain ⟨status, x⟩ := r
  unfold handsOut at h
  split at h
  · rename_i hok
    exact Or.inr ⟨status, x, hok, h.1, rfl, h.2⟩
  · rename_i hfail
    obtain ⟨hx, rfl⟩ := h
    exact Or.inl ⟨status, Bool.eq_false_iff.2 hfail, by rw [← hx], rfl⟩

theorem handsOutName_cases {β : Type} {s s' : Machine} {o : Nat → Object} {r : NTSTATUS × Option (Nat × β)}
    (h : handsOutName s o r s') :
    (∃ status, r = (status, none) ∧ s' = s) ∨
      ∃ status x name, ntSuccess status = true ∧ r = (status, some (x, name)) ∧ s' = s.gets (o x) := by
  obtain ⟨status, found⟩ := r
  cases found with
  | none => exact Or.inl ⟨status, rfl, h⟩
  | some p => exact Or.inr ⟨status, p.1, p.2, h.1, rfl, h.2⟩

section
variable {hmac : Hmac} {t : CaseTables} {rules : Rules} {s : Machine} {α : Type} {Q : α → Machine → Prop}

/-- A call that its IRQL allows and that has what it needs, then the rest. -/
theorem wp_next {op : Call} {f : op.Ret → Routine α} (hirql : s.irql ≤ op.maxIrql rules) (hneeds : op.needs rules s)
    (hnext : ∀ r s', op.post hmac t s r s' → (f r).wp (contract hmac t rules) Q s') :
    (call op >>= f).wp (contract hmac t rules) Q s :=
  wp_call.2 ⟨⟨hirql, hneeds⟩, hnext⟩

/-- The same for a call that ends the routine. -/
theorem wp_last {op : Call} {Q : op.Ret → Machine → Prop} (hirql : s.irql ≤ op.maxIrql rules) (hneeds : op.needs rules s)
    (hpost : ∀ r s', op.post hmac t s r s' → Q r s') : (call op).wp (contract hmac t rules) Q s :=
  ⟨⟨hirql, hneeds⟩, hpost⟩

/-- What the driver prints without a `%ws`. -/
theorem dbgPrint_wp {m : Message} (hm : m.wide = false) (hirql : s.irql ≤ dispatchLevel) :
    (call (.dbgPrint m)).wp (contract hmac t rules) (fun _ s' => s' = s) s := by
  refine wp_last ?_ trivial fun _ _ hpost => hpost
  simpa [Call.maxIrql, hm] using hirql

/-! ## Locks and handles -/

@[simp] theorem ifHandle_null (close : Routine Unit) : ifHandle 0 close = pure () := rfl

theorem ifHandle_of_ne {x : Nat} (h : x ≠ 0) (close : Routine Unit) : ifHandle x close = close := if_pos h

/-- **The rule for a section under a lock.** It may be entered when no lock is held; the lock is
released at the IRQL it was taken at. -/
theorem underLock_wp {lock : SpinLock} {body : Routine α} (hirql : s.irql ≤ dispatchLevel) (hheld : s.held = none)
    (hbody : body.wp (contract hmac t rules)
      (fun a s' => ∃ d, s' = (s.acquires lock).runs d ∧ Q a (s.runs d)) (s.acquires lock)) :
    (underLock lock body).wp (contract hmac t rules) Q s := by
  refine wp_next hirql hheld ?_
  rintro irql _ ⟨rfl, rfl⟩
  refine wp_seq hbody ?_
  rintro a _ ⟨d, rfl, hq⟩
  refine wp_next (Nat.le_refl _) rfl ?_
  rintro ⟨⟩ _ rfl
  rw [wp_pure, releases_acquires hheld]
  exact hq

/-! ## Crypto -/

theorem hashAndFinish_wp (h : s.irql = passiveLevel) (hHash : Nat) (key data : Bytes) :
    (hashAndFinish hHash data).wp (contract hmac t rules)
      (fun r s' => (∃ fed, s' = s.gets (.hash hHash key fed)) ∧ ∃ hashData finishHash,
        r = (do checked hashData; checked finishHash; return hmac key data))
      (s.gets (.hash hHash key [])) := by
  have hpassive : ∀ {n}, s.irql ≤ n := by simp [h, passiveLevel]
  refine wp_next hpassive ⟨_, _, rfl⟩ fun status s1 hpost => ?_
  simp only [Call.post] at hpost
  split at hpost
  · rename_i hok
    subst hpost
    simp only [hok, Bool.not_true, Bool.false_eq_true, if_false, hashes_gets, List.nil_append]
    refine wp_next hpassive ⟨_, _, rfl⟩ ?_
    rintro ⟨finish, mac⟩ _ ⟨rfl, hmac'⟩
    refine ⟨⟨data, rfl⟩, status, finish, ?_⟩
    rw [checked_of_success hok]
    cases hfin : ntSuccess finish with
    | false =>
      simp only [hfin, checked]
      rfl
    | true =>
      have hvalue : mac = hmac key data := hmac' hfin hHash key data rfl
      simp only [checked_of_success hfin, hvalue, if_true]
      rfl
  · rename_i hfail
    obtain ⟨fed, rfl⟩ := hpost
    simp only [hfail, Bool.not_false, if_true, hashes_gets]
    refine ⟨⟨_, rfl⟩, status, status, ?_⟩
    simp only [checked, hfail]
    rfl

/-- **`LgHmacSha256` destroys and closes what it got**, on every way out. -/
theorem lgHmacSha256_wp (h : s.irql = passiveLevel) (key data : Bytes) :
    (lgHmacSha256 key data).wp (contract hmac t rules)
      (fun r s' => s' = s ∧ ∃ c, r = Lockguard.lgHmacSha256 hmac c key data) s := by
  have hpassive : ∀ {n}, s.irql ≤ n := by simp [h, passiveLevel]
  refine wp_next hpassive trivial fun r s1 hpost => ?_
  obtain ⟨sAlg, hfail, rfl, rfl⟩ | ⟨sAlg, hAlg, hok, hne, rfl, rfl⟩ := handsOut_cases hpost
  · simp only [hfail, Bool.not_false, if_true, wp_pure, true_and]
    refine ⟨⟨sAlg, sAlg, sAlg, sAlg⟩, ?_⟩
    simp only [Lockguard.lgHmacSha256, checked, hfail]
    rfl
  simp only [hok, Bool.not_true, Bool.false_eq_true, if_false]
  refine wp_next hpassive rfl fun r s1 hpost => ?_
  simp only [Call.post] at hpost
  have hclose : ∀ (r : Except NTSTATUS Bytes32), (∃ c, r = Lockguard.lgHmacSha256 hmac c key data) →
      (do ifHandle hAlg (call (.bCryptCloseAlgorithmProvider hAlg)); pure r : Routine (Except NTSTATUS Bytes32)).wp
        (contract hmac t rules) (fun r s' => s' = s ∧ ∃ c, r = Lockguard.lgHmacSha256 hmac c key data)
        (s.gets (.algorithm hAlg)) := by
    intro r hr
    rw [ifHandle_of_ne hne]
    refine wp_next hpassive rfl ?_
    rintro ⟨⟩ _ rfl
    exact ⟨rfl, hr⟩
  obtain ⟨sHash, hfail, rfl, rfl⟩ | ⟨sHash, hHash, hok', hne', rfl, rfl⟩ := handsOut_cases hpost
  · simp only [hfail, Bool.not_false, if_true]
    refine hclose _ ⟨⟨sAlg, sHash, sAlg, sAlg⟩, ?_⟩
    simp only [Lockguard.lgHmacSha256, checked, hok, hfail]
    rfl
  · simp only [hok', Bool.not_true, Bool.false_eq_true, if_false]
    refine wp_seq (hashAndFinish_wp (by exact h) hHash key data) ?_
    rintro r _ ⟨⟨fed, rfl⟩, hashData, finishHash, rfl⟩
    rw [ifHandle_of_ne hne']
    refine wp_next hpassive ⟨_, _, rfl⟩ ?_
    rintro ⟨⟩ _ rfl
    refine hclose _ ⟨⟨sAlg, sHash, hashData, finishHash⟩, ?_⟩
    simp only [Lockguard.lgHmacSha256, checked_of_success hok, checked_of_success hok']
    rfl

/-! ## The recovery verifier -/

/-- Answers where none is asked for. -/
def quietQuery : RegQuery := ⟨statusObjectNameNotFound, ⟨0, []⟩⟩

def quietReads : RecoveryReads := ⟨statusObjectNameNotFound, quietQuery, quietQuery, quietQuery⟩

def quietKernel : Kernel where
  irql := 0
  retryTime := .zero
  reads := quietReads
  random := ⟨statusSuccess, zero32⟩
  now := .zero
  checkHmac := ⟨statusSuccess, statusSuccess, statusSuccess, statusSuccess⟩
  responseHmac := ⟨statusSuccess, statusSuccess, statusSuccess, statusSuccess⟩
  windowTime := .zero

section
variable (s : Machine) (r r' : Recovery)

@[simp] theorem keeps_irql : (s.keeps r).irql = s.irql := by unfold Machine.keeps; rfl
@[simp] theorem keeps_objects : (s.keeps r).objects = s.objects := by unfold Machine.keeps; rfl
@[simp] theorem keeps_recovery : (s.keeps r).driver.recovery = r := by unfold Machine.keeps; rfl
@[simp] theorem keeps_held : (s.keeps r).held = s.held := by unfold Machine.keeps; rfl
@[simp] theorem keeps_driver : (s.keeps r).driver = { s.driver with recovery := r } := by unfold Machine.keeps; rfl
@[simp] theorem keeps_runs (d : Driver) : (s.keeps r).runs d = s.runs d := by unfold Machine.keeps; rfl
@[simp] theorem keeps_keeps : (s.keeps r).keeps r' = s.keeps r' := by unfold Machine.keeps; rfl
@[simp] theorem keeps_gets (o : Object) : (s.gets o).keeps r = (s.keeps r).gets o := by unfold Machine.keeps; rfl
@[simp] theorem keeps_self : s.keeps s.driver.recovery = s := by unfold Machine.keeps; rfl

end

theorem updateRecovery_wp (hirql : s.irql ≤ dispatchLevel) (f : Recovery → Recovery) :
    (updateRecovery f).wp (contract hmac t rules) (fun _ s' => s' = s.keeps (f s.driver.recovery)) s := by
  refine wp_next hirql trivial ?_
  rintro r s ⟨rfl, rfl⟩
  refine wp_last hirql trivial ?_
  rintro ⟨⟩ _ rfl
  rfl

theorem lgReadRegBytes_wp (hirql : s.irql = passiveLevel) {key : Nat} (hkey : s.objects.head? = some (.key key))
    (name : String) (bufLen : Nat) : (lgReadRegBytes key name bufLen).wp (contract hmac t rules)
      (fun r s' => s' = s ∧ ∃ q, Lockguard.lgReadRegBytes q bufLen = r) s := by
  refine wp_next (Nat.le_of_eq hirql) hkey ?_
  rintro q s rfl
  exact ⟨rfl, q, rfl⟩

theorem lgReadRegDword_wp (hirql : s.irql = passiveLevel) {key : Nat} (hkey : s.objects.head? = some (.key key))
    (name : String) : (lgReadRegDword key name).wp (contract hmac t rules)
      (fun r s' => s' = s ∧ ∃ q, Lockguard.lgReadRegDword q = r) s := by
  refine wp_next (Nat.le_of_eq hirql) hkey ?_
  rintro q s rfl
  exact ⟨rfl, q, rfl⟩

/-- The globals are written as the reads come in, and keep what was written when a later one fails. -/
theorem readRecord_wp (hirql : s.irql = passiveLevel) {key : Nat} (hkey : s.objects.head? = some (.key key)) :
    (readRecord key).wp (contract hmac t rules) (fun status s' => ∃ q₁ q₂ q₃ r, s' = s.keeps r ∧
      ∀ openKey, ntSuccess openKey = true →
        Lockguard.lgRecoveryLoadVerifier ⟨openKey, q₁, q₂, q₃⟩ s.driver.recovery = (status, r)) s := by
  have hlevel : s.irql ≤ dispatchLevel := by simp [hirql, passiveLevel]
  refine wp_seq (lgReadRegBytes_wp hirql hkey _ _) ?_
  rintro salt s ⟨rfl, q₁, hsalt⟩
  cases salt with
  | error st =>
    refine ⟨q₁, q₁, q₁, _, (keeps_self s).symm, fun openKey hopen => ?_⟩
    simp [Lockguard.lgRecoveryLoadVerifier, hopen, hsalt]
  | ok salt =>
    simp only
    refine wp_seq (updateRecovery_wp hlevel _) ?_
    rintro ⟨⟩ _ rfl
    refine wp_seq (lgReadRegDword_wp (by simpa using hirql) (by simpa using hkey) _) ?_
    rintro iterations _ ⟨rfl, q₂, hiter⟩
    cases iterations with
    | error st =>
      refine ⟨q₁, q₂, q₁, _, rfl, fun openKey hopen => ?_⟩
      simp [Lockguard.lgRecoveryLoadVerifier, hopen, hsalt, hiter]
    | ok iterations =>
      simp only
      refine wp_seq (updateRecovery_wp (by simpa using hlevel) _) ?_
      rintro ⟨⟩ _ rfl
      simp only [keeps_keeps, keeps_recovery]
      refine wp_seq (lgReadRegBytes_wp (by simpa using hirql) (by simpa using hkey) _ _) ?_
      rintro verifier _ ⟨rfl, q₃, hver⟩
      cases verifier with
      | error st =>
        refine ⟨q₁, q₂, q₃, _, rfl, fun openKey hopen => ?_⟩
        simp [Lockguard.lgRecoveryLoadVerifier, hopen, hsalt, hiter, hver]
      | ok verifier =>
        simp only
        refine wp_seq (updateRecovery_wp (by simpa using hlevel) _) ?_
        rintro ⟨⟩ _ rfl
        simp only [keeps_keeps, keeps_recovery]
        split
        · rename_i hlen
          refine ⟨q₁, q₂, q₃, _, rfl, fun openKey hopen => ?_⟩
          simp only [Lockguard.lgRecoveryLoadVerifier, hopen, hsalt, hiter, hver, Bool.not_true,
            Bool.false_eq_true, if_false]
          rw [if_pos hlen]
        · rename_i hlen
          refine wp_seq (updateRecovery_wp (by simpa using hlevel) _) ?_
          rintro ⟨⟩ _ rfl
          simp only [keeps_keeps, keeps_recovery]
          refine ⟨q₁, q₂, q₃, _, rfl, fun openKey hopen => ?_⟩
          simp only [Lockguard.lgRecoveryLoadVerifier, hopen, hsalt, hiter, hver, hlen, Bool.not_true,
            Bool.false_eq_true, if_false]

/-- **`LgRecoveryLoadVerifier` closes the key it opened**, on every way out. -/
theorem lgRecoveryLoadVerifier_wp (hirql : s.irql = passiveLevel) :
    lgRecoveryLoadVerifier.wp (contract hmac t rules) (fun status s' => ∃ k r, s' = s.keeps r ∧
      Lockguard.lgRecoveryLoadVerifier k s.driver.recovery = (status, r)) s := by
  have hlevel : ∀ {n}, s.irql ≤ n := by simp [hirql, passiveLevel]
  refine wp_next hlevel trivial fun r s1 hpost => ?_
  simp only [Call.post] at hpost
  obtain ⟨openKey, hfail, rfl, rfl⟩ | ⟨openKey, key, hok, hne, rfl, rfl⟩ := handsOut_cases hpost
  · simp only [hfail, Bool.not_false, if_true]
    refine wp_seq (dbgPrint_wp rfl hlevel) ?_
    rintro ⟨⟩ _ rfl
    refine ⟨⟨openKey, quietQuery, quietQuery, quietQuery⟩, _, (keeps_self _).symm, ?_⟩
    simp only [Lockguard.lgRecoveryLoadVerifier, hfail, Bool.not_false, if_true]
  · simp only [hok, Bool.not_true, Bool.false_eq_true, if_false]
    refine wp_seq (readRecord_wp (by simpa using hirql) rfl) ?_
    rintro status _ ⟨q₁, q₂, q₃, r, rfl, hload⟩
    rw [ifHandle_of_ne hne]
    refine wp_next (by simpa using hlevel) (by simp [Call.needs]) ?_
    rintro ⟨⟩ _ rfl
    refine ⟨⟨openKey, q₁, q₂, q₃⟩, r, ?_, hload _ hok⟩
    rw [keeps_gets, givesBack_gets]

/-- **`LgRecoveryTryReload` may be called at any IRQL the driver runs at.** -/
theorem lgRecoveryTryReload_wp (hirql : s.irql ≤ dispatchLevel) :
    lgRecoveryTryReload.wp (contract hmac t rules) (fun _ s' => ∃ irql now k,
      s' = s.keeps (Lockguard.lgRecoveryTryReload irql now k s.driver.recovery)) s := by
  refine wp_next hirql trivial ?_
  rintro r s ⟨rfl, rfl⟩
  split
  · rename_i hloaded
    refine ⟨0, .zero, quietReads, ?_⟩
    rw [tryReload_loaded hloaded, keeps_self]
  rename_i hloaded
  refine wp_next hirql trivial ?_
  rintro irql s ⟨rfl, rfl⟩
  split
  · rename_i hhigh
    refine ⟨s.irql, .zero, quietReads, ?_⟩
    rw [Lockguard.lgRecoveryTryReload, if_neg hloaded, if_pos (show s.irql > 0 from hhigh), keeps_self]
  rename_i hhigh
  have hlow : ¬ s.irql > 0 := hhigh
  refine wp_next hirql trivial ?_
  rintro now s rfl
  refine wp_next hirql trivial ?_
  rintro r s ⟨rfl, rfl⟩
  simp only
  split
  · rename_i hsoon
    refine ⟨s.irql, now, quietReads, ?_⟩
    rw [Lockguard.lgRecoveryTryReload, if_neg hloaded, if_neg hlow]
    simp only [if_pos hsoon, keeps_self]
  rename_i hsoon
  refine wp_next hirql trivial ?_
  rintro found _ ⟨rfl, rfl⟩
  simp only [ne_eq, not_true_eq_false, if_false, if_true]
  refine wp_seq (lgRecoveryLoadVerifier_wp (by rw [keeps_irql]; exact Nat.eq_zero_of_not_pos hlow)) ?_
  rintro status _ ⟨k, r, rfl, hload⟩
  refine wp_mono (dbgPrint_wp (by split <;> rfl) (by simpa using hirql)) ?_
  rintro ⟨⟩ _ rfl
  refine ⟨s.irql, now, k, ?_⟩
  rw [Lockguard.lgRecoveryTryReload, if_neg hloaded, if_neg hlow]
  rw [keeps_recovery] at hload
  simp only [if_neg hsoon, hload, keeps_keeps]

theorem lgRecoveryCheckKey_wp (hirql : s.irql = passiveLevel) (derivedKey : Bytes32) :
    (lgRecoveryCheckKey derivedKey).wp (contract hmac t rules) (fun r s' => s' = s ∧
      ∃ c, r = Lockguard.lgRecoveryCheckKey hmac s.driver.recovery c derivedKey) s := by
  have hlevel : ∀ {n}, s.irql ≤ n := by simp [hirql, passiveLevel]
  refine wp_next hlevel trivial ?_
  rintro r s ⟨rfl, rfl⟩
  split
  · rename_i hunloaded
    refine ⟨rfl, quietKernel.checkHmac, ?_⟩
    rw [Lockguard.lgRecoveryCheckKey, if_pos hunloaded]
  rename_i hloaded
  refine wp_seq (lgHmacSha256_wp hirql _ _) ?_
  rintro computed s ⟨rfl, c, rfl⟩
  cases hmac' : Lockguard.lgHmacSha256 hmac c derivedKey.toList lgVerifierLabel with
  | error st =>
    refine ⟨rfl, c, ?_⟩
    rw [Lockguard.lgRecoveryCheckKey, if_neg hloaded, hmac']
    rfl
  | ok computed =>
    refine wp_next hlevel trivial ?_
    rintro r s ⟨rfl, rfl⟩
    refine ⟨rfl, c, ?_⟩
    rw [Lockguard.lgRecoveryCheckKey, if_neg hloaded, hmac']
    rfl

/-! ## The permissive window and the counters -/

theorem lgEnterPermissiveWindow_wp (hirql : s.irql ≤ dispatchLevel) (hheld : s.held = none) :
    lgEnterPermissiveWindow.wp (contract hmac t rules) (fun _ s' => ∃ now,
      s' = s.runs { s.driver with window := Lockguard.lgEnterPermissiveWindow now s.driver.window }) s := by
  refine wp_next hirql trivial ?_
  rintro now s rfl
  refine wp_seq (Q := fun _ s' => s' = s.runs { s.driver with window := Lockguard.lgEnterPermissiveWindow now s.driver.window })
    (underLock_wp hirql hheld (wp_next (Nat.le_refl _) trivial ?_)) ?_
  · rintro w _ ⟨rfl, rfl⟩
    refine wp_last (Nat.le_refl _) ⟨_, rfl⟩ ?_
    rintro ⟨⟩ _ rfl
    exact ⟨_, rfl, rfl⟩
  · rintro ⟨⟩ _ rfl
    refine wp_mono (dbgPrint_wp rfl (by simpa using hirql)) ?_
    rintro ⟨⟩ _ rfl
    exact ⟨now, rfl⟩

/-- The answer of `LgIsPermissive`, and the window it leaves. -/
theorem lgIsPermissive_wp (hirql : s.irql ≤ dispatchLevel) (hheld : s.held = none) :
    lgIsPermissive.wp (contract hmac t rules) (fun r s' => ∃ now, r = (Lockguard.lgIsPermissive now s.driver.window).1 ∧
      s' = s.runs (s.driver.asked now)) s := by
  refine wp_next hirql trivial ?_
  rintro w s ⟨rfl, rfl⟩
  split
  · rename_i hclosed
    have hclosed : s.driver.window.gPermissive = false := by simpa using hclosed
    refine ⟨.zero, by rw [lgIsPermissive_closed hclosed], ?_⟩
    rw [Driver.asked, lgIsPermissive_closed hclosed]
    rfl
  refine wp_next hirql trivial ?_
  rintro now s rfl
  refine underLock_wp hirql hheld (wp_next (Nat.le_refl _) trivial ?_)
  rintro w _ ⟨rfl, rfl⟩
  refine wp_next (Nat.le_refl _) ⟨_, rfl⟩ ?_
  rintro ⟨⟩ _ rfl
  refine ⟨_, rfl, now, ?_⟩
  rw [lgIsPermissive_eq_section, Driver.asked, lgIsPermissive_eq_section]
  exact ⟨rfl, rfl⟩

theorem lgRecordTamperEvent_wp (hirql : s.irql ≤ dispatchLevel) (htext : s.irql ≤ rules.text) (reason : List WCHAR) :
    (lgRecordTamperEvent reason).wp (contract hmac t rules)
      (fun _ s' => s' = s.runs (Lockguard.lgRecordTamperEvent s.driver)) s := by
  refine wp_next hirql trivial ?_
  rintro ⟨⟩ _ rfl
  refine wp_next hirql trivial ?_
  rintro counters _ ⟨rfl, rfl⟩
  exact wp_last (by simpa [Call.maxIrql, Message.wide] using htext) trivial fun _ _ hpost => hpost

/-- A refusal, recorded. -/
theorem tampered_wp (hirql : s.irql ≤ dispatchLevel) (htext : s.irql ≤ rules.text) (reason : List WCHAR) (a : α)
    (hq : Q a (s.runs (Lockguard.lgRecordTamperEvent s.driver))) :
    (do lgRecordTamperEvent reason; pure a).wp (contract hmac t rules) Q s := by
  refine wp_seq (lgRecordTamperEvent_wp hirql htext reason) ?_
  rintro ⟨⟩ _ rfl
  exact hq

theorem unlessPermissive_wp (hirql : s.irql ≤ dispatchLevel) (htext : s.irql ≤ rules.text) (hheld : s.held = none)
    (reason : List WCHAR) (ok denied : α) :
    (unlessPermissive reason ok denied).wp (contract hmac t rules) (fun r s' => ∃ now,
      r = (Lockguard.unlessPermissive now ok denied s.driver).value ∧
        s' = s.runs (Lockguard.unlessPermissive now ok denied s.driver).driver) s := by
  refine wp_seq (lgIsPermissive_wp hirql hheld) ?_
  rintro permissive _ ⟨now, hanswer, rfl⟩
  cases permissive with
  | true =>
    refine ⟨now, ?_⟩
    simp only [Lockguard.unlessPermissive, ← hanswer, if_true]
    exact ⟨trivial, rfl⟩
  | false =>
    simp only [Bool.false_eq_true, if_false]
    refine tampered_wp (by simpa using hirql) (by simpa using htext) reason _ ?_
    refine ⟨now, ?_⟩
    simp only [Lockguard.unlessPermissive, ← hanswer, Bool.false_eq_true, if_false]
    exact ⟨trivial, rfl⟩

/-! ## The recovery channel -/

/-- What a handler does to the machine, by its function of `Ioctl`. -/
def Answered (s : Machine) (f : Kernel → Driver → Reply α) (r : α) (s' : Machine) : Prop :=
  ∃ k, r = (f k s.driver).value ∧ s' = s.runs (f k s.driver).driver

/-- A section that takes the pending nonce's slot from one state to another. -/
theorem nonceSection_wp (hirql : s.irql ≤ dispatchLevel) (hheld : s.held = none) (f : NonceSlot → α)
    (g : NonceSlot → NonceSlot) :
    (underLock .gNonceLock do
      let slot ← call .readNonce
      call (.writeNonce (g slot))
      pure (f slot)).wp (contract hmac t rules)
      (fun a s' => a = f s.driver.nonce ∧ s' = s.runs { s.driver with nonce := g s.driver.nonce }) s := by
  refine underLock_wp hirql hheld (wp_next (Nat.le_refl _) ⟨_, rfl⟩ ?_)
  rintro slot _ ⟨rfl, rfl⟩
  refine wp_next (Nat.le_refl _) ⟨_, rfl⟩ ?_
  rintro ⟨⟩ _ rfl
  exact ⟨_, rfl, rfl, rfl⟩

theorem lgHandleGetNonce_wp (hirql : s.irql = passiveLevel) (hheld : s.held = none) (irp : Irp) :
    (lgHandleGetNonce irp).wp (contract hmac t rules) (Answered s (Lockguard.lgHandleGetNonce irp)) s := by
  have hlevel : ∀ {n}, s.irql ≤ n := by simp [hirql, passiveLevel]
  unfold lgHandleGetNonce
  split
  · rename_i hshort
    refine ⟨quietKernel, ?_⟩
    simp only [Lockguard.lgHandleGetNonce, getNoncePrepare, if_pos hshort]
    exact ⟨trivial, rfl⟩
  rename_i hlong
  refine wp_seq (lgRecoveryTryReload_wp hlevel) ?_
  rintro ⟨⟩ _ ⟨irql, retryTime, reads, rfl⟩
  refine wp_next (by simpa using hlevel) trivial ?_
  rintro random _ rfl
  cases hok : ntSuccess random.status with
  | false =>
    refine ⟨{ quietKernel with irql := irql, retryTime := retryTime, reads := reads, random := random }, ?_⟩
    have hrandom : lgGenerateRandom random = .error random.status := by
      simp only [lgGenerateRandom, checked, hok]
      rfl
    simp only [Lockguard.lgHandleGetNonce, getNoncePrepare, if_neg hlong, hrandom]
    exact ⟨trivial, by unfold Machine.keeps; rfl⟩
  | true =>
    simp only [Bool.not_true, Bool.false_eq_true, if_false]
    refine wp_next (by simpa using hlevel) trivial ?_
    rintro now _ rfl
    refine wp_seq (nonceSection_wp (by simpa using hlevel) (by simpa using hheld) _ _) ?_
    rintro _ _ ⟨-, rfl⟩
    refine ⟨{ quietKernel with irql := irql, retryTime := retryTime, reads := reads, random := random, now := now }, ?_⟩
    have hrandom : lgGenerateRandom random = .ok random.bytes := by
      simp only [lgGenerateRandom, checked_of_success hok]
      rfl
    simp only [Lockguard.lgHandleGetNonce, getNoncePrepare, if_neg hlong, hrandom, keeps_driver, keeps_runs]
    exact ⟨trivial, trivial⟩

theorem lgHandleUnlock_wp (hirql : s.irql = passiveLevel) (hheld : s.held = none) (irp : Irp) :
    (lgHandleUnlock irp).wp (contract hmac t rules) (Answered s (Lockguard.lgHandleUnlock hmac irp)) s := by
  have hlevel : ∀ {n}, s.irql ≤ n := by simp [hirql, passiveLevel]
  unfold lgHandleUnlock
  split
  · rename_i hshort
    refine ⟨quietKernel, ?_⟩
    simp only [Lockguard.lgHandleUnlock, if_pos hshort]
    exact ⟨trivial, rfl⟩
  rename_i hlong
  -- past the length check the pure handler is its section, its judgement and its way out
  have hpure : ∀ k, Lockguard.lgHandleUnlock hmac irp k s.driver = unlockFinish irp k
      { s.driver with nonce := (nonceTake s.driver.nonce).2 }
      (unlockExit hmac (nonceTake s.driver.nonce).1 s.driver.recovery irp.unlockRequest k) :=
    fun k => lgHandleUnlock_long (Nat.le_of_not_lt hlong) hmac k s.driver
  refine wp_seq (nonceSection_wp hlevel hheld _ _) ?_
  rintro taken _ ⟨rfl, rfl⟩
  have hexit : ∀ k x, unlockExit hmac (nonceTake s.driver.nonce).1 s.driver.recovery irp.unlockRequest k = x →
      ∀ r s', r = (unlockFinish irp k { s.driver with nonce := (nonceTake s.driver.nonce).2 } x).value →
        s' = s.runs (unlockFinish irp k { s.driver with nonce := (nonceTake s.driver.nonce).2 } x).driver →
        Answered s (Lockguard.lgHandleUnlock hmac irp) r s' := by
    rintro k _ rfl r s' hr hs'
    refine ⟨k, ?_⟩
    rw [hpure k]
    exact ⟨hr, hs'⟩
  cases htaken : (nonceTake s.driver.nonce).1 with
  | none =>
    refine tampered_wp (by simpa using hlevel) (by simpa using hlevel) _ _ (hexit quietKernel .noNonce ?_ _ _ rfl rfl)
    rw [htaken]
    rfl
  | some p =>
    obtain ⟨nonce, issuedAt⟩ := p
    simp only
    refine wp_next (by simpa using hlevel) trivial ?_
    rintro now _ rfl
    split
    · rename_i hstale
      refine tampered_wp (by simpa using hlevel) (by simpa using hlevel) _ _ (hexit { quietKernel with now := now } .staleNonce ?_ _ _ rfl rfl)
      rw [htaken]
      simp only [unlockExit, if_pos hstale]
    rename_i hfresh
    refine wp_seq (lgRecoveryCheckKey_wp (by simpa using hirql) _) ?_
    rintro status _ ⟨rfl, c₁, rfl⟩
    simp only [runs_driver]
    cases hkey : Lockguard.lgRecoveryCheckKey hmac s.driver.recovery c₁ irp.unlockRequest.derivedKey with
    | error st =>
      refine tampered_wp (by simpa using hlevel) (by simpa using hlevel) _ _
        (hexit { quietKernel with now := now, checkHmac := c₁ } .wrongKey ?_ _ _ rfl rfl)
      simp only [htaken, unlockExit, if_neg hfresh, hkey]
    | ok u =>
      simp only
      refine wp_seq (lgHmacSha256_wp (by simpa using hirql) _ _) ?_
      rintro expected _ ⟨rfl, c₂, rfl⟩
      cases hresponse : Lockguard.lgHmacSha256 hmac c₂ irp.unlockRequest.derivedKey.toList nonce.toList with
      | error st =>
        simp only [wp_pure]
        refine hexit { quietKernel with now := now, checkHmac := c₁, responseHmac := c₂ } (.hmacFailed st) ?_ _ _ rfl rfl
        simp only [htaken, unlockExit, if_neg hfresh, hkey, hresponse]
      | ok expected =>
        simp only
        cases heq : lgConstantTimeEqual irp.unlockRequest.response expected with
        | false =>
          simp only [Bool.not_false, if_true]
          refine tampered_wp (by simpa using hlevel) (by simpa using hlevel) _ _
            (hexit { quietKernel with now := now, checkHmac := c₁, responseHmac := c₂ } .mismatch ?_ _ _ rfl rfl)
          simp only [htaken, unlockExit, if_neg hfresh, hkey, hresponse, heq, Bool.not_false, if_true]
        | true =>
          simp only [Bool.not_true, Bool.false_eq_true, if_false]
          refine wp_seq (lgEnterPermissiveWindow_wp (by simpa using hlevel) (by simpa using hheld)) ?_
          rintro ⟨⟩ _ ⟨windowTime, rfl⟩
          refine hexit { quietKernel with now := now, checkHmac := c₁, responseHmac := c₂, windowTime := windowTime }
            .granted ?_ _ _ rfl rfl
          simp only [htaken, unlockExit, if_neg hfresh, hkey, hresponse, heq, Bool.not_true, Bool.false_eq_true, if_false]

theorem lgHandleHeartbeat_wp (hirql : s.irql ≤ dispatchLevel) (irp : Irp) :
    (lgHandleHeartbeat irp).wp (contract hmac t rules) (Answered s (Lockguard.lgHandleHeartbeat irp)) s := by
  rw [lgHandleHeartbeat, lgRecordHeartbeat, wp_bind]
  refine wp_next hirql trivial ?_
  rintro now s rfl
  refine wp_last hirql trivial ?_
  rintro ⟨⟩ _ rfl
  exact ⟨{ quietKernel with now := now }, rfl, rfl⟩

theorem lgHandleStatus_wp (hirql : s.irql ≤ dispatchLevel) (hheld : s.held = none) (irp : Irp) :
    (lgHandleStatus irp).wp (contract hmac t rules) (Answered s (Lockguard.lgHandleStatus irp)) s := by
  unfold lgHandleStatus
  split
  · rename_i hshort
    refine ⟨quietKernel, ?_⟩
    simp only [Lockguard.lgHandleStatus, if_pos hshort]
    exact ⟨trivial, rfl⟩
  rename_i hlong
  refine wp_seq (lgIsPermissive_wp hirql hheld) ?_
  rintro permissive _ ⟨now, rfl, rfl⟩
  refine wp_next hirql trivial ?_
  rintro w _ ⟨rfl, rfl⟩
  refine wp_next hirql trivial ?_
  rintro counters _ ⟨rfl, rfl⟩
  refine ⟨{ quietKernel with now := now }, ?_⟩
  simp only [Lockguard.lgHandleStatus, if_neg hlong]
  exact ⟨rfl, rfl⟩

/-- **Each request is completed once**, whatever its code. -/
theorem lgDispatchDeviceControl_wp (hirql : s.irql = passiveLevel) (hheld : s.held = none) (code : ULONG) (irp : Irp) :
    (lgDispatchDeviceControl code irp).wp (contract hmac t rules)
      (Answered s (Lockguard.lgDispatchDeviceControl hmac code irp)) (s.gets .irp) := by
  have hlevel : ∀ {n}, s.irql ≤ n := by simp [hirql, passiveLevel]
  have hcomplete : ∀ (r : NTSTATUS × Irp) (s' : Machine),
      Answered (s.gets .irp) (Lockguard.lgDispatchDeviceControl hmac code irp) r s' →
        (do call .ioCompleteRequest; pure r : Routine (NTSTATUS × Irp)).wp (contract hmac t rules)
          (Answered s (Lockguard.lgDispatchDeviceControl hmac code irp)) s' := by
    rintro r _ ⟨k, rfl, rfl⟩
    refine wp_next (by simpa using hlevel) rfl ?_
    rintro ⟨⟩ _ rfl
    exact ⟨k, rfl, rfl⟩
  refine wp_seq (Q := Answered (s.gets .irp) (Lockguard.lgDispatchDeviceControl hmac code irp)) ?_ hcomplete
  -- the switch is on the code, in both
  unfold Lockguard.lgDispatchDeviceControl
  split
  · exact lgHandleGetNonce_wp (by simpa using hirql) (by simpa using hheld) irp
  split
  · exact lgHandleUnlock_wp (by simpa using hirql) (by simpa using hheld) irp
  split
  · exact lgHandleHeartbeat_wp (by simpa using hlevel) irp
  split
  · exact lgHandleStatus_wp (by simpa using hlevel) (by simpa using hheld) irp
  · exact ⟨quietKernel, rfl, rfl⟩

theorem lgDispatchCreateClose_wp (hirql : s.irql ≤ dispatchLevel) :
    lgDispatchCreateClose.wp (contract hmac t rules) (fun r s' => r = statusSuccess ∧ s' = s) (s.gets .irp) := by
  refine wp_next hirql rfl ?_
  rintro ⟨⟩ _ rfl
  exact ⟨rfl, rfl⟩

/-! ## The callbacks -/

theorem windowEquals_wp (htext : s.irql ≤ rules.text) (window : Option UnicodeString) (needle : UnicodeString) :
    (windowEquals window needle).wp (contract hmac t rules)
      (fun r s' => s' = s ∧ r = window.any fun window => rtlEqualUnicodeString t window needle) s := by
  cases window with
  | none => exact ⟨rfl, rfl⟩
  | some window => exact wp_last htext trivial fun _ _ hpost => ⟨hpost.2, hpost.1⟩

theorem scanWindows_wp (htext : s.irql ≤ rules.text) (name needle : UnicodeString) (lastStart : UInt16) (rounds : Nat)
    (off : UInt16) : (scanWindows name needle lastStart rounds off).wp (contract hmac t rules)
      (fun r s' => s' = s ∧ r = (Lockguard.scanWindows t name needle lastStart rounds off == some true)) s := by
  induction rounds generalizing off with
  | zero => exact ⟨rfl, rfl⟩
  | succ rounds ih =>
    unfold scanWindows Lockguard.scanWindows
    by_cases hlast : off ≤ lastStart
    · rw [if_pos hlast, if_pos hlast]
      refine wp_seq (windowEquals_wp htext _ _) ?_
      rintro hit s ⟨rfl, hhit⟩
      rw [← hhit]
      cases hit with
      | true => exact ⟨rfl, rfl⟩
      | false => exact ih (off + 1)
    · rw [if_neg hlast, if_neg hlast]
      exact ⟨rfl, rfl⟩

theorem nameContains_wp (htext : s.irql ≤ rules.text) (name needle : UnicodeString) :
    (nameContains name needle).wp (contract hmac t rules)
      (fun r s' => s' = s ∧ r = Lockguard.nameContains t name needle) s := by
  unfold nameContains Lockguard.nameContains
  by_cases hshort : name.length < needle.length
  · rw [if_pos hshort, if_pos hshort]
    exact ⟨rfl, rfl⟩
  · rw [if_neg hshort, if_neg hshort]
    exact scanWindows_wp htext _ _ _ _ _

/-- **`LgPathMatches` releases the name it got.** -/
theorem lgPathMatches_wp (hirql : s.irql ≤ apcLevel) (htext : s.irql ≤ rules.text) :
    lgPathMatches.wp (contract hmac t rules) (fun r s' => s' = s ∧ ∃ q, r = Lockguard.lgPathMatches t q) s := by
  refine wp_next hirql trivial fun r s1 hpost => ?_
  simp only [Call.post] at hpost
  obtain ⟨status, rfl, rfl⟩ | ⟨status, nameInfo, name, hok, rfl, rfl⟩ := handsOutName_cases hpost
  · split
    · rename_i hfail
      exact ⟨rfl, ⟨status, none⟩, by rw [Lockguard.lgPathMatches, if_pos hfail]⟩
    · rename_i hok
      exact ⟨rfl, ⟨status, none⟩, by rw [Lockguard.lgPathMatches, if_neg hok]⟩
  · simp only [hok, Bool.not_true, Bool.false_eq_true, if_false]
    refine wp_next hirql rfl ?_
    rintro ⟨⟩ _ rfl
    have htext' : (s.gets (.fileName nameInfo)).irql ≤ rules.text := by simpa using htext
    refine wp_seq (anyM_wp fun suffix _ => nameContains_wp htext' name (rtlInitUnicodeString suffix)) ?_
    rintro hit _ ⟨rfl, rfl⟩
    refine wp_next hirql rfl ?_
    rintro ⟨⟩ _ rfl
    refine ⟨rfl, ⟨status, some name⟩, ?_⟩
    rw [Lockguard.lgPathMatches, if_neg (by simp [hok])]

/-- What a callback does to the machine, by its function, which is told a file's name and the time. -/
theorem guardFile_wp (hirql : s.irql ≤ apcLevel) (htext : s.irql ≤ rules.text) (hheld : s.held = none)
    (reason : List WCHAR) :
    (guardFile reason).wp (contract hmac t rules) (fun r s' => ∃ q now, r = (Lockguard.guardFile t q now s.driver).value ∧
      s' = s.runs (Lockguard.guardFile t q now s.driver).driver) s := by
  refine wp_seq (lgPathMatches_wp hirql htext) ?_
  rintro hit s ⟨rfl, q, rfl⟩
  split
  · rename_i hmiss
    refine ⟨q, .zero, ?_⟩
    simp only [Lockguard.guardFile, if_pos hmiss]
    exact ⟨trivial, rfl⟩
  · rename_i hhit
    refine wp_mono (unlessPermissive_wp (Nat.le_trans hirql (by decide)) htext hheld _ _ _) ?_
    rintro r s' ⟨now, hr, hs⟩
    refine ⟨q, now, ?_⟩
    simp only [Lockguard.guardFile, if_neg hhit]
    exact ⟨hr, hs⟩

/-- **`LgPidIsProtected` frees the name and lets the process go.** -/
theorem lgPidIsProtected_wp (hirql : s.irql = passiveLevel) (t : CaseTables) :
    (lgPidIsProtected t).wp (contract hmac t rules) (fun r s' => s' = s ∧ ∃ p, r = Lockguard.lgPidIsProtected t p) s := by
  have hlevel : ∀ {n}, s.irql ≤ n := by simp [hirql, passiveLevel]
  refine wp_next hlevel trivial fun r s1 hpost => ?_
  simp only [Call.post] at hpost
  obtain ⟨lookup, hfail, rfl, rfl⟩ | ⟨lookup, proc, hok, hne, rfl, rfl⟩ := handsOut_cases hpost
  · simp only [hfail, Bool.not_false, if_true]
    exact ⟨rfl, ⟨lookup, lookup, none⟩, by simp [Lockguard.lgPidIsProtected, hfail]⟩
  simp only [hok, Bool.not_true, Bool.false_eq_true, if_false]
  have hrelease : ∀ b : Bool, (∃ p, b = Lockguard.lgPidIsProtected t p) →
      (do call (.obDereferenceObject proc); pure b : Routine Bool).wp (contract hmac t rules)
        (fun r s' => s' = s ∧ ∃ p, r = Lockguard.lgPidIsProtected t p) (s.gets (.process proc)) := by
    intro b hb
    refine wp_next hlevel rfl ?_
    rintro ⟨⟩ _ rfl
    exact ⟨rfl, hb⟩
  refine wp_next hlevel rfl fun r s1 hpost => ?_
  simp only [Call.post] at hpost
  obtain ⟨locate, rfl, rfl⟩ | ⟨locate, imgName, name, hok', rfl, rfl⟩ := handsOutName_cases hpost
  · refine wp_seq (Q := fun b s' => s' = s.gets (.process proc) ∧ b = false) ?_ ?_
    · split <;> exact ⟨rfl, rfl⟩
    · rintro b _ ⟨rfl, rfl⟩
      exact hrelease false ⟨⟨lookup, locate, none⟩, by simp [Lockguard.lgPidIsProtected]⟩
  · simp only [hok', Bool.not_true, Bool.false_eq_true, if_false, wp_bind]
    refine wp_next hlevel rfl ?_
    rintro ⟨⟩ _ rfl
    exact hrelease _ ⟨⟨lookup, locate, some name⟩, rfl⟩

theorem lgProcessNotifyEx_wp (hirql : s.irql = passiveLevel) (hheld : s.held = none) (t : CaseTables)
    (info : Option CreateNotifyInfo) :
    (lgProcessNotifyEx t info).wp (contract hmac t rules) (fun r s' => ∃ now,
      r = (Lockguard.lgProcessNotifyEx t info now s.driver).value ∧
        s' = s.runs (Lockguard.lgProcessNotifyEx t info now s.driver).driver) s := by
  have hlevel : ∀ {n}, s.irql ≤ n := by simp [hirql, passiveLevel]
  cases info with
  | none => exact ⟨.zero, rfl, rfl⟩
  | some info =>
    obtain ⟨imageFileName, creationStatus⟩ := info
    cases imageFileName with
    | none => exact ⟨.zero, rfl, rfl⟩
    | some path =>
      refine wp_seq (lgIsPermissive_wp hlevel hheld) ?_
      rintro permissive _ ⟨now, hanswer, rfl⟩
      cases permissive with
      | true =>
        refine ⟨now, ?_⟩
        simp only [Lockguard.lgProcessNotifyEx, ← hanswer, if_true]
        exact ⟨trivial, rfl⟩
      | false =>
        simp only [Bool.false_eq_true, if_false]
        cases hbase : lgBasename path with
        | none =>
          have hblocked : imageBlocked t path = false := by rw [imageBlocked, hbase]
          refine ⟨now, ?_⟩
          simp only [Lockguard.lgProcessNotifyEx, ← hanswer, hblocked, Bool.false_eq_true, if_false]
          exact ⟨trivial, rfl⟩
        | some base =>
          have hblocked : imageBlocked t path =
              lgIsBlocked t (path.buffer.drop base) (UInt16.ofNat (path.length.toNat / 2 - base)) := by
            rw [imageBlocked, hbase]
          simp only [← hblocked]
          cases himage : imageBlocked t path with
          | true =>
            refine tampered_wp (by simpa using hlevel) (by simpa using hlevel) _ _ ⟨now, ?_⟩
            simp only [Lockguard.lgProcessNotifyEx, ← hanswer, himage, Bool.false_eq_true, if_false, if_true]
            exact ⟨trivial, rfl⟩
          | false =>
            refine ⟨now, ?_⟩
            simp only [Lockguard.lgProcessNotifyEx, ← hanswer, himage, Bool.false_eq_true, if_false]
            exact ⟨trivial, rfl⟩

theorem lgPreProcessHandle_wp (hirql : s.irql = passiveLevel) (hheld : s.held = none) (t : CaseTables)
    (isProcess kernelHandle : Bool) (operation : ObOperation) (desiredAccess : ACCESS_MASK) :
    (lgPreProcessHandle t isProcess kernelHandle operation desiredAccess).wp (contract hmac t rules) (fun r s' => ∃ target now,
      r = (Lockguard.lgPreProcessHandle t ⟨isProcess, kernelHandle, operation, target, desiredAccess⟩ now s.driver).value ∧
        s' = s.runs (Lockguard.lgPreProcessHandle t
          ⟨isProcess, kernelHandle, operation, target, desiredAccess⟩ now s.driver).driver) s := by
  have hlevel : ∀ {n}, s.irql ≤ n := by simp [hirql, passiveLevel]
  have hnobody : ProcessLookup := ⟨statusNotFound, statusNotFound, none⟩
  unfold lgPreProcessHandle
  split
  · rename_i hprocess
    refine ⟨hnobody, .zero, ?_⟩
    simp only [Lockguard.lgPreProcessHandle, if_pos hprocess]
    exact ⟨trivial, rfl⟩
  rename_i hprocess
  split
  · rename_i hkernel
    refine ⟨hnobody, .zero, ?_⟩
    simp only [Lockguard.lgPreProcessHandle, if_neg hprocess, if_pos hkernel]
    exact ⟨trivial, rfl⟩
  rename_i hkernel
  refine wp_seq (lgIsPermissive_wp hlevel hheld) ?_
  rintro permissive _ ⟨now, hanswer, rfl⟩
  cases permissive with
  | true =>
    refine ⟨hnobody, now, ?_⟩
    simp only [Lockguard.lgPreProcessHandle, if_neg hprocess, if_neg hkernel, ← hanswer, if_true]
    exact ⟨trivial, rfl⟩
  | false =>
    simp only [Bool.false_eq_true, if_false]
    refine wp_seq (lgPidIsProtected_wp (by simpa using hirql) t) ?_
    rintro protectedProc _ ⟨rfl, target, rfl⟩
    have hpure := Lockguard.lgPreProcessHandle.eq_1 t ⟨isProcess, kernelHandle, operation, target, desiredAccess⟩ now s.driver
    simp only [if_neg hprocess, if_neg hkernel, ← hanswer, Bool.false_eq_true, if_false] at hpure
    split
    · rename_i hfree
      refine ⟨target, now, ?_⟩
      rw [hpure, if_pos hfree]
      exact ⟨rfl, rfl⟩
    rename_i hguarded
    rw [if_neg hguarded] at hpure
    refine wp_seq (Q := fun _ s' => s' = s.runs (Lockguard.lgPreProcessHandle t
      ⟨isProcess, kernelHandle, operation, target, desiredAccess⟩ now s.driver).driver) ?_ ?_
    · rw [hpure]
      by_cases hdenied : (if operation = .other then 0 else desiredAccess &&& procDeniedMask) = 0
      · rw [if_neg (not_not.2 hdenied), if_pos hdenied]
        rfl
      · rw [if_pos hdenied, if_neg hdenied]
        exact lgRecordTamperEvent_wp (by simpa using hlevel) (by simpa using hlevel) _
    · rintro ⟨⟩ _ rfl
      exact ⟨target, now, by rw [hpure], rfl⟩

/-! ## The registry callback -/

theorem keyNameStartsWith_wp (htext : s.irql ≤ rules.text) (name pfx : UnicodeString) :
    (keyNameStartsWith name pfx).wp (contract hmac t rules)
      (fun r s' => s' = s ∧ r = Lockguard.keyNameStartsWith t name pfx) s := by
  unfold keyNameStartsWith Lockguard.keyNameStartsWith
  by_cases hshort : name.length < pfx.length
  · rw [if_pos hshort, if_pos hshort]
    exact ⟨rfl, rfl⟩
  · rw [if_neg hshort, if_neg hshort]
    exact windowEquals_wp htext _ _

theorem lgKeyNameMatchesAny_wp (htext : s.irql ≤ rules.text) (name : Option UnicodeString) :
    (lgKeyNameMatchesAny name).wp (contract hmac t rules)
      (fun r s' => s' = s ∧ r = Lockguard.lgKeyNameMatchesAny t name) s := by
  cases name with
  | none => exact ⟨rfl, rfl⟩
  | some name =>
    exact anyM_wp fun pfx _ => keyNameStartsWith_wp htext name (rtlInitUnicodeString pfx)

/-- The machine with these names of keys besides. -/
def Machine.leaves (s : Machine) (names : List Nat) : Machine := { s with objects := names.map .keyName ++ s.objects }

section
variable (s : Machine) (names : List Nat)

@[simp] theorem leaves_irql : (s.leaves names).irql = s.irql := rfl
@[simp] theorem leaves_held : (s.leaves names).held = s.held := rfl
@[simp] theorem leaves_driver : (s.leaves names).driver = s.driver := rfl
@[simp] theorem leaves_nil : s.leaves [] = s := rfl

end

/-- **`LgResolveKeyName` leaves the name it got**: it hands on the header, and drops the pointer. -/
theorem lgResolveKeyName_wp (hirql : s.irql ≤ apcLevel) : lgResolveKeyName.wp (contract hmac t rules) (fun r s' =>
    ∃ names obj, names.length ≤ 1 ∧ s' = s.leaves names ∧
      ntSuccess r.1 = ntSuccess (Lockguard.lgResolveKeyName obj).1 ∧
      Lockguard.lgKeyNameMatchesAny t r.2 = Lockguard.lgKeyNameMatchesAny t (Lockguard.lgResolveKeyName obj).2) s := by
  refine wp_next hirql trivial ?_
  rintro probe s ⟨-, rfl⟩
  refine wp_next hirql trivial fun r s1 hpost => ?_
  have hpost : handsOutName s .keyName r s1 := hpost
  obtain ⟨status, rfl, rfl⟩ | ⟨status, serial, header, hok, rfl, rfl⟩ := handsOutName_cases hpost
  · refine wp_ite (fun hfail => ?_) fun hok => ?_
    all_goals exact ⟨[], ⟨status, none⟩, by simp, rfl, by simp [Lockguard.lgResolveKeyName], by simp [Lockguard.lgResolveKeyName]⟩
  · simp only [hok, Bool.not_true, Bool.false_eq_true, if_false]
    refine ⟨[serial], ⟨status, header⟩, Nat.le_refl _, rfl, ?_⟩
    cases header <;> simp [Lockguard.lgResolveKeyName, hok]

theorem lgFreeKeyName_wp (hirql : s.irql ≤ apcLevel) (hstray : rules.stray = true) (fullName : Option UnicodeString) :
    (lgFreeKeyName fullName).wp (contract hmac t rules) (fun _ s' => s' = s) s := by
  refine wp_ite (fun _ => wp_last hirql hstray ?_) fun _ => rfl
  rintro ⟨⟩ s' hpost
  exact hpost

/-- The classes that go on are those the switch of `RegCb` takes. -/
theorem regReason_isSome (klass : Nat) : (regReason klass).isSome = true ↔ klass = regNtPreSetValueKey ∨
    klass = regNtPreDeleteValueKey ∨ klass = regNtPreDeleteKey ∨ klass = regNtPreRenameKey := by
  unfold regReason
  split_ifs <;> simp [*]

/-- The notification, where the calls about its object answer so; of `Argument2` the rest is in it. -/
def notificationOf (argument1 : Nat) (argument2 : Option Bool) (obj : KeyObject) : RegNotification :=
  ⟨argument1, argument2.map fun object => ⟨if object then some obj else none⟩⟩

/-- What is let through before a name is looked up. -/
theorem registryCallback_through {argument1 : Nat} {argument2 : Option Bool}
    (h : argument1 = 0 ∨ regReason argument1 = none ∨ argument2 ≠ some true) (t : CaseTables) (obj : KeyObject)
    (now : SysTime) (d : Driver) :
    Lockguard.lgRegistryCallback t (notificationOf argument1 argument2 obj) now d = ⟨statusSuccess, d, []⟩ := by
  refine registryCallback_unguarded ?_ now d
  rintro ⟨hclass, key, hkey, -⟩
  have hclass : argument1 = regNtPreSetValueKey ∨ argument1 = regNtPreDeleteValueKey ∨ argument1 = regNtPreRenameKey := hclass
  rcases h with rfl | hreason | hobject
  · simp [regNtPreSetValueKey, regNtPreDeleteValueKey, regNtPreRenameKey] at hclass
  · have hgoes := (regReason_isSome argument1).2 (by tauto)
    rw [hreason] at hgoes
    cases hgoes
  · rcases argument2 with _ | _ | _
    · simp [notificationOf] at hkey
    · simp [notificationOf] at hkey
    · exact hobject rfl

/-- **`LgRegistryCallback` leaves a name**, at most one, and releases its own copy. -/
theorem lgRegistryCallback_wp (hirql : s.irql = passiveLevel) (hheld : s.held = none) (hstray : rules.stray = true)
    (argument1 : Nat) (argument2 : Option Bool) :
    (lgRegistryCallback argument1 argument2).wp (contract hmac t rules) (fun r s' => ∃ names obj now, names.length ≤ 1 ∧
      r = (Lockguard.lgRegistryCallback t (notificationOf argument1 argument2 obj) now s.driver).value ∧
      s' = (s.runs (Lockguard.lgRegistryCallback t (notificationOf argument1 argument2 obj) now s.driver).driver).leaves names)
      s := by
  have hlevel : ∀ {n}, s.irql ≤ n := by simp [hirql, passiveLevel]
  have hthrough : ∀ names obj, names.length ≤ 1 →
      Lockguard.lgRegistryCallback t (notificationOf argument1 argument2 obj) .zero s.driver = ⟨statusSuccess, s.driver, []⟩ →
      ∃ names' obj now, names'.length ≤ 1 ∧
        statusSuccess = (Lockguard.lgRegistryCallback t (notificationOf argument1 argument2 obj) now s.driver).value ∧
        s.leaves names = (s.runs (Lockguard.lgRegistryCallback t (notificationOf argument1 argument2 obj) now
          s.driver).driver).leaves names' := by
    intro names obj hnames hpure
    refine ⟨names, obj, .zero, hnames, ?_⟩
    rw [hpure]
    exact ⟨rfl, rfl⟩
  have hquiet := fun h => hthrough [] ⟨statusNotFound, none⟩ (by simp) (registryCallback_through h t _ _ _)
  refine wp_ite (fun hzero => hquiet (Or.inl hzero)) fun hzero => ?_
  cases hreason : regReason argument1 with
  | none => exact hquiet (Or.inr (Or.inl hreason))
  | some reason =>
    have hswitch := (regReason_isSome argument1).1 (by rw [hreason]; rfl)
    refine wp_ite (fun hobject => hquiet (Or.inr (Or.inr hobject))) fun hobject => ?_
    obtain rfl := not_not.1 hobject
    refine wp_seq (lgResolveKeyName_wp hlevel) ?_
    rintro ⟨status, fullName⟩ _ ⟨names, obj, hnames, rfl, hstatus, hmatch⟩
    have hpure : ∀ now, Lockguard.lgRegistryCallback t (notificationOf argument1 (some true) obj) now s.driver =
        if !ntSuccess status then ⟨statusSuccess, s.driver, []⟩
        else if !Lockguard.lgKeyNameMatchesAny t fullName then ⟨statusSuccess, s.driver, []⟩
        else Lockguard.unlessPermissive now statusSuccess statusAccessDenied s.driver := by
      intro now
      simp only [Lockguard.lgRegistryCallback, notificationOf, if_neg hzero, if_pos hswitch, Option.map_some,
        Option.bind_some, if_true, hstatus, hmatch]
    refine wp_ite (fun hfail => hthrough names obj hnames ?_) fun hok => ?_
    · rw [hpure, if_pos hfail]
    refine wp_seq (lgKeyNameMatchesAny_wp (by simpa using hlevel) fullName) ?_
    rintro deny _ ⟨rfl, hdeny⟩
    refine wp_seq (lgFreeKeyName_wp (by simpa using hlevel) hstray fullName) ?_
    rintro ⟨⟩ _ rfl
    refine wp_ite (fun hmiss => hthrough names obj hnames ?_) fun hhit => ?_
    · rw [hpure, if_neg hok, ← hdeny, if_pos hmiss]
    refine wp_mono (unlessPermissive_wp (by simpa using hlevel) (by simpa using hlevel) (by simpa using hheld) _ _ _) ?_
    rintro r _ ⟨now, rfl, rfl⟩
    refine ⟨names, obj, now, hnames, ?_⟩
    rw [hpure, if_neg hok, ← hdeny, if_neg hhit]
    exact ⟨rfl, rfl⟩

end

end Lockguard.Ke
