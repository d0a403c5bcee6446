import Lockguard.PasswordChange
/-!
# The right password always recovers

`Recovery.Ready` is what a client needs of the driver: the verifier of the record loaded, or none
and the next attempt to load one due. Whatever requests came before, a client that has the password
of the record then opens the window (`recover_opens`), and one that has another password stops
before it opens the device.

The requests before leave no trace but the time of the last attempt (`handle_recovery`), which is a
clock reading, so that the wrapped difference `LgRecoveryTryReload` takes is the exact one.
-/
namespace Lockguard

open Runs

/-! ## Attempts to load the record -/

/-- `gVerifierLastRetry` is a clock reading, or the 0 it started with. -/
def Recovery.Stamped (r : Recovery) : Prop := 0 ≤ r.gVerifierLastRetry ∧ r.gVerifierLastRetry < 2 ^ 63

/-- The next attempt to load the record is due at `now`. -/
def Recovery.ReloadDue (now : SysTime) (r : Recovery) : Prop :=
  r.gVerifierLastRetry = 0 ∨ lgVerifierRetryInterval100ns ≤ now.quadPart - r.gVerifierLastRetry

def Recovery.Ready (v : Bytes32) (now : SysTime) (r : Recovery) : Prop :=
  r.loadedVerifier = some v ∨ (r.gVerifierLoaded = false ∧ r.ReloadDue now)

/-- The test of `LgRecoveryTryReload` on the time of the last attempt is exact: it takes no difference
that wraps. -/
theorem reloadDue_iff {r : Recovery} (hs : r.Stamped) (now : SysTime) :
    ¬ (r.gVerifierLastRetry ≠ 0 ∧ long64 (now.quadPart - r.gVerifierLastRetry) < lgVerifierRetryInterval100ns) ↔
      r.ReloadDue now := by
  have hnow := now.lt
  have hnow' := now.nonneg
  obtain ⟨hs0, hs1⟩ := hs
  rw [long64_eq (by omega) (by omega), not_and_or, not_ne_iff, Int.not_lt, Recovery.ReloadDue]

section
variable {r : Recovery} {now : SysTime}

theorem loadVerifier_lastRetry (reads : RecoveryReads) (r : Recovery) :
    (lgRecoveryLoadVerifier reads r).2.gVerifierLastRetry = r.gVerifierLastRetry := by
  unfold lgRecoveryLoadVerifier
  split
  · rfl
  · split
    · rfl
    · simp only
      split
      · rfl
      · split
        · rfl
        · split <;> rfl

theorem Recovery.Stamped.tryReload (h : r.Stamped) (irql : Nat) (now : SysTime) (reads : RecoveryReads) :
    (lgRecoveryTryReload irql now reads r).Stamped := by
  unfold lgRecoveryTryReload
  split
  · exact h
  · split
    · exact h
    · simp only
      split
      · exact h
      · have hstamp :
            (lgRecoveryLoadVerifier reads { r with gVerifierLastRetry := now.quadPart }).2.gVerifierLastRetry =
              now.quadPart := loadVerifier_lastRetry _ _
        unfold Recovery.Stamped
        rw [hstamp]
        exact ⟨now.nonneg, now.lt⟩

/-- **In every reachable state** the last attempt has a clock reading's time. -/
theorem driver_stamped (hmac : Hmac) (t : CaseTables) (boot : RecoveryReads) (es : List Event) :
    (final (driverStep hmac t) (driverEntry boot) es).recovery.Stamped := by
  refine inv (driverStep hmac t) (I := fun _ d => d.recovery.Stamped) ?_ (fun _ d e h => ?_) es
  · have hboot : (driverEntry boot).recovery.gVerifierLastRetry = 0 := loadVerifier_lastRetry boot .boot
    unfold Recovery.Stamped
    rw [hboot]
    exact ⟨by omega, by omega⟩
  · rcases handle_recovery hmac t d e with hsame | ⟨irql, now, reads, hload⟩
    · unfold driverStep
      rw [hsame]
      exact h
    · unfold driverStep
      rw [hload]
      exact h.tryReload irql now reads

/-- A driver that is ready holds the verifier once a `GET_NONCE` has come. -/
theorem Recovery.Ready.reloaded {v : Bytes32} (h : r.Ready v now) (hs : r.Stamped) (salt : Bytes32) (iter : Nat) :
    (lgRecoveryTryReload 0 now (recordOf salt iter v).reads r).loadedVerifier = some v := by
  rcases h with hv | ⟨hl, hdue⟩
  · exact tryReload_keeps hv _ _ _
  · have hgo := (reloadDue_iff hs now).2 hdue
    have hpassive : ¬ 0 > 0 := by omega
    simp only [lgRecoveryTryReload, hl, Bool.false_eq_true, if_false, if_neg hpassive, if_neg hgo]
    exact recordOf_reads salt v iter _

end

/-! ## Both clients -/

section
variable {hmac : Hmac} {m : Machine} {k : ClientKernel}

/-- An exit that enters the window leaves it open. -/
theorem unlockFinish_permissive {irp : Irp} {k : Kernel} {d : Driver} {x : UnlockExit}
    (h : ∃ now, .entered now ∈ (unlockFinish irp k d x).calls) :
    (unlockFinish irp k d x).driver.window.gPermissive = true := by
  have hx : x = .granted := unlockFinish_entered.1 h
  subst hx
  rfl

theorem unlockDriver_permissive {derived : Bytes32} (hr : ntSuccess k.getNonce.random.status = true)
    (h : (unlockDriver hmac derived k m).OpensWindow) :
    (unlockDriver hmac derived k m).machine.driver.window.gPermissive = true := by
  rw [unlockDriver_of_nonce (getNonceCall_ok hr), unlockCall_eq] at h ⊢
  exact unlockFinish_permissive h

/-- The client entered the window and left it open. -/
def ClientRun.Unlocks (r : ClientRun) : Prop := r.OpensWindow ∧ r.machine.driver.window.gPermissive = true

/-- The client ended with a wrong password, having sent nothing: the machine is as it was. -/
def ClientRun.StopsAtOnce (r : ClientRun) (m : Machine) : Prop := r = ⟨.error .wrongPassword, m, []⟩

theorem unlockDriver_unlocks (hk : k.Undisturbed) {derived : Bytes32}
    (hv : (k.reloaded m).loadedVerifier = some (verifierOf hmac derived)) :
    (unlockDriver hmac derived k m).Unlocks := by
  have hopens : (unlockDriver hmac derived k m).OpensWindow := (unlockDriver_opens_iff hk derived).2 hv
  exact ⟨hopens, unlockDriver_permissive hk.bcrypt.1.1 hopens⟩

/-- **The right password opens the window and a wrong one changes nothing.** After any run of the
driver, with a record for `p` in the registry that the driver holds or is about to load, each client
opens the window with `p` when nothing disturbs its two requests; with a password whose verifier
under the record is another, each stops before it opens the device. -/
theorem recover_opens (hmac : Hmac) (pbkdf2 : Pbkdf2) (t : CaseTables) {ps : PowerShell} (hps : ps.ReadsRegistry)
    (boot : RecoveryReads) (es : List Event) (p : Password) (salt : Bytes32) (iter : Nat) (hpos : 1 ≤ iter)
    (hiter : iter ≤ 2 ^ 31 - 1) :
    let v := verifierOf hmac (pbkdf2 p salt.toList iter)
    let m : Machine := ⟨final (driverStep hmac t) (driverEntry boot) es, recordOf salt iter v⟩
    (∀ k : ClientKernel, k.Undisturbed → m.driver.recovery.Ready v k.getNonce.retryTime →
      (doRecover hmac pbkdf2 p k m).Unlocks ∧
      ∀ pw, ps.utf8 pw = p → (recoverLockguard ps hmac pbkdf2 pw k m).Unlocks) ∧
    (∀ (q : Password) (k : ClientKernel), verifierOf hmac (pbkdf2 q salt.toList iter) ≠ v →
      (doRecover hmac pbkdf2 q k m).StopsAtOnce m ∧
      ∀ pw, ps.utf8 pw = q → (recoverLockguard ps hmac pbkdf2 pw k m).StopsAtOnce m) := by
  intro v m
  have hgo : ∀ pw, checkPassword hmac pbkdf2 m.key pw = _ := checkPassword_recordOf (by omega)
  have hscript : ∀ pw, ps.checkPassword hmac pbkdf2 m.key pw = _ :=
    ps.checkPassword_recordOf hps (by omega) (by omega)
  constructor
  · intro k hk hready
    have hloaded : (k.reloaded m).loadedVerifier = some v := by
      rw [ClientKernel.reloaded, hk.passive]
      exact hready.reloaded (driver_stamped hmac t boot es) salt iter
    have hunlocks : (unlockDriver hmac (pbkdf2 p salt.toList iter) k m).Unlocks := unlockDriver_unlocks hk hloaded
    constructor
    · rw [doRecover, hgo, if_pos rfl]
      exact hunlocks
    · rintro pw rfl
      rw [recoverLockguard, hscript, if_pos rfl]
      exact hunlocks
  · intro q k hq
    constructor
    · rw [doRecover, hgo, if_neg hq]
      rfl
    · rintro pw rfl
      rw [recoverLockguard, hscript, if_neg hq]
      rfl

end

namespace Worked

theorem ps_readsRegistry : ps.ReadsRegistry where
  binary bs := rfl
  dword n hn := by
    have hread : leNat (leBytes 4 n) = n := leNat_leBytes (by omega)
    show some (leNat (leBytes 4 n) : Int) = some (n : Int)
    rw [hread]

/-- The recovery key cannot be opened yet. -/
def readsMissing : RecoveryReads := { reads with openKey := statusObjectNameNotFound }

/-- An `UNLOCK` that no `GET_NONCE` came before, and a `GET_NONCE` that loads nothing. -/
def attempts : List Event :=
  [.ioctl lgIoctlUnlock unlockIrp (kernel (time 0)),
    .ioctl lgIoctlGetNonce nonceIrp { kernel (time 100) with reads := readsMissing }]

/-- The machine after these, with the record of the new password. -/
def attempted : Machine :=
  ⟨final (driverStep hmacTable .ascii) (driverEntry readsMissing) attempts,
    recordOf (Vector.replicate 32 6) newIter
      (verifierOf hmacTable (pbkdf2Table newPassword (Vector.replicate 32 6 : Bytes32).toList newIter))⟩

end Worked

open Worked in
/-- Fifty seconds after a failed load the right password opens the window, and the other one stops. -/
theorem recover_opens_after_attempts :
    (doRecover hmacTable pbkdf2Table newPassword (clientKernel (time 600)) attempted).Unlocks ∧
    (recoverLockguard ps hmacTable pbkdf2Table (wide "Battery-Staple-2") (clientKernel (time 600)) attempted).Unlocks ∧
    (doRecover hmacTable pbkdf2Table oldPassword (clientKernel (time 600)) attempted).StopsAtOnce attempted := by
  obtain ⟨hright, hwrong⟩ := recover_opens hmacTable pbkdf2Table .ascii ps_readsRegistry
    readsMissing attempts newPassword (Vector.replicate 32 6) newIter (by decide) (by decide)
  have hready : attempted.driver.recovery.Ready (verifierOf hmacTable
      (pbkdf2Table newPassword (Vector.replicate 32 6 : Bytes32).toList newIter)) (time 600) := by
    refine Or.inr ⟨by decide +kernel, Or.inr ?_⟩
    decide +kernel
  obtain ⟨hgo, hscript⟩ := hright (clientKernel (time 600)) (clientKernel_undisturbed _) hready
  refine ⟨hgo, hscript _ (by decide +kernel), ?_⟩
  exact (hwrong oldPassword _ (different _ _ _ _)).1

end Lockguard
