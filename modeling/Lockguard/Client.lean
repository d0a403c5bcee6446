import Lockguard.Driver
/-!
# The recovery client (`main.go`) and the registry record both sides read

| here | there |
| --- | --- |
| `RecoveryKey`              | the values under `HKLM\SYSTEM\Lockguard\Recovery` |
| `zwQueryValueKey`          | what the driver's reads of them are answered |
| `readRecoveryRegistry`     | `readRecoveryRegistry` (`main.go:301-324`) |
| `deviceIoControl`          | `DeviceIoControl`: an error unless the status is a success |
| `doRecover`                | `doRecover` (`main.go:79-131`), the password typed in and the device open |

PBKDF2 is a parameter, as HMAC is: a function of the password, the salt and the iterations.
-/
namespace Lockguard

abbrev Password := Bytes

/-- PBKDF2-HMAC-SHA256 with a key of 32 bytes. -/
abbrev Pbkdf2 := Password → Bytes → Nat → Bytes32

/-! ## The registry record -/

structure RecoveryKey where
  installSalt : Option RegValue
  iterations : Option RegValue
  verifier : Option RegValue
deriving DecidableEq

/-- `ZwQueryValueKey` with room for `room` bytes of data. -/
def zwQueryValueKey (v : Option RegValue) (room : Nat) : RegQuery :=
  match v with
  | none => ⟨statusObjectNameNotFound, ⟨0, []⟩⟩
  | some v => if room < v.data.length then ⟨statusBufferOverflow, v⟩ else ⟨statusSuccess, v⟩

/-- The driver's reads: its buffers hold the 12 bytes of the header and the data. -/
def RecoveryKey.reads (key : RecoveryKey) : RecoveryReads where
  openKey := statusSuccess
  installSalt := zwQueryValueKey key.installSalt (512 - 12)
  iterations := zwQueryValueKey key.iterations (64 - 12)
  verifier := zwQueryValueKey key.verifier (512 - 12)

inductive ClientError where
  | readRegistry
  | wrongPassword
  | getNonce
  | unlock
  | newPassword
  | random
  | openRegistry
  | write (value : String)
deriving DecidableEq

/-- `GetBinaryValue`. -/
def getBinaryValue (v : Option RegValue) : Option Bytes :=
  v.bind fun v => if v.type = regBinary then some v.data else none

/-- `GetIntegerValue`: a `REG_DWORD` or a `REG_QWORD`. -/
def getIntegerValue (v : Option RegValue) : Option Nat :=
  v.bind fun v =>
    if v.type = regDword ∧ v.data.length = 4 ∨ v.type = regQword ∧ v.data.length = 8 then
      some (leNat v.data)
    else none

structure ClientRecord where
  salt : Bytes
  iter : ULONG
  verifier : Bytes

def readRecoveryRegistry (key : RecoveryKey) : Except ClientError ClientRecord :=
  match getBinaryValue key.installSalt, getIntegerValue key.iterations, getBinaryValue key.verifier with
  | some salt, some v, some verifier =>
    if verifier.length ≠ lgVerifierLen then .error .readRegistry
    else .ok ⟨salt, UInt32.ofNat v, verifier⟩
  | _, _, _ => .error .readRegistry

/-- A record as its writers leave it: a binary salt, a DWORD count, a binary verifier. -/
def recordOf (salt : Bytes32) (iter : Nat) (verifier : Bytes32) : RecoveryKey where
  installSalt := some ⟨regBinary, salt.toList⟩
  iterations := some ⟨regDword, leBytes 4 iter⟩
  verifier := some ⟨regBinary, verifier.toList⟩

theorem copyInto_toList (dst src : Bytes32) : copyInto dst src.toList = src := by
  ext i hi
  simp [copyInto]

/-- The driver loads a record whatever it held before. -/
theorem recordOf_reads (salt v : Bytes32) (iter : Nat) (r : Recovery) :
    (lgRecoveryLoadVerifier (recordOf salt iter v).reads r).2.loadedVerifier = some v := by
  simp [lgRecoveryLoadVerifier, RecoveryKey.reads, recordOf, zwQueryValueKey, lgReadRegBytes, lgReadRegDword,
    checked, bind, Except.bind, lgSaltMaxLen, lgVerifierLen, Recovery.loadedVerifier, copyInto_toList]

/-! ## Requests -/

/-- The I/O manager's verdict on a status. -/
def deviceIoControl (s : NTSTATUS) : Bool := ntSuccess s

/-- The machine: the driver as it runs, and the registry. -/
structure Machine where
  driver : Driver
  key : RecoveryKey

/-- What the kernel answers, the registry being `key`. -/
def Kernel.reading (k : Kernel) (key : RecoveryKey) : Kernel := { k with reads := key.reads }

/-- What a client run leaves: its error or success, the machine, the calls made to the window. -/
structure ClientRun where
  result : Except ClientError Unit
  machine : Machine
  calls : List WindowCall

/-- What a `DeviceIoControl` call leaves, with the calls the driver made to the window. -/
structure IoctlRun where
  status : NTSTATUS
  irp : Irp
  machine : Machine
  calls : List WindowCall

def Machine.ioctl (hmac : Hmac) (m : Machine) (code : ULONG) (irp : Irp) (k : Kernel) : IoctlRun :=
  let r := lgDispatchDeviceControl hmac code irp (k.reading m.key) m.driver
  ⟨r.value.1, r.value.2, { m with driver := r.driver }, r.calls⟩

/-- `ioctlGetNonceCall` (`:381-392`). -/
def ioctlGetNonceCall (hmac : Hmac) (k : Kernel) (m : Machine) : Except ClientError Bytes32 × Machine :=
  let r := m.ioctl hmac lgIoctlGetNonce nonceIrp k
  if !deviceIoControl r.status then (.error .getNonce, r.machine)
  else if r.irp.information ≠ lgNonceLen then (.error .getNonce, r.machine)
  else (.ok (bytesAt 32 r.irp.systemBuffer 0), r.machine)

/-- The request `ioctlUnlockCall` sends. -/
def unlockRequestIrp (response derivedKey : Bytes32) : Irp :=
  ⟨64, 0, response.toList ++ derivedKey.toList, 0, by simp⟩

/-- `ioctlUnlockCall` (`:394-404`). -/
def ioctlUnlockCall (hmac : Hmac) (response derivedKey : Bytes32) (k : Kernel) (m : Machine) :
    ClientRun :=
  let r := m.ioctl hmac lgIoctlUnlock (unlockRequestIrp response derivedKey) k
  ⟨if deviceIoControl r.status then .ok () else .error .unlock, r.machine, r.calls⟩

/-! ## `doRecover` -/

/-- What the clock and the kernel answer to the two requests of a client. -/
structure ClientKernel where
  getNonce : Kernel
  unlock : Kernel

/-- The challenge and response with a derived key (`:104-125`, `:187-204`). -/
def unlockDriver (hmac : Hmac) (derived : Bytes32) (k : ClientKernel) (m : Machine) : ClientRun :=
  let r := ioctlGetNonceCall hmac k.getNonce m
  match r.1 with
  | .error e => ⟨.error e, r.2, []⟩
  | .ok nonce => ioctlUnlockCall hmac (hmac derived.toList nonce.toList) derived k.unlock r.2

/-- `mac.Sum` over the label, the verifier of a derived key. -/
def verifierOf (hmac : Hmac) (derived : Bytes32) : Bytes32 := hmac derived.toList lgVerifierLabel

/-- The check of a password against the registry (`:80-102`, `:164-183`): the derived key. -/
def checkPassword (hmac : Hmac) (pbkdf2 : Pbkdf2) (key : RecoveryKey) (pw : Password) :
    Except ClientError Bytes32 :=
  match readRecoveryRegistry key with
  | .error e => .error e
  | .ok rec =>
    let derived := pbkdf2 pw rec.salt rec.iter.toNat
    if (verifierOf hmac derived).toList ≠ rec.verifier then .error .wrongPassword else .ok derived

theorem checkPassword_recordOf {hmac : Hmac} {pbkdf2 : Pbkdf2} {salt v : Bytes32} {iter : Nat} (hiter : iter < 2 ^ 32)
    (pw : Password) : checkPassword hmac pbkdf2 (recordOf salt iter v) pw =
      if verifierOf hmac (pbkdf2 pw salt.toList iter) = v then .ok (pbkdf2 pw salt.toList iter)
      else .error .wrongPassword := by
  have hword : (UInt32.ofNat iter).toNat = iter := UInt32.toNat_ofNat_of_lt' hiter
  have hread : readRecoveryRegistry (recordOf salt iter v) = .ok ⟨salt.toList, UInt32.ofNat iter, v.toList⟩ := by
    simp [readRecoveryRegistry, recordOf, getBinaryValue, getIntegerValue, leNat_leBytes hiter, lgVerifierLen]
  simp only [checkPassword, hread, hword, ne_eq, Vector.toList_inj]
  split <;> simp_all

/-- A recovery once the password has been checked: a wrong one never reaches the driver. -/
def recoverWith (hmac : Hmac) (checked : Except ClientError Bytes32) (k : ClientKernel) (m : Machine) : ClientRun :=
  match checked with
  | .error e => ⟨.error e, m, []⟩
  | .ok derived => unlockDriver hmac derived k m

def doRecover (hmac : Hmac) (pbkdf2 : Pbkdf2) (pw : Password) (k : ClientKernel) (m : Machine) : ClientRun :=
  recoverWith hmac (checkPassword hmac pbkdf2 m.key pw) k m

/-- `doRecover` prints `Unlocked`. -/
def ClientRun.printsUnlocked (r : ClientRun) : Prop := r.result = .ok ()

/-- The run entered the permissive window. -/
def ClientRun.OpensWindow (r : ClientRun) : Prop := ∃ now, .entered now ∈ r.calls

/-! ## What the two requests of a client do -/

/-- An exit without a grant leaves the window as it was. -/
theorem unlockFinish_window {irp : Irp} {k : Kernel} {d : Driver} {x : UnlockExit} (hx : x ≠ .granted) :
    (unlockFinish irp k d x).driver.window = d.window := by
  cases x with
  | granted => exact absurd rfl hx
  | _ => rfl

@[simp] theorem nonceTake_issue (nonce : Bytes32) (now : SysTime) (s : NonceSlot) :
    (nonceTake (nonceIssue nonce now s)).1 = some (nonce, now) := rfl

theorem unlockFinish_entered {irp : Irp} {k : Kernel} {d : Driver} {x : UnlockExit} :
    (∃ now, .entered now ∈ (unlockFinish irp k d x).calls) ↔ x = .granted := by
  cases x <;> simp [unlockFinish]

section
variable {hmac : Hmac} {k : ClientKernel} {m : Machine} {derived : Bytes32}

theorem bytesAt_append_left (a b : Bytes32) : bytesAt 32 (a.toList ++ b.toList) 0 = a := by
  ext i hi
  simp only [bytesAt, Vector.getElem_ofFn, List.getD_eq_getElem?_getD, Nat.zero_add]
  rw [List.getElem?_append_left (by simpa using hi)]
  simp [hi]

theorem bytesAt_append_right (a b : Bytes32) : bytesAt 32 (a.toList ++ b.toList) 32 = b := by
  ext i hi
  simp only [bytesAt, Vector.getElem_ofFn, List.getD_eq_getElem?_getD]
  rw [List.getElem?_append_right (by simp)]
  simp [hi]

/-- The driver reads the request as the client wrote it. -/
@[simp] theorem unlockRequestIrp_request (response derivedKey : Bytes32) :
    (unlockRequestIrp response derivedKey).unlockRequest = ⟨response, derivedKey⟩ := by
  simp only [Irp.unlockRequest, unlockRequestIrp, bytesAt_append_left, bytesAt_append_right]

/-- The client reads the nonce as the driver wrote it. -/
theorem getNonceReply_nonce (nonce : Bytes32) :
    bytesAt 32 (getNonceReply nonce nonceIrp).systemBuffer 0 = nonce := by
  ext i hi
  have hn : i < nonce.toList.length := by simpa using hi
  simp only [bytesAt, getNonceReply, Irp.store, nonceIrp, overlay, Vector.getElem_ofFn,
    List.getD_eq_getElem?_getD, Nat.zero_add, List.getElem?_mapIdx]
  simp [hi]

/-- The driver's verifier once a `GET_NONCE` of the client has tried to load it. -/
def ClientKernel.reloaded (k : ClientKernel) (m : Machine) : Recovery :=
  lgRecoveryTryReload k.getNonce.irql k.getNonce.retryTime m.key.reads m.driver.recovery

/-- Where the `UNLOCK` of the client leaves the handler. -/
def ClientKernel.exit (hmac : Hmac) (derived : Bytes32) (k : ClientKernel) (m : Machine) : UnlockExit :=
  unlockExit hmac (some (k.getNonce.random.bytes, k.getNonce.now)) (k.reloaded m)
    ⟨hmac derived.toList k.getNonce.random.bytes.toList, derived⟩ (k.unlock.reading m.key)

theorem getNonceCall_failed (hr : ntSuccess k.getNonce.random.status = false) :
    ioctlGetNonceCall hmac k.getNonce m =
      (.error .getNonce, { m with driver := { m.driver with recovery := k.reloaded m } }) := by
  have hlen : ¬ nonceIrp.outputBufferLength < lgNonceLen := by decide
  have hrand : lgGenerateRandom k.getNonce.random = .error k.getNonce.random.status := by
    simp [lgGenerateRandom, checked, hr, bind, Except.bind]
  simp [ioctlGetNonceCall, Machine.ioctl, lgHandleGetNonce, getNoncePrepare, hlen, Kernel.reading, hrand,
    deviceIoControl, hr, ClientKernel.reloaded]

theorem getNonceCall_ok (hr : ntSuccess k.getNonce.random.status = true) :
    ioctlGetNonceCall hmac k.getNonce m = (.ok k.getNonce.random.bytes,
      { m with driver := { m.driver with
          recovery := k.reloaded m,
          nonce := nonceIssue k.getNonce.random.bytes k.getNonce.now m.driver.nonce } }) := by
  have hlen : ¬ nonceIrp.outputBufferLength < lgNonceLen := by decide
  have hrand : lgGenerateRandom k.getNonce.random = .ok k.getNonce.random.bytes := by
    simp only [lgGenerateRandom, checked_of_success hr]
    rfl
  simp only [ioctlGetNonceCall, Machine.ioctl, dispatch_getNonce, lgHandleGetNonce, getNoncePrepare, if_neg hlen,
    Kernel.reading, hrand, deviceIoControl, ntSuccess_success, Bool.not_true, Bool.false_eq_true, if_false,
    getNonceReply_nonce]
  rfl

theorem unlockCall_eq (response : Bytes32) (k : Kernel) :
    let r := unlockFinish (unlockRequestIrp response derived) (k.reading m.key)
      { m.driver with nonce := (nonceTake m.driver.nonce).2 }
      (unlockExit hmac (nonceTake m.driver.nonce).1 m.driver.recovery ⟨response, derived⟩ (k.reading m.key))
    ioctlUnlockCall hmac response derived k m =
      ⟨if deviceIoControl r.value.1 then .ok () else .error .unlock, { m with driver := r.driver }, r.calls⟩ := by
  have hlen : sizeofUnlockRequest ≤ (unlockRequestIrp response derived).inputBufferLength := Nat.le_refl 64
  simp only [ioctlUnlockCall, Machine.ioctl, dispatch_unlock, lgHandleUnlock_long hlen, unlockRequestIrp_request]

theorem unlockDriver_of_nonce {nonce : Bytes32} {m' : Machine}
    (h : ioctlGetNonceCall hmac k.getNonce m = (.ok nonce, m')) : unlockDriver hmac derived k m =
      ioctlUnlockCall hmac (hmac derived.toList nonce.toList) derived k.unlock m' := by
  unfold unlockDriver
  rw [h]

theorem unlockDriver_of_error {e : ClientError} {m' : Machine}
    (h : ioctlGetNonceCall hmac k.getNonce m = (.error e, m')) :
    unlockDriver hmac derived k m = ⟨.error e, m', []⟩ := by
  unfold unlockDriver
  rw [h]

/-- **The client's two requests**, nothing coming in between: the verifier is as the `GET_NONCE`
left it, the registry as it was, and the exit decides what opens and what is reported. -/
theorem unlockDriver_spec (hr : ntSuccess k.getNonce.random.status = true) :
    ((unlockDriver hmac derived k m).OpensWindow ↔ k.exit hmac derived m = .granted) ∧
    ((unlockDriver hmac derived k m).printsUnlocked ↔
      k.exit hmac derived m = .granted ∨ k.exit hmac derived m = .staleNonce) ∧
    (unlockDriver hmac derived k m).machine.driver.recovery = k.reloaded m ∧
    (unlockDriver hmac derived k m).machine.key = m.key := by
  rw [unlockDriver_of_nonce (getNonceCall_ok hr), unlockCall_eq]
  simp only [nonceTake_issue]
  refine ⟨?_, ?_, (unlockFinish_keeps _ _ _ _).2, trivial⟩
  · exact unlockFinish_entered
  · have hite : ∀ b : Bool, (if b = true then Except.ok () else .error .unlock) =
        (Except.ok () : Except ClientError Unit) ↔ b = true := fun b => by cases b <;> simp
    exact (hite _).trans (unlockFinish_success _ _ _)

theorem unlockDriver_machine : (unlockDriver hmac derived k m).machine.driver.recovery = k.reloaded m ∧
    (unlockDriver hmac derived k m).machine.key = m.key := by
  cases hr : ntSuccess k.getNonce.random.status with
  | true => exact (unlockDriver_spec hr).2.2
  | false =>
    rw [unlockDriver_of_error (getNonceCall_failed hr)]
    exact ⟨rfl, rfl⟩

end

/-! ## What an `UNLOCK` tells its client -/

/-- The pending nonce is older than `LG_NONCE_TTL_SECONDS`. -/
def NonceStale (s : NonceSlot) (now : SysTime) : Prop :=
  s.gNonceValid = true ∧ ticks lgNonceTtlSeconds < now.quadPart - s.gNonceIssuedAt.quadPart

theorem granted_or_stale_iff {x : UnlockExit} :
    (x = .granted ∨ x = .staleNonce ↔ x = .granted) ↔ ¬ x = .staleNonce := by
  cases x <;> simp

theorem stale_iff {hmac : Hmac} {s : NonceSlot} {r : Recovery} {req : UnlockRequest} {k : Kernel} :
    unlockExit hmac (nonceTake s).1 r req k = .staleNonce ↔ NonceStale s k.now := by
  rw [unlockExit_stale_iff, NonceStale]
  cases hv : s.gNonceValid <;> simp [nonceTake, hv]

/-- An `UNLOCK` is reported as a success exactly when it opened the window, except where the nonce
it took was stale: `STATUS_TIMEOUT` is not an error. -/
theorem unlock_status_iff (hmac : Hmac) (irp : Irp) (k : Kernel) (d : Driver) :
    (deviceIoControl (lgDispatchDeviceControl hmac lgIoctlUnlock irp k d).value.1 = true ↔
      ∃ now, .entered now ∈ (lgDispatchDeviceControl hmac lgIoctlUnlock irp k d).calls) ↔
    ¬ (sizeofUnlockRequest ≤ irp.inputBufferLength ∧ NonceStale d.nonce k.now) := by
  rw [dispatch_unlock, deviceIoControl]
  by_cases hlong : sizeofUnlockRequest ≤ irp.inputBufferLength
  · have hstale : unlockExit hmac (nonceTake d.nonce).1 d.recovery irp.unlockRequest k = .staleNonce ↔
        NonceStale d.nonce k.now := stale_iff
    simp only [lgHandleUnlock_long hlong, hlong, true_and, unlockFinish_success, unlockFinish_entered]
    rw [← hstale]
    exact granted_or_stale_iff
  · have hshort : irp.inputBufferLength < sizeofUnlockRequest := by omega
    simp [lgHandleUnlock, hshort, hlong]

/-- `doRecover` prints `Unlocked` exactly when it opened the window, except where it sent its
`UNLOCK` more than `LG_NONCE_TTL_SECONDS` after its nonce was issued. -/
theorem doRecover_prints_iff (hmac : Hmac) (pbkdf2 : Pbkdf2) (pw : Password) (k : ClientKernel) (m : Machine) :
    ((doRecover hmac pbkdf2 pw k m).printsUnlocked ↔ (doRecover hmac pbkdf2 pw k m).OpensWindow) ↔
    ¬ ∃ derived, checkPassword hmac pbkdf2 m.key pw = .ok derived ∧
      ntSuccess k.getNonce.random.status = true ∧
      ticks lgNonceTtlSeconds < k.unlock.now.quadPart - k.getNonce.now.quadPart := by
  unfold doRecover
  cases hc : checkPassword hmac pbkdf2 m.key pw with
  | error e => simp [recoverWith, ClientRun.printsUnlocked, ClientRun.OpensWindow]
  | ok derived =>
    cases hr : ntSuccess k.getNonce.random.status with
    | false =>
      simp [recoverWith, unlockDriver_of_error (getNonceCall_failed hr), ClientRun.printsUnlocked,
        ClientRun.OpensWindow]
    | true =>
      have hexit : k.exit hmac derived m = .staleNonce ↔
          ticks lgNonceTtlSeconds < k.unlock.now.quadPart - k.getNonce.now.quadPart := by
        rw [ClientKernel.exit, unlockExit_stale_iff]
        simp [Kernel.reading]
      simp only [recoverWith, (unlockDriver_spec hr).1, (unlockDriver_spec hr).2.1]
      rw [granted_or_stale_iff, hexit]
      simp

/-- **What the client is told**, of one request and of a whole recovery. -/
theorem unlock_reported_iff (hmac : Hmac) (pbkdf2 : Pbkdf2) :
    (∀ irp k d, (deviceIoControl (lgDispatchDeviceControl hmac lgIoctlUnlock irp k d).value.1 = true ↔
        ∃ now, .entered now ∈ (lgDispatchDeviceControl hmac lgIoctlUnlock irp k d).calls) ↔
      ¬ (sizeofUnlockRequest ≤ irp.inputBufferLength ∧ NonceStale d.nonce k.now)) ∧
    ∀ pw k m, ((doRecover hmac pbkdf2 pw k m).printsUnlocked ↔ (doRecover hmac pbkdf2 pw k m).OpensWindow) ↔
      ¬ ∃ derived, checkPassword hmac pbkdf2 m.key pw = .ok derived ∧
        ntSuccess k.getNonce.random.status = true ∧
        ticks lgNonceTtlSeconds < k.unlock.now.quadPart - k.getNonce.now.quadPart :=
  ⟨unlock_status_iff hmac, doRecover_prints_iff hmac pbkdf2⟩

/-- A `GET_NONCE`, and its `UNLOCK` 61 s later: success is reported, and the window stays closed. -/
theorem unlock_misreported :
    let d := driverStep Worked.hmac .ascii (driverEntry Worked.reads)
      (.ioctl lgIoctlGetNonce nonceIrp (Worked.kernel (Worked.time 0)))
    let r := lgDispatchDeviceControl Worked.hmac lgIoctlUnlock Worked.unlockIrp (Worked.kernel (Worked.time 610)) d
    r.driver.window.gPermissive = false ∧
      ¬ (deviceIoControl r.value.1 = true ↔ ∃ now, .entered now ∈ r.calls) := by
  intro d r
  have hcalls : r.calls = [] := by decide +kernel
  have hok : deviceIoControl r.value.1 = true := by decide +kernel
  refine ⟨by decide +kernel, ?_⟩
  intro h
  obtain ⟨now, hnow⟩ := h.1 hok
  rw [hcalls] at hnow
  cases hnow

end Lockguard
